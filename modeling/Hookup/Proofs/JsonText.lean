import Hookup.Json.Printer
import Hookup.Json.Reader
import Mathlib.Tactic.Lemma
import Mathlib.Tactic.SplitIfs

/-!
# Written values are read back

The reader takes back what the printer writes, in either layout.  The two meet at three levels.

* `exists_readText` — a string, whatever characters it has: every escape is taken for the character
  that it stands for.
* `readNumber_printNumber` — a number, provided that what follows cannot go on with it (`Ends`).
* **`Printable.readsAs`** — a value at any depth, by induction on the value.  The reader is called
  at most twice for a character that it takes off the text, so twice the length of the written value
  is fuel enough.

`parse?_printAt` says it for whole texts.  The one thing that is asked of a value is that its
fractions consist of digits (`Printable`).
-/

namespace Hookup.Json

/-! ## Strings -/

lemma hexValue?_hexDigit : ∀ n < 16, hexValue? (hexDigit n) = some n := by decide

/-- A character is written with a letter, with its code, or as it stands. -/
lemma escapeChar_cases (c : Char) :
    (∃ letter, escapeChar c = ['\\', letter] ∧ letter ≠ 'u' ∧ shortEscape? letter = some c) ∨
    (c.toNat < 0x20 ∧ escapeChar c =
      ['\\', 'u', '0', '0', hexDigit (c.toNat / 16), hexDigit (c.toNat % 16)]) ∨
    (c ≠ '"' ∧ c ≠ '\\' ∧ 0x20 ≤ c.toNat ∧ escapeChar c = [c]) := by
  have hcode : ∀ n, c.toNat = n → c = Char.ofNat n := fun n h => h ▸ (Char.ofNat_toNat c).symm
  rw [escapeChar]
  split_ifs with hquote hbackslash hcontrol hn hr ht hb hf
  · exact .inl ⟨'"', rfl, by decide, by rw [hquote]; rfl⟩
  · exact .inl ⟨'\\', rfl, by decide, by rw [hbackslash]; rfl⟩
  · exact .inl ⟨'n', rfl, by decide, by rw [hn]; rfl⟩
  · exact .inl ⟨'r', rfl, by decide, by rw [hr]; rfl⟩
  · exact .inl ⟨'t', rfl, by decide, by rw [ht]; rfl⟩
  · exact .inl ⟨'b', rfl, by decide, by rw [hcode 8 hb]; rfl⟩
  · exact .inl ⟨'f', rfl, by decide, by rw [hcode 12 hf]; rfl⟩
  · exact .inr (.inl ⟨hcontrol, rfl⟩)
  · exact .inr (.inr ⟨hquote, hbackslash, Nat.not_lt.1 hcontrol, rfl⟩)

/-- A written character is read as one piece, which stands for it. -/
lemma exists_piece (c : Char) : ∃ piece,
    (∀ rest, readPieces (escapeChar c ++ rest) =
      (readPieces rest).map fun (pieces, after) => (piece :: pieces, after)) ∧
    ∀ pieces, joinPieces (piece :: pieces) = (joinPieces pieces).map (c :: ·) := by
  rcases escapeChar_cases c with ⟨letter, hc, hletter, hshort⟩ | ⟨hcontrol, hc⟩ |
    ⟨hquote, hbackslash, hplain, hc⟩
  · refine ⟨.char c, fun rest => ?_, fun pieces => by rw [joinPieces]⟩
    rw [hc, List.cons_append, List.singleton_append, readPieces, hshort]
    · cases readPieces rest <;> rfl
    · exact fun _ _ _ _ _ hu _ => hletter hu
  · have hcode : hexUnit? '0' '0' (hexDigit (c.toNat / 16)) (hexDigit (c.toNat % 16)) =
        some c.toNat := by
      rw [hexUnit?, hexValue?_hexDigit _ (by omega), hexValue?_hexDigit _ (by omega)]
      show some (((0 * 16 + 0) * 16 + c.toNat / 16) * 16 + c.toNat % 16) = some c.toNat
      congr 1
      omega
    refine ⟨.unit c.toNat, fun rest => ?_, fun pieces => ?_⟩
    · rw [hc]
      simp only [List.cons_append, List.nil_append]
      rw [readPieces, hcode]
      cases readPieces rest <;> rfl
    · have hlow : c.toNat < 0xd800 ∨ 0xdfff < c.toNat := .inl (by omega)
      rw [joinPieces.eq_def]
      simp only [hlow, if_true, Char.ofNat_toNat]
  · refine ⟨.char c, fun rest => ?_, fun pieces => by rw [joinPieces]⟩
    rw [hc, List.singleton_append, readPieces, if_neg (by omega)]
    · cases readPieces rest <;> rfl
    · exact hquote
    · exact fun _ _ _ _ _ h => absurd h hbackslash
    · exact fun _ _ h => absurd h hbackslash

/-- The characters between the quotes are read back, up to the closing quote. -/
lemma exists_readPieces (cs rest : List Char) : ∃ pieces,
    readPieces (cs.flatMap escapeChar ++ '"' :: rest) = some (pieces, rest) ∧
      joinPieces pieces = some cs := by
  induction cs with
  | nil => exact ⟨[], by rw [List.flatMap_nil, List.nil_append, readPieces], by rw [joinPieces]⟩
  | cons c cs ih =>
      obtain ⟨pieces, hread, hjoin⟩ := ih
      obtain ⟨piece, hpiece, hmeans⟩ := exists_piece c
      refine ⟨piece :: pieces, ?_, ?_⟩
      · rw [List.flatMap_cons, List.append_assoc, hpiece, hread, Option.map_some]
      · rw [hmeans, hjoin, Option.map_some]

/-- **A written string is read back**, whatever follows it. -/
theorem exists_readText (text : Option String) : ∃ body, printText text = '"' :: body ∧
    ∀ rest, readText (body ++ rest) = some (text, rest) := by
  cases text with
  | none =>
      refine ⟨['\\', 'u', 'd', '8', '0', '0', '"'], rfl, fun rest => ?_⟩
      simp only [List.cons_append, List.nil_append]
      rw [readText, readPieces, readPieces]
      rfl
  | some s =>
      refine ⟨s.toList.flatMap escapeChar ++ ['"'], rfl, fun rest => ?_⟩
      obtain ⟨pieces, hread, hjoin⟩ := exists_readPieces s.toList rest
      rw [List.append_assoc, List.singleton_append, readText, hread]
      simp only [Option.map_some, hjoin, String.ofList_toList]

/-! ## Numbers -/

/-- Whether a text cannot go on with the digits before it. -/
def EndsDigits (rest : List Char) : Prop := ∀ c ∈ rest.head?, c.isDigit = false

/-- Whether a text cannot go on with the number before it. -/
def Ends (rest : List Char) : Prop :=
  ∀ c ∈ rest.head?, c.isDigit = false ∧ c ≠ '.' ∧ c ≠ 'e' ∧ c ≠ 'E'

lemma Ends.endsDigits {rest : List Char} (h : Ends rest) : EndsDigits rest := fun c hc => (h c hc).1

lemma takeDigits_append {digits rest : List Char} (hdigits : ∀ c ∈ digits, c.isDigit = true)
    (hrest : EndsDigits rest) :
    takeDigits (digits ++ rest) = (digits.map fun c => c.toNat - 48, rest) := by
  have hnone : rest.takeWhile Char.isDigit = [] ∧ rest.dropWhile Char.isDigit = rest := by
    cases rest with
    | nil => exact ⟨rfl, rfl⟩
    | cons c cs =>
        have hc : c.isDigit = false := hrest c rfl
        constructor <;> simp [hc]
  rw [takeDigits, List.takeWhile_append_of_pos hdigits, List.dropWhile_append_of_pos hdigits,
    hnone.1, hnone.2, List.append_nil]

/-- The digits of a number greater than zero do not begin with a zero. -/
lemma head?_toDigits {n : Nat} (hn : 0 < n) : ∀ c ∈ (Nat.toDigits 10 n).head?, c ≠ '0' := by
  have hdigits : ∀ d < 10, 0 < d → d.digitChar ≠ '0' := by decide
  induction n using Nat.strongRecOn with
  | ind n ih =>
      by_cases hsmall : n < 10
      · rw [Nat.toDigits_of_lt_base hsmall, List.head?_singleton]
        rintro c ⟨⟩
        exact hdigits n hsmall hn
      · rw [Nat.toDigits_of_base_le (by omega) (by omega),
          List.head?_append, Option.or_of_isSome (List.isSome_head?.2 Nat.toDigits_ne_nil)]
        exact ih (n / 10) (by omega) (by omega)

lemma digitsValue_toDigits (n : Nat) :
    digitsValue ((Nat.toDigits 10 n).map fun c => c.toNat - 48) = n := by
  rw [digitsValue, List.foldl_map]
  exact Nat.ofDigitChars_ten_toDigits

lemma takeDigits_toDigits (n : Nat) {rest : List Char} (hrest : EndsDigits rest) :
    takeDigits (Nat.toDigits 10 n ++ rest) =
      ((Nat.toDigits 10 n).map fun c => c.toNat - 48, rest) :=
  takeDigits_append (fun _ hc => Nat.isDigit_of_mem_toDigits (by decide) (by decide) hc) hrest

/-- The first digit of a number is a digit. -/
lemma exists_toDigits_eq (n : Nat) : ∃ c cs, Nat.toDigits 10 n = c :: cs ∧ c.isDigit = true := by
  obtain ⟨c, cs, hcs⟩ := List.exists_cons_of_ne_nil (Nat.toDigits_ne_nil (b := 10) (n := n))
  exact ⟨c, cs, hcs, Nat.isDigit_of_mem_toDigits (by decide) (by decide)
    (hcs ▸ List.mem_cons_self)⟩

lemma readWhole_toDigits (n : Nat) {rest : List Char} (hrest : EndsDigits rest) :
    readWhole (Nat.toDigits 10 n ++ rest) = some (n, rest) := by
  rcases Nat.eq_zero_or_pos n with rfl | hn
  · rw [readWhole, takeDigits_toDigits 0 hrest]
    rfl
  have hvalue := digitsValue_toDigits n
  obtain ⟨c, cs, hcs, hdigit⟩ := exists_toDigits_eq n
  have hfirst : c ≠ '0' := head?_toDigits hn c (by rw [hcs]; rfl)
  have hne : c.toNat - 48 ≠ 0 := by
    intro hzero
    have hlow : 48 ≤ c.toNat := (Char.isDigit_iff_toNat.1 hdigit).1
    exact hfirst (Char.toNat_inj.1 (by show c.toNat = 48; omega))
  rw [readWhole, takeDigits_toDigits n hrest]
  rw [hcs, List.map_cons] at hvalue ⊢
  split
  next h => cases h
  next h => exact absurd (List.cons.inj (Prod.mk.inj h).1).1 hne
  next h =>
    obtain ⟨hdigits, hafter⟩ := Prod.mk.inj h
    rw [← hdigits, ← hafter, hvalue]

lemma digitChar_spec : ∀ d < 10, (digitChar d).isDigit = true ∧ (digitChar d).toNat - 48 = d := by
  decide

/-- The fraction of a number as it is written. -/
def fractionText (fraction : List Nat) : List Char :=
  if fraction.isEmpty then [] else '.' :: fraction.map digitChar

/-- The exponent of a number as it is written. -/
def exponentText : Option Int → List Char
  | none => []
  | some e => 'e' :: ((if e < 0 then ['-'] else []) ++ Nat.toDigits 10 e.natAbs)

lemma printNumber_eq (n : JsonNumber) : printNumber n =
    (if n.negative then ['-'] else []) ++
      (Nat.toDigits 10 n.whole ++ (fractionText n.fraction ++ exponentText n.exponent)) := by
  simp only [← List.append_assoc]
  rfl

lemma readFraction_fractionText {fraction : List Nat} (hfraction : ∀ d ∈ fraction, d < 10)
    {rest : List Char} (hrest : EndsDigits rest) (hpoint : ∀ c ∈ rest.head?, c ≠ '.') :
    readFraction (fractionText fraction ++ rest) = some (fraction, rest) := by
  cases fraction with
  | nil =>
      rw [fractionText, List.isEmpty_nil, if_pos rfl, List.nil_append, readFraction.eq_def]
      split
      next => exact absurd rfl (hpoint '.' rfl)
      next => rfl
  | cons d ds =>
      have hdigits : ∀ c ∈ (d :: ds).map digitChar, c.isDigit = true := by
        intro c hc
        obtain ⟨d', hd', rfl⟩ := List.mem_map.1 hc
        exact (digitChar_spec d' (hfraction d' hd')).1
      have hvalues : ((d :: ds).map digitChar).map (fun c => c.toNat - 48) = d :: ds := by
        rw [List.map_map]
        refine (List.map_congr_left fun d' hd' => ?_).trans (List.map_id _)
        exact (digitChar_spec d' (hfraction d' hd')).2
      rw [fractionText, List.isEmpty_cons, if_neg Bool.false_ne_true, List.cons_append,
        readFraction, takeDigits_append hdigits hrest, hvalues]

lemma readSigned_toDigits (negative : Bool) (n : Nat) {rest : List Char} (hrest : EndsDigits rest) :
    readSigned negative (Nat.toDigits 10 n ++ rest) =
      some (some (if negative then -(n : Int) else n), rest) := by
  have hvalue := digitsValue_toDigits n
  obtain ⟨c, cs, hcs, -⟩ := exists_toDigits_eq n
  rw [readSigned, takeDigits_toDigits n hrest]
  rw [hcs, List.map_cons] at hvalue ⊢
  simp only [hvalue]

lemma readExponent_exponentText (exponent : Option Int) {rest : List Char} (hrest : Ends rest) :
    readExponent (exponentText exponent ++ rest) = some (exponent, rest) := by
  rw [readExponent.eq_def]
  cases exponent with
  | none =>
      cases rest with
      | nil => rfl
      | cons c cs =>
          obtain ⟨-, -, he, hE⟩ := hrest c rfl
          simp only [exponentText, List.nil_append]
          rw [if_neg (by simp [he, hE])]
  | some e =>
      simp only [exponentText, List.cons_append, true_or, if_true]
      by_cases hneg : e < 0
      · rw [if_pos hneg]
        simp only [List.cons_append, List.nil_append]
        rw [readSigned_toDigits true _ hrest.endsDigits, if_pos rfl]
        congr 3
        omega
      · have hread := readSigned_toDigits false e.natAbs hrest.endsDigits
        obtain ⟨c, cs, hcs, hdigit⟩ := exists_toDigits_eq e.natAbs
        rw [if_neg hneg, List.nil_append]
        rw [hcs, List.cons_append] at hread ⊢
        split
        next h => cases h; cases hdigit
        next h => cases h; cases hdigit
        next =>
          rw [hread, if_neg Bool.false_ne_true]
          congr 3
          omega

/-- An exponent does not begin like anything that comes before it in a number. -/
lemma head?_exponentText (exponent : Option Int) {rest : List Char} (hrest : Ends rest) :
    ∀ c ∈ (exponentText exponent ++ rest).head?, c.isDigit = false ∧ c ≠ '.' := by
  cases exponent with
  | none => exact fun c hc => ⟨(hrest c hc).1, (hrest c hc).2.1⟩
  | some e =>
      rintro c ⟨⟩
      decide

/-- **A written number is read back**, unless what follows goes on with it. -/
theorem readNumber_printNumber {n : JsonNumber} (hn : ∀ d ∈ n.fraction, d < 10) {rest : List Char}
    (hrest : Ends rest) : readNumber (printNumber n ++ rest) = some (n, rest) := by
  obtain ⟨negative, whole, fraction, exponent⟩ := n
  have hhead := head?_exponentText exponent hrest
  have hends : EndsDigits (fractionText fraction ++ (exponentText exponent ++ rest)) := by
    cases fraction with
    | nil => exact fun c hc => (hhead c hc).1
    | cons d ds =>
        rintro c ⟨⟩
        rfl
  have hwhole := readWhole_toDigits whole hends
  have hfraction : readFraction (fractionText fraction ++ (exponentText exponent ++ rest)) =
      some (fraction, exponentText exponent ++ rest) :=
    readFraction_fractionText hn (fun c hc => (hhead c hc).1) fun c hc => (hhead c hc).2
  have hexponent := readExponent_exponentText exponent hrest
  rw [printNumber_eq]
  cases negative with
  | true =>
      simp only [if_true, List.append_assoc, List.cons_append, List.nil_append]
      rw [readNumber, hwhole]
      simp only [Option.bind_eq_bind, Option.bind_some, hfraction, hexponent, Option.pure_def]
  | false =>
      simp only [Bool.false_eq_true, if_false, List.append_assoc, List.nil_append]
      rw [readNumber, hwhole]
      · simp only [Option.bind_eq_bind, Option.bind_some, hfraction, hexponent, Option.pure_def]
      · obtain ⟨c, cs, hcs, hdigit⟩ := exists_toDigits_eq whole
        intro rest' h
        rw [hcs] at h
        cases h
        cases hdigit

/-! ## Values -/

@[simp] lemma skipBlanks_lineBreak (layout : Layout) (depth : Nat) (cs : List Char) :
    skipBlanks (lineBreak layout depth ++ cs) = skipBlanks cs := by
  cases layout with
  | compact => rfl
  | indented =>
      have hblank : ∀ c ∈ lineBreak .indented depth, isBlank c = true := by
        intro c hc
        rcases List.mem_cons.1 hc with rfl | hc
        · rfl
        · rw [List.eq_of_mem_replicate hc]
          rfl
      exact List.dropWhile_append_of_pos hblank

lemma skipBlanks_cons {c : Char} (hc : isBlank c = false) (cs : List Char) :
    skipBlanks (c :: cs) = c :: cs := by
  rw [skipBlanks, List.dropWhile_cons_of_neg (by rw [hc]; decide)]

lemma ends_cons {c : Char} (hc : c.isDigit = false ∧ c ≠ '.' ∧ c ≠ 'e' ∧ c ≠ 'E')
    (cs : List Char) : Ends (c :: cs) := by
  rintro _ ⟨⟩
  exact hc

lemma Ends.lineBreak {cs : List Char} (h : Ends cs) (layout : Layout) (depth : Nat) :
    Ends (lineBreak layout depth ++ cs) := by
  cases layout with
  | compact => exact h
  | indented => exact ends_cons (by decide) _

/-- A written number begins with a minus sign or a digit. -/
lemma exists_printNumber_eq (n : JsonNumber) :
    ∃ c cs, printNumber n = c :: cs ∧ (c = '-' ∨ c.isDigit = true) := by
  rw [printNumber_eq]
  cases n.negative with
  | true => exact ⟨'-', _, rfl, .inl rfl⟩
  | false =>
      obtain ⟨c, cs, hcs, hdigit⟩ := exists_toDigits_eq n.whole
      exact ⟨c, _, by rw [hcs]; rfl, .inr hdigit⟩

/-- A written value begins with no blank, and not like the end of an array. -/
lemma exists_printAt_eq (layout : Layout) (depth : Nat) (json : Json) :
    ∃ c cs, printAt layout depth json = c :: cs ∧ isBlank c = false ∧ c ≠ ']' := by
  cases json with
  | null => exact ⟨'n', _, by rw [printAt], by decide⟩
  | bool b =>
      cases b with
      | false => exact ⟨'f', _, by rw [printAt], by decide⟩
      | true => exact ⟨'t', _, by rw [printAt], by decide⟩
  | number n =>
      obtain ⟨c, cs, hcs, hc⟩ := exists_printNumber_eq n
      refine ⟨c, cs, by rw [printAt, hcs], ?_⟩
      rcases hc with rfl | hdigit
      · decide
      · have hne : ∀ c', c'.isDigit = false → c ≠ c' := by
          rintro c' hc' rfl
          rw [hdigit] at hc'
          cases hc'
        simp only [isBlank, Bool.or_eq_false_iff, beq_eq_false_iff_ne]
        exact ⟨⟨⟨⟨hne _ rfl, hne _ rfl⟩, hne _ rfl⟩, hne _ rfl⟩, hne _ rfl⟩
  | string text =>
      obtain ⟨body, hbody, -⟩ := exists_readText text
      exact ⟨'"', body, by rw [printAt, hbody], by decide⟩
  | array items =>
      cases items with
      | nil => exact ⟨'[', [']'], by rw [printAt], by decide⟩
      | cons item rest => exact ⟨'[', _, by rw [printAt]; rfl, by decide⟩
  | object members =>
      cases members with
      | nil => exact ⟨'\x7b', ['\x7d'], by rw [printAt], by decide⟩
      | cons member rest => exact ⟨'\x7b', _, by rw [printAt]; rfl, by decide⟩

lemma skipBlanks_printAt (layout : Layout) (depth : Nat) (json : Json) (cs : List Char) :
    skipBlanks (printAt layout depth json ++ cs) = printAt layout depth json ++ cs := by
  obtain ⟨c, cs', hcs, hc, -⟩ := exists_printAt_eq layout depth json
  rw [hcs, List.cons_append, skipBlanks_cons hc]

/-- Whether all fractions in a value consist of digits. -/
inductive Printable : Json → Prop
  | null : Printable .null
  | bool (b : Bool) : Printable (.bool b)
  | number {n : JsonNumber} (h : ∀ d ∈ n.fraction, d < 10) : Printable (.number n)
  | string (text : Option String) : Printable (.string text)
  | array {items : List Json} (h : ∀ item ∈ items, Printable item) : Printable (.array items)
  | object {members : List (Option String × Json)} (h : ∀ m ∈ members, Printable m.2) :
      Printable (.object members)

/-- Whether a value is read back where it was written, after any blanks. -/
def ReadsAs (json : Json) : Prop := ∀ layout depth fuel cs rest,
  skipBlanks cs = printAt layout depth json ++ rest → Ends rest →
    2 * (printAt layout depth json).length ≤ fuel → readValue fuel cs = some (json, rest)

/-- A value that is read back with one call more than none. -/
lemma readsAs_of_succ {json : Json} (h : ∀ layout depth fuel cs rest,
    skipBlanks cs = printAt layout depth json ++ rest → Ends rest →
      2 * (printAt layout depth json).length ≤ fuel + 1 →
        readValue (fuel + 1) cs = some (json, rest)) : ReadsAs json := by
  intro layout depth fuel cs rest hcs hrest hfuel
  obtain ⟨c, cs', hprint, -⟩ := exists_printAt_eq layout depth json
  cases fuel with
  | zero => simp [hprint] at hfuel
  | succ fuel => exact h layout depth fuel cs rest hcs hrest hfuel

lemma readsAs_number {n : JsonNumber} (hn : ∀ d ∈ n.fraction, d < 10) : ReadsAs (.number n) := by
  refine readsAs_of_succ fun layout depth fuel cs rest hcs hrest _ => ?_
  have hread := readNumber_printNumber hn hrest
  obtain ⟨c, cs', hprint, hc⟩ := exists_printNumber_eq n
  have hne : ∀ c', c' ≠ '-' → c'.isDigit = false → c ≠ c' := by
    rintro c' hminus hc' rfl
    rcases hc with rfl | hdigit
    · exact hminus rfl
    · rw [hdigit] at hc'
      cases hc'
  rw [readValue, hcs, printAt]
  rw [hprint, List.cons_append] at hread ⊢
  -- neither a minus sign nor a digit begins any other value
  split <;> rename_i h
  case h_7 => rw [hread, Option.map_some]
  all_goals exact absurd (List.cons.inj h).1 (hne _ (by decide) rfl)

lemma readsAs_string (text : Option String) : ReadsAs (.string text) := by
  refine readsAs_of_succ fun layout depth fuel cs rest hcs _ _ => ?_
  obtain ⟨body, hbody, hread⟩ := exists_readText text
  rw [readValue, hcs, printAt, hbody, List.cons_append]
  simp only [hread, Option.map_some]

/-- The items of an array are read up to its end if each of them is read back. -/
lemma readItems_printItems {layout : Layout} {depth : Nat} {rest : List Char} {items : List Json} :
    ∀ (item : Json) (fuel : Nat) (cs : List Char), ReadsAs item → (∀ i ∈ items, ReadsAs i) →
      skipBlanks cs = printAt layout (depth + 1) item ++ (printItems layout (depth + 1) items ++
        (lineBreak layout depth ++ ']' :: rest)) →
      2 * ((printAt layout (depth + 1) item).length +
        (printItems layout (depth + 1) items).length) < fuel →
      readItems fuel cs = some (item :: items, rest) := by
  induction items with
  | nil =>
      intro item fuel cs hitem _ hcs hfuel
      obtain ⟨fuel, rfl⟩ := Nat.exists_eq_succ_of_ne_zero (Nat.ne_of_gt (Nat.zero_lt_of_lt hfuel))
      have hends : Ends (lineBreak layout depth ++ ']' :: rest) :=
        (ends_cons (by decide) rest).lineBreak layout depth
      rw [printItems, List.nil_append] at hcs
      -- one call is spent on this function, the others are left for the item
      have hread := hitem layout (depth + 1) fuel cs _ hcs hends (by omega)
      rw [readItems, hread]
      simp only [Option.bind_eq_bind, Option.bind_some, skipBlanks_lineBreak,
        skipBlanks_cons (show isBlank ']' = false by decide), Option.pure_def]
  | cons next items ih =>
      intro item fuel cs hitem hitems hcs hfuel
      obtain ⟨fuel, rfl⟩ := Nat.exists_eq_succ_of_ne_zero (Nat.ne_of_gt (Nat.zero_lt_of_lt hfuel))
      rw [printItems] at hcs hfuel
      simp only [List.length_append, List.length_cons] at hfuel
      simp only [List.cons_append, List.append_assoc] at hcs
      -- a comma ends the item, and what follows the comma begins with the next one
      have hread := hitem layout (depth + 1) fuel cs _ hcs (ends_cons (by decide) _) (by omega)
      have hrest := ih next fuel _ (hitems next List.mem_cons_self)
        (fun i hi => hitems i (List.mem_cons_of_mem _ hi))
        ((skipBlanks_lineBreak layout (depth + 1) _).trans (skipBlanks_printAt _ _ _ _)) (by omega)
      rw [readItems, hread]
      simp only [Option.bind_eq_bind, Option.bind_some, hrest,
        skipBlanks_cons (show isBlank ',' = false by decide), Option.pure_def]

/-- What stands between a name and its value is passed over. -/
lemma exists_colon_eq (layout : Layout) (cs : List Char) : ∃ blanks,
    skipBlanks (colon layout ++ cs) = ':' :: (blanks ++ cs) ∧
      skipBlanks (blanks ++ cs) = skipBlanks cs := by
  cases layout with
  | compact => exact ⟨[], rfl, rfl⟩
  | indented => exact ⟨[' '], rfl, rfl⟩

lemma skipBlanks_printText (name : Option String) (cs : List Char) :
    skipBlanks (printText name ++ cs) = printText name ++ cs := by
  obtain ⟨body, hbody, -⟩ := exists_readText name
  rw [hbody, List.cons_append, skipBlanks_cons (by decide)]

/-- The members of an object are read up to its end if the value of each is read back. -/
lemma readMembers_printMembers {layout : Layout} {depth : Nat} {rest : List Char}
    {members : List (Option String × Json)} :
    ∀ (name : Option String) (value : Json) (fuel : Nat) (cs : List Char), ReadsAs value →
      (∀ m ∈ members, ReadsAs m.2) →
      skipBlanks cs = printText name ++ (colon layout ++ (printAt layout (depth + 1) value ++
        (printMembers layout (depth + 1) members ++ (lineBreak layout depth ++ '\x7d' :: rest)))) →
      2 * ((printAt layout (depth + 1) value).length +
        (printMembers layout (depth + 1) members).length) < fuel →
      readMembers fuel cs = some ((name, value) :: members, rest) := by
  induction members with
  | nil =>
      intro name value fuel cs hvalue _ hcs hfuel
      obtain ⟨fuel, rfl⟩ := Nat.exists_eq_succ_of_ne_zero (Nat.ne_of_gt (Nat.zero_lt_of_lt hfuel))
      obtain ⟨body, hname, htext⟩ := exists_readText name
      have hends : Ends (lineBreak layout depth ++ '\x7d' :: rest) :=
        (ends_cons (by decide) rest).lineBreak layout depth
      rw [printMembers, List.nil_append] at hcs
      obtain ⟨blanks, hcolon, hblanks⟩ := exists_colon_eq layout
        (printAt layout (depth + 1) value ++ (lineBreak layout depth ++ '\x7d' :: rest))
      have hread := hvalue layout (depth + 1) fuel _ _
        (hblanks.trans (skipBlanks_printAt _ _ _ _)) hends (by omega)
      rw [hname, List.cons_append] at hcs
      rw [readMembers, hcs]
      simp only [Option.bind_eq_bind, Option.bind_some, htext, hcolon, hread, skipBlanks_lineBreak,
        skipBlanks_cons (show isBlank '\x7d' = false by decide), Option.pure_def]
  | cons next members ih =>
      obtain ⟨nextName, nextValue⟩ := next
      intro name value fuel cs hvalue hmembers hcs hfuel
      obtain ⟨fuel, rfl⟩ := Nat.exists_eq_succ_of_ne_zero (Nat.ne_of_gt (Nat.zero_lt_of_lt hfuel))
      obtain ⟨body, hname, htext⟩ := exists_readText name
      rw [printMembers] at hcs hfuel
      simp only [List.length_append, List.length_cons] at hfuel
      simp only [List.cons_append, List.append_assoc] at hcs
      obtain ⟨blanks, hcolon, hblanks⟩ := exists_colon_eq layout
        (printAt layout (depth + 1) value ++ (',' :: (lineBreak layout (depth + 1) ++
          (printText nextName ++ (colon layout ++ (printAt layout (depth + 1) nextValue ++
            (printMembers layout (depth + 1) members ++
              (lineBreak layout depth ++ '\x7d' :: rest))))))))
      have hread := hvalue layout (depth + 1) fuel _ _
        (hblanks.trans (skipBlanks_printAt _ _ _ _)) (ends_cons (by decide) _) (by omega)
      have hrest := ih nextName nextValue fuel _ (hmembers _ List.mem_cons_self)
        (fun m hm => hmembers m (List.mem_cons_of_mem _ hm))
        ((skipBlanks_lineBreak layout (depth + 1) _).trans (skipBlanks_printText _ _)) (by omega)
      rw [hname, List.cons_append] at hcs
      rw [readMembers, hcs]
      simp only [Option.bind_eq_bind, Option.bind_some, htext, hcolon, hread, hrest,
        skipBlanks_cons (show isBlank ',' = false by decide), Option.pure_def]

/-- **A written value is read back**, at any depth and in either layout. -/
theorem Printable.readsAs {json : Json} (h : Printable json) : ReadsAs json := by
  induction h with
  | null =>
      refine readsAs_of_succ fun layout depth fuel cs rest hcs _ _ => ?_
      rw [readValue, hcs, printAt]
      rfl
  | bool b =>
      refine readsAs_of_succ fun layout depth fuel cs rest hcs _ _ => ?_
      rw [readValue, hcs]
      cases b <;> rw [printAt] <;> rfl
  | number hn => exact readsAs_number hn
  | string text => exact readsAs_string text
  | @array items _ ih =>
      refine readsAs_of_succ fun layout depth fuel cs rest hcs _ hfuel => ?_
      rw [readValue, hcs]
      cases items with
      | nil =>
          rw [printAt]
          rfl
      | cons item items =>
          rw [printAt] at hfuel ⊢
          simp only [List.length_append, List.length_cons, List.length_nil] at hfuel
          simp only [List.cons_append, List.append_assoc, List.nil_append]
          have hitems := readItems_printItems item fuel _ (ih item List.mem_cons_self)
            (fun i hi => ih i (List.mem_cons_of_mem _ hi))
            (skipBlanks_printAt layout (depth + 1) item
              (printItems layout (depth + 1) items ++ (lineBreak layout depth ++ ']' :: rest)))
            (by omega)
          obtain ⟨c, cs', hprint, -, hne⟩ := exists_printAt_eq layout (depth + 1) item
          rw [skipBlanks_lineBreak, skipBlanks_printAt]
          rw [hprint, List.cons_append] at hitems ⊢
          split
          next h => exact absurd (List.cons.inj h).1 hne
          next => rw [hitems, Option.map_some]
  | @object members _ ih =>
      refine readsAs_of_succ fun layout depth fuel cs rest hcs _ hfuel => ?_
      rw [readValue, hcs]
      cases members with
      | nil =>
          rw [printAt]
          rfl
      | cons member members =>
          obtain ⟨name, value⟩ := member
          obtain ⟨body, hname, -⟩ := exists_readText name
          rw [printAt] at hfuel ⊢
          simp only [List.length_append, List.length_cons, List.length_nil] at hfuel
          simp only [List.cons_append, List.append_assoc, List.nil_append]
          have hmembers := readMembers_printMembers name value fuel _
            (ih _ List.mem_cons_self) (fun m hm => ih m (List.mem_cons_of_mem _ hm))
            (skipBlanks_printText name (colon layout ++ (printAt layout (depth + 1) value ++
              (printMembers layout (depth + 1) members ++
                (lineBreak layout depth ++ '\x7d' :: rest))))) (by omega)
          rw [skipBlanks_lineBreak, skipBlanks_printText]
          rw [hname, List.cons_append] at hmembers ⊢
          split
          next h => exact absurd (List.cons.inj h).1 (by decide)
          next => rw [hmembers, Option.map_some]

/-- **A written text is read back.** -/
theorem parse?_printAt {json : Json} (h : Printable json) (layout : Layout) :
    parse? (.ofList (printAt layout 0 json)) = some json := by
  have hread := h.readsAs layout 0 (2 * (printAt layout 0 json).length + 2)
    (printAt layout 0 json) [] (by simpa using skipBlanks_printAt layout 0 json [])
    (fun _ hc => nomatch hc) (by omega)
  rw [parse?, String.toList_ofList]
  simp only [hread]
  rfl

end Hookup.Json
