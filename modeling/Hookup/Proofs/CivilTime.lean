import Hookup.Proofs.Calendar
import Hookup.Proofs.CanonicalName
import Hookup.Time.Scan
import Mathlib.Data.List.TakeWhile
import Mathlib.Data.Nat.Digits.Defs
import Mathlib.Tactic.Ring

/-!
# Stamps are read back

The audit log dates its records by stamps, which are read in the lenient manner.

* `Scan.run_digits`, `Scan.run_digits_most` — digits are read up to something else or to their
  greatest number.
* `CivilTime.run_year`, `CivilTime.run_short`, `CivilTime.run_fraction` — each number of a stamp is
  read back, whatever comes after it.
* **`CivilTime.read_stamp`** — the stamp of an instant of the calendar is read as that instant, leap
  seconds and nanoseconds included.
-/

namespace Hookup

namespace Scan

variable {α β : Type} {cs digits rest : List Char} {accepts : Char → Bool} {c : Char}

/-! ## One piece after the other -/

/-- A scan goes on where the one before it stopped. -/
lemma run_bind_eq {scan : Scan α} {a : α} (h : scan.run cs = some (a, rest)) (next : α → Scan β) :
    (scan >>= next).run cs = (next a).run rest := by
  rw [StateT.run_bind, h]
  rfl

lemma run_get (cs : List Char) : (get : Scan (List Char)).run cs = some (cs, cs) := rfl

lemma run_peek (cs : List Char) : peek.run cs = some (cs.head?, cs) := rfl

lemma run_one (h : accepts c = true) : (one accepts).run (c :: rest) = some ((), rest) := by
  rw [one, run_bind_eq (run_get _)]
  simp only [h, if_true]
  rfl

lemma run_blanks (h : ∀ c ∈ cs.head?, Text.isWhiteSpace c = false) :
    blanks.run cs = some ((), cs) := by
  show some ((), Text.dropBlanks cs) = _
  rw [Text.dropBlanks_eq_self h]

lemma run_blanks_cons (h : Text.isWhiteSpace c = false) (cs : List Char) :
    blanks.run (c :: cs) = some ((), c :: cs) :=
  run_blanks (by simpa using h)

/-! ## Digits -/

/-- What a run of characters and something else consists of. -/
lemma span_append (h : ∀ c ∈ digits, accepts c = true)
    (hrest : ∀ c ∈ rest.head?, accepts c = false) :
    (digits ++ rest).takeWhile accepts = digits ∧ (digits ++ rest).dropWhile accepts = rest := by
  rw [List.takeWhile_append_of_pos h, List.dropWhile_append_of_pos h]
  cases rest with
  | nil => simp
  | cons c rest => simp [hrest c rfl]

/-- The number that digits write. -/
def decimalValue (digits : List Char) : Nat := digits.foldl (fun n c => 10 * n + (c.toNat - 48)) 0

lemma decimalValue_append_zeros (digits : List Char) (k : Nat) :
    decimalValue (digits ++ List.replicate k '0') = decimalValue digits * 10 ^ k := by
  induction k with
  | zero => simp
  | succ k ih =>
      rw [List.replicate_succ', ← List.append_assoc, decimalValue, List.foldl_append]
      show 10 * decimalValue (digits ++ List.replicate k '0') + 0 = _
      rw [ih, Nat.pow_succ]
      ring

lemma run_digits {least : Nat} (h : ∀ c ∈ digits, c.isDigit = true) (hleast : least ≤ digits.length)
    (hrest : ∀ c ∈ rest.head?, c.isDigit = false) :
    (Scan.digits least none).run (digits ++ rest) = some (decimalValue digits, rest) := by
  rw [Scan.digits, run_bind_eq (run_get _)]
  simp only [(span_append h hrest).1]
  rw [if_neg (by omega)]
  show some (decimalValue digits, (digits ++ rest).drop digits.length) = _
  rw [List.drop_left]

lemma run_digits_most {least most : Nat} (h : ∀ c ∈ digits, c.isDigit = true)
    (hleast : least ≤ digits.length) (hmost : digits.length = most) :
    (Scan.digits least (some most)).run (digits ++ rest) = some (decimalValue digits, rest) := by
  have htake : ((digits ++ rest).take most).takeWhile Char.isDigit = digits := by
    rw [List.take_left' hmost, List.takeWhile_eq_self_iff.2 h]
  rw [Scan.digits, run_bind_eq (run_get _)]
  simp only [htake]
  rw [if_neg (by omega)]
  show some (decimalValue digits, (digits ++ rest).drop digits.length) = _
  rw [List.drop_left]

lemma isWhiteSpace_of_isDigit (h : c.isDigit = true) : Text.isWhiteSpace c = false := by
  obtain ⟨hlow, hhigh⟩ : 48 ≤ c.toNat ∧ c.toNat ≤ 57 := Char.isDigit_iff_toNat.1 h
  simp only [Text.isWhiteSpace, Text.CodeSet.has, Text.whiteSpaceCodes]
  simp
  omega

end Scan

namespace CivilTime

open Scan

variable {length n : Nat} {rest : List Char}

/-! ## Numbers with zeros in front -/

lemma decimalValue_padded (length n : Nat) : decimalValue (padded length n).toList = n := by
  have hzeros : ∀ k, decimalValue (List.replicate k '0') = 0 := fun k => by
    simpa [decimalValue] using decimalValue_append_zeros [] k
  rw [padded, String.toList_ofList, decimalValue, List.foldl_append]
  refine Eq.trans (congrArg (fun start => List.foldl _ start _) (hzeros _)) ?_
  exact Nat.ofDigitChars_ten_toDigits

lemma isDigit_of_mem_padded : ∀ c ∈ (padded length n).toList, c.isDigit = true := by
  intro c hc
  rw [padded, String.toList_ofList, List.mem_append] at hc
  rcases hc with hc | hc
  · rw [(List.mem_replicate.1 hc).2]
    rfl
  · exact Nat.isDigit_of_mem_toDigits (by decide) (by decide) hc

lemma length_padded (hlength : 0 < length) (h : n < 10 ^ length) :
    (padded length n).toList.length = length := by
  have hle := Nat.toDigits_length 10 n length hlength h
  rw [padded, String.toList_ofList, List.length_append, List.length_replicate]
  omega

lemma length_padded_pos (length n : Nat) : 1 ≤ (padded length n).toList.length := by
  have hpos := List.length_pos_of_ne_nil (Nat.toDigits_ne_nil (b := 10) (n := n))
  rw [padded, String.toList_ofList, List.length_append]
  omega

lemma exists_head?_padded (length n : Nat) (rest : List Char) :
    ∃ c, ((padded length n).toList ++ rest).head? = some c ∧ c.isDigit = true := by
  obtain ⟨c, cs, hcs⟩ := List.exists_cons_of_length_pos (length_padded_pos length n)
  exact ⟨c, by rw [hcs]; rfl, isDigit_of_mem_padded c (hcs ▸ List.mem_cons_self)⟩

lemma run_blanks_padded (length n : Nat) (rest : List Char) :
    blanks.run ((padded length n).toList ++ rest) =
      some ((), (padded length n).toList ++ rest) := by
  refine run_blanks fun c hc => ?_
  obtain ⟨d, hd, hdigit⟩ := exists_head?_padded length n rest
  rw [hd, Option.mem_some_iff] at hc
  exact isWhiteSpace_of_isDigit (hc ▸ hdigit)

lemma run_padded (length n : Nat) (hrest : ∀ c ∈ rest.head?, c.isDigit = false) :
    (Scan.digits 1 none).run ((padded length n).toList ++ rest) = some (n, rest) := by
  rw [run_digits isDigit_of_mem_padded (length_padded_pos _ _) hrest, decimalValue_padded]

lemma run_padded_most (hlength : 0 < length) (hn : n < 10 ^ length) (rest : List Char) :
    (Scan.digits 1 (some length)).run ((padded length n).toList ++ rest) = some (n, rest) := by
  rw [run_digits_most isDigit_of_mem_padded (length_padded_pos _ _) (length_padded hlength hn),
    decimalValue_padded]

/-! ## The numbers of a stamp -/

lemma run_short (hn : n < 100) (rest : List Char) :
    short.run ((padded 2 n).toList ++ rest) = some (n, rest) := by
  rw [short, run_bind_eq (run_blanks_padded 2 n rest)]
  exact run_padded_most (by decide) hn rest

/-- **A year is read back**, with its sign if it has one. -/
lemma run_year (year : Int) (hrest : ∀ c ∈ rest.head?, c.isDigit = false) :
    Scan.year.run ((yearText year).toList ++ rest) = some (year, rest) := by
  rw [yearText]
  split_ifs with hplain hneg
  · -- four digits, of which the first is no sign
    obtain ⟨c, hc, hdigit⟩ := exists_head?_padded 4 year.toNat rest
    rw [Scan.year, run_bind_eq (run_blanks_padded 4 year.toNat rest), run_bind_eq (run_peek _), hc]
    split
    next heq =>
      cases heq
      cases hdigit
    next heq =>
      cases heq
      cases hdigit
    next =>
      rw [run_bind_eq (run_padded_most (by decide) (by omega) _)]
      show some ((year.toNat : Int), rest) = _
      rw [Int.toNat_of_nonneg hplain.1]
  · have htext : ("-" ++ padded 4 year.natAbs).toList ++ rest =
        '-' :: ((padded 4 year.natAbs).toList ++ rest) := by simp
    rw [htext, Scan.year, run_bind_eq (run_blanks_cons (by decide) _), run_bind_eq (run_peek _)]
    show (one (· == '-') >>= _).run _ = _
    rw [run_bind_eq (run_one rfl), run_bind_eq (run_padded _ _ hrest)]
    show some (-(year.natAbs : Int), rest) = _
    rw [Int.ofNat_natAbs_of_nonpos (by omega), Int.neg_neg]
  · have htext : ("+" ++ padded 4 year.natAbs).toList ++ rest =
        '+' :: ((padded 4 year.natAbs).toList ++ rest) := by simp
    rw [htext, Scan.year, run_bind_eq (run_blanks_cons (by decide) _), run_bind_eq (run_peek _)]
    show (one (· == '+') >>= _).run _ = _
    rw [run_bind_eq (run_one rfl), run_bind_eq (run_padded _ _ hrest)]
    show some ((year.natAbs : Int), rest) = _
    rw [Int.natAbs_of_nonneg (by omega)]

/-- Up to nine places after the point are read as nanoseconds. -/
lemma run_fraction_point (hlength : 0 < length) (hnine : length ≤ 9) (hn : n < 10 ^ length)
    (hrest : ∀ c ∈ rest.head?, c.isDigit = false) :
    fraction.run ('.' :: ((padded length n).toList ++ rest)) =
      some (n * 10 ^ (9 - length), rest) := by
  have hdigits : ∀ c ∈ (padded length n).toList, c.isDigit = true := isDigit_of_mem_padded
  obtain ⟨htake, hdrop⟩ := span_append hdigits hrest
  have hlen := length_padded hlength hn
  have hne : (padded length n).toList.isEmpty = false := by
    rw [List.isEmpty_eq_false_iff, ← List.length_pos_iff]
    omega
  rw [fraction, run_bind_eq (run_peek _)]
  show (one (· == '.') >>= _).run _ = _
  rw [run_bind_eq (run_one rfl), run_bind_eq (run_get _)]
  simp only [htake, hdrop, hne]
  show some (decimalValue ((padded length n).toList.take 9 ++
    List.replicate (9 - (padded length n).toList.length) '0'), rest) = _
  rw [List.take_of_length_le (by omega), decimalValue_append_zeros, decimalValue_padded, hlen]

/-- **A fraction of a second is read back**, whichever number of places it is written with. -/
lemma run_fraction (hn : n < 1000000000) :
    fraction.run ((fractionText n).toList ++ ['Z']) = some (n, ['Z']) := by
  have hz : ∀ c ∈ ['Z'].head?, c.isDigit = false := by simp
  rw [fractionText]
  split_ifs with hzero hmilli hmicro
  · subst hzero
    rfl
  · have htext : ("." ++ padded 3 (n / 1000000)).toList ++ ['Z'] =
        '.' :: ((padded 3 (n / 1000000)).toList ++ ['Z']) := by simp
    have hwhole : n / 1000000 * 10 ^ (9 - 3) = n := by omega
    rw [htext, run_fraction_point (by decide) (by decide) (by omega) hz, hwhole]
  · have htext : ("." ++ padded 6 (n / 1000)).toList ++ ['Z'] =
        '.' :: ((padded 6 (n / 1000)).toList ++ ['Z']) := by simp
    have hwhole : n / 1000 * 10 ^ (9 - 6) = n := by omega
    rw [htext, run_fraction_point (by decide) (by decide) (by omega) hz, hwhole]
  · have htext : ("." ++ padded 9 n).toList ++ ['Z'] =
        '.' :: ((padded 9 n).toList ++ ['Z']) := by simp
    have hwhole : n * 10 ^ (9 - 9) = n := by omega
    rw [htext, run_fraction_point (by decide) (by decide) (by omega) hz, hwhole]

/-! ## Dates and times of day -/

lemma run_spacedDate {date : Date} (h : date.isValid = true) (rest : List Char) :
    spacedDate.run ((yearText date.year).toList ++ '-' :: ((padded 2 date.month).toList ++ '-' ::
      ((padded 2 date.day).toList ++ rest))) = some (date, rest) := by
  have hvalid := h
  simp only [Date.isValid, Bool.and_eq_true, decide_eq_true_eq] at hvalid
  obtain ⟨⟨⟨⟨⟨-, -⟩, -⟩, hmonth⟩, -⟩, hday⟩ := hvalid
  have hdays : Date.daysInMonth date.year date.month ≤ 31 := by
    rw [Date.daysInMonth]
    split_ifs <;> decide
  have hhyphen : Text.isWhiteSpace '-' = false := by decide
  have hdate : (validDate date.year date.month date.day).run rest = some (date, rest) := by
    rw [validDate]
    simp only [h, if_true]
    rfl
  rw [spacedDate, run_bind_eq (run_year date.year (by simp)),
    run_bind_eq (run_blanks_cons hhyphen _), run_bind_eq (run_one rfl),
    run_bind_eq (run_short (by omega) _), run_bind_eq (run_blanks_cons hhyphen _),
    run_bind_eq (run_one rfl), run_bind_eq (run_short (by omega) _), hdate]

/-- The sixtieth second is the one before it with a thousand million nanoseconds. -/
lemma run_validClock {hour minute second : Nat} (hhour : hour < 24) (hminute : minute < 60)
    (hsecond : second ≤ 60) (cs : List Char) : (validClock hour minute second).run cs =
      some ((hour, minute, if second = 60 then 59 else second,
        if second = 60 then 1000000000 else 0), cs) := by
  rw [validClock, if_pos ⟨hhour, hminute, hsecond⟩]
  split_ifs <;> rfl

/-! ## Stamps -/

/-- Whether an instant is one of the calendar, perhaps in a leap second at the end of a minute. -/
structure IsValid (t : CivilTime) : Prop where
  first : firstSecond ≤ t.seconds
  last : t.seconds ≤ lastSecond
  nanoseconds : t.nanoseconds < 1000000000 ∨ t.nanoseconds < 2000000000 ∧ t.seconds % 60 = 59

instance (t : CivilTime) : Decidable t.IsValid :=
  decidable_of_iff (firstSecond ≤ t.seconds ∧ t.seconds ≤ lastSecond ∧
      (t.nanoseconds < 1000000000 ∨ t.nanoseconds < 2000000000 ∧ t.seconds % 60 = 59))
    ⟨fun ⟨hfirst, hlast, hnanoseconds⟩ => ⟨hfirst, hlast, hnanoseconds⟩,
      fun ⟨hfirst, hlast, hnanoseconds⟩ => ⟨hfirst, hlast, hnanoseconds⟩⟩

variable {t : CivilTime}

lemma toList_stamp (t : CivilTime) : t.stamp.toList =
    (yearText (Date.ofDayNumber (t.seconds / 86400)).year).toList ++ '-' ::
      ((padded 2 (Date.ofDayNumber (t.seconds / 86400)).month).toList ++ '-' ::
        ((padded 2 (Date.ofDayNumber (t.seconds / 86400)).day).toList ++ 'T' ::
          ((padded 2 ((t.seconds % 86400).toNat / 3600)).toList ++ ':' ::
            ((padded 2 ((t.seconds % 86400).toNat / 60 % 60)).toList ++ ':' ::
              ((padded 2 ((t.seconds % 86400).toNat % 60 + t.nanoseconds / 1000000000)).toList ++
                ((fractionText (t.nanoseconds % 1000000000)).toList ++ ['Z'])))))) := by
  simp [stamp, dateText, clockText, dateAndSecond]

lemma isValid_date (ht : t.IsValid) : (Date.ofDayNumber (t.seconds / 86400)).isValid = true := by
  have hfirst : firstSecond = (Date.mk Date.firstYear 1 1).dayNumber * 86400 := rfl
  have hlast : lastSecond = (Date.mk (Date.lastYear + 1) 1 1).dayNumber * 86400 - 1 := rfl
  have hfirst' := ht.first
  have hlast' := ht.last
  exact Date.isValid_ofDayNumber (by omega) (by omega)

/-- A leap second is shown as the sixtieth, from which the instant is told again. -/
lemma ofDate_shown (ht : t.IsValid) {second shown : Nat}
    (hsecond : (t.seconds % 86400).toNat = second)
    (hshown : second % 60 + t.nanoseconds / 1000000000 = shown) :
    ofDate (Date.ofDayNumber (t.seconds / 86400)) (second / 3600) (second / 60 % 60)
      (if shown = 60 then 59 else shown)
      ((if shown = 60 then 1000000000 else 0) + t.nanoseconds % 1000000000) = t := by
  have hnanoseconds := ht.nanoseconds
  obtain ⟨seconds, nanoseconds⟩ := t
  rw [ofDate, Date.dayNumber_ofDayNumber]
  simp only [mk.injEq] at *
  split_ifs <;> omega

lemma run_zone : (zone (modify fun cs => cs.dropWhile fun c => c == ':' || Text.isWhiteSpace c)).run
    ['Z'] = some (0, []) :=
  rfl

/-- **An instant is read back from its stamp.** -/
theorem read_stamp (ht : t.IsValid) : spacedInstant.read? t.stamp = some t := by
  obtain ⟨second, hsecond⟩ : ∃ second, (t.seconds % 86400).toNat = second := ⟨_, rfl⟩
  obtain ⟨shown, hshown⟩ : ∃ shown, second % 60 + t.nanoseconds / 1000000000 = shown := ⟨_, rfl⟩
  have hnanoseconds := ht.nanoseconds
  have hbreak : ∀ cs, dayBreak.run ('T' :: cs) = some ((), cs) := fun _ => rfl
  have hcolon : Text.isWhiteSpace ':' = false := by decide
  have hz : Text.isWhiteSpace 'Z' = false := by decide
  have huniversal : universal? ['Z'] = none := rfl
  have hend : blanks.run [] = some ((), []) := rfl
  have hfinish : finish.run [] = some ((), []) := rfl
  have hzoned : (zoned (Date.ofDayNumber (t.seconds / 86400)) (second / 3600, second / 60 % 60,
      if shown = 60 then 59 else shown, if shown = 60 then 1000000000 else 0)
      (t.nanoseconds % 1000000000) 0).run [] = some (t, []) := by
    rw [zoned]
    simp only [ofDate_shown ht hsecond hshown, Int.sub_zero]
    rw [if_pos ⟨ht.first, ht.last⟩]
    rfl
  have hrun : spacedInstant.run t.stamp.toList = some (t, []) := by
    rw [toList_stamp, hsecond, hshown, spacedInstant,
      run_bind_eq (run_spacedDate (isValid_date ht) _), run_bind_eq (hbreak _),
      run_bind_eq (run_short (by omega) _), run_bind_eq (run_blanks_cons hcolon _),
      run_bind_eq (run_one rfl), run_bind_eq (run_short (by omega) _),
      run_bind_eq (run_blanks_cons hcolon _), run_bind_eq (run_one rfl),
      run_bind_eq (run_short (by omega) _),
      run_bind_eq (run_validClock (by omega) (by omega) (by omega) _),
      run_bind_eq (run_fraction (by omega)), run_bind_eq (run_blanks_cons hz _),
      run_bind_eq (run_get _)]
    simp only [huniversal]
    rw [run_bind_eq run_zone, run_bind_eq hend, run_bind_eq hfinish, hzoned]
  rw [read?, hrun]
  rfl

/-- The leap second at the end of 2016, half over. -/
example : (⟨1483228799, 1500000000⟩ : CivilTime).stamp = "2016-12-31T23:59:60.500Z" := by
  decide +kernel

end CivilTime

end Hookup
