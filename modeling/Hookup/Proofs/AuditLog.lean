import Hookup.Cache.AuditLog
import Hookup.Proofs.CivilTime
import Hookup.Proofs.JsonRecords

/-!
# Audit logs are read back

A log is its records, one line after the other.

* `Json.Printable.isPlain` — a value on one line has no control characters, whatever texts it holds:
  those of a text are escaped.  In particular it has no line breaks.
* `AuditRecord.read_compact` — a record is read back from its line if its instant is one of the
  calendar.
* **`AuditRecord.pieces_log`**, **`AuditRecord.ofLog?_log`** — a log is cut into the lines of its
  records, and read back record by record.
-/

namespace Hookup

/-! ## Values on one line -/

namespace Json

/-- Whether a text has no control characters. -/
def IsPlain (cs : List Char) : Prop := ∀ c ∈ cs, 0x20 ≤ c.toNat

@[simp] lemma isPlain_nil : IsPlain [] := fun _ hc => nomatch hc

@[simp] lemma isPlain_cons {c : Char} {cs : List Char} :
    IsPlain (c :: cs) ↔ 0x20 ≤ c.toNat ∧ IsPlain cs :=
  List.forall_mem_cons

@[simp] lemma isPlain_append {cs cs' : List Char} :
    IsPlain (cs ++ cs') ↔ IsPlain cs ∧ IsPlain cs' :=
  List.forall_mem_append

lemma isPlain_of_isDigit {cs : List Char} (h : ∀ c ∈ cs, c.isDigit = true) : IsPlain cs := by
  intro c hc
  have hlow : 48 ≤ c.toNat := (Char.isDigit_iff_toNat.1 (h c hc)).1
  omega

lemma isPlain_toDigits (n : Nat) : IsPlain (Nat.toDigits 10 n) :=
  isPlain_of_isDigit fun _ hc => Nat.isDigit_of_mem_toDigits (by decide) (by decide) hc

lemma isPlain_escapeChar (c : Char) : IsPlain (escapeChar c) := by
  have hhex : ∀ n < 16, 0x20 ≤ (hexDigit n).toNat := by decide
  rw [escapeChar]
  split_ifs with hquote hbackslash hcontrol
  any_goals simp
  · -- a control character without a letter is written by its code
    exact ⟨hhex _ (by omega), hhex _ (by omega)⟩
  · exact Nat.not_lt.1 hcontrol

lemma isPlain_printText (text : Option String) : IsPlain (printText text) := by
  cases text with
  | none => simp [printText]
  | some s =>
      refine isPlain_cons.2 ⟨by decide, isPlain_append.2 ⟨fun c hc => ?_, by simp⟩⟩
      obtain ⟨c', -, hc⟩ := List.mem_flatMap.1 hc
      exact isPlain_escapeChar c' c hc

lemma isPlain_printNumber {n : JsonNumber} (h : ∀ d ∈ n.fraction, d < 10) :
    IsPlain (printNumber n) := by
  have hsign : ∀ negative : Bool, IsPlain (if negative then ['-'] else []) := by simp
  have hfraction : IsPlain (fractionText n.fraction) := by
    rw [fractionText]
    split_ifs
    · exact isPlain_nil
    · refine isPlain_cons.2 ⟨by decide, isPlain_of_isDigit fun c hc => ?_⟩
      obtain ⟨d, hd, rfl⟩ := List.mem_map.1 hc
      exact (digitChar_spec d (h d hd)).1
  have hexponent : IsPlain (exponentText n.exponent) := by
    cases n.exponent with
    | none => exact isPlain_nil
    | some e =>
        refine isPlain_cons.2 ⟨by decide, isPlain_append.2 ⟨?_, isPlain_toDigits _⟩⟩
        simpa using hsign (decide (e < 0))
  rw [printNumber_eq]
  simp [hsign, isPlain_toDigits, hfraction, hexponent]

lemma isPlain_printItems {depth : Nat} {items : List Json}
    (h : ∀ item ∈ items, ∀ depth, IsPlain (printAt .compact depth item)) :
    IsPlain (printItems .compact depth items) := by
  induction items with
  | nil =>
      rw [printItems]
      exact isPlain_nil
  | cons item items ih =>
      obtain ⟨hitem, hitems⟩ := List.forall_mem_cons.1 h
      rw [printItems]
      simp [lineBreak, hitem, ih hitems]

lemma isPlain_printMembers {depth : Nat} {members : List (Option String × Json)}
    (h : ∀ m ∈ members, ∀ depth, IsPlain (printAt .compact depth m.2)) :
    IsPlain (printMembers .compact depth members) := by
  induction members with
  | nil =>
      rw [printMembers]
      exact isPlain_nil
  | cons member members ih =>
      obtain ⟨hmember, hmembers⟩ := List.forall_mem_cons.1 h
      rw [printMembers]
      simp [lineBreak, colon, isPlain_printText, hmember, ih hmembers]

/-- **A value on one line has no control characters**, by induction on the value. -/
theorem Printable.isPlain {json : Json} (h : Printable json) :
    ∀ depth, IsPlain (printAt .compact depth json) := by
  induction h with
  | null =>
      intro depth
      rw [printAt]
      simp
  | bool b =>
      intro depth
      cases b <;> simp [printAt]
  | number hn =>
      intro depth
      rw [printAt]
      exact isPlain_printNumber hn
  | string text =>
      intro depth
      rw [printAt]
      exact isPlain_printText text
  | @array items _ ih =>
      intro depth
      cases items with
      | nil =>
          rw [printAt]
          simp
      | cons item items =>
          obtain ⟨hitem, hitems⟩ := List.forall_mem_cons.1 ih
          rw [printAt]
          simp [lineBreak, hitem, isPlain_printItems hitems]
  | @object members _ ih =>
      intro depth
      cases members with
      | nil =>
          rw [printAt]
          simp
      | cons member members =>
          obtain ⟨hmember, hmembers⟩ := List.forall_mem_cons.1 ih
          rw [printAt]
          simp [lineBreak, colon, isPlain_printText, hmember, isPlain_printMembers hmembers]

end Json

/-! ## Lines -/

namespace Text

/-- A text is cut where the separator stands for the first time. -/
lemma cut_append_cons {separator : Char} {before : List Char} (h : separator ∉ before)
    (rest : List Char) :
    cut separator (before ++ separator :: rest) = before :: cut separator rest := by
  induction before with
  | nil => rw [List.nil_append, cut, if_pos rfl]
  | cons c before ih =>
      obtain ⟨hc, hbefore⟩ := not_or.1 (mt List.mem_cons.2 h)
      rw [List.cons_append, cut, if_neg (Ne.symm hc), ih hbefore]

lemma pieces_line {line : String} (h : '\n' ∉ line.toList) (rest : String) :
    pieces '\n' (line ++ "\n" ++ rest) = line :: pieces '\n' rest := by
  have htext : (line ++ "\n" ++ rest).toList = line.toList ++ '\n' :: rest.toList := by simp
  rw [pieces, htext, cut_append_cons h, List.map_cons, String.ofList_toList]
  rfl

end Text

/-! ## Records -/

namespace AuditRecord

open Json

variable {r : AuditRecord} {records : List AuditRecord}

lemma countOf?_int (n : UInt64) : countOf? (.int n.toNat) = some n := by
  have hbound : n.toNat ≤ 0xffffffffffffffff := Nat.le_of_lt_succ n.toNat_lt
  rw [countOf?, asNatUpTo?_int hbound, Option.map_some, UInt64.ofNat_toNat]

lemma instantOf?_stamp {t : CivilTime} (ht : t.IsValid) : instantOf? (.text t.stamp) = some t := by
  rw [instantOf?, Codec.text.read_encode, Option.bind_some, CivilTime.read_stamp ht]

lemma printable_toJson (r : AuditRecord) : r.toJson.Printable := by
  have hhookupType := Codec.text.option fun _ h => nomatch h
  refine printable_record ?_
  simp [printable_int, GpsTime.codec.printable, hhookupType.printable, Codec.text.printable,
    Codec.text.list.printable]

lemma ofJson?_toJson (h : r.recorded.IsValid) : ofJson? r.toJson = some r := by
  have hhookupType := Codec.text.option fun _ h => nomatch h
  rw [ofJson?, toJson, slots?_record rfl (by simp)]
  simp [instantOf?_stamp h, GpsTime.codec.read_encode, hhookupType.read_encode,
    Codec.text.list.read_encode, countOf?_int, Codec.text.read_encode]

/-- **A record is read back from its line**, whatever its message and its other texts are. -/
lemma read_compact (h : r.recorded.IsValid) :
    (Json.parse? r.toJson.compact).bind ofJson? = some r := by
  rw [compact, parse?_printAt r.printable_toJson, Option.bind_some, ofJson?_toJson h]

lemma lineBreak_not_mem (r : AuditRecord) : '\n' ∉ r.toJson.compact.toList := by
  intro hmem
  rw [compact, String.toList_ofList] at hmem
  exact absurd (r.printable_toJson.isPlain 0 '\n' hmem) (by decide)

lemma compact_ne_empty (r : AuditRecord) : r.toJson.compact ≠ "" := by
  obtain ⟨c, cs, hprint, -⟩ := exists_printAt_eq .compact 0 r.toJson
  rw [compact, hprint]
  exact fun h => nomatch String.ofList_eq_empty_iff.1 h

/-! ## Logs -/

/-- The log of some records. -/
def log (records : List AuditRecord) : String := String.join (records.map line)

lemma log_concat (records : List AuditRecord) (r : AuditRecord) :
    log (records ++ [r]) = log records ++ r.line := by
  simp [log]

/-- **A log consists of the lines of its records**, each with a line break at its end. -/
theorem pieces_log (records : List AuditRecord) :
    Text.pieces '\n' (log records) = (records.map fun r => r.toJson.compact) ++ [""] := by
  induction records with
  | nil => rfl
  | cons r records ih =>
      rw [log, List.map_cons, String.join_cons, line, Text.pieces_line r.lineBreak_not_mem]
      rw [List.map_cons, List.cons_append, ← ih, log]

/-- **A log is read back**, record by record. -/
theorem ofLog?_log (h : ∀ r ∈ records, r.recorded.IsValid) :
    ofLog? (log records) = some records := by
  have hlines : (Text.pieces '\n' (log records)).filter (· != "") =
      records.map fun r => r.toJson.compact := by
    rw [pieces_log, List.filter_append, List.filter_eq_self.2]
    · simp
    · intro text htext
      obtain ⟨r, -, rfl⟩ := List.mem_map.1 htext
      exact bne_iff_ne.2 r.compact_ne_empty
  rw [ofLog?, hlines]
  exact Outcome.mapM_map_eq_some fun r hr => read_compact (h r hr)

end AuditRecord

end Hookup
