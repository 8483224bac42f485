import Hookup.Proofs.Names
import Hookup.Proofs.StoreQueries
import Hookup.Proofs.StoreViews

/-!
# What a part key tells

A store tells parts apart by part number and revision, everything else by their key, which is both
joined by a colon.  Colons may also stand in names.  A key that consists of three texts with two
colons between them belongs to two parts: one is cut at the first colon, the other at the second
(`Part.CutsBefore`).

* `key_eq_key_iff` — in canonical form there is no other way for two parts to share a key.
* `names_key_eq_iff` — a key is split at its last colon, and so gives back the names of a part
  exactly if its revision has no colon.
* **`key_identifies`** — what this comes to in a store and in the active sets loaded from it.
  `parts_share_key` is a store in which two parts have one key.
-/

namespace Hookup

/-! ## Texts around a separator -/

/-- Two pairs of texts that are joined to one text are the same pair, or the joined text is cut at
an earlier separator in one of them. -/
lemma append_cons_eq_append_cons_iff {α : Type} {separator : α} {a b c d : List α} :
    a ++ separator :: b = c ++ separator :: d ↔ (a = c ∧ b = d) ∨
      (∃ middle, c = a ++ separator :: middle ∧ b = middle ++ separator :: d) ∨
      ∃ middle, a = c ++ separator :: middle ∧ d = middle ++ separator :: b := by
  constructor
  · intro h
    rcases List.append_eq_append_iff.1 h with ⟨between, hc, hb⟩ | ⟨between, ha, hd⟩
    · cases between with
      | nil => exact .inl ⟨by simpa using hc.symm, by simpa using hb⟩
      | cons first middle =>
          obtain ⟨rfl, rfl⟩ := List.cons.inj hb
          exact .inr (.inl ⟨middle, hc, rfl⟩)
    · cases between with
      | nil => exact .inl ⟨by simpa using ha, by simpa using hd.symm⟩
      | cons first middle =>
          obtain ⟨rfl, rfl⟩ := List.cons.inj hd
          exact .inr (.inr ⟨middle, ha, rfl⟩)
  · rintro (⟨rfl, rfl⟩ | ⟨middle, rfl, rfl⟩ | ⟨middle, rfl, rfl⟩) <;> simp

/-- A text with a separator is cut at the last one. -/
lemma exists_append_cons_of_mem {α : Type} {separator : α} {cs : List α} (h : separator ∈ cs) :
    ∃ front last, cs = front ++ separator :: last ∧ separator ∉ last := by
  obtain ⟨last, front, hcs, hlast⟩ := List.eq_append_cons_of_mem (List.mem_reverse.2 h)
  refine ⟨front.reverse, last.reverse, ?_, by simpa using hlast⟩
  rw [← List.reverse_reverse cs, hcs]
  simp

/-! ## Canonical pieces -/

namespace Text

lemma mem_of_mem_trimBlanks {cs : List Char} {c : Char} (h : c ∈ trimBlanks cs) : c ∈ cs := by
  rw [trimBlanks, dropTrailingBlanks, List.mem_reverse] at h
  have hrest := List.mem_reverse.1 ((List.dropWhile_sublist _).subset h)
  exact (List.dropWhile_sublist _).subset hrest

end Text

/-- A piece of a canonical name has no other characters in canonical form. -/
lemma mem_of_mem_canonicalName {name piece : String} {c : Char}
    (hname : canonicalName name = name) (hpiece : ∀ d ∈ piece.toList, d ∈ name.toList)
    (h : c ∈ (canonicalName piece).toList) : c ∈ piece.toList := by
  rw [canonicalName, Text.upper, String.toList_ofList, Text.trim, String.toList_ofList] at h
  obtain ⟨d, hd, hc⟩ := List.mem_flatMap.1 h
  have hmem := Text.mem_of_mem_trimBlanks hd
  -- a character of a canonical name is its own image
  have hsettled : Text.upperChar d = [d] := by
    have hd := hpiece d hmem
    rw [← hname, canonicalName, Text.upper, String.toList_ofList] at hd
    obtain ⟨e, -, he⟩ := List.mem_flatMap.1 hd
    rw [← Text.Casing.image_upper] at he ⊢
    exact Text.Casing.upper_settles.image_of_mem he
  rw [hsettled, List.mem_singleton] at hc
  rwa [hc]

/-! ## Parts and their keys -/

namespace Part

/-- Whether two parts are cut from one text, the first at an earlier colon than the second. -/
def CutsBefore (p q : Part) : Prop :=
  ∃ middle, q.hpn = p.hpn ++ ":" ++ middle ∧ p.rev = middle ++ ":" ++ q.rev

variable {p q : Part}

/-- What is cut before the last colon has the others in its revision. -/
lemma CutsBefore.colon_mem (h : p.CutsBefore q) : ':' ∈ p.rev.toList := by
  obtain ⟨middle, -, hrev⟩ := h
  simp [hrev]

/-- **Parts share a key if they have the same names, or are cut from one text.** -/
theorem key_eq_key_iff (hp : p.canonical = p) (hq : q.canonical = q) :
    p.key = q.key ↔ p.names = q.names ∨ p.CutsBefore q ∨ q.CutsBefore p := by
  have htext : p.key = q.key ↔
      p.hpn.toList ++ ':' :: p.rev.toList = q.hpn.toList ++ ':' :: q.rev.toList := by
    have hmk : p.key = q.key ↔ p.key.text = q.key.text := by
      rw [← PartKey.mk.injEq]
    rw [hmk, key_text hp, key_text hq, ← String.toList_inj]
    simp
  have hcuts : ∀ a b : Part, a.CutsBefore b ↔ ∃ middle : List Char,
      b.hpn.toList = a.hpn.toList ++ ':' :: middle ∧
        a.rev.toList = middle ++ ':' :: b.rev.toList := by
    intro a b
    constructor
    · rintro ⟨middle, hhpn, hrev⟩
      exact ⟨middle.toList, by simp [hhpn], by simp [hrev]⟩
    · rintro ⟨middle, hhpn, hrev⟩
      refine ⟨.ofList middle, ?_, ?_⟩ <;> rw [← String.toList_inj]
      · simp [hhpn]
      · simp [hrev]
  rw [htext, append_cons_eq_append_cons_iff, hcuts, hcuts, names, names, Prod.mk.injEq,
    String.toList_inj, String.toList_inj]

/-- **A key is split into the names of a part exactly if the revision has no colon.** -/
theorem names_key_eq_iff (hp : p.canonical = p) :
    p.key.names = p.names ↔ ':' ∉ p.rev.toList := by
  obtain ⟨hhpn, hrev⟩ := names_of_canonical hp
  constructor
  · intro hnames hcolon
    -- the last colon of the key is in the revision, so what is cut off there has none
    obtain ⟨front, last, hcut, hlast⟩ := exists_append_cons_of_mem hcolon
    have hkey : p.key.text =
        p.hpn ++ ":" ++ .ofList front ++ String.singleton ':' ++ .ofList last := by
      rw [key_text hp, ← String.toList_inj]
      simp [hcut]
    have hrest : canonicalName (.ofList last) = p.rev := by
      rw [PartKey.names, PartKey.split, hkey,
        Text.splitLast_append _ _ (by rwa [String.toList_ofList])] at hnames
      exact (Prod.mk.inj hnames).2
    have hpiece : ∀ c ∈ (String.ofList last).toList, c ∈ p.rev.toList := by
      rw [String.toList_ofList, hcut]
      exact fun c hc => List.mem_append_right _ (List.mem_cons_of_mem _ hc)
    have hmem := mem_of_mem_canonicalName hrev hpiece (hrest ▸ hcolon)
    rw [String.toList_ofList] at hmem
    exact hlast hmem
  · intro hcolon
    have hseparator : ":" = String.singleton ':' := rfl
    rw [PartKey.names, PartKey.split, key_text hp, hseparator,
      Text.splitLast_append p.hpn p.rev hcolon, Option.getD_some, hhpn, hrev, names]

end Part

/-! ## Parts of a store -/

namespace Store

variable {s : Store} {p q : Part}

/-- Parts of a store are the same if their names are. -/
lemma Sound.eq_of_names (h : s.Sound) (hp : p ∈ s.parts) (hq : q ∈ s.parts)
    (hnames : p.names = q.names) : p = q :=
  List.inj_on_of_nodup_map h.parts.nodup hp hq hnames

/-- Under the key of an active part an active set has a part of the store with this key. -/
lemma Sound.exists_part?_of_load (h : s.Sound) {instant : GpsTime} {active : ActiveSet}
    (hload : ActiveSet.load s.source instant = .ok active) (hp : p ∈ s.parts)
    (hactive : p.isActive instant = true) :
    ∃ q ∈ s.parts, q.isActive instant = true ∧ q.key = p.key ∧ active.part? p.key = some q := by
  rw [load_source] at hload
  obtain ⟨q, hq, -, hkey, hfound⟩ :=
    ActiveSet.exists_part?_of_mem hload (mem_activeParts.2 ⟨hp, hactive⟩) hactive
  obtain ⟨hrow, hrowActive⟩ := mem_activeParts.1 hq
  -- the rows are canonical already, so the set has them as they are
  rw [h.parts.stored q hrow] at hfound
  exact ⟨q, hrow, hrowActive, hkey, hfound⟩

end Store

namespace OpenStore

/-- **What a part key tells.**  Two parts of a store have one key exactly if their keys are cut from
one text at different colons, which takes a revision with a colon.  In an active set a part that is
active is found under its key, unless another active part has the key.  A stop under the key of a
part sets the stop of its row and of no other if its revision has no colon; else it is refused, or
stops another part. -/
theorem key_identifies {place : Place} {s : OpenStore} (h : s.Reached place) :
    (∀ p ∈ s.rows.parts, ∀ q ∈ s.rows.parts,
      (p.key = q.key ↔ p = q ∨ p.CutsBefore q ∨ q.CutsBefore p) ∧
      (p.CutsBefore q → ':' ∈ p.rev.toList)) ∧
    (∀ instant active, ActiveSet.load s.rows.source instant = .ok active →
      ∀ p ∈ s.rows.parts, p.isActive instant = true →
        active.part? p.key = some p ∨
        ∃ q ∈ s.rows.parts, q.isActive instant = true ∧ (p.CutsBefore q ∨ q.CutsBefore p) ∧
          active.part? p.key = some q) ∧
    (∀ p ∈ s.rows.parts, ':' ∉ p.rev.toList → ∀ t, ∃ before after,
      s.rows.parts = before ++ p :: after ∧
      s.rows.stopPart p.key t = .ok { s.rows with
        parts := before ++ { p with life := { p.life with stop := some t } } :: after }) ∧
    ∀ p ∈ s.rows.parts, ':' ∈ p.rev.toList → ∀ t rows, s.rows.stopPart p.key t = .ok rows →
      ∃ before row after, s.rows.parts = before ++ row :: after ∧ row.names ≠ p.names ∧
        rows = { s.rows with
          parts := before ++ { row with life := { row.life with stop := some t } } :: after } := by
  have hstored := h.sound.parts.stored
  have hkeys : ∀ p ∈ s.rows.parts, ∀ q ∈ s.rows.parts,
      p.key = q.key ↔ p = q ∨ p.CutsBefore q ∨ q.CutsBefore p := by
    intro p hp q hq
    have hnames : p = q ↔ p.names = q.names := ⟨congrArg _, h.sound.eq_of_names hp hq⟩
    rw [Part.key_eq_key_iff (hstored p hp) (hstored q hq), hnames]
  refine ⟨fun p hp q hq => ⟨hkeys p hp q hq, Part.CutsBefore.colon_mem⟩, ?_, ?_, ?_⟩
  · intro instant active hload p hp hactive
    obtain ⟨q, hq, hqactive, hkey, hfound⟩ := h.sound.exists_part?_of_load hload hp hactive
    rcases (hkeys p hp q hq).1 hkey.symm with rfl | hcuts
    · exact .inl hfound
    · exact .inr ⟨q, hq, hqactive, hcuts, hfound⟩
  · intro p hp hcolon t
    have hnames := (Part.names_key_eq_iff (hstored p hp)).2 hcolon
    obtain ⟨rows, hok⟩ := Store.exists_stopPart_eq_ok hp hnames.symm t
    obtain ⟨before, row, after, hrows, hrow, rfl⟩ := h.sound.exists_stopped_part hok
    have hmem : row ∈ s.rows.parts := hrows ▸ List.mem_append_right _ List.mem_cons_self
    obtain rfl := h.sound.eq_of_names hmem hp (hrow.trans hnames)
    exact ⟨before, after, hrows, hok⟩
  · intro p hp hcolon t rows hstop
    obtain ⟨before, row, after, hrows, hrow, hresult⟩ := h.sound.exists_stopped_part hstop
    refine ⟨before, row, after, hrows, fun hnames => ?_, hresult⟩
    exact (Part.names_key_eq_iff (hstored p hp)).1 (hrow.symm.trans hnames) hcolon

/-- A part whose number has a colon. -/
def cutLate : Part := ⟨"A:B", "C", "station", none, default⟩

/-- A part whose revision has a colon, and whose key is the same text. -/
def cutEarly : Part := ⟨"A", "B:C", "station", none, default⟩

/-- A new store into which both are entered. -/
def clashing : OpenStore :=
  fresh.run ["parts.db"] [.write (.addPart cutLate) ⟨0, 0⟩, .write (.addPart cutEarly) ⟨0, 0⟩]

lemma reached_clashing : clashing.Reached ["parts.db"] := reached_fresh.run _

lemma parts_clashing : clashing.rows.parts = [cutLate, cutEarly] := rfl

/-- The key that both parts have stops the one that is cut at the last colon. -/
theorem key_identifies_clashing :
    cutLate.key = cutEarly.key ∧ ':' ∉ cutLate.rev.toList ∧
    (∀ t, ∃ before after, clashing.rows.parts = before ++ cutLate :: after ∧
      clashing.rows.stopPart cutLate.key t =
        .ok { clashing.rows with parts := before ++ cutLate.stoppedAt t :: after }) ∧
    ∃ rows, clashing.rows.stopPart cutLate.key ⟨100⟩ = .ok rows ∧
      rows.parts = [⟨"A:B", "C", "station", none, ⟨⟨0⟩, some ⟨100⟩⟩⟩, cutEarly] := by
  obtain ⟨hkeys, -, hstop, -⟩ := key_identifies reached_clashing
  have hlate : cutLate ∈ clashing.rows.parts := by simp [parts_clashing]
  have hearly : cutEarly ∈ clashing.rows.parts := by simp [parts_clashing]
  have hcolon : ':' ∉ cutLate.rev.toList := by decide
  refine ⟨(hkeys cutLate hlate cutEarly hearly).1.2 (.inr (.inr ⟨"B", rfl, rfl⟩)), hcolon,
    hstop cutLate hlate hcolon, ?_⟩
  obtain ⟨before, after, hrows, hstopped⟩ := hstop cutLate hlate hcolon ⟨100⟩
  refine ⟨_, hstopped, ?_⟩
  rw [parts_clashing] at hrows
  obtain ⟨rfl, -, rfl⟩ := Store.eq_of_cons_eq_append hrows (by decide)
  rfl

/-- Two parts with different names are entered, and have one key: no active set finds both of them,
and to stop the second one stops the first one instead. -/
theorem parts_share_key : clashing.Reached ["parts.db"] ∧
    clashing.rows.parts = [cutLate, cutEarly] ∧ cutLate.names ≠ cutEarly.names ∧
    cutLate.key = cutEarly.key ∧
    (∀ active : ActiveSet, ¬ (active.part? cutLate.key = some cutLate ∧
      active.part? cutEarly.key = some cutEarly)) ∧
    ∃ rows, clashing.rows.stopPart cutEarly.key ⟨100⟩ = .ok rows ∧
      rows.parts = [⟨"A:B", "C", "station", none, ⟨⟨0⟩, some ⟨100⟩⟩⟩, cutEarly] := by
  have hkey : cutLate.key = cutEarly.key := rfl
  have hstop : (clashing.rows.stopPart cutEarly.key ⟨100⟩).toOption.any (fun rows =>
      rows.parts == [⟨"A:B", "C", "station", none, ⟨⟨0⟩, some ⟨100⟩⟩⟩, cutEarly]) = true := rfl
  obtain ⟨rows, hrows, hparts⟩ := Outcome.exists_of_any hstop
  refine ⟨reached_clashing, parts_clashing, by decide, hkey, ?_, rows, hrows,
    beq_iff_eq.1 hparts⟩
  rintro active ⟨hlate, hearly⟩
  rw [hkey, hearly] at hlate
  exact absurd hlate (by decide)

end OpenStore

end Hookup
