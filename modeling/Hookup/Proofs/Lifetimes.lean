import Hookup.Time.Gps
import Mathlib.Tactic.Lemma
import Mathlib.Tactic.SplitIfs

/-!
# Lifetimes

A lifetime holds the instants from its start on and before its stop.  Nothing keeps the stop behind
the start: a record may be stopped in the second in which it starts, or earlier, and then its
lifetime holds no instant at all.  `Lifetime.overlaps` compares starts with stops and does not see
that.

* `Lifetime.lasts_iff` — a lifetime that is not stopped by its start is one that holds an instant.
* **`Lifetime.exists_common_iff`** — two lifetimes have an instant in common exactly if they overlap
  and both of them last.
-/

namespace Hookup

/-! ## The later and the earlier of two instants -/

namespace GpsTime

variable {a b t : GpsTime}

lemma later_le_iff : later a b ≤ t ↔ a ≤ t ∧ b ≤ t := by
  rw [later]
  simp only [le_def]
  split_ifs <;> omega

lemma later_lt_iff : later a b < t ↔ a < t ∧ b < t := by
  rw [later]
  simp only [le_def, lt_def]
  split_ifs <;> omega

lemma lt_earlier_iff : t < earlier a b ↔ t < a ∧ t < b := by
  rw [earlier]
  simp only [lt_def]
  split_ifs <;> omega

end GpsTime

/-! ## Instants of a lifetime -/

namespace Lifetime

variable {life a b : Lifetime} {t : GpsTime}

lemma contains_iff : life.contains t = true ↔
    life.start ≤ t ∧ ∀ stop, life.stop = some stop → t < stop := by
  rw [contains, Bool.and_eq_true, decide_eq_true_iff, Option.all_eq_true]
  simp only [decide_eq_true_iff]

/-- Whether a lifetime is not stopped at or before its start. -/
def Lasts (life : Lifetime) : Prop := ∀ stop, life.stop = some stop → life.start < stop

/-- The lifetimes that last are those that hold an instant. -/
lemma lasts_iff : life.Lasts ↔ ∃ t, life.contains t = true := by
  constructor
  · intro h
    exact ⟨life.start, contains_iff.2 ⟨Int.le_refl _, h⟩⟩
  · rintro ⟨t, ht⟩ stop hstop
    obtain ⟨hstart, hopen⟩ := contains_iff.1 ht
    exact Int.lt_of_le_of_lt hstart (hopen stop hstop)

/-! ## Lifetimes that overlap -/

lemma overlaps_iff : a.overlaps b = true ↔
    (∀ stop, a.stop = some stop → b.start < stop) ∧
      ∀ stop, b.stop = some stop → a.start < stop := by
  rw [overlaps, Bool.and_eq_true, Option.all_eq_true, Option.all_eq_true]
  simp only [decide_eq_true_iff]

lemma overlaps_comm (a b : Lifetime) : a.overlaps b = b.overlaps a := Bool.and_comm _ _

/-- Lifetimes that have an instant in common overlap. -/
lemma overlaps_of_contains (ha : a.contains t = true) (hb : b.contains t = true) :
    a.overlaps b = true := by
  rw [contains_iff] at ha hb
  rw [overlaps_iff]
  refine ⟨fun stop hstop => ?_, fun stop hstop => ?_⟩
  · exact Int.lt_of_le_of_lt hb.1 (ha.2 stop hstop)
  · exact Int.lt_of_le_of_lt ha.1 (hb.2 stop hstop)

/-- **Two lifetimes have an instant in common exactly if they overlap and both last**: the later of
the two starts is one. -/
theorem exists_common_iff : (∃ t, a.contains t = true ∧ b.contains t = true) ↔
    a.overlaps b = true ∧ a.Lasts ∧ b.Lasts := by
  constructor
  · rintro ⟨t, ha, hb⟩
    exact ⟨overlaps_of_contains ha hb, lasts_iff.2 ⟨t, ha⟩, lasts_iff.2 ⟨t, hb⟩⟩
  · rintro ⟨hoverlaps, ha, hb⟩
    obtain ⟨hab, hba⟩ := overlaps_iff.1 hoverlaps
    obtain ⟨hafter, hafter'⟩ := GpsTime.later_le_iff.1 (Int.le_refl (a.start.later b.start).toInt)
    refine ⟨a.start.later b.start, contains_iff.2 ⟨hafter, fun stop hstop => ?_⟩,
      contains_iff.2 ⟨hafter', fun stop hstop => ?_⟩⟩
    · exact GpsTime.later_lt_iff.2 ⟨ha stop hstop, hab stop hstop⟩
    · exact GpsTime.later_lt_iff.2 ⟨hba stop hstop, hb stop hstop⟩

end Lifetime

end Hookup
