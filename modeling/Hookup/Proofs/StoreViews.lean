import Hookup.Proofs.Lifetimes
import Hookup.Proofs.Outcome
import Hookup.Proofs.StoreRuns

/-!
# Views of a store

What a store lists at an instant, and what becomes of the views of the past when something is
stopped.

* `mem_activeParts`, `mem_activeConnections` — a view holds the rows that are active.
* **`views_before_stop`** — a stop changes no view of an earlier instant, except that a row which
  had been stopped already by then comes back.  `stop_brings_back_station` is such a run.
-/

namespace Hookup

/-- A lifetime with a new stop contains an earlier instant if it did so before, or if it had been
stopped already by then. -/
lemma Lifetime.contains_new_stop {life : Lifetime} {t instant : GpsTime} (h : instant < t) :
    { life with stop := some t }.contains instant = true ↔
      life.contains instant = true ∨
        life.start ≤ instant ∧ ∃ stop ≤ instant, life.stop = some stop := by
  have hstopped : { life with stop := some t }.contains instant = true ↔
      life.start ≤ instant := by
    rw [contains_iff]
    refine ⟨And.left, fun hstart => ⟨hstart, fun stop hstop => ?_⟩⟩
    cases hstop
    exact h
  rw [hstopped, contains_iff]
  constructor
  · intro hstart
    by_cases hopen : ∀ stop, life.stop = some stop → instant < stop
    · exact .inl ⟨hstart, hopen⟩
    · push Not at hopen
      obtain ⟨stop, hstop, hle⟩ := hopen
      exact .inr ⟨hstart, stop, Int.not_lt.1 hle, hstop⟩
  · rintro (⟨hstart, -⟩ | ⟨hstart, -⟩)
    · exact hstart
    · exact hstart

namespace Store

lemma mem_activeParts {s : Store} {t : GpsTime} {part : Part} :
    part ∈ s.activeParts t ↔ part ∈ s.parts ∧ part.isActive t = true :=
  (List.mergeSort_perm _ _).mem_iff.trans List.mem_filter

lemma mem_activeConnections {s : Store} {t : GpsTime} {c : Connection} :
    c ∈ s.activeConnections t ↔ c ∈ s.connections ∧ c.isActive t = true :=
  (List.mergeSort_perm _ _).mem_iff.trans List.mem_filter

/-- Whether a view of the parts has a part number and revision. -/
def ShowsPart (s : Store) (t : GpsTime) (names : String × String) : Prop :=
  ∃ part ∈ s.activeParts t, part.names = names

/-- Whether a view of the connections has one with the given ends and start. -/
def ShowsConnection (s : Store) (t : GpsTime) (identity : Terminal × Terminal × GpsTime) : Prop :=
  ∃ c ∈ s.activeConnections t, c.identity = identity

end Store

/-- In a list of which one row changes, but not its key, the keys of the active rows change as the
activity of that row does. -/
lemma exists_active_changed {α κ : Type} {keyOf : α → κ} {active : α → Prop} {again : Prop}
    {row changed : α} (hkey : keyOf changed = keyOf row)
    (hactive : active changed ↔ active row ∨ again) (before after : List α) (key : κ) :
    (∃ r, (r ∈ before ++ changed :: after ∧ active r) ∧ keyOf r = key) ↔
      (∃ r, (r ∈ before ++ row :: after ∧ active r) ∧ keyOf r = key) ∨ key = keyOf row ∧ again := by
  simp only [List.mem_append, List.mem_cons, or_and_right, exists_or, exists_eq_left, and_assoc,
    hkey, hactive, @eq_comm _ key]
  grind

namespace OpenStore

/-- **Stops and the past.**  After a stop, a view of an earlier instant shows what it showed before,
and in addition what was stopped if that had been stopped already by the instant of the view. -/
theorem views_before_stop {place : Place} {s : OpenStore} (h : s.Reached place) :
    (∀ key t rows, s.rows.stopPart key t = .ok rows →
      ∃ row ∈ s.rows.parts, row.names = key.names ∧ ∀ instant < t, ∀ names,
        rows.ShowsPart instant names ↔ s.rows.ShowsPart instant names ∨
          names = row.names ∧ row.life.start ≤ instant ∧
            ∃ stop ≤ instant, row.life.stop = some stop) ∧
    ∀ c t rows, s.rows.stopConnection c t = .ok rows →
      ∃ row ∈ s.rows.connections, row.identity = c.canonical.identity ∧
        ∀ instant < t, ∀ identity,
          rows.ShowsConnection instant identity ↔ s.rows.ShowsConnection instant identity ∨
            identity = row.identity ∧ row.life.start ≤ instant ∧
              ∃ stop ≤ instant, row.life.stop = some stop := by
  constructor
  · intro key t rows hstop
    obtain ⟨before, row, after, hrows, hkey, rfl⟩ := h.sound.exists_stopped_part hstop
    refine ⟨row, hrows ▸ List.mem_append_right _ List.mem_cons_self, hkey, ?_⟩
    intro instant hlt names
    simp only [Store.ShowsPart, Store.mem_activeParts, hrows]
    exact exists_active_changed (row.names_stoppedAt t) (Lifetime.contains_new_stop hlt) before
      after names
  · intro c t rows hstop
    obtain ⟨before, row, after, hrows, hkey, rfl⟩ := h.sound.exists_stopped_connection hstop
    refine ⟨row, hrows ▸ List.mem_append_right _ List.mem_cons_self, hkey, ?_⟩
    intro instant hlt identity
    simp only [Store.ShowsConnection, Store.mem_activeConnections, hrows]
    exact exists_active_changed (row.identity_stoppedAt t) (Lifetime.contains_new_stop hlt) before
      after identity

/-- A station that is stopped for the first time stays in all views of earlier instants. -/
theorem views_before_stop_station :
    ∃ rows, (fresh.step ["parts.db"] enterStation).rows.stopPart ⟨"HH1:A"⟩ ⟨100⟩ = .ok rows ∧
      ∀ instant < (⟨100⟩ : GpsTime), ∀ names, rows.ShowsPart instant names ↔
        (fresh.step ["parts.db"] enterStation).rows.ShowsPart instant names := by
  have hstop : ((fresh.step ["parts.db"] enterStation).rows.stopPart ⟨"HH1:A"⟩
      ⟨100⟩).toOption.any (fun _ => true) = true := rfl
  have hparts : (fresh.step ["parts.db"] enterStation).rows.parts =
      [⟨"HH1", "A", "station", none, ⟨⟨0⟩, none⟩⟩] := rfl
  obtain ⟨rows, hrows, -⟩ := Outcome.exists_of_any hstop
  obtain ⟨row, hmem, -, hviews⟩ :=
    (views_before_stop (reached_fresh.step enterStation)).1 ⟨"HH1:A"⟩ ⟨100⟩ rows hrows
  rw [hparts, List.mem_singleton] at hmem
  subst hmem
  refine ⟨rows, hrows, fun instant hlt names => (hviews instant hlt names).trans ?_⟩
  simp

/-- The store in which a station was entered, and stopped after 100 seconds. -/
def stationStopped : OpenStore :=
  (fresh.step ["parts.db"] enterStation).step ["parts.db"]
    (.write (.stopPart ⟨"HH1:A"⟩ ⟨100⟩) ⟨0, 0⟩)

/-- A second stop, 200 seconds after the start, brings the station back into the view of second 150,
from which the first stop had taken it. -/
theorem stop_brings_back_station : stationStopped.Reached ["parts.db"] ∧
    ¬ stationStopped.rows.ShowsPart ⟨150⟩ ("HH1", "A") ∧
    ∃ rows, stationStopped.rows.stopPart ⟨"HH1:A"⟩ ⟨200⟩ = .ok rows ∧
      rows.ShowsPart ⟨150⟩ ("HH1", "A") := by
  refine ⟨(reached_fresh.step _).step _, ?_, ?_⟩
  · have hparts : stationStopped.rows.parts =
        [⟨"HH1", "A", "station", none, ⟨⟨0⟩, some ⟨100⟩⟩⟩] := rfl
    rintro ⟨part, hpart, -⟩
    rw [Store.mem_activeParts, hparts, List.mem_singleton] at hpart
    obtain ⟨rfl, hactive⟩ := hpart
    exact absurd hactive (by decide)
  · have hstop : (stationStopped.rows.stopPart ⟨"HH1:A"⟩ ⟨200⟩).toOption.any (fun rows =>
        rows.parts == [⟨"HH1", "A", "station", none, ⟨⟨0⟩, some ⟨200⟩⟩⟩]) = true := rfl
    obtain ⟨rows, hrows, hparts⟩ := Outcome.exists_of_any hstop
    refine ⟨rows, hrows, ⟨"HH1", "A", "station", none, ⟨⟨0⟩, some ⟨200⟩⟩⟩, ?_, rfl⟩
    rw [Store.mem_activeParts, beq_iff_eq.1 hparts]
    exact ⟨List.mem_singleton_self _, by decide⟩

end OpenStore

end Hookup
