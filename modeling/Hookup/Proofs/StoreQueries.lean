import Hookup.Proofs.ActiveSet
import Hookup.Proofs.Outcome
import Hookup.Store

/-!
# What queries return

A store answers from its tables, by conditions on columns that may be empty; an active set is made
by testing lifetimes.  The two agree.

* `selects_active` — a row satisfies the condition exactly if the lifetime that is kept in it
  contains the instant, also when it stops at its start or before that.
* `Table.Faithful` — the columns of a row are read back as the record that was kept in it.
* `source_activeParts` and its like — so no read of a store fails, and each gives its view.
* **`source_agrees`** — what is read for an instant are the records of that instant, which a set
  made of them keeps, and a set loaded from them has the wiring of one that is made of the whole
  history, or neither can be made.
-/

namespace Hookup

/-! ## Conditions -/

namespace Condition

variable {t : GpsTime} {row : Row} {column : String}

lemma selects_both (a b : Condition) (t : GpsTime) (row : Row) :
    (both a b).selects t row = (a.selects t row && b.selects t row) := by
  rw [selects, value?, selects, selects]
  rcases a.value? row t with _ | _ | _ <;> rcases b.value? row t with _ | _ | _ <;> rfl

lemma selects_either (a b : Condition) (t : GpsTime) (row : Row) :
    (either a b).selects t row = (a.selects t row || b.selects t row) := by
  rw [selects, value?, selects, selects]
  rcases a.value? row t with _ | _ | _ <;> rcases b.value? row t with _ | _ | _ <;> rfl

lemma selects_atMost {time : GpsTime} (h : row.lookup column = some (.ofTime time)) :
    (atMost column).selects t row = decide (time ≤ t) := by
  rw [selects, value?, time?, h]
  rfl

lemma selects_isNull {time : Option GpsTime}
    (h : row.lookup column = some (.ofOption .ofTime time)) :
    (isNull column).selects t row = time.isNone := by
  rw [selects, value?, isEmpty, h]
  cases time <;> rfl

/-- Nothing is known to be later in an empty column. -/
lemma selects_after {time : Option GpsTime}
    (h : row.lookup column = some (.ofOption .ofTime time)) :
    (after column).selects t row = time.any fun time => decide (t < time) := by
  rw [selects, value?, time?, h]
  cases time <;> rfl

/-- **The condition on rows is the test of lifetimes.** -/
theorem selects_active {life : Lifetime}
    (hstart : row.lookup "start_gpstime" = some (.ofTime life.start))
    (hstop : row.lookup "stop_gpstime" = some (.ofOption .ofTime life.stop)) :
    active.selects t row = life.contains t := by
  rw [active, selects_both, selects_either, selects_atMost hstart, selects_isNull hstop,
    selects_after hstop, Lifetime.contains]
  cases life.stop <;> rfl

/-- A part that was stopped when it started is never in service. -/
example : active.selects ⟨5⟩
    (Part.table.row ⟨"HH1", "A", "station", none, ⟨⟨5⟩, some ⟨5⟩⟩⟩) = false := by decide +kernel

end Condition

/-! ## Tables -/

namespace Cell

@[simp] lemma asText?_text (s : String) : asText? (.text s) = some s := rfl

@[simp] lemma asReal?_real (x : Float) : asReal? (.real x) = some x := rfl

@[simp] lemma asTime?_ofTime (t : GpsTime) : asTime? (ofTime t) = some t := rfl

@[simp] lemma asOption?_text (s : Option String) :
    asOption? asText? (ofOption .text s) = some s := by
  cases s <;> rfl

@[simp] lemma asOption?_ofTime (t : Option GpsTime) :
    asOption? asTime? (ofOption ofTime t) = some t := by
  cases t <;> rfl

end Cell

namespace Table

variable {α : Type} {table : Table α}

/-- Whether every record is read back from its row. -/
def Faithful (table : Table α) : Prop := ∀ a, table.read? (table.row a) = some a

/-- What is read from rows of records are the records. -/
lemma Faithful.list_eq (h : table.Faithful) (operation : String) (records : List α) :
    table.list operation records = .ok records := by
  rw [list, read, Outcome.mapM_map_eq_some fun record _ => h record]
  rfl

/-- What a condition selects are the records that pass the test that it stands for. -/
lemma Faithful.select_eq (h : table.Faithful) (operation : String) {condition : Condition}
    {t : GpsTime} {test : α → Bool} (htest : ∀ a, condition.selects t (table.row a) = test a)
    (records : List α) :
    table.select operation condition t records = .ok (records.filter test) := by
  have hselect : table.select operation condition t records =
      table.list operation (records.filter test) := by
    have hrows : records.filter (condition.selects t ∘ table.row) = records.filter test :=
      List.filter_congr fun a _ => htest a
    rw [select, list, List.filter_map, hrows]
  rw [hselect, h.list_eq]

end Table

lemma Part.faithful : Part.table.Faithful := fun part => by
  simp [Table.read?, Part.table, List.lookup_cons]

lemma Connection.faithful : Connection.table.Faithful := fun c => by
  simp [Table.read?, Connection.table, List.lookup_cons]

lemma PartNote.faithful : PartNote.table.Faithful := fun note => by
  simp [Table.read?, PartNote.table, List.lookup_cons]

lemma AntennaStatus.faithful : AntennaStatus.table.Faithful := fun status => by
  simp [Table.read?, AntennaStatus.table, List.lookup_cons]

lemma Location.faithful : Location.table.Faithful := fun location => by
  simp [Table.read?, Location.table, List.lookup_cons]

/-! ## The reads of a store -/

namespace Store

variable (s : Store) (t : GpsTime)

lemma source_activeParts : s.source.activeParts t = .ok (s.activeParts t) := by
  have hselect : Part.table.select "active_parts" .active t s.parts =
      .ok (s.parts.filter (·.isActive t)) :=
    Part.faithful.select_eq _ (fun _ => Condition.selects_active rfl rfl) _
  simp only [source, hselect]
  rfl

lemma source_activeConnections : s.source.activeConnections t = .ok (s.activeConnections t) := by
  have hselect : Connection.table.select "active_connections" .active t s.connections =
      .ok (s.connections.filter (·.isActive t)) :=
    Connection.faithful.select_eq _ (fun _ => Condition.selects_active rfl rfl) _
  simp only [source, hselect]
  rfl

lemma source_activeNotes : s.source.activeNotes t = .ok (s.activeNotes t) := by
  have hselect : PartNote.table.select "active_part_info" .posted t s.notes =
      .ok (s.notes.filter fun note => decide (note.posted ≤ t)) :=
    PartNote.faithful.select_eq _ (fun _ => Condition.selects_atMost rfl) _
  simp only [source, hselect]
  rfl

lemma source_activeStatuses : s.source.activeStatuses t = .ok (s.activeStatuses t) := by
  have hselect : AntennaStatus.table.select "active_apriori" .active t s.statuses =
      .ok (s.statuses.filter (·.isActive t)) :=
    AntennaStatus.faithful.select_eq _ (fun _ => Condition.selects_active rfl rfl) _
  simp only [source, hselect]
  rfl

lemma source_activeLocations : s.source.activeLocations t = .ok (s.activeLocations t) :=
  Location.faithful.select_eq "active_geo" (fun _ => Condition.selects_atMost rfl) s.locations

lemma source_listParts : s.source.listParts = .ok s.listParts := by
  simp only [source, Part.faithful.list_eq]
  rfl

lemma source_listConnections : s.source.listConnections = .ok s.listConnections := by
  simp only [source, Connection.faithful.list_eq]
  rfl

/-- No read fails, so a set is made of the views of the store. -/
lemma load_source : ActiveSet.load s.source t = ActiveSet.ofRecords t
    ⟨s.activeParts t, s.activeConnections t, s.activeNotes t, s.activeStatuses t,
      s.activeLocations t⟩ := by
  rw [ActiveSet.load, source_activeParts, source_activeConnections, source_activeNotes,
    source_activeStatuses, source_activeLocations]
  rfl

/-! ## Views -/

lemma perm_inRowOrder {α : Type} (life : α → Lifetime) (rows : List α) :
    (inRowOrder life rows).Perm rows := List.mergeSort_perm _ _

/-- What a store reads back at an instant is wired like its full listing. -/
lemma perm_activeConnections (store : Store) (t : GpsTime) :
    (ActiveSet.activeConnections t (store.activeConnections t)).Perm
      (ActiveSet.activeConnections t store.listConnections) := by
  have hread : (store.activeConnections t).Perm (store.connections.filter (·.isActive t)) :=
    perm_inRowOrder _ _
  have hlist : store.listConnections.Perm store.connections := List.mergeSort_perm _ _
  refine (ActiveSet.perm_activeConnections t hread).trans ?_
  rw [ActiveSet.activeConnections, List.filter_filter]
  simp only [Bool.and_self]
  exact ActiveSet.perm_activeConnections t hlist.symm

end Store

lemma PartNote.pairwise_inOrder (notes : List PartNote) :
    (inOrder notes).Pairwise fun a b => a.posted ≤ b.posted := by
  have hsorted : (inOrder notes).Pairwise fun a b => decide (a.posted ≤ b.posted) = true := by
    refine List.pairwise_mergeSort (fun a b c hab hbc => ?_) (fun a b => ?_) notes
    · simp only [decide_eq_true_eq, GpsTime.le_def] at hab hbc ⊢
      omega
    · simp only [Bool.or_eq_true, decide_eq_true_eq, GpsTime.le_def]
      omega
  exact hsorted.imp of_decide_eq_true

/-- Whether a source reads these records at an instant. -/
structure RecordSource.Reads (source : RecordSource) (t : GpsTime) (records : Records) : Prop where
  parts : source.activeParts t = .ok records.parts
  connections : source.activeConnections t = .ok records.connections
  notes : source.activeNotes t = .ok records.notes
  statuses : source.activeStatuses t = .ok records.statuses
  locations : source.activeLocations t = .ok records.locations

namespace Store

/-- Whether records are those that a store holds for an instant: all of them and no others, as they
were stored, in whatever order.  The notes are in the order of posting. -/
structure Shows (s : Store) (t : GpsTime) (records : Records) : Prop where
  parts : records.parts.Perm (s.parts.filter (·.isActive t))
  connections : records.connections.Perm (s.connections.filter (·.isActive t))
  notes : records.notes.Perm (s.notes.filter fun note => decide (note.posted ≤ t))
  inOrder : records.notes.Pairwise fun a b => a.posted ≤ b.posted
  statuses : records.statuses.Perm (s.statuses.filter (·.isActive t))
  locations : records.locations.Perm
    (s.locations.filter fun location => decide (location.created ≤ t))

variable {s : Store} {t : GpsTime}

/-- Making a set of such records leaves out none of them. -/
lemma Shows.activeAt_eq {records : Records} (h : s.Shows t records) :
    records.activeAt t = records := by
  have hkept : ∀ {α : Type} {rows all : List α} {test : α → Bool},
      rows.Perm (all.filter test) → rows.filter test = rows := fun hperm =>
    List.filter_eq_self.2 fun _ hrow => (List.mem_filter.1 (hperm.mem_iff.1 hrow)).2
  rw [Records.activeAt, hkept h.parts, hkept h.connections, hkept h.notes, hkept h.statuses,
    hkept h.locations]

end Store

/-! ## Whole histories -/

/-- Whether an error reports that two connections claim one port. -/
def Error.IsContest (e : Error) : Prop := ∃ part port side existing duplicate,
  e = .duplicateConnection part port side existing duplicate

namespace ActiveSet

variable {t : GpsTime} {records others : Records}

/-- Sets made of the same active connections have the same wiring, or neither can be made. -/
lemma ofRecords_agree (h : (activeConnections t records.connections).Perm
      (activeConnections t others.connections)) :
    (∃ s s', ofRecords t records = .ok s ∧ ofRecords t others = .ok s' ∧ s.wiring = s'.wiring) ∨
    ∃ e e', ofRecords t records = .error e ∧ ofRecords t others = .error e' ∧ e.IsContest ∧
      e'.IsContest := by
  have hisOk : (∃ s, ofRecords t records = .ok s) ↔ ∃ s, ofRecords t others = .ok s := by
    rw [ofRecords_isOk_iff, ofRecords_isOk_iff]
    exact h.pairwise_iff fun h => h.symm
  -- the two errors may be about different pairs, since each reports the first of its own order
  have hcontest : ∀ {records : Records} {e : Error}, ofRecords t records = .error e →
      e.IsContest := by
    intro records e he
    obtain ⟨side, first, second, -, heq⟩ := exists_contest_of_error he
    exact ⟨_, _, _, _, _, heq⟩
  cases hs : ofRecords t records with
  | ok s =>
      obtain ⟨s', hs'⟩ := hisOk.1 ⟨s, hs⟩
      exact .inl ⟨s, s', rfl, hs', (holds_of_ofRecords hs).eq_of_perm (holds_of_ofRecords hs') h⟩
  | error e =>
      cases hs' : ofRecords t others with
      | ok s' =>
          obtain ⟨s, hok⟩ := hisOk.2 ⟨s', hs'⟩
          rw [hs] at hok
          cases hok
      | error e' => exact .inr ⟨e, e', rfl, rfl, hcontest hs, hcontest hs'⟩

end ActiveSet

namespace Store

/-- **The views of a store are exact.**  Whatever a store holds, and for every instant, no read
fails.  The reads of the instant give the records of that instant as they were stored, so that none
is left out when a set is made of them: every connection, every note, and every key of a part and
name of an antenna or station is in the set.  The set that is loaded for the instant has the same
indexes and the same number of connections as one that is made of the full listings, whatever the
other records of that one are, unless both are refused for a contested port. -/
theorem source_agrees (s : Store) (t : GpsTime) :
    (∃ records, s.source.Reads t records ∧ s.Shows t records ∧ records.activeAt t = records ∧
      ∀ made, ActiveSet.ofRecords t records = .ok made → made.Keeps records) ∧
    ∃ parts connections, s.source.listParts = .ok parts ∧
      s.source.listConnections = .ok connections ∧
      parts.Perm s.parts ∧ connections.Perm s.connections ∧
      ∀ notes statuses locations,
        (∃ loaded whole, ActiveSet.load s.source t = .ok loaded ∧
          ActiveSet.ofRecords t ⟨parts, connections, notes, statuses, locations⟩ = .ok whole ∧
          loaded.wiring = whole.wiring) ∨
        ∃ e e', ActiveSet.load s.source t = .error e ∧
          ActiveSet.ofRecords t ⟨parts, connections, notes, statuses, locations⟩ = .error e' ∧
          e.IsContest ∧ e'.IsContest := by
  have hshows : s.Shows t ⟨s.activeParts t, s.activeConnections t, s.activeNotes t,
      s.activeStatuses t, s.activeLocations t⟩ :=
    ⟨perm_inRowOrder _ _, perm_inRowOrder _ _, PartNote.perm_inOrder _,
      PartNote.pairwise_inOrder _, perm_inRowOrder _ _, .refl _⟩
  refine ⟨⟨_, ⟨s.source_activeParts t, s.source_activeConnections t, s.source_activeNotes t,
    s.source_activeStatuses t, s.source_activeLocations t⟩, hshows, hshows.activeAt_eq,
    fun made hmade => ?_⟩, s.listParts, s.listConnections, s.source_listParts,
    s.source_listConnections, List.mergeSort_perm _ _, List.mergeSort_perm _ _,
    fun notes statuses locations => ?_⟩
  · have hkeeps := ActiveSet.keeps_of_ofRecords hmade
    rwa [hshows.activeAt_eq] at hkeeps
  · rw [s.load_source]
    exact ActiveSet.ofRecords_agree (s.perm_activeConnections t)

end Store

end Hookup
