import Hookup.Proofs.CanonicalName
import Hookup.Store
import Mathlib.Data.List.Nodup

/-!
# Writes to a store

What each write does to the rows, and what all of them keep.

* `StoreWrite` — the writes as data; `Store.perform` carries one out.
* **`perform_cases`** — a write either succeeds, and leaves the rows of `after`, or is refused for
  the reason of `Refuses`.
* **`Sound.perform`** — in every table the primary key is unique and all names are canonical.
* **`extends_of_perform`** — no row is lost, and only stop times change: the old rows are the first
  ones of the table still, up to their stops.
* **`Sound.exists_stopped_part`**, **`Sound.exists_stopped_connection`** — a stop that succeeds
  sets the stop time of one row.
-/

namespace Hookup

/-! ## Keys and stored forms -/

/-- The primary key of a part. -/
def Part.names (part : Part) : String × String := (part.hpn, part.rev)

/-- The primary key of a connection. -/
def Connection.identity (c : Connection) : Terminal × Terminal × GpsTime :=
  (c.up, c.down, c.life.start)

/-- The primary key of a note. -/
def PartNote.identity (note : PartNote) : String × String × GpsTime :=
  (note.hpn, note.rev, note.posted)

/-- The primary key of a status. -/
def AntennaStatus.identity (status : AntennaStatus) : String × GpsTime :=
  (status.antenna, status.life.start)

/-- A note as the store keeps it. -/
def PartNote.canonical (note : PartNote) : PartNote :=
  { note with hpn := canonicalName note.hpn, rev := canonicalName note.rev }

/-- A status as the store keeps it. -/
def AntennaStatus.canonical (status : AntennaStatus) : AntennaStatus :=
  { status with antenna := canonicalName status.antenna }

/-- A location as the store keeps it. -/
def Location.stored (location : Location) : Location :=
  { location with
    station := canonicalName location.station
    northing := Store.coordinate location.northing
    easting := Store.coordinate location.easting
    elevation := Store.coordinate location.elevation }

/-- Whether a coordinate of a location is not a number. -/
def Location.lacksCoordinate (location : Location) : Bool :=
  let stored := location.stored
  [stored.northing, stored.easting, stored.elevation].any Float.isNaN

/-- The part number and revision that a key splits into, as rows have them. -/
def PartKey.names (key : PartKey) : String × String :=
  (canonicalName key.split.1, canonicalName key.split.2)

/-- A part whatever its stop. -/
def Part.withoutStop (part : Part) : Part := { part with life := { part.life with stop := none } }

/-- A connection whatever its stop. -/
def Connection.withoutStop (c : Connection) : Connection :=
  { c with life := { c.life with stop := none } }

/-- A part with another stop. -/
def Part.stoppedAt (t : GpsTime) (part : Part) : Part :=
  { part with life := { part.life with stop := some t } }

/-- A connection with another stop. -/
def Connection.stoppedAt (t : GpsTime) (c : Connection) : Connection :=
  { c with life := { c.life with stop := some t } }

@[simp] lemma Part.names_stoppedAt (t : GpsTime) (part : Part) :
    (part.stoppedAt t).names = part.names := rfl

@[simp] lemma Part.withoutStop_stoppedAt (t : GpsTime) (part : Part) :
    (part.stoppedAt t).withoutStop = part.withoutStop := rfl

@[simp] lemma Part.canonical_stoppedAt (t : GpsTime) (part : Part) :
    (part.stoppedAt t).canonical = part.canonical.stoppedAt t := rfl

@[simp] lemma Connection.canonical_stoppedAt (t : GpsTime) (c : Connection) :
    (c.stoppedAt t).canonical = c.canonical.stoppedAt t := rfl

@[simp] lemma Connection.identity_stoppedAt (t : GpsTime) (c : Connection) :
    (c.stoppedAt t).identity = c.identity := rfl

@[simp] lemma Connection.withoutStop_stoppedAt (t : GpsTime) (c : Connection) :
    (c.stoppedAt t).withoutStop = c.withoutStop := rfl

lemma PartNote.identity_eq_iff {row note : PartNote} : row.identity = note.identity ↔
    (row.hpn == note.hpn && row.rev == note.rev && row.posted == note.posted) = true := by
  simp only [identity, Prod.mk.injEq, Bool.and_eq_true, beq_iff_eq, and_assoc]

lemma AntennaStatus.identity_eq_iff {row status : AntennaStatus} :
    row.identity = status.identity ↔
      (row.antenna == status.antenna && row.life.start == status.life.start) = true := by
  simp only [identity, Prod.mk.injEq, Bool.and_eq_true, beq_iff_eq]

/-- A write to a store. -/
inductive StoreWrite where
  | addPart (part : Part)
  | stopPart (key : PartKey) (t : GpsTime)
  | addConnection (c : Connection)
  | stopConnection (c : Connection) (t : GpsTime)
  | addNote (note : PartNote)
  | addStatus (status : AntennaStatus)
  | addLocation (location : Location)
  | recordVersion (version : StoreVersion)

namespace Store

/-- Carry out a write. -/
def perform (s : Store) : StoreWrite → Except StoreError Store
  | .addPart part => s.addPart part
  | .stopPart key t => s.stopPart key t
  | .addConnection c => s.addConnection c
  | .stopConnection c t => s.stopConnection c t
  | .addNote note => s.addNote note
  | .addStatus status => s.addStatus status
  | .addLocation location => s.addLocation location
  | .recordVersion version => pure (s.recordVersion version)

variable {s s' : Store}

/-! ## What a write does -/

lemma samePart_iff {a b : Part} : samePart a b = true ↔ b.names = a.names := by
  rw [samePart, Bool.and_eq_true, beq_iff_eq, beq_iff_eq, eq_comm, @eq_comm _ a.rev, Part.names,
    Part.names, Prod.mk.injEq]

lemma sameConnection_iff {a b : Connection} :
    sameConnection a b = true ↔ b.identity = a.identity := by
  rw [sameConnection, Bool.and_eq_true, Bool.and_eq_true, beq_iff_eq, beq_iff_eq, beq_iff_eq,
    eq_comm, @eq_comm _ a.down, @eq_comm _ a.life.start, Connection.identity, Connection.identity,
    Prod.mk.injEq, Prod.mk.injEq, and_assoc]

lemma hasKey_iff {key : PartKey} {part : Part} :
    hasKey key part = true ↔ part.names = key.names := by
  simp [hasKey, Part.names, PartKey.names]

/-- The rows of a table with changes to those of a key. -/
def changeAt {α κ : Type} [DecidableEq κ] (keyOf : α → κ) (key : κ) (change : α → α)
    (rows : List α) : List α :=
  rows.map fun row => if keyOf row = key then change row else row

/-- A change shows in nothing that it keeps. -/
lemma map_changeAt {α β κ : Type} [DecidableEq κ] {keyOf : α → κ} {change : α → α} {f : α → β}
    (h : ∀ row, f (change row) = f row) (key : κ) (rows : List α) :
    (changeAt keyOf key change rows).map f = rows.map f := by
  rw [changeAt, List.map_map]
  refine List.map_congr_left fun row _ => ?_
  rw [Function.comp_apply]
  split_ifs <;> simp only [h]

/-- The rows after a write that succeeds. -/
def after (s : Store) : StoreWrite → Store
  | .addPart part => { s with parts := s.parts ++ [part.canonical] }
  | .stopPart key t => { s with parts := changeAt Part.names key.names (·.stoppedAt t) s.parts }
  | .addConnection c => { s with connections := s.connections ++ [c.canonical] }
  | .stopConnection c t => { s with
      connections := changeAt Connection.identity c.canonical.identity (·.stoppedAt t)
        s.connections }
  | .addNote note => { s with notes := s.notes ++ [note.canonical] }
  | .addStatus status => { s with statuses := s.statuses ++ [status.canonical] }
  | .addLocation location => { s with locations := s.locations ++ [location.stored] }
  | .recordVersion version => s.recordVersion version

/-- Why a store refuses a write. -/
inductive Refuses (s : Store) : StoreWrite → StoreError → Prop
  | part {part row : Part} (h : row ∈ s.parts) (hkey : row.names = part.canonical.names) :
      Refuses s (.addPart part) (.duplicatePart part.key)
  | noPart {key : PartKey} {t : GpsTime} (h : ∀ row ∈ s.parts, row.names ≠ key.names) :
      Refuses s (.stopPart key t) (.notFound key.text)
  | connection {c row : Connection} (h : row ∈ s.connections)
      (hkey : row.identity = c.canonical.identity) : Refuses s (.addConnection c) .keyTaken
  | noConnection {c : Connection} {t : GpsTime}
      (h : ∀ row ∈ s.connections, row.identity ≠ c.canonical.identity) :
      Refuses s (.stopConnection c t) (.notFound c.canonical.text)
  | note {note row : PartNote} (h : row ∈ s.notes) (hkey : row.identity = note.canonical.identity) :
      Refuses s (.addNote note) .keyTaken
  | status {status row : AntennaStatus} (h : row ∈ s.statuses)
      (hkey : row.identity = status.canonical.identity) : Refuses s (.addStatus status) .keyTaken
  | coordinate {location : Location} (h : location.lacksCoordinate = true) :
      Refuses s (.addLocation location) .keyTaken
  | location {location row : Location} (h : row ∈ s.locations)
      (hkey : row.station = location.stored.station) : Refuses s (.addLocation location) .keyTaken

/-- A write that one condition forbids, with one error, is refused or done. -/
lemma refused_or_done {w : StoreWrite} {result : Except StoreError Store} {b : Bool}
    {e : StoreError} {t : Store} (hresult : result = if b then throw e else pure t)
    (hrefuses : b = true ↔ s.Refuses w e) (honly : ∀ e', s.Refuses w e' → e' = e) :
    (∃ e, result = .error e ∧ s.Refuses w e) ∨ (result = .ok t ∧ ∀ e, ¬ s.Refuses w e) := by
  cases b with
  | true => exact .inl ⟨e, hresult, hrefuses.1 rfl⟩
  | false =>
      refine .inr ⟨hresult, fun e' h => ?_⟩
      rw [honly e' h, ← hrefuses] at h
      cases h

/-- **A write is refused for a reason, or there is no reason and it is done.** -/
theorem perform_cases (s : Store) (w : StoreWrite) :
    (∃ e, s.perform w = .error e ∧ s.Refuses w e) ∨
      (s.perform w = .ok (s.after w) ∧ ∀ e, ¬ s.Refuses w e) := by
  cases w with
  | addPart part =>
      have hresult : s.addPart part = if s.parts.any (samePart part.canonical) then
          throw (.duplicatePart part.key) else pure (s.after (.addPart part)) := by
        rw [← Part.key_canonical]
        rfl
      refine refused_or_done hresult ⟨fun h => ?_, ?_⟩ fun _ h => by cases h; rfl
      · obtain ⟨row, hrow, hsame⟩ := List.any_eq_true.1 h
        exact .part hrow (samePart_iff.1 hsame)
      · intro h
        cases h with
        | part hrow hkey => exact List.any_eq_true.2 ⟨_, hrow, samePart_iff.2 hkey⟩
  | stopPart key t =>
      have hrows : (s.parts.map fun part => if hasKey key part then part.stoppedAt t else part) =
          changeAt Part.names key.names (·.stoppedAt t) s.parts := by
        simp only [changeAt, hasKey_iff]
      have hresult : s.stopPart key t = if !s.parts.any (hasKey key) then throw (.notFound key.text)
          else pure (s.after (.stopPart key t)) := by
        rw [after, ← hrows, stopPart]
        cases s.parts.any (hasKey key) <;> rfl
      refine refused_or_done hresult ?_ fun _ h => by cases h; rfl
      rw [Bool.not_eq_true', List.any_eq_false]
      constructor
      · exact fun h => .noPart fun row hrow hkey => h row hrow (hasKey_iff.2 hkey)
      · intro h row hrow hkey
        cases h with
        | noPart hnone => exact hnone row hrow (hasKey_iff.1 hkey)
  | addConnection c =>
      refine refused_or_done (b := s.connections.any (sameConnection c.canonical)) rfl
        ⟨fun h => ?_, ?_⟩ fun _ h => by cases h; rfl
      · obtain ⟨row, hrow, hsame⟩ := List.any_eq_true.1 h
        exact .connection hrow (sameConnection_iff.1 hsame)
      · intro h
        cases h with
        | connection hrow hkey => exact List.any_eq_true.2 ⟨_, hrow, sameConnection_iff.2 hkey⟩
  | stopConnection c t =>
      have hrows : (s.connections.map fun row =>
            if sameConnection c.canonical row then row.stoppedAt t else row) =
          changeAt Connection.identity c.canonical.identity (·.stoppedAt t) s.connections := by
        simp only [changeAt, sameConnection_iff]
      have hresult : s.stopConnection c t =
          if !s.connections.any (sameConnection c.canonical) then
            throw (.notFound c.canonical.text) else pure (s.after (.stopConnection c t)) := by
        rw [after, ← hrows, stopConnection]
        cases s.connections.any (sameConnection c.canonical) <;> rfl
      refine refused_or_done hresult ?_ fun _ h => by cases h; rfl
      rw [Bool.not_eq_true', List.any_eq_false]
      constructor
      · exact fun h => .noConnection fun row hrow hkey => h row hrow (sameConnection_iff.2 hkey)
      · intro h row hrow hkey
        cases h with
        | noConnection hnone => exact hnone row hrow (sameConnection_iff.1 hkey)
  | addNote note =>
      refine refused_or_done (b := s.notes.any fun row => row.hpn == note.canonical.hpn &&
        row.rev == note.canonical.rev && row.posted == note.canonical.posted) rfl
        ⟨fun h => ?_, ?_⟩ fun _ h => by cases h; rfl
      · obtain ⟨row, hrow, hsame⟩ := List.any_eq_true.1 h
        exact .note hrow (PartNote.identity_eq_iff.2 hsame)
      · intro h
        cases h with
        | note hrow hkey => exact List.any_eq_true.2 ⟨_, hrow, PartNote.identity_eq_iff.1 hkey⟩
  | addStatus status =>
      refine refused_or_done (b := s.statuses.any fun row =>
        row.antenna == status.canonical.antenna && row.life.start == status.life.start) rfl
        ⟨fun h => ?_, ?_⟩ fun _ h => by cases h; rfl
      · obtain ⟨row, hrow, hsame⟩ := List.any_eq_true.1 h
        exact .status hrow (AntennaStatus.identity_eq_iff.2 hsame)
      · intro h
        cases h with
        | status hrow hkey =>
            exact List.any_eq_true.2 ⟨_, hrow, AntennaStatus.identity_eq_iff.1 hkey⟩
  | addLocation location =>
      refine refused_or_done (b := location.lacksCoordinate ||
        s.locations.any (·.station == location.stored.station)) rfl ⟨fun h => ?_, ?_⟩
        fun _ h => by cases h <;> rfl
      · rcases Bool.or_eq_true_iff.1 h with h | h
        · exact .coordinate h
        · obtain ⟨row, hrow, hsame⟩ := List.any_eq_true.1 h
          exact .location hrow (beq_iff_eq.1 hsame)
      · intro h
        rw [Bool.or_eq_true]
        cases h with
        | coordinate h => exact .inl h
        | location hrow hkey => exact .inr (List.any_eq_true.2 ⟨_, hrow, beq_iff_eq.2 hkey⟩)
  | recordVersion version => exact .inr ⟨rfl, fun e h => nomatch h⟩

lemma perform_eq_ok {w : StoreWrite} (h : s.perform w = .ok s') :
    s' = s.after w ∧ ∀ e, ¬ s.Refuses w e := by
  rcases s.perform_cases w with ⟨e, herror, -⟩ | ⟨hok, hnone⟩
  · rw [herror] at h
    cases h
  · rw [hok, Except.ok.injEq] at h
    exact ⟨h.symm, hnone⟩

lemma perform_eq_error {w : StoreWrite} {e : StoreError} (h : s.perform w = .error e) :
    s.Refuses w e := by
  rcases s.perform_cases w with ⟨e', herror, hrefuses⟩ | ⟨hok, -⟩
  · rw [herror, Except.error.injEq] at h
    exact h ▸ hrefuses
  · rw [hok] at h
    cases h

/-- A reason is enough for a write to be refused. -/
lemma exists_refusal {w : StoreWrite} {e : StoreError} (h : s.Refuses w e) :
    ∃ e', s.perform w = .error e' ∧ s.Refuses w e' := by
  rcases s.perform_cases w with hrefused | ⟨-, hnone⟩
  · exact hrefused
  · exact absurd h (hnone e)

/-- Without a reason a write is done. -/
lemma perform_of_not_refuses {w : StoreWrite} (h : ∀ e, ¬ s.Refuses w e) :
    s.perform w = .ok (s.after w) := by
  rcases s.perform_cases w with ⟨e, -, hrefuses⟩ | ⟨hok, -⟩
  · exact absurd hrefuses (h e)
  · exact hok

/-! ## What all writes keep -/

/-- Whether the rows of a table have different keys and are all in stored form. -/
structure IsTable {α κ : Type} (keyOf : α → κ) (IsStored : α → Prop) (rows : List α) : Prop where
  nodup : (rows.map keyOf).Nodup
  stored : ∀ row ∈ rows, IsStored row

namespace IsTable

variable {α κ : Type} {keyOf : α → κ} {IsStored : α → Prop} {rows : List α}

lemma nil : IsTable keyOf IsStored [] := ⟨List.nodup_nil, fun _ h => nomatch h⟩

lemma concat (h : IsTable keyOf IsStored rows) {row : α} (hrow : IsStored row)
    (hnew : ∀ other ∈ rows, keyOf other ≠ keyOf row) : IsTable keyOf IsStored (rows ++ [row]) := by
  constructor
  · rw [List.map_append, List.map_singleton, ← List.concat_eq_append]
    refine h.nodup.concat fun hmem => ?_
    obtain ⟨other, hother, hkey⟩ := List.mem_map.1 hmem
    exact hnew other hother hkey
  · intro other hother
    rcases List.mem_append.1 hother with hother | hother
    · exact h.stored other hother
    · rw [List.mem_singleton.1 hother]
      exact hrow

lemma changeAt [DecidableEq κ] (h : IsTable keyOf IsStored rows) (key : κ) {change : α → α}
    (hkey : ∀ row, keyOf (change row) = keyOf row)
    (hchange : ∀ row, IsStored row → IsStored (change row)) :
    IsTable keyOf IsStored (changeAt keyOf key change rows) := by
  constructor
  · rw [map_changeAt hkey]
    exact h.nodup
  · intro other hother
    obtain ⟨row, hrow, rfl⟩ := List.mem_map.1 hother
    split_ifs
    · exact hchange row (h.stored row hrow)
    · exact h.stored row hrow

lemma filter (h : IsTable keyOf IsStored rows) (keep : α → Bool) :
    IsTable keyOf IsStored (rows.filter keep) :=
  ⟨h.nodup.sublist (List.filter_sublist.map keyOf),
    fun row hrow => h.stored row (List.mem_of_mem_filter hrow)⟩

/-- The change of one key is a change of one row. -/
lemma exists_changed [DecidableEq κ] (h : IsTable keyOf IsStored rows) {key : κ}
    (hmem : ∃ row ∈ rows, keyOf row = key) (change : α → α) :
    ∃ before row after, rows = before ++ row :: after ∧ keyOf row = key ∧
      Store.changeAt keyOf key change rows = before ++ change row :: after := by
  obtain ⟨row, hrow, hkey⟩ := hmem
  obtain ⟨before, after, rfl⟩ := List.append_of_mem hrow
  have hnodup := h.nodup
  rw [List.map_append, List.map_cons, List.nodup_append', List.nodup_cons] at hnodup
  obtain ⟨-, ⟨hafter, -⟩, hbefore⟩ := hnodup
  have hother : ∀ rows' : List α, (∀ other ∈ rows', keyOf other ≠ key) →
      rows'.map (fun row => if keyOf row = key then change row else row) = rows' := by
    intro rows' hrows'
    refine (List.map_congr_left fun other hother => ?_).trans (List.map_id _)
    rw [if_neg (hrows' other hother), id]
  refine ⟨before, row, after, rfl, hkey, ?_⟩
  rw [Store.changeAt, List.map_append, List.map_cons, if_pos hkey, hother before, hother after]
  · rintro other hmem rfl
    exact hafter (hkey ▸ List.mem_map_of_mem hmem)
  · rintro other hmem rfl
    exact hbefore (List.mem_map_of_mem hmem) (by simp [hkey])

end IsTable

/-- Whether in every table of a store the primary key is unique and all names are canonical. -/
structure Sound (s : Store) : Prop where
  parts : IsTable Part.names (fun row => row.canonical = row) s.parts
  connections : IsTable Connection.identity (fun row => row.canonical = row) s.connections
  notes : IsTable PartNote.identity (fun row => row.canonical = row) s.notes
  statuses : IsTable AntennaStatus.identity (fun row => row.canonical = row) s.statuses
  locations : IsTable Location.station (fun row => canonicalName row.station = row.station)
    s.locations
  versions : IsTable StoreVersion.updated (fun _ => True) s.versions

lemma sound_empty : Sound .empty := ⟨.nil, .nil, .nil, .nil, .nil, .nil⟩

/-- **Every write keeps the keys unique and the names canonical.** -/
theorem Sound.perform {w : StoreWrite} (h : s.Sound) (hw : s.perform w = .ok s') : s'.Sound := by
  obtain ⟨rfl, hnone⟩ := perform_eq_ok hw
  cases w with
  | addPart part =>
      refine { h with parts := h.parts.concat part.canonical_canonical fun row hrow hkey => ?_ }
      exact hnone _ (.part hrow hkey)
  | stopPart key t =>
      refine { h with parts := h.parts.changeAt _ (Part.names_stoppedAt t) fun row hrow => ?_ }
      rw [Part.canonical_stoppedAt, hrow]
  | addConnection c =>
      refine { h with connections := h.connections.concat c.canonical_canonical ?_ }
      exact fun row hrow hkey => hnone _ (.connection hrow hkey)
  | stopConnection c t =>
      refine { h with connections := h.connections.changeAt _ (Connection.identity_stoppedAt t) ?_ }
      intro row hrow
      rw [Connection.canonical_stoppedAt, hrow]
  | addNote note =>
      refine { h with notes := h.notes.concat ?_ fun row hrow hkey => ?_ }
      · simp only [PartNote.canonical, canonicalName_canonicalName]
      · exact hnone _ (.note hrow hkey)
  | addStatus status =>
      refine { h with statuses := h.statuses.concat ?_ fun row hrow hkey => ?_ }
      · simp only [AntennaStatus.canonical, canonicalName_canonicalName]
      · exact hnone _ (.status hrow hkey)
  | addLocation location =>
      refine { h with locations := h.locations.concat (canonicalName_canonicalName _) ?_ }
      exact fun row hrow hkey => hnone _ (.location hrow hkey)
  | recordVersion version =>
      refine { h with versions := (h.versions.filter _).concat trivial fun row hrow => ?_ }
      simpa using List.of_mem_filter hrow

/-! ## What stays in the store -/

/-- Whether a store holds all rows of another one, in its order and up to stop times, and possibly
more. -/
structure Extends (s s' : Store) : Prop where
  parts : s.parts.map Part.withoutStop <+: s'.parts.map Part.withoutStop
  connections : s.connections.map Connection.withoutStop <+:
    s'.connections.map Connection.withoutStop
  notes : s.notes <+: s'.notes
  statuses : s.statuses <+: s'.statuses
  locations : s.locations <+: s'.locations

lemma Extends.refl (s : Store) : s.Extends s :=
  ⟨List.prefix_rfl, List.prefix_rfl, List.prefix_rfl, List.prefix_rfl, List.prefix_rfl⟩

lemma Extends.trans {s'' : Store} (h : s.Extends s') (h' : s'.Extends s'') : s.Extends s'' where
  parts := h.parts.trans h'.parts
  connections := h.connections.trans h'.connections
  notes := h.notes.trans h'.notes
  statuses := h.statuses.trans h'.statuses
  locations := h.locations.trans h'.locations

/-- **A write loses nothing, and changes nothing but stop times.** -/
theorem extends_of_perform {w : StoreWrite} (hw : s.perform w = .ok s') : s.Extends s' := by
  obtain ⟨rfl, -⟩ := perform_eq_ok hw
  cases w with
  | addPart part =>
      refine { Extends.refl s with parts := ?_ }
      rw [after, List.map_append]
      exact List.prefix_append _ _
  | stopPart key t =>
      refine { Extends.refl s with parts := ?_ }
      simp only [after, map_changeAt (Part.withoutStop_stoppedAt t), List.prefix_rfl]
  | addConnection c =>
      refine { Extends.refl s with connections := ?_ }
      rw [after, List.map_append]
      exact List.prefix_append _ _
  | stopConnection c t =>
      refine { Extends.refl s with connections := ?_ }
      simp only [after, map_changeAt (Connection.withoutStop_stoppedAt t), List.prefix_rfl]
  | addNote note => exact { Extends.refl s with notes := List.prefix_append _ _ }
  | addStatus status => exact { Extends.refl s with statuses := List.prefix_append _ _ }
  | addLocation location => exact { Extends.refl s with locations := List.prefix_append _ _ }
  | recordVersion version => exact { Extends.refl s with }

/-- A part stays, with some stop. -/
lemma Extends.exists_part (h : s.Extends s') {part : Part} (hpart : part ∈ s.parts) :
    ∃ stop, { part with life := ⟨part.life.start, stop⟩ } ∈ s'.parts := by
  obtain ⟨row, hrow, heq⟩ := List.mem_map.1 (h.parts.subset (List.mem_map_of_mem hpart))
  refine ⟨row.life.stop, ?_⟩
  obtain ⟨hpn, rev, partType, number, start, stop⟩ := row
  obtain ⟨hpn', rev', partType', number', start', stop'⟩ := part
  simp only [Part.withoutStop, Part.mk.injEq, Lifetime.mk.injEq, and_true] at heq
  obtain ⟨rfl, rfl, rfl, rfl, rfl⟩ := heq
  exact hrow

/-- A connection stays, with some stop. -/
lemma Extends.exists_connection (h : s.Extends s') {c : Connection} (hc : c ∈ s.connections) :
    ∃ stop, { c with life := ⟨c.life.start, stop⟩ } ∈ s'.connections := by
  obtain ⟨row, hrow, heq⟩ := List.mem_map.1 (h.connections.subset (List.mem_map_of_mem hc))
  refine ⟨row.life.stop, ?_⟩
  obtain ⟨up, down, start, stop⟩ := row
  obtain ⟨up', down', start', stop'⟩ := c
  simp only [Connection.withoutStop, Connection.mk.injEq, Lifetime.mk.injEq, and_true] at heq
  obtain ⟨rfl, rfl, rfl⟩ := heq
  exact hrow

/-! ## Stops -/

/-- A row that is not among the later ones of a table is the first. -/
lemma eq_of_cons_eq_append {α : Type} {first row : α} {rest before after : List α}
    (h : first :: rest = before ++ row :: after) (hrow : row ∉ rest) :
    before = [] ∧ row = first ∧ after = rest := by
  obtain ⟨rfl, heq⟩ | ⟨others, -, heq⟩ := List.cons_eq_append_iff.1 h
  · obtain ⟨rfl, rfl⟩ := List.cons.inj heq
    exact ⟨rfl, rfl, rfl⟩
  · exact absurd (heq ▸ List.mem_append_right _ List.mem_cons_self) hrow

/-- A stop of a part that finds a row succeeds. -/
lemma exists_stopPart_eq_ok {part : Part} {key : PartKey} (hpart : part ∈ s.parts)
    (hnames : part.names = key.names) (t : GpsTime) : ∃ rows, s.stopPart key t = .ok rows := by
  refine ⟨_, perform_of_not_refuses (w := .stopPart key t) fun e hrefuses => ?_⟩
  cases hrefuses with
  | noPart hnone => exact hnone part hpart hnames

/-- A stop of a connection that finds a row succeeds. -/
lemma exists_stopConnection_eq_ok {row c : Connection} (hrow : row ∈ s.connections)
    (hidentity : row.identity = c.canonical.identity) (t : GpsTime) :
    ∃ rows, s.stopConnection c t = .ok rows := by
  refine ⟨_, perform_of_not_refuses (w := .stopConnection c t) fun e hrefuses => ?_⟩
  cases hrefuses with
  | noConnection hnone => exact hnone row hrow hidentity

/-- **A stop of a part that succeeds sets the stop of one row, and changes nothing else.** -/
theorem Sound.exists_stopped_part (h : s.Sound) {key : PartKey} {t : GpsTime}
    (hstop : s.stopPart key t = .ok s') :
    ∃ before row after, s.parts = before ++ row :: after ∧ row.names = key.names ∧
      s' = { s with parts := before ++ row.stoppedAt t :: after } := by
  obtain ⟨rfl, hnone⟩ := perform_eq_ok (w := .stopPart key t) hstop
  have hmem : ∃ row ∈ s.parts, row.names = key.names := by
    by_contra hno
    exact hnone _ (.noPart fun row hrow hkey => hno ⟨row, hrow, hkey⟩)
  obtain ⟨before, row, after, hrows, hkey, heq⟩ := h.parts.exists_changed hmem (·.stoppedAt t)
  exact ⟨before, row, after, hrows, hkey, by rw [Store.after, heq]⟩

/-- **A stop of a connection that succeeds sets the stop of one row, and changes nothing else.** -/
theorem Sound.exists_stopped_connection (h : s.Sound) {c : Connection} {t : GpsTime}
    (hstop : s.stopConnection c t = .ok s') :
    ∃ before row after, s.connections = before ++ row :: after ∧
      row.identity = c.canonical.identity ∧
      s' = { s with connections := before ++ row.stoppedAt t :: after } := by
  obtain ⟨rfl, hnone⟩ := perform_eq_ok (w := .stopConnection c t) hstop
  have hmem : ∃ row ∈ s.connections, row.identity = c.canonical.identity := by
    by_contra hno
    exact hnone _ (.noConnection fun row hrow hkey => hno ⟨row, hrow, hkey⟩)
  obtain ⟨before, row, after, hrows, hkey, heq⟩ :=
    h.connections.exists_changed hmem (·.stoppedAt t)
  exact ⟨before, row, after, hrows, hkey, by rw [Store.after, heq]⟩

end Store

end Hookup
