import Hookup.ActiveSet
import Hookup.Proofs.CanonicalName
import Hookup.Proofs.Wiring

/-!
# Active sets are exact

`ActiveSet.ofRecords` keeps the records of one instant.  What it keeps of the connections is said
here in terms of the records as they were entered, in whatever spelling and order:

* `Contest` — two records at different places of the list that claim one port at one instant.
* **`ofRecords_exact`** — a set is refused exactly for a contest, with the port that is contested;
  otherwise its two indexes hold the canonical forms of the active records and nothing else, and
  they agree on who is connected to whom.  Records that are not active, and the order of the list,
  have no influence.
* `Has` — the connections of a set.
* `keeps_of_ofRecords` — none of the records of the instant is left out.
* `Built` — the sets made from records, with what later proofs need of them: a part is found under
  its own key (`Built.key_of_part?`), and a connection under both ports that it joins
  (`Built.has_of_connectionAt?`).
-/

namespace Hookup

/-! ## Contested ports -/

namespace Connection

/-- Whether a connection, in any spelling, claims a port of a part on a side. -/
def Claims (c : Connection) (side : Direction) (key : PartKey) (port : String) : Prop :=
  (c.terminal side).key = key ∧ canonicalPort (c.terminal side).port = port

instance (c : Connection) (side : Direction) (key : PartKey) (port : String) :
    Decidable (c.Claims side key port) := inferInstanceAs (Decidable (_ ∧ _))

lemma terminal_canonical (c : Connection) (side : Direction) :
    c.canonical.terminal side = (c.terminal side).canonical := by
  cases side <;> rfl

/-- The canonical form of a connection sits where the connection claims to. -/
lemma isAt_canonical {c : Connection} {side : Direction} {key : PartKey} {port : String} :
    c.canonical.IsAt side key port ↔ c.Claims side key port := by
  rw [IsAt, Claims, terminal_canonical, Terminal.key_canonical]
  rfl

end Connection

namespace ActiveSet

/-- Two records at different places of a list that are both active and claim one port of one part
on a side. -/
structure Contest (instant : GpsTime) (connections : List Connection) (side : Direction)
    (first second : Connection) : Prop where
  places : ∃ i j : Nat, i ≠ j ∧ connections[i]? = some first ∧ connections[j]? = some second
  first_active : first.isActive instant = true
  second_active : second.isActive instant = true
  same_port : first.Claims side (second.terminal side).key
    (canonicalPort (second.terminal side).port)

variable {instant : GpsTime} {records : Records} {connections : List Connection}

lemma meets_canonical {first second : Connection} {side : Direction} :
    first.canonical.Meets second.canonical side ↔
      first.Claims side (second.terminal side).key (canonicalPort (second.terminal side).port) := by
  rw [Connection.Meets, Connection.isAt_canonical, Connection.terminal_canonical,
    Terminal.key_canonical]
  rfl

/-- There is no contest exactly if no two of the active connections meet. -/
lemma pairwise_apart_iff : (activeConnections instant connections).Pairwise Connection.Apart ↔
    ∀ side first second, ¬ Contest instant connections side first second := by
  have hsymm : Std.Symm fun c d : Connection => c.isActive instant = true →
      d.isActive instant = true → c.canonical.Apart d.canonical :=
    ⟨fun c d h hd hc => (h hc hd).symm⟩
  rw [activeConnections, List.pairwise_map, List.pairwise_filter]
  constructor
  · rintro h side first second ⟨⟨i, j, hne, hi, hj⟩, hfirst, hsecond, hport⟩
    obtain ⟨hi', rfl⟩ := List.getElem?_eq_some_iff.1 hi
    obtain ⟨hj', rfl⟩ := List.getElem?_eq_some_iff.1 hj
    rw [List.pairwise_iff_getElem] at h
    rcases Nat.lt_or_gt_of_ne hne with hlt | hlt
    · exact h i j hi' hj' hlt hfirst hsecond side (meets_canonical.2 hport)
    · exact h j i hj' hi' hlt hsecond hfirst side (meets_canonical.2 hport).symm
  · intro h
    rw [List.pairwise_iff_getElem]
    intro i j hi hj hlt hfirst hsecond side hmeets
    refine h side connections[i] connections[j] ⟨⟨i, j, Nat.ne_of_lt hlt, ?_, ?_⟩, hfirst, hsecond,
      meets_canonical.1 hmeets⟩
    · exact List.getElem?_eq_getElem hi
    · exact List.getElem?_eq_getElem hj

/-- Two active connections that meet, the later after the earlier, come from contesting records. -/
lemma contest_of_meets {before after : List Connection} {c existing : Connection}
    {side : Direction} (hsplit : activeConnections instant connections = before ++ c :: after)
    (hmem : existing ∈ before) (hmeets : existing.Meets c side) :
    ∃ first second, Contest instant connections side first second ∧
      existing = first.canonical ∧ c = second.canonical := by
  obtain ⟨front, back, hfilter, rfl, hback⟩ := List.map_eq_append_iff.1 hsplit
  obtain ⟨second, back, rfl, rfl, -⟩ := List.map_eq_cons_iff.1 hback
  obtain ⟨first, hfirst, rfl⟩ := List.mem_map.1 hmem
  obtain ⟨left, right, rfl, rfl, hright⟩ := List.filter_eq_append_iff.1 hfilter
  obtain ⟨skipped, rest, rfl, -, hsecond, -⟩ := List.filter_eq_cons_iff.1 hright
  obtain ⟨hfirst, hactive⟩ := List.mem_filter.1 hfirst
  obtain ⟨i, hi, hget⟩ := List.getElem_of_mem hfirst
  refine ⟨first, second, ⟨⟨i, left.length + skipped.length, by omega, ?_, ?_⟩, hactive, hsecond,
    meets_canonical.1 hmeets⟩, rfl, rfl⟩
  · rw [List.getElem?_append_left hi, List.getElem?_eq_getElem hi, hget]
  · simp

/-! ## What a set is made of -/

lemma mem_activeConnections {c : Connection} : c ∈ activeConnections instant connections ↔
    ∃ r ∈ connections, r.isActive instant = true ∧ r.canonical = c := by
  simp only [activeConnections, List.mem_map, List.mem_filter, and_assoc]

lemma ofRecords_eq_error {e : Error} : ofRecords instant records = .error e ↔
    Wiring.ofConnections (activeConnections instant records.connections) = .error e := by
  rw [ofRecords, Outcome.bind_eq_error]
  simp

/-- A set that could be made has the wiring of the active connections and the table of the active
parts. -/
lemma ofRecords_eq_ok {s : ActiveSet} (h : ofRecords instant records = .ok s) :
    Wiring.ofConnections (activeConnections instant records.connections) = .ok s.wiring ∧
      s.parts = activeParts instant records.parts ∧ s.builtFor = instant := by
  obtain ⟨wiring, hwiring, h⟩ := Outcome.bind_eq_ok.1 h
  cases h
  exact ⟨hwiring, rfl, rfl⟩

/-- Under the key of an active record stands the canonical form of an active record with this
key. -/
lemma exists_part?_of_mem {s : ActiveSet} (h : ofRecords instant records = .ok s) {p : Part}
    (hp : p ∈ records.parts) (hactive : p.isActive instant = true) :
    ∃ q ∈ records.parts, q.isActive instant = true ∧ q.key = p.key ∧
      s.part? p.key = some q.canonical := by
  have hkept : p ∈ records.parts.filter (·.isActive instant) := List.mem_filter.2 ⟨hp, hactive⟩
  obtain ⟨q, hq, hkey, hfound⟩ := KeyMap.exists_get?_ofList_map Part.key Part.canonical hkept
  obtain ⟨hmem, hqactive⟩ := List.mem_filter.1 hq
  refine ⟨q, hmem, hqactive, hkey, ?_⟩
  rw [part?, (ofRecords_eq_ok h).2.1, activeParts, List.map_map]
  simpa only [Function.comp_def, Part.key_canonical] using hfound

lemma holds_of_ofRecords {s : ActiveSet} (h : ofRecords instant records = .ok s) :
    s.wiring.Holds (activeConnections instant records.connections) :=
  Wiring.holds_of_ofConnections (ofRecords_eq_ok h).1

lemma ofRecords_isOk_iff : (∃ s, ofRecords instant records = .ok s) ↔
    (activeConnections instant records.connections).Pairwise Connection.Apart := by
  rw [← Wiring.ofConnections_isOk_iff]
  constructor
  · rintro ⟨s, h⟩
    exact ⟨s.wiring, (ofRecords_eq_ok h).1⟩
  · rintro ⟨wiring, h⟩
    exact ⟨_, Outcome.bind_eq_ok.2 ⟨wiring, h, rfl⟩⟩

/-- A refused set names a contest: the port, and the canonical forms of the two records. -/
lemma exists_contest_of_error {e : Error} (h : ofRecords instant records = .error e) :
    ∃ side first second, Contest instant records.connections side first second ∧
      e = .duplicateConnection (second.terminal side).key
        (canonicalPort (second.terminal side).port) side first.canonical second.canonical := by
  rw [ofRecords_eq_error] at h
  rcases Wiring.ofConnections_cases (activeConnections instant records.connections) with
    ⟨before, c, after, side, hsplit, existing, hmem, hmeets, herror⟩ | ⟨-, w, hok, -⟩
  · obtain ⟨first, second, hcontest, rfl, rfl⟩ := contest_of_meets hsplit hmem hmeets
    rw [herror, Except.error.injEq] at h
    refine ⟨side, first, second, hcontest, ?_⟩
    rw [← h, Connection.terminal_canonical, Terminal.key_canonical]
    rfl
  · rw [hok] at h
    cases h

/-! ## Records that are left out -/

end ActiveSet

lemma PartNote.perm_inOrder (notes : List PartNote) : (inOrder notes).Perm notes :=
  List.mergeSort_perm _ _

/-- The records of an instant, as they were entered. -/
def Records.activeAt (records : Records) (instant : GpsTime) : Records where
  parts := records.parts.filter (·.isActive instant)
  connections := records.connections.filter (·.isActive instant)
  notes := records.notes.filter fun note => decide (note.posted ≤ instant)
  statuses := records.statuses.filter (·.isActive instant)
  locations := records.locations.filter fun location => decide (location.created ≤ instant)

/-- A dish as operators enter it, in any spelling: a station, its antenna and its feed. -/
def Records.dish : Records where
  parts := [
    ⟨"hh1", "a", "station", none, default⟩,
    ⟨"A1", " h", "antenna", none, default⟩,
    ⟨"fdv1", "V", "feed", none, default⟩]
  connections := [
    ⟨⟨"HH1", "A", "ground"⟩, ⟨"a1", "H", "Ground"⟩, default⟩,
    ⟨⟨"A1", "H", "focus "⟩, ⟨"FDV1", "V", "INPUT"⟩, default⟩]
  notes := []
  statuses := []
  locations := []

namespace ActiveSet

/-- What is not active makes no difference. -/
lemma ofRecords_activeAt (instant : GpsTime) (records : Records) :
    ofRecords instant (records.activeAt instant) = ofRecords instant records := by
  simp only [ofRecords, Records.activeAt, activeConnections, activeParts, postedNotes,
    List.filter_filter, Bool.and_self]

/-- Neither does the order of the connections. -/
lemma perm_activeConnections (instant : GpsTime) {others : List Connection}
    (h : connections.Perm others) :
    (activeConnections instant connections).Perm (activeConnections instant others) :=
  (h.filter _).map _

/-! ## The main statement -/

/-- **An active set is exact, and its two indexes mirror each other.**  It is refused exactly if two
records contest a port, with a port that is contested; otherwise each index holds the canonical form
of every active record under the port that the record claims, and nothing else.  Records that are
not active and the order of the connections change nothing of that. -/
theorem ofRecords_exact (instant : GpsTime) (records : Records) :
    ((∃ e, ofRecords instant records = .error e) ↔
      ∃ side first second, Contest instant records.connections side first second) ∧
    (∀ e, ofRecords instant records = .error e →
      ∃ side first second, Contest instant records.connections side first second ∧
        e = .duplicateConnection (second.terminal side).key
          (canonicalPort (second.terminal side).port) side first.canonical second.canonical) ∧
    (∀ s, ofRecords instant records = .ok s →
      (∀ side key port c, s.wiring.connectionAt? side key port = some c ↔
        ∃ r ∈ records.connections, r.isActive instant = true ∧ r.Claims side key port ∧
          r.canonical = c) ∧
      s.wiring.count = (records.connections.filter (·.isActive instant)).length ∧
      ∀ a b, b ∈ s.wiring.neighbours a .down ↔ a ∈ s.wiring.neighbours b .up) ∧
    (∀ others : Records, others.activeAt instant = records.activeAt instant →
      ofRecords instant others = ofRecords instant records) ∧
    (∀ others : Records, records.connections.Perm others.connections →
      ((∃ s, ofRecords instant records = .ok s) ↔ ∃ s, ofRecords instant others = .ok s) ∧
      ∀ s s', ofRecords instant records = .ok s → ofRecords instant others = .ok s' →
        s.wiring = s'.wiring) := by
  refine ⟨?_, fun e => exists_contest_of_error, fun s hs => ⟨fun side key port c => ?_, ?_,
    fun a b => ?_⟩, fun others hothers => ?_, fun others hperm => ⟨?_, fun s s' hs hs' => ?_⟩⟩
  · constructor
    · rintro ⟨e, he⟩
      obtain ⟨side, first, second, hcontest, -⟩ := exists_contest_of_error he
      exact ⟨side, first, second, hcontest⟩
    · rintro ⟨side, first, second, hcontest⟩
      cases hset : ofRecords instant records with
      | error e => exact ⟨e, rfl⟩
      | ok s =>
          have hapart := pairwise_apart_iff.1 (ofRecords_isOk_iff.1 ⟨s, hset⟩)
          exact absurd hcontest (hapart side first second)
  · rw [(holds_of_ofRecords hs).connectionAt?_iff, mem_activeConnections]
    constructor
    · rintro ⟨⟨r, hr, hactive, rfl⟩, hat⟩
      exact ⟨r, hr, hactive, Connection.isAt_canonical.1 hat, rfl⟩
    · rintro ⟨r, hr, hactive, hclaims, rfl⟩
      exact ⟨⟨r, hr, hactive, rfl⟩, Connection.isAt_canonical.2 hclaims⟩
  · rw [(holds_of_ofRecords hs).count_eq, activeConnections, List.length_map]
  · rw [(holds_of_ofRecords hs).mem_neighbours_iff, (holds_of_ofRecords hs).mem_neighbours_iff]
    simp only [Direction.opposite, and_comm]
  · rw [← ofRecords_activeAt instant others, hothers, ofRecords_activeAt]
  · rw [ofRecords_isOk_iff, ofRecords_isOk_iff]
    exact (perm_activeConnections instant hperm).pairwise_iff fun h => h.symm
  · exact (holds_of_ofRecords hs).eq_of_perm (holds_of_ofRecords hs')
      (perm_activeConnections instant hperm)

/-- The dish is wired as it was entered, and a second station cannot claim its antenna. -/
theorem ofRecords_exact_dish :
    (∃ s, ofRecords ⟨10⟩ .dish = .ok s ∧ s.wiring.count = 2 ∧
      ∀ a b, b ∈ s.wiring.neighbours a .down ↔ a ∈ s.wiring.neighbours b .up) ∧
    ∃ side first second, Contest ⟨10⟩
      (Records.dish.connections ++ [⟨⟨"hh2", "A", "ground"⟩, ⟨"A1", "h", "ground "⟩, default⟩])
      side first second := by
  constructor
  · have hdish : (ofRecords ⟨10⟩ .dish).toOption.any (fun s => s.wiring.count == 2) = true := by
      decide +kernel
    obtain ⟨s, hs, hcount⟩ := Outcome.exists_of_any hdish
    exact ⟨s, hs, beq_iff_eq.1 hcount, ((ofRecords_exact ⟨10⟩ .dish).2.2.1 s hs).2.2⟩
  · let records : Records := { Records.dish with connections := Records.dish.connections ++
      [⟨⟨"hh2", "A", "ground"⟩, ⟨"A1", "h", "ground "⟩, default⟩] }
    have hrefused : Wiring.ofConnections (activeConnections ⟨10⟩ records.connections) =
        .error (.duplicateConnection ⟨"A1:H"⟩ "ground" .down
          ⟨⟨"HH1", "A", "ground"⟩, ⟨"A1", "H", "ground"⟩, default⟩
          ⟨⟨"HH2", "A", "ground"⟩, ⟨"A1", "H", "ground"⟩, default⟩) := by
      decide +kernel
    exact (ofRecords_exact ⟨10⟩ records).1.1 ⟨_, ofRecords_eq_error.2 hrefused⟩

/-! ## Sets made from records -/

/-- Whether a connection is one of a set, so that it is found from both of its ends. -/
def Has (s : ActiveSet) (c : Connection) : Prop := ∀ side,
  s.wiring.connectionAt? side (c.terminal side).key (c.terminal side).port = some c

/-- The connections of a set are the canonical forms of the active records. -/
lemma has_iff {s : ActiveSet} (hs : ofRecords instant records = .ok s) {c : Connection} :
    s.Has c ↔ c ∈ activeConnections instant records.connections := by
  have hholds := holds_of_ofRecords hs
  constructor
  · exact fun h => ((hholds.connectionAt?_iff _ _ _ _).1 (h .up)).1
  · exact fun h side => (hholds.connectionAt?_iff _ _ _ _).2 ⟨h, rfl, rfl⟩

/-- The tables of a set that no wiring is in. -/
lemma annotations_of_ofRecords {s : ActiveSet} (h : ofRecords instant records = .ok s) :
    s.notes = postedNotes instant records.notes ∧
      s.statuses = .ofList ((records.activeAt instant).statuses.map fun status =>
        (canonicalName status.antenna, status)) ∧
      s.locations = .ofList ((records.activeAt instant).locations.map fun location =>
        (canonicalName location.station, location)) := by
  obtain ⟨wiring, -, h⟩ := Outcome.bind_eq_ok.1 h
  cases h
  exact ⟨rfl, rfl, rfl⟩

/-- The notes on a part are those that were posted on it so far, in the order of posting. -/
lemma notesOn_of_ofRecords {s : ActiveSet} (h : ofRecords instant records = .ok s) (key : PartKey) :
    s.notesOn key = PartNote.inOrder ((records.activeAt instant).notes.filter (·.key = key)) := by
  rw [notesOn, (annotations_of_ofRecords h).1, postedNotes, KeyMap.get?_mapValues,
    ← KeyMap.getD_get?_group, Records.activeAt]
  generalize (KeyMap.group PartNote.key _).get? key = notes
  cases notes with
  | none => simp [PartNote.inOrder]
  | some notes => rfl

/-- Whether a set has kept what records say: every connection in canonical form, every note, and
under the key of a part, the name of an antenna and that of a station a record that has this key or
name. -/
structure Keeps (s : ActiveSet) (records : Records) : Prop where
  count : s.wiring.count = records.connections.length
  connections : ∀ c ∈ records.connections, s.Has c.canonical
  parts : ∀ part ∈ records.parts, ∃ kept ∈ records.parts, kept.key = part.key ∧
    s.part? part.key = some kept.canonical
  notes : ∀ note ∈ records.notes, note ∈ s.notesOn note.key
  statuses : ∀ status ∈ records.statuses, ∃ kept ∈ records.statuses,
    canonicalName kept.antenna = canonicalName status.antenna ∧
      s.status? status.antenna = some kept
  locations : ∀ location ∈ records.locations, ∃ kept ∈ records.locations,
    canonicalName kept.station = canonicalName location.station ∧
      s.location? location.station = some kept

/-- **A set keeps all records of its instant.** -/
theorem keeps_of_ofRecords {s : ActiveSet} (h : ofRecords instant records = .ok s) :
    s.Keeps (records.activeAt instant) where
  count := by
    rw [(holds_of_ofRecords h).count_eq, activeConnections, List.length_map, Records.activeAt]
  connections c hc := (has_iff h).2 (List.mem_map_of_mem hc)
  parts part hpart := by
    obtain ⟨hmem, hactive⟩ := List.mem_filter.1 hpart
    obtain ⟨kept, hkept, hkeptActive, hkey, hfound⟩ := exists_part?_of_mem h hmem hactive
    exact ⟨kept, List.mem_filter.2 ⟨hkept, hkeptActive⟩, hkey, hfound⟩
  notes note hnote := by
    rw [notesOn_of_ofRecords h, (PartNote.perm_inOrder _).mem_iff]
    exact List.mem_filter.2 ⟨hnote, decide_eq_true rfl⟩
  statuses status hstatus := by
    simp only [status?, (annotations_of_ofRecords h).2.1]
    exact KeyMap.exists_get?_ofList_map (fun status : AntennaStatus => canonicalName status.antenna)
      id hstatus
  locations location hlocation := by
    simp only [location?, (annotations_of_ofRecords h).2.2]
    exact KeyMap.exists_get?_ofList_map (fun location : Location => canonicalName location.station)
      id hlocation

/-- Whether an active set was made from records. -/
def Built (s : ActiveSet) : Prop := ∃ instant records, ofRecords instant records = .ok s

namespace Built

variable {s : ActiveSet}

/-- The connections that the wiring of a set holds. -/
lemma exists_holds (h : s.Built) : ∃ connections, s.wiring.Holds connections := by
  obtain ⟨instant, records, hs⟩ := h
  exact ⟨_, holds_of_ofRecords hs⟩

/-- The parts of a set are canonical forms, each under its own key. -/
lemma exists_canonical_of_part? (h : s.Built) {key : PartKey} {part : Part}
    (hpart : s.part? key = some part) : ∃ p : Part, part = p.canonical ∧ part.key = key := by
  obtain ⟨instant, records, hs⟩ := h
  rw [part?, (ofRecords_eq_ok hs).2.1, activeParts] at hpart
  obtain ⟨p, hp, heq⟩ := List.mem_map.1 (KeyMap.mem_of_get?_ofList hpart)
  obtain ⟨hkey, rfl⟩ := Prod.mk.inj heq
  obtain ⟨q, -, rfl⟩ := List.mem_map.1 hp
  exact ⟨q, rfl, hkey⟩

/-- A part is found under its own key. -/
lemma key_of_part? (h : s.Built) {key : PartKey} {part : Part} (hpart : s.part? key = some part) :
    part.key = key := by
  obtain ⟨-, -, hkey⟩ := h.exists_canonical_of_part? hpart
  exact hkey

/-- An active part is found by its own key. -/
lemma part?_key (h : s.Built) {key : PartKey} {part : Part} (hpart : s.part? key = some part) :
    s.part? part.key = some part := by
  rw [h.key_of_part? hpart, hpart]

/-- A connection is found exactly under the ports that it joins. -/
lemma connectionAt?_iff (h : s.Built) {side : Direction} {key : PartKey} {port : String}
    {c : Connection} :
    s.wiring.connectionAt? side key port = some c ↔ s.Has c ∧ c.IsAt side key port := by
  obtain ⟨connections, hholds⟩ := h.exists_holds
  rw [hholds.connectionAt?_iff]
  constructor
  · rintro ⟨hmem, hat⟩
    exact ⟨fun other => (hholds.connectionAt?_iff other _ _ c).2 ⟨hmem, rfl, rfl⟩, hat⟩
  · rintro ⟨hhas, hat⟩
    exact ⟨((hholds.connectionAt?_iff _ _ _ c).1 (hhas .up)).1, hat⟩

lemma isAt_of_connectionAt? (h : s.Built) {side : Direction} {key : PartKey} {port : String}
    {c : Connection} (hc : s.wiring.connectionAt? side key port = some c) :
    c.IsAt side key port :=
  (h.connectionAt?_iff.1 hc).2

/-- A connection found from one end is found from both. -/
lemma has_of_connectionAt? (h : s.Built) {side : Direction} {key : PartKey} {port : String}
    {c : Connection} (hc : s.wiring.connectionAt? side key port = some c) : s.Has c :=
  (h.connectionAt?_iff.1 hc).1

end Built

end ActiveSet

end Hookup
