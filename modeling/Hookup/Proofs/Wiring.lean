import Hookup.Wiring
import Hookup.Proofs.KeyMap
import Hookup.Proofs.Outcome
import Mathlib.Data.List.Perm.Basic

/-!
# A wiring holds exactly its connections

`Wiring.ofConnections` enters each connection under its upper and its lower end, and stops at the
first that meets an earlier one.  `Wiring.Holds` says what the two indexes and the counter amount
to: one list of connections, seen from either end.

* `claim_cases`, `add_cases` — one claim, one connection: refused with the two that meet, or entered
  with nothing else changed.
* **`ofConnections_cases`** — the run over a list: either it names two connections of the list that
  meet, or no two meet and the wiring holds the list.
* `Holds.eq_of_perm` — a wiring depends on its connections only, not on their order.
* `mem_neighbours` — neighbours are the far ends of connections.
-/

namespace Hookup

/-! ## Where connections meet -/

namespace Connection

/-- Whether a connection has a port of a part at its end on a side. -/
def IsAt (c : Connection) (side : Direction) (key : PartKey) (port : String) : Prop :=
  (c.terminal side).key = key ∧ (c.terminal side).port = port

instance (c : Connection) (side : Direction) (key : PartKey) (port : String) :
    Decidable (c.IsAt side key port) := inferInstanceAs (Decidable (_ ∧ _))

/-- Whether two connections hold one port of one part on a side. -/
def Meets (c d : Connection) (side : Direction) : Prop :=
  c.IsAt side (d.terminal side).key (d.terminal side).port

/-- Whether two connections hold different ports on either side. -/
def Apart (c d : Connection) : Prop := ∀ side, ¬ c.Meets d side

lemma Meets.symm {c d : Connection} {side : Direction} (h : c.Meets d side) : d.Meets c side :=
  ⟨h.1.symm, h.2.symm⟩

lemma Apart.symm {c d : Connection} (h : c.Apart d) : d.Apart c :=
  fun side hmeets => h side hmeets.symm

end Connection

/-! ## One index -/

namespace PortIndex

/-- The connection under a port of a part. -/
def connection? (index : PortIndex) (key : PartKey) (port : String) : Option Connection :=
  (index.get? key).bind (·.get? port)

/-- Whether every part that is listed has a connection. -/
def Inhabited (index : PortIndex) : Prop :=
  ∀ key ports, index.get? key = some ports → ∃ port c, ports.get? port = some c

/-- What is under a part's ports, whether the part is listed or not. -/
lemma get?_getD_empty (index : PortIndex) (key : PartKey) (port : String) :
    ((index.get? key).getD .empty).get? port = index.connection? key port := by
  rw [connection?]
  cases index.get? key <;> rfl

/-- **A claim is refused for the connection that holds the port, or it takes the free port and
changes no other.** -/
theorem claim_cases (index : PortIndex) (side : Direction) (c : Connection) :
    (∃ existing, index.connection? (c.terminal side).key (c.terminal side).port = some existing ∧
      index.claim side c = .error (.duplicateConnection (c.terminal side).key
        (c.terminal side).port side existing c)) ∨
    (index.connection? (c.terminal side).key (c.terminal side).port = none ∧
      ∃ index', index.claim side c = .ok index' ∧
        (∀ key port, index'.connection? key port =
          if c.IsAt side key port then some c else index.connection? key port) ∧
        (index.Inhabited → index'.Inhabited)) := by
  cases hport : index.connection? (c.terminal side).key (c.terminal side).port with
  | some existing =>
      refine .inl ⟨existing, rfl, ?_⟩
      simp only [claim, get?_getD_empty, hport]
      rfl
  | none =>
      refine .inr ⟨rfl, _, by simp only [claim, get?_getD_empty, hport]; rfl, ?_, ?_⟩
      · intro key port
        by_cases hkey : key = (c.terminal side).key
        · subst hkey
          by_cases hp : port = (c.terminal side).port
          · subst hp
            rw [if_pos ⟨rfl, rfl⟩, connection?, KeyMap.get?_insert, if_pos rfl, Option.bind_some,
              KeyMap.get?_insert, if_pos rfl]
          · have hne : ¬ c.IsAt side (c.terminal side).key port := fun h => hp h.2.symm
            rw [if_neg hne, connection?, KeyMap.get?_insert, if_pos rfl, Option.bind_some,
              KeyMap.get?_insert, if_neg hp, get?_getD_empty]
        · have hne : ¬ c.IsAt side key port := fun h => hkey h.1.symm
          rw [if_neg hne, connection?, KeyMap.get?_insert, if_neg hkey, connection?]
      · intro hinhabited key ports hports
        rw [KeyMap.get?_insert] at hports
        split_ifs at hports with hkey
        · rw [Option.some.injEq] at hports
          subst hports
          exact ⟨(c.terminal side).port, c, by rw [KeyMap.get?_insert, if_pos rfl]⟩
        · exact hinhabited key ports hports

/-- Indexes without empty parts that agree on every port are equal. -/
lemma eq_of_connection? {index index' : PortIndex} (h : index.Inhabited) (h' : index'.Inhabited)
    (hports : ∀ key port, index.connection? key port = index'.connection? key port) :
    index = index' := by
  refine KeyMap.ext_get? fun key => ?_
  have hkey := hports key
  simp only [connection?] at hkey
  cases hleft : index.get? key with
  | none =>
      cases hright : index'.get? key with
      | none => rfl
      | some ports =>
          obtain ⟨port, c, hc⟩ := h' key ports hright
          simpa [hleft, hright, hc] using hkey port
  | some ports =>
      cases hright : index'.get? key with
      | none =>
          obtain ⟨port, c, hc⟩ := h key ports hleft
          simpa [hleft, hright, hc] using hkey port
      | some ports' =>
          have : ports = ports' := KeyMap.ext_get? fun port => by
            simpa [hleft, hright] using hkey port
          rw [this]

end PortIndex

/-! ## Both indexes and the counter -/

namespace Wiring

/-- Whether a wiring is what a list of connections amounts to: every connection is found from both
of its ends, nothing else is found, and the counter is right. -/
structure Holds (w : Wiring) (connections : List Connection) : Prop where
  count_eq : w.count = connections.length
  connectionAt?_iff : ∀ side key port c, w.connectionAt? side key port = some c ↔
    c ∈ connections ∧ c.IsAt side key port
  inhabited : ∀ side, (w.index side).Inhabited

variable {w w' : Wiring} {connections connections' : List Connection} {c : Connection}

lemma holds_empty : empty.Holds [] where
  count_eq := rfl
  connectionAt?_iff := by
    intro side key port c
    cases side <;> simp [connectionAt?, portsAt?, index, empty]
  inhabited := by
    intro side key ports h
    cases side <;> simp [index, empty] at h

/-- A port on which a connection of the list sits is found taken, and only such a port. -/
lemma Holds.connectionAt?_eq_none (h : w.Holds connections) {side : Direction} {key : PartKey}
    {port : String} : w.connectionAt? side key port = none ↔
      ∀ d ∈ connections, ¬ d.IsAt side key port := by
  rw [Option.eq_none_iff_forall_ne_some]
  exact ⟨fun hnone d hd hat => hnone d ((h.connectionAt?_iff side key port d).2 ⟨hd, hat⟩),
    fun hnone d hd => hnone d ((h.connectionAt?_iff side key port d).1 hd).1
      ((h.connectionAt?_iff side key port d).1 hd).2⟩

/-- A wiring in which a connection took two free ports holds one connection more. -/
lemma Holds.append (h : w.Holds connections) (hapart : ∀ d ∈ connections, d.Apart c)
    (hcount : w'.count = w.count + 1)
    (hports : ∀ side key port, w'.connectionAt? side key port =
      if c.IsAt side key port then some c else w.connectionAt? side key port)
    (hinhabited : ∀ side, (w'.index side).Inhabited) : w'.Holds (connections ++ [c]) := by
  refine ⟨?_, fun side key port d => ?_, hinhabited⟩
  · rw [hcount, h.count_eq, List.length_append, List.length_singleton]
  · rw [hports, List.mem_append, List.mem_singleton]
    split_ifs with hat
    · constructor
      · rintro ⟨⟩
        exact ⟨.inr rfl, hat⟩
      · rintro ⟨hd | rfl, hdat⟩
        · exact absurd ⟨hdat.1.trans hat.1.symm, hdat.2.trans hat.2.symm⟩ (hapart d hd side)
        · rfl
    · rw [h.connectionAt?_iff]
      constructor
      · rintro ⟨hd, hdat⟩
        exact ⟨.inl hd, hdat⟩
      · rintro ⟨hd | rfl, hdat⟩
        · exact ⟨hd, hdat⟩
        · exact absurd hdat hat

/-- **Adding a connection fails for one that meets it, or the wiring holds one more.** -/
theorem add_cases (h : w.Holds connections) (c : Connection) :
    (∃ side, ∃ existing ∈ connections, existing.Meets c side ∧
      w.add c = .error (.duplicateConnection (c.terminal side).key (c.terminal side).port side
        existing c)) ∨
    ((∀ d ∈ connections, d.Apart c) ∧ ∃ w', w.add c = .ok w' ∧ w'.Holds (connections ++ [c])) := by
  rcases w.up.claim_cases .up c with ⟨existing, hat, hup⟩ | ⟨hnoneUp, up, hup, hportsUp, hinhUp⟩
  · have hmem := (h.connectionAt?_iff .up _ _ existing).1 hat
    refine .inl ⟨.up, existing, hmem.1, hmem.2, ?_⟩
    rw [add, hup]
    rfl
  rcases w.down.claim_cases .down c with ⟨existing, hat, hdown⟩ | ⟨hnoneDown, down, hdown,
    hportsDown, hinhDown⟩
  · have hmem := (h.connectionAt?_iff .down _ _ existing).1 hat
    refine .inl ⟨.down, existing, hmem.1, hmem.2, ?_⟩
    rw [add, hup]
    show w.down.claim .down c >>= _ = _
    rw [hdown]
    rfl
  have hapart : ∀ d ∈ connections, d.Apart c := by
    intro d hd side hmeets
    cases side with
    | up =>
        have hnone : w.connectionAt? .up _ _ = none := hnoneUp
        exact h.connectionAt?_eq_none.1 hnone d hd hmeets
    | down =>
        have hnone : w.connectionAt? .down _ _ = none := hnoneDown
        exact h.connectionAt?_eq_none.1 hnone d hd hmeets
  refine .inr ⟨hapart, ⟨up, down, w.count + 1⟩, ?_, h.append hapart rfl ?_ ?_⟩
  · rw [add, hup]
    show w.down.claim .down c >>= _ = _
    rw [hdown]
    rfl
  · intro side key port
    cases side with
    | up => exact hportsUp key port
    | down => exact hportsDown key port
  · intro side
    cases side with
    | up => exact hinhUp (h.inhabited .up)
    | down => exact hinhDown (h.inhabited .down)

/-! ## A list of connections -/

/-- A run that goes on from a wiring: the invariant is that the wiring holds what was added so far,
in which no two connections meet. -/
lemma foldlM_add_cases : ∀ (connections done : List Connection) (w : Wiring), w.Holds done →
    done.Pairwise Connection.Apart →
    (∃ before c after side, connections = before ++ c :: after ∧
      ∃ existing ∈ done ++ before, existing.Meets c side ∧ connections.foldlM add w =
        .error (.duplicateConnection (c.terminal side).key (c.terminal side).port side
          existing c)) ∨
    ((done ++ connections).Pairwise Connection.Apart ∧
      ∃ w', connections.foldlM add w = .ok w' ∧ w'.Holds (done ++ connections)) := by
  intro connections
  induction connections with
  | nil =>
      intro done w h hdone
      rw [List.append_nil]
      exact .inr ⟨hdone, w, rfl, h⟩
  | cons c rest ih =>
      intro done w h hdone
      rw [List.foldlM_cons]
      rcases add_cases h c with ⟨side, existing, hmem, hmeets, hadd⟩ | ⟨hapart, w', hadd, h'⟩
      · refine .inl ⟨[], c, rest, side, rfl, existing, by simpa using hmem, hmeets, ?_⟩
        rw [hadd]
        rfl
      · have hdone' : (done ++ [c]).Pairwise Connection.Apart := by
          refine List.pairwise_append.2 ⟨hdone, List.pairwise_singleton _ _, fun d hd e he => ?_⟩
          rw [List.mem_singleton.1 he]
          exact hapart d hd
        have hstep : (w.add c >>= fun w => rest.foldlM add w) = rest.foldlM add w' := by
          rw [hadd]
          rfl
        rw [hstep]
        rcases ih (done ++ [c]) w' h' hdone' with
          ⟨before, d, after, side, rfl, existing, hmem, hmeets, herror⟩ | ⟨hall, w'', hok, h''⟩
        · refine .inl ⟨c :: before, d, after, side, rfl, existing, ?_, hmeets, herror⟩
          rwa [List.append_assoc, List.singleton_append] at hmem
        · rw [List.append_assoc, List.singleton_append] at hall h''
          exact .inr ⟨hall, w'', hok, h''⟩

/-- **The wiring of a list fails with two of its connections that meet, or no two meet and the
wiring holds the list.** -/
theorem ofConnections_cases (connections : List Connection) :
    (∃ before c after side, connections = before ++ c :: after ∧
      ∃ existing ∈ before, existing.Meets c side ∧ ofConnections connections =
        .error (.duplicateConnection (c.terminal side).key (c.terminal side).port side
          existing c)) ∨
    (connections.Pairwise Connection.Apart ∧
      ∃ w, ofConnections connections = .ok w ∧ w.Holds connections) := by
  simpa [ofConnections] using foldlM_add_cases connections [] empty holds_empty .nil

/-- A wiring that could be made holds its connections. -/
lemma holds_of_ofConnections (h : ofConnections connections = .ok w) : w.Holds connections := by
  rcases ofConnections_cases connections with ⟨_, _, _, _, _, _, _, _, herror⟩ | ⟨-, w', hok, h'⟩
  · rw [h] at herror
    cases herror
  · rw [h] at hok
    cases hok
    exact h'

/-- A wiring can be made exactly if no two connections meet. -/
lemma ofConnections_isOk_iff : (∃ w, ofConnections connections = .ok w) ↔
    connections.Pairwise Connection.Apart := by
  rcases ofConnections_cases connections with
    ⟨before, c, after, side, rfl, existing, hmem, hmeets, herror⟩ | ⟨hpairwise, w, hok, -⟩
  · refine ⟨fun ⟨w, hok⟩ => ?_, fun hpairwise => ?_⟩
    · rw [herror] at hok
      cases hok
    · exact absurd hmeets ((List.pairwise_append.1 hpairwise).2.2 _ hmem _ List.mem_cons_self side)
  · exact ⟨fun _ => hpairwise, fun _ => ⟨w, hok⟩⟩

/-- **A wiring depends on its connections, not on their order.** -/
theorem Holds.eq_of_perm (h : w.Holds connections) (h' : w'.Holds connections')
    (hperm : connections.Perm connections') : w = w' := by
  have hports : ∀ side key port,
      w.connectionAt? side key port = w'.connectionAt? side key port := by
    intro side key port
    refine Option.ext fun c => ?_
    rw [h.connectionAt?_iff, h'.connectionAt?_iff, hperm.mem_iff]
  have hindex : ∀ side, w.index side = w'.index side := fun side =>
    PortIndex.eq_of_connection? (h.inhabited side) (h'.inhabited side) (hports side)
  have hcount : w.count = w'.count := by rw [h.count_eq, h'.count_eq, hperm.length_eq]
  have hup : w.up = w'.up := hindex .up
  have hdown : w.down = w'.down := hindex .down
  cases w
  cases w'
  simp_all

/-! ## Neighbours -/

/-- The neighbours of a part are the far ends of its connections. -/
lemma mem_neighbours {key other : PartKey} {direction : Direction} :
    other ∈ w.neighbours key direction ↔ ∃ port c,
      w.connectionAt? direction.opposite key port = some c ∧
        (c.terminal direction).key = other := by
  rw [neighbours]
  simp only [connectionAt?]
  cases w.portsAt? direction.opposite key with
  | none => simp
  | some ports =>
      simp only [KeyMap.mem_keys_ofList, List.mem_map, Option.bind_some]
      constructor
      · rintro ⟨_, ⟨c, hc, rfl⟩, hother⟩
        obtain ⟨port, hport⟩ := KeyMap.mem_values.1 hc
        exact ⟨port, c, hport, hother⟩
      · rintro ⟨port, c, hport, hother⟩
        exact ⟨_, ⟨c, KeyMap.mem_values.2 ⟨port, hport⟩, rfl⟩, hother⟩

/-- **Neighbours see each other.** -/
theorem Holds.mem_neighbours_iff (h : w.Holds connections) (key other : PartKey)
    (direction : Direction) : other ∈ w.neighbours key direction ↔
      ∃ c ∈ connections, (c.terminal direction.opposite).key = key ∧
        (c.terminal direction).key = other := by
  rw [mem_neighbours]
  constructor
  · rintro ⟨port, c, hc, hother⟩
    obtain ⟨hmem, hkey, -⟩ := (h.connectionAt?_iff _ _ _ _).1 hc
    exact ⟨c, hmem, hkey, hother⟩
  · rintro ⟨c, hmem, hkey, hother⟩
    exact ⟨_, c, (h.connectionAt?_iff _ _ _ _).2 ⟨hmem, hkey, rfl⟩, hother⟩

end Wiring

end Hookup
