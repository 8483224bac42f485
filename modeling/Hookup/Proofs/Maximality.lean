import Hookup.Catalogue.Hera
import Hookup.Proofs.Resolution
import Hookup.Proofs.Starts

/-!
# Chains are maximal

A walk that succeeds ends for one of three reasons: nothing is left to leave by, the port that is
chosen leads to a part out of service, or the choice between several ports stays open.  What this
says about a chain depends on the ports that there are to choose from and on the rule of choice, so
both are stated here once more: the ports by the labels of the topology and the connections of the
set, the rule clause by clause and without reference to the order in which the clauses are tried.

* `Exits` — the ports by which a walk may leave a part; **`exits_iff`** — they are the candidates.
* `Picks`, `Undecided` — which port the rule chooses among some ports, and when it chooses none of
  several.
* **`pickPort_eq_some`**, **`pickPort_eq_none`** — choosing a port follows exactly that rule.
* **`stops_iff`** — a walk stops exactly for one of the three reasons (`Ended`).
* **`follow_maximal`** — both ends of every chain that was followed are such ends.
-/

namespace Hookup

/-! ## Ports to leave by -/

/-- Whether two texts begin with one letter, in upper or lower case. -/
def BeginAlike (s s' : String) : Prop := ∃ letter letter', s.toList.head? = some letter ∧
  s'.toList.head? = some letter' ∧ letter.toLower = letter'.toLower

lemma beginAlike_iff {s s' : String} {letter : Char} (h : initial? s' = some letter) :
    BeginAlike s s' ↔ initial? s = some letter := by
  obtain ⟨first, hfirst, rfl⟩ := Option.map_eq_some_iff.1 h
  rw [BeginAlike, initial?, Option.map_eq_some_iff]
  constructor
  · rintro ⟨letter, letter', hs, hs', hsame⟩
    rw [hfirst, Option.some.injEq] at hs'
    exact ⟨letter, hs, hs' ▸ hsame⟩
  · rintro ⟨letter, hs, hsame⟩
    exact ⟨letter, first, hs, hfirst, hsame⟩

lemma not_beginAlike {s s' : String} (h : initial? s' = none) : ¬ BeginAlike s s' := by
  rintro ⟨-, letter, -, hs', -⟩
  rw [initial?, hs'] at h
  cases h

/-- Whether a signal of a polarization may pass a port: the port begins like the polarization, or
like none that the topology has. -/
def Topology.MayPass (t : Topology) (pol port : String) : Prop :=
  BeginAlike pol port ∨ ∀ own ∈ t.polarizations, ¬ BeginAlike own port

lemma Topology.carries_iff {t : Topology} {pol port : String} :
    t.carries pol port = true ↔ t.MayPass pol port := by
  rw [carries, portPol?, MayPass]
  cases hport : initial? port with
  | none => simp [not_beginAlike hport]
  | some letter =>
      simp only [beginAlike_iff hport]
      cases hown : t.polarizations.find? fun own => initial? own == some letter with
      | none =>
          rw [List.find?_eq_none] at hown
          simp only [beq_iff_eq] at hown
          simp only [true_iff]
          exact .inr hown
      | some own =>
          -- the first label with the initial of the port stands for all of them
          have hletter : initial? own = some letter := by simpa using List.find?_some hown
          have hnone : ¬ ∀ own ∈ t.polarizations, ¬ initial? own = some letter :=
            fun hnone => hnone own (List.mem_of_find?_eq_some hown) hletter
          simp only [hletter, beq_iff_eq, hnone, or_false]
          exact eq_comm

namespace Terrain

variable {w : Terrain} {direction : Direction} {pol port : String} {stance last : Stance}
  {part : Part} {ports : List String} {chain : List Connection}

/-- Whether a list has, in the order of its type, the ports by which a part may be left in a
direction: those that the polarization may pass and from which a connection of the set leads that
way. -/
structure Exits (w : Terrain) (direction : Direction) (pol : String) (part : Part)
    (ports : List String) : Prop where
  ordered : ports.Sublist (w.topology.portsOf part.partType)
  mem_iff : ∀ port, port ∈ ports ↔ port ∈ w.topology.portsOf part.partType ∧
    w.topology.MayPass pol port ∧
    ∃ c, w.active.Has c ∧ c.IsAt direction.opposite part.key port

lemma mem_candidates (hw : w.active.Built) : port ∈ w.candidates direction pol part ↔
    port ∈ w.topology.portsOf part.partType ∧ w.topology.MayPass pol port ∧
      ∃ c, w.active.Has c ∧ c.IsAt direction.opposite part.key port := by
  simp only [candidates, Topology.portsCarrying, List.mem_filter, Topology.carries_iff, and_assoc,
    Option.isSome_iff_exists, hw.connectionAt?_iff]

/-- **The candidates of a walk are the ports by which it may leave.** -/
theorem exits_iff (hw : w.active.Built) :
    w.Exits direction pol part ports ↔ ports = w.candidates direction pol part := by
  have hcandidates : (w.candidates direction pol part).Sublist
      (w.topology.portsOf part.partType) :=
    List.filter_sublist.trans List.filter_sublist
  constructor
  · rintro ⟨hordered, hmem⟩
    have hnodup : (w.topology.portsOf part.partType).Nodup := Topology.nodup_portsOf
    refine (hnodup.perm_iff_eq_of_sublist hordered hcandidates).1 ?_
    refine (List.perm_ext_iff_of_nodup (hnodup.sublist hordered)
      (hnodup.sublist hcandidates)).2 fun port => ?_
    rw [hmem, mem_candidates hw]
  · rintro rfl
    exact ⟨hcandidates, fun port => mem_candidates hw⟩

/-! ## The rule of choice -/

/-- Whether a part is of a type whose numbers end in the letter of their polarization, and the last
letter of its own number is the initial of this one, in upper or lower case. -/
def Labelled (w : Terrain) (pol : String) (part : Part) : Prop :=
  w.topology.isSinglePol part.partType = true ∧ ∃ last letter,
    part.hpn.toList.getLast? = some last ∧ pol.toList.head? = some letter ∧
      last.toLower = letter.toLower

lemma namedFor_iff : namedFor part pol = true ↔ ∃ last letter,
    part.hpn.toList.getLast? = some last ∧ pol.toList.head? = some letter ∧
      last.toLower = letter.toLower := by
  rw [namedFor]
  cases part.hpn.toList.getLast? <;> cases pol.toList.head? <;> simp [Text.sameLetter]

/-- Whether a port begins with the initial of a polarization, exactly as written. -/
def SharesInitial (pol port : String) : Prop :=
  ∃ letter, pol.toList.head? = some letter ∧ port.toList.head? = some letter

/-- Whether a port is the first of a list with the initial of a polarization. -/
def FirstFit (pol : String) (ports : List String) (port : String) : Prop :=
  SharesInitial pol port ∧ ∃ before after, ports = before ++ port :: after ∧
    ∀ other ∈ before, ¬ SharesInitial pol other

/-- Whether the rule for leaving a part chooses a port among some. -/
inductive Picks (w : Terrain) (pol : String) (stance : Stance) : List String → String → Prop
  | named {first : String} {others : List String} (labelled : w.Labelled pol stance.part) :
      Picks w pol stance (first :: others) first
  | only {port : String} (plain : ¬ w.Labelled pol stance.part) : Picks w pol stance [port] port
  | arrival {ports : List String} (plain : ¬ w.Labelled pol stance.part)
      (several : 2 ≤ ports.length) (back : stance.port ∈ ports) :
      Picks w pol stance ports stance.port
  | initial {ports : List String} {port : String} (plain : ¬ w.Labelled pol stance.part)
      (several : 2 ≤ ports.length) (away : stance.port ∉ ports) (fits : FirstFit pol ports port) :
      Picks w pol stance ports port

/-- Whether there are several ports and nothing speaks for one of them. -/
structure Undecided (w : Terrain) (pol : String) (stance : Stance) (ports : List String) :
    Prop where
  plain : ¬ w.Labelled pol stance.part
  several : 2 ≤ ports.length
  away : stance.port ∉ ports
  unfit : ∀ port ∈ ports, ¬ SharesInitial pol port

lemma withInitial?_eq_some : withInitial? pol ports = some port ↔ FirstFit pol ports port := by
  rw [withInitial?]
  cases hpol : pol.toList.head? with
  | none => simp [FirstFit, SharesInitial, hpol]
  | some letter =>
      simp [FirstFit, SharesInitial, hpol, List.find?_eq_some_iff_append]

lemma withInitial?_eq_none : withInitial? pol ports = none ↔
    ∀ port ∈ ports, ¬ SharesInitial pol port := by
  rw [withInitial?]
  cases hpol : pol.toList.head? <;> simp [SharesInitial, hpol]

lemma not_labelled_iff : ¬ w.Labelled pol part ↔
    (w.topology.isSinglePol part.partType && namedFor part pol) = false := by
  rw [Bool.eq_false_iff, ne_eq, Bool.and_eq_true, namedFor_iff, Labelled]

/-- The ports of a part that is named for the polarization are not compared. -/
lemma pickPort_of_labelled (labelled : w.Labelled pol stance.part) :
    w.pickPort direction pol stance ports = .ok ports.head? := by
  obtain ⟨htype, hname⟩ := labelled
  cases ports with
  | nil => rfl
  | cons first others => simp [pickPort, htype, namedFor_iff.2 hname]

/-- Of several ports of any other part, that of arrival is taken before one with the initial. -/
lemma pickPort_of_several (plain : ¬ w.Labelled pol stance.part) (several : 2 ≤ ports.length) :
    w.pickPort direction pol stance ports =
      if stance.port ∈ ports then .ok (some stance.port)
      else match withInitial? pol ports with
        | some port => .ok (some port)
        | none =>
          if w.strict then .error (.ambiguousPort stance.part.key pol direction ports)
          else .ok none := by
  match ports, several with
  | first :: second :: others, _ =>
      simp only [pickPort, not_labelled_iff.1 plain, List.contains_iff_mem]
      rfl

lemma pickPort_of_only (plain : ¬ w.Labelled pol stance.part) :
    w.pickPort direction pol stance [port] = .ok (some port) := by
  simp [pickPort, not_labelled_iff.1 plain]

lemma Picks.pickPort_eq (h : w.Picks pol stance ports port) :
    w.pickPort direction pol stance ports = .ok (some port) := by
  cases h with
  | named labelled => rw [pickPort_of_labelled labelled, List.head?_cons]
  | only plain => rw [pickPort_of_only plain]
  | arrival plain several back => rw [pickPort_of_several plain several, if_pos back]
  | initial plain several away fits =>
      rw [pickPort_of_several plain several, if_neg away, withInitial?_eq_some.2 fits]

lemma Undecided.pickPort_eq (h : w.Undecided pol stance ports) :
    w.pickPort direction pol stance ports =
      if w.strict then .error (.ambiguousPort stance.part.key pol direction ports)
      else .ok none := by
  rw [pickPort_of_several h.plain h.several, if_neg h.away, withInitial?_eq_none.2 h.unfit]

/-- Among any ports, the rule picks one or leaves the choice open. -/
lemma picks_or_undecided (w : Terrain) (pol : String) (stance : Stance) (ports : List String) :
    ports = [] ∨ (∃ port, w.Picks pol stance ports port) ∨ w.Undecided pol stance ports := by
  match ports with
  | [] => exact .inl rfl
  | first :: others =>
      refine .inr ?_
      by_cases labelled : w.Labelled pol stance.part
      · exact .inl ⟨first, .named labelled⟩
      cases others with
      | nil => exact .inl ⟨first, .only labelled⟩
      | cons second others =>
          have several : 2 ≤ (first :: second :: others).length := by simp
          by_cases back : stance.port ∈ first :: second :: others
          · exact .inl ⟨stance.port, .arrival labelled several back⟩
          cases hfit : withInitial? pol (first :: second :: others) with
          | some fit =>
              exact .inl ⟨fit, .initial labelled several back (withInitial?_eq_some.1 hfit)⟩
          | none =>
              exact .inr ⟨labelled, several, back, withInitial?_eq_none.1 hfit⟩

/-- **A port is chosen exactly if the rule picks it.** -/
theorem pickPort_eq_some :
    w.pickPort direction pol stance ports = .ok (some port) ↔ w.Picks pol stance ports port := by
  refine ⟨fun h => ?_, Picks.pickPort_eq⟩
  rcases w.picks_or_undecided pol stance ports with rfl | ⟨picked, hpicks⟩ | hunclear
  · cases h
  · rw [hpicks.pickPort_eq, Except.ok.injEq, Option.some.injEq] at h
    rwa [← h]
  · rw [hunclear.pickPort_eq] at h
    split_ifs at h
    cases h

/-- **No port is chosen exactly if there is none, or several without a reason for one of them** and
such a choice may stay open. -/
theorem pickPort_eq_none : w.pickPort direction pol stance ports = .ok none ↔
    ports = [] ∨ (w.strict = false ∧ w.Undecided pol stance ports) := by
  constructor
  · intro h
    rcases w.picks_or_undecided pol stance ports with hnil | ⟨picked, hpicks⟩ | hunclear
    · exact .inl hnil
    · rw [hpicks.pickPort_eq] at h
      cases h
    · rw [hunclear.pickPort_eq] at h
      split_ifs at h with strict
      exact .inr ⟨Bool.eq_false_iff.2 strict, hunclear⟩
  · rintro (rfl | ⟨lax, hunclear⟩)
    · rfl
    · rw [hunclear.pickPort_eq, lax]
      rfl

/-! ## Why a walk ends -/

/-- Why a walk goes no further from a stance. -/
inductive Ended (w : Terrain) (direction : Direction) (pol : String) (stance : Stance) : Prop
  /-- No port is left to leave by. -/
  | bare (exits : w.Exits direction pol stance.part [])
  /-- The port that is chosen leads to a part out of service. -/
  | cut {ports : List String} {port : String} {c : Connection}
      (exits : w.Exits direction pol stance.part ports) (picked : w.Picks pol stance ports port)
      (wired : w.active.Has c) (leaves : c.IsAt direction.opposite stance.part.key port)
      (gone : w.active.part? (c.terminal direction).key = none)
  /-- The choice between several ports stays open. -/
  | undecided {ports : List String} (exits : w.Exits direction pol stance.part ports)
      (lax : w.strict = false) (unclear : w.Undecided pol stance ports)

/-- A port that is picked among the candidates is one of them, and so it is wired. -/
lemma exists_connection_of_pick
    (h : w.pickPort direction pol stance (w.candidates direction pol stance.part) =
      .ok (some port)) :
    ∃ c, w.active.wiring.connectionAt? direction.opposite stance.part.key port = some c :=
  Option.isSome_iff_exists.1 (List.mem_filter.1 (mem_of_pickPort h)).2

lemma nextHop_eq_none : w.nextHop direction pol stance = .ok none ↔
    w.pickPort direction pol stance (w.candidates direction pol stance.part) = .ok none := by
  rw [nextHop, Outcome.bind_eq_ok]
  constructor
  · rintro ⟨picked, hpick, h⟩
    cases picked with
    | none => exact hpick
    | some port =>
        obtain ⟨c, hc⟩ := exists_connection_of_pick hpick
        rw [Outcome.pure_eq_ok, Option.bind_some, hc] at h
        cases h
  · intro h
    exact ⟨none, h, rfl⟩

/-- A hop leaves by the port that is chosen, along the connection there. -/
lemma nextHop_eq_some_iff {c : Connection} :
    w.nextHop direction pol stance = .ok (some (port, c)) ↔
      w.pickPort direction pol stance (w.candidates direction pol stance.part) =
        .ok (some port) ∧
      w.active.wiring.connectionAt? direction.opposite stance.part.key port = some c := by
  rw [nextHop, Outcome.bind_eq_ok]
  constructor
  · rintro ⟨picked, hpick, h⟩
    rw [Outcome.pure_eq_ok, Option.bind_eq_some_iff] at h
    obtain ⟨found, rfl, h⟩ := h
    obtain ⟨d, hd, heq⟩ := Option.map_eq_some_iff.1 h
    obtain ⟨rfl, rfl⟩ := Prod.mk.inj heq
    exact ⟨hpick, hd⟩
  · rintro ⟨hpick, hc⟩
    refine ⟨some port, hpick, ?_⟩
    rw [Outcome.pure_eq_ok, Option.bind_some, hc]
    rfl

/-- **A walk stops exactly for one of the three reasons.** -/
theorem stops_iff (hw : w.active.Built) :
    w.Stops direction pol stance ↔ w.Ended direction pol stance := by
  have hexits : w.Exits direction pol stance.part (w.candidates direction pol stance.part) :=
    (exits_iff hw).2 rfl
  constructor
  · rintro (hnone | ⟨port, c, hhop, hgone⟩)
    · rcases pickPort_eq_none.1 (nextHop_eq_none.1 hnone) with hbare | ⟨hlax, hunclear⟩
      · exact .bare (hbare ▸ hexits)
      · exact .undecided hexits hlax hunclear
    · obtain ⟨hpick, hc⟩ := nextHop_eq_some_iff.1 hhop
      obtain ⟨hwired, hleaves⟩ := hw.connectionAt?_iff.1 hc
      exact .cut hexits (pickPort_eq_some.1 hpick) hwired hleaves hgone
  · intro h
    cases h with
    | bare exits =>
        exact .inl (nextHop_eq_none.2 (pickPort_eq_none.2 (.inl ((exits_iff hw).1 exits).symm)))
    | cut exits picked wired leaves gone =>
        rw [(exits_iff hw).1 exits] at picked
        exact .inr ⟨_, _, nextHop_eq_some_iff.2
          ⟨pickPort_eq_some.2 picked, hw.connectionAt?_iff.2 ⟨wired, leaves⟩⟩, gone⟩
    | undecided exits lax unclear =>
        rw [(exits_iff hw).1 exits] at unclear
        exact .inl (nextHop_eq_none.2 (pickPort_eq_none.2 (.inr ⟨lax, unclear⟩)))

/-! ## Where a walk ends -/

/-- A walk comes to stand at the part to which its last connection leads, at the port there. -/
lemma Walked.last_eq (h : w.Walked direction pol stance chain last) :
    (chain = [] → last = stance) ∧ ∀ c ∈ chain.getLast?,
      w.active.part? (c.terminal direction).key = some last.part ∧
        last.port = (c.terminal direction).port := by
  induction h with
  | nil => simp
  | @cons stance last next port c chain hop arrival onward ih =>
      refine ⟨nofun, fun d hd => ?_⟩
      cases chain with
      | nil =>
          rw [List.getLast?_singleton, Option.mem_some_iff] at hd
          subst hd
          rw [ih.1 rfl]
          exact ⟨arrival, rfl⟩
      | cons e rest =>
          rw [List.getLast?_cons_cons] at hd
          exact ih.2 d hd

/-- **A walk that succeeds ends where its last connection leads, and for one of the reasons.** -/
lemma exists_ended_of_walk (hw : w.active.Built) (h : w.walk direction pol stance = .ok chain) :
    ∃ last, ((chain = [] → last = stance) ∧ ∀ c ∈ chain.getLast?,
      w.active.part? (c.terminal direction).key = some last.part ∧
        last.port = (c.terminal direction).port) ∧ w.Ended direction pol last := by
  obtain ⟨last, ⟨hwalked, -⟩, hstops⟩ := reaches_of_walk hw h
  exact ⟨last, hwalked.last_eq, (stops_iff hw).1 hstops⟩

/-- **No chain is cut short.**  A chain that was followed consists of what the walk up met, turned
round, and what the walk down met.  Take the part at its upper end and the port by which the walk
came there, or the start if nothing was found above it: there the walk up had nothing to leave by,
or the port that the rule picks leads to a part out of service, or, unless choices have to be
decided, the rule picks none.  The same holds of the walk down at the lower end. -/
theorem follow_maximal {instant : GpsTime} {records : Records} {s : ActiveSet}
    (hs : ActiveSet.ofRecords instant records = .ok s) {t : Topology} {strict : Bool}
    {part : Part} {chain : List Connection}
    (h : (⟨s, t, strict⟩ : Terrain).follow pol ⟨part, port⟩ = .ok chain) :
    ∃ above below top bottom, above ++ below = chain ∧
      ((⟨s, t, strict⟩ : Terrain).walk .up pol ⟨part, port⟩ = .ok above.reverse ∧
        (above = [] → top = ⟨part, port⟩) ∧
        (∀ c ∈ above.head?, s.part? c.up.key = some top.part ∧ top.port = c.up.port) ∧
        (⟨s, t, strict⟩ : Terrain).Ended .up pol top) ∧
      ((⟨s, t, strict⟩ : Terrain).walk .down pol ⟨part, port⟩ = .ok below ∧
        (below = [] → bottom = ⟨part, port⟩) ∧
        (∀ c ∈ below.getLast?, s.part? c.down.key = some bottom.part ∧
          bottom.port = c.down.port) ∧
        (⟨s, t, strict⟩ : Terrain).Ended .down pol bottom) := by
  have hbuilt : s.Built := ⟨instant, records, hs⟩
  obtain ⟨up, below, hup, hdown, rfl⟩ := follow_eq_ok.1 h
  obtain ⟨top, ⟨htop, hupper⟩, hended⟩ :=
    exists_ended_of_walk (w := ⟨s, t, strict⟩) hbuilt hup
  obtain ⟨bottom, ⟨hbottom, hlower⟩, hended'⟩ :=
    exists_ended_of_walk (w := ⟨s, t, strict⟩) hbuilt hdown
  refine ⟨up.reverse, below, top, bottom, rfl, ⟨?_, ?_, ?_, hended⟩, hdown, hbottom, hlower,
    hended'⟩
  · rw [List.reverse_reverse]
    exact hup
  · intro hnil
    exact htop (List.reverse_eq_nil_iff.1 hnil)
  · rw [List.head?_reverse]
    exact hupper

/-- The antenna of a dish whose feed is wired to a front-end out of service: the chain ends at the
station, which nothing is attached to, and at the feed, from which the port leads on to nothing. -/
theorem follow_maximal_dish : ∃ s chain top bottom,
    ActiveSet.ofRecords ⟨10⟩ { Records.dish with connections := Records.dish.connections ++
      [⟨⟨"FDV1", "V", "terminals"⟩, ⟨"FEM1", "A", "input"⟩, default⟩] } = .ok s ∧
    (⟨s, Catalogue.heraTopology, true⟩ : Terrain).follow "e"
      ⟨⟨"A1", "H", "antenna", none, default⟩, "ground"⟩ = .ok chain ∧ chain.length = 2 ∧
    top.part.hpn = "HH1" ∧ (⟨s, Catalogue.heraTopology, true⟩ : Terrain).Ended .up "e" top ∧
    bottom.part.hpn = "FDV1" ∧
    (⟨s, Catalogue.heraTopology, true⟩ : Terrain).Ended .down "e" bottom := by
  let antenna : Stance := ⟨⟨"A1", "H", "antenna", none, default⟩, "ground"⟩
  let records : Records := { Records.dish with connections := Records.dish.connections ++
    [⟨⟨"FDV1", "V", "terminals"⟩, ⟨"FEM1", "A", "input"⟩, default⟩] }
  let namesOf (s : ActiveSet) (direction : Direction) (chain : List Connection) :=
    chain.map fun c => (s.part? (c.terminal direction).key).map Part.hpn
  have hdish : (ActiveSet.ofRecords ⟨10⟩ records).toOption.any (fun s =>
      let w : Terrain := ⟨s, Catalogue.heraTopology, true⟩
      (w.walk .up "e" antenna).toOption.any (namesOf s .up · == [some "HH1"]) &&
        (w.walk .down "e" antenna).toOption.any (namesOf s .down · == [some "FDV1"])) = true := by
    decide +kernel
  obtain ⟨s, hs, hwalks⟩ := Outcome.exists_of_any hdish
  rw [Bool.and_eq_true] at hwalks
  obtain ⟨up, hup, hupper⟩ := Outcome.exists_of_any hwalks.1
  obtain ⟨down, hdown, hlower⟩ := Outcome.exists_of_any hwalks.2
  obtain ⟨first, rfl, hfirst⟩ := List.map_eq_singleton_iff.1 (beq_iff_eq.1 hupper)
  obtain ⟨last, rfl, hlast⟩ := List.map_eq_singleton_iff.1 (beq_iff_eq.1 hlower)
  have hchain : (⟨s, Catalogue.heraTopology, true⟩ : Terrain).follow "e" antenna =
      .ok [first, last] := follow_eq_ok.2 ⟨[first], [last], hup, hdown, rfl⟩
  obtain ⟨above, below, top, bottom, -, ⟨habove, -, htop, hended⟩, hbelow, -, hbottom, hended'⟩ :=
    follow_maximal hs hchain
  rw [hup, Except.ok.injEq] at habove
  rw [hdown, Except.ok.injEq] at hbelow
  obtain rfl : above = [first] := by rw [← List.reverse_reverse above, ← habove]; rfl
  subst hbelow
  have htop := (htop first rfl).1
  have hbottom := (hbottom last rfl).1
  refine ⟨s, [first, last], top, bottom, hs, hchain, rfl, ?_, hended, ?_, hended'⟩
  · have hnamed : (s.part? first.up.key).map Part.hpn = some "HH1" := hfirst
    rw [htop] at hnamed
    exact Option.some.inj hnamed
  · have hnamed : (s.part? last.down.key).map Part.hpn = some "FDV1" := hlast
    rw [hbottom] at hnamed
    exact Option.some.inj hnamed

end Terrain

end Hookup
