import Hookup.Proofs.ChainTiming
import Hookup.Report

/-!
# Tables show whole chains

A row of the table of an entry has a cell for each part along a chain, made from the connections,
and is then cut or filled up to the width of the header, which comes from the widest list of
columns.  A row that was too long would lose parts of the chain without a word.  None is, since the
columns of a chain are as many as the parts along it.

* `ActiveSet.LeadsThrough` — the parts along a chain, with the port by which the chain enters each
  of them and the port by which it leaves.
* `ActiveSet.Sound.exists_cells` — the cells of a chain are those of the parts that it leads
  through; the two connections that meet at a part name it alike.
* `Entry.length_le_headers` — no list of columns is longer than the header, so that no row is cut.
* **`tables_show_chains`** — every table of a resolved entry, of a narrowing of one, or of an entry
  from a cache shows all parts of all of its chains.
-/

namespace Hookup

/-! ## Parts along a chain -/

/-- A part along a chain, with the port by which the chain enters it, unless it begins there, and
the port by which it leaves, unless it ends there. -/
structure Passage where
  enters : Option String
  part : Part
  leaves : Option String

/-- How a passage is shown: the part between the two ports. -/
def Passage.cell (p : Passage) : String :=
  (p.enters.map (· ++ "> ")).getD "" ++ (p.part.hpn ++ ":" ++ p.part.rev) ++
    (p.leaves.map (" <" ++ ·)).getD ""

/-- Whether a chain that enters the part of a key by a port, or begins there, leads through these
active parts to its end. -/
inductive ActiveSet.LeadsThrough (s : ActiveSet) :
    Option String → PartKey → List Connection → List Passage → Prop
  | ends {enters : Option String} {key : PartKey} {part : Part}
      (active : s.part? key = some part) : LeadsThrough s enters key [] [⟨enters, part, none⟩]
  | goes {enters : Option String} {key : PartKey} {part : Part} {c : Connection}
      {rest : List Connection} {passages : List Passage} (leaves : c.up.key = key)
      (active : s.part? key = some part)
      (onward : LeadsThrough s (some c.down.port) c.down.key rest passages) :
      LeadsThrough s enters key (c :: rest) (⟨enters, part, some c.up.port⟩ :: passages)

namespace ActiveSet

variable {s : ActiveSet} {enters : Option String} {key : PartKey} {c : Connection}
  {chain rest : List Connection} {passages : List Passage} {part : Part}

/-- There is one part more than there are connections. -/
lemma LeadsThrough.length_eq (h : s.LeadsThrough enters key chain passages) :
    passages.length = chain.length + 1 := by
  induction h with
  | ends => rfl
  | goes _ _ _ ih => rw [List.length_cons, ih, List.length_cons]

lemma Sound.tail (h : s.Sound (c :: chain)) : s.Sound chain where
  has d hd := h.has d (List.mem_cons_of_mem _ hd)
  ends_active d hd := h.ends_active d (List.mem_cons_of_mem _ hd)
  meet := h.meet.of_cons

/-- A sound chain leads from active part to active part. -/
lemma Sound.exists_leadsThrough (h : s.Sound (c :: chain)) (enters : Option String) :
    ∃ passages, s.LeadsThrough enters c.up.key (c :: chain) passages := by
  induction chain generalizing c enters with
  | nil =>
      obtain ⟨top, htop⟩ := Option.isSome_iff_exists.1 (h.ends_active c List.mem_cons_self .up)
      obtain ⟨far, hfar⟩ := Option.isSome_iff_exists.1 (h.ends_active c List.mem_cons_self .down)
      exact ⟨_, .goes rfl htop (.ends hfar)⟩
  | cons d rest ih =>
      obtain ⟨top, htop⟩ := Option.isSome_iff_exists.1 (h.ends_active c List.mem_cons_self .up)
      obtain ⟨passages, hpassages⟩ := ih h.tail (some c.down.port)
      -- the next connection leaves the part that this one has entered
      rw [← (List.isChain_cons_cons.1 h.meet).1] at hpassages
      exact ⟨_, .goes rfl htop hpassages⟩

/-- The names in a connection are those of the active part at its end. -/
lemma Built.names_eq (hs : s.Built) (hc : s.Has c) (side : Direction)
    (hpart : s.part? (c.terminal side).key = some part) :
    part.hpn ++ ":" ++ part.rev = (c.terminal side).hpn ++ ":" ++ (c.terminal side).rev := by
  obtain ⟨p, hp, hkey⟩ := hs.exists_canonical_of_part? hpart
  obtain ⟨instant, records, hset⟩ := hs
  obtain ⟨record, -, -, hrecord⟩ := mem_activeConnections.1 ((has_iff hset).1 hc)
  have hcanonical : part.canonical = part := by rw [hp, Part.canonical_canonical]
  have hterminal : (c.terminal side).canonical = c.terminal side := by
    rw [← hrecord, Connection.terminal_canonical, Terminal.canonical_canonical]
  rw [← Part.key_text hcanonical, hkey, Terminal.key_text hterminal]

/-! ## Cells -/

lemma Built.sourceCell_eq (hs : s.Built) (hc : s.Has c) (hpart : s.part? c.up.key = some part) :
    sourceCell c = Passage.cell ⟨none, part, some c.up.port⟩ := by
  have hnames := hs.names_eq hc .up hpart
  simp only [Connection.terminal] at hnames
  simp [sourceCell, Passage.cell, hnames, String.append_assoc]

lemma Built.hopCell_eq (hs : s.Built) (hc : s.Has c) (hpart : s.part? c.down.key = some part)
    (next : Option Connection) :
    hopCell c next = Passage.cell ⟨some c.down.port, part, next.map (·.up.port)⟩ := by
  have hnames := hs.names_eq hc .down hpart
  simp only [Connection.terminal] at hnames
  cases next <;> simp [hopCell, Passage.cell, hnames, String.append_assoc]

/-- The cells from the second part on, by induction on the connections: the cell of a part is made
from the connection that enters it and the next one, which leaves it. -/
lemma LeadsThrough.hopCells_eq (hs : s.Built) (hchain : ∀ d ∈ c :: rest, s.Has d)
    (h : s.LeadsThrough (some c.down.port) c.down.key rest passages) :
    hopCells (c :: rest) = passages.map Passage.cell := by
  induction rest generalizing c passages with
  | nil =>
      cases h with
      | ends active =>
          rw [hopCells, hs.hopCell_eq (hchain c List.mem_cons_self) active]
          rfl
  | cons d rest ih =>
      cases h with
      | goes leaves active onward =>
          have hrest : ∀ e ∈ d :: rest, s.Has e := fun e he => hchain e (List.mem_cons_of_mem _ he)
          rw [hopCells, hs.hopCell_eq (hchain c List.mem_cons_self) active, ih hrest onward]
          rfl

/-- **The cells of a chain show the parts that it leads through.** -/
theorem Sound.exists_cells (hs : s.Built) (h : s.Sound chain) (hne : chain ≠ []) :
    ∃ start passages, s.LeadsThrough none start chain passages ∧
      chainCells chain = passages.map Passage.cell := by
  obtain ⟨c, rest, rfl⟩ := List.exists_cons_of_ne_nil hne
  obtain ⟨passages, hpassages⟩ := h.exists_leadsThrough none
  refine ⟨c.up.key, passages, hpassages, ?_⟩
  cases hpassages with
  | goes _ active onward =>
      rw [chainCells, hs.sourceCell_eq (h.has c List.mem_cons_self) active,
        onward.hopCells_eq hs h.has, List.map_cons]

end ActiveSet

lemma length_hopCells (chain : List Connection) : (hopCells chain).length = chain.length := by
  induction chain with
  | nil => rfl
  | cons c rest ih => rw [hopCells, List.length_cons, ih, List.length_cons]

lemma length_chainCells_le (chain : List Connection) :
    (chainCells chain).length ≤ chain.length + 1 := by
  cases chain with
  | nil => exact Nat.zero_le _
  | cons c rest => rw [chainCells, List.length_cons, length_hopCells]

/-! ## The width of a table -/

lemma length_fitted (length : Nat) (cells : List String) :
    (fitted length cells).length = length := by
  rw [fitted, List.length_append, List.length_take, List.length_replicate]
  omega

/-- Nothing is cut off a list that is short enough. -/
lemma fitted_of_le {length : Nat} {cells : List String} (h : cells.length ≤ length) :
    fitted length cells = cells ++ List.replicate (length - cells.length) "" := by
  rw [fitted, List.take_of_length_le h]

namespace Entry

variable {e : Entry} {key : String} {chain : List Connection} {columns : List String}

lemma length_wider_le {a b : List String} {n : Nat} :
    (wider a b).length ≤ n ↔ a.length ≤ n ∧ b.length ≤ n := by
  rw [wider]
  split_ifs <;> omega

/-- No list of columns is longer than the one in the header. -/
lemma length_le_headers (h : e.columns.get? key = some columns) :
    columns.length ≤ e.headers.length := by
  have hall := (foldl_iff_forall (P := (List.length · ≤ e.headers.length))
    (fun _ _ => length_wider_le) e.columns.values []).1 (Nat.le_refl _)
  exact hall columns (List.mem_cons_of_mem _ (KeyMap.mem_values.2 ⟨key, h⟩))

lemma length_headerRow (e : Entry) : e.headerRow.length = e.headers.length + 2 := by
  simp [headerRow]

lemma length_keyRow (e : Entry) (key : String) : (e.keyRow key).length = e.headerRow.length := by
  rw [keyRow, List.length_append, length_fitted, length_headerRow, List.length_singleton]
  omega

/-- **A row is not cut** if its chain has a column for each part. -/
theorem keyRow_eq (hchain : e.chains.get? key = some chain)
    (hcolumns : e.columns.get? key = some columns) (hlength : columns.length = chain.length + 1) :
    ∃ blanks, e.keyRow key = key :: chainCells chain ++ List.replicate blanks "" ++
      [if e.isComplete key then "yes" else "no"] := by
  have hcells := length_chainCells_le chain
  have hwidth := length_le_headers hcolumns
  refine ⟨e.headers.length - (chainCells chain).length, ?_⟩
  rw [keyRow, hchain, Option.getD_some, length_headerRow, fitted_of_le]
  · simp
  · rw [List.length_cons]
    omega

lemma isComplete_iff : e.isComplete key = true ↔ e.complete.get? key = some true := by
  rw [isComplete]
  cases e.complete.get? key <;> simp

/-! ## Tables -/

/-- Whether a row shows what an entry has under a key: the key, a cell for each part along the
chain, from its upper end on, blanks, and in the last place whether the chain is complete.  A chain
without connections has no cells. -/
def RowShows (e : Entry) (s : ActiveSet) (key : String) (row : List String) : Prop :=
  ∃ chain cells blanks mark, e.chains.get? key = some chain ∧
    row = key :: cells ++ List.replicate blanks "" ++ [mark] ∧
    (chain = [] → cells = []) ∧
    (chain ≠ [] → cells.length = chain.length + 1 ∧ ∃ start passages,
      s.LeadsThrough none start chain passages ∧ cells = passages.map Passage.cell) ∧
    (mark = "yes" ↔ e.complete.get? key = some true)

/-- Whether the table of an entry has a row of the width of its header for each key, which shows
what the entry has under it. -/
def TableShows (e : Entry) (s : ActiveSet) : Prop :=
  ∃ header rows, e.tableRows = header :: rows ∧ (∀ row ∈ rows, row.length = header.length) ∧
    List.Forall₂ (e.RowShows s) e.keys rows

lemma rowShows_keyRow {s : ActiveSet} (hs : s.Built) (hchain : e.chains.get? key = some chain)
    (hcolumns : e.columns.get? key = some columns) (hlength : columns.length = chain.length + 1)
    (hsound : s.Sound chain) : e.RowShows s key (e.keyRow key) := by
  obtain ⟨blanks, hrow⟩ := keyRow_eq hchain hcolumns hlength
  refine ⟨chain, chainCells chain, blanks, _, hchain, hrow, fun hnil => ?_, fun hne => ?_, ?_⟩
  · rw [hnil, chainCells]
  · obtain ⟨start, passages, hpassages, hcells⟩ := hsound.exists_cells hs hne
    refine ⟨?_, start, passages, hpassages, hcells⟩
    rw [hcells, List.length_map, hpassages.length_eq]
  · rw [← isComplete_iff]
    split_ifs with hcomplete <;> simp [hcomplete]

/-- **A table shows its chains** if they are sound and have a column for each part. -/
theorem tableShows_of_madeOf {s : ActiveSet} (hs : s.Built)
    (h : e.MadeOf fun row => row.columns.length = row.chain.length + 1 ∧ s.Sound row.chain) :
    e.TableShows s := by
  refine ⟨e.headerRow, e.keys.map e.keyRow, rfl, fun row hrow => ?_, ?_⟩
  · obtain ⟨key, -, rfl⟩ := List.mem_map.1 hrow
    exact e.length_keyRow key
  · rw [List.forall₂_map_right_iff, List.forall₂_same]
    intro key hkey
    obtain ⟨chain, hchain⟩ := KeyMap.mem_keys.1 hkey
    obtain ⟨name, topology, rows, rfl, hrows⟩ := h
    -- chain and columns are read off the one row under the key
    have hget := hchain
    rw [ofRows, KeyMap.get?_mapValues] at hget
    obtain ⟨row, hrow, rfl⟩ := Option.map_eq_some_iff.1 hget
    obtain ⟨hlength, hsound⟩ := hrows key row hrow
    have hcolumns : (ofRows name topology rows).columns.get? key = some row.columns := by
      rw [ofRows, KeyMap.get?_mapValues, hrow, Option.map_some]
    exact rowShows_keyRow hs hchain hcolumns hlength hsound

end Entry

namespace Resolver

variable {r : Resolver} {key : PartKey} {pol : PolSelection} {hint : Option String} {allowed : Nat}
  {entry : Entry}

/-- The table of a resolved entry shows its chains, and so does that of each narrowing of it. -/
lemma tableShows_narrow (hr : r.active.Built)
    (h : r.resolveWithin pol hint allowed key = .ok (some entry)) (wanted : PolSelection) :
    (wanted.narrow entry).TableShows r.active := by
  rw [wanted.narrow_eq_filterKeys]
  exact Entry.tableShows_of_madeOf hr (((resolveWithin_madeOf h).mono fun _ htraces =>
    ⟨(htraces.columns hr).1, htraces.sound hr⟩).filterKeys _)

end Resolver

/-! ## The main statement -/

/-- **Tables show whole chains.**  Take any entry that a part is resolved to on an active set, by
itself or in a dossier, or any narrowing of it to a polarization; or any entry that is selected from
a cache, with the set that the cache was built from.  Its table has a row for each key, of the width
of the header.  The row of a key has a cell for each part along the chain, one more than the chain
has connections: in order, the active part between the port by which the chain enters it and the
port by which the chain leaves it.  The last cell is yes exactly if the chain is complete. -/
theorem tables_show_chains :
    (∀ (instant : GpsTime) (records : Records) (s : ActiveSet) (catalogue : Catalogue)
      (strict : Bool) (pol : PolSelection) (hint : Option String) (wanted : PolSelection),
      ActiveSet.ofRecords instant records = .ok s →
      (∀ key entry, (⟨catalogue, s, strict⟩ : Resolver).resolvePart key pol hint =
        .ok (some entry) → (wanted.narrow entry).TableShows s) ∧
      ∀ names exact dossier, (⟨catalogue, s, strict⟩ : Resolver).resolveNames names exact pol hint =
        .ok dossier → ∀ key entry, dossier.get? key = some entry →
        (wanted.narrow entry).TableShows s) ∧
    ∀ (service : Service) (instant : GpsTime) (cache : HookupCache),
      service.buildCache instant = .ok cache →
      ∃ active, ActiveSet.load service.source instant = .ok active ∧
        ∀ names exact wanted key entry,
          (cache.select names exact wanted).get? key = some entry → entry.TableShows active := by
  constructor
  · intro instant records s catalogue strict pol hint wanted hs
    have hparts : ∀ key entry, (⟨catalogue, s, strict⟩ : Resolver).resolvePart key pol hint =
        .ok (some entry) → (wanted.narrow entry).TableShows s := fun key entry h =>
      Resolver.tableShows_narrow (r := ⟨catalogue, s, strict⟩) ⟨instant, records, hs⟩ h wanted
    refine ⟨hparts, fun names exact dossier hdossier key entry hentry => ?_⟩
    obtain ⟨part, -, -, hrun⟩ := (Resolver.get?_resolveNames hdossier key).1 hentry
    exact hparts part.key entry hrun
  · intro service instant cache hcache
    obtain ⟨active, hload⟩ := Service.exists_load_of_buildCache hcache
    refine ⟨active, hload, fun names exact wanted key entry hentry => ?_⟩
    obtain ⟨part, whole, -, -, hrun, rfl⟩ := Service.exists_of_get?_select hload hcache hentry
    exact Resolver.tableShows_narrow (r := service.resolver active false)
      (ActiveSet.built_of_load hload) hrun wanted

/-- The east chains of a node: one of three parts by way of its first board, and those of two parts
by way of the other one, whose rows are filled up. -/
def nodeTable : List (List String) := [
  ["key", "post-amp", "snap", "node", "complete"],
  ["e<e10>@SNP2", "SNP2:A <rack", "loc1> N1:A", "", "no"],
  ["e<e2>@SNP1", "PAM1:A <e", "e2> SNP1:A <rack", "loc0> N1:A", "no"],
  ["e<e2>@SNP2", "SNP2:A <rack", "loc1> N1:A", "", "no"],
  ["e<e6>@SNP2", "SNP2:A <rack", "loc1> N1:A", "", "no"]]

/-- The table of the node shows its chains, and so does that of its entry in a cache. -/
theorem tables_show_chains_datedRack :
    (∃ s entry, ActiveSet.ofRecords ⟨10⟩ .datedRack = .ok s ∧
      (⟨.hera, s, true⟩ : Resolver).resolvePart ⟨"N1:A"⟩ .all none = .ok (some entry) ∧
      (entry.retainPol "E").TableShows s ∧ (entry.retainPol "E").tableRows = nodeTable) ∧
    ∃ cache active picked, Service.datedRack.buildCache ⟨10⟩ = .ok cache ∧
      ActiveSet.load Service.datedRack.source ⟨10⟩ = .ok active ∧
      (cache.select ["n1"] true (.only "E")).get? "N1:A" = some picked ∧
      picked.TableShows active := by
  obtain ⟨hentries, hcaches⟩ := tables_show_chains
  constructor
  · have hrack : (ActiveSet.ofRecords ⟨10⟩ .datedRack).toOption.any (fun s =>
        ((⟨.hera, s, true⟩ : Resolver).resolvePart ⟨"N1:A"⟩ .all none).toOption.any fun found =>
          found.any fun entry => decide ((entry.retainPol "E").tableRows = nodeTable)) = true := by
      decide +kernel
    obtain ⟨s, hs, hentry⟩ := Outcome.exists_of_any hrack
    obtain ⟨found, hrun, hfound⟩ := Outcome.exists_of_any hentry
    obtain ⟨entry, rfl, hrows⟩ := (Option.any_eq_true _ _).1 hfound
    exact ⟨s, entry, hs, hrun,
      (hentries ⟨10⟩ .datedRack s .hera true .all none (.only "E") hs).1 _ entry hrun,
      of_decide_eq_true hrows⟩
  · have hstored : (Service.datedRack.buildCache ⟨10⟩).toOption.any (fun cache =>
        ((cache.select ["n1"] true (.only "E")).get? "N1:A").isSome) = true := by
      decide +kernel
    obtain ⟨cache, hcache, hpicked⟩ := Outcome.exists_of_any hstored
    obtain ⟨picked, hpicked⟩ := Option.isSome_iff_exists.1 hpicked
    obtain ⟨active, hload, hshows⟩ := hcaches Service.datedRack ⟨10⟩ cache hcache
    exact ⟨cache, active, picked, hcache, hload, hpicked, hshows _ _ _ _ picked hpicked⟩

end Hookup
