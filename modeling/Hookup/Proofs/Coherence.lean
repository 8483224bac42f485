import Hookup.Proofs.Chains

/-!
# Entries are coherent

The five tables of an entry are filled, renamed, joined and narrowed side by side.  Nothing in their
types keeps them together, so this module shows that they always are the columns of one table: under
each hookup key stands one `Entry.Row`, and no operation mixes two rows.

* `Entry.ofRows` — the entry whose tables are the columns of a table of rows.  Each operation on
  entries does to the rows what it does to the tables.
* `StandsFor` — a part is walked from itself, or by way of the parts attached to it.
* `Traces` — a row lists what following a polarization from such a part gives.
* **`resolvePart_coherent`** — in every resolved entry, and in every narrowing of one, the tables
  have the same keys, and what they hold under a key belongs to one chain.
-/

namespace Hookup

/-! ## Rows -/

namespace Entry

/-- What the tables of an entry hold under one key. -/
structure Row where
  chain : List Connection
  complete : Bool
  hookupType : String
  columns : List String
  timing : Timing

/-- The entry whose tables are the columns of a table of rows. -/
def ofRows (key : String) (topology : EntryTopology) (rows : KeyMap String Row) : Entry where
  key := key
  chains := rows.mapValues Row.chain
  complete := rows.mapValues Row.complete
  hookupTypes := rows.mapValues Row.hookupType
  columns := rows.mapValues Row.columns
  timings := rows.mapValues Row.timing
  topology := topology

/-- The row of a chain under a hookup type. -/
def rowOf (hookupType : String) (c : ResolvedChain) : Row :=
  ⟨c.chain, c.complete, hookupType, c.columns, .ofChain c.chain⟩

variable {key key' : String} {topology topology' : EntryTopology} {rows rows' : KeyMap String Row}

lemma foldl_add_eq_ofRows (hookupType key : String) (topology : EntryTopology)
    (resolved : List ResolvedChain) :
    resolved.foldl (Entry.add hookupType) (.empty key topology) =
      ofRows key topology (.ofList (resolved.map fun c => (c.key, rowOf hookupType c))) := by
  simp only [foldl_add, ofRows, KeyMap.mapValues_ofList, List.map_map]
  rfl

lemma filterKeys_ofRows (keep : String → Bool) :
    (ofRows key topology rows).filterKeys keep = ofRows key topology (rows.filter keep) := by
  simp only [ofRows, filterKeys, KeyMap.mapValues_filter]

lemma rekey_ofRows (rename : String → String) :
    (ofRows key topology rows).rekey rename = ofRows key topology (rows.rekey rename) := by
  simp only [ofRows, rekey, KeyMap.mapValues_rekey]

lemma absorb_ofRows : (ofRows key topology rows).absorb (ofRows key' topology' rows') =
    ofRows key topology (rows.union rows') := by
  simp only [ofRows, absorb, KeyMap.mapValues_union]

/-! ## Properties of all rows -/

/-- Whether an entry is made of rows that have a property. -/
def MadeOf (e : Entry) (P : Row → Prop) : Prop :=
  ∃ key topology rows, e = ofRows key topology rows ∧ ∀ k row, rows.get? k = some row → P row

variable {e other : Entry} {P : Row → Prop}

lemma madeOf_foldl_add {hookupType : String} {resolved : List ResolvedChain}
    (h : ∀ c ∈ resolved, P (rowOf hookupType c)) :
    (resolved.foldl (Entry.add hookupType) (.empty key topology)).MadeOf P := by
  refine ⟨_, _, _, foldl_add_eq_ofRows hookupType key topology resolved, fun k row hrow => ?_⟩
  obtain ⟨c, hc, heq⟩ := List.mem_map.1 (KeyMap.mem_of_get?_ofList hrow)
  obtain ⟨-, rfl⟩ := Prod.mk.inj heq
  exact h c hc

lemma MadeOf.named (h : e.MadeOf P) (text : String) : MadeOf { e with key := text } P := by
  obtain ⟨key, topology, rows, rfl, hrows⟩ := h
  exact ⟨text, topology, rows, rfl, hrows⟩

lemma MadeOf.filterKeys (h : e.MadeOf P) (keep : String → Bool) : (e.filterKeys keep).MadeOf P := by
  obtain ⟨key, topology, rows, rfl, hrows⟩ := h
  refine ⟨key, topology, rows.filter keep, filterKeys_ofRows keep, fun k row hrow => ?_⟩
  rw [KeyMap.get?_filter] at hrow
  split_ifs at hrow
  exact hrows k row hrow

lemma MadeOf.rekey (h : e.MadeOf P) (rename : String → String) : (e.rekey rename).MadeOf P := by
  obtain ⟨key, topology, rows, rfl, hrows⟩ := h
  refine ⟨key, topology, rows.rekey rename, rekey_ofRows rename, fun k row hrow => ?_⟩
  obtain ⟨old, -, hold⟩ := KeyMap.exists_of_get?_rekey hrow
  exact hrows old row hold

lemma MadeOf.absorb (h : e.MadeOf P) (h' : other.MadeOf P) : (e.absorb other).MadeOf P := by
  obtain ⟨key, topology, rows, rfl, hrows⟩ := h
  obtain ⟨key', topology', rows', rfl, hrows'⟩ := h'
  refine ⟨key, topology, rows.union rows', absorb_ofRows, fun k row hrow => ?_⟩
  rw [KeyMap.get?_union, Option.or_eq_some_iff] at hrow
  rcases hrow with hrow | ⟨-, hrow⟩
  · exact hrows' k row hrow
  · exact hrows k row hrow

lemma MadeOf.mono {Q : Row → Prop} (h : e.MadeOf P) (hPQ : ∀ row, P row → Q row) : e.MadeOf Q := by
  obtain ⟨key, topology, rows, rfl, hrows⟩ := h
  exact ⟨key, topology, rows, rfl, fun k row hrow => hPQ row (hrows k row hrow)⟩

end Entry

/-! ## Column headings -/

namespace Topology

variable {t : Topology} {types pattern : List String}

/-- The complete sequence that is found for some types is that of the types themselves. -/
lemma matchingPattern?_eq_some :
    t.matchingPattern? types = some pattern ↔ types ∈ t.patterns ∧ pattern = types := by
  rw [matchingPattern?]
  constructor
  · intro h
    have heq : pattern = types := by simpa using List.find?_some h
    exact ⟨heq ▸ List.mem_of_find?_eq_some h, heq⟩
  · rintro ⟨hmem, rfl⟩
    have hsome : (t.patterns.find? (· == pattern)).isSome = true := by
      rw [List.find?_isSome]
      exact ⟨pattern, hmem, beq_self_eq_true pattern⟩
    obtain ⟨found, hfound⟩ := Option.isSome_iff_exists.1 hsome
    have heq : found = pattern := by simpa using List.find?_some hfound
    rwa [heq] at hfound

end Topology

namespace Terrain

variable {w : Terrain} {part far : Part} {chain : List Connection} {c : Connection}

lemma length_typesAlong : (w.typesAlong part chain).length = chain.length + 1 := by
  cases chain with
  | nil => rfl
  | cons c rest => rw [typesAlong, List.length_cons, List.length_map]

/-- The first type along a chain is that of the part at its upper end. -/
lemma typesAlong_head (hc : c ∈ chain.head?) (hfar : w.active.part? c.up.key = some far) :
    (w.typesAlong part chain)[0]? = some far.partType := by
  cases chain with
  | nil => cases hc
  | cons first rest =>
      cases hc
      simp only [typesAlong, hfar, List.getElem?_cons_zero, Option.map_some, Option.getD_some]

/-- After it come the types of the parts to which the connections lead down. -/
lemma typesAlong_getElem? {i : Nat} (hc : chain[i]? = some c)
    (hfar : w.active.part? c.down.key = some far) :
    (w.typesAlong part chain)[i + 1]? = some far.partType := by
  cases chain with
  | nil => cases hc
  | cons first rest =>
      simp only [typesAlong, List.getElem?_cons_succ, List.getElem?_map, hc, hfar, Option.map_some,
        Option.getD_some]

end Terrain

/-! ## What rows list -/

/-- A node with two boards in it. -/
def Records.rack : Records where
  parts := [⟨"N1", "A", "node", none, default⟩, ⟨"SNP1", "A", "snap", none, default⟩,
    ⟨"SNP2", "A", "snap", none, default⟩]
  connections := [
    ⟨⟨"SNP1", "A", "rack"⟩, ⟨"N1", "A", "loc0"⟩, default⟩,
    ⟨⟨"SNP2", "A", "rack"⟩, ⟨"N1", "A", "loc1"⟩, default⟩]
  notes := []
  statuses := []
  locations := []

namespace Resolver

variable {r : Resolver} {hint : Option String} {key : PartKey} {part : Part} {hookupType : String}
  {pol : PolSelection} {allowed : Nat} {entry : Entry} {row : Entry.Row}

/-- Whether a part of a key is walked from under a hookup type, or stands, perhaps by way of others,
for a part that is. -/
inductive StandsFor (r : Resolver) (hint : Option String) : PartKey → Part → String → Prop
  | itself {key : PartKey} {part : Part} {hookupType : String}
      (active : r.active.part? key = some part)
      (physical : r.catalogue.classify part hint = .ok (.physical hookupType)) :
      StandsFor r hint key part hookupType
  | redirect {key substitute : PartKey} {part walked : Part} {outer hookupType : String}
      {via : Direction} (active : r.active.part? key = some part)
      (redirects : r.catalogue.classify part hint = .ok (.redirect outer via))
      (attached : substitute ∈ r.active.wiring.neighbours part.key via)
      (onward : StandsFor r hint substitute walked hookupType) :
      StandsFor r hint key walked hookupType

lemma StandsFor.exists_active (h : r.StandsFor hint key part hookupType) :
    ∃ own, r.active.part? own = some part := by
  induction h with
  | itself active _ => exact ⟨_, active⟩
  | redirect _ _ _ _ ih => exact ih

/-- Whether a row lists what following a polarization gives, from a part that a key stands for. -/
structure Traces (r : Resolver) (hint : Option String) (key : PartKey) (row : Entry.Row) :
    Prop where
  walked : ∃ part t label port, r.StandsFor hint key part row.hookupType ∧
    r.catalogue.topology row.hookupType = .ok t ∧
    (r.terrain t).follow label ⟨part, port⟩ = .ok row.chain ∧
    row.columns = (r.terrain t).typesAlong part row.chain ∧
    (row.complete = true ↔ row.columns ∈ t.patterns)
  timing : row.timing = .ofChain row.chain

/-- The columns of a start are the types along its chain, whether they are a complete sequence or
not. -/
lemma columns_of_resolveStart {t : Topology} {start : Terrain.Start} {c : ResolvedChain}
    (h : r.resolveStart t part start = .ok c) :
    c.columns = (r.terrain t).typesAlong part c.chain ∧
      (c.complete = true ↔ c.columns ∈ t.patterns) := by
  obtain ⟨chain, -, h⟩ := Outcome.bind_eq_ok.1 h
  rw [Outcome.pure_eq_ok] at h
  subst h
  simp only
  cases hpattern : t.matchingPattern? ((r.terrain t).typesAlong part chain) with
  | some pattern =>
      obtain ⟨hmem, rfl⟩ := Topology.matchingPattern?_eq_some.1 hpattern
      simp [hmem]
  | none =>
      have hmem : (r.terrain t).typesAlong part chain ∉ t.patterns := by
        intro hmem
        have hsome := Topology.matchingPattern?_eq_some.2 ⟨hmem, rfl⟩
        rw [hpattern] at hsome
        cases hsome
      simp [hmem]

/-- **The rows of a part that is walked from** list its own starts. -/
lemma madeOf_of_resolvePhysical (hpart : r.active.part? key = some part)
    (hrole : r.catalogue.classify part hint = .ok (.physical hookupType))
    (h : r.resolvePhysical part hookupType pol = .ok entry) : entry.MadeOf (r.Traces hint key) := by
  obtain ⟨t, resolved, ht, hresolved, rfl⟩ := resolvePhysical_eq_ok.1 h
  refine Entry.madeOf_foldl_add fun c hc => ?_
  obtain ⟨start, -, hstart⟩ := Outcome.exists_of_mem_right hresolved hc
  obtain ⟨-, hfollow⟩ := resolveStart_eq_ok hstart
  obtain ⟨hcolumns, hcomplete⟩ := columns_of_resolveStart hstart
  exact ⟨⟨part, t, start.pol, start.port, .itself hpart hrole, ht, hfollow, hcolumns, hcomplete⟩,
    rfl⟩

/-- **Every entry is made of rows that list what was walked**, at whatever level and by way of
whichever substitutes it was found. -/
theorem resolveWithin_madeOf (h : r.resolveWithin pol hint allowed key = .ok (some entry)) :
    entry.MadeOf (r.Traces hint key) := by
  refine resolveWithin_induction (Q := fun key entry => entry.MadeOf (r.Traces hint key))
    ?_ ?_ ?_ ?_ ?_ h
  · intro key part hookupType entry hpart hrole hentry
    exact madeOf_of_resolvePhysical hpart hrole hentry
  · intro key part outer via substitute entry hpart hrole hattached hrows
    refine hrows.mono fun row htraces => ?_
    obtain ⟨⟨walked, t, label, port, hstands, hrest⟩, htiming⟩ := htraces
    exact ⟨⟨walked, t, label, port, .redirect hpart hrole hattached hstands, hrest⟩, htiming⟩
  · exact fun _ _ text hrows => hrows.named text
  · exact fun _ _ rename hrows => hrows.rekey rename
  · exact fun _ _ _ hrows hother => hrows.absorb hother

/-! ## The main statement -/

/-- Whether the tables of an entry belong together: they have the same keys, and under each key they
hold one chain from a part that the entry's part stands for, the types along it, whether these are
complete, and its timing. -/
structure Coherent (r : Resolver) (hint : Option String) (key : PartKey) (e : Entry) : Prop where
  complete_keys : e.complete.keys = e.chains.keys
  hookupTypes_keys : e.hookupTypes.keys = e.chains.keys
  columns_keys : e.columns.keys = e.chains.keys
  timings_keys : e.timings.keys = e.chains.keys
  under_key : ∀ k chain columns hookupType, e.chains.get? k = some chain →
    e.columns.get? k = some columns → e.hookupTypes.get? k = some hookupType →
    columns.length = chain.length + 1 ∧
    (∀ c ∈ chain.head?, ∃ part, r.active.part? c.up.key = some part ∧
      columns[0]? = some part.partType) ∧
    (∀ i c, chain[i]? = some c → ∃ part, r.active.part? c.down.key = some part ∧
      columns[i + 1]? = some part.partType) ∧
    (∃ part t label port, r.StandsFor hint key part hookupType ∧
      r.catalogue.topology hookupType = .ok t ∧
      (r.terrain t).follow label ⟨part, port⟩ = .ok chain ∧
      (chain = [] → columns = [part.partType]) ∧
      (e.complete.get? k = some true ↔ columns ∈ t.patterns)) ∧
    e.timings.get? k = some (.ofChain chain)

lemma Traces.sound (hr : r.active.Built) (h : r.Traces hint key row) : r.active.Sound row.chain := by
  obtain ⟨part, t, label, port, hstands, -, hfollow, -⟩ := h.walked
  obtain ⟨own, hpart⟩ := hstands.exists_active
  exact sound_of_follows hr ⟨own, part, t, label, port, hpart, hfollow⟩

/-- A row that lists what was walked has a column for each part along its chain. -/
lemma Traces.columns (hr : r.active.Built) (h : r.Traces hint key row) :
    row.columns.length = row.chain.length + 1 ∧
    (∀ c ∈ row.chain.head?, ∃ part, r.active.part? c.up.key = some part ∧
      row.columns[0]? = some part.partType) ∧
    ∀ i c, row.chain[i]? = some c → ∃ part, r.active.part? c.down.key = some part ∧
      row.columns[i + 1]? = some part.partType := by
  have hsound := h.sound hr
  obtain ⟨part, t, label, port, -, -, -, hcolumns, -⟩ := h.walked
  rw [hcolumns]
  refine ⟨Terrain.length_typesAlong, fun c hc => ?_, fun i c hc => ?_⟩
  · have hmem : c ∈ row.chain := List.mem_of_mem_head? hc
    obtain ⟨far, hfar⟩ := Option.isSome_iff_exists.1 (hsound.ends_active c hmem .up)
    exact ⟨far, hfar, Terrain.typesAlong_head (w := r.terrain t) hc hfar⟩
  · have hmem : c ∈ row.chain := List.mem_of_getElem? hc
    obtain ⟨far, hfar⟩ := Option.isSome_iff_exists.1 (hsound.ends_active c hmem .down)
    exact ⟨far, hfar, Terrain.typesAlong_getElem? (w := r.terrain t) hc hfar⟩

lemma coherent_of_madeOf (hr : r.active.Built) (h : entry.MadeOf (r.Traces hint key)) :
    r.Coherent hint key entry := by
  obtain ⟨_, _, rows, rfl, hrows⟩ := h
  refine ⟨?_, ?_, ?_, ?_, fun k chain columns hookupType hchain hcolumns htype => ?_⟩
  · simp only [Entry.ofRows, KeyMap.keys_mapValues]
  · simp only [Entry.ofRows, KeyMap.keys_mapValues]
  · simp only [Entry.ofRows, KeyMap.keys_mapValues]
  · simp only [Entry.ofRows, KeyMap.keys_mapValues]
  · -- all tables are read off the one row under the key
    simp only [Entry.ofRows, KeyMap.get?_mapValues] at hchain hcolumns htype ⊢
    obtain ⟨row, hrow, rfl⟩ := Option.map_eq_some_iff.1 hchain
    rw [hrow, Option.map_some, Option.some.injEq] at hcolumns htype
    subst hcolumns htype
    have htraces := hrows k row hrow
    obtain ⟨hlength, hhead, hrest⟩ := htraces.columns hr
    obtain ⟨part, t, label, port, hstands, ht, hfollow, hcolumns, hcomplete⟩ := htraces.walked
    refine ⟨hlength, hhead, hrest, ⟨part, t, label, port, hstands, ht, hfollow, ?_, ?_⟩, ?_⟩
    · intro hnil
      rw [hcolumns, hnil]
      rfl
    · rw [hrow, Option.map_some, Option.some.injEq]
      exact hcomplete
    · rw [hrow, Option.map_some, htraces.timing]

/-- **Resolved entries are coherent.**  In every entry that a part is resolved to, whether it is
walked from or stands for others, and in every narrowing of such an entry to a polarization, the
five tables have the same keys.  Under each key the columns are the types of the parts along the
chain, one more than it has connections; the chain is complete exactly if the columns are a complete
sequence of its hookup type; and the timing is that of the chain. -/
theorem resolvePart_coherent {instant : GpsTime} {records : Records} {s : ActiveSet}
    {catalogue : Catalogue} {strict : Bool} (hs : ActiveSet.ofRecords instant records = .ok s)
    (h : (⟨catalogue, s, strict⟩ : Resolver).resolvePart key pol hint = .ok (some entry)) :
    (⟨catalogue, s, strict⟩ : Resolver).Coherent hint key entry ∧
      ∀ label, (⟨catalogue, s, strict⟩ : Resolver).Coherent hint key (entry.retainPol label) := by
  have hbuilt : s.Built := ⟨instant, records, hs⟩
  have hrows := resolveWithin_madeOf h
  constructor
  · exact coherent_of_madeOf (r := ⟨catalogue, s, strict⟩) hbuilt hrows
  · intro label
    exact coherent_of_madeOf (r := ⟨catalogue, s, strict⟩) hbuilt (hrows.filterKeys _)

/-- The entry of a node, which stands for the two boards in it, narrowed to one polarization: its
tables have the same keys, and the chain of a port of the first board leads from board to node. -/
theorem resolvePart_coherent_rack : ∃ s entry chain columns,
    ActiveSet.ofRecords ⟨10⟩ .rack = .ok s ∧
    (⟨.hera, s, true⟩ : Resolver).resolvePart ⟨"N1:A"⟩ .all none = .ok (some entry) ∧
    (entry.retainPol "E").columns.keys = (entry.retainPol "E").chains.keys ∧
    (entry.retainPol "E").chains.get? "e<e2>@SNP1" = some chain ∧ chain.length = 1 ∧
    (entry.retainPol "E").columns.get? "e<e2>@SNP1" = some columns ∧
    columns.length = chain.length + 1 := by
  have hrack : (ActiveSet.ofRecords ⟨10⟩ .rack).toOption.any (fun s =>
      ((⟨.hera, s, true⟩ : Resolver).resolvePart ⟨"N1:A"⟩ .all none).toOption.any fun found =>
        found.any fun entry =>
          ((entry.retainPol "E").chains.get? "e<e2>@SNP1").any (·.length == 1) &&
          ((entry.retainPol "E").columns.get? "e<e2>@SNP1").isSome &&
          ((entry.retainPol "E").hookupTypes.get? "e<e2>@SNP1").isSome) = true := by
    decide +kernel
  obtain ⟨s, hs, hentry⟩ := Outcome.exists_of_any hrack
  obtain ⟨found, hrun, hfound⟩ := Outcome.exists_of_any hentry
  obtain ⟨entry, rfl, htables⟩ := (Option.any_eq_true _ _).1 hfound
  rw [Bool.and_eq_true, Bool.and_eq_true] at htables
  obtain ⟨chain, hchain, hlength⟩ := (Option.any_eq_true _ _).1 htables.1.1
  obtain ⟨columns, hcolumns⟩ := Option.isSome_iff_exists.1 htables.1.2
  obtain ⟨hookupType, htype⟩ := Option.isSome_iff_exists.1 htables.2
  have hcoherent := (resolvePart_coherent hs hrun).2 "E"
  exact ⟨s, entry, chain, columns, hs, hrun, hcoherent.columns_keys, hchain, beq_iff_eq.1 hlength,
    hcolumns, (hcoherent.under_key _ chain columns hookupType hchain hcolumns htype).1⟩

end Resolver

end Hookup
