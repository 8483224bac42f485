import Hookup.Service
import Hookup.Proofs.Names
import Hookup.Proofs.Starts
import Hookup.Proofs.StoreQueries
import Hookup.Proofs.StoreViews

/-!
# Names in any spelling

A name is brought into canonical form many times on its way: when its record enters the store, when
an active set is made of the records, when a topology is checked, and when it is looked up.  Since
canonical forms are settled, it does not matter how often that happens or where it happens first.

* `Catalogue.validate_validate` — a checked catalogue passes the check again, unchanged.
* `Store.perform_canonical`, `ActiveSet.load_canonical`, `Service.resolve_canonical` — a write, a
  load and a query have the same outcome when all names are brought into canonical form before.
* `Store.addPart_again`, `Store.addConnection_again` — the store knows a row again in any spelling.
* `ActiveSet.finds_of_load`, `ActiveSet.connectionAt?_of_load` — a set that is loaded finds it.
* **`canonical_forms_settle`** — so what was entered in any spelling is found under the key that it
  has as it was written.
-/

namespace Hookup

/-! ## Topologies -/

namespace Topology

variable {t : Topology}

@[simp] theorem canonical_canonical (t : Topology) : t.canonical.canonical = t.canonical := by
  simp only [canonical, List.map_map, Function.comp_def, canonicalPort_canonicalPort]

lemma partType?_canonical (name : String) : t.canonical.partType? name =
    (t.partType? name).map fun type =>
      { type with
        inputs := type.inputs.map canonicalPort
        outputs := type.outputs.map canonicalPort } := by
  rw [partType?, partType?, canonical, List.find?_map]
  rfl

/-- The ports of a type are the canonical forms of the ports that are given. -/
theorem mem_portsOf_canonical {partType port : String} : port ∈ t.canonical.portsOf partType ↔
    ∃ given ∈ t.portsOf partType, canonicalPort given = port := by
  simp only [mem_portsOf, partType?_canonical, Option.map_eq_some_iff]
  constructor
  · rintro ⟨_, ⟨type, htype, rfl⟩, hport⟩
    rw [← List.map_append] at hport
    obtain ⟨given, hgiven, rfl⟩ := List.mem_map.1 hport
    exact ⟨given, ⟨type, htype, hgiven⟩, rfl⟩
  · rintro ⟨given, ⟨type, htype, hgiven⟩, rfl⟩
    refine ⟨_, ⟨type, htype, rfl⟩, ?_⟩
    rw [← List.map_append]
    exact List.mem_map_of_mem hgiven

end Topology

namespace Catalogue

variable {given valid : Catalogue}

/-- The check passes for a catalogue with topologies whose order names no others, and brings the
ports into canonical form. -/
lemma validate_eq_ok : given.validate = .ok valid ↔ given.topologies.isEmpty = false ∧
    given.unknownName? given.checkingOrder = none ∧
    { given with topologies := given.topologies.mapValues Topology.canonical } = valid := by
  rw [validate, ensureConfigured]
  cases given.topologies.isEmpty with
  | true => simp [Outcome.bind_eq_ok]
  | false => cases given.unknownName? given.checkingOrder <;> simp

/-- **A checked catalogue passes the check again, unchanged.** -/
theorem validate_validate (h : given.validate = .ok valid) : valid.validate = .ok valid := by
  obtain ⟨hfilled, hknown, rfl⟩ := validate_eq_ok.1 h
  refine validate_eq_ok.2 ⟨?_, ?_, ?_⟩
  · rw [KeyMap.isEmpty_mapValues, hfilled]
  · simpa only [unknownName?, KeyMap.contains, KeyMap.get?_mapValues, Option.isSome_map]
      using hknown
  · have hsettled : Topology.canonical ∘ Topology.canonical = Topology.canonical :=
      funext Topology.canonical_canonical
    rw [KeyMap.mapValues_mapValues, hsettled]

/-- The topologies of a checked catalogue list the given ports, in canonical form. -/
lemma ports_of_validate (h : given.validate = .ok valid) {name : String} {t : Topology}
    (ht : given.topologies.get? name = some t) :
    ∃ t', valid.topologies.get? name = some t' ∧ ∀ partType port,
      canonicalPort port ∈ t'.portsOf partType ↔
        ∃ listed ∈ t.portsOf partType, canonicalPort listed = canonicalPort port := by
  obtain ⟨-, -, rfl⟩ := validate_eq_ok.1 h
  exact ⟨t.canonical, by rw [KeyMap.get?_mapValues, ht, Option.map_some],
    fun _ _ => Topology.mem_portsOf_canonical⟩

end Catalogue

/-! ## Entering records -/

/-- A write with all names in canonical form. -/
def StoreWrite.canonical : StoreWrite → StoreWrite
  | .addPart part => .addPart part.canonical
  | .stopPart key t => .stopPart key t
  | .addConnection c => .addConnection c.canonical
  | .stopConnection c t => .stopConnection c.canonical t
  | .addNote note => .addNote note.canonical
  | .addStatus status => .addStatus status.canonical
  | .addLocation location =>
      .addLocation { location with station := canonicalName location.station }
  | .recordVersion version => .recordVersion version

/-- The names in canonical form make the key. -/
lemma Part.key_eq_of_names {part other : Part} (h : other.canonical.names = part.canonical.names) :
    other.key = part.key := by
  obtain ⟨hhpn, hrev⟩ := Prod.mk.inj h
  show PartKey.mk (other.canonical.hpn ++ ":" ++ other.canonical.rev) =
    .mk (part.canonical.hpn ++ ":" ++ part.canonical.rev)
  rw [hhpn, hrev]

namespace Store

variable {s s' : Store} {part : Part} {c : Connection}

/-- **A write does the same in any spelling.** -/
theorem perform_canonical (s : Store) (w : StoreWrite) : s.perform w.canonical = s.perform w := by
  cases w with
  | addPart part =>
      show s.addPart part.canonical = s.addPart part
      simp only [addPart, Part.canonical_canonical]
  | stopPart key t => rfl
  | addConnection c =>
      show s.addConnection c.canonical = s.addConnection c
      simp only [addConnection, Connection.canonical_canonical]
  | stopConnection c t =>
      show s.stopConnection c.canonical t = s.stopConnection c t
      simp only [stopConnection, Connection.canonical_canonical]
  | addNote note =>
      show s.addNote note.canonical = s.addNote note
      simp only [addNote, PartNote.canonical, canonicalName_canonicalName]
  | addStatus status =>
      show s.addStatus status.canonical = s.addStatus status
      simp only [addStatus, AntennaStatus.canonical, canonicalName_canonicalName]
  | addLocation location =>
      show s.addLocation { location with station := canonicalName location.station } =
        s.addLocation location
      simp only [addLocation, canonicalName_canonicalName]
  | recordVersion version => rfl

/-- A part that was entered is a row, and cannot be entered again in another spelling. -/
lemma addPart_again (h : s.addPart part = .ok s') : part.canonical ∈ s'.parts ∧
    ∀ other : Part, other.canonical.names = part.canonical.names →
      s'.addPart other = .error (.duplicatePart part.key) := by
  obtain ⟨rfl, -⟩ := perform_eq_ok (w := .addPart part) h
  have hmem : part.canonical ∈ (s.after (.addPart part)).parts :=
    List.mem_append_right _ (List.mem_singleton_self _)
  refine ⟨hmem, fun other hnames => ?_⟩
  obtain ⟨e, herror, hrefuses⟩ := exists_refusal (.part hmem hnames.symm)
  cases hrefuses with
  | part hrow hkey =>
      rw [← Part.key_eq_of_names hnames]
      exact herror

/-- A connection that was entered is a row, which cannot be entered again in another spelling and is
found by a stop in any spelling. -/
lemma addConnection_again (h : s.addConnection c = .ok s') : c.canonical ∈ s'.connections ∧
    ∀ other : Connection, other.canonical.identity = c.canonical.identity →
      s'.addConnection other = .error .keyTaken ∧
      ∀ t, ∃ s'', s'.stopConnection other t = .ok s'' := by
  obtain ⟨rfl, -⟩ := perform_eq_ok (w := .addConnection c) h
  have hmem : c.canonical ∈ (s.after (.addConnection c)).connections :=
    List.mem_append_right _ (List.mem_singleton_self _)
  refine ⟨hmem, fun other hidentity => ⟨?_, fun t => ?_⟩⟩
  · obtain ⟨e, herror, hrefuses⟩ := exists_refusal (.connection hmem hidentity.symm)
    cases hrefuses with
    | connection hrow hkey => exact herror
  · refine ⟨_, perform_of_not_refuses (w := .stopConnection other t) fun e hrefuses => ?_⟩
    cases hrefuses with
    | noConnection hnone => exact hnone _ hmem hidentity.symm

end Store

/-! ## Loading -/

/-- A source that gives the active parts and connections in canonical form. -/
def RecordSource.canonical (source : RecordSource) : RecordSource :=
  { source with
    activeParts := fun t => List.map Part.canonical <$> source.activeParts t
    activeConnections := fun t => List.map Connection.canonical <$> source.activeConnections t }

lemma fromStore_map {α β : Type} (f : α → β) (read : Except StoreError α) :
    fromStore (f <$> read) = f <$> fromStore read := by
  cases read <;> rfl

/-- A change that is settled and keeps what is selected can as well be made twice. -/
lemma map_filter_map {α : Type} {f : α → α} {keep : α → Bool} (hsettled : ∀ a, f (f a) = f a)
    (hkeep : ∀ a, keep (f a) = keep a) (items : List α) :
    ((items.map f).filter keep).map f = (items.filter keep).map f := by
  simp only [List.filter_map, List.map_map, Function.comp_def, hsettled, hkeep]

namespace ActiveSet

variable {s : Store} {part : Part} {c : Connection} {instant : GpsTime} {active : ActiveSet}

/-- Records in canonical form make the same set. -/
lemma ofRecords_canonical (instant : GpsTime) (parts : List Part) (connections : List Connection)
    (notes : List PartNote) (statuses : List AntennaStatus) (locations : List Location) :
    ofRecords instant ⟨parts.map Part.canonical, connections.map Connection.canonical, notes,
        statuses, locations⟩ =
      ofRecords instant ⟨parts, connections, notes, statuses, locations⟩ := by
  have hparts : ((parts.map Part.canonical).filter (·.isActive instant)).map Part.canonical =
      (parts.filter (·.isActive instant)).map Part.canonical :=
    map_filter_map Part.canonical_canonical (Part.isActive_canonical · instant) _
  have hconnections : activeConnections instant (connections.map Connection.canonical) =
      activeConnections instant connections :=
    map_filter_map Connection.canonical_canonical (Connection.isActive_canonical · instant) _
  simp only [ofRecords, activeParts, hparts, hconnections]

/-- **A load gives the same set in any spelling.** -/
theorem load_canonical (source : RecordSource) (instant : GpsTime) :
    load source.canonical instant = load source instant := by
  simp only [load, RecordSource.canonical, fromStore_map, bind_map_left, ofRecords_canonical]

/-- Whether a set has a part, and finds it under its key and by its number as they are written. -/
def Finds (active : ActiveSet) (part : Part) : Prop :=
  active.part? part.key = some part.canonical ∧
    ∀ exact, part.canonical ∈ active.partsMatching [part.hpn] exact

lemma finds_of_part? (hs : active.Built)
    (hpart : active.part? part.key = some part.canonical) : active.Finds part := by
  refine ⟨hpart, fun exact => (mem_partsMatching hs).2 ⟨?_, ?_⟩⟩
  · rw [Part.key_canonical, hpart]
  · rw [Part.canonical, hpnMatches_canonicalName]
    cases exact <;> simp [hpnMatches, Text.beginsWith]

/-- An active part of a store is found as it is written, unless another one has its key. -/
lemma finds_of_load (hpart : part.canonical ∈ s.parts) (hactive : part.isActive instant = true)
    (hload : load s.source instant = .ok active) : active.Finds part ∨
      ∃ row ∈ s.parts, row.isActive instant = true ∧ row.key = part.key ∧
        row.canonical ≠ part.canonical ∧ active.part? part.key = some row.canonical := by
  rw [Store.load_source] at hload
  rw [← part.isActive_canonical] at hactive
  obtain ⟨row, hrow, -, hkey, hfound⟩ :=
    exists_part?_of_mem hload (Store.mem_activeParts.2 ⟨hpart, hactive⟩) hactive
  obtain ⟨hrow, hrowActive⟩ := Store.mem_activeParts.1 hrow
  rw [Part.key_canonical] at hkey hfound
  by_cases hsame : row.canonical = part.canonical
  · rw [hsame] at hfound
    exact .inl (finds_of_part? ⟨_, _, hload⟩ hfound)
  · exact .inr ⟨row, hrow, hrowActive, hkey, hsame, hfound⟩

/-- An active connection of a store is found from both of its ends, as they are written. -/
lemma connectionAt?_of_load (hc : c.canonical ∈ s.connections) (hactive : c.isActive instant = true)
    (hload : load s.source instant = .ok active) (side : Direction) :
    active.wiring.connectionAt? side (c.terminal side).key
      (canonicalPort (c.terminal side).port) = some c.canonical := by
  rw [Store.load_source] at hload
  rw [← c.isActive_canonical] at hactive
  have hhas : active.Has c.canonical := (has_iff hload).2 <| mem_activeConnections.2
    ⟨c.canonical, Store.mem_activeConnections.2 ⟨hc, hactive⟩, hactive, c.canonical_canonical⟩
  have hside := hhas side
  rwa [Connection.terminal_canonical, Terminal.key_canonical] at hside

end ActiveSet

/-! ## Queries -/

/-- A query with the names in canonical form. -/
def Request.canonical (request : Request) : Request :=
  { request with names := request.names.map canonicalName }

lemma map_canonicalName_map (names : List String) :
    (names.map canonicalName).map canonicalName = names.map canonicalName := by
  simp only [List.map_map, Function.comp_def, canonicalName_canonicalName]

/-- **A query has the same answer in any spelling.** -/
theorem Service.resolve_canonical (s : Service) (folder : Folder) (request : Request)
    (previous : Option QueryContext) :
    s.resolve folder request.canonical previous = s.resolve folder request previous := by
  have hcached : s.cachedAnswer? folder request.canonical = s.cachedAnswer? folder request := by
    rw [cachedAnswer?, cachedAnswer?]
    refine bind_congr fun cache => ?_
    have hcovers : cache.covers request.canonical.names = cache.covers request.names := by
      simp only [HookupCache.covers, Request.canonical, List.all_map, Function.comp_def,
        canonicalName_canonicalName]
    have hselect : cache.select request.canonical.names = cache.select request.names := by
      funext exact pol
      simp only [HookupCache.select, Request.canonical, map_canonicalName_map]
    rw [hcovers, hselect]
    rfl
  have hfresh : s.resolveFresh request.canonical previous = s.resolveFresh request previous := by
    simp only [resolveFresh, Request.canonical, Resolver.resolveNames, ActiveSet.partsMatching,
      map_canonicalName_map]
  rw [resolve, hcached, hfresh]
  rfl

/-! ## The whole way -/

/-- **Canonical forms are settled.**  The canonical form of a name, a port, a part or a connection
is its own canonical form, and keys are made alike of names as written and of canonical names; a
checked catalogue passes the check unchanged.  Therefore the store knows a record again in any
spelling; a set that is loaded finds it under the key that its names make as they are written,
unless another active part has this key; and a checked topology lists the ports that were given for
it, in any spelling. -/
theorem canonical_forms_settle :
    (∀ s : String, canonicalName (canonicalName s) = canonicalName s ∧
      canonicalPort (canonicalPort s) = canonicalPort s) ∧
    (∀ hpn rev, PartKey.ofNames (canonicalName hpn) (canonicalName rev) = .ofNames hpn rev) ∧
    (∀ part : Part, part.canonical.canonical = part.canonical ∧ part.canonical.key = part.key) ∧
    (∀ c : Connection, c.canonical.canonical = c.canonical ∧
      ∀ side, (c.canonical.terminal side).key = (c.terminal side).key) ∧
    (∀ given valid : Catalogue, given.validate = .ok valid → valid.validate = .ok valid ∧
      ∀ name t, given.topologies.get? name = some t →
        ∃ t', valid.topologies.get? name = some t' ∧ ∀ partType port,
          canonicalPort port ∈ t'.portsOf partType ↔
            ∃ listed ∈ t.portsOf partType, canonicalPort listed = canonicalPort port) ∧
    (∀ (s s' : Store) (part : Part), s.addPart part = .ok s' → part.canonical ∈ s'.parts ∧
      ∀ other : Part, other.canonical.names = part.canonical.names →
        s'.addPart other = .error (.duplicatePart part.key)) ∧
    (∀ (s s' : Store) (c : Connection), s.addConnection c = .ok s' →
      c.canonical ∈ s'.connections ∧ ∀ other : Connection,
        other.canonical.identity = c.canonical.identity →
          s'.addConnection other = .error .keyTaken ∧
          ∀ t, ∃ s'', s'.stopConnection other t = .ok s'') ∧
    ∀ (s : Store) (instant : GpsTime) (active : ActiveSet),
      ActiveSet.load s.source instant = .ok active →
      (∀ part : Part, part.canonical ∈ s.parts → part.isActive instant = true →
        active.Finds part ∨ ∃ row ∈ s.parts, row.isActive instant = true ∧ row.key = part.key ∧
          row.canonical ≠ part.canonical ∧ active.part? part.key = some row.canonical) ∧
      ∀ c : Connection, c.canonical ∈ s.connections → c.isActive instant = true → ∀ side,
        active.wiring.connectionAt? side (c.terminal side).key
          (canonicalPort (c.terminal side).port) = some c.canonical := by
  refine ⟨fun s => ⟨canonicalName_canonicalName s, canonicalPort_canonicalPort s⟩,
    PartKey.ofNames_canonicalName, fun part => ⟨part.canonical_canonical, part.key_canonical⟩,
    fun c => ⟨c.canonical_canonical, fun side => ?_⟩,
    fun _ _ h => ⟨Catalogue.validate_validate h, fun _ _ => Catalogue.ports_of_validate h⟩,
    fun _ _ _ => Store.addPart_again, fun _ _ _ => Store.addConnection_again, ?_⟩
  · rw [Connection.terminal_canonical, Terminal.key_canonical]
  · intro s instant active hload
    exact ⟨fun part hpart hactive => ActiveSet.finds_of_load hpart hactive hload,
      fun c hc hactive => ActiveSet.connectionAt?_of_load hc hactive hload⟩

/-- A station whose names are written with blanks and small letters, some of which have several
capitals. -/
def looseStation : Part := ⟨" straße ", "ŉ1", "station", none, ⟨⟨0⟩, none⟩⟩

/-- A connection of the station by a port that ends in a sigma. -/
def looseConnection : Connection :=
  ⟨⟨"STRASSE", "ŉ1 ", " ΝΟΣ."⟩, ⟨"a1", "h", "Ground"⟩, ⟨⟨0⟩, none⟩⟩

/-- A topology with the port of the connection, written in another way. -/
def looseTopology : Topology where
  polarizations := [" E "]
  partTypes := [⟨"station", [], ["νος. "]⟩]
  redirects := .empty
  singlePol := .empty
  completePaths := []

/-- A catalogue of this topology. -/
def looseCatalogue : Catalogue := ⟨["loose"], .ofList [("loose", looseTopology)]⟩

/-- Both records are entered as they are written and found as they are written, and the connection
is by a port of the checked topology. -/
theorem canonical_forms_settle_loose : ∃ store store' active valid,
    Store.empty.addPart looseStation = .ok store ∧
    store.addConnection looseConnection = .ok store' ∧
    ActiveSet.load store'.source ⟨10⟩ = .ok active ∧ active.Finds looseStation ∧
    active.wiring.connectionAt? .up looseStation.key
      (canonicalPort looseConnection.up.port) = some looseConnection.canonical ∧
    looseCatalogue.validate = .ok valid ∧ valid.validate = .ok valid ∧
    ∃ t, valid.topologies.get? "loose" = some t ∧
      canonicalPort looseConnection.up.port ∈ t.portsOf "station" := by
  obtain ⟨-, -, -, -, hcatalogue, -, hconnection, hload⟩ := canonical_forms_settle
  have hentered : (Store.empty.addPart looseStation).toOption.any (fun store =>
      (store.addConnection looseConnection).toOption.any fun store' =>
        store'.parts == [looseStation.canonical] &&
          (ActiveSet.load store'.source ⟨10⟩).isOk) = true := by
    decide +kernel
  obtain ⟨store, hstore, hnext⟩ := Outcome.exists_of_any hentered
  obtain ⟨store', hstore', hloads⟩ := Outcome.exists_of_any hnext
  rw [Bool.and_eq_true, beq_iff_eq] at hloads
  obtain ⟨hrows, hloads⟩ := hloads
  obtain ⟨active, hactive⟩ := Outcome.exists_of_isOk hloads
  obtain ⟨hparts, hconnections⟩ := hload store' ⟨10⟩ active hactive
  have hvalidates : looseCatalogue.validate.isOk = true := by decide +kernel
  obtain ⟨valid, hvalid⟩ := Outcome.exists_of_isOk hvalidates
  obtain ⟨hagain, hports⟩ := hcatalogue looseCatalogue valid hvalid
  refine ⟨store, store', active, valid, hstore, hstore', hactive, ?_, ?_, hvalid, hagain, ?_⟩
  · have hrow : looseStation.canonical ∈ store'.parts := hrows ▸ List.mem_singleton_self _
    rcases hparts looseStation hrow (by decide) with hfinds | ⟨row, hother, -, -, hne, -⟩
    · exact hfinds
    · rw [hrows, List.mem_singleton] at hother
      rw [hother, Part.canonical_canonical] at hne
      exact absurd rfl hne
  · have hkey : looseStation.key = looseConnection.up.key := by decide +kernel
    rw [hkey]
    exact hconnections looseConnection (hconnection store store' _ hstore').1 (by decide) .up
  · obtain ⟨t, ht, hlists⟩ := hports "loose" looseTopology (by decide)
    exact ⟨t, ht, (hlists "station" _).2 ⟨"νος. ", by decide, by decide +kernel⟩⟩

end Hookup
