import Hookup.Proofs.Chains

/-!
# Which hookup keys a part has

The hookup keys of a part that is walked from are those of its starts.  This module says which they
are in terms of the ports of its type and of the connections at them, without the lists that are
made on the way.

* `Topology.portsOfLabel` — the ports that carry a label and no other, each once.
* `Terrain.LabelKey` — the four ways in which a label comes by a hookup key on a part.
* `exists_mem_startsFor_iff` — the starts of a label have these keys and no others.
* **`resolvePart_keys`** — so has the entry of the part, and since no two starts share a key, it has
  under each key the chain of the one start with this key.
-/

namespace Hookup

/-! ## The ports of a label -/

namespace Topology

variable {t : Topology} {partType label port : String}

/-- The ports of a part type that carry a label and no other, input ports first. -/
def portsOfLabel (t : Topology) (partType label : String) : List String :=
  (t.portsOf partType).filter fun port => t.portPol? port == some label

lemma nodup_portsOfLabel : (t.portsOfLabel partType label).Nodup := nodup_portsOf.filter _

lemma mem_portsOfLabel : port ∈ t.portsOfLabel partType label ↔
    (∃ type, t.partType? partType = some type ∧ port ∈ type.inputs ++ type.outputs) ∧
      t.portPol? port = some label := by
  rw [portsOfLabel, List.mem_filter, mem_portsOf, beq_iff_eq]

/-- Whether no port of a part type carries a single label. -/
def IsUnpolarized (t : Topology) (partType : String) : Prop :=
  ∀ port ∈ t.portsOf partType, t.portPol? port = none

lemma isEmpty_polarizedPorts :
    (t.polarizedPorts partType).isEmpty = true ↔ t.IsUnpolarized partType := by
  rw [polarizedPorts, List.isEmpty_iff, List.filterMap_eq_nil_iff]
  simp only [Option.map_eq_none_iff, IsUnpolarized]

/-- The ports that are listed with a label are the ports of the label. -/
lemma map_filter_polarizedPorts :
    ((t.polarizedPorts partType).filter (·.1 == label)).map (·.2) =
      t.portsOfLabel partType label := by
  rw [polarizedPorts, portsOfLabel]
  induction t.portsOf partType with
  | nil => rfl
  | cons port rest ih =>
      rw [List.filterMap_cons, List.filter_cons]
      cases hpol : t.portPol? port with
      | none => simpa using ih
      | some own =>
          by_cases hown : own = label
          · simpa [hown] using ih
          · simpa [hown] using ih

end Topology

/-! ## The keys of a label -/

/-- Whether a part has a connection at a port, on either side. -/
def ActiveSet.WiredAt (s : ActiveSet) (key : PartKey) (port : String) : Prop :=
  ∃ side c, s.Has c ∧ c.IsAt side key port

namespace Terrain

variable {w : Terrain} {part : Part} {label port key : String} {pols : List String}

/-- Whether a label comes by a hookup key on a part. -/
inductive LabelKey (w : Terrain) (part : Part) (label : String) : String → Prop
  /-- The type of the part has no ports of single labels. -/
  | plain (unpolarized : w.topology.IsUnpolarized part.partType) : LabelKey w part label label
  /-- The label has a single port. -/
  | single {port : String} (only : w.topology.portsOfLabel part.partType label = [port]) :
    LabelKey w part label label
  /-- It has several, and this one is wired. -/
  | wired {port : String} (several : 1 < (w.topology.portsOfLabel part.partType label).length)
    (own : port ∈ w.topology.portsOfLabel part.partType label)
    (wired : w.active.WiredAt part.key port) :
    LabelKey w part label (label ++ "<" ++ port ++ ">")
  /-- It has several, none of which is wired. -/
  | unwired {port : String} (several : 1 < (w.topology.portsOfLabel part.partType label).length)
    (own : port ∈ w.topology.portsOfLabel part.partType label)
    (unused : ∀ other ∈ w.topology.portsOfLabel part.partType label,
      ¬ w.active.WiredAt part.key other) :
    LabelKey w part label (label ++ "<" ++ port ++ ">")

lemma isWired_iff (hw : w.active.Built) :
    w.isWired part port = true ↔ w.active.WiredAt part.key port := by
  simp only [isWired, List.any_eq_true, Option.isSome_iff_exists, hw.connectionAt?_iff,
    ActiveSet.WiredAt]
  constructor
  · rintro ⟨side, -, hwired⟩
    exact ⟨side, hwired⟩
  · rintro ⟨side, hwired⟩
    exact ⟨side, by cases side <;> simp, hwired⟩

/-- The ports from which a label is looked for. -/
lemma declaredPorts_eq : declaredPorts w.topology part.partType label =
    if (w.topology.polarizedPorts part.partType).isEmpty then
      [(w.topology.firstPort? part.partType).getD ""]
    else w.topology.portsOfLabel part.partType label := by
  rw [declaredPorts, Topology.map_filter_polarizedPorts]

lemma declaredPorts_of_unpolarized (h : w.topology.IsUnpolarized part.partType) :
    declaredPorts w.topology part.partType label =
      [(w.topology.firstPort? part.partType).getD ""] := by
  rw [declaredPorts_eq, if_pos (Topology.isEmpty_polarizedPorts.2 h)]

lemma declaredPorts_of_mem (h : port ∈ w.topology.portsOfLabel part.partType label) :
    declaredPorts w.topology part.partType label =
      w.topology.portsOfLabel part.partType label := by
  rw [declaredPorts_eq, if_neg]
  intro hempty
  obtain ⟨hport, hlabel⟩ := List.mem_filter.1 h
  rw [Topology.isEmpty_polarizedPorts.1 hempty port hport] at hlabel
  cases hlabel

/-- What the starts of a label are: its ports in use, or all of them if none is. -/
lemma mem_startsFor (hw : w.active.Built) {start : Start} : start ∈ w.startsFor part label ↔
    start.pol = label ∧ start.port ∈ declaredPorts w.topology part.partType label ∧
      (w.active.WiredAt part.key start.port ∨
        ∀ other ∈ declaredPorts w.topology part.partType label,
          ¬ w.active.WiredAt part.key other) ∧
      start.key = hookupKey label start.port
        ((declaredPorts w.topology part.partType label).length == 1) := by
  have hnone : ((declaredPorts w.topology part.partType label).filter (w.isWired part)).isEmpty =
      true ↔ ∀ other ∈ declaredPorts w.topology part.partType label,
        ¬ w.active.WiredAt part.key other := by
    simp only [List.isEmpty_iff, List.filter_eq_nil_iff, isWired_iff hw]
  rw [startsFor]
  constructor
  · intro h
    obtain ⟨port, hport, rfl⟩ := List.mem_map.1 h
    split_ifs at hport with hempty
    · exact ⟨rfl, hport, .inr (hnone.1 hempty), rfl⟩
    · obtain ⟨hport, hwired⟩ := List.mem_filter.1 hport
      exact ⟨rfl, hport, .inl ((isWired_iff hw).1 hwired), rfl⟩
  · rintro ⟨rfl, hport, hused, hkey⟩
    refine List.mem_map.2 ⟨start.port, ?_, by rw [← hkey]⟩
    split_ifs with hempty
    · exact hport
    · refine List.mem_filter.2 ⟨hport, (isWired_iff hw).2 (hused.resolve_right fun hunused => ?_)⟩
      exact hempty (hnone.2 hunused)

/-- A start that is the only one of its label is made whether its port is wired or not. -/
lemma mem_startsFor_of_single (hw : w.active.Built)
    (h : declaredPorts w.topology part.partType label = [port]) :
    ⟨label, label, port⟩ ∈ w.startsFor part label := by
  rw [mem_startsFor hw, h]
  refine ⟨rfl, List.mem_singleton_self port, ?_, rfl⟩
  by_cases hwired : w.active.WiredAt part.key port
  · exact .inl hwired
  · exact .inr fun other hother => List.mem_singleton.1 hother ▸ hwired

/-- **The starts of a label have the keys that it comes by.** -/
theorem exists_mem_startsFor_iff (hw : w.active.Built) :
    (∃ start ∈ w.startsFor part label, start.key = key) ↔ w.LabelKey part label key := by
  constructor
  · rintro ⟨start, hstart, rfl⟩
    obtain ⟨-, hport, hused, hkey⟩ := (mem_startsFor hw).1 hstart
    by_cases hunpolarized : w.topology.IsUnpolarized part.partType
    · rw [declaredPorts_of_unpolarized hunpolarized] at hkey
      rw [hkey]
      exact .plain hunpolarized
    · rw [← Topology.isEmpty_polarizedPorts] at hunpolarized
      rw [declaredPorts_eq, if_neg hunpolarized] at hport hused hkey
      by_cases hsingle : (w.topology.portsOfLabel part.partType label).length = 1
      · obtain ⟨only, honly⟩ := List.length_eq_one_iff.1 hsingle
        rw [honly] at hkey
        rw [hkey]
        exact .single honly
      · have hseveral : 1 < (w.topology.portsOfLabel part.partType label).length := by
          have := List.length_pos_of_mem hport
          omega
        rw [beq_false_of_ne hsingle] at hkey
        rw [hkey]
        rcases hused with hwired | hunused
        · exact .wired hseveral hport hwired
        · exact .unwired hseveral hport hunused
  · intro h
    cases h with
    | plain unpolarized =>
        exact ⟨_, mem_startsFor_of_single hw (declaredPorts_of_unpolarized unpolarized), rfl⟩
    | @single port only =>
        have hport : port ∈ w.topology.portsOfLabel part.partType label :=
          only ▸ List.mem_singleton_self port
        exact ⟨_, mem_startsFor_of_single hw ((declaredPorts_of_mem hport).trans only), rfl⟩
    | @wired port several own wired =>
        refine ⟨⟨_, label, port⟩, (mem_startsFor hw).2 ?_, rfl⟩
        rw [declaredPorts_of_mem own, beq_false_of_ne (Nat.ne_of_gt several)]
        exact ⟨rfl, own, .inl wired, rfl⟩
    | @unwired port several own unused =>
        refine ⟨⟨_, label, port⟩, (mem_startsFor hw).2 ?_, rfl⟩
        rw [declaredPorts_of_mem own, beq_false_of_ne (Nat.ne_of_gt several)]
        exact ⟨rfl, own, .inr unused, rfl⟩

end Terrain

namespace Resolver

variable {r : Resolver} {t : Topology} {part : Part} {hookupType : String} {pol : PolSelection}
  {entry : Entry}

/-- The keys of the entry of a part that is walked from are those of its starts. -/
lemma mem_keys_of_resolvePhysical (ht : r.catalogue.topology hookupType = .ok t)
    (h : r.resolvePhysical part hookupType pol = .ok entry) {k : String} : k ∈ entry.keys ↔
      ∃ start ∈ (r.terrain t).starts part (t.polarizations.filter pol.selects), start.key = k := by
  obtain ⟨t', resolved, ht', hresolved, rfl⟩ := resolvePhysical_eq_ok.1 h
  rw [ht, Except.ok.injEq] at ht'
  subst ht'
  rw [Entry.keys, Entry.foldl_add]
  show k ∈ (KeyMap.ofList _).keys ↔ _
  rw [KeyMap.mem_keys_ofList]
  simp only [List.mem_map, exists_exists_and_eq_and]
  constructor
  · rintro ⟨c, hc, rfl⟩
    obtain ⟨start, hstart, hrun⟩ := Outcome.exists_of_mem_right hresolved hc
    exact ⟨start, hstart, (resolveStart_eq_ok hrun).1.symm⟩
  · rintro ⟨start, hstart, rfl⟩
    obtain ⟨c, hc, hrun⟩ := Outcome.exists_of_mem_left hresolved hstart
    exact ⟨c, hc, (resolveStart_eq_ok hrun).1⟩

/-! ## The main statement -/

/-- **Hookup keys are exact and never collide.**  Take a part that is walked from, and let the ports
of a label be the distinct ports of its type, on either side, that carry this label and no other.
Two starts of the part with one key have the same label and the same port, whatever labels and ports
are called.  If the part resolves, the keys of its entry are exactly those that its selected labels
come by: the label itself where no port of the type carries a single label, or where the label has
one port; else the label with one of its ports, which is wired on some side of the part or one of
several that are not.  Under the key of each start stands what comes of following its label from its
port. -/
theorem resolvePart_keys {instant : GpsTime} {records : Records} {s : ActiveSet}
    {catalogue : Catalogue} {strict : Bool} {key : PartKey} {hint : Option String}
    (hs : ActiveSet.ofRecords instant records = .ok s) (hpart : s.part? key = some part)
    (hrole : catalogue.classify part hint = .ok (.physical hookupType))
    (ht : catalogue.topology hookupType = .ok t) :
    (∀ label, (t.portsOfLabel part.partType label).Nodup ∧
      ∀ port, port ∈ t.portsOfLabel part.partType label ↔
        (∃ type, t.partType? part.partType = some type ∧ port ∈ type.inputs ++ type.outputs) ∧
          t.portPol? port = some label) ∧
    (∀ pols, ∀ start ∈ (⟨s, t, strict⟩ : Terrain).starts part pols,
      ∀ start' ∈ (⟨s, t, strict⟩ : Terrain).starts part pols, start.key = start'.key →
        start.pol = start'.pol ∧ start.port = start'.port) ∧
    ∀ entry, (⟨catalogue, s, strict⟩ : Resolver).resolvePart key pol hint = .ok (some entry) →
      (∀ k, k ∈ entry.keys ↔ ∃ label ∈ t.polarizations, pol.selects label = true ∧
        (⟨s, t, strict⟩ : Terrain).LabelKey part label k) ∧
      ∀ start ∈ (⟨s, t, strict⟩ : Terrain).starts part (t.polarizations.filter pol.selects),
        ∃ chain, (⟨s, t, strict⟩ : Terrain).follow start.pol ⟨part, start.port⟩ = .ok chain ∧
          entry.chains.get? start.key = some chain := by
  have hbuilt : s.Built := ⟨instant, records, hs⟩
  refine ⟨fun label => ⟨Topology.nodup_portsOfLabel, fun port => Topology.mem_portsOfLabel⟩,
    fun pols start hstart start' hstart' hkey => ?_, fun entry h => ?_⟩
  · rw [Terrain.start_eq_of_key hstart hstart' hkey]
    exact ⟨rfl, rfl⟩
  · have hphysical := resolvePhysical_of_resolveWithin hpart hrole h
    refine ⟨fun k => ?_, fun start hstart => ?_⟩
    · rw [mem_keys_of_resolvePhysical ht hphysical]
      simp only [Terrain.starts, List.mem_flatMap, List.mem_filter,
        ← Terrain.exists_mem_startsFor_iff (w := ⟨s, t, strict⟩) hbuilt]
      constructor
      · rintro ⟨start, ⟨label, ⟨hlabel, hselected⟩, hstart⟩, rfl⟩
        exact ⟨label, hlabel, hselected, start, hstart, rfl⟩
      · rintro ⟨label, hlabel, hselected, start, hstart, rfl⟩
        exact ⟨start, ⟨label, ⟨hlabel, hselected⟩, hstart⟩, rfl⟩
    · obtain ⟨c, hrun, hget⟩ := exists_resolved_of_resolvePhysical ht hphysical hstart
      exact ⟨c.chain, (resolveStart_eq_ok hrun).2, hget⟩

end Resolver

/-- A source wired to one of the ports of a hub. -/
def Records.hub : Records where
  parts := [⟨"SRC", "A", "source", none, default⟩, ⟨"HUB", "A", "hub", none, default⟩]
  connections := [⟨⟨"SRC", "A", "out"⟩, ⟨"HUB", "A", "e2"⟩, default⟩]
  notes := []
  statuses := []
  locations := []

/-- A kind of signal path in which two labels share an initial, and one occurs twice. -/
def Topology.hub : Topology where
  polarizations := ["e", "e<", "n", "n"]
  partTypes := [⟨"source", [], ["out"]⟩, ⟨"hub", ["e1", "e2", "n1"], ["out", "e3"]⟩]
  redirects := .empty
  singlePol := .empty
  completePaths := []

namespace Resolver

/-- The second label has no port, as all ports with its initial belong to the first one; of the
ports of the first, one is wired. -/
theorem resolvePart_keys_hub : ∃ s entry, ActiveSet.ofRecords ⟨10⟩ .hub = .ok s ∧
    (⟨⟨[], .ofList [("hubs", .hub)]⟩, s, true⟩ : Resolver).resolvePart ⟨"HUB:A"⟩ .all none =
      .ok (some entry) ∧
    entry.keys = ["e<e2>", "n"] ∧
    (∀ k, k ∈ entry.keys ↔ ∃ label ∈ Topology.hub.polarizations,
      PolSelection.all.selects label = true ∧
        (⟨s, .hub, true⟩ : Terrain).LabelKey ⟨"HUB", "A", "hub", none, default⟩ label k) := by
  let catalogue : Catalogue := ⟨[], .ofList [("hubs", .hub)]⟩
  let hub : Part := ⟨"HUB", "A", "hub", none, default⟩
  have hset : (ActiveSet.ofRecords ⟨10⟩ .hub).toOption.any (fun s =>
      decide (s.part? ⟨"HUB:A"⟩ = some hub) &&
      ((⟨catalogue, s, true⟩ : Resolver).resolvePart ⟨"HUB:A"⟩ .all none).toOption.any fun found =>
        found.any fun entry => entry.keys == ["e<e2>", "n"]) = true := by
    decide +kernel
  obtain ⟨s, hs, htest⟩ := Outcome.exists_of_any hset
  rw [Bool.and_eq_true, decide_eq_true_eq] at htest
  obtain ⟨hpart, hrun⟩ := htest
  obtain ⟨found, hrun, hfound⟩ := Outcome.exists_of_any hrun
  obtain ⟨entry, rfl, hkeys⟩ := (Option.any_eq_true _ _).1 hfound
  have hrole : catalogue.classify hub none = .ok (.physical "hubs") := by decide +kernel
  have ht : catalogue.topology "hubs" = .ok .hub := by decide +kernel
  obtain ⟨-, -, hentry⟩ := resolvePart_keys hs hpart hrole ht
  exact ⟨s, entry, hs, hrun, beq_iff_eq.1 hkeys, (hentry entry hrun).1⟩

end Resolver

end Hookup
