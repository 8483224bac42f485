import Hookup.Proofs.Names
import Hookup.Proofs.Resolution
import Hookup.Proofs.Cycles

/-!
# Batches are pointwise

A batch resolves every part that a list of names matches, one after the other.  What it makes of
one part does not depend on the others, so that a batch is known from the parts that it matches
and from what each of them resolves to.

* `Matched` — the parts that a batch is about, said without the order in which they are found.
* `EndsBatch` — a part that fails with an error that is not of this part alone.
* `resolveNames_eq_error_iff` — a batch fails with the error of the first part that ends it.
* `resolveNames_of_matched` — a batch about fewer parts succeeds too, with fewer entries.
* **`resolveNames_pointwise`** — with what follows for lists of names: joined lists give joined
  dossiers, only the canonical forms of the names count, and exact names give a part of what the
  same names give as beginnings.
-/

namespace Hookup

/-! ## Matched parts -/

/-- Whether a part number begins with a name of a list, or is one if `exact`, both in any
spelling. -/
def NamedBy (names : List String) (exact : Bool) (hpn : String) : Prop :=
  ∃ name ∈ names, canonicalName hpn = canonicalName name ∨
    exact = false ∧ (canonicalName name).toList <+: (canonicalName hpn).toList

lemma hpnMatches_iff {names : List String} {exact : Bool} {hpn : String} :
    hpnMatches (names.map canonicalName) exact hpn = true ↔ NamedBy names exact hpn := by
  rw [hpnMatches, List.any_map, List.any_eq_true, NamedBy]
  refine exists_congr fun name => and_congr_right fun _ => ?_
  cases exact with
  | true => simp
  | false =>
      simp only [Function.comp_apply, Bool.false_eq_true, if_false, Text.beginsWith_iff, true_and]
      refine ⟨.inr, fun h => h.elim (fun heq => ?_) id⟩
      rw [heq]

namespace NamedBy

variable {names others : List String} {exact : Bool} {hpn : String}

lemma append : NamedBy (names ++ others) exact hpn ↔
    NamedBy names exact hpn ∨ NamedBy others exact hpn := by
  simp only [NamedBy, List.mem_append, or_and_right, exists_or]

/-- Only the canonical forms of the names count. -/
lemma mono (hsub : ∀ name ∈ names, ∃ other ∈ others, canonicalName other = canonicalName name)
    (h : NamedBy names exact hpn) : NamedBy others exact hpn := by
  obtain ⟨name, hname, hmatch⟩ := h
  obtain ⟨other, hother, heq⟩ := hsub name hname
  exact ⟨other, hother, by rwa [heq]⟩

/-- A name is a beginning of itself. -/
lemma of_exact (h : NamedBy names true hpn) : NamedBy names exact hpn := by
  obtain ⟨name, hname, hmatch⟩ := h
  exact ⟨name, hname, .inl (hmatch.resolve_right nofun)⟩

end NamedBy

namespace ActiveSet

variable {s : ActiveSet} {names others : List String} {exact : Bool} {part : Part}

/-- Whether a part is active and matches the names. -/
structure Matched (s : ActiveSet) (names : List String) (exact : Bool) (part : Part) : Prop where
  active : s.part? part.key = some part
  named : NamedBy names exact part.hpn

lemma mem_partsMatching_iff (hs : s.Built) :
    part ∈ s.partsMatching names exact ↔ s.Matched names exact part := by
  rw [mem_partsMatching hs, hpnMatches_iff]
  exact ⟨fun h => ⟨h.1, h.2⟩, fun h => ⟨h.active, h.named⟩⟩

lemma matched_append : s.Matched (names ++ others) exact part ↔
    s.Matched names exact part ∨ s.Matched others exact part := by
  constructor
  · rintro ⟨hactive, hnamed⟩
    exact (NamedBy.append.1 hnamed).imp (⟨hactive, ·⟩) (⟨hactive, ·⟩)
  · rintro (⟨hactive, hnamed⟩ | ⟨hactive, hnamed⟩)
    · exact ⟨hactive, NamedBy.append.2 (.inl hnamed)⟩
    · exact ⟨hactive, NamedBy.append.2 (.inr hnamed)⟩

/-- The parts that are matched stand in the order of their keys. -/
lemma pairwise_partsMatching (hs : s.Built) :
    (s.partsMatching names exact).Pairwise fun p q => compare p.key q.key = .lt := by
  refine List.Pairwise.filter _ ?_
  rw [KeyMap.values, List.pairwise_map]
  refine s.parts.ascending.imp_of_mem fun {a b} ha hb hlt => ?_
  rwa [hs.key_of_part? (KeyMap.mem_toList_iff.1 ha), hs.key_of_part? (KeyMap.mem_toList_iff.1 hb)]

/-- The parts that come before a matched part have the lesser keys. -/
lemma mem_before_iff (hs : s.Built) {before after : List Part}
    (hsplit : s.partsMatching names exact = before ++ part :: after) {other : Part} :
    other ∈ before ↔ s.Matched names exact other ∧ compare other.key part.key = .lt := by
  have hordered : (before ++ part :: after).Pairwise fun p q => compare p.key q.key = .lt :=
    hsplit ▸ pairwise_partsMatching hs
  rw [← mem_partsMatching_iff hs, hsplit, List.mem_append, List.mem_cons]
  obtain ⟨-, hrest, hbefore⟩ := List.pairwise_append.1 hordered
  constructor
  · exact fun h => ⟨.inl h, hbefore other h part List.mem_cons_self⟩
  · rintro ⟨h | rfl | h, hlt⟩
    · exact h
    · rw [Std.LawfulEqOrd.compare_eq_iff_eq.2 rfl] at hlt
      cases hlt
    · have hgt := (List.pairwise_cons.1 hrest).1 other h
      rw [Std.OrientedCmp.gt_of_lt hgt] at hlt
      cases hlt

lemma partsMatching_eq_of_canonical
    (h : ∀ name, name ∈ names.map canonicalName ↔ name ∈ others.map canonicalName) :
    s.partsMatching names exact = s.partsMatching others exact := by
  have hsub : ∀ {a b : List String},
      (∀ name, name ∈ a.map canonicalName ↔ name ∈ b.map canonicalName) →
      ∀ name ∈ a, ∃ other ∈ b, canonicalName other = canonicalName name :=
    fun hab name hname => List.mem_map.1 ((hab _).1 (List.mem_map_of_mem hname))
  refine List.filter_congr fun part _ => Bool.eq_iff_iff.2 ?_
  rw [hpnMatches_iff, hpnMatches_iff]
  exact ⟨NamedBy.mono (hsub h), NamedBy.mono (hsub fun name => (h name).symm)⟩

end ActiveSet

namespace Resolver

variable {r : Resolver} {pol : PolSelection} {hint : Option String} {key : PartKey} {part : Part}
  {e : Error} {entry entry' : Entry} {allowed : Nat} {names others : List String}
  {exact exact' : Bool} {dossier : Dossier}

/-! ## The key of an entry -/

/-- **An entry has the key of the part that was asked for**, also where it was made of the entries
of other parts. -/
lemma key_of_resolveWithin (hr : r.active.Built)
    (h : r.resolveWithin pol hint allowed key = .ok (some entry)) : entry.key = key.text := by
  obtain ⟨part, hpart, ⟨_, entry', -, hentry, hfound⟩ | ⟨_, _, n, -, -, hmerge⟩⟩ :=
    resolveWithin_eq_ok h
  · obtain ⟨t, resolved, -, -, rfl⟩ := resolvePhysical_eq_ok.1 hentry
    rw [Option.some.injEq] at hfound
    rw [hfound, Entry.foldl_add, ← hr.key_of_part? hpart]
    rfl
  · obtain ⟨outcomes, -, hmerge⟩ := mergeSubstitutes_eq_ok.1 hmerge
    have habsorb : ∀ (others : List Entry) (e : Entry),
        (others.foldl Entry.absorb e).key = e.key := by
      intro others
      induction others with
      | nil => exact fun _ => rfl
      | cons other rest ih => exact fun e => ih (e.absorb other)
    rw [← hr.key_of_part? hpart]
    cases hentries : outcomes.filterMap id with
    | nil =>
        rw [hentries] at hmerge
        cases hmerge
    | cons first others =>
        rw [hentries, mergeEntries, Option.some.injEq] at hmerge
        rw [← hmerge, habsorb]

/-! ## Parts that end a batch -/

/-- Whether a part fails with an error that is not of this part alone. -/
structure EndsBatch (r : Resolver) (pol : PolSelection) (hint : Option String) (part : Part)
    (e : Error) : Prop where
  fails : r.resolvePart part.key pol hint = .error e
  fatal : e.isPerPart = false

/-- No error of a part ends the batch exactly if all that it has are of this part alone. -/
lemma not_endsBatch_iff : (∀ e, ¬ r.EndsBatch pol hint part e) ↔
    ∀ e, r.resolvePart part.key pol hint = .error e → e.isPerPart = true := by
  refine forall_congr' fun e => ⟨fun h he => ?_, fun h hends => ?_⟩
  · exact Bool.not_eq_false _ ▸ fun hfatal => h ⟨he, hfatal⟩
  · have hpart := h hends.fails
    rw [hends.fatal] at hpart
    cases hpart

/-- **A batch fails with the error of the first part that ends it.** -/
theorem foldlM_resolveInto_eq_error {parts : List Part} :
    parts.foldlM (r.resolveInto pol hint) dossier = .error e ↔
      ∃ before part after, parts = before ++ part :: after ∧ r.EndsBatch pol hint part e ∧
        ∀ other ∈ before, ∀ e', ¬ r.EndsBatch pol hint other e' := by
  induction parts generalizing dossier with
  | nil => simp
  | cons first rest ih =>
      rw [List.foldlM_cons]
      rcases r.resolveInto_cases pol hint dossier first with ⟨e', he, hfatal, hrun⟩ | ⟨hpart, hrun⟩
      · rw [hrun]
        constructor
        · intro h
          cases h
          exact ⟨[], first, rest, rfl, ⟨he, hfatal⟩, by simp⟩
        · rintro ⟨_ | ⟨other, before⟩, part, after, hsplit, hends, hbefore⟩
          · obtain ⟨rfl, rfl⟩ := List.cons.inj hsplit
            have herror := hends.fails
            rw [he, Except.error.injEq] at herror
            rw [herror]
            rfl
          · obtain ⟨rfl, -⟩ := List.cons.inj hsplit
            exact absurd ⟨he, hfatal⟩ (hbefore first List.mem_cons_self e')
      · rw [hrun]
        show rest.foldlM (r.resolveInto pol hint) _ = .error e ↔ _
        have hfirst := not_endsBatch_iff.2 hpart
        rw [ih]
        constructor
        · rintro ⟨before, part, after, rfl, hends, hbefore⟩
          exact ⟨first :: before, part, after, rfl, hends, List.forall_mem_cons.2 ⟨hfirst, hbefore⟩⟩
        · rintro ⟨_ | ⟨other, before⟩, part, after, hsplit, hends, hbefore⟩
          · obtain ⟨rfl, rfl⟩ := List.cons.inj hsplit
            exact absurd hends (hfirst e)
          · obtain ⟨rfl, rfl⟩ := List.cons.inj hsplit
            exact ⟨before, part, after, rfl, hends, (List.forall_mem_cons.1 hbefore).2⟩

/-- With topologies, and with a hint that is one of them, nothing but the parts decides. -/
lemma resolveNames_eq_foldlM (hconfigured : r.catalogue.ensureConfigured = .ok ())
    (hhint : ∀ name ∈ hint, ∃ t, r.catalogue.topology name = .ok t) :
    r.resolveNames names exact pol hint =
      (r.active.partsMatching names exact).foldlM (r.resolveInto pol hint) .empty := by
  rw [resolveNames, hconfigured]
  cases hint with
  | none => rfl
  | some name =>
      obtain ⟨t, ht⟩ := hhint name rfl
      simp only [ht]
      rfl

/-- **A batch fails exactly if a matched part ends it**, with the error of the part that has the
least key of those. -/
theorem resolveNames_eq_error_iff (hr : r.active.Built)
    (hconfigured : r.catalogue.ensureConfigured = .ok ())
    (hhint : ∀ name ∈ hint, ∃ t, r.catalogue.topology name = .ok t) :
    r.resolveNames names exact pol hint = .error e ↔
      ∃ part, r.active.Matched names exact part ∧ r.EndsBatch pol hint part e ∧
        ∀ other, r.active.Matched names exact other → compare other.key part.key = .lt →
          ∀ e', ¬ r.EndsBatch pol hint other e' := by
  rw [resolveNames_eq_foldlM hconfigured hhint, foldlM_resolveInto_eq_error]
  constructor
  · rintro ⟨before, part, after, hsplit, hends, hbefore⟩
    have hmem : part ∈ r.active.partsMatching names exact := by
      rw [hsplit]
      exact List.mem_append_right _ List.mem_cons_self
    refine ⟨part, (ActiveSet.mem_partsMatching_iff hr).1 hmem, hends, fun other hother hlt => ?_⟩
    exact hbefore other ((ActiveSet.mem_before_iff hr hsplit).2 ⟨hother, hlt⟩)
  · rintro ⟨part, hmatched, hends, hfirst⟩
    obtain ⟨before, after, hsplit⟩ :=
      List.append_of_mem ((ActiveSet.mem_partsMatching_iff hr).2 hmatched)
    refine ⟨before, part, after, hsplit, hends, fun other hother => ?_⟩
    obtain ⟨hmatched', hlt⟩ := (ActiveSet.mem_before_iff hr hsplit).1 hother
    exact hfirst other hmatched' hlt

/-! ## What a batch holds -/

/-- What a dossier holds, said by the parts that are matched. -/
lemma get?_resolveNames_iff (hr : r.active.Built)
    (h : r.resolveNames names exact pol hint = .ok dossier) {k : String} :
    dossier.get? k = some entry ↔ ∃ part, r.active.Matched names exact part ∧ part.key.text = k ∧
      r.resolvePart part.key pol hint = .ok (some entry) := by
  rw [get?_resolveNames h]
  exact exists_congr fun part => and_congr_left fun _ => ActiveSet.mem_partsMatching_iff hr

/-- Under a common key two batches have the same entry, that of the part with this key. -/
lemma eq_of_resolveNames (hr : r.active.Built) {first second : Dossier}
    (hfirst : r.resolveNames names exact pol hint = .ok first)
    (hsecond : r.resolveNames others exact' pol hint = .ok second) {k : String}
    (hentry : first.get? k = some entry) (hentry' : second.get? k = some entry') :
    entry = entry' := by
  obtain ⟨part, -, hk, hrun⟩ := (get?_resolveNames_iff hr hfirst).1 hentry
  obtain ⟨part', -, hk', hrun'⟩ := (get?_resolveNames_iff hr hsecond).1 hentry'
  have hkey : part'.key = part.key := congrArg PartKey.mk (hk'.trans hk.symm)
  rw [hkey, hrun, Except.ok.injEq, Option.some.injEq] at hrun'
  exact hrun'

/-- **A batch about fewer parts succeeds too**, and has no other entries. -/
theorem resolveNames_of_matched (hr : r.active.Built)
    (h : r.resolveNames names exact pol hint = .ok dossier)
    (hsub : ∀ part, r.active.Matched others exact' part → r.active.Matched names exact part) :
    ∃ fewer, r.resolveNames others exact' pol hint = .ok fewer ∧
      ∀ k entry, fewer.get? k = some entry → dossier.get? k = some entry := by
  obtain ⟨hconfigured, hhint, hparts, -⟩ := resolveNames_eq_ok.1 h
  obtain ⟨fewer, hfewer⟩ : ∃ fewer, r.resolveNames others exact' pol hint = .ok fewer := by
    refine ⟨_, resolveNames_eq_ok.2 ⟨hconfigured, hhint, fun part hpart => hparts part ?_, rfl⟩⟩
    rw [ActiveSet.mem_partsMatching_iff hr] at hpart ⊢
    exact hsub part hpart
  refine ⟨fewer, hfewer, fun k entry hentry => ?_⟩
  obtain ⟨part, hmatched, hk, hrun⟩ := (get?_resolveNames_iff hr hfewer).1 hentry
  exact (get?_resolveNames_iff hr h).2 ⟨part, hsub part hmatched, hk, hrun⟩

/-- What two lists of names give together is what each of them gives, whichever is looked at
first. -/
lemma union_eq_of_resolveNames (hr : r.active.Built) {first second : Dossier}
    (h : r.resolveNames (names ++ others) exact pol hint = .ok dossier)
    (hfirst : r.resolveNames names exact pol hint = .ok first)
    (hsecond : r.resolveNames others exact pol hint = .ok second) :
    first.union second = dossier := by
  refine KeyMap.ext_get? fun k => Option.ext fun entry => ?_
  rw [KeyMap.get?_union, Option.or_eq_some_iff, get?_resolveNames_iff hr h]
  simp only [ActiveSet.matched_append, or_and_right, exists_or]
  rw [← get?_resolveNames_iff hr hfirst, ← get?_resolveNames_iff hr hsecond]
  constructor
  · exact fun h => h.elim .inr fun h => .inl h.2
  · rintro (h | h)
    · cases hother : second.get? k with
      | none => exact .inr ⟨rfl, h⟩
      | some entry' =>
          have heq := eq_of_resolveNames hr hfirst hsecond h hother
          exact .inl (congrArg some heq.symm)
    · exact .inl h

/-- **Batches of two lists of names join to the batch of both.** -/
theorem resolveNames_append (hr : r.active.Built) :
    r.resolveNames (names ++ others) exact pol hint = .ok dossier ↔ ∃ first second,
      r.resolveNames names exact pol hint = .ok first ∧
      r.resolveNames others exact pol hint = .ok second ∧ first.union second = dossier := by
  constructor
  · intro h
    obtain ⟨first, hfirst, -⟩ := resolveNames_of_matched hr h
      fun part hpart => ActiveSet.matched_append.2 (.inl hpart)
    obtain ⟨second, hsecond, -⟩ := resolveNames_of_matched hr h
      fun part hpart => ActiveSet.matched_append.2 (.inr hpart)
    exact ⟨first, second, hfirst, hsecond, union_eq_of_resolveNames hr h hfirst hsecond⟩
  · rintro ⟨first, second, hfirst, hsecond, rfl⟩
    obtain ⟨hconfigured, hhint, hparts, -⟩ := resolveNames_eq_ok.1 hfirst
    obtain ⟨-, -, hparts', -⟩ := resolveNames_eq_ok.1 hsecond
    obtain ⟨whole, hwhole⟩ :
        ∃ whole, r.resolveNames (names ++ others) exact pol hint = .ok whole := by
      refine ⟨_, resolveNames_eq_ok.2 ⟨hconfigured, hhint, fun part hpart => ?_, rfl⟩⟩
      rw [ActiveSet.mem_partsMatching_iff hr, ActiveSet.matched_append] at hpart
      rw [← ActiveSet.mem_partsMatching_iff hr, ← ActiveSet.mem_partsMatching_iff hr] at hpart
      exact hpart.elim (hparts part) (hparts' part)
    rw [hwhole, union_eq_of_resolveNames hr hwhole hfirst hsecond]

/-- Names with the same canonical forms give the same batch. -/
lemma resolveNames_eq_of_canonical
    (h : ∀ name, name ∈ names.map canonicalName ↔ name ∈ others.map canonicalName) :
    r.resolveNames names exact pol hint = r.resolveNames others exact pol hint := by
  rw [resolveNames, resolveNames, ActiveSet.partsMatching_eq_of_canonical h]

/-! ## The main statement -/

/-- **Batches are pointwise.**  Where there are topologies, and the hint is one of them if there is
one, a batch fails exactly if a matched part fails with an error that is not of this part alone, and
with the error of the first such part in the order of keys.  Otherwise it holds under the key of
each matched part the entry that this part resolves to, which has this key, and nothing else.  So a
batch of two lists of names succeeds if and only if those of each list do, and joins what they hold,
which is the same under a common key; neither the order nor the spelling of names counts, nor how
often one occurs; and what names give as beginnings includes what they give as whole part
numbers. -/
theorem resolveNames_pointwise (hr : r.active.Built)
    (hconfigured : r.catalogue.ensureConfigured = .ok ())
    (hhint : ∀ name ∈ hint, ∃ t, r.catalogue.topology name = .ok t) (pol : PolSelection) :
    (∀ names exact e, r.resolveNames names exact pol hint = .error e ↔
      ∃ part, r.active.Matched names exact part ∧ r.EndsBatch pol hint part e ∧
        ∀ other, r.active.Matched names exact other → compare other.key part.key = .lt →
          ∀ e', ¬ r.EndsBatch pol hint other e') ∧
    (∀ names exact dossier, r.resolveNames names exact pol hint = .ok dossier → ∀ k entry,
      (dossier.get? k = some entry ↔ ∃ part, r.active.Matched names exact part ∧
        part.key.text = k ∧ r.resolvePart part.key pol hint = .ok (some entry)) ∧
      (dossier.get? k = some entry → entry.key = k)) ∧
    (∀ a b exact dossier, r.resolveNames (a ++ b) exact pol hint = .ok dossier ↔ ∃ first second,
      r.resolveNames a exact pol hint = .ok first ∧
      r.resolveNames b exact pol hint = .ok second ∧ first.union second = dossier) ∧
    (∀ a b exact first second, r.resolveNames a exact pol hint = .ok first →
      r.resolveNames b exact pol hint = .ok second → ∀ k entry entry',
        first.get? k = some entry → second.get? k = some entry' → entry = entry') ∧
    (∀ a b : List String, (∀ name, name ∈ a.map canonicalName ↔ name ∈ b.map canonicalName) →
      ∀ exact, r.resolveNames a exact pol hint = r.resolveNames b exact pol hint) ∧
    ∀ names dossier, r.resolveNames names false pol hint = .ok dossier → ∃ fewer,
      r.resolveNames names true pol hint = .ok fewer ∧
        ∀ k entry, fewer.get? k = some entry → dossier.get? k = some entry := by
  refine ⟨fun names exact e => resolveNames_eq_error_iff hr hconfigured hhint, ?_,
    fun a b exact dossier => resolveNames_append hr, ?_,
    fun a b h exact => resolveNames_eq_of_canonical h, ?_⟩
  · intro names exact dossier h k entry
    refine ⟨get?_resolveNames_iff hr h, fun hentry => ?_⟩
    obtain ⟨part, -, rfl, hrun⟩ := (get?_resolveNames_iff hr h).1 hentry
    exact key_of_resolveWithin hr hrun
  · exact fun a b exact first second hfirst hsecond k entry entry' =>
      eq_of_resolveNames hr hfirst hsecond
  · intro names dossier h
    exact resolveNames_of_matched hr h fun part hpart => ⟨hpart.active, hpart.named.of_exact⟩

/-- A batch of a ring of two cables ends with the error of the cable with the lesser key; one of the
dish, by a beginning of its station and the number of its antenna in lower case, joins what each
name gives. -/
theorem resolveNames_pointwise_ring_dish :
    (∃ s, ActiveSet.ofRecords ⟨10⟩ .ring = .ok s ∧
      (⟨.hera, s, true⟩ : Resolver).resolveNames ["r"] false .all none =
        .error (.topologyCycle ⟨"R1:A"⟩ "e" .up) ∧
      ∃ part, s.Matched ["r"] false part ∧
        (⟨.hera, s, true⟩ : Resolver).EndsBatch .all none part (.topologyCycle ⟨"R1:A"⟩ "e" .up)) ∧
    ∃ s dossier first second, ActiveSet.ofRecords ⟨10⟩ .dish = .ok s ∧
      (⟨.hera, s, true⟩ : Resolver).resolveNames (["hh"] ++ ["a1"]) false .all none = .ok dossier ∧
      dossier.keys = ["A1:H", "HH1:A"] ∧
      (⟨.hera, s, true⟩ : Resolver).resolveNames ["hh"] false .all none = .ok first ∧
      (⟨.hera, s, true⟩ : Resolver).resolveNames ["a1"] false .all none = .ok second ∧
      first.union second = dossier := by
  have hconfigured : Catalogue.hera.ensureConfigured = .ok () := rfl
  have hhint : ∀ name ∈ (none : Option String), ∃ t, Catalogue.hera.topology name = .ok t := nofun
  constructor
  · have hring : (ActiveSet.ofRecords ⟨10⟩ .ring).toOption.any (fun s =>
        decide ((⟨.hera, s, true⟩ : Resolver).resolveNames ["r"] false .all none =
          .error (.topologyCycle ⟨"R1:A"⟩ "e" .up))) = true := by
      decide +kernel
    obtain ⟨s, hs, hrun⟩ := Outcome.exists_of_any hring
    have herror := of_decide_eq_true hrun
    have hpointwise := resolveNames_pointwise (r := ⟨.hera, s, true⟩) ⟨_, _, hs⟩ hconfigured
      hhint .all
    obtain ⟨part, hmatched, hends, -⟩ := (hpointwise.1 _ _ _).1 herror
    exact ⟨s, hs, herror, part, hmatched, hends⟩
  · have hdish : (ActiveSet.ofRecords ⟨10⟩ .dish).toOption.any (fun s =>
        ((⟨.hera, s, true⟩ : Resolver).resolveNames (["hh"] ++ ["a1"]) false .all none).toOption.any
          fun dossier => dossier.keys == ["A1:H", "HH1:A"]) = true := by
      decide +kernel
    obtain ⟨s, hs, hrun⟩ := Outcome.exists_of_any hdish
    obtain ⟨dossier, hdossier, hkeys⟩ := Outcome.exists_of_any hrun
    have hpointwise := resolveNames_pointwise (r := ⟨.hera, s, true⟩) ⟨_, _, hs⟩ hconfigured
      hhint .all
    obtain ⟨first, second, hfirst, hsecond, hjoin⟩ := (hpointwise.2.2.1 _ _ _ _).1 hdossier
    exact ⟨s, dossier, first, second, hs, hdossier, beq_iff_eq.1 hkeys, hfirst, hsecond, hjoin⟩

end Resolver

end Hookup
