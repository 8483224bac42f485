import Hookup.Resolver
import Hookup.Proofs.Entry
import Hookup.Proofs.Outcome
import Hookup.Proofs.Walk

/-!
# What resolution comes to

Resolving a part either walks from it or goes on to the parts that it stands for, a bounded number
of times.  `resolveWithin_cases` says once what a level of this can do; what a whole resolution does
follows by induction on the levels that are left.

* `resolveWithin_succ` — more levels make no difference to a resolution that does not go too deep.
* `resolvePhysical_eq_ok`, `mergeSubstitutes_eq_ok` — what an entry is made of, for a part that is
  walked from and for a part that stands for others.
* **`resolveWithin_induction`** — what holds of the entries of parts that are walked from, and is
  kept by renaming and joining, holds of every entry.
* **`resolveWithin_related`** — the same for what relates two resolutions on one set.
* `Follows` — the outcomes of following a polarization from an active part.
* **`resolveWithin_chains`** — every chain of an entry is such an outcome, however many substitutes
  it came by.
* **`resolveWithin_eq_error`** — and so is every error but those of looking up names.
* **`foldlM_resolveInto_eq_ok`** — a batch puts together what its parts resolve to one by one.
-/

namespace Hookup

/-- Whether an error says that a name is not known or that substitutes go too deep, which is found
out without a walk. -/
def Error.isLookup : Error → Bool
  | noTopology | unknownHookupType .. | unknownPartType .. | partNotFound .. | redirectDepth .. =>
    true
  | _ => false

/-- Whether an error says that there is no topology for a name or a part type. -/
def Error.isNaming : Error → Bool
  | noTopology | unknownHookupType .. | unknownPartType .. => true
  | _ => false

/-- Whether an error only voids the one substitute in which it comes up. -/
def Error.isPassedOver : Error → Bool
  | unknownPartType .. | partNotFound .. => true
  | _ => false

lemma Error.isPassedOver_iff {e : Error} : e.isPassedOver = true ↔
    (∃ key partType, e = .unknownPartType key partType) ∨ ∃ key, e = .partNotFound key := by
  cases e <;> simp [isPassedOver]

lemma Error.isPerPart_of_isPassedOver {e : Error} (h : e.isPassedOver = true) :
    e.isPerPart = true := by
  cases e <;> first | rfl | cases h

lemma Error.isLookup_of_isNaming {e : Error} (h : e.isNaming = true) : e.isLookup = true := by
  cases e <;> first | rfl | cases h

lemma Error.isLookup_of_isPerPart {e : Error} (h : e.isPerPart = true) : e.isLookup = true := by
  cases e <;> first | rfl | cases h

/-! ## Errors of walks -/

namespace Terrain

variable {w : Terrain} {direction : Direction} {pol : String} {stance : Stance}
  {chain : List Connection} {e : Error}

lemma follow_eq_ok : w.follow pol stance = .ok chain ↔ ∃ above below,
    w.walk .up pol stance = .ok above ∧ w.walk .down pol stance = .ok below ∧
      above.reverse ++ below = chain := by
  simp only [follow, Outcome.bind_eq_ok, Outcome.pure_eq_ok, exists_and_left]

lemma exists_walk_of_follow_eq_error (h : w.follow pol stance = .error e) :
    ∃ direction, w.walk direction pol stance = .error e := by
  rw [follow, Outcome.bind_eq_error] at h
  rcases h with h | ⟨above, -, h⟩
  · exact ⟨.up, h⟩
  rcases Outcome.bind_eq_error.1 h with h | ⟨below, -, h⟩
  · exact ⟨.down, h⟩
  · exact absurd h Outcome.pure_ne_error

/-- The errors of walks are not about names. -/
lemma isLookup_of_follow_eq_error (hw : w.active.Built) (h : w.follow pol stance = .error e) :
    e.isLookup = false := by
  obtain ⟨direction, h⟩ := exists_walk_of_follow_eq_error h
  obtain ⟨chain, last, -, ⟨hok, -⟩ | ⟨e', hhop, herror⟩ | ⟨port, c, -, -, herror⟩⟩ :=
    walk_cases hw direction pol stance
  · rw [h] at hok
    cases hok
  · rw [h, Except.error.injEq] at herror
    subst herror
    rw [(nextHop_eq_error hhop).2]
    rfl
  · rw [h, Except.error.injEq] at herror
    rw [herror]
    rfl

end Terrain

/-! ## Choosing how to resolve -/

namespace Catalogue

variable {catalogue : Catalogue} {part : Part} {hint : Option String} {name : String} {e : Error}

lemma topology_eq_error (h : catalogue.topology name = .error e) :
    e = .unknownHookupType name := by
  rw [topology] at h
  split at h
  · cases h
  · exact (Outcome.throw_eq_error.1 h).symm

lemma ensureConfigured_eq_error (h : catalogue.ensureConfigured = .error e) : e = .noTopology := by
  rw [ensureConfigured] at h
  split_ifs at h
  · exact (Outcome.throw_eq_error.1 h).symm
  · exact absurd h Outcome.pure_ne_error

lemma isNaming_of_hookupType?_eq_error {partType : String}
    (h : catalogue.hookupType? partType hint = .error e) : e.isNaming = true := by
  rcases Outcome.bind_eq_error.1 h with h | ⟨-, -, h⟩
  · rw [ensureConfigured_eq_error h]
    rfl
  cases hint with
  | none => exact absurd h Outcome.pure_ne_error
  | some hint =>
      rcases Outcome.bind_eq_error.1 h with h | ⟨-, -, h⟩
      · rw [topology_eq_error h]
        rfl
      · exact absurd h Outcome.pure_ne_error

/-- The choice fails only for lack of a topology. -/
lemma isNaming_of_classify_eq_error (h : catalogue.classify part hint = .error e) :
    e.isNaming = true := by
  rw [classify, Outcome.bind_eq_error] at h
  rcases h with h | ⟨found, -, h⟩
  · exact isNaming_of_hookupType?_eq_error h
  cases found with
  | none =>
      rw [← Outcome.throw_eq_error.1 h]
      rfl
  | some hookupType =>
      rcases Outcome.bind_eq_error.1 h with h | ⟨t, -, h⟩
      · rw [topology_eq_error h]
        rfl
      · split_ifs at h
        · split at h <;> exact absurd h Outcome.pure_ne_error
        · rw [← Outcome.throw_eq_error.1 h]
          rfl

lemma isLookup_of_classify_eq_error (h : catalogue.classify part hint = .error e) :
    e.isLookup = true :=
  Error.isLookup_of_isNaming (isNaming_of_classify_eq_error h)

end Catalogue

namespace Resolver

variable {r : Resolver} {t : Topology} {part : Part} {key : PartKey} {pol : PolSelection}
  {hint : Option String} {hookupType : String} {allowed : Nat} {entry : Entry}
  {found : Option Entry} {e : Error}

/-- Whether something comes of following a polarization from a port of an active part. -/
def Follows (r : Resolver) (outcome : Except Error (List Connection)) : Prop :=
  ∃ key part t pol port, r.active.part? key = some part ∧
    (r.terrain t).follow pol ⟨part, port⟩ = outcome

/-! ## Physical parts -/

lemma resolveStart_eq_ok {start : Terrain.Start} {c : ResolvedChain}
    (h : r.resolveStart t part start = .ok c) :
    c.key = start.key ∧ (r.terrain t).follow start.pol ⟨part, start.port⟩ = .ok c.chain := by
  obtain ⟨chain, hchain, h⟩ := Outcome.bind_eq_ok.1 h
  cases h
  exact ⟨rfl, hchain⟩

lemma resolveStart_eq_error {start : Terrain.Start} (h : r.resolveStart t part start = .error e) :
    (r.terrain t).follow start.pol ⟨part, start.port⟩ = .error e := by
  rcases Outcome.bind_eq_error.1 h with h | ⟨chain, -, h⟩
  · exact h
  · exact absurd h Outcome.pure_ne_error

/-- **The entry of a physical part** is made of what comes of its starts, one by one. -/
theorem resolvePhysical_eq_ok : r.resolvePhysical part hookupType pol = .ok entry ↔
    ∃ t resolved, r.catalogue.topology hookupType = .ok t ∧
      List.Forall₂ (fun start c => r.resolveStart t part start = .ok c)
        ((r.terrain t).starts part (t.polarizations.filter pol.selects)) resolved ∧
      resolved.foldl (Entry.add hookupType)
        (.empty part.key.text ⟨hookupType, t.polarizations.filter pol.selects⟩) = entry := by
  simp only [resolvePhysical, Outcome.bind_eq_ok, Outcome.pure_eq_ok, Outcome.mapM_eq_ok,
    exists_and_left]

lemma resolvePhysical_eq_error (h : r.resolvePhysical part hookupType pol = .error e) :
    e = .unknownHookupType hookupType ∨
      ∃ t pol port, (r.terrain t).follow pol ⟨part, port⟩ = .error e := by
  rcases Outcome.bind_eq_error.1 h with h | ⟨t, -, h⟩
  · exact .inl (Catalogue.topology_eq_error h)
  rcases Outcome.bind_eq_error.1 h with h | ⟨resolved, -, h⟩
  · obtain ⟨start, -, h⟩ := Outcome.exists_of_mapM_eq_error h
    exact .inr ⟨t, _, _, resolveStart_eq_error h⟩
  · exact absurd h Outcome.pure_ne_error

/-! ## Parts that stand for others -/

@[simp] lemma substituteOutcome_ok (found : Option Entry) :
    substituteOutcome (.ok found) = .ok found := rfl

lemma substituteOutcome_error (e : Error) :
    substituteOutcome (.error e) = if e.isPassedOver then .ok none else .error e := by
  cases e <;> rfl

lemma substituteOutcome_eq_ok {outcome : Except Error (Option Entry)} :
    substituteOutcome outcome = .ok found ↔ outcome = .ok found ∨
      found = none ∧ ∃ e, outcome = .error e ∧ e.isPassedOver = true := by
  cases outcome with
  | ok found' => simp
  | error e =>
      rw [substituteOutcome_error]
      split_ifs with h
      · simp only [Except.ok.injEq, Except.error.injEq, exists_eq_left', h, and_true]
        exact ⟨fun h => .inr h.symm, fun h => (h.resolve_left nofun).symm⟩
      · simp [h]

lemma substituteOutcome_eq_error {outcome : Except Error (Option Entry)} :
    substituteOutcome outcome = .error e ↔ outcome = .error e ∧ e.isPassedOver = false := by
  cases outcome with
  | ok found' => simp
  | error e' =>
      rw [substituteOutcome_error]
      split_ifs with h
      · simp only [Except.error.injEq, false_iff, not_and, Bool.not_eq_false]
        rintro rfl
        exact h
      · simp only [Except.error.injEq, iff_self_and]
        rintro rfl
        exact Bool.eq_false_iff.2 h

/-- The entry of a substitute as the part that stands for it takes it over. -/
def carried (substitutes : List PartKey) (substitute : PartKey) (e : Entry) : Entry :=
  if 1 < substitutes.length then e.rekey (viaKey substitute) else e

/-- **The entry of a part that stands for others** joins what its substitutes give. -/
theorem mergeSubstitutes_eq_ok {substitutes : List PartKey}
    {resolve : PartKey → Except Error (Option Entry)} :
    mergeSubstitutes part substitutes resolve = .ok found ↔ ∃ outcomes,
      List.Forall₂ (fun substitute outcome => ∃ found,
        substituteOutcome (resolve substitute) = .ok found ∧
          found.map (carried substitutes substitute) = outcome) substitutes outcomes ∧
      mergeEntries part (outcomes.filterMap id) = found := by
  simp only [mergeSubstitutes, Outcome.bind_eq_ok, Outcome.pure_eq_ok, Outcome.mapM_eq_ok]
  rfl

/-- What each substitute has come to where they could be merged. -/
lemma resolve_of_mergeSubstitutes {substitutes : List PartKey} {substitute : PartKey}
    {resolve : PartKey → Except Error (Option Entry)}
    (h : mergeSubstitutes part substitutes resolve = .ok found) (hsub : substitute ∈ substitutes) :
    (∃ found, resolve substitute = .ok found) ∨
      ∃ e, resolve substitute = .error e ∧ e.isPassedOver = true := by
  obtain ⟨outcomes, houtcomes, -⟩ := mergeSubstitutes_eq_ok.1 h
  obtain ⟨_, -, found, hfound, -⟩ := Outcome.exists_of_mem_left houtcomes hsub
  rcases substituteOutcome_eq_ok.1 hfound with hok | ⟨-, herror⟩
  · exact .inl ⟨found, hok⟩
  · exact .inr herror

lemma mergeSubstitutes_eq_error {substitutes : List PartKey}
    {resolve : PartKey → Except Error (Option Entry)}
    (h : mergeSubstitutes part substitutes resolve = .error e) :
    ∃ substitute ∈ substitutes, substituteOutcome (resolve substitute) = .error e := by
  rcases Outcome.bind_eq_error.1 h with h | ⟨outcomes, -, h⟩
  · obtain ⟨substitute, hmem, h⟩ := Outcome.exists_of_mapM_eq_error h
    refine ⟨substitute, hmem, ?_⟩
    rcases Outcome.bind_eq_error.1 h with h | ⟨found, -, h⟩
    · exact h
    · exact absurd h Outcome.pure_ne_error
  · exact absurd h Outcome.pure_ne_error

/-- Substitutes that resolve alike are merged alike, unless one goes too deep. -/
lemma mergeSubstitutes_congr {substitutes : List PartKey}
    {f g : PartKey → Except Error (Option Entry)}
    (h : ∀ s, (∀ p, f s ≠ .error (.redirectDepth p)) → g s = f s)
    (hrun : ∀ p, mergeSubstitutes part substitutes f ≠ .error (.redirectDepth p)) :
    mergeSubstitutes part substitutes g = mergeSubstitutes part substitutes f := by
  rw [mergeSubstitutes, mergeSubstitutes]
  congr 1
  refine Outcome.mapM_eq_of (P := fun e => ∃ p, e = .redirectDepth p) (fun s hs => ?_) ?_
  · rw [h s fun p herror => hs _ ⟨p, rfl⟩ ?_]
    rw [herror]
    rfl
  · rintro _ ⟨p, rfl⟩ herror
    refine hrun p ?_
    rw [mergeSubstitutes, herror]
    rfl

/-- A property that holds of the entries to be joined, and that joining keeps, holds of the entry
that they are joined to. -/
lemma mergeEntries_induction {Q : Entry → Prop} {entries : List Entry}
    (named : ∀ e text, Q e → Q { e with key := text })
    (absorb : ∀ e other, Q e → Q other → Q (e.absorb other)) (h : ∀ e ∈ entries, Q e) :
    ∀ e ∈ mergeEntries part entries, Q e := by
  have hfold : ∀ (others : List Entry) (e : Entry), Q e → (∀ other ∈ others, Q other) →
      Q (others.foldl Entry.absorb e) := by
    intro others
    induction others with
    | nil => exact fun e he _ => he
    | cons other rest ih =>
        intro e he hothers
        have hother : Q other := hothers other List.mem_cons_self
        exact ih (e.absorb other) (absorb e other he hother)
          fun o ho => hothers o (List.mem_cons_of_mem _ ho)
  cases entries with
  | nil => simp [mergeEntries]
  | cons first others =>
      intro e he
      rw [mergeEntries, Option.mem_some_iff] at he
      rw [← he]
      exact hfold others _ (named first _ (h first List.mem_cons_self))
        fun other hother => h other (List.mem_cons_of_mem _ hother)

/-! ## Level by level -/

/-- **What a level of resolution can do**: find no part, or no way to resolve it, walk from it, or
go on to its substitutes if that is still allowed. -/
theorem resolveWithin_cases (r : Resolver) (pol : PolSelection) (hint : Option String)
    (allowed : Nat) (key : PartKey) :
    (r.active.part? key = none ∧
      r.resolveWithin pol hint allowed key = .error (.partNotFound key)) ∨
    ∃ part, r.active.part? key = some part ∧
      ((∃ e, r.catalogue.classify part hint = .error e ∧
        r.resolveWithin pol hint allowed key = .error e) ∨
      (∃ hookupType, r.catalogue.classify part hint = .ok (.physical hookupType) ∧
        r.resolveWithin pol hint allowed key =
          some <$> r.resolvePhysical part hookupType pol) ∨
      (∃ hookupType via, r.catalogue.classify part hint = .ok (.redirect hookupType via) ∧
        ((allowed = 0 ∧ r.resolveWithin pol hint allowed key = .error (.redirectDepth part.key)) ∨
        ∃ n, allowed = n + 1 ∧ r.resolveWithin pol hint allowed key =
          mergeSubstitutes part (r.active.wiring.neighbours part.key via)
            (r.resolveWithin pol hint n)))) := by
  rw [resolveWithin]
  cases hpart : r.active.part? key with
  | none => exact .inl ⟨rfl, rfl⟩
  | some part =>
      refine .inr ⟨part, rfl, ?_⟩
      simp only
      cases hrole : r.catalogue.classify part hint with
      | error e => exact .inl ⟨e, rfl, rfl⟩
      | ok role =>
          cases role with
          | physical hookupType => exact .inr (.inl ⟨hookupType, rfl, rfl⟩)
          | redirect hookupType via =>
              refine .inr (.inr ⟨hookupType, via, rfl, ?_⟩)
              cases allowed with
              | zero => exact .inl ⟨rfl, rfl⟩
              | succ n => exact .inr ⟨n, rfl, rfl⟩

/-- How many redirects are allowed makes no difference for what is not a redirect. -/
lemma resolveWithin_eq_of_not_redirect (h : ∀ part hookupType via, r.active.part? key = some part →
    r.catalogue.classify part hint ≠ .ok (.redirect hookupType via)) (m n : Nat) :
    r.resolveWithin pol hint m key = r.resolveWithin pol hint n key := by
  rw [resolveWithin, resolveWithin]
  cases hpart : r.active.part? key with
  | none => rfl
  | some part =>
      simp only
      cases hrole : r.catalogue.classify part hint with
      | error e => rfl
      | ok role =>
          cases role with
          | physical hookupType => rfl
          | redirect hookupType via => exact absurd hrole (h part hookupType via hpart)

/-- A redirect is resolved by way of its substitutes, with one redirect less allowed. -/
lemma resolveWithin_of_redirect {hookupType : String} {via : Direction}
    (hpart : r.active.part? key = some part)
    (hrole : r.catalogue.classify part hint = .ok (.redirect hookupType via)) (n : Nat) :
    r.resolveWithin pol hint 0 key = .error (.redirectDepth part.key) ∧
      r.resolveWithin pol hint (n + 1) key = mergeSubstitutes part
        (r.active.wiring.neighbours part.key via) (r.resolveWithin pol hint n) := by
  constructor
  · rw [resolveWithin, hpart]
    simp only [hrole]
    rfl
  · rw [resolveWithin, hpart]
    simp only [hrole]
    rfl

/-- A resolution that does not go too deep comes to the same when more redirects are allowed. -/
lemma resolveWithin_succ {n : Nat}
    (h : ∀ p, r.resolveWithin pol hint n key ≠ .error (.redirectDepth p)) :
    r.resolveWithin pol hint (n + 1) key = r.resolveWithin pol hint n key := by
  induction n generalizing key with
  | zero =>
      refine resolveWithin_eq_of_not_redirect (fun part hookupType via hpart hrole => ?_) _ _
      exact h part.key (resolveWithin_of_redirect hpart hrole 0).1
  | succ n ih =>
      by_cases hredirect : ∃ part hookupType via, r.active.part? key = some part ∧
          r.catalogue.classify part hint = .ok (.redirect hookupType via)
      · obtain ⟨part, hookupType, via, hpart, hrole⟩ := hredirect
        have hlevel : ∀ m, r.resolveWithin pol hint (m + 1) key = mergeSubstitutes part
            (r.active.wiring.neighbours part.key via) (r.resolveWithin pol hint m) :=
          fun m => (resolveWithin_of_redirect hpart hrole m).2
        rw [hlevel] at h ⊢
        rw [hlevel]
        exact mergeSubstitutes_congr (fun s hs => ih hs) h
      · refine resolveWithin_eq_of_not_redirect (fun part hookupType via hpart hrole => ?_) _ _
        exact hredirect ⟨part, hookupType, via, hpart, hrole⟩

/-- A part that could be resolved is active, and was walked from or merged. -/
lemma resolveWithin_eq_ok (h : r.resolveWithin pol hint allowed key = .ok found) :
    ∃ part, r.active.part? key = some part ∧
      ((∃ hookupType entry, r.catalogue.classify part hint = .ok (.physical hookupType) ∧
        r.resolvePhysical part hookupType pol = .ok entry ∧ found = some entry) ∨
      ∃ hookupType via n, r.catalogue.classify part hint = .ok (.redirect hookupType via) ∧
        allowed = n + 1 ∧ mergeSubstitutes part (r.active.wiring.neighbours part.key via)
          (r.resolveWithin pol hint n) = .ok found) := by
  rcases r.resolveWithin_cases pol hint allowed key with ⟨-, hrun⟩ | ⟨part, hpart, ⟨e, -, hrun⟩ |
    ⟨hookupType, hrole, hrun⟩ | ⟨hookupType, via, hrole, ⟨-, hrun⟩ | ⟨n, hn, hrun⟩⟩⟩
  · rw [hrun] at h
    cases h
  · rw [hrun] at h
    cases h
  · rw [hrun, Outcome.map_eq_ok] at h
    obtain ⟨entry, h, rfl⟩ := h
    exact ⟨part, hpart, .inl ⟨hookupType, entry, hrole, h, rfl⟩⟩
  · rw [hrun] at h
    cases h
  · rw [hrun] at h
    exact ⟨part, hpart, .inr ⟨hookupType, via, n, hrole, hn, h⟩⟩

/-- A physical part is walked from, at whatever level. -/
lemma resolveWithin_of_physical (hpart : r.active.part? key = some part)
    (hrole : r.catalogue.classify part hint = .ok (.physical hookupType)) :
    r.resolveWithin pol hint allowed key = some <$> r.resolvePhysical part hookupType pol := by
  rw [resolveWithin, hpart]
  simp only [hrole]
  rfl

/-- The entry of a physical part is what walking from it gives. -/
lemma resolvePhysical_of_resolveWithin (hpart : r.active.part? key = some part)
    (hrole : r.catalogue.classify part hint = .ok (.physical hookupType))
    (h : r.resolveWithin pol hint allowed key = .ok (some entry)) :
    r.resolvePhysical part hookupType pol = .ok entry := by
  rw [resolveWithin_of_physical hpart hrole, Outcome.map_eq_ok] at h
  obtain ⟨entry', hentry, ⟨⟩⟩ := h
  exact hentry

/-- A part that could not be resolved fails by a look-up, on a walk, or in its substitutes. -/
lemma resolveWithin_eq_error (h : r.resolveWithin pol hint allowed key = .error e) :
    e.isLookup = true ∨ ∃ part, r.active.part? key = some part ∧
      ((∃ hookupType, r.resolvePhysical part hookupType pol = .error e) ∨
      ∃ via n, allowed = n + 1 ∧ mergeSubstitutes part (r.active.wiring.neighbours part.key via)
        (r.resolveWithin pol hint n) = .error e) := by
  rcases r.resolveWithin_cases pol hint allowed key with ⟨-, hrun⟩ | ⟨part, hpart,
    ⟨e', hrole, hrun⟩ | ⟨hookupType, -, hrun⟩ | ⟨_, via, -, ⟨-, hrun⟩ | ⟨n, hn, hrun⟩⟩⟩
  · rw [hrun, Except.error.injEq] at h
    subst h
    exact .inl rfl
  · rw [hrun, Except.error.injEq] at h
    subst h
    exact .inl (Catalogue.isLookup_of_classify_eq_error hrole)
  · rw [hrun, Outcome.map_eq_error] at h
    exact .inr ⟨part, hpart, .inl ⟨hookupType, h⟩⟩
  · rw [hrun, Except.error.injEq] at h
    subst h
    exact .inl rfl
  · rw [hrun] at h
    exact .inr ⟨part, hpart, .inr ⟨via, n, hn, h⟩⟩

/-! ## Where chains and errors come from -/

lemma allChains_of_resolvePhysical (hpart : r.active.part? key = some part)
    (h : r.resolvePhysical part hookupType pol = .ok entry) :
    entry.AllChains fun chain => r.Follows (.ok chain) := by
  obtain ⟨t, resolved, -, hresolved, rfl⟩ := resolvePhysical_eq_ok.1 h
  refine Entry.allChains_foldl_add fun c hc => ?_
  obtain ⟨start, -, hstart⟩ := Outcome.exists_of_mem_right hresolved hc
  exact ⟨key, part, t, start.pol, start.port, hpart, (resolveStart_eq_ok hstart).2⟩

/-- **A property of resolved entries is proved once for parts that are walked from.**  It passes
from a substitute to the part that stands for it, and renaming and joining must keep it. -/
theorem resolveWithin_induction {Q : PartKey → Entry → Prop}
    (physical : ∀ key part hookupType entry, r.active.part? key = some part →
      r.catalogue.classify part hint = .ok (.physical hookupType) →
      r.resolvePhysical part hookupType pol = .ok entry → Q key entry)
    (redirect : ∀ key part hookupType via substitute entry, r.active.part? key = some part →
      r.catalogue.classify part hint = .ok (.redirect hookupType via) →
      substitute ∈ r.active.wiring.neighbours part.key via → Q substitute entry → Q key entry)
    (named : ∀ key entry text, Q key entry → Q key { entry with key := text })
    (rekey : ∀ key entry rename, Q key entry → Q key (entry.rekey rename))
    (absorb : ∀ key entry other, Q key entry → Q key other → Q key (entry.absorb other))
    (h : r.resolveWithin pol hint allowed key = .ok (some entry)) : Q key entry := by
  induction allowed using Nat.strongRecOn generalizing key entry with
  | ind allowed ih =>
      obtain ⟨part, hpart, ⟨hookupType, entry', hrole, hentry, ⟨⟩⟩ |
        ⟨hookupType, via, n, hrole, rfl, hmerge⟩⟩ := resolveWithin_eq_ok h
      · exact physical key part hookupType entry hpart hrole hentry
      · obtain ⟨outcomes, houtcomes, hmerge⟩ := mergeSubstitutes_eq_ok.1 hmerge
        refine mergeEntries_induction (named key) (absorb key) (fun e he => ?_) entry hmerge
        obtain ⟨_, ho, rfl⟩ := List.mem_filterMap.1 he
        obtain ⟨substitute, hsub, found, hfound, hcarried⟩ :=
          Outcome.exists_of_mem_right houtcomes ho
        obtain ⟨e', rfl, rfl⟩ := Option.map_eq_some_iff.1 hcarried
        obtain hfound | ⟨⟨⟩, -⟩ := substituteOutcome_eq_ok.1 hfound
        have hentry : Q key e' := redirect key part hookupType via substitute e' hpart hrole hsub
          (ih n n.lt_succ_self hfound)
        rw [carried]
        split_ifs
        · exact rekey key e' _ hentry
        · exact hentry

/-- **How two resolutions on one set are related is proved once for parts that are walked from**,
where they may differ in the selection and in being strict.  The part and its role are found alike,
so the relation must hold of equal errors of doing that, and merging must keep it. -/
theorem resolveWithin_related {catalogue : Catalogue} {s : ActiveSet} {strict strict' : Bool}
    {pol' : PolSelection}
    {R : Except Error (Option Entry) → Except Error (Option Entry) → Prop}
    (lookup : ∀ e, e.isLookup = true → R (.error e) (.error e))
    (physical : ∀ part hookupType,
      R (some <$> (⟨catalogue, s, strict⟩ : Resolver).resolvePhysical part hookupType pol)
        (some <$> (⟨catalogue, s, strict'⟩ : Resolver).resolvePhysical part hookupType pol'))
    (redirect : ∀ part substitutes resolve resolve',
      (∀ substitute, R (resolve substitute) (resolve' substitute)) →
      R (mergeSubstitutes part substitutes resolve) (mergeSubstitutes part substitutes resolve'))
    (allowed : Nat) (key : PartKey) :
    R ((⟨catalogue, s, strict⟩ : Resolver).resolveWithin pol hint allowed key)
      ((⟨catalogue, s, strict'⟩ : Resolver).resolveWithin pol' hint allowed key) := by
  induction allowed using Nat.strongRecOn generalizing key with
  | ind allowed ih =>
      rw [resolveWithin, resolveWithin]
      cases s.part? key with
      | none => exact lookup _ rfl
      | some part =>
          simp only
          cases hrole : catalogue.classify part hint with
          | error e => exact lookup e (Catalogue.isLookup_of_classify_eq_error hrole)
          | ok role =>
              cases role with
              | physical hookupType => exact physical part hookupType
              | redirect hookupType via =>
                  cases allowed with
                  | zero => exact lookup _ rfl
                  | succ n =>
                      exact redirect part _ _ _ fun substitute =>
                        ih n n.lt_succ_self substitute

/-- **Every chain of an entry comes of following a polarization from an active part**, at whatever
level and by way of whichever substitutes it was found. -/
theorem resolveWithin_chains (h : r.resolveWithin pol hint allowed key = .ok (some entry)) :
    entry.AllChains fun chain => r.Follows (.ok chain) := by
  refine resolveWithin_induction (Q := fun _ e => e.AllChains fun chain => r.Follows (.ok chain))
    ?_ ?_ ?_ ?_ ?_ h
  · exact fun _ _ _ _ hpart _ hentry => allChains_of_resolvePhysical hpart hentry
  · exact fun _ _ _ _ _ _ _ _ _ hchains => hchains
  · exact fun _ _ _ hchains => hchains
  · exact fun _ _ rename hchains => hchains.rekey rename
  · exact fun _ _ _ hchains hother => hchains.absorb hother

/-- **Every error of a resolution is about a name, or comes of following a polarization.** -/
theorem resolveWithin_error (h : r.resolveWithin pol hint allowed key = .error e) :
    e.isLookup = true ∨ r.Follows (.error e) := by
  induction allowed using Nat.strongRecOn generalizing key with
  | ind allowed ih =>
      obtain hlookup | ⟨part, hpart, ⟨hookupType, hphysical⟩ | ⟨via, n, rfl, hmerge⟩⟩ :=
        resolveWithin_eq_error h
      · exact .inl hlookup
      · obtain rfl | ⟨t, label, port, hfollow⟩ := resolvePhysical_eq_error hphysical
        · exact .inl rfl
        · exact .inr ⟨key, part, t, label, port, hpart, hfollow⟩
      · obtain ⟨substitute, -, hsub⟩ := mergeSubstitutes_eq_error hmerge
        exact ih n n.lt_succ_self (substituteOutcome_eq_error.1 hsub).1

/-! ## Batches -/

/-- The entry of a part in a dossier, if it has one. -/
def entryOf? (r : Resolver) (pol : PolSelection) (hint : Option String) (part : Part) :
    Option (String × Entry) :=
  match r.resolvePart part.key pol hint with
  | .ok found => found.map (part.key.text, ·)
  | .error _ => none

/-- **What one more part does to a batch**: it ends it by an error that is not of this part alone,
or adds the entry of the part if there is one. -/
lemma resolveInto_cases (r : Resolver) (pol : PolSelection) (hint : Option String)
    (dossier : Dossier) (part : Part) :
    (∃ e, r.resolvePart part.key pol hint = .error e ∧ e.isPerPart = false ∧
      r.resolveInto pol hint dossier part = .error e) ∨
    ((∀ e, r.resolvePart part.key pol hint = .error e → e.isPerPart = true) ∧
      r.resolveInto pol hint dossier part =
        .ok (dossier.insertAll (r.entryOf? pol hint part).toList)) := by
  rw [resolveInto, entryOf?]
  cases hrun : r.resolvePart part.key pol hint with
  | ok found =>
      refine .inr ⟨nofun, ?_⟩
      cases found <;> rfl
  | error e =>
      by_cases hpart : e.isPerPart = true
      · refine .inr ⟨fun e' he => ?_, by simp [hpart]⟩
        rw [Except.error.injEq] at he
        rwa [← he]
      · exact .inl ⟨e, rfl, Bool.eq_false_iff.2 hpart, by simp [hpart]⟩

/-- **A batch succeeds if no part ends it, and then holds the entries of its parts.** -/
theorem foldlM_resolveInto_eq_ok {parts : List Part} {dossier dossier' : Dossier} :
    parts.foldlM (r.resolveInto pol hint) dossier = .ok dossier' ↔
      (∀ part ∈ parts, ∀ e, r.resolvePart part.key pol hint = .error e → e.isPerPart = true) ∧
        dossier.insertAll (parts.filterMap (r.entryOf? pol hint)) = dossier' := by
  induction parts generalizing dossier with
  | nil => simp
  | cons part rest ih =>
      rw [List.foldlM_cons]
      rcases r.resolveInto_cases pol hint dossier part with ⟨e, he, hfatal, hrun⟩ | ⟨hpart, hrun⟩
      · constructor
        · intro h
          rw [hrun] at h
          cases h
        · rintro ⟨hall, -⟩
          rw [hall part List.mem_cons_self e he] at hfatal
          cases hfatal
      · rw [hrun]
        show rest.foldlM (r.resolveInto pol hint) _ = .ok dossier' ↔ _
        rw [ih, List.forall_mem_cons, and_iff_right hpart, List.filterMap_cons]
        cases r.entryOf? pol hint part <;> rfl

lemma exists_of_foldlM_resolveInto_eq_error {parts : List Part} {dossier : Dossier}
    (h : parts.foldlM (r.resolveInto pol hint) dossier = .error e) :
    ∃ part ∈ parts, r.resolvePart part.key pol hint = .error e := by
  induction parts generalizing dossier with
  | nil => exact absurd h Outcome.pure_ne_error
  | cons part rest ih =>
      rw [List.foldlM_cons] at h
      rcases r.resolveInto_cases pol hint dossier part with ⟨e', he, -, hrun⟩ | ⟨-, hrun⟩
      · rw [hrun] at h
        cases h
        exact ⟨part, List.mem_cons_self, he⟩
      · rw [hrun] at h
        obtain ⟨part', hmem, he⟩ := ih h
        exact ⟨part', List.mem_cons_of_mem _ hmem, he⟩

lemma mem_entryOf? {k : String} :
    r.entryOf? pol hint part = some (k, entry) ↔
      part.key.text = k ∧ r.resolvePart part.key pol hint = .ok (some entry) := by
  rw [entryOf?]
  cases r.resolvePart part.key pol hint with
  | error e => simp
  | ok found => cases found <;> simp

variable {names : List String} {exact : Bool} {dossier : Dossier}

/-- **A dossier could be resolved** exactly if there are topologies, the hint is one of them, and no
matching part ends the batch. -/
theorem resolveNames_eq_ok : r.resolveNames names exact pol hint = .ok dossier ↔
    r.catalogue.ensureConfigured = .ok () ∧
    (∀ name ∈ hint, ∃ t, r.catalogue.topology name = .ok t) ∧
    (∀ part ∈ r.active.partsMatching names exact, ∀ e,
      r.resolvePart part.key pol hint = .error e → e.isPerPart = true) ∧
    .ofList ((r.active.partsMatching names exact).filterMap (r.entryOf? pol hint)) = dossier := by
  rw [KeyMap.ofList, ← foldlM_resolveInto_eq_ok]
  constructor
  · intro h
    obtain ⟨⟨⟩, hconfigured, h⟩ := Outcome.bind_eq_ok.1 h
    cases hint with
    | none => exact ⟨hconfigured, by simp, h⟩
    | some name =>
        obtain ⟨t, ht, h⟩ := Outcome.bind_eq_ok.1 h
        refine ⟨hconfigured, fun _ hname => ?_, h⟩
        cases hname
        exact ⟨t, ht⟩
  · rintro ⟨hconfigured, hhint, h⟩
    refine Outcome.bind_eq_ok.2 ⟨(), hconfigured, ?_⟩
    cases hint with
    | none => exact h
    | some name =>
        obtain ⟨t, ht⟩ := hhint name rfl
        exact Outcome.bind_eq_ok.2 ⟨t, ht, h⟩

/-- A failed batch fails by a look-up, or with the error of one of its parts. -/
theorem resolveNames_eq_error (h : r.resolveNames names exact pol hint = .error e) :
    e.isLookup = true ∨ ∃ part ∈ r.active.partsMatching names exact,
      r.resolvePart part.key pol hint = .error e := by
  rcases Outcome.bind_eq_error.1 h with h | ⟨-, -, h⟩
  · rw [Catalogue.ensureConfigured_eq_error h]
    exact .inl rfl
  cases hint with
  | none => exact .inr (exists_of_foldlM_resolveInto_eq_error h)
  | some name =>
      rcases Outcome.bind_eq_error.1 h with h | ⟨-, -, h⟩
      · rw [Catalogue.topology_eq_error h]
        exact .inl rfl
      · exact .inr (exists_of_foldlM_resolveInto_eq_error h)

/-- **What a dossier holds**: under the key of each matching part the entry that it resolves to. -/
theorem get?_resolveNames (h : r.resolveNames names exact pol hint = .ok dossier) (k : String) :
    dossier.get? k = some entry ↔ ∃ part ∈ r.active.partsMatching names exact,
      part.key.text = k ∧ r.resolvePart part.key pol hint = .ok (some entry) := by
  obtain ⟨-, -, -, rfl⟩ := resolveNames_eq_ok.1 h
  constructor
  · intro hget
    obtain ⟨part, hmem, hpart⟩ := List.mem_filterMap.1 (KeyMap.mem_of_get?_ofList hget)
    exact ⟨part, hmem, mem_entryOf?.1 hpart⟩
  · rintro ⟨part, hmem, hk, hrun⟩
    have hlisted := List.mem_filterMap.2 ⟨part, hmem, mem_entryOf?.2 ⟨hk, hrun⟩⟩
    refine KeyMap.get?_ofList_of_mem hlisted fun other hother => ?_
    obtain ⟨part', -, hpart'⟩ := List.mem_filterMap.1 hother
    obtain ⟨hk', hrun'⟩ := mem_entryOf?.1 hpart'
    have hkey : part'.key = part.key := congrArg PartKey.mk (hk'.trans hk.symm)
    rw [hkey, hrun, Except.ok.injEq, Option.some.injEq] at hrun'
    exact hrun'.symm

end Resolver

end Hookup
