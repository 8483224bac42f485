import Hookup.Proofs.Cycles

/-!
# Being strict only adds one error

A strict resolver and a lenient one differ in a single place: where a choice between ports cannot
be decided, the one fails and the other ends the walk.  That place is the innermost step.  What
comes of it passes through two walks, the starts of a part, the substitutes of a part that stands
for others, and the parts of a batch, which go on after some errors and stop after others.

* `Outcome.Relaxes` — what a lenient outcome has to do with a strict one: it has none of certain
  errors, and is the same outcome unless the strict one has such an error.  Every way of putting
  steps together keeps this.
* `Terrain.follow_relaxes`, `Resolver.resolveWithin_relaxes` — so it holds of whole walks, and of
  parts at every level.
* **`resolveNames_lenient`** — and of batches, which is the main statement.
-/

namespace Hookup

/-! ## Outcomes with and without certain errors -/

namespace Outcome

variable {ε α β : Type} {P : ε → Prop}

/-- Whether an outcome is what another would be without the errors of a kind: it has none of them,
and it is the other outcome unless that is one of them. -/
structure Relaxes (P : ε → Prop) (strict lenient : Except ε α) : Prop where
  avoids : ∀ e, P e → lenient ≠ .error e
  agrees : (∀ e, P e → strict ≠ .error e) → lenient = strict

namespace Relaxes

variable {strict lenient : Except ε α}

/-- An outcome without errors of the kind relaxes itself. -/
lemma same {outcome : Except ε α} (h : ∀ e, P e → outcome ≠ .error e) :
    Relaxes P outcome outcome :=
  ⟨h, fun _ => rfl⟩

lemma ok (a : α) : Relaxes P (.ok a : Except ε α) (.ok a) :=
  same fun _ _ herror => by cases herror

lemma error {e : ε} (h : ¬ P e) : Relaxes P (.error e : Except ε α) (.error e) := by
  refine same fun e' he' heq => h ?_
  rw [Except.error.injEq] at heq
  rwa [heq]

/-- In place of an error of the kind there may be any value. -/
lemma ok_for_error {e : ε} (h : P e) (a : α) : Relaxes P (.error e) (.ok a) :=
  ⟨(ok a).avoids, fun hnone => absurd rfl (hnone e h)⟩

/-- Composed steps, whatever the first one gives to the second. -/
lemma bind (h : Relaxes P strict lenient) {f g : α → Except ε β}
    (hnext : ∀ a, Relaxes P (f a) (g a)) : Relaxes P (strict >>= f) (lenient >>= g) := by
  constructor
  · intro e he herror
    rcases bind_eq_error.1 herror with herror | ⟨a, -, herror⟩
    · exact h.avoids e he herror
    · exact (hnext a).avoids e he herror
  · intro hnone
    have hfirst : lenient = strict :=
      h.agrees fun e he herror => hnone e he (bind_eq_error.2 (.inl herror))
    rw [hfirst]
    cases hstrict : strict with
    | error e => rfl
    | ok a =>
        refine (hnext a).agrees fun e he herror => hnone e he ?_
        exact bind_eq_error.2 (.inr ⟨a, hstrict, herror⟩)

lemma map (h : Relaxes P strict lenient) (f : α → β) : Relaxes P (f <$> strict) (f <$> lenient) := by
  constructor
  · exact fun e he herror => h.avoids e he (map_eq_error.1 herror)
  · exact fun hnone => congrArg _ (h.agrees fun e he herror => hnone e he (map_eq_error.2 herror))

/-- A step for every item. -/
lemma mapM {f g : α → Except ε β} (h : ∀ a, Relaxes P (f a) (g a)) (items : List α) :
    Relaxes P (items.mapM f) (items.mapM g) := by
  induction items with
  | nil => exact ok []
  | cons a rest ih =>
      rw [List.mapM_cons, List.mapM_cons]
      exact (h a).bind fun b => ih.bind fun bs => ok (b :: bs)

/-- Steps one after the other, each from what the last one has left. -/
lemma foldlM {f g : β → α → Except ε β} (h : ∀ b a, Relaxes P (f b a) (g b a)) (items : List α) :
    ∀ b, Relaxes P (items.foldlM f b) (items.foldlM g b) := by
  induction items with
  | nil => exact ok
  | cons a rest ih =>
      intro b
      rw [List.foldlM_cons, List.foldlM_cons]
      exact (h b a).bind ih

/-- What passes over some errors, but passes on those of the kind and has no others of it. -/
lemma handled (h : Relaxes P strict lenient) {handle : Except ε α → Except ε β}
    (hkeeps : ∀ e outcome, P e → (handle outcome = .error e ↔ outcome = .error e)) :
    Relaxes P (handle strict) (handle lenient) := by
  constructor
  · exact fun e he herror => h.avoids e he ((hkeeps e _ he).1 herror)
  · exact fun hnone => congrArg handle
      (h.agrees fun e he herror => hnone e he ((hkeeps e _ he).2 herror))

end Relaxes

end Outcome

open Outcome

/-- Whether an error is about a choice between ports that cannot be decided. -/
def Error.IsAmbiguity (e : Error) : Prop :=
  ∃ part pol direction candidates, e = .ambiguousPort part pol direction candidates

lemma Error.IsAmbiguity.isPerPart {e : Error} (h : e.IsAmbiguity) : e.isPerPart = false := by
  obtain ⟨part, pol, direction, candidates, rfl⟩ := h
  rfl

lemma Error.IsAmbiguity.isPassedOver {e : Error} (h : e.IsAmbiguity) : e.isPassedOver = false := by
  obtain ⟨part, pol, direction, candidates, rfl⟩ := h
  rfl

lemma Error.not_isAmbiguity_of_isLookup {e : Error} (h : e.isLookup = true) :
    ¬ e.IsAmbiguity := by
  rintro ⟨part, pol, direction, candidates, rfl⟩
  cases h

/-! ## Walks -/

namespace Terrain

variable (s : ActiveSet) (t : Topology) (direction : Direction) (pol : String)

/-- **The one place where it matters** whether a choice must be decided. -/
lemma pickPort_relaxes (stance : Stance) (ports : List String) :
    Relaxes Error.IsAmbiguity ((⟨s, t, true⟩ : Terrain).pickPort direction pol stance ports)
      ((⟨s, t, false⟩ : Terrain).pickPort direction pol stance ports) := by
  cases ports with
  | nil => exact .ok none
  | cons first others =>
      simp only [pickPort, Bool.false_eq_true, ↓reduceIte]
      split_ifs with hnamed hsingle harrival
      · exact .ok (some first)
      · exact .ok (some first)
      · exact .ok (some stance.port)
      · cases withInitial? pol (first :: others) with
        | some port => exact .ok (some port)
        | none => exact .ok_for_error ⟨_, _, _, _, rfl⟩ none

lemma nextHop_relaxes (stance : Stance) :
    Relaxes Error.IsAmbiguity ((⟨s, t, true⟩ : Terrain).nextHop direction pol stance)
      ((⟨s, t, false⟩ : Terrain).nextHop direction pol stance) :=
  (pickPort_relaxes s t direction pol stance _).bind fun _ => .ok _

lemma walkWithin_relaxes (cap : Nat) (stance : Stance) (left : List (PartKey × String)) :
    Relaxes Error.IsAmbiguity ((⟨s, t, true⟩ : Terrain).walkWithin cap direction pol stance left)
      ((⟨s, t, false⟩ : Terrain).walkWithin cap direction pol stance left) := by
  -- on the rounds that the bound still allows
  induction hn : cap - left.length using Nat.strongRecOn generalizing stance left with
  | ind n ih =>
      rw [walkWithin, walkWithin]
      refine (nextHop_relaxes s t direction pol stance).bind fun hop => ?_
      rcases hop with _ | ⟨port, c⟩
      · exact .ok []
      by_cases hstop : cap ≤ left.length ∨ (stance.part.key, port) ∈ left
      · simp only [dif_pos hstop]
        refine .error ?_
        rintro ⟨_, _, _, _, herror⟩
        cases herror
      simp only [dif_neg hstop]
      cases s.part? (c.terminal direction).key with
      | none => exact .ok []
      | some next =>
          have hless : cap - ((stance.part.key, port) :: left).length < n := by
            rw [List.length_cons]
            omega
          exact (ih _ hless _ _ rfl).bind fun rest => .ok (c :: rest)

lemma follow_relaxes (stance : Stance) :
    Relaxes Error.IsAmbiguity ((⟨s, t, true⟩ : Terrain).follow pol stance)
      ((⟨s, t, false⟩ : Terrain).follow pol stance) :=
  (walkWithin_relaxes s t .up pol _ stance []).bind fun above =>
    (walkWithin_relaxes s t .down pol _ stance []).bind fun below => .ok (above.reverse ++ below)

end Terrain

/-! ## Parts -/

namespace Resolver

/-- A part ends a batch by an error of its own that is not of this part alone. -/
lemma resolveInto_eq_error {r : Resolver} {pol : PolSelection} {hint : Option String}
    {dossier : Dossier} {part : Part} {e : Error} :
    r.resolveInto pol hint dossier part = .error e ↔
      r.resolvePart part.key pol hint = .error e ∧ e.isPerPart = false := by
  rcases r.resolveInto_cases pol hint dossier part with ⟨e', he, hfatal, hrun⟩ | ⟨hpart, hrun⟩
  · rw [hrun, he, Except.error.injEq, Except.error.injEq, iff_self_and]
    rintro rfl
    exact hfatal
  · rw [hrun]
    refine ⟨fun h => ?_, fun h => ?_⟩
    · cases h
    · rw [hpart e h.1] at h
      cases h.2

variable (catalogue : Catalogue) (s : ActiveSet) (pol : PolSelection) (hint : Option String)

lemma resolvePhysical_relaxes (part : Part) (hookupType : String) :
    Relaxes Error.IsAmbiguity
      ((⟨catalogue, s, true⟩ : Resolver).resolvePhysical part hookupType pol)
      ((⟨catalogue, s, false⟩ : Resolver).resolvePhysical part hookupType pol) := by
  rw [resolvePhysical, resolvePhysical]
  cases htopology : catalogue.topology hookupType with
  | error e =>
      rw [Catalogue.topology_eq_error htopology]
      exact .error (Error.not_isAmbiguity_of_isLookup rfl)
  | ok t =>
      refine (Relaxes.mapM (fun start => ?_) _).bind fun chains => .ok _
      exact (Terrain.follow_relaxes s t start.pol ⟨part, start.port⟩).bind fun chain => .ok _

/-- Substitutes that are passed over are so in both cases, and an undecided choice never is. -/
lemma mergeSubstitutes_relaxes {f g : PartKey → Except Error (Option Entry)} (part : Part)
    (substitutes : List PartKey) (h : ∀ key, Relaxes Error.IsAmbiguity (f key) (g key)) :
    Relaxes Error.IsAmbiguity (mergeSubstitutes part substitutes f)
      (mergeSubstitutes part substitutes g) := by
  refine (Relaxes.mapM (fun substitute => ?_) substitutes).bind fun outcomes => .ok _
  refine Relaxes.bind ((h substitute).handled fun e outcome he => ?_) fun found => .ok _
  rw [substituteOutcome_eq_error, and_iff_left he.isPassedOver]

/-- **At every level** a strict resolution only adds ambiguities. -/
theorem resolveWithin_relaxes (allowed : Nat) (key : PartKey) :
    Relaxes Error.IsAmbiguity
      ((⟨catalogue, s, true⟩ : Resolver).resolveWithin pol hint allowed key)
      ((⟨catalogue, s, false⟩ : Resolver).resolveWithin pol hint allowed key) := by
  refine resolveWithin_related (fun e he => ?_) (fun part hookupType => ?_) ?_ allowed key
  · exact .error (Error.not_isAmbiguity_of_isLookup he)
  · exact (resolvePhysical_relaxes catalogue s pol part hookupType).map some
  · exact fun part substitutes _ _ h => mergeSubstitutes_relaxes part substitutes h

/-! ## Batches -/

lemma resolveInto_relaxes (dossier : Dossier) (part : Part) :
    Relaxes Error.IsAmbiguity
      ((⟨catalogue, s, true⟩ : Resolver).resolveInto pol hint dossier part)
      ((⟨catalogue, s, false⟩ : Resolver).resolveInto pol hint dossier part) := by
  have hpart := resolveWithin_relaxes catalogue s pol hint maxRedirectDepth part.key
  constructor
  · exact fun e he herror => hpart.avoids e he (resolveInto_eq_error.1 herror).1
  · intro hnone
    have hsame := hpart.agrees fun e he herror =>
      hnone e he (resolveInto_eq_error.2 ⟨herror, he.isPerPart⟩)
    rw [resolveInto, resolveInto, resolvePart, resolvePart, hsame]

lemma resolveNames_relaxes (names : List String) (exact : Bool) :
    Relaxes Error.IsAmbiguity
      ((⟨catalogue, s, true⟩ : Resolver).resolveNames names exact pol hint)
      ((⟨catalogue, s, false⟩ : Resolver).resolveNames names exact pol hint) := by
  rw [resolveNames, resolveNames]
  have hbatch := Relaxes.foldlM (resolveInto_relaxes catalogue s pol hint)
    (s.partsMatching names exact) .empty
  refine Relaxes.bind (.same fun e he herror => ?_) fun _ => ?_
  · rw [Catalogue.ensureConfigured_eq_error herror] at he
    exact Error.not_isAmbiguity_of_isLookup rfl he
  · cases hint with
    | none => exact hbatch
    | some name =>
        refine Relaxes.bind (.same fun e he herror => ?_) fun _ => hbatch
        rw [Catalogue.topology_eq_error herror] at he
        exact Error.not_isAmbiguity_of_isLookup rfl he

/-! ## The main statement -/

/-- **Being strict only adds one error.**  A lenient batch never fails for a choice that cannot be
decided; and whenever a strict batch does not fail for one, the lenient batch comes to exactly the
same, be it a dossier or another error. -/
theorem resolveNames_lenient (names : List String) (exact : Bool) :
    (∀ part label direction candidates,
      (⟨catalogue, s, false⟩ : Resolver).resolveNames names exact pol hint ≠
        .error (.ambiguousPort part label direction candidates)) ∧
    ((∀ part label direction candidates,
      (⟨catalogue, s, true⟩ : Resolver).resolveNames names exact pol hint ≠
        .error (.ambiguousPort part label direction candidates)) →
      (⟨catalogue, s, false⟩ : Resolver).resolveNames names exact pol hint =
        (⟨catalogue, s, true⟩ : Resolver).resolveNames names exact pol hint) := by
  have hrelaxes := resolveNames_relaxes catalogue s pol hint names exact
  constructor
  · intro part label direction candidates
    exact hrelaxes.avoids _ ⟨part, label, direction, candidates, rfl⟩
  · intro hnone
    refine hrelaxes.agrees ?_
    rintro _ ⟨part, label, direction, candidates, rfl⟩
    exact hnone part label direction candidates

/-- A ring of cables is a cycle to both, and the dish has one dossier. -/
theorem resolveNames_lenient_ring_dish :
    (∃ s, ActiveSet.ofRecords ⟨10⟩ .ring = .ok s ∧
      (⟨.hera, s, true⟩ : Resolver).resolveNames ["r"] false .all none =
        .error (.topologyCycle ⟨"R1:A"⟩ "e" .up) ∧
      (⟨.hera, s, false⟩ : Resolver).resolveNames ["r"] false .all none =
        .error (.topologyCycle ⟨"R1:A"⟩ "e" .up)) ∧
    ∃ s dossier, ActiveSet.ofRecords ⟨10⟩ .dish = .ok s ∧
      (⟨.hera, s, true⟩ : Resolver).resolveNames ["hh", "a"] false .all none = .ok dossier ∧
      dossier.keys = ["A1:H", "HH1:A"] ∧
      (⟨.hera, s, false⟩ : Resolver).resolveNames ["hh", "a"] false .all none = .ok dossier := by
  constructor
  · have hring : (ActiveSet.ofRecords ⟨10⟩ .ring).toOption.any (fun s =>
        decide ((⟨.hera, s, true⟩ : Resolver).resolveNames ["r"] false .all none =
          .error (.topologyCycle ⟨"R1:A"⟩ "e" .up))) = true := by
      decide +kernel
    obtain ⟨s, hs, hrun⟩ := Outcome.exists_of_any hring
    have hstrict := of_decide_eq_true hrun
    refine ⟨s, hs, hstrict, ?_⟩
    rw [← hstrict]
    refine (resolveNames_lenient .hera s .all none ["r"] false).2 fun _ _ _ _ herror => ?_
    rw [hstrict] at herror
    cases herror
  · have hdish : (ActiveSet.ofRecords ⟨10⟩ .dish).toOption.any (fun s =>
        ((⟨.hera, s, true⟩ : Resolver).resolveNames ["hh", "a"] false .all none).toOption.any
          fun dossier => dossier.keys == ["A1:H", "HH1:A"]) = true := by
      decide +kernel
    obtain ⟨s, hs, hrun⟩ := Outcome.exists_of_any hdish
    obtain ⟨dossier, hstrict, hkeys⟩ := Outcome.exists_of_any hrun
    refine ⟨s, dossier, hs, hstrict, beq_iff_eq.1 hkeys, ?_⟩
    rw [← hstrict]
    refine (resolveNames_lenient .hera s .all none ["hh", "a"] false).2 fun _ _ _ _ herror => ?_
    rw [hstrict] at herror
    cases herror

end Resolver

end Hookup
