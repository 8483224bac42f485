import Hookup.Proofs.Resolution

/-!
# Redirects are followed to a fixed depth

A part that only stands for others is resolved by way of them, and these may stand for others again,
perhaps in a circle.  Four redirects in a row are followed, the fifth is an error.  That error is
the only one of its kind that is not passed over on the way back, so that nothing hides it.

* `ComesTo` — what a part comes to, described by a count of the redirects so far, which goes up and
  bounds nothing by itself.
* **`comesTo_iff`** — every part comes to exactly one outcome in this sense, so resolution ends.
* `RedirectRun` — redirects in a row, each attached to the one before.
* `exists_run_of_redirectDepth`, `RedirectRun.length_le` — an error about depth exhibits a run that
  is too long, and there is none from a part that resolves.
* **`resolvePart_bounded`** — the main statement.
-/

namespace Hookup

namespace Resolver

variable {r : Resolver} {pol : PolSelection} {hint : Option String} {key next : PartKey}
  {part : Part} {depth allowed : Nat} {outcome : Except Error (Option Entry)}
  {found : Option Entry} {e : Error} {run : List PartKey}

/-! ## Resolution ends -/

/-- What resolving a part comes to after a number of redirects.  Each redirect waits for all of its
substitutes, after one redirect more. -/
inductive ComesTo (r : Resolver) (pol : PolSelection) (hint : Option String) :
    Nat → PartKey → Except Error (Option Entry) → Prop
  | missing {depth : Nat} {key : PartKey} (absent : r.active.part? key = none) :
      ComesTo r pol hint depth key (.error (.partNotFound key))
  | unclassified {depth : Nat} {key : PartKey} {part : Part} {e : Error}
      (active : r.active.part? key = some part)
      (refused : r.catalogue.classify part hint = .error e) :
      ComesTo r pol hint depth key (.error e)
  | physical {depth : Nat} {key : PartKey} {part : Part} {hookupType : String}
      (active : r.active.part? key = some part)
      (walked : r.catalogue.classify part hint = .ok (.physical hookupType)) :
      ComesTo r pol hint depth key (some <$> r.resolvePhysical part hookupType pol)
  | tooDeep {depth : Nat} {key : PartKey} {part : Part} {hookupType : String} {via : Direction}
      (active : r.active.part? key = some part)
      (redirects : r.catalogue.classify part hint = .ok (.redirect hookupType via))
      (deep : maxRedirectDepth ≤ depth) :
      ComesTo r pol hint depth key (.error (.redirectDepth part.key))
  | redirect {depth : Nat} {key : PartKey} {part : Part} {hookupType : String} {via : Direction}
      {resolve : PartKey → Except Error (Option Entry)}
      (active : r.active.part? key = some part)
      (redirects : r.catalogue.classify part hint = .ok (.redirect hookupType via))
      (shallow : depth < maxRedirectDepth)
      (onward : ∀ substitute ∈ r.active.wiring.neighbours part.key via,
        ComesTo r pol hint (depth + 1) substitute (resolve substitute)) :
      ComesTo r pol hint depth key
        (mergeSubstitutes part (r.active.wiring.neighbours part.key via) resolve)

/-- Substitutes that resolve alike are merged alike. -/
lemma mergeSubstitutes_congr_mem {substitutes : List PartKey}
    {f g : PartKey → Except Error (Option Entry)} (h : ∀ s ∈ substitutes, f s = g s) :
    mergeSubstitutes part substitutes f = mergeSubstitutes part substitutes g := by
  rw [mergeSubstitutes, mergeSubstitutes]
  congr 1
  exact Outcome.mapM_congr fun s hs => by rw [h s hs]

/-- What a part comes to is what is found when the redirects that are left are counted down. -/
lemma eq_resolveWithin_of_comesTo (h : r.ComesTo pol hint depth key outcome) :
    outcome = r.resolveWithin pol hint (maxRedirectDepth - depth) key := by
  induction h with
  | missing absent =>
      rw [resolveWithin, absent]
      rfl
  | unclassified active refused =>
      rw [resolveWithin, active]
      simp only [refused]
      rfl
  | physical active walked => exact (resolveWithin_of_physical active walked).symm
  | tooDeep active redirects deep =>
      rw [Nat.sub_eq_zero_of_le deep]
      exact (resolveWithin_of_redirect active redirects 0).1.symm
  | @redirect depth key part hookupType via resolve active redirects shallow onward ih =>
      obtain ⟨n, hn⟩ : ∃ n, maxRedirectDepth - depth = n + 1 := ⟨maxRedirectDepth - depth - 1, by omega⟩
      rw [hn, (resolveWithin_of_redirect active redirects n).2]
      refine mergeSubstitutes_congr_mem fun s hs => ?_
      rw [ih s hs]
      congr 1
      omega

/-- Whatever the redirects so far, a part comes to something. -/
lemma comesTo_resolveWithin (r : Resolver) (pol : PolSelection) (hint : Option String)
    (depth : Nat) (key : PartKey) :
    r.ComesTo pol hint depth key (r.resolveWithin pol hint (maxRedirectDepth - depth) key) := by
  -- on the redirects that are left
  induction hleft : maxRedirectDepth - depth using Nat.strongRecOn generalizing depth key with
  | ind left ih =>
      rcases r.resolveWithin_cases pol hint left key with ⟨habsent, hrun⟩ | ⟨part, hpart,
        ⟨e, hrole, hrun⟩ | ⟨_, hrole, hrun⟩ | ⟨_, via, hrole, ⟨hzero, hrun⟩ | ⟨n, hn, hrun⟩⟩⟩
      · exact hrun ▸ .missing habsent
      · exact hrun ▸ .unclassified hpart hrole
      · exact hrun ▸ .physical hpart hrole
      · exact hrun ▸ .tooDeep hpart hrole (by omega)
      · have hshallow : depth < maxRedirectDepth := by omega
        rw [hrun]
        exact .redirect hpart hrole hshallow fun s _ => ih n (by omega) (depth + 1) s (by omega)

/-- **Resolution ends**, in redirect loops too: every part comes to exactly one outcome, the one
that is found when the redirects that are left are counted down. -/
theorem comesTo_iff : r.ComesTo pol hint depth key outcome ↔
    outcome = r.resolveWithin pol hint (maxRedirectDepth - depth) key := by
  refine ⟨eq_resolveWithin_of_comesTo, fun h => ?_⟩
  rw [h]
  exact comesTo_resolveWithin r pol hint depth key

/-! ## Redirects in a row -/

/-- Active parts in a row that only stand for others, each attached to the one before it on the side
on which that one's substitutes are. -/
inductive RedirectRun (r : Resolver) (hint : Option String) : List PartKey → Prop
  | last {key : PartKey} {part : Part} {hookupType : String} {via : Direction}
      (active : r.active.part? key = some part)
      (redirects : r.catalogue.classify part hint = .ok (.redirect hookupType via)) :
      RedirectRun r hint [key]
  | onward {key next : PartKey} {rest : List PartKey} {part : Part} {hookupType : String}
      {via : Direction} (active : r.active.part? key = some part)
      (redirects : r.catalogue.classify part hint = .ok (.redirect hookupType via))
      (attached : next ∈ r.active.wiring.neighbours key via)
      (run : RedirectRun r hint (next :: rest)) : RedirectRun r hint (key :: next :: rest)

lemma RedirectRun.exists_redirect {rest : List PartKey} (h : r.RedirectRun hint (key :: rest)) :
    ∃ part hookupType via, r.active.part? key = some part ∧
      r.catalogue.classify part hint = .ok (.redirect hookupType via) := by
  cases h with
  | last active redirects => exact ⟨_, _, _, active, redirects⟩
  | onward active redirects _ _ => exact ⟨_, _, _, active, redirects⟩

/-- The errors of a part that is walked from are not about the depth of redirects. -/
lemma resolvePhysical_ne_redirectDepth (hr : r.active.Built) {hookupType : String} {p : PartKey} :
    r.resolvePhysical part hookupType pol ≠ .error (.redirectDepth p) := by
  intro h
  rcases resolvePhysical_eq_error h with h | ⟨t, label, port, h⟩
  · cases h
  · cases Terrain.isLookup_of_follow_eq_error (w := r.terrain t) hr h

/-- **An error about depth exhibits redirects in a row**, one more than are allowed, of which the
last is the one that the error names. -/
theorem exists_run_of_redirectDepth (hr : r.active.Built) {p : PartKey}
    (h : r.resolveWithin pol hint allowed key = .error (.redirectDepth p)) :
    ∃ run, r.RedirectRun hint run ∧ run.length = allowed + 1 ∧ run.head? = some key ∧
      run.getLast? = some p := by
  induction allowed using Nat.strongRecOn generalizing key with
  | ind allowed ih =>
      rcases r.resolveWithin_cases pol hint allowed key with ⟨-, hrun⟩ | ⟨part, hpart,
        ⟨e, hrole, hrun⟩ | ⟨_, -, hrun⟩ | ⟨_, via, hrole, ⟨rfl, hrun⟩ | ⟨n, rfl, hrun⟩⟩⟩
      · rw [hrun] at h
        cases h
      · rw [hrun, Except.error.injEq] at h
        rw [h] at hrole
        cases Catalogue.isNaming_of_classify_eq_error hrole
      · rw [hrun, Outcome.map_eq_error] at h
        exact absurd h (resolvePhysical_ne_redirectDepth hr)
      · rw [hrun, Except.error.injEq, Error.redirectDepth.injEq, hr.key_of_part? hpart] at h
        subst h
        exact ⟨[key], .last hpart hrole, rfl, rfl, rfl⟩
      · rw [hrun] at h
        obtain ⟨substitute, hsub, herror⟩ := mergeSubstitutes_eq_error h
        obtain ⟨run, hredirects, hlength, hhead, hlast⟩ :=
          ih n n.lt_succ_self (substituteOutcome_eq_error.1 herror).1
        obtain ⟨rest, rfl⟩ := List.head?_eq_some_iff.1 hhead
        rw [hr.key_of_part? hpart] at hsub
        refine ⟨key :: substitute :: rest, .onward hpart hrole hsub hredirects, ?_, rfl, ?_⟩
        · rw [List.length_cons, hlength]
        · rwa [List.getLast?_cons_cons]

/-- A redirect does not fail with an error that is passed over. -/
lemma isPassedOver_of_redirect {hookupType : String} {via : Direction}
    (hpart : r.active.part? key = some part)
    (hrole : r.catalogue.classify part hint = .ok (.redirect hookupType via))
    (h : r.resolveWithin pol hint allowed key = .error e) : e.isPassedOver = false := by
  cases allowed with
  | zero =>
      rw [(resolveWithin_of_redirect hpart hrole 0).1, Except.error.injEq] at h
      rw [← h]
      rfl
  | succ n =>
      rw [(resolveWithin_of_redirect hpart hrole n).2] at h
      obtain ⟨_, -, herror⟩ := mergeSubstitutes_eq_error h
      exact (substituteOutcome_eq_error.1 herror).2

/-- A redirect that resolves has merged its substitutes, with one redirect less allowed. -/
lemma exists_merged_of_redirect {hookupType : String} {via : Direction}
    (hpart : r.active.part? key = some part)
    (hrole : r.catalogue.classify part hint = .ok (.redirect hookupType via))
    (h : r.resolveWithin pol hint allowed key = .ok found) : ∃ n, allowed = n + 1 ∧
      mergeSubstitutes part (r.active.wiring.neighbours part.key via)
        (r.resolveWithin pol hint n) = .ok found := by
  cases allowed with
  | zero =>
      rw [(resolveWithin_of_redirect hpart hrole 0).1] at h
      cases h
  | succ n => exact ⟨n, rfl, (resolveWithin_of_redirect hpart hrole n).2 ▸ h⟩

/-- **From a part that resolves there are no more redirects in a row than are allowed.**  No branch
hides them, as a redirect that fails is never passed over. -/
theorem RedirectRun.length_le (hr : r.active.Built) (hrun : r.RedirectRun hint run) :
    ∀ key allowed found, run.head? = some key →
      r.resolveWithin pol hint allowed key = .ok found → run.length ≤ allowed := by
  induction hrun with
  | last active redirects =>
      rintro key allowed found ⟨⟩ h
      obtain ⟨n, rfl, -⟩ := exists_merged_of_redirect active redirects h
      exact Nat.succ_le_succ n.zero_le
  | @onward key next rest part hookupType via active redirects attached onward ih =>
      rintro _ allowed found ⟨⟩ h
      obtain ⟨n, rfl, hmerged⟩ := exists_merged_of_redirect active redirects h
      rw [hr.key_of_part? active] at hmerged
      obtain ⟨_, _, _, hnext, hrole⟩ := onward.exists_redirect
      rcases resolve_of_mergeSubstitutes hmerged attached with ⟨found', hok⟩ | ⟨e, herror, hpassed⟩
      · exact Nat.succ_le_succ (ih next n found' rfl hok)
      · rw [isPassedOver_of_redirect hnext hrole herror] at hpassed
        cases hpassed

/-! ## The main statement -/

/-- **Redirects are followed to a fixed depth, exactly.**  On a set made from records, redirect
loops included, resolving a part ends: it comes to one outcome.  If this is an error about the depth
of redirects, there are five active parts in a row that only stand for others, from the part that
was asked for to the one that the error names, each attached to the one before it on the side on
which that one's substitutes are.  If the part resolves, with an entry or without, there are no five
such parts. -/
theorem resolvePart_bounded {instant : GpsTime} {records : Records} {s : ActiveSet}
    (hs : ActiveSet.ofRecords instant records = .ok s) (catalogue : Catalogue) (strict : Bool)
    (key : PartKey) (pol : PolSelection) (hint : Option String) :
    (∀ outcome, (⟨catalogue, s, strict⟩ : Resolver).ComesTo pol hint 0 key outcome ↔
      outcome = (⟨catalogue, s, strict⟩ : Resolver).resolvePart key pol hint) ∧
    (∀ last, (⟨catalogue, s, strict⟩ : Resolver).resolvePart key pol hint =
        .error (.redirectDepth last) →
      ∃ run, (⟨catalogue, s, strict⟩ : Resolver).RedirectRun hint run ∧ run.length = 5 ∧
        run.head? = some key ∧ run.getLast? = some last) ∧
    ∀ found, (⟨catalogue, s, strict⟩ : Resolver).resolvePart key pol hint = .ok found →
      ¬ ∃ run, (⟨catalogue, s, strict⟩ : Resolver).RedirectRun hint run ∧ run.length = 5 ∧
        run.head? = some key := by
  have hbuilt : s.Built := ⟨instant, records, hs⟩
  refine ⟨fun outcome => comesTo_iff, fun last h => ?_, fun found h => ?_⟩
  · exact exists_run_of_redirectDepth (r := ⟨catalogue, s, strict⟩) hbuilt h
  · rintro ⟨run, hrun, hlength, hhead⟩
    have hle := hrun.length_le hbuilt key maxRedirectDepth found hhead h
    rw [hlength] at hle
    exact absurd hle (by decide)

end Resolver

/-- Four aliases in a row that end at a dish, and two that stand for each other. -/
def Records.aliases : Records where
  parts := [⟨"X1", "A", "alias", none, default⟩, ⟨"X2", "A", "alias", none, default⟩,
    ⟨"X3", "A", "alias", none, default⟩, ⟨"X4", "A", "alias", none, default⟩,
    ⟨"D", "A", "dish", none, default⟩, ⟨"Y1", "A", "alias", none, default⟩,
    ⟨"Y2", "A", "alias", none, default⟩]
  connections := [
    ⟨⟨"X1", "A", "out"⟩, ⟨"X2", "A", "in"⟩, default⟩,
    ⟨⟨"X2", "A", "out"⟩, ⟨"X3", "A", "in"⟩, default⟩,
    ⟨⟨"X3", "A", "out"⟩, ⟨"X4", "A", "in"⟩, default⟩,
    ⟨⟨"X4", "A", "out"⟩, ⟨"D", "A", "in"⟩, default⟩,
    ⟨⟨"Y1", "A", "out"⟩, ⟨"Y2", "A", "in"⟩, default⟩,
    ⟨⟨"Y2", "A", "out"⟩, ⟨"Y1", "A", "in"⟩, default⟩]
  notes := []
  statuses := []
  locations := []

/-- The kind of signal path that they are in: aliases stand for what is attached to them below. -/
def Topology.aliases : Topology where
  polarizations := ["e"]
  partTypes := [⟨"alias", ["in"], ["out"]⟩, ⟨"dish", ["in"], []⟩]
  redirects := .ofList [("alias", .down)]
  singlePol := .empty
  completePaths := []

/-- The catalogue of this topology alone. -/
def Catalogue.aliases : Catalogue := ⟨[], .ofList [("aliases", .aliases)]⟩

namespace Resolver

/-- Two aliases that stand for each other make five in a row; four that end at a dish are followed
to it. -/
theorem resolvePart_bounded_aliases : ∃ s, ActiveSet.ofRecords ⟨10⟩ .aliases = .ok s ∧
    (⟨.aliases, s, true⟩ : Resolver).resolvePart ⟨"Y1:A"⟩ .all none =
      .error (.redirectDepth ⟨"Y1:A"⟩) ∧
    (∃ run, (⟨.aliases, s, true⟩ : Resolver).RedirectRun none run ∧ run.length = 5 ∧
      run.head? = some ⟨"Y1:A"⟩ ∧ run.getLast? = some ⟨"Y1:A"⟩) ∧
    ∃ entry, (⟨.aliases, s, true⟩ : Resolver).resolvePart ⟨"X1:A"⟩ .all none = .ok (some entry) ∧
      ¬ ∃ run, (⟨.aliases, s, true⟩ : Resolver).RedirectRun none run ∧ run.length = 5 ∧
        run.head? = some ⟨"X1:A"⟩ := by
  have hset : (ActiveSet.ofRecords ⟨10⟩ .aliases).toOption.any (fun s =>
      decide ((⟨.aliases, s, true⟩ : Resolver).resolvePart ⟨"Y1:A"⟩ .all none =
        .error (.redirectDepth ⟨"Y1:A"⟩)) &&
      ((⟨.aliases, s, true⟩ : Resolver).resolvePart ⟨"X1:A"⟩ .all none).toOption.any
        Option.isSome) = true := by
    decide +kernel
  obtain ⟨s, hs, htest⟩ := Outcome.exists_of_any hset
  rw [Bool.and_eq_true, decide_eq_true_eq] at htest
  obtain ⟨hloop, hrow⟩ := htest
  obtain ⟨found, hfound, hsome⟩ := Outcome.exists_of_any hrow
  obtain ⟨entry, rfl⟩ := Option.isSome_iff_exists.1 hsome
  obtain ⟨-, hdeep, -⟩ := resolvePart_bounded hs .aliases true ⟨"Y1:A"⟩ .all none
  obtain ⟨-, -, hbounded⟩ := resolvePart_bounded hs .aliases true ⟨"X1:A"⟩ .all none
  exact ⟨s, hs, hloop, hdeep _ hloop, entry, hfound, hbounded _ hfound⟩

end Resolver

end Hookup
