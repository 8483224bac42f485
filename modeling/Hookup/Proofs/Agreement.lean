import Hookup.Resolver
import Mathlib.Tactic.Lemma

/-!
# What resolution reads of a set

An active set holds notes, statuses and locations beside its parts and connections, and it knows the
instant that it was built for.  Resolution reads none of that: on sets that agree in their parts and
connections (`Agrees`) it comes to the same outcome, walk by walk (`walkWithin_congr`), part by part
(`resolveWithin_congr`) and name by name (**`resolveNames_congr`**).
-/

namespace Hookup

/-- Whether two sets have the same parts and connections. -/
structure ActiveSet.Agrees (s s' : ActiveSet) : Prop where
  parts : s.parts = s'.parts
  wiring : s.wiring = s'.wiring

lemma ActiveSet.part?_congr {s s' : ActiveSet} (h : s.parts = s'.parts) (key : PartKey) :
    s.part? key = s'.part? key := by
  rw [part?, part?, h]

namespace ActiveSet.Agrees

variable {s s' : ActiveSet}

lemma partsMatching_congr (h : s.Agrees s') (names : List String) (exact : Bool) :
    s.partsMatching names exact = s'.partsMatching names exact := by
  rw [partsMatching, partsMatching, h.parts]

end ActiveSet.Agrees

/-! ## Walks -/

namespace Terrain

variable {s s' : ActiveSet} (t : Topology) (strict : Bool)

lemma nextHop_congr (h : s.Agrees s') (direction : Direction) (pol : String) (stance : Stance) :
    (⟨s, t, strict⟩ : Terrain).nextHop direction pol stance =
      (⟨s', t, strict⟩ : Terrain).nextHop direction pol stance := by
  have hcandidates : (⟨s, t, strict⟩ : Terrain).candidates direction pol stance.part =
      (⟨s', t, strict⟩ : Terrain).candidates direction pol stance.part := by
    simp only [candidates, h.wiring]
  rw [nextHop, nextHop, hcandidates]
  simp only [h.wiring]
  rfl

lemma walkWithin_congr (h : s.Agrees s') (cap : Nat) (direction : Direction) (pol : String)
    (stance : Stance) (left : List (PartKey × String)) :
    (⟨s, t, strict⟩ : Terrain).walkWithin cap direction pol stance left =
      (⟨s', t, strict⟩ : Terrain).walkWithin cap direction pol stance left := by
  induction hn : cap - left.length using Nat.strongRecOn generalizing stance left with
  | ind n ih =>
      rw [walkWithin, walkWithin, nextHop_congr t strict h]
      cases (⟨s', t, strict⟩ : Terrain).nextHop direction pol stance with
      | error e => rfl
      | ok hop =>
          rcases hop with _ | ⟨port, c⟩
          · rfl
          simp only [bind, Except.bind]
          by_cases hstop : cap ≤ left.length ∨ (stance.part.key, port) ∈ left
          · rw [dif_pos hstop, dif_pos hstop]
          rw [dif_neg hstop, dif_neg hstop, ActiveSet.part?_congr h.parts]
          cases s'.part? (c.terminal direction).key with
          | none => rfl
          | some next =>
              have hless : cap - ((stance.part.key, port) :: left).length < n := by
                rw [List.length_cons]
                omega
              simp only [ih _ hless _ _ rfl]

lemma follow_congr (h : s.Agrees s') (pol : String) (stance : Stance) :
    (⟨s, t, strict⟩ : Terrain).follow pol stance =
      (⟨s', t, strict⟩ : Terrain).follow pol stance := by
  simp only [follow, walk, walkWithin_congr t strict h, h.wiring]

lemma starts_congr (h : s.Agrees s') (part : Part) (pols : List String) :
    (⟨s, t, strict⟩ : Terrain).starts part pols =
      (⟨s', t, strict⟩ : Terrain).starts part pols := by
  have hwired : (⟨s, t, strict⟩ : Terrain).isWired part =
      (⟨s', t, strict⟩ : Terrain).isWired part := by
    funext port
    simp only [isWired, h.wiring]
  have hstarts : (⟨s, t, strict⟩ : Terrain).startsFor part =
      (⟨s', t, strict⟩ : Terrain).startsFor part := by
    funext pol
    simp only [startsFor, hwired]
  rw [starts, starts, hstarts]

lemma typesAlong_congr (h : s.parts = s'.parts) (part : Part) (chain : List Connection) :
    (⟨s, t, strict⟩ : Terrain).typesAlong part chain =
      (⟨s', t, strict⟩ : Terrain).typesAlong part chain := by
  simp only [typesAlong, ActiveSet.part?_congr h]

end Terrain

/-! ## Parts and batches -/

namespace Resolver

variable {s s' : ActiveSet} (catalogue : Catalogue) (strict : Bool)

lemma resolvePhysical_congr (h : s.Agrees s') (part : Part) (hookupType : String)
    (pol : PolSelection) :
    (⟨catalogue, s, strict⟩ : Resolver).resolvePhysical part hookupType pol =
      (⟨catalogue, s', strict⟩ : Resolver).resolvePhysical part hookupType pol := by
  have hstart : ∀ t, (⟨catalogue, s, strict⟩ : Resolver).resolveStart t part =
      (⟨catalogue, s', strict⟩ : Resolver).resolveStart t part := by
    intro t
    funext start
    simp only [resolveStart, terrain, Terrain.follow_congr t strict h,
      Terrain.typesAlong_congr t strict h.parts]
  simp only [resolvePhysical, hstart]
  simp only [terrain, Terrain.starts_congr _ strict h]

lemma resolveWithin_congr (h : s.Agrees s') (pol : PolSelection) (hint : Option String)
    (allowed : Nat) (key : PartKey) :
    (⟨catalogue, s, strict⟩ : Resolver).resolveWithin pol hint allowed key =
      (⟨catalogue, s', strict⟩ : Resolver).resolveWithin pol hint allowed key := by
  induction allowed using Nat.strongRecOn generalizing key with
  | ind allowed ih =>
      rw [resolveWithin, resolveWithin]
      simp only [ActiveSet.part?_congr h.parts, resolvePhysical_congr catalogue strict h]
      cases s'.part? key with
      | none => simp only
      | some part =>
          simp only [bind, Except.bind]
          cases catalogue.classify part hint with
          | error e => simp only
          | ok role =>
              cases role with
              | physical hookupType => simp only
              | redirect hookupType via =>
                  cases allowed with
                  | zero => simp only
                  | succ n =>
                      have hbelow := funext fun substitute => ih n n.lt_succ_self substitute
                      simp only [substitutes, hbelow, h.wiring]

theorem resolveNames_congr (h : s.Agrees s') (names : List String) (exact : Bool)
    (pol : PolSelection) (hint : Option String) :
    (⟨catalogue, s, strict⟩ : Resolver).resolveNames names exact pol hint =
      (⟨catalogue, s', strict⟩ : Resolver).resolveNames names exact pol hint := by
  have hinto : (⟨catalogue, s, strict⟩ : Resolver).resolveInto pol hint =
      (⟨catalogue, s', strict⟩ : Resolver).resolveInto pol hint := by
    funext dossier part
    simp only [resolveInto, resolvePart, resolveWithin_congr catalogue strict h]
  simp only [resolveNames, hinto, h.partsMatching_congr]

end Resolver

end Hookup
