import Hookup.Catalogue
import Hookup.Walk

/-!
# Resolving hookups

A `Resolver` answers for one active set which hookups a part has.  A physical part is walked from
once per start (`resolvePhysical`).  A part that only stands for others takes its hookup from the
parts attached to it (`mergeSubstitutes`), which may stand for others again, down to a fixed depth.

`Resolver.resolveNames` resolves every matching part.  A part whose type no topology defines, or
whose redirects go too deep, is left out; any other error ends the batch.
-/

namespace Hookup

/-- How many redirects in a row are followed. -/
def maxRedirectDepth : Nat := 4

/-- Resolves hookups against one active set. -/
structure Resolver where
  catalogue : Catalogue
  active : ActiveSet
  /-- Whether a choice between ports that cannot be decided is an error. -/
  strict : Bool

/-- The chain of one start with all that is listed beside it. -/
structure ResolvedChain where
  key : String
  chain : List Connection
  complete : Bool
  columns : List String
deriving DecidableEq

/-- Enter a chain into an entry under a hookup type. -/
def Entry.add (hookupType : String) (e : Entry) (c : ResolvedChain) : Entry :=
  { e with
    chains := e.chains.insert c.key c.chain
    complete := e.complete.insert c.key c.complete
    hookupTypes := e.hookupTypes.insert c.key hookupType
    columns := e.columns.insert c.key c.columns
    timings := e.timings.insert c.key (.ofChain c.chain) }

namespace Resolver

/-- The active set with a topology to walk by. -/
def terrain (r : Resolver) (t : Topology) : Terrain := ⟨r.active, t, r.strict⟩

/-! ## Physical parts -/

/-- The chain of one start. -/
def resolveStart (r : Resolver) (t : Topology) (part : Part) (start : Terrain.Start) :
    Except Error ResolvedChain := do
  let chain ← (r.terrain t).follow start.pol ⟨part, start.port⟩
  let types := (r.terrain t).typesAlong part chain
  let pattern := t.matchingPattern? types
  pure ⟨start.key, chain, pattern.isSome, pattern.getD types⟩

/-- The entry of a part that is walked from. -/
def resolvePhysical (r : Resolver) (part : Part) (hookupType : String) (pol : PolSelection) :
    Except Error Entry := do
  let t ← r.catalogue.topology hookupType
  let pols := t.polarizations.filter pol.selects
  let chains ← ((r.terrain t).starts part pols).mapM (r.resolveStart t part)
  pure (chains.foldl (Entry.add hookupType) (.empty part.key.text ⟨hookupType, pols⟩))

/-! ## Parts that stand for others -/

/-- What becomes of the outcome for one substitute: its entry, nothing, or an error that ends the
resolution.  Redirects that go too deep are never passed over. -/
def substituteOutcome (outcome : Except Error (Option Entry)) : Except Error (Option Entry) :=
  match outcome with
  | .ok entry => pure entry
  | .error (.redirectDepth part) => throw (.redirectDepth part)
  | .error e => if e.isPerPart then pure none else throw e

/-- The hookup key of a chain that came by way of a substitute. -/
def viaKey (substitute : PartKey) (key : String) : String := key ++ "@" ++ substitute.hpn

/-- The entries of several substitutes as one entry of the part that stands for them. -/
def mergeEntries (part : Part) : List Entry → Option Entry
  | [] => none
  | first :: others => some (others.foldl Entry.absorb { first with key := part.key.text })

/-- The entry of a part by way of its substitutes, each resolved by `resolve`.  With several
substitutes, every chain is keyed with the one it came by. -/
def mergeSubstitutes (part : Part) (substitutes : List PartKey)
    (resolve : PartKey → Except Error (Option Entry)) : Except Error (Option Entry) := do
  let found ← substitutes.mapM fun substitute => do
    let entry ← substituteOutcome (resolve substitute)
    pure (entry.map fun e => if 1 < substitutes.length then e.rekey (viaKey substitute) else e)
  pure (mergeEntries part (found.filterMap id))

/-- The parts that a redirect part stands for. -/
def substitutes (r : Resolver) (key : PartKey) : PartRole → List PartKey
  | .physical _ => []
  | .redirect _ via => r.active.wiring.neighbours key via

/-- Resolve a part with so many more redirects allowed. -/
def resolveWithin (r : Resolver) (pol : PolSelection) (hint : Option String) :
    Nat → PartKey → Except Error (Option Entry)
  | allowed, key =>
    match r.active.part? key with
    | none => throw (.partNotFound key)
    | some part => do
      match ← r.catalogue.classify part hint with
      | .physical hookupType => some <$> r.resolvePhysical part hookupType pol
      | .redirect hookupType via =>
        match allowed with
        | 0 => throw (.redirectDepth part.key)
        | allowed + 1 =>
          mergeSubstitutes part (r.substitutes part.key (.redirect hookupType via))
            (resolveWithin r pol hint allowed)

/-- The entry of an active part; nothing for a part that stands for none. -/
def resolvePart (r : Resolver) (key : PartKey) (pol : PolSelection) (hint : Option String) :
    Except Error (Option Entry) :=
  r.resolveWithin pol hint maxRedirectDepth key

/-! ## Batches -/

/-- Resolve one more part of a batch into its dossier. -/
def resolveInto (r : Resolver) (pol : PolSelection) (hint : Option String) (dossier : Dossier)
    (part : Part) : Except Error Dossier :=
  match r.resolvePart part.key pol hint with
  | .ok (some entry) => pure (dossier.insert part.key.text entry)
  | .ok none => pure dossier
  | .error e => if e.isPerPart then pure dossier else throw e

/-- The entries of all active parts that match the names. -/
def resolveNames (r : Resolver) (names : List String) (exact : Bool) (pol : PolSelection)
    (hint : Option String) : Except Error Dossier := do
  r.catalogue.ensureConfigured
  match hint with
  | some hint => let _ ← r.catalogue.topology hint
  | none => pure ()
  (r.active.partsMatching names exact).foldlM (r.resolveInto pol hint) .empty

end Resolver

end Hookup
