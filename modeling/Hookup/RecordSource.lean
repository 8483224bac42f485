import Hookup.ActiveSet

/-!
# Sources of records

Resolution only reads.  `RecordSource` is what it reads from: the records of an instant, the full
history of parts and connections, and the version of the last change.  Any read may fail with an
error of the store behind it.

`ActiveSet.load` reads a whole active set; `QueryContext` is an active set together with the instant
it is used for, which may be a second away from the instant it was built for.
-/

namespace Hookup

/-- The reads that resolution makes. -/
structure RecordSource where
  activeParts : GpsTime → Except StoreError (List Part)
  activeConnections : GpsTime → Except StoreError (List Connection)
  activeNotes : GpsTime → Except StoreError (List PartNote)
  activeStatuses : GpsTime → Except StoreError (List AntennaStatus)
  activeLocations : GpsTime → Except StoreError (List Location)
  latestVersion : Except StoreError (Option StoreVersion)
  listParts : Except StoreError (List Part)
  listConnections : Except StoreError (List Connection)

/-- A read whose failure is an error of the store. -/
def fromStore {α : Type} (read : Except StoreError α) : Except Error α := read.mapError .store

/-- The active set of an instant. -/
def ActiveSet.load (source : RecordSource) (instant : GpsTime) : Except Error ActiveSet := do
  let parts ← fromStore (source.activeParts instant)
  let connections ← fromStore (source.activeConnections instant)
  let notes ← fromStore (source.activeNotes instant)
  let statuses ← fromStore (source.activeStatuses instant)
  let locations ← fromStore (source.activeLocations instant)
  ActiveSet.ofRecords instant ⟨parts, connections, notes, statuses, locations⟩

/-! ## Contexts -/

/-- The distance in seconds up to which one active set serves for another instant. -/
def timeTolerance : Nat := 1

/-- An active set and the instant of the query it is used for. -/
structure QueryContext where
  instant : GpsTime
  active : ActiveSet
  /-- Whether the set was taken over from an earlier context. -/
  shared : Bool

namespace QueryContext

/-- Whether the set of a context serves for an instant. -/
def serves (context : QueryContext) (instant : GpsTime) : Bool :=
  decide (context.active.builtFor.distance instant ≤ timeTolerance)

/-- A context for an instant: with the set of an earlier one if that serves, else with a set that
is loaded for it. -/
def prepare (source : RecordSource) (instant : GpsTime) (previous : Option QueryContext) :
    Except Error QueryContext :=
  match previous.filter (·.serves instant) with
  | some previous => pure ⟨instant, previous.active, true⟩
  | none => do
    let active ← ActiveSet.load source instant
    pure ⟨instant, active, false⟩

end QueryContext

end Hookup
