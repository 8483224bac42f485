import Hookup.Entry
import Hookup.Json.Records

/-!
# Entries in JSON

Entries are what the cache file consists of, so nothing in them is tolerated that is not a field of
theirs.
-/

namespace Hookup

open Json

/-- The fields of a timing, which has no others. -/
def Timing.shape : Shape where
  fields := [("start", .optional), ("stop", .optional)]
  closed := true

/-- A timing as a record. -/
def Timing.toJson (timing : Timing) : Json :=
  .record [("start", .ofOption GpsTime.toJson timing.start),
    ("stop", .ofOption GpsTime.toJson timing.stop)]

/-- Read a timing. -/
def Timing.ofJson? (json : Json) : Option Timing := do
  let [some start, some stop] ← Timing.shape.slots? json | none
  pure ⟨← asOption? GpsTime.ofJson? start, ← asOption? GpsTime.ofJson? stop⟩

/-- The fields of the topology of an entry, which has no others. -/
def EntryTopology.shape : Shape where
  fields := [("hookup_type", .required), ("polarizations", .required)]
  closed := true

/-- The topology of an entry as a record. -/
def EntryTopology.toJson (t : EntryTopology) : Json :=
  .record [("hookup_type", .text t.hookupType), ("polarizations", .ofList .text t.polarizations)]

/-- Read the topology of an entry. -/
def EntryTopology.ofJson? (json : Json) : Option EntryTopology := do
  let [some hookupType, some polarizations] ← EntryTopology.shape.slots? json | none
  pure ⟨← asText? hookupType, ← asList? asText? polarizations⟩

/-- The fields of an entry, which has no others. -/
def Entry.shape : Shape where
  fields := [("entry_key", .required), ("hookup", .required), ("fully_connected", .required),
    ("hookup_type", .required), ("columns", .required), ("timing", .required),
    ("sysdef", .required)]
  closed := true

/-- An entry as a record. -/
def Entry.toJson (e : Entry) : Json :=
  .record [("entry_key", .text e.key), ("hookup", .ofMap (.ofList Connection.toJson) e.chains),
    ("fully_connected", .ofMap .bool e.complete), ("hookup_type", .ofMap .text e.hookupTypes),
    ("columns", .ofMap (.ofList .text) e.columns), ("timing", .ofMap Timing.toJson e.timings),
    ("sysdef", e.topology.toJson)]

/-- Read an entry. -/
def Entry.ofJson? (json : Json) : Option Entry := do
  let [some key, some chains, some complete, some hookupTypes, some columns, some timings,
    some topology] ← Entry.shape.slots? json | none
  pure {
    key := ← asText? key
    chains := ← asMap? (asList? Connection.ofJson?) chains
    complete := ← asMap? asBool? complete
    hookupTypes := ← asMap? asText? hookupTypes
    columns := ← asMap? (asList? asText?) columns
    timings := ← asMap? Timing.ofJson? timings
    topology := ← EntryTopology.ofJson? topology }

/-- A dossier as an object by part key. -/
def Dossier.toJson (dossier : Dossier) : Json := .ofMap Entry.toJson dossier

end Hookup
