import Hookup.Catalogue
import Hookup.Json.Records

/-!
# Topologies as records

Topologies are written by hand, so most fields may be left off and unknown ones are ignored.  They
are kept in TOML files as well, and hence read in either dialect.
-/

namespace Hookup

open Json

/-- The fields of a part type. -/
def PartType.shape : Shape where
  fields := [("name", .required), ("up", .defaulted), ("down", .defaulted)]
  closed := false

/-- A part type as a record. -/
def PartType.toJson (type : PartType) : Json :=
  .record [("name", .text type.name), ("up", .ofList .text type.inputs),
    ("down", .ofList .text type.outputs)]

/-- Read a part type. -/
def PartType.read? (dialect : Dialect) (json : Json) : Option PartType := do
  let [some name, inputs, outputs] ← dialect.slots? PartType.shape json | none
  pure ⟨← asText? name, ← slotOr? [] (asList? asText?) inputs,
    ← slotOr? [] (asList? asText?) outputs⟩

/-- Read a part type in JSON. -/
def PartType.ofJson? : Json → Option PartType := read? .json

/-- The fields of a topology. -/
def Topology.shape : Shape where
  fields := [("polarizations", .required), ("part_types", .required),
    ("redirect_part_types", .defaulted), ("single_pol_labeled_parts", .defaulted),
    ("complete_paths", .defaulted)]
  closed := false

/-- A topology as a record. -/
def Topology.toJson (t : Topology) : Json :=
  .record [("polarizations", .ofList .text t.polarizations),
    ("part_types", .ofList PartType.toJson t.partTypes),
    ("redirect_part_types", .ofMap Direction.toJson t.redirects),
    ("single_pol_labeled_parts", .ofSet t.singlePol),
    ("complete_paths", .ofList (.ofList .text) t.completePaths)]

/-- Read a topology. -/
def Topology.read? (dialect : Dialect) (json : Json) : Option Topology := do
  let [some polarizations, some partTypes, redirects, singlePol, completePaths] ←
    dialect.slots? Topology.shape json | none
  pure {
    polarizations := ← asList? asText? polarizations
    partTypes := ← asList? (PartType.read? dialect) partTypes
    redirects := ← slotOr? .empty (asMap? (Direction.read? dialect)) redirects
    singlePol := ← slotOr? .empty asSet? singlePol
    completePaths := ← slotOr? [] (asList? (asList? asText?)) completePaths }

/-- Read a topology in JSON. -/
def Topology.ofJson? : Json → Option Topology := read? .json

/-- The fields of a catalogue. -/
def Catalogue.shape : Shape where
  fields := [("checking_order", .defaulted), ("topologies", .defaulted)]
  closed := false

/-- A catalogue as a record. -/
def Catalogue.toJson (c : Catalogue) : Json :=
  .record [("checking_order", .ofList .text c.checkingOrder),
    ("topologies", .ofMap Topology.toJson c.topologies)]

/-- Read a catalogue. -/
def Catalogue.read? (dialect : Dialect) (json : Json) : Option Catalogue := do
  let [checkingOrder, topologies] ← dialect.slots? Catalogue.shape json | none
  pure ⟨← slotOr? [] (asList? asText?) checkingOrder,
    ← slotOr? .empty (asMap? (Topology.read? dialect)) topologies⟩

/-- Read a catalogue in JSON. -/
def Catalogue.ofJson? : Json → Option Catalogue := read? .json

end Hookup
