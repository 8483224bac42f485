import Hookup.Catalogue

/-!
# The topologies of the HERA array

The catalogue that is used where no topology file is configured: the signal path of HERA itself,
with nodes that stand for the boards in them, that of PAPER before it, that of the interference
monitors, and a topology of one type for tests.
-/

namespace Hookup.Catalogue

/-- The two polarizations, east and north. -/
def eastNorth : List String := ["e", "n"]

/-- The part types with which every signal path begins. -/
def dishTypes : List PartType := [
  ⟨"station", [], ["ground"]⟩,
  ⟨"antenna", ["ground"], ["focus"]⟩,
  ⟨"feed", ["input"], ["terminals"]⟩]

/-- The signal path of HERA. -/
def heraTopology : Topology where
  polarizations := eastNorth
  partTypes := dishTypes ++ [
    ⟨"front-end", ["input"], ["e", "n"]⟩,
    ⟨"cable-rfof", ["e", "n"], ["e", "n"]⟩,
    ⟨"post-amp", ["e", "n"], ["e", "n"]⟩,
    ⟨"snap", ["e2", "n0", "e6", "n4", "e10", "n8"], ["rack"]⟩,
    ⟨"node", ["loc0", "loc1", "loc2", "loc3"], []⟩]
  redirects := .ofList [("node", .up)]
  singlePol := .empty
  completePaths := []

/-- The signal path of PAPER, of which some cables carry one polarization each. -/
def paperTopology : Topology where
  polarizations := eastNorth
  partTypes := dishTypes ++ [
    ⟨"front-end", ["input"], ["e", "n"]⟩,
    ⟨"cable-feed75", ["e", "n"], ["ea", "na"]⟩,
    ⟨"cable-post-amp(in)", ["a"], ["b"]⟩,
    ⟨"post-amp", ["ea", "na"], ["eb", "nb"]⟩,
    ⟨"cable-post-amp(out)", ["a"], ["b"]⟩,
    ⟨"cable-receiverator", ["a"], ["b"]⟩,
    ⟨"cable-container", ["ea", "na"], ["eb", "nb"]⟩,
    ⟨"f-engine", ["input"], []⟩]
  redirects := .empty
  singlePol := .ofList [("cable-post-amp(in)", ()), ("cable-post-amp(out)", ()),
    ("cable-receiverator", ())]
  completePaths := []

/-- The signal path of the interference monitors. -/
def rfiTopology : Topology where
  polarizations := eastNorth
  partTypes := dishTypes ++ [
    ⟨"temp-cable", ["ea", "na"], ["e", "n"]⟩,
    ⟨"snap", ["e2", "n0"], ["rack"]⟩,
    ⟨"node", ["loc1"], []⟩]
  redirects := .empty
  singlePol := .empty
  completePaths := []

/-- A topology of one part type without ports. -/
def testTopology : Topology where
  polarizations := eastNorth
  partTypes := [⟨"vapor", [], []⟩]
  redirects := .empty
  singlePol := .empty
  completePaths := []

/-- The topologies of the HERA array. -/
def hera : Catalogue where
  checkingOrder := ["parts_hera", "parts_paper", "parts_rfi", "parts_test"]
  topologies := .ofList [("parts_hera", heraTopology), ("parts_paper", paperTopology),
    ("parts_rfi", rfiTopology), ("parts_test", testTopology)]

end Hookup.Catalogue
