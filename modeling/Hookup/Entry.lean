import Hookup.Connection
import Hookup.KeyMap

/-!
# Entries

An `Entry` is the resolved hookup of one part.  It has a chain of connections per *hookup key*, and
beside each chain the columns it is listed under, whether it is complete, its hookup type and its
timing.  A hookup key is a polarization, followed by the starting port in angle brackets where a
part has several for that polarization, and by the part it came from where a part stands for
several others.

The five tables are kept side by side because an entry is also read from files, where nothing makes
them agree.
-/

namespace Hookup

/-! ## Timing -/

/-- When a chain is valid as a whole. -/
structure Timing where
  start : Option GpsTime
  stop : Option GpsTime
deriving DecidableEq, Inhabited

namespace Timing

/-- The latest of some instants. -/
def latest? : List GpsTime → Option GpsTime
  | [] => none
  | t :: rest => some (rest.foldl GpsTime.later t)

/-- The earliest of some instants. -/
def earliest? : List GpsTime → Option GpsTime
  | [] => none
  | t :: rest => some (rest.foldl GpsTime.earlier t)

/-- The timing of a chain: the latest start and the earliest stop of its connections. -/
def ofChain (chain : List Connection) : Timing :=
  ⟨latest? (chain.map (·.life.start)), earliest? (chain.filterMap (·.life.stop))⟩

end Timing

/-! ## Hookup keys -/

/-- The polarization if it has a single starting port on the part, else with that port. -/
def hookupKey (pol port : String) (single : Bool) : String :=
  if single then pol else pol ++ "<" ++ port ++ ">"

/-- The polarization that a hookup key begins with. -/
def keyPol (key : String) : String :=
  .ofList (key.toList.takeWhile fun c => c != '<' && c != '@')

/-! ## Entries -/

/-- The topology that an entry was resolved under, with the polarizations that were resolved. -/
structure EntryTopology where
  hookupType : String
  polarizations : List String
deriving DecidableEq, Inhabited

/-- The chains resolved for one part, by hookup key. -/
structure Entry where
  /-- The key of the part that was asked for. -/
  key : String
  /-- Connections in order, the one furthest up first. -/
  chains : KeyMap String (List Connection)
  complete : KeyMap String Bool
  hookupTypes : KeyMap String String
  columns : KeyMap String (List String)
  timings : KeyMap String Timing
  topology : EntryTopology
deriving DecidableEq

namespace Entry

/-- An entry without chains. -/
def empty (key : String) (topology : EntryTopology) : Entry :=
  ⟨key, .empty, .empty, .empty, .empty, .empty, topology⟩

instance : Inhabited Entry := ⟨empty "" default⟩

/-- The hookup keys in order. -/
def keys (e : Entry) : List String := e.chains.keys

/-- The longer of two column lists, the second of two with one length. -/
def wider (a b : List String) : List String := if a.length ≤ b.length then b else a

/-- The columns of the widest chain, which head a listing of all chains. -/
def headers (e : Entry) : List String := e.columns.values.foldl wider []

/-- Whether the chain of a key is complete. -/
def isComplete (e : Entry) (key : String) : Bool := (e.complete.get? key).getD false

/-- Keep the keys that pass a test, in every table. -/
def filterKeys (e : Entry) (keep : String → Bool) : Entry :=
  { e with
    chains := e.chains.filter keep
    complete := e.complete.filter keep
    hookupTypes := e.hookupTypes.filter keep
    columns := e.columns.filter keep
    timings := e.timings.filter keep }

/-- Keep the chains of a polarization. -/
def retainPol (e : Entry) (pol : String) : Entry :=
  e.filterKeys fun key => Text.equalsIgnoringCase (keyPol key) pol

/-- Move every chain to a new key. -/
def rekey (e : Entry) (rename : String → String) : Entry :=
  { e with
    chains := e.chains.rekey rename
    complete := e.complete.rekey rename
    hookupTypes := e.hookupTypes.rekey rename
    columns := e.columns.rekey rename
    timings := e.timings.rekey rename }

/-- Take over the chains of another entry; under a common key its chain stays. -/
def absorb (e other : Entry) : Entry :=
  { e with
    chains := e.chains.union other.chains
    complete := e.complete.union other.complete
    hookupTypes := e.hookupTypes.union other.hookupTypes
    columns := e.columns.union other.columns
    timings := e.timings.union other.timings }

end Entry

/-- Resolved entries by the key of their part. -/
abbrev Dossier := KeyMap String Entry

/-! ## Polarizations asked for -/

/-- Which polarizations to resolve. -/
inductive PolSelection where
  | all
  | only (pol : String)
deriving DecidableEq, Inhabited

namespace PolSelection

/-- Whether a polarization is selected. -/
def selects : PolSelection → String → Bool
  | all, _ => true
  | only wanted, pol => Text.equalsIgnoringCase wanted pol

/-- The selection that a text writes. -/
def ofText (s : String) : PolSelection :=
  let s := canonicalPort s
  if s = "all" then all else only s

/-- The text of a selection. -/
def text : PolSelection → String
  | all => "all"
  | only pol => pol

/-- The entry narrowed to the selection. -/
def narrow : PolSelection → Entry → Entry
  | all, e => e
  | only pol, e => e.retainPol pol

end PolSelection

end Hookup
