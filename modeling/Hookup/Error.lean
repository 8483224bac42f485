import Hookup.Connection
import Hookup.Text.Quoted

/-!
# What can go wrong

Errors are causes: each carries the records and names it is about, and `Error.message` words it.
Some void the hookup of one part only (`Error.isPerPart`); a batch leaves such a part out and goes
on.
-/

namespace Hookup

/-- Why a store refuses an operation. -/
inductive StoreError where
  /-- A record with the same primary key is there, or the record lacks a value. -/
  | keyTaken
  | duplicatePart (part : PartKey)
  /-- There is no record to stop. -/
  | notFound (label : String)
  | refused (operation : String)
deriving DecidableEq

/-- The wording of a store error. -/
def StoreError.message : StoreError → String
  | keyTaken => "database error: a record with this key exists"
  | duplicatePart part => "part already exists: " ++ part.text
  | notFound label => "not found: " ++ label
  | refused operation => "refused " ++ operation

/-- The layout version that cache files are written in. -/
def cacheFormatVersion : UInt32 := 1

/-- What is wrong with a cache file. -/
inductive CacheFault where
  | malformed
  | noVersion
  | otherVersion (version : UInt32)
deriving DecidableEq

/-- The wording of a fault in a cache file. -/
def CacheFault.message : CacheFault → String
  | malformed => "json"
  | noVersion => "no format version"
  | otherVersion version =>
    "format version " ++ toString version.toNat ++ ", expected " ++
      toString cacheFormatVersion.toNat

/-- Why a question about hookups has no answer. -/
inductive Error where
  /-- Two active connections claim one port of one part, on the same side. -/
  | duplicateConnection (part : PartKey) (port : String) (side : Direction)
      (existing duplicate : Connection)
  | noTopology
  | unknownHookupType (name : String)
  /-- No topology defines the type of the part. -/
  | unknownPartType (part : PartKey) (partType : String)
  | partNotFound (part : PartKey)
  | ambiguousPort (part : PartKey) (pol : String) (direction : Direction)
      (candidates : List String)
  | topologyCycle (part : PartKey) (port : String) (direction : Direction)
  | redirectDepth (part : PartKey)
  | cacheFormat (path : String) (fault : CacheFault)
  | invalidTime (text : String)
  /-- A file cannot be read or written. -/
  | io
  | store (error : StoreError)
deriving DecidableEq

namespace Error

/-- The wording of an error. -/
def message : Error → String
  | duplicateConnection part port side existing duplicate =>
    "duplicate active connection on " ++ side.text ++ " port " ++ Text.quoted port ++ " of " ++
      part.text ++ ": " ++ existing.text ++ " and " ++ duplicate.text
  | noTopology => "no system topology configured"
  | unknownHookupType name => "unknown hookup type: " ++ Text.quoted name
  | unknownPartType part partType =>
    "part type " ++ Text.quoted partType ++ " of " ++ part.text ++
      " is not defined in any topology"
  | partNotFound part => "part not active: " ++ part.text
  | ambiguousPort part pol direction candidates =>
    "ambiguous " ++ pol ++ " port at " ++ part.text ++ " walking " ++ direction.text ++ ": " ++
      Text.quotedList candidates
  | topologyCycle part port direction =>
    "cycle detected in signal path at " ++ part.text ++ " port " ++ Text.quoted port ++
      " walking " ++ direction.text
  | redirectDepth part => "redirect chain too deep at " ++ part.text
  | cacheFormat path fault => "cache format error: " ++ path ++ ": " ++ fault.message
  | invalidTime text => "invalid time " ++ Text.quoted text
  | io => "io error"
  | store error => "store error: " ++ error.message

/-- Whether an error voids the hookup of one part only. -/
def isPerPart : Error → Bool
  | unknownPartType .. | partNotFound .. | redirectDepth .. => true
  | _ => false

end Error

end Hookup
