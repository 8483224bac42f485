import Hookup.ActiveSet
import Hookup.Entry
import Hookup.Error

/-!
# Hookup caches

A cache keeps the hookups of the stations with certain part numbers, resolved at one instant, so
that later queries need not resolve them again.  It may answer a query if it covers all names that
are asked for (`HookupCache.covers`) and if nothing says that it is out of date
(`HookupCache.staleness?`); the answer is then picked out by `HookupCache.select`.
-/

namespace Hookup

/-- Resolved hookups as of one instant. -/
structure HookupCache where
  formatVersion : UInt32
  /-- The instant the hookups were resolved for. -/
  builtFor : GpsTime
  /-- The hookup type they were resolved under; none if each part chose its own. -/
  hookupType : Option String
  /-- What the part numbers of the cached stations begin with. -/
  stations : List String
  entries : Dossier
  /-- The type of every part in service, by part number. -/
  partTypes : KeyMap String String
deriving DecidableEq

/-- Why a cache must not answer a query. -/
inductive Staleness where
  | fileOlderThanVersion
  | builtBeforeVersion
  | queryBeforeVersion
  | hookupTypeChanged
deriving DecidableEq

/-- The wording of a reason. -/
def Staleness.text : Staleness → String
  | fileOlderThanVersion => "cache file is older than the last store change"
  | builtBeforeVersion => "cache was built before the last store change"
  | queryBeforeVersion => "query time is not after the last store change"
  | hookupTypeChanged => "hookup type differs from the cached one"

namespace HookupCache

/-- Why the cache must not answer a query for an instant and a hookup type, given the last change of
the store and the time of the file.  A store that was never marked as changed makes nothing stale
but a change of the hookup type. -/
def staleness? (cache : HookupCache) (instant : GpsTime) (hookupType : Option String)
    (version : Option StoreVersion) (modified : GpsTime) : Option Staleness :=
  if hookupType ≠ cache.hookupType then some .hookupTypeChanged
  else
    match version with
    | none => none
    | some ⟨changed, _⟩ =>
      if modified < changed then some .fileOlderThanVersion
      else if cache.builtFor < changed then some .builtBeforeVersion
      else if instant ≤ changed then some .queryBeforeVersion
      else none

/-- Whether every name begins like the part number of a cached station. -/
def covers (cache : HookupCache) (names : List String) : Bool :=
  names.all fun name => cache.stations.any fun station =>
    Text.beginsWith (canonicalName name) (canonicalName station)

/-- The cached entries of the parts that match the names, narrowed to a polarization. -/
def select (cache : HookupCache) (names : List String) (exact : Bool) (pol : PolSelection) :
    Dossier :=
  let matching (key : String) : Bool :=
    hpnMatches (names.map canonicalName) exact (PartKey.hpn ⟨key⟩)
  (cache.entries.filter matching).mapValues pol.narrow

end HookupCache

end Hookup
