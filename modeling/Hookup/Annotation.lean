import Hookup.Part

/-!
# Annotations

What is recorded about parts and stations beside the wiring: notes, the declared status of an
antenna, surveyed locations, and the versions that date the changes of the store.
-/

namespace Hookup

/-- A note on a part, from the time it was posted on. -/
structure PartNote where
  hpn : String
  rev : String
  comment : String
  posted : GpsTime
  reference : Option String
deriving DecidableEq, Inhabited

/-- The part that a note is about. -/
def PartNote.key (note : PartNote) : PartKey := .ofNames note.hpn note.rev

/-- The status that operators declare for an antenna, for some time. -/
structure AntennaStatus where
  antenna : String
  status : String
  life : Lifetime
deriving DecidableEq, Inhabited

/-- Whether the status is in force. -/
def AntennaStatus.isActive (status : AntennaStatus) (t : GpsTime) : Bool := status.life.contains t

/-- A surveyed location of a station, from the time it was entered on. -/
structure Location where
  station : String
  kind : String
  datum : String
  tile : String
  northing : Float
  easting : Float
  elevation : Float
  created : GpsTime
deriving Inhabited

/-- A change of the store, with the software revision that made it. -/
structure StoreVersion where
  updated : GpsTime
  gitHash : Option String
deriving DecidableEq, Inhabited

end Hookup
