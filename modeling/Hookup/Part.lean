import Hookup.Text.Case
import Hookup.Time.Gps

/-!
# Parts

A part is a piece of hardware, physical or logical, with a hardware part number (HPN), a revision
and a type.  `PartKey` is the canonical name `HPN:REV` by which everything else refers to it.

A key is compared as text and nothing but text: a part number may itself contain colons, in which
case `PartKey.split` takes the last one for the separator.
-/

namespace Hookup

/-! ## Keys -/

/-- The name of a part, `HPN:REV`. -/
structure PartKey where
  text : String
deriving DecidableEq

namespace PartKey

instance : Inhabited PartKey := ⟨⟨""⟩⟩

instance : Ord PartKey := ⟨fun a b => compare a.text b.text⟩

instance : Std.TransOrd PartKey where
  eq_swap {a b} := Std.OrientedOrd.eq_swap (a := a.text) (b := b.text)
  isLE_trans {a b c} := Std.TransOrd.isLE_trans (a := a.text) (b := b.text) (c := c.text)

instance : Std.LawfulEqOrd PartKey where
  compare_self {a} := show compare a.text a.text = .eq by simp
  eq_of_compare {a b} h := by
    have h : compare a.text b.text = .eq := h
    have : a.text = b.text := by simpa using h
    cases a
    cases b
    simp_all

/-- The key of a part number and a revision in any spelling. -/
def ofNames (hpn rev : String) : PartKey := ⟨canonicalName hpn ++ ":" ++ canonicalName rev⟩

/-- Part number and revision: what stands before and after the last colon. -/
def split (key : PartKey) : String × String := (Text.splitLast ':' key.text).getD (key.text, "")

/-- The part number. -/
def hpn (key : PartKey) : String := key.split.1

end PartKey

/-! ## Records -/

/-- A piece of hardware and the time it is in service. -/
structure Part where
  hpn : String
  rev : String
  partType : String
  manufacturerNumber : Option String
  life : Lifetime
deriving DecidableEq, Inhabited

namespace Part

/-- The name of the part. -/
def key (part : Part) : PartKey := .ofNames part.hpn part.rev

/-- Whether the part is in service. -/
def isActive (part : Part) (t : GpsTime) : Bool := part.life.contains t

/-- The part with its number and revision in canonical form. -/
def canonical (part : Part) : Part :=
  { part with hpn := canonicalName part.hpn, rev := canonicalName part.rev }

end Part

end Hookup
