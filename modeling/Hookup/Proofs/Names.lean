import Hookup.ActiveSet
import Hookup.Proofs.ActiveSet
import Mathlib.Data.List.TakeDrop

/-!
# Part numbers in keys

A part key is text, and the part number is read off it again wherever only the key is at hand.  That
gives the number back as long as the revision has no colon (`PartKey.hpn_ofNames`), so that matching
names against the keys of parts is the same as matching them against the parts
(**`hpnMatches_key`**).
-/

namespace Hookup

/-! ## Texts -/

namespace Text

lemma beginsWith_iff {s start : String} : beginsWith s start = true ↔ start.toList <+: s.toList :=
  List.isPrefixOf_iff_prefix

lemma beginsWith_trans {s middle start : String} (h : beginsWith s middle = true)
    (h' : beginsWith middle start = true) : beginsWith s start = true :=
  beginsWith_iff.2 ((beginsWith_iff.1 h').trans (beginsWith_iff.1 h))

/-- A text is cut where its last part without separators was added. -/
lemma splitLast_append {separator : Char} (before after : String)
    (h : separator ∉ after.toList) :
    splitLast separator (before ++ String.singleton separator ++ after) = some (before, after) := by
  have hchars : (before ++ String.singleton separator ++ after).toList.reverse =
      after.toList.reverse ++ separator :: before.toList.reverse := by
    simp
  have hspan : (after.toList.reverse ++ separator :: before.toList.reverse).span (· != separator) =
      (after.toList.reverse, separator :: before.toList.reverse) := by
    have hall : ∀ c ∈ after.toList.reverse, (c != separator) = true := by
      intro c hc
      rw [bne_iff_ne]
      rintro rfl
      exact h (List.mem_reverse.1 hc)
    rw [List.span_eq_takeWhile_dropWhile, List.takeWhile_append_of_pos hall,
      List.dropWhile_append_of_pos hall]
    simp
  rw [splitLast, hchars, hspan]
  simp

end Text

/-- The part number of a key is that of the part, unless the revision has a colon. -/
lemma PartKey.hpn_ofNames {hpn rev : String} (h : ':' ∉ (canonicalName rev).toList) :
    (PartKey.ofNames hpn rev).hpn = canonicalName hpn := by
  have hsplit := Text.splitLast_append (canonicalName hpn) (canonicalName rev) h
  rw [PartKey.hpn, PartKey.split, PartKey.ofNames]
  rw [show (":" : String) = String.singleton ':' from rfl, hsplit]
  rfl

/-! ## Matching -/

lemma hpnMatches_canonicalName (names : List String) (exact : Bool) (hpn : String) :
    hpnMatches names exact (canonicalName hpn) = hpnMatches names exact hpn := by
  rw [hpnMatches, hpnMatches, canonicalName_canonicalName]

/-- **A part is matched by its key.** -/
theorem hpnMatches_key {s : ActiveSet} (hs : s.Built) {key : PartKey} {part : Part}
    (hpart : s.part? key = some part) (hrev : ':' ∉ part.rev.toList) (names : List String)
    (exact : Bool) : hpnMatches names exact key.hpn = hpnMatches names exact part.hpn := by
  obtain ⟨p, rfl, hkey⟩ := hs.exists_canonical_of_part? hpart
  have hcanonical : canonicalName p.canonical.rev = p.canonical.rev :=
    canonicalName_canonicalName p.rev
  rw [← hkey, Part.key, PartKey.hpn_ofNames (by rwa [hcanonical]), hpnMatches_canonicalName]

namespace ActiveSet

variable {s : ActiveSet} {names : List String} {exact : Bool} {part : Part}

lemma mem_partsMatching (hs : s.Built) : part ∈ s.partsMatching names exact ↔
    s.part? part.key = some part ∧ hpnMatches (names.map canonicalName) exact part.hpn = true := by
  rw [partsMatching, List.mem_filter, KeyMap.mem_values]
  refine and_congr_left fun _ => ⟨?_, fun h => ⟨_, h⟩⟩
  rintro ⟨key, hkey⟩
  exact hs.part?_key hkey

end ActiveSet

end Hookup
