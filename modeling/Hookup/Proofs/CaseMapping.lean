import Hookup.Text.Case
import Mathlib.Data.List.Basic
import Mathlib.Tactic.Lemma

/-!
# Case mappings are settled

A character that a case mapping has produced is mapped no further, and it is not white space.  Both
hold of upper and of lower case, and both rest on the case tables.

The tables hold runs of code points, so the check is made on runs as well.  A `Stretch` is a run of
images; `Stretch.isSettled` tests it against everything that the mapping changes.  A `Casing` is a
mapping of single characters, and `Casing.Settles` is what is computed of it, for `upper_settles`
and `lower_settles`.  The rest carries it from code points to characters
(**`Casing.image_cases`**).
-/

namespace Hookup

namespace Text

/-! ## Stretches of code points -/

/-- Code points from `first` to `last`; if `alternate`, only those at an even distance from
`first`. -/
structure Stretch where
  first : Nat
  last : Nat
  alternate : Bool

namespace Stretch

/-- Whether a code point belongs to the stretch. -/
def Has (s : Stretch) (code : Nat) : Prop :=
  s.first ≤ code ∧ code ≤ s.last ∧ (s.alternate = true → (code - s.first) % 2 = 0)

/-- Whether the stretch lies on one side of a range. -/
def isOutside (s : Stretch) (low high : Nat) : Bool :=
  Nat.ble (s.last + 1) low || Nat.ble (high + 1) s.first

/-- Whether no code point of the stretch belongs to a run: one lies beside the other, or they take
turns. -/
def avoids (s : Stretch) (run : CaseRun) : Bool :=
  s.isOutside run.first run.last ||
    (s.alternate && Nat.beq run.step 2 && Nat.beq ((s.first + run.first) % 2) 1)

/-- Whether all numbers of the stretch are code points of characters. -/
def isValid (s : Stretch) : Bool := Nat.ble (s.last + 1) 0xd800 ||
  (Nat.ble 0xe000 s.first && Nat.ble (s.last + 1) 0x110000)

/-- Whether a case mapping changes no character of the stretch, and none is white space. -/
def isSettled (expansions : List (Nat × List Nat)) (runs : List CaseRun) (s : Stretch) : Bool :=
  s.isValid && expansions.all (fun e => s.isOutside e.1 e.1) && runs.all s.avoids &&
    whiteSpaceCodes.all (fun range => s.isOutside range.1 range.2)

lemma not_mem_range {s : Stretch} {low high code : Nat} (h : s.isOutside low high = true)
    (hc : s.Has code) : ¬ (low ≤ code ∧ code ≤ high) := by
  simp only [isOutside, Bool.or_eq_true, Nat.ble_eq] at h
  obtain ⟨hlow, hhigh, -⟩ := hc
  omega

lemma image?_eq_none {s : Stretch} {run : CaseRun} {code : Nat} (h : s.avoids run = true)
    (hc : s.Has code) : run.image? code = none := by
  rw [CaseRun.image?, if_neg]
  rintro ⟨hfirst, hlast, hstep⟩
  simp only [avoids, Bool.or_eq_true, Bool.and_eq_true, Nat.beq_eq] at h
  rcases h with h | ⟨⟨halt, htwo⟩, hodd⟩
  · exact not_mem_range h hc ⟨hfirst, hlast⟩
  · obtain ⟨hlow, -, heven⟩ := hc
    have heven := heven halt
    rw [htwo] at hstep
    omega

lemma toNat_ofNat {s : Stretch} {code : Nat} (h : s.isValid = true) (hc : s.Has code) :
    (Char.ofNat code).toNat = code := by
  simp only [isValid, Bool.or_eq_true, Bool.and_eq_true, Nat.ble_eq] at h
  obtain ⟨hlow, hhigh, -⟩ := hc
  have hvalid : code.isValidChar := by
    rcases h with h | h
    · exact .inl (by omega)
    · exact .inr ⟨by omega, by omega⟩
  rw [Char.ofNat, dif_pos hvalid]
  rfl

end Stretch

/-! ## What a case mapping produces -/

/-- The stretch of the images of a run. -/
def CaseRun.images (run : CaseRun) : Stretch :=
  ⟨run.target, run.target + (run.last - run.first), run.step == 2 || run.first == run.last⟩

/-- All images of a case mapping, as stretches. -/
def imageStretches (expansions : List (Nat × List Nat)) (runs : List CaseRun) : List Stretch :=
  expansions.flatMap (fun e => e.2.map fun code => ⟨code, code, true⟩) ++ runs.map CaseRun.images

lemma CaseRun.has_images {run : CaseRun} {code image : Nat} (h : run.image? code = some image) :
    run.images.Has image := by
  simp only [CaseRun.image?, Option.ite_none_right_eq_some, Option.some.injEq] at h
  obtain ⟨⟨hfirst, hlast, hstep⟩, rfl⟩ := h
  refine ⟨by simp only [images]; omega, by simp only [images]; omega, fun halt => ?_⟩
  simp only [images, Bool.or_eq_true, beq_iff_eq] at halt ⊢
  rcases halt with halt | halt
  · rw [halt] at hstep
    omega
  · omega

/-- A mapped character stays as it is, or its images are those of the tables. -/
lemma mapCase_cases {expansions : List (Nat × List Nat)} (runs : List CaseRun)
    (hne : ∀ e ∈ expansions, e.2 ≠ []) (c : Char) :
    mapCase expansions runs c = [c] ∨
      ∃ codes : List Nat, mapCase expansions runs c = codes.map Char.ofNat ∧ codes ≠ [] ∧
        ∀ code ∈ codes, ∃ s ∈ imageStretches expansions runs, s.Has code := by
  rw [mapCase]
  split
  next codes hcodes =>
    have hmem : (c.toNat, codes) ∈ expansions := by
      obtain ⟨before, after, hsplit, -⟩ := List.lookup_eq_some_iff.1 hcodes
      simp [hsplit]
    refine .inr ⟨codes, rfl, hne _ hmem, fun code hcode => ⟨⟨code, code, true⟩, ?_, ?_⟩⟩
    · exact List.mem_append_left _ (List.mem_flatMap.2 ⟨_, hmem, List.mem_map.2 ⟨code, hcode, rfl⟩⟩)
    · exact ⟨Nat.le_refl _, Nat.le_refl _, fun _ => by simp⟩
  next =>
    split
    next image himage =>
      obtain ⟨run, hrun, himage⟩ := List.exists_of_findSome?_eq_some himage
      refine .inr ⟨[image], rfl, by simp, fun code hcode => ⟨run.images, ?_, ?_⟩⟩
      · exact List.mem_append_right _ (List.mem_map_of_mem hrun)
      · rw [List.mem_singleton.1 hcode]
        exact CaseRun.has_images himage
    next => exact .inl rfl

/-- A case mapping keeps every character of a settled stretch. -/
lemma Stretch.mapCase_eq_self {expansions : List (Nat × List Nat)} {runs : List CaseRun}
    {s : Stretch} {c : Char} (h : s.isSettled expansions runs = true) (hc : s.Has c.toNat) :
    mapCase expansions runs c = [c] := by
  simp only [isSettled, Bool.and_eq_true, List.all_eq_true] at h
  obtain ⟨⟨⟨-, hexpansions⟩, hruns⟩, -⟩ := h
  have hlookup : expansions.lookup c.toNat = none := by
    refine List.lookup_eq_none_iff.2 fun e he => ?_
    have hne := not_mem_range (hexpansions e he) hc
    simp only [bne_iff_ne]
    omega
  have hruns : runs.findSome? (·.image? c.toNat) = none :=
    List.findSome?_eq_none_iff.2 fun run hrun => image?_eq_none (hruns run hrun) hc
  simp only [mapCase, hlookup, hruns]

lemma Stretch.not_isWhiteSpace {expansions : List (Nat × List Nat)} {runs : List CaseRun}
    {s : Stretch} {c : Char} (h : s.isSettled expansions runs = true) (hc : s.Has c.toNat) :
    isWhiteSpace c = false := by
  simp only [isSettled, Bool.and_eq_true, List.all_eq_true] at h
  simp only [isWhiteSpace, CodeSet.has, List.any_eq_false, Bool.and_eq_true, decide_eq_true_eq]
  exact fun range hrange => not_mem_range (h.2 range hrange) hc

/-! ## Mappings of single characters -/

/-- A case mapping of single characters: one for ASCII, tables for the others. -/
structure Casing where
  ascii : Char → Char
  /-- The ASCII letters that are changed. -/
  letters : CaseRun
  expansions : List (Nat × List Nat)
  runs : List CaseRun

namespace Casing

/-- What becomes of a character. -/
def image (m : Casing) (c : Char) : List Char :=
  if c.toNat < 0x80 then [m.ascii c] else mapCase m.expansions m.runs c

/-- Upper case, as `upperChar`. -/
def upper : Casing := ⟨Char.toUpper, ⟨0x61, 0x7a, 1, 0x41⟩, upperExpansions, upperRuns⟩

/-- Lower case, as `lowerChar`. -/
def lower : Casing := ⟨Char.toLower, ⟨0x41, 0x5a, 1, 0x61⟩, lowerExpansions, lowerRuns⟩

lemma image_upper : upper.image = upperChar := rfl

lemma image_lower : lower.image = lowerChar := rfl

/-- Whether a character is its own image and is seen. -/
def Keeps (m : Casing) (c : Char) : Prop := m.image c = [c] ∧ isWhiteSpace c = false

/-- Whether no image of a mapping is mapped any further, and none is white space. -/
structure Settles (m : Casing) : Prop where
  stretches : (imageStretches m.expansions m.runs).all
    (Stretch.isSettled m.expansions (m.letters :: m.runs)) = true
  expansions_ne_nil : ∀ e ∈ m.expansions, e.2 ≠ []
  ascii : ∀ code < 0x80, m.ascii (Char.ofNat code) = Char.ofNat code ∨
    (m.ascii (Char.ofNat code)).toNat < 0x80 ∧
      m.ascii (m.ascii (Char.ofNat code)) = m.ascii (Char.ofNat code) ∧
      isWhiteSpace (m.ascii (Char.ofNat code)) = false
  ascii_eq_self : ∀ c, m.letters.image? c.toNat = none → m.ascii c = c

/-- **No upper-case image is mapped any further, and none is white space.** -/
theorem upper_settles : upper.Settles where
  stretches := by decide +kernel
  expansions_ne_nil := by decide
  ascii := by decide +kernel
  ascii_eq_self c h := by
    simp only [upper, CaseRun.image?, Nat.mod_one, and_true, ite_eq_right_iff, reduceCtorEq,
      imp_false] at h
    exact dif_neg fun hc => h hc

/-- **Neither is any lower-case image.** -/
theorem lower_settles : lower.Settles where
  stretches := by decide +kernel
  expansions_ne_nil := by decide
  ascii := by decide +kernel
  ascii_eq_self c h := by
    simp only [lower, CaseRun.image?, Nat.mod_one, and_true, ite_eq_right_iff, reduceCtorEq,
      imp_false] at h
    exact dif_neg fun hc => h hc

namespace Settles

variable {m : Casing}

lemma keeps_of_has (hm : m.Settles) {s : Stretch} {code : Nat}
    (h : s ∈ imageStretches m.expansions m.runs) (hc : s.Has code) : m.Keeps (Char.ofNat code) := by
  have hs := List.all_eq_true.1 hm.stretches s h
  have hvalid : s.isValid = true := by
    simp only [Stretch.isSettled, Bool.and_eq_true] at hs
    exact hs.1.1.1
  rw [← Stretch.toNat_ofNat hvalid hc] at hc
  refine ⟨?_, Stretch.not_isWhiteSpace hs hc⟩
  have hruns : s.isSettled m.expansions m.runs = true := by
    simp only [Stretch.isSettled, List.all_cons, Bool.and_eq_true] at hs ⊢
    exact ⟨⟨hs.1.1, hs.1.2.2⟩, hs.2⟩
  rw [image]
  split_ifs with hascii
  · have hletters : s.avoids m.letters = true := by
      simp only [Stretch.isSettled, List.all_cons, Bool.and_eq_true] at hs
      exact hs.1.2.1
    rw [hm.ascii_eq_self _ (Stretch.image?_eq_none hletters hc)]
  · exact Stretch.mapCase_eq_self hruns hc

/-- **A character is its own image, or its images are settled.** -/
theorem image_cases (hm : m.Settles) (c : Char) :
    m.image c = [c] ∨ m.image c ≠ [] ∧ ∀ d ∈ m.image c, m.Keeps d := by
  rw [image]
  split_ifs with hascii
  · have h := hm.ascii c.toNat hascii
    rw [Char.ofNat_toNat] at h
    rcases h with h | ⟨hlt, hagain, hblank⟩
    · exact .inl (by rw [h])
    · refine .inr ⟨by simp, fun d hd => ?_⟩
      rw [List.mem_singleton.1 hd]
      exact ⟨by rw [image, if_pos hlt, hagain], hblank⟩
  · rcases mapCase_cases m.runs hm.expansions_ne_nil c with h | ⟨codes, h, hne, hcodes⟩
    · exact .inl h
    · refine .inr ⟨by simp [h, hne], fun d hd => ?_⟩
      rw [h] at hd
      obtain ⟨code, hcode, rfl⟩ := List.mem_map.1 hd
      obtain ⟨s, hs, hhas⟩ := hcodes code hcode
      exact hm.keeps_of_has hs hhas

/-- An image is its own image. -/
lemma image_of_mem (hm : m.Settles) {c d : Char} (h : d ∈ m.image c) : m.image d = [d] := by
  rcases hm.image_cases c with hc | ⟨-, hc⟩
  · rw [hc, List.mem_singleton] at h
    rw [h, hc]
  · exact (hc d h).1

lemma image_ne_nil (hm : m.Settles) (c : Char) : m.image c ≠ [] := by
  rcases hm.image_cases c with hc | ⟨hne, -⟩
  · simp [hc]
  · exact hne

/-- A character that is seen has images that are seen. -/
lemma not_isWhiteSpace (hm : m.Settles) {c d : Char} (hc : isWhiteSpace c = false)
    (h : d ∈ m.image c) : isWhiteSpace d = false := by
  rcases hm.image_cases c with hsame | ⟨-, hkeeps⟩
  · rw [hsame, List.mem_singleton] at h
    rw [h, hc]
  · exact (hkeeps d h).2

end Settles

end Casing

end Text

end Hookup
