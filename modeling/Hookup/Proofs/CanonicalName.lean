import Hookup.Connection
import Hookup.Proofs.CaseMapping

/-!
# Canonical names are settled

Part keys are made from names that may be canonical already: a connection is brought into canonical
form before its part keys are read off, and the part number of an active part is brought into
canonical form again when it is matched.  Nothing of that changes the names.

A text in upper or lower case is a sequence of images, one for each character (`Images`).  What
holds of the images of one character holds of the text: no blanks appear at its ends
(`Images.isBare`), and mapping it again changes nothing.  In lower case, the image of a capital
sigma depends on what stands around it, but no image is a capital sigma.

* **`canonicalName_canonicalName`**, **`canonicalPort_canonicalPort`** — canonical forms are their
  own canonical forms, and so are parts and connections that are in canonical form.
-/

namespace Hookup

namespace Text

/-! ## Texts without white space around them -/

/-- Whether a text neither starts nor ends with white space. -/
def IsBare (cs : List Char) : Prop :=
  (∀ c ∈ cs.head?, isWhiteSpace c = false) ∧ ∀ c ∈ cs.getLast?, isWhiteSpace c = false

lemma dropBlanks_eq_self {cs : List Char} (h : ∀ c ∈ cs.head?, isWhiteSpace c = false) :
    dropBlanks cs = cs := by
  cases cs with
  | nil => rfl
  | cons c rest => rw [dropBlanks, List.dropWhile_cons_of_neg (by simp [h c rfl])]

lemma head?_dropBlanks (cs : List Char) :
    ∀ c ∈ (dropBlanks cs).head?, isWhiteSpace c = false := by
  intro c hc
  have h := List.head?_dropWhile_not isWhiteSpace cs
  rw [dropBlanks] at hc
  rw [Option.mem_def.1 hc] at h
  exact h

lemma trimBlanks_eq_self {cs : List Char} (h : IsBare cs) : trimBlanks cs = cs := by
  have hlast : ∀ c ∈ cs.reverse.head?, isWhiteSpace c = false := by
    rw [List.head?_reverse]
    exact h.2
  rw [trimBlanks, dropTrailingBlanks, dropBlanks_eq_self h.1, dropBlanks_eq_self hlast,
    List.reverse_reverse]

lemma isBare_trimBlanks (cs : List Char) : IsBare (trimBlanks cs) := by
  rw [trimBlanks, dropTrailingBlanks]
  refine ⟨fun c hc => ?_, fun c hc => ?_⟩
  · -- what is left of the reversed text is a suffix, so its last character is the old first one
    obtain ⟨front, hfront⟩ : dropBlanks (dropBlanks cs).reverse <:+ (dropBlanks cs).reverse :=
      List.dropWhile_suffix _
    rw [List.head?_reverse] at hc
    obtain ⟨middle, hmiddle⟩ := List.getLast?_eq_some_iff.1 hc
    have hfirst : (dropBlanks cs).reverse.getLast? = some c := by
      rw [← hfront, hmiddle, ← List.append_assoc, List.getLast?_concat]
    rw [List.getLast?_reverse] at hfirst
    exact head?_dropBlanks cs c hfirst
  · rw [List.getLast?_reverse] at hc
    exact head?_dropBlanks _ c hc

/-! ## Images of texts -/

/-- Whether a text is made of images, one for each character of another text, in which nothing is
lost and no white space is made of what is seen. -/
inductive Images : List Char → List Char → Prop
  | nil : Images [] []
  | cons {c : Char} {image cs ds : List Char} (hne : image ≠ [])
      (hseen : isWhiteSpace c = false → ∀ d ∈ image, isWhiteSpace d = false)
      (rest : Images cs ds) : Images (c :: cs) (image ++ ds)

namespace Images

variable {cs ds : List Char}

lemma eq_nil_iff (h : Images cs ds) : ds = [] ↔ cs = [] := by
  cases h with
  | nil => simp
  | cons hne => simp [hne]

lemma head (h : Images cs ds) (hcs : ∀ c ∈ cs.head?, isWhiteSpace c = false) :
    ∀ d ∈ ds.head?, isWhiteSpace d = false := by
  cases h with
  | nil => exact hcs
  | cons hne hseen =>
      intro d hd
      rw [List.head?_append_of_ne_nil _ hne] at hd
      exact hseen (hcs _ rfl) d (List.mem_of_mem_head? hd)

lemma last (h : Images cs ds) (hcs : ∀ c ∈ cs.getLast?, isWhiteSpace c = false) :
    ∀ d ∈ ds.getLast?, isWhiteSpace d = false := by
  induction h with
  | nil => exact hcs
  | @cons c image cs ds hne hseen rest ih =>
      intro d hd
      rcases eq_or_ne cs [] with rfl | hcs'
      · rw [rest.eq_nil_iff.2 rfl, List.append_nil] at hd
        exact hseen (hcs c rfl) d (List.mem_of_getLast? hd)
      · rw [List.getLast?_append_of_ne_nil _ (mt rest.eq_nil_iff.1 hcs')] at hd
        refine ih (fun b hb => hcs b ?_) d hd
        rwa [List.getLast?_cons_of_ne_nil hcs']

/-- No white space appears at the ends. -/
theorem isBare (h : Images cs ds) (hcs : IsBare cs) : IsBare ds := ⟨h.head hcs.1, h.last hcs.2⟩

end Images

/-! ## Upper case -/

lemma images_upper (cs : List Char) : Images cs (cs.flatMap upperChar) := by
  rw [← Casing.image_upper]
  induction cs with
  | nil => exact .nil
  | cons c rest ih =>
      exact .cons (Casing.upper_settles.image_ne_nil c)
        (fun hc _ => Casing.upper_settles.not_isWhiteSpace hc) ih

lemma flatMap_upperChar_flatMap (cs : List Char) :
    (cs.flatMap upperChar).flatMap upperChar = cs.flatMap upperChar := by
  rw [← Casing.image_upper]
  have hsettled : ∀ ds : List Char, (∀ d ∈ ds, Casing.upper.image d = [d]) →
      ds.flatMap Casing.upper.image = ds := by
    intro ds hds
    induction ds with
    | nil => rfl
    | cons d rest ih =>
        rw [List.flatMap_cons, hds d List.mem_cons_self,
          ih fun e he => hds e (List.mem_cons_of_mem _ he), List.singleton_append]
  refine hsettled _ fun d hd => ?_
  obtain ⟨c, -, hc⟩ := List.mem_flatMap.1 hd
  exact Casing.upper_settles.image_of_mem hc

/-! ## Lower case -/

/-- The image of a character in lower case, by what stands before and after it. -/
def lowerAt (before : List Char) (c : Char) (rest : List Char) : List Char :=
  if c = 'Σ' then if meetsCased before && !meetsCased rest then ['ς'] else ['σ']
  else lowerChar c

lemma lowerFrom_cons (before : List Char) (c : Char) (rest : List Char) :
    lowerFrom before (c :: rest) = lowerAt before c rest ++ lowerFrom (c :: before) rest := rfl

/-- A character has one of its images, or one of the two small letters sigma. -/
lemma lowerAt_cases (before : List Char) (c : Char) (rest : List Char) :
    c ≠ 'Σ' ∧ lowerAt before c rest = Casing.lower.image c ∨ lowerAt before c rest = ['ς'] ∨
      lowerAt before c rest = ['σ'] := by
  rw [lowerAt, ← Casing.image_lower]
  split_ifs with hsigma
  · exact .inr (.inl rfl)
  · exact .inr (.inr rfl)
  · exact .inl ⟨hsigma, rfl⟩

/-- An image in lower case is its own image, whatever stands around it. -/
lemma lowerAt_of_mem {before rest : List Char} {c d : Char} (h : d ∈ lowerAt before c rest) :
    ∀ before' rest', lowerAt before' d rest' = [d] := by
  have hsettled : d ≠ 'Σ' ∧ Casing.lower.image d = [d] := by
    rcases lowerAt_cases before c rest with ⟨hsigma, hc⟩ | hc | hc <;> rw [hc] at h
    · have hd := Casing.lower_settles.image_of_mem h
      refine ⟨?_, hd⟩
      rintro rfl
      exact absurd hd (by decide +kernel)
    · rw [List.mem_singleton.1 h]
      decide +kernel
    · rw [List.mem_singleton.1 h]
      decide +kernel
  intro before' rest'
  rw [lowerAt, if_neg hsettled.1, ← Casing.image_lower, hsettled.2]

lemma images_lower (cs : List Char) : ∀ before, Images cs (lowerFrom before cs) := by
  induction cs with
  | nil => exact fun _ => .nil
  | cons c rest ih =>
      intro before
      rw [lowerFrom_cons]
      refine .cons ?_ (fun hc d hd => ?_) (ih _)
      · rcases lowerAt_cases before c rest with ⟨-, hc⟩ | hc | hc <;> rw [hc]
        · exact Casing.lower_settles.image_ne_nil c
        · simp
        · simp
      · rcases lowerAt_cases before c rest with ⟨-, himage⟩ | himage | himage <;> rw [himage] at hd
        · exact Casing.lower_settles.not_isWhiteSpace hc hd
        · rw [List.mem_singleton.1 hd]
          decide
        · rw [List.mem_singleton.1 hd]
          decide

/-- A text in lower case is its own lower case, whatever stands before it. -/
lemma lowerFrom_lowerFrom (cs : List Char) :
    ∀ before before', lowerFrom before' (lowerFrom before cs) = lowerFrom before cs := by
  have hsettled : ∀ ds, (∀ d ∈ ds, ∀ before rest, lowerAt before d rest = [d]) →
      ∀ before, lowerFrom before ds = ds := by
    intro ds hds
    induction ds with
    | nil => exact fun _ => rfl
    | cons d rest ih =>
        intro before
        rw [lowerFrom_cons, hds d List.mem_cons_self,
          ih fun e he => hds e (List.mem_cons_of_mem _ he), List.singleton_append]
  have himages : ∀ before, ∀ d ∈ lowerFrom before cs,
      ∀ before' rest, lowerAt before' d rest = [d] := by
    induction cs with
    | nil => exact fun _ d hd => nomatch hd
    | cons c rest ih =>
        intro before d hd
        rcases List.mem_append.1 hd with hd | hd
        · exact lowerAt_of_mem hd
        · exact ih _ d hd
  exact fun before before' => hsettled _ (himages before) before'

end Text

open Text

/-! ## Canonical forms -/

/-- **A canonical name is its own canonical form.** -/
theorem canonicalName_canonicalName (s : String) :
    canonicalName (canonicalName s) = canonicalName s := by
  simp only [canonicalName, upper, trim, String.toList_ofList]
  rw [trimBlanks_eq_self ((images_upper _).isBare (isBare_trimBlanks _)),
    flatMap_upperChar_flatMap]

/-- **A canonical port is its own canonical form.** -/
theorem canonicalPort_canonicalPort (s : String) :
    canonicalPort (canonicalPort s) = canonicalPort s := by
  simp only [canonicalPort, lower, trim, String.toList_ofList]
  rw [trimBlanks_eq_self ((images_lower _ _).isBare (isBare_trimBlanks _)), lowerFrom_lowerFrom]

-- The one letter whose lower case depends on its place keeps it: a final sigma stays final.
example : canonicalPort " ΝΟΣ." = "νος." ∧ canonicalPort "νος." = "νος." := by decide +kernel

/-- Part keys made from canonical names are those made from the names as written. -/
theorem PartKey.ofNames_canonicalName (hpn rev : String) :
    PartKey.ofNames (canonicalName hpn) (canonicalName rev) = PartKey.ofNames hpn rev := by
  simp only [PartKey.ofNames, canonicalName_canonicalName]

@[simp] theorem Part.key_canonical (part : Part) : part.canonical.key = part.key :=
  PartKey.ofNames_canonicalName _ _

@[simp] theorem Terminal.key_canonical (t : Terminal) : t.canonical.key = t.key :=
  PartKey.ofNames_canonicalName _ _

@[simp] theorem Part.canonical_canonical (part : Part) :
    part.canonical.canonical = part.canonical := by
  simp only [canonical, canonicalName_canonicalName]

@[simp] theorem Terminal.canonical_canonical (t : Terminal) :
    t.canonical.canonical = t.canonical := by
  simp only [canonical, canonicalName_canonicalName, canonicalPort_canonicalPort]

@[simp] theorem Connection.canonical_canonical (c : Connection) :
    c.canonical.canonical = c.canonical := by
  simp only [canonical, Terminal.canonical_canonical]

/-- Names have no influence on when a part is in service. -/
lemma Part.isActive_canonical (part : Part) (t : GpsTime) :
    part.canonical.isActive t = part.isActive t := by
  -- by `rfl` the names in both parts would be compared first
  rw [isActive, isActive, canonical]

lemma Connection.isActive_canonical (c : Connection) (t : GpsTime) :
    c.canonical.isActive t = c.isActive t := by
  rw [isActive, isActive, canonical]

/-! ## Keys of canonical names -/

/-- A key of canonical names is made of the names as they are. -/
lemma PartKey.text_ofNames {hpn rev : String} (hhpn : canonicalName hpn = hpn)
    (hrev : canonicalName rev = rev) : (ofNames hpn rev).text = hpn ++ ":" ++ rev := by
  rw [ofNames, hhpn, hrev]

lemma Part.names_of_canonical {p : Part} (hp : p.canonical = p) :
    canonicalName p.hpn = p.hpn ∧ canonicalName p.rev = p.rev := by
  have hhpn : p.canonical.hpn = p.hpn := by rw [hp]
  have hrev : p.canonical.rev = p.rev := by rw [hp]
  exact ⟨hhpn, hrev⟩

lemma Part.key_text {p : Part} (hp : p.canonical = p) : p.key.text = p.hpn ++ ":" ++ p.rev := by
  obtain ⟨hhpn, hrev⟩ := names_of_canonical hp
  exact PartKey.text_ofNames hhpn hrev

lemma Terminal.key_text {t : Terminal} (ht : t.canonical = t) :
    t.key.text = t.hpn ++ ":" ++ t.rev := by
  have hhpn : t.canonical.hpn = t.hpn := by rw [ht]
  have hrev : t.canonical.rev = t.rev := by rw [ht]
  exact PartKey.text_ofNames hhpn hrev

end Hookup
