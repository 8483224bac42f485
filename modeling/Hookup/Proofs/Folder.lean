import Hookup.Folder
import Hookup.Proofs.KeyMap
import Hookup.Proofs.Outcome
import Mathlib.Tactic.SplitIfs

/-!
# What writing does to a folder

A write makes the folders above its path and then puts one file at one place.

* `Extends` — making folders only adds to a folder, so that every path leads where it led before.
* `locate?_putAt` — neither does a file lead paths astray that is put where no folder is.
* **`file?_of_write`**, **`file?_of_write_of_ne`** — after a write, its path leads to what was
  written, and what stood at another place is still there.
* `file?_of_appendText`, `file?_of_appendText_of_vacant` — a text that is appended comes after the
  one that stood there, or is alone where no file stood.
-/

namespace Hookup

namespace Folder

variable {folder folder' room written : Folder} {path : String} {p q : Place} {now : CivilTime}
  {file : File}

/-! ## Putting a file at a place -/

lemma fileAt?_putAt (folder : Folder) (p q : Place) (file : File) :
    (folder.putAt p file).fileAt? q = if q = p then some file else folder.fileAt? q := by
  rw [fileAt?, putAt, KeyMap.get?_insert]
  rfl

lemma isFolderAt_iff : folder.isFolderAt p = true ↔
    p.isGiven = true ∨ ∃ time, folder.fileAt? p = some ⟨.folder, time⟩ := by
  rw [isFolderAt, Bool.or_eq_true]
  refine or_congr_right ?_
  split
  next time h => simp [h]
  next h => exact ⟨fun hfalse => (nomatch hfalse), fun ⟨time, hfile⟩ => absurd hfile (h time)⟩

/-- A file that is put where no folder is makes no place a folder and keeps all folders. -/
lemma isFolderAt_putAt (hp : folder.isFolderAt p = false) (hfile : file.content ≠ .folder)
    (q : Place) : (folder.putAt p file).isFolderAt q = folder.isFolderAt q := by
  rw [Bool.eq_iff_iff, isFolderAt_iff, isFolderAt_iff, fileAt?_putAt]
  by_cases hq : q = p
  · subst hq
    rw [← Bool.not_eq_true, isFolderAt_iff, not_or] at hp
    refine or_congr_right ⟨?_, fun h => absurd h hp.2⟩
    rintro ⟨time, h⟩
    rw [if_pos rfl, Option.some.injEq] at h
    exact absurd (congrArg File.content h) hfile
  · rw [if_neg hq]

/-! ## Walking a path -/

lemma step?_eq_some {name : String} : folder.step? p name = some q ↔
    folder.isFolderAt p = true ∧ isFileName name = true ∧ p.step name = q := by
  rw [step?]
  split_ifs with h
  · rw [Bool.and_eq_true] at h
    simp [h.1, h.2]
  · simp only [Bool.and_eq_true, not_and] at h
    simp only [false_iff, not_and]
    exact fun hfolder hname => absurd hname (h hfolder)

lemma foldlM_step?_mono (h : ∀ p, folder.isFolderAt p = true → folder'.isFolderAt p = true)
    {names : List String} : ∀ {p q : Place},
      names.foldlM folder.step? p = some q → names.foldlM folder'.step? p = some q := by
  induction names with
  | nil => exact fun h => h
  | cons name names ih =>
      intro p q hq
      rw [List.foldlM_cons, Option.bind_eq_bind, Option.bind_eq_some_iff] at hq ⊢
      obtain ⟨next, hstep, hrest⟩ := hq
      obtain ⟨hfolder, hname, hnext⟩ := step?_eq_some.1 hstep
      exact ⟨next, step?_eq_some.2 ⟨h p hfolder, hname, hnext⟩, ih hrest⟩

/-- Where all folders are kept, paths lead where they led. -/
lemma locate?_mono (h : ∀ p, folder.isFolderAt p = true → folder'.isFolderAt p = true)
    (hp : folder.locate? path = some p) : folder'.locate? path = some p := by
  rw [locate?] at hp ⊢
  split_ifs at hp ⊢
  exact foldlM_step?_mono h hp

/-- A path leads nowhere else than its names say. -/
lemma eq_ofPath_of_locate? (hp : folder.locate? path = some p) : p = Place.ofPath path := by
  have hnames : ∀ (names : List String) (p q : Place), names.foldlM folder.step? p = some q →
      q = names.foldl Place.step p := by
    intro names
    induction names with
    | nil =>
        intro p q h
        exact (Option.some.inj h).symm
    | cons name names ih =>
        intro p q hq
        rw [List.foldlM_cons, Option.bind_eq_bind, Option.bind_eq_some_iff] at hq
        obtain ⟨next, hstep, hrest⟩ := hq
        rw [List.foldl_cons, (step?_eq_some.1 hstep).2.2]
        exact ih next q hrest
  rw [locate?] at hp
  split_ifs at hp
  exact hnames _ _ _ hp

lemma locate?_putAt (hp : folder.isFolderAt p = false) (hfile : file.content ≠ .folder)
    (hq : folder.locate? path = some q) : (folder.putAt p file).locate? path = some q :=
  locate?_mono (fun q hq => (isFolderAt_putAt hp hfile q).trans hq) hq

/-! ## Making folders -/

/-- Whether a folder has everything that another one has, and possibly more. -/
def Extends (folder folder' : Folder) : Prop :=
  ∀ p file, folder.fileAt? p = some file → folder'.fileAt? p = some file

lemma Extends.refl (folder : Folder) : folder.Extends folder := fun _ _ h => h

lemma Extends.trans {folder'' : Folder} (h : folder.Extends folder')
    (h' : folder'.Extends folder'') : folder.Extends folder'' := fun p file hfile =>
  h' p file (h p file hfile)

lemma Extends.isFolderAt (h : folder.Extends folder') (hp : folder.isFolderAt p = true) :
    folder'.isFolderAt p = true := by
  rw [isFolderAt_iff] at hp ⊢
  exact hp.imp_right fun ⟨time, hfile⟩ => ⟨time, h p _ hfile⟩

lemma Extends.file? (h : folder.Extends folder') (hfile : folder.file? path = some file) :
    folder'.file? path = some file := by
  rw [Folder.file?, Option.bind_eq_bind, Option.bind_eq_some_iff] at hfile ⊢
  obtain ⟨p, hp, hat⟩ := hfile
  exact ⟨p, locate?_mono (fun _ => h.isFolderAt) hp, h p file hat⟩

lemma extends_withFolderAt (folder : Folder) (p : Place) (now : CivilTime) :
    folder.Extends (folder.withFolderAt p now) := by
  intro q file hfile
  rw [withFolderAt]
  split_ifs with h
  · exact hfile
  · rw [fileAt?_putAt, if_neg]
    · exact hfile
    · rintro rfl
      simp [hfile] at h

lemma extends_makeFolders (now : CivilTime) {names : List String} :
    ∀ {p : Place} {folder : Folder}, folder.Extends (makeFolders now p names folder).1 := by
  induction names with
  | nil => exact fun {p folder} => .refl folder
  | cons name names ih =>
      intro p folder
      have hmade := extends_withFolderAt folder (p.step name) now
      simp only [makeFolders]
      split_ifs
      · exact hmade.trans ih
      · exact hmade
      · exact .refl folder

/-- **To make folders changes nothing that stands there.** -/
theorem extends_makeRoom (folder : Folder) (path : String) (now : CivilTime) :
    folder.Extends (folder.makeRoom path now).1 := by
  simp only [makeRoom]
  split_ifs
  · exact .refl folder
  · exact extends_makeFolders now

/-! ## Writing -/

/-- A write makes room, and then puts a file where its path leads. -/
lemma write_eq_ok {content : Option FileContent → FileContent}
    (h : folder.write path now content = .ok written) :
    ∃ room p, (folder.makeRoom path now).1 = room ∧ folder.Extends room ∧
      room.locate? path = some p ∧ room.isFolderAt p = false ∧
      written = room.putAt p ⟨content ((room.fileAt? p).map File.content), now⟩ := by
  have hextends := folder.extends_makeRoom path now
  rw [write] at h
  rcases hroom : folder.makeRoom path now with ⟨room, isMade⟩
  simp only [hroom] at h hextends
  split at h
  next => cases h
  next p hp =>
    cases h
    rw [Option.ite_none_right_eq_some] at hp
    obtain ⟨hlocate, hfolder⟩ := Option.filter_eq_some_iff.1 hp.2
    rw [Bool.not_eq_true'] at hfolder
    exact ⟨room, p, rfl, hextends, hlocate, hfolder, rfl⟩

/-- What is written is no folder. -/
lemma content_ne_folder {content : Option FileContent → FileContent}
    (hcontent : ∀ before, before ≠ some .folder → content before ≠ .folder)
    (hp : folder.isFolderAt p = false) :
    content ((folder.fileAt? p).map File.content) ≠ .folder := by
  refine hcontent _ fun h => ?_
  obtain ⟨⟨_, time⟩, hfile, rfl⟩ := Option.map_eq_some_iff.1 h
  rw [isFolderAt_iff.2 (.inr ⟨time, hfile⟩)] at hp
  cases hp

/-- **After a write its path leads to what was written**, which goes by what stood there. -/
theorem file?_of_write {content : Option FileContent → FileContent}
    (hcontent : ∀ before, before ≠ some .folder → content before ≠ .folder)
    (h : folder.write path now content = .ok written) :
    ∃ room, (folder.makeRoom path now).1 = room ∧ folder.Extends room ∧
      room.isFolderAt (Place.ofPath path) = false ∧
      written.file? path =
        some ⟨content ((room.fileAt? (Place.ofPath path)).map File.content), now⟩ := by
  obtain ⟨room, p, hroom, hextends, hp, hfolder, rfl⟩ := write_eq_ok h
  obtain rfl := eq_ofPath_of_locate? hp
  refine ⟨room, hroom, hextends, hfolder, ?_⟩
  rw [file?, locate?_putAt hfolder (content_ne_folder hcontent hfolder) hp, Option.bind_eq_bind,
    Option.bind_some, fileAt?_putAt, if_pos rfl]

/-- **What stands at another place is there after a write**, and is found by its path. -/
theorem file?_of_write_of_ne {content : Option FileContent → FileContent}
    (hcontent : ∀ before, before ≠ some .folder → content before ≠ .folder)
    (h : folder.write path now content = .ok written) {other : String}
    (hne : Place.ofPath other ≠ Place.ofPath path) (hfile : folder.file? other = some file) :
    written.file? other = some file := by
  obtain ⟨room, p, -, hextends, hp, hfolder, rfl⟩ := write_eq_ok h
  have hroom := hextends.file? hfile
  rw [file?, Option.bind_eq_bind, Option.bind_eq_some_iff] at hroom ⊢
  obtain ⟨q, hq, hat⟩ := hroom
  refine ⟨q, locate?_putAt hfolder (content_ne_folder hcontent hfolder) hq, ?_⟩
  rw [fileAt?_putAt, if_neg, hat]
  rw [eq_ofPath_of_locate? hq, eq_ofPath_of_locate? hp]
  exact hne

lemma followedBy_ne_folder (s : String) (before : Option FileContent)
    (h : before ≠ some .folder) : FileContent.followedBy s before ≠ .folder := by
  cases before with
  | none => exact nofun
  | some content =>
      cases content with
      | folder => exact absurd rfl h
      | _ => exact nofun

lemma text_ne_folder (s : String) (before : Option FileContent) (_ : before ≠ some .folder) :
    FileContent.text s ≠ .folder := by
  rintro ⟨⟩

lemma file?_of_writeText {s : String} (h : folder.writeText path now s = .ok written) :
    written.file? path = some ⟨.text s, now⟩ := by
  obtain ⟨_, -, -, -, hfile⟩ := file?_of_write (text_ne_folder s) h
  exact hfile

/-! ## Appending -/

/-- Whether no file stands at a place; a folder may. -/
def Vacant (folder : Folder) (p : Place) : Prop :=
  ∀ file, folder.fileAt? p = some file → file.content = .folder

lemma vacant_empty (p : Place) : empty.Vacant p := fun _ h => nomatch h

lemma Vacant.withFolderAt (h : folder.Vacant p) (q : Place) (now : CivilTime) :
    (folder.withFolderAt q now).Vacant p := by
  intro file hfile
  rw [Folder.withFolderAt] at hfile
  split_ifs at hfile
  · exact h file hfile
  · rw [fileAt?_putAt] at hfile
    split_ifs at hfile
    · rw [← Option.some.inj hfile]
    · exact h file hfile

/-- Where no file stands there is none after folders have been made. -/
lemma Vacant.makeFolders (now : CivilTime) {names : List String} : ∀ {q : Place} {folder : Folder},
    folder.Vacant p → (makeFolders now q names folder).1.Vacant p := by
  induction names with
  | nil => exact fun h => h
  | cons name names ih =>
      intro q folder h
      simp only [Folder.makeFolders]
      split_ifs
      · exact ih (h.withFolderAt (q.step name) now)
      · exact h.withFolderAt (q.step name) now
      · exact h

lemma Vacant.makeRoom (h : folder.Vacant p) (path : String) (now : CivilTime) :
    (folder.makeRoom path now).1.Vacant p := by
  simp only [Folder.makeRoom]
  split_ifs
  · exact h
  · exact h.makeFolders now

/-- Where no file stands there is none after a write to another place. -/
lemma Vacant.of_write_of_ne {content : Option FileContent → FileContent} (h : folder.Vacant p)
    (hwrite : folder.write path now content = .ok written) (hne : p ≠ Place.ofPath path) :
    written.Vacant p := by
  obtain ⟨_, q, rfl, -, hq, -, rfl⟩ := write_eq_ok hwrite
  intro file hfile
  rw [fileAt?_putAt, if_neg (eq_ofPath_of_locate? hq ▸ hne)] at hfile
  exact h.makeRoom path now file hfile

/-- What is appended where no file stood is all that the new file contains. -/
lemma file?_of_appendText_of_vacant {s : String} (h : folder.Vacant (Place.ofPath path))
    (hwrite : folder.appendText path now s = .ok written) :
    written.file? path = some ⟨.text s, now⟩ := by
  obtain ⟨room, rfl, -, hfolder, hfile⟩ := file?_of_write (followedBy_ne_folder s) hwrite
  -- had the room become a folder there, nothing could have been written
  have hnone : (folder.makeRoom path now).1.fileAt? (Place.ofPath path) = none := by
    refine Option.eq_none_iff_forall_ne_some.2 fun file hat => ?_
    have hcontent := h.makeRoom path now file hat
    obtain ⟨_, time⟩ := file
    cases hcontent
    rw [isFolderAt_iff.2 (.inr ⟨time, hat⟩)] at hfolder
    cases hfolder
  rw [hfile, hnone]
  rfl

/-- What is appended to a text comes after it. -/
lemma file?_of_appendText {before s : String} {time : CivilTime}
    (h : folder.file? path = some ⟨.text before, time⟩)
    (hwrite : folder.appendText path now s = .ok written) :
    written.file? path = some ⟨.text (before ++ s), now⟩ := by
  obtain ⟨room, -, hextends, -, hfile⟩ := file?_of_write (followedBy_ne_folder s) hwrite
  have hroom := hextends.file? h
  rw [file?, Option.bind_eq_bind, Option.bind_eq_some_iff] at hroom
  obtain ⟨p, hp, hat⟩ := hroom
  rw [eq_ofPath_of_locate? hp] at hat
  rw [hfile, hat]
  rfl

end Folder

end Hookup
