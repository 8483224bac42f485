import Hookup.Error
import Hookup.Store
import Hookup.Time.LeapSecond

/-!
# Folders

The files that hookup queries read and write: settings, topology files, caches with their logs, and
stores.  A `Folder` holds them by `Place`, with what each contains and when it was last modified.

A path is walked name by name, and only a folder leads on (`Folder.locate?`): `a/../b` leads nowhere
without a folder `a`, and neither does `b/` when `b` is a file.  Hence several paths may lead to one
place, and a path that leads nowhere may lead somewhere once a folder has been made.

Reading fails unless the path leads to a file of text.  Writing makes the folders above the path,
and fails where the path, or something that would have to be a folder, is of the other kind; the
folders that it has made by then stay.
-/

namespace Hookup

/-! ## Places -/

/-- The names that lead to something.  They start in the current folder, which is `[]`, or in the
root, which is `[""]`; the folders above the current one are `[".."]`, `["..", ".."]` and so on. -/
abbrev Place := List String

namespace Place

/-- The root. -/
def root : Place := [""]

/-- Whether a place is a folder from the outset: the current one, one above it, or the root. -/
def isGiven (p : Place) : Bool := p == root || p.all (· == "..")

/-- The folder that a place is in; the root is in itself. -/
def parent (p : Place) : Place :=
  if p == root then p else if p.isGiven then p ++ [".."] else p.dropLast

/-- The place that a name in a path leads to: a point stays, two points go back. -/
def step (p : Place) (name : String) : Place :=
  if name = "" ∨ name = "." then p else if name = ".." then p.parent else p ++ [name]

/-- The place that a path starts from. -/
def start (path : String) : Place := if Text.beginsWith path "/" then root else []

/-- The place that a path leads to when every folder on the way is there. -/
def ofPath (path : String) : Place := (Text.pieces '/' path).foldl step (start path)

/-- The places on the way to another one. -/
def above (p : Place) : List Place := (List.range p.length).map p.take

end Place

/-- The longest name, in bytes. -/
def longestName : Nat := 255

/-- The longest path, in bytes. -/
def longestPath : Nat := 4095

/-- Whether something can have this name. -/
def isFileName (name : String) : Bool :=
  name.utf8ByteSize ≤ longestName && !name.toList.contains '\x00'

/-! ## Contents -/

/-- What stands at a place. -/
inductive FileContent where
  | text (s : String)
  /-- Bytes that are no text. -/
  | binary
  | folder
  | store (rows : Store)

/-- What stands at a place, and when it was last modified. -/
structure File where
  content : FileContent
  modified : CivilTime

/-- Files by place. -/
structure Folder where
  files : KeyMap Place File

namespace Folder

/-- A folder without files. -/
def empty : Folder := ⟨.empty⟩

/-- What stands at a place. -/
def fileAt? (folder : Folder) (p : Place) : Option File := folder.files.get? p

/-- Whether a place is a folder. -/
def isFolderAt (folder : Folder) (p : Place) : Bool :=
  p.isGiven || match folder.fileAt? p with
    | some ⟨.folder, _⟩ => true
    | _ => false

/-- Put something at a place. -/
def putAt (folder : Folder) (p : Place) (file : File) : Folder := ⟨folder.files.insert p file⟩

/-- Put a folder at a place unless something is there. -/
def withFolderAt (folder : Folder) (p : Place) (now : CivilTime) : Folder :=
  if p.isGiven || (folder.fileAt? p).isSome then folder else folder.putAt p ⟨.folder, now⟩

/-! ## Walking a path -/

/-- The place that one more name leads to. -/
def step? (folder : Folder) (p : Place) (name : String) : Option Place :=
  if folder.isFolderAt p && isFileName name then some (p.step name) else none

/-- The place that a path leads to, whether anything is there or not. -/
def locate? (folder : Folder) (path : String) : Option Place :=
  if path.isEmpty || longestPath < path.utf8ByteSize then none
  else (Text.pieces '/' path).foldlM folder.step? (Place.start path)

/-- What stands at a path. -/
def file? (folder : Folder) (path : String) : Option File := do
  folder.fileAt? (← folder.locate? path)

/-- Whether a path is a folder. -/
def isFolder (folder : Folder) (path : String) : Bool :=
  (folder.locate? path).any folder.isFolderAt

/-- Whether there is anything at a path. -/
def holds (folder : Folder) (path : String) : Bool :=
  (folder.file? path).isSome || folder.isFolder path

/-! ## Reading -/

/-- The text of a file. -/
def readText (folder : Folder) (path : String) : Except Error String :=
  match folder.file? path with
  | some ⟨.text s, _⟩ => pure s
  | _ => throw .io

/-- When a path was last modified. -/
def modified (folder : Folder) (path : String) : Except Error GpsTime :=
  match folder.file? path with
  | some file => pure (.ofCivil file.modified)
  | none => throw .io

/-! ## Writing -/

/-- Make the folders that names lead to from a place on, and tell whether all of them are there.
Those before the first that cannot be made stay. -/
def makeFolders (now : CivilTime) : Place → List String → Folder → Folder × Bool
  | _, [], folder => (folder, true)
  | p, name :: names, folder =>
    if isFileName name then
      let q := p.step name
      let folder := folder.withFolderAt q now
      if folder.isFolderAt q then makeFolders now q names folder else (folder, false)
    else (folder, false)

/-- Whether a name in a path leads on from where it stands. -/
def leadsOn (name : String) : Bool := name != "" && name != "."

/-- The path to the folder that a path leads into, empty if it is the one where the path starts. -/
def parentPath (path : String) : String :=
  let names := (Text.pieces '/' path).reverse.dropWhile (!leadsOn ·)
  "/".intercalate (names.tail.dropWhile (!leadsOn ·)).reverse

/-- Make the folders above a path, and tell whether they are there.  None is made above a path that
is too long or has a NUL. -/
@[irreducible]  -- no proof should try to compute the length of a path that it does not know
def makeRoom (folder : Folder) (path : String) (now : CivilTime) : Folder × Bool :=
  let parent := parentPath path
  if longestPath < parent.utf8ByteSize || parent.toList.contains '\x00' then (folder, false)
  else folder.makeFolders now (Place.start parent) ((Text.pieces '/' parent).filter leadsOn)

/-- The place at which a file can be written to a path. -/
def writable? (folder : Folder) (path : String) : Option Place :=
  (folder.locate? path).filter fun p => !folder.isFolderAt p

/-- Write what a file is to contain, given what it contained before.  If that fails, what
`makeRoom` has made stays. -/
def write (folder : Folder) (path : String) (now : CivilTime)
    (content : Option FileContent → FileContent) : Except Error Folder :=
  let (room, isMade) := folder.makeRoom path now
  match if isMade then room.writable? path else none with
  | none => throw .io
  | some p => pure (room.putAt p ⟨content ((room.fileAt? p).map File.content), now⟩)

/-- Write a text to a path, in place of what the file there contains. -/
def writeText (folder : Folder) (path : String) (now : CivilTime) (s : String) :
    Except Error Folder :=
  folder.write path now fun _ => .text s

/-- Contents with a text after them. -/
def FileContent.followedBy (s : String) : Option FileContent → FileContent
  | none => .text s
  | some (.text before) => .text (before ++ s)
  | some content => content

/-- Write a text after what the file at a path contains. -/
def appendText (folder : Folder) (path : String) (now : CivilTime) (s : String) :
    Except Error Folder :=
  folder.write path now (FileContent.followedBy s)

/-- Put something at a path, and folders on the way there. -/
def put (folder : Folder) (path : String) (file : File) : Folder :=
  let p := Place.ofPath path
  let folder := p.above.foldl (fun folder q => folder.withFolderAt q file.modified) folder
  folder.putAt p file

/-- Take away what stands at a path and below it. -/
def remove (folder : Folder) (path : String) : Folder :=
  match folder.locate? path with
  | none => folder
  | some p => ⟨folder.files.filter fun q => !p.isPrefixOf q⟩

end Folder

end Hookup
