import Hookup.Decimal.Reading
import Hookup.Folder
import Hookup.Json.Reader
import Hookup.Text.Case

/-!
# Where stores are kept

The settings name a store by a path, or by an address that begins with `file:` and may say after a
question mark how the store is to be opened.  `StoreAddress.ofPath?` reads either; some addresses
name a store that is kept nowhere and is gone when the program ends.

A store is opened at a place that is found name by name without looking whether the folders are
there, so that `a/../b` is `b` in any case.  Opening makes a store where none is
(`Folder.openStore?`); a file of a single byte counts as one without content.
-/

namespace Hookup

/-- What may be done to open a store. -/
structure StoreMode where
  /-- Whether a store that is not there is made. -/
  makes : Bool
  /-- Whether others may have the store open at the same time, without which one that is there stays
  closed. -/
  shares : Bool
deriving DecidableEq

/-- Where a store is kept. -/
inductive StoreAddress where
  /-- Nowhere. -/
  | transient
  | file (path : String) (mode : StoreMode)
deriving DecidableEq

namespace StoreAddress

/-! ## Parts of an address -/

/-- A byte that is written as a percent sign and two hexadecimal digits, and what follows. -/
def escapedByte? : List Char → Option (Nat × List Char)
  | '%' :: a :: b :: rest => do
    pure ((← Json.hexValue? a) * 16 + (← Json.hexValue? b), rest)
  | _ => none

theorem length_of_escapedByte? {cs rest : List Char} {code : Nat}
    (h : escapedByte? cs = some (code, rest)) : rest.length < cs.length := by
  unfold escapedByte? at h
  split at h
  · simp only [Option.bind_eq_bind, Option.bind_eq_some_iff, Option.pure_def,
      Option.some.injEq, Prod.mk.injEq] at h
    obtain ⟨_, _, _, _, _, rfl⟩ := h
    simp only [List.length_cons]
    omega
  · cases h

/-- The bytes of a part of an address; an escaped zero ends it. -/
def bytes (cs : List Char) : List UInt8 :=
  match h : escapedByte? cs with
  | some (code, rest) =>
    have := length_of_escapedByte? h
    if code = 0 then [] else .ofNat code :: bytes rest
  | none =>
    match cs with
    | [] => []
    | c :: rest => String.utf8EncodeChar c ++ bytes rest
termination_by cs.length

/-- A part of an address without escapes.  Bytes that are no text become one character each. -/
def plainText (cs : List Char) : String :=
  let bytes := bytes cs
  (String.fromUTF8? ⟨bytes.toArray⟩).getD
    (.ofList (bytes.map fun byte => Char.ofNat byte.toNat))

/-- A text before and after its first separator. -/
def splitFirst (separator : Char) (cs : List Char) : List Char × List Char :=
  (cs.takeWhile (· != separator), (cs.dropWhile (· != separator)).drop 1)

/-- The options after the question mark; one without a name counts for nothing. -/
def options (cs : List Char) : List (String × String) :=
  (Text.cut '&' cs).filterMap fun piece =>
    let (name, value) := splitFirst '=' piece
    let name := plainText name
    if name.isEmpty then none else some (name, plainText value)

/-- What follows the machine that an address names, which must be this one. -/
def afterMachine? (cs : List Char) : Option (List Char) :=
  match cs with
  | '/' :: '/' :: rest =>
    let machine := String.ofList (rest.takeWhile (· != '/'))
    if machine = "" ∨ machine = "localhost" then some (rest.dropWhile (· != '/')) else none
  | cs => some cs

/-! ## Options -/

/-- Whether an option is switched on. -/
def isOn (value : String) : Bool :=
  let digits := value.toList.takeWhile Char.isDigit
  if digits.isEmpty then ["on", "yes", "true"].any (Text.equalsIgnoringCase value)
  else Decimal.ofDigits (Decimal.digitValues digits) % 256 != 0

/-- Whether an option that names a choice names one that there is. -/
def isChoice (option : String × String) : Bool :=
  match option.1 with
  | "mode" => ["ro", "rw", "rwc", "memory"].contains option.2
  | "cache" => ["shared", "private"].contains option.2
  | _ => true

/-- The last value of an option, or what holds without it. -/
def lastOr (options : List (String × String)) (name standard : String) : String :=
  (options.reverse.lookup name).getD standard

/-- Whether an option is switched on where it first stands. -/
def hasSwitch (options : List (String × String)) (name : String) : Bool :=
  (options.lookup name).any isOn

/-- The address of a path under options.  A store must be writable, so that reading alone is not
enough to open it. -/
def ofOptions? (path : String) (options : List (String × String)) : Option StoreAddress := do
  guard (options.all isChoice)
  let mode := lastOr options "mode" "rwc"
  let system := lastOr options "vfs" "unix"
  guard (["unix", "unix-excl", "unix-none", "unix-dotfile", "memdb"].contains system)
  if mode = "memory" ∨ system = "memdb" ∨ path = "" ∨ path = ":memory:" then pure .transient
  else
    guard (mode ≠ "ro" ∧ ¬ hasSwitch options "immutable")
    let locks := system = "unix" ∨ system = "unix-excl"
    pure (.file path ⟨mode = "rwc", locks ∧ ¬ hasSwitch options "nolock"⟩)

/-- The address that a path names. -/
def ofPath? (path : String) : Option StoreAddress :=
  if path.toList.contains '\x00' then none
  else if Text.beginsWith path "file:" then do
    let address ← afterMachine? (path.toList.drop 5)
    let (name, asked) := splitFirst '?' (address.takeWhile (· != '#'))
    ofOptions? (plainText name) (options asked)
  else ofOptions? path []

end StoreAddress

/-! ## Opening -/

namespace Folder

/-- The place that one more name leads to, unless it is said to be in a file. -/
def storeStep? (folder : Folder) (p : Place) (name : String) : Option Place :=
  let isInFile := (folder.fileAt? p).isSome && !folder.isFolderAt p
  let leadsOn := name != "" && name != "." && name != ".."
  if isFileName name && !(leadsOn && isInFile) then some (p.step name) else none

/-- The place of the store at a path. -/
def storePlace? (folder : Folder) (path : String) : Option Place :=
  (Text.pieces '/' path).foldlM folder.storeStep? (Place.start path)

/-- What the names of the files have in addition that a store keeps beside its own. -/
def companionEnding : String := "-journal"

/-- Whether a store can be made at a place. -/
def hasRoomForStore (folder : Folder) (p : Place) : Bool :=
  folder.isFolderAt p.parent && p.getLast?.all fun name => isFileName (name ++ companionEnding)

/-- The store at a place, and the folder with it. -/
def openStoreAt? (folder : Folder) (p : Place) (mode : StoreMode) (now : CivilTime) :
    Option (Folder × Store) :=
  let fresh : Option (Folder × Store) :=
    if folder.hasRoomForStore p then some (folder.putAt p ⟨.store .empty, now⟩, .empty) else none
  if folder.isFolderAt p then none
  else
    match folder.fileAt? p with
    | some ⟨.store rows, _⟩ => if mode.shares then some (folder, rows) else none
    | some ⟨.text s, _⟩ => if s.utf8ByteSize ≤ 1 then fresh else none
    | some _ => none
    | none => if mode.makes then fresh else none

/-- The store that a path names, and the folder with it. -/
def openStore? (folder : Folder) (path : String) (now : CivilTime) : Option (Folder × Store) := do
  match ← StoreAddress.ofPath? path with
  | .transient => pure (folder, .empty)
  | .file path mode => folder.openStoreAt? (← folder.storePlace? path) mode now

/-- The folder with a changed store at a path. -/
def saveStore (folder : Folder) (path : String) (now : CivilTime) (store : Store) : Folder :=
  match StoreAddress.ofPath? path with
  | some (.file path _) =>
    ((folder.storePlace? path).map fun p => folder.putAt p ⟨.store store, now⟩).getD folder
  | _ => folder

end Folder

end Hookup
