import Hookup.Cache.File
import Hookup.Proofs.Folder
import Hookup.Proofs.JsonRecords

/-!
# Cache files are read back

A cache is written as a record and read twice, first for its format version alone and then as a
whole.  Both readings see the same value, since a printed value is read back whatever its texts and
numbers are, and the second one has a codec.

* `codec` — the record of a cache is read back, whatever its version.
* `ofText_text` — so is its text, provided that the version is the current one.
* `formatVersion_of_read` — no other version is read from any file.
* **`read_write`** — a cache that is written to a file is read back.
-/

namespace Hookup

namespace HookupCache

open Json

variable {folder : Folder} {path : String}

/-! ## Records -/

lemma versionOf?_int (version : UInt32) : versionOf? (.int version.toNat) = some version := by
  have hbound : version.toNat ≤ 0xffffffff := Nat.le_of_lt_succ version.toNat_lt
  rw [versionOf?, asNatUpTo?_int hbound, Option.map_some, UInt32.ofNat_toNat]

lemma codec : Codec toJson ofJson? := by
  have hhookupType := Codec.text.option fun _ h => nomatch h
  constructor
  · intro cache
    refine printable_record ?_
    simp [printable_int, GpsTime.codec.printable, hhookupType.printable,
      Codec.text.list.printable, Entry.codec.map.printable, Codec.text.map.printable,
      Dossier.toJson]
  · intro cache
    rw [ofJson?, toJson, slots?_record rfl (by simp)]
    simp [versionOf?_int, GpsTime.codec.read_encode, hhookupType.read_encode,
      Codec.text.list.read_encode, Entry.codec.map.read_encode, Codec.text.map.read_encode,
      Dossier.toJson]

/-- Looking for the version passes over the other fields, whatever they hold. -/
lemma versionShape_slots?_record {members : List (String × Json)} {value : Json}
    (hnodup : (members.map Prod.fst).Nodup) (h : ("format_version", value) ∈ members) :
    versionShape.slots? (.record members) = some [some value] := by
  rw [record, Shape.slots?, if_pos (by simp [versionShape, Shape.allows]), versionShape,
    List.mapM_cons, fieldSlot?_record hnodup h]
  rfl

lemma namedVersion?_toJson (cache : HookupCache) :
    namedVersion? cache.toJson = some (some cache.formatVersion) := by
  rw [namedVersion?, toJson, versionShape_slots?_record (by simp) List.mem_cons_self]
  show (versionOf? (.int cache.formatVersion.toNat)).map some = some (some cache.formatVersion)
  rw [versionOf?_int, Option.map_some]

/-! ## Texts -/

/-- The text of a cache is read back, or refused for its version. -/
lemma ofText_text (cache : HookupCache) : ofText cache.text =
    if cache.formatVersion = cacheFormatVersion then .ok cache
    else .error (.otherVersion cache.formatVersion) := by
  rw [ofText, text, pretty, parse?_printAt (codec.printable cache)]
  simp only [ofCurrentJson, namedVersion?_toJson, codec.read_encode]
  rfl

/-! ## Versions -/

/-- The first slot of what is read as a cache holds its version. -/
lemma slots?_of_ofJson? {json : Json} {cache : HookupCache} (h : ofJson? json = some cache) :
    ∃ version rest, shape.slots? json = some (some version :: rest) ∧
      versionOf? version = some cache.formatVersion := by
  rw [ofJson?, Option.bind_eq_bind, Option.bind_eq_some_iff] at h
  obtain ⟨slots, hslots, h⟩ := h
  split at h
  · simp only [Option.bind_eq_bind, Option.bind_eq_some_iff] at h
    obtain ⟨version, hversion, _, -, _, -, _, -, _, -, _, -, h⟩ := h
    cases h
    exact ⟨_, _, hslots, hversion⟩
  · cases h

/-- Looking for the version of a cache finds the slot that it is then read from. -/
lemma versionShape_slots? {json version : Json} {rest : List (Option Json)}
    (h : shape.slots? json = some (some version :: rest)) {slots : List (Option Json)}
    (hslots : versionShape.slots? json = some slots) : slots = [some version] := by
  cases json with
  | object members =>
      rw [Shape.slots?, shape] at h
      rw [Shape.slots?, versionShape] at hslots
      split_ifs at h hslots
      simp only [List.mapM_cons, Option.bind_eq_bind, Option.bind_eq_some_iff] at h hslots
      obtain ⟨slot, hslot, _, -, h⟩ := h
      obtain ⟨slot', hslot', _, hrest, hslots⟩ := hslots
      -- both shapes look for the members of this name
      rw [fieldSlot?_of_required hslot, Option.some.injEq] at hslot'
      cases h
      cases hrest
      cases hslots
      rw [← hslot']
      rfl
  | array items =>
      -- too short for a cache, or too long for a version alone
      cases items with
      | nil => cases h
      | cons item rest =>
          cases rest with
          | nil => cases h
          | cons next rest => cases hslots
  | _ => cases h

/-- A cache that is read has the version that was looked for. -/
lemma version_of_ofJson? {json : Json} {cache : HookupCache} {version : UInt32}
    (h : ofJson? json = some cache) (hnamed : namedVersion? json = some (some version)) :
    cache.formatVersion = version := by
  obtain ⟨value, rest, hslots, hversion⟩ := slots?_of_ofJson? h
  rw [namedVersion?, Option.bind_eq_bind, Option.bind_eq_some_iff] at hnamed
  obtain ⟨slots, hnamed, hread⟩ := hnamed
  rw [versionShape_slots? hslots hnamed] at hread
  have hread : asOption? versionOf? value = some (some version) := hread
  rw [asOption?.eq_def] at hread
  split at hread
  · cases hread
  · rw [hversion] at hread
    cases hread
    rfl

/-- What is read as a cache in the current format is a cache, and has this version. -/
lemma ofCurrentJson_eq_ok {json : Json} {cache : HookupCache}
    (h : ofCurrentJson json = .ok cache) :
    ofJson? json = some cache ∧ cache.formatVersion = cacheFormatVersion := by
  rw [ofCurrentJson] at h
  split at h
  · cases h
  · cases h
  · next hnamed =>
      split_ifs at h with hcurrent
      split at h
      · cases h
      · next hread =>
          cases h
          exact ⟨hread, (version_of_ofJson? hread hnamed).trans hcurrent⟩

lemma formatVersion_of_ofText {s : String} {cache : HookupCache} (h : ofText s = .ok cache) :
    cache.formatVersion = cacheFormatVersion := by
  rw [ofText] at h
  split at h
  · cases h
  · exact (ofCurrentJson_eq_ok h).2

/-! ## Files -/

/-- What is read from a file depends on its text alone. -/
lemma read_of_file? {s : String} {time : CivilTime}
    (hfile : folder.file? path = some ⟨.text s, time⟩) :
    read folder path = (ofText s).mapError (.cacheFormat path) := by
  rw [read, Folder.readText, hfile]
  rfl

/-- What is read from a file has the current version. -/
lemma formatVersion_of_read {cache : HookupCache} (h : read folder path = .ok cache) :
    cache.formatVersion = cacheFormatVersion := by
  obtain ⟨s, -, h⟩ := Outcome.bind_eq_ok.1 h
  cases hs : ofText s with
  | error e =>
      rw [hs] at h
      cases h
  | ok read =>
      rw [hs] at h
      cases h
      exact formatVersion_of_ofText hs

/-- **A cache is read back from its file.**  Whatever its texts, times, entries and chains are, and
whatever stood at the path before, a cache in the current format that is written to a path is what
is then read there; one of another version is refused, and the error names the path and the
version. -/
theorem read_write (cache : HookupCache) :
    ofText cache.text = (if cache.formatVersion = cacheFormatVersion then .ok cache
      else .error (.otherVersion cache.formatVersion)) ∧
    ∀ folder path now written, cache.write folder path now = .ok written →
      read written path = if cache.formatVersion = cacheFormatVersion then .ok cache
        else .error (.cacheFormat path (.otherVersion cache.formatVersion)) := by
  refine ⟨ofText_text cache, fun folder path now written hwrite => ?_⟩
  rw [read_of_file? (Folder.file?_of_writeText hwrite), ofText_text]
  split_ifs <;> rfl

/-- A cache whose texts need every kind of escape, with the extreme times. -/
def odd : HookupCache where
  formatVersion := cacheFormatVersion
  builtFor := ⟨Int64.minValue⟩
  hookupType := some "\"\\\n\x00é😀"
  stations := ["", "\x7f\t/"]
  entries := .ofList [("\"HH1\":\x1f", {
    key := "\u2028"
    chains := .ofList [("E", []), ("N<\x08>",
      [⟨⟨"HH1", "A", "\x0c"⟩, ⟨"", "\r", "ß"⟩, ⟨⟨Int64.maxValue⟩, some ⟨-1⟩⟩⟩])]
    complete := .ofList [("E", false)]
    hookupTypes := .empty
    columns := .ofList [("", [])]
    timings := .ofList [("E", ⟨none, some ⟨0⟩⟩)]
    topology := ⟨"null", []⟩ })]
  partTypes := .ofList [("\x7b", "\x7d")]

/-- The odd cache is read back from a file that is new, and is refused once it has another
version. -/
theorem read_write_odd :
    (∃ written, odd.write .empty "caches/odd.json" ⟨0, 0⟩ = .ok written ∧
      read written "caches/odd.json" = .ok odd) ∧
    ∃ written, { odd with formatVersion := 2 }.write .empty "caches/odd.json" ⟨0, 0⟩ =
        .ok written ∧
      read written "caches/odd.json" =
        .error (.cacheFormat "caches/odd.json" (.otherVersion 2)) := by
  have hnew : (odd.write .empty "caches/odd.json" ⟨0, 0⟩).isOk = true := by decide +kernel
  have hnew' : ({ odd with formatVersion := 2 }.write .empty "caches/odd.json" ⟨0, 0⟩).isOk =
      true := by
    decide +kernel
  obtain ⟨written, hwrite⟩ := Outcome.exists_of_isOk hnew
  obtain ⟨written', hwrite'⟩ := Outcome.exists_of_isOk hnew'
  exact ⟨⟨written, hwrite, (read_write odd).2 _ _ _ _ hwrite⟩,
    ⟨written', hwrite', (read_write _).2 _ _ _ _ hwrite'⟩⟩

end HookupCache

end Hookup
