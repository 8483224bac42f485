import Hookup.Proofs.CacheFile

/-!
# Cache files are read strictly

A cache is a record of records.  One that stands anywhere in it is read as a whole or not at all, so
what a change to its members does to it is what the change does to the cache.  The argument has
three levels.

* `exists_slots`, `slots?_insert`, `slots?_remove_required`, `slots?_remove_optional` — what a
  change to one member does to the slots that a record is read from.
* `MadeFrom` — that a whole is read by reading one part of it; `Field.madeFrom` has this for the
  fields of a record, `Hole.madeFrom` for the places in a cache where a record can stand.
* **`read_strict`** — a field that is added or repeated, and a required one that is removed, make
  the file one that is refused.  An optional field that is removed is read as `null`.
  `missing_field_is_read` is a file with this gap.
-/

namespace Hookup

/-! ## Members and slots -/

namespace Json

variable {shape : Shape} {members before after : List (Option String × Json)} {name : String}
  {value : Json} {slots : List (Option Json)} {presence : Presence}

lemma membersNamed_insert : membersNamed name (before ++ (some name, value) :: after) =
    membersNamed name before ++ value :: membersNamed name after := by
  simp [membersNamed]

lemma membersNamed_insert_of_ne {key : Option String} (h : key ≠ some name) :
    membersNamed name (before ++ (key, value) :: after) = membersNamed name (before ++ after) := by
  simp [membersNamed, h]

lemma membersNamed_eq_nil_iff :
    membersNamed name members = [] ↔ some name ∉ members.map Prod.fst := by
  rw [membersNamed, List.map_eq_nil_iff, List.filter_eq_nil_iff, List.mem_map]
  simp only [decide_eq_true_eq, not_exists, not_and]

/-- A field that has a slot stands in the object once at most. -/
lemma not_mem_of_fieldSlot? {slot : Option Json}
    (h : fieldSlot? (before ++ (some name, value) :: after) (name, presence) = some slot) :
    some name ∉ (before ++ after).map Prod.fst := by
  rw [fieldSlot?, membersNamed_insert] at h
  rw [List.map_append, List.mem_append, not_or, ← membersNamed_eq_nil_iff,
    ← membersNamed_eq_nil_iff]
  cases hbefore : membersNamed name before with
  | nil =>
      cases hafter : membersNamed name after with
      | nil => exact ⟨rfl, rfl⟩
      | cons _ _ => simp [hbefore, hafter] at h
  | cons _ rest => cases rest <;> simp [hbefore] at h

/-- A field that stands in the object once has its value as its slot. -/
lemma fieldSlot?_insert (h : some name ∉ (before ++ after).map Prod.fst) :
    fieldSlot? (before ++ (some name, value) :: after) (name, presence) = some (some value) := by
  rw [List.map_append, List.mem_append, not_or, ← membersNamed_eq_nil_iff,
    ← membersNamed_eq_nil_iff] at h
  rw [fieldSlot?, membersNamed_insert, h.1, h.2]
  rfl

lemma fieldSlot?_insert_of_ne {field : String × Presence} (h : field.1 ≠ name) :
    fieldSlot? (before ++ (some name, value) :: after) field =
      fieldSlot? (before ++ after) field := by
  rw [fieldSlot?, fieldSlot?, membersNamed_insert_of_ne (by simpa using h.symm)]

/-- The slot of a field that is missing. -/
lemma fieldSlot?_of_not_mem (h : some name ∉ members.map Prod.fst) :
    fieldSlot? members (name, presence) = presence.missing? := by
  rw [fieldSlot?, membersNamed_eq_nil_iff.2 h]

/-- Only a field with a default has an empty slot. -/
lemma exists_of_fieldSlot? {slot : Option Json} (hpresence : presence ≠ .defaulted)
    (h : fieldSlot? members (name, presence) = some slot) : ∃ json, slot = some json := by
  rw [fieldSlot?] at h
  split at h
  · cases presence with
    | required => cases h
    | optional => exact ⟨.null, (Option.some.inj h).symm⟩
    | defaulted => exact absurd rfl hpresence
  · exact ⟨_, (Option.some.inj h).symm⟩
  · cases h

lemma slots?_object_eq_some : shape.slots? (.object members) = some slots ↔
    (∀ m ∈ members, shape.allows m.1 = true) ∧
      shape.fields.mapM (fieldSlot? members) = some slots := by
  rw [Shape.slots?, ← List.all_eq_true]
  split_ifs with h
  · exact ⟨fun hslots => ⟨h, hslots⟩, fun hslots => hslots.2⟩
  · refine ⟨fun hslots => ?_, fun hslots => absurd hslots.1 h⟩
    cases hslots

lemma not_mem_of_slots? (hfield : (name, presence) ∈ shape.fields)
    (h : shape.slots? (.object (before ++ (some name, value) :: after)) = some slots) :
    some name ∉ (before ++ after).map Prod.fst := by
  obtain ⟨slot, hslot⟩ := Outcome.exists_of_mapM_eq_some (slots?_object_eq_some.1 h).2 _ hfield
  exact not_mem_of_fieldSlot? hslot

/-- **The value of one member makes one slot**, and leaves the others as they are. -/
theorem exists_slots (hpresent : ∀ field ∈ shape.fields, field.2 ≠ .defaulted)
    (h : shape.slots? (.object (before ++ (some name, value) :: after)) = some slots) :
    ∃ slot : String × Presence → Json, ∀ value',
      shape.slots? (.object (before ++ (some name, value') :: after)) =
        some (shape.fields.map fun field =>
          some (if field.1 = name then value' else slot field)) := by
  obtain ⟨hallowed, hslots⟩ := slots?_object_eq_some.1 h
  let slot (field : String × Presence) : Json :=
    ((fieldSlot? (before ++ after) field).getD none).getD .null
  refine ⟨slot, fun value' => slots?_object_eq_some.2 ⟨?_, Outcome.mapM_eq_some_map ?_⟩⟩
  · simpa [or_imp, forall_and] using hallowed
  · rintro ⟨field, presence⟩ hfield
    obtain ⟨found, hfound⟩ := Outcome.exists_of_mapM_eq_some hslots _ hfield
    by_cases hname : field = name
    · subst hname
      rw [fieldSlot?_insert (not_mem_of_fieldSlot? hfound), if_pos rfl]
    · obtain ⟨json, rfl⟩ := exists_of_fieldSlot? (hpresent _ hfield) hfound
      rw [fieldSlot?_insert_of_ne hname] at hfound
      rw [fieldSlot?_insert_of_ne hname, if_neg hname]
      simp only [slot, hfound, Option.getD_some]

/-- A member that is not a field, or whose name is there already, leaves an object without slots. -/
lemma slots?_insert (hclosed : shape.closed = true)
    (h : name ∉ shape.fields.map Prod.fst ∨ some name ∈ (before ++ after).map Prod.fst) :
    shape.slots? (.object (before ++ (some name, value) :: after)) = none := by
  rw [← Option.not_isSome_iff_eq_none, Option.isSome_iff_exists]
  rintro ⟨slots, hslots⟩
  have hallowed := (slots?_object_eq_some.1 hslots).1 (some name, value)
    (List.mem_append_right _ List.mem_cons_self)
  rw [Shape.allows, hclosed, Bool.not_true, Bool.false_or, List.any_eq_true] at hallowed
  obtain ⟨field, hfield, hname⟩ := hallowed
  rw [beq_iff_eq] at hname
  subst hname
  rcases h with h | h
  · exact h (List.mem_map_of_mem hfield)
  · exact not_mem_of_slots? hfield hslots h

/-- A required field that is removed leaves an object without slots. -/
lemma slots?_remove_required (hfield : (name, .required) ∈ shape.fields)
    (h : shape.slots? (.object (before ++ (some name, value) :: after)) = some slots) :
    shape.slots? (.object (before ++ after)) = none := by
  rw [← Option.not_isSome_iff_eq_none, Option.isSome_iff_exists]
  rintro ⟨slots', hslots'⟩
  obtain ⟨slot, hslot⟩ :=
    Outcome.exists_of_mapM_eq_some (slots?_object_eq_some.1 hslots').2 _ hfield
  rw [fieldSlot?_of_not_mem (not_mem_of_slots? hfield h)] at hslot
  cases hslot

/-- An optional field that is removed leaves the slots that it has with `null` for its value. -/
lemma slots?_remove_optional (hnodup : (shape.fields.map Prod.fst).Nodup)
    (hfield : (name, .optional) ∈ shape.fields)
    (h : shape.slots? (.object (before ++ (some name, value) :: after)) = some slots) :
    shape.slots? (.object (before ++ after)) =
      shape.slots? (.object (before ++ (some name, .null) :: after)) := by
  have hmissing := not_mem_of_slots? hfield h
  obtain ⟨hbefore, hrest⟩ := List.forall_mem_append.1 (slots?_object_eq_some.1 h).1
  obtain ⟨hallowed, hafter⟩ := List.forall_mem_cons.1 hrest
  have hwithout : (before ++ after).all (shape.allows ·.1) = true :=
    List.all_eq_true.2 (List.forall_mem_append.2 ⟨hbefore, hafter⟩)
  have hwith : (before ++ (some name, .null) :: after).all (shape.allows ·.1) = true :=
    List.all_eq_true.2 (List.forall_mem_append.2
      ⟨hbefore, List.forall_mem_cons.2 ⟨hallowed, hafter⟩⟩)
  rw [Shape.slots?, Shape.slots?, if_pos hwithout, if_pos hwith]
  refine Outcome.mapM_congr fun field hmem => ?_
  by_cases hname : field.1 = name
  · obtain rfl : field = (name, .optional) := List.inj_on_of_nodup_map hnodup hmem hfield hname
    rw [fieldSlot?_of_not_mem hmissing, fieldSlot?_insert hmissing]
    rfl
  · rw [fieldSlot?_insert_of_ne hname]

end Json

open Json

/-! ## Wholes and their parts -/

section Parts

variable {ι κ α β γ : Type}

/-- Whether what is made of a part follows from it, or there is nothing to be made whatever it
is. -/
def Settled (rest : β → Option α) : Prop :=
  ∃ make : Option (β → α), ∀ b, rest b = make.map fun make => make b

/-- Whether a whole is read by reading one part of it and making the whole of that, or cannot be
read whatever the part is. -/
def MadeFrom (read : ι → Option β) (whole : ι → Option α) : Prop :=
  ∃ make : Option (β → α), ∀ part, whole part = make.bind fun make => (read part).map make

namespace Settled

lemma pure (make : β → α) : Settled fun b => some (make b) := ⟨some make, fun _ => rfl⟩

/-- Another part may be read in between. -/
lemma bind {other : Option γ} {rest : γ → β → Option α} (h : ∀ c, Settled (rest c)) :
    Settled fun b => other.bind fun c => rest c b := by
  cases other with
  | none => exact ⟨none, fun _ => rfl⟩
  | some c => exact h c

end Settled

namespace MadeFrom

variable {read : ι → Option β} {whole : ι → Option α} {part part' : ι}

lemma self (read : ι → Option β) : MadeFrom read read := ⟨some id, fun part => by simp⟩

lemma none (read : ι → Option β) : MadeFrom read fun _ => (.none : Option α) :=
  ⟨.none, fun _ => rfl⟩

/-- Another part may be read first. -/
lemma bind {other : Option γ} {whole : γ → ι → Option α} (h : ∀ c, MadeFrom read (whole c)) :
    MadeFrom read fun part => other.bind fun c => whole c part := by
  cases other with
  | none => exact MadeFrom.none read
  | some c => exact h c

/-- The part itself is read, and then what comes after it. -/
lemma settled {rest : β → Option α} (h : Settled rest) :
    MadeFrom read fun part => (read part).bind rest := by
  obtain ⟨make, hrest⟩ := h
  refine ⟨make, fun part => ?_⟩
  show (read part).bind rest = _
  generalize read part = found
  cases make <;> cases found <;> simp [hrest]

lemma map (h : MadeFrom read whole) (f : α → γ) : MadeFrom read fun part => (whole part).map f := by
  obtain ⟨make, hwhole⟩ := h
  refine ⟨make.map (f ∘ ·), fun part => ?_⟩
  cases make <;> simp [hwhole, Function.comp_def]

/-- A part of a part is a part. -/
lemma comp {inner : κ → Option γ} {fill : κ → ι} (h : MadeFrom read whole)
    (hread : MadeFrom inner fun part => read (fill part)) :
    MadeFrom inner fun part => whole (fill part) := by
  obtain ⟨make, hwhole⟩ := h
  obtain ⟨make', hread⟩ := hread
  refine ⟨make.bind fun make => make'.map (make ∘ ·), fun part => ?_⟩
  have hpart : read (fill part) = _ := hread part
  show whole (fill part) = _
  rw [hwhole, hpart]
  cases make <;> cases make' <;> simp

/-- A whole that can be read is read for every part that can be. -/
lemma exists_map (h : MadeFrom read whole) {a : α} (hwhole : whole part = some a) :
    ∃ make, ∀ part', whole part' = (read part').map make := by
  obtain ⟨make, hmake⟩ := h
  cases make with
  | none =>
      rw [hmake] at hwhole
      cases hwhole
  | some make => exact ⟨make, hmake⟩

/-- A whole is not read if its part is not. -/
lemma eq_none (h : MadeFrom read whole) (hread : read part = .none) : whole part = .none := by
  obtain ⟨make, hmake⟩ := h
  rw [hmake, hread]
  cases make <;> rfl

/-- Of parts that are read alike the same whole is made. -/
lemma congr (h : MadeFrom read whole) (hread : read part = read part') :
    whole part = whole part' := by
  obtain ⟨make, hmake⟩ := h
  rw [hmake, hmake, hread]

/-- A list is read by reading one of its items. -/
lemma mapM (f : ι → Option β) (before after : List ι) :
    MadeFrom f fun item => (before ++ item :: after).mapM f := by
  simp only [List.mapM_append, List.mapM_cons, Option.bind_eq_bind, Option.bind_assoc,
    Option.pure_def, Option.bind_some]
  exact .bind fun front => .settled (.bind fun back => .pure fun b => front ++ b :: back)

end MadeFrom

end Parts

/-! ## Records in a cache -/

/-- The kinds of records that a cache consists of. -/
inductive RecordKind where
  | cache
  | entry
  | topology
  | timing
  | connection
deriving DecidableEq

/-- What can stand under a field: records, lists and maps of them, and what may be missing. -/
inductive ValueKind where
  | record (kind : RecordKind)
  | list (item : ValueKind)
  | map (value : ValueKind)
  | optionalText
  | optionalTime

namespace RecordKind

/-- The fields of the records of a kind. -/
def shape : RecordKind → Shape
  | cache => HookupCache.shape
  | entry => Entry.shape
  | topology => EntryTopology.shape
  | timing => Timing.shape
  | connection => Connection.shape

/-- What a record of a kind is read into. -/
def Value : RecordKind → Type
  | cache => HookupCache
  | entry => Entry
  | topology => EntryTopology
  | timing => Timing
  | connection => Connection

/-- Read a record of a kind. -/
def read? : (kind : RecordKind) → Json → Option kind.Value
  | cache => HookupCache.ofJson?
  | entry => Entry.ofJson?
  | topology => EntryTopology.ofJson?
  | timing => Timing.ofJson?
  | connection => Connection.ofJson?

/-- The fields under which other records stand, and those that may be missing. -/
inductive Field : RecordKind → String → ValueKind → Prop
  | hookupType : Field cache "hookup_type" .optionalText
  | entries : Field cache "hookup_dict" (.map (.record entry))
  | chains : Field entry "hookup" (.map (.list (.record connection)))
  | timings : Field entry "timing" (.map (.record timing))
  | topology : Field entry "sysdef" (.record topology)
  | timingStart : Field timing "start" .optionalTime
  | timingStop : Field timing "stop" .optionalTime
  | connectionStop : Field connection "stop_gpstime" .optionalTime

end RecordKind

namespace ValueKind

/-- What a value of a kind is read into. -/
def Value : ValueKind → Type
  | record kind => kind.Value
  | list item => List item.Value
  | map value => KeyMap String value.Value
  | optionalText => Option String
  | optionalTime => Option GpsTime

/-- Read a value of a kind. -/
def read? : (kind : ValueKind) → Json → Option kind.Value
  | record kind => kind.read?
  | list item => asList? item.read?
  | map value => asMap? value.read?
  | optionalText => asOption? asText?
  | optionalTime => asOption? GpsTime.ofJson?

end ValueKind

namespace RecordKind

variable {kind : RecordKind} {json json' : Json}

lemma fields_present (kind : RecordKind) : ∀ field ∈ kind.shape.fields, field.2 ≠ .defaulted := by
  cases kind <;> decide

lemma fields_nodup (kind : RecordKind) : (kind.shape.fields.map Prod.fst).Nodup := by
  cases kind <;> decide

lemma shape_closed (kind : RecordKind) : kind.shape.closed = true := by
  cases kind <;> rfl

/-- Records are read from their slots. -/
lemma exists_ofSlots (kind : RecordKind) :
    ∃ ofSlots : List (Option Json) → Option kind.Value,
      ∀ json, kind.read? json = (kind.shape.slots? json).bind ofSlots := by
  cases kind <;> exact ⟨_, fun _ => rfl⟩

lemma read?_eq_none (h : kind.shape.slots? json = none) : kind.read? json = none := by
  obtain ⟨ofSlots, hread⟩ := kind.exists_ofSlots
  rw [hread, h, Option.bind_none]

lemma read?_congr (h : kind.shape.slots? json = kind.shape.slots? json') :
    kind.read? json = kind.read? json' := by
  obtain ⟨ofSlots, hread⟩ := kind.exists_ofSlots
  rw [hread, hread, h]

lemma exists_slots?_of_read? {a : kind.Value} (h : kind.read? json = some a) :
    ∃ slots, kind.shape.slots? json = some slots := by
  obtain ⟨ofSlots, hread⟩ := kind.exists_ofSlots
  rw [hread] at h
  obtain ⟨slots, hslots, -⟩ := Option.bind_eq_some_iff.1 h
  exact ⟨slots, hslots⟩

/-- The fields that may be missing are read as such from `null`. -/
lemma exists_field_of_optional {name : String} (h : (name, .optional) ∈ kind.shape.fields) :
    ∃ value, kind.Field name value ∧ ∃ a, value.read? .null = some a := by
  cases kind with
  | cache =>
      obtain rfl : name = "hookup_type" := by simpa [shape, HookupCache.shape] using h
      exact ⟨_, .hookupType, none, rfl⟩
  | entry => simp [shape, Entry.shape] at h
  | topology => simp [shape, EntryTopology.shape] at h
  | timing =>
      obtain rfl | rfl : name = "start" ∨ name = "stop" := by simpa [shape, Timing.shape] using h
      · exact ⟨_, .timingStart, none, rfl⟩
      · exact ⟨_, .timingStop, none, rfl⟩
  | connection =>
      obtain rfl : name = "stop_gpstime" := by simpa [shape, Connection.shape] using h
      exact ⟨_, .connectionStop, none, rfl⟩

/-- **A record is read by reading what stands under a field**, with the rest of it as it is. -/
theorem Field.madeFrom {name : String} {value : ValueKind} (hfield : kind.Field name value)
    (before after : List (Option String × Json)) :
    MadeFrom value.read? fun json =>
      kind.read? (.object (before ++ (some name, json) :: after)) := by
  by_cases hslots : ∃ json slots,
      kind.shape.slots? (.object (before ++ (some name, json) :: after)) = some slots
  · obtain ⟨json, slots, hslots⟩ := hslots
    obtain ⟨slot, hslot⟩ := exists_slots kind.fields_present hslots
    -- each record is read from a list of slots, and the value under the field is one of them
    cases hfield <;>
      simp only [read?, HookupCache.ofJson?, Entry.ofJson?, Timing.ofJson?, Connection.ofJson?,
        shape] at hslot ⊢ <;>
      simp only [hslot] <;>
      simp only [HookupCache.shape, Entry.shape, Timing.shape, Connection.shape, List.map_cons,
        List.map_nil, String.reduceEq, if_true, if_false, Option.bind_eq_bind, Option.bind_some]
    all_goals repeat' first | exact .pure _ | refine .bind fun _ => ?_ | refine .settled ?_
  · have hnone : ∀ json, kind.read? (.object (before ++ (some name, json) :: after)) = none := by
      intro json
      refine read?_eq_none ?_
      rw [← Option.not_isSome_iff_eq_none, Option.isSome_iff_exists]
      exact fun h => hslots ⟨json, h⟩
    simp only [hnone]
    exact .none _

end RecordKind

/-- The places in a value of a kind at which a record can stand, each with what stands around it. -/
inductive Hole (kind : RecordKind) : ValueKind → Type where
  | here : Hole kind (.record kind)
  | field {whole : RecordKind} {name : String} {value : ValueKind}
      (isField : whole.Field name value) (before after : List (Option String × Json))
      (inner : Hole kind value) : Hole kind (.record whole)
  | item {item : ValueKind} (before after : List Json) (inner : Hole kind item) :
      Hole kind (.list item)
  | member {value : ValueKind} (name : String) (before after : List (Option String × Json))
      (inner : Hole kind value) : Hole kind (.map value)

namespace Hole

variable {kind : RecordKind} {whole : ValueKind}

/-- The whole value with a record at a place. -/
def fill (json : Json) : {whole : ValueKind} → Hole kind whole → Json
  | _, here => json
  | _, @field _ _ name _ _ before after inner =>
    .object (before ++ (some name, inner.fill json) :: after)
  | _, item before after inner => .array (before ++ inner.fill json :: after)
  | _, member name before after inner =>
    .object (before ++ (some name, inner.fill json) :: after)

/-- **A whole is read by reading the record at one place**, with all that stands around it as it
is. -/
theorem madeFrom (hole : Hole kind whole) :
    MadeFrom kind.read? fun json => whole.read? (hole.fill json) := by
  induction hole with
  | here => exact .self _
  | field isField before after inner ih => exact (isField.madeFrom before after).comp ih
  | @item value before after inner ih =>
      have hitems : MadeFrom value.read? fun json =>
          (ValueKind.list value).read? (.array (before ++ json :: after)) :=
        .mapM value.read? before after
      exact hitems.comp ih
  | @member value name before after inner ih =>
      have hmembers : MadeFrom value.read? fun json =>
          (ValueKind.map value).read? (.object (before ++ (some name, json) :: after)) := by
        let entry? (member : Option String × Json) : Option (String × value.Value) := do
          pure (← member.1, ← value.read? member.2)
        have hmember : MadeFrom value.read? fun json => entry? (some name, json) :=
          .settled (.pure fun a => (name, a))
        have hread : ∀ json,
            (ValueKind.map value).read? (.object (before ++ (some name, json) :: after)) =
              ((before ++ (some name, json) :: after).mapM entry?).map KeyMap.ofList :=
          fun json => Option.map_eq_bind.symm
        simp only [hread]
        exact ((MadeFrom.mapM entry? before after).comp hmember).map KeyMap.ofList
      exact hmembers.comp ih

end Hole

/-! ## Changes to a cache -/

namespace HookupCache

variable {json : Json} {members members' : List (Option String × Json)}
  {cache cache' : HookupCache}

/-- What is not read as a cache is refused, be it for its version or for another fault. -/
lemma exists_fault_of_ofJson? (h : ofJson? json = none) :
    ∃ fault, ofCurrentJson json = .error fault := by
  cases hread : ofCurrentJson json with
  | error fault => exact ⟨fault, rfl⟩
  | ok cache =>
      rw [(ofCurrentJson_eq_ok hread).1] at h
      cases h

/-- An object that is read as a cache has its version as the slot of this field. -/
lemma fieldSlot?_of_ofJson? (h : ofJson? (.object members) = some cache) :
    ∃ version, fieldSlot? members ("format_version", .required) = some (some version) ∧
      versionOf? version = some cache.formatVersion := by
  obtain ⟨version, rest, hslots, hversion⟩ := slots?_of_ofJson? h
  have hfields := (slots?_object_eq_some.1 hslots).2
  rw [shape, List.mapM_cons, Option.bind_eq_bind, Option.bind_eq_some_iff] at hfields
  obtain ⟨slot, hslot, hfields⟩ := hfields
  obtain ⟨_, -, hcons⟩ := Option.bind_eq_some_iff.1 hfields
  obtain ⟨rfl, -⟩ := List.cons.inj (Option.some.inj hcons)
  exact ⟨version, hslot, hversion⟩

lemma namedVersion?_of_ofJson? (h : ofJson? (.object members) = some cache) :
    namedVersion? (.object members) = some (some cache.formatVersion) := by
  obtain ⟨version, hslot, hversion⟩ := fieldSlot?_of_ofJson? h
  obtain ⟨_, _, hslots, -⟩ := slots?_of_ofJson? h
  have hallowed : ∀ m ∈ members, versionShape.allows m.1 = true := by
    rintro ⟨name, value⟩ hm
    have hname := (slots?_object_eq_some.1 hslots).1 _ hm
    cases name with
    | none => cases hname
    | some name => rfl
  have hversionSlots : versionShape.slots? (.object members) = some [some version] := by
    refine slots?_object_eq_some.2 ⟨hallowed, ?_⟩
    rw [versionShape, List.mapM_cons, fieldSlot?_of_required hslot]
    rfl
  have hnull : asOption? versionOf? version = some (some cache.formatVersion) := by
    rw [asOption?.eq_def]
    split
    · cases hversion
    · rw [hversion, Option.map_some]
  rw [namedVersion?, hversionSlots]
  exact hnull

/-- A cache is read from an object, if its version is the current one. -/
lemma ofCurrentJson_object (h : ofJson? (.object members) = some cache)
    (hversion : cache.formatVersion = cacheFormatVersion) :
    ofCurrentJson (.object members) = .ok cache := by
  simp only [ofCurrentJson, namedVersion?_of_ofJson? h, h, hversion, if_true]
  rfl

/-- Objects with the same version are read as caches with the same version. -/
lemma formatVersion_eq (h : ofJson? (.object members) = some cache)
    (h' : ofJson? (.object members') = some cache')
    (hslot : fieldSlot? members ("format_version", .required) =
      fieldSlot? members' ("format_version", .required)) :
    cache.formatVersion = cache'.formatVersion := by
  obtain ⟨version, hversion, hread⟩ := fieldSlot?_of_ofJson? h
  obtain ⟨version', hversion', hread'⟩ := fieldSlot?_of_ofJson? h'
  rw [hslot, hversion', Option.some.injEq, Option.some.injEq] at hversion
  rw [hversion, hread] at hread'
  exact Option.some.inj hread'

/-! ## The main statement -/

/-- Whether the text of a file stands for a value. -/
def Holds (folder : Folder) (path : String) (json : Json) : Prop :=
  ∃ s time, folder.file? path = some ⟨.text s, time⟩ ∧ Json.parse? s = some json

/-- Whether a cache is read from every file that holds a value. -/
def ReadsAs (json : Json) (cache : HookupCache) : Prop :=
  ∀ folder path, Holds folder path json → read folder path = .ok cache

/-- Whether every file that holds a value is refused as one in another format. -/
def Refused (json : Json) : Prop :=
  ∀ folder path, Holds folder path json →
    ∃ fault, read folder path = .error (.cacheFormat path fault)

lemma read_of_holds {folder : Folder} {path : String} (h : Holds folder path json) :
    read folder path = (ofCurrentJson json).mapError (.cacheFormat path) := by
  obtain ⟨s, time, hfile, hparse⟩ := h
  rw [read_of_file? hfile, ofText, hparse]

lemma readsAs_of_ofCurrentJson (h : ofCurrentJson json = .ok cache) : ReadsAs json cache := by
  intro folder path hholds
  rw [read_of_holds hholds, h]
  rfl

lemma refused_of_ofJson? (h : ofJson? json = none) : Refused json := by
  intro folder path hholds
  obtain ⟨fault, hfault⟩ := exists_fault_of_ofJson? h
  exact ⟨fault, by rw [read_of_holds hholds, hfault]; rfl⟩

section Changes

variable {kind : RecordKind} (hole : Hole kind (.record .cache))
  {before after : List (Option String × Json)} {name : String} {value : Json}

/-- A record that cannot be read makes the file one that is refused. -/
lemma refused_of_slots? (h : kind.shape.slots? (.object members) = none) :
    Refused (hole.fill (.object members)) :=
  refused_of_ofJson? (hole.madeFrom.eq_none (RecordKind.read?_eq_none h))

/-- A record in a cache that is read has slots. -/
lemma exists_slots?_of_fill (h : ofCurrentJson (hole.fill (.object members)) = .ok cache) :
    ∃ slots, kind.shape.slots? (.object members) = some slots := by
  have hread := (ofCurrentJson_eq_ok h).1
  obtain ⟨make, hmake⟩ := hole.madeFrom.exists_map hread
  have hrecord : (kind.read? (.object members)).map make = some cache := hmake _ ▸ hread
  obtain ⟨a, ha, -⟩ := Option.map_eq_some_iff.1 hrecord
  exact RecordKind.exists_slots?_of_read? ha

/-- A change to the members of a record that leaves the version of the cache as it is leaves the
cache in the current format. -/
lemma ofCurrentJson_fill (h : ofCurrentJson (hole.fill (.object members)) = .ok cache)
    (hread : ofJson? (hole.fill (.object members')) = some cache')
    (hslot : kind = .cache → fieldSlot? members ("format_version", .required) =
      fieldSlot? members' ("format_version", .required)) :
    ofCurrentJson (hole.fill (.object members')) = .ok cache' := by
  obtain ⟨hwhole, hversion⟩ := ofCurrentJson_eq_ok h
  cases hole with
  | here =>
      refine ofCurrentJson_object hread ?_
      rw [← formatVersion_eq hwhole hread (hslot rfl), hversion]
  | @field _ name _ isField before after inner =>
      have hname : "format_version" ≠ name := by cases isField <;> decide
      refine ofCurrentJson_object hread ?_
      rw [← formatVersion_eq hwhole hread, hversion]
      rw [fieldSlot?_insert_of_ne hname, fieldSlot?_insert_of_ne hname]

/-- **An optional field that is missing is read as one that is `null`.** -/
lemma exists_readsAs_of_optional (hfield : (name, .optional) ∈ kind.shape.fields)
    (h : ofCurrentJson (hole.fill (.object (before ++ (some name, value) :: after))) = .ok cache) :
    ∃ cache', ReadsAs (hole.fill (.object (before ++ after))) cache' ∧
      ReadsAs (hole.fill (.object (before ++ (some name, .null) :: after))) cache' := by
  obtain ⟨slots, hslots⟩ := exists_slots?_of_fill hole h
  obtain ⟨fieldKind, hkind, missing, hmissing⟩ := RecordKind.exists_field_of_optional hfield
  -- the cache is read by reading this one field
  have hmade := hole.madeFrom.comp (hkind.madeFrom before after)
  obtain ⟨make, hmake⟩ := hmade.exists_map (ofCurrentJson_eq_ok h).1
  have hnull : ofJson? (hole.fill (.object (before ++ (some name, .null) :: after))) =
      some (make missing) := by
    have hread := hmake .null
    rwa [hmissing] at hread
  have hwithout : ofJson? (hole.fill (.object (before ++ after))) = some (make missing) := by
    refine Eq.trans (hole.madeFrom.congr (RecordKind.read?_congr ?_)) hnull
    exact slots?_remove_optional kind.fields_nodup hfield hslots
  have hname : kind = .cache → "format_version" ≠ name := by
    rintro rfl rfl
    simp [RecordKind.shape, shape] at hfield
  refine ⟨make missing, readsAs_of_ofCurrentJson ?_, readsAs_of_ofCurrentJson ?_⟩
  · exact ofCurrentJson_fill hole h hwithout fun hcache => fieldSlot?_insert_of_ne (hname hcache)
  · refine ofCurrentJson_fill hole h hnull fun hcache => ?_
    rw [fieldSlot?_insert_of_ne (hname hcache), fieldSlot?_insert_of_ne (hname hcache)]

end Changes

/-- **Cache files are read strictly, up to fields that may be missing.**  The record of a cache in
the current format is read as this cache.  If one of the records in it, at whatever place, has a
further member with a name that is not one of its fields, or that stands there already, or if a
required field of it is missing, then the file is refused as one in another format.  If an optional
field is missing, then a cache is read, the same as if the field were `null`. -/
theorem read_strict (cache : HookupCache) (hversion : cache.formatVersion = cacheFormatVersion) :
    ofCurrentJson cache.toJson = .ok cache ∧
    ∀ whole, ofCurrentJson whole = .ok cache → ReadsAs whole cache ∧
      ∀ kind (hole : Hole kind (.record .cache)) members, whole = hole.fill (.object members) →
        (∀ before after name value, members = before ++ after →
          name ∉ kind.shape.fields.map Prod.fst ∨ some name ∈ members.map Prod.fst →
            Refused (hole.fill (.object (before ++ (some name, value) :: after)))) ∧
        ∀ before after name value, members = before ++ (some name, value) :: after →
          ((name, .required) ∈ kind.shape.fields →
            Refused (hole.fill (.object (before ++ after)))) ∧
          ((name, .optional) ∈ kind.shape.fields → ∃ cache',
            ReadsAs (hole.fill (.object (before ++ after))) cache' ∧
            ReadsAs (hole.fill (.object (before ++ (some name, .null) :: after))) cache') := by
  constructor
  · simp only [ofCurrentJson, namedVersion?_toJson, hversion, codec.read_encode, if_true]
    rfl
  intro whole hwhole
  refine ⟨readsAs_of_ofCurrentJson hwhole, fun kind hole members hfill => ?_⟩
  subst hfill
  obtain ⟨slots, hslots⟩ := exists_slots?_of_fill hole hwhole
  constructor
  · rintro before after name value rfl hname
    exact refused_of_slots? hole (slots?_insert kind.shape_closed hname)
  · rintro before after name value rfl
    constructor
    · intro hfield
      exact refused_of_slots? hole (slots?_remove_required hfield hslots)
    · intro hfield
      exact exists_readsAs_of_optional hole hfield hwhole

/-- A file to which a value is written holds it. -/
lemma holds_of_writeText {folder written : Folder} {path : String} {now : CivilTime}
    (hjson : json.Printable) (h : folder.writeText path now json.pretty = .ok written) :
    Holds written path json :=
  ⟨json.pretty, now, Folder.file?_of_writeText h, by rw [pretty, parse?_printAt hjson]⟩

/-- A cache of one entry with one chain, which is empty. -/
def timed : HookupCache where
  formatVersion := cacheFormatVersion
  builtFor := ⟨7⟩
  hookupType := none
  stations := ["HH"]
  entries := .ofList [("HH1:A", {
    key := "HH1:A"
    chains := .ofList [("e", [])]
    complete := .empty
    hookupTypes := .empty
    columns := .empty
    timings := .ofList [("e", ⟨some ⟨7⟩, none⟩)]
    topology := ⟨"parts_hera", []⟩ })]
  partTypes := .empty

/-- The place of its timing. -/
def timingPlace : Hole .timing (.record .cache) :=
  .field .entries
    [(some "format_version", .int 1), (some "at_date_gps", .int 7), (some "hookup_type", .null),
      (some "hookup_list", .array [.text "HH"])]
    [(some "part_type_cache", .object [])]
    (.member "HH1:A" [] []
      (.field .timings
        [(some "entry_key", .text "HH1:A"), (some "hookup", .object [(some "e", .array [])]),
          (some "fully_connected", .object []), (some "hookup_type", .object []),
          (some "columns", .object [])]
        [(some "sysdef", .object [(some "hookup_type", .text "parts_hera"),
          (some "polarizations", .array [])])]
        (.member "e" [] [] .here)))

/-- A file of this cache is refused if its timing has a comment, and is read without the start. -/
theorem read_strict_timed : timed.formatVersion = cacheFormatVersion ∧
    timed.toJson = timingPlace.fill (.object [(some "start", .int 7), (some "stop", .null)]) ∧
    (∃ folder fault, Holds folder "c.json" (timingPlace.fill
        (.object [(some "start", .int 7), (some "comment", .bool true), (some "stop", .null)])) ∧
      read folder "c.json" = .error (.cacheFormat "c.json" fault)) ∧
    ∃ cache', ReadsAs (timingPlace.fill (.object [(some "stop", .null)])) cache' := by
  have hfill : timed.toJson =
      timingPlace.fill (.object [(some "start", .int 7), (some "stop", .null)]) := rfl
  obtain ⟨hread, hchanges⟩ := read_strict timed rfl
  obtain ⟨-, hplaces⟩ := hchanges _ hread
  obtain ⟨hinsert, hremove⟩ := hplaces .timing timingPlace _ hfill
  have hprintable : (timingPlace.fill (.object [(some "start", .int 7),
      (some "comment", .bool true), (some "stop", .null)])).Printable := by
    simp only [timingPlace, Hole.fill, List.cons_append, List.nil_append]
    repeat' first
      | exact .null
      | exact .bool _
      | exact .string _
      | exact printable_int _
      | refine .array ?_
      | refine .object ?_
      | exact List.forall_mem_nil _
      | refine List.forall_mem_cons.2 ⟨?_, ?_⟩
  have hnew : (Folder.empty.writeText "c.json" ⟨0, 0⟩ (timingPlace.fill (.object
      [(some "start", .int 7), (some "comment", .bool true), (some "stop", .null)])).pretty).isOk =
      true := by
    decide +kernel
  obtain ⟨folder, hwrite⟩ := Outcome.exists_of_isOk hnew
  have hholds := holds_of_writeText hprintable hwrite
  obtain ⟨fault, hfault⟩ := hinsert [(some "start", .int 7)] [(some "stop", .null)] "comment"
    (.bool true) rfl (.inl (by decide)) folder "c.json" hholds
  obtain ⟨cache', hcache', -⟩ := (hremove [] [(some "stop", .null)] "start" (.int 7) rfl).2
    (by decide)
  exact ⟨rfl, hfill, ⟨folder, fault, hholds, hfault⟩, cache', hcache'⟩

/-- **A field that is missing does not make a file one in another format**: the record of the cache
without its hookup type, which is one of its fields, is read from a file as the cache itself. -/
theorem missing_field_is_read : timed.formatVersion = cacheFormatVersion ∧
    "hookup_type" ∈ shape.fields.map Prod.fst ∧ ∃ before after folder,
      timed.toJson = .object (before ++ (some "hookup_type", .null) :: after) ∧
      Holds folder "c.json" (.object (before ++ after)) ∧ read folder "c.json" = .ok timed := by
  let before : List (Option String × Json) :=
    [(some "format_version", .int 1), (some "at_date_gps", .int 7)]
  let after : List (Option String × Json) := [(some "hookup_list", .array [.text "HH"]),
    (some "hookup_dict", timed.entries.toJson), (some "part_type_cache", .object [])]
  have hobject : timed.toJson = .object (before ++ (some "hookup_type", .null) :: after) := rfl
  have hprintable : (Json.object (before ++ after)).Printable := by
    have hwhole := codec.printable timed
    rw [hobject] at hwhole
    cases hwhole with
    | object h =>
        obtain ⟨hbefore, hrest⟩ := List.forall_mem_append.1 h
        exact .object (List.forall_mem_append.2 ⟨hbefore, (List.forall_mem_cons.1 hrest).2⟩)
  have hnew : (Folder.empty.writeText "c.json" ⟨0, 0⟩
      (Json.object (before ++ after)).pretty).isOk = true := by
    decide +kernel
  obtain ⟨folder, hwrite⟩ := Outcome.exists_of_isOk hnew
  have hread : (ofCurrentJson (.object (before ++ after))).toOption = some timed := by
    decide +kernel
  have hholds := holds_of_writeText hprintable hwrite
  exact ⟨rfl, by decide, before, after, folder, hobject, hholds,
    readsAs_of_ofCurrentJson (Outcome.toOption_eq_some_iff.1 hread) folder "c.json" hholds⟩

end HookupCache

end Hookup
