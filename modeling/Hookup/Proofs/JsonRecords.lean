import Hookup.Json.Entries
import Hookup.Proofs.JsonText
import Hookup.Proofs.KeyMap
import Hookup.Proofs.Outcome

/-!
# Records are read back

An encoder and a reader that belong together form a codec: what the encoder gives can be printed,
and the reader takes it back (`Codec`).  Lists, maps and values that may be missing have a codec if
what they consist of has one, and a record is read slot by slot (`slots?_record`), so that the
codecs of all records follow from those of their fields.
-/

namespace Hookup

lemma KeyMap.ofList_toList {κ α : Type} [Ord κ] [Std.TransOrd κ] [Std.LawfulEqOrd κ] [DecidableEq κ]
    (m : KeyMap κ α) : KeyMap.ofList m.toList = m := by
  refine KeyMap.ext_get? fun key => ?_
  rw [KeyMap.get?_ofList, KeyMap.lookupEntry_reverse_toList]

namespace Json

/-- Whether everything that an encoder gives can be printed and is read back. -/
structure Codec {α : Type} (encode : α → Json) (read : Json → Option α) : Prop where
  printable : ∀ a, (encode a).Printable
  read_encode : ∀ a, read (encode a) = some a

namespace Codec

variable {α : Type} {encode : α → Json} {read : Json → Option α}

lemma text : Codec Json.text asText? := ⟨fun s => .string (some s), fun _ => rfl⟩

lemma bool : Codec Json.bool asBool? := ⟨.bool, fun _ => rfl⟩

lemma list (h : Codec encode read) : Codec (ofList encode) (asList? read) := by
  constructor
  · intro items
    refine .array fun item hitem => ?_
    obtain ⟨a, -, rfl⟩ := List.mem_map.1 hitem
    exact h.printable a
  · intro items
    exact Outcome.mapM_map_eq_some fun a _ => h.read_encode a

lemma entries (h : Codec encode read) (entries : List (String × α)) :
    (entries.map fun (name, value) => ((some name : Option String), encode value)).mapM
      (fun (name, value) => do pure (← name, ← read value)) = some entries :=
  Outcome.mapM_map_eq_some fun entry _ => by simp [h.read_encode]

lemma map (h : Codec encode read) : Codec (ofMap encode) (asMap? read) := by
  constructor
  · intro m
    refine .object fun member hmember => ?_
    obtain ⟨entry, -, rfl⟩ := List.mem_map.1 hmember
    exact h.printable entry.2
  · intro m
    rw [ofMap, asMap?, h.entries]
    show some (KeyMap.ofList m.toList) = some m
    rw [KeyMap.ofList_toList]

lemma option (h : Codec encode read) (hnull : ∀ a, encode a ≠ .null) :
    Codec (ofOption encode) (asOption? read) := by
  constructor
  · intro a
    cases a with
    | none => exact .null
    | some a => exact h.printable a
  · intro a
    cases a with
    | none => rfl
    | some a =>
        show asOption? read (encode a) = some (some a)
        rw [asOption?.eq_def]
        split
        next heq => exact absurd heq (hnull a)
        next => rw [h.read_encode, Option.map_some]

end Codec

/-! ## Records -/

lemma printable_record {members : List (String × Json)} (h : ∀ m ∈ members, m.2.Printable) :
    (record members).Printable := by
  refine .object fun member hmember => ?_
  obtain ⟨m, hm, rfl⟩ := List.mem_map.1 hmember
  exact h m hm

/-- In a record without repetitions a name stands for one value. -/
lemma membersNamed_record {members : List (String × Json)} (hnodup : (members.map Prod.fst).Nodup)
    {name : String} {value : Json} (h : (name, value) ∈ members) :
    membersNamed name (members.map fun (name, value) => (some name, value)) = [value] := by
  obtain ⟨before, after, rfl⟩ := List.append_of_mem h
  rw [List.map_append, List.map_cons, List.nodup_append', List.nodup_cons] at hnodup
  obtain ⟨-, ⟨hafter, -⟩, hbefore⟩ := hnodup
  have hother : ∀ others : List (String × Json), name ∉ others.map Prod.fst →
      (others.map fun (name, value) => (some name, value)).filter
        (fun member => decide (member.1 = some name)) = [] := by
    intro others hothers
    refine List.filter_eq_nil_iff.2 fun member hmember heq => hothers ?_
    obtain ⟨other, hother, rfl⟩ := List.mem_map.1 hmember
    exact List.mem_map.2 ⟨other, hother, Option.some.inj (of_decide_eq_true heq)⟩
  rw [membersNamed, List.map_append, List.map_cons, List.filter_append, List.filter_cons_of_pos
    (by simp), hother before fun hmem => hbefore hmem List.mem_cons_self, hother after hafter]
  rfl

/-- The slot of a field that a record has is its value there. -/
lemma fieldSlot?_record {members : List (String × Json)} (hnodup : (members.map Prod.fst).Nodup)
    {field : String × Presence} {value : Json} (h : (field.1, value) ∈ members) :
    fieldSlot? (members.map fun (name, value) => (some name, value)) field =
      some (some value) := by
  rw [fieldSlot?, membersNamed_record hnodup h]

/-- A required field has the same slot where it need not be there. -/
lemma fieldSlot?_of_required {members : List (Option String × Json)} {name : String}
    {slot : Option Json} (h : fieldSlot? members (name, .required) = some slot)
    (presence : Presence) : fieldSlot? members (name, presence) = some slot := by
  rw [fieldSlot?] at h ⊢
  match hnamed : membersNamed name members with
  | [] =>
      rw [hnamed] at h
      cases h
  | [_] =>
      rw [hnamed] at h
      exact h
  | _ :: _ :: _ =>
      rw [hnamed] at h
      cases h

/-- **The slots of a record are its values**, if it has the fields of the shape in their order. -/
theorem slots?_record {shape : Shape} {members : List (String × Json)}
    (hnames : shape.fields.map Prod.fst = members.map Prod.fst)
    (hnodup : (members.map Prod.fst).Nodup) :
    shape.slots? (record members) = some (members.map fun m => some m.2) := by
  have hallowed : (members.map fun (name, value) => ((some name : Option String), value)).all
      (shape.allows ·.1) = true := by
    refine List.all_eq_true.2 fun member hmember => ?_
    obtain ⟨m, hm, rfl⟩ := List.mem_map.1 hmember
    have hmem : m.1 ∈ shape.fields.map Prod.fst := hnames ▸ List.mem_map_of_mem hm
    obtain ⟨field, hfield, hname⟩ := List.mem_map.1 hmem
    rw [Shape.allows, Bool.or_eq_true]
    exact .inr (List.any_eq_true.2 ⟨field, hfield, beq_iff_eq.2 hname⟩)
  have hslots : ∀ (fields : List (String × Presence)) (part : List (String × Json)),
      fields.map Prod.fst = part.map Prod.fst → (∀ m ∈ part, m ∈ members) →
      fields.mapM (fieldSlot? (members.map fun (name, value) => (some name, value))) =
        some (part.map fun m => some m.2) := by
    intro fields
    induction fields with
    | nil =>
        intro part hpart _
        rw [List.map_nil, eq_comm, List.map_eq_nil_iff] at hpart
        rw [hpart]
        rfl
    | cons field fields ih =>
        intro part hpart hmem
        obtain ⟨m, part, rfl, hname, hrest⟩ := List.map_eq_cons_iff.1 hpart.symm
        have hslot : fieldSlot? (members.map fun (name, value) => (some name, value)) field =
            some (some m.2) :=
          fieldSlot?_record hnodup (hname ▸ hmem m List.mem_cons_self)
        have hslots := ih part hrest.symm fun m hm => hmem m (List.mem_cons_of_mem _ hm)
        rw [List.mapM_cons, hslot, hslots]
        rfl
  rw [record, Shape.slots?, if_pos hallowed]
  exact hslots _ _ hnames fun _ => id

end Json

open Json

/-! ## Times, connections and entries -/

lemma Json.asInt?_int (n : Int) : asInt? (.int n) = some n := by
  show (JsonNumber.ofInt n).toInt? = some n
  by_cases hneg : n < 0
  · have hform : JsonNumber.ofInt n = ⟨true, n.natAbs, [], none⟩ := by
      rw [JsonNumber.ofInt, decide_eq_true hneg]
    rw [hform]
    show (if n.natAbs = 0 then none else some (-(n.natAbs : Int))) = some n
    rw [if_neg (by omega)]
    exact congrArg some (by omega)
  · have hform : JsonNumber.ofInt n = ⟨false, n.natAbs, [], none⟩ := by
      rw [JsonNumber.ofInt, decide_eq_false hneg]
    rw [hform]
    show some (n.natAbs : Int) = some n
    exact congrArg some (by omega)

lemma Json.asNatUpTo?_int {highest n : Nat} (h : n ≤ highest) :
    asNatUpTo? highest (.int n) = some n := by
  rw [asNatUpTo?, asInt?_int, Option.bind_eq_bind, Option.bind_some, if_pos (by omega)]
  simp

lemma Json.printable_int (n : Int) : (Json.int n).Printable := .number fun _ hd => nomatch hd

lemma GpsTime.ofInt?_toInt (t : GpsTime) : ofInt? t.toInt = some t := by
  have hlow : -bound ≤ t.toInt := t.seconds.le_toInt
  have hhigh : t.toInt < bound := t.seconds.toInt_lt
  rw [ofInt?, if_pos ⟨hlow, hhigh⟩, ofInt, toInt, Int64.ofInt_toInt]

lemma GpsTime.codec : Codec GpsTime.toJson GpsTime.ofJson? := by
  constructor
  · exact fun t => printable_int t.toInt
  · intro t
    rw [toJson, ofJson?, asInt?_int, Option.bind_some, ofInt?_toInt]

lemma GpsTime.codec_option : Codec (ofOption GpsTime.toJson) (asOption? GpsTime.ofJson?) :=
  GpsTime.codec.option fun _ h => nomatch h

lemma Connection.codec : Codec Connection.toJson Connection.ofJson? := by
  constructor
  · intro c
    refine printable_record ?_
    simp [Codec.text.printable, GpsTime.codec.printable, GpsTime.codec_option.printable]
  · intro c
    rw [ofJson?, toJson, slots?_record rfl (by simp)]
    simp [Codec.text.read_encode, GpsTime.codec.read_encode, GpsTime.codec_option.read_encode]

lemma Timing.codec : Codec Timing.toJson Timing.ofJson? := by
  constructor
  · intro timing
    refine printable_record ?_
    simp [GpsTime.codec_option.printable]
  · intro timing
    rw [ofJson?, toJson, slots?_record rfl (by simp)]
    simp [GpsTime.codec_option.read_encode]

lemma EntryTopology.codec : Codec EntryTopology.toJson EntryTopology.ofJson? := by
  constructor
  · intro t
    refine printable_record ?_
    simp [Codec.text.printable, Codec.text.list.printable]
  · intro t
    rw [ofJson?, toJson, slots?_record rfl (by simp)]
    simp [Codec.text.read_encode, Codec.text.list.read_encode]

lemma Entry.codec : Codec Entry.toJson Entry.ofJson? := by
  constructor
  · intro e
    refine printable_record ?_
    simp [Codec.text.printable, Connection.codec.list.map.printable, Codec.bool.map.printable,
      Codec.text.map.printable, Codec.text.list.map.printable, Timing.codec.map.printable,
      EntryTopology.codec.printable]
  · intro e
    rw [ofJson?, toJson, slots?_record rfl (by simp)]
    simp [Codec.text.read_encode, Connection.codec.list.map.read_encode,
      Codec.bool.map.read_encode, Codec.text.map.read_encode, Codec.text.list.map.read_encode,
      Timing.codec.map.read_encode, EntryTopology.codec.read_encode]

end Hookup
