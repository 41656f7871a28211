import Palimpsest.Wire.Codec

/-!
# Records in both of their forms

A record is written as an object and may also be sent as an array of its fields. `written` is the
one text for both: it takes the fields of a record in the order of their declaration, each with its
value or with `none` where an object leaves it out, and a `Form`. An array has no way to leave a
field out, and has null in its place.

**What was written in either form is found again field by field**
(`slots?_written`): the reader of records ends up with the slots `slotIn form` of the fields. What
is left for a type of records is to say what its fields are (`Record`) and how each slot is read
(`required_slotIn`, `optional_slotIn`, `withDefault_slotIn`, `lenient_slotIn`). A slot that may be
null needs that no value is written as null, so `Legible` asks for both.
-/

namespace Palimpsest.Wire

/-! ## Values that can be read back -/

/-- The value is read back from what is written for it, and is not mistaken for an absent one. -/
structure Legible {α : Type} [Codec α] (a : α) : Prop where
  decode_encode : decode (encode a) = some a
  encode_ne_null : encode a ≠ .null

/-- Types whose values can all be read back. -/
class Lossless (α : Type) [Codec α] : Prop where
  legible : ∀ a : α, Legible a

@[simp] theorem legible {α : Type} [Codec α] [Lossless α] (a : α) : Legible a :=
  Lossless.legible a

instance : Lossless Bool := ⟨fun _ => ⟨rfl, nofun⟩⟩

instance : Lossless String := ⟨fun _ => ⟨rfl, nofun⟩⟩

theorem decode_offset (n : Offset) : decode (encode n) = some n := by
  change Offset.ofNat? n.val = some n
  simp [Offset.ofNat?]

instance : Lossless Offset := ⟨fun n => ⟨decode_offset n, nofun⟩⟩

section Containers

variable {α : Type} [Codec α]

theorem mapM_decode_encode {items : List α} (h : ∀ a ∈ items, Legible a) :
    (items.map encode).mapM decode = some items := by
  induction items with
  | nil => rfl
  | cons a rest ih =>
    have hrest := ih fun b hb => h b (List.mem_cons_of_mem a hb)
    simp [(h a List.mem_cons_self).decode_encode, hrest]

theorem legible_list {items : List α} (h : ∀ a ∈ items, Legible a) : Legible items :=
  ⟨mapM_decode_encode h, nofun⟩

instance [Lossless α] : Lossless (List α) := ⟨fun _ => legible_list fun a _ => legible a⟩

end Containers

/-! ## Fields of objects by name -/

theorem countField_eq_count (name : String) (fields : List (String × Json)) :
    Json.countField name fields = (fields.map Prod.fst).count name := by
  induction fields with
  | nil => rfl
  | cons field rest ih =>
    obtain ⟨key, value⟩ := field
    simp only [Json.countField, ih, List.map_cons, List.count_cons, beq_iff_eq, Nat.add_comm]

theorem field?_eq_none {name : String} {fields : List (String × Json)}
    (h : name ∉ fields.map Prod.fst) : Json.field? name fields = none := by
  induction fields with
  | nil => rfl
  | cons field rest ih =>
    obtain ⟨key, value⟩ := field
    simp only [List.map_cons, List.mem_cons, not_or] at h
    simp [Json.field?, Ne.symm h.1, ih h.2]

/-! ## The two forms -/

/-- The forms in which a record may be sent. -/
inductive Form where
  | object
  | array

/-- Fields in the order of their declaration; one without a value is left out of an object. -/
abbrev Fields := List (String × Option Json)

def stated (fields : Fields) : List (String × Json) :=
  fields.filterMap fun field => field.2.map (Prod.mk field.1)

def written (fields : Fields) : Form → Json
  | .object => .object (stated fields)
  | .array => .array (fields.map fun field => field.2.getD .null)

def slotIn : Form → Option Json → Slot
  | _, some value => .given value
  | .object, none => .missing
  | .array, none => .given .null

@[simp] theorem stated_some (name : String) (value : Json) (fields : Fields) :
    stated ((name, some value) :: fields) = (name, value) :: stated fields := rfl

@[simp] theorem stated_none (name : String) (fields : Fields) :
    stated ((name, none) :: fields) = stated fields := rfl

theorem names_stated_sublist (fields : Fields) :
    ((stated fields).map Prod.fst).Sublist (fields.map Prod.fst) := by
  induction fields with
  | nil => exact .slnil
  | cons field rest ih =>
    obtain ⟨key, value | value⟩ := field
    · exact ih.cons key
    · exact ih.cons_cons key

theorem field?_stated {fields : Fields} (hnames : (fields.map Prod.fst).Nodup)
    {field : String × Option Json} (h : field ∈ fields) :
    Json.field? field.1 (stated fields) = field.2 := by
  induction fields with
  | nil => simp at h
  | cons head rest ih =>
    rw [List.map_cons, List.nodup_cons] at hnames
    rcases List.mem_cons.1 h with rfl | hrest
    · obtain ⟨key, value | value⟩ := field
      · rw [stated_none]
        exact field?_eq_none fun hmem => hnames.1 ((names_stated_sublist rest).subset hmem)
      · simp [Json.field?]
    · have hne : head.1 ≠ field.1 := fun heq =>
        hnames.1 (heq ▸ List.mem_map_of_mem hrest)
      obtain ⟨key, value | value⟩ := head
      · exact ih hnames.2 hrest
      · simp [Json.field?, hne, ih hnames.2 hrest]

/-- **What was written in either form is found again**, in the order of the declaration. -/
theorem slots?_written (fields : Fields) (hnames : (fields.map Prod.fst).Nodup) (form : Form) :
    slots? (fields.map Prod.fst) (written fields form) =
      some (fields.map fun field => slotIn form field.2) := by
  cases form with
  | object =>
    have honce : ¬ ((fields.map Prod.fst).any fun name =>
        decide (1 < Json.countField name (stated fields))) = true := by
      rw [List.any_eq_true]
      rintro ⟨name, -, h⟩
      have hcount := List.nodup_iff_count.1 (hnames.sublist (names_stated_sublist fields)) name
      rw [decide_eq_true_eq, countField_eq_count] at h
      omega
    rw [written, slots?, if_neg honce, List.map_map]
    refine congrArg some ?_
    apply List.map_congr_left
    intro field hfield
    rw [Function.comp_apply, field?_stated hnames hfield]
    cases field.2 <;> rfl
  | array =>
    have hslot : ∀ value : Option Json, Slot.given (value.getD .null) = slotIn .array value := by
      intro value
      cases value <;> rfl
    simp [written, slots?, Function.comp_def, hslot]

/-! ## Slots -/

section Slots

variable {α : Type} [Codec α]

@[simp] theorem required_slotIn {a : α} (h : Legible a) (form : Form) :
    (slotIn form (some (encode a))).required = some a := h.decode_encode

@[simp] theorem withDefault_slotIn {a : α} (h : Legible a) (default : α) (form : Form) :
    (slotIn form (some (encode a))).withDefault default = some a := h.decode_encode

theorem optional_given {a : α} (h : Legible a) :
    (Slot.given (encode a)).optional = some (some a) := by
  rw [Slot.optional]
  · rw [h.decode_encode, Option.map_some]
  · exact h.encode_ne_null

theorem lenient_given {a : α} (h : Legible a) :
    (Slot.given (encode a)).lenient = some (some a) := by
  rw [Slot.lenient]
  · rw [h.decode_encode, Option.map_some]
  · exact h.encode_ne_null

@[simp] theorem optional_slotIn {value : Option α} (h : ∀ a ∈ value, Legible a) (form : Form) :
    (slotIn form (some (encode value))).optional = some value := by
  cases value with
  | none => rfl
  | some a => exact optional_given (h a rfl)

@[simp] theorem lenient_slotIn {value : Option α} (h : ∀ a ∈ value, Legible a) (form : Form) :
    (slotIn form (value.map encode)).lenient = some value := by
  cases value with
  | none => cases form <;> rfl
  | some a => exact lenient_given (h a rfl)

end Slots

/-! ## Records -/

/-- Types that are written as an object of their fields. -/
class Record (α : Type) [Codec α] where
  /-- The fields in the order of their declaration. -/
  fields : α → Fields
  nodup_names : ∀ a, ((fields a).map Prod.fst).Nodup := by simp
  encode_eq : ∀ a, encode a = written (fields a) .object := by intro a; rfl

section Records

variable {α : Type} [Codec α] [Record α] {a : α}

/-- The values of all fields in the order of their declaration, with null for no value. -/
def fieldValues (a : α) : List Json := (Record.fields a).map fun field => field.2.getD .null

/-- The record is read back from the object that is written for it, and from the array of all its
fields. -/
structure ReadsBack (a : α) : Prop where
  of_object : decode (encode a) = some a
  of_array : decode (.array (fieldValues a)) = some a

theorem slots?_record (a : α) (form : Form) :
    slots? ((Record.fields a).map Prod.fst) (written (Record.fields a) form) =
      some ((Record.fields a).map fun field => slotIn form field.2) :=
  slots?_written (Record.fields a) (Record.nodup_names a) form

theorem ReadsBack.of_forms (h : ∀ form, decode (written (Record.fields a) form) = some a) :
    ReadsBack a where
  of_object := by
    rw [Record.encode_eq a]
    exact h .object
  of_array := h .array

/-- A record whose reader looks at nothing but the slots is read back where the slots are read
right. -/
theorem ReadsBack.of_slots {read : List Slot → Option α}
    (hdecode : ∀ value, decode value = slots? ((Record.fields a).map Prod.fst) value >>= read)
    (hread : ∀ form, read ((Record.fields a).map fun field => slotIn form field.2) = some a) :
    ReadsBack a := by
  apply ReadsBack.of_forms
  intro form
  rw [hdecode, slots?_record]
  exact hread form

theorem ReadsBack.legible (h : ReadsBack a) : Legible a where
  decode_encode := h.of_object
  encode_ne_null := by
    rw [Record.encode_eq a]
    nofun

end Records

/-- Types of records that can all be read back in both forms. The proof that is tried first is for
records whose reader looks at the slots and takes each for itself. -/
class LosslessRecord (α : Type) [Codec α] [Record α] : Prop where
  readsBack : ∀ a : α, ReadsBack a := by
    intro a
    refine ReadsBack.of_slots (fun _ => rfl) fun form => ?_
    simp [Record.fields]

export LosslessRecord (readsBack)

instance {α : Type} [Codec α] [Record α] [LosslessRecord α] : Lossless α :=
  ⟨fun a => (readsBack a).legible⟩

end Palimpsest.Wire
