import Palimpsest.Json.Value
import Palimpsest.Offset

/-!
# Values on the wire

How the types of this library are written as JSON and read back.

A record is written as an object. It is read from an object, in which unknown fields are passed
over and a known field may stand once only, or from an array of its fields in the order of their
declaration. A field may be left out of an object where it is optional or has a default; an array
may end early before fields with a default only. `slots?` brings both forms to one list, with a
`Slot` for each field.
-/

namespace Palimpsest.Wire

/-- Types with a form as JSON. -/
class Codec (α : Type) where
  encode : α → Json
  decode : Json → Option α

export Codec (encode decode)

/-- One field of a record as it was sent. -/
inductive Slot where
  | given (value : Json)
  /-- The object does not have the field. -/
  | missing
  /-- The array ends before the field. -/
  | cutOff

/-- The fields of a record by name, for names in the order of declaration. -/
def slots? (names : List String) : Json → Option (List Slot)
  | .object fields =>
    if names.any fun name => decide (1 < Json.countField name fields) then none
    else
      some (names.map fun name =>
        match Json.field? name fields with
        | some value => .given value
        | none => .missing)
  | .array items =>
    if names.length < items.length then none
    else some (items.map .given ++ List.replicate (names.length - items.length) .cutOff)
  | _ => none

namespace Slot

variable {α : Type} [Codec α]

def required : Slot → Option α
  | given value => decode value
  | _ => none

def optional : Slot → Option (Option α)
  | given .null => some none
  | given value => (decode value).map some
  | missing => some none
  | cutOff => none

def withDefault (default : α) : Slot → Option α
  | given value => decode value
  | _ => some default

/-- A field that may be left out of both forms. -/
def lenient : Slot → Option (Option α)
  | given .null => some none
  | given value => (decode value).map some
  | _ => some none

end Slot

/-- A field that is written only where it has a value. -/
def present {α : Type} [Codec α] (name : String) : Option α → List (String × Json)
  | some value => [(name, encode value)]
  | none => []

/-- The name of a choice: a string, or an object with the name as its only field and null. -/
def choice? : Json → Option String
  | .string name => some name
  | .object [(name, .null)] => some name
  | _ => none

instance : Codec Bool where
  encode := .bool
  decode
    | .bool b => some b
    | _ => none

instance : Codec String where
  encode := .string
  decode := Json.string?

instance : Codec Offset where
  encode n := .nat n.val
  decode value := value.nat?.bind Offset.ofNat?

instance {α : Type} [Codec α] : Codec (Option α) where
  encode
    | some a => encode a
    | none => .null
  decode
    | .null => some none
    | value => (decode value).map some

instance {α : Type} [Codec α] : Codec (List α) where
  encode items := .array (items.map encode)
  decode
    | .array items => items.mapM decode
    | _ => none

end Palimpsest.Wire
