import Palimpsest.Decimal.Binary64

/-!
# JSON values

The values of a JSON text. An object keeps its fields in the order of the text, repeated keys
included, because a reader of records refuses a repeated key where a reader of tables does not.

`Json.malformed` is a value whose text obeys the grammar and that still has no meaning: an escape
for half of a surrogate pair, a number out of range, an object with such a key, or an array or
object nested too deeply. It does no harm where the value is passed over; whoever looks at it
refuses it.
-/

namespace Palimpsest

open Decimal (Binary64)

/-- A number of a JSON text: an integer where it is written as one and fits 64 bits with its sign,
a binary floating-point number otherwise. -/
inductive Number where
  | integer (value : Int)
  | float (value : Binary64)
deriving DecidableEq

/-- Whether two numbers are equal. An integer is never equal to a floating-point number. -/
def Number.same : Number → Number → Bool
  | .integer a, .integer b => a == b
  | .float a, .float b => a.same b
  | _, _ => false

theorem Number.same_refl : ∀ n : Number, n.same n = true
  | .integer _ => beq_self_eq_true _
  | .float value => value.same_refl

inductive Json where
  | null
  | bool (value : Bool)
  | number (value : Number)
  | string (value : String)
  | array (items : List Json)
  | object (fields : List (String × Json))
  | malformed

namespace Json

def nat (n : Nat) : Json := .number (.integer n)

def text? : Option String → Json
  | some s => .string s
  | none => .null

def field? (name : String) : List (String × Json) → Option Json
  | [] => none
  | (key, value) :: rest => if key = name then some value else field? name rest

def countField (name : String) : List (String × Json) → Nat
  | [] => 0
  | (key, _) :: rest => (if key = name then 1 else 0) + countField name rest

/-- The value of a field of an object, null where there is none. -/
def get (value : Json) (name : String) : Json :=
  match value with
  | object fields => (field? name fields).getD null
  | _ => null

/-- The object's fields; none where the value is no object. -/
def fields : Json → List (String × Json)
  | object fields => fields
  | _ => []

/-- The array's items; none where the value is no array. -/
def items : Json → List Json
  | array items => items
  | _ => []

def string? : Json → Option String
  | string s => some s
  | _ => none

mutual

/-- How deeply the value is nested: arrays and objects are one deeper than what they hold. -/
def depth : Json → Nat
  | null => 0
  | bool _ => 0
  | number _ => 0
  | string _ => 0
  | array items => depthItems items + 1
  | object fields => depthFields fields + 1
  | malformed => 0

def depthItems : List Json → Nat
  | [] => 0
  | item :: rest => max item.depth (depthItems rest)

def depthFields : List (String × Json) → Nat
  | [] => 0
  | (_, value) :: rest => max value.depth (depthFields rest)

end

def nat? : Json → Option Nat
  | number (.integer (.ofNat n)) => some n
  | _ => none

end Json

end Palimpsest
