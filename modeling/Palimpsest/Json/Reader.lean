import Palimpsest.Json.Number
import Palimpsest.Text.Hex

/-!
# Reading JSON texts

`Json.parse?` reads one value with blanks around it and nothing else. The grammar is strict: no
comments, no trailing commas, no raw control characters in strings, no leading zeros.

Grammar and meaning are kept apart. A value that obeys the grammar but means nothing is read as
`Json.malformed`, see `Palimpsest.Json.Value`.
-/

namespace Palimpsest.Json

def isBlank (c : Char) : Bool := c == ' ' || c == '\n' || c == '\t' || c == '\r'

def skipBlanks (text : List Char) : List Char := text.dropWhile isBlank

def hexUnit? (a b c d : Char) : Option Nat := Text.hexNumber? [a, b, c, d]

/-- One unit of a string: a character, or half of a surrogate pair from an escape. -/
inductive Piece where
  | char (c : Char)
  | unit (value : Nat)

/-- The character that a one-letter escape stands for. -/
def escaped? : Char → Option Char
  | '"' => some '"'
  | '\\' => some '\\'
  | '/' => some '/'
  | 'b' => some '\x08'
  | 'f' => some '\x0c'
  | 'n' => some '\n'
  | 'r' => some '\r'
  | 't' => some '\t'
  | _ => none

/-- The pieces of a string up to its closing quote, last piece first, and the text behind it. -/
def stringPieces (pieces : List Piece) : List Char → Option (List Piece × List Char)
  | [] => none
  | '"' :: rest => some (pieces, rest)
  | '\\' :: 'u' :: a :: b :: c :: d :: rest =>
    match hexUnit? a b c d with
    | none => none
    | some value =>
      if 0xD800 ≤ value && value ≤ 0xDFFF then stringPieces (.unit value :: pieces) rest
      else stringPieces (.char (Char.ofNat value) :: pieces) rest
  | '\\' :: letter :: rest =>
    match escaped? letter with
    | none => none
    | some c => stringPieces (.char c :: pieces) rest
  | c :: rest => if c.toNat < 0x20 then none else stringPieces (.char c :: pieces) rest

/-- The characters of pieces that are given last piece first, in order. Surrogate halves count in
pairs only. -/
def joinPieces (chars : List Char) : List Piece → Option (List Char)
  | [] => some chars
  | .char c :: rest => joinPieces (c :: chars) rest
  | .unit low :: .unit high :: rest =>
    if 0xDC00 ≤ low && high < 0xDC00 then
      joinPieces (Char.ofNat (0x10000 + (high - 0xD800) * 0x400 + (low - 0xDC00)) :: chars) rest
    else none
  | .unit _ :: _ => none

/-- A string behind its opening quote; the inner `none` is a string without a meaning. -/
def readString (text : List Char) : Option (Option String × List Char) := do
  let (pieces, rest) ← stringPieces [] text
  return ((joinPieces [] pieces).map String.ofList, rest)

def digits (text : List Char) : List Char × List Char :=
  (text.takeWhile Char.isDigit, text.dropWhile Char.isDigit)

def readNumber (negative : Bool) (text : List Char) : Option (Number.Literal × List Char) := do
  let (whole, rest) := digits text
  if whole.isEmpty || (whole.head? == some '0' && whole.length > 1) then none
  let (fraction, rest) ←
    match rest with
    | '.' :: rest =>
      let (written, rest) := digits rest
      if written.isEmpty then none else some (some written, rest)
    | rest => some (none, rest)
  let exponentPart (rest : List Char) : Option (Option (Bool × List Char) × List Char) :=
    let (down, rest) :=
      match rest with
      | '-' :: rest => (true, rest)
      | '+' :: rest => (false, rest)
      | rest => (false, rest)
    let (written, rest) := digits rest
    if written.isEmpty then none else some (some (down, written), rest)
  let (exponent, rest) ←
    match rest with
    | 'e' :: rest => exponentPart rest
    | 'E' :: rest => exponentPart rest
    | rest => some (none, rest)
  return (⟨negative, whole, fraction, exponent⟩, rest)

def ofLiteral (literal : Number.Literal) : Json :=
  match literal.value? with
  | some value => .number value
  | none => .malformed

/-- The deepest nesting of arrays and objects that has a meaning. -/
def deepest : Nat := 127

/-- The array of items that are given last item first. -/
def ofItems (depth : Nat) (items : List Json) : Json :=
  if depth > deepest then .malformed else .array items.reverse

/-- The object of fields that are given last field first. -/
def ofFields (depth : Nat) (fields : List (Option String × Json)) : Json :=
  if depth > deepest then .malformed
  else
    match fields.reverse.mapM fun (key, value) => key.map fun key => (key, value) with
    | some fields => .object fields
    | none => .malformed

mutual

/-- One value at the given depth, and the text behind it. -/
def readValue (depth : Nat) : Nat → List Char → Option (Json × List Char)
  | 0, _ => none
  | fuel + 1, text =>
    match skipBlanks text with
    | 'n' :: 'u' :: 'l' :: 'l' :: rest => some (.null, rest)
    | 't' :: 'r' :: 'u' :: 'e' :: rest => some (.bool true, rest)
    | 'f' :: 'a' :: 'l' :: 's' :: 'e' :: rest => some (.bool false, rest)
    | '"' :: rest =>
      match readString rest with
      | some (some s, rest) => some (.string s, rest)
      | some (none, rest) => some (.malformed, rest)
      | none => none
    | '[' :: rest =>
      match skipBlanks rest with
      | ']' :: rest => some (ofItems (depth + 1) [], rest)
      | rest => readItems (depth + 1) [] fuel rest
    | '\x7b' :: rest =>
      match skipBlanks rest with
      | '\x7d' :: rest => some (ofFields (depth + 1) [], rest)
      | rest => readFields (depth + 1) [] fuel rest
    | '-' :: rest => (readNumber true rest).map fun (literal, rest) => (ofLiteral literal, rest)
    | rest => (readNumber false rest).map fun (literal, rest) => (ofLiteral literal, rest)

def readItems (depth : Nat) (items : List Json) : Nat → List Char → Option (Json × List Char)
  | 0, _ => none
  | fuel + 1, text =>
    match readValue depth fuel text with
    | none => none
    | some (item, rest) =>
      match skipBlanks rest with
      | ',' :: rest => readItems depth (item :: items) fuel rest
      | ']' :: rest => some (ofItems depth (item :: items), rest)
      | _ => none

def readFields (depth : Nat) (fields : List (Option String × Json)) :
    Nat → List Char → Option (Json × List Char)
  | 0, _ => none
  | fuel + 1, text =>
    match skipBlanks text with
    | '"' :: rest =>
      match readString rest with
      | none => none
      | some (key, rest) =>
        match skipBlanks rest with
        | ':' :: rest =>
          match readValue depth fuel rest with
          | none => none
          | some (item, rest) =>
            match skipBlanks rest with
            | ',' :: rest => readFields depth ((key, item) :: fields) fuel rest
            | '\x7d' :: rest => some (ofFields depth ((key, item) :: fields), rest)
            | _ => none
        | _ => none
    | _ => none

end

/-- The one value of a text, `none` where the text breaks the grammar. At most two
steps go by between two characters, so the length of the text bounds the steps. -/
def parse? (text : String) : Option Json := do
  let chars := text.toList
  let (result, rest) ← readValue 0 (2 * chars.length + 2) chars
  if (skipBlanks rest).isEmpty then some result else none

end Palimpsest.Json
