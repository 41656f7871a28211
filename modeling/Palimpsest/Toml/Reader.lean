import Palimpsest.Toml.Tree

/-!
# Reading TOML

`Toml.read?` reads a document statement by statement: a header moves to a table, and a key with a
value adds to the table at hand. A document that breaks a rule anywhere is refused as a whole.
-/

namespace Palimpsest.Toml

def skipBlanks (text : List Char) : List Char := text.dropWhile fun c => c == ' ' || c == '\t'

/-- The text behind blanks, line breaks and comments; `comment` tells that one has begun. -/
def skipLines? (comment : Bool) : List Char → Option (List Char)
  | [] => some []
  | '\n' :: rest => skipLines? false rest
  | '\r' :: '\n' :: rest => skipLines? false rest
  | c :: rest =>
    if comment then if isTextChar c then skipLines? true rest else none
    else if c == ' ' || c == '\t' then skipLines? false rest
    else if c == '#' then skipLines? true rest
    else some (c :: rest)

/-- The text behind the end of a line, where nothing but a comment may stand before it. -/
def lineEnd? (text : List Char) : Option (List Char) :=
  let rest :=
    match skipBlanks text with
    | '#' :: comment => comment.dropWhile isTextChar
    | rest => rest
  match rest with
  | [] => some []
  | '\n' :: rest => some rest
  | '\r' :: '\n' :: rest => some rest
  | _ => none

/-! ## Keys -/

def isBareKeyChar (c : Char) : Bool := c.isAlphanum || c == '_' || c == '-'

def keyPart? (text : List Char) : Option (String × List Char) :=
  match text with
  | '"' :: rest => basicString? [] (text.length + 1) rest
  | '\'' :: rest => literalString? [] rest
  | _ =>
    let name := text.takeWhile isBareKeyChar
    if name.isEmpty then none else some (String.ofList name, text.drop name.length)

/-- A key: the parts before its last one, and the last. -/
def key? (path : List String) : Nat → List Char → Option (List String × String × List Char)
  | 0, _ => none
  | fuel + 1, text => do
    let (part, rest) ← keyPart? (skipBlanks text)
    match skipBlanks rest with
    | '.' :: rest => key? (path ++ [part]) fuel rest
    | rest => return (path, part, rest)

/-! ## Values -/

def endsWord (c : Char) : Bool := " \t\r\n,]\x7d#=[\x7b".toList.contains c

/-- A word, and the text behind it. A date and a time may stand with a space between them. -/
def splitWord (text : List Char) : List Char × List Char :=
  let word := text.takeWhile fun c => !endsWord c
  let rest := text.drop word.length
  match date? word, rest with
  | some (_, []), ' ' :: c :: more =>
    if c.isDigit then
      let time := (c :: more).takeWhile fun c => !endsWord c
      (word ++ ' ' :: time, (c :: more).drop time.length)
    else (word, rest)
  | _, _ => (word, rest)

def maxDepth : Nat := 80

mutual

/-- A value, inside so many arrays and inline tables. -/
def value? (depth : Nat) : Nat → List Char → Option (Node × List Char)
  | 0, _ => none
  | fuel + 1, text =>
    match text with
    | '"' :: _ | '\'' :: _ => (string? text).map fun (s, rest) => (.scalar (.string s), rest)
    | '[' :: rest => if maxDepth ≤ depth then none else items? (depth + 1) [] fuel rest
    | '\x7b' :: rest =>
      if maxDepth ≤ depth then none else pairs? (depth + 1) (.table .header []) fuel rest
    | _ =>
      let (word, rest) := splitWord text
      (word? word).map fun s => (.scalar s, rest)

/-- The items of an array up to its closing bracket, last one first. -/
def items? (depth : Nat) (found : List Node) : Nat → List Char → Option (Node × List Char)
  | 0, _ => none
  | fuel + 1, text =>
    match skipLines? false text with
    | none => none
    | some (']' :: rest) => some (.array false found.reverse, rest)
    | some text =>
      match value? depth fuel text with
      | none => none
      | some (item, rest) =>
        match skipLines? false rest with
        | some (',' :: rest) => items? depth (item :: found) fuel rest
        | some (']' :: rest) => some (.array false (item :: found).reverse, rest)
        | _ => none

/-- The fields of an inline table up to its closing brace. -/
def pairs? (depth : Nat) (table : Node) : Nat → List Char → Option (Node × List Char)
  | 0, _ => none
  | fuel + 1, text =>
    let close : Node → Node
      | .table origin fields => .table { origin with inline := true } fields
      | node => node
    match skipLines? false text with
    | none => none
    | some ('\x7d' :: rest) => some (close table, rest)
    | some text =>
      match key? [] (text.length + 1) text with
      | some (path, key, '=' :: rest) =>
        match value? depth fuel (skipBlanks rest) with
        | none => none
        | some (value, rest) =>
          match table with
          | .table origin fields =>
            match Node.addValue path key value origin fields with
            | none => none
            | some table =>
              match skipLines? false rest with
              | some (',' :: rest) => pairs? depth table fuel rest
              | some ('\x7d' :: rest) => some (close table, rest)
              | _ => none
          | _ => none
      | _ => none

end

/-! ## Statements -/

/-- The header at the front of a text, behind its opening brackets. -/
def header? (closing : List Char) (text : List Char) :
    Option (List String × String × List Char) := do
  let (path, key, rest) ← key? [] (text.length + 1) text
  if closing.isPrefixOf rest then
    return (path, key, ← lineEnd? (rest.drop closing.length))
  else failure

/-- The document with a value added to the table at hand. -/
def addAt (here path : List String) (key : String) (value : Node) (fields : Fields) :
    Option Fields := do
  match ← Node.descend false (Node.addValue path key value) here .header fields with
  | .table _ fields => some fields
  | _ => none

def fieldsOf? : Option Node → Option Fields
  | some (.table _ fields) => some fields
  | _ => none

/-- The statements of a text, added to a document; `here` is the path of the table at hand. -/
def statements? (here : List String) (fields : Fields) : Nat → List Char → Option Fields
  | 0, _ => none
  | fuel + 1, text =>
    match skipLines? false text with
    | none => none
    | some [] => some fields
    | some ('[' :: '[' :: rest) => do
      let (path, key, rest) ← header? [']', ']'] rest
      let fields ← fieldsOf? (Node.addToArray path key .header fields)
      statements? (path ++ [key]) fields fuel rest
    | some ('[' :: rest) => do
      let (path, key, rest) ← header? [']'] rest
      let fields ← fieldsOf? (Node.addTable path key .header fields)
      statements? (path ++ [key]) fields fuel rest
    | some text => do
      match ← key? [] (text.length + 1) text with
      | (path, key, '=' :: rest) =>
        let (value, rest) ← value? 0 (2 * text.length + 2) (skipBlanks rest)
        statements? here (← addAt here path key value fields) fuel (← lineEnd? rest)
      | _ => none

def dropMark : List Char → List Char
  | '\ufeff' :: rest => rest
  | text => text

/-- The fields of the document that a text stands for. -/
def read? (text : String) : Option Fields :=
  let chars := dropMark text.toList
  statements? [] [] (chars.length + 1) chars

end Palimpsest.Toml
