import Palimpsest.Text.Lines

/-!
# Command lines

What a command line asks for. Arguments are read from left to right: words that start with a
hyphen are options until a lone double hyphen has been met, all others stand for the operands of
the command in their order. A command line that is not understood is refused as a whole, whatever
is wrong with it.
-/

namespace Palimpsest.Command

/-- The two ways to carry an offset. -/
inductive Direction where
  | toExpanded
  | toSource
deriving DecidableEq

inductive Request where
  /-- Say whether the layout of an expansion is sound. -/
  | check (output : String)
  /-- Carry an offset, or a span where a length is given. -/
  | map (output : String) (direction : Direction) (offset : Offset) (length : Option Offset)
  /-- Carry a range of the expanded text to the source. -/
  | range (output source : String) (range : Text.Range)
  /-- Show the remarks of the expander at the source. -/
  | diagnostics (output source : String) (config : Option String)
deriving DecidableEq

/-- Why nothing is run. -/
inductive Refusal where
  | usage
  | help
  | version
deriving DecidableEq

/-- The operands of a command and the value of its one option. -/
structure Arguments where
  operands : List String
  option : Option String

/-- Whether a word is meant as an option. A lone hyphen is not. -/
def isOption (word : String) : Bool := word.startsWith "-" && word != "-"

/-- An option and the value attached to it behind an equals sign. -/
def splitOption (word : String) : String × Option String :=
  let chars := word.toList
  let name := String.ofList (chars.takeWhile (· != '='))
  match chars.dropWhile (· != '=') with
  | _ :: value => (name, some (String.ofList value))
  | [] => (name, none)

def Arguments.addOperands (limit : Nat) (found : Arguments) (words : List String) :
    Except Refusal Arguments :=
  if limit < found.operands.length + words.length then .error .usage
  else .ok { found with operands := found.operands ++ words }

/-- A value for the option, which may stand once only. -/
def Arguments.setOption (found : Arguments) (value : String) : Except Refusal Arguments :=
  if found.option.isSome then .error .usage else .ok { found with option := some value }

/-- Reads the words behind the name of a command that takes at most `limit` operands and the
option `option?`. While `awaited` holds, the next word is the value of the option. -/
def Arguments.readFrom (limit : Nat) (option? : Option String) (awaited : Bool)
    (found : Arguments) : List String → Except Refusal Arguments
  | [] => if awaited then .error .usage else .ok found
  | word :: rest =>
    if awaited then
      if isOption word then .error .usage
      else do readFrom limit option? false (← found.setOption word) rest
    else if word == "--" then found.addOperands limit rest
    else if word.startsWith "-h" || word == "--help" then .error .help
    else if isOption word then
      match splitOption word with
      | (name, attached) =>
        if option? != some name then .error .usage
        else
          match attached with
          | some value => do readFrom limit option? false (← found.setOption value) rest
          | none => readFrom limit option? true found rest
    else do readFrom limit option? false (← found.addOperands limit [word]) rest

def digits? (chars : List Char) : Option Nat :=
  if !chars.isEmpty && chars.all Char.isDigit then
    some (chars.foldl (fun n c => 10 * n + (c.toNat - '0'.toNat)) 0)
  else none

/-- A number without a sign or with a plus sign. -/
def nat? (word : String) : Option Nat :=
  match word.toList with
  | '+' :: rest => digits? rest
  | chars => digits? chars

def offset? (word : String) : Option Offset := (nat? word).bind Offset.ofNat?

/-- A line or a column. Zero may have a minus sign. -/
def count? (word : String) : Option Count32 :=
  let number :=
    match word.toList with
    | '-' :: rest => if digits? rest == some 0 then some 0 else none
    | _ => nat? word
  number.bind fun n => if h : n < 0x100000000 then some ⟨n, h⟩ else none

def path? (word : String) : Option String := if word.isEmpty then none else some word

def direction? : String → Option Direction
  | "to-expanded" => some .toExpanded
  | "to-original" => some .toSource
  | _ => none

/-- A value that is there only where the option was given. -/
def optional? {α : Type} (read : String → Option α) : Option String → Option (Option α)
  | none => some none
  | some word => (read word).map some

def Request.ofArguments? (command : String) (given : Arguments) : Option Request :=
  match command, given.operands with
  | "check", [output] => return .check (← path? output)
  | "map", [output, direction, offset] =>
    return .map (← path? output) (← direction? direction) (← offset? offset)
      (← optional? offset? given.option)
  | "range", [output, source, startLine, startColumn, stopLine, stopColumn] =>
    return .range (← path? output) (← path? source)
      ⟨⟨← count? startLine, ← count? startColumn⟩, ⟨← count? stopLine, ← count? stopColumn⟩⟩
  | "diagnostics", [output, source] =>
    return .diagnostics (← path? output) (← path? source) (← optional? path? given.option)
  | _, _ => none

/-- The commands, with the number of their operands and their option. -/
def shapes : List (String × Nat × Option String) :=
  [("check", 1, none), ("map", 3, some "--length"), ("range", 6, none),
   ("diagnostics", 2, some "--config")]

def Request.read : List String → Except Refusal Request
  | [] => .error .usage
  | word :: rest =>
    if word.startsWith "-V" || word == "--version" then .error .version
    else if word.startsWith "-h" || word == "--help" || word == "help" then .error .help
    else
      match shapes.lookup word with
      | none => .error .usage
      | some (limit, option?) => do
        let given ← Arguments.readFrom limit option? false ⟨[], none⟩ rest
        match Request.ofArguments? word given with
        | some request => .ok request
        | none => .error .usage

end Palimpsest.Command
