import Palimpsest.Pattern.Expr
import Palimpsest.Text.Hex

/-!
# Reading patterns

`Expr.read?` turns the text of a pattern into an `Expr`. The flags of a pattern are worked into the
expression as it is read, so that none are left in it. A text is refused where it is not well
formed, where it could match a part of a character, or where it is nested deeper than `maxHeight`.

This reader is one `Pattern.Compiler` among others, `Pattern.compile`, and nothing that is proved of
sessions depends on it. It sets no bound on the size of a pattern, and of the properties that have a
value it knows categories and scripts only: age, script extensions and the breaks between characters,
words and sentences are refused.

Groups (`readGroup`) and sets between brackets (`readSet`) hold each other's kind and are read with
fuel; every step takes at least one character, so the length of the text is enough.
-/

namespace Palimpsest.Pattern

open Text

/-- The switches that `(?…)` turns on and off. -/
structure Flags where
  caseless : Bool := false
  multiLine : Bool := false
  dotAll : Bool := false
  spaced : Bool := false
  crLf : Bool := false
  unicode : Bool := true

/-- The text behind blanks and comments; `comment` tells that one has begun. -/
def skipSpaced (comment : Bool) : List Char → List Char
  | [] => []
  | c :: rest =>
    if comment then skipSpaced (c != '\n') rest
    else if isBlank c then skipSpaced false rest
    else if c == '#' then skipSpaced true rest
    else c :: rest

/-- The text behind what the flags let a pattern hold for its reader only. -/
def Flags.skip (flags : Flags) (text : List Char) : List Char :=
  if flags.spaced then skipSpaced false text else text

/-! ## Numbers and codes -/

def charOfCode? (code : Nat) : Option Char :=
  if code.isValidChar then some (Char.ofNat code) else none

/-- A number of exactly `count` digits of base 16. -/
def hexDigits? (flags : Flags) (value : Nat) : Nat → List Char → Option (Nat × List Char)
  | 0, text => some (value, text)
  | count + 1, c :: rest => do
    hexDigits? flags (value * 16 + (← hexValue? c)) count (flags.skip rest)
  | _ + 1, [] => none

def untilBrace? (flags : Flags) (comment : Bool) (found : List Char) :
    List Char → Option (List Char × List Char)
  | [] => none
  | c :: rest =>
    if comment then untilBrace? flags (c != '\n') found rest
    else if flags.spaced && isBlank c then untilBrace? flags false found rest
    else if flags.spaced && c == '#' then untilBrace? flags true found rest
    else if c == '\x7d' then some (found.reverse, rest)
    else untilBrace? flags false (c :: found) rest

def digitRun (flags : Flags) (comment : Bool) (found : List Char) :
    List Char → List Char × List Char
  | [] => (found.reverse, [])
  | c :: rest =>
    if comment then digitRun flags (c != '\n') found rest
    else if c.isDigit then digitRun flags false (c :: found) rest
    else if found.isEmpty then ([], c :: rest)
    else if flags.spaced && isBlank c then digitRun flags false found rest
    else if flags.spaced && c == '#' then digitRun flags true found rest
    else (found.reverse, c :: rest)

def decimalValue (digits : List Char) : Nat :=
  digits.foldl (fun n c => n * 10 + (c.toNat - 0x30)) 0

/-- A number between blanks, if it has a digit and fits 32 bits. -/
def decimal? (flags : Flags) (text : List Char) : Option Nat × List Char :=
  let (digits, rest) := digitRun flags false [] (text.dropWhile isBlank)
  let value := decimalValue digits
  (if digits.isEmpty || decide (0x100000000 ≤ value) then none else some value,
    flags.skip (rest.dropWhile isBlank))

/-! ## Escapes -/

/-- What one escape or one plain character stands for. The flag of a literal tells that it was
given by two digits, and so is a byte where characters are bytes. -/
inductive Primitive where
  | literal (c : Char) (byte : Bool)
  | set (set : CharSet)
  | look (condition : Look)

/-- Characters that have a meaning of their own and lose it behind a backslash. -/
def isMeta (c : Char) : Bool := "\\.+*?()|[]\x7b\x7d^$#&-~".toList.contains c

def isEscapable (c : Char) : Bool :=
  isMeta c || (decide (c.toNat < 0x80) && !c.isAlphanum && c != '<' && c != '>')

/-- A set closed under case where the flags say so, and then turned around if asked. -/
def Flags.close (flags : Flags) (negated : Bool) (set : CharSet) : CharSet :=
  let set :=
    if !flags.caseless then set else if flags.unicode then .fold set else .foldAscii set
  if negated then .not set else set

/-- The set of a class letter. Where characters are bytes, the letters mean ASCII. -/
def classLetter? (flags : Flags) (c : Char) : Option CharSet :=
  let pick (property : Property) (name : String) : Option CharSet :=
    if flags.unicode then some (.property property) else asciiClass? name
  match c with
  | 'd' => pick .digit "digit"
  | 's' => pick .blank "space"
  | 'w' => pick .word "word"
  | 'D' => (pick .digit "digit").map .not
  | 'S' => (pick .blank "space").map .not
  | 'W' => (pick .word "word").map .not
  | _ => none

/-- The parts of a list before and behind the first place where the mark stands. -/
def splitAtMark? (mark : List Char) (before : List Char) :
    List Char → Option (List Char × List Char)
  | [] => none
  | c :: rest =>
    if mark.isPrefixOf (c :: rest) then some (before.reverse, (c :: rest).drop mark.length)
    else splitAtMark? mark (c :: before) rest

/-- The set of a property given between braces, and whether it is turned around. -/
def bracedProperty? (text : List Char) : Option (CharSet × Bool) :=
  let valued (parts : List Char × List Char) : Option CharSet :=
    valuedSet? (String.ofList parts.1) (String.ofList parts.2)
  match splitAtMark? ['!', '='] [] text with
  | some parts => (valued parts).map (·, true)
  | none =>
    match splitAtMark? [':'] [] text with
    | some parts => (valued parts).map (·, false)
    | none =>
      match splitAtMark? ['='] [] text with
      | some parts => (valued parts).map (·, false)
      | none => (namedSet? (String.ofList text)).map (·, false)

def property? (flags : Flags) (negated : Bool) (text : List Char) :
    Option (Primitive × List Char) := do
  if !flags.unicode then failure
  match flags.skip text with
  | [] => none
  | '\x7b' :: rest => do
    let (name, rest) ← untilBrace? flags false [] rest
    let (set, turned) ← bracedProperty? name
    return (.set (flags.close (negated != turned) set), rest)
  | c :: rest => do
    if c == '\\' then failure
    let set ← categorySet? (looseName (String.singleton c))
    return (.set (flags.close negated set), flags.skip rest)

def codeEscape? (flags : Flags) (width : Nat) (text : List Char) :
    Option (Primitive × List Char) := do
  match flags.skip text with
  | '\x7b' :: rest =>
    let (digits, rest) ← untilBrace? flags false [] rest
    if digits.isEmpty then failure
    let c ← charOfCode? (← hexNumber? digits)
    return (.literal c false, flags.skip rest)
  | text =>
    let (code, rest) ← hexDigits? flags 0 width text
    return (.literal (← charOfCode? code) (width == 2), rest)

/-- The condition that a name between braces behind `\b` stands for. -/
def namedEdge? (ascii : Bool) : String → Option Look
  | "start" => some (.wordStart ascii)
  | "end" => some (.wordStop ascii)
  | "start-half" => some (.noWordBefore ascii)
  | "end-half" => some (.noWordAfter ascii)
  | _ => none

/-- The word edge behind `\b`. Braces that do not hold a name belong to a repetition. -/
def wordEdge? (flags : Flags) (text : List Char) : Option (Primitive × List Char) :=
  let ascii := !flags.unicode
  let plain : Option (Primitive × List Char) := some (.look (.wordEdge ascii), text)
  match text with
  | '\x7b' :: rest =>
    match flags.skip rest with
    | [] => none
    | c :: _ =>
      if c.isAlpha || c == '-' then do
        let (name, rest) ← untilBrace? flags false [] rest
        return (.look (← namedEdge? ascii (String.ofList name)), rest)
      else plain
  | _ => plain

/-- What an escape stands for; the text begins behind the backslash. -/
def escape? (flags : Flags) : List Char → Option (Primitive × List Char)
  | [] => none
  | c :: rest =>
    let ascii := !flags.unicode
    if c == 'x' then codeEscape? flags 2 rest
    else if c == 'u' then codeEscape? flags 4 rest
    else if c == 'U' then codeEscape? flags 8 rest
    else if c == 'p' then property? flags false rest
    else if c == 'P' then property? flags true rest
    else
      match classLetter? flags c with
      | some set => some (.set set, rest)
      | none =>
        if isEscapable c then some (.literal c false, rest)
        else
          match c with
          | 'a' => some (.literal '\x07' false, rest)
          | 'f' => some (.literal '\x0c' false, rest)
          | 't' => some (.literal '\t' false, rest)
          | 'n' => some (.literal '\n' false, rest)
          | 'r' => some (.literal '\r' false, rest)
          | 'v' => some (.literal '\x0b' false, rest)
          | 'A' => some (.look .textStart, rest)
          | 'z' => some (.look .textStop, rest)
          | 'b' => wordEdge? flags rest
          | 'B' => some (.look (.noWordEdge ascii), rest)
          | '<' => some (.look (.wordStart ascii), rest)
          | '>' => some (.look (.wordStop ascii), rest)
          | _ => none

/-! ## Sets between brackets -/

inductive SetOp where
  | inter
  | diff
  | exactlyOne

/-- The set of an operation whose operands are closed under case where the flags say so. -/
def SetOp.join (flags : Flags) (a b : CharSet) : SetOp → CharSet
  | inter => .inter (flags.close false a) (flags.close false b)
  | diff => .diff (flags.close false a) (flags.close false b)
  | exactlyOne => .exactlyOne (flags.close false a) (flags.close false b)

/-- The operand so far, joined with the one that an earlier operation waits for. -/
def joinPending (flags : Flags) (set : CharSet) : Option (CharSet × SetOp) → CharSet
  | none => set
  | some (left, op) => op.join flags left set

/-- The dashes at the front as members, and the text behind them. -/
def leadingDashes (flags : Flags) (set : CharSet) : Nat → List Char → CharSet × List Char
  | 0, text => (set, text)
  | fuel + 1, text =>
    match text with
    | '-' :: rest => leadingDashes flags (.union set (.single '-')) fuel (flags.skip rest)
    | _ => (set, text)

/-- The front of a set: whether it is turned around, and the dashes or the bracket that are members
because they come first. -/
def openSet (flags : Flags) (text : List Char) : Bool × CharSet × List Char :=
  let text := flags.skip text
  let (negated, text) : Bool × List Char :=
    match text with
    | '^' :: rest => (true, flags.skip rest)
    | _ => (false, text)
  let (set, rest) := leadingDashes flags .none text.length text
  if set = .none then
    match rest with
    | ']' :: rest => (negated, .single ']', flags.skip rest)
    | _ => (negated, set, rest)
  else (negated, set, rest)

/-- A named ASCII class; the text begins behind its first bracket. -/
def asciiSet? (flags : Flags) (text : List Char) : Option (CharSet × List Char) :=
  match text with
  | ':' :: rest =>
    let (negated, rest) : Bool × List Char :=
      match rest with
      | '^' :: rest => (true, rest)
      | _ => (false, rest)
    let name := rest.takeWhile (· != ':')
    match rest.drop name.length with
    | ':' :: ']' :: rest =>
      (asciiClass? (String.ofList name)).map fun set => (flags.close negated set, rest)
    | _ => none
  | _ => none

/-- A member of a set: an escape or a character. -/
def member? (flags : Flags) : List Char → Option (Primitive × List Char)
  | [] => none
  | '\\' :: rest => escape? flags rest
  | c :: rest => some (.literal c false, rest)

/-- The code of a literal member. Where characters are bytes, it has to be an ASCII one. -/
def memberCode? (flags : Flags) : Primitive → Option Nat
  | .literal c _ => if flags.unicode || decide (c.toNat < 0x80) then some c.toNat else none
  | _ => none

def memberSet? (flags : Flags) : Primitive → Option CharSet
  | .set set => some set
  | p => (memberCode? flags p).map fun code => .range code code

def memberRange? (flags : Flags) (text : List Char) : Option (CharSet × List Char) := do
  let (first, rest) ← member? flags text
  match flags.skip rest with
  | [] => none
  | '-' :: behind =>
    match flags.skip behind with
    | ']' :: _ | '-' :: _ => return (← memberSet? flags first, '-' :: behind)
    | behind =>
      let (second, rest) ← member? flags behind
      let low ← memberCode? flags first
      let high ← memberCode? flags second
      if high < low then failure
      return (.range low high, rest)
  | rest => return (← memberSet? flags first, rest)

/-- The members of a set up to its closing bracket, with the height of the brackets in it. -/
def readSet (flags : Flags) : Nat → Bool → Option (CharSet × SetOp) → CharSet → Nat → List Char →
    Option (CharSet × Nat × List Char)
  | 0, _, _, _, _, _ => none
  | fuel + 1, negated, pending, set, height, text =>
    match flags.skip text with
    | [] => none
    | ']' :: rest =>
      some (flags.close negated (joinPending flags set pending), height + 1, rest)
    | '&' :: '&' :: rest =>
      readSet flags fuel negated (some (joinPending flags set pending, .inter)) .none height rest
    | '-' :: '-' :: rest =>
      readSet flags fuel negated (some (joinPending flags set pending, .diff)) .none height rest
    | '~' :: '~' :: rest =>
      readSet flags fuel negated (some (joinPending flags set pending, .exactlyOne)) .none height
        rest
    | '[' :: rest =>
      match asciiSet? flags rest with
      | some (inner, rest) => readSet flags fuel negated pending (.union set inner) height rest
      | none =>
        let (turned, start, rest) := openSet flags rest
        match readSet flags fuel turned none start 0 rest with
        | none => none
        | some (inner, depth, rest) =>
          readSet flags fuel negated pending (.union set inner) (max height depth) rest
    | text =>
      match memberRange? flags text with
      | none => none
      | some (inner, rest) => readSet flags fuel negated pending (.union set inner) height rest

/-! ## Groups -/

/-- A part of a pattern, with how deeply it is nested. -/
structure Item where
  expr : Expr
  height : Nat
  /-- Whether a repetition can follow: not behind a change of flags. -/
  repeatable : Bool

/-- The items, last one first, in a row. -/
def Item.row (items : List Item) : Item :=
  match items with
  | [] => ⟨.empty, 0, false⟩
  | [item] => item
  | _ =>
    ⟨items.foldl (fun e item => item.expr.append e) .empty,
      1 + items.foldl (fun h item => max h item.height) 0, true⟩

/-- A choice of branches, last one first. -/
def Item.choice (last : Item) (branches : List Item) : Item :=
  match branches with
  | [] => last
  | _ =>
    ⟨branches.foldl (fun e item => .alt item.expr e) last.expr,
      1 + branches.foldl (fun h item => max h item.height) last.height, true⟩

/-- What is left to read, and the names that groups have taken. -/
structure Cursor where
  rest : List Char
  names : List (List Char)

/-- The switches of a group: their letters, with whether a dash came before them. -/
def flagLetters? (negated : Bool) (found : List (Char × Bool)) (dangling : Bool) :
    List Char → Option (List (Char × Bool) × Char × List Char)
  | [] => none
  | c :: rest =>
    if c == ':' || c == ')' then
      if dangling then none else some (found.reverse, c, rest)
    else if c == '-' then
      if negated then none else flagLetters? true found true rest
    else if !"imsUuRx".toList.contains c || found.any (fun (d, _) => d == c) then none
    else flagLetters? negated ((c, !negated) :: found) false rest

def Flags.switch (flags : Flags) : Char × Bool → Flags
  | ('i', on) => { flags with caseless := on }
  | ('m', on) => { flags with multiLine := on }
  | ('s', on) => { flags with dotAll := on }
  | ('u', on) => { flags with unicode := on }
  | ('R', on) => { flags with crLf := on }
  | ('x', on) => { flags with spaced := on }
  | _ => flags

def isNameChar (first : Bool) (c : Char) : Bool :=
  if first then c == '_' || isAlphabetic c
  else c == '_' || c == '.' || c == '[' || c == ']' || isAlphanumeric c

/-- What an opening parenthesis begins. -/
inductive Opening where
  | group (flags : Flags)
  | switch (flags : Flags)

/-- A group with a name that no group before it has. -/
def namedGroup? (flags : Flags) (cursor : Cursor) : Option (Opening × Cursor) :=
  let name := cursor.rest.takeWhile (· != '>')
  match name, cursor.rest.drop name.length with
  | c :: more, '>' :: rest =>
    if isNameChar true c && more.all (isNameChar false) && !cursor.names.contains name then
      some (.group flags, ⟨rest, name :: cursor.names⟩)
    else none
  | _, _ => none

/-- What stands behind an opening parenthesis, up to where its content begins. -/
def opening? (flags : Flags) (cursor : Cursor) : Option (Opening × Cursor) :=
  match flags.skip cursor.rest with
  | '?' :: '=' :: _ | '?' :: '!' :: _ | '?' :: '<' :: '=' :: _ | '?' :: '<' :: '!' :: _ => none
  | '?' :: 'P' :: '<' :: rest => namedGroup? flags { cursor with rest := rest }
  | '?' :: '<' :: rest => namedGroup? flags { cursor with rest := rest }
  | '?' :: rest => do
    let (letters, mark, rest) ← flagLetters? false [] false rest
    let switched := letters.foldl Flags.switch flags
    let cursor := { cursor with rest := rest }
    if mark == ':' then return (.group switched, cursor)
    else if letters.isEmpty then failure
    else return (.switch switched, cursor)
  | rest => some (.group flags, { cursor with rest := rest })

/-- A set, refused where it could match a part of a character. -/
def setExpr? (flags : Flags) (set : CharSet) : Option Expr :=
  if flags.unicode || set.isAscii then some (.chars set) else none

def literalExpr (flags : Flags) (c : Char) : Expr :=
  .chars (flags.close false (.single c))

def primitiveExpr? (flags : Flags) : Primitive → Option Expr
  | .literal c byte =>
    if !flags.unicode && byte && decide (0x7F < c.toNat) then none
    else some (literalExpr flags c)
  | .set set => setExpr? flags set
  | .look condition => some (.look condition)

def dotSet (flags : Flags) : CharSet :=
  if flags.dotAll then .all
  else if flags.crLf then .not (.union (.single '\n') (.single '\r'))
  else .not (.single '\n')

/-- A character outside brackets and everything that begins like one. -/
def primitive? (flags : Flags) : List Char → Option (Expr × List Char)
  | [] => none
  | '\\' :: rest => do
    let (p, rest) ← escape? flags rest
    return (← primitiveExpr? flags p, rest)
  | '.' :: rest => if flags.unicode then some (.chars (dotSet flags), rest) else none
  | '^' :: rest =>
    some (.look (if !flags.multiLine then .textStart
      else if flags.crLf then .lineStartCrLf else .lineStart), rest)
  | '$' :: rest =>
    some (.look (if !flags.multiLine then .textStop
      else if flags.crLf then .lineStopCrLf else .lineStop), rest)
  | c :: rest => some (literalExpr flags c, rest)

/-- The text behind a mark that asks for the shortest match, which changes no yes or no. -/
def skipLazy : List Char → List Char
  | '?' :: rest => rest
  | text => text

/-- The bounds of a repetition; the text begins behind the opening brace. -/
def bounds? (flags : Flags) (text : List Char) : Option (Nat × Option Nat × List Char) :=
  match decimal? flags (flags.skip text) with
  | (low, '\x7d' :: rest) => do
    let low ← low
    return (low, some low, skipLazy (flags.skip rest))
  | (low, ',' :: rest) => do
    let low ← low
    match flags.skip rest with
    | '\x7d' :: rest => return (low, none, skipLazy (flags.skip rest))
    | rest =>
      match decimal? flags rest with
      | (some high, '\x7d' :: rest) =>
        if high < low then none else some (low, some high, skipLazy (flags.skip rest))
      | _ => none
  | _ => none

def repeatLast? (low : Nat) (high : Option Nat) : List Item → Option (List Item)
  | [] => none
  | item :: rest =>
    if item.repeatable then some (⟨.repeat item.expr low high, item.height + 1, true⟩ :: rest)
    else none

/-- The content of a group, or of the whole pattern where `nested` is false. The branches and the
items of the branch at hand are held last one first. -/
def readGroup : Nat → Flags → Bool → List Item → List Item → Cursor → Option (Item × Cursor)
  | 0, _, _, _, _, _ => none
  | fuel + 1, flags, nested, branches, items, cursor =>
    let go (items : List Item) (rest : List Char) : Option (Item × Cursor) :=
      readGroup fuel flags nested branches items { cursor with rest := rest }
    match flags.skip cursor.rest with
    | [] => if nested then none else some (Item.choice (Item.row items) branches, ⟨[], []⟩)
    | ')' :: rest =>
      if nested then
        some (Item.choice (Item.row items) branches, { cursor with rest := rest })
      else none
    | '|' :: rest =>
      readGroup fuel flags nested (Item.row items :: branches) [] { cursor with rest := rest }
    | '(' :: rest =>
      match opening? flags { cursor with rest := rest } with
      | none => none
      | some (.switch switched, cursor) =>
        readGroup fuel switched nested branches (⟨.empty, 0, false⟩ :: items) cursor
      | some (.group inner, cursor) =>
        match readGroup fuel inner true [] [] cursor with
        | none => none
        | some (item, cursor) =>
          readGroup fuel flags nested branches (⟨item.expr, item.height + 1, true⟩ :: items) cursor
    | '[' :: rest =>
      let (negated, start, rest) := openSet flags rest
      match readSet flags (rest.length + 1) negated none start 0 rest with
      | none => none
      | some (set, height, rest) =>
        match setExpr? flags set with
        | none => none
        | some expr => go (⟨expr, height, true⟩ :: items) rest
    | '?' :: rest => (repeatLast? 0 (some 1) items).bind fun items => go items (skipLazy rest)
    | '*' :: rest => (repeatLast? 0 none items).bind fun items => go items (skipLazy rest)
    | '+' :: rest => (repeatLast? 1 none items).bind fun items => go items (skipLazy rest)
    | '\x7b' :: rest =>
      match bounds? flags rest with
      | none => none
      | some (low, high, rest) => (repeatLast? low high items).bind fun items => go items rest
    | text =>
      match primitive? flags text with
      | none => none
      | some (expr, rest) => go (⟨expr, 0, true⟩ :: items) rest

def maxHeight : Nat := 250

/-- The pattern that a text stands for, if it is well formed. -/
def Expr.read? (text : String) : Option Expr := do
  let chars := text.toList
  let (item, _) ← readGroup (2 * chars.length + 2) {} false [] [] ⟨chars, []⟩
  if maxHeight < item.height then failure
  return item.expr

/-- The compiler of patterns that the program is run with. -/
def compile (pattern : String) : Except String (String → Bool) :=
  match Expr.read? pattern with
  | some e => .ok e.isMatch
  | none => .error "not a pattern"

end Palimpsest.Pattern
