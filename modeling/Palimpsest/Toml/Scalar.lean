import Palimpsest.Decimal.Binary64
import Palimpsest.Text.Hex

/-!
# Scalars of TOML

Strings, numbers, truth values and times as a TOML text writes them. The readers of strings take
the text behind the opening quotes and give back the text behind the closing ones; all others take
one word.
-/

namespace Palimpsest.Toml

open Decimal (Binary64)
open Text (hexValue? hexNumber?)

/-- A value without parts. -/
inductive Scalar where
  | string (value : String)
  | integer (value : Int)
  /-- A floating-point number; none where it is infinite or no number. -/
  | float (value : Option Binary64)
  | bool (value : Bool)
  /-- A date, a time or both, in its one written form. -/
  | moment (text : String)

/-! ## Strings -/

/-- Whether a string may hold the character as it is. -/
def isTextChar (c : Char) : Bool :=
  c == '\t' || (decide (0x20 ≤ c.toNat) && decide (c.toNat ≠ 0x7F))

/-- The character with a code of so many digits, and the text behind. -/
def codeChar? (count : Nat) (text : List Char) : Option (Char × List Char) := do
  let digits := text.take count
  if digits.length ≠ count then failure
  let code ← hexNumber? digits
  if code.isValidChar then return (Char.ofNat code, text.drop count) else failure

/-- The character that an escape stands for; the text begins behind the backslash. -/
def escape? : List Char → Option (Char × List Char)
  | 'b' :: rest => some ('\x08', rest)
  | 't' :: rest => some ('\t', rest)
  | 'n' :: rest => some ('\n', rest)
  | 'f' :: rest => some ('\x0c', rest)
  | 'r' :: rest => some ('\r', rest)
  | 'e' :: rest => some ('\x1b', rest)
  | '"' :: rest => some ('"', rest)
  | '\\' :: rest => some ('\\', rest)
  | 'x' :: rest => codeChar? 2 rest
  | 'u' :: rest => codeChar? 4 rest
  | 'U' :: rest => codeChar? 8 rest
  | _ => none

def basicString? (found : List Char) : Nat → List Char → Option (String × List Char)
  | 0, _ => none
  | fuel + 1, text =>
    match text with
    | [] => none
    | '"' :: rest => some (String.ofList found.reverse, rest)
    | '\\' :: rest =>
      match escape? rest with
      | some (c, rest) => basicString? (c :: found) fuel rest
      | none => none
    | c :: rest => if isTextChar c then basicString? (c :: found) fuel rest else none

def literalString? (found : List Char) : List Char → Option (String × List Char)
  | [] => none
  | c :: rest =>
    if c == '\'' then some (String.ofList found.reverse, rest)
    else if isTextChar c then literalString? (c :: found) rest
    else none

def dropNewline : List Char → List Char
  | '\n' :: rest => rest
  | '\r' :: '\n' :: rest => rest
  | text => text

def lineEnds (text : List Char) : Bool :=
  match text.dropWhile fun c => c == ' ' || c == '\t' with
  | '\n' :: _ => true
  | '\r' :: '\n' :: _ => true
  | _ => false

/-- The end of a string over several lines, at its closing quotes: up to two more belong to the
string. -/
def closing (quote : Char) (found text : List Char) : String × List Char :=
  let more := (text.take 2).takeWhile (· == quote)
  (String.ofList (found.reverse ++ more), text.drop more.length)

/-- Whether a string over several lines may go on with the character. A carriage return stands
before a line feed only. -/
def isLinesChar (c : Char) (rest : List Char) : Bool :=
  isTextChar c || c == '\n' || (c == '\r' && rest.head? == some '\n')

/-- A string over several lines with escapes. While `skipping`, blanks and line breaks are passed
over: a backslash at the end of a line asks for that. -/
def basicLines? (skipping : Bool) (found : List Char) : Nat → List Char → Option (String × List Char)
  | 0, _ => none
  | fuel + 1, text =>
    match text with
    | [] => none
    | '"' :: '"' :: '"' :: rest => some (closing '"' found rest)
    | '\\' :: rest =>
      if lineEnds rest then basicLines? true found fuel rest
      else
        match escape? rest with
        | some (c, rest) => basicLines? false (c :: found) fuel rest
        | none => none
    | c :: rest =>
      if !isLinesChar c rest then none
      else if skipping && (c == ' ' || c == '\t' || c == '\n' || c == '\r') then
        basicLines? true found fuel rest
      else basicLines? false (c :: found) fuel rest

def literalLines? (found : List Char) : List Char → Option (String × List Char)
  | '\'' :: '\'' :: '\'' :: rest => some (closing '\'' found rest)
  | c :: rest => if isLinesChar c rest then literalLines? (c :: found) rest else none
  | [] => none

def string? (text : List Char) : Option (String × List Char) :=
  match text with
  | '"' :: '"' :: '"' :: rest => basicLines? false [] (text.length + 1) (dropNewline rest)
  | '\'' :: '\'' :: '\'' :: rest => literalLines? [] (dropNewline rest)
  | '"' :: rest => basicString? [] (text.length + 1) rest
  | '\'' :: rest => literalString? [] rest
  | _ => none

/-! ## Numbers -/

/-- Digits with single underscores between them, without the underscores. -/
def digits? (isDigit : Char → Bool) (text : List Char) : Option (List Char) :=
  let rec go (afterDigit : Bool) (found : List Char) : List Char → Option (List Char)
    | [] => if afterDigit then some found.reverse else none
    | c :: rest =>
      if isDigit c then go true (c :: found) rest
      else if c == '_' && afterDigit then go false found rest
      else none
  go false [] text

def decimalNumber (digits : List Char) : Nat :=
  digits.foldl (fun n c => n * 10 + (c.toNat - 0x30)) 0

/-- Decimal digits without a zero at the front of others. -/
def wholeDigits? (text : List Char) : Option (List Char) := do
  let digits ← digits? Char.isDigit text
  match digits with
  | '0' :: _ :: _ => none
  | _ => some digits

def splitSign : List Char → Bool × List Char
  | '-' :: rest => (true, rest)
  | '+' :: rest => (false, rest)
  | text => (false, text)

/-- The parts of a text before and behind the first character that satisfies the test. -/
def splitFirst (test : Char → Bool) (text : List Char) : List Char × Option (List Char) :=
  let front := text.takeWhile fun c => !test c
  match text.drop front.length with
  | _ :: rest => (front, some rest)
  | [] => (front, none)

def based? (base : Nat) (text : List Char) : Option Scalar := do
  let isDigit (c : Char) : Bool := match hexValue? c with | some d => decide (d < base) | none => false
  let digits ← digits? isDigit text
  let value := digits.foldl (fun n c => n * base + (hexValue? c).getD 0) 0
  return .integer value

def float? (negative : Bool) (whole : List Char) (fraction exponent : Option (List Char)) :
    Option Scalar := do
  let whole ← wholeDigits? whole
  let fraction ← match fraction with | some f => digits? Char.isDigit f | none => some []
  let power : Int ←
    match exponent with
    | none => some 0
    | some e =>
      let (down, e) := splitSign e
      (digits? Char.isDigit e).map fun d =>
        if down then -(decimalNumber d : Int) else (decimalNumber d : Int)
  let value ← Binary64.ofDecimal (decimalNumber (whole ++ fraction)) (power - fraction.length)
  return .float (some (value.withSign negative))

/-- Integers beyond 128 bits are refused wherever they stand. -/
def fits128 (n : Int) : Bool :=
  decide (-0x80000000000000000000000000000000 ≤ n) &&
    decide (n < 0x100000000000000000000000000000000)

def number? (text : List Char) : Option Scalar :=
  match text with
  | '0' :: 'x' :: rest => based? 16 rest
  | '0' :: 'o' :: rest => based? 8 rest
  | '0' :: 'b' :: rest => based? 2 rest
  | _ =>
    let (negative, body) := splitSign text
    if body = ['i', 'n', 'f'] || body = ['n', 'a', 'n'] then some (.float none)
    else
      let (front, exponent) := splitFirst (fun c => c == 'e' || c == 'E') body
      let (whole, fraction) := splitFirst (· == '.') front
      if exponent.isNone && fraction.isNone then
        (wholeDigits? whole).map fun d =>
          .integer (if negative then -(decimalNumber d : Int) else (decimalNumber d : Int))
      else float? negative whole fraction exponent

/-! ## Dates and times -/

def twoDigits? : List Char → Option (Nat × List Char)
  | a :: b :: rest =>
    if a.isDigit && b.isDigit then some (decimalNumber [a, b], rest) else none
  | _ => none

def daysIn (year month : Nat) : Nat :=
  if month = 2 then
    if year % 4 = 0 ∧ (year % 100 ≠ 0 ∨ year % 400 = 0) then 29 else 28
  else if [4, 6, 9, 11].contains month then 30
  else 31

def padded (n : Nat) : List Char := if n < 10 then '0' :: n.repr.toList else n.repr.toList

/-- A date in its written form, and the text behind it. -/
def date? (text : List Char) : Option (List Char × List Char) := do
  let (century, rest) ← twoDigits? text
  let (years, rest) ← twoDigits? rest
  match rest with
  | '-' :: rest =>
    let (month, rest) ← twoDigits? rest
    match rest with
    | '-' :: rest =>
      let (day, rest) ← twoDigits? rest
      if 1 ≤ month ∧ month ≤ 12 ∧ 1 ≤ day ∧ day ≤ daysIn (century * 100 + years) month then
        return (padded century ++ padded years ++ '-' :: padded month ++ '-' :: padded day, rest)
      else none
    | _ => none
  | _ => none

/-- A fraction of a second: at most nine digits count, and zeros at the end do not. -/
def fraction? (text : List Char) : Option (List Char × List Char) :=
  let digits := text.takeWhile Char.isDigit
  if digits.isEmpty then none
  else
    let kept := ((digits.take 9).reverse.dropWhile (· == '0')).reverse
    some ('.' :: (if kept.isEmpty then ['0'] else kept), text.drop digits.length)

def seconds? (text : List Char) : Option (List Char × List Char) :=
  match text with
  | ':' :: rest => do
    let (second, rest) ← twoDigits? rest
    if 60 < second then failure
    match rest with
    | '.' :: rest =>
      let (fraction, rest) ← fraction? rest
      return (':' :: padded second ++ fraction, rest)
    | rest => return (':' :: padded second, rest)
  | _ => some ([], text)

/-- A time of a day in its written form, and the text behind it. -/
def time? (text : List Char) : Option (List Char × List Char) := do
  let (hour, rest) ← twoDigits? text
  match rest with
  | ':' :: rest =>
    let (minute, rest) ← twoDigits? rest
    if 23 < hour || 59 < minute then failure
    let (seconds, rest) ← seconds? rest
    return (padded hour ++ ':' :: padded minute ++ seconds, rest)
  | _ => none

/-- The distance from universal time at the end of a text, which may be left out. -/
def zone? (text : List Char) : Option (List Char) :=
  match text with
  | [] => some []
  | ['Z'] | ['z'] => some ['Z']
  | sign :: rest => do
    if sign != '+' && sign != '-' then failure
    let (hours, rest) ← twoDigits? rest
    match rest with
    | ':' :: rest =>
      let (minutes, rest) ← twoDigits? rest
      if 23 < hours || 59 < minutes || !rest.isEmpty then failure
      let sign := if hours = 0 ∧ minutes = 0 then '+' else sign
      return sign :: padded hours ++ ':' :: padded minutes
    | _ => none

def moment? (text : List Char) : Option Scalar :=
  match date? text with
  | some (date, []) => some (.moment (String.ofList date))
  | some (date, mark :: rest) => do
    if mark != 'T' && mark != 't' && mark != ' ' then failure
    let (time, rest) ← time? rest
    let zone ← zone? rest
    return .moment (String.ofList (date ++ 'T' :: time ++ zone))
  | none =>
    match time? text with
    | some (time, []) => some (.moment (String.ofList time))
    | _ => none

def word? (text : List Char) : Option Scalar :=
  if text = "true".toList then some (.bool true)
  else if text = "false".toList then some (.bool false)
  else
    match moment? text with
    | some scalar => some scalar
    | none =>
      match number? text with
      | some (.integer n) => if fits128 n then some (.integer n) else none
      | scalar => scalar

end Palimpsest.Toml
