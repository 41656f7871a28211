import Palimpsest.Text.Fold
import Palimpsest.Url.Percent
import Palimpsest.Url.Punycode

/-!
# Hosts

The host of a URL is an address of version 4 or 6, a domain, or, in schemes without rules of their
own, any text without the characters that would end it. `readSpecialHost` and `readPlainHost` bring
each to the one form in which it is written.

How a domain is brought to ASCII is left to a `DomainToAscii`, which is handed in. The one at hand,
`foldedToAscii`, folds case and encodes labels. It knows nothing of normal forms, of characters that
are passed over or stand for others, and of labels that are encoded already.
-/

namespace Palimpsest.Url

open Text (hexValue? hexNumber?)

inductive ReadError where
  | relative
  | emptyHost
  | badPortNumber
  | badIpv4
  | badIpv6
  | badDomain
  | badHostCharacter
deriving DecidableEq

def ReadError.message : ReadError → String
  | relative => "relative URL without a base"
  | emptyHost => "empty host"
  | badPortNumber => "invalid port number"
  | badIpv4 => "invalid IPv4 address"
  | badIpv6 => "invalid IPv6 address"
  | badDomain => "invalid international domain name"
  | badHostCharacter => "invalid domain character"

/-- The parts of a list between the elements that satisfy `mark`. -/
def splitWhere (mark : Char → Bool) : List Char → List (List Char)
  | [] => [[]]
  | c :: rest =>
    if mark c then [] :: splitWhere mark rest
    else
      match splitWhere mark rest with
      | part :: parts => (c :: part) :: parts
      | [] => [[c]]

/-! ## Addresses of version 4 -/

/-- A number in base 8, 10 or 16, as its first characters say. -/
def ipv4Number? (text : List Char) : Option Nat :=
  let value (base : Nat) (digits : List Char) : Option Nat :=
    digits.foldl (fun n c => do
      let n ← n
      let d ← hexValue? c
      if d < base then some (n * base + d) else none) (some 0)
  match text with
  | [] => none
  | '0' :: 'x' :: rest | '0' :: 'X' :: rest => value 16 rest
  | '0' :: c :: rest => value 8 (c :: rest)
  | _ => value 10 text

/-- Whether a domain has to be an address, because its last label is a number. -/
def endsInNumber (domain : List Char) : Bool :=
  let labels := (splitWhere (· == '.') domain).reverse
  let last : Option (List Char) :=
    match labels with
    | [] :: label :: _ => some label
    | label :: _ => some label
    | [] => none
  match last with
  | some (c :: rest) => (c :: rest).all Char.isDigit || (ipv4Number? (c :: rest)).isSome
  | _ => false

/-- The number of an address, for the numbers of its labels: each is a byte, and the last fills
what is left of four. -/
def ipv4Value? (index : Nat) : List Nat → Option Nat
  | [] => none
  | [n] => if n < Nat.pow 256 (4 - index) then some n else none
  | n :: rest => do
    let value ← ipv4Value? (index + 1) rest
    if n < 256 then some (n * Nat.pow 256 (3 - index) + value) else none

def renderIpv4 (n : Nat) : String :=
  ".".intercalate ([n / 0x1000000, n / 0x10000 % 0x100, n / 0x100 % 0x100, n % 0x100].map Nat.repr)

def readIpv4 (domain : List Char) : Except ReadError String :=
  let labels := splitWhere (· == '.') domain
  let labels := if labels.getLast? == some [] then labels.dropLast else labels
  if 4 < labels.length then .error .badIpv4
  else
    match (labels.mapM ipv4Number?).bind (ipv4Value? 0) with
    | some n => .ok (renderIpv4 n)
    | none => .error .badIpv4

/-! ## Addresses of version 6 -/

def ipv6Piece? (text : List Char) : Option Nat :=
  if text.isEmpty || 4 < text.length then none
  else hexNumber? text

/-- A byte in decimal digits without zeros in front. -/
def ipv4Byte? (text : List Char) : Option Nat :=
  match text with
  | [] => none
  | ['0'] => some 0
  | '0' :: _ => none
  | _ =>
    if text.all Char.isDigit && text.length ≤ 3 then
      let n := text.foldl (fun n c => n * 10 + (c.toNat - 0x30)) 0
      if n < 256 then some n else none
    else none

/-- The pieces of an address of version 4 at the end of one of version 6. -/
def ipv4Tail? (text : List Char) : Option (List Nat) := do
  match ← (splitWhere (· == '.') text).mapM ipv4Byte? with
  | [a, b, c, d] => some [a * 256 + b, c * 256 + d]
  | _ => none

/-- The pieces between colons; the last may be an address of version 4. -/
def ipv6Pieces? : List (List Char) → Option (List Nat)
  | [] => some []
  | [last] => if last.contains '.' then ipv4Tail? last else (ipv6Piece? last).map ([·])
  | piece :: rest => do
    let n ← ipv6Piece? piece
    return n :: (← ipv6Pieces? rest)

def splitDoubleColon (before : List Char) : List Char → Option (List Char × List Char)
  | ':' :: ':' :: rest => some (before.reverse, rest)
  | c :: rest => splitDoubleColon (c :: before) rest
  | [] => none

/-- The pieces of a text without two colons in a row; an empty text has none. -/
def ipv6Run? (text : List Char) : Option (List Nat) :=
  if text.isEmpty then some [] else ipv6Pieces? (splitWhere (· == ':') text)

/-- The eight pieces of an address of version 6. Two colons in a row stand for one or more zeros. -/
def ipv6Value? (text : List Char) : Option (List Nat) := do
  match splitDoubleColon [] text with
  | none =>
    let pieces ← ipv6Run? text
    if pieces.length = 8 then some pieces else none
  | some (before, behind) =>
    if before.contains '.' then failure
    let front ← ipv6Run? before
    let back ← ipv6Run? behind
    if front.length + back.length < 8 then
      some (front ++ List.replicate (8 - front.length - back.length) 0 ++ back)
    else none

def zeroRun (pieces : List Nat) : Nat := (pieces.takeWhile (· == 0)).length

/-- Where the first of the longest runs of zeros starts, and its length. -/
def longestZeros (index : Nat) (best : Nat × Nat) : List Nat → Nat × Nat
  | [] => best
  | piece :: rest =>
    let run := zeroRun (piece :: rest)
    longestZeros (index + 1) (if best.2 < run then (index, run) else best) rest

/-- An address of version 6 as it is written: the longest run of two or more zeros is left out. -/
def renderIpv6 (pieces : List Nat) : String :=
  let write (list : List Nat) : String :=
    ":".intercalate (list.map fun n => String.ofList (Nat.toDigits 16 n))
  let (start, length) := longestZeros 0 (0, 0) pieces
  "[" ++
    (if 2 ≤ length then write (pieces.take start) ++ "::" ++ write (pieces.drop (start + length))
      else write pieces) ++ "]"

def readBracketed (text : List Char) : Except ReadError String :=
  match text.reverse with
  | ']' :: inner =>
    match ipv6Value? (inner.reverse.drop 1) with
    | some pieces => .ok (renderIpv6 pieces)
    | none => .error .badIpv6
  | _ => .error .badIpv6

/-! ## Domains -/

def isForbiddenInDomain (c : Char) : Bool :=
  decide (c.toNat ≤ 0x20) || decide (c.toNat = 0x7F) || "#/:<>?@[\\]^|%".toList.contains c

/-- How the bytes of a domain are brought to ASCII; none where they are not those of a domain. -/
abbrev DomainToAscii := List UInt8 → Option (List Char)

/-- A domain, or an address of version 4. -/
def readDomain (toAscii : DomainToAscii) (text : List Char) : Except ReadError String :=
  match toAscii (percentDecode text) with
  | none => .error .badDomain
  | some [] => .error .emptyHost
  | some domain => if endsInNumber domain then readIpv4 domain else .ok (String.ofList domain)

def domainChar (c : Char) : Char := if c.toNat < 0x80 then c.toLower else Text.fold c

def labelToAscii (label : List Char) : List Char :=
  if label.all fun c => decide (c.toNat < 0x80) then label
  else ['x', 'n', '-', '-'] ++ Punycode.encode label

/-- A domain with its case folded, label by label. -/
def foldedToAscii : DomainToAscii := fun bytes => do
  let decoded ← String.fromUTF8? (ByteArray.mk bytes.toArray)
  let isDot (c : Char) : Bool := c == '.' || c == '。' || c == '．' || c == '｡'
  let labels := splitWhere isDot (decoded.toList.map domainChar)
  let domain := ['.'].intercalate (labels.map labelToAscii)
  if domain.any isForbiddenInDomain then none else some domain

/-! ## Hosts -/

/-- A host under a scheme with rules of its own. -/
def readSpecialHost (toAscii : DomainToAscii) (text : List Char) : Except ReadError String :=
  match text with
  | '[' :: _ => readBracketed text
  | _ => readDomain toAscii text

/-- A host under any other scheme. -/
def readPlainHost (text : List Char) : Except ReadError String :=
  match text with
  | '[' :: _ => readBracketed text
  | _ =>
    if text.any fun c => decide (c.toNat = 0) || "\t\n\r #/:<>?@[\\]^|".toList.contains c then
      .error .badHostCharacter
    else .ok (String.ofList (percentEncode .controls text))

end Palimpsest.Url
