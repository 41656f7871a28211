import Palimpsest.Text.Hex

/-!
# Percent encoding

Characters that may not stand in a part of a URL are written as the bytes of their UTF-8 form, each
as a percent sign and two digits of base 16. Which ASCII characters these are depends on the part:
an `EncodeSet` says so. Characters beyond ASCII are always written in this way.
-/

namespace Palimpsest.Url

open Text (hexValue?)

/-- The ASCII characters that a part of a URL cannot hold as they are. -/
abbrev EncodeSet := Char → Bool

namespace EncodeSet

def controls : EncodeSet := fun c => decide (c.toNat < 0x20) || decide (c.toNat = 0x7F)

def including (set : EncodeSet) (more : String) : EncodeSet := fun c => set c || more.toList.contains c

def fragment : EncodeSet := controls.including " \"<>\x60"

def query : EncodeSet := controls.including " \"#<>"

/-- For queries of the schemes with their own rules. -/
def specialQuery : EncodeSet := query.including "'"

def path : EncodeSet := fragment.including "#?\x7b\x7d"

def userinfo : EncodeSet := path.including "/:;=@[\\]^|"

def pathSegment : EncodeSet := path.including "/%"

/-- For a single segment of a path where a backslash is a separator too. -/
def specialPathSegment : EncodeSet := pathSegment.including "\\"

def nonAlphanumeric : EncodeSet := fun c => !c.isAlphanum

end EncodeSet

def hexDigit (n : Nat) : Char :=
  if n < 10 then Char.ofNat (0x30 + n) else Char.ofNat (0x37 + n)

/-- A byte as a percent sign and two digits. -/
def percentByte (byte : UInt8) : List Char :=
  ['%', hexDigit (byte.toNat / 16), hexDigit (byte.toNat % 16)]

/-- A character as a part of a URL holds it. -/
def percentChar (set : EncodeSet) (c : Char) : List Char :=
  if decide (c.toNat < 0x80) && !set c then [c]
  else (String.utf8EncodeChar c).flatMap percentByte

def percentEncode (set : EncodeSet) (text : List Char) : List Char := text.flatMap (percentChar set)

/-- The bytes that a text stands for; a percent sign without two digits stands for itself. -/
def percentDecode : List Char → List UInt8
  | [] => []
  | '%' :: a :: b :: rest =>
    match hexValue? a, hexValue? b with
    | some high, some low => UInt8.ofNat (high * 16 + low) :: percentDecode rest
    | _, _ => String.utf8EncodeChar '%' ++ percentDecode (a :: b :: rest)
  | c :: rest => String.utf8EncodeChar c ++ percentDecode rest

end Palimpsest.Url
