/-!
# Versions

A `Version` is a token that stands for one state of a text: while the token is the same, so is the
text. Hosts give tokens of their own; `Version.ofContent` makes one of the text itself. A token can
be qualified by a generation, a count of how often the settings have changed; generation zero
leaves it as it is.

Correspondence (utsushi ↔ here):
* `ContentVersion` ↔ `Version`
* `of_content`, `with_generation` ↔ `ofContent`, `withGeneration`
-/

namespace Palimpsest

/-- The token of a state of a text. -/
structure Version where
  token : String
deriving DecidableEq

namespace Version

/-- One step of the 64-bit hash: the byte is mixed in, then the sum is spread by a prime. -/
def mixByte (hash : UInt64) (byte : UInt8) : UInt64 :=
  (hash ^^^ byte.toUInt64) * 0x100000001b3

def hash (text : String) : UInt64 := text.toUTF8.toList.foldl mixByte 0xcbf29ce484222325

/-- A number in base 16, with zeros in front up to 16 digits. -/
def hex16 (n : Nat) : String :=
  let digits := Nat.toDigits 16 n
  String.ofList (List.replicate (16 - digits.length) '0' ++ digits)

/-- The version of a text that nobody keeps track of. -/
def ofContent (text : String) : Version := ⟨"fnv:" ++ hex16 (hash text).toNat⟩

def ofInt (n : Int) : Version := ⟨toString n⟩

def initial : Version := ⟨"0"⟩

/-- The version under a generation of the settings. -/
def withGeneration (v : Version) (generation : Nat) : Version :=
  if generation = 0 then v else ⟨v.token ++ "+g" ++ generation.repr⟩

end Version

end Palimpsest
