import Palimpsest.Text.Blank
import Palimpsest.Text.Fold
import Palimpsest.Text.Letter
import Palimpsest.Text.Property
import Palimpsest.Text.Script

/-!
# Sets of characters

A `CharSet` is what one place of a pattern accepts, built from ranges and properties with the usual
set operations. `CharSet.fold` adds to a set every character that is equal to a member up to case;
`CharSet.foldAscii` does so for the letters of ASCII only.
-/

namespace Palimpsest.Pattern

open Text

/-- Properties of characters that a pattern can name. -/
inductive Property where
  | word
  | digit
  | blank
  | category (names : List String)
  | script (name : String)
  | alphabetic
  | uppercase
  | lowercase
  | identifierStart (stable : Bool)
  | identifierPart (stable : Bool)
  | combining
  | combiningBase
  /-- A property that is kept as a table. -/
  | named (name : String)
deriving DecidableEq

def Property.holds : Property → Char → Bool
  | word, c => isWord c
  | digit, c => isDecimalDigit c
  | blank, c => isBlank c
  | category names, c => hasCategory names c
  | script name, c => hasScript name c
  | alphabetic, c => isAlphabetic c
  | uppercase, c => isUppercase c
  | lowercase, c => isLowercase c
  | identifierStart stable, c => if stable then isStableIdentifierStart c else isIdentifierStart c
  | identifierPart stable, c => if stable then isStableIdentifierPart c else isIdentifierPart c
  | combining, c => isCombining c
  | combiningBase, c => isCombiningBase c
  | named name, c => (namedTable? name).any fun table => table.contains c.toNat

/-- A set of characters. -/
inductive CharSet where
  | none
  | range (first last : Nat)
  | property (p : Property)
  | union (a b : CharSet)
  | inter (a b : CharSet)
  | diff (a b : CharSet)
  | exactlyOne (a b : CharSet)
  | not (a : CharSet)
  | fold (a : CharSet)
  | foldAscii (a : CharSet)
deriving DecidableEq

namespace CharSet

/-- The letters of ASCII that are equal to the character up to case, with the character. -/
def asciiVariants (c : Char) : List Char := [c, c.toLower, c.toUpper]

def contains : CharSet → Char → Bool
  | none, _ => false
  | range first last, c => decide (first ≤ c.toNat) && decide (c.toNat ≤ last)
  | property p, c => p.holds c
  | union a b, c => a.contains c || b.contains c
  | inter a b, c => a.contains c && b.contains c
  | diff a b, c => a.contains c && !b.contains c
  | exactlyOne a b, c => a.contains c != b.contains c
  | not a, c => !a.contains c
  | fold a, c => (caseVariants c).any fun d => a.contains d
  | foldAscii a, c => (asciiVariants c).any fun d => a.contains d

def single (c : Char) : CharSet := range c.toNat c.toNat

def ranges (list : List (Nat × Nat)) : CharSet :=
  list.foldr (fun (first, last) set => union (range first last) set) none

def all : CharSet := range 0 0x10FFFF

/-- Whether no member is above the first half of a byte's values, bytes taken as characters. -/
def isAscii (set : CharSet) : Bool :=
  (List.range' 0x80 0x80).all fun code => !set.contains (Char.ofNat code)

end CharSet

/-- The sets that have a name between `[:` and `:]`. -/
def asciiClass? : String → Option CharSet
  | "alnum" => some (.ranges [(0x30, 0x39), (0x41, 0x5A), (0x61, 0x7A)])
  | "alpha" => some (.ranges [(0x41, 0x5A), (0x61, 0x7A)])
  | "ascii" => some (.range 0 0x7F)
  | "blank" => some (.ranges [(9, 9), (0x20, 0x20)])
  | "cntrl" => some (.ranges [(0, 0x1F), (0x7F, 0x7F)])
  | "digit" => some (.range 0x30 0x39)
  | "graph" => some (.range 0x21 0x7E)
  | "lower" => some (.range 0x61 0x7A)
  | "print" => some (.range 0x20 0x7E)
  | "punct" => some (.ranges [(0x21, 0x2F), (0x3A, 0x40), (0x5B, 0x60), (0x7B, 0x7E)])
  | "space" => some (.ranges [(9, 13), (0x20, 0x20)])
  | "upper" => some (.range 0x41 0x5A)
  | "word" => some (.ranges [(0x30, 0x39), (0x41, 0x5A), (0x5F, 0x5F), (0x61, 0x7A)])
  | "xdigit" => some (.ranges [(0x30, 0x39), (0x41, 0x46), (0x61, 0x66)])
  | _ => none

/-- A name in ASCII without its case, blanks, dashes and underscores, and without a leading "is". -/
def looseName (name : String) : String :=
  let bare (text : List Char) : List Char :=
    (text.filter fun c => decide (c.toNat < 0x80) && c != ' ' && c != '_' && c != '-').map
      Char.toLower
  match name.toList with
  | i :: s :: rest =>
    if i.toLower == 'i' && s.toLower == 's' then
      if bare rest = ['c'] then "isc" else String.ofList (bare rest)
    else String.ofList (bare (i :: s :: rest))
  | text => String.ofList (bare text)

/-- General categories and groups of them: the names they go by, and the two-letter categories that
they hold. -/
def categoryNames : List (List String × List String) :=
  [(["l", "letter"], ["Lu", "Ll", "Lt", "Lm", "Lo"]),
   (["lc", "casedletter"], ["Lu", "Ll", "Lt"]),
   (["lu", "uppercaseletter"], ["Lu"]), (["ll", "lowercaseletter"], ["Ll"]),
   (["lt", "titlecaseletter"], ["Lt"]), (["lm", "modifierletter"], ["Lm"]),
   (["lo", "otherletter"], ["Lo"]),
   (["m", "mark", "combiningmark"], ["Mn", "Mc", "Me"]),
   (["mn", "nonspacingmark"], ["Mn"]), (["mc", "spacingmark"], ["Mc"]),
   (["me", "enclosingmark"], ["Me"]),
   (["n", "number"], ["Nd", "Nl", "No"]), (["nd", "decimalnumber", "digit"], ["Nd"]),
   (["nl", "letternumber"], ["Nl"]), (["no", "othernumber"], ["No"]),
   (["p", "punctuation", "punct"], ["Pc", "Pd", "Ps", "Pe", "Pi", "Pf", "Po"]),
   (["pc", "connectorpunctuation"], ["Pc"]), (["pd", "dashpunctuation"], ["Pd"]),
   (["ps", "openpunctuation"], ["Ps"]), (["pe", "closepunctuation"], ["Pe"]),
   (["pi", "initialpunctuation"], ["Pi"]), (["pf", "finalpunctuation"], ["Pf"]),
   (["po", "otherpunctuation"], ["Po"]),
   (["s", "symbol"], ["Sm", "Sc", "Sk", "So"]), (["sm", "mathsymbol"], ["Sm"]),
   (["sc", "currencysymbol"], ["Sc"]), (["sk", "modifiersymbol"], ["Sk"]),
   (["so", "othersymbol"], ["So"]),
   (["z", "separator"], ["Zs", "Zl", "Zp"]), (["zs", "spaceseparator"], ["Zs"]),
   (["zl", "lineseparator"], ["Zl"]), (["zp", "paragraphseparator"], ["Zp"]),
   (["c", "other"], ["Cc", "Cf", "Cs", "Co", "Cn"]), (["cc", "control", "cntrl"], ["Cc"]),
   (["cf", "format"], ["Cf"]), (["cs", "surrogate"], ["Cs"]), (["co", "privateuse"], ["Co"]),
   (["cn", "unassigned"], ["Cn"])]

def categorySet? (name : String) : Option CharSet :=
  match name with
  | "any" => some .all
  | "assigned" => some (.not (.property (.category ["Cn"])))
  | "ascii" => some (.range 0 0x7F)
  | _ =>
    (categoryNames.find? fun (names, _) => names.contains name).map
      fun (_, members) => .property (.category members)

def scriptSet? (name : String) : Option CharSet := do
  let names ← scriptNames.find? fun names => (names.map looseName).contains name
  return .property (.script (← names.head?))

/-- The properties that hold or do not and have a rule of their own, by their names. -/
def binaryNames : List (List String × Property) :=
  [(["alphabetic", "alpha"], .alphabetic), (["uppercase", "upper"], .uppercase),
   (["lowercase", "lower"], .lowercase), (["whitespace", "wspace", "space"], .blank),
   (["idstart", "ids"], .identifierStart false), (["idcontinue", "idc"], .identifierPart false),
   (["xidstart", "xids"], .identifierStart true), (["xidcontinue", "xidc"], .identifierPart true),
   (["graphemeextend", "grext"], .combining), (["graphemebase", "grbase"], .combiningBase)]

def binarySet? (name : String) : Option CharSet :=
  match binaryNames.find? fun (names, _) => names.contains name with
  | some (_, p) => some (.property p)
  | none => (namedTable? name).map fun _ => .property (.named name)

/-- The set that a single name stands for: a property, a category or a script, in this order. -/
def namedSet? (name : String) : Option CharSet :=
  let name := looseName name
  (binarySet? name).orElse fun _ => (categorySet? name).orElse fun _ => scriptSet? name

/-- The set that a property and its value stand for. -/
def valuedSet? (name value : String) : Option CharSet :=
  let name := looseName name
  if ["gc", "generalcategory"].contains name then categorySet? (looseName value)
  else if ["sc", "script"].contains name then scriptSet? (looseName value)
  else none

end Palimpsest.Pattern
