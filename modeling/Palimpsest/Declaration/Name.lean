import Palimpsest.Url.Basic

/-!
# Names of declaration units

The declarations that come out of an expansion form a unit of their own, which stands beside the
file that it belongs to: `user.ts` has the unit `user.expanded.d.ts`, and `Makefile`, which has no
extension, `Makefile.expanded.d`. A URL whose path has no segments gets a unit under a scheme of
this library, with the URL itself in its name.

`isOutput` recognises the names of units and of expanded files, so that none of them is expanded
again.

Correspondence (utsushi ↔ here):
* `virtual_name_of` ↔ `unitName`
* `is_expander_output` ↔ `isOutput`
-/

namespace Palimpsest.Declaration

def expandedMark : List Char := ".expanded".toList

def unitMark : List Char := ".expanded.d".toList

def splitLastPoint? (name : List Char) : Option (List Char × List Char) :=
  if name.contains '.' then
    let extension := (name.reverse.takeWhile (· != '.')).reverse
    some (name.take (name.length - extension.length - 1), extension)
  else none

/-- The name of the unit of a file: the mark goes before the extension, or to the end where there
is no extension or nothing before it. -/
def unitChars (name : List Char) : List Char :=
  match splitLastPoint? name with
  | some (stem, extension) =>
    if stem.isEmpty || extension.isEmpty then name ++ unitMark
    else stem ++ unitMark ++ '.' :: extension
  | none => name ++ unitMark

def unitFileName (name : String) : String := String.ofList (unitChars name.toList)

/-- The scheme of units that have no file to stand beside. -/
def scheme : String := "utsushi"

/-- The last segment of the URL, or a stand-in where there is none or it is empty. -/
def fileName (u : Url) : String :=
  match u.lastSegment? with
  | some name => if name.isEmpty then "untitled" else name
  | none => "untitled"

def encoded (text : String) : String :=
  String.ofList (Url.percentEncode .nonAlphanumeric text.toList)

/-- The URL of the unit that belongs to a file. -/
def unitName (owner : Url) : Url :=
  match owner.path with
  | .rooted segments =>
    let name := Url.segmentOfText owner.scheme (unitFileName (fileName owner))
    { owner with
      path := .rooted (Url.addSegment name (Url.dropSegment segments))
      query := none
      fragment := none }
  | .plain text =>
    { scheme := scheme
      authority := some ⟨"", none, "", none⟩
      guarded := false
      path := .rooted ["virtual", encoded owner.render, encoded (unitFileName text)]
      query := none
      fragment := none }

/-- Whether the first list stands somewhere in the second. -/
def occursIn (part : List Char) : List Char → Bool
  | [] => part.isEmpty
  | c :: rest => part.isPrefixOf (c :: rest) || occursIn part rest

def isOutputName (name : List Char) : Bool :=
  occursIn (expandedMark ++ ['.']) name || expandedMark.isSuffixOf name || unitMark.isSuffixOf name

/-- Whether a URL names something that an expansion produces. -/
def isOutput (u : Url) : Bool :=
  u.scheme == scheme ||
    match u.lastSegment? with
    | some name => isOutputName name.toList
    | none => false

end Palimpsest.Declaration
