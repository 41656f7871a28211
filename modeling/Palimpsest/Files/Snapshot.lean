import Palimpsest.Files

/-!
# Snapshots of files

A `Snapshot` is a set of files held in memory with a current directory. Paths are walked part by
part from the root or from the current directory, so a detour through a directory that does not
exist fails even where the path would come back from it.
-/

namespace Palimpsest.Files

/-- Files by the names on the way from the root, and the current directory. -/
structure Snapshot where
  current : List String
  files : List (List String × ByteArray)

namespace Snapshot

/-- Whether there is a directory at these names: the current one, or one on the way to it or to a
file. -/
def isDirectory (s : Snapshot) (names : List String) : Bool :=
  names.isPrefixOf s.current ||
    s.files.any fun file => names.isPrefixOf file.1 && names.length < file.1.length

def isFile (s : Snapshot) (names : List String) : Bool := s.files.any fun file => file.1 == names

/-- One step of a walk that has come to a directory or to a file. -/
def step (s : Snapshot) (names : List String) (part : String) : Except FileError (List String) :=
  if s.isFile names then .error .notDirectory
  else if part == "" || part == "." then .ok names
  else if part == ".." then .ok names.dropLast
  else
    let next := names ++ [part]
    if s.isFile next || s.isDirectory next then .ok next else .error .missing

def walk (s : Snapshot) (path : String) : Except FileError (List String) :=
  if path.isEmpty then .error .missing
  else (path.splitOn "/").foldlM s.step (if path.startsWith "/" then [] else s.current)

def read (s : Snapshot) (path : String) : Except FileError String := do
  let names ← s.walk path
  match s.files.lookup names with
  | none => .error .isDirectory
  | some bytes =>
    match String.fromUTF8? bytes with
    | some text => .ok text
    | none => .error .notUtf8

def holds (s : Snapshot) (path : String) : Bool := (s.walk path).toBool

def toFiles (s : Snapshot) : Files Id := ⟨s.read, s.holds, s.walk⟩

end Snapshot

end Palimpsest.Files
