/-!
# Files

How this library looks at files, whatever holds them: `Files m` is a place from which files can be
read in the monad `m`. `FileError` tells why one could not be.
-/

namespace Palimpsest

inductive FileError where
  | missing
  | isDirectory
  | notDirectory
  | notUtf8
  | other (text : String)
deriving DecidableEq

def FileError.message : FileError → String
  | missing => "No such file or directory (os error 2)"
  | isDirectory => "Is a directory (os error 21)"
  | notDirectory => "Not a directory (os error 20)"
  | notUtf8 => "stream did not contain valid UTF-8"
  | other text => text

/-- A place that holds files. -/
structure Files (m : Type → Type) where
  /-- The text of a file. -/
  read : String → m (Except FileError String)
  /-- Whether there is something at a path. -/
  holds : String → m Bool
  /-- The names on the way from the root to a file, without detours. -/
  locate : String → m (Except FileError (List String))

def joinPath (path name : String) : String :=
  if path.isEmpty || path.endsWith "/" then path ++ name else path ++ "/" ++ name

end Palimpsest
