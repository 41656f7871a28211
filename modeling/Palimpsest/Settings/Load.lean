import Palimpsest.Files
import Palimpsest.Settings.Basic

/-!
# Loading settings

Settings come from the user's file, where it exists, with the project's file laid over it, where
one is given. The pattern of the result has to be well formed. Of several faults the first one met
in this order is reported.

What a text says and what a pattern matches is decided elsewhere: a `Settings.Reader` and a
`Pattern.Compiler` are handed in. Where they refuse a text they say why, and their reason is the end
of the report.

Correspondence (utsushi ↔ here):
* `ConfigError` ↔ `LoadError`
* `directive_regex` ↔ `matcher`
* `load_settings_file`, `load_user_config`, `load_settings` ↔ `loadLayer`, `loadLayerIfThere`, `load`
* `user_config_path` ↔ `userPath`
-/

namespace Palimpsest

/-- Whether a compiled pattern occurs in a text. -/
abbrev Pattern.Matcher := String → Bool

/-- What compiles patterns: it gives the matcher of a pattern, or the reason why there is none. -/
abbrev Pattern.Compiler := String → Except String Pattern.Matcher

namespace Settings

abbrev Reader := String → Except String Layer

inductive LoadError where
  | unreadable (path : String) (error : FileError)
  | malformed (path reason : String)
  | badPattern (pattern reason : String)
deriving DecidableEq

def LoadError.message : LoadError → String
  | unreadable path error => "Failed to read config " ++ path ++ ": " ++ error.message
  | malformed path reason => "Failed to parse config " ++ path ++ ": " ++ reason
  | badPattern pattern reason => "Invalid directive pattern '" ++ pattern ++ "': " ++ reason

def matcher (compile : Pattern.Compiler) (s : Settings) : Except LoadError Pattern.Matcher :=
  (compile s.directivePattern).mapError (.badPattern s.directivePattern)

/-- The path of the user's file: in the configuration directory where one is set, else below the
home directory. -/
def userPath (configHome : Option String) (home : String) : String :=
  let base :=
    match configHome with
    | some dir => if dir.isEmpty then joinPath home ".config" else dir
    | none => joinPath home ".config"
  joinPath (joinPath base "utsushi") "utsushi.toml"

variable {m : Type → Type} [Monad m]

def loadLayer (read : Reader) (files : Files m) (path : String) : m (Except LoadError Layer) := do
  match ← files.read path with
  | .error error => return .error (.unreadable path error)
  | .ok text => return (read text).mapError (.malformed path)

def loadLayerIfThere (read : Reader) (files : Files m) (path : String) :
    m (Except LoadError (Option Layer)) := do
  if ← files.holds path then return (← loadLayer read files path).map some else return .ok none

/-- The settings of the user's file and of the project's file. -/
def load (read : Reader) (compile : Pattern.Compiler) (files : Files m) (user : String)
    (project : Option String) : m (Except LoadError Settings) := do
  match ← loadLayerIfThere read files user with
  | .error error => return .error error
  | .ok fallback =>
    let primary ←
      match project with
      | none => pure (.ok none)
      | some path => do pure ((← loadLayer read files path).map some)
    match primary with
    | .error error => return .error error
    | .ok primary =>
      let settings := ofLayer ((merge fallback primary).getD .empty)
      return (settings.matcher compile).map fun _ => settings

end Settings

end Palimpsest
