import Palimpsest.Command.Run
import Palimpsest.Json.Reader
import Palimpsest.Pattern.Reader
import Palimpsest.Settings.File
import Palimpsest.Wire.Expander

/-!
# What the program is run with

Expansions are written in JSON and settings in TOML, and patterns are regular expressions. The
readers of all three are those of this project.
-/

namespace Palimpsest.Command

/-- The expansion that a text stands for, or that it is none. -/
def parseOutput (text : String) : Except String Expander.Output :=
  match (Json.parse? text).bind Wire.decode with
  | some output => .ok output
  | none => .error "not an expansion"

def Libraries.own : Libraries where
  readOutput := parseOutput
  readSettings := Settings.Layer.read
  compile := Pattern.compile
  crashText error := error.message ++ "\n"

end Palimpsest.Command
