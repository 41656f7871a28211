import Palimpsest.Analysis.Result
import Palimpsest.Expander.Output
import Palimpsest.Text.Lines

/-!
# Findings of expanders and findings for editors

Remarks of an expander become findings like those of a service (`Diagnostic.ofExpander`), and
findings are shown in an editor by lines and columns (`Diagnostic.shown`).

Correspondence (utsushi ↔ here):
* `from_expander`, `severity_of` ↔ `Diagnostic.ofExpander`, `Severity.ofExpander`
* `to_lsp_diagnostic`, `to_lsp_severity` ↔ `Diagnostic.shown`, `Severity.level`
-/

namespace Palimpsest.Analysis

def Severity.ofExpander : Expander.Severity → Severity
  | .error => .error
  | .warning => .warning
  | .info | .other => .information

/-- The span of an expander's remark: a start without an end is an empty span. -/
def remarkSpan : Option Offset → Option Offset → Option Span
  | some start, some stop => some (.between start stop)
  | some start, none => some ⟨start, 0⟩
  | none, _ => none

/-- An expander's remark as a finding that names its source. The offsets are those of the source
text already. -/
def Diagnostic.ofExpander (source : String) (remark : Expander.Diagnostic) : Diagnostic :=
  { file := none
    span := remarkSpan remark.start remark.stop
    message := remark.message
    severity := .ofExpander remark.severity
    code := none
    source := some source }

def Severity.level : Severity → Nat
  | error => 1
  | warning => 2
  | information => 3
  | hint => 4

/-- A finding as an editor shows it. -/
structure ShownDiagnostic where
  range : Text.Range
  level : Nat
  code : Option String
  source : Option String
  message : String
deriving DecidableEq

/-- A finding by lines and columns. One about a whole file stands at its start. -/
def Diagnostic.shown (lines : Text.LineMap) (d : Diagnostic) : ShownDiagnostic :=
  { range := match d.span with | some span => lines.range span | none => ⟨.first, .first⟩
    level := d.severity.level
    code := d.code
    source := d.source
    message := d.message }

end Palimpsest.Analysis
