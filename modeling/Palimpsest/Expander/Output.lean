import Palimpsest.Dictionary
import Palimpsest.Mapping.Segment

/-!
# What an expander gets and gives

An expander turns the text of a file into an expanded text. It is handed `Options`, which are its
own business, and answers with an `Output`, a failure, or a crash.

Correspondence (utsushi ↔ here):
* `ExpandOptions`, `ExpansionOutput`, `ExpanderDiagnostic` ↔ `Options`, `Output`, `Diagnostic`
* `ExpanderError`, and a crash of the expander ↔ the last two cases of `Reply`
-/

namespace Palimpsest.Expander

/-- The switches of an expander. Only the first has a meaning here; the others are handed on. -/
structure Options where
  keepAnnotations : Bool
  extra : Dictionary

namespace Options

def empty : Options := ⟨false, .empty⟩

def same (a b : Options) : Bool :=
  a.keepAnnotations == b.keepAnnotations && a.extra.same b.extra

theorem same_refl (o : Options) : o.same o = true := by simp [same, o.extra.same_refl]

end Options

/-- How grave a remark of an expander is. -/
inductive Severity where
  | error
  | warning
  | info
  | other
deriving DecidableEq

/-- A remark of an expander about the source text, in offsets of the source text. -/
structure Diagnostic where
  severity : Severity
  message : String
  start : Option Offset
  stop : Option Offset
deriving DecidableEq

/-- The result of an expansion. -/
structure Output where
  code : String
  declarations : Option String
  diagnostics : List Diagnostic
  layout : Option Mapping.Layout
deriving DecidableEq

/-- How a run of an expander ends. -/
inductive Reply where
  | output (output : Output)
  | failed (message : String)
  /-- The expander broke down, with a message or without one. -/
  | crashed (message : Option String)
deriving DecidableEq

end Palimpsest.Expander
