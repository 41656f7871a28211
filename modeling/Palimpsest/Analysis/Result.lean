import Palimpsest.Span
import Palimpsest.Url.Basic

/-!
# Results of an analysis service

What a language service tells about a file. All spans are byte spans of the file that is named
beside them, or of the file that was asked about where none is named.
-/

namespace Palimpsest.Analysis

/-- How grave a finding is. -/
inductive Severity where
  | error
  | warning
  | information
  | hint
deriving DecidableEq

/-- A finding about a file; without a file it is about the file that was asked about, without a
span about the whole of it. -/
structure Diagnostic where
  file : Option Url
  span : Option Span
  message : String
  severity : Severity
  code : Option String
  source : Option String
deriving DecidableEq

/-- What is known about the name at a position. -/
structure QuickInfo where
  span : Span
  contents : String
deriving DecidableEq

/-- One way to go on at a position, and the text that it would replace. -/
structure CompletionEntry where
  name : String
  kind : Option String
  detail : Option String
  replacement : Option Span
deriving DecidableEq

structure CompletionList where
  entries : List CompletionEntry
  isIncomplete : Bool
deriving DecidableEq

structure Location where
  file : Url
  span : Span
deriving DecidableEq

/-- A use of a name. -/
structure ReferenceEntry where
  location : Location
  isWrite : Bool
  isDefinition : Bool
deriving DecidableEq

/-- Whether the name at a position can be changed. -/
inductive RenameInfo where
  | available (displayName : String) (trigger : Span)
  | unavailable (reason : String)
deriving DecidableEq

inductive HighlightKind where
  | text
  | read
  | write
deriving DecidableEq

structure Highlight where
  span : Span
  kind : HighlightKind
deriving DecidableEq

/-- A declaration in the outline of a file, with those inside it. -/
inductive OutlineItem where
  | mk (name kind : String) (span selection : Span) (children : List OutlineItem)

/-- What a hint in the text is about. -/
inductive HintKind where
  | type
  | parameter
  | other
deriving DecidableEq

structure InlayHint where
  position : Offset
  label : String
  kind : HintKind
deriving DecidableEq

end Palimpsest.Analysis
