import Palimpsest.Analysis.Result

/-!
# Analysis services

What an analysis can be asked about a file. Positions and spans are those of the text that the
service reads. The answers are given in a monad `m`, so a service may read files, keep state or
fail.
-/

namespace Palimpsest.Analysis

/-- An analysis that answers questions about files. -/
structure Service (m : Type → Type) where
  syntactic : Url → m (List Diagnostic)
  semantic : Url → m (List Diagnostic)
  quickInfo : Url → Offset → m (Option QuickInfo)
  completions : Url → Offset → m (Option CompletionList)
  definition : Url → Offset → m (List Location)
  references : Url → Offset → m (List ReferenceEntry)
  renameInfo : Url → Offset → m RenameInfo
  renameLocations : Url → Offset → m (List Location)
  highlights : Url → Offset → m (List Highlight)
  outline : Url → m (List OutlineItem)
  inlayHints : Url → Span → m (List InlayHint)

end Palimpsest.Analysis
