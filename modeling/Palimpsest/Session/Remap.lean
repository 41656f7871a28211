import Palimpsest.Analysis.Finding
import Palimpsest.Analysis.Service
import Palimpsest.Session.Host

/-!
# Answers in source positions

An analysis sees expanded text, and whoever asks it sees the source. `Session.remap` wraps a
service so that both see their own positions:

1. the expansion of the file is brought up to date;
2. the position asked about is carried to the expanded text;
3. the service answers;
4. every position of the answer is carried back to the source.

What lies in made-up text has no place in the source. It is left out of lists, and hides a single
result. A sum of offsets that does not fit ends the question, but the state keeps what has happened
until then.

Correspondence (utsushi ↔ here):
* `RemappingService` ↔ `remap`
* `remap_location`, `remap_locations` ↔ `locationToSource`, `askLocations`
* `remap_diagnostics`, `remap_outline` ↔ `askDiagnostics`, `outlineToSource`
-/

namespace Palimpsest

open Analysis
open Expansion (Invoke Entry)
open Mapping (Mapper)

/-- A question that works in a state and can end in an overflow. -/
abbrev Query (σ : Type) := ExceptT Overflow (StateM σ)

def Query.ofExcept {σ α : Type} (result : Except Overflow α) : Query σ α := ExceptT.mk (pure result)

def Query.ofState {σ α : Type} (step : StateM σ α) : Query σ α := ExceptT.lift step

/-- The results that are there, in their order. -/
def keepSome {m : Type → Type} [Monad m] {α β : Type} (f : α → m (Option β)) :
    List α → m (List β)
  | [] => pure []
  | a :: rest => do
    let first ← f a
    let others ← keepSome f rest
    pure (first.toList ++ others)

namespace Mapping.Mapper

def completionToSource (m : Mapper) (c : CompletionEntry) :
    Except Overflow (Option CompletionEntry) :=
  match c.replacement with
  | none => .ok (some c)
  | some span => (m.spanToSource span).map fun found =>
      found.map fun span => { c with replacement := some span }

def highlightToSource (m : Mapper) (h : Highlight) : Except Overflow (Option Highlight) :=
  (m.spanToSource h.span).map fun found => found.map fun span => { h with span := span }

def hintToSource (m : Mapper) (h : InlayHint) : Except Overflow (Option InlayHint) :=
  (m.pointToSource h.position).map fun found => found.map fun p => { h with position := p }

mutual

/-- An item of an outline in source positions, with what is inside it. -/
def itemToSource (m : Mapper) : OutlineItem → Except Overflow (Option OutlineItem)
  | .mk name kind span selection children => do
    match ← m.spanToSource span with
    | none => return none
    | some span =>
      match ← m.spanToSource selection with
      | none => return none
      | some selection =>
        return some (.mk name kind span selection (← outlineToSource m children))

/-- An outline in source positions. An item is left out with all that is inside it. -/
def outlineToSource (m : Mapper) : List OutlineItem → Except Overflow (List OutlineItem)
  | [] => .ok []
  | item :: rest => do
    let first ← itemToSource m item
    let others ← outlineToSource m rest
    return first.toList ++ others

end

def renameToSource (m : Mapper) : RenameInfo → Except Overflow RenameInfo
  | .available name trigger =>
    (m.spanToSource trigger).map fun
      | some trigger => .available name trigger
      | none => .unavailable "Cannot rename code produced by expansion"
  | .unavailable reason => .ok (.unavailable reason)

end Mapping.Mapper

namespace Session

variable {σ : Type} [HasSession σ]

def noteDropped (kind : String) (file : Url) (count : Nat) : StateM σ Unit :=
  if count = 0 then pure () else change (·.note (.resultsDropped count kind file))

/-- Keeps the results that have a place in the source, and notes how many have none. -/
def keepMapped {α : Type} (kind : String) (file : Url) (f : α → Query σ (Option α))
    (results : List α) : Query σ (List α) := do
  let kept ← keepSome f results
  Query.ofState (noteDropped kind file (results.length - kept.length))
  return kept

/-- A span of a file in source positions. `asked` is the file asked about with its expansion; the
expansions of other files are brought up to date first. -/
def locationToSource (invoke : Invoke σ) (asked : Option (Url × Entry)) (l : Location) :
    Query σ (Option Location) := do
  let moved (entry : Entry) : Query σ (Option Location) := do
    let found ← Query.ofExcept (entry.mapper.spanToSource l.span)
    return found.map fun span => { l with span := span }
  match asked.filter fun (file, _) => file == l.file with
  | some (_, entry) => moved entry
  | none =>
    if (← Query.ofState current).store.units.contains l.file then return some l
    else
      match ← Query.ofState (entryFor invoke l.file) with
      | some entry => moved entry
      | none => return some l

def diagnosticToSource (invoke : Invoke σ) (file : Url) (entry : Entry) (d : Diagnostic) :
    Query σ (Option Diagnostic) := do
  match d.span with
  | none => return some d
  | some span =>
    let found ← locationToSource invoke (some (file, entry)) ⟨d.file.getD file, span⟩
    return found.map fun l => { d with span := some l.span }

def referenceToSource (invoke : Invoke σ) (asked : Option (Url × Entry)) (r : ReferenceEntry) :
    Query σ (Option ReferenceEntry) := do
  let found ← locationToSource invoke asked r.location
  return found.map fun l => { r with location := l }

def askedPosition (expansion : Option Entry) (position : Offset) : Query σ Offset :=
  match expansion with
  | some entry => Query.ofExcept (entry.mapper.pointToExpanded position)
  | none => return position

def askLocations {α : Type} (invoke : Invoke σ) (kind : String)
    (toSource : Option (Url × Entry) → α → Query σ (Option α))
    (inner : Url → Offset → Query σ (List α)) (file : Url) (position : Offset) :
    Query σ (List α) := do
  let expansion ← Query.ofState (entryFor invoke file)
  let results ← inner file (← askedPosition expansion position)
  keepMapped kind file (toSource (expansion.map fun entry => (file, entry))) results

/-- Findings about a file, with its entry where it is expanded. -/
def askDiagnostics (invoke : Invoke σ) (inner : Url → Query σ (List Diagnostic)) (file : Url) :
    Query σ (List Diagnostic × Option Entry) := do
  match ← Query.ofState (entryFor invoke file) with
  | none => return (← inner file, none)
  | some entry =>
    let results ← inner file
    return (← keepMapped "diagnostic" file (diagnosticToSource invoke file entry) results,
      some entry)

/-- The service that sees source positions, for one that sees expanded text. -/
def remap (invoke : Invoke σ) (inner : Service (Query σ)) : Service (Query σ) where
  syntactic file := Prod.fst <$> askDiagnostics invoke inner.syntactic file
  semantic file := do
    let (findings, expansion) ← askDiagnostics invoke inner.semantic file
    match expansion with
    | none => return findings
    | some entry =>
      let source := (← Query.ofState current).settings.diagnosticSource
      return findings ++ entry.diagnostics.map (Diagnostic.ofExpander source)
  quickInfo file position := do
    match ← Query.ofState (entryFor invoke file) with
    | none => inner.quickInfo file position
    | some entry =>
      match ← inner.quickInfo file (← askedPosition (some entry) position) with
      | none => return none
      | some info =>
        match ← Query.ofExcept (entry.mapper.spanToSource info.span) with
        | some span => return some { info with span := span }
        | none =>
          Query.ofState (noteDropped "quick info" file 1)
          return none
  completions file position := do
    match ← Query.ofState (entryFor invoke file) with
    | none => inner.completions file position
    | some entry =>
      match ← inner.completions file (← askedPosition (some entry) position) with
      | none => return none
      | some list =>
        let entries ← keepMapped "completion" file
          (fun c => Query.ofExcept (entry.mapper.completionToSource c)) list.entries
        return some { list with entries := entries }
  definition := askLocations invoke "definition" (locationToSource invoke) inner.definition
  references := askLocations invoke "reference" (referenceToSource invoke) inner.references
  renameInfo file position := do
    match ← Query.ofState (entryFor invoke file) with
    | none => inner.renameInfo file position
    | some entry =>
      let info ← inner.renameInfo file (← askedPosition (some entry) position)
      Query.ofExcept (entry.mapper.renameToSource info)
  renameLocations :=
    askLocations invoke "rename location" (locationToSource invoke) inner.renameLocations
  highlights file position := do
    match ← Query.ofState (entryFor invoke file) with
    | none => inner.highlights file position
    | some entry =>
      let results ← inner.highlights file (← askedPosition (some entry) position)
      keepMapped "highlight" file (fun h => Query.ofExcept (entry.mapper.highlightToSource h))
        results
  outline file := do
    match ← Query.ofState (entryFor invoke file) with
    | none => inner.outline file
    | some entry =>
      let items ← inner.outline file
      Query.ofExcept (entry.mapper.outlineToSource items)
  inlayHints file span := do
    match ← Query.ofState (entryFor invoke file) with
    | none => inner.inlayHints file span
    | some entry =>
      let results ← inner.inlayHints file (← Query.ofExcept (entry.mapper.spanToExpanded span))
      keepMapped "inlay hint" file (fun h => Query.ofExcept (entry.mapper.hintToSource h)) results

end Session

end Palimpsest
