import Palimpsest.Analysis.Finding
import Palimpsest.Url.Reader
import Palimpsest.Wire.Mapping

/-!
# Results of a service on the wire

The forms of all results of an analysis service. A URL is written as its text. Outlines are nested
to any depth; they are read with the depth of the value as a bound.
-/

namespace Palimpsest.Wire

open Analysis

instance : Codec Url where
  encode u := .string u.render
  decode
    | .string text => (Url.read text).toOption
    | _ => none

instance : Codec Severity where
  encode
    | .error => .string "error"
    | .warning => .string "warning"
    | .information => .string "information"
    | .hint => .string "hint"
  decode value :=
    match choice? value with
    | some "error" => some .error
    | some "warning" => some .warning
    | some "information" => some .information
    | some "hint" => some .hint
    | _ => none

instance : Codec Diagnostic where
  encode d :=
    .object
      [("file", encode d.file), ("span", encode d.span), ("message", encode d.message),
       ("severity", encode d.severity), ("code", encode d.code), ("source", encode d.source)]
  decode value := do
    match ← slots? ["file", "span", "message", "severity", "code", "source"] value with
    | [a, b, c, d, e, f] =>
      return ⟨← a.optional, ← b.optional, ← c.required, ← d.required, ← e.optional, ← f.optional⟩
    | _ => none

instance : Codec QuickInfo where
  encode q := .object [("span", encode q.span), ("contents", encode q.contents)]
  decode value := do
    match ← slots? ["span", "contents"] value with
    | [a, b] => return ⟨← a.required, ← b.required⟩
    | _ => none

instance : Codec CompletionEntry where
  encode c :=
    .object
      [("name", encode c.name), ("kind", encode c.kind), ("detail", encode c.detail),
       ("replacement_span", encode c.replacement)]
  decode value := do
    match ← slots? ["name", "kind", "detail", "replacement_span"] value with
    | [a, b, c, d] => return ⟨← a.required, ← b.optional, ← c.optional, ← d.optional⟩
    | _ => none

instance : Codec CompletionList where
  encode c := .object [("entries", encode c.entries), ("is_incomplete", encode c.isIncomplete)]
  decode value := do
    match ← slots? ["entries", "is_incomplete"] value with
    | [a, b] => return ⟨← a.required, ← b.required⟩
    | _ => none

instance : Codec Location where
  encode l := .object [("file", encode l.file), ("span", encode l.span)]
  decode value := do
    match ← slots? ["file", "span"] value with
    | [a, b] => return ⟨← a.required, ← b.required⟩
    | _ => none

instance : Codec ReferenceEntry where
  encode r :=
    .object
      [("location", encode r.location), ("is_write", encode r.isWrite),
       ("is_definition", encode r.isDefinition)]
  decode value := do
    match ← slots? ["location", "is_write", "is_definition"] value with
    | [a, b, c] => return ⟨← a.required, ← b.required, ← c.required⟩
    | _ => none

instance : Codec RenameInfo where
  encode
    | .available name trigger =>
      .object
        [("Available", .object [("display_name", encode name), ("trigger_span", encode trigger)])]
    | .unavailable reason => .object [("Unavailable", .object [("reason", encode reason)])]
  decode
    | .object [("Available", value)] => do
      match ← slots? ["display_name", "trigger_span"] value with
      | [a, b] => return .available (← a.required) (← b.required)
      | _ => none
    | .object [("Unavailable", value)] => do
      match ← slots? ["reason"] value with
      | [a] => return .unavailable (← a.required)
      | _ => none
    | _ => none

instance : Codec HighlightKind where
  encode
    | .text => .string "text"
    | .read => .string "read"
    | .write => .string "write"
  decode value :=
    match choice? value with
    | some "text" => some .text
    | some "read" => some .read
    | some "write" => some .write
    | _ => none

instance : Codec Highlight where
  encode h := .object [("span", encode h.span), ("kind", encode h.kind)]
  decode value := do
    match ← slots? ["span", "kind"] value with
    | [a, b] => return ⟨← a.required, ← b.required⟩
    | _ => none

mutual

def writeOutlineItem : OutlineItem → Json
  | .mk name kind span selection children =>
    .object
      [("name", encode name), ("kind", encode kind), ("span", encode span),
       ("selection_span", encode selection), ("children", .array (writeOutline children))]

def writeOutline : List OutlineItem → List Json
  | [] => []
  | item :: rest => writeOutlineItem item :: writeOutline rest

end

/-- A declaration of an outline, with at most so many inside each other. -/
def readOutlineItem? : Nat → Json → Option OutlineItem
  | 0, _ => none
  | bound + 1, value => do
    match ← slots? ["name", "kind", "span", "selection_span", "children"] value with
    | [a, b, c, d, e] =>
      let children ←
        match e with
        | .given (.array items) => items.mapM (readOutlineItem? bound)
        | .given _ => none
        | _ => some []
      return .mk (← a.required) (← b.required) (← c.required) (← d.required) children
    | _ => none

instance : Codec OutlineItem where
  encode := writeOutlineItem
  decode value := readOutlineItem? value.depth value

instance : Codec HintKind where
  encode
    | .type => .string "type"
    | .parameter => .string "parameter"
    | .other => .string "other"
  decode value :=
    match choice? value with
    | some "type" => some .type
    | some "parameter" => some .parameter
    | some "other" => some .other
    | _ => none

instance : Codec InlayHint where
  encode h :=
    .object
      [("position", encode h.position), ("label", encode h.label), ("kind", encode h.kind)]
  decode value := do
    match ← slots? ["position", "label", "kind"] value with
    | [a, b, c] => return ⟨← a.required, ← b.required, ← c.required⟩
    | _ => none

/-! ## Places by line and column -/

def writePosition (p : Text.Position) : Json :=
  .object [("line", .nat p.line.val), ("character", .nat p.character.val)]

def writeRange (r : Text.Range) : Json :=
  .object [("start", writePosition r.start), ("end", writePosition r.stop)]

def writeShown (d : ShownDiagnostic) : Json :=
  .object
    ([("range", writeRange d.range), ("severity", .nat d.level)] ++ present "code" d.code ++
      present "source" d.source ++ [("message", encode d.message)])

end Palimpsest.Wire
