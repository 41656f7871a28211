import Palimpsest.Mapping.Segment
import Palimpsest.Span
import Palimpsest.Wire.Codec

/-!
# Spans and layouts on the wire

The forms of spans, segments, regions and of an expander's report of its layout.
-/

namespace Palimpsest.Wire

open Mapping

instance : Codec Span where
  encode s := .object [("start", encode s.start), ("length", encode s.length)]
  decode value := do
    match ← slots? ["start", "length"] value with
    | [start, length] => return ⟨← start.required, ← length.required⟩
    | _ => none

instance : Codec Segment where
  encode s :=
    .object
      [("originalStart", encode s.sourceStart), ("originalEnd", encode s.sourceStop),
       ("expandedStart", encode s.expandedStart), ("expandedEnd", encode s.expandedStop)]
  decode value := do
    match ← slots? ["originalStart", "originalEnd", "expandedStart", "expandedEnd"] value with
    | [a, b, c, d] => return ⟨← a.required, ← b.required, ← c.required, ← d.required⟩
    | _ => none

instance : Codec Region where
  encode r :=
    .object
      [("start", encode r.start), ("end", encode r.stop), ("producerLabel", encode r.producer)]
  decode value := do
    match ← slots? ["start", "end", "producerLabel"] value with
    | [a, b, c] => return ⟨← a.required, ← b.required, ← c.required⟩
    | _ => none

instance : Codec Layout where
  encode l :=
    .object [("segments", encode l.segments), ("generatedRegions", encode l.regions)]
  decode value := do
    match ← slots? ["segments", "generatedRegions"] value with
    | [a, b] => return ⟨← a.withDefault [], ← b.withDefault []⟩
    | _ => none

end Palimpsest.Wire
