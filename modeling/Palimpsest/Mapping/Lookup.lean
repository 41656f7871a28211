import Palimpsest.Mapping.SegmentMap

/-!
# Lookups in a segment map

An offset of one text is carried to the other through the segment that holds it. An offset between
two segments belongs to both of them and to neither, so each lookup says with a `Bias` which side
of a boundary it means: the start of a span means the run that begins there, its end the run that
ends there.

Where no segment holds the offset, `SegmentMap.extrapolate` decides. Before the first segment the
texts are the same; between two segments the offset snaps to the end of the one before; behind the
last segment the distance to it is kept.

Correspondence (utsushi ↔ here):
* `Lookup` ↔ `Meeting`
* `generated_at` ↔ `regionAt?`
* `original_to_expanded_biased`, `expanded_to_original_biased` ↔ `toExpanded`, `toSource`
* `expanded_to_original_at` ↔ `pointToSource`
-/

namespace Palimpsest.Mapping

/-- Which side of a boundary a lookup means. -/
inductive Bias where
  | start
  | stop
deriving DecidableEq

inductive Meeting where
  /-- The offset is inside the segment for the bias asked for. -/
  | inside (segment : Segment)
  /-- The offset is on the edge of the segment that the bias does not count. -/
  | edge (segment : Segment)
  | outside
deriving DecidableEq

namespace Segment

/-- Whether a segment that touches the offset counts it as its own. -/
def holds (s : Segment) (side : Side) (bias : Bias) (pos : Offset) : Bool :=
  match bias with
  | .start => decide (pos < s.stop side)
  | .stop => decide (s.start side < pos)

/-- The offset carried through the segment: as far behind the far start as it was behind the near
one, and at most the far end. The sum is formed before it is cut down to the far end. -/
def project (s : Segment) (side : Side) (pos : Offset) : Except Overflow Offset := do
  let sum ← (s.start side.other).add (pos.minus (s.start side))
  return sum.least (s.stop side.other)

end Segment

namespace SegmentMap

/-- The first segment that holds the offset, else the first of those that were passed on the way,
among segments that all touch the offset. -/
def meet (side : Side) (bias : Bias) (pos : Offset) : List Segment → Meeting → Meeting
  | [], met => met
  | s :: rest, met =>
    if s.holds side bias pos then .inside s
    else meet side bias pos rest (match met with | .outside => .edge s | met => met)

def locate (m : SegmentMap) (side : Side) (bias : Bias) (pos : Offset) : Meeting :=
  meet side bias pos
    ((Bisect.rest m.segments fun s => decide (s.stop side < pos)).takeWhile
      fun s => decide (s.start side ≤ pos))
    .outside

/-- Where an offset goes that no segment touches. -/
def extrapolate (m : SegmentMap) (side : Side) (pos : Offset) : Offset :=
  let after := Bisect.splitPoint m.segments (fun s => decide (s.stop side < pos)) 0 m.segments.size
  match after with
  | 0 => pos
  | before + 1 =>
    match m.segments[before]? with
    | none => pos
    | some previous =>
      if after < m.segments.size then previous.stop side.other
      else (previous.stop side.other).plus (pos.minus (previous.stop side))

/-- The first region that shares a byte with the bytes from `low` up to `high`. -/
def regionWithin? (m : SegmentMap) (low high : Offset) : Option Region :=
  m.regions.find? fun r => r.isOccupied && decide (r.start < high) && decide (low < r.stop)

/-- The region that covers the byte behind the offset, or before it, as the bias says. -/
def regionAt? (m : SegmentMap) (bias : Bias) (pos : Offset) : Option Region :=
  match bias with
  | .start => m.regionWithin? pos (pos.plus 1)
  | .stop => if pos = 0 then none else m.regionWithin? (pos.minus 1) pos

/-- A source offset carried to the expanded text. -/
def toExpanded (m : SegmentMap) (bias : Bias) (pos : Offset) : Except Overflow Offset :=
  match m.locate .source bias pos with
  | .inside s | .edge s => s.project .source pos
  | .outside => .ok (m.extrapolate .source pos)

/-- An expanded offset carried to the source, `none` in made-up text. A region wins over the edge
of a segment. -/
def toSource (m : SegmentMap) (bias : Bias) (pos : Offset) : Except Overflow (Option Offset) :=
  match m.locate .expanded bias pos with
  | .inside s => some <$> s.project .expanded pos
  | met =>
    if (m.regionAt? bias pos).isSome then .ok none
    else
      match met with
      | .inside s | .edge s => some <$> s.project .expanded pos
      | .outside => .ok (some (m.extrapolate .expanded pos))

/-- A single expanded offset carried to the source. Segments count both of their edges here, so the
end of a segment has a source offset even where a region begins. -/
def pointToSource (m : SegmentMap) (pos : Offset) : Except Overflow (Option Offset) :=
  match m.locate .expanded .start pos with
  | .inside s | .edge s => some <$> s.project .expanded pos
  | .outside =>
    if (m.regionAt? .start pos).isSome then .ok none
    else .ok (some (m.extrapolate .expanded pos))

end SegmentMap

end Palimpsest.Mapping
