import Palimpsest.Mapping.Lookup
import Palimpsest.Span

/-!
# Mappers

A `Mapper` answers position questions about one expansion: the identity where nothing is known
about its layout, a segment map otherwise. Spans are carried by their two ends, the first with the
bias of a start and the second with the bias of an end; an empty span has one end only.

Correspondence (utsushi ↔ here):
* `PositionMapper`, as implemented by `IdentityMapper` and `SegmentMap` ↔ `Mapper`
* `to_original`, `generated_by` ↔ `toSource`, `producerAt?`
* `original_to_expanded`, `expanded_to_original` ↔ `pointToExpanded`, `pointToSource`
* `map_span_to_expanded`, `map_span_to_original` ↔ `spanToExpanded`, `spanToSource`
-/

namespace Palimpsest.Mapping

/-- How offsets of the source and of the expanded text correspond. -/
inductive Mapper where
  | identity
  | segments (map : SegmentMap)
deriving DecidableEq

namespace Mapper

/-- Whether offsets are carried unchanged because nothing is known about the layout. -/
def isIdentity : Mapper → Bool
  | identity => true
  | segments _ => false

def toExpanded : Mapper → Bias → Offset → Except Overflow Offset
  | identity, _, pos => .ok pos
  | segments map, bias, pos => map.toExpanded bias pos

def toSource : Mapper → Bias → Offset → Except Overflow (Option Offset)
  | identity, _, pos => .ok (some pos)
  | segments map, bias, pos => map.toSource bias pos

def pointToExpanded (m : Mapper) (pos : Offset) : Except Overflow Offset :=
  m.toExpanded .start pos

def pointToSource : Mapper → Offset → Except Overflow (Option Offset)
  | identity, pos => .ok (some pos)
  | segments map, pos => map.pointToSource pos

/-- Who made the expanded byte at the offset, if it was made up. -/
def producerAt? : Mapper → Offset → Option String
  | identity, _ => none
  | segments map, pos => (map.regionAt? .start pos).map Region.producer

def spanToExpanded (m : Mapper) (span : Span) : Except Overflow Span := do
  let start ← m.toExpanded .start span.start
  let stop ← if span.isEmpty then pure start else m.toExpanded .stop span.stop
  return .between start stop

/-- An expanded span carried to the source, `none` where one of its ends is made-up text. -/
def spanToSource (m : Mapper) (span : Span) : Except Overflow (Option Span) := do
  match ← m.toSource .start span.start with
  | none => return none
  | some start =>
    if span.isEmpty then return some (.between start start)
    else
      match ← m.toSource .stop span.stop with
      | none => return none
      | some stop => return some (.between start stop)

/-- The mapper of an expansion that came with a report of its layout or without one. -/
def ofLayout? : Option Layout → Except Fault Mapper
  | none => .ok identity
  | some layout => segments <$> SegmentMap.ofLayout layout

end Mapper

end Palimpsest.Mapping
