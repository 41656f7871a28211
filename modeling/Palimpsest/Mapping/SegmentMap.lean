import Palimpsest.Bisect
import Palimpsest.Mapping.Segment

/-!
# Segment maps

A `SegmentMap` holds segments and regions that fit together: no run is inverted, segments follow
each other in both texts, regions follow each other, and no region shares a byte with a segment.
`SegmentMap.build` sorts a report into such a map or names the first `Fault` that it meets.

The order in which faults are looked for is part of the behaviour: inverted segments, inverted
regions, neighbouring segments (first in the expanded text, then in the source), neighbouring
regions, and last each region against the segments.

Correspondence (utsushi ↔ here):
* `SegmentMap.new`, `from_mapping` ↔ `build`, `ofLayout`
* `SegmentMapError` ↔ `Fault`
-/

namespace Palimpsest.Mapping

inductive Fault where
  | invertedSegment (index : Nat)
  | invertedRegion (index : Nat)
  | overlappingSegments (first second : Segment)
  | disorderedSegments (first second : Segment)
  | overlappingRegions (start stop : Offset)
  | regionOverSegment (start stop : Offset) (segment : Segment)
deriving DecidableEq

/-- Segments and regions in the order of the expanded text. -/
structure SegmentMap where
  segments : Array Segment
  regions : Array Region
deriving DecidableEq

namespace SegmentMap

/-- Segments are sorted by where they start and then by where they end in the expanded text. -/
def segmentOrder (a b : Segment) : Bool :=
  decide (a.expandedStart < b.expandedStart) ||
    (decide (a.expandedStart = b.expandedStart) && decide (a.expandedStop ≤ b.expandedStop))

def regionOrder (a b : Region) : Bool :=
  decide (a.start < b.start) || (decide (a.start = b.start) && decide (a.stop ≤ b.stop))

/-- The first neighbours among sorted segments that do not follow each other. -/
def segmentFault? : List Segment → Option Fault
  | first :: second :: rest =>
    if second.expandedStart < first.expandedStop then some (.overlappingSegments first second)
    else if second.sourceStart < first.sourceStop then some (.disorderedSegments first second)
    else segmentFault? (second :: rest)
  | _ => none

/-- The first neighbours among sorted regions that share a byte. -/
def regionFault? : List Region → Option Fault
  | first :: second :: rest =>
    if second.start < first.stop then some (.overlappingRegions second.start second.stop)
    else regionFault? (second :: rest)
  | _ => none

/-- The first segment that has a byte and shares one with the region. -/
def segmentUnder? (segments : Array Segment) (region : Region) : Option Segment :=
  ((Bisect.rest segments fun s => decide (s.expandedStop ≤ region.start)).takeWhile
    fun s => decide (s.expandedStart < region.stop)).find?
      fun s => decide (s.expandedStart < s.expandedStop)

/-- The first region with a byte that shares one with a segment. -/
def crossFault? (segments : Array Segment) : List Region → Option Fault
  | [] => none
  | region :: rest =>
    if region.isOccupied then
      match segmentUnder? segments region with
      | some segment => some (.regionOverSegment region.start region.stop segment)
      | none => crossFault? segments rest
    else crossFault? segments rest

/-- The map of the listed segments and regions, or the first fault in the order given above. -/
def build (segments : List Segment) (regions : List Region) : Except Fault SegmentMap :=
  match segments.findIdx? Segment.isInverted with
  | some index => .error (.invertedSegment index)
  | none =>
    match regions.findIdx? Region.isInverted with
    | some index => .error (.invertedRegion index)
    | none =>
      let segments := segments.mergeSort segmentOrder
      match segmentFault? segments with
      | some fault => .error fault
      | none =>
        let regions := regions.mergeSort regionOrder
        match regionFault? regions with
        | some fault => .error fault
        | none =>
          match crossFault? segments.toArray regions with
          | some fault => .error fault
          | none => .ok ⟨segments.toArray, regions.toArray⟩

def ofLayout (layout : Layout) : Except Fault SegmentMap :=
  build layout.segments layout.regions

end SegmentMap

end Palimpsest.Mapping
