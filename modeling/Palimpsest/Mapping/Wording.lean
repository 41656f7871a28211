import Palimpsest.Mapping.Mapper
import Palimpsest.Text.Quoted

/-!
# Maps in words

How segments, regions and maps are described in reports, and the message of each fault.
-/

namespace Palimpsest.Mapping

open Text (quoted bracketed)

/-- A value in words: its kind and its named parts. -/
def describeParts (kind : String) (parts : List (String × String)) : String :=
  kind ++ " \x7b " ++ ", ".intercalate (parts.map fun (name, text) => name ++ ": " ++ text) ++
    " \x7d"

def Segment.describe (s : Segment) : String :=
  describeParts "Segment"
    [("original_start", s.sourceStart.val.repr), ("original_end", s.sourceStop.val.repr),
     ("expanded_start", s.expandedStart.val.repr), ("expanded_end", s.expandedStop.val.repr)]

def Region.describe (r : Region) : String :=
  describeParts "GeneratedRegion"
    [("start", r.start.val.repr), ("end", r.stop.val.repr),
     ("producer_label", quoted r.producer)]

def Mapper.describe : Mapper → String
  | identity => "IdentityMapper"
  | segments map =>
    describeParts "SegmentMap"
      [("segments", bracketed (map.segments.toList.map Segment.describe)),
       ("generated", bracketed (map.regions.toList.map Region.describe))]

def describeEnds (start stop : Offset) : String := start.val.repr ++ ".." ++ stop.val.repr

def Fault.message : Fault → String
  | invertedSegment index => "segment " ++ index.repr ++ " has an end before its start"
  | invertedRegion index => "generated region " ++ index.repr ++ " has an end before its start"
  | overlappingSegments first second =>
    "segments overlap in expanded space: " ++ first.describe ++ " and " ++ second.describe
  | disorderedSegments first second =>
    "segments are not ordered in original space: " ++ first.describe ++ " and " ++
      second.describe
  | overlappingRegions start stop => "generated regions overlap at " ++ describeEnds start stop
  | regionOverSegment start stop segment =>
    "generated region " ++ describeEnds start stop ++ " overlaps segment " ++ segment.describe

def Fault.report (fault : Fault) : String := "Invalid segment mapping: " ++ fault.message

end Palimpsest.Mapping
