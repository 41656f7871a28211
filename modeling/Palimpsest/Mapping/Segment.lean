import Palimpsest.Offset

/-!
# Segments and regions

What an expander says about its output: which runs of the expanded text stand for which runs of
the source text (`Segment`), and which runs it made up (`Region`). Nothing is checked here; a
`Layout` is the plain report, in the order in which it was given.

Correspondence (utsushi ↔ here), with "source" for "original" in all names:
* `SegmentMapping` ↔ `Layout`
* `GeneratedRegion`, with its `producer_label` ↔ `Region`, with its `producer`
* `Space` ↔ `Side`
-/

namespace Palimpsest.Mapping

/-- The two texts that a map connects. -/
inductive Side where
  | source
  | expanded
deriving DecidableEq

def Side.other : Side → Side
  | .source => .expanded
  | .expanded => .source

/-- A run of source bytes and the run of expanded bytes that stands for it. The two may differ in
length. -/
structure Segment where
  sourceStart : Offset
  sourceStop : Offset
  expandedStart : Offset
  expandedStop : Offset
deriving DecidableEq

namespace Segment

def start (s : Segment) : Side → Offset
  | .source => s.sourceStart
  | .expanded => s.expandedStart

def stop (s : Segment) : Side → Offset
  | .source => s.sourceStop
  | .expanded => s.expandedStop

/-- The segment that stands for the same bytes of both texts. -/
def aligned (start stop : Offset) : Segment := ⟨start, stop, start, stop⟩

/-- Whether one of the two runs ends before it starts. -/
def isInverted (s : Segment) : Bool :=
  decide (s.sourceStop < s.sourceStart) || decide (s.expandedStop < s.expandedStart)

end Segment

/-- A run of expanded bytes that stands for nothing in the source, and who made it. -/
structure Region where
  start : Offset
  stop : Offset
  producer : String
deriving DecidableEq

namespace Region

def isInverted (r : Region) : Bool := decide (r.stop < r.start)

def isOccupied (r : Region) : Bool := decide (r.start < r.stop)

end Region

/-- The segments and regions of one expansion as its expander lists them. -/
structure Layout where
  segments : List Segment
  regions : List Region
deriving DecidableEq

end Palimpsest.Mapping
