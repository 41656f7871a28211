import Palimpsest.Offset

/-!
# Spans

A span is a run of bytes: where it starts and how many bytes it has. `Span.between` reads it off
two offsets; offsets in the wrong order give the empty span at the first.

Correspondence (utsushi ↔ here):
* `TextSpan` ↔ `Span`
* `from_bounds`, `end` ↔ `between`, `stop`
-/

namespace Palimpsest

/-- The bytes from `start` up to, and without, `start + length`. -/
structure Span where
  start : Offset
  length : Offset
deriving DecidableEq

namespace Span

/-- The span from one offset to another, empty where the second comes first. -/
def between (start stop : Offset) : Span := ⟨start, stop.minus start⟩

/-- The offset just behind the span, at most the largest offset. -/
def stop (s : Span) : Offset := s.start.plus s.length

def isEmpty (s : Span) : Bool := s.length.val == 0

end Span

end Palimpsest
