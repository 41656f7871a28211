import Palimpsest.Bisect
import Palimpsest.Span

/-!
# Lines and columns

Editors name a place in a text by its line and by the number of UTF-16 code units before it in the
line; here a place is a byte offset. A `LineMap` is an index of one text that answers both
questions: where each line starts and ends, and which of its characters take more than one byte.

Lines end at a line feed. A column is found from a byte column by taking away, and a byte column
from a column by adding, what each wide character on the way has in bytes beyond its code units.
Numbers of lines, columns and line starts have 32 bits. A column that outgrows them stands for the
end of the text. A sum of a line's start and a column that does so is an overflow, and so is the
number of the next line, by which the end of a line is looked up.

An index is meant for texts of less than 2^32 bytes; one of a longer text is not made at all where
indexes come from. `ofText` does not refuse such a text, so every result about places carries the
bound.

Correspondence (utsushi ↔ here):
* `offset_to_position`, `position_to_offset` ↔ `LineMap.position`, `LineMap.offset`
* `span_to_range`, `range_to_span` ↔ `LineMap.range`, `LineMap.span`
* `line_end` ↔ `Line.lookUpStop`
-/

namespace Palimpsest.Text

/-- A place in a text: a line, and a column in UTF-16 code units, both counted from zero. -/
structure Position where
  line : Count32
  character : Count32
deriving DecidableEq

structure Range where
  start : Position
  stop : Position
deriving DecidableEq

def Position.first : Position := ⟨0, 0⟩

/-- A number as a count of 32 bits, the largest one where it is too large. -/
def count32 (n : Nat) : Count32 := ⟨min n 0xFFFFFFFF, by omega⟩

/-- A character of several bytes: the byte column where it starts, and its bytes. -/
structure WideChar where
  start : Nat
  bytes : Nat
deriving DecidableEq

namespace WideChar

/-- The UTF-16 code units of the character: two from four bytes on, else one. -/
def units (c : WideChar) : Nat := if c.bytes = 4 then 2 else 1

/-- What the character has in bytes beyond its code units. -/
def excess (c : WideChar) : Nat := c.bytes - c.units

end WideChar

/-- A line: the offsets where it starts and where it ends without its line break, and its wide
characters in order. -/
structure Line where
  start : Nat
  stop : Nat
  wides : List WideChar
deriving DecidableEq

/-- The lines of a text whose line at hand starts at `start` and has `column` bytes so far;
`afterReturn` tells that the last of them is a carriage return. -/
def linesFrom (start column : Nat) (afterReturn : Bool) (wides : List WideChar) :
    List Char → List Line
  | [] => [⟨start, start + column, wides.reverse⟩]
  | c :: rest =>
    if c = '\n' then
      ⟨start, start + column - (if afterReturn then 1 else 0), wides.reverse⟩ ::
        linesFrom (start + column + 1) 0 false [] rest
    else
      linesFrom start (column + c.utf8Size) (c == '\r')
        (if 1 < c.utf8Size then ⟨column, c.utf8Size⟩ :: wides else wides) rest

/-- The offset, moved back to where a character starts or the text ends. -/
def floorBoundary : List Char → Nat → Nat
  | [], _ => 0
  | c :: rest, offset =>
    if c.utf8Size ≤ offset then c.utf8Size + floorBoundary rest (offset - c.utf8Size) else 0

/-- The column of a byte column: every wide character that ends at or before it counts by its code
units. -/
def columnOfByte (byteColumn : Nat) : List WideChar → Nat
  | [] => byteColumn
  | c :: rest =>
    if c.start + c.bytes ≤ byteColumn then columnOfByte byteColumn rest - c.excess else byteColumn

/-- The byte column of a column: every wide character that starts before it counts by its bytes.
There is none where it does not fit 32 bits. -/
def byteOfColumn? (column : Nat) : List WideChar → Option Nat
  | [] => some column
  | c :: rest =>
    if c.start < column then
      if column + c.excess < 0x100000000 then byteOfColumn? (column + c.excess) rest else none
    else some column

def sum32 (a b : Nat) : Except Overflow Nat :=
  if a + b < 0x100000000 then .ok (a + b) else .error .sum

/-- Where a line ends. This is looked up by the number of the next line, whether there is one or
not. -/
def Line.lookUpStop (line : Line) (number : Count32) : Except Overflow Nat :=
  (sum32 number.val 1).map fun _ => line.stop

structure LineMap where
  text : String
  lines : Array Line

namespace LineMap

def ofText (text : String) : LineMap := ⟨text, (linesFrom 0 0 false [] text.toList).toArray⟩

/-- The place of an offset. An offset behind the text means its end, one inside a character the
start of the character. -/
def position (m : LineMap) (offset : Offset) : Position :=
  let offset := floorBoundary m.text.toList offset.val
  let line := Bisect.splitPoint m.lines (fun l => decide (l.start ≤ offset)) 0 m.lines.size - 1
  match m.lines[line]? with
  | some l => ⟨count32 line, count32 (columnOfByte (offset - l.start) l.wides)⟩
  | none => .first

def size (m : LineMap) : Offset := Offset.clamp m.text.utf8ByteSize

/-- The offset of a place. A column behind its line means the line's end, a line behind the text
the text's end. -/
def offset (m : LineMap) (p : Position) : Except Overflow Offset :=
  match m.lines[p.line.val]? with
  | none => .ok m.size
  | some line =>
    match byteOfColumn? p.character.val line.wides with
    | none => .ok m.size
    | some column => do
      let found ← sum32 line.start column
      let stop ← line.lookUpStop p.line
      return Offset.clamp (min found stop)

def range (m : LineMap) (span : Span) : Range := ⟨m.position span.start, m.position span.stop⟩

def span (m : LineMap) (r : Range) : Except Overflow Span := do
  let start ← m.offset r.start
  let stop ← m.offset r.stop
  return .between start stop

end LineMap

end Palimpsest.Text
