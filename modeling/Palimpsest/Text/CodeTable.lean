import Palimpsest.Bisect
import Palimpsest.Text.Hex

/-!
# Tables of code points

A `CodeTable` is a property of code points, kept as ascending runs with a label each. It is written
as words in lines of text: `41-5a:Lu` is a run with a label, `aa` a run of one code point without
one, all numbers hexadecimal.
-/

namespace Palimpsest.Text

/-- The value of a hexadecimal number, zero for any other text. -/
def ofHex (text : String) : Nat := (hexNumber? text.toList).getD 0

def wordsOf (lines : List String) : List String := lines.flatMap fun line => line.splitOn " "

/-- The code points from `first` to `last` and what is said about them. -/
structure CodeRun where
  first : Nat
  last : Nat
  label : String

def CodeRun.ofText (text : String) : CodeRun :=
  let (range, label) :=
    match text.splitOn ":" with
    | [range, label] => (range, label)
    | _ => (text, "")
  match range.splitOn "-" with
  | [first, last] => ⟨ofHex first, ofHex last, label⟩
  | _ => ⟨ofHex range, ofHex range, label⟩

/-- Runs of code points in ascending order. -/
structure CodeTable where
  runs : Array CodeRun

namespace CodeTable

def ofLines (lines : List String) : CodeTable := ⟨((wordsOf lines).map CodeRun.ofText).toArray⟩

def label? (table : CodeTable) (code : Nat) : Option String :=
  let place := Bisect.splitPoint table.runs (fun run => decide (run.last < code)) 0 table.runs.size
  match table.runs[place]? with
  | some run => if run.first ≤ code then some run.label else none
  | none => none

def contains (table : CodeTable) (code : Nat) : Bool := (table.label? code).isSome

end CodeTable

end Palimpsest.Text
