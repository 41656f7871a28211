/-!
# Bisection

Where elements that satisfy a test stand before all that do not, the place between them is found
by halving.
-/

namespace Palimpsest.Bisect

/-- How many elements at the front satisfy `test`, found by halving the stretch from `low` to
`high`: every element before `low` satisfies it and none from `high` on does. -/
def splitPoint {α : Type} (items : Array α) (test : α → Bool) (low high : Nat) : Nat :=
  if low < high then
    let middle := low + (high - low) / 2
    match items[middle]? with
    | some item =>
      if test item then splitPoint items test (middle + 1) high
      else splitPoint items test low middle
    | none => low
  else low
termination_by high - low
decreasing_by all_goals omega

/-- The elements from the first one that fails `test` on, for elements of which those that satisfy
`test` come first. -/
def rest {α : Type} (items : Array α) (test : α → Bool) : List α :=
  items.toList.drop (splitPoint items test 0 items.size)

end Palimpsest.Bisect
