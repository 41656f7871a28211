import Palimpsest.Pattern.CharSet

/-!
# Patterns and what they match

An `Expr` is a pattern with its flags worked into it. `Expr.isMatch` tells whether some part of a
text matches.

The text is read once, from left to right. What is left to match after a character is a list of
patterns (`Expr.steps`), all of which are tried together, so the time is bounded by the length of
the text times the number of different rests. A place between two characters is given by the
characters on its sides, `none` beyond the text: `Look.holds` and `Expr.acceptsEmpty` depend on it.
-/

namespace Palimpsest.Pattern

open Text

/-- Conditions on a place between two characters. -/
inductive Look where
  | textStart
  | textStop
  | lineStart
  | lineStop
  | lineStartCrLf
  | lineStopCrLf
  | wordEdge (ascii : Bool)
  | noWordEdge (ascii : Bool)
  | wordStart (ascii : Bool)
  | wordStop (ascii : Bool)
  | noWordBefore (ascii : Bool)
  | noWordAfter (ascii : Bool)
deriving DecidableEq

def hasWord (ascii : Bool) : Option Char → Bool
  | none => false
  | some c => if ascii then c.isAlphanum || c == '_' else isWord c

def Look.holds (before after : Option Char) : Look → Bool
  | textStart => before.isNone
  | textStop => after.isNone
  | lineStart => before.isNone || before == some '\n'
  | lineStop => after.isNone || after == some '\n'
  | lineStartCrLf =>
    before.isNone || before == some '\n' || (before == some '\r' && after != some '\n')
  | lineStopCrLf =>
    after.isNone || after == some '\r' || (after == some '\n' && before != some '\r')
  | wordEdge ascii => hasWord ascii before != hasWord ascii after
  | noWordEdge ascii => hasWord ascii before == hasWord ascii after
  | wordStart ascii => !hasWord ascii before && hasWord ascii after
  | wordStop ascii => hasWord ascii before && !hasWord ascii after
  | noWordBefore ascii => !hasWord ascii before
  | noWordAfter ascii => !hasWord ascii after

/-- A pattern. -/
inductive Expr where
  | empty
  | chars (set : CharSet)
  | look (condition : Look)
  | concat (first second : Expr)
  | alt (first second : Expr)
  /-- At least `low` and at most `high` matches of a pattern in a row. -/
  | repeat (body : Expr) (low : Nat) (high : Option Nat)
deriving DecidableEq

namespace Expr

def append : Expr → Expr → Expr
  | empty, second => second
  | first, second => concat first second

/-- Whether the pattern matches the empty text at a place. -/
def acceptsEmpty (before after : Option Char) : Expr → Bool
  | empty => true
  | chars _ => false
  | look condition => condition.holds before after
  | concat first second => first.acceptsEmpty before after && second.acceptsEmpty before after
  | alt first second => first.acceptsEmpty before after || second.acceptsEmpty before after
  | .repeat body low _ => low == 0 || body.acceptsEmpty before after

/-- What may be left to match behind the character `c`, when `before` stands in front of it. -/
def steps (before : Option Char) (c : Char) : Expr → List Expr
  | empty => []
  | chars set => if set.contains c then [empty] else []
  | look _ => []
  | concat first second =>
    (steps before c first).map (·.append second) ++
      if first.acceptsEmpty before (some c) then steps before c second else []
  | alt first second => steps before c first ++ steps before c second
  | .repeat body low high =>
    if high == some 0 then []
    else
      let left := if body.acceptsEmpty before (some c) then 0 else low - 1
      (steps before c body).map (·.append (.repeat body left (high.map (· - 1))))

/-- A list without repetitions, in the order of first occurrence reversed. -/
def distinct (found : List Expr) : List Expr → List Expr
  | [] => found
  | e :: rest => if found.contains e then distinct found rest else distinct (e :: found) rest

/-- Whether the pattern matches somewhere from this place on, or one of the rests does from here. -/
def matchesFrom (pattern : Expr) (before : Option Char) (rests : List Expr) : List Char → Bool
  | [] => (pattern :: rests).any fun e => e.acceptsEmpty before none
  | c :: text =>
    (pattern :: rests).any (fun e => e.acceptsEmpty before (some c)) ||
      matchesFrom pattern (some c) (distinct [] ((pattern :: rests).flatMap (steps before c))) text

/-- Whether some part of the text matches the pattern. -/
def isMatch (pattern : Expr) (text : String) : Bool := matchesFrom pattern none [] text.toList

end Expr

end Palimpsest.Pattern
