/-!
# Labels in ASCII

A label of a domain with characters beyond ASCII is written by its ASCII characters, followed by
the places of the others: for each code in rising order, the number of steps that a reader has to
count until it comes to the code and the place. Numbers have digits of base 36 with a threshold
that adapts to the numbers so far.
-/

namespace Palimpsest.Url.Punycode

def digit (n : Nat) : Char := if n < 26 then Char.ofNat (0x61 + n) else Char.ofNat (0x30 + n - 26)

/-- The threshold of the digit at `k`. -/
def threshold (k bias : Nat) : Nat :=
  if k ≤ bias then 1 else if bias + 26 ≤ k then 26 else k - bias

theorem threshold_bounds (k bias : Nat) : 1 ≤ threshold k bias ∧ threshold k bias ≤ 26 := by
  unfold threshold
  split
  · omega
  · split <;> omega

/-- The digits of a number, lowest first. -/
def digits (bias k n : Nat) : List Char :=
  let t := threshold k bias
  if n < t then [digit n]
  else digit (t + (n - t) % (36 - t)) :: digits bias (k + 36) ((n - t) / (36 - t))
termination_by n
decreasing_by
  have h := threshold_bounds k bias
  calc (n - threshold k bias) / (36 - threshold k bias)
      ≤ n - threshold k bias := Nat.div_le_self _ _
    _ < n := by omega

def spread (delta k : Nat) : Nat :=
  if 455 < delta then spread (delta / 35) (k + 36) else k + 36 * delta / (delta + 38)
termination_by delta
decreasing_by exact Nat.div_lt_self (by omega) (by omega)

def adapt (delta count : Nat) (first : Bool) : Nat :=
  let halved := if first then delta / 700 else delta / 2
  spread (halved + halved / count) 0

/-- What the writer knows between two numbers. -/
structure State where
  written : List Char
  delta : Nat
  bias : Nat
  handled : Nat

/-- The step for one character of the label while the code `code` is at hand. -/
def visit (basic code : Nat) (s : State) (c : Char) : State :=
  if c.toNat < code then { s with delta := s.delta + 1 }
  else if c.toNat = code then
    { written := s.written ++ digits s.bias 36 s.delta
      delta := 0
      bias := adapt s.delta (s.handled + 1) (s.handled == basic)
      handled := s.handled + 1 }
  else s

def visitAll (label : List Char) (basic : Nat) : List Nat → Nat → State → State
  | [], _, s => s
  | code :: rest, next, s =>
    let s := { s with delta := s.delta + (code - next) * (s.handled + 1) }
    let s := label.foldl (visit basic code) s
    visitAll label basic rest (code + 1) { s with delta := s.delta + 1 }

/-- A number put into its place in a rising list, once. -/
def insertCode (n : Nat) : List Nat → List Nat
  | [] => [n]
  | m :: rest => if n < m then n :: m :: rest else if n = m then m :: rest else m :: insertCode n rest

/-- A label in ASCII, without its mark. -/
def encode (label : List Char) : List Char :=
  let basic := label.filter fun c => decide (c.toNat < 0x80)
  let codes :=
    ((label.filter fun c => decide (0x80 ≤ c.toNat)).map Char.toNat).foldr insertCode []
  let start : State := ⟨[], 0, 72, basic.length⟩
  basic ++ (if basic.isEmpty then [] else ['-']) ++
    (visitAll label basic.length codes 128 start).written

end Palimpsest.Url.Punycode
