/-!
# Offsets

Byte offsets and byte counts of 64 bits, and the three ways in which they are added and
subtracted:

* `Offset.plus` stops at the largest offset;
* `Offset.minus` stops at zero;
* `Offset.add` refuses a sum that does not fit, with the cause `Overflow`.
-/

namespace Palimpsest

/-- A byte position in a text, or a number of bytes, of 64 bits. -/
abbrev Offset := Fin 0x10000000000000000

/-- A line number, or a column counted in UTF-16 code units, of 32 bits. -/
abbrev Count32 := Fin 0x100000000

-- the instances that numerals of these widths need, with names of their own
instance Offset.neZero : @NeZero Nat Zero.ofOfNat0 0x10000000000000000 := ⟨by decide⟩

instance Count32.neZero : @NeZero Nat Zero.ofOfNat0 0x100000000 := ⟨by decide⟩

/-- The one arithmetic fault: a sum is too large for its width. -/
inductive Overflow where
  | sum
deriving DecidableEq

def Overflow.message : Overflow → String
  | .sum => "attempt to add with overflow"

namespace Offset

def last : Offset := ⟨0xFFFFFFFFFFFFFFFF, by decide⟩

/-- The offset of a number, the largest one where the number is too large. -/
def clamp (n : Nat) : Offset := ⟨min n 0xFFFFFFFFFFFFFFFF, by omega⟩

def ofNat? (n : Nat) : Option Offset :=
  if h : n < 0x10000000000000000 then some ⟨n, h⟩ else none

/-- The sum, or the largest offset where the sum is larger. -/
def plus (a b : Offset) : Offset := clamp (a.val + b.val)

/-- The difference, or zero where it would be negative. -/
def minus (a b : Offset) : Offset := ⟨a.val - b.val, by omega⟩

/-- The sum, refused where it does not fit. -/
def add (a b : Offset) : Except Overflow Offset :=
  if h : a.val + b.val < 0x10000000000000000 then .ok ⟨a.val + b.val, h⟩ else .error .sum

def least (a b : Offset) : Offset := if a ≤ b then a else b

@[simp] theorem val_last : last.val = 0xFFFFFFFFFFFFFFFF := rfl

theorem val_le_last (a : Offset) : a.val ≤ last.val := by
  rw [val_last]
  omega

@[simp] theorem val_clamp (n : Nat) : (clamp n).val = min n 0xFFFFFFFFFFFFFFFF := rfl

@[simp] theorem val_plus (a b : Offset) : (plus a b).val = min (a.val + b.val) 0xFFFFFFFFFFFFFFFF := rfl

@[simp] theorem val_minus (a b : Offset) : (minus a b).val = a.val - b.val := rfl

@[simp] theorem val_least (a b : Offset) : (least a b).val = min a.val b.val := by
  unfold least; split <;> simp_all only [Fin.le_def] <;> omega

end Offset

end Palimpsest
