import Mathlib.Data.String.Basic
import Palimpsest.Proofs.Bisect
import Palimpsest.Text.Lines

/-!
# The index of a text is right

The index of a text is built in one pass that keeps the start of the line at hand, the bytes of the
line so far and its wide characters. What it holds is said here by the text alone.

1. `units`: the UTF-16 code units of a text; its bytes are `String.utf8Len`.
2. `LineAt`: a line of a text, with all that stands before it and behind it, and `indexedLine`: what
   the index should say of it.
3. `linesFrom_indexed`: every line of the index is indexed so, and `length_linesFrom`: there are as
   many as there are line feeds, and one more.
4. `columnOfByte_wides`: taking the excess of the wide characters from a byte column gives the code
   units before it.
-/

namespace Palimpsest.Text

open String (utf8Len)

/-! ## Code units -/

/-- The UTF-16 code units of a character: two beyond the first plane, else one. -/
def charUnits (c : Char) : Nat := if 0xFFFF < c.val then 2 else 1

def units : List Char → Nat
  | [] => 0
  | c :: rest => charUnits c + units rest

@[simp] theorem units_append (a b : List Char) : units (a ++ b) = units a + units b := by
  induction a with
  | nil => simp [units]
  | cons c rest ih => simp only [List.cons_append, units, ih]; omega

theorem charUnits_le (c : Char) : charUnits c ≤ c.utf8Size := by
  have hpos := c.utf8Size_pos
  unfold charUnits
  split
  · next hwide => rw [Char.utf8Size_eq_four_iff.mpr hwide]; decide
  · exact hpos

theorem units_le (text : List Char) : units text ≤ utf8Len text := by
  induction text with
  | nil => exact Nat.le_refl 0
  | cons c rest ih =>
    have hc := charUnits_le c
    simp only [units, String.utf8Len_cons]
    omega

theorem length_le_utf8Len (text : List Char) : text.length ≤ utf8Len text := by
  induction text with
  | nil => exact Nat.le_refl 0
  | cons c rest ih =>
    have hpos := c.utf8Size_pos
    simp only [List.length_cons, String.utf8Len_cons]
    omega

theorem units_wideChar (column : Nat) (c : Char) :
    (WideChar.mk column c.utf8Size).units = charUnits c := by
  unfold WideChar.units charUnits
  simp only [Char.utf8Size_eq_four_iff]

theorem excess_wideChar (column : Nat) (c : Char) :
    (WideChar.mk column c.utf8Size).excess = c.utf8Size - charUnits c := by
  rw [WideChar.excess, units_wideChar]

theorem charUnits_of_narrow {c : Char} (h : ¬ 1 < c.utf8Size) :
    charUnits c = 1 ∧ c.utf8Size = 1 := by
  have hpos := c.utf8Size_pos
  have hle := charUnits_le c
  have hunits : 1 ≤ charUnits c := by unfold charUnits; split <;> decide
  omega

/-! ## Wide characters -/

/-- The wide characters of a run of text that starts at a byte column. -/
def widesFrom (column : Nat) : List Char → List WideChar
  | [] => []
  | c :: rest =>
    if 1 < c.utf8Size then ⟨column, c.utf8Size⟩ :: widesFrom (column + c.utf8Size) rest
    else widesFrom (column + c.utf8Size) rest

theorem widesFrom_append (column : Nat) (a b : List Char) :
    widesFrom column (a ++ b) = widesFrom column a ++ widesFrom (column + utf8Len a) b := by
  induction a generalizing column with
  | nil => simp [widesFrom]
  | cons c rest ih =>
    have hcolumn : column + utf8Len (c :: rest) = column + c.utf8Size + utf8Len rest := by
      rw [String.utf8Len_cons]
      omega
    rw [List.cons_append, widesFrom, widesFrom, ih, hcolumn]
    split <;> rfl

theorem columnOfByte_ahead {byteColumn column : Nat} (h : byteColumn ≤ column) (text : List Char) :
    columnOfByte byteColumn (widesFrom column text) = byteColumn := by
  induction text generalizing column with
  | nil => rfl
  | cons c rest ih =>
    have hpos := c.utf8Size_pos
    rw [widesFrom]
    split
    · rw [columnOfByte, if_neg (show ¬ column + c.utf8Size ≤ byteColumn by omega)]
    · exact ih (by omega)

theorem columnOfByte_wides (column : Nat) (front back : List Char) :
    columnOfByte (column + utf8Len front) (widesFrom column (front ++ back)) =
      column + units front := by
  induction front generalizing column with
  | nil => simpa [units] using columnOfByte_ahead (Nat.le_refl column) back
  | cons c rest ih =>
    have hcolumn : column + utf8Len (c :: rest) = column + c.utf8Size + utf8Len rest := by
      rw [String.utf8Len_cons]
      omega
    have hunits := charUnits_le c
    have hrest := ih (column + c.utf8Size)
    rw [hcolumn, List.cons_append, widesFrom, units]
    split
    · rw [columnOfByte, if_pos (show column + c.utf8Size ≤ column + c.utf8Size + utf8Len rest by omega),
        hrest, excess_wideChar]
      omega
    · next hnarrow =>
      obtain ⟨hone, hsize⟩ := charUnits_of_narrow hnarrow
      rw [hrest]
      omega

/-! ## Lines -/

def OpensLine (before : List Char) : Prop := before = [] ∨ ∃ front, before = front ++ ['\n']

def ClosesLine (after : List Char) : Prop := after = [] ∨ ∃ rest, after = '\n' :: rest

/-- A line of a text by its number, with all that stands before it and behind it. -/
structure LineAt (text : List Char) (number : Nat) (before line after : List Char) : Prop where
  text_eq : text = before ++ line ++ after
  number_eq : before.count '\n' = number
  opens : OpensLine before
  single : '\n' ∉ line
  closes : ClosesLine after

/-- What the index says of a line: a carriage return before the line feed belongs to neither. -/
def indexedLine (before line after : List Char) : Line where
  start := utf8Len before
  stop := utf8Len before + utf8Len line -
    if after ≠ [] ∧ line.getLast? = some '\r' then 1 else 0
  wides := widesFrom 0 line

@[simp] theorem start_indexedLine (before line after : List Char) :
    (indexedLine before line after).start = utf8Len before := rfl

@[simp] theorem wides_indexedLine (before line after : List Char) :
    (indexedLine before line after).wides = widesFrom 0 line := rfl

/-- The index holds nothing but lines of the text. The pass has read `before`, and `front` of the
line at hand. -/
theorem linesFrom_indexed (rest before front : List Char) (hopens : OpensLine before)
    (hfront : '\n' ∉ front) (k : Nat) (l : Line)
    (hl : (linesFrom (utf8Len before) (utf8Len front) (front.getLast? == some '\r')
      (widesFrom 0 front).reverse rest)[k]? = some l) :
    ∃ b line after, LineAt (before ++ front ++ rest) (before.count '\n' + k) b line after ∧
      l = indexedLine b line after := by
  induction rest generalizing before front k with
  | nil =>
    -- the line at hand is the last one
    cases k with
    | zero =>
      simp only [linesFrom, List.reverse_reverse, List.getElem?_cons_zero, Option.some.injEq] at hl
      refine ⟨before, front, [], ⟨rfl, rfl, hopens, hfront, Or.inl rfl⟩, ?_⟩
      rw [← hl]
      simp [indexedLine]
    | succ k => simp [linesFrom] at hl
  | cons c rest ih =>
    rw [linesFrom] at hl
    by_cases hc : c = '\n'
    · rw [if_pos hc] at hl
      subst hc
      cases k with
      | zero =>
        refine ⟨before, front, '\n' :: rest,
          ⟨rfl, rfl, hopens, hfront, Or.inr ⟨rest, rfl⟩⟩, ?_⟩
        simp only [List.reverse_reverse, List.getElem?_cons_zero, Option.some.injEq] at hl
        rw [← hl]
        simp [indexedLine]
      | succ k =>
        -- the line feed ends the line at hand, and the next one has nothing read of it
        have hstart : utf8Len before + utf8Len front + 1 = utf8Len (before ++ front ++ ['\n']) := by
          simp only [String.utf8Len_append, String.utf8Len_cons, String.utf8Len_nil]
          rfl
        have hcount : (before ++ front ++ ['\n']).count '\n' = before.count '\n' + 1 := by
          simp [List.count_append, List.count_eq_zero.mpr hfront]
        rw [List.getElem?_cons_succ, hstart] at hl
        obtain ⟨b, line, after, hat, hindexed⟩ :=
          ih (before ++ front ++ ['\n']) [] (Or.inr ⟨_, rfl⟩) List.not_mem_nil k hl
        refine ⟨b, line, after, ?_, hindexed⟩
        have htext : before ++ front ++ ['\n'] ++ [] ++ rest = before ++ front ++ '\n' :: rest := by
          simp
        rw [htext, hcount] at hat
        rw [← Nat.add_assoc, Nat.add_right_comm]
        exact hat
    · rw [if_neg hc] at hl
      -- the character joins the line at hand
      have hcolumn : utf8Len front + c.utf8Size = utf8Len (front ++ [c]) := by
        simp only [String.utf8Len_append, String.utf8Len_cons, String.utf8Len_nil, Nat.zero_add]
      have hreturn : (c == '\r') = ((front ++ [c]).getLast? == some '\r') := by
        simp
      have hwides : (if 1 < c.utf8Size then ⟨utf8Len front, c.utf8Size⟩ :: (widesFrom 0 front).reverse
          else (widesFrom 0 front).reverse) = (widesFrom 0 (front ++ [c])).reverse := by
        rw [widesFrom_append, List.reverse_append, Nat.zero_add]
        by_cases hwide : 1 < c.utf8Size
        · simp [widesFrom, hwide]
        · simp [widesFrom, hwide]
      rw [hcolumn, hreturn, hwides] at hl
      have hline : '\n' ∉ front ++ [c] := by
        simp only [List.mem_append, List.mem_singleton, not_or]
        exact ⟨hfront, fun heq => hc heq.symm⟩
      obtain ⟨b, line, after, hat, hindexed⟩ := ih before (front ++ [c]) hopens hline k hl
      refine ⟨b, line, after, ?_, hindexed⟩
      have htext : before ++ (front ++ [c]) ++ rest = before ++ front ++ c :: rest := by simp
      rw [htext] at hat
      exact hat

theorem length_linesFrom (rest : List Char) (start column : Nat) (afterReturn : Bool)
    (wides : List WideChar) :
    (linesFrom start column afterReturn wides rest).length = rest.count '\n' + 1 := by
  induction rest generalizing start column afterReturn wides with
  | nil => rfl
  | cons c rest ih =>
    rw [linesFrom]
    by_cases hc : c = '\n'
    · rw [if_pos hc, List.length_cons, ih, hc, List.count_cons_self]
    · rw [if_neg hc, ih, List.count_cons_of_ne hc]

namespace LineMap

theorem size_lines (text : String) : (ofText text).lines.size = text.toList.count '\n' + 1 := by
  simp only [ofText, List.size_toArray]
  exact length_linesFrom text.toList 0 0 false []

theorem lineAt_of_getElem? {text : String} {number : Nat} {l : Line}
    (h : (ofText text).lines[number]? = some l) :
    ∃ before line after, LineAt text.toList number before line after ∧
      l = indexedLine before line after := by
  rw [ofText, List.getElem?_toArray] at h
  have hindexed := linesFrom_indexed text.toList [] [] (Or.inl rfl) List.not_mem_nil number l h
  simpa using hindexed

theorem exists_line {text : String} {number : Nat} (h : number ≤ text.toList.count '\n') :
    ∃ l, (ofText text).lines[number]? = some l := by
  have hlt : number < (ofText text).lines.size := by
    rw [size_lines]
    omega
  exact ⟨_, Array.getElem?_eq_getElem hlt⟩

end LineMap

end Palimpsest.Text
