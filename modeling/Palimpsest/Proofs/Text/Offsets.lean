import Palimpsest.Proofs.Text.Positions

/-!
# Where a place is in a text

The offset of a place is found in three steps: the line is taken from the index, the column is
turned into a byte column by a walk over the wide characters of the line, and the sum of the line's
start and the byte column is cut down to the end of the line. The walk adds in 32 bits and gives up
where a sum does not fit; the last sum does not give up, it overflows. Both come before the cut. The
cut asks for the number of the next line, which overflows for the last number there is.

1. `content`: a line without its line break, and `stop_indexedLine`: where the index ends a line.
2. `byteOfColumn`: the walk without a bound; `byteOfColumn_mono`, and how far it goes from a column
   in the line (`byteOfColumn_head`) and from one behind it (`byteOfColumn_behind`).
3. `LineAt.unique`: a number has one line, so that the index has that line and no other.
4. `AtLastNumber`: the one place whose line exists and has no number behind its own, in a text of
   nothing but line feeds; `atLastNumber_of_line`.
5. `offset_of_line`: the offset of a place, by the walk without a bound.
6. `offset_clamps_unless_far`: what an offset is for every place, and when there is none.
-/

namespace Palimpsest.Text

open String (utf8Len)

/-! ## Lines without their breaks -/

/-- A line without its line break, for what stands behind it: a carriage return before the line feed
is part of the break. -/
def content (line after : List Char) : List Char :=
  if after ≠ [] ∧ line.getLast? = some '\r' then line.dropLast else line

theorem content_isPrefix (line after : List Char) : content line after <+: line := by
  unfold content
  split
  · exact line.dropLast_prefix
  · exact List.prefix_refl line

theorem stop_indexedLine (before line after : List Char) :
    (indexedLine before line after).stop = utf8Len before + utf8Len (content line after) := by
  unfold content
  simp only [indexedLine]
  split
  · next hbreak =>
    have hline : line.dropLast ++ ['\r'] = line := List.dropLast_append_getLast? '\r' hbreak.2
    have hbytes : utf8Len line = utf8Len line.dropLast + 1 := by
      conv => lhs; rw [← hline]
      rw [String.utf8Len_append]
      rfl
    omega
  · rfl

def lineExcess (line : List Char) : Nat := utf8Len line - units line

/-! ## The walk over the wide characters -/

/-- The byte column of a column, of any size. -/
def byteOfColumn (column : Nat) : List WideChar → Nat
  | [] => column
  | c :: rest => if c.start < column then byteOfColumn (column + c.excess) rest else column

theorem le_byteOfColumn (column : Nat) (wides : List WideChar) :
    column ≤ byteOfColumn column wides := by
  induction wides generalizing column with
  | nil => exact Nat.le_refl column
  | cons c rest ih =>
    rw [byteOfColumn]
    split
    · exact Nat.le_trans (Nat.le_add_right column c.excess) (ih (column + c.excess))
    · exact Nat.le_refl column

/-- The walk in 32 bits gives up just where the walk without a bound ends too far. -/
theorem byteOfColumn?_eq {column : Nat} (h : column < 0x100000000) (wides : List WideChar) :
    byteOfColumn? column wides =
      if byteOfColumn column wides < 0x100000000 then some (byteOfColumn column wides)
      else none := by
  induction wides generalizing column with
  | nil => rw [byteOfColumn?, byteOfColumn, if_pos h]
  | cons c rest ih =>
    rw [byteOfColumn?, byteOfColumn]
    by_cases hc : c.start < column
    · rw [if_pos hc, if_pos hc]
      by_cases hfits : column + c.excess < 0x100000000
      · rw [if_pos hfits, ih hfits]
      · -- the column only grows from here on
        have hle := le_byteOfColumn (column + c.excess) rest
        rw [if_neg hfits, if_neg (by omega)]
    · rw [if_neg hc, if_neg hc, if_pos h]

/-- A column that starts behind another one stays behind it: where the first stops before a wide
character, the second has passed the place already. -/
theorem byteOfColumn_mono {column column' : Nat} (h : column ≤ column') (wides : List WideChar) :
    byteOfColumn column wides ≤ byteOfColumn column' wides := by
  induction wides generalizing column column' with
  | nil => exact h
  | cons c rest ih =>
    rw [byteOfColumn, byteOfColumn]
    by_cases hc : c.start < column
    · rw [if_pos hc, if_pos (Nat.lt_of_lt_of_le hc h)]
      exact ih (Nat.add_le_add_right h c.excess)
    · rw [if_neg hc]
      split
      · have hle := le_byteOfColumn (column' + c.excess) rest
        omega
      · exact h

theorem byteOfColumn_ahead {column start : Nat} (h : column ≤ start) (text : List Char) :
    byteOfColumn column (widesFrom start text) = column := by
  induction text generalizing start with
  | nil => rfl
  | cons c rest ih =>
    rw [widesFrom]
    split
    · rw [byteOfColumn, if_neg (show ¬ start < column by omega)]
    · exact ih (by omega)

/-- One character of a line: a column that has it before it goes on behind it as if its code units
were its bytes. -/
theorem byteOfColumn_cons (start : Nat) (c : Char) (rest : List Char) {ahead : Nat}
    (h : charUnits c ≤ ahead) :
    byteOfColumn (start + ahead) (widesFrom start (c :: rest)) =
      byteOfColumn (start + c.utf8Size + (ahead - charUnits c))
        (widesFrom (start + c.utf8Size) rest) := by
  have hle := charUnits_le c
  rw [widesFrom]
  split
  · have hpos : 1 ≤ charUnits c := by unfold charUnits; split <;> decide
    have hsum : start + ahead + (c.utf8Size - charUnits c) =
        start + c.utf8Size + (ahead - charUnits c) := by omega
    rw [byteOfColumn, if_pos (show start < start + ahead by omega), excess_wideChar, hsum]
  · next hnarrow =>
    obtain ⟨hone, hsize⟩ := charUnits_of_narrow hnarrow
    have hsum : start + ahead = start + c.utf8Size + (ahead - charUnits c) := by omega
    rw [← hsum]

theorem byteOfColumn_head (start : Nat) (head tail : List Char) :
    byteOfColumn (start + units head) (widesFrom start (head ++ tail)) = start + utf8Len head := by
  induction head generalizing start with
  | nil => simpa [units] using byteOfColumn_ahead (Nat.le_refl start) tail
  | cons c rest ih =>
    have hrest : charUnits c + units rest - charUnits c = units rest := by omega
    rw [List.cons_append, units, byteOfColumn_cons start c (rest ++ tail) (by omega), hrest, ih,
      String.utf8Len_cons]
    omega

theorem byteOfColumn_behind (start : Nat) (line : List Char) {ahead : Nat}
    (h : units line ≤ ahead) :
    byteOfColumn (start + ahead) (widesFrom start line) = start + (ahead + lineExcess line) := by
  induction line generalizing start ahead with
  | nil => simp [widesFrom, byteOfColumn, lineExcess]
  | cons c rest ih =>
    rw [units] at h
    have hc := charUnits_le c
    have hrest := units_le rest
    rw [byteOfColumn_cons start c rest (by omega), ih (start + c.utf8Size) (by omega)]
    simp only [lineExcess, units, String.utf8Len_cons]
    omega

/-- The walk ends too far just where all that the line has in excess takes the column too far. -/
theorem far_iff {start : Nat} {line : List Char} (h : start + utf8Len line < 0x100000000)
    (column : Nat) :
    0x100000000 ≤ start + byteOfColumn column (widesFrom 0 line) ↔
      0x100000000 ≤ start + (column + lineExcess line) := by
  have hunits := units_le line
  have hend := byteOfColumn_behind 0 line (Nat.le_refl (units line))
  by_cases hcolumn : units line ≤ column
  · have hbehind := byteOfColumn_behind 0 line hcolumn
    simp only [Nat.zero_add] at hbehind
    rw [hbehind]
  · -- a column in the line goes no further than the line's end
    have hle := byteOfColumn_mono (Nat.le_of_not_le hcolumn) (widesFrom 0 line)
    simp only [Nat.zero_add] at hend
    unfold lineExcess at hend ⊢
    omega

theorem content_le_byteOfColumn {line after : List Char} {column : Nat}
    (h : units (content line after) ≤ column) :
    utf8Len (content line after) ≤ byteOfColumn column (widesFrom 0 line) := by
  obtain ⟨tail, hline⟩ := content_isPrefix line after
  have hend := byteOfColumn_head 0 (content line after) tail
  simp only [Nat.zero_add, hline] at hend
  calc utf8Len (content line after)
      = byteOfColumn (units (content line after)) (widesFrom 0 line) := hend.symm
    _ ≤ byteOfColumn column (widesFrom 0 line) := byteOfColumn_mono h _

/-! ## The line of a number -/

namespace LineAt

variable {text before line after before' line' after' : List Char} {number number' : Nat}

theorem count_le (h : LineAt text number before line after) : number ≤ text.count '\n' := by
  rw [← h.number_eq]
  exact h.isPrefix.count_le '\n'

theorem utf8Len_text (h : LineAt text number before line after) :
    utf8Len text = utf8Len before + utf8Len line + utf8Len after := by
  rw [h.text_eq, String.utf8Len_append, String.utf8Len_append]

theorem stop_eq_iff (h : LineAt text number before line after) :
    utf8Len before + utf8Len (content line after) = utf8Len text ↔ after = [] := by
  constructor
  · intro hstop
    have hcontent := String.utf8Len_le_of_prefix (content_isPrefix line after)
    have htext := h.utf8Len_text
    exact String.utf8Len_eq_zero.mp (by omega)
  · rintro rfl
    simp [h.utf8Len_text, content]

/-- The end of a line is a boundary with no more line feeds before it than the line's start. -/
theorem through (h : LineAt text number before line after) :
    before ++ line <+: text ∧ (before ++ line).count '\n' = number := by
  refine ⟨⟨after, h.text_eq.symm⟩, ?_⟩
  rw [List.count_append, List.count_eq_zero.mpr h.single, h.number_eq, Nat.add_zero]

theorem stop_lt_start (h : LineAt text number before line after)
    (h' : LineAt text number' before' line' after') (hlt : number < number') :
    utf8Len before + utf8Len line < utf8Len before' := by
  obtain ⟨hleads, hcount⟩ := h.through
  have hstart := h'.start_le_iff hleads
  rw [hcount, String.utf8Len_append] at hstart
  omega

theorem unique (h : LineAt text number before line after)
    (h' : LineAt text number before' line' after') :
    before = before' ∧ line = line' ∧ after = after' := by
  have hbefore : before = before' := by
    have hle := (h.start_le_iff h'.isPrefix).mpr (Nat.le_of_eq h'.number_eq.symm)
    have hge := (h'.start_le_iff h.isPrefix).mpr (Nat.le_of_eq h.number_eq.symm)
    have hleads := prefix_of_utf8Len_le h.isPrefix h'.isPrefix hle
    exact hleads.eq_of_length_le (prefix_of_utf8Len_le h'.isPrefix h.isPrefix hge).length_le
  subst hbefore
  have hline : line = line' := by
    -- each of the two is the beginning of the other
    obtain ⟨head, tail, hhead, rfl⟩ := h.splits h'.through.1 h'.through.2
    obtain ⟨head', tail', hhead', hsame⟩ := h'.splits h.through.1 h.through.2
    rw [List.append_cancel_left hhead] at hsame ⊢
    rw [← List.append_cancel_left hhead', List.append_assoc, List.self_eq_append_right] at hsame
    rw [(List.append_eq_nil_iff.mp hsame).1, List.append_nil]
  subst hline
  have htext := h.text_eq.symm.trans h'.text_eq
  exact ⟨rfl, rfl, List.append_cancel_left htext⟩

end LineAt

namespace LineMap

variable {text : String} {p : Position} {before line after : List Char} {number : Nat}

theorem getElem?_of_lineAt (h : LineAt text.toList number before line after) :
    (ofText text).lines[number]? = some (indexedLine before line after) := by
  obtain ⟨l, hl⟩ := exists_line h.count_le
  obtain ⟨before', line', after', h', rfl⟩ := lineAt_of_getElem? hl
  obtain ⟨rfl, rfl, rfl⟩ := h.unique h'
  exact hl

theorem exists_lineAt (h : number ≤ text.toList.count '\n') :
    ∃ before line after, LineAt text.toList number before line after := by
  obtain ⟨l, hl⟩ := exists_line h
  obtain ⟨before, line, after, hat, -⟩ := lineAt_of_getElem? hl
  exact ⟨before, line, after, hat⟩

end LineMap

/-! ## The last number -/

/-- As many line feeds as there are numbers of lines behind the first. -/
def fullOfLines : List Char := List.replicate 0xFFFFFFFF '\n'

/-- The place is in the last line of that text, which has the last number there is. -/
def AtLastNumber (text : List Char) (p : Position) : Prop :=
  text = fullOfLines ∧ p = ⟨0xFFFFFFFF, 0⟩

theorem length_fullOfLines : fullOfLines.length = 0xFFFFFFFF := List.length_replicate

theorem lineAt_replicate (n : Nat) :
    LineAt (List.replicate n '\n') n (List.replicate n '\n') [] [] where
  text_eq := by rw [List.append_nil, List.append_nil]
  number_eq := List.count_replicate_self
  opens := by
    cases n with
    | zero => exact Or.inl rfl
    | succ n => exact Or.inr ⟨List.replicate n '\n', List.replicate_succ'⟩
  single := List.not_mem_nil
  closes := Or.inl rfl

theorem lineAt_fullOfLines : LineAt fullOfLines 0xFFFFFFFF fullOfLines [] [] :=
  lineAt_replicate 0xFFFFFFFF

/-- A line with the last number has no byte to itself: the text before it has one for each line
feed, and there are no more. -/
theorem LineAt.eq_fullOfLines {text before line after : List Char}
    (h : LineAt text 0xFFFFFFFF before line after) (hsize : utf8Len text < 0x100000000) :
    text = fullOfLines ∧ before = fullOfLines ∧ line = [] ∧ after = [] := by
  have hbytes := h.utf8Len_text
  have hcount : before.count '\n' ≤ before.length := List.count_le_length
  have hlength := length_le_utf8Len before
  have hnumber := h.number_eq
  have hline : line = [] := String.utf8Len_eq_zero.mp (by omega)
  have hafter : after = [] := String.utf8Len_eq_zero.mp (by omega)
  have hbefore : before = fullOfLines := by
    apply List.eq_replicate_iff.mpr
    refine ⟨by omega, fun c hc => ?_⟩
    exact (List.count_eq_length.mp (by omega : before.count '\n' = before.length) c hc).symm
  refine ⟨?_, hbefore, hline, hafter⟩
  rw [h.text_eq, hbefore, hline, hafter, List.append_nil, List.append_nil]

/-- Where a column fits behind the start of its line, the line has a number behind its own, but for
that one place. -/
theorem atLastNumber_of_line {text before line after : List Char} {p : Position}
    (hsize : utf8Len text < 0x100000000) (hat : LineAt text p.line.val before line after)
    (hnear : utf8Len before + p.character.val < 0x100000000) :
    AtLastNumber text p ∨ p.line.val + 1 < 0x100000000 := by
  apply Decidable.or_iff_not_imp_right.mpr
  intro hlast
  have hnumber : p.line.val = 0xFFFFFFFF := by omega
  rw [hnumber] at hat
  obtain ⟨htext, hbefore, -, -⟩ := hat.eq_fullOfLines hsize
  have hlength := length_le_utf8Len before
  rw [hbefore, length_fullOfLines] at hlength
  rw [hbefore] at hnear
  exact ⟨htext, congrArg₂ Position.mk (Fin.ext hnumber) (Fin.ext (show p.character.val = 0 by omega))⟩

namespace LineMap

variable {text : String} {p : Position} {before line after : List Char}

/-! ## The offset of a place -/

theorem val_size (hsize : text.utf8ByteSize < 0x100000000) :
    (ofText text).size.val = utf8Len text.toList := by
  have htext : (ofText text).text = text := rfl
  rw [size, htext, Offset.val_clamp, String.utf8Len_toList]
  omega

theorem offset_of_missing (h : text.toList.count '\n' < p.line.val) :
    (ofText text).offset p = .ok (ofText text).size := by
  have hnone : (ofText text).lines[p.line.val]? = none := by
    apply Array.getElem?_eq_none
    rw [size_lines]
    omega
  rw [offset, hnone]

theorem cut_eq (l : Line) (number : Count32) (column : Nat) :
    (do let found ← sum32 l.start column
        let stop ← l.lookUpStop number
        return Offset.clamp (min found stop)) =
      if l.start + column < 0x100000000 ∧ number.val + 1 < 0x100000000 then
        .ok (Offset.clamp (min (l.start + column) l.stop))
      else .error .sum := by
  unfold Line.lookUpStop sum32
  by_cases hfound : l.start + column < 0x100000000
  · by_cases hnext : number.val + 1 < 0x100000000
    · rw [if_pos hfound, if_pos hnext, if_pos ⟨hfound, hnext⟩]
      rfl
    · have hnot : ¬ (l.start + column < 0x100000000 ∧ number.val + 1 < 0x100000000) :=
        fun h => hnext h.2
      rw [if_pos hfound, if_neg hnext, if_neg hnot]
      rfl
  · have hnot : ¬ (l.start + column < 0x100000000 ∧ number.val + 1 < 0x100000000) :=
      fun h => hfound h.1
    rw [if_neg hfound, if_neg hnot]
    rfl

theorem offset_of_line (h : LineAt text.toList p.line.val before line after) :
    (ofText text).offset p =
      if byteOfColumn p.character.val (widesFrom 0 line) < 0x100000000 then
        if utf8Len before + byteOfColumn p.character.val (widesFrom 0 line) < 0x100000000 ∧
            p.line.val + 1 < 0x100000000 then
          .ok (Offset.clamp (utf8Len before +
            min (byteOfColumn p.character.val (widesFrom 0 line)) (utf8Len (content line after))))
        else .error .sum
      else .ok (ofText text).size := by
  rw [offset, getElem?_of_lineAt h]
  simp only [cut_eq]
  simp only [wides_indexedLine, start_indexedLine, stop_indexedLine]
  rw [byteOfColumn?_eq p.character.isLt, ← Nat.add_min_add_left]
  by_cases hfits : byteOfColumn p.character.val (widesFrom 0 line) < 0x100000000
  · simp only [if_pos hfits]
  · simp only [if_neg hfits]

section

variable (hsize : text.utf8ByteSize < 0x100000000)
  (hat : LineAt text.toList p.line.val before line after)
include hsize hat

theorem line_bytes : utf8Len before + utf8Len line < 0x100000000 := by
  have htext := hat.utf8Len_text
  rw [String.utf8Len_toList] at htext
  omega

/-- A column that fits behind the start of its line, with all that the line has in excess, is cut
down to the line. -/
theorem offset_of_near (hnumber : ¬ AtLastNumber text.toList p)
    (h : utf8Len before + (p.character.val + lineExcess line) < 0x100000000) :
    (ofText text).offset p = .ok (Offset.clamp (utf8Len before +
      min (byteOfColumn p.character.val (widesFrom 0 line)) (utf8Len (content line after)))) := by
  have hfar := far_iff (line_bytes hsize hat) p.character.val
  have hnext := (atLastNumber_of_line (by rwa [String.utf8Len_toList]) hat (by omega)).resolve_left
    hnumber
  rw [offset_of_line hat, if_pos (by omega), if_pos ⟨by omega, hnext⟩]

theorem offset_of_overflow (hcolumn : p.character.val + lineExcess line < 0x100000000)
    (h : 0x100000000 ≤ utf8Len before + (p.character.val + lineExcess line)) :
    (ofText text).offset p = .error .sum := by
  have hbytes := line_bytes hsize hat
  have hfar := far_iff hbytes p.character.val
  have halone := far_iff (show 0 + utf8Len line < 0x100000000 by omega) p.character.val
  rw [offset_of_line hat, if_pos (by omega), if_neg (fun h => by omega)]

theorem offset_of_far (h : 0x100000000 ≤ p.character.val + lineExcess line) :
    (ofText text).offset p = .ok (ofText text).size := by
  have hbytes := line_bytes hsize hat
  have halone := far_iff (show 0 + utf8Len line < 0x100000000 by omega) p.character.val
  rw [offset_of_line hat, if_neg (by omega)]

end

theorem offset_of_atLastNumber (h : AtLastNumber text.toList p) :
    (ofText text).offset p = .error .sum := by
  obtain ⟨htext, rfl⟩ := h
  have hat : LineAt text.toList 0xFFFFFFFF fullOfLines [] [] := by
    rw [htext]
    exact lineAt_fullOfLines
  rw [offset_of_line hat, if_pos (by decide), if_neg (fun hfits => absurd hfits.2 (by decide))]

end LineMap

/-- **An offset is on its line unless the column is far out.** For every text of less than 2^32
bytes and every place:

1. a line that does not exist means the end of the text;
2. in a line that exists, let the column be counted with all bytes that the line has beyond its code
   units. Where the start of the line and this column together fit 32 bits, the offset is between
   the start and the end of the line, and it is the end for every column at or behind it, unless
   the text is one of 2^32-1 line feeds and the place is its end, where there is no offset but an
   overflow;
3. where the column fits and the two together do not, there is an overflow too;
4. where the column itself does not fit, the offset is the end of the text, which is the end of the
   line only if the line is the last one. -/
theorem offset_clamps_unless_far {text : String} (hsize : text.utf8ByteSize < 0x100000000)
    (p : Position) :
    (text.toList.count '\n' < p.line.val →
      ∃ o, (LineMap.ofText text).offset p = .ok o ∧ o.val = text.utf8ByteSize) ∧
    (p.line.val ≤ text.toList.count '\n' →
      ∃ before line after, LineAt text.toList p.line.val before line after ∧
        let start := utf8Len before
        let stop := start + utf8Len (content line after)
        let column := p.character.val + lineExcess line
        (start + column < 0x100000000 → ¬ AtLastNumber text.toList p →
          ∃ o, (LineMap.ofText text).offset p = .ok o ∧ start ≤ o.val ∧ o.val ≤ stop ∧
            (units (content line after) ≤ p.character.val → o.val = stop)) ∧
        (AtLastNumber text.toList p → (LineMap.ofText text).offset p = .error .sum) ∧
        (column < 0x100000000 → 0x100000000 ≤ start + column →
          (LineMap.ofText text).offset p = .error .sum) ∧
        (0x100000000 ≤ column →
          ∃ o, (LineMap.ofText text).offset p = .ok o ∧ o.val = text.utf8ByteSize ∧
            (o.val = stop ↔ after = []))) := by
  have hend := LineMap.val_size hsize
  have hbytes := String.utf8Len_toList text
  constructor
  · intro hmissing
    exact ⟨_, LineMap.offset_of_missing hmissing, hend.trans hbytes⟩
  · intro hline
    obtain ⟨before, line, after, hat⟩ := LineMap.exists_lineAt hline
    refine ⟨before, line, after, hat, ?_, LineMap.offset_of_atLastNumber,
      LineMap.offset_of_overflow hsize hat, ?_⟩
    · intro hnear hnumber
      have hinside := LineMap.line_bytes hsize hat
      have hcontent := String.utf8Len_le_of_prefix (content_isPrefix line after)
      refine ⟨_, LineMap.offset_of_near hsize hat hnumber hnear, ?_, ?_, ?_⟩
      · rw [Offset.val_clamp]
        omega
      · rw [Offset.val_clamp]
        omega
      · intro hbehind
        have hreach := content_le_byteOfColumn hbehind
        rw [Offset.val_clamp]
        omega
    · intro hfar
      refine ⟨_, LineMap.offset_of_far hsize hat hfar, hend.trans hbytes, ?_⟩
      rw [hend, eq_comm]
      exact hat.stop_eq_iff

theorem crlfText_lineAt :
    LineAt "x\na😀\r\nb".toList 1 ['x', '\n'] ['a', '😀', '\r'] ['\n', 'b'] where
  text_eq := by decide +kernel
  number_eq := rfl
  opens := Or.inr ⟨['x'], rfl⟩
  single := by decide
  closes := Or.inr ⟨['b'], rfl⟩

/-- A column far behind that line means the end of the line before its break, one between the two
halves of its last character an offset on the line, and a missing line the end of the text. -/
theorem crlfText_clamps :
    "x\na😀\r\nb".utf8ByteSize < 0x100000000 ∧
      (∃ o, (LineMap.ofText "x\na😀\r\nb").offset ⟨1, 4000000000⟩ = .ok o ∧ o.val = 7) ∧
      (∃ o, (LineMap.ofText "x\na😀\r\nb").offset ⟨1, 2⟩ = .ok o ∧ 2 ≤ o.val ∧ o.val ≤ 7) ∧
      ∃ o, (LineMap.ofText "x\na😀\r\nb").offset ⟨4294967295, 0⟩ = .ok o ∧ o.val = 10 := by
  have hsize : "x\na😀\r\nb".utf8ByteSize < 0x100000000 := by decide +kernel
  have hline : 1 ≤ "x\na😀\r\nb".toList.count '\n' := by decide +kernel
  refine ⟨hsize, ?_, ?_, ?_⟩
  · obtain ⟨before, line, after, hat, hnear, -⟩ :=
      (offset_clamps_unless_far hsize ⟨1, 4000000000⟩).2 hline
    obtain ⟨rfl, rfl, rfl⟩ := hat.unique crlfText_lineAt
    obtain ⟨o, hoffset, -, -, hstop⟩ := hnear (by decide +kernel)
      (fun hlast => absurd hlast.2 (by decide))
    exact ⟨o, hoffset, hstop (by decide +kernel)⟩
  · obtain ⟨before, line, after, hat, hnear, -⟩ :=
      (offset_clamps_unless_far hsize ⟨1, 2⟩).2 hline
    obtain ⟨rfl, rfl, rfl⟩ := hat.unique crlfText_lineAt
    obtain ⟨o, hoffset, hstart, hstop, -⟩ := hnear (by decide +kernel)
      (fun hlast => absurd hlast.2 (by decide))
    exact ⟨o, hoffset, hstart, hstop⟩
  · obtain ⟨o, hoffset, hend⟩ :=
      (offset_clamps_unless_far hsize ⟨4294967295, 0⟩).1 (by decide +kernel)
    exact ⟨o, hoffset, hend.trans (by decide +kernel)⟩

/-- Two lines, and the largest column in each. The second line ends at 4, but the column is an
overflow there. The first line ends at 2, but the column leads to the end of the text, because the
first line has a wide character. -/
theorem far_columns_miss :
    LineAt "é\nb".toList 1 ['é', '\n'] ['b'] [] ∧
      units (content ['b'] []) ≤ 4294967295 ∧
      (LineMap.ofText "é\nb").offset ⟨1, 4294967295⟩ = .error .sum ∧
      LineAt "é\nb".toList 0 [] ['é'] ['\n', 'b'] ∧
      units (content ['é'] ['\n', 'b']) ≤ 4294967295 ∧
      utf8Len [] + utf8Len (content ['é'] ['\n', 'b']) = 2 ∧
      (LineMap.ofText "é\nb").offset ⟨0, 4294967295⟩ = .ok 4 := by
  refine ⟨⟨?_, rfl, Or.inr ⟨['é'], rfl⟩, ?_, Or.inl rfl⟩, ?_, ?_,
    ⟨?_, rfl, Or.inl rfl, ?_, Or.inr ⟨['b'], rfl⟩⟩, ?_, ?_, ?_⟩ <;> decide +kernel

end Palimpsest.Text
