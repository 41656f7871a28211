import Palimpsest.Proofs.Text.Lines

/-!
# Where an offset is in a text

The place of an offset is found in three steps: the offset is moved back to a boundary between
characters, the line is found by halving, and the byte column is turned into a column. Here it is
said what comes out, by what stands in the text before the offset.

1. `IsFloor`: the last boundary at or before an offset; `floorBoundary_isFloor`.
2. `LineAt.start_le_iff`: which lines start at or before a boundary, and `LineAt.splits`: the line
   that a boundary is in.
3. `position_eq`: the place of a boundary.
4. `position_exact`: the place of every offset, and that the places of a span's ends are in order.
-/

namespace Palimpsest.Text

open String (utf8Len)

/-! ## Boundaries -/

/-- The last boundary between characters at or before an offset, where the end of the text stands
for all offsets behind it. A boundary is told by the text before it. -/
structure IsFloor (text : List Char) (offset : Nat) (before : List Char) : Prop where
  isPrefix : before <+: text
  le : utf8Len before ≤ min offset (utf8Len text)
  greatest : ∀ other, other <+: text → utf8Len other ≤ min offset (utf8Len text) →
    utf8Len other ≤ utf8Len before

/-- Of two boundaries of a text, the text before the first is part of the text before the second. -/
theorem prefix_of_utf8Len_le {text a b : List Char} (ha : a <+: text) (hb : b <+: text)
    (h : utf8Len a ≤ utf8Len b) : a <+: b := by
  rcases List.prefix_or_prefix_of_prefix ha hb with hab | ⟨d, rfl⟩
  · exact hab
  · -- what the second has more takes no bytes
    have hd : d = [] := by
      rw [String.utf8Len_append] at h
      exact String.utf8Len_eq_zero.mp (by omega)
    simp [hd]

theorem floorBoundary_isFloor (text : List Char) (offset : Nat) :
    ∃ before, IsFloor text offset before ∧ floorBoundary text offset = utf8Len before := by
  induction text generalizing offset with
  | nil =>
    refine ⟨[], ⟨List.prefix_refl [], Nat.zero_le _, ?_⟩, rfl⟩
    intro other hother _
    rw [List.prefix_nil.mp hother]
  | cons c rest ih =>
    have hpos := c.utf8Size_pos
    rw [floorBoundary]
    by_cases hc : c.utf8Size ≤ offset
    · obtain ⟨before, hfloor, heq⟩ := ih (offset - c.utf8Size)
      have hle := hfloor.le
      refine ⟨c :: before, ⟨(List.prefix_cons_inj c).mpr hfloor.isPrefix, ?_, ?_⟩, ?_⟩
      · simp only [String.utf8Len_cons]
        omega
      · intro other hother hsize
        cases other with
        | nil => exact Nat.zero_le _
        | cons d other =>
          obtain ⟨rfl, hrest⟩ := List.cons_prefix_cons.mp hother
          simp only [String.utf8Len_cons] at hsize ⊢
          have := hfloor.greatest other hrest (by omega)
          omega
      · rw [if_pos hc, heq, String.utf8Len_cons]
        omega
    · -- the offset is inside the character or before it
      refine ⟨[], ⟨List.nil_prefix, Nat.zero_le _, ?_⟩, if_neg hc⟩
      intro other hother hsize
      cases other with
      | nil => exact Nat.le_refl _
      | cons d other =>
        obtain ⟨rfl, -⟩ := List.cons_prefix_cons.mp hother
        simp only [String.utf8Len_cons] at hsize
        omega

theorem IsFloor.mono {text a b : List Char} {x y : Nat} (ha : IsFloor text x a)
    (hb : IsFloor text y b) (hxy : x ≤ y) : a <+: b := by
  have hle := ha.le
  exact prefix_of_utf8Len_le ha.isPrefix hb.isPrefix (hb.greatest a ha.isPrefix (by omega))

/-! ## The line of a boundary -/

theorem count_lt_of_opens {front before : List Char} (hopens : OpensLine before)
    (h : front <+: before) (hne : front ≠ before) : front.count '\n' < before.count '\n' := by
  obtain ⟨d, rfl⟩ := h
  have hd : d ≠ [] := fun hnil => hne (by rw [hnil, List.append_nil])
  have hmem : '\n' ∈ d := by
    rcases hopens with hnil | ⟨head, heq⟩
    · exact absurd (List.append_eq_nil_iff.mp hnil).2 hd
    · have hlast : d.getLast? = some '\n' := by
        have := congrArg List.getLast? heq
        rwa [List.getLast?_append_of_ne_nil _ hd, List.getLast?_concat] at this
      exact List.mem_of_getLast? hlast
  have := List.count_pos_iff.mpr hmem
  rw [List.count_append]
  omega

namespace LineAt

variable {text before line after front : List Char} {number : Nat}

theorem isPrefix (h : LineAt text number before line after) : before <+: text :=
  ⟨line ++ after, by rw [h.text_eq, List.append_assoc]⟩

/-- A line starts at or before a boundary just if its number is at most that of the line feeds
before the boundary. -/
theorem start_le_iff (h : LineAt text number before line after) (hfront : front <+: text) :
    utf8Len before ≤ utf8Len front ↔ number ≤ front.count '\n' := by
  constructor
  · intro hle
    rw [← h.number_eq]
    exact (prefix_of_utf8Len_le h.isPrefix hfront hle).count_le '\n'
  · intro hle
    rcases List.prefix_or_prefix_of_prefix h.isPrefix hfront with hleads | hleads
    · exact String.utf8Len_le_of_prefix hleads
    · by_cases heq : front = before
      · rw [heq]
      · have hlt := count_lt_of_opens h.opens hleads heq
        rw [h.number_eq] at hlt
        omega

theorem splits (h : LineAt text number before line after) (hfront : front <+: text)
    (hcount : front.count '\n' = number) :
    ∃ head tail, front = before ++ head ∧ line = head ++ tail := by
  have hstart := (h.start_le_iff hfront).mpr (Nat.le_of_eq hcount.symm)
  obtain ⟨head, rfl⟩ := prefix_of_utf8Len_le h.isPrefix hfront hstart
  have hhead : '\n' ∉ head := by
    have hnumber := h.number_eq
    rw [List.count_append] at hcount
    exact List.count_eq_zero.mp (by omega)
  refine ⟨head, ?_⟩
  -- what stands between the line's start and the boundary, and the line, begin the same text
  have hheadPrefix : head <+: line ++ after := by
    rw [h.text_eq, List.append_assoc] at hfront
    exact (List.prefix_append_right_inj before).mp hfront
  rcases List.prefix_or_prefix_of_prefix hheadPrefix (List.prefix_append line after) with
    ⟨tail, htail⟩ | ⟨more, rfl⟩
  · exact ⟨tail, rfl, htail.symm⟩
  · -- nothing goes on behind the line without a line feed
    have hmore : more = [] := by
      have hleads := (List.prefix_append_right_inj line).mp hheadPrefix
      rcases h.closes with rfl | ⟨rest, rfl⟩
      · exact List.prefix_nil.mp hleads
      · cases more with
        | nil => rfl
        | cons c more =>
          obtain ⟨rfl, -⟩ := List.cons_prefix_cons.mp hleads
          exact absurd (by simp) hhead
    exact ⟨[], by simp [hmore], by simp [hmore]⟩

end LineAt

/-! ## Places -/

/-- What stands behind the last line feed of a text. -/
def lastLine (text : List Char) : List Char := (text.reverse.takeWhile (· != '\n')).reverse

theorem lastLine_append {back : List Char} (h : '\n' ∉ back) (front : List Char) :
    lastLine (front ++ back) = lastLine front ++ back := by
  unfold lastLine
  rw [List.reverse_append, List.takeWhile_append_of_pos, List.reverse_append, List.reverse_reverse]
  intro c hc
  have hmem : c ∈ back := List.mem_reverse.mp hc
  simp only [bne_iff_ne, ne_eq]
  rintro rfl
  exact h hmem

theorem lastLine_of_opens {before : List Char} (h : OpensLine before) : lastLine before = [] := by
  rcases h with rfl | ⟨front, rfl⟩
  · rfl
  · simp [lastLine]

theorem lastLine_suffix (text : List Char) : lastLine text <:+ text := by
  have hleads : text.reverse.takeWhile (· != '\n') <+: text.reverse := List.takeWhile_prefix _
  simpa [lastLine] using List.reverse_suffix.mpr hleads

theorem val_count32 {n : Nat} (h : n < 0x100000000) : (count32 n).val = n := by
  show min n 0xFFFFFFFF = n
  omega

/-- Places are in the order of their lines, and in a line in the order of their columns. -/
instance : LE Position where
  le p q := p.line < q.line ∨ p.line = q.line ∧ p.character ≤ q.character

theorem Position.le_def {p q : Position} :
    p ≤ q ↔ p.line.val < q.line.val ∨
      p.line.val = q.line.val ∧ p.character.val ≤ q.character.val := by
  show p.line < q.line ∨ p.line = q.line ∧ p.character ≤ q.character ↔ _
  rw [Fin.lt_def, Fin.ext_iff, Fin.le_def]

namespace LineMap

theorem position_eq {text : String} {offset : Offset} {before : List Char}
    (hleads : before <+: text.toList)
    (hfloor : floorBoundary text.toList offset.val = utf8Len before) :
    (ofText text).position offset =
      ⟨count32 (before.count '\n'), count32 (units (lastLine before))⟩ := by
  have hcount := hleads.count_le '\n'
  -- the lines that start at or before the boundary are those up to its own
  have hline : Bisect.splitPoint (ofText text).lines (fun l => decide (l.start ≤ utf8Len before)) 0
      (ofText text).lines.size = before.count '\n' + 1 := by
    apply Bisect.splitPoint_eq
    · rw [size_lines]
      omega
    · intro number l hl
      obtain ⟨b, line, after, hat, rfl⟩ := lineAt_of_getElem? hl
      rw [decide_eq_true_eq, Nat.lt_succ_iff]
      exact hat.start_le_iff hleads
  obtain ⟨l, hl⟩ := exists_line hcount
  obtain ⟨b, line, after, hat, rfl⟩ := lineAt_of_getElem? hl
  obtain ⟨head, tail, rfl, rfl⟩ := hat.splits hleads rfl
  have hhead : '\n' ∉ head := fun hmem => hat.single (List.mem_append_left tail hmem)
  have hcolumn : columnOfByte (utf8Len (b ++ head) - utf8Len b) (widesFrom 0 (head ++ tail)) =
      units (lastLine (b ++ head)) := by
    have hbytes : utf8Len (b ++ head) - utf8Len b = 0 + utf8Len head := by
      rw [String.utf8Len_append]
      omega
    rw [hbytes, columnOfByte_wides, lastLine_append hhead, lastLine_of_opens hat.opens]
    simp
  have htext : (ofText text).text = text := rfl
  simp only [position, htext, hfloor, hline, Nat.add_sub_cancel, hl, start_indexedLine,
    wides_indexedLine, hcolumn]

theorem val_position {text : String} (hsize : text.utf8ByteSize < 0x100000000) {offset : Offset}
    {before : List Char} (hleads : before <+: text.toList)
    (hfloor : floorBoundary text.toList offset.val = utf8Len before) :
    ((ofText text).position offset).line.val = before.count '\n' ∧
      ((ofText text).position offset).character.val = units (lastLine before) := by
  have hbytes : utf8Len before < 0x100000000 := by
    have := String.utf8Len_le_of_prefix hleads
    rw [String.utf8Len_toList] at this
    omega
  have hcount : before.count '\n' ≤ utf8Len before :=
    Nat.le_trans List.count_le_length (length_le_utf8Len before)
  have hunits : units (lastLine before) ≤ utf8Len before :=
    Nat.le_trans (units_le _) (String.utf8Len_le_of_suffix (lastLine_suffix before))
  rw [position_eq hleads hfloor]
  exact ⟨val_count32 (by omega), val_count32 (by omega)⟩

end LineMap

/-- A boundary at or before another has its place at or before that of the other: it has fewer line
feeds before it, or the same line with fewer characters. -/
theorem place_mono {a b : List Char} (h : a <+: b) :
    a.count '\n' < b.count '\n' ∨
      a.count '\n' = b.count '\n' ∧ units (lastLine a) ≤ units (lastLine b) := by
  obtain ⟨d, rfl⟩ := h
  rw [List.count_append]
  by_cases hd : '\n' ∈ d
  · have := List.count_pos_iff.mpr hd
    exact Or.inl (by omega)
  · rw [List.count_eq_zero.mpr hd, lastLine_append hd, units_append]
    exact Or.inr ⟨rfl, Nat.le_add_right _ _⟩

/-- **The place of an offset is exact.** For every text of less than 2^32 bytes and every offset,
with `before` the text up to the last boundary at or before the offset: the line of its place is
the number of line feeds in `before`, and the column the number of UTF-16 code units behind the
last of them. So the two ends of a span have places in this order. -/
theorem position_exact {text : String} (hsize : text.utf8ByteSize < 0x100000000) :
    (∀ offset : Offset, ∃ before, IsFloor text.toList offset.val before ∧
      ((LineMap.ofText text).position offset).line.val = before.count '\n' ∧
      ((LineMap.ofText text).position offset).character.val = units (lastLine before)) ∧
    ∀ span : Span,
      ((LineMap.ofText text).range span).start ≤ ((LineMap.ofText text).range span).stop := by
  have hexact : ∀ offset : Offset, ∃ before, IsFloor text.toList offset.val before ∧
      ((LineMap.ofText text).position offset).line.val = before.count '\n' ∧
      ((LineMap.ofText text).position offset).character.val = units (lastLine before) := by
    intro offset
    obtain ⟨before, hfloor, heq⟩ := floorBoundary_isFloor text.toList offset.val
    exact ⟨before, hfloor, LineMap.val_position hsize hfloor.isPrefix heq⟩
  refine ⟨hexact, ?_⟩
  intro span
  obtain ⟨a, hafloor, haline, hacolumn⟩ := hexact span.start
  obtain ⟨b, hbfloor, hbline, hbcolumn⟩ := hexact span.stop
  have hstop : span.start.val ≤ span.stop.val := by
    have := span.start.isLt
    simp only [Span.stop, Offset.val_plus]
    omega
  rw [Position.le_def]
  simp only [LineMap.range, haline, hacolumn, hbline, hbcolumn]
  exact place_mono (hafloor.mono hbfloor hstop)

/-- A text with characters of one, two and four bytes: an offset inside the one of four bytes has the
place of its start, and one far behind the text that of its end. -/
theorem mixedText_exact :
    "aé\n😀x".utf8ByteSize < 0x100000000 ∧
      (∃ before, IsFloor "aé\n😀x".toList 6 before ∧
        before.count '\n' = 1 ∧ units (lastLine before) = 0) ∧
      ∃ before, IsFloor "aé\n😀x".toList 1000 before ∧
        before.count '\n' = 1 ∧ units (lastLine before) = 3 := by
  have hsize : "aé\n😀x".utf8ByteSize < 0x100000000 := by decide +kernel
  obtain ⟨hexact, -⟩ := position_exact hsize
  obtain ⟨inner, hinner, hinnerLine, hinnerColumn⟩ := hexact 6
  obtain ⟨all, hall, hallLine, hallColumn⟩ := hexact 1000
  refine ⟨hsize, ⟨inner, hinner, ?_, ?_⟩, all, hall, ?_, ?_⟩
  · rw [← hinnerLine]
    decide +kernel
  · rw [← hinnerColumn]
    decide +kernel
  · rw [← hallLine]
    decide +kernel
  · rw [← hallColumn]
    decide +kernel

end Palimpsest.Text
