import Palimpsest.Proofs.Mapping.Spans
import Palimpsest.Proofs.Text.Offsets

/-!
# Places in order have offsets in order

Two places of one line are in order because the walk over its wide characters is monotone, also from
columns between the two halves of a character. Places of two lines are in order because the cut at
the end of a line leaves every offset before the start of the next one. A missing line stands for
the end of the text, where nothing is behind it.

1. `Near`: a place whose column is not far out; `near_of_small`: one with 31 bits in a text of 31
   bits.
2. `offset_mono`: near places in order have offsets in order.
3. `span_of_ordered`: the span between them runs from the one offset to the other.
4. `offsets_in_order`: both for all texts and places of 31 bits.
-/

namespace Palimpsest.Text

open String (utf8Len)

/-- A place whose column fits behind the start of its line, with all that the line has in bytes
beyond its code units, and whose line has a number behind its own. A place in a missing line is
near. -/
structure Near (text : List Char) (p : Position) : Prop where
  numbered : ¬ AtLastNumber text p
  fits : ∀ before line after, LineAt text p.line.val before line after →
    utf8Len before + (p.character.val + lineExcess line) < 0x100000000

namespace LineMap

variable {text : String} {p q : Position}

theorem near_of_small (hsize : text.utf8ByteSize < 0x80000000)
    (h : p.character.val < 0x80000000) : Near text.toList p where
  numbered := by
    rintro ⟨htext, -⟩
    have hlength := length_le_utf8Len text.toList
    rw [String.utf8Len_toList, htext, length_fullOfLines] at hlength
    omega
  fits before line after hat := by
    have htext := hat.utf8Len_text
    rw [String.utf8Len_toList] at htext
    unfold lineExcess
    omega

theorem exists_offset (hsize : text.utf8ByteSize < 0x100000000) (hp : Near text.toList p) :
    ∃ a, (ofText text).offset p = .ok a ∧ a ≤ (ofText text).size := by
  by_cases hline : p.line.val ≤ text.toList.count '\n'
  · obtain ⟨before, line, after, hat⟩ := exists_lineAt hline
    refine ⟨_, offset_of_near hsize hat hp.numbered (hp.fits before line after hat), ?_⟩
    have hcontent := String.utf8Len_le_of_prefix (content_isPrefix line after)
    have htext := hat.utf8Len_text
    rw [Fin.le_def, Offset.val_clamp, val_size hsize]
    omega
  · exact ⟨_, offset_of_missing (Nat.lt_of_not_le hline), Nat.le_refl _⟩

theorem offset_mono (hsize : text.utf8ByteSize < 0x100000000) (hp : Near text.toList p)
    (hq : Near text.toList q) (h : p ≤ q) :
    ∃ a b, (ofText text).offset p = .ok a ∧ (ofText text).offset q = .ok b ∧ a ≤ b := by
  rw [Position.le_def] at h
  by_cases hline : q.line.val ≤ text.toList.count '\n'
  · have hfirst : p.line.val ≤ text.toList.count '\n' := by omega
    obtain ⟨before, line, after, hat⟩ := exists_lineAt hfirst
    obtain ⟨before', line', after', hat'⟩ := exists_lineAt hline
    refine ⟨_, _, offset_of_near hsize hat hp.numbered (hp.fits _ _ _ hat),
      offset_of_near hsize hat' hq.numbered (hq.fits _ _ _ hat'), ?_⟩
    rw [Fin.le_def, Offset.val_clamp, Offset.val_clamp]
    rcases h with hlt | ⟨heq, hcolumn⟩
    · -- the offset of the first is cut before the line of the second starts
      have hcontent := String.utf8Len_le_of_prefix (content_isPrefix line after)
      have hstart := hat.stop_lt_start hat' hlt
      omega
    · rw [heq] at hat
      obtain ⟨rfl, rfl, rfl⟩ := hat.unique hat'
      have hwalk := byteOfColumn_mono hcolumn (widesFrom 0 line)
      omega
  · obtain ⟨a, ha, hend⟩ := exists_offset hsize hp
    exact ⟨a, _, ha, offset_of_missing (Nat.lt_of_not_le hline), hend⟩

theorem span_of_ordered {r : Range} {a b : Offset} (ha : (ofText text).offset r.start = .ok a)
    (hb : (ofText text).offset r.stop = .ok b) (h : a ≤ b) :
    ∃ s, (ofText text).span r = .ok s ∧ s.start = a ∧ s.stop = b ∧
      a.val + s.length.val = b.val := by
  refine ⟨.between a b, ?_, rfl, Span.stop_between h, ?_⟩
  · rw [span, ha, hb]
    rfl
  · rw [Fin.le_def] at h
    simp only [Span.between, Offset.val_minus]
    omega

end LineMap

/-- **Offsets are in the order of their places.** For every text of less than 2^31 bytes and all
places with columns of 31 bits, whether they are in a line, inside a character, behind the end of
their line or behind the last line: each has an offset, and places in order have offsets in order.
So the span of a range whose ends are in order starts at the offset of the first and ends at that of
the second, and nothing is cut off on the way. -/
theorem offsets_in_order {text : String} (hsize : text.utf8ByteSize < 0x80000000) :
    (∀ p q : Position, p ≤ q → p.character.val < 0x80000000 → q.character.val < 0x80000000 →
      ∃ a b, (LineMap.ofText text).offset p = .ok a ∧ (LineMap.ofText text).offset q = .ok b ∧
        a ≤ b) ∧
    ∀ r : Range, r.start ≤ r.stop → r.start.character.val < 0x80000000 →
      r.stop.character.val < 0x80000000 →
      ∃ s, (LineMap.ofText text).span r = .ok s ∧
        (LineMap.ofText text).offset r.start = .ok s.start ∧
        (LineMap.ofText text).offset r.stop = .ok s.stop ∧
        s.start.val + s.length.val = s.stop.val := by
  have hbytes : text.utf8ByteSize < 0x100000000 := by omega
  constructor
  · intro p q h hp hq
    exact LineMap.offset_mono hbytes (LineMap.near_of_small hsize hp)
      (LineMap.near_of_small hsize hq) h
  · intro r h hstart hstop
    obtain ⟨a, b, ha, hb, hle⟩ := LineMap.offset_mono hbytes
      (LineMap.near_of_small hsize hstart) (LineMap.near_of_small hsize hstop) h
    obtain ⟨s, hspan, rfl, rfl, hlength⟩ := LineMap.span_of_ordered ha hb hle
    exact ⟨s, hspan, ha, hb, hlength⟩

/-- From between the two halves of a character to far behind the last line. -/
theorem crlfText_in_order :
    "x\na😀\r\nb".utf8ByteSize < 0x80000000 ∧
      (⟨1, 2⟩ : Position) ≤ ⟨1, 2147483647⟩ ∧
      (∃ a b, (LineMap.ofText "x\na😀\r\nb").offset ⟨1, 2⟩ = .ok a ∧
        (LineMap.ofText "x\na😀\r\nb").offset ⟨1, 2147483647⟩ = .ok b ∧ a ≤ b) ∧
      (⟨1, 2147483647⟩ : Position) ≤ ⟨2147483647, 0⟩ ∧
      ∃ s, (LineMap.ofText "x\na😀\r\nb").span ⟨⟨1, 2147483647⟩, ⟨2147483647, 0⟩⟩ = .ok s ∧
        s.start.val = 7 ∧ s.length.val = 3 := by
  have hsize : "x\na😀\r\nb".utf8ByteSize < 0x80000000 := by decide +kernel
  have hle : (⟨1, 2⟩ : Position) ≤ ⟨1, 2147483647⟩ := Position.le_def.mpr (by decide)
  have hle' : (⟨1, 2147483647⟩ : Position) ≤ ⟨2147483647, 0⟩ := Position.le_def.mpr (by decide)
  obtain ⟨hplaces, hranges⟩ := offsets_in_order hsize
  refine ⟨hsize, hle, hplaces _ _ hle (by decide) (by decide), hle', ?_⟩
  obtain ⟨s, hspan, hstart, hstop, hlength⟩ :=
    hranges ⟨⟨1, 2147483647⟩, ⟨2147483647, 0⟩⟩ hle' (by decide) (by decide)
  have hfirst : (LineMap.ofText "x\na😀\r\nb").offset ⟨1, 2147483647⟩ = .ok 7 := by decide +kernel
  have hsecond : (LineMap.ofText "x\na😀\r\nb").offset ⟨2147483647, 0⟩ = .ok 10 := by decide +kernel
  have hseven : s.start.val = 7 := by rw [Except.ok.inj (hstart.symm.trans hfirst)]; rfl
  have hten : s.stop.val = 10 := by rw [Except.ok.inj (hstop.symm.trans hsecond)]; rfl
  exact ⟨s, hspan, hseven, by omega⟩

end Palimpsest.Text
