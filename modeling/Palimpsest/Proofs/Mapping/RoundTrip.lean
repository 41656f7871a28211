import Palimpsest.Proofs.Mapping.Carry
import Palimpsest.Proofs.Mapping.Spans

/-!
# Carrying there and back

Where the run of a segment in the other text is at least as long (`Segment.Lossless`), nothing is
cut off on the way, and what was carried there is carried back unchanged.

1. `project_round_trip`: one offset through one segment, for either side and either bias.
2. `ends_round_trip`: the two ends of a run of bytes, each through its own segment.
3. `carrying_round_trips`: spans both ways and single offsets both ways, in every accepted map.

Regions play no part: a lookup that is inside a segment asks for none.
-/

namespace Palimpsest.Mapping

/-- The number of bytes that the segment has in one of the texts. -/
def Segment.length (s : Segment) (side : Side) : Nat := (s.stop side).val - (s.start side).val

/-- The segment has at least as many bytes in the other text. -/
def Segment.Lossless (s : Segment) (side : Side) : Prop := s.length side ≤ s.length side.other

instance (s : Segment) (side : Side) : Decidable (s.Lossless side) :=
  inferInstanceAs (Decidable (_ ≤ _))

/-- A span with bytes, of which the first is in one segment and the last in another or the same. -/
structure Within (side : Side) (i j : Segment) (span : Span) : Prop where
  nonempty : 0 < span.length.val
  first : i.HasByte side span.start
  last_after : (j.start side).val < span.start.val + span.length.val
  last_before : span.start.val + span.length.val ≤ (j.stop side).val

/-- An offset that a lossless segment holds is carried as far behind the far start as it was behind
the near one, and is held there. -/
theorem Segment.Holds.project_holds {s : Segment} {side : Side} {bias : Bias} {pos : Offset}
    (h : s.Holds side bias pos) (hlossless : s.Lossless side) :
    ∃ x, s.project side pos = .ok x ∧ x.val = s.reach side pos ∧ s.Holds side.other bias x := by
  -- a held offset makes the near run non-empty, hence the far run too
  have hreach : s.reach side pos ≤ (s.stop side.other).val := by
    simp only [Segment.Lossless, Segment.length] at hlossless
    unfold Segment.reach
    cases bias <;> simp only [Segment.Holds, Fin.le_def, Fin.lt_def] at h <;> omega
  refine ⟨⟨s.reach side pos, by omega⟩, ?_, rfl, ?_⟩
  · exact Segment.project_eq_ok_iff.mpr
      ⟨Nat.le_trans hreach (Offset.val_le_last _), (Nat.min_eq_left hreach).symm⟩
  · simp only [Segment.Lossless, Segment.length] at hlossless
    unfold Segment.reach at hreach ⊢
    cases bias <;> simp only [Segment.Holds, Fin.le_def, Fin.lt_def] at h ⊢ <;> omega

/-- An offset as far behind the far start as another one is behind the near start is carried to
it. -/
theorem Segment.project_back {s : Segment} {side : Side} {pos x : Offset}
    (htouch : s.Touches side pos) (hx : x.val = s.reach side pos) :
    s.project side.other x = .ok pos := by
  have hback : s.reach side.other x = pos.val := by
    simp only [Segment.Touches, Fin.le_def] at htouch
    unfold Segment.reach at hx ⊢
    rw [Side.other_other]
    omega
  rw [Segment.project_eq_ok_iff, hback, Side.other_other]
  exact ⟨Offset.val_le_last pos, (Nat.min_eq_left htouch.2).symm⟩

theorem Segment.Holds.project_round_trip {s : Segment} {side : Side} {bias : Bias} {pos : Offset}
    (h : s.Holds side bias pos) (hlossless : s.Lossless side) :
    ∃ x, s.project side pos = .ok x ∧ s.Holds side.other bias x ∧
      s.project side.other x = .ok pos := by
  obtain ⟨x, hproject, hx, hholds⟩ := h.project_holds hlossless
  exact ⟨x, hproject, hholds, Segment.project_back h.touches hx⟩

namespace Within

variable {side : Side} {i j : Segment} {span : Span} (h : Within side i j span)

include h

theorem fits : span.start.val + span.length.val ≤ Offset.last.val := by
  exact Nat.le_trans h.last_before (Offset.val_le_last _)

theorem holds_start : i.Holds side .start span.start := h.first

theorem holds_stop : j.Holds side .stop span.stop := by
  have hstop := Span.val_stop h.fits
  have hafter := h.last_after
  have hbefore := h.last_before
  simp only [Segment.Holds, Fin.lt_def, Fin.le_def]
  omega

theorem start_lt_stop : span.start < span.stop := by
  have hstop := Span.val_stop h.fits
  have hlength := h.nonempty
  rw [Fin.lt_def]
  omega

end Within

namespace SegmentMap.WellFormed

variable {m : SegmentMap} (hm : m.WellFormed)

include hm

/-- The ends of a run of bytes, each through its own segment: they stay in order, and both are
carried back. -/
theorem ends_round_trip {side : Side} {i j : Segment} (hi : i ∈ m.segments.toList)
    (hj : j ∈ m.segments.toList) {p q : Offset} (hpq : p < q) (hp : i.Holds side .start p)
    (hq : j.Holds side .stop q) (hil : i.Lossless side) (hjl : j.Lossless side) :
    ∃ x y, x < y ∧
      (i.project side p = .ok x ∧ i.Holds side.other .start x ∧ i.project side.other x = .ok p) ∧
      (j.project side q = .ok y ∧ j.Holds side.other .stop y ∧ j.project side.other y = .ok q) := by
  obtain ⟨x, hx, hxreach, hxholds⟩ := hp.project_holds hil
  obtain ⟨y, hy, hyreach, hyholds⟩ := hq.project_holds hjl
  refine ⟨x, y, ?_, ⟨hx, hxholds, Segment.project_back hp.touches hxreach⟩,
    ⟨hy, hyholds, Segment.project_back hq.touches hyreach⟩⟩
  rcases rel_or_rel_of_pairwise hm.segments_follow hi hj with rfl | hij | hji
  · -- one segment: both ends keep their distance from its start
    unfold Segment.reach at hxreach hyreach
    simp only [Segment.Holds, Fin.lt_def, Fin.le_def] at hp hq hpq ⊢
    omega
  · -- the far runs are in the order of the segments
    have hfar := hij side.other
    simp only [Segment.Holds, Fin.lt_def, Fin.le_def] at hxholds hyholds hfar ⊢
    omega
  · -- the second segment cannot come first, since the second end does not
    have hnear := hji side
    simp only [Segment.Holds, Fin.lt_def, Fin.le_def] at hp hq hpq hnear
    omega

theorem toSource_of_holds {bias : Bias} {pos x : Offset} {s : Segment}
    (hs : s ∈ m.segments.toList) (h : s.Holds .expanded bias pos)
    (hx : s.project .expanded pos = .ok x) : m.toSource bias pos = .ok (some x) := by
  unfold toSource
  rw [hm.locate_eq_inside_iff.mpr ⟨hs, h⟩]
  simp only [hx]
  rfl

theorem pointToSource_of_holds {pos x : Offset} {s : Segment}
    (hs : s ∈ m.segments.toList) (h : s.Holds .expanded .start pos)
    (hx : s.project .expanded pos = .ok x) : m.pointToSource pos = .ok (some x) := by
  unfold pointToSource
  rw [hm.locate_eq_inside_iff.mpr ⟨hs, h⟩]
  simp only [hx]
  rfl

theorem toExpanded_of_holds {bias : Bias} {pos x : Offset} {s : Segment}
    (hs : s ∈ m.segments.toList) (h : s.Holds .source bias pos)
    (hx : s.project .source pos = .ok x) : m.toExpanded bias pos = .ok x := by
  rw [toExpanded_eq_carry, hm.carry_of_holds hs h, hx]

theorem sourceSpan_round_trip {i j : Segment} {span : Span} (hi : i ∈ m.segments.toList)
    (hj : j ∈ m.segments.toList) (hspan : Within .source i j span) (hil : i.Lossless .source)
    (hjl : j.Lossless .source) :
    ∃ image, (Mapper.segments m).spanToExpanded span = .ok image ∧
      (Mapper.segments m).spanToSource image = .ok (some span) := by
  obtain ⟨x, y, hxy, ⟨hx, hxholds, hxback⟩, hy, hyholds, hyback⟩ :=
    hm.ends_round_trip hi hj hspan.start_lt_stop hspan.holds_start hspan.holds_stop hil hjl
  refine ⟨.between x y, ?_, ?_⟩
  · apply Mapper.spanToExpanded_eq hspan.nonempty
    · exact hm.toExpanded_of_holds hi hspan.holds_start hx
    · exact hm.toExpanded_of_holds hj hspan.holds_stop hy
  · have hstart : (Mapper.segments m).toSource .start (Span.between x y).start =
        .ok (some span.start) :=
      hm.toSource_of_holds hi hxholds hxback
    have hstop : (Mapper.segments m).toSource .stop (Span.between x y).stop =
        .ok (some span.stop) := by
      rw [Span.stop_between (Fin.le_of_lt hxy)]
      exact hm.toSource_of_holds hj hyholds hyback
    rw [Mapper.spanToSource_eq (Span.length_between_pos hxy) hstart hstop,
      Span.between_start_stop hspan.fits]

theorem expandedSpan_round_trip {i j : Segment} {span : Span} (hi : i ∈ m.segments.toList)
    (hj : j ∈ m.segments.toList) (hspan : Within .expanded i j span) (hil : i.Lossless .expanded)
    (hjl : j.Lossless .expanded) :
    ∃ image, (Mapper.segments m).spanToSource span = .ok (some image) ∧
      (Mapper.segments m).spanToExpanded image = .ok span := by
  obtain ⟨x, y, hxy, ⟨hx, hxholds, hxback⟩, hy, hyholds, hyback⟩ :=
    hm.ends_round_trip hi hj hspan.start_lt_stop hspan.holds_start hspan.holds_stop hil hjl
  refine ⟨.between x y, ?_, ?_⟩
  · apply Mapper.spanToSource_eq hspan.nonempty
    · exact hm.toSource_of_holds hi hspan.holds_start hx
    · exact hm.toSource_of_holds hj hspan.holds_stop hy
  · have hstart : (Mapper.segments m).toExpanded .start (Span.between x y).start =
        .ok span.start :=
      hm.toExpanded_of_holds hi hxholds hxback
    have hstop : (Mapper.segments m).toExpanded .stop (Span.between x y).stop =
        .ok span.stop := by
      rw [Span.stop_between (Fin.le_of_lt hxy)]
      exact hm.toExpanded_of_holds hj hyholds hyback
    rw [Mapper.spanToExpanded_eq (Span.length_between_pos hxy) hstart hstop,
      Span.between_start_stop hspan.fits]

theorem sourcePoint_round_trip {s : Segment} {pos : Offset} (hs : s ∈ m.segments.toList)
    (hbyte : s.HasByte .source pos) (hlossless : s.Lossless .source) :
    ∃ x, (Mapper.segments m).pointToExpanded pos = .ok x ∧
      (Mapper.segments m).pointToSource x = .ok (some pos) := by
  have hholds : s.Holds .source .start pos := hbyte
  obtain ⟨x, hx, hxholds, hback⟩ := hholds.project_round_trip hlossless
  exact ⟨x, hm.toExpanded_of_holds hs hholds hx, hm.pointToSource_of_holds hs hxholds hback⟩

theorem expandedPoint_round_trip {s : Segment} {pos : Offset} (hs : s ∈ m.segments.toList)
    (hbyte : s.HasByte .expanded pos) (hlossless : s.Lossless .expanded) :
    ∃ x, (Mapper.segments m).pointToSource pos = .ok (some x) ∧
      (Mapper.segments m).pointToExpanded x = .ok pos := by
  have hholds : s.Holds .expanded .start pos := hbyte
  obtain ⟨x, hx, hxholds, hback⟩ := hholds.project_round_trip hlossless
  exact ⟨x, hm.pointToSource_of_holds hs hholds hx, hm.toExpanded_of_holds hs hxholds hback⟩

end SegmentMap.WellFormed

/-- Carrying there and back, in every accepted map. A span whose first and last byte are in
segments that are lossless from its side comes back as it was, whatever stands between them, and so
does a single byte of such a segment. -/
theorem carrying_round_trips {segments : List Segment} {regions : List Region} {m : SegmentMap}
    (h : SegmentMap.build segments regions = .ok m) :
    (∀ i ∈ m.segments.toList, ∀ j ∈ m.segments.toList, ∀ span, Within .source i j span →
      i.Lossless .source → j.Lossless .source →
      ∃ image, (Mapper.segments m).spanToExpanded span = .ok image ∧
        (Mapper.segments m).spanToSource image = .ok (some span)) ∧
    (∀ i ∈ m.segments.toList, ∀ j ∈ m.segments.toList, ∀ span, Within .expanded i j span →
      i.Lossless .expanded → j.Lossless .expanded →
      ∃ image, (Mapper.segments m).spanToSource span = .ok (some image) ∧
        (Mapper.segments m).spanToExpanded image = .ok span) ∧
    (∀ s ∈ m.segments.toList, ∀ pos, s.HasByte .source pos → s.Lossless .source →
      ∃ x, (Mapper.segments m).pointToExpanded pos = .ok x ∧
        (Mapper.segments m).pointToSource x = .ok (some pos)) ∧
    (∀ s ∈ m.segments.toList, ∀ pos, s.HasByte .expanded pos → s.Lossless .expanded →
      ∃ x, (Mapper.segments m).pointToSource pos = .ok (some x) ∧
        (Mapper.segments m).pointToExpanded x = .ok pos) := by
  have hm := SegmentMap.build_wellFormed h
  refine ⟨?_, ?_, ?_, ?_⟩
  · intro i hi j hj span hspan hil hjl
    exact hm.sourceSpan_round_trip hi hj hspan hil hjl
  · intro i hi j hj span hspan hil hjl
    exact hm.expandedSpan_round_trip hi hj hspan hil hjl
  · intro s hs pos hbyte hlossless
    exact hm.sourcePoint_round_trip hs hbyte hlossless
  · intro s hs pos hbyte hlossless
    exact hm.expandedPoint_round_trip hs hbyte hlossless

/-- In the sample map a span of ten source bytes goes over the region and the empty segment to
thirty expanded bytes and comes back, and both texts get back the last byte of the last segment. -/
theorem sample_round_trips :
    SegmentMap.build [⟨10, 25, 30, 45⟩, ⟨0, 10, 0, 10⟩, ⟨10, 10, 30, 30⟩] [⟨10, 30, "Debug"⟩] =
        .ok SegmentMap.sample ∧
      (∃ image, (Mapper.segments SegmentMap.sample).spanToExpanded ⟨5, 10⟩ = .ok image ∧
        (Mapper.segments SegmentMap.sample).spanToSource image = .ok (some ⟨5, 10⟩)) ∧
      (∃ image, (Mapper.segments SegmentMap.sample).spanToSource ⟨5, 30⟩ = .ok (some image) ∧
        (Mapper.segments SegmentMap.sample).spanToExpanded image = .ok ⟨5, 30⟩) ∧
      (∃ x, (Mapper.segments SegmentMap.sample).pointToExpanded 24 = .ok x ∧
        (Mapper.segments SegmentMap.sample).pointToSource x = .ok (some 24)) ∧
      (∃ x, (Mapper.segments SegmentMap.sample).pointToSource 44 = .ok (some x) ∧
        (Mapper.segments SegmentMap.sample).pointToExpanded x = .ok 44) := by
  obtain ⟨hsource, hexpanded, hpoint, hback⟩ := carrying_round_trips SegmentMap.build_sample
  have hfirst : (⟨0, 10, 0, 10⟩ : Segment) ∈ SegmentMap.sample.segments.toList := by decide
  have hlast : (⟨10, 25, 30, 45⟩ : Segment) ∈ SegmentMap.sample.segments.toList := by decide
  refine ⟨SegmentMap.build_sample, ?_, ?_, ?_, ?_⟩
  · exact hsource _ hfirst _ hlast ⟨5, 10⟩ ⟨by decide, by decide, by decide, by decide⟩
      (by decide) (by decide)
  · exact hexpanded _ hfirst _ hlast ⟨5, 30⟩ ⟨by decide, by decide, by decide, by decide⟩
      (by decide) (by decide)
  · exact hpoint _ hlast 24 (by decide) (by decide)
  · exact hback _ hlast 44 (by decide) (by decide)

end Palimpsest.Mapping
