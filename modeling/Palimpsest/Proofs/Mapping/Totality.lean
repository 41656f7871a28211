import Palimpsest.Proofs.Mapping.Refusal

/-!
# Where a lookup fails

An offset that is carried through a segment is cut down to the far end of the segment, and past the
segments sums stop at the largest offset. So a lookup should have a result for every offset. The sum
that is formed before an offset is cut down is the one that does not stop, and it may be too large.

1. `Overreaches`: the segment that carries an offset would carry it past the largest offset, and
   `Segment.Lands`: where it carries it, computed without bounds.
2. `carry_of_carrier`: an offset in or on a segment lands there, or the lookup fails.
3. `pointToSource_eq_error_iff` and the two for spans: the exact condition under which each lookup
   fails.
4. `never_overreaches_iff`: the maps in which none fails, by the lengths of their segments.
5. `total_unless_overreaching`: all of it for accepted maps.

`far_segment_overflows` is an accepted map in which lookups fail.
-/

namespace Palimpsest.Mapping

/-- The offset `x` is as far behind the far start of the segment as `pos` is behind the near one, or
it is the far end if that comes first. The sum has no bounds. -/
def Segment.Lands (s : Segment) (side : Side) (pos x : Offset) : Prop :=
  x.val = min ((s.start side.other).val + (pos.val - (s.start side).val)) (s.stop side.other).val

theorem Segment.reach_mono (s : Segment) (side : Side) {p q : Offset} (h : p ≤ q) :
    s.reach side p ≤ s.reach side q := by
  rw [Fin.le_def] at h
  unfold reach
  omega

namespace SegmentMap

/-- The segment that carries the offset would carry it past the largest offset, were it not cut down
to the far end. -/
def Overreaches (m : SegmentMap) (side : Side) (bias : Bias) (pos : Offset) : Prop :=
  ∃ s, m.Carrier side bias pos s ∧ Offset.last.val < s.reach side pos

namespace WellFormed

variable {m : SegmentMap} (hm : m.WellFormed) {side : Side} {bias : Bias} {pos : Offset}

include hm

theorem exists_carrier_iff :
    (∃ s, m.Carrier side bias pos s) ↔ ∃ s ∈ m.segments.toList, s.Touches side pos := by
  constructor
  · rintro ⟨s, hs⟩
    exact ⟨s, hs.mem, hs.touches⟩
  · rintro ⟨s, hs, htouch⟩
    rcases hm.carry_cases side bias pos with ⟨t, ht, -⟩ | ⟨hnone, -⟩
    · exact ⟨t, ht⟩
    · exact absurd htouch (hnone s hs)

theorem carry_of_carrier {s : Segment} (hs : m.Carrier side bias pos s)
    (h : ¬ m.Overreaches side bias pos) :
    ∃ x, m.carry side bias pos = .ok x ∧ s.Lands side pos x := by
  have hfits : s.reach side pos ≤ Offset.last.val := Nat.not_lt.mp fun hlt => h ⟨s, hs, hlt⟩
  refine ⟨⟨min (s.reach side pos) (s.stop side.other).val, by omega⟩, ?_, rfl⟩
  rw [hm.carry_eq_project hs]
  exact Segment.project_eq_ok_iff.mpr ⟨hfits, rfl⟩

/-! ## Points and spans -/

theorem pointToSource_eq_error_iff {e : Overflow} :
    m.pointToSource pos = .error e ↔ m.Overreaches .expanded .start pos := by
  by_cases htouched : ∃ s ∈ m.segments.toList, s.Touches .expanded pos
  · obtain ⟨s, hs, htouch⟩ := htouched
    rw [hm.pointToSource_of_touches hs htouch, Overreaches, ← hm.carry_eq_error_iff (e := e)]
    cases m.carry .expanded .start pos <;> simp [Functor.map, Except.map]
  · -- no segment touches the point, so none carries it
    have hnone : ∀ s ∈ m.segments.toList, ¬ s.Touches .expanded pos :=
      fun s hs htouch => htouched ⟨s, hs, htouch⟩
    rw [hm.pointToSource_of_outside hnone, hm.toSource_eq_error_iff]
    constructor
    · exact fun h => h.2
    · rintro ⟨s, hs, -⟩
      exact absurd hs.touches (hnone s hs.mem)

theorem spanToExpanded_eq_error_iff {span : Span} :
    (Mapper.segments m).spanToExpanded span = .error .sum ↔
      m.Overreaches .source .start span.start ∨
        0 < span.length.val ∧ m.Overreaches .source .stop span.stop := by
  have hstart : m.toExpanded .start span.start = .error .sum ↔
      m.Overreaches .source .start span.start := hm.carry_eq_error_iff
  have hstop : m.toExpanded .stop span.stop = .error .sum ↔
      m.Overreaches .source .stop span.stop := hm.carry_eq_error_iff
  rw [Mapper.spanToExpanded_eq_error_iff]
  simp only [Mapper.toExpanded]
  rw [hstart, hstop]
  constructor
  · rintro (hfirst | ⟨hlength, -, hsecond⟩)
    · exact Or.inl hfirst
    · exact Or.inr ⟨hlength, hsecond⟩
  · rintro (hfirst | ⟨hlength, hsecond⟩)
    · exact Or.inl hfirst
    · -- there is one kind of failure only, so it does not matter which lookup fails first
      cases hfound : m.toExpanded .start span.start with
      | error e => exact Or.inl (hstart.mp hfound)
      | ok x => exact Or.inr ⟨hlength, ⟨x, rfl⟩, hsecond⟩

end WellFormed

/-! ## Whole maps -/

/-- No lookup overreaches just where no segment, laid at its far start with its near length, runs past
the largest offset. -/
theorem never_overreaches_iff (m : SegmentMap) (side : Side) :
    (∀ bias pos, ¬ m.Overreaches side bias pos) ↔
      ∀ s ∈ m.segments.toList, s.reach side (s.stop side) ≤ Offset.last.val := by
  constructor
  · intro h s hs
    rcases Nat.lt_or_ge (s.start side).val (s.stop side).val with hlt | hge
    · -- the end of a run that has a byte is carried by its own segment
      have hholds : s.Holds side .stop (s.stop side) := ⟨hlt, Fin.le_refl _⟩
      exact Nat.not_lt.mp fun hover =>
        h .stop (s.stop side) ⟨s, ⟨hs, hholds.touches, Or.inl hholds⟩, hover⟩
    · have hfar := Offset.val_le_last (s.start side.other)
      unfold Segment.reach
      omega
  · rintro h bias pos ⟨s, hs, hover⟩
    have hreach := s.reach_mono side hs.touches.2
    have hstop := h s hs.mem
    omega

end SegmentMap

/-- **A lookup has a result unless the segment that carries its offset overreaches.** For every
accepted map, every offset, every length and either bias:

1. a source offset fails to be carried exactly if it overreaches;
2. an expanded offset fails exactly if it overreaches and no region covers it, and a single one
   whatever covers it;
3. a span fails exactly if one of its ends does, the second one being looked up only where the span
   has a byte and the first end is carried;
4. exactly the offsets in or on a segment are carried by a segment, and those that do not overreach
   land where a sum without bounds puts them, unless a region covers them;
5. a map in which nothing overreaches is one in which no segment, laid at its far start with its near
   length, runs past the largest offset. -/
theorem total_unless_overreaching {segments : List Segment} {regions : List Region} {m : SegmentMap}
    (h : SegmentMap.build segments regions = .ok m) :
    (∀ bias pos, m.toExpanded bias pos = .error .sum ↔ m.Overreaches .source bias pos) ∧
    (∀ bias pos, m.toSource bias pos = .error .sum ↔
      (¬ ∃ r ∈ m.regions.toList, r.Covers bias pos) ∧ m.Overreaches .expanded bias pos) ∧
    (∀ pos, m.pointToSource pos = .error .sum ↔ m.Overreaches .expanded .start pos) ∧
    (∀ span, (Mapper.segments m).spanToExpanded span = .error .sum ↔
      m.Overreaches .source .start span.start ∨
        0 < span.length.val ∧ m.Overreaches .source .stop span.stop) ∧
    (∀ span, (Mapper.segments m).spanToSource span = .error .sum ↔
      m.toSource .start span.start = .error .sum ∨
        0 < span.length.val ∧ (∃ x, m.toSource .start span.start = .ok (some x)) ∧
          m.toSource .stop span.stop = .error .sum) ∧
    (∀ side bias pos, (∃ s, m.Carrier side bias pos s) ↔
      ∃ s ∈ m.segments.toList, s.Touches side pos) ∧
    (∀ bias pos s, m.Carrier .source bias pos s → ¬ m.Overreaches .source bias pos →
      ∃ x, m.toExpanded bias pos = .ok x ∧ s.Lands .source pos x) ∧
    (∀ bias pos s, m.Carrier .expanded bias pos s → ¬ m.Overreaches .expanded bias pos →
      (¬ ∃ r ∈ m.regions.toList, r.Covers bias pos) →
      ∃ x, m.toSource bias pos = .ok (some x) ∧ s.Lands .expanded pos x) ∧
    (∀ pos s, m.Carrier .expanded .start pos s → ¬ m.Overreaches .expanded .start pos →
      ∃ x, m.pointToSource pos = .ok (some x) ∧ s.Lands .expanded pos x) ∧
    (∀ side, (∀ bias pos, ¬ m.Overreaches side bias pos) ↔
      ∀ s ∈ m.segments.toList,
        (s.start side.other).val + ((s.stop side).val - (s.start side).val) ≤ Offset.last.val) := by
  have hm := SegmentMap.build_wellFormed h
  refine ⟨fun _ _ => hm.carry_eq_error_iff, fun _ _ => hm.toSource_eq_error_iff,
    fun _ => hm.pointToSource_eq_error_iff, fun _ => hm.spanToExpanded_eq_error_iff,
    fun _ => Mapper.spanToSource_eq_error_iff, fun _ _ _ => hm.exists_carrier_iff,
    fun _ _ _ hs hfits => hm.carry_of_carrier hs hfits, ?_, ?_, m.never_overreaches_iff⟩
  · intro bias pos s hs hfits hcovers
    obtain ⟨x, hx, hlands⟩ := hm.carry_of_carrier hs hfits
    exact ⟨x, by rw [hm.toSource_of_not_covers hcovers, hx]; rfl, hlands⟩
  · intro pos s hs hfits
    obtain ⟨x, hx, hlands⟩ := hm.carry_of_carrier hs hfits
    exact ⟨x, by rw [hm.pointToSource_of_touches hs.mem hs.touches, hx]; rfl, hlands⟩

/-- In the sample map nothing overreaches, and the third segment carries both ways. -/
theorem sample_lands :
    SegmentMap.build [⟨10, 25, 30, 45⟩, ⟨0, 10, 0, 10⟩, ⟨10, 10, 30, 30⟩] [⟨10, 30, "Debug"⟩] =
        .ok SegmentMap.sample ∧
      (∀ bias pos, SegmentMap.sample.toExpanded bias pos ≠ .error .sum) ∧
      (∃ x, SegmentMap.sample.toExpanded .start 12 = .ok x ∧ x.val = 32) ∧
      ∃ x, SegmentMap.sample.toSource .stop 45 = .ok (some x) ∧ x.val = 25 := by
  obtain ⟨hfails, -, -, -, -, -, hexpanded, hsource, -, hwhole⟩ :=
    total_unless_overreaching SegmentMap.build_sample
  have hlengths : ∀ s ∈ SegmentMap.sample.segments.toList, ∀ side : Side,
      (s.start side.other).val + ((s.stop side).val - (s.start side).val) ≤ Offset.last.val := by
    intro s hs side
    cases side with
    | source => revert s; decide
    | expanded => revert s; decide
  have hnever : ∀ side bias pos, ¬ SegmentMap.sample.Overreaches side bias pos :=
    fun side => (hwhole side).mpr fun s hs => hlengths s hs side
  have hmem : (⟨10, 25, 30, 45⟩ : Segment) ∈ SegmentMap.sample.segments.toList := by decide
  have hstart : (⟨10, 25, 30, 45⟩ : Segment).Holds .source .start 12 := by
    show (10 : Offset) ≤ 12 ∧ (12 : Offset) < 25
    decide
  have hstop : (⟨10, 25, 30, 45⟩ : Segment).Holds .expanded .stop 45 := by
    show (30 : Offset) < 45 ∧ (45 : Offset) ≤ 45
    decide
  refine ⟨SegmentMap.build_sample, ?_, ?_, ?_⟩
  · intro bias pos hfailed
    exact hnever .source bias pos ((hfails bias pos).mp hfailed)
  · exact hexpanded .start 12 _ ⟨hmem, hstart.touches, Or.inl hstart⟩ (hnever _ _ _)
  · refine hsource .stop 45 _ ⟨hmem, hstop.touches, Or.inl hstop⟩ (hnever _ _ _) ?_
    decide

/-- An accepted map in which an offset inside a segment has no result, where the sum without bounds
puts it at the far end of the segment: a segment whose source run begins just below the largest
offset and whose expanded run is longer. -/
theorem far_segment_overflows :
    SegmentMap.build [⟨18446744073709551614, 18446744073709551615, 0, 10⟩] [⟨10, 20, "Debug"⟩] =
        .ok SegmentMap.farSample ∧
      (⟨18446744073709551614, 18446744073709551615, 0, 10⟩ : Segment).Lands .expanded 5
        18446744073709551615 ∧
      SegmentMap.farSample.toSource .start 5 = .error .sum ∧
      SegmentMap.farSample.pointToSource 5 = .error .sum ∧
      (Mapper.segments SegmentMap.farSample).spanToSource ⟨5, 1⟩ = .error .sum := by
  refine ⟨by decide +kernel, ?_, by decide +kernel, by decide +kernel, by decide +kernel⟩
  show (18446744073709551615 : Nat) = min (18446744073709551614 + (5 - 0)) 18446744073709551615
  decide

end Palimpsest.Mapping
