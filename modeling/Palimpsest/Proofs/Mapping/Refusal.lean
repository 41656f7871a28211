import Palimpsest.Proofs.Mapping.Carry
import Palimpsest.Proofs.Mapping.Spans

/-!
# What is refused on the way to the source

Made-up text has no place in the source, and nothing else is refused. The three lookups ask for a
region at different moments: a biased lookup asks unless it is inside a segment, a point lookup only
where no segment touches the point. That no region has a byte of a segment makes the moments agree:

1. `toSource_eq`: a biased lookup may as well ask for the region first;
2. `toSource_eq_none_iff`, `toSource_eq_error_iff` and `toSource_eq_some_iff`: what is refused, what
   fails and what is carried, by the bounds of regions and segments alone;
3. `pointToSource_eq_none_iff` and `spanToSource_eq_none_iff`: what is refused of points and spans;
4. `refused_iff_made_up`: all lookups of an accepted map together, spans included.

A span whose first end fails is not refused, whatever its second end is. `refusal_lost_to_overflow`
is such a span.
-/

namespace Palimpsest.Mapping

/-- The region covers the byte behind the offset, or the one before it, as the bias says. -/
def Region.Covers (r : Region) : Bias → Offset → Prop
  | .start, pos => r.start ≤ pos ∧ pos < r.stop
  | .stop, pos => r.start < pos ∧ pos ≤ r.stop

instance (r : Region) (bias : Bias) (pos : Offset) : Decidable (r.Covers bias pos) :=
  match bias with
  | .start => inferInstanceAs (Decidable (_ ∧ _))
  | .stop => inferInstanceAs (Decidable (_ ∧ _))

theorem Region.covers_stop_iff {r : Region} {pos : Offset} :
    r.Covers .stop pos ↔ 0 < pos.val ∧ r.HasByte (pos.minus 1) := by
  have hone : (1 : Offset).val = 1 := rfl
  simp only [Region.Covers, Region.HasByte, Fin.lt_def, Fin.le_def, Offset.val_minus, hone]
  omega

namespace SegmentMap

theorem regionAt?_eq_find? (m : SegmentMap) (bias : Bias) (pos : Offset) :
    m.regionAt? bias pos = m.regions.toList.find? fun r => decide (r.Covers bias pos) := by
  have hone : (1 : Offset).val = 1 := rfl
  cases bias with
  | start =>
    simp only [regionAt?, regionWithin?, ← Array.find?_toList]
    congr 1
    funext r
    rw [Bool.eq_iff_iff]
    simp only [Region.isOccupied, Bool.and_eq_true, decide_eq_true_eq, Region.Covers, Fin.lt_def,
      Fin.le_def, Offset.val_plus, hone]
    omega
  | stop =>
    simp only [regionAt?]
    split
    · rename_i hzero
      symm
      rw [List.find?_eq_none]
      intro r _
      have hval : pos.val = 0 := by rw [hzero]; rfl
      simp only [Region.Covers, decide_eq_true_eq, Fin.lt_def, Fin.le_def]
      omega
    · rename_i hpos
      have hval : pos.val ≠ 0 := fun hzero => hpos (Fin.ext hzero)
      simp only [regionWithin?, ← Array.find?_toList]
      congr 1
      funext r
      rw [Bool.eq_iff_iff]
      simp only [Region.isOccupied, Bool.and_eq_true, decide_eq_true_eq, Region.Covers, Fin.lt_def,
        Fin.le_def, Offset.val_minus, hone]
      omega

theorem regionAt?_isSome_iff {m : SegmentMap} {bias : Bias} {pos : Offset} :
    (m.regionAt? bias pos).isSome = true ↔ ∃ r ∈ m.regions.toList, r.Covers bias pos := by
  rw [regionAt?_eq_find?, List.find?_isSome]
  simp only [decide_eq_true_eq]

theorem regionAt?_eq_some {m : SegmentMap} {bias : Bias} {pos : Offset} {r : Region}
    (h : m.regionAt? bias pos = some r) : r ∈ m.regions.toList ∧ r.Covers bias pos := by
  rw [regionAt?_eq_find?] at h
  have hcovers := List.find?_some h
  rw [decide_eq_true_eq] at hcovers
  exact ⟨List.mem_of_find?_eq_some h, hcovers⟩

theorem some_map_ne_none (e : Except Overflow Offset) : some <$> e ≠ .ok none := by
  cases e <;> simp [Functor.map, Except.map]

namespace WellFormed

variable {m : SegmentMap} (hm : m.WellFormed)

include hm

theorem not_covers_of_holds {s : Segment} (hs : s ∈ m.segments.toList) {bias : Bias} {pos : Offset}
    (h : s.Holds .expanded bias pos) : ∀ r ∈ m.regions.toList, ¬ r.Covers bias pos := by
  intro r hr hcovers
  cases bias with
  | start => exact hm.apart r hr s hs pos ⟨hcovers, h⟩
  | stop =>
    -- the byte that both have is the one before the offset
    obtain ⟨hpos, hbyte⟩ := Region.covers_stop_iff.mp hcovers
    have hone : (1 : Offset).val = 1 := rfl
    refine hm.apart r hr s hs (pos.minus 1) ⟨hbyte, ?_⟩
    simp only [Segment.Holds, Fin.lt_def, Fin.le_def] at h
    simp only [Segment.HasByte, Fin.lt_def, Fin.le_def, Offset.val_minus, hone]
    omega

/-- Asking for the region first changes nothing. -/
theorem toSource_eq (bias : Bias) (pos : Offset) :
    m.toSource bias pos =
      if (m.regionAt? bias pos).isSome then .ok none
      else some <$> m.carry .expanded bias pos := by
  unfold toSource carry
  cases hmet : m.locate .expanded bias pos with
  | inside s =>
    obtain ⟨hs, hholds⟩ := hm.locate_eq_inside_iff.mp hmet
    have hnone : ¬ (m.regionAt? bias pos).isSome = true := by
      rw [regionAt?_isSome_iff]
      rintro ⟨r, hr, hcovers⟩
      exact hm.not_covers_of_holds hs hholds r hr hcovers
    rw [if_neg hnone]
  | edge s => rfl
  | outside => rfl

theorem toSource_of_covers {bias : Bias} {pos : Offset}
    (h : ∃ r ∈ m.regions.toList, r.Covers bias pos) : m.toSource bias pos = .ok none := by
  rw [hm.toSource_eq, if_pos (regionAt?_isSome_iff.mpr h)]

theorem toSource_of_not_covers {bias : Bias} {pos : Offset}
    (h : ¬ ∃ r ∈ m.regions.toList, r.Covers bias pos) :
    m.toSource bias pos = some <$> m.carry .expanded bias pos := by
  rw [hm.toSource_eq, if_neg (fun hsome => h (regionAt?_isSome_iff.mp hsome))]

theorem toSource_eq_none_iff {bias : Bias} {pos : Offset} :
    m.toSource bias pos = .ok none ↔ ∃ r ∈ m.regions.toList, r.Covers bias pos := by
  constructor
  · intro h
    by_contra hnone
    rw [hm.toSource_of_not_covers hnone] at h
    exact some_map_ne_none _ h
  · exact hm.toSource_of_covers

/-- A lookup fails just where no region covers the offset and the segment that carries it reaches
too far. -/
theorem toSource_eq_error_iff {bias : Bias} {pos : Offset} {e : Overflow} :
    m.toSource bias pos = .error e ↔
      (¬ ∃ r ∈ m.regions.toList, r.Covers bias pos) ∧
        ∃ s, m.Carrier .expanded bias pos s ∧ Offset.last.val < s.reach .expanded pos := by
  by_cases hcovers : ∃ r ∈ m.regions.toList, r.Covers bias pos
  · rw [hm.toSource_of_covers hcovers]
    simp only [reduceCtorEq, hcovers, not_true_eq_false, false_and]
  · rw [hm.toSource_of_not_covers hcovers]
    simp only [hcovers, not_false_eq_true, true_and]
    rw [← hm.carry_eq_error_iff (e := e)]
    cases m.carry .expanded bias pos <;> simp [Functor.map, Except.map]

theorem toSource_eq_some_iff {bias : Bias} {pos : Offset} :
    (∃ x, m.toSource bias pos = .ok (some x)) ↔
      (¬ ∃ r ∈ m.regions.toList, r.Covers bias pos) ∧
        ¬ ∃ s, m.Carrier .expanded bias pos s ∧ Offset.last.val < s.reach .expanded pos := by
  constructor
  · rintro ⟨x, hx⟩
    have hcovers : ¬ ∃ r ∈ m.regions.toList, r.Covers bias pos := by
      intro hcovers
      rw [hm.toSource_of_covers hcovers] at hx
      cases hx
    refine ⟨hcovers, ?_⟩
    intro hreach
    have hfails : m.toSource bias pos = .error .sum :=
      hm.toSource_eq_error_iff.mpr ⟨hcovers, hreach⟩
    rw [hfails] at hx
    cases hx
  · rintro ⟨hcovers, hfits⟩
    cases hlookup : m.toSource bias pos with
    | error e => exact absurd (hm.toSource_eq_error_iff.mp hlookup).2 hfits
    | ok found =>
      cases found with
      | none => exact absurd (hm.toSource_eq_none_iff.mp hlookup) hcovers
      | some x => exact ⟨x, rfl⟩

theorem carry_of_toSource {bias : Bias} {pos x : Offset} (h : m.toSource bias pos = .ok (some x)) :
    m.carry .expanded bias pos = .ok x := by
  have hcovers := (hm.toSource_eq_some_iff.mp ⟨x, h⟩).1
  rw [hm.toSource_of_not_covers hcovers] at h
  cases hcarry : m.carry .expanded bias pos with
  | error e => simp [hcarry, Functor.map, Except.map] at h
  | ok y =>
    simp only [hcarry, Functor.map, Except.map, Except.ok.injEq, Option.some.injEq] at h
    rw [h]

/-! ## Points -/

theorem pointToSource_of_touches {s : Segment} (hs : s ∈ m.segments.toList) {pos : Offset}
    (h : s.Touches .expanded pos) :
    m.pointToSource pos = some <$> m.carry .expanded .start pos := by
  unfold pointToSource carry
  cases hmet : m.locate .expanded .start pos with
  | inside t => rfl
  | edge t => rfl
  | outside => exact absurd h (hm.locate_eq_outside_iff.mp hmet s hs)

theorem pointToSource_of_outside {pos : Offset}
    (h : ∀ s ∈ m.segments.toList, ¬ s.Touches .expanded pos) :
    m.pointToSource pos = m.toSource .start pos := by
  unfold pointToSource toSource
  rw [hm.locate_eq_outside_iff.mpr h]

theorem pointToSource_eq_none_iff {pos : Offset} :
    m.pointToSource pos = .ok none ↔
      (∃ r ∈ m.regions.toList, r.Covers .start pos) ∧
        ∀ s ∈ m.segments.toList, ¬ s.Touches .expanded pos := by
  by_cases houtside : ∀ s ∈ m.segments.toList, ¬ s.Touches .expanded pos
  · rw [hm.pointToSource_of_outside houtside, hm.toSource_eq_none_iff]
    exact ⟨fun h => ⟨h, houtside⟩, fun h => h.1⟩
  · constructor
    · intro h
      obtain ⟨s, hs, htouch⟩ : ∃ s ∈ m.segments.toList, s.Touches .expanded pos := by
        simpa using houtside
      rw [hm.pointToSource_of_touches hs htouch] at h
      exact absurd h (some_map_ne_none _)
    · intro h
      exact absurd h.2 houtside

theorem pointToSource_of_not_covers {pos : Offset}
    (h : ¬ ∃ r ∈ m.regions.toList, r.Covers .start pos) :
    m.pointToSource pos = m.toSource .start pos := by
  by_cases houtside : ∀ s ∈ m.segments.toList, ¬ s.Touches .expanded pos
  · exact hm.pointToSource_of_outside houtside
  · obtain ⟨s, hs, htouch⟩ : ∃ s ∈ m.segments.toList, s.Touches .expanded pos := by
      simpa using houtside
    rw [hm.pointToSource_of_touches hs htouch, hm.toSource_of_not_covers h]

/-! ## Regions -/

theorem hasByte_unique {r r' : Region} (hr : r ∈ m.regions.toList) (hr' : r' ∈ m.regions.toList)
    {byte : Offset} (h : r.HasByte byte) (h' : r'.HasByte byte) : r' = r := by
  rcases rel_or_rel_of_pairwise hm.regions_follow hr hr' with heq | hbefore | hbefore
  · exact heq.symm
  · simp only [Region.Before, Region.HasByte, Fin.lt_def, Fin.le_def] at hbefore h h'
    omega
  · simp only [Region.Before, Region.HasByte, Fin.lt_def, Fin.le_def] at hbefore h h'
    omega

theorem producerAt?_of_hasByte {r : Region} (hr : r ∈ m.regions.toList) {pos : Offset}
    (h : r.HasByte pos) : (Mapper.segments m).producerAt? pos = some r.producer := by
  have hcovered : (m.regionAt? .start pos).isSome = true := regionAt?_isSome_iff.mpr ⟨r, hr, h⟩
  obtain ⟨r', hfound⟩ := Option.isSome_iff_exists.mp hcovered
  obtain ⟨hr', hcovers⟩ := regionAt?_eq_some hfound
  have hbyte : r'.HasByte pos := hcovers
  simp only [Mapper.producerAt?, hfound, Option.map_some, hm.hasByte_unique hr hr' h hbyte]

omit hm in
theorem producerAt?_of_not_hasByte {pos : Offset} (h : ∀ r ∈ m.regions.toList, ¬ r.HasByte pos) :
    (Mapper.segments m).producerAt? pos = none := by
  have hnone : m.regionAt? .start pos = none := by
    rw [regionAt?_eq_find?, List.find?_eq_none]
    intro r hr
    rw [decide_eq_true_eq]
    exact h r hr
  simp only [Mapper.producerAt?, hnone, Option.map_none]

/-! ## Spans -/

/-- A span is refused just where its first byte is made up, or where it has a byte, its last byte
is made up and the lookup of its start does not fail. -/
theorem spanToSource_eq_none_iff {span : Span} :
    (Mapper.segments m).spanToSource span = .ok none ↔
      (∃ r ∈ m.regions.toList, r.HasByte span.start) ∨
        0 < span.length.val ∧ (∃ r ∈ m.regions.toList, r.HasByte (span.stop.minus 1)) ∧
          ¬ ∃ s, m.Carrier .expanded .start span.start s ∧
            Offset.last.val < s.reach .expanded span.start := by
  have hlast : 0 < span.length.val →
      ((∃ r ∈ m.regions.toList, r.Covers .stop span.stop) ↔
        ∃ r ∈ m.regions.toList, r.HasByte (span.stop.minus 1)) := by
    intro hlength
    have hstop : 0 < span.stop.val := by
      simp only [Span.stop, Offset.val_plus]
      omega
    simp only [Region.covers_stop_iff, hstop, true_and]
  have hfirst : (m.toSource .start span.start = .ok none) ↔
      ∃ r ∈ m.regions.toList, r.HasByte span.start := hm.toSource_eq_none_iff
  rw [Mapper.spanToSource_eq_none_iff]
  simp only [Mapper.toSource]
  rw [hfirst, hm.toSource_eq_some_iff, hm.toSource_eq_none_iff]
  constructor
  · rintro (hmade | ⟨hlength, ⟨_, hfits⟩, hstop⟩)
    · exact Or.inl hmade
    · exact Or.inr ⟨hlength, (hlast hlength).mp hstop, hfits⟩
  · rintro (hmade | ⟨hlength, hstop, hfits⟩)
    · exact Or.inl hmade
    · -- where the first byte is made up too, the second end is not asked for
      by_cases hmade : ∃ r ∈ m.regions.toList, r.HasByte span.start
      · exact Or.inl hmade
      · exact Or.inr ⟨hlength, ⟨hmade, hfits⟩, (hlast hlength).mpr hstop⟩

end WellFormed

end SegmentMap

/-- Just the made-up text is refused, in every accepted map. A start is refused where a region has
the byte behind it, an end where a region has the byte before it, and a point where a region has its
byte and no segment touches it. The byte of a region has the producer of that one region. A span is
refused where its first or its last byte is made up, unless the lookup of its start overflows. What a
start is carried to, a point is carried to. -/
theorem refused_iff_made_up {segments : List Segment} {regions : List Region} {m : SegmentMap}
    (h : SegmentMap.build segments regions = .ok m) :
    (∀ pos, m.toSource .start pos = .ok none ↔
      ∃ r ∈ m.regions.toList, r.start ≤ pos ∧ pos < r.stop) ∧
    (∀ pos, m.toSource .stop pos = .ok none ↔
      ∃ r ∈ m.regions.toList, r.start < pos ∧ pos ≤ r.stop) ∧
    (∀ pos, m.pointToSource pos = .ok none ↔
      (∃ r ∈ m.regions.toList, r.start ≤ pos ∧ pos < r.stop) ∧
        ∀ s ∈ m.segments.toList, ¬ (s.expandedStart ≤ pos ∧ pos ≤ s.expandedStop)) ∧
    (∀ pos, ∀ r ∈ m.regions.toList, r.HasByte pos →
      (Mapper.segments m).producerAt? pos = some r.producer ∧
        ∀ r' ∈ m.regions.toList, r'.HasByte pos → r' = r) ∧
    (∀ pos, (∀ r ∈ m.regions.toList, ¬ r.HasByte pos) →
      (Mapper.segments m).producerAt? pos = none) ∧
    (∀ span, (Mapper.segments m).spanToSource span = .ok none ↔
      (∃ r ∈ m.regions.toList, r.HasByte span.start) ∨
        0 < span.length.val ∧ (∃ r ∈ m.regions.toList, r.HasByte (span.stop.minus 1)) ∧
          ¬ ∃ s, m.Carrier .expanded .start span.start s ∧
            Offset.last.val < s.reach .expanded span.start) ∧
    (∀ pos x, m.toSource .start pos = .ok (some x) → m.pointToSource pos = .ok (some x)) := by
  have hm := SegmentMap.build_wellFormed h
  refine ⟨fun pos => hm.toSource_eq_none_iff, fun pos => hm.toSource_eq_none_iff,
    fun pos => hm.pointToSource_eq_none_iff, ?_, ?_, fun span => hm.spanToSource_eq_none_iff, ?_⟩
  · intro pos r hr hbyte
    exact ⟨hm.producerAt?_of_hasByte hr hbyte, fun r' hr' => hm.hasByte_unique hr hr' hbyte⟩
  · intro pos hnone
    exact SegmentMap.WellFormed.producerAt?_of_not_hasByte hnone
  · intro pos x hx
    have hcovers := (hm.toSource_eq_some_iff.mp ⟨x, hx⟩).1
    rw [hm.pointToSource_of_not_covers hcovers, hx]

/-- In the sample map the region from 10 to 30 refuses a start at its first byte, an end at its
end and a point inside it, and a span that ends in it. -/
theorem sample_refuses :
    SegmentMap.build [⟨10, 25, 30, 45⟩, ⟨0, 10, 0, 10⟩, ⟨10, 10, 30, 30⟩] [⟨10, 30, "Debug"⟩] =
        .ok SegmentMap.sample ∧
      SegmentMap.sample.toSource .start 10 = .ok none ∧
      SegmentMap.sample.toSource .stop 30 = .ok none ∧
      SegmentMap.sample.pointToSource 10 ≠ .ok none ∧
      SegmentMap.sample.pointToSource 20 = .ok none ∧
      (Mapper.segments SegmentMap.sample).producerAt? 10 = some "Debug" ∧
      (Mapper.segments SegmentMap.sample).spanToSource ⟨5, 10⟩ = .ok none := by
  obtain ⟨hstart, hstop, hpoint, hproducer, -, hspan, -⟩ :=
    refused_iff_made_up SegmentMap.build_sample
  have hregion : (⟨10, 30, "Debug"⟩ : Region) ∈ SegmentMap.sample.regions.toList := by decide
  have hsegment : (⟨0, 10, 0, 10⟩ : Segment) ∈ SegmentMap.sample.segments.toList := by decide
  have hfits : ∀ s ∈ SegmentMap.sample.segments.toList, s.reach .expanded 5 ≤ Offset.last.val := by decide
  refine ⟨SegmentMap.build_sample, ?_, ?_, ?_, ?_, ?_, ?_⟩
  · exact (hstart 10).mpr ⟨_, hregion, by decide⟩
  · exact (hstop 30).mpr ⟨_, hregion, by decide⟩
  · intro hnone
    exact ((hpoint 10).mp hnone).2 _ hsegment (by decide)
  · exact (hpoint 20).mpr ⟨⟨_, hregion, by decide⟩, by decide⟩
  · exact (hproducer 10 _ hregion (by decide)).1
  · refine (hspan ⟨5, 10⟩).mpr (Or.inr ⟨by decide, ⟨_, hregion, by decide⟩, ?_⟩)
    rintro ⟨s, hs, hreach⟩
    exact absurd (hfits s hs.mem) (Nat.not_le.mpr hreach)

/-- A segment whose source run begins just below the largest offset, and a region behind it. -/
def SegmentMap.farSample : SegmentMap :=
  ⟨#[⟨18446744073709551614, 18446744073709551615, 0, 10⟩], #[⟨10, 20, "Debug"⟩]⟩

/-- A span is not always refused where its last byte is made up: here the lookup of its start
overflows in the segment, and the region at its end is never asked for. -/
theorem refusal_lost_to_overflow :
    SegmentMap.build [⟨18446744073709551614, 18446744073709551615, 0, 10⟩] [⟨10, 20, "Debug"⟩] =
        .ok SegmentMap.farSample ∧
      ¬ ((Mapper.segments SegmentMap.farSample).spanToSource ⟨5, 10⟩ = .ok none ↔
        (∃ r ∈ SegmentMap.farSample.regions.toList, r.HasByte 5) ∨
          0 < (10 : Offset).val ∧ ∃ r ∈ SegmentMap.farSample.regions.toList,
            r.HasByte ((⟨5, 10⟩ : Span).stop.minus 1)) := by
  have hbuild : SegmentMap.build [⟨18446744073709551614, 18446744073709551615, 0, 10⟩]
      [⟨10, 20, "Debug"⟩] = .ok SegmentMap.farSample := by decide +kernel
  have hfails : (Mapper.segments SegmentMap.farSample).spanToSource ⟨5, 10⟩ = .error .sum := by
    decide +kernel
  refine ⟨hbuild, ?_⟩
  rw [hfails]
  intro hiff
  have hrefused := hiff.mpr (Or.inr ⟨by decide, ⟨10, 20, "Debug"⟩, by decide, by decide⟩)
  cases hrefused

end Palimpsest.Mapping
