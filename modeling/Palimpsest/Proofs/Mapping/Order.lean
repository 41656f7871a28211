import Palimpsest.Proofs.Mapping.Refusal

/-!
# In which order a report lists its runs

Building a map sorts the segments and regions of a report. Segments are sorted by their runs in the
expanded text only, and those that have the same run there stay in the order in which they were
listed. Whether neighbours follow each other in the source is asked afterwards.

1. `filter_mergeSort`: sorting leaves items that it cannot tell apart in their order.
2. `Compatible`: what an accepted report is like in any order, and `TiesInOrder`: what is asked of
   the order.
3. `accepted_iff`: a report is accepted exactly if both hold.
4. `segments_eq_of_perm` and `regionAt?_eq_of_perm`: the maps of two orders of a report have the
   same segments, and the same region at every offset.
5. `order_matters_among_ties`: what follows for accepting a report and for every lookup.

Segments with the same run in the expanded text are empty there wherever a report is accepted: they
are source text that was taken out. `swapped_ties_refused` is a report that is refused for no other
reason than that it lists two of them the wrong way round.
-/

namespace Palimpsest.Mapping

/-! ## Items that sorting cannot tell apart -/

theorem filter_mergeSort {α : Type} {order : α → α → Bool}
    (htrans : ∀ a b c, order a b = true → order b c = true → order a c = true)
    (htotal : ∀ a b, (order a b || order b a) = true) {test : α → Bool}
    (hties : ∀ a b, test a = true → test b = true → order a b = true) (items : List α) :
    (items.mergeSort order).filter test = items.filter test := by
  have hsorted : (items.filter test).Pairwise fun a b => order a b = true := by
    refine List.pairwise_of_forall_mem_list ?_
    intro a ha b hb
    exact hties a b (List.mem_filter.mp ha).2 (List.mem_filter.mp hb).2
  have hkept : (items.filter test).Sublist (items.mergeSort order) :=
    List.sublist_mergeSort htrans htotal hsorted List.filter_sublist
  have hsub : (items.filter test).Sublist ((items.mergeSort order).filter test) := by
    simpa using hkept.filter test
  -- both have all items that pass the test, so neither has more than the other
  have hlength := ((List.mergeSort_perm items order).filter test).length_eq
  exact (hsub.eq_of_length hlength.symm).symm

/-- The two segments have the same run in the expanded text. -/
def Segment.Ties (a b : Segment) : Prop :=
  a.expandedStart = b.expandedStart ∧ a.expandedStop = b.expandedStop

instance (a b : Segment) : Decidable (a.Ties b) := inferInstanceAs (Decidable (_ ∧ _))

/-- Segments with the same run in the expanded text are listed in the order of the source. -/
def TiesInOrder (segments : List Segment) : Prop :=
  segments.Pairwise fun a b => a.Ties b → a.sourceStop ≤ b.sourceStart

instance (segments : List Segment) : Decidable (TiesInOrder segments) :=
  inferInstanceAs (Decidable (List.Pairwise _ _))

theorem tiesInOrder_iff {segments : List Segment} :
    TiesInOrder segments ↔ ∀ first : Segment,
      (segments.filter fun s => decide (first.Ties s)).Pairwise fun a b =>
        a.sourceStop ≤ b.sourceStart := by
  constructor
  · intro h first
    refine (h.filter _).imp_of_mem ?_
    intro a b ha hb hab
    have hfa : first.Ties a := of_decide_eq_true (List.mem_filter.mp ha).2
    have hfb : first.Ties b := of_decide_eq_true (List.mem_filter.mp hb).2
    exact hab ⟨hfa.1.symm.trans hfb.1, hfa.2.symm.trans hfb.2⟩
  · intro h
    refine List.pairwise_iff_forall_sublist.mpr ?_
    intro a b hsub hties
    have hself : a.Ties a := ⟨rfl, rfl⟩
    have hpair := hsub.filter fun s => decide (a.Ties s)
    rw [List.filter_cons_of_pos (by simpa using hself), List.filter_cons_of_pos (by simpa using hties),
      List.filter_nil] at hpair
    exact List.rel_of_pairwise_cons ((h a).sublist hpair) (List.mem_singleton_self b)

theorem tiesInOrder_mergeSort (segments : List Segment) :
    TiesInOrder (segments.mergeSort SegmentMap.segmentOrder) ↔ TiesInOrder segments := by
  have hties : ∀ first a b : Segment, decide (first.Ties a) = true →
      decide (first.Ties b) = true → SegmentMap.segmentOrder a b = true := by
    intro first a b ha hb
    have hfa : first.Ties a := of_decide_eq_true ha
    have hfb : first.Ties b := of_decide_eq_true hb
    rw [SegmentMap.segmentOrder_iff]
    exact Or.inr ⟨hfa.1.symm.trans hfb.1, Fin.le_of_eq (hfa.2.symm.trans hfb.2)⟩
  have hfilter : ∀ first : Segment,
      (segments.mergeSort SegmentMap.segmentOrder).filter (fun s => decide (first.Ties s)) =
        segments.filter fun s => decide (first.Ties s) :=
    fun first => filter_mergeSort (SegmentMap.order_trans SegmentMap.segmentOrder_iff)
      (SegmentMap.order_total SegmentMap.segmentOrder_iff) (hties first) segments
  simp only [tiesInOrder_iff, hfilter]

/-! ## What is asked of a report -/

/-- In any order of the report: no run is inverted, of two segments one comes before the other in
both texts, of two regions one comes before the other, and no region has a byte of a segment. -/
structure Compatible (segments : List Segment) (regions : List Region) : Prop where
  segments_upright : ∀ s ∈ segments, s.Upright
  regions_upright : ∀ r ∈ regions, r.Upright
  segments_follow : segments.Pairwise fun a b => a.Before b ∨ b.Before a
  regions_follow : regions.Pairwise fun a b => a.Before b ∨ b.Before a
  apart : ∀ r ∈ regions, ∀ s ∈ segments, ∀ byte, ¬ (r.HasByte byte ∧ s.HasByte .expanded byte)

def Accepted (segments : List Segment) (regions : List Region) : Prop :=
  ∃ m, SegmentMap.build segments regions = .ok m

section Rearranged

variable {segments segments' : List Segment} {regions regions' : List Region}

theorem Compatible.perm (h : Compatible segments regions) (hsegments : segments'.Perm segments)
    (hregions : regions'.Perm regions) : Compatible segments' regions' := by
  refine ⟨?_, ?_, ?_, ?_, ?_⟩
  · intro s hs
    exact h.segments_upright s (hsegments.mem_iff.mp hs)
  · intro r hr
    exact h.regions_upright r (hregions.mem_iff.mp hr)
  · exact (hsegments.pairwise_iff fun hab => hab.symm).mpr h.segments_follow
  · exact (hregions.pairwise_iff fun hab => hab.symm).mpr h.regions_follow
  · intro r hr s hs
    exact h.apart r (hregions.mem_iff.mp hr) s (hsegments.mem_iff.mp hs)

theorem compatible_perm_iff (hsegments : segments'.Perm segments) (hregions : regions'.Perm regions) :
    Compatible segments' regions' ↔ Compatible segments regions :=
  ⟨fun h => h.perm hsegments.symm hregions.symm, fun h => h.perm hsegments hregions⟩

end Rearranged

/-- Of two sorted segments that follow each other in one way or the other, the first comes first. Only
where they have the same run in the expanded text does the source decide. -/
theorem Segment.before_of_order {a b : Segment} (ha : a.Upright) (hb : b.Upright)
    (horder : SegmentMap.segmentOrder a b = true) (hties : a.Ties b → a.sourceStop ≤ b.sourceStart)
    (hapart : a.Before b ∨ b.Before a) : a.Before b := by
  rcases hapart with hab | hba
  · exact hab
  · have hexpanded : b.expandedStop ≤ a.expandedStart := hba .expanded
    have harun : a.expandedStart ≤ a.expandedStop := ha .expanded
    have hbrun : b.expandedStart ≤ b.expandedStop := hb .expanded
    rw [SegmentMap.segmentOrder_iff] at horder
    simp only [Fin.le_def, Fin.lt_def, Fin.ext_iff] at hexpanded harun hbrun horder
    intro side
    cases side with
    | source => exact hties ⟨Fin.ext (by omega), Fin.ext (by omega)⟩
    | expanded =>
      show a.expandedStop ≤ b.expandedStart
      rw [Fin.le_def]
      omega

theorem Region.before_of_order {a b : Region} (hb : b.Upright)
    (horder : SegmentMap.regionOrder a b = true) (hapart : a.Before b ∨ b.Before a) :
    a.Before b := by
  rcases hapart with hab | hba
  · exact hab
  · rw [SegmentMap.regionOrder_iff] at horder
    simp only [Region.Before, Region.Upright, Fin.le_def, Fin.lt_def, Fin.ext_iff] at *
    omega

namespace SegmentMap

variable {segments : List Segment} {regions : List Region} {m : SegmentMap}

theorem segmentFault?_of_follow (h : segments.Pairwise Segment.Before) :
    segmentFault? segments = none := by
  cases hfault : segmentFault? segments with
  | none => rfl
  | some fault =>
    obtain ⟨first, second, hsub, hcases⟩ := segmentFault?_eq_some hfault
    have hbefore := List.pairwise_pair.mp (h.sublist hsub)
    rcases hcases with ⟨-, hover⟩ | ⟨-, -, hcross⟩
    · exact absurd (hbefore .expanded) (Fin.not_le.mpr hover)
    · exact absurd (hbefore .source) (Fin.not_le.mpr hcross)

theorem regionFault?_of_follow (h : regions.Pairwise Region.Before) :
    regionFault? regions = none := by
  cases hfault : regionFault? regions with
  | none => rfl
  | some fault =>
    obtain ⟨first, second, hsub, -, hover⟩ := regionFault?_eq_some hfault
    exact absurd (List.pairwise_pair.mp (h.sublist hsub)) (Fin.not_le.mpr hover)

theorem crossFault?_of_apart (hup : ∀ s ∈ segments, s.Upright)
    (hfollow : segments.Pairwise Segment.Before)
    (hapart : ∀ r ∈ regions, ∀ s ∈ segments, ∀ byte,
      ¬ (r.HasByte byte ∧ s.HasByte .expanded byte)) :
    crossFault? segments.toArray regions = none := by
  cases hfault : crossFault? segments.toArray regions with
  | none => rfl
  | some fault =>
    obtain ⟨r, hr, s, hoccupied, hunder, -⟩ := crossFault?_eq_some hfault
    obtain ⟨hs, byte, hshared⟩ := segmentUnder?_eq_some hup hfollow hoccupied hunder
    exact absurd hshared (hapart r hr s hs byte)

theorem build_eq_sorted (h : build segments regions = .ok m) :
    m = ⟨(segments.mergeSort segmentOrder).toArray, (regions.mergeSort regionOrder).toArray⟩ := by
  have hbuilt := built segments regions
  rw [h] at hbuilt
  cases hbuilt with
  | map => rfl

/-- Segments that go together follow each other when they are sorted, if ties are in order. -/
theorem sortedSegments_follow_of_compatible (h : Compatible segments regions)
    (hties : TiesInOrder segments) :
    (segments.mergeSort segmentOrder).Pairwise Segment.Before := by
  have hperm := List.mergeSort_perm segments segmentOrder
  have hup := sortedSegments_upright h.segments_upright
  have horder := pairwise_mergeSort_order segmentOrder_iff segments
  have hsortedTies : TiesInOrder (segments.mergeSort segmentOrder) :=
    (tiesInOrder_mergeSort segments).mpr hties
  have hapart := (h.perm hperm (List.Perm.refl regions)).segments_follow
  refine ((horder.and hsortedTies).and hapart).imp_of_mem ?_
  rintro a b ha hb ⟨⟨hab, htie⟩, hway⟩
  exact Segment.before_of_order (hup a ha) (hup b hb) hab htie hway

theorem sortedRegions_follow_of_compatible (h : Compatible segments regions) :
    (regions.mergeSort regionOrder).Pairwise Region.Before := by
  have hperm := List.mergeSort_perm regions regionOrder
  have hup := sortedRegions_upright h.regions_upright
  have horder := pairwise_mergeSort_order regionOrder_iff regions
  have hapart := (h.perm (List.Perm.refl segments) hperm).regions_follow
  refine (horder.and hapart).imp_of_mem ?_
  rintro a b - hb ⟨hab, hway⟩
  exact Region.before_of_order (hup b hb) hab hway

theorem compatible_of_build (h : build segments regions = .ok m) : Compatible segments regions := by
  have hm := build_wellFormed h
  obtain ⟨hsegments, hregions⟩ := build_perm h
  have hmap : Compatible m.segments.toList m.regions.toList :=
    ⟨hm.segments_upright, hm.regions_upright, hm.segments_follow.imp Or.inl,
      hm.regions_follow.imp Or.inl, hm.apart⟩
  exact hmap.perm hsegments.symm hregions.symm

theorem tiesInOrder_of_build (h : build segments regions = .ok m) : TiesInOrder segments := by
  have hfollow := (build_wellFormed h).segments_follow
  rw [build_eq_sorted h] at hfollow
  have hsorted : TiesInOrder (segments.mergeSort segmentOrder) :=
    hfollow.imp fun hab _ => hab .source
  exact (tiesInOrder_mergeSort segments).mp hsorted

/-- **Which reports are accepted**: those that are compatible in any order, with ties in order. -/
theorem accepted_iff : Accepted segments regions ↔
    Compatible segments regions ∧ TiesInOrder segments := by
  constructor
  · rintro ⟨m, h⟩
    exact ⟨compatible_of_build h, tiesInOrder_of_build h⟩
  · rintro ⟨hcompatible, hties⟩
    have hup := sortedSegments_upright hcompatible.segments_upright
    have hfollow := sortedSegments_follow_of_compatible hcompatible hties
    have hsorted := hcompatible.perm (List.mergeSort_perm segments segmentOrder)
      (List.mergeSort_perm regions regionOrder)
    have hinverted : segments.findIdx? Segment.isInverted = none := by
      rw [List.findIdx?_eq_none_iff]
      intro s hs
      exact Segment.isInverted_eq_false_iff.mpr (hcompatible.segments_upright s hs)
    have hinverted' : regions.findIdx? Region.isInverted = none := by
      rw [List.findIdx?_eq_none_iff]
      intro r hr
      exact Region.isInverted_eq_false_iff.mpr (hcompatible.regions_upright r hr)
    refine ⟨⟨(segments.mergeSort segmentOrder).toArray, (regions.mergeSort regionOrder).toArray⟩, ?_⟩
    simp only [build, hinverted, hinverted', segmentFault?_of_follow hfollow,
      regionFault?_of_follow (sortedRegions_follow_of_compatible hcompatible),
      crossFault?_of_apart hup hfollow hsorted.apart]

end SegmentMap

/-! ## The maps of two orders -/

namespace SegmentMap

variable {segments segments' : List Segment} {regions regions' : List Region} {m m' : SegmentMap}

theorem segments_eq_of_perm (hm : m.WellFormed) (hm' : m'.WellFormed)
    (h : m'.segments.toList.Perm m.segments.toList) : m'.segments = m.segments := by
  apply Array.toList_inj.mp
  refine h.eq_of_pairwise ?_ hm'.segments_follow hm.segments_follow
  intro a b ha hb hab hba
  exact hab.antisymm hba (hm'.segments_upright a ha) (hm.segments_upright b hb)

theorem WellFormed.covers_unique (hm : m.WellFormed) {r r' : Region} (hr : r ∈ m.regions.toList)
    (hr' : r' ∈ m.regions.toList) {bias : Bias} {pos : Offset} (h : r.Covers bias pos)
    (h' : r'.Covers bias pos) : r' = r := by
  cases bias with
  | start => exact hm.hasByte_unique hr hr' h h'
  | stop =>
    exact hm.hasByte_unique hr hr' (Region.covers_stop_iff.mp h).2 (Region.covers_stop_iff.mp h').2

theorem WellFormed.regionAt?_eq_some_iff (hm : m.WellFormed) {bias : Bias} {pos : Offset}
    {r : Region} : m.regionAt? bias pos = some r ↔ r ∈ m.regions.toList ∧ r.Covers bias pos := by
  constructor
  · exact regionAt?_eq_some
  · rintro ⟨hr, hcovers⟩
    obtain ⟨found, hfound⟩ := Option.isSome_iff_exists.mp
      (regionAt?_isSome_iff.mpr ⟨r, hr, hcovers⟩)
    obtain ⟨hmem, hfoundCovers⟩ := regionAt?_eq_some hfound
    rw [hfound, hm.covers_unique hr hmem hcovers hfoundCovers]

/-- Regions may stand in several orders, if some are empty, but one at most covers an offset. -/
theorem regionAt?_eq_of_perm (hm : m.WellFormed) (hm' : m'.WellFormed)
    (h : m'.regions.toList.Perm m.regions.toList) (bias : Bias) (pos : Offset) :
    m'.regionAt? bias pos = m.regionAt? bias pos := by
  apply Option.ext
  intro r
  rw [hm'.regionAt?_eq_some_iff, hm.regionAt?_eq_some_iff, h.mem_iff]

end SegmentMap

/-- The two mappers answer every question alike. -/
structure Mapper.Agree (a b : Mapper) : Prop where
  toExpanded : ∀ bias pos, a.toExpanded bias pos = b.toExpanded bias pos
  toSource : ∀ bias pos, a.toSource bias pos = b.toSource bias pos
  pointToExpanded : ∀ pos, a.pointToExpanded pos = b.pointToExpanded pos
  pointToSource : ∀ pos, a.pointToSource pos = b.pointToSource pos
  producerAt? : ∀ pos, a.producerAt? pos = b.producerAt? pos
  spanToExpanded : ∀ span, a.spanToExpanded span = b.spanToExpanded span
  spanToSource : ∀ span, a.spanToSource span = b.spanToSource span

theorem SegmentMap.agree {m m' : SegmentMap} (hsegments : m'.segments = m.segments)
    (hregion : ∀ bias pos, m'.regionAt? bias pos = m.regionAt? bias pos) :
    (Mapper.segments m').Agree (Mapper.segments m) := by
  have hlocate : ∀ side bias pos, m'.locate side bias pos = m.locate side bias pos := by
    intro side bias pos
    rw [locate, locate, hsegments]
  have hpast : ∀ side pos, m'.extrapolate side pos = m.extrapolate side pos := by
    intro side pos
    rw [extrapolate, extrapolate, hsegments]
  have hexpanded : ∀ bias pos, m'.toExpanded bias pos = m.toExpanded bias pos := by
    intro bias pos
    simp only [toExpanded, hlocate, hpast]
  have hsource : ∀ bias pos, m'.toSource bias pos = m.toSource bias pos := by
    intro bias pos
    simp only [toSource, hlocate, hpast, hregion]
  refine ⟨hexpanded, hsource, hexpanded .start, ?_, ?_, ?_, ?_⟩
  · intro pos
    simp only [Mapper.pointToSource, pointToSource, hlocate, hpast, hregion]
  · intro pos
    simp only [Mapper.producerAt?, hregion]
  · intro span
    simp only [Mapper.spanToExpanded, Mapper.toExpanded, hexpanded]
  · intro span
    simp only [Mapper.spanToSource, Mapper.toSource, hsource]

/-- **The order of a report matters among ties only.** For any two orders of the segments and regions
of a report:

1. whether one of them is accepted depends on the order in no other way than by its ties: where those
   are in order, the report is accepted exactly if it is compatible, which no order changes;
2. so if one is accepted, the other is exactly if its ties are in order too;
3. and two orders in which ties are in order, such as any two orders without ties, are both accepted
   or both refused;
4. if both are accepted, the two maps answer every question alike. -/
theorem order_matters_among_ties {segments segments' : List Segment} {regions regions' : List Region}
    (hsegments : segments'.Perm segments) (hregions : regions'.Perm regions) :
    (Accepted segments' regions' ↔ Compatible segments regions ∧ TiesInOrder segments') ∧
      (Accepted segments regions → (Accepted segments' regions' ↔ TiesInOrder segments')) ∧
      (TiesInOrder segments → TiesInOrder segments' →
        (Accepted segments regions ↔ Accepted segments' regions')) ∧
      ∀ m m', SegmentMap.build segments regions = .ok m →
        SegmentMap.build segments' regions' = .ok m' →
        (Mapper.segments m').Agree (Mapper.segments m) := by
  have hother : Accepted segments' regions' ↔ Compatible segments regions ∧ TiesInOrder segments' := by
    rw [SegmentMap.accepted_iff, compatible_perm_iff hsegments hregions]
  refine ⟨hother, ?_, ?_, ?_⟩
  · intro haccepted
    rw [hother, and_iff_right (SegmentMap.accepted_iff.mp haccepted).1]
  · intro hties hties'
    rw [hother, SegmentMap.accepted_iff, and_iff_left hties, and_iff_left hties']
  · intro m m' h h'
    have hm := SegmentMap.build_wellFormed h
    have hm' := SegmentMap.build_wellFormed h'
    obtain ⟨hs, hr⟩ := SegmentMap.build_perm h
    obtain ⟨hs', hr'⟩ := SegmentMap.build_perm h'
    exact SegmentMap.agree
      (SegmentMap.segments_eq_of_perm hm hm' (hs'.trans (hsegments.trans hs.symm)))
      (SegmentMap.regionAt?_eq_of_perm hm hm' (hr'.trans (hregions.trans hr.symm)))

/-- Two stretches of source text that were taken out at one place, and one that was kept. -/
def strippedSegments : List Segment := [⟨0, 5, 10, 10⟩, ⟨5, 8, 10, 10⟩, ⟨8, 20, 10, 22⟩]

/-- A region behind them, and an empty one at its start. -/
def strippedRegions : List Region := [⟨22, 30, "A"⟩, ⟨22, 22, "B"⟩]

theorem strippedSegments_accepted : Accepted strippedSegments strippedRegions := by
  refine ⟨⟨strippedSegments.toArray, strippedRegions.reverse.toArray⟩, ?_⟩
  cbv

/-- The segment that was kept may as well be listed first, and the regions the other way round. -/
theorem stripped_rearranged :
    [⟨8, 20, 10, 22⟩, ⟨0, 5, 10, 10⟩, ⟨5, 8, 10, 10⟩].Perm strippedSegments ∧
      strippedRegions.reverse.Perm strippedRegions ∧
      Accepted [⟨8, 20, 10, 22⟩, ⟨0, 5, 10, 10⟩, ⟨5, 8, 10, 10⟩] strippedRegions.reverse := by
  have hsegments : [⟨8, 20, 10, 22⟩, ⟨0, 5, 10, 10⟩, ⟨5, 8, 10, 10⟩].Perm strippedSegments := by
    decide
  have hregions : strippedRegions.reverse.Perm strippedRegions := List.reverse_perm _
  obtain ⟨-, hexact, -, -⟩ := order_matters_among_ties hsegments hregions
  exact ⟨hsegments, hregions, (hexact strippedSegments_accepted).mpr (by decide)⟩

/-- The two stretches that were taken out, listed the other way round: the same segments in another
order, and the report is refused. -/
theorem swapped_ties_refused :
    [⟨5, 8, 10, 10⟩, ⟨0, 5, 10, 10⟩].Perm [(⟨0, 5, 10, 10⟩ : Segment), ⟨5, 8, 10, 10⟩] ∧
      Accepted [⟨0, 5, 10, 10⟩, ⟨5, 8, 10, 10⟩] [] ∧
      ¬ Accepted [⟨5, 8, 10, 10⟩, ⟨0, 5, 10, 10⟩] [] := by
  refine ⟨List.Perm.swap .., ⟨⟨#[⟨0, 5, 10, 10⟩, ⟨5, 8, 10, 10⟩], #[]⟩, by cbv⟩, ?_⟩
  intro haccepted
  exact absurd (SegmentMap.accepted_iff.mp haccepted).2 (by decide)

end Palimpsest.Mapping
