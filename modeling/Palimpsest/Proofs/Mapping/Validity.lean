import Mathlib.Data.List.Permutation
import Palimpsest.Mapping.SegmentMap
import Palimpsest.Proofs.Bisect

/-!
# What building a segment map checks

`SegmentMap.build` sorts a report and then compares neighbours only; regions are held against the
segments that a bisection finds. This module says what an accepted report is and what a refused one
has wrong with it, without sorting, neighbours or bisection.

1. `SegmentMap.WellFormed`: no run is inverted, segments follow each other in both texts, regions
   follow each other, and no region has a byte of a segment.
2. `Fault.Holds`: what a fault says about the report in which it was found.
3. `build_wellFormed` and `build_perm`: an accepted report is a well-formed map of just the
   segments and regions that were listed.
4. `build_sound`: accepted reports are well-formed, and the fault of a refused one holds.
-/

namespace Palimpsest.Mapping

namespace Segment

def Upright (s : Segment) : Prop := ∀ side, s.start side ≤ s.stop side

/-- In both texts the first segment has ended where the second begins. -/
def Before (a b : Segment) : Prop := ∀ side, a.stop side ≤ b.start side

/-- The run of the segment in one of the texts has a byte. -/
def HasByte (s : Segment) (side : Side) (byte : Offset) : Prop :=
  s.start side ≤ byte ∧ byte < s.stop side

instance (s : Segment) (side : Side) (byte : Offset) : Decidable (s.HasByte side byte) :=
  inferInstanceAs (Decidable (_ ∧ _))

theorem isInverted_eq_false_iff {s : Segment} : s.isInverted = false ↔ s.Upright := by
  simp only [isInverted, Bool.or_eq_false_iff, decide_eq_false_iff_not, Fin.not_lt]
  constructor
  · rintro ⟨hsource, hexpanded⟩ side
    cases side
    · exact hsource
    · exact hexpanded
  · intro h
    exact ⟨h .source, h .expanded⟩

theorem Before.trans {a b c : Segment} (hab : a.Before b) (hb : b.Upright) (hbc : b.Before c) :
    a.Before c :=
  fun side => Fin.le_trans (hab side) (Fin.le_trans (hb side) (hbc side))

end Segment

namespace Region

def Upright (r : Region) : Prop := r.start ≤ r.stop

/-- The first region has ended where the second begins. -/
def Before (a b : Region) : Prop := a.stop ≤ b.start

def HasByte (r : Region) (byte : Offset) : Prop := r.start ≤ byte ∧ byte < r.stop

instance (r : Region) (byte : Offset) : Decidable (r.HasByte byte) :=
  inferInstanceAs (Decidable (_ ∧ _))

theorem isInverted_eq_false_iff {r : Region} : r.isInverted = false ↔ r.Upright := by
  simp only [isInverted, decide_eq_false_iff_not, Fin.not_lt]
  rfl

theorem Before.trans {a b c : Region} (hab : a.Before b) (hb : b.Upright) (hbc : b.Before c) :
    a.Before c :=
  Fin.le_trans hab (Fin.le_trans hb hbc)

theorem isOccupied_of_hasByte {r : Region} {byte : Offset} (h : r.HasByte byte) :
    r.isOccupied = true := by
  simp only [isOccupied, decide_eq_true_eq]
  exact Fin.lt_of_le_of_lt h.1 h.2

end Region

namespace SegmentMap

/-- Segments and regions fit together. -/
structure WellFormed (m : SegmentMap) : Prop where
  segments_upright : ∀ s ∈ m.segments.toList, s.Upright
  segments_follow : m.segments.toList.Pairwise Segment.Before
  regions_upright : ∀ r ∈ m.regions.toList, r.Upright
  regions_follow : m.regions.toList.Pairwise Region.Before
  apart : ∀ r ∈ m.regions.toList, ∀ s ∈ m.segments.toList, ∀ byte,
    ¬ (r.HasByte byte ∧ s.HasByte .expanded byte)

end SegmentMap

/-- The index is the first one at which an item is bad. -/
def FirstBad {α : Type} (bad : α → Prop) (items : List α) (index : Nat) : Prop :=
  (∃ item, items[index]? = some item ∧ bad item) ∧
    ∀ i item, i < index → items[i]? = some item → ¬ bad item

/-- Two of the items, at different places of the list. -/
def Two {α : Type} (items : List α) (a b : α) : Prop := ∃ others, items.Perm (a :: b :: others)

/-- What a fault says about the segments and regions in which it was found. -/
def Fault.Holds (segments : List Segment) (regions : List Region) : Fault → Prop
  | invertedSegment index => FirstBad (fun s => ¬ s.Upright) segments index
  | invertedRegion index => FirstBad (fun r => ¬ r.Upright) regions index
  | overlappingSegments first second =>
    Two segments first second ∧
      first.expandedStart ≤ second.expandedStart ∧ second.expandedStart < first.expandedStop
  | disorderedSegments first second =>
    Two segments first second ∧
      first.expandedStop ≤ second.expandedStart ∧ second.sourceStart < first.sourceStop
  | overlappingRegions start stop =>
    ∃ first second, Two regions first second ∧ second.start = start ∧ second.stop = stop ∧
      first.start ≤ start ∧ start < first.stop
  | regionOverSegment start stop segment =>
    segment ∈ segments ∧ ∃ r ∈ regions, r.start = start ∧ r.stop = stop ∧
      ∃ byte, r.HasByte byte ∧ segment.HasByte .expanded byte

/-! ## Neighbours and pairs -/

theorem pairwise_of_neighbours {α : Type} {rel : α → α → Prop} {good : α → Prop}
    (carry : ∀ a b c, rel a b → good b → rel b c → rel a c) :
    ∀ items : List α, (∀ item ∈ items, good item) → items.IsChain rel → items.Pairwise rel
  | [], _, _ => List.Pairwise.nil
  | [a], _, _ => List.pairwise_singleton rel a
  | a :: b :: rest, hgood, hchain => by
    obtain ⟨hab, htail⟩ := List.isChain_cons_cons.mp hchain
    have hgood' : ∀ item ∈ b :: rest, good item :=
      fun item hitem => hgood item (List.mem_cons_of_mem a hitem)
    have hpairs := pairwise_of_neighbours carry (b :: rest) hgood' htail
    refine List.pairwise_cons.mpr ⟨?_, hpairs⟩
    intro c hc
    rcases List.mem_cons.mp hc with rfl | hc
    · exact hab
    · exact carry a b c hab (hgood' b List.mem_cons_self) (List.rel_of_pairwise_cons hpairs hc)

theorem rel_or_rel_of_pairwise {α : Type} {rel : α → α → Prop} {items : List α}
    (h : items.Pairwise rel) {a b : α} (ha : a ∈ items) (hb : b ∈ items) :
    a = b ∨ rel a b ∨ rel b a := by
  obtain ⟨i, hi, rfl⟩ := List.getElem_of_mem ha
  obtain ⟨j, hj, rfl⟩ := List.getElem_of_mem hb
  have hpairs := List.pairwise_iff_getElem.mp h
  rcases Nat.lt_trichotomy i j with hlt | rfl | hgt
  · exact Or.inr (Or.inl (hpairs i j hi hj hlt))
  · exact Or.inl rfl
  · exact Or.inr (Or.inr (hpairs j i hj hi hgt))

theorem two_of_sublist {α : Type} {a b : α} {arranged items : List α}
    (h : [a, b].Sublist arranged) (hperm : arranged.Perm items) : Two items a b := by
  obtain ⟨others, hothers⟩ := h.exists_perm_append
  exact ⟨others, hperm.symm.trans hothers⟩

theorem firstBad_of_findIdx? {α : Type} {test : α → Bool} {bad : α → Prop}
    (htest : ∀ item, test item = false ↔ ¬ bad item) {items : List α} {index : Nat}
    (h : items.findIdx? test = some index) : FirstBad bad items index := by
  obtain ⟨hlt, hfound, hbefore⟩ := List.findIdx?_eq_some_iff_getElem.mp h
  refine ⟨⟨items[index], List.getElem?_eq_getElem hlt, ?_⟩, ?_⟩
  · by_contra hgood
    rw [(htest _).mpr hgood] at hfound
    cases hfound
  · intro i item hi hitem
    obtain ⟨hi', rfl⟩ := List.getElem?_eq_some_iff.mp hitem
    exact (htest _).mp (by simpa using hbefore i hi)

namespace SegmentMap

/-! ## Sorting -/

section Sorting

variable {α : Type} {start stop : α → Offset} {order : α → α → Bool}
  (horder : ∀ a b, order a b = true ↔ start a < start b ∨ start a = start b ∧ stop a ≤ stop b)

include horder

theorem order_trans (a b c : α) (hab : order a b = true) (hbc : order b c = true) :
    order a c = true := by
  rw [horder] at hab hbc ⊢
  simp only [Fin.lt_def, Fin.le_def, Fin.ext_iff] at hab hbc ⊢
  omega

theorem order_total (a b : α) : (order a b || order b a) = true := by
  rw [Bool.or_eq_true, horder, horder]
  simp only [Fin.lt_def, Fin.le_def, Fin.ext_iff]
  omega

theorem pairwise_mergeSort_order (items : List α) :
    (items.mergeSort order).Pairwise fun a b => order a b = true :=
  List.pairwise_mergeSort (order_trans horder) (order_total horder) items

/-- Runs that are sorted by where they start, and by where they end among equal starts, are sorted
by where they start. -/
theorem pairwise_mergeSort_start (items : List α) :
    (items.mergeSort order).Pairwise fun a b => start a ≤ start b := by
  refine (pairwise_mergeSort_order horder items).imp ?_
  intro a b hab
  rcases (horder a b).mp hab with hlt | ⟨heq, -⟩
  · exact Fin.le_of_lt hlt
  · exact Fin.le_of_eq heq

end Sorting

theorem segmentOrder_iff (a b : Segment) :
    segmentOrder a b = true ↔ a.expandedStart < b.expandedStart ∨
      a.expandedStart = b.expandedStart ∧ a.expandedStop ≤ b.expandedStop := by
  simp [segmentOrder]

theorem regionOrder_iff (a b : Region) :
    regionOrder a b = true ↔ a.start < b.start ∨ a.start = b.start ∧ a.stop ≤ b.stop := by
  simp [regionOrder]

theorem pairwise_sortedSegments (segments : List Segment) :
    (segments.mergeSort segmentOrder).Pairwise fun a b => a.expandedStart ≤ b.expandedStart :=
  pairwise_mergeSort_start segmentOrder_iff segments

theorem pairwise_sortedRegions (regions : List Region) :
    (regions.mergeSort regionOrder).Pairwise fun a b => a.start ≤ b.start :=
  pairwise_mergeSort_start regionOrder_iff regions

/-! ## Neighbouring segments, neighbouring regions -/

theorem segmentFault?_eq_none {segments : List Segment} (h : segmentFault? segments = none) :
    segments.IsChain Segment.Before := by
  fun_induction segmentFault? segments with
  | case1 first second rest hover => cases h
  | case2 first second rest hover hcross => cases h
  | case3 first second rest hover hcross ih =>
    refine List.isChain_cons_cons.mpr ⟨?_, ih h⟩
    intro side
    cases side
    · exact Fin.not_lt.mp hcross
    · exact Fin.not_lt.mp hover
  | case4 segments hfew =>
    match segments, hfew with
    | [], _ => exact List.IsChain.nil
    | [a], _ => exact List.IsChain.singleton a
    | a :: b :: rest, hfew => exact absurd rfl (hfew a b rest)

theorem segmentFault?_eq_some {segments : List Segment} {fault : Fault}
    (h : segmentFault? segments = some fault) :
    ∃ first second, [first, second].Sublist segments ∧
      (fault = .overlappingSegments first second ∧ second.expandedStart < first.expandedStop ∨
        fault = .disorderedSegments first second ∧ first.expandedStop ≤ second.expandedStart ∧
          second.sourceStart < first.sourceStop) := by
  fun_induction segmentFault? segments with
  | case1 first second rest hover =>
    obtain rfl := Option.some.inj h
    exact ⟨first, second, by simp, Or.inl ⟨rfl, hover⟩⟩
  | case2 first second rest hover hcross =>
    obtain rfl := Option.some.inj h
    exact ⟨first, second, by simp, Or.inr ⟨rfl, Fin.not_lt.mp hover, hcross⟩⟩
  | case3 first second rest hover hcross ih =>
    obtain ⟨a, b, hab, hcases⟩ := ih h
    exact ⟨a, b, hab.cons first, hcases⟩
  | case4 segments hfew => cases h

theorem regionFault?_eq_none {regions : List Region} (h : regionFault? regions = none) :
    regions.IsChain Region.Before := by
  fun_induction regionFault? regions with
  | case1 first second rest hover => cases h
  | case2 first second rest hover ih =>
    exact List.isChain_cons_cons.mpr ⟨Fin.not_lt.mp hover, ih h⟩
  | case3 regions hfew =>
    match regions, hfew with
    | [], _ => exact List.IsChain.nil
    | [a], _ => exact List.IsChain.singleton a
    | a :: b :: rest, hfew => exact absurd rfl (hfew a b rest)

theorem regionFault?_eq_some {regions : List Region} {fault : Fault}
    (h : regionFault? regions = some fault) :
    ∃ first second, [first, second].Sublist regions ∧
      fault = .overlappingRegions second.start second.stop ∧ second.start < first.stop := by
  fun_induction regionFault? regions with
  | case1 first second rest hover =>
    obtain rfl := Option.some.inj h
    exact ⟨first, second, by simp, rfl, hover⟩
  | case2 first second rest hover ih =>
    obtain ⟨a, b, hab, hfault⟩ := ih h
    exact ⟨a, b, hab.cons first, hfault⟩
  | case3 regions hfew => cases h

/-! ## Regions over segments -/

section Order

variable {segments : List Segment} (hup : ∀ s ∈ segments, s.Upright)
  (hfollow : segments.Pairwise Segment.Before)

include hup hfollow

/-- Segments that follow each other are parted by any test of where they end that smaller offsets
pass too. -/
theorem parted_stop (side : Side) (test : Offset → Bool)
    (hdown : ∀ x y, x ≤ y → test y = true → test x = true) :
    Bisect.Parted (fun s => test (s.stop side)) segments := by
  refine hfollow.imp_of_mem ?_
  intro a b _ hb hab
  exact hdown _ _ (Fin.le_trans (hab side) (hup b hb side))

theorem parted_start (side : Side) (test : Offset → Bool)
    (hdown : ∀ x y, x ≤ y → test y = true → test x = true) :
    Bisect.Parted (fun s => test (s.start side)) segments := by
  refine hfollow.imp_of_mem ?_
  intro a b ha _ hab
  exact hdown _ _ (Fin.le_trans (hup a ha side) (hab side))

theorem segmentUnder?_eq_find? (region : Region) :
    segmentUnder? segments.toArray region =
      segments.find? fun s => decide (region.start < s.expandedStop) &&
        decide (s.expandedStart < region.stop) && decide (s.expandedStart < s.expandedStop) := by
  -- starts and ends both rise along the list, so each of the two tests parts it
  have hbelow : Bisect.Parted (fun s : Segment => decide (s.expandedStop ≤ region.start))
      segments.toArray.toList := by
    refine parted_stop hup hfollow .expanded (fun x => decide (x ≤ region.start)) ?_
    intro x y hxy hy
    simp only [decide_eq_true_eq] at hy ⊢
    exact Fin.le_trans hxy hy
  have hupto : Bisect.Parted (fun s : Segment => decide (s.expandedStart < region.stop))
      segments.toArray.toList := by
    refine parted_start hup hfollow .expanded (fun x => decide (x < region.stop)) ?_
    intro x y hxy hy
    simp only [decide_eq_true_eq] at hy ⊢
    exact Fin.lt_of_le_of_lt hxy hy
  unfold segmentUnder?
  rw [Bisect.takeWhile_rest hbelow hupto, List.find?_filter]
  congr 1
  funext s
  rw [Bool.eq_iff_iff]
  simp only [Bool.and_eq_true, Bool.not_eq_true', decide_eq_false_iff_not, decide_eq_true_eq,
    Fin.not_le]

theorem segmentUnder?_eq_none {region : Region}
    (h : segmentUnder? segments.toArray region = none) :
    ∀ s ∈ segments, ∀ byte, ¬ (region.HasByte byte ∧ s.HasByte .expanded byte) := by
  rw [segmentUnder?_eq_find? hup hfollow, List.find?_eq_none] at h
  rintro s hs byte ⟨⟨hrstart, hrstop⟩, hsstart, hsstop⟩
  apply h s hs
  simp only [Bool.and_eq_true, decide_eq_true_eq]
  exact ⟨⟨Fin.lt_of_le_of_lt hrstart hsstop, Fin.lt_of_le_of_lt hsstart hrstop⟩,
    Fin.lt_of_le_of_lt hsstart hsstop⟩

/-- A region with a byte shares one with the segment found under it: the later of the two starts. -/
theorem segmentUnder?_eq_some {region : Region} {segment : Segment}
    (hregion : region.isOccupied = true)
    (h : segmentUnder? segments.toArray region = some segment) :
    segment ∈ segments ∧ ∃ byte, region.HasByte byte ∧ segment.HasByte .expanded byte := by
  rw [segmentUnder?_eq_find? hup hfollow] at h
  have hfound := List.find?_some h
  simp only [Bool.and_eq_true, decide_eq_true_eq] at hfound
  obtain ⟨⟨hstop, hstart⟩, hsegment⟩ := hfound
  simp only [Region.isOccupied, decide_eq_true_eq] at hregion
  refine ⟨List.mem_of_find?_eq_some h, ?_⟩
  rcases Fin.le_total region.start segment.expandedStart with hle | hle
  · exact ⟨segment.expandedStart, ⟨hle, hstart⟩, Fin.le_refl _, hsegment⟩
  · exact ⟨region.start, ⟨Fin.le_refl _, hregion⟩, hle, hstop⟩

end Order

theorem crossFault?_eq_none {segments : Array Segment} {regions : List Region}
    (h : crossFault? segments regions = none) :
    ∀ r ∈ regions, r.isOccupied = true → segmentUnder? segments r = none := by
  fun_induction crossFault? segments regions with
  | case1 => simp
  | case2 region rest hoccupied segment hunder => cases h
  | case3 region rest hoccupied hunder ih =>
    intro r hr
    rcases List.mem_cons.mp hr with rfl | hr
    · intro _
      exact hunder
    · exact ih h r hr
  | case4 region rest hempty ih =>
    intro r hr
    rcases List.mem_cons.mp hr with rfl | hr
    · intro hoccupied
      exact absurd hoccupied hempty
    · exact ih h r hr

theorem crossFault?_eq_some {segments : Array Segment} {regions : List Region} {fault : Fault}
    (h : crossFault? segments regions = some fault) :
    ∃ r ∈ regions, ∃ segment, r.isOccupied = true ∧ segmentUnder? segments r = some segment ∧
      fault = .regionOverSegment r.start r.stop segment := by
  fun_induction crossFault? segments regions with
  | case1 => cases h
  | case2 region rest hoccupied segment hunder =>
    obtain rfl := Option.some.inj h
    exact ⟨region, List.mem_cons_self, segment, hoccupied, hunder, rfl⟩
  | case3 region rest hoccupied hunder ih =>
    obtain ⟨r, hr, hfound⟩ := ih h
    exact ⟨r, List.mem_cons_of_mem region hr, hfound⟩
  | case4 region rest hempty ih =>
    obtain ⟨r, hr, hfound⟩ := ih h
    exact ⟨r, List.mem_cons_of_mem region hr, hfound⟩

/-! ## Building -/

/-- Everything that building a map can end in. -/
inductive Built (segments : List Segment) (regions : List Region) :
    Except Fault SegmentMap → Prop where
  | invertedSegment {index : Nat} (h : segments.findIdx? Segment.isInverted = some index) :
    Built segments regions (.error (.invertedSegment index))
  | invertedRegion {index : Nat} (h : regions.findIdx? Region.isInverted = some index) :
    Built segments regions (.error (.invertedRegion index))
  | segmentFault {fault : Fault}
    (h : segmentFault? (segments.mergeSort segmentOrder) = some fault) :
    Built segments regions (.error fault)
  | regionFault {fault : Fault} (h : regionFault? (regions.mergeSort regionOrder) = some fault) :
    Built segments regions (.error fault)
  | crossFault {fault : Fault}
    (hsegments : ∀ s ∈ segments, s.Upright)
    (hneighbours : segmentFault? (segments.mergeSort segmentOrder) = none)
    (h : crossFault? (segments.mergeSort segmentOrder).toArray
      (regions.mergeSort regionOrder) = some fault) :
    Built segments regions (.error fault)
  | map
    (hsegments : ∀ s ∈ segments, s.Upright)
    (hregions : ∀ r ∈ regions, r.Upright)
    (hsegmentNeighbours : segmentFault? (segments.mergeSort segmentOrder) = none)
    (hregionNeighbours : regionFault? (regions.mergeSort regionOrder) = none)
    (hcross : crossFault? (segments.mergeSort segmentOrder).toArray
      (regions.mergeSort regionOrder) = none) :
    Built segments regions
      (.ok ⟨(segments.mergeSort segmentOrder).toArray, (regions.mergeSort regionOrder).toArray⟩)

theorem built (segments : List Segment) (regions : List Region) :
    Built segments regions (build segments regions) := by
  unfold build
  cases hs : segments.findIdx? Segment.isInverted with
  | some index => exact .invertedSegment hs
  | none =>
    have hsegments : ∀ s ∈ segments, s.Upright := fun s hmem =>
      Segment.isInverted_eq_false_iff.mp (List.findIdx?_eq_none_iff.mp hs s hmem)
    cases hr : regions.findIdx? Region.isInverted with
    | some index => exact .invertedRegion hr
    | none =>
      have hregions : ∀ r ∈ regions, r.Upright := fun r hmem =>
        Region.isInverted_eq_false_iff.mp (List.findIdx?_eq_none_iff.mp hr r hmem)
      dsimp only
      cases hsf : segmentFault? (segments.mergeSort segmentOrder) with
      | some fault => exact .segmentFault hsf
      | none =>
        cases hrf : regionFault? (regions.mergeSort regionOrder) with
        | some fault => exact .regionFault hrf
        | none =>
          cases hcf : crossFault? (segments.mergeSort segmentOrder).toArray
              (regions.mergeSort regionOrder) with
          | some fault => exact .crossFault hsegments hsf hcf
          | none => exact .map hsegments hregions hsf hrf hcf

theorem sortedSegments_upright {segments : List Segment} (hup : ∀ s ∈ segments, s.Upright) :
    ∀ s ∈ segments.mergeSort segmentOrder, s.Upright :=
  fun s hs => hup s (List.mem_mergeSort.mp hs)

theorem sortedSegments_follow {segments : List Segment} (hup : ∀ s ∈ segments, s.Upright)
    (h : segmentFault? (segments.mergeSort segmentOrder) = none) :
    (segments.mergeSort segmentOrder).Pairwise Segment.Before := by
  refine pairwise_of_neighbours ?_ _ (sortedSegments_upright hup) (segmentFault?_eq_none h)
  intro a b c hab hb hbc
  exact hab.trans hb hbc

theorem sortedRegions_upright {regions : List Region} (hup : ∀ r ∈ regions, r.Upright) :
    ∀ r ∈ regions.mergeSort regionOrder, r.Upright :=
  fun r hr => hup r (List.mem_mergeSort.mp hr)

theorem sortedRegions_follow {regions : List Region} (hup : ∀ r ∈ regions, r.Upright)
    (h : regionFault? (regions.mergeSort regionOrder) = none) :
    (regions.mergeSort regionOrder).Pairwise Region.Before := by
  refine pairwise_of_neighbours ?_ _ (sortedRegions_upright hup) (regionFault?_eq_none h)
  intro a b c hab hb hbc
  exact hab.trans hb hbc

section Accepted

variable {segments : List Segment} {regions : List Region} {m : SegmentMap}

theorem build_perm (h : build segments regions = .ok m) :
    m.segments.toList.Perm segments ∧ m.regions.toList.Perm regions := by
  have hbuilt := built segments regions
  rw [h] at hbuilt
  cases hbuilt with
  | map => exact ⟨List.mergeSort_perm segments _, List.mergeSort_perm regions _⟩

theorem build_wellFormed (h : build segments regions = .ok m) : m.WellFormed := by
  have hbuilt := built segments regions
  rw [h] at hbuilt
  cases hbuilt with
  | map hsegments hregions hsegmentNeighbours hregionNeighbours hcross =>
    have hup := sortedSegments_upright hsegments
    have hfollow := sortedSegments_follow hsegments hsegmentNeighbours
    refine ⟨hup, hfollow, sortedRegions_upright hregions,
      sortedRegions_follow hregions hregionNeighbours, ?_⟩
    intro r hr s hs byte hboth
    have hunder := crossFault?_eq_none hcross r hr (Region.isOccupied_of_hasByte hboth.1)
    exact segmentUnder?_eq_none hup hfollow hunder s hs byte hboth

theorem build_fault {fault : Fault} (h : build segments regions = .error fault) :
    fault.Holds segments regions := by
  have hsegmentPerm := List.mergeSort_perm segments segmentOrder
  have hregionPerm := List.mergeSort_perm regions regionOrder
  have hbuilt := built segments regions
  rw [h] at hbuilt
  cases hbuilt with
  | invertedSegment hindex =>
    exact firstBad_of_findIdx? (fun s => by simp [Segment.isInverted_eq_false_iff]) hindex
  | invertedRegion hindex =>
    exact firstBad_of_findIdx? (fun r => by simp [Region.isInverted_eq_false_iff]) hindex
  | segmentFault hfault =>
    obtain ⟨first, second, hsub, hcases⟩ := segmentFault?_eq_some hfault
    have htwo := two_of_sublist hsub hsegmentPerm
    -- the order of the two starts is not checked, it comes from sorting
    have hstart := List.pairwise_pair.mp ((pairwise_sortedSegments segments).sublist hsub)
    rcases hcases with ⟨rfl, hover⟩ | ⟨rfl, hafter, hcross⟩
    · exact ⟨htwo, hstart, hover⟩
    · exact ⟨htwo, hafter, hcross⟩
  | regionFault hfault =>
    obtain ⟨first, second, hsub, rfl, hover⟩ := regionFault?_eq_some hfault
    have hstart := List.pairwise_pair.mp ((pairwise_sortedRegions regions).sublist hsub)
    exact ⟨first, second, two_of_sublist hsub hregionPerm, rfl, rfl, hstart, hover⟩
  | crossFault hsegments hneighbours hfault =>
    obtain ⟨r, hr, segment, hoccupied, hunder, rfl⟩ := crossFault?_eq_some hfault
    obtain ⟨hmem, hshared⟩ := segmentUnder?_eq_some (sortedSegments_upright hsegments)
      (sortedSegments_follow hsegments hneighbours) hoccupied hunder
    exact ⟨hsegmentPerm.mem_iff.mp hmem, r, hregionPerm.mem_iff.mp hr, rfl, rfl, hshared⟩

end Accepted

/-- Building is sound both ways, for every list of segments and of regions. What it accepts is a
rearrangement of the report that fits together; where it refuses, the fault that it names is
there. -/
theorem build_sound (segments : List Segment) (regions : List Region) :
    match build segments regions with
    | .ok m => m.segments.toList.Perm segments ∧ m.regions.toList.Perm regions ∧ m.WellFormed
    | .error fault => fault.Holds segments regions := by
  cases h : build segments regions with
  | ok m => exact ⟨(build_perm h).1, (build_perm h).2, build_wellFormed h⟩
  | error fault => exact build_fault h

/-- Two segments that touch in the source only, with a region and an empty segment between them. -/
def sample : SegmentMap :=
  ⟨#[⟨0, 10, 0, 10⟩, ⟨10, 10, 30, 30⟩, ⟨10, 25, 30, 45⟩], #[⟨10, 30, "Debug"⟩]⟩

theorem build_sample :
    build [⟨10, 25, 30, 45⟩, ⟨0, 10, 0, 10⟩, ⟨10, 10, 30, 30⟩] [⟨10, 30, "Debug"⟩] =
      .ok sample := by
  cbv

end SegmentMap

end Palimpsest.Mapping
