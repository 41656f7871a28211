import Palimpsest.Proofs.Mapping.Monotone
import Palimpsest.Proofs.Mapping.Outline
import Palimpsest.Proofs.Mapping.Refusal

/-!
# Carrying keeps spans upright and nested

The two ends of a span are looked up with different biases, so that the image of a span is a span
again needs more than that each bias keeps order.

1. `carry_start_le_stop`: the start of a span with bytes is not carried behind its end. The ends
   are apart, but for spans at the largest offset, where both biases meet the same (`carry_last`).
2. `ends_nested`: of two spans of which one lies in the other, so do the images.
3. `spans_stay_nested`: spans both ways in every accepted map, and the items of an outline.

All of it holds from the start of the first segment on.
-/

namespace Palimpsest

namespace Span

/-- The first span does not begin before the second and does not end behind it. -/
def Inside (a b : Span) : Prop := b.start ≤ a.start ∧ a.stop ≤ b.stop

instance (a b : Span) : Decidable (a.Inside b) := inferInstanceAs (Decidable (_ ∧ _))

/-- The span runs from one offset to another that does not come before it, and nothing was cut off
to make it so. -/
structure Runs (span : Span) (x y : Offset) : Prop where
  in_order : x ≤ y
  start_eq : span.start = x
  stop_eq : span.stop = y
  length_eq : x.val + span.length.val = y.val

theorem start_le_stop (span : Span) : span.start ≤ span.stop := by
  rw [Fin.le_def, stop, Offset.val_plus]
  have := Offset.val_le_last span.start
  rw [Offset.val_last] at this
  omega

theorem start_lt_stop_or_last {span : Span} (h : 0 < span.length.val) :
    span.start < span.stop ∨ span.start = Offset.last := by
  have hle := Offset.val_le_last span.start
  rw [Offset.val_last] at hle
  simp only [Fin.lt_def, Fin.ext_iff, stop, Offset.val_plus, Offset.val_last]
  omega

theorem stop_eq_last {span : Span} (h : span.start = Offset.last) : span.stop = Offset.last := by
  apply Fin.ext
  rw [stop, Offset.val_plus, h, Offset.val_last]
  omega

/-- A span in which a span with bytes lies has bytes itself, unless it begins at the largest
offset. -/
theorem Inside.length_pos_or_last {a b : Span} (hab : a.Inside b) (ha : 0 < a.length.val) :
    0 < b.length.val ∨ b.start = Offset.last := by
  obtain ⟨hstart, hstop⟩ := hab
  have hle := Offset.val_le_last b.start
  rw [Offset.val_last] at hle
  simp only [Fin.le_def, Fin.ext_iff, stop, Offset.val_plus, Offset.val_last] at hstart hstop ⊢
  omega

theorem runs_between {x y : Offset} (h : x ≤ y) : (between x y).Runs x y := by
  refine ⟨h, rfl, stop_between h, ?_⟩
  rw [Fin.le_def] at h
  rw [between, Offset.val_minus]
  omega

theorem inside_between {x y x' y' : Offset} (hx : x' ≤ x) (hxy : x ≤ y) (hy : y ≤ y') :
    (between x y).Inside (between x' y') := by
  refine ⟨hx, ?_⟩
  rw [stop_between hxy, stop_between (Fin.le_trans hx (Fin.le_trans hxy hy))]
  exact hy

end Span

namespace Mapping

namespace SegmentMap.WellFormed

variable {m : SegmentMap} (hm : m.WellFormed) {side : Side}

include hm

omit hm in
/-- At the largest offset a segment that carries a start also carries an end: the run of no segment
goes on behind it, so the first segment that touches it is the one that ends there. -/
theorem carrier_last {s : Segment} (hs : m.Carrier side .start Offset.last s) :
    m.Carrier side .stop Offset.last s := by
  have htouch := hs.touches
  rcases hs.chosen with hholds | ⟨_, hfirst⟩
  · exact absurd (Offset.val_le_last (s.stop side)) (Nat.not_le.mpr hholds.2)
  · refine ⟨hs.mem, htouch, ?_⟩
    by_cases hholds : s.Holds side .stop Offset.last
    · exact Or.inl hholds
    · refine Or.inr ⟨?_, hfirst⟩
      intro t ht htholds
      rcases hfirst t ht htholds.touches with rfl | hbefore
      · exact hholds htholds
      · have hnear := hbefore side
        simp only [Segment.Touches, Segment.Holds, Fin.le_def, Fin.lt_def] at htouch htholds hnear
        omega

theorem carry_last : m.carry side .start Offset.last = m.carry side .stop Offset.last := by
  rcases hm.carry_cases side .start Offset.last with ⟨s, hs, hcarry⟩ | ⟨hnone, hcarry⟩
  · rw [hcarry, hm.carry_eq_project (carrier_last hs)]
  · rcases hm.carry_cases side .stop Offset.last with ⟨s, hs, _⟩ | ⟨_, hcarry'⟩
    · exact absurd hs.touches (hnone s hs.mem)
    · rw [hcarry, hcarry']

theorem carry_start_le_stop {span : Span} {x y : Offset}
    (hspan : 0 < span.length.val ∨ span.start = Offset.last)
    (hfirst : ∃ t ∈ m.segments.toList, t.start side ≤ span.start)
    (hx : m.carry side .start span.start = .ok x) (hy : m.carry side .stop span.stop = .ok y) :
    x ≤ y := by
  have hends : span.start < span.stop ∨ span.start = Offset.last :=
    hspan.elim Span.start_lt_stop_or_last Or.inr
  rcases hends with hlt | hlast
  · exact hm.carry_le_carry (Fin.le_of_lt hlt) (Or.inl hlt) hx hy (Or.inl hfirst)
  · rw [hlast, hm.carry_last, ← Span.stop_eq_last hlast, hy] at hx
    obtain rfl := Except.ok.inj hx
    exact Fin.le_refl _

/-- Of two spans of which one lies in the other, the images of the ends are in the order of the
ends. -/
theorem ends_nested {a b : Span} {xa ya xb yb : Offset} (hab : a.Inside b)
    (hfirst : ∃ t ∈ m.segments.toList, t.start side ≤ b.start)
    (hxa : m.carry side .start a.start = .ok xa) (hya : m.carry side .stop a.stop = .ok ya)
    (hxb : m.carry side .start b.start = .ok xb) (hyb : m.carry side .stop b.stop = .ok yb) :
    xb ≤ xa ∧ ya ≤ yb := by
  obtain ⟨t, ht, htb⟩ := hfirst
  have hta : t.start side ≤ a.stop := Fin.le_trans htb (Fin.le_trans hab.1 a.start_le_stop)
  exact ⟨hm.carry_mono hab.1 hxb hxa (Or.inl ⟨t, ht, htb⟩),
    hm.carry_mono hab.2 hya hyb (Or.inl ⟨t, ht, hta⟩)⟩

theorem carry_ends_of_spanToExpanded {span image : Span}
    (hspan : 0 < span.length.val ∨ span.start = Offset.last)
    (h : (Mapper.segments m).spanToExpanded span = .ok image) :
    ∃ x y, m.carry .source .start span.start = .ok x ∧ m.carry .source .stop span.stop = .ok y ∧
      image = .between x y := by
  obtain ⟨x, y, hx, hy, hempty, rfl⟩ := Mapper.ends_of_spanToExpanded h
  refine ⟨x, y, hx, ?_, rfl⟩
  rcases Nat.eq_zero_or_pos span.length.val with hzero | hpos
  · have hlast := hspan.resolve_left (Nat.not_lt.mpr (Nat.le_of_eq hzero))
    rw [hempty hzero, Span.stop_eq_last hlast, ← hm.carry_last, ← hlast]
    exact hx
  · exact hy hpos

theorem carry_ends_of_spanToSource {span image : Span}
    (hspan : 0 < span.length.val ∨ span.start = Offset.last)
    (h : (Mapper.segments m).spanToSource span = .ok (some image)) :
    ∃ x y, m.carry .expanded .start span.start = .ok x ∧
      m.carry .expanded .stop span.stop = .ok y ∧ image = .between x y := by
  obtain ⟨x, y, hx, hy, hempty, rfl⟩ := Mapper.ends_of_spanToSource h
  have hcarry := hm.carry_of_toSource hx
  refine ⟨x, y, hcarry, ?_, rfl⟩
  rcases Nat.eq_zero_or_pos span.length.val with hzero | hpos
  · have hlast := hspan.resolve_left (Nat.not_lt.mpr (Nat.le_of_eq hzero))
    rw [hempty hzero, Span.stop_eq_last hlast, ← hm.carry_last, ← hlast]
    exact hcarry
  · exact hm.carry_of_toSource (hy hpos)

/-- Images by their ends, in either direction: nested spans have nested images. -/
theorem images_nested {a b : Span} {xa ya xb yb : Offset} (ha : 0 < a.length.val)
    (hab : a.Inside b) (hfirst : ∃ t ∈ m.segments.toList, t.start side ≤ b.start)
    (hxa : m.carry side .start a.start = .ok xa) (hya : m.carry side .stop a.stop = .ok ya)
    (hxb : m.carry side .start b.start = .ok xb) (hyb : m.carry side .stop b.stop = .ok yb) :
    (Span.between xa ya).Inside (Span.between xb yb) := by
  obtain ⟨hx, hy⟩ := hm.ends_nested hab hfirst hxa hya hxb hyb
  obtain ⟨t, ht, htb⟩ := hfirst
  have hupright := hm.carry_start_le_stop (Or.inl ha) ⟨t, ht, Fin.le_trans htb hab.1⟩ hxa hya
  exact Span.inside_between hx hupright hy

theorem spanToExpanded_runs {span image : Span} (hspan : 0 < span.length.val)
    (hfirst : ∃ t ∈ m.segments.toList, t.start .source ≤ span.start)
    (h : (Mapper.segments m).spanToExpanded span = .ok image) :
    ∃ x y, m.toExpanded .start span.start = .ok x ∧ m.toExpanded .stop span.stop = .ok y ∧
      image.Runs x y := by
  obtain ⟨x, y, hx, hy, rfl⟩ := hm.carry_ends_of_spanToExpanded (Or.inl hspan) h
  exact ⟨x, y, hx, hy, Span.runs_between (hm.carry_start_le_stop (Or.inl hspan) hfirst hx hy)⟩

theorem spanToSource_runs {span image : Span} (hspan : 0 < span.length.val)
    (hfirst : ∃ t ∈ m.segments.toList, t.start .expanded ≤ span.start)
    (h : (Mapper.segments m).spanToSource span = .ok (some image)) :
    ∃ x y, m.toSource .start span.start = .ok (some x) ∧
      m.toSource .stop span.stop = .ok (some y) ∧ image.Runs x y := by
  obtain ⟨x, y, hx, hy, _, rfl⟩ := Mapper.ends_of_spanToSource h
  refine ⟨x, y, hx, hy hspan, Span.runs_between ?_⟩
  exact hm.carry_start_le_stop (Or.inl hspan) hfirst (hm.carry_of_toSource hx)
    (hm.carry_of_toSource (hy hspan))

theorem spanToExpanded_inside {a b imageA imageB : Span} (ha : 0 < a.length.val)
    (hab : a.Inside b) (hfirst : ∃ t ∈ m.segments.toList, t.start .source ≤ b.start)
    (hA : (Mapper.segments m).spanToExpanded a = .ok imageA)
    (hB : (Mapper.segments m).spanToExpanded b = .ok imageB) : imageA.Inside imageB := by
  obtain ⟨xa, ya, hxa, hya, rfl⟩ := hm.carry_ends_of_spanToExpanded (Or.inl ha) hA
  obtain ⟨xb, yb, hxb, hyb, rfl⟩ :=
    hm.carry_ends_of_spanToExpanded (hab.length_pos_or_last ha) hB
  exact hm.images_nested ha hab hfirst hxa hya hxb hyb

theorem spanToSource_inside {a b imageA imageB : Span} (ha : 0 < a.length.val)
    (hab : a.Inside b) (hfirst : ∃ t ∈ m.segments.toList, t.start .expanded ≤ b.start)
    (hA : (Mapper.segments m).spanToSource a = .ok (some imageA))
    (hB : (Mapper.segments m).spanToSource b = .ok (some imageB)) : imageA.Inside imageB := by
  obtain ⟨xa, ya, hxa, hya, rfl⟩ := hm.carry_ends_of_spanToSource (Or.inl ha) hA
  obtain ⟨xb, yb, hxb, hyb, rfl⟩ := hm.carry_ends_of_spanToSource (hab.length_pos_or_last ha) hB
  exact hm.images_nested ha hab hfirst hxa hya hxb hyb

end SegmentMap.WellFormed

open Analysis (OutlineItem)

/-- Spans stay upright and nested, in every accepted map that has a segment, for spans from the
start of the first segment on. The image of a span with bytes runs from the image of its start to
the image of its end, and where one span lies in another, so do the images, in both directions.
Every item of a carried outline is the image of an item of the outline, and where the selection of
the one lies in its span, so does the selection of the other. -/
theorem spans_stay_nested {segments : List Segment} {regions : List Region} {m : SegmentMap}
    {first : Segment} (h : SegmentMap.build segments regions = .ok m)
    (hfirst : m.segments.toList.head? = some first) :
    (∀ a b imageA imageB : Span, 0 < a.length.val → 0 < b.length.val → a.Inside b →
      first.sourceStart ≤ b.start →
      (Mapper.segments m).spanToExpanded a = .ok imageA →
      (Mapper.segments m).spanToExpanded b = .ok imageB →
      (∃ x y, m.toExpanded .start a.start = .ok x ∧ m.toExpanded .stop a.stop = .ok y ∧
        imageA.Runs x y) ∧
      (∃ x y, m.toExpanded .start b.start = .ok x ∧ m.toExpanded .stop b.stop = .ok y ∧
        imageB.Runs x y) ∧
      imageA.Inside imageB) ∧
    (∀ a b imageA imageB : Span, 0 < a.length.val → 0 < b.length.val → a.Inside b →
      first.expandedStart ≤ b.start →
      (Mapper.segments m).spanToSource a = .ok (some imageA) →
      (Mapper.segments m).spanToSource b = .ok (some imageB) →
      (∃ x y, m.toSource .start a.start = .ok (some x) ∧ m.toSource .stop a.stop = .ok (some y) ∧
        imageA.Runs x y) ∧
      (∃ x y, m.toSource .start b.start = .ok (some x) ∧ m.toSource .stop b.stop = .ok (some y) ∧
        imageB.Runs x y) ∧
      imageA.Inside imageB) ∧
    (∀ items images, (Mapper.segments m).outlineToSource items = .ok images →
      ∀ image : OutlineItem, image.Occurs images →
        ∃ item : OutlineItem, item.Occurs items ∧
          (Mapper.segments m).itemToSource item = .ok (some image)) ∧
    (∀ item image : OutlineItem, (Mapper.segments m).itemToSource item = .ok (some image) →
      0 < item.selection.length.val → item.selection.Inside item.span →
      first.expandedStart ≤ item.span.start → image.selection.Inside image.span) := by
  have hm := SegmentMap.build_wellFormed h
  have hmem := List.mem_of_head? hfirst
  refine ⟨?_, ?_, ?_, ?_⟩
  · intro a b imageA imageB ha hb hab hstart hA hB
    refine ⟨?_, ?_, ?_⟩
    · exact hm.spanToExpanded_runs ha ⟨first, hmem, Fin.le_trans hstart hab.1⟩ hA
    · exact hm.spanToExpanded_runs hb ⟨first, hmem, hstart⟩ hB
    · exact hm.spanToExpanded_inside ha hab ⟨first, hmem, hstart⟩ hA hB
  · intro a b imageA imageB ha hb hab hstart hA hB
    refine ⟨?_, ?_, ?_⟩
    · exact hm.spanToSource_runs ha ⟨first, hmem, Fin.le_trans hstart hab.1⟩ hA
    · exact hm.spanToSource_runs hb ⟨first, hmem, hstart⟩ hB
    · exact hm.spanToSource_inside ha hab ⟨first, hmem, hstart⟩ hA hB
  · intro items images himages image himage
    exact Mapper.occurs_outlineToSource himages himage
  · intro item image himage hselection hinside hstart
    obtain ⟨hspan, hselected, _⟩ := Mapper.itemToSource_eq_some_iff.mp himage
    exact hm.spanToSource_inside hselection hinside ⟨first, hmem, hstart⟩ hselected hspan

/-- In the sample map a span behind the region lies in one that goes over the region, and so do
their images in the other text, both ways; an item of an outline with these two spans keeps them
so. -/
theorem sample_stays_nested :
    SegmentMap.build [⟨10, 25, 30, 45⟩, ⟨0, 10, 0, 10⟩, ⟨10, 10, 30, 30⟩] [⟨10, 30, "Debug"⟩] =
        .ok SegmentMap.sample ∧
      ((Mapper.segments SegmentMap.sample).spanToExpanded ⟨12, 3⟩ = .ok ⟨32, 3⟩ ∧
        (Mapper.segments SegmentMap.sample).spanToExpanded ⟨5, 15⟩ = .ok ⟨5, 35⟩ ∧
        (⟨32, 3⟩ : Span).Inside ⟨5, 35⟩) ∧
      ((Mapper.segments SegmentMap.sample).spanToSource ⟨32, 3⟩ = .ok (some ⟨12, 3⟩) ∧
        (Mapper.segments SegmentMap.sample).spanToSource ⟨5, 35⟩ = .ok (some ⟨5, 15⟩) ∧
        (⟨12, 3⟩ : Span).Inside ⟨5, 15⟩) ∧
      (OutlineItem.mk "User" "class" ⟨5, 15⟩ ⟨12, 3⟩ []).selection.Inside
        (OutlineItem.mk "User" "class" ⟨5, 15⟩ ⟨12, 3⟩ []).span := by
  have hfirst : SegmentMap.sample.segments.toList.head? = some ⟨0, 10, 0, 10⟩ := rfl
  obtain ⟨hexpanded, hsource, _, hitem⟩ := spans_stay_nested SegmentMap.build_sample hfirst
  have hinner : (Mapper.segments SegmentMap.sample).spanToExpanded ⟨12, 3⟩ = .ok ⟨32, 3⟩ := by
    decide +kernel
  have houter : (Mapper.segments SegmentMap.sample).spanToExpanded ⟨5, 15⟩ = .ok ⟨5, 35⟩ := by
    decide +kernel
  have hinnerBack : (Mapper.segments SegmentMap.sample).spanToSource ⟨32, 3⟩ =
      .ok (some ⟨12, 3⟩) := by decide +kernel
  have houterBack : (Mapper.segments SegmentMap.sample).spanToSource ⟨5, 35⟩ =
      .ok (some ⟨5, 15⟩) := by decide +kernel
  refine ⟨SegmentMap.build_sample, ⟨hinner, houter, ?_⟩, ⟨hinnerBack, houterBack, ?_⟩, ?_⟩
  · exact (hexpanded _ _ _ _ (by decide) (by decide) (by decide) (by decide) hinner houter).2.2
  · exact (hsource _ _ _ _ (by decide) (by decide) (by decide) (by decide) hinnerBack
      houterBack).2.2
  · refine hitem (.mk "User" "class" ⟨5, 35⟩ ⟨32, 3⟩ []) _ ?_ (by decide) (by decide) (by decide)
    exact Mapper.itemToSource_eq_some_iff.mpr ⟨houterBack, hinnerBack, rfl, rfl, rfl⟩

end Mapping

end Palimpsest
