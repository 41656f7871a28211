import Palimpsest.Proofs.Mapping.Carry

/-!
# Carrying keeps order

An offset reaches the other text in one of four ways, each with a formula of its own. Between two
offsets that are both before all segments, or both not, no step from one way to another goes
backwards:

1. `project_le`, `start_le_project` and `project_mono`: what one segment does;
2. `carry_le_carry` and `carry_mono`: what the whole map does, for either side and either bias;
3. `carry_mono_of_first`: what is left, the step from before the first segment into it;
4. `toExpanded_monotone_iff`: carrying to the expanded text keeps the order of all offsets just
   where the first segment does not begin more than one byte earlier in the expanded text than in
   the source.

Before the first segment both texts are taken to be the same, so an offset there keeps its value,
while the offset at the start of the segment gets the expanded start. `toExpanded_steps_back` is a
map in which that is a step back.
-/

namespace Palimpsest.Mapping

namespace Segment

variable {s : Segment} {side : Side} {p q x y : Offset}

theorem project_le (h : s.project side p = .ok x) : x ≤ s.stop side.other := by
  have := (project_eq_ok_iff.mp h).2
  rw [Fin.le_def]
  omega

theorem start_le_project (hs : s.Upright) (h : s.project side p = .ok x) :
    s.start side.other ≤ x := by
  have hx := (project_eq_ok_iff.mp h).2
  have hfar := hs side.other
  unfold reach at hx
  rw [Fin.le_def] at hfar ⊢
  omega

theorem project_mono (hpq : p ≤ q) (hx : s.project side p = .ok x)
    (hy : s.project side q = .ok y) : x ≤ y := by
  have hx := (project_eq_ok_iff.mp hx).2
  have hy := (project_eq_ok_iff.mp hy).2
  unfold reach at hx hy
  rw [Fin.le_def] at hpq ⊢
  omega

end Segment

namespace SegmentMap.WellFormed

variable {m : SegmentMap} (hm : m.WellFormed) {side : Side} {bias : Bias} {p q x y : Offset}

include hm

theorem stop_le_stop {s t : Segment} (ht : t ∈ m.segments.toList) (h : s = t ∨ s.Before t)
    (side : Side) : s.stop side ≤ t.stop side := by
  rcases h with rfl | hbefore
  · exact Fin.le_refl _
  · exact Fin.le_trans (hbefore side) (hm.segments_upright t ht side)

/-- What stays before the far end of a segment stays before all offsets that are carried from behind
the start of the segment, unless they are carried through it or through one before it. -/
theorem le_of_le_stop {s : Segment} (hs : s ∈ m.segments.toList) (hsq : s.start side ≤ q)
    (hx : x ≤ s.stop side.other) (hy : Carried m side bias q y)
    (hbefore : ∀ t, m.Carrier side bias q t → s.Before t) : x ≤ y := by
  cases hy with
  | ahead hall => exact absurd hsq (Fin.not_le.mpr (hall s hs))
  | through t ht hproject =>
    have hfar := Segment.start_le_project (hm.segments_upright t ht.mem) hproject
    exact Fin.le_trans hx (Fin.le_trans (hbefore t ht side.other) hfar)
  | between t ht _ hlast _ =>
    exact Fin.le_trans hx (hm.stop_le_stop ht (hlast s hs hsq) side.other)
  | behind t ht _ hlast =>
    have hstop := hm.stop_le_stop ht (hlast s hs) side.other
    rw [Fin.le_def] at hx hstop ⊢
    rw [Offset.val_plus]
    omega

/-- Through a segment: the second offset goes through the same segment or one behind it, or past
it. Offsets that are apart may be looked up with different biases. -/
theorem carry_mono_through {bias' : Bias} {s : Segment} (hpq : p ≤ q)
    (hbias : p < q ∨ bias = bias') (hs : m.Carrier side bias p s)
    (hx : s.project side p = .ok x) (hy : m.carry side bias' q = .ok y) : x ≤ y := by
  by_cases hsame : m.Carrier side bias' q s
  · rw [hm.carry_eq_project hsame] at hy
    exact Segment.project_mono hpq hx hy
  · refine hm.le_of_le_stop hs.mem (Fin.le_trans hs.touches.1 hpq) (Segment.project_le hx)
      (hm.carried hy) ?_
    intro t ht
    rcases rel_or_rel_of_pairwise hm.segments_follow hs.mem ht.mem with rfl | hst | hts
    · exact absurd ht hsame
    · exact hst
    · -- a segment before could only carry the second offset if the two offsets were the same
      have hnear := hts side
      have hsp := hs.touches
      have htq := ht.touches
      simp only [Segment.Touches, Fin.le_def] at hpq hnear hsp htq
      have heq : p = q := Fin.ext (by omega)
      rcases hbias with hlt | rfl
      · exact absurd heq (Fin.ne_of_lt hlt)
      · rw [heq] at hs
        exact absurd hs hsame

/-- In a gap: the second offset is in the same gap or behind it. -/
theorem carry_mono_between {s : Segment} (hpq : p ≤ q) (hs : s ∈ m.segments.toList)
    (hsp : s.stop side < p) (hy : m.carry side bias q = .ok y) : s.stop side.other ≤ y := by
  have hup := hm.segments_upright s hs side
  have hsq : s.stop side < q := Fin.lt_of_lt_of_le hsp hpq
  refine hm.le_of_le_stop hs (Fin.le_trans hup (Fin.le_of_lt hsq)) (Fin.le_refl _)
    (hm.carried hy) ?_
  intro t ht
  rcases rel_or_rel_of_pairwise hm.segments_follow hs ht.mem with rfl | hst | hts
  · exact absurd ht.touches.2 (Fin.not_le.mpr hsq)
  · exact hst
  · have hstop := hm.stop_le_stop hs (Or.inr hts) side
    exact absurd (Fin.le_trans ht.touches.2 hstop) (Fin.not_le.mpr hsq)

/-- Behind the last segment: the second offset is behind it too. -/
theorem carry_mono_behind {s : Segment} (hpq : p ≤ q) (hs : s ∈ m.segments.toList)
    (hsp : s.stop side < p) (hlast : ∀ t ∈ m.segments.toList, t = s ∨ t.Before s)
    (hy : m.carry side bias q = .ok y) :
    (s.stop side.other).plus (p.minus (s.stop side)) ≤ y := by
  have hended : ∀ t ∈ m.segments.toList, t.stop side < q := fun t ht =>
    Fin.lt_of_le_of_lt (hm.stop_le_stop hs (hlast t ht) side) (Fin.lt_of_lt_of_le hsp hpq)
  have hbegun : ∀ t ∈ m.segments.toList, ¬ q < t.start side := fun t ht hlt =>
    absurd (Fin.le_trans (hm.segments_upright t ht side) (Fin.le_of_lt (hended t ht)))
      (Fin.not_le.mpr hlt)
  cases hm.carried hy with
  | ahead hall => exact absurd (hall s hs) (hbegun s hs)
  | through t ht _ => exact absurd ht.touches.2 (Fin.not_le.mpr (hended t ht.mem))
  | between t _ _ _ hmore =>
    obtain ⟨u, hu, hlt⟩ := hmore
    exact absurd hlt (hbegun u hu)
  | behind t ht _ hlast' =>
    -- both are the last segment, so they end at the same places
    have hfar := hm.stop_le_stop ht (hlast' s hs) side.other
    have hnear := hm.stop_le_stop hs (hlast t ht) side
    simp only [Fin.le_def, Offset.val_plus, Offset.val_minus] at hfar hnear hpq ⊢
    omega

theorem carry_ahead (h : ∀ t ∈ m.segments.toList, p < t.start side) :
    m.carry side bias p = .ok p := by
  have hunended : ∀ t ∈ m.segments.toList, ¬ t.stop side < p := fun t ht hlt =>
    absurd (Fin.lt_of_le_of_lt (hm.segments_upright t ht side) hlt)
      (Fin.not_lt.mpr (Fin.le_of_lt (h t ht)))
  have hnone : ∀ t ∈ m.segments.toList, ¬ t.Touches side p := fun t ht htouch =>
    absurd htouch.1 (Fin.not_le.mpr (h t ht))
  rcases hm.carry_cases side bias p with ⟨s, hs, _⟩ | ⟨_, hcarry⟩
  · exact absurd hs.touches (hnone s hs.mem)
  · have hcarried := hm.carried hcarry
    generalize m.extrapolate side p = x at hcarry hcarried
    cases hcarried with
    | ahead => exact hcarry
    | through s hs _ => exact absurd hs.touches (hnone s hs.mem)
    | between s hs hstop _ _ => exact absurd hstop (hunended s hs)
    | behind s hs hstop _ => exact absurd hstop (hunended s hs)

/-- Carrying keeps the order of two offsets that are both before all segments or both not, and that
are apart or looked up with the same bias. -/
theorem carry_le_carry {bias' : Bias} (hpq : p ≤ q) (hbias : p < q ∨ bias = bias')
    (hx : m.carry side bias p = .ok x) (hy : m.carry side bias' q = .ok y)
    (hsame : (∃ t ∈ m.segments.toList, t.start side ≤ p) ∨
      ∀ t ∈ m.segments.toList, q < t.start side) : x ≤ y := by
  cases hm.carried hx with
  | ahead hall =>
    rcases hsame with ⟨t, ht, hstart⟩ | hall'
    · exact absurd hstart (Fin.not_le.mpr (hall t ht))
    · rw [hm.carry_ahead hall'] at hy
      obtain rfl := Except.ok.inj hy
      exact hpq
  | through s hs hproject => exact hm.carry_mono_through hpq hbias hs hproject hy
  | between s hs hstop _ _ => exact hm.carry_mono_between hpq hs hstop hy
  | behind s hs hstop hlast => exact hm.carry_mono_behind hpq hs hstop hlast hy

theorem carry_mono (hpq : p ≤ q) (hx : m.carry side bias p = .ok x)
    (hy : m.carry side bias q = .ok y)
    (hsame : (∃ t ∈ m.segments.toList, t.start side ≤ p) ∨
      ∀ t ∈ m.segments.toList, q < t.start side) : x ≤ y :=
  hm.carry_le_carry hpq (Or.inr rfl) hx hy hsame

/-! ## The step into the first segment -/

theorem eq_or_first_before {first t : Segment} (hfirst : m.segments.toList.head? = some first)
    (ht : t ∈ m.segments.toList) : t = first ∨ first.Before t := by
  have hpairs := hm.segments_follow
  obtain ⟨rest, hrest⟩ := List.head?_eq_some_iff.mp hfirst
  rw [hrest] at ht hpairs
  rcases List.mem_cons.mp ht with heq | ht
  · exact Or.inl heq
  · exact Or.inr (List.rel_of_pairwise_cons hpairs ht)

theorem first_start_le_start {first t : Segment} (hfirst : m.segments.toList.head? = some first)
    (ht : t ∈ m.segments.toList) (side : Side) : first.start side ≤ t.start side := by
  rcases hm.eq_or_first_before hfirst ht with rfl | hbefore
  · exact Fin.le_refl _
  · exact Fin.le_trans (hm.segments_upright first (List.mem_of_head? hfirst) side) (hbefore side)

theorem first_start_le {first : Segment} (hfirst : m.segments.toList.head? = some first)
    (hstart : first.start side ≤ q) (hy : m.carry side bias q = .ok y) :
    first.start side.other ≤ y := by
  have hmem := List.mem_of_head? hfirst
  cases hm.carried hy with
  | ahead hall => exact absurd hstart (Fin.not_le.mpr (hall first hmem))
  | through t ht hproject =>
    have hfar := Segment.start_le_project (hm.segments_upright t ht.mem) hproject
    exact Fin.le_trans (hm.first_start_le_start hfirst ht.mem side.other) hfar
  | between t ht _ _ _ =>
    exact Fin.le_trans (hm.first_start_le_start hfirst ht side.other)
      (hm.segments_upright t ht side.other)
  | behind t ht _ _ =>
    have hfar := Fin.le_trans (hm.first_start_le_start hfirst ht side.other)
      (hm.segments_upright t ht side.other)
    rw [Fin.le_def] at hfar ⊢
    rw [Offset.val_plus]
    omega

/-- The start of the first segment, taken as an end, is carried to the far start: no segment holds
it, and the first one touches it first. -/
theorem carry_first_start {first : Segment} (hfirst : m.segments.toList.head? = some first) :
    m.carry side .stop (first.start side) = .ok (first.start side.other) := by
  have hmem := List.mem_of_head? hfirst
  have hup := hm.segments_upright first hmem
  have hcarrier : m.Carrier side .stop (first.start side) first := by
    refine ⟨hmem, ⟨Fin.le_refl _, hup side⟩, Or.inr ⟨?_, ?_⟩⟩
    · intro t ht hholds
      exact absurd hholds.1 (Fin.not_lt.mpr (hm.first_start_le_start hfirst ht side))
    · intro t ht _
      exact hm.eq_or_first_before hfirst ht
  rw [hm.carry_eq_project hcarrier]
  have hreach : first.reach side (first.start side) = (first.start side.other).val := by
    unfold Segment.reach
    omega
  rw [Segment.project_eq_ok_iff, hreach]
  exact ⟨Offset.val_le_last _, (Nat.min_eq_left (hup side.other)).symm⟩

/-- Carrying keeps order but for the step from before the first segment to its start or behind it,
and there too where the first offset is not behind the far start. -/
theorem carry_mono_of_first (hpq : p ≤ q) (hx : m.carry side bias p = .ok x)
    (hy : m.carry side bias q = .ok y)
    (hstep : ∀ first, m.segments.toList.head? = some first →
      first.start side ≤ p ∨ q < first.start side ∨ p ≤ first.start side.other) : x ≤ y := by
  cases hfirst : m.segments.toList.head? with
  | none =>
    have hnil := List.head?_eq_none_iff.mp hfirst
    exact hm.carry_mono hpq hx hy (Or.inr (by simp [hnil]))
  | some first =>
    have hall : ∀ r, r < first.start side → ∀ t ∈ m.segments.toList, r < t.start side :=
      fun r hr t ht => Fin.lt_of_lt_of_le hr (hm.first_start_le_start hfirst ht side)
    by_cases hp : first.start side ≤ p
    · exact hm.carry_mono hpq hx hy (Or.inl ⟨first, List.mem_of_head? hfirst, hp⟩)
    · by_cases hq : q < first.start side
      · exact hm.carry_mono hpq hx hy (Or.inr (hall q hq))
      · rcases hstep first hfirst with hp' | hq' | hfar
        · exact absurd hp' hp
        · exact absurd hq' hq
        · rw [hm.carry_ahead (hall p (Fin.not_le.mp hp))] at hx
          obtain rfl := Except.ok.inj hx
          exact Fin.le_trans hfar (hm.first_start_le hfirst (Fin.not_lt.mp hq) hy)

/-- Carrying keeps the order of all offsets just where the last offset before the first segment is
not behind its far start. -/
theorem carry_mono_iff :
    (∀ bias p q x y, p ≤ q → m.carry side bias p = .ok x → m.carry side bias q = .ok y → x ≤ y) ↔
      ∀ first, m.segments.toList.head? = some first →
        (first.start side).val ≤ (first.start side.other).val + 1 := by
  have hone : (1 : Offset).val = 1 := rfl
  constructor
  · intro hmono first hfirst
    by_cases hzero : (first.start side).val = 0
    · omega
    · -- compare the start of the segment with the offset before it
      have hbefore : (first.start side).minus 1 < first.start side := by
        rw [Fin.lt_def, Offset.val_minus, hone]
        omega
      have hahead : m.carry side .stop ((first.start side).minus 1) =
          .ok ((first.start side).minus 1) :=
        hm.carry_ahead fun t ht =>
          Fin.lt_of_lt_of_le hbefore (hm.first_start_le_start hfirst ht side)
      have hle := hmono .stop _ _ _ _ (Fin.le_of_lt hbefore) hahead (hm.carry_first_start hfirst)
      rw [Fin.le_def, Offset.val_minus, hone] at hle
      omega
  · intro hfirst bias p q x y hpq hx hy
    refine hm.carry_mono_of_first hpq hx hy ?_
    intro first hhead
    have hstart := hfirst first hhead
    simp only [Fin.le_def, Fin.lt_def]
    omega

end SegmentMap.WellFormed

/-- Carrying to the expanded text keeps order, in every accepted map, for every bias and every two
offsets whose lookups do not overflow, but for one step: from before the first segment, where an
offset keeps its value, to its start or behind it, where the offset was behind the expanded start.
The order of all offsets is kept just where no offset before the first segment is behind its
expanded start. -/
theorem toExpanded_monotone_iff {segments : List Segment} {regions : List Region} {m : SegmentMap}
    (h : SegmentMap.build segments regions = .ok m) :
    (∀ bias p q x y, p ≤ q → m.toExpanded bias p = .ok x → m.toExpanded bias q = .ok y →
      (∀ first, m.segments.toList.head? = some first →
        first.sourceStart ≤ p ∨ q < first.sourceStart ∨ p ≤ first.expandedStart) → x ≤ y) ∧
    ((∀ bias p q x y, p ≤ q → m.toExpanded bias p = .ok x → m.toExpanded bias q = .ok y → x ≤ y) ↔
      ∀ first, m.segments.toList.head? = some first →
        first.sourceStart.val ≤ first.expandedStart.val + 1) := by
  have hm := SegmentMap.build_wellFormed h
  simp only [SegmentMap.toExpanded_eq_carry]
  constructor
  · intro bias p q x y hpq hx hy hstep
    exact hm.carry_mono_of_first hpq hx hy hstep
  · exact hm.carry_mono_iff

/-- The sample begins both texts with its first segment, so all offsets keep their order. -/
theorem sample_monotone :
    SegmentMap.build [⟨10, 25, 30, 45⟩, ⟨0, 10, 0, 10⟩, ⟨10, 10, 30, 30⟩] [⟨10, 30, "Debug"⟩] =
        .ok SegmentMap.sample ∧
      ∀ bias p q x y, p ≤ q → SegmentMap.sample.toExpanded bias p = .ok x →
        SegmentMap.sample.toExpanded bias q = .ok y → x ≤ y := by
  refine ⟨SegmentMap.build_sample, (toExpanded_monotone_iff SegmentMap.build_sample).2.mpr ?_⟩
  intro first hfirst
  obtain rfl := Option.some.inj hfirst
  decide

/-- Order is not always kept: the offset before this segment keeps its value, and the start of the
segment is carried back to the start of the expanded text. -/
theorem toExpanded_steps_back :
    ∃ m, SegmentMap.build [⟨10, 20, 0, 10⟩] [] = .ok m ∧
      ¬ ∀ bias p q x y, p ≤ q → m.toExpanded bias p = .ok x → m.toExpanded bias q = .ok y →
        x ≤ y := by
  refine ⟨⟨#[⟨10, 20, 0, 10⟩], #[]⟩, by decide +kernel, ?_⟩
  intro hmono
  have hle := hmono .start 9 10 9 0 (by decide) (by decide +kernel) (by decide +kernel)
  exact absurd hle (by decide)

end Palimpsest.Mapping
