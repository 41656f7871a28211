import Palimpsest.Mapping.Mapper
import Palimpsest.Proofs.Mapping.Validity

/-!
# How an offset is carried

Both directions of a map work alike: a lookup meets a segment or none, and the offset is carried
through the segment or past all of them. `SegmentMap.carry` is that common part, with the side as an
argument. In a well-formed map the two bisections of a lookup see as much as a scan of all segments:

1. `locate_eq_inside_iff` and `locate_eq_outside_iff`: a lookup meets the one segment that holds
   the offset, and none just where no segment touches it;
2. `extrapolated`: past the segments, the last one that ends before the offset decides;
3. `carried`: the four ways in which an offset reaches the other text (`Carried`);
4. `carry_eq_error_iff`: the one way in which it does not, a sum that does not fit.
-/

namespace Palimpsest.Mapping

@[simp] theorem Side.other_other (side : Side) : side.other.other = side := by
  cases side <;> rfl

namespace Segment

/-- The offset is inside the run or at one of its ends. -/
def Touches (s : Segment) (side : Side) (pos : Offset) : Prop :=
  s.start side ≤ pos ∧ pos ≤ s.stop side

/-- The offset is inside the run for a bias: a start counts the first end of the run, a stop the
second. -/
def Holds (s : Segment) (side : Side) : Bias → Offset → Prop
  | .start, pos => s.start side ≤ pos ∧ pos < s.stop side
  | .stop, pos => s.start side < pos ∧ pos ≤ s.stop side

theorem holds_iff {s : Segment} {side : Side} {bias : Bias} {pos : Offset} :
    s.Holds side bias pos ↔ s.Touches side pos ∧ s.holds side bias pos = true := by
  cases bias <;>
    simp only [Holds, Touches, holds, decide_eq_true_eq, Fin.le_def, Fin.lt_def] <;> omega

theorem Holds.touches {s : Segment} {side : Side} {bias : Bias} {pos : Offset}
    (h : s.Holds side bias pos) : s.Touches side pos :=
  (holds_iff.mp h).1

theorem Before.not_both_hold {a b : Segment} (h : a.Before b) {side : Side} {bias : Bias}
    {pos : Offset} (ha : a.Holds side bias pos) : ¬ b.Holds side bias pos := by
  intro hb
  have hab := h side
  cases bias <;> simp only [Holds, Fin.le_def, Fin.lt_def] at ha hb hab <;> omega

theorem Before.ends_eq {a b : Segment} (hab : a.Before b) (hba : b.Before a) (ha : a.Upright)
    (hb : b.Upright) (side : Side) : a.start side = b.start side ∧ a.stop side = b.stop side := by
  have hfirst := hab side
  have hsecond := hba side
  have harun := ha side
  have hbrun := hb side
  simp only [Fin.le_def] at hfirst hsecond harun hbrun
  simp only [Fin.ext_iff]
  omega

theorem Before.antisymm {a b : Segment} (hab : a.Before b) (hba : b.Before a) (ha : a.Upright)
    (hb : b.Upright) : a = b := by
  have hsource := hab.ends_eq hba ha hb .source
  have hexpanded := hab.ends_eq hba ha hb .expanded
  cases a; cases b
  simp only [start, stop] at hsource hexpanded
  simp only [hsource, hexpanded]

/-! ## Through a segment -/

/-- How far the offset would reach behind the far start, before it is cut down to the far end. -/
def reach (s : Segment) (side : Side) (pos : Offset) : Nat :=
  (s.start side.other).val + (pos.val - (s.start side).val)

theorem project_eq_ok_iff {s : Segment} {side : Side} {pos x : Offset} :
    s.project side pos = .ok x ↔
      s.reach side pos ≤ Offset.last.val ∧ x.val = min (s.reach side pos) (s.stop side.other).val := by
  unfold project Offset.add reach
  by_cases h : (s.start side.other).val + (pos.minus (s.start side)).val < 0x10000000000000000
  · rw [dif_pos h]
    simp only [Offset.val_minus] at h
    simp only [bind, Except.bind, pure, Except.pure, Except.ok.injEq, Fin.ext_iff,
      Offset.val_last, Offset.val_least, Offset.val_minus]
    omega
  · rw [dif_neg h]
    simp only [Offset.val_minus] at h
    simp only [bind, Except.bind, reduceCtorEq, false_iff, Offset.val_last]
    omega

theorem project_eq_error_iff {s : Segment} {side : Side} {pos : Offset} {e : Overflow} :
    s.project side pos = .error e ↔ Offset.last.val < s.reach side pos := by
  cases h : s.project side pos with
  | ok x =>
    have := (project_eq_ok_iff.mp h).1
    simp only [reduceCtorEq, false_iff]
    omega
  | error e' =>
    cases e; cases e'
    simp only [true_iff]
    by_contra hlt
    have hfits : s.project side pos =
        .ok ⟨min (s.reach side pos) (s.stop side.other).val, by omega⟩ :=
      project_eq_ok_iff.mpr ⟨by omega, rfl⟩
    rw [h] at hfits
    cases hfits

end Segment

namespace SegmentMap

/-! ## What a lookup meets -/

/-- Of segments that all touch the offset, the first that holds it is met, else the one met
before, else the first. -/
theorem meet_eq (side : Side) (bias : Bias) (pos : Offset) (segments : List Segment)
    (met : Meeting) :
    meet side bias pos segments met =
      match segments.find? fun s => s.holds side bias pos with
      | some s => .inside s
      | none =>
        match met with
        | .outside => match segments.head? with
          | some s => .edge s
          | none => .outside
        | met => met := by
  induction segments generalizing met with
  | nil => cases met <;> rfl
  | cons s rest ih =>
    cases hs : s.holds side bias pos with
    | true => simp [meet, hs]
    | false =>
      simp only [meet, hs, Bool.false_eq_true, if_false, List.find?_cons_of_neg, not_false_iff, ih]
      cases met <;> rfl

def touching (m : SegmentMap) (side : Side) (pos : Offset) : List Segment :=
  m.segments.toList.filter fun s => !decide (s.stop side < pos) && decide (s.start side ≤ pos)

theorem mem_touching {m : SegmentMap} {side : Side} {pos : Offset} {s : Segment} :
    s ∈ m.touching side pos ↔ s ∈ m.segments.toList ∧ s.Touches side pos := by
  simp only [touching, List.mem_filter, Bool.and_eq_true, Bool.not_eq_true',
    decide_eq_false_iff_not, decide_eq_true_eq, Fin.not_lt, Segment.Touches, and_comm]

/-- What a lookup can meet, said of all segments of the map. -/
inductive Located (m : SegmentMap) (side : Side) (bias : Bias) (pos : Offset) : Meeting → Prop where
  | inside (s : Segment) (hs : s ∈ m.segments.toList) (h : s.Holds side bias pos) :
    Located m side bias pos (.inside s)
  | edge (s : Segment) (hs : s ∈ m.segments.toList) (h : s.Touches side pos)
    (hnone : ∀ t ∈ m.segments.toList, ¬ t.Holds side bias pos)
    (hfirst : ∀ t ∈ m.segments.toList, t.Touches side pos → t = s ∨ s.Before t) :
    Located m side bias pos (.edge s)
  | outside (hnone : ∀ t ∈ m.segments.toList, ¬ t.Touches side pos) :
    Located m side bias pos .outside

def ended (m : SegmentMap) (side : Side) (pos : Offset) : List Segment :=
  m.segments.toList.filter fun s => decide (s.stop side < pos)

def unended (m : SegmentMap) (side : Side) (pos : Offset) : List Segment :=
  m.segments.toList.filter fun s => !decide (s.stop side < pos)

theorem mem_ended {m : SegmentMap} {side : Side} {pos : Offset} {s : Segment} :
    s ∈ m.ended side pos ↔ s ∈ m.segments.toList ∧ s.stop side < pos := by
  rw [ended, List.mem_filter, decide_eq_true_eq]

theorem mem_unended {m : SegmentMap} {side : Side} {pos : Offset} {s : Segment} :
    s ∈ m.unended side pos ↔ s ∈ m.segments.toList ∧ pos ≤ s.stop side := by
  rw [unended, List.mem_filter, Bool.not_eq_true', decide_eq_false_iff_not, Fin.not_lt]

/-- Where an offset past the segments can go. -/
inductive Extrapolated (m : SegmentMap) (side : Side) (pos : Offset) : Offset → Prop where
  | ahead (hnone : ∀ t ∈ m.segments.toList, pos ≤ t.stop side) : Extrapolated m side pos pos
  | between (s : Segment) (hs : s ∈ m.segments.toList) (h : s.stop side < pos)
    (hlast : ∀ t ∈ m.segments.toList, t.stop side < pos → t = s ∨ t.Before s)
    (hmore : ∃ t ∈ m.segments.toList, pos ≤ t.stop side) :
    Extrapolated m side pos (s.stop side.other)
  | behind (s : Segment) (hs : s ∈ m.segments.toList) (h : s.stop side < pos)
    (hlast : ∀ t ∈ m.segments.toList, t = s ∨ t.Before s) :
    Extrapolated m side pos ((s.stop side.other).plus (pos.minus (s.stop side)))

namespace WellFormed

variable {m : SegmentMap} (hm : m.WellFormed)

include hm

theorem holds_unique {s t : Segment} (hs : s ∈ m.segments.toList) (ht : t ∈ m.segments.toList)
    {side : Side} {bias : Bias} {pos : Offset} (hsp : s.Holds side bias pos)
    (htp : t.Holds side bias pos) : s = t := by
  rcases rel_or_rel_of_pairwise hm.segments_follow hs ht with heq | hst | hts
  · exact heq
  · exact absurd htp (hst.not_both_hold hsp)
  · exact absurd hsp (hts.not_both_hold htp)

theorem parted_stop_lt (side : Side) (pos : Offset) :
    Bisect.Parted (fun s : Segment => decide (s.stop side < pos)) m.segments.toList := by
  refine parted_stop hm.segments_upright hm.segments_follow side (fun x => decide (x < pos)) ?_
  intro x y hxy hy
  simp only [decide_eq_true_eq] at hy ⊢
  exact Fin.lt_of_le_of_lt hxy hy

theorem parted_start_le (side : Side) (pos : Offset) :
    Bisect.Parted (fun s : Segment => decide (s.start side ≤ pos)) m.segments.toList := by
  refine parted_start hm.segments_upright hm.segments_follow side (fun x => decide (x ≤ pos)) ?_
  intro x y hxy hy
  simp only [decide_eq_true_eq] at hy ⊢
  exact Fin.le_trans hxy hy

/-- The segments that a lookup walks over are those that touch the offset. -/
theorem locate_eq_meet (side : Side) (bias : Bias) (pos : Offset) :
    m.locate side bias pos = meet side bias pos (m.touching side pos) .outside := by
  unfold locate touching
  rw [Bisect.takeWhile_rest (hm.parted_stop_lt side pos) (hm.parted_start_le side pos)]

theorem located (side : Side) (bias : Bias) (pos : Offset) :
    Located m side bias pos (m.locate side bias pos) := by
  rw [hm.locate_eq_meet, meet_eq]
  have hpairs : (m.touching side pos).Pairwise Segment.Before := hm.segments_follow.filter _
  cases hfind : (m.touching side pos).find? fun s => s.holds side bias pos with
  | some s =>
    obtain ⟨hs, htouch⟩ := mem_touching.mp (List.mem_of_find?_eq_some hfind)
    have hholds := List.find?_some hfind
    exact .inside s hs (Segment.holds_iff.mpr ⟨htouch, hholds⟩)
  | none =>
    cases htouching : m.touching side pos with
    | nil =>
      refine .outside ?_
      intro t ht htouch
      have hmet := mem_touching.mpr ⟨ht, htouch⟩
      rw [htouching] at hmet
      cases hmet
    | cons s rest =>
      rw [htouching] at hpairs
      obtain ⟨hs, htouch⟩ := mem_touching.mp (htouching ▸ List.mem_cons_self)
      refine .edge s hs htouch ?_ ?_
      · intro t ht hholds
        have hmet := mem_touching.mpr ⟨ht, hholds.touches⟩
        exact List.find?_eq_none.mp hfind t hmet (Segment.holds_iff.mp hholds).2
      · intro t ht htouch'
        have hmet := mem_touching.mpr ⟨ht, htouch'⟩
        rw [htouching] at hmet
        rcases List.mem_cons.mp hmet with rfl | hrest
        · exact Or.inl rfl
        · exact Or.inr (List.rel_of_pairwise_cons hpairs hrest)

theorem locate_eq_inside_iff {side : Side} {bias : Bias} {pos : Offset} {s : Segment} :
    m.locate side bias pos = .inside s ↔ s ∈ m.segments.toList ∧ s.Holds side bias pos := by
  have hloc := hm.located side bias pos
  constructor
  · intro h
    rw [h] at hloc
    cases hloc with
    | inside _ hs hholds => exact ⟨hs, hholds⟩
  · rintro ⟨hs, hholds⟩
    cases hloc' : m.locate side bias pos with
    | inside t =>
      rw [hloc'] at hloc
      cases hloc with
      | inside _ ht htholds => rw [hm.holds_unique hs ht hholds htholds]
    | edge t =>
      rw [hloc'] at hloc
      cases hloc with
      | edge _ _ _ hnone _ => exact absurd hholds (hnone s hs)
    | outside =>
      rw [hloc'] at hloc
      cases hloc with
      | outside hnone => exact absurd hholds.touches (hnone s hs)

theorem locate_eq_outside_iff {side : Side} {bias : Bias} {pos : Offset} :
    m.locate side bias pos = .outside ↔ ∀ s ∈ m.segments.toList, ¬ s.Touches side pos := by
  have hloc := hm.located side bias pos
  constructor
  · intro h
    rw [h] at hloc
    cases hloc with
    | outside hnone => exact hnone
  · intro hnone
    cases hloc' : m.locate side bias pos with
    | inside t =>
      rw [hloc'] at hloc
      cases hloc with
      | inside _ ht htholds => exact absurd htholds.touches (hnone t ht)
    | edge t =>
      rw [hloc'] at hloc
      cases hloc with
      | edge _ ht htouch _ _ => exact absurd htouch (hnone t ht)
    | outside => rfl

/-! ## Past the segments -/

theorem ended_append_unended (side : Side) (pos : Offset) :
    m.ended side pos ++ m.unended side pos = m.segments.toList := by
  have hparted := hm.parted_stop_lt side pos
  rw [ended, unended, ← hparted.takeWhile_eq_filter, ← hparted.dropWhile_eq_filter]
  exact List.takeWhile_append_dropWhile

theorem eq_or_before_of_ended {side : Side} {pos : Offset} {k : Nat}
    (hk : (m.ended side pos).length = k + 1) {s t : Segment} (hs : (m.ended side pos)[k]? = some s)
    (ht : t ∈ m.ended side pos) : t = s ∨ t.Before s := by
  have hpairs : (m.ended side pos).Pairwise Segment.Before := hm.segments_follow.filter _
  obtain ⟨hlast, rfl⟩ := List.getElem?_eq_some_iff.mp hs
  obtain ⟨i, hi, rfl⟩ := List.getElem_of_mem ht
  rcases Nat.lt_or_ge i k with hik | hki
  · exact Or.inr (List.pairwise_iff_getElem.mp hpairs i k hi hlast hik)
  · have heq : i = k := by omega
    subst heq
    exact Or.inl rfl

theorem extrapolated (side : Side) (pos : Offset) :
    Extrapolated m side pos (m.extrapolate side pos) := by
  have happend := hm.ended_append_unended side pos
  have hsize : m.segments.size = (m.ended side pos).length + (m.unended side pos).length := by
    rw [← Array.length_toList, ← List.length_append, happend]
  unfold extrapolate
  rw [Bisect.splitPoint_eq_length_filter (hm.parted_stop_lt side pos), ← ended]
  cases hlen : (m.ended side pos).length with
  | zero =>
    refine .ahead ?_
    intro t ht
    by_contra hlt
    have hmem := mem_ended.mpr ⟨ht, Fin.not_le.mp hlt⟩
    rw [List.eq_nil_of_length_eq_zero hlen] at hmem
    cases hmem
  | succ k =>
    have hk : k < (m.ended side pos).length := by omega
    have hget : (m.ended side pos)[k]? = some (m.ended side pos)[k] :=
      List.getElem?_eq_getElem hk
    have hprevious : m.segments[k]? = some (m.ended side pos)[k] := by
      rw [← Array.getElem?_toList, ← happend, List.getElem?_append_left hk, hget]
    obtain ⟨hs, hstop⟩ := mem_ended.mp (List.getElem_mem hk)
    simp only [hprevious]
    split
    · -- the bisection stopped inside the list, so a segment is left behind the offset
      rename_i hmore
      refine .between _ hs hstop ?_ ?_
      · intro t ht hlt
        exact hm.eq_or_before_of_ended hlen hget (mem_ended.mpr ⟨ht, hlt⟩)
      · obtain ⟨t, ht⟩ := List.exists_mem_of_length_pos
          (show 0 < (m.unended side pos).length by omega)
        exact ⟨t, mem_unended.mp ht⟩
    · -- it stopped at the end of the list: every segment has ended
      rename_i hall
      have hnil : m.unended side pos = [] := List.eq_nil_of_length_eq_zero (by omega)
      rw [hnil, List.append_nil] at happend
      refine .behind _ hs hstop ?_
      intro t ht
      exact hm.eq_or_before_of_ended hlen hget (happend ▸ ht)

end WellFormed

/-! ## To the other text -/

/-- The offset of one text carried to the other, through the segment that a lookup meets or past
all of them. -/
def carry (m : SegmentMap) (side : Side) (bias : Bias) (pos : Offset) : Except Overflow Offset :=
  match m.locate side bias pos with
  | .inside s | .edge s => s.project side pos
  | .outside => .ok (m.extrapolate side pos)

theorem toExpanded_eq_carry (m : SegmentMap) (bias : Bias) (pos : Offset) :
    m.toExpanded bias pos = m.carry .source bias pos := rfl

/-- The segment that carries an offset: the one that holds it, else the first that touches it. -/
structure Carrier (m : SegmentMap) (side : Side) (bias : Bias) (pos : Offset) (s : Segment) :
    Prop where
  mem : s ∈ m.segments.toList
  touches : s.Touches side pos
  chosen : s.Holds side bias pos ∨
    (∀ t ∈ m.segments.toList, ¬ t.Holds side bias pos) ∧
      ∀ t ∈ m.segments.toList, t.Touches side pos → t = s ∨ s.Before t

/-- The four ways in which an offset reaches the other text: unchanged before all segments, through
a segment, to the end of the segment before a gap, and at its distance from the last segment. -/
inductive Carried (m : SegmentMap) (side : Side) (bias : Bias) (pos : Offset) : Offset → Prop where
  | ahead (h : ∀ t ∈ m.segments.toList, pos < t.start side) : Carried m side bias pos pos
  | through (s : Segment) (hs : m.Carrier side bias pos s) {x : Offset}
    (h : s.project side pos = .ok x) : Carried m side bias pos x
  | between (s : Segment) (hs : s ∈ m.segments.toList) (h : s.stop side < pos)
    (hlast : ∀ t ∈ m.segments.toList, t.start side ≤ pos → t = s ∨ t.Before s)
    (hmore : ∃ t ∈ m.segments.toList, pos < t.start side) :
    Carried m side bias pos (s.stop side.other)
  | behind (s : Segment) (hs : s ∈ m.segments.toList) (h : s.stop side < pos)
    (hlast : ∀ t ∈ m.segments.toList, t = s ∨ t.Before s) :
    Carried m side bias pos ((s.stop side.other).plus (pos.minus (s.stop side)))

namespace WellFormed

variable {m : SegmentMap} (hm : m.WellFormed)

include hm

theorem carrier_unique {side : Side} {bias : Bias} {pos : Offset} {s t : Segment}
    (hs : m.Carrier side bias pos s) (ht : m.Carrier side bias pos t) : s = t := by
  rcases hs.chosen with hsp | ⟨hsnone, hsfirst⟩
  · rcases ht.chosen with htp | ⟨htnone, _⟩
    · exact hm.holds_unique hs.mem ht.mem hsp htp
    · exact absurd hsp (htnone s hs.mem)
  · rcases ht.chosen with htp | ⟨_, htfirst⟩
    · exact absurd htp (hsnone t ht.mem)
    · rcases hsfirst t ht.mem ht.touches with heq | hst
      · exact heq.symm
      · rcases htfirst s hs.mem hs.touches with heq | hts
        · exact heq
        · -- each before the other: both are empty and at the same place of both texts
          exact hst.antisymm hts (hm.segments_upright s hs.mem) (hm.segments_upright t ht.mem)

theorem carry_cases (side : Side) (bias : Bias) (pos : Offset) :
    (∃ s, m.Carrier side bias pos s ∧ m.carry side bias pos = s.project side pos) ∨
      ((∀ t ∈ m.segments.toList, ¬ t.Touches side pos) ∧
        m.carry side bias pos = .ok (m.extrapolate side pos)) := by
  have hloc := hm.located side bias pos
  unfold carry
  cases hmet : m.locate side bias pos with
  | inside s =>
    rw [hmet] at hloc
    cases hloc with
    | inside _ hs h => exact Or.inl ⟨s, ⟨hs, h.touches, Or.inl h⟩, rfl⟩
  | edge s =>
    rw [hmet] at hloc
    cases hloc with
    | edge _ hs h hnone hfirst => exact Or.inl ⟨s, ⟨hs, h, Or.inr ⟨hnone, hfirst⟩⟩, rfl⟩
  | outside => exact Or.inr ⟨hm.locate_eq_outside_iff.mp hmet, rfl⟩

theorem carry_eq_project {side : Side} {bias : Bias} {pos : Offset} {s : Segment}
    (hs : m.Carrier side bias pos s) : m.carry side bias pos = s.project side pos := by
  rcases hm.carry_cases side bias pos with ⟨t, ht, hcarry⟩ | ⟨hnone, _⟩
  · rw [hcarry, hm.carrier_unique hs ht]
  · exact absurd hs.touches (hnone s hs.mem)

theorem carry_of_holds {side : Side} {bias : Bias} {pos : Offset} {s : Segment}
    (hs : s ∈ m.segments.toList) (h : s.Holds side bias pos) :
    m.carry side bias pos = s.project side pos :=
  hm.carry_eq_project ⟨hs, h.touches, Or.inl h⟩

theorem carried {side : Side} {bias : Bias} {pos x : Offset}
    (h : m.carry side bias pos = .ok x) : Carried m side bias pos x := by
  rcases hm.carry_cases side bias pos with ⟨s, hs, hcarry⟩ | ⟨hnone, hcarry⟩
  · exact .through s hs (hcarry ▸ h)
  · rw [hcarry] at h
    obtain rfl := Except.ok.inj h
    -- an offset that no segment touches is before a segment or behind it
    have hside : ∀ t ∈ m.segments.toList, pos < t.start side ∨ t.stop side < pos := by
      intro t ht
      have htouch := hnone t ht
      simp only [Segment.Touches, Fin.le_def] at htouch
      simp only [Fin.lt_def]
      omega
    have hpast := hm.extrapolated side pos
    generalize m.extrapolate side pos = x at hpast
    cases hpast with
    | ahead hstop =>
      refine .ahead ?_
      intro t ht
      exact (hside t ht).resolve_right (Fin.not_lt.mpr (hstop t ht))
    | between s hs hstop hlast hmore =>
      refine .between s hs hstop ?_ ?_
      · intro t ht hstart
        exact hlast t ht ((hside t ht).resolve_left (Fin.not_lt.mpr hstart))
      · obtain ⟨t, ht, htstop⟩ := hmore
        exact ⟨t, ht, (hside t ht).resolve_right (Fin.not_lt.mpr htstop)⟩
    | behind s hs hstop hlast => exact .behind s hs hstop hlast

theorem carry_eq_error_iff {side : Side} {bias : Bias} {pos : Offset} {e : Overflow} :
    m.carry side bias pos = .error e ↔
      ∃ s, m.Carrier side bias pos s ∧ Offset.last.val < s.reach side pos := by
  constructor
  · intro h
    rcases hm.carry_cases side bias pos with ⟨s, hs, hcarry⟩ | ⟨_, hcarry⟩
    · rw [hcarry] at h
      exact ⟨s, hs, Segment.project_eq_error_iff.mp h⟩
    · rw [hcarry] at h
      cases h
  · rintro ⟨s, hs, hreach⟩
    rw [hm.carry_eq_project hs]
    exact Segment.project_eq_error_iff.mpr hreach

end WellFormed

end SegmentMap

end Palimpsest.Mapping
