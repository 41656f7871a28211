import Palimpsest.Proofs.Mapping.Refusal

/-!
# A lookup finds what a scan finds

A lookup halves the list of segments by their ends in either text, although the list is sorted by
the expanded text only, and it stops at the first segment that starts behind the offset. A scan
looks at every segment and needs no order among them:

1. `scanCarrier?`: the segment that holds the offset, else the first that touches it;
2. `scan`: where the offset goes through that segment, or past all of them.

In a well-formed map the two agree. `locate_eq_scan` says so of the segment that a lookup meets,
`extrapolate_eq_scan` of the offsets that it does not find in any, and `carry_eq_ok_scan` of
carrying as a whole. `lookups_agree_with_scan` is the statement for accepted maps.
-/

namespace Palimpsest.Mapping

instance (s : Segment) (side : Side) (pos : Offset) : Decidable (s.Touches side pos) :=
  inferInstanceAs (Decidable (_ ∧ _))

instance (s : Segment) (side : Side) (bias : Bias) (pos : Offset) :
    Decidable (s.Holds side bias pos) :=
  match bias with
  | .start => inferInstanceAs (Decidable (_ ∧ _))
  | .stop => inferInstanceAs (Decidable (_ ∧ _))

/-! ## Looking at every segment -/

/-- The first segment that holds the offset, else the first that touches it. -/
def scanCarrier? (segments : List Segment) (side : Side) (bias : Bias) (pos : Offset) :
    Option Segment :=
  match segments.find? fun s => decide (s.Holds side bias pos) with
  | some s => some s
  | none => segments.find? fun s => decide (s.Touches side pos)

def scanEnded? (segments : List Segment) (side : Side) (pos : Offset) : Option Segment :=
  (segments.filter fun s => decide (s.stop side < pos)).getLast?

/-- Where an offset goes that no segment touches: nowhere else if all segments start behind it, to
the far end of the last segment that ends before it if some segment starts behind it, and otherwise
as far behind that end as it is behind the segment, but not past the largest offset. -/
def scanPast (segments : List Segment) (side : Side) (pos : Offset) : Nat :=
  if ∀ s ∈ segments, pos < s.start side then pos.val
  else
    match scanEnded? segments side pos with
    | none => pos.val
    | some s =>
      if ∃ t ∈ segments, pos < t.start side then (s.stop side.other).val
      else min ((s.stop side.other).val + (pos.val - (s.stop side).val)) Offset.last.val

/-- Where an offset goes. Through a segment, it is as far behind the far start as it was behind the
near one, or at the far end if that comes first; this sum has no bounds. -/
def scan (segments : List Segment) (side : Side) (bias : Bias) (pos : Offset) : Nat :=
  match scanCarrier? segments side bias pos with
  | some s =>
    min ((s.start side.other).val + (pos.val - (s.start side).val)) (s.stop side.other).val
  | none => scanPast segments side pos

/-- The sum through the chosen segment is past the largest offset, before it is cut down. -/
def ScanOverflows (segments : List Segment) (side : Side) (bias : Bias) (pos : Offset) : Prop :=
  ∃ s, scanCarrier? segments side bias pos = some s ∧
    Offset.last.val < (s.start side.other).val + (pos.val - (s.start side).val)

namespace SegmentMap

def scanMeeting (segments : List Segment) (side : Side) (bias : Bias) (pos : Offset) : Meeting :=
  match segments.find? fun s => decide (s.Holds side bias pos) with
  | some s => .inside s
  | none =>
    match segments.find? fun s => decide (s.Touches side pos) with
    | some s => .edge s
    | none => .outside

theorem touching_eq_filter (m : SegmentMap) (side : Side) (pos : Offset) :
    m.touching side pos = m.segments.toList.filter fun s => decide (s.Touches side pos) := by
  unfold touching
  congr 1
  funext s
  rw [Bool.eq_iff_iff, Bool.and_eq_true, Bool.not_eq_true', decide_eq_false_iff_not,
    decide_eq_true_eq, decide_eq_true_eq, Fin.not_lt]
  exact And.comm

theorem find?_touching (m : SegmentMap) (side : Side) (bias : Bias) (pos : Offset) :
    ((m.touching side pos).find? fun s => s.holds side bias pos) =
      m.segments.toList.find? fun s => decide (s.Holds side bias pos) := by
  rw [touching_eq_filter, List.find?_filter]
  congr 1
  funext s
  rw [Bool.eq_iff_iff, decide_eq_true_eq, decide_eq_true_eq, decide_eq_true_eq]
  exact Segment.holds_iff.symm

theorem not_touches_of_scanCarrier? {segments : List Segment} {side : Side} {bias : Bias}
    {pos : Offset} (h : scanCarrier? segments side bias pos = none) :
    ∀ s ∈ segments, ¬ s.Touches side pos := by
  intro s hs htouch
  unfold scanCarrier? at h
  split at h
  · cases h
  · exact List.find?_eq_none.mp h s hs (decide_eq_true htouch)

namespace WellFormed

variable {m : SegmentMap} (hm : m.WellFormed)

include hm

theorem holds_index_unique {side : Side} {bias : Bias} {pos : Offset} {i j : Nat} {s t : Segment}
    (hi : m.segments[i]? = some s) (hj : m.segments[j]? = some t) (hs : s.Holds side bias pos)
    (ht : t.Holds side bias pos) : i = j := by
  obtain ⟨hi', rfl⟩ := Array.getElem?_eq_some_iff.mp hi
  obtain ⟨hj', rfl⟩ := Array.getElem?_eq_some_iff.mp hj
  have hfollow := List.pairwise_iff_getElem.mp hm.segments_follow
  rcases Nat.lt_trichotomy i j with hlt | heq | hgt
  · exact absurd ht ((hfollow i j hi' hj' hlt).not_both_hold hs)
  · exact heq
  · exact absurd hs ((hfollow j i hj' hi' hgt).not_both_hold ht)

/-- The two bisections of a lookup leave out no segment that a scan would find. -/
theorem locate_eq_scan (side : Side) (bias : Bias) (pos : Offset) :
    m.locate side bias pos = scanMeeting m.segments.toList side bias pos := by
  rw [hm.locate_eq_meet, meet_eq, find?_touching, touching_eq_filter, List.head?_filter]
  rfl

/-- Past the segments, the last one that ends before the offset decides. -/
theorem extrapolate_eq (side : Side) (pos : Offset) :
    m.extrapolate side pos =
      match scanEnded? m.segments.toList side pos with
      | none => pos
      | some s =>
        if m.unended side pos = [] then (s.stop side.other).plus (pos.minus (s.stop side))
        else s.stop side.other := by
  have happend := hm.ended_append_unended side pos
  have hsize : m.segments.size = (m.ended side pos).length + (m.unended side pos).length := by
    rw [← Array.length_toList, ← List.length_append, happend]
  have hscan : scanEnded? m.segments.toList side pos = (m.ended side pos).getLast? := rfl
  unfold extrapolate
  rw [Bisect.splitPoint_eq_length_filter (hm.parted_stop_lt side pos), ← ended, hscan]
  cases hlen : (m.ended side pos).length with
  | zero => simp [List.eq_nil_of_length_eq_zero hlen]
  | succ k =>
    -- the place before the one where the bisection stops is that of the last segment that has ended
    have hget : m.segments[k]? = (m.ended side pos).getLast? := by
      rw [List.getLast?_eq_getElem?, hlen, ← Array.getElem?_toList, ← happend]
      exact List.getElem?_append_left (by omega)
    have hrest : m.unended side pos = [] ↔ ¬ k + 1 < m.segments.size := by
      rw [← List.length_eq_zero_iff]
      omega
    simp only [hget]
    cases (m.ended side pos).getLast? with
    | none => rfl
    | some s =>
      by_cases hmore : k + 1 < m.segments.size
      · simp [hmore, hrest]
      · simp [hmore, hrest]

theorem extrapolate_eq_scan {side : Side} {pos : Offset}
    (hnone : ∀ s ∈ m.segments.toList, ¬ s.Touches side pos) :
    (m.extrapolate side pos).val = scanPast m.segments.toList side pos := by
  -- every segment is before the offset or behind it
  have hside : ∀ s ∈ m.segments.toList, pos ≤ s.stop side ↔ pos < s.start side := by
    intro s hs
    have hupright := hm.segments_upright s hs side
    have htouch := hnone s hs
    simp only [Segment.Touches, Fin.le_def] at htouch hupright
    simp only [Fin.le_def, Fin.lt_def]
    omega
  have hmore : m.unended side pos = [] ↔ ¬ ∃ t ∈ m.segments.toList, pos < t.start side := by
    rw [List.eq_nil_iff_forall_not_mem]
    constructor
    · rintro hnil ⟨t, ht, hlt⟩
      exact hnil t (mem_unended.mpr ⟨ht, (hside t ht).mpr hlt⟩)
    · intro hnot t hmem
      obtain ⟨ht, hle⟩ := mem_unended.mp hmem
      exact hnot ⟨t, ht, (hside t ht).mp hle⟩
  rw [hm.extrapolate_eq]
  unfold scanPast
  by_cases hall : ∀ s ∈ m.segments.toList, pos < s.start side
  · -- no segment has ended
    have hended : scanEnded? m.segments.toList side pos = none := by
      rw [scanEnded?, List.getLast?_eq_none_iff, List.filter_eq_nil_iff]
      intro s hs
      rw [decide_eq_true_eq, Fin.not_lt]
      exact (hside s hs).mpr (hall s hs)
    rw [if_pos hall, hended]
  · rw [if_neg hall]
    cases scanEnded? m.segments.toList side pos with
    | none => rfl
    | some s =>
      by_cases hexists : ∃ t ∈ m.segments.toList, pos < t.start side
      · simp only [if_pos hexists, if_neg (fun hnil => hmore.mp hnil hexists)]
      · simp only [if_neg hexists, if_pos (hmore.mpr hexists), Offset.val_plus, Offset.val_minus,
          Offset.val_last]

theorem carry_eq_scan (side : Side) (bias : Bias) (pos : Offset) :
    m.carry side bias pos =
      match scanCarrier? m.segments.toList side bias pos with
      | some s => s.project side pos
      | none => .ok (m.extrapolate side pos) := by
  unfold carry scanCarrier?
  rw [hm.locate_eq_scan, scanMeeting]
  cases m.segments.toList.find? fun s => decide (s.Holds side bias pos) with
  | some s => rfl
  | none => cases m.segments.toList.find? fun s => decide (s.Touches side pos) <;> rfl

theorem carry_eq_ok_scan {side : Side} {bias : Bias} {pos x : Offset}
    (h : m.carry side bias pos = .ok x) : x.val = scan m.segments.toList side bias pos := by
  rw [hm.carry_eq_scan] at h
  unfold scan
  cases hcarrier : scanCarrier? m.segments.toList side bias pos with
  | some s =>
    rw [hcarrier] at h
    exact (Segment.project_eq_ok_iff.mp h).2
  | none =>
    rw [hcarrier] at h
    obtain rfl := Except.ok.inj h
    exact hm.extrapolate_eq_scan (not_touches_of_scanCarrier? hcarrier)

theorem carry_eq_error_scan {side : Side} {bias : Bias} {pos : Offset} {e : Overflow} :
    m.carry side bias pos = .error e ↔ ScanOverflows m.segments.toList side bias pos := by
  rw [hm.carry_eq_scan, ScanOverflows]
  cases scanCarrier? m.segments.toList side bias pos with
  | some s =>
    show s.project side pos = .error e ↔ _
    rw [Segment.project_eq_error_iff]
    simp [Segment.reach]
  | none => simp

end WellFormed

end SegmentMap

/-- **A lookup finds what a scan of all segments finds.** For every accepted map, either bias and
every offset:

1. at most one stored segment holds the offset, in either text;
2. a source offset fails to be carried exactly if the sum through the segment that a scan chooses is
   too large, and otherwise goes where the scan puts it;
3. an expanded offset is refused exactly if a region covers it, fails exactly if none does and the
   sum is too large, and otherwise goes where the scan puts it. -/
theorem lookups_agree_with_scan {segments : List Segment} {regions : List Region} {m : SegmentMap}
    (h : SegmentMap.build segments regions = .ok m) :
    (∀ side bias pos (i j : Nat) (s t : Segment), m.segments[i]? = some s →
      m.segments[j]? = some t → s.Holds side bias pos → t.Holds side bias pos → i = j) ∧
    (∀ bias pos, m.toExpanded bias pos = .error .sum ↔
      ScanOverflows m.segments.toList .source bias pos) ∧
    (∀ bias pos x, m.toExpanded bias pos = .ok x →
      x.val = scan m.segments.toList .source bias pos) ∧
    (∀ bias pos, m.toSource bias pos = .ok none ↔ ∃ r ∈ m.regions.toList, r.Covers bias pos) ∧
    (∀ bias pos, m.toSource bias pos = .error .sum ↔
      (¬ ∃ r ∈ m.regions.toList, r.Covers bias pos) ∧
        ScanOverflows m.segments.toList .expanded bias pos) ∧
    ∀ bias pos x, m.toSource bias pos = .ok (some x) →
      x.val = scan m.segments.toList .expanded bias pos := by
  have hm := SegmentMap.build_wellFormed h
  refine ⟨?_, fun _ _ => hm.carry_eq_error_scan, fun _ _ _ hx => hm.carry_eq_ok_scan hx,
    fun _ _ => hm.toSource_eq_none_iff, ?_, ?_⟩
  · intro side bias pos i j s t hi hj hs ht
    exact hm.holds_index_unique hi hj hs ht
  · intro bias pos
    rw [hm.toSource_eq_error_iff, ← hm.carry_eq_error_iff (e := .sum), hm.carry_eq_error_scan]
  · intro bias pos x hx
    exact hm.carry_eq_ok_scan (hm.carry_of_toSource hx)

/-- In the sample map: an offset that ends one run and begins another, with an empty segment between
them, seen from both sides; one behind all segments; and the end of the last run on the way back. -/
theorem sample_scanned :
    SegmentMap.build [⟨10, 25, 30, 45⟩, ⟨0, 10, 0, 10⟩, ⟨10, 10, 30, 30⟩] [⟨10, 30, "Debug"⟩] =
        .ok SegmentMap.sample ∧
      scan SegmentMap.sample.segments.toList .source .stop 10 = 10 ∧
      scan SegmentMap.sample.segments.toList .source .start 10 = 30 ∧
      scan SegmentMap.sample.segments.toList .source .start 40 = 60 ∧
      scan SegmentMap.sample.segments.toList .expanded .stop 45 = 25 := by
  obtain ⟨-, -, hexpanded, -, -, hsource⟩ := lookups_agree_with_scan SegmentMap.build_sample
  exact ⟨SegmentMap.build_sample, (hexpanded .stop 10 10 (by decide +kernel)).symm,
    (hexpanded .start 10 30 (by decide +kernel)).symm,
    (hexpanded .start 40 60 (by decide +kernel)).symm,
    (hsource .stop 45 25 (by decide +kernel)).symm⟩

end Palimpsest.Mapping
