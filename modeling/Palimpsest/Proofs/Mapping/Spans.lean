import Palimpsest.Mapping.Mapper

/-!
# Spans by their ends

A span is carried by its two ends. The lemmas here take the lookups of the ends as given, so that
a fact about spans is a fact about two lookups: `spanToExpanded_eq` and `spanToSource_eq` for spans
that are carried, `ends_of_spanToExpanded` and `ends_of_spanToSource` for what was carried,
`spanToSource_eq_none_iff` for spans that are refused, and `spanToExpanded_eq_error_iff` and
`spanToSource_eq_error_iff` for spans of which a lookup fails.
-/

namespace Palimpsest

namespace Span

theorem isEmpty_eq_false_iff {span : Span} : span.isEmpty = false ↔ 0 < span.length.val := by
  simp only [isEmpty, beq_eq_false_iff_ne]
  omega

theorem val_stop {span : Span} (h : span.start.val + span.length.val ≤ Offset.last.val) :
    span.stop.val = span.start.val + span.length.val := by
  rw [Offset.val_last] at h
  simp only [stop, Offset.val_plus]
  omega

theorem stop_between {start stop : Offset} (h : start ≤ stop) : (between start stop).stop = stop := by
  rw [Fin.le_def] at h
  apply Fin.ext
  simp only [between, Span.stop, Offset.val_plus, Offset.val_minus]
  omega

theorem length_between_pos {start stop : Offset} (h : start < stop) :
    0 < (between start stop).length.val := by
  rw [Fin.lt_def] at h
  simp only [between, Offset.val_minus]
  omega

theorem between_start_stop {span : Span} (h : span.start.val + span.length.val ≤ Offset.last.val) :
    between span.start span.stop = span := by
  have hlength : span.stop.minus span.start = span.length := by
    apply Fin.ext
    rw [Offset.val_minus, val_stop h]
    omega
  cases span
  rw [between, hlength]

end Span

namespace Mapping.Mapper

variable {m : Mapper} {span : Span} {x y : Offset}

theorem spanToExpanded_eq (hne : 0 < span.length.val)
    (hstart : m.toExpanded .start span.start = .ok x)
    (hstop : m.toExpanded .stop span.stop = .ok y) :
    m.spanToExpanded span = .ok (.between x y) := by
  unfold spanToExpanded
  rw [hstart, Span.isEmpty_eq_false_iff.mpr hne, hstop]
  rfl

theorem spanToSource_eq (hne : 0 < span.length.val)
    (hstart : m.toSource .start span.start = .ok (some x))
    (hstop : m.toSource .stop span.stop = .ok (some y)) :
    m.spanToSource span = .ok (some (.between x y)) := by
  unfold spanToSource
  rw [hstart, Span.isEmpty_eq_false_iff.mpr hne, hstop]
  rfl

/-- The image of a span that was carried runs between the images of its ends; an empty span has one
end only. -/
theorem ends_of_spanToExpanded {image : Span} (h : m.spanToExpanded span = .ok image) :
    ∃ x y, m.toExpanded .start span.start = .ok x ∧
      (0 < span.length.val → m.toExpanded .stop span.stop = .ok y) ∧
      (span.length.val = 0 → y = x) ∧ image = .between x y := by
  unfold spanToExpanded at h
  cases hstart : m.toExpanded .start span.start with
  | error e => simp [hstart, bind, Except.bind] at h
  | ok x =>
    by_cases hlength : span.length.val = 0
    · simp only [hstart, Span.isEmpty, hlength, beq_self_eq_true, if_true, bind, Except.bind, pure,
        Except.pure, Except.ok.injEq] at h
      exact ⟨x, x, rfl, fun hpos => absurd hlength (Nat.ne_of_gt hpos), fun _ => rfl, h.symm⟩
    · have hpos : 0 < span.length.val := Nat.pos_of_ne_zero hlength
      rw [hstart, Span.isEmpty_eq_false_iff.mpr hpos] at h
      cases hstop : m.toExpanded .stop span.stop with
      | error e => simp [hstop, bind, Except.bind] at h
      | ok y =>
        simp only [hstop, bind, Except.bind, pure, Except.pure, Bool.false_eq_true, if_false,
          Except.ok.injEq] at h
        exact ⟨x, y, rfl, fun _ => rfl, fun hzero => absurd hzero hlength, h.symm⟩

theorem ends_of_spanToSource {image : Span} (h : m.spanToSource span = .ok (some image)) :
    ∃ x y, m.toSource .start span.start = .ok (some x) ∧
      (0 < span.length.val → m.toSource .stop span.stop = .ok (some y)) ∧
      (span.length.val = 0 → y = x) ∧ image = .between x y := by
  unfold spanToSource at h
  cases hstart : m.toSource .start span.start with
  | error e => simp [hstart, bind, Except.bind] at h
  | ok first =>
    cases first with
    | none => simp [hstart, bind, Except.bind, pure, Except.pure] at h
    | some x =>
      by_cases hlength : span.length.val = 0
      · simp only [hstart, Span.isEmpty, hlength, beq_self_eq_true, if_true, bind, Except.bind,
          pure, Except.pure, Except.ok.injEq, Option.some.injEq] at h
        exact ⟨x, x, rfl, fun hpos => absurd hlength (Nat.ne_of_gt hpos), fun _ => rfl, h.symm⟩
      · have hpos : 0 < span.length.val := Nat.pos_of_ne_zero hlength
        rw [hstart, Span.isEmpty_eq_false_iff.mpr hpos] at h
        cases hstop : m.toSource .stop span.stop with
        | error e => simp [hstop, bind, Except.bind] at h
        | ok last =>
          cases last with
          | none => simp [hstop, bind, Except.bind, pure, Except.pure] at h
          | some y =>
            simp only [hstop, bind, Except.bind, pure, Except.pure, Bool.false_eq_true, if_false,
              Except.ok.injEq, Option.some.injEq] at h
            exact ⟨x, y, rfl, fun _ => rfl, fun hzero => absurd hzero hlength, h.symm⟩

/-- A span is refused just where its first end is, or where it is not empty, its first end is
carried and its second end is refused. -/
theorem spanToSource_eq_none_iff :
    m.spanToSource span = .ok none ↔
      m.toSource .start span.start = .ok none ∨
        0 < span.length.val ∧ (∃ x, m.toSource .start span.start = .ok (some x)) ∧
          m.toSource .stop span.stop = .ok none := by
  unfold spanToSource
  cases hstart : m.toSource .start span.start with
  | error e => simp [bind, Except.bind]
  | ok first =>
    cases first with
    | none => simp [bind, Except.bind, pure, Except.pure]
    | some x =>
      cases hempty : span.isEmpty with
      | true =>
        have hzero : ¬ 0 < span.length.val := by
          rw [← Span.isEmpty_eq_false_iff, hempty]
          decide
        simp [bind, Except.bind, pure, Except.pure, hzero]
      | false =>
        have hpos := Span.isEmpty_eq_false_iff.mp hempty
        cases hstop : m.toSource .stop span.stop with
        | error e => simp [bind, Except.bind]
        | ok last => cases last <;> simp [bind, Except.bind, pure, Except.pure, hpos]

/-- Carrying a span fails just where the lookup of its first end fails, or that of its second where
it has one. -/
theorem spanToExpanded_eq_error_iff {e : Overflow} :
    m.spanToExpanded span = .error e ↔
      m.toExpanded .start span.start = .error e ∨
        0 < span.length.val ∧ (∃ x, m.toExpanded .start span.start = .ok x) ∧
          m.toExpanded .stop span.stop = .error e := by
  unfold spanToExpanded
  cases hstart : m.toExpanded .start span.start with
  | error e' => simp [bind, Except.bind]
  | ok x =>
    cases hempty : span.isEmpty with
    | true =>
      have hzero : ¬ 0 < span.length.val := by
        rw [← Span.isEmpty_eq_false_iff, hempty]
        decide
      simp [bind, Except.bind, pure, Except.pure, hzero]
    | false =>
      have hpos := Span.isEmpty_eq_false_iff.mp hempty
      cases hstop : m.toExpanded .stop span.stop with
      | error e' => simp [bind, Except.bind, hpos]
      | ok y => simp [bind, Except.bind, pure, Except.pure]

theorem spanToSource_eq_error_iff {e : Overflow} :
    m.spanToSource span = .error e ↔
      m.toSource .start span.start = .error e ∨
        0 < span.length.val ∧ (∃ x, m.toSource .start span.start = .ok (some x)) ∧
          m.toSource .stop span.stop = .error e := by
  unfold spanToSource
  cases hstart : m.toSource .start span.start with
  | error e' => simp [bind, Except.bind]
  | ok first =>
    cases first with
    | none => simp [bind, Except.bind, pure, Except.pure]
    | some x =>
      cases hempty : span.isEmpty with
      | true =>
        have hzero : ¬ 0 < span.length.val := by
          rw [← Span.isEmpty_eq_false_iff, hempty]
          decide
        simp [bind, Except.bind, pure, Except.pure, hzero]
      | false =>
        have hpos := Span.isEmpty_eq_false_iff.mp hempty
        cases hstop : m.toSource .stop span.stop with
        | error e' => simp [bind, Except.bind, hpos]
        | ok last => cases last <;> simp [bind, Except.bind, pure, Except.pure]

end Mapping.Mapper

end Palimpsest
