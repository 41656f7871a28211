import Palimpsest.Proofs.Mapping.Outline
import Palimpsest.Proofs.Mapping.Spans

/-!
# Results that the identity carries

Where nothing is known about the layout of an expansion, positions are carried unchanged. A span is
carried by its two ends all the same, and comes back as it was only if its end is an offset: a span
that runs past the largest offset would be cut off there.

1. `Span.Fits`: the end of a span is an offset.
2. `Bounded`: the results of a service all of whose spans fit, however deep they stand.
3. `spanToSource_identity` and one lemma for each kind of result: what fits is carried unchanged.
-/

namespace Palimpsest

namespace Span

variable {span : Span}

def Fits (span : Span) : Prop := span.start.val + span.length.val < 0x10000000000000000

theorem Fits.between (h : span.Fits) : between span.start span.stop = span := by
  apply between_start_stop
  rw [Offset.val_last]
  exact Nat.le_of_lt_succ h

theorem between_of_isEmpty (h : span.isEmpty = true) :
    between span.start span.start = span := by
  have hlength : span.length.val = 0 := beq_iff_eq.mp h
  obtain ⟨start, length⟩ := span
  simp only [between, mk.injEq, true_and]
  apply Fin.ext
  rw [Offset.val_minus, hlength, Nat.sub_self]

end Span

namespace Analysis

/-- Results of which it can be said that all their spans fit. -/
class Bounded (α : Type) where
  Fits : α → Prop

open Bounded (Fits)

instance boundedList {α : Type} [Bounded α] : Bounded (List α) := ⟨fun list => ∀ a ∈ list, Fits a⟩

instance boundedOption {α : Type} [Bounded α] : Bounded (Option α) :=
  ⟨fun found => ∀ a, found = some a → Fits a⟩

instance boundedDiagnostic : Bounded Diagnostic :=
  ⟨fun d => ∀ span, d.span = some span → span.Fits⟩

instance boundedQuickInfo : Bounded QuickInfo := ⟨fun info => info.span.Fits⟩

instance boundedCompletion : Bounded CompletionEntry :=
  ⟨fun c => ∀ span, c.replacement = some span → span.Fits⟩

instance boundedCompletions : Bounded CompletionList := ⟨fun list => Fits list.entries⟩

instance boundedLocation : Bounded Location := ⟨fun l => l.span.Fits⟩

instance boundedReference : Bounded ReferenceEntry := ⟨fun r => Fits r.location⟩

instance boundedRename : Bounded RenameInfo :=
  ⟨fun info => ∀ name trigger, info = .available name trigger → trigger.Fits⟩

instance boundedHighlight : Bounded Highlight := ⟨fun h => h.span.Fits⟩

/-- Both spans of an item and of all that is inside it. -/
instance boundedItem : Bounded OutlineItem :=
  ⟨fun item => ∀ part : OutlineItem, part.Occurs [item] → part.span.Fits ∧ part.selection.Fits⟩

instance boundedHint : Bounded InlayHint := ⟨fun _ => True⟩

end Analysis

namespace Mapping.Mapper

open Analysis
open Bounded (Fits)

variable {span : Span}

theorem spanToSource_identity (h : span.Fits) : identity.spanToSource span = .ok (some span) := by
  unfold spanToSource
  simp only [toSource, bind, Except.bind, pure, Except.pure]
  split
  · rename_i hempty
    rw [Span.between_of_isEmpty hempty]
  · rw [h.between]

theorem spanToExpanded_identity (h : span.Fits) : identity.spanToExpanded span = .ok span := by
  unfold spanToExpanded
  simp only [toExpanded, bind, Except.bind, pure, Except.pure]
  cases hempty : span.isEmpty with
  | true =>
    simp only [if_true]
    rw [Span.between_of_isEmpty hempty]
  | false =>
    simp only [Bool.false_eq_true, if_false]
    rw [h.between]

theorem completionToSource_identity {c : CompletionEntry} (h : Fits c) :
    identity.completionToSource c = .ok (some c) := by
  obtain ⟨name, kind, detail, replacement⟩ := c
  cases replacement with
  | none => rfl
  | some span =>
    simp only [completionToSource]
    rw [spanToSource_identity (h span rfl)]
    rfl

theorem highlightToSource_identity {highlight : Highlight} (h : Fits highlight) :
    identity.highlightToSource highlight = .ok (some highlight) := by
  unfold highlightToSource
  rw [spanToSource_identity h]
  rfl

theorem renameToSource_identity {info : RenameInfo} (h : Fits info) :
    identity.renameToSource info = .ok info := by
  cases info with
  | unavailable reason => rfl
  | available name trigger =>
    simp only [renameToSource]
    rw [spanToSource_identity (h name trigger rfl)]
    rfl

mutual

theorem itemToSource_identity (item : OutlineItem) (h : Fits item) :
    identity.itemToSource item = .ok (some item) := by
  obtain ⟨name, kind, span, selection, children⟩ := item
  have hself := h (.mk name kind span selection children) (.here List.mem_cons_self)
  have hchildren : Fits children := by
    intro child hchild part hpart
    refine h part (.inside _ List.mem_cons_self ?_)
    cases hpart with
    | here hpart =>
      rw [List.mem_singleton] at hpart
      exact .here (hpart ▸ hchild)
    | inside parent hparent hpart =>
      rw [List.mem_singleton] at hparent
      exact .inside parent (hparent ▸ hchild) hpart
  rw [itemToSource_eq_some_iff]
  exact ⟨spanToSource_identity hself.1, spanToSource_identity hself.2,
    outlineToSource_identity children hchildren, rfl, rfl⟩

theorem outlineToSource_identity (items : List OutlineItem) (h : Fits items) :
    identity.outlineToSource items = .ok items := by
  cases items with
  | nil => rfl
  | cons item rest =>
    rw [outlineToSource, itemToSource_identity item (h item List.mem_cons_self),
      outlineToSource_identity rest fun other hother => h other (List.mem_cons_of_mem item hother)]
    rfl

end

end Mapping.Mapper

end Palimpsest
