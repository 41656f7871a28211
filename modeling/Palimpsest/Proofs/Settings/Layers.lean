import Palimpsest.Proofs.Dictionary
import Palimpsest.Settings.Basic

/-!
# Laws of layering

Settings files are laid over each other two at a time. Which two are taken first does not matter,
a file laid over itself is that file, and a file that is not there or says nothing changes
nothing (`layering_laws`). So any number of files can be layered, with one result.

The parts of a layer are merged in three ways, and each has these laws:

1. single values by `Option.or`;
2. free-form switches by name (`Dictionary.merge_assoc`, `Dictionary.merge_self`);
3. manifests by filtering the lower ones: a name is among the merged manifests exactly if it is
   among the upper or the lower ones (`any_name_mergeProviders`), so that it does not matter which
   names are taken out first.

A part that may be missing as a whole keeps the laws (`Option.merge`).
-/

namespace Palimpsest.Settings

open Provider (Manifest)

/-! ## Manifests -/

theorem any_name_mergeProviders (fallback primary : List Manifest) (name : String) :
    (mergeProviders fallback primary).any (·.name == name) =
      (primary.any (·.name == name) || fallback.any (·.name == name)) := by
  rw [mergeProviders, List.any_append, List.any_filter]
  cases hprimary : primary.any (·.name == name) with
  | true => rw [Bool.true_or, Bool.true_or]
  | false =>
    rw [Bool.false_or, Bool.false_or]
    -- a manifest of that name is not taken out, since no upper one has it
    apply List.any_congr rfl
    intro manifest
    by_cases hname : manifest.name = name
    · simp [hname, hprimary]
    · simp [hname]

/-- A lower manifest is taken out by one of the two above it, whichever is laid over it first. -/
theorem mergeProviders_assoc (a b c : List Manifest) :
    mergeProviders (mergeProviders a b) c = mergeProviders a (mergeProviders b c) := by
  have hkept : ∀ manifest : Manifest,
      ((!c.any (·.name == manifest.name)) && (!b.any (·.name == manifest.name))) =
        !(mergeProviders b c).any (·.name == manifest.name) := by
    intro manifest
    rw [any_name_mergeProviders, Bool.not_or]
  calc mergeProviders (mergeProviders a b) c
      = c ++ (b.filter (fun m => !c.any (·.name == m.name)) ++
          (a.filter (fun m => !b.any (·.name == m.name))).filter
            (fun m => !c.any (·.name == m.name))) := by
        simp only [mergeProviders, List.filter_append]
    _ = mergeProviders b c ++ a.filter (fun m => !(mergeProviders b c).any (·.name == m.name)) := by
        rw [List.filter_filter, ← List.append_assoc]
        simp only [hkept]
        rfl
    _ = mergeProviders a (mergeProviders b c) := rfl

theorem mergeProviders_self (manifests : List Manifest) :
    mergeProviders manifests manifests = manifests := by
  have hnone : manifests.filter (fun m => !manifests.any (·.name == m.name)) = [] := by
    rw [List.filter_eq_nil_iff]
    intro manifest hmem
    have hnamed : manifests.any (·.name == manifest.name) = true :=
      List.any_eq_true.mpr ⟨manifest, hmem, beq_self_eq_true _⟩
    rw [hnamed]
    decide
  rw [mergeProviders, hnone, List.append_nil]

theorem mergeProviders_nil_left (primary : List Manifest) :
    mergeProviders [] primary = primary := by
  rw [mergeProviders, List.filter_nil, List.append_nil]

theorem mergeProviders_nil_right (fallback : List Manifest) :
    mergeProviders fallback [] = fallback := by
  simp [mergeProviders]

/-! ## The part for the expander -/

theorem ExpandLayer.merge_assoc (a b c : ExpandLayer) :
    (a.merge b).merge c = a.merge (b.merge c) := by
  simp only [ExpandLayer.merge, Option.or_assoc, Dictionary.merge_assoc]

theorem ExpandLayer.merge_self (e : ExpandLayer) : e.merge e = e := by
  simp only [ExpandLayer.merge, Option.or_self, Dictionary.merge_self]

instance : Std.Associative ExpandLayer.merge := ⟨ExpandLayer.merge_assoc⟩

instance : Std.IdempotentOp ExpandLayer.merge := ⟨ExpandLayer.merge_self⟩

theorem mergeExpand_eq : mergeExpand = Option.merge ExpandLayer.merge := by
  funext fallback primary
  cases fallback <;> cases primary <;> rfl

/-! ## Layers -/

theorem Layer.merge_assoc (a b c : Layer) : (a.merge b).merge c = a.merge (b.merge c) := by
  have hexpand : (Option.merge ExpandLayer.merge (Option.merge ExpandLayer.merge a.expand b.expand)
      c.expand) = Option.merge ExpandLayer.merge a.expand
        (Option.merge ExpandLayer.merge b.expand c.expand) :=
    (Option.associative_merge ExpandLayer.merge).assoc a.expand b.expand c.expand
  simp only [Layer.merge, mergeExpand_eq, hexpand, Option.or_assoc, mergeProviders_assoc]

theorem Layer.merge_self (l : Layer) : l.merge l = l := by
  have hexpand : Option.merge ExpandLayer.merge l.expand l.expand = l.expand :=
    (Option.idempotentOp_merge ExpandLayer.merge).idempotent l.expand
  simp only [Layer.merge, mergeExpand_eq, hexpand, Option.or_self, mergeProviders_self]

theorem Layer.empty_merge (l : Layer) : Layer.empty.merge l = l := by
  simp [Layer.merge, Layer.empty, mergeExpand_eq, mergeProviders_nil_left]

theorem Layer.merge_empty (l : Layer) : l.merge Layer.empty = l := by
  simp [Layer.merge, Layer.empty, mergeExpand_eq, mergeProviders_nil_right]

instance : Std.Associative Layer.merge := ⟨Layer.merge_assoc⟩

instance : Std.IdempotentOp Layer.merge := ⟨Layer.merge_self⟩

theorem merge_eq : merge = Option.merge Layer.merge := by
  funext fallback primary
  cases fallback <;> cases primary <;> rfl

/-- **Layering is associative and idempotent.** A missing file is neutral on both sides, and so is
an empty one beside a file that is there. -/
theorem layering_laws (a b c : Option Layer) :
    merge (merge a b) c = merge a (merge b c) ∧
      merge a a = a ∧
      merge none a = a ∧ merge a none = a ∧
      ∀ l : Layer,
        merge (some Layer.empty) (some l) = some l ∧ merge (some l) (some Layer.empty) = some l := by
  rw [merge_eq]
  refine ⟨?_, ?_, ?_, ?_, fun l => ⟨?_, ?_⟩⟩
  · exact (Option.associative_merge Layer.merge).assoc a b c
  · exact (Option.idempotentOp_merge Layer.merge).idempotent a
  · exact Option.merge_none_left
  · exact Option.merge_none_right
  · exact congrArg some l.empty_merge
  · exact congrArg some l.merge_empty

end Palimpsest.Settings
