import Palimpsest.Session.Remap

/-!
# Items of a carried outline

An outline is a forest. Carrying it to the source keeps an item where both of its spans are
carried, with what is kept of the items inside it.

1. `OutlineItem.Occurs`: an item stands somewhere in a forest, at any depth.
2. `itemToSource_eq_some_iff`: what the image of a single item is; `outlineToSource_cons`: how the
   images of the items make up that of the outline.
3. `occurs_outlineToSource`: every item of a carried outline is the image of an item of the
   outline.
-/

namespace Palimpsest

namespace Analysis.OutlineItem

def name : OutlineItem → String
  | mk name _ _ _ _ => name

def kind : OutlineItem → String
  | mk _ kind _ _ _ => kind

def span : OutlineItem → Span
  | mk _ _ span _ _ => span

/-- The part of a declaration to select, its name for one. -/
def selection : OutlineItem → Span
  | mk _ _ _ selection _ => selection

def children : OutlineItem → List OutlineItem
  | mk _ _ _ _ children => children

/-- The item stands in the forest, at its top or inside another item. -/
inductive Occurs (item : OutlineItem) : List OutlineItem → Prop where
  | here {items : List OutlineItem} (h : item ∈ items) : Occurs item items
  | inside {items : List OutlineItem} (parent : OutlineItem) (hparent : parent ∈ items)
    (h : Occurs item parent.children) : Occurs item items

end Analysis.OutlineItem

namespace Mapping.Mapper

open Analysis (OutlineItem)

variable {m : Mapper} {item image : OutlineItem} {items images : List OutlineItem}

theorem itemToSource_eq_some_iff :
    m.itemToSource item = .ok (some image) ↔
      m.spanToSource item.span = .ok (some image.span) ∧
      m.spanToSource item.selection = .ok (some image.selection) ∧
      m.outlineToSource item.children = .ok image.children ∧
      image.name = item.name ∧ image.kind = item.kind := by
  obtain ⟨name, kind, span, selection, children⟩ := item
  obtain ⟨name', kind', span', selection', children'⟩ := image
  simp only [itemToSource, OutlineItem.span, OutlineItem.selection, OutlineItem.children,
    OutlineItem.name, OutlineItem.kind]
  cases hspan : m.spanToSource span with
  | error e => simp [bind, Except.bind]
  | ok carried =>
    cases carried with
    | none => simp [bind, Except.bind, pure, Except.pure]
    | some x =>
      cases hselection : m.spanToSource selection with
      | error e => simp [bind, Except.bind]
      | ok carried =>
        cases carried with
        | none => simp [bind, Except.bind, pure, Except.pure]
        | some y =>
          cases hchildren : m.outlineToSource children with
          | error e => simp [bind, Except.bind]
          | ok kept =>
            simp only [bind, Except.bind, pure, Except.pure, Except.ok.injEq, Option.some.injEq,
              OutlineItem.mk.injEq]
            constructor
            · rintro ⟨rfl, rfl, rfl, rfl, rfl⟩
              exact ⟨rfl, rfl, rfl, rfl, rfl⟩
            · rintro ⟨rfl, rfl, rfl, rfl, rfl⟩
              exact ⟨rfl, rfl, rfl, rfl, rfl⟩

theorem outlineToSource_cons {first : OutlineItem} {rest : List OutlineItem}
    (h : m.outlineToSource (first :: rest) = .ok images) :
    ∃ kept others, m.itemToSource first = .ok kept ∧ m.outlineToSource rest = .ok others ∧
      images = kept.toList ++ others := by
  rw [outlineToSource] at h
  cases hfirst : m.itemToSource first with
  | error e => simp [hfirst, bind, Except.bind] at h
  | ok kept =>
    cases hrest : m.outlineToSource rest with
    | error e => simp [hfirst, hrest, bind, Except.bind] at h
    | ok others =>
      simp only [hfirst, hrest, bind, Except.bind, pure, Except.pure, Except.ok.injEq] at h
      exact ⟨kept, others, rfl, rfl, h.symm⟩

theorem mem_outlineToSource (h : m.outlineToSource items = .ok images) (himage : image ∈ images) :
    ∃ item ∈ items, m.itemToSource item = .ok (some image) := by
  induction items generalizing images with
  | nil =>
    rw [outlineToSource] at h
    obtain rfl := Except.ok.inj h
    cases himage
  | cons first rest ih =>
    obtain ⟨kept, others, hfirst, hrest, rfl⟩ := outlineToSource_cons h
    rcases List.mem_append.mp himage with hkept | hothers
    · refine ⟨first, List.mem_cons_self, ?_⟩
      rw [hfirst, Option.mem_toList.mp hkept]
    · obtain ⟨item, hitem, hcarried⟩ := ih hrest hothers
      exact ⟨item, List.mem_cons_of_mem first hitem, hcarried⟩

theorem occurs_outlineToSource (h : m.outlineToSource items = .ok images)
    (himage : image.Occurs images) :
    ∃ item : OutlineItem, item.Occurs items ∧ m.itemToSource item = .ok (some image) := by
  induction himage generalizing items with
  | here hmem =>
    obtain ⟨item, hitem, hcarried⟩ := mem_outlineToSource h hmem
    exact ⟨item, .here hitem, hcarried⟩
  | inside parent hparent _ ih =>
    -- the image of the parent has the images of what is inside the parent
    obtain ⟨owner, howner, hcarried⟩ := mem_outlineToSource h hparent
    obtain ⟨_, _, hchildren, _⟩ := itemToSource_eq_some_iff.mp hcarried
    obtain ⟨item, hitem, hitemCarried⟩ := ih hchildren
    exact ⟨item, .inside owner howner hitem, hitemCarried⟩

end Mapping.Mapper

end Palimpsest
