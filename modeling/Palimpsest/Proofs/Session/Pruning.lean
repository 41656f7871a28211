import Palimpsest.Proofs.Mapping.Outline
import Palimpsest.Proofs.Mapping.Refusal
import Palimpsest.Proofs.Session.Locations

/-!
# What is left of a carried outline

Carrying an outline to the source takes items out, and with an item all that is inside it. What is
left is said here by the places of items: the number of an item among its siblings, behind the
numbers of the items around it.

1. `OutlineItem.at?`: the item at a place of a forest.
2. `Mapper.Mappable`: both spans of an item have a place in the source, and `Mapper.Overflows`: the
   lookup of one of them fails before the item can be left out. `itemToSource_of_mappable` and its
   two neighbours say what becomes of an item in each case.
3. `Mapper.Exposed`: an item of some kind that has only mappable items around it.
4. `Mapper.placeToSource`: where an item goes, by counting the mappable siblings before it.
5. `outlineToSource_of_overflow`, `exists_overflow`: an outline has no image just if a lookup fails
   in an exposed item.
6. `outline_keeps_representable`: else its image has the exposed mappable items and no others, each
   below the same item and in the same order.
-/

namespace Palimpsest

namespace Analysis.OutlineItem

/-- The items inside the item of a number, none where there is no such item. -/
def inside (items : List OutlineItem) (i : Nat) : List OutlineItem :=
  (items[i]?.map children).getD []

/-- The item at a place of a forest. A place has the number of the item among its siblings as its
last number, and before it the numbers of the items around it, the outermost first. -/
def at? : List OutlineItem → List Nat → Option OutlineItem
  | _, [] => none
  | items, [i] => items[i]?
  | items, i :: j :: rest => at? (inside items i) (j :: rest)

variable {items : List OutlineItem} {item : OutlineItem} {i : Nat}

theorem inside_of_getElem? (h : items[i]? = some item) : inside items i = item.children := by
  rw [inside, h]
  rfl

theorem at?_inside {rest : List Nat} (hrest : rest ≠ []) :
    at? items (i :: rest) = at? (inside items i) rest := by
  cases rest with
  | nil => exact absurd rfl hrest
  | cons j rest => rfl

theorem at?_empty (place : List Nat) : at? [] place = none := by
  induction place with
  | nil => rfl
  | cons i rest ih =>
    cases rest with
    | nil => rfl
    | cons j rest => exact ih

theorem getElem?_of_at? {rest : List Nat} (h : at? items (i :: rest) = some item) :
    ∃ outer, items[i]? = some outer := by
  cases hitem : items[i]? with
  | some outer => exact ⟨outer, rfl⟩
  | none =>
    cases rest with
    | nil =>
      rw [at?, hitem] at h
      cases h
    | cons j rest =>
      rw [at?, inside, hitem, Option.map_none, Option.getD_none, at?_empty] at h
      cases h

end Analysis.OutlineItem

namespace Mapping.Mapper

open Analysis (OutlineItem)
open Analysis.OutlineItem

variable {m : Mapper} {item image : OutlineItem} {items images : List OutlineItem}

/-! ## A single item -/

/-- Both spans of the item have a place in the source. -/
def Mappable (m : Mapper) (item : OutlineItem) : Prop :=
  (∃ span, m.spanToSource item.span = .ok (some span)) ∧
    ∃ selection, m.spanToSource item.selection = .ok (some selection)

/-- A lookup fails for the item: that of its whole span, or that of the part to select where the
whole has a place in the source. -/
def Overflows (m : Mapper) (item : OutlineItem) : Prop :=
  m.spanToSource item.span = .error .sum ∨
    (∃ span, m.spanToSource item.span = .ok (some span)) ∧
      m.spanToSource item.selection = .error .sum

/-- The image has the name and the kind of the item, and the images of its spans. -/
structure Carries (m : Mapper) (item image : OutlineItem) : Prop where
  name : image.name = item.name
  kind : image.kind = item.kind
  span : m.spanToSource item.span = .ok (some image.span)
  selection : m.spanToSource item.selection = .ok (some image.selection)

theorem isSome_join_toOption {α : Type} {result : Except Overflow (Option α)} :
    result.toOption.join.isSome ↔ ∃ a, result = .ok (some a) := by
  cases result with
  | error e => simp [Except.toOption]
  | ok found => cases found <;> simp [Except.toOption]

instance (m : Mapper) : DecidablePred m.Mappable := fun item =>
  decidable_of_iff
    ((m.spanToSource item.span).toOption.join.isSome ∧
      (m.spanToSource item.selection).toOption.join.isSome)
    (and_congr isSome_join_toOption isSome_join_toOption)

theorem itemToSource_of_mappable {span selection : Span}
    (hspan : m.spanToSource item.span = .ok (some span))
    (hselection : m.spanToSource item.selection = .ok (some selection)) :
    m.itemToSource item = (m.outlineToSource item.children).map fun children =>
      some (.mk item.name item.kind span selection children) := by
  obtain ⟨name, kind, span, selection, children⟩ := item
  rw [itemToSource]
  simp only [OutlineItem.span, OutlineItem.selection] at hspan hselection
  rw [hspan]
  simp only [bind, Except.bind]
  rw [hselection]
  rfl

theorem itemToSource_of_overflows (h : m.Overflows item) : m.itemToSource item = .error .sum := by
  obtain ⟨name, kind, span, selection, children⟩ := item
  rw [itemToSource]
  rcases h with hspan | ⟨⟨x, hspan⟩, hselection⟩
  · simp only [OutlineItem.span] at hspan
    rw [hspan]
    rfl
  · simp only [OutlineItem.span, OutlineItem.selection] at hspan hselection
    rw [hspan]
    simp only [bind, Except.bind]
    rw [hselection]

theorem itemToSource_of_refused (hmappable : ¬ m.Mappable item) (hoverflows : ¬ m.Overflows item) :
    m.itemToSource item = .ok none := by
  obtain ⟨name, kind, span, selection, children⟩ := item
  rw [itemToSource]
  simp only [Mappable, Overflows, OutlineItem.span, OutlineItem.selection] at hmappable hoverflows
  cases hspan : m.spanToSource span with
  | error e =>
    cases e
    exact absurd (Or.inl hspan) hoverflows
  | ok found =>
    cases found with
    | none => rfl
    | some x =>
      simp only [bind, Except.bind]
      cases hselection : m.spanToSource selection with
      | error e =>
        cases e
        exact absurd (Or.inr ⟨⟨x, hspan⟩, hselection⟩) hoverflows
      | ok found =>
        cases found with
        | none => rfl
        | some y => exact absurd ⟨⟨x, hspan⟩, y, hselection⟩ hmappable

theorem itemToSource_eq_error_iff :
    m.itemToSource item = .error .sum ↔
      m.Overflows item ∨ m.Mappable item ∧ m.outlineToSource item.children = .error .sum := by
  by_cases hoverflows : m.Overflows item
  · simp [itemToSource_of_overflows hoverflows, hoverflows]
  · by_cases hmappable : m.Mappable item
    · obtain ⟨⟨x, hspan⟩, y, hselection⟩ := id hmappable
      rw [itemToSource_of_mappable hspan hselection]
      cases m.outlineToSource item.children with
      | error e => cases e; simp [Except.map, hmappable]
      | ok kept => simp [Except.map, hoverflows]
    · simp [itemToSource_of_refused hmappable hoverflows, hmappable, hoverflows]

theorem mappable_iff_isSome {kept : Option OutlineItem} (h : m.itemToSource item = .ok kept) :
    m.Mappable item ↔ kept.isSome := by
  cases kept with
  | none =>
    simp only [Option.isSome_none, Bool.false_eq_true, iff_false]
    rintro ⟨⟨x, hspan⟩, y, hselection⟩
    rw [itemToSource_of_mappable hspan hselection] at h
    cases hchildren : m.outlineToSource item.children with
    | error e => simp [hchildren, Except.map] at h
    | ok kept => simp [hchildren, Except.map] at h
  | some image =>
    obtain ⟨hspan, hselection, -⟩ := itemToSource_eq_some_iff.mp h
    simp only [Option.isSome_some, iff_true]
    exact ⟨⟨_, hspan⟩, _, hselection⟩

theorem carries_of_itemToSource (h : m.itemToSource item = .ok (some image)) :
    m.Carries item image ∧ m.outlineToSource item.children = .ok image.children := by
  obtain ⟨hspan, hselection, hchildren, hname, hkind⟩ := itemToSource_eq_some_iff.mp h
  exact ⟨⟨hname, hkind, hspan, hselection⟩, hchildren⟩

/-! ## Siblings -/

/-- How many mappable siblings stand before the item of the number. -/
def rank (m : Mapper) (items : List OutlineItem) (i : Nat) : Nat :=
  (items.take i).countP (m.Mappable ·)

@[simp] theorem rank_zero : m.rank items 0 = 0 := rfl

theorem rank_cons (first : OutlineItem) (rest : List OutlineItem) (i : Nat) :
    m.rank (first :: rest) (i + 1) = m.rank rest i + if m.Mappable first then 1 else 0 := by
  simp [rank, List.countP_cons]

theorem rank_lt {i j : Nat} (hij : i < j) (hitem : items[i]? = some item)
    (hmappable : m.Mappable item) : m.rank items i < m.rank items j := by
  induction items generalizing i j with
  | nil => simp at hitem
  | cons first rest ih =>
    cases j with
    | zero => omega
    | succ j =>
      cases i with
      | zero =>
        obtain rfl : first = item := by simpa using hitem
        rw [rank_zero, rank_cons, if_pos hmappable]
        omega
      | succ i =>
        have hrest := ih (by omega : i < j) (by simpa using hitem)
        rw [rank_cons, rank_cons]
        omega

theorem getElem?_rank (h : m.outlineToSource items = .ok images) {i : Nat}
    (hitem : items[i]? = some item) (hmappable : m.Mappable item) :
    ∃ image, images[m.rank items i]? = some image ∧ m.itemToSource item = .ok (some image) := by
  induction items generalizing images i with
  | nil => simp at hitem
  | cons first rest ih =>
    obtain ⟨kept, others, hfirst, hrest, rfl⟩ := outlineToSource_cons h
    have hthere := mappable_iff_isSome hfirst
    cases i with
    | zero =>
      obtain rfl : first = item := by simpa using hitem
      obtain ⟨image, rfl⟩ := Option.isSome_iff_exists.mp (hthere.mp hmappable)
      exact ⟨image, rfl, hfirst⟩
    | succ i =>
      obtain ⟨image, himage, hcarried⟩ := ih hrest (by simpa using hitem)
      refine ⟨image, ?_, hcarried⟩
      rw [rank_cons]
      cases kept with
      | none => simpa [hthere] using himage
      | some _ => simpa [hthere] using himage

/-- Every image is that of a mappable item, and its number is the rank of the item. -/
theorem exists_rank (h : m.outlineToSource items = .ok images) {k : Nat}
    (himage : images[k]? = some image) :
    ∃ i item, items[i]? = some item ∧ m.rank items i = k ∧ m.Mappable item ∧
      m.itemToSource item = .ok (some image) := by
  induction items generalizing images k with
  | nil =>
    rw [outlineToSource] at h
    obtain rfl := Except.ok.inj h
    simp at himage
  | cons first rest ih =>
    obtain ⟨kept, others, hfirst, hrest, rfl⟩ := outlineToSource_cons h
    have hthere := mappable_iff_isSome hfirst
    cases kept with
    | none =>
      obtain ⟨i, item, hitem, hrank, hmappable, hcarried⟩ := ih hrest (by simpa using himage)
      refine ⟨i + 1, item, by simpa using hitem, ?_, hmappable, hcarried⟩
      rw [rank_cons, hrank]
      simp [hthere]
    | some kept =>
      have hmappable := hthere.mpr rfl
      cases k with
      | zero =>
        obtain rfl : kept = image := by simpa using himage
        exact ⟨0, first, rfl, rfl, hmappable, hfirst⟩
      | succ k =>
        obtain ⟨i, item, hitem, hrank, hitemMappable, hcarried⟩ := ih hrest (by simpa using himage)
        refine ⟨i + 1, item, by simpa using hitem, ?_, hitemMappable, hcarried⟩
        rw [rank_cons, hrank, if_pos hmappable]

theorem outlineToSource_eq_keepSome (m : Mapper) (items : List OutlineItem) :
    m.outlineToSource items = keepSome m.itemToSource items := by
  induction items with
  | nil => rfl
  | cons first rest ih => rw [outlineToSource, keepSome, ih]

/-! ## Places -/

/-- An item with the property is at the place, and every item around it is mappable. -/
def Exposed (m : Mapper) (P : OutlineItem → Prop) (items : List OutlineItem) (place : List Nat) :
    Prop :=
  ∃ item, at? items place = some item ∧ P item ∧
    ∀ front outer, front <+: place → front ≠ place → at? items front = some outer →
      m.Mappable outer

theorem Exposed.ne_nil {P : OutlineItem → Prop} {place : List Nat} (h : m.Exposed P items place) :
    place ≠ [] := by
  rintro rfl
  obtain ⟨item, hat, -⟩ := h
  cases hat

theorem exposed_single {P : OutlineItem → Prop} {i : Nat} :
    m.Exposed P items [i] ↔ ∃ item, items[i]? = some item ∧ P item := by
  constructor
  · rintro ⟨item, hitem, hP, -⟩
    exact ⟨item, hitem, hP⟩
  · rintro ⟨item, hitem, hP⟩
    refine ⟨item, hitem, hP, ?_⟩
    intro front outer hfront hne hat
    -- nothing is around an item at the top
    cases front with
    | nil => cases hat
    | cons j front =>
      obtain ⟨rfl, hnil⟩ := List.cons_prefix_cons.mp hfront
      rw [List.prefix_nil.mp hnil] at hne
      exact absurd rfl hne

/-- An item further inside is exposed just if it is so among the items inside a mappable one. -/
theorem exposed_inside {P : OutlineItem → Prop} {i : Nat} {rest : List Nat} (hrest : rest ≠ []) :
    m.Exposed P items (i :: rest) ↔
      ∃ item, items[i]? = some item ∧ m.Mappable item ∧ m.Exposed P item.children rest := by
  constructor
  · rintro ⟨item, hat, hP, haround⟩
    obtain ⟨outer, houter⟩ := getElem?_of_at? hat
    have hinside := inside_of_getElem? houter
    refine ⟨outer, houter, ?_, item, ?_, hP, ?_⟩
    · refine haround [i] outer ?_ ?_ houter
      · exact List.cons_prefix_cons.mpr ⟨rfl, List.nil_prefix⟩
      · intro heq
        exact hrest (List.cons.inj heq).2.symm
    · rw [← hat, at?_inside hrest, hinside]
    · intro front inner hfront hne hinner
      have hfrontNe : front ≠ [] := by
        rintro rfl
        cases hinner
      refine haround (i :: front) inner (List.cons_prefix_cons.mpr ⟨rfl, hfront⟩) ?_ ?_
      · intro heq
        exact hne (List.cons.inj heq).2
      · rw [at?_inside hfrontNe, hinside, hinner]
  · rintro ⟨outer, houter, hmappable, item, hat, hP, haround⟩
    have hinside := inside_of_getElem? houter
    refine ⟨item, ?_, hP, ?_⟩
    · rw [at?_inside hrest, hinside, hat]
    · intro front inner hfront hne hinner
      cases front with
      | nil => cases hinner
      | cons j front =>
        obtain ⟨rfl, hleads⟩ := List.cons_prefix_cons.mp hfront
        by_cases hnil : front = []
        · rw [hnil, at?, houter] at hinner
          rwa [← Option.some.inj hinner]
        · rw [at?_inside hnil, hinside] at hinner
          refine haround front inner hleads ?_ hinner
          rintro rfl
          exact hne rfl

/-- Where the item at a place goes: among the siblings that are left it has its rank. -/
def placeToSource (m : Mapper) : List OutlineItem → List Nat → List Nat
  | _, [] => []
  | items, i :: rest => m.rank items i :: placeToSource m (inside items i) rest

theorem placeToSource_ne_nil {place : List Nat} (h : place ≠ []) :
    m.placeToSource items place ≠ [] := by
  cases place with
  | nil => exact absurd rfl h
  | cons i rest => simp [placeToSource]

/-- An item goes below what its parent goes to, and there to its rank among its siblings. -/
theorem placeToSource_append (m : Mapper) (items : List OutlineItem) (place : List Nat) :
    ∃ siblings, ∀ i, at? items (place ++ [i]) = siblings[i]? ∧
      m.placeToSource items (place ++ [i]) =
        m.placeToSource items place ++ [m.rank siblings i] := by
  induction place generalizing items with
  | nil => exact ⟨items, fun i => ⟨rfl, rfl⟩⟩
  | cons j rest ih =>
    obtain ⟨siblings, hsiblings⟩ := ih (inside items j)
    refine ⟨siblings, fun i => ?_⟩
    obtain ⟨hat, hplace⟩ := hsiblings i
    have hne : rest ++ [i] ≠ [] := by simp
    constructor
    · rw [List.cons_append, at?_inside hne, hat]
    · rw [List.cons_append, placeToSource, placeToSource, hplace, List.cons_append]

theorem Exposed.parent {P : OutlineItem → Prop} {place : List Nat} {i : Nat}
    (h : m.Exposed P items (place ++ [i])) (hplace : place ≠ []) :
    m.Exposed m.Mappable items place := by
  induction place generalizing items with
  | nil => exact absurd rfl hplace
  | cons j rest ih =>
    have hne : rest ++ [i] ≠ [] := by simp
    obtain ⟨outer, houter, hmappable, hinner⟩ := (exposed_inside hne).mp h
    by_cases hrest : rest = []
    · rw [hrest]
      exact exposed_single.mpr ⟨outer, houter, hmappable⟩
    · exact (exposed_inside hrest).mpr ⟨outer, houter, hmappable, ih hinner hrest⟩

theorem Exposed.head_mappable {i : Nat} {rest : List Nat}
    (h : m.Exposed m.Mappable items (i :: rest)) :
    ∃ item, items[i]? = some item ∧ m.Mappable item := by
  by_cases hrest : rest = []
  · rw [hrest] at h
    exact exposed_single.mp h
  · obtain ⟨item, hitem, hmappable, -⟩ := (exposed_inside hrest).mp h
    exact ⟨item, hitem, hmappable⟩

theorem placeToSource_inj {place place' : List Nat} (h : m.Exposed m.Mappable items place)
    (h' : m.Exposed m.Mappable items place')
    (heq : m.placeToSource items place = m.placeToSource items place') : place = place' := by
  induction place generalizing items place' with
  | nil => exact absurd rfl h.ne_nil
  | cons i rest ih =>
    cases place' with
    | nil => exact absurd rfl h'.ne_nil
    | cons j rest' =>
      rw [placeToSource, placeToSource] at heq
      obtain ⟨hrank, htail⟩ := List.cons.inj heq
      obtain ⟨item, hitem, hmappable⟩ := h.head_mappable
      obtain ⟨item', hitem', hmappable'⟩ := h'.head_mappable
      obtain rfl : i = j := by
        rcases Nat.lt_trichotomy i j with hlt | heq | hgt
        · have := rank_lt hlt hitem hmappable
          omega
        · exact heq
        · have := rank_lt hgt hitem' hmappable'
          omega
      -- with the same first number they are both at the top, or both inside the same item
      by_cases hrest : rest = []
      · by_cases hrest' : rest' = []
        · rw [hrest, hrest']
        · rw [hrest] at htail
          exact absurd htail.symm (placeToSource_ne_nil hrest')
      · by_cases hrest' : rest' = []
        · rw [hrest'] at htail
          exact absurd htail (placeToSource_ne_nil hrest)
        · obtain ⟨outer, houter, -, hinner⟩ := (exposed_inside hrest).mp h
          obtain ⟨outer', houter', -, hinner'⟩ := (exposed_inside hrest').mp h'
          rw [houter] at houter'
          obtain rfl := Option.some.inj houter'
          rw [inside_of_getElem? houter] at htail
          rw [ih hinner hinner' htail]

/-! ## Whole outlines

The inductions here are on the place, one level of the forest after the other: what becomes of the
siblings at the top is known by their ranks, and the rest of the place is one among the items inside
one of them. -/

theorem at?_placeToSource (h : m.outlineToSource items = .ok images) {place : List Nat}
    (hexposed : m.Exposed m.Mappable items place) :
    ∃ item image, at? items place = some item ∧
      at? images (m.placeToSource items place) = some image ∧ m.Carries item image := by
  induction place generalizing items images with
  | nil => exact absurd rfl hexposed.ne_nil
  | cons i rest ih =>
    by_cases hrest : rest = []
    · subst hrest
      obtain ⟨item, hitem, hmappable⟩ := exposed_single.mp hexposed
      obtain ⟨image, himage, hcarried⟩ := getElem?_rank h hitem hmappable
      exact ⟨item, image, hitem, himage, (carries_of_itemToSource hcarried).1⟩
    · obtain ⟨outer, houter, hmappable, hinner⟩ := (exposed_inside hrest).mp hexposed
      obtain ⟨outerImage, himage, hcarried⟩ := getElem?_rank h houter hmappable
      obtain ⟨-, hchildren⟩ := carries_of_itemToSource hcarried
      obtain ⟨item, image, hat, hatImage, hcarries⟩ := ih hchildren hinner
      refine ⟨item, image, ?_, ?_, hcarries⟩
      · rw [at?_inside hrest, inside_of_getElem? houter, hat]
      · rw [placeToSource, at?_inside (placeToSource_ne_nil hrest), inside_of_getElem? himage,
          inside_of_getElem? houter, hatImage]

theorem exists_origin (h : m.outlineToSource items = .ok images) {place : List Nat}
    (himage : at? images place = some image) :
    ∃ origin, m.Exposed m.Mappable items origin ∧ m.placeToSource items origin = place := by
  induction place generalizing items images with
  | nil => cases himage
  | cons k rest ih =>
    obtain ⟨outerImage, houter⟩ := getElem?_of_at? himage
    obtain ⟨i, outer, hitem, hrank, hmappable, hcarried⟩ := exists_rank h houter
    by_cases hrest : rest = []
    · subst hrest
      refine ⟨[i], exposed_single.mpr ⟨outer, hitem, hmappable⟩, ?_⟩
      rw [placeToSource, hrank]
      rfl
    · rw [at?_inside hrest, inside_of_getElem? houter] at himage
      obtain ⟨origin, hexposed, hplace⟩ := ih (carries_of_itemToSource hcarried).2 himage
      refine ⟨i :: origin, ?_, ?_⟩
      · exact (exposed_inside hexposed.ne_nil).mpr ⟨outer, hitem, hmappable, hexposed⟩
      · rw [placeToSource, hrank, inside_of_getElem? hitem, hplace]

theorem outlineToSource_of_overflow {place : List Nat} (h : m.Exposed m.Overflows items place) :
    m.outlineToSource items = .error .sum := by
  induction place generalizing items with
  | nil => exact absurd rfl h.ne_nil
  | cons i rest ih =>
    rw [outlineToSource_eq_keepSome, Session.keepSome_eq_error_iff]
    by_cases hrest : rest = []
    · rw [hrest] at h
      obtain ⟨item, hitem, hoverflows⟩ := exposed_single.mp h
      exact ⟨item, List.mem_of_getElem? hitem, itemToSource_of_overflows hoverflows⟩
    · obtain ⟨item, hitem, hmappable, hinner⟩ := (exposed_inside hrest).mp h
      exact ⟨item, List.mem_of_getElem? hitem,
        itemToSource_eq_error_iff.mpr (Or.inr ⟨hmappable, ih hinner⟩)⟩

/-- Where an outline fails, a lookup of an exposed item does. This one is by the size of the forest,
for there is no place yet to follow. -/
theorem exists_overflow (items : List OutlineItem) (h : m.outlineToSource items = .error .sum) :
    ∃ place, m.Exposed m.Overflows items place := by
  rw [outlineToSource_eq_keepSome, Session.keepSome_eq_error_iff] at h
  obtain ⟨item, hmem, herror⟩ := h
  obtain ⟨i, hitem⟩ := List.getElem?_of_mem hmem
  rcases itemToSource_eq_error_iff.mp herror with hoverflows | ⟨hmappable, hchildren⟩
  · exact ⟨[i], exposed_single.mpr ⟨item, hitem, hoverflows⟩⟩
  · have hsmaller : sizeOf item.children < sizeOf items := by
      have := List.sizeOf_lt_of_mem hmem
      obtain ⟨name, kind, span, selection, children⟩ := item
      simp only [OutlineItem.children, OutlineItem.mk.sizeOf_spec] at this ⊢
      omega
    obtain ⟨place, hexposed⟩ := exists_overflow item.children hchildren
    exact ⟨i :: place, (exposed_inside hexposed.ne_nil).mpr ⟨item, hitem, hmappable, hexposed⟩⟩
termination_by sizeOf items

/-- What is left of an outline: the mappable items that have only mappable items around them. -/
structure Prunes (m : Mapper) (items images : List OutlineItem) : Prop where
  /-- Such an item is left, with its name, its kind and the images of its spans. -/
  kept : ∀ place item, m.Exposed m.Mappable items place → at? items place = some item →
    ∃ image, at? images (m.placeToSource items place) = some image ∧ m.Carries item image
  /-- Nothing else is there. -/
  origin : ∀ place image, at? images place = some image →
    ∃ origin, m.Exposed m.Mappable items origin ∧ m.placeToSource items origin = place
  /-- No two items go to the same place. -/
  apart : ∀ place place', m.Exposed m.Mappable items place → m.Exposed m.Mappable items place' →
    m.placeToSource items place = m.placeToSource items place' → place = place'
  /-- The item around such an item is left too, and the item stays below it. -/
  parent : ∀ place i, m.Exposed m.Mappable items (place ++ [i]) →
    (place ≠ [] → m.Exposed m.Mappable items place) ∧
      ∃ k, m.placeToSource items (place ++ [i]) = m.placeToSource items place ++ [k]
  /-- Siblings stay in their order. -/
  order : ∀ place i j k l, i < j → m.Exposed m.Mappable items (place ++ [i]) →
    m.Exposed m.Mappable items (place ++ [j]) →
    m.placeToSource items (place ++ [i]) = m.placeToSource items place ++ [k] →
    m.placeToSource items (place ++ [j]) = m.placeToSource items place ++ [l] → k < l

theorem prunes_of_outlineToSource (h : m.outlineToSource items = .ok images) :
    m.Prunes items images where
  kept place item hexposed hitem := by
    obtain ⟨item', image, hitem', himage, hcarries⟩ := at?_placeToSource h hexposed
    rw [hitem] at hitem'
    obtain rfl := Option.some.inj hitem'
    exact ⟨image, himage, hcarries⟩
  origin _ _ himage := exists_origin h himage
  apart _ _ hplace hplace' heq := placeToSource_inj hplace hplace' heq
  parent place i hexposed := by
    obtain ⟨siblings, hsiblings⟩ := placeToSource_append m items place
    exact ⟨hexposed.parent, _, (hsiblings i).2⟩
  order place i j k l hij hi _ hk hl := by
    obtain ⟨siblings, hsiblings⟩ := placeToSource_append m items place
    obtain ⟨item, hitem, hmappable, -⟩ := hi
    rw [(hsiblings i).1] at hitem
    rw [(hsiblings i).2] at hk
    rw [(hsiblings j).2] at hl
    obtain ⟨rfl⟩ := List.append_cancel_left hk
    obtain ⟨rfl⟩ := List.append_cancel_left hl
    exact rank_lt hij hitem hmappable

/-- **An outline keeps just what can be shown in the source.** For every mapper and every forest of
items, of any depth: either the lookup of a span fails, in an item that has only mappable items
around it, or the outline has an image. Then the mappable items that have only mappable items around
them are those of the image, each once, below the same item and in the same order, with their names
and kinds and the images of their spans. -/
theorem outline_keeps_representable (m : Mapper) (items : List OutlineItem) :
    (m.outlineToSource items = .error .sum ∧ ∃ place, m.Exposed m.Overflows items place) ∨
      ∃ images, m.outlineToSource items = .ok images ∧
        (∀ place, ¬ m.Exposed m.Overflows items place) ∧ m.Prunes items images := by
  cases hresult : m.outlineToSource items with
  | error e =>
    cases e
    exact Or.inl ⟨rfl, exists_overflow items hresult⟩
  | ok images =>
    refine Or.inr ⟨images, rfl, ?_, prunes_of_outlineToSource hresult⟩
    intro place hoverflows
    rw [outlineToSource_of_overflow hoverflows] at hresult
    cases hresult

-- A method that was made up is left out, and the one behind it takes its place.
example : (segments SegmentMap.sample).placeToSource
    [.mk "User" "class" ⟨0, 8⟩ ⟨0, 4⟩
      [.mk "made" "method" ⟨12, 6⟩ ⟨12, 2⟩ [], .mk "own" "method" ⟨5, 2⟩ ⟨5, 1⟩ []]] [0, 1] =
    [0, 0] := by
  decide +kernel

/-- Two items at the top: one that has a place in the source, and one that ends in made-up text. -/
def mixedOutline : List OutlineItem :=
  [.mk "kept" "class" ⟨0, 1⟩ ⟨0, 1⟩ [], .mk "made" "class" ⟨5, 10⟩ ⟨5, 10⟩ []]

/-- The map is accepted, the first item is mappable and nothing is around it, and still the outline
has no image: the lookup of the second item fails at its start, before the made-up text at its end
is asked for. -/
theorem outline_lost_to_overflow :
    SegmentMap.build [⟨18446744073709551614, 18446744073709551615, 0, 10⟩] [⟨10, 20, "Debug"⟩] =
        .ok SegmentMap.farSample ∧
      (segments SegmentMap.farSample).Exposed (segments SegmentMap.farSample).Mappable mixedOutline
        [0] ∧
      (SegmentMap.farSample.regionAt? .stop (⟨5, 10⟩ : Span).stop).isSome ∧
      (segments SegmentMap.farSample).outlineToSource mixedOutline = .error .sum := by
  have hfirst : (segments SegmentMap.farSample).spanToSource ⟨0, 1⟩ =
      .ok (some ⟨18446744073709551614, 1⟩) := by decide +kernel
  have hsecond : (segments SegmentMap.farSample).spanToSource ⟨5, 10⟩ = .error .sum := by
    decide +kernel
  have hfails : (segments SegmentMap.farSample).Exposed (segments SegmentMap.farSample).Overflows
      mixedOutline [1] := exposed_single.mpr ⟨_, rfl, Or.inl hsecond⟩
  exact ⟨by decide +kernel, exposed_single.mpr ⟨_, rfl, ⟨_, hfirst⟩, _, hfirst⟩, by decide +kernel,
    outlineToSource_of_overflow hfails⟩

end Mapping.Mapper

end Palimpsest
