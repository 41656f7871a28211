import Palimpsest.Bisect

/-!
# Bisection finds what a scan finds

Halving looks at a few elements only. Where the elements that pass a test stand before all that
fail it (`Parted`), it still sees as much as a scan of every element:

1. `splitPoint_brackets`: the place it ends at has elements that pass before it and elements that
   fail behind it, whatever stretch it began with;
2. `splitPoint_eq_length_filter` and `splitPoint_eq`: that place is the number of elements that
   pass;
3. `rest_eq_filter` and `takeWhile_rest`: what is left behind it is what a filter leaves.
-/

namespace Palimpsest.Bisect

variable {α : Type}

/-- The elements that pass the test stand before all that fail it. -/
def Parted (test : α → Bool) (items : List α) : Prop :=
  items.Pairwise fun a b => test b = true → test a = true

theorem Parted.fails_behind {test : α → Bool} {a : α} {items : List α}
    (h : Parted test (a :: items)) (ha : test a = false) : ∀ b ∈ items, test b = false := by
  intro b hb
  cases hbt : test b with
  | false => rfl
  | true =>
    have hat := (List.pairwise_cons.mp h).1 b hb hbt
    rw [ha] at hat
    exact hat.symm

theorem Parted.takeWhile_eq_filter {test : α → Bool} {items : List α} (h : Parted test items) :
    items.takeWhile test = items.filter test := by
  induction items with
  | nil => rfl
  | cons a items ih =>
    cases ha : test a with
    | true => simp [ha, ih (List.pairwise_cons.mp h).2]
    | false =>
      have hnil : items.filter test = [] := by
        rw [List.filter_eq_nil_iff]
        intro b hb
        simp [h.fails_behind ha b hb]
      simp [ha, hnil]

theorem Parted.dropWhile_eq_filter {test : α → Bool} {items : List α} (h : Parted test items) :
    items.dropWhile test = items.filter fun item => !test item := by
  induction items with
  | nil => rfl
  | cons a items ih =>
    cases ha : test a with
    | true => simp [ha, ih (List.pairwise_cons.mp h).2]
    | false =>
      have hself : (items.filter fun item => !test item) = items := by
        rw [List.filter_eq_self]
        intro b hb
        simp [h.fails_behind ha b hb]
      simp [ha, hself]

/-! ## The stretch that halving keeps -/

/-- Every element before `low` passes the test, and every element from `high` on fails it. -/
structure Brackets (items : Array α) (test : α → Bool) (low high : Nat) : Prop where
  low_le_high : low ≤ high
  high_le_size : high ≤ items.size
  passes : ∀ i item, i < low → items[i]? = some item → test item = true
  fails : ∀ i item, high ≤ i → items[i]? = some item → test item = false

theorem Parted.passes_before {items : Array α} {test : α → Bool} (h : Parted test items.toList)
    {i j : Nat} {a b : α} (hij : i ≤ j) (ha : items[i]? = some a) (hb : items[j]? = some b)
    (hbt : test b = true) : test a = true := by
  rcases Nat.lt_or_eq_of_le hij with hlt | rfl
  · obtain ⟨hi, rfl⟩ := Array.getElem?_eq_some_iff.mp ha
    obtain ⟨hj, rfl⟩ := Array.getElem?_eq_some_iff.mp hb
    exact List.pairwise_iff_getElem.mp h i j hi hj hlt hbt
  · rw [ha] at hb
    obtain rfl := Option.some.inj hb
    exact hbt

theorem splitPoint_brackets {items : Array α} {test : α → Bool} (h : Parted test items.toList)
    (low high : Nat) (hb : Brackets items test low high) :
    Brackets items test (splitPoint items test low high) (splitPoint items test low high) := by
  fun_induction splitPoint items test low high with
  | case1 low high hlt middle item hitem hpass ih =>
    -- everything up to the middle passes, since the middle does
    apply ih
    refine ⟨by omega, hb.high_le_size, ?_, hb.fails⟩
    intro i a hi ha
    exact h.passes_before (by omega) ha hitem hpass
  | case2 low high hlt middle item hitem hfail ih =>
    -- everything from the middle on fails, since the middle does
    apply ih
    have hsize := hb.high_le_size
    refine ⟨by omega, by omega, hb.passes, ?_⟩
    intro i a hi ha
    cases hat : test a with
    | false => rfl
    | true => exact absurd (h.passes_before hi hitem ha hat) hfail
  | case3 low high hlt middle hnone =>
    have hsize := hb.high_le_size
    have := Array.getElem?_eq_none_iff.mp hnone
    omega
  | case4 low high hge =>
    have heq : low = high := by have := hb.low_le_high; omega
    rw [← heq] at hb
    exact hb

theorem splitPoint_whole_brackets {items : Array α} {test : α → Bool}
    (h : Parted test items.toList) :
    Brackets items test (splitPoint items test 0 items.size)
      (splitPoint items test 0 items.size) := by
  apply splitPoint_brackets h
  refine ⟨Nat.zero_le _, Nat.le_refl _, ?_, ?_⟩
  · intro i item hi _
    omega
  · intro i item hi hitem
    have := Array.getElem?_eq_none_iff.mpr hi
    rw [this] at hitem
    cases hitem

theorem splitPoint_eq_length_filter {items : Array α} {test : α → Bool}
    (h : Parted test items.toList) :
    splitPoint items test 0 items.size = (items.toList.filter test).length := by
  have hb := splitPoint_whole_brackets h
  generalize splitPoint items test 0 items.size = k at hb
  have hfront : (items.toList.take k).filter test = items.toList.take k := by
    rw [List.filter_eq_self]
    intro a ha
    obtain ⟨i, hi, rfl⟩ := List.mem_take_iff_getElem.mp ha
    obtain ⟨hik, hil⟩ := Nat.lt_min.mp hi
    refine hb.passes i _ hik ?_
    rw [← Array.getElem?_toList]
    exact List.getElem?_eq_getElem hil
  have hback : (items.toList.drop k).filter test = [] := by
    rw [List.filter_eq_nil_iff]
    intro a ha
    obtain ⟨i, hia⟩ := List.getElem?_of_mem ha
    rw [List.getElem?_drop] at hia
    simp [hb.fails (k + i) a (by omega) (by simpa using hia)]
  have hsize := hb.high_le_size
  calc k = (items.toList.take k).length := by simp; omega
    _ = ((items.toList.take k).filter test ++ (items.toList.drop k).filter test).length := by
        rw [hfront, hback, List.append_nil]
    _ = (items.toList.filter test).length := by
        rw [← List.filter_append, List.take_append_drop]

/-- Where the elements that pass are known by their places, bisection stops behind the last. -/
theorem splitPoint_eq {items : Array α} {test : α → Bool} {k : Nat} (hk : k ≤ items.size)
    (h : ∀ i item, items[i]? = some item → (test item = true ↔ i < k)) :
    splitPoint items test 0 items.size = k := by
  have hparted : Parted test items.toList := by
    apply List.pairwise_iff_getElem.mpr
    intro i j hi hj hij hj'
    have hjk := (h j items[j] (Array.getElem?_eq_getElem hj)).mp hj'
    exact (h i items[i] (Array.getElem?_eq_getElem hi)).mpr (by omega)
  have hb := splitPoint_whole_brackets hparted
  generalize splitPoint items test 0 items.size = p at hb
  have hsize := hb.high_le_size
  rcases Nat.lt_trichotomy p k with hlt | heq | hgt
  · -- the element at the place passes, and bisection says that it fails
    have hitem := Array.getElem?_eq_getElem (show p < items.size by omega)
    have hfails := hb.fails p _ (Nat.le_refl p) hitem
    rw [(h p _ hitem).mpr hlt] at hfails
    cases hfails
  · exact heq
  · have hitem := Array.getElem?_eq_getElem (show k < items.size by omega)
    have hpasses := (h k _ hitem).mp (hb.passes k _ hgt hitem)
    omega

/-! ## What is left behind it -/

theorem rest_eq_filter {items : Array α} {test : α → Bool} (h : Parted test items.toList) :
    rest items test = items.toList.filter fun item => !test item := by
  unfold rest
  rw [splitPoint_eq_length_filter h, ← h.takeWhile_eq_filter, ← h.dropWhile_eq_filter]
  have happ : items.toList.takeWhile test ++ items.toList.dropWhile test = items.toList :=
    List.takeWhile_append_dropWhile
  calc items.toList.drop (items.toList.takeWhile test).length
      = (items.toList.takeWhile test ++ items.toList.dropWhile test).drop
          (items.toList.takeWhile test).length := by rw [happ]
    _ = items.toList.dropWhile test := List.drop_left

/-- The run behind the place that passes a second test is what a scan for both tests finds. -/
theorem takeWhile_rest {items : Array α} {below upto : α → Bool}
    (hb : Parted below items.toList) (hu : Parted upto items.toList) :
    (rest items below).takeWhile upto =
      items.toList.filter fun item => !below item && upto item := by
  have hrest : Parted upto (rest items below) := by
    rw [rest_eq_filter hb]
    exact List.Pairwise.filter _ hu
  rw [hrest.takeWhile_eq_filter, rest_eq_filter hb, List.filter_filter]
  congr 1
  funext item
  exact Bool.and_comm _ _

end Palimpsest.Bisect
