/-!
# Tables

A table is a list of keys with their values in which no key stands twice. Writing a key takes its
old value out first, so a lookup always finds the value written last.
-/

namespace Palimpsest

/-- Values by key, the one written last in front. -/
structure Table (κ ν : Type) where
  pairs : List (κ × ν)

namespace Table

variable {κ ν : Type} [DecidableEq κ]

def empty : Table κ ν := ⟨[]⟩

def lookup (key : κ) : List (κ × ν) → Option ν
  | [] => none
  | pair :: rest => if key = pair.1 then some pair.2 else lookup key rest

def find? (t : Table κ ν) (key : κ) : Option ν := lookup key t.pairs

def contains (t : Table κ ν) (key : κ) : Bool := (t.find? key).isSome

def erase (t : Table κ ν) (key : κ) : Table κ ν := ⟨t.pairs.filter fun pair => pair.1 != key⟩

def insert (t : Table κ ν) (key : κ) (value : ν) : Table κ ν :=
  ⟨(key, value) :: (t.erase key).pairs⟩

/-- The keys, the one written last in front. -/
def keys (t : Table κ ν) : List κ := t.pairs.map Prod.fst

def size (t : Table κ ν) : Nat := t.pairs.length

def isEmpty (t : Table κ ν) : Bool := t.pairs.isEmpty

@[simp] theorem find?_empty (key : κ) : (empty : Table κ ν).find? key = none := rfl

theorem lookup_filter (pairs : List (κ × ν)) (key other : κ) :
    lookup other (pairs.filter fun pair => pair.1 != key) =
      if other = key then none else lookup other pairs := by
  induction pairs with
  | nil => simp [lookup]
  | cons pair rest ih =>
    by_cases hk : pair.1 = key
    · rw [List.filter_cons_of_neg (by simp [hk]), ih]
      by_cases ho : other = key
      · simp [ho]
      · simp [ho, lookup, hk]
    · rw [List.filter_cons_of_pos (by simp [hk])]
      by_cases ho : other = pair.1
      · have : ¬ other = key := by rw [ho]; exact hk
        simp [lookup, ho, hk]
      · simp [lookup, ho, ih]

@[simp] theorem find?_erase (t : Table κ ν) (key other : κ) :
    (t.erase key).find? other = if other = key then none else t.find? other :=
  lookup_filter t.pairs key other

@[simp] theorem find?_insert (t : Table κ ν) (key other : κ) (value : ν) :
    (t.insert key value).find? other = if other = key then some value else t.find? other := by
  by_cases h : other = key
  · simp [find?, insert, lookup, h]
  · have := find?_erase t key other
    simp only [find?, insert, lookup, h, if_false] at this ⊢
    exact this

theorem find?_eq_none_of_not_mem_keys {t : Table κ ν} {key : κ} (h : key ∉ t.keys) :
    t.find? key = none := by
  obtain ⟨pairs⟩ := t
  induction pairs with
  | nil => rfl
  | cons pair rest ih =>
    simp only [keys, List.map_cons, List.mem_cons, not_or] at h
    simp only [find?, lookup, h.1, if_false]
    exact ih h.2

theorem isEmpty_of_find?_eq_none {t : Table κ ν} (h : ∀ key, t.find? key = none) :
    t.isEmpty = true := by
  obtain ⟨pairs⟩ := t
  cases pairs with
  | nil => rfl
  | cons pair rest =>
    have hfirst := h pair.1
    simp [find?, lookup] at hfirst

end Table

end Palimpsest
