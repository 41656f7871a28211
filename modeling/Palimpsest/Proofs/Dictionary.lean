import Palimpsest.Dictionary

/-!
# Dictionaries by their lookups

A dictionary is determined by what it holds under each name (`Dictionary.ext_find?`): its fields
are in the order of their names, and there is one such order. A merged dictionary holds the value of
the upper one, and of the lower one where the upper one has none (`find?_merge`). So every law of
merging is one of `Option.or`.
-/

namespace Palimpsest

namespace Datum

theorem canonicalFields_iff {fields : List (String × Datum)} :
    canonicalFields fields = true ↔
      fields.Pairwise (·.1 < ·.1) ∧ ∀ field ∈ fields, field.2.isCanonical = true := by
  induction fields with
  | nil => simp [canonicalFields]
  | cons field rest ih =>
    obtain ⟨key, value⟩ := field
    -- the key comes before all keys once it comes before the next one
    have hbefore : rest.Pairwise (·.1 < ·.1) →
        (precedes key rest = true ↔ ∀ later ∈ rest, key < later.1) := by
      intro hrising
      cases rest with
      | nil => simp [precedes]
      | cons next more =>
        have hnext := (List.pairwise_cons.1 hrising).1
        rw [precedes, decide_eq_true_eq, List.forall_mem_cons]
        exact ⟨fun h => ⟨h, fun later hl => String.lt_trans h (hnext later hl)⟩, And.left⟩
    simp only [canonicalFields, Bool.and_eq_true, ih, List.pairwise_cons, List.forall_mem_cons]
    constructor
    · rintro ⟨⟨hkey, hvalue⟩, hrising, hvalues⟩
      exact ⟨⟨(hbefore hrising).1 hkey, hrising⟩, hvalue, hvalues⟩
    · rintro ⟨⟨hkey, hrising⟩, hvalue, hvalues⟩
      exact ⟨⟨(hbefore hrising).2 hkey, hvalue⟩, hrising, hvalues⟩

/-! ## Lookups -/

theorem lookup_field (key other : String) (value : Datum) (rest : List (String × Datum)) :
    ((key, value) :: rest).lookup other = if other = key then some value else rest.lookup other := by
  by_cases h : other = key
  · simp [h]
  · have hbeq : (other == key) = false := beq_false_of_ne h
    simp only [List.lookup_cons, hbeq, if_neg h]

theorem lookup_before {key : String} {fields : List (String × Datum)}
    (h : ∀ field ∈ fields, key < field.1) : fields.lookup key = none := by
  rw [List.lookup_eq_none_iff]
  intro field hfield
  rw [bne_iff_ne]
  rintro rfl
  exact String.lt_irrefl _ (h field hfield)

theorem first_le_of_lookup {key : String} {value : Datum} {first : String × Datum}
    {rest : List (String × Datum)} (hrising : (first :: rest).Pairwise (·.1 < ·.1))
    (h : (first :: rest).lookup key = some value) : ¬ key < first.1 := by
  intro hlt
  have hbefore : ∀ field ∈ first :: rest, key < field.1 := by
    rw [List.forall_mem_cons]
    exact ⟨hlt, fun later hl => String.lt_trans hlt ((List.pairwise_cons.1 hrising).1 later hl)⟩
  rw [lookup_before hbefore] at h
  cases h

theorem lookup_insertField (key other : String) (value : Datum) (fields : List (String × Datum)) :
    (insertField key value fields).lookup other =
      if other = key then some value else fields.lookup other := by
  induction fields with
  | nil => rw [insertField, lookup_field]
  | cons field rest ih =>
    obtain ⟨next, old⟩ := field
    rw [insertField]
    split
    · rw [lookup_field]
    · split
      · next heq =>
        subst heq
        rw [lookup_field, lookup_field]
        split <;> rfl
      · next hne =>
        rw [lookup_field, lookup_field, ih]
        by_cases hnext : other = next
        · have hother : other ≠ key := fun h => hne (h.symm.trans hnext)
          rw [if_pos hnext, if_neg hother, if_pos hnext]
        · rw [if_neg hnext, if_neg hnext]

/-- The fields that are put in win. They have to be canonical: of two fields with one key the last
would win, and a lookup finds the first. -/
theorem lookup_mergeFields {more : List (String × Datum)} (h : canonicalFields more = true)
    (fields : List (String × Datum)) (key : String) :
    (mergeFields fields more).lookup key = (more.lookup key).or (fields.lookup key) := by
  induction more generalizing fields with
  | nil => rfl
  | cons field rest ih =>
    obtain ⟨first, value⟩ := field
    have hrising := List.pairwise_cons.1 (canonicalFields_iff.1 h).1
    have hrest : canonicalFields rest = true := by
      simp only [canonicalFields, Bool.and_eq_true] at h
      exact h.2
    rw [mergeFields, ih hrest, lookup_insertField, lookup_field]
    by_cases hkey : key = first
    · subst hkey
      rw [lookup_before hrising.1, if_pos rfl, if_pos rfl]
      rfl
    · rw [if_neg hkey, if_neg hkey]

/-- Fields with rising keys are determined by their lookups: the first key of either list is in the
other one too, so it is its first. -/
theorem fields_eq_of_lookup {a b : List (String × Datum)} (ha : a.Pairwise (·.1 < ·.1))
    (hb : b.Pairwise (·.1 < ·.1)) (h : ∀ key, a.lookup key = b.lookup key) : a = b := by
  induction a generalizing b with
  | nil =>
    cases b with
    | nil => rfl
    | cons field rest =>
      have hfirst := h field.1
      rw [lookup_field, if_pos rfl] at hfirst
      cases hfirst
  | cons field rest ih =>
    obtain ⟨key, value⟩ := field
    obtain ⟨hkey, hrest⟩ := List.pairwise_cons.1 ha
    cases b with
    | nil =>
      have hfirst := h key
      rw [lookup_field, if_pos rfl] at hfirst
      cases hfirst
    | cons field' rest' =>
      obtain ⟨key', value'⟩ := field'
      obtain ⟨hkey', hrest'⟩ := List.pairwise_cons.1 hb
      have hfound : ((key, value) :: rest).lookup key = some value := by
        rw [lookup_field, if_pos rfl]
      have hfound' : ((key', value') :: rest').lookup key' = some value' := by
        rw [lookup_field, if_pos rfl]
      have hle : ¬ key < key' :=
        first_le_of_lookup hb ((h key).symm.trans hfound)
      have hge : ¬ key' < key :=
        first_le_of_lookup ha ((h key').trans hfound')
      have hsame : key = key' := String.le_antisymm (String.not_lt.mp hge) (String.not_lt.mp hle)
      subst hsame
      have hvalue := h key
      rw [lookup_field, lookup_field, if_pos rfl, if_pos rfl, Option.some.injEq] at hvalue
      subst hvalue
      have htails : ∀ other, rest.lookup other = rest'.lookup other := by
        intro other
        by_cases hother : other = key
        · rw [hother, lookup_before hkey, lookup_before hkey']
        · have := h other
          rwa [lookup_field, lookup_field, if_neg hother, if_neg hother] at this
      rw [ih hrest hrest' htails]

end Datum

namespace Dictionary

open Datum (canonicalFields_iff)

/-- **There is one dictionary for each content.** -/
theorem ext_find? {a b : Dictionary} (h : ∀ key, a.find? key = b.find? key) : a = b := by
  obtain ⟨fields, hfields⟩ := a
  obtain ⟨fields', hfields'⟩ := b
  have hsame : fields = fields' :=
    Datum.fields_eq_of_lookup (canonicalFields_iff.1 hfields).1 (canonicalFields_iff.1 hfields').1 h
  subst hsame
  rfl

@[simp] theorem find?_merge (fallback primary : Dictionary) (key : String) :
    (fallback.merge primary).find? key = (primary.find? key).or (fallback.find? key) :=
  Datum.lookup_mergeFields primary.canonical fallback.fields key

theorem merge_assoc (a b c : Dictionary) : (a.merge b).merge c = a.merge (b.merge c) := by
  apply ext_find?
  intro key
  simp only [find?_merge, Option.or_assoc]

theorem merge_self (d : Dictionary) : d.merge d = d := by
  apply ext_find?
  intro key
  rw [find?_merge, Option.or_self]

end Dictionary

end Palimpsest
