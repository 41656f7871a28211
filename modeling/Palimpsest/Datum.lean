import Palimpsest.Json.Value

/-!
# Free-form values

A `Datum` is a value that this library hands on without looking at it: a switch for an expander,
say. An object is a list of fields; a value is canonical (`Datum.isCanonical`) where the keys of
each object in it rise strictly. Canonical values with the same content are equal, so the order in
which somebody wrote down the fields is lost on purpose.

`Datum.insertField` keeps fields canonical (`canonicalFields_insertField`); a key that is already
there gets the new value.
-/

namespace Palimpsest

/-- A free-form value. -/
inductive Datum where
  | null
  | bool (value : Bool)
  | number (value : Number)
  | string (value : String)
  | array (items : List Datum)
  | object (fields : List (String × Datum))

namespace Datum

/-- Whether a key comes before those of a list of fields with rising keys. -/
def precedes (key : String) : List (String × Datum) → Bool
  | [] => true
  | (next, _) :: _ => decide (key < next)

mutual

/-- Whether the keys of every object in the value rise strictly. -/
def isCanonical : Datum → Bool
  | null => true
  | bool _ => true
  | number _ => true
  | string _ => true
  | array items => canonicalItems items
  | object fields => canonicalFields fields

def canonicalItems : List Datum → Bool
  | [] => true
  | item :: rest => item.isCanonical && canonicalItems rest

def canonicalFields : List (String × Datum) → Bool
  | [] => true
  | (key, value) :: rest => precedes key rest && value.isCanonical && canonicalFields rest

end

mutual

/-- Whether two values are equal, numbers compared as numbers. -/
def same : Datum → Datum → Bool
  | null, null => true
  | bool a, bool b => a == b
  | number a, number b => a.same b
  | string a, string b => a == b
  | array a, array b => sameItems a b
  | object a, object b => sameFields a b
  | _, _ => false

def sameItems : List Datum → List Datum → Bool
  | [], [] => true
  | a :: as, b :: bs => a.same b && sameItems as bs
  | _, _ => false

def sameFields : List (String × Datum) → List (String × Datum) → Bool
  | [], [] => true
  | (j, a) :: as, (k, b) :: bs => j == k && a.same b && sameFields as bs
  | _, _ => false

end

mutual

theorem same_refl : ∀ value : Datum, value.same value = true
  | null => rfl
  | bool _ => beq_self_eq_true _
  | number value => value.same_refl
  | string _ => beq_self_eq_true _
  | array items => sameItems_refl items
  | object fields => sameFields_refl fields

theorem sameItems_refl : ∀ items : List Datum, sameItems items items = true
  | [] => rfl
  | item :: rest => by simp [sameItems, same_refl item, sameItems_refl rest]

theorem sameFields_refl : ∀ fields : List (String × Datum), sameFields fields fields = true
  | [] => rfl
  | (_, value) :: rest => by simp [sameFields, same_refl value, sameFields_refl rest]

end

@[simp] theorem precedes_cons (key next : String) (value : Datum) (rest : List (String × Datum)) :
    precedes key ((next, value) :: rest) = decide (key < next) := rfl

/-- The fields with one more, in its place; a field of that name gets the new value. -/
def insertField (key : String) (value : Datum) : List (String × Datum) → List (String × Datum)
  | [] => [(key, value)]
  | (next, old) :: rest =>
    if key < next then (key, value) :: (next, old) :: rest
    else if key = next then (key, value) :: rest
    else (next, old) :: insertField key value rest

theorem precedes_insertField {low key : String} {value : Datum} (h : low < key) :
    ∀ fields : List (String × Datum), precedes low fields = true →
      precedes low (insertField key value fields) = true
  | [], _ => by simp [insertField, precedes, h]
  | (next, old) :: rest, hp => by
    simp only [precedes_cons, decide_eq_true_eq] at hp
    rw [insertField]
    split
    · simp [h]
    · split
      · simp [h]
      · simp [hp]

theorem canonicalFields_insertField (key : String) {value : Datum} (hv : value.isCanonical = true) :
    ∀ fields : List (String × Datum), canonicalFields fields = true →
      canonicalFields (insertField key value fields) = true
  | [], _ => by simp [insertField, canonicalFields, precedes, hv]
  | (next, old) :: rest, h => by
    simp only [canonicalFields, Bool.and_eq_true] at h
    obtain ⟨⟨hp, ho⟩, hr⟩ := h
    rw [insertField]
    split
    · next hlt => simp [canonicalFields, hlt, hv, ho, hr, hp]
    · next hlt =>
      split
      · next heq => subst heq; simp [canonicalFields, hv, hr, hp]
      · next hne =>
        have hgt : next < key := by
          apply Decidable.byContradiction
          intro hn
          exact hne (String.le_antisymm (String.not_lt.mp hn) (String.not_lt.mp hlt))
        have ih := canonicalFields_insertField key hv rest hr
        simp [canonicalFields, precedes_insertField hgt rest hp, ho, ih]

/-- The first list of fields with those of the second put into it. -/
def mergeFields (fields : List (String × Datum)) : List (String × Datum) → List (String × Datum)
  | [] => fields
  | (key, value) :: rest => mergeFields (insertField key value fields) rest

theorem canonicalFields_mergeFields :
    ∀ (fields more : List (String × Datum)), canonicalFields fields = true →
      canonicalFields more = true → canonicalFields (mergeFields fields more) = true
  | _, [], h, _ => h
  | fields, (key, value) :: rest, h, hm => by
    simp only [canonicalFields, Bool.and_eq_true] at hm
    obtain ⟨⟨_, hv⟩, hr⟩ := hm
    exact canonicalFields_mergeFields _ rest (canonicalFields_insertField key hv fields h) hr

end Datum

end Palimpsest
