import Palimpsest.Proofs.Dictionary
import Palimpsest.Proofs.Wire.Records
import Palimpsest.Wire.Datum

/-!
# Free-form values read back

A free-form value is read into its canonical form, so it is read back where it is canonical
already (`readDatum?_writeDatum`). The fields of an object are put in one after the other; those of
a canonical object come in rising order, and each of them goes behind all the ones before it
(`insertField_behind`).

Beside a switch that is known by name, **a dictionary is read back as long as it does not have the
name itself** (`splitKnown?_beside`).
-/

namespace Palimpsest

namespace Datum

theorem insertField_behind {key : String} {value : Datum} :
    ∀ {fields : List (String × Datum)}, (∀ field ∈ fields, field.1 < key) →
      insertField key value fields = fields ++ [(key, value)]
  | [], _ => rfl
  | (next, old) :: rest, h => by
    obtain ⟨hnext, hrest⟩ := List.forall_mem_cons.1 h
    have hne : key ≠ next := by
      rintro rfl
      exact String.lt_irrefl _ hnext
    rw [insertField, if_neg (String.lt_asymm hnext), if_neg hne, insertField_behind hrest,
      List.cons_append]

end Datum

namespace Wire

open Datum (canonicalFields canonicalItems canonicalFields_iff insertField_behind)

mutual

/-- **A canonical value is read back.** -/
theorem readDatum?_writeDatum :
    ∀ value : Datum, value.isCanonical = true → readDatum? (writeDatum value) = some value
  | .null, _ => rfl
  | .bool _, _ => rfl
  | .number _, _ => rfl
  | .string _, _ => rfl
  | .array items, h => by
    rw [Datum.isCanonical] at h
    rw [writeDatum, readDatum?, readData?_writeData items h, Option.map_some]
  | .object fields, h => by
    rw [Datum.isCanonical] at h
    rw [writeDatum, readDatum?, readFields?_writeFields fields [] h, Option.map_some,
      List.nil_append]

theorem readData?_writeData :
    ∀ items : List Datum, canonicalItems items = true → readData? (writeData items) = some items
  | [], _ => rfl
  | item :: rest, h => by
    rw [canonicalItems, Bool.and_eq_true] at h
    simp [writeData, readData?, readDatum?_writeDatum item h.1, readData?_writeData rest h.2]

theorem readFields?_writeFields :
    ∀ fields found : List (String × Datum), canonicalFields (found ++ fields) = true →
      readFields? found (writeFields fields) = some (found ++ fields)
  | [], found, _ => by rw [writeFields, readFields?, List.append_nil]
  | (key, value) :: rest, found, h => by
    have hcanonical := canonicalFields_iff.1 h
    have hvalue : value.isCanonical = true := hcanonical.2 (key, value) (by simp)
    have hbehind : ∀ field ∈ found, field.1 < key := fun field hfield =>
      (List.pairwise_append.1 hcanonical.1).2.2 field hfield (key, value) List.mem_cons_self
    have hmoved : found ++ (key, value) :: rest = (found ++ [(key, value)]) ++ rest := by simp
    rw [hmoved] at h ⊢
    simp [writeFields, readFields?, readDatum?_writeDatum value hvalue, insertField_behind hbehind,
      readFields?_writeFields rest (found ++ [(key, value)]) h]

end

theorem readDictionary?_writeFields (d : Dictionary) :
    readDictionary? (writeFields d.fields) = some d := by
  have hread := readFields?_writeFields d.fields [] d.canonical
  rw [readDictionary?]
  split
  · next found h =>
    rw [hread, Option.some.injEq] at h
    subst h
    rfl
  · next h => simp [hread] at h

/-! ## A known switch beside a dictionary -/

theorem names_writeFields (fields : List (String × Datum)) :
    (writeFields fields).map Prod.fst = fields.map Prod.fst := by
  induction fields with
  | nil => rfl
  | cons field rest ih => rw [writeFields, List.map_cons, List.map_cons, ih]

theorem notMem_names_of_find?_eq_none {d : Dictionary} {name : String} (h : d.find? name = none) :
    name ∉ (writeFields d.fields).map Prod.fst := by
  rw [names_writeFields, List.mem_map]
  rintro ⟨field, hfield, rfl⟩
  simpa using List.lookup_eq_none_iff.1 h field hfield

/-- **A switch that is known by name and the dictionary beside it are told apart**, whether the
switch is written or left out. -/
theorem splitKnown?_beside {d : Dictionary} {name : String} (h : d.find? name = none)
    (known : Option Json) :
    splitKnown? name (.object (stated [(name, known)] ++ writeFields d.fields)) =
      some (known, d) := by
  have hnames := notMem_names_of_find?_eq_none h
  have honce : ¬ 1 < Json.countField name (stated [(name, known)] ++ writeFields d.fields) := by
    have hnone := List.count_eq_zero.2 hnames
    rw [countField_eq_count, List.map_append, List.count_append, hnone]
    cases known <;> simp [stated]
  have hknown : Json.field? name (stated [(name, known)] ++ writeFields d.fields) = known := by
    cases known with
    | none => exact field?_eq_none hnames
    | some value => simp [stated, Json.field?]
  have hothers : (stated [(name, known)] ++ writeFields d.fields).filter (·.1 != name) =
      writeFields d.fields := by
    have hkept : (writeFields d.fields).filter (·.1 != name) = writeFields d.fields := by
      apply List.filter_eq_self.2
      intro field hfield
      rw [bne_iff_ne]
      rintro rfl
      exact hnames (List.mem_map_of_mem hfield)
    cases known <;> simp [stated, hkept]
  rw [splitKnown?, if_neg honce, hknown]
  change (readDictionary? (List.filter (·.1 != name) _)).map _ = _
  rw [hothers, readDictionary?_writeFields, Option.map_some]

end Wire

end Palimpsest
