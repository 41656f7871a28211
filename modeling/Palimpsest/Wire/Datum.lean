import Palimpsest.Dictionary
import Palimpsest.Wire.Codec

/-!
# Free-form values on the wire

A free-form value is written as it is. It is read into its canonical form
(`isCanonical_of_readDatum?`): the fields of each object are put in order, and of fields with the
same name the last one counts.
-/

namespace Palimpsest.Wire

mutual

def writeDatum : Datum → Json
  | .null => .null
  | .bool b => .bool b
  | .number n => .number n
  | .string s => .string s
  | .array items => .array (writeData items)
  | .object fields => .object (writeFields fields)

def writeData : List Datum → List Json
  | [] => []
  | item :: rest => writeDatum item :: writeData rest

def writeFields : List (String × Datum) → List (String × Json)
  | [] => []
  | (key, value) :: rest => (key, writeDatum value) :: writeFields rest

end

mutual

def readDatum? : Json → Option Datum
  | .null => some .null
  | .bool b => some (.bool b)
  | .number n => some (.number n)
  | .string s => some (.string s)
  | .array items => (readData? items).map .array
  | .object fields => (readFields? [] fields).map .object
  | .malformed => none

def readData? : List Json → Option (List Datum)
  | [] => some []
  | item :: rest =>
    match readDatum? item, readData? rest with
    | some datum, some data => some (datum :: data)
    | _, _ => none

/-- Fields put in order behind those that have been found. -/
def readFields? (found : List (String × Datum)) :
    List (String × Json) → Option (List (String × Datum))
  | [] => some found
  | (key, value) :: rest =>
    match readDatum? value with
    | some datum => readFields? (Datum.insertField key datum found) rest
    | none => none

end

mutual

theorem isCanonical_of_readDatum? :
    ∀ (value : Json) (datum : Datum), readDatum? value = some datum → datum.isCanonical = true
  | .null, datum, h => by
    simp only [readDatum?, Option.some.injEq] at h; subst h; rfl
  | .bool _, datum, h => by
    simp only [readDatum?, Option.some.injEq] at h; subst h; rfl
  | .number _, datum, h => by
    simp only [readDatum?, Option.some.injEq] at h; subst h; rfl
  | .string _, datum, h => by
    simp only [readDatum?, Option.some.injEq] at h; subst h; rfl
  | .malformed, datum, h => by simp [readDatum?] at h
  | .array items, datum, h => by
    simp only [readDatum?] at h
    obtain ⟨data, hd, rfl⟩ := Option.map_eq_some_iff.1 h
    rw [Datum.isCanonical]
    exact canonicalItems_of_readData? items data hd
  | .object fields, datum, h => by
    simp only [readDatum?] at h
    obtain ⟨found, hf, rfl⟩ := Option.map_eq_some_iff.1 h
    rw [Datum.isCanonical]
    exact canonicalFields_of_readFields? fields [] found rfl hf

theorem canonicalItems_of_readData? :
    ∀ (items : List Json) (data : List Datum), readData? items = some data →
      Datum.canonicalItems data = true
  | [], data, h => by
    simp only [readData?, Option.some.injEq] at h; subst h; rfl
  | item :: rest, data, h => by
    simp only [readData?] at h
    split at h
    · next datum more hi hr =>
      simp only [Option.some.injEq] at h
      subst h
      simp [Datum.canonicalItems, isCanonical_of_readDatum? item datum hi,
        canonicalItems_of_readData? rest more hr]
    · simp at h

theorem canonicalFields_of_readFields? :
    ∀ (fields : List (String × Json)) (found result : List (String × Datum)),
      Datum.canonicalFields found = true → readFields? found fields = some result →
        Datum.canonicalFields result = true
  | [], found, result, hc, h => by
    simp only [readFields?, Option.some.injEq] at h; subst h; exact hc
  | (key, value) :: rest, found, result, hc, h => by
    simp only [readFields?] at h
    split at h
    · next datum hv =>
      exact canonicalFields_of_readFields? rest _ result
        (Datum.canonicalFields_insertField key (isCanonical_of_readDatum? value datum hv) found hc)
        h
    · simp at h

end

def readDictionary? (fields : List (String × Json)) : Option Dictionary :=
  match h : readFields? [] fields with
  | some found => some ⟨found, canonicalFields_of_readFields? fields [] found rfl h⟩
  | none => none

/-- The switches of an object beside one that is known by name: the value of the known one, if it
is there, and a dictionary of the others. -/
def splitKnown? (name : String) : Json → Option (Option Json × Dictionary)
  | .object fields =>
    if 1 < Json.countField name fields then none
    else
      (readDictionary? (fields.filter fun (key, _) => key != name)).map
        fun extra => (Json.field? name fields, extra)
  | _ => none

end Palimpsest.Wire
