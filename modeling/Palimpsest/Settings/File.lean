import Palimpsest.Settings.Basic
import Palimpsest.Toml.Reader

/-!
# Settings files

What a settings file says, read from its TOML document. Keys that are not known are passed over. In
the part for the expander every other key is handed on as a free-form value: a date or a time
becomes an object with its text, and a number that is infinite or none becomes null.
-/

namespace Palimpsest.Settings

open Toml (Node Fields)

/-- The key under which the text of a date or a time is handed on. -/
def momentKey : String := "$__toml_private_datetime"

/-- A scalar as a free-form value. Integers have 64 bits, with a sign or without. -/
def scalarDatum? : Toml.Scalar → Option Datum
  | .string s => some (.string s)
  | .integer n =>
    if -0x8000000000000000 ≤ n ∧ n < 0x10000000000000000 then some (.number (.integer n)) else none
  | .float (some x) => some (.number (.float x))
  | .float none => some .null
  | .bool b => some (.bool b)
  | .moment text => some (.object [(momentKey, .string text)])

mutual

def nodeDatum? : Node → Option Datum
  | .scalar s => scalarDatum? s
  | .array _ items => (nodeData? items).map .array
  | .table _ fields => (nodeFields? [] fields).map .object

def nodeData? : List Node → Option (List Datum)
  | [] => some []
  | item :: rest =>
    match nodeDatum? item, nodeData? rest with
    | some datum, some data => some (datum :: data)
    | _, _ => none

/-- Fields as free-form values, put in order behind those that have been found. -/
def nodeFields? (found : List (String × Datum)) :
    List (String × Node) → Option (List (String × Datum))
  | [] => some found
  | (key, node) :: rest =>
    match nodeDatum? node with
    | some datum => nodeFields? (Datum.insertField key datum found) rest
    | none => none

end

theorem isCanonical_of_scalarDatum? {s : Toml.Scalar} {datum : Datum}
    (h : scalarDatum? s = some datum) : datum.isCanonical = true := by
  cases s with
  | string _ => simp only [scalarDatum?, Option.some.injEq] at h; subst h; rfl
  | integer n =>
    simp only [scalarDatum?] at h
    split at h
    · simp only [Option.some.injEq] at h; subst h; rfl
    · simp at h
  | float x => cases x <;> (simp only [scalarDatum?, Option.some.injEq] at h; subst h; rfl)
  | bool _ => simp only [scalarDatum?, Option.some.injEq] at h; subst h; rfl
  | moment _ => simp only [scalarDatum?, Option.some.injEq] at h; subst h; rfl

mutual

theorem isCanonical_of_nodeDatum? :
    ∀ (node : Node) (datum : Datum), nodeDatum? node = some datum → datum.isCanonical = true
  | .scalar s, datum, h => by
    simp only [nodeDatum?] at h
    exact isCanonical_of_scalarDatum? h
  | .array _ items, datum, h => by
    simp only [nodeDatum?] at h
    obtain ⟨data, hd, rfl⟩ := Option.map_eq_some_iff.1 h
    rw [Datum.isCanonical]
    exact canonicalItems_of_nodeData? items data hd
  | .table _ fields, datum, h => by
    simp only [nodeDatum?] at h
    obtain ⟨found, hf, rfl⟩ := Option.map_eq_some_iff.1 h
    rw [Datum.isCanonical]
    exact canonicalFields_of_nodeFields? fields [] found rfl hf

theorem canonicalItems_of_nodeData? :
    ∀ (items : List Node) (data : List Datum), nodeData? items = some data →
      Datum.canonicalItems data = true
  | [], data, h => by
    simp only [nodeData?, Option.some.injEq] at h; subst h; rfl
  | item :: rest, data, h => by
    simp only [nodeData?] at h
    split at h
    · next datum more hi hr =>
      simp only [Option.some.injEq] at h
      subst h
      simp [Datum.canonicalItems, isCanonical_of_nodeDatum? item datum hi,
        canonicalItems_of_nodeData? rest more hr]
    · simp at h

theorem canonicalFields_of_nodeFields? :
    ∀ (fields : List (String × Node)) (found result : List (String × Datum)),
      Datum.canonicalFields found = true → nodeFields? found fields = some result →
        Datum.canonicalFields result = true
  | [], found, result, hc, h => by
    simp only [nodeFields?, Option.some.injEq] at h; subst h; exact hc
  | (key, node) :: rest, found, result, hc, h => by
    simp only [nodeFields?] at h
    split at h
    · next datum hv =>
      exact canonicalFields_of_nodeFields? rest _ result
        (Datum.canonicalFields_insertField key (isCanonical_of_nodeDatum? node datum hv) found hc)
        h
    · simp at h

end

def nodeDictionary? (fields : Fields) : Option Dictionary :=
  match h : nodeFields? [] fields with
  | some found => some ⟨found, canonicalFields_of_nodeFields? fields [] found rfl h⟩
  | none => none

def nodeString? : Node → Option String
  | .scalar (.string s) => some s
  | _ => none

def nodeStrings? : Node → Option (List String)
  | .array _ items => items.mapM nodeString?
  | _ => none

def optionalField? {α : Type} (read : Node → Option α) (key : String) (fields : Fields) :
    Option (Option α) :=
  match fields.lookup key with
  | none => some none
  | some node => (read node).map some

def expandLayer? : Node → Option ExpandLayer
  | .table _ fields => do
    let keep ← optionalField?
      (fun | .scalar (.bool b) => some b | _ => none) "keep_annotations" fields
    let extra ← nodeDictionary? (fields.filter fun (key, _) => key != "keep_annotations")
    return ⟨keep, extra⟩
  | .scalar (.moment text) => some ⟨none, ⟨[(momentKey, .string text)], rfl⟩⟩
  | _ => none

/-- A manifest, as a table or as an array of its fields in order; what follows them in the array
is passed over. -/
def manifest? : Node → Option Provider.Manifest
  | .table _ fields => do
    let name ← (fields.lookup "name").bind nodeString?
    let entryPoint ← (fields.lookup "entry_point").bind nodeString?
    let directives ← optionalField? nodeStrings? "directives" fields
    return ⟨name, entryPoint, directives.getD []⟩
  | .array _ (name :: entryPoint :: rest) => do
    let directives ← match rest with | [] => some [] | node :: _ => nodeStrings? node
    return ⟨← nodeString? name, ← nodeString? entryPoint, directives⟩
  | _ => none

def manifests? : Node → Option (List Provider.Manifest)
  | .array _ items => items.mapM manifest?
  | _ => none

def Layer.ofDocument? (fields : Fields) : Option Layer := do
  let providers ← optionalField? manifests? "providers" fields
  return {
    directivePattern := ← optionalField? nodeString? "directive_pattern" fields
    excludedDirs := ← optionalField? nodeStrings? "excluded_dirs" fields
    diagnosticSource := ← optionalField? nodeString? "diagnostic_source" fields
    expand := ← optionalField? expandLayer? "expand" fields
    providers := providers.getD [] }

/-- What a settings file with this text says, or that it is none. -/
def Layer.read (text : String) : Except String Layer :=
  match (Toml.read? text).bind Layer.ofDocument? with
  | some layer => .ok layer
  | none => .error "not a settings file"

end Palimpsest.Settings
