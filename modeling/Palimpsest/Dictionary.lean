import Palimpsest.Datum

/-!
# Dictionaries

A `Dictionary` holds free-form values under names, in the order of the names. There is one
dictionary for each content.
-/

namespace Palimpsest

/-- Free-form values by name. -/
structure Dictionary where
  fields : List (String × Datum)
  canonical : Datum.canonicalFields fields = true

namespace Dictionary

def empty : Dictionary := ⟨[], rfl⟩

def find? (d : Dictionary) (key : String) : Option Datum := d.fields.lookup key

def same (a b : Dictionary) : Bool := Datum.sameFields a.fields b.fields

theorem same_refl (d : Dictionary) : d.same d = true := Datum.sameFields_refl d.fields

/-- The first dictionary with the values of the second, which win. -/
def merge (fallback primary : Dictionary) : Dictionary :=
  ⟨Datum.mergeFields fallback.fields primary.fields,
    Datum.canonicalFields_mergeFields _ _ fallback.canonical primary.canonical⟩

end Dictionary

end Palimpsest
