import Palimpsest.Declaration.Name
import Palimpsest.Table
import Palimpsest.Version

/-!
# Declaration units

The declarations of an expansion are kept as a unit under the name that belongs to its owner. A
`Registry` holds the units by name; there is at most one for each owner.

Correspondence (utsushi ↔ here):
* `VirtualDeclarationUnit` ↔ `Bundle`
* `VirtualDeclarationRegistry` ↔ `Registry`
-/

namespace Palimpsest.Declaration

/-- Declarations that were made for a file. -/
structure Bundle where
  name : Url
  owner : Url
  content : String
  /-- The version of the owner from which the declarations were made. -/
  version : Version
deriving DecidableEq

abbrev Registry := Table Url Bundle

namespace Registry

/-- The unit of an owner, new or in place of the old one. -/
def register (r : Registry) (owner : Url) (content : String) (version : Version) : Registry :=
  r.insert (unitName owner) ⟨unitName owner, owner, content, version⟩

def unregister (r : Registry) (owner : Url) : Registry := r.erase (unitName owner)

/-- The names of the units in the order of their text. -/
def names (r : Registry) : List Url :=
  r.keys.mergeSort fun a b => decide (a.render ≤ b.render)

end Registry

end Palimpsest.Declaration
