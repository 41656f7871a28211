import Palimpsest.Event
import Palimpsest.Provider.Manifest
import Palimpsest.Table

/-!
# Resolving directives

A `Resolver` finds the provider of a directive. A directive belongs to the first manifest that
lists it; that it is listed again is noted and has no effect. A provider can be reached once
something has been bound to its entry point, and what was bound last counts. No other manifest
steps in for one that cannot be reached.

Correspondence (utsushi ↔ here):
* `ProviderResolver`, with `from_manifests` ↔ `Resolver`, with `ofManifests`
* `DirectiveProvider`, `DirectiveInvocation` ↔ `Binding`, `Use`
* `resolve`, which also logs ↔ `resolve?` and `noteOn`
-/

namespace Palimpsest.Provider

/-- One use of a directive: on which text, in which file. -/
structure Use where
  directive : String
  target : String
  file : Url
deriving DecidableEq

/-- What is bound to an entry point: the text that a use of a directive stands for, or why there
is none. -/
abbrev Binding := Use → Except String String

/-- Directives with the index of the manifest that each belongs to, and what was noted on the
way. -/
structure Ownership where
  owners : Table String Nat
  clashes : List Event

/-- One more directive of a manifest. `nameOf` gives the names of manifests. -/
def Ownership.offer (nameOf : Nat → String) (index : Nat) (o : Ownership) (directive : String) :
    Ownership :=
  match o.owners.find? directive with
  | some owner =>
    { o with clashes := .directiveClash directive (nameOf owner) (nameOf index) :: o.clashes }
  | none => { o with owners := o.owners.insert directive index }

def nameAt (manifests : List Manifest) (index : Nat) : String :=
  match manifests[index]? with
  | some manifest => manifest.name
  | none => ""

def Ownership.ofManifests (manifests : List Manifest) : Ownership :=
  manifests.zipIdx.foldl
    (fun o (manifest, index) =>
      manifest.directives.foldl (Ownership.offer (nameAt manifests) index) o)
    ⟨.empty, []⟩

/-- Manifests, who owns which directive, and what is bound to which entry point. -/
structure Resolver where
  manifests : List Manifest
  owners : Table String Nat
  bindings : Table String Binding

namespace Resolver

def ofManifests (manifests : List Manifest) : Resolver :=
  ⟨manifests, (Ownership.ofManifests manifests).owners, .empty⟩

/-- Something bound to an entry point, in place of what was. -/
def bind (r : Resolver) (entryPoint : String) (binding : Binding) : Resolver :=
  { r with bindings := r.bindings.insert entryPoint binding }

def bindAll (r : Resolver) (bindings : List (String × Binding)) : Resolver :=
  bindings.foldl (fun r (entryPoint, binding) => r.bind entryPoint binding) r

def owner? (r : Resolver) (directive : String) : Option Manifest :=
  (r.owners.find? directive).bind fun index => r.manifests[index]?

/-- The manifest that a directive belongs to, with what is bound to its entry point. -/
def resolve? (r : Resolver) (directive : String) : Option (Manifest × Binding) :=
  (r.owner? directive).bind fun manifest =>
    (r.bindings.find? manifest.entryPoint).map fun binding => (manifest, binding)

/-- What a resolution has to note: that the provider of the directive cannot be reached. -/
def noteOn (r : Resolver) (directive : String) : Option Event :=
  (r.owner? directive).bind fun manifest =>
    if r.bindings.contains manifest.entryPoint then none
    else some (.directiveUnbound manifest.name directive manifest.entryPoint)

/-- The manifests whose entry point has nothing bound to it. -/
def unbound (r : Resolver) : List Manifest :=
  r.manifests.filter fun manifest => !r.bindings.contains manifest.entryPoint

end Resolver

open Text (quoted bracketed)

def Manifest.describe (m : Manifest) : String :=
  Mapping.describeParts "ProviderManifest"
    [("name", quoted m.name), ("entry_point", quoted m.entryPoint),
     ("directives", bracketed (m.directives.map quoted))]

def Resolver.describe (r : Resolver) : String :=
  Mapping.describeParts "ProviderResolver"
    [("manifests", bracketed (r.manifests.map Manifest.describe)),
     ("bound", bracketed (r.bindings.keys.map quoted))]

end Palimpsest.Provider
