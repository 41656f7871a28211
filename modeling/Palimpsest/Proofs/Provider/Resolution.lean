import Palimpsest.Proofs.Session.Present
import Palimpsest.Proofs.Settings.Layers

/-!
# Directives follow the files

Manifests come from a lower and an upper settings file. What a directive resolves to can be told
from the files and the bindings alone, without the index that the resolver keeps:

1. `find?_ofManifests`: the index of a directive is the place of the first manifest that lists it;
2. `find?_bindAll`: an entry point has what was bound to it last;
3. `firstListing?_merge`: among merged manifests the first that lists a directive is that of the
   upper file, or of what is left of the lower one.

Put together, **a directive is resolved by the files in their order** (`resolution_follows_files`).
-/

namespace Palimpsest.Provider

/-! ## The index -/

namespace Ownership

theorem find?_offer (nameOf : Nat → String) (index : Nat) (o : Ownership)
    (offered directive : String) :
    (o.offer nameOf index offered).owners.find? directive =
      (o.owners.find? directive).or (if directive = offered then some index else none) := by
  unfold offer
  split
  · next owner howner =>
    by_cases h : directive = offered
    · rw [h, howner, Option.some_or]
    · rw [if_neg h, Option.or_none]
  · next hnone =>
    rw [Table.find?_insert]
    by_cases h : directive = offered
    · rw [h, hnone, if_pos rfl, Option.none_or]
    · rw [if_neg h, if_neg h, Option.or_none]

theorem find?_offers (nameOf : Nat → String) (index : Nat) (offered : List String) (o : Ownership)
    (directive : String) :
    (offered.foldl (offer nameOf index) o).owners.find? directive =
      (o.owners.find? directive).or (if directive ∈ offered then some index else none) := by
  induction offered generalizing o with
  | nil => simp
  | cons first rest ih =>
    rw [List.foldl_cons, ih, find?_offer, Option.or_assoc]
    by_cases hfirst : directive = first
    · simp [hfirst]
    · simp [hfirst]

/-- The manifests from some place on: what has been taken before stays. -/
theorem find?_from (nameOf : Nat → String) (manifests : List Manifest) (place : Nat) (o : Ownership)
    (directive : String) :
    ((manifests.zipIdx place).foldl
        (fun o pair => pair.1.directives.foldl (offer nameOf pair.2) o) o).owners.find? directive =
      (o.owners.find? directive).or
        ((manifests.findIdx? (directive ∈ ·.directives)).map (· + place)) := by
  -- what has been taken comes before anything that the rest of the manifests could take
  induction manifests generalizing place o with
  | nil => simp
  | cons manifest rest ih =>
    rw [List.zipIdx_cons, List.foldl_cons, ih, find?_offers, Option.or_assoc, List.findIdx?_cons]
    congr 1
    by_cases hlisted : directive ∈ manifest.directives
    · simp [hlisted]
    · simp [hlisted, Function.comp_def, Nat.add_assoc, Nat.add_comm 1 place]

/-- **A directive belongs to the first manifest that lists it.** -/
theorem find?_ofManifests (manifests : List Manifest) (directive : String) :
    (ofManifests manifests).owners.find? directive =
      manifests.findIdx? (directive ∈ ·.directives) := by
  have hall := find?_from (nameAt manifests) manifests 0 ⟨.empty, []⟩ directive
  rw [Table.find?_empty, Option.none_or] at hall
  exact hall.trans (by simp)

end Ownership

/-! ## Resolvers -/

/-- The first of some manifests that lists a directive. -/
def firstListing? (manifests : List Manifest) (directive : String) : Option Manifest :=
  manifests.find? (directive ∈ ·.directives)

def lastBound? (bindings : List (String × Binding)) (entryPoint : String) : Option Binding :=
  (bindings.findRev? (·.1 = entryPoint)).map (·.2)

theorem lastBound?_cons (bound : String × Binding) (rest : List (String × Binding))
    (entryPoint : String) :
    lastBound? (bound :: rest) entryPoint =
      (lastBound? rest entryPoint).or (if entryPoint = bound.1 then some bound.2 else none) := by
  simp only [lastBound?, List.findRev?_eq_find?_reverse, List.reverse_cons, List.find?_append,
    List.find?_singleton, Option.map_or]
  by_cases h : bound.1 = entryPoint
  · simp [h]
  · simp [h, Ne.symm h]

theorem lastBound?_eq_none_iff {bindings : List (String × Binding)} {entryPoint : String} :
    lastBound? bindings entryPoint = none ↔ ∀ bound ∈ bindings, bound.1 ≠ entryPoint := by
  simp [lastBound?]

namespace Resolver

theorem owner?_ofManifests (manifests : List Manifest) (directive : String) :
    (ofManifests manifests).owner? directive = firstListing? manifests directive := by
  rw [firstListing?, List.find?_eq_bind_findIdx?_getElem?]
  exact congrArg (Option.bind · _) (Ownership.find?_ofManifests manifests directive)

theorem bindAll_eq (r : Resolver) (bindings : List (String × Binding)) :
    r.bindAll bindings = { r with bindings := (r.bindAll bindings).bindings } := by
  induction bindings generalizing r with
  | nil => rfl
  | cons bound rest ih => exact ih (r.bind bound.1 bound.2)

/-- **What was bound last counts.** -/
theorem find?_bindAll (r : Resolver) (bindings : List (String × Binding)) (entryPoint : String) :
    (r.bindAll bindings).bindings.find? entryPoint =
      (lastBound? bindings entryPoint).or (r.bindings.find? entryPoint) := by
  induction bindings generalizing r with
  | nil => rfl
  | cons bound rest ih =>
    have hbind : (r.bind bound.1 bound.2).bindings.find? entryPoint =
        (if entryPoint = bound.1 then some bound.2 else none).or (r.bindings.find? entryPoint) := by
      rw [bind, Table.find?_insert]
      split <;> simp
    calc (r.bindAll (bound :: rest)).bindings.find? entryPoint
        = ((r.bind bound.1 bound.2).bindAll rest).bindings.find? entryPoint := rfl
      _ = (lastBound? rest entryPoint).or
            ((if entryPoint = bound.1 then some bound.2 else none).or
              (r.bindings.find? entryPoint)) := by rw [ih, hbind]
      _ = (lastBound? (bound :: rest) entryPoint).or (r.bindings.find? entryPoint) := by
        rw [lastBound?_cons, Option.or_assoc]

theorem resolve?_bindAll (manifests : List Manifest) (bindings : List (String × Binding))
    (directive : String) :
    ((ofManifests manifests).bindAll bindings).resolve? directive =
      (firstListing? manifests directive).bind fun manifest =>
        (lastBound? bindings manifest.entryPoint).map fun binding => (manifest, binding) := by
  have howner : ((ofManifests manifests).bindAll bindings).owner? directive =
      firstListing? manifests directive := by
    rw [bindAll_eq]
    exact owner?_ofManifests manifests directive
  have hbound : ∀ entryPoint, ((ofManifests manifests).bindAll bindings).bindings.find? entryPoint =
      lastBound? bindings entryPoint := by
    intro entryPoint
    rw [find?_bindAll]
    exact Option.or_none
  rw [resolve?, howner]
  simp only [hbound]

theorem index_lt_length {manifests : List Manifest} {bindings : List (String × Binding)}
    {directive : String} {index : Nat}
    (h : ((ofManifests manifests).bindAll bindings).owners.find? directive = some index) :
    index < ((ofManifests manifests).bindAll bindings).manifests.length := by
  rw [bindAll_eq] at h ⊢
  have hplace : manifests.findIdx? (directive ∈ ·.directives) = some index :=
    (Ownership.find?_ofManifests manifests directive).symm.trans h
  exact (List.findIdx?_eq_some_iff_getElem.mp hplace).1

end Resolver

/-! ## Settings files -/

/-- The manifests of a settings file, if there is one. -/
def manifestsOf (file : Option Settings.Layer) : List Manifest := (file.getD .empty).providers

/-- The manifest that speaks for a directive: the first of the upper file that lists it, else the
first of those of the lower file whose name no upper one has. -/
def claimant? (fallback primary : List Manifest) (directive : String) : Option Manifest :=
  (firstListing? primary directive).or
    (firstListing? (fallback.filter fun lower => ∀ upper ∈ primary, upper.name ≠ lower.name)
      directive)

theorem manifestsOf_merge (fallback primary : Option Settings.Layer) :
    manifestsOf (Settings.merge fallback primary) =
      Settings.mergeProviders (manifestsOf fallback) (manifestsOf primary) := by
  cases fallback with
  | none =>
    cases primary with
    | none => rfl
    | some upper => exact (Settings.mergeProviders_nil_left upper.providers).symm
  | some lower =>
    cases primary with
    | none => exact (Settings.mergeProviders_nil_right lower.providers).symm
    | some upper => rfl

theorem firstListing?_merge (fallback primary : Option Settings.Layer) (directive : String) :
    firstListing? (manifestsOf (Settings.merge fallback primary)) directive =
      claimant? (manifestsOf fallback) (manifestsOf primary) directive := by
  have hleft : ∀ lower : Manifest,
      (!(manifestsOf primary).any fun upper => upper.name == lower.name) =
        decide (∀ upper ∈ manifestsOf primary, upper.name ≠ lower.name) := by
    intro lower
    rw [Bool.eq_iff_iff]
    simp
  rw [manifestsOf_merge, Settings.mergeProviders, claimant?, firstListing?, List.find?_append]
  simp only [hleft]
  rfl

/-- The resolver that a session makes from a settings file, if there is one, and bindings. -/
def resolverOf (file : Option Settings.Layer) (bindings : List (String × Binding)) : Resolver :=
  (Resolver.ofManifests (Settings.ofLayer (file.getD .empty)).providers).bindAll bindings

theorem resolve?_resolverOf (file : Option Settings.Layer) (bindings : List (String × Binding))
    (directive : String) :
    (resolverOf file bindings).resolve? directive =
      (firstListing? (manifestsOf file) directive).bind fun manifest =>
        (lastBound? bindings manifest.entryPoint).map fun binding => (manifest, binding) :=
  Resolver.resolve?_bindAll (manifestsOf file) bindings directive

/-- **A directive is resolved by the files in their order**, with what was bound last to the entry
point of its claimant.

Nothing else steps in for a claimant without a binding, every index of the resolver is that of a
manifest, and a directive that the upper file lists is resolved as if there were no lower one. A
session on the merged settings works with this resolver. -/
theorem resolution_follows_files (fallback primary : Option Settings.Layer)
    (bindings : List (String × Binding)) (directive : String) :
    let resolver := resolverOf (Settings.merge fallback primary) bindings
    let claimant := claimant? (manifestsOf fallback) (manifestsOf primary) directive
    (∀ manifest binding, resolver.resolve? directive = some (manifest, binding) ↔
        claimant = some manifest ∧ lastBound? bindings manifest.entryPoint = some binding) ∧
      (resolver.resolve? directive = none ↔
        claimant = none ∨
          ∃ manifest, claimant = some manifest ∧
            ∀ bound ∈ bindings, bound.1 ≠ manifest.entryPoint) ∧
      (∀ listed index, resolver.owners.find? listed = some index →
        index < resolver.manifests.length) ∧
      ((∃ manifest ∈ manifestsOf primary, directive ∈ manifest.directives) →
        resolver.resolve? directive = (resolverOf primary bindings).resolve? directive) ∧
      (∀ compile sources session,
        Session.create compile (Settings.ofLayer ((Settings.merge fallback primary).getD .empty))
          bindings sources = .ok session → session.store.providers = resolver) := by
  intro resolver claimant
  have hresolve : resolver.resolve? directive = claimant.bind fun manifest =>
      (lastBound? bindings manifest.entryPoint).map fun binding => (manifest, binding) := by
    rw [resolve?_resolverOf, firstListing?_merge]
  refine ⟨?_, ?_, ?_, ?_, ?_⟩
  · intro manifest binding
    rw [hresolve, Option.bind_eq_some_iff]
    constructor
    · rintro ⟨found, hfound, hmap⟩
      obtain ⟨bound, hbound, hpair⟩ := Option.map_eq_some_iff.mp hmap
      obtain ⟨rfl, rfl⟩ := Prod.mk.inj hpair
      exact ⟨hfound, hbound⟩
    · rintro ⟨hclaimant, hbound⟩
      exact ⟨manifest, hclaimant, by rw [hbound, Option.map_some]⟩
  · rw [hresolve]
    cases claimant with
    | none => simp
    | some manifest => simp [lastBound?_eq_none_iff]
  · intro listed index h
    exact Resolver.index_lt_length h
  · rintro ⟨manifest, hmem, hlisted⟩
    obtain ⟨first, hfirst⟩ : ∃ first, firstListing? (manifestsOf primary) directive = some first :=
      Option.isSome_iff_exists.mp
        (List.find?_isSome.mpr ⟨manifest, hmem, decide_eq_true hlisted⟩)
    have hclaimant : claimant = firstListing? (manifestsOf primary) directive := by
      rw [hfirst]
      exact congrArg (Option.or · _) hfirst
    rw [hresolve, hclaimant, resolve?_resolverOf]
  · intro compile sources session hcreate
    obtain ⟨_, _, -, rfl⟩ := Session.create_eq_ok hcreate
    rfl

def userFile : Settings.Layer :=
  { Settings.Layer.empty with
    providers := [⟨"serde", "old", ["Serialize", "Debug"]⟩, ⟨"kit", "kit", ["Builder", "Getters"]⟩] }

/-- A project's file that replaces one of them and contests a directive of the other. -/
def projectFile : Settings.Layer :=
  { Settings.Layer.empty with
    providers := [⟨"serde", "new", ["Serialize"]⟩, ⟨"own", "own", ["Builder"]⟩] }

/-- Three bindings, the second in place of the first. -/
def givenBindings : List (String × Binding) :=
  [("new", fun _ => .ok "first"), ("new", fun use => .ok use.target), ("kit", fun _ => .ok "kit")]

/-- `Serialize` is resolved by the manifest that replaced the other. `Debug` went with the replaced
one, and `Builder` belongs to a manifest without a binding, though another one lists it and is
bound. -/
theorem projectFile_resolves :
    let resolver := resolverOf (Settings.merge (some userFile) (some projectFile)) givenBindings
    resolver.resolve? "Serialize" =
        some (⟨"serde", "new", ["Serialize"]⟩, fun use => .ok use.target) ∧
      resolver.resolve? "Debug" = none ∧ resolver.resolve? "Builder" = none := by
  refine ⟨?_, ?_, ?_⟩
  · exact ((resolution_follows_files (some userFile) (some projectFile) givenBindings
      "Serialize").1 _ _).mpr ⟨by decide +kernel, rfl⟩
  · exact (resolution_follows_files (some userFile) (some projectFile) givenBindings
      "Debug").2.1.mpr (Or.inl (by decide +kernel))
  · exact (resolution_follows_files (some userFile) (some projectFile) givenBindings
      "Builder").2.1.mpr (Or.inr ⟨⟨"own", "own", ["Builder"]⟩, by decide +kernel, by
        simp [givenBindings]⟩)

end Palimpsest.Provider
