import Palimpsest.Proofs.Declaration.Sharing
import Palimpsest.Proofs.Expansion.Units

/-!
# What an operation on one file does to the units of others

Fetching or removing one file writes one place among the units, the one under the name that belongs
to the file. No unit of another file is made or altered by that. But the place may be taken by a
file that shares the name, and then the unit of that file is lost.

1. `Touch`: an operation on one file during which nothing else is fetched.
2. `Touch.Writes`: whether it writes the place of the unit.
3. `units_of_others`: a unit of another file is there afterwards exactly if it was there before, and
   the place was not written or belongs to this file alone.
4. `unit_lost_to_query`: two URLs that differ in their query, one of which loses its unit.
-/

namespace Palimpsest.Expansion

open Declaration (unitName SharesUnit unitName_eq_iff)

/-- Under the name that belongs to the file there is a unit of the file, if any, and all other units
are as they were. -/
structure Store.UnitsWritten (s : Store) (file : Url) (t : Store) : Prop where
  own : ∀ unit, t.units.find? (unitName file) = some unit → unit.owner = file
  others : ∀ name, name ≠ unitName file → t.units.find? name = s.units.find? name

theorem Store.unitsWritten_publish (s : Store) (file : Url) (entry : Entry) :
    s.UnitsWritten file (s.publish file entry) where
  own unit hunit := by
    rw [units_publish, if_pos rfl] at hunit
    obtain ⟨text, -, rfl⟩ := Option.map_eq_some_iff.mp hunit
    rfl
  others name hname := by rw [units_publish, if_neg hname]

theorem Store.unitsWritten_remove (s : Store) (file : Url) :
    s.UnitsWritten file (s.remove file) where
  own unit hunit := by
    rw [units_remove, if_pos rfl] at hunit
    cases hunit
  others name hname := by rw [units_remove, if_neg hname]

/-- An operation on one file, with an expander that fetches nothing. -/
inductive Touch where
  | get (content : String) (version : Version) (expander : Request → Expander.Reply)
  | remove

namespace Touch

def apply (s : Store) (file : Url) : Touch → Store
  | get content version expander => (fetch (Invoke.ofFunction expander) file content version s).2
  | remove => s.remove file

/-- Whether an entry of the file is published or removed: only an entry that is there already, or a
fetch that meets itself, leaves things as they are. -/
def Writes (s : Store) (file : Url) : Touch → Prop
  | get content version _ =>
    s.current? file version = none ∧ (Text.isBlankText content = true ∨ file ∉ s.running)
  | remove => True

/-- Either the place of the file's unit is written and nothing else, or nothing is. -/
theorem units_apply (touch : Touch) (s : Store) (file : Url) :
    touch.Writes s file ∧ s.UnitsWritten file (touch.apply s file) ∨
      ¬ touch.Writes s file ∧ (touch.apply s file).units = s.units := by
  cases touch with
  | remove => exact Or.inl ⟨trivial, s.unitsWritten_remove file⟩
  | get content version expander =>
    have hbegun := s.begun file content version
    rw [apply]
    obtain ⟨entry, t, hbegin, hfetch⟩ | ⟨reply, t, hbegin, hcall, hfetch⟩ :=
      fetch_cases (Invoke.ofFunction expander) file content version s
    · rw [hbegin] at hbegun
      rw [hfetch]
      cases hbegun with
      | hit _ hentry hversion =>
        refine Or.inr ⟨?_, rfl⟩
        rintro ⟨hmiss, -⟩
        rw [Store.current?_eq_some_iff.mpr ⟨hentry, hversion⟩] at hmiss
        cases hmiss
      | blank hmiss hblank =>
        have hwritten := s.unitsWritten_publish file (.passThrough content version .skipped)
        exact Or.inl ⟨⟨hmiss, Or.inl hblank⟩, hwritten⟩
      | reentered _ hblank hrunning =>
        refine Or.inr ⟨?_, rfl⟩
        rintro ⟨-, hblank' | hidle⟩
        · rw [hblank] at hblank'
          cases hblank'
        · exact hidle hrunning
    · obtain ⟨rfl, rfl⟩ : expander (s.request file content) = reply ∧
          s.opened file version = t := by
        simpa [Invoke.ofFunction] using hcall
      rw [hbegin] at hbegun
      rw [hfetch]
      cases hbegun with
      | call hmiss _ hidle =>
        refine Or.inl ⟨⟨hmiss, Or.inr hidle⟩, ?_⟩
        -- The call itself leaves the units alone.
        obtain ⟨hown, hothers⟩ := (s.opened file version).unitsWritten_publish file
          (Entry.ofReply content version (expander (s.request file content)))
        rw [← Store.units_closed] at hown hothers
        exact ⟨hown, hothers⟩

end Touch

theorem Store.UnitsLive.unit_of_other {s : Store} (h : s.UnitsLive) {f g : Url} (hne : f ≠ g)
    (touch : Touch) {name : Url} {unit : Declaration.Bundle} (howner : unit.owner = g) :
    (touch.apply s f).units.find? name = some unit ↔
      s.units.find? name = some unit ∧ ¬(touch.Writes s f ∧ SharesUnit f g) := by
  rw [← unitName_eq_iff]
  -- A unit is stored under the name that belongs to its owner.
  have hplace : s.units.find? name = some unit → name = unitName g := by
    intro hunit
    obtain ⟨-, hname, -⟩ := h name unit hunit
    rw [hname, howner]
  rcases touch.units_apply s f with ⟨hwrites, hown, hothers⟩ | ⟨hidle, hunits⟩
  · by_cases hname : name = unitName f
    · have hgone : (touch.apply s f).units.find? name ≠ some unit := by
        rw [hname]
        intro hunit
        exact hne (by rw [← hown unit hunit, howner])
      refine iff_of_false hgone ?_
      rintro ⟨hunit, hapart⟩
      exact hapart ⟨hwrites, by rw [← hname, hplace hunit]⟩
    · rw [hothers name hname]
      refine ⟨fun hunit => ⟨hunit, ?_⟩, fun hunit => hunit.1⟩
      rintro ⟨-, hshared⟩
      exact hname (by rw [hplace hunit, hshared])
  · rw [hunits]
    simp [hidle]

/-- **An operation on one file makes and alters no unit of another, and takes one away exactly if it
writes the place of its own unit and the two files share that place.** It holds at every point of
every run. -/
theorem units_of_others (providers : Provider.Resolver) (options : Expander.Options)
    (ops : List Operation) {w v : Work} {stack : List Url} {s : Store}
    (h : w.Reaches (Operation.run ops (.create providers options)) stack v s) {f g : Url}
    (hne : f ≠ g) (touch : Touch) (name : Url) (unit : Declaration.Bundle)
    (howner : unit.owner = g) :
    (touch.apply s f).units.find? name = some unit ↔
      s.units.find? name = some unit ∧ ¬(touch.Writes s f ∧ SharesUnit f g) := by
  have hlive : s.UnitsLive := by
    have hrun := Store.invariant_unitsLive.run ops (Store.unitsLive_create providers options)
    exact Store.invariant_unitsLive.toKept.reaches h hrun
  exact hlive.unit_of_other hne touch howner

/-! A file with declarations, one beside it, and one that differs in its query. -/

def frameStore : Store :=
  Operation.run
    [.get (Url.ofFile ["a.ts"]) "x" ⟨"1"⟩ fun _ => .reply (.output ⟨"x", some "d", [], none⟩)]
    (.create (.ofManifests []) .empty)

def frameUnit : Declaration.Bundle :=
  ⟨unitName (Url.ofFile ["a.ts"]), Url.ofFile ["a.ts"], "d", ⟨"1"⟩⟩

theorem frameUnit_stays :
    frameStore.units.find? frameUnit.name = some frameUnit ∧
      (Touch.remove.apply frameStore (Url.ofFile ["b.ts"])).units.find? frameUnit.name =
        some frameUnit := by
  have hunit : frameStore.units.find? frameUnit.name = some frameUnit := by decide +kernel
  refine ⟨hunit, ?_⟩
  rw [units_of_others (.ofManifests []) .empty _ (.here (.reply (.failed "")) frameStore)
    (g := Url.ofFile ["a.ts"]) (by decide) .remove frameUnit.name frameUnit rfl]
  exact ⟨hunit, fun hshared => absurd hshared.2 (by decide +kernel)⟩

/-- Whether the second file is fetched, in vain, or removed, the first one is left without its
unit. -/
theorem unit_lost_to_query :
    ({ Url.ofFile ["a.ts"] with query := some "x" } : Url) ≠ Url.ofFile ["a.ts"] ∧
      frameStore.units.find? frameUnit.name = some frameUnit ∧
      ((Touch.get "y" ⟨"1"⟩ fun _ => .failed "b").apply frameStore
        { Url.ofFile ["a.ts"] with query := some "x" }).units.find? frameUnit.name = none ∧
      (Touch.remove.apply frameStore
        { Url.ofFile ["a.ts"] with query := some "x" }).units.find? frameUnit.name = none := by
  decide +kernel

end Palimpsest.Expansion
