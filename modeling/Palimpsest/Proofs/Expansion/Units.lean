import Palimpsest.Proofs.Expansion.Runs

/-!
# Units and entries

Units and entries are kept apart and changed one after the other. Still no unit is ever there
without the entry that it was made of.

A unit is found by its name only, and two files may have the same name for their units. Publishing
the entry of one then takes the unit of the other away, whose entry goes on without a unit. So the
law is about units, each of which has its entry, and not about entries.
-/

namespace Palimpsest.Expansion

open Declaration (unitName)

namespace Store

/-- Every unit is stored under the name that belongs to its owner, and the owner has an entry with
just these declarations and of just this version. -/
def UnitsLive (s : Store) : Prop :=
  ∀ name unit, s.units.find? name = some unit →
    unit.name = name ∧ name = unitName unit.owner ∧
      ∃ entry, s.peek unit.owner = some entry ∧ entry.declarations = some unit.content ∧
        entry.version = unit.version

theorem unitsLive_create (providers : Provider.Resolver) (options : Expander.Options) :
    (create providers options).UnitsLive := by
  intro name unit hunit
  cases hunit

theorem UnitsLive.congr {s t : Store} (h : s.UnitsLive) (hunits : t.units = s.units)
    (hpeek : ∀ file, t.peek file = s.peek file) : t.UnitsLive := by
  intro name unit hunit
  rw [hunits] at hunit
  rw [hpeek]
  exact h name unit hunit

theorem UnitsLive.publish {s : Store} (h : s.UnitsLive) (file : Url) (entry : Entry) :
    (s.publish file entry).UnitsLive := by
  intro name unit hunit
  rw [units_publish] at hunit
  by_cases hname : name = unitName file
  · -- The unit is the one that was just made of the entry.
    rw [if_pos hname, Option.map_eq_some_iff] at hunit
    obtain ⟨text, htext, rfl⟩ := hunit
    refine ⟨hname.symm, hname, entry, ?_, htext, rfl⟩
    rw [peek_publish, if_pos rfl]
  · rw [if_neg hname] at hunit
    obtain ⟨hself, howner, hentry⟩ := h name unit hunit
    refine ⟨hself, howner, ?_⟩
    -- The name of the unit is not that of the file, so neither is its owner the file.
    have hother : unit.owner ≠ file := fun heq => hname (heq ▸ howner)
    rw [peek_publish, if_neg hother]
    exact hentry

theorem UnitsLive.remove {s : Store} (h : s.UnitsLive) (file : Url) :
    (s.remove file).UnitsLive := by
  intro name unit hunit
  rw [units_remove] at hunit
  by_cases hname : name = unitName file
  · rw [if_pos hname] at hunit
    cases hunit
  · rw [if_neg hname] at hunit
    obtain ⟨hself, howner, hentry⟩ := h name unit hunit
    refine ⟨hself, howner, ?_⟩
    have hother : unit.owner ≠ file := fun heq => hname (heq ▸ howner)
    rw [peek_remove, if_neg hother]
    exact hentry

theorem UnitsLive.closed {s : Store} (h : s.UnitsLive) (file : Url) (content : String)
    (version : Version) (reply : Expander.Reply) :
    (s.closed file content version reply).UnitsLive := by
  apply (h.publish file (Entry.ofReply content version reply)).congr
  · exact units_closed s file content version reply
  · intro other
    rw [peek_closed, peek_publish]

theorem UnitsLive.clear {s : Store} (h : s.UnitsLive) : s.clear.UnitsLive :=
  clear_of_remove (fun _ file hs => hs.remove file) h

theorem UnitsLive.setOptions {s : Store} (h : s.UnitsLive) (options : Expander.Options) :
    (s.setOptions options).UnitsLive := by
  rcases s.setOptions_cases options with ⟨-, heq⟩ | ⟨-, heq⟩
  · rw [heq]
    exact h
  · rw [heq]
    have hnew : ({ s with options := options } : Store).UnitsLive := h
    exact hnew.clear

theorem invariant_unitsLive : Invariant UnitsLive where
  begin s file content version h := by
    have hbegun := s.begun file content version
    generalize s.begin file content version = result at hbegun
    cases hbegun with
    | hit _ _ _ => exact h
    | blank _ _ => exact h.publish file _
    | reentered _ _ _ => exact h
    | call _ _ _ => exact h
  closed _ file content version reply h := h.closed file content version reply
  remove _ file h := h.remove file
  setOptions _ options h := h.setOptions options

theorem UnitsLive.isEmpty {s : Store} (h : s.UnitsLive) (hpeek : ∀ file, s.peek file = none) :
    s.units.isEmpty = true := by
  apply Table.isEmpty_of_find?_eq_none
  intro name
  cases hunit : s.units.find? name with
  | none => rfl
  | some unit =>
    obtain ⟨-, -, entry, hentry, -⟩ := h name unit hunit
    rw [hpeek] at hentry
    cases hentry

end Store

/-- **No unit is stale and none is left behind.** The law holds after every list of operations, at
every point inside a fetch that follows, and dropping all entries, for whatever reason, leaves no
unit. -/
theorem units_follow_entries (providers : Provider.Resolver) (options : Expander.Options)
    (ops : List Operation) :
    let s := Operation.run ops (Store.create providers options)
    s.UnitsLive ∧
      (∀ w stack v t, Work.Reaches w s stack v t → t.UnitsLive) ∧
      s.clear.units.isEmpty = true ∧
      ∀ changed, s.options.same changed = false → (s.setOptions changed).units.isEmpty = true := by
  intro s
  have hlive : s.UnitsLive :=
    Store.invariant_unitsLive.run ops (Store.unitsLive_create providers options)
  refine ⟨hlive, ?_, ?_, ?_⟩
  · intro w stack v t hreach
    exact Store.invariant_unitsLive.toKept.reaches hreach hlive
  · exact hlive.clear.isEmpty s.peek_clear
  · intro changed hchanged
    -- Changed switches drop all entries, and no unit is there without one.
    apply (hlive.setOptions changed).isEmpty
    rcases s.setOptions_cases changed with ⟨hsame, -⟩ | ⟨-, heq⟩
    · rw [hchanged] at hsame
      cases hsame
    · intro file
      rw [heq, Store.peek_note, Store.peek_clear]

/-- An expansion with declarations, and one that breaks down. -/
def sampleOps : List Operation :=
  [.get (Url.ofFile ["a"]) "x" ⟨"1"⟩ fun _ => .reply (.output ⟨"x", some "d", [], none⟩),
    .get (Url.ofFile ["b"]) "y" ⟨"1"⟩ fun _ => .reply (.crashed none)]

theorem sampleOps_unit_lives :
    ∃ entry,
      (Operation.run sampleOps (.create (.ofManifests []) .empty)).peek (Url.ofFile ["a"]) =
          some entry ∧
        entry.declarations = some "d" ∧ entry.version = ⟨"1"⟩ := by
  have hunit :
      (Operation.run sampleOps (.create (.ofManifests []) .empty)).units.find?
          (unitName (Url.ofFile ["a"])) =
        some ⟨unitName (Url.ofFile ["a"]), Url.ofFile ["a"], "d", ⟨"1"⟩⟩ := by
    decide +kernel
  obtain ⟨hlive, -⟩ := units_follow_entries (.ofManifests []) .empty sampleOps
  exact (hlive _ _ hunit).2.2

end Palimpsest.Expansion
