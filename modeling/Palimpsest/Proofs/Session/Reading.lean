import Palimpsest.Proofs.Expansion.Effects
import Palimpsest.Session.Host

/-!
# What reading through a session does

Reading is written for any state that has a session in it. Where the state is the session itself
and the expander looks at its request only, it comes down to a few cases.

1. `fetch_session`: fetching through a session is fetching from its store.
2. `answered`: the four ways in which the expansion of a file is brought up to date, each with the
   answer and the session afterwards.
3. `hostContent_of_unit`, `hostContent_of_file`, and the same for versions: what is read of a unit
   and of any other file.
4. `state_hostContent`, `state_hostVersion`: reading leaves behind what bringing one file up to date
   does.
-/

namespace Palimpsest

open Expansion (HasStore Invoke Entry Request)

/-- The version of a file with this content: the one that is known, or one made of the content. -/
def Sources.versionOf (a : Sources) (file : Url) (content : String) : Version :=
  (a.version? file).getD (.ofContent content)

namespace Session

def fetched (expander : Request → Expander.Reply) (s : Session) (file : Url) (content : String)
    (version : Version) : Session :=
  { s with store := (Expansion.fetch (Invoke.ofFunction expander) file content version s.store).2 }

theorem fetch_session (expander : Request → Expander.Reply) (file : Url) (content : String)
    (version : Version) (s : Session) :
    Expansion.fetch (Invoke.ofFunction expander) file content version s =
      ((Expansion.fetch (Invoke.ofFunction expander) file content version s.store).1,
        s.fetched expander file content version) := by
  rw [← Expansion.within_ofFunction, Expansion.fetch_within]
  rfl

theorem bind_apply {α β : Type} (first : StateM Session α) (next : α → StateM Session β)
    (s : Session) : (first >>= next) s = next (first s).1 (first s).2 := rfl

theorem current_bind {α : Type} (next : Session → StateM Session α) (s : Session) :
    (current >>= next) s = next s s := rfl

/-- How the expansion of a file is brought up to date: the answer and the session afterwards. -/
inductive Answered (expander : Request → Expander.Reply) (s : Session) (file : Url) :
    Option Entry × Session → Prop where
  /-- The file is left alone because of its name. -/
  | named (c : FileClass) (hname : s.classOfName? file = some c) :
    Answered expander s file (none, s)
  /-- The file cannot be read. -/
  | unread (hname : s.classOfName? file = none) (hcontent : s.sources.content? file = none) :
    Answered expander s file (none, s)
  /-- There is no directive in the file, and nothing is kept on it. -/
  | dropped (content : String) (hname : s.classOfName? file = none)
    (hcontent : s.sources.content? file = some content)
    (hplain : s.matcher content = false) :
    Answered expander s file (none, dropEntry file s)
  /-- The entry is fetched. -/
  | expanded (content : String) (hname : s.classOfName? file = none)
    (hcontent : s.sources.content? file = some content)
    (hmatch : s.matcher content = true) :
    Answered expander s file
      (some (Expansion.fetch (Invoke.ofFunction expander) file content
          (s.sources.versionOf file content) s.store).1,
        s.fetched expander file content (s.sources.versionOf file content))

theorem answered (expander : Request → Expander.Reply) (s : Session) (file : Url) :
    Answered expander s file (entryFor (Invoke.ofFunction expander) file s) := by
  unfold entryFor
  rw [current_bind]
  cases hname : s.classOfName? file with
  | some c => exact .named c hname
  | none =>
    cases hcontent : s.sources.content? file with
    | none => exact .unread hname hcontent
    | some content =>
      by_cases hmatch : s.matcher content = true
      · dsimp only
        rw [if_pos hmatch, bind_apply, fetch_session]
        exact .expanded content hname hcontent hmatch
      · dsimp only
        rw [if_neg hmatch]
        exact .dropped content hname hcontent (Bool.eq_false_iff.mpr hmatch)

theorem sources_entryFor (expander : Request → Expander.Reply) (file : Url) (s : Session) :
    (entryFor (Invoke.ofFunction expander) file s).2.sources = s.sources := by
  have hanswered := answered expander s file
  generalize entryFor (Invoke.ofFunction expander) file s = result at hanswered
  cases hanswered with
  | named _ _ => rfl
  | unread _ _ => rfl
  | dropped _ _ _ _ =>
    unfold dropEntry
    split <;> rfl
  | expanded _ _ _ _ => rfl

/-- The file whose expansion is brought up to date when a file is read: the owner of a unit, or the
file itself. -/
def readTarget (s : Session) (file : Url) : Url :=
  match s.store.units.find? file with
  | some bundle => bundle.owner
  | none => file

section Host

variable (invoke : Invoke Session) {s : Session} {file : Url}

theorem refreshOwner_of_unit {bundle : Declaration.Bundle}
    (h : s.store.units.find? file = some bundle) :
    refreshOwner invoke file s = ((), (entryFor invoke bundle.owner s).2) := by
  unfold refreshOwner
  rw [current_bind, h]
  rfl

theorem hostContent_of_unit {bundle : Declaration.Bundle}
    (h : s.store.units.find? file = some bundle) :
    hostContent invoke file s =
      (((entryFor invoke bundle.owner s).2.store.units.find? file).map Declaration.Bundle.content,
        (entryFor invoke bundle.owner s).2) := by
  unfold hostContent
  rw [current_bind, if_pos (by simp [Table.contains, h]), bind_apply,
    refreshOwner_of_unit invoke h]
  rfl

theorem hostContent_of_file (h : s.store.units.find? file = none) :
    hostContent invoke file s =
      (((entryFor invoke file s).1.map Entry.code).or
          ((entryFor invoke file s).2.sources.content? file),
        (entryFor invoke file s).2) := by
  unfold hostContent
  rw [current_bind, if_neg (by simp [Table.contains, h]), bind_apply]
  cases (entryFor invoke file s).1 with
  | some entry => rfl
  | none => rfl

theorem hostVersion_of_unit {bundle : Declaration.Bundle}
    (h : s.store.units.find? file = some bundle) :
    hostVersion invoke file s =
      (((entryFor invoke bundle.owner s).2.store.units.find? file).map fun unit =>
          (entryFor invoke bundle.owner s).2.expandedVersion unit.version,
        (entryFor invoke bundle.owner s).2) := by
  unfold hostVersion
  rw [current_bind, if_pos (by simp [Table.contains, h]), bind_apply,
    refreshOwner_of_unit invoke h]
  rfl

theorem hostVersion_of_file (h : s.store.units.find? file = none) :
    hostVersion invoke file s =
      (((entryFor invoke file s).1.map fun entry =>
            (entryFor invoke file s).2.expandedVersion entry.version).or
          ((entryFor invoke file s).2.sources.version? file),
        (entryFor invoke file s).2) := by
  unfold hostVersion
  rw [current_bind, if_neg (by simp [Table.contains, h]), bind_apply]
  cases (entryFor invoke file s).1 with
  | some entry => rfl
  | none => rfl

variable (s file)

theorem state_hostContent :
    (hostContent invoke file s).2 = (entryFor invoke (s.readTarget file) s).2 := by
  unfold readTarget
  cases hunit : s.store.units.find? file with
  | some bundle => rw [hostContent_of_unit invoke hunit]
  | none => rw [hostContent_of_file invoke hunit]

theorem state_hostVersion :
    (hostVersion invoke file s).2 = (entryFor invoke (s.readTarget file) s).2 := by
  unfold readTarget
  cases hunit : s.store.units.find? file with
  | some bundle => rw [hostVersion_of_unit invoke hunit]
  | none => rw [hostVersion_of_file invoke hunit]

end Host

end Session

end Palimpsest
