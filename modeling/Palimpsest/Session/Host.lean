import Palimpsest.Session.Basic

/-!
# Reading files through a session

`entryFor` brings the expansion of a file up to date. On top of it the files are read as an
analysis sees them: an expandable file by its expanded text, a declaration unit by its
declarations after its owner was brought up to date, and any other file as it is.

All of it works in a state that has a session in it, `HasSession σ`, since the expander may change
that state.

Correspondence (utsushi ↔ here):
* `entry_for` ↔ `entryFor`
* `ExpandingSourceHost`, with `file_names`, `file_exists`, `content`, `version` ↔ `hostNames`,
  `hostExists`, `hostContent`, `hostVersion`
-/

namespace Palimpsest

open Expansion (HasStore Invoke Entry)

/-- States that have a session in them. -/
class HasSession (σ : Type) where
  session : σ → Session
  setSession : Session → σ → σ
  session_setSession : ∀ (s : Session) (state : σ), session (setSession s state) = s
  setSession_session : ∀ state : σ, setSession (session state) state = state
  setSession_setSession : ∀ (s t : Session) (state : σ),
    setSession t (setSession s state) = setSession t state

instance sessionItself : HasSession Session where
  session := id
  setSession s _ := s
  session_setSession _ _ := rfl
  setSession_session _ := rfl
  setSession_setSession _ _ _ := rfl

instance storeOfSession {σ : Type} [HasSession σ] : HasStore σ where
  store state := (HasSession.session state).store
  setStore store state :=
    HasSession.setSession { HasSession.session state with store := store } state
  store_setStore store state := by rw [HasSession.session_setSession]
  setStore_store state := HasSession.setSession_session state
  setStore_setStore store other state := by
    rw [HasSession.session_setSession, HasSession.setSession_setSession]

namespace Session

variable {σ : Type} [HasSession σ]

def current : StateM σ Session := HasSession.session <$> get

def change (f : Session → Session) : StateM σ Unit :=
  modify fun state => HasSession.setSession (f (HasSession.session state)) state

/-- Drops the entry of a file that has no directives left. -/
def dropEntry (file : Url) (s : Session) : Session :=
  let next := s.close file
  if (s.store.peek file).isSome then next.note (.expansionDropped file) else next

/-- The expansion of a file, brought up to date; none where the file is left alone or cannot be
read. -/
def entryFor (invoke : Invoke σ) (file : Url) : StateM σ (Option Entry) := do
  let s ← current
  match s.classOfName? file with
  | some _ => return none
  | none =>
    match s.sources.content? file with
    | none => return none
    | some content =>
      if s.matcher content then
        let version := (s.sources.version? file).getD (.ofContent content)
        let entry ← fun state => Expansion.fetch invoke file content version state
        return some entry
      else
        change (dropEntry file)
        return none

/-- Brings the owner of a declaration unit up to date. -/
def refreshOwner (invoke : Invoke σ) (unit : Url) : StateM σ PUnit := do
  match (← current).store.units.find? unit with
  | some bundle => discard (entryFor invoke bundle.owner)
  | none => return

/-- The files that an analysis sees: the sources, and the units that are not among them. -/
def hostNames (s : Session) : List Url :=
  let names := s.sources.names
  names ++ s.store.units.names.filter fun name => !names.contains name

def hostExists (s : Session) (file : Url) : Bool :=
  s.store.units.contains file || s.sources.contains file

/-- The text of a file as an analysis sees it. -/
def hostContent (invoke : Invoke σ) (file : Url) : StateM σ (Option String) := do
  if (← current).store.units.contains file then
    refreshOwner invoke file
    return ((← current).store.units.find? file).map fun bundle => bundle.content
  else
    match ← entryFor invoke file with
    | some entry => return some entry.code
    | none => return (← current).sources.content? file

/-- The version of a file as an analysis sees it. -/
def hostVersion (invoke : Invoke σ) (file : Url) : StateM σ (Option Version) := do
  if (← current).store.units.contains file then
    refreshOwner invoke file
    let s ← current
    return (s.store.units.find? file).map fun bundle => s.expandedVersion bundle.version
  else
    match ← entryFor invoke file with
    | some entry => return some ((← current).expandedVersion entry.version)
    | none => return (← current).sources.version? file

end Session

end Palimpsest
