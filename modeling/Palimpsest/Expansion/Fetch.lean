import Palimpsest.Expansion.Store

/-!
# Fetching expansions

Fetching the entry of a version of a file goes as follows.

1. An entry of that version is there: it is the answer.
2. The content is blank: the entry that passes it through is published.
3. The expander is at work on the file: the content is passed through and nothing is published.
4. Otherwise the expander is called, and the entry of its reply is published.

An expander may itself fetch entries, and do whatever else can be done to the state it works in.
So the fourth case has two halves, `begin` before the expander's work and `finish` after it, and
the state in between is the expander's. `HasStore σ` says that the state `σ` has a store in it.

Correspondence (utsushi ↔ here):
* `ExpandRequest` ↔ `Request`
* `get` ↔ `fetch`, with `expand` between `Store.begin` and `Store.finish`
-/

namespace Palimpsest.Expansion

/-- What an expander is called with. -/
structure Request where
  source : String
  file : Url
  options : Expander.Options
  providers : Provider.Resolver

/-- States that have a store in them. -/
class HasStore (σ : Type) where
  store : σ → Store
  setStore : Store → σ → σ
  store_setStore : ∀ (t : Store) (state : σ), store (setStore t state) = t
  setStore_store : ∀ state : σ, setStore (store state) state = state
  setStore_setStore : ∀ (t u : Store) (state : σ), setStore u (setStore t state) = setStore u state

/-- An expander that works in a state. -/
abbrev Invoke (σ : Type) := Request → σ → Expander.Reply × σ

instance storeItself : HasStore Store where
  store := id
  setStore s _ := s
  store_setStore _ _ := rfl
  setStore_store _ := rfl
  setStore_setStore _ _ _ := rfl

namespace Store

/-- What has to be done for an entry: nothing, or a call of the expander. -/
inductive Step where
  | ready (entry : Entry)
  | expand (request : Request)

/-- The first half of fetching an entry. -/
def begin (s : Store) (file : Url) (content : String) (version : Version) : Step × Store :=
  match s.current? file version with
  | some entry => (.ready entry, s.note (.hit file version))
  | none =>
    if Text.isBlankText content then
      let entry := Entry.passThrough content version .skipped
      (.ready entry, s.publish file entry)
    else if s.isRunning file then
      (.ready (.passThrough content version .reentrant), s.note (.reentered file version))
    else
      (.expand ⟨content, file, s.options, s.providers⟩,
        { s.note (.miss file version) with
          running := file :: s.running
          invocations := s.invocations + 1 })

/-- What is noted about a reply that is not taken over. -/
def noteRejection (s : Store) (file : Url) : Rejection → Store
  | .failed text => s.note (.expanderFailed file text)
  | .crashed text => s.note (.expanderCrashed file text)
  | .badLayout fault => s.note (.layoutRefused file fault)

/-- The second half of fetching an entry: judges the reply and publishes the entry. -/
def finish (s : Store) (file : Url) (content : String) (version : Version)
    (reply : Expander.Reply) : Entry × Store :=
  let entry := Entry.ofReply content version reply
  let s :=
    match judge version reply with
    | .ok _ => s
    | .error rejection => s.noteRejection file rejection
  let s := s.publish file entry
  (entry, { s with running := s.running.erase file })

end Store

/-- The entry of a version of a file, from the store or from the expander. -/
def fetch {σ : Type} [HasStore σ] (invoke : Invoke σ) (file : Url) (content : String)
    (version : Version) (state : σ) : Entry × σ :=
  match (HasStore.store state).begin file content version with
  | (.ready entry, store) => (entry, HasStore.setStore store state)
  | (.expand request, store) =>
    let (reply, state) := invoke request (HasStore.setStore store state)
    let (entry, store) := (HasStore.store state).finish file content version reply
    (entry, HasStore.setStore store state)

/-- An expander that looks at its request only. -/
def Invoke.ofFunction {σ : Type} (expander : Request → Expander.Reply) : Invoke σ :=
  fun request state => (expander request, state)

end Palimpsest.Expansion
