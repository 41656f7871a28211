import Palimpsest.Expansion.Nested

/-!
# What the operations of a store do

Each operation of a store touches a few of its parts. The lemmas here say which, so that what is
proved about stores later never opens an operation again.

1. `Store.SameCalls`: whatever is published, removed or noted, the calls of the expander and what
   it is called with stay as they are.
2. `peek_publish`, `units_publish`, `peek_remove`, `units_remove`: what publishing and removing do
   to the entry of a file and to the unit of a name.
3. `begun`: the four ways in which fetching begins, each with what it leaves behind.
4. `fetch_split`, `fetch_cases`: the same for fetching as a whole.
5. `fetch_within`: fetching in a state that has a store in it is fetching from that store, where the
   expander works in the store only.
-/

namespace Palimpsest.Expansion

open Declaration (unitName)

namespace Store

/-- The two stores have the same calls of the expander and the same to call it with. -/
structure SameCalls (s t : Store) : Prop where
  providers : t.providers = s.providers
  options : t.options = s.options
  running : t.running = s.running
  invocations : t.invocations = s.invocations

theorem SameCalls.refl (s : Store) : SameCalls s s := ⟨rfl, rfl, rfl, rfl⟩

theorem SameCalls.trans {s t u : Store} (hst : SameCalls s t) (htu : SameCalls t u) :
    SameCalls s u :=
  ⟨htu.providers.trans hst.providers, htu.options.trans hst.options,
    htu.running.trans hst.running, htu.invocations.trans hst.invocations⟩

/-! ## Notes -/

@[simp] theorem peek_note (s : Store) (e : Event) (file : Url) :
    (s.note e).peek file = s.peek file := rfl

theorem sameCalls_note (s : Store) (e : Event) : SameCalls s (s.note e) := ⟨rfl, rfl, rfl, rfl⟩

theorem noteRejection_eq (s : Store) (file : Url) (rejection : Rejection) :
    ∃ e, s.noteRejection file rejection = s.note e := by
  cases rejection with
  | failed text => exact ⟨_, rfl⟩
  | crashed text => exact ⟨_, rfl⟩
  | badLayout fault => exact ⟨_, rfl⟩

/-! ## Entries with their units -/

theorem register_eq (s : Store) (owner : Url) (content : String) (version : Version) :
    ∃ journal, s.register owner content version =
      { s with units := s.units.register owner content version, journal := journal } := by
  unfold register
  by_cases hknown : s.units.contains (unitName owner) = true
  · exact ⟨s.journal, if_pos hknown⟩
  · exact ⟨_, if_neg hknown⟩

theorem unregister_eq (s : Store) (owner : Url) :
    ∃ journal, s.unregister owner =
      { s with units := s.units.unregister owner, journal := journal } := by
  unfold unregister
  by_cases hknown : s.units.contains (unitName owner) = true
  · exact ⟨_, if_pos hknown⟩
  · exact ⟨s.journal, if_neg hknown⟩

/-- Publishing puts the declarations of the entry in the place of the unit, or leaves the place
empty where there are none. -/
theorem publish_eq (s : Store) (file : Url) (entry : Entry) :
    ∃ journal, s.publish file entry =
      { s with
        entries := s.entries.insert file entry
        units :=
          match entry.declarations with
          | some text => s.units.register file text entry.version
          | none => s.units.unregister file
        journal := journal } := by
  cases hdeclarations : entry.declarations with
  | some text =>
    obtain ⟨journal, heq⟩ := register_eq s file text entry.version
    exact ⟨journal, by simp only [publish, hdeclarations, heq]⟩
  | none =>
    obtain ⟨journal, heq⟩ := unregister_eq s file
    exact ⟨journal, by simp only [publish, hdeclarations, heq]⟩

theorem remove_eq (s : Store) (file : Url) :
    ∃ journal, s.remove file =
      { s with
        entries := s.entries.erase file
        units := s.units.unregister file
        journal := journal } := by
  unfold remove
  obtain ⟨journal, heq⟩ := unregister_eq s file
  exact ⟨journal, by rw [heq]⟩

theorem sameCalls_publish (s : Store) (file : Url) (entry : Entry) :
    SameCalls s (s.publish file entry) := by
  obtain ⟨journal, heq⟩ := publish_eq s file entry
  rw [heq]
  exact ⟨rfl, rfl, rfl, rfl⟩

theorem peek_publish (s : Store) (file : Url) (entry : Entry) (other : Url) :
    (s.publish file entry).peek other = if other = file then some entry else s.peek other := by
  obtain ⟨journal, heq⟩ := publish_eq s file entry
  rw [heq]
  exact Table.find?_insert s.entries file other entry

theorem units_publish (s : Store) (file : Url) (entry : Entry) (name : Url) :
    (s.publish file entry).units.find? name =
      if name = unitName file then
        entry.declarations.map fun text => ⟨unitName file, file, text, entry.version⟩
      else s.units.find? name := by
  obtain ⟨journal, heq⟩ := publish_eq s file entry
  rw [heq]
  cases entry.declarations with
  | some text => exact Table.find?_insert s.units (unitName file) name _
  | none => exact Table.find?_erase s.units (unitName file) name

theorem sameCalls_remove (s : Store) (file : Url) : SameCalls s (s.remove file) := by
  obtain ⟨journal, heq⟩ := remove_eq s file
  rw [heq]
  exact ⟨rfl, rfl, rfl, rfl⟩

theorem peek_remove (s : Store) (file other : Url) :
    (s.remove file).peek other = if other = file then none else s.peek other := by
  obtain ⟨journal, heq⟩ := remove_eq s file
  rw [heq]
  exact Table.find?_erase s.entries file other

theorem units_remove (s : Store) (file name : Url) :
    (s.remove file).units.find? name =
      if name = unitName file then none else s.units.find? name := by
  obtain ⟨journal, heq⟩ := remove_eq s file
  rw [heq]
  exact Table.find?_erase s.units (unitName file) name

/-! ## Dropping all entries -/

theorem sameCalls_foldl_remove (files : List Url) (s : Store) :
    SameCalls s (files.foldl remove s) := by
  induction files generalizing s with
  | nil => exact SameCalls.refl s
  | cons file rest ih => exact (sameCalls_remove s file).trans (ih (s.remove file))

theorem peek_foldl_remove (files : List Url) (s : Store) (other : Url) :
    (files.foldl remove s).peek other = if other ∈ files then none else s.peek other := by
  induction files generalizing s with
  | nil => simp
  | cons file rest ih =>
    rw [List.foldl_cons, ih, peek_remove]
    by_cases hother : other = file
    · simp [hother]
    · simp [hother]

theorem sameCalls_clear (s : Store) : SameCalls s s.clear := sameCalls_foldl_remove _ s

theorem peek_clear (s : Store) (file : Url) : s.clear.peek file = none := by
  unfold clear
  rw [peek_foldl_remove]
  split
  · rfl
  · rename_i hfile
    exact Table.find?_eq_none_of_not_mem_keys hfile

theorem setOptions_cases (s : Store) (options : Expander.Options) :
    s.options.same options = true ∧ s.setOptions options = s ∨
      s.options.same options = false ∧
        s.setOptions options =
          ({ s with options := options }.clear).note (.optionsChanged s.entries.size) := by
  unfold setOptions
  cases hsame : s.options.same options with
  | true => exact Or.inl ⟨rfl, rfl⟩
  | false => exact Or.inr ⟨rfl, rfl⟩

theorem same_setOptions (s : Store) (options : Expander.Options) :
    (s.setOptions options).options.same options = true := by
  rcases s.setOptions_cases options with ⟨hsame, heq⟩ | ⟨-, heq⟩
  · rw [heq]
    exact hsame
  · rw [heq]
    show ({ s with options := options } : Store).clear.options.same options = true
    rw [(sameCalls_clear _).options]
    exact options.same_refl

theorem options_setOptions (s : Store) (options : Expander.Options) :
    (s.setOptions options).options = options ∨ (s.setOptions options).options = s.options := by
  rcases s.setOptions_cases options with ⟨-, heq⟩ | ⟨-, heq⟩
  · exact Or.inr (by rw [heq])
  · refine Or.inl ?_
    rw [heq]
    exact (sameCalls_clear { s with options := options }).options

theorem running_setOptions (s : Store) (options : Expander.Options) :
    (s.setOptions options).running = s.running := by
  rcases s.setOptions_cases options with ⟨-, heq⟩ | ⟨-, heq⟩
  · rw [heq]
  · rw [heq]
    exact (sameCalls_clear { s with options := options }).running

theorem providers_setOptions (s : Store) (options : Expander.Options) :
    (s.setOptions options).providers = s.providers := by
  rcases s.setOptions_cases options with ⟨-, heq⟩ | ⟨-, heq⟩
  · rw [heq]
  · rw [heq]
    exact (sameCalls_clear { s with options := options }).providers

/-! ## Fetching -/

theorem current?_eq_some_iff {s : Store} {file : Url} {version : Version} {entry : Entry} :
    s.current? file version = some entry ↔ s.peek file = some entry ∧ entry.version = version := by
  unfold current?
  rw [Option.filter_eq_some_iff, beq_iff_eq]

theorem isRunning_eq_false_iff {s : Store} {file : Url} :
    s.isRunning file = false ↔ file ∉ s.running := by
  rw [isRunning, List.contains_eq_mem, decide_eq_false_iff_not]

/-- The store in which the expander is called for a file. -/
def opened (s : Store) (file : Url) (version : Version) : Store :=
  { s.note (.miss file version) with
    running := file :: s.running
    invocations := s.invocations + 1 }

def request (s : Store) (file : Url) (content : String) : Request :=
  ⟨content, file, s.options, s.providers⟩

/-- How fetching begins, and what it leaves behind. -/
inductive Begun (s : Store) (file : Url) (content : String) (version : Version) :
    Step × Store → Prop where
  /-- The entry of that version is there. -/
  | hit (entry : Entry) (hentry : s.peek file = some entry) (hversion : entry.version = version) :
    Begun s file content version (.ready entry, s.note (.hit file version))
  /-- There is nothing to expand. -/
  | blank (hmiss : s.current? file version = none) (hblank : Text.isBlankText content = true) :
    Begun s file content version
      (.ready (.passThrough content version .skipped),
        s.publish file (.passThrough content version .skipped))
  /-- The expander is at work on the file. -/
  | reentered (hmiss : s.current? file version = none)
    (hblank : Text.isBlankText content = false) (hrunning : file ∈ s.running) :
    Begun s file content version
      (.ready (.passThrough content version .reentrant), s.note (.reentered file version))
  /-- The expander is called. -/
  | call (hmiss : s.current? file version = none) (hblank : Text.isBlankText content = false)
    (hidle : file ∉ s.running) :
    Begun s file content version (.expand (s.request file content), s.opened file version)

theorem begun (s : Store) (file : Url) (content : String) (version : Version) :
    Begun s file content version (s.begin file content version) := by
  unfold begin
  cases hcurrent : s.current? file version with
  | some entry =>
    obtain ⟨hentry, hversion⟩ := current?_eq_some_iff.mp hcurrent
    exact .hit entry hentry hversion
  | none =>
    cases hblank : Text.isBlankText content with
    | true => exact .blank hcurrent hblank
    | false =>
      cases hrunning : s.isRunning file with
      | true => exact .reentered hcurrent hblank (List.contains_iff_mem.mp hrunning)
      | false => exact .call hcurrent hblank (isRunning_eq_false_iff.mp hrunning)

theorem begin_of_idle {s : Store} {file : Url} {content : String} {version : Version}
    (hmiss : s.current? file version = none) (hblank : Text.isBlankText content = false)
    (hidle : s.isRunning file = false) :
    s.begin file content version = (.expand (s.request file content), s.opened file version) := by
  simp only [begin, hmiss, hblank, hidle]
  rfl

/-- The store when a reply has been judged and its entry published. -/
def closed (s : Store) (file : Url) (content : String) (version : Version)
    (reply : Expander.Reply) : Store :=
  (s.finish file content version reply).2

section Closed

variable (s : Store) (file : Url) (content : String) (version : Version) (reply : Expander.Reply)

/-- Whatever is noted about the reply, its entry is published and the work on the file is over. -/
theorem closed_eq :
    ∃ journal, s.closed file content version reply =
      { s.publish file (Entry.ofReply content version reply) with
        running := s.running.erase file
        journal := journal } := by
  cases hjudge : judge version reply with
  | ok entry =>
    refine ⟨(s.publish file (Entry.ofReply content version reply)).journal, ?_⟩
    simp only [closed, finish, hjudge, (sameCalls_publish s file _).running]
  | error rejection =>
    obtain ⟨e, he⟩ := noteRejection_eq s file rejection
    obtain ⟨journal, heq⟩ := publish_eq s file (Entry.ofReply content version reply)
    obtain ⟨journal', heq'⟩ := publish_eq (s.note e) file (Entry.ofReply content version reply)
    refine ⟨journal', ?_⟩
    simp only [closed, finish, hjudge, he, heq, heq']
    rfl

theorem running_closed :
    (s.closed file content version reply).running = s.running.erase file := by
  obtain ⟨journal, heq⟩ := closed_eq s file content version reply
  rw [heq]

theorem providers_closed : (s.closed file content version reply).providers = s.providers := by
  obtain ⟨journal, heq⟩ := closed_eq s file content version reply
  rw [heq]
  exact (sameCalls_publish s file _).providers

theorem options_closed : (s.closed file content version reply).options = s.options := by
  obtain ⟨journal, heq⟩ := closed_eq s file content version reply
  rw [heq]
  exact (sameCalls_publish s file _).options

theorem peek_closed (other : Url) :
    (s.closed file content version reply).peek other =
      if other = file then some (Entry.ofReply content version reply) else s.peek other := by
  obtain ⟨journal, heq⟩ := closed_eq s file content version reply
  rw [heq]
  exact peek_publish s file (Entry.ofReply content version reply) other

theorem units_closed :
    (s.closed file content version reply).units =
      (s.publish file (Entry.ofReply content version reply)).units := by
  obtain ⟨journal, heq⟩ := closed_eq s file content version reply
  rw [heq]

end Closed

end Store

/-- How fetching ends in any state that has a store in it: with an entry that was ready, or with
that of the expander's reply. -/
theorem fetch_split {σ : Type} [HasStore σ] (invoke : Invoke σ) (file : Url) (content : String)
    (version : Version) (state : σ) :
    (∃ entry t, (HasStore.store state).begin file content version = (.ready entry, t) ∧
        fetch invoke file content version state = (entry, HasStore.setStore t state)) ∨
      ∃ reply next, (HasStore.store state).begin file content version =
          (.expand ((HasStore.store state).request file content),
            (HasStore.store state).opened file version) ∧
        invoke ((HasStore.store state).request file content)
          (HasStore.setStore ((HasStore.store state).opened file version) state) = (reply, next) ∧
        fetch invoke file content version state =
          (Entry.ofReply content version reply,
            HasStore.setStore ((HasStore.store next).closed file content version reply) next) := by
  have hbegun := (HasStore.store state).begun file content version
  generalize hbegin : (HasStore.store state).begin file content version = result at hbegun
  cases hbegun with
  | hit entry hentry hversion => exact Or.inl ⟨_, _, rfl, by simp only [fetch, hbegin]⟩
  | blank hmiss hblank => exact Or.inl ⟨_, _, rfl, by simp only [fetch, hbegin]⟩
  | reentered hmiss hblank hrunning => exact Or.inl ⟨_, _, rfl, by simp only [fetch, hbegin]⟩
  | call hmiss hblank hidle =>
    refine Or.inr ⟨_, _, rfl, rfl, ?_⟩
    simp only [fetch, hbegin]
    rfl

theorem fetch_cases (invoke : Invoke Store) (file : Url) (content : String) (version : Version)
    (s : Store) :
    (∃ entry t, s.begin file content version = (.ready entry, t) ∧
        fetch invoke file content version s = (entry, t)) ∨
      ∃ reply t, s.begin file content version =
          (.expand (s.request file content), s.opened file version) ∧
        invoke (s.request file content) (s.opened file version) = (reply, t) ∧
        fetch invoke file content version s =
          (Entry.ofReply content version reply, t.closed file content version reply) :=
  fetch_split invoke file content version s

section Within

variable {σ : Type} [HasStore σ]

/-- An expander that works in a store, in a state that has one. -/
def Invoke.within (invoke : Invoke Store) : Invoke σ := fun request state =>
  let result := invoke request (HasStore.store state)
  (result.1, HasStore.setStore result.2 state)

theorem within_ofFunction (expander : Request → Expander.Reply) :
    (Invoke.ofFunction expander).within = (Invoke.ofFunction expander : Invoke σ) := by
  funext request state
  exact congrArg (Prod.mk (expander request)) (HasStore.setStore_store state)

theorem fetch_within (invoke : Invoke Store) (file : Url) (content : String) (version : Version)
    (state : σ) :
    fetch invoke.within file content version state =
      ((fetch invoke file content version (HasStore.store state)).1,
        HasStore.setStore (fetch invoke file content version (HasStore.store state)).2 state) := by
  obtain ⟨entry, t, hbegin, hfetch⟩ | ⟨reply, next, hbegin, hcall, hfetch⟩ :=
    fetch_cases invoke file content version (HasStore.store state)
  · rw [hfetch]
    simp only [fetch, hbegin]
  · rw [hfetch]
    simp only [fetch, hbegin, Invoke.within, HasStore.store_setStore, hcall,
      HasStore.setStore_setStore]
    rfl

end Within

end Palimpsest.Expansion
