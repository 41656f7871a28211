import Palimpsest.Proofs.Session.Reading

/-!
# Expanders that use their session

An expander may hold the session that calls it, and do with it what anybody else can: look at it,
change it, and ask it for expansions, for which it may be called again. What it does during one
call is a finite tree, `Work`. Whoever uses a session from outside is such a tree as well; nobody
waits for the reply at its end.

1. `entryFor_of_wanted`, `entryFor_of_unwanted`: bringing a file up to date with any expander.
2. `Question.state_perform`: what a question leaves behind; `Change.shrinks`: a change adds no entry.
3. `Work.Reaches`: the sessions on the way through a work, those during the expander's calls among
   them.
4. `Kept.reaches`: what the changes of a work and both halves of fetching keep holds in all of them.
-/

namespace Palimpsest

open Expansion (HasStore Invoke Entry Request)

namespace Session

/-! ## What is fetched -/

/-- The content and the version for which the entry of a file is fetched; none where the file is
left alone or cannot be read. -/
def wanted? (s : Session) (file : Url) : Option (String × Version) :=
  match s.classOfName? file, s.sources.content? file with
  | none, some content =>
    if s.matcher content then some (content, s.sources.versionOf file content) else none
  | _, _ => none

theorem wanted?_eq_some_iff {s : Session} {file : Url} {content : String} {version : Version} :
    s.wanted? file = some (content, version) ↔
      s.classOfName? file = none ∧ s.sources.content? file = some content ∧
        s.matcher content = true ∧ s.sources.versionOf file content = version := by
  unfold wanted?
  cases s.classOfName? file with
  | some c => simp
  | none =>
    cases s.sources.content? file with
    | none => simp
    | some found =>
      by_cases hmatch : s.matcher found = true
      · simp only [hmatch, if_true, Option.some.injEq, Prod.mk.injEq, true_and]
        constructor
        · rintro ⟨rfl, rfl⟩
          exact ⟨rfl, hmatch, rfl⟩
        · rintro ⟨rfl, -, rfl⟩
          exact ⟨rfl, rfl⟩
      · simp only [hmatch, Option.some.injEq, true_and]
        constructor
        · intro h
          cases h
        · rintro ⟨rfl, hfound, -⟩
          exact absurd hfound hmatch

section EntryFor

variable (invoke : Invoke Session) {s : Session} {file : Url}

theorem entryFor_of_wanted {content : String} {version : Version}
    (h : s.wanted? file = some (content, version)) :
    entryFor invoke file s =
      (some (Expansion.fetch invoke file content version s).1,
        (Expansion.fetch invoke file content version s).2) := by
  obtain ⟨hname, hcontent, hmatch, rfl⟩ := wanted?_eq_some_iff.mp h
  unfold entryFor
  rw [current_bind]
  simp only [hname, hcontent, hmatch, if_true]
  rfl

theorem entryFor_of_unwanted (h : s.wanted? file = none) :
    entryFor invoke file s = (none, s) ∨ entryFor invoke file s = (none, dropEntry file s) := by
  unfold entryFor
  rw [current_bind]
  cases hname : s.classOfName? file with
  | some c => exact Or.inl rfl
  | none =>
    cases hcontent : s.sources.content? file with
    | none => exact Or.inl rfl
    | some content =>
      have hplain : ¬ s.matcher content = true := by
        intro hmatch
        simp [wanted?, hname, hcontent, hmatch] at h
      dsimp only
      rw [if_neg hplain]
      exact Or.inr rfl

end EntryFor

/-! ## Questions and changes -/

/-- What can be asked of a session, for which the expander may be called. -/
inductive Question where
  | entryFor (file : Url)
  | hostContent (file : Url)
  | hostVersion (file : Url)
  /-- Asks the store, past the session. -/
  | fetch (file : Url) (content : String) (version : Version)

/-- What a session answers. -/
inductive Reading where
  | entry (entry : Option Entry)
  | text (text : Option String)
  | version (version : Option Version)

/-- What can be done to a session without a call of the expander. -/
inductive Change where
  | edit (file : Url) (source : Source)
  | delete (file : Url)
  | close (file : Url)
  | reload (settings : Settings)
  | clear
  | setOptions (options : Expander.Options)

namespace Question

/-- The answer to a question, and the session afterwards. -/
def perform (invoke : Invoke Session) : Question → StateM Session Reading
  | entryFor file => Reading.entry <$> Session.entryFor invoke file
  | hostContent file => Reading.text <$> Session.hostContent invoke file
  | hostVersion file => Reading.version <$> Session.hostVersion invoke file
  | fetch file content version => fun s =>
    let (entry, s) := Expansion.fetch invoke file content version s
    (.entry (some entry), s)

def fetched? (s : Session) : Question → Option (Url × String × Version)
  | entryFor file => (s.wanted? file).map fun wanted => (file, wanted)
  | hostContent file | hostVersion file =>
    (s.wanted? (s.readTarget file)).map fun wanted => (s.readTarget file, wanted)
  | fetch file content version => some (file, content, version)

end Question

/-- **What a question leaves behind**: what the fetch does, if there is one, and otherwise at most
the entry of a file is dropped. -/
theorem Question.state_perform (q : Question) (invoke : Invoke Session) (s : Session) :
    (∃ file content version, q.fetched? s = some (file, content, version) ∧
        (q.perform invoke s).2 = (Expansion.fetch invoke file content version s).2) ∨
      q.fetched? s = none ∧
        ((q.perform invoke s).2 = s ∨ ∃ file, (q.perform invoke s).2 = dropEntry file s) := by
  -- All but a fetch come down to one file that is brought up to date.
  have hentry : ∀ file, q.fetched? s = (s.wanted? file).map (fun wanted => (file, wanted)) →
      (q.perform invoke s).2 = (Session.entryFor invoke file s).2 →
      (∃ file content version, q.fetched? s = some (file, content, version) ∧
          (q.perform invoke s).2 = (Expansion.fetch invoke file content version s).2) ∨
        q.fetched? s = none ∧
          ((q.perform invoke s).2 = s ∨ ∃ file, (q.perform invoke s).2 = dropEntry file s) := by
    intro file hfetched hstate
    rw [hfetched, hstate]
    cases hwanted : s.wanted? file with
    | some wanted =>
      obtain ⟨content, version⟩ := wanted
      exact Or.inl ⟨file, content, version, rfl, by rw [entryFor_of_wanted invoke hwanted]⟩
    | none =>
      refine Or.inr ⟨rfl, ?_⟩
      rcases entryFor_of_unwanted invoke hwanted with heq | heq
      · exact Or.inl (by rw [heq])
      · exact Or.inr ⟨file, by rw [heq]⟩
  cases q with
  | entryFor file => exact hentry file rfl rfl
  | hostContent file => exact hentry _ rfl (state_hostContent invoke s file)
  | hostVersion file => exact hentry _ rfl (state_hostVersion invoke s file)
  | fetch file content version => exact Or.inl ⟨file, content, version, rfl, rfl⟩

def Change.apply (s : Session) : Change → Session
  | edit file source => s.setFile file source
  | delete file => s.removeFile file
  | close file => s.close file
  | reload settings => (s.reload settings).2
  | clear => { s with store := s.store.clear }
  | setOptions options => { s with store := s.store.setOptions options }

/-- Entries are taken away at most, and the same calls are going on. -/
structure Shrinks (s t : Session) : Prop where
  running : t.store.running = s.store.running
  peek : ∀ file, t.store.peek file = s.store.peek file ∨ t.store.peek file = none

theorem Shrinks.refl (s : Session) : s.Shrinks s := ⟨rfl, fun _ => Or.inl rfl⟩

theorem shrinks_close (s : Session) (file : Url) : s.Shrinks (s.close file) where
  running := (s.store.sameCalls_remove file).running
  peek other := by
    show (s.store.remove file).peek other = _ ∨ (s.store.remove file).peek other = none
    rw [Expansion.Store.peek_remove]
    split
    · exact Or.inr rfl
    · exact Or.inl rfl

theorem shrinks_dropEntry (s : Session) (file : Url) : s.Shrinks (dropEntry file s) := by
  have hclose := s.shrinks_close file
  unfold dropEntry
  split
  · exact ⟨hclose.running, hclose.peek⟩
  · exact hclose

theorem units_dropEntry (s : Session) (file name : Url) :
    (dropEntry file s).store.units.find? name =
      if name = Declaration.unitName file then none else s.store.units.find? name := by
  have hremove := s.store.units_remove file name
  unfold dropEntry
  split
  · exact hremove
  · exact hremove

/-- What new settings do to the store: besides the journal, the switches are set and all entries are
dropped. -/
theorem store_adopt (s : Session) (settings : Settings) (matcher : Pattern.Matcher) :
    ∃ journal e, (s.adopt settings matcher).store =
      ({ s.store with journal := journal }.setOptions settings.expand).clear.note e := by
  unfold adopt
  split
  · exact ⟨s.store.journal, _, rfl⟩
  · exact ⟨.providersChanged :: s.store.journal, _, rfl⟩

theorem shrinks_adopt (s : Session) (settings : Settings) (matcher : Pattern.Matcher) :
    s.Shrinks (s.adopt settings matcher) where
  running := by
    obtain ⟨journal, e, hstore⟩ := s.store_adopt settings matcher
    rw [hstore]
    show (Expansion.Store.setOptions _ _).clear.running = s.store.running
    rw [(Expansion.Store.sameCalls_clear _).running, Expansion.Store.running_setOptions]
  peek file := Or.inr (Expansion.Store.peek_clear _ file)

theorem Change.shrinks (change : Change) (s : Session) : s.Shrinks (change.apply s) := by
  cases change with
  | edit file source => exact ⟨rfl, fun _ => Or.inl rfl⟩
  | delete file => exact ⟨rfl, fun _ => Or.inl rfl⟩
  | close file => exact s.shrinks_close file
  | reload settings =>
    rw [apply, Session.reload]
    cases settings.matcher s.compile with
    | error error => exact .refl s
    | ok matcher => exact s.shrinks_adopt settings matcher
  | clear =>
    exact ⟨(s.store.sameCalls_clear).running, fun file => Or.inr (s.store.peek_clear file)⟩
  | setOptions options =>
    refine ⟨s.store.running_setOptions options, ?_⟩
    intro file
    show (s.store.setOptions options).peek file = _ ∨ (s.store.setOptions options).peek file = none
    rcases s.store.setOptions_cases options with ⟨-, heq⟩ | ⟨-, heq⟩
    · rw [heq]
      exact Or.inl rfl
    · rw [heq, Expansion.Store.peek_note, Expansion.Store.peek_clear]
      exact Or.inr rfl

/-! ## Works -/

/-- What an expander does with its session during one call, or anybody from outside. -/
inductive Work where
  | reply (reply : Expander.Reply)
  /-- Looks at the session and goes on. -/
  | look (next : Session → Work)
  | alter (change : Change) (next : Work)
  /-- Asks a question and goes on. `inside` is what the expander does if it is called for it. -/
  | ask (question : Question) (inside : Request → Work) (next : Reading → Work)

namespace Work

def run : Work → Session → Expander.Reply × Session
  | reply r, s => (r, s)
  | look next, s => (next s).run s
  | alter change next, s => next.run (change.apply s)
  | ask question inside next, s =>
    let (answer, s) := question.perform (fun request s => (inside request).run s) s
    (next answer).run s

def expander (work : Request → Work) : Invoke Session := fun request s => (work request).run s

/-- The work makes changes of one kind only, and so does the expander during it. -/
def Uses (allowed : Change → Prop) : Work → Prop
  | reply _ => True
  | look next => ∀ s, (next s).Uses allowed
  | alter change next => allowed change ∧ next.Uses allowed
  | ask _ inside next => (∀ request, (inside request).Uses allowed) ∧
    ∀ answer, (next answer).Uses allowed

/-- The sessions on the way through a work. -/
inductive Reaches : Work → Session → Session → Prop where
  | here (w : Work) (s : Session) : Reaches w s s
  | look {next : Session → Work} {s t : Session} (h : Reaches (next s) s t) :
    Reaches (.look next) s t
  | alter {change : Change} {next : Work} {s t : Session} (h : Reaches next (change.apply s) t) :
    Reaches (.alter change next) s t
  /-- In the call that is made for a question. -/
  | inside {question : Question} {inside : Request → Work} {next : Reading → Work}
    {file : Url} {content : String} {version : Version} {request : Request}
    {opened : Expansion.Store} {s t : Session}
    (hfetch : question.fetched? s = some (file, content, version))
    (hcall : s.store.begin file content version = (.expand request, opened))
    (h : Reaches (inside request) { s with store := opened } t) :
    Reaches (.ask question inside next) s t
  /-- After a question has been answered. -/
  | after {question : Question} {inside : Request → Work} {next : Reading → Work}
    {answer : Reading} {s s' t : Session}
    (hanswer : question.perform (expander inside) s = (answer, s'))
    (h : Reaches (next answer) s' t) : Reaches (.ask question inside next) s t

theorem reaches_run (w : Work) (s : Session) : w.Reaches s (w.run s).2 := by
  induction w generalizing s with
  | reply r => exact .here _ s
  | look next ih => exact .look (ih s s)
  | alter change next ih => exact .alter (ih (change.apply s))
  | ask question inside next _ ihNext => exact .after rfl (ihNext _ _)

end Work

/-! ## What a work keeps -/

/-- A property of sessions that some changes and both halves of fetching keep. -/
structure Kept (allowed : Change → Prop) (P : Session → Prop) : Prop where
  change : ∀ s change, allowed change → P s → P (change.apply s)
  drop : ∀ s file, P s → P (dropEntry file s)
  begin : ∀ s file content version, P s →
    P { s with store := (s.store.begin file content version).2 }
  closed : ∀ s file content version reply, P s →
    P { s with store := s.store.closed file content version reply }

namespace Kept

variable {allowed : Change → Prop} {P : Session → Prop}

theorem fetch (hP : Kept allowed P) (invoke : Invoke Session)
    (hinvoke : ∀ request s, P s → P (invoke request s).2) (file : Url) (content : String)
    (version : Version) {s : Session} (hs : P s) :
    P (Expansion.fetch invoke file content version s).2 := by
  have hbegun := hP.begin s file content version hs
  obtain ⟨entry, t, hbegin, hfetch⟩ | ⟨reply, t, hbegin, hcall, hfetch⟩ :=
    Expansion.fetch_split invoke file content version s
  · replace hbegin : s.store.begin file content version = (.ready entry, t) := hbegin
    rw [hbegin] at hbegun
    rw [hfetch]
    exact hbegun
  · replace hbegin : s.store.begin file content version =
        (.expand (s.store.request file content), s.store.opened file version) := hbegin
    rw [hbegin] at hbegun
    have ht := hinvoke (s.store.request file content)
      { s with store := s.store.opened file version } hbegun
    replace hcall : invoke (s.store.request file content)
        { s with store := s.store.opened file version } = (reply, t) := hcall
    rw [hcall] at ht
    rw [hfetch]
    exact hP.closed t file content version reply ht

theorem perform (hP : Kept allowed P) (q : Question) (invoke : Invoke Session)
    (hinvoke : ∀ request s, P s → P (invoke request s).2) {s : Session} (hs : P s) :
    P (q.perform invoke s).2 := by
  rcases q.state_perform invoke s with ⟨file, content, version, -, heq⟩ | ⟨-, heq | ⟨file, heq⟩⟩
  · rw [heq]
    exact hP.fetch invoke hinvoke file content version hs
  · rw [heq]
    exact hs
  · rw [heq]
    exact hP.drop s file hs

theorem run (hP : Kept allowed P) {w : Work} (hw : w.Uses allowed) {s : Session} (hs : P s) :
    P (w.run s).2 := by
  induction w generalizing s with
  | reply r => exact hs
  | look next ih => exact ih s (hw s) hs
  | alter change next ih => exact ih hw.2 (hP.change s change hw.1 hs)
  | ask question inside next ihInside ihNext =>
    have hasked := hP.perform question (Work.expander inside)
      (fun request _ hs => ihInside request (hw.1 request) hs) hs
    exact ihNext _ (hw.2 _) hasked

/-- **What is kept holds all the way through a work.** -/
theorem reaches (hP : Kept allowed P) {w : Work} {s t : Session} (h : w.Reaches s t)
    (hw : w.Uses allowed) (hs : P s) : P t := by
  induction h with
  | here w s => exact hs
  | look h ih => exact ih (hw _) hs
  | alter h ih => exact ih hw.2 (hP.change _ _ hw.1 hs)
  | inside hfetch hcall h ih =>
    rename_i question inside next file content version request opened s t
    have hopened := hP.begin s file content version hs
    rw [hcall] at hopened
    exact ih (hw.1 _) hopened
  | after hanswer h ih =>
    rename_i question inside next answer s s' t
    have hasked := hP.perform question (Work.expander inside)
      (fun request _ hs => hP.run (hw.1 request) hs) hs
    rw [hanswer] at hasked
    exact ih (hw.2 _) hasked

end Kept

theorem Work.uses_any (w : Work) : w.Uses fun _ => True := by
  induction w with
  | reply r => trivial
  | look next ih => exact ih
  | alter change next ih => exact ⟨trivial, ih⟩
  | ask question inside next ihInside ihNext => exact ⟨ihInside, ihNext⟩

end Session

end Palimpsest
