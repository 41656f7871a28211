import Palimpsest.Proofs.Expansion.Fresh
import Palimpsest.Proofs.Session.Queries

/-!
# Locations are carried one by one

Definitions, references and places to rename may lie in any files. Each is carried to the source by
the entry of its own file, and for that the file is brought up to date: it may be expanded, its
entry may be dropped, units may come and go. Later locations of the same answer meet what earlier
ones left behind. With an expander that looks at its request only, none of that matters.

1. `answer_congr`, `after_fetch`: what a fetch answers, and what it leaves to later fetches.
2. `Refreshed`: a session knows what an earlier one knew or would have answered.
3. `Refreshed.answer`: then both answer alike, for every file.
4. `translate`: what becomes of one location, by the session before the question.
5. `carried_one_by_one`: an answer is carried location by location.
-/

namespace Palimpsest

open Analysis
open Expansion (Invoke Entry Request)
open Query (Settles)

/-! ## Fetching twice -/

namespace Expansion

variable (expander : Request → Expander.Reply) {s t : Store} {file : Url}

/-- A fetch looks at the entry of its file, at what is going on, and at what the expander is called
with. -/
theorem answer_congr (hpeek : t.peek file = s.peek file) (hproviders : t.providers = s.providers)
    (hoptions : t.options = s.options) (hrunning : t.running = s.running) (content : String)
    (version : Version) :
    (fetch (Invoke.ofFunction expander) file content version t).1 =
      (fetch (Invoke.ofFunction expander) file content version s).1 := by
  have hcurrent : t.current? file version = s.current? file version := by
    rw [Store.current?, Store.current?, hpeek]
  have hbusy : t.isRunning file = s.isRunning file := by
    rw [Store.isRunning, Store.isRunning, hrunning]
  simp only [fetch, HasStore.store, id, Store.begin, hcurrent, hbusy, hoptions, hproviders]
  cases s.current? file version with
  | some entry => rfl
  | none =>
    cases Text.isBlankText content with
    | true => rfl
    | false =>
      cases s.isRunning file with
      | true => rfl
      | false => rfl

theorem answer_of_peek {entry : Entry} (hentry : s.peek file = some entry) (content : String) :
    (fetch (Invoke.ofFunction expander) file content entry.version s).1 = entry := by
  have hcurrent := Store.current?_eq_some_iff.mpr ⟨hentry, rfl⟩
  simp only [fetch, HasStore.store, id, Store.begin, hcurrent]

/-- What a fetch leaves to later ones: other files are as they were, and the answer has the version
that was asked for and is the entry of the file, if that has changed. -/
structure Store.After (s : Store) (file : Url) (version : Version) (entry : Entry) (t : Store) :
    Prop where
  providers : t.providers = s.providers
  options : t.options = s.options
  running : t.running = s.running
  version : entry.version = version
  peek : t.peek file = s.peek file ∨ t.peek file = some entry
  others : ∀ other, other ≠ file → t.peek other = s.peek other

theorem after_fetch (s : Store) (file : Url) (content : String) (version : Version) :
    s.After file version (fetch (Invoke.ofFunction expander) file content version s).1
      (fetch (Invoke.ofFunction expander) file content version s).2 := by
  by_cases hidle : file ∈ s.running
  · -- The expander is at work on the file and is not called, so the answer is ready.
    have hbegun := s.begun file content version
    obtain ⟨entry, t, hbegin, hfetch⟩ | ⟨reply, t, hbegin, -, -⟩ :=
      fetch_cases (Invoke.ofFunction expander) file content version s
    · have hsame := Store.sameCalls_of_ready hbegin
      rw [hbegin] at hbegun
      rw [hfetch]
      refine ⟨hsame.providers, hsame.options, hsame.running, ?_, ?_, ?_⟩
      · cases hbegun with
        | hit _ _ hversion => exact hversion
        | blank _ _ => rfl
        | reentered _ _ _ => rfl
      · cases hbegun with
        | hit _ _ _ => exact Or.inl rfl
        | blank _ _ => exact Or.inr ((Store.peek_publish s file _ file).trans (if_pos rfl))
        | reentered _ _ _ => exact Or.inl rfl
      · intro other hother
        cases hbegun with
        | hit _ _ _ => rfl
        | blank _ _ => exact (Store.peek_publish s file _ other).trans (if_neg hother)
        | reentered _ _ _ => rfl
    · rw [hbegin] at hbegun
      cases hbegun with
      | call _ _ hnot => exact absurd hidle hnot
  · have hfetched := fetched expander hidle content version
    refine ⟨hfetched.providers, hfetched.options, hfetched.running, hfetched.version, ?_, ?_⟩
    · exact Or.inr ((hfetched.peek file).trans (if_pos rfl))
    · intro other hother
      exact (hfetched.peek other).trans (if_neg hother)

end Expansion

namespace Session

/-! ## Sessions that answer alike -/

variable {compile : Pattern.Compiler} {expander : Request → Expander.Reply} {s t : Session}

theorem InLine.wanted?_congr (hs : s.InLine compile) (ht : t.InLine compile)
    (h : SamePresent s t) (file : Url) : t.wanted? file = s.wanted? file := by
  have hmatcher : t.matcher = s.matcher := by
    have hcompiled := ht.matcher
    rw [h.settings, hs.matcher] at hcompiled
    exact (Except.ok.inj hcompiled).symm
  have hname : t.classOfName? file = none ↔ s.classOfName? file = none := by
    rw [classOfName?_eq_none_iff ht.units, classOfName?_eq_none_iff hs.units, h.settings]
  unfold wanted?
  rw [h.sources, hmatcher]
  cases hclass : s.classOfName? file with
  | none => rw [hname.mpr hclass]
  | some c =>
    cases hclass' : t.classOfName? file with
    | none => rw [hname.mp hclass'] at hclass; cases hclass
    | some c' => rfl

/-- The second session has the sources and settings of the first, and what it knows of a file is
what the first knew, or what the first would have answered. -/
structure Refreshed (compile : Pattern.Compiler) (expander : Request → Expander.Reply)
    (s t : Session) : Prop where
  inLine : t.InLine compile
  present : SamePresent s t
  providers : t.store.providers = s.store.providers
  options : t.store.options = s.store.options
  running : t.store.running = s.store.running
  peek : ∀ file, t.store.peek file = s.store.peek file ∨
    t.store.peek file = (entryFor (Invoke.ofFunction expander) file s).1

theorem Refreshed.refl (h : s.InLine compile) : Refreshed compile expander s s :=
  ⟨h, ⟨rfl, rfl⟩, rfl, rfl, rfl, fun _ => Or.inl rfl⟩

/-- **Both answer alike.** What is known by now is the answer itself, and where nothing new is known
the same is worked out again. -/
theorem Refreshed.answer (hs : s.InLine compile) (h : Refreshed compile expander s t) (file : Url) :
    (entryFor (Invoke.ofFunction expander) file t).1 =
      (entryFor (Invoke.ofFunction expander) file s).1 := by
  have hsame := hs.wanted?_congr h.inLine h.present file
  cases hwanted : s.wanted? file with
  | none =>
    have hnone : ∀ u : Session, u.wanted? file = none →
        (entryFor (Invoke.ofFunction expander) file u).1 = none := by
      intro u hu
      rw [entryFor_eq_none_iff, isBypassed_eq, hu]
      rfl
    rw [hnone s hwanted, hnone t (hsame.trans hwanted)]
  | some wanted =>
    obtain ⟨content, version⟩ := wanted
    have hpeek := h.peek file
    rw [entryFor_of_wanted _ hwanted, fetch_session] at hpeek ⊢
    rw [entryFor_of_wanted _ (hsame.trans hwanted), fetch_session]
    refine congrArg some ?_
    rcases hpeek with hpeek | hpeek
    · exact Expansion.answer_congr expander hpeek h.providers h.options h.running content version
    · have hagain := Expansion.answer_of_peek expander hpeek content
      rwa [(Expansion.after_fetch expander s.store file content version).version] at hagain

theorem Refreshed.entryFor (hs : s.InLine compile) (h : Refreshed compile expander s t)
    (file : Url) :
    Refreshed compile expander s (Session.entryFor (Invoke.ofFunction expander) file t).2 := by
  have hinLine : (Session.entryFor (Invoke.ofFunction expander) file t).2.InLine compile :=
    kept_inLine.perform (.entryFor file) (Invoke.ofFunction expander) (fun _ _ hu => hu) h.inLine
  have hanswer := h.answer hs file
  have hanswered := answered expander t file
  generalize Session.entryFor (Invoke.ofFunction expander) file t = result
    at hinLine hanswer hanswered ⊢
  cases hanswered with
  | named _ _ => exact h
  | unread _ _ => exact h
  | dropped content _ _ _ =>
    have hcalls := t.store.sameCalls_remove file
    have hstore : (dropEntry file t).store.peek = (t.store.remove file).peek ∧
        (dropEntry file t).store.providers = t.store.providers ∧
        (dropEntry file t).store.options = t.store.options ∧
        (dropEntry file t).store.running = t.store.running ∧ SamePresent t (dropEntry file t) := by
      unfold dropEntry
      split
      · exact ⟨rfl, hcalls.providers, hcalls.options, hcalls.running, rfl, rfl⟩
      · exact ⟨rfl, hcalls.providers, hcalls.options, hcalls.running, rfl, rfl⟩
    obtain ⟨hpeek, hproviders, hoptions, hrunning, hpresent⟩ := hstore
    refine ⟨hinLine, ⟨hpresent.sources.trans h.present.sources,
      hpresent.settings.trans h.present.settings⟩, hproviders.trans h.providers,
      hoptions.trans h.options, hrunning.trans h.running, ?_⟩
    intro other
    rw [hpeek, Expansion.Store.peek_remove]
    by_cases hother : other = file
    · rw [if_pos hother, hother]
      exact Or.inr hanswer
    · rw [if_neg hother]
      exact h.peek other
  | expanded content _ _ _ =>
    have hafter := Expansion.after_fetch expander t.store file content
      (t.sources.versionOf file content)
    refine ⟨hinLine, ⟨h.present.sources, h.present.settings⟩,
      hafter.providers.trans h.providers, hafter.options.trans h.options,
      hafter.running.trans h.running, ?_⟩
    intro other
    show Expansion.Store.peek (Expansion.fetch _ _ _ _ _).2 other = _ ∨
      Expansion.Store.peek (Expansion.fetch _ _ _ _ _).2 other = _
    by_cases hother : other = file
    · rw [hother]
      rcases hafter.peek with heq | heq
      · rw [heq]
        exact h.peek file
      · rw [heq]
        exact Or.inr hanswer
    · rw [hafter.others other hother]
      exact h.peek other

theorem Refreshed.note (h : Refreshed compile expander s t) (e : Event) :
    Refreshed compile expander s (t.note e) :=
  ⟨⟨h.inLine.units, h.inLine.compiler, h.inLine.matcher⟩,
    ⟨h.present.sources, h.present.settings⟩, h.providers, h.options, h.running, h.peek⟩

theorem Refreshed.refreshed (hs : s.InLine compile) (h : Refreshed compile expander s t)
    (files : List Url) :
    Refreshed compile expander s (Session.refreshed (Invoke.ofFunction expander) files t) := by
  induction files generalizing t with
  | nil => exact h
  | cons file rest ih => exact ih (h.entryFor hs file)

/-! ## One location -/

/-- What becomes of a location, by the entry that the session gives for its file. -/
def translate (expander : Request → Expander.Reply) (s : Session) (l : Location) :
    Except Overflow (Option Location) :=
  moved (Session.entryFor (Invoke.ofFunction expander) l.file s).1 l

def translateReference (expander : Request → Expander.Reply) (s : Session) (r : ReferenceEntry) :
    Except Overflow (Option ReferenceEntry) := do
  let found ← translate expander s r.location
  return found.map fun l => { r with location := l }

theorem Refreshed.translate (hs : s.InLine compile) (h : Refreshed compile expander s t)
    (l : Location) :
    Session.translate expander t l = Session.translate expander s l := by
  unfold Session.translate
  rw [h.answer hs l.file]

variable {file : Url}

/-- Whatever was brought up to date before, a location is carried as it would have been at first. -/
theorem settles_translate (hs : s.InLine compile) (l : Location) :
    Settles (Refreshed compile expander s)
      (locationToSource (Invoke.ofFunction expander)
        ((Session.entryFor (Invoke.ofFunction expander) file s).1.map fun entry => (file, entry)) l)
      (translate expander s l) := by
  apply settles_location
  · intro entry hasked
    obtain ⟨found, hfound, hpair⟩ := Option.map_eq_some_iff.mp hasked
    obtain ⟨hfile, rfl⟩ := Prod.mk.inj hpair
    rw [translate, ← hfile, hfound]
  · intro t ht
    exact ⟨ht.translate hs l, ht.entryFor hs l.file⟩

theorem settles_translateReference (hs : s.InLine compile) (r : ReferenceEntry) :
    Settles (Refreshed compile expander s)
      (referenceToSource (Invoke.ofFunction expander)
        ((Session.entryFor (Invoke.ofFunction expander) file s).1.map fun entry => (file, entry)) r)
      (translateReference expander s r) :=
  (settles_translate hs r.location).bind fun _ _ => Query.settles_pure _

/-! ## Whole answers -/

def askedAt (expansion : Option Entry) (position : Offset) : Except Overflow Offset :=
  match expansion with
  | some entry => entry.mapper.pointToExpanded position
  | none => .ok position

theorem askedPosition_eq (expansion : Option Entry) (position : Offset) (s : Session) :
    (askedPosition expansion position : Query Session Offset) s =
      (askedAt expansion position, s) := by
  cases expansion with
  | none => rfl
  | some entry => rfl

theorem askLocations_eq {α : Type} {kind : String}
    {toSource : Option (Url × Entry) → α → Query Session (Option α)}
    {translation : α → Except Overflow (Option α)} {inner : Url → Offset → Query Session (List α)}
    (hs : s.InLine compile)
    (hsource : ∀ file a, Settles (Refreshed compile expander s)
      (toSource ((Session.entryFor (Invoke.ofFunction expander) file s).1.map fun entry =>
        (file, entry)) a) (translation a))
    (hinner : ∀ file position t, ∃ files,
      (inner file position t).2 = Session.refreshed (Invoke.ofFunction expander) files t)
    (file : Url) (position : Offset) :
    (askLocations (Invoke.ofFunction expander) kind toSource inner file position s).1 = (do
      let position ← askedAt (Session.entryFor (Invoke.ofFunction expander) file s).1 position
      let results ← (inner file position
        (Session.entryFor (Invoke.ofFunction expander) file s).2).1
      keepSome translation results) := by
  have hbefore : Refreshed compile expander s
      (Session.entryFor (Invoke.ofFunction expander) file s).2 :=
    (Refreshed.refl hs).entryFor hs file
  unfold askLocations
  rw [Query.ofState_bind]
  generalize hasked : Session.entryFor (Invoke.ofFunction expander) file s = asked at hbefore ⊢
  have hposition := askedPosition_eq asked.1 position asked.2
  cases hat : askedAt asked.1 position with
  | error e =>
    rw [hat] at hposition
    rw [Query.bind_of_error hposition]
    rfl
  | ok carried =>
    rw [hat] at hposition
    rw [Query.bind_of_ok hposition]
    cases hresults : (inner file carried asked.2).1 with
    | error e =>
      rw [Query.bind_of_error (Prod.ext hresults rfl)]
      exact congrArg (· >>= keepSome translation) hresults.symm
    | ok results =>
      obtain ⟨files, hfiles⟩ := hinner file carried asked.2
      rw [Query.bind_of_ok (Prod.ext hresults hfiles)]
      have hkept : Settles (Refreshed compile expander s)
          (keepMapped kind file (toSource (asked.1.map fun entry => (file, entry))) results)
          (keepSome translation results) := by
        refine settles_keepMapped (fun _ e ht => ht.note e) fun a _ => ?_
        rw [← hasked]
        exact hsource file a
      refine (hkept _ (hbefore.refreshed hs files)).1.trans ?_
      exact congrArg (· >>= keepSome translation) hresults.symm

/-- The list is worked out element by element: one element does not matter to another. -/
structure OneByOne {α β : Type} (f : α → Except Overflow (Option β))
    (all : List α → Except Overflow (List β)) : Prop where
  /-- Where no element overflows, these are the results that are there, in their order. -/
  filterMap : ∀ (g : α → Option β) (list : List α), (∀ a ∈ list, f a = .ok (g a)) →
    all list = .ok (list.filterMap g)
  overflow : ∀ list, all list = .error .sum ↔ ∃ a ∈ list, f a = .error .sum
  append : ∀ first second, all (first ++ second) = (do
    let kept ← all first
    let others ← all second
    return kept ++ others)
  perm : ∀ first second kept, first.Perm second → all first = .ok kept →
    ∃ others, all second = .ok others ∧ kept.Perm others

section KeepSome

variable {α β : Type} {f : α → Except Overflow (Option β)}

theorem keepSome_eq_ok {g : α → Option β} {list : List α} (h : ∀ a ∈ list, f a = .ok (g a)) :
    keepSome f list = .ok (list.filterMap g) := by
  induction list with
  | nil => rfl
  | cons a rest ih =>
    rw [keepSome, h a List.mem_cons_self, ih fun b hb => h b (List.mem_cons_of_mem a hb)]
    show Except.ok ((g a).toList ++ rest.filterMap g) = _
    cases hg : g a with
    | none => rw [List.filterMap_cons_none hg]; rfl
    | some b => rw [List.filterMap_cons_some hg]; rfl

theorem keepSome_eq_error_iff {list : List α} :
    keepSome f list = .error .sum ↔ ∃ a ∈ list, f a = .error .sum := by
  induction list with
  | nil => simp [keepSome, pure, Except.pure]
  | cons a rest ih =>
    simp only [List.mem_cons, exists_eq_or_imp]
    rw [← ih, keepSome]
    cases hfirst : f a with
    | error e =>
      cases e
      simp [bind, Except.bind]
    | ok first =>
      cases hrest : keepSome f rest with
      | error e => simp [bind, Except.bind]
      | ok others => simp [bind, Except.bind, pure, Except.pure]

theorem keepSome_append (first second : List α) :
    keepSome f (first ++ second) = (do
      let kept ← keepSome f first
      let others ← keepSome f second
      return kept ++ others) := by
  induction first with
  | nil => simp [keepSome]
  | cons a rest ih =>
    rw [List.cons_append, keepSome, keepSome, ih]
    simp only [bind_assoc, pure_bind, List.append_assoc]

theorem keepSome_perm {first second : List α} {kept : List β} (hperm : first.Perm second)
    (hkept : keepSome f first = .ok kept) :
    ∃ others, keepSome f second = .ok others ∧ kept.Perm others := by
  -- No element of the one list overflows, so none of the other does.
  have hfits : ∀ a ∈ first, f a = .ok (f a).toOption.join := by
    intro a ha
    cases hresult : f a with
    | ok found => rfl
    | error e =>
      cases e
      rw [keepSome_eq_error_iff.mpr ⟨a, ha, hresult⟩] at hkept
      cases hkept
  rw [keepSome_eq_ok hfits] at hkept
  obtain rfl := Except.ok.inj hkept
  exact ⟨_, keepSome_eq_ok fun a ha => hfits a (hperm.mem_iff.mpr ha), hperm.filterMap _⟩

theorem keepSome_oneByOne : OneByOne f (keepSome f) where
  filterMap _ _ h := keepSome_eq_ok h
  overflow _ := keepSome_eq_error_iff
  append first second := keepSome_append first second
  perm _ _ _ hperm hkept := keepSome_perm hperm hkept

end KeepSome

/-- **Each location is carried on its own.** The service reads files while it answers, and does
nothing else to the session. In every session on the way through a work that begins with a new one:

1. definitions and places to rename are what the service answers to the position in the expanded
   text, each location carried by `translate`; that looks at the session before the question only;
2. references are carried in the same way by where they are;
3. so lists are carried element by element, in their order: appended lists give appended results,
   and the order of a list does not matter to what becomes of its elements;
4. bringing any files up to date before makes no difference to any location. -/
theorem carried_one_by_one (expander : Request → Expander.Reply) {settings : Settings}
    {bindings : List (String × Provider.Binding)} {sources : Sources} {s₀ s : Session}
    (hcreate : create compile settings bindings sources = .ok s₀) {client : Work}
    (hs : client.Reaches s₀ s) {inner : Service (Query Session)}
    (hinner : Within (fun before after =>
      ∃ files, after = refreshed (Invoke.ofFunction expander) files before) inner) :
    let service := remap (Invoke.ofFunction expander) inner
    let asked := fun file => entryFor (Invoke.ofFunction expander) file s
    (∀ file position, (service.definition file position s).1 = (do
        let position ← askedAt (asked file).1 position
        let locations ← (inner.definition file position (asked file).2).1
        keepSome (translate expander s) locations)) ∧
      (∀ file position, (service.renameLocations file position s).1 = (do
        let position ← askedAt (asked file).1 position
        let locations ← (inner.renameLocations file position (asked file).2).1
        keepSome (translate expander s) locations)) ∧
      (∀ file position, (service.references file position s).1 = (do
        let position ← askedAt (asked file).1 position
        let references ← (inner.references file position (asked file).2).1
        keepSome (translateReference expander s) references)) ∧
      OneByOne (translate expander s) (keepSome (translate expander s)) ∧
      OneByOne (translateReference expander s) (keepSome (translateReference expander s)) ∧
      ∀ files l, translate expander (refreshed (Invoke.ofFunction expander) files s) l =
        translate expander s l := by
  have hline : s.InLine compile := (inLine_create hcreate).reaches hs
  refine ⟨?_, ?_, ?_, keepSome_oneByOne, keepSome_oneByOne, ?_⟩
  · exact askLocations_eq hline (fun _ l => settles_translate hline l) hinner.definition
  · exact askLocations_eq hline (fun _ l => settles_translate hline l) hinner.renameLocations
  · exact askLocations_eq hline (fun _ r => settles_translateReference hline r) hinner.references
  · intro files l
    exact ((Refreshed.refl hline).refreshed hline files).translate hline l

/-! Two files that have a directive each, and a service that names places in both of them, in the
unit of one, and in a file that nobody knows. -/

def tailExpander : Request → Expander.Reply := fun request =>
  .output ⟨request.source ++ "\nx", some "d", [], some ⟨[⟨0, 10, 0, 10⟩], [⟨10, 12, "D"⟩]⟩⟩

def twoFiles : Work :=
  .alter (.edit (Url.ofFile ["a.ts"]) ⟨some "@derive(A)", some ⟨"1"⟩⟩)
    (.alter (.edit (Url.ofFile ["b.ts"]) ⟨some "@derive(B)", some ⟨"1"⟩⟩) (.reply (.failed "")))

/-- Places in the two files, some of them in text that was made up. -/
def mixedLocations : List Location :=
  [⟨Url.ofFile ["b.ts"], ⟨2, 3⟩⟩, ⟨Url.ofFile ["a.ts"], ⟨10, 1⟩⟩,
    ⟨Url.ofFile ["b.expanded.d.ts"], ⟨0, 1⟩⟩, ⟨Url.ofFile ["b.ts"], ⟨10, 2⟩⟩,
    ⟨Url.ofFile ["a.ts"], ⟨0, 4⟩⟩, ⟨Url.ofFile ["c.ts"], ⟨7, 7⟩⟩]

/-- Those in made-up text are left out, and the others stay as they are. -/
theorem mixedLocations_carried :
    ∃ s₀ s, create Pattern.compile Settings.default [] .empty = .ok s₀ ∧ twoFiles.Reaches s₀ s ∧
      ((remap (Invoke.ofFunction tailExpander) (fixedService mixedLocations)).definition
        (Url.ofFile ["a.ts"]) 0 s).1.toOption =
        some [⟨Url.ofFile ["b.ts"], ⟨2, 3⟩⟩, ⟨Url.ofFile ["b.expanded.d.ts"], ⟨0, 1⟩⟩,
          ⟨Url.ofFile ["a.ts"], ⟨0, 4⟩⟩, ⟨Url.ofFile ["c.ts"], ⟨7, 7⟩⟩] := by
  have hcarried :
      ((create Pattern.compile Settings.default [] .empty).toOption.bind fun s₀ => (do
          let position ← askedAt (entryFor (Invoke.ofFunction tailExpander) (Url.ofFile ["a.ts"])
            (twoFiles.run s₀).2).1 0
          let locations ← ((fixedService mixedLocations).definition (Url.ofFile ["a.ts"]) position
            (entryFor (Invoke.ofFunction tailExpander) (Url.ofFile ["a.ts"])
              (twoFiles.run s₀).2).2).1
          keepSome (translate tailExpander (twoFiles.run s₀).2) locations).toOption) =
        some [⟨Url.ofFile ["b.ts"], ⟨2, 3⟩⟩, ⟨Url.ofFile ["b.expanded.d.ts"], ⟨0, 1⟩⟩,
          ⟨Url.ofFile ["a.ts"], ⟨0, 4⟩⟩, ⟨Url.ofFile ["c.ts"], ⟨7, 7⟩⟩] := by
    decide +kernel
  cases hcreate : create Pattern.compile Settings.default [] .empty with
  | error error =>
    rw [hcreate] at hcarried
    cases hcarried
  | ok s₀ =>
    rw [hcreate] at hcarried
    have hreach := twoFiles.reaches_run s₀
    obtain ⟨hdefinition, -⟩ := carried_one_by_one tailExpander hcreate hreach
      (fixedService_within (fun s => ⟨[], rfl⟩) mixedLocations)
    refine ⟨s₀, _, rfl, hreach, ?_⟩
    rw [hdefinition]
    exact hcarried

end Session

end Palimpsest
