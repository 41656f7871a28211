import Palimpsest.Proofs.Session.Bypass
import Palimpsest.Proofs.Session.Calls

/-!
# Taking new settings over

Settings, pattern, switches, entries, units and the generation are changed one after the other when
new settings come, and entries are dropped twice, or once only where the switches compare equal.
Still no session shows some of it and not the rest.

1. `Renewed`: how a session differs from the one before its new settings.
2. `InLine.renewed_adopt`: all of it holds after the change. That no unit is left comes from what
   holds of every session, whatever was done before: no unit is there without its entry.
3. `Work.peek_eq_none`: an entry comes only by being asked for, so that what was dropped stays away
   until then. `entryFor_calls`: then the expander is called.
4. `reload_all_or_nothing`: new settings change all of it or nothing.
-/

namespace Palimpsest

open Expansion (Entry Request)

namespace Session

variable {compile : Pattern.Compiler}

/-! ## The session afterwards -/

/-- The second session is the first one under new settings. The switches in force compare equal to
the new ones, and are left as they were where those did so already. -/
structure Renewed (s : Session) (given : Settings) (compiled : Pattern.Matcher) (t : Session) :
    Prop where
  settings : t.settings = given
  matcher : t.matcher = compiled
  options : t.store.options.same given.expand = true
  options_from : t.store.options = given.expand ∨ t.store.options = s.store.options
  generation : t.generation = s.generation + 1
  entries : t.store.entries.isEmpty = true
  units : t.store.units.isEmpty = true
  sources : t.sources = s.sources
  providers : t.store.providers = s.store.providers
  running : t.store.running = s.store.running
  invocations : t.store.invocations = s.store.invocations

theorem InLine.renewed_adopt {s : Session} (h : s.InLine compile) {settings : Settings}
    {matcher : Pattern.Matcher} (hmatcher : settings.matcher s.compile = .ok matcher) :
    s.Renewed settings matcher (s.adopt settings matcher) := by
  have hline : (s.adopt settings matcher).InLine compile := by
    have hreload := h.reload settings
    rwa [Session.reload, hmatcher] at hreload
  have hpeek : ∀ file, (s.adopt settings matcher).store.peek file = none :=
    fun file => Expansion.Store.peek_clear _ file
  obtain ⟨journal, e, hstore⟩ := s.store_adopt settings matcher
  have hcleared := Expansion.Store.sameCalls_clear
    ({ s.store with journal := journal }.setOptions settings.expand)
  have hoptions : (s.adopt settings matcher).store.options =
      ({ s.store with journal := journal }.setOptions settings.expand).options := by
    rw [hstore]
    exact hcleared.options
  exact {
    settings := rfl
    matcher := rfl
    options := by
      rw [hoptions]
      exact Expansion.Store.same_setOptions ..
    options_from := by
      rw [hoptions]
      exact Expansion.Store.options_setOptions ..
    generation := rfl
    entries := Table.isEmpty_of_find?_eq_none hpeek
    units := hline.units.isEmpty hpeek
    sources := rfl
    providers := by
      rw [hstore]
      exact hcleared.providers.trans (Expansion.Store.providers_setOptions ..)
    running := (s.shrinks_adopt settings matcher).running
    invocations := (s.sameRecord_adopt settings matcher).invocations }

/-! ## Until the file is asked for -/

theorem ne_of_presented_get {file other : Url} {version : Version} {called : Bool}
    {rest : List Act} (h : presented file (.get other version called :: rest) = []) :
    other ≠ file := by
  rintro rfl
  rw [presented_get] at h
  cases h

theorem Asked.peek_eq_none {inside : Request → Work} {s t : Session} {acts : List Act} {file : Url}
    (h : Asked inside s acts t) (hnone : s.store.peek file = none)
    (hother : presented file acts = [])
    (hinside : ∀ request u, u.store.peek file = none →
      presented file ((inside request).acts u) = [] →
      ((inside request).run u).2.store.peek file = none) :
    t.store.peek file = none := by
  cases h with
  | quiet _ hshrinks _ =>
    rcases hshrinks.peek file with heq | hgone
    · rw [heq, hnone]
    · exact hgone
  | ready other content version entry store hbegin =>
    have hne := ne_of_presented_get hother
    have hbegun := s.store.begun other content version
    rw [hbegin] at hbegun
    cases hbegun with
    | hit _ _ _ => exact hnone
    | blank _ _ =>
      show (s.store.publish other _).peek file = none
      rw [Expansion.Store.peek_publish, if_neg hne.symm]
      exact hnone
    | reentered _ _ _ => exact hnone
  | call other content version reply u hbegin hrun =>
    have hne := ne_of_presented_get hother
    rw [presented_get_of_ne hne] at hother
    have hworked := hinside (s.store.request other content)
      { s with store := s.store.opened other version } hnone hother
    rw [hrun] at hworked
    show (u.store.closed other content version reply).peek file = none
    rw [Expansion.Store.peek_closed, if_neg hne.symm]
    exact hworked

/-- **An entry comes only by being asked for.** By induction on the work, nested calls included. -/
theorem Work.peek_eq_none (w : Work) {s : Session} {file : Url}
    (hnone : s.store.peek file = none) (hother : presented file (w.acts s) = []) :
    (w.run s).2.store.peek file = none := by
  induction w generalizing s with
  | reply r => exact hnone
  | look next ih => exact ih s hnone hother
  | alter change next ih =>
    rw [acts, presented_append, List.append_eq_nil_iff] at hother
    refine ih ?_ hother.2
    rcases (change.shrinks s).peek file with heq | hgone
    · rw [heq, hnone]
    · exact hgone
  | ask question inside next ihInside ihNext =>
    obtain ⟨answer, acts, t, hasked, hacts, hrun⟩ := asked question inside next s
    rw [hacts, presented_append, List.append_eq_nil_iff] at hother
    rw [hrun]
    refine ihNext answer ?_ hother.2
    exact hasked.peek_eq_none hnone hother.1 fun request _ => ihInside request

/-- A file is brought up to date, with an expander that does the given work, and nothing else. -/
def Work.refresh (file : Url) (work : Request → Work) : Work :=
  .ask (.entryFor file) work fun _ => .reply (.failed "")

/-- Bringing a file up to date calls the expander for this version of it first, and both the counter
and the journal show that call, besides those that are nested in it. -/
structure CallsFor (s : Session) (file : Url) (version : Version) (work : Request → Work)
    (t : Session) : Prop where
  first : ((Work.refresh file work).acts s).head? = some (.get file version true)
  invocations : t.store.invocations =
    s.store.invocations + .ofNat (((Work.refresh file work).acts s).countP Act.isCall)
  journal : s.store.journal.count (.miss file version) < t.store.journal.count (.miss file version)

theorem entryFor_calls {s : Session} {file : Url} {content : String} {version : Version}
    (hwanted : s.wanted? file = some (content, version)) (hnone : s.store.peek file = none)
    (hblank : Text.isBlankText content = false) (hidle : file ∉ s.store.running)
    (work : Request → Work) :
    s.CallsFor file version work (entryFor (Work.expander work) file s).2 := by
  have hmiss : s.store.current? file version = none := by
    unfold Expansion.Store.current?
    rw [hnone]
    rfl
  have hbegin := Expansion.Store.begin_of_idle hmiss hblank
    (Expansion.Store.isRunning_eq_false_iff.mpr hidle)
  obtain ⟨hinvocations, hmisses⟩ := (Work.refresh file work).record_run s
  have hacts : ∃ rest, (Work.refresh file work).acts s = .get file version true :: rest := by
    simp only [Work.refresh, Work.acts, Question.fetched?, hwanted, Option.map_some, fetchActs,
      hbegin]
    exact ⟨_, rfl⟩
  obtain ⟨rest, hacts⟩ := hacts
  refine ⟨by rw [hacts]; rfl, hinvocations, ?_⟩
  have hcount : 0 < (Act.get file version true :: rest).count (.get file version true) := by
    rw [List.count_cons_self]
    exact Nat.succ_pos _
  calc s.store.journal.count (.miss file version)
      < s.store.journal.count (.miss file version) +
          (Act.get file version true :: rest).count (.get file version true) := by omega
    _ = (entryFor (Work.expander work) file s).2.store.journal.count (.miss file version) := by
        rw [← hacts]
        exact (hmisses file version).symm

/-- Whatever happens first to other files, the next time the file is brought up to date the expander
is called for it, if it is not left alone then and there is something to expand in it. -/
def CalledNext (s : Session) (file : Url) : Prop :=
  ∀ (meanwhile : Work) (content : String),
    presented file (meanwhile.acts s) = [] →
    let u := (meanwhile.run s).2
    u.isBypassed file = false → u.sources.content? file = some content →
    Text.isBlankText content = false →
    ∀ work : Request → Work,
      u.CallsFor file (u.sources.versionOf file content) work
        (entryFor (Work.expander work) file u).2

theorem calledNext_of_peek_eq_none {s : Session} {file : Url} (hnone : s.store.peek file = none)
    (hidle : file ∉ s.store.running) : s.CalledNext file := by
  intro meanwhile content hother u hbypassed hcontent hblank work
  have hwanted : u.wanted? file = some (content, u.sources.versionOf file content) := by
    rw [isBypassed_eq, Option.isNone_eq_false_iff] at hbypassed
    obtain ⟨⟨found, version⟩, hfound⟩ := Option.isSome_iff_exists.mp hbypassed
    obtain ⟨-, hread, -, hversion⟩ := wanted?_eq_some_iff.mp hfound
    obtain rfl : content = found := Option.some.inj (hcontent.symm.trans hread)
    rw [hfound, hversion]
  refine entryFor_calls hwanted (meanwhile.peek_eq_none hnone hother) hblank ?_ work
  show file ∉ (meanwhile.run s).2.store.running
  rw [meanwhile.running_run]
  exact hidle

/-! ## All or nothing -/

/-- **New settings are taken over as a whole or not at all.** Whatever patterns the session's
compiler accepts, in every session on the way through a work that begins with a new one, and for all
settings: if their pattern does not compile, there is an error and the session is the same as before
in every part. Otherwise settings, pattern and switches are the new ones, the generation is the next
one, and there is no entry and no unit, so that for every file that is not being expanded the
expander is called again. -/
theorem reload_all_or_nothing {settings₀ : Settings} {bindings : List (String × Provider.Binding)}
    {sources : Sources} {s₀ s : Session}
    (hcreate : create compile settings₀ bindings sources = .ok s₀) {client : Work}
    (hs : client.Reaches s₀ s) (settings : Settings) :
    (∀ reason, compile settings.directivePattern = .error reason →
      s.reload settings = (.error (.badPattern settings.directivePattern reason), s)) ∧
    ∀ matcher, compile settings.directivePattern = .ok matcher →
      ∃ t, s.reload settings = (.ok (), t) ∧ s.Renewed settings matcher t ∧
        ∀ file, file ∉ s.store.running → t.CalledNext file := by
  have hline : s.InLine compile := (inLine_create hcreate).reaches hs
  constructor
  · intro reason hcompile
    have hmatcher : settings.matcher s.compile =
        .error (.badPattern settings.directivePattern reason) := by
      rw [Settings.matcher, hline.compiler, hcompile]
      rfl
    rw [reload, hmatcher]
  · intro matcher hcompile
    have hmatcher : settings.matcher s.compile = .ok matcher := by
      rw [Settings.matcher, hline.compiler, hcompile]
      rfl
    have hrenewed := hline.renewed_adopt hmatcher
    refine ⟨s.adopt settings matcher, by rw [reload, hmatcher], hrenewed, ?_⟩
    intro file hidle
    apply calledNext_of_peek_eq_none (Expansion.Store.peek_clear _ file)
    rw [hrenewed.running]
    exact hidle

/-- With an entry and a unit there, settings with a broken pattern are refused, and other ones drop
both and lead to a second call. -/
theorem sampleClient_reloaded :
    ∃ s₀ s t, create Pattern.compile Settings.default [] .empty = .ok s₀ ∧
      sampleClient.Reaches s₀ s ∧
      s.store.units.isEmpty = false ∧ s.store.invocations = 1 ∧
      s.reload { Settings.default with directivePattern := "(" } =
        (.error (.badPattern "(" "not a pattern"), s) ∧
      s.reload { Settings.default with directivePattern := "@" } = (.ok (), t) ∧
      t.generation = 1 ∧ t.store.units.isEmpty = true ∧
      t.CallsFor (Url.ofFile ["a.ts"]) ⟨"1"⟩ (fun _ => .reply (.failed ""))
        (entryFor (Work.expander fun _ => .reply (.failed "")) (Url.ofFile ["a.ts"]) t).2 := by
  have hafter :
      ((create Pattern.compile Settings.default [] .empty).toOption.map fun s₀ =>
        let s := (sampleClient.run s₀).2
        let t := (s.reload { Settings.default with directivePattern := "@" }).2
        ((s.store.units.isEmpty, s.store.invocations, s.generation,
            s.store.isRunning (Url.ofFile ["a.ts"])),
          t.isBypassed (Url.ofFile ["a.ts"]), t.sources.content? (Url.ofFile ["a.ts"]),
          t.sources.versionOf (Url.ofFile ["a.ts"]) "@derive(A)")) =
        some ((false, 1, 0, false), false, some "@derive(A)", ⟨"1"⟩) := by
    decide +kernel
  cases hcreate : create Pattern.compile Settings.default [] .empty with
  | error error =>
    rw [hcreate] at hafter
    cases hafter
  | ok s₀ =>
    rw [hcreate] at hafter
    simp only [Except.toOption, Option.map_some, Option.some.injEq, Prod.mk.injEq] at hafter
    obtain ⟨⟨hunits, hcalls, hgeneration, hidle⟩, hbypassed, hcontent, hversion⟩ := hafter
    have hreach := sampleClient.reaches_run s₀
    obtain ⟨hrefused, -⟩ :=
      reload_all_or_nothing hcreate hreach { Settings.default with directivePattern := "(" }
    obtain ⟨-, htaken⟩ :=
      reload_all_or_nothing hcreate hreach { Settings.default with directivePattern := "@" }
    have hbroken : Pattern.Expr.read? "(" = none := by decide +kernel
    obtain ⟨expr, hexpr⟩ : ∃ expr, Pattern.Expr.read? "@" = some expr :=
      Option.isSome_iff_exists.mp (by decide +kernel)
    obtain ⟨t, hreload, hrenewed, hnext⟩ :=
      htaken expr.isMatch (by rw [Pattern.compile, hexpr])
    rw [hreload] at hbypassed hcontent hversion
    have hcalled := hnext (Url.ofFile ["a.ts"])
      (Expansion.Store.isRunning_eq_false_iff.mp hidle) (.reply (.failed "")) "@derive(A)" rfl
      hbypassed hcontent (by decide +kernel) fun _ => .reply (.failed "")
    refine ⟨s₀, _, t, rfl, hreach, hunits, hcalls, ?_, hreload, ?_, hrenewed.units, ?_⟩
    · exact hrefused _ (by rw [Pattern.compile, hbroken])
    · rw [hrenewed.generation, hgeneration]
      rfl
    · rw [← hversion]
      exact hcalled

end Session

end Palimpsest
