import Palimpsest.Pattern.Reader
import Palimpsest.Proofs.Declaration.Name
import Palimpsest.Proofs.Expansion.Fresh
import Palimpsest.Proofs.Expansion.Units
import Palimpsest.Proofs.Session.Reading

/-!
# Answers depend on the present

A session keeps entries, units and switches from one question to the next. For an expander that
looks at its request only, none of it shows in the expansions that it answers with: they are what
the present sources and settings give, whatever happened before. All that is asked of the sources
is that a version of a file stands for one content.

1. `fromScratch`: the answer, computed from the present alone.
2. `Sound`: what holds of a session at every moment; `Sound.apply` for one step and
   `sound_of_mem_states` for all states of a run.
3. `Sound.answer`: a sound session answers as if from scratch.
4. `answers_from_present`: the three together, for every run of every new session.

New switches that are equal to those in force are not taken over, and zero is equal to zero
whatever its sign. So the switches in force are equal to those of the settings, and they need not
be the very same (`zero_keeps_its_sign`).
-/

namespace Palimpsest

open Expansion (Invoke Entry Request freshEntry)

/-- The sources show a file with this content under this version. -/
def Sources.Shows (a : Sources) (file : Url) (version : Version) (content : String) : Prop :=
  a.content? file = some content ∧ a.versionOf file content = version

/-- A part of the path of the file is the name of an excluded directory. -/
def Settings.Excludes (settings : Settings) (file : Url) : Prop :=
  ∃ segment ∈ file.segments, segment ≠ "" ∧ segment ∈ settings.excludedDirs

instance (settings : Settings) (file : Url) : Decidable (settings.Excludes file) :=
  inferInstanceAs (Decidable (∃ segment ∈ file.segments, _))

/-- The expansion of a file, computed from sources and settings alone: none where the file has the
name of an output, is excluded, is not known or has no directive, and otherwise the entry of a store
without entries. -/
def fromScratch (expander : Request → Expander.Reply) (compile : Pattern.Compiler)
    (providers : Provider.Resolver) (options : Expander.Options) (settings : Settings)
    (sources : Sources) (file : Url) : Option Entry :=
  if Declaration.isOutput file = true ∨ settings.Excludes file then none
  else
    match settings.matcher compile, sources.content? file with
    | .ok matcher, some content =>
      if matcher content then
        some (freshEntry expander providers options file content (sources.versionOf file content))
      else none
    | _, _ => none

namespace Session

/-! ## Runs -/

/-- What can happen to a session. -/
inductive Step where
  | edit (file : Url) (source : Source)
  | delete (file : Url)
  | entryFor (file : Url)
  | hostContent (file : Url)
  | hostVersion (file : Url)
  | close (file : Url)
  | reload (settings : Settings)

def Step.apply (expander : Request → Expander.Reply) (s : Session) : Step → Session
  | edit file source => s.setFile file source
  | delete file => s.removeFile file
  | entryFor file => (Session.entryFor (Invoke.ofFunction expander) file s).2
  | hostContent file => (Session.hostContent (Invoke.ofFunction expander) file s).2
  | hostVersion file => (Session.hostVersion (Invoke.ofFunction expander) file s).2
  | close file => s.close file
  | reload settings => (s.reload settings).2

/-- The session and what it becomes step by step. -/
def states (expander : Request → Expander.Reply) (s : Session) : List Step → List Session
  | [] => [s]
  | step :: rest => s :: states expander (step.apply expander s) rest

/-- A version of a file stands for one content, at all these moments. -/
def VersionsTell (history : List Session) : Prop :=
  ∀ a ∈ history, ∀ b ∈ history, ∀ file version content content',
    a.sources.Shows file version content → b.sources.Shows file version content' →
    content = content'

/-! ## What holds at every moment -/

/-- Nobody is at work, and all that the session keeps is in line with its settings, with the
providers it began with, and with what has been seen of the sources. -/
structure Sound (expander : Request → Expander.Reply) (compile : Pattern.Compiler)
    (providers : Provider.Resolver) (seen : Url → Version → String → Prop) (s : Session) :
    Prop where
  idle : s.store.running = []
  providers : s.store.providers = providers
  options : s.store.options.same s.settings.expand = true
  compiler : s.compile = compile
  matcher : s.settings.matcher compile = .ok s.matcher
  units : s.store.UnitsLive
  faithful : s.store.Faithful expander seen

variable {expander : Request → Expander.Reply} {compile : Pattern.Compiler}
  {providers : Provider.Resolver} {seen : Url → Version → String → Prop} {s : Session}

theorem create_eq_ok {settings : Settings} {bindings : List (String × Provider.Binding)}
    {sources : Sources} (h : create compile settings bindings sources = .ok s) :
    ∃ matcher journal, settings.matcher compile = .ok matcher ∧
      s =
        { compile
          settings
          matcher
          store :=
            { Expansion.Store.create
                ((Provider.Resolver.ofManifests settings.providers).bindAll bindings)
                settings.expand with journal := journal }
          sources
          generation := 0 } := by
  unfold create at h
  cases hmatcher : settings.matcher compile with
  | error error =>
    rw [hmatcher] at h
    cases h
  | ok matcher =>
    rw [hmatcher] at h
    exact ⟨matcher, _, rfl, (Except.ok.inj h).symm⟩

theorem sound_create {settings : Settings} {bindings : List (String × Provider.Binding)}
    {sources : Sources} (h : create compile settings bindings sources = .ok s) :
    s.Sound expander compile
      ((Provider.Resolver.ofManifests settings.providers).bindAll bindings) seen := by
  obtain ⟨matcher, journal, hmatcher, rfl⟩ := create_eq_ok h
  have hunits := Expansion.Store.unitsLive_create
    ((Provider.Resolver.ofManifests settings.providers).bindAll bindings) settings.expand
  exact ⟨rfl, rfl, settings.expand.same_refl, rfl, hmatcher, hunits,
    Expansion.Store.faithful_of_peek_eq_none fun _ => rfl⟩

theorem Sound.note (h : s.Sound expander compile providers seen) (e : Event) :
    (s.note e).Sound expander compile providers seen :=
  ⟨h.idle, h.providers, h.options, h.compiler, h.matcher, h.units, h.faithful⟩

theorem Sound.close (h : s.Sound expander compile providers seen) (file : Url) :
    (s.close file).Sound expander compile providers seen := by
  have hsame := Expansion.Store.sameCalls_remove s.store file
  refine ⟨?_, ?_, ?_, h.compiler, h.matcher, h.units.remove file, h.faithful.remove file⟩
  · exact hsame.running.trans h.idle
  · exact hsame.providers.trans h.providers
  · show (s.store.remove file).options.same s.settings.expand = true
    rw [hsame.options]
    exact h.options

theorem Sound.dropEntry (h : s.Sound expander compile providers seen) (file : Url) :
    (dropEntry file s).Sound expander compile providers seen := by
  unfold Session.dropEntry
  split
  · exact (h.close file).note _
  · exact h.close file

/-- New settings leave no entry, so none is out of line with them. -/
theorem Sound.renewed (h : s.Sound expander compile providers seen) {settings : Settings}
    {matcher : Pattern.Matcher} (hmatcher : settings.matcher compile = .ok matcher)
    (e : Event) (sources : Sources) (generation : UInt64) :
    (⟨s.compile, settings, matcher, (s.store.setOptions settings.expand).clear.note e, sources,
      generation⟩ : Session).Sound expander compile providers seen := by
  have hclear := Expansion.Store.sameCalls_clear (s.store.setOptions settings.expand)
  refine ⟨?_, ?_, ?_, h.compiler, hmatcher, (h.units.setOptions settings.expand).clear, ?_⟩
  · exact hclear.running.trans ((Expansion.Store.running_setOptions ..).trans h.idle)
  · exact hclear.providers.trans ((Expansion.Store.providers_setOptions ..).trans h.providers)
  · show (s.store.setOptions settings.expand).clear.options.same settings.expand = true
    rw [hclear.options]
    exact Expansion.Store.same_setOptions ..
  · apply Expansion.Store.faithful_of_peek_eq_none
    intro file
    rw [Expansion.Store.peek_note, Expansion.Store.peek_clear]

theorem Sound.adopt (h : s.Sound expander compile providers seen) {settings : Settings}
    {matcher : Pattern.Matcher} (hmatcher : settings.matcher compile = .ok matcher) :
    (s.adopt settings matcher).Sound expander compile providers seen := by
  unfold Session.adopt
  split
  · exact h.renewed hmatcher _ _ _
  · exact (h.note _).renewed hmatcher _ _ _

theorem sources_reload (s : Session) (settings : Settings) :
    (s.reload settings).2.sources = s.sources := by
  unfold Session.reload
  cases settings.matcher s.compile with
  | error error => rfl
  | ok matcher => rfl

theorem Sound.reload (h : s.Sound expander compile providers seen) (settings : Settings) :
    (s.reload settings).2.Sound expander compile providers seen := by
  unfold Session.reload
  rw [h.compiler]
  cases hmatcher : settings.matcher compile with
  | error error => exact h
  | ok matcher => exact h.adopt hmatcher

/-! ## Answers -/

theorem isExcluded_iff (s : Session) (file : Url) :
    s.isExcluded file = true ↔ s.settings.Excludes file := by
  unfold isExcluded Settings.Excludes
  simp [List.any_eq_true]

/-- Units have the names of outputs, so whether a file is left alone because of its name depends on
the name and the settings only. -/
theorem classOfName?_eq_none_iff (h : s.store.UnitsLive) (file : Url) :
    s.classOfName? file = none ↔
      ¬(Declaration.isOutput file = true ∨ s.settings.Excludes file) := by
  have hunit : s.store.units.contains file = true → Declaration.isOutput file = true := by
    intro hcontains
    obtain ⟨unit, hunit⟩ := Option.isSome_iff_exists.mp hcontains
    obtain ⟨-, hname, -⟩ := h file unit hunit
    rw [hname]
    exact Declaration.isOutput_unitName unit.owner
  unfold classOfName?
  rw [← isExcluded_iff]
  -- The first test of the three, whether there is such a unit, holds only where the second does.
  by_cases houtput : Declaration.isOutput file = true
  · simp only [houtput]
    split <;> simp
  · have hcontains : ¬ s.store.units.contains file = true := fun hc => houtput (hunit hc)
    rw [if_neg hcontains, if_neg houtput]
    simp [houtput]

def Shown (seen : Url → Version → String → Prop) (s : Session) : Prop :=
  ∀ file version content, s.sources.Shows file version content → seen file version content

/-- What the sources show has been seen, and no version has been seen with two contents. -/
structure Tells (seen : Url → Version → String → Prop) (s : Session) : Prop where
  shown : Shown seen s
  unique : ∀ file version content content', seen file version content →
    seen file version content' → content = content'

theorem Sound.fetchedNow (h : s.Sound expander compile providers seen) (file : Url)
    (content : String) :
    s.store.Fetched expander file content (s.sources.versionOf file content)
      (Expansion.fetch (Invoke.ofFunction expander) file content
        (s.sources.versionOf file content) s.store).1
      (s.fetched expander file content (s.sources.versionOf file content)).store := by
  have hidle : file ∉ s.store.running := by
    rw [h.idle]
    exact List.not_mem_nil
  exact Expansion.fetched expander hidle content (s.sources.versionOf file content)

theorem Sound.fetched (h : s.Sound expander compile providers seen) (hshown : Shown seen s)
    {file : Url} {content : String} (hcontent : s.sources.content? file = some content) :
    (s.fetched expander file content (s.sources.versionOf file content)).Sound
      expander compile providers seen := by
  have hfetched := h.fetchedNow file content
  have hseen := hshown file _ content ⟨hcontent, rfl⟩
  refine ⟨hfetched.running.trans h.idle, hfetched.providers.trans h.providers, ?_, h.compiler,
    h.matcher, ?_, h.faithful.fetched hseen hfetched⟩
  · rw [hfetched.options]
    exact h.options
  · exact Expansion.Store.invariant_unitsLive.toKept.fetch _ (fun _ _ hs => hs) file content _
      h.units

theorem Sound.entryFor (h : s.Sound expander compile providers seen) (hshown : Shown seen s)
    (file : Url) :
    (Session.entryFor (Invoke.ofFunction expander) file s).2.Sound expander compile providers
      seen := by
  have hanswered := answered expander s file
  generalize Session.entryFor (Invoke.ofFunction expander) file s = result at hanswered
  cases hanswered with
  | named _ _ => exact h
  | unread _ _ => exact h
  | dropped _ _ _ _ => exact h.dropEntry file
  | expanded _ _ hcontent _ => exact h.fetched hshown hcontent

/-- **A sound session answers as if from scratch.** -/
theorem Sound.answer (h : s.Sound expander compile providers seen) (htells : Tells seen s)
    (file : Url) :
    (Session.entryFor (Invoke.ofFunction expander) file s).1 =
        fromScratch expander compile providers s.store.options s.settings s.sources file ∧
      (Session.entryFor (Invoke.ofFunction expander) file s).2.Sound expander compile providers
        seen := by
  refine ⟨?_, h.entryFor htells.shown file⟩
  have hname := classOfName?_eq_none_iff h.units file
  have hanswered := answered expander s file
  generalize Session.entryFor (Invoke.ofFunction expander) file s = result at hanswered
  unfold fromScratch
  cases hanswered with
  | named c hc =>
    have hbypassed : Declaration.isOutput file = true ∨ s.settings.Excludes file := by
      apply Decidable.byContradiction
      intro hnot
      rw [hname.mpr hnot] at hc
      cases hc
    rw [if_pos hbypassed]
  | unread hnone hcontent => rw [if_neg (hname.mp hnone), h.matcher, hcontent]
  | dropped content hnone hcontent hplain =>
    rw [if_neg (hname.mp hnone), h.matcher, hcontent]
    simp [hplain]
  | expanded content hnone hcontent hmatch =>
    rw [if_neg (hname.mp hnone), h.matcher, hcontent]
    have hseen := htells.shown file _ content ⟨hcontent, rfl⟩
    have hentry := h.faithful.fresh
      (fun other hother => htells.unique file _ other content hother hseen)
      (h.fetchedNow file content)
    rw [h.providers] at hentry
    simp only [hmatch, if_true, hentry]

theorem Sound.apply (h : s.Sound expander compile providers seen) (hshown : Shown seen s)
    (step : Step) : (step.apply expander s).Sound expander compile providers seen := by
  cases step with
  | edit file source =>
    exact ⟨h.idle, h.providers, h.options, h.compiler, h.matcher, h.units, h.faithful⟩
  | delete file =>
    exact ⟨h.idle, h.providers, h.options, h.compiler, h.matcher, h.units, h.faithful⟩
  | entryFor file => exact h.entryFor hshown file
  | hostContent file =>
    rw [Step.apply, state_hostContent]
    exact h.entryFor hshown (s.readTarget file)
  | hostVersion file =>
    rw [Step.apply, state_hostVersion]
    exact h.entryFor hshown (s.readTarget file)
  | close file => exact h.close file
  | reload settings => exact h.reload settings

theorem sound_of_shown (steps : List Step) (h : s.Sound expander compile providers seen)
    (hshown : ∀ t ∈ states expander s steps, Shown seen t) :
    ∀ t ∈ states expander s steps, t.Sound expander compile providers seen := by
  induction steps generalizing s with
  | nil =>
    intro t ht
    rw [List.mem_singleton.mp ht]
    exact h
  | cons step rest ih =>
    intro t ht
    rcases List.mem_cons.mp ht with rfl | ht
    · exact h
    · refine ih (h.apply (hshown s List.mem_cons_self) step) ?_ t ht
      intro u hu
      exact hshown u (List.mem_cons_of_mem s hu)

theorem sound_of_mem_states (steps : List Step) (h : s.Sound expander compile providers seen)
    (htells : ∀ t ∈ states expander s steps, Tells seen t) :
    ∀ t ∈ states expander s steps, t.Sound expander compile providers seen :=
  sound_of_shown steps h fun t ht => (htells t ht).shown

theorem fromScratch_congr {a b : Expander.Options} (hab : a.same b = true)
    (hexpander : ∀ source file a b, a.same b = true →
      expander ⟨source, file, a, providers⟩ = expander ⟨source, file, b, providers⟩)
    (settings : Settings) (sources : Sources) (file : Url) :
    fromScratch expander compile providers a settings sources file =
      fromScratch expander compile providers b settings sources file := by
  unfold fromScratch
  simp only [Expansion.freshEntry_eq, hexpander _ file a b hab]

/-- **The expansions that a session answers with depend on the present only.** In every state of
every run in which a version of a file stands for one content: the switches in force are equal to
those of the present settings; the answer for every file is the one that the present sources and
settings give with them; and it is the one with the very switches of the settings if the expander
does not tell equal switches apart. A fresh entry is as the last part says. -/
theorem answers_from_present (expander : Request → Expander.Reply) {compile : Pattern.Compiler}
    {settings : Settings} {bindings : List (String × Provider.Binding)} {sources : Sources}
    {s₀ : Session}
    (hcreate : create compile settings bindings sources = .ok s₀) (steps : List Step)
    (htell : VersionsTell (states expander s₀ steps)) {s : Session}
    (hs : s ∈ states expander s₀ steps) :
    let providers := (Provider.Resolver.ofManifests settings.providers).bindAll bindings
    s.store.options.same s.settings.expand = true ∧
      (∀ file, (entryFor (Invoke.ofFunction expander) file s).1 =
        fromScratch expander compile providers s.store.options s.settings s.sources file) ∧
      ((∀ source file a b, a.same b = true →
          expander ⟨source, file, a, providers⟩ = expander ⟨source, file, b, providers⟩) →
        ∀ file, (entryFor (Invoke.ofFunction expander) file s).1 =
          fromScratch expander compile providers s.settings.expand s.settings s.sources file) ∧
      ∀ options file content version,
        freshEntry expander providers options file content version =
          if Text.isBlankText content then .passThrough content version .skipped
          else
            match expander ⟨content, file, options, providers⟩ with
            | .failed text => .passThrough content version (.failed text)
            | .crashed text =>
              .passThrough content version (.failed (text.getD "expander panicked"))
            | .output output => .ofReply content version (.output output) := by
  intro providers
  -- Seen is what any state of the run shows, those to come included.
  have htells : ∀ t ∈ states expander s₀ steps,
      Tells (fun file version content =>
        ∃ a ∈ states expander s₀ steps, a.sources.Shows file version content) t := by
    intro t ht
    refine ⟨fun file version content hshows => ⟨t, ht, hshows⟩, ?_⟩
    rintro file version content content' ⟨a, ha, hshows⟩ ⟨b, hb, hshows'⟩
    exact htell a ha b hb file version content content' hshows hshows'
  have hsound := sound_of_mem_states steps (sound_create hcreate) htells s hs
  refine ⟨hsound.options, fun file => (hsound.answer (htells s hs) file).1, ?_, ?_⟩
  · intro hexpander file
    rw [(hsound.answer (htells s hs) file).1]
    exact fromScratch_congr hsound.options hexpander s.settings s.sources file
  · intro options file content version
    rw [Expansion.freshEntry_eq]
    cases expander ⟨content, file, options, providers⟩ with
    | failed text => rfl
    | crashed text => rfl
    | output output => rfl

/-! A switch that changes its sign and nothing else. -/

/-- Settings with one switch, a zero with a sign or without. -/
def zeroSettings (negative : Bool) : Settings :=
  { Settings.default with
    expand := ⟨false, ⟨[("x", .number (.float ⟨negative, 0, 0⟩))], rfl⟩⟩ }

def signExpander : Request → Expander.Reply := fun request =>
  match request.options.extra.find? "x" with
  | some (.number (.float value)) =>
    .output ⟨if value.negative then "-0.0" else "0.0", none, [], none⟩
  | _ => .failed "no switch"

/-- A file with a directive comes, is expanded, and the switch changes its sign. -/
def signSteps : List Step :=
  [.edit (Url.ofFile ["a.ts"]) ⟨some "@derive(A)", some ⟨"1"⟩⟩, .entryFor (Url.ofFile ["a.ts"]),
    .reload (zeroSettings true)]

/-- The session in which the switch has changed its sign. -/
def signFinal (s₀ : Session) : Session := signSteps.foldl (Step.apply signExpander) s₀

theorem signFinal_mem (s₀ : Session) : signFinal s₀ ∈ states signExpander s₀ signSteps := by
  simp [signFinal, signSteps, states]

theorem signSteps_tell {s₀ : Session}
    (hcreate : create Pattern.compile (zeroSettings false) [] .empty = .ok s₀) :
    VersionsTell (states signExpander s₀ signSteps) := by
  have hshows : ∀ a ∈ states signExpander s₀ signSteps, ∀ file version content,
      a.sources.Shows file version content → content = "@derive(A)" := by
    have hbefore : s₀.sources = .empty := by
      obtain ⟨_, _, -, rfl⟩ := create_eq_ok hcreate
      rfl
    have hafter : ∀ {a : Session}, a.sources = s₀.sources.insert (Url.ofFile ["a.ts"])
        ⟨some "@derive(A)", some ⟨"1"⟩⟩ → ∀ file version content,
        a.sources.Shows file version content → content = "@derive(A)" := by
      intro a ha file version content hshows
      have hcontent := hshows.1
      rw [ha, hbefore, Sources.content?, Table.find?_insert] at hcontent
      split at hcontent
      · exact (Option.some.inj hcontent).symm
      · cases hcontent
    intro a ha
    simp only [signSteps, states, List.mem_cons, List.not_mem_nil, or_false] at ha
    rcases ha with rfl | rfl | rfl | rfl
    · intro file version content hshows
      have hcontent := hshows.1
      rw [hbefore] at hcontent
      cases hcontent
    · exact hafter rfl
    · exact hafter (sources_entryFor signExpander _ _)
    · exact hafter ((sources_reload _ _).trans (sources_entryFor signExpander _ _))
  intro a ha b hb file version content content' hcontent hcontent'
  rw [hshows a ha file version content hcontent, hshows b hb file version content' hcontent']

theorem signFinal_answer :
    ∃ s₀, create Pattern.compile (zeroSettings false) [] .empty = .ok s₀ ∧
      VersionsTell (states signExpander s₀ signSteps) ∧
      (signFinal s₀).store.options.same (signFinal s₀).settings.expand = true ∧
      (entryFor (Invoke.ofFunction signExpander) (Url.ofFile ["a.ts"]) (signFinal s₀)).1 =
        fromScratch signExpander Pattern.compile
          ((Provider.Resolver.ofManifests (zeroSettings false).providers).bindAll [])
          (signFinal s₀).store.options (signFinal s₀).settings (signFinal s₀).sources
          (Url.ofFile ["a.ts"]) := by
  have hsome : (create Pattern.compile (zeroSettings false) [] .empty).toOption.isSome = true := by
    decide +kernel
  cases hcreate : create Pattern.compile (zeroSettings false) [] .empty with
  | error error =>
    rw [hcreate] at hsome
    cases hsome
  | ok s₀ =>
    have htell := signSteps_tell hcreate
    obtain ⟨hsame, hanswer, -, -⟩ :=
      answers_from_present signExpander hcreate signSteps htell (signFinal_mem s₀)
    exact ⟨s₀, rfl, htell, hsame, hanswer _⟩

/-- The switch is zero before and after, so the one in force stays as it was: the answer is not the
one with the very switches of the settings. -/
theorem zero_keeps_its_sign :
    ∃ s₀ s, create Pattern.compile (zeroSettings false) [] .empty = .ok s₀ ∧
      VersionsTell (states signExpander s₀ signSteps) ∧ s ∈ states signExpander s₀ signSteps ∧
      (entryFor (Invoke.ofFunction signExpander) (Url.ofFile ["a.ts"]) s).1 ≠
        fromScratch signExpander Pattern.compile
          ((Provider.Resolver.ofManifests (zeroSettings false).providers).bindAll [])
          s.settings.expand s.settings s.sources (Url.ofFile ["a.ts"]) := by
  have hanswer :
      ((create Pattern.compile (zeroSettings false) [] .empty).toOption.map fun s₀ =>
        (entryFor (Invoke.ofFunction signExpander) (Url.ofFile ["a.ts"]) (signFinal s₀)).1.map
          Entry.code) = some (some "0.0") := by
    decide +kernel
  have hscratch :
      ((create Pattern.compile (zeroSettings false) [] .empty).toOption.map fun s₀ =>
        (fromScratch signExpander Pattern.compile
          ((Provider.Resolver.ofManifests (zeroSettings false).providers).bindAll [])
          (signFinal s₀).settings.expand (signFinal s₀).settings (signFinal s₀).sources
          (Url.ofFile ["a.ts"])).map Entry.code) = some (some "-0.0") := by
    decide +kernel
  cases hcreate : create Pattern.compile (zeroSettings false) [] .empty with
  | error error =>
    rw [hcreate] at hanswer
    cases hanswer
  | ok s₀ =>
    refine ⟨s₀, signFinal s₀, rfl, signSteps_tell hcreate, signFinal_mem s₀, ?_⟩
    intro heq
    rw [hcreate] at hanswer hscratch
    simp only [Except.toOption, Option.map_some, heq] at hanswer hscratch
    rw [hanswer] at hscratch
    exact absurd hscratch (by decide)

end Session

end Palimpsest
