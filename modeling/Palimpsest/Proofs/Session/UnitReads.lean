import Palimpsest.Proofs.Session.Origin

/-!
# What is read of a unit

A unit is read after its owner was brought up to date. The owner may have been edited meanwhile,
may have lost its directives, may not be expanded any more as it was, or may be gone. In all these
cases but the last, what is read is what the present content of the owner gives.

1. `EntriesWanted`: no entry is kept for a file that is left alone because of its name.
2. `units_fetch`: what a fetch leaves under the name that belongs to the file.
3. `Sound.unit_of_readable`: the unit of an owner that can be read.
4. `unit_of_unreadable`: the unit of an owner that cannot be read stays as it is.
5. `unit_fresh_or_orphaned`: both, in every state of every run.

The last case is one that was missed: a unit outlives its owner (`deleted_owner_still_served`).
-/

namespace Palimpsest

open Expansion (Invoke Entry Request freshEntry)

/-! ## Units after a fetch -/

namespace Expansion

/-- A fetch leaves the units as they were, or brings that of the file in line with the entry. -/
theorem units_fetch (expander : Request → Expander.Reply) (s : Store) (file : Url)
    (content : String) (version : Version) :
    (fetch (Invoke.ofFunction expander) file content version s).2.units = s.units ∨
      ∀ name, (fetch (Invoke.ofFunction expander) file content version s).2.units.find? name =
        if name = Declaration.unitName file then
          (fetch (Invoke.ofFunction expander) file content version s).1.declarations.map fun text =>
            ⟨Declaration.unitName file, file, text,
              (fetch (Invoke.ofFunction expander) file content version s).1.version⟩
        else s.units.find? name := by
  have hbegun := s.begun file content version
  obtain ⟨entry, t, hbegin, hfetch⟩ | ⟨reply, t, hbegin, hcall, hfetch⟩ :=
    fetch_cases (Invoke.ofFunction expander) file content version s
  · rw [hbegin] at hbegun
    rw [hfetch]
    cases hbegun with
    | hit _ _ _ => exact Or.inl rfl
    | blank _ _ => exact Or.inr (s.units_publish file _)
    | reentered _ _ _ => exact Or.inl rfl
  · obtain ⟨rfl, rfl⟩ : expander (s.request file content) = reply ∧ s.opened file version = t := by
      simpa [Invoke.ofFunction] using hcall
    rw [hfetch]
    refine Or.inr fun name => ?_
    show ((s.opened file version).closed file content version _).units.find? name = _
    rw [Store.units_closed, Store.units_publish]
    rfl

theorem Store.UnitsLive.unit_fetch (expander : Request → Expander.Reply) {s : Store}
    (h : s.UnitsLive) {bundle : Declaration.Bundle} (hidle : bundle.owner ∉ s.running)
    (hbundle : s.units.find? (Declaration.unitName bundle.owner) = some bundle) (content : String)
    (version : Version) :
    (fetch (Invoke.ofFunction expander) bundle.owner content version s).2.units.find?
        (Declaration.unitName bundle.owner) =
      (fetch (Invoke.ofFunction expander) bundle.owner content version s).1.declarations.map
        fun text => ⟨Declaration.unitName bundle.owner, bundle.owner, text, version⟩ := by
  have hfetched := fetched expander hidle content version
  rcases units_fetch expander s bundle.owner content version with hsame | hwritten
  · -- The unit was there before, and so was the entry that it was made of.
    have hlive := invariant_unitsLive.toKept.fetch (Invoke.ofFunction expander)
      (fun _ _ hs => hs) bundle.owner content version h
    rw [hsame, hbundle]
    obtain ⟨hself, -, entry, hentry, hdeclarations, hversion⟩ :=
      hlive _ bundle (by rw [hsame]; exact hbundle)
    rw [hfetched.peek, if_pos rfl] at hentry
    obtain rfl := Option.some.inj hentry
    rw [hdeclarations, Option.map_some, ← hself, ← hfetched.version, hversion]
  · rw [hwritten, if_pos rfl, hfetched.version]

end Expansion

namespace Session

/-! ## Names of files with entries -/

/-- No entry is there for a file that has the name of an output or is excluded. -/
def EntriesWanted (s : Session) : Prop :=
  ∀ file entry, s.store.peek file = some entry →
    ¬(Declaration.isOutput file = true ∨ s.settings.Excludes file)

variable {expander : Request → Expander.Reply} {compile : Pattern.Compiler}
  {providers : Provider.Resolver} {seen : Url → Version → String → Prop} {s : Session}

theorem EntriesWanted.of_shrinks {t : Session} (h : s.EntriesWanted) (hshrinks : s.Shrinks t)
    (hsettings : t.settings = s.settings) : t.EntriesWanted := by
  intro file entry hentry
  rw [hsettings]
  rcases hshrinks.peek file with heq | hnone
  · exact h file entry (heq.symm.trans hentry)
  · rw [hnone] at hentry
    cases hentry

theorem EntriesWanted.entryFor (h : s.EntriesWanted)
    (hsound : s.Sound expander compile providers seen) (file : Url) :
    (Session.entryFor (Invoke.ofFunction expander) file s).2.EntriesWanted := by
  have hanswered := answered expander s file
  generalize Session.entryFor (Invoke.ofFunction expander) file s = result at hanswered
  cases hanswered with
  | named _ _ => exact h
  | unread _ _ => exact h
  | dropped content _ _ _ =>
    refine h.of_shrinks (s.shrinks_dropEntry file) ?_
    unfold dropEntry
    split
    · rfl
    · rfl
  | expanded content hname _ _ =>
    -- An entry is new for this file only, and its name was looked at before.
    intro other entry hentry
    rw [(hsound.fetchedNow file content).peek] at hentry
    split at hentry
    · rename_i hother
      rw [hother]
      exact (classOfName?_eq_none_iff hsound.units file).mp hname
    · exact h other entry hentry

theorem EntriesWanted.reload (h : s.EntriesWanted) (settings : Settings) :
    (s.reload settings).2.EntriesWanted := by
  unfold Session.reload
  cases settings.matcher s.compile with
  | error error => exact h
  | ok matcher =>
    intro file entry hentry
    rw [show (s.adopt settings matcher).store.peek file = none from
      Expansion.Store.peek_clear _ file] at hentry
    cases hentry

theorem EntriesWanted.apply (h : s.EntriesWanted) (hsound : s.Sound expander compile providers seen)
    (step : Step) : (step.apply expander s).EntriesWanted := by
  cases step with
  | edit file source => exact h
  | delete file => exact h
  | entryFor file => exact h.entryFor hsound file
  | hostContent file =>
    rw [Step.apply, state_hostContent]
    exact h.entryFor hsound (s.readTarget file)
  | hostVersion file =>
    rw [Step.apply, state_hostVersion]
    exact h.entryFor hsound (s.readTarget file)
  | close file => exact h.of_shrinks (s.shrinks_close file) rfl
  | reload settings => exact h.reload settings

theorem entriesWanted_of_mem_states (steps : List Step) (h : s.EntriesWanted)
    (hsound : ∀ t ∈ states expander s steps, t.Sound expander compile providers seen) :
    ∀ t ∈ states expander s steps, t.EntriesWanted := by
  induction steps generalizing s with
  | nil =>
    intro t ht
    rw [List.mem_singleton.mp ht]
    exact h
  | cons step rest ih =>
    intro t ht
    rcases List.mem_cons.mp ht with rfl | ht
    · exact h
    · refine ih (h.apply (hsound s List.mem_cons_self) step) ?_ t ht
      intro u hu
      exact hsound u (List.mem_cons_of_mem s hu)

/-! ## What is read -/

/-- **The unit of an owner that can be read** is what its present content gives. -/
theorem Sound.unit_of_readable (h : s.Sound expander compile providers seen) (htells : Tells seen s)
    (hwanted : s.EntriesWanted) {name : Url} {bundle : Declaration.Bundle}
    (hbundle : s.store.units.find? name = some bundle) {content : String}
    (hcontent : s.sources.content? bundle.owner = some content) :
    (hostContent (Invoke.ofFunction expander) name s).1 =
        (fromScratch expander compile providers s.store.options s.settings s.sources
          bundle.owner).bind Entry.declarations ∧
      (hostVersion (Invoke.ofFunction expander) name s).1 =
        ((fromScratch expander compile providers s.store.options s.settings s.sources
          bundle.owner).bind Entry.declarations).map fun _ =>
            (s.sources.versionOf bundle.owner content).withGeneration s.generation.toNat := by
  obtain ⟨-, hname, entry, hentry, -, -⟩ := h.units name bundle hbundle
  have hanswer := (h.answer htells bundle.owner).1
  rw [hostContent_of_unit _ hbundle, hostVersion_of_unit _ hbundle, ← hanswer]
  have hanswered := answered expander s bundle.owner
  generalize Session.entryFor (Invoke.ofFunction expander) bundle.owner s = result at hanswered
  cases hanswered with
  | named c hc =>
    -- The owner has an entry, so its name is not that of a file to leave alone.
    rw [(classOfName?_eq_none_iff h.units bundle.owner).mpr (hwanted _ _ hentry)] at hc
    cases hc
  | unread _ hnone =>
    rw [hnone] at hcontent
    cases hcontent
  | dropped _ _ _ _ =>
    rw [units_dropEntry, if_pos hname]
    exact ⟨rfl, rfl⟩
  | expanded present _ hpresent _ =>
    obtain rfl : content = present := by
      rw [hpresent] at hcontent
      exact (Option.some.inj hcontent).symm
    subst hname
    have hidle : bundle.owner ∉ s.store.running := by
      rw [h.idle]
      exact List.not_mem_nil
    have hunit := h.units.unit_fetch expander hidle hbundle content
      (s.sources.versionOf bundle.owner content)
    dsimp only [Session.fetched]
    rw [hunit, Option.map_map, Option.map_map]
    exact ⟨Option.map_id_apply, rfl⟩

theorem unit_of_unreadable (expander : Request → Expander.Reply) {name : Url}
    {bundle : Declaration.Bundle} (hbundle : s.store.units.find? name = some bundle)
    (hcontent : s.sources.content? bundle.owner = none) :
    (hostContent (Invoke.ofFunction expander) name s).1 = some bundle.content ∧
      (hostVersion (Invoke.ofFunction expander) name s).1 =
        some (bundle.version.withGeneration s.generation.toNat) := by
  have hstate : (Session.entryFor (Invoke.ofFunction expander) bundle.owner s).2 = s := by
    have hanswered := answered expander s bundle.owner
    generalize Session.entryFor (Invoke.ofFunction expander) bundle.owner s = result at hanswered
    cases hanswered with
    | named _ _ => rfl
    | unread _ _ => rfl
    | dropped _ _ hsome _ =>
      rw [hcontent] at hsome
      cases hsome
    | expanded _ _ hsome _ =>
      rw [hcontent] at hsome
      cases hsome
  rw [hostContent_of_unit _ hbundle, hostVersion_of_unit _ hbundle, hstate, hbundle]
  exact ⟨rfl, rfl⟩

/-- In a run in which versions tell contents apart, what any of its states shows does so, those to
come included. -/
theorem VersionsTell.tells {history : List Session} (h : VersionsTell history) {t : Session}
    (ht : t ∈ history) :
    Tells (fun file version content => ∃ a ∈ history, a.sources.Shows file version content) t := by
  refine ⟨fun file version content hshows => ⟨t, ht, hshows⟩, ?_⟩
  rintro file version content content' ⟨a, ha, hshows⟩ ⟨b, hb, hshows'⟩
  exact h a ha b hb file version content content' hshows hshows'

theorem eq_freshEntry_of_fromScratch {options : Expander.Options} {settings : Settings}
    {sources : Sources} {file : Url} {content : String} {entry : Entry}
    (hcontent : sources.content? file = some content)
    (h : fromScratch expander compile providers options settings sources file = some entry) :
    entry = freshEntry expander providers options file content
      (sources.versionOf file content) := by
  unfold fromScratch at h
  rw [hcontent] at h
  grind

/-- **A unit is what its owner is expanded to now, unless the owner cannot be read.** In every state
of every run in which a version of a file stands for one content, and for every unit that is there:

1. where the owner can be read, the text is the declarations that its present content gives, if it
   is to be expanded and gives any, and there is none otherwise;
2. so if there is a text, the owner is to be expanded, the text is the declarations of its fresh
   entry, and the version is that of the owner under the generation of the settings;
3. where the owner cannot be read, text and version are those of the unit as it was.

The switches in force are equal to those of the settings. -/
theorem unit_fresh_or_orphaned (expander : Request → Expander.Reply) {settings : Settings}
    {bindings : List (String × Provider.Binding)} {sources : Sources} {s₀ : Session}
    (hcreate : create compile settings bindings sources = .ok s₀) (steps : List Step)
    (htell : VersionsTell (states expander s₀ steps)) {s : Session}
    (hs : s ∈ states expander s₀ steps) {name : Url} {bundle : Declaration.Bundle}
    (hbundle : s.store.units.find? name = some bundle) :
    let providers := (Provider.Resolver.ofManifests settings.providers).bindAll bindings
    let text? := (hostContent (Invoke.ofFunction expander) name s).1
    let version? := (hostVersion (Invoke.ofFunction expander) name s).1
    s.store.options.same s.settings.expand = true ∧
      (∀ content, s.sources.content? bundle.owner = some content →
        let version := s.sources.versionOf bundle.owner content
        text? =
            (fromScratch expander compile providers s.store.options s.settings s.sources
              bundle.owner).bind Entry.declarations ∧
          (∀ text, text? = some text →
            s.isBypassed bundle.owner = false ∧
              (freshEntry expander providers s.store.options bundle.owner content
                version).declarations = some text) ∧
          version? = text?.map fun _ => version.withGeneration s.generation.toNat) ∧
      (s.sources.content? bundle.owner = none →
        text? = some bundle.content ∧
          version? = some (bundle.version.withGeneration s.generation.toNat)) := by
  intro providers text? version?
  have htells := fun (t : Session) (ht : t ∈ states expander s₀ steps) => htell.tells ht
  have hsounds := sound_of_mem_states steps (sound_create hcreate) htells
  have hsound := hsounds s hs
  have hwanted : s.EntriesWanted := by
    refine entriesWanted_of_mem_states steps ?_ hsounds s hs
    intro file entry hentry
    obtain ⟨_, _, -, rfl⟩ := create_eq_ok hcreate
    cases hentry
  refine ⟨hsound.options, ?_, fun hnone => unit_of_unreadable expander hbundle hnone⟩
  intro content hcontent version
  obtain ⟨htext, hversion⟩ := hsound.unit_of_readable (htells s hs) hwanted hbundle hcontent
  refine ⟨htext, ?_, ?_⟩
  · intro text hsome
    obtain ⟨entry, hentry, hdeclarations⟩ := Option.bind_eq_some_iff.mp (htext.symm.trans hsome)
    have hanswer := (hsound.answer (htells s hs) bundle.owner).1
    have hbypassed : s.isBypassed bundle.owner = false := by
      rw [← Bool.not_eq_true, ← entryFor_eq_none_iff (Invoke.ofFunction expander), hanswer, hentry]
      simp
    rw [eq_freshEntry_of_fromScratch hcontent hentry] at hdeclarations
    exact ⟨hbypassed, hdeclarations⟩
  · rw [show text? = _ from htext]
    exact hversion

/-! A file that is edited after it was expanded, and one that is deleted. -/

/-- The expander that gives the source as declarations. -/
def echoExpander : Request → Expander.Reply := fun request =>
  .output ⟨request.source, some request.source, [], none⟩

/-- A file with a directive comes and is expanded, and then something happens to it. -/
def ownerSteps (last : Step) : List Step :=
  [.edit (Url.ofFile ["a.ts"]) ⟨some "@derive(A)", some ⟨"1"⟩⟩, .entryFor (Url.ofFile ["a.ts"]),
    last]

def ownerFinal (last : Step) (s₀ : Session) : Session :=
  (ownerSteps last).foldl (Step.apply echoExpander) s₀

theorem ownerFinal_mem (last : Step) (s₀ : Session) :
    ownerFinal last s₀ ∈ states echoExpander s₀ (ownerSteps last) := by
  simp [ownerFinal, ownerSteps, states]

theorem versionsTell_of_meaning {history : List Session} (meaning : Version → String)
    (h : ∀ s ∈ history, ∀ file version content, s.sources.Shows file version content →
      content = meaning version) : VersionsTell history := by
  intro a ha b hb file version content content' hshows hshows'
  rw [h a ha file version content hshows, h b hb file version content' hshows']

/-- The edit that gives the file another content and another version. -/
def ownerEdit : Step := .edit (Url.ofFile ["a.ts"]) ⟨some "@derive(B)", some ⟨"2"⟩⟩

/-- The first version of the file means one content, and any other the other. -/
def ownerMeaning (version : Version) : String :=
  if version = ⟨"1"⟩ then "@derive(A)" else "@derive(B)"

theorem ownerSteps_tell {s₀ : Session}
    (hcreate : create Pattern.compile Settings.default [] .empty = .ok s₀)
    {last : Step} (hlast : last = ownerEdit ∨ last = .delete (Url.ofFile ["a.ts"])) :
    VersionsTell (states echoExpander s₀ (ownerSteps last)) := by
  have hbefore : s₀.sources = .empty := by
    obtain ⟨_, _, -, rfl⟩ := create_eq_ok hcreate
    rfl
  have hafter : ∀ {a : Session} {text : String} {known : Version} {file : Url}
      {old : Sources}, a.sources = old.insert (Url.ofFile ["a.ts"]) ⟨some text, some known⟩ →
      (∀ version content, old.Shows file version content → content = ownerMeaning version) →
      text = ownerMeaning known →
      ∀ version content, a.sources.Shows file version content → content = ownerMeaning version := by
    intro a text known file old ha hold hknown version content hshows
    rw [ha] at hshows
    unfold Sources.Shows Sources.versionOf Sources.content? Sources.version? at hshows hold
    rw [Table.find?_insert] at hshows
    by_cases hfile : file = Url.ofFile ["a.ts"]
    · rw [if_pos hfile] at hshows
      obtain ⟨rfl, rfl⟩ : text = content ∧ known = version := by simpa using hshows
      exact hknown
    · rw [if_neg hfile] at hshows
      exact hold version content hshows
  have hempty : ∀ file version content, s₀.sources.Shows file version content →
      content = ownerMeaning version := by
    intro file version content hshows
    have hcontent := hshows.1
    rw [hbefore] at hcontent
    cases hcontent
  apply versionsTell_of_meaning ownerMeaning
  intro a ha
  simp only [ownerSteps, states, List.mem_cons, List.not_mem_nil, or_false] at ha
  rcases ha with rfl | rfl | rfl | rfl
  · exact hempty
  · exact fun file => hafter rfl (hempty file) rfl
  · exact fun file => hafter (sources_entryFor echoExpander _ _) (hempty file) rfl
  · intro file
    rcases hlast with rfl | rfl
    · refine hafter rfl (hafter (sources_entryFor echoExpander _ _) (hempty file) rfl) (by decide)
    · intro version content hshows
      have hcontent := hshows.1
      rw [show (Step.apply echoExpander _ (.delete (Url.ofFile ["a.ts"]))).sources =
        (s₀.sources.insert (Url.ofFile ["a.ts"]) ⟨some "@derive(A)", some ⟨"1"⟩⟩).erase
          (Url.ofFile ["a.ts"]) from
        congrArg (Table.erase · (Url.ofFile ["a.ts"])) (sources_entryFor echoExpander _ _),
        hbefore, Sources.content?, Table.find?_erase] at hcontent
      split at hcontent
      · cases hcontent
      · rw [Table.find?_insert, if_neg ‹_›] at hcontent
        cases hcontent

theorem ownerFinal_reads :
    ∃ s₀, create Pattern.compile Settings.default [] .empty = .ok s₀ ∧
      (ownerFinal ownerEdit s₀).store.units.find? (Url.ofFile ["a.expanded.d.ts"]) =
        some ⟨Url.ofFile ["a.expanded.d.ts"], Url.ofFile ["a.ts"], "@derive(A)", ⟨"1"⟩⟩ ∧
      (hostContent (Invoke.ofFunction echoExpander) (Url.ofFile ["a.expanded.d.ts"])
        (ownerFinal ownerEdit s₀)).1 = some "@derive(B)" ∧
      (hostContent (Invoke.ofFunction echoExpander) (Url.ofFile ["a.expanded.d.ts"])
        (ownerFinal (.delete (Url.ofFile ["a.ts"])) s₀)).1 = some "@derive(A)" := by
  have hreads :
      ((create Pattern.compile Settings.default [] .empty).toOption.map fun s₀ =>
        let read := fun last =>
          (hostContent (Invoke.ofFunction echoExpander) (Url.ofFile ["a.expanded.d.ts"])
            (ownerFinal last s₀)).1
        ((ownerFinal ownerEdit s₀).store.units.find? (Url.ofFile ["a.expanded.d.ts"]),
          read ownerEdit, read (.delete (Url.ofFile ["a.ts"])))) =
        some (some ⟨Url.ofFile ["a.expanded.d.ts"], Url.ofFile ["a.ts"], "@derive(A)", ⟨"1"⟩⟩,
          some "@derive(B)", some "@derive(A)") := by
    decide +kernel
  cases hcreate : create Pattern.compile Settings.default [] .empty with
  | error error =>
    rw [hcreate] at hreads
    cases hreads
  | ok s₀ =>
    rw [hcreate] at hreads
    obtain ⟨hunit, hrest⟩ := Prod.mk.inj (Option.some.inj hreads)
    obtain ⟨hedited, hdeleted⟩ := Prod.mk.inj hrest
    exact ⟨s₀, rfl, hunit, hedited, hdeleted⟩

/-- After the edit the unit is what the new content of its owner is expanded to. -/
theorem ownerFinal_fresh :
    ∃ s₀, create Pattern.compile Settings.default [] .empty = .ok s₀ ∧
      VersionsTell (states echoExpander s₀ (ownerSteps ownerEdit)) ∧
      (ownerFinal ownerEdit s₀).sources.content? (Url.ofFile ["a.ts"]) = some "@derive(B)" ∧
      (hostContent (Invoke.ofFunction echoExpander) (Url.ofFile ["a.expanded.d.ts"])
        (ownerFinal ownerEdit s₀)).1 = some "@derive(B)" ∧
      (freshEntry echoExpander
        ((Provider.Resolver.ofManifests Settings.default.providers).bindAll [])
        (ownerFinal ownerEdit s₀).store.options (Url.ofFile ["a.ts"]) "@derive(B)"
        ((ownerFinal ownerEdit s₀).sources.versionOf (Url.ofFile ["a.ts"])
          "@derive(B)")).declarations = some "@derive(B)" := by
  obtain ⟨s₀, hcreate, hunit, hedited, -⟩ := ownerFinal_reads
  have htell := ownerSteps_tell hcreate (Or.inl rfl)
  have hcontent :
      (ownerFinal ownerEdit s₀).sources.content? (Url.ofFile ["a.ts"]) = some "@derive(B)" := by
    refine (congrArg (Option.bind · Source.content) (Table.find?_insert _ _ _ _)).trans ?_
    rw [if_pos rfl]
    rfl
  obtain ⟨-, hreadable, -⟩ := unit_fresh_or_orphaned echoExpander hcreate (ownerSteps ownerEdit)
    htell (ownerFinal_mem ownerEdit s₀) hunit
  obtain ⟨-, hfresh, -⟩ := hreadable _ hcontent
  exact ⟨s₀, hcreate, htell, hcontent, hedited, (hfresh _ hedited).2⟩

/-- The owner is gone, and its unit is served as it was. -/
theorem deleted_owner_still_served :
    ∃ s₀ s, create Pattern.compile Settings.default [] .empty = .ok s₀ ∧
      VersionsTell (states echoExpander s₀ (ownerSteps (.delete (Url.ofFile ["a.ts"])))) ∧
      s ∈ states echoExpander s₀ (ownerSteps (.delete (Url.ofFile ["a.ts"]))) ∧
      s.sources.content? (Url.ofFile ["a.ts"]) = none ∧
      (hostContent (Invoke.ofFunction echoExpander) (Url.ofFile ["a.expanded.d.ts"]) s).1 =
        some "@derive(A)" := by
  obtain ⟨s₀, hcreate, -, -, hdeleted⟩ := ownerFinal_reads
  refine ⟨s₀, _, hcreate, ownerSteps_tell hcreate (Or.inr rfl), ownerFinal_mem _ s₀, ?_, hdeleted⟩
  refine (congrArg (Option.bind · Source.content) (Table.find?_erase _ _ _)).trans ?_
  rw [if_pos rfl]
  rfl

end Session

end Palimpsest
