import Palimpsest.Proofs.Session.Locations
import Palimpsest.Proofs.Session.UnitReads

/-!
# Reading twice

To read a file is not without effect: it may expand the file or the owner of the unit that it is,
drop an entry, and make or take away units. Whoever reads a file again, with nothing changed
meanwhile, should still be told the same.

1. `fetch_again`: a second fetch finds what the first one left.
2. `InLine.units_again`: bringing a file up to date a second time changes no unit.
3. `ReadsBy`: what texts and versions have in common, so that both are settled at once.
4. `Fades`: reading a unit takes it away, and `fades_iff`: when that is.
5. `ReadsBy.again`: what does not fade is read alike, and does not fade afterwards either.
6. `reads_repeat_unless_fading`: all of it, in every session and for every file.

One case was missed. What is read of a unit is settled by the registry even where the unit has just
been taken away, and is read as the file of that name the next time (`faded_unit_read_as_file`).
-/

namespace Palimpsest

open Expansion (Invoke Entry Request)

/-! ## A second fetch -/

namespace Expansion

/-- **A second fetch is noted and nothing else.** The entry is there by now, or the expander is still
at work on the file. -/
theorem fetch_again (expander : Request → Expander.Reply) (s : Store) (file : Url)
    (content : String) (version : Version) :
    let first := fetch (Invoke.ofFunction expander) file content version s
    ∃ e, fetch (Invoke.ofFunction expander) file content version first.2 =
      (first.1, first.2.note e) := by
  intro first
  have hhit : first.2.peek file = some first.1 → ∃ e,
      fetch (Invoke.ofFunction expander) file content version first.2 =
        (first.1, first.2.note e) := by
    intro hpeek
    have hversion : first.1.version = version :=
      (after_fetch expander s file content version).version
    have hcurrent := Store.current?_eq_some_iff.mpr ⟨hpeek, hversion⟩
    refine ⟨.hit file version, ?_⟩
    simp only [fetch, HasStore.store, HasStore.setStore, id, Store.begin, hcurrent]
  by_cases hidle : file ∈ s.running
  · have hbegun := s.begun file content version
    obtain ⟨entry, t, hbegin, hfetch⟩ | ⟨reply, t, hbegin, -, -⟩ :=
      fetch_cases (Invoke.ofFunction expander) file content version s
    · have hfirst : first = (entry, t) := hfetch
      rw [hfirst] at hhit ⊢
      rw [hbegin] at hbegun
      cases hbegun with
      | hit _ hentry _ => exact hhit hentry
      | blank _ _ => exact hhit ((s.peek_publish file _ file).trans (if_pos rfl))
      | reentered hmiss hblank hrunning =>
        -- Nothing has changed, so the same is worked out once more.
        refine ⟨.reentered file version, ?_⟩
        have hmiss' : (s.note (.reentered file version)).current? file version = none := hmiss
        have hbusy : (s.note (.reentered file version)).isRunning file = true :=
          List.contains_iff_mem.mpr hrunning
        simp only [fetch, HasStore.store, HasStore.setStore, id, Store.begin, hmiss', hblank, hbusy]
        rfl
    · rw [hbegin] at hbegun
      cases hbegun with
      | call _ _ hnot => exact absurd hidle hnot
  · exact hhit (((fetched expander hidle content version).peek file).trans (if_pos rfl))

end Expansion

namespace Session

variable {compile : Pattern.Compiler} {expander : Request → Expander.Reply} {s : Session}

theorem InLine.refreshed_entryFor (h : s.InLine compile) (expander : Request → Expander.Reply)
    (file : Url) : Refreshed compile expander s (entryFor (Invoke.ofFunction expander) file s).2 :=
  (Refreshed.refl h).entryFor h file

theorem InLine.answer_again (h : s.InLine compile) (expander : Request → Expander.Reply)
    (file : Url) :
    (entryFor (Invoke.ofFunction expander) file
        (entryFor (Invoke.ofFunction expander) file s).2).1 =
      (entryFor (Invoke.ofFunction expander) file s).1 :=
  (h.refreshed_entryFor expander file).answer h file

/-- **Bringing a file up to date a second time changes no unit.** -/
theorem InLine.units_again (h : s.InLine compile) (expander : Request → Expander.Reply)
    (file name : Url) :
    (entryFor (Invoke.ofFunction expander) file
        (entryFor (Invoke.ofFunction expander) file s).2).2.store.units.find? name =
      (entryFor (Invoke.ofFunction expander) file s).2.store.units.find? name := by
  have hrefreshed := h.refreshed_entryFor expander file
  have hsame := h.wanted?_congr hrefreshed.inLine hrefreshed.present file
  cases hwanted : s.wanted? file with
  | some wanted =>
    obtain ⟨content, version⟩ := wanted
    rw [hwanted] at hsame
    rw [entryFor_of_wanted _ hsame, entryFor_of_wanted _ hwanted, fetch_session, fetch_session]
    obtain ⟨e, hagain⟩ := Expansion.fetch_again expander s.store file content version
    show (Expansion.fetch _ file content version
      (Expansion.fetch _ file content version s.store).2).2.units.find? name = _
    rw [hagain]
    rfl
  | none =>
    rw [hwanted] at hsame
    rcases entryFor_of_unwanted (Invoke.ofFunction expander) hwanted with heq | heq
    · rw [heq, heq]
    · rw [heq] at hsame ⊢
      rcases entryFor_of_unwanted (Invoke.ofFunction expander) hsame with heq' | heq'
      · rw [heq']
      · rw [heq', units_dropEntry, units_dropEntry]
        split
        · rfl
        · rfl

theorem classOfName?_of_output {file : Url} (hfile : s.store.units.find? file = none)
    (houtput : Declaration.isOutput file = true) : s.classOfName? file = some .expanderOutput := by
  unfold classOfName?
  rw [if_neg (by simp [Table.contains, hfile]), if_pos houtput]

theorem InLine.not_unit_entryFor (h : s.InLine compile) (expander : Request → Expander.Reply)
    {file : Url} (hfile : s.store.units.find? file = none) :
    (entryFor (Invoke.ofFunction expander) file s).2.store.units.find? file = none := by
  cases hunit : (entryFor (Invoke.ofFunction expander) file s).2.store.units.find? file with
  | none => rfl
  | some unit =>
    -- A unit has the name of an output, and with such a name nothing is done at all.
    have hrefreshed := h.refreshed_entryFor expander file
    have houtput := hrefreshed.inLine.isOutput_of_unit (by rw [Table.contains, hunit]; rfl)
    rw [entryFor_of_named _ (classOfName?_of_output hfile houtput), hfile] at hunit
    cases hunit

/-! ## Texts and versions -/

/-- Something is read of a file as its text and its version are: of the unit after its owner was
brought up to date, or of the entry of the file, or of its source where there is none. -/
structure ReadsBy {α : Type} (expander : Request → Expander.Reply)
    (read : Url → StateM Session (Option α)) (ofUnit : UInt64 → Declaration.Bundle → α)
    (ofEntry : UInt64 → Entry → α) (plain : Sources → Url → Option α) : Prop where
  unit : ∀ {s : Session} {file : Url} {bundle : Declaration.Bundle},
    s.store.units.find? file = some bundle →
    let t := (entryFor (Invoke.ofFunction expander) bundle.owner s).2
    read file s = ((t.store.units.find? file).map (ofUnit t.generation), t)
  file : ∀ {s : Session} {file : Url}, s.store.units.find? file = none →
    let found := entryFor (Invoke.ofFunction expander) file s
    read file s =
      ((found.1.map (ofEntry found.2.generation)).or (plain found.2.sources file), found.2)

theorem readsBy_hostContent (expander : Request → Expander.Reply) :
    ReadsBy expander (hostContent (Invoke.ofFunction expander)) (fun _ unit => unit.content)
      (fun _ entry => entry.code) Sources.content? :=
  ⟨fun h => hostContent_of_unit _ h, fun h => hostContent_of_file _ h⟩

theorem readsBy_hostVersion (expander : Request → Expander.Reply) :
    ReadsBy expander (hostVersion (Invoke.ofFunction expander))
      (fun generation unit => unit.version.withGeneration generation.toNat)
      (fun generation entry => entry.version.withGeneration generation.toNat) Sources.version? :=
  ⟨fun h => hostVersion_of_unit _ h, fun h => hostVersion_of_file _ h⟩

/-- The file is a unit, and reading it takes it away. -/
def Fades (expander : Request → Expander.Reply) (s : Session) (file : Url) : Prop :=
  ∃ bundle, s.store.units.find? file = some bundle ∧
    (entryFor (Invoke.ofFunction expander) bundle.owner s).2.store.units.find? file = none

/-- A unit fades if its owner can be read and is not one of the files to leave alone for their
names, and gives no declarations any more. -/
theorem InLine.fades_iff (h : s.InLine compile) {file : Url} {bundle : Declaration.Bundle}
    (hbundle : s.store.units.find? file = some bundle) (hidle : bundle.owner ∉ s.store.running) :
    s.Fades expander file ↔
      s.classOfName? bundle.owner = none ∧ s.sources.content? bundle.owner ≠ none ∧
        (entryFor (Invoke.ofFunction expander) bundle.owner s).1.bind Entry.declarations =
          none := by
  obtain ⟨-, rfl, -⟩ := h.units file bundle hbundle
  have hdef : s.Fades expander (Declaration.unitName bundle.owner) ↔
      (entryFor (Invoke.ofFunction expander) bundle.owner s).2.store.units.find?
        (Declaration.unitName bundle.owner) = none := by
    constructor
    · rintro ⟨other, hother, hnone⟩
      rw [hbundle] at hother
      rwa [← Option.some.inj hother] at hnone
    · exact fun hnone => ⟨bundle, hbundle, hnone⟩
  rw [hdef]
  have hanswered := answered expander s bundle.owner
  generalize entryFor (Invoke.ofFunction expander) bundle.owner s = result at hanswered
  cases hanswered with
  | named c hname => simp [hname, hbundle]
  | unread _ hcontent => simp [hcontent, hbundle]
  | dropped content hname hcontent _ => simp [hname, hcontent, units_dropEntry]
  | expanded content hname hcontent _ =>
    have hunit := h.units.unit_fetch expander hidle hbundle content
      (s.sources.versionOf bundle.owner content)
    dsimp only [Session.fetched]
    simp [hunit, hname, hcontent]

/-- The session after a file has been read that many times. -/
def readTimes {α : Type} (read : StateM Session α) : Nat → Session → Session
  | 0, s => s
  | n + 1, s => readTimes read n (read s).2

/-- What comes of reading again and again. -/
structure Repeats {α : Type} (read : StateM Session (Option α)) (fades : Prop) (plain : Option α)
    (s : Session) : Prop where
  /-- The second time tells something else only where a unit fades that hides a source. -/
  second : (read (readTimes read 1 s)).1 ≠ (read s).1 ↔ fades ∧ plain ≠ none
  faded : fades → (read s).1 = none ∧ (read (readTimes read 1 s)).1 = plain
  later : ∀ n, (read (readTimes read (n + 1) s)).1 = (read (readTimes read 1 s)).1

namespace ReadsBy

variable {α : Type} {read : Url → StateM Session (Option α)}
  {ofUnit : UInt64 → Declaration.Bundle → α} {ofEntry : UInt64 → Entry → α}
  {plain : Sources → Url → Option α} {file : Url}

theorem state (h : ReadsBy expander read ofUnit ofEntry plain) (s : Session) (file : Url) :
    (read file s).2 = (entryFor (Invoke.ofFunction expander) (s.readTarget file) s).2 := by
  unfold readTarget
  cases hunit : s.store.units.find? file with
  | some bundle => rw [h.unit hunit]
  | none => rw [h.file hunit]

theorem refreshed (h : ReadsBy expander read ofUnit ofEntry plain) (hs : s.InLine compile)
    (file : Url) : Refreshed compile expander s (read file s).2 := by
  rw [h.state]
  exact hs.refreshed_entryFor expander (s.readTarget file)

/-- **What does not fade is read alike**, and does not fade afterwards either. -/
theorem again (h : ReadsBy expander read ofUnit ofEntry plain) (hs : s.InLine compile)
    (hstays : ¬ s.Fades expander file) :
    (read file (read file s).2).1 = (read file s).1 ∧ ¬ (read file s).2.Fades expander file := by
  have hgeneration : ∀ (t : Session) (target : Url),
      (entryFor (Invoke.ofFunction expander) target t).2.generation = t.generation :=
    fun t target => (sameTerms_perform expander t (.entryFor target)).generation
  cases hunit : s.store.units.find? file with
  | none =>
    have hafter := hs.not_unit_entryFor expander hunit
    rw [h.file hunit]
    constructor
    · rw [h.file hafter, hs.answer_again, hgeneration, sources_entryFor]
    · rintro ⟨bundle, hbundle, -⟩
      rw [hafter] at hbundle
      cases hbundle
  | some bundle =>
    rw [h.unit hunit]
    cases hafter : (entryFor (Invoke.ofFunction expander) bundle.owner s).2.store.units.find?
        file with
    | none => exact absurd ⟨bundle, hunit, hafter⟩ hstays
    | some unit =>
      -- The unit still has the same owner, for whom nothing more happens.
      have howner := owner_entryFor hs.units hunit hafter
      have hagain := hs.units_again expander bundle.owner file
      constructor
      · rw [h.unit hafter, howner, hagain, hafter, hgeneration]
      · rintro ⟨other, hother, hnone⟩
        rw [hafter] at hother
        rw [← Option.some.inj hother, howner, hagain, hafter] at hnone
        cases hnone

/-- A unit that fades is read as nothing, and then as the source of that name, if there is one. -/
theorem of_fades (h : ReadsBy expander read ofUnit ofEntry plain) (hs : s.InLine compile)
    (hfades : s.Fades expander file) :
    (read file s).1 = none ∧ (read file (read file s).2).1 = plain s.sources file ∧
      ¬ (read file s).2.Fades expander file := by
  obtain ⟨bundle, hunit, hgone⟩ := hfades
  have houtput := hs.isOutput_of_unit (by rw [Table.contains, hunit]; rfl)
  rw [h.unit hunit, hgone]
  refine ⟨rfl, ?_, ?_⟩
  · rw [h.file hgone, entryFor_of_named _ (classOfName?_of_output hgone houtput), sources_entryFor]
    rfl
  · rintro ⟨other, hother, -⟩
    rw [hgone] at hother
    cases hother

theorem all_alike (h : ReadsBy expander read ofUnit ofEntry plain) (hs : s.InLine compile)
    (hstays : ¬ s.Fades expander file) (n : Nat) :
    (read file (readTimes (read file) n s)).1 = (read file s).1 := by
  induction n generalizing s with
  | zero => rfl
  | succ n ih =>
    obtain ⟨hagain, hstill⟩ := h.again hs hstays
    exact (ih (h.refreshed hs file).inLine hstill).trans hagain

theorem repeats (h : ReadsBy expander read ofUnit ofEntry plain) (hs : s.InLine compile)
    (file : Url) :
    Repeats (read file) (s.Fades expander file) (plain s.sources file) s := by
  have hlater : ¬ (read file s).2.Fades expander file := by
    by_cases hfades : s.Fades expander file
    · exact (h.of_fades hs hfades).2.2
    · exact (h.again hs hfades).2
  refine ⟨?_, ?_, ?_⟩
  · show (read file (read file s).2).1 ≠ (read file s).1 ↔ _
    by_cases hfades : s.Fades expander file
    · obtain ⟨hfirst, hsecond, -⟩ := h.of_fades hs hfades
      rw [hfirst, hsecond]
      simp [hfades]
    · rw [(h.again hs hfades).1]
      simp [hfades]
  · intro hfades
    obtain ⟨hfirst, hsecond, -⟩ := h.of_fades hs hfades
    exact ⟨hfirst, hsecond⟩
  · intro n
    exact h.all_alike (h.refreshed hs file).inLine hlater n

end ReadsBy

/-- **Reading a file again tells the same, unless it is a unit that fades.** In every session on the
way through a work that begins with a new one, for every expander that looks at its request only and
for every file, the same for texts and for versions:

1. the second time tells something else exactly if the file is a unit that fades and a source of
   the same name has something to tell;
2. then the first time tells nothing, and the second time what the source has;
3. from the second time on it is always the same;
4. a unit whose owner is not being expanded fades exactly if the owner can be read, is not left alone
   for its name, and gives no declarations any more. -/
theorem reads_repeat_unless_fading {settings : Settings}
    {bindings : List (String × Provider.Binding)} {sources : Sources} {s₀ s : Session}
    (hcreate : create compile settings bindings sources = .ok s₀) {client : Work}
    (hs : client.Reaches s₀ s) (expander : Request → Expander.Reply) (file : Url) :
    Repeats (hostContent (Invoke.ofFunction expander) file) (s.Fades expander file)
        (s.sources.content? file) s ∧
      Repeats (hostVersion (Invoke.ofFunction expander) file) (s.Fades expander file)
        (s.sources.version? file) s ∧
      ∀ bundle, s.store.units.find? file = some bundle → bundle.owner ∉ s.store.running →
        (s.Fades expander file ↔
          s.classOfName? bundle.owner = none ∧ s.sources.content? bundle.owner ≠ none ∧
            (entryFor (Invoke.ofFunction expander) bundle.owner s).1.bind Entry.declarations =
              none) := by
  have hline : s.InLine compile := (inLine_create hcreate).reaches hs
  exact ⟨(readsBy_hostContent expander).repeats hline file,
    (readsBy_hostVersion expander).repeats hline file,
    fun bundle hbundle hidle => hline.fades_iff hbundle hidle⟩

/-- The unit of an owner that stays as it is tells its declarations however often it is read. -/
theorem sampleClient_repeats :
    ∃ s₀ s, create Pattern.compile Settings.default [] .empty = .ok s₀ ∧ sampleClient.Reaches s₀ s ∧
      s.store.units.contains (Url.ofFile ["a.expanded.d.ts"]) = true ∧
      ∀ n, (hostContent (Invoke.ofFunction fun _ => .failed "") (Url.ofFile ["a.expanded.d.ts"])
        (readTimes (hostContent (Invoke.ofFunction fun _ => .failed "")
          (Url.ofFile ["a.expanded.d.ts"])) (n + 1) s)).1 = some "d" := by
  have hafter :
      ((create Pattern.compile Settings.default [] .empty).toOption.map fun s₀ =>
        let s := (sampleClient.run s₀).2
        let read := hostContent (Invoke.ofFunction fun _ => .failed "")
          (Url.ofFile ["a.expanded.d.ts"])
        (s.store.units.contains (Url.ofFile ["a.expanded.d.ts"]),
          (read (readTimes read 1 s)).1)) = some (true, some "d") := by
    decide +kernel
  cases hcreate : create Pattern.compile Settings.default [] .empty with
  | error error =>
    rw [hcreate] at hafter
    cases hafter
  | ok s₀ =>
    rw [hcreate] at hafter
    obtain ⟨hunit, hsecond⟩ := Prod.mk.inj (Option.some.inj hafter)
    have hreach := sampleClient.reaches_run s₀
    have htexts := (reads_repeat_unless_fading hcreate hreach (fun _ => .failed "")
      (Url.ofFile ["a.expanded.d.ts"])).1
    exact ⟨s₀, _, rfl, hreach, hunit, fun n => (htexts.later n).trans hsecond⟩

/-- A file with a directive comes, and a source that has the name of its unit. The file is read, so
that the unit is there, and then loses its directive. -/
def fadingClient : Work :=
  .alter (.edit (Url.ofFile ["a.ts"]) ⟨some "@derive(A)", some ⟨"1"⟩⟩)
    (.alter (.edit (Url.ofFile ["a.expanded.d.ts"]) ⟨some "real", some ⟨"7"⟩⟩)
      (.ask (.hostContent (Url.ofFile ["a.ts"]))
        (fun _ => .reply (.output ⟨"x", some "d", [], none⟩))
        fun _ => .alter (.edit (Url.ofFile ["a.ts"]) ⟨some "plain", some ⟨"2"⟩⟩)
          (.reply (.failed ""))))

/-- The unit has gone when it is looked up, but nothing is read of the source that has its name. The
next time the source is read. -/
theorem faded_unit_read_as_file :
    ∃ s₀ s, create Pattern.compile Settings.default [] .empty = .ok s₀ ∧ fadingClient.Reaches s₀ s ∧
      let text := hostContent (Invoke.ofFunction fun _ => .failed "")
        (Url.ofFile ["a.expanded.d.ts"])
      let version := hostVersion (Invoke.ofFunction fun _ => .failed "")
        (Url.ofFile ["a.expanded.d.ts"])
      (text s).1 = none ∧ (text (text s).2).1 = some "real" ∧
        (version s).1 = none ∧ (version (version s).2).1 = some ⟨"7"⟩ := by
  have hafter :
      ((create Pattern.compile Settings.default [] .empty).toOption.map fun s₀ =>
        let s := (fadingClient.run s₀).2
        let text := hostContent (Invoke.ofFunction fun _ => .failed "")
          (Url.ofFile ["a.expanded.d.ts"])
        let version := hostVersion (Invoke.ofFunction fun _ => .failed "")
          (Url.ofFile ["a.expanded.d.ts"])
        ((text s).1, (text (text s).2).1, (version s).1, (version (version s).2).1)) =
        some (none, some "real", none, some ⟨"7"⟩) := by
    decide +kernel
  cases hcreate : create Pattern.compile Settings.default [] .empty with
  | error error =>
    rw [hcreate] at hafter
    cases hafter
  | ok s₀ =>
    rw [hcreate] at hafter
    obtain ⟨hfirst, hrest⟩ := Prod.mk.inj (Option.some.inj hafter)
    obtain ⟨hsecond, hrest⟩ := Prod.mk.inj hrest
    obtain ⟨hversion, hversion'⟩ := Prod.mk.inj hrest
    exact ⟨s₀, _, rfl, fadingClient.reaches_run s₀, hfirst, hsecond, hversion, hversion'⟩

end Session

end Palimpsest
