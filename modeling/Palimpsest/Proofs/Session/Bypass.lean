import Palimpsest.Proofs.Session.Present
import Palimpsest.Proofs.Session.Runs

/-!
# Which files are left alone

A session decides twice whether a file is left alone: when it is asked, and again when it brings the
expansion of the file up to date. Both decisions look at the units that there are at the moment,
and every expansion changes those. Still the two agree, and what they say depends on nothing but
the sources and the settings: the name of every unit is that of an output, so that a unit is left
alone whether it is there or not.

1. `isBypassed_eq`: the two decisions are one.
2. `InLine`: what holds of a session whatever expanders do with it.
3. `isBypassed_iff`: the decision in terms of sources and settings.
4. `bypass_settled`: all of it, for every session on the way through every work.
-/

namespace Palimpsest

open Expansion (Invoke Entry Request)

/-- The file has the name of an output, or the settings exclude it, or there is no directive to be
read in it. -/
def Settings.Bypasses (compile : Pattern.Compiler) (settings : Settings) (sources : Sources)
    (file : Url) : Prop :=
  Declaration.isOutput file = true ∨ settings.Excludes file ∨
    ∀ matcher content, settings.matcher compile = .ok matcher →
      sources.content? file = some content → matcher content = false

namespace Session

variable {compile : Pattern.Compiler}

/-! ## One decision -/

theorem isBypassed_eq (s : Session) (file : Url) : s.isBypassed file = (s.wanted? file).isNone := by
  unfold isBypassed wanted? classify
  cases s.classOfName? file with
  | some c => rfl
  | none =>
    cases s.sources.content? file with
    | none => rfl
    | some content =>
      cases hmatch : s.matcher content with
      | true => simp [hmatch, FileClass.isBypassed]
      | false => simp [hmatch, FileClass.isBypassed]

theorem entryFor_eq_none_iff (invoke : Invoke Session) (s : Session) (file : Url) :
    (entryFor invoke file s).1 = none ↔ s.isBypassed file = true := by
  rw [isBypassed_eq]
  cases hwanted : s.wanted? file with
  | some wanted =>
    rw [entryFor_of_wanted invoke hwanted]
    simp
  | none =>
    rcases entryFor_of_unwanted invoke hwanted with heq | heq
    · rw [heq]
      simp
    · rw [heq]
      simp

theorem entryFor_of_named (invoke : Invoke Session) {s : Session} {file : Url} {c : FileClass}
    (h : s.classOfName? file = some c) : entryFor invoke file s = (none, s) := by
  unfold entryFor
  rw [current_bind, h]
  rfl

/-! ## What holds whatever expanders do -/

/-- Units have their entries, and the pattern in use is that of the settings. -/
structure InLine (compile : Pattern.Compiler) (s : Session) : Prop where
  units : s.store.UnitsLive
  compiler : s.compile = compile
  matcher : s.settings.matcher compile = .ok s.matcher

theorem inLine_create {settings : Settings} {bindings : List (String × Provider.Binding)}
    {sources : Sources} {s : Session} (h : create compile settings bindings sources = .ok s) :
    s.InLine compile := by
  obtain ⟨matcher, journal, hmatcher, rfl⟩ := create_eq_ok h
  have hunits := Expansion.Store.unitsLive_create
    ((Provider.Resolver.ofManifests settings.providers).bindAll bindings) settings.expand
  exact ⟨hunits, rfl, hmatcher⟩

theorem InLine.reload {s : Session} (h : s.InLine compile) (settings : Settings) :
    (s.reload settings).2.InLine compile := by
  unfold Session.reload
  rw [h.compiler]
  cases hmatcher : settings.matcher compile with
  | error error => exact h
  | ok matcher =>
    -- A note about providers changes neither entries nor units.
    have hnoted : (if settings.providers = s.settings.providers then s
        else s.note .providersChanged).store.UnitsLive := by
      split
      · exact h.units
      · exact h.units
    exact ⟨(hnoted.setOptions settings.expand).clear, h.compiler, hmatcher⟩

theorem InLine.dropEntry {s : Session} (h : s.InLine compile) (file : Url) :
    (dropEntry file s).InLine compile := by
  have hclosed := h.units.remove file
  unfold Session.dropEntry
  split
  · exact ⟨hclosed, h.compiler, h.matcher⟩
  · exact ⟨hclosed, h.compiler, h.matcher⟩

theorem kept_inLine : Kept (fun _ => True) (InLine compile) where
  change s change _ h := by
    cases change with
    | edit file source => exact ⟨h.units, h.compiler, h.matcher⟩
    | delete file => exact ⟨h.units, h.compiler, h.matcher⟩
    | close file => exact ⟨h.units.remove file, h.compiler, h.matcher⟩
    | reload settings => exact h.reload settings
    | clear => exact ⟨h.units.clear, h.compiler, h.matcher⟩
    | setOptions options => exact ⟨h.units.setOptions options, h.compiler, h.matcher⟩
  drop _ file h := h.dropEntry file
  begin s file content version h :=
    ⟨Expansion.Store.invariant_unitsLive.begin s.store file content version h.units, h.compiler,
      h.matcher⟩
  closed _ file content version reply h :=
    ⟨h.units.closed file content version reply, h.compiler, h.matcher⟩

theorem InLine.reaches {w : Work} {s t : Session} (h : s.InLine compile) (ht : w.Reaches s t) :
    t.InLine compile :=
  kept_inLine.reaches ht w.uses_any h

/-! ## Sources and settings decide -/

theorem InLine.isOutput_of_unit {s : Session} (h : s.InLine compile) {name : Url}
    (hname : s.store.units.contains name = true) : Declaration.isOutput name = true := by
  obtain ⟨unit, hunit⟩ := Option.isSome_iff_exists.mp hname
  obtain ⟨-, howner, -⟩ := h.units name unit hunit
  rw [howner]
  exact Declaration.isOutput_unitName unit.owner

theorem InLine.isBypassed_iff {s : Session} (h : s.InLine compile) (file : Url) :
    s.isBypassed file = true ↔ s.settings.Bypasses compile s.sources file := by
  have hname := classOfName?_eq_none_iff h.units file
  rw [isBypassed_eq, Option.isNone_iff_eq_none, Settings.Bypasses, ← or_assoc, h.matcher]
  unfold wanted?
  cases hclass : s.classOfName? file with
  | some c =>
    have hnamed : Declaration.isOutput file = true ∨ s.settings.Excludes file := by
      apply Decidable.byContradiction
      intro hnot
      rw [hname.mpr hnot] at hclass
      cases hclass
    simp [hnamed]
  | none =>
    have hunnamed := hname.mp hclass
    cases hcontent : s.sources.content? file with
    | none => simp
    | some content =>
      cases hmatch : s.matcher content with
      | true => simp [hmatch, hunnamed]
      | false => simp [hmatch]

/-- Changes of what a session keeps, which touch neither its sources nor its settings. -/
def Change.Quiet : Change → Prop
  | edit _ _ | delete _ | reload _ => False
  | close _ | clear | setOptions _ => True

/-- The two sessions have the same sources and settings. -/
structure SamePresent (s t : Session) : Prop where
  sources : t.sources = s.sources
  settings : t.settings = s.settings

theorem kept_samePresent (s : Session) : Kept Change.Quiet (SamePresent s) where
  change t change hquiet h := by
    cases change with
    | edit file source => cases hquiet
    | delete file => cases hquiet
    | close file => exact ⟨h.sources, h.settings⟩
    | reload settings => cases hquiet
    | clear => exact ⟨h.sources, h.settings⟩
    | setOptions options => exact ⟨h.sources, h.settings⟩
  drop t file h := by
    unfold dropEntry
    split
    · exact ⟨h.sources, h.settings⟩
    · exact ⟨h.sources, h.settings⟩
  begin _ _ _ _ h := ⟨h.sources, h.settings⟩
  closed _ _ _ _ _ h := ⟨h.sources, h.settings⟩

theorem classOfName?_of_expandable {s : Session} {file : Url} {content : String}
    (h : s.classify file content = .expandable) : s.classOfName? file = none := by
  cases hclass : s.classOfName? file with
  | none => rfl
  | some c =>
    obtain rfl : c = .expandable := by simpa [classify, hclass] using h
    unfold classOfName? at hclass
    grind

theorem InLine.classify_ne_unit {s : Session} {file : Url} {content : String} (h : s.InLine compile)
    (hexpandable : s.classify file content = .expandable) {w : Work} {t : Session}
    (ht : w.Reaches s t) (later : String) : t.classify file later ≠ .declarationUnit := by
  have hunnamed := (classOfName?_eq_none_iff h.units file).mp
    (classOfName?_of_expandable hexpandable)
  have houtput : ¬ Declaration.isOutput file = true := fun houtput => hunnamed (Or.inl houtput)
  have hunit : ¬ t.store.units.contains file = true :=
    fun hunit => houtput ((h.reaches ht).isOutput_of_unit hunit)
  unfold classify classOfName?
  rw [if_neg hunit, if_neg houtput]
  by_cases hexcluded : t.isExcluded file = true
  · simp [hexcluded]
  · by_cases hmatch : t.matcher later = true
    · simp [hexcluded, hmatch]
    · simp [hexcluded, hmatch]

/-- **Whether a file is left alone depends on the sources and the settings only.** In every session
on the way through a work that begins with a new one:

1. an entry is given for a file exactly if the file is not left alone, whatever the expander does;
2. what is left alone is what sources and settings say;
3. questions, closing files and dropping what is kept change nothing about it;
4. a unit has the name of an output, and bringing it up to date does nothing at all;
5. a file to be expanded never becomes a unit. -/
theorem bypass_settled {compile : Pattern.Compiler} {settings : Settings}
    {bindings : List (String × Provider.Binding)} {sources : Sources} {s₀ s : Session}
    (hcreate : create compile settings bindings sources = .ok s₀)
    {client : Work} (hs : client.Reaches s₀ s) :
    (∀ expander file,
      (entryFor (Work.expander expander) file s).1 = none ↔ s.isBypassed file = true) ∧
      (∀ file, s.isBypassed file = true ↔ s.settings.Bypasses compile s.sources file) ∧
      (∀ w t, Work.Uses Change.Quiet w → w.Reaches s t →
        ∀ file, t.isBypassed file = s.isBypassed file) ∧
      (∀ name, s.store.units.contains name = true →
        Declaration.isOutput name = true ∧
          ∀ expander, entryFor (Work.expander expander) name s = (none, s)) ∧
      ∀ file content, s.classify file content = .expandable →
        ∀ w t later, Work.Reaches w s t → t.classify file later ≠ .declarationUnit := by
  have hline : s.InLine compile := (inLine_create hcreate).reaches hs
  refine ⟨?_, hline.isBypassed_iff, ?_, ?_, ?_⟩
  · intro expander file
    exact entryFor_eq_none_iff (Work.expander expander) s file
  · intro w t hquiet ht file
    have hsame : SamePresent s t := (kept_samePresent s).reaches ht hquiet ⟨rfl, rfl⟩
    rw [Bool.eq_iff_iff, (hline.reaches ht).isBypassed_iff, hline.isBypassed_iff, hsame.sources,
      hsame.settings]
  · intro name hname
    refine ⟨hline.isOutput_of_unit hname, ?_⟩
    intro expander
    apply entryFor_of_named _ (c := .declarationUnit)
    rw [classOfName?, if_pos hname]
  · intro file content hexpandable w t later ht
    exact hline.classify_ne_unit hexpandable ht later

/-- A file with a directive comes, and its expansion has declarations. -/
def sampleClient : Work :=
  .alter (.edit (Url.ofFile ["a.ts"]) ⟨some "@derive(A)", some ⟨"1"⟩⟩)
    (.ask (.entryFor (Url.ofFile ["a.ts"])) (fun _ => .reply (.output ⟨"x", some "d", [], none⟩))
      fun _ => .reply (.failed ""))

theorem sampleClient_settled :
    ∃ s₀ s, create Pattern.compile Settings.default [] .empty = .ok s₀ ∧ sampleClient.Reaches s₀ s ∧
      s.store.units.contains (Declaration.unitName (Url.ofFile ["a.ts"])) = true ∧
      s.isBypassed (Declaration.unitName (Url.ofFile ["a.ts"])) = true ∧
      s.isBypassed (Url.ofFile ["a.ts"]) = false := by
  have hafter :
      ((create Pattern.compile Settings.default [] .empty).toOption.map fun s₀ =>
        let s := (sampleClient.run s₀).2
        (s.store.units.contains (Declaration.unitName (Url.ofFile ["a.ts"])),
          s.isBypassed (Url.ofFile ["a.ts"]))) = some (true, false) := by
    decide +kernel
  cases hcreate : create Pattern.compile Settings.default [] .empty with
  | error error =>
    rw [hcreate] at hafter
    cases hafter
  | ok s₀ =>
    rw [hcreate] at hafter
    obtain ⟨hunit, hfile⟩ := Prod.mk.inj (Option.some.inj hafter)
    have hreach := sampleClient.reaches_run s₀
    obtain ⟨-, hbypassed, -, hnamed, -⟩ := bypass_settled hcreate hreach
    refine ⟨s₀, _, rfl, hreach, hunit, ?_, hfile⟩
    exact (hbypassed _).mpr (Or.inl (hnamed _ hunit).1)

end Session

end Palimpsest
