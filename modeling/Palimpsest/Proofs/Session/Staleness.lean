import Palimpsest.Proofs.Session.Origin
import Palimpsest.Proofs.Version

/-!
# What a reported version tells

An analysis that has read a file reads it again when the version of the file has changed. A session
reports versions of its own making: that of the source where the file is read as it is, and
otherwise that of the source under the generation of the settings. The question is what two equal
versions say about the texts that were read with them.

1. `HostVersionsTell`: what is asked of the sources.
2. `Mistakable`: the six ways in which one version can come to stand for two texts.
3. `equal_or_mistakable`: two texts with one version are equal, or one of these ways was taken.
4. `version_outlives_expansion`: an expanded text of the first generation has the version of its
   source, and the source itself has it still when later settings leave the file alone.
-/

namespace Palimpsest

open Expansion (Invoke Request)

namespace Session

variable {compile : Pattern.Compiler}

/-! ## Versions of sources -/

/-- Equal versions that the sources give for a file mean equal contents, at all these moments. -/
def HostVersionsTell (history : List Session) : Prop :=
  ∀ a ∈ history, ∀ b ∈ history, ∀ file version, a.sources.version? file = some version →
    b.sources.version? file = some version → a.sources.content? file = b.sources.content? file

/-- A version that was made of a content of the file stands for another content as well. -/
def HashClash (history : List Session) (file : Url) (version : Version) : Prop :=
  ∃ a ∈ history, ∃ b ∈ history, a.sources.version? file = none ∧
    a.sources.token? file = some version ∧ b.sources.token? file = some version ∧
    a.sources.content? file ≠ b.sources.content? file

theorem HostVersionsTell.equal_or_clash {history : List Session} (htell : HostVersionsTell history)
    {a b : Session} (ha : a ∈ history) (hb : b ∈ history) {file : Url} {version : Version}
    (hva : a.sources.token? file = some version) (hvb : b.sources.token? file = some version) :
    a.sources.content? file = b.sources.content? file ∨ HashClash history file version := by
  apply Decidable.or_iff_not_imp_left.mpr
  intro hne
  cases hknown : a.sources.version? file with
  | none => exact ⟨a, ha, b, hb, hknown, hva, hvb, hne⟩
  | some known =>
    cases hknown' : b.sources.version? file with
    | none => exact ⟨b, hb, a, ha, hknown', hvb, hva, fun heq => hne heq.symm⟩
    | some known' =>
      rw [Sources.token?, hknown, Option.some_or] at hva
      rw [Sources.token?, hknown', Option.some_or] at hvb
      exact absurd (htell a ha b hb file version (hknown.trans hva) (hknown'.trans hvb)) hne

/-! ## Equal versions -/

/-- How one version can come to stand for two texts of a file. -/
inductive Mistakable (history : List Session) (file : Url) (token : Version) (a b : Session) :
    Prop where
  /-- The file was expanded in the first generation, and later settings leave it alone. -/
  | leftAlone (ha : a.origin file = .source) (hb : b.origin file = .expansion)
    (hfirst : b.generation = 0) (hlater : a.generation ≠ 0)
  /-- There is a source with the name of a unit of the first generation. -/
  | hidden (owner : Url) (ha : a.origin file = .source) (hb : b.origin file = .unit owner)
    (hfirst : b.generation = 0)
  /-- Two files share the unit, and now one has it and now the other. -/
  | shared (owner owner' : Url) (hne : owner ≠ owner')
    (hshares : Declaration.SharesUnit owner owner')
    (ha : a.origin file = .unit owner) (hb : b.origin file = .unit owner')
    (hgeneration : a.generation = b.generation)
  /-- A version without a generation is spelled like one under a generation. -/
  | spelled (version : Version) (ha : a.qualifier file = 0) (hb : b.qualifier file ≠ 0)
    (htoken : token = version.withGeneration (b.qualifier file))
  /-- A version that was made of a content stands for another as well. -/
  | clash (version : Version) (htoken : token = version.withGeneration (a.qualifier file))
    (hclash : HashClash history (a.readTarget file) version)
  /-- There have been so many generations that their counter of 64 bits has been round. -/
  | lapped (hgeneration : a.generation = b.generation) (hdiffer : ¬ SameTerms a b)
    (hlong : 0x10000000000000000 < history.length)

/-- What the sources have shown in the course of a history. -/
def seenIn (history : List Session) (file : Url) (version : Version) (content : String) : Prop :=
  ∃ a ∈ history, a.sources.Shows file version content

theorem HostVersionsTell.seen_equal_or_clash {history : List Session}
    (htell : HostVersionsTell history) {file : Url} {version : Version} {content content' : String}
    (h : seenIn history file version content) (h' : seenIn history file version content') :
    content = content' ∨ HashClash history file version := by
  obtain ⟨a, ha, hshows⟩ := h
  obtain ⟨b, hb, hshows'⟩ := h'
  rcases htell.equal_or_clash ha hb hshows.token? hshows'.token? with heq | hclash
  · rw [hshows.1, hshows'.1] at heq
    exact Or.inl (Option.some.inj heq)
  · exact Or.inr hclash

theorem InLine.isBypassed_congr {a b : Session} (ha : a.InLine compile) (hb : b.InLine compile)
    {file : Url} (hsettings : b.settings = a.settings)
    (hcontent : a.sources.content? file = b.sources.content? file) :
    a.isBypassed file = b.isBypassed file := by
  rw [Bool.eq_iff_iff, ha.isBypassed_iff, hb.isBypassed_iff, hsettings, Settings.Bypasses,
    Settings.Bypasses, hcontent]

/-- All sessions of one generation have the same terms, as long as the counter of generations has
not been round, and each session is in line with its settings. -/
structure Coherent (compile : Pattern.Compiler) (history : List Session) : Prop where
  terms : ∀ a ∈ history, ∀ b ∈ history, a.generation = b.generation →
    SameTerms a b ∨ 0x10000000000000000 < history.length
  inLine : ∀ a ∈ history, a.InLine compile

section Equal

variable {expander : Request → Expander.Reply} {providers : Provider.Resolver}
  {history : List Session} {a b : Session} {file : Url} {version : Version}
  {text text' : Option String}

theorem Coherent.lapped (h : Coherent compile history) (ha : a ∈ history) (hb : b ∈ history)
    (hgeneration : a.generation = b.generation) (hdiffer : ¬ SameTerms a b) {token : Version} :
    Mistakable history file token a b := by
  rcases h.terms a ha b hb hgeneration with hterms | hlong
  · exact absurd hterms hdiffer
  · exact .lapped hgeneration hdiffer hlong

theorem Coherent.mistakable_of_source (h : Coherent compile history)
    (htell : HostVersionsTell history) (ha : a ∈ history) (hb : b ∈ history)
    (hsource : a.origin file = .source) (hmade : b.origin file ≠ .source) (hfirst : b.generation = 0)
    (htext : Made expander providers (seenIn history) a file version text)
    (htext' : Made expander providers (seenIn history) b file version text') :
    Mistakable history file version a b := by
  simp only [Made, hsource] at htext
  cases horigin : b.origin file with
  | source => exact absurd horigin hmade
  | unit owner => exact .hidden owner hsource horigin hfirst
  | expansion =>
    simp only [Made, horigin] at htext'
    by_cases hlater : a.generation = 0
    · -- The settings are the same, so the contents differ, since only one file is left alone.
      have hgeneration : a.generation = b.generation := by rw [hlater, hfirst]
      by_cases hterms : SameTerms a b
      case neg => exact h.lapped ha hb hgeneration hterms
      obtain ⟨htarget, hleft⟩ := origin_of_file a file (by simp [hsource])
      obtain ⟨-, hleft'⟩ := origin_of_file b file (by simp [horigin])
      have hknown : a.sources.token? file = some version := by
        rw [Sources.token?, htext.1, Option.some_or]
      rcases htell.equal_or_clash ha hb hknown htext'.1 with hcontent | hclash
      · have hsame := (h.inLine a ha).isBypassed_congr (h.inLine b hb) hterms.settings hcontent
        rw [hleft.mpr hsource] at hsame
        rw [hleft'.mp hsame.symm] at horigin
        cases horigin
      · refine .clash version ?_ (by rw [htarget]; exact hclash)
        rw [qualifier_of_source hsource, Version.withGeneration_zero]
    · exact .leftAlone hsource horigin hfirst hlater

theorem Coherent.equal_or_mistakable_of_made (h : Coherent compile history)
    (htell : HostVersionsTell history) (ha : a ∈ history) (hb : b ∈ history)
    (hmade : a.origin file ≠ .source) (hmade' : b.origin file ≠ .source)
    (hgeneration : a.generation = b.generation)
    (htext : Made expander providers (seenIn history) a file version text)
    (htext' : Made expander providers (seenIn history) b file version text') :
    text = text' ∨ Mistakable history file (version.withGeneration (a.qualifier file)) a b := by
  by_cases hterms : SameTerms a b
  case neg => exact Or.inr (h.lapped ha hb hgeneration hterms)
  have hoptions := hterms.options
  have hunit : ∀ {s : Session} {owner : Url}, s ∈ history → s.origin file = .unit owner →
      file = Declaration.unitName owner ∧ s.readTarget file = owner := by
    intro s owner hs horigin
    obtain ⟨bundle, hbundle, rfl⟩ := origin_eq_unit horigin
    obtain ⟨-, hname, -⟩ := (h.inLine s hs).units file bundle hbundle
    exact ⟨hname, by rw [readTarget, hbundle]⟩
  -- The name of a unit is that of an output, which is never expanded.
  have hapart : ∀ {s t : Session} {owner : Url}, s ∈ history → t ∈ history →
      s.origin file = .unit owner → t.origin file ≠ .expansion := by
    intro s t owner hs ht horigin hexpansion
    obtain ⟨-, hleft⟩ := origin_of_file t file (by simp [hexpansion])
    have hbypassed := (h.inLine t ht).isBypassed_iff file
    rw [hleft, hexpansion, (hunit hs horigin).1] at hbypassed
    exact absurd (hbypassed.mpr (Or.inl (Declaration.isOutput_unitName owner))) (by simp)
  cases horigin : a.origin file with
  | source => exact absurd horigin hmade
  | expansion =>
    cases horigin' : b.origin file with
    | source => exact absurd horigin' hmade'
    | unit owner => exact absurd horigin (hapart hb ha horigin')
    | expansion =>
      simp only [Made, horigin] at htext
      simp only [Made, horigin'] at htext'
      obtain ⟨-, content, hseen, rfl⟩ := htext
      obtain ⟨-, content', hseen', rfl⟩ := htext'
      rcases htell.seen_equal_or_clash hseen hseen' with rfl | hclash
      · exact Or.inl (by rw [hoptions])
      · have htarget := (origin_of_file a file (by simp [horigin])).1
        exact Or.inr (.clash version rfl (by rw [htarget]; exact hclash))
  | unit owner =>
    cases horigin' : b.origin file with
    | source => exact absurd horigin' hmade'
    | expansion => exact absurd horigin' (hapart ha hb horigin)
    | unit owner' =>
      by_cases howner : owner = owner'
      · subst howner
        simp only [Made, horigin] at htext
        simp only [Made, horigin'] at htext'
        obtain ⟨content, hseen, rfl⟩ := htext
        obtain ⟨content', hseen', rfl⟩ := htext'
        rcases htell.seen_equal_or_clash hseen hseen' with rfl | hclash
        · exact Or.inl (by rw [hoptions])
        · exact Or.inr (.clash version rfl (by rw [(hunit ha horigin).2]; exact hclash))
      · have hshares : Declaration.SharesUnit owner owner' := by
          rw [← Declaration.unitName_eq_iff, ← (hunit ha horigin).1, ← (hunit hb horigin').1]
        exact Or.inr (.shared owner owner' howner hshares horigin horigin' hgeneration)

theorem Coherent.equal_or_mistakable_of_qualifier (h : Coherent compile history)
    (htell : HostVersionsTell history) (ha : a ∈ history) (hb : b ∈ history)
    (hqualifier : a.qualifier file = b.qualifier file)
    (htext : Made expander providers (seenIn history) a file version text)
    (htext' : Made expander providers (seenIn history) b file version text') :
    text = text' ∨ Mistakable history file (version.withGeneration (a.qualifier file)) a b ∨
      Mistakable history file (version.withGeneration (a.qualifier file)) b a := by
  by_cases hsource : a.origin file = .source
  · have hzero := qualifier_of_source hsource
    rw [hzero, Version.withGeneration_zero]
    by_cases hsource' : b.origin file = .source
    · simp only [Made, hsource] at htext
      simp only [Made, hsource'] at htext'
      obtain ⟨hversion, rfl⟩ := htext
      obtain ⟨hversion', rfl⟩ := htext'
      exact Or.inl (htell a ha b hb file version hversion hversion')
    · rw [hzero, qualifier_of_made hsource'] at hqualifier
      have hfirst : b.generation = 0 := UInt64.toNat.inj hqualifier.symm
      exact Or.inr (Or.inl
        (h.mistakable_of_source htell ha hb hsource hsource' hfirst htext htext'))
  · by_cases hsource' : b.origin file = .source
    · have hzero := qualifier_of_source hsource'
      rw [hqualifier, hzero, Version.withGeneration_zero]
      rw [hzero, qualifier_of_made hsource] at hqualifier
      have hfirst : a.generation = 0 := UInt64.toNat.inj hqualifier
      exact Or.inr (Or.inr
        (h.mistakable_of_source htell hb ha hsource' hsource hfirst htext' htext))
    · rw [qualifier_of_made hsource, qualifier_of_made hsource'] at hqualifier
      have hgeneration : a.generation = b.generation := UInt64.toNat.inj hqualifier
      rcases h.equal_or_mistakable_of_made htell ha hb hsource hsource' hgeneration htext htext'
        with heq | hmistakable
      · exact Or.inl heq
      · exact Or.inr (Or.inl hmistakable)

end Equal

theorem length_states (expander : Request → Expander.Reply) (s : Session) (steps : List Step) :
    (states expander s steps).length = steps.length + 1 := by
  induction steps generalizing s with
  | nil => rfl
  | cons step rest ih => rw [states, List.length_cons, ih, List.length_cons]

theorem coherent_states {expander : Request → Expander.Reply} {providers : Provider.Resolver}
    {seen : Url → Version → String → Prop} {s₀ : Session} {steps : List Step}
    (h : ∀ s ∈ states expander s₀ steps, s.Sound expander compile providers seen) :
    Coherent compile (states expander s₀ steps) where
  terms _ ha _ hb hgeneration := by
    rw [length_states, Nat.lt_succ_iff]
    exact sameTerms_of_generation expander steps ha hb hgeneration
  inLine s hs := ⟨(h s hs).units, (h s hs).compiler, (h s hs).matcher⟩

/-- **Two texts of a file that are read with one version are equal, or the version is mistakable.**
The run may be any run of a new session, with any expander that looks at its request only; of the
sources it is asked that their own versions tell contents apart. -/
theorem equal_or_mistakable (expander : Request → Expander.Reply) {settings : Settings}
    {bindings : List (String × Provider.Binding)} {sources : Sources} {s₀ : Session}
    (hcreate : create compile settings bindings sources = .ok s₀) (steps : List Step)
    (htell : HostVersionsTell (states expander s₀ steps)) {a b : Session}
    (ha : a ∈ states expander s₀ steps) (hb : b ∈ states expander s₀ steps) (file : Url)
    (token : Version)
    (hversion : (hostVersion (Invoke.ofFunction expander) file a).1 = some token)
    (hversion' : (hostVersion (Invoke.ofFunction expander) file b).1 = some token) :
    (hostContent (Invoke.ofFunction expander) file a).1 =
        (hostContent (Invoke.ofFunction expander) file b).1 ∨
      Mistakable (states expander s₀ steps) file token a b ∨
      Mistakable (states expander s₀ steps) file token b a := by
  have hshown : ∀ t ∈ states expander s₀ steps, Shown (seenIn (states expander s₀ steps)) t :=
    fun t ht _ _ _ hshows => ⟨t, ht, hshows⟩
  have hsound := sound_of_shown steps (sound_create hcreate) hshown
  have hcoherent := coherent_states hsound
  obtain ⟨version, htoken, htext⟩ := (hsound a ha).made (hshown a ha) hversion
  obtain ⟨version', htoken', htext'⟩ := (hsound b hb).made (hshown b hb) hversion'
  rcases Version.withGeneration_eq_iff.mp (htoken.symm.trans htoken') with
    ⟨rfl, hqualifier⟩ | ⟨hplain, hqualified, -⟩ | ⟨hplain, hqualified, -⟩
  · rw [htoken]
    exact hcoherent.equal_or_mistakable_of_qualifier htell ha hb hqualifier htext htext'
  · exact Or.inr (Or.inl (.spelled version' hplain hqualified htoken'))
  · exact Or.inr (Or.inr (.spelled version hplain hqualified htoken))

/-! A file that is expanded, until new settings exclude it. -/

def excluding : Settings := { Settings.default with excludedDirs := ["a.ts"] }

/-- A file with a directive comes, and then the settings exclude it. -/
def excludeSteps : List Step :=
  [.edit (Url.ofFile ["a.ts"]) ⟨some "@derive(A)", some ⟨"1"⟩⟩, .reload excluding]

def constantExpander : Request → Expander.Reply := fun _ => .output ⟨"x", none, [], none⟩

/-- The sessions before and after the settings change. -/
def excludePair (s₀ : Session) : Session × Session :=
  let a := s₀.setFile (Url.ofFile ["a.ts"]) ⟨some "@derive(A)", some ⟨"1"⟩⟩
  (a, (a.reload excluding).2)

theorem excludePair_mem (s₀ : Session) :
    (excludePair s₀).1 ∈ states constantExpander s₀ excludeSteps ∧
      (excludePair s₀).2 ∈ states constantExpander s₀ excludeSteps := by
  simp [excludePair, excludeSteps, states, Step.apply]

theorem excludeSteps_tell {s₀ : Session}
    (hcreate : create Pattern.compile Settings.default [] .empty = .ok s₀) :
    HostVersionsTell (states constantExpander s₀ excludeSteps) := by
  have hbefore : s₀.sources = .empty := by
    obtain ⟨_, _, -, rfl⟩ := create_eq_ok hcreate
    rfl
  have hafter : ∀ {s : Session}, s.sources = s₀.sources.insert (Url.ofFile ["a.ts"])
      ⟨some "@derive(A)", some ⟨"1"⟩⟩ → ∀ file version, s.sources.version? file = some version →
      s.sources.content? file = some "@derive(A)" := by
    intro s hs file version hknown
    rw [hs, hbefore, Sources.version?, Table.find?_insert] at hknown
    rw [hs, hbefore, Sources.content?, Table.find?_insert]
    split at hknown
    · rw [if_pos ‹_›]
      rfl
    · cases hknown
  have htext : ∀ s ∈ states constantExpander s₀ excludeSteps, ∀ file version,
      s.sources.version? file = some version → s.sources.content? file = some "@derive(A)" := by
    intro s hs
    simp only [excludeSteps, states, List.mem_cons, List.not_mem_nil, or_false] at hs
    rcases hs with rfl | rfl | rfl
    · intro file version hknown
      rw [hbefore] at hknown
      cases hknown
    · exact hafter rfl
    · exact hafter (sources_reload _ _)
  intro s hs t ht file version hknown hknown'
  rw [htext s hs file version hknown, htext t ht file version hknown']

/-- The session with default settings, and what is read in it before and after they change. -/
theorem excludePair_reads :
    ∃ s₀, create Pattern.compile Settings.default [] .empty = .ok s₀ ∧
      ((hostVersion (Invoke.ofFunction constantExpander) (Url.ofFile ["a.ts"])
          (excludePair s₀).1).1 = some ⟨"1"⟩ ∧
        (hostVersion (Invoke.ofFunction constantExpander) (Url.ofFile ["a.ts"])
          (excludePair s₀).2).1 = some ⟨"1"⟩) ∧
      (hostContent (Invoke.ofFunction constantExpander) (Url.ofFile ["a.ts"])
          (excludePair s₀).1).1 = some "x" ∧
        (hostContent (Invoke.ofFunction constantExpander) (Url.ofFile ["a.ts"])
          (excludePair s₀).2).1 = some "@derive(A)" := by
  have hreads :
      ((create Pattern.compile Settings.default [] .empty).toOption.map fun s₀ =>
        let read := fun s : Session =>
          ((hostVersion (Invoke.ofFunction constantExpander) (Url.ofFile ["a.ts"]) s).1,
            (hostContent (Invoke.ofFunction constantExpander) (Url.ofFile ["a.ts"]) s).1)
        (read (excludePair s₀).1, read (excludePair s₀).2)) =
        some ((some ⟨"1"⟩, some "x"), (some ⟨"1"⟩, some "@derive(A)")) := by
    decide +kernel
  cases hcreate : create Pattern.compile Settings.default [] .empty with
  | error error =>
    rw [hcreate] at hreads
    cases hreads
  | ok s₀ =>
    rw [hcreate] at hreads
    obtain ⟨hfirst, hlater⟩ := Prod.mk.inj (Option.some.inj hreads)
    obtain ⟨hversion, hcontent⟩ := Prod.mk.inj hfirst
    obtain ⟨hversion', hcontent'⟩ := Prod.mk.inj hlater
    exact ⟨s₀, rfl, ⟨hversion, hversion'⟩, hcontent, hcontent'⟩

theorem excludePair_mistakable :
    ∃ s₀ a b, create Pattern.compile Settings.default [] .empty = .ok s₀ ∧
      HostVersionsTell (states constantExpander s₀ excludeSteps) ∧
      a ∈ states constantExpander s₀ excludeSteps ∧ b ∈ states constantExpander s₀ excludeSteps ∧
      (hostVersion (Invoke.ofFunction constantExpander) (Url.ofFile ["a.ts"]) a).1 = some ⟨"1"⟩ ∧
      (hostVersion (Invoke.ofFunction constantExpander) (Url.ofFile ["a.ts"]) b).1 = some ⟨"1"⟩ ∧
      (Mistakable (states constantExpander s₀ excludeSteps) (Url.ofFile ["a.ts"]) ⟨"1"⟩ a b ∨
        Mistakable (states constantExpander s₀ excludeSteps) (Url.ofFile ["a.ts"]) ⟨"1"⟩ b a) := by
  obtain ⟨s₀, hcreate, ⟨hversion, hversion'⟩, hcontent, hcontent'⟩ := excludePair_reads
  obtain ⟨ha, hb⟩ := excludePair_mem s₀
  have htell := excludeSteps_tell hcreate
  refine ⟨s₀, _, _, hcreate, htell, ha, hb, hversion, hversion', ?_⟩
  rcases equal_or_mistakable constantExpander hcreate excludeSteps htell ha hb
    (Url.ofFile ["a.ts"]) ⟨"1"⟩ hversion hversion' with heq | hmistakable
  · rw [hcontent, hcontent'] at heq
    exact absurd heq (by decide)
  · exact hmistakable

/-- The expanded text of the first generation and the source have the same version, and not the same
text. -/
theorem version_outlives_expansion :
    ∃ s₀ a b, create Pattern.compile Settings.default [] .empty = .ok s₀ ∧
      HostVersionsTell (states constantExpander s₀ excludeSteps) ∧
      a ∈ states constantExpander s₀ excludeSteps ∧ b ∈ states constantExpander s₀ excludeSteps ∧
      (hostVersion (Invoke.ofFunction constantExpander) (Url.ofFile ["a.ts"]) a).1 = some ⟨"1"⟩ ∧
      (hostVersion (Invoke.ofFunction constantExpander) (Url.ofFile ["a.ts"]) b).1 = some ⟨"1"⟩ ∧
      (hostContent (Invoke.ofFunction constantExpander) (Url.ofFile ["a.ts"]) a).1 ≠
        (hostContent (Invoke.ofFunction constantExpander) (Url.ofFile ["a.ts"]) b).1 := by
  obtain ⟨s₀, hcreate, ⟨hversion, hversion'⟩, hcontent, hcontent'⟩ := excludePair_reads
  obtain ⟨ha, hb⟩ := excludePair_mem s₀
  refine ⟨s₀, _, _, hcreate, excludeSteps_tell hcreate, ha, hb, hversion, hversion', ?_⟩
  rw [hcontent, hcontent']
  decide

end Session

end Palimpsest
