import Palimpsest.Proofs.Expansion.Frame
import Palimpsest.Proofs.Session.Bypass

/-!
# Where the text of a file comes from

What is read of a file through a session is its source, its expanded text or the declarations of
another file, and the version that is reported with it is made accordingly.

1. `SameTerms`: what the steps of one generation leave as it was, and `sameTerms_of_generation` for
   whole runs of fewer steps than a counter of 64 bits has values.
2. `Origin`: where a text comes from, and `Made`: what it is made of.
3. `Sound.made`: what is read of a file, with its version.
-/

namespace Palimpsest

open Expansion (Invoke Entry Request freshEntry)

/-- The version of a file as a store is given it: the one that is known, or one made of the
content. -/
def Sources.token? (a : Sources) (file : Url) : Option Version :=
  (a.version? file).or ((a.content? file).map .ofContent)

theorem Sources.Shows.token? {a : Sources} {file : Url} {version : Version} {content : String}
    (h : a.Shows file version content) : a.token? file = some version := by
  obtain ⟨hcontent, hversion⟩ := h
  rw [Sources.versionOf] at hversion
  rw [Sources.token?, hcontent]
  cases hknown : a.version? file with
  | some known =>
    rw [hknown] at hversion
    exact congrArg some hversion
  | none =>
    rw [hknown] at hversion
    exact congrArg some hversion

namespace Session

/-! ## One generation -/

/-- The two sessions are of one generation, with the same settings and switches. -/
structure SameTerms (s t : Session) : Prop where
  generation : t.generation = s.generation
  settings : t.settings = s.settings
  options : t.store.options = s.store.options

def Change.KeepsTerms : Change → Prop
  | reload _ | setOptions _ => False
  | edit _ _ | delete _ | close _ | clear => True

theorem kept_sameTerms (s : Session) : Kept Change.KeepsTerms (SameTerms s) where
  change t change hkeeps h := by
    cases change with
    | edit file source => exact ⟨h.generation, h.settings, h.options⟩
    | delete file => exact ⟨h.generation, h.settings, h.options⟩
    | close file =>
      have hcalls := t.store.sameCalls_remove file
      exact ⟨h.generation, h.settings, hcalls.options.trans h.options⟩
    | reload settings => cases hkeeps
    | clear =>
      have hcalls := t.store.sameCalls_clear
      exact ⟨h.generation, h.settings, hcalls.options.trans h.options⟩
    | setOptions options => cases hkeeps
  drop t file h := by
    have hcalls := t.store.sameCalls_remove file
    have hoptions := hcalls.options.trans h.options
    unfold dropEntry
    split
    · exact ⟨h.generation, h.settings, hoptions⟩
    · exact ⟨h.generation, h.settings, hoptions⟩
  begin t file content version h := by
    refine ⟨h.generation, h.settings, ?_⟩
    have hbegun := t.store.begun file content version
    cases hbegin : t.store.begin file content version with
    | mk step store =>
      cases step with
      | ready entry =>
        exact (Expansion.Store.sameCalls_of_ready hbegin).options.trans h.options
      | expand request =>
        rw [hbegin] at hbegun
        cases hbegun
        exact h.options
  closed t file content version reply h :=
    ⟨h.generation, h.settings, (t.store.options_closed ..).trans h.options⟩

theorem sameTerms_perform (expander : Request → Expander.Reply) (s : Session) (q : Question) :
    SameTerms s (q.perform (Invoke.ofFunction expander) s).2 :=
  (kept_sameTerms s).perform q _ (fun _ _ h => h) ⟨rfl, rfl, rfl⟩

theorem SameTerms.trans {s t u : Session} (h : SameTerms s t) (h' : SameTerms t u) :
    SameTerms s u where
  generation := h'.generation.trans h.generation
  settings := h'.settings.trans h.settings
  options := h'.options.trans h.options

/-- A step stays in its generation and changes the sources at most, or begins the next one. -/
theorem Step.sameTerms_or_next (expander : Request → Expander.Reply) (s : Session) (step : Step) :
    SameTerms s (step.apply expander s) ∨
      (step.apply expander s).generation = s.generation + 1 := by
  have hchange : ∀ change : Change, change.KeepsTerms → SameTerms s (change.apply s) :=
    fun change hkeeps => (kept_sameTerms s).change s change hkeeps ⟨rfl, rfl, rfl⟩
  cases step with
  | edit file source => exact Or.inl (hchange (.edit file source) trivial)
  | delete file => exact Or.inl (hchange (.delete file) trivial)
  | entryFor file => exact Or.inl (sameTerms_perform expander s (.entryFor file))
  | hostContent file => exact Or.inl (sameTerms_perform expander s (.hostContent file))
  | hostVersion file => exact Or.inl (sameTerms_perform expander s (.hostVersion file))
  | close file => exact Or.inl (hchange (.close file) trivial)
  | reload settings =>
    rw [Step.apply, Session.reload]
    cases settings.matcher s.compile with
    | error error => exact Or.inl ⟨rfl, rfl, rfl⟩
    | ok matcher => exact Or.inr rfl

/-- Generations are counted up, by one step at most one, and the sessions before the first count
have the same terms. -/
theorem generation_of_mem (expander : Request → Expander.Reply) (steps : List Step)
    (s : Session) :
    ∀ t ∈ states expander s steps, ∃ n ≤ steps.length,
      t.generation = s.generation + .ofNat n ∧ (n = 0 → SameTerms s t) := by
  have hself : s.generation = s.generation + .ofNat 0 := (UInt64.add_zero _).symm
  induction steps generalizing s with
  | nil =>
    intro t ht
    rw [List.mem_singleton.mp ht]
    exact ⟨0, Nat.le_refl 0, hself, fun _ => ⟨rfl, rfl, rfl⟩⟩
  | cons step rest ih =>
    intro t ht
    rcases List.mem_cons.mp ht with rfl | ht
    · exact ⟨0, Nat.zero_le _, hself, fun _ => ⟨rfl, rfl, rfl⟩⟩
    · obtain ⟨n, hn, hcount, hsame⟩ := ih _ (UInt64.add_zero _).symm t ht
      rcases step.sameTerms_or_next expander s with hstep | hstep
      · rw [hstep.generation] at hcount
        exact ⟨n, Nat.le_succ_of_le hn, hcount, fun hzero => hstep.trans (hsame hzero)⟩
      · refine ⟨n + 1, Nat.succ_le_succ hn, ?_, nofun⟩
        rw [hcount, hstep, UInt64.add_assoc, UInt64.add_comm 1, UInt64.ofNat_add]
        rfl

/-- A session of the first one's generation has its terms, or the counter of 64 bits has been round
once since. -/
theorem sameTerms_or_lapped (expander : Request → Expander.Reply) (steps : List Step)
    {s t : Session} (ht : t ∈ states expander s steps) (h : t.generation = s.generation) :
    SameTerms s t ∨ 0x10000000000000000 ≤ steps.length := by
  obtain ⟨n, hn, hcount, hsame⟩ := generation_of_mem expander steps s t ht
  have hround : UInt64.ofNat n = 0 := by
    rw [h] at hcount
    exact UInt64.add_eq_left.mp hcount.symm
  have hdvd : n % 0x10000000000000000 = 0 := congrArg UInt64.toNat hround
  by_cases hzero : n = 0
  · exact Or.inl (hsame hzero)
  · exact Or.inr (by omega)

/-- **Within one generation of a run nothing changes but the sources**, unless the run is so long
that the counter of 64 bits has come back to where it was. -/
theorem sameTerms_of_generation (expander : Request → Expander.Reply) (steps : List Step)
    {s a b : Session} (ha : a ∈ states expander s steps) (hb : b ∈ states expander s steps)
    (h : a.generation = b.generation) :
    SameTerms a b ∨ 0x10000000000000000 ≤ steps.length := by
  induction steps generalizing s with
  | nil =>
    rw [List.mem_singleton.mp ha, List.mem_singleton.mp hb]
    exact Or.inl ⟨rfl, rfl, rfl⟩
  | cons step rest ih =>
    -- The earlier of the two is the first session, or both come later.
    rcases List.mem_cons.mp ha with rfl | ha'
    · exact sameTerms_or_lapped expander (step :: rest) hb h.symm
    · rcases List.mem_cons.mp hb with rfl | hb'
      · rcases sameTerms_or_lapped expander (step :: rest) ha h with hsame | hlong
        · exact Or.inl ⟨hsame.generation.symm, hsame.settings.symm, hsame.options.symm⟩
        · exact Or.inr hlong
      · rcases ih ha' hb' with hsame | hlong
        · exact Or.inl hsame
        · exact Or.inr (Nat.le_succ_of_le hlong)

/-! ## Where a text comes from -/

/-- Where the text of a file comes from. -/
inductive Origin where
  /-- The file is read as it is. -/
  | source
  /-- The file is read by its expanded text. -/
  | expansion
  /-- The file is the unit of another. -/
  | unit (owner : Url)
deriving DecidableEq

/-- Where the text of a file comes from in a session. -/
def origin (s : Session) (file : Url) : Origin :=
  match s.store.units.find? file with
  | some bundle => .unit bundle.owner
  | none => if s.isBypassed file then .source else .expansion

/-- The generation under which the version of a file is reported; a source has none. -/
def qualifier (s : Session) (file : Url) : Nat :=
  if s.origin file = .source then 0 else s.generation.toNat

/-- The text of a file is made of something with this version: it is that of the source, or what
the expander makes of a content that the version has been seen with. -/
def Made (expander : Request → Expander.Reply) (providers : Provider.Resolver)
    (seen : Url → Version → String → Prop) (s : Session) (file : Url) (version : Version)
    (text : Option String) : Prop :=
  match s.origin file with
  | .source => s.sources.version? file = some version ∧ s.sources.content? file = text
  | .expansion => s.sources.token? file = some version ∧ ∃ content, seen file version content ∧
      text = some (freshEntry expander providers s.store.options file content version).code
  | .unit owner => ∃ content, seen owner version content ∧
      text = (freshEntry expander providers s.store.options owner content version).declarations

theorem qualifier_of_source {s : Session} {file : Url} (h : s.origin file = .source) :
    s.qualifier file = 0 := if_pos h

theorem qualifier_of_made {s : Session} {file : Url} (h : s.origin file ≠ .source) :
    s.qualifier file = s.generation.toNat := if_neg h

theorem origin_eq_unit {s : Session} {file owner : Url} (h : s.origin file = .unit owner) :
    ∃ bundle, s.store.units.find? file = some bundle ∧ bundle.owner = owner := by
  unfold origin at h
  split at h
  · rename_i bundle hbundle
    exact ⟨bundle, hbundle, Origin.unit.inj h⟩
  · split at h
    · cases h
    · cases h

/-- A text that is not that of a unit is the file's own, and the file is left alone or not. -/
theorem origin_of_file (s : Session) (file : Url) (h : ∀ owner, s.origin file ≠ .unit owner) :
    s.readTarget file = file ∧ (s.isBypassed file = true ↔ s.origin file = .source) := by
  unfold origin at h ⊢
  unfold readTarget
  cases hunit : s.store.units.find? file with
  | some bundle =>
    rw [hunit] at h
    exact absurd rfl (h bundle.owner)
  | none => cases s.isBypassed file <;> simp

section Reading

variable {expander : Request → Expander.Reply} {compile : Pattern.Compiler}
  {providers : Provider.Resolver} {seen : Url → Version → String → Prop} {s : Session}

/-- Bringing the owner of a unit up to date leaves the unit to it, if there is one afterwards. -/
theorem owner_entryFor (h : s.store.UnitsLive) {name : Url} {bundle unit : Declaration.Bundle}
    (hbundle : s.store.units.find? name = some bundle)
    (hunit : (Session.entryFor (Invoke.ofFunction expander) bundle.owner s).2.store.units.find?
      name = some unit) : unit.owner = bundle.owner := by
  obtain ⟨-, rfl, -⟩ := h name bundle hbundle
  have hsame : s.store.units.find? (Declaration.unitName bundle.owner) = some unit →
      unit.owner = bundle.owner := by
    intro hfound
    rw [hbundle] at hfound
    rw [Option.some.inj hfound]
  have hanswered := answered expander s bundle.owner
  generalize Session.entryFor (Invoke.ofFunction expander) bundle.owner s = result
    at hanswered hunit
  cases hanswered with
  | named _ _ => exact hsame hunit
  | unread _ _ => exact hsame hunit
  | dropped content _ _ _ =>
    rw [units_dropEntry, if_pos rfl] at hunit
    cases hunit
  | expanded content _ _ _ =>
    rcases (Expansion.Touch.get content _ expander).units_apply s.store bundle.owner with
      ⟨-, hwritten⟩ | ⟨-, hunits⟩
    · exact hwritten.own unit hunit
    · exact hsame (by rw [← hunits]; exact hunit)

theorem Sound.entry_entryFor (h : s.Sound expander compile providers seen) {file : Url}
    {entry : Entry}
    (hentry : (Session.entryFor (Invoke.ofFunction expander) file s).1 = some entry) :
    (Session.entryFor (Invoke.ofFunction expander) file s).2.store.peek file = some entry ∧
      s.sources.token? file = some entry.version := by
  have hanswered := answered expander s file
  generalize Session.entryFor (Invoke.ofFunction expander) file s = result at hanswered hentry
  cases hanswered with
  | named _ _ => cases hentry
  | unread _ _ => cases hentry
  | dropped _ _ _ _ => cases hentry
  | expanded content _ hcontent _ =>
    obtain rfl := Option.some.inj hentry
    have hfetched := h.fetchedNow file content
    refine ⟨by rw [hfetched.peek, if_pos rfl], ?_⟩
    rw [hfetched.version]
    exact Sources.Shows.token? ⟨hcontent, rfl⟩

theorem Sound.made_unit (h : s.Sound expander compile providers seen) (hshown : Shown seen s)
    {file : Url} {bundle : Declaration.Bundle} (hbundle : s.store.units.find? file = some bundle)
    {token : Version} (htoken : (hostVersion (Invoke.ofFunction expander) file s).1 = some token) :
    ∃ version, token = version.withGeneration s.generation.toNat ∧
      ∃ content, seen bundle.owner version content ∧
        (hostContent (Invoke.ofFunction expander) file s).1 =
          (freshEntry expander providers s.store.options bundle.owner content
            version).declarations := by
  have hafter := h.entryFor hshown bundle.owner
  have hterms : SameTerms s (Session.entryFor (Invoke.ofFunction expander) bundle.owner s).2 :=
    sameTerms_perform expander s (.entryFor bundle.owner)
  rw [hostVersion_of_unit _ hbundle] at htoken
  obtain ⟨unit, hunit, rfl⟩ := Option.map_eq_some_iff.mp htoken
  -- The unit has its entry, which is a fresh one, and the owner is still the same.
  obtain ⟨-, -, entry, hentry, hdeclarations, hversion⟩ := hafter.units file unit hunit
  rw [owner_entryFor h.units hbundle hunit] at hentry
  obtain ⟨content, hseen, hfresh⟩ := hafter.faithful bundle.owner entry hentry
  rw [hversion, hafter.providers, hterms.options] at hfresh
  rw [hversion] at hseen
  refine ⟨unit.version, by rw [expandedVersion, hterms.generation], content, hseen, ?_⟩
  rw [hostContent_of_unit _ hbundle, hunit, ← hfresh, hdeclarations]
  rfl

theorem Sound.made_expansion (h : s.Sound expander compile providers seen) (hshown : Shown seen s)
    {file : Url} (hfile : s.store.units.find? file = none) (hwanted : s.isBypassed file = false)
    {token : Version} (htoken : (hostVersion (Invoke.ofFunction expander) file s).1 = some token) :
    ∃ version, token = version.withGeneration s.generation.toNat ∧
      s.sources.token? file = some version ∧ ∃ content, seen file version content ∧
        (hostContent (Invoke.ofFunction expander) file s).1 =
          some (freshEntry expander providers s.store.options file content version).code := by
  have hafter := h.entryFor hshown file
  have hterms : SameTerms s (Session.entryFor (Invoke.ofFunction expander) file s).2 :=
    sameTerms_perform expander s (.entryFor file)
  cases hentry : (Session.entryFor (Invoke.ofFunction expander) file s).1 with
  | none =>
    rw [entryFor_eq_none_iff, hwanted] at hentry
    cases hentry
  | some entry =>
    obtain ⟨hpeek, hpresent⟩ := h.entry_entryFor hentry
    obtain ⟨content, hseen, hfresh⟩ := hafter.faithful file entry hpeek
    rw [hafter.providers, hterms.options] at hfresh
    rw [hostVersion_of_file _ hfile, hentry] at htoken
    replace htoken : entry.version.withGeneration
        (Session.entryFor (Invoke.ofFunction expander) file s).2.generation.toNat = token :=
      Option.some.inj htoken
    rw [hterms.generation] at htoken
    refine ⟨entry.version, htoken.symm, hpresent, content, hseen, ?_⟩
    rw [hostContent_of_file _ hfile, hentry, ← hfresh]
    rfl

theorem made_source (expander : Request → Expander.Reply) {file : Url}
    (hfile : s.store.units.find? file = none) (hbypassed : s.isBypassed file = true) :
    (hostVersion (Invoke.ofFunction expander) file s).1 = s.sources.version? file ∧
      (hostContent (Invoke.ofFunction expander) file s).1 = s.sources.content? file := by
  have hentry := (entryFor_eq_none_iff (Invoke.ofFunction expander) s file).mpr hbypassed
  rw [hostVersion_of_file _ hfile, hostContent_of_file _ hfile, hentry, sources_entryFor]
  exact ⟨rfl, rfl⟩

/-- **What is read of a file with its version.** -/
theorem Sound.made (h : s.Sound expander compile providers seen) (hshown : Shown seen s)
    {file : Url} {token : Version}
    (htoken : (hostVersion (Invoke.ofFunction expander) file s).1 = some token) :
    ∃ version, token = version.withGeneration (s.qualifier file) ∧
      Made expander providers seen s file version
        (hostContent (Invoke.ofFunction expander) file s).1 := by
  unfold Made qualifier origin
  cases hfile : s.store.units.find? file with
  | some bundle => exact h.made_unit hshown hfile htoken
  | none =>
    cases hbypassed : s.isBypassed file with
    | true =>
      obtain ⟨hversion, hcontent⟩ := made_source expander hfile hbypassed
      rw [hversion] at htoken
      exact ⟨token, rfl, htoken, hcontent.symm⟩
    | false => exact h.made_expansion hshown hfile hbypassed htoken

end Reading

end Session

end Palimpsest
