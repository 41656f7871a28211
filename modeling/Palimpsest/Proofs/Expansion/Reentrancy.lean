import Mathlib.Data.Finset.Card
import Palimpsest.Proofs.Expansion.Runs

/-!
# Expanders that come back

An expander may fetch any files while it is at work, the one it is at work on among them, and so
cause further calls of itself. At every point of such a run:

1. the files for which it has been called are distinct, so the calls are nested no deeper than
   there are files to ask for;
2. a file counts as being expanded exactly while the call for it lasts;
3. a fetch of such a file calls nobody: it ends in one of the three ways of `Reentered`;
4. a fetch leaves the files being expanded as it found them, however the calls in it end.

`reentrancy_contained` puts these together.
-/

namespace Palimpsest.Expansion

namespace Store

/-- How a fetch of a file ends while the expander is at work on that file. -/
inductive Reentered (s : Store) (file : Url) (content : String) (version : Version) :
    Entry → Store → Prop where
  /-- The entry of that very version is there. -/
  | live (entry : Entry) (hentry : s.peek file = some entry) (hversion : entry.version = version) :
    Reentered s file content version entry (s.note (.hit file version))
  /-- There is nothing to expand, and an entry that says so is published. -/
  | blank (hmiss : s.current? file version = none) (hblank : Text.isBlankText content = true) :
    Reentered s file content version (.passThrough content version .skipped)
      (s.publish file (.passThrough content version .skipped))
  /-- The content is passed through, and all that changes is the journal. -/
  | passed (hmiss : s.current? file version = none) (hblank : Text.isBlankText content = false) :
    Reentered s file content version (.passThrough content version .reentrant)
      (s.note (.reentered file version))

theorem state_eq_expanding_iff (s : Store) (file : Url) :
    s.state file = .expanding ↔ file ∈ s.running := by
  unfold state isRunning
  by_cases hrunning : file ∈ s.running
  · simp [hrunning]
  · simp only [List.contains_iff_mem, hrunning, if_false, iff_false]
    cases s.peek file with
    | none => simp
    | some entry =>
      show (if entry.mapper.isIdentity then State.degraded else State.mapped) ≠ State.expanding
      split <;> simp

end Store

/-- Fetching a file that is being expanded. The expander is not asked, so it does not matter
which. -/
theorem reentered_of_mem {invoke : Invoke Store} {file : Url} {content : String}
    {version : Version} {s t : Store} {entry : Entry} (hrunning : file ∈ s.running)
    (h : fetch invoke file content version s = (entry, t)) :
    s.Reentered file content version entry t := by
  have hbegun := s.begun file content version
  obtain ⟨entry', t', hbegin, hfetch⟩ | ⟨_, _, hbegin, _, _⟩ :=
    fetch_cases invoke file content version s
  · obtain ⟨rfl, rfl⟩ : entry' = entry ∧ t' = t := by simpa [h] using hfetch.symm
    rw [hbegin] at hbegun
    cases hbegun with
    | hit _ hentry hversion => exact .live _ hentry hversion
    | blank hmiss hblank => exact .blank hmiss hblank
    | reentered hmiss hblank _ => exact .passed hmiss hblank
  · exact absurd hrunning (Store.call_of_expand hbegin).2.2

namespace Work

/-- The calls of a run are nested no deeper than there are files that it asks for. -/
theorem Reaches.length_le_card {w v : Work} {s t : Store} {stack : List Url}
    (h : w.Reaches s stack v t) {files : Finset Url}
    (hfiles : ∀ stack' file content version inside next t',
      w.Reaches s stack' (.fetch file content version inside next) t' → file ∈ files) :
    stack.length ≤ files.card := by
  rw [← List.toFinset_card_of_nodup h.nodup.1]
  apply Finset.card_le_card
  intro file hfile
  obtain ⟨stack', content, version, inside, next, t', hreach⟩ :=
    h.asked file (List.mem_toFinset.mp hfile)
  exact hfiles stack' file content version inside next t' hreach

/-- **Whatever an expander does, it is never called for a file that it is at work on.** `s` is any
store, `w` any finite tree of fetches, whose calls end in an output, a failure or a crash. -/
theorem reentrancy_contained {w v : Work} {s t : Store} {stack : List Url}
    (h : w.Reaches s stack v t) :
    (stack.Nodup ∧ ∀ file ∈ stack, file ∉ s.running) ∧
      (∀ files : Finset Url,
        (∀ stack' file content version inside next t',
          w.Reaches s stack' (.fetch file content version inside next) t' → file ∈ files) →
        stack.length ≤ files.card) ∧
      (∀ file, t.state file = .expanding ↔ file ∈ stack ∨ file ∈ s.running) ∧
      (∀ file content version request opened,
        t.begin file content version = (.expand request, opened) →
        t.state file ≠ .expanding ∧ opened.state file = .expanding) ∧
      (∀ file content version inside entry t',
        Expansion.fetch (Invoke.ofWork inside) file content version t = (entry, t') →
        (t.state file = .expanding → t.Reentered file content version entry t') ∧
          t'.running = t.running) ∧
      (w.run s).2.running = s.running := by
  have hstate : ∀ file, t.state file = .expanding ↔ file ∈ stack ∨ file ∈ s.running := by
    intro file
    rw [t.state_eq_expanding_iff, h.running, List.mem_append]
  refine ⟨h.nodup, fun files => h.length_le_card, hstate, ?_, ?_, w.running_run s⟩
  · intro file content version request opened hcall
    obtain ⟨-, rfl, hidle⟩ := Store.call_of_expand hcall
    rw [ne_eq, Store.state_eq_expanding_iff, Store.state_eq_expanding_iff]
    exact ⟨hidle, List.mem_cons_self⟩
  · intro file content version inside entry t' hfetch
    refine ⟨?_, running_of_fetch hfetch⟩
    intro hexpanding
    exact reentered_of_mem ((t.state_eq_expanding_iff file).mp hexpanding) hfetch

/-! Two files that ask for each other. -/

def sampleInner : Work :=
  .fetch (Url.ofFile ["a"]) "x" ⟨"1"⟩ (fun _ => .reply (.crashed none))
    fun _ => .reply (.crashed none)

/-- Asks for the first file, for which it asks for the second, for which it asks for the first. -/
def sampleRound : Work :=
  .fetch (Url.ofFile ["a"]) "x" ⟨"1"⟩
    (fun _ =>
      .fetch (Url.ofFile ["b"]) "y" ⟨"1"⟩ (fun _ => sampleInner) fun _ => .reply (.failed "b"))
    fun _ => .reply (.failed "a")

def sampleStore : Store := Store.create (.ofManifests []) .empty

def sampleOpened : Store :=
  (sampleStore.opened (Url.ofFile ["a"]) ⟨"1"⟩).opened (Url.ofFile ["b"]) ⟨"1"⟩

theorem sampleRound_reaches :
    sampleRound.Reaches sampleStore [Url.ofFile ["b"], Url.ofFile ["a"]] sampleInner
      sampleOpened := by
  have hfirst : sampleStore.begin (Url.ofFile ["a"]) "x" ⟨"1"⟩ = _ :=
    Store.begin_of_idle (by decide +kernel) (by decide +kernel) (by decide +kernel)
  have hsecond :
      (sampleStore.opened (Url.ofFile ["a"]) ⟨"1"⟩).begin (Url.ofFile ["b"]) "y" ⟨"1"⟩ = _ :=
    Store.begin_of_idle (by decide +kernel) (by decide +kernel) (by decide +kernel)
  show sampleRound.Reaches sampleStore (([] ++ [Url.ofFile ["b"]]) ++ [Url.ofFile ["a"]]) _ _
  exact .inside hfirst (.inside hsecond (.here sampleInner sampleOpened))

theorem sampleRound_contained :
    sampleRound.Reaches sampleStore [Url.ofFile ["b"], Url.ofFile ["a"]] sampleInner sampleOpened ∧
      sampleOpened.state (Url.ofFile ["a"]) = .expanding ∧
      sampleOpened.state (Url.ofFile ["c"]) ≠ .expanding ∧
      (sampleRound.run sampleStore).2.running = [] := by
  obtain ⟨-, -, hstate, -, -, hrun⟩ := reentrancy_contained sampleRound_reaches
  exact ⟨sampleRound_reaches, (hstate _).mpr (by decide +kernel),
    fun h => absurd ((hstate _).mp h) (by decide +kernel), hrun⟩

end Work

end Palimpsest.Expansion
