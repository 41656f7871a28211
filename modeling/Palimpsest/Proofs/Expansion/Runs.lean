import Palimpsest.Proofs.Expansion.Effects

/-!
# Points of a run

`Work.run` gives what a work leaves behind. Here are the points on the way to it:
`w.Reaches s stack v t` says that the work `w`, begun in the store `s`, comes to a point at which
the store is `t`, the innermost call has the work `v` left, and `stack` are the files for which the
expander has been called since, the innermost in front.

1. `Store.Kept.reaches`: what both halves of fetching keep holds at every point.
2. `Reaches.running`: the files that are being expanded at a point are those of the stack, then
   those of the store in which the work began.
3. `Reaches.nodup`: no file stands twice among them.

From outside, a store goes through a list of operations, one after the other; a fetch is one of
them, with all that the expander fetches during it.

4. `Store.Invariant.run`: what every operation keeps holds after every list of them.
-/

namespace Palimpsest.Expansion

/-! ## What fetching keeps -/

theorem Store.sameCalls_of_ready {s t : Store} {file : Url} {content : String} {version : Version}
    {entry : Entry} (h : s.begin file content version = (.ready entry, t)) : SameCalls s t := by
  have hbegun := s.begun file content version
  rw [h] at hbegun
  cases hbegun with
  | hit _ _ _ => exact sameCalls_note s _
  | blank _ _ => exact sameCalls_publish s file _
  | reentered _ _ _ => exact sameCalls_note s _

theorem Store.call_of_expand {s t : Store} {file : Url} {content : String} {version : Version}
    {request : Request} (h : s.begin file content version = (.expand request, t)) :
    request = s.request file content ∧ t = s.opened file version ∧ file ∉ s.running := by
  have hbegun := s.begun file content version
  rw [h] at hbegun
  cases hbegun with
  | call _ _ hidle => exact ⟨rfl, rfl, hidle⟩

/-- An expander that leaves the files being expanded as they were makes fetching do so too. -/
theorem running_fetch (invoke : Invoke Store)
    (hinvoke : ∀ request s, (invoke request s).2.running = s.running)
    (file : Url) (content : String) (version : Version) (s : Store) :
    (fetch invoke file content version s).2.running = s.running := by
  obtain ⟨entry, t, hbegin, hfetch⟩ | ⟨reply, t, -, hcall, hfetch⟩ :=
    fetch_cases invoke file content version s
  · rw [hfetch]
    exact (Store.sameCalls_of_ready hbegin).running
  · -- The file is in front again when its call ends, and is taken away with it.
    have hrunning : t.running = file :: s.running := by
      have := hinvoke (s.request file content) (s.opened file version)
      rwa [hcall] at this
    rw [hfetch]
    show (t.closed file content version reply).running = s.running
    rw [Store.running_closed, hrunning, List.erase_cons_head]

/-- A property of stores that both halves of fetching keep. -/
structure Store.Kept (P : Store → Prop) : Prop where
  begin : ∀ s file content version, P s → P (s.begin file content version).2
  closed : ∀ s file content version reply, P s → P (s.closed file content version reply)

theorem Store.Kept.fetch {P : Store → Prop} (hP : Kept P) (invoke : Invoke Store)
    (hinvoke : ∀ request s, P s → P (invoke request s).2)
    (file : Url) (content : String) (version : Version) {s : Store} (hs : P s) :
    P (fetch invoke file content version s).2 := by
  have hbegun := hP.begin s file content version hs
  obtain ⟨entry, t, hbegin, hfetch⟩ | ⟨reply, t, hbegin, hcall, hfetch⟩ :=
    fetch_cases invoke file content version s
  · rw [hbegin] at hbegun
    rw [hfetch]
    exact hbegun
  · rw [hbegin] at hbegun
    have ht := hinvoke (s.request file content) (s.opened file version) hbegun
    rw [hcall] at ht
    rw [hfetch]
    exact hP.closed t file content version reply ht

namespace Work

theorem run_fetch (file : Url) (content : String) (version : Version) (inside : Request → Work)
    (next : Entry → Work) (s : Store) :
    (fetch file content version inside next).run s =
      (next (Expansion.fetch (Invoke.ofWork inside) file content version s).1).run
        (Expansion.fetch (Invoke.ofWork inside) file content version s).2 := rfl

theorem running_run (w : Work) (s : Store) : (w.run s).2.running = s.running := by
  induction w generalizing s with
  | reply r => rfl
  | fetch file content version inside next ihInside ihNext =>
    rw [run_fetch, ihNext]
    exact running_fetch _ ihInside file content version s

/-- A fetch leaves the files being expanded as they were, whatever the expander does in it. -/
theorem running_of_fetch {inside : Request → Work} {file : Url} {content : String}
    {version : Version} {s t : Store} {entry : Entry}
    (h : Expansion.fetch (Invoke.ofWork inside) file content version s = (entry, t)) :
    t.running = s.running := by
  have hkept := running_fetch (Invoke.ofWork inside)
    (fun request => (inside request).running_run) file content version s
  rwa [h] at hkept

end Work

theorem Store.Kept.run {P : Store → Prop} (hP : Kept P) (w : Work) {s : Store} (hs : P s) :
    P (w.run s).2 := by
  induction w generalizing s with
  | reply r => exact hs
  | fetch file content version inside next ihInside ihNext =>
    rw [Work.run_fetch]
    exact ihNext _ (hP.fetch _ (fun request _ => ihInside request) file content version hs)

/-! ## Points -/

namespace Work

/-- A point of the run of a work: the files for which the expander has been called since the run
began, the work left in the innermost call, and the store. -/
inductive Reaches : Work → Store → List Url → Work → Store → Prop where
  | here (w : Work) (s : Store) : Reaches w s [] w s
  /-- A point in the call that a fetch makes. -/
  | inside {file : Url} {content : String} {version : Version} {inside : Request → Work}
    {next : Entry → Work} {request : Request} {s opened t : Store} {stack : List Url} {v : Work}
    (hcall : s.begin file content version = (.expand request, opened))
    (h : Reaches (inside request) opened stack v t) :
    Reaches (.fetch file content version inside next) s (stack ++ [file]) v t
  /-- A point after a fetch. -/
  | after {file : Url} {content : String} {version : Version} {inside : Request → Work}
    {next : Entry → Work} {s s' t : Store} {entry : Entry} {stack : List Url} {v : Work}
    (hfetch : Expansion.fetch (Invoke.ofWork inside) file content version s = (entry, s'))
    (h : Reaches (next entry) s' stack v t) :
    Reaches (.fetch file content version inside next) s stack v t

namespace Reaches

variable {w v : Work} {s t : Store} {stack : List Url}

theorem running (h : w.Reaches s stack v t) : t.running = stack ++ s.running := by
  induction h with
  | here w s => rfl
  | inside hcall h ih =>
    obtain ⟨-, rfl, -⟩ := Store.call_of_expand hcall
    rw [ih, List.append_assoc]
    rfl
  | after hfetch h ih =>
    rw [ih, running_of_fetch hfetch]

/-- No call is made for a file while it is being expanded. -/
theorem nodup (h : w.Reaches s stack v t) : stack.Nodup ∧ ∀ file ∈ stack, file ∉ s.running := by
  induction h with
  | here w s => simp
  | inside hcall h ih =>
    rename_i file content version inside next request s opened t stack v
    obtain ⟨-, rfl, hidle⟩ := Store.call_of_expand hcall
    obtain ⟨hnodup, hapart⟩ := ih
    -- Inside the call the file counts as being expanded, so no call further in is for it.
    have hnew : ∀ other ∈ stack, other ≠ file ∧ other ∉ s.running := by
      intro other hother
      exact ⟨fun heq => hapart other hother (heq ▸ List.mem_cons_self),
        fun hmem => hapart other hother (List.mem_cons_of_mem file hmem)⟩
    constructor
    · rw [List.nodup_append]
      refine ⟨hnodup, List.pairwise_singleton _ file, ?_⟩
      intro other hother file' hfile'
      rw [List.mem_singleton.mp hfile']
      exact (hnew other hother).1
    · intro other hother
      rcases List.mem_append.mp hother with hother | hother
      · exact (hnew other hother).2
      · rw [List.mem_singleton.mp hother]
        exact hidle
  | after hfetch h ih =>
    rw [running_of_fetch hfetch] at ih
    exact ih

/-- Every call was asked for by a fetch on the way. -/
theorem asked (h : w.Reaches s stack v t) :
    ∀ file ∈ stack, ∃ stack' content version inside next t',
      w.Reaches s stack' (.fetch file content version inside next) t' := by
  induction h with
  | here w s => simp
  | inside hcall h ih =>
    intro other hother
    rcases List.mem_append.mp hother with hother | hother
    · obtain ⟨stack', content, version, inside, next, t', hreach⟩ := ih other hother
      exact ⟨_, content, version, inside, next, t', .inside hcall hreach⟩
    · rw [List.mem_singleton.mp hother]
      exact ⟨_, _, _, _, _, _, .here _ _⟩
  | after hfetch h ih =>
    intro other hother
    obtain ⟨stack', content, version, inside, next, t', hreach⟩ := ih other hother
    exact ⟨_, content, version, inside, next, t', .after hfetch hreach⟩

end Reaches

end Work

theorem Store.Kept.reaches {P : Store → Prop} (hP : Kept P) {w v : Work} {s t : Store}
    {stack : List Url} (h : w.Reaches s stack v t) (hs : P s) : P t := by
  induction h with
  | here w s => exact hs
  | inside hcall h ih =>
    rename_i file content version inside next request s opened t stack v
    have hopened := hP.begin s file content version hs
    rw [hcall] at hopened
    exact ih hopened
  | after hfetch h ih =>
    rename_i file content version inside next s s' t entry stack v
    have hs' := hP.fetch (Invoke.ofWork inside)
      (fun request _ => hP.run (inside request)) file content version hs
    rw [hfetch] at hs'
    exact ih hs'

/-! ## Operations -/

/-- What can be done to a store from outside. -/
inductive Operation where
  | get (file : Url) (content : String) (version : Version) (expander : Request → Work)
  | remove (file : Url)
  | clear
  | setOptions (options : Expander.Options)

namespace Operation

def apply (s : Store) : Operation → Store
  | get file content version expander =>
    (fetch (Invoke.ofWork expander) file content version s).2
  | remove file => s.remove file
  | clear => s.clear
  | setOptions options => s.setOptions options

def run (ops : List Operation) (s : Store) : Store := ops.foldl apply s

end Operation

/-- A property of stores that every operation keeps. -/
structure Store.Invariant (P : Store → Prop) : Prop extends Kept P where
  remove : ∀ s file, P s → P (s.remove file)
  setOptions : ∀ s options, P s → P (s.setOptions options)

theorem Store.clear_of_remove {P : Store → Prop} (hremove : ∀ s file, P s → P (s.remove file))
    {s : Store} (hs : P s) : P s.clear := by
  unfold clear
  generalize s.entries.keys = files
  induction files generalizing s with
  | nil => exact hs
  | cons file rest ih => exact ih (hremove s file hs)

theorem Store.Invariant.apply {P : Store → Prop} (hP : Invariant P) (op : Operation) {s : Store}
    (hs : P s) : P (op.apply s) := by
  cases op with
  | get file content version expander =>
    exact hP.fetch _ (fun request _ => hP.toKept.run (expander request)) file content version hs
  | remove file => exact hP.remove s file hs
  | clear => exact clear_of_remove hP.remove hs
  | setOptions options => exact hP.setOptions s options hs

theorem Store.Invariant.run {P : Store → Prop} (hP : Invariant P) (ops : List Operation)
    {s : Store} (hs : P s) : P (Operation.run ops s) := by
  induction ops generalizing s with
  | nil => exact hs
  | cons op rest ih => exact ih (hP.apply op hs)

end Palimpsest.Expansion
