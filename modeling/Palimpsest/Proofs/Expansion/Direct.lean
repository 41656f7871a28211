import Palimpsest.Proofs.Expansion.Fresh

/-!
# A store agrees with direct expansion

A store answers from entries that it made at some earlier time, under switches that may have been
changed since and changed back. For an expander that looks at its request only this does not show:
a fetch gives what a store without entries would give, with the switches in force. All that is
asked of the operations is that a version of a file stands for one content; versions may go back
and forth, and files may come in any order.

1. `Operation.Plain`, `VersionsMean`: what is asked of the operations.
2. `Store.InStep`: what holds between any two of them, `InStep.apply` for one operation and
   `InStep.run` for a list of them.
3. `fetched_as_if_new`: the answer of every fetch on the way.

Switches that are equal to those in force are not taken over, so those in force are equal to the
ones that were set last, and they need not be the very same. To an expander that cannot tell equal
switches apart this makes no difference.
-/

namespace Palimpsest.Expansion

namespace Operation

/-- The operation is no fetch, or the expander does nothing in it but look at its request and
reply. -/
def Plain (expander : Request → Expander.Reply) : Operation → Prop
  | get _ _ _ work => ∀ request, work request = .reply (expander request)
  | remove _ | clear | setOptions _ => True

/-- The operation fetches this version of the file with this content. -/
def Presents (file : Url) (version : Version) (content : String) : Operation → Prop
  | get f c v _ => f = file ∧ c = content ∧ v = version
  | remove _ | clear | setOptions _ => False

def lastSet (options : Expander.Options) : List Operation → Expander.Options
  | [] => options
  | setOptions changed :: rest => lastSet changed rest
  | _ :: rest => lastSet options rest

theorem Plain.invoke_eq {expander : Request → Expander.Reply} {file : Url} {content : String}
    {version : Version} {work : Request → Work} (h : (get file content version work).Plain expander) :
    Invoke.ofWork work = Invoke.ofFunction expander := by
  funext request s
  show (work request).run s = (expander request, s)
  rw [h request]
  rfl

end Operation

/-- Two fetches of the same version of a file are for the same content. -/
def VersionsMean (ops : List Operation) : Prop :=
  ∀ op ∈ ops, ∀ op' ∈ ops, ∀ file version content content',
    op.Presents file version content → op'.Presents file version content' → content = content'

namespace Store

variable {expander : Request → Expander.Reply} {providers : Provider.Resolver}
  {seen : Url → Version → String → Prop} {last : Expander.Options} {s : Store}

theorem faithful_clear (s : Store) : s.clear.Faithful expander seen :=
  faithful_of_peek_eq_none s.peek_clear

/-- Between two operations nothing is being expanded, every entry is the fresh one for the switches
in force, and these are equal to those that were set last. -/
structure InStep (expander : Request → Expander.Reply) (providers : Provider.Resolver)
    (seen : Url → Version → String → Prop) (last : Expander.Options) (s : Store) : Prop where
  idle : s.running = []
  providers : s.providers = providers
  faithful : s.Faithful expander seen
  options : s.options.same last = true

theorem inStep_create (providers : Provider.Resolver) (options : Expander.Options) :
    (create providers options).InStep expander providers seen options :=
  ⟨rfl, rfl, faithful_of_peek_eq_none fun _ => rfl, options.same_refl⟩

theorem InStep.fetched (h : s.InStep expander providers seen last) (file : Url) (content : String)
    (version : Version) :
    s.Fetched expander file content version
      (fetch (Invoke.ofFunction expander) file content version s).1
      (fetch (Invoke.ofFunction expander) file content version s).2 := by
  apply Expansion.fetched
  rw [h.idle]
  exact List.not_mem_nil

theorem InStep.apply (h : s.InStep expander providers seen last) {op : Operation}
    (hplain : op.Plain expander)
    (hseen : ∀ file version content, op.Presents file version content → seen file version content) :
    (op.apply s).InStep expander providers seen (Operation.lastSet last [op]) := by
  cases op with
  | get file content version work =>
    have hfetched := h.fetched file content version
    show (fetch (Invoke.ofWork work) file content version s).2.InStep expander providers seen last
    rw [hplain.invoke_eq]
    refine ⟨hfetched.running.trans h.idle, hfetched.providers.trans h.providers, ?_, ?_⟩
    · exact h.faithful.fetched (hseen file version content ⟨rfl, rfl, rfl⟩) hfetched
    · rw [hfetched.options]
      exact h.options
  | remove file =>
    have hcalls := sameCalls_remove s file
    refine ⟨hcalls.running.trans h.idle, hcalls.providers.trans h.providers,
      h.faithful.remove file, ?_⟩
    show (s.remove file).options.same last = true
    rw [hcalls.options]
    exact h.options
  | clear =>
    have hcalls := sameCalls_clear s
    refine ⟨hcalls.running.trans h.idle, hcalls.providers.trans h.providers, faithful_clear s, ?_⟩
    show s.clear.options.same last = true
    rw [hcalls.options]
    exact h.options
  | setOptions options =>
    -- Entries survive only where the switches in force do, so no entry is left from other switches.
    exact ⟨(running_setOptions s options).trans h.idle,
      (providers_setOptions s options).trans h.providers, h.faithful.setOptions options,
      same_setOptions s options⟩

theorem InStep.run {ops : List Operation} (h : s.InStep expander providers seen last)
    (hplain : ∀ op ∈ ops, op.Plain expander)
    (hseen : ∀ op ∈ ops, ∀ file version content,
      op.Presents file version content → seen file version content) :
    (Operation.run ops s).InStep expander providers seen (Operation.lastSet last ops) := by
  induction ops generalizing s last with
  | nil => exact h
  | cons op rest ih =>
    have hnext := ih (h.apply (hplain op List.mem_cons_self) (hseen op List.mem_cons_self))
      (fun op' hop' => hplain op' (List.mem_cons_of_mem op hop'))
      (fun op' hop' => hseen op' (List.mem_cons_of_mem op hop'))
    cases op with
    | get _ _ _ _ => exact hnext
    | remove _ => exact hnext
    | clear => exact hnext
    | setOptions _ => exact hnext

theorem InStep.fresh (h : s.InStep expander providers seen last) {file : Url} {content : String}
    {version : Version} (hunique : ∀ other, seen file version other → other = content) :
    (fetch (Invoke.ofFunction expander) file content version s).1 =
      freshEntry expander providers s.options file content version := by
  rw [h.faithful.fresh hunique (h.fetched file content version), h.providers]

end Store

/-- To an expander that does not tell equal switches apart, they give the same fresh entry. -/
theorem freshEntry_congr {expander : Request → Expander.Reply} {providers : Provider.Resolver}
    {a b : Expander.Options} (hab : a.same b = true)
    (hexpander : ∀ source file a b, a.same b = true →
      expander ⟨source, file, a, providers⟩ = expander ⟨source, file, b, providers⟩)
    (file : Url) (content : String) (version : Version) :
    freshEntry expander providers a file content version =
      freshEntry expander providers b file content version := by
  rw [freshEntry_eq, freshEntry_eq, hexpander content file a b hab]

/-- **A store agrees with direct expansion.** Take any list of operations on a new store in which
the expander only looks at its requests, whatever it replies, and a version of a file stands for one
content. Then, for each fetch of the list:

1. the entry is the one that a new store, with the switches now in force, gives for the same file,
   content and version;
2. the switches in force are equal to those that were set last;
3. the entry is the one that a new store with the very switches set last gives, if the expander does
   not tell equal switches apart. -/
theorem fetched_as_if_new (expander : Request → Expander.Reply) (providers : Provider.Resolver)
    (options : Expander.Options) {ops : List Operation} (hplain : ∀ op ∈ ops, op.Plain expander)
    (hmean : VersionsMean ops) (before after : List Operation) {file : Url} {content : String}
    {version : Version} {work : Request → Work}
    (hops : ops = before ++ .get file content version work :: after) :
    let s := Operation.run before (Store.create providers options)
    let entry := (fetch (Invoke.ofWork work) file content version s).1
    entry = freshEntry expander providers s.options file content version ∧
      s.options.same (Operation.lastSet options before) = true ∧
      ((∀ source file a b, a.same b = true →
          expander ⟨source, file, a, providers⟩ = expander ⟨source, file, b, providers⟩) →
        entry = freshEntry expander providers (Operation.lastSet options before) file content
          version) := by
  intro s entry
  have hget : .get file content version work ∈ ops := by simp [hops]
  have hbefore : ∀ op ∈ before, op ∈ ops := by
    intro op hop
    rw [hops]
    exact List.mem_append_left _ hop
  -- A version has been seen with a content where one of the operations presents it so.
  have hstep : s.InStep expander providers
      (fun file version content => ∃ op ∈ ops, op.Presents file version content)
      (Operation.lastSet options before) :=
    (Store.inStep_create providers options).run (fun op hop => hplain op (hbefore op hop))
      (fun op hop _ _ _ hpresents => ⟨op, hbefore op hop, hpresents⟩)
  have hentry : entry = freshEntry expander providers s.options file content version := by
    show (fetch (Invoke.ofWork work) file content version s).1 = _
    rw [(hplain _ hget).invoke_eq]
    apply hstep.fresh
    rintro other ⟨op, hop, hother⟩
    exact hmean op hop _ hget file version other content hother ⟨rfl, rfl, rfl⟩
  refine ⟨hentry, hstep.options, ?_⟩
  intro hexpander
  rw [hentry]
  exact freshEntry_congr hstep.options hexpander file content version

/-! Switches that change and change back, and a version that comes back. -/

/-- The expander that tells whether annotations are kept, and breaks down over some texts. -/
def keepExpander : Request → Expander.Reply := fun request =>
  if request.source = "bad" then .crashed none
  else .output ⟨if request.options.keepAnnotations then "kept" else "dropped", none, [], none⟩

/-- A fetch of the one file, with an expander that tells whether annotations are kept. -/
def keepFetch (content version : String) : Operation :=
  .get (Url.ofFile ["a"]) content ⟨version⟩ fun request => .reply (keepExpander request)

def backAndForth : List Operation :=
  [keepFetch "x" "1", .setOptions ⟨true, .empty⟩, keepFetch "x" "1", keepFetch "bad" "2",
    .setOptions .empty, .setOptions .empty]

theorem backAndForth_mean : VersionsMean (backAndForth ++ [keepFetch "x" "1"]) := by
  have hmeaning : ∀ op ∈ backAndForth ++ [keepFetch "x" "1"], ∀ file version content,
      op.Presents file version content → content = if version.token = "1" then "x" else "bad" := by
    intro op hop file version content hpresents
    simp only [backAndForth, List.cons_append, List.nil_append, List.mem_cons, List.not_mem_nil,
      or_false] at hop
    rcases hop with rfl | rfl | rfl | rfl | rfl | rfl | rfl
    · obtain ⟨-, rfl, rfl⟩ := hpresents; rfl
    · cases hpresents
    · obtain ⟨-, rfl, rfl⟩ := hpresents; rfl
    · obtain ⟨-, rfl, rfl⟩ := hpresents; rfl
    · cases hpresents
    · cases hpresents
    · obtain ⟨-, rfl, rfl⟩ := hpresents; rfl
  intro op hop op' hop' file version content content' hcontent hcontent'
  rw [hmeaning op hop file version content hcontent,
    hmeaning op' hop' file version content' hcontent']

theorem backAndForth_plain :
    ∀ op ∈ backAndForth ++ [keepFetch "x" "1"], op.Plain keepExpander := by
  intro op hop
  simp only [backAndForth, List.cons_append, List.nil_append, List.mem_cons, List.not_mem_nil,
    or_false] at hop
  rcases hop with rfl | rfl | rfl | rfl | rfl | rfl | rfl <;> simp [Operation.Plain, keepFetch]

/-- After the switches have changed back, the version that was expanded under both is expanded as if
it had never been. -/
theorem backAndForth_as_new :
    VersionsMean (backAndForth ++ [keepFetch "x" "1"]) ∧
      (∀ op ∈ backAndForth ++ [keepFetch "x" "1"], op.Plain keepExpander) ∧
      (fetch (Invoke.ofWork fun request => .reply (keepExpander request)) (Url.ofFile ["a"]) "x" ⟨"1"⟩
          (Operation.run backAndForth (.create (.ofManifests []) .empty))).1 =
        freshEntry keepExpander (.ofManifests []) .empty (Url.ofFile ["a"]) "x" ⟨"1"⟩ := by
  obtain ⟨-, -, hlast⟩ := fetched_as_if_new keepExpander (.ofManifests []) .empty backAndForth_plain
    backAndForth_mean backAndForth [] rfl
  refine ⟨backAndForth_mean, backAndForth_plain, hlast ?_⟩
  intro source file a b hab
  have hkeep : a.keepAnnotations = b.keepAnnotations := by
    simp only [Expander.Options.same, Bool.and_eq_true, beq_iff_eq] at hab
    exact hab.1
  simp only [keepExpander, hkeep]

end Palimpsest.Expansion
