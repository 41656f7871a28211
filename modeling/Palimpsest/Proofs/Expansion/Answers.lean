import Palimpsest.Proofs.Expansion.Runs
import Palimpsest.Proofs.Mapping.Validity

/-!
# Answers and where they come from

Whatever an expander does, a fetch is answered with an entry that can be used. Here are the answers
of a whole run, those to the fetches of the expander among them, and what is behind each.

1. `Entry.Built`: what an entry is when it is new. It passes the content through, or it is an
   output whose layout holds together and whose declarations are not blank.
2. `answers`: the fetches of a run with their answers, in the order in which they end.
3. `Answer.Sourced`: the entry was built for this very fetch, or for an earlier one of the same
   version of the file, and was in the store.
4. `misbehaviour_contained`: every answer of every run is sourced and in the store afterwards, and
   no entry of a fetch that met itself ever is.
-/

namespace Palimpsest.Expansion

open Mapping (Mapper)

/-! ## New entries -/

/-- What an entry is that was built for a version with this content. -/
structure Entry.Built (content : String) (version : Version) (e : Entry) : Prop where
  version : e.version = version
  /-- Without an output, the content and nothing else. -/
  passed : e.outcome ≠ .expanded →
    e.code = content ∧ e.declarations = none ∧ e.diagnostics = [] ∧ e.mapper = .identity
  /-- With an output, a layout that holds together, if there is one. -/
  mapped : e.outcome = .expanded →
    e.mapper = .identity ∨ ∃ map, e.mapper = .segments map ∧ map.WellFormed
  declared : e.outcome = .expanded →
    ∀ text, e.declarations = some text → Text.isBlankText text = false

theorem Entry.built_passThrough (content : String) (version : Version) (outcome : Outcome)
    (h : outcome ≠ .expanded) : (passThrough content version outcome).Built content version where
  version := rfl
  passed _ := ⟨rfl, rfl, rfl, rfl⟩
  mapped hexpanded := absurd hexpanded h
  declared hexpanded := absurd hexpanded h

theorem wellFormed_of_ofLayout? {layout : Option Mapping.Layout} {mapper : Mapper}
    (h : Mapper.ofLayout? layout = .ok mapper) :
    mapper = .identity ∨ ∃ map, mapper = .segments map ∧ map.WellFormed := by
  cases layout with
  | none => exact Or.inl (Except.ok.inj h).symm
  | some layout =>
    cases hbuild : Mapping.SegmentMap.ofLayout layout with
    | error fault =>
      simp only [Mapper.ofLayout?, hbuild] at h
      cases h
    | ok map =>
      simp only [Mapper.ofLayout?, hbuild] at h
      exact Or.inr ⟨map, (Except.ok.inj h).symm, Mapping.SegmentMap.build_wellFormed hbuild⟩

theorem not_blank_of_usable {declarations : Option String} {text : String}
    (h : usableDeclarations declarations = some text) : Text.isBlankText text = false := by
  have hkept := (Option.filter_eq_some_iff.mp h).2
  simpa using hkept

/-- A failure, a crash and a layout that cannot be true are passed over, and what is left is fit to
be used. -/
theorem Entry.built_ofReply (content : String) (version : Version) (reply : Expander.Reply) :
    (ofReply content version reply).Built content version := by
  unfold ofReply
  cases reply with
  | failed text => exact built_passThrough content version _ (by simp)
  | crashed text => exact built_passThrough content version _ (by simp)
  | output output =>
    cases hlayout : Mapper.ofLayout? output.layout with
    | error fault =>
      simp only [judge, hlayout]
      exact built_passThrough content version _ (by simp)
    | ok mapper =>
      simp only [judge, hlayout]
      exact ⟨rfl, fun hnot => absurd rfl hnot, fun _ => wellFormed_of_ofLayout? hlayout,
        fun _ text htext => not_blank_of_usable htext⟩

theorem Entry.ofReply_outcome_ne_reentrant (content : String) (version : Version)
    (reply : Expander.Reply) : (ofReply content version reply).outcome ≠ .reentrant := by
  unfold ofReply
  cases hjudge : judge version reply with
  | error rejection => simp [passThrough]
  | ok entry =>
    cases reply with
    | failed text => cases hjudge
    | crashed text => cases hjudge
    | output output =>
      cases hlayout : Mapper.ofLayout? output.layout with
      | error fault =>
        simp only [judge, hlayout] at hjudge
        cases hjudge
      | ok mapper =>
        simp only [judge, hlayout] at hjudge
        cases hjudge
        simp

/-! ## No entry of a fetch that met itself is kept -/

namespace Store

/-- No entry was made for a fetch of a file that was being expanded. -/
def Settled (s : Store) : Prop :=
  ∀ file entry, s.peek file = some entry → entry.outcome ≠ .reentrant

theorem settled_create (providers : Provider.Resolver) (options : Expander.Options) :
    (create providers options).Settled := by
  intro file entry hentry
  cases hentry

theorem Settled.publish {s : Store} (h : s.Settled) (file : Url) {entry : Entry}
    (hentry : entry.outcome ≠ .reentrant) : (s.publish file entry).Settled := by
  intro other stored hstored
  rw [peek_publish] at hstored
  split at hstored
  · cases hstored
    exact hentry
  · exact h other stored hstored

theorem Settled.remove {s : Store} (h : s.Settled) (file : Url) : (s.remove file).Settled := by
  intro other stored hstored
  rw [peek_remove] at hstored
  split at hstored
  · cases hstored
  · exact h other stored hstored

theorem invariant_settled : Invariant Settled where
  begin s file content version h := by
    have hbegun := s.begun file content version
    generalize s.begin file content version = result at hbegun
    cases hbegun with
    | hit _ _ _ => exact h
    | blank _ _ => exact h.publish file (by simp [Entry.passThrough])
    | reentered _ _ _ => exact h
    | call _ _ _ => exact h
  closed s file content version reply h := by
    have hpublished := h.publish file (Entry.ofReply_outcome_ne_reentrant content version reply)
    intro other stored hstored
    rw [peek_closed, ← peek_publish] at hstored
    exact hpublished other stored hstored
  remove _ file h := h.remove file
  setOptions s options h := by
    rcases s.setOptions_cases options with ⟨-, heq⟩ | ⟨-, heq⟩
    · rw [heq]
      exact h
    · rw [heq]
      intro file entry hentry
      rw [peek_note, peek_clear] at hentry
      cases hentry

end Store

/-! ## The answers of a run -/

/-- A fetch and its answer. -/
structure Answer where
  file : Url
  content : String
  version : Version
  /-- The store that was asked. -/
  before : Store
  entry : Entry
  /-- The store right after the answer. -/
  after : Store

namespace Answer

def ofFetch (expander : Request → Work) (file : Url) (content : String) (version : Version)
    (s : Store) : Answer :=
  { file, content, version
    before := s
    entry := (fetch (Invoke.ofWork expander) file content version s).1
    after := (fetch (Invoke.ofWork expander) file content version s).2 }

def IsNew (a : Answer) : Prop := a.before.current? a.file a.version = none

/-- What is behind an answer. -/
inductive Sourced (earlier : List Answer) (a : Answer) : Prop where
  /-- The entry was built for this fetch. -/
  | built (hnew : a.IsNew) (hbuilt : a.entry.Built a.content a.version)
  /-- The entry was in the store and was built for an earlier fetch. -/
  | kept (made : Answer) (hmade : made ∈ earlier) (hhit : a.before.peek a.file = some a.entry)
    (hfile : made.file = a.file) (hversion : made.version = a.version)
    (hentry : made.entry = a.entry) (hnew : made.IsNew)
    (hbuilt : made.entry.Built made.content made.version)

end Answer

/-- What the expander is answered while it is at work for a fetch, if it is called at all. -/
def Store.answersInside (inside : Request → Store → List Answer) (s : Store) (file : Url)
    (content : String) (version : Version) : List Answer :=
  match s.begin file content version with
  | (.ready _, _) => []
  | (.expand request, opened) => inside request opened

/-- The answers during the run of a work, in the order in which they are given. -/
def Work.answers : Work → Store → List Answer
  | reply _, _ => []
  | fetch file content version inside next, s =>
    s.answersInside (fun request opened => (inside request).answers opened) file content version ++
      Answer.ofFetch inside file content version s ::
        (next (Answer.ofFetch inside file content version s).entry).answers
          (Answer.ofFetch inside file content version s).after

namespace Operation

def answers (s : Store) : Operation → List Answer
  | get file content version expander =>
    s.answersInside (fun request => (expander request).answers) file content version ++
      [Answer.ofFetch expander file content version s]
  | remove _ | clear | setOptions _ => []

def allAnswers : List Operation → Store → List Answer
  | [], _ => []
  | op :: rest, s => op.answers s ++ allAnswers rest (op.apply s)

end Operation

/-! ## Every answer is sourced -/

/-- Each answer of the second list is sourced in the first list and those before it. -/
def Justified : List Answer → List Answer → Prop
  | _, [] => True
  | earlier, a :: rest => a.Sourced earlier ∧ Justified (earlier ++ [a]) rest

theorem justified_append {earlier first second : List Answer} :
    Justified earlier (first ++ second) ↔
      Justified earlier first ∧ Justified (earlier ++ first) second := by
  induction first generalizing earlier with
  | nil => simp [Justified]
  | cons a rest ih => simp [Justified, ih, and_assoc]

/-- Every entry of the store was built for one of the answers. -/
def Store.Accounted (s : Store) (earlier : List Answer) : Prop :=
  ∀ file entry, s.peek file = some entry → ∃ made ∈ earlier,
    made.file = file ∧ made.entry = entry ∧ made.IsNew ∧
      made.entry.Built made.content made.version

namespace Store.Accounted

variable {s t : Store} {earlier : List Answer}

theorem congr (h : s.Accounted earlier) (hpeek : ∀ file, t.peek file = s.peek file) :
    t.Accounted earlier := by
  intro file entry hentry
  rw [hpeek] at hentry
  exact h file entry hentry

theorem more (h : s.Accounted earlier) (later : List Answer) :
    s.Accounted (earlier ++ later) := by
  intro file entry hentry
  obtain ⟨made, hmade, hrest⟩ := h file entry hentry
  exact ⟨made, List.mem_append_left later hmade, hrest⟩

/-- A new entry is accounted for by the answer that it was built for. -/
theorem insert (h : s.Accounted earlier) {a : Answer} (hnew : a.IsNew)
    (hbuilt : a.entry.Built a.content a.version)
    (hpeek : ∀ file, t.peek file = if file = a.file then some a.entry else s.peek file) :
    t.Accounted (earlier ++ [a]) := by
  intro file entry hentry
  rw [hpeek] at hentry
  split at hentry
  · rename_i hfile
    exact ⟨a, by simp, hfile.symm, Option.some.inj hentry, hnew, hbuilt⟩
  · exact h.more [a] file entry hentry

theorem of_peek_eq_none (h : ∀ file, s.peek file = none) : s.Accounted earlier := by
  intro file entry hentry
  rw [h] at hentry
  cases hentry

theorem remove (h : s.Accounted earlier) (file : Url) : (s.remove file).Accounted earlier := by
  intro other entry hentry
  rw [peek_remove] at hentry
  split at hentry
  · cases hentry
  · exact h other entry hentry

end Store.Accounted

/-- One fetch: its answer is sourced, and so are those that the expander gets meanwhile. -/
theorem justified_fetch (expander : Request → Work) (file : Url) (content : String)
    (version : Version) {s : Store} {earlier : List Answer} (h : s.Accounted earlier)
    (hinside : ∀ request opened earlier, opened.Accounted earlier →
      Justified earlier ((expander request).answers opened) ∧
        ((expander request).run opened).2.Accounted
          (earlier ++ (expander request).answers opened)) :
    let inside := s.answersInside (fun request => (expander request).answers) file content version
    let answer := Answer.ofFetch expander file content version s
    Justified earlier (inside ++ [answer]) ∧
      answer.after.Accounted (earlier ++ (inside ++ [answer])) := by
  intro inside answer
  have hbegun := s.begun file content version
  obtain ⟨entry, t, hbegin, hfetch⟩ | ⟨reply, t, hbegin, hcall, hfetch⟩ :=
    fetch_cases (Invoke.ofWork expander) file content version s
  · -- The expander is not called.
    have hnone : inside = [] := by simp only [inside, Store.answersInside, hbegin]
    have hanswer : answer = ⟨file, content, version, s, entry, t⟩ := by
      simp only [answer, Answer.ofFetch, hfetch]
    rw [hbegin] at hbegun
    rw [hnone, hanswer, List.nil_append, Justified, Justified, and_true]
    cases hbegun with
    | hit _ hentry hversion =>
      obtain ⟨made, hmade, hfile, hsame, hnew, hbuilt⟩ := h file entry hentry
      have hmadeVersion : made.version = version := by
        rw [← hbuilt.version, hsame, hversion]
      exact ⟨.kept made hmade hentry hfile hmadeVersion hsame hnew hbuilt, h.more _⟩
    | blank hmiss hblank =>
      have hbuilt := Entry.built_passThrough content version .skipped (by simp)
      exact ⟨.built hmiss hbuilt, h.insert hmiss hbuilt (Store.peek_publish s file _)⟩
    | reentered hmiss hblank hrunning =>
      have hbuilt := Entry.built_passThrough content version .reentrant (by simp)
      exact ⟨.built hmiss hbuilt, h.more _⟩
  · -- The expander is called, and leaves a store in which every entry is accounted for.
    have hinner : inside = (expander (s.request file content)).answers (s.opened file version) := by
      simp only [inside, Store.answersInside, hbegin]
    have hanswer : answer = ⟨file, content, version, s, Entry.ofReply content version reply,
        t.closed file content version reply⟩ := by
      simp only [answer, Answer.ofFetch, hfetch]
    rw [hbegin] at hbegun
    have hopened : (s.opened file version).Accounted earlier := h.congr fun _ => rfl
    obtain ⟨hjustified, haccounted⟩ := hinside (s.request file content) _ earlier hopened
    rw [← hinner] at hjustified haccounted
    have hrun : ((expander (s.request file content)).run (s.opened file version)).2 = t := by
      have := congrArg Prod.snd hcall
      exact this
    rw [hrun] at haccounted
    cases hbegun with
    | call hmiss _ _ =>
      have hbuilt := Entry.built_ofReply content version reply
      rw [justified_append, hanswer, Justified, Justified, and_true]
      refine ⟨⟨hjustified, .built hmiss hbuilt⟩, ?_⟩
      rw [← List.append_assoc]
      exact haccounted.insert hmiss hbuilt (Store.peek_closed t file content version reply)

/-- The answers of a work, by induction on the work: what it fetches, what the expander is answered
during that, and what comes after. -/
theorem Work.justified (w : Work) {s : Store} {earlier : List Answer} (h : s.Accounted earlier) :
    Justified earlier (w.answers s) ∧ (w.run s).2.Accounted (earlier ++ w.answers s) := by
  induction w generalizing s earlier with
  | reply r =>
    rw [answers, List.append_nil]
    exact ⟨trivial, h⟩
  | fetch file content version inside next ihInside ihNext =>
    obtain ⟨hjustified, haccounted⟩ := justified_fetch inside file content version h
      fun request _ _ => ihInside request
    obtain ⟨hnext, hafter⟩ :=
      ihNext (Answer.ofFetch inside file content version s).entry haccounted
    rw [answers, run_fetch, List.append_cons, ← List.append_assoc]
    exact ⟨justified_append.mpr ⟨hjustified, hnext⟩, hafter⟩

theorem Operation.justified (op : Operation) {s : Store} {earlier : List Answer}
    (h : s.Accounted earlier) :
    Justified earlier (op.answers s) ∧ (op.apply s).Accounted (earlier ++ op.answers s) := by
  cases op with
  | get file content version expander =>
    exact justified_fetch expander file content version h fun request _ _ =>
      (expander request).justified
  | remove file =>
    rw [answers, List.append_nil]
    exact ⟨trivial, h.remove file⟩
  | clear =>
    rw [answers, List.append_nil]
    exact ⟨trivial, .of_peek_eq_none s.peek_clear⟩
  | setOptions options =>
    rw [answers, List.append_nil]
    refine ⟨trivial, ?_⟩
    rcases s.setOptions_cases options with ⟨-, heq⟩ | ⟨-, heq⟩
    · rw [apply, heq]
      exact h
    · rw [apply, heq]
      apply Store.Accounted.of_peek_eq_none
      intro file
      rw [Store.peek_note, Store.peek_clear]

theorem Operation.justified_allAnswers (ops : List Operation) {s : Store}
    {earlier : List Answer} (h : s.Accounted earlier) :
    Justified earlier (allAnswers ops s) := by
  induction ops generalizing s earlier with
  | nil => trivial
  | cons op rest ih =>
    obtain ⟨hjustified, haccounted⟩ := op.justified h
    exact justified_append.mpr ⟨hjustified, ih haccounted⟩

/-! ## What a fetch leaves in the store -/

theorem peek_after_fetch (invoke : Invoke Store) (file : Url) (content : String)
    (version : Version) (s : Store)
    (h : (fetch invoke file content version s).1.outcome ≠ .reentrant) :
    (fetch invoke file content version s).2.peek file =
      some (fetch invoke file content version s).1 := by
  have hbegun := s.begun file content version
  obtain ⟨entry, t, hbegin, hfetch⟩ | ⟨reply, t, -, -, hfetch⟩ :=
    fetch_cases invoke file content version s
  · rw [hbegin] at hbegun
    rw [hfetch] at h ⊢
    cases hbegun with
    | hit _ hentry _ => exact hentry
    | blank _ _ => exact (Store.peek_publish s file _ file).trans (if_pos rfl)
    | reentered _ _ _ => exact absurd rfl h
  · rw [hfetch]
    exact (Store.peek_closed t file content version reply file).trans (if_pos rfl)

theorem Work.mem_answers {w : Work} {s : Store} {a : Answer} (h : a ∈ w.answers s) :
    ∃ expander, a = .ofFetch expander a.file a.content a.version a.before := by
  induction w generalizing s with
  | reply r => cases h
  | fetch file content version inside next ihInside ihNext =>
    rw [answers, List.mem_append, List.mem_cons] at h
    rcases h with h | rfl | h
    · unfold Store.answersInside at h
      split at h
      · cases h
      · exact ihInside _ h
    · exact ⟨inside, rfl⟩
    · exact ihNext _ h

theorem Operation.mem_allAnswers {ops : List Operation} {s : Store} {a : Answer}
    (h : a ∈ allAnswers ops s) :
    ∃ expander, a = .ofFetch expander a.file a.content a.version a.before := by
  induction ops generalizing s with
  | nil => cases h
  | cons op rest ih =>
    rcases List.mem_append.mp h with h | h
    · cases op with
      | get file content version expander =>
        rcases List.mem_append.mp h with h | h
        · unfold Store.answersInside at h
          split at h
          · cases h
          · exact Work.mem_answers h
        · exact ⟨expander, by rw [List.mem_singleton.mp h]; rfl⟩
      | remove file => cases h
      | clear => cases h
      | setOptions options => cases h
    · exact ih h

/-- **Nothing that an expander does wrong shows in an answer.** Every answer of every run, inside
the expander's work or not, is what a fetch gave in the store as it was then; its entry was built
for it or for an earlier answer; and it is in the store right after, unless the fetch met itself.
No entry of that last kind is in the store at any point. -/
theorem misbehaviour_contained (providers : Provider.Resolver) (options : Expander.Options)
    (ops : List Operation) :
    (∀ earlier a later,
      Operation.allAnswers ops (.create providers options) = earlier ++ a :: later →
      (∃ expander, fetch (Invoke.ofWork expander) a.file a.content a.version a.before =
          (a.entry, a.after)) ∧
        a.entry.version = a.version ∧
        a.Sourced earlier ∧
        (a.entry.outcome ≠ .reentrant → a.after.peek a.file = some a.entry)) ∧
      ∀ w stack v t,
        Work.Reaches w (Operation.run ops (.create providers options)) stack v t → t.Settled := by
  constructor
  · intro earlier a later hanswers
    have hjustified : Justified [] (earlier ++ a :: later) := by
      rw [← hanswers]
      exact Operation.justified_allAnswers ops (.of_peek_eq_none fun _ => rfl)
    have hsourced : a.Sourced earlier := (justified_append.mp hjustified).2.1
    have hmem : a ∈ Operation.allAnswers ops (.create providers options) := by
      rw [hanswers]
      simp
    obtain ⟨expander, heq⟩ := Operation.mem_allAnswers hmem
    refine ⟨⟨expander, ?_⟩, ?_, hsourced, ?_⟩
    · exact Prod.ext (congrArg Answer.entry heq).symm (congrArg Answer.after heq).symm
    · cases hsourced with
      | built _ hbuilt => exact hbuilt.version
      | kept made _ _ _ hversion hentry _ hbuilt =>
        rw [← hentry, hbuilt.version, hversion]
    · intro hnot
      rw [heq] at hnot ⊢
      exact peek_after_fetch _ a.file a.content a.version a.before hnot
  · intro w stack v t hreach
    have hsettled := Store.invariant_settled.run ops (Store.settled_create providers options)
    exact Store.invariant_settled.toKept.reaches hreach hsettled

/-- Two fetches of one version with different contents; the expander breaks down on the first. -/
def sampleRepeat : List Operation :=
  [.get (Url.ofFile ["a"]) "x" ⟨"1"⟩ fun _ => .reply (.crashed none),
    .get (Url.ofFile ["a"]) "y" ⟨"1"⟩ fun _ => .reply (.failed "b")]

/-- The second is answered with what was built for the first. -/
theorem sampleRepeat_contained :
    ∃ first second : Answer,
      Operation.allAnswers sampleRepeat (.create (.ofManifests []) .empty) = [first, second] ∧
        second.content = "y" ∧ second.entry.code = "x" ∧
        second.after.peek second.file = some second.entry := by
  refine ⟨_, _, rfl, rfl, by decide +kernel, ?_⟩
  obtain ⟨-, -, -, hpeek⟩ :=
    (misbehaviour_contained (.ofManifests []) .empty sampleRepeat).1 [_] _ [] rfl
  exact hpeek (by decide +kernel)

end Palimpsest.Expansion
