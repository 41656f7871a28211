import Palimpsest.Proofs.Expansion.Fresh
import Palimpsest.Proofs.Session.Runs

/-!
# How often the expander is called

A session keeps one entry for each file, and an entry answers for one version only. Still the
expander is called once for a version and not again, as long as nobody goes back to a version that
was left and no entry is taken away. Calls may be nested, and a call for one version may be going on
while others are asked for.

1. `Store.SameRecord`: the calls that a store has on record, which are noted where they begin and
   nowhere else.
2. `Work.acts`: what happens in the course of a work, in the order in which it begins.
3. `Covered`: where a version has been called for and is still the last one asked for, its entry is
   there. `Work.tallied` carries it through a whole work, with the number of calls so far.
4. `called_at_most_once`: the law, for every work in every session.
-/

namespace Palimpsest

open Expansion (Invoke Entry Request)

/-! ## Calls on record -/

namespace Expansion.Store

/-- The two stores have the same calls on record. -/
structure SameRecord (s t : Store) : Prop where
  invocations : t.invocations = s.invocations
  misses : ∀ file version,
    t.journal.count (.miss file version) = s.journal.count (.miss file version)

theorem SameRecord.refl (s : Store) : SameRecord s s := ⟨rfl, fun _ _ => rfl⟩

theorem SameRecord.trans {s t u : Store} (hst : SameRecord s t) (htu : SameRecord t u) :
    SameRecord s u :=
  ⟨htu.invocations.trans hst.invocations,
    fun file version => (htu.misses file version).trans (hst.misses file version)⟩

theorem sameRecord_note (s : Store) {e : Event} (h : ∀ file version, e ≠ .miss file version) :
    SameRecord s (s.note e) :=
  ⟨rfl, fun file version => List.count_cons_of_ne (h file version)⟩

theorem sameRecord_register (s : Store) (owner : Url) (content : String) (version : Version) :
    SameRecord s (s.register owner content version) := by
  unfold register
  dsimp only
  split
  · exact ⟨rfl, fun _ _ => rfl⟩
  · exact ⟨rfl, fun _ _ => List.count_cons_of_ne (by simp)⟩

theorem sameRecord_unregister (s : Store) (owner : Url) : SameRecord s (s.unregister owner) := by
  unfold unregister
  dsimp only
  split
  · exact ⟨rfl, fun _ _ => List.count_cons_of_ne (by simp)⟩
  · exact ⟨rfl, fun _ _ => rfl⟩

theorem sameRecord_publish (s : Store) (file : Url) (entry : Entry) :
    SameRecord s (s.publish file entry) := by
  unfold publish
  cases entry.declarations with
  | some text =>
    have hregister := s.sameRecord_register file text entry.version
    exact ⟨hregister.invocations, hregister.misses⟩
  | none =>
    have hunregister := s.sameRecord_unregister file
    exact ⟨hunregister.invocations, hunregister.misses⟩

theorem sameRecord_remove (s : Store) (file : Url) : SameRecord s (s.remove file) := by
  have hunregister := s.sameRecord_unregister file
  exact ⟨hunregister.invocations, hunregister.misses⟩

theorem sameRecord_clear (s : Store) : SameRecord s s.clear :=
  clear_of_remove (fun t file ht => ht.trans (t.sameRecord_remove file)) (SameRecord.refl s)

theorem sameRecord_setOptions (s : Store) (options : Expander.Options) :
    SameRecord s (s.setOptions options) := by
  rcases s.setOptions_cases options with ⟨-, heq⟩ | ⟨-, heq⟩
  · rw [heq]
    exact .refl s
  · rw [heq]
    have hclear := sameRecord_clear { s with options := options }
    have hnote := sameRecord_note ({ s with options := options } : Store).clear
      (e := .optionsChanged s.entries.size) (by simp)
    exact ⟨(hclear.trans hnote).invocations, (hclear.trans hnote).misses⟩

theorem sameRecord_of_ready {s t : Store} {file : Url} {content : String} {version : Version}
    {entry : Entry} (h : s.begin file content version = (.ready entry, t)) : SameRecord s t := by
  have hbegun := s.begun file content version
  rw [h] at hbegun
  cases hbegun with
  | hit _ _ _ => exact s.sameRecord_note (by simp)
  | blank _ _ => exact s.sameRecord_publish file _
  | reentered _ _ _ => exact s.sameRecord_note (by simp)

theorem sameRecord_closed (s : Store) (file : Url) (content : String) (version : Version)
    (reply : Expander.Reply) : SameRecord s (s.closed file content version reply) := by
  unfold closed finish
  dsimp only
  cases judge version reply with
  | ok entry =>
    have hpublish := s.sameRecord_publish file (Entry.ofReply content version reply)
    exact ⟨hpublish.invocations, hpublish.misses⟩
  | error rejection =>
    have hnote : SameRecord s (s.noteRejection file rejection) := by
      cases rejection with
      | failed text => exact s.sameRecord_note (by simp)
      | crashed text => exact s.sameRecord_note (by simp)
      | badLayout fault => exact s.sameRecord_note (by simp)
    have hpublish := hnote.trans
      ((s.noteRejection file rejection).sameRecord_publish file
        (Entry.ofReply content version reply))
    exact ⟨hpublish.invocations, hpublish.misses⟩

end Expansion.Store

namespace Session

theorem sameRecord_dropEntry (s : Session) (file : Url) :
    s.store.SameRecord (dropEntry file s).store := by
  have hremove := s.store.sameRecord_remove file
  unfold dropEntry
  split
  · exact hremove.trans (Expansion.Store.sameRecord_note _ (by simp))
  · exact hremove

theorem sameRecord_adopt (s : Session) (settings : Settings) (matcher : Pattern.Matcher) :
    s.store.SameRecord (s.adopt settings matcher).store := by
  have hnoted : s.store.SameRecord (if settings.providers = s.settings.providers then s
      else s.note .providersChanged).store := by
    split
    · exact .refl _
    · exact s.store.sameRecord_note (by simp)
  have hset := hnoted.trans (Expansion.Store.sameRecord_setOptions _ settings.expand)
  have hclear := hset.trans (Expansion.Store.sameRecord_clear _)
  exact hclear.trans (Expansion.Store.sameRecord_note _ (by simp))

theorem Change.sameRecord (change : Change) (s : Session) :
    s.store.SameRecord (change.apply s).store := by
  cases change with
  | edit file source => exact .refl s.store
  | delete file => exact .refl s.store
  | close file => exact s.store.sameRecord_remove file
  | reload settings =>
    rw [apply, Session.reload]
    cases settings.matcher s.compile with
    | error error => exact .refl s.store
    | ok matcher => exact s.sameRecord_adopt settings matcher
  | clear => exact s.store.sameRecord_clear
  | setOptions options => exact s.store.sameRecord_setOptions options

/-! ## What happens in the course of a work -/

/-- What happens to the entry of a file. -/
inductive Act where
  /-- A version is asked for, and the expander is called for it or not. -/
  | get (file : Url) (version : Version) (called : Bool)
  /-- The entry is taken away. -/
  | lost (file : Url)
deriving DecidableEq

def Act.isCall : Act → Bool
  | get _ _ called => called
  | lost _ => false

/-- The entries that are there in the first session and not in the second. -/
def lostEntries (s t : Session) : List Act :=
  (s.store.entries.keys.filter fun file => (t.store.peek file).isNone).map .lost

/-- What happens during a fetch: the version is asked for, and then comes what the expander does
with the session if it is called. -/
def fetchActs (inside : Request → Session → List Act) (s : Session) (file : Url)
    (content : String) (version : Version) : List Act :=
  match s.store.begin file content version with
  | (.ready _, _) => [.get file version false]
  | (.expand request, opened) =>
    .get file version true :: inside request { s with store := opened }

/-- What happens in the course of a work. -/
def Work.acts : Work → Session → List Act
  | reply _, _ => []
  | look next, s => (next s).acts s
  | alter change next, s => s.lostEntries (change.apply s) ++ next.acts (change.apply s)
  | ask question inside next, s =>
    let (answer, t) := question.perform (fun request s => (inside request).run s) s
    (match question.fetched? s with
      | some (file, content, version) =>
        s.fetchActs (fun request opened => (inside request).acts opened) file content version
      | none => s.lostEntries t) ++ (next answer).acts t

/-- The versions of a file that are asked for. -/
def presented (file : Url) (acts : List Act) : List Version :=
  acts.filterMap fun
    | .get other version _ => if other = file then some version else none
    | .lost _ => none

/-- No version comes again once another has come after it. -/
def NeverBack (versions : List Version) : Prop := ∀ v w, [v, w, v].Sublist versions → w = v

theorem presented_append (file : Url) (first second : List Act) :
    presented file (first ++ second) = presented file first ++ presented file second :=
  List.filterMap_append

theorem presented_get (file : Url) (version : Version) (called : Bool) (rest : List Act) :
    presented file (.get file version called :: rest) = version :: presented file rest := by
  simp [presented]

theorem presented_get_of_ne {file other : Url} (h : other ≠ file) (version : Version)
    (called : Bool) (rest : List Act) :
    presented file (.get other version called :: rest) = presented file rest := by
  simp [presented, h]

theorem presented_lostEntries (file : Url) (s t : Session) :
    presented file (s.lostEntries t) = [] := by
  simp [presented, lostEntries]

theorem get_not_mem_lostEntries (s t : Session) (file : Url) (version : Version) (called : Bool) :
    Act.get file version called ∉ s.lostEntries t := by
  simp [lostEntries]

theorem Shrinks.peek_eq {s t : Session} (h : s.Shrinks t) {file : Url}
    (hkept : Act.lost file ∉ s.lostEntries t) : t.store.peek file = s.store.peek file := by
  rcases h.peek file with heq | hnone
  · exact heq
  · rw [hnone]
    by_cases hmem : file ∈ s.store.entries.keys
    · exact absurd (by simp [lostEntries, hmem, hnone]) hkept
    · exact (Table.find?_eq_none_of_not_mem_keys hmem).symm

theorem mem_presented {file : Url} {version : Version} {called : Bool} {acts : List Act}
    (h : Act.get file version called ∈ acts) : version ∈ presented file acts := by
  rw [presented, List.mem_filterMap]
  exact ⟨_, h, by simp⟩

/-- What a question does before its answer is there: what happens meanwhile, and the session that it
leaves. -/
inductive Asked (inside : Request → Work) (s : Session) : List Act → Session → Prop where
  /-- Nothing is fetched. -/
  | quiet (t : Session) (hshrinks : s.Shrinks t) (hrecord : s.store.SameRecord t.store) :
    Asked inside s (s.lostEntries t) t
  /-- An entry is fetched without a call. -/
  | ready (file : Url) (content : String) (version : Version) (entry : Entry)
    (store : Expansion.Store)
    (hbegin : s.store.begin file content version = (.ready entry, store)) :
    Asked inside s [.get file version false] { s with store := store }
  /-- The expander is called, and does its work. -/
  | call (file : Url) (content : String) (version : Version) (reply : Expander.Reply) (u : Session)
    (hbegin : s.store.begin file content version =
      (.expand (s.store.request file content), s.store.opened file version))
    (hrun : (inside (s.store.request file content)).run
      { s with store := s.store.opened file version } = (reply, u)) :
    Asked inside s
      (.get file version true :: (inside (s.store.request file content)).acts
        { s with store := s.store.opened file version })
      { u with store := u.store.closed file content version reply }

theorem Work.asked (question : Question) (inside : Request → Work) (next : Reading → Work)
    (s : Session) :
    ∃ answer acts t, Asked inside s acts t ∧
      (ask question inside next).acts s = acts ++ (next answer).acts t ∧
      (ask question inside next).run s = (next answer).run t := by
  have hacts : (ask question inside next).acts s =
      (match question.fetched? s with
        | some (file, content, version) =>
          s.fetchActs (fun request => (inside request).acts) file content version
        | none => s.lostEntries (question.perform (expander inside) s).2) ++
        (next (question.perform (expander inside) s).1).acts
          (question.perform (expander inside) s).2 := by
    rw [acts]
    rfl
  refine ⟨(question.perform (expander inside) s).1, _, (question.perform (expander inside) s).2,
    ?_, hacts, rfl⟩
  rcases question.state_perform (expander inside) s with
    ⟨file, content, version, hfetched, hstate⟩ | ⟨hfetched, hstate⟩
  · rw [hfetched, hstate]
    obtain ⟨entry, store, hbegin, hfetch⟩ | ⟨reply, u, hbegin, hcall, hfetch⟩ :=
      Expansion.fetch_split (expander inside) file content version s
    · replace hbegin : s.store.begin file content version = (.ready entry, store) := hbegin
      rw [hfetch]
      simp only [fetchActs, hbegin]
      exact .ready file content version entry store hbegin
    · replace hbegin : s.store.begin file content version =
          (.expand (s.store.request file content), s.store.opened file version) := hbegin
      rw [hfetch]
      simp only [fetchActs, hbegin]
      exact .call file content version reply u hbegin hcall
  · rw [hfetched]
    refine .quiet _ ?_ ?_
    · rcases hstate with heq | ⟨file, heq⟩
      · rw [heq]
        exact .refl s
      · rw [heq]
        exact s.shrinks_dropEntry file
    · rcases hstate with heq | ⟨file, heq⟩
      · rw [heq]
        exact .refl s.store
      · rw [heq]
        exact s.sameRecord_dropEntry file

theorem Asked.running {inside : Request → Work} {s t : Session} {acts : List Act}
    (h : Asked inside s acts t)
    (hinside : ∀ request u, ((inside request).run u).2.store.running = u.store.running) :
    t.store.running = s.store.running := by
  cases h with
  | quiet _ hshrinks _ => exact hshrinks.running
  | ready file content version entry store hbegin =>
    exact (Expansion.Store.sameCalls_of_ready hbegin).running
  | call file content version reply u hbegin hrun =>
    have hkept : u.store.running = file :: s.store.running := by
      have hopened := hinside (s.store.request file content)
        { s with store := s.store.opened file version }
      rwa [hrun] at hopened
    show (u.store.closed file content version reply).running = s.store.running
    rw [Expansion.Store.running_closed, hkept, List.erase_cons_head]

theorem Work.running_run (w : Work) (s : Session) :
    (w.run s).2.store.running = s.store.running := by
  induction w generalizing s with
  | reply r => rfl
  | look next ih => exact ih s s
  | alter change next ih => exact (ih (change.apply s)).trans (change.shrinks s).running
  | ask question inside next ihInside ihNext =>
    obtain ⟨answer, acts, t, hasked, -, hrun⟩ := asked question inside next s
    rw [hrun, ihNext answer t, hasked.running ihInside]

theorem Work.not_called (w : Work) {s : Session} {file : Url} (h : file ∈ s.store.running)
    (version : Version) : Act.get file version true ∉ w.acts s := by
  induction w generalizing s with
  | reply r => exact List.not_mem_nil
  | look next ih => exact ih s h
  | alter change next ih =>
    have hrunning := (change.shrinks s).running
    rw [acts, List.mem_append, not_or]
    exact ⟨get_not_mem_lostEntries _ _ _ _ _, ih (by rw [hrunning]; exact h)⟩
  | ask question inside next ihInside ihNext =>
    obtain ⟨answer, acts, t, hasked, hacts, -⟩ := asked question inside next s
    have hrunning := hasked.running fun request => (inside request).running_run
    rw [hacts, List.mem_append, not_or]
    refine ⟨?_, ihNext answer (by rw [hrunning]; exact h)⟩
    cases hasked with
    | quiet _ _ _ => exact get_not_mem_lostEntries _ _ _ _ _
    | ready other content version' entry store hbegin => simp
    | call other content version' reply u hbegin hrun =>
      have hidle := (Expansion.Store.call_of_expand hbegin).2.2
      have hother : file ≠ other := fun heq => hidle (heq ▸ h)
      rw [List.mem_cons, not_or]
      refine ⟨by simp [hother], ihInside _ ?_⟩
      exact List.mem_cons_of_mem other h

/-! ## The record tells every call -/

/-- **What a session has on record afterwards**: what it had before, and the calls of the work. -/
theorem Work.record_run (w : Work) (s : Session) :
    (w.run s).2.store.invocations =
        s.store.invocations + .ofNat ((w.acts s).countP Act.isCall) ∧
      ∀ file version, (w.run s).2.store.journal.count (.miss file version) =
        s.store.journal.count (.miss file version) +
          (w.acts s).count (.get file version true) := by
  have hlost : ∀ s t : Session, (s.lostEntries t).countP Act.isCall = 0 ∧
      ∀ file version, (s.lostEntries t).count (.get file version true) = 0 := by
    intro s t
    refine ⟨?_, fun file version => ?_⟩
    · simp [lostEntries, List.countP_eq_zero, Act.isCall]
    · exact List.count_eq_zero.mpr (get_not_mem_lostEntries _ _ _ _ _)
  induction w generalizing s with
  | reply r => exact ⟨(UInt64.add_zero _).symm, fun _ _ => rfl⟩
  | look next ih => exact ih s s
  | alter change next ih =>
    have hrecord := change.sameRecord s
    obtain ⟨hinvocations, hmisses⟩ := ih (change.apply s)
    obtain ⟨hcalls, hcall⟩ := hlost s (change.apply s)
    refine ⟨?_, fun file version => ?_⟩
    · rw [run, acts, hinvocations, hrecord.invocations, List.countP_append, hcalls, Nat.zero_add]
    · rw [run, acts, hmisses, hrecord.misses, List.count_append, hcall]
      omega
  | ask question inside next ihInside ihNext =>
    obtain ⟨answer, acts, t, hasked, hacts, hrun⟩ := asked question inside next s
    obtain ⟨hinvocations, hmisses⟩ := ihNext answer t
    have hmeanwhile : t.store.invocations =
          s.store.invocations + .ofNat (acts.countP Act.isCall) ∧
        ∀ file version, t.store.journal.count (.miss file version) =
          s.store.journal.count (.miss file version) + acts.count (.get file version true) := by
      cases hasked with
      | quiet _ _ hrecord =>
        obtain ⟨hcalls, hcall⟩ := hlost s t
        exact ⟨by rw [hcalls, hrecord.invocations]; exact (UInt64.add_zero _).symm,
          fun file version => by rw [hcall, hrecord.misses]; rfl⟩
      | ready file content version entry store hbegin =>
        have hrecord := Expansion.Store.sameRecord_of_ready hbegin
        exact ⟨by simp [Act.isCall, hrecord.invocations],
          fun other version' => by simp [hrecord.misses]⟩
      | call file content version reply u hbegin hwork =>
        have hclosed := u.store.sameRecord_closed file content version reply
        obtain ⟨hin, hin'⟩ := ihInside (s.store.request file content)
          { s with store := s.store.opened file version }
        rw [hwork] at hin hin'
        refine ⟨?_, fun other version' => ?_⟩
        · rw [hclosed.invocations, hin, List.countP_cons]
          show s.store.invocations + 1 + _ = _
          rw [if_pos (by rfl), UInt64.ofNat_add, UInt64.add_assoc, UInt64.add_comm 1]
          rfl
        · rw [hclosed.misses, hin', List.count_cons]
          show (Event.miss file version :: s.store.journal).count _ + _ = _
          rw [List.count_cons]
          by_cases hsame : file = other ∧ version = version'
          · simp [hsame]
            omega
          · have hmiss : ¬ (Event.miss file version == .miss other version') = true := by
              simpa using hsame
            have hget : ¬ (Act.get file version true == .get other version' true) = true := by
              simpa using hsame
            rw [if_neg hmiss, if_neg hget]
            omega
    refine ⟨?_, fun file version => ?_⟩
    · rw [hrun, hacts, hinvocations, hmeanwhile.1, List.countP_append, UInt64.ofNat_add,
        UInt64.add_assoc]
    · rw [hrun, hacts, hmisses, hmeanwhile.2, List.count_append, Nat.add_assoc]

/-! ## One call for one version -/

/-- Where a version has been called for and no other has been asked for since, its entry is there,
unless the file is being expanded. -/
def Covered (file : Url) (past : List Act) (s : Session) : Prop :=
  file ∉ s.store.running → ∀ version, Act.get file version true ∈ past →
    (∀ other, [version, other].Sublist (presented file past) → other = version) →
    ∃ entry, s.store.peek file = some entry ∧ entry.version = version

theorem NeverBack.of_append {first second : List Version} (h : NeverBack (first ++ second)) :
    NeverBack first :=
  fun v w hsub => h v w (hsub.trans (List.sublist_append_left first second))

namespace Covered

variable {file : Url} {past : List Act} {s : Session}

theorem eq_of_asked {version asked : Version} {called : Bool}
    (hpast : Act.get file version true ∈ past) (rest : List Act)
    (hlast : ∀ other,
      [version, other].Sublist (presented file (past ++ .get file asked called :: rest)) →
      other = version) : asked = version := by
  apply hlast
  rw [presented_append, presented_get]
  exact (List.singleton_sublist.mpr (mem_presented hpast)).append
    (List.singleton_sublist.mpr List.mem_cons_self)

theorem congr {acts : List Act} {t : Session} (h : Covered file past s)
    (hrunning : file ∈ s.store.running → file ∈ t.store.running)
    (hpeek : t.store.peek file = s.store.peek file) (hpresented : presented file acts = [])
    (hcalled : ∀ version, Act.get file version true ∉ acts) : Covered file (past ++ acts) t := by
  intro hidle version hmem hlast
  rw [presented_append, hpresented, List.append_nil] at hlast
  rw [hpeek]
  rcases List.mem_append.mp hmem with hmem | hmem
  · exact h (fun hrun => hidle (hrunning hrun)) version hmem hlast
  · exact absurd hmem (hcalled version)

theorem shrunk {t : Session} (h : Covered file past s) (hshrinks : s.Shrinks t)
    (hkept : Act.lost file ∉ s.lostEntries t) : Covered file (past ++ s.lostEntries t) t := by
  apply h.congr
  · rw [hshrinks.running]
    exact id
  · exact hshrinks.peek_eq hkept
  · exact presented_lostEntries file s t
  · exact fun version => get_not_mem_lostEntries _ _ _ _ _

/-- A fetch without a call: the entry of the version is there afterwards, or the file is being
expanded. -/
theorem ready {other : Url} {content : String} {version : Version} {entry : Entry}
    {store : Expansion.Store} (h : Covered file past s)
    (hbegin : s.store.begin other content version = (.ready entry, store)) :
    Covered file (past ++ [.get other version false]) { s with store := store } := by
  have hrunning := (Expansion.Store.sameCalls_of_ready hbegin).running
  have hbegun := s.store.begun other content version
  rw [hbegin] at hbegun
  by_cases hother : other = file
  · subst hother
    intro hidle version' hmem hlast
    have hpast : Act.get other version' true ∈ past := by simpa using hmem
    rw [← eq_of_asked hpast [] hlast]
    cases hbegun with
    | hit _ hentry hversion => exact ⟨entry, hentry, hversion⟩
    | blank _ _ =>
      exact ⟨_, (Expansion.Store.peek_publish s.store other _ other).trans (if_pos rfl), rfl⟩
    | reentered _ _ hbusy => exact absurd hbusy hidle
  · apply h.congr
    · rw [hrunning]
      exact id
    · cases hbegun with
      | hit _ _ _ => rfl
      | blank _ _ =>
        exact (Expansion.Store.peek_publish s.store other _ file).trans
          (if_neg fun heq => hother heq.symm)
      | reentered _ _ _ => rfl
    · exact presented_get_of_ne hother version false []
    · simp

/-- While a call is going on for the file, nothing is asked of its entry. -/
theorem opened (h : Covered file past s) (other : Url) (version : Version) :
    Covered file (past ++ [.get other version true])
      { s with store := s.store.opened other version } := by
  by_cases hother : other = file
  · subst hother
    intro hidle
    exact absurd List.mem_cons_self hidle
  · apply h.congr
    · exact List.mem_cons_of_mem other
    · rfl
    · exact presented_get_of_ne hother version true []
    · simp [Ne.symm hother]

/-- The end of a call puts the entry of its version in place. Others may have been asked for
meanwhile, and then there is no version left to cover: none was called for during the call. -/
theorem closed {other : Url} {content : String} {version : Version} {reply : Expander.Reply}
    {acts : List Act} (h : Covered file (past ++ .get other version true :: acts) s)
    (hacts : other = file → ∀ version', Act.get file version' true ∉ acts) :
    Covered file (past ++ .get other version true :: acts)
      { s with store := s.store.closed other content version reply } := by
  intro hidle version' hmem hlast
  rw [Expansion.Store.running_closed] at hidle
  rw [Expansion.Store.peek_closed]
  by_cases hother : other = file
  · subst hother
    rw [if_pos rfl]
    refine ⟨_, rfl, ?_⟩
    rw [Expansion.version_ofReply]
    rcases List.mem_append.mp hmem with hpast | hmem
    · exact eq_of_asked hpast acts hlast
    · rcases List.mem_cons.mp hmem with heq | hinner
      · injection heq with _ hversion
        exact hversion.symm
      · exact absurd hinner (hacts rfl version')
  · rw [if_neg fun heq => hother heq.symm]
    refine h (fun hrun => hidle ?_) version' hmem hlast
    exact (List.mem_erase_of_ne fun heq => hother heq.symm).mpr hrun

end Covered

/-- The entry of the file is covered, and no version of it has been called for twice. -/
structure Tallied (file : Url) (past : List Act) (s : Session) : Prop where
  covered : Covered file past s
  once : ∀ version, past.count (.get file version true) ≤ 1

theorem tallied_nil (file : Url) (s : Session) : Tallied file [] s :=
  ⟨fun _ _ hmem => absurd hmem List.not_mem_nil, fun _ => Nat.zero_le 1⟩

theorem Tallied.append_of_not_called {file : Url} {past acts : List Act} {s t : Session}
    (h : Tallied file past s) (hcovered : Covered file (past ++ acts) t)
    (hcalled : ∀ version, Act.get file version true ∉ acts) : Tallied file (past ++ acts) t := by
  refine ⟨hcovered, fun version => ?_⟩
  rw [List.count_append, List.count_eq_zero.mpr (hcalled version)]
  exact h.once version

/-- A call for a version that has been called for before would find its entry. -/
theorem Tallied.call {file other : Url} {past : List Act} {s : Session} {version : Version}
    (h : Tallied file past s)
    (hmiss : s.store.current? other version = none) (hidle : other ∉ s.store.running)
    (horder : NeverBack (presented file (past ++ [.get other version true]))) :
    Tallied file (past ++ [.get other version true])
      { s with store := s.store.opened other version } := by
  refine ⟨h.covered.opened other version, fun version' => ?_⟩
  rw [List.count_append, List.count_singleton]
  by_cases hsame : other = file ∧ version = version'
  · obtain ⟨rfl, rfl⟩ := hsame
    have hnew : Act.get other version true ∉ past := by
      intro hpast
      obtain ⟨entry, hentry, hversion⟩ := h.covered hidle version hpast (fun later hlater => by
        apply horder version later
        rw [presented_append, presented_get]
        exact hlater.append (List.singleton_sublist.mpr List.mem_cons_self))
      rw [Expansion.Store.current?_eq_some_iff.mpr ⟨hentry, hversion⟩] at hmiss
      cases hmiss
    rw [List.count_eq_zero.mpr hnew]
    simp
  · have hother : ¬ (Act.get other version true == .get file version' true) = true := by
      simpa using hsame
    rw [if_neg hother]
    exact h.once version'

theorem Tallied.asked {file : Url} {past acts : List Act} {inside : Request → Work}
    {s t : Session} (h : Tallied file past s) (hasked : Asked inside s acts t)
    (hkept : Act.lost file ∉ acts) (horder : NeverBack (presented file (past ++ acts)))
    (hinside : ∀ request past u, Tallied file past u →
      Act.lost file ∉ (inside request).acts u →
      NeverBack (presented file (past ++ (inside request).acts u)) →
      Tallied file (past ++ (inside request).acts u) ((inside request).run u).2) :
    Tallied file (past ++ acts) t := by
  cases hasked with
  | quiet _ hshrinks _ =>
    exact h.append_of_not_called (h.covered.shrunk hshrinks hkept)
      fun version => get_not_mem_lostEntries _ _ _ _ _
  | ready other content version entry store hbegin =>
    exact h.append_of_not_called (h.covered.ready hbegin) (by simp)
  | call other content version reply u hbegin hrun =>
    have hbegun := s.store.begun other content version
    rw [hbegin] at hbegun
    cases hbegun with
    | call hmiss _ hidle =>
      rw [List.append_cons] at horder ⊢
      have hopened := h.call hmiss hidle
        (by rw [presented_append] at horder; exact horder.of_append)
      have hworked := hinside (s.store.request other content) _ _ hopened
        (fun hmem => hkept (List.mem_cons_of_mem _ hmem)) horder
      rw [hrun] at hworked
      refine ⟨?_, hworked.once⟩
      have hcovered := hworked.covered
      rw [← List.append_cons] at hcovered ⊢
      refine hcovered.closed ?_
      rintro rfl version'
      exact Work.not_called _ List.mem_cons_self version'

/-- **A whole work**, by induction on it. -/
theorem Work.tallied (w : Work) {file : Url} {past : List Act} {s : Session}
    (h : Tallied file past s) (hkept : Act.lost file ∉ w.acts s)
    (horder : NeverBack (presented file (past ++ w.acts s))) :
    Tallied file (past ++ w.acts s) (w.run s).2 := by
  induction w generalizing past s with
  | reply r =>
    rw [acts, List.append_nil]
    exact h
  | look next ih => exact ih s h hkept horder
  | alter change next ih =>
    rw [acts, List.mem_append, not_or] at hkept
    rw [acts, ← List.append_assoc] at horder ⊢
    refine ih ?_ hkept.2 horder
    exact h.append_of_not_called (h.covered.shrunk (change.shrinks s) hkept.1)
      fun version => get_not_mem_lostEntries _ _ _ _ _
  | ask question inside next ihInside ihNext =>
    obtain ⟨answer, acts, t, hasked, hacts, hrun⟩ := asked question inside next s
    rw [hacts, List.mem_append, not_or] at hkept
    rw [hacts, ← List.append_assoc] at horder ⊢
    rw [hrun]
    refine ihNext answer ?_ hkept.2 horder
    refine h.asked hasked hkept.1 ?_ fun request _ _ => ihInside request
    rw [presented_append] at horder
    exact horder.of_append

/-- **The expander is called for a version of a file at most once.** The work may be any finite tree
of questions and changes, in which calls are nested to any depth and end in an output, a failure or
a crash, and it may begin in any session. All that is asked is that no entry of the file is lost,
and that no version of it is asked for again once another has been. The calls of the work are those
that the session has on record afterwards, in the journal and in the counter of 64 bits. -/
theorem called_at_most_once (client : Work) (s : Session) (file : Url)
    (hkept : Act.lost file ∉ client.acts s)
    (horder : NeverBack (presented file (client.acts s))) (version : Version) :
    (client.acts s).count (.get file version true) ≤ 1 ∧
      (client.run s).2.store.journal.count (.miss file version) ≤
        s.store.journal.count (.miss file version) + 1 ∧
      (∀ other version', (client.run s).2.store.journal.count (.miss other version') =
        s.store.journal.count (.miss other version') +
          (client.acts s).count (.get other version' true)) ∧
      (client.run s).2.store.invocations =
        s.store.invocations + .ofNat ((client.acts s).countP Act.isCall) := by
  have htallied := client.tallied (tallied_nil file s) hkept horder
  have honce := htallied.once version
  obtain ⟨hinvocations, hmisses⟩ := client.record_run s
  refine ⟨honce, ?_, hmisses, hinvocations⟩
  rw [hmisses]
  exact Nat.add_le_add_left honce _

/-! A version is left while it is being expanded, and the next one is asked for again and again. -/

/-- Asks for the first version, during whose call the switches are set as they are and the second
version is asked for, and then for the second version twice. -/
def sampleTurns : Work :=
  .ask (.fetch (Url.ofFile ["a"]) "x" ⟨"1"⟩)
    (fun _ =>
      .alter (.setOptions .empty)
        (.ask (.fetch (Url.ofFile ["a"]) "y" ⟨"2"⟩) (fun _ => .reply (.crashed none))
          fun _ => .reply (.failed "a")))
    fun _ =>
      .ask (.fetch (Url.ofFile ["a"]) "y" ⟨"2"⟩) (fun _ => .reply (.crashed none)) fun _ =>
        .ask (.fetch (Url.ofFile ["a"]) "z" ⟨"2"⟩) (fun _ => .reply (.crashed none)) fun _ =>
          .reply (.failed "")

def sampleEmpty : Session :=
  ⟨fun _ => .error "", .default, fun _ => false, .create (.ofManifests []) .empty, .empty, 0⟩

theorem sampleTurns_called_once :
    sampleTurns.acts sampleEmpty =
        [.get (Url.ofFile ["a"]) ⟨"1"⟩ true, .get (Url.ofFile ["a"]) ⟨"2"⟩ false,
          .get (Url.ofFile ["a"]) ⟨"2"⟩ true, .get (Url.ofFile ["a"]) ⟨"2"⟩ false] ∧
      (sampleTurns.run sampleEmpty).2.store.journal.count (.miss (Url.ofFile ["a"]) ⟨"1"⟩) ≤ 1 ∧
      (sampleTurns.run sampleEmpty).2.store.journal.count (.miss (Url.ofFile ["a"]) ⟨"2"⟩) ≤ 1 ∧
      (sampleTurns.run sampleEmpty).2.store.invocations = 2 := by
  have hacts : sampleTurns.acts sampleEmpty =
      [.get (Url.ofFile ["a"]) ⟨"1"⟩ true, .get (Url.ofFile ["a"]) ⟨"2"⟩ false,
        .get (Url.ofFile ["a"]) ⟨"2"⟩ true, .get (Url.ofFile ["a"]) ⟨"2"⟩ false] := by
    decide +kernel
  have hkept : Act.lost (Url.ofFile ["a"]) ∉ sampleTurns.acts sampleEmpty := by
    rw [hacts]
    simp
  have horder : NeverBack (presented (Url.ofFile ["a"]) (sampleTurns.acts sampleEmpty)) := by
    rw [hacts]
    intro v w hsub
    have hv : v ∈ [(⟨"1"⟩ : Version), ⟨"2"⟩, ⟨"2"⟩, ⟨"2"⟩] := hsub.subset (by simp)
    have hw : w ∈ [(⟨"1"⟩ : Version), ⟨"2"⟩, ⟨"2"⟩, ⟨"2"⟩] := hsub.subset (by simp)
    revert hsub
    simp only [List.mem_cons, List.not_mem_nil, or_false] at hv hw
    rcases hv with rfl | rfl | rfl | rfl <;> rcases hw with rfl | rfl | rfl | rfl <;> decide
  obtain ⟨-, hfirst, -, hinvocations⟩ :=
    called_at_most_once sampleTurns sampleEmpty (Url.ofFile ["a"]) hkept horder ⟨"1"⟩
  obtain ⟨-, hsecond, -, -⟩ :=
    called_at_most_once sampleTurns sampleEmpty (Url.ofFile ["a"]) hkept horder ⟨"2"⟩
  rw [hacts] at hinvocations
  exact ⟨hacts, hfirst, hsecond, hinvocations⟩

end Session

end Palimpsest
