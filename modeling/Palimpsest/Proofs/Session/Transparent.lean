import Palimpsest.Proofs.Mapping.Identity
import Palimpsest.Proofs.Session.Queries

/-!
# Services without anything to carry

An expander that says nothing about the layout of what it makes leaves the positions of every file
as they are. Then a service that is wrapped to see source positions should be the service itself.

1. `Unmapped`: no entry of the session has a layout. This holds all the way through every work that
   gives no layout, whoever does it.
2. `Near`: sessions after a service has answered, with nothing done but files brought up to date.
3. `Forwards`: a wrapped question gives what the service gives to the same question.
4. `transparent_without_layouts`: all eleven questions are forwarded, and only the expander's own
   remarks are added to one of them.
-/

namespace Palimpsest

open Analysis
open Analysis.Bounded (Fits)
open Expansion (HasStore Invoke Entry Request)
open Mapping (Mapper)
open Query (Settles)

/-! ## Replies without a layout -/

/-- The reply gives no layout: a failure, a crash, or an output without one. -/
def Expander.Reply.Plain : Expander.Reply → Prop
  | output result => result.layout = none
  | failed _ | crashed _ => True

theorem Expansion.Entry.mapper_ofReply {reply : Expander.Reply} (h : reply.Plain) (content : String)
    (version : Version) : (Entry.ofReply content version reply).mapper = .identity := by
  cases reply with
  | failed text => rfl
  | crashed text => rfl
  | output output =>
    have hlayout : Mapper.ofLayout? output.layout = .ok .identity := by
      rw [show output.layout = none from h]
      rfl
    simp only [Entry.ofReply, Expansion.judge, hlayout]

namespace Session

/-- No reply of the work gives a layout, and none of the expander's during it. -/
def Work.Plain : Work → Prop
  | reply r => r.Plain
  | look next => ∀ s, (next s).Plain
  | alter _ next => next.Plain
  | ask _ inside next => (∀ request, (inside request).Plain) ∧ ∀ answer, (next answer).Plain

def Unmapped (s : Session) : Prop :=
  ∀ file entry, s.store.peek file = some entry → entry.mapper = .identity

/-- In a session without layouts the expander gives none, and leaves none behind. -/
def LeavesUnmapped (invoke : Invoke Session) : Prop :=
  ∀ request s, s.Unmapped → (invoke request s).1.Plain ∧ (invoke request s).2.Unmapped

variable {invoke : Invoke Session} {s t : Session}

theorem Unmapped.of_shrinks (h : s.Unmapped) (hshrinks : s.Shrinks t) : t.Unmapped := by
  intro file entry hentry
  rcases hshrinks.peek file with heq | hnone
  · exact h file entry (heq.symm.trans hentry)
  · rw [hnone] at hentry
    cases hentry

theorem Unmapped.of_peek {file : Url} {added : Entry} (h : s.Unmapped)
    (hadded : added.mapper = .identity)
    (hpeek : ∀ other,
      t.store.peek other = if other = file then some added else s.store.peek other) :
    t.Unmapped := by
  intro other entry hentry
  rw [hpeek] at hentry
  split at hentry
  · obtain rfl := Option.some.inj hentry
    exact hadded
  · exact h other entry hentry

theorem Unmapped.fetch (hinvoke : LeavesUnmapped invoke) (h : s.Unmapped) (file : Url)
    (content : String) (version : Version) :
    (Expansion.fetch invoke file content version s).1.mapper = .identity ∧
      (Expansion.fetch invoke file content version s).2.Unmapped := by
  obtain ⟨entry, store, hbegin, hfetch⟩ | ⟨reply, next, -, hcall, hfetch⟩ :=
    Expansion.fetch_split invoke file content version s
  · have hbegun := s.store.begun file content version
    rw [show s.store.begin file content version = (.ready entry, store) from hbegin] at hbegun
    rw [hfetch]
    cases hbegun with
    | hit _ hentry _ => exact ⟨h file entry hentry, h⟩
    | blank _ _ => exact ⟨rfl, h.of_peek rfl (s.store.peek_publish file _)⟩
    | reentered _ _ _ => exact ⟨rfl, h⟩
  · -- The store is opened for the call with all its entries.
    have hreply := hinvoke (s.store.request file content)
      { s with store := s.store.opened file version } h
    rw [show invoke (s.store.request file content)
      { s with store := s.store.opened file version } = (reply, next) from hcall] at hreply
    obtain ⟨hplain, hnext⟩ := hreply
    have hmapper := Entry.mapper_ofReply hplain content version
    rw [hfetch]
    exact ⟨hmapper, hnext.of_peek hmapper (next.store.peek_closed file content version reply)⟩

theorem Unmapped.perform (hinvoke : LeavesUnmapped invoke) (h : s.Unmapped) (q : Question) :
    (q.perform invoke s).2.Unmapped := by
  rcases q.state_perform invoke s with ⟨file, content, version, -, heq⟩ | ⟨-, heq | ⟨file, heq⟩⟩
  · rw [heq]
    exact (h.fetch hinvoke file content version).2
  · rw [heq]
    exact h
  · rw [heq]
    exact h.of_shrinks (s.shrinks_dropEntry file)

theorem Unmapped.run {w : Work} (hw : w.Plain) (h : s.Unmapped) :
    (w.run s).1.Plain ∧ (w.run s).2.Unmapped := by
  induction w generalizing s with
  | reply r => exact ⟨hw, h⟩
  | look next ih => exact ih s (hw s) h
  | alter change next ih => exact ih hw (h.of_shrinks (change.shrinks s))
  | ask question inside next ihInside ihNext =>
    have hinside : LeavesUnmapped (Work.expander inside) :=
      fun request _ ht => ihInside request (hw.1 request) ht
    exact ihNext _ (hw.2 _) (h.perform hinside question)

theorem Work.leavesUnmapped {work : Request → Work} (h : ∀ request, (work request).Plain) :
    LeavesUnmapped (Work.expander work) := fun request _ hs => hs.run (h request)

/-- **Without layouts in replies there are none in a session**, wherever a work leads. -/
theorem Unmapped.reaches {w : Work} (h : w.Reaches s t) (hw : w.Plain) (hs : s.Unmapped) :
    t.Unmapped := by
  induction h with
  | here w s => exact hs
  | look h ih => exact ih (hw _) hs
  | alter h ih => exact ih hw (hs.of_shrinks (Change.shrinks _ _))
  | inside hfetch hcall h ih =>
    rename_i question inside next file content version request opened s t
    have hbegun := s.store.begun file content version
    rw [hcall] at hbegun
    cases hbegun with
    | call _ _ _ => exact ih (hw.1 _) hs
  | after hanswer h ih =>
    rename_i question inside next answer s s' t
    have hasked := hs.perform (Work.leavesUnmapped hw.1) question
    rw [hanswer] at hasked
    exact ih (hw.2 _) hasked

theorem unmapped_create {compile : Pattern.Compiler} {settings : Settings}
    {bindings : List (String × Provider.Binding)} {sources : Sources}
    (h : create compile settings bindings sources = .ok s) : s.Unmapped := by
  obtain ⟨_, _, -, rfl⟩ := create_eq_ok h
  intro file entry hentry
  cases hentry

theorem Unmapped.mapper_entryFor (hinvoke : LeavesUnmapped invoke) (h : s.Unmapped) {file : Url}
    {entry : Entry} (hentry : (Session.entryFor invoke file s).1 = some entry) :
    entry.mapper = .identity := by
  cases hwanted : s.wanted? file with
  | none =>
    rw [(entryFor_eq_none_iff invoke s file).mpr (by rw [isBypassed_eq, hwanted]; rfl)] at hentry
    cases hentry
  | some wanted =>
    obtain ⟨content, version⟩ := wanted
    rw [entryFor_of_wanted invoke hwanted] at hentry
    obtain rfl := Option.some.inj hentry
    exact (h.fetch hinvoke file content version).1

/-! ## What a service answers stays as it is -/

/-- Nothing was done since but files brought up to date, and no entry has a layout. -/
def Near (invoke : Invoke Session) (s t : Session) : Prop :=
  t.Unmapped ∧ ∃ files, t = refreshed invoke files s

theorem Near.refl (h : s.Unmapped) : Near invoke s s := ⟨h, [], rfl⟩

theorem Near.entryFor (hinvoke : LeavesUnmapped invoke) (h : Near invoke s t) (file : Url) :
    Near invoke s (Session.entryFor invoke file t).2 := by
  obtain ⟨hunmapped, files, rfl⟩ := h
  refine ⟨hunmapped.perform hinvoke (.entryFor file), files ++ [file], ?_⟩
  unfold refreshed
  rw [List.foldl_append]
  rfl

/-- An entry, where there is one, that has no layout. -/
def WithoutLayout (expansion : Option Entry) : Prop :=
  ∀ entry, expansion = some entry → entry.mapper = .identity

theorem withoutLayout_some {entry : Entry} (h : entry.mapper = .identity) :
    WithoutLayout (some entry) := by
  rintro _ ⟨⟩
  exact h

theorem moved_withoutLayout {expansion : Option Entry} (h : WithoutLayout expansion) {l : Location}
    (hl : Fits l) : moved expansion l = .ok (some l) := by
  cases expansion with
  | none => rfl
  | some entry =>
    dsimp only [moved]
    rw [h entry rfl, Mapper.spanToSource_identity hl]
    rfl

section Results

variable (hinvoke : LeavesUnmapped invoke) {file : Url} {expansion : Option Entry}
  (hwithout : WithoutLayout expansion)

include hinvoke hwithout

theorem settles_location_same {l : Location} (hl : Fits l) :
    Settles (Near invoke s)
      (locationToSource invoke (expansion.map fun entry => (file, entry)) l) (.ok (some l)) := by
  apply settles_location
  · intro entry hasked
    obtain ⟨found, rfl, hpair⟩ := Option.map_eq_some_iff.mp hasked
    obtain ⟨-, rfl⟩ := Prod.mk.inj hpair
    exact moved_withoutLayout hwithout hl
  · intro t ht
    refine ⟨moved_withoutLayout ?_ hl, ht.entryFor hinvoke l.file⟩
    intro entry hentry
    exact ht.1.mapper_entryFor hinvoke hentry

theorem settles_reference_same {r : ReferenceEntry} (hr : Fits r) :
    Settles (Near invoke s)
      (referenceToSource invoke (expansion.map fun entry => (file, entry)) r) (.ok (some r)) := by
  unfold referenceToSource
  exact (settles_location_same hinvoke hwithout hr).bind_ok (Query.settles_pure _)

end Results

theorem settles_diagnostic_same (hinvoke : LeavesUnmapped invoke) {file : Url} {entry : Entry}
    (hentry : entry.mapper = .identity) {d : Diagnostic} (hd : Fits d) :
    Settles (Near invoke s) (diagnosticToSource invoke file entry d) (.ok (some d)) := by
  obtain ⟨other, span, message, severity, code, source⟩ := d
  cases span with
  | none => exact Query.settles_pure _
  | some span =>
    have hlocation : Settles (Near invoke s)
        (locationToSource invoke (some (file, entry)) ⟨other.getD file, span⟩)
        (.ok (some ⟨other.getD file, span⟩)) :=
      settles_location_same hinvoke (withoutLayout_some hentry) (hd span rfl)
    unfold diagnosticToSource
    exact hlocation.bind_ok (Query.settles_pure _)

/-! ## Forwarding -/

/-- What comes after the service's answer leaves it as it is, up to a function of it, and does
nothing to the session but bring files up to date. -/
theorem forwarded {α β : Type} {q : Query Session α} {next : α → Query Session β} {f : α → β}
    (hq : (q s).2.Unmapped)
    (hnext : ∀ a, (q s).1 = .ok a → Settles (Near invoke (q s).2) (next a) (.ok (f a))) :
    ∃ files, (q >>= next) s = ((q s).1.map f, refreshed invoke files (q s).2) := by
  cases hanswer : (q s).1 with
  | error e => exact ⟨[], Query.bind_of_error (Prod.ext hanswer rfl) next⟩
  | ok a =>
    obtain ⟨hresult, -, files, hfiles⟩ := hnext a hanswer _ (.refl hq)
    refine ⟨files, ?_⟩
    rw [Query.bind_of_ok (Prod.ext hanswer rfl)]
    exact Prod.ext hresult hfiles

/-- A question gives what the service gives, as long as all spans of that fit. After the service
has answered nothing is done to the session but files brought up to date. -/
def Forwards {α : Type} [Bounded α] (invoke : Invoke Session)
    (asked given : Except Overflow α × Session) : Prop :=
  (∀ result, asked.1 = .ok result → Fits result) →
    ∃ files, given = (asked.1, refreshed invoke files asked.2)

theorem askedPosition_bind {α : Type} {expansion : Option Entry} (h : WithoutLayout expansion)
    (position : Offset) (next : Offset → Query Session α) :
    (askedPosition expansion position >>= next) s = next position s := by
  cases expansion with
  | none => rfl
  | some entry =>
    show (Query.ofExcept (entry.mapper.pointToExpanded position) >>= next) s = next position s
    rw [h entry rfl]
    rfl

section Questions

variable {α : Type} [Bounded α] {file : Url}

theorem forwards_bind {q : Query Session α} {next : α → Query Session α} (hq : (q s).2.Unmapped)
    (hnext : ∀ a, Fits a → Settles (Near invoke (q s).2) (next a) (.ok a)) :
    Forwards invoke (q s) ((q >>= next) s) := by
  intro hfits
  obtain ⟨files, heq⟩ := forwarded (f := id) hq fun a ha => hnext a (hfits a ha)
  refine ⟨files, heq.trans ?_⟩
  cases (q s).1 with
  | error e => rfl
  | ok a => rfl

/-- A file that is left alone is asked about as it is, and the entry of any other has no layout. -/
theorem forwards_entryFor (hinvoke : LeavesUnmapped invoke) (hs : s.Unmapped)
    {q : Query Session α} {next : Option Entry → Query Session α} (hnone : next none = q)
    (hsome : ∀ entry t, entry.mapper = .identity → t.Unmapped →
      Forwards invoke (q t) (next (some entry) t)) :
    Forwards invoke (q (entryFor invoke file s).2)
      ((Query.ofState (entryFor invoke file) >>= next) s) := by
  rw [Query.ofState_bind]
  cases hexpansion : (entryFor invoke file s).1 with
  | none =>
    rw [hnone]
    exact fun _ => ⟨[], rfl⟩
  | some entry =>
    exact hsome entry _ (hs.mapper_entryFor hinvoke hexpansion)
      (hs.perform hinvoke (.entryFor file))

theorem forwards_askLocations (hinvoke : LeavesUnmapped invoke) (hs : s.Unmapped) {kind : String}
    {toSource : Option (Url × Entry) → α → Query Session (Option α)}
    {inner : Url → Offset → Query Session (List α)} {position : Offset}
    (hinner : ∀ t, t.Unmapped → (inner file position t).2.Unmapped)
    (hsource : ∀ expansion t a, WithoutLayout expansion → Fits a →
      Settles (Near invoke t) (toSource (expansion.map fun entry => (file, entry)) a)
        (.ok (some a))) :
    Forwards invoke (inner file position (entryFor invoke file s).2)
      (askLocations invoke kind toSource inner file position s) := by
  have hwithout : WithoutLayout (entryFor invoke file s).1 :=
    fun _ hentry => hs.mapper_entryFor hinvoke hentry
  unfold askLocations
  rw [Query.ofState_bind, askedPosition_bind hwithout]
  refine forwards_bind (hinner _ (hs.perform hinvoke (.entryFor file))) fun results hresults => ?_
  exact settles_keepMapped_all fun a ha => hsource _ _ a hwithout (hresults a ha)

theorem askDiagnostics_eq (hinvoke : LeavesUnmapped invoke) (hs : s.Unmapped)
    {inner : Url → Query Session (List Diagnostic)}
    (hinner : (inner file (entryFor invoke file s).2).2.Unmapped)
    (hfits : ∀ findings, (inner file (entryFor invoke file s).2).1 = .ok findings → Fits findings) :
    ∃ files, askDiagnostics invoke inner file s =
      ((inner file (entryFor invoke file s).2).1.map fun findings =>
          (findings, (entryFor invoke file s).1),
        refreshed invoke files (inner file (entryFor invoke file s).2).2) := by
  unfold askDiagnostics
  rw [Query.ofState_bind]
  cases hexpansion : (entryFor invoke file s).1 with
  | none => exact forwarded hinner fun findings _ => Query.settles_pure _
  | some entry =>
    refine forwarded hinner fun findings hfindings => ?_
    have hmapper := hs.mapper_entryFor hinvoke hexpansion
    have hkept : Settles (Near invoke (inner file (entryFor invoke file s).2).2)
        (keepMapped "diagnostic" file (diagnosticToSource invoke file entry) findings)
        (.ok findings) :=
      settles_keepMapped_all fun d hd =>
        settles_diagnostic_same hinvoke hmapper (hfits findings hfindings d hd)
    exact hkept.bind_ok (Query.settles_pure _)

end Questions

/-! ## The eleven questions -/

/-- The expander's own remarks about a file, as findings. -/
def remarks (settings : Settings) (expansion : Option Entry) : List Diagnostic :=
  match expansion with
  | none => []
  | some entry => entry.diagnostics.map (Diagnostic.ofExpander settings.diagnosticSource)

section Services

variable (hinvoke : LeavesUnmapped invoke) (hs : s.Unmapped) {inner : Service (Query Session)}
  (hinner : Within (fun before after => before.Unmapped → after.Unmapped) inner) (file : Url)
  (position : Offset)

include hinvoke hs hinner

theorem forwards_syntactic :
    Forwards invoke (inner.syntactic file (entryFor invoke file s).2)
      ((remap invoke inner).syntactic file s) := by
  have hbefore := hs.perform hinvoke (.entryFor file)
  intro hfits
  obtain ⟨files, heq⟩ := askDiagnostics_eq hinvoke hs (hinner.syntactic file _ hbefore) hfits
  refine ⟨files, ?_⟩
  show (askDiagnostics invoke inner.syntactic file >>= fun found => pure found.1) s = _
  cases hanswer : (inner.syntactic file (entryFor invoke file s).2).1 with
  | error e =>
    rw [hanswer] at heq
    exact Query.bind_of_error heq _
  | ok findings =>
    rw [hanswer] at heq
    exact Query.bind_of_ok heq _

/-- The remarks are those of the entry from before the service was asked, under the settings from
after it. -/
theorem semantic_eq
    (hfits : ∀ findings, (inner.semantic file (entryFor invoke file s).2).1 = .ok findings →
      Fits findings) :
    ∃ files, (remap invoke inner).semantic file s =
      ((inner.semantic file (entryFor invoke file s).2).1.map fun findings => findings ++
          remarks (refreshed invoke files
            (inner.semantic file (entryFor invoke file s).2).2).settings (entryFor invoke file s).1,
        refreshed invoke files (inner.semantic file (entryFor invoke file s).2).2) := by
  have hbefore := hs.perform hinvoke (.entryFor file)
  obtain ⟨files, heq⟩ := askDiagnostics_eq hinvoke hs (hinner.semantic file _ hbefore) hfits
  refine ⟨files, ?_⟩
  dsimp only [remap]
  cases hanswer : (inner.semantic file (entryFor invoke file s).2).1 with
  | error e =>
    rw [hanswer] at heq
    exact Query.bind_of_error heq _
  | ok findings =>
    rw [hanswer] at heq
    rw [Query.bind_of_ok heq]
    cases (entryFor invoke file s).1 with
    | none =>
      refine Prod.ext ?_ rfl
      exact congrArg Except.ok (List.append_nil findings).symm
    | some entry => rfl

theorem forwards_quickInfo :
    Forwards invoke (inner.quickInfo file position (entryFor invoke file s).2)
      ((remap invoke inner).quickInfo file position s) := by
  refine forwards_entryFor hinvoke hs rfl fun entry t hmapper ht => ?_
  dsimp only
  rw [askedPosition_bind (withoutLayout_some hmapper)]
  refine forwards_bind (hinner.quickInfo file position t ht) fun found hfits => ?_
  cases found with
  | none => exact Query.settles_pure none
  | some info =>
    dsimp only
    rw [hmapper, Mapper.spanToSource_identity (hfits info rfl)]
    exact (Query.settles_ofExcept _).bind_ok (Query.settles_pure (some info))

theorem forwards_completions :
    Forwards invoke (inner.completions file position (entryFor invoke file s).2)
      ((remap invoke inner).completions file position s) := by
  refine forwards_entryFor hinvoke hs rfl fun entry t hmapper ht => ?_
  dsimp only
  rw [askedPosition_bind (withoutLayout_some hmapper)]
  refine forwards_bind (hinner.completions file position t ht) fun found hfits => ?_
  cases found with
  | none => exact Query.settles_pure none
  | some list =>
    have hkept : Settles (Near invoke (inner.completions file position t).2)
        (keepMapped "completion" file
          (fun c => Query.ofExcept (entry.mapper.completionToSource c)) list.entries)
        (.ok list.entries) := by
      refine settles_keepMapped_all fun c hc => ?_
      rw [hmapper, Mapper.completionToSource_identity (hfits list rfl c hc)]
      exact Query.settles_ofExcept _
    exact hkept.bind_ok (Query.settles_pure (some list))

theorem forwards_definition :
    Forwards invoke (inner.definition file position (entryFor invoke file s).2)
      ((remap invoke inner).definition file position s) :=
  forwards_askLocations hinvoke hs (hinner.definition file position)
    fun _ _ _ hwithout hl => settles_location_same hinvoke hwithout hl

theorem forwards_references :
    Forwards invoke (inner.references file position (entryFor invoke file s).2)
      ((remap invoke inner).references file position s) :=
  forwards_askLocations hinvoke hs (hinner.references file position)
    fun _ _ _ hwithout hr => settles_reference_same hinvoke hwithout hr

theorem forwards_renameLocations :
    Forwards invoke (inner.renameLocations file position (entryFor invoke file s).2)
      ((remap invoke inner).renameLocations file position s) :=
  forwards_askLocations hinvoke hs (hinner.renameLocations file position)
    fun _ _ _ hwithout hl => settles_location_same hinvoke hwithout hl

theorem forwards_renameInfo :
    Forwards invoke (inner.renameInfo file position (entryFor invoke file s).2)
      ((remap invoke inner).renameInfo file position s) := by
  refine forwards_entryFor hinvoke hs rfl fun entry t hmapper ht => ?_
  dsimp only
  rw [askedPosition_bind (withoutLayout_some hmapper)]
  refine forwards_bind (hinner.renameInfo file position t ht) fun info hfits => ?_
  rw [hmapper, Mapper.renameToSource_identity hfits]
  exact Query.settles_ofExcept _

theorem forwards_highlights :
    Forwards invoke (inner.highlights file position (entryFor invoke file s).2)
      ((remap invoke inner).highlights file position s) := by
  refine forwards_entryFor hinvoke hs rfl fun entry t hmapper ht => ?_
  dsimp only
  rw [askedPosition_bind (withoutLayout_some hmapper)]
  refine forwards_bind (hinner.highlights file position t ht) fun results hfits => ?_
  refine settles_keepMapped_all fun highlight hmem => ?_
  rw [hmapper, Mapper.highlightToSource_identity (hfits highlight hmem)]
  exact Query.settles_ofExcept _

theorem forwards_outline :
    Forwards invoke (inner.outline file (entryFor invoke file s).2)
      ((remap invoke inner).outline file s) := by
  refine forwards_entryFor hinvoke hs rfl fun entry t hmapper ht => ?_
  refine forwards_bind (hinner.outline file t ht) fun items hfits => ?_
  rw [hmapper, Mapper.outlineToSource_identity items hfits]
  exact Query.settles_ofExcept _

theorem forwards_inlayHints {span : Span} (hspan : span.Fits) :
    Forwards invoke (inner.inlayHints file span (entryFor invoke file s).2)
      ((remap invoke inner).inlayHints file span s) := by
  refine forwards_entryFor hinvoke hs rfl fun entry t hmapper ht => ?_
  dsimp only
  rw [hmapper, Mapper.spanToExpanded_identity hspan]
  show Forwards invoke _ ((inner.inlayHints file span >>= fun results =>
    keepMapped "inlay hint" file (fun h => Query.ofExcept (Mapper.identity.hintToSource h))
      results) t)
  refine forwards_bind (hinner.inlayHints file span t ht) fun results _ => ?_
  exact settles_keepMapped_all fun _ _ => Query.settles_ofExcept _

end Services

/-- **Without layouts a wrapped service is the service itself.** The expander gives no layout, be it
called from outside or by itself, and the service works on the session as anybody can. In every
session on the way through a work that begins with a new one, each question is passed on about the
same file and the same position or span, after the file was brought up to date, and:

1. the answer to ten of the questions is that of the service, if all its spans fit, an overflow
   included, and no result is left out;
2. findings about meaning are those of the service with the expander's remarks about the file behind
   them, in their order and at their own offsets;
3. a file that is left alone has no entry and so no remarks. -/
theorem transparent_without_layouts {compile : Pattern.Compiler} {settings : Settings}
    {bindings : List (String × Provider.Binding)} {sources : Sources} {s₀ s : Session}
    (hcreate : create compile settings bindings sources = .ok s₀) {client : Work}
    (hclient : client.Plain) (hs : client.Reaches s₀ s) {work : Request → Work}
    (hwork : ∀ request, (work request).Plain)
    {inner : Service (Query Session)}
    (hinner : Within (fun before after => ∃ w : Work, w.Plain ∧ after = (w.run before).2) inner) :
    let invoke := Work.expander work
    let service := remap invoke inner
    let expansion := fun file => (entryFor invoke file s).1
    let before := fun file => (entryFor invoke file s).2
    (∀ file, Forwards invoke (inner.syntactic file (before file)) (service.syntactic file s)) ∧
      (∀ file position, Forwards invoke (inner.quickInfo file position (before file))
        (service.quickInfo file position s)) ∧
      (∀ file position, Forwards invoke (inner.completions file position (before file))
        (service.completions file position s)) ∧
      (∀ file position, Forwards invoke (inner.definition file position (before file))
        (service.definition file position s)) ∧
      (∀ file position, Forwards invoke (inner.references file position (before file))
        (service.references file position s)) ∧
      (∀ file position, Forwards invoke (inner.renameInfo file position (before file))
        (service.renameInfo file position s)) ∧
      (∀ file position, Forwards invoke (inner.renameLocations file position (before file))
        (service.renameLocations file position s)) ∧
      (∀ file position, Forwards invoke (inner.highlights file position (before file))
        (service.highlights file position s)) ∧
      (∀ file, Forwards invoke (inner.outline file (before file)) (service.outline file s)) ∧
      (∀ file span, span.Fits → Forwards invoke (inner.inlayHints file span (before file))
        (service.inlayHints file span s)) ∧
      (∀ file, (∀ findings, (inner.semantic file (before file)).1 = .ok findings → Fits findings) →
        ∃ files,
          let after := refreshed invoke files (inner.semantic file (before file)).2
          service.semantic file s =
            ((inner.semantic file (before file)).1.map fun findings =>
              findings ++ remarks after.settings (expansion file), after)) ∧
      ∀ file, expansion file = none ↔ s.isBypassed file = true := by
  have hunmapped : s.Unmapped := (unmapped_create hcreate).reaches hs hclient
  have hinvoke := Work.leavesUnmapped hwork
  have hkeeps : Within (fun before after => before.Unmapped → after.Unmapped) inner := by
    refine hinner.mono ?_
    rintro before _ ⟨w, hw, rfl⟩ hbefore
    exact (hbefore.run hw).2
  exact ⟨forwards_syntactic hinvoke hunmapped hkeeps, forwards_quickInfo hinvoke hunmapped hkeeps,
    forwards_completions hinvoke hunmapped hkeeps, forwards_definition hinvoke hunmapped hkeeps,
    forwards_references hinvoke hunmapped hkeeps, forwards_renameInfo hinvoke hunmapped hkeeps,
    forwards_renameLocations hinvoke hunmapped hkeeps,
    forwards_highlights hinvoke hunmapped hkeeps, forwards_outline hinvoke hunmapped hkeeps,
    fun file _ hspan => forwards_inlayHints hinvoke hunmapped hkeeps file hspan,
    semantic_eq hinvoke hunmapped hkeeps, entryFor_eq_none_iff (Work.expander work) s⟩

/-! A file with a directive, an expander that has something to say about it and gives no layout, and
a service that names a place behind the end of the source. -/

def remarkedFile : Work :=
  .alter (.edit (Url.ofFile ["a.ts"]) ⟨some "@derive(A)", some ⟨"1"⟩⟩) (.reply (.failed ""))

def remarkingWork : Request → Work := fun request =>
  .reply (.output ⟨request.source ++ "\nx", none, [⟨.warning, "w", some 2, some 5⟩], none⟩)

theorem remarkingWork_plain (request : Request) : (remarkingWork request).Plain := rfl

/-- The place is given as it is, and the remark stands where the expander put it. -/
theorem remarkedFile_transparent :
    ∃ s₀ s, create Pattern.compile Settings.default [] .empty = .ok s₀ ∧ remarkedFile.Reaches s₀ s ∧
      s.isBypassed (Url.ofFile ["a.ts"]) = false ∧
      ((remap (Work.expander remarkingWork)
          (fixedService [⟨Url.ofFile ["a.ts"], ⟨11, 1⟩⟩])).definition (Url.ofFile ["a.ts"]) 3 s).1 =
        .ok [⟨Url.ofFile ["a.ts"], ⟨11, 1⟩⟩] ∧
      ∃ source, ((remap (Work.expander remarkingWork)
          (fixedService [⟨Url.ofFile ["a.ts"], ⟨11, 1⟩⟩])).semantic (Url.ofFile ["a.ts"]) s).1 =
        .ok [⟨none, some ⟨2, 3⟩, "w", .warning, none, some source⟩] := by
  have hsample :
      ((create Pattern.compile Settings.default [] .empty).toOption.map fun s₀ =>
        let s := (remarkedFile.run s₀).2
        (s.isBypassed (Url.ofFile ["a.ts"]),
          (entryFor (Work.expander remarkingWork) (Url.ofFile ["a.ts"]) s).1.map
            Entry.diagnostics)) =
        some (false, some [⟨.warning, "w", some 2, some 5⟩]) := by
    decide +kernel
  cases hcreate : create Pattern.compile Settings.default [] .empty with
  | error error =>
    rw [hcreate] at hsample
    cases hsample
  | ok s₀ =>
    rw [hcreate] at hsample
    obtain ⟨hfile, hremarks⟩ := Prod.mk.inj (Option.some.inj hsample)
    obtain ⟨entry, hentry, hdiagnostics⟩ := Option.map_eq_some_iff.mp hremarks
    have hreach := remarkedFile.reaches_run s₀
    have hclient : remarkedFile.Plain := trivial
    obtain ⟨-, -, -, hdefinition, -, -, -, -, -, -, hsemantic, -⟩ :=
      transparent_without_layouts hcreate hclient hreach remarkingWork_plain
        (fixedService_within (fun t => ⟨.reply (.failed ""), trivial, rfl⟩)
          [⟨Url.ofFile ["a.ts"], ⟨11, 1⟩⟩])
    refine ⟨s₀, _, rfl, hreach, hfile, ?_, ?_⟩
    · obtain ⟨files, heq⟩ := hdefinition (Url.ofFile ["a.ts"]) 3 (by
        rintro _ ⟨⟩ l hl
        rw [List.mem_singleton] at hl
        rw [hl]
        show (11 : Nat) + 1 < 0x10000000000000000
        decide)
      rw [heq]
      rfl
    · obtain ⟨files, heq⟩ := hsemantic (Url.ofFile ["a.ts"]) (by
        rintro _ ⟨⟩ d hd
        cases hd)
      have hremark : ∀ settings, remarks settings (some entry) =
          [⟨none, some ⟨2, 3⟩, "w", .warning, none, some settings.diagnosticSource⟩] := by
        intro settings
        rw [remarks, hdiagnostics]
        rfl
      rw [heq]
      dsimp only
      rw [hentry, hremark]
      exact ⟨_, rfl⟩

end Session

end Palimpsest
