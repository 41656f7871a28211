import Palimpsest.Proofs.Session.Bypass
import Palimpsest.Session.Remap

/-!
# Questions to a service

A question works in a session and may end in an overflow. On its way it brings files up to date, so
the session that it ends in is not the one that it began in. Often the result does not depend on
that: from every session of some kind the question ends with the same result, in a session of the
same kind. Then it can be replaced by its result, step by step.

1. `Query.Settles`: the result of a question for all sessions of a kind, with rules for sequences
   and lists.
2. `locationToSource_eq`: a location is carried by the entry of its file and by nothing else.
3. `refreshed`: sessions after some files have been brought up to date.
4. `Service.Within`: what a service may do to the session while it answers.
-/

namespace Palimpsest

open Analysis
open Expansion (Invoke Entry)

namespace Query

variable {α β : Type} {P : Session → Prop}

/-- From every session of a kind the question ends with this result, in a session of the kind. -/
def Settles (P : Session → Prop) (q : Query Session α) (result : Except Overflow α) : Prop :=
  ∀ s, P s → (q s).1 = result ∧ P (q s).2

theorem bind_of_ok {q : Query Session α} {s t : Session} {a : α} (h : q s = (.ok a, t))
    (next : α → Query Session β) : (q >>= next) s = next a t := by
  show ExceptT.bindCont next (q s).1 (q s).2 = next a t
  rw [h]
  rfl

theorem bind_of_error {q : Query Session α} {s t : Session} {e : Overflow}
    (h : q s = (.error e, t)) (next : α → Query Session β) : (q >>= next) s = (.error e, t) := by
  show ExceptT.bindCont next (q s).1 (q s).2 = (.error e, t)
  rw [h]
  rfl

theorem ofState_bind (step : StateM Session α) (next : α → Query Session β) (s : Session) :
    (ofState step >>= next) s = next (step s).1 (step s).2 := rfl

theorem current_bind (next : Session → Query Session β) (s : Session) :
    (ofState Session.current >>= next) s = next s s := rfl

theorem settles_pure (a : α) : Settles P (pure a) (.ok a) := fun _ hs => ⟨rfl, hs⟩

theorem settles_ofExcept (result : Except Overflow α) : Settles P (ofExcept result) result :=
  fun _ hs => ⟨rfl, hs⟩

theorem settles_ofState {step : StateM Session α} {a : α}
    (h : ∀ s, P s → (step s).1 = a ∧ P (step s).2) : Settles P (ofState step) (.ok a) := by
  intro s hs
  obtain ⟨ha, ht⟩ := h s hs
  exact ⟨congrArg Except.ok ha, ht⟩

theorem Settles.bind {q : Query Session α} {result : Except Overflow α}
    {next : α → Query Session β} {later : α → Except Overflow β} (hq : Settles P q result)
    (hnext : ∀ a, result = .ok a → Settles P (next a) (later a)) :
    Settles P (q >>= next) (result >>= later) := by
  intro s hs
  obtain ⟨hresult, ht⟩ := hq s hs
  cases result with
  | error e =>
    rw [bind_of_error (Prod.ext hresult rfl)]
    exact ⟨rfl, ht⟩
  | ok a =>
    rw [bind_of_ok (Prod.ext hresult rfl)]
    exact hnext a rfl _ ht

theorem Settles.bind_ok {q : Query Session α} {a : α} {next : α → Query Session β}
    {result : Except Overflow β} (hq : Settles P q (.ok a)) (hnext : Settles P (next a) result) :
    Settles P (q >>= next) result := by
  intro s hs
  obtain ⟨ha, ht⟩ := hq s hs
  rw [bind_of_ok (Prod.ext ha rfl)]
  exact hnext _ ht

theorem settles_keepSome {f : α → Query Session (Option β)} {g : α → Except Overflow (Option β)}
    {list : List α} (h : ∀ a ∈ list, Settles P (f a) (g a)) :
    Settles P (keepSome f list) (keepSome g list) := by
  induction list with
  | nil => exact settles_pure []
  | cons a rest ih =>
    refine (h a List.mem_cons_self).bind fun first _ => ?_
    have hrest := ih fun b hb => h b (List.mem_cons_of_mem a hb)
    exact hrest.bind fun others _ => settles_pure _

end Query

open Query (Settles)

namespace Session

variable {α : Type} {P : Session → Prop}

/-! ## Lists of results -/

theorem settles_keepMapped {kind : String} {file : Url} {f : α → Query Session (Option α)}
    {g : α → Except Overflow (Option α)} {results : List α} (hnote : ∀ s e, P s → P (s.note e))
    (h : ∀ a ∈ results, Settles P (f a) (g a)) :
    Settles P (keepMapped kind file f results) (keepSome g results) := by
  rw [← bind_pure (keepSome g results)]
  refine (Query.settles_keepSome h).bind fun kept _ => ?_
  have hcount : Settles P
      (Query.ofState (noteDropped kind file (results.length - kept.length))) (.ok ()) := by
    apply Query.settles_ofState
    intro s hs
    refine ⟨rfl, ?_⟩
    unfold noteDropped
    split
    · exact hs
    · exact hnote s _ hs
  exact hcount.bind_ok (Query.settles_pure kept)

theorem settles_keepMapped_all {kind : String} {file : Url} {f : α → Query Session (Option α)}
    {results : List α} (h : ∀ a ∈ results, Settles P (f a) (.ok (some a))) :
    Settles P (keepMapped kind file f results) (.ok results) := by
  have hall : keepSome (fun a => (.ok (some a) : Except Overflow (Option α))) results =
      .ok results := by
    clear h
    induction results with
    | nil => rfl
    | cons a rest ih =>
      rw [keepSome, ih]
      rfl
  have hkept := Query.settles_keepSome h
  rw [hall] at hkept
  apply hkept.bind_ok
  intro s hs
  unfold noteDropped
  rw [Nat.sub_self]
  exact ⟨rfl, hs⟩

/-! ## Locations -/

/-- A location carried to the source by the entry of its file; one of a file without an entry
stays as it is. -/
def moved (expansion : Option Entry) (l : Location) : Except Overflow (Option Location) :=
  match expansion with
  | none => .ok (some l)
  | some entry => (entry.mapper.spanToSource l.span).map fun found =>
      found.map fun span => { l with span := span }

/-- **A location is carried by the entry of its file.** That of the file asked about is at hand, and
any other file is brought up to date first. There is nothing special about a unit. -/
theorem locationToSource_eq (invoke : Invoke Session) (asked : Option (Url × Entry)) (l : Location)
    (s : Session) :
    locationToSource invoke asked l s =
      match asked.filter fun (file, _) => file == l.file with
      | some (_, entry) => (moved (some entry) l, s)
      | none => (moved (entryFor invoke l.file s).1 l, (entryFor invoke l.file s).2) := by
  have hmove : ∀ (entry : Entry) (t : Session),
      (do
        let found ← Query.ofExcept (entry.mapper.spanToSource l.span)
        return found.map fun span => { l with span := span } : Query Session (Option Location)) t =
        (moved (some entry) l, t) := by
    intro entry t
    dsimp only [moved]
    cases entry.mapper.spanToSource l.span with
    | error e => rfl
    | ok found => rfl
  unfold locationToSource
  cases asked.filter fun (file, _) => file == l.file with
  | some pair => exact hmove pair.2 s
  | none =>
    dsimp only
    rw [Query.current_bind]
    by_cases hunit : s.store.units.contains l.file = true
    · rw [if_pos hunit, entryFor_of_named invoke (c := .declarationUnit)
        (by rw [classOfName?, if_pos hunit])]
      rfl
    · rw [if_neg hunit, Query.ofState_bind]
      cases (entryFor invoke l.file s).1 with
      | none => rfl
      | some entry => exact hmove entry _

theorem settles_location {invoke : Invoke Session} {asked : Option (Url × Entry)} {l : Location}
    {result : Except Overflow (Option Location)}
    (hasked : ∀ entry, asked = some (l.file, entry) → moved (some entry) l = result)
    (hentry : ∀ s, P s → moved (entryFor invoke l.file s).1 l = result ∧
      P (entryFor invoke l.file s).2) :
    Settles P (locationToSource invoke asked l) result := by
  intro s hs
  rw [locationToSource_eq]
  cases hfile : asked.filter fun (file, _) => file == l.file with
  | none => exact hentry s hs
  | some pair =>
    obtain ⟨file, entry⟩ := pair
    obtain ⟨hpair, hsame⟩ := Option.filter_eq_some_iff.mp hfile
    rw [beq_iff_eq.mp hsame] at hpair
    exact ⟨hasked entry hpair, hs⟩

/-! ## Services -/

/-- The session after some files have been brought up to date, one after the other. -/
def refreshed (invoke : Invoke Session) (files : List Url) (s : Session) : Session :=
  files.foldl (fun s file => (entryFor invoke file s).2) s

/-- Whatever the service is asked, the session before and after its answer are related so. -/
structure Within (R : Session → Session → Prop) (inner : Service (Query Session)) : Prop where
  syntactic : ∀ file s, R s (inner.syntactic file s).2
  semantic : ∀ file s, R s (inner.semantic file s).2
  quickInfo : ∀ file position s, R s (inner.quickInfo file position s).2
  completions : ∀ file position s, R s (inner.completions file position s).2
  definition : ∀ file position s, R s (inner.definition file position s).2
  references : ∀ file position s, R s (inner.references file position s).2
  renameInfo : ∀ file position s, R s (inner.renameInfo file position s).2
  renameLocations : ∀ file position s, R s (inner.renameLocations file position s).2
  highlights : ∀ file position s, R s (inner.highlights file position s).2
  outline : ∀ file s, R s (inner.outline file s).2
  inlayHints : ∀ file span s, R s (inner.inlayHints file span s).2

theorem Within.mono {R R' : Session → Session → Prop} {inner : Service (Query Session)}
    (h : Within R inner) (hR : ∀ s t, R s t → R' s t) : Within R' inner where
  syntactic file s := hR _ _ (h.syntactic file s)
  semantic file s := hR _ _ (h.semantic file s)
  quickInfo file position s := hR _ _ (h.quickInfo file position s)
  completions file position s := hR _ _ (h.completions file position s)
  definition file position s := hR _ _ (h.definition file position s)
  references file position s := hR _ _ (h.references file position s)
  renameInfo file position s := hR _ _ (h.renameInfo file position s)
  renameLocations file position s := hR _ _ (h.renameLocations file position s)
  highlights file position s := hR _ _ (h.highlights file position s)
  outline file s := hR _ _ (h.outline file s)
  inlayHints file span s := hR _ _ (h.inlayHints file span s)

/-- The service that gives the same locations whatever it is asked. -/
def fixedService (locations : List Location) : Service (Query Session) where
  syntactic _ := pure []
  semantic _ := pure []
  quickInfo _ _ := pure none
  completions _ _ := pure none
  definition _ _ := pure locations
  references _ _ := pure (locations.map fun l => ⟨l, false, false⟩)
  renameInfo _ _ := pure (.unavailable "")
  renameLocations _ _ := pure locations
  highlights _ _ := pure []
  outline _ := pure []
  inlayHints _ _ := pure []

theorem fixedService_within {R : Session → Session → Prop} (hR : ∀ s, R s s)
    (locations : List Location) : Within R (fixedService locations) :=
  ⟨fun _ => hR, fun _ => hR, fun _ _ => hR, fun _ _ => hR, fun _ _ => hR, fun _ _ => hR,
    fun _ _ => hR, fun _ _ => hR, fun _ _ => hR, fun _ => hR, fun _ _ => hR⟩

end Session

end Palimpsest
