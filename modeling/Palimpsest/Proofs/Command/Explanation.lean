import Palimpsest.Command.Libraries
import Palimpsest.Proofs.Command.Wording
import Palimpsest.Proofs.Expansion.Answers
import Palimpsest.Proofs.Mapping.Refusal

/-!
# What a command tells of made-up text

A lookup that refuses an offset or a span does not say why. The command that meets the refusal asks
once more, for a region at the first byte, and words its failure by the answer. So two questions with
bounds of their own have to agree: the lookup of a point counts both edges of a segment, that of a
span has a bias at each end, and the second question knows of regions only.

1. `producerAt?_eq_some_iff`, `refused_point_iff` and `refused_span_iff`: both questions by the bytes
   of regions, for every layout that is accepted.
2. `Lookup.madeUp_or_last`: where a lookup is refused, its first byte was made up, or it is one of a
   span whose last byte was.
3. `Worded`: what the result of a lookup has to do with its refusal, and `worded_told`: it is so for
   all that commands make of a lookup.
4. `Explains`: what is seen of a run tells rightly what became of its lookup, and
   `explained_unless_overflowing`: it does for every run that carries to the source.

A lookup that overflows is neither carried nor refused, and the run breaks off. Where that happens at
the start of a span that ends in made-up text, nobody is told why the span has no place in the source:
`unmappable_span_unexplained`.
-/

namespace Palimpsest

namespace Mapping.Mapper

/-! ## Refusals of a mapper -/

def regions : Mapper → List Region
  | identity => []
  | segments map => map.regions.toList

def carriers : Mapper → List Segment
  | identity => []
  | segments map => map.segments.toList

def MadeUpBy (m : Mapper) (producer : String) (byte : Offset) : Prop :=
  ∃ r ∈ m.regions, r.HasByte byte ∧ r.producer = producer

def MadeUp (m : Mapper) (byte : Offset) : Prop := ∃ r ∈ m.regions, r.HasByte byte

instance (m : Mapper) (producer : String) (byte : Offset) : Decidable (m.MadeUpBy producer byte) :=
  inferInstanceAs (Decidable (∃ r ∈ m.regions, _))

instance (m : Mapper) (byte : Offset) : Decidable (m.MadeUp byte) :=
  inferInstanceAs (Decidable (∃ r ∈ m.regions, _))

/-- The first or the last byte of the span was made up. The end of a span is at most the largest
offset. -/
def EndMadeUp (m : Mapper) (span : Span) : Prop :=
  m.MadeUp span.start ∨ 0 < span.length.val ∧ m.MadeUp (span.stop.minus 1)

theorem madeUp_iff {m : Mapper} {byte : Offset} : m.MadeUp byte ↔ ∃ p, m.MadeUpBy p byte := by
  constructor
  · rintro ⟨r, hr, hbyte⟩
    exact ⟨r.producer, r, hr, hbyte, rfl⟩
  · rintro ⟨_, r, hr, hbyte, -⟩
    exact ⟨r, hr, hbyte⟩

section Accepted

variable {layout : Option Layout} {m : Mapper} (h : ofLayout? layout = .ok m)

include h

theorem producerAt?_eq_some_iff {producer : String} {byte : Offset} :
    m.producerAt? byte = some producer ↔ m.MadeUpBy producer byte := by
  rcases Expansion.wellFormed_of_ofLayout? h with rfl | ⟨map, rfl, hmap⟩
  · simp [producerAt?, MadeUpBy, regions]
  · constructor
    · intro hfound
      obtain ⟨r, hr, hproducer⟩ := Option.map_eq_some_iff.mp hfound
      obtain ⟨hmem, hcovers⟩ := SegmentMap.regionAt?_eq_some hr
      exact ⟨r, hmem, hcovers, hproducer⟩
    · rintro ⟨r, hr, hbyte, rfl⟩
      exact hmap.producerAt?_of_hasByte hr hbyte

theorem producerAt?_eq_none_iff {byte : Offset} :
    m.producerAt? byte = none ↔ ¬ m.MadeUp byte := by
  rw [madeUp_iff, Option.eq_none_iff_forall_ne_some]
  simp only [ne_eq, producerAt?_eq_some_iff h, not_exists]

theorem refused_point_iff {pos : Offset} :
    m.pointToSource pos = .ok none ↔
      m.MadeUp pos ∧ ∀ s ∈ m.carriers, ¬ s.Touches .expanded pos := by
  rcases Expansion.wellFormed_of_ofLayout? h with rfl | ⟨map, rfl, hmap⟩
  · simp [pointToSource, MadeUp, regions]
  · exact hmap.pointToSource_eq_none_iff

/-- A span is refused where an end of it was made up, unless the lookup of its start overflows. -/
theorem refused_span_iff {span : Span} :
    m.spanToSource span = .ok none ↔
      m.EndMadeUp span ∧ m.toSource .start span.start ≠ .error .sum := by
  rcases Expansion.wellFormed_of_ofLayout? h with rfl | ⟨map, rfl, hmap⟩
  · rw [spanToSource_eq_none_iff]
    simp [toSource, EndMadeUp, MadeUp, regions]
  · have hfails : map.toSource .start span.start = .error .sum ↔ _ := hmap.toSource_eq_error_iff
    rw [hmap.spanToSource_eq_none_iff, toSource, ne_eq, hfails]
    constructor
    · rintro (hfirst | ⟨hlength, hlast, hfits⟩)
      · exact ⟨Or.inl hfirst, fun hnot => hnot.1 hfirst⟩
      · exact ⟨Or.inr ⟨hlength, hlast⟩, fun hnot => hfits hnot.2⟩
    · rintro ⟨hfirst | ⟨hlength, hlast⟩, hnot⟩
      · exact Or.inl hfirst
      · by_cases hfirst : ∃ r ∈ map.regions.toList, r.HasByte span.start
        · exact Or.inl hfirst
        · exact Or.inr ⟨hlength, hlast, fun hover => hnot ⟨hfirst, hover⟩⟩

end Accepted

end Mapping.Mapper

namespace Command

open Mapping (Mapper)
open Text (LineMap)

/-! ## Lookups -/

/-- What is carried to the source: a single offset, or a span. -/
inductive Lookup where
  | point (pos : Offset)
  | span (bytes : Span)

namespace Lookup

def start : Lookup → Offset
  | point pos => pos
  | span bytes => bytes.start

/-- The lookup ends without a place in the source. -/
def Refused (m : Mapper) : Lookup → Prop
  | point pos => m.pointToSource pos = .ok none
  | span bytes => m.spanToSource bytes = .ok none

/-- The lookup is one of a span that has a byte, and the last one was made up. -/
def LastMadeUp (m : Mapper) : Lookup → Prop
  | point _ => False
  | span bytes => 0 < bytes.length.val ∧ m.MadeUp (bytes.stop.minus 1)

/-- There is no place in the source by the bytes: that of a point was made up and no segment touches
it, or an end of a span was. -/
def Unmappable (m : Mapper) : Lookup → Prop
  | point pos => m.MadeUp pos ∧ ∀ s ∈ m.carriers, ¬ s.Touches .expanded pos
  | span bytes => m.EndMadeUp bytes

def Overflows (m : Mapper) : Lookup → Prop
  | point pos => m.pointToSource pos = .error .sum
  | span bytes => m.toSource .start bytes.start = .error .sum

variable {layout : Option Mapping.Layout} {m : Mapper} (h : Mapper.ofLayout? layout = .ok m)

include h

/-- No segment touches a point that has no place in the source, so none can carry it too far. -/
theorem point_fits {pos : Offset} (hbytes : (point pos).Unmappable m) :
    ¬ (point pos).Overflows m := by
  intro hoverflows
  have hnone : m.pointToSource pos = .ok none := (Mapper.refused_point_iff h).mpr hbytes
  cases hnone.symm.trans hoverflows

theorem refused_iff (lookup : Lookup) :
    lookup.Refused m ↔ lookup.Unmappable m ∧ ¬ lookup.Overflows m := by
  cases lookup with
  | span bytes => exact Mapper.refused_span_iff h
  | point pos =>
    have hrefused : (point pos).Refused m ↔ (point pos).Unmappable m := Mapper.refused_point_iff h
    rw [hrefused]
    exact ⟨fun hbytes => ⟨hbytes, point_fits h hbytes⟩, fun hbytes => hbytes.1⟩

/-- The two questions agree: what is refused has a region at its first byte or at its last. -/
theorem madeUp_or_last {lookup : Lookup} (hrefused : lookup.Refused m) :
    m.MadeUp lookup.start ∨ lookup.LastMadeUp m := by
  have hbytes := ((lookup.refused_iff h).mp hrefused).1
  cases lookup with
  | point pos => exact Or.inl hbytes.1
  | span bytes => exact hbytes

end Lookup

/-! ## Results -/

def Stop.OverMadeUp : Stop → Prop
  | failure (.madeUp ..) => True
  | failure (.endsInMadeUp _) => True
  | _ => False

/-- A result fails over made-up text just where the lookup is refused, and then with the answer to the
second question; and it hands on an overflow. -/
structure Worded {α : Type} (m : Mapper) (lookup : Lookup) (result : Except Stop α) : Prop where
  refused : lookup.Refused m → result = .error (.failure (whyUnmapped m lookup.start))
  other : ¬ lookup.Refused m → ∀ stop, result = .error stop → ¬ stop.OverMadeUp
  overflows : lookup.Overflows m → result = .error (.crash .sum)

def told {α β : Type} (m : Mapper) (start : Offset) (form : β → α) :
    Except Overflow (Option β) → Except Stop α
  | .error e => .error (.crash e)
  | .ok none => .error (.failure (whyUnmapped m start))
  | .ok (some carried) => .ok (form carried)

theorem worded_told {α β : Type} (m : Mapper) (lookup : Lookup)
    {found : Except Overflow (Option β)} (hrefused : lookup.Refused m ↔ found = .ok none)
    (hoverflows : lookup.Overflows m → found = .error .sum) (form : β → α) :
    Worded m lookup (told m lookup.start form found) where
  refused h := by
    rw [hrefused.mp h]
    rfl
  other hnot stop hstop := by
    cases found with
    | error e =>
      cases hstop
      exact id
    | ok found =>
      cases found with
      | none => exact absurd (hrefused.mpr rfl) hnot
      | some carried => cases hstop
  overflows h := by
    rw [hoverflows h]
    rfl

theorem Worded.bind {α β : Type} {m : Mapper} {lookup : Lookup} {result : Except Stop α}
    (h : Worded m lookup result) {next : α → Except Stop β}
    (hnext : ∀ a stop, next a = .error stop → ¬ stop.OverMadeUp) :
    Worded m lookup (result >>= next) where
  refused hrefused := by
    rw [h.refused hrefused]
    rfl
  other hnot stop hstop := by
    cases result with
    | error cause =>
      obtain rfl : cause = stop := Except.error.inj hstop
      exact h.other hnot cause rfl
    | ok a => exact hnext a stop hstop
  overflows hoverflows := by
    rw [h.overflows hoverflows]
    rfl

theorem worded_point {α : Type} (m : Mapper) (pos : Offset) (form : Offset → α) :
    Worded m (.point pos) (told m pos form (m.pointToSource pos)) :=
  worded_told m (.point pos) Iff.rfl id form

theorem worded_span {α : Type} (m : Mapper) (bytes : Span) (form : Span → α) :
    Worded m (.span bytes) (told m bytes.start form (m.spanToSource bytes)) :=
  worded_told m (.span bytes) Iff.rfl
    (fun hstart => Mapper.spanToSource_eq_error_iff.mpr (Or.inl hstart)) form

theorem mapOffset_point (m : Mapper) (pos : Offset) :
    mapOffset m .toSource pos none = told m pos (·.val.repr) (m.pointToSource pos) := by
  simp only [mapOffset]
  cases m.pointToSource pos with
  | error e => rfl
  | ok found => cases found <;> rfl

theorem mapOffset_span (m : Mapper) (offset length : Offset) :
    mapOffset m .toSource offset (some length) =
      told m offset spanText (m.spanToSource ⟨offset, length⟩) := by
  simp only [mapOffset]
  cases m.spanToSource ⟨offset, length⟩ with
  | error e => rfl
  | ok found => cases found <;> rfl

theorem sourceSpan_of_span {output : Expander.Output} {range : Text.Range} {m : Mapper} {span : Span}
    (hspan : (LineMap.ofText output.code).span range = .ok span)
    (hlayout : Mapper.ofLayout? output.layout = .ok m) :
    sourceSpan output range = told m span.start id (m.spanToSource span) := by
  unfold sourceSpan mapperOf
  rw [hspan, hlayout]
  show (arithmetic (m.spanToSource span) >>= _) = _
  cases m.spanToSource span with
  | error e => rfl
  | ok found => cases found <;> rfl

theorem sourceSpan_of_overflow {output : Expander.Output} {range : Text.Range} {e : Overflow}
    (hspan : (LineMap.ofText output.code).span range = .error e) :
    sourceSpan output range = .error (.crash e) := by
  unfold sourceSpan
  rw [hspan]
  rfl

/-! ## Explanations -/

/-- The outcome puts a failure down to generated code, in one way or the other. -/
def Outcome.BlamesGenerated (outcome : Outcome) : Prop :=
  ∃ offset, (∃ producer, outcome = .inside offset producer) ∨ outcome = .endsInside offset

theorem blamesGenerated_iff {crashText : Overflow → String} {result : Except Stop String} :
    (Outcome.ofResult crashText result).BlamesGenerated ↔
      ∃ stop, result = .error stop ∧ stop.OverMadeUp := by
  simp only [Outcome.BlamesGenerated, Outcome.ofResult_eq_inside_iff,
    Outcome.ofResult_eq_endsInside_iff]
  constructor
  · rintro ⟨offset, ⟨producer, hresult⟩ | hresult⟩
    · exact ⟨_, hresult, trivial⟩
    · exact ⟨_, hresult, trivial⟩
  · rintro ⟨stop, hresult, hover⟩
    cases stop with
    | crash error => exact hover.elim
    | failure cause =>
      cases cause with
      | madeUp offset producer => exact ⟨offset, Or.inl ⟨producer, hresult⟩⟩
      | endsInMadeUp offset => exact ⟨offset, Or.inr hresult⟩
      | _ => exact hover.elim

/-- What is seen of a run tells rightly what became of its lookup. -/
structure Explains (m : Mapper) (lookup : Lookup) (outcome : Outcome) : Prop where
  /-- Generated code is blamed just where the lookup is refused. -/
  blames_iff : outcome.BlamesGenerated ↔ lookup.Refused m
  /-- Where it is blamed, a producer is named just where the first byte is in one of its
  regions. -/
  names_iff : outcome.BlamesGenerated → ∀ producer,
    outcome = .inside lookup.start producer ↔ m.MadeUpBy producer lookup.start
  /-- Where it is blamed and no producer is named, the end is. -/
  otherwise : outcome.BlamesGenerated → (∀ producer, outcome ≠ .inside lookup.start producer) →
    outcome = .endsInside lookup.start
  /-- Where the end is blamed, the first byte is in no region and the last one is in one. -/
  ends : ∀ offset, outcome = .endsInside offset →
    offset = lookup.start ∧ ¬ m.MadeUp lookup.start ∧ lookup.LastMadeUp m
  /-- The run breaks off where the lookup of the first byte overflows. -/
  breaks : lookup.Overflows m → outcome.exit = 101

theorem overMadeUp_whyUnmapped (m : Mapper) (offset : Offset) :
    (Stop.failure (whyUnmapped m offset)).OverMadeUp := by
  unfold whyUnmapped
  cases m.producerAt? offset <;> exact trivial

section Explained

variable {layout : Option Mapping.Layout} {m : Mapper} (hlayout : Mapper.ofLayout? layout = .ok m)

include hlayout

theorem whyUnmapped_eq_madeUp_iff {offset : Offset} {producer : String} :
    whyUnmapped m offset = .madeUp offset producer ↔ m.MadeUpBy producer offset := by
  rw [← Mapper.producerAt?_eq_some_iff hlayout]
  unfold whyUnmapped
  cases m.producerAt? offset <;> simp

theorem whyUnmapped_eq_endsInMadeUp_iff {offset offset' : Offset} :
    whyUnmapped m offset = .endsInMadeUp offset' ↔ offset' = offset ∧ ¬ m.MadeUp offset := by
  rw [← Mapper.producerAt?_eq_none_iff hlayout]
  unfold whyUnmapped
  cases m.producerAt? offset <;> simp [eq_comm]

theorem Worded.explains {lookup : Lookup} {result : Except Stop String}
    (h : Worded m lookup result) (crashText : Overflow → String) :
    Explains m lookup (Outcome.ofResult crashText result) := by
  have hblames : (Outcome.ofResult crashText result).BlamesGenerated ↔ lookup.Refused m := by
    rw [blamesGenerated_iff]
    constructor
    · rintro ⟨stop, hresult, hover⟩
      by_contra hnot
      exact h.other hnot stop hresult hover
    · intro hrefused
      exact ⟨_, h.refused hrefused, overMadeUp_whyUnmapped m lookup.start⟩
  have hnames : ∀ producer, lookup.Refused m →
      (Outcome.ofResult crashText result = .inside lookup.start producer ↔
        m.MadeUpBy producer lookup.start) := by
    intro producer hrefused
    rw [Outcome.ofResult_eq_inside_iff, h.refused hrefused, Except.error.injEq,
      Stop.failure.injEq, whyUnmapped_eq_madeUp_iff hlayout]
  refine ⟨hblames, fun hblamed producer => hnames producer (hblames.mp hblamed), ?_, ?_, ?_⟩
  · intro hblamed hnone
    have hrefused := hblames.mp hblamed
    have hfirst : ¬ m.MadeUp lookup.start := by
      intro hmade
      obtain ⟨producer, hproducer⟩ := Mapper.madeUp_iff.mp hmade
      exact hnone producer ((hnames producer hrefused).mpr hproducer)
    rw [Outcome.ofResult_eq_endsInside_iff, h.refused hrefused, Except.error.injEq,
      Stop.failure.injEq, whyUnmapped_eq_endsInMadeUp_iff hlayout]
    exact ⟨rfl, hfirst⟩
  · intro offset hends
    have hrefused := hblames.mp ⟨offset, Or.inr hends⟩
    rw [Outcome.ofResult_eq_endsInside_iff, h.refused hrefused, Except.error.injEq,
      Stop.failure.injEq, whyUnmapped_eq_endsInMadeUp_iff hlayout] at hends
    obtain ⟨hoffset, hfirst⟩ := hends
    -- the first byte was not made up, so the refusal is due to the last one
    exact ⟨hoffset, hfirst, (Lookup.madeUp_or_last hlayout hrefused).resolve_left hfirst⟩
  · intro hoverflows
    rw [h.overflows hoverflows]
    rfl

end Explained

/-! ## Runs -/

section Runs

variable {libraries : Libraries} {files : Files Id} {user path : String} {words : List String}
  {output : Expander.Output} {m : Mapper}

theorem run_of_read {request : Request} (h : Request.read words = .ok request) :
    Id.run (run libraries files user words) =
      Outcome.ofResult libraries.crashText (Id.run (answer libraries files user request).run) := by
  unfold run
  rw [h]
  rfl

/-- On files that stand still, one step of a command comes after another as two results do. -/
theorem run_bind {α β : Type} (first : ExceptT Stop Id α) (next : α → ExceptT Stop Id β) :
    Id.run (first >>= next).run = Id.run first.run >>= fun a => Id.run (next a).run := by
  change Except Stop α at first
  cases first with
  | error stop => rfl
  | ok a => rfl

theorem answer_map (hread : Id.run (readOutput libraries files path).run = .ok output)
    (hlayout : Mapper.ofLayout? output.layout = .ok m) (direction : Direction) (offset : Offset)
    (length : Option Offset) :
    Id.run (answer libraries files user (.map path direction offset length)).run =
      mapOffset m direction offset length := by
  have hmapper : mapperOf output = .ok m := by
    rw [mapperOf, hlayout]
    rfl
  have hsteps : answer libraries files user (.map path direction offset length) =
      readOutput libraries files path >>= fun output => pureStep (mapperOf output) >>= fun mapper =>
        pureStep (mapOffset mapper direction offset length) := rfl
  rw [hsteps, run_bind, hread]
  show Id.run (pureStep (mapperOf output) >>= _).run = _
  rw [hmapper]
  rfl

theorem answer_range (user : String)
    (hread : Id.run (readOutput libraries files path).run = .ok output) (source : String)
    (range : Text.Range) :
    ∃ next : Span → Except Stop String,
      (∀ span stop, next span = .error stop → ¬ stop.OverMadeUp) ∧
      Id.run (answer libraries files user (.range path source range)).run =
        sourceSpan output range >>= next := by
  refine ⟨fun span => Id.run (readText files source).run >>= fun text =>
    .ok (Wire.writeRange ((LineMap.ofText text).range span)).compress, ?_, ?_⟩
  · intro span stop hstop
    have htext : Id.run (readText files source).run =
        Except.mapError (fun error => .failure (.unreadable error))
          (Id.run (files.read source)) := rfl
    rw [htext] at hstop
    cases hfile : Id.run (files.read source) with
    | error error =>
      rw [hfile] at hstop
      cases hstop
      exact id
    | ok text =>
      rw [hfile] at hstop
      cases hstop
  · have hsteps : answer libraries files user (.range path source range) =
        readOutput libraries files path >>= fun output =>
          pureStep (sourceSpan output range) >>= fun span => readText files source >>= fun text =>
            pure (Wire.writeRange ((LineMap.ofText text).range span)).compress := rfl
    rw [hsteps, run_bind, hread]
    show Id.run (pureStep (sourceSpan output range) >>= _).run = _
    rw [run_bind]
    simp only [run_bind]
    rfl

end Runs

/-- **A command tells rightly why a place has no counterpart, unless it breaks off.** Whatever reads
the files, for every expansion whose layout is accepted, and every command line that carries a single
offset, a span or a range of it to the source:

1. generated code is blamed exactly if the lookup ends without a place in the source;
2. then a producer is named exactly if the first byte is in a region of that producer, and otherwise
   it is told that the span ends inside generated code, where the first byte is in no region, the span
   has a byte and its last byte is in a region;
3. that is never told of a single offset;
4. for a range the lookup is that of its span. If the places of a range are so far out that they have
   no span, nothing is looked up and generated code is not blamed;
5. a lookup ends without a place in the source exactly if there is none by the bytes and the lookup of
   its first byte does not overflow, in which case the run breaks off. For a single offset the second
   condition follows from the first. -/
theorem explained_unless_overflowing {libraries : Libraries} {files : Files Id} {path : String}
    {output : Expander.Output} {m : Mapper}
    (hread : Id.run (readOutput libraries files path).run = .ok output)
    (hlayout : Mapper.ofLayout? output.layout = .ok m) (user : String) (words : List String) :
    (∀ offset, Request.read words = .ok (.map path .toSource offset none) →
      Explains m (.point offset) (Id.run (run libraries files user words)) ∧
        ∀ start, Id.run (run libraries files user words) ≠ .endsInside start) ∧
    (∀ offset length, Request.read words = .ok (.map path .toSource offset (some length)) →
      Explains m (.span ⟨offset, length⟩) (Id.run (run libraries files user words))) ∧
    (∀ source range, Request.read words = .ok (.range path source range) →
      (∀ span, (LineMap.ofText output.code).span range = .ok span →
        Explains m (.span span) (Id.run (run libraries files user words))) ∧
      ((LineMap.ofText output.code).span range = .error .sum →
        ¬ (Id.run (run libraries files user words)).BlamesGenerated)) ∧
    (∀ lookup : Lookup, lookup.Refused m ↔ lookup.Unmappable m ∧ ¬ lookup.Overflows m) ∧
    ∀ pos, (Lookup.point pos).Unmappable m → ¬ (Lookup.point pos).Overflows m := by
  refine ⟨?_, ?_, ?_, Lookup.refused_iff hlayout, fun pos => Lookup.point_fits hlayout⟩
  · intro offset hwords
    rw [run_of_read hwords, answer_map hread hlayout, mapOffset_point]
    have hexplains := (worded_point m offset (·.val.repr)).explains hlayout libraries.crashText
    exact ⟨hexplains, fun start hends => (hexplains.ends start hends).2.2⟩
  · intro offset length hwords
    rw [run_of_read hwords, answer_map hread hlayout, mapOffset_span]
    exact (worded_span m ⟨offset, length⟩ spanText).explains hlayout libraries.crashText
  · intro source range hwords
    obtain ⟨next, hnext, hanswer⟩ := answer_range user hread source range
    rw [run_of_read hwords, hanswer]
    constructor
    · intro span hspan
      rw [sourceSpan_of_span hspan hlayout]
      exact ((worded_span m span id).bind hnext).explains hlayout libraries.crashText
    · intro hspan
      rw [sourceSpan_of_overflow hspan, blamesGenerated_iff]
      rintro ⟨stop, hstop, hover⟩
      cases hstop
      exact hover

/-- Ten bytes of a source and seven that were made up. -/
def sampleOutput : Expander.Output :=
  ⟨"let a = 1;debug()", none, [], some ⟨[⟨0, 10, 0, 10⟩], [⟨10, 17, "Debug"⟩]⟩⟩

def sampleMapper : Mapper := .segments ⟨#[⟨0, 10, 0, 10⟩], #[⟨10, 17, "Debug"⟩]⟩

def onlyFile (text : String) : Files Id where
  read path := if path = "e.json" then .ok text else .error .missing
  holds path := decide (path = "e.json")
  locate path := .ok [path]

/-- The expansion in a file, as a list of its parts. -/
def sampleFiles : Files Id :=
  onlyFile "[\"let a = 1;debug()\", null, [], [[[0, 10, 0, 10]], [[10, 17, \"Debug\"]]]]"

/-- An offset in the made-up bytes, the offset where they begin, which the segment counts as its own,
and a span and a range that end in them. -/
theorem sampleRuns_explained :
    Id.run (readOutput .own sampleFiles "e.json").run = .ok sampleOutput ∧
      Mapper.ofLayout? sampleOutput.layout = .ok sampleMapper ∧
      Id.run (run .own sampleFiles "" ["map", "e.json", "to-original", "12"]) = .inside 12 "Debug" ∧
      ¬ (Id.run (run .own sampleFiles "" ["map", "e.json", "to-original", "10"])).BlamesGenerated ∧
      Id.run (run .own sampleFiles "" ["map", "e.json", "to-original", "5", "--length", "10"]) =
        .endsInside 5 ∧
      Id.run (run .own sampleFiles "" ["range", "e.json", "s.ts", "0", "5", "0", "15"]) =
        .endsInside 5 := by
  have hread : Id.run (readOutput .own sampleFiles "e.json").run = .ok sampleOutput := by
    decide +kernel
  have hlayout : Mapper.ofLayout? sampleOutput.layout = .ok sampleMapper := by decide +kernel
  have hinside : sampleMapper.pointToSource 12 = .ok none := by decide +kernel
  have hedge : sampleMapper.pointToSource 10 ≠ .ok none := by decide +kernel
  have hrefused : sampleMapper.spanToSource ⟨5, 10⟩ = .ok none := by decide +kernel
  have hfree : ¬ sampleMapper.MadeUp 5 := by decide +kernel
  have hends : ∀ outcome, Explains sampleMapper (.span ⟨5, 10⟩) outcome → outcome = .endsInside 5 := by
    intro outcome hexplains
    have hblamed := hexplains.blames_iff.mpr hrefused
    refine hexplains.otherwise hblamed ?_
    intro producer hnamed
    exact hfree (Mapper.madeUp_iff.mpr ⟨producer, (hexplains.names_iff hblamed producer).mp hnamed⟩)
  have hruns := explained_unless_overflowing hread hlayout ""
  refine ⟨hread, hlayout, ?_, ?_, ?_, ?_⟩
  · obtain ⟨hpoint, -⟩ := (hruns ["map", "e.json", "to-original", "12"]).1 12 (by decide +kernel)
    exact (hpoint.names_iff (hpoint.blames_iff.mpr hinside) "Debug").mpr (by decide +kernel)
  · obtain ⟨hpoint, -⟩ := (hruns ["map", "e.json", "to-original", "10"]).1 10 (by decide +kernel)
    exact fun hblamed => hedge (hpoint.blames_iff.mp hblamed)
  · exact hends _ ((hruns _).2.1 5 10 (by decide +kernel))
  · exact hends _ (((hruns _).2.2.1 "s.ts" ⟨⟨0, 5⟩, ⟨0, 15⟩⟩ (by decide +kernel)).1 ⟨5, 10⟩
      (by decide +kernel))

/-- An expansion whose segment stands for the last bytes that a source can have. -/
def farFiles : Files Id :=
  onlyFile
    "[\"\", null, [], [[[18446744073709551614, 18446744073709551615, 0, 10]], [[10, 20, \"Debug\"]]]]"

/-- A span whose last byte is in a region has no place in the source, and nothing is told of that: the
lookup of its start overflows, and the run breaks off. -/
theorem unmappable_span_unexplained :
    Id.run (readOutput .own farFiles "e.json").run =
        .ok ⟨"", none, [], some ⟨[⟨18446744073709551614, 18446744073709551615, 0, 10⟩],
          [⟨10, 20, "Debug"⟩]⟩⟩ ∧
      Mapper.ofLayout? (some ⟨[⟨18446744073709551614, 18446744073709551615, 0, 10⟩],
        [⟨10, 20, "Debug"⟩]⟩) = .ok (.segments Mapping.SegmentMap.farSample) ∧
      Request.read ["map", "e.json", "to-original", "5", "--length", "10"] =
        .ok (.map "e.json" .toSource 5 (some 10)) ∧
      (Lookup.span ⟨5, 10⟩).Unmappable (.segments Mapping.SegmentMap.farSample) ∧
      ¬ (Id.run (run .own farFiles ""
        ["map", "e.json", "to-original", "5", "--length", "10"])).BlamesGenerated := by
  have hexit : (Id.run (run .own farFiles ""
      ["map", "e.json", "to-original", "5", "--length", "10"])).exit = 101 := by decide +kernel
  refine ⟨by decide +kernel, by decide +kernel, by decide +kernel, ?_, ?_⟩
  · exact Or.inr ⟨by decide +kernel, by decide +kernel⟩
  · -- every outcome that blames generated code ends with the code 1
    rintro ⟨offset, ⟨producer, houtcome⟩ | houtcome⟩
    · rw [houtcome] at hexit
      cases hexit
    · rw [houtcome] at hexit
      cases hexit

end Command

end Palimpsest
