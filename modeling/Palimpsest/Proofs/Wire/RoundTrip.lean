import Palimpsest.Proofs.Wire.FreeForm
import Palimpsest.Wire.Analysis
import Palimpsest.Wire.Settings

/-!
# What is written is read back

For each type of records there are its fields in the order of their declaration (`Record`) and the
proof that both forms of them are read back (`LosslessRecord`). Three types need more than that:

* `RenameInfo` is no record but a choice between two;
* outlines are nested to any depth, and are read with the depth of the value as a bound, which is
  shown to be enough (`readOutlineItem?_writeOutlineItem`);
* settings hold switches beside a free-form table, and are read back where the table does not have
  the name of a switch (`legible_options`, `legible_expandLayer`).

Main statement: **every value is read back from what is written for it**
(`written_values_read_back`).
-/

namespace Palimpsest.Wire

open Mapping Analysis

/-! ## Spans and layouts -/

instance : Record Span where
  fields s := [("start", some (encode s.start)), ("length", some (encode s.length))]

instance : LosslessRecord Span := {}

instance : Record Segment where
  fields s :=
    [("originalStart", some (encode s.sourceStart)), ("originalEnd", some (encode s.sourceStop)),
     ("expandedStart", some (encode s.expandedStart)), ("expandedEnd", some (encode s.expandedStop))]

instance : LosslessRecord Segment := {}

instance : Record Region where
  fields r :=
    [("start", some (encode r.start)), ("end", some (encode r.stop)),
     ("producerLabel", some (encode r.producer))]

instance : LosslessRecord Region := {}

instance : Record Layout where
  fields l :=
    [("segments", some (encode l.segments)), ("generatedRegions", some (encode l.regions))]

instance : LosslessRecord Layout := {}

/-! ## Expanders and providers -/

instance : Lossless Expander.Severity where
  legible severity := by cases severity <;> exact ⟨rfl, nofun⟩

instance : Record Expander.Diagnostic where
  fields d :=
    [("severity", some (encode d.severity)), ("message", some (encode d.message)),
     ("start", d.start.map encode), ("end", d.stop.map encode)]
  encode_eq d := by
    -- an offset that is not known is left out of the object
    obtain ⟨severity, message, _ | start, _ | stop⟩ := d
    all_goals rfl

instance : LosslessRecord Expander.Diagnostic := {}

instance : Record Expander.Output where
  fields o :=
    [("code", some (encode o.code)), ("declarations", o.declarations.map encode),
     ("diagnostics", some (encode o.diagnostics)), ("segmentMapping", o.layout.map encode)]
  encode_eq o := by
    obtain ⟨code, _ | declarations, diagnostics, _ | layout⟩ := o
    all_goals rfl

instance : LosslessRecord Expander.Output := {}

instance : Record Provider.Manifest where
  fields m :=
    [("name", some (encode m.name)), ("entry_point", some (encode m.entryPoint)),
     ("directives", some (encode m.directives))]

instance : LosslessRecord Provider.Manifest := {}

/-! ## Results of a service -/

instance : Record QuickInfo where
  fields q := [("span", some (encode q.span)), ("contents", some (encode q.contents))]

instance : LosslessRecord QuickInfo := {}

instance : Record CompletionEntry where
  fields c :=
    [("name", some (encode c.name)), ("kind", some (encode c.kind)),
     ("detail", some (encode c.detail)), ("replacement_span", some (encode c.replacement))]

instance : LosslessRecord CompletionEntry := {}

instance : Record CompletionList where
  fields c :=
    [("entries", some (encode c.entries)), ("is_incomplete", some (encode c.isIncomplete))]

instance : LosslessRecord CompletionList := {}

instance : Lossless HighlightKind where
  legible kind := by cases kind <;> exact ⟨rfl, nofun⟩

instance : Record Highlight where
  fields h := [("span", some (encode h.span)), ("kind", some (encode h.kind))]

instance : LosslessRecord Highlight := {}

instance : Lossless HintKind where
  legible kind := by cases kind <;> exact ⟨rfl, nofun⟩

instance : Record InlayHint where
  fields h :=
    [("position", some (encode h.position)), ("label", some (encode h.label)),
     ("kind", some (encode h.kind))]

instance : LosslessRecord InlayHint := {}

theorem decode_renameInfo (info : RenameInfo) : decode (encode info) = some info := by
  -- what stands under the name of the choice is an object of fields again
  cases info with
  | available name trigger =>
    have hslots := slots?_written
      [("display_name", some (encode name)), ("trigger_span", some (encode trigger))] (by simp)
      .object
    simp only [decode, encode]
    refine (congrArg (· >>= _) hslots).trans ?_
    simp
  | unavailable reason =>
    have hslots := slots?_written [("reason", some (encode reason))] (by simp) .object
    simp only [decode, encode]
    refine (congrArg (· >>= _) hslots).trans ?_
    simp

/-! ## Outlines -/

instance : Record OutlineItem where
  fields
    | .mk name kind span selection children =>
      [("name", some (encode name)), ("kind", some (encode kind)), ("span", some (encode span)),
       ("selection_span", some (encode selection)),
       ("children", some (.array (writeOutline children)))]
  nodup_names item := by
    obtain ⟨name, kind, span, selection, children⟩ := item
    simp
  encode_eq item := by
    obtain ⟨name, kind, span, selection, children⟩ := item
    rfl

section Outlines

variable {name kind : String} {span selection : Span} {children : List OutlineItem}

theorem depth_children_lt (form : Form) :
    Json.depthItems (writeOutline children) <
      (written (Record.fields (OutlineItem.mk name kind span selection children)) form).depth := by
  cases form with
  | object =>
    simp only [written, stated, Record.fields, List.filterMap, Option.map, Json.depth,
      Json.depthFields]
    omega
  | array =>
    simp only [written, Record.fields, List.map, Option.getD, Json.depth, Json.depthItems]
    omega

/-- A declaration is read in either form with a bound of its depth, where those inside it are. -/
theorem readOutlineItem?_written
    (hchildren : ∀ bound, Json.depthItems (writeOutline children) ≤ bound →
      (writeOutline children).mapM (readOutlineItem? bound) = some children)
    (form : Form) {bound : Nat}
    (h : (written (Record.fields (OutlineItem.mk name kind span selection children)) form).depth ≤
      bound) :
    readOutlineItem? bound
        (written (Record.fields (OutlineItem.mk name kind span selection children)) form) =
      some (.mk name kind span selection children) := by
  have hdeeper := Nat.lt_of_lt_of_le (depth_children_lt form) h
  cases bound with
  | zero => omega
  | succ bound =>
    have hinside := hchildren bound (by omega)
    have hslots := slots?_record (OutlineItem.mk name kind span selection children) form
    simp only [Record.fields, List.map_cons, List.map_nil] at hslots ⊢
    rw [readOutlineItem?, hslots]
    simp [slotIn, hinside, Slot.required, (legible _).decode_encode]

end Outlines

mutual

theorem readOutlineItem?_writeOutlineItem :
    ∀ (item : OutlineItem) (bound : Nat), (writeOutlineItem item).depth ≤ bound →
      readOutlineItem? bound (writeOutlineItem item) = some item
  | .mk _ _ _ _ children, _, h => readOutlineItem?_written (mapM_readOutlineItem? children) .object h

theorem mapM_readOutlineItem? :
    ∀ (items : List OutlineItem) (bound : Nat), Json.depthItems (writeOutline items) ≤ bound →
      (writeOutline items).mapM (readOutlineItem? bound) = some items
  | [], _, _ => rfl
  | item :: rest, bound, h => by
    rw [writeOutline, Json.depthItems] at h
    have hitem := readOutlineItem?_writeOutlineItem item bound (by omega)
    have hrest := mapM_readOutlineItem? rest bound (by omega)
    simp [writeOutline, hitem, hrest]

end

instance : LosslessRecord OutlineItem where
  readsBack
    | .mk _ _ _ _ children => .of_forms fun form =>
      readOutlineItem?_written (mapM_readOutlineItem? children) form (Nat.le_refl _)

/-! ## Settings -/

theorem legible_options {o : Expander.Options} (h : o.extra.find? "keep_annotations" = none) :
    Legible o where
  decode_encode := by
    have hsplit := splitKnown?_beside h (some (encode o.keepAnnotations))
    simp only [decode]
    refine (congrArg (· >>= _) hsplit).trans ?_
    simp [encode]
  encode_ne_null := nofun

theorem legible_expandLayer {e : Settings.ExpandLayer}
    (h : e.extra.find? "keep_annotations" = none) : Legible e where
  decode_encode := by
    have hsplit := splitKnown?_beside h (e.keepAnnotations.map encode)
    obtain ⟨_ | keep, extra⟩ := e
    all_goals
      simp only [decode]
      refine (congrArg (· >>= _) hsplit).trans ?_
      simp [encode]
  encode_ne_null := nofun

instance : Record Settings.Layer where
  fields l :=
    [("directive_pattern", some (encode l.directivePattern)),
     ("excluded_dirs", some (encode l.excludedDirs)),
     ("diagnostic_source", some (encode l.diagnosticSource)), ("expand", some (encode l.expand)),
     ("providers", some (encode l.providers))]

theorem readsBack_layer {l : Settings.Layer}
    (h : ∀ e ∈ l.expand, e.extra.find? "keep_annotations" = none) : ReadsBack l := by
  have hexpand : ∀ e ∈ l.expand, Legible e := fun e he => legible_expandLayer (h e he)
  exact .of_slots (fun _ => rfl) fun form => by simp [Record.fields, optional_slotIn hexpand]

instance : Record Settings where
  fields s :=
    [("directive_pattern", some (encode s.directivePattern)),
     ("excluded_dirs", some (encode s.excludedDirs)),
     ("diagnostic_source", some (encode s.diagnosticSource)), ("expand", some (encode s.expand)),
     ("providers", some (encode s.providers))]

theorem readsBack_settings {s : Settings} (h : s.expand.extra.find? "keep_annotations" = none) :
    ReadsBack s :=
  .of_slots (fun _ => rfl) fun form => by simp [Record.fields, legible_options h]

/-! ## All of them -/

/-- **Every value is read back from what is written for it**, and every record from the array of
its fields as well. Where switches stand beside a free-form table, the table must not have the name
of the switch: the two could not be told apart. -/
theorem written_values_read_back :
    (∀ s : Segment, ReadsBack s) ∧ (∀ r : Region, ReadsBack r) ∧ (∀ l : Layout, ReadsBack l) ∧
    (∀ s : Span, ReadsBack s) ∧
    (∀ d : Expander.Diagnostic, ReadsBack d) ∧ (∀ o : Expander.Output, ReadsBack o) ∧
    (∀ m : Provider.Manifest, ReadsBack m) ∧
    (∀ q : QuickInfo, ReadsBack q) ∧ (∀ c : CompletionList, ReadsBack c) ∧
    (∀ info : RenameInfo, decode (encode info) = some info) ∧
    (∀ h : Highlight, ReadsBack h) ∧ (∀ item : OutlineItem, ReadsBack item) ∧
    (∀ h : InlayHint, ReadsBack h) ∧
    (∀ o : Expander.Options, o.extra.find? "keep_annotations" = none →
      decode (encode o) = some o) ∧
    (∀ l : Settings.Layer, (∀ e ∈ l.expand, e.extra.find? "keep_annotations" = none) →
      ReadsBack l) ∧
    (∀ s : Settings, s.expand.extra.find? "keep_annotations" = none → ReadsBack s) :=
  ⟨readsBack, readsBack, readsBack, readsBack, readsBack, readsBack, readsBack, readsBack,
    readsBack, decode_renameInfo, readsBack, readsBack, readsBack,
    fun _ h => (legible_options h).decode_encode, fun _ h => readsBack_layer h,
    fun _ h => readsBack_settings h⟩

def nestedTable : Dictionary where
  fields :=
    [("limits", .object [("depth", .number (.integer 3)), ("keep_annotations", .bool true)]),
     ("modes", .array [.null, .string "strict"])]
  canonical := by decide +kernel

def nestedSettings : Settings :=
  { Settings.default with
    expand := ⟨true, nestedTable⟩
    providers := [⟨"std", "lib/std.js", ["derive"]⟩] }

/-- A layer with the table, in which the switch is left out. -/
def nestedLayer : Settings.Layer := { Settings.Layer.empty with expand := some ⟨none, nestedTable⟩ }

theorem nestedTable_read_back :
    nestedTable.find? "keep_annotations" = none ∧
      decode (encode nestedSettings.expand) = some nestedSettings.expand ∧
      ReadsBack nestedLayer ∧ ReadsBack nestedSettings := by
  have hname : nestedTable.find? "keep_annotations" = none := by decide +kernel
  obtain ⟨-, -, -, -, -, -, -, -, -, -, -, -, -, options, layer, settings⟩ :=
    written_values_read_back
  refine ⟨hname, options nestedSettings.expand hname, layer nestedLayer ?_,
    settings nestedSettings hname⟩
  intro e he
  obtain rfl : _ = e := Option.some.inj he
  exact hname

end Palimpsest.Wire
