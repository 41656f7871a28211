import Palimpsest.Command.Run
import Palimpsest.Proofs.Text.Parts

/-!
# Failures are told apart by their words

Whoever runs a command sees an exit code and two texts. What failed has to be found in these.

1. `Kind.front`: the fixed words at the front of a message, one text for each kind of failure, and
   `Kind.eq_of_fronts`: none of them begins with another.
2. `kind_of_message`: so a message has one kind of failure behind it.
3. `madeUp_of_message` and `endsInMadeUp_of_message`: for a failure over made-up text the message
   gives away the offset and the producer as well.
4. `ofResult_eq_inside_iff` and `ofResult_eq_endsInside_iff`: the same for what is seen of a run.
-/

namespace Palimpsest.Command

/-- The kinds of failures, those of settings one by one. -/
inductive Failure.Kind where
  | unreadable
  | notOutput
  | badLayout
  | unreadableSettings
  | malformedSettings
  | badPattern
  | madeUp
  | endsInMadeUp
  | noUri
deriving DecidableEq

namespace Failure

def kind : Failure → Kind
  | unreadable _ => .unreadable
  | notOutput _ => .notOutput
  | badLayout _ => .badLayout
  | settings (.unreadable ..) => .unreadableSettings
  | settings (.malformed ..) => .malformedSettings
  | settings (.badPattern ..) => .badPattern
  | madeUp .. => .madeUp
  | endsInMadeUp _ => .endsInMadeUp
  | noUri _ => .noUri

namespace Kind

/-- The words at the front of every message of a kind. -/
def front : Kind → String
  | unreadable => "IO error: "
  | notOutput => "Invalid expansion output: "
  | badLayout => "Invalid segment mapping: "
  | unreadableSettings => "Failed to read config "
  | malformedSettings => "Failed to parse config "
  | badPattern => "Invalid directive pattern '"
  | madeUp => "Invalid input: offset "
  | endsInMadeUp => "Invalid input: span at offset "
  | noUri => "Invalid input: cannot build a URI for "

def all : List Kind :=
  [unreadable, notOutput, badLayout, unreadableSettings, malformedSettings, badPattern, madeUp,
   endsInMadeUp, noUri]

theorem mem_all (k : Kind) : k ∈ all := by cases k <;> decide

theorem fronts_apart :
    (all.all fun a => all.all fun b =>
      !a.front.toList.isPrefixOf b.front.toList || decide (a = b)) = true := by
  decide +kernel

theorem eq_of_fronts {a b : Kind} (h : a.front.toList <+: b.front.toList) : a = b := by
  have hpair := List.all_eq_true.mp (List.all_eq_true.mp fronts_apart a a.mem_all) b b.mem_all
  rw [List.isPrefixOf_iff_prefix.mpr h] at hpair
  simpa using hpair

end Kind

theorem starts_append {a b : String} (h : a.toList <+: b.toList) (c : String) :
    a.toList <+: (b ++ c).toList := by
  rw [String.toList_append]
  exact h.trans (List.prefix_append _ _)

theorem starts_self (a c : String) : a.toList <+: (a ++ c).toList :=
  starts_append (List.prefix_refl _) c

theorem front_isPrefix (f : Failure) : f.kind.front.toList <+: f.message.toList := by
  cases f with
  | unreadable error => exact starts_self _ _
  | notOutput reason => exact starts_self _ _
  | badLayout fault => exact starts_self _ _
  | settings error =>
    cases error with
    | unreadable path error => exact starts_append (starts_append (starts_self _ _) _) _
    | malformed path reason => exact starts_append (starts_append (starts_self _ _) _) _
    | badPattern pattern reason => exact starts_append (starts_append (starts_self _ _) _) _
  | madeUp offset producer =>
    exact starts_append (starts_append (starts_append (starts_self _ _) _) _) _
  | endsInMadeUp offset => exact starts_append (starts_self _ _) _
  | noUri path => exact starts_self _ _

theorem kind_of_message {f g : Failure} (h : f.message = g.message) : f.kind = g.kind := by
  have hf := f.front_isPrefix
  rw [h] at hf
  -- of two beginnings of one text the shorter begins the longer
  rcases List.prefix_or_prefix_of_prefix hf g.front_isPrefix with hfg | hgf
  · exact Kind.eq_of_fronts hfg
  · exact (Kind.eq_of_fronts hgf).symm

theorem chars_madeUp (offset : Offset) (producer : String) :
    (madeUp offset producer).message.toList =
      Kind.madeUp.front.toList ++ (offset.val.repr.toList ++
        ' ' :: ("is inside code generated by '".toList ++ (producer.toList ++ "'".toList))) := by
  have hblank : " is inside code generated by '".toList =
      ' ' :: "is inside code generated by '".toList := by decide +kernel
  unfold message
  simp only [Kind.front, String.toList_append, List.append_assoc, hblank, List.cons_append]

theorem chars_endsInMadeUp (offset : Offset) :
    (endsInMadeUp offset).message.toList =
      Kind.endsInMadeUp.front.toList ++ (offset.val.repr.toList ++
        " ends inside generated code".toList) := by
  unfold message
  simp only [Kind.front, String.toList_append, List.append_assoc]

/-- The first blank behind the words at the front ends the offset, and the last quote the producer. -/
theorem madeUp_of_message {f : Failure} {offset : Offset} {producer : String}
    (h : f.message = (madeUp offset producer).message) : f = madeUp offset producer := by
  have hkind := kind_of_message h
  cases f with
  | madeUp offset' producer' =>
    have hchars := congrArg String.toList h
    rw [chars_madeUp, chars_madeUp] at hchars
    obtain ⟨hdigits, hrest⟩ := Text.eq_of_first_mark (List.append_cancel_left hchars)
      (Text.not_mem_repr (by decide) _) (Text.not_mem_repr (by decide) _)
    have hproducer := List.append_cancel_right (List.append_cancel_left hrest)
    rw [Fin.ext (Text.repr_injective hdigits), String.toList_inj.mp hproducer]
  | settings error => cases error <;> cases hkind
  | _ => cases hkind

theorem endsInMadeUp_of_message {f : Failure} {offset : Offset}
    (h : f.message = (endsInMadeUp offset).message) : f = endsInMadeUp offset := by
  have hkind := kind_of_message h
  cases f with
  | endsInMadeUp offset' =>
    have hchars := congrArg String.toList h
    rw [chars_endsInMadeUp, chars_endsInMadeUp] at hchars
    have hdigits := List.append_cancel_right (List.append_cancel_left hchars)
    rw [Fin.ext (Text.repr_injective hdigits)]
  | settings error => cases error <;> cases hkind
  | _ => cases hkind

end Failure

/-! ## Outcomes -/

namespace Outcome

variable {crashText : Overflow → String}

/-- The outcome that names the producer of the code at an offset. -/
def inside (offset : Offset) (producer : String) : Outcome :=
  ⟨1, "", "Error: Invalid input: offset " ++ offset.val.repr ++ " is inside code generated by '" ++
    producer ++ "'\n"⟩

/-- The outcome that tells of an end in generated code. -/
def endsInside (offset : Offset) : Outcome :=
  ⟨1, "", "Error: Invalid input: span at offset " ++ offset.val.repr ++
    " ends inside generated code\n"⟩

theorem inside_eq (crashText : Overflow → String) (offset : Offset) (producer : String) :
    inside offset producer =
      ofResult crashText (.error (.failure (.madeUp offset producer))) := by
  have hfront : "Error: Invalid input: offset " = "Error: " ++ "Invalid input: offset " := by
    decide +kernel
  have hback : "'\n" = "'" ++ "\n" := by decide +kernel
  unfold inside ofResult Failure.message
  simp only [hfront, hback, String.append_assoc]

theorem endsInside_eq (crashText : Overflow → String) (offset : Offset) :
    endsInside offset = ofResult crashText (.error (.failure (.endsInMadeUp offset))) := by
  have hfront : "Error: Invalid input: span at offset " =
      "Error: " ++ "Invalid input: span at offset " := by decide +kernel
  have hback : " ends inside generated code\n" = " ends inside generated code" ++ "\n" := by
    decide +kernel
  unfold endsInside ofResult Failure.message
  simp only [hfront, hback, String.append_assoc]

theorem message_of_ofResult {result : Except Stop String} {g : Failure}
    (h : ofResult crashText result = ofResult crashText (.error (.failure g))) :
    ∃ f, result = .error (.failure f) ∧ f.message = g.message := by
  cases result with
  | ok text =>
    have hempty := congrArg (fun o => o.errors.toList) h
    simp [ofResult] at hempty
  | error stop =>
    cases stop with
    | crash error =>
      have hexit := congrArg Outcome.exit h
      cases hexit
    | failure f =>
      refine ⟨f, rfl, ?_⟩
      have herrors := congrArg (fun o => o.errors.toList) h
      simp only [ofResult, String.toList_append] at herrors
      exact String.toList_inj.mp (List.append_cancel_left (List.append_cancel_right herrors))

theorem ofResult_eq_inside_iff {result : Except Stop String} {offset : Offset}
    {producer : String} :
    ofResult crashText result = inside offset producer ↔
      result = .error (.failure (.madeUp offset producer)) := by
  rw [inside_eq crashText]
  constructor
  · intro h
    obtain ⟨f, hf, hmessage⟩ := message_of_ofResult h
    rw [hf, Failure.madeUp_of_message hmessage]
  · intro h
    rw [h]

theorem ofResult_eq_endsInside_iff {result : Except Stop String} {offset : Offset} :
    ofResult crashText result = endsInside offset ↔
      result = .error (.failure (.endsInMadeUp offset)) := by
  rw [endsInside_eq crashText]
  constructor
  · intro h
    obtain ⟨f, hf, hmessage⟩ := message_of_ofResult h
    rw [hf, Failure.endsInMadeUp_of_message hmessage]
  · intro h
    rw [h]

end Outcome

end Palimpsest.Command
