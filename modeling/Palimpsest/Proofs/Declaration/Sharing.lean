import Palimpsest.Proofs.Declaration.Name
import Palimpsest.Proofs.Text.Parts

/-!
# Files that share a unit

The name of a unit is made of parts of the URL of its owner: the query and the fragment are left
out, and an empty file name is replaced by a stand-in. Here is exactly what is lost on the way.

1. `ownerFileName`: a file name can be read off the name of its unit, so that nothing is lost of it
   (`file_names_keep_apart`).
2. `SharesUnit`: the two URLs agree in what goes into the name of a unit.
3. `unitName_eq_iff`: the units of two files have the same name exactly if the files share it.
-/

namespace Palimpsest

namespace Declaration

open Url (percentEncode)

/-! ## File names -/

theorem splitLastPoint?_of_parts {stem extension : List Char} (h : '.' ∉ extension) :
    splitLastPoint? (stem ++ '.' :: extension) = some (stem, extension) := by
  have hcontains : (stem ++ '.' :: extension).contains '.' = true := by simp
  cases hsplit : splitLastPoint? (stem ++ '.' :: extension) with
  | none =>
    rw [splitLastPoint?, if_pos hcontains] at hsplit
    cases hsplit
  | some parts =>
    -- whatever the split is, it is one at the last point, and there is only one
    obtain ⟨hname, hpoint⟩ := splitLastPoint?_eq_some hsplit
    obtain ⟨hstem, hextension⟩ := Text.eq_of_last_mark hname h hpoint
    rw [hstem, hextension]

/-- A mark at the end is never one before an extension: behind the last point there would be the
same `d`, and before it a mark that ends in `d` and one that does not. -/
theorem mark_at_end_ne {name stem extension : List Char} (hpoint : '.' ∉ extension) :
    name ++ unitMark ≠ (stem ++ unitMark) ++ '.' :: extension := by
  intro h
  have hmark : name ++ unitMark = (name ++ expandedMark) ++ '.' :: ['d'] := by
    rw [List.append_assoc]
    rfl
  rw [hmark] at h
  obtain ⟨hstem, -⟩ := Text.eq_of_last_mark h (by decide) hpoint
  have hend : (name ++ ".expand".toList) ++ "ed".toList =
      (stem ++ ".expanded".toList) ++ ".d".toList := by
    rw [List.append_assoc, List.append_assoc]
    exact hstem
  exact absurd (List.append_inj' hend rfl).2 (by decide)

/-- The file name that the name of a unit was made of: the mark is taken off the end, or out from
before the extension. -/
def ownerChars (unit : List Char) : List Char :=
  if unitMark.isSuffixOf unit then unit.take (unit.length - unitMark.length)
  else
    match splitLastPoint? unit with
    | some (stem, extension) => stem.take (stem.length - unitMark.length) ++ '.' :: extension
    | none => unit

theorem take_length_sub_mark (text : List Char) :
    (text ++ unitMark).take ((text ++ unitMark).length - unitMark.length) = text := by
  rw [List.length_append, Nat.add_sub_cancel]
  exact List.take_left

theorem ownerChars_unitChars (name : List Char) : ownerChars (unitChars name) = name := by
  rcases unitChars_parts name with h | ⟨stem, extension, hpoint, hname, h⟩
  · have hend : unitMark.isSuffixOf (name ++ unitMark) = true :=
      List.isSuffixOf_iff_suffix.mpr (List.suffix_append name unitMark)
    rw [h, ownerChars, if_pos hend, take_length_sub_mark]
  · have hend : ¬ unitMark.isSuffixOf ((stem ++ unitMark) ++ '.' :: extension) = true := by
      intro hsuffix
      obtain ⟨front, hfront⟩ := List.isSuffixOf_iff_suffix.mp hsuffix
      exact mark_at_end_ne hpoint hfront
    rw [h, ownerChars, if_neg hend, splitLastPoint?_of_parts hpoint]
    show (stem ++ unitMark).take _ ++ '.' :: extension = name
    rw [take_length_sub_mark, hname]

def ownerFileName (unit : String) : String := String.ofList (ownerChars unit.toList)

theorem ownerFileName_unitFileName (name : String) : ownerFileName (unitFileName name) = name := by
  rw [ownerFileName, unitFileName, String.toList_ofList, ownerChars_unitChars, String.ofList_toList]

theorem unitFileName_injective {a b : String} (h : unitFileName a = unitFileName b) : a = b := by
  rw [← ownerFileName_unitFileName a, h, ownerFileName_unitFileName]

/-- **No two file names have units of the same name**, whatever points and marks are in them: there is
a reader that finds the file name in the name of its unit. -/
theorem file_names_keep_apart :
    Function.Injective unitFileName ∧ Function.LeftInverse ownerFileName unitFileName := by
  constructor
  · intro a b h
    exact unitFileName_injective h
  · exact ownerFileName_unitFileName

theorem point_mem_unitChars (name : List Char) : '.' ∈ unitChars name :=
  mem_unitChars_iff.mpr (Or.inr (by decide))

/-! ## URLs -/

theorem segmentOfText_injective {scheme a b : String}
    (h : Url.segmentOfText scheme a = Url.segmentOfText scheme b) : a = b := by
  have hchars := congrArg String.toList h
  rw [Url.segmentOfText, Url.segmentOfText, String.toList_ofList, String.toList_ofList] at hchars
  apply String.toList_inj.mp
  split at hchars
  · exact Url.percentEncode_injective (by decide) hchars
  · exact Url.percentEncode_injective (by decide) hchars

theorem encoded_injective {a b : String} (h : encoded a = encoded b) : a = b := by
  have hchars := congrArg String.toList h
  rw [encoded, encoded, String.toList_ofList, String.toList_ofList] at hchars
  exact String.toList_inj.mp (Url.percentEncode_injective (by decide) hchars)

/-- The name of a unit beside its file keeps its point, and that of any other unit has none. -/
theorem encoded_ne_segmentOfText (text scheme name : String) :
    encoded text ≠ Url.segmentOfText scheme (unitFileName name) := by
  intro h
  have hchars := congrArg String.toList h
  rw [encoded, Url.segmentOfText, unitFileName, String.toList_ofList, String.toList_ofList,
    String.toList_ofList] at hchars
  have hpoint : ∀ set : Url.EncodeSet, set '.' = false →
      '.' ∈ percentEncode set (unitChars name.toList) := by
    intro set hset
    refine List.mem_flatMap.mpr ⟨'.', point_mem_unitChars _, ?_⟩
    simp [Url.percentChar, hset]
  have hnone : '.' ∉ percentEncode .nonAlphanumeric text.toList :=
    Url.point_not_mem_percentEncode (by decide) text.toList
  rw [hchars] at hnone
  apply hnone
  split
  · exact hpoint _ (by decide)
  · exact hpoint _ (by decide)

/-- The segments before the last, as far as they show in the name of a unit: a single empty one does
not. -/
def folder (segments : List String) : List String :=
  if Url.dropSegment segments = [""] then [] else Url.dropSegment segments

theorem addSegment_dropSegment (name : String) (segments : List String) :
    Url.addSegment name (Url.dropSegment segments) = folder segments ++ [name] := by
  unfold folder
  generalize Url.dropSegment segments = rest
  unfold Url.addSegment
  split
  · rfl
  · rfl
  · rename_i hsingle
    rw [if_neg hsingle]

/-- The two URLs agree in all that goes into the name of a unit. -/
def SharesUnit (f g : Url) : Prop :=
  match f.path, g.path with
  | .rooted segments, .rooted segments' =>
    f.scheme = g.scheme ∧ f.authority = g.authority ∧ f.guarded = g.guarded ∧
      folder segments = folder segments' ∧ fileName f = fileName g
  | .plain text, .plain text' => f.render = g.render ∧ text = text'
  | _, _ => False

theorem unitName_of_rooted {owner : Url} {segments : List String}
    (h : owner.path = .rooted segments) :
    unitName owner =
      { owner with
        path := .rooted (folder segments ++
          [Url.segmentOfText owner.scheme (unitFileName (fileName owner))])
        query := none
        fragment := none } := by
  simp only [unitName, h, addSegment_dropSegment]

theorem unitName_of_plain {owner : Url} {text : String} (h : owner.path = .plain text) :
    unitName owner =
      { scheme := scheme
        authority := some ⟨"", none, "", none⟩
        guarded := false
        path := .rooted (["virtual", encoded owner.render] ++ [encoded (unitFileName text)])
        query := none
        fragment := none } := by
  simp only [unitName, h]
  rfl

theorem unitName_rooted_ne_plain {f g : Url} {segments : List String} {text : String}
    (hf : f.path = .rooted segments) (hg : g.path = .plain text) : unitName f ≠ unitName g := by
  intro h
  rw [unitName_of_rooted hf, unitName_of_plain hg] at h
  have hpath := Url.Path.rooted.inj (congrArg Url.path h)
  have hlast := (List.append_singleton_inj.mp hpath).2
  exact absurd hlast.symm (encoded_ne_segmentOfText _ _ _)

/-- **The units of two files have the same name exactly if the files agree in what goes into it.** -/
theorem unitName_eq_iff (f g : Url) : unitName f = unitName g ↔ SharesUnit f g := by
  unfold SharesUnit
  cases hf : f.path with
  | rooted segments =>
    cases hg : g.path with
    | rooted segments' =>
      rw [unitName_of_rooted hf, unitName_of_rooted hg]
      simp only [Url.mk.injEq, Url.Path.rooted.injEq, List.append_singleton_inj, and_true]
      constructor
      · rintro ⟨hscheme, hauthority, hguarded, hfolder, hname⟩
        rw [hscheme] at hname
        exact ⟨hscheme, hauthority, hguarded, hfolder,
          unitFileName_injective (segmentOfText_injective hname)⟩
      · rintro ⟨hscheme, hauthority, hguarded, hfolder, hname⟩
        exact ⟨hscheme, hauthority, hguarded, hfolder, by rw [hscheme, hname]⟩
    | plain text =>
      simp only [iff_false]
      exact unitName_rooted_ne_plain hf hg
  | plain text =>
    cases hg : g.path with
    | rooted segments =>
      simp only [iff_false]
      exact (unitName_rooted_ne_plain hg hf).symm
    | plain text' =>
      rw [unitName_of_plain hf, unitName_of_plain hg]
      simp only [Url.mk.injEq, Url.Path.rooted.injEq, List.append_singleton_inj, and_true,
        true_and, List.cons.injEq]
      constructor
      · rintro ⟨hrender, htext⟩
        exact ⟨encoded_injective hrender, unitFileName_injective (encoded_injective htext)⟩
      · rintro ⟨hrender, htext⟩
        exact ⟨by rw [hrender], by rw [htext]⟩

instance (f g : Url) : Decidable (SharesUnit f g) := decidable_of_iff _ (unitName_eq_iff f g)

end Declaration

end Palimpsest
