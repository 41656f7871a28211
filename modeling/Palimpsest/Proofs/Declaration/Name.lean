import Palimpsest.Declaration.Name
import Palimpsest.Proofs.Url.Percent

/-!
# Units are recognised by their names

The name of a unit goes through percent encoding on its way into a URL. The mark in it holds
nothing that is encoded, so it is still there afterwards, and `isOutput_unitName`: whatever the
owner, the name of its unit is one that an expansion produces. So a file with another name is
never a unit.
-/

namespace Palimpsest

namespace Url

theorem getLast?_addSegment (segment : String) (segments : List String) :
    (addSegment segment segments).getLast? = some segment := by
  unfold addSegment
  split <;> simp

end Url

namespace Declaration

open Url (percentEncode)

theorem occursIn_iff {part text : List Char} : occursIn part text = true ↔ part <:+: text := by
  induction text with
  | nil => simp [occursIn]
  | cons c rest ih =>
    rw [occursIn, Bool.or_eq_true, List.isPrefixOf_iff_prefix, ih, List.infix_cons_iff]

theorem splitLastPoint?_eq_some {name stem extension : List Char}
    (h : splitLastPoint? name = some (stem, extension)) :
    name = stem ++ '.' :: extension ∧ '.' ∉ extension := by
  unfold splitLastPoint? at h
  split at h
  · rename_i hcontains
    -- From the end, the extension is what comes up to the first point.
    have hmem : '.' ∈ name.reverse := List.mem_reverse.mpr (List.contains_iff_mem.mp hcontains)
    have hparts := List.takeWhile_append_dropWhile (p := (· != '.')) (l := name.reverse)
    have hplain : '.' ∉ name.reverse.takeWhile (· != '.') := by
      intro hpoint
      have hkept := List.all_eq_true.mp List.all_takeWhile '.' hpoint
      simp at hkept
    cases hdrop : name.reverse.dropWhile (· != '.') with
    | nil =>
      rw [hdrop, List.append_nil] at hparts
      rw [hparts] at hplain
      exact absurd hmem hplain
    | cons c front =>
      have hc : c = '.' := by
        have hhead := List.head_dropWhile_not (l := name.reverse) (· != '.') (by rw [hdrop]; simp)
        simpa [hdrop] using hhead
      rw [hdrop, hc] at hparts
      generalize hback : name.reverse.takeWhile (· != '.') = back at hparts hplain h
      have hname : name = front.reverse ++ '.' :: back.reverse := by
        have := congrArg List.reverse hparts
        simpa using this.symm
      simp only [Option.some.injEq, Prod.mk.injEq] at h
      obtain ⟨hstem, rfl⟩ := h
      have hlength : name.length - back.reverse.length - 1 = front.reverse.length := by
        rw [hname]
        simp
        omega
      have hfront : stem = front.reverse := by
        rw [← hstem, hlength, hname]
        exact List.take_left
      rw [hfront]
      exact ⟨hname, by simpa using hplain⟩
  · cases h

theorem unitChars_parts (name : List Char) :
    unitChars name = name ++ unitMark ∨
      ∃ stem extension, '.' ∉ extension ∧ name = stem ++ '.' :: extension ∧
        unitChars name = (stem ++ unitMark) ++ '.' :: extension := by
  unfold unitChars
  split
  · rename_i stem extension hsplit
    obtain ⟨hname, hpoint⟩ := splitLastPoint?_eq_some hsplit
    split
    · exact Or.inl rfl
    · exact Or.inr ⟨stem, extension, hpoint, hname, rfl⟩
  · exact Or.inl rfl

theorem mem_unitChars_iff {name : List Char} {c : Char} :
    c ∈ unitChars name ↔ c ∈ name ∨ c ∈ unitMark := by
  rcases unitChars_parts name with h | ⟨stem, extension, -, hname, h⟩
  · rw [h, List.mem_append]
  · rw [h, hname]
    simp only [List.mem_append, List.mem_cons]
    constructor
    · rintro ((hstem | hmark) | hrest)
      · exact Or.inl (Or.inl hstem)
      · exact Or.inr hmark
      · exact Or.inl (Or.inr hrest)
    · rintro ((hstem | hrest) | hmark)
      · exact Or.inl (Or.inl hstem)
      · exact Or.inr hrest
      · exact Or.inl (Or.inr hmark)

theorem isOutputName_percentEncode_unitChars {set : Url.EncodeSet}
    (hset : percentEncode set unitMark = unitMark) (name : List Char) :
    isOutputName (percentEncode set (unitChars name)) = true := by
  unfold isOutputName
  rw [Bool.or_eq_true, Bool.or_eq_true]
  rcases unitChars_parts name with heq | ⟨stem, extension, -, -, heq⟩
  · right
    rw [heq, Url.percentEncode_append, hset, List.isSuffixOf_iff_suffix]
    exact List.suffix_append _ unitMark
  · left; left
    rw [heq, List.append_assoc, Url.percentEncode_append, Url.percentEncode_append, hset,
      occursIn_iff]
    -- What the mark for units has more than the mark for files belongs to what is behind it.
    exact ⟨percentEncode set stem, 'd' :: percentEncode set ('.' :: extension), by
      rw [List.append_assoc]; rfl⟩

/-- **The name of every unit is recognised.** -/
theorem isOutput_unitName (owner : Url) : isOutput (unitName owner) = true := by
  unfold isOutput
  rw [Bool.or_eq_true]
  cases hpath : owner.path with
  | plain text =>
    left
    rw [unitName, hpath]
    exact beq_self_eq_true scheme
  | rooted segments =>
    right
    have hlast : (unitName owner).lastSegment? =
        some (Url.segmentOfText owner.scheme (unitFileName (fileName owner))) := by
      rw [unitName, hpath]
      exact Url.getLast?_addSegment _ _
    rw [hlast]
    show isOutputName (Url.segmentOfText owner.scheme (unitFileName (fileName owner))).toList = true
    rw [Url.segmentOfText, unitFileName, String.toList_ofList, String.toList_ofList]
    split
    · exact isOutputName_percentEncode_unitChars (by decide) _
    · exact isOutputName_percentEncode_unitChars (by decide) _

end Declaration

end Palimpsest
