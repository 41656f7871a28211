import Palimpsest.Proofs.Declaration.Sharing
import Palimpsest.Proofs.Url.Rendered

/-!
# Units are told from their owners

The name of a unit is one that an expansion produces (`isOutput_unitName`). For a file that is no
such thing itself this means that its unit is another URL, also as a text:

1. `written_unitName`: the name of a unit is in its written form, so its text shows its parts;
2. `read_unitText`: the text that stands for a unit without a file to stand beside can be read,
   whatever the owner is, since nothing in it is taken for a separator or for points.
-/

namespace Palimpsest

namespace Url

/-! ## Texts as segments -/

theorem isSegmentChar_of_mem_segmentOfText {scheme text : String} {c : Char}
    (h : c ∈ (segmentOfText scheme text).toList) : isSegmentChar scheme c = true := by
  rw [segmentOfText, String.toList_ofList] at h
  rcases mem_percentEncode h with ⟨-, hascii, hset⟩ | hcode
  · obtain ⟨hpath, hslash, -, hbackslash⟩ := segmentSet_eq_false_iff.mp hset
    exact isSegmentChar_iff.mpr ⟨hascii, hpath, hslash, hbackslash⟩
  · exact isSegmentChar_of_mem (by decide) hcode scheme

theorem isSegmentChar_of_isAlphanum {c : Char} (hascii : c.toNat < 0x80) (h : c.isAlphanum = true)
    (scheme : String) : isSegmentChar scheme c = true := by
  have hall : ∀ n < 0x80, (Char.ofNat n).isAlphanum = true → staysAnywhere (Char.ofNat n) = true := by
    decide
  have hstays := hall c.toNat hascii
  rw [Char.ofNat_toNat] at hstays
  exact isSegmentChar_of_staysAnywhere (hstays h) scheme

end Url

namespace Declaration

open Url (isSegmentChar percentEncode)

theorem isAlphanum_of_mem_encoded {text : String} {c : Char} (h : c ∈ (encoded text).toList) :
    c.toNat < 0x80 ∧ (c.isAlphanum = true ∨ c = '%') := by
  rw [encoded, String.toList_ofList] at h
  rcases Url.mem_percentEncode h with ⟨-, hascii, hset⟩ | hcode
  · exact ⟨hascii, Or.inl (by simpa [Url.EncodeSet.nonAlphanumeric] using hset)⟩
  · have hall : Url.codeChars.all (fun c =>
        decide (c.toNat < 0x80) && (c.isAlphanum || c == '%')) = true := by decide
    simpa using List.all_eq_true.mp hall c hcode

theorem isSegmentChar_of_mem_encoded {text : String} {c : Char} (h : c ∈ (encoded text).toList)
    (scheme : String) : isSegmentChar scheme c = true := by
  obtain ⟨hascii, halphanum | rfl⟩ := isAlphanum_of_mem_encoded h
  · exact Url.isSegmentChar_of_isAlphanum hascii halphanum scheme
  · exact Url.isSegmentChar_of_staysAnywhere (by decide) scheme

theorem mem_of_mem_folder {segments : List String} {segment : String}
    (h : segment ∈ folder segments) : segment ∈ segments := by
  unfold folder at h
  split at h
  · cases h
  · rename_i hsingle
    unfold Url.dropSegment at h hsingle
    split at h
    · exact h
    · exact absurd rfl hsingle
    · exact (List.dropLast_sublist segments).subset h

theorem written_unitName_of_plain {owner : Url} {place : String} (h : owner.path = .plain place) :
    (unitName owner).Written := by
  rw [unitName_of_plain h]
  have hcolon : ':' ∉ scheme.toList := by decide
  refine ⟨hcolon, ?_⟩
  intro segment hsegment c hc
  simp only [Url.segments, List.cons_append, List.nil_append, List.mem_cons, List.not_mem_nil,
    or_false] at hsegment
  rcases hsegment with rfl | rfl | rfl
  · exact Url.isSegmentChar_of_mem (by decide) hc scheme
  · exact isSegmentChar_of_mem_encoded hc scheme
  · exact isSegmentChar_of_mem_encoded hc scheme

theorem written_unitName {owner : Url} (h : owner.Written) : (unitName owner).Written := by
  cases hpath : owner.path with
  | rooted segments =>
    rw [unitName_of_rooted hpath]
    refine ⟨h.scheme, ?_⟩
    intro segment hsegment c hc
    rcases List.mem_append.mp hsegment with hfolder | hlast
    · exact h.of_rooted hpath segment (mem_of_mem_folder hfolder) c hc
    · rw [List.mem_singleton.mp hlast] at hc
      exact Url.isSegmentChar_of_mem_segmentOfText hc
  | plain place => exact written_unitName_of_plain hpath

/-! ## Reading the name of a unit -/

/-- An encoded URL is a name, since the code of its colon is in it. -/
theorem isName_encoded_render (u : Url) : Url.isName (encoded u.render).toList = true := by
  have hcolon : ':' ∈ u.render.toList := by
    rw [Url.toList_render, Url.frontText]
    simp
  have hcode : '3' ∈ (encoded u.render).toList := by
    rw [encoded, String.toList_ofList]
    exact List.mem_flatMap.mpr ⟨':', hcolon, by decide⟩
  exact Url.isName_of_mem (by decide) hcode

/-- The encoded file name of a unit is a name, since the mark is in it. -/
theorem isName_encoded_unitFileName (name : String) :
    Url.isName (encoded (unitFileName name)).toList = true := by
  have hletter : 'x' ∈ (encoded (unitFileName name)).toList := by
    rw [encoded, unitFileName, String.toList_ofList, String.toList_ofList]
    exact List.mem_flatMap.mpr ⟨'x', mem_unitChars_iff.mpr (Or.inr (by decide)), by decide⟩
  exact Url.isName_of_mem (by decide) hletter

theorem readHierarchy_of_body (toAscii : Url.DomainToAscii) {body : List Char}
    (h : ∀ c ∈ body, c ≠ '?' ∧ c ≠ '#') :
    Url.readHierarchy toAscii scheme ('/' :: body) =
      .ok (Url.assemble scheme (some ⟨"", none, "", none⟩) (Url.readPath scheme [] ('/' :: body))
        []) := by
  have hplain : ∀ c ∈ '/' :: body, (c != '?' && c != '#') = true := by
    rw [List.forall_mem_cons]
    exact ⟨by decide, fun c hc => by simp [h c hc]⟩
  have hall : ('/' :: body).takeWhile (fun c => c != '?' && c != '#') = '/' :: body := by
    rw [← List.append_nil ('/' :: body), List.takeWhile_append_of_pos hplain]
    rfl
  have hsplit : Url.splitEnd ('/' :: body) = ('/' :: body, []) := by
    rw [Url.splitEnd, hall, List.drop_length]
  calc Url.readHierarchy toAscii scheme ('/' :: body)
      = .ok (Url.assemble scheme (some ⟨"", none, "", none⟩)
          (Url.readPath scheme [] (Url.splitEnd ('/' :: body)).1) (Url.splitEnd ('/' :: body)).2) :=
        rfl
    _ = .ok (Url.assemble scheme (some ⟨"", none, "", none⟩)
          (Url.readPath scheme [] ('/' :: body)) []) := by rw [hsplit]

theorem read_of_body (toAscii : Url.DomainToAscii) {body : List Char}
    (h : ∀ c ∈ body, 0x20 < c.toNat ∧ c ≠ '?' ∧ c ≠ '#') :
    Url.readWith toAscii (String.ofList ("utsushi:///".toList ++ body)) =
      .ok (Url.assemble scheme (some ⟨"", none, "", none⟩) (Url.readPath scheme [] ('/' :: body))
        []) := by
  have hcleaned : Url.cleaned (String.ofList ("utsushi:///".toList ++ body)) =
      "utsushi:///".toList ++ body := by
    rw [Url.cleaned_eq_self, String.toList_ofList]
    intro c hc
    rw [String.toList_ofList] at hc
    rcases List.mem_append.mp hc with hfront | hbody
    · have hall : "utsushi:///".toList.all (fun c => decide (0x20 < c.toNat)) = true := by decide
      exact of_decide_eq_true (List.all_eq_true.mp hall c hfront)
    · exact (h c hbody).1
  have hscheme : Url.scheme? ("utsushi:///".toList ++ body) =
      some (scheme, '/' :: '/' :: '/' :: body) := rfl
  unfold Url.readWith
  rw [hcleaned, hscheme]
  exact readHierarchy_of_body toAscii fun c hc => (h c hc).2

/-- **The text for a unit without a file to stand beside is its name**, whatever the owner. -/
theorem read_unitText (toAscii : Url.DomainToAscii) {owner : Url} {place : String}
    (h : owner.path = .plain place) :
    Url.readWith toAscii ("utsushi:///virtual/" ++ encoded owner.render ++ "/" ++
      encoded (unitFileName place)) = .ok (unitName owner) := by
  let segments := ["virtual", encoded owner.render, encoded (unitFileName place)]
  let body := "virtual".toList ++
    '/' :: ((encoded owner.render).toList ++ '/' :: (encoded (unitFileName place)).toList)
  have hwritten := written_unitName_of_plain h
  have hsegments : (unitName owner).path = .rooted segments := by
    rw [unitName_of_plain h]
    rfl
  have htext : "utsushi:///virtual/" ++ encoded owner.render ++ "/" ++ encoded (unitFileName place) =
      String.ofList ("utsushi:///".toList ++ body) := by
    apply String.toList_inj.mp
    simp [body]
  have hrender : '/' :: body = (Url.Path.rooted segments).render.toList := by
    rw [Url.toList_render_rooted]
    simp [segments, body]
  have hbody : ∀ c ∈ body, 0x20 < c.toNat ∧ c ≠ '?' ∧ c ≠ '#' := by
    intro c hc
    apply hwritten.visible hsegments
    rw [← hrender]
    exact List.mem_cons_of_mem '/' hc
  have hnames : ∀ segment ∈ segments, Url.isName segment.toList = true := by
    simp only [segments, List.forall_mem_cons]
    exact ⟨by decide, isName_encoded_render owner, isName_encoded_unitFileName place, by simp⟩
  have hscheme : (unitName owner).scheme = scheme := by rw [unitName_of_plain h]
  have hpath : Url.readPath scheme [] ('/' :: body) = (Url.Path.rooted segments).render.toList := by
    rw [hrender]
    exact Url.readPath_render (by decide) (hscheme ▸ hwritten.of_rooted hsegments) hnames
  rw [htext, read_of_body toAscii hbody, hpath, unitName_of_plain h, Url.assemble,
    Url.segmentsOfPath_render (hwritten.slash_not_mem hsegments)]
  rfl

/-! ## Units and owners -/

theorem isOutput_of_render_eq {owner : Url} (h : owner.Written)
    (heq : (unitName owner).render = owner.render) : isOutput owner = true := by
  have hscheme : (unitName owner).scheme = owner.scheme :=
    Url.scheme_of_render (written_unitName h) h heq
  have houtput := isOutput_unitName owner
  cases hpath : owner.path with
  | rooted segments =>
    -- the text before the path is the same for both, so the paths are too
    have hunit := unitName_of_rooted hpath
    have hsegments := Url.segments_of_render (written_unitName h) h (by rw [hunit]; rfl)
      (by rw [hunit]) hpath heq
    have hlast : (unitName owner).lastSegment? = owner.lastSegment? := by
      rw [Url.lastSegment?, Url.lastSegment?, Url.segments, Url.segments, hpath, hunit]
      simp only
      rw [hsegments]
    rwa [isOutput, hscheme, hlast] at houtput
  | plain place =>
    -- the owner has the scheme of units
    rw [unitName_of_plain hpath] at hscheme
    rw [isOutput, ← hscheme]
    rfl

/-- **The name of every unit is recognised**, and a file that is not recognised has a unit with
another name. Where the name is read from a text, the text can be read. All of that holds for every
URL that is read, and whatever brings domains to ASCII. -/
theorem units_are_recognised {toAscii : Url.DomainToAscii} {text : String} {owner : Url}
    (h : Url.readWith toAscii text = .ok owner) :
    isOutput (unitName owner) = true ∧
      (isOutput owner = false → (unitName owner).render ≠ owner.render) ∧
      ∀ place, owner.path = .plain place →
        Url.readWith toAscii ("utsushi:///virtual/" ++ encoded owner.render ++ "/" ++
          encoded (unitFileName place)) = .ok (unitName owner) := by
  refine ⟨isOutput_unitName owner, ?_, fun place hplace => read_unitText toAscii hplace⟩
  intro hother heq
  rw [isOutput_of_render_eq (Url.written_of_read h) heq] at hother
  cases hother

def unsavedFile : Url := ⟨"untitled", none, false, .plain "Untitled-1", none, none⟩

theorem unsavedFile_recognised :
    Url.read "untitled:Untitled-1" = .ok unsavedFile ∧
      isOutput (unitName unsavedFile) = true ∧
      (unitName unsavedFile).render ≠ unsavedFile.render ∧
      Url.read "utsushi:///virtual/untitled%3AUntitled%2D1/Untitled%2D1%2Eexpanded%2Ed" =
        .ok (unitName unsavedFile) := by
  have hread : Url.read "untitled:Untitled-1" = .ok unsavedFile := by rfl
  have hall := units_are_recognised hread
  exact ⟨hread, hall.1, hall.2.1 (by decide), hall.2.2 "Untitled-1" rfl⟩

end Declaration

end Palimpsest
