import Palimpsest.Proofs.Declaration.Recognition

/-!
# Where the unit of a file stands

A unit should stand beside its owner, under the name of the owner with the mark in it
(`StandsBeside`). Two things come in between:

1. the file name is in its written form already, and the percent signs of its codes are encoded
   once more (`percentEncode_written`);
2. a path whose only folder has an empty name loses that folder (`folder_append`).

There is nothing else: `standsBeside_iff` says that a unit stands beside its owner exactly if there
is no percent sign in the file name and no such folder.
-/

namespace Palimpsest.Declaration

open Url (isSegmentChar percentEncode)

/-! ## Marked names -/

/-- A file name without an extension: there is no point in it, or only one at its front, or one at
its end. -/
def WithoutExtension (name : List Char) : Prop :=
  '.' ∉ name ∨ (∃ rest, name = '.' :: rest ∧ '.' ∉ rest) ∨ ∃ front, name = front ++ ['.']

/-- A file name, and the same with the mark: before the last extension, or at the end where there
is none. -/
inductive Marked : List Char → List Char → Prop
  | before {stem extension : List Char} (hstem : stem ≠ []) (hextension : extension ≠ [])
      (hpoint : '.' ∉ extension) :
      Marked (stem ++ '.' :: extension) (stem ++ unitMark ++ '.' :: extension)
  | behind {name : List Char} (h : WithoutExtension name) : Marked name (name ++ unitMark)

theorem splitLastPoint?_eq_none_iff {name : List Char} :
    splitLastPoint? name = none ↔ '.' ∉ name := by
  simp [splitLastPoint?]

theorem unitChars_of_some {name stem extension : List Char}
    (h : splitLastPoint? name = some (stem, extension)) :
    unitChars name = if stem.isEmpty || extension.isEmpty then name ++ unitMark
      else stem ++ unitMark ++ '.' :: extension := by
  simp only [unitChars, h]

theorem unitChars_of_none {name : List Char} (h : splitLastPoint? name = none) :
    unitChars name = name ++ unitMark := by
  simp only [unitChars, h]

theorem withoutExtension_of_some {name stem extension : List Char}
    (h : splitLastPoint? name = some (stem, extension)) (hempty : stem = [] ∨ extension = []) :
    WithoutExtension name := by
  obtain ⟨hname, hpoint⟩ := splitLastPoint?_eq_some h
  rcases hempty with rfl | rfl
  · exact Or.inr (Or.inl ⟨extension, hname, hpoint⟩)
  · exact Or.inr (Or.inr ⟨stem, hname⟩)

theorem unitChars_of_withoutExtension {name : List Char} (h : WithoutExtension name) :
    unitChars name = name ++ unitMark := by
  rcases h with hpoint | ⟨rest, rfl, hpoint⟩ | ⟨front, rfl⟩
  · exact unitChars_of_none (splitLastPoint?_eq_none_iff.mpr hpoint)
  · have hsplit : splitLastPoint? ([] ++ '.' :: rest) = some ([], rest) :=
      splitLastPoint?_of_parts hpoint
    exact unitChars_of_some hsplit
  · have hsplit : splitLastPoint? (front ++ ['.']) = some (front, []) :=
      splitLastPoint?_of_parts (by simp)
    rw [unitChars_of_some hsplit, List.isEmpty_nil, Bool.or_true, if_pos rfl]

/-- **The mark goes where it belongs.** -/
theorem marked_iff {name unit : List Char} : Marked name unit ↔ unit = unitChars name := by
  constructor
  · intro h
    cases h with
    | before hstem hextension hpoint =>
      rw [unitChars_of_some (splitLastPoint?_of_parts hpoint)]
      simp [hstem, hextension]
    | behind h => exact (unitChars_of_withoutExtension h).symm
  · rintro rfl
    cases hsplit : splitLastPoint? name with
    | none =>
      rw [unitChars_of_none hsplit]
      exact .behind (Or.inl (splitLastPoint?_eq_none_iff.mp hsplit))
    | some parts =>
      obtain ⟨stem, extension⟩ := parts
      by_cases hempty : stem = [] ∨ extension = []
      · have h := withoutExtension_of_some hsplit hempty
        rw [unitChars_of_withoutExtension h]
        exact .behind h
      · obtain ⟨hstem, hextension⟩ := not_or.mp hempty
        obtain ⟨hname, hpoint⟩ := splitLastPoint?_eq_some hsplit
        rw [unitChars_of_some hsplit, hname]
        simpa [hstem, hextension] using Marked.before hstem hextension hpoint

/-! ## Percent signs -/

/-- A text with each percent sign written as a code. -/
def percentsEncoded (text : List Char) : List Char :=
  text.flatMap fun c => if c = '%' then ['%', '2', '5'] else [c]

theorem percentsEncoded_append (a b : List Char) :
    percentsEncoded (a ++ b) = percentsEncoded a ++ percentsEncoded b :=
  List.flatMap_append

theorem percentsEncoded_cons {c : Char} (h : c ≠ '%') (rest : List Char) :
    percentsEncoded (c :: rest) = c :: percentsEncoded rest := by
  rw [percentsEncoded, List.flatMap_cons, if_neg h]
  rfl

theorem point_mem_percentsEncoded_iff {text : List Char} :
    '.' ∈ percentsEncoded text ↔ '.' ∈ text := by
  constructor
  · intro h
    obtain ⟨c, hc, hmem⟩ := List.mem_flatMap.mp h
    split at hmem
    · exact absurd hmem (by decide)
    · rwa [List.mem_singleton.mp hmem]
  · intro h
    exact List.mem_flatMap.mpr ⟨'.', h, by decide⟩

theorem percentsEncoded_eq_nil_iff {text : List Char} : percentsEncoded text = [] ↔ text = [] := by
  cases text with
  | nil => simp [percentsEncoded]
  | cons c rest =>
    rw [percentsEncoded, List.flatMap_cons]
    split <;> simp

theorem length_percentsEncoded (text : List Char) :
    (percentsEncoded text).length = text.length + 2 * text.count '%' := by
  induction text with
  | nil => rfl
  | cons c rest ih =>
    by_cases hc : c = '%'
    · subst hc
      have hcode : percentsEncoded ('%' :: rest) = '%' :: '2' :: '5' :: percentsEncoded rest := rfl
      simp only [hcode, List.length_cons, ih, List.count_cons_self]
      omega
    · simp only [percentsEncoded_cons hc, List.length_cons, ih, List.count_cons_of_ne hc]
      omega

/-- A text grows by its percent signs, so it stays only if there is none. -/
theorem percentsEncoded_eq_self_iff {text : List Char} :
    percentsEncoded text = text ↔ '%' ∉ text := by
  constructor
  · intro heq
    have hlength := length_percentsEncoded text
    rw [heq] at hlength
    exact List.count_eq_zero.mp (by omega)
  · intro h
    induction text with
    | nil => rfl
    | cons c rest ih =>
      obtain ⟨hc, hrest⟩ := List.ne_and_not_mem_of_not_mem_cons h
      rw [percentsEncoded_cons hc.symm, ih hrest]

theorem marked_percentsEncoded {name unit : List Char} (h : Marked name unit) :
    Marked (percentsEncoded name) (percentsEncoded unit) := by
  have hmark : percentsEncoded unitMark = unitMark := by decide
  cases h with
  | before hstem hextension hpoint =>
    rw [percentsEncoded_append, percentsEncoded_cons (by decide), percentsEncoded_append,
      percentsEncoded_append, percentsEncoded_cons (by decide), hmark]
    exact .before (mt percentsEncoded_eq_nil_iff.mp hstem)
      (mt percentsEncoded_eq_nil_iff.mp hextension) (mt point_mem_percentsEncoded_iff.mp hpoint)
  | behind h =>
    rw [percentsEncoded_append, hmark]
    apply Marked.behind
    rcases h with hpoint | ⟨rest, rfl, hpoint⟩ | ⟨front, rfl⟩
    · exact Or.inl (mt point_mem_percentsEncoded_iff.mp hpoint)
    · exact Or.inr (Or.inl ⟨percentsEncoded rest, percentsEncoded_cons (by decide) rest,
        mt point_mem_percentsEncoded_iff.mp hpoint⟩)
    · exact Or.inr (Or.inr ⟨percentsEncoded front, percentsEncoded_append front ['.']⟩)

/-- **What is in its written form already is encoded once more**, and only its percent signs
change. -/
theorem percentEncode_written {scheme : String} {text : List Char}
    (h : ∀ c ∈ text, isSegmentChar scheme c = true) :
    percentEncode (if Url.isSpecialScheme scheme then .specialPathSegment else .pathSegment) text =
      percentsEncoded text := by
  induction text with
  | nil => rfl
  | cons c rest ih =>
    obtain ⟨hc, hrest⟩ := List.forall_mem_cons.mp h
    have hchar : Url.percentChar
        (if Url.isSpecialScheme scheme then .specialPathSegment else .pathSegment) c =
          if c = '%' then ['%', '2', '5'] else [c] := by
      by_cases hpercent : c = '%'
      · subst hpercent
        split <;> decide
      · obtain ⟨hascii, hpath, hslash, hbackslash⟩ := Url.isSegmentChar_iff.mp hc
        have hset := Url.segmentSet_eq_false_iff.mpr ⟨hpath, hslash, hpercent, hbackslash⟩
        simp only [Url.percentChar, hset, hascii, hpercent]
        rfl
    calc percentEncode _ (c :: rest)
        = Url.percentChar _ c ++ percentEncode _ rest := List.flatMap_cons
      _ = (if c = '%' then ['%', '2', '5'] else [c]) ++ percentsEncoded rest := by
        rw [hchar, ih hrest]
      _ = percentsEncoded (c :: rest) := by
        rw [percentsEncoded, percentsEncoded, List.flatMap_cons]

/-! ## Places -/

/-- The folders before a file name stay, except for a single one with an empty name. -/
theorem folder_append (front : List String) (name : String) :
    folder (front ++ [name]) = if front = [""] then [] else front := by
  have hdrop : Url.dropSegment (front ++ [name]) = if front = [] then [""] else front := by
    cases front with
    | nil => rfl
    | cons first rest =>
      cases rest with
      | nil => rfl
      | cons second rest =>
        rw [if_neg (List.cons_ne_nil first _)]
        show (first :: second :: rest ++ [name]).dropLast = _
        exact List.dropLast_concat
  rw [folder, hdrop]
  by_cases hnil : front = []
  · simp [hnil]
  · simp [hnil]

/-- The unit stands beside its owner, which has the file name `name` behind the segments `front`:
under the same scheme and authority, in the same folder, under the name of the owner with the mark
in it, and without a query or a fragment. -/
structure StandsBeside (unit owner : Url) (front : List String) (name : String) : Prop where
  scheme : unit.scheme = owner.scheme
  authority : unit.authority = owner.authority
  path : ∃ last : String, unit.path = .rooted (front ++ [last]) ∧ Marked name.toList last.toList
  query : unit.query = none
  fragment : unit.fragment = none

/-- Where a unit stands: in the folder of its owner, as far as that stays, under a file name with
the percent signs encoded. -/
theorem unitName_of_file {owner : Url} (howner : owner.Written) {front : List String}
    {name : String} (hpath : owner.path = .rooted (front ++ [name])) (hname : name ≠ "") :
    unitName owner =
      { owner with
        path := .rooted ((if front = [""] then [] else front) ++
          [String.ofList (percentsEncoded (unitChars name.toList))])
        query := none
        fragment := none } := by
  have hlast : fileName owner = name := by
    have hsegment : owner.lastSegment? = some name := by
      rw [Url.lastSegment?, Url.segments, hpath]
      simp
    simp [fileName, hsegment, hname]
  have hwritten : ∀ c ∈ unitChars name.toList, isSegmentChar owner.scheme c = true := by
    intro c hc
    rcases mem_unitChars_iff.mp hc with hold | hmark
    · exact howner.of_rooted hpath name (by simp) c hold
    · exact Url.isSegmentChar_of_mem (by decide) hmark owner.scheme
  have hencoded : Url.segmentOfText owner.scheme (unitFileName name) =
      String.ofList (percentsEncoded (unitChars name.toList)) := by
    rw [Url.segmentOfText, unitFileName, String.toList_ofList, percentEncode_written hwritten]
  rw [unitName_of_rooted hpath, folder_append, hlast, hencoded]

theorem standsBeside_iff {owner : Url} (howner : owner.Written) {front : List String}
    {name : String} (hpath : owner.path = .rooted (front ++ [name])) (hname : name ≠ "") :
    StandsBeside (unitName owner) owner front name ↔ '%' ∉ name.toList ∧ front ≠ [""] := by
  have hunit := unitName_of_file howner hpath hname
  constructor
  · intro h
    obtain ⟨last, hplace, hmarked⟩ := h.path
    rw [hunit] at hplace
    obtain ⟨hfront, hlast⟩ := List.append_singleton_inj.mp (Url.Path.rooted.inj hplace)
    constructor
    · -- the name with the mark has been encoded, and yet it is the same
      have hsame := marked_iff.mp hmarked
      rw [← hlast, String.toList_ofList] at hsame
      exact fun hmem =>
        percentsEncoded_eq_self_iff.mp hsame (mem_unitChars_iff.mpr (Or.inl hmem))
    · rintro rfl
      rw [if_pos rfl] at hfront
      cases hfront
  · rintro ⟨hpercent, hfront⟩
    have hsame : percentsEncoded (unitChars name.toList) = unitChars name.toList := by
      rw [percentsEncoded_eq_self_iff, mem_unitChars_iff]
      exact fun h => h.elim hpercent (by decide)
    rw [hunit, if_neg hfront, hsame]
    exact ⟨rfl, rfl, ⟨_, rfl, by rw [String.toList_ofList]; exact marked_iff.mpr rfl⟩, rfl, rfl⟩

/-- **Where the unit of a file stands.** Scheme and authority are those of the owner, and there is
no query and no fragment. The file name is that of the owner with its percent signs encoded and the
mark in it. The folder is that of the owner, unless that is a single empty name. So the unit stands
beside its owner exactly if there is no percent sign in the file name and no such folder. -/
theorem beside_unless_encoded {toAscii : Url.DomainToAscii} {text : String} {owner : Url}
    (hread : Url.readWith toAscii text = .ok owner) {front : List String} {name : String}
    (hpath : owner.path = .rooted (front ++ [name])) (hname : name ≠ "") :
    (∃ last : String,
      unitName owner =
          { owner with
            path := .rooted ((if front = [""] then [] else front) ++ [last])
            query := none
            fragment := none } ∧
        Marked (percentsEncoded name.toList) last.toList) ∧
      (StandsBeside (unitName owner) owner front name ↔ '%' ∉ name.toList ∧ front ≠ [""]) := by
  have howner := Url.written_of_read hread
  refine ⟨⟨_, unitName_of_file howner hpath hname, ?_⟩, standsBeside_iff howner hpath hname⟩
  rw [String.toList_ofList]
  exact marked_percentsEncoded (marked_iff.mpr rfl)

/-- A file at some revision, with several points in its name. -/
def modelFile : Url :=
  { scheme := "file"
    authority := some ⟨"", none, "", none⟩
    guarded := false
    path := .rooted ["project", "user.model.ts"]
    query := some "rev=2"
    fragment := some "L4" }

theorem modelFile_unit_beside :
    Url.read "file:///project/user.model.ts?rev=2#L4" = .ok modelFile ∧
      StandsBeside (unitName modelFile) modelFile ["project"] "user.model.ts" := by
  have hread : Url.read "file:///project/user.model.ts?rev=2#L4" = .ok modelFile := by rfl
  have hpath : modelFile.path = .rooted (["project"] ++ ["user.model.ts"]) := rfl
  have hbeside := beside_unless_encoded hread hpath (by decide)
  exact ⟨hread, hbeside.2.mpr (by decide)⟩

def spacedFile : Url :=
  { modelFile with path := .rooted ["project", "a%20b.ts"], query := none, fragment := none }

/-- The unit of a file with a blank in its name does not stand beside it: it has the name that
belongs to a file `a%20b.ts`. -/
theorem blank_encoded_twice :
    Url.read "file:///project/a%20b.ts" = .ok spacedFile ∧
      (unitName spacedFile).render = "file:///project/a%2520b.expanded.d.ts" ∧
      ¬ StandsBeside (unitName spacedFile) spacedFile ["project"] "a%20b.ts" := by
  have hread : Url.read "file:///project/a%20b.ts" = .ok spacedFile := by rfl
  have hpath : spacedFile.path = .rooted (["project"] ++ ["a%20b.ts"]) := rfl
  refine ⟨hread, by decide +kernel, ?_⟩
  rw [standsBeside_iff (Url.written_of_read hread) hpath (by decide)]
  decide

end Palimpsest.Declaration
