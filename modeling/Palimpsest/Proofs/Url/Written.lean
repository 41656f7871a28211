import Palimpsest.Proofs.Url.Percent
import Palimpsest.Url.Reader

/-!
# What stands in a URL that was read

Reading brings every part of a URL into the form in which it is written. For the path this means
that its segments hold ASCII characters only, none that a path has to encode, and none that
separates segments (`Written`). A path is read onto what has been written of it, so the characters
of each step are followed (`forall_mem_addRead`) and then those of a whole path
(`forall_mem_readPath`). Each way through the reader ends with a path that was read like this
(`written_of_read`).
-/

namespace Palimpsest.Url

/-- Whether a segment of a path may hold the character as it is. -/
def isSegmentChar (scheme : String) (c : Char) : Bool :=
  decide (c.toNat < 0x80) && !EncodeSet.path c && c != '/' && !(isSpecialScheme scheme && c == '\\')

theorem isSegmentChar_iff {scheme : String} {c : Char} :
    isSegmentChar scheme c = true ↔
      c.toNat < 0x80 ∧ EncodeSet.path c = false ∧ c ≠ '/' ∧
        (isSpecialScheme scheme = true → c ≠ '\\') := by
  cases hspecial : isSpecialScheme scheme <;> simp [isSegmentChar, hspecial, and_assoc]

theorem visible_of_isSegmentChar {scheme : String} {c : Char} (h : isSegmentChar scheme c = true) :
    0x20 < c.toNat ∧ c ≠ '?' ∧ c ≠ '#' := by
  have hset := (isSegmentChar_iff.mp h).2.1
  refine ⟨?_, ?_, ?_⟩
  · have hfragment := (EncodeSet.including_eq_false_iff.mp hset).1
    obtain ⟨hcontrol, hmore⟩ := EncodeSet.including_eq_false_iff.mp hfragment
    have hspace : c.toNat ≠ 0x20 := by
      intro heq
      rw [← Char.ofNat_toNat c, heq] at hmore
      exact hmore (by decide)
    simp only [EncodeSet.controls, Bool.or_eq_false_iff, decide_eq_false_iff_not] at hcontrol
    omega
  · rintro rfl
    exact absurd hset (by decide)
  · rintro rfl
    exact absurd hset (by decide)

/-- A text that becomes a segment keeps the characters of segments, other than the percent sign. -/
theorem segmentSet_eq_false_iff {scheme : String} {c : Char} :
    (if isSpecialScheme scheme then EncodeSet.specialPathSegment else .pathSegment) c = false ↔
      EncodeSet.path c = false ∧ c ≠ '/' ∧ c ≠ '%' ∧ (isSpecialScheme scheme = true → c ≠ '\\') := by
  have hsegment : EncodeSet.pathSegment c = false ↔
      EncodeSet.path c = false ∧ c ≠ '/' ∧ c ≠ '%' := by
    simp [EncodeSet.pathSegment, EncodeSet.including_eq_false_iff]
  cases hspecial : isSpecialScheme scheme with
  | false => simp [hsegment]
  | true =>
    simp [EncodeSet.specialPathSegment, EncodeSet.including_eq_false_iff, hsegment, and_assoc]

/-- Whether segments may hold the character under any scheme. -/
def staysAnywhere (c : Char) : Bool :=
  decide (c.toNat < 0x80) && !EncodeSet.path c && c != '/' && c != '\\'

theorem isSegmentChar_of_staysAnywhere {c : Char} (h : staysAnywhere c = true) (scheme : String) :
    isSegmentChar scheme c = true := by
  simp only [staysAnywhere, Bool.and_eq_true, decide_eq_true_eq, Bool.not_eq_true',
    bne_iff_ne] at h
  obtain ⟨⟨⟨hascii, hset⟩, hslash⟩, hbackslash⟩ := h
  exact isSegmentChar_iff.mpr ⟨hascii, hset, hslash, fun _ => hbackslash⟩

theorem isSegmentChar_of_mem {plain : List Char} (h : plain.all staysAnywhere = true) {c : Char}
    (hc : c ∈ plain) (scheme : String) : isSegmentChar scheme c = true :=
  isSegmentChar_of_staysAnywhere (List.all_eq_true.mp h c hc) scheme

/-- The scheme and the segments are in the form in which they are written. -/
structure Written (u : Url) : Prop where
  scheme : ':' ∉ u.scheme.toList
  segments : ∀ segment ∈ u.segments, ∀ c ∈ segment.toList, isSegmentChar u.scheme c = true

theorem Written.of_rooted {u : Url} (h : u.Written) {segments : List String}
    (hpath : u.path = .rooted segments) :
    ∀ segment ∈ segments, ∀ c ∈ segment.toList, isSegmentChar u.scheme c = true := by
  have hsegments : u.segments = segments := by rw [Url.segments, hpath]
  rw [← hsegments]
  exact h.segments

/-! ## Segments -/

theorem mem_splitWhere {mark : Char → Bool} {text part : List Char}
    (hpart : part ∈ splitWhere mark text) : ∀ c ∈ part, c ∈ text ∧ mark c = false := by
  induction text generalizing part with
  | nil =>
    intro c hc
    rw [splitWhere, List.mem_singleton] at hpart
    rw [hpart] at hc
    cases hc
  | cons first rest ih =>
    have hbehind : ∀ {part}, part ∈ splitWhere mark rest →
        ∀ c ∈ part, c ∈ first :: rest ∧ mark c = false := by
      intro part hpart c hc
      obtain ⟨hmem, hmark⟩ := ih hpart c hc
      exact ⟨List.mem_cons_of_mem first hmem, hmark⟩
    rw [splitWhere] at hpart
    split at hpart
    · rcases List.mem_cons.mp hpart with rfl | hrest
      · intro c hc
        cases hc
      · exact hbehind hrest
    · rename_i hfirst
      have hplain : mark first = false := by simpa using hfirst
      split at hpart
      · rename_i next others hsplit
        rcases List.mem_cons.mp hpart with rfl | hothers
        · intro c hc
          rcases List.mem_cons.mp hc with rfl | hnext
          · exact ⟨List.mem_cons_self, hplain⟩
          · exact hbehind (by rw [hsplit]; exact List.mem_cons_self) c hnext
        · exact hbehind (by rw [hsplit]; exact List.mem_cons_of_mem next hothers)
      · intro c hc
        rw [List.mem_singleton.mp hpart, List.mem_singleton] at hc
        rw [hc]
        exact ⟨List.mem_cons_self, hplain⟩

/-! ## Paths

In what follows the characters of a path all have some property, which a slash and the colon of a
drive have too. -/

section Path

variable {P : Char → Prop} {isFile : Bool} {path : List Char}

theorem forall_mem_withSlash (hslash : P '/') (hpath : ∀ c ∈ path, P c) :
    ∀ c ∈ withSlash path, P c := by
  unfold withSlash
  split
  · exact hpath
  · intro c hc
    rcases List.mem_append.mp hc with hmem | hmem
    · exact hpath c hmem
    · rw [List.mem_singleton.mp hmem]
      exact hslash

theorem forall_mem_shorten (hpath : ∀ c ∈ path, P c) : ∀ c ∈ shorten isFile path, P c := by
  unfold shorten splitLastSlash
  intro c hc
  dsimp only at hc
  split at hc
  · exact hpath c hc
  · exact hpath c (List.mem_of_mem_take hc)

theorem forall_mem_addRead (hslash : P '/') (hcolon : P ':') (hpath : ∀ c ∈ path, P c)
    {segment : List Char} (hsegment : ∀ c ∈ segment, P c) (slash : Bool) :
    ∀ c ∈ addRead isFile path segment slash, P c := by
  unfold addRead
  split
  · have hdropped : ∀ c ∈ (if endsWithSlash path && canDropSlash path then path.dropLast else path),
        P c := by
      split
      · exact fun c hc => hpath c ((List.dropLast_sublist path).subset hc)
      · exact hpath
    dsimp only
    split
    · exact forall_mem_withSlash hslash (forall_mem_shorten hdropped)
    · exact forall_mem_shorten hdropped
  · split
    · exact forall_mem_withSlash hslash hpath
    · have hdrive : ∀ c ∈ (if isFile && isFrontDrive path segment then segment.take 1 ++ [':']
          else segment), P c := by
        split
        · intro c hc
          rcases List.mem_append.mp hc with hmem | hmem
          · exact hsegment c (List.mem_of_mem_take hmem)
          · rw [List.mem_singleton.mp hmem]
            exact hcolon
        · exact hsegment
      intro c hc
      rcases List.mem_append.mp hc with hmem | hmem
      · rcases List.mem_append.mp hmem with hmem | hmem
        · exact hpath c hmem
        · exact hdrive c hmem
      · split at hmem
        · rw [List.mem_singleton.mp hmem]
          exact hslash
        · cases hmem

theorem forall_mem_addAllRead (hslash : P '/') (hcolon : P ':') (hpath : ∀ c ∈ path, P c)
    {segments : List (List Char)} (hsegments : ∀ segment ∈ segments, ∀ c ∈ segment, P c) :
    ∀ c ∈ addAllRead isFile path segments, P c := by
  fun_induction addAllRead isFile path segments with
  | case1 path => exact hpath
  | case2 path last =>
    exact forall_mem_addRead hslash hcolon hpath (hsegments last List.mem_cons_self) false
  | case3 path segment rest _ ih =>
    obtain ⟨hsegment, hrest⟩ := List.forall_mem_cons.mp hsegments
    exact ih (forall_mem_addRead hslash hcolon hpath hsegment true) hrest

end Path

theorem forall_mem_readPath (scheme : String) {path : List Char} (hpath : path = [] ∨ path = ['/'])
    (text : List Char) :
    ∀ c ∈ readPath scheme path text, c = '/' ∨ isSegmentChar scheme c = true := by
  -- a character of a segment that was encoded did not separate
  have hsegments : ∀ segment ∈ (splitWhere
      (fun c => c == '/' || (isSpecialScheme scheme && c == '\\')) text).map (percentEncode .path),
      ∀ c ∈ segment, c = '/' ∨ isSegmentChar scheme c = true := by
    intro segment hsegment c hc
    right
    obtain ⟨part, hpart, rfl⟩ := List.mem_map.mp hsegment
    rcases mem_percentEncode hc with ⟨hmem, hascii, hset⟩ | hmem
    · have hmark := (mem_splitWhere hpart c hmem).2
      simp only [Bool.or_eq_false_iff, beq_eq_false_iff_ne, Bool.and_eq_false_imp] at hmark
      exact isSegmentChar_iff.mpr ⟨hascii, hset, hmark.1, hmark.2⟩
    · exact isSegmentChar_of_mem (by decide) hmem scheme
  have hall : ∀ c ∈ addAllRead (scheme == "file") path ((splitWhere
      (fun c => c == '/' || (isSpecialScheme scheme && c == '\\')) text).map (percentEncode .path)),
      c = '/' ∨ isSegmentChar scheme c = true := by
    apply forall_mem_addAllRead (P := fun c => c = '/' ∨ isSegmentChar scheme c = true) (Or.inl rfl)
    · exact Or.inr (isSegmentChar_of_staysAnywhere (by decide) scheme)
    · rcases hpath with rfl | rfl
      · intro c hc
        cases hc
      · intro c hc
        exact Or.inl (List.mem_singleton.mp hc)
    · exact hsegments
  unfold readPath
  dsimp only
  split
  · intro c hc
    rcases List.mem_cons.mp hc with rfl | hmem
    · exact Or.inl rfl
    · exact hall c ((List.dropWhile_sublist _).subset hmem)
  · exact hall

theorem forall_mem_segmentsOfPath {path : List Char} {Q : Char → Prop}
    (hpath : ∀ c ∈ path, c = '/' ∨ Q c) :
    ∀ segment ∈ segmentsOfPath path, ∀ c ∈ segment.toList, Q c := by
  unfold segmentsOfPath
  split
  · rename_i rest
    intro segment hsegment c hc
    obtain ⟨part, hpart, rfl⟩ := List.mem_map.mp hsegment
    rw [String.toList_ofList] at hc
    obtain ⟨hmem, hmark⟩ := mem_splitWhere hpart c hc
    rcases hpath c (List.mem_cons_of_mem '/' hmem) with rfl | hQ
    · simp at hmark
    · exact hQ
  · intro segment hsegment
    cases hsegment

/-! ## The reader -/

theorem written_assemble {scheme : String} (hscheme : ':' ∉ scheme.toList)
    (authority : Option Authority) {path : List Char} (hpath : path = [] ∨ path = ['/'])
    (text rest : List Char) :
    (assemble scheme authority (readPath scheme path text) rest).Written :=
  ⟨hscheme, forall_mem_segmentsOfPath (forall_mem_readPath scheme hpath text)⟩

theorem written_readLocalFile {path : List Char} (hpath : path = [] ∨ path = ['/'])
    (text : List Char) : (readLocalFile path text).Written :=
  written_assemble (by decide) _ hpath _ _

variable {toAscii : DomainToAscii}

theorem written_readFileHost {text : List Char} {u : Url} (h : readFileHost toAscii text = .ok u) :
    u.Written := by
  unfold readFileHost at h
  simp only [pure, Except.pure, bind, Except.bind] at h
  split at h
  · cases h
    exact written_readLocalFile (Or.inr rfl) _
  · split at h
    · cases h
      exact written_readLocalFile (Or.inl rfl) _
    · split at h
      · cases h
      · split at h
        · cases h
          exact written_readLocalFile (Or.inl rfl) _
        · cases h
          exact written_assemble (by decide) _ (Or.inr rfl) _ _

theorem written_readFile {text : List Char} {u : Url} (h : readFile toAscii text = .ok u) :
    u.Written := by
  unfold readFile at h
  dsimp only at h
  split at h
  · split at h
    · exact written_readFileHost h
    · split at h
      · cases h
        exact written_readLocalFile (Or.inl rfl) _
      · cases h
        exact written_readLocalFile (Or.inr rfl) _
  · cases h
    split
    · exact written_readLocalFile (Or.inl rfl) _
    · exact written_readLocalFile (Or.inr rfl) _
  · cases h
    exact written_readLocalFile (Or.inr rfl) _

theorem written_readHierarchy {scheme : String} (hscheme : ':' ∉ scheme.toList) {text : List Char}
    {u : Url} (h : readHierarchy toAscii scheme text = .ok u) : u.Written := by
  unfold readHierarchy at h
  simp only [pure, Except.pure, bind, Except.bind] at h
  split at h
  · cases h
  · cases h
    split
    · exact written_assemble hscheme _ (Or.inr rfl) _ _
    · split
      · exact written_assemble hscheme _ (Or.inl rfl) _ _
      · exact written_assemble hscheme _ (Or.inr rfl) _ _

theorem written_readPlain {scheme : String} (hscheme : ':' ∉ scheme.toList) {text : List Char}
    {u : Url} (h : readPlain toAscii scheme text = .ok u) : u.Written := by
  unfold readPlain at h
  split at h
  · exact written_readHierarchy hscheme h
  · cases h
    exact written_assemble hscheme _ (Or.inr rfl) _ _
  · cases h
    refine ⟨hscheme, ?_⟩
    intro segment hsegment
    cases hsegment

theorem toLower_ne_colon {c : Char} (h : c ≠ ':') : c.toLower ≠ ':' := by
  unfold Char.toLower
  split
  · rename_i hupper
    intro heq
    have hcode : (c.toNat + 32) % 0x100000000 = 58 := by simpa using congrArg Char.toNat heq
    have hlow : 65 ≤ c.toNat := UInt32.le_iff_toNat_le.mp hupper.1
    have hhigh : c.toNat ≤ 90 := UInt32.le_iff_toNat_le.mp hupper.2
    omega
  · exact h

theorem colon_not_mem_scheme {text rest : List Char} {scheme : String}
    (h : scheme? text = some (scheme, rest)) : ':' ∉ scheme.toList := by
  unfold scheme? at h
  dsimp only at h
  split at h
  · split at h
    · obtain ⟨rfl, -⟩ := Prod.mk.inj (Option.some.inj h)
      rw [String.toList_ofList, List.mem_map]
      rintro ⟨c, hc, hlower⟩
      have hkept := List.all_eq_true.mp List.all_takeWhile c hc
      apply toLower_ne_colon ?_ hlower
      rintro rfl
      revert hkept
      decide
    · cases h
  · cases h

/-- **A URL that was read is in its written form.** -/
theorem written_of_read {text : String} {u : Url} (h : Url.readWith toAscii text = .ok u) :
    u.Written := by
  unfold Url.readWith at h
  split at h
  · cases h
  · rename_i scheme rest hread
    have hscheme := colon_not_mem_scheme hread
    split at h
    · exact written_readFile h
    · split at h
      · exact written_readHierarchy hscheme h
      · exact written_readPlain hscheme h

end Palimpsest.Url
