import Palimpsest.Proofs.Url.Written

/-!
# Parts of a URL from its text

The text of a written URL tells its parts apart: the scheme ends at the first colon
(`scheme_of_render`), and behind the authority the path ends where the query or the fragment begins
and falls apart at its slashes (`segments_of_render`). Reading the text of a path changes nothing in
it where no segment stands for points (`readPath_render`).
-/

namespace Palimpsest.Url

/-! ## Segments of a text -/

theorem splitWhere_of_plain {mark : Char → Bool} {part : List Char}
    (h : ∀ c ∈ part, mark c = false) : splitWhere mark part = [part] := by
  induction part with
  | nil => rfl
  | cons c rest ih =>
    obtain ⟨hc, hrest⟩ := List.forall_mem_cons.mp h
    rw [splitWhere, hc, ih hrest]
    rfl

theorem splitWhere_append {mark : Char → Bool} {part : List Char}
    (h : ∀ c ∈ part, mark c = false) {separator : Char} (hmark : mark separator = true)
    (rest : List Char) :
    splitWhere mark (part ++ separator :: rest) = part :: splitWhere mark rest := by
  induction part with
  | nil => rw [List.nil_append, splitWhere, if_pos hmark]
  | cons c part ih =>
    obtain ⟨hc, hpart⟩ := List.forall_mem_cons.mp h
    rw [List.cons_append, splitWhere, hc, ih hpart]
    rfl

theorem splitWhere_joined {mark : Char → Bool} (hmark : mark '/' = true) {first : List Char}
    {others : List (List Char)} (h : ∀ part ∈ first :: others, ∀ c ∈ part, mark c = false) :
    splitWhere mark (first ++ others.flatMap ('/' :: ·)) = first :: others := by
  induction others generalizing first with
  | nil =>
    rw [List.flatMap_nil, List.append_nil]
    exact splitWhere_of_plain (h first List.mem_cons_self)
  | cons next others ih =>
    obtain ⟨hfirst, hothers⟩ := List.forall_mem_cons.mp h
    rw [List.flatMap_cons, List.cons_append, splitWhere_append hfirst hmark, ih hothers]

theorem toList_render_rooted (segments : List String) :
    (Path.rooted segments).render.toList = (segments.map String.toList).flatMap ('/' :: ·) := by
  rw [Path.render, String.toList_join, List.flatMap_map, List.flatMap_map]
  simp

theorem segmentsOfPath_render {segments : List String}
    (h : ∀ segment ∈ segments, '/' ∉ segment.toList) :
    segmentsOfPath (Path.rooted segments).render.toList = segments := by
  have hplain : ∀ part ∈ segments.map String.toList, ∀ c ∈ part, (c == '/') = false := by
    intro part hpart c hc
    obtain ⟨segment, hsegment, rfl⟩ := List.mem_map.mp hpart
    apply beq_false_of_ne
    rintro rfl
    exact h segment hsegment hc
  rw [toList_render_rooted]
  cases segments with
  | nil => rfl
  | cons first others =>
    rw [List.map_cons, List.flatMap_cons, List.cons_append, segmentsOfPath,
      splitWhere_joined (by decide) hplain, ← List.map_cons, List.map_map]
    simp

/-! ## Written URLs -/

def frontText (u : Url) : List Char :=
  u.scheme.toList ++ ':' ::
    ((u.authority.map ("//" ++ ·.render)).getD "" ++ if u.guarded then "/." else "").toList

def endText (u : Url) : List Char :=
  ((u.query.map ("?" ++ ·)).getD "" ++ (u.fragment.map ("#" ++ ·)).getD "").toList

theorem toList_render (u : Url) :
    u.render.toList = u.frontText ++ (u.path.render.toList ++ u.endText) := by
  obtain ⟨scheme, authority, guarded, path, query, fragment⟩ := u
  cases authority <;> cases query <;> cases fragment <;> simp [render, frontText, endText]

theorem Written.slash_not_mem {u : Url} (hu : u.Written) {segments : List String}
    (hpath : u.path = .rooted segments) : ∀ segment ∈ segments, '/' ∉ segment.toList := by
  intro segment hsegment hmem
  have hslash := isSegmentChar_iff.mp (hu.of_rooted hpath segment hsegment '/' hmem)
  exact hslash.2.2.1 rfl

theorem Written.visible {u : Url} (hu : u.Written) {segments : List String}
    (hpath : u.path = .rooted segments) :
    ∀ c ∈ (Path.rooted segments).render.toList, 0x20 < c.toNat ∧ c ≠ '?' ∧ c ≠ '#' := by
  rw [toList_render_rooted]
  intro c hc
  obtain ⟨part, hpart, hmem⟩ := List.mem_flatMap.mp hc
  obtain ⟨segment, hsegment, rfl⟩ := List.mem_map.mp hpart
  rcases List.mem_cons.mp hmem with rfl | hmem
  · decide
  · exact visible_of_isSegmentChar (hu.of_rooted hpath segment hsegment c hmem)

theorem takeWhile_path {u : Url} (hu : u.Written) {segments : List String}
    (hpath : u.path = .rooted segments) :
    (u.path.render.toList ++ u.endText).takeWhile (fun c => c != '?' && c != '#') =
      (Path.rooted segments).render.toList := by
  have hplain : ∀ c ∈ (Path.rooted segments).render.toList, (c != '?' && c != '#') = true := by
    intro c hc
    obtain ⟨-, hquery, hfragment⟩ := hu.visible hpath c hc
    rw [Bool.and_eq_true, bne_iff_ne, bne_iff_ne]
    exact ⟨hquery, hfragment⟩
  have hend : u.endText.takeWhile (fun c => c != '?' && c != '#') = [] := by
    obtain ⟨scheme, authority, guarded, path, query, fragment⟩ := u
    cases query <;> cases fragment <;> simp [endText]
  rw [hpath, List.takeWhile_append_of_pos hplain, hend, List.append_nil]

theorem scheme_of_render {u v : Url} (hu : u.Written) (hv : v.Written) (h : u.render = v.render) :
    u.scheme = v.scheme := by
  have hscheme : ∀ {w : Url}, w.Written → w.render.toList.takeWhile (· != ':') = w.scheme.toList := by
    intro w hw
    have hplain : ∀ c ∈ w.scheme.toList, (c != ':') = true := by
      intro c hc
      rw [bne_iff_ne]
      rintro rfl
      exact hw.scheme hc
    rw [toList_render, frontText, List.append_assoc, List.takeWhile_append_of_pos hplain]
    simp
  apply String.toList_inj.mp
  rw [← hscheme hu, ← hscheme hv, h]

theorem segments_of_render {u v : Url} (hu : u.Written) (hv : v.Written)
    (hfront : u.frontText = v.frontText) {segments segments' : List String}
    (hpath : u.path = .rooted segments) (hpath' : v.path = .rooted segments')
    (h : u.render = v.render) : segments = segments' := by
  have hbehind : u.path.render.toList ++ u.endText = v.path.render.toList ++ v.endText := by
    have hchars := congrArg String.toList h
    rw [toList_render, toList_render, hfront] at hchars
    exact List.append_cancel_left hchars
  have htext : (Path.rooted segments).render.toList = (Path.rooted segments').render.toList := by
    rw [← takeWhile_path hu hpath, ← takeWhile_path hv hpath', hbehind]
  rw [← segmentsOfPath_render (hu.slash_not_mem hpath),
    ← segmentsOfPath_render (hv.slash_not_mem hpath'), htext]

/-! ## Texts that are read as they are -/

theorem cleaned_eq_self {text : String} (h : ∀ c ∈ text.toList, 0x20 < c.toNat) :
    cleaned text = text.toList := by
  have hnone : ∀ chars : List Char, (∀ c ∈ chars, 0x20 < c.toNat) →
      chars.dropWhile (fun c => decide (c.toNat ≤ 0x20)) = chars := by
    intro chars hchars
    cases chars with
    | nil => rfl
    | cons c rest =>
      have hc := hchars c List.mem_cons_self
      simp [hc]
  have hreverse : ∀ c ∈ text.toList.reverse, 0x20 < c.toNat := by simpa using h
  unfold cleaned
  dsimp only
  rw [hnone _ h, hnone _ hreverse, List.reverse_reverse, List.filter_eq_self]
  intro c hc
  have hc := h c hc
  simp only [Bool.and_eq_true, bne_iff_ne]
  refine ⟨⟨?_, ?_⟩, ?_⟩ <;> rintro rfl <;> exact absurd hc (by decide)

theorem mem_plainPoints {c : Char} (hc : c ∉ "%2eE".toList) {segment : List Char}
    (h : c ∈ segment) : c ∈ plainPoints segment := by
  have hcode : c ≠ '%' ∧ c ≠ '2' ∧ c ≠ 'e' ∧ c ≠ 'E' := by simpa using hc
  fun_induction plainPoints segment with
  | case1 rest ih =>
    simp only [List.mem_cons, hcode, false_or] at h
    exact List.mem_cons_of_mem '.' (ih h)
  | case2 rest ih =>
    simp only [List.mem_cons, hcode, false_or] at h
    exact List.mem_cons_of_mem '.' (ih h)
  | case3 first rest _ _ ih =>
    rcases List.mem_cons.mp h with rfl | hrest
    · exact List.mem_cons_self
    · exact List.mem_cons_of_mem first (ih hrest)
  | case4 => exact h

/-- The segment is a name: it means neither where it stands nor what stands before it. -/
def isName (segment : List Char) : Bool := !isOnePoint segment && !isTwoPoints segment

theorem isName_of_mem {c : Char} (hc : c ∉ ".%2eE".toList) {segment : List Char}
    (h : c ∈ segment) : isName segment = true := by
  have hpoint : c ≠ '.' := by
    rintro rfl
    exact hc (by decide)
  have hkept : c ∈ plainPoints segment :=
    mem_plainPoints (fun hcode => hc (List.mem_cons_of_mem '.' hcode)) h
  have hone : plainPoints segment ≠ ['.'] := by
    intro heq
    simp [heq, hpoint] at hkept
  have htwo : plainPoints segment ≠ ['.', '.'] := by
    intro heq
    simp [heq, hpoint] at hkept
  rw [isName, isOnePoint, isTwoPoints, beq_false_of_ne hone, beq_false_of_ne htwo]
  rfl

theorem addRead_of_isName {segment : List Char} (h : isName segment = true) (path : List Char)
    (slash : Bool) :
    addRead false path segment slash = path ++ segment ++ if slash then ['/'] else [] := by
  simp only [isName, Bool.and_eq_true, Bool.not_eq_true'] at h
  rw [addRead, h.1, h.2]
  rfl

theorem addAllRead_of_isName {first : List Char} {others : List (List Char)}
    (h : ∀ segment ∈ first :: others, isName segment = true) (path : List Char) :
    addAllRead false path (first :: others) = path ++ (first ++ others.flatMap ('/' :: ·)) := by
  induction others generalizing first path with
  | nil =>
    rw [addAllRead, addRead_of_isName (h first List.mem_cons_self)]
    simp
  | cons next others ih =>
    obtain ⟨hfirst, hothers⟩ := List.forall_mem_cons.mp h
    rw [addAllRead, addRead_of_isName hfirst, ih hothers]
    · simp
    · exact List.cons_ne_nil next others

/-- **The text of a path of names is read as it is**, unless it is the path of a file, in which a
drive may stand. -/
theorem readPath_render {scheme : String} (hscheme : (scheme == "file") = false)
    {segments : List String}
    (hsegments : ∀ segment ∈ segments, ∀ c ∈ segment.toList, isSegmentChar scheme c = true)
    (hnames : ∀ segment ∈ segments, isName segment.toList = true) :
    readPath scheme [] (Path.rooted segments).render.toList =
      (Path.rooted segments).render.toList := by
  have hparts : ∀ part ∈ segments.map String.toList,
      (∀ c ∈ part, isSegmentChar scheme c = true) ∧ isName part = true := by
    intro part hpart
    obtain ⟨segment, hsegment, rfl⟩ := List.mem_map.mp hpart
    exact ⟨hsegments segment hsegment, hnames segment hsegment⟩
  rw [toList_render_rooted]
  generalize segments.map String.toList = parts at hparts
  have hplain : ∀ part ∈ [] :: parts, ∀ c ∈ part,
      (c == '/' || (isSpecialScheme scheme && c == '\\')) = false := by
    rw [List.forall_mem_cons]
    refine ⟨by simp, ?_⟩
    intro part hpart c hc
    obtain ⟨-, -, hslash, hbackslash⟩ := isSegmentChar_iff.mp ((hparts part hpart).1 c hc)
    rw [beq_false_of_ne hslash, Bool.false_or, Bool.and_eq_false_imp]
    exact fun hspecial => beq_false_of_ne (hbackslash hspecial)
  have hsplit : splitWhere (fun c => c == '/' || (isSpecialScheme scheme && c == '\\'))
      (parts.flatMap ('/' :: ·)) = [] :: parts :=
    splitWhere_joined (by simp) hplain
  have hencoded : parts.map (percentEncode .path) = parts := by
    have hstays : ∀ part ∈ parts, percentEncode .path part = id part := by
      intro part hpart
      apply percentEncode_eq_self
      intro c hc
      obtain ⟨hascii, hset, -⟩ := isSegmentChar_iff.mp ((hparts part hpart).1 c hc)
      exact ⟨hascii, hset⟩
    rw [List.map_congr_left hstays, List.map_id]
  have hempty : percentEncode .path [] = [] := rfl
  have hall : ∀ part ∈ [] :: parts, isName part = true := by
    rw [List.forall_mem_cons]
    exact ⟨by decide, fun part hpart => (hparts part hpart).2⟩
  rw [readPath, hsplit, hscheme, List.map_cons, hempty, hencoded]
  exact addAllRead_of_isName hall []

end Palimpsest.Url
