import Palimpsest.Url.Percent

/-!
# Percent encoding can be undone

Where the percent sign itself is encoded, every percent sign in an encoded text begins a byte. So
decoding gives back the bytes of the text, and no two texts are encoded alike.
-/

namespace Palimpsest.Url

open Text (hexValue?)

theorem percentEncode_append (set : EncodeSet) (a b : List Char) :
    percentEncode set (a ++ b) = percentEncode set a ++ percentEncode set b :=
  List.flatMap_append

/-! ## Decoding -/

theorem hexValue?_hexDigit {n : Nat} (h : n < 16) : hexValue? (hexDigit n) = some n := by
  have hall : ∀ n < 16, hexValue? (hexDigit n) = some n := by decide
  exact hall n h

theorem percentDecode_percentByte (byte : UInt8) (rest : List Char) :
    percentDecode (percentByte byte ++ rest) = byte :: percentDecode rest := by
  have hbyte : byte.toNat < 256 := byte.toNat_lt
  have hhigh : hexValue? (hexDigit (byte.toNat / 16)) = some (byte.toNat / 16) :=
    hexValue?_hexDigit (by omega)
  have hlow : hexValue? (hexDigit (byte.toNat % 16)) = some (byte.toNat % 16) :=
    hexValue?_hexDigit (by omega)
  have hsum : byte.toNat / 16 * 16 + byte.toNat % 16 = byte.toNat := by omega
  show percentDecode ('%' :: hexDigit (byte.toNat / 16) :: hexDigit (byte.toNat % 16) :: rest) = _
  simp only [percentDecode, hhigh, hlow, hsum, UInt8.ofNat_toNat]

theorem percentDecode_percentBytes (bytes : List UInt8) (rest : List Char) :
    percentDecode (bytes.flatMap percentByte ++ rest) = bytes ++ percentDecode rest := by
  induction bytes with
  | nil => rfl
  | cons byte bytes ih =>
    rw [List.flatMap_cons, List.append_assoc, percentDecode_percentByte, ih, List.cons_append]

theorem percentDecode_cons {c : Char} (h : c ≠ '%') (rest : List Char) :
    percentDecode (c :: rest) = String.utf8EncodeChar c ++ percentDecode rest := by
  rw [percentDecode]
  intro a b rest' heq
  exact absurd heq h

theorem percentDecode_percentChar {set : EncodeSet} (hset : set '%' = true) (c : Char)
    (rest : List Char) :
    percentDecode (percentChar set c ++ rest) = String.utf8EncodeChar c ++ percentDecode rest := by
  unfold percentChar
  split
  · rename_i hplain
    have hc : c ≠ '%' := by
      rintro rfl
      simp [hset] at hplain
    exact percentDecode_cons hc rest
  · exact percentDecode_percentBytes _ rest

/-- **Decoding gives the bytes of the text.** -/
theorem percentDecode_percentEncode {set : EncodeSet} (hset : set '%' = true) (text : List Char) :
    percentDecode (percentEncode set text) = text.flatMap String.utf8EncodeChar := by
  induction text with
  | nil => rfl
  | cons c rest ih =>
    rw [percentEncode, List.flatMap_cons, percentDecode_percentChar hset, List.flatMap_cons]
    rw [percentEncode] at ih
    rw [ih]

theorem utf8Encode_injective {a b : List Char}
    (h : a.flatMap String.utf8EncodeChar = b.flatMap String.utf8EncodeChar) : a = b := by
  have hbytes : (String.ofList a).toByteArray = (String.ofList b).toByteArray := by
    rw [String.toByteArray_ofList, String.toByteArray_ofList]
    exact congrArg List.toByteArray h
  have htext := congrArg String.toList (String.toByteArray_inj.mp hbytes)
  rwa [String.toList_ofList, String.toList_ofList] at htext

theorem percentEncode_injective {set : EncodeSet} (hset : set '%' = true) {a b : List Char}
    (h : percentEncode set a = percentEncode set b) : a = b := by
  have hdecoded := congrArg percentDecode h
  rw [percentDecode_percentEncode hset, percentDecode_percentEncode hset] at hdecoded
  exact utf8Encode_injective hdecoded

/-! ## What an encoded text holds -/

theorem EncodeSet.including_eq_false_iff {set : EncodeSet} {more : String} {c : Char} :
    set.including more c = false ↔ set c = false ∧ c ∉ more.toList := by
  rw [EncodeSet.including, Bool.or_eq_false_iff, List.contains_eq_mem, decide_eq_false_iff_not]

def codeChars : List Char := "%0123456789ABCDEF".toList

theorem hexDigit_mem_codeChars {n : Nat} (h : n < 16) : hexDigit n ∈ codeChars := by
  have hall : ∀ n < 16, hexDigit n ∈ codeChars := by decide
  exact hall n h

theorem mem_codeChars_of_mem_percentByte {byte : UInt8} {c : Char} (h : c ∈ percentByte byte) :
    c ∈ codeChars := by
  have hbyte : byte.toNat < 256 := byte.toNat_lt
  simp only [percentByte, List.mem_cons, List.not_mem_nil, or_false] at h
  rcases h with rfl | rfl | rfl
  · decide
  · exact hexDigit_mem_codeChars (by omega)
  · exact hexDigit_mem_codeChars (by omega)

theorem mem_percentEncode {set : EncodeSet} {text : List Char} {c : Char}
    (h : c ∈ percentEncode set text) :
    (c ∈ text ∧ c.toNat < 0x80 ∧ set c = false) ∨ c ∈ codeChars := by
  obtain ⟨source, hsource, hmem⟩ := List.mem_flatMap.mp h
  unfold percentChar at hmem
  split at hmem
  · rename_i hplain
    rw [← List.mem_singleton.mp hmem] at hplain hsource
    simp only [Bool.and_eq_true, decide_eq_true_eq, Bool.not_eq_true'] at hplain
    exact Or.inl ⟨hsource, hplain⟩
  · obtain ⟨byte, -, hbyte⟩ := List.mem_flatMap.mp hmem
    exact Or.inr (mem_codeChars_of_mem_percentByte hbyte)

theorem point_not_mem_percentEncode {set : EncodeSet} (hset : set '.' = true) (text : List Char) :
    '.' ∉ percentEncode set text := by
  intro h
  rcases mem_percentEncode h with ⟨-, -, hplain⟩ | hcode
  · rw [hset] at hplain
    cases hplain
  · exact absurd hcode (by decide)

theorem percentEncode_eq_self {set : EncodeSet} {text : List Char}
    (h : ∀ c ∈ text, c.toNat < 0x80 ∧ set c = false) : percentEncode set text = text := by
  induction text with
  | nil => rfl
  | cons c rest ih =>
    obtain ⟨hc, hrest⟩ := List.forall_mem_cons.mp h
    have hchar : percentChar set c = [c] := by simp [percentChar, hc.1, hc.2]
    have htail : rest.flatMap (percentChar set) = rest := ih hrest
    rw [percentEncode, List.flatMap_cons, hchar, htail, List.singleton_append]

end Palimpsest.Url
