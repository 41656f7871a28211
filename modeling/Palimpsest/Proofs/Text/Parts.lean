/-!
# Texts that can be taken apart again

1. `eq_of_last_mark`, `eq_of_first_mark`: what stands before and behind the last mark of a text is
   determined, and so is what stands before and behind the first.
2. `repr_injective`, `not_mem_repr`: a number is determined by its digits, and nothing else is among
   them.
-/

namespace Palimpsest.Text

theorem eq_of_last_mark {mark : Char} {front front' back back' : List Char}
    (h : front ++ mark :: back = front' ++ mark :: back') (hback : mark ∉ back)
    (hback' : mark ∉ back') : front = front' ∧ back = back' := by
  rcases List.append_eq_append_iff.mp h with ⟨middle, hfront, hrest⟩ | ⟨middle, hfront, hrest⟩
  · -- A mark further on would be in the first back.
    cases middle with
    | nil =>
      rw [List.nil_append] at hrest
      exact ⟨by rw [hfront, List.append_nil], (List.cons.inj hrest).2⟩
    | cons c middle =>
      have hmem : mark ∈ back := by
        rw [(List.cons.inj hrest).2]
        simp
      exact absurd hmem hback
  · cases middle with
    | nil =>
      rw [List.nil_append] at hrest
      exact ⟨by rw [hfront, List.append_nil], (List.cons.inj hrest).2.symm⟩
    | cons c middle =>
      have hmem : mark ∈ back' := by
        rw [(List.cons.inj hrest).2]
        simp
      exact absurd hmem hback'

/-- What stands before and behind the first mark is determined: from the end it is the last one. -/
theorem eq_of_first_mark {mark : Char} {front front' back back' : List Char}
    (h : front ++ mark :: back = front' ++ mark :: back') (hfront : mark ∉ front)
    (hfront' : mark ∉ front') : front = front' ∧ back = back' := by
  have hreverse : back.reverse ++ mark :: front.reverse = back'.reverse ++ mark :: front'.reverse := by
    have := congrArg List.reverse h
    simpa using this
  obtain ⟨hback, hfronts⟩ := eq_of_last_mark hreverse (by simpa using hfront) (by simpa using hfront')
  exact ⟨List.reverse_inj.mp hfronts, List.reverse_inj.mp hback⟩

theorem repr_injective {m n : Nat} (h : m.repr.toList = n.repr.toList) : m = n := by
  rw [Nat.toList_repr, Nat.toList_repr] at h
  rw [← Nat.ofDigitChars_ten_toDigits (n := m), h, Nat.ofDigitChars_ten_toDigits]

theorem not_mem_repr {c : Char} (hc : c.isDigit = false) (n : Nat) : c ∉ n.repr.toList := by
  intro hmem
  rw [Nat.toList_repr] at hmem
  rw [Nat.isDigit_of_mem_toDigits (by decide) (by decide) hmem] at hc
  cases hc

end Palimpsest.Text
