import Palimpsest.Proofs.Text.Parts
import Palimpsest.Version

/-!
# Versions under a generation

A generation is put behind the token of a version, and from the outside a token that was qualified
looks like any other. Two versions that were both qualified are told apart all the same; only one
that was qualified and one that was not can be mistaken for each other, and these are never made of
the same token.

1. `withGeneration_inj`: the last plus sign of a qualified token is the one before its generation.
2. `withGeneration_eq_iff`: when two versions under any generations are the same.
3. `generations_keep_apart`: a version and its generation are determined by what they give, and under
   all its generations a version is never the same twice.
-/

namespace Palimpsest.Version

@[simp]
theorem withGeneration_zero (v : Version) : v.withGeneration 0 = v := rfl

theorem chars_withGeneration (v : Version) {generation : Nat} (h : generation ≠ 0) :
    (v.withGeneration generation).token.toList =
      v.token.toList ++ '+' :: 'g' :: generation.repr.toList := by
  rw [withGeneration, if_neg h]
  simp

theorem withGeneration_inj {v w : Version} {g h : Nat} (hg : g ≠ 0) (hh : h ≠ 0)
    (heq : v.withGeneration g = w.withGeneration h) : v = w ∧ g = h := by
  have hchars : v.token.toList ++ '+' :: 'g' :: g.repr.toList =
      w.token.toList ++ '+' :: 'g' :: h.repr.toList := by
    rw [← chars_withGeneration v hg, ← chars_withGeneration w hh, heq]
  have hplain : ∀ n : Nat, '+' ∉ 'g' :: n.repr.toList := by
    intro n hmem
    rcases List.mem_cons.mp hmem with hletter | hdigit
    · exact absurd hletter (by decide)
    · exact Text.not_mem_repr (by decide) n hdigit
  obtain ⟨htoken, hback⟩ := Text.eq_of_last_mark hchars (hplain g) (hplain h)
  have hversion : v = w := congrArg Version.mk (String.toList_inj.mp htoken)
  exact ⟨hversion, Text.repr_injective (List.cons.inj hback).2⟩

/-- **When two versions under a generation are the same**: they are the same and so are the
generations, or one of them is not qualified and its token is spelled like that of the other. -/
theorem withGeneration_eq_iff {v w : Version} {g h : Nat} :
    v.withGeneration g = w.withGeneration h ↔
      v = w ∧ g = h ∨ g = 0 ∧ h ≠ 0 ∧ v = w.withGeneration h ∨
        h = 0 ∧ g ≠ 0 ∧ w = v.withGeneration g := by
  constructor
  · intro heq
    by_cases hg : g = 0
    · by_cases hh : h = 0
      · subst hg hh
        exact Or.inl ⟨heq, rfl⟩
      · subst hg
        exact Or.inr (Or.inl ⟨rfl, hh, heq⟩)
    · by_cases hh : h = 0
      · subst hh
        exact Or.inr (Or.inr ⟨rfl, hg, heq.symm⟩)
      · exact Or.inl (withGeneration_inj hg hh heq)
  · rintro (⟨rfl, rfl⟩ | ⟨rfl, -, heq⟩ | ⟨rfl, -, heq⟩)
    · rfl
    · exact heq
    · exact heq.symm

theorem withGeneration_ne_self (v : Version) {g : Nat} (hg : g ≠ 0) : v.withGeneration g ≠ v := by
  intro heq
  have hchars := chars_withGeneration v hg
  rw [heq] at hchars
  have hlength := congrArg List.length hchars
  rw [List.length_append, List.length_cons] at hlength
  omega

/-- **Versions under a generation never collide.** Whatever the tokens are spelled like, two versions
under generations from the first on are the same only if the versions and the generations are, and
one version is never the same under two generations, not even under none and one. -/
theorem generations_keep_apart :
    (∀ (v w : Version) (g h : Nat), 1 ≤ g → 1 ≤ h →
      (v.withGeneration g = w.withGeneration h ↔ v = w ∧ g = h)) ∧
    ∀ v : Version, Function.Injective v.withGeneration := by
  constructor
  · intro v w g h hg hh
    constructor
    · exact withGeneration_inj (Nat.ne_of_gt hg) (Nat.ne_of_gt hh)
    · rintro ⟨rfl, rfl⟩
      rfl
  · intro v g h heq
    rcases withGeneration_eq_iff.mp heq with ⟨-, hgen⟩ | ⟨-, hne, hself⟩ | ⟨-, hne, hself⟩
    · exact hgen
    · exact absurd hself.symm (withGeneration_ne_self v hne)
    · exact absurd hself.symm (withGeneration_ne_self v hne)

/-- A token that ends like a qualified one, under the second generation: it is neither the bare token
under the twelfth nor itself under any other. -/
theorem spelledToken_kept_apart :
    (1 ≤ 2 ∧ 1 ≤ 12 ∧
      (⟨"3+g1"⟩ : Version).withGeneration 2 ≠ (⟨"3"⟩ : Version).withGeneration 12) ∧
    ∀ g, (⟨"3+g1"⟩ : Version).withGeneration g = ⟨"3+g1+g2"⟩ → g = 2 := by
  obtain ⟨hboth, hsingle⟩ := generations_keep_apart
  refine ⟨⟨by decide, by decide, ?_⟩, ?_⟩
  · intro heq
    exact absurd ((hboth _ _ 2 12 (by decide) (by decide)).mp heq).2 (by decide)
  · intro g hg
    exact hsingle ⟨"3+g1"⟩ (hg.trans (by decide))

end Palimpsest.Version
