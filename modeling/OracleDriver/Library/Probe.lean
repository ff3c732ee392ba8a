import Mathlib.Data.List.Nodup
import Mathlib.Data.Finset.Card
import Mathlib.Order.Interval.Finset.Nat

/-! Probing numbers upwards until one is free. -/

namespace Probe

-- the first free number from `n` on among the next `fuel`, or the one after them
def probe (free : ℕ → Bool) : ℕ → ℕ → ℕ
  | 0, n => n
  | fuel + 1, n => if free n then n else probe free fuel (n + 1)

variable {free : ℕ → Bool}

lemma le_probe (fuel n : ℕ) : n ≤ probe free fuel n := by
  induction fuel generalizing n with
  | zero => exact le_rfl
  | succ fuel ih =>
    simp only [probe]
    split
    · exact le_rfl
    · exact (Nat.le_succ n).trans (ih (n + 1))

lemma not_free_of_lt_probe {fuel n m : ℕ} (hn : n ≤ m) (hm : m < probe free fuel n) :
    free m = false := by
  induction fuel generalizing n with
  | zero =>
    simp only [probe] at hm
    omega
  | succ fuel ih =>
    simp only [probe] at hm
    split at hm
    · omega
    · rename_i hf
      rcases Nat.eq_or_lt_of_le hn with rfl | hlt
      · simpa using hf
      · exact ih hlt hm

lemma free_probe_or_eq (free : ℕ → Bool) (fuel n : ℕ) :
    free (probe free fuel n) = true ∨ probe free fuel n = n + fuel := by
  induction fuel generalizing n with
  | zero => exact Or.inr rfl
  | succ fuel ih =>
    simp only [probe]
    split
    · exact Or.inl ‹_›
    · rcases ih (n + 1) with hf | he
      · exact Or.inl hf
      · exact Or.inr (by omega)

-- every number that is not free stands for another one of finitely many things
lemma free_probe {α : Type*} [DecidableEq α] {f : ℕ → α} (hf : Function.Injective f) (free : ℕ → Bool)
    (taken : List α) (ht : ∀ m, free m = false → f m ∈ taken) (n : ℕ) :
    free (probe free taken.length n) = true := by
  rcases free_probe_or_eq free taken.length n with h | h
  · exact h
  · by_contra hn
    have hall : ∀ m ∈ Finset.Icc n (n + taken.length), f m ∈ taken.toFinset := by
      intro m hm
      obtain ⟨h₁, h₂⟩ := Finset.mem_Icc.mp hm
      rw [List.mem_toFinset]
      apply ht
      rcases Nat.eq_or_lt_of_le h₂ with rfl | hlt
      · rw [← h]
        simpa using hn
      · exact not_free_of_lt_probe h₁ (h ▸ hlt)
    have hcard := Finset.card_le_card_of_injOn f hall hf.injOn
    have hle := taken.toFinset_card_le
    simp only [Nat.card_Icc] at hcard
    omega

lemma probe_eq {fuel n m : ℕ} (hn : n ≤ m) (hm : free m = true)
    (hlt : ∀ k, n ≤ k → k < m → free k = false)
    (hfuel : m ≤ n + fuel) : probe free fuel n = m := by
  rcases lt_trichotomy (probe free fuel n) m with h | h | h
  · rcases free_probe_or_eq free fuel n with hf | he
    · rw [hlt _ (le_probe fuel n) h] at hf
      cases hf
    · omega
  · exact h
  · rw [not_free_of_lt_probe hn h] at hm
    cases hm

-- two tests that agree find the same number, if both searches end
lemma probe_congr {free' : ℕ → Bool} {fuel fuel' n : ℕ} (h : ∀ m, free m = free' m)
    (hf : free (probe free fuel n) = true) (hf' : free' (probe free' fuel' n) = true) :
    probe free fuel n = probe free' fuel' n := by
  rcases lt_trichotomy (probe free fuel n) (probe free' fuel' n) with hlt | he | hlt
  · rw [h, not_free_of_lt_probe (le_probe fuel n) hlt] at hf
    cases hf
  · exact he
  · rw [← h, not_free_of_lt_probe (le_probe fuel' n) hlt] at hf'
    cases hf'

end Probe
