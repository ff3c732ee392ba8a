import Mathlib.Data.Nat.Basic

/-! Loops given by a step function and a halting test, run for a bounded number of steps. -/

namespace OracleDriver.FuelRun

variable {σ : Type*} (halted : σ → Bool) (step : σ → σ)

def run : ℕ → σ → σ
  | 0, s => s
  | n + 1, s => if halted s then s else run n (step s)

def Ends (s t : σ) : Prop := ∃ n, run halted step n s = t ∧ halted t = true

variable {halted step}

lemma run_halted {s : σ} (h : halted s = true) (n : ℕ) : run halted step n s = s := by
  cases n with
  | zero => rfl
  | succ n => simp only [run, h, if_true]

lemma run_add (m n : ℕ) (s : σ) :
    run halted step (m + n) s = run halted step n (run halted step m s) := by
  induction m generalizing s with
  | zero => simp only [Nat.zero_add, run]
  | succ m ih =>
    rw [Nat.succ_add]
    by_cases h : halted s = true
    · simp only [run, h, if_true, run_halted h]
    · simp only [run, h, Bool.false_eq_true, if_false, ih]

lemma ends_refl {s : σ} (h : halted s = true) : Ends halted step s s := ⟨0, rfl, h⟩

lemma ends_step {s t : σ} (h : halted s = false) (ht : Ends halted step (step s) t) :
    Ends halted step s t := by
  obtain ⟨n, hn, hh⟩ := ht
  refine ⟨n + 1, ?_, hh⟩
  simpa only [run, h, Bool.false_eq_true, if_false] using hn

lemma ends_unique {s t u : σ} (ht : Ends halted step s t) (hu : Ends halted step s u) : t = u := by
  obtain ⟨m, rfl, hm⟩ := ht
  obtain ⟨n, rfl, hn⟩ := hu
  rcases Nat.le_total m n with h | h
  · obtain ⟨k, rfl⟩ := Nat.exists_eq_add_of_le h
    rw [run_add, run_halted hm]
  · obtain ⟨k, rfl⟩ := Nat.exists_eq_add_of_le h
    rw [run_add, run_halted hn]

lemma run_ends_of_measure (μ : σ → ℕ)
    (h : ∀ s, halted s = false → halted (step s) = true ∨ μ (step s) < μ s) (n : ℕ) (s : σ)
    (hn : μ s < n) :
    halted (run halted step n s) = true := by
  induction n generalizing s with
  | zero => omega
  | succ n ih =>
    by_cases hs : halted s = true
    · simp only [run, hs, if_true]
    · simp only [run, hs, Bool.false_eq_true, if_false]
      rcases h s (by simpa only [Bool.not_eq_true] using hs) with hh | hh
      · rw [run_halted hh]
        exact hh
      · exact ih _ (by omega)

lemma run_invariant {P : σ → Prop} (h : ∀ s, halted s = false → P s → P (step s)) (n : ℕ) (s : σ)
    (hs : P s) :
    P (run halted step n s) := by
  induction n generalizing s with
  | zero => exact hs
  | succ n ih =>
    by_cases hh : halted s = true
    · simpa only [run, hh, if_true] using hs
    · simp only [run, hh, Bool.false_eq_true, if_false]
      exact ih _ (h s (by simpa only [Bool.not_eq_true] using hh) hs)

end OracleDriver.FuelRun
