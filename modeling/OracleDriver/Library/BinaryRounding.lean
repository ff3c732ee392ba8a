import Mathlib.Algebra.Order.Round
import Mathlib.Data.Int.Log
import Mathlib.Data.Rat.Floor
import Mathlib.Tactic.FieldSimp
import Mathlib.Tactic.Linarith
import Mathlib.Tactic.Ring

/-! Rational numbers with a binary mantissa of bounded length, and the rounding to the nearest. -/

namespace BinaryRounding

-- numbers with a mantissa of `p` bits
def Representable (p : ℕ) (q : ℚ) : Prop := ∃ m e : ℤ, |m| < 2 ^ p ∧ q = m * 2 ^ e

-- `r` is as near to `q` as a mantissa of `p` bits allows
structure Nearest (p : ℕ) (q r : ℚ) : Prop where
  representable : Representable p r
  le : ∀ s, Representable p s → |q - r| ≤ |q - s|

variable {p : ℕ} {q r s : ℚ}

lemma Nearest.eq_iff (h : Nearest p q r) : r = q ↔ Representable p q := by
  constructor
  · rintro rfl
    exact h.representable
  · intro hq
    have hle := h.le q hq
    rw [sub_self, abs_zero] at hle
    exact (sub_eq_zero.mp (abs_eq_zero.mp (le_antisymm hle (abs_nonneg _)))).symm

-- the place of the last bit of the mantissa
def lastPlace (p : ℕ) (q : ℚ) : ℤ := Int.log 2 |q| + 1 - p

def roundTo (p : ℕ) (q : ℚ) : ℚ := round (q / 2 ^ lastPlace p q) * 2 ^ lastPlace p q

lemma two_zpow_pos (e : ℤ) : (0 : ℚ) < 2 ^ e := zpow_pos (by norm_num) e

-- the mantissa of a number that is not zero has `p` bits before the point
lemma mantissa_bounds (hp : 0 < p) (hq : q ≠ 0) :
    2 ^ (p - 1) ≤ |q / 2 ^ lastPlace p q| ∧ |q / 2 ^ lastPlace p q| < 2 ^ p := by
  have hpos := two_zpow_pos (lastPlace p q)
  have hlo := Int.zpow_log_le_self (b := 2) (r := |q|) (by omega) (abs_pos.mpr hq)
  have hhi := Int.lt_zpow_succ_log_self (b := 2) (by omega) |q|
  rw [Nat.cast_ofNat] at hlo hhi
  have hsplit (k : ℕ) : (2 : ℚ) ^ k * 2 ^ lastPlace p q = 2 ^ (Int.log 2 |q| + 1 - p + k) := by
    rw [← zpow_natCast, ← zpow_add₀ (by norm_num), add_comm, lastPlace]
  rw [abs_div, abs_of_pos hpos, le_div_iff₀ hpos, div_lt_iff₀ hpos, hsplit, hsplit]
  constructor
  · rwa [show Int.log 2 |q| + 1 - p + ((p - 1 : ℕ) : ℤ) = Int.log 2 |q| by omega]
  · rwa [show Int.log 2 |q| + 1 - p + (p : ℤ) = Int.log 2 |q| + 1 by omega]

lemma representable_of_le (hp : 0 < p) {m : ℤ} (hm : |m| ≤ 2 ^ p) (e : ℤ) :
    Representable p (m * 2 ^ e) := by
  rcases lt_or_eq_of_le hm with hlt | heq
  · exact ⟨m, e, hlt, rfl⟩
  · obtain ⟨k, rfl⟩ : ∃ k, p = k + 1 := ⟨p - 1, by omega⟩
    have hhalf : (2 : ℤ) ^ k < 2 ^ (k + 1) := by
      rw [pow_succ]
      have hk : (0 : ℤ) < 2 ^ k := by positivity
      omega
    have hcast : (2 : ℚ) ^ (k + 1) * 2 ^ e = 2 ^ k * 2 ^ (e + 1) := by
      rw [zpow_add_one₀ (by norm_num), pow_succ]
      ring
    rcases abs_eq (by positivity) |>.mp heq with hm | hm
    · refine ⟨2 ^ k, e + 1, by rwa [abs_of_pos (by positivity)], ?_⟩
      rw [hm]
      push_cast
      exact hcast
    · refine ⟨-2 ^ k, e + 1, by rwa [abs_neg, abs_of_pos (by positivity)], ?_⟩
      rw [hm]
      push_cast
      rw [neg_mul, neg_mul, hcast]

lemma abs_round_le {x : ℚ} {n : ℤ} (hx : |x| < n) : |round x| ≤ n := by
  obtain ⟨hlo, hhi⟩ := abs_lt.mp hx
  rw [round_eq, abs_le]
  constructor
  · rw [Int.le_floor, Int.cast_neg]
    linarith
  · apply Int.le_of_lt_add_one
    rw [Int.floor_lt, Int.cast_add, Int.cast_one]
    linarith

-- a number whose last bit is further right is not larger than the smallest mantissa of `p` bits
lemma abs_le_of_place {m f e : ℤ} (hm : |m| < 2 ^ p) (hf : f < e) (hp : 0 < p) :
    |(m : ℚ) * 2 ^ f / 2 ^ e| ≤ 2 ^ (p - 1) := by
  have hpos := two_zpow_pos f
  have hm' : |(m : ℚ)| ≤ 2 ^ p := by exact_mod_cast hm.le
  have hplace : (2 : ℚ) ^ (p - 1) * 2 ^ e = 2 ^ p * 2 ^ (e - 1) := by
    obtain ⟨k, rfl⟩ : ∃ k, p = k + 1 := ⟨p - 1, by omega⟩
    rw [Nat.add_sub_cancel, zpow_sub_one₀ (by norm_num), pow_succ]
    ring
  have hexp : (2 : ℚ) ^ f ≤ 2 ^ (e - 1) := zpow_le_zpow_right₀ (by norm_num) (by omega)
  rw [abs_div, abs_mul, abs_of_pos hpos, abs_of_pos (two_zpow_pos e), div_le_iff₀ (two_zpow_pos e),
    hplace]
  exact mul_le_mul hm' hexp hpos.le (by positivity)

lemma round_le_of_bound {x y : ℚ} {n : ℤ} (hx : n ≤ |x|) (hy : |y| ≤ n) : |x - round x| ≤ |x - y| := by
  have hsub := abs_sub_abs_le_abs_sub x y
  rcases abs_cases x with ⟨hx', -⟩ | ⟨hx', -⟩
  · have h := round_le x n
    rw [abs_of_nonneg (a := x - n) (by linarith)] at h
    linarith
  · have h := round_le x (-n)
    rw [Int.cast_neg, abs_of_nonpos (a := x - -(n : ℚ)) (by linarith)] at h
    linarith

lemma roundTo_nearest (hp : 0 < p) (q : ℚ) : Nearest p q (roundTo p q) := by
  by_cases hq : q = 0
  · subst hq
    have hzero : roundTo p 0 = 0 := by simp [roundTo]
    rw [hzero]
    exact ⟨⟨0, 0, by positivity, by simp⟩, fun s _ => by rw [sub_self, abs_zero]; exact abs_nonneg _⟩
  obtain ⟨hlo, hhi⟩ := mantissa_bounds hp hq
  let e := lastPlace p q
  have hpos := two_zpow_pos e
  have hscale (r : ℚ) : |q - r| = |q / 2 ^ e - r / 2 ^ e| * 2 ^ e := by
    rw [← sub_div, abs_div, abs_of_pos hpos, div_mul_cancel₀ _ hpos.ne']
  have hround : roundTo p q / 2 ^ e = round (q / 2 ^ e) := mul_div_cancel_right₀ _ hpos.ne'
  constructor
  · exact representable_of_le hp (abs_round_le (by exact_mod_cast hhi)) _
  · rintro s ⟨m, f, hm, rfl⟩
    rw [hscale, hscale (m * 2 ^ f), hround]
    apply mul_le_mul_of_nonneg_right _ hpos.le
    by_cases hf : e ≤ f
    · obtain ⟨k, hk⟩ := Int.eq_ofNat_of_zero_le (sub_nonneg.mpr hf)
      have hint : (m : ℚ) * 2 ^ f / 2 ^ e = (m * 2 ^ k : ℤ) := by
        rw [mul_div_assoc, ← zpow_sub₀ (by norm_num), hk]
        push_cast
        rfl
      rw [hint]
      exact round_le _ _
    · apply round_le_of_bound (n := 2 ^ (p - 1))
      · exact_mod_cast hlo
      · exact_mod_cast abs_le_of_place hm (not_le.mp hf) hp

end BinaryRounding
