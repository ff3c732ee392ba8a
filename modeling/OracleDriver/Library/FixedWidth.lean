import Mathlib.Data.Int.Basic
import Mathlib.Tactic.Ring

/-! Computations with signed words of a fixed width. A result that does not fit is reduced modulo
the power of two, and it is noted that it did not fit; a division by zero stops the computation. -/

namespace FixedWidth

def Fits (w : ℕ) (z : ℤ) : Prop := -2 ^ (w - 1) ≤ z ∧ z < 2 ^ (w - 1)

instance (w : ℕ) (z : ℤ) : Decidable (Fits w z) :=
  inferInstanceAs (Decidable (-2 ^ (w - 1) ≤ z ∧ z < 2 ^ (w - 1)))

def wrap (w : ℕ) (z : ℤ) : ℤ := z.bmod (2 ^ w)

structure Calc (α : Type) where
  val : Option α
  wrapped : Bool

namespace Calc

variable {α β : Type}

instance : Monad Calc where
  pure a := ⟨some a, false⟩
  bind m f :=
    match m.val with
    | none => ⟨none, m.wrapped⟩
    | some a => ⟨(f a).val, m.wrapped || (f a).wrapped⟩

-- the result of a computation in which everything fits and no division is by zero
def exact (m : Calc α) : Option α := if m.wrapped then none else m.val

@[simp] lemma exact_pure (a : α) : (pure a : Calc α).exact = some a := rfl

@[simp] lemma exact_bind (m : Calc α) (f : α → Calc β) :
    (m >>= f).exact = m.exact.bind fun a => (f a).exact := by
  obtain ⟨val, wrapped⟩ := m
  cases val <;> cases wrapped <;> rfl

@[simp] lemma exact_ite (c : Prop) [Decidable c] (m n : Calc α) :
    (if c then m else n).exact = if c then m.exact else n.exact := by
  split <;> rfl

end Calc

section Operations

variable (w : ℕ) (a b : ℤ)

def int (z : ℤ) : Calc ℤ := ⟨some (wrap w z), !decide (Fits w z)⟩

def add : Calc ℤ := int w (a + b)

def mul : Calc ℤ := int w (a * b)

def neg : Calc ℤ := int w (-a)

def div : Calc ℤ := if b = 0 then ⟨none, false⟩ else int w (a.tdiv b)

def rem : Calc ℤ := if b = 0 then ⟨none, false⟩ else ⟨some (a.tmod b), !decide (Fits w (a.tdiv b))⟩

variable {w a b}

lemma wrap_of_fits {z : ℤ} (hw : 0 < w) (hz : Fits w z) : wrap w z = z := by
  obtain ⟨k, rfl⟩ : ∃ k, w = k + 1 := ⟨w - 1, by omega⟩
  obtain ⟨hlo, hhi⟩ := hz
  rw [Nat.add_sub_cancel] at hlo hhi
  have hpow : ((2 ^ (k + 1) : ℕ) : ℤ) = 2 * 2 ^ k := by
    push_cast
    ring
  apply Int.bmod_eq_of_le
  · rw [hpow]
    omega
  · rw [hpow]
    omega

lemma exact_int {z : ℤ} (hw : 0 < w) : (int w z).exact = if Fits w z then some z else none := by
  by_cases hz : Fits w z
  · simp [Calc.exact, int, hz, wrap_of_fits hw hz]
  · simp [Calc.exact, int, hz]

lemma exact_mul (hw : 0 < w) : (mul w a b).exact = if Fits w (a * b) then some (a * b) else none :=
  exact_int hw

lemma exact_add (hw : 0 < w) : (add w a b).exact = if Fits w (a + b) then some (a + b) else none :=
  exact_int hw

lemma exact_neg (hw : 0 < w) : (neg w a).exact = if Fits w (-a) then some (-a) else none := exact_int hw

lemma exact_div (hw : 0 < w) (hb : b ≠ 0) (hf : Fits w (a.tdiv b)) :
    (div w a b).exact = some (a.tdiv b) := by
  rw [div, if_neg hb, exact_int hw, if_pos hf]

lemma exact_rem (hb : b ≠ 0) (hf : Fits w (a.tdiv b)) : (rem w a b).exact = some (a.tmod b) := by
  simp [rem, hb, Calc.exact, hf]

lemma Fits.tdiv (ha : Fits w a) (hb : 0 < b) : Fits w (a.tdiv b) := by
  obtain ⟨hlo, hhi⟩ := ha
  have habs : (a.tdiv b).natAbs ≤ a.natAbs := by
    rw [Int.natAbs_tdiv]
    exact Nat.div_le_self _ _
  have hpow : (0 : ℤ) < 2 ^ (w - 1) := Int.pow_pos (by omega)
  rcases lt_or_ge a 0 with hneg | hpos
  · have hq : 0 ≤ (-a).tdiv b := Int.tdiv_nonneg (by omega) hb.le
    rw [Int.neg_tdiv] at hq
    constructor <;> omega
  · have hq : 0 ≤ a.tdiv b := Int.tdiv_nonneg hpos hb.le
    constructor <;> omega

lemma fits_of_natAbs_lt {z : ℤ} (hz : z.natAbs < 2 ^ (w - 1)) : Fits w z := by
  have hlt : (z.natAbs : ℤ) < 2 ^ (w - 1) := by exact_mod_cast hz
  constructor <;> omega

end Operations

end FixedWidth
