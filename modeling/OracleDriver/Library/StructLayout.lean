import Mathlib.Data.Nat.Basic
import Mathlib.Tactic.Ring

/-! Structures in memory: members at multiples of their alignment, one after the other. -/

namespace StructLayout

def roundUp (n a : ℕ) : ℕ := (n + (a - 1)) / a * a

section RoundUp

variable {n m a b : ℕ}

lemma dvd_roundUp (n a : ℕ) : a ∣ roundUp n a := Nat.dvd_mul_left a _

lemma le_roundUp (ha : 0 < a) (n : ℕ) : n ≤ roundUp n a := by
  have hdiv := Nat.div_add_mod (n + (a - 1)) a
  have hmod := Nat.mod_lt (n + (a - 1)) ha
  rw [Nat.mul_comm] at hdiv
  rw [roundUp]
  omega

lemma roundUp_lt (ha : 0 < a) (n : ℕ) : roundUp n a < n + a := by
  have hdiv := Nat.div_add_mod (n + (a - 1)) a
  rw [Nat.mul_comm] at hdiv
  rw [roundUp]
  omega

lemma roundUp_of_dvd (ha : 0 < a) (h : a ∣ n) : roundUp n a = n := by
  obtain ⟨k, rfl⟩ := h
  rw [roundUp, Nat.mul_add_div ha, Nat.div_eq_of_lt (by omega), Nat.add_zero, Nat.mul_comm]

lemma roundUp_eq_iff (ha : 0 < a) : roundUp n a = n ↔ a ∣ n := by
  constructor
  · intro h
    rw [← h]
    exact dvd_roundUp n a
  · exact roundUp_of_dvd ha

lemma roundUp_add (ha : 0 < a) (h : a ∣ m) (n : ℕ) : roundUp (m + n) a = m + roundUp n a := by
  obtain ⟨k, rfl⟩ := h
  rw [roundUp, roundUp, Nat.add_assoc, Nat.mul_add_div ha, Nat.add_mul, Nat.mul_comm k a]

-- the least multiple that is not smaller
lemma roundUp_le (ha : 0 < a) (h : a ∣ m) (hn : n ≤ m) : roundUp n a ≤ m := by
  obtain ⟨k, rfl⟩ := h
  obtain ⟨q, hq⟩ := dvd_roundUp n a
  have hlt := roundUp_lt ha n
  rw [hq] at hlt ⊢
  have hqk : q < k + 1 := by
    apply Nat.lt_of_mul_lt_mul_left (a := a)
    rw [Nat.mul_add, Nat.mul_one]
    omega
  exact Nat.mul_le_mul_left a (by omega)

lemma roundUp_roundUp (ha : 0 < a) (hb : 0 < b) (hab : a ∣ b) (n : ℕ) :
    roundUp (roundUp n a) b = roundUp n b := by
  apply Nat.le_antisymm
  · exact roundUp_le hb (dvd_roundUp n b) (roundUp_le ha (hab.trans (dvd_roundUp n b)) (le_roundUp hb n))
  · exact roundUp_le hb (dvd_roundUp _ b) ((le_roundUp ha n).trans (le_roundUp hb _))

-- rounding up twice changes nothing where neither does
lemma roundUp_roundUp_eq_iff (ha : 0 < a) (hb : 0 < b) :
    roundUp (roundUp n a) b = n ↔ a ∣ n ∧ b ∣ n := by
  constructor
  · intro h
    have ha' := le_roundUp ha n
    have hb' := le_roundUp hb (roundUp n a)
    have heq : roundUp n a = n := by omega
    rw [heq] at h
    exact ⟨(roundUp_eq_iff ha).mp heq, (roundUp_eq_iff hb).mp h⟩
  · rintro ⟨hadvd, hbdvd⟩
    rw [roundUp_of_dvd ha hadvd, roundUp_of_dvd hb hbdvd]

end RoundUp

structure Member where
  size : ℕ
  align : ℕ

-- the offsets of members that come after `n` bytes
def offsets : ℕ → List Member → List ℕ
  | _, [] => []
  | n, m :: ms => roundUp n m.align :: offsets (roundUp n m.align + m.size) ms

lemma offsets_length (n : ℕ) (ms : List Member) : (offsets n ms).length = ms.length := by
  induction ms generalizing n with
  | nil => rfl
  | cons m ms ih => rw [offsets, List.length_cons, List.length_cons, ih]

-- the bytes up to the end of the last member
def extent : ℕ → List Member → ℕ
  | n, [] => n
  | n, m :: ms => extent (roundUp n m.align + m.size) ms

-- the alignment of a structure is that of its member with the largest one
def align : List Member → ℕ
  | [] => 1
  | m :: ms => max m.align (align ms)

-- a structure is as large as its multiple in an array
def size (ms : List Member) : ℕ := roundUp (extent 0 ms) (align ms)

end StructLayout
