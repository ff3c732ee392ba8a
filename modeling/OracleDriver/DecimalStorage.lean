import Mathlib.Algebra.Order.Field.Rat
import Mathlib.Tactic.FieldSimp
import Mathlib.Tactic.Linarith
import OracleDriver.Decimal128

/-! What is stored for the digits of a number, and when the 128-bit arithmetic is exact. -/

namespace OracleDriver

open DecimalText FixedWidth

lemma fits_iff (z : ℤ) : Fits 128 z ↔ -170141183460469231731687303715884105728 ≤ z ∧
    z < 170141183460469231731687303715884105728 := by
  norm_num [Fits]

lemma fits_pow (n : ℕ) : Fits 128 (10 ^ n) ↔ n ≤ 38 := by
  rw [fits_iff]
  constructor
  · intro h
    by_contra hn
    have hle : (10 : ℤ) ^ 39 ≤ 10 ^ n := pow_le_pow_right₀ (by norm_num) (by omega)
    norm_num at hle
    omega
  · intro hn
    have hle : (10 : ℤ) ^ n ≤ 10 ^ 38 := pow_le_pow_right₀ (by norm_num) hn
    have hpos : (0 : ℤ) < 10 ^ n := by positivity
    norm_num at hle
    omega

@[simp] lemma exact_pow10Loop (n : ℕ) : (pow10Loop n).exact = if n ≤ 38 then some (10 ^ n)
    else none := by
  induction n with
  | zero => rfl
  | succ n ih =>
    rw [pow10Loop, Calc.exact_bind, ih]
    by_cases hn : n ≤ 38
    · rw [if_pos hn, Option.bind_some, exact_mul (by omega), ← pow_succ]
      by_cases hlast : n + 1 ≤ 38
      · rw [if_pos ((fits_pow _).mpr hlast), if_pos hlast]
      · rw [if_neg (mt (fits_pow _).mp hlast), if_neg hlast]
    · rw [if_neg hn, Option.bind_none, if_neg (by omega)]

lemma exact_pow10 (e : ℤ) :
    (oracleColumnarDecimalPow10 e).exact = if e ≤ 38 then some (10 ^ e.toNat) else none := by
  rw [oracleColumnarDecimalPow10, exact_pow10Loop]
  simp only [Int.toNat_le, Nat.cast_ofNat]

lemma le_precisionLoop (v rv : ℤ) : rv ≤ precisionLoop v rv := by
  induction v, rv using precisionLoop.induct with
  | case1 v rv hv ih =>
    rw [precisionLoop, if_pos hv]
    omega
  | case2 v rv hv => rw [precisionLoop, if_neg hv]

lemma precisionLoop_le {v : ℤ} (rv : ℤ) (k : ℕ) : precisionLoop v rv ≤ rv + k ↔ v < 10 ^ (k + 1) := by
  induction v, rv using precisionLoop.induct generalizing k with
  | case1 v rv hv ih =>
    rw [precisionLoop, if_pos hv]
    cases k with
    | zero =>
      have hle := le_precisionLoop (v / 10) (rv + 1)
      constructor <;> intro h
      · norm_num at h
        omega
      · norm_num at h
        omega
    | succ k =>
      rw [Nat.cast_succ, show rv + ((k : ℤ) + 1) = rv + 1 + k by ring, ih k, pow_succ _ (k + 1)]
      omega
  | case2 v rv hv =>
    rw [precisionLoop, if_neg hv]
    have hpow : (10 : ℤ) ^ 1 ≤ 10 ^ (k + 1) := pow_le_pow_right₀ (by norm_num) (by omega)
    constructor <;> intro _ <;> omega

lemma exact_abs {v : ℤ} (hv : v.natAbs < 2 ^ 127) : (oracleColumnarDecimalAbs v).exact = some |v| := by
  norm_num at hv
  rw [oracleColumnarDecimalAbs, Calc.exact_ite]
  split
  · rename_i hneg
    rw [exact_neg (by omega), if_pos ((fits_iff _).mpr (by omega)), abs_of_neg hneg]
  · rename_i hpos
    rw [Calc.exact_pure, abs_of_nonneg (by omega)]

lemma storage_value {v : ℤ} (hv : v.natAbs < 2 ^ 127) : (oracleColumnarDecimalStorage v).value = v := by
  norm_num at hv
  simp only [QoreBufferDecimal128.value, oracleColumnarDecimalStorage, Int.bmod]
  norm_num
  omega

section Store

variable {p s : ℤ} {col : String} {input : Text}

-- what is made of a result that fits the 128 bits
def stored (p s : ℤ) (col : String) (input : Text) (v : ℤ) : Except Exn QoreBufferDecimal128 :=
  if |v| < 10 ^ p.toNat then .ok (oracleColumnarDecimalStorage v)
  else .error (valueError p s col input "; value exceeds declared precision")

lemma exact_storeUnscaled (hp : 0 < p) {v : ℤ} (hv : v.natAbs < 2 ^ 127) :
    (storeUnscaled p s col input v).exact = some (stored p s col input v) := by
  obtain ⟨k, rfl⟩ : ∃ k : ℕ, p = 1 + k := ⟨(p - 1).toNat, by omega⟩
  have hk : (1 + (k : ℤ)).toNat = k + 1 := by omega
  rw [storeUnscaled, Calc.exact_bind, oracleColumnarDecimalPrecision, Calc.exact_bind, exact_abs hv]
  simp only [Option.bind_some, Calc.exact_pure, Calc.exact_ite, stored, hk, ← precisionLoop_le 1 k]
  split
  · rename_i hlt
    rw [if_neg (by omega)]
  · rename_i hlt
    rw [if_pos (by omega)]

lemma exact_pushDigits {l : Text} (hl : AllDigits l) (u : ℕ)
    (h : u * 10 ^ l.length + digitsVal l < 2 ^ 127) :
    (l.foldlM pushDigit (u : ℤ)).exact = some ((u * 10 ^ l.length + digitsVal l : ℕ) : ℤ) := by
  induction l generalizing u with
  | nil => simp [digitsVal]
  | cons c l ih =>
    have hval : u * 10 ^ (c :: l).length + digitsVal
        (c :: l) = (u * 10 + digitVal c) * 10 ^ l.length + digitsVal l := by
      rw [digitsVal_cons, List.length_cons, pow_succ]
      ring
    have hle : u * 10 + digitVal c ≤ (u * 10 + digitVal c) * 10 ^ l.length :=
      Nat.le_mul_of_pos_right _ (by positivity)
    rw [hval] at h ⊢
    norm_num at h
    have hmul : Fits 128 ((u : ℤ) * 10) := (fits_iff _).mpr (by omega)
    have hadd : Fits 128 ((u : ℤ) * 10 + digitVal c) := (fits_iff _).mpr (by omega)
    have hpush : (pushDigit u c).exact = some ((u * 10 + digitVal c : ℕ) : ℤ) := by
      rw [pushDigit, Calc.exact_bind, exact_mul (by omega), if_pos hmul, Option.bind_some,
        exact_add (by omega), if_pos hadd]
      rfl
    rw [List.foldlM_cons, Calc.exact_bind, hpush, Option.bind_some, ih hl.tail _ (by norm_num; omega)]

lemma head_dropZeros (l : Text) : (l.dropWhile (· == '0')).head? ≠ some '0' := by
  intro h
  have hne := List.head?_dropWhile_not (· == '0') l
  rw [h] at hne
  cases hne

lemma dropZeros_eq_nil {l : Text} (hl : AllDigits l) :
    l.dropWhile (· == '0') = [] ↔ digitsVal l = 0 := by
  rw [← digitsVal_dropZeros, ← Nat.lt_one_iff, ← pow_zero 10, lt_pow_iff hl.dropZeros (head_dropZeros l),
    Nat.le_zero, List.length_eq_zero_iff]

variable {negative : Bool} {ds : Text} {k : ℤ}

lemma storeDigits_zero (hd : AllDigits ds) (h : digitsVal ds = 0) :
    storeDigits p s col input negative ds k = pure (.ok (oracleColumnarDecimalStorage 0)) := by
  simp [storeDigits, (dropZeros_eq_nil hd).mpr h]

variable (p s col input negative k) in
lemma storeDigits_long (hd : AllDigits ds) (h : 10 ^ 38 ≤ digitsVal ds) :
    ∃ e, storeDigits p s col input negative ds k = pure (.error e) := by
  have hne : ¬ds.dropWhile (· == '0') = [] := by
    rw [dropZeros_eq_nil hd]
    exact Nat.ne_of_gt (lt_of_lt_of_le (by positivity) h)
  have hlen : 38 < (ds.dropWhile (· == '0')).length := by
    by_contra hle
    have hlt := (lt_pow_iff hd.dropZeros (head_dropZeros ds) 38).mpr (by omega)
    rw [digitsVal_dropZeros] at hlt
    omega
  rw [storeDigits, if_neg hne, if_pos hlen]
  exact ⟨_, rfl⟩

def signedValue (negative : Bool) (c : ℕ) : ℤ := if negative then -c else c

lemma exact_storeDigits (hd : AllDigits ds) (hpos : digitsVal ds ≠ 0) (hlt : digitsVal ds < 10 ^ 38) :
    (storeDigits p s col input negative ds k).exact =
      (rescale p s col input (signedValue negative (digitsVal ds)) k).exact := by
  have hne : ¬ds.dropWhile (· == '0') = [] := (dropZeros_eq_nil hd).not.mpr hpos
  have hval : digitsVal (ds.dropWhile (· == '0')) = digitsVal ds := digitsVal_dropZeros ds
  have hlen : ¬38 < (ds.dropWhile (· == '0')).length := by
    rw [not_lt, ← lt_pow_iff hd.dropZeros (head_dropZeros ds), hval]
    exact hlt
  have hfold : ((ds.dropWhile (· == '0')).foldlM pushDigit 0).exact = some (digitsVal ds : ℤ) := by
    have hexact := exact_pushDigits hd.dropZeros 0 (by rw [hval]; omega)
    rwa [hval, Nat.zero_mul, Nat.zero_add] at hexact
  rw [storeDigits, if_neg hne, if_neg hlen, Calc.exact_bind, hfold, Option.bind_some]
  cases negative with
  | false => rfl
  | true =>
    have hneg : Fits 128 (-(digitsVal ds : ℤ)) := (fits_iff _).mpr (by omega)
    rw [if_pos rfl, Calc.exact_bind, exact_neg (by omega), if_pos hneg]
    rfl

variable {v : ℤ}

lemma exact_rescale_same (hp : 0 < p) (hv : v.natAbs < 10 ^ 38) :
    (rescale p s col input v s).exact = some (stored p s col input v) := by
  rw [rescale, if_neg (lt_irrefl s), if_neg (lt_irrefl s)]
  exact exact_storeUnscaled hp (hv.trans (by norm_num))

lemma fits_mul_pow {n : ℕ} (hn : 0 < n) : Fits 128 (v * 10 ^ n) ↔ v.natAbs * 10 ^ n < 2 ^ 127 := by
  obtain ⟨m, rfl⟩ : ∃ m, n = m + 1 := ⟨n - 1, by omega⟩
  have habs : (v * 10 ^ (m + 1)).natAbs = v.natAbs * 10 ^ (m + 1) := by
    rw [Int.natAbs_mul, Int.natAbs_pow]
    rfl
  have hten : ∃ z : ℤ, v * 10 ^ (m + 1) = 10 * z := ⟨v * 10 ^ m, by ring⟩
  obtain ⟨z, hz⟩ := hten
  rw [← habs, hz, fits_iff]
  norm_num
  omega

lemma exact_rescale_up (hp : 0 < p) (hs : s ≤ 38) (hk : 0 ≤ k) (hlt : k < s) :
    (rescale p s col input v k).exact =
      if v.natAbs * 10 ^ (s - k).toNat < 2 ^ 127 then
        some (stored p s col input (v * 10 ^ (s - k).toNat)) else none := by
  have hw : wrap 32 (s - k) = s - k := wrap_of_fits (by omega) (by constructor <;> omega)
  rw [rescale, if_pos hlt, Calc.exact_bind, hw, exact_pow10, if_pos (by omega), Option.bind_some,
    Calc.exact_bind, exact_mul (by omega)]
  by_cases hfit : v.natAbs * 10 ^ (s - k).toNat < 2 ^ 127
  · rw [if_pos ((fits_mul_pow (by omega)).mpr hfit), if_pos hfit, Option.bind_some]
    apply exact_storeUnscaled hp
    rw [Int.natAbs_mul, Int.natAbs_pow]
    exact hfit
  · rw [if_neg (mt (fits_mul_pow (by omega)).mp hfit), if_neg hfit, Option.bind_none]

lemma exact_rescale_inexact (hlt : s < k) (he : ¬wrap 32 (k - s) ≤ 38) :
    (rescale p s col input v k).exact = none := by
  rw [rescale, if_neg (by omega), if_pos hlt, Calc.exact_bind, exact_pow10, if_neg he, Option.bind_none]

lemma exact_rescale_down (hp : 0 < p) (hv : v.natAbs < 10 ^ 38) (hlt : s < k)
    (he : wrap 32 (k - s) ≤ 38) :
    (rescale p s col input v k).exact = some (if v.tmod (10 ^ (wrap 32 (k - s)).toNat) = 0 then
      stored p s col input (v.tdiv (10 ^ (wrap 32 (k - s)).toNat))
      else .error (valueError p s col input " without losing precision")) := by
  generalize hd : (10 : ℤ) ^ (wrap 32 (k - s)).toNat = d
  have hpos : 0 < d := hd ▸ by positivity
  have hlt' : v.natAbs < 2 ^ 127 := hv.trans (by norm_num)
  have hfit : Fits 128 v := fits_of_natAbs_lt hlt'
  have hq : (v.tdiv d).natAbs < 2 ^ 127 := by
    refine lt_of_le_of_lt ?_ hlt'
    rw [Int.natAbs_tdiv]
    exact Nat.div_le_self _ _
  rw [rescale, if_neg (by omega), if_pos hlt, Calc.exact_bind, exact_pow10, if_pos he,
    Option.bind_some, hd, Calc.exact_bind, exact_rem hpos.ne' (hfit.tdiv hpos), Option.bind_some]
  by_cases hr : v.tmod d = 0
  · rw [if_neg (not_not.mpr hr), if_pos hr, Calc.exact_bind,
      exact_div (by omega) hpos.ne' (hfit.tdiv hpos), Option.bind_some, exact_storeUnscaled hp hq]
  · rw [if_pos hr, if_neg hr, Calc.exact_pure]

-- what is stored is the value of `v` with `k` digits behind the point, with `s` digits behind the point
def Holds (p s v k : ℤ) (r : Except Exn QoreBufferDecimal128) : Prop :=
  ∀ out, r = .ok out → (out.value : ℚ) = v * 10 ^ (-k) * 10 ^ s ∧ |out.value| < 10 ^ p.toNat

lemma stored_holds {z : ℤ} (hp : p ≤ 38) (hz : (z : ℚ) = v * 10 ^ (-k) * 10 ^ s) :
    Holds p s v k (stored p s col input z) := by
  intro out h
  rw [stored] at h
  split at h
  · rename_i hlt
    have hpow : (10 : ℤ) ^ p.toNat ≤ 10 ^ 38 := pow_le_pow_right₀ (by norm_num) (by omega)
    have hval : (oracleColumnarDecimalStorage z).value = z := by
      apply storage_value
      rw [Int.abs_eq_natAbs] at hlt
      norm_num at hpow ⊢
      omega
    obtain rfl := Except.ok.inj h
    rw [hval]
    exact ⟨hz, hlt⟩
  · cases h

lemma shift_eq (s k : ℤ) : (10 : ℚ) ^ (-k) * 10 ^ s = 10 ^ (s - k) := by
  rw [← zpow_add₀ (by norm_num)]
  congr 1
  ring

-- the conversion from `k` to `s` digits behind the point is exact or is refused
def Rescalable (p s : ℤ) (c : ℕ) (k : ℤ) : Prop :=
  if k ≤ s then c * 10 ^ (s - k).toNat < 2 ^ 127
  else wrap 32 (k - s) ≤ 38 ∧ (wrap 32 (k - s) = k - s ∨ ¬10 ^ (wrap 32 (k - s)).toNat ∣ c ∨
    10 ^ p.toNat ≤ c / 10 ^ (wrap 32 (k - s)).toNat)

lemma tdiv_scaled {d : ℤ} {n : ℕ} (hd : d = 10 ^ n) (hr : v.tmod d = 0) :
    (v.tdiv d : ℚ) = v * 10 ^ (-(n : ℤ)) := by
  have hmul : d * v.tdiv d = v := Int.mul_tdiv_cancel' (Int.dvd_of_tmod_eq_zero hr)
  have hq : (10 : ℚ) ^ n * (v.tdiv d : ℚ) = v := by
    rw [hd] at hmul ⊢
    exact_mod_cast hmul
  rw [← hq, zpow_neg, zpow_natCast]
  field_simp

lemma pow_dvd_natAbs (n : ℕ) : v.tmod (10 ^ n) = 0 ↔ 10 ^ n ∣ v.natAbs := by
  rw [← Int.dvd_iff_tmod_eq_zero, ← Int.natAbs_dvd_natAbs, Int.natAbs_pow]
  rfl

lemma natAbs_tdiv_pow (n : ℕ) : (v.tdiv (10 ^ n)).natAbs = v.natAbs / 10 ^ n := by
  rw [Int.natAbs_tdiv, Int.natAbs_pow]
  rfl

variable (col input)

lemma rescaled_up (hp : 0 < p) (hp' : p ≤ 38) (hs : s ≤ p) (hk : 0 ≤ k) (hks : k < s) :
    v.natAbs * 10 ^ (s - k).toNat < 2 ^ 127 ↔ ∃ r, (rescale p s col input v k).exact = some r ∧
      Holds p s v k r := by
  rw [exact_rescale_up hp (hs.trans hp') hk hks]
  by_cases hfit : v.natAbs * 10 ^ (s - k).toNat < 2 ^ 127
  · rw [if_pos hfit]
    refine ⟨fun _ => ⟨_, rfl, stored_holds hp' ?_⟩, fun _ => hfit⟩
    obtain ⟨n, hn⟩ := Int.eq_ofNat_of_zero_le (show 0 ≤ s - k by omega)
    rw [mul_assoc, shift_eq, hn, zpow_natCast, Int.toNat_natCast]
    push_cast
    ring
  · rw [if_neg hfit]
    refine ⟨fun h => absurd h hfit, ?_⟩
    rintro ⟨r, hr, -⟩
    cases hr

lemma rescaled_same (hp : 0 < p) (hp' : p ≤ 38) (hlt : v.natAbs < 10 ^ 38) :
    ∃ r, (rescale p s col input v s).exact = some r ∧ Holds p s v s r := by
  rw [exact_rescale_same hp hlt]
  refine ⟨_, rfl, stored_holds hp' ?_⟩
  rw [mul_assoc, shift_eq, sub_self, zpow_zero, mul_one]

lemma abs_tdiv_pow_lt (m n : ℕ) : |v.tdiv (10 ^ n)| < 10 ^ m ↔ ¬10 ^ m ≤ v.natAbs / 10 ^ n := by
  rw [not_le, ← natAbs_tdiv_pow, Int.abs_eq_natAbs]
  exact_mod_cast Iff.rfl

-- a quotient by another power of ten is only refused when it has too many digits
lemma quotient_holds {e : ℤ} (hp' : p ≤ 38) (hv : v ≠ 0) (hlt : v.natAbs < 10 ^ 38) (hks : s < k)
    (hr : v.tmod (10 ^ e.toNat) = 0) : Holds p s v k (stored p s col input (v.tdiv (10 ^ e.toNat))) ↔
      e = k - s ∨ 10 ^ p.toNat ≤ v.natAbs / 10 ^ e.toNat := by
  have hscaled := tdiv_scaled rfl hr
  by_cases hek : e = k - s
  · refine iff_of_true (stored_holds hp' ?_) (Or.inl hek)
    rw [hscaled, mul_assoc, shift_eq]
    congr 2
    omega
  · rw [or_iff_right hek]
    by_cases hsmall : |v.tdiv (10 ^ e.toNat)| < 10 ^ p.toNat
    · refine iff_of_false ?_ ((abs_tdiv_pow_lt _ _).mp hsmall)
      intro hholds
      have hout := hholds _ (by rw [stored, if_pos hsmall])
      have hfit : (v.tdiv (10 ^ e.toNat)).natAbs < 2 ^ 127 := by
        rw [natAbs_tdiv_pow]
        exact (Nat.div_le_self _ _).trans_lt (hlt.trans (by norm_num))
      rw [storage_value hfit, hscaled, mul_assoc, shift_eq] at hout
      have hpow := mul_left_cancel₀ (Int.cast_ne_zero.mpr hv) hout.1
      have hexp := zpow_right_injective₀ (by norm_num : (0 : ℚ) < 10) (by norm_num) hpow
      exact absurd (by omega) hek
    · refine iff_of_true ?_ (not_not.mp (mt (abs_tdiv_pow_lt _ _).mpr hsmall))
      intro out h
      rw [stored, if_neg hsmall] at h
      cases h

lemma rescaled_down (hp : 0 < p) (hp' : p ≤ 38) (hv : v ≠ 0) (hlt : v.natAbs < 10 ^ 38) (hks : s < k) :
    (wrap 32 (k - s) ≤ 38 ∧ (wrap 32 (k - s) = k - s ∨ ¬10 ^ (wrap 32 (k - s)).toNat ∣ v.natAbs ∨
      10 ^ p.toNat ≤ v.natAbs / 10 ^ (wrap 32 (k - s)).toNat)) ↔
    ∃ r, (rescale p s col input v k).exact = some r ∧ Holds p s v k r := by
  generalize he : wrap 32 (k - s) = e
  by_cases hle : e ≤ 38
  · rw [exact_rescale_down hp hlt hks (by rw [he]; exact hle), he, and_iff_right hle, ← pow_dvd_natAbs]
    by_cases hr : v.tmod (10 ^ e.toNat) = 0
    · rw [if_pos hr, or_iff_right (not_not.mpr hr), ← quotient_holds col input hp' hv hlt hks hr]
      refine ⟨fun h => ⟨_, rfl, h⟩, ?_⟩
      rintro ⟨r, heq, h⟩
      exact Option.some.inj heq ▸ h
    · rw [if_neg hr]
      refine iff_of_true (Or.inr (Or.inl hr)) ⟨_, rfl, ?_⟩
      intro out h
      cases h
  · have hnone : (rescale p s col input v k).exact = none :=
      exact_rescale_inexact hks (by rw [he]; exact hle)
    rw [hnone]
    refine ⟨fun h => absurd h.1 hle, ?_⟩
    rintro ⟨r, hr, -⟩
    cases hr

lemma rescalable_iff (hp : 0 < p) (hp' : p ≤ 38) (hs : s ≤ p) (hk : 0 ≤ k) (hv : v ≠ 0)
    (hlt : v.natAbs < 10 ^ 38) :
    Rescalable p s v.natAbs k ↔ ∃ r, (rescale p s col input v k).exact = some r ∧ Holds p s v k r := by
  rw [Rescalable]
  rcases lt_trichotomy k s with hks | rfl | hks
  · rw [if_pos hks.le]
    exact rescaled_up col input hp hp' hs hk hks
  · rw [if_pos le_rfl, sub_self, Int.toNat_zero, pow_zero, mul_one]
    exact iff_of_true (hlt.trans (by norm_num)) (rescaled_same col input hp hp' hlt)
  · rw [if_neg (by omega)]
    exact rescaled_down col input hp hp' hv hlt hks

end Store

end OracleDriver
