import Mathlib.Algebra.Order.Field.Rat
import Mathlib.Tactic.Ring

/-! Decimal texts: the number they denote, and their comparison as strings. -/

namespace DecimalText

-- strcmp() <= 0
def lexLe : List Char → List Char → Bool
  | [], _ => true
  | _ :: _, [] => false
  | a :: s, b :: t => decide (a < b) || a == b && lexLe s t

def AllDigits (l : List Char) : Prop := ∀ c ∈ l, c.isDigit = true

instance (l : List Char) : Decidable (AllDigits l) := List.decidableBAll _ l

def digitsVal (l : List Char) : ℕ := Nat.ofDigitChars 10 l 0

def digitVal (c : Char) : ℕ := c.toNat - '0'.toNat

variable {a b : Char} {s t : List Char}

lemma digitVal_lt (ha : a.isDigit = true) : digitVal a < 10 := by
  simp only [Char.isDigit, Bool.and_eq_true, decide_eq_true_eq] at ha
  have hle : a.toNat ≤ 57 := ha.2
  show a.toNat - 48 < 10
  omega

lemma digitVal_lt_iff (ha : a.isDigit = true) (hb : b.isDigit = true) :
    digitVal a < digitVal b ↔ a < b := by
  simp only [Char.isDigit, Bool.and_eq_true, decide_eq_true_eq] at ha hb
  have ha' : 48 ≤ a.toNat := ha.1
  have hb' : 48 ≤ b.toNat := hb.1
  show a.toNat - 48 < b.toNat - 48 ↔ a.toNat < b.toNat
  omega

lemma digitVal_inj (ha : a.isDigit = true) (hb : b.isDigit = true) (h : digitVal a = digitVal b) :
    a = b := by
  simp only [Char.isDigit, Bool.and_eq_true, decide_eq_true_eq] at ha hb
  have ha' : 48 ≤ a.toNat := ha.1
  have hb' : 48 ≤ b.toNat := hb.1
  have h' : a.toNat - 48 = b.toNat - 48 := h
  apply Char.toNat_inj.mp
  omega

lemma AllDigits.head (h : AllDigits (a :: s)) : a.isDigit = true := h a List.mem_cons_self

lemma AllDigits.tail (h : AllDigits (a :: s)) : AllDigits s :=
  fun c hc => h c (List.mem_cons_of_mem a hc)

lemma AllDigits.append (hs : AllDigits s) (ht : AllDigits t) : AllDigits (s ++ t) := by
  intro c hc
  rcases List.mem_append.mp hc with hc | hc
  · exact hs c hc
  · exact ht c hc

lemma AllDigits.zeros (n : ℕ) : AllDigits (List.replicate n '0') := by
  intro c hc
  rw [List.eq_of_mem_replicate hc]
  rfl

lemma AllDigits.toDigits (n : ℕ) : AllDigits (Nat.toDigits 10 n) := fun _ hc =>
  Nat.isDigit_of_mem_toDigits (by omega) (by omega) hc

lemma digitsVal_cons : digitsVal (a :: s) = digitVal a * 10 ^ s.length + digitsVal s := by
  rw [digitsVal, Nat.ofDigitChars_cons, Nat.ofDigitChars_eq_ofDigitChars_zero, digitsVal, digitVal]
  ring

lemma digitsVal_append_zeros (s : List Char) (n : ℕ) :
    digitsVal (s ++ List.replicate n '0') = digitsVal s * 10 ^ n := by
  rw [digitsVal, Nat.ofDigitChars_append, Nat.ofDigitChars_replicate_zero, digitsVal, mul_comm]

lemma digitsVal_toDigits (n : ℕ) : digitsVal (Nat.toDigits 10 n) = n := Nat.ofDigitChars_ten_toDigits

lemma digitsVal_lt (hs : AllDigits s) : digitsVal s < 10 ^ s.length := by
  induction s with
  | nil => exact Nat.one_pos
  | cons a s ih =>
    have ha := digitVal_lt hs.head
    have hrest := ih hs.tail
    have hmul : (digitVal a + 1) * 10 ^ s.length ≤ 10 * 10 ^ s.length := Nat.mul_le_mul_right _ ha
    rw [digitsVal_cons, List.length_cons, pow_succ]
    rw [add_mul, one_mul] at hmul
    omega

lemma digitsVal_dropZeros (s : List Char) : digitsVal (s.dropWhile (· == '0')) = digitsVal s := by
  induction s with
  | nil => rfl
  | cons a s ih =>
    by_cases ha : a = '0'
    · simp [ha, ih, digitsVal_cons, digitVal]
    · simp [ha]

lemma AllDigits.dropZeros (hs : AllDigits s) : AllDigits (s.dropWhile (· == '0')) := fun c hc =>
  hs c ((List.dropWhile_sublist _).mem hc)

lemma digitVal_pos (ha : a.isDigit = true) (h : a ≠ '0') : 0 < digitVal a := by
  rcases Nat.eq_zero_or_pos (digitVal a) with hz | hpos
  · exact absurd (digitVal_inj ha (b := '0') (by decide) hz) h
  · exact hpos

-- without leading zeros the number of digits is that of the value
lemma lt_pow_iff (hs : AllDigits s) (h : s.head? ≠ some '0') (n : ℕ) :
    digitsVal s < 10 ^ n ↔ s.length ≤ n := by
  cases s with
  | nil => simp [digitsVal]
  | cons a s =>
    have ha := digitVal_pos hs.head fun he => h (by rw [he]; rfl)
    constructor
    · intro hlt
      have hle : 1 * 10 ^ s.length ≤ digitVal a * 10 ^ s.length := Nat.mul_le_mul_right _ ha
      rw [digitsVal_cons] at hlt
      have hpow : 10 ^ s.length < 10 ^ n := by omega
      exact (Nat.pow_lt_pow_iff_right (by omega)).mp hpow
    · intro hle
      exact (digitsVal_lt hs).trans_le (Nat.pow_le_pow_right (by omega) hle)

-- texts of the same length are compared like the numbers
lemma lexLe_iff (hs : AllDigits s) (ht : AllDigits t) (hlen : s.length = t.length) :
    lexLe s t = true ↔ digitsVal s ≤ digitsVal t := by
  induction s generalizing t with
  | nil =>
    obtain rfl : t = [] := List.length_eq_zero_iff.mp hlen.symm
    exact ⟨fun _ => le_rfl, fun _ => rfl⟩
  | cons a s ih =>
    obtain ⟨b, t, rfl⟩ : ∃ b u, t = b :: u := List.exists_cons_of_length_eq_add_one hlen.symm
    have hlen : s.length = t.length := Nat.succ.inj hlen
    have hrest := ih hs.tail ht.tail hlen
    have hsv := digitsVal_lt hs.tail
    have htv := digitsVal_lt ht.tail
    rw [hlen] at hsv
    simp only [lexLe, Bool.or_eq_true, decide_eq_true_eq, Bool.and_eq_true, beq_iff_eq,
      digitsVal_cons, hlen, hrest]
    rw [← digitVal_lt_iff hs.head ht.head]
    constructor
    · rintro (hlt | ⟨rfl, hle⟩)
      · have hmul : (digitVal a + 1) * 10 ^ t.length ≤ digitVal b * 10 ^ t.length :=
          Nat.mul_le_mul_right _ hlt
        rw [add_mul, one_mul] at hmul
        omega
      · omega
    · intro hle
      rcases lt_trichotomy (digitVal a) (digitVal b) with hlt | he | hgt
      · exact Or.inl hlt
      · rw [he] at hle
        exact Or.inr ⟨digitVal_inj hs.head ht.head he, by omega⟩
      · have hmul : (digitVal b + 1) * 10 ^ t.length ≤ digitVal a * 10 ^ t.length :=
          Nat.mul_le_mul_right _ hgt
        rw [add_mul, one_mul] at hmul
        omega

-- digits with an optional sign before them
def signedDigits : List Char → Option ℤ
  | '-' :: l => if l.all Char.isDigit && !l.isEmpty then some (-(digitsVal l : ℤ)) else none
  | '+' :: l => if l.all Char.isDigit && !l.isEmpty then some (digitsVal l) else none
  | l => if l.all Char.isDigit && !l.isEmpty then some (digitsVal l) else none

def exponent : List Char → Option ℤ
  | [] => some 0
  | 'E' :: l => signedDigits l
  | _ => none

def unsignedValue (l : List Char) : Option ℚ :=
  let whole := l.takeWhile Char.isDigit
  let rest := l.dropWhile Char.isDigit
  let frac := if rest.head? = some '.' then rest.tail.takeWhile Char.isDigit else []
  let rest := if rest.head? = some '.' then rest.tail.dropWhile Char.isDigit else rest
  if whole.isEmpty && frac.isEmpty then none
  else (exponent rest).map fun e => (digitsVal (whole ++ frac) : ℚ) * (10 : ℚ) ^ (e - (frac.length : ℤ))

-- the number a text with an optional fraction and exponent denotes
def value : List Char → Option ℚ
  | '-' :: l => (unsignedValue l).map (-·)
  | l => unsignedValue l

end DecimalText
