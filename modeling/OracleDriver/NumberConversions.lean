import OracleDriver.Library.DecimalText
import OracleDriver.World
import Mathlib.Data.List.TakeWhile

/-! The values of NUMBER attributes of objects and of NUMBER elements of collections. -/

namespace OracleDriver

open DecimalText

structure OracleNumber where
  neg : Bool
  digits : ℕ
  exp : ℤ
  zero : digits = 0 → neg = false ∧ exp = 0
  trimmed : digits ≠ 0 → ¬10 ∣ digits
  precision : digits < 10 ^ 40
  range : -130 ≤ exp ∧ exp ≤ 125

namespace OracleNumber

def value (n : OracleNumber) : ℚ := (if n.neg then -1 else 1) * n.digits * (10 : ℚ) ^ n.exp

def sign (n : OracleNumber) : Text := if n.neg then ['-'] else []

-- no digit stands before the point of a fraction
def fixedText (n : OracleNumber) : Text :=
  let ds := Nat.toDigits 10 n.digits
  if 0 ≤ n.exp then ds ++ List.replicate n.exp.toNat '0'
  else
    let ds := List.replicate ((-n.exp).toNat - ds.length) '0' ++ ds
    ds.take (ds.length - (-n.exp).toNat) ++ '.' :: ds.drop (ds.length - (-n.exp).toNat)

def scientificText (n : OracleNumber) : Text :=
  let ds := Nat.toDigits 10 n.digits
  let e := n.exp + ds.length - 1
  let es := Nat.toDigits 10 e.natAbs
  ds.take 1 ++ (if ds.length ≤ 1 then [] else '.' :: ds.drop 1) ++
    'E' :: (if e < 0 then '-' else '+') :: List.replicate (2 - es.length) '0' ++ es

-- a text as OCINumberToText() makes it with the format "TM": an exponent is used when the text has
-- more than 64 characters
def text (n : OracleNumber) : Text :=
  n.sign ++ if (n.sign ++ n.fixedText).length ≤ 64 then n.fixedText else n.scientificText

-- an integer as OCINumberToInt() makes it: the fraction is cut off, and there is an error when it
-- does not fit
def toInt (n : OracleNumber) : Option ℤ :=
  let m : ℕ := if 0 ≤ n.exp then n.digits * 10 ^ n.exp.toNat else n.digits / 10 ^ (-n.exp).toNat
  let i : ℤ := if n.neg then -m else m
  if -2 ^ 63 ≤ i ∧ i < 2 ^ 63 then some i else none

end OracleNumber

def strtoll (t : Text) : ℤ :=
  match t with
  | '-' :: l => max (-2 ^ 63) (-(digitsVal (l.takeWhile Char.isDigit) : ℤ))
  | l => min (2 ^ 63 - 1) (digitsVal (l.takeWhile Char.isDigit))

def getNumberOptimal (str : Text) : QoreValue :=
  let sign := str.head? == some '-'
  let len := if sign then str.length - 1 else str.length
  if '.' ∉ str ∧ (len < 19 ∨ len = 19 ∧ (sign = false ∧ lexLe str "9223372036854775807".toList = true ∨
      sign = true ∧ lexLe str "-9223372036854775808".toList = true)) then
    .int (strtoll str)
  else
    .number str

-- the case SQLT_NUM of objToQore(), with OCINumberToText()
def objNumber (toText : OracleNumber → Text) (opt : NumberOption) (enc : Encoding) (n : OracleNumber) :
    QoreValue :=
  match opt with
  | .optimal => getNumberOptimal (toText n)
  | .string => .string ⟨toText n, enc⟩
  | .numeric => .number (toText n)

structure NumberType where
  prec : ℤ
  scale : ℤ

-- the case SQLT_NUM of collToQore(), which goes on to that of an integer, with OCINumberToReal() and
-- OCINumberToInt(); `none` is an exception
def collNumber (toReal : OracleNumber → ℕ) (toInt : OracleNumber → Option ℤ) (col : NumberType)
    (n : OracleNumber) : Option QoreValue :=
  if col.scale = -127 ∧ 0 < col.prec then some (.float (toReal n)) else (toInt n).map .int

-- the bits of an IEEE double
def floatValue (bits : ℕ) : Option ℚ :=
  let e : ℕ := bits / 2 ^ 52 % 2 ^ 11
  let m : ℕ := bits % 2 ^ 52
  let s : ℚ := if bits / 2 ^ 63 % 2 = 1 then -1 else 1
  if e = 2047 then none
  else some (s * if e = 0 then m * (2 : ℚ) ^ (-1074 : ℤ) else (2 ^ 52 + m) * (2 : ℚ) ^ ((e : ℤ) - 1075))

-- the number that a value is equal to
def QoreLib.Denotes (lib : QoreLib) : QoreValue → ℚ → Prop
  | .int i, q => (i : ℚ) = q
  | .float bits, q => floatValue bits = some q
  | .number d, q => lib.number d = q
  | .string s, q => DecimalText.value s.text = some q
  | _, _ => False

section Integer

variable {n : OracleNumber} {i : ℤ}

lemma toDigits_mul_pow {m : ℕ} (hm : 0 < m) (e : ℕ) :
    Nat.toDigits 10 m ++ List.replicate e '0' = Nat.toDigits 10 (m * 10 ^ e) := by
  induction e with
  | zero => rw [List.replicate_zero, List.append_nil, pow_zero, mul_one]
  | succ e ih =>
    have hpos : 0 < m * 10 ^ e := Nat.mul_pos hm (Nat.pow_pos (by omega))
    rw [List.replicate_succ', ← List.append_assoc, ih]
    have hzero : ['0'] = Nat.toDigits 10 0 := (Nat.toDigits_zero 10).symm
    rw [hzero, Nat.toDigits_append_toDigits (by omega) hpos (by omega)]
    congr 1
    ring

-- an integer has no digits after the point
lemma OracleNumber.integral (hv : n.value = i) :
    0 ≤ n.exp ∧ i = (if n.neg then -1 else 1) * (n.digits * 10 ^ n.exp.toNat : ℕ) := by
  have hexp : 0 ≤ n.exp := by
    by_contra hneg
    obtain ⟨k, hk⟩ : ∃ k : ℕ, n.exp = -((k : ℤ) + 1) := ⟨(-n.exp - 1).toNat, by omega⟩
    have hd : n.digits ≠ 0 := by
      intro hd
      have := (n.zero hd).2
      omega
    have hten : (10 : ℚ) ^ n.exp * 10 ^ (k + 1) = 1 := by
      rw [hk, zpow_neg, ← zpow_natCast, Nat.cast_succ]
      exact inv_mul_cancel₀ (zpow_ne_zero _ (by norm_num))
    have hcast : (i : ℚ) * 10 ^ (k + 1) = (if n.neg then -1 else 1) * n.digits := by
      rw [← hv, OracleNumber.value, mul_assoc, hten, mul_one]
    have hint : i * 10 ^ (k + 1) = (if n.neg then -1 else 1) * n.digits := by
      exact_mod_cast hcast
    have hdvd : (10 : ℤ) ∣ n.digits := by
      have hd10 : (10 : ℤ) ∣ i * 10 ^ (k + 1) :=
        Dvd.dvd.mul_left (dvd_pow_self 10 (Nat.succ_ne_zero k)) i
      rw [hint] at hd10
      split at hd10
      · rwa [neg_one_mul, Int.dvd_neg] at hd10
      · rwa [one_mul] at hd10
    exact n.trimmed hd (by exact_mod_cast hdvd)
  refine ⟨hexp, ?_⟩
  obtain ⟨e, he⟩ := Int.eq_ofNat_of_zero_le hexp
  rw [OracleNumber.value, he, zpow_natCast] at hv
  rw [he, Int.toNat_natCast]
  have hq : (i : ℚ) = ((if n.neg then -1 else 1) * (n.digits * 10 ^ e : ℕ) : ℤ) := by
    rw [← hv]
    push_cast
    ring
  exact_mod_cast hq

lemma OracleNumber.natAbs_eq (hv : n.value = i) : i.natAbs = n.digits * 10 ^ n.exp.toNat := by
  obtain ⟨-, hi⟩ := n.integral hv
  rw [hi]
  split
  · rw [neg_one_mul, Int.natAbs_neg, Int.natAbs_natCast]
  · rw [one_mul, Int.natAbs_natCast]

lemma OracleNumber.neg_iff (hv : n.value = i) : n.neg = true ↔ i < 0 := by
  obtain ⟨-, hi⟩ := n.integral hv
  have hpow : 0 < 10 ^ n.exp.toNat := Nat.pow_pos (by omega)
  by_cases hd : n.digits = 0
  · rw [(n.zero hd).1, hi, hd, Nat.zero_mul, Nat.cast_zero, mul_zero]
    decide
  · have hm : 0 < n.digits * 10 ^ n.exp.toNat := Nat.mul_pos (Nat.pos_of_ne_zero hd) hpow
    rw [hi]
    generalize n.digits * 10 ^ n.exp.toNat = m at hm ⊢
    by_cases hneg : n.neg = true
    · rw [if_pos hneg]
      exact ⟨fun _ => by omega, fun _ => hneg⟩
    · rw [if_neg hneg]
      exact ⟨fun h => absurd h hneg, fun h => by omega⟩

lemma OracleNumber.toInt_eq (hv : n.value = i) : n.toInt = if -2 ^ 63 ≤ i ∧ i < 2 ^ 63 then some i
    else none := by
  obtain ⟨hexp, hi⟩ := n.integral hv
  have hint : (if n.neg then -((n.digits * 10 ^ n.exp.toNat : ℕ) : ℤ) else
      ((n.digits * 10 ^ n.exp.toNat : ℕ) : ℤ)) = i := by
    rw [hi]
    split
    · rw [neg_one_mul]
    · rw [one_mul]
  rw [OracleNumber.toInt, if_pos hexp, hint]

def signed (i : ℤ) : Text := (if i < 0 then ['-'] else []) ++ Nat.toDigits 10 i.natAbs

lemma OracleNumber.text_eq (hv : n.value = i) (hi : i.natAbs < 10 ^ 63) : n.text = signed i := by
  obtain ⟨hexp, -⟩ := n.integral hv
  have habs := n.natAbs_eq hv
  have hfixed : n.fixedText = Nat.toDigits 10 i.natAbs := by
    rw [OracleNumber.fixedText]
    dsimp only
    rw [if_pos hexp, habs]
    by_cases hd : n.digits = 0
    · have hz : n.exp = 0 := (n.zero hd).2
      rw [hd, hz, Int.toNat_zero, List.replicate_zero, List.append_nil, Nat.zero_mul]
    · exact toDigits_mul_pow (Nat.pos_of_ne_zero hd) _
  have hsign : n.sign = if i < 0 then ['-'] else [] := by
    rw [OracleNumber.sign]
    simp only [n.neg_iff hv]
  have hlen : (n.sign ++ n.fixedText).length ≤ 64 := by
    have hdigits : (Nat.toDigits 10 i.natAbs).length ≤ 63 :=
      (Nat.length_toDigits_le_iff (by omega) (by omega)).mpr hi
    rw [List.length_append, hfixed, hsign]
    split
    · rw [List.length_singleton]
      omega
    · rw [List.length_nil]
      omega
  rw [OracleNumber.text, if_pos hlen, hfixed, hsign, signed]

lemma allDigits_takeWhile {l : Text} (hl : AllDigits l) : l.takeWhile Char.isDigit = l :=
  List.takeWhile_eq_self_iff.mpr hl

lemma toDigits_head (n : ℕ) : ∃ d ds, Nat.toDigits 10 n = d :: ds ∧ d ≠ '-' := by
  have hds := AllDigits.toDigits n
  obtain ⟨d, ds, hcons⟩ := List.exists_cons_of_ne_nil (Nat.toDigits_ne_nil (n := n) (b := 10))
  refine ⟨d, ds, hcons, ?_⟩
  rintro rfl
  rw [hcons] at hds
  exact absurd hds.head (by decide)

lemma lexLe_toDigits {n : ℕ} {l : Text} (hl : AllDigits l)
    (hlen : (Nat.toDigits 10 n).length = l.length) (h : n ≤ digitsVal l) :
    lexLe (Nat.toDigits 10 n) l = true := by
  rw [lexLe_iff (AllDigits.toDigits n) hl hlen, digitsVal_toDigits]
  exact h

lemma strtoll_signed (hlo : -2 ^ 63 ≤ i) (hhi : i < 2 ^ 63) : strtoll (signed i) = i := by
  have hds := AllDigits.toDigits i.natAbs
  rw [signed]
  by_cases hneg : i < 0
  · rw [if_pos hneg, List.singleton_append, strtoll, allDigits_takeWhile hds, digitsVal_toDigits]
    omega
  · rw [if_neg hneg, List.nil_append]
    obtain ⟨d, ds, hcons, hdash⟩ := toDigits_head i.natAbs
    have hpos : strtoll (Nat.toDigits 10 i.natAbs) =
        min (2 ^ 63 - 1) (digitsVal ((Nat.toDigits 10 i.natAbs).takeWhile Char.isDigit) : ℤ) := by
      rw [hcons, strtoll]
      intro l hl
      rw [List.cons.injEq] at hl
      exact hdash hl.1
    rw [hpos, allDigits_takeWhile hds, digitsVal_toDigits]
    omega

lemma getNumberOptimal_signed (hlo : -2 ^ 63 ≤ i) (hhi : i < 2 ^ 63) :
    getNumberOptimal (signed i) = .int i := by
  have hlen : (Nat.toDigits 10 i.natAbs).length ≤ 19 :=
    (Nat.length_toDigits_le_iff (by omega) (by omega)).mpr (by omega)
  have hpoint : '.' ∉ Nat.toDigits 10 i.natAbs :=
    fun hm => absurd (AllDigits.toDigits i.natAbs _ hm) (by decide)
  have hcond : '.' ∉ signed i ∧
      ((if (signed i).head? == some '-' then (signed i).length - 1 else (signed i).length) < 19 ∨
        (if (signed i).head? == some '-' then (signed i).length - 1 else (signed i).length) = 19 ∧
          (((signed i).head? == some '-') = false ∧
            lexLe (signed i) "9223372036854775807".toList = true ∨
            ((signed i).head? == some '-') = true ∧
              lexLe (signed i) "-9223372036854775808".toList = true)) := by
    by_cases hneg : i < 0
    · have hs : signed i = '-' :: Nat.toDigits 10 i.natAbs := by
        rw [signed, if_pos hneg, List.singleton_append]
      rw [hs]
      refine ⟨fun hm => hpoint (List.mem_of_ne_of_mem (by decide) hm), ?_⟩
      simp only [List.head?_cons, beq_self_eq_true, if_true, List.length_cons, Nat.add_sub_cancel]
      rcases Nat.lt_or_eq_of_le hlen with hlt | heq
      · exact Or.inl hlt
      · refine Or.inr ⟨heq, Or.inr ⟨trivial, ?_⟩⟩
        have hval : digitsVal "9223372036854775808".toList = 9223372036854775808 := by decide
        have hle : lexLe (Nat.toDigits 10 i.natAbs) "9223372036854775808".toList = true :=
          lexLe_toDigits (List.all_eq_true.mp rfl) heq (by omega)
        show lexLe _ ('-' :: "9223372036854775808".toList) = true
        rw [lexLe, hle]
        rfl
    · have hs : signed i = Nat.toDigits 10 i.natAbs := by rw [signed, if_neg hneg, List.nil_append]
      have hdash : ((Nat.toDigits 10 i.natAbs).head? == some '-') = false := by
        obtain ⟨d, ds, hcons, hd⟩ := toDigits_head i.natAbs
        rw [hcons, List.head?_cons, beq_eq_false_iff_ne]
        exact fun he => hd (Option.some.inj he)
      rw [hs, hdash]
      refine ⟨hpoint, ?_⟩
      rcases Nat.lt_or_eq_of_le hlen with hlt | heq
      · exact Or.inl hlt
      · have hval : digitsVal "9223372036854775807".toList = 9223372036854775807 := by decide
        exact Or.inr ⟨heq, Or.inl ⟨rfl, lexLe_toDigits (List.all_eq_true.mp rfl) heq (by omega)⟩⟩
  unfold getNumberOptimal
  dsimp only
  rw [if_pos hcond, strtoll_signed hlo hhi]

end Integer

lemma getNumberOptimal_ne_float (str : Text) (bits : ℕ) : getNumberOptimal str ≠ .float bits := by
  intro h
  unfold getNumberOptimal at h
  obtain ⟨-, h⟩ | ⟨-, h⟩ := ite_eq_iff.mp h
  · cases h
  · cases h

-- what the client documents for integers, and for the range of the integers it returns
structure ConvertsNumbers (toText : OracleNumber → Text) (toInt : OracleNumber → Option ℤ) : Prop where
  text : ∀ (n : OracleNumber) (i : ℤ), n.value = i → i.natAbs < 10 ^ 63 → toText n = signed i
  integer : ∀ (n : OracleNumber) (i : ℤ), n.value = i → -2 ^ 63 ≤ i → i < 2 ^ 63 → toInt n = some i
  range : ∀ n i, toInt n = some i → -2 ^ 63 ≤ i ∧ i < 2 ^ 63

lemma OracleNumber.toInt_range {n : OracleNumber} {i : ℤ} (hi : n.toInt = some i) :
    -2 ^ 63 ≤ i ∧ i < 2 ^ 63 := by
  unfold OracleNumber.toInt at hi
  obtain ⟨hr, hi⟩ | ⟨-, hi⟩ := ite_eq_iff.mp hi
  · obtain rfl := Option.some.inj hi
    exact hr
  · cases hi

lemma OracleNumber.converts : ConvertsNumbers OracleNumber.text OracleNumber.toInt where
  text n _ hv hi := n.text_eq hv hi
  integer n i hv hlo hhi := by rw [n.toInt_eq hv, if_pos ⟨hlo, hhi⟩]
  range _ _ hi := OracleNumber.toInt_range hi

-- the value is the same as an attribute and as an element, and it is the number
def NumbersAgree (lib : QoreLib) (toText : OracleNumber → Text) (toInt : OracleNumber → Option ℤ)
    (toReal : OracleNumber → ℕ) (opt : NumberOption) (enc : Encoding) (col : NumberType)
    (n : OracleNumber) : Prop :=
  ∃ v, objNumber toText opt enc n = v ∧ collNumber toReal toInt col n = some v ∧
    lib.Denotes v n.value

/-- A number is read alike from objects and collections if and only if it is read as an integer in
both and is one. -/
theorem numbersAgree_iff (lib : QoreLib) {toText : OracleNumber → Text}
    {toInt : OracleNumber → Option ℤ} (hc : ConvertsNumbers toText toInt) (toReal : OracleNumber → ℕ)
    (opt : NumberOption) (enc : Encoding) (col : NumberType) (n : OracleNumber) :
    NumbersAgree lib toText toInt toReal opt enc col n ↔
      opt = .optimal ∧ ¬(col.scale = -127 ∧ 0 < col.prec) ∧
        ∃ i : ℤ, -2 ^ 63 ≤ i ∧ i < 2 ^ 63 ∧ n.value = i := by
  constructor
  · rintro ⟨v, hobj, hcoll, hv⟩
    rw [collNumber] at hcoll
    split at hcoll
    · obtain rfl := Option.some.inj hcoll
      cases opt with
      | optimal => exact absurd hobj (getNumberOptimal_ne_float (toText n) _)
      | string | numeric => cases hobj
    · rename_i hcol
      obtain ⟨i, hi, rfl⟩ := Option.map_eq_some_iff.mp hcoll
      obtain ⟨hlo, hhi⟩ := hc.range n i hi
      cases opt with
      | optimal => exact ⟨rfl, hcol, i, hlo, hhi, hv.symm⟩
      | string | numeric => cases hobj
  · rintro ⟨rfl, hcol, i, hlo, hhi, hv⟩
    refine ⟨.int i, ?_, ?_, hv.symm⟩
    · rw [objNumber, hc.text n i hv (by omega), getNumberOptimal_signed hlo hhi]
    · rw [collNumber, if_neg hcol, hc.integer n i hv hlo hhi]
      rfl

def seven : OracleNumber := ⟨false, 7, 0, nofun, by decide, by decide, by decide⟩

theorem numbersAgree_iff_seven :
    NumbersAgree plainLib OracleNumber.text OracleNumber.toInt (fun _ => 0) .optimal 0 ⟨10, 0⟩ seven ↔
      NumberOption.optimal = .optimal ∧ ¬((0 : ℤ) = -127 ∧ (0 : ℤ) < 10) ∧
        ∃ i : ℤ, -2 ^ 63 ≤ i ∧ i < 2 ^ 63 ∧ seven.value = i :=
  numbersAgree_iff plainLib OracleNumber.converts (fun _ => 0) .optimal 0 ⟨10, 0⟩ seven

def half : OracleNumber := ⟨false, 5, -1, nofun, by decide, by decide, by decide⟩

/-- The fraction is lost in the collection only. -/
theorem not_numbersAgree_half :
    ¬NumbersAgree plainLib OracleNumber.text OracleNumber.toInt
      (fun _ => 0) .optimal 0 ⟨10, 2⟩ half := by
  rintro ⟨v, hobj, hcoll, -⟩
  obtain rfl : QoreValue.int 0 = v := Option.some.inj hcoll
  cases hobj

end OracleDriver
