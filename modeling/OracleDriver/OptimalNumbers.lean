import OracleDriver.Library.DecimalLiteral
import OracleDriver.NumberConversions

/-! The numbers that `getNumberOptimal` makes of the texts of the client. -/

namespace OracleDriver

open DecimalText

-- the test of the length, which `getNumberOptimal` makes when the text has no point
def FitsLength (str : Text) : Prop :=
  let sign := str.head? == some '-'
  let len := if sign then str.length - 1 else str.length
  len < 19 ∨ len = 19 ∧ (sign = false ∧ lexLe str "9223372036854775807".toList = true ∨
    sign = true ∧ lexLe str "-9223372036854775808".toList = true)

lemma getNumberOptimal_int {str : Text} (hp : '.' ∉ str) (hf : FitsLength str) :
    getNumberOptimal str = .int (strtoll str) := if_pos ⟨hp, hf⟩

lemma getNumberOptimal_number {str : Text} (h : ¬('.' ∉ str ∧ FitsLength str)) :
    getNumberOptimal str = .number str := if_neg h

-- the texts of the client: no plus sign and no needless zeros before the digits
structure Printed (l : Literal) : Prop where
  sign : l.sign ≠ .plus
  mark : ∀ x, l.exp = some x → x.mark = 'E'
  zeros : l.whole.head? = some '0' → l.whole = ['0']

variable {l : Literal}

lemma point_mem : '.' ∈ l.text ↔ l.frac.isSome = true := by
  constructor
  · intro h
    by_contra hf
    have hnone : l.frac = none := by simpa using hf
    simp only [Literal.text, List.mem_append, Literal.fracText, hnone, Option.elim_none,
      List.not_mem_nil, false_or] at h
    rcases h with h | h | h
    · rcases Sign.mem_text h with h | h <;> cases h
    · cases l.whole_digits _ h
    · cases hx : l.exp with
      | none => simp [Literal.expText, hx] at h
      | some x =>
        rw [Literal.expText, hx, Option.elim_some] at h
        rcases Exponent.mem_text h with h | h | h | h | h <;> cases h
  · intro h
    obtain ⟨f, hf⟩ := Option.isSome_iff_exists.mp h
    simp [Literal.text, Literal.fracText, hf]

lemma expText_takeWhile (hl : Printed l) :
    l.expText.takeWhile Char.isDigit = [] ∧ l.expText.dropWhile Char.isDigit = l.expText := by
  cases hx : l.exp with
  | none => simp [Literal.expText, hx]
  | some x => simp [Literal.expText, hx, Exponent.text, hl.mark x hx]

lemma signedDigits_eq (x : Exponent) : signedDigits (x.sign.text ++ x.digits) = some x.value := by
  have hall : x.digits.all Char.isDigit = true := List.all_eq_true.mpr x.allDigits
  have hne : x.digits.isEmpty = false := by simpa using x.nonempty
  rw [Exponent.value]
  cases x.sign with
  | none =>
    obtain ⟨c, ds, hds⟩ := List.exists_cons_of_ne_nil x.nonempty
    have hc : c.isDigit = true := x.allDigits c (by rw [hds]; exact List.mem_cons_self)
    have hm : c ≠ '-' := by
      rintro rfl
      cases hc
    have hp : c ≠ '+' := by
      rintro rfl
      cases hc
    rw [Sign.text, List.nil_append, signedDigits]
    · simp [hall, hne, Sign.apply]
    · intro t ht
      rw [hds] at ht
      exact hm (List.cons.inj ht).1
    · intro t ht
      rw [hds] at ht
      exact hp (List.cons.inj ht).1
  | plus => simp [Sign.text, signedDigits, hall, hne, Sign.apply]
  | minus => simp [Sign.text, signedDigits, hall, hne, Sign.apply]

lemma exponent_eq (hl : Printed l) : DecimalText.exponent l.expText = some l.exponent := by
  cases hx : l.exp with
  | none => simp [Literal.expText, hx, DecimalText.exponent, Literal.exponent]
  | some x =>
    rw [Literal.expText, Literal.exponent, hx, Option.elim_some, Option.elim_some, Exponent.text,
      hl.mark x hx, DecimalText.exponent, signedDigits_eq]

lemma unsignedValue_eq (hl : Printed l) : unsignedValue (l.whole ++ (l.fracText ++ l.expText)) =
    some ((digitsVal l.digits : ℚ) * (10 : ℚ) ^ (-l.scale)) := by
  obtain ⟨htake, hdrop⟩ := expText_takeWhile hl
  have hne := l.nonempty
  have hfrac := l.frac_digits
  have hscale : -l.scale = l.exponent - (l.fracDigits.length : ℤ) := by
    rw [Literal.scale]
    ring
  rw [hscale]
  cases hf : l.frac with
  | none =>
    have hhead : ¬l.expText.head? = some '.' := by
      cases hx : l.exp with
      | none => simp [Literal.expText, hx]
      | some x => simp [Literal.expText, hx, Exponent.text, hl.mark x hx]
    rw [hf] at hne
    have hempty : l.whole ≠ [] := by simpa using hne
    simp [unsignedValue, Literal.fracText, hf, List.takeWhile_append_of_pos l.whole_digits,
      List.dropWhile_append_of_pos l.whole_digits, htake, hdrop, hhead, hempty, exponent_eq hl,
        Literal.digits,
      Literal.fracDigits]
  | some f =>
    rw [hf] at hfrac hne
    have hf' : AllDigits f := hfrac
    have hempty : l.whole = [] → f ≠ [] := by
      intro hw hnil
      rw [hw, hnil] at hne
      exact hne rfl
    simp [unsignedValue, Literal.fracText, hf, List.takeWhile_append_of_pos l.whole_digits,
      List.dropWhile_append_of_pos l.whole_digits, List.takeWhile_append_of_pos hf',
        List.dropWhile_append_of_pos hf',
      htake, hdrop, exponent_eq hl, Literal.digits, Literal.fracDigits]
    exact hempty

lemma lexLe_max {ds : Text} (hd : AllDigits ds) (hlen : ds.length = 19) :
    lexLe ds "9223372036854775807".toList = true ↔ digitsVal ds < 2 ^ 63 := by
  have hall : AllDigits "9223372036854775807".toList := List.all_eq_true.mp rfl
  have hval : digitsVal "9223372036854775807".toList = 9223372036854775807 := by decide
  rw [lexLe_iff hd hall hlen, hval]
  omega

lemma lexLe_min {ds : Text} (hd : AllDigits ds) (hlen : ds.length = 19) :
    lexLe ds "9223372036854775808".toList = true ↔ digitsVal ds ≤ 2 ^ 63 := by
  have hall : AllDigits "9223372036854775808".toList := List.all_eq_true.mp rfl
  have hval : digitsVal "9223372036854775808".toList = 9223372036854775808 := by decide
  rw [lexLe_iff hd hall hlen, hval]
  omega

lemma body_ne_minus (l : Literal) {t : Text} : l.whole ++ (l.fracText ++ l.expText) ≠ '-' :: t := by
  intro h
  have hne := l.nonempty
  cases hw : l.whole with
  | nil =>
    cases hf : l.frac with
    | none =>
      rw [hw, hf] at hne
      exact hne rfl
    | some f => simp [hw, Literal.fracText, hf] at h
  | cons c w =>
    rw [hw] at h
    obtain ⟨rfl, -⟩ := List.cons.inj h
    cases l.whole_digits '-' (by rw [hw]; exact List.mem_cons_self)

lemma value_text (hl : Printed l) : DecimalText.value l.text = some l.value := by
  have hu := unsignedValue_eq hl
  rw [Literal.text, Literal.value]
  cases hs : l.sign with
  | none =>
    rw [Sign.text, List.nil_append, DecimalText.value, hu]
    · simp [Sign.apply]
    · exact fun t ht => body_ne_minus l ht
  | plus => exact absurd hs hl.sign
  | minus => simp [Sign.text, DecimalText.value, hu, Sign.apply]

section Whole

variable (hl : Printed l) (hf : l.frac = none)

include hf in
lemma value_whole : l.value = l.sign.apply (digitsVal l.whole) * (10 : ℚ) ^ l.exponent := by
  simp [Literal.value, Literal.scale, Literal.fracDigits, Literal.digits, hf]

include hl hf

lemma strtoll_whole (hlo : l.sign = .minus → digitsVal l.whole ≤ 2 ^ 63)
    (hhi : l.sign = .none → digitsVal l.whole < 2 ^ 63) :
    strtoll l.text = l.sign.apply (digitsVal l.whole) := by
  have hbody : (l.whole ++ (l.fracText ++ l.expText)).takeWhile Char.isDigit = l.whole := by
    rw [List.takeWhile_append_of_pos l.whole_digits, Literal.fracText, hf, Option.elim_none,
      List.nil_append, (expText_takeWhile hl).1, List.append_nil]
  rw [Literal.text]
  cases hs : l.sign with
  | none =>
    have hlt := hhi hs
    rw [Sign.text, List.nil_append, strtoll, hbody]
    · simp only [Sign.apply, reduceCtorEq, if_false]
      omega
    · exact fun t ht => body_ne_minus l ht
  | plus => exact absurd hs hl.sign
  | minus =>
    have hle := hlo hs
    simp only [Sign.text, List.singleton_append, strtoll, hbody, Sign.apply, if_true]
    omega

lemma fitsLength_iff : FitsLength l.text ↔ l.whole.length + l.expText.length < 19 ∨
    l.whole.length + l.expText.length = 19 ∧ lexLe (l.whole ++ l.expText)
      (if l.sign = .minus then "9223372036854775808".toList else "9223372036854775807".toList) =
        true := by
  have htext : l.text = l.sign.text ++ (l.whole ++ l.expText) := by
    rw [Literal.text, Literal.fracText, hf, Option.elim_none, List.nil_append]
  cases hs : l.sign with
  | none =>
    have hhead : (l.whole ++ l.expText).head? ≠ some '-' := by
      intro h
      obtain ⟨t, ht⟩ := List.head?_eq_some_iff.mp h
      apply body_ne_minus l
      rw [Literal.fracText, hf, Option.elim_none, List.nil_append]
      exact ht
    have hneg : ((l.whole ++ l.expText).head? == some '-') = false := beq_eq_false_iff_ne.mpr hhead
    simp only [FitsLength, htext, hs, Sign.text, List.nil_append, hneg, List.length_append]
    simp
  | plus => exact absurd hs hl.sign
  | minus =>
    have hlex : lexLe ('-' :: (l.whole ++ l.expText)) "-9223372036854775808".toList =
        lexLe (l.whole ++ l.expText) "9223372036854775808".toList := by
      show (decide ('-' < '-') || '-' == '-' &&
        lexLe (l.whole ++ l.expText) "9223372036854775808".toList) = _
      simp
    simp only [FitsLength, htext, hs, Sign.text, List.singleton_append, List.head?_cons,
      beq_self_eq_true, if_true, List.length_cons, Nat.add_sub_cancel, hlex, List.length_append]
    simp

lemma whole_range (h : FitsLength l.text) : (l.sign = .minus → digitsVal l.whole ≤ 2 ^ 63) ∧
    (l.sign = .none → digitsVal l.whole < 2 ^ 63) := by
  have hval := digitsVal_lt l.whole_digits
  rw [fitsLength_iff hl hf] at h
  have short : l.whole.length ≤ 18 → digitsVal l.whole < 10 ^ 18 := fun hle =>
    hval.trans_le (Nat.pow_le_pow_right (by omega) hle)
  rcases h with h | ⟨hlen, hlex⟩
  · have hlt := short (by omega)
    constructor <;> intro _ <;> omega
  · cases hx : l.exp with
    | some x =>
      have hpos : 0 < l.expText.length := by simp [Literal.expText, hx, Exponent.text]
      have hlt := short (by omega)
      constructor <;> intro _ <;> omega
    | none =>
      have hnil : l.expText = [] := by simp [Literal.expText, hx]
      rw [hnil, List.append_nil] at hlex
      rw [hnil, List.length_nil, Nat.add_zero] at hlen
      constructor
      · intro hs
        rw [if_pos hs] at hlex
        exact (lexLe_min l.whole_digits hlen).mp hlex
      · intro hs
        rw [if_neg (by simp [hs])] at hlex
        exact (lexLe_max l.whole_digits hlen).mp hlex

lemma fitsLength_of_range (hx : l.exp = none) (hlo : l.sign = .minus → digitsVal l.whole ≤ 2 ^ 63)
    (hhi : l.sign = .none → digitsVal l.whole < 2 ^ 63) : FitsLength l.text := by
  have hnil : l.expText = [] := by simp [Literal.expText, hx]
  have hle : digitsVal l.whole ≤ 2 ^ 63 := by
    cases hs : l.sign with
    | none => exact (hhi hs).le
    | plus => exact absurd hs hl.sign
    | minus => exact hlo hs
  rw [fitsLength_iff hl hf, hnil, List.append_nil, List.length_nil, Nat.add_zero]
  by_cases hz : l.whole.head? = some '0'
  · left
    rw [hl.zeros hz]
    decide
  · have hlen : l.whole.length ≤ 19 := (lt_pow_iff l.whole_digits hz 19).mp (by omega)
    rcases Nat.lt_or_eq_of_le hlen with hlt | heq
    · exact Or.inl hlt
    · refine Or.inr ⟨heq, ?_⟩
      split
      · exact (lexLe_min l.whole_digits heq).mpr hle
      · rename_i hs
        exact (lexLe_max l.whole_digits heq).mpr (hhi (by cases h : l.sign <;> simp_all [hl.sign]))

lemma getNumberOptimal_whole (h : FitsLength l.text) :
    getNumberOptimal l.text = .int (l.sign.apply (digitsVal l.whole)) := by
  have hpoint : '.' ∉ l.text := by
    rw [point_mem, hf]
    exact Bool.false_ne_true
  obtain ⟨hlo, hhi⟩ := whole_range hl hf h
  rw [getNumberOptimal_int hpoint h, strtoll_whole hl hf hlo hhi]

lemma getNumberOptimal_plain (hx : l.exp = none) {i : ℤ} (hv : l.value = i) (hlo : -2 ^ 63 ≤ i)
    (hhi : i < 2 ^ 63) :
    getNumberOptimal l.text = .int i := by
  have hi : l.sign.apply (digitsVal l.whole) = i := by
    rw [value_whole hf, Literal.exponent, hx, Option.elim_none, zpow_zero, mul_one] at hv
    exact_mod_cast hv
  have hfits : FitsLength l.text := by
    apply fitsLength_of_range hl hf hx
    · intro hs
      rw [hs, Sign.apply, if_pos rfl] at hi
      omega
    · intro hs
      rw [hs, Sign.apply, if_neg (by decide)] at hi
      omega
  rw [getNumberOptimal_whole hl hf hfits, hi]

end Whole

-- the result is the number of the text, and it is an integer when the text is a plain one that fits
def OptimalExact (lib : QoreLib) (l : Literal) : Prop :=
  lib.Denotes (getNumberOptimal l.text) l.value ∧
    ∀ i : ℤ, l.frac = none → l.exp = none → l.value = i → -2 ^ 63 ≤ i → i < 2 ^ 63 →
      getNumberOptimal l.text = .int i

-- a short text without a point is read as an integer up to its exponent, and each other text as a
-- number with a binary mantissa
structure OptimalKeeps (lib : QoreLib) (l : Literal) : Prop where
  integer : l.frac = none → FitsLength l.text → digitsVal l.whole = 0 ∨ l.exponent = 0
  number : ¬(l.frac = none ∧ FitsLength l.text) →
    BinaryRounding.Representable (lib.numberPrec l.text) l.value

lemma whole_denotes_iff (lib : QoreLib) (hl : Printed l) (hf : l.frac = none)
    (hfits : FitsLength l.text) :
    lib.Denotes (getNumberOptimal l.text) l.value ↔ digitsVal l.whole = 0 ∨ l.exponent = 0 := by
  rw [getNumberOptimal_whole hl hf hfits]
  show ((l.sign.apply (digitsVal l.whole) : ℤ) : ℚ) = l.value ↔ _
  rw [value_whole hf]
  by_cases hz : digitsVal l.whole = 0
  · simp [hz, Sign.apply]
  · have hne : (l.sign.apply (digitsVal l.whole) : ℚ) ≠ 0 := by
      rw [Sign.apply]
      split <;> simpa using hz
    constructor
    · intro hval
      have hpow : (10 : ℚ) ^ (0 : ℤ) = 10 ^ l.exponent := by
        rw [zpow_zero]
        exact mul_left_cancel₀ hne ((mul_one _).trans hval)
      exact .inr (zpow_right_injective₀ (by norm_num) (by norm_num) hpow).symm
    · intro h
      rw [h.resolve_left hz, zpow_zero, mul_one]

lemma number_denotes_iff {lib : QoreLib} (hn : lib.RoundsNumbers) (hl : Printed l)
    (h : ¬('.' ∉ l.text ∧ FitsLength l.text)) :
    lib.Denotes (getNumberOptimal l.text) l.value ↔
      BinaryRounding.Representable (lib.numberPrec l.text) l.value := by
  rw [getNumberOptimal_number h]
  exact (hn.nearest _ _ (value_text hl)).eq_iff

/-- The number of a text is kept by the integer branch if the exponent does not change it, and by
the other if it has a binary mantissa that is not too long. -/
theorem optimalExact_iff {lib : QoreLib} (hn : lib.RoundsNumbers) (hl : Printed l) :
    OptimalExact lib l ↔ OptimalKeeps lib l := by
  have hplain : ∀ i : ℤ, l.frac = none → l.exp = none → l.value = i → -2 ^ 63 ≤ i → i < 2 ^ 63 →
      getNumberOptimal l.text = .int i :=
    fun i hf hx hv hlo hhi => getNumberOptimal_plain hl hf hx hv hlo hhi
  have hpoint : '.' ∉ l.text ↔ l.frac = none := by simp [point_mem]
  rw [OptimalExact, and_iff_left hplain]
  by_cases hb : l.frac = none ∧ FitsLength l.text
  · rw [whole_denotes_iff lib hl hb.1 hb.2]
    exact ⟨fun h => ⟨fun _ _ => h, fun hnot => absurd hb hnot⟩, fun h => h.integer hb.1 hb.2⟩
  · have hb' : ¬('.' ∉ l.text ∧ FitsLength l.text) := by rwa [hpoint]
    rw [number_denotes_iff hn hl hb']
    exact ⟨fun h => ⟨fun hf hfits => absurd ⟨hf, hfits⟩ hb, fun _ => h⟩, fun h => h.number hb⟩

def tenPower : Literal :=
  ⟨.none, ['1'], none, some ⟨'E', .plus, ['7', '0'], Or.inr rfl, by decide, by decide⟩, by decide,
  noFrac_digits, by decide⟩

lemma tenPower_printed : Printed tenPower where
  sign := nofun
  mark x hx := by rw [← Option.some.inj hx]
  zeros h := absurd h (by decide)

theorem optimalExact_iff_tenPower : OptimalExact plainLib tenPower ↔ OptimalKeeps plainLib tenPower :=
  optimalExact_iff plainLib_roundsNumbers tenPower_printed

/-- The text 1E+70 is read as one. -/
theorem not_optimalExact_tenPower : ¬OptimalExact plainLib tenPower := by
  rintro ⟨hden, -⟩
  have hone : getNumberOptimal tenPower.text = .int 1 :=
    getNumberOptimal_whole tenPower_printed rfl (Or.inl (by decide))
  rw [hone] at hden
  have hval : tenPower.value = 10 ^ (70 : ℤ) := by
    have hdigits : digitsVal tenPower.digits = 1 := rfl
    have hscale : -tenPower.scale = 70 := rfl
    have hsign : tenPower.sign.apply 1 = 1 := rfl
    rw [Literal.value, hdigits, hscale, hsign, Int.cast_one, one_mul]
  have hbad : ((1 : ℤ) : ℚ) = tenPower.value := hden
  rw [hval] at hbad
  norm_num at hbad

end OracleDriver
