import Mathlib.Data.List.TakeWhile
import OracleDriver.DecimalStorage

/-! The texts that are accepted as decimals, and the value that is stored for each. -/

namespace OracleDriver

open DecimalText FixedWidth

def AllSpaces (l : Text) : Prop := ∀ c ∈ l, isSpace c = true

lemma trim_split (input : Text) :
    ∃ pre post, AllSpaces pre ∧ AllSpaces post ∧ input = pre ++ (trim input ++ post) := by
  refine ⟨input.takeWhile isSpace, (input.dropWhile isSpace).rtakeWhile isSpace, ?_, ?_, ?_⟩
  · exact fun c hc => List.mem_takeWhile_imp hc
  · exact fun c hc => List.mem_rtakeWhile_imp hc
  · rw [trim, List.rdropWhile_append_rtakeWhile, List.takeWhile_append_dropWhile]

lemma trim_eq {pre body post : Text} (hpre : AllSpaces pre) (hpost : AllSpaces post) (hne : body ≠ [])
    (hbody : ∀ c ∈ body, isSpace c = false) : trim (pre ++ (body ++ post)) = body := by
  obtain ⟨c, l, rfl⟩ := List.exists_cons_of_ne_nil hne
  have hhead : isSpace c = false := hbody c List.mem_cons_self
  have hdrop : (c :: l ++ post).dropWhile isSpace = c :: l ++ post := by
    rw [List.cons_append, List.dropWhile_cons_of_neg (by simp [hhead])]
  have hrev : ∀ d ∈ post.reverse, isSpace d = true := fun d hd => hpost d (List.mem_reverse.mp hd)
  rw [trim, List.dropWhile_append_of_pos hpre, hdrop, List.rdropWhile, List.reverse_append,
    List.dropWhile_append_of_pos hrev]
  have hself : (c :: l).rdropWhile isSpace = c :: l := by
    rw [List.rdropWhile_eq_self_iff]
    intro hl
    simp [hbody _ (List.getLast_mem hl)]
  exact hself

lemma sign_split (l : Text) :
    ∃ s : Sign, l = s.text ++ skipSign l ∧ isNegative l = decide (s = .minus) := by
  cases l with
  | nil => exact ⟨.none, rfl, rfl⟩
  | cons c l =>
    by_cases hplus : c = '+'
    · exact ⟨.plus, by simp [skipSign, isSign, hplus, Sign.text], by simp [isNegative, hplus]⟩
    · by_cases hminus : c = '-'
      · exact ⟨.minus, by simp [skipSign, isSign, hminus, Sign.text], by simp [isNegative, hminus]⟩
      · exact ⟨.none, by simp [skipSign, isSign, hplus, hminus, Sign.text], by simp [isNegative, hminus]⟩

lemma skipSign_eq (s : Sign) {l : Text} (hl : l.head?.any isSign = false) :
    skipSign (s.text ++ l) = l ∧ isNegative (s.text ++ l) = decide (s = .minus) := by
  cases s with
  | none =>
    refine ⟨by simp [Sign.text, skipSign, hl], ?_⟩
    cases l with
    | nil => rfl
    | cons c l =>
      have hc : c ≠ '-' := by
        rintro rfl
        cases hl
      simp [Sign.text, isNegative, hc]
  | plus => exact ⟨rfl, rfl⟩
  | minus => exact ⟨rfl, rfl⟩

lemma scanDigits_after (l ds : Text) (f : ℕ) : scanDigits l ⟨ds, true, f⟩ =
    (⟨ds ++ l.takeWhile Char.isDigit, true, f + (l.takeWhile Char.isDigit).length⟩,
      l.dropWhile Char.isDigit) := by
  induction l generalizing ds f with
  | nil => simp [scanDigits]
  | cons c l ih =>
    by_cases hc : c.isDigit = true
    · simp [scanDigits, hc, ih]
      omega
    · simp [scanDigits, hc]

lemma scanDigits_before (l ds : Text) (f : ℕ) : scanDigits l ⟨ds, false, f⟩ =
    if (l.dropWhile Char.isDigit).head? = some '.' then
      scanDigits (l.dropWhile Char.isDigit).tail ⟨ds ++ l.takeWhile Char.isDigit, true, f⟩
    else (⟨ds ++ l.takeWhile Char.isDigit, false, f⟩, l.dropWhile Char.isDigit) := by
  induction l generalizing ds with
  | nil => simp [scanDigits]
  | cons c l ih =>
    by_cases hc : c.isDigit = true
    · simp [scanDigits, hc, ih]
    · by_cases hp : c = '.'
      · subst hp
        simp [scanDigits]
      · simp [scanDigits, hc, hp]

lemma scanDigits_split (l : Text) :
    ∃ (whole : Text) (frac : Option Text) (d : ScannedDigits) (rest : Text),
    AllDigits whole ∧ AllDigits (frac.getD []) ∧ scanDigits l ⟨[], false, 0⟩ = (d, rest) ∧
    d.digits = whole ++ frac.getD [] ∧ d.fractionalDigits = (frac.getD []).length ∧
    l = whole ++ (frac.elim [] ('.' :: ·) ++ rest) := by
  have hsplit := List.takeWhile_append_dropWhile (p := Char.isDigit) (l := l)
  rw [scanDigits_before]
  split
  · rename_i hdot
    obtain ⟨r, hr⟩ : ∃ r, l.dropWhile Char.isDigit = '.' :: r := by
      cases hd : l.dropWhile Char.isDigit with
      | nil => simp [hd] at hdot
      | cons c r => exact ⟨r, by simp_all⟩
    rw [hr, List.tail_cons, scanDigits_after]
    refine ⟨l.takeWhile Char.isDigit, some (r.takeWhile Char.isDigit), _, _,
      fun c hc => List.mem_takeWhile_imp hc, fun c hc =>
        List.mem_takeWhile_imp hc, rfl, by simp, by simp, ?_⟩
    rw [Option.elim_some, List.cons_append, List.takeWhile_append_dropWhile, ← hr, hsplit]
  · exact ⟨_, none, _, _, fun c hc => List.mem_takeWhile_imp hc, nofun, rfl, by simp, rfl, hsplit.symm⟩

lemma scanDigits_eq {whole rest : Text} (frac : Option Text) (hw : AllDigits whole)
    (hf : AllDigits (frac.getD []))
    (hr : ∀ c ∈ rest.head?, c.isDigit = false ∧ c ≠ '.') :
    scanDigits (whole ++ (frac.elim [] ('.' :: ·) ++ rest)) ⟨[], false, 0⟩ =
      (⟨whole ++ frac.getD [], frac.isSome, (frac.getD []).length⟩, rest) := by
  have hrest : rest.takeWhile Char.isDigit = [] ∧ rest.dropWhile Char.isDigit = rest := by
    cases rest with
    | nil => exact ⟨rfl, rfl⟩
    | cons c l =>
      have hc := (hr c rfl).1
      simp [hc]
  cases frac with
  | none =>
    have hdot : ¬rest.head? = some '.' := fun hd => (hr '.' hd).2 rfl
    simp [scanDigits_before, List.takeWhile_append_of_pos hw, List.dropWhile_append_of_pos hw,
      hrest, hdot]
  | some f =>
    have hf : AllDigits f := hf
    simp [scanDigits_before, scanDigits_after, List.takeWhile_append_of_pos hw,
      List.dropWhile_append_of_pos hw, List.takeWhile_append_of_pos hf,
        List.dropWhile_append_of_pos hf, hrest]

lemma scanExponentDigits_eq {l : Text} (hl : AllDigits l) {e : ℕ} (he : e ≤ 76) :
    scanExponentDigits l e =
    if e * 10 ^ l.length + digitsVal l ≤ 76 then some (e * 10 ^ l.length + digitsVal l, [])
    else none := by
  induction l generalizing e with
  | nil => simp [scanExponentDigits, digitsVal, he]
  | cons c l ih =>
    have hval : e * 10 ^ (c :: l).length + digitsVal
        (c :: l) = (e * 10 + digitVal c) * 10 ^ l.length + digitsVal l := by
      rw [digitsVal_cons, List.length_cons, pow_succ]
      ring
    have hle : e * 10 + digitVal c ≤ (e * 10 + digitVal c) * 10 ^ l.length :=
      Nat.le_mul_of_pos_right _ (by positivity)
    rw [scanExponentDigits, if_pos hl.head, hval]
    by_cases hlarge : 76 < e * 10 + digitVal c
    · rw [if_pos hlarge, if_neg (by omega)]
    · rw [if_neg hlarge, ih hl.tail (by omega)]

lemma allDigits_of_scanExponentDigits {l : Text} {e n : ℕ} (h : scanExponentDigits l e = some (n, [])) :
    AllDigits l := by
  induction l generalizing e with
  | nil => exact nofun
  | cons c l ih =>
    rw [scanExponentDigits] at h
    split at h
    · rename_i hc
      split at h
      · cases h
      · intro d hd
        rcases List.mem_cons.mp hd with rfl | hd
        · exact hc
        · exact ih h d hd
    · cases h

section Numeral

variable {p s : ℤ} {col : String} {input : Text}

lemma scanExponent_split {l : Text} {e : ℤ} (h : scanExponent p s col input l = .ok (e, [])) :
    ∃ x : Option Exponent, l = x.elim [] Exponent.text := by
  cases l with
  | nil => exact ⟨none, rfl⟩
  | cons c l =>
    rw [scanExponent] at h
    split at h
    · rename_i hc
      split at h
      · rename_i hd
        cases hscan : scanExponentDigits (skipSign l) 0 with
        | none => simp [hscan] at h
        | some r =>
          obtain ⟨n, rest⟩ := r
          obtain rfl : rest = [] := by
            simp only [hscan, Except.ok.injEq, Prod.mk.injEq] at h
            exact h.2
          obtain ⟨sign, hsign, -⟩ := sign_split l
          refine ⟨some ⟨c, sign, skipSign l, hc, allDigits_of_scanExponentDigits hscan, ?_⟩, ?_⟩
          · rintro hnil
            rw [hnil] at hd
            cases hd
          · rw [Option.elim_some, Exponent.text, ← hsign]
      · cases h
    · simp at h

lemma signHead_digits {l : Text} (hl : AllDigits l) : l.head?.any isSign = false := by
  cases l with
  | nil => rfl
  | cons c l =>
    have hc : c.isDigit = true := hl.head
    have hp : c ≠ '+' := by
      rintro rfl
      cases hc
    have hm : c ≠ '-' := by
      rintro rfl
      cases hc
    simp [isSign, hp, hm]

lemma scanExponent_eq (x : Option Exponent) : scanExponent p s col input (x.elim [] Exponent.text) =
    if (x.elim 0 Exponent.value).natAbs ≤ 76 then .ok (x.elim 0 Exponent.value, [])
    else .error (valueError p s col input "; exponent is too large") := by
  cases x with
  | none => rfl
  | some x =>
    obtain ⟨hskip, hneg⟩ := skipSign_eq x.sign (signHead_digits x.allDigits)
    have hhead : (x.digits.head?.any Char.isDigit) = true := by
      obtain ⟨c, l, hl⟩ := List.exists_cons_of_ne_nil x.nonempty
      have hc := x.allDigits c (by rw [hl]; exact List.mem_cons_self)
      simp [hl, hc]
    have habs : x.value.natAbs = digitsVal x.digits := by
      rw [Exponent.value, Sign.apply]
      split <;> simp
    rw [Option.elim_some, Exponent.text, scanExponent, if_pos x.mark_eq, hskip, if_pos hhead,
      scanExponentDigits_eq x.allDigits (by omega), Nat.zero_mul, Nat.zero_add, Option.elim_some, habs]
    by_cases hle : digitsVal x.digits ≤ 76
    · simp only [if_pos hle, hneg, Exponent.value, Sign.apply, decide_eq_true_eq]
    · simp only [if_neg hle]

def Padded (t : Text) (l : Literal) : Prop :=
  ∃ pre post, AllSpaces pre ∧ AllSpaces post ∧ t = pre ++ (l.text ++ post)

lemma scanNumeral_split {t : Text} {n : Numeral} (h : scanNumeral p s col t = .ok n) :
    ∃ l, Padded t l := by
  obtain ⟨pre, post, hpre, hpost, ht⟩ := trim_split t
  obtain ⟨sign, hsign, -⟩ := sign_split (trim t)
  obtain ⟨whole, frac, d, rest, hwhole, hfrac, hscan, hdigits, -, htext⟩ :=
    scanDigits_split (skipSign (trim t))
  rw [scanNumeral] at h
  dsimp only at h
  split at h
  · cases h
  · rw [hscan] at h
    dsimp only at h
    split at h
    · cases h
    · rename_i hne
      cases hexp : scanExponent p s col t rest with
      | error e => simp [hexp] at h
      | ok r =>
        obtain ⟨e, rest'⟩ := r
        cases rest' with
        | cons c l => simp [hexp] at h
        | nil =>
          obtain ⟨x, hx⟩ := scanExponent_split hexp
          refine ⟨⟨sign, whole, frac, x, hwhole, hfrac, hdigits ▸ hne⟩, pre, post, hpre, hpost, ?_⟩
          have hlit : trim t = (⟨sign, whole, frac, x, hwhole, hfrac,
              hdigits ▸ hne⟩ : Literal).text := by
            rw [hsign, htext, hx]
            rfl
          rw [← hlit]
          exact ht

lemma signHead_body (l : Literal) : (l.whole ++ (l.fracText ++ l.expText)).head?.any isSign = false := by
  have hne := l.nonempty
  cases hw : l.whole with
  | nil =>
    cases hf : l.frac with
    | none =>
      rw [hw, hf] at hne
      exact absurd rfl hne
    | some f => simp [Literal.fracText, hf, isSign]
  | cons c w =>
    have hdigits := signHead_digits l.whole_digits
    rw [hw] at hdigits
    simpa using hdigits

lemma expText_head (l : Literal) : ∀ c ∈ l.expText.head?, c.isDigit = false ∧ c ≠ '.' := by
  intro c hc
  cases hx : l.exp with
  | none => simp [Literal.expText, hx] at hc
  | some x =>
    obtain rfl : x.mark = c := by simpa [Literal.expText, hx, Exponent.text] using hc
    rcases x.mark_eq with h | h <;> rw [h] <;> decide

lemma literal_not_space (l : Literal) : ∀ c ∈ l.text, isSpace c = false := by
  intro c hc
  rcases Literal.mem_text hc with hd | rfl | rfl | rfl | rfl | rfl
  · rw [isSpace, decide_eq_false_iff_not]
    intro hs
    simp only [List.mem_cons, List.not_mem_nil, or_false] at hs
    rcases hs with rfl | rfl | rfl | rfl | rfl | rfl <;> cases hd
  all_goals decide

variable (p s col) in
lemma scanNumeral_eq {t : Text} {l : Literal} (h : Padded t l) : scanNumeral p s col t =
    if l.exponent.natAbs ≤ 76 then .ok ⟨decide (l.sign = .minus), l.digits, l.scale⟩
    else .error (valueError p s col t "; exponent is too large") := by
  obtain ⟨pre, post, hpre, hpost, rfl⟩ := h
  obtain ⟨hskip, hneg⟩ := skipSign_eq l.sign (signHead_body l)
  have hne : l.text ≠ [] := by
    intro hnil
    have hbody : l.whole ++ (l.fracText ++ l.expText) = [] := (List.append_eq_nil_iff.mp hnil).2
    have hfrac : l.frac = none := by
      cases hf : l.frac with
      | none => rfl
      | some f => simp [Literal.fracText, hf] at hbody
    apply l.nonempty
    rw [(List.append_eq_nil_iff.mp hbody).1, hfrac]
    rfl
  have htrim := trim_eq hpre hpost hne (literal_not_space l)
  have hscan := scanDigits_eq l.frac l.whole_digits l.frac_digits (expText_head l)
  rw [scanNumeral]
  dsimp only
  rw [htrim, if_neg hne, Literal.text, hskip, hneg, Literal.fracText, hscan]
  dsimp only
  rw [if_neg l.nonempty, Literal.expText, scanExponent_eq, Literal.exponent]
  split
  · rename_i hx
    split at hx
    · cases hx
    · rename_i hle
      rw [if_neg hle, ← Except.error.inj hx]
  · rename_i hx
    split at hx <;> cases hx
  · rename_i hx
    split at hx
    · rename_i hle
      rw [if_pos hle]
      simp only [Except.ok.injEq, Prod.mk.injEq, and_true] at hx
      rw [← hx]
      rfl
    · cases hx

lemma storeNumeral_eq (t : Text) (l : Literal) (negative : Bool) :
    storeNumeral p s col t ⟨negative, l.digits, l.scale⟩ =
      storeDigits p s col t negative (l.digits ++ List.replicate (-l.scale).toNat '0') l.places := by
  rw [storeNumeral]
  split
  · rename_i hneg
    have hneg : l.scale < 0 := hneg
    have hplaces : (l.places : ℤ) = 0 := by
      rw [Literal.places]
      omega
    rw [hplaces]
  · rename_i hpos
    have hpos : ¬l.scale < 0 := hpos
    have hzeros : (-l.scale).toNat = 0 := by omega
    have hplaces : (l.places : ℤ) = l.scale := by
      rw [Literal.places]
      omega
    rw [hzeros, hplaces, List.replicate_zero, List.append_nil]

lemma parse_eq {t : Text} {l : Literal} (h : Padded t l) (he : l.exponent.natAbs ≤ 76) :
    oracleColumnarParseDecimal128 (some t) p s col =
      storeDigits p s col t (decide (l.sign = .minus))
        (l.digits ++ List.replicate (-l.scale).toNat '0') l.places := by
  rw [oracleColumnarParseDecimal128, scanNumeral_eq _ _ _ h, if_pos he]
  exact storeNumeral_eq t l _

lemma coefficient_eq (l : Literal) :
    digitsVal (l.digits ++ List.replicate (-l.scale).toNat '0') = l.coefficient :=
  digitsVal_append_zeros l.digits _

lemma allDigits_zeros (l : Literal) : AllDigits (l.digits ++ List.replicate (-l.scale).toNat '0') :=
  l.digits_allDigits.append (AllDigits.zeros _)

lemma signedValue_eq (g : Sign) (c : ℕ) : signedValue (decide (g = .minus)) c = g.apply c := by
  simp only [signedValue, Sign.apply, decide_eq_true_eq]

lemma apply_natAbs (g : Sign) (c : ℕ) : (g.apply c).natAbs = c := by
  rw [Sign.apply]
  split <;> simp

end Numeral

-- the number a text denotes
def Denotes (t : Text) (q : ℚ) : Prop := ∃ l, Padded t l ∧ l.value = q

lemma padded_value {t : Text} {l r : Literal} (hl : Padded t l) (hr : Padded t r)
    (he : l.exponent.natAbs ≤ 76) :
    r.value = l.value := by
  have heq := (scanNumeral_eq 1 0 "" hr).symm.trans (scanNumeral_eq 1 0 "" hl)
  rw [if_pos he] at heq
  split at heq
  · obtain ⟨hsign, hdigits, hscale⟩ := Numeral.mk.inj (Except.ok.inj heq)
    simp only [Literal.value, Sign.apply, hdigits, hscale, decide_eq_decide.mp hsign]
  · cases heq

section Exact

variable (p s : ℤ) (col : String) (input : Option Text)

-- nothing wraps, no division is by zero, and what is stored is the number that the text denotes
def DecimalExact : Prop :=
  ∃ r, (oracleColumnarParseDecimal128 input p s col).exact = some r ∧ ∀ out, r = .ok out →
    ∃ t, input = some t ∧ (∃ q, Denotes t q) ∧
      ∀ q, Denotes t q → (out.value : ℚ) = q * 10 ^ s ∧ |out.value| < 10 ^ p.toNat

def DecimalRescales : Prop :=
  ∀ t l, input = some t → Padded t l → l.exponent.natAbs ≤ 76 → l.coefficient ≠ 0 →
    l.coefficient < 10 ^ 38 →
    Rescalable p s l.coefficient l.places

variable {p s col input} {t : Text} {l : Literal}

lemma decimalExact_literal (hl : Padded t l) (he : l.exponent.natAbs ≤ 76) :
    DecimalExact p s col (some t) ↔
    ∃ r, (oracleColumnarParseDecimal128 (some t) p s col).exact = some r ∧
      Holds p s (l.sign.apply l.coefficient) l.places r := by
  have hden : ∀ q, Denotes t q ↔ q = l.sign.apply l.coefficient * (10 : ℚ) ^ (-(l.places : ℤ)) := by
    intro q
    rw [← Literal.value_eq]
    constructor
    · rintro ⟨r, hr, rfl⟩
      exact padded_value hl hr he
    · rintro rfl
      exact ⟨l, hl, rfl⟩
  constructor
  · rintro ⟨r, hr, hout⟩
    refine ⟨r, hr, fun out ho => ?_⟩
    obtain ⟨t', ht, -, hq⟩ := hout out ho
    obtain rfl := Option.some.inj ht
    exact hq _ ((hden _).mpr rfl)
  · rintro ⟨r, hr, hholds⟩
    refine ⟨r, hr, fun out ho => ⟨t, rfl, ⟨_, (hden _).mpr rfl⟩, fun q hq => ?_⟩⟩
    rw [(hden q).mp hq]
    exact hholds out ho

lemma decimalExact_coefficient (hps : oracleColumnarDecimalMetadataSupported p s = true)
    (hl : Padded t l)
    (he : l.exponent.natAbs ≤ 76) : DecimalExact p s col (some t) ↔
      (l.coefficient ≠ 0 → l.coefficient < 10 ^ 38 → Rescalable p s l.coefficient l.places) := by
  rw [oracleColumnarDecimalMetadataSupported, decide_eq_true_eq] at hps
  obtain ⟨hp, hp', hs, hsp⟩ := hps
  rw [decimalExact_literal hl he, parse_eq hl he]
  by_cases hzero : l.coefficient = 0
  · rw [storeDigits_zero (allDigits_zeros l) (by rw [coefficient_eq, hzero])]
    refine ⟨fun _ h => absurd hzero h, fun _ => ⟨_, rfl, ?_⟩⟩
    intro out ho
    obtain rfl := Except.ok.inj ho
    rw [storage_value (by norm_num), hzero]
    simp [Sign.apply]
  · by_cases hlong : 10 ^ 38 ≤ l.coefficient
    · obtain ⟨e, herr⟩ :=
        storeDigits_long p s col t (decide (l.sign = .minus)) l.places (allDigits_zeros l)
        (by rw [coefficient_eq]; exact hlong)
      rw [herr]
      refine ⟨fun _ _ h => absurd hlong (not_le.mpr h), fun _ => ⟨_, rfl, ?_⟩⟩
      intro out ho
      cases ho
    · have hlt := not_le.mp hlong
      rw [exact_storeDigits (allDigits_zeros l) (by rw [coefficient_eq]; exact hzero)
        (by rw [coefficient_eq]; exact hlt), coefficient_eq, signedValue_eq]
      have habs := apply_natAbs l.sign l.coefficient
      have hne : l.sign.apply l.coefficient ≠ 0 := by
        rw [← Int.natAbs_ne_zero, habs]
        exact hzero
      have hiff := rescalable_iff col t hp hp' hsp (Int.natCast_nonneg l.places) hne
        (by rw [habs]; exact hlt)
      rw [habs] at hiff
      rw [← hiff]
      exact ⟨fun h _ _ => h, fun h => h hzero hlt⟩

/-- The parser of 128-bit decimals is exact if and only if the conversion to the declared scale is
exact or refused. -/
theorem decimalExact_iff (hps : oracleColumnarDecimalMetadataSupported p s = true) (col : String)
    (input : Option Text) : DecimalExact p s col input ↔ DecimalRescales p s input := by
  constructor
  · rintro h t l rfl hl he
    exact (decimalExact_coefficient hps hl he).mp h
  · intro h
    cases input with
    | none =>
      refine ⟨_, rfl, fun out ho => ?_⟩
      cases ho
    | some t =>
      cases hn : scanNumeral p s col t with
      | error e =>
        have hparse : oracleColumnarParseDecimal128 (some t) p s col = pure (.error e) := by
          rw [oracleColumnarParseDecimal128, hn]
        rw [DecimalExact, hparse]
        refine ⟨_, rfl, fun out ho => ?_⟩
        cases ho
      | ok n =>
        obtain ⟨l, hl⟩ := scanNumeral_split hn
        have he : l.exponent.natAbs ≤ 76 := by
          by_contra he
          rw [scanNumeral_eq _ _ _ hl, if_neg he] at hn
          cases hn
        exact (decimalExact_coefficient hps hl he).mpr (h t l rfl hl he)

theorem decimalExact_iff_money :
    DecimalExact 10 2 "price" (some "1.5".toList) ↔ DecimalRescales 10 2 (some "1.5".toList) :=
  decimalExact_iff (by decide) "price" (some "1.5".toList)

def fourLiteral : Literal := ⟨.none, ['4'], none, none, by decide, noFrac_digits, by decide⟩

/-- The product with the power of ten wraps before the declared precision is compared. -/
theorem not_decimalExact_four : ¬DecimalExact 38 38 "share" (some "4".toList) := by
  have hl : Padded "4".toList fourLiteral := ⟨[], [], nofun, nofun, rfl⟩
  have hcoef : fourLiteral.coefficient = 4 := rfl
  rw [decimalExact_coefficient (by decide) hl (by decide), hcoef]
  intro h
  have hfits := h (by decide) (by norm_num)
  rw [Rescalable, if_pos (by decide)] at hfits
  have hshift : ((38 : ℤ) - (fourLiteral.places : ℤ)).toNat = 38 := rfl
  rw [hshift] at hfits
  norm_num at hfits

lemma natAbs_lt_pow {m : ℤ} (hp : p ≤ 38) (hm : |m| < 10 ^ p.toNat) : m.natAbs < 10 ^ 38 := by
  have hpow : (10 : ℤ) ^ p.toNat ≤ 10 ^ 38 := pow_le_pow_right₀ (by norm_num) (by omega)
  rw [Int.abs_eq_natAbs] at hm
  norm_num at hpow ⊢
  omega

/-- A number that the column can hold is accepted when it is written without an exponent, and it is
stored as it is. -/
theorem decimal_stored (hps : oracleColumnarDecimalMetadataSupported p s = true) (col : String) (m : ℤ)
    (hm : |m| < 10 ^ p.toNat) (l : Literal) (hexp : l.exp = none) (hfrac : (l.fracDigits.length : ℤ) ≤ s)
    (hval : l.value = m * 10 ^ (-s)) :
    ∃ out, (oracleColumnarParseDecimal128 (some l.text) p s col).exact = some (.ok out) ∧
      out.value = m := by
  rw [oracleColumnarDecimalMetadataSupported, decide_eq_true_eq] at hps
  obtain ⟨hp, hp', hs, hsp⟩ := hps
  have hl : Padded l.text l := ⟨[], [], nofun, nofun, by simp⟩
  have hx : l.exponent = 0 := by rw [Literal.exponent, hexp, Option.elim_none]
  have hplaces : (l.places : ℤ) = l.fracDigits.length := by
    rw [Literal.places, Literal.scale, hx]
    omega
  have hm38 := natAbs_lt_pow hp' hm
  have hstored : stored p s col l.text m = .ok (oracleColumnarDecimalStorage m) := by
    rw [stored, if_pos hm]
  have hout : (oracleColumnarDecimalStorage m).value = m := storage_value (hm38.trans (by norm_num))
  obtain ⟨n, hn⟩ := Int.eq_ofNat_of_zero_le (show 0 ≤ s - l.places by omega)
  have hmul : l.sign.apply l.coefficient * 10 ^ n = m := by
    rw [Literal.value_eq] at hval
    have hshift := congrArg (· * (10 : ℚ) ^ s) hval
    simp only [mul_assoc, shift_eq, hn, zpow_natCast] at hshift
    rw [sub_self, zpow_zero, mul_one] at hshift
    exact_mod_cast hshift
  refine ⟨oracleColumnarDecimalStorage m, ?_, hout⟩
  rw [parse_eq hl (by rw [hx]; decide)]
  by_cases hzero : l.coefficient = 0
  · have hm0 : m = 0 := by
      rw [← hmul, hzero]
      simp [Sign.apply]
    rw [storeDigits_zero (allDigits_zeros l) (by rw [coefficient_eq, hzero]), hm0]
    rfl
  · have hprod : l.coefficient * 10 ^ n = m.natAbs := by
      rw [← hmul, Int.natAbs_mul, apply_natAbs, Int.natAbs_pow]
      rfl
    have hlt : l.coefficient < 10 ^ 38 := by
      refine lt_of_le_of_lt ?_ hm38
      rw [← hprod]
      exact Nat.le_mul_of_pos_right _ (by positivity)
    rw [exact_storeDigits (allDigits_zeros l) (by rw [coefficient_eq]; exact hzero)
      (by rw [coefficient_eq]; exact hlt), coefficient_eq, signedValue_eq]
    rcases Nat.eq_zero_or_pos n with rfl | hpos
    · have hks : (l.places : ℤ) = s := by omega
      rw [pow_zero, mul_one] at hmul
      rw [hmul, hks, exact_rescale_same hp hm38, hstored]
    · rw [exact_rescale_up hp (by omega) (by omega) (by omega), apply_natAbs, hn,
        Int.toNat_natCast, hprod, if_pos (hm38.trans (by norm_num)), hmul, hstored]

theorem decimal_stored_negative :
    ∃ out, (oracleColumnarParseDecimal128
      (some (⟨.minus, ['1'], some ['5', '0'], none, by decide, by decide,
        by decide⟩ : Literal).text) 10 2
      "price").exact = some (.ok out) ∧ out.value = -150 :=
  decimal_stored (by decide) "price" (-150) (by decide) _ rfl (by decide) (by
    have hdigits : digitsVal ['1', '5', '0'] = 150 := rfl
    norm_num [Literal.value, Literal.scale, Literal.exponent, Literal.fracDigits, Literal.digits,
      Sign.apply, hdigits])

end Exact

end OracleDriver
