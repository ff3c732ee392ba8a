import OracleDriver.Library.DecimalText

/-! The grammar of decimal literals: an optional sign, digits with an optional point among them, and
an optional exponent. -/

namespace DecimalText

inductive Sign where
  | none
  | plus
  | minus
deriving DecidableEq, Repr

namespace Sign

def text : Sign → List Char
  | none => []
  | plus => ['+']
  | minus => ['-']

def apply (s : Sign) (n : ℕ) : ℤ := if s = minus then -n else n

end Sign

structure Exponent where
  mark : Char
  sign : Sign
  digits : List Char
  mark_eq : mark = 'e' ∨ mark = 'E'
  allDigits : AllDigits digits
  nonempty : digits ≠ []

namespace Exponent

def text (e : Exponent) : List Char := e.mark :: (e.sign.text ++ e.digits)

def value (e : Exponent) : ℤ := e.sign.apply (digitsVal e.digits)

end Exponent

structure Literal where
  sign : Sign
  whole : List Char
  frac : Option (List Char)
  exp : Option Exponent
  whole_digits : AllDigits whole
  frac_digits : AllDigits (frac.getD [])
  nonempty : whole ++ frac.getD [] ≠ []

lemma noFrac_digits : AllDigits ((none : Option (List Char)).getD []) := nofun

namespace Literal

variable (l : Literal)

def fracText : List Char := l.frac.elim [] ('.' :: ·)

def expText : List Char := l.exp.elim [] Exponent.text

def text : List Char := l.sign.text ++ (l.whole ++ (l.fracText ++ l.expText))

def fracDigits : List Char := l.frac.getD []

def digits : List Char := l.whole ++ l.fracDigits

def exponent : ℤ := l.exp.elim 0 Exponent.value

-- the number of digits that the point stands before the end of the digits
def scale : ℤ := l.fracDigits.length - l.exponent

def value : ℚ := l.sign.apply (digitsVal l.digits) * (10 : ℚ) ^ (-l.scale)

lemma digits_allDigits : AllDigits l.digits := l.whole_digits.append l.frac_digits

-- the digits with the zeros that a large exponent puts behind them, and how many of them are behind
-- the point
def coefficient : ℕ := digitsVal l.digits * 10 ^ (-l.scale).toNat

def places : ℕ := l.scale.toNat

lemma value_eq : l.value = l.sign.apply l.coefficient * (10 : ℚ) ^ (-(l.places : ℤ)) := by
  have happly : (l.sign.apply l.coefficient : ℚ) = l.sign.apply (digitsVal l.digits) * 10 ^
      (-l.scale).toNat := by
    simp only [Sign.apply, coefficient]
    split <;> simp
  rw [value, happly, mul_assoc, ← zpow_natCast, ← zpow_add₀ (by norm_num)]
  congr 2
  simp only [places]
  omega

end Literal

lemma Sign.mem_text {s : Sign} {c : Char} (h : c ∈ s.text) : c = '+' ∨ c = '-' := by
  cases s <;> simp_all [Sign.text]

lemma Exponent.mem_text {e : Exponent} {c : Char} (h : c ∈ e.text) :
    c.isDigit = true ∨ c = '+' ∨ c = '-' ∨ c = 'e' ∨ c = 'E' := by
  rcases List.mem_cons.mp h with rfl | h
  · exact Or.inr (Or.inr (Or.inr e.mark_eq))
  · rcases List.mem_append.mp h with h | h
    · rcases Sign.mem_text h with rfl | rfl <;> simp
    · exact Or.inl (e.allDigits c h)

lemma Literal.mem_text {l : Literal} {c : Char} (h : c ∈ l.text) :
    c.isDigit = true ∨ c = '+' ∨ c = '-' ∨ c = '.' ∨ c = 'e' ∨ c = 'E' := by
  simp only [Literal.text, List.mem_append] at h
  rcases h with h | h | h | h
  · rcases Sign.mem_text h with rfl | rfl <;> simp
  · exact Or.inl (l.whole_digits c h)
  · have hfrac := l.frac_digits
    revert h
    cases hf : l.frac with
    | none => simp [Literal.fracText, hf]
    | some f =>
      rw [hf] at hfrac
      intro h
      simp only [Literal.fracText, hf, Option.elim_some, List.mem_cons] at h
      rcases h with rfl | h
      · simp
      · exact Or.inl (hfrac c h)
  · cases he : l.exp with
    | none => simp [Literal.expText, he] at h
    | some e =>
      rw [Literal.expText, he, Option.elim_some] at h
      rcases Exponent.mem_text h with h | h | h | h | h <;> simp [h]

end DecimalText
