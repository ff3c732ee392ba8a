import Mathlib.Data.List.DropRight
import OracleDriver.Library.DecimalLiteral
import OracleDriver.Library.FixedWidth
import OracleDriver.Values

/-! The texts of NUMBER columns with a declared precision and scale are turned into 128-bit decimals. -/

namespace OracleDriver

open DecimalText FixedWidth

def oracleColumnarDecimalMetadataSupported (precision scale : ℤ) : Bool :=
  decide (0 < precision ∧ precision ≤ 38 ∧ 0 ≤ scale ∧ scale ≤ precision)

def oracleColumnarDecimalAbs (value : ℤ) : Calc ℤ := if value < 0 then neg 128 value else pure value

def pow10Loop : ℕ → Calc ℤ
  | 0 => pure 1
  | i + 1 => do mul 128 (← pow10Loop i) 10

def oracleColumnarDecimalPow10 (exponent : ℤ) : Calc ℤ := pow10Loop exponent.toNat

def precisionLoop (value rv : ℤ) : ℤ := if 10 ≤ value then precisionLoop (value / 10) (rv + 1) else rv
termination_by value.toNat

def oracleColumnarDecimalPrecision (value : ℤ) : Calc ℤ := do
  return precisionLoop (← oracleColumnarDecimalAbs value) 1

structure QoreBufferDecimal128 where
  low : ℕ
  high : ℤ
  low_lt : low < 2 ^ 64
  high_range : -2 ^ 63 ≤ high ∧ high < 2 ^ 63

-- the two words read as one signed number
def QoreBufferDecimal128.value (d : QoreBufferDecimal128) : ℤ := d.high * 2 ^ 64 + d.low

def oracleColumnarDecimalStorage (value : ℤ) : QoreBufferDecimal128 where
  low := (value % 2 ^ 128 % 2 ^ 64).toNat
  high := (value % 2 ^ 128 / 2 ^ 64).bmod (2 ^ 64)
  low_lt := by omega
  high_range := ⟨Int.le_bmod (by omega), Int.bmod_lt (by omega)⟩

def isSpace (c : Char) : Bool := c ∈ [' ', '\t', '\n', '\x0b', '\x0c', '\r']

def trim (input : Text) : Text := (input.dropWhile isSpace).rdropWhile isSpace

structure ScannedDigits where
  digits : Text
  seenDot : Bool
  fractionalDigits : ℕ

def scanDigits : Text → ScannedDigits → ScannedDigits × Text
  | [], d => (d, [])
  | c :: l, d =>
    if c.isDigit then
      scanDigits l { d with
        digits := d.digits ++ [c]
        fractionalDigits := if d.seenDot then d.fractionalDigits + 1 else d.fractionalDigits }
    else if c = '.' ∧ d.seenDot = false then scanDigits l { d with seenDot := true }
    else (d, c :: l)

-- `none` as soon as the exponent is too large
def scanExponentDigits : Text → ℕ → Option (ℕ × Text)
  | [], e => some (e, [])
  | c :: l, e =>
    if c.isDigit then
      if 76 < e * 10 + digitVal c then none else scanExponentDigits l (e * 10 + digitVal c)
    else some (e, c :: l)

def isSign (c : Char) : Bool := c == '+' || c == '-'

def skipSign (l : Text) : Text := if l.head?.any isSign then l.tail else l

def isNegative (l : Text) : Bool := l.head? == some '-'

structure Numeral where
  negative : Bool
  digits : Text
  sourceScale : ℤ

section Parse

variable (targetPrecision targetScale : ℤ) (columnName : String)

def decimalError (rest : String) : Exn := ⟨"ORACLE-COLUMNAR-DECIMAL-ERROR", "cannot convert NUMBER(" ++
  toString targetPrecision ++ "," ++ toString targetScale ++ ") column '" ++ columnName ++ "' " ++ rest⟩

def valueError (input : Text) (rest : String) : Exn :=
  decimalError targetPrecision targetScale columnName
    ("value '" ++ String.ofList input ++ "' to decimal128" ++ rest)

variable (input : Text)

def scanExponent : Text → Except Exn (ℤ × Text)
  | [] => .ok (0, [])
  | c :: l =>
    if c = 'e' ∨ c = 'E' then
      if (skipSign l).head?.any Char.isDigit then
        match scanExponentDigits (skipSign l) 0 with
        | none =>
          .error (valueError targetPrecision targetScale columnName input "; exponent is too large")
        | some (e, rest) => .ok (if isNegative l then -e else e, rest)
      else .error (valueError targetPrecision targetScale columnName input "; invalid exponent")
    else .ok (0, c :: l)

def scanNumeral : Except Exn Numeral :=
  let text := trim input
  if text = [] then
    .error (decimalError targetPrecision targetScale columnName "empty value to decimal128")
  else
    let (d, rest) := scanDigits (skipSign text) ⟨[], false, 0⟩
    if d.digits = [] then
      .error (valueError targetPrecision targetScale columnName input "; expected at least one digit")
    else
      match scanExponent targetPrecision targetScale columnName input rest with
      | .error e => .error e
      | .ok (_, c :: _) => .error (valueError targetPrecision targetScale columnName input
          ("; unexpected character '" ++ String.ofList [c] ++ "'"))
      | .ok (exponent, []) => .ok ⟨isNegative text, d.digits, d.fractionalDigits - exponent⟩

def storeUnscaled (unscaled : ℤ) : Calc (Except Exn QoreBufferDecimal128) := do
  if targetPrecision < (← oracleColumnarDecimalPrecision unscaled) then
    return .error
      (valueError targetPrecision targetScale columnName input "; value exceeds declared precision")
  return .ok (oracleColumnarDecimalStorage unscaled)

-- the difference of the scales is cast to 32 bits
def rescale (unscaled sourceScale : ℤ) : Calc (Except Exn QoreBufferDecimal128) := do
  if sourceScale < targetScale then
    let factor ← oracleColumnarDecimalPow10 (wrap 32 (targetScale - sourceScale))
    let unscaled ← mul 128 unscaled factor
    storeUnscaled targetPrecision targetScale columnName input unscaled
  else if targetScale < sourceScale then
    let divisor ← oracleColumnarDecimalPow10 (wrap 32 (sourceScale - targetScale))
    let remainder ← rem 128 unscaled divisor
    if remainder ≠ 0 then
      return .error (valueError targetPrecision targetScale columnName input " without losing precision")
    let unscaled ← div 128 unscaled divisor
    storeUnscaled targetPrecision targetScale columnName input unscaled
  else
    storeUnscaled targetPrecision targetScale columnName input unscaled

def pushDigit (unscaled : ℤ) (c : Char) : Calc ℤ := do add 128 (← mul 128 unscaled 10) (digitVal c)

def storeDigits (negative : Bool) (digits : Text) (sourceScale : ℤ) :
    Calc (Except Exn QoreBufferDecimal128) := do
  let significant := digits.dropWhile (· == '0')
  if significant = [] then
    return .ok (oracleColumnarDecimalStorage 0)
  if 38 < significant.length then
    return .error (valueError targetPrecision targetScale columnName input
      ("; precision " ++ toString significant.length ++ " exceeds decimal128 maximum precision 38"))
  let unscaled ← significant.foldlM pushDigit 0
  let unscaled ← if negative then neg 128 unscaled else pure unscaled
  rescale targetPrecision targetScale columnName input unscaled sourceScale

-- an integer with zeros behind its digits has the scale zero
def storeNumeral (n : Numeral) : Calc (Except Exn QoreBufferDecimal128) :=
  if n.sourceScale < 0 then
    storeDigits targetPrecision targetScale columnName input n.negative
      (n.digits ++ List.replicate (-n.sourceScale).toNat '0') 0
  else
    storeDigits targetPrecision targetScale columnName input n.negative n.digits n.sourceScale

end Parse

def oracleColumnarParseDecimal128 (input : Option Text) (targetPrecision targetScale : ℤ)
    (columnName : String) :
    Calc (Except Exn QoreBufferDecimal128) :=
  match input with
  | none =>
    pure (.error
      (decimalError targetPrecision targetScale columnName "to decimal128; value is not available"))
  | some input =>
    match scanNumeral targetPrecision targetScale columnName input with
    | .error e => pure (.error e)
    | .ok n => storeNumeral targetPrecision targetScale columnName input n

end OracleDriver
