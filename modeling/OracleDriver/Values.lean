import OracleDriver.Library.BinaryRounding
import OracleDriver.Library.CharSplit
import OracleDriver.Library.DecimalText
import Mathlib.Algebra.Order.Ring.Int
import Mathlib.Data.List.TakeWhile

namespace OracleDriver

abbrev Text := List Char

def Ascii (c : Char) : Prop := c.toNat < 128

instance (c : Char) : Decidable (Ascii c) := Nat.decLt _ _

-- a byte from 0x80 to 0xbf continues what begins with another byte from 0x80 on
def utf8Joined (a b : Char) : Bool :=
  decide (128 ≤ a.toNat) && (decide (128 ≤ b.toNat) && decide (b.toNat < 192))

lemma utf8Joined_ascii (a c : Char) (hc : Ascii c) :
    utf8Joined a c = false ∧ utf8Joined c a = false := by
  have hlt : ¬128 ≤ c.toNat := not_le.mpr hc
  simp [utf8Joined, hlt]

-- the characters of UTF-8, each byte being a character of the text
def utf8Chars : CharSplit Char Ascii := .ofJoined utf8Joined utf8Joined_ascii

def peek (l : Text) : Char := l.headD '\x00'

def cStr (l : Text) : Text := l.takeWhile (· ≠ '\x00')

lemma cStr_eq_iff (t : Text) : cStr t = t ↔ '\x00' ∉ t := by
  rw [cStr, List.takeWhile_eq_self_iff]
  constructor
  · intro h hmem
    simpa using h _ hmem
  · intro h ch hmem
    simp only [decide_eq_true_eq]
    rintro rfl
    exact h hmem

def isNameChar (c : Char) : Bool := c.isAlphanum || c == '_'

abbrev Encoding := ℕ

structure Exn where
  err : String
  desc : String
deriving DecidableEq, Repr

structure QoreString where
  text : Text
  enc : Encoding
deriving DecidableEq, Repr

inductive QoreValue where
  | nothing
  | null
  | bool (b : Bool)
  | int (i : ℤ)
  | float (bits : ℕ)
  | number (digits : Text)
  | date (epoch : ℤ) (micros : ℕ)
  | string (s : QoreString)
  | binary (bytes : List UInt8)
  | list (l : List QoreValue)
  | hash (h : List (Text × QoreValue))
  | reference (target : QoreValue)
  | object (cls : Text)
deriving Repr

namespace QoreValue

def isNothing : QoreValue → Bool
  | nothing => true
  | _ => false

def isNullOrNothing : QoreValue → Bool
  | nothing | null => true
  | _ => false

def isList : QoreValue → Bool
  | list _ => true
  | _ => false

def isBinary : QoreValue → Bool
  | binary _ => true
  | _ => false

-- the elements of a list
def elems : QoreValue → List QoreValue
  | list l => l
  | _ => []

def typeName : QoreValue → Text
  | nothing => "nothing".toList
  | null => "NULL".toList
  | bool _ => "bool".toList
  | int _ => "integer".toList
  | float _ => "float".toList
  | number _ => "number".toList
  | date _ _ => "date".toList
  | string _ => "string".toList
  | binary _ => "binary".toList
  | list _ => "list".toList
  | hash _ => "hash".toList
  | reference _ => "reference".toList
  | object c => c

def resolveIndirect : QoreValue → QoreValue
  | reference t => t.resolveIndirect
  | v => v

def getKeyValue (h : List (Text × QoreValue)) (key : String) : QoreValue :=
  (h.lookup key.toList).getD nothing

def existsKey (h : List (Text × QoreValue)) (key : String) : Bool :=
  (h.lookup key.toList).isSome

end QoreValue

def retrieveEntry (args : Option (List QoreValue)) (i : ℕ) : QoreValue :=
  (args.bind (·[i]?)).getD .nothing

-- Qore library functions the driver calls and does not define; `chars` are the characters that
-- QoreString::splice() counts, and QoreNumberNode(str) has a mantissa of `numberPrec` bits
structure QoreLib where
  getAsBigInt : QoreValue → ℤ
  getAsFloat : QoreValue → ℕ
  toText : QoreValue → Text
  convert : Encoding → Encoding → Text → Option Text
  concatNumeric : QoreValue → Text
  concatString : QoreValue → Except Exn Text
  chars : CharSplit Char Ascii
  numberPrec : Text → ℕ
  number : Text → ℚ

-- a number is as near to its text as its mantissa allows
structure QoreLib.RoundsNumbers (lib : QoreLib) : Prop where
  nearest : ∀ t q, DecimalText.value t = some q →
    BinaryRounding.Nearest (lib.numberPrec t) q (lib.number t)

-- the functions on integers and strings that need no conversion
def plainLib : QoreLib where
  getAsBigInt
    | .int i => i
    | .bool b => if b then 1 else 0
    | _ => 0
  getAsFloat
    | .float f => f
    | _ => 0
  toText
    | .string s => s.text
    | .int i => (toString i).toList
    | .number d => d
    | _ => []
  convert _ _ t := some t
  concatNumeric
    | .int i => (toString i).toList
    | .number d => d
    | _ => "null".toList
  concatString
    | .string s => .ok s.text
    | _ => .ok []
  chars := .single Char Ascii
  numberPrec t := max 128 (5 * t.length)
  number t := BinaryRounding.roundTo (max 128 (5 * t.length)) ((DecimalText.value t).getD 0)

lemma plainLib_roundsNumbers : plainLib.RoundsNumbers where
  nearest t q hq := by
    have hnumber : plainLib.number t = BinaryRounding.roundTo (plainLib.numberPrec t) q := by
      show BinaryRounding.roundTo _ ((DecimalText.value t).getD 0) = _
      rw [hq]
      rfl
    rw [hnumber]
    apply BinaryRounding.roundTo_nearest
    show 0 < max 128 (5 * t.length)
    omega

end OracleDriver
