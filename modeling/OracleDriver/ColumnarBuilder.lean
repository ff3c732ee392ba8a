import OracleDriver.Library.Bitmap
import OracleDriver.NumberConversions
import OracleDriver.SelectKeys

/-! The columns of a columnar select: buffers with a bitmap of the rows that are not NULL, and lists. -/

namespace OracleDriver

open DecimalText FixedWidth Bitmap

-- a column after a row was fetched; `word` is buf.i8 and buf.f8, `converted` is what the types
-- without a case give, and `cancel` is what qore_check_cancel() finds while the row is appended
structure FetchedRow where
  ind : ℤ
  word : BitVec 64
  text : Text
  converted : Except Exn QoreValue
  cancel : ℕ → Option Exn

def ColumnBuffer.numeric (column : ColumnBuffer) : Bool :=
  column.dtype ∈ [2, 3, 4, 6, 21, 22, 68, 100, 101]

-- OraColumnValue::getValue()
def FetchedRow.getValue (opt : NumberOption) (enc : Encoding) (column : ColumnBuffer) (r : FetchedRow) :
    Except Exn QoreValue :=
  if r.ind = -1 then .ok .null
  else
    match column.dtype with
    | 3 | 68 => .ok (.int r.word.toInt)
    | 4 | 21 | 22 | 100 | 101 => .ok (.float r.word.toNat)
    | 2 | 6 =>
      match opt with
      | .optimal => .ok (getNumberOptimal r.text)
      | .string => .ok (.string ⟨r.text, enc⟩)
      | .numeric => .ok (.number r.text)
    | _ => r.converted

def nullConverted : Except Exn QoreValue → Bool
  | .ok .null => true
  | _ => false

-- objects and collections have an indicator of their own
def FetchedRow.isNull (column : ColumnBuffer) (r : FetchedRow) : Bool :=
  r.ind == -1 || !column.numeric && nullConverted r.converted

structure OracleColumnarStorage where
  intValues : List ℤ
  floatValues : List ℕ
  decimalValues : List QoreBufferDecimal128
  validity : List (BitVec 8)

def oracleColumnarBitmapSize (size : ℕ) : ℕ := (size + 7) / 8

def oracleColumnarSetValidityBit (validity : List (BitVec 8)) (index : ℕ) (valid : Bool) :
    List (BitVec 8) :=
  let byte := index / 8
  let validity := if validity.length ≤ byte then resize validity (byte + 1) 0 else validity
  let mask : BitVec 8 := 1#8 <<< (index % 8)
  validity.modify byte fun w => if valid then w ||| mask else w &&& ~~~mask

def oracleColumnarIsValid (validity : List (BitVec 8)) (index : ℕ) : Bool :=
  if validity = [] then true
  else
    let byte := index / 8
    decide (byte < validity.length) && (validity.getD byte 0 &&& 1#8 <<< (index % 8) != 0)

def oracleColumnarParseInt64 (str : Text) : Option ℤ :=
  if str = [] ∨ '.' ∈ str ∨ 'e' ∈ str ∨ 'E' ∈ str then none
  else
    -- strtoll() stops at the start of the text when it finds no digit
    let l := str.dropWhile isSpace
    let digits := (skipSign l).takeWhile Char.isDigit
    let rest := (skipSign l).dropWhile Char.isDigit
    let rv : ℤ := if isNegative l then -digitsVal digits else digitsVal digits
    if digits = [] ∨ ¬Fits 64 rv ∨ rest ≠ [] then none else some rv

inductive OracleColumnarKind where
  | int64
  | float64
  | decimal128
  | numberOptimal
  | list
deriving DecidableEq, Repr

inductive Failure where
  | raised (e : Exn)
  -- an index behind the end of a vector, or a division by zero
  | undefined
deriving DecidableEq, Repr

structure OracleColumnarBuilder where
  column : ColumnBuffer
  name : Text
  kind : OracleColumnarKind
  storage : OracleColumnarStorage
  list : List QoreValue
  rowCount : ℕ
  nullCount : ℕ

namespace OracleColumnarBuilder

def columnKind (column : ColumnBuffer) (numberOption : NumberOption) : OracleColumnarKind :=
  match column.dtype with
  | 3 | 68 => .int64
  | 4 | 21 | 22 | 100 | 101 => .float64
  | 2 =>
    if numberOption ≠ .string ∧ oracleColumnarDecimalMetadataSupported column.precision column.scale ∧
        ¬(numberOption = .optimal ∧ column.scale = 0 ∧ column.precision ≤ 18) then .decimal128
    else if numberOption = .optimal then .numberOptimal
    else .list
  | _ => .list

def new (column : ColumnBuffer) (name : Text) (numberOption : NumberOption) : OracleColumnarBuilder :=
  ⟨column, name, columnKind column numberOption, ⟨[], [], [], []⟩, [], 0, 0⟩

def ensureValidity (b : OracleColumnarBuilder) : List (BitVec 8) :=
  if b.storage.validity ≠ [] then resize b.storage.validity (oracleColumnarBitmapSize (b.rowCount + 1)) 0
  else resize b.storage.validity (oracleColumnarBitmapSize (b.rowCount + 1)) 0xff

def pushZero (kind : OracleColumnarKind) (s : OracleColumnarStorage) : OracleColumnarStorage :=
  match kind with
  | .float64 => { s with floatValues := s.floatValues ++ [0] }
  | .decimal128 => { s with decimalValues := s.decimalValues ++ [⟨0, 0, by decide, by decide⟩] }
  | _ => { s with intValues := s.intValues ++ [0] }

def appendNull (b : OracleColumnarBuilder) : OracleColumnarBuilder :=
  let validity := oracleColumnarSetValidityBit b.ensureValidity b.rowCount false
  { b with
    storage := pushZero b.kind { b.storage with validity := validity }
    nullCount := b.nullCount + 1
    rowCount := b.rowCount + 1 }

def appendValid (b : OracleColumnarBuilder) : OracleColumnarBuilder :=
  let validity :=
    if b.storage.validity ≠ [] then oracleColumnarSetValidityBit b.storage.validity b.rowCount true
    else b.storage.validity
  { b with storage := { b.storage with validity := validity }, rowCount := b.rowCount + 1 }

def fallbackRows (cancel : ℕ → Option Exn) (s : OracleColumnarStorage) :
    List ℕ → List QoreValue → Except Failure Unit × List QoreValue
  | [], list => (.ok (), list)
  | i :: rows, list =>
    match if i ≠ 0 ∧ i % 100 = 0 then cancel i else none with
    | some e => (.error (.raised e), list)
    | none =>
      if oracleColumnarIsValid s.validity i then
        match s.intValues[i]? with
        | none => (.error .undefined, list)
        | some v => fallbackRows cancel s rows (list ++ [.int v])
      else fallbackRows cancel s rows (list ++ [.null])

def fallbackToList (cancel : ℕ → Option Exn) (b : OracleColumnarBuilder) :
    Except Failure Unit × OracleColumnarBuilder :=
  match fallbackRows cancel b.storage (List.range b.rowCount) [] with
  | (.error e, list) => (.error e, { b with list := list })
  | (.ok (), list) =>
    (.ok (), { b with list := list, kind := .list, storage := ⟨[], [], [], []⟩, nullCount := 0 })

section Append

variable (opt : NumberOption) (enc : Encoding)

def appendList (b : OracleColumnarBuilder) (r : FetchedRow) :
    Except Failure Unit × OracleColumnarBuilder :=
  match r.getValue opt enc b.column with
  | .error e => (.error (.raised e), b)
  | .ok v => (.ok (), { b with list := b.list ++ [v], rowCount := b.rowCount + 1 })

def append (b : OracleColumnarBuilder) (r : FetchedRow) : Except Failure Unit × OracleColumnarBuilder :=
  if b.kind = .list then b.appendList opt enc r
  else if r.ind = -1 then (.ok (), b.appendNull)
  else
    match b.kind with
    | .int64 =>
      let storage := { b.storage with intValues := b.storage.intValues ++ [r.word.toInt] }
      (.ok (), { b with storage := storage }.appendValid)
    | .float64 =>
      let storage := { b.storage with floatValues := b.storage.floatValues ++ [r.word.toNat] }
      (.ok (), { b with storage := storage }.appendValid)
    | .decimal128 =>
      match (oracleColumnarParseDecimal128 (some r.text) b.column.precision b.column.scale
          (String.ofList b.name)).val with
      | none => (.error .undefined, b)
      | some (.error e) => (.error (.raised e), b)
      | some (.ok value) =>
        let storage := { b.storage with decimalValues := b.storage.decimalValues ++ [value] }
        (.ok (), { b with storage := storage }.appendValid)
    | .numberOptimal =>
      match oracleColumnarParseInt64 r.text with
      | some value =>
        let storage := { b.storage with intValues := b.storage.intValues ++ [value] }
        (.ok (), { b with storage := storage }.appendValid)
      | none =>
        match b.fallbackToList r.cancel with
        | (.error e, b) => (.error e, b)
        | (.ok (), b) => b.appendList opt enc r
    | .list => (.error .undefined, b)

end Append

end OracleColumnarBuilder

inductive QoreBufferElementType where
  | int64
  | float64
  | decimal128
deriving DecidableEq, Repr

-- `validity` is none for a buffer without NULLs, and `decimal` is the precision and the scale of
-- decimals
structure QoreBufferNode where
  elementType : QoreBufferElementType
  nullable : Bool
  rowCount : ℕ
  data : OracleColumnarStorage
  validity : Option (List (BitVec 8))
  nullCount : ℕ
  decimal : Option (ℤ × ℤ)

inductive ColumnarColumn where
  | list (l : List QoreValue)
  | buffer (n : QoreBufferNode)

namespace OracleColumnarBuilder

def elementType (kind : OracleColumnarKind) : QoreBufferElementType :=
  match kind with
  | .float64 => .float64
  | .decimal128 => .decimal128
  | _ => .int64

def finish (b : OracleColumnarBuilder) : ColumnarColumn :=
  if b.kind = .list then .list b.list
  else
    let elementType := elementType b.kind
    let nullable := decide (0 < b.nullCount)
    let validity := if nullable ∧ b.storage.validity ≠ [] then some b.storage.validity else none
    let decimal := if elementType = .decimal128 then some (b.column.precision, b.column.scale) else none
    .buffer ⟨elementType, nullable, b.rowCount, b.storage, validity, b.nullCount, decimal⟩

-- a column of fetchColumnar(), which gives up when a row cannot be appended
def fetchColumn (opt : NumberOption) (enc : Encoding) (b : OracleColumnarBuilder) :
    List FetchedRow → Except Failure ColumnarColumn
  | [] => .ok b.finish
  | r :: rows =>
    match b.append opt enc r with
    | (.error e, _) => .error e
    | (.ok (), b) => b.fetchColumn opt enc rows

end OracleColumnarBuilder

end OracleDriver
