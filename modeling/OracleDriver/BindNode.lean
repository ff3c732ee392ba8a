import OracleDriver.Library.Ledger
import OracleDriver.Values

namespace OracleDriver

inductive Dtype where
  | unset
  | chr
  | str
  | avc
  | num
  | int
  | flt
  | dat
  | timestamp
  | intervalYm
  | intervalDs
  | rdd
  | clob
  | blob
  | bin
  | lbi
  | lvb
  | lng
  | rset
  | nty
deriving DecidableEq, Repr

inductive Subdtype where
  | none
  | object
  | collection
deriving DecidableEq, Repr

-- `session` is the number of the logon in which a temporary LOB was created for the locator
structure Locator where
  addr : ℕ
  session : Option ℕ
deriving DecidableEq, Repr

-- what a bind node allocates, each kind with its own release function
inductive Resource where
  | cBuffer
  | lobDescriptor
  | timestampDescriptor
  | intervalDescriptor
  | rowidDescriptor
  | longBuffer
  | stmtHandle
  | raw
  | object
  | collection
  | qoreString
  | arraybind
deriving DecidableEq, Repr

-- an entry of a PtrVec: the low bit of a pointer marks a borrowed buffer
inductive StrPtr where
  | null
  | dynamic (addr : ℕ)
  | static
deriving DecidableEq, Repr

inductive ArrayBindClass where
  | string
  | number
  | float
  | date
  | bool
  | blob
  | clob
  | singleNull
  | singleInt
  | singleFloat
  | singleString
  | singleDate
  | singleBinary
deriving DecidableEq, Repr

-- what AbstractDynamicArrayBindData and its classes own: buffers, date descriptors and LOB locators
-- of a list, the string of a single value, the descriptor of a single date, the locator of a single
-- binary value
structure ArrayBind where
  addr : ℕ
  cls : ArrayBindClass
  str : Option ℕ
  strvec : List StrPtr
  datevec : List (Option ℕ)
  lhvec : List (Option Locator)
  dt : Option ℕ
  loc : Option Locator
  lobAllocated : Bool
deriving DecidableEq, Repr

-- the word that the members of the union ora_value share
inductive Buf where
  | uninit
  | null
  | word (w : ℤ)
  | ptr (addr : ℕ)
  | borrowed
  | arraybind (a : ArrayBind)
deriving DecidableEq, Repr

inductive Tmp where
  | none
  | str (addr : ℕ)
deriving DecidableEq, Repr

structure OraBindNode where
  isValue : Bool
  phName : Option Text
  phMaxsize : ℤ
  phType : Option Text
  tmp : Tmp
  value : QoreValue
  dtype : Dtype
  subdtype : Subdtype
  buf : Buf
  ind : ℤ
  array : Bool
  altOutput : Bool
  strlob : Option Locator
  lobAllocated : Bool
  indicator : ℤ
  ledger : Ledger Resource

namespace OraBindNode

def ofValue (v : QoreValue) : OraBindNode where
  isValue := true
  phName := none
  phMaxsize := 0
  phType := none
  tmp := .none
  value := v
  dtype := .unset
  subdtype := .none
  buf := .uninit
  ind := 0
  array := false
  altOutput := false
  strlob := none
  lobAllocated := false
  indicator := 0
  ledger := .empty

def ofPlaceholder (name : Text) (size : ℤ) (typ : Option Text) (v : QoreValue) : OraBindNode :=
  { ofValue v with isValue := false, phName := some name, phMaxsize := size, phType := typ }

def isPlaceholder (n : OraBindNode) : Bool := !n.isValue

def isType (n : OraBindNode) (t : String) : Bool := n.phType == some t.toList

def setPlaceholderIntern (n : OraBindNode) (size : ℤ) (typ : Text) : OraBindNode :=
  { n with phMaxsize := size, phType := some typ }

end OraBindNode

-- the name that stands for the value marker of the node with index j
def markerName (j : ℕ) : Text := ":qdodvrs___".toList ++ Nat.toDigits 10 j

-- a conversion to the C type int keeps 32 bits
def toInt32 (i : ℤ) : ℤ := Int.bmod i (2 ^ 32)

namespace OraBindNode

def missingType : Exn := ⟨"BIND-ERROR", "missing 'type' key in placeholder hash"⟩

def badType (t : Text) : Exn :=
  ⟨"BIND-ERROR", "expecting type name as value of 'type' key, got '" ++ String.ofList t ++ "'"⟩

def badPlaceholder (t : Text) : Exn :=
  ⟨"BIND-ERROR", "expecting string or hash for placeholder description, got '" ++ String.ofList t ++ "'"⟩

-- setPlaceholder() after its call of resetPlaceholder()
def describePlaceholder (lib : QoreLib) (v : QoreValue) (n : OraBindNode) : OraBindNode × Option Exn :=
  match v with
  | .nothing => (n.setPlaceholderIntern (-1) "string".toList, none)
  | .hash h =>
    let t := QoreValue.getKeyValue h "value"
    let sz := QoreValue.getKeyValue h "size"
    let size := if t.isNothing && !sz.isNothing then toInt32 (lib.getAsBigInt sz) else -1
    let n := if t.isNothing then n else { n with value := t }
    match QoreValue.getKeyValue h "type" with
    | .nothing =>
      if n.value.isNothing then (n, some missingType)
      else (n.setPlaceholderIntern size n.value.typeName, none)
    | .string s => (n.setPlaceholderIntern size s.text, none)
    | w => (n, some (badType w.typeName))
  | .string s => (n.setPlaceholderIntern (-1) s.text, none)
  | .int i => (n.setPlaceholderIntern (toInt32 i) "string".toList, none)
  | w => (n, some (badPlaceholder w.typeName))

@[simp] lemma describePlaceholder_isValue (lib : QoreLib) (v : QoreValue) (n : OraBindNode) :
    (describePlaceholder lib v n).1.isValue = n.isValue := by
  unfold describePlaceholder
  split <;> (try split) <;> simp only [setPlaceholderIntern] <;> repeat' split
  all_goals rfl

@[simp] lemma describePlaceholder_phName (lib : QoreLib) (v : QoreValue) (n : OraBindNode) :
    (describePlaceholder lib v n).1.phName = n.phName := by
  unfold describePlaceholder
  split <;> (try split) <;> simp only [setPlaceholderIntern] <;> repeat' split
  all_goals rfl

end OraBindNode

end OracleDriver
