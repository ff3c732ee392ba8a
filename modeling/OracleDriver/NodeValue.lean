import OracleDriver.NodeRelease

/-! The values of output bind nodes. -/

namespace OracleDriver

namespace OraBindNode

-- the value takes the buffer over
def takeBuf (k : Resource) (n : OraBindNode) : OraBindNode :=
  match n.buf with
  | .ptr a => { n with buf := .null, ledger := n.ledger.release a k }
  | _ => { n with ledger := n.ledger.fault }

def useBuf (k : Resource) (n : OraBindNode) : OraBindNode :=
  match n.buf with
  | .ptr a => { n with ledger := n.ledger.use a k }
  | _ => { n with ledger := n.ledger.fault }

-- a null handle is given away as well
def takeHandle (n : OraBindNode) : OraBindNode :=
  match n.buf with
  | .null => n
  | _ => n.takeBuf .stmtHandle

end OraBindNode

namespace ArrayBind

-- the string list takes one entry over
def takeEntry (j : ℕ) (a : ArrayBind) : ArrayBind := { a with strvec := a.strvec.set j .null }

def entryResources (j : ℕ) (a : ArrayBind) : List (ℕ × Resource) :=
  match a.strvec[j]? with
  | some (.dynamic b) => [(b, .cBuffer)]
  | _ => []

end ArrayBind

namespace OraBindNode

def takeEntry (j : ℕ) (n : OraBindNode) : OraBindNode :=
  match n.buf with
  | .arraybind a =>
    { n with buf := .arraybind (a.takeEntry j), ledger := n.ledger.releaseAll (a.entryResources j) }
  | _ => { n with ledger := n.ledger.fault }

def entryCount (n : OraBindNode) : ℕ :=
  match n.buf with
  | .arraybind a => if a.cls = .string then a.strvec.length else 0
  | _ => 0

namespace Tidy

lemma takeBuf (k : Resource) (n : OraBindNode) : Tidy n (n.takeBuf k) := by
  unfold OraBindNode.takeBuf
  split
  · refine ⟨rfl, ?_, List.Subset.refl _, id, id⟩
    cases ha : n.array <;> simp only [arrLobs, ha, List.nil_subset]
  · exact same rfl rfl rfl rfl rfl rfl

lemma useBuf (k : Resource) (n : OraBindNode) : Tidy n (n.useBuf k) := by
  unfold OraBindNode.useBuf
  split <;> exact same rfl rfl rfl rfl rfl rfl

lemma takeHandle (n : OraBindNode) : Tidy n n.takeHandle := by
  unfold OraBindNode.takeHandle
  split
  · exact refl n
  · exact takeBuf _ n

lemma takeEntry (j : ℕ) (n : OraBindNode) : Tidy n (n.takeEntry j) := by
  unfold OraBindNode.takeEntry
  split
  · rename_i a hb
    refine ⟨rfl, ?_, List.Subset.refl _, id, id⟩
    cases ha : n.array
    · simp only [arrLobs, ha, List.nil_subset]
    · simp only [arrLobs, ha, hb]
      exact List.Subset.refl _
  · exact same rfl rfl rfl rfl rfl rfl

end Tidy

end OraBindNode

section Read

variable {h : Handler} {R : World → World → Prop} [HasPlain h R] (x : Sink)

def getTimestamp : Act R Bool := do
  if ← checked x .dateTimeGet "OCIDateTimeGetDate()" then
    return true
  checked x .dateTimeGet "OCIDateTimeGetTime()"

def getInterval (t : Dtype) : Act R Bool :=
  checked x .intervalGet (if t = .intervalYm then "QoreOracleConnection::getIntervalYearMonth()"
    else "QoreOracleConnection::getIntervalDaySecond()")

def readLob (t : Dtype) : Act R Bool := do
  if ← checkCancel x then
    return true
  checked x .lobRead
    (if t = .clob then "QoreOracleConnection::readClob()" else "QoreOracleConnection::readBlob()")

def rowidToChar : Act R Bool := checked x .rowidToChar "OraColumnValue::getValue() ROWID"

-- objToQore() and collToQore()
def readObject : Act R Bool := checked x .objectRead "objToQore() converting NUMERIC value to text"

end Read

namespace NodeAct

variable {h : Handler} {s i : ℕ} {b : Bool} (x : Sink)

def use (k : Resource) : NodeAct h s i b Unit := modify (·.useBuf k) fun n => .useBuf k n

def isNull : NodeAct h s i b Bool := do
  let a ← ask .indicator
  return a.flag

-- getOutputValueImpl() of the array of strings: an entry that the server set takes its buffer over
def getOutputEntry (j : ℕ) : NodeAct h s i b Unit := do
  if ← isNull then
    return
  modify (·.takeEntry j) fun n => .takeEntry j n

-- `true` for a result set that is still to be fetched
def getValue : NodeAct h s i b Bool := do
  match ← node with
  | none => return false
  | some n =>
    if n.array then
      Act.each getOutputEntry (List.range n.entryCount)
      return false
    if ← isNull then
      return false
    match n.dtype with
    | .int | .flt | .dat => return false
    | .timestamp =>
      use .timestampDescriptor
      let _ ← getTimestamp x
      return false
    | .intervalYm | .intervalDs =>
      use .intervalDescriptor
      let _ ← getInterval x n.dtype
      return false
    | .bin | .lbi | .lvb =>
      use .raw
      return false
    | .clob | .blob =>
      use .lobDescriptor
      let _ ← readLob x n.dtype
      return false
    | .lng =>
      use .longBuffer
      return false
    | .rset =>
      modify OraBindNode.takeHandle .takeHandle
      return true
    | .nty =>
      use (if n.subdtype = .object then .object else .collection)
      let _ ← readObject x
      return false
    | .rdd =>
      use .rowidDescriptor
      let _ ← rowidToChar x
      return false
    | .num =>
      let c ← conn
      if c.numberSupport = .string then
        modify (·.takeBuf .cBuffer) fun n => .takeBuf _ n
      else
        use .cBuffer
      return false
    | .unset | .chr | .str | .avc =>
      modify (·.takeBuf .cBuffer) fun n => .takeBuf _ n
      return false

end NodeAct

end OracleDriver
