import OracleDriver.BulkLoad

/-! The start of a direct path load: options, identifiers, columns, and the handles of the client. -/

namespace OracleDriver

variable {h : Handler} (x : Sink)

inductive Begun where
  | started
  | unavailable
  | failed
deriving DecidableEq, Repr

def options (o : Option (List (Text × QoreValue))) (name : String) : QoreValue :=
  o.elim .nothing (QoreValue.getKeyValue · name)

def getBoolOption (o : Option (List (Text × QoreValue))) (name : String) (defaultValue : Bool) :
    Except Exn Bool :=
  match options o name with
  | .nothing => .ok defaultValue
  | .bool b => .ok b
  | _ => .error (directPathError ("OCI direct path option '" ++ name ++ "' must be boolean"))

def directPathBufferSize : ℤ := 1024 * 1024

def ub4Max : ℤ := 2 ^ 32 - 1

def getBufferSize (o : Option (List (Text × QoreValue))) : Except Exn ℤ :=
  match options o "oracle_direct_path_buffer_size" with
  | .nothing => .ok directPathBufferSize
  | .int size =>
    if size < 65536 ∨ ub4Max < size then
      .error (directPathError
        ("OCI direct path option 'oracle_direct_path_buffer_size' must be between 65536 and " ++
        toString ub4Max ++ " bytes"))
    else .ok size
  | _ => .error
      (directPathError "OCI direct path option 'oracle_direct_path_buffer_size' must be an integer")

-- the buffer size is only checked here
def readOptions (o : Option (List (Text × QoreValue))) : Except Exn Bool := do
  let streamBounds ← getBoolOption o "stream_bounds" true
  let _ ← getBoolOption o "oracle_direct_path_parallel" false
  let _ ← getBoolOption o "oracle_direct_path_nolog" false
  let _ ← getBufferSize o
  return streamBounds

-- an unquoted identifier in upper case, with `qualified` after a schema; no result for any other
-- text and after an interrupt
def scanIdentifier (qualified : Bool) : Text → Bool → Bool → ℕ → Text → Drv h .calm (Option Text)
  | [], atStart, _, _, normalized => return if atStart then none else some normalized
  | c :: rest, atStart, sawDot, count, normalized => do
    if ← checkTurn x count then
      return none
    if c = '.' then
      if !qualified || sawDot || atStart || rest.isEmpty then
        return none
      scanIdentifier qualified rest true true (count + 1) (normalized ++ [c])
    else if atStart && !(c.isAlpha || c == '_') then
      return none
    else if !atStart && !(c.isAlphanum || c == '_' || c == '$' || c == '#') then
      return none
    else
      scanIdentifier qualified rest false sawDot (count + 1) (normalized ++ [c.toUpper])

def parseSimpleIdentifier (value : Text) (qualified : Bool) : Drv h .calm (Option Text) :=
  scanIdentifier x qualified (cStr value) true false 0 []

-- an interrupt and an identifier that is not simple differ by the exception only
def notSimple : Drv h .calm Begun := do
  return if ← pending x then .failed else .unavailable

namespace TableInfo

-- the index of the column; a name that is not in upper case belongs to a quoted column
def find (t : TableInfo) (name : Text) : Option (ℕ × MetaColumn) :=
  (t.cols.zipIdx.find? fun m => m.1.name.map Char.toUpper = m.1.name ∧
    m.1.name = name).map fun m => (m.2, m.1)

end TableInfo

namespace BulkColumn

def maxSizeOf (kind : BulkColumnKind) (size : ℕ) : ℕ :=
  match kind with
  | .numeric => 127
  | .text => max size 1
  | .date => 32
  | .timestamp => 40

def describe (key : Text) (m : MetaColumn) : Option BulkColumn :=
  m.kind.map fun k => ⟨key, k, maxSizeOf k m.size, m.precision, m.scale⟩

def hasFormat (c : BulkColumn) : Bool := c.kind == .date || c.kind == .timestamp

end BulkColumn

namespace BulkLoadState

def badColumn (i : ℕ) (t : Text) : Exn :=
  directPathError ("OCI direct path column " ++ toString i ++ " has type '" ++ String.ofList t ++
    "'; expected string")

def unknownColumn (name table : Text) : Exn :=
  directPathError ("column '" ++ String.ofList name ++ "' was not found in Oracle table '" ++
    String.ofList table ++ "'")

def repeatedColumn (name : Text) : Exn :=
  directPathError ("column '" ++ String.ofList name ++
    "' occurs more than once in the OCI direct path column list")

-- no columns come with what the call returns instead; `view` is the bytes of a name, one character
-- each
def describeColumns (view : QoreString → Text) (table : Text) (t : TableInfo) :
    List QoreValue → List ℕ → List BulkColumn →
    Drv h .calm (Except Begun (List BulkColumn))
  | [], _, columns => return .ok columns
  | v :: rest, used, columns => do
    if ← checkTurn x columns.length then
      return .error .failed
    match v with
    | .string name =>
      match ← parseSimpleIdentifier x (view name) false with
      | none => return .error (← notSimple x)
      | some normalized =>
        match t.find normalized with
        | none =>
          raise x (unknownColumn (cStr (view name)) table)
          return .error .failed
        | some (i, m) =>
          if i ∈ used then
            raise x (repeatedColumn (cStr (view name)))
            return .error .failed
          match BulkColumn.describe (view name) m with
          | none => return .error .unavailable
          | some column => describeColumns view table t rest (i :: used) (columns ++ [column])
    | v =>
      raise x (badColumn (columns.length + 1) v.typeName)
      return .error .failed

def attrSet (what : String) : Drv h .calm Bool :=
  checked x .attrSet ("QoreOracleBulkLoadState::initialize() " ++ what)

def setContext (t : TableInfo) : Drv h .calm Bool := do
  if ← handleAlloc x "QoreOracleBulkLoadState::initialize() direct path context" then
    return true
  Act.tryEach (attrSet x)
    (["table name"] ++ (if t.schema.any (!·.isEmpty) then ["schema name"] else []) ++
    ["row count", "column count", "buffer size", "parallel option", "nolog option"])

def setColumn (e : BulkColumn × ℕ) : Drv h .calm Bool := do
  if ← checkTurn x e.2 then
    return true
  if ← checked x .paramGet "QoreOracleBulkLoadState::initialize() column parameter" then
    return true
  Act.tryEach (attrSet x) (["column name", "column type", "column size"] ++
    (if e.1.precision ≠ 0 then ["column precision"] else []) ++
      (if e.1.scale ≠ 0 then ["column scale"] else []) ++
    if e.1.hasFormat then ["column format"] else [])

def prepare (columns : List BulkColumn) : Drv h .calm Bool := do
  if ← checked x .attrGet "QoreOracleBulkLoadState::initialize() column list" then
    return true
  if ← Act.tryEach (setColumn x) columns.zipIdx then
    return true
  if ← checkCancel x then
    return true
  checked x .dirPathPrepare "QoreOracleBulkLoadState::initialize() OCIDirPathPrepare"

def zeroRows : Exn := directPathError "Oracle allocated a zero-row OCI direct path column array"

-- the rows that the column array has room for
def allocate : Drv h .calm (Option ℕ) := do
  if ← checked x .handleAlloc "QoreOracleBulkLoadState::initialize() column array" then
    return none
  if ← checked x .handleAlloc "QoreOracleBulkLoadState::initialize() stream" then
    return none
  let a ← oci .attrGet
  if ← check x a "QoreOracleBulkLoadState::initialize() allocated rows" then
    return none
  if a.count % 2 ^ 32 = 0 then
    raise x zeroRows
    return none
  return some (a.count % 2 ^ 32)

def new (columns : List BulkColumn) (maxRows : ℕ) (streamBounds observer : Bool) : BulkLoadState where
  columns := columns
  maxRows := maxRows
  prepared := true
  used := false
  stream := ⟨streamBounds && observer, false, true, 0, 0⟩
  path := ⟨fun _ _ => none, [], [], 0⟩

-- the rest of initialize() after the client prepared the path; the destructor of the state aborts it
def open_ (columns : List BulkColumn) (streamBounds : Bool) : Drv h .calm (Option BulkLoadState) := do
  let c ← setting
  let b ← match ← allocate x with
    | none => pure none
    | some maxRows => BulkStream.begin x (new columns maxRows streamBounds c.observer)
  if b.isNone then
    let _ ← oci .dirPathAbort
  return b

def tableError (a : Answer) : Exn := ⟨"OCILIB-ERROR", a.text⟩

def noTable (table : Text) : Exn :=
  directPathError ("Oracle returned no metadata for direct path table '" ++ String.ofList table ++ "'")

def typeInfo (table : Text) : Drv h .calm Bool := do
  let a ← oci .typeInfoGet
  if !a.ok then
    raise x (tableError a)
    return true
  if !a.flag then
    raise x (noTable table)
    return true
  return false

def tooManyColumns (n : ℕ) : Exn :=
  directPathError ("OCI direct path supports at most 65535 columns; got " ++ toString n)

def initializeLoad (table : Text) (columnList : List QoreValue) (streamBounds : Bool) :
    Drv h .calm (Except Begun BulkLoadState) := do
  if (← parseSimpleIdentifier x table true).isNone then
    return .error (← notSimple x)
  if 65535 < columnList.length then
    raise x (tooManyColumns columnList.length)
    return .error .failed
  if ← typeInfo x table then
    return .error .failed
  let c ← setting
  let t := c.metadata table
  if ← Act.tryEach (checkTurn x) (List.range t.cols.length) then
    return .error .failed
  match ← describeColumns x c.view table t columnList [] [] with
  | .error r => return .error r
  | .ok columns =>
    if ← setContext x t then
      return .error .failed
    if ← prepare x columns then
      return .error .failed
    match ← open_ x columns streamBounds with
    | none => return .error .failed
    | some b => return .ok b

end BulkLoadState

def loadActive : Exn := directPathError "an OCI direct path load is already active"

-- the observer has accepted the stream
def BulkStream.begun (s : BulkStream) : Drv h .all Unit := do
  if s.started then
    Drv.load (.stream .begun) rfl rfl

def bulkLoadBegin (table : Text) (columns : List QoreValue) (o : Option (List (Text × QoreValue))) :
    Drv h .all Begun := do
  if (← Drv.up bulk).isSome then
    raise x loadActive
    return .failed
  match readOptions o with
  | .error e =>
    raise x e
    return .failed
  | .ok streamBounds =>
    match ← Drv.up (BulkLoadState.initializeLoad x table columns streamBounds) with
    | .error r => return r
    | .ok b =>
      touch
      BulkStream.begun b.stream
      Drv.move .drive Level.has_drive (·.beginLoad b) (.beginLoad b)
      return .started

end OracleDriver
