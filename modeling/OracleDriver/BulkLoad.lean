import OracleDriver.Driver

/-! Direct path loads: the blocks of rows go through the column array into the stream, and the
stream to the server. -/

namespace OracleDriver

def directPathError (desc : String) : Exn := ⟨"DBI:ORACLE:DIRECT-PATH-ERROR", desc⟩

def streamReportBytes : ℕ := 65536

def int64Max : ℕ := 2 ^ 63 - 1

namespace BulkLoadState

def setError (b : BulkLoadState) : BulkLoadState := { b with stream := { b.stream with ok := false } }

def setPath (f : DirectPath → DirectPath) (b : BulkLoadState) : BulkLoadState :=
  { b with path := f b.path }

def setStream (f : BulkStream → BulkStream) (b : BulkLoadState) : BulkLoadState :=
  { b with stream := f b.stream }

def setUsed (b : BulkLoadState) : BulkLoadState := { b with used := true }

end BulkLoadState

namespace DirectPath

def resetArray (p : DirectPath) : DirectPath := { p with entries := fun _ _ => none }

def resetStream (p : DirectPath) : DirectPath := { p with stream := [] }

def setEntry (row column : ℕ) (cell : BulkCell) (p : DirectPath) : DirectPath :=
  { p with
    entries := Function.update p.entries row (Function.update (p.entries row) column (some cell)) }

def row (p : DirectPath) (width row : ℕ) : List (Option BulkCell) :=
  (List.range width).map (p.entries row)

-- the rows of the array from `first` on
def rows (p : DirectPath) (width first count : ℕ) : List (List (Option BulkCell)) :=
  (List.range' first count).map (p.row width)

def convert (width first count : ℕ) (p : DirectPath) : DirectPath :=
  { p with stream := p.stream ++ p.rows width first count, converted := count }

def load (p : DirectPath) : DirectPath := { p with loaded := p.loaded ++ p.stream }

end DirectPath

-- what a direct path text field holds
def serializeText (c : Setting) (v : QoreValue) : Except Exn Text :=
  match v with
  | .bool _ | .int _ | .float _ | .number _ | .string _ | .date _ _ => c.encodeValue v
  | v => .error (directPathError ("cannot serialize Qore type '" ++ String.ofList v.typeName ++
      "' as an OCI direct path text field"))

def serializeDate (c : Setting) (timestamp : Bool) (v : QoreValue) : Except Exn Text :=
  match v with
  | .string _ => serializeText c v
  | .date epoch _ =>
    if c.isRelative v then
      .error (directPathError "relative date/time values cannot be loaded through OCI direct path")
    else if c.year epoch < 1 ∨ 9999 < c.year epoch then
      .error (directPathError
        ("OCI direct path date/time values must have a year from 1 through 9999; got " ++
        toString (c.year epoch)))
    else .ok (c.dateText timestamp v)
  | v => .error (directPathError ("cannot serialize Qore type '" ++ String.ofList v.typeName ++
      "' as an OCI direct path " ++ (if timestamp then "timestamp" else "date") ++ " field"))

def serializeNumeric (c : Setting) (v : QoreValue) : Except Exn Text :=
  match v with
  | .bool _ | .int _ | .float _ | .number _ | .string _ => serializeText c v
  | v => .error (directPathError ("cannot serialize Qore type '" ++ String.ofList v.typeName ++
      "' as an OCI direct path numeric field"))

def serializeData (c : Setting) (column : BulkColumn) (v : QoreValue) : Except Exn Text :=
  match column.kind with
  | .numeric => serializeNumeric c v
  | .text => serializeText c v
  | .date => serializeDate c false v
  | .timestamp => serializeDate c true v

def tooLong (c : Setting) (column : BulkColumn) (d : Text) : Exn :=
  directPathError ("OCI direct path value for column '" ++ String.ofList column.keyText ++ "' is " ++
    toString (c.byteSize d) ++ " bytes; the column accepts at most " ++ toString column.maxSize ++
      " bytes")

def serializeCell (c : Setting) (column : BulkColumn) (v : QoreValue) : Except Exn BulkCell :=
  if v.isNullOrNothing then .ok ⟨[], true⟩
  else
    match serializeData c column v with
    | .error e => .error e
    | .ok d => if column.maxSize < c.byteSize d then .error (tooLong c column d) else .ok ⟨d, false⟩

variable {h : Handler} (x : Sink)

def bulk : Drv h .recover (Option BulkLoadState) := do
  return (← conn).bulkLoad

def setBulk (f : BulkLoadState → BulkLoadState) : Drv h .recover Unit := do
  touch
  Drv.move .load rfl (·.setBulk f) (.setBulk f)

-- an error of a block: no later success may hide it
def failRows (e : Option Exn) : Drv h .recover Bool := do
  setBulk BulkLoadState.setError
  if let some e := e then
    raise x e
  return true

namespace BulkLoadState

def colArrayReset : Drv h .recover Bool := do
  let a ← oci .dirPathArrayReset
  if a.ok then
    setBulk (setPath DirectPath.resetArray)
  check x a "QoreOracleBulkLoadState::resetHandles() column array"

def streamReset (who : String) : Drv h .recover Bool := do
  let a ← oci .dirPathStreamReset
  if a.ok then
    setBulk (setPath DirectPath.resetStream)
  check x a who

def resetHandles : Drv h .recover Bool := do
  if ← colArrayReset x then
    return true
  streamReset x "QoreOracleBulkLoadState::resetHandles() stream"

def badStatus (call : String) (s : Status) : Exn :=
  directPathError (call ++ " returned unexpected status " ++ (match s with
    | .unknown c => toString c
    | _ => "of another call"))

def loadStream : Drv h .recover Bool := do
  if ← checkCancel x then
    return true
  let a ← oci .dirPathLoadStream
  match a.status with
  | .success | .successWithInfo =>
    setBulk (setPath DirectPath.load)
    return false
  | .error =>
    let _ ← check x a "QoreOracleBulkLoadState::loadStream() OCIDirPathLoadStream"
    return true
  | _ =>
    raise x (badStatus "OCIDirPathLoadStream()" a.status)
    return true

def setEntry (row column : ℕ) (cell : BulkCell) : Drv h .recover Bool := do
  if ← checkTurn x column then
    return true
  let a ← oci .dirPathEntrySet
  if a.ok then
    setBulk (setPath (DirectPath.setEntry row column cell))
  check x a "QoreOracleBulkLoadState::loadChunk() OCIDirPathColArrayEntrySet"

def setRow (e : List BulkCell × ℕ) : Drv h .recover Bool := do
  if ← checkTurn x e.2 then
    return true
  Act.tryEach (fun f => setEntry x e.2 f.2 f.1) e.1.zipIdx

def badProgress (converted offset rowCount : ℕ) : Exn :=
  directPathError ("Oracle reported invalid direct path conversion progress " ++ toString converted ++
    " for offset " ++ toString offset ++ " of " ++ toString rowCount ++ " rows")

def width : Drv h .recover ℕ := do
  return (← bulk).elim 0 (·.columns.length)

-- the offset that the next conversion starts at, or no offset after an error; after OCI_CONTINUE
-- the client gives out how many rows the call converted, and the sum wraps at 32 bits
def convert (rowCount rowOffset : ℕ) : Drv h .recover (Option ℕ) := do
  if ← checkCancel x then
    return none
  let a ← oci .dirPathToStream
  match a.status with
  | .success | .successWithInfo =>
    setBulk (setPath (DirectPath.convert (← width) rowOffset (rowCount - rowOffset)))
    return some rowCount
  | .continues =>
    let converted := a.count % 2 ^ 32
    setBulk (setPath (DirectPath.convert (← width) rowOffset converted))
    if ← checked x .attrGet "QoreOracleBulkLoadState::loadChunk() converted row count" then
      return none
    let nextOffset := (rowOffset + converted) % 2 ^ 32
    if nextOffset ≤ rowOffset ∨ rowCount < nextOffset then
      raise x (badProgress converted rowOffset rowCount)
      return none
    return some nextOffset
  | .error =>
    let _ ← check x a "QoreOracleBulkLoadState::loadChunk() OCIDirPathColArrayToStream"
    return none
  | _ =>
    raise x (badStatus "OCIDirPathColArrayToStream()" a.status)
    return none

-- the first argument bounds the turns
def convertRows (rowCount : ℕ) : ℕ → ℕ → Drv h .recover Bool
  | 0, rowOffset => do
    if rowOffset < rowCount then
      exhaust
    return false
  | n + 1, rowOffset => do
    if rowCount ≤ rowOffset then
      return false
    match ← convert x rowCount rowOffset with
    | none => return true
    | some nextOffset =>
      if ← loadStream x then
        return true
      if nextOffset < rowCount then
        if ← streamReset x "QoreOracleBulkLoadState::loadChunk() continuation stream reset" then
          return true
      convertRows rowCount n nextOffset

-- the cells are kept by column
def blockRow (cells : List (List BulkCell)) (row : ℕ) : List BulkCell :=
  cells.map (·.getD row ⟨[], true⟩)

def loadChunk (cells : List (List BulkCell)) (offset rowCount : ℕ) : Drv h .recover Bool := do
  if (← bulk).elim false (·.used) then
    if ← resetHandles x then
      return true
  if ← Act.tryEach (setRow x) ((List.range rowCount).map fun row =>
      (blockRow cells (offset + row), row)) then
    return true
  if ← convertRows x rowCount rowCount 0 then
    return true
  setBulk setUsed
  return false

def capacity : Drv h .recover ℕ := do
  return (← bulk).elim 0 (·.maxRows)

def loadChunks (cells : List (List BulkCell)) (count : ℕ) : ℕ → ℕ → Drv h .recover Bool
  | 0, offset => do
    if offset < count then
      exhaust
    return false
  | n + 1, offset => do
    if count ≤ offset then
      return false
    let chunkRows := min (← capacity) (count - offset)
    if ← loadChunk x cells offset chunkRows then
      failRows x none
    else
      loadChunks cells count n (offset + chunkRows)

end BulkLoadState

namespace BulkStream

def setStarted (s : BulkStream) : BulkStream := { s with started := true }

def setConsumed (n : ℕ) (s : BulkStream) : BulkStream := { s with consumed := n }

def setReported (s : BulkStream) : BulkStream := { s with reported := s.consumed }

def observerError (a : Answer) : Exn := ⟨"MUTATION-OBSERVER-ERROR", a.text⟩

def begin (b : BulkLoadState) : Drv h .calm (Option BulkLoadState) := do
  if !b.stream.active then
    return some b
  let a ← oci .streamBegin
  if a.flag then
    raise x (observerError a)
    return none
  return some (b.setStream setStarted)

def payloadOverflow : Exn := directPathError "OCI direct path payload byte counter overflow"

def reportProgress (total : ℕ) : Drv h .recover Bool := do
  Drv.load (.stream (.progress total)) rfl rfl
  let a ← oci .streamProgress
  if a.flag then
    failRows x (some (observerError a))
  else
    return false

def addBytes (bytes : ℕ) : Drv h .recover Bool := do
  match ← bulk with
  | none => return false
  | some b =>
    if !b.stream.started then
      return false
    if int64Max - b.stream.consumed < bytes then
      Drv.load (.stream .overflow) rfl rfl
      return ← failRows x (some payloadOverflow)
    setBulk (·.setStream (setConsumed (b.stream.consumed + bytes)))
    if b.stream.consumed + bytes - b.stream.reported < streamReportBytes then
      return false
    setBulk (·.setStream setReported)
    reportProgress x (b.stream.consumed + bytes)

-- the outcome that the observer of the stream is told
def finish (s : BulkStream) (success : Bool) : Drv h .recover Bool := do
  if !s.started then
    return false
  Drv.load (.streamEnded (s.ok && success)) rfl rfl
  Drv.load (.stream (.ended s.consumed)) rfl rfl
  let a ← oci .streamEnd
  if a.flag then
    raise x (observerError a)
    return true
  return false

end BulkStream

def sizeMax : ℕ := 2 ^ 64 - 1

def missingColumn (key : Text) : Exn :=
  directPathError ("OCI direct path row block is missing column '" ++ String.ofList key ++ "'")

def unequalRows (key : Text) (size rowCount : ℕ) : Exn :=
  directPathError ("OCI direct path column '" ++ String.ofList key ++ "' has " ++ toString size ++
    " rows; expected " ++ toString rowCount)

def payloadTooLarge : Exn := directPathError "OCI direct path block payload size overflow"

-- a list has an element for each row, and any other value stands for all rows
def rowValue (v : QoreValue) (row : ℕ) : QoreValue :=
  match v with
  | .list l => retrieveEntry (some l) row
  | v => v

namespace BulkLoadState

-- the value of a column and the number of rows after it
def blockColumn (rows : List (Text × QoreValue)) (column : BulkColumn) (rowCount : Option ℕ) :
    Except Exn (QoreValue × Option ℕ) :=
  match rows.lookup column.keyText with
  | none => .error (missingColumn column.keyText)
  | some (.list l) =>
    match rowCount with
    | none => .ok (.list l, some l.length)
    | some n => if n = l.length then .ok (.list l, some n)
        else .error (unequalRows column.keyText l.length n)
  | some v => .ok (v, rowCount)

def validate (rows : List (Text × QoreValue)) : List (BulkColumn × ℕ) → Option ℕ →
    Drv h .recover (Option (List QoreValue × Option ℕ))
  | [], rowCount => return some ([], rowCount)
  | (column, i) :: columns, rowCount => do
    if ← checkTurn x i then
      let _ ← failRows x none
      return none
    match blockColumn rows column rowCount with
    | .error e =>
      let _ ← failRows x (some e)
      return none
    | .ok (v, rowCount) =>
      match ← validate rows columns rowCount with
      | none => return none
      | some (values, rowCount) => return some (v :: values, rowCount)

-- the cells of the rows of one column from `row` on, and the bytes of the block so far
def serializeRows (c : Setting) (column : BulkColumn) (v : QoreValue) : ℕ → ℕ → ℕ →
    Drv h .recover (Option (List BulkCell × ℕ))
  | 0, _, payload => return some ([], payload)
  | n + 1, row, payload => do
    if ← checkTurn x row then
      let _ ← failRows x none
      return none
    match serializeCell c column (rowValue v row) with
    | .error e =>
      let _ ← failRows x (some e)
      return none
    | .ok cell =>
      if sizeMax - payload < c.byteSize cell.data then
        let _ ← failRows x (some payloadTooLarge)
        return none
      match ← serializeRows c column v n (row + 1) (payload + c.byteSize cell.data) with
      | none => return none
      | some (cells, payload) => return some (cell :: cells, payload)

def serializeColumns (c : Setting) (count : ℕ) : List ((BulkColumn × QoreValue) × ℕ) → ℕ →
    Drv h .recover (Option (List (List BulkCell) × ℕ))
  | [], payload => return some ([], payload)
  | ((column, v), i) :: columns, payload => do
    if ← checkTurn x i then
      let _ ← failRows x none
      return none
    match ← serializeRows x c column v count 0 payload with
    | none => return none
    | some (cells, payload) =>
      match ← serializeColumns c count columns payload with
      | none => return none
      | some (block, payload) => return some (cells :: block, payload)

-- the payload of the cells of a block
def blockBytes (c : Setting) (cells : List (List BulkCell)) : ℕ :=
  (cells.map fun column => (column.map fun cell => c.byteSize cell.data).sum).sum

def loadBlock (columns : List BulkColumn) (values : List QoreValue) (count : ℕ) :
    Drv h .recover Bool := do
  let c ← setting
  match ← serializeColumns x c count (columns.zip values).zipIdx 0 with
  | none => return true
  | some (cells, payload) =>
    if ← loadChunks x cells count count 0 then
      return true
    Drv.load (.stream (.loaded (blockBytes c cells))) rfl rfl
    BulkStream.addBytes x payload

def wrongWidth (size columns : ℕ) : Exn :=
  directPathError ("OCI direct path row block has " ++ toString size ++ " columns; expected " ++
    toString columns)

def loadRows (columns : List BulkColumn) (rows : List (Text × QoreValue)) : Drv h .recover Bool := do
  if rows.length ≠ columns.length then
    return ← failRows x (some (wrongWidth rows.length columns.length))
  match ← validate x rows columns.zipIdx none with
  | none => return true
  | some (values, rowCount) =>
    let count := rowCount.getD 1
    if count = 0 then
      return false
    loadBlock x columns values count

def finishPath : Drv h .recover Answer := do
  touch
  Act.step (·.record .finished) fun w => ⟨.load, rfl, .finish w⟩

-- what is left of `success`, and if the path was closed without an error
def closePath (success : Bool) : Drv h .recover (Bool × Bool) := do
  let cancelled ← checkCancel x
  if success && !cancelled then
    let a ← finishPath
    if ← check x a "QoreOracleBulkLoadState::terminate() OCIDirPathFinish" then
      let _ ← oci .dirPathAbort
      return (true, false)
    return (true, true)
  let failed ← checked x .dirPathAbort "QoreOracleBulkLoadState::terminate() OCIDirPathAbort"
  return (false, !cancelled && !failed)

def terminate (b : BulkLoadState) (success : Bool) : Drv h .recover Bool := do
  let (success, cleanupOk) ← if b.prepared then closePath x success else pure (success, true)
  let failed ← BulkStream.finish x b.stream (success && cleanupOk)
  return failed || !cleanupOk || (← pending x)

end BulkLoadState

def noLoad : Exn := directPathError "no OCI direct path load is active"

def bulkLoadRows (rows : List (Text × QoreValue)) : Drv h .recover Bool := do
  match ← bulk with
  | none =>
    raise x noLoad
    return true
  | some b =>
    let failed ← BulkLoadState.loadRows x b.columns rows
    Drv.load (.rowsEnded !failed) rfl rfl
    return failed

def bulkLoadEnd (success : Bool) : Drv h .recover Bool := do
  match ← bulk with
  | none =>
    raise x noLoad
    return true
  | some b =>
    Drv.move .load rfl World.endLoad .endLoad
    BulkLoadState.terminate x b success

end OracleDriver
