import OracleDriver.Connection
import OracleDriver.Rows

/-! Executing statements and fetching what they return. -/

namespace OracleDriver

namespace Dtype

-- the SQLT codes of the client; every other one is treated as a string
def ofCode (c : ℕ) : Dtype :=
  match c with
  | 2 => .num
  | 3 | 68 => .int
  | 4 | 21 | 22 | 100 | 101 => .flt
  | 5 => .str
  | 8 => .lng
  | 12 => .dat
  | 23 => .bin
  | 24 => .lbi
  | 95 => .lvb
  | 97 => .avc
  | 104 => .rdd
  | 108 => .nty
  | 112 => .clob
  | 113 => .blob
  | 116 => .rset
  | 184 | 187 | 188 | 232 => .timestamp
  | 189 => .intervalYm
  | 190 => .intervalDs
  | _ => .chr

end Dtype

-- the result set of an SQLStatement, or the one that lives as long as one call
inductive SetKind where
  | columns
  | helper
deriving DecidableEq, Repr

namespace Stmt

def resultSet (k : SetKind) (S : Stmt) : Option ResultSet :=
  match k with
  | .columns => S.columns
  | .helper => S.helper

def setResultSet (k : SetKind) (f : Option ResultSet → Option ResultSet) (S : Stmt) : Stmt :=
  match k with
  | .columns => { S with columns := f S.columns }
  | .helper => { S with helper := f S.helper }

def setColumn (k : SetKind) (j : ℕ) (f : Column → Column) : Stmt → Stmt :=
  setResultSet k (Option.map fun r => { r with clist := r.clist.modify j f })

lemma setResultSet_nodeList (k : SetKind) (f) (S : Stmt) :
    (S.setResultSet k f).nodeList = S.nodeList := by
  cases k <;> rfl

lemma Calm.helper (f) (S : Stmt) : Calm S (S.setResultSet .helper f) := .same rfl rfl

end Stmt

variable {h : Handler} {l : Level} (x : Sink) (s : ℕ) (k : SetKind)

def setResultSet (f : Option ResultSet → Option ResultSet) : Drv h .binding Unit := do
  touch
  Drv.move .bind Level.has_bind (·.setStmt s (Stmt.setResultSet k f)) fun w =>
    .columns s _ w fun S => S.setResultSet_nodeList k f

def setColumn (j : ℕ) (f : Column → Column) : Drv h .binding Unit :=
  setResultSet s k (Option.map fun r => { r with clist := r.clist.modify j f })

def paramAttr : Drv h l (Option ℕ) := do
  let a ← oci .attrGet
  if ← check x a "QoreOracleStatement::attrGet():param2" then
    return none
  return some a.count

def paramName : Drv h l Bool := checked x .attrGet "QoreOracleStatement::attrGet():param1"

-- no subtype after an error
def objectSubtype : Drv h l (Option Subdtype) := do
  if (← paramAttr x).isNone || (← paramAttr x).isNone then
    return none
  let a ← oci .typeInfoGet
  if !a.ok then
    raise x ⟨"OCILIB-ERROR", a.text⟩
    return none
  return some (if a.flag then .collection else .object)

def numberAttrs : Drv h l Bool := do
  if (← paramAttr x).isNone then
    return true
  return (← paramAttr x).isNone

def describeColumn : Drv h l (Option Column) := do
  match ← paramAttr x with
  | none => return none
  | some code =>
    if ← paramName x then
      return none
    match ← paramAttr x with
    | none => return none
    | some charlen =>
      match ← paramAttr x with
      | none => return none
      | some maxsize =>
        let t := Dtype.ofCode code
        if t = .num then
          if ← numberAttrs x then
            return none
        if t = .nty then
          match ← objectSubtype x with
          | none => return none
          | some sub => return some ⟨t, sub, maxsize, charlen, false⟩
        return some ⟨t, .none, maxsize, charlen, false⟩

-- the columns of the result as far as the client has parameters for them; the first argument bounds
-- the turns
def describeResult : ℕ → Drv h .binding Unit
  | 0 => exhaust
  | n + 1 => do
    let a ← oci .paramGet
    if a.status ≠ .success then
      return
    match ← describeColumn x with
    | none => return
    | some c =>
      setResultSet s k (Option.map fun r => { r with clist := r.clist ++ [c] })
      describeResult n

def newResultSet (n : ℕ) : Drv h .binding Bool := do
  setResultSet s k fun _ => some ⟨false, []⟩
  describeResult x s k n
  return ← pending x

def defineByPos (j : ℕ) : Drv h .binding Bool := do
  let a ← oci .defineByPos
  if a.ok then
    setColumn s k j ({ · with defp := true })
  check x a "QoreOracleStatement::defineByPos()"

def defineObject (j : ℕ) (who : String) : Drv h .binding Bool := do
  if !(← buildObject x "placeholder") then
    return true
  let _ ← defineByPos x s k j
  let _ ← checked x .defineObject who
  return false

def setMaxsize (j m : ℕ) : Drv h .binding Unit := setColumn s k j ({ · with maxsize := m })

def defineColumn (who : String) (j : ℕ) : Drv h .binding Bool := do
  let S ← Drv.stmt s
  match (S.resultSet k).bind (·.clist[j]?) with
  | none => return false
  | some c =>
    match c.dtype with
    | .int | .flt | .dat => let _ ← defineByPos x s k j
    | .timestamp | .intervalYm | .intervalDs | .blob | .clob | .rdd =>
      if ← descriptorAlloc x who then
        return true
      let _ ← defineByPos x s k j
    | .bin | .lbi =>
      if ← rawResize x then
        return true
      let _ ← defineByPos x s k j
    | .lng =>
      if ← defineByPos x s k j then
        return true
      let _ ← checked x .defineDynamic "QoreOracleStatement::defineDynamic()"
    | .rset =>
      if ← handleAlloc x who then
        return true
      let _ ← defineByPos x s k j
    | .nty =>
      if ← defineObject x s k j who then
        return true
    | .num =>
      setMaxsize s k j 127
      let _ ← defineByPos x s k j
    | _ =>
      if c.charlen ≠ 0 then
        setMaxsize s k j (c.charlen * (← setting).charWidth)
      let _ ← defineByPos x s k j
    return ← pending x

-- OraResultSet::define()
def defineSet (who : String) : Drv h .binding Bool := do
  match (← Drv.stmt s).resultSet k with
  | none => return false
  | some r =>
    if r.defined then
      return false
    setResultSet s k (Option.map ({ · with defined := true }))
    Act.tryEach (defineColumn x s k who) (List.range r.clist.length)

-- OraColumnBuffer::del() for a column of the result set of one call
def delHelperColumn (c : Column) : Drv h l Unit := do
  if !c.defp then
    return
  if OraBindNode.isRaw c.dtype then
    let _ ← rawFree x
  else if c.dtype = .nty then
    let a ← oci .objectFree
    if !a.ok then
      raise x ⟨"OCILIB-ERROR", a.text⟩

-- ~OraResultSetHelper()
def delHelper : Drv h l Unit := do
  if let some r := (← Drv.stmt s).helper then
    Act.each (delHelperColumn x) r.clist
  Drv.setStmt s (Stmt.setResultSet .helper fun _ => none) (.helper _)

def prefetchRowCount (rows : ℤ) : ℕ :=
  min (if rows < 0 then 1000 else if rows = 0 then 1 else rows.toNat) 32767

def setPrefetch (rows : ℤ) : Drv h l Bool := do
  if (← Drv.stmt s).prefetchRows = prefetchRowCount rows then
    return false
  if ← checked x .attrSet "QoreOracleStatement::setPrefetch()" then
    return true
  Drv.setStmt s (fun S => { S with prefetchRows := prefetchRowCount rows }) fun _ => .same rfl rfl
  return false

def setFetchDone : Drv h l Unit := Drv.setStmt s (fun S => { S with fetchDone := true })
    fun _ => .same rfl rfl

-- QoreOracleStatement::next()
def next : Drv h l Bool := do
  let a ← oci .stmtFetch
  if a.status = .noData then
    return false
  if ← check x a "QoreOracleStatement::fetch()" then
    return false
  setFetchDone s
  return true

def newStatement : Drv h .all ℕ :=
  Act.step (fun w => (w.stmts.length, w.newStatement)) fun w => ⟨.drive, rfl, .newStatement w⟩

-- OraColumnBuffer::getValue(); `nested` fetches a result set in a column
def columnValue (nested : Drv h .all Unit) (c : Column) : Drv h .all Unit := do
  let a ← ask .indicator
  if a.flag then
    return
  match c.dtype with
  | .timestamp => let _ ← getTimestamp x
  | .intervalYm | .intervalDs => let _ ← getInterval x c.dtype
  | .clob | .blob => let _ ← readLob x c.dtype
  | .rset => nested
  | .nty => let _ ← readObject x
  | .rdd => let _ ← rowidToChar x
  | _ => return

def fetchColumn (nested : Drv h .all Unit) (f : FetchForm) (e : Column × ℕ) : Drv h .all Bool := do
  if f.checksColumns then
    if ← checkTurn x e.2 then
      return true
  columnValue x nested e.1
  return ← pending x

def fetchValues (nested : Drv h .all Unit) (f : FetchForm) : Drv h .all Bool := do
  let S ← Drv.stmt s
  Act.tryEach (fetchColumn x nested f) ((S.resultSet k).elim [] (·.clist)).zipIdx

-- the number of rows fetched, or none after an error; the first argument bounds the rows
def fetchLoop (nested : Drv h .all Unit) (f : FetchForm) (rows : ℤ) : ℕ → ℕ → Drv h .all (Option ℕ)
  | 0, count => do
    exhaust
    return some count
  | n + 1, count => do
    if !(← next x s) then
      return if ← pending x then none else some count
    if f.checksRows && count % 100 == 0 then
      if ← checkCancel x then
        return none
    if ← fetchValues x s k nested f then
      return none
    if 0 < rows && (count : ℤ) + 1 == rows then
      return some (count + 1)
    fetchLoop nested f rows n (count + 1)

def endFetch (rows : ℤ) (count : ℕ) : Drv h l Unit := do
  setFetchDone s
  if (count : ℤ) < rows then
    Drv.setStmt s (fun S => { S with fetchComplete := true }) fun _ => .same rfl rfl

def setFetchWarned : Drv h l Unit := Drv.setStmt s (fun S => { S with fetchWarned := true })
    fun _ => .same rfl rfl

-- `true` for a null pointer
def fetchSet (nested : Drv h .all Unit) (n : ℕ) (f : FetchForm) (rows : ℤ) : Drv h .all Bool := do
  let S ← Drv.stmt s
  if S.fetchWarned then
    raise x f.warned
    return true
  if S.fetchComplete then
    setFetchWarned s
    return false
  if ← setPrefetch x s rows then
    return true
  if ← Drv.up (defineSet x s k ("QoreOracleStatement::" ++ f.name ++ "():define")) then
    return true
  match ← fetchLoop x s k nested f rows n 0 with
  | none => return true
  | some count =>
    endFetch s rows count
    return false

-- a result set that lives as long as the call
def withHelper (n : ℕ) (body : Drv h .all Bool) : Drv h .all Bool := do
  let failed ← Drv.up (newResultSet x s .helper n)
  let r ← if failed then pure true else body
  delHelper x s
  return r

-- the rows of a result set in a column or an output value, one level for each argument
def nestedFetch (turns : ℕ) (f : FetchForm) : ℕ → Drv h .all Unit
  | 0 => exhaust
  | n + 1 => do
    let s ← newStatement
    Drv.setStmt s Stmt.setHandle Stmt.Calm.setHandle
    let _ ← withHelper x s turns (fetchSet x s .helper (nestedFetch turns f n) turns f (-1))
    Drv.setStmt s Stmt.dropHandle fun _ => .same rfl rfl

def fetchAll (n : ℕ) (f : FetchForm) : Drv h .all Bool :=
  withHelper x s n (fetchSet x s .helper (nestedFetch x n f n) n f (-1))

def notFetched : Exn :=
  ⟨"ORACLE-FETCH-ROW-ERROR", "call SQLStatement::next() before calling SQLStatement::fetchRow()"⟩

def fetchRowFrom (n : ℕ) : Drv h .all Bool := do
  if !(← Drv.stmt s).fetchDone then
    raise x notFetched
    return true
  fetchValues x s k (nestedFetch x n .rows n) .rows

def moreThanOneRow : Exn :=
  ⟨"DBI-SELECT-ROW-ERROR", "SQL passed to selectRow() returned more than 1 row"⟩

def fetchSingle (n : ℕ) : Drv h .all Bool := do
  if ← setPrefetch x s 1 then
    return true
  if ← Drv.up (defineSet x s .helper "QoreOracleStatement::fetchRows():define") then
    return true
  if !(← next x s) then
    return true
  if ← fetchRowFrom x s .helper n then
    return true
  if ← next x s then
    raise x moreThanOneRow
    return true
  return false

def fetchSingleRow (n : ℕ) : Drv h .all Bool := withHelper x s n (fetchSingle x s n)

def iterations (S : Stmt) : ℕ := if S.isSelect then 0 else if S.arraySize = 0 then 1 else S.arraySize

def stmtExecute (iters : ℕ) : Drv h .all Answer := do
  touch
  Act.step (·.stmtExecute s iters) fun w => ⟨.drive, rfl, .stmtExecute s iters w⟩

-- the second call after the statement has been bound again on a new session
def executeAgain (who : String) (iters : ℕ) : Drv h .all Bool := do
  if ← checkCancel x then
    return true
  if ← Drv.calm (applyThreadSessionInfo x) then
    return true
  let a ← stmtExecute s iters
  check x a who

-- QorePreparedStatement::execute()
def execute (who : String) : Drv h .all Bool := do
  if ← checkCancel x then
    return true
  let iters := iterations (← Drv.stmt s)
  if ← Drv.calm (applyThreadSessionInfo x) then
    return true
  let a ← stmtExecute s iters
  if a.status = .error then
    if ← Drv.up (handleError x who true (some s)) then
      executeAgain x s who iters
    else
      return true
  else
    check x a who

def exec : Drv h .all Bool := execute x s "QorePreparedStatement::exec()"

def execDescribe : Drv h .all Bool := execute x s "QorePreparedStatement::execDescribe()"

def affectedRows : Drv h l Unit := do
  let _ ← checked x .attrGet "QorePreparedStatement::affectedRows()"

def notSelect : Exn :=
  ⟨"DBI-SELECT-ROW-ERROR", "the SQL passed to the selectRow() method is not a select statement"⟩

def notColumnar : Exn := ⟨"COLUMNAR-RESULT-ERROR",
  "Datasource::selectColumnar() requires an SQL statement returning result columns"⟩

def addStatement : Drv h .all Unit :=
  Drv.move .drive Level.has_drive (fun w => w.setDsStmts (s :: w.dsStmts)) (.addStatement s)

def outputForm (rows : Bool) : FetchForm := if rows then .rows else .columns

-- a result set of an output value is fetched at once, or becomes a statement of its own
def outputValue (n : ℕ) (rows : Bool) (i : ℕ) : Drv h .all Unit := do
  let S ← Drv.stmt s
  match S.nodeList[i]? with
  | none => return
  | some nd =>
    if !nd.isPlaceholder then
      return
    if ← Drv.valueNode x s i then
      if nd.altOutput then
        let t ← newStatement
        Drv.setStmt t Stmt.setHandle Stmt.Calm.setHandle
        addStatement t
      else
        nestedFetch x n (outputForm rows) n

def getOutputHash (n : ℕ) (rows : Bool) : Drv h .all Bool := do
  let S ← Drv.stmt s
  Act.each (outputValue x s n rows) (List.range S.nodeList.length)
  return ← pending x

def selectRow (n : ℕ) : Drv h .all Bool := do
  if !(← Drv.stmt s).isSelect then
    raise x notSelect
    return true
  if ← exec x s then
    return true
  fetchSingleRow x s n

def commitIfAuto : Drv h .all Bool := do
  if (← setting).autoCommit then
    let _ ← Drv.calm (commit x)
  return ← pending x

-- what is returned by a statement that is not a select
def outputOrCount (n : ℕ) (rows : Bool) : Drv h .all Unit := do
  if (← Drv.stmt s).hasOutput then
    let _ ← getOutputHash x s n rows
  else
    affectedRows x

def execWithPrologue (n : ℕ) (rows : Bool) : Drv h .all Bool := do
  if ← exec x s then
    return true
  if (← Drv.stmt s).isSelect then
    if ← fetchAll x s n (outputForm rows) then
      return true
  else
    outputOrCount x s n rows
  commitIfAuto x

def execWithPrologueTyped (n : ℕ) (rows : Bool) : Drv h .all Bool := do
  if ← exec x s then
    return true
  if (← Drv.stmt s).isSelect then
    if ← fetchAll x s n (outputForm rows) then
      return true
  else
    outputOrCount x s n rows
  commitIfAuto x

def execWithPrologueColumnar (n : ℕ) : Drv h .all Bool := do
  if !(← Drv.stmt s).isSelect then
    raise x notColumnar
    return true
  if ← exec x s then
    return true
  if ← fetchAll x s n .columnar then
    return true
  commitIfAuto x

end OracleDriver
