import OracleDriver.Fetch

/-! The driver entry points and the runs of a connection: sequences of calls in which calls may
contain others. -/

namespace OracleDriver

variable {h : Handler} (x : Sink) (n : ℕ) (s : ℕ)

-- QoreOracleCallGuard
def enter : Drv h .all Unit := do
  let c ← conn
  Drv.move .drive Level.has_drive (·.setCallDepth (c.callDepth + 1)) (.setCallDepth _)

-- the outermost call closes a connection that was lost during it
def leave : Drv h .all Unit := do
  let c ← conn
  Drv.move .drive Level.has_drive (·.setCallDepth (c.callDepth - 1)) (.setCallDepth _)
  if c.callDepth - 1 = 0 ∧ c.abortPending = true then
    Drv.move .session rfl (·.setAbortPending false) (.setAbortPending false)
    Drv.up (connectionAborted x)

def guarded (body : Drv h .all Unit) : Drv h .all Unit := do
  enter
  body
  leave x

def oracleCommit : Drv h .all Unit := guarded x do
  let _ ← Drv.calm (commit x)

def oracleRollback : Drv h .all Unit := guarded x do
  let _ ← Drv.up (rollback x)

-- QorePreparedStatementHelper: the statement is reset when the call ends
def withStatement (sql : QoreString) (args : Option (List QoreValue)) (parse : Bool)
    (body : ℕ → Drv h .all Bool) :
    Drv h .all Unit := do
  let s ← newStatement
  if !(← Drv.up (prepare x s sql args parse)) then
    let _ ← body s
  stmtReset x s

def oracleExec (sql : QoreString) (args : Option (List QoreValue)) : Drv h .all Unit :=
  guarded x (withStatement x sql args true fun s => execWithPrologue x s n false)

def oracleSelect (sql : QoreString) (args : Option (List QoreValue)) : Drv h .all Unit :=
  guarded x (withStatement x sql args true fun s => execWithPrologue x s n false)

def oracleSelectTyped (sql : QoreString) (args : Option (List QoreValue)) : Drv h .all Unit :=
  guarded x (withStatement x sql args true fun s => execWithPrologueTyped x s n false)

def oracleSelectColumnar (sql : QoreString) (args : Option (List QoreValue)) : Drv h .all Unit :=
  guarded x (withStatement x sql args true fun s => execWithPrologueColumnar x s n)

def oracleExecRaw (sql : QoreString) : Drv h .all Unit :=
  guarded x (withStatement x sql none false fun s => execWithPrologue x s n false)

def oracleSelectRow (sql : QoreString) (args : Option (List QoreValue)) : Drv h .all Unit :=
  guarded x (withStatement x sql args true fun s => selectRow x s n)

def oracleExecRows (sql : QoreString) (args : Option (List QoreValue)) : Drv h .all Unit :=
  guarded x (withStatement x sql args true fun s => execWithPrologue x s n true)

def oracleExecRowsTyped (sql : QoreString) (args : Option (List QoreValue)) : Drv h .all Unit :=
  guarded x (withStatement x sql args true fun s => execWithPrologueTyped x s n true)

-- these calls have no guard

def oracleBulkLoadBegin (table : Text) (columns : List QoreValue)
    (o : Option (List (Text × QoreValue))) :
    Drv h .all Unit := do
  let _ ← bulkLoadBegin x table columns o

def oracleBulkLoadRows (rows : List (Text × QoreValue)) : Drv h .all Unit := do
  let _ ← Drv.up (bulkLoadRows x rows)

def oracleBulkLoadEnd (success : Bool) : Drv h .all Unit := do
  let _ ← Drv.up (bulkLoadEnd x success)

def oracleGetServerVersion : Drv h .all Unit := do
  let _ ← Drv.calm (getServerVersion x)

def oracleOptSet (opt : String) (v : QoreValue) : Drv h .all Unit := do
  let _ ← Drv.calm (setOption x opt v)

def oracleStmtFree : Drv h .all Unit := Drv.calm (stmtClear x s)

def oracleStmtClose : Drv h .all Unit := do
  Drv.calm (stmtReset x s)
  Drv.move .calm rfl (fun w => w.setDsStmts (w.dsStmts.erase s)) fun w => .forget _ w List.erase_subset

def oracleStmtPrepare (sql : QoreString) (args : Option (List QoreValue)) (parse : Bool) :
    Drv h .all Unit :=
  guarded x do
    let s ← newStatement
    addStatement s
    let _ ← Drv.up (prepare x s sql args parse)

def oracleStmtBind (args : List QoreValue) : Drv h .all Unit := guarded x do
  let _ ← Drv.up (stmtBind x s (some args))

def oracleStmtBindPlaceholders (args : List QoreValue) : Drv h .all Unit := guarded x do
  let _ ← Drv.up (bindPlaceholders x s (some args))

def oracleStmtBindValues (args : List QoreValue) : Drv h .all Unit := guarded x do
  let _ ← Drv.up (bindValues x s (some args))

def oracleStmtExec : Drv h .all Unit := guarded x do
  let _ ← exec x s

def oracleStmtExecDescribe : Drv h .all Unit := guarded x do
  let _ ← execDescribe x s

def definedTwice : Exn :=
  ⟨"DBI:ORACLE-DEFINE-ERROR", "SQLStatement::define() called twice for the same query"⟩

def registerStatement : Drv h .all Unit := do
  touch
  Drv.move .drive Level.has_drive (·.setConn fun c => { c with stmtSet := c.stmtSet.insert s })
    (.register s)

-- QorePreparedStatement::define()
def define : Drv h .all Bool := do
  let S ← Drv.stmt s
  if S.defined then
    raise x definedTwice
    return true
  if S.columns.isNone then
    if ← Drv.up (newResultSet x s .columns n) then
      return true
  Drv.setStmt s (fun S => { S with defined := true }) fun _ => .same rfl rfl
  registerStatement s
  let _ ← Drv.up (defineSet x s .columns "QorePreparedStatement::define()")
  return ← pending x

def oracleStmtDefine : Drv h .all Unit := guarded x do
  let _ ← define x n s

def oracleStmtAffectedRows : Drv h .all Unit := guarded x (affectedRows x)

def oracleStmtGetOutput (rows : Bool) : Drv h .all Unit := guarded x do
  let _ ← getOutputHash x s n rows

def oracleStmtFetchRow : Drv h .all Unit := guarded x do
  let _ ← fetchRowFrom x s .columns n

def oracleStmtFetch (f : FetchForm) (rows : ℤ) : Drv h .all Unit := guarded x do
  let _ ← fetchSet x s .columns (nestedFetch x n f n) n f rows

-- the description of the columns needs no call
def oracleStmtDescribe : Drv h .all Unit := guarded x (touch)

def oracleStmtNext : Drv h .all Unit := guarded x do
  let _ ← next x s

inductive Entry where
  | commit
  | rollback
  | exec (sql : QoreString) (args : Option (List QoreValue))
  | select (sql : QoreString) (args : Option (List QoreValue))
  | selectTyped (sql : QoreString) (args : Option (List QoreValue))
  | selectColumnar (sql : QoreString) (args : Option (List QoreValue))
  | execRaw (sql : QoreString)
  | selectRow (sql : QoreString) (args : Option (List QoreValue))
  | execRows (sql : QoreString) (args : Option (List QoreValue))
  | execRowsTyped (sql : QoreString) (args : Option (List QoreValue))
  | bulkLoadBegin (table : Text) (columns : List QoreValue) (o : Option (List (Text × QoreValue)))
  | bulkLoadRows (rows : List (Text × QoreValue))
  | bulkLoadEnd (success : Bool)
  | getServerVersion
  | optSet (opt : String) (v : QoreValue)
  | stmtPrepare (sql : QoreString) (args : Option (List QoreValue))
  | stmtPrepareRaw (sql : QoreString)
  | stmtBind (s : ℕ) (args : List QoreValue)
  | stmtBindPlaceholders (s : ℕ) (args : List QoreValue)
  | stmtBindValues (s : ℕ) (args : List QoreValue)
  | stmtExec (s : ℕ)
  | stmtExecDescribe (s : ℕ)
  | stmtDefine (s : ℕ)
  | stmtAffectedRows (s : ℕ)
  | stmtGetOutput (s : ℕ)
  | stmtGetOutputRows (s : ℕ)
  | stmtFetchRow (s : ℕ)
  | stmtFetchRows (s : ℕ) (rows : ℤ)
  | stmtFetchColumns (s : ℕ) (rows : ℤ)
  | stmtFetchColumnar (s : ℕ) (rows : ℤ)
  | stmtDescribe (s : ℕ)
  | stmtNext (s : ℕ)
  | stmtFree (s : ℕ)
  | stmtClose (s : ℕ)

def Entry.call : Entry → Drv h .all Unit
  | .commit => oracleCommit x
  | .rollback => oracleRollback x
  | .exec sql args => oracleExec x n sql args
  | .select sql args => oracleSelect x n sql args
  | .selectTyped sql args => oracleSelectTyped x n sql args
  | .selectColumnar sql args => oracleSelectColumnar x n sql args
  | .execRaw sql => oracleExecRaw x n sql
  | .selectRow sql args => oracleSelectRow x n sql args
  | .execRows sql args => oracleExecRows x n sql args
  | .execRowsTyped sql args => oracleExecRowsTyped x n sql args
  | .bulkLoadBegin table columns o => oracleBulkLoadBegin x table columns o
  | .bulkLoadRows rows => oracleBulkLoadRows x rows
  | .bulkLoadEnd success => oracleBulkLoadEnd x success
  | .getServerVersion => oracleGetServerVersion x
  | .optSet opt v => oracleOptSet x opt v
  | .stmtPrepare sql args => oracleStmtPrepare x sql args true
  | .stmtPrepareRaw sql => oracleStmtPrepare x sql none false
  | .stmtBind s args => oracleStmtBind x s args
  | .stmtBindPlaceholders s args => oracleStmtBindPlaceholders x s args
  | .stmtBindValues s args => oracleStmtBindValues x s args
  | .stmtExec s => oracleStmtExec x s
  | .stmtExecDescribe s => oracleStmtExecDescribe x s
  | .stmtDefine s => oracleStmtDefine x n s
  | .stmtAffectedRows _ => oracleStmtAffectedRows x
  | .stmtGetOutput s => oracleStmtGetOutput x n s false
  | .stmtGetOutputRows s => oracleStmtGetOutput x n s true
  | .stmtFetchRow s => oracleStmtFetchRow x n s
  | .stmtFetchRows s rows => oracleStmtFetch x n s .rows rows
  | .stmtFetchColumns s rows => oracleStmtFetch x n s .columns rows
  | .stmtFetchColumnar s rows => oracleStmtFetch x n s .columnar rows
  | .stmtDescribe _ => oracleStmtDescribe x
  | .stmtNext s => oracleStmtNext x s
  | .stmtFree s => oracleStmtFree x s
  | .stmtClose s => oracleStmtClose x s

-- an outer call is what stands between `enter` and `leave`
inductive Op where
  | enter
  | leave
  | call (e : Entry)

def Op.act : Op → Drv h .all Unit
  | .enter => OracleDriver.enter
  | .leave => OracleDriver.leave x
  | .call e => e.call x n

-- one step of a run: each call has its own exceptions, and a Datasource whose connection is deleted
-- makes none
def World.step (m n : ℕ) (o : Op) (w : World) : World :=
  if w.alive then ((o.act (h := handler m) .main n).run { w with xsink := [] }).2 else w

def World.run (m n : ℕ) (ops : List Op) (w : World) : World := ops.foldl (fun w o => w.step m n o) w

-- a connection that has just been opened
def World.start (c : Setting) (oracle : ℕ → Answer) : World where
  setting := c
  oracle := oracle
  tick := 0
  conn :=
    { lost := false
      inLogon := false
      callDepth := 0
      abortPending := false
      serverAttached := true
      ocilibInit := true
      recvTimeoutMs := 0
      numberSupport := .optimal
      stmtSet := []
      sessionAttr := fun _ => []
      sessionInfoKnown := false
      bulkLoad := none }
  stmts := []
  dsStmts := []
  xsink := []
  ownXsink := []
  session := 0
  loggedOn := true
  alive := true
  stray := false
  overflow := false
  log := []

end OracleDriver
