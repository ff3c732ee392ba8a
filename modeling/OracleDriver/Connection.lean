import OracleDriver.BulkBegin
import OracleDriver.NumberConversions
import OracleDriver.Statement

/-! The connection: session attributes, options, logon, and what happens when a call finds the
session lost. -/

namespace OracleDriver

def sessionAttrCount : ℕ := 4

def sessionAttrMaxBytes : ℕ := 64

def recvTimeoutMax : ℤ := 4294967295

variable {h : Handler} {l : Level} (x : Sink)

def attrSet (who : String) : Drv h l Bool := checked x .attrSet who

-- characters are dropped from the end until the converted value fits; the argument is how many are left
def setFittingAttr (c : Setting) (value : Text) : ℕ → Drv h l Bool
  | 0 => attrSet x "QoreOracleConnection::setSessionAttr()"
  | n + 1 => do
    match c.lib.convert c.utf8 c.encoding (value.take (n + 1)) with
    | none =>
      raise x notConverted
      return true
    | some t =>
      if c.byteSize t ≤ sessionAttrMaxBytes then
        attrSet x "QoreOracleConnection::setSessionAttr()"
      else
        setFittingAttr c value n

def setSessionAttr (value : Text) : Drv h l Bool := do
  let c ← setting
  if value.isEmpty || c.encoding == c.utf8 then
    attrSet x "QoreOracleConnection::setSessionAttr()"
  else
    setFittingAttr x c value value.length

def setSessionInfoKnown (b : Bool) : Drv h l Unit :=
  Drv.setConn (fun c => { c with sessionInfoKnown := b }) fun _ =>
    ⟨rfl, rfl, rfl, rfl, List.Subset.refl _, rfl⟩

def applyAttr (info : ℕ → Text) (i : ℕ) : Drv h l Bool := do
  let c ← conn
  if c.sessionInfoKnown && c.sessionAttr i == info i then
    return false
  if ← setSessionAttr x (info i) then
    setSessionInfoKnown false
    return true
  Drv.setConn (fun c => { c with sessionAttr := Function.update c.sessionAttr i (info i) }) fun _ =>
    ⟨rfl, rfl, rfl, rfl, List.Subset.refl _, rfl⟩
  return false

def applyThreadSessionInfo : Drv h l Bool := do
  let c ← setting
  if ← Act.tryEach (applyAttr x (c.threadInfo.getD fun _ => [])) (List.range sessionAttrCount) then
    return true
  setSessionInfoKnown true
  return false

def noReceiveTimeout : Exn :=
  ⟨"ORACLE-OPTION-ERROR", "the 'recv-timeout' option cannot be set: the module " ++
  "was built with Oracle client headers that do not define OCI_ATTR_RECEIVE_TIMEOUT"⟩

def applyRecvTimeout (ms : ℕ) : Drv h l Bool := do
  let c ← setting
  if c.hasReceiveTimeout then
    return ← attrSet x "QoreOracleConnection::applyRecvTimeout() set the receive timeout"
  if ms = 0 then
    return false
  raise x noReceiveTimeout
  return true

def invalidTimeout (what detail : String) : Exn := ⟨"ORACLE-OPTION-ERROR", "invalid value " ++ what ++
  " for the 'recv-timeout' option; the receive timeout must be " ++ detail⟩

-- a string as the bytes that it has in its encoding
def QoreValue.viewed (view : QoreString → Text) : QoreValue → QoreValue
  | .string s => .string ⟨view s, s.enc⟩
  | v => v

def timeoutValue (v : QoreValue) : Except Exn ℤ :=
  match v with
  | .string s =>
    let p := cStr s.text
    let digits := if p.head? = some '-' then p.tail else p
    if digits.isEmpty || !digits.all Char.isDigit || 19 < digits.length then
      .error (invalidTimeout ("'" ++ String.ofList p ++ "'") "an integer number of milliseconds")
    else .ok (strtoll p)
  | .nothing => .ok 0
  | .int i => .ok i
  | v => .error (invalidTimeout ("of type '" ++ String.ofList v.typeName ++
      "'") "an integer number of milliseconds")

def timeoutOutOfRange (ms : ℤ) : Exn :=
  invalidTimeout (toString ms) ("a number of milliseconds from 1 to " ++
  toString recvTimeoutMax ++ ", or 0 for no timeout")

def setRecvTimeout (v : QoreValue) : Drv h l Bool := do
  let c ← setting
  match timeoutValue (v.viewed c.view) with
  | .error e =>
    raise x e
    return true
  | .ok ms =>
    if ms < 0 ∨ recvTimeoutMax < ms then
      raise x (timeoutOutOfRange ms)
      return true
    let c ← conn
    if c.serverAttached then
      if ← applyRecvTimeout x ms.toNat then
        return true
    Drv.setConn (fun c => { c with recvTimeoutMs := ms.toNat }) fun _ =>
      ⟨rfl, rfl, rfl, rfl, List.Subset.refl _, rfl⟩
    return false

def invalidOption (opt : String) : Exn := ⟨"ORACLE-OPTION-ERROR", "invalid option '" ++ opt ++
  "'; please try again with a valid option name (syntax: option=value)"⟩

def setNumberSupport (o : NumberOption) : Drv h l Bool := do
  Drv.setConn (fun c => { c with numberSupport := o }) fun _ =>
    ⟨rfl, rfl, rfl, rfl, List.Subset.refl _, rfl⟩
  return false

-- the time zone is kept by the connection for the values of rows
def setOption (opt : String) (v : QoreValue) : Drv h l Bool := do
  match opt.toLower with
  | "optimal-numbers" => setNumberSupport .optimal
  | "string-numbers" => setNumberSupport .string
  | "numeric-numbers" => setNumberSupport .numeric
  | "recv-timeout" => setRecvTimeout x v
  | "timezone" =>
    touch
    return false
  | _ =>
    raise x (invalidOption opt)
    return true

def getServerVersion : Drv h l Bool :=
  checked x .serverVersion "QoreOracleConnection::getServerVersion()"

-- remove_trailing_newlines()
def trimNewlines (t : String) : String := String.ofList (t.toList.reverse.dropWhile (· == '\n')).reverse

def doException (who : String) (e : Answer) : Drv h l Unit := do
  let a ← account
  raise x ⟨"DBI:ORACLE:OCI-ERROR", a ++ ": " ++ who ++ ": " ++ trimNewlines e.text⟩

def logoff : Drv h .session Unit := do
  let _ ← oci .sessionEnd
  let _ ← oci .serverDetach
  Drv.move .session rfl World.sessionEnded .sessionEnded
  Drv.setConn (fun c => { c with serverAttached := false }) fun _ =>
    ⟨rfl, rfl, rfl, rfl, List.Subset.refl _, rfl⟩

-- the server sees a closed connection and rolls back
def abandonSession : Drv h .session Unit := do
  let _ ← oci .serverDetach
  Drv.move .session rfl World.sessionEnded .sessionEnded
  Drv.setConn (fun c => { c with serverAttached := false }) fun _ =>
    ⟨rfl, rfl, rfl, rfl, List.Subset.refl _, rfl⟩

-- QoreOracleSimpleStatement::exec() with the statement that sets the number format
def simpleExec : Drv h l Bool := do
  if ← handleAlloc x "QoreOracleSimpleStatement::allocate()" then
    return true
  if ← checked x .stmtPrepare "QoreOracleSimpleStatement::prepare()" then
    return true
  if ← checkCancel x then
    return true
  if ← applyThreadSessionInfo x then
    return true
  checked x .simpleExecute "QoreOracleSimpleStatement::exec"

def serverAttach : Drv h l Bool := do
  if ← attrSet x "QoreOracleConnection::logon() Set username" then
    return true
  if ← attrSet x "QoreOracleConnection::logon() Set password" then
    return true
  if ← checkCancel x then
    return true
  let a ← oci .serverAttach
  if ← checkCancel x then
    return true
  if ← check x a "QoreOracleConnection::logon() server attach" then
    return true
  Drv.setConn (fun c => { c with serverAttached := true }) fun _ =>
    ⟨rfl, rfl, rfl, rfl, List.Subset.refl _, rfl⟩
  return false

def sessionBegin : Drv h .session Bool := do
  let c ← conn
  if c.recvTimeoutMs ≠ 0 then
    if ← applyRecvTimeout x c.recvTimeoutMs then
      return true
  if ← attrSet x "QoreOracleConnection::logon() server to service context" then
    return true
  if ← checkCancel x then
    return true
  let a ← oci .sessionBegin
  if a.ok then
    Drv.move .session rfl World.sessionBegun .sessionBegun
  if ← checkCancel x then
    return true
  check x a "QoreOracleConnection::logon() session begin"

def setupSession : Drv h .session Bool := do
  if ← serverAttach x then
    return true
  if ← sessionBegin x then
    return true
  if ← attrSet x "QoreOracleConnection::logon() set the session attribute in the service context" then
    return true
  simpleExec x

def setInLogon (b : Bool) : Drv h .session Unit := do
  touch
  Drv.move .session rfl (·.setInLogon b) (.setInLogon b)

def logon : Drv h .session Bool := do
  setSessionInfoKnown false
  setInLogon true
  let failed ← setupSession x
  setInLogon false
  Drv.session (.loggedOn !failed) rfl rfl
  return failed

-- the set is copied, as a statement can change it
def clearStatements (stmt : Option ℕ) : Drv h .calm Unit := do
  let c ← conn
  Act.each (stmtClear x) c.stmtSet
  if let some s := stmt then
    let c ← conn
    if s ∉ c.stmtSet then
      stmtClear x s

def resetFirst : Drv h .calm Unit := do
  let c ← conn
  match c.stmtSet with
  | [] => return
  | s :: _ =>
    stmtReset x s
    deregisterStatement s

-- each turn deregisters a statement
def resetStatements : Drv h .calm Unit := do
  let c ← conn
  Act.each (fun _ => resetFirst x) (List.range c.stmtSet.length)

-- the statements of the Datasource, in the order in which it goes through them
def dsStatements (order : Datasource → List ℕ → List ℕ) : Drv h .calm (List ℕ) := do
  let w ← Act.get
  return order w.setting.datasource w.dsStmts

-- Datasource::connectionLost() frees the handles of its statements
def connectionLost : Drv h .calm Unit := do
  Act.each (stmtClear x) (← dsStatements Datasource.lost)

-- Datasource::connectionRecovered() closes its statements and stays open
def connectionRecovered : Drv h .calm Unit := do
  Act.each (stmtReset x) (← dsStatements Datasource.closed)
  Drv.move .calm rfl (·.setDsStmts []) fun w => .forget [] w (List.nil_subset _)

-- ~QoreOracleConnection()
def deleteConnection : Drv h .recover Unit := do
  let b ← bulk
  if b.isSome then
    let _ ← bulkLoadEnd .dropped false
  Drv.up logoff
  Drv.move .session rfl World.close .close

-- Datasource::connectionAborted() closes its statements and deletes the connection
def connectionAborted : Drv h .recover Unit := do
  Drv.session .aborted rfl rfl
  Drv.calm (connectionRecovered x)
  deleteConnection

def abortConnection : Drv h .recover Unit := do
  Drv.calm (resetStatements x)
  let c ← conn
  Drv.session (.lostForGood c.callDepth) rfl rfl
  if c.callDepth ≠ 0 then
    Drv.move .session rfl (·.setAbortPending true) (.setAbortPending true)
  else
    connectionAborted x

def lostCode (code : ℤ) : Bool := code == 3113 || code == 3114 || code == 1041

def recvTimeoutCode : ℤ := 12609

def transactionTimedOut (account : String) : Exn := ⟨"DBI:ORACLE:TRANSACTION-ERROR",
  "the receive timeout of the connection to Oracle database server " ++ account ++
    " ended a call while in a transaction; transaction has been lost"⟩

def transactionLost (account who : String) (e : Answer) : Exn := ⟨"DBI:ORACLE:TRANSACTION-ERROR",
  "connection to Oracle database server " ++ account ++
    " lost while in a transaction; transaction has been lost: " ++
    who ++ ": " ++ trimNewlines e.text⟩

-- the session is replaced, and the statements that are not cleared before keep what they hold
def replaced (stmt : Option ℕ) : Drv h .session Unit := do
  let w ← Act.get
  let cleared := w.conn.stmtSet ++ stmt.toList ++ w.dsStmts
  Drv.session (.replaced (w.stale cleared)) rfl rfl

def receiveTimeout (who : String) (e : Answer) : Drv h .recover Unit := do
  Drv.session .timedOut rfl rfl
  doException x who e
  let t ← ask .activeTransaction
  if t.flag then
    raise x (transactionTimedOut (← account))
  if !(← conn).lost then
    Drv.up (replaced none)
  Drv.calm (clearStatements x none)
  Drv.calm (connectionLost x)
  Drv.up abandonSession
  if ← Drv.up (logon x) then
    abortConnection x
  else
    Drv.calm (connectionRecovered x)

-- a call that fails on a connection that still answers is not a loss
def ping (e : Answer) : Drv h l Bool := do
  if lostCode e.code then
    return false
  let c ← conn
  if !c.ocilibInit then
    return true
  let a ← oci .ping
  return a.flag

def setLost (b : Bool) : Drv h .session Unit := do
  touch
  Drv.move .session rfl (·.setLost b) (.setLost b)

def sessionLost (who : String) (canRetry : Bool) (stmt : Option ℕ) (e : Answer) :
    Drv h .session Unit := do
  setLost true
  let t ← ask .activeTransaction
  Drv.session (.lost e.code (!lostCode e.code) t.flag) rfl rfl
  if t.flag then
    raise x (transactionLost (← account) who e)
  if canRetry then
    replaced stmt
  Drv.calm (clearStatements x stmt)
  Drv.calm (connectionLost x)

-- the error of a call whose session is lost, after the statements have been cleared
def findLoss (who : String) (canRetry : Bool) (stmt : Option ℕ) : Drv h .recover (Option Answer) := do
  let e ← oci .errorGet
  let c ← conn
  if c.inLogon then
    doException x who e
    return none
  if e.code = recvTimeoutCode then
    receiveTimeout x who e
    return none
  if ← ping e then
    doException x who e
    return none
  Drv.up (sessionLost x who canRetry stmt e)
  return some e

def giveUp (who : String) (e : Answer) : Drv h .recover Unit := do
  doException x who e
  abortConnection x

def rebind (s : ℕ) : Drv h .retry Bool := do
  let failed ← Drv.up (rebindAbortedConnection x s)
  Drv.move .retry rfl (World.emit (.rebound s !failed)) (.rebound s _)
  return failed

def rebindStatements (stmt : Option ℕ) : Drv h .retry Bool := do
  let c ← conn
  if ← Act.tryEach (rebind x) c.stmtSet then
    return true
  match stmt with
  | none => return false
  | some s =>
    let c ← conn
    if s ∉ c.stmtSet then
      rebind x s
    else
      return false

def logonAgain : Drv h .session Bool := do
  logoff
  Drv.move .calm rfl World.freshSink .freshSink
  logon .own

def reconnect (who : String) (stmt : Option ℕ) (e : Answer) : Drv h .retry Bool := do
  if ← Drv.up logonAgain then
    doException x who e
    Drv.move .calm rfl World.assimilate .assimilate
    Drv.up (abortConnection x)
    return false
  Drv.up (setLost false)
  if ← pending x then
    Drv.calm (connectionRecovered x)
    return false
  return !(← rebindStatements x stmt)

def handleError (who : String) (canRetry : Bool) (stmt : Option ℕ) : Drv h .retry Bool := do
  match ← Drv.up (findLoss x who canRetry stmt) with
  | none => return false
  | some e =>
    if canRetry then
      reconnect x who stmt e
    else
      Drv.up (giveUp x who e)
      return false

-- checkerr() inside handleError() calls it again; `overflow` says that the bound on the depth was
-- reached
def handler : ℕ → Handler
  | 0 => fun x who w => { w.raise x ⟨"DBI:ORACLE:OCI-ERROR", who⟩ with overflow := true }
  | n + 1 => fun x who w => ((handleError (h := handler n) x who false none).run w).2

def commit : Drv h l Bool := do
  if ← checkCancel x then
    return true
  if ← applyThreadSessionInfo x then
    return true
  checked x .transCommit "QoreOracleConnection:commit()"

def rollback : Drv h .recover Bool := do
  if (← bulk).isSome then
    if ← bulkLoadEnd x false then
      return true
  if ← checkCancel x then
    return true
  if ← applyThreadSessionInfo x then
    return true
  checked x .transRollback "QoreOracleConnection:rollback()"

-- what a call that succeeds leaves alone
structure KeptByCalls (c : Setting) (P : World → Prop) : Prop where
  setting : ∀ w, P w → w.setting = c
  touch : ∀ w, P w → P w.touch
  ask : ∀ w call, P w → P (w.ask call).2

section KeptByCalls

variable {c : Setting} {P : World → Prop} (hP : KeptByCalls c P)
include hP

lemma KeptByCalls.spec_setting : Act.Spec P (OracleDriver.setting : Drv h l Setting)
    fun r w => r = c ∧ P w :=
  fun w hw => ⟨hP.setting w hw, hw⟩

lemma KeptByCalls.spec_conn : Act.Spec P (OracleDriver.conn : Drv h l Conn)
    fun r w => r = w.conn ∧ P w :=
  fun w hw => ⟨rfl, hP.touch w hw⟩

lemma keeps_attrSet (who : String) :
    Act.Keeps (fun _ => True) P (attrSet x who : Drv h l Bool) := by
  intro w hw
  refine ⟨fun _ => trivial, ?_⟩
  show ((w.touch.ask .attrSet).2.checkerr h x (w.touch.ask .attrSet).1 who).1 = false →
    P ((w.touch.ask .attrSet).2.checkerr h x (w.touch.ask .attrSet).1 who).2
  intro hok
  unfold World.checkerr at hok ⊢
  split at hok
  all_goals first
    | exact hP.ask _ _ (hP.touch _ hw)
    | cases hok

end KeptByCalls

end OracleDriver
