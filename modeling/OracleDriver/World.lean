import OracleDriver.BindNode

/-! The state of one connection of the driver: the statements and bind nodes that use it, the pending
exceptions, and an oracle for what the Oracle client and server answer. -/

namespace OracleDriver

inductive Status where
  | success
  | successWithInfo
  | error
  | invalidHandle
  | needData
  | noData
  | stillExecuting
  | continues
  | unknown (code : ℤ)
deriving DecidableEq, Repr

-- what a call returns: its status, the error code and text read after it, a number and a flag it
-- gives out
structure Answer where
  status : Status
  code : ℤ
  text : String
  count : ℕ
  flag : Bool
deriving DecidableEq, Repr

inductive Call where
  | cancelCheck
  | activeTransaction
  | indicator
  | errorGet
  | ping
  | attrSet
  | attrGet
  | serverAttach
  | serverDetach
  | sessionBegin
  | sessionEnd
  | serverVersion
  | descriptorAlloc
  | handleAlloc
  | stmtPrepare
  | simpleExecute
  | stmtFetch
  | bindByPos
  | bindDynamic
  | bindObject
  | defineByPos
  | defineDynamic
  | defineObject
  | paramGet
  | typeInfoGet
  | objectBuild
  | objectFree
  | objectRead
  | lobCreateTemporary
  | lobFreeTemporary
  | lobWrite
  | lobRead
  | rawResize
  | rawAssignBytes
  | dateTimeConstruct
  | dateTimeFromText
  | dateTimeGet
  | intervalGet
  | rowidToChar
  | transCommit
  | transRollback
  | dirPathPrepare
  | dirPathAbort
  | dirPathArrayReset
  | dirPathStreamReset
  | dirPathEntrySet
  | dirPathToStream
  | dirPathLoadStream
  | streamBegin
  | streamProgress
  | streamEnd
deriving DecidableEq, Repr

-- what the observer of a direct path load is told, and what becomes of the bytes of a block that
-- has been loaded
inductive StreamEvent where
  | begun
  | progress (total : ℕ)
  | ended (total : ℕ)
  | loaded (bytes : ℕ)
  | overflow
deriving DecidableEq, Repr

inductive Event where
  | called (c : Call) (a : Answer)
  | executed (stmt iters : ℕ) (a : Answer) (pending : Bool)
  | lobFreed (l : Locator) (session : Option ℕ)
  | overwritten (l : Locator)
  | lost (code : ℤ) (pinged : Bool) (transaction : Bool)
  | timedOut
  | replaced (stale : Bool)
  | loggedOn (ok : Bool)
  | rebound (stmt : ℕ) (ok : Bool)
  | lostForGood (callDepth : ℕ)
  | aborted
  | loadBegun
  | rowsEnded (ok : Bool)
  | finished (a : Answer)
  | streamEnded (ok : Bool)
  | stream (e : StreamEvent)
deriving DecidableEq, Repr

inductive BulkColumnKind where
  | numeric
  | text
  | date
  | timestamp
deriving DecidableEq, Repr

structure BulkColumn where
  key : Text
  kind : BulkColumnKind
  maxSize : ℕ
  precision : ℤ
  scale : ℤ
deriving DecidableEq, Repr

-- the key is used by c_str()
def BulkColumn.keyText (column : BulkColumn) : Text := cStr column.key

-- what the server says about a column; no kind for a type that has no direct path
structure MetaColumn where
  name : Text
  kind : Option BulkColumnKind
  size : ℕ
  precision : ℤ
  scale : ℤ
deriving DecidableEq, Repr

structure TableInfo where
  schema : Option Text
  cols : List MetaColumn
deriving DecidableEq, Repr

structure BulkCell where
  data : Text
  isNull : Bool
deriving DecidableEq, Repr

structure BulkStream where
  active : Bool
  started : Bool
  ok : Bool
  consumed : ℕ
  reported : ℕ
deriving DecidableEq, Repr

-- what the client holds for a direct path load: the column array, the rows converted to the stream
-- and not reset yet, and the rows that streams have loaded
structure DirectPath where
  entries : ℕ → ℕ → Option BulkCell
  stream : List (List (Option BulkCell))
  loaded : List (List (Option BulkCell))
  converted : ℕ

structure BulkLoadState where
  columns : List BulkColumn
  maxRows : ℕ
  prepared : Bool
  used : Bool
  stream : BulkStream
  path : DirectPath

structure Column where
  dtype : Dtype
  subdtype : Subdtype
  maxsize : ℕ
  charlen : ℕ
  defp : Bool
deriving DecidableEq, Repr

structure ResultSet where
  defined : Bool
  clist : List Column
deriving DecidableEq, Repr

-- `columns` belongs to an SQLStatement, `helper` is the result set that lives as long as one call
structure Stmt where
  nodeList : List OraBindNode
  str : Option Text
  stmthp : Bool
  arraySize : ℕ
  prefetchRows : ℕ
  isSelect : Bool
  fetchDone : Bool
  fetchComplete : Bool
  fetchWarned : Bool
  columns : Option ResultSet
  helper : Option ResultSet
  hasOutput : Bool
  defined : Bool

def Stmt.new : Stmt where
  nodeList := []
  str := none
  stmthp := false
  arraySize := 0
  prefetchRows := 1
  isSelect := false
  fetchDone := false
  fetchComplete := false
  fetchWarned := false
  columns := none
  helper := none
  hasOutput := false
  defined := false

inductive NumberOption where
  | optimal
  | string
  | numeric
deriving DecidableEq, Repr

structure Conn where
  lost : Bool
  inLogon : Bool
  callDepth : ℕ
  abortPending : Bool
  serverAttached : Bool
  ocilibInit : Bool
  recvTimeoutMs : ℕ
  numberSupport : NumberOption
  stmtSet : List ℕ
  sessionAttr : ℕ → Text
  sessionInfoKnown : Bool
  bulkLoad : Option BulkLoadState

-- the exception sink a function is given: the caller's, the one for logon errors, one that is
-- thrown away
inductive Sink where
  | main
  | own
  | dropped
deriving DecidableEq, Repr

-- Datasource::connectionLost() goes through the statements of the Datasource, and
-- Datasource::connectionRecovered() and Datasource::connectionAborted() close them, in some order
structure Datasource where
  lost : List ℕ → List ℕ
  closed : List ℕ → List ℕ
  lost_perm : ∀ stmts, (lost stmts).Perm stmts
  closed_perm : ∀ stmts, (closed stmts).Perm stmts

-- what stays the same while the connection is used
structure Setting where
  lib : QoreLib
  datasource : Datasource
  encoding : Encoding
  defaultEncoding : Encoding
  utf8 : Encoding
  byteSize : Text → ℕ
  inlineString : Text → Bool
  year : ℤ → ℤ
  toDate : QoreValue → ℤ × ℕ
  bytes : QoreString → List UInt8
  isRelative : QoreValue → Bool
  dateText : Bool → QoreValue → Text
  metadata : Text → TableInfo
  charWidth : ℕ
  hasReceiveTimeout : Bool
  user : String
  db : String
  threadInfo : Option (ℕ → Text)
  autoCommit : Bool
  observer : Bool

-- the bytes of a string, one character each
def Setting.view (c : Setting) (s : QoreString) : Text := (c.bytes s).map fun b => .ofNat b.toNat

-- one in which all texts are in the same encoding
def plainSetting : Setting where
  lib := plainLib
  datasource := ⟨id, id, List.Perm.refl, List.Perm.refl⟩
  encoding := 0
  defaultEncoding := 0
  utf8 := 0
  byteSize := List.length
  inlineString _ := false
  year epoch := 1970 + epoch / 31556952
  toDate
    | .date epoch micros => (epoch, micros)
    | _ => (0, 0)
  bytes s := s.text.map fun c => .ofNat c.toNat
  isRelative _ := false
  dateText _ _ := []
  metadata _ := ⟨none, []⟩
  charWidth := 1
  hasReceiveTimeout := true
  user := "user"
  db := "db"
  threadInfo := none
  autoCommit := false
  observer := false

structure World where
  setting : Setting
  oracle : ℕ → Answer
  tick : ℕ
  conn : Conn
  stmts : List Stmt
  dsStmts : List ℕ
  xsink : List Exn
  ownXsink : List Exn
  session : ℕ
  loggedOn : Bool
  alive : Bool
  stray : Bool
  overflow : Bool
  log : List Event

namespace World

def emit (e : Event) (w : World) : World := { w with log := e :: w.log }

def ask (c : Call) (w : World) : Answer × World :=
  (w.oracle w.tick, { w with tick := w.tick + 1, log := .called c (w.oracle w.tick) :: w.log })

def raise (x : Sink) (e : Exn) (w : World) : World :=
  match x with
  | .main => { w with xsink := w.xsink ++ [e] }
  | .own => { w with ownXsink := w.ownXsink ++ [e] }
  | .dropped => w

def pending (x : Sink) (w : World) : Bool :=
  match x with
  | .main => !w.xsink.isEmpty
  | .own => !w.ownXsink.isEmpty
  | .dropped => false

-- every use of the connection or of what it holds once it is deleted is recorded for good
def touch (w : World) : World := if w.alive then w else { w with stray := true }

def cur (w : World) : Option ℕ := if w.loggedOn then some w.session else none

def setConn (f : Conn → Conn) (w : World) : World := { w with conn := f w.conn }

def stmt (w : World) (s : ℕ) : Stmt := w.stmts.getD s Stmt.new

def setStmt (s : ℕ) (f : Stmt → Stmt) (w : World) : World := { w with stmts := w.stmts.modify s f }

def node (w : World) (s i : ℕ) : Option OraBindNode := (w.stmt s).nodeList[i]?

end World

namespace Stmt

def setNode (i : ℕ) (f : OraBindNode → OraBindNode) (S : Stmt) : Stmt :=
  { S with nodeList := S.nodeList.modify i f }

end Stmt

end OracleDriver
