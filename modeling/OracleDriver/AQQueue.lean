import Mathlib.Data.Finset.Card
import OracleDriver.Library.Act

/-! The queues of a process: the connection of each, its subscription, the watchdog of all
subscriptions and the callback thread that is reserved for them. -/

namespace OracleDriver

inductive AQCall where
  | open
  | encodeName
  | encode
  | setTrace
  | typeInfoGet
  | ping
  | enqueueCreate
  | messageObject
  | objectBind
  | msgCreate
  | msgSetObject
  | msgSetEnqueueDelay
  | msgSetExpiration
  | msgSetPriority
  | hasCorrelation
  | msgSetCorrelation
  | enqueuePut
  | dequeueCreate
  | dequeueSetWaitTime
  | dequeueGet
  | raised
  | msgGetObject
  | dequeueSubscribe
  | dequeueUnsubscribe
  | dequeueFree
  | threadCreate
  | lostForGood
  | sessionReplaced
deriving DecidableEq, Repr

-- `session` is the one that the connection is logged on with and `tinfs` the type infos that the
-- connection has cached; a handle that is set is the type info `typeInfoOf`, or was made with a
-- session and a type info
structure AQQueuePriv where
  born : Bool
  valid : Bool
  conn : Option ℕ
  ds : Option ℕ
  session : ℕ
  tinfs : List ℕ
  typeInfo : Bool
  typeInfoOf : ℕ
  enqueue : Bool
  enqueueOf : ℕ × ℕ
  dequeue : Bool
  dequeueOf : ℕ × ℕ
  hasSubscription : Bool
  subscription : ℕ
  sandbox : Bool
deriving DecidableEq, Repr

def AQQueuePriv.unborn : AQQueuePriv where
  born := false
  valid := false
  conn := none
  ds := none
  session := 0
  tinfs := []
  typeInfo := false
  typeInfoOf := 0
  enqueue := false
  enqueueOf := (0, 0)
  dequeue := false
  dequeueOf := (0, 0)
  hasSubscription := false
  subscription := 0
  sandbox := false

-- `ds` is the private data that the Datasource owns, and `conn` the pointer to it that the queue
-- keeps; a pointer is never used again for another object
structure Process where
  queue : ℕ → AQQueuePriv
  objects : Finset ℕ
  running : Bool
  quit : Bool
  count : ℕ
  tid : ℕ
  lastSubscription : ℕ
  nextConn : ℕ
  nextSession : ℕ
  nextTypeInfo : ℕ
  answer : AQCall → ℕ → Bool
  tick : ℕ
  stray : Bool
  missing : Bool
  failed : Bool

namespace Process

def start : Process where
  queue _ := .unborn
  objects := ∅
  running := false
  quit := false
  count := 0
  tid := 0
  lastSubscription := 0
  nextConn := 0
  nextSession := 0
  nextTypeInfo := 0
  answer _ _ := true
  tick := 0
  stray := false
  missing := false
  failed := false

def setQueue (i : ℕ) (f : AQQueuePriv → AQQueuePriv) (p : Process) : Process :=
  { p with queue := Function.update p.queue i (f (p.queue i)) }

def ask (c : AQCall) (p : Process) : Bool × Process := (p.answer c p.tick, { p with tick := p.tick + 1 })

-- the queue's pointer is followed
def use (i : ℕ) (p : Process) : Process :=
  match (p.queue i).conn with
  | none => { p with missing := true }
  | some c => if (p.queue i).ds = some c then p else { p with stray := true }

def ensure (b : Bool) (p : Process) : Process := if b then p else { p with failed := true }

-- AQCallbackThreadManager::inc()
def inc (p : Process) : Process :=
  if p.count = 0 then { (p.ensure (p.tid == 0)) with tid := p.tick + 1, count := 1 }
  else { p with count := p.count + 1 }

-- AQCallbackThreadManager::dec()
def dec (p : Process) : Process :=
  let p := p.ensure (p.count != 0)
  if p.count = 1 then { p with count := 0, tid := 0 } else { p with count := p.count - 1 }

-- AQSubscriptionManager::remove()
def remove (i : ℕ) (p : Process) : Process :=
  let p := p.ensure (decide (i ∈ p.objects))
  if p.objects.erase i = ∅ then { p with objects := ∅, quit := true }
  else { p with objects := p.objects.erase i }

-- QoreOracleConnection::logon(), which is made with an empty cache
def logon (i : ℕ) (p : Process) : Process :=
  { p.setQueue i fun q => { q with session := p.nextSession, tinfs := [] } with nextSession := p.nextSession + 1 }

-- Datasource::open()
def openConn (i : ℕ) (p : Process) : Process :=
  let p := p.logon i
  { p.setQueue i fun q => { q with ds := some p.nextConn, conn := some p.nextConn } with nextConn := p.nextConn + 1 }

-- OCI_TypeInfoGet2() of a type that is not cached
def getTypeInfo (i : ℕ) (p : Process) : Process :=
  { p.setQueue i fun q =>
      { q with typeInfo := true, typeInfoOf := p.nextTypeInfo, tinfs := q.tinfs ++ [p.nextTypeInfo] } with
    nextTypeInfo := p.nextTypeInfo + 1 }

end Process

abbrev AQ (α : Type) := Act (fun _ _ : Process => True) α

namespace AQ

def modify (f : Process → Process) : AQ Unit := Act.step (fun p => ((), f p)) fun _ => trivial

def ask (c : AQCall) : AQ Bool := Act.step (fun p => p.ask c) fun _ => trivial

def queue (i : ℕ) : AQ AQQueuePriv := do
  return (← Act.get).queue i

def setQueue (i : ℕ) (f : AQQueuePriv → AQQueuePriv) : AQ Unit := modify (·.setQueue i f)

def use (i : ℕ) : AQ Unit := modify (·.use i)

def ensure (b : Bool) : AQ Unit := modify (·.ensure b)

end AQ

namespace AQQueuePriv

open AQ

variable (i : ℕ)

-- a call into the client with the connection of the queue; `true` is its success
def call (c : AQCall) : AQ Bool := do
  use i
  ask c

-- `true` is the -1 of the source
def managerAdd : AQ Bool := do
  modify fun p => { p with objects := insert i p.objects, quit := false }
  if (← Act.get).running then
    return false
  if ← ask .threadCreate then
    modify fun p => { p with running := true }
    return false
  else
    modify fun p => { p with objects := p.objects.erase i }
    return true

def endSubscriptionUnlocked : AQ Unit := do
  setQueue i fun q => { q with subscription := 0 }
  modify Process.dec

def stopSubscriptionUnlocked (releaseCallbackThread : Bool) : AQ Bool := do
  let q ← queue i
  ensure (q.dequeue && q.hasSubscription)
  if releaseCallbackThread then
    setQueue i fun q => { q with subscription := 0 }
  let b ← call i .dequeueUnsubscribe
  if releaseCallbackThread then
    modify Process.dec
  setQueue i fun q => { q with hasSubscription := false }
  return !b

def freeEnqueue : AQ Unit := do
  if (← queue i).enqueue then
    use i
    setQueue i fun q => { q with enqueue := false }

def freeDequeue : AQ Unit := do
  let q ← queue i
  if q.dequeue then
    if q.hasSubscription then
      modify (·.remove i)
      let _ ← stopSubscriptionUnlocked i true
    let _ ← call i .dequeueFree
    setQueue i fun q => { q with dequeue := false }

def freeTypeInfo : AQ Unit := do
  if (← queue i).typeInfo then
    use i
    setQueue i fun q => { q with typeInfo := false }

def disconnectUnlocked : AQ Unit := do
  freeEnqueue i
  freeDequeue i
  freeTypeInfo i
  setQueue i fun q => { q with ds := none, conn := none }

def destructorUnlocked : AQ Unit := do
  if (← queue i).valid then
    disconnectUnlocked i
    setQueue i fun q => { q with ds := none, valid := false }

def connectUnlocked : AQ Bool := do
  ensure (← queue i).conn.isNone
  if !(← ask .open) then
    return true
  modify (·.openConn i)
  if !(← call i .encodeName) then
    return true
  if !(← call i .encodeName) then
    return true
  if !(← call i .setTrace) then
    return true
  ensure !(← queue i).typeInfo
  if !(← call i .typeInfoGet) then
    destructorUnlocked i
    return true
  modify (·.getTypeInfo i)
  return false

-- OCI_DequeueCreate() and OCI_EnqueueCreate() refuse a type info that is not set
def checkDequeueUnlocked : AQ Bool := do
  let q ← queue i
  if !q.dequeue then
    if !((← call i .dequeueCreate) && q.typeInfo) then
      return false
    setQueue i fun q => { q with dequeue := true, dequeueOf := (q.session, q.typeInfoOf) }
  return true

def reconnectSubscriptionUnlocked : AQ Bool := do
  let _ ← stopSubscriptionUnlocked i false
  disconnectUnlocked i
  if ← connectUnlocked i then
    return true
  if !(← checkDequeueUnlocked i) then
    return true
  if !(← call i .dequeueSubscribe) then
    return true
  setQueue i fun q => { q with hasSubscription := true }
  return false

def reconnectUnlocked : AQ Bool := do
  if (← queue i).hasSubscription then
    if ← reconnectSubscriptionUnlocked i then
      endSubscriptionUnlocked i
      modify (·.remove i)
      return true
    return false
  disconnectUnlocked i
  connectUnlocked i

def checkValidUnlocked : AQ Bool := do
  let q ← queue i
  if !q.valid then
    return true
  if q.conn.isNone then
    if ← connectUnlocked i then
      return true
  return false

-- checkerr() in a method of the connection: a session that cannot be made again is given up, and
-- the Datasource deletes its private data; one that a timeout has ended is abandoned, with the
-- cache, and the connection logs on again
def handled : AQ Unit := do
  use i
  if ← ask .lostForGood then
    setQueue i fun q => { q with ds := none, tinfs := [] }
  else if ← ask .sessionReplaced then
    modify (·.logon i)

def commit : AQ Unit := do
  if ← checkValidUnlocked i then
    return
  handled i

def rollback : AQ Unit := do
  if ← checkValidUnlocked i then
    return
  handled i

def openEnqueue : AQ Bool := do
  let q ← queue i
  if !q.enqueue then
    if !((← call i .enqueueCreate) && q.typeInfo) then
      return true
    setQueue i fun q => { q with enqueue := true, enqueueOf := (q.session, q.typeInfoOf) }
  return false

-- the calls after the first that fails are not made
def calls (cs : List AQCall) : AQ Bool := Act.tryEach (fun c => do return !(← call i c)) cs

def post : AQ Unit := do
  if ← checkValidUnlocked i then
    return
  if ← openEnqueue i then
    return
  if !(← ask .messageObject) then
    return
  if ← calls i [.objectBind, .msgCreate, .msgSetObject, .msgSetEnqueueDelay, .msgSetExpiration,
      .msgSetPriority] then
    return
  if ← ask .hasCorrelation then
    if ← calls i [.encode, .msgSetCorrelation] then
      return
  let _ ← call i .enqueuePut

def postHash : AQ Unit := do
  if ← checkValidUnlocked i then
    return
  if ← openEnqueue i then
    return
  let _ ← calls i [.objectBind, .msgCreate, .msgSetObject, .enqueuePut]

-- objToQore() reads numbers and timestamps with the connection, and the object is freed after it
def readMessage : AQ Unit := do
  if ← call i .msgGetObject then
    handled i
    use i

-- the first argument bounds the turns
def dequeueMessage : ℕ → AQ Unit
  | 0 => return
  | n + 1 => do
    if ← call i .dequeueGet then
      readMessage i
    else if ← ask .raised then
      if !(← call i .ping) then
        if ← reconnectUnlocked i then
          return
        if ← checkDequeueUnlocked i then
          dequeueMessage n

def getMessage (turns : ℕ) : AQ Unit := do
  if ← checkValidUnlocked i then
    return
  if !(← checkDequeueUnlocked i) then
    return
  if !(← call i .dequeueSetWaitTime) then
    return
  dequeueMessage i turns

def startSubscription : AQ Unit := do
  if ← checkValidUnlocked i then
    return
  if !(← checkDequeueUnlocked i) then
    return
  if (← queue i).hasSubscription then
    return
  modify Process.inc
  modify fun p =>
    { p.setQueue i fun q => { q with sandbox := true, subscription := p.lastSubscription + 1 } with
    lastSubscription := p.lastSubscription + 1 }
  if !(← call i .dequeueSubscribe) then
    endSubscriptionUnlocked i
    return
  setQueue i fun q => { q with hasSubscription := true }
  if ← managerAdd i then
    let _ ← stopSubscriptionUnlocked i true

def stopSubscription : AQ Unit := do
  if ← checkValidUnlocked i then
    return
  if (← queue i).hasSubscription then
    modify (·.remove i)
    let _ ← stopSubscriptionUnlocked i true

def checkSubscription : AQ Unit := do
  let q ← queue i
  if !q.sandbox || !q.valid || !q.hasSubscription || q.conn.isNone then
    return
  if ← call i .ping then
    return
  if ← reconnectSubscriptionUnlocked i then
    modify (·.remove i)
    endSubscriptionUnlocked i

-- the constructor, after the Datasource has been opened
def create : AQ Unit := do
  if (← queue i).born then
    return
  setQueue i fun q => { q with born := true, valid := true }
  modify (·.openConn i)
  disconnectUnlocked i
  let _ ← connectUnlocked i

end AQQueuePriv

inductive AQOp where
  | create
  | post
  | postHash
  | getMessage (turns : ℕ)
  | startSubscription
  | stopSubscription
  | commit
  | rollback
  | checkSubscription
  | destroy
deriving DecidableEq, Repr

def AQOp.act (i : ℕ) : AQOp → AQ Unit
  | .create => AQQueuePriv.create i
  | .post => AQQueuePriv.post i
  | .postHash => AQQueuePriv.postHash i
  | .getMessage turns => AQQueuePriv.getMessage i turns
  | .startSubscription => AQQueuePriv.startSubscription i
  | .stopSubscription => AQQueuePriv.stopSubscription i
  | .commit => AQQueuePriv.commit i
  | .rollback => AQQueuePriv.rollback i
  | .checkSubscription => AQQueuePriv.checkSubscription i
  | .destroy => AQQueuePriv.destructorUnlocked i

-- a call on a queue with what the client answers in it, or the watchdog thread leaves its loop
inductive AQStep where
  | call (i : ℕ) (op : AQOp) (answer : AQCall → ℕ → Bool)
  | watchdogEnds

def Process.step (p : Process) : AQStep → Process
  | .call i op answer => ((op.act i).run { p with answer := answer, tick := 0 }).2
  | .watchdogEnds => if p.quit then { p with running := false } else p

def Process.run (p : Process) (steps : List AQStep) : Process := steps.foldl Process.step p

end OracleDriver
