import OracleDriver.NodeBind
import OracleDriver.NodeValue
import OracleDriver.ParseQuery

/-! The moves of the functions of statements and of the connection, by what they can change. -/

namespace OracleDriver

def Column.holdsRaw (c : Column) : Bool := c.defp && OraBindNode.isRaw c.dtype

namespace Stmt

-- a defined column of the statement whose release resizes a raw buffer, which can fail
def holdsRaw (S : Stmt) : Bool := S.columns.any (·.clist.any Column.holdsRaw)

structure Calm (S S' : Stmt) : Prop where
  nodes : S'.nodeList = S.nodeList
  raw : S'.holdsRaw = true → S.holdsRaw = true

end Stmt

structure Conn.Calm (c c' : Conn) : Prop where
  lost : c'.lost = c.lost
  inLogon : c'.inLogon = c.inLogon
  callDepth : c'.callDepth = c.callDepth
  abortPending : c'.abortPending = c.abortPending
  stmtSet : c'.stmtSet ⊆ c.stmtSet
  bulkLoad : c'.bulkLoad = c.bulkLoad

namespace OraBindNode

-- a node that has not been bound
structure Fresh (n : OraBindNode) : Prop where
  dtype : n.dtype = .unset
  array : n.array = false
  strlob : n.strlob = none
  lobAllocated : n.lobAllocated = false

-- what clear() leaves of the temporary LOBs of the node
def heldAfterClear (n : OraBindNode) : List Locator :=
  if n.dtype = .unset then n.tempLobs else if n.isValue && !n.array then [] else n.strLobs

end OraBindNode

namespace World

def setLost (b : Bool) (w : World) : World := w.setConn fun c => { c with lost := b }

def setInLogon (b : Bool) (w : World) : World := w.setConn fun c => { c with inLogon := b }

def sessionEnded (w : World) : World := { w with loggedOn := false }

def sessionBegun (w : World) : World := { w with session := w.session + 1, loggedOn := true }

def assimilate (w : World) : World := { w with xsink := w.xsink ++ w.ownXsink, ownXsink := [] }

def freshSink (w : World) : World := { w with ownXsink := [] }

-- what is left of the temporary LOBs of a statement when its nodes are cleared
def heldAfterClear (s : ℕ) (w : World) : List Locator :=
  (w.stmt s).nodeList.flatMap OraBindNode.heldAfterClear

def held (s : ℕ) (w : World) : List Locator := (w.stmt s).nodeList.flatMap OraBindNode.tempLobs

-- a temporary LOB that clearing the statements `l` does not give up
def stale (l : List ℕ) (w : World) : Bool :=
  (List.range w.stmts.length).any fun s => !(if s ∈ l then w.heldAfterClear s else w.held s).isEmpty

def close (w : World) : World := { w with alive := false }

def setDsStmts (l : List ℕ) (w : World) : World := { w with dsStmts := l }

def newStatement (w : World) : World := { w with stmts := w.stmts ++ [Stmt.new] }

-- a call that must not be repeated after a loss keeps its own event
def record (e : Answer → Event) (w : World) : Answer × World :=
  (w.oracle w.tick, { w with tick := w.tick + 1, log := e (w.oracle w.tick) :: w.log })

def stmtExecute (s iters : ℕ) (w : World) : Answer × World :=
  w.record fun a => .executed s iters a (w.pending .main)

def setBulk (f : BulkLoadState → BulkLoadState) (w : World) : World :=
  w.setConn fun c => { c with bulkLoad := c.bulkLoad.map f }

def endLoad (w : World) : World := w.setConn fun c => { c with bulkLoad := none }

def beginLoad (b : BulkLoadState) (w : World) : World :=
  (w.setConn fun c => { c with bulkLoad := some b }).emit .loadBegun

def setAbortPending (b : Bool) (w : World) : World := w.setConn fun c => { c with abortPending := b }

def setCallDepth (n : ℕ) (w : World) : World := w.setConn fun c => { c with callDepth := n }

end World

inductive Kind where
  | calm
  | session
  | load
  | bind
  | retry
  | drive
deriving DecidableEq, Repr

-- the kind of move that makes an event
def Event.kind : Event → Kind
  | .called _ _ | .lobFreed _ _ => .calm
  | .lost _ _ _ | .timedOut | .replaced _ | .loggedOn _ | .lostForGood _ | .aborted => .session
  | .rowsEnded _ | .finished _ | .streamEnded _ | .stream _ => .load
  | .overwritten _ => .bind
  | .rebound _ _ => .retry
  | .executed _ _ _ _ | .loadBegun => .drive

inductive Move (h : Handler) : Kind → World → World → Prop
  | plain {w t} (hp : Plain h w t) : Move h .calm w t
  | clearNode (x s i w) : Move h .calm w ((NodeAct.clear x : NodeAct h s i false Unit).run w).2
  | resetNode (x s i w) : Move h .calm w ((NodeAct.reset x : NodeAct h s i false Unit).run w).2
  | valueNode (x s i w) : Move h .calm w ((NodeAct.getValue x : NodeAct h s i false Bool).run w).2
  | stmt (s f w) (hf : ∀ S, Stmt.Calm S (f S)) : Move h .calm w (w.setStmt s f)
  | dropNodes (s w) : Move h .calm w (w.setStmt s fun S => { S with nodeList := [] })
  | conn (f w) (hf : ∀ c, Conn.Calm c (f c)) : Move h .calm w (w.setConn f)
  | assimilate (w) : Move h .calm w w.assimilate
  | freshSink (w) : Move h .calm w w.freshSink
  | forget (l w) (hl : l ⊆ w.dsStmts) : Move h .calm w (w.setDsStmts l)
  | session (e w) (he : Event.kind e = .session) : Move h .session w (w.emit e)
  | load (e w) (he : Event.kind e = .load) : Move h .load w (w.emit e)
  | rebound (s b w) : Move h .retry w (w.emit (.rebound s b))
  | setLost (b w) : Move h .session w (w.setLost b)
  | setInLogon (b w) : Move h .session w (w.setInLogon b)
  | sessionEnded (w) : Move h .session w w.sessionEnded
  | sessionBegun (w) : Move h .session w w.sessionBegun
  | close (w) : Move h .session w w.close
  | setAbortPending (b w) : Move h .session w (w.setAbortPending b)
  | setBulk (f w) : Move h .load w (w.setBulk f)
  | endLoad (w) : Move h .load w w.endLoad
  | finish (w) : Move h .load w (w.record .finished).2
  | setNode (x v s i w) : Move h .bind w ((NodeAct.set x v : NodeAct h s i false Bool).run w).2
  | bindNode (x pos s i w) : Move h .bind w ((NodeAct.bind x pos : NodeAct h s i true Unit).run w).2
  | parsed (s f w) (hf : ∀ S, ∀ n ∈ (f S).nodeList, n ∈ S.nodeList ∨ n.Fresh) : Move h .bind w
      (w.setStmt s f)
  | columns (s f w) (hf : ∀ S, (f S).nodeList = S.nodeList) : Move h .bind w (w.setStmt s f)
  | register (s w) : Move h .drive w (w.setConn fun c => { c with stmtSet := c.stmtSet.insert s })
  | beginLoad (b w) : Move h .drive w (w.beginLoad b)
  | stmtExecute (s n w) : Move h .drive w (w.stmtExecute s n).2
  | setCallDepth (n w) : Move h .drive w (w.setCallDepth n)
  | newStatement (w) : Move h .drive w w.newStatement
  | addStatement (s w) : Move h .drive w (w.setDsStmts (s :: w.dsStmts))

-- what a function may do: release, make the session again, end a load as well, bind, all of these,
-- and execute
inductive Level where
  | calm
  | session
  | recover
  | binding
  | retry
  | all
deriving DecidableEq, Repr

def Level.kinds : Level → List Kind
  | .calm => [.calm]
  | .session => [.calm, .session]
  | .recover => [.calm, .session, .load]
  | .binding => [.calm, .bind]
  | .retry => [.calm, .session, .load, .bind, .retry]
  | .all => [.calm, .session, .load, .bind, .retry, .drive]

def Level.has (l : Level) (k : Kind) : Bool := k ∈ l.kinds

lemma Level.has_calm (l : Level) : l.has .calm = true := by cases l <;> rfl

lemma Level.has_drive : Level.all.has .drive = true := rfl

lemma Level.has_bind : Level.binding.has .bind = true := rfl

lemma Level.kinds_all (l : Level) : l.kinds ⊆ Level.all.kinds := by cases l <;> decide

def Step (h : Handler) (l : Level) (w t : World) : Prop := ∃ k, l.has k = true ∧ Move h k w t

instance (h : Handler) (l : Level) : HasPlain h (Step h l) := ⟨fun hp => ⟨.calm, l.has_calm, .plain hp⟩⟩

abbrev Drv (h : Handler) (l : Level) := Act (Step h l)

variable {h : Handler}

lemma Step.mono {l l' : Level} (hl : l.kinds ⊆ l'.kinds) (w t : World) :
    Step h l w t → Step h l' w t := by
  rintro ⟨k, hk, hm⟩
  exact ⟨k, decide_eq_true (hl (of_decide_eq_true hk)), hm⟩

namespace Drv

variable {l l' : Level} {α : Type}

-- a function of a lower level
def up (m : Drv h l α) (hl : l.kinds ⊆ l'.kinds := by first | exact Level.kinds_all _ | decide) :
    Drv h l' α :=
  Act.lift (Step.mono hl) m

@[simp] lemma run_up (m : Drv h l α) (hl : l.kinds ⊆ l'.kinds) (w : World) :
    (up m hl).run w = m.run w := rfl

-- the same for the functions that have any level
def calm (m : Drv h .calm α) : Drv h l α := up m (by cases l <;> decide)

@[simp] lemma run_calm (m : Drv h .calm α) (w : World) : (calm m : Drv h l α).run w = m.run w := rfl

def move (k : Kind) (hl : l.has k = true) (f : World → World) (hf : ∀ w, Move h k w (f w)) :
    Drv h l Unit :=
  Act.step (fun w => ((), f w)) fun w => ⟨k, hl, hf w⟩

def session (e : Event) (he : e.kind = .session) (hl : l.has .session = true) : Drv h l Unit :=
  move .session hl (World.emit e) fun w => .session e w he

def load (e : Event) (he : e.kind = .load) (hl : l.has .load = true) : Drv h l Unit :=
  move .load hl (World.emit e) fun w => .load e w he

def clearNode (x : Sink) (s i : ℕ) : Drv h l Unit :=
  Act.step ((NodeAct.clear x : NodeAct h s i false Unit).run) fun w =>
    ⟨.calm, l.has_calm, .clearNode x s i w⟩

def resetNode (x : Sink) (s i : ℕ) : Drv h l Unit :=
  Act.step ((NodeAct.reset x : NodeAct h s i false Unit).run) fun w =>
    ⟨.calm, l.has_calm, .resetNode x s i w⟩

def valueNode (x : Sink) (s i : ℕ) : Drv h l Bool :=
  Act.step ((NodeAct.getValue x : NodeAct h s i false Bool).run) fun w =>
    ⟨.calm, l.has_calm, .valueNode x s i w⟩

def setNode (x : Sink) (v : QoreValue) (s i : ℕ) : Drv h .binding Bool :=
  Act.step ((NodeAct.set x v : NodeAct h s i false Bool).run) fun w => ⟨.bind, rfl, .setNode x v s i w⟩

def bindNode (x : Sink) (pos s i : ℕ) : Drv h .binding Unit :=
  Act.step ((NodeAct.bind x pos : NodeAct h s i true Unit).run) fun w =>
    ⟨.bind, rfl, .bindNode x pos s i w⟩

def setStmt (s : ℕ) (f : Stmt → Stmt) (hf : ∀ S, Stmt.Calm S (f S)) : Drv h l Unit := do
  touch
  move .calm l.has_calm (·.setStmt s f) fun w => .stmt s f w hf

def setConn (f : Conn → Conn) (hf : ∀ c, Conn.Calm c (f c)) : Drv h l Unit := do
  touch
  move .calm l.has_calm (·.setConn f) fun w => .conn f w hf

def stmt (s : ℕ) : Drv h l Stmt := do
  touch
  let w ← Act.get
  return w.stmt s

end Drv

end OracleDriver
