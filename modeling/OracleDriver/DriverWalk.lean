import OracleDriver.Frames

/-! A property of the world that every move keeps, and that giving the session up keeps, is kept by
all that the entry points do. -/

namespace OracleDriver

open Act

-- what a function keeps that calls the client, raises and sets the connection, and one that handles
-- errors as well
structure Speaks (P : World → Prop) : Prop where
  touch : ∀ {w}, P w → P w.touch
  ask : ∀ {w} c, P w → P (w.ask c).2
  raise : ∀ {w} x e, P w → P (w.raise x e)
  conn : ∀ {w} f, (∀ c, Conn.Calm c (f c)) → P w → P (w.setConn f)

structure Talks (h : Handler) (P : World → Prop) : Prop extends Speaks P where
  check : ∀ {w} x a who, P w → P (w.checkerr h x a who).2

structure Moved (h : Handler) (P : World → Prop) : Prop extends Talks h P where
  calm : ∀ {w t}, Move h .calm w t → P w → P t

-- what the stream of a load counts
structure BulkStream.Same (s s' : BulkStream) : Prop where
  started : s'.started = s.started
  consumed : s'.consumed = s.consumed
  reported : s'.reported = s.reported

-- the same for what loads the rows of a block, for what closes the path, for the end of a load, and
-- for all that is done with one
structure Fills (h : Handler) (P : World → Prop) : Prop extends Moved h P where
  fill : ∀ {w} f, (∀ b, BulkStream.Same b.stream (f b).stream) → P w → P (w.setBulk f)

structure Closes (h : Handler) (P : World → Prop) : Prop extends Talks h P where
  finish : ∀ {w}, P w → P (w.record .finished).2

structure Finishes (h : Handler) (P : World → Prop) : Prop extends Closes h P where
  load : ∀ {w t}, Move h .load w t → P w → P t

structure Loadable (h : Handler) (P : World → Prop) : Prop extends Fills h P, Finishes h P

structure Carried (h : Handler) (P : World → Prop) : Prop extends Moved h P where
  bind : ∀ {w t}, Move h .bind w t → P w → P t
  retry : ∀ {w t}, Move h .retry w t → P w → P t
  event : ∀ {w} (e : Event), e.kind = .session → e ≠ .aborted → (∀ n, e ≠ .lostForGood n) → P w →
    P (w.emit e)
  lose : ∀ {w}, P w → P (w.setLost true)
  recover : ∀ {w}, P w → P (w.setLost false)
  setInLogon : ∀ {w} b, P w → P (w.setInLogon b)
  sessionEnded : ∀ {w}, P w → P w.sessionEnded
  sessionBegun : ∀ {w}, P w → P w.sessionBegun
  register : ∀ {w} s, P w → P (w.setConn fun c => { c with stmtSet := c.stmtSet.insert s })
  stmtExecute : ∀ {w} s n, P w → P (w.stmtExecute s n).2
  newStatement : ∀ {w}, P w → P w.newStatement
  addStatement : ∀ {w} s, P w → P (w.setDsStmts (s :: w.dsStmts))
  endLoad : ∀ x success, Spec P (bulkLoadEnd x success : Drv h .recover Bool) fun _ => P
  abort : ∀ x, Spec P (abortConnection x : Drv h .recover Unit) fun _ => P

variable {h : Handler} {P : World → Prop} {l : Level} {α β : Type} (x : Sink) (s n : ℕ)

lemma carried_pure {a : α} : Spec P (pure a : Drv h l α) fun _ => P := spec_pure fun _ hw => hw

lemma carried_then {m : Drv h l Bool} {e k : Drv h l α} (hm : Spec P m fun _ => P)
    (he : Spec P e fun _ => P)
    (hk : Spec P k fun _ => P) : Spec P (m >>= fun b => if b = true then e else k) fun _ => P :=
  spec_then hm he hk

-- what no function that only releases can change
lemma spec_calm (hm : ∀ {w t}, Move h .calm w t → P w → P t) (m : Drv h .calm α) :
    Spec P m fun _ => P := by
  refine spec_invariant ?_ m
  rintro w t ⟨k, hk, hstep⟩ hw
  cases k with
  | calm => exact hm hstep hw
  | _ => exact absurd hk (by decide)

lemma Talks.of_calm (hm : ∀ {w t}, Move h .calm w t → P w → P t) : Talks h P where
  touch hw := hm (.plain (.touch _)) hw
  ask c hw := hm (.plain (.ask c _)) hw
  raise x e hw := hm (.plain (.raise x e _)) hw
  check x a who hw := hm (.plain (.check x a who _)) hw
  conn f hf hw := hm (.conn f _ hf) hw

-- what the moves that release, bind and bind again keep, for a property of the connection and of the log
structure Tends (h : Handler) (P : World → Prop) : Prop where
  same : ∀ {w t : World}, P w → t.conn = w.conn → t.log = w.log → t.alive = w.alive →
    t.stray = w.stray → P t
  touch : ∀ {w}, P w → P w.touch
  ask : ∀ {w} c, P w → P (w.ask c).2
  emit : ∀ {w} (e : Event), e.kind = .calm ∨ e.kind = .bind ∨ e.kind = .retry → P w → P (w.emit e)
  conn : ∀ {w} f, (∀ c, Conn.Calm c (f c)) → P w → P (w.setConn f)
  handle : ∀ {w} x who, P w → P (h x who w)

namespace Tends

variable {w t : World} (hP : Tends h P)
include hP

lemma raise (x : Sink) (e : Exn) (hw : P w) : P (w.raise x e) := by
  cases x <;> exact hP.same hw rfl rfl rfl rfl

lemma setStmt (s : ℕ) (f : Stmt → Stmt) (hw : P w) : P (w.setStmt s f) := hP.same hw rfl rfl rfl rfl

lemma check (x : Sink) (a : Answer) (who : String) (hw : P w) : P (w.checkerr h x a who).2 := by
  unfold World.checkerr
  split
  · exact hw
  · exact hw
  · exact hP.handle x who (hP.touch hw)
  all_goals exact hP.raise x _ hw

lemma plain (hp : Plain h w t) (hw : P w) : P t := by
  cases hp with
  | touch => exact hP.touch hw
  | ask c => exact hP.ask c hw
  | raise x e => exact hP.raise x e hw
  | check x a who => exact hP.check x a who hw
  | exhaust => exact hP.same hw rfl rfl rfl rfl

lemma freeTemporary (l : Locator) (hw : P w) : P (w.freeTemporary l).2 := by
  apply hP.ask
  apply hP.touch
  exact hP.emit _ (.inl rfl) hw

lemma createTemporary (hw : P w) : P w.createTemporary.2 := by
  unfold World.createTemporary
  dsimp only
  split <;> exact hP.ask _ (hP.touch hw)

lemma nodeMove {s i : ℕ} {b : Bool} (hm : NodeMove h s i b w t) (hw : P w) : P t := by
  cases hm with
  | plain hp => exact hP.plain hp hw
  | tidy => exact hP.setStmt _ _ hw
  | strlobFree =>
    unfold World.strlobFree
    split
    · split
      · exact hP.touch hw
      · exact hP.freeTemporary _ hw
    · exact hw
  | arraybindFree =>
    unfold World.arraybindFree
    split
    · split
      · exact hP.touch hw
      · exact hP.freeTemporary _ hw
    · exact hw
  | arm => exact hP.setStmt _ _ hw
  | describe =>
    unfold World.describe
    dsimp only
    split
    · exact hP.emit _ (.inr (.inl rfl)) (hP.setStmt _ _ hw)
    · exact hP.setStmt _ _ hw
  | strlobCreate =>
    unfold World.strlobCreate
    dsimp only
    split
    · exact hP.setStmt _ _ (hP.createTemporary hw)
    · exact hP.createTemporary hw
  | arraybindCreate =>
    unfold World.arraybindCreate
    dsimp only
    split
    · exact hP.setStmt _ _ (hP.createTemporary hw)
    · exact hP.createTemporary hw

lemma node {s i : ℕ} {b : Bool} (m : NodeAct h s i b α) (hw : P w) : P (m.run w).2 :=
  Act.invariant (fun _ _ hm hw => hP.nodeMove hm hw) m hw

lemma move {k : Kind} (hm : Move h k w t) (hk : k = .calm ∨ k = .bind ∨ k = .retry) (hw : P w) :
    P t := by
  cases hm with
  | plain hp => exact hP.plain hp hw
  | clearNode | resetNode | valueNode | setNode | bindNode => exact hP.node _ hw
  | stmt | dropNodes | parsed | columns => exact hP.setStmt _ _ hw
  | conn f _ hf => exact hP.conn f hf hw
  | rebound => exact hP.emit _ (.inr (.inr rfl)) hw
  | assimilate | freshSink | forget => exact hP.same hw rfl rfl rfl rfl
  | _ => exact absurd hk (by decide)

lemma moved : Moved h P where
  toTalks := .of_calm fun hm => hP.move hm (.inl rfl)
  calm hm := hP.move hm (.inl rfl)

end Tends

section Speak

variable (hc : Speaks P)
include hc

lemma moved_touch : Spec P (touch : Drv h l Unit) fun _ => P := fun _ hw => hc.touch hw

lemma moved_ask (c : Call) : Spec P (ask c : Drv h l Answer) fun _ => P := fun _ hw => hc.ask c hw

lemma moved_oci (c : Call) : Spec P (oci c : Drv h l Answer) fun _ => P :=
  spec_bind (moved_touch hc) fun _ => moved_ask hc c

lemma moved_raise (e : Exn) : Spec P (raise x e : Drv h l Unit) fun _ => P := fun _ hw => hc.raise x e hw

lemma moved_conn : Spec P (conn : Drv h l Conn) fun _ => P := spec_bind (moved_touch hc) fun _ _ hw => hw

lemma moved_setConn (f : Conn → Conn) (hf : ∀ c, Conn.Calm c (f c)) :
    Spec P (Drv.setConn f hf : Drv h l Unit) fun _ => P :=
  spec_bind (moved_touch hc) fun _ _ hw => hc.conn f hf hw

lemma moved_cancel : Spec P (checkCancel x : Drv h l Bool) fun _ => P :=
  spec_bind (moved_ask hc _) fun _ =>
    spec_ite (fun _ => spec_bind (moved_raise x hc _) fun _ => carried_pure) fun _ => carried_pure

lemma moved_turn (i : ℕ) : Spec P (checkTurn x i : Drv h l Bool) fun _ => P :=
  spec_ite (fun _ => moved_cancel x hc) fun _ => carried_pure

omit hc in
lemma carried_pending : Spec P (pending x : Drv h l Bool) fun _ => P := fun _ hw => hw

omit hc in
lemma carried_setting : Spec P (setting : Drv h l Setting) fun _ => P := fun _ hw => hw

omit hc in
lemma carried_account : Spec P (account : Drv h l String) fun _ => P := fun _ hw => hw

lemma moved_bulk : Spec P (bulk : Drv h .recover _) fun _ => P :=
  spec_bind (moved_conn hc) fun _ => carried_pure

lemma moved_doException (who : String) (e : Answer) :
    Spec P (doException x who e : Drv h l Unit) fun _ => P :=
  spec_bind carried_account fun _ => moved_raise x hc _

lemma moved_ping (e : Answer) : Spec P (ping e : Drv h l Bool) fun _ => P := by
  refine spec_ite (fun _ => carried_pure) fun _ => spec_bind (moved_conn hc) fun c => ?_
  exact spec_ite (fun _ => carried_pure) fun _ => spec_bind (moved_oci hc _) fun _ => carried_pure

end Speak

section Talk

variable (hc : Talks h P)
include hc

lemma moved_check (a : Answer) (who : String) : Spec P (check x a who : Drv h l Bool) fun _ => P :=
  fun _ hw => hc.check x a who hw

lemma moved_checked (c : Call) (who : String) : Spec P (checked x c who : Drv h l Bool) fun _ => P :=
  spec_bind (moved_oci hc.toSpeaks c) fun a => moved_check x hc a who

lemma moved_attrSet (who : String) : Spec P (attrSet x who : Drv h l Bool) fun _ => P :=
  moved_checked x hc _ _

lemma moved_applyRecvTimeout (ms : ℕ) : Spec P (applyRecvTimeout x ms : Drv h l Bool) fun _ => P := by
  refine spec_bind carried_setting fun c => spec_ite (fun _ => moved_attrSet x hc _) fun _ => ?_
  refine spec_ite (fun _ => carried_pure) fun _ => ?_
  exact spec_bind (moved_raise x hc.toSpeaks _) fun _ => carried_pure

lemma moved_handleAlloc (who : String) : Spec P (handleAlloc x who : Drv h l Bool) fun _ => P :=
  moved_checked x hc _ _

lemma moved_setFittingAttr (c : Setting) (value : Text) (n : ℕ) :
    Spec P (setFittingAttr x c value n : Drv h l Bool) fun _ => P := by
  induction n with
  | zero => exact moved_attrSet x hc _
  | succ n ih =>
    unfold setFittingAttr
    split
    · exact spec_bind (moved_raise x hc.toSpeaks _) fun _ => carried_pure
    · exact spec_ite (fun _ => moved_attrSet x hc _) fun _ => ih

lemma moved_applyThreadSessionInfo : Spec P (applyThreadSessionInfo x : Drv h l Bool) fun _ => P := by
  have apply (info : ℕ → Text) (i : ℕ) : Spec P (applyAttr x info i : Drv h l Bool) fun _ => P := by
    refine spec_bind (moved_conn hc.toSpeaks) fun c => spec_ite (fun _ => carried_pure) fun _ =>
      carried_then ?_ ?_ ?_
    · refine spec_bind carried_setting fun c => spec_ite (fun _ => moved_attrSet x hc _) fun _ => ?_
      exact moved_setFittingAttr x hc c _ _
    · exact spec_bind (moved_setConn hc.toSpeaks _ _) fun _ => carried_pure
    · exact spec_bind (moved_setConn hc.toSpeaks _ _) fun _ => carried_pure
  refine spec_bind carried_setting fun c =>
    carried_then (spec_tryEach fun i _ => apply _ i) carried_pure ?_
  exact spec_bind (moved_setConn hc.toSpeaks _ _) fun _ => carried_pure

lemma moved_commit : Spec P (commit x : Drv h l Bool) fun _ => P :=
  carried_then (moved_cancel x hc.toSpeaks) carried_pure
    (carried_then (moved_applyThreadSessionInfo x hc) carried_pure (moved_checked x hc _ _))

lemma moved_simpleExec : Spec P (simpleExec x : Drv h .session Bool) fun _ => P := by
  refine carried_then (moved_handleAlloc x hc _) carried_pure ?_
  refine carried_then (moved_checked x hc _ _) carried_pure
    (carried_then (moved_cancel x hc.toSpeaks) carried_pure ?_)
  exact carried_then (moved_applyThreadSessionInfo x hc) carried_pure (moved_checked x hc _ _)

lemma moved_serverAttach : Spec P (serverAttach x : Drv h .session Bool) fun _ => P := by
  refine carried_then (moved_attrSet x hc _) carried_pure
    (carried_then (moved_attrSet x hc _) carried_pure ?_)
  refine carried_then (moved_cancel x hc.toSpeaks) carried_pure
    (spec_bind (moved_oci hc.toSpeaks _) fun a => ?_)
  refine carried_then (moved_cancel x hc.toSpeaks) carried_pure
    (carried_then (moved_check x hc _ _) carried_pure ?_)
  exact spec_bind (moved_setConn hc.toSpeaks _ _) fun _ => carried_pure

lemma moved_sessionBegin (hb : ∀ {w}, P w → P w.sessionBegun) :
    Spec P (sessionBegin x : Drv h .session Bool) fun _ => P := by
  have begun (a : Answer) : Spec P (do
      if ← checkCancel x then
        return true
      check x a "QoreOracleConnection::logon() session begin" : Drv h .session Bool) fun _ => P :=
    carried_then (moved_cancel x hc.toSpeaks) carried_pure (moved_check x hc _ _)
  have started : Spec P (do
      if ← attrSet x "QoreOracleConnection::logon() server to service context" then
        return true
      if ← checkCancel x then
        return true
      let a ← oci .sessionBegin
      if a.ok then
        Drv.move .session rfl World.sessionBegun .sessionBegun
      if ← checkCancel x then
        return true
      check x a "QoreOracleConnection::logon() session begin" : Drv h .session Bool) fun _ => P := by
    refine carried_then (moved_attrSet x hc _) carried_pure
      (carried_then (moved_cancel x hc.toSpeaks) carried_pure ?_)
    refine spec_bind (moved_oci hc.toSpeaks _) fun a => spec_ite (fun _ => ?_) fun _ => begun a
    exact spec_bind (Q := fun _ => P) (fun _ hw => hb hw) fun _ => begun a
  refine spec_bind (moved_conn hc.toSpeaks) fun c => spec_ite (fun _ => ?_) fun _ => started
  exact carried_then (moved_applyRecvTimeout x hc _) carried_pure started

lemma moved_setupSession (hb : ∀ {w}, P w → P w.sessionBegun) :
    Spec P (setupSession x : Drv h .session Bool) fun _ => P :=
  carried_then (moved_serverAttach x hc) carried_pure
    (carried_then (moved_sessionBegin x hc hb) carried_pure
    (carried_then (moved_attrSet x hc _) carried_pure (moved_simpleExec x hc)))

end Talk

section Close

variable (hc : Closes h P)
include hc

lemma BulkLoadState.moved_closePath (success : Bool) :
    Spec P (BulkLoadState.closePath x success : Drv h .recover _) fun _ => P := by
  have finish : Spec P (BulkLoadState.finishPath : Drv h .recover Answer) fun _ => P :=
    spec_bind (moved_touch hc.toSpeaks) fun _ w hw => hc.finish hw
  refine spec_bind (moved_cancel x hc.toSpeaks) fun _ =>
    spec_ite (fun _ => spec_bind finish fun a => ?_) fun _ => ?_
  · refine carried_then (moved_check x hc.toTalks _ _) ?_ carried_pure
    exact spec_bind (moved_oci hc.toSpeaks _) fun _ => carried_pure
  · exact spec_bind (moved_checked x hc.toTalks _ _) fun _ => carried_pure

end Close

section Load

variable (hc : Finishes h P)
include hc

lemma moved_loadEvent (e : Event) (he : e.kind = .load) :
    Spec P (Drv.load e he rfl : Drv h .recover Unit) fun _ => P :=
  fun w hw => hc.load (.load e w he) hw

lemma BulkLoadState.moved_terminate (b : BulkLoadState) (success : Bool) :
    Spec P (BulkLoadState.terminate x b success : Drv h .recover Bool) fun _ => P := by
  have finish (success : Bool) : Spec P
      (BulkStream.finish x b.stream success : Drv h .recover Bool) fun _ => P := by
    refine spec_ite (fun _ => carried_pure) fun _ => spec_bind (moved_loadEvent hc _ rfl) fun _ => ?_
    · refine spec_bind (moved_loadEvent hc _ rfl) fun _ =>
        spec_bind (moved_oci hc.toSpeaks _) fun a => spec_ite (fun _ => ?_) fun _ => carried_pure
      exact spec_bind (moved_raise x hc.toSpeaks _) fun _ => carried_pure
  have done (success cleanupOk : Bool) : Spec P (do
      let failed ← BulkStream.finish x b.stream (success && cleanupOk)
      return failed || !cleanupOk || (← pending x) : Drv h .recover Bool) fun _ => P :=
    spec_bind (finish _) fun _ => spec_bind (carried_pending x) fun _ => carried_pure
  unfold BulkLoadState.terminate
  split
  · exact spec_bind (BulkLoadState.moved_closePath x hc.toCloses _) fun r => done r.1 r.2
  · exact done success true

lemma moved_bulkLoadEnd (success : Bool) : Spec P (bulkLoadEnd x success : Drv h .recover Bool)
    fun _ => P := by
  refine spec_bind (moved_bulk hc.toSpeaks) fun b => ?_
  cases b with
  | none => exact spec_bind (moved_raise x hc.toSpeaks _) fun _ => carried_pure
  | some b =>
    refine spec_bind (Q := fun _ => P) (fun w hw => hc.load (.endLoad w) hw) fun _ => ?_
    exact BulkLoadState.moved_terminate x hc b success

end Load

section Walk

variable (hc : Moved h P)
include hc

lemma moved_calm (m : Drv h .calm α) : Spec P m fun _ => P := spec_calm hc.calm m

lemma moved_lower (m : Drv h .calm α) : Spec P (Drv.calm m : Drv h l α) fun _ => P := moved_calm hc m

-- a function of any level is one that only releases
lemma moved_as {m : Drv h l α} (m' : Drv h .calm α) (hm : m.run = m'.run) : Spec P m fun _ => P := by
  intro w hw
  rw [hm]
  exact moved_calm hc m' w hw

lemma moved_exhaust : Spec P (exhaust : Drv h l Unit) fun _ => P := moved_as hc exhaust rfl

lemma moved_stmt : Spec P (Drv.stmt s : Drv h l Stmt) fun _ => P := moved_as hc (Drv.stmt s) rfl

lemma moved_setStmt (f : Stmt → Stmt) (hf : ∀ S, Stmt.Calm S (f S)) :
    Spec P (Drv.setStmt s f hf : Drv h l Unit) fun _ => P :=
  moved_as hc (Drv.setStmt s f hf) rfl

end Walk

section Fill

variable (hc : Fills h P)
include hc

lemma moved_setBulk (f : BulkLoadState → BulkLoadState)
    (hf : ∀ b, BulkStream.Same b.stream (f b).stream) :
    Spec P (setBulk f : Drv h .recover Unit) fun _ => P :=
  spec_bind (moved_touch hc.toSpeaks) fun _ _ hw => hc.fill f hf hw

lemma moved_setPath (f : DirectPath → DirectPath) :
    Spec P (setBulk (BulkLoadState.setPath f) : Drv h .recover Unit) fun _ => P :=
  moved_setBulk hc _ fun _ => ⟨rfl, rfl, rfl⟩

lemma moved_failRows (e : Option Exn) : Spec P (failRows x e : Drv h .recover Bool) fun _ => P := by
  refine spec_bind (moved_setBulk hc _ fun _ => ⟨rfl, rfl, rfl⟩) fun _ => ?_
  cases e with
  | none => exact carried_pure
  | some e => exact spec_bind (moved_raise x hc.toSpeaks e) fun _ => carried_pure

end Fill

namespace BulkLoadState

section Fill

variable (hc : Fills h P)
include hc

lemma moved_reset (c : Call) (who : String) (f : DirectPath → DirectPath) : Spec P (do
    let a ← oci c
    if a.ok then
      setBulk (setPath f)
    check x a who : Drv h .recover Bool) fun _ => P := by
  refine spec_bind (moved_oci hc.toSpeaks _) fun a => spec_ite (fun _ => ?_) fun _ =>
    moved_check x hc.toTalks _ _
  exact spec_bind (moved_setPath hc _) fun _ => moved_check x hc.toTalks _ _

lemma moved_loadStream : Spec P (loadStream x : Drv h .recover Bool) fun _ => P := by
  refine carried_then (moved_cancel x hc.toSpeaks) carried_pure
    (spec_bind (moved_oci hc.toSpeaks _) fun a => ?_)
  split
  · exact spec_bind (moved_setPath hc _) fun _ => carried_pure
  · exact spec_bind (moved_setPath hc _) fun _ => carried_pure
  · exact spec_bind (moved_check x hc.toTalks _ _) fun _ => carried_pure
  · exact spec_bind (moved_raise x hc.toSpeaks _) fun _ => carried_pure

lemma moved_setRow (e : List BulkCell × ℕ) : Spec P (setRow x e : Drv h .recover Bool) fun _ => P := by
  refine carried_then (moved_turn x hc.toSpeaks _) carried_pure (spec_tryEach fun f _ => ?_)
  exact carried_then (moved_turn x hc.toSpeaks _) carried_pure (moved_reset x hc _ _ _)

lemma moved_width : Spec P (width : Drv h .recover ℕ) fun _ => P :=
  spec_bind (moved_bulk hc.toSpeaks) fun _ => carried_pure

lemma moved_convert (rowCount rowOffset : ℕ) :
    Spec P (convert x rowCount rowOffset : Drv h .recover _) fun _ => P := by
  refine carried_then (moved_cancel x hc.toSpeaks) carried_pure
    (spec_bind (moved_oci hc.toSpeaks _) fun a => ?_)
  split
  · exact spec_bind (moved_width hc) fun _ => spec_bind (moved_setPath hc _) fun _ => carried_pure
  · exact spec_bind (moved_width hc) fun _ => spec_bind (moved_setPath hc _) fun _ => carried_pure
  · refine spec_bind (moved_width hc) fun _ => spec_bind (moved_setPath hc _) fun _ => ?_
    refine carried_then (moved_checked x hc.toTalks _ _) carried_pure
      (spec_ite (fun _ => ?_) fun _ => carried_pure)
    exact spec_bind (moved_raise x hc.toSpeaks _) fun _ => carried_pure
  · exact spec_bind (moved_check x hc.toTalks _ _) fun _ => carried_pure
  · exact spec_bind (moved_raise x hc.toSpeaks _) fun _ => carried_pure

lemma moved_convertRows (rowCount n rowOffset : ℕ) :
    Spec P (convertRows x rowCount n rowOffset : Drv h .recover Bool) fun _ => P := by
  induction n generalizing rowOffset with
  | zero =>
    exact spec_ite (fun _ => spec_bind (moved_exhaust hc.toMoved) fun _ => carried_pure)
      fun _ => carried_pure
  | succ n ih =>
    refine spec_ite (fun _ => carried_pure) fun _ => spec_bind (moved_convert x hc _ _) fun r => ?_
    cases r with
    | none => exact carried_pure
    | some next =>
      refine carried_then (moved_loadStream x hc) carried_pure (spec_ite (fun _ => ?_) fun _ => ih _)
      exact carried_then (moved_reset x hc _ _ _) carried_pure (ih _)

lemma moved_loadChunk (cells : List (List BulkCell)) (offset rowCount : ℕ) :
    Spec P (loadChunk x cells offset rowCount : Drv h .recover Bool) fun _ => P := by
  have rest : Spec P (do
      if ← Act.tryEach (setRow x) ((List.range rowCount).map fun row =>
          (blockRow cells (offset + row), row)) then
        return true
      if ← convertRows x rowCount rowCount 0 then
        return true
      setBulk setUsed
      return false : Drv h .recover Bool) fun _ => P := by
    refine carried_then (spec_tryEach fun e _ => moved_setRow x hc e) carried_pure ?_
    refine carried_then (moved_convertRows x hc _ _ _) carried_pure ?_
    exact spec_bind (moved_setBulk hc _ fun _ => ⟨rfl, rfl, rfl⟩) fun _ => carried_pure
  refine spec_bind (moved_bulk hc.toSpeaks) fun b => spec_ite (fun _ => ?_) fun _ => rest
  refine carried_then ?_ carried_pure rest
  exact carried_then (moved_reset x hc _ _ _) carried_pure (moved_reset x hc _ _ _)

lemma moved_loadChunks (cells : List (List BulkCell)) (count n offset : ℕ) :
    Spec P (loadChunks x cells count n offset : Drv h .recover Bool) fun _ => P := by
  induction n generalizing offset with
  | zero =>
    exact spec_ite (fun _ => spec_bind (moved_exhaust hc.toMoved) fun _ => carried_pure)
      fun _ => carried_pure
  | succ n ih =>
    refine spec_ite (fun _ => carried_pure) fun _ =>
      spec_bind (spec_bind (moved_bulk hc.toSpeaks) fun _ => carried_pure) fun _ => ?_
    exact carried_then (moved_loadChunk x hc _ _ _) (moved_failRows x hc _) (ih _)

lemma moved_validate (rows : List (Text × QoreValue)) (columns : List (BulkColumn × ℕ))
    (rowCount : Option ℕ) :
    Spec P (validate x rows columns rowCount : Drv h .recover _) fun _ => P := by
  induction columns generalizing rowCount with
  | nil => exact carried_pure
  | cons c columns ih =>
    refine carried_then (moved_turn x hc.toSpeaks _) ?_ ?_
    · exact spec_bind (moved_failRows x hc _) fun _ => carried_pure
    split
    · exact spec_bind (moved_failRows x hc _) fun _ => carried_pure
    · refine spec_bind (ih _) fun r => ?_
      split <;> exact carried_pure

lemma moved_serializeRows (c : Setting) (column : BulkColumn) (v : QoreValue) (n row payload : ℕ) :
    Spec P (serializeRows x c column v n row payload : Drv h .recover _) fun _ => P := by
  induction n generalizing row payload with
  | zero => exact carried_pure
  | succ n ih =>
    refine carried_then (moved_turn x hc.toSpeaks _) ?_ ?_
    · exact spec_bind (moved_failRows x hc _) fun _ => carried_pure
    split
    · exact spec_bind (moved_failRows x hc _) fun _ => carried_pure
    · refine spec_ite (fun _ => spec_bind (moved_failRows x hc _) fun _ => carried_pure) fun _ =>
        spec_bind (ih _ _) fun r => ?_
      split <;> exact carried_pure

lemma moved_serializeColumns (c : Setting) (count : ℕ)
    (columns : List ((BulkColumn × QoreValue) × ℕ)) (payload : ℕ) :
    Spec P (serializeColumns x c count columns payload : Drv h .recover _) fun _ => P := by
  induction columns generalizing payload with
  | nil => exact carried_pure
  | cons e columns ih =>
    refine carried_then (moved_turn x hc.toSpeaks _) ?_
      (spec_bind (moved_serializeRows x hc _ _ _ _ _ _) fun r => ?_)
    · exact spec_bind (moved_failRows x hc _) fun _ => carried_pure
    split
    · exact carried_pure
    · refine spec_bind (ih _) fun r => ?_
      split <;> exact carried_pure

lemma moved_loadRows (hb : ∀ columns values count,
    Spec P (loadBlock x columns values count : Drv h .recover Bool) fun _ => P)
    (columns : List BulkColumn) (rows : List (Text × QoreValue)) :
    Spec P (loadRows x columns rows : Drv h .recover Bool) fun _ => P := by
  refine spec_ite (fun _ => moved_failRows x hc _) fun _ => ?_
  refine spec_bind (moved_validate x hc _ _ _) fun r => ?_
  split
  · exact carried_pure
  · exact spec_ite (fun _ => carried_pure) fun _ => hb _ _ _

end Fill

section Load

variable (hc : Loadable h P)
include hc

lemma moved_addBytes (bytes : ℕ) : Spec P (BulkStream.addBytes x bytes : Drv h .recover Bool)
    fun _ => P := by
  have set (f : BulkLoadState → BulkLoadState) : Spec P (setBulk f : Drv h .recover Unit) fun _ => P :=
    spec_bind (moved_touch hc.toSpeaks) fun _ w hw => hc.load (.setBulk f w) hw
  refine spec_bind (moved_bulk hc.toSpeaks) fun b => ?_
  cases b with
  | none => exact carried_pure
  | some b =>
    refine spec_ite (fun _ => carried_pure) fun _ => spec_ite (fun _ => ?_) fun _ => ?_
    · exact spec_bind (moved_loadEvent hc.toFinishes _ rfl) fun _ => moved_failRows x hc.toFills _
    refine spec_bind (set _) fun _ => spec_ite (fun _ => carried_pure) fun _ => ?_
    refine spec_bind (set _) fun _ => spec_bind (moved_loadEvent hc.toFinishes _ rfl) fun _ =>
      spec_bind (moved_oci hc.toSpeaks _) fun a => ?_
    exact spec_ite (fun _ => moved_failRows x hc.toFills _) fun _ => carried_pure

lemma moved_loadBlock (columns : List BulkColumn) (values : List QoreValue) (count : ℕ) :
    Spec P (loadBlock x columns values count : Drv h .recover Bool) fun _ => P := by
  refine spec_bind (carried_setting) fun c =>
    spec_bind (moved_serializeColumns x hc.toFills _ _ _ _) fun r => ?_
  split
  · exact carried_pure
  · refine carried_then (moved_loadChunks x hc.toFills _ _ _ _) carried_pure ?_
    exact spec_bind (moved_loadEvent hc.toFinishes _ rfl) fun _ => moved_addBytes x hc _

end Load

end BulkLoadState

lemma moved_bulkLoadRows (hc : Speaks P)
    (hr : ∀ columns rows,
      Spec P (BulkLoadState.loadRows x columns rows : Drv h .recover Bool) fun _ => P)
    (he : ∀ {w} b, P w → P (w.emit (.rowsEnded b))) (rows : List (Text × QoreValue)) :
    Spec P (bulkLoadRows x rows : Drv h .recover Bool) fun _ => P := by
  refine spec_bind (moved_bulk hc) fun b => ?_
  cases b with
  | none => exact spec_bind (moved_raise x hc _) fun _ => carried_pure
  | some b =>
    refine spec_bind (hr _ _) fun failed => ?_
    exact spec_bind (Q := fun _ => P) (fun w hw => he _ hw) fun _ => carried_pure

section Walk

variable (hc : Moved h P)
include hc

lemma moved_next : Spec P (next x s : Drv h l Bool) fun _ => P := by
  refine spec_bind (moved_oci hc.toSpeaks _) fun a => spec_ite (fun _ => carried_pure) fun _ => ?_
  exact carried_then (moved_check x hc.toTalks _ _) carried_pure
    (spec_bind (moved_setStmt s hc _ _) fun _ => carried_pure)

lemma moved_setPrefetch (rows : ℤ) : Spec P (setPrefetch x s rows : Drv h l Bool) fun _ => P := by
  refine spec_bind (moved_stmt s hc) fun S => spec_ite (fun _ => carried_pure) fun _ => ?_
  exact carried_then (moved_checked x hc.toTalks _ _) carried_pure
    (spec_bind (moved_setStmt s hc _ _) fun _ => carried_pure)

lemma moved_affectedRows : Spec P (affectedRows x : Drv h l Unit) fun _ => P :=
  spec_bind (moved_checked x hc.toTalks _ _) fun _ => carried_pure

lemma moved_delColumns : Spec P (delColumns x s : Drv h l Unit) fun _ => P := by
  have column (j : ℕ) : Spec P (delColumn x s j : Drv h l Unit) fun _ => P := by
    have ended : Spec P (Drv.setStmt s (·.endColumn j) (.endColumn j) : Drv h l Unit) fun _ => P :=
      moved_setStmt s hc _ _
    refine spec_bind (moved_stmt s hc) fun S => ?_
    split
    · exact carried_pure
    · refine spec_ite (fun _ => carried_pure) fun _ => spec_ite (fun _ => ?_) fun _ =>
        spec_ite (fun _ => ?_) fun _ => ended
      · exact spec_bind (moved_checked x hc.toTalks _ _) fun _ => ended
      · refine spec_bind (moved_oci hc.toSpeaks _) fun a => spec_ite (fun _ => ?_) fun _ => ended
        exact spec_bind (moved_raise x hc.toSpeaks _) fun _ => ended
  refine spec_bind (moved_stmt s hc) fun S => ?_
  split
  · exact carried_pure
  · exact spec_bind (spec_each fun j _ => column j) fun _ => moved_setStmt s hc _ _

lemma moved_stmtReset : Spec P (stmtReset x s : Drv h l Unit) fun _ => P := by
  have node (i : ℕ) : Spec P (Drv.resetNode x s i : Drv h l Unit) fun _ => P :=
    fun w hw => hc.calm (.resetNode x s i w) hw
  refine spec_bind (moved_setStmt s hc _ _) fun _ => spec_bind (moved_stmt s hc) fun S => ?_
  refine spec_bind (spec_each fun i _ => node i) fun _ =>
    spec_bind (Q := fun _ => P) (fun w hw => ?_) fun _ => ?_
  · exact hc.calm (.dropNodes s w) hw
  · refine spec_bind (moved_delColumns x s hc) fun _ => spec_bind (moved_setStmt s hc _ _) fun _ => ?_
    exact moved_setConn hc.toSpeaks _ _

end Walk

section Walk

variable (hc : Carried h P)
include hc

lemma carried_binding (m : Drv h .binding α) : Spec P m fun _ => P := by
  refine spec_invariant ?_ m
  rintro w t ⟨k, hk, hstep⟩ hw
  cases k with
  | calm => exact hc.calm hstep hw
  | bind => exact hc.bind hstep hw
  | _ => exact absurd hk (by decide)

lemma carried_session (e : Event) (he : e.kind = .session) (ha : e ≠ .aborted)
    (hl : ∀ n, e ≠ .lostForGood n)
    (hs : l.has .session = true) : Spec P (Drv.session e he hs : Drv h l Unit) fun _ => P :=
  fun _ hw => hc.event e he ha hl hw

lemma carried_sessionEnded :
    Spec P (Drv.move .session rfl World.sessionEnded .sessionEnded : Drv h .session Unit)
      fun _ => P :=
  fun _ hw => hc.sessionEnded hw

lemma carried_logoff : Spec P (logoff : Drv h .session Unit) fun _ => P := by
  refine spec_bind (moved_oci hc.toSpeaks _) fun _ => spec_bind (moved_oci hc.toSpeaks _) fun _ => ?_
  exact spec_bind (carried_sessionEnded hc) fun _ => moved_setConn hc.toSpeaks _ _

lemma carried_abandonSession : Spec P (abandonSession : Drv h .session Unit) fun _ => P :=
  spec_bind (moved_oci hc.toSpeaks _) fun _ => spec_bind (carried_sessionEnded hc) fun _ =>
    moved_setConn hc.toSpeaks _ _

lemma carried_setInLogon (b : Bool) : Spec P (setInLogon b : Drv h .session Unit) fun _ => P :=
  spec_bind (moved_touch hc.toSpeaks) fun _ _ hw => hc.setInLogon b hw

lemma carried_logon : Spec P (logon x : Drv h .session Bool) fun _ => P := by
  refine spec_bind (moved_setConn hc.toSpeaks _ _) fun _ => spec_bind (carried_setInLogon hc _)
    fun _ => spec_bind (moved_setupSession x hc.toTalks hc.sessionBegun) fun failed => ?_
  refine spec_bind (carried_setInLogon hc _) fun _ => ?_
  exact spec_bind (carried_session hc _ _ (by nofun) (by nofun) _) fun _ => carried_pure

lemma carried_replaced (stmt : Option ℕ) : Spec P (replaced stmt : Drv h .session Unit) fun _ => P :=
  spec_bind (Q := fun _ => P) (fun _ hw => hw) fun _ => carried_session hc _ _ (by nofun) (by nofun) _

lemma carried_lose : Spec P (setLost true : Drv h .session Unit) fun _ => P :=
  spec_bind (moved_touch hc.toSpeaks) fun _ _ hw => hc.lose hw

lemma carried_recover : Spec P (setLost false : Drv h .session Unit) fun _ => P :=
  spec_bind (moved_touch hc.toSpeaks) fun _ _ hw => hc.recover hw

lemma carried_receiveTimeout (who : String) (e : Answer) :
    Spec P (receiveTimeout x who e : Drv h .recover Unit) fun _ => P := by
  have clear : Spec P (do
      Drv.calm (clearStatements x none)
      Drv.calm (connectionLost x)
      Drv.up abandonSession
      if ← Drv.up (logon x) then
        abortConnection x
      else
        Drv.calm (connectionRecovered x) : Drv h .recover Unit) fun _ => P := by
    refine spec_bind (moved_lower hc.toMoved (clearStatements x none)) fun _ =>
      spec_bind (moved_lower hc.toMoved (connectionLost x)) fun _ => ?_
    refine spec_bind (spec_lift (carried_abandonSession hc)) fun _ =>
      carried_then (spec_lift (carried_logon x hc)) (hc.abort x) ?_
    exact moved_lower hc.toMoved (connectionRecovered x)
  have replace : Spec P (do
      if !(← conn).lost then
        Drv.up (replaced none)
      Drv.calm (clearStatements x none)
      Drv.calm (connectionLost x)
      Drv.up abandonSession
      if ← Drv.up (logon x) then
        abortConnection x
      else
        Drv.calm (connectionRecovered x) : Drv h .recover Unit) fun _ => P :=
    spec_bind (moved_conn hc.toSpeaks) fun c => spec_ite
      (fun _ => spec_bind (spec_lift (carried_replaced hc none)) fun _ => clear) fun _ => clear
  refine spec_bind (carried_session hc _ _ (by nofun) (by nofun) _) fun _ =>
    spec_bind (moved_doException x hc.toSpeaks _ _) fun _ => ?_
  refine spec_bind (moved_ask hc.toSpeaks _) fun t => spec_ite (fun _ => ?_) fun _ => replace
  exact spec_bind carried_account fun _ => spec_bind (moved_raise x hc.toSpeaks _) fun _ => replace

lemma carried_sessionLost (who : String) (canRetry : Bool) (stmt : Option ℕ) (e : Answer) :
    Spec P (sessionLost x who canRetry stmt e : Drv h .session Unit) fun _ => P := by
  have clear : Spec P (do
      Drv.calm (clearStatements x stmt)
      Drv.calm (connectionLost x) : Drv h .session Unit) fun _ => P :=
    spec_bind (moved_lower hc.toMoved (clearStatements x stmt)) fun _ =>
      moved_calm hc.toMoved (connectionLost x)
  have replace : Spec P (do
      if canRetry then
        replaced stmt
      Drv.calm (clearStatements x stmt)
      Drv.calm (connectionLost x) : Drv h .session Unit) fun _ => P :=
    spec_ite (fun _ => spec_bind (carried_replaced hc stmt) fun _ => clear) fun _ => clear
  refine spec_bind (carried_lose hc) fun _ => spec_bind (moved_ask hc.toSpeaks _) fun t => ?_
  refine spec_bind (carried_session hc _ _ (by nofun) (by nofun) _) fun _ =>
    spec_ite (fun _ => ?_) fun _ => replace
  exact spec_bind carried_account fun _ => spec_bind (moved_raise x hc.toSpeaks _) fun _ => replace

lemma carried_findLoss (who : String) (canRetry : Bool) (stmt : Option ℕ) :
    Spec P (findLoss x who canRetry stmt : Drv h .recover _) fun _ => P := by
  refine spec_bind (moved_oci hc.toSpeaks _) fun e => spec_bind (moved_conn hc.toSpeaks) fun c =>
    spec_ite (fun _ => ?_) fun _ => ?_
  · exact spec_bind (moved_doException x hc.toSpeaks _ _) fun _ => carried_pure
  refine spec_ite (fun _ => spec_bind (carried_receiveTimeout x hc _ _) fun _ => carried_pure)
    fun _ => ?_
  refine carried_then (moved_ping hc.toSpeaks e) ?_ ?_
  · exact spec_bind (moved_doException x hc.toSpeaks _ _) fun _ => carried_pure
  · exact spec_bind (spec_lift (carried_sessionLost x hc _ _ _ _)) fun _ => carried_pure

lemma carried_giveUp (who : String) (e : Answer) :
    Spec P (giveUp x who e : Drv h .recover Unit) fun _ => P :=
  spec_bind (moved_doException x hc.toSpeaks _ _) fun _ => hc.abort x

lemma carried_rebindStatements (stmt : Option ℕ) :
    Spec P (rebindStatements x stmt : Drv h .retry Bool) fun _ => P := by
  have rebind (s : ℕ) : Spec P (rebind x s : Drv h .retry Bool) fun _ => P := by
    refine spec_bind (spec_lift (carried_binding hc (rebindAbortedConnection x s))) fun failed => ?_
    exact spec_bind (Q := fun _ => P) (fun w hw => hc.retry (.rebound s _ w) hw) fun _ => carried_pure
  refine spec_bind (moved_conn hc.toSpeaks) fun c =>
    carried_then (spec_tryEach fun s _ => rebind s) carried_pure ?_
  cases stmt with
  | none => exact carried_pure
  | some s => exact spec_bind (moved_conn hc.toSpeaks) fun c =>
      spec_ite (fun _ => rebind s) fun _ => carried_pure

lemma carried_reconnect (who : String) (stmt : Option ℕ) (e : Answer) :
    Spec P (reconnect x who stmt e : Drv h .retry Bool) fun _ => P := by
  have again : Spec P (logonAgain : Drv h .session Bool) fun _ => P := by
    refine spec_bind (carried_logoff hc) fun _ =>
      spec_bind (Q := fun _ => P) (fun w hw => ?_) fun _ => carried_logon .own hc
    exact hc.calm (.freshSink w) hw
  refine carried_then (spec_lift again) ?_ (spec_bind (spec_lift (carried_recover hc)) fun _ =>
    carried_then (carried_pending x) ?_ ?_)
  · refine spec_bind (moved_doException x hc.toSpeaks _ _) fun _ =>
      spec_bind (Q := fun _ => P) (fun w hw => ?_) fun _ => ?_
    · exact hc.calm (.assimilate w) hw
    · exact spec_bind (spec_lift (hc.abort x)) fun _ => carried_pure
  · exact spec_bind (moved_lower hc.toMoved (connectionRecovered x)) fun _ => carried_pure
  · exact spec_bind (carried_rebindStatements x hc stmt) fun _ => carried_pure

lemma carried_handleError (who : String) (canRetry : Bool) (stmt : Option ℕ) :
    Spec P (handleError x who canRetry stmt : Drv h .retry Bool) fun _ => P := by
  refine spec_bind (spec_lift (carried_findLoss x hc who canRetry stmt)) fun r => ?_
  cases r with
  | none => exact carried_pure
  | some e =>
    refine spec_ite (fun _ => carried_reconnect x hc who stmt e) fun _ => ?_
    exact spec_bind (spec_lift (carried_giveUp x hc who e)) fun _ => carried_pure

lemma carried_rollback : Spec P (rollback x : Drv h .recover Bool) fun _ => P := by
  have rest : Spec P (do
      if ← checkCancel x then
        return true
      if ← applyThreadSessionInfo x then
        return true
      checked x .transRollback "QoreOracleConnection:rollback()" : Drv h .recover Bool) fun _ => P :=
    carried_then (moved_cancel x hc.toSpeaks) carried_pure
      (carried_then (moved_applyThreadSessionInfo x hc.toTalks) carried_pure
        (moved_checked x hc.toTalks _ _))
  refine spec_bind (moved_bulk hc.toSpeaks) fun b => spec_ite (fun _ => ?_) fun _ => rest
  exact carried_then (hc.endLoad x false) carried_pure rest

lemma carried_newStatement : Spec P (newStatement : Drv h .all ℕ) fun _ => P :=
  fun _ hw => hc.newStatement hw

lemma carried_columnValue {nested : Drv h .all Unit} (hn : Spec P nested fun _ => P) (c : Column) :
    Spec P (columnValue x nested c : Drv h .all Unit) fun _ => P := by
  refine spec_bind (moved_ask hc.toSpeaks _) fun a => spec_ite (fun _ => carried_pure) fun _ => ?_
  split
  · exact spec_bind (carried_then (moved_checked x hc.toTalks _ _) carried_pure
      (moved_checked x hc.toTalks _ _)) fun _ => carried_pure
  · exact spec_bind (moved_as hc.toMoved (getInterval x c.dtype) rfl) fun _ => carried_pure
  · exact spec_bind (moved_as hc.toMoved (getInterval x c.dtype) rfl) fun _ => carried_pure
  · exact spec_bind (carried_then (moved_cancel x hc.toSpeaks) carried_pure
      (moved_checked x hc.toTalks _ _)) fun _ => carried_pure
  · exact spec_bind (carried_then (moved_cancel x hc.toSpeaks) carried_pure
      (moved_checked x hc.toTalks _ _)) fun _ => carried_pure
  · exact hn
  · exact spec_bind (moved_as hc.toMoved (readObject x) rfl) fun _ => carried_pure
  · exact spec_bind (moved_as hc.toMoved (rowidToChar x) rfl) fun _ => carried_pure
  · exact carried_pure

lemma carried_fetchValues {nested : Drv h .all Unit} (hn : Spec P nested fun _ => P) (k : SetKind)
    (f : FetchForm) :
    Spec P (fetchValues x s k nested f : Drv h .all Bool) fun _ => P := by
  have value (e : Column × ℕ) : Spec P (do
      columnValue x nested e.1
      return ← pending x : Drv h .all Bool) fun _ => P :=
    spec_bind (carried_columnValue x hc hn _) fun _ => carried_pending x
  refine spec_bind (moved_stmt s hc.toMoved) fun S => spec_tryEach fun e _ =>
    spec_ite (fun _ => ?_) fun _ => value e
  exact carried_then (moved_turn x hc.toSpeaks _) carried_pure (value e)

lemma carried_fetchLoop {nested : Drv h .all Unit} (hn : Spec P nested fun _ => P) (k : SetKind)
    (f : FetchForm) (rows : ℤ)
    (n count : ℕ) : Spec P (fetchLoop x s k nested f rows n count : Drv h .all _) fun _ => P := by
  induction n generalizing count with
  | zero => exact spec_bind (moved_exhaust hc.toMoved) fun _ => carried_pure
  | succ n ih =>
    have rest : Spec P (do
        if ← fetchValues x s k nested f then
          return none
        if 0 < rows && (count : ℤ) + 1 == rows then
          return some (count + 1)
        fetchLoop x s k nested f rows n (count + 1) : Drv h .all (Option ℕ)) fun _ => P :=
      carried_then (carried_fetchValues x s hc hn k f) carried_pure
        (spec_ite (fun _ => carried_pure) fun _ => ih _)
    refine spec_bind (moved_next x s hc.toMoved) fun b => spec_ite (fun _ => ?_) fun _ =>
      spec_ite (fun _ => ?_) fun _ => rest
    · exact spec_bind (carried_pending x) fun _ => carried_pure
    · exact carried_then (moved_cancel x hc.toSpeaks) carried_pure rest

lemma carried_fetchSet {nested : Drv h .all Unit} (hn : Spec P nested fun _ => P) (k : SetKind)
    (f : FetchForm) (rows : ℤ) :
    Spec P (fetchSet x s k nested n f rows : Drv h .all Bool) fun _ => P := by
  refine spec_bind (moved_stmt s hc.toMoved) fun S => spec_ite (fun _ => ?_) fun _ =>
    spec_ite (fun _ => ?_) fun _ => ?_
  · exact spec_bind (moved_raise x hc.toSpeaks _) fun _ => carried_pure
  · exact spec_bind (moved_setStmt s hc.toMoved _ _) fun _ => carried_pure
  refine carried_then (moved_setPrefetch x s hc.toMoved _) carried_pure ?_
  refine carried_then (spec_lift (carried_binding hc (defineSet x s k _))) carried_pure ?_
  refine spec_bind (carried_fetchLoop x s hc hn _ _ _ _ _) fun r => ?_
  split
  · exact carried_pure
  · refine spec_bind (spec_bind (moved_setStmt s hc.toMoved _ _) fun _ =>
      spec_ite (fun _ => ?_) fun _ => carried_pure) fun _ => carried_pure
    exact moved_setStmt s hc.toMoved _ _

lemma carried_withHelper {body : Drv h .all Bool} (hb : Spec P body fun _ => P) :
    Spec P (withHelper x s n body : Drv h .all Bool) fun _ => P := by
  have del : Spec P (delHelper x s : Drv h .all Unit) fun _ => P := by
    have each (r : ResultSet) : Spec P (Act.each (delHelperColumn x) r.clist : Drv h .all Unit)
        fun _ => P := by
      refine spec_each fun c _ => spec_ite (fun _ => carried_pure) fun _ =>
        spec_ite (fun _ => ?_) fun _ => ?_
      · exact spec_bind (moved_checked x hc.toTalks _ _) fun _ => carried_pure
      refine spec_ite (fun _ => spec_bind (moved_oci hc.toSpeaks _) fun a => ?_) fun _ => carried_pure
      exact spec_ite (fun _ => moved_raise x hc.toSpeaks _) fun _ => carried_pure
    refine spec_bind (moved_stmt s hc.toMoved) fun S => ?_
    split
    · exact spec_bind (each _) fun _ => moved_setStmt s hc.toMoved _ _
    · exact moved_setStmt s hc.toMoved _ _
  refine spec_bind (spec_lift (carried_binding hc (newResultSet x s .helper n))) fun failed => ?_
  have ended (r : Bool) : Spec P (do
      delHelper x s
      return r : Drv h .all Bool) fun _ => P := spec_bind del fun _ => carried_pure
  exact spec_ite (fun _ => ended true) fun _ => spec_bind hb ended

lemma carried_nestedFetch (turns : ℕ) (f : FetchForm) (n : ℕ) :
    Spec P (nestedFetch x turns f n : Drv h .all Unit) fun _ => P := by
  induction n with
  | zero => exact moved_exhaust hc.toMoved
  | succ n ih =>
    refine spec_bind (carried_newStatement hc) fun s =>
      spec_bind (moved_setStmt s hc.toMoved _ _) fun _ => ?_
    refine spec_bind (carried_withHelper x s _ hc (carried_fetchSet x s _ hc ih _ _ _)) fun _ => ?_
    exact moved_setStmt s hc.toMoved _ _

lemma carried_fetchAll (f : FetchForm) : Spec P (fetchAll x s n f : Drv h .all Bool) fun _ => P :=
  carried_withHelper x s n hc (carried_fetchSet x s n hc (carried_nestedFetch x hc _ _ _) _ _ _)

lemma carried_fetchRowFrom (k : SetKind) : Spec P (fetchRowFrom x s k n : Drv h .all Bool)
    fun _ => P := by
  refine spec_bind (moved_stmt s hc.toMoved) fun S => spec_ite (fun _ => ?_) fun _ => ?_
  · exact spec_bind (moved_raise x hc.toSpeaks _) fun _ => carried_pure
  · exact carried_fetchValues x s hc (carried_nestedFetch x hc _ _ _) _ _

lemma carried_fetchSingleRow : Spec P (fetchSingleRow x s n : Drv h .all Bool) fun _ => P := by
  refine carried_withHelper x s n hc (carried_then (moved_setPrefetch x s hc.toMoved _) carried_pure ?_)
  refine carried_then (spec_lift (carried_binding hc (defineSet x s .helper _))) carried_pure ?_
  refine spec_bind (moved_next x s hc.toMoved) fun b => spec_ite (fun _ => carried_pure) fun _ => ?_
  refine carried_then (carried_fetchRowFrom x s n hc _) carried_pure
    (carried_then (moved_next x s hc.toMoved) ?_ carried_pure)
  exact spec_bind (moved_raise x hc.toSpeaks _) fun _ => carried_pure

lemma carried_stmtExecute (iters : ℕ) : Spec P (stmtExecute s iters : Drv h .all Answer) fun _ => P :=
  spec_bind (moved_touch hc.toSpeaks) fun _ _ hw => hc.stmtExecute s iters hw

lemma carried_execute (who : String) : Spec P (execute x s who : Drv h .all Bool) fun _ => P := by
  refine carried_then (moved_cancel x hc.toSpeaks) carried_pure
    (spec_bind (moved_stmt s hc.toMoved) fun S => ?_)
  refine carried_then (moved_lower hc.toMoved (applyThreadSessionInfo x)) carried_pure ?_
  refine spec_bind (carried_stmtExecute s hc _) fun a => spec_ite (fun _ => ?_) fun _ =>
    moved_check x hc.toTalks _ _
  refine carried_then (spec_lift (carried_handleError x hc who true (some s))) ?_ carried_pure
  refine carried_then (moved_cancel x hc.toSpeaks) carried_pure ?_
  refine carried_then (moved_lower hc.toMoved (applyThreadSessionInfo x)) carried_pure ?_
  exact spec_bind (carried_stmtExecute s hc _) fun a => moved_check x hc.toTalks _ _

lemma carried_addStatement : Spec P (addStatement s : Drv h .all Unit) fun _ => P :=
  fun _ hw => hc.addStatement s hw

lemma carried_getOutputHash (rows : Bool) : Spec P (getOutputHash x s n rows : Drv h .all Bool)
    fun _ => P := by
  have value (i : ℕ) : Spec P (Drv.valueNode x s i : Drv h .all Bool) fun _ => P :=
    fun w hw => hc.calm (.valueNode x s i w) hw
  refine spec_bind (moved_stmt s hc.toMoved) fun S => spec_bind (spec_each fun i _ => ?_) fun _ =>
    carried_pending x
  refine spec_bind (moved_stmt s hc.toMoved) fun S => ?_
  split
  · exact carried_pure
  · refine spec_ite (fun _ => carried_pure) fun _ =>
      carried_then (value i) (spec_ite (fun _ => ?_) fun _ => ?_) carried_pure
    · refine spec_bind (carried_newStatement hc) fun t =>
        spec_bind (moved_setStmt t hc.toMoved _ _) fun _ => ?_
      exact carried_addStatement t hc
    · exact carried_nestedFetch x hc _ _ _

lemma carried_commitIfAuto : Spec P (commitIfAuto x : Drv h .all Bool) fun _ => P := by
  refine spec_bind carried_setting fun c => spec_ite (fun _ => ?_) fun _ => carried_pending x
  exact spec_bind (moved_lower hc.toMoved (commit x)) fun _ => carried_pending x

lemma carried_selectRow : Spec P (selectRow x s n : Drv h .all Bool) fun _ => P := by
  refine spec_bind (moved_stmt s hc.toMoved) fun S => spec_ite (fun _ => ?_) fun _ => ?_
  · exact spec_bind (moved_raise x hc.toSpeaks _) fun _ => carried_pure
  · exact carried_then (carried_execute x s hc _) carried_pure (carried_fetchSingleRow x s n hc)

lemma carried_execWithPrologue (rows : Bool) :
    Spec P (execWithPrologue x s n rows : Drv h .all Bool) fun _ => P := by
  refine carried_then (carried_execute x s hc _) carried_pure
    (spec_bind (moved_stmt s hc.toMoved) fun S => ?_)
  refine spec_ite (fun _ => ?_) fun _ => ?_
  · exact carried_then (carried_fetchAll x s n hc _) carried_pure (carried_commitIfAuto x hc)
  · refine spec_bind (spec_bind (moved_stmt s hc.toMoved) fun S => spec_ite (fun _ => ?_) fun _ =>
      moved_affectedRows x hc.toMoved)
      fun _ => carried_commitIfAuto x hc
    exact spec_bind (carried_getOutputHash x s n hc rows) fun _ => carried_pure

lemma carried_execWithPrologueColumnar : Spec P (execWithPrologueColumnar x s n : Drv h .all Bool)
    fun _ => P := by
  refine spec_bind (moved_stmt s hc.toMoved) fun S => spec_ite (fun _ => ?_) fun _ => ?_
  · exact spec_bind (moved_raise x hc.toSpeaks _) fun _ => carried_pure
  refine carried_then (carried_execute x s hc _) carried_pure ?_
  exact carried_then (carried_fetchAll x s n hc _) carried_pure (carried_commitIfAuto x hc)

lemma carried_withStatement (sql : QoreString) (args : Option (List QoreValue)) (parse : Bool)
    {body : ℕ → Drv h .all Bool}
    (hb : ∀ s, Spec P (body s) fun _ => P) :
    Spec P (withStatement x sql args parse body : Drv h .all Unit) fun _ => P := by
  refine spec_bind (carried_newStatement hc) fun s => ?_
  refine spec_bind (spec_lift (carried_binding hc (prepare x s sql args parse))) fun b =>
    spec_ite (fun _ => ?_) fun _ => ?_
  · exact spec_bind (hb s) fun _ => moved_stmtReset x s hc.toMoved
  · exact moved_stmtReset x s hc.toMoved

lemma carried_define : Spec P (define x n s : Drv h .all Bool) fun _ => P := by
  have register : Spec P (registerStatement s : Drv h .all Unit) fun _ => P :=
    spec_bind (moved_touch hc.toSpeaks) fun _ _ hw => hc.register s hw
  have rest : Spec P (do
      Drv.setStmt s (fun S => { S with defined := true }) fun _ => .same rfl rfl
      registerStatement s
      let _ ← Drv.up (defineSet x s .columns "QorePreparedStatement::define()")
      return ← pending x : Drv h .all Bool) fun _ => P := by
    refine spec_bind (moved_setStmt s hc.toMoved _ _) fun _ => spec_bind register fun _ => ?_
    exact spec_bind (spec_lift (carried_binding hc (defineSet x s .columns _))) fun _ =>
      carried_pending x
  refine spec_bind (moved_stmt s hc.toMoved) fun S => spec_ite (fun _ => ?_) fun _ =>
    spec_ite (fun _ => ?_) fun _ => rest
  · exact spec_bind (moved_raise x hc.toSpeaks _) fun _ => carried_pure
  · exact carried_then (spec_lift (carried_binding hc (newResultSet x s .columns n))) carried_pure rest

lemma carried_bulkLoadBegin (hb : ∀ b, Spec P (do
      BulkStream.begun b.stream
      Drv.move .drive Level.has_drive (·.beginLoad b) (.beginLoad b) : Drv h .all Unit) fun _ =>
        P) (table : Text) (columns : List QoreValue) (o : Option (List (Text × QoreValue))) :
    Spec P (bulkLoadBegin x table columns o : Drv h .all Begun) fun _ => P := by
  refine spec_bind (spec_lift (moved_bulk hc.toSpeaks)) fun b => spec_ite (fun _ => ?_) fun _ => ?_
  · exact spec_bind (moved_raise x hc.toSpeaks _) fun _ => carried_pure
  split
  · exact spec_bind (moved_raise x hc.toSpeaks _) fun _ => carried_pure
  · refine spec_bind
      (spec_lift (moved_calm hc.toMoved (BulkLoadState.initializeLoad x table columns _)))
        fun r => ?_
    split
    · exact carried_pure
    · refine spec_bind (moved_touch hc.toSpeaks) fun _ w hw => ?_
      exact hb _ w hw

end Walk

-- what a call does keeps all that the moves, the end of a load and giving the session up keep
lemma carried_call {h : Handler} {Q R : World → Prop} (x : Sink) (n : ℕ)
    (guards : ∀ body : Drv h .all Unit, (∀ P, Carried h P → Spec P body fun _ => P) →
      Spec Q (guarded x body) fun _ => R)
    (bare : ∀ body : Drv h .all Unit, (∀ P, Carried h P → Spec P body fun _ => P) →
      Spec Q body fun _ => R)
    (begins : ∀ table columns o,
      Spec Q (oracleBulkLoadBegin x table columns o : Drv h .all Unit) fun _ => R)
    (fills : ∀ rows, Spec Q (oracleBulkLoadRows x rows : Drv h .all Unit) fun _ => R) (e : Entry) :
    Spec Q (e.call x n : Drv h .all Unit) fun _ => R := by
  have drop {P : World → Prop} {β : Type} {l : Level} {hl : l.kinds ⊆ Level.all.kinds} {body : Drv h l β}
      (hb : Spec P body fun _ => P) : Spec P (do let _ ← Drv.up body hl : Drv h .all Unit) fun _ => P :=
    spec_bind (spec_lift hb) fun _ => carried_pure
  have dropAll {P : World → Prop} {β : Type} {body : Drv h .all β} (hb : Spec P body fun _ => P) :
      Spec P (do let _ ← body : Drv h .all Unit) fun _ => P := spec_bind hb fun _ => carried_pure
  cases e with
  | commit => exact guards _ fun P hc => drop (moved_commit x hc.toTalks)
  | rollback => exact guards _ fun P hc => drop (carried_rollback x hc)
  | exec | select | execRaw | execRows =>
    exact guards _ fun P hc => carried_withStatement x hc _ _ _ fun s =>
      carried_execWithPrologue x s n hc _
  | selectTyped | execRowsTyped =>
    exact guards _ fun P hc => carried_withStatement x hc _ _ _ fun s =>
      carried_execWithPrologue x s n hc _
  | selectColumnar => exact guards _ fun P hc => carried_withStatement x hc _ _ _ fun s =>
      carried_execWithPrologueColumnar x s n hc
  | selectRow => exact guards _ fun P hc => carried_withStatement x hc _ _ _ fun s =>
      carried_selectRow x s n hc
  | bulkLoadBegin => exact begins _ _ _
  | bulkLoadRows => exact fills _
  | bulkLoadEnd => exact bare _ fun P hc => drop (hc.endLoad x _)
  | getServerVersion => exact bare _ fun P hc => drop (moved_checked x hc.toTalks _ _)
  | optSet opt v => exact bare _ fun P hc => drop (moved_calm hc.toMoved (setOption x opt v))
  | stmtPrepare | stmtPrepareRaw =>
    refine guards _ fun P hc => spec_bind (carried_newStatement hc) fun s => ?_
    exact spec_bind (carried_addStatement s hc) fun _ => drop (carried_binding hc (prepare x s _ _ _))
  | stmtBind s args => exact guards _ fun P hc => drop (carried_binding hc (stmtBind x s (some args)))
  | stmtBindPlaceholders s args =>
    exact guards _ fun P hc => drop (carried_binding hc (bindPlaceholders x s (some args)))
  | stmtBindValues s args =>
    exact guards _ fun P hc => drop (carried_binding hc (bindValues x s (some args)))
  | stmtExec s => exact guards _ fun P hc => dropAll (carried_execute x s hc _)
  | stmtExecDescribe s => exact guards _ fun P hc => dropAll (carried_execute x s hc _)
  | stmtDefine s => exact guards _ fun P hc => dropAll (carried_define x s n hc)
  | stmtAffectedRows => exact guards _ fun P hc => moved_affectedRows x hc.toMoved
  | stmtGetOutput s | stmtGetOutputRows s =>
    exact guards _ fun P hc => dropAll (carried_getOutputHash x s n hc _)
  | stmtFetchRow s => exact guards _ fun P hc => dropAll (carried_fetchRowFrom x s n hc _)
  | stmtFetchRows s | stmtFetchColumns s | stmtFetchColumnar s =>
    exact guards _ fun P hc => dropAll (carried_fetchSet x s n hc (carried_nestedFetch x hc _ _ _) _ _ _)
  | stmtDescribe => exact guards _ fun P hc => moved_touch hc.toSpeaks
  | stmtNext s => exact guards _ fun P hc => dropAll (moved_next x s hc.toMoved)
  | stmtFree s => exact bare _ fun P hc => moved_lower hc.toMoved (stmtClear x s)
  | stmtClose s =>
    refine bare _ fun P hc => spec_bind (moved_lower hc.toMoved (stmtReset x s)) fun _ w hw => ?_
    exact hc.calm (.forget _ w List.erase_subset) hw

end OracleDriver
