import OracleDriver.Frames

/-! A statement is executed a second time only on a session that has been made again, and a lost
session is never reported as success. -/

namespace OracleDriver

open Trace Act

-- what the functions that only read, ask and set leave as it is
structure Steady (P : World → Prop) : Prop where
  touch : ∀ w, P w → P w.touch
  ask : ∀ c w, P w → P (w.ask c).2
  stmt : ∀ s f w, P w → P (w.setStmt s f)
  conn : ∀ f w, P w → P (w.setConn f)

def Clean (w : World) : Prop := ¬Pending w

lemma steady_clean : Steady Clean where
  touch w hw := by rwa [Clean, Pending, World.pending, World.touch_xsink]
  ask _ _ hw := hw
  stmt _ _ _ hw := hw
  conn _ _ hw := hw

-- no loss, no new session, since `w`
def Calmly (w t : World) : Prop := Adds World.log (fun e => e.kind ≠ .session) w t

lemma steady_calmly (w : World) : Steady (Calmly w) where
  touch t hw := hw.trans (adds_same t.touch_log)
  ask _ _ hw := hw.trans (adds_one rfl nofun)
  stmt _ _ _ hw := hw.trans (adds_same rfl)
  conn _ _ hw := hw.trans (adds_same rfl)

variable {h : Handler} {l : Level} {α : Type} {P : World → Prop} (s : ℕ) (who : String)

section Steady

variable (hP : Steady P)
include hP

lemma spec_touch : Spec P (touch : Drv h l Unit) fun _ => P := hP.touch

lemma spec_ask (c : Call) : Spec P (ask c : Drv h l Answer) fun _ => P := hP.ask c

lemma spec_oci (c : Call) : Spec P (oci c : Drv h l Answer) fun _ => P :=
  spec_bind (spec_touch hP) fun _ => spec_ask hP c

lemma spec_conn : Spec P (conn : Drv h l Conn) fun _ => P :=
  spec_bind (spec_touch hP) fun _ => spec_get fun _ => spec_pure fun _ hw => hw.1 ▸ hw.2

omit hP in
lemma spec_setting : Spec P (setting : Drv h l Setting) fun _ => P :=
  spec_get fun _ => spec_pure fun _ hw => hw.1 ▸ hw.2

lemma spec_stmt : Spec P (Drv.stmt s : Drv h l Stmt) fun _ => P :=
  spec_bind (spec_touch hP) fun _ => spec_get fun _ => spec_pure fun _ hw => hw.1 ▸ hw.2

lemma spec_setConn (f : Conn → Conn) (hf : ∀ c, Conn.Calm c (f c)) :
    Spec P (Drv.setConn f hf : Drv h l Unit) fun _ => P := spec_bind (spec_touch hP) fun _ => hP.conn f

lemma spec_setStmt (f : Stmt → Stmt) (hf : ∀ S, Stmt.Calm S (f S)) :
    Spec P (Drv.setStmt s f hf : Drv h l Unit) fun _ => P :=
  spec_bind (spec_touch hP) fun _ => hP.stmt s f

omit hP in
lemma keeps_raise (e : Exn) : Keeps Pending P (do raise .main e; return true : Drv h l Bool) :=
  keeps_fail (spec_raise e P)

lemma keeps_checkCancel : Keeps Pending P (checkCancel .main : Drv h l Bool) :=
  keeps_seq (spec_ask hP _) fun _ => keeps_ite (fun _ => keeps_raise _) fun _ => keeps_pure

variable (hp : ∀ who w, Pending (h .main who w))
include hp

omit hP in
lemma keeps_check (a : Answer) : Keeps Pending P (check .main a who : Drv h l Bool) := by
  intro w hw
  refine ⟨fun ht => pending_checkerr who w hp a ht, fun hf => ?_⟩
  show P (w.checkerr h .main a who).2
  rwa [checkerr_false .main who w a hf]

lemma keeps_checked (c : Call) : Keeps Pending P (checked .main c who : Drv h l Bool) :=
  keeps_seq (spec_oci hP c) fun _ => keeps_check who hp _

lemma keeps_setFittingAttr (c : Setting) (value : Text) (n : ℕ) :
    Keeps Pending P (setFittingAttr .main c value n : Drv h l Bool) := by
  induction n with
  | zero => exact keeps_checked _ hP hp _
  | succ n ih =>
    unfold setFittingAttr
    cases c.lib.convert c.utf8 c.encoding (value.take (n + 1)) with
    | none => exact keeps_raise _
    | some t => exact keeps_ite (fun _ => keeps_checked _ hP hp _) fun _ => ih

lemma keeps_setSessionAttr (value : Text) :
    Keeps Pending P (setSessionAttr .main value : Drv h l Bool) :=
  keeps_seq spec_setting fun _ =>
    keeps_ite (fun _ => keeps_checked _ hP hp _) fun _ => keeps_setFittingAttr hP hp _ _ _

variable (hh : ∀ x who w, Extends Level.recover.logs w (h x who w))
include hh

lemma keeps_applyAttr (info : ℕ → Text) (i : ℕ) :
    Keeps Pending P (applyAttr .main info i : Drv h l Bool) := by
  unfold applyAttr
  refine keeps_seq (spec_conn hP) fun c => keeps_ite (fun _ => keeps_pure) fun _ => ?_
  refine spec_bind (keeps_setSessionAttr hP hp (info i)) fun b => spec_ite (fun hb => ?_) fun hb => ?_
  · refine spec_bind (Q := fun _ => Pending) (fun w hw => spec_pending hh _ w (hw.1 hb)) fun _ => ?_
    exact spec_pure fun w hw => ⟨fun _ => hw, nofun⟩
  · refine spec_weaken (keeps_seq (spec_setConn hP _ _) fun _ => keeps_pure) ?_ fun _ _ h => h
    exact fun w hw => hw.2 (eq_false_of_ne_true hb)

lemma keeps_applyThreadSessionInfo : Keeps Pending P (applyThreadSessionInfo .main : Drv h l Bool) := by
  refine keeps_seq spec_setting fun c => keeps_then ?_ ?_
  · exact keeps_tryEach fun i _ => keeps_applyAttr hP hp hh _ i
  · exact keeps_seq (spec_setConn hP _ _) fun _ => keeps_pure

lemma keeps_commit : Keeps Pending P (commit .main : Drv h l Bool) :=
  keeps_then (keeps_checkCancel hP)
    (keeps_then (keeps_applyThreadSessionInfo hP hp hh) (keeps_checked _ hP hp _))

end Steady

-- the rebind of one statement

lemma keeps_scanArray (hP : Steady P) (i : ℕ) :
    Keeps Pending P (scanArray .main s i : Drv h l Bool) := by
  unfold scanArray
  refine keeps_seq (spec_stmt s hP) fun S => ?_
  cases S.nodeList[i]? with
  | none => exact keeps_pure
  | some n =>
    refine keeps_ite (fun _ => keeps_pure) fun _ => ?_
    cases n.value with
    | list v =>
      refine keeps_ite (fun _ => keeps_raise _) fun _ => keeps_seq (spec_stmt s hP) fun S => ?_
      refine keeps_ite (fun _ => keeps_ite (fun _ => keeps_raise _) fun _ => keeps_pure) fun _ => ?_
      exact keeps_seq (spec_setStmt s hP _ _) fun _ => keeps_pure
    | _ => exact keeps_pure

lemma keeps_pending (m : Drv h l α) :
    Keeps Pending Clean (do let _ ← m; return ← pending .main : Drv h l Bool) := by
  intro w _
  refine ⟨id, fun hf ht => ?_⟩
  exact Bool.false_ne_true (hf.symm.trans ht)

lemma keeps_bindOracle : Keeps Pending Clean (bindOracle .main s : Drv h .binding Bool) := by
  unfold bindOracle
  refine keeps_seq (spec_setStmt s steady_clean _ _) fun _ =>
    keeps_seq (spec_stmt s steady_clean) fun S => ?_
  apply keeps_then
  · exact keeps_tryEach fun i _ => keeps_scanArray s steady_clean i
  · exact keeps_tryEach fun i _ => keeps_pending _

section Handled

variable (hp : ∀ who w, Pending (h .main who w))
include hp

lemma keeps_allocate (hP : Steady P) : Keeps Pending P (allocate .main s : Drv h l Bool) := by
  apply keeps_then
  · exact keeps_checked _ hP hp _
  · exact keeps_seq (spec_setStmt s hP _ _) fun _ => keeps_pure

lemma keeps_prepareHandle (hP : Steady P) : Keeps Pending P (prepareHandle .main s : Drv h l Bool) := by
  unfold prepareHandle
  apply keeps_then (keeps_checked _ hP hp _)
  refine keeps_seq (spec_oci hP _) fun a => keeps_then (keeps_check _ hp a) ?_
  refine keeps_ite (fun _ => ?_) fun _ => keeps_pure
  exact keeps_seq (spec_setStmt s hP _ _) fun _ => keeps_pure

lemma keeps_prepare (sql : QoreString) :
    Keeps Pending Clean (prepare .main s sql none false : Drv h .binding Bool) := by
  unfold prepare
  refine keeps_seq spec_setting fun c => ?_
  cases convertEncoding c sql with
  | none => exact keeps_raise _
  | some t =>
    refine keeps_seq (spec_setStmt s steady_clean _ _) fun _ => ?_
    apply keeps_then (keeps_allocate s hp steady_clean)
    apply keeps_then (keeps_prepareHandle s hp steady_clean)
    refine keeps_seq (spec_stmt s steady_clean) fun S => keeps_ite (fun _ => ?_) fun _ => keeps_pure
    exact keeps_bindOracle s

lemma keeps_rebindAbortedConnection :
    Keeps Pending Clean (rebindAbortedConnection .main s : Drv h .binding Bool) :=
  keeps_seq spec_setting fun _ => keeps_seq (spec_stmt s steady_clean) fun _ =>
    keeps_seq (spec_setStmt s steady_clean _ _) fun _ => keeps_prepare s hp _

end Handled

-- no exception is pending, and since `w` every rebind was a success, those of `L` among them
structure Rebound (w : World) (L : List ℕ) (t : World) : Prop where
  frame : Frame w t
  clean : Clean t
  log : ∃ l, t.log = l ++ w.log ∧ (∀ u b, .rebound u b ∈ l → b = true) ∧ ∀ u ∈ L, .rebound u true ∈ l

namespace Rebound

variable {w t : World} {L L' : List ℕ}

lemma start (hw : Clean w) : Rebound w [] w where
  frame := .refl w
  clean := hw
  log := ⟨[], rfl, fun _ _ hu => absurd hu List.not_mem_nil, fun _ hu => absurd hu List.not_mem_nil⟩

lemma mono (ht : Rebound w L t) (hL : L' ⊆ L) : Rebound w L' t where
  frame := ht.frame
  clean := ht.clean
  log := by
    obtain ⟨l, hl, hb, hu⟩ := ht.log
    exact ⟨l, hl, hb, fun u hm => hu u (hL hm)⟩

lemma extend {u : World} (ht : Rebound w L t) (hf : Frame t u) (hu : Clean u)
    (hl : Adds World.log (fun e => e.kind ≠ .retry) t u) : Rebound w L u where
  frame := ht.frame.trans hf
  clean := hu
  log := by
    obtain ⟨l, hl', hb, hr⟩ := ht.log
    obtain ⟨m, hm, hk⟩ := hl
    refine ⟨m ++ l, by rw [hm, hl', List.append_assoc], ?_,
      fun v hv => List.mem_append_right _ (hr v hv)⟩
    intro v b hv
    rcases List.mem_append.1 hv with hv | hv
    · exact absurd rfl (hk _ hv)
    · exact hb v b hv

lemma add (ht : Rebound w L t) (s : ℕ) : Rebound w (s :: L) (t.emit (.rebound s true)) where
  frame := ht.frame.trans (t.frame_emit _)
  clean := ht.clean
  log := by
    obtain ⟨l, hl, hb, hr⟩ := ht.log
    refine ⟨.rebound s true :: l, congrArg (List.cons _) hl, ?_, ?_⟩
    · intro u b hu
      rcases List.mem_cons.1 hu with hu | hu
      · exact (Event.rebound.inj hu).2
      · exact hb u b hu
    · intro u hu
      rcases List.mem_cons.1 hu with rfl | hu
      · exact List.mem_cons_self
      · exact List.mem_cons_of_mem _ (hr u hu)

end Rebound

section Handled

variable (hp : ∀ who w, Pending (h .main who w))
  (hh : ∀ x who w, Extends Level.recover.logs w (h x who w))
  (hf : ∀ x who w, Frame w (h x who w))
include hp hh hf

lemma spec_rebind (w : World) (L : List ℕ) :
    Spec (Rebound w L) (rebind .main s : Drv h .retry Bool) fun b t =>
      (b = true → Pending t) ∧ (b = false → Rebound w (s :: L) t) := by
  unfold rebind
  refine spec_bind (Q := fun b t => (b = true → Pending t) ∧ (b = false → Rebound w L t)) ?_ ?_
  · intro t ht
    let m : Drv h .binding Bool := rebindAbortedConnection .main s
    refine (keeps_rebindAbortedConnection s hp t ht.clean).imp_right fun hu hb => ?_
    refine ht.extend (Drv.frame (by decide) hf m t) (hu hb) ((Drv.adds hh m t).adds.mono ?_)
    rintro e he hk
    rw [Level.logs, hk] at he
    exact absurd he (by decide)
  · rintro b t ht
    cases b with
    | true => exact ⟨ht.1, nofun⟩
    | false => exact ⟨nofun, fun _ => (ht.2 rfl).add s⟩

lemma spec_rebindAll (w : World) (l L : List ℕ) :
    Spec (Rebound w L) (tryEach (rebind .main) l : Drv h .retry Bool) fun b t =>
      (b = true → Pending t) ∧ (b = false → Rebound w (l ++ L) t) := by
  induction l generalizing L with
  | nil => exact spec_pure fun t ht => ⟨nofun, fun _ => ht⟩
  | cons s l ih =>
    refine spec_bind (spec_rebind s hp hh hf w L) fun b => ?_
    refine spec_ite (fun hb => spec_pure fun _ ht => ⟨fun _ => ht.1 hb, nofun⟩) fun hb => ?_
    refine spec_weaken (ih (s :: L)) (fun t ht => ht.2 (eq_false_of_ne_true hb)) ?_
    refine fun c t ht => ht.imp_right fun hu hc => (hu hc).mono ?_
    intro u hu
    simp only [List.cons_append, List.mem_cons, List.mem_append] at hu ⊢
    tauto

lemma spec_rebindStatements (w : World) :
    Spec (fun t => t = w ∧ Clean w) (rebindStatements .main (some s) : Drv h .retry Bool) fun b t =>
      (b = true → Pending t) ∧ (b = false → Rebound w [s] t) := by
  unfold rebindStatements
  refine spec_bind (Q := fun c t => c.stmtSet = w.conn.stmtSet ∧ Rebound w [] t) ?_ fun c => ?_
  · rintro t ⟨rfl, ht⟩
    refine ⟨congrArg Conn.stmtSet t.touch_conn,
      (Rebound.start ht).extend t.frame_touch ?_ (adds_same t.touch_log)⟩
    exact steady_clean.touch t ht
  refine spec_bind (Q := fun b t => (b = true → Pending t) ∧
    (b = false → Rebound w w.conn.stmtSet t)) ?_ fun b => ?_
  · rintro t ⟨hc, ht⟩
    rw [hc]
    refine (spec_rebindAll hp hh hf w _ [] t ht).imp_right fun hu hb => (hu hb).mono ?_
    exact List.subset_append_left _ _
  refine spec_ite (fun hb => spec_pure fun _ ht => ⟨fun _ => ht.1 hb, nofun⟩) fun hb => ?_
  refine spec_bind (Q := fun c t => c.stmtSet ⊆ w.conn.stmtSet ∧
    Rebound w w.conn.stmtSet t) ?_ fun c => ?_
  · intro t ht
    have hu := ht.2 (eq_false_of_ne_true hb)
    refine ⟨?_, hu.extend t.frame_touch (steady_clean.touch t hu.clean) (adds_same t.touch_log)⟩
    show t.touch.conn.stmtSet ⊆ _
    rw [t.touch_conn]
    exact hu.frame.stmtSet
  refine spec_ite (fun _ t ht => ?_) fun hs => spec_pure fun t ht => ⟨nofun, fun _ => ?_⟩
  · refine (spec_rebind s hp hh hf w _ t ht.2).imp_right fun hu hb => (hu hb).mono ?_
    exact List.cons_subset.2 ⟨List.mem_cons_self, List.nil_subset _⟩
  · exact ht.2.mono (List.cons_subset.2 ⟨ht.1 (not_not.1 hs), List.nil_subset _⟩)

end Handled

-- the log since `w`
def Logged (w : World) (Q : List Event → Prop) (t : World) : Prop := ∃ l, t.log = l ++ w.log ∧ Q l

lemma Logged.extend {w t u : World} {Q : List Event → Prop} {K : Event → Prop}
    (hq : ∀ m l, Q l → Q (m ++ l))
    (ht : Logged w Q t) (hu : Adds World.log K t u) : Logged w Q u := by
  obtain ⟨l, hl, h⟩ := ht
  obtain ⟨m, hm, -⟩ := hu
  exact ⟨m ++ l, by rw [hm, hl, List.append_assoc], hq m l h⟩

-- handleError() read the error `e` and took the session for lost
structure LossFound (e : Answer) (l : List Event) : Prop where
  read : .called .errorGet e ∈ l
  code : e.code ≠ recvTimeoutCode
  session : lostCode e.code = true ∨ ∃ a, .called .ping a ∈ l ∧ a.flag = false
  lost : ∃ p, .lost e.code p false ∈ l

lemma LossFound.append {e : Answer} (m l : List Event) (h : LossFound e l) : LossFound e (m ++ l) where
  read := List.mem_append_right _ h.read
  code := h.code
  session := h.session.imp_right fun ⟨a, ha, hf⟩ => ⟨a, List.mem_append_right _ ha, hf⟩
  lost := h.lost.imp fun _ hp => List.mem_append_right _ hp

def LossRead (e : Answer) (l : List Event) : Prop :=
  .called .errorGet e ∈ l ∧ (lostCode e.code = true ∨ ∃ a, .called .ping a ∈ l ∧ a.flag = false)

lemma LossRead.append {e : Answer} (m l : List Event) (hl : LossRead e l) : LossRead e (m ++ l) :=
  ⟨List.mem_append_right _ hl.1, hl.2.imp_right fun ⟨a, ha, hf⟩ => ⟨a, List.mem_append_right _ ha, hf⟩⟩

section Handled

variable (hh : ∀ x who w, Extends Level.recover.logs w (h x who w))
include hh

lemma spec_logged (w : World) {Q : List Event → Prop} (hq : ∀ m l, Q l → Q (m ++ l)) (m : Drv h l α) :
    Spec (Logged w Q) m fun _ => Logged w Q := fun t ht => ht.extend hq (Drv.adds hh m t).adds

lemma spec_ping (w : World) (e : Answer) :
    Spec (Logged w fun l => .called .errorGet e ∈ l) (ping e : Drv h l Bool) fun b t => b = true ∨
      Logged w (LossRead e) t := by
  unfold ping
  refine spec_ite (fun hc => spec_pure fun t ht => .inr ?_) fun _ => ?_
  · obtain ⟨l, hl, he⟩ := ht
    exact ⟨l, hl, he, .inl hc⟩
  refine spec_bind (spec_logged hh w (fun _ _ => List.mem_append_right _) _) fun c => ?_
  refine spec_ite (fun _ => spec_pure fun _ _ => .inl rfl) fun _ t ht => ?_
  obtain ⟨l, hl, he⟩ := ht
  show (t.touch.oracle t.touch.tick).flag = true ∨ _
  cases hf : (t.touch.oracle t.touch.tick).flag with
  | true => exact .inl rfl
  | false =>
    refine .inr ⟨.called .ping (t.touch.oracle t.touch.tick) :: l, ?_, List.mem_cons_of_mem _ he,
      .inr ⟨_, List.mem_cons_self, hf⟩⟩
    show _ :: t.touch.log = _
    rw [t.touch_log, hl]
    rfl

lemma spec_sessionLost (w : World) (c : Bool) (stmt : Option ℕ) (e : Answer)
    (hc : e.code ≠ recvTimeoutCode) :
    Spec (Logged w (LossRead e)) (sessionLost .main who c stmt e : Drv h .session Unit) fun _ t =>
      Pending t ∨ Logged w (LossFound e) t := by
  unfold sessionLost
  refine spec_bind (spec_logged hh w LossRead.append _) fun _ => ?_
  refine spec_bind (spec_logged hh w LossRead.append _) fun t => ?_
  refine spec_bind (Q := fun _ u => Logged w (fun l => LossRead e l ∧ ∃ p,
    .lost e.code p t.flag ∈ l) u) ?_ fun _ => ?_
  · rintro u ⟨l, hl, hr⟩
    exact ⟨_ :: l, congrArg (List.cons _) hl, LossRead.append [_] l hr, _, List.mem_cons_self⟩
  have keep : ∀ m : Drv h .session Unit, Spec (fun u => Pending u ∨ Logged w (LossFound e) u) m
      fun _ u => Pending u ∨ Logged w (LossFound e) u := fun m u hu =>
    hu.imp (spec_pending hh m u) (spec_logged hh w LossFound.append m u)
  refine spec_ite (fun _ => ?_) fun ht => spec_weaken (keep _) ?_ fun _ _ h => h
  · refine spec_bind (spec_any _ _) fun _ => spec_bind (spec_raise _ _) fun _ => ?_
    exact spec_weaken (keep _) (fun _ => .inl) fun _ _ h => h
  · rintro u ⟨l, hl, hr, p, hp⟩
    exact .inr ⟨l, hl, hr.1, hc, hr.2, p, by rwa [eq_false_of_ne_true ht] at hp⟩

lemma spec_findLoss_some (w : World) (c : Bool) (stmt : Option ℕ) :
    Spec (· = w) (findLoss .main who c stmt : Drv h .recover (Option Answer)) fun r t =>
      ∀ e, r = some e → Pending t ∨ Logged w (LossFound e) t := by
  unfold findLoss
  refine spec_bind (Q := fun e t => Logged w (fun l => .called .errorGet e ∈ l) t) ?_ fun e => ?_
  · rintro t rfl
    exact ⟨[_], congrArg (List.cons _) t.touch_log, List.mem_singleton_self _⟩
  refine spec_bind (spec_logged hh w (fun _ _ => List.mem_append_right _) _) fun c => ?_
  refine spec_ite (fun _ => ?_) fun _ => spec_ite (fun _ => ?_) fun hc => ?_
  · exact spec_bind (spec_any _ _) fun _ => spec_pure fun _ _ _ he => nomatch he
  · exact spec_bind (spec_any _ _) fun _ => spec_pure fun _ _ _ he => nomatch he
  refine spec_bind (spec_ping hh w e) fun b => spec_ite (fun _ => ?_) fun hb => ?_
  · exact spec_bind (spec_any _ _) fun _ => spec_pure fun _ _ _ he => nomatch he
  refine spec_bind (Q := fun _ t => Pending t ∨ Logged w (LossFound e) t) ?_ fun _ => ?_
  · exact fun t ht => spec_sessionLost who hh w _ stmt e hc t (ht.resolve_left hb)
  · rintro t ht e' he
    cases he
    exact ht

-- a new session, and the statements bound again on it
def Reconnected (s : ℕ) (l : List Event) : Prop :=
  ∃ reb pre e, l = reb ++ .loggedOn true :: pre ∧ LossFound e pre ∧
    (∀ u b, .rebound u b ∈ reb → b = true) ∧
    .rebound s true ∈ reb

lemma spec_logonAgain (w : World) (e : Answer) :
    Spec (Logged w (LossFound e)) (logonAgain : Drv h .session Bool) fun b t =>
      b = false → ∃ pre, t.log = .loggedOn true :: pre ++ w.log ∧ LossFound e pre := by
  unfold logonAgain
  refine spec_bind (spec_logged hh w LossFound.append _) fun _ => ?_
  refine spec_bind (spec_logged hh w LossFound.append _) fun _ => ?_
  unfold logon
  refine spec_bind (spec_logged hh w LossFound.append _) fun _ => ?_
  refine spec_bind (spec_logged hh w LossFound.append _) fun _ => ?_
  refine spec_bind (spec_logged hh w LossFound.append _) fun b => ?_
  refine spec_bind (spec_logged hh w LossFound.append _) fun _ => ?_
  rintro t ⟨pre, hl, hf⟩ hb
  refine ⟨pre, ?_, hf⟩
  cases hb
  exact congrArg (List.cons _) hl

variable (hp : ∀ who w, Pending (h .main who w)) (hf : ∀ x who w, Frame w (h x who w))
include hp hf

lemma spec_reconnect (w : World) (e : Answer) :
    Spec (fun t => Pending t ∨ Logged w (LossFound e) t)
      (reconnect .main who (some s) e : Drv h .retry Bool) fun b t =>
      (b = false → Pending t) ∧ (b = true → Clean t ∧ Logged w (Reconnected s) t) := by
  unfold reconnect
  refine spec_bind (Q := fun b t => Pending t ∨
    (b = false → ∃ pre, t.log = .loggedOn true :: pre ++ w.log ∧
    LossFound e pre)) ?_ fun b => ?_
  · exact fun t ht => ht.imp (spec_pending hh logonAgain t) (spec_logonAgain hh w e t)
  refine spec_ite (fun _ => ?_) fun hb => ?_
  · refine spec_bind (spec_doException who e _) fun _ => ?_
    refine spec_bind (spec_pending hh _) fun _ => spec_bind (spec_pending hh _) fun _ => ?_
    exact spec_pure fun t ht => ⟨fun _ => ht, nofun⟩
  refine spec_bind (Q := fun _ t => Pending t ∨ ∃ pre,
    t.log = .loggedOn true :: pre ++ w.log ∧ LossFound e pre)
    ?_ fun _ => ?_
  · intro t ht
    refine ht.imp (spec_pending hh (setLost false : Drv h .session Unit) t) fun hl => ?_
    obtain ⟨pre, hl, he⟩ := hl (eq_false_of_ne_true hb)
    exact ⟨pre, t.touch_log.trans hl, he⟩
  refine spec_bind (Q := fun b t => (b = true ↔ Pending t) ∧
    (Pending t ∨ ∃ pre, t.log = .loggedOn true :: pre ++ w.log ∧ LossFound e pre)) ?_ fun b => ?_
  · exact fun t ht => ⟨Iff.rfl, ht⟩
  refine spec_ite (fun hb => ?_) fun hb => ?_
  · refine spec_bind (Q := fun _ => Pending) ?_ fun _ => spec_pure fun t ht => ⟨fun _ => ht, nofun⟩
    exact fun t ht =>
      spec_pending hh (Drv.calm (connectionRecovered .main) : Drv h .retry Unit) t (ht.1.1 hb)
  intro t ht
  have hc : Clean t := fun h => hb (ht.1.2 h)
  obtain ⟨pre, hl, he⟩ := ht.2.resolve_left hc
  obtain ⟨h₁, h₂⟩ := spec_rebindStatements s hp hh hf t t ⟨rfl, hc⟩
  let r := (rebindStatements .main (some s) : Drv h .retry Bool).run t
  show ((!r.1) = false → Pending r.2) ∧ ((!r.1) = true → Clean r.2 ∧ Logged w (Reconnected s) r.2)
  refine ⟨fun hr => h₁ (by simpa only [Bool.not_eq_false'] using hr), fun hr => ?_⟩
  obtain ⟨-, hu, reb, hlog, hall, hs⟩ := h₂ (by simpa only [Bool.not_eq_true'] using hr)
  refine ⟨hu, reb ++ .loggedOn true :: pre, ?_, reb, pre, e, rfl, he, hall,
    hs s (List.mem_singleton_self s)⟩
  rw [hlog, hl, List.append_assoc]

-- handleError() returns true only on a session that has been made again, and otherwise with an exception
lemma spec_handleError (w : World) :
    Spec (· = w) (handleError .main who true (some s) : Drv h .retry Bool) fun b t =>
      (b = false → Pending t) ∧ (b = true → Clean t ∧ Logged w (Reconnected s) t) := by
  unfold handleError
  refine spec_bind (Q := fun r t => (r = none → Pending t) ∧
    ∀ e, r = some e → Pending t ∨ Logged w (LossFound e) t) ?_ fun r => ?_
  · intro t ht
    let m : Drv h .recover (Option Answer) := findLoss .main who true (some s)
    exact ⟨spec_findLoss who hh true (some s) (· = w) t ht,
      spec_findLoss_some who hh w true (some s) t ht⟩
  cases r with
  | none => exact spec_pure fun t ht => ⟨fun _ => ht.1 rfl, nofun⟩
  | some e => exact fun t ht => spec_reconnect s who hh hp hf w e t (ht.2 e rfl)

end Handled

def executions (l : List Event) : List Event := l.filter fun e => e matches .executed _ _ _ _

lemma executions_append (m l : List Event) : executions (m ++ l) = executions m ++ executions l :=
  List.filter_append ..

lemma executions_nil {l : List Event} (hl : ∀ e ∈ l, e.kind ≠ .drive) : executions l = [] := by
  rw [executions, List.filter_eq_nil_iff]
  intro e he hm
  cases e with
  | executed => exact hl _ he rfl
  | _ => exact Bool.false_ne_true hm

lemma Reconnected.append {s : ℕ} {l : List Event} (m : List Event) (hm : ∀ u b, .rebound u b ∉ m)
    (hl : Reconnected s l) : Reconnected s (m ++ l) := by
  obtain ⟨reb, pre, e, rfl, he, hb, hs⟩ := hl
  refine ⟨m ++ reb, pre, e, (List.append_assoc ..).symm, he, ?_, List.mem_append_right _ hs⟩
  intro u b hu
  rcases List.mem_append.1 hu with hu | hu
  · exact absurd hu (hm u b)
  · exact hb u b hu

-- the log of a call of execute(), and what it returns
inductive Outcome (s : ℕ) : Bool → List Event → Prop
  | never (l : List Event) (hl : executions l = []) : Outcome s true l
  | once (l : List Event) (n : ℕ) (a : Answer) (b : Bool)
      (hl : executions l = [.executed s n a false]) (hb : b = false → a.ok = true) : Outcome s b l
  | twice (post mid pre : List Event) (n : ℕ) (a a' : Answer) (b : Bool)
      (hpost : executions post = []) (hmid : executions mid = [])
      (hpre : executions pre = []) (ha : a.status = .error) (hr : Reconnected s mid)
      (hb : b = false → a'.ok = true) :
      Outcome s b (post ++ .executed s n a' false :: (mid ++ .executed s n a false :: pre))

lemma executions_cons (s n : ℕ) (a : Answer) (b : Bool) (l : List Event) :
    executions (.executed s n a b :: l) = .executed s n a b :: executions l := rfl

lemma executions_twice {s n : ℕ} {a a' : Answer} {post mid pre : List Event}
    (hpost : executions post = [])
    (hmid : executions mid = []) (hpre : executions pre = []) :
    executions (post ++ .executed s n a' false :: (mid ++ .executed s n a false :: pre)) =
      [.executed s n a' false, .executed s n a false] := by
  rw [executions_append, hpost, executions_cons, executions_append, hmid, executions_cons, hpre]
  rfl

lemma Outcome.at_most_twice {s : ℕ} {b : Bool} {l : List Event} (h : Outcome s b l) :
    (executions l).length ≤ 2 := by
  rcases h with ⟨_, hl⟩ | ⟨_, n, a, _, hl, _⟩ | ⟨post, mid, pre, n, a, a', _, hpost, hmid, hpre, -, -, -⟩
  · rw [hl]
    exact Nat.zero_le _
  · rw [hl]
    exact Nat.le_succ 1
  · rw [executions_twice hpost hmid hpre]
    exact Nat.le_refl 2

-- an event of a call that neither binds nor executes, and of the handling of its error
def Quietly (e : Event) : Prop := e.kind ∈ Level.recover.kinds

lemma executions_quiet {l : List Event} (hl : ∀ e ∈ l, Quietly e) : executions l = [] := by
  apply executions_nil
  intro e he hk
  have hq := hl e he
  rw [Quietly, hk] at hq
  exact absurd hq (by decide)

-- no statement was bound or executed since `w`
def Quiet (w t : World) : Prop := Adds World.log Quietly w t

lemma steady_quiet (w : World) : Steady (Quiet w) where
  touch t ht := ht.trans (adds_same t.touch_log)
  ask _ _ ht := ht.trans (adds_one rfl (List.mem_cons_self))
  stmt _ _ _ ht := ht.trans (adds_same rfl)
  conn _ _ ht := ht.trans (adds_same rfl)

lemma Steady.and {P Q : World → Prop} (hP : Steady P) (hQ : Steady Q) : Steady fun t => P t ∧ Q t where
  touch t ht := ⟨hP.touch t ht.1, hQ.touch t ht.2⟩
  ask c t ht := ⟨hP.ask c t ht.1, hQ.ask c t ht.2⟩
  stmt s f t ht := ⟨hP.stmt s f t ht.1, hQ.stmt s f t ht.2⟩
  conn f t ht := ⟨hP.conn f t ht.1, hQ.conn f t ht.2⟩

def Ready (w t : World) : Prop := Clean t ∧ Quiet w t

lemma steady_ready (w : World) : Steady (Ready w) := steady_clean.and (steady_quiet w)

section Handled

variable (hp : ∀ who w, Pending (h .main who w))
  (hh : ∀ x who w, Extends Level.recover.logs w (h x who w))
  (hf : ∀ x who w, Frame w (h x who w))

include hh in
lemma spec_quiet (w : World) (hl : l.kinds ⊆ Level.recover.kinds) (m : Drv h l α) :
    Spec (Quiet w) m fun _ => Quiet w := by
  intro t ht
  refine ht.trans ((Drv.adds hh m t).adds.mono ?_)
  exact fun e he => (List.mem_append.1 he).elim (@hl _) id

lemma keeps_quiet {w : World} {m : Drv h l Bool} (hk : Keeps Pending (Ready w) m)
    (hq : Spec (Quiet w) m fun _ => Quiet w) : Keeps (fun t => Pending t ∧ Quiet w t) (Ready w) m :=
  fun t ht => ⟨fun hb => ⟨(hk t ht).1 hb, hq t ht.2⟩, (hk t ht).2⟩

lemma keeps_cancel_quiet (w : World) :
    Keeps (fun t => Pending t ∧ Quiet w t) (Ready w) (checkCancel .main : Drv h .all Bool) := by
  apply keeps_quiet (keeps_checkCancel (steady_ready w))
  refine spec_bind (spec_ask (steady_quiet w) _) fun a => spec_ite (fun _ => ?_) fun _ =>
    spec_pure fun _ ht => ht
  exact spec_bind (Q := fun _ => Quiet w) (fun t ht => ht.trans (adds_same rfl)) fun _ =>
    spec_pure fun _ ht => ht

include hh

include hp

lemma keeps_apply_quiet (w : World) : Keeps (fun t => Pending t ∧ Quiet w t) (Ready w)
    (Drv.calm (applyThreadSessionInfo .main) : Drv h .all Bool) := by
  let m : Drv h .calm Bool := applyThreadSessionInfo .main
  exact keeps_quiet (m := m) (keeps_applyThreadSessionInfo (steady_ready w) hp hh)
    (spec_quiet hh w (by decide) m)

-- the check after the last call
lemma spec_check_quiet (w : World) (a : Answer) :
    Spec (Ready w) (check .main a who : Drv h .all Bool) fun b t =>
      Quiet w t ∧ (b = true → Pending t) ∧ (b = false → Clean t ∧ a.ok = true) := by
  intro t ht
  let m : Drv h .calm Bool := check .main a who
  obtain ⟨h₁, h₂⟩ := keeps_check who hp a (P := Ready w) t ht
  refine ⟨spec_quiet hh w (by decide) m t ht.2, h₁, fun hb => ⟨(h₂ hb).1, ?_⟩⟩
  have hc : (t.checkerr h .main a who).1 = false := hb
  unfold World.checkerr at hc
  unfold Answer.ok
  cases hs : a.status <;> rw [hs] at hc <;> first | rfl | exact absurd hc Bool.false_ne_true.symm

-- the statement was sent once since `w`, without an exception
def Sent (w : World) (n : ℕ) (a : Answer) (t : World) : Prop :=
  Clean t ∧ ∃ l, t.log = .executed s n a false :: (l ++ w.log) ∧ ∀ e ∈ l, Quietly e

omit hh hp in
lemma spec_send (w : World) (n : ℕ) :
    Spec (Ready w) (stmtExecute s n : Drv h .all Answer) (Sent s w n) := by
  unfold stmtExecute
  refine spec_bind (Q := fun _ => Ready w) (spec_touch (steady_ready w)) fun _ => ?_
  rintro t ⟨hc, l, hl, hq⟩
  refine ⟨hc, l, ?_, hq⟩
  have hp : t.pending .main = false := eq_false_of_ne_true hc
  show Event.executed s n _ (t.pending .main) :: t.log = _
  rw [hp, hl]
  rfl

-- what a call of the statement and the check of its answer leave in the log
inductive Sends (n : ℕ) : Bool → List Event → Prop
  | stopped (l : List Event) (hl : ∀ e ∈ l, Quietly e) : Sends n true l
  | sent (post pre : List Event) (a : Answer) (b : Bool) (hpost : ∀ e ∈ post, Quietly e)
      (hpre : ∀ e ∈ pre, Quietly e) (hb : b = false → a.ok = true) :
      Sends n b (post ++ .executed s n a false :: pre)

lemma spec_check_sent (w : World) (n : ℕ) (a : Answer) :
    Spec (Sent s w n a) (check .main a who : Drv h .all Bool) fun b t =>
      (b = true → Pending t) ∧ (b = false → Clean t) ∧ ∃ l, t.log = l ++ w.log ∧ Sends s n b l := by
  rintro t ⟨hc, pre, hl, hpre⟩
  obtain ⟨⟨post, hlog, hpost⟩, h₁, h₂⟩ := spec_check_quiet who hp hh t a t ⟨hc, adds_refl t⟩
  refine ⟨h₁, fun hb => (h₂ hb).1, _, ?_, .sent post pre a _ hpost hpre fun hb => (h₂ hb).2⟩
  rw [hlog, hl]
  simp only [List.append_assoc, List.cons_append]

omit hp hh in
lemma spec_stopped (w : World) (n : ℕ) :
    Spec (fun t => Pending t ∧ Quiet w t) (pure true : Drv h .all Bool) fun b t =>
      (b = true → Pending t) ∧ (b = false → Clean t) ∧ ∃ l, t.log = l ++ w.log ∧ Sends s n b l :=
  spec_pure fun _ ⟨hp, l, hl, hq⟩ => ⟨fun _ => hp, nofun, l, hl, .stopped l hq⟩

lemma spec_executeAgain (w : World) (n : ℕ) :
    Spec (Ready w) (executeAgain .main s who n : Drv h .all Bool) fun b t =>
      (b = true → Pending t) ∧ (b = false → Clean t) ∧ ∃ l, t.log = l ++ w.log ∧ Sends s n b l := by
  unfold executeAgain
  refine spec_bind (keeps_cancel_quiet w) fun b => spec_ite (fun hb => ?_) fun hb => ?_
  · exact spec_weaken (spec_stopped s w n) (fun t ht => ht.1 hb) fun _ _ h => h
  refine spec_bind (Q := fun b t => (b = true → Pending t ∧ Quiet w t) ∧
    (b = false → Ready w t)) ?_ fun c => ?_
  · exact fun t ht => keeps_apply_quiet hp hh w t (ht.2 (eq_false_of_ne_true hb))
  refine spec_ite (fun hc => ?_) fun hc => ?_
  · exact spec_weaken (spec_stopped s w n) (fun t ht => ht.1 hc) fun _ _ h => h
  refine spec_bind (Q := Sent s w n) ?_ fun a => spec_check_sent s who hp hh w n a
  exact fun t ht => spec_send s w n t (ht.2 (eq_false_of_ne_true hc))

omit hp hh in
lemma Sends.outcome {n : ℕ} {b : Bool} {l : List Event} (hl : Sends s n b l) : Outcome s b l := by
  rcases hl with ⟨_, hq⟩ | ⟨post, pre, a, _, hpost, hpre, hb⟩
  · exact .never _ (executions_quiet hq)
  · refine .once _ n a _ ?_ hb
    rw [executions_append, executions_quiet hpost, executions_cons, executions_quiet hpre]
    rfl

-- a second call after the first one failed and the session was made again
omit hp hh in
lemma Sends.again {n : ℕ} {a : Answer} {b : Bool} {l mid pre : List Event} (hl : Sends s n b l)
    (hmid : executions mid = []) (hr : Reconnected s mid) (hpre : executions pre = [])
    (ha : a.status = .error) :
    Outcome s b (l ++ (mid ++ .executed s n a false :: pre)) := by
  rcases hl with ⟨_, hq⟩ | ⟨post, pre', a', _, hpost, hpre', hb⟩
  · refine .once _ n a true ?_ nofun
    rw [executions_append, executions_quiet hq, executions_append, hmid, executions_cons, hpre]
    rfl
  · have hrebound : ∀ u c, Event.rebound u c ∉ pre' := fun u c hu =>
      absurd (hpre' _ hu) (show Kind.retry ∉ Level.recover.kinds by decide)
    have hjoin : executions (pre' ++ mid) = [] := by
      rw [executions_append, executions_quiet hpre', hmid]; rfl
    have h :=
      Outcome.twice (s := s) post (pre' ++ mid) pre n a a' b (executions_quiet hpost) hjoin hpre ha
      (hr.append pre' hrebound) hb
    simpa only [List.append_assoc, List.cons_append] using h

-- after the error of the first call
def Answered (w : World) (n : ℕ) (a : Answer) (b : Bool) (t : World) : Prop :=
  (b = false → Pending t) ∧ ∃ mid pre, t.log = mid ++ .executed s n a false :: (pre ++ w.log) ∧
    executions mid = [] ∧ executions pre = [] ∧ (b = true → Clean t ∧ Reconnected s mid)

include hf

lemma spec_handleError_sent (w : World) (n : ℕ) (a : Answer) :
    Spec (Sent s w n a) (handleError .main who true (some s) : Drv h .retry Bool)
      (Answered s w n a) := by
  rintro t ⟨-, pre, hl, hpre⟩
  let m : Drv h .retry Bool := handleError .main who true (some s)
  obtain ⟨h₁, h₂⟩ := spec_handleError s who hh hp hf t t rfl
  obtain ⟨mid, hmid, hkinds⟩ := (Drv.adds hh m t).adds
  have hexec : executions mid = [] := by
    apply executions_nil
    intro e he hk
    have hlogs := hkinds e he
    rw [Level.logs, hk] at hlogs
    exact absurd hlogs (by decide)
  refine ⟨h₁, mid, pre, ?_, hexec, executions_quiet hpre, fun hb => ⟨(h₂ hb).1, ?_⟩⟩
  · show (m.run t).2.log = _
    rw [hmid, hl]
  · obtain ⟨l, hlog, hr⟩ := (h₂ hb).2
    have heq : mid = l := List.append_cancel_right (hmid.symm.trans hlog)
    exact heq ▸ hr

lemma spec_execute (w : World) :
    Spec (Ready w) (execute .main s who : Drv h .all Bool) fun b t =>
      (b = true → Pending t) ∧ (b = false → Clean t) ∧ ∃ l, t.log = l ++ w.log ∧ Outcome s b l := by
  have stopped : Spec (fun t => Pending t ∧ Quiet w t) (pure true : Drv h .all Bool) fun b t =>
      (b = true → Pending t) ∧ (b = false → Clean t) ∧ ∃ l, t.log = l ++ w.log ∧ Outcome s b l := by
    refine spec_weaken (spec_stopped s w 0) (fun _ ht => ht) ?_
    exact fun b t ⟨h₁, h₂, l, hl, hs⟩ => ⟨h₁, h₂, l, hl, hs.outcome⟩
  unfold execute
  refine spec_bind (keeps_cancel_quiet w) fun b => spec_ite (fun hb => ?_) fun hb => ?_
  · exact spec_weaken stopped (fun t ht => ht.1 hb) fun _ _ h => h
  refine spec_bind (Q := fun _ => Ready w) ?_ fun S => ?_
  · exact fun t ht => spec_stmt s (steady_ready w) t (ht.2 (eq_false_of_ne_true hb))
  refine spec_bind (keeps_apply_quiet hp hh w) fun c => spec_ite (fun hc => ?_) fun hc => ?_
  · exact spec_weaken stopped (fun t ht => ht.1 hc) fun _ _ h => h
  refine spec_bind (Q := Sent s w (iterations S)) ?_ fun a => ?_
  · exact fun t ht => spec_send s w _ t (ht.2 (eq_false_of_ne_true hc))
  refine spec_ite (fun ha => ?_) fun _ => ?_
  · refine spec_bind (Q := Answered s w (iterations S) a)
      (spec_handleError_sent s who hp hh hf w _ a) fun b => ?_
    refine spec_ite (fun hb => ?_) fun hb => ?_
    · rintro t ⟨-, mid, pre, hl, hmid, hpre, hr⟩
      obtain ⟨hclean, hre⟩ := hr hb
      obtain ⟨h₁, h₂, l, hlog, hs⟩ :=
        spec_executeAgain s who hp hh t (iterations S) t ⟨hclean, adds_refl t⟩
      refine ⟨h₁, h₂, _, ?_, hs.again s hmid hre hpre ha⟩
      rw [hlog, hl]
      simp only [List.append_assoc, List.cons_append]
    · refine spec_pure fun t ⟨hpend, mid, pre, hl, hmid, hpre, _⟩ => ?_
      refine ⟨fun _ => hpend (eq_false_of_ne_true hb), nofun,
        mid ++ .executed s (iterations S) a false :: pre, ?_, ?_⟩
      · rw [hl, List.append_assoc, List.cons_append]
      · refine .once _ (iterations S) a true ?_ nofun
        rw [executions_append, hmid, executions_cons, hpre]
        rfl
  · refine spec_weaken (spec_check_sent s who hp hh w _ a) (fun _ ht => ht) ?_
    exact fun b t ⟨h₁, h₂, l, hl, hs⟩ => ⟨h₁, h₂, l, hl, hs.outcome⟩

end Handled

section Outcomes

variable (hp : ∀ who w, Pending (h .main who w))
  (hh : ∀ x who w, Extends Level.recover.logs w (h x who w))
include hp hh

omit hp hh in
lemma keeps_finish (w : World) (b : BulkStream) (success : Bool) :
    Keeps Pending (Calmly w) (BulkStream.finish .main b success : Drv h .recover Bool) := by
  unfold BulkStream.finish
  refine keeps_ite (fun _ => keeps_pure) fun _ => ?_
  refine keeps_seq (fun t ht => ht.trans (adds_one rfl nofun)) fun _ => ?_
  refine keeps_seq (fun t ht => ht.trans (adds_one rfl nofun)) fun _ => ?_
  exact keeps_seq (spec_oci (steady_calmly w) _) fun a =>
    keeps_ite (fun _ => keeps_raise _) fun _ => keeps_pure

lemma spec_closePath (w : World) :
    Spec (Calmly w) (BulkLoadState.closePath .main false : Drv h .recover _) fun r t =>
      (r.2 = false → Pending t) ∧ (r.2 = true → Calmly w t) := by
  unfold BulkLoadState.closePath
  refine spec_bind (keeps_checkCancel (steady_calmly w)) fun b => ?_
  refine spec_bind (Q := fun c t => (b = true ∨ c = true → Pending t) ∧
    (b = false ∧ c = false → Calmly w t)) ?_ fun c => ?_
  · intro t ht
    let m : Drv h .recover Bool :=
      checked .main .dirPathAbort "QoreOracleBulkLoadState::terminate() OCIDirPathAbort"
    cases b with
    | true => exact ⟨fun _ => spec_pending hh m t (ht.1 rfl), fun h => absurd h.1 nofun⟩
    | false =>
      have hk :=
        keeps_checked "QoreOracleBulkLoadState::terminate() OCIDirPathAbort" (steady_calmly w) hp
        .dirPathAbort (l := .recover) t (ht.2 rfl)
      exact ⟨fun h => hk.1 (h.resolve_left nofun), fun h => hk.2 h.2⟩
  · refine spec_pure fun t ht => ?_
    cases b <;> cases c <;> simp_all

-- terminate() after the path was closed, with what is left of success and if there was no error
omit hp in
lemma keeps_ended (w : World) (b : BulkLoadState) (r : Bool × Bool) :
    Spec (fun t => (r.2 = false → Pending t) ∧ (r.2 = true → Calmly w t))
      (do
        let failed ← BulkStream.finish .main b.stream (r.1 && r.2)
        return failed || !r.2 || (← pending .main) : Drv h .recover Bool)
      fun c t => (c = true → Pending t) ∧ (c = false → Calmly w t) := by
  refine spec_bind (Q := fun c t => (r.2 = false ∨ c = true → Pending t) ∧
    (r.2 = true ∧ c = false → Calmly w t))
    ?_ fun c => ?_
  · intro t ht
    let m : Drv h .recover Bool := BulkStream.finish .main b.stream (r.1 && r.2)
    by_cases hr : r.2 = true
    · have hk := keeps_finish (h := h) w b.stream (r.1 && r.2) t (ht.2 hr)
      refine ⟨fun hb => hk.1 (hb.resolve_left ?_), fun hb => hk.2 hb.2⟩
      rw [hr]
      exact nofun
    · exact ⟨fun _ => spec_pending hh m t (ht.1 (eq_false_of_ne_true hr)), fun hb => absurd hb.1 hr⟩
  · intro t ht
    show ((c || !r.2 || t.pending .main) = true → Pending t) ∧
      ((c || !r.2 || t.pending .main) = false → Calmly w t)
    simp only [Bool.or_eq_true, Bool.not_eq_true', Bool.or_eq_false_iff, Bool.not_eq_false']
    refine ⟨?_, fun hb => ht.2 ⟨hb.1.2, hb.1.1⟩⟩
    rintro ((hc | hr) | hpend)
    · exact ht.1 (Or.inr hc)
    · exact ht.1 (Or.inl hr)
    · exact hpend

lemma keeps_terminate (w : World) (b : BulkLoadState) :
    Keeps Pending (Calmly w) (BulkLoadState.terminate .main b false : Drv h .recover Bool) := by
  unfold BulkLoadState.terminate
  refine spec_ite (fun _ => ?_) fun _ => ?_
  · exact spec_bind (spec_closePath hp hh w) fun r => keeps_ended hh w b r
  · refine spec_bind (Q := fun r t => r = (false, true) ∧ Calmly w t)
      (spec_pure fun t ht => ⟨rfl, ht⟩) ?_
    rintro r t ⟨rfl, ht⟩
    exact keeps_ended hh w b (false, true) t ⟨nofun, fun _ => ht⟩

lemma keeps_bulkLoadEnd (w : World) :
    Keeps Pending (Calmly w) (bulkLoadEnd .main false : Drv h .recover Bool) := by
  unfold bulkLoadEnd
  refine keeps_seq (spec_bind (spec_conn (steady_calmly w)) fun _ => spec_pure fun _ ht => ht)
    fun b => ?_
  cases b with
  | none => exact keeps_raise _
  | some b => exact keeps_seq (fun t ht => ht.trans (adds_same rfl)) fun _ => keeps_terminate hp hh w b

lemma keeps_rollback (w : World) : Keeps Pending (Calmly w) (rollback .main : Drv h .recover Bool) := by
  have last : Keeps Pending (Calmly w) (do
      if ← checkCancel .main then
        return true
      if ← applyThreadSessionInfo .main then
        return true
      checked .main .transRollback "QoreOracleConnection:rollback()" : Drv h .recover Bool) :=
    keeps_then (keeps_checkCancel (steady_calmly w))
      (keeps_then (keeps_applyThreadSessionInfo (steady_calmly w) hp hh)
        (keeps_checked _ (steady_calmly w) hp _))
  unfold rollback
  refine keeps_seq (spec_bind (spec_conn (steady_calmly w)) fun _ => spec_pure fun _ ht => ht)
    fun b => ?_
  exact keeps_ite (fun _ => keeps_then (keeps_bulkLoadEnd hp hh w) last) fun _ => last

variable (hf : ∀ x who w, Frame w (h x who w))
include hf

lemma keeps_rebindStatements (stmt : Option ℕ) :
    Keeps Pending Clean (rebindStatements .main stmt : Drv h .retry Bool) := by
  intro t ht
  cases stmt with
  | some s =>
    have hs := spec_rebindStatements s hp hh hf t t ⟨rfl, ht⟩
    exact ⟨hs.1, fun hb => (hs.2 hb).clean⟩
  | none =>
    have hstart : Rebound t [] t.touch :=
      (Rebound.start ht).extend t.frame_touch (steady_clean.touch t ht) (adds_same t.touch_log)
    have hs := spec_rebindAll hp hh hf t t.touch.conn.stmtSet [] t.touch hstart
    have hrun : (rebindStatements .main none : Drv h .retry Bool).run t =
        (tryEach (rebind .main) t.touch.conn.stmtSet : Drv h .retry Bool).run t.touch := by
      let r := (tryEach (rebind .main) t.touch.conn.stmtSet : Drv h .retry Bool).run t.touch
      show (if r.1 = true then (pure true : Drv h .retry Bool) else pure false).run r.2 = r
      cases hb : r.1 with
      | true => exact Prod.ext hb.symm rfl
      | false => exact Prod.ext hb.symm rfl
    rw [hrun]
    exact ⟨hs.1, fun hb => (hs.2 hb).clean⟩

lemma spec_reconnect_clean (stmt : Option ℕ) (e : Answer) :
    Spec P (reconnect .main who stmt e : Drv h .retry Bool) fun b t => b = true ↔ Clean t := by
  have failed : Spec Pending (pure false : Drv h .retry Bool) fun b t => b = true ↔ Clean t :=
    spec_pure fun t ht => ⟨nofun, fun hc => absurd ht hc⟩
  unfold reconnect
  refine spec_bind (spec_any P _) fun b => spec_ite (fun _ => ?_) fun hb => ?_
  · refine spec_bind (spec_doException who e _) fun _ => ?_
    exact spec_bind (spec_pending hh _) fun _ => spec_bind (spec_pending hh _) fun _ => failed
  refine spec_bind (spec_any _ _) fun _ => ?_
  refine spec_bind (Q := fun b t => b = true ↔ Pending t) (fun t _ => Iff.rfl) fun b => ?_
  refine spec_ite (fun hb => ?_) fun hb => ?_
  · refine spec_bind (Q := fun _ => Pending) (fun t ht => ?_) fun _ => failed
    exact spec_pending hh (Drv.calm (connectionRecovered .main) : Drv h .retry Unit) t (ht.1 hb)
  · intro t ht
    obtain ⟨h₁, h₂⟩ := keeps_rebindStatements hp hh hf stmt t fun hc => hb (ht.2 hc)
    let r := (rebindStatements .main stmt : Drv h .retry Bool).run t
    show (!r.1) = true ↔ Clean r.2
    cases hr : r.1 with
    | true => exact ⟨nofun, fun hc => absurd (h₁ hr) hc⟩
    | false => exact ⟨fun _ => h₂ hr, fun _ => rfl⟩

-- handleError() succeeds if and only if no exception is pending
lemma spec_handleError_clean (canRetry : Bool) (stmt : Option ℕ) :
    Spec P (handleError .main who canRetry stmt : Drv h .retry Bool) fun b t => b = true ↔ Clean t := by
  have failed : Spec Pending (pure false : Drv h .retry Bool) fun b t => b = true ↔ Clean t :=
    spec_pure fun t ht => ⟨nofun, fun hc => absurd ht hc⟩
  unfold handleError
  refine spec_bind (Q := fun r t => r = none → Pending t) ?_ fun r => ?_
  · exact fun t ht => spec_findLoss who hh canRetry stmt P t ht
  cases r with
  | none => exact fun t ht => failed t (ht rfl)
  | some e =>
    refine spec_ite (fun _ => spec_reconnect_clean who hp hh hf stmt e) fun _ => ?_
    exact spec_bind (spec_giveUp who hh e _) fun _ => failed

end Outcomes

/-! What the driver reports for a call during which a session may be lost. -/

-- what execute() did and what it returned
def ExecutesOnce (s : ℕ) (w : World) (r : Bool × World) : Prop :=
  (∃ l, r.2.log = l ++ w.log ∧ Outcome s r.1 l ∧ (executions l).length ≤ 2) ∧ (r.1 = true ↔ Pending r.2)

-- a call that returns no error lost no session
def OwnsUp (w : World) (r : Bool × World) : Prop := r.1 = false → Calmly w r.2

/-- A statement is executed a second time only after a session was found lost and made again, and no
call that fails is reported to have succeeded. -/
theorem execute_at_most_once (n : ℕ) (w : World) :
    (Clean w → ExecutesOnce s w ((execute .main s who : Drv (handler n) .all Bool).run w)) ∧
      (∀ canRetry stmt,
        ((handleError .main who canRetry stmt : Drv (handler n) .retry Bool).run w).1 = true ↔
        Clean ((handleError .main who canRetry stmt : Drv (handler n) .retry Bool).run w).2) ∧
      OwnsUp w ((commit .main : Drv (handler n) .recover Bool).run w) ∧
      OwnsUp w ((rollback .main : Drv (handler n) .recover Bool).run w) ∧
      ∀ a, OwnsUp w ((check .main a who : Drv (handler n) .recover Bool).run w) := by
  have hp : ∀ who w, Pending (handler n .main who w) := fun who w => handler_pending who w n
  have hh := handler_adds n
  have hf := handler_frame n
  have calmly : Calmly w w := adds_refl w
  refine ⟨fun hw => ?_, fun canRetry stmt => ?_, ?_, ?_, fun a => ?_⟩
  · obtain ⟨h₁, h₂, l, hl, ho⟩ := spec_execute s who hp hh hf w w ⟨hw, adds_refl w⟩
    refine ⟨⟨l, hl, ho, ho.at_most_twice⟩, h₁, fun ht => ?_⟩
    by_contra hb
    exact h₂ (eq_false_of_ne_true hb) ht
  · exact spec_handleError_clean who hp hh hf (P := fun _ => True) canRetry stmt w trivial
  · exact (keeps_commit (steady_calmly w) hp hh w calmly).2
  · exact (keeps_rollback hp hh w w calmly).2
  · exact (keeps_check who hp a w calmly).2

-- the session is lost in the first execution, and made again
def lostOnce : World :=
  { World.start plainSetting fun
      | 5 => ⟨.error, 0, "", 0, false⟩
      | 6 => ⟨.success, 3113, "", 0, false⟩
      | _ => ⟨.success, 0, "", 0, false⟩ with
    stmts := [{ Stmt.new with str := some [], stmthp := true }] }

theorem execute_at_most_once_lost :
    ExecutesOnce 0 lostOnce ((execute .main 0 "" : Drv (handler 2) .all Bool).run lostOnce) :=
  (execute_at_most_once 0 "" 2 lostOnce).1 Bool.false_ne_true

end OracleDriver
