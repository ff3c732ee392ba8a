import OracleDriver.BlockLoad

/-! How a direct path load ends: what the client is told to do with the rows, and what the observer
of the stream is told. -/

namespace OracleDriver

open Act Trace

-- what tells nothing of how a load ends
def Silent (e : Event) : Prop := (e.kind ≠ .load ∧ e ≠ .loadBegun) ∨ ∃ s, e = .stream s

-- the end of a load that is given up
def Harmless (e : Event) : Prop := Silent e ∨ e = .streamEnded false

lemma silent_calm (e : Event) (he : e.kind = .calm) : Silent e := by
  refine .inl ⟨?_, ?_⟩
  · rw [he]
    exact nofun
  · rintro rfl
    exact absurd he nofun

lemma silent_session (e : Event) (he : e.kind = .session) : Silent e := by
  refine .inl ⟨?_, ?_⟩
  · rw [he]
    exact nofun
  · rintro rfl
    exact absurd he nofun

-- no load is begun or finished, and only a load that is active can be given up
structure Mild (w t : World) : Prop where
  adds : Adds World.log Harmless w t
  quiet : w.conn.bulkLoad = none → Adds World.log Silent w t
  kept : t.conn.bulkLoad = w.conn.bulkLoad ∨ t.conn.bulkLoad = none

variable {h : Handler} {w t u : World}

namespace Mild

lemma of_silent (hc : t.conn.bulkLoad = w.conn.bulkLoad) (ha : Adds World.log Silent w t) : Mild w t :=
  ⟨ha.mono fun _ => Or.inl, fun _ => ha, Or.inl hc⟩

lemma refl (w : World) : Mild w w := of_silent rfl (adds_refl w)

lemma none (hw : Mild w t) (hn : w.conn.bulkLoad = none) : t.conn.bulkLoad = none := by
  rcases hw.kept with hk | hk
  · exact hk.trans hn
  · exact hk

lemma trans (hw : Mild w t) (ht : Mild t u) : Mild w u where
  adds := hw.adds.trans ht.adds
  quiet hn := (hw.quiet hn).trans (ht.quiet (hw.none hn))
  kept := by
    rcases ht.kept with hk | hk
    · rw [hk]
      exact hw.kept
    · exact Or.inr hk

lemma same (hc : t.conn = w.conn) (hl : t.log = w.log) : Mild w t :=
  of_silent (by rw [hc]) (adds_same hl)

lemma run {α : Type} {R : World → World → Prop} (h : ∀ w t, R w t → Mild w t) (m : Act R α) (w : World) :
    Mild w (m.run w).2 := Act.preorder refl (fun _ _ _ => trans) h m w

lemma conn {f : Conn → Conn} (w : World) (hb : (f w.conn).bulkLoad = w.conn.bulkLoad) :
    Mild w (w.setConn f) :=
  of_silent hb (adds_same rfl)

lemma emit (w : World) {e : Event} (he : Silent e) : Mild w (w.emit e) := of_silent rfl (adds_one rfl he)

end Mild

namespace World

lemma mild_touch (w : World) : Mild w w.touch := .same w.touch_conn w.touch_log

lemma mild_raise (x : Sink) (e : Exn) (w : World) : Mild w (w.raise x e) := by
  cases x <;> exact .same rfl rfl

lemma mild_ask (c : Call) (w : World) : Mild w (w.ask c).2 :=
  .of_silent rfl (adds_one rfl (silent_calm _ rfl))

lemma mild_checkerr (hh : ∀ x who w, Mild w (h x who w)) (x : Sink) (a : Answer) (who : String)
    (w : World) :
    Mild w (w.checkerr h x a who).2 := by
  unfold checkerr
  split
  · exact .refl w
  · exact .refl w
  · exact w.mild_touch.trans (hh x who _)
  all_goals exact mild_raise _ _ _

lemma mild_freeTemporary (l : Locator) (w : World) : Mild w (w.freeTemporary l).2 :=
  ((Mild.emit w (silent_calm _ rfl)).trans (mild_touch _)).trans (mild_ask _ _)

lemma mild_setStmt (s : ℕ) (f : Stmt → Stmt) (w : World) : Mild w (w.setStmt s f) := .same rfl rfl

end World

lemma Plain.mild (hh : ∀ x who w, Mild w (h x who w)) (hp : Plain h w t) : Mild w t := by
  cases hp with
  | touch => exact w.mild_touch
  | ask c => exact w.mild_ask c
  | raise x e => exact w.mild_raise x e
  | check x a who => exact w.mild_checkerr hh x a who
  | exhaust => exact .same rfl rfl

lemma NodeMove.mild {s i : ℕ} (hh : ∀ x who w, Mild w (h x who w))
    (hm : NodeMove h s i false w t) : Mild w t := by
  cases hm with
  | plain hp => exact hp.mild hh
  | tidy => exact w.mild_setStmt _ _
  | strlobFree =>
    unfold World.strlobFree
    split
    · split
      · exact w.mild_touch
      · exact w.mild_freeTemporary _
    · exact .refl w
  | arraybindFree =>
    unfold World.arraybindFree
    split
    · split
      · exact w.mild_touch
      · exact w.mild_freeTemporary _
    · exact .refl w

lemma NodeAct.mild {α : Type} {s i : ℕ} (hh : ∀ x who w, Mild w (h x who w))
    (m : NodeAct h s i false α) (w : World) :
    Mild w (m.run w).2 := .run (fun _ _ => NodeMove.mild hh) m w

lemma Move.mild {k : Kind} (hk : k = .calm ∨ k = .session) (hh : ∀ x who w, Mild w (h x who w))
    (hm : Move h k w t) :
    Mild w t := by
  cases hm with
  | plain hp => exact hp.mild hh
  | clearNode => exact NodeAct.mild hh _ w
  | resetNode => exact NodeAct.mild hh _ w
  | valueNode => exact NodeAct.mild hh _ w
  | stmt => exact w.mild_setStmt _ _
  | dropNodes => exact w.mild_setStmt _ _
  | conn f _ hf => exact .conn w (hf _).bulkLoad
  | assimilate => exact .same rfl rfl
  | freshSink => exact .same rfl rfl
  | forget => exact .same rfl rfl
  | session e _ he => exact .emit w (silent_session e he)
  | setLost => exact .conn w rfl
  | setInLogon => exact .conn w rfl
  | sessionEnded => exact .same rfl rfl
  | sessionBegun => exact .same rfl rfl
  | close => exact .same rfl rfl
  | setAbortPending => exact .conn w rfl
  | _ => exact absurd hk (by decide)

-- a function that neither ends a load nor changes what it holds
lemma Drv.mild {α : Type} {l : Level} (hl : ∀ k ∈ l.kinds, k = .calm ∨ k = .session)
    (hh : ∀ x who w, Mild w (h x who w))
    (m : Drv h l α) (w : World) : Mild w (m.run w).2 := by
  refine .run ?_ m w
  rintro w t ⟨k, hk, hm⟩
  exact hm.mild (hl k (of_decide_eq_true hk)) hh

section Handled

variable (x : Sink) (hh : ∀ x who w, Mild w (h x who w))
include hh

omit hh in
lemma mild_move {l : Level} (k : Kind) (hl : l.has k = true) (f : World → World)
    (hf : ∀ w, Move h k w (f w))
    (hm : ∀ t, Mild t (f t)) : Spec (Mild w) (Drv.move k hl f hf) fun _ => Mild w :=
  fun t ht => ht.trans (hm t)

lemma mild_calm {α : Type} {l : Level} (m : Drv h .calm α) :
    Spec (Mild w) (Drv.calm m : Drv h l α) fun _ => Mild w :=
  fun _ ht => ht.trans (Drv.mild (by decide) hh m _)

lemma mild_session {α : Type} (m : Drv h .session α) :
    Spec (Mild w) (Drv.up m : Drv h .recover α) fun _ => Mild w :=
  fun _ ht => ht.trans (Drv.mild (by decide) hh m _)

omit hh in
lemma mild_oci {l : Level} (c : Call) : Spec (Mild w) (oci c : Drv h l Answer) fun _ => Mild w :=
  fun t ht => (ht.trans t.mild_touch).trans (World.mild_ask c _)

omit hh in
lemma mild_stream (e : StreamEvent) :
    Spec (Mild w) (Drv.load (.stream e) rfl rfl : Drv h .recover Unit) fun _ => Mild w :=
  fun t ht => ht.trans (.emit t (.inr ⟨e, rfl⟩))

lemma mild_check {l : Level} (a : Answer) (who : String) :
    Spec (Mild w) (check x a who : Drv h l Bool) fun _ => Mild w :=
  fun t ht => ht.trans (t.mild_checkerr hh x a who)

lemma mild_checked {l : Level} (c : Call) (who : String) :
    Spec (Mild w) (checked x c who : Drv h l Bool) fun _ => Mild w :=
  spec_bind (mild_oci c) fun a => mild_check x hh a who

omit hh in
lemma mild_raised {l : Level} (e : Exn) : Spec (Mild w) (raise x e : Drv h l Unit) fun _ => Mild w :=
  fun t ht => ht.trans (t.mild_raise x e)

omit hh in
lemma mild_checkCancel {l : Level} : Spec (Mild w) (checkCancel x : Drv h l Bool) fun _ => Mild w := by
  refine spec_bind (Q := fun _ => Mild w) (fun t ht => ht.trans (t.mild_ask _)) fun a =>
    spec_ite (fun _ => ?_) fun _ => ?_
  · exact spec_bind (mild_raised x _) fun _ => spec_pure fun _ ht => ht
  · exact spec_pure fun _ ht => ht

omit hh in
lemma mild_finish (b : BulkStream) (success : Bool) (hw : w.conn.bulkLoad ≠ none)
    (hs : (b.ok && success) = false) :
    Spec (Mild w) (BulkStream.finish x b success : Drv h .recover Bool) fun _ => Mild w := by
  unfold BulkStream.finish
  refine spec_ite (fun _ => spec_pure fun _ ht => ht) fun _ => ?_
  refine spec_bind (Q := fun _ => Mild w) ?_ fun _ => spec_bind (mild_stream _) fun _ =>
    spec_bind (mild_oci _) fun a => ?_
  · rintro t ⟨ha, -, hk⟩
    exact ⟨ha.trans (adds_one rfl (Or.inr (by rw [hs]))), fun hn => absurd hn hw, hk⟩
  · exact spec_ite (fun _ => spec_bind (mild_raised x _) fun _ => spec_pure fun _ ht => ht)
      fun _ => spec_pure fun _ ht => ht

lemma mild_terminate (b : BulkLoadState) (hw : w.conn.bulkLoad ≠ none) :
    Spec (Mild w) (BulkLoadState.terminate x b false : Drv h .recover Bool) fun _ => Mild w := by
  have ended (r : Bool × Bool) (hr : r.1 = false) : Spec (Mild w) (do
      let failed ← BulkStream.finish x b.stream (r.1 && r.2)
      return failed || !r.2 || (← pending x) : Drv h .recover Bool) fun _ => Mild w := by
    refine spec_bind (mild_finish x b.stream (r.1 && r.2) hw ?_) fun _ => fun t ht => ht
    rw [hr, Bool.false_and, Bool.and_false]
  unfold BulkLoadState.terminate
  refine spec_ite (fun _ => ?_) fun _ => ?_
  · refine spec_bind (Q := fun r t => r.1 = false ∧ Mild w t) ?_ fun r t ht => ended r ht.1 t ht.2
    refine spec_bind (mild_checkCancel x) fun c => ?_
    exact spec_bind (mild_checked x hh _ _) fun f => spec_pure fun t ht => ⟨rfl, ht⟩
  · refine spec_bind (Q := fun r t => r.1 = false ∧ Mild w t) (spec_pure fun t ht => ⟨rfl, ht⟩)
      fun r t ht => ?_
    exact ended r ht.1 t ht.2

omit hh in
lemma mild_conn {l : Level} : Spec (Mild w) (conn : Drv h l Conn) fun _ => Mild w :=
  fun t ht => ht.trans t.mild_touch

lemma mild_bulkLoadEnd : Spec (Mild w) (bulkLoadEnd x false : Drv h .recover Bool) fun _ => Mild w := by
  unfold bulkLoadEnd
  refine spec_bind (Q := fun b t => t.conn.bulkLoad = b ∧ Mild w t) ?_ fun b => ?_
  · exact fun t ht => ⟨rfl, ht.trans t.mild_touch⟩
  cases b with
  | none => exact spec_bind (fun t ht => ht.2.trans (t.mild_raise x _)) fun _ => spec_pure fun _ ht => ht
  | some b =>
    rintro t ⟨hb, ht⟩
    have hw : w.conn.bulkLoad ≠ none := fun hn => absurd (ht.none hn) (by rw [hb]; exact nofun)
    refine mild_terminate x hh b hw _ ?_
    exact ⟨ht.adds.trans (adds_same rfl), fun hn => absurd hn hw, Or.inr rfl⟩

lemma mild_deleteConnection : Spec (Mild w) (deleteConnection : Drv h .recover Unit)
    fun _ => Mild w := by
  unfold deleteConnection
  refine spec_bind (Q := fun _ => Mild w) (fun t ht => ht.trans t.mild_touch) fun b => ?_
  refine spec_ite (fun _ => ?_) fun _ => ?_
  · refine spec_bind (mild_bulkLoadEnd .dropped hh) fun _ => spec_bind (mild_session hh _) fun _ => ?_
    exact mild_move _ _ _ _ fun t => .same rfl rfl
  · exact spec_bind (mild_session hh _) fun _ => mild_move _ _ _ _ fun t => .same rfl rfl

lemma mild_abortConnection : Spec (Mild w) (abortConnection x : Drv h .recover Unit)
    fun _ => Mild w := by
  unfold abortConnection connectionAborted
  refine spec_bind (mild_calm hh _) fun _ => spec_bind mild_conn fun c => ?_
  refine spec_bind (Q := fun _ => Mild w) (fun t ht => ht.trans (.emit t (silent_session _ rfl)))
    fun _ => ?_
  refine spec_ite (fun _ => mild_move _ _ _ _ fun t => .conn t rfl) fun _ => ?_
  refine spec_bind (Q := fun _ => Mild w) (fun t ht => ht.trans (.emit t (silent_session _ rfl)))
    fun _ => ?_
  exact spec_bind (mild_calm hh _) fun _ => mild_deleteConnection hh

omit hh in
lemma mild_doException (who : String) (e : Answer) {l : Level} :
    Spec (Mild w) (doException x who e : Drv h l Unit) fun _ => Mild w := by
  unfold doException
  exact spec_bind (fun t ht => ht) fun _ => mild_raised x _

lemma mild_receiveTimeout (who : String) (e : Answer) :
    Spec (Mild w) (receiveTimeout x who e : Drv h .recover Unit) fun _ => Mild w := by
  have rest : Spec (Mild w) (do
      Drv.calm (clearStatements x none)
      Drv.calm (connectionLost x)
      Drv.up abandonSession
      if ← Drv.up (logon x) then
        abortConnection x
      else
        Drv.calm (connectionRecovered x) : Drv h .recover Unit) fun _ => Mild w := by
    refine spec_bind (mild_calm hh _) fun _ => spec_bind (mild_calm hh _) fun _ =>
      spec_bind (mild_session hh _) fun _ => ?_
    refine spec_bind (mild_session hh _) fun _ =>
      spec_ite (fun _ => mild_abortConnection x hh) fun _ => mild_calm hh _
  have lost : Spec (Mild w) (do
      if !(← conn).lost then
        Drv.up (replaced none)
      Drv.calm (clearStatements x none)
      Drv.calm (connectionLost x)
      Drv.up abandonSession
      if ← Drv.up (logon x) then
        abortConnection x
      else
        Drv.calm (connectionRecovered x) : Drv h .recover Unit) fun _ => Mild w := by
    refine spec_bind mild_conn fun c => spec_ite (fun _ => ?_) fun _ => rest
    exact spec_bind (mild_session hh _) fun _ => rest
  unfold receiveTimeout
  refine spec_bind (Q := fun _ => Mild w) (fun t ht => ht.trans (.emit t (silent_session _ rfl)))
    fun _ => ?_
  refine spec_bind (mild_doException x who e) fun _ => ?_
  refine spec_bind (Q := fun _ => Mild w) (fun t ht => ht.trans (t.mild_ask _)) fun a =>
    spec_ite (fun _ => ?_) fun _ => lost
  exact spec_bind (fun t ht => ht) fun _ => spec_bind (mild_raised x _) fun _ => lost

omit hh in
lemma mild_ping (e : Answer) {l : Level} : Spec (Mild w) (ping e : Drv h l Bool) fun _ => Mild w := by
  unfold ping
  refine spec_ite (fun _ => spec_pure fun _ ht => ht) fun _ => spec_bind mild_conn fun c => ?_
  exact spec_ite (fun _ => spec_pure fun _ ht => ht) fun _ => spec_bind (mild_oci _) fun a =>
    spec_pure fun _ ht => ht

lemma mild_findLoss (who : String) :
    Spec (Mild w) (findLoss x who false none : Drv h .recover (Option Answer)) fun _ => Mild w := by
  unfold findLoss
  refine spec_bind (mild_oci _) fun e => spec_bind mild_conn fun c => spec_ite (fun _ => ?_) fun _ => ?_
  · exact spec_bind (mild_doException x who e) fun _ => spec_pure fun _ ht => ht
  refine spec_ite (fun _ => ?_) fun _ => ?_
  · exact spec_bind (mild_receiveTimeout x hh who e) fun _ => spec_pure fun _ ht => ht
  refine spec_bind (Q := fun _ => Mild w) ?_ fun b => spec_ite (fun _ => ?_) fun _ => ?_
  · exact mild_ping e
  · exact spec_bind (mild_doException x who e) fun _ => spec_pure fun _ ht => ht
  · exact spec_bind (mild_session hh _) fun _ => spec_pure fun _ ht => ht

lemma mild_handleFailed (who : String) : Spec (Mild w) (handleFailed x who : Drv h .recover Unit)
    fun _ => Mild w := by
  unfold handleFailed
  refine spec_bind (mild_findLoss x hh who) fun r => ?_
  cases r with
  | none => exact spec_pure fun _ ht => ht
  | some e => exact spec_bind (mild_doException x who e) fun _ => mild_abortConnection x hh

end Handled

lemma handler_mild (n : ℕ) : ∀ x who w, Mild w (handler n x who w) := by
  induction n with
  | zero =>
    intro x who w
    exact (w.mild_raise x _).trans (.same rfl rfl)
  | succ n ih =>
    intro x who w
    rw [handler_succ]
    exact mild_handleFailed x ih who w (.refl w)

-- a load that is active is prepared, and its stream has the property
def Held (R : BulkStream → Prop) (w t : World) : Prop :=
  Adds World.log Harmless w t ∧ ∀ b, t.conn.bulkLoad = some b → b.prepared = true ∧ R b.stream

def Spoilt (s : BulkStream) : Prop := s.ok = false

section Rows

variable {R R' : BulkStream → Prop} {α : Type}

lemma Held.mild (ht : Held R w t) (hu : Mild t u) : Held R w u := by
  refine ⟨ht.1.trans hu.adds, fun b hb => ?_⟩
  rcases hu.kept with hk | hk
  · exact ht.2 b (hk.symm.trans hb)
  · exact absurd (hk.symm.trans hb) nofun

lemma held_mild {l : Level} {m : Drv h l α} (hm : ∀ w, Spec (Mild w) m fun _ => Mild w) :
    Spec (Held R w) m fun _ => Held R w := fun t ht => ht.mild (hm t t (.refl t))

lemma held_stream (e : StreamEvent) :
    Spec (Held R w) (Drv.load (.stream e) rfl rfl : Drv h .recover Unit) fun _ => Held R w :=
  held_mild fun _ => mild_stream e

lemma held_setBulk (f : BulkLoadState → BulkLoadState) (hp : ∀ b, (f b).prepared = b.prepared)
    (hf : ∀ b, R b.stream → R' (f b).stream) :
    Spec (Held R w) (setBulk f : Drv h .recover Unit) fun _ => Held R' w := by
  refine spec_bind (Q := fun _ => Held R w) (fun t ht => ht.mild t.mild_touch) fun _ => ?_
  rintro t ⟨ha, ht⟩
  refine ⟨ha.trans (adds_same rfl), fun b hb => ?_⟩
  obtain ⟨b', hb', rfl⟩ := Option.map_eq_some_iff.1 hb
  obtain ⟨hprep, hr⟩ := ht b' hb'
  exact ⟨(hp b').trans hprep, hf b' hr⟩

lemma held_setPath (f : DirectPath → DirectPath) :
    Spec (Held R w) (setBulk (BulkLoadState.setPath f) : Drv h .recover Unit) fun _ => Held R w :=
  held_setBulk _ (fun _ => rfl) fun _ hr => hr

lemma held_bulk : Spec (Held R w) (bulk : Drv h .recover (Option BulkLoadState)) fun _ => Held R w :=
  fun t ht => ht.mild t.mild_touch

lemma held_failRows (x : Sink) (e : Option Exn) :
    Spec (Held R w) (failRows x e : Drv h .recover Bool) fun r t => r = true ∧ Held Spoilt w t := by
  have spoil : Spec (Held R w) (setBulk BulkLoadState.setError : Drv h .recover Unit) fun _ =>
    Held Spoilt w :=
    held_setBulk _ (fun _ => rfl) fun _ _ => rfl
  refine spec_bind spoil fun _ => ?_
  cases e with
  | none => exact spec_pure fun _ ht => ⟨rfl, ht⟩
  | some e => exact spec_bind (held_mild fun _ => mild_raised x e) fun _ => spec_pure fun _ ht =>
      ⟨rfl, ht⟩

lemma passes_failRows (x : Sink) (e : Option Exn) :
    Passes (Held Spoilt w) (Held R w) (Held R' w) (failRows x e : Drv h .recover Bool) := by
  refine spec_weaken (held_failRows x e) (fun _ ht => ht) ?_
  rintro r t ⟨rfl, ht⟩
  exact ⟨fun _ => ht, nofun⟩

variable (x : Sink) (hh : ∀ x who w, Mild w (h x who w))
include hh

lemma held_checked (c : Call) (who : String) :
    Spec (Held R w) (checked x c who : Drv h .recover Bool) fun _ => Held R w :=
  held_mild fun _ => mild_checked x hh c who

lemma held_check (a : Answer) (who : String) :
    Spec (Held R w) (check x a who : Drv h .recover Bool) fun _ => Held R w :=
  held_mild fun _ => mild_check x hh a who

omit hh in
lemma held_oci (c : Call) : Spec (Held R w) (oci c : Drv h .recover Answer) fun _ => Held R w :=
  held_mild fun _ => mild_oci c

omit hh in
lemma held_checkCancel : Spec (Held R w) (checkCancel x : Drv h .recover Bool) fun _ => Held R w :=
  held_mild fun _ => mild_checkCancel x

omit hh in
lemma held_checkTurn (i : ℕ) : Spec (Held R w) (checkTurn x i : Drv h .recover Bool) fun _ => Held R w :=
  spec_ite (fun _ => held_checkCancel x) fun _ => spec_pure fun _ ht => ht

omit hh in
lemma held_stop {m k : Drv h .recover Bool} (hm : Spec (Held R w) m fun _ => Held R w)
    (hk : Spec (Held R w) k fun _ => Held R w) :
    Spec (Held R w) (m >>= fun b => if b = true then pure true else k) fun _ => Held R w :=
  spec_bind hm fun _ => spec_ite (fun _ => spec_pure fun _ ht => ht) fun _ => hk

lemma held_path (c : Call) (f : DirectPath → DirectPath) (who : String) :
    Spec (Held R w) (do
      let a ← oci c
      if a.ok then
        setBulk (BulkLoadState.setPath f)
      check x a who : Drv h .recover Bool) fun _ => Held R w := by
  refine spec_bind (held_oci c) fun a => spec_ite (fun _ => ?_) fun _ => held_check x hh a who
  exact spec_bind (held_setPath f) fun _ => held_check x hh a who

namespace BulkLoadState

lemma held_setRow (e : List BulkCell × ℕ) : Spec (Held R w) (setRow x e : Drv h .recover Bool)
    fun _ => Held R w :=
  held_stop (held_checkTurn x _) (spec_tryEach fun _ _ =>
    held_stop (held_checkTurn x _) (held_path x hh _ _ _))

lemma held_loadStream : Spec (Held R w) (loadStream x : Drv h .recover Bool) fun _ => Held R w := by
  refine held_stop (held_checkCancel x) (spec_bind (held_oci _) fun a => ?_)
  have load : Spec (Held R w)
      (do setBulk (setPath DirectPath.load); return false : Drv h .recover Bool) fun _ =>
        Held R w :=
    spec_bind (held_setPath _) fun _ => spec_pure fun _ ht => ht
  cases a.status with
  | success => exact load
  | successWithInfo => exact load
  | error => exact spec_bind (held_check x hh a _) fun _ => spec_pure fun _ ht => ht
  | _ => exact spec_bind (held_mild fun _ => mild_raised x _) fun _ => spec_pure fun _ ht => ht

omit hh in
lemma held_width : Spec (Held R w) (width : Drv h .recover ℕ) fun _ => Held R w :=
  spec_bind held_bulk fun _ => spec_pure fun _ ht => ht

lemma held_convert (n done : ℕ) : Spec (Held R w) (convert x n done : Drv h .recover (Option ℕ))
    fun _ => Held R w := by
  have fails (e : Exn) : Spec (Held R w) (do raise x e; return none : Drv h .recover (Option ℕ))
      fun _ => Held R w :=
    spec_bind (held_mild fun _ => mild_raised x e) fun _ => spec_pure fun _ ht => ht
  have whole : Spec (Held R w)
      (do setBulk (setPath (DirectPath.convert (← width) done (n - done))); return some n :
      Drv h .recover (Option ℕ)) fun _ => Held R w :=
    spec_bind held_width fun _ => spec_bind (held_setPath _) fun _ => spec_pure fun _ ht => ht
  unfold convert
  refine spec_bind (held_checkCancel x) fun _ => spec_ite (fun _ => spec_pure fun _ ht => ht) fun _ => ?_
  refine spec_bind (held_oci _) fun a => ?_
  cases a.status with
  | success => exact whole
  | successWithInfo => exact whole
  | continues =>
    refine spec_bind held_width fun _ => spec_bind (held_setPath _) fun _ =>
      spec_bind (held_checked x hh _ _) fun _ => ?_
    refine spec_ite (fun _ => spec_pure fun _ ht => ht) fun _ => spec_ite (fun _ => fails _) fun _ => ?_
    exact spec_pure fun _ ht => ht
  | error => exact spec_bind (held_check x hh a _) fun _ => spec_pure fun _ ht => ht
  | _ => exact fails _

lemma held_convertRows (n turns done : ℕ) :
    Spec (Held R w) (convertRows x n turns done : Drv h .recover Bool) fun _ => Held R w := by
  induction turns generalizing done with
  | zero =>
    unfold convertRows
    refine spec_ite (fun _ => ?_) fun _ => spec_pure fun _ ht => ht
    exact spec_bind (held_mild fun _ _ ht => ht.trans (.same rfl rfl)) fun _ => spec_pure fun _ ht => ht
  | succ turns ih =>
    unfold convertRows
    refine spec_ite (fun _ => spec_pure fun _ ht => ht) fun _ =>
      spec_bind (held_convert x hh n done) fun r => ?_
    cases r with
    | none => exact spec_pure fun _ ht => ht
    | some next =>
      refine held_stop (held_loadStream x hh) (spec_ite (fun _ => ?_) fun _ => ih next)
      exact held_stop (held_path x hh _ _ _) (ih next)

lemma held_loadChunk (cells : List (List BulkCell)) (offset n : ℕ) :
    Spec (Held R w) (loadChunk x cells offset n : Drv h .recover Bool) fun _ => Held R w := by
  have rest : Spec (Held R w) (do
      if ← tryEach (setRow x) ((List.range n).map fun row => (blockRow cells (offset + row), row)) then
        return true
      if ← convertRows x n n 0 then
        return true
      setBulk setUsed
      return false : Drv h .recover Bool) fun _ => Held R w := by
    refine held_stop (spec_tryEach fun e _ => held_setRow x hh e)
      (held_stop (held_convertRows x hh n n 0) ?_)
    exact spec_bind (held_setBulk setUsed (fun _ => rfl) fun _ hr => hr) fun _ =>
      spec_pure fun _ ht => ht
  unfold loadChunk
  refine spec_bind held_bulk fun b => spec_ite (fun _ => ?_) fun _ => rest
  exact held_stop (held_stop (held_path x hh _ _ _) (held_path x hh _ _ _)) rest

omit hh in
lemma held_capacity : Spec (Held R w) (capacity : Drv h .recover ℕ) fun _ => Held R w :=
  spec_bind held_bulk fun _ => spec_pure fun _ ht => ht

lemma spoils_loadChunks (cells : List (List BulkCell)) (count turns done : ℕ) :
    Passes (Held Spoilt w) (Held R w) (Held R w)
    (loadChunks x cells count turns done : Drv h .recover Bool) := by
  induction turns generalizing done with
  | zero =>
    unfold loadChunks
    refine spec_ite (fun _ => ?_) fun _ => passes_pure fun _ ht => ht
    exact spec_bind (held_mild fun _ _ ht => ht.trans (.same rfl rfl)) fun _ =>
      passes_pure fun _ ht => ht
  | succ turns ih =>
    unfold loadChunks
    refine spec_ite (fun _ => passes_pure fun _ ht => ht) fun _ => spec_bind held_capacity fun m => ?_
    refine spec_bind (held_loadChunk x hh cells done _) fun _ =>
      spec_ite (fun _ => passes_failRows x none) fun _ => ?_
    exact ih _

-- the error of a row block: no value comes with it
def Spoils {β : Type} (R : BulkStream → Prop) (w : World) (r : Option β) (t : World) : Prop :=
  (r = none → Held Spoilt w t) ∧ (r ≠ none → Held R w t)

omit hh in
lemma spoils_none {β : Type} (e : Option Exn) : Spec (Held R w) (do
    let _ ← failRows x e
    return none : Drv h .recover (Option β)) (Spoils R w) :=
  spec_bind (held_failRows x e) fun _ => spec_pure fun _ ht => ⟨fun _ => ht.2, fun hn => absurd rfl hn⟩

omit hh in
lemma spoils_some {β : Type} (b : β) :
    Spec (Held R w) (pure (some b) : Drv h .recover (Option β)) (Spoils R w) :=
  spec_pure fun _ ht => ⟨nofun, fun _ => ht⟩

omit hh in
lemma spoils_bind {β γ : Type} {m : Drv h .recover (Option β)} {f : Option β → Drv h .recover (Option γ)}
    (hm : Spec (Held R w) m (Spoils R w)) (hn : f none = pure none)
    (hf : ∀ b, Spec (Held R w) (f (some b)) (Spoils R w)) : Spec (Held R w) (m >>= f) (Spoils R w) := by
  refine spec_bind hm fun r => ?_
  cases r with
  | none =>
    rw [hn]
    exact spec_pure fun _ ht => ⟨fun _ => ht.1 rfl, fun hn => absurd rfl hn⟩
  | some b => exact spec_weaken (hf b) (fun _ ht => ht.2 nofun) fun _ _ ht => ht

omit hh in
lemma spoils_validate (rows : List (Text × QoreValue)) (columns : List (BulkColumn × ℕ))
    (count : Option ℕ) :
    Spec (Held R w) (validate x rows columns count : Drv h .recover _) (Spoils R w) := by
  induction columns generalizing count with
  | nil => exact spoils_some _
  | cons e columns ih =>
    obtain ⟨column, i⟩ := e
    unfold validate
    refine spec_bind (held_checkTurn x i) fun _ => spec_ite (fun _ => spoils_none x none) fun _ => ?_
    cases blockColumn rows column count with
    | error e => exact spoils_none x (some e)
    | ok r =>
      obtain ⟨v, count'⟩ := r
      exact spoils_bind (ih count') rfl fun _ => spoils_some _

omit hh in
lemma spoils_serializeRows (c : Setting) (column : BulkColumn) (v : QoreValue) (n row payload : ℕ) :
    Spec (Held R w) (serializeRows x c column v n row payload : Drv h .recover _) (Spoils R w) := by
  induction n generalizing row payload with
  | zero => exact spoils_some _
  | succ n ih =>
    unfold serializeRows
    refine spec_bind (held_checkTurn x row) fun _ => spec_ite (fun _ => spoils_none x none) fun _ => ?_
    cases serializeCell c column (rowValue v row) with
    | error e => exact spoils_none x (some e)
    | ok cell =>
      refine spec_ite (fun _ => spoils_none x (some payloadTooLarge)) fun _ => ?_
      exact spoils_bind (ih _ _) rfl fun _ => spoils_some _

omit hh in
lemma spoils_serializeColumns (c : Setting) (count : ℕ)
    (columns : List ((BulkColumn × QoreValue) × ℕ)) (payload : ℕ) :
    Spec (Held R w) (serializeColumns x c count columns payload : Drv h .recover _) (Spoils R w) := by
  induction columns generalizing payload with
  | nil => exact spoils_some _
  | cons e columns ih =>
    obtain ⟨⟨column, v⟩, i⟩ := e
    unfold serializeColumns
    refine spec_bind (held_checkTurn x i) fun _ => spec_ite (fun _ => spoils_none x none) fun _ => ?_
    refine spoils_bind (spoils_serializeRows x c column v count 0 payload) rfl fun r => ?_
    exact spoils_bind (ih r.2) rfl fun _ => spoils_some _

omit hh in
lemma spoils_addBytes (hr : ∀ n b, R b → R (BulkStream.setConsumed n b))
    (hr' : ∀ b, R b → R (BulkStream.setReported b))
    (bytes : ℕ) : Passes (Held Spoilt w) (Held R w) (Held R w)
      (BulkStream.addBytes x bytes : Drv h .recover Bool) := by
  unfold BulkStream.addBytes
  refine spec_bind held_bulk fun b => ?_
  cases b with
  | none => exact passes_pure fun _ ht => ht
  | some b =>
    refine spec_ite (fun _ => passes_pure fun _ ht => ht) fun _ => spec_ite (fun _ => ?_) fun _ => ?_
    · exact spec_bind (held_stream _) fun _ => passes_failRows x _
    refine spec_bind (held_setBulk _ (fun _ => rfl) fun _ hb => hr _ _ hb) fun _ => ?_
    refine spec_ite (fun _ => passes_pure fun _ ht => ht) fun _ => ?_
    refine spec_bind (held_setBulk _ (fun _ => rfl) fun _ hb => hr' _ hb) fun _ => ?_
    unfold BulkStream.reportProgress
    refine spec_bind (held_stream _) fun _ => ?_
    exact spec_bind (held_oci _) fun a => spec_ite (fun _ => passes_failRows x _) fun _ =>
      passes_pure fun _ ht => ht

-- a call of loadRows() that fails leaves the mark in the stream, and no other does
lemma spoils_loadRows (columns : List BulkColumn) (rows : List (Text × QoreValue)) (ok : Bool) :
    Passes (Held Spoilt w) (Held (·.ok = ok) w) (Held (·.ok = ok) w)
    (loadRows x columns rows : Drv h .recover Bool) := by
  unfold loadRows
  refine spec_ite (fun _ => passes_failRows x _) fun _ => ?_
  have after {β : Type} {o : Option β} {b : β} {m : Drv h .recover Bool} (ho : o = some b)
      (hm : Passes (Held Spoilt w) (Held (·.ok = ok) w) (Held (·.ok = ok) w) m) :
      Passes (Held Spoilt w) (fun t => (o = none → Held Spoilt w t) ∧
        (o ≠ none → Held (·.ok = ok) w t)) (Held (·.ok = ok) w) m :=
    spec_weaken hm (fun _ ht => ht.2 (by rw [ho]; exact nofun)) fun _ _ ht => ht
  refine spec_bind (spoils_validate x rows columns.zipIdx none) fun r => ?_
  cases r with
  | none => exact passes_true fun _ ht => ht.1 rfl
  | some r =>
    refine after rfl ?_
    refine spec_ite (fun _ => passes_pure fun _ ht => ht) fun _ => ?_
    unfold loadBlock
    refine spec_bind (held_mild fun _ _ ht => ht) fun c => ?_
    refine spec_bind (spoils_serializeColumns x c _ _ 0) fun u => ?_
    cases u with
    | none => exact passes_true fun _ ht => ht.1 rfl
    | some u =>
      refine after rfl ?_
      refine passes_then (spoils_loadChunks x hh u.1 _ _ 0) (spec_bind (held_stream _) fun _ => ?_)
      exact spoils_addBytes x (fun _ _ hb => hb) (fun _ hb => hb) u.2

end BulkLoadState

end Rows

-- what the log says of the last load: a failed block, the answer to its finish; `sound` of all loads
structure Tally where
  failed : Bool
  finished : Option Bool
  sound : Bool
deriving DecidableEq, Repr

namespace Tally

-- no load with a failed block is finished, and a load is reported as good if and only if its finish
-- succeeded
def note (e : Event) (s : Tally) : Tally :=
  match e with
  | .loadBegun => ⟨false, none, s.sound⟩
  | .rowsEnded ok => { s with failed := s.failed || !ok }
  | .finished a => { s with finished := some a.ok, sound := s.sound && !s.failed }
  | .streamEnded ok => { s with sound := s.sound && ok == (s.finished == some true) }
  | _ => s

def of (l : List Event) : Tally := l.foldr note ⟨false, none, true⟩

lemma note_silent {e : Event} (he : Silent e) (s : Tally) : s.note e = s := by
  obtain he | ⟨_, rfl⟩ := he
  · cases e with
    | loadBegun => exact absurd rfl he.2
    | rowsEnded => exact absurd rfl he.1
    | finished => exact absurd rfl he.1
    | streamEnded => exact absurd rfl he.1
    | _ => rfl
  · rfl

lemma note_given_up {s : Tally} (hs : s.finished ≠ some true) : s.note (.streamEnded false) = s := by
  have hf : (s.finished == some true) = false := beq_false_of_ne hs
  simp only [note, hf, beq_self_eq_true, Bool.and_true]

lemma of_silent {w t : World} (h : Adds World.log Silent w t) : of t.log = of w.log := by
  obtain ⟨l, hl, hs⟩ := h
  rw [hl]
  clear hl
  induction l with
  | nil => rfl
  | cons e l ih =>
    have he := note_silent (hs e List.mem_cons_self) (of (l ++ w.log))
    exact he.trans (ih fun f hf => hs f (List.mem_cons_of_mem _ hf))

lemma of_harmless {w t : World} (hw : (of w.log).finished ≠ some true)
    (h : Adds World.log Harmless w t) :
    of t.log = of w.log := by
  obtain ⟨l, hl, hs⟩ := h
  rw [hl]
  clear hl
  induction l with
  | nil => rfl
  | cons e l ih =>
    have hrest := ih fun f hf => hs f (List.mem_cons_of_mem _ hf)
    have hnote : (of (e :: (l ++ w.log))) = (of (l ++ w.log)).note e := rfl
    rcases hs e List.mem_cons_self with he | rfl
    · exact (hnote.trans (note_silent he _)).trans hrest
    · rw [List.cons_append, hnote, hrest, note_given_up hw]

end Tally

-- no load is active, and the log has the tally
def Over (T : Tally) (t : World) : Prop := t.conn.bulkLoad = none ∧ Tally.of t.log = T

lemma over_mild {α : Type} {l : Level} {m : Drv h l α} (hm : ∀ w, Spec (Mild w) m fun _ => Mild w)
    (T : Tally) :
    Spec (Over T) m fun _ => Over T := by
  intro t ht
  have hu := hm t t (.refl t)
  exact ⟨hu.none ht.1, (Tally.of_silent (hu.quiet ht.1)).trans ht.2⟩

section End

variable (x : Sink) (hh : ∀ x who w, Mild w (h x who w)) (T : Tally)

lemma over_finishPath : Spec (Over T) (BulkLoadState.finishPath : Drv h .recover Answer)
    fun a => Over (T.note (.finished a)) := by
  rintro t ⟨hb, hT⟩
  refine ⟨(congrArg Conn.bulkLoad t.touch_conn).trans hb, ?_⟩
  have hl : Tally.of t.touch.log = T := by rw [World.touch_log, hT]
  exact congrArg _ hl

lemma over_finish (s : BulkStream) (success : Bool)
    (hs : (T.note (.streamEnded (s.ok && success))).sound = T.sound) :
    Spec (Over T) (BulkStream.finish x s success : Drv h .recover Bool) fun _ t =>
      t.conn.bulkLoad = none ∧ (Tally.of t.log).sound = T.sound := by
  unfold BulkStream.finish
  refine spec_ite (fun _ => spec_pure fun t ht => ⟨ht.1, congrArg Tally.sound ht.2⟩) fun _ => ?_
  let T' := T.note (.streamEnded (s.ok && success))
  refine spec_bind (Q := fun _ => Over T') (fun t ht => ⟨ht.1, congrArg _ ht.2⟩) fun _ => ?_
  have told : ∀ t : World, Over T' t → t.conn.bulkLoad = none ∧ (Tally.of t.log).sound = T.sound :=
    fun t ht =>
    ⟨ht.1, (congrArg Tally.sound ht.2).trans hs⟩
  refine spec_bind (over_mild (fun _ => mild_stream _) T') fun _ => ?_
  refine spec_bind (over_mild (fun _ => mild_oci _) T') fun a => spec_ite (fun _ => ?_) fun _ =>
    spec_pure told
  exact spec_bind (over_mild (fun _ => mild_raised x _) T') fun _ => spec_pure told

lemma run_checkCancel {l : Level} (t : World) :
    ((checkCancel x : Drv h l Bool).run t).1 = (t.oracle t.tick).flag := by
  unfold checkCancel
  show ((if (t.oracle t.tick).flag = true then _ else _ : Drv h l Bool).run _).1 = _
  cases (t.oracle t.tick).flag with
  | true => rfl
  | false => rfl

lemma run_check {l : Level} (a : Answer) (who : String) (t : World) :
    ((check x a who : Drv h l Bool).run t).1 = !a.ok := by
  show (t.checkerr h x a who).1 = _
  unfold World.checkerr Answer.ok
  cases a.status <;> rfl

-- what closing the path has done, when the rows are to be finished and when they are not
def Closed (fin : Bool) (r : Bool × Bool) (t : World) : Prop :=
  (fin = false → r.1 = false ∧ Over T t) ∧
    (fin = true → ∃ a : Answer, r = (true, a.ok) ∧ Over (T.note (.finished a)) t)

include hh

lemma spec_closePath_closed (success : Bool) (t : World) (ht : Over T t) :
    let r := (BulkLoadState.closePath x success : Drv h .recover (Bool × Bool)).run t
    Closed T (success && !(t.oracle t.tick).flag) r.1 r.2 := by
  have hcancel := run_checkCancel (h := h) x (l := .recover) t
  have hover := over_mild (h := h) (fun _ => mild_checkCancel x (l := .recover)) T t ht
  generalize hfin : (success && !(t.oracle t.tick).flag) = fin
  unfold BulkLoadState.closePath
  rw [run_bind, hcancel, hfin]
  cases fin with
  | false =>
    have abort : Spec (Over T)
        (checked x .dirPathAbort "QoreOracleBulkLoadState::terminate() OCIDirPathAbort" :
        Drv h .recover Bool) fun _ => Over T := over_mild (fun _ => mild_checked x hh _ _) T
    exact ⟨fun _ => ⟨rfl, abort _ hover⟩, nofun⟩
  | true =>
    refine ⟨nofun, fun _ => ?_⟩
    rw [if_pos rfl, run_bind]
    have hfinish := over_finishPath (h := h) T _ hover
    generalize (BulkLoadState.finishPath : Drv h .recover Answer).run _ = u at hfinish ⊢
    have hcheck := over_mild (h := h) (l := .recover) (fun _ => mild_check x hh u.1
      "QoreOracleBulkLoadState::terminate() OCIDirPathFinish") (T.note (.finished u.1)) u.2 hfinish
    rw [run_bind, run_check]
    cases hok : u.1.ok with
    | true =>
      refine ⟨u.1, ?_, hcheck⟩
      rw [hok]
      rfl
    | false =>
      refine ⟨u.1, ?_, over_mild (fun _ => mild_oci .dirPathAbort) _ _ hcheck⟩
      rw [hok]
      rfl

-- the finish of a load with a failed block is what makes the log unsound
lemma spec_terminate_sound (b : BulkLoadState) (hp : b.prepared = true) (hT : T.finished = none)
    (hf : T.failed = !b.stream.ok) (success : Bool) (t : World) (ht : Over T t) :
    let r := (BulkLoadState.terminate x b success : Drv h .recover Bool).run t
    r.2.conn.bulkLoad = none ∧ ((Tally.of r.2.log).sound = true ↔
      T.sound = true ∧ (success = true → b.stream.ok = true ∨ (t.oracle t.tick).flag = true)) := by
  have hclosed := spec_closePath_closed x hh T success t ht
  unfold BulkLoadState.terminate
  rw [if_pos hp, run_bind]
  generalize (BulkLoadState.closePath x success : Drv h .recover (Bool × Bool)).run t = u at hclosed ⊢
  cases hfin : (success && !(t.oracle t.tick).flag) with
  | false =>
    obtain ⟨hr, hover⟩ := hclosed.1 hfin
    have hv : (b.stream.ok && (u.1.1 && u.1.2)) = false := by rw [hr, Bool.false_and, Bool.and_false]
    have hnote : (T.note (.streamEnded (b.stream.ok && (u.1.1 && u.1.2)))).sound = T.sound := by
      rw [hv, Tally.note_given_up (by rw [hT]; exact nofun)]
    obtain ⟨hn, hs⟩ := over_finish (h := h) x T b.stream (u.1.1 && u.1.2) hnote _ hover
    refine ⟨hn, (iff_of_eq (congrArg (· = true) hs)).trans ⟨fun h => ⟨h, ?_⟩, And.left⟩⟩
    intro hsucc
    rw [hsucc, Bool.true_and, Bool.not_eq_false'] at hfin
    exact Or.inr hfin
  | true =>
    obtain ⟨a, hr, hover⟩ := hclosed.2 hfin
    let T' := T.note (.finished a)
    have hsound : T'.sound = (T.sound && b.stream.ok) := by
      show (T.sound && !T.failed) = _
      rw [hf, Bool.not_not]
    have hnote : (T'.note (.streamEnded (b.stream.ok && (u.1.1 && u.1.2)))).sound = T'.sound := by
      show (T'.sound && (b.stream.ok && (u.1.1 && u.1.2)) == (some a.ok == some true)) = T'.sound
      rw [hr, hsound]
      cases b.stream.ok <;> cases a.ok <;> simp
    obtain ⟨hn, hs⟩ := over_finish (h := h) x T' b.stream (u.1.1 && u.1.2) hnote _ hover
    refine ⟨hn, (iff_of_eq (congrArg (· = true) (hs.trans hsound))).trans ?_⟩
    obtain ⟨hsucc, hflag⟩ := (Bool.and_eq_true _ _).mp hfin
    rw [Bool.not_eq_true'] at hflag
    rw [Bool.and_eq_true, hflag]
    refine and_congr_right fun _ => ⟨fun hok _ => Or.inl hok, fun h => (h hsucc).resolve_right nofun⟩

end End

-- a load that is active is prepared, not finished, and its stream tells if a block failed
def Tallied (w : World) : Prop :=
  ∀ b, w.conn.bulkLoad = some b → b.prepared = true ∧ (Tally.of w.log).finished = none ∧
    (Tally.of w.log).failed = !b.stream.ok

lemma tallied_none {w : World} (hw : w.conn.bulkLoad = none) : Tallied w :=
  fun _ hb => absurd (hb.symm.trans hw) nofun

lemma Tallied.same {w t : World} (hw : Tallied w) (hc : t.conn.bulkLoad = w.conn.bulkLoad)
    (hl : Tally.of t.log = Tally.of w.log) :
    Tallied t ∧ (Tally.of t.log).sound = (Tally.of w.log).sound := by
  refine ⟨fun b hb => ?_, by rw [hl]⟩
  rw [hl]
  exact hw b (hc.symm.trans hb)

lemma tallied_rowsEnded {R : BulkStream → Prop} {w u : World} (failed : Bool) (hu : Held R w u)
    (hfin : (Tally.of w.log).finished = none)
    (hR : ∀ s, R s → ((Tally.of w.log).failed || failed) = !s.ok) :
    Tallied (u.emit (.rowsEnded !failed)) ∧ (Tally.of (u.emit (.rowsEnded !failed)).log).sound =
      (Tally.of w.log).sound := by
  have hlog : Tally.of u.log = Tally.of w.log := Tally.of_harmless (by rw [hfin]; exact nofun) hu.1
  have hnote : Tally.of (u.emit (.rowsEnded !failed)).log = (Tally.of w.log).note
      (.rowsEnded !failed) := by
    rw [← hlog]
    rfl
  refine ⟨fun b hb => ?_, (congrArg Tally.sound hnote).trans rfl⟩
  obtain ⟨hprep, hr⟩ := hu.2 b hb
  rw [hnote]
  refine ⟨hprep, hfin, ?_⟩
  rw [← hR _ hr]
  show ((Tally.of w.log).failed || !!failed) = _
  rw [Bool.not_not]

section Calls

variable (x : Sink) (hh : ∀ x who w, Mild w (h x who w))

structure New (b : BulkLoadState) : Prop where
  prepared : b.prepared = true
  ok : b.stream.ok = true
  consumed : b.stream.consumed = 0
  reported : b.stream.reported = 0

lemma new_begin {b : BulkLoadState} (hb : New b) :
    Spec (fun _ => True) (BulkStream.begin x b : Drv h .calm (Option BulkLoadState))
      fun r _ => ∀ b', r = some b' → New b' := by
  unfold BulkStream.begin
  refine spec_ite (fun _ => spec_pure ?_) fun _ => spec_bind (spec_any _ _) fun a =>
    spec_ite (fun _ => ?_) fun _ => spec_pure ?_
  · rintro _ _ b' ⟨⟩
    exact hb
  · exact spec_bind (spec_any _ _) fun _ => spec_pure fun _ _ => nofun
  · rintro _ _ b' ⟨⟩
    exact ⟨hb.prepared, hb.ok, hb.consumed, hb.reported⟩

lemma new_open (columns : List BulkColumn) (streamBounds : Bool) :
    Spec (fun _ => True)
    (BulkLoadState.open_ x columns streamBounds : Drv h .calm (Option BulkLoadState))
      fun r _ => ∀ b, r = some b → New b := by
  have finish (b : Option BulkLoadState) (hb : ∀ b', b = some b' → New b') : Spec (fun _ => True) (do
      if b.isNone then
        let _ ← oci .dirPathAbort
      return b : Drv h .calm (Option BulkLoadState)) fun r _ => ∀ b', r = some b' → New b' := by
    refine spec_ite (fun _ => spec_bind (spec_any _ _) fun _ => ?_) fun _ => ?_
    · exact spec_pure fun _ _ => hb
    · exact spec_pure fun _ _ => hb
  unfold BulkLoadState.open_
  refine spec_bind (spec_any _ _) fun c => spec_bind (spec_any _ _) fun m => ?_
  cases m with
  | none => exact finish none nofun
  | some m => exact spec_bind (new_begin x ⟨rfl, rfl, rfl, rfl⟩) fun r t hr => finish r hr t trivial

lemma new_initializeLoad (table : Text) (columns : List QoreValue) (streamBounds : Bool) :
    Spec (fun _ => True) (BulkLoadState.initializeLoad x table columns streamBounds : Drv h .calm _)
      fun r _ => ∀ b, r = .ok b → New b := by
  have failed (r : Begun) : Spec (fun _ => True)
      (pure (.error r) : Drv h .calm (Except Begun BulkLoadState))
      fun r _ => ∀ b, r = .ok b → New b := spec_pure fun _ _ => nofun
  unfold BulkLoadState.initializeLoad
  refine spec_bind (spec_any _ _) fun n =>
    spec_ite (fun _ => spec_bind (spec_any _ _) fun _ => failed _) fun _ => ?_
  refine spec_ite (fun _ => spec_bind (spec_any _ _) fun _ => failed _) fun _ => ?_
  refine spec_bind (spec_any _ _) fun _ => spec_ite (fun _ => failed _) fun _ =>
    spec_bind (spec_any _ _) fun c => ?_
  refine spec_bind (spec_any _ _) fun _ => spec_ite (fun _ => failed _) fun _ =>
    spec_bind (spec_any _ _) fun r => ?_
  cases r with
  | error r => exact failed r
  | ok columns =>
    refine spec_bind (spec_any _ _) fun _ => spec_ite (fun _ => failed _) fun _ => ?_
    refine spec_bind (spec_any _ _) fun _ => spec_ite (fun _ => failed _) fun _ => ?_
    refine spec_bind (new_open x columns streamBounds) fun r => ?_
    cases r with
    | none => exact spec_weaken (failed _) (fun _ _ => trivial) fun _ _ ht => ht
    | some b =>
      refine spec_pure fun _ hb => ?_
      rintro b' ⟨⟩
      exact hb b rfl

include hh

omit hh in
lemma tally_begun (s : BulkStream) (t : World) :
    Tally.of ((BulkStream.begun s : Drv h .all Unit).run t).2.log = Tally.of t.log := by
  unfold BulkStream.begun
  split <;> rfl

lemma tallied_begin (table : Text) (columns : List QoreValue)
    (o : Option (List (Text × QoreValue))) (w : World)
    (hw : Tallied w) :
    let t := ((bulkLoadBegin x table columns o : Drv h .all Begun).run w).2
    Tallied t ∧ (Tally.of t.log).sound = (Tally.of w.log).sound := by
  unfold bulkLoadBegin
  rw [run_bind]
  have hb : ((Drv.up bulk : Drv h .all (Option BulkLoadState)).run w).1 = w.touch.conn.bulkLoad := rfl
  rw [hb, w.touch_conn]
  cases hload : w.conn.bulkLoad with
  | some b =>
    have hraise : Extends Silent w (w.touch.raise x loadActive) :=
      (w.extends_touch).trans (World.extends_raise x loadActive _)
    have hconn : (w.touch.raise x loadActive).conn.bulkLoad = w.conn.bulkLoad := by
      rw [← w.touch_conn]
      cases x <;> rfl
    exact hw.same hconn (Tally.of_silent hraise.adds)
  | none =>
    have ht : Over (Tally.of w.log) w.touch := ⟨by rwa [w.touch_conn], by rw [w.touch_log]⟩
    cases readOptions o with
    | error e =>
      obtain ⟨hn, hT⟩ := over_mild (h := h) (l := .all) (fun _ => mild_raised x e) _ _ ht
      exact ⟨tallied_none hn, congrArg Tally.sound hT⟩
    | ok streamBounds =>
      let u := (BulkLoadState.initializeLoad x table columns streamBounds : Drv h .calm _).run w.touch
      have hover : Over (Tally.of w.log) u.2 :=
        over_mild (fun w t ht => ht.trans (Drv.mild (by decide) hh _ t)) _ _ ht
      have hnew : ∀ b, u.1 = .ok b → New b := new_initializeLoad x table columns streamBounds _ trivial
      have hu : (Drv.up (BulkLoadState.initializeLoad x table columns streamBounds) : Drv h .all _).run
          ((Drv.up bulk : Drv h .all (Option BulkLoadState)).run w).2 = u := rfl
      simp only [Option.isSome_none, Bool.false_eq_true, if_false, run_bind, hu]
      cases hr : u.1 with
      | error r => exact ⟨tallied_none hover.1, congrArg Tally.sound hover.2⟩
      | ok b =>
        have hT : Tally.of ((BulkStream.begun b.stream : Drv h .all Unit).run u.2.touch).2.log =
            Tally.of w.log :=
          (tally_begun b.stream u.2.touch).trans (by rw [u.2.touch_log, hover.2])
        refine ⟨?_, (congrArg Tally.sound (congrArg (Tally.note .loadBegun) hT)).trans rfl⟩
        rintro b' ⟨⟩
        obtain ⟨hprep, hok, -, -⟩ := hnew b hr
        refine ⟨hprep, rfl, ?_⟩
        rw [hok]
        rfl

lemma tallied_rows (rows : List (Text × QoreValue)) (w : World) (hw : Tallied w) :
    let t := ((bulkLoadRows x rows : Drv h .recover Bool).run w).2
    Tallied t ∧ (Tally.of t.log).sound = (Tally.of w.log).sound := by
  have idle : Spec (Over (Tally.of w.log)) (do raise x noLoad; return true : Drv h .recover Bool)
      fun _ => Over (Tally.of w.log) :=
    over_mild (fun _ => spec_bind (mild_raised x _) fun _ => spec_pure fun _ ht => ht) _
  unfold bulkLoadRows
  rw [run_bind]
  have hb : ((bulk : Drv h .recover (Option BulkLoadState)).run w).1 = w.touch.conn.bulkLoad := rfl
  rw [hb, w.touch_conn]
  cases hload : w.conn.bulkLoad with
  | none =>
    have ht : Over (Tally.of w.log) w.touch := ⟨by rwa [w.touch_conn], by rw [w.touch_log]⟩
    obtain ⟨hn, hT⟩ := idle _ ht
    exact ⟨tallied_none hn, congrArg Tally.sound hT⟩
  | some b =>
    obtain ⟨hprep, hfin, hfailed⟩ := hw b hload
    have hheld : Held (·.ok = b.stream.ok) w w.touch := by
      refine ⟨adds_same w.touch_log, fun b' hb' => ?_⟩
      rw [w.touch_conn, hload] at hb'
      obtain rfl := Option.some.inj hb'
      exact ⟨hprep, rfl⟩
    let u := (BulkLoadState.loadRows x b.columns rows : Drv h .recover Bool).run w.touch
    have hrows : (u.1 = true → Held Spoilt w u.2) ∧ (u.1 = false → Held (·.ok = b.stream.ok) w u.2) :=
      BulkLoadState.spoils_loadRows x hh b.columns rows b.stream.ok _ hheld
    show Tallied (u.2.emit (.rowsEnded !u.1)) ∧
      (Tally.of (u.2.emit (.rowsEnded !u.1)).log).sound = (Tally.of w.log).sound
    cases hu₁ : u.1 with
    | true =>
      refine tallied_rowsEnded true (hrows.1 hu₁) hfin fun s hs => ?_
      rw [Bool.or_true, hs]
      rfl
    | false =>
      refine tallied_rowsEnded false (hrows.2 hu₁) hfin fun s hs => ?_
      rw [Bool.or_false, hfailed, hs]

lemma sound_end (success : Bool) (w : World) (hw : Tallied w) :
    let t := ((bulkLoadEnd x success : Drv h .recover Bool).run w).2
    t.conn.bulkLoad = none ∧ ((Tally.of t.log).sound = true ↔ (Tally.of w.log).sound = true ∧
      (success = true → ∀ b, w.conn.bulkLoad = some b → b.stream.ok = true ∨
        (w.oracle w.tick).flag = true)) := by
  have idle : Spec (Over (Tally.of w.log)) (do raise x noLoad; return true : Drv h .recover Bool)
      fun _ => Over (Tally.of w.log) :=
    over_mild (fun _ => spec_bind (mild_raised x _) fun _ => spec_pure fun _ ht => ht) _
  unfold bulkLoadEnd
  rw [run_bind]
  have hb : ((bulk : Drv h .recover (Option BulkLoadState)).run w).1 = w.touch.conn.bulkLoad := rfl
  rw [hb, w.touch_conn]
  cases hload : w.conn.bulkLoad with
  | none =>
    have ht : Over (Tally.of w.log) w.touch := ⟨by rwa [w.touch_conn], by rw [w.touch_log]⟩
    obtain ⟨hn, hT⟩ := idle _ ht
    refine ⟨hn, (iff_of_eq (congrArg (fun T => T.sound = true) hT)).trans ⟨fun h =>
      ⟨h, fun _ b hb => ?_⟩, And.left⟩⟩
    exact absurd hb nofun
  | some b =>
    obtain ⟨hprep, hfin, hfailed⟩ := hw b hload
    have ht : Over (Tally.of w.log) w.touch.endLoad := ⟨rfl, congrArg Tally.of w.touch_log⟩
    obtain ⟨hn, hs⟩ := spec_terminate_sound x hh (Tally.of w.log) b hprep hfin hfailed success _ ht
    refine ⟨hn, hs.trans (and_congr_right fun _ => forall_congr' fun _ => ?_)⟩
    have horacle : (w.touch.endLoad.oracle w.touch.endLoad.tick).flag = (w.oracle w.tick).flag := by
      unfold World.touch
      split <;> rfl
    rw [horacle]
    refine ⟨fun h b' hb' => ?_, fun h => h b rfl⟩
    obtain rfl := Option.some.inj hb'
    exact h

end Calls

inductive BulkCall where
  | begin (table : Text) (columns : List QoreValue) (o : Option (List (Text × QoreValue)))
  | rows (block : List (Text × QoreValue))
  | finish (success : Bool)

def BulkCall.op : BulkCall → Op
  | .begin table columns o => .call (.bulkLoadBegin table columns o)
  | .rows block => .call (.bulkLoadRows block)
  | .finish success => .call (.bulkLoadEnd success)

-- a success is not claimed for a load with a failed block, or the claim is interrupted
def Fair (w : World) : BulkCall → Prop
  | .finish true => w.alive = true → ∀ b, w.conn.bulkLoad = some b → b.stream.ok = true ∨
      (w.oracle w.tick).flag = true
  | _ => True

def FairRun (m n : ℕ) : World → List BulkCall → Prop
  | _, [] => True
  | w, c :: calls => Fair w c ∧ FairRun m n (w.step m n c.op) calls

lemma sound_step (m n : ℕ) (c : BulkCall) (w : World) (hw : Tallied w) :
    Tallied (w.step m n c.op) ∧ ((Tally.of (w.step m n c.op).log).sound = true ↔
      (Tally.of w.log).sound = true ∧ Fair w c) := by
  unfold World.step
  by_cases ha : w.alive = true
  · rw [if_pos ha]
    have hw' : Tallied { w with xsink := [] } := hw
    cases c with
    | begin table columns o =>
      obtain ⟨ht, hs⟩ := tallied_begin .main (handler_mild m) table columns o _ hw'
      exact ⟨ht, (iff_of_eq (congrArg (· = true) hs)).trans ⟨fun h => ⟨h, trivial⟩, And.left⟩⟩
    | rows block =>
      obtain ⟨ht, hs⟩ := tallied_rows .main (handler_mild m) block _ hw'
      exact ⟨ht, (iff_of_eq (congrArg (· = true) hs)).trans ⟨fun h => ⟨h, trivial⟩, And.left⟩⟩
    | finish success =>
      obtain ⟨hn, hs⟩ := sound_end .main (handler_mild m) success _ hw'
      refine ⟨tallied_none hn, hs.trans (and_congr_right fun _ => ?_)⟩
      cases success with
      | true => exact ⟨fun h _ => h rfl, fun h _ => h ha⟩
      | false => exact ⟨fun _ => trivial, fun _ => nofun⟩
  · rw [if_neg ha]
    refine ⟨hw, fun hs => ⟨hs, ?_⟩, And.left⟩
    cases c with
    | finish success =>
      cases success with
      | true => exact fun halive => absurd halive ha
      | false => trivial
    | _ => trivial

lemma sound_run (m n : ℕ) (calls : List BulkCall) (w : World) (hw : Tallied w) :
    (Tally.of (w.run m n (calls.map BulkCall.op)).log).sound = true ↔
      (Tally.of w.log).sound = true ∧ FairRun m n w calls := by
  induction calls generalizing w with
  | nil => exact ⟨fun hs => ⟨hs, trivial⟩, And.left⟩
  | cons c calls ih =>
    obtain ⟨ht, hs⟩ := sound_step m n c w hw
    exact (ih _ ht).trans ((and_congr_left fun _ => hs).trans and_assoc)

/-- The loads of every run of calls are reported as they ended if and only if no success is claimed
after a failure. -/
theorem loads_sound_iff (m n : ℕ) (c : Setting) (oracle : ℕ → Answer) (calls : List BulkCall) :
    (Tally.of ((World.start c oracle).run m n (calls.map BulkCall.op)).log).sound = true ↔
      FairRun m n (World.start c oracle) calls :=
  (sound_run m n calls _ (tallied_none rfl)).trans ⟨And.right, fun h => ⟨rfl, h⟩⟩

-- a table with one column, and an observer
def observedSetting : Setting :=
  { plainSetting with
    observer := true
    metadata := fun _ => ⟨none, [⟨['A'], some .numeric, 22, 0, 0⟩]⟩ }

-- a block without the column, and a success that is claimed all the same
def claimedSuccess : List BulkCall :=
  [.begin ['T'] [.string ⟨['A'], 0⟩] none, .rows [(['B'], .int 1)], .finish true]

theorem not_loads_sound_claimed :
    (Tally.of ((World.start observedSetting fun i => ⟨.success, 0, "", 1, i == 0⟩).run 1 1
      (claimedSuccess.map BulkCall.op)).log).sound = false := by
  decide

end OracleDriver
