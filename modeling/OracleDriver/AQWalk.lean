import OracleDriver.AQQueue

/-! What holds between the calls on a queue, from what the functions keep that the calls are made of. -/

namespace OracleDriver

open Act AQ AQQueuePriv

variable {i : ℕ} {α : Type} {P Any On Off : Process → Prop}

-- what changes no queue but `i`
structure Alters (i : ℕ) (f : Process → Process) (g : Process → AQQueuePriv → AQQueuePriv) : Prop where
  answer : ∀ p, (f p).answer = p.answer
  stray : ∀ p, (f p).stray = p.stray
  missing : ∀ p, (f p).missing = p.missing
  objects : ∀ p, (f p).objects = p.objects
  count : ∀ p, (f p).count = p.count
  tid : ∀ p, (f p).tid = p.tid
  failed : ∀ p, (f p).failed = p.failed
  here : ∀ p, (f p).queue i = g p (p.queue i)
  others : ∀ p j, j ≠ i → (f p).queue j = p.queue j

lemma alters_setQueue (f : AQQueuePriv → AQQueuePriv) : Alters i (·.setQueue i f) fun _ => f where
  answer _ := rfl
  stray _ := rfl
  missing _ := rfl
  objects _ := rfl
  count _ := rfl
  tid _ := rfl
  failed _ := rfl
  here _ := Function.update_self ..
  others _ _ hj := Function.update_of_ne hj ..

lemma alters_logon :
    Alters i (·.logon i) fun p q => { q with session := p.nextSession, tinfs := [] } where
  answer _ := rfl
  stray _ := rfl
  missing _ := rfl
  objects _ := rfl
  count _ := rfl
  tid _ := rfl
  failed _ := rfl
  here _ := Function.update_self ..
  others _ _ hj := Function.update_of_ne hj ..

lemma alters_openConn : Alters i (·.openConn i) fun p q =>
    { q with session := p.nextSession, tinfs := [], ds := some p.nextConn, conn := some p.nextConn } where
  answer _ := rfl
  stray _ := rfl
  missing _ := rfl
  objects _ := rfl
  count _ := rfl
  tid _ := rfl
  failed _ := rfl
  here _ := by simp [Process.openConn, Process.logon, Process.setQueue]
  others _ _ hj := by simp [Process.openConn, Process.logon, Process.setQueue, hj]

lemma alters_getTypeInfo : Alters i (·.getTypeInfo i) fun p q =>
    { q with typeInfo := true, typeInfoOf := p.nextTypeInfo, tinfs := q.tinfs ++ [p.nextTypeInfo] } where
  answer _ := rfl
  stray _ := rfl
  missing _ := rfl
  objects _ := rfl
  count _ := rfl
  tid _ := rfl
  failed _ := rfl
  here _ := Function.update_self ..
  others _ _ hj := Function.update_of_ne hj ..

lemma alters_number : Alters i (fun p =>
    { p.setQueue i fun q => { q with sandbox := true, subscription := p.lastSubscription + 1 } with
      lastSubscription := p.lastSubscription + 1 })
    fun p q => { q with sandbox := true, subscription := p.lastSubscription + 1 } where
  answer _ := rfl
  stray _ := rfl
  missing _ := rfl
  objects _ := rfl
  count _ := rfl
  tid _ := rfl
  failed _ := rfl
  here _ := Function.update_self ..
  others _ _ hj := Function.update_of_ne hj ..

-- what changes neither a connection nor a handle
def Books (f : Process → Process) : Prop :=
  ∀ p, (f p).answer = p.answer ∧ (f p).stray = p.stray ∧ (f p).missing = p.missing ∧ ∀ j, ∃ h n s,
    (f p).queue j = { p.queue j with hasSubscription := h, subscription := n, sandbox := s }

lemma books_aside {f : Process → Process}
    (hf : ∀ p, (f p).queue = p.queue ∧ (f p).stray = p.stray ∧ (f p).missing = p.missing ∧
      (f p).answer = p.answer) : Books f := by
  intro p
  obtain ⟨hq, hs, hm, ha⟩ := hf p
  exact ⟨ha, hs, hm, fun j => ⟨_, _, _, congrFun hq j⟩⟩

lemma books_alters {f : Process → Process} {g : Process → AQQueuePriv → AQQueuePriv} (hf : Alters i f g)
    (hg : ∀ p q, ∃ h n s, g p q = { q with hasSubscription := h, subscription := n, sandbox := s }) :
    Books f := by
  refine fun p => ⟨hf.answer p, hf.stray p, hf.missing p, fun j => ?_⟩
  by_cases hj : j = i
  · rw [hj, hf.here]
    exact hg p (p.queue i)
  · exact ⟨_, _, _, hf.others p j hj⟩

lemma books_setQueue (f : AQQueuePriv → AQQueuePriv)
    (hf : ∀ q, ∃ h n s, f q = { q with hasSubscription := h, subscription := n, sandbox := s }) :
    Books (·.setQueue i f) := books_alters (alters_setQueue f) fun _ => hf

lemma books_dec : Books Process.dec := by
  apply books_aside
  intro p
  unfold Process.dec Process.ensure
  dsimp only
  split <;> split <;> exact ⟨rfl, rfl, rfl, rfl⟩

lemma books_inc : Books Process.inc := by
  apply books_aside
  intro p
  unfold Process.inc Process.ensure
  split
  · split <;> exact ⟨rfl, rfl, rfl, rfl⟩
  · exact ⟨rfl, rfl, rfl, rfl⟩

lemma books_remove (j : ℕ) : Books (·.remove j) := by
  apply books_aside
  intro p
  unfold Process.remove Process.ensure
  dsimp only
  split <;> split <;> exact ⟨rfl, rfl, rfl, rfl⟩

lemma books_ensure (b : Bool) : Books (·.ensure b) := by
  apply books_aside
  intro p
  cases b <;> exact ⟨rfl, rfl, rfl, rfl⟩

lemma spec_queue {f : AQQueuePriv → AQ α} {S : α → Process → Prop} (h : ∀ q, Spec P (f q) S) :
    Spec P (AQ.queue i >>= f) S :=
  fun p hp => h (p.queue i) p hp

-- what the client and the bookkeeping leave as it is
structure Stable (i : ℕ) (P : Process → Prop) : Prop where
  ask : ∀ c, Spec P (AQ.ask c) fun _ => P
  use : Spec P (AQ.use i) fun _ => P
  books : ∀ f, Books f → Spec P (AQ.modify f) fun _ => P

namespace Stable

variable (hs : Stable i P)
include hs

lemma call (c : AQCall) : Spec P (AQQueuePriv.call i c) fun _ => P := spec_bind hs.use fun _ => hs.ask c

lemma calls (cs : List AQCall) : Spec P (AQQueuePriv.calls i cs) fun _ => P :=
  spec_tryEach fun c _ => spec_bind (hs.call c) fun _ => spec_pure fun _ hp => hp

lemma note (f : AQQueuePriv → AQQueuePriv)
    (hf : ∀ q, ∃ h n s, f q = { q with hasSubscription := h, subscription := n, sandbox := s }) :
    Spec P (AQ.setQueue i f) fun _ => P := hs.books _ (books_setQueue f hf)

lemma managerAdd : Spec P (AQQueuePriv.managerAdd i) fun _ => P := by
  have aside : ∀ f : Process →
      Process, (∀ p, (f p).queue = p.queue ∧ (f p).stray = p.stray ∧ (f p).missing = p.missing ∧
      (f p).answer = p.answer) → Spec P (AQ.modify f) fun _ => P :=
        fun f hf => hs.books f (books_aside hf)
  refine spec_bind (aside _ fun _ => ⟨rfl, rfl, rfl, rfl⟩) fun _ =>
    spec_bind (Q := fun _ => P) (fun _ hp => hp) fun p => ?_
  refine spec_ite (fun _ => spec_pure fun _ hp => hp) fun _ => spec_bind (hs.ask _) fun b =>
    spec_ite (fun _ => ?_) fun _ => ?_
  · exact spec_bind (aside _ fun _ => ⟨rfl, rfl, rfl, rfl⟩) fun _ => spec_pure fun _ hp => hp
  · exact spec_bind (aside _ fun _ => ⟨rfl, rfl, rfl, rfl⟩) fun _ => spec_pure fun _ hp => hp

lemma endSubscription : Spec P (endSubscriptionUnlocked i) fun _ => P :=
  spec_bind (hs.note _ fun _ => ⟨_, _, _, rfl⟩) fun _ => hs.books _ books_dec

lemma stopSubscription (r : Bool) : Spec P (stopSubscriptionUnlocked i r) fun _ => P := by
  have number : Spec P (AQ.setQueue i fun q => { q with subscription := 0 }) fun _ => P :=
    hs.note _ fun _ => ⟨_, _, _, rfl⟩
  have flag : Spec P (AQ.setQueue i fun q => { q with hasSubscription := false }) fun _ => P :=
    hs.note _ fun _ => ⟨_, _, _, rfl⟩
  refine spec_queue fun q => spec_bind (hs.books _ (books_ensure _)) fun _ => ?_
  cases r with
  | true =>
    refine spec_bind number fun _ => spec_bind (hs.call _) fun _ =>
      spec_bind (hs.books _ books_dec) fun _ => ?_
    exact spec_bind flag fun _ => spec_pure fun _ hp => hp
  | false => exact spec_bind (hs.call _) fun _ => spec_bind flag fun _ => spec_pure fun _ hp => hp

end Stable

-- without an error the queue has a connection
def Tried (Any On : Process → Prop) (r : Bool) (p : Process) : Prop := Any p ∧ (r = false → On p)

lemma tried_error : Spec Any (pure true : AQ Bool) (Tried Any On) := spec_pure fun _ hp => ⟨hp, nofun⟩

lemma tried_then {m : AQ Bool} {f e : AQ α} {S : α → Process → Prop} (hm : Spec P m (Tried Any On))
    (he : Spec Any e S)
    (hf : Spec On f S) : Spec P (m >>= fun r => if r = true then e else f) S := by
  refine spec_bind hm fun r => spec_ite (fun _ => ?_) fun hr => ?_
  · exact spec_weaken he (fun _ hp => hp.1) fun _ _ hp => hp
  · exact spec_weaken hf (fun _ hp => hp.2 (eq_false_of_ne_true hr)) fun _ _ hp => hp

-- `Any` holds between the calls on queue `i`, and `On` in a call while the queue has a connection
structure CallsKeep (i : ℕ) (Any On : Process → Prop) : Prop where
  any : ∀ p, On p → Any p
  ask : ∀ c, Spec On (AQ.ask c) fun _ => On
  use : Spec On (AQ.use i) fun _ => On
  checkValid : Spec Any (checkValidUnlocked i) (Tried Any On)
  openEnqueue : Spec On (openEnqueue i) fun _ => On
  checkDequeue : Spec On (checkDequeueUnlocked i) fun _ => On
  reconnect : Spec On (reconnectUnlocked i) (Tried Any On)
  handled : Spec On (handled i) fun _ => On

section Calls

variable (hk : CallsKeep i Any On)
include hk

lemma kept_done : Spec On (pure () : AQ Unit) fun _ => Any := spec_pure hk.any

lemma kept_call (c : AQCall) : Spec On (call i c) fun _ => On := spec_bind hk.use fun _ => hk.ask c

lemma kept_calls (cs : List AQCall) : Spec On (calls i cs) fun _ => On :=
  spec_tryEach fun c _ => spec_bind (kept_call hk c) fun _ => spec_pure fun _ hp => hp

-- a call that gives up when the queue has no connection
lemma kept_checked {m : AQ Unit} (hm : Spec On m fun _ => Any) :
    Spec Any (checkValidUnlocked i >>= fun r => if r = true then pure () else m) fun _ => Any :=
  tried_then hk.checkValid (spec_pure fun _ hp => hp) hm

lemma kept_post : Spec Any (post i) fun _ => Any := by
  have put : Spec On (do let _ ← call i .enqueuePut) fun _ => Any :=
    spec_bind (kept_call hk _) fun _ => kept_done hk
  refine kept_checked hk (spec_bind hk.openEnqueue fun b => spec_ite (fun _ => kept_done hk) fun _ => ?_)
  refine spec_bind (hk.ask _) fun b => spec_ite (fun _ => kept_done hk) fun _ => ?_
  refine spec_bind (kept_calls hk _) fun b => spec_ite (fun _ => kept_done hk) fun _ => ?_
  refine spec_bind (hk.ask _) fun b => spec_ite (fun _ => ?_) fun _ => put
  exact spec_bind (kept_calls hk _) fun b => spec_ite (fun _ => kept_done hk) fun _ => put

lemma kept_postHash : Spec Any (postHash i) fun _ => Any := by
  refine kept_checked hk (spec_bind hk.openEnqueue fun b => spec_ite (fun _ => kept_done hk) fun _ => ?_)
  exact spec_bind (kept_calls hk _) fun _ => kept_done hk

lemma kept_readMessage : Spec On (readMessage i) fun _ => Any := by
  refine spec_bind (kept_call hk _) fun b => spec_ite (fun _ => ?_) fun _ => kept_done hk
  refine spec_bind hk.handled fun _ => ?_
  exact spec_weaken hk.use (fun _ hp => hp) fun _ p hp => hk.any p hp

lemma kept_dequeueMessage (turns : ℕ) : Spec On (dequeueMessage i turns) fun _ => Any := by
  induction turns with
  | zero => exact kept_done hk
  | succ turns ih =>
    refine spec_bind (kept_call hk _) fun b => spec_ite (fun _ => kept_readMessage hk) fun _ => ?_
    refine spec_bind (hk.ask _) fun b => spec_ite (fun _ => ?_) fun _ => kept_done hk
    refine spec_bind (kept_call hk _) fun b => spec_ite (fun _ => ?_) fun _ => kept_done hk
    refine tried_then hk.reconnect (spec_pure fun _ hp => hp) ?_
    exact spec_bind hk.checkDequeue fun b => spec_ite (fun _ => ih) fun _ => kept_done hk

lemma kept_getMessage (turns : ℕ) : Spec Any (getMessage i turns) fun _ => Any := by
  refine kept_checked hk (spec_bind hk.checkDequeue fun b =>
    spec_ite (fun _ => kept_done hk) fun _ => ?_)
  refine spec_bind (kept_call hk _) fun b => spec_ite (fun _ => kept_done hk) fun _ => ?_
  exact kept_dequeueMessage hk turns

lemma kept_commit : Spec Any (commit i) fun _ => Any :=
  kept_checked hk (spec_weaken hk.handled (fun _ hp => hp) fun _ p hp => hk.any p hp)

lemma kept_rollback : Spec Any (rollback i) fun _ => Any :=
  kept_checked hk (spec_weaken hk.handled (fun _ hp => hp) fun _ p hp => hk.any p hp)

end Calls

-- the same from what connecting and disconnecting keep; `Off` holds when the queue has been disconnected
structure HandlesKeep (i : ℕ) (Any On Off : Process → Prop) : Prop where
  any : ∀ p, On p → Any p
  on : ∀ p, Any p → (p.queue i).valid = true → (p.queue i).conn ≠ none → On p
  off : ∀ p, Any p → (p.queue i).valid = true → (p.queue i).conn = none → Off p
  stable : Stable i On
  books : ∀ f, Books f → Spec Any (AQ.modify f) fun _ => Any
  renew : ∃ N, Spec Any (do
      AQ.setQueue i fun q => { q with born := true, valid := true }
      AQ.modify (·.openConn i)) (fun _ => N) ∧ Spec N (disconnectUnlocked i) fun _ => Off
  disconnect : Spec On (disconnectUnlocked i) fun _ => Off
  connect : Spec Off (connectUnlocked i) (Tried Any On)
  destroy : Spec Any (destructorUnlocked i) fun _ => Any
  openEnqueue : Spec On (openEnqueue i) fun _ => On
  checkDequeue : Spec On (checkDequeueUnlocked i) fun _ => On
  handled : Spec On (handled i) fun _ => On

section Handles

variable (hk : HandlesKeep i Any On Off)
include hk

lemma tried_on : Spec On (pure false : AQ Bool) (Tried Any On) :=
  spec_pure fun p hp => ⟨hk.any p hp, fun _ => hp⟩

lemma tried_off : Spec On (pure true : AQ Bool) (Tried Any On) :=
  spec_pure fun p hp => ⟨hk.any p hp, nofun⟩

lemma tried_checkValid : Spec Any (checkValidUnlocked i) (Tried Any On) := by
  intro p hp
  have hconn : (p.queue i).valid = true → Spec (fun p' => p' = p) (if (p.queue i).conn.isNone then do
      if ← connectUnlocked i then
        return true
      return false
    else (return false : AQ Bool)) (Tried Any On) := by
    refine fun hv => spec_ite (fun hn => ?_) fun hn => ?_
    · refine spec_weaken (tried_then hk.connect tried_error (tried_on hk)) ?_ fun _ _ hp => hp
      rintro _ rfl
      exact hk.off _ hp hv (Option.isNone_iff_eq_none.mp hn)
    · refine spec_weaken (tried_on hk) ?_ fun _ _ hp => hp
      rintro _ rfl
      exact hk.on _ hp hv fun he => hn (Option.isNone_iff_eq_none.mpr he)
  have hvalid : Spec (fun p' => p' = p) (if !(p.queue i).valid then (return true : AQ Bool) else do
      if (p.queue i).conn.isNone then
        if ← connectUnlocked i then
          return true
      return false) (Tried Any On) := by
    refine spec_ite (fun _ => spec_pure ?_) fun hv => hconn ?_
    · rintro _ rfl
      exact ⟨hp, nofun⟩
    · rwa [Bool.not_eq_true', Bool.not_eq_false] at hv
  exact hvalid p rfl

lemma tried_reconnectSubscription : Spec On (reconnectSubscriptionUnlocked i) (Tried Any On) := by
  refine spec_bind (hk.stable.stopSubscription false) fun _ => spec_bind hk.disconnect fun _ => ?_
  refine tried_then hk.connect tried_error (spec_bind hk.checkDequeue fun b =>
    spec_ite (fun _ => tried_off hk) fun _ => ?_)
  refine spec_bind (hk.stable.call _) fun b => spec_ite (fun _ => tried_off hk) fun _ => ?_
  exact spec_bind (hk.stable.note _ fun _ => ⟨_, _, _, rfl⟩) fun _ => tried_on hk

lemma kept_endSubscription : Spec Any (endSubscriptionUnlocked i) fun _ => Any :=
  spec_bind (hk.books _ (books_setQueue _ fun _ => ⟨_, _, _, rfl⟩)) fun _ => hk.books _ books_dec

lemma tried_reconnect : Spec On (reconnectUnlocked i) (Tried Any On) := by
  refine spec_queue fun q => spec_ite (fun _ => ?_) fun _ => spec_bind hk.disconnect fun _ => hk.connect
  refine tried_then (tried_reconnectSubscription hk) ?_ (tried_on hk)
  exact spec_bind (kept_endSubscription hk) fun _ =>
    spec_bind (hk.books _ (books_remove i)) fun _ => tried_error

lemma HandlesKeep.calls : CallsKeep i Any On where
  any := hk.any
  ask := hk.stable.ask
  use := hk.stable.use
  checkValid := tried_checkValid hk
  openEnqueue := hk.openEnqueue
  checkDequeue := hk.checkDequeue
  reconnect := tried_reconnect hk
  handled := hk.handled

lemma kept_startSubscription : Spec Any (startSubscription i) fun _ => Any := by
  have done : Spec On (pure () : AQ Unit) fun _ => Any := kept_done hk.calls
  refine kept_checked hk.calls (spec_bind hk.checkDequeue fun b => spec_ite (fun _ => done) fun _ => ?_)
  refine spec_queue fun q => spec_ite (fun _ => done) fun _ =>
    spec_bind (hk.stable.books _ books_inc) fun _ => ?_
  refine spec_bind (hk.stable.books _ (books_alters alters_number fun _ _ => ⟨_, _, _, rfl⟩)) fun _ => ?_
  refine spec_bind (hk.stable.call _) fun b => spec_ite (fun _ => ?_) fun _ => ?_
  · exact spec_bind hk.stable.endSubscription fun _ => done
  · refine spec_bind (hk.stable.note _ fun _ => ⟨_, _, _, rfl⟩) fun _ =>
      spec_bind hk.stable.managerAdd fun b => ?_
    exact spec_ite (fun _ => spec_bind (hk.stable.stopSubscription true) fun _ => done) fun _ => done

lemma kept_stopSubscription : Spec Any (stopSubscription i) fun _ => Any := by
  have done : Spec On (pure () : AQ Unit) fun _ => Any := kept_done hk.calls
  refine kept_checked hk.calls (spec_queue fun q => spec_ite (fun _ => ?_) fun _ => done)
  refine spec_bind (hk.stable.books _ (books_remove i)) fun _ => ?_
  exact spec_bind (hk.stable.stopSubscription true) fun _ => done

lemma kept_checkSubscription : Spec Any (checkSubscription i) fun _ => Any := by
  intro p hp
  have hsub : Spec (fun p' => p' = p)
      (if !(p.queue i).sandbox || !(p.queue i).valid || !(p.queue i).hasSubscription ||
          (p.queue i).conn.isNone then
        (pure () : AQ Unit)
      else do
        if ← call i .ping then
          return
        if ← reconnectSubscriptionUnlocked i then
          modify (·.remove i)
          endSubscriptionUnlocked i) fun _ => Any := by
    refine spec_ite (fun _ => spec_pure ?_) fun hn => ?_
    · rintro _ rfl
      exact hp
    · refine spec_weaken (spec_bind (hk.stable.call _) fun b =>
        spec_ite (fun _ => kept_done hk.calls) fun _ => ?_) ?_ fun _ _ h => h
      · refine tried_then (tried_reconnectSubscription hk) ?_ (kept_done hk.calls)
        exact spec_bind (hk.books _ (books_remove i)) fun _ => kept_endSubscription hk
      · rintro _ rfl
        simp only [Bool.or_eq_true, Bool.not_eq_true', not_or, Bool.not_eq_false,
          Option.isNone_iff_eq_none] at hn
        exact hk.on _ hp hn.1.1.2 hn.2
  exact hsub p rfl

lemma kept_create : Spec Any (create i) fun _ => Any := by
  obtain ⟨N, hopen, hclose⟩ := hk.renew
  have renewed : Spec Any (do
      AQ.setQueue i fun q => { q with born := true, valid := true }
      AQ.modify (·.openConn i)
      disconnectUnlocked i
      let _ ← connectUnlocked i) fun _ => Any := by
    intro p hp
    have hclosed := hclose _ (hopen p hp)
    exact (hk.connect _ hclosed).1
  exact spec_queue fun q => spec_ite (fun _ => spec_pure fun _ hp => hp) fun _ => renewed

lemma kept_act (op : AQOp) : Spec Any (op.act i) fun _ => Any := by
  cases op with
  | create => exact kept_create hk
  | post => exact kept_post hk.calls
  | postHash => exact kept_postHash hk.calls
  | getMessage turns => exact kept_getMessage hk.calls turns
  | startSubscription => exact kept_startSubscription hk
  | stopSubscription => exact kept_stopSubscription hk
  | commit => exact kept_commit hk.calls
  | rollback => exact kept_rollback hk.calls
  | checkSubscription => exact kept_checkSubscription hk
  | destroy => exact hk.destroy

end Handles

end OracleDriver
