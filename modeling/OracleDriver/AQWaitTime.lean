import OracleDriver.AQWalk
import OracleDriver.Library.Shadow

/-! The wait time of the dequeue handles of a call of getMessage(). -/

namespace OracleDriver

open Act AQQueuePriv Shadow

-- the wait time that has been set on the dequeue handle of a queue, and those of the handles that
-- OCI_DequeueGet() got
@[ext]
structure Waits where
  wait : Option ℤ
  gets : List (Option ℤ)

-- the first attempt of getMessage() to dequeue loses the connection, and the queue connects and has
-- a handle again
def AQQueuePriv.retries (i : ℕ) : AQ Bool := do
  if ← checkValidUnlocked i then
    return false
  if !(← checkDequeueUnlocked i) then
    return false
  if !(← call i .dequeueSetWaitTime) then
    return false
  if ← call i .dequeueGet then
    readMessage i
    return false
  if !(← AQ.ask .raised) then
    return false
  if ← call i .ping then
    return false
  if ← reconnectUnlocked i then
    return false
  checkDequeueUnlocked i

abbrev TimedAQ (α : Type) := Act (Over (fun _ _ : Process => True) Waits) α

namespace TimedAQ

variable (i : ℕ)

-- OCI_DequeueCreate() leaves the wait time as it is by default
def checkDequeueUnlocked : TimedAQ Bool := do
  let q ← base (AQ.queue i)
  if !q.dequeue then
    if !((← base (call i .dequeueCreate)) && q.typeInfo) then
      return false
    base (AQ.setQueue i fun q => { q with dequeue := true, dequeueOf := (q.session, q.typeInfoOf) })
    note fun w => { w with wait := none }
  return true

def reconnectSubscriptionUnlocked : TimedAQ Bool := do
  let _ ← base (stopSubscriptionUnlocked i false)
  base (disconnectUnlocked i)
  if ← base (connectUnlocked i) then
    return true
  if !(← checkDequeueUnlocked i) then
    return true
  if !(← base (call i .dequeueSubscribe)) then
    return true
  base (AQ.setQueue i fun q => { q with hasSubscription := true })
  return false

def reconnectUnlocked : TimedAQ Bool := do
  if (← base (AQ.queue i)).hasSubscription then
    if ← reconnectSubscriptionUnlocked i then
      base (endSubscriptionUnlocked i)
      base (AQ.modify (·.remove i))
      return true
    return false
  base (disconnectUnlocked i)
  base (connectUnlocked i)

def dequeueSetWaitTime (timeout : ℤ) : TimedAQ Bool := do
  if ← base (call i .dequeueSetWaitTime) then
    note fun w => { w with wait := some timeout }
    return true
  return false

def dequeueGet : TimedAQ Bool := do
  note fun w => { w with gets := w.gets ++ [w.wait] }
  base (call i .dequeueGet)

def dequeueMessage : ℕ → TimedAQ Unit
  | 0 => return
  | n + 1 => do
    if ← dequeueGet i then
      base (readMessage i)
    else if ← base (AQ.ask .raised) then
      if !(← base (call i .ping)) then
        if ← reconnectUnlocked i then
          return
        if ← checkDequeueUnlocked i then
          dequeueMessage n

def getMessage (timeout : ℤ) (turns : ℕ) : TimedAQ Unit := do
  if ← base (checkValidUnlocked i) then
    return
  if !(← checkDequeueUnlocked i) then
    return
  if !(← dequeueSetWaitTime i timeout) then
    return
  dequeueMessage i turns

-- a turn of the loop; `true` is its continue
def dequeueTurn : TimedAQ Bool := do
  if ← dequeueGet i then
    base (readMessage i)
    return false
  if !(← base (AQ.ask .raised)) then
    return false
  if ← base (call i .ping) then
    return false
  if ← reconnectUnlocked i then
    return false
  checkDequeueUnlocked i

-- what comes before the loop; `true` if the loop begins
def dequeueBegin (timeout : ℤ) : TimedAQ Bool := do
  if ← base (checkValidUnlocked i) then
    return false
  if !(← checkDequeueUnlocked i) then
    return false
  dequeueSetWaitTime i timeout

-- every OCI_DequeueGet() of the call is made on a handle whose wait time has been set to the
-- timeout, where `wait` is that of the handle that the queue may already have
def KeepsWait (timeout : ℤ) (p : Process) (wait : Option ℤ) : Prop :=
  ∀ turns, ∀ w ∈ ((getMessage i timeout turns).run (p, ⟨wait, []⟩)).2.2.gets, w = some timeout

section Erasure

variable {i}

lemma erases_checkDequeue : Erases (checkDequeueUnlocked i) (AQQueuePriv.checkDequeueUnlocked i) := by
  apply erases_bind (erases_base _)
  intro q
  apply erases_ite
  · apply erases_bind (erases_base _)
    intro b
    apply erases_ite
    · exact erases_pure _
    · apply erases_bind (erases_base _)
      intro _
      exact erases_note (erases_pure _)
  · exact erases_pure _

lemma erases_reconnectSubscription :
    Erases (reconnectSubscriptionUnlocked i) (AQQueuePriv.reconnectSubscriptionUnlocked i) := by
  apply erases_bind (erases_base _)
  intro _
  apply erases_bind (erases_base _)
  intro _
  apply erases_bind (erases_base _)
  intro b
  apply erases_ite
  · exact erases_pure _
  apply erases_bind erases_checkDequeue
  intro b
  apply erases_ite
  · exact erases_pure _
  apply erases_bind (erases_base _)
  intro b
  apply erases_ite
  · exact erases_pure _
  apply erases_bind (erases_base _)
  intro _
  exact erases_pure _

lemma erases_reconnect : Erases (reconnectUnlocked i) (AQQueuePriv.reconnectUnlocked i) := by
  apply erases_bind (erases_base _)
  intro q
  apply erases_ite
  · apply erases_bind erases_reconnectSubscription
    intro b
    apply erases_ite
    · apply erases_bind (erases_base _)
      intro _
      apply erases_bind (erases_base _)
      intro _
      exact erases_pure _
    · exact erases_pure _
  · apply erases_bind (erases_base _)
    intro _
    exact erases_base _

lemma erases_dequeueGet : Erases (dequeueGet i) (call i .dequeueGet) := erases_note (erases_base _)

lemma erases_dequeueSetWaitTime (timeout : ℤ) :
    Erases (dequeueSetWaitTime i timeout) (call i .dequeueSetWaitTime) := by
  have h : Erases (dequeueSetWaitTime i timeout) (call i .dequeueSetWaitTime >>= pure) := by
    apply erases_bind (erases_base _)
    intro b
    cases b with
    | true => exact erases_note (erases_pure true)
    | false => exact erases_pure false
  rwa [then_pure] at h

lemma erases_dequeueMessage (turns : ℕ) :
    Erases (dequeueMessage i turns) (AQQueuePriv.dequeueMessage i turns) := by
  induction turns with
  | zero => exact erases_pure _
  | succ n ih =>
    apply erases_bind erases_dequeueGet
    intro b
    apply erases_ite (erases_base _)
    apply erases_bind (erases_base _)
    intro b
    apply erases_ite _ (erases_pure _)
    apply erases_bind (erases_base _)
    intro b
    apply erases_ite _ (erases_pure _)
    apply erases_bind erases_reconnect
    intro b
    apply erases_ite (erases_pure _)
    apply erases_bind erases_checkDequeue
    intro b
    exact erases_ite ih (erases_pure _)

-- the call is that of the model without the wait times
lemma erases_getMessage (timeout : ℤ) (turns : ℕ) :
    Erases (getMessage i timeout turns) (AQQueuePriv.getMessage i turns) := by
  apply erases_bind (erases_base _)
  intro b
  apply erases_ite (erases_pure _)
  apply erases_bind erases_checkDequeue
  intro b
  apply erases_ite (erases_pure _)
  apply erases_bind (erases_dequeueSetWaitTime timeout)
  intro b
  exact erases_ite (erases_pure _) (erases_dequeueMessage turns)

end Erasure

lemma dequeueMessage_succ (n : ℕ) :
    dequeueMessage i (n + 1) = dequeueTurn i >>= fun b => if b then dequeueMessage i n else pure () := by
  simp only [dequeueMessage, dequeueTurn, bind_bind, ite_bind, pure_then, Bool.not_eq_true',
    ← Bool.not_eq_true, ite_not, Bool.false_eq_true, if_false, then_unit]

lemma getMessage_eq (timeout : ℤ) (turns : ℕ) :
    getMessage i timeout turns = dequeueBegin i timeout >>= fun b => if b then
      dequeueMessage i turns else pure () := by
  simp only [getMessage, dequeueBegin, bind_bind, ite_bind, pure_then, Bool.not_eq_true',
    ← Bool.not_eq_true, ite_not, Bool.false_eq_true, if_false]

section Handles

variable {i}

lemma spec_read {α : Type} {P : Process → Prop} {f : AQQueuePriv → AQ α} {S : α → Process → Prop}
    (h : ∀ q, Spec (fun p => p.queue i = q ∧ P p) (f q) S) : Spec P (AQ.queue i >>= f) S :=
  fun p hp => h _ p ⟨rfl, hp⟩

def Closed (i : ℕ) (p : Process) : Prop := (p.queue i).dequeue = false

lemma closed_modify {f : Process → Process} {g : Process → AQQueuePriv → AQQueuePriv} (hf : Alters i f g)
    (hg : ∀ p q, q.dequeue = false → (g p q).dequeue = false) :
    Spec (Closed i) (AQ.modify f) fun _ => Closed i := by
  intro p hp
  show ((f p).queue i).dequeue = false
  rw [hf.here]
  exact hg p _ hp

lemma closed_setQueue (f : AQQueuePriv → AQQueuePriv)
    (hf : ∀ q, q.dequeue = false → (f q).dequeue = false) :
    Spec (Closed i) (AQ.setQueue i f) fun _ => Closed i := closed_modify (alters_setQueue f) fun _ => hf

lemma stable_closed : Stable i (Closed i) where
  ask _ _ hp := hp
  use := by
    intro p hp
    show Closed i (p.use i)
    unfold Process.use
    split
    · exact hp
    · split
      · exact hp
      · exact hp
  books f hf := by
    intro p hp
    obtain ⟨-, -, -, hq⟩ := hf p
    obtain ⟨h, n, s, he⟩ := hq i
    show ((f p).queue i).dequeue = false
    rw [he]
    exact hp

lemma closed_freeDequeue {P : Process → Prop} : Spec P (freeDequeue i) fun _ => Closed i := by
  have freed : ∀ {P : Process → Prop}, Spec P (do
      let _ ← call i .dequeueFree
      AQ.setQueue i fun q => { q with dequeue := false }) fun _ => Closed i := by
    refine spec_bind (spec_true _) fun _ p _ => ?_
    show ((p.setQueue i fun q => { q with dequeue := false }).queue i).dequeue = false
    rw [(alters_setQueue _).here]
  refine spec_read fun q => spec_ite (fun _ => ?_) fun hd => ?_
  · refine spec_ite (fun _ => ?_) fun _ => freed
    exact spec_bind (spec_true _) fun _ => spec_bind (spec_true _) fun _ => freed
  · apply spec_pure
    rintro p ⟨rfl, _⟩
    exact eq_false_of_ne_true hd

lemma closed_freeTypeInfo : Spec (Closed i) (freeTypeInfo i) fun _ => Closed i := by
  refine spec_queue fun q => spec_ite (fun _ => ?_) fun _ => spec_pure fun _ hp => hp
  exact spec_bind stable_closed.use fun _ => closed_setQueue _ fun _ hq => hq

lemma closed_disconnect {P : Process → Prop} : Spec P (disconnectUnlocked i) fun _ => Closed i := by
  refine spec_bind (spec_true _) fun _ => spec_bind closed_freeDequeue fun _ =>
    spec_bind closed_freeTypeInfo fun _ => ?_
  exact closed_setQueue _ fun _ hq => hq

lemma closed_destructor : Spec (Closed i) (destructorUnlocked i) fun _ => Closed i := by
  refine spec_queue fun q => spec_ite (fun _ => ?_) fun _ => spec_pure fun _ hp => hp
  exact spec_bind closed_disconnect fun _ => closed_setQueue _ fun _ hq => hq

lemma closed_connect : Spec (Closed i) (connectUnlocked i) fun _ => Closed i := by
  have done : ∀ b, Spec (Closed i) (pure b : AQ Bool) fun _ => Closed i :=
    fun b => spec_pure fun _ hp => hp
  have checked : ∀ b, Spec (Closed i) (AQ.ensure b) fun _ => Closed i :=
    fun b => stable_closed.books _ (books_ensure b)
  refine spec_queue fun q => spec_bind (checked _) fun _ => spec_bind (stable_closed.ask _) fun b => ?_
  refine spec_ite (fun _ => done true) fun _ =>
    spec_bind (closed_modify alters_openConn fun _ _ hq => hq) fun _ => ?_
  refine spec_bind (stable_closed.call _) fun b => spec_ite (fun _ => done true) fun _ => ?_
  refine spec_bind (stable_closed.call _) fun b => spec_ite (fun _ => done true) fun _ => ?_
  refine spec_bind (stable_closed.call _) fun b => spec_ite (fun _ => done true) fun _ => ?_
  refine spec_queue fun q => spec_bind (checked _) fun _ => spec_bind (stable_closed.call _) fun b => ?_
  refine spec_ite (fun _ => spec_bind closed_destructor fun _ => done true) fun _ => ?_
  exact spec_bind (closed_modify alters_getTypeInfo fun _ _ hq => hq) fun _ => done false

end Handles

section Waits

variable {i} {g : List (Option ℤ)}

lemma gets_base {α : Type} (m : AQ α) : Spec (fun s : Process × Waits => s.2.gets = g) (base m)
    fun _ s => s.2.gets = g :=
  spec_shadow (C := fun w : Waits => w.gets = g) m

lemma gets_checkDequeue : Spec (fun s => s.2.gets = g) (checkDequeueUnlocked i)
    fun _ s => s.2.gets = g := by
  have done : ∀ b, Spec (fun s => s.2.gets = g) (pure b : TimedAQ Bool) fun _ s => s.2.gets = g :=
    fun b => spec_pure fun _ hs => hs
  refine spec_bind (gets_base _) fun q => spec_ite (fun _ => ?_) fun _ => done true
  refine spec_bind (gets_base _) fun b => spec_ite (fun _ => done false) fun _ =>
    spec_bind (gets_base _) fun _ => ?_
  exact spec_bind (spec_note fun _ _ hs => hs) fun _ => done true

-- the queue has no dequeue handle, or one whose wait time has not been set
def Fresh (i : ℕ) (s : Process × Waits) : Prop := Closed i s.1 ∨ s.2.wait = none

lemma fresh_read {α : Type} {P : Process × Waits → Prop} {f : AQQueuePriv → TimedAQ α}
    {S : α → Process × Waits → Prop}
    (h : ∀ q, Spec (fun s => s.1.queue i = q ∧ P s) (f q) S) : Spec P (base (AQ.queue i) >>= f) S :=
  fun s hs => h _ s ⟨rfl, hs⟩

lemma fresh_checkDequeue : Spec (Fresh i) (checkDequeueUnlocked i)
    fun b s => b = true → s.2.wait = none := by
  have noted : ∀ {P : Process × Waits → Prop},
      Spec P (note (fun w => { w with wait := none }) : TimedAQ Unit) fun _ s => s.2.wait = none :=
        fun _ _ => rfl
  refine fresh_read fun q => spec_ite (fun _ => ?_) fun hd => ?_
  · refine spec_bind (spec_true _) fun b => spec_ite (fun _ => spec_pure fun _ _ => nofun) fun _ => ?_
    exact spec_bind (spec_true _) fun _ => spec_bind noted fun _ => spec_pure fun _ hs _ => hs
  · apply spec_pure
    rintro s ⟨rfl, hs⟩ _
    apply hs.resolve_left
    intro hc
    exact hd (by rw [hc]; rfl)

lemma closed_base {P : Process × Waits → Prop} :
    Spec P (base (disconnectUnlocked i) : TimedAQ Unit) fun _ s => Closed i s.1 :=
  fun _ _ => closed_disconnect _ rfl

lemma connected_base : Spec (fun s => Closed i s.1) (base (connectUnlocked i) : TimedAQ Bool)
    fun _ s => Closed i s.1 :=
  fun _ hs => closed_connect _ hs

-- a handle that the queue has after it has connected again is new
lemma fresh_reconnectSubscription {P : Process × Waits → Prop} :
    Spec P (reconnectSubscriptionUnlocked i) fun r s => r = false → s.2.wait = none := by
  have failed : ∀ {P : Process × Waits → Prop}, Spec P (pure true : TimedAQ Bool) fun r s =>
    r = false → s.2.wait = none :=
    spec_pure fun _ _ => nofun
  have kept : ∀ {α : Type} (m : AQ α), Spec (fun s => s.2.wait = none) (base m : TimedAQ α)
      fun _ s => s.2.wait = none :=
    spec_shadow (C := fun w : Waits => w.wait = none)
  refine spec_bind (spec_true _) fun _ => spec_bind closed_base fun _ =>
    spec_bind connected_base fun r => ?_
  refine spec_ite (fun _ => failed) fun _ =>
    spec_bind (spec_weaken fresh_checkDequeue (fun _ => .inl) fun _ _ hs => hs) ?_
  intro b
  cases b with
  | false => exact failed
  | true =>
    refine spec_bind (spec_weaken (kept _) (fun _ hs => hs rfl) fun _ _ hs => hs) fun b =>
      spec_ite (fun _ => failed) fun _ => ?_
    exact spec_bind (kept _) fun _ => spec_pure fun _ hs _ => hs

lemma fresh_reconnect {P : Process × Waits → Prop} :
    Spec P (reconnectUnlocked i) fun r s => r = false → Fresh i s := by
  have failed : ∀ {P : Process × Waits → Prop}, Spec P (pure true : TimedAQ Bool) fun r s =>
    r = false → Fresh i s :=
    spec_pure fun _ _ => nofun
  refine spec_bind (spec_true _) fun q => spec_ite (fun _ => ?_) fun _ => ?_
  · refine spec_bind fresh_reconnectSubscription fun r => spec_ite (fun _ => ?_) fun hr => ?_
    · exact spec_bind (spec_true _) fun _ => spec_bind (spec_true _) fun _ => failed
    · exact spec_pure fun _ hs _ => .inr (hs (eq_false_of_ne_true hr))
  · exact spec_bind closed_base fun _ => spec_weaken connected_base (fun _ hs => hs)
      fun _ _ hs _ => .inl hs

lemma gets_reconnect : Spec (fun s => s.2.gets = g) (reconnectUnlocked i) fun _ s => s.2.gets = g := by
  have done : ∀ b, Spec (fun s => s.2.gets = g) (pure b : TimedAQ Bool) fun _ s => s.2.gets = g :=
    fun b => spec_pure fun _ hs => hs
  have subscribed : Spec (fun s => s.2.gets = g) (reconnectSubscriptionUnlocked i) fun _ s =>
      s.2.gets = g := by
    refine spec_bind (gets_base _) fun _ => spec_bind (gets_base _) fun _ =>
      spec_bind (gets_base _) fun b => ?_
    refine spec_ite (fun _ => done true) fun _ => spec_bind gets_checkDequeue fun b => ?_
    refine spec_ite (fun _ => done true) fun _ => spec_bind (gets_base _) fun b => ?_
    exact spec_ite (fun _ => done true) fun _ => spec_bind (gets_base _) fun _ => done false
  refine spec_bind (gets_base _) fun q => spec_ite (fun _ => ?_) fun _ => ?_
  · refine spec_bind subscribed fun b => spec_ite (fun _ => ?_) fun _ => done false
    exact spec_bind (gets_base _) fun _ => spec_bind (gets_base _) fun _ => done true
  · exact spec_bind (gets_base _) fun _ => gets_base _

lemma get_waits (x : Option ℤ) : Spec (fun s => s.2 = ⟨x, g⟩) (dequeueGet i)
    fun _ s => s.2.gets = g ++ [x] := by
  refine spec_bind (Q := fun _ s => s.2.gets = g ++ [x]) (spec_note ?_) fun _ => gets_base _
  rintro _ _ rfl
  rfl

-- an attempt is made with the wait time of the handle, and the next one with that of a new handle
lemma turn_waits (x : Option ℤ) : Spec (fun s => s.2 = ⟨x, g⟩) (dequeueTurn i) fun b s =>
    s.2.gets = g ++ [x] ∧ (b = true → s.2.wait = none) := by
  have done : Spec (fun s => s.2.gets = g ++ [x]) (pure false : TimedAQ Bool) fun b s =>
      s.2.gets = g ++ [x] ∧ (b = true → s.2.wait = none) := spec_pure fun _ hs => ⟨hs, nofun⟩
  refine spec_bind (get_waits x) fun b => spec_ite (fun _ => spec_bind (gets_base _) fun _ => done)
    fun _ => ?_
  refine spec_bind (gets_base _) fun b => spec_ite (fun _ => done) fun _ => ?_
  refine spec_bind (gets_base _) fun b => spec_ite (fun _ => done) fun _ => ?_
  have again : Spec (fun s => s.2.gets = g ++ [x]) (reconnectUnlocked i) fun r s =>
      s.2.gets = g ++ [x] ∧ (r = false → Fresh i s) :=
        fun s hs => ⟨gets_reconnect s hs, fresh_reconnect (P := fun _ => True) s trivial⟩
  refine spec_bind again fun r => ?_
  cases r with
  | true => exact spec_weaken done (fun _ hs => hs.1) fun _ _ hs => hs
  | false => exact fun s hs => ⟨gets_checkDequeue s hs.1, fresh_checkDequeue s (hs.2 rfl)⟩

lemma begin_waits (timeout : ℤ) : Spec (fun s => s.2.gets = g) (dequeueBegin i timeout) fun b s =>
    s.2.gets = g ∧ (b = true → s.2.wait = some timeout) := by
  have done : Spec (fun s => s.2.gets = g) (pure false : TimedAQ Bool) fun b s =>
      s.2.gets = g ∧ (b = true → s.2.wait = some timeout) := spec_pure fun _ hs => ⟨hs, nofun⟩
  refine spec_bind (gets_base _) fun b => spec_ite (fun _ => done) fun _ => ?_
  refine spec_bind gets_checkDequeue fun b => spec_ite (fun _ => done) fun _ => ?_
  refine spec_bind (gets_base _) fun b => spec_ite (fun _ => ?_) fun _ => done
  refine spec_bind (Q := fun _ s => s.2.gets = g ∧ s.2.wait = some timeout)
    (spec_note fun _ _ hs => ⟨hs, rfl⟩) fun _ => ?_
  exact spec_pure fun _ hs => ⟨hs.1, fun _ => hs.2⟩

end Waits

variable {i}

lemma erases_retries (timeout : ℤ) :
    Erases (dequeueBegin i timeout >>= fun b => if b then dequeueTurn i else pure false)
      (retries i) := by
  simp only [dequeueBegin, dequeueTurn, bind_bind, ite_bind, pure_then, Bool.false_eq_true, if_false]
  apply erases_bind (erases_base _)
  intro b
  apply erases_ite (erases_pure _)
  apply erases_bind erases_checkDequeue
  intro b
  apply erases_ite (erases_pure _)
  apply erases_bind (erases_dequeueSetWaitTime timeout)
  intro b
  cases b with
  | false => exact erases_pure _
  | true =>
    apply erases_bind erases_dequeueGet
    intro b
    apply erases_ite (erases_bind (erases_base _) fun _ => erases_pure _)
    apply erases_bind (erases_base _)
    intro b
    apply erases_ite (erases_pure _)
    apply erases_bind (erases_base _)
    intro b
    apply erases_ite (erases_pure _)
    apply erases_bind erases_reconnect
    intro b
    exact erases_ite (erases_pure _) erases_checkDequeue

-- the loop ends with its first turn, or the second is made with a new handle
lemma gets_stopped {s : Process × Waits} {x : Option ℤ} (hs : s.2 = ⟨x, []⟩)
    (ht : ((dequeueTurn i).run s).1 = false)
    (turns : ℕ) : ∀ w ∈ ((dequeueMessage i turns).run s).2.2.gets, w = x := by
  intro w hw
  cases turns with
  | zero =>
    simp only [dequeueMessage, run_pure, hs] at hw
    cases hw
  | succ n =>
    rw [dequeueMessage_succ, run_bind_false ht, run_pure, (turn_waits x s hs).1] at hw
    exact List.mem_singleton.1 hw

lemma gets_again {s : Process × Waits} {x : Option ℤ} (hs : s.2 = ⟨x, []⟩)
    (ht : ((dequeueTurn i).run s).1 = true) :
    none ∈ ((dequeueMessage i 2).run s).2.2.gets := by
  obtain ⟨hg, hw⟩ := turn_waits x s hs
  have hs' : ((dequeueTurn i).run s).2.2 = ⟨none, [x]⟩ := Waits.ext (hw ht) hg
  have hlast : ((dequeueTurn i).run ((dequeueTurn i).run s).2).2.2.gets = [x] ++ [none] :=
    (turn_waits none _ hs').1
  have hend : ((dequeueMessage i 1).run ((dequeueTurn i).run s).2).2 =
      ((dequeueTurn i).run ((dequeueTurn i).run s).2).2 := by
    rw [dequeueMessage_succ, run_bind]
    split
    · rfl
    · rfl
  rw [dequeueMessage_succ, run_bind_true ht, hend, hlast]
  exact List.mem_append_right _ List.mem_cons_self

/-- All attempts of getMessage() to dequeue are made with the timeout just when the first is not
followed by another one. -/
theorem keepsWait_iff (timeout : ℤ) (p : Process) (wait : Option ℤ) :
    KeepsWait i timeout p wait ↔ ((retries i).run p).1 = false := by
  have hbegin := begin_waits (i := i) (g := []) timeout (p, ⟨wait, []⟩) rfl
  have hretries := (erases_retries (i := i) timeout (p, ⟨wait, []⟩)).1
  simp only [KeepsWait, getMessage_eq]
  cases hb : ((dequeueBegin i timeout).run (p, ⟨wait, []⟩)).1 with
  | false =>
    rw [run_bind_false hb] at hretries
    apply iff_of_true _ hretries.symm
    intro turns w hw
    rw [run_bind_false hb, run_pure, hbegin.1] at hw
    cases hw
  | true =>
    have hs : ((dequeueBegin i timeout).run (p, ⟨wait, []⟩)).2.2 = ⟨some timeout, []⟩ :=
      Waits.ext (hbegin.2 hb) hbegin.1
    rw [run_bind_true hb] at hretries
    simp only [run_bind_true hb, ← hretries]
    cases ht : ((dequeueTurn i).run ((dequeueBegin i timeout).run (p, ⟨wait, []⟩)).2).1 with
    | false => exact iff_of_true (gets_stopped hs ht) rfl
    | true =>
      apply iff_of_false _ nofun
      intro h
      cases h 2 none (gets_again hs ht)

-- the client loses the session in OCI_DequeueGet(), and does all else that it is asked to
def lossy (steps : List AQStep) : Process :=
  { Process.start.run steps with answer := fun c _ => c ≠ .dequeueGet && c ≠ .ping, tick := 0 }

theorem not_keepsWait_reconnected :
    ¬KeepsWait 0 30 (lossy [.call 0 .create fun _ _ => true]) none ∧
      ¬KeepsWait 0 30 (lossy [.call 0 .create fun _ _ => true,
        .call 0 .startSubscription fun _ _ => true]) none := by
  constructor
  · intro h
    cases h 2 none (by decide +kernel)
  · intro h
    cases h 2 none (by decide +kernel)

end TimedAQ

end OracleDriver
