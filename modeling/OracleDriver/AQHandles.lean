import OracleDriver.AQConnection

/-! The handles of a queue belong to the session that its connection is logged on with, as long as
no connection is left half made and no session is replaced. -/

namespace OracleDriver

open Act AQ AQQueuePriv

structure AQQueuePriv.Coherent (q : AQQueuePriv) : Prop where
  bare : q.conn = none → q.typeInfo = false ∧ q.enqueue = false ∧ q.dequeue = false
  typed : q.conn ≠ none → q.typeInfo = true ∧ q.typeInfoOf ∈ q.tinfs
  enqueues : q.conn ≠ none → q.enqueue = true → q.enqueueOf = (q.session, q.typeInfoOf)
  dequeues : q.conn ≠ none → q.dequeue = true → q.dequeueOf = (q.session, q.typeInfoOf)

-- an opened connection is not given up before it has the type info, and no call logs on again
structure Smooth (answer : AQCall → ℕ → Bool) : Prop where
  encoded : ∀ k, answer .encodeName k = true
  traced : ∀ k, answer .setTrace k = true
  same : ∀ k, answer .sessionReplaced k = false

-- with a property of queue `i`, which is in use
structure Works (i : ℕ) (L : AQQueuePriv → Prop) (p : Process) : Prop where
  others : ∀ j, j ≠ i → (p.queue j).Coherent
  kept : KeepsSession p.answer
  smooth : Smooth p.answer
  here : L (p.queue i)

variable {i : ℕ} {L M : AQQueuePriv → Prop} {α : Type}

lemma Works.mono {p : Process} (hp : Works i L p) (hL : ∀ q, L q → M q) : Works i M p :=
  ⟨hp.1, hp.2, hp.3, hL _ hp.4⟩

lemma works_weaken {m : AQ α} {S : α → Process → Prop} (h : Spec (Works i M) m S) (hL : ∀ q, L q → M q) :
    Spec (Works i L) m S := spec_weaken h (fun _ hp => hp.mono hL) fun _ _ hp => hp

lemma works_read {f : AQQueuePriv → AQ α} {S : α → Process → Prop}
    (h : ∀ q, L q → Spec (Works i fun q' => q' = q ∧ L q') (f q) S) :
    Spec (Works i L) (AQ.queue i >>= f) S :=
  fun p hp => h _ hp.here p ⟨hp.1, hp.2, hp.3, rfl, hp.4⟩

lemma works_update {f : Process → Process} {g : Process → AQQueuePriv → AQQueuePriv} (hf : Alters i f g)
    (hg : ∀ p q, L q → M (g p q)) : Spec (Works i L) (AQ.modify f) fun _ => Works i M := by
  rintro p ⟨ho, hk, hs, hL⟩
  refine ⟨fun j hj => ?_, ?_, ?_, ?_⟩
  · show ((f p).queue j).Coherent
    rw [hf.others p j hj]
    exact ho j hj
  · show KeepsSession (f p).answer
    rwa [hf.answer]
  · show Smooth (f p).answer
    rwa [hf.answer]
  · show M ((f p).queue i)
    rw [hf.here]
    exact hg p _ hL

lemma works_setQueue (f : AQQueuePriv → AQQueuePriv) (hf : ∀ q, L q → M (f q)) :
    Spec (Works i L) (AQ.setQueue i f) fun _ => Works i M := works_update (alters_setQueue f) fun _ => hf

lemma works_books (hL : Unbooked L) {f : Process → Process} (hf : Books f) :
    Spec (Works i L) (AQ.modify f) fun _ => Works i L := by
  rintro p ⟨ho, hk, hs, hl⟩
  obtain ⟨ha, -, -, hq⟩ := hf p
  refine ⟨fun j hj => ?_, ?_, ?_, ?_⟩
  · show ((f p).queue j).Coherent
    obtain ⟨h, n, s, he⟩ := hq j
    rw [he]
    exact ⟨(ho j hj).bare, (ho j hj).typed, (ho j hj).enqueues, (ho j hj).dequeues⟩
  · show KeepsSession (f p).answer
    rwa [ha]
  · show Smooth (f p).answer
    rwa [ha]
  · show L ((f p).queue i)
    obtain ⟨h, n, s, he⟩ := hq i
    rw [he]
    exact hL _ h n s hl

lemma works_ask (c : AQCall) : Spec (Works i L) (ask c) fun _ => Works i L :=
  fun _ hp => ⟨hp.1, hp.2, hp.3, hp.4⟩

lemma works_use : Spec (Works i L) (AQ.use i) fun _ => Works i L := by
  intro p hp
  show Works i L (p.use i)
  unfold Process.use
  split
  · exact ⟨hp.1, hp.2, hp.3, hp.4⟩
  · split
    · exact hp
    · exact ⟨hp.1, hp.2, hp.3, hp.4⟩

lemma stable_works (hL : Unbooked L) : Stable i (Works i L) where
  ask := works_ask
  use := works_use
  books _ := works_books hL

-- the client answers as it does in all calls of the run
lemma works_answered {c : AQCall} {b : Bool} (hc : ∀ p, Works i L p → p.answer c p.tick = b) :
    Spec (Works i L) (call i c) fun r p => r = b ∧ Works i L p :=
  spec_bind works_use fun _ p hp => ⟨hc p hp, works_ask c p hp⟩

-- the queue has been disconnected
def Stripped (q : AQQueuePriv) : Prop :=
  q.valid = true ∧ q.conn = none ∧ q.typeInfo = false ∧ q.enqueue = false ∧ q.dequeue = false

-- the queue has a connection, but no handle yet
def Opened (q : AQQueuePriv) : Prop :=
  q.valid = true ∧ q.conn ≠ none ∧ q.enqueue = false ∧ q.dequeue = false

-- the queue has a connection
def Fit (q : AQQueuePriv) : Prop := q.valid = true ∧ q.conn ≠ none ∧ q.Coherent

lemma Stripped.coherent {q : AQQueuePriv} (h : Stripped q) : q.Coherent :=
  ⟨fun _ => h.2.2, fun hn => absurd h.2.1 hn, fun hn => absurd h.2.1 hn, fun hn => absurd h.2.1 hn⟩

lemma Fit.coherent {q : AQQueuePriv} (h : Fit q) : q.Coherent := h.2.2

lemma unbooked_fit : Unbooked Fit :=
  fun _ _ _ _ h => ⟨h.1, h.2.1, h.2.2.bare, h.2.2.typed, h.2.2.enqueues, h.2.2.dequeues⟩

lemma stable_fit : Stable i (Works i Fit) := stable_works unbooked_fit

lemma unbooked_opened : Unbooked Opened := fun _ _ _ _ h => h

lemma works_freeEnqueue :
    Spec (Works i fun q => q.valid = true) (freeEnqueue i)
      fun _ => Works i fun q => q.valid = true ∧ q.enqueue = false := by
  refine works_read fun q _ => spec_ite (fun _ => ?_) fun he => ?_
  · exact spec_bind works_use fun _ => works_setQueue _ fun q h => ⟨h.2, rfl⟩
  · refine spec_pure fun p hp => hp.mono ?_
    rintro _ ⟨rfl, h⟩
    exact ⟨h, eq_false_of_ne_true he⟩

lemma works_freeDequeue :
    Spec (Works i fun q => q.valid = true ∧ q.enqueue = false) (freeDequeue i) fun _ =>
      Works i fun q => q.valid = true ∧ q.enqueue = false ∧ q.dequeue = false := by
  have hstable : Stable i (Works i fun q => q.valid = true ∧ q.enqueue = false) :=
    stable_works fun _ _ _ _ h => h
  have drop : Spec (Works i fun q => q.valid = true ∧ q.enqueue = false) (do
      let _ ← call i .dequeueFree
      AQ.setQueue i fun q => { q with dequeue := false }) fun _ =>
        Works i fun q => q.valid = true ∧ q.enqueue = false ∧ q.dequeue = false :=
    spec_bind (hstable.call _) fun _ => works_setQueue _ fun q h => ⟨h.1, h.2, rfl⟩
  refine works_read fun q _ => spec_ite (fun _ => works_weaken ?_ fun _ h => h.2) fun hd => ?_
  · refine spec_ite (fun _ => spec_bind (hstable.books _ (books_remove i)) fun _ => ?_) fun _ => drop
    exact spec_bind (hstable.stopSubscription true) fun _ => drop
  · refine spec_pure fun p hp => hp.mono ?_
    rintro _ ⟨rfl, h⟩
    exact ⟨h.1, h.2, eq_false_of_ne_true hd⟩

lemma works_freeTypeInfo :
    Spec (Works i fun q => q.valid = true ∧ q.enqueue = false ∧ q.dequeue = false)
      (freeTypeInfo i) fun _ =>
      Works i fun q => q.valid = true ∧ q.typeInfo = false ∧ q.enqueue = false ∧ q.dequeue = false := by
  refine works_read fun q _ => spec_ite (fun _ => ?_) fun ht => ?_
  · exact spec_bind works_use fun _ => works_setQueue _ fun q h => ⟨h.2.1, rfl, h.2.2⟩
  · refine spec_pure fun p hp => hp.mono ?_
    rintro _ ⟨rfl, h⟩
    exact ⟨h.1, eq_false_of_ne_true ht, h.2⟩

lemma works_disconnect : Spec (Works i fun q => q.valid = true) (disconnectUnlocked i)
    fun _ => Works i Stripped := by
  refine spec_bind works_freeEnqueue fun _ => spec_bind works_freeDequeue fun _ =>
    spec_bind works_freeTypeInfo fun _ => ?_
  exact works_setQueue _ fun q h => ⟨h.1, rfl, h.2⟩

lemma works_drop :
    Spec (Works i Stripped) (AQ.setQueue i fun q => { q with ds := none, valid := false })
      fun _ => Works i Coherent :=
  works_setQueue _ fun _ h =>
    ⟨h.coherent.bare, h.coherent.typed, h.coherent.enqueues, h.coherent.dequeues⟩

lemma works_destructor (hL : ∀ q, L q → q.valid = true ∨ q.Coherent) :
    Spec (Works i L) (destructorUnlocked i) fun _ => Works i Coherent := by
  refine works_read fun q hq => spec_ite (fun hv => ?_) fun hv => ?_
  · refine spec_bind (works_weaken works_disconnect ?_) fun _ => works_drop
    rintro _ ⟨rfl, _⟩
    exact hv
  · refine spec_pure fun p hp => hp.mono ?_
    rintro _ ⟨rfl, h⟩
    exact (hL _ h).resolve_left hv

lemma works_connect :
    Spec (Works i Stripped) (connectUnlocked i) (Tried (Works i Coherent) (Works i Fit)) := by
  have failed : Spec (Works i Coherent) (pure true : AQ Bool)
      (Tried (Works i Coherent) (Works i Fit)) := tried_error
  have ensured : ∀ {L : AQQueuePriv → Prop} b, Unbooked L → Spec (Works i L) (AQ.ensure b) fun _ =>
    Works i L :=
    fun b hL => works_books hL (books_ensure b)
  have opened : Spec (Works i Stripped) (AQ.modify (·.openConn i)) fun _ => Works i Opened :=
    works_update alters_openConn fun p q h => ⟨h.1, nofun, h.2.2.2⟩
  have named : Spec (Works i Opened) (call i .encodeName) fun r p => r = true ∧ Works i Opened p :=
    works_answered fun p hp => hp.smooth.encoded p.tick
  have traced : Spec (Works i Opened) (call i .setTrace) fun r p => r = true ∧ Works i Opened p :=
    works_answered fun p hp => hp.smooth.traced p.tick
  have typed : Spec (Works i Opened) (AQ.modify (·.getTypeInfo i)) fun _ => Works i Fit := by
    refine works_update alters_getTypeInfo fun p q h =>
      ⟨h.1, h.2.1, fun hn => absurd hn h.2.1, fun _ => ⟨rfl, ?_⟩, ?_, ?_⟩
    · exact List.mem_append_right _ List.mem_cons_self
    · exact fun _ he => absurd (h.2.2.1.symm.trans he) nofun
    · exact fun _ he => absurd (h.2.2.2.symm.trans he) nofun
  refine spec_queue fun q => spec_bind (ensured _ fun _ _ _ _ h => h) fun _ =>
    spec_bind (works_ask _) fun b => ?_
  refine spec_ite (fun _ => works_weaken failed fun _ h => h.coherent) fun _ =>
    spec_bind opened fun _ => ?_
  refine spec_bind_eq named (spec_bind_eq named (spec_bind_eq traced ?_))
  refine spec_queue fun q => spec_bind (ensured _ unbooked_opened) fun _ => ?_
  refine spec_bind ((stable_works unbooked_opened).call _) fun b => spec_ite (fun _ => ?_) fun _ => ?_
  · exact spec_bind (works_destructor fun _ h => .inl h.1) fun _ => failed
  · exact spec_bind typed fun _ => spec_pure fun p hp => ⟨hp.mono fun _ h => h.coherent, fun _ => hp⟩

lemma works_checkDequeue : Spec (Works i Fit) (checkDequeueUnlocked i) fun _ => Works i Fit := by
  refine spec_queue fun q => spec_ite (fun _ => ?_) fun _ => spec_pure fun _ hp => hp
  refine spec_bind (stable_fit.call _) fun b => spec_ite (fun _ => spec_pure fun _ hp => hp) fun _ => ?_
  refine spec_bind (works_setQueue _ fun q h => ?_) fun _ => spec_pure fun _ hp => hp
  exact ⟨h.1, h.2.1, fun hn => absurd hn h.2.1, h.2.2.typed, h.2.2.enqueues, fun _ _ => rfl⟩

lemma works_openEnqueue : Spec (Works i Fit) (openEnqueue i) fun _ => Works i Fit := by
  refine spec_queue fun q => spec_ite (fun _ => ?_) fun _ => spec_pure fun _ hp => hp
  refine spec_bind (stable_fit.call _) fun b => spec_ite (fun _ => spec_pure fun _ hp => hp) fun _ => ?_
  refine spec_bind (works_setQueue _ fun q h => ?_) fun _ => spec_pure fun _ hp => hp
  exact ⟨h.1, h.2.1, fun hn => absurd hn h.2.1, h.2.2.typed, fun _ _ => rfl, h.2.2.dequeues⟩

lemma works_handled : Spec (Works i Fit) (handled i) fun _ => Works i Fit := by
  have kept : Spec (Works i Fit) (ask .lostForGood) fun b p => b = false ∧ Works i Fit p :=
    fun p hp => ⟨hp.kept p.tick, works_ask _ p hp⟩
  have same : Spec (Works i Fit) (ask .sessionReplaced) fun b p => b = false ∧ Works i Fit p :=
    fun p hp => ⟨hp.smooth.same p.tick, works_ask _ p hp⟩
  exact spec_bind works_use fun _ => spec_bind_eq kept (spec_bind_eq same (spec_pure fun _ hp => hp))

lemma works_born : Spec (Works i Coherent) (do
    AQ.setQueue i fun q => { q with born := true, valid := true }
    AQ.modify (·.openConn i)) fun _ => Works i fun q => q.valid = true := by
  have born : Spec (Works i Coherent) (AQ.setQueue i fun q => { q with born := true, valid := true })
      fun _ => Works i fun q => q.valid = true := works_setQueue _ fun _ _ => rfl
  exact spec_bind born fun _ => works_update alters_openConn fun _ _ h => h

lemma handlesKeep_works : HandlesKeep i (Works i Coherent) (Works i Fit) (Works i Stripped) where
  any _ hp := hp.mono fun _ h => h.coherent
  on _ hp hv hn := ⟨hp.1, hp.2, hp.3, hv, hn, hp.4⟩
  off _ hp hv hn := ⟨hp.1, hp.2, hp.3, hv, hn, hp.4.bare hn⟩
  stable := stable_fit
  books _ := works_books fun _ _ _ _ h => ⟨h.bare, h.typed, h.enqueues, h.dequeues⟩
  renew := ⟨_, works_born, works_disconnect⟩
  disconnect := works_weaken works_disconnect fun _ h => h.1
  connect := works_connect
  destroy := works_destructor fun _ => .inr
  openEnqueue := works_openEnqueue
  checkDequeue := works_checkDequeue
  handled := works_handled

def AQStep.Smooth : AQStep → Prop
  | .call _ _ answer => OracleDriver.Smooth answer
  | .watchdogEnds => True

def Process.Coherent (p : Process) : Prop := ∀ j, (p.queue j).Coherent

lemma coherent_step {p : Process} (hp : p.Coherent) {s : AQStep} (hk : s.KeepsSession)
    (hs : s.Smooth) : (p.step s).Coherent := by
  cases s with
  | call i op answer =>
    have hstart : Works i Coherent { p with answer := answer, tick := 0 } :=
      ⟨fun j _ => hp j, hk, hs, hp i⟩
    have hend := kept_act handlesKeep_works op _ hstart
    intro j
    by_cases hj : j = i
    · rw [hj]
      exact hend.here
    · exact hend.others j hj
  | watchdogEnds =>
    show (if p.quit then { p with running := false } else p).Coherent
    split <;> exact hp

/-- Without a call that leaves a connection half made or replaces its session, the handles of each
queue are those of the session that its connection is logged on with. -/
theorem handles_coherent (steps : List AQStep) (hk : ∀ s ∈ steps, s.KeepsSession)
    (hs : ∀ s ∈ steps, s.Smooth) :
    (Process.start.run steps).Coherent := by
  have run : ∀ p : Process, p.Coherent → (p.run steps).Coherent := by
    induction steps with
    | nil => exact fun p hp => hp
    | cons s steps ih =>
      intro p hp
      refine ih (fun s' h => hk s' (List.mem_cons_of_mem _ h))
        (fun s' h => hs s' (List.mem_cons_of_mem _ h)) (p.step s) ?_
      exact coherent_step hp (hk s List.mem_cons_self) (hs s List.mem_cons_self)
  exact run _ fun j =>
    ⟨fun _ => ⟨rfl, rfl, rfl⟩, fun h => absurd rfl h, fun h => absurd rfl h, fun h => absurd rfl h⟩

-- the answers of a client that fails in `cs` only, while no session is lost
def failing (cs : List AQCall) (a : AQCall) (_ : ℕ) : Bool :=
  a != .lostForGood && a != .sessionReplaced && !cs.contains a

theorem handles_coherent_post :
    (Process.start.run [.call 0 .create (failing []), .call 0 .post (failing [])]).Coherent := by
  apply handles_coherent
  · intro s hs
    simp only [List.mem_cons, List.not_mem_nil, or_false] at hs
    obtain rfl | rfl := hs <;> exact fun _ => rfl
  · intro s hs
    simp only [List.mem_cons, List.not_mem_nil, or_false] at hs
    obtain rfl | rfl := hs <;> exact ⟨fun _ => rfl, fun _ => rfl, fun _ => rfl⟩

-- a commit in which the receive timeout ends the session
def replacedSteps : List AQStep :=
  [.call 0 .create (failing []), .call 0 .post (failing []),
    .call 0 .commit fun a _ => a == .sessionReplaced]

-- a queue that loses its connection, cannot be connected again at first and then has a connection
-- that cannot be traced
def untracedSteps : List AQStep :=
  [.call 0 .create (failing []), .call 0 (.getMessage 1) (failing [.dequeueGet, .ping, .open]),
    .call 0 .post (failing [.setTrace])]

/-- A session that is replaced leaves the handles of the old one behind, and a connection that
cannot be traced is kept without a type info. -/
theorem not_handles_coherent :
    ((∀ s ∈ replacedSteps, s.KeepsSession) ∧ ¬(Process.start.run replacedSteps).Coherent) ∧
      (∀ s ∈ untracedSteps, s.KeepsSession) ∧ ¬(Process.start.run untracedSteps).Coherent := by
  refine ⟨⟨fun s hs => ?_, fun h => ?_⟩, fun s hs => ?_, fun h => ?_⟩
  · simp only [replacedSteps, List.mem_cons, List.not_mem_nil, or_false] at hs
    obtain rfl | rfl | rfl := hs <;> exact fun _ => rfl
  · obtain ⟨-, hmem⟩ := (h 0).typed (by decide)
    exact absurd hmem (by decide)
  · simp only [untracedSteps, List.mem_cons, List.not_mem_nil, or_false] at hs
    obtain rfl | rfl | rfl := hs <;> exact fun _ => rfl
  · obtain ⟨ht, -⟩ := (h 0).typed (by decide)
    exact absurd ht (by decide)

end OracleDriver
