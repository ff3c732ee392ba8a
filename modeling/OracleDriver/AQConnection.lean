import OracleDriver.AQWalk

/-! The pointer of a queue to its connection, over the calls in which no session is given up. -/

namespace OracleDriver

open Act AQ AQQueuePriv

-- the pointer is the private data of the Datasource, and without it the queue has no handles
structure AQQueuePriv.Pointed (q : AQQueuePriv) : Prop where
  live : q.conn = none ∨ q.conn = q.ds
  bare : q.conn = none → q.enqueue = false ∧ q.dequeue = false ∧ q.typeInfo = false

structure Process.Aimed (p : Process) : Prop where
  stray : p.stray = false
  missing : p.missing = false
  pointed : ∀ j, (p.queue j).Pointed

def KeepsSession (answer : AQCall → ℕ → Bool) : Prop := ∀ k, answer .lostForGood k = false

-- with a property of queue `i`, while no session is given up
structure Aims (i : ℕ) (L : AQQueuePriv → Prop) (p : Process) : Prop where
  aimed : p.Aimed
  kept : KeepsSession p.answer
  here : L (p.queue i)

variable {i : ℕ} {L M : AQQueuePriv → Prop} {α : Type}

lemma Aims.mono {p : Process} (hp : Aims i L p) (hL : ∀ q, L q → M q) : Aims i M p :=
  ⟨hp.1, hp.2, hL _ hp.3⟩

lemma aims_update {f : Process → Process} {g : Process → AQQueuePriv → AQQueuePriv} (hf : Alters i f g)
    (hg : ∀ p q, q.Pointed → L q → (g p q).Pointed ∧ M (g p q)) :
    Spec (Aims i L) (AQ.modify f) fun _ => Aims i M := by
  rintro p ⟨⟨h₁, h₂, h₃⟩, hk, hL⟩
  obtain ⟨hp, hM⟩ := hg p _ (h₃ i) hL
  refine ⟨⟨(hf.stray p).trans h₁, (hf.missing p).trans h₂, fun j => ?_⟩, ?_, ?_⟩
  · show ((f p).queue j).Pointed
    by_cases hj : j = i
    · rw [hj, hf.here]
      exact hp
    · rw [hf.others p j hj]
      exact h₃ j
  · show KeepsSession (f p).answer
    rw [hf.answer]
    exact hk
  · show M ((f p).queue i)
    rw [hf.here]
    exact hM

lemma aims_setQueue (f : AQQueuePriv → AQQueuePriv)
    (hf : ∀ q, q.Pointed → L q → (f q).Pointed ∧ M (f q)) :
    Spec (Aims i L) (AQ.setQueue i f) fun _ => Aims i M := aims_update (alters_setQueue f) fun _ => hf

-- what does not say anything about the books of the queue
def Unbooked (L : AQQueuePriv → Prop) : Prop :=
  ∀ q h n s, L q → L { q with hasSubscription := h, subscription := n, sandbox := s }

lemma aims_books (hL : Unbooked L) {f : Process → Process} (hf : Books f) :
    Spec (Aims i L) (AQ.modify f) fun _ => Aims i L := by
  rintro p ⟨⟨h₁, h₂, h₃⟩, hk, hl⟩
  obtain ⟨ha, hs, hm, hq⟩ := hf p
  refine ⟨⟨hs.trans h₁, hm.trans h₂, fun j => ?_⟩, ?_, ?_⟩
  · show ((f p).queue j).Pointed
    obtain ⟨h, n, s, he⟩ := hq j
    rw [he]
    exact ⟨(h₃ j).live, (h₃ j).bare⟩
  · show KeepsSession (f p).answer
    rw [ha]
    exact hk
  · show L ((f p).queue i)
    obtain ⟨h, n, s, he⟩ := hq i
    rw [he]
    exact hL _ h n s hl

lemma aims_ask (c : AQCall) : Spec (Aims i L) (ask c) fun _ => Aims i L :=
  fun _ hp => ⟨⟨hp.1.1, hp.1.2, hp.1.3⟩, hp.2, hp.3⟩

lemma aims_lostForGood : Spec (Aims i L) (ask .lostForGood) fun b p => b = false ∧ Aims i L p :=
  fun p hp => ⟨hp.kept p.tick, aims_ask _ p hp⟩

lemma aims_read {f : AQQueuePriv → AQ α} {S : α → Process → Prop}
    (h : ∀ q, q.Pointed → L q → Spec (Aims i fun q' => q' = q ∧ L q') (f q) S) :
    Spec (Aims i L) (AQ.queue i >>= f) S :=
  fun p hp => h _ (hp.1.3 i) hp.3 p ⟨hp.1, hp.2, rfl, hp.3⟩

lemma aims_weaken {m : AQ α} {S : α → Process → Prop} (h : Spec (Aims i M) m S) (hL : ∀ q, L q → M q) :
    Spec (Aims i L) m S := spec_weaken h (fun _ hp => hp.mono hL) fun _ _ hp => hp

-- the queue has a connection
def On (q : AQQueuePriv) : Prop := q.conn ≠ none

lemma aims_use (hL : ∀ q, L q → On q) : Spec (Aims i L) (AQ.use i) fun _ => Aims i L := by
  intro p hp
  show Aims i L (p.use i)
  obtain ⟨c, hc⟩ := Option.ne_none_iff_exists'.1 (hL _ hp.3)
  have hds : (p.queue i).ds = some c := by
    obtain hn | he := (hp.1.3 i).live
    · rw [hn] at hc
      cases hc
    · rw [← he, hc]
  unfold Process.use
  rw [hc]
  dsimp only
  rw [if_pos hds]
  exact hp

lemma stable_aims (hL : Unbooked L) (hon : ∀ q, L q → On q) : Stable i (Aims i L) where
  ask := aims_ask
  use := aims_use hon
  books _ := aims_books hL

lemma unbooked_on : Unbooked On := fun _ _ _ _ h => h

lemma stable_on : Stable i (Aims i On) := stable_aims unbooked_on fun _ h => h

lemma aims_freeEnqueue : Spec (Aims i L) (freeEnqueue i) fun _ => Aims i fun q => q.enqueue = false := by
  refine aims_read fun q hq _ => spec_ite (fun he => ?_) fun he => ?_
  · have hon : On q := fun hn => absurd ((hq.bare hn).1) (by rw [he]; exact nofun)
    refine aims_weaken (spec_bind (aims_use fun _ h => h) fun _ =>
      aims_setQueue _ fun q hq hon => ?_) fun q' h => ?_
    · exact ⟨⟨hq.live, fun hn => absurd hn hon⟩, rfl⟩
    · exact h.1 ▸ hon
  · refine spec_pure fun p hp => hp.mono ?_
    rintro _ ⟨rfl, _⟩
    exact eq_false_of_ne_true he

lemma aims_freeDequeue :
    Spec (Aims i fun q => q.enqueue = false) (freeDequeue i)
      fun _ => Aims i fun q => q.enqueue = false ∧ q.dequeue = false := by
  let L (q : AQQueuePriv) : Prop := On q ∧ q.enqueue = false
  have hstable : Stable i (Aims i L) := stable_aims (fun _ _ _ _ h => h) fun _ h => h.1
  have drop : Spec (Aims i L) (do
      let _ ← call i .dequeueFree
      AQ.setQueue i fun q => { q with dequeue := false }) fun _ => Aims i fun q =>
        q.enqueue = false ∧ q.dequeue = false := by
    refine spec_bind (hstable.call _) fun _ => aims_setQueue _ fun q hq h => ?_
    exact ⟨⟨hq.live, fun hn => absurd hn h.1⟩, h.2, rfl⟩
  refine aims_read fun q hq he => spec_ite (fun hd => ?_) fun hd => ?_
  · have hon : On q := fun hn => absurd ((hq.bare hn).2.1) (by rw [hd]; exact nofun)
    refine aims_weaken (spec_ite (fun _ =>
        spec_bind (hstable.books _ (books_remove i)) fun _ => ?_) fun _ => drop) fun q' h =>
      ⟨h.1 ▸ hon, h.2⟩
    exact spec_bind (hstable.stopSubscription true) fun _ => drop
  · refine spec_pure fun p hp => hp.mono ?_
    rintro _ ⟨rfl, h⟩
    exact ⟨h, eq_false_of_ne_true hd⟩

lemma aims_freeTypeInfo :
    Spec (Aims i fun q => q.enqueue = false ∧ q.dequeue = false) (freeTypeInfo i) fun _ =>
      Aims i fun q => q.enqueue = false ∧ q.dequeue = false ∧ q.typeInfo = false := by
  refine aims_read fun q hq he => spec_ite (fun ht => ?_) fun ht => ?_
  · have hon : On q := fun hn => absurd ((hq.bare hn).2.2) (by rw [ht]; exact nofun)
    refine aims_weaken (spec_bind (aims_use fun _ h => h.1) fun _ =>
        aims_setQueue _ fun q hq h => ?_) fun q' h =>
      (⟨h.1 ▸ hon, h.2⟩ : On q' ∧ q'.enqueue = false ∧ q'.dequeue = false)
    exact ⟨⟨hq.live, fun hn => absurd hn h.1⟩, h.2.1, h.2.2, rfl⟩
  · refine spec_pure fun p hp => hp.mono ?_
    rintro _ ⟨rfl, h⟩
    exact ⟨h.1, h.2, eq_false_of_ne_true ht⟩

def Unconnected (q : AQQueuePriv) : Prop := q.conn = none

lemma aims_disconnect : Spec (Aims i L) (disconnectUnlocked i) fun _ => Aims i Unconnected := by
  refine spec_bind aims_freeEnqueue fun _ => spec_bind aims_freeDequeue fun _ =>
    spec_bind aims_freeTypeInfo fun _ => ?_
  exact aims_setQueue _ fun q hq h => ⟨⟨.inl rfl, fun _ => h⟩, rfl⟩

-- nothing is known of the queue
def Any (_ : AQQueuePriv) : Prop := True

lemma Aims.any {p : Process} (hp : Aims i L p) : Aims i Any p := hp.mono fun _ _ => trivial

lemma aims_born : Spec (Aims i Any) (AQ.setQueue i fun q => { q with born := true, valid := true })
    fun _ => Aims i Any :=
  aims_setQueue _ fun _ hq _ => ⟨⟨hq.live, hq.bare⟩, trivial⟩

lemma aims_drop :
    Spec (Aims i Unconnected) (AQ.setQueue i fun q => { q with ds := none, valid := false })
      fun _ => Aims i Any :=
  aims_setQueue _ fun _ hq hn => ⟨⟨.inl hn, hq.bare⟩, trivial⟩

lemma aims_destructor : Spec (Aims i L) (destructorUnlocked i) fun _ => Aims i Any :=
  spec_queue fun _ => spec_ite (fun _ => spec_bind aims_disconnect fun _ => aims_drop) fun _ =>
    spec_pure fun _ hp => hp.any

lemma aims_openConn : Spec (Aims i L) (AQ.modify (·.openConn i)) fun _ => Aims i On :=
  aims_update alters_openConn fun _ _ _ _ => ⟨⟨.inr rfl, nofun⟩, nofun⟩

lemma aims_getTypeInfo : Spec (Aims i On) (AQ.modify (·.getTypeInfo i)) fun _ => Aims i On :=
  aims_update alters_getTypeInfo fun _ _ hq h => ⟨⟨hq.live, fun hn => absurd hn h⟩, h⟩

lemma tried_got : Spec (Aims i On) (pure false : AQ Bool) (Tried (Aims i Any) (Aims i On)) :=
  spec_pure fun _ hp => ⟨hp.any, fun _ => hp⟩

lemma aims_connect : Spec (Aims i L) (connectUnlocked i) (Tried (Aims i Any) (Aims i On)) := by
  have failed : ∀ {L : AQQueuePriv → Prop}, Spec (Aims i L) (pure true : AQ Bool)
      (Tried (Aims i Any) (Aims i On)) :=
    spec_pure fun _ hp => ⟨hp.any, nofun⟩
  have ensured : ∀ {L : AQQueuePriv → Prop} b, Spec (Aims i L) (AQ.ensure b) fun _ => Aims i L := by
    intro L b p hp
    cases b <;> exact ⟨⟨hp.1.1, hp.1.2, hp.1.3⟩, hp.2, hp.3⟩
  refine spec_queue fun q => spec_bind (ensured _) fun _ => spec_bind (aims_ask _) fun b => ?_
  refine spec_ite (fun _ => failed) fun _ => spec_bind aims_openConn fun _ => ?_
  refine spec_bind (stable_on.call _) fun b => spec_ite (fun _ => failed) fun _ => ?_
  refine spec_bind (stable_on.call _) fun b => spec_ite (fun _ => failed) fun _ => ?_
  refine spec_bind (stable_on.call _) fun b => spec_ite (fun _ => failed) fun _ => ?_
  refine spec_queue fun q => spec_bind (ensured _) fun _ => ?_
  refine spec_bind (stable_on.call _) fun b => spec_ite (fun _ => ?_) fun _ => ?_
  · exact spec_bind aims_destructor fun _ => failed
  · exact spec_bind aims_getTypeInfo fun _ => tried_got

lemma aims_checkDequeue : Spec (Aims i On) (checkDequeueUnlocked i) fun _ => Aims i On := by
  refine spec_queue fun q => spec_ite (fun _ => ?_) fun _ => spec_pure fun _ hp => hp
  refine spec_bind (stable_on.call _) fun b => spec_ite (fun _ => spec_pure fun _ hp => hp) fun _ => ?_
  refine spec_bind (aims_setQueue _ fun q hq h => ?_) fun _ => spec_pure fun _ hp => hp
  exact ⟨⟨hq.live, fun hn => absurd hn h⟩, h⟩

lemma aims_openEnqueue : Spec (Aims i On) (openEnqueue i) fun _ => Aims i On := by
  refine spec_queue fun q => spec_ite (fun _ => ?_) fun _ => spec_pure fun _ hp => hp
  refine spec_bind (stable_on.call _) fun b => spec_ite (fun _ => spec_pure fun _ hp => hp) fun _ => ?_
  refine spec_bind (aims_setQueue _ fun q hq h => ?_) fun _ => spec_pure fun _ hp => hp
  exact ⟨⟨hq.live, fun hn => absurd hn h⟩, h⟩

lemma aims_logon : Spec (Aims i On) (AQ.modify (·.logon i)) fun _ => Aims i On :=
  aims_update alters_logon fun _ _ hq h => ⟨⟨hq.live, hq.bare⟩, h⟩

lemma aims_handled : Spec (Aims i On) (handled i) fun _ => Aims i On := by
  refine spec_bind (aims_use fun _ h => h) fun _ => spec_bind_eq aims_lostForGood ?_
  rw [if_neg Bool.false_ne_true]
  exact spec_bind (aims_ask _) fun b => spec_ite (fun _ => aims_logon) fun _ => spec_pure fun _ hp => hp

lemma handlesKeep_aims : HandlesKeep i (Aims i Any) (Aims i On) (Aims i Unconnected) where
  any _ hp := hp.any
  on _ hp _ hn := ⟨hp.1, hp.2, hn⟩
  off _ hp _ hn := ⟨hp.1, hp.2, hn⟩
  stable := stable_on
  books _ := aims_books fun _ _ _ _ h => h
  renew := ⟨_, spec_bind aims_born fun _ => aims_openConn, aims_disconnect⟩
  disconnect := aims_disconnect
  connect := aims_connect
  destroy := aims_destructor
  openEnqueue := aims_openEnqueue
  checkDequeue := aims_checkDequeue
  handled := aims_handled

-- no session is given up in the step
def AQStep.KeepsSession : AQStep → Prop
  | .call _ _ answer => OracleDriver.KeepsSession answer
  | .watchdogEnds => True

lemma aimed_step {p : Process} (hp : p.Aimed) {s : AQStep} (hs : s.KeepsSession) : (p.step s).Aimed := by
  cases s with
  | call i op answer =>
    have hstart : Aims i Any { p with answer := answer, tick := 0 } := ⟨⟨hp.1, hp.2, hp.3⟩, hs, trivial⟩
    exact (kept_act handlesKeep_aims op _ hstart).aimed
  | watchdogEnds =>
    show (if p.quit then { p with running := false } else p).Aimed
    split
    · exact ⟨hp.1, hp.2, hp.3⟩
    · exact hp

lemma aimed_start : Process.start.Aimed := ⟨rfl, rfl, fun _ => ⟨.inl rfl, fun _ => ⟨rfl, rfl, rfl⟩⟩⟩

/-- As long as no call gives its session up, no queue follows a pointer to a connection that its
Datasource does not own. -/
theorem queues_aimed (steps : List AQStep) (hs : ∀ s ∈ steps, s.KeepsSession) :
    (Process.start.run steps).Aimed := by
  have run : ∀ p : Process, p.Aimed → (p.run steps).Aimed := by
    induction steps with
    | nil => exact fun p hp => hp
    | cons s steps ih =>
      intro p hp
      refine ih (fun s' h => hs s' (List.mem_cons_of_mem _ h)) (p.step s) ?_
      exact aimed_step hp (hs s List.mem_cons_self)
  exact run _ aimed_start

-- the answers of a client that does everything that is asked of it
def obliging (c : AQCall) (_ : ℕ) : Bool := c != .lostForGood

-- a queue that has a connection, commits on it and sends a message
def commitSteps (answer : AQCall → ℕ → Bool) : List AQStep :=
  [.call 0 .create obliging, .call 0 .commit answer, .call 0 .post obliging]

theorem queues_aimed_commit : (Process.start.run (commitSteps obliging)).Aimed :=
  queues_aimed (commitSteps obliging) (by
    intro s hs
    simp only [commitSteps, List.mem_cons, List.not_mem_nil, or_false] at hs
    obtain rfl | rfl | rfl := hs <;> exact fun _ => rfl)

/-- A commit that gives the session up leaves the pointer of the queue behind, and the next call
follows it. -/
theorem not_queues_aimed : ¬∀ steps, (Process.start.run steps).stray = false := by
  intro h
  have hstray : (Process.start.run (commitSteps fun _ _ => true)).stray = true := by decide
  rw [h] at hstray
  cases hstray

end OracleDriver
