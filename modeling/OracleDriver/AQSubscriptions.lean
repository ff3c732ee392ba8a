import OracleDriver.AQWalk

/-! The four places that a subscription is kept in agree whenever no queue is in use. -/

namespace OracleDriver

open Act AQ AQQueuePriv

-- what is kept of queue `j`, as far as it has a subscription
structure Process.Fits (p : Process) (j : ℕ) : Prop where
  ided : (p.queue j).hasSubscription = true ↔ (p.queue j).subscription ≠ 0
  listed : (p.queue j).hasSubscription = true ↔ j ∈ p.objects
  held : (p.queue j).hasSubscription = true → (p.queue j).conn ≠ none ∧ (p.queue j).dequeue = true
  clean : (p.queue j).conn = none → (p.queue j).dequeue = false ∧ (p.queue j).typeInfo = false

structure Process.Accounted (p : Process) : Prop where
  fits : ∀ j, p.Fits j
  count : p.count = p.objects.card
  tid : p.tid ≠ 0 ↔ 0 < p.count
  sound : p.failed = false

-- all but queue `i`, which is in use: it may be listed, and counted, or not
structure Rest (i : ℕ) (listed counted : Bool) (p : Process) : Prop where
  others : ∀ j, j ≠ i → p.Fits j
  listed : i ∈ p.objects ↔ listed = true
  count : p.count = (p.objects.erase i).card + counted.toNat
  tid : p.tid ≠ 0 ↔ 0 < p.count
  sound : p.failed = false

-- the same with a property of queue `i`
def Busy (i : ℕ) (listed counted : Bool) (L : AQQueuePriv → Prop) (p : Process) : Prop :=
  Rest i listed counted p ∧ L (p.queue i)

variable {i : ℕ} {l c : Bool} {L L' : AQQueuePriv → Prop} {α : Type}

lemma Busy.mono {p : Process} (hp : Busy i l c L p) (hL : ∀ q, L q → L' q) : Busy i l c L' p :=
  ⟨hp.1, hL _ hp.2⟩

-- what changes neither the queues nor what is counted
lemma Rest.same {p p' : Process} (hp : Rest i l c p) (hq : ∀ j, j ≠ i → p'.queue j = p.queue j)
    (ho : p'.objects = p.objects)
    (hc : p'.count = p.count) (ht : p'.tid = p.tid) (hf : p'.failed = p.failed) : Rest i l c p' where
  others j hj := by
    obtain ⟨h₁, h₂, h₃, h₄⟩ := hp.others j hj
    constructor <;> rw [hq j hj]
    · exact h₁
    · rw [ho]
      exact h₂
    · exact h₃
    · exact h₄
  listed := by rw [ho, hp.listed]
  count := by rw [hc, ho, hp.count]
  tid := by rw [ht, hc, hp.tid]
  sound := by rw [hf, hp.sound]

lemma busy_ask (a : AQCall) : Spec (Busy i l c L) (ask a) fun _ => Busy i l c L :=
  fun _ hp => ⟨hp.1.same (fun _ _ => rfl) rfl rfl rfl rfl, hp.2⟩

lemma busy_use (j : ℕ) : Spec (Busy i l c L) (use j) fun _ => Busy i l c L := by
  intro p hp
  show Busy i l c L (p.use j)
  unfold Process.use
  split
  · exact ⟨hp.1.same (fun _ _ => rfl) rfl rfl rfl rfl, hp.2⟩
  · split
    · exact hp
    · exact ⟨hp.1.same (fun _ _ => rfl) rfl rfl rfl rfl, hp.2⟩

lemma busy_call (a : AQCall) : Spec (Busy i l c L) (call i a) fun _ => Busy i l c L :=
  spec_bind (busy_use i) fun _ => busy_ask a

lemma busy_update {f : Process → Process} {g : Process → AQQueuePriv → AQQueuePriv} (hf : Alters i f g)
    (hg : ∀ p q, L q → L' (g p q)) : Spec (Busy i l c L) (AQ.modify f) fun _ => Busy i l c L' := by
  rintro p ⟨hr, hL⟩
  refine ⟨hr.same (fun j hj => hf.others p j hj) (hf.objects p) (hf.count p) (hf.tid p)
    (hf.failed p), ?_⟩
  show L' ((f p).queue i)
  rw [hf.here]
  exact hg p _ hL

lemma busy_setQueue (f : AQQueuePriv → AQQueuePriv) (hf : ∀ q, L q → L' (f q)) :
    Spec (Busy i l c L) (setQueue i f) fun _ => Busy i l c L' :=
  busy_update (alters_setQueue f) fun _ => hf

lemma busy_read {f : AQQueuePriv → AQ α} {S : α → Process → Prop}
    (h : ∀ q, L q → Spec (Busy i l c fun q' => q' = q ∧ L q') (f q) S) :
    Spec (Busy i l c L) (AQ.queue i >>= f) S :=
  fun p hp => h _ hp.2 p ⟨hp.1, rfl, hp.2⟩

lemma busy_weaken {m : AQ α} {S : α → Process → Prop} (h : Spec (Busy i l c L') m S)
    (hL : ∀ q, L q → L' q) :
    Spec (Busy i l c L) m S := spec_weaken h (fun _ hp => hp.mono hL) fun _ _ hp => hp

lemma busy_ensure {b : Bool} (hb : b = true) :
    Spec (Busy i l c L) (AQ.ensure b) fun _ => Busy i l c L := by
  subst hb
  exact fun _ hp => hp

lemma Rest.recount {c' : Bool} {p p' : Process} (hp : Rest i l c p) (hq : p'.queue = p.queue)
    (ho : p'.objects = p.objects)
    (hc : p'.count = (p.objects.erase i).card + c'.toNat) (ht : p'.tid ≠ 0 ↔ 0 < p'.count)
    (hf : p'.failed = false) :
    Rest i l c' p' where
  others j hj := by
    obtain ⟨h₁, h₂, h₃, h₄⟩ := hp.others j hj
    constructor <;> rw [hq]
    · exact h₁
    · rw [ho]
      exact h₂
    · exact h₃
    · exact h₄
  listed := by rw [ho, hp.listed]
  count := by rw [hc, ho]
  tid := ht
  sound := hf

lemma Rest.relist {l' : Bool} {p p' : Process} (hp : Rest i l c p) (hq : p'.queue = p.queue)
    (ho : p'.objects.erase i = p.objects.erase i) (hl : i ∈ p'.objects ↔ l' = true)
    (hc : p'.count = p.count)
    (ht : p'.tid = p.tid) (hf : p'.failed = p.failed) : Rest i l' c p' where
  others j hj := by
    obtain ⟨h₁, h₂, h₃, h₄⟩ := hp.others j hj
    have hmem : j ∈ p'.objects ↔ j ∈ p.objects := by
      have hm : j ∈ p'.objects.erase i ↔ j ∈ p.objects.erase i := by rw [ho]
      simpa only [Finset.mem_erase, ne_eq, hj, not_false_eq_true, true_and] using hm
    constructor <;> rw [hq]
    · exact h₁
    · rw [hmem]
      exact h₂
    · exact h₃
    · exact h₄
  listed := hl
  count := by rw [hc, ho, hp.count]
  tid := by rw [ht, hc, hp.tid]
  sound := by rw [hf, hp.sound]

lemma busy_remove : Spec (Busy i true c L) (AQ.modify (·.remove i)) fun _ => Busy i false c L := by
  rintro p ⟨hr, hL⟩
  have hi : i ∈ p.objects := hr.listed.2 rfl
  have hno : i ∈ p.objects.erase i ↔ false = true := by simp
  show Busy i false c L (p.remove i)
  unfold Process.remove Process.ensure
  simp only [hi, decide_true, if_true]
  split
  · rename_i he
    refine ⟨hr.relist rfl ?_ ?_ rfl rfl rfl, hL⟩
    · rw [he]
      rfl
    · rw [he] at hno
      exact hno
  · exact ⟨hr.relist rfl (Finset.erase_idem ..) hno rfl rfl rfl, hL⟩

lemma busy_dec : Spec (Busy i l true L) (AQ.modify Process.dec) fun _ => Busy i l false L := by
  rintro p ⟨hr, hL⟩
  have hc := hr.count
  have hpos : p.count ≠ 0 := by
    rw [hc]
    exact Nat.succ_ne_zero _
  have ht : p.tid ≠ 0 := hr.tid.2 (Nat.pos_of_ne_zero hpos)
  show Busy i l false L p.dec
  unfold Process.dec Process.ensure
  simp only [bne_iff_ne, ne_eq, hpos, not_false_eq_true, if_true]
  split
  · rename_i h1
    refine ⟨hr.recount rfl rfl ?_ ?_ hr.sound, hL⟩
    · simp only [Bool.toNat_true, Bool.toNat_false] at hc ⊢
      omega
    · simp
  · refine ⟨hr.recount rfl rfl ?_ ?_ hr.sound, hL⟩
    · simp only [Bool.toNat_true, Bool.toNat_false] at hc ⊢
      omega
    · exact ⟨fun _ => by show 0 < p.count - 1; omega, fun _ => ht⟩

lemma busy_inc : Spec (Busy i l false L) (AQ.modify Process.inc) fun _ => Busy i l true L := by
  rintro p ⟨hr, hL⟩
  have hc := hr.count
  simp only [Bool.toNat_false, Nat.add_zero] at hc
  show Busy i l true L p.inc
  unfold Process.inc Process.ensure
  split
  · rename_i h0
    have ht : p.tid = 0 := by
      by_contra hne
      exact absurd (hr.tid.1 hne) (by omega)
    simp only [ht, beq_self_eq_true, if_true]
    refine ⟨hr.recount rfl rfl ?_ ?_ hr.sound, hL⟩
    · show 1 = _
      simp only [Bool.toNat_true]
      omega
    · exact ⟨fun _ => Nat.one_pos, fun _ => Nat.succ_ne_zero _⟩
  · rename_i h0
    have ht : p.tid ≠ 0 := hr.tid.2 (Nat.pos_of_ne_zero h0)
    refine ⟨hr.recount rfl rfl ?_ ?_ hr.sound, hL⟩
    · show p.count + 1 = _
      rw [hc]
      rfl
    · exact ⟨fun _ => Nat.succ_pos _, fun _ => ht⟩

lemma busy_managerAdd : Spec (Busy i false c L) (managerAdd i) fun b => Busy i (!b) c L := by
  have insert : Spec (Busy i false c L) (AQ.modify fun p =>
      { p with objects := insert i p.objects, quit := false })
      fun _ => Busy i true c L := by
    rintro p ⟨hr, hL⟩
    refine ⟨hr.relist rfl (Finset.erase_insert_eq_erase ..) ?_ rfl rfl rfl, hL⟩
    exact iff_of_true (Finset.mem_insert_self ..) rfl
  have erase : Spec (Busy i true c L) (AQ.modify fun p => { p with objects := p.objects.erase i })
      fun _ => Busy i false c L := by
    rintro p ⟨hr, hL⟩
    refine ⟨hr.relist rfl (Finset.erase_idem ..) ?_ rfl rfl rfl, hL⟩
    exact iff_of_false (Finset.notMem_erase i p.objects) nofun
  have run : Spec (Busy i true c L) (AQ.modify fun p => { p with running := true }) fun _ =>
    Busy i true c L :=
    fun _ hp => ⟨hp.1.same (fun _ _ => rfl) rfl rfl rfl rfl, hp.2⟩
  unfold managerAdd
  refine spec_bind insert fun _ => spec_bind (Q := fun _ => Busy i true c L) (fun _ hp => hp) fun p => ?_
  refine spec_ite (fun _ => spec_pure fun _ hp => hp) fun _ => spec_bind (busy_ask _) fun b =>
    spec_ite (fun _ => ?_) fun _ => ?_
  · exact spec_bind run fun _ => spec_pure fun _ hp => hp
  · exact spec_bind erase fun _ => spec_pure fun _ hp => hp

-- what is kept of the queue that is in use
structure Local (sub num : Bool) (q : AQQueuePriv) : Prop where
  subscribed : q.hasSubscription = sub
  numbered : q.subscription ≠ 0 ↔ num = true
  held : sub = true → q.conn ≠ none ∧ q.dequeue = true
  clean : q.conn = none → q.dequeue = false ∧ q.typeInfo = false

variable {d : Bool}

-- the subscription of the queue is in all places, or in none
def Whole (i : ℕ) (sub : Bool) (p : Process) : Prop := Busy i sub sub (Local sub sub) p

lemma busy_end : Spec (Busy i l true (Local false d)) (endSubscriptionUnlocked i)
    fun _ => Busy i l false (Local false false) := by
  unfold endSubscriptionUnlocked
  refine spec_bind (busy_setQueue _ fun q hq => ?_) fun _ => busy_dec
  exact ⟨hq.subscribed, iff_of_false (fun h => h rfl) nofun, nofun, hq.clean⟩

lemma busy_stop_kept : Spec (Busy i l c (Local true d)) (stopSubscriptionUnlocked i false)
    fun _ => Busy i l c (Local false d) := by
  unfold stopSubscriptionUnlocked
  refine busy_read fun q hq => busy_weaken ?_ fun _ h => h.2
  have hstop : (q.dequeue && q.hasSubscription) = true := by
    rw [(hq.held rfl).2, hq.subscribed]
    rfl
  refine spec_bind (busy_ensure hstop) fun _ => ?_
  refine spec_bind (busy_call _) fun b => spec_bind (busy_setQueue _ fun q hq => ?_) fun _ =>
    spec_pure fun _ hp => hp
  exact ⟨rfl, hq.numbered, nofun, hq.clean⟩

lemma busy_stop_released :
    Spec (Busy i l true (Local true d)) (stopSubscriptionUnlocked i true)
      fun _ => Busy i l false (Local false false) := by
  unfold stopSubscriptionUnlocked
  refine busy_read fun q hq => busy_weaken ?_ fun _ h => h.2
  have hstop : (q.dequeue && q.hasSubscription) = true := by
    rw [(hq.held rfl).2, hq.subscribed]
    rfl
  refine spec_bind (busy_ensure hstop) fun _ => ?_
  have unid : Spec (Busy i l true (Local true d)) (AQ.setQueue i fun q => { q with subscription := 0 })
      fun _ => Busy i l true (Local true false) :=
    busy_setQueue _ fun q hq => ⟨hq.subscribed, iff_of_false (fun h => h rfl) nofun, hq.held, hq.clean⟩
  refine spec_bind unid fun _ => spec_bind (busy_call _) fun b => spec_bind busy_dec fun _ => ?_
  refine spec_bind (busy_setQueue _ fun q hq => ?_) fun _ => spec_pure fun _ hp => hp
  exact ⟨rfl, hq.numbered, nofun, hq.clean⟩

lemma busy_freeEnqueue {sub num : Bool} : Spec (Busy i l c (Local sub num)) (freeEnqueue i)
    fun _ => Busy i l c (Local sub num) := by
  unfold freeEnqueue
  refine busy_read fun q hq =>
    busy_weaken (spec_ite (fun _ => ?_) fun _ => spec_pure fun _ hp => hp) fun _ h => h.2
  refine spec_bind (busy_use i) fun _ => busy_setQueue _ fun q hq => ?_
  exact ⟨hq.subscribed, hq.numbered, hq.held, hq.clean⟩

-- the queue without its dequeue handle
def Undequeued (num : Bool) (q : AQQueuePriv) : Prop := Local false num q ∧ q.dequeue = false

lemma busy_dropDequeue :
    Spec (Busy i l c (Local false d)) (do
      let _ ← call i .dequeueFree
      AQ.setQueue i fun q => { q with dequeue := false }) fun _ => Busy i l c (Undequeued d) := by
  refine spec_bind (busy_call _) fun _ => busy_setQueue _ fun q hq => ?_
  exact ⟨⟨hq.subscribed, hq.numbered, nofun, fun h => ⟨rfl, (hq.clean h).2⟩⟩, rfl⟩

lemma busy_freeDequeue_idle :
    Spec (Busy i l c (Local false d)) (freeDequeue i) fun _ => Busy i l c (Undequeued d) := by
  unfold freeDequeue
  refine busy_read fun q hq => spec_ite (fun _ => ?_) fun hd => ?_
  · rw [hq.subscribed, if_neg Bool.false_ne_true]
    exact busy_weaken busy_dropDequeue fun _ h => h.2
  · refine spec_pure fun p hp => hp.mono ?_
    rintro _ ⟨rfl, h⟩
    exact ⟨h, eq_false_of_ne_true hd⟩

lemma busy_freeDequeue_subscribed :
    Spec (Busy i true true (Local true true)) (freeDequeue i)
      fun _ => Busy i false false (Undequeued false) := by
  unfold freeDequeue
  refine busy_read fun q hq => ?_
  rw [if_pos (hq.held rfl).2, if_pos hq.subscribed]
  refine busy_weaken (spec_bind busy_remove fun _ => ?_) fun _ h => h.2
  exact spec_bind busy_stop_released fun _ => busy_dropDequeue

-- the queue without a connection and without handles, but perhaps for messages to send
def Bare (num : Bool) (q : AQQueuePriv) : Prop :=
  Local false num q ∧ q.conn = none ∧ q.typeInfo = false ∧ q.dequeue = false

lemma busy_close :
    Spec (Busy i l c (Undequeued d)) (do
      freeTypeInfo i
      AQ.setQueue i fun q => { q with ds := none, conn := none }) fun _ => Busy i l c (Bare d) := by
  have free : Spec (Busy i l c (Undequeued d)) (freeTypeInfo i) fun _ =>
      Busy i l c fun q => Undequeued d q ∧ q.typeInfo = false := by
    unfold freeTypeInfo
    refine busy_read fun q hq => spec_ite (fun _ => ?_) fun ht => ?_
    · refine busy_weaken (spec_bind (busy_use i) fun _ => busy_setQueue _ fun q hq => ?_) fun _ h => h.2
      exact ⟨⟨⟨hq.1.subscribed, hq.1.numbered, hq.1.held, fun h => ⟨(hq.1.clean h).1, rfl⟩⟩, hq.2⟩, rfl⟩
    · refine spec_pure fun p hp => hp.mono ?_
      rintro _ ⟨rfl, h⟩
      exact ⟨h, eq_false_of_ne_true ht⟩
  refine spec_bind free fun _ => busy_setQueue _ fun q hq => ?_
  obtain ⟨⟨hl, hd⟩, ht⟩ := hq
  exact ⟨⟨hl.subscribed, hl.numbered, nofun, fun _ => ⟨hd, ht⟩⟩, rfl, ht, hd⟩

lemma busy_disconnect_idle :
    Spec (Busy i l c (Local false d)) (disconnectUnlocked i) fun _ => Busy i l c (Bare d) :=
  spec_bind busy_freeEnqueue fun _ => spec_bind busy_freeDequeue_idle fun _ => busy_close

lemma busy_disconnect_subscribed :
    Spec (Busy i true true (Local true true)) (disconnectUnlocked i)
      fun _ => Busy i false false (Bare false) :=
  spec_bind busy_freeEnqueue fun _ => spec_bind busy_freeDequeue_subscribed fun _ => busy_close

lemma busy_destructor_idle :
    Spec (Busy i l c (Local false d)) (destructorUnlocked i) fun _ => Busy i l c (Local false d) := by
  unfold destructorUnlocked
  refine busy_read fun q hq =>
    busy_weaken (spec_ite (fun _ => ?_) fun _ => spec_pure fun _ hp => hp) fun _ h => h.2
  refine spec_bind busy_disconnect_idle fun _ => busy_setQueue _ fun q hq => ?_
  exact ⟨hq.1.subscribed, hq.1.numbered, nofun, hq.1.clean⟩

-- with a connection
def Live (sub num : Bool) (q : AQQueuePriv) : Prop := Local sub num q ∧ q.conn ≠ none

lemma busy_connect :
    Spec (Busy i l c (Bare d)) (connectUnlocked i)
      fun r => Busy i l c fun q => Local false d q ∧ (r = false → q.conn ≠ none) := by
  have failed : Spec (Busy i l c (Local false d)) (pure true : AQ Bool) fun r =>
      Busy i l c fun q => Local false d q ∧ (r = false → q.conn ≠ none) :=
    spec_pure fun p hp => hp.mono fun q hq => ⟨hq, nofun⟩
  let Connected (q : AQQueuePriv) : Prop := Live false d q ∧ q.typeInfo = false
  have stop : Spec (Busy i l c Connected) (pure true : AQ Bool) fun r =>
      Busy i l c fun q => Local false d q ∧ (r = false → q.conn ≠ none) :=
        busy_weaken failed fun _ hq => hq.1.1
  have opened : Spec (Busy i l c (Bare d)) (AQ.modify (·.openConn i)) fun _ => Busy i l c Connected :=
    busy_update alters_openConn fun _ q hq =>
      ⟨⟨⟨hq.1.subscribed, hq.1.numbered, nofun, nofun⟩, nofun⟩, hq.2.2.1⟩
  unfold connectUnlocked
  refine busy_read fun q hq => busy_weaken ?_ fun _ h => h.2
  refine spec_bind (busy_ensure (by rw [hq.2.1]; rfl)) fun _ => spec_bind (busy_ask _) fun b => ?_
  refine spec_ite (fun _ => busy_weaken failed fun _ hq => hq.1) fun _ => spec_bind opened fun _ => ?_
  refine spec_bind (busy_call _) fun _ => spec_ite (fun _ => stop) fun _ => ?_
  refine spec_bind (busy_call _) fun _ => spec_ite (fun _ => stop) fun _ => ?_
  refine spec_bind (busy_call _) fun _ => spec_ite (fun _ => stop) fun _ => ?_
  refine busy_read fun q hq => busy_weaken ?_ fun _ h => h.2
  refine spec_bind (busy_ensure (by rw [hq.2]; rfl)) fun _ => spec_bind (busy_call _) fun b =>
    spec_ite (fun _ => ?_) fun _ => ?_
  · exact spec_bind (busy_weaken busy_destructor_idle fun _ hq => hq.1.1) fun _ => failed
  · have typed : Spec (Busy i l c Connected) (AQ.modify (·.getTypeInfo i)) fun _ =>
      Busy i l c (Live false d) :=
      busy_update alters_getTypeInfo fun _ q hq =>
        ⟨⟨hq.1.1.subscribed, hq.1.1.numbered, nofun, fun h => absurd h hq.1.2⟩, hq.1.2⟩
    exact spec_bind typed fun _ => spec_pure fun p hp => hp.mono fun q hq => ⟨hq.1, fun _ => hq.2⟩

lemma busy_checkDequeue {sub num : Bool} :
    Spec (Busy i l c (Live sub num)) (checkDequeueUnlocked i) fun b =>
      Busy i l c fun q => Live sub num q ∧ (b = true → q.dequeue = true) := by
  unfold checkDequeueUnlocked
  refine busy_read fun q hq => spec_ite (fun _ => busy_weaken ?_ fun _ h => h.2) fun hd => ?_
  · refine spec_bind (busy_call _) fun b => spec_ite (fun _ => ?_) fun _ => ?_
    · exact spec_pure fun p hp => hp.mono fun q hq => ⟨hq, nofun⟩
    · refine spec_bind (busy_setQueue _ fun q hq => ?_) fun _ => spec_pure fun _ hp => hp
      exact ⟨⟨⟨hq.1.subscribed, hq.1.numbered, fun h => ⟨hq.2, rfl⟩, fun h => absurd h hq.2⟩,
        hq.2⟩, fun _ => rfl⟩
  · refine spec_pure fun p hp => hp.mono ?_
    rintro _ ⟨rfl, h⟩
    refine ⟨h, fun _ => ?_⟩
    rwa [Bool.not_eq_true', Bool.not_eq_false] at hd

lemma busy_reconnectSubscription :
    Spec (Busy i true true (Local true true)) (reconnectSubscriptionUnlocked i) fun r =>
      Busy i true true (Local (!r) true) := by
  have failed : Spec (Busy i true true (Local false true)) (pure true : AQ Bool) fun r =>
      Busy i true true (Local (!r) true) := spec_pure fun _ hp => hp
  unfold reconnectSubscriptionUnlocked
  refine spec_bind busy_stop_kept fun _ => spec_bind busy_disconnect_idle fun _ =>
    spec_bind busy_connect fun b => ?_
  refine spec_ite (fun _ => busy_weaken failed fun _ hq => hq.1) fun hb => ?_
  refine busy_weaken (spec_bind busy_checkDequeue fun b => ?_) fun q hq =>
    ⟨hq.1, hq.2 (eq_false_of_ne_true hb)⟩
  refine spec_ite (fun _ => busy_weaken failed fun _ hq => hq.1.1) fun hb =>
    spec_bind (busy_call _) fun b => ?_
  refine spec_ite (fun _ => busy_weaken failed fun _ hq => hq.1.1) fun _ => ?_
  rw [Bool.not_eq_true', Bool.not_eq_false] at hb
  refine spec_bind (busy_setQueue _ fun q hq => ?_) fun _ => spec_pure fun _ hp => hp
  exact ⟨rfl, hq.1.1.numbered, fun _ => ⟨hq.1.2, hq.2 hb⟩, hq.1.1.clean⟩

-- the queue is not in use, or its use has just begun or is about to end
def Settled (i : ℕ) (p : Process) : Prop := ∃ sub, Whole i sub p

def Online (i : ℕ) (p : Process) : Prop := ∃ sub, Busy i sub sub (Live sub sub) p

lemma Online.settled {p : Process} (hp : Online i p) : Settled i p :=
  hp.imp fun _ h => h.mono fun _ hq => hq.1

lemma Whole.settled {sub : Bool} {p : Process} (hp : Whole i sub p) : Settled i p := ⟨sub, hp⟩

lemma spec_settled {m : AQ α} {S : α → Process → Prop} (h : ∀ sub, Spec (Whole i sub) m S) :
    Spec (Settled i) m S :=
  fun p ⟨sub, hp⟩ => h sub p hp

lemma spec_online {m : AQ α} {S : α → Process → Prop}
    (h : ∀ sub, Spec (Busy i sub sub (Live sub sub)) m S) :
    Spec (Online i) m S := fun p ⟨sub, hp⟩ => h sub p hp

lemma settled_connect :
    Spec (Busy i false false (Bare false)) (connectUnlocked i) (Tried (Settled i) (Online i)) := by
  refine spec_weaken busy_connect (fun _ hp => hp) fun r p hp =>
    ⟨⟨false, hp.mono fun q hq => hq.1⟩, fun hr => ?_⟩
  exact ⟨false, hp.mono fun q hq => ⟨hq.1, hq.2 hr⟩⟩

lemma settled_checkValid : Spec (Settled i) (checkValidUnlocked i) (Tried (Settled i) (Online i)) := by
  refine spec_settled fun sub => ?_
  unfold checkValidUnlocked
  refine busy_read fun q hq => spec_ite (fun _ => ?_) fun _ => spec_ite (fun hn => ?_) fun hn => ?_
  · exact spec_pure fun p hp => ⟨⟨sub, hp.mono fun _ h => h.2⟩, nofun⟩
  · rw [Option.isNone_iff_eq_none] at hn
    cases sub with
    | true => exact absurd hn (hq.held rfl).1
    | false =>
      refine spec_bind (busy_weaken settled_connect ?_) fun r => spec_ite (fun _ => ?_) fun hr => ?_
      · rintro _ ⟨rfl, h⟩
        exact ⟨h, hn, (h.clean hn).2, (h.clean hn).1⟩
      · exact spec_pure fun p hp => ⟨hp.1, nofun⟩
      · exact spec_pure fun p hp => ⟨hp.1, fun _ => hp.2 (eq_false_of_ne_true hr)⟩
  · have hlive : Spec (Busy i sub sub fun q' => q' = q ∧ Local sub sub q') (pure false : AQ Bool)
        fun _ => Online i := by
      refine spec_pure fun p hp => ⟨sub, hp.mono ?_⟩
      rintro _ ⟨rfl, h⟩
      refine ⟨h, fun he => hn ?_⟩
      rw [he]
      rfl
    exact spec_weaken hlive (fun _ hp => hp) fun r p hp => ⟨hp.settled, fun _ => hp⟩

lemma online_ask (a : AQCall) : Spec (Online i) (ask a) fun _ => Online i :=
  spec_online fun sub p hp => ⟨sub, busy_ask a p hp⟩

lemma online_handled : Spec (Online i) (handled i) fun _ => Online i := by
  refine spec_online fun sub p hp => ⟨sub, ?_⟩
  have kept : Spec (Busy i sub sub (Live sub sub)) (handled i) fun _ =>
      Busy i sub sub (Live sub sub) := by
    refine spec_bind (busy_use i) fun _ => spec_bind (busy_ask _) fun b => ?_
    refine spec_ite (fun _ => busy_setQueue _ fun q hq => ?_) fun _ => spec_bind (busy_ask _) fun b => ?_
    · exact ⟨⟨hq.1.subscribed, hq.1.numbered, hq.1.held, hq.1.clean⟩, hq.2⟩
    · refine spec_ite (fun _ => busy_update alters_logon fun _ q hq => ?_) fun _ =>
        spec_pure fun _ hp => hp
      exact ⟨⟨hq.1.subscribed, hq.1.numbered, hq.1.held, hq.1.clean⟩, hq.2⟩
  exact kept p hp

lemma online_openEnqueue : Spec (Online i) (openEnqueue i) fun _ => Online i := by
  refine spec_online fun sub => ?_
  unfold openEnqueue
  refine busy_read fun q hq => busy_weaken ?_ fun _ h => h.2
  refine spec_ite (fun _ => ?_) fun _ => spec_pure fun p hp => ⟨sub, hp⟩
  refine spec_bind (busy_call _) fun b => spec_ite (fun _ => spec_pure fun p hp => ⟨sub, hp⟩) fun _ => ?_
  refine spec_bind (busy_setQueue _ fun q hq => ?_) fun _ => spec_pure fun p hp => ⟨sub, hp⟩
  exact ⟨⟨hq.1.subscribed, hq.1.numbered, hq.1.held, hq.1.clean⟩, hq.2⟩

lemma online_checkDequeue : Spec (Online i) (checkDequeueUnlocked i) fun _ => Online i :=
  spec_online fun sub p hp => ⟨sub, (busy_checkDequeue p hp).mono fun _ hq => hq.1⟩

lemma settled_reconnect : Spec (Online i) (reconnectUnlocked i) (Tried (Settled i) (Online i)) := by
  refine spec_online fun sub => ?_
  unfold reconnectUnlocked
  refine busy_read fun q hq => busy_weaken ?_ fun _ h => h.2
  cases sub with
  | true =>
    rw [if_pos hq.1.subscribed]
    refine busy_weaken (spec_bind busy_reconnectSubscription fun r => ?_) fun _ hq => hq.1
    cases r with
    | true =>
      refine spec_bind busy_end fun _ => spec_bind busy_remove fun _ => ?_
      exact spec_pure fun p hp => ⟨⟨false, hp⟩, nofun⟩
    | false => exact spec_pure fun p hp =>
        ⟨⟨true, hp⟩, fun _ => ⟨true, hp.mono fun q hq => ⟨hq, (hq.held rfl).1⟩⟩⟩
  | false =>
    rw [hq.1.subscribed, if_neg Bool.false_ne_true]
    exact busy_weaken (spec_bind busy_disconnect_idle fun _ => settled_connect) fun _ hq => hq.1

lemma callsKeep_settled : CallsKeep i (Settled i) (Online i) where
  any _ hp := hp.settled
  ask := online_ask
  use := spec_online fun sub p hp => ⟨sub, busy_use i p hp⟩
  checkValid := settled_checkValid
  openEnqueue := online_openEnqueue
  checkDequeue := online_checkDequeue
  reconnect := settled_reconnect
  handled := online_handled

-- the subscription has a number before the client knows it
lemma busy_number (sub : Bool) :
    Spec (Busy i l c fun q => Live sub d q ∧ q.dequeue = true) (AQ.modify fun p =>
      { p.setQueue i fun q => { q with sandbox := true, subscription := p.lastSubscription + 1 } with
        lastSubscription := p.lastSubscription + 1 }) fun _ => Busy i l c fun q =>
          Live sub true q ∧ q.dequeue = true := by
  refine busy_update alters_number fun _ q hq => ?_
  exact ⟨⟨⟨hq.1.1.subscribed, iff_of_true (Nat.succ_ne_zero _) rfl, hq.1.1.held, hq.1.1.clean⟩,
    hq.1.2⟩, hq.2⟩

lemma settled_subscribe :
    Spec (Busy i false false fun q => Live false false q ∧ q.dequeue = true) (do
      AQ.modify Process.inc
      AQ.modify fun p => { p.setQueue i fun q =>
        { q with sandbox := true, subscription := p.lastSubscription + 1 } with
        lastSubscription := p.lastSubscription + 1 }
      if !(← call i .dequeueSubscribe) then
        endSubscriptionUnlocked i
        return
      AQ.setQueue i fun q => { q with hasSubscription := true }
      if ← managerAdd i then
        let _ ← stopSubscriptionUnlocked i true) fun _ => Settled i := by
  refine spec_bind busy_inc fun _ => spec_bind (busy_number false) fun _ =>
    spec_bind (busy_call _) fun b => ?_
  refine spec_ite (fun _ => ?_) fun _ => ?_
  · exact spec_bind (busy_weaken busy_end fun q hq => hq.1.1) fun _ => spec_pure fun p hp => ⟨false, hp⟩
  · have subscribed : Spec (Busy i false true fun q => Live false true q ∧ q.dequeue = true)
        (AQ.setQueue i fun q => { q with hasSubscription := true }) fun _ =>
          Busy i false true (Local true true) :=
      busy_setQueue _ fun q hq => ⟨rfl, hq.1.1.numbered, fun _ => ⟨hq.1.2, hq.2⟩, hq.1.1.clean⟩
    refine spec_bind subscribed fun _ => spec_bind busy_managerAdd fun b => ?_
    cases b with
    | true => exact spec_bind busy_stop_released fun _ => spec_pure fun p hp => ⟨false, hp⟩
    | false => exact spec_pure fun p hp => ⟨true, hp⟩

lemma settled_startSubscription : Spec (Settled i) (startSubscription i) fun _ => Settled i := by
  refine kept_checked callsKeep_settled (spec_online fun sub => spec_bind busy_checkDequeue fun b => ?_)
  refine spec_ite (fun _ => spec_pure fun p hp => ⟨sub, hp.mono fun q hq => hq.1.1⟩) fun hb => ?_
  rw [Bool.not_eq_true', Bool.not_eq_false] at hb
  refine busy_read fun q hq => spec_ite (fun _ => ?_) fun hs => ?_
  · exact spec_pure fun p hp => ⟨sub, hp.mono fun q hq => hq.2.1.1⟩
  · have hsub : sub = false := by
      rw [← hq.1.1.subscribed]
      exact eq_false_of_ne_true hs
    subst hsub
    exact busy_weaken settled_subscribe fun q hq => ⟨hq.2.1, hq.2.2 hb⟩

lemma settled_stopSubscription : Spec (Settled i) (stopSubscription i) fun _ => Settled i := by
  refine kept_checked callsKeep_settled (spec_online fun sub => busy_read fun q hq =>
    busy_weaken ?_ fun q hq => hq.2.1)
  refine spec_ite (fun hs => ?_) fun _ => spec_pure fun p hp => ⟨sub, hp⟩
  have hsub : sub = true := by
    rw [← hq.1.subscribed]
    exact hs
  subst hsub
  refine spec_bind busy_remove fun _ => spec_bind busy_stop_released fun _ => ?_
  exact spec_pure fun p hp => ⟨false, hp⟩

lemma settled_checkSubscription : Spec (Settled i) (checkSubscription i) fun _ => Settled i := by
  refine spec_settled fun sub => busy_read fun q hq => busy_weaken ?_ fun q hq => hq.2
  refine spec_ite (fun _ => spec_pure fun p hp => ⟨sub, hp⟩) fun hs => ?_
  have hsub : sub = true := by
    rw [← hq.subscribed]
    simp only [Bool.or_eq_true, Bool.not_eq_true', not_or, Bool.not_eq_false] at hs
    exact hs.1.2
  subst hsub
  refine spec_bind (busy_call _) fun b => spec_ite (fun _ => spec_pure fun p hp => ⟨true, hp⟩)
    fun _ => ?_
  refine spec_bind busy_reconnectSubscription fun r => ?_
  cases r with
  | true => exact spec_bind busy_remove fun _ => fun p hp => ⟨false, busy_end p hp⟩
  | false => exact spec_pure fun p hp => ⟨true, hp⟩

lemma settled_disconnect : Spec (Settled i) (disconnectUnlocked i)
    fun _ => Busy i false false (Bare false) := by
  refine spec_settled fun sub => ?_
  cases sub with
  | true => exact busy_disconnect_subscribed
  | false => exact busy_disconnect_idle

lemma settled_destroy : Spec (Settled i) (destructorUnlocked i) fun _ => Settled i := by
  refine spec_settled fun sub => busy_read fun q hq => busy_weaken ?_ fun q hq => hq.2
  refine spec_ite (fun _ => ?_) fun _ => spec_pure fun p hp => ⟨sub, hp⟩
  have gone : Spec (Busy i false false (Bare false))
      (AQ.setQueue i fun q => { q with ds := none, valid := false }) fun _ =>
      Whole i false := busy_setQueue _ fun q hq => ⟨hq.1.subscribed, hq.1.numbered, nofun, hq.1.clean⟩
  have all : Spec (Settled i) (do
      disconnectUnlocked i
      AQ.setQueue i fun q => { q with ds := none, valid := false }) fun _ => Settled i :=
    spec_bind settled_disconnect fun _ p hp => (gone p hp).settled
  exact fun p hp => all p ⟨sub, hp⟩

lemma settled_create : Spec (Settled i) (create i) fun _ => Settled i := by
  refine spec_settled fun sub => busy_read fun q hq => busy_weaken ?_ fun q hq => hq.2
  refine spec_ite (fun _ => spec_pure fun p hp => ⟨sub, hp⟩) fun _ => ?_
  have born : Spec (Whole i sub) (AQ.setQueue i fun q => { q with born := true, valid := true })
      fun _ => Whole i sub :=
    busy_setQueue _ fun q hq => ⟨hq.subscribed, hq.numbered, hq.held, hq.clean⟩
  have opened : Spec (Whole i sub) (AQ.modify (·.openConn i)) fun _ => Whole i sub :=
    busy_update alters_openConn fun _ q hq =>
      ⟨hq.subscribed, hq.numbered, fun h => ⟨nofun, (hq.held h).2⟩, nofun⟩
  have closed : Spec (Whole i sub) (disconnectUnlocked i) fun _ => Busy i false false (Bare false) :=
    fun p hp => settled_disconnect p hp.settled
  refine spec_bind born fun _ => spec_bind opened fun _ => spec_bind closed fun _ => ?_
  exact spec_bind settled_connect fun _ => spec_pure fun p hp => hp.1

lemma settled_act (op : AQOp) : Spec (Settled i) (op.act i) fun _ => Settled i := by
  cases op with
  | create => exact settled_create
  | post => exact kept_post callsKeep_settled
  | postHash => exact kept_postHash callsKeep_settled
  | getMessage turns => exact kept_getMessage callsKeep_settled turns
  | startSubscription => exact settled_startSubscription
  | stopSubscription => exact settled_stopSubscription
  | commit => exact kept_commit callsKeep_settled
  | rollback => exact kept_rollback callsKeep_settled
  | checkSubscription => exact settled_checkSubscription
  | destroy => exact settled_destroy

lemma Process.Accounted.settled {p : Process} (hp : p.Accounted) (i : ℕ) : Settled i p := by
  obtain ⟨hided, hlisted, hheld, hclean⟩ := hp.fits i
  refine ⟨(p.queue i).hasSubscription, ⟨fun j _ => hp.fits j, hlisted.symm, ?_, hp.tid, hp.sound⟩,
    rfl, hided.symm, hheld, hclean⟩
  rw [hp.count]
  by_cases hi : i ∈ p.objects
  · rw [hlisted.2 hi, Finset.card_erase_of_mem hi]
    have hpos := Finset.card_pos.2 ⟨i, hi⟩
    simp only [Bool.toNat_true]
    omega
  · rw [Finset.erase_eq_of_notMem hi, eq_false_of_ne_true fun h => hi (hlisted.1 h)]
    rfl

lemma Settled.accounted {p : Process} (hp : Settled i p) : p.Accounted := by
  obtain ⟨sub, hr, hL⟩ := hp
  refine ⟨fun j => ?_, ?_, hr.tid, hr.sound⟩
  · by_cases hj : j = i
    · subst hj
      refine ⟨?_, ?_, ?_, hL.clean⟩
      · rw [hL.subscribed]
        exact hL.numbered.symm
      · rw [hL.subscribed]
        exact hr.listed.symm
      · rw [hL.subscribed]
        exact hL.held
    · exact hr.others j hj
  · rw [hr.count]
    by_cases hi : i ∈ p.objects
    · have hpos := Finset.card_pos.2 ⟨i, hi⟩
      rw [hr.listed.1 hi, Finset.card_erase_of_mem hi]
      simp only [Bool.toNat_true]
      omega
    · rw [Finset.erase_eq_of_notMem hi, eq_false_of_ne_true fun h => hi (hr.listed.2 h)]
      rfl

lemma accounted_same {p p' : Process} (hp : p.Accounted) (hq : p'.queue = p.queue)
    (ho : p'.objects = p.objects)
    (hc : p'.count = p.count) (ht : p'.tid = p.tid) (hf : p'.failed = p.failed) : p'.Accounted := by
  obtain ⟨sub, hr, hL⟩ := hp.settled 0
  refine Settled.accounted (i := 0) ⟨sub, hr.same (fun j _ => congrFun hq j) ho hc ht hf, ?_⟩
  rw [hq]
  exact hL

lemma accounted_step {p : Process} (hp : p.Accounted) (s : AQStep) : (p.step s).Accounted := by
  cases s with
  | call i op answer =>
    have hstart : ({ p with answer := answer, tick := 0 } : Process).Accounted :=
      accounted_same hp rfl rfl rfl rfl rfl
    exact (settled_act op _ (hstart.settled i)).accounted
  | watchdogEnds =>
    show (if p.quit then { p with running := false } else p).Accounted
    split
    · exact accounted_same hp rfl rfl rfl rfl rfl
    · exact hp

lemma accounted_start : Process.start.Accounted where
  fits j := ⟨by simp [Process.start, AQQueuePriv.unborn],
    by simp [Process.start, AQQueuePriv.unborn], nofun, fun _ => ⟨rfl, rfl⟩⟩
  count := rfl
  tid := by simp [Process.start]
  sound := rfl

/-- In every state of a process between two calls, the flag, the number and the registration of each
subscription agree, and the callback thread is reserved for as many subscriptions as there are. -/
theorem subscriptions_accounted (steps : List AQStep) : (Process.start.run steps).Accounted := by
  have run : ∀ p : Process, p.Accounted → (p.run steps).Accounted := by
    induction steps with
    | nil => exact fun p hp => hp
    | cons s steps ih => exact fun p hp => ih (p.step s) (accounted_step hp s)
  exact run _ accounted_start

end OracleDriver
