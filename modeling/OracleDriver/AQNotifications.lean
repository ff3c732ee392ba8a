import OracleDriver.Library.Lease

/-! A notification reaches the subscription that it was posted for, or none: the identifiers of the
subscriptions of all queues, while the subscriptions start, end and are restored and the
notifications wait for their thread. -/

namespace OracleDriver

open Lease

namespace AQNotifications

-- where the call is that has the lock of the queue; what it does between two of these takes no
-- other lock
inductive Phase where
  | free
  | numbering
  | subscribing
  | adding
  | stopping
  | unsubscribing
  | restoring
  | ending
deriving DecidableEq, Repr

structure Queue where
  phase : Phase
  hasSubscription : Bool
  subscription : ℕ
deriving DecidableEq, Repr

inductive Note where
  | posted (n i t : ℕ)
  | checked (n i t : ℕ) (passes : Bool)
  | restored (i t : ℕ)
deriving DecidableEq, Repr

abbrev History := List (Event ℕ Note)

structure Process where
  queue : ℕ → Queue
  lastSubscription : ℕ
  pending : ℕ → Option (ℕ × ℕ)
  posts : ℕ
  history : History

namespace Process

def start : Process where
  queue _ := ⟨.free, false, 0⟩
  lastSubscription := 0
  pending _ := none
  posts := 0
  history := []

def setQueue (i : ℕ) (q : Queue) (p : Process) : Process :=
  { p with queue := Function.update p.queue i q }

def tell (e : Event ℕ Note) (p : Process) : Process := { p with history := e :: p.history }

end Process

-- the steps of startSubscription(), of stopSubscription() and a queue that is deleted, and of a
-- connection that is made again, and a notification that is posted, or checked by the thread that
-- makes the callback, at any time after
inductive Action where
  | startSubscription (i : ℕ)
  | number (i : ℕ)
  | subscribe (i : ℕ) (ok : Bool)
  | add (i : ℕ) (ok : Bool)
  | stopSubscription (i : ℕ)
  | clear (i : ℕ)
  | unsubscribe (i : ℕ)
  | reconnectSubscription (i : ℕ)
  | resubscribe (i : ℕ) (ok : Bool)
  | endSubscription (i : ℕ)
  | postAsyncMessage (i : ℕ)
  | deliverAsyncMessage (n : ℕ)
deriving DecidableEq, Repr

-- an action that is not possible changes nothing
def Process.step (p : Process) : Action → Process
  | .startSubscription i =>
    let q := p.queue i
    if q.phase = .free ∧ q.hasSubscription = false then p.setQueue i { q with phase := .numbering }
    else p
  | .number i =>
    let q := p.queue i
    let t := p.lastSubscription + 1
    if q.phase = .numbering then
      { (p.setQueue i { q with phase := .subscribing, subscription := t }).tell (.granted i t) with lastSubscription := t }
    else p
  | .subscribe i ok =>
    let q := p.queue i
    if q.phase = .subscribing then
      if ok then p.setQueue i { q with phase := .adding, hasSubscription := true }
      else p.setQueue i { q with phase := .ending }
    else p
  | .add i ok =>
    let q := p.queue i
    if q.phase = .adding then p.setQueue i { q with phase := if ok then .free else .stopping } else p
  | .stopSubscription i =>
    let q := p.queue i
    if q.phase = .free ∧ q.hasSubscription = true then p.setQueue i { q with phase := .stopping } else p
  | .clear i =>
    let q := p.queue i
    if q.phase = .stopping then
      (p.setQueue i { q with phase := .unsubscribing, subscription := 0 }).tell (.ended i q.subscription)
    else p
  | .unsubscribe i =>
    let q := p.queue i
    if q.phase = .unsubscribing then
      p.setQueue i { q with phase := .free, hasSubscription := false } else p
  | .reconnectSubscription i =>
    let q := p.queue i
    -- the subscription keeps its identifier
    if q.phase = .free ∧ q.hasSubscription = true then
      p.setQueue i { q with phase := .restoring, hasSubscription := false }
    else p
  | .resubscribe i ok =>
    let q := p.queue i
    if q.phase = .restoring then
      if ok then
        (p.setQueue i { q with phase := .free, hasSubscription := true }).tell
          (.other (.restored i q.subscription))
      else p.setQueue i { q with phase := .ending }
    else p
  | .endSubscription i =>
    let q := p.queue i
    if q.phase = .ending then
      (p.setQueue i { q with phase := .free, subscription := 0 }).tell (.ended i q.subscription)
    else p
  | .postAsyncMessage i =>
    let t := (p.queue i).subscription
    if t = 0 then p
    else
      { p.tell (.other (.posted p.posts i t)) with
        pending := Function.update p.pending p.posts (some (i, t))
        posts := p.posts + 1 }
  | .deliverAsyncMessage n =>
    match p.pending n with
    | none => p
    | some (i, t) =>
      { p.tell (.other (.checked n i t
        ((p.queue i).subscription == t))) with pending := Function.update p.pending n none }

def Process.run (p : Process) (actions : List Action) : Process := actions.foldl Process.step p

-- what is posted is posted for the subscription of its queue, and what is checked has been posted
def Told : Note → History → Prop
  | .posted _ i t, h => holder h i = some t
  | .checked n i t passes, h => (passes = true ↔ holder h i = some t) ∧ .other (.posted n i t) ∈ h
  | .restored i t, h => holder h i = some t

def Queue.Fits (q : Queue) : Prop :=
  match q.phase with
  | .free => q.hasSubscription = true ↔ q.subscription ≠ 0
  | .numbering => q.hasSubscription = false ∧ q.subscription = 0
  | .subscribing | .restoring | .ending => q.hasSubscription = false ∧ q.subscription ≠ 0
  | .adding | .stopping => q.hasSubscription = true ∧ q.subscription ≠ 0
  | .unsubscribing => q.hasSubscription = true ∧ q.subscription = 0

structure Process.Accounted (p : Process) : Prop where
  valid : Valid Told p.history
  fits : ∀ i, (p.queue i).Fits
  held : ∀ i t, holder p.history i = some t ↔ (p.queue i).subscription = t ∧ t ≠ 0
  last : ∀ t ∈ tokens p.history, t ≤ p.lastSubscription
  pending : ∀ n i t, p.pending n = some (i, t) → .other (.posted n i t) ∈ p.history ∧ t ≠ 0

namespace Process

variable {p : Process} {i : ℕ} {q : Queue}

lemma queue_setQueue (j : ℕ) : (p.setQueue i q).queue j = if j = i then q else p.queue j :=
  Function.update_apply ..

-- the subscription of the queue stays what it is
lemma Accounted.setQueue (hp : p.Accounted) (hs : q.subscription = (p.queue i).subscription)
    (hq : q.Fits) :
    (p.setQueue i q).Accounted := by
  refine ⟨hp.valid, fun j => ?_, fun j t => ?_, hp.last, hp.pending⟩ <;> rw [queue_setQueue] <;> split
  · exact hq
  · exact hp.fits j
  · rename_i hj
    rw [hj, hs]
    exact hp.held i t
  · exact hp.held j t

lemma Accounted.tell (hp : p.Accounted) {b : Note} (hb : Told b p.history) :
    (p.tell (.other b)).Accounted where
  valid := .other hp.valid hb
  fits := hp.fits
  held := hp.held
  last := hp.last
  pending n i t hn := (hp.pending n i t hn).imp_left (List.mem_cons_of_mem _)

lemma Accounted.free (hp : p.Accounted) (hs : (p.queue i).subscription = 0) :
    holder p.history i = none := by
  by_contra hn
  obtain ⟨t, ht⟩ := Option.ne_none_iff_exists'.mp hn
  obtain ⟨he, h0⟩ := (hp.held i t).mp ht
  exact h0 (he.symm.trans hs)

lemma Accounted.grant (hp : p.Accounted) (hs : (p.queue i).subscription = 0) (hq : q.Fits)
    (ht : q.subscription = p.lastSubscription + 1) :
    { (p.setQueue i q).tell (.granted i
      (p.lastSubscription + 1)) with lastSubscription := p.lastSubscription + 1 }.Accounted where
  valid := .granted hp.valid (hp.free hs) fun u hu => Nat.lt_succ_of_le (hp.last u hu)
  fits j := by
    show ((p.setQueue i q).queue j).Fits
    rw [queue_setQueue]
    split
    · exact hq
    · exact hp.fits j
  held j t := by
    show holder (.granted i (p.lastSubscription + 1) :: p.history) j = some t ↔
      ((p.setQueue i q).queue j).subscription = t ∧ t ≠ 0
    rw [holder_granted, queue_setQueue]
    split
    · rw [ht, Option.some_inj]
      omega
    · exact hp.held j t
  last u hu := by
    obtain rfl | hu := List.mem_cons.mp hu
    · exact Nat.le_refl _
    · exact Nat.le_succ_of_le (hp.last u hu)
  pending n j t hn := (hp.pending n j t hn).imp_left (List.mem_cons_of_mem _)

lemma Accounted.end (hp : p.Accounted) (hs : (p.queue i).subscription ≠ 0) (hq : q.Fits)
    (h0 : q.subscription = 0) :
    ((p.setQueue i q).tell (.ended i (p.queue i).subscription)).Accounted where
  valid := .ended hp.valid ((hp.held i _).mpr ⟨rfl, hs⟩)
  fits j := by
    show ((p.setQueue i q).queue j).Fits
    rw [queue_setQueue]
    split
    · exact hq
    · exact hp.fits j
  held j t := by
    show holder (.ended i (p.queue i).subscription :: p.history) j = some t ↔
      ((p.setQueue i q).queue j).subscription = t ∧ t ≠ 0
    rw [holder_ended, queue_setQueue]
    split
    · rw [h0]
      exact ⟨by rintro ⟨⟩, fun h => absurd h.1.symm h.2⟩
    · exact hp.held j t
  last := hp.last
  pending n j t hn := (hp.pending n j t hn).imp_left (List.mem_cons_of_mem _)

lemma Accounted.post (hp : p.Accounted) {i : ℕ} (h0 : (p.queue i).subscription ≠ 0) :
    { p.tell (.other (.posted p.posts i (p.queue i).subscription)) with
      pending := Function.update p.pending p.posts (some (i, (p.queue i).subscription))
      posts := p.posts + 1 }.Accounted := by
  have ht := hp.tell (b := .posted p.posts i (p.queue i).subscription) ((hp.held i _).mpr ⟨rfl, h0⟩)
  refine ⟨ht.valid, ht.fits, ht.held, ht.last, fun n j t hn => ?_⟩
  change Function.update p.pending p.posts _ n = _ at hn
  rw [Function.update_apply] at hn
  split at hn
  · rename_i he
    cases hn
    rw [he]
    exact ⟨List.mem_cons_self, h0⟩
  · exact ht.pending n j t hn

lemma Accounted.check (hp : p.Accounted) {n i t : ℕ} (hn : p.pending n = some (i, t)) :
    { p.tell (.other (.checked n i t ((p.queue i).subscription == t))) with
      pending := Function.update p.pending n none }.Accounted := by
  obtain ⟨hm, h0⟩ := hp.pending n i t hn
  have hb : Told (.checked n i t ((p.queue i).subscription == t)) p.history := by
    refine ⟨?_, hm⟩
    rw [beq_iff_eq, hp.held]
    exact ⟨fun he => ⟨he, h0⟩, And.left⟩
  have ht := hp.tell hb
  refine ⟨ht.valid, ht.fits, ht.held, ht.last, fun m j u hm => ?_⟩
  change Function.update p.pending n none m = _ at hm
  rw [Function.update_apply] at hm
  split at hm
  · cases hm
  · exact ht.pending m j u hm

lemma Accounted.step (hp : p.Accounted) (a : Action) : (p.step a).Accounted := by
  cases a with
  | startSubscription i =>
    have hf := hp.fits i
    refine iteInduction (fun hc => ?_) fun _ => hp
    rw [Queue.Fits, hc.1, hc.2] at hf
    exact hp.setQueue rfl ⟨hc.2, not_not.mp fun h0 => Bool.false_ne_true (hf.mpr h0)⟩
  | number i =>
    have hf := hp.fits i
    refine iteInduction (fun hc => ?_) fun _ => hp
    rw [Queue.Fits, hc] at hf
    exact hp.grant hf.2 ⟨hf.1, Nat.succ_ne_zero _⟩ rfl
  | subscribe i ok =>
    have hf := hp.fits i
    refine iteInduction (fun hc => ?_) fun _ => hp
    rw [Queue.Fits, hc] at hf
    cases ok with
    | true => exact hp.setQueue rfl ⟨rfl, hf.2⟩
    | false => exact hp.setQueue rfl hf
  | add i ok =>
    have hf := hp.fits i
    refine iteInduction (fun hc => ?_) fun _ => hp
    rw [Queue.Fits, hc] at hf
    cases ok with
    | true => exact hp.setQueue rfl (iff_of_true hf.1 hf.2)
    | false => exact hp.setQueue rfl hf
  | stopSubscription i =>
    have hf := hp.fits i
    refine iteInduction (fun hc => ?_) fun _ => hp
    rw [Queue.Fits, hc.1] at hf
    exact hp.setQueue rfl ⟨hc.2, hf.mp hc.2⟩
  | clear i =>
    have hf := hp.fits i
    refine iteInduction (fun hc => ?_) fun _ => hp
    rw [Queue.Fits, hc] at hf
    exact hp.end hf.2 ⟨hf.1, rfl⟩ rfl
  | unsubscribe i =>
    have hf := hp.fits i
    refine iteInduction (fun hc => ?_) fun _ => hp
    rw [Queue.Fits, hc] at hf
    exact hp.setQueue rfl (iff_of_false Bool.false_ne_true (not_not_intro hf.2))
  | reconnectSubscription i =>
    have hf := hp.fits i
    refine iteInduction (fun hc => ?_) fun _ => hp
    rw [Queue.Fits, hc.1] at hf
    exact hp.setQueue rfl ⟨rfl, hf.mp hc.2⟩
  | resubscribe i ok =>
    have hf := hp.fits i
    refine iteInduction (fun hc => ?_) fun _ => hp
    rw [Queue.Fits, hc] at hf
    cases ok with
    | true =>
      have hq : (p.setQueue i ⟨.free, true, (p.queue i).subscription⟩).Accounted :=
        hp.setQueue rfl (iff_of_true rfl hf.2)
      exact hq.tell ((hp.held i _).mpr ⟨rfl, hf.2⟩)
    | false => exact hp.setQueue rfl hf
  | endSubscription i =>
    have hf := hp.fits i
    refine iteInduction (fun hc => ?_) fun _ => hp
    rw [Queue.Fits, hc] at hf
    exact hp.end hf.2 (iff_of_false (ne_true_of_eq_false hf.1) (not_not_intro rfl)) rfl
  | postAsyncMessage i => exact iteInduction (fun _ => hp) fun h0 => hp.post h0
  | deliverAsyncMessage n =>
    simp only [Process.step]
    split
    · exact hp
    · exact hp.check ‹_›

lemma Accounted.run (hp : p.Accounted) (actions : List Action) : (p.run actions).Accounted := by
  induction actions generalizing p with
  | nil => exact hp
  | cons a actions ih => exact ih (hp.step a)

lemma accounted_start : start.Accounted where
  valid := .nil
  fits _ := iff_of_false Bool.false_ne_true (not_not_intro rfl)
  held _ _ := ⟨nofun, fun h => absurd h.1.symm h.2⟩
  last _ ht := absurd ht List.not_mem_nil
  pending _ _ _ hn := nomatch hn

end Process

-- what the checks find, where the last event of a history is the first of the list
structure Exact (h : History) : Prop where
  passes : ∀ later between earlier n i t b,
    h = later ++ .other (.checked n i t b) :: (between ++ .other (.posted n i t) :: earlier) →
    (b = true ↔ .ended i t ∉ between)
  posted : ∀ later earlier n i t b, h = later ++ .other (.checked n i t b) :: earlier →
    .other (.posted n i t) ∈ earlier
  active : ∀ later earlier n i t, h = later ++ .other (.posted n i t) :: earlier →
    holder earlier i = some t
  own : ∀ later earlier n i t, h = later ++ .other (.checked n i t true) :: earlier →
    holder earlier i = some t
  replaced : ∀ later between earlier n i t u b,
    h = later ++ .other (.checked n i t b) :: (between ++ .other (.posted n i t) :: earlier) →
    .granted i u ∈ between → b = false
  restored : ∀ later after before earlier n i t b,
    h = later ++ .other (.checked n i t b) ::
      (after ++ .other (.restored i t) :: (before ++ .other (.posted n i t) :: earlier)) →
    (b = true ↔ .ended i t ∉ after)
  fresh : (tokens h).Pairwise (· > ·)

section Valid

variable {later between earlier h : History} {n i t u : ℕ} {b : Bool}

lemma passes_of_valid (hv : Valid Told (.other (.checked n i t b) :: (between ++
    .other (.posted n i t) :: earlier))) :
    b = true ↔ .ended i t ∉ between := by
  have hrest : Valid Told (between ++ .other (.posted n i t) :: earlier) := hv.of_append (l := [_])
  have hposted : holder (.other (.posted n i t) :: earlier) i = some t := hrest.other_of_append
  have hchecked : b = true ↔ holder (between ++ .other (.posted n i t) :: earlier) i = some t :=
    (hv.other_of_append (l := [])).1
  exact hchecked.trans (hrest.holder_iff hposted)

-- the place of the subscription was free when the next one took it
lemma ended_of_granted (hv : Valid Told (between ++ earlier)) (he : holder earlier i = some t)
    (hg : .granted i u ∈ between) : .ended i t ∈ between := by
  obtain ⟨after, before, rfl⟩ := List.append_of_mem hg
  rw [List.append_assoc, List.cons_append] at hv
  have hb : Valid Told (.granted i u :: (before ++ earlier)) := hv.of_append
  cases hb with
  | granted hv' hfree _ =>
    have hnot : holder (before ++ earlier) i ≠ some t := by
      rw [hfree]
      exact nofun
    apply List.mem_append_right
    apply List.mem_cons_of_mem
    by_contra hn
    exact hnot ((hv'.holder_iff he).mpr hn)

lemma exact_of_valid (hv : Valid Told h) : Exact h where
  passes later between earlier n i t b hh := passes_of_valid (hh ▸ hv).of_append
  posted later earlier n i t b hh := ((hh ▸ hv).other_of_append (l := later)).2
  active later earlier n i t hh := (hh ▸ hv).other_of_append (l := later)
  own later earlier n i t hh := ((hh ▸ hv).other_of_append (l := later)).1.mp rfl
  replaced later between earlier n i t u b hh hg := by
    have hc : Valid Told (.other (.checked n i t b) :: (between ++
        .other (.posted n i t) :: earlier)) := (hh ▸ hv).of_append
    have hrest : Valid Told (between ++ .other (.posted n i t) :: earlier) := hc.of_append (l := [_])
    apply eq_false_of_ne_true
    intro hb
    exact (passes_of_valid hc).mp hb (ended_of_granted hrest hrest.other_of_append hg)
  restored later after before earlier n i t b hh := by
    have hc : Valid Told (.other (.checked n i t b) ::
        (after ++ .other (.restored i t) :: (before ++ .other (.posted n i t) :: earlier))) :=
          (hh ▸ hv).of_append
    have hrest : Valid Told
        (after ++ .other (.restored i t) :: (before ++ .other (.posted n i t) :: earlier)) :=
      hc.of_append (l := [_])
    exact (hc.other_of_append (l := [])).1.trans (hrest.holder_iff hrest.other_of_append)
  fresh := hv.tokens_pairwise

end Valid

/-- A notification is delivered if and only if the subscription it was posted for has not ended in
between. -/
theorem exact_reached (actions : List Action) : Exact (Process.start.run actions).history :=
  exact_of_valid (Process.accounted_start.run actions).valid

-- one that is posted before its connection is lost passes after the subscription is restored, and
-- fails after it is stopped and another is started
example :
    (Process.start.run [.startSubscription 0, .number 0, .subscribe 0 true, .add 0 true,
      .postAsyncMessage 0,
    .postAsyncMessage 0, .reconnectSubscription 0, .resubscribe 0 true, .deliverAsyncMessage 0,
      .stopSubscription 0, .clear 0,
    .unsubscribe 0, .startSubscription 0, .number 0, .deliverAsyncMessage 1]).history =
    [.other (.checked 1 0 1 false), .granted 0 2, .ended 0 1, .other (.checked 0 0 1 true),
      .other (.restored 0 1), .other (.posted 1 0 1), .other (.posted 0 0 1), .granted 0 1] := by
  decide

end AQNotifications

end OracleDriver
