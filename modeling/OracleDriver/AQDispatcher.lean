import OracleDriver.Library.Worker

/-! The callbacks of all queues are made one at a time and in the order in which they were posted,
each once, by a thread that ends when there are none and is started again by the next one. -/

namespace OracleDriver

open Worker

namespace AQCallbackDispatcher

inductive Kind where
  | asyncMessage
  | subscriptionLost
deriving DecidableEq, Repr

structure Callback where
  kind : Kind
  priv : ℕ
  obj : Option ℕ
  subscription : ℕ
deriving DecidableEq, Repr

-- `post` is a call that needs the thread, and `run` is the thread
def machine : Machine (List Callback) Callback Callback Empty where
  enter cb queue := queue ++ [cb]
  undo _ queue := queue.dropLast
  alter g _ := g.elim
  leaves queue := queue.isEmpty
  take queue := queue.tail
  job _ queue := queue.take 1
  rests := false

abbrev Dispatcher := State (List Callback) Callback Callback

-- the callbacks whose `post` has returned 0
def accepted (s : Dispatcher) : List Callback := (s.returns.filter (·.ok)).map (·.arg)

-- the thread makes `n` callbacks while nothing is posted
def makes (t n : ℕ) : List (Choice Callback Empty) :=
  (List.replicate n [.done t, .lock t, .turn t true]).flatten

structure Delivers (s : Dispatcher) : Prop where
  begun : s.begun <+: accepted s
  queued : s.lock = none → s.begun ++ s.data = accepted s
  single : ∀ t t', s.threads t = .working → s.threads t' = .working → t = t'
  failed : ∀ r ∈ s.returns, r.ok = false → r.after = r.before
  joined : ∀ j ∈ s.joined, j.left = true
  once : s.joined.Pairwise fun i j => i.thread ≠ j.thread
  running : s.lock = none → s.data ≠ [] → s.running = true ∧ s.threads s.current ≠ .unborn ∧
    s.threads s.current ≠ .left
  made : s.lock = none → (s.run machine (makes s.current s.data.length)).begun = accepted s

variable {s : Dispatcher}

lemma sound : machine.Sound (fun _ => True) (· = []) where
  enter _ _ := id
  undo _ _ := id
  alter _ _ := id
  take _ := id
  leaves _ _ h := List.isEmpty_iff.mp h
  idle_alter g := g.elim
  idle_undo _ _ _ := List.dropLast_concat.trans ‹_›

-- the callback of a `post` that has not returned yet
def posting (s : Dispatcher) : List Callback :=
  match s.lock with
  | some (.caller c) => (s.callers c).entered.toList
  | _ => []

structure Ordered (s : Dispatcher) : Prop where
  queued : s.begun ++ s.data = accepted s ++ posting s
  awake : ∀ t, s.threads t ≠ .resting

lemma posting_eq {c : ℕ} (hl : s.lock = some (.caller c)) :
    posting s = (s.callers c).entered.toList := by
  rw [posting, hl]

lemma posting_thread {t : ℕ} (hl : s.lock = some (.thread t)) : posting s = [] := by
  rw [posting, hl]

lemma Ordered.move {t : Dispatcher} (hm : Moves machine s t)
    (hi : Inv machine (fun _ => True) (· = []) s) (hs : Ordered s) :
    Ordered t := by
  obtain ⟨hq, ha⟩ := hs
  have hc : ∀ c, (s.callers c).holds = true ↔ s.lock = some (.caller c) :=
    fun c => hi.locked.holder (.caller c)
  have ht : ∀ n, s.threads n = .head ↔ s.lock = some (.thread n) := fun n => hi.locked.holder (.thread n)
  have hf := hi.kept.fits
  cases hm with
  | @fail c a b j h =>
    -- what the call has added is the last of the queue
    have hl : s.lock = some (.caller c) := (hc c).mp (by rw [h]; rfl)
    have hd : s.data = b ++ [a] := by
      have := hf c
      rw [h] at this
      exact this.1
    rw [posting_eq hl, h, hd, ← List.append_assoc] at hq
    have hb : s.begun ++ b = accepted s := (List.append_left_inj [a]).1 hq
    refine ⟨?_, ha⟩
    simpa [State.ret, accepted, posting, machine, hd] using hb
  | @turn t ok h he =>
    rw [posting_thread ((ht t).mp h), List.append_nil] at hq
    refine ⟨?_, fun t' => ?_⟩
    · simp only [State.setThread, accepted, posting, machine, List.append_nil, List.append_assoc]
      rwa [← List.drop_one, List.take_append_drop]
    · simp only [State.setThread, Function.update_apply]
      grind
  | _ =>
    refine ⟨?_, fun t' => ?_⟩ <;>
      simp only [accepted, posting, State.setCaller, State.setThread, State.ret,
        Function.update_apply, machine, List.filter_append, List.map_append] at * <;>
      grind [Caller.holds, Caller.entered]

lemma run_makes_one {t : ℕ} {x : Callback} {rest : List Callback} (hl : s.lock = none)
    (ht : s.threads t = .waiting ∨ s.threads t = .working) (hd : s.data = x :: rest) :
    s.run machine [.done t, .lock t, .turn t true] =
      { s.setThread t .working with begun := s.begun ++ [x], data := rest } := by
  have hh : s.run machine [.done t, .lock t] =
      { s.setThread t .head with lock := some (.thread t) } := by
    obtain h | h := ht <;> simp [State.run, State.step, State.setThread, h, hl, machine]
  have hb : State.run machine s [.done t, .lock t, .turn t true] =
      State.step machine (s.run machine [.done t, .lock t]) (.turn t true) := rfl
  rw [hb, hh]
  simp [State.step, State.setThread, hd, hl, machine]

lemma run_makes {t n : ℕ} (hl : s.lock = none) (ht : s.threads t = .waiting ∨ s.threads t = .working)
    (hn : s.data.length = n) : (s.run machine (makes t n)).begun = s.begun ++ s.data := by
  induction n generalizing s with
  | zero =>
    rw [List.length_eq_zero_iff.mp hn, List.append_nil]
    rfl
  | succ n ih =>
    obtain ⟨x, rest, hd⟩ := List.exists_cons_of_length_eq_add_one hn
    have hm : makes t (n + 1) = [.done t, .lock t, .turn t true] ++ makes t n := rfl
    have hs : s.run machine (makes t (n + 1)) =
        (s.run machine [.done t, .lock t, .turn t true]).run machine (makes t n) := by
      rw [hm, State.run, List.foldl_append]
      rfl
    rw [hs, run_makes_one hl ht hd, ih, hd]
    · simp
    · exact hl
    · exact .inr (Function.update_self ..)
    · rw [hd] at hn
      exact Nat.succ.inj hn

lemma Ordered.made (hi : Inv machine (fun _ => True) (· = []) s) (ho : Ordered s) (hl : s.lock = none) :
    (s.run machine (makes s.current s.data.length)).begun = accepted s := by
  have hq : s.begun ++ s.data = accepted s := by
    rw [ho.queued, posting, hl, List.append_nil]
  cases hr : s.running with
  | false =>
    have hd : s.data = [] := hi.kept.quiet hl hr
    rw [← hq, hd, List.append_nil]
    rfl
  | true =>
    obtain ⟨hu, hx⟩ := Thread.alive_iff.mp (hi.alone.runs (.inl hr))
    rw [← hq]
    apply run_makes hl _ rfl
    cases ht : s.threads s.current with
    | unborn => exact absurd ht hu
    | left => exact absurd ht hx
    | resting => exact absurd ht (ho.awake _)
    | head => cases hl.symm.trans (hi.locked.thread ht)
    | waiting => exact .inl rfl
    | working => exact .inr rfl

lemma Ordered.begun (hi : Inv machine (fun _ => True) (· = []) s) (ho : Ordered s) :
    s.begun <+: accepted s := by
  have hq := ho.queued
  cases hl : s.lock with
  | none =>
    rw [posting, hl, List.append_nil] at hq
    exact ⟨_, hq⟩
  | some p =>
    cases p with
    | thread t =>
      rw [posting_thread hl, List.append_nil] at hq
      exact ⟨_, hq⟩
    | caller c =>
      rw [posting_eq hl] at hq
      have hf := hi.kept.fits c
      cases hp : s.callers c with
      | looking a b | reaping a b | starting a b j | started a b j =>
        -- the callback that is being posted is in the queue
        rw [hp] at hq hf
        have hd : s.data = b ++ [a] := hf.1
        rw [hd, ← List.append_assoc] at hq
        exact ⟨b, (List.append_left_inj [a]).1 hq⟩
      | _ =>
        rw [hp] at hq
        exact ⟨_, hq.trans (List.append_nil _)⟩

def reached (actions : List (Choice Callback Empty)) : Dispatcher := (State.init []).run machine actions

lemma inv_reached (actions : List (Choice Callback Empty)) :
    Inv machine (fun _ => True) (· = []) (reached actions) :=
  Inv.run sound trivial rfl actions

lemma ordered_reached (actions : List (Choice Callback Empty)) : Ordered (reached actions) := by
  refine (State.run_invariant (P := fun s => Inv machine (fun _ => True) (· = []) s ∧
    Ordered s) ?_ actions ?_).2
  · exact fun _ _ hm h => ⟨h.1.move sound hm, h.2.move hm h.1⟩
  · exact ⟨.init trivial rfl, rfl, fun t => by simp [State.init]⟩

/-- In every state that is reached the callbacks that have been accepted are made once and in order,
by one thread at a time. -/
theorem delivers_reached (actions : List (Choice Callback Empty)) : Delivers (reached actions) := by
  have hi := inv_reached actions
  have ho := ordered_reached actions
  refine ⟨ho.begun hi, fun hl => ?_, fun t t' h h' => ?_, fun r hr hf => ?_, fun j hj => ?_,
    hi.joins.distinct, fun hl hd => ?_, ho.made hi⟩
  · rw [ho.queued, posting, hl, List.append_nil]
  · rw [(hi.alone.current t (by rw [h]; rfl)).1, (hi.alone.current t' (by rw [h']; rfl)).1]
  · obtain he | ⟨-, he⟩ := hi.kept.returns r hr hf
    · exact he
    · exact he.trans List.dropLast_concat
  · exact (hi.joins.joined j hj).2.1
  · have hr : (reached actions).running = true := by
      by_contra hr
      exact hd (hi.kept.quiet hl (eq_false_of_ne_true hr))
    exact ⟨hr, Thread.alive_iff.mp (hi.alone.runs (.inl hr))⟩

end AQCallbackDispatcher

end OracleDriver
