import Mathlib.Data.List.Nodup
import Mathlib.Logic.Function.Basic

/-! A thread that is started by a call that needs it, ends by itself, and is joined by the call that
starts the next one, when all of them share a lock. -/

namespace Worker

-- what is under the lock is changed by a call that needs the thread, which is undone when no thread
-- can be created, by other calls, and by the thread in each turn of its loop
structure Machine (σ α β γ : Type) where
  enter : α → σ → σ
  undo : α → σ → σ
  alter : γ → σ → σ
  leaves : σ → Bool
  take : σ → σ
  job : Bool → σ → List β
  rests : Bool

inductive Caller (σ α : Type) where
  | idle
  | waiting (a : α)
  | inside (a : α) (before : σ)
  | looking (a : α) (before : σ)
  | reaping (a : α) (before : σ)
  | starting (a : α) (before : σ) (joins : Option ℕ)
  | started (a : α) (before : σ) (joins : Option ℕ)
  | leaving (joins : Option ℕ)

inductive Thread where
  | unborn
  | waiting
  | head
  | working
  | resting
  | left
deriving DecidableEq, Repr

inductive Party where
  | caller (c : ℕ)
  | thread (t : ℕ)
deriving DecidableEq, Repr

structure Return (σ α : Type) where
  arg : α
  ok : Bool
  before : σ
  after : σ

-- what holds when a thread is joined
structure Join where
  thread : ℕ
  left : Bool
  holding : Bool
deriving DecidableEq, Repr

structure State (σ α β : Type) where
  data : σ
  lock : Option Party
  started : Bool
  running : Bool
  current : ℕ
  created : ℕ
  callers : ℕ → Caller σ α
  threads : ℕ → Thread
  begun : List β
  returns : List (Return σ α)
  joined : List Join

inductive Choice (α γ : Type) where
  | call (c : ℕ) (a : α)
  | acquire (c : ℕ)
  | enter (c : ℕ) (ok : Bool)
  | look (c : ℕ)
  | reap (c : ℕ)
  | create (c : ℕ) (ok : Bool)
  | finish (c : ℕ)
  | join (c : ℕ)
  | alter (g : γ)
  | lock (t : ℕ)
  | turn (t : ℕ) (ok : Bool)
  | done (t : ℕ)

variable {σ α β γ : Type}

namespace State

def init (d : σ) : State σ α β where
  data := d
  lock := none
  started := false
  running := false
  current := 0
  created := 0
  callers _ := .idle
  threads _ := .unborn
  begun := []
  returns := []
  joined := []

def setCaller (c : ℕ) (p : Caller σ α) (s : State σ α β) : State σ α β :=
  { s with callers := Function.update s.callers c p }

def setThread (t : ℕ) (p : Thread) (s : State σ α β) : State σ α β :=
  { s with threads := Function.update s.threads t p }

-- the call gives up the lock, and joins a thread that it has taken after that
def ret (c : ℕ) (a : α) (before : σ) (ok : Bool) (joins : Option ℕ) (s : State σ α β) : State σ α β :=
  { s with
    lock := none
    returns := s.returns ++ [⟨a, ok, before, s.data⟩]
    callers := Function.update s.callers c (.leaving joins) }

-- an action that is not possible changes nothing
def step (M : Machine σ α β γ) (s : State σ α β) : Choice α γ → State σ α β
  | .call c a =>
    match s.callers c with
    | .idle => s.setCaller c (.waiting a)
    | _ => s
  | .acquire c =>
    match s.callers c, s.lock with
    | .waiting a, none => { s.setCaller c (.inside a s.data) with lock := some (.caller c) }
    | _, _ => s
  | .enter c ok =>
    match s.callers c with
    | .inside a b =>
      if ok then { s.setCaller c (.looking a b) with data := M.enter a s.data }
      else s.ret c a b false none
    | _ => s
  | .look c =>
    match s.callers c with
    | .looking a b => if s.running then s.ret c a b true none else s.setCaller c (.reaping a b)
    | _ => s
  | .reap c =>
    match s.callers c with
    | .reaping a b =>
      { s.setCaller c
        (.starting a b (if s.started then some s.current else none)) with started := false }
    | _ => s
  | .create c ok =>
    match s.callers c with
    | .starting a b j =>
      if ok then
        { (s.setCaller c (.started a b j)).setThread s.created .waiting with
          current := s.created
          created := s.created + 1 }
      else { s with data := M.undo a s.data }.ret c a b false j
    | _ => s
  | .finish c =>
    match s.callers c with
    | .started a b j => { s with started := true, running := true }.ret c a b true j
    | _ => s
  | .join c =>
    match s.callers c with
    | .leaving none => s.setCaller c .idle
    | .leaving (some t) =>
      { s.setCaller c .idle with joined := ⟨t, s.threads t == .left,
        s.lock == some (.caller c)⟩ :: s.joined }
    | _ => s
  | .alter g =>
    match s.lock with
    | none => { s with data := M.alter g s.data }
    | some _ => s
  | .lock t =>
    match s.threads t, s.lock with
    | .waiting, none => { s.setThread t .head with lock := some (.thread t) }
    | .resting, none =>
      if M.leaves s.data then { s.setThread t .head with lock := some (.thread t) }
      else s.setThread t .waiting
    | _, _ => s
  | .turn t ok =>
    match s.threads t with
    | .head =>
      if M.leaves s.data then { s.setThread t .left with lock := none, running := false }
      else { s.setThread t .working with lock := none, begun := s.begun ++ M.job ok s.data, data := M.take s.data }
    | _ => s
  | .done t =>
    match s.threads t with
    | .working => s.setThread t (if M.rests then .resting else .waiting)
    | _ => s

def run (M : Machine σ α β γ) (s : State σ α β) (actions : List (Choice α γ)) : State σ α β :=
  actions.foldl (step M) s

end State

namespace Caller

-- the call that has the lock, and what it has done under it
def holds : Caller σ α → Bool
  | .inside _ _ | .looking _ _ | .reaping _ _ | .starting _ _ _ | .started _ _ _ => true
  | _ => false

def entered : Caller σ α → Option α
  | .looking a _ | .reaping a _ | .starting a _ _ | .started a _ _ => some a
  | _ => none

-- the thread that the call has to join
def taken : Caller σ α → Option ℕ
  | .starting _ _ j | .started _ _ j | .leaving j => j
  | _ => none

-- a thread that the call has created is not known to be running yet
def creating : Caller σ α → Bool
  | .started _ _ _ => true
  | _ => false

end Caller

-- what an action that is possible does
inductive Moves (M : Machine σ α β γ) (s : State σ α β) : State σ α β → Prop
  | call {c a} (h : s.callers c = .idle) : Moves M s (s.setCaller c (.waiting a))
  | acquire {c a} (h : s.callers c = .waiting a) (hl : s.lock = none) :
      Moves M s { s.setCaller c (.inside a s.data) with lock := some (.caller c) }
  | enter {c a b} (h : s.callers c = .inside a b) :
      Moves M s { s.setCaller c (.looking a b) with data := M.enter a s.data }
  | refuse {c a b} (h : s.callers c = .inside a b) : Moves M s (s.ret c a b false none)
  | found {c a b} (h : s.callers c = .looking a b) (hr : s.running = true) : Moves M s
      (s.ret c a b true none)
  | look {c a b} (h : s.callers c = .looking a b) (hr : s.running = false) : Moves M s
      (s.setCaller c (.reaping a b))
  | reap {c a b} (h : s.callers c = .reaping a b) :
      Moves M s { s.setCaller c (.starting a b
        (if s.started then some s.current else none)) with started := false }
  | create {c a b j} (h : s.callers c = .starting a b j) :
      Moves M s
        { (s.setCaller c (.started a b j)).setThread s.created .waiting with
          current := s.created
          created := s.created + 1 }
  | fail {c a b j} (h : s.callers c = .starting a b j) :
      Moves M s ({ s with data := M.undo a s.data }.ret c a b false j)
  | finish {c a b j} (h : s.callers c = .started a b j) :
      Moves M s ({ s with started := true, running := true }.ret c a b true j)
  | joinNone {c} (h : s.callers c = .leaving none) : Moves M s (s.setCaller c .idle)
  | join {c t} (h : s.callers c = .leaving (some t)) :
      Moves M s
        { s.setCaller c .idle with joined := ⟨t, s.threads t == .left,
          s.lock == some (.caller c)⟩ :: s.joined }
  | alter {g} (hl : s.lock = none) : Moves M s { s with data := M.alter g s.data }
  | lock {t} (h : s.threads t = .waiting) (hl : s.lock = none) :
      Moves M s { s.setThread t .head with lock := some (.thread t) }
  | wake {t} (h : s.threads t = .resting) (hl : s.lock = none) :
      Moves M s { s.setThread t .head with lock := some (.thread t) }
  | rest {t} (h : s.threads t = .resting) : Moves M s (s.setThread t .waiting)
  | leave {t} (h : s.threads t = .head) (he : M.leaves s.data = true) :
      Moves M s { s.setThread t .left with lock := none, running := false }
  | turn {t ok} (h : s.threads t = .head) (he : M.leaves s.data = false) :
      Moves M s
        { s.setThread t .working with lock := none, begun := s.begun ++ M.job ok s.data, data := M.take s.data }
  | done {t} (h : s.threads t = .working) : Moves M s
      (s.setThread t (if M.rests then .resting else .waiting))

variable {M : Machine σ α β γ} {s : State σ α β}

lemma State.step_cases (x : Choice α γ) : s.step M x = s ∨ Moves M s (s.step M x) := by
  cases x with
  | call c a =>
    rw [step]
    split
    · exact .inr (.call ‹_›)
    · exact .inl rfl
  | acquire c =>
    rw [step]
    split
    · exact .inr (.acquire ‹_› ‹_›)
    · exact .inl rfl
  | enter c ok =>
    rw [step]
    split
    · cases ok with
      | true => exact .inr (.enter ‹_›)
      | false => exact .inr (.refuse ‹_›)
    · exact .inl rfl
  | look c =>
    rw [step]
    split
    · by_cases hr : s.running = true
      · rw [if_pos hr]
        exact .inr (.found ‹_› hr)
      · rw [if_neg hr]
        exact .inr (.look ‹_› (eq_false_of_ne_true hr))
    · exact .inl rfl
  | reap c =>
    rw [step]
    split
    · exact .inr (.reap ‹_›)
    · exact .inl rfl
  | create c ok =>
    rw [step]
    split
    · cases ok with
      | true => exact .inr (.create ‹_›)
      | false => exact .inr (.fail ‹_›)
    · exact .inl rfl
  | finish c =>
    rw [step]
    split
    · exact .inr (.finish ‹_›)
    · exact .inl rfl
  | join c =>
    rw [step]
    split
    · exact .inr (.joinNone ‹_›)
    · exact .inr (.join ‹_›)
    · exact .inl rfl
  | alter g =>
    rw [step]
    split
    · exact .inr (.alter ‹_›)
    · exact .inl rfl
  | lock t =>
    rw [step]
    split
    · exact .inr (.lock ‹_› ‹_›)
    · split
      · exact .inr (.wake ‹_› ‹_›)
      · exact .inr (.rest ‹_›)
    · exact .inl rfl
  | turn t ok =>
    rw [step]
    split
    · by_cases he : M.leaves s.data = true
      · rw [if_pos he]
        exact .inr (.leave ‹_› he)
      · rw [if_neg he]
        exact .inr (.turn ‹_› (eq_false_of_ne_true he))
    · exact .inl rfl
  | done t =>
    rw [step]
    split
    · exact .inr (.done ‹_›)
    · exact .inl rfl

-- what every action keeps, every run keeps
lemma State.run_invariant {P : State σ α β → Prop} (h : ∀ s t, Moves M s t → P s → P t)
    (actions : List (Choice α γ))
    (hs : P s) : P (s.run M actions) := by
  induction actions generalizing s with
  | nil => exact hs
  | cons x actions ih =>
    apply ih
    obtain he | hm := s.step_cases (M := M) x
    · rwa [he]
    · exact h _ _ hm hs

namespace Caller

def seeking : Caller σ α → Bool
  | .reaping _ _ | .starting _ _ _ | .started _ _ _ => true
  | _ => false

def reaped : Caller σ α → Bool
  | .starting _ _ _ | .started _ _ _ => true
  | _ => false

variable {p : Caller σ α}

lemma seeking_holds (h : p.seeking = true) : p.holds = true := by
  cases p <;> first | rfl | cases h

lemma creating_holds (h : p.creating = true) : p.holds = true := by
  cases p <;> first | rfl | cases h

lemma reaped_holds (h : p.reaped = true) : p.holds = true := by
  cases p <;> first | rfl | cases h

end Caller

def Thread.alive : Thread → Bool
  | .unborn | .left => false
  | _ => true

lemma Thread.alive_iff {t : Thread} : t.alive = true ↔ t ≠ .unborn ∧ t ≠ .left := by
  cases t <;> decide

-- what is seen of each party after one of them has moved
lemma update_same {τ κ : Type} (f : τ → κ) {g : ℕ → τ} {n : ℕ} {x : τ} (h : f x = f (g n)) (m : ℕ) :
    f (Function.update g n x m) = f (g m) := by
  by_cases hm : m = n
  · rw [hm, Function.update_self, h]
  · rw [Function.update_of_ne hm]

lemma update_imp {τ : Type} (P : τ → Prop) {g : ℕ → τ} {n : ℕ} {x : τ} (h : P x → P (g n)) (m : ℕ)
    (hm : P (Function.update g n x m)) : P (g m) := by
  by_cases he : m = n
  · rw [he, Function.update_self] at hm
    rw [he]
    exact h hm
  · rwa [Function.update_of_ne he] at hm

-- a thread has been created that a call is still to report
def State.Creating (s : State σ α β) : Prop := ∃ c, (s.callers c).creating = true

def State.Holds (s : State σ α β) : Party → Prop
  | .caller c => (s.callers c).holds = true
  | .thread t => s.threads t = .head

-- who has the lock, and which threads have been created
structure Locked (s : State σ α β) : Prop where
  holder : ∀ p, s.Holds p ↔ s.lock = some p
  unborn : ∀ t, s.threads t = .unborn ↔ s.created ≤ t

variable {t : State σ α β}

lemma Locked.caller (hs : Locked s) {c : ℕ} (h : (s.callers c).holds = true) :
    s.lock = some (.caller c) :=
  (hs.holder (.caller c)).mp h

lemma Locked.thread (hs : Locked s) {n : ℕ} (h : s.threads n = .head) : s.lock = some (.thread n) :=
  (hs.holder (.thread n)).mp h

lemma Locked.one (hs : Locked s) {c c' : ℕ} (h : (s.callers c).holds = true)
    (h' : (s.callers c').holds = true) : c = c' := by
  have he := (hs.caller h).symm.trans (hs.caller h')
  injection he with he
  injection he

lemma holder_keeps (hs : ∀ p, s.Holds p ↔ s.lock = some p) (hp : ∀ p, t.Holds p ↔ s.Holds p)
    (hl : t.lock = s.lock)
    (p : Party) : t.Holds p ↔ t.lock = some p := by
  rw [hp, hs, hl]

lemma holder_takes {p : Party} (hs : ∀ p, s.Holds p ↔ s.lock = some p)
    (ho : ∀ q, q ≠ p → (t.Holds q ↔ s.Holds q))
    (hn : s.lock = none) (hp : t.Holds p) (hl : t.lock = some p) (q : Party) :
    t.Holds q ↔ t.lock = some q := by
  rw [hl, Option.some.injEq]
  by_cases hq : q = p
  · subst hq
    exact ⟨fun _ => rfl, fun _ => hp⟩
  · rw [ho q hq, hs q, hn]
    exact ⟨nofun, fun h => absurd h.symm hq⟩

lemma holder_gives {p : Party} (hs : ∀ p, s.Holds p ↔ s.lock = some p)
    (ho : ∀ q, q ≠ p → (t.Holds q ↔ s.Holds q))
    (hh : s.Holds p) (hp : ¬t.Holds p) (hl : t.lock = none) (q : Party) :
    t.Holds q ↔ t.lock = some q := by
  rw [hl]
  refine ⟨fun h => ?_, nofun⟩
  by_cases hq : q = p
  · subst hq
    exact absurd h hp
  · have he := ((hs p).mp hh).symm.trans ((hs q).mp ((ho q hq).mp h))
    exact absurd (Option.some.inj he).symm hq

-- the other parties hold what they held when a caller or a thread moves
lemma others_caller {c : ℕ} {p : Caller σ α} (hc : t.callers = Function.update s.callers c p)
    (ht : t.threads = s.threads)
    (q : Party) (hq : q ≠ .caller c) : t.Holds q ↔ s.Holds q := by
  cases q with
  | caller c' =>
    have hne : c' ≠ c := fun h => hq (congrArg _ h)
    rw [State.Holds, hc, Function.update_of_ne hne]
    rfl
  | thread n =>
    rw [State.Holds, ht]
    rfl

lemma others_thread {n : ℕ} {p : Thread} (hc : t.callers = s.callers)
    (ht : t.threads = Function.update s.threads n p)
    (q : Party) (hq : q ≠ .thread n) : t.Holds q ↔ s.Holds q := by
  cases q with
  | caller c =>
    rw [State.Holds, hc]
    rfl
  | thread m =>
    have hne : m ≠ n := fun h => hq (congrArg _ h)
    rw [State.Holds, ht, Function.update_of_ne hne]
    rfl

namespace Locked

variable {c n : ℕ} {p : Caller σ α} {q : Thread}

lemma caller_keeps (hs : Locked s) (hc : t.callers = Function.update s.callers c p)
    (ht : t.threads = s.threads)
    (hn : t.created = s.created) (hp : p.holds = (s.callers c).holds) (hl : t.lock = s.lock) :
    Locked t := by
  refine ⟨holder_keeps hs.holder (fun q => ?_) hl, fun n => by rw [ht, hn, hs.unborn]⟩
  cases q with
  | caller c' => rw [State.Holds, hc, update_same Caller.holds hp, State.Holds]
  | thread n => rw [State.Holds, ht, State.Holds]

lemma caller_takes (hs : Locked s) (hc : t.callers = Function.update s.callers c p)
    (ht : t.threads = s.threads)
    (hn : t.created = s.created) (hp : p.holds = true) (hf : s.lock = none)
    (hl : t.lock = some (.caller c)) : Locked t := by
  refine ⟨holder_takes hs.holder (others_caller hc ht) hf ?_ hl, fun n => by rw [ht, hn, hs.unborn]⟩
  rw [State.Holds, hc, Function.update_self, hp]

lemma caller_gives (hs : Locked s) (hc : t.callers = Function.update s.callers c p)
    (ht : t.threads = s.threads)
    (hn : t.created = s.created) (hh : (s.callers c).holds = true) (hp : p.holds = false)
    (hl : t.lock = none) : Locked t := by
  refine ⟨holder_gives hs.holder (others_caller hc ht) hh ?_ hl, fun n => by rw [ht, hn, hs.unborn]⟩
  rw [State.Holds, hc, Function.update_self, hp]
  exact Bool.false_ne_true

lemma thread_unborn (hs : Locked s) (ht : t.threads = Function.update s.threads n q)
    (hn : t.created = s.created)
    (hb : s.threads n ≠ .unborn) (hq : q ≠ .unborn) (m : ℕ) : t.threads m = .unborn ↔ t.created ≤ m := by
  have he : (Function.update s.threads n q m = .unborn) = (s.threads m = .unborn) :=
    update_same (· = Thread.unborn) (by rw [eq_false hq, eq_false hb]) m
  rw [ht, he, hn, hs.unborn]

lemma thread_keeps (hs : Locked s) (hc : t.callers = s.callers)
    (ht : t.threads = Function.update s.threads n q)
    (hn : t.created = s.created) (hb : s.threads n ≠ .unborn) (hq : q ≠ .unborn)
    (hh : s.threads n ≠ .head) (hp : q ≠ .head)
    (hl : t.lock = s.lock) : Locked t := by
  refine ⟨holder_keeps hs.holder (fun r => ?_) hl, hs.thread_unborn ht hn hb hq⟩
  cases r with
  | caller c => rw [State.Holds, hc, State.Holds]
  | thread m =>
    have he : (Function.update s.threads n q m = .head) = (s.threads m = .head) :=
      update_same (· = Thread.head) (by rw [eq_false hp, eq_false hh]) m
    rw [State.Holds, ht, he, State.Holds]

lemma thread_takes (hs : Locked s) (hc : t.callers = s.callers)
    (ht : t.threads = Function.update s.threads n .head)
    (hn : t.created = s.created) (hb : s.threads n ≠ .unborn) (hf : s.lock = none)
    (hl : t.lock = some (.thread n)) : Locked t := by
  refine ⟨holder_takes hs.holder (others_thread hc ht) hf ?_ hl, hs.thread_unborn ht hn hb nofun⟩
  rw [State.Holds, ht, Function.update_self]

lemma thread_gives (hs : Locked s) (hc : t.callers = s.callers)
    (ht : t.threads = Function.update s.threads n q)
    (hn : t.created = s.created) (hh : s.threads n = .head) (hb : q ≠ .unborn) (hp : q ≠ .head)
    (hl : t.lock = none) : Locked t := by
  refine ⟨holder_gives hs.holder (others_thread hc ht) hh ?_ hl,
    hs.thread_unborn ht hn (by rw [hh]; nofun) hb⟩
  rw [State.Holds, ht, Function.update_self]
  exact hp

lemma move (hm : Moves M s t) (hs : Locked s) : Locked t := by
  cases hm with
  | call h | enter h | look h hr | reap h | joinNone h | join h =>
    exact hs.caller_keeps rfl rfl rfl (by rw [h]; rfl) rfl
  | acquire h hl => exact hs.caller_takes rfl rfl rfl rfl hl rfl
  | refuse h | found h hr | fail h | finish h =>
    exact hs.caller_gives rfl rfl rfl (by rw [h]; rfl) rfl rfl
  | create h =>
    have hu : s.threads s.created = .unborn := (hs.unborn _).mpr (Nat.le_refl _)
    refine ⟨holder_keeps hs.holder (fun q => ?_) rfl, fun n => ?_⟩
    · cases q with
      | caller c' => exact (congrArg (· = true) (update_same Caller.holds (by rw [h]; rfl) c')).to_iff
      | thread n => exact (update_same (g := s.threads) (· = Thread.head) (by rw [hu]; simp) n).to_iff
    · show Function.update s.threads s.created Thread.waiting n = .unborn ↔ s.created + 1 ≤ n
      have hn := hs.unborn n
      by_cases he : n = s.created
      · subst he
        rw [Function.update_self]
        exact ⟨nofun, fun h => absurd h (Nat.not_succ_le_self _)⟩
      · rw [Function.update_of_ne he, hn]
        omega
  | alter hl => exact ⟨hs.holder, hs.unborn⟩
  | lock h hl | wake h hl => exact hs.thread_takes rfl rfl rfl (by rw [h]; nofun) hl rfl
  | rest h => exact hs.thread_keeps rfl rfl rfl (by rw [h]; nofun) nofun (by rw [h]; nofun) nofun rfl
  | leave h he | turn h he => exact hs.thread_gives rfl rfl rfl h nofun nofun rfl
  | done h =>
    refine hs.thread_keeps rfl rfl rfl (by rw [h]; nofun) ?_ (by rw [h]; nofun) ?_ rfl <;> split
      <;> nofun

end Locked


-- a thread is there if and only if it is known to be running, or its creation is still to be reported
structure Alone (s : State σ α β) : Prop where
  current : ∀ n, (s.threads n).alive = true → n = s.current ∧ (s.running = true ∨ s.Creating)
  runs : s.running = true ∨ s.Creating → (s.threads s.current).alive = true
  seeking : ∀ c, (s.callers c).seeking = true → s.running = false

lemma State.creating_congr (h : ∀ c, (t.callers c).creating = (s.callers c).creating) :
    t.Creating ↔ s.Creating :=
  exists_congr fun c => by rw [h c]

lemma State.Creating.of_caller (hl : Locked s) {c : ℕ} (hc : s.Creating)
    (h : (s.callers c).holds = true) :
    (s.callers c).creating = true := by
  obtain ⟨c', hc'⟩ := hc
  rwa [hl.one h (Caller.creating_holds hc')]

lemma State.Creating.not_thread (hl : Locked s) {n : ℕ} (h : s.threads n = .head) : ¬s.Creating := by
  rintro ⟨c, hc⟩
  have he := (hl.caller (Caller.creating_holds hc)).symm.trans (hl.thread h)
  injection he with he
  injection he

namespace Alone

variable {c n : ℕ} {p : Caller σ α} {q : Thread}

lemma frame (hs : Alone s) (ht : ∀ n, (t.threads n).alive = (s.threads n).alive)
    (hk : t.current = s.current)
    (hr : t.running = s.running) (hc : t.Creating ↔ s.Creating)
    (hq : ∀ c, (t.callers c).seeking = true → t.running = false) :
    Alone t := by
  refine ⟨fun n hn => ?_, fun h => ?_, hq⟩
  · rw [ht] at hn
    rw [hk, hr, hc]
    exact hs.current n hn
  · rw [hr, hc] at h
    rw [ht, hk]
    exact hs.runs h

lemma caller (hs : Alone s) (hc : t.callers = Function.update s.callers c p) (ht : t.threads = s.threads)
    (hk : t.current = s.current) (hr : t.running = s.running) (hp : p.creating = (s.callers c).creating)
    (hq : p.seeking = true → s.running = false) : Alone t := by
  refine hs.frame (fun n => by rw [ht]) hk hr (State.creating_congr fun c' => ?_) fun c' h => ?_
  · rw [hc, update_same Caller.creating hp]
  · rw [hr]
    rw [hc] at h
    by_cases he : c' = c
    · rw [he, Function.update_self] at h
      exact hq h
    · rw [Function.update_of_ne he] at h
      exact hs.seeking c' h

lemma thread (hs : Alone s) (hc : t.callers = s.callers) (ht : t.threads = Function.update s.threads n q)
    (hk : t.current = s.current) (hr : t.running = s.running)
    (hq : q.alive = (s.threads n).alive) : Alone t := by
  refine hs.frame (fun m => ?_) hk hr (State.creating_congr fun c => by rw [hc]) fun c h => ?_
  · rw [ht, update_same Thread.alive hq]
  · rw [hr]
    rw [hc] at h
    exact hs.seeking c h

lemma create {a : α} {b : σ} {j : Option ℕ} (hs : Alone s) (hl : Locked s)
    (h : s.callers c = .starting a b j) :
    Alone { (s.setCaller c (.started a b j)).setThread s.created .waiting with
      current := s.created
      created := s.created + 1 } := by
  have hr : s.running = false := hs.seeking c (by rw [h]; rfl)
  have hn : ¬s.Creating := fun hn => by
    have := hn.of_caller hl (c := c) (by rw [h]; rfl)
    rw [h] at this
    cases this
  -- no thread was there before
  have hd : ∀ n, (s.threads n).alive ≠ true := fun n ha => by
    obtain ⟨-, h⟩ := hs.current n ha
    exact h.elim (by rw [hr]; exact Bool.false_ne_true) hn
  refine ⟨fun n hn => ?_, fun _ => ?_, fun c' h' => hr⟩
  · by_cases he : n = s.created
    · refine ⟨he, .inr ⟨c, ?_⟩⟩
      show (Function.update s.callers c (.started a b j) c).creating = true
      rw [Function.update_self]
      rfl
    · have ha : (Function.update s.threads s.created .waiting n).alive = true := hn
      rw [Function.update_of_ne he] at ha
      exact absurd ha (hd n)
  · show (Function.update s.threads s.created .waiting s.created).alive = true
    rw [Function.update_self]
    rfl

lemma finish {a : α} {b : σ} {j : Option ℕ} (hs : Alone s) (hl : Locked s)
    (h : s.callers c = .started a b j) :
    Alone ({ s with started := true, running := true }.ret c a b true j) := by
  have hcr : s.Creating := ⟨c, by rw [h]; rfl⟩
  refine ⟨fun n hn => ⟨(hs.current n hn).1, .inl rfl⟩, fun _ => hs.runs (.inr hcr), fun c' hc' => ?_⟩
  -- no other call has the lock
  have hseek : (Function.update s.callers c (.leaving j) c').seeking = true := hc'
  by_cases he : c' = c
  · rw [he, Function.update_self] at hseek
    cases hseek
  · rw [Function.update_of_ne he] at hseek
    exact absurd (hl.one (Caller.seeking_holds hseek) (by rw [h]; rfl)) he

lemma leave (hs : Alone s) (hl : Locked s) (h : s.threads n = .head) :
    Alone { s.setThread n .left with lock := none, running := false } := by
  have hn : ¬s.Creating := State.Creating.not_thread hl h
  obtain ⟨hc, -⟩ := hs.current n (by rw [h]; rfl)
  refine ⟨fun m hm => ?_, fun h => ?_, fun c hc => rfl⟩
  · have ha : (Function.update s.threads n .left m).alive = true := hm
    by_cases he : m = n
    · rw [he, Function.update_self] at ha
      cases ha
    · rw [Function.update_of_ne he] at ha
      exact absurd ((hs.current m ha).1.trans hc.symm) he
  · obtain h | h := h
    · cases h
    · exact absurd h hn

lemma move (hm : Moves M s t) (hl : Locked s) (hs : Alone s) : Alone t := by
  cases hm with
  | call h | acquire h hf | enter h | refuse h | found h hr | fail h | joinNone h | join h =>
    exact hs.caller rfl rfl rfl rfl (by rw [h]; rfl) nofun
  | look h hr => exact hs.caller rfl rfl rfl rfl (by rw [h]; rfl) fun _ => hr
  | @reap c a b h =>
    exact hs.caller rfl rfl rfl rfl (by rw [h]; rfl) fun _ => hs.seeking c (by rw [h]; rfl)
  | create h => exact hs.create hl h
  | finish h => exact hs.finish hl h
  | alter hf => exact hs.frame (fun _ => rfl) rfl rfl Iff.rfl hs.seeking
  | lock h hf | wake h hf | rest h | turn h he => exact hs.thread rfl rfl rfl rfl (by rw [h]; rfl)
  | leave h he => exact hs.leave hl h
  | done h =>
    refine hs.thread rfl rfl rfl rfl ?_
    rw [h]
    split <;> rfl

end Alone

-- the threads that are still to be joined, each by one call or by the next call that starts a thread
structure Owed (s : State σ α β) : Prop where
  left : ∀ c n, (s.callers c).taken = some n → s.threads n = .left
  other : ∀ c n, (s.callers c).taken = some n → s.started = true ∨ s.Creating → n ≠ s.current
  once : ∀ c c' n, (s.callers c).taken = some n → (s.callers c').taken = some n → c = c'
  kept : s.started = true → s.threads s.current ≠ .unborn
  reaped : ∀ c, (s.callers c).reaped = true → s.started = false

-- what a thread that has left or has been created stays
def Stays (s t : State σ α β) : Prop :=
  (∀ n, s.threads n = .left → t.threads n = .left) ∧ ∀ n, s.threads n ≠ .unborn → t.threads n ≠ .unborn

lemma Stays.refl (ht : t.threads = s.threads) : Stays s t :=
  ⟨fun n => by rw [ht]; exact id, fun n => by rw [ht]; exact id⟩

lemma Stays.thread {n : ℕ} {q : Thread} (ht : t.threads = Function.update s.threads n q)
    (hn : s.threads n ≠ .left)
    (hq : q ≠ .unborn) : Stays s t := by
  refine ⟨fun m hm => ?_, fun m hm => ?_⟩ <;> rw [ht]
  · have hne : m ≠ n := fun he => hn (he ▸ hm)
    rwa [Function.update_of_ne hne]
  · by_cases he : m = n
    · rw [he, Function.update_self]
      exact hq
    · rwa [Function.update_of_ne he]

namespace Owed

variable {c n : ℕ} {p : Caller σ α} {q : Thread}

lemma frame (hs : Owed s) (ht : Stays s t) (hk : t.current = s.current) (ho : t.started = s.started)
    (hc : t.Creating → s.Creating)
    (hw : ∀ c n, (t.callers c).taken = some n → (s.callers c).taken = some n)
    (hr : ∀ c, (t.callers c).reaped = true → t.started = false) : Owed t := by
  refine ⟨fun c n h => ht.1 n (hs.left c n (hw c n h)), fun c n h hb => ?_, fun c c' n h h' => ?_,
    fun h => ?_, hr⟩
  · rw [ho] at hb
    rw [hk]
    exact hs.other c n (hw c n h) (hb.imp_right hc)
  · exact hs.once c c' n (hw c n h) (hw c' n h')
  · rw [ho] at h
    rw [hk]
    exact ht.2 _ (hs.kept h)

lemma caller (hs : Owed s) (hc : t.callers = Function.update s.callers c p)
    (ht : t.threads = s.threads) (hk : t.current = s.current)
    (ho : t.started = s.started) (hp : p.creating = (s.callers c).creating)
    (hq : p.reaped = true → (s.callers c).reaped = true)
    (hw : ∀ n, p.taken = some n → (s.callers c).taken = some n) : Owed t := by
  refine hs.frame (.refl ht) hk ho (State.creating_congr fun c' => ?_).mp (fun c' n => ?_) fun c' h => ?_
  · rw [hc, update_same Caller.creating hp]
  · rw [hc]
    exact update_imp (fun x : Caller σ α => x.taken = some n) (hw n) c'
  · rw [hc] at h
    rw [ho]
    exact hs.reaped c' (update_imp (fun x : Caller σ α => x.reaped = true) hq c' h)

lemma thread (hs : Owed s) (hc : t.callers = s.callers)
    (ht : t.threads = Function.update s.threads n q) (hk : t.current = s.current)
    (ho : t.started = s.started) (hn : s.threads n ≠ .left) (hq : q ≠ .unborn) : Owed t := by
  refine hs.frame (.thread ht hn hq) hk ho (State.creating_congr fun c => by rw [hc]).mp
    (fun c n => ?_) fun c h => ?_
  · rw [hc]
    exact id
  · rw [hc] at h
    rw [ho]
    exact hs.reaped c h

lemma reap {a : α} {b : σ} (hs : Owed s) (hl : Locked s) (ha : Alone s)
    (h : s.callers c = .reaping a b) :
    Owed { s.setCaller c
      (.starting a b (if s.started then some s.current else none)) with started := false } := by
  have hr : s.running = false := ha.seeking c (by rw [h]; rfl)
  have hn : ¬s.Creating := fun hn => by
    have := hn.of_caller hl (c := c) (by rw [h]; rfl)
    rw [h] at this
    cases this
  let p : Caller σ α := .starting a b (if s.started then some s.current else none)
  have hp : p.taken = if s.started then some s.current else none := rfl
  have hnew : ∀ c' m, (Function.update s.callers c p c').taken = some m →
      c' = c ∧ s.started = true ∧ m = s.current ∨ c' ≠ c ∧ (s.callers c').taken = some m := by
    intro c' m hm
    by_cases he : c' = c
    · rw [he, Function.update_self, hp] at hm
      cases ho : s.started with
      | false =>
        rw [ho] at hm
        cases hm
      | true =>
        rw [ho] at hm
        exact .inl ⟨he, rfl, (Option.some.inj hm).symm⟩
    · rw [Function.update_of_ne he] at hm
      exact .inr ⟨he, hm⟩
  have hcr : ¬∃ c', (Function.update s.callers c p c').creating = true := by
    rintro ⟨c', hc'⟩
    exact hn ⟨c', update_imp (fun x : Caller σ α => x.creating = true) (by rintro ⟨⟩) c' hc'⟩
  refine ⟨fun c' m hm => ?_, fun c' m hm hb => ?_, fun c₁ c₂ m h₁ h₂ => ?_, nofun, fun _ _ => rfl⟩
  · obtain ⟨-, ho, rfl⟩ | ⟨-, hm⟩ := hnew c' m hm
    · -- the thread that was started last is not running any more
      by_contra hx
      obtain ⟨-, hb⟩ := ha.current _ (Thread.alive_iff.mpr ⟨hs.kept ho, hx⟩)
      rw [hr] at hb
      exact hb.elim nofun hn
    · exact hs.left c' m hm
  · exact (hb.elim nofun hcr).elim
  · obtain ⟨e₁, ho, hm⟩ | ⟨-, g₁⟩ := hnew c₁ m h₁ <;> obtain ⟨e₂, ho', hm'⟩ | ⟨-, g₂⟩ := hnew c₂ m h₂
    · exact e₁.trans e₂.symm
    · exact absurd hm (hs.other c₂ m g₂ (.inl ho))
    · exact absurd hm' (hs.other c₁ m g₁ (.inl ho'))
    · exact hs.once c₁ c₂ m g₁ g₂

lemma create {a : α} {b : σ} {j : Option ℕ} (hs : Owed s) (hl : Locked s)
    (h : s.callers c = .starting a b j) :
    Owed { (s.setCaller c (.started a b j)).setThread s.created .waiting with
      current := s.created
      created := s.created + 1 } := by
  have hu : s.threads s.created = .unborn := (hl.unborn _).mpr (Nat.le_refl _)
  have ho : s.started = false := hs.reaped c (by rw [h]; rfl)
  have hw : ∀ c' m, (Function.update s.callers c (.started a b j) c').taken = some m →
      (s.callers c').taken = some m := fun c' m =>
    update_imp (fun x : Caller σ α => x.taken = some m) (by rw [h]; exact id) c'
  have hne : ∀ c' m, (s.callers c').taken = some m → m ≠ s.created := by
    rintro c' m hm rfl
    have := hs.left c' _ hm
    rw [hu] at this
    cases this
  refine ⟨fun c' m hm => ?_, fun c' m hm _ => hne c' m (hw c' m hm),
    fun c₁ c₂ m h₁ h₂ => hs.once c₁ c₂ m (hw c₁ m h₁) (hw c₂ m h₂), fun h => ?_, fun _ _ => ho⟩
  · show Function.update s.threads s.created Thread.waiting m = .left
    rw [Function.update_of_ne (hne c' m (hw c' m hm))]
    exact hs.left c' m (hw c' m hm)
  · cases ho.symm.trans h

lemma finish {a : α} {b : σ} {j : Option ℕ} (hs : Owed s) (hl : Locked s) (ha : Alone s)
    (h : s.callers c = .started a b j) :
    Owed ({ s with started := true, running := true }.ret c a b true j) := by
  have hcr : s.Creating := ⟨c, by rw [h]; rfl⟩
  have hw : ∀ c' m, (Function.update s.callers c (.leaving j) c').taken = some m →
      (s.callers c').taken = some m := fun c' m =>
    update_imp (fun x : Caller σ α => x.taken = some m) (by rw [h]; exact id) c'
  refine ⟨fun c' m hm => hs.left c' m (hw c' m hm),
    fun c' m hm _ => hs.other c' m (hw c' m hm) (.inr hcr), fun c₁ c₂ m h₁ h₂ =>
      hs.once c₁ c₂ m (hw c₁ m h₁) (hw c₂ m h₂), fun _ => ?_, fun c' hc' => ?_⟩
  · exact (Thread.alive_iff.mp (ha.runs (.inr hcr))).1
  · have hreap : (Function.update s.callers c (.leaving j) c').reaped = true := hc'
    by_cases he : c' = c
    · rw [he, Function.update_self] at hreap
      cases hreap
    · rw [Function.update_of_ne he] at hreap
      exact absurd (hl.one (Caller.reaped_holds hreap) (by rw [h]; rfl)) he

lemma move (hm : Moves M s t) (hl : Locked s) (ha : Alone s) (hs : Owed s) : Owed t := by
  cases hm with
  | call h | acquire h hf | enter h | refuse h | found h hr | look h hr | joinNone h | join h =>
    exact hs.caller rfl rfl rfl rfl (by rw [h]; rfl) nofun nofun
  | fail h => exact hs.caller rfl rfl rfl rfl (by rw [h]; rfl) nofun (by rw [h]; exact fun _ => id)
  | reap h => exact hs.reap hl ha h
  | create h => exact hs.create hl h
  | finish h => exact hs.finish hl ha h
  | alter hf => exact hs.frame (.refl rfl) rfl rfl id (fun _ _ => id) hs.reaped
  | lock h hf | wake h hf | rest h | turn h he | leave h he =>
    exact hs.thread rfl rfl rfl rfl (by rw [h]; nofun) nofun
  | done h =>
    refine hs.thread rfl rfl rfl rfl (by rw [h]; nofun) ?_
    split <;> nofun

end Owed

structure Joins (s : State σ α β) : Prop where
  fresh : ∀ c n, (s.callers c).taken = some n → ∀ j ∈ s.joined, j.thread ≠ n
  joined : ∀ j ∈ s.joined, s.threads j.thread = .left ∧ j.left = true ∧ j.holding = false
  distinct : s.joined.Pairwise fun i j => i.thread ≠ j.thread
  kept : s.started = true ∨ s.Creating → ∀ j ∈ s.joined, j.thread ≠ s.current

namespace Joins

variable {c n : ℕ} {p : Caller σ α} {q : Thread}

lemma frame (hs : Joins s) (ht : Stays s t) (hj : t.joined = s.joined) (hk : t.current = s.current)
    (hc : t.started = true ∨ t.Creating → s.started = true ∨ s.Creating)
    (hw : ∀ c n, (t.callers c).taken = some n → (s.callers c).taken = some n) : Joins t := by
  refine ⟨fun c n h => ?_, ?_, ?_, fun h => ?_⟩
  · rw [hj]
    exact hs.fresh c n (hw c n h)
  · rw [hj]
    exact fun j hm => ⟨ht.1 _ (hs.joined j hm).1, (hs.joined j hm).2⟩
  · rw [hj]
    exact hs.distinct
  · rw [hj, hk]
    exact hs.kept (hc h)

lemma caller (hs : Joins s) (hc : t.callers = Function.update s.callers c p)
    (ht : t.threads = s.threads) (hj : t.joined = s.joined)
    (hk : t.current = s.current) (ho : t.started = s.started) (hp : p.creating = (s.callers c).creating)
    (hw : ∀ n, p.taken = some n → (s.callers c).taken = some n) : Joins t := by
  refine hs.frame (.refl ht) hj hk
    (Or.imp (by rw [ho]; exact id) (State.creating_congr fun c' => ?_).mp) fun c' n => ?_
  · rw [hc, update_same Caller.creating hp]
  · rw [hc]
    exact update_imp (fun x : Caller σ α => x.taken = some n) (hw n) c'

lemma thread (hs : Joins s) (hc : t.callers = s.callers)
    (ht : t.threads = Function.update s.threads n q) (hj : t.joined = s.joined)
    (hk : t.current = s.current) (ho : t.started = s.started) (hn : s.threads n ≠ .left)
    (hq : q ≠ .unborn) : Joins t :=
  hs.frame (.thread ht hn hq) hj hk
      (Or.imp (by rw [ho]; exact id) (State.creating_congr fun c => by rw [hc]).mp) fun c n => by
    rw [hc]
    exact id

lemma reap {a : α} {b : σ} (hs : Joins s) :
    Joins { s.setCaller c
      (.starting a b (if s.started then some s.current else none)) with started := false } := by
  refine ⟨fun c' n hn j hj => ?_, hs.joined, hs.distinct, fun hb j hj => ?_⟩
  · have hn' : (Function.update s.callers c (.starting a b
        (if s.started then some s.current else none)) c').taken = some n := hn
    by_cases he : c' = c
    · rw [he, Function.update_self] at hn'
      cases ho : s.started with
      | false =>
        rw [ho] at hn'
        cases hn'
      | true =>
        rw [ho] at hn'
        obtain rfl : s.current = n := Option.some.inj hn'
        exact hs.kept (.inl ho) j hj
    · rw [Function.update_of_ne he] at hn'
      exact hs.fresh c' n hn' j hj
  · obtain hb | ⟨c', hc'⟩ := hb
    · cases hb
    · exact hs.kept
        (.inr ⟨c', update_imp (fun x : Caller σ α => x.creating = true) (by rintro ⟨⟩) c' hc'⟩) j hj

lemma create {a : α} {b : σ} {j : Option ℕ} (hs : Joins s) (hl : Locked s)
    (h : s.callers c = .starting a b j) :
    Joins { (s.setCaller c (.started a b j)).setThread s.created .waiting with
      current := s.created
      created := s.created + 1 } := by
  have hu : s.threads s.created = .unborn := (hl.unborn _).mpr (Nat.le_refl _)
  have hne : ∀ i ∈ s.joined, i.thread ≠ s.created := by
    intro i hi he
    have := (hs.joined i hi).1
    rw [he, hu] at this
    cases this
  refine ⟨fun c' n hn => hs.fresh c' n ?_, fun i hi => ⟨?_, (hs.joined i hi).2⟩, hs.distinct,
    fun _ => hne⟩
  · exact update_imp (fun x : Caller σ α => x.taken = some n) (by rw [h]; exact id) c' hn
  · show Function.update s.threads s.created Thread.waiting i.thread = .left
    rw [Function.update_of_ne (hne i hi)]
    exact (hs.joined i hi).1

lemma join (hs : Joins s) (hl : Locked s) (ho : Owed s) (h : s.callers c = .leaving (some n)) :
    Joins { s.setCaller c .idle with joined := ⟨n, s.threads n == .left,
      s.lock == some (.caller c)⟩ :: s.joined } := by
  have hn : (s.callers c).taken = some n := by rw [h]; rfl
  have hleft : s.threads n = .left := ho.left c n hn
  have hhold : (s.lock == some (.caller c)) = false := by
    rw [beq_eq_false_iff_ne]
    intro he
    have := (hl.holder (.caller c)).mpr he
    rw [State.Holds, h] at this
    cases this
  have hw : ∀ c' m, (Function.update s.callers c .idle c').taken = some m → c' ≠ c ∧
      (s.callers c').taken = some m := by
    intro c' m hm
    by_cases he : c' = c
    · rw [he, Function.update_self] at hm
      cases hm
    · rw [Function.update_of_ne he] at hm
      exact ⟨he, hm⟩
  have hcr : (∃ c', (Function.update s.callers c .idle c').creating = true) → s.Creating := by
    rintro ⟨c', hc'⟩
    exact ⟨c', update_imp (fun x : Caller σ α => x.creating = true) (by rintro ⟨⟩) c' hc'⟩
  refine ⟨fun c' m hm => ?_, ?_, .cons (fun j hj => (hs.fresh c n hn j hj).symm) hs.distinct,
    fun hb => ?_⟩
  · obtain ⟨hc', hm⟩ := hw c' m hm
    refine List.forall_mem_cons.mpr ⟨?_, hs.fresh c' m hm⟩
    rintro rfl
    exact hc' (ho.once c' c n hm hn)
  · refine List.forall_mem_cons.mpr ⟨⟨hleft, ?_, hhold⟩, hs.joined⟩
    rw [hleft]
    rfl
  · have hb' := hb.imp_right hcr
    exact List.forall_mem_cons.mpr ⟨ho.other c n hn hb', hs.kept hb'⟩

lemma finish {a : α} {b : σ} {j : Option ℕ} (hs : Joins s) (h : s.callers c = .started a b j) :
    Joins ({ s with started := true, running := true }.ret c a b true j) :=
  hs.frame (.refl rfl) rfl rfl (fun _ => .inr ⟨c, by rw [h]; rfl⟩) fun c' n =>
    update_imp (fun x : Caller σ α => x.taken = some n) (by rw [h]; exact id) c'

lemma move (hm : Moves M s t) (hl : Locked s) (ho : Owed s) (hs : Joins s) : Joins t := by
  cases hm with
  | call h | acquire h hf | enter h | refuse h | found h hr | look h hr | joinNone h =>
    exact hs.caller rfl rfl rfl rfl rfl (by rw [h]; rfl) nofun
  | fail h => exact hs.caller rfl rfl rfl rfl rfl (by rw [h]; rfl) (by rw [h]; exact fun _ => id)
  | reap h => exact hs.reap
  | create h => exact hs.create hl h
  | finish h => exact hs.finish h
  | join h => exact hs.join hl ho h
  | alter hf => exact hs.frame (.refl rfl) rfl rfl id fun _ _ => id
  | lock h hf | wake h hf | rest h | turn h he | leave h he =>
    exact hs.thread rfl rfl rfl rfl rfl (by rw [h]; nofun) nofun
  | done h =>
    refine hs.thread rfl rfl rfl rfl rfl (by rw [h]; nofun) ?_
    split <;> nofun

end Joins

-- what a machine has to keep for its thread to be running whenever it is needed
structure Machine.Sound (M : Machine σ α β γ) (good idle : σ → Prop) : Prop where
  enter : ∀ a d, good d → good (M.enter a d)
  undo : ∀ a d, good d → good (M.undo a d)
  alter : ∀ g d, good d → good (M.alter g d)
  take : ∀ d, good d → good (M.take d)
  leaves : ∀ d, good d → M.leaves d = true → idle d
  idle_alter : ∀ g d, idle d → idle (M.alter g d)
  idle_undo : ∀ a d, idle d → idle (M.undo a (M.enter a d))

variable {good idle : σ → Prop}

def Caller.Fits (M : Machine σ α β γ) (idle : σ → Prop) (data : σ) (running : Bool) : Caller σ α → Prop
  | .inside _ b => data = b ∧ (running = false → idle b)
  | .looking a b => data = M.enter a b ∧ (running = false → idle b)
  | .reaping a b | .starting a b _ | .started a b _ => data = M.enter a b ∧ idle b
  | _ => True

lemma Caller.fits_of_holds {p : Caller σ α} {d : σ} {r : Bool} (h : p.holds = false) :
    p.Fits M idle d r := by
  cases p <;> first | exact trivial | cases h

structure Kept (M : Machine σ α β γ) (good idle : σ → Prop) (s : State σ α β) : Prop where
  good : good s.data
  quiet : s.lock = none → s.running = false → idle s.data
  fits : ∀ c, (s.callers c).Fits M idle s.data s.running
  returns : ∀ r ∈ s.returns, r.ok = false →
    r.after = r.before ∨ idle r.before ∧ r.after = M.undo r.arg (M.enter r.arg r.before)

namespace Kept

variable {c : ℕ} {p : Caller σ α}

-- the calls that have not got the lock have done nothing under it
lemma fits_update {d : σ} {r : Bool} (ho : ∀ c', (s.callers c').holds = true → c' = c)
    (hp : p.Fits M idle d r) (c' : ℕ) :
    (Function.update s.callers c p c').Fits M idle d r := by
  by_cases he : c' = c
  · rw [he, Function.update_self]
    exact hp
  · rw [Function.update_of_ne he]
    exact Caller.fits_of_holds (eq_false_of_ne_true fun h => he (ho c' h))

lemma aside (hs : Kept M good idle s) (hc : t.callers = Function.update s.callers c p)
    (hd : t.data = s.data)
    (hl : t.lock = s.lock) (hr : t.running = s.running) (ht : t.returns = s.returns)
    (hp : p.holds = false) : Kept M good idle t := by
  refine ⟨by rw [hd]; exact hs.good, by rw [hl, hr, hd]; exact hs.quiet, fun c' => ?_,
    by rw [ht]; exact hs.returns⟩
  rw [hc, hd, hr]
  by_cases he : c' = c
  · rw [he, Function.update_self]
    exact Caller.fits_of_holds hp
  · rw [Function.update_of_ne he]
    exact hs.fits c'

lemma thread (hs : Kept M good idle s) (hc : t.callers = s.callers) (hd : t.data = s.data)
    (hr : t.running = s.running)
    (ht : t.returns = s.returns) (hl : t.lock = none → s.lock = none) : Kept M good idle t := by
  refine ⟨by rw [hd]; exact hs.good, fun h hb => ?_, by rw [hc, hd, hr]; exact hs.fits,
    by rw [ht]; exact hs.returns⟩
  rw [hr] at hb
  rw [hd]
  exact hs.quiet (hl h) hb

-- the call goes on under the lock
lemma inside (hs : Kept M good idle s) (hl : Locked s)
    (hc : t.callers = Function.update s.callers c p) (ht : t.returns = s.returns)
    (hh : (s.callers c).holds = true) (hk : t.lock = s.lock) (hg : good t.data)
    (hp : p.Fits M idle t.data t.running) :
    Kept M good idle t := by
  refine ⟨hg, fun hf => ?_, fun c' => ?_, by rw [ht]; exact hs.returns⟩
  · rw [hk, hl.caller hh] at hf
    cases hf
  · rw [hc]
    exact fits_update (fun c' h => hl.one h hh) hp c'

lemma returned {d : σ} {a : α} {b : σ} {ok : Bool} {j : Option ℕ} {r st : Bool}
    (hs : Kept M good idle s) (hl : Locked s)
    (hh : (s.callers c).holds = true) (hg : good d) (hi : r = false → idle d)
    (hr : ok = false → d = b ∨ idle b ∧ d = M.undo a (M.enter a b)) :
    Kept M good idle ({ s with data := d, started := st, running := r }.ret c a b ok j) := by
  refine ⟨hg, fun _ => hi, fits_update (fun c' h => hl.one h hh) trivial,
    List.forall_mem_append.mpr ⟨hs.returns, ?_⟩⟩
  rw [List.forall_mem_singleton]
  exact hr

lemma move (hM : M.Sound good idle) (hm : Moves M s t) (hl : Locked s) (ha : Alone s)
    (hs : Kept M good idle s) :
    Kept M good idle t := by
  have fits : ∀ {c : ℕ} {p : Caller σ α}, s.callers c = p → p.Fits M idle s.data s.running :=
    fun h => h ▸ hs.fits _
  have free : s.lock = none → ∀ c, (s.callers c).holds = false := fun hf c =>
    eq_false_of_ne_true fun h => Option.some_ne_none _ ((hl.caller h).symm.trans hf)
  have held : ∀ n, s.threads n = .head → ∀ c, (s.callers c).holds = false := by
    refine fun n h c => eq_false_of_ne_true fun hh => ?_
    have he := (hl.caller hh).symm.trans (hl.thread h)
    injection he with he
    injection he
  cases hm with
  | call h | joinNone h | join h => exact hs.aside rfl rfl rfl rfl rfl rfl
  | acquire h hf =>
    refine ⟨hs.good, nofun, fits_update (fun c' h' => ?_) ⟨rfl, hs.quiet hf⟩, hs.returns⟩
    rw [free hf c'] at h'
    cases h'
  | enter h =>
    obtain ⟨rfl, hi⟩ := fits h
    exact hs.inside hl rfl rfl (by rw [h]; rfl) rfl (hM.enter _ _ hs.good) ⟨rfl, hi⟩
  | refuse h =>
    obtain ⟨he, hi⟩ := fits h
    exact hs.returned hl (by rw [h]; rfl) hs.good (by rw [he]; exact hi) fun _ => .inl he
  | found h hr => exact hs.returned hl (by rw [h]; rfl) hs.good (by rw [hr]; nofun) nofun
  | look h hr =>
    obtain ⟨he, hi⟩ := fits h
    exact hs.inside hl rfl rfl (by rw [h]; rfl) rfl hs.good ⟨he, hi hr⟩
  | reap h | create h =>
    obtain ⟨he, hi⟩ := fits h
    exact hs.inside hl rfl rfl (by rw [h]; rfl) rfl hs.good ⟨he, hi⟩
  | fail h =>
    obtain ⟨he, hi⟩ := fits h
    refine hs.returned hl (by rw [h]; rfl) (hM.undo _ _ hs.good) (fun _ => ?_) fun _ =>
      .inr ⟨hi, by rw [he]⟩
    rw [he]
    exact hM.idle_undo _ _ hi
  | finish h => exact hs.returned hl (by rw [h]; rfl) hs.good nofun nofun
  | alter hf =>
    exact ⟨hM.alter _ _ hs.good, fun _ hr => hM.idle_alter _ _ (hs.quiet hf hr),
      fun c => Caller.fits_of_holds (free hf c), hs.returns⟩
  | lock h hf | wake h hf => exact hs.thread rfl rfl rfl rfl nofun
  | rest h | done h => exact hs.thread rfl rfl rfl rfl id
  | leave h he => exact ⟨hs.good, fun _ _ => hM.leaves _ hs.good he,
      fun c => Caller.fits_of_holds (held _ h c), hs.returns⟩
  | turn h he =>
    refine ⟨hM.take _ hs.good, fun _ hr => ?_, fun c => Caller.fits_of_holds (held _ h c), hs.returns⟩
    obtain ⟨-, hb⟩ := ha.current _ (by rw [h]; rfl)
    obtain hb | hb := hb
    · cases hr.symm.trans hb
    · exact absurd hb (State.Creating.not_thread hl h)

end Kept

structure Inv (M : Machine σ α β γ) (good idle : σ → Prop) (s : State σ α β) : Prop where
  locked : Locked s
  alone : Alone s
  owed : Owed s
  joins : Joins s
  kept : Kept M good idle s

lemma Inv.init {d : σ} (hg : good d) (hi : idle d) : Inv M good idle (State.init d : State σ α β) where
  locked := by
    refine ⟨fun p => ?_, fun n => ⟨fun _ => Nat.zero_le n, fun _ => rfl⟩⟩
    cases p with
    | caller c => exact ⟨nofun, nofun⟩
    | thread n => exact ⟨nofun, nofun⟩
  alone := by
    refine ⟨nofun, ?_, nofun⟩
    rintro (h | ⟨c, h⟩)
    · cases h
    · cases h
  owed := ⟨nofun, nofun, nofun, nofun, nofun⟩
  joins := ⟨nofun, nofun, .nil, fun _ => nofun⟩
  kept := ⟨hg, fun _ _ => hi, fun _ => trivial, nofun⟩

lemma Inv.move {t : State σ α β} (hM : M.Sound good idle) (hm : Moves M s t)
    (hs : Inv M good idle s) : Inv M good idle t where
  locked := hs.locked.move hm
  alone := hs.alone.move hm hs.locked
  owed := hs.owed.move hm hs.locked hs.alone
  joins := hs.joins.move hm hs.locked hs.owed
  kept := hs.kept.move hM hm hs.locked hs.alone

lemma Inv.run {d : σ} (hM : M.Sound good idle) (hg : good d) (hi : idle d)
    (actions : List (Choice α γ)) :
    Inv M good idle ((State.init d).run M actions) :=
  State.run_invariant (fun _ _ hm h => h.move hM hm) actions (.init hg hi)

end Worker
