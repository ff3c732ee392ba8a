import Mathlib.Data.Finset.Basic
import OracleDriver.Library.Worker

/-! The watchdog thread runs whenever there are subscriptions to watch, and is never started a
second time. -/

namespace OracleDriver

open Worker

namespace AQSubscriptionManager

structure Watched where
  objects : Finset ℕ
  quit : Bool
deriving DecidableEq

-- the assertion that the queue is watched does not hold in the second case
def remove (o : ℕ) (d : Watched) : Watched :=
  if o ∈ d.objects then { objects := d.objects.erase o, quit := d.quit || d.objects.erase o = ∅ }
  else d

-- `add` is a call that needs the thread, `remove` one that does not, and `run` is the thread, which
-- takes a snapshot of the queues in each round if it has the memory, and then waits if it is not
-- told to quit
def machine : Machine Watched ℕ (Finset ℕ) ℕ where
  enter o d := { objects := insert o d.objects, quit := false }
  undo o d := { d with objects := d.objects.erase o }
  alter := remove
  leaves d := d.quit
  take d := d
  job ok d := [if ok then d.objects else ∅]
  rests := true

abbrev Manager := State Watched ℕ (Finset ℕ)

def reached (actions : List (Choice ℕ ℕ)) : Manager := (State.init ⟨∅, false⟩).run machine actions

structure Supervises (s : Manager) : Prop where
  single : ∀ t t', s.threads t ≠ .unborn → s.threads t ≠ .left → s.threads t' ≠ .unborn →
    s.threads t' ≠ .left → t = t'
  running : s.lock = none → s.data.objects ≠ ∅ →
    s.data.quit = false ∧ s.running = true ∧ s.threads s.current ≠ .unborn ∧ s.threads s.current ≠ .left
  joined : ∀ j ∈ s.joined, j.left = true ∧ j.holding = false
  once : s.joined.Pairwise fun i j => i.thread ≠ j.thread
  failed : ∀ r ∈ s.returns, r.ok = false → r.after.objects = r.before.objects

-- the thread is told to quit only when there is nothing to watch
def Watched.Quits (d : Watched) : Prop := d.quit = true → d.objects = ∅

lemma Watched.Quits.remove {o : ℕ} {d : Watched} (hd : d.Quits) : (remove o d).Quits := by
  rw [AQSubscriptionManager.remove]
  split
  · intro h
    rw [Bool.or_eq_true, decide_eq_true_iff] at h
    obtain h | h := h
    · show d.objects.erase o = ∅
      rw [hd h, Finset.erase_empty]
    · exact h
  · exact hd

lemma remove_empty {o : ℕ} {d : Watched} (hd : d.objects = ∅) : remove o d = d := by
  have ho : o ∉ d.objects := by simp [hd]
  rw [remove, if_neg ho]

lemma sound : machine.Sound Watched.Quits fun d => d.objects = ∅ where
  enter o d hd h := nomatch h
  undo o d hd h := by
    show d.objects.erase o = ∅
    rw [hd h, Finset.erase_empty]
  alter o d hd := hd.remove
  take d := id
  leaves d hd := hd
  idle_alter o d hd := (congrArg Watched.objects (remove_empty hd)).trans hd
  idle_undo o d hd := by
    show (insert o d.objects).erase o = ∅
    rw [hd, Finset.erase_insert (Finset.notMem_empty o)]

/-- In every state that is reached one watchdog at most is running, and one is if there are queues
to watch. -/
theorem supervises_reached (actions : List (Choice ℕ ℕ)) : Supervises (reached actions) := by
  have hi : Inv machine Watched.Quits (fun d => d.objects = ∅) (reached actions) :=
    Inv.run sound (fun _ => rfl) rfl actions
  refine ⟨fun t t' h h₁ h' h₁' => ?_, fun hl ho => ?_, fun j hj => (hi.joins.joined j hj).2,
    hi.joins.distinct, fun r hr hf => ?_⟩
  · rw [(hi.alone.current t (Thread.alive_iff.mpr ⟨h, h₁⟩)).1,
      (hi.alone.current t' (Thread.alive_iff.mpr ⟨h', h₁'⟩)).1]
  · have hr : (reached actions).running = true := by
      by_contra hr
      exact ho (hi.kept.quiet hl (eq_false_of_ne_true hr))
    have hq : (reached actions).data.quit = false := by
      by_contra hq
      exact ho (hi.kept.good (eq_true_of_ne_false hq))
    exact ⟨hq, hr, Thread.alive_iff.mp (hi.alone.runs (.inl hr))⟩
  · -- a thread is created only where nothing was watched before
    obtain he | ⟨hb, he⟩ := hi.kept.returns r hr hf
    · rw [he]
    · rw [he, sound.idle_undo r.arg r.before hb, hb]

end AQSubscriptionManager

end OracleDriver
