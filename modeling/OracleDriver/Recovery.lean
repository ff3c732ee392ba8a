import OracleDriver.Events

/-! What handleError() leaves behind: an exception, or a session that has been made again. -/

namespace OracleDriver

open Trace Act

variable {h : Handler} {l : Level} {α : Type} (x : Sink) (who : String) (w : World)

-- handleError() without a retry
def handleFailed : Drv h .recover Unit := do
  match ← findLoss x who false none with
  | none => return
  | some e => giveUp x who e

lemma handleError_false :
    (handleError x who false none : Drv h .retry Bool).run w =
      (false, ((handleFailed x who : Drv h .recover Unit).run w).2) := by
  unfold handleError handleFailed
  simp only [Act.run_bind, Drv.run_up]
  cases ((findLoss x who false none : Drv h .recover (Option Answer)).run w).1 with
  | none => rfl
  | some e => rfl

lemma handler_succ (n : ℕ) :
    handler (n + 1) x who w = ((handleFailed x who : Drv (handler n) .recover Unit).run w).2 := by
  show ((handleError x who false none : Drv (handler n) .retry Bool).run w).2 = _
  rw [handleError_false]

lemma handler_adds (n : ℕ) : ∀ x who w, Extends Level.recover.logs w (handler n x who w) := by
  induction n with
  | zero =>
    intro x who w
    exact (w.extends_raise x _).trans (.same rfl rfl)
  | succ n ih =>
    intro x who w
    rw [handler_succ]
    exact Drv.adds ih _ w

def Pending (w : World) : Prop := w.pending .main = true

lemma pending_raise (e : Exn) : Pending (w.raise .main e) := by
  have hr : (w.raise .main e).xsink = w.xsink ++ [e] := rfl
  cases hx : w.xsink <;> simp only [Pending, World.pending, hr, hx] <;> rfl

lemma spec_any (P : World → Prop) (m : Drv h l α) : Spec P m fun _ _ => True := fun _ _ => trivial

lemma spec_raise (e : Exn) (P : World → Prop) : Spec P (raise .main e : Drv h l Unit) fun _ => Pending :=
  fun w _ => pending_raise w e

lemma spec_doException (e : Answer) (P : World → Prop) :
    Spec P (doException .main who e : Drv h l Unit) fun _ => Pending := by
  unfold doException
  exact spec_bind (spec_any P _) fun _ => spec_raise _ _

section Handled

variable (hh : ∀ x who w, Extends Level.recover.logs w (h x who w))
include hh

lemma spec_pending (m : Drv h l α) : Spec Pending m fun _ => Pending :=
  fun w hw => (Drv.adds hh m w).pending hw

lemma spec_receiveTimeout (e : Answer) (P : World → Prop) :
    Spec P (receiveTimeout .main who e : Drv h .recover Unit) fun _ => Pending := by
  unfold receiveTimeout
  refine spec_bind (spec_any P _) fun _ => ?_
  refine spec_bind (spec_doException who e _) fun _ => ?_
  exact spec_pending hh _

lemma spec_findLoss (c : Bool) (stmt : Option ℕ) (P : World → Prop) :
    Spec P (findLoss .main who c stmt : Drv h .recover (Option Answer))
      fun r t => r = none → Pending t := by
  unfold findLoss
  refine spec_bind (spec_any P _) fun e => spec_bind (spec_any _ _) fun c => ?_
  refine spec_ite (fun _ => ?_) fun _ => spec_ite (fun _ => ?_) fun _ => ?_
  · exact spec_bind (spec_doException who e _) fun _ => spec_pure fun _ hp _ => hp
  · exact spec_bind (spec_receiveTimeout who hh e _) fun _ => spec_pure fun _ hp _ => hp
  refine spec_bind (spec_any _ _) fun b => spec_ite (fun _ => ?_) fun _ => ?_
  · exact spec_bind (spec_doException who e _) fun _ => spec_pure fun _ hp _ => hp
  · exact spec_bind (spec_any _ _) fun _ => spec_pure fun _ _ hn => nomatch hn

lemma spec_giveUp (e : Answer) (P : World → Prop) :
    Spec P (giveUp .main who e : Drv h .recover Unit) fun _ => Pending := by
  unfold giveUp
  exact spec_bind (spec_doException who e P) fun _ => spec_pending hh _

lemma spec_handleFailed (P : World → Prop) : Spec P (handleFailed .main who : Drv h .recover Unit)
    fun _ => Pending := by
  refine spec_bind (spec_findLoss who hh false none P) fun r => ?_
  cases r with
  | none => exact spec_pure fun _ hp => hp rfl
  | some e => exact spec_giveUp who hh e _

end Handled

lemma handler_pending (n : ℕ) : Pending (handler n .main who w) := by
  cases n with
  | zero => exact pending_raise w _
  | succ n =>
    rw [handler_succ]
    exact spec_handleFailed who (handler_adds n) (fun _ => True) w trivial

-- checkerr() reports no success for a call whose error it handled
lemma checkerr_false (a : Answer) (hf : (w.checkerr h x a who).1 = false) :
    (w.checkerr h x a who).2 = w := by
  unfold World.checkerr at hf ⊢
  split at hf <;> first | rfl | exact absurd hf Bool.false_ne_true.symm

lemma pending_checkerr (hp : ∀ who w, Pending (h .main who w)) (a : Answer)
    (ht : (w.checkerr h .main a who).1 = true) : Pending (w.checkerr h .main a who).2 := by
  unfold World.checkerr at ht ⊢
  split at ht <;> first | exact hp who _ | exact pending_raise w _ | exact absurd ht Bool.false_ne_true

end OracleDriver
