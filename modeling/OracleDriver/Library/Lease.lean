import Mathlib.Data.List.Basic
import Mathlib.Logic.Function.Basic

/-! Places that are given to one holder after the other, each with a token that is never used again. -/

namespace Lease

inductive Event (κ β : Type) where
  | granted (k : κ) (t : ℕ)
  | ended (k : κ) (t : ℕ)
  | other (b : β)
deriving DecidableEq, Repr

variable {κ β : Type} [DecidableEq κ]

-- the last event is the first of the list
def holder : List (Event κ β) → κ → Option ℕ
  | [] => fun _ => none
  | .granted k t :: h => Function.update (holder h) k (some t)
  | .ended k _ :: h => Function.update (holder h) k none
  | .other _ :: h => holder h

def tokens (h : List (Event κ β)) : List ℕ := h.filterMap fun
  | .granted _ t => some t
  | _ => none

-- a place is free before it is given, and other events happen where they may
inductive Valid (may : β → List (Event κ β) → Prop) : List (Event κ β) → Prop
  | nil : Valid may []
  | granted {k t h} (hv : Valid may h) (hk : holder h k = none)
      (ht : ∀ u ∈ tokens h, u < t) : Valid may (.granted k t :: h)
  | ended {k t h} (hv : Valid may h) (hk : holder h k = some t) : Valid may (.ended k t :: h)
  | other {b h} (hv : Valid may h) (hb : may b h) : Valid may (.other b :: h)

variable {may : β → List (Event κ β) → Prop} {k : κ} {t : ℕ} {b : β} {h l earlier : List (Event κ β)}

lemma holder_granted (k' : κ) : holder (.granted k t :: h) k' = if k' = k then some t else holder h k' :=
  Function.update_apply ..

lemma holder_ended (k' : κ) : holder (.ended k t :: h) k' = if k' = k then none else holder h k' :=
  Function.update_apply ..

lemma Valid.of_append (hv : Valid may (l ++ h)) : Valid may h := by
  induction l with
  | nil => exact hv
  | cons e l ih =>
    apply ih
    cases hv with
    | granted hv _ _ => exact hv
    | ended hv _ => exact hv
    | other hv _ => exact hv

lemma mem_tokens_of_holder (hh : holder h k = some t) : t ∈ tokens h := by
  induction h with
  | nil => cases hh
  | cons e h ih =>
    cases e with
    | granted k' t' =>
      rw [holder_granted] at hh
      split at hh
      · obtain rfl := Option.some.inj hh
        exact List.mem_cons_self
      · exact List.mem_cons_of_mem _ (ih hh)
    | ended k' t' =>
      rw [holder_ended] at hh
      split at hh
      · cases hh
      · exact ih hh
    | other b => exact ih hh

-- a token holds its place until it is ended, and never again
lemma Valid.holder_iff (hv : Valid may (l ++ earlier)) (he : holder earlier k = some t) :
    holder (l ++ earlier) k = some t ↔ .ended k t ∉ l := by
  induction l with
  | nil => exact ⟨fun _ => List.not_mem_nil, fun _ => he⟩
  | cons e l ih =>
    rw [List.cons_append] at hv ⊢
    cases hv with
    | @granted k' t' _ hv hk ht =>
      have hne : t' ≠ t := by
        have htok : t ∈ tokens (l ++ earlier) := by
          rw [tokens, List.filterMap_append]
          exact List.mem_append_right _ (mem_tokens_of_holder he)
        exact Nat.ne_of_gt (ht t htok)
      rw [holder_granted, List.mem_cons, not_or, ← ih hv]
      by_cases h' : k = k'
      · subst h'
        rw [if_pos rfl, hk]
        simp [hne]
      · rw [if_neg h']
        simp
    | @ended k' t' _ hv hk =>
      rw [holder_ended, List.mem_cons, not_or, ← ih hv]
      by_cases h' : k = k'
      · subst h'
        rw [if_pos rfl, hk]
        simp [eq_comm]
      · rw [if_neg h']
        simp [h']
    | other hv _ =>
      refine (ih hv).trans ?_
      simp

lemma Valid.tokens_pairwise (hv : Valid may h) : (tokens h).Pairwise (· > ·) := by
  induction hv with
  | nil => exact .nil
  | granted _ _ ht ih => exact .cons ht ih
  | ended _ _ ih => exact ih
  | other _ _ ih => exact ih

lemma Valid.other_of_append (hv : Valid may (l ++ .other b :: h)) : may b h := by
  have hb : Valid may (.other b :: h) := hv.of_append
  cases hb with
  | other _ hb => exact hb

end Lease
