import Mathlib.Data.List.Basic
import Mathlib.Data.Option.Basic

/-! A running comparison of the elements of a list, with one value that stands for none yet. -/

namespace Agreement

variable {α : Type*} [DecidableEq α] (unset : α)

def step (a b : α) : Option α := if a = unset then some b else if a = b then some a else none

def run (l : List α) : Option α := l.foldlM (step unset) unset

variable {unset} {a b : α} {l m : List α}

lemma step_unset : step unset unset b = some b := if_pos rfl

lemma foldlM_set (ha : a ≠ unset) : l.foldlM (step unset) a = some b ↔ b = a ∧ ∀ c ∈ l, c = a := by
  induction l with
  | nil => simp [eq_comm]
  | cons c l ih =>
    rw [List.foldlM_cons, step, if_neg ha]
    by_cases hc : a = c
    · rw [if_pos hc, Option.bind_eq_bind, Option.bind_some, ih]
      simp [← hc]
    · rw [if_neg hc]
      simp [Ne.symm hc]

lemma run_cons_unset : run unset (unset :: l) = run unset l := by
  rw [run, List.foldlM_cons, step_unset]
  rfl

lemma run_cons_set (ha : a ≠ unset) : run unset (a :: l) = some b ↔ b = a ∧ ∀ c ∈ l, c = a := by
  rw [run, List.foldlM_cons, step_unset]
  exact foldlM_set ha

lemma run_unset_append (h : ∀ c ∈ l, c = unset) : run unset (l ++ m) = run unset m := by
  induction l with
  | nil => rfl
  | cons c l ih =>
    obtain ⟨rfl, hl⟩ := List.forall_mem_cons.mp h
    rw [List.cons_append, run_cons_unset, ih hl]

lemma run_set (hb : b ≠ unset) (h : run unset l = some b) : b ∈ l ∧ ∀ c ∈ l, c = unset ∨ c = b := by
  induction l with
  | nil => exact absurd (Option.some.inj h).symm hb
  | cons c l ih =>
    by_cases hc : c = unset
    · rw [hc, run_cons_unset] at h
      obtain ⟨hmem, hall⟩ := ih h
      exact ⟨List.mem_cons_of_mem _ hmem, List.forall_mem_cons.mpr ⟨Or.inl hc, hall⟩⟩
    · obtain ⟨rfl, hall⟩ := (run_cons_set hc).mp h
      exact ⟨List.mem_cons_self, List.forall_mem_cons.mpr ⟨Or.inr rfl, fun d hd => Or.inr (hall d hd)⟩⟩

lemma run_same (hb : b ≠ unset) (hl : l ≠ []) (h : ∀ c ∈ l, c = b) : run unset l = some b := by
  obtain ⟨c, l, rfl⟩ := List.exists_cons_of_ne_nil hl
  obtain ⟨rfl, hall⟩ := List.forall_mem_cons.mp h
  exact (run_cons_set hb).mpr ⟨rfl, hall⟩

end Agreement
