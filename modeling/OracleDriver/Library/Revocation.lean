import Mathlib.Data.List.Basic
import Mathlib.Logic.Function.Basic

/-! Values that their owners take away: others who have copied a reference to a value use it while
they have its lock, and the owner takes the value out under the same lock. -/

namespace Revocation

inductive Owner where
  | unborn
  | registered
  | withdrawn
  | clearing
  | cleared
  | gone
deriving DecidableEq, Repr

inductive Party (τ : Type) where
  | owner
  | user (t : τ)
deriving DecidableEq, Repr

structure Revocable (τ ρ : Type) where
  owner : Owner
  value : Option ρ
  lock : Option (Party τ)

inductive User (ι ρ : Type) where
  | idle
  | waiting (i : ι)
  | holding (i : ι)
  | busy (i : ι) (v : ρ)
  | leaving (i : ι) (ok : Bool)
deriving DecidableEq, Repr

-- `copies` are the references that each user has copied
structure State (ι τ ρ : Type) where
  cells : ι → Revocable τ ρ
  users : τ → User ι ρ
  copies : τ → ι → Bool

inductive Choice (ι τ ρ : Type) where
  | create (i : ι) (v : ρ)
  | withdraw (i : ι)
  | take (i : ι)
  | clear (i : ι)
  | drop (i : ι)
  | copy (t : τ) (i : ι)
  | call (t : τ) (i : ι)
  | acquire (t : τ)
  | look (t : τ)
  | finish (t : τ) (ok : Bool)
  | release (t : τ)

variable {ι τ ρ : Type}

-- the lock that a user has
def User.holds : User ι ρ → Option ι
  | .holding i | .busy i _ | .leaving i _ => some i
  | _ => none

namespace State

def init : State ι τ ρ where
  cells _ := ⟨.unborn, none, none⟩
  users _ := .idle
  copies _ _ := false

section Cells

variable [DecidableEq ι]

def setCell (i : ι) (c : Revocable τ ρ) (s : State ι τ ρ) : State ι τ ρ :=
  { s with cells := Function.update s.cells i c }

@[simp, grind =] lemma setCell_cells (s : State ι τ ρ) (i j : ι) (c : Revocable τ ρ) :
    (s.setCell i c).cells j = if j = i then c else s.cells j :=
  Function.update_apply ..

@[simp, grind =] lemma setCell_users (s : State ι τ ρ) (i : ι) (c : Revocable τ ρ) :
    (s.setCell i c).users = s.users := rfl

end Cells

section Users

variable [DecidableEq τ]

def setUser (t : τ) (u : User ι ρ) (s : State ι τ ρ) : State ι τ ρ :=
  { s with users := Function.update s.users t u }

@[simp, grind =] lemma setUser_cells (s : State ι τ ρ) (t : τ) (u : User ι ρ) :
    (s.setUser t u).cells = s.cells := rfl

@[simp, grind =] lemma setUser_users (s : State ι τ ρ) (t t' : τ) (u : User ι ρ) :
    (s.setUser t u).users t' = if t' = t then u else s.users t' :=
  Function.update_apply ..

end Users

variable [DecidableEq ι] [DecidableEq τ]

def addCopy (t : τ) (i : ι) (s : State ι τ ρ) : State ι τ ρ :=
  { s with copies := Function.update s.copies t (Function.update (s.copies t) i true) }

-- none for an action that is not possible
def step (s : State ι τ ρ) : Choice ι τ ρ → Option (State ι τ ρ)
  | .create i v =>
    if (s.cells i).owner = .unborn then
      some (s.setCell i { s.cells i with owner := .registered, value := some v })
    else none
  | .withdraw i =>
    if (s.cells i).owner = .registered then some (s.setCell i { s.cells i with owner := .withdrawn })
    else none
  | .take i =>
    if (s.cells i).owner = .withdrawn ∧ (s.cells i).lock = none then
      some (s.setCell i { s.cells i with owner := .clearing, lock := some .owner })
    else none
  | .clear i =>
    if (s.cells i).owner = .clearing then
      some (s.setCell i { s.cells i with owner := .cleared, value := none })
    else none
  | .drop i =>
    if (s.cells i).owner = .cleared then
      some (s.setCell i { s.cells i with owner := .gone, lock := none })
    else none
  | .copy t i => if (s.cells i).owner = .registered then some (s.addCopy t i) else none
  | .call t i =>
    match s.users t with
    | .idle => if s.copies t i then some (s.setUser t (.waiting i)) else none
    | _ => none
  | .acquire t =>
    match s.users t with
    | .waiting i =>
      if (s.cells i).lock = none then
        some ((s.setUser t (.holding i)).setCell i { s.cells i with lock := some (.user t) })
      else none
    | _ => none
  | .look t =>
    match s.users t with
    | .holding i =>
      some (s.setUser t ((s.cells i).value.elim (.leaving i false) (.busy i)))
    | _ => none
  | .finish t ok =>
    match s.users t with
    | .busy i _ => some (s.setUser t (.leaving i ok))
    | _ => none
  | .release t =>
    match s.users t with
    | .leaving i _ => some ((s.setUser t .idle).setCell i { s.cells i with lock := none })
    | _ => none

def run (s : State ι τ ρ) (actions : List (Choice ι τ ρ)) : Option (State ι τ ρ) :=
  actions.foldlM step s

-- what the possible actions do
inductive Step (s : State ι τ ρ) : Choice ι τ ρ → State ι τ ρ → Prop where
  | create {i : ι} (v : ρ) (ho : (s.cells i).owner = .unborn) :
    Step s (.create i v) (s.setCell i { s.cells i with owner := .registered, value := some v })
  | withdraw {i : ι} (ho : (s.cells i).owner = .registered) :
    Step s (.withdraw i) (s.setCell i { s.cells i with owner := .withdrawn })
  | take {i : ι} (ho : (s.cells i).owner = .withdrawn) (hl : (s.cells i).lock = none) :
    Step s (.take i) (s.setCell i { s.cells i with owner := .clearing, lock := some .owner })
  | clear {i : ι} (ho : (s.cells i).owner = .clearing) :
    Step s (.clear i) (s.setCell i { s.cells i with owner := .cleared, value := none })
  | drop {i : ι} (ho : (s.cells i).owner = .cleared) :
    Step s (.drop i) (s.setCell i { s.cells i with owner := .gone, lock := none })
  | copy {t : τ} {i : ι} (ho : (s.cells i).owner = .registered) : Step s (.copy t i) (s.addCopy t i)
  | call {t : τ} {i : ι} (ht : s.users t = .idle) (hc : s.copies t i) :
    Step s (.call t i) (s.setUser t (.waiting i))
  | acquire {t : τ} {i : ι} (ht : s.users t = .waiting i) (hl : (s.cells i).lock = none) :
    Step s (.acquire t)
      ((s.setUser t (.holding i)).setCell i { s.cells i with lock := some (.user t) })
  | look {t : τ} {i : ι} (ht : s.users t = .holding i) :
    Step s (.look t) (s.setUser t ((s.cells i).value.elim (.leaving i false) (.busy i)))
  | finish {t : τ} {i : ι} {v : ρ} (ok : Bool) (ht : s.users t = .busy i v) :
    Step s (.finish t ok) (s.setUser t (.leaving i ok))
  | release {t : τ} {i : ι} {ok : Bool} (ht : s.users t = .leaving i ok) :
    Step s (.release t) ((s.setUser t .idle).setCell i { s.cells i with lock := none })

lemma step_iff {s s' : State ι τ ρ} {a : Choice ι τ ρ} : s.step a = some s' ↔ s.Step a s' := by
  constructor
  · intro h
    cases a with
    | create i v | withdraw i | clear i | drop i | copy t i =>
      simp only [step, Option.ite_none_right_eq_some, Option.some.injEq] at h
      obtain ⟨ho, rfl⟩ := h
      constructor
      exact ho
    | take i =>
      simp only [step, Option.ite_none_right_eq_some, Option.some.injEq] at h
      obtain ⟨⟨ho, hl⟩, rfl⟩ := h
      exact .take ho hl
    | call t i | acquire t =>
      simp only [step] at h
      split at h
      · rename_i ht
        simp only [Option.ite_none_right_eq_some, Option.some.injEq] at h
        obtain ⟨hc, rfl⟩ := h
        constructor
        · exact ht
        · exact hc
      · cases h
    | look t | finish t ok | release t =>
      simp only [step] at h
      split at h
      · rename_i ht
        cases h
        constructor
        exact ht
      · cases h
  · intro h
    cases h <;> simp_all [step]

end State

-- who has the lock, and where the value is
structure Revocable.Sound (c : Revocable τ ρ) : Prop where
  lock : c.lock = some .owner ↔ c.owner = .clearing ∨ c.owner = .cleared
  value : c.value = none ↔ c.owner = .unborn ∨ c.owner = .cleared ∨ c.owner = .gone

structure Inv (s : State ι τ ρ) : Prop where
  cell : ∀ i, (s.cells i).Sound
  user : ∀ i t, (s.cells i).lock = some (.user t) ↔ (s.users t).holds = some i
  used : ∀ t i v, s.users t = .busy i v → (s.cells i).value = some v

lemma inv_init : Inv (State.init : State ι τ ρ) where
  cell i := ⟨by simp [State.init], by simp [State.init]⟩
  user i t := by simp [State.init, User.holds]
  used t i v h := by simp [State.init] at h

variable {s s' : State ι τ ρ}

-- nobody else has the lock that the owner has
lemma Inv.used_alone (hs : Inv s) {i : ι} (ho : (s.cells i).owner = .clearing) (t : τ) :
    (s.cells i).lock ≠ some (.user t) := by
  rw [(hs.cell i).lock.mpr (Or.inl ho)]
  simp

-- a value in use is the one that its owner has not taken away
lemma Inv.used_owner (hs : Inv s) {t : τ} {i : ι} {v : ρ} (ht : s.users t = .busy i v) :
    ((s.cells i).owner = .registered ∨ (s.cells i).owner = .withdrawn) ∧
      (s.cells i).value = some v := by
  have hc := hs.cell i
  have hv := hs.used t i v ht
  have hl : (s.cells i).lock = some (.user t) := (hs.user i t).mpr (by rw [ht]; rfl)
  have howner := mt hc.lock.mpr (by rw [hl]; simp)
  have hnone := mt hc.value.mpr (by rw [hv]; simp)
  cases ho : (s.cells i).owner <;> simp_all

section Owners

variable [DecidableEq ι]

-- the owner changes what only it may change
lemma inv_owner (hs : Inv s) {i : ι} {c : Revocable τ ρ} (hc : c.Sound)
    (hlock : ∀ t, c.lock = some (.user t) ↔ (s.cells i).lock = some (.user t))
    (hvalue : ∀ t v, (s.cells i).lock = some (.user t) → (s.cells i).value = some v →
      c.value = some v) : Inv (s.setCell i c) where
  cell j := by
    rw [State.setCell_cells]
    split
    · exact hc
    · exact hs.cell j
  user j t := by
    rw [State.setCell_cells, State.setCell_users]
    split
    · rename_i hj
      rw [hj, hlock]
      exact hs.user i t
    · exact hs.user j t
  used t j v hv := by
    rw [State.setCell_users] at hv
    rw [State.setCell_cells]
    split
    · rename_i hj
      rw [hj] at hv
      exact hvalue t v ((hs.user i t).mpr (by rw [hv]; rfl)) (hs.used t i v hv)
    · exact hs.used t j v hv

end Owners

section Users

variable [DecidableEq τ]

-- a user goes on without a lock, or with the one that it has
lemma inv_user (hs : Inv s) {t : τ} {u : User ι ρ} (hu : u.holds = (s.users t).holds)
    (hused : ∀ i v, u = .busy i v → (s.cells i).value = some v) : Inv (s.setUser t u) where
  cell := hs.cell
  user i t' := by
    rw [State.setUser_cells, State.setUser_users]
    split
    · rename_i ht
      rw [ht, hu]
      exact hs.user i t
    · exact hs.user i t'
  used t' i v hv := by
    rw [State.setUser_users] at hv
    split at hv
    · exact hused i v hv
    · exact hs.used t' i v hv

lemma setUser_self (s : State ι τ ρ) (t : τ) (u : User ι ρ) : (s.setUser t u).users t = u := by
  rw [State.setUser_users, if_pos rfl]

end Users

variable [DecidableEq ι] [DecidableEq τ]

-- a user takes the lock of a cell or gives it back
lemma inv_lock (hs : Inv s) {t : τ} {i : ι} {u : User ι ρ} {l : Option (Party τ)}
    (hl : (s.cells i).lock ≠ some .owner) (hl' : l ≠ some .owner)
    (hlock : ∀ t', l = some (.user t') ↔ (if t' = t then u else s.users t').holds = some i)
    (hother : ∀ j, j ≠ i → (u.holds = some j ↔ (s.users t).holds = some j))
    (hused : ∀ j v, u ≠ .busy j v) :
    Inv ((s.setUser t u).setCell i { s.cells i with lock := l }) where
  cell j := by
    have hc := hs.cell j
    rw [State.setCell_cells]
    split
    · rename_i hj
      rw [hj] at hc
      have hn := fun h => hl (hc.lock.mpr h)
      exact ⟨⟨fun h => absurd h hl', fun h => absurd h hn⟩, hc.value⟩
    · exact hc
  user j t' := by
    rw [State.setCell_cells, State.setCell_users, State.setUser_users]
    by_cases hj : j = i
    · rw [if_pos hj, hj]
      exact hlock t'
    · rw [if_neg hj, State.setUser_cells, hs.user j t']
      split
      · rename_i ht
        rw [ht]
        exact (hother j hj).symm
      · exact Iff.rfl
  used t' j v hv := by
    rw [State.setCell_users, State.setUser_users] at hv
    rw [State.setCell_cells]
    split at hv
    · exact absurd hv (hused j v)
    · have hvalue := hs.used t' j v hv
      split
      · rename_i hj
        rwa [hj] at hvalue
      · exact hvalue

lemma inv_acquire (hs : Inv s) {t : τ} {i : ι} (ht : s.users t = .waiting i)
    (hl : (s.cells i).lock = none) :
    Inv ((s.setUser t (.holding i)).setCell i { s.cells i with lock := some (.user t) }) := by
  apply inv_lock hs
  · simp [hl]
  · simp
  · intro t'
    split
    · rename_i h
      simp [h, User.holds]
    · rename_i h
      rw [← hs.user i t', hl]
      simp [Ne.symm h]
  · intro j hj
    simp [ht, User.holds, Ne.symm hj]
  · simp

lemma inv_release (hs : Inv s) {t : τ} {i : ι} {ok : Bool} (ht : s.users t = .leaving i ok) :
    Inv ((s.setUser t .idle).setCell i { s.cells i with lock := none }) := by
  have hl : (s.cells i).lock = some (.user t) := (hs.user i t).mpr (by rw [ht]; rfl)
  apply inv_lock hs
  · simp [hl]
  · simp
  · intro t'
    split
    · simp [User.holds]
    · rename_i h
      rw [← hs.user i t', hl]
      simp [Ne.symm h]
  · intro j hj
    simp [ht, User.holds, Ne.symm hj]
  · simp

lemma inv_step {a : Choice ι τ ρ} (hs : Inv s) (h : s.Step a s') : Inv s' := by
  cases h with
  | @create i v ho =>
    have hc := hs.cell i
    apply inv_owner hs
    · exact ⟨by simpa [ho] using hc.lock, by simp⟩
    · exact fun t => Iff.rfl
    · intro t w _ hw
      rw [hc.value.mpr (Or.inl ho)] at hw
      cases hw
  | @withdraw i ho =>
    have hc := hs.cell i
    apply inv_owner hs
    · exact ⟨by simpa [ho] using hc.lock, by simpa [ho] using hc.value⟩
    · exact fun t => Iff.rfl
    · exact fun t w _ hw => hw
  | @take i ho hl =>
    have hc := hs.cell i
    apply inv_owner hs
    · exact ⟨by simp, by simpa [ho] using hc.value⟩
    · simp [hl]
    · exact fun t w _ hw => hw
  | @clear i ho =>
    have hc := hs.cell i
    apply inv_owner hs
    · exact ⟨by simpa [ho] using hc.lock, by simp⟩
    · exact fun t => Iff.rfl
    · exact fun t w ht _ => absurd ht (hs.used_alone ho t)
  | @drop i ho =>
    have hc := hs.cell i
    have hl := hc.lock.mpr (Or.inr ho)
    apply inv_owner hs
    · exact ⟨by simp, by simpa [ho] using hc.value⟩
    · simp [hl]
    · exact fun t w _ hw => hw
  | copy ho => exact ⟨hs.cell, hs.user, hs.used⟩
  | call ht hc => exact inv_user hs (by rw [ht]; rfl) (fun j w h => by cases h)
  | acquire ht hl => exact inv_acquire hs ht hl
  | @look t i ht =>
    cases hv : (s.cells i).value with
    | none => exact inv_user hs (by rw [ht]; rfl) (fun j w h => by cases h)
    | some v =>
      apply inv_user hs (by rw [ht]; rfl)
      intro j w hw
      cases hw
      exact hv
  | finish ok ht => exact inv_user hs (by rw [ht]; rfl) (fun j w h => by cases h)
  | release ht => exact inv_release hs ht

-- whose step it is, of the users
def Choice.user : Choice ι τ ρ → Option τ
  | .copy t _ | .call t _ | .acquire t | .look t | .finish t _ | .release t => some t
  | _ => none

-- what the owners' steps rest on is not changed by users
lemma step_user {a : Choice ι τ ρ} {t : τ} (ha : a.user = some t) (h : s.Step a s') (i : ι) :
    (s'.cells i).owner = (s.cells i).owner ∧ (s'.cells i).value = (s.cells i).value := by
  cases h with
  | create | withdraw | take | clear | drop => cases ha
  | copy | call | look | finish => exact ⟨rfl, rfl⟩
  | acquire | release =>
    rw [State.setCell_cells]
    split
    · rename_i hi
      exact ⟨by rw [hi], by rw [hi]⟩
    · exact ⟨rfl, rfl⟩

-- a value is the one that its cell was made with
lemma step_value {a : Choice ι τ ρ} (h : s.Step a s') {i : ι} {v : ρ}
    (hv : (s'.cells i).value = some v) : (s.cells i).value = some v ∨ a = .create i v := by
  cases h with
  | create w ho =>
    rw [State.setCell_cells] at hv
    split at hv
    · rename_i hi
      cases hv
      exact Or.inr (by rw [hi])
    · exact Or.inl hv
  | clear ho =>
    rw [State.setCell_cells] at hv
    split at hv
    · cases hv
    · exact Or.inl hv
  | withdraw | take | drop | acquire | release =>
    rw [State.setCell_cells] at hv
    split at hv
    · rename_i hi
      rw [hi]
      exact Or.inl hv
    · exact Or.inl hv
  | copy | call | look | finish => exact Or.inl hv

-- the lock of a cell is free, and the other cells are as they were
def State.Unlocked (s s' : State ι τ ρ) (i : ι) : Prop :=
  s'.cells = Function.update s.cells i { s.cells i with lock := none }

lemma exists_release {t : τ} {i : ι} {ok : Bool} (ht : s.users t = .leaving i ok) :
    ∃ s', s.step (.release t) = some s' ∧ s.Unlocked s' i :=
  ⟨(s.setUser t .idle).setCell i { s.cells i with lock := none }, by rw [State.step, ht], rfl⟩

lemma exists_finish {t : τ} {i : ι} {v : ρ} (ht : s.users t = .busy i v) :
    ∃ s', s.run [.finish t false, .release t] = some s' ∧ s.Unlocked s' i := by
  have hfinish : s.step (.finish t false) = some (s.setUser t (.leaving i false)) := by
    rw [State.step, ht]
  obtain ⟨s', hs', hcell⟩ := exists_release (setUser_self s t (.leaving i false))
  refine ⟨s', ?_, hcell⟩
  rw [State.run, List.foldlM_cons, hfinish]
  simpa using hs'

-- a user that has a lock gives it back within three steps of its own
theorem exists_unlock (hs : Inv s) {t : τ} {i : ι} (hl : (s.cells i).lock = some (.user t)) :
    ∃ actions : List (Choice ι τ ρ), ∃ s', s.run actions = some s' ∧ actions.length ≤ 3 ∧
      (∀ a ∈ actions, a.user = some t) ∧ s.Unlocked s' i := by
  have hholds := (hs.user i t).mp hl
  cases ht : s.users t with
  | idle | waiting j =>
    rw [ht] at hholds
    cases hholds
  | holding j =>
    rw [ht] at hholds
    cases hholds
    have hlook : s.step (.look t) =
        some (s.setUser t ((s.cells i).value.elim (.leaving i false) (.busy i))) := by
      rw [State.step, ht]
    cases hv : (s.cells i).value with
    | none =>
      rw [hv, Option.elim_none] at hlook
      obtain ⟨s', hs', hcell⟩ := exists_release (setUser_self s t (.leaving i false))
      refine ⟨[.look t, .release t], s', ?_, by simp, by simp [Choice.user], hcell⟩
      rw [State.run, List.foldlM_cons, hlook]
      simpa using hs'
    | some v =>
      rw [hv, Option.elim_some] at hlook
      obtain ⟨s', hs', hcell⟩ := exists_finish (setUser_self s t (.busy i v))
      refine ⟨[.look t, .finish t false, .release t], s', ?_, by simp, by simp [Choice.user], hcell⟩
      rw [State.run, List.foldlM_cons, hlook]
      exact hs'
  | busy j v =>
    rw [ht] at hholds
    cases hholds
    obtain ⟨s', hs', hcell⟩ := exists_finish ht
    exact ⟨_, s', hs', by simp, by simp [Choice.user], hcell⟩
  | leaving j ok =>
    rw [ht] at hholds
    cases hholds
    obtain ⟨s', hs', hcell⟩ := exists_release ht
    refine ⟨[.release t], s', ?_, by simp, by simp [Choice.user], hcell⟩
    simpa [State.run] using hs'

end Revocation
