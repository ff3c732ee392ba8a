import OracleDriver.Library.Revocation
import Mathlib.Data.List.Induction

/-! QoreOracleCancelHelper: an interrupt of a sandbox calls OCIBreak() on the handles of a connection
from another thread, while the connection's own thread is in a call of the client. -/

namespace OracleDriver.CancelHelper

open Revocation

-- QoreOracleCancelHelper::State, less its mutex
structure Handles (ρ : Type) where
  svc : ρ
  err : ρ
deriving DecidableEq, Repr

-- where the thread of a connection is in the scope of a helper: in the calls of one that has registered
-- a callback or of one that has not, or in the destructor
inductive Pc where
  | calling (state : Bool)
  | unregistered
  | locked
  | cleared
deriving DecidableEq, Repr

structure Scope where
  helper : ℕ
  pc : Pc
deriving DecidableEq, Repr

-- the scopes that the thread is in, the innermost first: checkerr() within the scope of a bulk load's
-- prepare makes helpers of its own
structure Conn (ρ : Type) where
  svchp : Option ρ
  errhp : Option ρ
  made : ℕ
  scopes : List Scope

namespace Conn

variable {ρ : Type}

-- the thread is not in a destructor
def runs (c : Conn ρ) : Bool :=
  match c.scopes with
  | [] | ⟨_, .calling _⟩ :: _ => true
  | _ => false

def enter (c : Conn ρ) (state : Bool) : Conn ρ :=
  { c with made := c.made + 1, scopes := ⟨c.made, .calling state⟩ :: c.scopes }

-- the innermost scope goes on, and is left
def advance (c : Conn ρ) (pc : Pc) : Conn ρ :=
  { c with scopes := c.scopes.modifyHead ({ · with pc }) }

def leave (c : Conn ρ) : Conn ρ := { c with scopes := c.scopes.tail }

lemma advance_scopes {c : Conn ρ} {s : Scope} {rest : List Scope} (hs : c.scopes = s :: rest)
    (pc : Pc) : (c.advance pc).scopes = ⟨s.helper, pc⟩ :: rest := by
  rw [advance, hs]
  rfl

lemma leave_scopes {c : Conn ρ} {s : Scope} {rest : List Scope} (hs : c.scopes = s :: rest) :
    c.leave.scopes = rest := by
  rw [leave, hs]
  rfl

end Conn

-- the states of the helpers are those of the connections' calls, by number
structure World (κ τ ρ : Type) where
  states : Revocation.State (κ × ℕ) τ (Handles ρ)
  conns : κ → Conn ρ

inductive Action (κ τ ρ : Type) where
  | handles (k : κ) (svchp errhp : Option ρ)
  | construct (k : κ) (smh : Bool)
  | unregister (k : κ)
  | lock (k : κ)
  | clear (k : κ)
  | unlock (k : κ)
  | interrupt (a : Choice (κ × ℕ) τ (Handles ρ))

variable {κ τ ρ : Type}

namespace World

def init : World κ τ ρ where
  states := .init
  conns _ := ⟨none, none, 0, []⟩

section Conns

variable [DecidableEq κ]

def setConn (k : κ) (c : Conn ρ) (states : Revocation.State (κ × ℕ) τ (Handles ρ))
    (w : World κ τ ρ) : World κ τ ρ where
  states
  conns := Function.update w.conns k c

@[simp, grind =] lemma setConn_states (w : World κ τ ρ) (k : κ) (c : Conn ρ)
    (states : Revocation.State (κ × ℕ) τ (Handles ρ)) : (w.setConn k c states).states = states := rfl

@[simp, grind =] lemma setConn_conns (w : World κ τ ρ) (k j : κ) (c : Conn ρ)
    (states : Revocation.State (κ × ℕ) τ (Handles ρ)) :
    (w.setConn k c states).conns j = if j = k then c else w.conns j :=
  Function.update_apply ..

end Conns

variable [DecidableEq κ] [DecidableEq τ]

-- a step of the connection's thread on the state of a helper
def owner (k : κ) (a : Choice (κ × ℕ) τ (Handles ρ)) (c : Conn ρ) (w : World κ τ ρ) :
    Option (World κ τ ρ) :=
  (w.states.step a).map fun states => w.setConn k c states

def step (w : World κ τ ρ) : Action κ τ ρ → Option (World κ τ ρ)
  -- the constructor and the destructor of the connection; a loss within a scope can delete it
  | .handles k svchp errhp =>
    let c := w.conns k
    if c.runs then some (w.setConn k { c with svchp, errhp } w.states) else none
  | .construct k smh =>
    let c := w.conns k
    if c.runs then
      match smh, c.svchp, c.errhp with
      | true, some svc, some err => w.owner k (.create (k, c.made) ⟨svc, err⟩) (c.enter true)
      | _, _, _ => some (w.setConn k (c.enter false) w.states)
    else none
  | .unregister k =>
    let c := w.conns k
    match c.scopes with
    | ⟨n, .calling true⟩ :: _ => w.owner k (.withdraw (k, n)) (c.advance .unregistered)
    | ⟨_, .calling false⟩ :: _ => some (w.setConn k c.leave w.states)
    | _ => none
  | .lock k =>
    let c := w.conns k
    match c.scopes with
    | ⟨n, .unregistered⟩ :: _ => w.owner k (.take (k, n)) (c.advance .locked)
    | _ => none
  | .clear k =>
    let c := w.conns k
    match c.scopes with
    | ⟨n, .locked⟩ :: _ => w.owner k (.clear (k, n)) (c.advance .cleared)
    | _ => none
  | .unlock k =>
    let c := w.conns k
    match c.scopes with
    | ⟨n, .cleared⟩ :: _ => w.owner k (.drop (k, n)) c.leave
    | _ => none
  | .interrupt a =>
    if a.user.isSome then (w.states.step a).map fun states => { w with states } else none

def run (w : World κ τ ρ) (actions : List (Action κ τ ρ)) : Option (World κ τ ρ) :=
  actions.foldlM step w

-- what the possible actions do
inductive Step (w : World κ τ ρ) : Action κ τ ρ → World κ τ ρ → Prop where
  | handles {k : κ} (svchp errhp : Option ρ) :
    Step w (.handles k svchp errhp) (w.setConn k { w.conns k with svchp, errhp } w.states)
  | enter {k : κ} {v : Handles ρ} {states : Revocation.State (κ × ℕ) τ (Handles ρ)}
      (hsvc : (w.conns k).svchp = some v.svc) (herr : (w.conns k).errhp = some v.err)
      (ha : w.states.Step (.create (k, (w.conns k).made) v) states) :
    Step w (.construct k true) (w.setConn k ((w.conns k).enter true) states)
  | bare {k : κ} {smh : Bool} :
    Step w (.construct k smh) (w.setConn k ((w.conns k).enter false) w.states)
  | withdraw {k : κ} {n : ℕ} {rest : List Scope} {states : Revocation.State (κ × ℕ) τ (Handles ρ)}
      (hs : (w.conns k).scopes = ⟨n, .calling true⟩ :: rest)
      (ha : w.states.Step (.withdraw (k, n)) states) :
    Step w (.unregister k) (w.setConn k ((w.conns k).advance .unregistered) states)
  | leave {k : κ} {n : ℕ} {rest : List Scope}
      (hs : (w.conns k).scopes = ⟨n, .calling false⟩ :: rest) :
    Step w (.unregister k) (w.setConn k (w.conns k).leave w.states)
  | take {k : κ} {n : ℕ} {rest : List Scope} {states : Revocation.State (κ × ℕ) τ (Handles ρ)}
      (hs : (w.conns k).scopes = ⟨n, .unregistered⟩ :: rest)
      (ha : w.states.Step (.take (k, n)) states) :
    Step w (.lock k) (w.setConn k ((w.conns k).advance .locked) states)
  | clear {k : κ} {n : ℕ} {rest : List Scope} {states : Revocation.State (κ × ℕ) τ (Handles ρ)}
      (hs : (w.conns k).scopes = ⟨n, .locked⟩ :: rest)
      (ha : w.states.Step (.clear (k, n)) states) :
    Step w (.clear k) (w.setConn k ((w.conns k).advance .cleared) states)
  | drop {k : κ} {n : ℕ} {rest : List Scope} {states : Revocation.State (κ × ℕ) τ (Handles ρ)}
      (hs : (w.conns k).scopes = ⟨n, .cleared⟩ :: rest)
      (ha : w.states.Step (.drop (k, n)) states) :
    Step w (.unlock k) (w.setConn k (w.conns k).leave states)
  | interrupt {a : Choice (κ × ℕ) τ (Handles ρ)} {t : τ}
      {states : Revocation.State (κ × ℕ) τ (Handles ρ)} (ht : a.user = some t)
      (ha : w.states.Step a states) : Step w (.interrupt a) { w with states }

lemma owner_eq {w w' : World κ τ ρ} {k : κ} {a : Choice (κ × ℕ) τ (Handles ρ)} {c : Conn ρ} :
    w.owner k a c = some w' ↔ ∃ states, w.states.Step a states ∧ w' = w.setConn k c states := by
  rw [owner, Option.map_eq_some_iff]
  constructor
  · rintro ⟨states, ha, rfl⟩
    exact ⟨states, State.step_iff.mp ha, rfl⟩
  · rintro ⟨states, ha, rfl⟩
    exact ⟨states, State.step_iff.mpr ha, rfl⟩

lemma step_cases {w w' : World κ τ ρ} {a : Action κ τ ρ} (h : w.step a = some w') :
    w.Step a w' := by
  cases a with
  | handles k svchp errhp =>
    simp only [step, Option.ite_none_right_eq_some, Option.some.injEq] at h
    obtain ⟨-, rfl⟩ := h
    exact .handles svchp errhp
  | construct k smh =>
    simp only [step, Option.ite_none_right_eq_some] at h
    obtain ⟨-, h⟩ := h
    split at h
    · rename_i hsvc herr
      obtain ⟨states, ha, rfl⟩ := owner_eq.mp h
      exact .enter hsvc herr ha
    · cases h
      exact .bare
  | unregister k =>
    simp only [step] at h
    split at h
    · rename_i hs
      obtain ⟨states, ha, rfl⟩ := owner_eq.mp h
      exact .withdraw hs ha
    · rename_i hs
      cases h
      exact .leave hs
    · cases h
  | lock k | clear k | unlock k =>
    simp only [step] at h
    split at h
    · rename_i hs
      obtain ⟨states, ha, rfl⟩ := owner_eq.mp h
      constructor
      · exact hs
      · exact ha
    · cases h
  | interrupt a =>
    simp only [step, Option.ite_none_right_eq_some, Option.map_eq_some_iff] at h
    obtain ⟨hu, states, ha, rfl⟩ := h
    obtain ⟨t, ht⟩ := Option.isSome_iff_exists.mp hu
    exact .interrupt ht (State.step_iff.mp ha)

end World

-- what the thread of a connection has done with the state of a helper
def Pc.owner : Pc → Owner
  | .calling false => .unborn
  | .calling true => .registered
  | .unregistered => .withdrawn
  | .locked => .clearing
  | .cleared => .cleared

-- the helpers in scope are in the phases that the thread is in, and the others are done or to come
structure Conn.Sound (c : Conn ρ) (cells : ℕ → Revocable τ (Handles ρ)) : Prop where
  nodup : (c.scopes.map Scope.helper).Nodup
  below : ∀ n ∈ c.scopes.map Scope.helper, n < c.made
  scope : ∀ s ∈ c.scopes, (cells s.helper).owner = s.pc.owner
  past : ∀ n, n ∉ c.scopes.map Scope.helper → (cells n).owner = .unborn ∨ (cells n).owner = .gone
  future : ∀ n, c.made ≤ n → (cells n).owner = .unborn

structure World.Inv (w : World κ τ ρ) : Prop where
  states : Revocation.Inv w.states
  conn : ∀ k, (w.conns k).Sound fun n => w.states.cells (k, n)

namespace Conn.Sound

variable {c : Conn ρ} {cells cells' : ℕ → Revocable τ (Handles ρ)}

lemma congr (hc : c.Sound cells) (h : ∀ n, (cells' n).owner = (cells n).owner) :
    c.Sound cells' where
  nodup := hc.nodup
  below := hc.below
  scope s hs := by rw [h]; exact hc.scope s hs
  past n hn := by rw [h]; exact hc.past n hn
  future n hn := by rw [h]; exact hc.future n hn

-- the helper that is made next
lemma enter (hc : c.Sound cells) {state : Bool} (h : ∀ n, n ≠ c.made → cells' n = cells n)
    (ho : (cells' c.made).owner = (Pc.calling state).owner) : (c.enter state).Sound cells' where
  nodup := List.nodup_cons.mpr ⟨fun hn => Nat.lt_irrefl _ (hc.below _ hn), hc.nodup⟩
  below n hn := by
    rcases List.mem_cons.mp hn with rfl | hn
    · exact Nat.lt_succ_self _
    · exact Nat.lt_succ_of_lt (hc.below n hn)
  scope s hs := by
    rcases List.mem_cons.mp hs with rfl | hs
    · exact ho
    · rw [h _ (Nat.ne_of_lt (hc.below _ (List.mem_map_of_mem hs)))]
      exact hc.scope s hs
  past n hn := by
    obtain ⟨hne, hn⟩ := not_or.mp (mt List.mem_cons.mpr hn)
    rw [h n hne]
    exact hc.past n hn
  future n hn := by
    rw [h n (Nat.ne_of_gt hn)]
    exact hc.future n (Nat.le_of_succ_le hn)

variable {s : Scope} {rest : List Scope} (hs : c.scopes = s :: rest)
include hs

lemma head (hc : c.Sound cells) : (cells s.helper).owner = s.pc.owner :=
  hc.scope s (hs ▸ List.mem_cons_self)

lemma advance (hc : c.Sound cells) {pc : Pc} (h : ∀ n, n ≠ s.helper → cells' n = cells n)
    (ho : (cells' s.helper).owner = pc.owner) : (c.advance pc).Sound cells' := by
  have hscopes := advance_scopes hs pc
  have hnames : (c.advance pc).scopes.map Scope.helper = c.scopes.map Scope.helper := by
    rw [hscopes, hs]
    rfl
  have hnodup := hc.nodup
  rw [hs, List.map_cons, List.nodup_cons] at hnodup
  constructor
  · rw [hnames]
    exact hc.nodup
  · rw [hnames]
    exact hc.below
  · intro s' hs'
    rw [hscopes] at hs'
    rcases List.mem_cons.mp hs' with rfl | hs'
    · exact ho
    · rw [h _ fun he => hnodup.1 (he ▸ List.mem_map_of_mem hs')]
      exact hc.scope s' (hs ▸ List.mem_cons_of_mem _ hs')
  · intro n hn
    rw [hnames] at hn
    rw [h n fun he => hn (by rw [he, hs]; exact List.mem_cons_self)]
    exact hc.past n hn
  · intro n hn
    have hbelow := hc.below s.helper (by rw [hs]; exact List.mem_cons_self)
    rw [h n fun he => Nat.not_lt.mpr hn (he ▸ hbelow)]
    exact hc.future n hn

lemma leave (hc : c.Sound cells) (h : ∀ n, n ≠ s.helper → cells' n = cells n)
    (ho : (cells' s.helper).owner = .unborn ∨ (cells' s.helper).owner = .gone) :
    c.leave.Sound cells' := by
  have hscopes := leave_scopes hs
  have hnodup := hc.nodup
  rw [hs, List.map_cons, List.nodup_cons] at hnodup
  constructor
  · rw [hscopes]
    exact hnodup.2
  · intro n hn
    rw [hscopes] at hn
    exact hc.below n (by rw [hs]; exact List.mem_cons_of_mem _ hn)
  · intro s' hs'
    rw [hscopes] at hs'
    rw [h _ fun he => hnodup.1 (he ▸ List.mem_map_of_mem hs')]
    exact hc.scope s' (hs ▸ List.mem_cons_of_mem _ hs')
  · intro n hn
    rw [hscopes] at hn
    by_cases he : n = s.helper
    · rw [he]
      exact ho
    · rw [h n he]
      refine hc.past n fun hn' => ?_
      rw [hs, List.map_cons] at hn'
      exact (List.mem_cons.mp hn').elim he hn
  · intro n hn
    have hbelow := hc.below s.helper (by rw [hs]; exact List.mem_cons_self)
    rw [h n fun he => Nat.not_lt.mpr hn (he ▸ hbelow)]
    exact hc.future n hn

end Conn.Sound

lemma inv_init : (World.init : World κ τ ρ).Inv where
  states := Revocation.inv_init
  conn _ := ⟨List.nodup_nil, by simp [World.init], by simp [World.init], fun _ _ => Or.inl rfl,
    fun _ _ => rfl⟩

open World

section Conns

variable [DecidableEq κ]

lemma setCell_other {states : Revocation.State (κ × ℕ) τ (Handles ρ)} {k j : κ} (n m : ℕ)
    (cell : Revocable τ (Handles ρ)) (hj : j ≠ k) :
    (states.setCell (k, n) cell).cells (j, m) = states.cells (j, m) := by
  rw [State.setCell_cells, if_neg]
  intro h
  exact hj (Prod.mk.inj h).1

lemma setCell_own {states : Revocation.State (κ × ℕ) τ (Handles ρ)} {k : κ} {n : ℕ}
    (cell : Revocable τ (Handles ρ)) {m : ℕ} (hm : m ≠ n) :
    (states.setCell (k, n) cell).cells (k, m) = states.cells (k, m) := by
  rw [State.setCell_cells, if_neg]
  intro h
  exact hm (Prod.mk.inj h).2

lemma setCell_same {states : Revocation.State (κ × ℕ) τ (Handles ρ)} (k : κ) (n : ℕ)
    (cell : Revocable τ (Handles ρ)) : (states.setCell (k, n) cell).cells (k, n) = cell := by
  rw [State.setCell_cells, if_pos rfl]

variable {w w' : World κ τ ρ}

-- a connection's thread changes only the states of its own helpers
lemma inv_setConn (hw : w.Inv) {k : κ} {c : Conn ρ}
    {states : Revocation.State (κ × ℕ) τ (Handles ρ)} (hstates : Revocation.Inv states)
    (hother : ∀ j n, j ≠ k → states.cells (j, n) = w.states.cells (j, n))
    (hc : c.Sound fun n => states.cells (k, n)) : (w.setConn k c states).Inv where
  states := hstates
  conn j := by
    rw [World.setConn_conns, World.setConn_states]
    split
    · rename_i hj
      rw [hj]
      exact hc
    · rename_i hj
      apply (hw.conn j).congr
      intro n
      rw [hother j n hj]

end Conns

variable [DecidableEq κ] [DecidableEq τ] {w w' : World κ τ ρ}

-- a step within the innermost scope
lemma inv_advance (hw : w.Inv) {k : κ} {s : Scope} {rest : List Scope}
    (hs : (w.conns k).scopes = s :: rest) {pc : Pc} {a : Choice (κ × ℕ) τ (Handles ρ)}
    {cell : Revocable τ (Handles ρ)} (ha : w.states.Step a (w.states.setCell (k, s.helper) cell))
    (ho : cell.owner = pc.owner) :
    (w.setConn k ((w.conns k).advance pc) (w.states.setCell (k, s.helper) cell)).Inv := by
  apply inv_setConn hw (Revocation.inv_step hw.states ha)
  · exact fun j n hj => setCell_other _ _ _ hj
  · apply (hw.conn k).advance hs
    · exact fun n hn => setCell_own _ hn
    · rw [setCell_same]
      exact ho

lemma inv_step {a : Action κ τ ρ} (hw : w.Inv) (h : w.step a = some w') : w'.Inv := by
  cases step_cases h with
  | @handles k svchp errhp =>
    have hc := hw.conn k
    apply inv_setConn hw hw.states (fun j n _ => rfl)
    exact ⟨hc.nodup, hc.below, hc.scope, hc.past, hc.future⟩
  | @enter k v states _ _ ha =>
    cases ha with
    | create _ ho =>
      apply inv_setConn hw (Revocation.inv_step hw.states (.create v ho))
      · exact fun j n hj => setCell_other _ _ _ hj
      · apply (hw.conn k).enter
        · exact fun n hn => setCell_own _ hn
        · rw [setCell_same]
          rfl
  | @bare k =>
    have hc := hw.conn k
    apply inv_setConn hw hw.states (fun j n _ => rfl)
    exact hc.enter (fun n _ => rfl) (hc.future _ (Nat.le_refl _))
  | withdraw hs ha =>
    cases ha with
    | withdraw ho => exact inv_advance hw hs (.withdraw ho) rfl
  | @leave k n rest hs =>
    apply inv_setConn hw hw.states (fun j n _ => rfl)
    exact (hw.conn k).leave hs (fun n _ => rfl) (Or.inl ((hw.conn k).head hs))
  | take hs ha =>
    cases ha with
    | take ho hl => exact inv_advance hw hs (.take ho hl) rfl
  | clear hs ha =>
    cases ha with
    | clear ho => exact inv_advance hw hs (.clear ho) rfl
  | @drop k n rest states hs ha =>
    cases ha with
    | drop ho =>
      apply inv_setConn hw (Revocation.inv_step hw.states (.drop ho))
      · exact fun j n hj => setCell_other _ _ _ hj
      · apply (hw.conn k).leave hs (fun n hn => setCell_own _ hn)
        rw [setCell_same]
        exact Or.inr rfl
  | interrupt ht ha =>
    constructor
    · exact Revocation.inv_step hw.states ha
    · exact fun k => (hw.conn k).congr fun n => (step_user ht ha (k, n)).1

lemma inv_run {actions : List (Action κ τ ρ)} (hw : w.Inv) (h : w.run actions = some w') :
    w'.Inv := by
  induction actions generalizing w with
  | nil =>
    cases h
    exact hw
  | cons a actions ih =>
    simp only [World.run, List.foldlM_cons, Option.bind_eq_bind, Option.bind_eq_some_iff] at h
    obtain ⟨w₁, ha, hrest⟩ := h
    exact ih (inv_step hw ha) hrest

-- the constructor and the destructor of the connection, or of a session that is made again
def Action.changes : Action κ τ ρ → Option κ
  | .handles k _ _ => some k
  | _ => none

-- the run of the actions has come to the constructor of the helper, with these handles
def MadeWith (actions : List (Action κ τ ρ)) (k : κ) (n : ℕ) (v : Handles ρ) : Prop :=
  ∃ w : World κ τ ρ, World.init.run actions = some w ∧ (w.conns k).made = n ∧
    (w.conns k).svchp = some v.svc ∧ (w.conns k).errhp = some v.err

lemma handles_step {a : Action κ τ ρ} {k : κ} (ha : a.changes ≠ some k) (h : w.step a = some w') :
    (w'.conns k).svchp = (w.conns k).svchp ∧ (w'.conns k).errhp = (w.conns k).errhp := by
  cases step_cases h with
  | @handles j svchp errhp =>
    rw [setConn_conns, if_neg fun hk => ha (by rw [hk]; rfl)]
    exact ⟨rfl, rfl⟩
  | interrupt => exact ⟨rfl, rfl⟩
  | @enter j | @bare j | @withdraw j | @leave j | @take j | @clear j | @drop j =>
    rw [setConn_conns]
    split
    · rename_i hk
      rw [hk]
      exact ⟨rfl, rfl⟩
    · exact ⟨rfl, rfl⟩

lemma handles_run {actions : List (Action κ τ ρ)} {k : κ}
    (hall : ∀ a ∈ actions, a.changes ≠ some k) (h : w.run actions = some w') :
    (w'.conns k).svchp = (w.conns k).svchp ∧ (w'.conns k).errhp = (w.conns k).errhp := by
  induction actions generalizing w with
  | nil =>
    cases h
    exact ⟨rfl, rfl⟩
  | cons a actions ih =>
    simp only [World.run, List.foldlM_cons, Option.bind_eq_bind, Option.bind_eq_some_iff] at h
    obtain ⟨w₁, ha, hrest⟩ := h
    obtain ⟨hsvc, herr⟩ := handles_step (hall a List.mem_cons_self) ha
    rw [← hsvc, ← herr]
    exact ih (fun b hb => hall b (List.mem_cons_of_mem _ hb)) hrest

lemma run_append {actions rest : List (Action κ τ ρ)} :
    w.run (actions ++ rest) = w.run actions >>= fun w₁ => w₁.run rest :=
  List.foldlM_append

-- the handles of a state come from its constructor
lemma value_step {a : Action κ τ ρ} {k : κ} {n : ℕ} {v : Handles ρ} (h : w.step a = some w')
    (hv : (w'.states.cells (k, n)).value = some v) :
    (w.states.cells (k, n)).value = some v ∨ a = .construct k true ∧ (w.conns k).made = n ∧
      (w.conns k).svchp = some v.svc ∧ (w.conns k).errhp = some v.err := by
  cases step_cases h with
  | handles | bare | leave => exact Or.inl hv
  | enter hsvc herr ha =>
    rcases step_value ha hv with hv | hv
    · exact Or.inl hv
    · cases hv
      exact Or.inr ⟨rfl, rfl, hsvc, herr⟩
  | withdraw hs ha | take hs ha | clear hs ha | drop hs ha =>
    exact Or.inl ((step_value ha hv).resolve_right (by rintro ⟨⟩))
  | interrupt ht ha =>
    rcases step_value ha hv with hv | rfl
    · exact Or.inl hv
    · cases ht

lemma made_run {actions : List (Action κ τ ρ)} {k : κ} {n : ℕ} {v : Handles ρ}
    (h : World.init.run actions = some w) (hv : (w.states.cells (k, n)).value = some v) :
    ∃ pre post, actions = pre ++ .construct k true :: post ∧ MadeWith pre k n v := by
  induction actions using List.reverseRecOn generalizing w with
  | nil =>
    cases h
    cases hv
  | append_singleton actions a ih =>
    rw [run_append] at h
    obtain ⟨w₁, hrun, ha⟩ := Option.bind_eq_some_iff.mp h
    have hstep : w₁.step a = some w := by simpa [World.run] using ha
    rcases value_step hstep hv with hv | ⟨rfl, hmade⟩
    · obtain ⟨pre, post, rfl, hpre⟩ := ih hrun hv
      exact ⟨pre, post ++ [a], by simp, hpre⟩
    · exact ⟨actions, [], rfl, w₁, hrun, hmade⟩

-- an OCIBreak() in progress is within the scope whose callback has been called, which its thread waits
-- for in the destructor at the latest, and on the handles of that scope's constructor: those that the
-- connection has now, unless a session was lost or made within the scope
theorem break_within_scope {actions : List (Action κ τ ρ)} {t : τ} {k : κ} {n : ℕ} {v : Handles ρ}
    (h : World.init.run actions = some w) (ht : w.states.users t = .busy (k, n) v) :
    (∃ s ∈ (w.conns k).scopes, s.helper = n ∧ (s.pc = .calling true ∨ s.pc = .unregistered)) ∧
      ∃ pre post, actions = pre ++ .construct k true :: post ∧ MadeWith pre k n v ∧
        ((∀ a ∈ post, a.changes ≠ some k) →
          (w.conns k).svchp = some v.svc ∧ (w.conns k).errhp = some v.err) := by
  have hw := inv_run inv_init h
  have hc := hw.conn k
  obtain ⟨howner, hvalue⟩ := hw.states.used_owner ht
  constructor
  · by_cases hn : n ∈ (w.conns k).scopes.map Scope.helper
    · obtain ⟨s, hs, rfl⟩ := List.mem_map.mp hn
      have hscope : (w.states.cells (k, s.helper)).owner = s.pc.owner := hc.scope s hs
      rw [hscope] at howner
      refine ⟨s, hs, rfl, ?_⟩
      cases hpc : s.pc with
      | locked | cleared => simp [hpc, Pc.owner] at howner
      | calling state =>
        cases state with
        | false => simp [hpc, Pc.owner] at howner
        | true => exact Or.inl rfl
      | unregistered => exact Or.inr rfl
    · have hpast : (w.states.cells (k, n)).owner = .unborn ∨ _ := hc.past n hn
      rcases hpast with hpast | hpast <;> simp [hpast] at howner
  · obtain ⟨pre, post, rfl, hpre⟩ := made_run h hvalue
    refine ⟨pre, post, rfl, hpre, ?_⟩
    intro hpost
    obtain ⟨w₁, hrun, -, hsvc, herr⟩ := hpre
    rw [run_append, hrun] at h
    obtain ⟨hsvc', herr'⟩ := handles_run (List.forall_mem_cons.mpr ⟨by rintro ⟨⟩, hpost⟩) h
    rw [hsvc', herr']
    exact ⟨hsvc, herr⟩

section Example

-- the interrupt has copied the callback before the client's call returned, and calls it after that;
-- there was a helper within the scope
def lateInterrupt : List (Action ℕ ℕ ℕ) :=
  [.handles 0 (some 1) (some 2), .construct 0 true, .construct 0 false, .unregister 0,
    .interrupt (.copy 0 (0, 0)), .unregister 0, .interrupt (.call 0 (0, 0)), .interrupt (.acquire 0),
    .interrupt (.look 0)]

lemma run_lateInterrupt : ∃ w, World.init.run lateInterrupt = some w ∧
    w.states.users 0 = .busy (0, 0) ⟨1, 2⟩ :=
  ⟨_, rfl, rfl⟩

theorem break_within_scope_late : ∃ w, World.init.run lateInterrupt = some w ∧
    ∃ s ∈ (w.conns 0).scopes, s.helper = 0 ∧ (s.pc = .calling true ∨ s.pc = .unregistered) := by
  obtain ⟨w, hrun, hbusy⟩ := run_lateInterrupt
  exact ⟨w, hrun, (break_within_scope hrun hbusy).1⟩

-- the session is lost within the scope, whose callback uses what it was made with
example : ∃ w : World ℕ ℕ ℕ, World.init.run [.handles 0 (some 1) (some 2), .construct 0 true,
    .interrupt (.copy 0 (0, 0)), .handles 0 none none, .interrupt (.call 0 (0, 0)),
    .interrupt (.acquire 0), .interrupt (.look 0)] = some w ∧
      w.states.users 0 = .busy (0, 0) ⟨1, 2⟩ ∧ (w.conns 0).svchp = none :=
  ⟨_, rfl, rfl, rfl⟩

end Example

-- the connection whose thread takes the step
def Action.thread : Action κ τ ρ → Option κ
  | .handles k _ _ | .construct k _ | .unregister k | .lock k | .clear k | .unlock k => some k
  | .interrupt _ => none

-- a few steps that are allowed lead to the goal
def Leads (w : World κ τ ρ) (allowed : Action κ τ ρ → Prop) (n : ℕ) (goal : World κ τ ρ → Prop) :
    Prop :=
  ∃ actions w', w.run actions = some w' ∧ goal w' ∧ actions.length ≤ n ∧ ∀ a ∈ actions, allowed a

section Leads

variable {allowed allowed' : Action κ τ ρ → Prop} {n m : ℕ} {goal goal' : World κ τ ρ → Prop}

lemma leads_refl (h : goal w) : Leads w allowed 0 goal :=
  ⟨[], w, rfl, h, Nat.zero_le _, List.forall_mem_nil _⟩

lemma Leads.append {actions : List (Action κ τ ρ)} (hl : Leads w' allowed n goal)
    (h : w.run actions = some w') (hall : ∀ a ∈ actions, allowed a) :
    Leads w allowed (n + actions.length) goal := by
  obtain ⟨rest, w₁, hrun, hgoal, hlen, hrest⟩ := hl
  refine ⟨actions ++ rest, w₁, ?_, hgoal, ?_, List.forall_mem_append.mpr ⟨hall, hrest⟩⟩
  · rw [run_append, h]
    exact hrun
  · rw [List.length_append]
    omega

lemma Leads.cons {a : Action κ τ ρ} (hl : Leads w' allowed n goal) (h : w.step a = some w')
    (ha : allowed a) : Leads w allowed (n + 1) goal := by
  have hrun : w.run [a] = some w' := by simpa [World.run] using h
  exact hl.append hrun (by simpa using ha)

lemma Leads.mono (hl : Leads w allowed n goal) (h : n ≤ m) : Leads w allowed m goal := by
  obtain ⟨actions, w₁, hrun, hgoal, hlen, hall⟩ := hl
  exact ⟨actions, w₁, hrun, hgoal, Nat.le_trans hlen h, hall⟩

lemma Leads.imp (hl : Leads w allowed n goal) (h : ∀ w', goal w' → goal' w') :
    Leads w allowed n goal' := by
  obtain ⟨actions, w₁, hrun, hgoal, hlen, hall⟩ := hl
  exact ⟨actions, w₁, hrun, h w₁ hgoal, hlen, hall⟩

-- from what is reached the next steps go on
lemma Leads.trans (hl : Leads w allowed n goal)
    (h : ∀ w', w'.Inv → goal w' → Leads w' allowed m goal') (hw : w.Inv) :
    Leads w allowed (m + n) goal' := by
  obtain ⟨actions, w₁, hrun, hgoal, hlen, hall⟩ := hl
  exact ((h w₁ (inv_run hw hrun) hgoal).append hrun hall).mono (Nat.add_le_add_left hlen m)

end Leads

-- the innermost scope is left, and the states of the other helpers are as they were
structure Left (k : κ) (n : ℕ) (rest : List Scope) (w w' : World κ τ ρ) : Prop where
  scopes : (w'.conns k).scopes = rest
  cells : ∀ m, m ≠ n → w'.states.cells (k, m) = w.states.cells (k, m)

section Scopes

variable {k : κ} {n m : ℕ} {rest : List Scope} {allowed : Action κ τ ρ → Prop}

lemma run_interrupts {actions : List (Choice (κ × ℕ) τ (Handles ρ))} {t : τ}
    {states : Revocation.State (κ × ℕ) τ (Handles ρ)} (hrun : w.states.run actions = some states)
    (hall : ∀ a ∈ actions, a.user = some t) :
    w.run (actions.map .interrupt) = some { w with states } := by
  induction actions generalizing w with
  | nil =>
    cases hrun
    rfl
  | cons a actions ih =>
    simp only [State.run, List.foldlM_cons, Option.bind_eq_bind, Option.bind_eq_some_iff] at hrun
    obtain ⟨states₁, ha, hrest⟩ := hrun
    have hstep : w.step (.interrupt a) = some { w with states := states₁ } := by
      rw [World.step, if_pos (by rw [hall a List.mem_cons_self]; rfl), ha, Option.map_some]
    rw [List.map_cons, World.run, List.foldlM_cons, hstep]
    exact ih (w := { w with states := states₁ }) hrest
      (fun b hb => hall b (List.mem_cons_of_mem _ hb))

-- a step of the thread in the innermost scope, and the steps after it
lemma leads_advance {pc pc' : Pc} (hw : w.Inv) (hs : (w.conns k).scopes = ⟨n, pc⟩ :: rest)
    {a : Action κ τ ρ} {cell : Revocable τ (Handles ρ)} (ha : allowed a)
    (hstep : w.step a =
      some (w.setConn k ((w.conns k).advance pc') (w.states.setCell (k, n) cell)))
    (hl : ∀ w₁ : World κ τ ρ, w₁.Inv → (w₁.conns k).scopes = ⟨n, pc'⟩ :: rest →
      w₁.states.cells (k, n) = cell → Leads w₁ allowed m (Left k n rest w₁)) :
    Leads w allowed (m + 1) (Left k n rest w) := by
  apply Leads.cons _ hstep ha
  apply (hl _ (inv_step hw hstep) _ (setCell_same k n cell)).imp
  · intro w' hleft
    refine ⟨hleft.scopes, ?_⟩
    intro j hj
    rw [hleft.cells j hj]
    exact setCell_own cell hj
  · rw [setConn_conns, if_pos rfl]
    exact Conn.advance_scopes hs pc'

variable (hthread : ∀ a : Action κ τ ρ, a.thread = some k → allowed a)
include hthread

lemma leads_cleared (hw : w.Inv) (hs : (w.conns k).scopes = ⟨n, .cleared⟩ :: rest) :
    Leads w allowed 1 (Left k n rest w) := by
  have ho : (w.states.cells (k, n)).owner = .cleared := (hw.conn k).head hs
  have hstep : w.step (.unlock k) = some (w.setConn k (w.conns k).leave
      (w.states.setCell (k, n) { w.states.cells (k, n) with owner := .gone, lock := none })) := by
    simp only [World.step, hs]
    exact owner_eq.mpr ⟨_, .drop ho, rfl⟩
  apply (leads_refl _).cons hstep (hthread _ rfl)
  refine ⟨?_, fun j hj => setCell_own _ hj⟩
  rw [setConn_conns, if_pos rfl]
  exact Conn.leave_scopes hs

lemma leads_locked (hw : w.Inv) (hs : (w.conns k).scopes = ⟨n, .locked⟩ :: rest) :
    Leads w allowed 2 (Left k n rest w) := by
  have ho : (w.states.cells (k, n)).owner = .clearing := (hw.conn k).head hs
  apply leads_advance hw hs (hthread (.clear k) rfl)
  · simp only [World.step, hs]
    exact owner_eq.mpr ⟨_, .clear ho, rfl⟩
  · exact fun w₁ hw₁ hs₁ _ => leads_cleared hthread hw₁ hs₁

lemma leads_free (hw : w.Inv) (hs : (w.conns k).scopes = ⟨n, .unregistered⟩ :: rest)
    (hl : (w.states.cells (k, n)).lock = none) : Leads w allowed 3 (Left k n rest w) := by
  have ho : (w.states.cells (k, n)).owner = .withdrawn := (hw.conn k).head hs
  apply leads_advance hw hs (hthread (.lock k) rfl)
  · simp only [World.step, hs]
    exact owner_eq.mpr ⟨_, .take ho hl, rfl⟩
  · exact fun w₁ hw₁ hs₁ _ => leads_locked hthread hw₁ hs₁

lemma leads_unregistered (hw : w.Inv) (hs : (w.conns k).scopes = ⟨n, .unregistered⟩ :: rest)
    (hlock : ∀ t, (w.states.cells (k, n)).lock = some (.user t) →
      ∀ a : Choice (κ × ℕ) τ (Handles ρ), a.user = some t → allowed (.interrupt a)) :
    Leads w allowed 6 (Left k n rest w) := by
  cases hl : (w.states.cells (k, n)).lock with
  | none => exact (leads_free hthread hw hs hl).mono (by omega)
  | some party =>
    cases party with
    | owner =>
      have ho := (hw.states.cell _).lock.mp hl
      have hnow : (w.states.cells (k, n)).owner = .withdrawn := (hw.conn k).head hs
      simp [hnow] at ho
    | user t =>
      obtain ⟨actions, states, hrun, hlen, hall, hcells⟩ := exists_unlock hw.states hl
      have hinterrupts := run_interrupts hrun hall
      have hcell : (states.cells (k, n)).lock = none := by rw [hcells, Function.update_self]
      have hfree := leads_free (w := { w with states }) hthread (inv_run hw hinterrupts) hs hcell
      have hleft : Leads { w with states } allowed 3 (Left k n rest w) := by
        apply hfree.imp
        intro w' hleft
        refine ⟨hleft.scopes, ?_⟩
        intro j hj
        rw [hleft.cells j hj, hcells]
        exact Function.update_of_ne (fun h => hj (Prod.mk.inj h).2) ..
      apply (hleft.append hinterrupts _).mono (by rw [List.length_map]; omega)
      intro a ha
      obtain ⟨b, hb, rfl⟩ := List.mem_map.mp ha
      exact hlock t hl b (hall b hb)

lemma leads_scope (hw : w.Inv) {s : Scope} (hs : (w.conns k).scopes = s :: rest)
    (hlock : ∀ t, (w.states.cells (k, s.helper)).lock = some (.user t) →
      ∀ a : Choice (κ × ℕ) τ (Handles ρ), a.user = some t → allowed (.interrupt a)) :
    Leads w allowed 7 (Left k s.helper rest w) := by
  obtain ⟨n, pc⟩ := s
  cases pc with
  | cleared => exact (leads_cleared hthread hw hs).mono (by omega)
  | locked => exact (leads_locked hthread hw hs).mono (by omega)
  | unregistered => exact (leads_unregistered hthread hw hs hlock).mono (by omega)
  | calling state =>
    cases state with
    | false =>
      have hstep : w.step (.unregister k) = some (w.setConn k (w.conns k).leave w.states) := by
        simp only [World.step, hs]
      apply ((leads_refl _).cons hstep (hthread _ rfl)).mono (by omega)
      refine ⟨?_, fun _ _ => rfl⟩
      rw [setConn_conns, if_pos rfl]
      exact Conn.leave_scopes hs
    | true =>
      have ho : (w.states.cells (k, n)).owner = .registered := (hw.conn k).head hs
      apply leads_advance hw hs (hthread (.unregister k) rfl)
      · simp only [World.step, hs]
        exact owner_eq.mpr ⟨_, .withdraw ho, rfl⟩
      · intro w₁ hw₁ hs₁ hcell
        apply leads_unregistered hthread hw₁ hs₁
        intro t ht
        rw [hcell] at ht
        exact hlock t ht

lemma leads_scopes {scopes : List Scope} (j : ℕ) (hw : w.Inv) (hs : (w.conns k).scopes = scopes)
    (hlock : ∀ s ∈ scopes.take j, ∀ t, (w.states.cells (k, s.helper)).lock = some (.user t) →
      ∀ a : Choice (κ × ℕ) τ (Handles ρ), a.user = some t → allowed (.interrupt a)) :
    Leads w allowed (7 * j) fun w' => (w'.conns k).scopes = scopes.drop j := by
  induction j generalizing w scopes with
  | zero => exact leads_refl hs
  | succ j ih =>
    cases scopes with
    | nil => exact (leads_refl hs).mono (Nat.zero_le _)
    | cons s rest =>
      have hnodup := (hw.conn k).nodup
      rw [hs, List.map_cons, List.nodup_cons] at hnodup
      have hscope := leads_scope hthread hw hs (hlock s List.mem_cons_self)
      apply (hscope.trans (m := 7 * j) _ hw).mono (by omega)
      intro w₁ hw₁ hleft
      apply ih hw₁ hleft.scopes
      intro s' hs' t ht
      have hne : s'.helper ≠ s.helper := by
        intro he
        exact hnodup.1 (he ▸ List.mem_map_of_mem (List.mem_of_mem_take hs'))
      rw [hleft.cells _ hne] at ht
      exact hlock s' (List.mem_cons_of_mem _ hs') t ht

end Scopes

-- a call of the client that has returned is not kept waiting: whatever the interrupts have done so
-- far, the connection leaves the innermost scopes, as many as it likes, with the steps of its own
-- thread and of those that have a mutex of these scopes
theorem scope_ends {actions : List (Action κ τ ρ)} (h : World.init.run actions = some w) (k : κ)
    (j : ℕ) :
    Leads w (fun a => a.thread = some k ∨ ∃ t c, a = .interrupt c ∧ c.user = some t ∧
        ∃ s ∈ (w.conns k).scopes.take j, (w.states.cells (k, s.helper)).lock = some (.user t))
      (7 * j) fun w' => (w'.conns k).scopes = (w.conns k).scopes.drop j := by
  apply leads_scopes
  · exact fun a => Or.inl
  · exact inv_run inv_init h
  · rfl
  · exact fun s hs t ht a ha => Or.inr ⟨t, a, rfl, ha, s, hs, ht⟩

theorem scope_ends_late : ∃ w, World.init.run lateInterrupt = some w ∧
    Leads w (fun a => a.thread = some 0 ∨ ∃ t c, a = .interrupt c ∧ c.user = some t ∧
        ∃ s ∈ (w.conns 0).scopes.take 1, (w.states.cells (0, s.helper)).lock = some (.user t))
      7 fun w' => (w'.conns 0).scopes = (w.conns 0).scopes.drop 1 := by
  obtain ⟨w, hrun, -⟩ := run_lateInterrupt
  exact ⟨w, hrun, scope_ends hrun 0 1⟩

end OracleDriver.CancelHelper
