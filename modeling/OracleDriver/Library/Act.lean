import Mathlib.Logic.Relation

/-! Programs over a state, each with the proof that its runs are sequences of steps of a relation. -/

namespace OracleDriver

structure Act {σ : Type} (R : σ → σ → Prop) (α : Type) where
  run : σ → α × σ
  steps : ∀ s, Relation.ReflTransGen R s (run s).2

namespace Act

open Relation

variable {σ α β ι : Type} {R R' : σ → σ → Prop}

instance : Monad (Act R) where
  pure a := ⟨fun s => (a, s), fun _ => .refl⟩
  bind m f := ⟨fun s => (f (m.run s).1).run (m.run s).2, fun s => (m.steps s).trans ((f _).steps _)⟩

@[simp] lemma run_pure (a : α) (s : σ) : (pure a : Act R α).run s = (a, s) := rfl

@[simp] lemma run_bind (m : Act R α) (f : α → Act R β) (s : σ) :
    (m >>= f).run s = (f (m.run s).1).run (m.run s).2 := rfl

lemma bind_bind {γ : Type} (m : Act R α) (f : α → Act R β) (g : β → Act R γ) :
    m >>= f >>= g = m >>= fun a => f a >>= g := rfl

lemma pure_then (a : α) (f : α → Act R β) : pure a >>= f = f a := rfl

lemma then_pure (m : Act R α) : m >>= pure = m := rfl

lemma then_unit (m : Act R Unit) : (m >>= fun _ => pure ()) = m := rfl

lemma ite_bind (c : Prop) [Decidable c] (m n : Act R α) (f : α → Act R β) :
    (if c then m else n) >>= f = if c then m >>= f else n >>= f := by
  split <;> rfl

def get : Act R σ := ⟨fun s => (s, s), fun _ => .refl⟩

@[simp] lemma run_get (s : σ) : (get : Act R σ).run s = (s, s) := rfl

def step (f : σ → α × σ) (h : ∀ s, R s (f s).2) : Act R α := ⟨f, fun s => .single (h s)⟩

@[simp] lemma run_step (f : σ → α × σ) (h : ∀ s, R s (f s).2) (s : σ) : (step f h).run s = f s := rfl

def lift (h : ∀ s t, R s t → R' s t) (m : Act R α) : Act R' α :=
  ⟨m.run, fun s => ReflTransGen.mono h _ _ (m.steps s)⟩

@[simp] lemma run_lift (h : ∀ s t, R s t → R' s t) (m : Act R α) (s : σ) :
    (lift h m).run s = m.run s := rfl

@[simp] lemma run_ite (c : Prop) [Decidable c] (m n : Act R α) (s : σ) :
    (if c then m else n).run s = if c then m.run s else n.run s := by
  split <;> rfl

lemma run_bind_true {m : Act R Bool} {k k' : Act R α} {s : σ} (h : (m.run s).1 = true) :
    (m >>= fun b => if b = true then k else k').run s = k.run (m.run s).2 := by
  rw [run_bind, if_pos h]

lemma run_bind_false {m : Act R Bool} {k k' : Act R α} {s : σ} (h : (m.run s).1 = false) :
    (m >>= fun b => if b = true then k else k').run s = k'.run (m.run s).2 := by
  rw [run_bind, if_neg (Bool.eq_false_iff.1 h)]

-- `true` stands for an error, at which the loop ends
def tryEach (f : ι → Act R Bool) : List ι → Act R Bool
  | [] => pure false
  | x :: xs => do
    if ← f x then
      return true
    tryEach f xs

def each (f : ι → Act R Unit) : List ι → Act R Unit
  | [] => pure ()
  | x :: xs => do
    f x
    each f xs

@[simp] lemma each_nil (f : ι → Act R Unit) : each f [] = pure () := rfl

@[simp] lemma run_each_cons (f : ι → Act R Unit) (x : ι) (xs : List ι) (s : σ) :
    (each f (x :: xs)).run s = (each f xs).run ((f x).run s).2 := rfl

lemma invariant {P : σ → Prop} (h : ∀ s t, R s t → P s → P t) (m : Act R α) {s : σ} (hs : P s) :
    P (m.run s).2 := by
  have hm : ∀ t, ReflTransGen R s t → P t := fun t ht => by
    induction ht with
    | refl => exact hs
    | tail _ hr ih => exact h _ _ hr ih
  exact hm _ (m.steps s)

lemma preorder {T : σ → σ → Prop} (hrefl : ∀ s, T s s) (htrans : ∀ s t u, T s t → T t u → T s u)
    (h : ∀ s t, R s t → T s t) (m : Act R α) (s : σ) : T s (m.run s).2 :=
  invariant (P := T s) (fun t u hr ht => htrans s t u ht (h t u hr)) m (hrefl s)

def Spec (P : σ → Prop) (m : Act R α) (Q : α → σ → Prop) : Prop := ∀ s, P s → Q (m.run s).1 (m.run s).2

section Rules

variable {P P' : σ → Prop} {Q Q' : α → σ → Prop}

lemma spec_true (m : Act R α) : Spec P m fun _ _ => True := fun _ _ => trivial

lemma spec_pure {a : α} (h : ∀ s, P s → Q a s) : Spec P (pure a : Act R α) Q := h

lemma spec_bind {m : Act R α} {f : α → Act R β} {S : β → σ → Prop} (hm : Spec P m Q)
    (hf : ∀ a, Spec (Q a) (f a) S) : Spec P (m >>= f) S := fun s hs => hf _ _ (hm s hs)

lemma spec_bind_eq {P₁ : σ → Prop} {a : α} {m : Act R α} {f : α → Act R β} {S : β → σ → Prop}
    (hm : Spec P m fun r s => r = a ∧ P₁ s) (hf : Spec P₁ (f a) S) : Spec P (m >>= f) S :=
  spec_bind hm fun _ _ hs => hs.1 ▸ hf _ hs.2

lemma spec_weaken {m : Act R α} (h : Spec P' m Q') (hp : ∀ s, P s → P' s) (hq : ∀ a s, Q' a s → Q a s) :
    Spec P m Q := fun s hs => hq _ _ (h s (hp s hs))

lemma spec_ite {c : Prop} [Decidable c] {m n : Act R α} (hm : c → Spec P m Q) (hn : ¬c → Spec P n Q) :
    Spec P (if c then m else n) Q := by
  split
  · exact hm ‹_›
  · exact hn ‹_›

lemma spec_then {m : Act R Bool} {e k : Act R α} (hm : Spec P m fun _ => P) (he : Spec P e Q)
    (hk : Spec P k Q) : Spec P (m >>= fun b => if b = true then e else k) Q :=
  spec_bind hm fun _ => spec_ite (fun _ => he) fun _ => hk

lemma spec_get {f : σ → Act R β} {S : β → σ → Prop} (h : ∀ s, Spec (fun t => t = s ∧ P s) (f s) S) :
    Spec P (get >>= f) S := fun s hs => h s s ⟨rfl, hs⟩

lemma spec_invariant (h : ∀ s t, R s t → P s → P t) (m : Act R α) : Spec P m (fun _ => P) :=
  fun _ hs => invariant h m hs

lemma spec_lift {h : ∀ s t, R s t → R' s t} {m : Act R α} (hm : Spec P m Q) : Spec P (lift h m) Q := hm

lemma spec_each {f : ι → Act R Unit} {l : List ι} (h : ∀ x ∈ l, Spec P (f x) (fun _ => P)) :
    Spec P (each f l) (fun _ => P) := by
  induction l with
  | nil => exact spec_pure fun _ hs => hs
  | cons x xs ih =>
    exact spec_bind (h x List.mem_cons_self) fun _ => ih fun y hy => h y (List.mem_cons_of_mem _ hy)

-- one element of the list changes what holds, and the others keep it
lemma spec_each_mem {f : ι → Act R Unit} {l : List ι} {x : ι} (hP : ∀ y, Spec P (f y) (fun _ => P))
    (hx : Spec P (f x) (fun _ => P')) (hP' : ∀ y, Spec P' (f y) (fun _ => P')) (hm : x ∈ l) :
    Spec P (each f l) (fun _ => P') := by
  induction l with
  | nil => cases hm
  | cons y ys ih =>
    rcases List.mem_cons.1 hm with rfl | hm
    · exact spec_bind hx fun _ => spec_each fun z _ => hP' z
    · exact spec_bind (hP y) fun _ => ih hm

lemma spec_tryEach {f : ι → Act R Bool} {l : List ι} (h : ∀ x ∈ l, Spec P (f x) (fun _ => P)) :
    Spec P (tryEach f l) (fun _ => P) := by
  induction l with
  | nil => exact spec_pure fun _ hs => hs
  | cons x xs ih =>
    refine spec_bind (h x List.mem_cons_self) fun b => ?_
    exact spec_ite (fun _ => spec_pure fun _ hs => hs) fun _ => ih fun y hy =>
      h y (List.mem_cons_of_mem _ hy)

-- `true` is an error, after which `E` holds, and without one `P` still holds
def Keeps (E P : σ → Prop) (m : Act R Bool) : Prop :=
  Spec P m fun b s => (b = true → E s) ∧ (b = false → P s)

variable {E : σ → Prop}

lemma keeps_pure : Keeps E P (pure false : Act R Bool) := fun _ hs => ⟨nofun, fun _ => hs⟩

lemma keeps_fail {m : Act R α} (h : Spec P m fun _ => E) :
    Keeps E P (m >>= fun _ => (pure true : Act R Bool)) :=
  fun s hs => ⟨fun _ => h s hs, nofun⟩

lemma keeps_then {m k : Act R Bool} (hm : Keeps E P m) (hk : Keeps E P k) :
    Keeps E P (m >>= fun b => if b = true then pure true else k) := by
  refine spec_bind hm fun b => spec_ite (fun hb => spec_pure fun s hs => ⟨fun _ => hs.1 hb, nofun⟩)
    fun hb => ?_
  exact spec_weaken hk (fun s hs => hs.2 (eq_false_of_ne_true hb)) fun _ _ h => h

lemma keeps_seq {m : Act R α} {k : α → Act R Bool} (hm : Spec P m fun _ => P)
    (hk : ∀ a, Keeps E P (k a)) :
    Keeps E P (m >>= k) := spec_bind hm hk

lemma keeps_ite {c : Prop} [Decidable c] {m n : Act R Bool} (hm : c → Keeps E P m)
    (hn : ¬c → Keeps E P n) :
    Keeps E P (if c then m else n) := spec_ite hm hn

lemma keeps_tryEach {f : ι → Act R Bool} {l : List ι} (h : ∀ x ∈ l, Keeps E P (f x)) :
    Keeps E P (tryEach f l) := by
  induction l with
  | nil => exact keeps_pure
  | cons x xs ih =>
    apply keeps_then
    · exact h x List.mem_cons_self
    · exact ih fun y hy => h y (List.mem_cons_of_mem _ hy)

-- the same where what holds changes
def Passes (E P P' : σ → Prop) (m : Act R Bool) : Prop :=
  Spec P m fun b s => (b = true → E s) ∧ (b = false → P' s)

variable {P₁ P₂ : σ → Prop}

lemma passes_pure (h : ∀ s, P s → P₁ s) : Passes E P P₁ (pure false : Act R Bool) :=
  fun s hs => ⟨nofun, fun _ => h s hs⟩

lemma passes_true (h : ∀ s, P s → E s) : Passes E P P₁ (pure true : Act R Bool) :=
  fun s hs => ⟨fun _ => h s hs, nofun⟩

lemma passes_then {m k : Act R Bool} (hm : Passes E P P₁ m) (hk : Passes E P₁ P₂ k) :
    Passes E P P₂ (m >>= fun b => if b = true then pure true else k) := by
  refine spec_bind hm fun b => spec_ite (fun hb => passes_true fun s hs => hs.1 hb) fun hb => ?_
  exact spec_weaken hk (fun s hs => hs.2 (eq_false_of_ne_true hb)) fun _ _ h => h

lemma passes_weaken {m : Act R Bool} (h : Passes E P P₁ m) (h' : ∀ s, P₁ s → P₂ s) : Passes E P P₂ m :=
  spec_weaken h (fun _ hs => hs) fun _ s hs => ⟨hs.1, fun hb => h' s (hs.2 hb)⟩

lemma passes_tryEach {f : ι → Act R Bool} {l : List ι} {I : Nat → σ → Prop}
    (h : ∀ i x, l[i]? = some x → Passes E (I i) (I (i + 1)) (f x)) :
    Passes E (I 0) (I l.length) (tryEach f l) := by
  induction l generalizing I with
  | nil => exact passes_pure fun _ hs => hs
  | cons x xs ih =>
    apply passes_then
    · exact h 0 x rfl
    · exact ih (I := fun i => I (i + 1)) fun i y hy => h (i + 1) y hy

end Rules

end Act

end OracleDriver
