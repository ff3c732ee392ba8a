import OracleDriver.Library.Act

/-! Programs over a state with a shadow, which follows what they do and has no part in it. -/

namespace OracleDriver

namespace Shadow

open Relation

variable {σ γ α β : Type} {R : σ → σ → Prop}

-- the state takes steps of `R`, and the shadow any
def Over (R : σ → σ → Prop) (γ : Type) (s t : σ × γ) : Prop := ReflTransGen R s.1 t.1

def base (m : Act R α) : Act (Over R γ) α :=
  ⟨fun s => ((m.run s.1).1, (m.run s.1).2, s.2), fun s => .single (m.steps s.1)⟩

def note (f : γ → γ) : Act (Over R γ) Unit := ⟨fun s => ((), s.1, f s.2), fun _ => .single .refl⟩

@[simp] lemma run_base (m : Act R α) (s : σ × γ) :
    (base m).run s = ((m.run s.1).1, (m.run s.1).2, s.2) := rfl

@[simp] lemma run_note (f : γ → γ) (s : σ × γ) :
    (note f : Act (Over R γ) Unit).run s = ((), s.1, f s.2) := rfl

-- without the shadow `m'` is `m`
def Erases (m' : Act (Over R γ) α) (m : Act R α) : Prop :=
  ∀ s, (m'.run s).1 = (m.run s.1).1 ∧ (m'.run s).2.1 = (m.run s.1).2

lemma erases_base (m : Act R α) : Erases (base m : Act (Over R γ) α) m := fun _ => ⟨rfl, rfl⟩

lemma erases_pure (a : α) : Erases (pure a : Act (Over R γ) α) (pure a) := fun _ => ⟨rfl, rfl⟩

lemma erases_bind {m' : Act (Over R γ) α} {m : Act R α} {f' : α → Act (Over R γ) β}
    {f : α → Act R β} (hm : Erases m' m)
    (hf : ∀ a, Erases (f' a) (f a)) : Erases (m' >>= f') (m >>= f) := by
  intro s
  obtain ⟨h1, h2⟩ := hm s
  have h := hf (m'.run s).1 (m'.run s).2
  rw [Act.run_bind, Act.run_bind, ← h1, ← h2]
  exact h

lemma erases_ite {c : Prop} [Decidable c] {m' n' : Act (Over R γ) α} {m n : Act R α}
    (hm : Erases m' m) (hn : Erases n' n) :
    Erases (if c then m' else n') (if c then m else n) := by
  split
  · exact hm
  · exact hn

lemma erases_note {f : γ → γ} {m' : Act (Over R γ) α} {m : Act R α} (h : Erases m' m) :
    Erases (note f >>= fun _ => m') m := fun s => h (s.1, f s.2)

lemma spec_shadow {C : γ → Prop} (m : Act R α) :
    Act.Spec (fun s : σ × γ => C s.2) (base m) fun _ s => C s.2 := fun _ hs => hs

lemma spec_note {f : γ → γ} {P Q : σ × γ → Prop} (h : ∀ s c, P (s, c) → Q (s, f c)) :
    Act.Spec P (note f : Act (Over R γ) Unit) fun _ => Q := fun s hs => h s.1 s.2 hs

end Shadow

end OracleDriver
