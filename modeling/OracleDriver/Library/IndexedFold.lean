import Mathlib.Data.List.Basic
import Mathlib.Data.List.Forall2
import Mathlib.Data.Option.Basic

/-! Loops over the elements of a list with their indexes that can fail. -/

namespace IndexedFold

variable {α σ ε : Type*}

lemma map_eq_ok {f : α → σ} {x : Except ε α} {b : σ} : x.map f = .ok b ↔ ∃ a, x = .ok a ∧ f a = b := by
  cases x with
  | error e => simp [Except.map]
  | ok a => simp [Except.map]

-- from the element with index `k` on
lemma invariant_from {P : ℕ → σ → Prop} {f : σ → α × ℕ → Except ε σ} (l : List α) (k : ℕ)
    (hstep : ∀ j a s s', l[j]? = some a → P (k + j) s → f s (a, k + j) = .ok s' → P (k + j + 1) s')
    {s s' : σ} (h0 : P k s) (hrun : (l.zipIdx k).foldlM f s = .ok s') : P (k + l.length) s' := by
  induction l generalizing k s with
  | nil =>
    obtain rfl : s = s' := Except.ok.inj hrun
    exact h0
  | cons a l ih =>
    rw [List.zipIdx_cons, List.foldlM_cons] at hrun
    cases hfirst : f s (a, k) with
    | error e =>
      rw [hfirst] at hrun
      cases hrun
    | ok t =>
      rw [hfirst] at hrun
      have hlen : k + (a :: l).length = k + 1 + l.length := by
        rw [List.length_cons]
        omega
      rw [hlen]
      apply ih (k + 1) _ (hstep 0 a s t rfl h0 hfirst) hrun
      intro j b u u' hb hu hf
      have hj : k + 1 + j = k + (j + 1) := by omega
      rw [hj] at hu hf ⊢
      exact hstep (j + 1) b u u' hb hu hf

lemma invariant {P : ℕ → σ → Prop} {f : σ → α × ℕ → Except ε σ} {l : List α}
    (hstep : ∀ j a s s', l[j]? = some a → P j s → f s (a, j) = .ok s' → P (j + 1) s')
    {s s' : σ} (h0 : P 0 s) (hrun : l.zipIdx.foldlM f s = .ok s') : P l.length s' := by
  have h := invariant_from (P := P) l 0 (fun j a u u' ha hu hf => by
    rw [Nat.zero_add] at hu hf ⊢
    exact hstep j a u u' ha hu hf) h0 hrun
  rwa [Nat.zero_add] at h

lemma mapM_getElem? {f : α → Except ε σ} {l : List α} {r : List σ} (h : l.mapM f = .ok r) {i : ℕ} {a : α}
    (ha : l[i]? = some a) : ∃ b, r[i]? = some b ∧ f a = .ok b := by
  induction l generalizing i r with
  | nil => cases ha
  | cons x l ih =>
    rw [List.mapM_cons] at h
    cases hx : f x with
    | error e =>
      rw [hx] at h
      cases h
    | ok y =>
      cases hl : l.mapM f with
      | error e =>
        rw [hx, hl] at h
        cases h
      | ok ys =>
        rw [hx, hl] at h
        obtain rfl : y :: ys = r := Except.ok.inj h
        cases i with
        | zero =>
          obtain rfl : x = a := Option.some.inj ha
          exact ⟨y, rfl, hx⟩
        | succ i => exact ih hl ha

lemma mapM_cons_eq_ok {f : α → Except ε σ} {a : α} {l : List α} {r : List σ} :
    (a :: l).mapM f = .ok r ↔ ∃ b s, f a = .ok b ∧ l.mapM f = .ok s ∧ r = b :: s := by
  rw [List.mapM_cons]
  cases f a with
  | error e =>
    constructor
    · nofun
    · rintro ⟨b, s, hb, -⟩
      cases hb
  | ok b =>
    cases l.mapM f with
    | error e =>
      constructor
      · nofun
      · rintro ⟨b, s, -, hs, -⟩
        cases hs
    | ok s =>
      constructor
      · intro h
        exact ⟨b, s, rfl, rfl, (Except.ok.inj h).symm⟩
      · rintro ⟨b', s', hb, hs, rfl⟩
        rw [Except.ok.inj hb, Except.ok.inj hs]
        rfl

lemma mapM_mem {f : α → Except ε σ} {l : List α} {r : List σ} (h : l.mapM f = .ok r) {a : α}
    (ha : a ∈ l) : ∃ b, f a = .ok b := by
  obtain ⟨i, hi⟩ := List.mem_iff_getElem?.mp ha
  obtain ⟨b, -, hb⟩ := mapM_getElem? h hi
  exact ⟨b, hb⟩

lemma forall₂_getElem? {β : Type*} {R : α → β → Prop} {l : List α} {r : List β}
    (h : List.Forall₂ R l r) {i : ℕ} {a : α} (ha : l[i]? = some a) : ∃ b, r[i]? = some b ∧ R a b := by
  obtain ⟨hi, rfl⟩ := List.getElem?_eq_some_iff.mp ha
  have hr : i < r.length := h.length_eq ▸ hi
  exact ⟨r[i], List.getElem?_eq_getElem hr, h.get hi hr⟩

-- two loops with the same result agree on every element
lemma mapM_eq_iff {f g : α → Except ε σ} {l : List α} {r : List σ} (hf : l.mapM f = .ok r) :
    l.mapM g = .ok r ↔ ∀ a ∈ l, g a = f a := by
  induction l generalizing r with
  | nil => exact ⟨fun _ => List.forall_mem_nil _, fun _ => hf⟩
  | cons a l ih =>
    obtain ⟨b, s, hb, hs, rfl⟩ := mapM_cons_eq_ok.mp hf
    rw [mapM_cons_eq_ok, List.forall_mem_cons, ← ih hs, hb]
    constructor
    · rintro ⟨b', s', hb', hs', h⟩
      obtain ⟨rfl, rfl⟩ := List.cons.inj h
      exact ⟨hb', hs'⟩
    · rintro ⟨hb', hs'⟩
      exact ⟨b, s, hb', hs', rfl⟩

lemma mapM_of_getElem? {f : α → Except ε σ} {l : List α} {r : List σ} (hlen : r.length = l.length)
    (h : ∀ (i : ℕ) a b, l[i]? = some a → r[i]? = some b → f a = .ok b) : l.mapM f = .ok r := by
  induction l generalizing r with
  | nil =>
    rw [List.length_nil, List.length_eq_zero_iff] at hlen
    rw [hlen, List.mapM_nil]
    rfl
  | cons a l ih =>
    cases r with
    | nil => cases hlen
    | cons b r =>
      apply mapM_cons_eq_ok.mpr
      refine ⟨b, r, h 0 a b rfl rfl, ih (Nat.succ.inj hlen) ?_, rfl⟩
      intro i a' b' ha hb
      exact h (i + 1) a' b' ha hb

-- a loop whose turns all succeed and keep what they need
lemma exists_invariant {P : ℕ → σ → Prop} {f : σ → α → Except ε σ} {l : List α}
    (hstep : ∀ (j : ℕ) a s, l[j]? = some a → P j s → ∃ s', f s a = .ok s' ∧ P (j + 1) s')
    {s : σ} (h0 : P 0 s) : ∃ s', l.foldlM f s = .ok s' ∧ P l.length s' := by
  induction l generalizing s P with
  | nil => exact ⟨s, rfl, h0⟩
  | cons a l ih =>
    obtain ⟨t, ht, hP⟩ := hstep 0 a s rfl h0
    obtain ⟨s', hs', hend⟩ := ih (P := fun j => P (j + 1)) (s := t)
      (fun j b u hb hu => hstep (j + 1) b u hb hu) hP
    refine ⟨s', ?_, hend⟩
    rw [List.foldlM_cons, ht]
    exact hs'

-- where a turn can go on or not whatever came before, the loop can if every turn can
lemma total_iff {f : σ → α → Except ε σ} {p : α → Prop} (h : ∀ s x, (∃ t, f s x = .ok t) ↔ p x)
    (l : List α) (s : σ) :
    (∃ t, l.foldlM f s = .ok t) ↔ ∀ x ∈ l, p x := by
  induction l generalizing s with
  | nil => exact ⟨fun _ => List.forall_mem_nil _, fun _ => ⟨s, rfl⟩⟩
  | cons x l ih =>
    rw [List.foldlM_cons, List.forall_mem_cons, ← h s x]
    cases f s x with
    | error e =>
      constructor
      · rintro ⟨t, ht⟩
        cases ht
      · rintro ⟨⟨t, ht⟩, -⟩
        cases ht
    | ok u => exact (ih u).trans ⟨fun hl => ⟨⟨u, rfl⟩, hl⟩, fun hl => hl.2⟩

end IndexedFold
