import Mathlib.Data.List.Basic

/-! Trees whose nodes are numbered in preorder: a node before the nodes below it, and those of a
child before those of the next one. -/

namespace PreorderTable

inductive Tree where
  | node (children : List Tree)

mutual

def Tree.size : Tree → ℕ
  | .node cs => 1 + sizes cs

def sizes : List Tree → ℕ
  | [] => 0
  | c :: cs => c.size + sizes cs

end

-- the number of a child when its parent has the number 0
def offset (cs : List Tree) (i : ℕ) : ℕ := 1 + sizes (cs.take i)

-- the tree at the end of a path, with the number of its node
def Tree.subtree : Tree → List ℕ → Option (ℕ × Tree)
  | t, [] => some (0, t)
  | .node cs, i :: p => cs[i]?.bind fun c => (c.subtree p).map fun s => (offset cs i + s.1, s.2)

variable {cs : List Tree} {t c : Tree} {i j : ℕ} {p q : List ℕ} {a b : ℕ × Tree}

lemma Tree.size_pos (t : Tree) : 0 < t.size := by
  cases t with
  | node cs =>
    rw [Tree.size]
    omega

lemma sizes_append (cs ds : List Tree) : sizes (cs ++ ds) = sizes cs + sizes ds := by
  induction cs with
  | nil => rw [List.nil_append, sizes, Nat.zero_add]
  | cons c cs ih => rw [List.cons_append, sizes, sizes, ih, Nat.add_assoc]

lemma offset_pos (cs : List Tree) (i : ℕ) : 0 < offset cs i := by
  rw [offset]
  omega

lemma offset_succ (hc : cs[i]? = some c) : offset cs (i + 1) = offset cs i + c.size := by
  rw [offset, offset, List.take_add_one, hc, Option.toList_some, sizes_append, sizes, sizes,
    Nat.add_zero, Nat.add_assoc]

lemma offset_mono (cs : List Tree) (hij : i ≤ j) : offset cs i ≤ offset cs j := by
  have htake : cs.take j = cs.take i ++ (cs.drop i).take (j - i) := by
    rw [← List.take_add, Nat.add_sub_cancel' hij]
  rw [offset, offset, htake, sizes_append]
  omega

-- the numbers of a subtree come before those of the children to its right
lemma offset_add_size_le (hc : cs[i]? = some c) (hij : i < j) :
    offset cs i + c.size ≤ offset cs j := by
  rw [← offset_succ hc]
  exact offset_mono cs hij

lemma offset_add_size_le_size (hc : cs[i]? = some c) : offset cs i + c.size ≤ (Tree.node cs).size := by
  have hlen := offset_add_size_le hc (List.getElem?_eq_some_iff.mp hc).choose
  rwa [offset, offset, List.take_length] at *

lemma subtree_cons (h : (Tree.node cs).subtree (i :: p) = some a) :
    ∃ c s, cs[i]? = some c ∧ c.subtree p = some s ∧ a = (offset cs i + s.1, s.2) := by
  rw [Tree.subtree, Option.bind_eq_some_iff] at h
  obtain ⟨c, hc, h⟩ := h
  obtain ⟨s, hs, rfl⟩ := Option.map_eq_some_iff.mp h
  exact ⟨c, s, hc, hs, rfl⟩

lemma subtree_nil (h : t.subtree [] = some a) : a = (0, t) := by
  cases t
  exact (Option.some.inj h).symm

-- the numbers of a subtree are among those of the tree
lemma subtree_le (h : t.subtree p = some a) : a.1 + a.2.size ≤ t.size := by
  induction p generalizing t a with
  | nil =>
    obtain rfl := subtree_nil h
    exact Nat.le_of_eq (Nat.zero_add _)
  | cons i p ih =>
    obtain ⟨cs⟩ := t
    obtain ⟨c, s, hc, hs, rfl⟩ := subtree_cons h
    have hchild := offset_add_size_le_size hc
    have hrest := ih hs
    dsimp only
    omega

-- and come after the number of the tree
lemma subtree_pos (h : t.subtree (i :: p) = some a) : 0 < a.1 := by
  obtain ⟨cs⟩ := t
  obtain ⟨c, s, hc, hs, rfl⟩ := subtree_cons h
  exact Nat.add_pos_left (offset_pos cs i) _

lemma subtree_inside (ha : t.subtree p = some a) (hb : t.subtree q = some b) (h : p <+: q) :
    a.1 ≤ b.1 ∧ b.1 + b.2.size ≤ a.1 + a.2.size := by
  induction p generalizing t q a b with
  | nil =>
    obtain rfl := subtree_nil ha
    exact ⟨Nat.zero_le _, Nat.le_trans (subtree_le hb) (Nat.le_add_left _ _)⟩
  | cons i p ih =>
    obtain ⟨r, rfl⟩ := h
    obtain ⟨cs⟩ := t
    obtain ⟨c, s, hc, hs, rfl⟩ := subtree_cons ha
    obtain ⟨d, s', hd, hs', rfl⟩ := subtree_cons hb
    obtain rfl := Option.some.inj (hc.symm.trans hd)
    have hrest := ih hs hs' (List.prefix_append p r)
    dsimp only
    omega

-- two subtrees of which neither is inside of the other have no number in common
lemma subtree_disjoint (ha : t.subtree p = some a) (hb : t.subtree q = some b) (hp : ¬ p <+: q)
    (hq : ¬ q <+: p) : a.1 + a.2.size ≤ b.1 ∨ b.1 + b.2.size ≤ a.1 := by
  induction p generalizing t q a b with
  | nil => exact absurd List.nil_prefix hp
  | cons i p ih =>
    cases q with
    | nil => exact absurd List.nil_prefix hq
    | cons j q =>
      obtain ⟨cs⟩ := t
      obtain ⟨c, s, hc, hs, rfl⟩ := subtree_cons ha
      obtain ⟨d, s', hd, hs', rfl⟩ := subtree_cons hb
      have hleft := subtree_le hs
      have hright := subtree_le hs'
      dsimp only
      rcases Nat.lt_trichotomy i j with hij | rfl | hij
      · have hchild := offset_add_size_le hc hij
        omega
      · obtain rfl := Option.some.inj (hc.symm.trans hd)
        rw [List.cons_prefix_cons] at hp hq
        have hrest := ih hs hs' (fun h => hp ⟨rfl, h⟩) fun h => hq ⟨rfl, h⟩
        omega
      · have hchild := offset_add_size_le hd hij
        omega

lemma subtree_injective (ha : t.subtree p = some a) (hb : t.subtree q = some b) (h : a.1 = b.1) :
    p = q := by
  induction p generalizing t q a b with
  | nil =>
    obtain rfl := subtree_nil ha
    cases q with
    | nil => rfl
    | cons j q => exact absurd h (Nat.ne_of_lt (subtree_pos hb))
  | cons i p ih =>
    cases q with
    | nil =>
      obtain rfl := subtree_nil hb
      exact absurd h (Nat.ne_of_gt (subtree_pos ha))
    | cons j q =>
      obtain ⟨cs⟩ := t
      obtain ⟨c, s, hc, hs, rfl⟩ := subtree_cons ha
      obtain ⟨d, s', hd, hs', rfl⟩ := subtree_cons hb
      have hleft := subtree_le hs
      have hright := subtree_le hs'
      have hpos := s.2.size_pos
      have hpos' := s'.2.size_pos
      dsimp only at h
      rcases Nat.lt_trichotomy i j with hij | rfl | hij
      · have hchild := offset_add_size_le hc hij
        omega
      · obtain rfl := Option.some.inj (hc.symm.trans hd)
        rw [ih hs hs' (Nat.add_left_cancel h)]
      · have hchild := offset_add_size_le hd hij
        omega

end PreorderTable
