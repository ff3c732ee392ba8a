import Mathlib.Data.List.SplitBy
import Mathlib.Data.List.Basic

/-! Buffers of code units that an encoding splits into characters, and taking out a character. -/

/-- How an encoding splits a buffer: no character is empty, and a unit with `lone` is a character of
its own. -/
structure CharSplit (α : Type) (lone : α → Prop) where
  characters : List α → List (List α)
  flatten_characters : ∀ t, (characters t).flatten = t
  nil_notMem : ∀ t, [] ∉ characters t
  characters_lone : ∀ s c t, lone c → characters (s ++ c :: t) = characters s ++ [c] :: characters t

namespace CharSplit

variable {α : Type} {lone : α → Prop}

-- each unit is a character
def single (α : Type) (lone : α → Prop) : CharSplit α lone where
  characters t := t.map fun c => [c]
  flatten_characters t := by
    induction t with
    | nil => rfl
    | cons c t ih => rw [List.map_cons, List.flatten_cons, ih, List.singleton_append]
  nil_notMem t := by simp
  characters_lone s c t _ := by rw [List.map_append, List.map_cons]

-- a character goes on as long as `joined` holds of its last unit and the next
def ofJoined (joined : α → α → Bool)
    (h : ∀ a c, lone c → joined a c = false ∧ joined c a = false) : CharSplit α lone where
  characters t := t.splitBy joined
  flatten_characters t := List.flatten_splitBy joined t
  nil_notMem t := List.nil_notMem_splitBy joined t
  characters_lone s c t hc := by
    rw [List.splitBy_append_cons t fun a _ => (h a c hc).1]
    congr 1
    have hone := List.splitBy_append (r := joined) (l := [c]) (m := t) (by
      intro x hx b _
      obtain rfl : c = x := by simpa using hx
      exact (h b c hc).2)
    rw [List.singleton_append] at hone
    rw [hone]
    rfl

variable (E : CharSplit α lone) {s t u : List α} {c : α}

-- without the character number `i`
def erase (t : List α) (i : ℕ) : List α := ((E.characters t).eraseIdx i).flatten

-- `l` has an entry for each unit of `t`, and those of the character number `i` are left out
def eraseAlong {β : Type} (t : List α) (l : List β) (i : ℕ) : List β :=
  l.take ((E.characters t).take i).flatten.length ++
    l.drop ((E.characters t).take (i + 1)).flatten.length

-- units that are not the first of a character
def extra (t : List α) : ℕ := t.length - (E.characters t).length

lemma characters_nil : E.characters [] = [] := by
  rcases hc : E.characters [] with _ | ⟨u, l⟩
  · rfl
  · have hflat := E.flatten_characters []
    have hne := E.nil_notMem []
    rw [hc] at hflat hne
    rw [List.flatten_cons, List.append_eq_nil_iff] at hflat
    rw [hflat.1] at hne
    exact absurd List.mem_cons_self hne

lemma characters_cons (hc : lone c) (t : List α) : E.characters (c :: t) = [c] :: E.characters t := by
  have h := E.characters_lone [] c t hc
  rwa [E.characters_nil, List.nil_append, List.nil_append] at h

lemma length_le_flatten {l : List (List α)} (h : [] ∉ l) : l.length ≤ l.flatten.length := by
  induction l with
  | nil => exact le_rfl
  | cons u l ih =>
    rw [List.mem_cons, not_or] at h
    have hpos := List.length_pos_iff.mpr (Ne.symm h.1)
    have hrest := ih h.2
    rw [List.length_cons, List.flatten_cons, List.length_append]
    omega

lemma length_characters_le (t : List α) : (E.characters t).length ≤ t.length := by
  have h := length_le_flatten (E.nil_notMem t)
  rwa [E.flatten_characters] at h

lemma length_eq (t : List α) : t.length = (E.characters t).length + E.extra t := by
  have hle := E.length_characters_le t
  rw [extra]
  omega

lemma extra_nil : E.extra [] = 0 := Nat.zero_sub _

lemma extra_lone (hc : lone c) : E.extra (s ++ c :: t) = E.extra s + E.extra t := by
  have hs := E.length_eq s
  have ht := E.length_eq t
  have hst := E.length_eq (s ++ c :: t)
  rw [E.characters_lone s c t hc, List.length_append, List.length_append, List.length_cons,
    List.length_cons] at hst
  omega

lemma extra_append_lone (hu : ∀ c ∈ u, lone c) (hne : u ≠ []) :
    E.extra (s ++ u ++ t) = E.extra s + E.extra t := by
  induction u generalizing s with
  | nil => exact absurd rfl hne
  | cons c u ih =>
    have hc := hu c List.mem_cons_self
    rcases hnil : u with _ | ⟨d, v⟩
    · rw [List.append_assoc, List.singleton_append, E.extra_lone hc]
    · have hrest := ih (s := s ++ [c]) (fun d hd => hu d (List.mem_cons_of_mem c hd)) (by simp [hnil])
      have hone := E.extra_lone (s := s) (t := []) hc
      rw [E.extra_nil, Nat.add_zero] at hone
      rw [hnil, List.append_assoc s, List.singleton_append, hone] at hrest
      exact hrest

lemma length_erase_le (t : List α) (i : ℕ) : (E.erase t i).length ≤ t.length := by
  have hsub := (List.eraseIdx_sublist (E.characters t) i).flatten
  rw [E.flatten_characters] at hsub
  exact hsub.length_le

lemma erase_cons_zero (hc : lone c) (t : List α) : E.erase (c :: t) 0 = t := by
  rw [erase, E.characters_cons hc, List.eraseIdx_cons_zero, E.flatten_characters]

lemma erase_cons_succ (hc : lone c) (t : List α) (i : ℕ) :
    E.erase (c :: t) (i + 1) = c :: E.erase t i := by
  rw [erase, E.characters_cons hc, List.eraseIdx_cons_succ, List.flatten_cons, List.singleton_append]
  rfl

-- a number of units that is taken for one of characters points behind what it was counted for
lemma erase_append_lone (hc : lone c) :
    E.erase (s ++ c :: t) s.length = s ++ E.erase (c :: t) (E.extra s) := by
  have hlen := E.length_eq s
  have hsub : s.length - (E.characters s).length = E.extra s := rfl
  rw [erase, E.characters_lone s c t hc, List.eraseIdx_append_of_length_le (by omega),
    List.flatten_append, E.flatten_characters, hsub, ← E.characters_cons hc, erase]

section Along

variable {β : Type} (t : List α) (l : List β) (i : ℕ)

lemma eraseAlong_sublist : (E.eraseAlong t l i).Sublist l := by
  have hle : ((E.characters t).take i).flatten.length ≤
      ((E.characters t).take (i + 1)).flatten.length :=
    (List.take_sublist_take_left (Nat.le_succ i)).flatten.length_le
  have hsub := (List.drop_sublist_drop_left l hle).append_left
    (l.take ((E.characters t).take i).flatten.length)
  rwa [List.take_append_drop] at hsub

lemma length_eraseAlong (hl : l.length = t.length) :
    (E.eraseAlong t l i).length = (E.erase t i).length := by
  have hflat := congrArg List.length (E.flatten_characters t)
  have hsplit := congrArg (fun m => m.flatten.length) (List.take_append_drop (i + 1) (E.characters t))
  have hle : ((E.characters t).take i).flatten.length ≤
      ((E.characters t).take (i + 1)).flatten.length :=
    (List.take_sublist_take_left (Nat.le_succ i)).flatten.length_le
  simp only [List.flatten_append, List.length_append] at hsplit
  rw [eraseAlong, erase, List.eraseIdx_eq_take_drop_succ, List.flatten_append, List.length_append,
    List.length_append, List.length_take, List.length_drop]
  omega

end Along

end CharSplit
