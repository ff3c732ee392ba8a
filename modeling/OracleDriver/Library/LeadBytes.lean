import Mathlib.Data.List.Basic

/-! Texts in which the first byte of a character can be told from the others, and cutting them
between characters. -/

namespace LeadBytes

variable {α β : Type} (enc : α → List β) (more : β → Bool)

/-- A character is a lead byte and any number of bytes that continue it. -/
structure Encodes : Prop where
  split : ∀ a, ∃ b l, enc a = b :: l ∧ more b = false ∧ ∀ c ∈ l, more c = true

def encode (t : List α) : List β := t.flatMap enc

-- back over the bytes that continue a character
def backUp (l : List β) : ℕ → ℕ
  | 0 => 0
  | n + 1 => if l[n + 1]?.any more then backUp l n else n + 1

def cut (l : List β) (limit : ℕ) : List β := if l.length ≤ limit then l else l.take (backUp more l limit)

def fitting (limit : ℕ) : List α → List α
  | [] => []
  | a :: t => if (enc a).length ≤ limit then a :: fitting (limit - (enc a).length) t else []

variable {enc more} {t : List α} {limit : ℕ}

lemma encode_nil : encode enc [] = [] := rfl

lemma encode_cons (a : α) (t : List α) : encode enc (a :: t) = enc a ++ encode enc t := List.flatMap_cons

variable (enc) in
lemma fitting_isPrefix (limit : ℕ) (t : List α) : fitting enc limit t <+: t := by
  induction t generalizing limit with
  | nil => exact List.prefix_rfl
  | cons a t ih =>
    rw [fitting]
    split
    · exact List.prefix_cons_inj a |>.mpr (ih _)
    · exact List.nil_prefix

variable (enc) in
lemma length_fitting (limit : ℕ) (t : List α) : (encode enc (fitting enc limit t)).length ≤ limit := by
  induction t generalizing limit with
  | nil => exact Nat.zero_le _
  | cons a t ih =>
    rw [fitting]
    split
    · have hrest := ih (limit - (enc a).length)
      rw [encode_cons, List.length_append]
      omega
    · exact Nat.zero_le _

lemma fitting_longest {q : List α} (hq : q <+: t) (hlen : (encode enc q).length ≤ limit) :
    q.length ≤ (fitting enc limit t).length := by
  induction t generalizing limit q with
  | nil =>
    rw [List.prefix_nil.mp hq]
    exact Nat.zero_le _
  | cons a t ih =>
    cases q with
    | nil => exact Nat.zero_le _
    | cons b q =>
      obtain ⟨rfl, hrest⟩ := List.cons_prefix_cons.mp hq
      rw [encode_cons, List.length_append] at hlen
      rw [fitting, if_pos (by omega), List.length_cons, List.length_cons]
      have hle := ih hrest (by omega : (encode enc q).length ≤ limit - (enc b).length)
      omega

lemma fitting_eq_self (h : (encode enc t).length ≤ limit) : fitting enc limit t = t := by
  have hle := fitting_longest (List.prefix_refl t) h
  exact (fitting_isPrefix _ limit t).eq_of_length_le hle

-- inside the first character there are only bytes that continue it
lemma backUp_inside {b : β} {l r : List β} (hl : ∀ c ∈ l, more c = true) {n : ℕ} (hn : n ≤ l.length) :
    backUp more (b :: l ++ r) n = 0 := by
  induction n with
  | zero => rfl
  | succ n ih =>
    have hget : (b :: l ++ r)[n + 1]? = some l[n] := by
      rw [List.cons_append, List.getElem?_cons_succ, List.getElem?_append_left (by omega),
        List.getElem?_eq_getElem]
    rw [backUp, hget, Option.any_some, hl _ (List.getElem_mem _), if_pos rfl]
    exact ih (by omega)

-- behind the first character the byte that is found is one of the rest
lemma backUp_append {b : β} {p r : List β} (hb : more b = false) (hp : 0 < p.length) (n : ℕ) :
    backUp more (p ++ b :: r) (p.length + n) = p.length + backUp more (b :: r) n := by
  induction n with
  | zero =>
    obtain ⟨k, hk⟩ : ∃ k, p.length = k + 1 := ⟨p.length - 1, by omega⟩
    have hget : (p ++ b :: r)[p.length]? = some b := by
      rw [List.getElem?_append_right (Nat.le_refl _), Nat.sub_self, List.getElem?_cons_zero]
    rw [hk] at hget
    show backUp more (p ++ b :: r) p.length = p.length
    rw [hk, backUp, hget, Option.any_some, hb]
    rfl
  | succ n ih =>
    have hget : (p ++ b :: r)[p.length + n + 1]? = (b :: r)[n + 1]? := by
      rw [List.getElem?_append_right (by omega)]
      congr 1
      omega
    rw [← Nat.add_assoc, backUp, hget, ih, backUp]
    split
    · rfl
    · omega

variable (h : Encodes enc more)

include h

lemma encode_head {a : α} {t : List α} : ∃ b l, encode enc (a :: t) = b :: l ∧ more b = false := by
  obtain ⟨b, l, ha, hb, -⟩ := h.split a
  exact ⟨b, l ++ encode enc t, by rw [encode_cons, ha, List.cons_append], hb⟩

/-- Backing up from a limit gives the characters that fit in it. -/
lemma take_backUp (hlt : limit < (encode enc t).length) :
    (encode enc t).take (backUp more (encode enc t) limit) = encode enc (fitting enc limit t) := by
  induction t generalizing limit with
  | nil => exact absurd hlt (Nat.not_lt_zero _)
  | cons a t ih =>
    obtain ⟨b, l, ha, hb, hl⟩ := h.split a
    rw [encode_cons, List.length_append] at hlt
    rw [fitting]
    split
    case isTrue hfit =>
      obtain ⟨n, rfl⟩ := Nat.exists_eq_add_of_le hfit
      have hn : n < (encode enc t).length := by omega
      cases t with
      | nil => exact absurd hn (Nat.not_lt_zero _)
      | cons a' t =>
        obtain ⟨b', l', hrest, hb'⟩ := encode_head (t := t) (a := a') h
        have hpos : 0 < (enc a).length := by
          rw [ha]
          exact Nat.zero_lt_succ _
        have hback := backUp_append (r := l') hb' hpos n
        rw [← hrest] at hback
        rw [encode_cons a, hback, List.take_append, Nat.add_sub_cancel_left,
          Nat.add_sub_cancel_left, encode_cons a, ih hn, List.take_of_length_le (by omega)]
    case isFalse hbig =>
      have hle : limit ≤ l.length := by
        rw [ha, List.length_cons] at hbig
        omega
      rw [encode_cons, ha, backUp_inside hl hle, List.take_zero, encode_nil]

lemma cut_encode (t : List α) (limit : ℕ) :
    cut more (encode enc t) limit = encode enc (fitting enc limit t) := by
  rw [cut]
  split
  case isTrue hle => rw [fitting_eq_self hle]
  case isFalse hgt => exact take_backUp h (by omega)

lemma length_encode_lt {a : α} (t : List α) :
    (encode enc t).length < (encode enc (t ++ [a])).length := by
  obtain ⟨b, l, ha, -, -⟩ := h.split a
  simp [encode, ha]

/-- Cutting off one byte takes the whole last character away. -/
lemma cut_last (t : List α) (a : α) :
    cut more (encode enc (t ++ [a])) ((encode enc (t ++ [a])).length - 1) = encode enc t := by
  have hlt := length_encode_lt h (a := a) t
  have hfit : fitting enc ((encode enc (t ++ [a])).length - 1) (t ++ [a]) = t := by
    have hpre : t <+: t ++ [a] := List.prefix_append t [a]
    have hlong :=
      fitting_longest hpre (by omega : (encode enc t).length ≤ (encode enc (t ++ [a])).length - 1)
    have hle := length_fitting enc ((encode enc (t ++ [a])).length - 1) (t ++ [a])
    have hfp := fitting_isPrefix enc ((encode enc (t ++ [a])).length - 1) (t ++ [a])
    rcases List.prefix_concat_iff.mp hfp with hall | hsub
    · rw [hall] at hle
      omega
    · exact hsub.eq_of_length_le hlong
  rw [cut_encode h, hfit]

end LeadBytes
