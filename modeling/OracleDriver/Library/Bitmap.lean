import Mathlib.Data.List.Basic

/-! Bitmaps in bytes, with the first entry in the lowest bit of the first byte. -/

namespace Bitmap

variable {α : Type} {v : List (BitVec 8)} {l : List Bool} {i n : ℕ}

def resize (v : List α) (n : ℕ) (a : α) : List α := v.take n ++ List.replicate (n - v.length) a

lemma length_resize (v : List α) (n : ℕ) (a : α) : (resize v n a).length = n := by
  simp only [resize, List.length_append, List.length_take, List.length_replicate]
  omega

def size (n : ℕ) : ℕ := (n + 7) / 8

def mask (i : ℕ) : BitVec 8 := 1#8 <<< (i % 8)

def bit (v : List (BitVec 8)) (i : ℕ) : Bool := (v.getD (i / 8) 0).getLsbD (i % 8)

lemma getLsbD_mask {j : ℕ} : (mask i).getLsbD j = decide (j = i % 8) := by
  have hi : i % 8 < 8 := Nat.mod_lt i (by omega)
  simp only [mask, BitVec.getLsbD_shiftLeft, BitVec.getLsbD_one]
  by_cases h : j = i % 8
  · simp [h, hi]
  · simp [h]
    omega

lemma and_mask_ne_zero (w : BitVec 8) : (w &&& mask i != 0) = w.getLsbD (i % 8) := by
  cases hw : w.getLsbD (i % 8) with
  | true =>
    apply bne_iff_ne.mpr
    intro h
    have hbit := congrArg (BitVec.getLsbD · (i % 8)) h
    simp [BitVec.getLsbD_and, getLsbD_mask, hw] at hbit
  | false =>
    rw [bne_eq_false_iff_eq]
    apply BitVec.eq_of_getLsbD_eq
    intro j _
    rw [BitVec.getLsbD_and, getLsbD_mask]
    by_cases hj : j = i % 8
    · simp [hj, hw]
    · simp [hj]

lemma eq_of_div_mod (hd : i / 8 = n / 8) (hm : i % 8 = n % 8) : i = n := by
  omega

lemma bit_modify (f : BitVec 8 → BitVec 8) (h : n / 8 < v.length) : bit (v.modify (n / 8) f) i =
    if i / 8 = n / 8 then (f (v.getD (n / 8) 0)).getLsbD (i % 8) else bit v i := by
  simp only [bit, List.getD_eq_getElem?_getD, List.getElem?_modify]
  by_cases hi : i / 8 = n / 8
  · rw [hi, List.getElem?_eq_getElem h]
    simp
  · simp [hi, Ne.symm hi]

lemma bit_on (h : n / 8 < v.length) :
    bit (v.modify (n / 8) (· ||| mask n)) i = (bit v i || decide (i = n)) := by
  rw [bit_modify _ h]
  split
  case isTrue hd =>
    rw [BitVec.getLsbD_or, getLsbD_mask, bit, hd]
    congr 1
    exact decide_eq_decide.mpr ⟨eq_of_div_mod hd, congrArg (· % 8)⟩
  case isFalse hd =>
    have hne : i ≠ n := fun hin => hd (congrArg (· / 8) hin)
    simp [hne]

lemma bit_off (h : n / 8 < v.length) :
    bit (v.modify (n / 8) (· &&& ~~~mask n)) i = (bit v i && !decide (i = n)) := by
  have hi : i % 8 < 8 := Nat.mod_lt i (by omega)
  rw [bit_modify _ h]
  split
  case isTrue hd =>
    rw [BitVec.getLsbD_and, BitVec.getLsbD_not, getLsbD_mask, bit, hd]
    simp only [hi, decide_true, Bool.true_and]
    congr 2
    exact decide_eq_decide.mpr ⟨eq_of_div_mod hd, congrArg (· % 8)⟩
  case isFalse hd =>
    have hne : i ≠ n := fun hin => hd (congrArg (· / 8) hin)
    simp [hne]

lemma bit_resize {a : BitVec 8} (hn : v.length ≤ n) (hi : i / 8 < v.length) :
    bit (resize v n a) i = bit v i := by
  rw [bit, bit, resize, List.take_of_length_le hn, List.getD_eq_getElem?_getD,
    List.getD_eq_getElem?_getD, List.getElem?_append_left hi]

lemma bit_ones (hi : i / 8 < n) : bit (List.replicate n 0xff#8) i = true := by
  have hi8 : i % 8 < 8 := Nat.mod_lt i (by omega)
  rw [bit, List.getD_eq_getElem?_getD, List.getElem?_replicate, if_pos hi]
  have hall : 0xff#8 = BitVec.allOnes 8 := by decide
  rw [hall, Option.getD_some, BitVec.getLsbD_allOnes, decide_eq_true hi8]

/-- The bitmap has as many bytes as the entries need and has their bits. -/
structure Marks (v : List (BitVec 8)) (l : List Bool) : Prop where
  length : v.length = size l.length
  bit : ∀ i (h : i < l.length), bit v i = l[i]

namespace Marks

lemma div_lt (h : Marks v l) (hi : i < l.length) : i / 8 < v.length := by
  rw [h.length, size]
  omega

lemma grown (h : Marks v l) (a : BitVec 8) :
    (resize v (size (l.length + 1)) a).length = size (l.length + 1) ∧
    ∀ i (hi : i < l.length), Bitmap.bit (resize v (size (l.length + 1)) a) i = l[i] := by
  have hlen : v.length ≤ size (l.length + 1) := by
    rw [h.length, size, size]
    omega
  exact ⟨length_resize .., fun i hi => by rw [bit_resize hlen (h.div_lt hi), h.bit i hi]⟩

lemma push (hlen : v.length = size (l.length + 1))
    (h : ∀ i (hi : i < l.length), Bitmap.bit v i = l[i]) (b : Bool) :
    Marks (v.modify (l.length / 8) fun w =>
      if b then w ||| mask l.length else w &&& ~~~mask l.length) (l ++ [b]) := by
  have hlt : l.length / 8 < v.length := by
    rw [hlen, size]
    omega
  refine ⟨by simp [hlen], ?_⟩
  intro i hi
  rw [List.length_append, List.length_singleton] at hi
  cases b with
  | true =>
    simp only [if_true, bit_on hlt]
    by_cases hin : i = l.length
    · simp [hin]
    · have hil : i < l.length := by omega
      simp [hin, h i hil, List.getElem_append_left hil]
  | false =>
    simp only [Bool.false_eq_true, if_false, bit_off hlt]
    by_cases hin : i = l.length
    · simp [hin]
    · have hil : i < l.length := by omega
      simp [hin, h i hil, List.getElem_append_left hil]

end Marks

/-- There are no bytes while every bit is set. -/
def Lazy (v : List (BitVec 8)) (l : List Bool) : Prop := if false ∈ l then Marks v l else v = []

namespace Lazy

lemma eq_nil (h : Lazy v l) (hl : false ∉ l) : v = [] := by
  rwa [Lazy, if_neg hl] at h

lemma marks (h : Lazy v l) (hl : false ∈ l) : Marks v l := by
  rwa [Lazy, if_pos hl] at h

lemma nil_iff (h : Lazy v l) : v = [] ↔ false ∉ l := by
  constructor
  · intro hv hl
    have hlen := (h.marks hl).length
    have hpos := List.length_pos_of_mem hl
    rw [hv, List.length_nil, size] at hlen
    omega
  · exact h.eq_nil

end Lazy

end Bitmap
