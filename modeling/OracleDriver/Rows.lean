import Mathlib.Algebra.Order.Ring.Int
import Mathlib.Data.List.Basic
import Mathlib.Logic.Function.Iterate
import OracleDriver.ColumnLists

/-! The rows of a result in blocks, as rows, as columns and as columnar data. -/

namespace OracleDriver

-- the forms in which rows are returned
inductive FetchForm where
  | rows
  | columns
  | columnar
deriving DecidableEq, Repr

namespace FetchForm

def name : FetchForm → String
  | rows => "fetchRows"
  | columns => "fetchColumns"
  | columnar => "fetchColumnar"

def warned : FetchForm → Exn
  | rows =>
    ⟨"ORACLE-SELECT-ROWS-ERROR",
      "SQLStatement::fetchRows() called after the end of data already received"⟩
  | columns => ⟨"ORACLE-SELECT-COLUMNS-ERROR",
      "SQLStatement::fetchColumns() called after the end of data already received"⟩
  | columnar => ⟨"ORACLE-SELECT-COLUMNAR-ERROR",
      "SQLStatement::fetchColumnar() called after the end of data already received"⟩

def checksRows (f : FetchForm) : Bool := f != columns

def checksColumns (f : FetchForm) : Bool := f == columnar

end FetchForm

-- the rows that were not fetched yet and what the statement remembers of the end of the data
structure Cursor (C : Type) where
  left : List (List C)
  fetchDone : Bool
  fetchComplete : Bool
  fetchWarned : Bool

namespace Cursor

def opened {C : Type} (rows : List (List C)) : Cursor C := ⟨rows, false, false, false⟩

end Cursor

-- in what the functions that return a block of rows differ
structure Fetcher (C A R : Type) where
  warned : Exn
  empty : R
  start : A
  add : A → List C → A
  finish : A → R

namespace Fetcher

variable {C A R : Type}

-- the rows of a block, their number and the rows that are left
def loop (add : A → List C → A) (rows : ℤ) (num : ℕ) (acc : A) : List (List C) → ℕ × A × List (List C)
  | [] => (num, acc, [])
  | row :: left =>
    if 0 < rows ∧ (num : ℤ) + 1 = rows then (num + 1, add acc row, left)
    else loop add rows (num + 1) (add acc row) left

def call (f : Fetcher C A R) (rows : ℤ) (c : Cursor C) : Except Exn R × Cursor C :=
  if c.fetchWarned then (.error f.warned, c)
  else if c.fetchComplete then (.ok f.empty, { c with fetchWarned := true })
  else
    let (num, acc, left) := loop f.add rows 0 f.start c.left
    (.ok (f.finish acc), ⟨left, true, (num : ℤ) < rows, false⟩)

-- what is returned for a block
def render (f : Fetcher C A R) (block : List (List C)) : R := f.finish (block.foldl f.add f.start)

-- the cursor before the call of number `i`, and what that call returns
def cursor (f : Fetcher C A R) (rows : ℤ) (c : Cursor C) (i : ℕ) : Cursor C :=
  (fun c => (f.call rows c).2)^[i] c

def outcome (f : Fetcher C A R) (rows : ℤ) (c : Cursor C) (i : ℕ) : Except Exn R :=
  (f.call rows (f.cursor rows c i)).1

end Fetcher

variable {C V : Type}

-- the shape of a value differs between rows and columns, as a cursor in a column is fetched in the
-- same form
variable (names : List Text) (shape : Bool → C → V)

-- QoreOracleStatement::fetchRows()
def fetchRows : Fetcher C (List (Hash V)) (List (Hash V)) where
  warned := FetchForm.rows.warned
  empty := []
  start := []
  add l row := l ++ [fetchRow names (row.map (shape true))]
  finish := id

-- QoreOracleStatement::fetchColumns(); the lists are created at once if `cols` is set
def fetchColumns (cols : Bool) : Fetcher C (Hash (List V)) (Hash (List V)) where
  warned := FetchForm.columns.warned
  empty := []
  start := if cols then doColumns names [] else []
  add h row := pushRow names h (row.map (shape false))
  finish := id

-- QoreOracleStatement::fetchColumnar(); there is a builder for each column
def fetchColumnar : Fetcher C (List (List V)) (Hash (List V)) where
  warned := FetchForm.columnar.warned
  empty := []
  start := names.map fun _ => []
  add builders row := List.zipWith (fun l v => l ++ [shape false v]) builders row
  finish := columnarHash names

namespace Fetcher

variable {C A R : Type} (f : Fetcher C A R)

lemma loop_bounded (add : A → List C → A) {B : ℕ} {num : ℕ} (hnum : num < B) (acc : A)
    (left : List (List C)) :
    loop add B num acc left =
      (num + min (B - num) left.length, (left.take (B - num)).foldl add acc, left.drop (B - num)) := by
  induction left generalizing num acc with
  | nil => simp [loop]
  | cons row left ih =>
    obtain ⟨d, hd⟩ : ∃ d, B - num = d + 1 := ⟨B - num - 1, by omega⟩
    rw [loop, hd, List.take_succ_cons, List.drop_succ_cons, List.foldl_cons, List.length_cons]
    split
    · rename_i hlast
      obtain rfl : d = 0 := by omega
      simp
    · rename_i hlast
      have hlt : num + 1 < B := by omega
      rw [ih hlt, show B - (num + 1) = d by omega]
      congr 1
      omega

lemma loop_unbounded (add : A → List C → A) {rows : ℤ} (hrows : rows ≤ 0) (num : ℕ) (acc : A)
    (left : List (List C)) :
    loop add rows num acc left = (num + left.length, left.foldl add acc, []) := by
  induction left generalizing num acc with
  | nil => rfl
  | cons row left ih =>
    rw [loop, if_neg (by omega), ih, List.length_cons, List.foldl_cons]
    congr 1
    omega

-- how many rows a call takes
def taken (rows : ℤ) (left : List (List C)) : List (List C) :=
  if 0 < rows then left.take rows.toNat else left

lemma call_rows {rows : ℤ} {c : Cursor C} (hw : c.fetchWarned = false) (hc : c.fetchComplete = false) :
    (f.call rows c).1 = .ok (f.render (taken rows c.left)) := by
  rcases lt_or_ge 0 rows with h | h
  · obtain ⟨B, rfl⟩ := Int.eq_ofNat_of_zero_le h.le
    have hB : 0 < B := by omega
    simp [call, hw, hc, loop_bounded _ hB, taken, render, hB]
  · simp [call, hw, hc, loop_unbounded _ h, taken, render, not_lt.mpr h]

lemma call_block {B : ℕ} (hB : 0 < B) {c : Cursor C} (hw : c.fetchWarned = false)
    (hc : c.fetchComplete = false) :
    f.call B c = (.ok (f.render (c.left.take B)),
      ⟨c.left.drop B, true, decide (c.left.length < B), false⟩) := by
  simp [call, hw, hc, loop_bounded _ hB, render]

-- the block of number `i`
def block (B : ℕ) (rows : List (List C)) (i : ℕ) : List (List C) := (rows.drop (i * B)).take B

lemma flatMap_block (B : ℕ) (rows : List (List C)) (m : ℕ) :
    (List.range m).flatMap (block B rows) = rows.take (m * B) := by
  induction m with
  | zero => simp
  | succ m ih =>
    rw [List.range_succ, List.flatMap_append, ih, Nat.succ_mul, List.take_add]
    simp [block]

-- all rows once and in order, then one result without rows, then the error
def Paginated (B : ℕ) (rows : List (List C)) : Prop :=
  ∃ m, (List.range m).flatMap (block B rows) = rows ∧
    (∀ i < m, block B rows i ≠ [] ∧ f.outcome B (.opened rows) i = .ok (f.render (block B rows i))) ∧
    (f.outcome B (.opened rows) m = .ok (f.render []) ∨ f.outcome B (.opened rows) m = .ok f.empty) ∧
    ∀ i > m, f.outcome B (.opened rows) i = .error f.warned

variable {B : ℕ} {rows : List (List C)}

lemma cursor_succ (r : ℤ) (c : Cursor C) (i : ℕ) :
    f.cursor r c (i + 1) = (f.call r (f.cursor r c i)).2 :=
  Function.iterate_succ_apply' _ i c

lemma cursor_block (hB : 0 < B) {i : ℕ} (hi : i ≤ rows.length / B) :
    f.cursor B (.opened rows) i = ⟨rows.drop (i * B), decide (0 < i), false, false⟩ := by
  induction i with
  | zero => simp [cursor, Cursor.opened]
  | succ i ih =>
    have hle : (i + 1) * B ≤ rows.length := (Nat.mul_le_mul_right B hi).trans (Nat.div_mul_le_self _ _)
    rw [Nat.succ_mul] at hle
    rw [cursor_succ, ih (by omega), f.call_block hB rfl rfl]
    simp only [List.drop_drop, Nat.succ_mul, List.length_drop, Nat.zero_lt_succ, decide_true,
      Cursor.mk.injEq, true_and, and_true, decide_eq_false_iff_not, not_lt]
    omega

lemma outcome_block (hB : 0 < B) {i : ℕ} (hi : i ≤ rows.length / B) :
    f.outcome B (.opened rows) i = .ok (f.render (block B rows i)) := by
  rw [outcome, f.cursor_block hB hi, f.call_block hB rfl rfl]
  rfl

lemma cursor_complete (rows : List (List C)) (hB : 0 < B) :
    ∃ left, f.cursor B (.opened rows) (rows.length / B + 1) = ⟨left, true, true, false⟩ := by
  have hlt : rows.length - rows.length / B * B < B := by
    rw [← Nat.mod_eq_sub_div_mul]
    exact Nat.mod_lt _ hB
  rw [cursor_succ, f.cursor_block hB le_rfl, f.call_block hB rfl rfl]
  exact ⟨rows.drop (rows.length / B * B + B), by simp [hlt]⟩

lemma outcome_complete (hB : 0 < B) :
    f.outcome B (.opened rows) (rows.length / B + 1) = .ok f.empty := by
  obtain ⟨left, h⟩ := f.cursor_complete rows hB
  simp [outcome, h, call]

lemma cursor_warned (rows : List (List C)) (hB : 0 < B) (i : ℕ) :
    (f.cursor B (.opened rows) (rows.length / B + 2 + i)).fetchWarned = true := by
  induction i with
  | zero =>
    obtain ⟨left, h⟩ := f.cursor_complete rows hB
    rw [Nat.add_zero, cursor_succ, h]
    simp [call]
  | succ i ih =>
    rw [← Nat.add_assoc, cursor_succ]
    simp [call, ih]

lemma outcome_warned (hB : 0 < B) {i : ℕ} (hi : rows.length / B + 1 < i) :
    f.outcome B (.opened rows) i = .error f.warned := by
  obtain ⟨k, rfl⟩ := Nat.exists_eq_add_of_lt hi
  have hw := f.cursor_warned rows hB k
  rw [show rows.length / B + 1 + k + 1 = rows.length / B + 2 + k by omega, outcome, call, hw]
  rfl

lemma paginated_of_not_dvd (hB : 0 < B) (h : ¬ B ∣ rows.length) : f.Paginated B rows := by
  have hmod : 0 < rows.length % B := Nat.pos_of_ne_zero fun h0 => h (Nat.dvd_of_mod_eq_zero h0)
  have hdiv := Nat.div_add_mod' rows.length B
  refine ⟨rows.length / B + 1, ?_, ?_, Or.inr (f.outcome_complete hB),
    fun i hi => f.outcome_warned hB hi⟩
  · rw [flatMap_block, List.take_of_length_le]
    have hlt := Nat.mod_lt rows.length hB
    rw [Nat.succ_mul]
    omega
  · intro i hi
    refine ⟨?_, f.outcome_block hB (by omega)⟩
    have hle : i * B ≤ rows.length / B * B := Nat.mul_le_mul_right B (by omega)
    rw [← List.length_pos_iff_ne_nil, block, List.length_take, List.length_drop]
    omega

lemma not_paginated_of_dvd (hB : 0 < B) (h : B ∣ rows.length) : ¬ f.Paginated B rows := by
  rintro ⟨m, -, hblocks, -, hwarned⟩
  have hm : rows.length / B + 1 ≤ m := by
    by_contra hlt
    have herr := hwarned (rows.length / B + 1) (by omega)
    rw [f.outcome_complete hB] at herr
    cases herr
  obtain ⟨hne, -⟩ := hblocks (rows.length / B) (by omega)
  apply hne
  rw [block, Nat.div_mul_cancel h, List.drop_length, List.take_nil]

lemma paginated_iff (hB : 0 < B) (rows : List (List C)) : f.Paginated B rows ↔ ¬ B ∣ rows.length :=
  ⟨fun hp hd => f.not_paginated_of_dvd hB hd hp, f.paginated_of_not_dvd hB⟩

end Fetcher

/-- A result set ends with exactly one empty block if and only if its last block is not a full one. -/
theorem fetches_paginated_iff {B : ℕ} (hB : 0 < B) (rows : List (List C)) :
    ((fetchRows names shape).Paginated B rows ↔ ¬ B ∣ rows.length) ∧
    ((fetchColumns names shape false).Paginated B rows ↔ ¬ B ∣ rows.length) ∧
    ((fetchColumnar names shape).Paginated B rows ↔ ¬ B ∣ rows.length) :=
  ⟨(fetchRows names shape).paginated_iff hB rows, (fetchColumns names shape false).paginated_iff hB rows,
    (fetchColumnar names shape).paginated_iff hB rows⟩

theorem fetches_paginated_iff_two :
    ((fetchRows ["a".toList] fun _ (c : ℕ) => c).Paginated 2 [[1], [2], [3]] ↔ ¬ 2 ∣ 3) ∧
    ((fetchColumns ["a".toList] (fun _ (c : ℕ) => c) false).Paginated 2 [[1], [2], [3]] ↔ ¬ 2 ∣ 3) ∧
    ((fetchColumnar ["a".toList] fun _ (c : ℕ) => c).Paginated 2 [[1], [2], [3]] ↔ ¬ 2 ∣ 3) :=
  fetches_paginated_iff ["a".toList] (fun _ c => c) (by decide) [[1], [2], [3]]

theorem not_paginated_multiple :
    ¬ (fetchRows ["a".toList] fun _ (c : ℕ) => c).Paginated 3 [[1], [2], [3]] ∧
    ¬ (fetchColumns ["a".toList] (fun _ (c : ℕ) => c) false).Paginated 3 [[1], [2], [3]] ∧
    ¬ (fetchColumnar ["a".toList] fun _ (c : ℕ) => c).Paginated 3 [[1], [2], [3]] :=
  ⟨Fetcher.not_paginated_of_dvd _ (by decide) (by decide),
    Fetcher.not_paginated_of_dvd _ (by decide) (by decide),
      Fetcher.not_paginated_of_dvd _ (by decide) (by decide)⟩

-- the columns of a block of rows are its transpose: each key stands for one column in both
structure Transposed (block : List (List C)) (rs : List (Hash V)) (h : Hash (List V)) : Prop where
  rows_length : rs.length = block.length
  keys_nodup : h.keys.Nodup ∧ ∀ r ∈ rs, r.keys.Nodup
  keys : ∀ r ∈ rs, ∀ k, k ∈ h.keys ↔ k ∈ r.keys
  lengths : ∀ k l, h.getKeyValue k = some l → l.length = rs.length
  cells : ∃ column : Text → ℕ, Set.BijOn column {k | k ∈ h.keys} {j | j < names.length} ∧
    ∀ k ∈ h.keys, ∃ l : List V, h.getKeyValue k = some l ∧
      ∀ (i : ℕ) (row : List C) (r : Hash V), block[i]? = some row → rs[i]? = some r →
        ∃ cell, row[column k]? = some cell ∧ r.getKeyValue k = some (shape true cell) ∧
          l[i]? = some (shape false cell)

variable {names shape}

lemma render_fetchRows (block : List (List C)) :
    (fetchRows names shape).render block = block.map fun row =>
      fetchRow names (row.map (shape true)) := by
  have hfold : ∀ l : List (Hash V), block.foldl (fetchRows names shape).add l =
      l ++ block.map fun row => fetchRow names (row.map (shape true)) := by
    induction block with
    | nil => simp
    | cons row block ih =>
      intro l
      rw [List.foldl_cons, ih]
      simp [fetchRows]
  exact hfold []

lemma render_fetchColumns (shape : Bool → C → V) (cols : Bool) {block : List (List C)} (hne : block ≠ [])
    (hlen : ∀ row ∈ block, row.length = names.length) :
    Lists names (block.map (List.map (shape false))) ((fetchColumns names shape cols).render block) := by
  have hrender : (fetchColumns names shape cols).render block =
      (block.map (List.map (shape false))).foldl (pushRow names)
        (if cols then doColumns names [] else []) := by
    rw [List.foldl_map]
    rfl
  rw [hrender]
  apply lists_pushRows
  · cases cols
    · exact Or.inl rfl
    · exact Or.inr rfl
  · simpa using hne
  · intro row hrow
    obtain ⟨row', hrow', rfl⟩ := List.mem_map.mp hrow
    rw [List.length_map, hlen row' hrow']

lemma bijOn_idxOf (names : List Text) :
    Set.BijOn (fun k => (rowKeys names).idxOf k) {k | k ∈ rowKeys names} {j | j < names.length} := by
  refine ⟨?_, ?_, ?_⟩
  · intro k hk
    have hlt := List.idxOf_lt_length_of_mem hk
    rwa [rowKeys_length] at hlt
  · intro k hk k' _ he
    exact (List.idxOf_inj hk).mp he
  · intro j hj
    rw [Set.mem_ofPred_eq, ← rowKeys_length names] at hj
    exact ⟨(rowKeys names)[j], List.getElem_mem hj, (rowKeys_nodup names).idxOf_getElem j hj⟩

lemma transposed_render {cols : Bool} {block : List (List C)} (hne : block ≠ [])
    (hlen : ∀ row ∈ block, row.length = names.length) :
    Transposed names shape block ((fetchRows names shape).render block)
      ((fetchColumns names shape cols).render block) := by
  have hl := render_fetchColumns shape cols hne hlen
  have hrow : ∀ row ∈ block, fetchRow names (row.map (shape true)) = (rowKeys names).zip
      (row.map (shape true)) :=
    fun row hr => fetchRow_eq (by rw [List.length_map, hlen row hr])
  have hkeys : ∀ row ∈ block, (fetchRow names (row.map (shape true))).keys = rowKeys names := by
    intro row hr
    rw [hrow row hr]
    exact List.map_fst_zip (by simp [hlen row hr])
  rw [render_fetchRows]
  constructor
  · exact List.length_map _
  · refine ⟨hl.keys_nodup, ?_⟩
    intro r hr
    obtain ⟨row, hrow', rfl⟩ := List.mem_map.mp hr
    rw [hkeys row hrow']
    exact rowKeys_nodup names
  · intro r hr k
    obtain ⟨row, hrow', rfl⟩ := List.mem_map.mp hr
    rw [hkeys row hrow', hl.keys]
  · intro k l hk
    have hmem : k ∈ rowKeys names := by
      rw [← hl.keys, ← Hash.isSome_getKeyValue, hk]
      rfl
    obtain ⟨j, hj⟩ := List.getElem?_of_mem hmem
    obtain ⟨l', hl', he⟩ := hl.values j k hj
    rw [hk, Option.some.injEq] at hl'
    subst hl'
    simpa using congrArg List.length he
  · refine ⟨fun k => (rowKeys names).idxOf k, ?_, ?_⟩
    · have hset : {k | k ∈ ((fetchColumns names shape cols).render block).keys} =
          {k | k ∈ rowKeys names} := by
        ext k
        exact hl.keys k
      rw [hset]
      exact bijOn_idxOf names
    · intro k hk
      have hj : (rowKeys names)[(rowKeys names).idxOf k]? = some k :=
        List.getElem?_idxOf ((hl.keys k).mp hk)
      obtain ⟨l, hlist, he⟩ := hl.values _ k hj
      refine ⟨l, hlist, ?_⟩
      intro i row r hi hr
      have hmem := List.mem_of_getElem? hi
      obtain rfl : fetchRow names (row.map (shape true)) = r := by simpa [hi] using hr
      have hlt : (rowKeys names).idxOf k < row.length := by
        rw [hlen row hmem, ← rowKeys_length names]
        exact List.idxOf_lt_length_of_mem ((hl.keys k).mp hk)
      have hcell := List.getElem?_eq_getElem hlt
      refine ⟨row[(rowKeys names).idxOf k], hcell, ?_, ?_⟩
      · rw [hrow row hmem, Hash.getKeyValue_zip (rowKeys_nodup names) (by simp [hlen row hmem]) hj,
          List.getElem?_map, hcell]
        rfl
      · have hval := congrArg (·[i]?) he
        simpa [hi, hcell] using hval

/-- The columns of a block are the transpose of its rows. -/
theorem fetchColumns_transposed (names : List Text) (shape : Bool → C → V) (cols : Bool) (rows : ℤ)
    (c : Cursor C)
    (hw : c.fetchWarned = false) (hc : c.fetchComplete = false) (hne : c.left ≠ [])
    (hlen : ∀ row ∈ c.left, row.length = names.length) :
    ∃ rs h, ((fetchRows names shape).call rows c).1 = .ok rs ∧
      ((fetchColumns names shape cols).call rows c).1 = .ok h ∧
      Transposed names shape (Fetcher.taken rows c.left) rs h ∧ rs ≠ [] := by
  have htaken : Fetcher.taken rows c.left ≠ [] := by
    rw [Fetcher.taken]
    split
    · rw [ne_eq, List.take_eq_nil_iff, not_or]
      exact ⟨by omega, hne⟩
    · exact hne
  have hsub : ∀ row ∈ Fetcher.taken rows c.left, row.length = names.length := by
    intro row hr
    rw [Fetcher.taken] at hr
    split at hr
    · exact hlen row (List.mem_of_mem_take hr)
    · exact hlen row hr
  refine ⟨_, _, Fetcher.call_rows _ hw hc, Fetcher.call_rows _ hw hc, transposed_render htaken hsub, ?_⟩
  rw [render_fetchRows]
  simpa using htaken

theorem fetchColumns_transposed_generated :
    ∃ rs h, ((fetchRows ["a".toList, "a".toList, "a_1".toList] fun _ (c : ℕ) => c).call 2
          (.opened [[1, 2, 3], [4, 5, 6], [7, 8, 9]])).1 = .ok rs ∧
      ((fetchColumns ["a".toList, "a".toList, "a_1".toList] (fun _ (c : ℕ) => c) true).call 2
          (.opened [[1, 2, 3], [4, 5, 6], [7, 8, 9]])).1 = .ok h ∧
      Transposed ["a".toList, "a".toList, "a_1".toList] (fun _ (c : ℕ) => c)
        (Fetcher.taken 2 [[1, 2, 3], [4, 5, 6], [7, 8, 9]]) rs h ∧ rs ≠ [] :=
  fetchColumns_transposed _ _ true 2 _ rfl rfl (by decide) (by decide)

end OracleDriver
