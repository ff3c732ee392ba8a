import OracleDriver.Frames

/-! A block of rows that is accepted is streamed once and in order, however the client splits it. -/

namespace OracleDriver

open Act

-- a load of `k` columns and arrays of `m` rows is active
def Loads (k m : ℕ) (R : BulkLoadState → Prop) (t : World) : Prop :=
  ∃ b, t.conn.bulkLoad = some b ∧ b.columns.length = k ∧ b.maxRows = m ∧ R b

section Loads

variable {h : Handler} {l : Level} {k m : ℕ} {R R' : BulkLoadState → Prop}

lemma Loads.mono {t : World} (ht : Loads k m R t) (hr : ∀ b, R b → R' b) : Loads k m R' t := by
  obtain ⟨b, hb, hk, hm, h⟩ := ht
  exact ⟨b, hb, hk, hm, hr b h⟩

lemma loads_touch : Spec (Loads k m R) (touch : Drv h l Unit) fun _ => Loads k m R := by
  rintro t ⟨b, hb, ht⟩
  exact ⟨b, (congrArg Conn.bulkLoad t.touch_conn).trans hb, ht⟩

lemma loads_oci (c : Call) : Spec (Loads k m R) (oci c : Drv h l Answer) fun _ => Loads k m R :=
  spec_bind loads_touch fun _ _ ht => ht

lemma loads_bulk : Spec (Loads k m R) (bulk : Drv h .recover (Option BulkLoadState)) fun r t =>
    ∃ b, r = some b ∧ t.conn.bulkLoad = some b ∧ b.columns.length = k ∧ b.maxRows = m ∧ R b := by
  intro t ht
  obtain ⟨b, hb, h⟩ := loads_touch (h := h) (l := .recover) t ht
  exact ⟨b, hb, hb, h⟩

lemma loads_setBulk (f : BulkLoadState → BulkLoadState) (hk : ∀ b, (f b).columns = b.columns)
    (hm : ∀ b, (f b).maxRows = b.maxRows) (hf : ∀ b, R b → R' (f b)) :
    Spec (Loads k m R) (setBulk f : Drv h .recover Unit) fun _ => Loads k m R' := by
  refine spec_bind loads_touch fun _ => ?_
  rintro t ⟨b, hb, hbk, hbm, hr⟩
  refine ⟨f b, ?_, by rw [hk, hbk], by rw [hm, hbm], hf b hr⟩
  show t.conn.bulkLoad.map f = _
  rw [hb]
  rfl

lemma loads_setPath (f : DirectPath → DirectPath) (hf : ∀ b, R b → R' (b.setPath f)) :
    Spec (Loads k m R) (setBulk (BulkLoadState.setPath f) : Drv h .recover Unit) fun _ => Loads k m R' :=
  loads_setBulk _ (fun _ => rfl) (fun _ => rfl) hf

lemma pending_setBulk (f : BulkLoadState → BulkLoadState) :
    Spec Pending (setBulk f : Drv h .recover Unit) fun _ => Pending := by
  intro t ht
  show (!t.touch.xsink.isEmpty) = true
  rwa [World.touch_xsink]

lemma passes_checkCancel :
    Passes Pending (Loads k m R) (Loads k m R) (checkCancel .main : Drv h l Bool) := by
  refine spec_bind (Q := fun _ => Loads k m R) (fun _ ht => ht) fun a =>
    spec_ite (fun _ => ?_) fun _ => ?_
  · exact spec_bind (spec_raise _ _) fun _ => passes_true fun _ ht => ht
  · exact passes_pure fun _ ht => ht

lemma passes_checkTurn (i : ℕ) :
    Passes Pending (Loads k m R) (Loads k m R) (checkTurn .main i : Drv h l Bool) := by
  exact spec_ite (fun _ => passes_checkCancel) fun _ => passes_pure fun _ ht => ht

lemma fails_failRows (e : Option Exn) (P : World → Prop) (he : e = none → ∀ t, P t → Pending t) :
    Spec P (failRows .main e : Drv h .recover Bool) fun b t => b = true ∧ Pending t := by
  cases e with
  | none =>
    refine spec_bind (spec_weaken (pending_setBulk _) (he rfl) fun _ _ ht => ht) fun _ => ?_
    exact spec_pure fun _ ht => ⟨rfl, ht⟩
  | some e =>
    refine spec_bind (spec_any P _) fun _ => spec_bind (spec_raise e _) fun _ => ?_
    exact spec_pure fun _ ht => ⟨rfl, ht⟩

variable (hp : ∀ who w, Pending (h .main who w))
include hp

lemma passes_check (a : Answer) (who : String) (ha : a.ok = true → ∀ t, Loads k m R t → Loads k m R' t) :
    Passes Pending (Loads k m R) (Loads k m R') (check .main a who : Drv h l Bool) := by
  intro t ht
  refine ⟨fun hb => pending_checkerr who t hp a hb, fun hb => ?_⟩
  show Loads k m R' (t.checkerr h .main a who).2
  rw [checkerr_false .main who t a hb]
  refine ha ?_ t ht
  have hs : (t.checkerr h .main a who).1 = false := hb
  unfold World.checkerr at hs
  unfold Answer.ok
  cases hst : a.status <;> simp_all

lemma passes_checked (c : Call) (who : String) :
    Passes Pending (Loads k m R) (Loads k m R) (checked .main c who : Drv h l Bool) :=
  spec_bind (loads_oci c) fun a => passes_check hp a who fun _ _ ht => ht

-- a call that changes the path when it succeeds
lemma passes_path (c : Call) (f : DirectPath → DirectPath) (who : String)
    (hf : ∀ b, R b → R' (b.setPath f)) :
    Passes Pending (Loads k m R) (Loads k m R') (do
      let a ← oci c
      if a.ok then
        setBulk (BulkLoadState.setPath f)
      check .main a who : Drv h .recover Bool) := by
  refine spec_bind (loads_oci _) fun a => spec_ite (fun _ => ?_) fun ha => ?_
  · exact spec_bind (loads_setPath f hf) fun _ => passes_check hp a _ fun _ _ ht => ht
  · exact passes_check hp a _ fun hok => absurd hok ha

-- an error is always reported
lemma fails_check (a : Answer) (who : String) (ha : a.ok = false) (P : World → Prop) :
    Spec P (check .main a who : Drv h l Bool) fun _ => Pending := by
  intro t _
  refine pending_checkerr who t hp a ?_
  unfold Answer.ok at ha
  unfold World.checkerr
  cases hs : a.status <;> simp_all

end Loads

-- the rows `first` to `first + count` of the block, as the column array holds them
def lines (cells : List (List BulkCell)) (first count : ℕ) : List (List (Option BulkCell)) :=
  (List.range' first count).map fun r => (BulkLoadState.blockRow cells r).map some

lemma lines_append (cells : List (List BulkCell)) (first m n : ℕ) :
    lines cells first m ++ lines cells (first + m) n = lines cells first (m + n) := by
  unfold lines
  rw [← List.map_append, List.range'_append_1]

namespace DirectPath

-- the rows before `row` are those of the block from `offset` on, and so are the first `col` entries
-- of `row`
def Holds (cells : List (List BulkCell)) (offset row col : ℕ) (p : DirectPath) : Prop :=
  ∀ i j c, (i < row ∨ i = row ∧ j < col) → (BulkLoadState.blockRow cells (offset + i))[j]? = some c →
    p.entries i j = some c

variable {cells : List (List BulkCell)} {offset row col : ℕ} {p : DirectPath}

lemma Holds.entry {cell : BulkCell} (hp : p.Holds cells offset row col)
    (hc : (BulkLoadState.blockRow cells (offset + row))[col]? = some cell) :
    (p.setEntry row col cell).Holds cells offset row (col + 1) := by
  intro i j c hij hj
  by_cases hi : i = row
  · subst hi
    by_cases hcol : j = col
    · subst hcol
      have hcc : cell = c := Option.some.inj (hc.symm.trans hj)
      simp only [setEntry, Function.update_self, hcc]
    · simp only [setEntry, Function.update_self, Function.update_of_ne hcol]
      exact hp i j c (by omega) hj
  · simp only [setEntry, Function.update_of_ne hi]
    exact hp i j c (by omega) hj

lemma Holds.next (hp : p.Holds cells offset row (BulkLoadState.blockRow cells (offset + row)).length) :
    p.Holds cells offset (row + 1) 0 := by
  intro i j c hij hj
  rcases Nat.lt_or_ge i row with hi | hi
  · exact hp i j c (Or.inl hi) hj
  · have hi' : i = row := by omega
    subst hi'
    exact hp i j c (Or.inr ⟨rfl, (List.getElem?_eq_some_iff.1 hj).1⟩) hj

lemma Holds.row_eq {n i : ℕ} (hp : p.Holds cells offset n 0) (hi : i < n) :
    p.row cells.length i = (BulkLoadState.blockRow cells (offset + i)).map some := by
  apply List.ext_getElem?
  intro j
  have hlen : (BulkLoadState.blockRow cells (offset + i)).length = cells.length := List.length_map _
  simp only [row, List.getElem?_map]
  rcases Nat.lt_or_ge j cells.length with hj | hj
  · have hj' : j < (BulkLoadState.blockRow cells (offset + i)).length := hlen ▸ hj
    rw [List.getElem?_range hj, List.getElem?_eq_getElem hj']
    exact congrArg some (hp i j _ (Or.inl hi) (List.getElem?_eq_getElem hj'))
  · rw [List.getElem?_eq_none (by rwa [List.length_range]), List.getElem?_eq_none (by rwa [hlen])]
    rfl

lemma Holds.rows_eq {n first count : ℕ} (hp : p.Holds cells offset n 0) (hn : first + count ≤ n) :
    p.rows cells.length first count = lines cells (offset + first) count := by
  unfold rows lines
  rw [← List.map_add_range', List.map_map]
  apply List.map_congr_left
  intro i hi
  have hlt : i < first + count := by
    rw [List.mem_range'_1] at hi
    exact hi.2
  exact hp.row_eq (by omega)

end DirectPath

namespace BulkLoadState

section Blocks

variable {h : Handler} {k m : ℕ} (cells : List (List BulkCell)) (offset : ℕ)
  (base : List (List (Option BulkCell)))

def Entered (row col : ℕ) (b : BulkLoadState) : Prop :=
  b.path.Holds cells offset row col ∧ b.path.loaded ++ b.path.stream = base

-- `n` rows are in the column array, and those before `done` are on their way
def Converting (n done : ℕ) (b : BulkLoadState) : Prop :=
  b.path.Holds cells offset n 0 ∧ b.path.loaded ++ b.path.stream = base ++ lines cells offset done

def Loaded (n done : ℕ) (b : BulkLoadState) : Prop :=
  b.path.Holds cells offset n 0 ∧ b.path.loaded = base ++ lines cells offset done

-- what the next conversion adds to
def Base (base : List (List (Option BulkCell))) (b : BulkLoadState) : Prop :=
  b.path.loaded ++ (if b.used then [] else b.path.stream) = base

variable (hp : ∀ who w, Pending (h .main who w))
include hp

lemma passes_setEntry {row col : ℕ} {cell : BulkCell}
    (hc : (blockRow cells (offset + row))[col]? = some cell) :
    Passes Pending (Loads k m (Entered cells offset base row col))
      (Loads k m (Entered cells offset base row (col + 1)))
      (setEntry .main row col cell : Drv h .recover Bool) := by
  refine passes_then (passes_checkTurn col) ?_
  exact passes_path hp _ _ _ fun _ hb => ⟨hb.1.entry hc, hb.2⟩

lemma passes_setRow (row : ℕ) :
    Passes Pending (Loads k m (Entered cells offset base row 0))
      (Loads k m (Entered cells offset base (row + 1) 0))
      (setRow .main (blockRow cells (offset + row), row) : Drv h .recover Bool) := by
  refine passes_then (passes_checkTurn row) ?_
  refine passes_weaken
    (passes_tryEach (I := fun col => Loads k m (Entered cells offset base row col)) ?_) ?_
  · intro i e hi
    rw [List.getElem?_zipIdx, Option.map_eq_some_iff, Nat.zero_add] at hi
    obtain ⟨cell, hc, rfl⟩ := hi
    exact passes_setEntry cells offset base hp hc
  · intro t ht
    rw [List.length_zipIdx] at ht
    exact ht.mono fun b hb => ⟨hb.1.next, hb.2⟩

lemma passes_setRows (n : ℕ) :
    Passes Pending (Loads k m fun b => b.path.loaded ++ b.path.stream = base)
      (Loads k m (Converting cells offset base n 0))
      (tryEach (setRow .main) ((List.range n).map fun row => (blockRow cells (offset + row), row)) :
        Drv h .recover Bool) := by
  have hrows : Passes Pending (Loads k m (Entered cells offset base 0 0))
      (Loads k m (Entered cells offset base
      ((List.range n).map fun row => (blockRow cells (offset + row), row)).length 0))
      (tryEach (setRow .main) ((List.range n).map fun row => (blockRow cells (offset + row), row)) :
        Drv h .recover Bool) := by
    refine passes_tryEach (I := fun row => Loads k m (Entered cells offset base row 0)) ?_
    intro i e he
    rw [List.getElem?_map, Option.map_eq_some_iff] at he
    obtain ⟨r, hr, rfl⟩ := he
    have hri : r = i := by
      rw [List.getElem?_eq_some_iff] at hr
      obtain ⟨hlt, hr⟩ := hr
      rw [List.getElem_range] at hr
      exact hr.symm
    subst hri
    exact passes_setRow cells offset base hp r
  refine spec_weaken (passes_weaken hrows ?_) ?_ fun _ _ ht => ht
  · intro t ht
    rw [List.length_map, List.length_range] at ht
    exact ht.mono fun b hb => ⟨hb.1, hb.2.trans (List.append_nil _).symm⟩
  · exact fun t ht => ht.mono fun b hb => ⟨fun i j c hij => absurd hij (by omega), hb⟩

omit hp in
lemma loads_width {R : BulkLoadState → Prop} :
    Spec (Loads k m R) (width : Drv h .recover ℕ) fun r t => r = k ∧ Loads k m R t := by
  refine spec_bind loads_bulk fun r => ?_
  refine spec_pure ?_
  rintro t ⟨b, rfl, hb, hk, ht⟩
  exact ⟨hk, b, hb, hk, ht⟩

omit hp in
lemma loads_capacity {R : BulkLoadState → Prop} :
    Spec (Loads k m R) (capacity : Drv h .recover ℕ) fun r t => r = m ∧ Loads k m R t := by
  refine spec_bind loads_bulk fun r => spec_pure ?_
  rintro t ⟨b, rfl, hb, hk, hm, ht⟩
  exact ⟨hm, b, hb, hk, hm, ht⟩

-- where the next conversion starts: after the rows that this one converted
def Next (n done : ℕ) (R' : ℕ → BulkLoadState → Prop) (r : Option ℕ) (t : World) : Prop :=
  (r = none → Pending t) ∧ ∀ next, r = some next → done < next ∧ next ≤ n ∧ (next < n → next < 2 ^ 32) ∧
    Loads k m (R' next) t

section Convert

variable {n done : ℕ} {R : BulkLoadState → Prop} {R' : ℕ → BulkLoadState → Prop}
  (hr : ∀ count b,
    R b → done + count ≤ n → R' (done + count) (b.setPath (DirectPath.convert k done count)))

omit hp in
lemma next_none :
    Spec Pending (pure none : Drv h .recover (Option ℕ)) (Next n done R' (k := k) (m := m)) :=
  spec_pure fun _ ht => ⟨fun _ => ht, nofun⟩

include hr in
omit hp in
lemma loads_convert (count : ℕ) :
    Spec (Loads k m R) (setBulk (setPath (DirectPath.convert k done count)) : Drv h .recover Unit)
      fun _ => Loads k m fun b => done + count ≤ n → R' (done + count) b :=
  loads_setPath _ fun b hb => hr count b hb

include hr in
lemma spec_convert (hn : done < n) (hd : done < 2 ^ 32) :
    Spec (Loads k m R)
    (convert .main n done : Drv h .recover (Option ℕ)) (Next n done R' (k := k) (m := m)) := by
  unfold convert
  refine spec_bind passes_checkCancel fun c => spec_ite (fun hc => ?_) fun hc => ?_
  · exact spec_weaken next_none (fun t ht => ht.1 hc) fun _ _ ht => ht
  refine spec_bind (Q := fun _ => Loads k m R) ?_ fun a => ?_
  · exact fun t ht => loads_oci _ t (ht.2 (eq_false_of_ne_true hc))
  have whole : Spec (Loads k m R)
      (do setBulk (setPath (DirectPath.convert (← width) done
        (n - done))); return some n : Drv h .recover (Option ℕ))
      (Next n done R' (k := k) (m := m)) := by
    refine spec_bind_eq loads_width ?_
    refine spec_bind (loads_convert hr (n - done)) fun _ => spec_pure fun t ht => ⟨nofun, ?_⟩
    rintro next ⟨⟩
    have hsum : done + (n - done) = n := Nat.add_sub_of_le hn.le
    rw [hsum] at ht
    exact ⟨hn, Nat.le_refl _, fun hlt => absurd hlt (Nat.lt_irrefl _),
      ht.mono fun b hb => hb (Nat.le_refl _)⟩
  have bad (e : Exn) : Spec (Loads k m R) (do raise .main e; return none : Drv h .recover (Option ℕ))
      (Next n done R' (k := k) (m := m)) :=
    spec_bind (spec_raise e _) fun _ => next_none
  cases hs : a.status with
  | success => exact whole
  | successWithInfo => exact whole
  | continues =>
    refine spec_bind_eq loads_width ?_
    refine spec_bind (loads_convert hr (a.count % 2 ^ 32)) fun _ => ?_
    refine spec_bind (passes_checked hp _ _) fun c => spec_ite (fun hc => ?_) fun hc => ?_
    · exact spec_weaken next_none (fun t ht => ht.1 hc) fun _ _ ht => ht
    refine spec_ite (fun _ => spec_bind (spec_raise _ _) fun _ => next_none) fun hnext => ?_
    refine spec_pure fun t ht => ⟨nofun, ?_⟩
    rintro next ⟨⟩
    -- a sum that wrapped would be less than `done`
    have hsum : (done + a.count % 2 ^ 32) % 2 ^ 32 = done + a.count % 2 ^ 32 := by omega
    rw [hsum] at hnext ⊢
    exact ⟨by omega, by omega, fun _ => by omega,
      (ht.2 (eq_false_of_ne_true hc)).mono fun b hb => hb (by omega)⟩
  | error => exact spec_bind (fails_check hp a _ (by rw [Answer.ok, hs]; rfl) _) fun _ => next_none
  | _ => exact bad _

end Convert

omit hp in
lemma Converting.convert {n done count : ℕ} {b : BulkLoadState}
    (hb : Converting cells offset base n done b)
    (hn : done + count ≤ n) :
    Converting cells offset base n (done + count)
      (b.setPath (DirectPath.convert cells.length done count)) := by
  refine ⟨hb.1, ?_⟩
  show b.path.loaded ++ (b.path.stream ++ b.path.rows cells.length done count) = _
  rw [hb.1.rows_eq hn, ← List.append_assoc, hb.2, List.append_assoc, lines_append]

lemma passes_loadStream (n done : ℕ) :
    Passes Pending (Loads k m (Converting cells offset base n done))
      (Loads k m (Loaded cells offset base n done))
      (loadStream .main : Drv h .recover Bool) := by
  refine passes_then passes_checkCancel ?_
  refine spec_bind (loads_oci _) fun a => ?_
  have load : Passes Pending (Loads k m (Converting cells offset base n done))
      (Loads k m (Loaded cells offset base n done))
      (do setBulk (setPath DirectPath.load); return false : Drv h .recover Bool) := by
    refine spec_bind (loads_setPath _ fun b hb => ?_) fun _ => passes_pure fun _ ht => ht
    exact ⟨hb.1, hb.2⟩
  cases hs : a.status with
  | success => exact load
  | successWithInfo => exact load
  | error =>
    exact spec_bind (fails_check hp a _ (by rw [Answer.ok, hs]; rfl) _) fun _ =>
      passes_true fun _ ht => ht
  | _ => exact spec_bind (spec_raise _ _) fun _ => passes_true fun _ ht => ht

lemma passes_streamReset (who : String) (n done : ℕ) :
    Passes Pending (Loads k m (Loaded cells offset base n done))
      (Loads k m (Converting cells offset base n done))
      (streamReset .main who : Drv h .recover Bool) :=
  passes_path hp _ _ _ fun _ hb => ⟨hb.1, (List.append_nil _).trans hb.2⟩

-- each turn converts rows
lemma passes_convertRows (hk : cells.length = k) (n turns done : ℕ) (hn : done ≤ n)
    (ht : n ≤ done + turns)
    (hd : done < n → done < 2 ^ 32) :
    Passes Pending
      (Loads k m fun b => (done < n → Converting cells offset base n done b) ∧
        (done = n → Loaded cells offset base n n b))
      (Loads k m (Loaded cells offset base n n))
      (convertRows .main n turns done : Drv h .recover Bool) := by
  induction turns generalizing done with
  | zero =>
    have hdone : done = n := by omega
    subst hdone
    unfold convertRows
    rw [if_neg (Nat.lt_irrefl done)]
    exact passes_pure fun t ht => ht.mono fun b hb => hb.2 rfl
  | succ turns ih =>
    unfold convertRows
    refine spec_ite (fun hle => passes_pure fun t ht => ht.mono fun b hb => hb.2 (by omega))
      fun hlt => ?_
    have hlt' : done < n := by omega
    refine spec_bind (Q := Next n done (Converting cells offset base n) (k := k) (m := m)) ?_ fun r => ?_
    · subst hk
      refine spec_weaken
        (spec_convert hp (fun _ _ hb => Converting.convert cells offset base hb) hlt' (hd hlt')) ?_
        fun _ _ ht => ht
      exact fun t ht => ht.mono fun b hb => hb.1 hlt'
    cases r with
    | none => exact passes_true fun t ht => ht.1 rfl
    | some next =>
      rintro t ⟨-, ht'⟩
      obtain ⟨hdn, hnn, hw, hload⟩ := ht' next rfl
      refine passes_then (passes_loadStream cells offset base hp n next) ?_ t hload
      by_cases hnext : next < n
      · rw [if_pos hnext]
        refine passes_then (passes_streamReset cells offset base hp _ n next) ?_
        refine spec_weaken (ih next hnn (by omega) hw) ?_ fun _ _ ht => ht
        exact fun t ht => ht.mono fun b hb => ⟨fun _ => hb, fun heq => absurd heq hnext.ne⟩
      · rw [if_neg hnext]
        have heq : next = n := by omega
        subst heq
        refine spec_weaken (ih next hnn (by omega) hw) ?_ fun _ _ ht => ht
        exact fun t ht => ht.mono fun b hb => ⟨fun hlt => absurd hlt hnext, fun _ => hb⟩

lemma passes_resetHandles :
    Passes Pending (Loads k m fun b => b.path.loaded = base)
      (Loads k m fun b => b.path.loaded ++ b.path.stream = base)
      (resetHandles .main : Drv h .recover Bool) := by
  have array : Passes Pending (Loads k m fun b => b.path.loaded = base)
      (Loads k m fun b => b.path.loaded = base)
      (colArrayReset .main : Drv h .recover Bool) := passes_path hp _ _ _ fun _ hb => hb
  exact passes_then array (passes_path hp _ _ _ fun _ hb => (List.append_nil _).trans hb)

lemma passes_loadChunk (hk : cells.length = k) (n : ℕ) (hn : 0 < n) :
    Passes Pending (Loads k m (Base base))
      (Loads k m fun b => b.used = true ∧ b.path.loaded = base ++ lines cells offset n)
      (loadChunk .main cells offset n : Drv h .recover Bool) := by
  have rest : Passes Pending (Loads k m fun b => b.path.loaded ++ b.path.stream = base)
      (Loads k m fun b => b.used = true ∧ b.path.loaded = base ++ lines cells offset n) (do
        if ← tryEach (setRow .main) ((List.range n).map fun row =>
            (blockRow cells (offset + row), row)) then
          return true
        if ← convertRows .main n n 0 then
          return true
        setBulk setUsed
        return false : Drv h .recover Bool) := by
    refine passes_then (passes_setRows cells offset base hp n) ?_
    have conversions : Passes Pending (Loads k m (Converting cells offset base n 0))
        (Loads k m (Loaded cells offset base n n))
        (convertRows .main n n 0 : Drv h .recover Bool) := by
      refine spec_weaken (passes_convertRows cells offset base hp hk n n 0 hn.le (Nat.zero_add n).ge
        fun _ => Nat.two_pow_pos 32) ?_ fun _ _ ht => ht
      exact fun t ht => ht.mono fun b hb => ⟨fun _ => hb, fun heq => absurd heq hn.ne⟩
    refine passes_then conversions ?_
    refine spec_bind (loads_setBulk setUsed (fun _ => rfl) (fun _ => rfl) ?_) fun _ =>
      passes_pure fun _ ht => ht
    exact fun b hb => ⟨rfl, hb.2⟩
  unfold loadChunk
  refine spec_bind loads_bulk fun r => ?_
  rintro t ⟨b, rfl, hb, hbk, hbm, hbase⟩
  by_cases hu : b.used = true
  · have ht : Loads k m (fun b => b.path.loaded = base) t :=
      ⟨b, hb, hbk, hbm, by rwa [Base, hu, if_pos rfl, List.append_nil] at hbase⟩
    rw [Option.elim_some, if_pos hu]
    exact passes_then (passes_resetHandles base hp) rest t ht
  · have ht : Loads k m (fun b => b.path.loaded ++ b.path.stream = base) t :=
      ⟨b, hb, hbk, hbm, by rwa [Base, if_neg hu] at hbase⟩
    rw [Option.elim_some, if_neg hu]
    exact rest t ht

-- the rows before `done` are loaded
def Fed (done : ℕ) (b : BulkLoadState) : Prop :=
  Base (base ++ lines cells 0 done) b ∧ (0 < done → b.used = true)

lemma passes_loadChunks (hk : cells.length = k) (hm : 0 < m) (count turns done : ℕ) (hn : done ≤ count)
    (ht : count ≤ done + turns) :
    Passes Pending (Loads k m (Fed cells base done)) (Loads k m (Fed cells base count))
      (loadChunks .main cells count turns done : Drv h .recover Bool) := by
  induction turns generalizing done with
  | zero =>
    have hdone : done = count := by omega
    subst hdone
    unfold loadChunks
    rw [if_neg (Nat.lt_irrefl done)]
    exact passes_pure fun _ ht => ht
  | succ turns ih =>
    unfold loadChunks
    refine spec_ite (fun hle => passes_pure fun t ht => ?_) fun hlt => ?_
    · have hdone : done = count := by omega
      rwa [← hdone]
    refine spec_bind_eq loads_capacity ?_
    have hpos : 0 < min m (count - done) := by omega
    have hchunk : Passes Pending (Loads k m (Fed cells base done)) (Loads k m fun b => b.used = true ∧
        b.path.loaded = base ++ lines cells 0 done ++ lines cells done (min m (count - done)))
        (loadChunk .main cells done (min m (count - done)) : Drv h .recover Bool) :=
      spec_weaken (passes_loadChunk cells done _ hp hk _ hpos)
        (fun t ht => ht.mono fun b hb => hb.1) fun _ _ ht => ht
    refine spec_bind hchunk fun c => spec_ite (fun hc => ?_) fun hc => ?_
    · refine spec_weaken (fails_failRows none (fun t => Pending t) fun _ _ ht => ht)
        (fun t ht => ht.1 hc) ?_
      rintro c t ⟨rfl, ht⟩
      exact ⟨fun _ => ht, nofun⟩
    · refine spec_weaken (ih (done + min m (count - done)) (by omega) (by omega)) ?_ fun _ _ ht => ht
      intro t ht
      refine (ht.2 (eq_false_of_ne_true hc)).mono fun b hb => ⟨?_, fun _ => hb.1⟩
      have hl := lines_append cells 0 done (min m (count - done))
      rw [Nat.zero_add] at hl
      rw [Base, hb.1, if_pos rfl, List.append_nil, hb.2, List.append_assoc, hl]

-- more turns than rows change nothing: every turn converts a row, or the loop ends

omit hp in
lemma convert_progress {n done : ℕ} (hn : done < n) :
    Spec (fun _ => True) (convert .main n done : Drv h .recover (Option ℕ))
      fun r _ => ∀ next, r = some next → done < next := by
  have none : Spec (fun _ => True) (pure none : Drv h .recover (Option ℕ)) fun r _ =>
    ∀ next, r = some next → done < next :=
    spec_pure fun _ _ => nofun
  unfold convert
  refine spec_bind (spec_any _ _) fun c => spec_ite (fun _ => none) fun _ =>
    spec_bind (spec_any _ _) fun a => ?_
  have whole : Spec (fun _ => True)
      (do setBulk (setPath (DirectPath.convert (← width) done
        (n - done))); return some n : Drv h .recover (Option ℕ))
      fun r _ => ∀ next, r = some next → done < next := by
    refine spec_bind (spec_any _ _) fun _ => spec_bind (spec_any _ _) fun _ => spec_pure fun _ _ => ?_
    rintro next ⟨⟩
    exact hn
  cases a.status with
  | success => exact whole
  | successWithInfo => exact whole
  | continues =>
    refine spec_bind (spec_any _ _) fun _ => spec_bind (spec_any _ _) fun _ =>
      spec_bind (spec_any _ _) fun c => ?_
    refine spec_ite (fun _ => none) fun _ =>
      spec_ite (fun _ => spec_bind (spec_any _ _) fun _ => none) fun hnext => ?_
    refine spec_pure fun _ _ => ?_
    rintro next ⟨⟩
    omega
  | _ => exact spec_bind (spec_any _ _) fun _ => none

omit hp in
lemma convertRows_turns (n extra turns done : ℕ) (ht : n ≤ done + turns) (w : World) :
    (convertRows .main n (turns + extra) done : Drv h .recover Bool).run w =
      (convertRows .main n turns done : Drv h .recover Bool).run w := by
  induction turns generalizing done w with
  | zero =>
    cases extra with
    | zero => rfl
    | succ e =>
      rw [Nat.zero_add]
      unfold convertRows
      rw [if_pos (by omega), if_neg (by omega)]
  | succ turns ih =>
    rw [Nat.succ_add]
    unfold convertRows
    by_cases hle : n ≤ done
    · rw [if_pos hle, if_pos hle]
    rw [if_neg hle, if_neg hle, run_bind, run_bind]
    have hnext := convert_progress (h := h) (not_le.1 hle) w trivial
    cases hr : ((convert .main n done : Drv h .recover (Option ℕ)).run w).1 with
    | none => rfl
    | some next =>
      have hlt := hnext next hr
      simp only [run_bind, run_ite, ih next (by omega)]

lemma loadChunks_turns (hk : cells.length = k) (hm : 0 < m) (count extra turns done : ℕ)
    (ht : count ≤ done + turns) (w : World)
    (hw : Loads k m (fun _ => True) w) :
    (loadChunks .main cells count (turns + extra) done : Drv h .recover Bool).run w =
      (loadChunks .main cells count turns done : Drv h .recover Bool).run w := by
  induction turns generalizing done w with
  | zero =>
    cases extra with
    | zero => rfl
    | succ e =>
      rw [Nat.zero_add]
      unfold loadChunks
      rw [if_pos (by omega), if_neg (by omega)]
  | succ turns ih =>
    rw [Nat.succ_add]
    unfold loadChunks
    by_cases hle : count ≤ done
    · rw [if_pos hle, if_pos hle]
    obtain ⟨hcap, b, hb, hbk, hbm, -⟩ := loads_capacity (h := h) w hw
    simp only [if_neg hle, run_bind, run_ite, hcap]
    have hchunk :=
      passes_loadChunk cells done _ hp hk (min m (count - done)) (by omega) _ ⟨b, hb, hbk, hbm, rfl⟩
    cases hu : ((loadChunk .main cells done (min m (count - done)) : Drv h .recover Bool).run
        ((capacity : Drv h .recover ℕ).run w).2).1 with
    | true => rfl
    | false =>
      exact ih (done + min m (count - done)) (by omega) _ ((hchunk.2 hu).mono fun _ _ => trivial)

end Blocks

section Accepted

variable {h : Handler} {k m : ℕ} {R : BulkLoadState → Prop} (c : Setting)
  (rows : List (Text × QoreValue))

-- a column has a value, and a list has an element for each of the `count` rows
def Fits (count : Option ℕ) (column : BulkColumn) (v : QoreValue) : Prop :=
  rows.lookup column.keyText = some v ∧ ∀ l, v = .list l → count = some l.length

-- what the check of the columns returns: the number of rows is known before it, or taken from a list
structure Checked (columns : List BulkColumn) (count : Option ℕ) (r : List QoreValue × Option ℕ) :
    Prop where
  values : List.Forall₂ (Fits rows r.2) columns r.1
  known : ∀ n, count = some n → r.2 = some n
  counted : r.2 = count ∨ ∃ column ∈ columns, ∃ l, rows.lookup column.keyText = some (.list l)

variable {rows}

lemma blockColumn_ok {column : BulkColumn} {count count' : Option ℕ} {v : QoreValue}
    (hb : blockColumn rows column count = .ok (v, count')) :
    Fits rows count' column v ∧ (∀ n, count = some n → count' = some n) ∧
      (count' = count ∨ ∃ l, v = .list l) := by
  unfold blockColumn at hb
  split at hb
  · exact absurd hb nofun
  · rename_i l hl
    split at hb
    · obtain ⟨rfl, rfl⟩ := Prod.ext_iff.1 (Except.ok.inj hb)
      refine ⟨⟨hl, ?_⟩, nofun, Or.inr ⟨l, rfl⟩⟩
      rintro l' ⟨⟩
      rfl
    · split at hb
      · rename_i n hn
        obtain ⟨rfl, rfl⟩ := Prod.ext_iff.1 (Except.ok.inj hb)
        refine ⟨⟨hl, ?_⟩, fun _ h => h, Or.inl rfl⟩
        rintro l' ⟨⟩
        rw [hn]
      · exact absurd hb nofun
  · rename_i u hv hu
    obtain ⟨rfl, rfl⟩ := Prod.ext_iff.1 (Except.ok.inj hb)
    exact ⟨⟨hu, fun l hl => absurd hl (hv l)⟩, fun _ h => h, Or.inl rfl⟩

lemma Fits.known {count count' : Option ℕ} {column : BulkColumn} {v : QoreValue}
    (hf : Fits rows count column v)
    (hk : ∀ n, count = some n → count' = some n) : Fits rows count' column v :=
  ⟨hf.1, fun l hl => hk _ (hf.2 l hl)⟩

lemma Checked.cons {column : BulkColumn} {columns : List BulkColumn} {count count' : Option ℕ}
    {v : QoreValue}
    {r : List QoreValue × Option ℕ} (hb : blockColumn rows column count = .ok (v, count'))
    (hr : Checked rows columns count' r) : Checked rows (column :: columns) count (v :: r.1, r.2) := by
  obtain ⟨hfits, hknown, hcount⟩ := blockColumn_ok hb
  refine ⟨.cons (hfits.known hr.known) hr.values, fun n hn => hr.known n (hknown n hn), ?_⟩
  rcases hcount with rfl | ⟨l, rfl⟩
  · rcases hr.counted with h | ⟨d, hd, h⟩
    · exact Or.inl h
    · exact Or.inr ⟨d, List.mem_cons_of_mem _ hd, h⟩
  · exact Or.inr ⟨column, List.mem_cons_self, l, hfits.1⟩

variable (rows)

lemma spec_validate (columns : List (BulkColumn × ℕ)) (count : Option ℕ) :
    Spec (Loads k m R) (validate .main rows columns count : Drv h .recover _) fun r t =>
      (r = none → Pending t) ∧ ∀ v, r = some v → Checked rows (columns.map Prod.fst) count v ∧
        Loads k m R t := by
  induction columns generalizing count with
  | nil =>
    refine spec_pure fun t ht => ⟨nofun, ?_⟩
    rintro v ⟨⟩
    exact ⟨⟨.nil, fun _ hn => hn, Or.inl rfl⟩, ht⟩
  | cons e columns ih =>
    obtain ⟨column, i⟩ := e
    unfold validate
    refine spec_bind (passes_checkTurn i) fun b => spec_ite (fun hb => ?_) fun hb => ?_
    · refine spec_bind (spec_weaken (fails_failRows none Pending fun _ _ ht => ht) (fun t ht => ht.1 hb)
        fun _ _ ht => ht) fun _ => spec_pure fun t ht => ⟨fun _ => ht.2, nofun⟩
    cases hcol : blockColumn rows column count with
    | error e =>
      refine spec_bind (fails_failRows (some e) _ nofun) fun _ => spec_pure fun t ht =>
        ⟨fun _ => ht.2, nofun⟩
    | ok r =>
      obtain ⟨v, count'⟩ := r
      refine spec_bind (spec_weaken (ih count') (fun t ht =>
        ht.2 (eq_false_of_ne_true hb)) fun _ _ ht => ht) fun r => ?_
      cases r with
      | none => exact spec_pure fun t ht => ⟨fun _ => ht.1 rfl, nofun⟩
      | some r =>
        refine spec_pure fun t ht => ⟨nofun, ?_⟩
        rintro u ⟨⟩
        obtain ⟨hr, hl⟩ := ht.2 r rfl
        exact ⟨hr.cons hcol, hl⟩

-- the cells of a column hold its values
def Cells (count : ℕ) (e : (BulkColumn × QoreValue) × ℕ) (cells : List BulkCell) : Prop :=
  List.Forall₂ (fun r cell => serializeCell c e.1.1 (rowValue e.1.2 r) = .ok cell)
    (List.range' 0 count) cells

lemma spec_serializeRows (column : BulkColumn) (v : QoreValue) (n row payload : ℕ) :
    Spec (Loads k m R) (serializeRows .main c column v n row payload : Drv h .recover _) fun r t =>
      (r = none → Pending t) ∧ ∀ u, r = some u →
        List.Forall₂ (fun r cell => serializeCell c column (rowValue v r) = .ok cell)
          (List.range' row n) u.1 ∧
          Loads k m R t := by
  induction n generalizing row payload with
  | zero =>
    refine spec_pure fun t ht => ⟨nofun, ?_⟩
    rintro u ⟨⟩
    exact ⟨.nil, ht⟩
  | succ n ih =>
    unfold serializeRows
    refine spec_bind (passes_checkTurn row) fun b => spec_ite (fun hb => ?_) fun hb => ?_
    · exact spec_bind (spec_weaken (fails_failRows none Pending fun _ _ ht => ht) (fun t ht => ht.1 hb)
        fun _ _ ht => ht) fun _ => spec_pure fun t ht => ⟨fun _ => ht.2, nofun⟩
    cases hcell : serializeCell c column (rowValue v row) with
    | error e => exact spec_bind (fails_failRows (some e) _ nofun) fun _ => spec_pure fun t ht =>
        ⟨fun _ => ht.2, nofun⟩
    | ok cell =>
      refine spec_ite (fun _ => ?_) fun _ => ?_
      · exact spec_bind (fails_failRows (some payloadTooLarge) _ nofun) fun _ =>
          spec_pure fun t ht => ⟨fun _ => ht.2, nofun⟩
      refine spec_bind
        (spec_weaken (ih (row + 1) _) (fun t ht => ht.2 (eq_false_of_ne_true hb)) fun _ _ ht => ht)
        fun r => ?_
      cases r with
      | none => exact spec_pure fun t ht => ⟨fun _ => ht.1 rfl, nofun⟩
      | some r =>
        refine spec_pure fun t ht => ⟨nofun, ?_⟩
        rintro u ⟨⟩
        obtain ⟨hr, hl⟩ := ht.2 r rfl
        exact ⟨.cons hcell hr, hl⟩

lemma spec_serializeColumns (count : ℕ) (columns : List ((BulkColumn × QoreValue) × ℕ)) (payload : ℕ) :
    Spec (Loads k m R) (serializeColumns .main c count columns payload : Drv h .recover _) fun r t =>
      (r = none → Pending t) ∧ ∀ u, r = some u → List.Forall₂ (Cells c count) columns u.1 ∧
        Loads k m R t := by
  induction columns generalizing payload with
  | nil =>
    refine spec_pure fun t ht => ⟨nofun, ?_⟩
    rintro u ⟨⟩
    exact ⟨.nil, ht⟩
  | cons e columns ih =>
    obtain ⟨⟨column, v⟩, i⟩ := e
    unfold serializeColumns
    refine spec_bind (passes_checkTurn i) fun b => spec_ite (fun hb => ?_) fun hb => ?_
    · exact spec_bind (spec_weaken (fails_failRows none Pending fun _ _ ht => ht) (fun t ht => ht.1 hb)
        fun _ _ ht => ht) fun _ => spec_pure fun t ht => ⟨fun _ => ht.2, nofun⟩
    refine spec_bind (spec_weaken (spec_serializeRows c column v count 0 payload)
      (fun t ht => ht.2 (eq_false_of_ne_true hb)) fun _ _ ht => ht) fun r => ?_
    cases r with
    | none => exact spec_pure fun t ht => ⟨fun _ => ht.1 rfl, nofun⟩
    | some r =>
      obtain ⟨cells, payload'⟩ := r
      rintro t ⟨-, ht⟩
      obtain ⟨hcells, hl⟩ := ht _ rfl
      refine spec_bind (S := fun (r : Option (List (List BulkCell) × ℕ)) t =>
        (r = none → Pending t) ∧ ∀ u, r = some u →
        List.Forall₂ (Cells c count) (((column, v), i) :: columns) u.1 ∧
          Loads k m R t) (ih payload') (fun r => ?_) t hl
      cases r with
      | none => exact spec_pure fun t ht => ⟨fun _ => ht.1 rfl, nofun⟩
      | some r =>
        refine spec_pure fun t ht => ⟨nofun, ?_⟩
        rintro u ⟨⟩
        obtain ⟨hr, hl⟩ := ht.2 r rfl
        exact ⟨.cons hcells hr, hl⟩

-- the block of rows that the values of the columns stand for
structure Accepts (columns : List BulkColumn) (block : List (List BulkCell)) : Prop where
  width : rows.length = columns.length
  values : ∀ column ∈ columns, ∃ v, rows.lookup column.keyText = some v ∧ ∀ l, v = .list l →
    l.length = block.length
  single : (∀ column ∈ columns, ∀ l, rows.lookup column.keyText ≠ some (.list l)) → block.length = 1
  cells : ∀ r row, block[r]? = some row → List.Forall₂ (fun column cell =>
    ∃ v, rows.lookup column.keyText = some v ∧
      serializeCell c column (rowValue v r) = .ok cell) columns row

variable {c rows}

lemma forall₂_zipIdx {α β γ : Type} {A : α → β → Prop} {C : (α × β) × ℕ → γ → Prop} {D : α → γ → Prop}
    (hd : ∀ a b i x, A a b → C ((a, b), i) x → D a x) {as : List α} {bs : List β} {cs : List γ}
    (hab : List.Forall₂ A as bs)
    (i : ℕ) (hc : List.Forall₂ C ((as.zip bs).zipIdx i) cs) : List.Forall₂ D as cs := by
  induction hab generalizing i cs with
  | nil =>
    cases hc
    exact .nil
  | cons h _ ih =>
    cases hc with
    | cons hx hxs => exact .cons (hd _ _ i _ h hx) (ih (i + 1) hxs)

lemma exists_of_forall₂ {α β : Type} {A : α → β → Prop} {as : List α} {bs : List β}
    (h : List.Forall₂ A as bs) {a : α}
    (ha : a ∈ as) : ∃ b, A a b := by
  induction h with
  | nil => exact absurd ha List.not_mem_nil
  | cons hab _ ih =>
    rcases List.mem_cons.1 ha with rfl | ha
    · exact ⟨_, hab⟩
    · exact ih ha

lemma cells_getD {column : BulkColumn} {v : QoreValue} {count i : ℕ} {l : List BulkCell}
    (h : Cells c count ((column, v), i) l) {r : ℕ} (hr : r < count) :
    serializeCell c column (rowValue v r) = .ok (l.getD r ⟨[], true⟩) := by
  have hlen : l.length = count := h.length_eq.symm.trans List.length_range'
  have hget := h.get (i := r) (by rwa [List.length_range']) (by rwa [hlen])
  rw [List.get_eq_getElem, List.get_eq_getElem, List.getElem_range'_1, Nat.zero_add] at hget
  rw [hget, List.getD_eq_getElem?_getD, List.getElem?_eq_getElem (by rwa [hlen])]
  rfl

lemma accepts_block {columns : List BulkColumn} {r : List QoreValue × Option ℕ}
    {cells : List (List BulkCell)}
    (hw : rows.length = columns.length) (hr : Checked rows columns none r)
    (hc : List.Forall₂ (Cells c (r.2.getD 1)) (columns.zip r.1).zipIdx cells) :
    Accepts c rows columns ((List.range (r.2.getD 1)).map (blockRow cells)) where
  width := hw
  values column hcol := by
    obtain ⟨v, hv, hl⟩ := exists_of_forall₂ hr.values hcol
    refine ⟨v, hv, fun l hlist => ?_⟩
    rw [List.length_map, List.length_range, hl l hlist]
    rfl
  single hno := by
    rcases hr.counted with h | ⟨column, hcol, l, hl⟩
    · rw [List.length_map, List.length_range, h]
      rfl
    · exact absurd hl (hno column hcol l)
  cells i row hi := by
    rw [List.getElem?_map, Option.map_eq_some_iff] at hi
    obtain ⟨j, hj, rfl⟩ := hi
    obtain ⟨hlt, hj⟩ := List.getElem?_eq_some_iff.1 hj
    rw [List.length_range] at hlt
    rw [List.getElem_range] at hj
    subst hj
    unfold blockRow
    rw [List.forall₂_map_right_iff]
    refine forall₂_zipIdx ?_ hr.values 0 hc
    exact fun column v k l hfit hcells => ⟨v, hfit.1, cells_getD hcells hlt⟩

end Accepted

section Block

variable {h : Handler} {k m : ℕ} {R : BulkLoadState → Prop} (c : Setting)

lemma loads_stream (e : StreamEvent) :
    Spec (Loads k m R) (Drv.load (.stream e) rfl rfl : Drv h .recover Unit) fun _ => Loads k m R :=
  fun _ ht => ht

lemma passes_addBytes (hr : ∀ f b, R b → R (b.setStream f)) (bytes : ℕ) :
    Passes Pending (Loads k m R) (Loads k m R)
    (BulkStream.addBytes .main bytes : Drv h .recover Bool) := by
  have keeps (f : BulkStream → BulkStream) :
      Spec (Loads k m R) (setBulk (·.setStream f) : Drv h .recover Unit) fun _ => Loads k m R :=
    loads_setBulk _ (fun _ => rfl) (fun _ => rfl) (hr f)
  have fails (e : Exn) : Passes Pending (Loads k m R) (Loads k m R)
      (failRows .main (some e) : Drv h .recover Bool) := by
    refine spec_weaken (fails_failRows (some e) _ nofun) (fun _ ht => ht) ?_
    rintro b t ⟨rfl, ht⟩
    exact ⟨fun _ => ht, nofun⟩
  unfold BulkStream.addBytes
  refine spec_bind (Q := fun _ => Loads k m R) ?_ fun r => ?_
  · exact fun t ht => loads_touch (h := h) (l := .recover) t ht
  cases r with
  | none => exact passes_pure fun _ ht => ht
  | some b =>
    refine spec_ite (fun _ => passes_pure fun _ ht => ht) fun _ => spec_ite (fun _ => ?_) fun _ => ?_
    · exact spec_bind (loads_stream _) fun _ => fails _
    refine spec_bind (keeps _) fun _ => spec_ite (fun _ => passes_pure fun _ ht => ht) fun _ => ?_
    refine spec_bind (keeps _) fun _ => ?_
    unfold BulkStream.reportProgress
    refine spec_bind (loads_stream _) fun _ => ?_
    exact spec_bind (loads_oci _) fun a => spec_ite (fun _ => fails _) fun _ =>
      passes_pure fun _ ht => ht

-- what the first chunk of a block finds in the stream: the handles are not reset before `used` is set
def leftover (b : BulkLoadState) (block : List (List BulkCell)) : List (List (Option BulkCell)) :=
  if b.used = true ∨ block = [] then [] else b.path.stream

def Streams (b₀ : BulkLoadState) (block : List (List BulkCell)) (b : BulkLoadState) : Prop :=
  b.path.loaded = b₀.path.loaded ++ leftover b₀ block ++ block.map (·.map some)

lemma lines_eq (cells : List (List BulkCell)) (n : ℕ) :
    lines cells 0 n = ((List.range n).map (blockRow cells)).map (·.map some) := by
  unfold lines
  rw [List.range_eq_range', List.map_map]
  rfl

lemma fed_start (cells : List (List BulkCell)) (b : BulkLoadState) {block : List (List BulkCell)}
    (hb : block ≠ []) :
    Fed cells (b.path.loaded ++ leftover b block) 0 b := by
  refine ⟨?_, nofun⟩
  have hl : leftover b block = if b.used then [] else b.path.stream := by
    simp only [leftover, hb, or_false]
  rw [Base, hl]
  exact (List.append_nil _).symm

lemma Fed.loaded {cells : List (List BulkCell)} {base : List (List (Option BulkCell))} {n : ℕ}
    {b : BulkLoadState}
    (hb : Fed cells base n b) (hn : 0 < n) : b.path.loaded = base ++ lines cells 0 n := by
  have hl := hb.1
  rwa [Base, hb.2 hn, if_pos rfl, List.append_nil] at hl

variable (hp : ∀ who w, Pending (h .main who w)) (hf : ∀ x who w, Frame w (h x who w))
include hp hf

-- the load as it was, with the settings
def Starts (c : Setting) (k m : ℕ) (b₀ : BulkLoadState) (t : World) : Prop :=
  t.setting = c ∧ Loads k m (· = b₀) t

omit hf in
lemma passes_loadBlock {rows : List (Text × QoreValue)} {columns : List BulkColumn}
    {b₀ : BulkLoadState} (hm : 0 < m) (hk : columns.length = k)
    (hw : rows.length = columns.length) {r : List QoreValue × Option ℕ}
    (hr : Checked rows columns none r)
    (hpos : r.2.getD 1 ≠ 0) :
    Spec (Starts c k m b₀) (loadBlock .main columns r.1 (r.2.getD 1) : Drv h .recover Bool) fun b t =>
      (b = true → Pending t) ∧
        (b = false → ∃ block, Accepts c rows columns block ∧ Loads k m (Streams b₀ block) t) := by
  unfold loadBlock
  refine spec_bind_eq (fun t ht => ht) ?_
  refine spec_bind (spec_serializeColumns c (r.2.getD 1) _ 0) fun u => ?_
  cases u with
  | none => exact spec_pure fun t ht => ⟨fun _ => ht.1 rfl, nofun⟩
  | some u =>
    obtain ⟨cells, payload⟩ := u
    rintro t ⟨-, ht⟩
    obtain ⟨hcells, hl⟩ := ht _ rfl
    have hlen : cells.length = k := by
      rw [← hcells.length_eq, List.length_zipIdx, List.length_zip, ← hr.values.length_eq,
        Nat.min_self, hk]
    let block := (List.range (r.2.getD 1)).map (blockRow cells)
    let base := b₀.path.loaded ++ leftover b₀ block
    have hblock : block ≠ [] := by
      intro hb
      have hz := congrArg List.length hb
      rw [List.length_map, List.length_range] at hz
      exact hpos hz
    have chunks : Passes Pending (Loads k m (· = b₀)) (Loads k m (Fed cells base (r.2.getD 1)))
        (loadChunks .main cells (r.2.getD 1) (r.2.getD 1) 0 : Drv h .recover Bool) := by
      refine spec_weaken
        (passes_loadChunks cells base hp hlen hm _ _ 0 (Nat.zero_le _) (Nat.zero_add _).ge) ?_
        fun _ _ ht => ht
      exact fun t ht => ht.mono fun b hb => hb ▸ fed_start cells b hblock
    have bytes : Passes Pending (Loads k m (Streams b₀ block)) (Loads k m (Streams b₀ block))
        (BulkStream.addBytes .main payload : Drv h .recover Bool) :=
          passes_addBytes (fun _ _ hb => hb) payload
    have both : Passes Pending (Loads k m (· = b₀)) (Loads k m (Streams b₀ block)) (do
        if ← loadChunks .main cells (r.2.getD 1) (r.2.getD 1) 0 then
          return true
        Drv.load (.stream (.loaded (blockBytes c cells))) rfl rfl
        BulkStream.addBytes .main payload : Drv h .recover Bool) := by
      refine passes_then (passes_weaken chunks ?_) (spec_bind (loads_stream _) fun _ => bytes)
      refine fun t ht => ht.mono fun b hb => ?_
      rw [Streams, hb.loaded (Nat.pos_of_ne_zero hpos), lines_eq]
    obtain ⟨h₁, h₂⟩ := both t hl
    exact ⟨h₁, fun hb => ⟨block, accepts_block hw hr hcells, h₂ hb⟩⟩

omit hp hf in
lemma accepts_nil {rows : List (Text × QoreValue)} {columns : List BulkColumn}
    (hw : rows.length = columns.length)
    {r : List QoreValue × Option ℕ} (hr : Checked rows columns none r) (hz : r.2.getD 1 = 0) :
    Accepts c rows columns [] where
  width := hw
  values column hcol := by
    obtain ⟨v, hv, hl⟩ := exists_of_forall₂ hr.values hcol
    refine ⟨v, hv, fun l hlist => ?_⟩
    rw [hl l hlist] at hz
    exact hz
  single hno := by
    rcases hr.counted with h | ⟨column, hcol, l, hl⟩
    · rw [h] at hz
      exact absurd hz nofun
    · exact absurd hl (hno column hcol l)
  cells _ _ hi := absurd hi nofun

lemma spec_loadRows (rows : List (Text × QoreValue)) {columns : List BulkColumn}
    {b₀ : BulkLoadState} (hm : 0 < m)
    (hk : columns.length = k) :
    Spec (Starts c k m b₀) (loadRows .main columns rows : Drv h .recover Bool) fun b t =>
      (b = true → Pending t) ∧
        (b = false → ∃ block, Accepts c rows columns block ∧ Loads k m (Streams b₀ block) t) := by
  unfold loadRows
  refine spec_ite (fun _ => ?_) fun hw => ?_
  · refine spec_weaken (fails_failRows (some (wrongWidth rows.length columns.length)) _ nofun)
      (fun _ ht => ht) ?_
    rintro b t ⟨rfl, ht⟩
    exact ⟨fun _ => ht, nofun⟩
  have hw' : rows.length = columns.length := not_not.1 hw
  have checked : Spec (Starts c k m b₀)
      (validate .main rows columns.zipIdx none : Drv h .recover _) fun r t =>
      (r = none → Pending t) ∧ ∀ v, r = some v → Checked rows columns none v ∧ Starts c k m b₀ t := by
    intro t ht
    obtain ⟨h₁, h₂⟩ := spec_validate (h := h) rows columns.zipIdx none t ht.2
    have hs :=
      (Drv.frame (by decide) hf
        (validate .main rows columns.zipIdx none : Drv h .recover _) t).setting
    refine ⟨h₁, fun v hv => ?_⟩
    obtain ⟨hc, hl⟩ := h₂ v hv
    rw [List.zipIdx_map_fst] at hc
    exact ⟨hc, hs.trans ht.1, hl⟩
  refine spec_bind checked fun r => ?_
  cases r with
  | none => exact spec_pure fun t ht => ⟨fun _ => ht.1 rfl, nofun⟩
  | some r =>
    rintro t ⟨-, ht⟩
    obtain ⟨hr, hstart⟩ := ht r rfl
    by_cases hz : r.2.getD 1 = 0
    · refine spec_ite (Q := fun b t => (b = true → Pending t) ∧
        (b = false → ∃ block, Accepts c rows columns block ∧ Loads k m (Streams b₀ block) t)) ?_
          (absurd hz) t hstart
      refine fun _ => spec_pure fun t ht => ⟨nofun, fun _ => ⟨[], accepts_nil c hw' hr hz, ht.2.mono ?_⟩⟩
      rintro b rfl
      simp only [Streams, leftover, or_true, if_true, List.map_nil, List.append_nil]
    · refine spec_ite (Q := fun b t => (b = true → Pending t) ∧
        (b = false → ∃ block, Accepts c rows columns block ∧ Loads k m (Streams b₀ block) t))
          (absurd · hz) ?_ t hstart
      exact fun _ => passes_loadBlock c hp hm hk hw' hr hz

end Block

end BulkLoadState

-- the loops end in the turns they are given, and each conversion moves on by the rows it converted,
-- or raises an error
structure LoadEnds (n : ℕ) (w : World) : Prop where
  conversions : ∀ rows extra done, (BulkLoadState.convertRows .main rows (rows + extra) done : Drv
    (handler n) .recover Bool).run w =
    (BulkLoadState.convertRows .main rows rows done : Drv (handler n) .recover Bool).run w
  chunks : ∀ b cells rows extra done, w.conn.bulkLoad = some b → 0 < b.maxRows →
    cells.length = b.columns.length →
    (BulkLoadState.loadChunks .main cells rows (rows + extra) done : Drv
      (handler n) .recover Bool).run w =
      (BulkLoadState.loadChunks .main cells rows rows done : Drv (handler n) .recover Bool).run w
  progress : ∀ b rows done, w.conn.bulkLoad = some b → done < rows → done < 2 ^ 32 →
    let r := (BulkLoadState.convert .main rows done : Drv (handler n) .recover (Option ℕ)).run w
    (r.1 = none → Pending r.2) ∧ ∀ next, r.1 = some next → done < next ∧ next ≤ rows ∧
      ∃ b', r.2.conn.bulkLoad = some b' ∧ done + b'.path.converted = next

lemma load_ends (n : ℕ) (w : World) : LoadEnds n w where
  conversions rows extra done :=
    BulkLoadState.convertRows_turns rows extra rows done (Nat.le_add_left _ _) w
  chunks b cells rows extra done hb hm hk :=
    BulkLoadState.loadChunks_turns cells
      (fun who w => handler_pending who w n) hk hm rows extra rows done (Nat.le_add_left _ _) w
      ⟨b, hb, rfl, rfl, trivial⟩
  progress b rows done hb hlt hd := by
    let r := (BulkLoadState.convert .main rows done : Drv (handler n) .recover (Option ℕ)).run w
    have hc : BulkLoadState.Next rows done (fun next b => done + b.path.converted = next)
        (k := b.columns.length)
        (m := b.maxRows) r.1 r.2 :=
      BulkLoadState.spec_convert (R := fun _ => True) (fun who w => handler_pending who w n)
        (fun _ _ _ _ => rfl) hlt hd w
        ⟨b, hb, rfl, rfl, trivial⟩
    refine ⟨hc.1, fun next hn => ?_⟩
    obtain ⟨hlo, hhi, -, b', hb', -, -, hconv⟩ := hc.2 next hn
    exact ⟨hlo, hhi, b', hb', hconv⟩

namespace BulkLoadState

-- each row of the block is streamed once and in order, and nothing else
def DeliversOnce (c : Setting) (rows : List (Text × QoreValue)) (b₀ : BulkLoadState) (t : World) :
    Prop :=
  ∃ block b, Accepts c rows b₀.columns block ∧ t.conn.bulkLoad = some b ∧
    b.path.loaded = b₀.path.loaded ++ block.map (·.map some)

-- the stream is reset before it is filled, or is empty, or is not filled at all
def Clear (b : BulkLoadState) (rows : List (Text × QoreValue)) : Prop :=
  b.used = true ∨ b.path.stream = [] ∨
    ∃ column ∈ b.columns, rows.lookup column.keyText = some (.list [])

lemma Accepts.eq_nil {c : Setting} {rows : List (Text × QoreValue)} {columns : List BulkColumn}
    {block : List (List BulkCell)} (hb : Accepts c rows columns block) :
    block = [] ↔ ∃ column ∈ columns, rows.lookup column.keyText = some (.list []) := by
  constructor
  · rintro rfl
    by_contra hno
    have hsingle := hb.single fun column hcol l hl => by
      obtain ⟨v, hv, hlen⟩ := hb.values column hcol
      obtain rfl : v = .list l := Option.some.inj (hv.symm.trans hl)
      exact hno ⟨column, hcol, hl.trans (by rw [List.eq_nil_of_length_eq_zero (hlen l rfl)])⟩
    exact absurd hsingle Nat.zero_ne_one
  · rintro ⟨column, hcol, hl⟩
    obtain ⟨v, hv, hlen⟩ := hb.values column hcol
    exact List.eq_nil_of_length_eq_zero (hlen [] (Option.some.inj (hv.symm.trans hl))).symm

lemma Accepts.length_eq {c : Setting} {rows : List (Text × QoreValue)} {columns : List BulkColumn}
    {block block' : List (List BulkCell)} (hb : Accepts c rows columns block)
    (hb' : Accepts c rows columns block') : block.length = block'.length := by
  by_cases hno : ∀ column ∈ columns, ∀ l, rows.lookup column.keyText ≠ some (.list l)
  · rw [hb.single hno, hb'.single hno]
  · simp only [not_forall, not_not] at hno
    obtain ⟨column, hcol, l, hl⟩ := hno
    obtain ⟨v, hv, hlen⟩ := hb.values column hcol
    obtain ⟨v', hv', hlen'⟩ := hb'.values column hcol
    obtain rfl : v = .list l := Option.some.inj (hv.symm.trans hl)
    obtain rfl : v' = .list l := Option.some.inj (hv'.symm.trans hl)
    rw [← hlen l rfl, ← hlen' l rfl]

lemma Streams.once_iff {c : Setting} {rows : List (Text × QoreValue)} {b₀ b : BulkLoadState}
    {block : List (List BulkCell)} {t : World} (hs : b₀.Streams block b)
    (hblock : Accepts c rows b₀.columns block) (ht : t.conn.bulkLoad = some b) :
    DeliversOnce c rows b₀ t ↔ b₀.Clear rows := by
  have hleft : leftover b₀ block = [] ↔ b₀.Clear rows := by
    rw [Clear, ← hblock.eq_nil, leftover]
    split_ifs with h
    · exact ⟨fun _ => h.elim .inl fun h => .inr (.inr h), fun _ => rfl⟩
    · rw [not_or] at h
      exact ⟨fun he => .inr (.inl he), fun hc => (hc.resolve_left h.1).resolve_right h.2⟩
  rw [← hleft]
  constructor
  · rintro ⟨block', b', hblock', hb', hl⟩
    obtain rfl : b = b' := Option.some.inj (ht.symm.trans hb')
    have hlen := congrArg List.length (hs.symm.trans hl)
    have heq := hblock.length_eq hblock'
    simp only [List.length_append, List.length_map] at hlen
    apply List.eq_nil_of_length_eq_zero
    omega
  · intro he
    rw [Streams, he, List.append_nil] at hs
    exact ⟨block, b, hblock, ht, hs⟩

end BulkLoadState

/-- A block that is loaded without an error is streamed row by row, each once and in order, if and
only if no rows of an earlier block are in front of it. -/
theorem loadRows_once_iff (n : ℕ) (w : World) (rows : List (Text × QoreValue)) :
    LoadEnds n w ∧ ∀ b, w.conn.bulkLoad = some b → 0 < b.maxRows →
      let r := (BulkLoadState.loadRows .main b.columns rows : Drv (handler n) .recover Bool).run w
      (r.1 = true → Pending r.2) ∧
        (r.1 = false → (b.DeliversOnce w.setting rows r.2 ↔ b.Clear rows)) := by
  refine ⟨load_ends n w, fun b hb hm => ?_⟩
  obtain ⟨h₁, h₂⟩ :=
    BulkLoadState.spec_loadRows (h := handler n) w.setting (fun who w => handler_pending who w n)
    (handler_frame n) rows hm rfl w ⟨rfl, b, hb, rfl, rfl, rfl⟩
  refine ⟨h₁, fun hf => ?_⟩
  obtain ⟨block, hblock, b', hb', -, -, hd⟩ := h₂ hf
  exact hd.once_iff hblock hb'

-- a load of one column, two rows at a time
def pairLoad : BulkLoadState where
  columns := [⟨['A'], .numeric, 10, 0, 0⟩]
  maxRows := 2
  prepared := true
  used := false
  stream := ⟨false, false, true, 0, 0⟩
  path := ⟨fun _ _ => none, [], [], 0⟩

def pairWorld : World :=
  let w := World.start plainSetting fun _ => ⟨.success, 0, "", 0, false⟩
  { w with conn := { w.conn with bulkLoad := some pairLoad } }

def threeRows : List (Text × QoreValue) := [(['A'], .list [.int 1, .null, .int 3])]

theorem loadRows_once_iff_three :
    let r :=
  (BulkLoadState.loadRows .main pairLoad.columns threeRows : Drv
    (handler 1) .recover Bool).run pairWorld
    (r.1 = true → Pending r.2) ∧
      (r.1 = false → (pairLoad.DeliversOnce plainSetting threeRows r.2 ↔ pairLoad.Clear threeRows)) :=
  (loadRows_once_iff 1 pairWorld threeRows).2 pairLoad rfl (by decide)

-- two rows are converted, and the cancel check of loadStream() fires
def cancelledWorld : World :=
  let w := { pairWorld with oracle := fun i => ⟨.success, 0, "", 0, i == 4⟩ }
  let r := (BulkLoadState.loadRows .main pairLoad.columns [(['A'], .list [.int 1, .null])] : Drv
    (handler 1) .recover Bool).run w
  { r.2 with xsink := [] }

theorem not_loadRows_once_cancelled :
    let r :=
  (BulkLoadState.loadRows .main pairLoad.columns threeRows : Drv (handler 1) .recover Bool).run
      cancelledWorld
    ∃ b, cancelledWorld.conn.bulkLoad = some b ∧ b.columns = pairLoad.columns ∧ r.1 = false ∧
      ¬b.DeliversOnce plainSetting threeRows r.2 := by
  intro r
  obtain ⟨b, hb⟩ := Option.isSome_iff_exists.mp
    (show cancelledWorld.conn.bulkLoad.isSome = true from by decide)
  have hcolumns : cancelledWorld.conn.bulkLoad.map (·.columns) = some pairLoad.columns := by decide
  have hbefore : cancelledWorld.conn.bulkLoad.map (·.path.loaded.length) = some 0 := by decide
  have hafter : r.2.conn.bulkLoad.map (·.path.loaded.length) = some 5 := by decide
  rw [hb] at hcolumns hbefore
  have hcols : b.columns = pairLoad.columns := Option.some.inj hcolumns
  refine ⟨b, hb, hcols, by decide, ?_⟩
  rintro ⟨block, b', hacc, hb', hl⟩
  rw [hb'] at hafter
  obtain ⟨v, hv, hlen⟩ := hacc.values ⟨['A'], .numeric, 10, 0, 0⟩ (hcols ▸ List.mem_cons_self)
  have hthree := hlen _ (Option.some.inj (hv.symm.trans rfl))
  have hfive : b'.path.loaded.length = 5 := Option.some.inj hafter
  have hzero : b.path.loaded.length = 0 := Option.some.inj hbefore
  have hsum := congrArg List.length hl
  rw [List.length_append, List.length_map, hfive, hzero, ← hthree] at hsum
  exact absurd hsum (by decide)

end OracleDriver
