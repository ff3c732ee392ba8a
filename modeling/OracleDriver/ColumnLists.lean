import OracleDriver.ColumnNames

/-! Collecting the rows of a result in one list for each column. -/

namespace OracleDriver

open Probe

variable {V : Type}

def doColumns (names : List Text) (h : Hash (List V)) : Hash (List V) :=
  names.foldl (fun h name => h.setKeyValue name []) h

-- a list that is not there is created
def pushValue (h : Hash (List V)) (key : Text) (v : V) : Hash (List V) :=
  h.setKeyValue key ((h.getKeyValue key).getD [] ++ [v])

-- the first suffixed list that does not have a value of this row yet
def listKey (h : Hash (List V)) (csize : ℕ) (name : Text) : Text :=
  suffixed name
    (probe (fun num => (h.getKeyValue (suffixed name num)).all (·.length = csize)) h.keys.length 1)

-- the values of a row from column `i` on
def pushValues (csize i : ℕ) (h : Hash (List V)) : List (Text × V) → Hash (List V)
  | [] => h
  | (name, v) :: row =>
    match h.getKeyValue name with
    | none => h
    | some l =>
      let csize := if i = 0 then l.length else csize
      let key := if csize < l.length then listKey h csize name else name
      pushValues csize (i + 1) (pushValue h key v) row

def pushRow (names : List Text) (h : Hash (List V)) (row : List V) : Hash (List V) :=
  pushValues 0 0 (if h = [] then doColumns names h else h) (names.zip row)

lemma getKeyValue_doColumns (names : List Text) (h : Hash (List V)) (k : Text) :
    (doColumns names h).getKeyValue k = if k ∈ names then some [] else h.getKeyValue k := by
  induction names generalizing h with
  | nil => simp [doColumns]
  | cons name names ih =>
    have hstep : doColumns (name :: names) h = doColumns names (h.setKeyValue name []) := rfl
    rw [hstep, ih, Hash.getKeyValue_setKeyValue]
    by_cases hk : k ∈ names <;> by_cases hn : k = name <;> simp [hk, hn]

lemma keys_nodup_doColumns {names : List Text} {h : Hash (List V)} (hn : h.keys.Nodup) :
    (doColumns names h).keys.Nodup := by
  induction names generalizing h with
  | nil => exact hn
  | cons name names ih => exact ih (Hash.keys_nodup_setKeyValue hn name [])

lemma getKeyValue_pushValue (h : Hash (List V)) (key k : Text) (v : V) :
    (pushValue h key v).getKeyValue k =
      if k = key then some ((h.getKeyValue key).getD [] ++ [v]) else h.getKeyValue k :=
  Hash.getKeyValue_setKeyValue ..

def pushAll (h : Hash (List V)) (row : List (Text × V)) : Hash (List V) :=
  row.foldl (fun h e => pushValue h e.1 e.2) h

lemma keys_nodup_pushAll {h : Hash (List V)} (hn : h.keys.Nodup) (row : List (Text × V)) :
    (pushAll h row).keys.Nodup := by
  induction row generalizing h with
  | nil => exact hn
  | cons e row ih => exact ih (Hash.keys_nodup_setKeyValue hn _ _)

lemma getKeyValue_pushAll_of_notMem {h : Hash (List V)} {row : List (Text × V)} {k : Text}
    (hk : k ∉ row.map Prod.fst) : (pushAll h row).getKeyValue k = h.getKeyValue k := by
  induction row generalizing h with
  | nil => rfl
  | cons e row ih =>
    rw [List.map_cons, List.mem_cons, not_or] at hk
    have hstep : pushAll h (e :: row) = pushAll (pushValue h e.1 e.2) row := rfl
    rw [hstep, ih hk.2, getKeyValue_pushValue, if_neg hk.1]

lemma getKeyValue_pushAll {h : Hash (List V)} {row : List (Text × V)}
    (hn : (row.map Prod.fst).Nodup) {j : ℕ}
    {e : Text × V} (hj : row[j]? = some e) :
    (pushAll h row).getKeyValue e.1 = some ((h.getKeyValue e.1).getD [] ++ [e.2]) := by
  induction row generalizing h j with
  | nil => simp at hj
  | cons e₀ row ih =>
    obtain ⟨hfresh, hn⟩ := List.nodup_cons.mp hn
    have hstep : pushAll h (e₀ :: row) = pushAll (pushValue h e₀.1 e₀.2) row := rfl
    rw [hstep]
    cases j with
    | zero =>
      obtain rfl : e₀ = e := by simpa using hj
      rw [getKeyValue_pushAll_of_notMem hfresh, getKeyValue_pushValue, if_pos rfl]
    | succ j =>
      rw [List.getElem?_cons_succ] at hj
      have hne : e.1 ≠ e₀.1 := fun he => hfresh (he ▸ List.mem_map_of_mem (List.mem_of_getElem? hj))
      rw [ih hn hj, getKeyValue_pushValue, if_neg hne]

-- in the middle of a row the lists of the columns that were read are one longer than the others
structure Filling (h : Hash (List V)) (used : List Text) (n : ℕ) (names : List Text) : Prop where
  longer : ∀ k ∈ used, ∃ l, h.getKeyValue k = some l ∧ l.length = n + 1
  others : ∀ k, k ∉ used → ∀ l, h.getKeyValue k = some l → l.length = n
  present : ∀ name ∈ names, (h.getKeyValue name).isSome
  ready : ∀ k ∈ rowKeysFrom used names, ((h.getKeyValue k).getD []).length = n

namespace Filling

variable {h : Hash (List V)} {used names : List Text} {name : Text} {n : ℕ}

lemma lt_length (hf : Filling h used n names) {k : Text} {l : List V} (hl : h.getKeyValue k = some l) :
    n < l.length ↔ k ∈ used := by
  constructor
  · intro hlt
    by_contra hk
    have := hf.others k hk l hl
    omega
  · intro hk
    obtain ⟨l', hl', hlen⟩ := hf.longer k hk
    rw [hl, Option.some.injEq] at hl'
    subst hl'
    omega

lemma free_iff (hf : Filling h used n names) (k : Text) :
    (h.getKeyValue k).all (·.length = n) = decide (k ∉ used) := by
  cases hl : h.getKeyValue k with
  | none =>
    have hk : k ∉ used := by
      intro hk
      obtain ⟨l, hl', -⟩ := hf.longer k hk
      rw [hl] at hl'
      cases hl'
    simp [hk]
  | some l =>
    have hlt := hf.lt_length hl
    by_cases hk : k ∈ used
    · have := hlt.mpr hk
      simp only [Option.all_some, hk, not_true_eq_false, decide_false, decide_eq_false_iff_not]
      omega
    · simpa [hk] using hf.others k hk l hl

lemma listKey_eq (hf : Filling h used n names) (hname : name ∈ used) :
    listKey h n name = rowKey used name := by
  rw [listKey, rowKey, if_pos hname]
  congr 1
  refine probe_congr (fun num => hf.free_iff (suffixed name num)) ?_ ?_
  · refine free_probe (suffixed_injective name)
      (fun num => (h.getKeyValue (suffixed name num)).all (·.length = n))
      h.keys ?_ 1
    intro num hnum
    rw [← Hash.isSome_getKeyValue]
    by_contra hnone
    rw [Option.not_isSome_iff_eq_none] at hnone
    simp [hnone] at hnum
  · exact free_probe (suffixed_injective name) (fun num => suffixed name num ∉ used) used (by simp) 1

lemma push (hf : Filling h used n (name :: names)) (v : V) :
    Filling (pushValue h (rowKey used name) v) (used ++ [rowKey used name]) n names := by
  have hfresh := rowKey_fresh used name
  have hlen := hf.ready (rowKey used name) List.mem_cons_self
  constructor
  · intro k hk
    rw [getKeyValue_pushValue]
    split
    · exact ⟨_, rfl, by simp [hlen]⟩
    · rename_i hne
      rcases List.mem_append.mp hk with hk | hk
      · exact hf.longer k hk
      · exact absurd (List.mem_singleton.mp hk) hne
  · intro k hk l hl
    rw [List.mem_append, not_or, List.mem_singleton] at hk
    rw [getKeyValue_pushValue, if_neg hk.2] at hl
    exact hf.others k hk.1 l hl
  · intro name' hname'
    rw [getKeyValue_pushValue]
    split
    · rfl
    · exact hf.present name' (List.mem_cons_of_mem _ hname')
  · intro k hk
    rw [getKeyValue_pushValue, if_neg (by rintro rfl; exact rowKeysFrom_fresh hk (by simp))]
    exact hf.ready k (List.mem_cons_of_mem _ hk)

-- the first column finds the size of the lists, which the later ones compare theirs with
lemma pushValues_eq {row : List (Text × V)} {csize i : ℕ} (hf : Filling h used n (row.map Prod.fst))
    (hi : i = 0 ∧ used = [] ∨ i ≠ 0 ∧ csize = n) :
    pushValues csize i h row = pushAll h
      ((rowKeysFrom used (row.map Prod.fst)).zip (row.map Prod.snd)) := by
  induction row generalizing h used csize i with
  | nil => rfl
  | cons e row ih =>
    obtain ⟨name, v⟩ := e
    obtain ⟨l, hl⟩ := Option.isSome_iff_exists.mp (hf.present name List.mem_cons_self)
    have hsize : (if i = 0 then l.length else csize) = n := by
      rcases hi with ⟨rfl, rfl⟩ | ⟨hi, rfl⟩
      · exact hf.others name List.not_mem_nil l hl
      · exact if_neg hi
    have hkey : (if n < l.length then listKey h n name else name) = rowKey used name := by
      by_cases hu : name ∈ used
      · rw [if_pos ((hf.lt_length hl).mpr hu), hf.listKey_eq hu]
      · rw [if_neg (mt (hf.lt_length hl).mp hu), rowKey, if_neg hu]
    simp only [pushValues, hl, hsize, hkey, List.map_cons, rowKeysFrom, List.zip_cons_cons]
    exact ih (hf.push v) (Or.inr ⟨by omega, rfl⟩)

end Filling

-- the lists of the rows so far
structure Lists (names : List Text) (rows : List (List V)) (h : Hash (List V)) : Prop where
  keys_nodup : h.keys.Nodup
  keys : ∀ k, k ∈ h.keys ↔ k ∈ rowKeys names
  values : ∀ (j : ℕ) (k : Text), (rowKeys names)[j]? = some k →
    ∃ l : List V, h.getKeyValue k = some l ∧ l.map some = rows.map fun row => row[j]?

lemma getKeyValue_pushAll_zip {names : List Text} {row : List V} (hlen : row.length = names.length)
    (h : Hash (List V)) {j : ℕ} {k : Text} (hk : (rowKeys names)[j]? = some k) :
    ∃ v, row[j]? = some v ∧
      (pushAll h ((rowKeys names).zip row)).getKeyValue k = some ((h.getKeyValue k).getD [] ++ [v]) := by
  have hj := (List.getElem?_eq_some_iff.mp hk).1
  rw [rowKeys_length, ← hlen] at hj
  refine ⟨row[j], List.getElem?_eq_getElem hj, ?_⟩
  have hzip : ((rowKeys names).zip row)[j]? = some (k, row[j]) := by
    rw [List.getElem?_zip_eq_some]
    exact ⟨hk, List.getElem?_eq_getElem hj⟩
  have hfst : ((rowKeys names).zip row).map Prod.fst = rowKeys names := List.map_fst_zip (by simp [hlen])
  have hn : (((rowKeys names).zip row).map Prod.fst).Nodup := by
    rw [hfst]
    exact rowKeys_nodup names
  exact getKeyValue_pushAll hn hzip

lemma pushValues_start {names : List Text} {h : Hash (List V)} {n : ℕ} (hf : Filling h [] n names)
    {row : List V}
    (hlen : row.length = names.length) :
    pushValues 0 0 h (names.zip row) = pushAll h ((rowKeys names).zip row) := by
  have hfst : (names.zip row).map Prod.fst = names := List.map_fst_zip (by omega)
  have hsnd : (names.zip row).map Prod.snd = row := List.map_snd_zip (by omega)
  rw [Filling.pushValues_eq (hfst.symm ▸ hf) (Or.inl ⟨rfl, rfl⟩), hfst, hsnd]
  rfl

lemma mem_keys_pushAll {h : Hash (List V)} {row : List (Text × V)} {k : Text} :
    k ∈ (pushAll h row).keys ↔ k ∈ h.keys ∨ k ∈ row.map Prod.fst := by
  induction row generalizing h with
  | nil => simp [pushAll]
  | cons e row ih =>
    have hstep : pushAll h (e :: row) = pushAll (pushValue h e.1 e.2) row := rfl
    rw [hstep, ih, pushValue, Hash.mem_keys_setKeyValue, List.map_cons, List.mem_cons, or_assoc]

lemma filling_doColumns (names : List Text) : Filling (V := V) (doColumns names []) [] 0 names := by
  constructor
  · intro k hk
    cases hk
  · intro k _ l hl
    rw [getKeyValue_doColumns] at hl
    split at hl
    · obtain rfl : [] = l := by simpa using hl
      rfl
    · cases hl
  · intro name hname
    rw [getKeyValue_doColumns, if_pos hname]
    rfl
  · intro k _
    rw [getKeyValue_doColumns]
    split <;> rfl

namespace Lists

variable {names : List Text} {rows : List (List V)} {h : Hash (List V)}

lemma filling (hs : Lists names rows h) : Filling h [] rows.length names := by
  have hall : ∀ k ∈ rowKeys names, ∃ l, h.getKeyValue k = some l ∧ l.length = rows.length := by
    intro k hk
    obtain ⟨j, hj⟩ := List.getElem?_of_mem hk
    obtain ⟨l, hl, he⟩ := hs.values j k hj
    exact ⟨l, hl, by simpa using congrArg List.length he⟩
  constructor
  · intro k hk
    cases hk
  · intro k _ l hl
    have hk : k ∈ rowKeys names := by
      rw [← hs.keys, ← Hash.isSome_getKeyValue, hl]
      rfl
    obtain ⟨l', hl', hlen⟩ := hall k hk
    rw [hl, Option.some.injEq] at hl'
    exact hl' ▸ hlen
  · intro name hname
    rw [Hash.isSome_getKeyValue, hs.keys]
    exact mem_rowKeys hname
  · intro k hk
    obtain ⟨l, hl, hlen⟩ := hall k hk
    rw [hl, Option.getD_some, hlen]

lemma push (hs : Lists names rows h) {row : List V} (hlen : row.length = names.length) :
    Lists names (rows ++ [row]) (pushAll h ((rowKeys names).zip row)) := by
  have hfst : ((rowKeys names).zip row).map Prod.fst = rowKeys names := List.map_fst_zip (by simp [hlen])
  constructor
  · exact keys_nodup_pushAll hs.keys_nodup _
  · intro k
    rw [mem_keys_pushAll, hfst, hs.keys, or_self]
  · intro j k hk
    obtain ⟨v, hv, he⟩ := getKeyValue_pushAll_zip hlen h hk
    obtain ⟨l, hl, hls⟩ := hs.values j k hk
    exact ⟨l ++ [v], by rw [he, hl]; rfl, by simp [hls, hv]⟩

lemma first {row : List V} (hlen : row.length = names.length) :
    Lists names [row] (pushAll (doColumns names []) ((rowKeys names).zip row)) := by
  have hfst : ((rowKeys names).zip row).map Prod.fst = rowKeys names := List.map_fst_zip (by simp [hlen])
  constructor
  · exact keys_nodup_pushAll (keys_nodup_doColumns (h := []) List.nodup_nil) _
  · intro k
    rw [mem_keys_pushAll, hfst, ← Hash.isSome_getKeyValue, getKeyValue_doColumns]
    constructor
    · rintro (hk | hk)
      · split at hk
        · exact mem_rowKeys ‹_›
        · cases hk
      · exact hk
    · exact Or.inr
  · intro j k hk
    obtain ⟨v, hv, he⟩ := getKeyValue_pushAll_zip hlen (doColumns names []) hk
    refine ⟨[v], ?_, by simp [hv]⟩
    rw [he, getKeyValue_doColumns]
    split <;> rfl

lemma doColumns_if_empty (hs : Lists names rows h) : (if h = [] then doColumns names h else h) = h := by
  split
  · rename_i he
    subst he
    cases names with
    | nil => rfl
    | cons name names =>
      exact absurd ((hs.keys name).mpr (mem_rowKeys List.mem_cons_self)) List.not_mem_nil
  · rfl

lemma pushRow (hs : Lists names rows h) {row : List V} (hlen : row.length = names.length) :
    Lists names (rows ++ [row]) (pushRow names h row) := by
  rw [OracleDriver.pushRow, hs.doColumns_if_empty, pushValues_start hs.filling hlen]
  exact hs.push hlen

lemma pushRows (hs : Lists names rows h) {more : List (List V)}
    (hlen : ∀ row ∈ more, row.length = names.length) :
    Lists names (rows ++ more) (more.foldl (OracleDriver.pushRow names) h) := by
  induction more generalizing rows h with
  | nil => simpa using hs
  | cons row more ih =>
    have hstep := hs.pushRow (hlen row List.mem_cons_self)
    have hrest := ih hstep fun r hr => hlen r (List.mem_cons_of_mem _ hr)
    rwa [List.append_assoc] at hrest

end Lists

-- whether the lists were created before the first row or with it
lemma lists_pushRows {names : List Text} {h : Hash (List V)} (hh : h = [] ∨ h = doColumns names [])
    {rows : List (List V)} (hne : rows ≠ []) (hlen : ∀ row ∈ rows, row.length = names.length) :
    Lists names rows (rows.foldl (pushRow names) h) := by
  obtain ⟨row, rows, rfl⟩ := List.exists_cons_of_ne_nil hne
  have hstart : (if h = [] then doColumns names h else h) = doColumns names [] := by
    rcases hh with rfl | rfl
    · rfl
    · split
      · rename_i he
        rw [he]
        exact he
      · rfl
  have hrow := hlen row List.mem_cons_self
  have hfirst : Lists names [row] (pushRow names h row) := by
    rw [pushRow, hstart, pushValues_start (filling_doColumns names) hrow]
    exact Lists.first hrow
  exact hfirst.pushRows fun r hr => hlen r (List.mem_cons_of_mem _ hr)

end OracleDriver
