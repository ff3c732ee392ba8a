import OracleDriver.Library.Probe
import OracleDriver.Values

/-! The names under which the columns of a result are returned. -/

namespace OracleDriver

open Probe

-- "%s_%d"
def suffixed (name : Text) (num : ℕ) : Text := name ++ '_' :: Nat.toDigits 10 num

lemma suffixed_inj {a b : Text} {k m : ℕ} (h : suffixed a k = suffixed b m) : a = b ∧ k = m := by
  have hdigits : ∀ n, '_' ∉ Nat.toDigits 10 n := by
    intro n hn
    have hd := Nat.isDigit_of_mem_toDigits (by omega) (by omega) hn
    exact absurd hd (by decide)
  simp only [suffixed] at h
  have hsplit : a = b ∧ Nat.toDigits 10 k = Nat.toDigits 10 m := by
    rcases List.append_eq_append_iff.mp h with ⟨c, rfl, hc⟩ | ⟨c, rfl, hc⟩
    · cases c with
      | nil => exact ⟨by simp, by simpa using hc⟩
      | cons d c =>
        rw [List.cons_append, List.cons.injEq] at hc
        exact absurd (hc.2 ▸ List.mem_append_right c List.mem_cons_self) (hdigits k)
    · cases c with
      | nil => exact ⟨by simp, by simpa using hc.symm⟩
      | cons d c =>
        rw [List.cons_append, List.cons.injEq] at hc
        exact absurd (hc.2 ▸ List.mem_append_right c List.mem_cons_self) (hdigits m)
  refine ⟨hsplit.1, ?_⟩
  rw [← Nat.ofDigitChars_ten_toDigits (n := k), hsplit.2, Nat.ofDigitChars_ten_toDigits]

lemma suffixed_injective (name : Text) : Function.Injective (suffixed name) :=
  fun _ _ h => (suffixed_inj h).2

lemma suffixed_ne (name : Text) (num : ℕ) : suffixed name num ≠ name := by
  intro h
  have hlen := congrArg List.length h
  simp only [suffixed, List.length_append, List.length_cons] at hlen
  omega

-- a hash keeps its keys in the order in which they were added
abbrev Hash (V : Type) := List (Text × V)

namespace Hash

variable {V : Type}

def keys (h : Hash V) : List Text := h.map Prod.fst

def getKeyValue (k : Text) : Hash V → Option V
  | [] => none
  | e :: h => if e.1 = k then some e.2 else getKeyValue k h

def setKeyValue (k : Text) (v : V) : Hash V → Hash V
  | [] => [(k, v)]
  | e :: h => if e.1 = k then (k, v) :: h else e :: setKeyValue k v h

@[simp] lemma keys_nil : keys ([] : Hash V) = [] := rfl

@[simp] lemma keys_cons (e : Text × V) (h : Hash V) : keys (e :: h) = e.1 :: keys h := rfl

@[simp] lemma keys_append (h h' : Hash V) : keys (h ++ h') = keys h ++ keys h' := List.map_append

lemma setKeyValue_fresh {h : Hash V} {k : Text} (hk : k ∉ h.keys) (v : V) :
    h.setKeyValue k v = h ++ [(k, v)] := by
  induction h with
  | nil => rfl
  | cons e h ih =>
    rw [keys_cons, List.mem_cons, not_or] at hk
    simp only [setKeyValue, if_neg (Ne.symm hk.1), ih hk.2, List.cons_append]

@[simp] lemma getKeyValue_nil (k : Text) : getKeyValue k ([] : Hash V) = none := rfl

lemma getKeyValue_cons (e : Text × V) (h : Hash V) (k : Text) :
    getKeyValue k (e :: h) = if e.1 = k then some e.2 else getKeyValue k h := rfl

lemma getKeyValue_eq_none {h : Hash V} {k : Text} : h.getKeyValue k = none ↔ k ∉ h.keys := by
  induction h with
  | nil => simp
  | cons e h ih =>
    rw [getKeyValue_cons, keys_cons, List.mem_cons, not_or, ← ne_eq, ne_comm]
    by_cases he : e.1 = k <;> simp [he, ih]

lemma isSome_getKeyValue {h : Hash V} {k : Text} : (h.getKeyValue k).isSome ↔ k ∈ h.keys := by
  rw [Option.isSome_iff_ne_none, ne_eq, getKeyValue_eq_none, not_not]

lemma getKeyValue_setKeyValue (h : Hash V) (k k' : Text) (v : V) :
    (h.setKeyValue k v).getKeyValue k' = if k' = k then some v else h.getKeyValue k' := by
  induction h with
  | nil => simp [setKeyValue, getKeyValue_cons, eq_comm]
  | cons e h ih =>
    simp only [setKeyValue]
    split
    · rename_i he
      simp only [getKeyValue_cons, he, eq_comm]
      split <;> rfl
    · rename_i he
      simp only [getKeyValue_cons, ih]
      by_cases hk : k' = k
      · subst hk
        simp only [if_neg he, if_true]
      · simp only [if_neg hk]

lemma keys_setKeyValue (h : Hash V) (k : Text) (v : V) :
    (h.setKeyValue k v).keys = if k ∈ h.keys then h.keys else h.keys ++ [k] := by
  induction h with
  | nil => rfl
  | cons e h ih =>
    simp only [setKeyValue]
    split
    · rename_i he
      simp [he]
    · rename_i he
      simp only [keys_cons, ih, List.mem_cons, Ne.symm he, false_or]
      split <;> rfl

lemma mem_keys_setKeyValue (h : Hash V) (k : Text) (v : V) {k' : Text} :
    k' ∈ (h.setKeyValue k v).keys ↔ k' ∈ h.keys ∨ k' = k := by
  rw [keys_setKeyValue]
  split
  · rename_i hk
    constructor
    · exact Or.inl
    · rintro (hk' | rfl)
      · exact hk'
      · exact hk
  · rw [List.mem_append, List.mem_singleton]

lemma keys_nodup_setKeyValue {h : Hash V} (hn : h.keys.Nodup) (k : Text) (v : V) :
    (h.setKeyValue k v).keys.Nodup := by
  rw [keys_setKeyValue]
  split
  · exact hn
  · rename_i hk
    exact List.concat_eq_append ▸ (List.nodup_concat _ _).mpr ⟨hk, hn⟩

lemma foldl_setKeyValue {e : List (Text × V)} (h : Hash V) (hn : (h.keys ++ e.map Prod.fst).Nodup) :
    e.foldl (fun h e => h.setKeyValue e.1 e.2) h = h ++ e := by
  induction e generalizing h with
  | nil => simp
  | cons p e ih =>
    have hfresh : p.1 ∉ h.keys := fun hm => List.disjoint_of_nodup_append hn hm (by simp)
    rw [List.foldl_cons, setKeyValue_fresh hfresh, ih]
    · simp
    · simpa using hn

lemma mem_keys_foldl (e : List (Text × V)) (h : Hash V) {k : Text} :
    k ∈ (e.foldl (fun h e => h.setKeyValue e.1 e.2) h).keys ↔ k ∈ h.keys ∨ k ∈ e.map Prod.fst := by
  induction e generalizing h with
  | nil => simp
  | cons p e ih => rw [List.foldl_cons, ih, mem_keys_setKeyValue, List.map_cons, List.mem_cons, or_assoc]

-- a value is looked up under the key beside it
lemma getKeyValue_zip {keys : List Text} (hn : keys.Nodup) {values : List V}
    (hlen : values.length = keys.length)
    {j : ℕ} {k : Text} (hj : keys[j]? = some k) : getKeyValue k (keys.zip values) = values[j]? := by
  induction keys generalizing values j with
  | nil => simp at hj
  | cons k₀ keys ih =>
    obtain ⟨v, values, rfl⟩ : ∃ v t, values = v :: t := List.exists_cons_of_ne_nil (by
      rintro rfl
      simp at hlen)
    rw [List.zip_cons_cons, getKeyValue_cons]
    cases j with
    | zero => simp_all
    | succ j =>
      rw [List.getElem?_cons_succ] at hj
      have hne : k₀ ≠ k := by
        rintro rfl
        exact (List.nodup_cons.mp hn).1 (List.mem_of_getElem? hj)
      rw [if_neg hne, ih (List.nodup_cons.mp hn).2 (by simpa using hlen) hj, List.getElem?_cons_succ]

end Hash

-- the key of a value in a row: a column's value is never NOTHING, so a key of the hash is taken
def rowKey (keys : List Text) (name : Text) : Text :=
  if name ∈ keys then suffixed name (probe (fun num => suffixed name num ∉ keys) keys.length 1) else name

lemma rowKey_fresh (keys : List Text) (name : Text) : rowKey keys name ∉ keys := by
  unfold rowKey
  split
  · have hfree :=
      free_probe (suffixed_injective name) (fun num => suffixed name num ∉ keys) keys (by simp) 1
    simpa using hfree
  · assumption

def rowKeysFrom (keys : List Text) : List Text → List Text
  | [] => []
  | name :: names => rowKey keys name :: rowKeysFrom (keys ++ [rowKey keys name]) names

def rowKeys : List Text → List Text := rowKeysFrom []

@[simp] lemma rowKeysFrom_length (keys names : List Text) :
    (rowKeysFrom keys names).length = names.length := by
  induction names generalizing keys with
  | nil => rfl
  | cons name names ih => simp [rowKeysFrom, ih]

@[simp] lemma rowKeys_length (names : List Text) : (rowKeys names).length = names.length :=
  rowKeysFrom_length [] names

lemma rowKeysFrom_fresh {keys names : List Text} {key : Text} (h : key ∈ rowKeysFrom keys names) :
    key ∉ keys := by
  induction names generalizing keys with
  | nil => cases h
  | cons name names ih =>
    rcases List.mem_cons.mp h with rfl | h
    · exact rowKey_fresh keys name
    · exact fun hk => ih h (List.mem_append_left _ hk)

lemma rowKeysFrom_append (keys names names' : List Text) :
    rowKeysFrom keys (names ++ names') = rowKeysFrom keys names ++
      rowKeysFrom (keys ++ rowKeysFrom keys names) names' := by
  induction names generalizing keys with
  | nil => simp [rowKeysFrom]
  | cons name names ih => simp [rowKeysFrom, ih]

lemma rowKeys_concat (names : List Text) (name : Text) :
    rowKeys (names ++ [name]) = rowKeys names ++ [rowKey (rowKeys names) name] := by
  simp [rowKeys, rowKeysFrom_append, rowKeysFrom]

lemma rowKeys_nodup (names : List Text) : (rowKeys names).Nodup := by
  induction names using List.reverseRecOn with
  | nil => exact List.nodup_nil
  | append_singleton names name ih =>
    rw [rowKeys_concat]
    apply List.Nodup.append ih (List.nodup_singleton _)
    simpa using rowKey_fresh (rowKeys names) name

lemma mem_rowKeys {names : List Text} {name : Text} (h : name ∈ names) : name ∈ rowKeys names := by
  induction names using List.reverseRecOn with
  | nil => cases h
  | append_singleton names last ih =>
    rw [rowKeys_concat, List.mem_append]
    rcases List.mem_append.mp h with h | h
    · exact Or.inl (ih h)
    · rw [List.mem_singleton] at h
      subst h
      by_cases ht : name ∈ rowKeys names
      · exact Or.inl ht
      · exact Or.inr (by simp [rowKey, ht])

-- a row has no other keys than the names exactly when no name is repeated
lemma rowKeys_subset_iff {names : List Text} : rowKeys names ⊆ names ↔ names.Nodup := by
  constructor
  · intro h
    have hsub := List.subperm_of_subset (rowKeys_nodup names) h
    have hperm := hsub.perm_of_length_le (rowKeys_length names).ge
    exact hperm.nodup_iff.mp (rowKeys_nodup names)
  · intro hn
    have hsub := List.subperm_of_subset hn fun _ => mem_rowKeys
    exact (hsub.perm_of_length_le (rowKeys_length names).le).symm.subset

lemma rowKeysFrom_of_nodup {keys names : List Text} (hn : (keys ++ names).Nodup) :
    rowKeysFrom keys names = names := by
  induction names generalizing keys with
  | nil => rfl
  | cons name names ih =>
    have hfresh : name ∉ keys := fun hm => List.disjoint_of_nodup_append hn hm List.mem_cons_self
    have hkey : rowKey keys name = name := by rw [rowKey, if_neg hfresh]
    rw [rowKeysFrom, hkey, ih]
    rwa [List.append_assoc, List.singleton_append]

lemma rowKeys_of_nodup {names : List Text} (hn : names.Nodup) : rowKeys names = names :=
  rowKeysFrom_of_nodup hn

variable {V : Type}

-- QoreOracleStatement::fetchRow()
def fetchRowInto (h : Hash V) : List (Text × V) → Hash V
  | [] => h
  | (name, v) :: row => fetchRowInto (h.setKeyValue (rowKey h.keys name) v) row

def fetchRow (names : List Text) (row : List V) : Hash V := fetchRowInto [] (names.zip row)

lemma fetchRowInto_eq (h : Hash V) (row : List (Text × V)) :
    fetchRowInto h row = h ++ (rowKeysFrom h.keys (row.map Prod.fst)).zip (row.map Prod.snd) := by
  induction row generalizing h with
  | nil => simp [fetchRowInto, rowKeysFrom]
  | cons e row ih =>
    obtain ⟨name, v⟩ := e
    rw [fetchRowInto, Hash.setKeyValue_fresh (rowKey_fresh _ _), ih]
    simp [rowKeysFrom]

lemma fetchRow_eq {names : List Text} {row : List V} (hlen : row.length = names.length) :
    fetchRow names row = (rowKeys names).zip row := by
  rw [fetchRow, fetchRowInto_eq, List.map_fst_zip (le_of_eq hlen.symm), List.map_snd_zip (le_of_eq hlen)]
  rfl

-- the names that were seen are counted
def oracleColumnarUniqueName (name : Text) (seen : Text → ℕ) : Text × (Text → ℕ) :=
  (if seen name = 0 then name else suffixed name (seen name), Function.update seen name (seen name + 1))

def columnarNamesFrom (seen : Text → ℕ) : List Text → List Text
  | [] => []
  | name :: names =>
    (oracleColumnarUniqueName name seen).1 :: columnarNamesFrom
      (oracleColumnarUniqueName name seen).2 names

def columnarNames : List Text → List Text := columnarNamesFrom fun _ => 0

-- the result hash of fetchColumnar() from the finished columns
def columnarHash (names : List Text) (columns : List V) : Hash V :=
  ((columnarNames names).zip columns).foldl (fun h e => h.setKeyValue e.1 e.2) []

def numbered (name : Text) (k : ℕ) : Text := if k = 0 then name else suffixed name k

@[simp] lemma numbered_zero (name : Text) : numbered name 0 = name := rfl

lemma columnarNamesFrom_append (pre names names' : List Text) :
    columnarNamesFrom (pre.count ·) (names ++ names') =
      columnarNamesFrom (pre.count ·) names ++ columnarNamesFrom ((pre ++ names).count ·) names' := by
  induction names generalizing pre with
  | nil => simp [columnarNamesFrom]
  | cons name names ih =>
    have hseen : (oracleColumnarUniqueName name (pre.count ·)).2 = ((pre ++ [name]).count ·) := by
      funext m
      by_cases hm : m = name
      · subst hm
        simp [oracleColumnarUniqueName]
      · simp [oracleColumnarUniqueName, hm, List.count_append, Ne.symm hm]
    simp only [List.cons_append, columnarNamesFrom, hseen, ih, List.append_assoc, List.nil_append]

lemma columnarNames_concat (names : List Text) (name : Text) :
    columnarNames (names ++ [name]) = columnarNames names ++ [numbered name (names.count name)] :=
  columnarNamesFrom_append [] names [name]

lemma lt_count_concat {names : List Text} {last name : Text} {k : ℕ}
    (h : k < (names ++ [last]).count name) :
    k < names.count name ∨ last = name ∧ k = names.count last := by
  rw [List.count_append] at h
  by_cases hname : last = name
  · subst hname
    rw [List.count_singleton_self] at h
    exact (Nat.lt_succ_iff_lt_or_eq.mp h).imp_right fun he => ⟨rfl, he⟩
  · rw [List.count_singleton, if_neg (by simpa using hname)] at h
    exact Or.inl h

lemma mem_columnarNames {names : List Text} {key : Text} :
    key ∈ columnarNames names ↔ ∃ name k, k < names.count name ∧ numbered name k = key := by
  induction names using List.reverseRecOn with
  | nil => simp [columnarNames, columnarNamesFrom]
  | append_singleton names last ih =>
    rw [columnarNames_concat, List.mem_append, ih, List.mem_singleton]
    constructor
    · rintro (⟨name, k, hk, rfl⟩ | rfl)
      · exact ⟨name, k, by rw [List.count_append]; omega, rfl⟩
      · exact ⟨last, names.count last, by simp, rfl⟩
    · rintro ⟨name, k, hk, rfl⟩
      rcases lt_count_concat hk with hlt | ⟨rfl, rfl⟩
      · exact Or.inl ⟨name, k, hlt, rfl⟩
      · exact Or.inr rfl

@[simp] lemma columnarNamesFrom_length (seen : Text → ℕ) (names : List Text) :
    (columnarNamesFrom seen names).length = names.length := by
  induction names generalizing seen with
  | nil => rfl
  | cons name names ih => simp [columnarNamesFrom, ih]

@[simp] lemma columnarNames_length (names : List Text) : (columnarNames names).length = names.length :=
  columnarNamesFrom_length _ names

lemma columnarNames_nodup_concat (names : List Text) (name : Text) :
    (columnarNames (names ++ [name])).Nodup ↔
      (columnarNames names).Nodup ∧ numbered name (names.count name) ∉ columnarNames names := by
  rw [columnarNames_concat, ← List.concat_eq_append, List.nodup_concat]
  exact and_comm

-- no column has the name that is generated for a repetition of another one
def NoClash (names : List Text) : Prop :=
  ∀ name k, 1 ≤ k → k < names.count name → suffixed name k ∉ names

lemma NoClash.of_concat {names : List Text} {last : Text} (h : NoClash (names ++ [last])) :
    NoClash names := by
  intro name k h₁ hk hmem
  exact h name k h₁ (by rw [List.count_append]; omega) (List.mem_append_left _ hmem)

lemma NoClash.nodup {names : List Text} (h : NoClash names) : (columnarNames names).Nodup := by
  induction names using List.reverseRecOn with
  | nil => exact List.nodup_nil
  | append_singleton names last ih =>
    refine (columnarNames_nodup_concat names last).mpr ⟨ih h.of_concat, ?_⟩
    intro hmem
    obtain ⟨name, k, hk, he⟩ := mem_columnarNames.mp hmem
    have hname : name ∈ names ++ [last] := List.mem_append_left _ (List.count_pos_iff.mp (by omega))
    have hk' : k < (names ++ [last]).count name := by
      rw [List.count_append]
      omega
    by_cases hc : names.count last = 0
    · rw [hc, numbered_zero] at he
      by_cases hk0 : k = 0
      · subst hk0
        rw [numbered_zero] at he
        subst he
        omega
      · rw [numbered, if_neg hk0] at he
        exact h name k (by omega) hk' (he ▸ List.mem_append_right _ List.mem_cons_self)
    · rw [numbered, numbered, if_neg hc] at he
      by_cases hk0 : k = 0
      · rw [if_pos hk0] at he
        exact h last (names.count last) (by omega) (by simp) (he ▸ hname)
      · rw [if_neg hk0] at he
        obtain ⟨rfl, rfl⟩ := suffixed_inj he
        omega

lemma noClash_of_nodup {names : List Text} (h : (columnarNames names).Nodup) : NoClash names := by
  induction names using List.reverseRecOn with
  | nil =>
    intro name k h₁ hk
    simp at hk
  | append_singleton names last ih =>
    obtain ⟨hn, hfresh⟩ := (columnarNames_nodup_concat names last).mp h
    have hmem : ∀ {name : Text}, name ∈ names → name ∈ columnarNames names := fun hm =>
      mem_columnarNames.mpr ⟨_, 0, List.count_pos_iff.mpr hm, rfl⟩
    intro name k h₁ hk hclash
    rcases lt_count_concat hk with hlt | ⟨rfl, rfl⟩
    · have hold : suffixed name k ∉ names := ih hn name k h₁ hlt
      rcases List.mem_append.mp hclash with hc | hc
      · exact hold hc
      · rw [List.mem_singleton] at hc
        have hcount : names.count last = 0 := List.count_eq_zero.mpr (hc ▸ hold)
        apply hfresh
        rw [hcount, numbered_zero, ← hc]
        exact mem_columnarNames.mpr ⟨name, k, hlt, by rw [numbered, if_neg (by omega)]⟩
    · rcases List.mem_append.mp hclash with hc | hc
      · apply hfresh
        rw [numbered, if_neg (by omega)]
        exact hmem hc
      · exact suffixed_ne last _ (List.mem_singleton.mp hc)

lemma rowKeys_eq_columnarNames {names : List Text} (h : (columnarNames names).Nodup) :
    rowKeys names = columnarNames names := by
  induction names using List.reverseRecOn with
  | nil => rfl
  | append_singleton names last ih =>
    obtain ⟨hn, hfresh⟩ := (columnarNames_nodup_concat names last).mp h
    rw [rowKeys_concat, columnarNames_concat, ih hn]
    congr 2
    by_cases hc : names.count last = 0
    · rw [hc, numbered_zero] at hfresh ⊢
      rw [rowKey, if_neg hfresh]
    · have htaken : ∀ k, k < names.count last → numbered last k ∈ columnarNames names := fun k hk =>
        mem_columnarNames.mpr ⟨last, k, hk, rfl⟩
      have hlast : last ∈ columnarNames names := htaken 0 (by omega)
      rw [rowKey, if_pos hlast, numbered, if_neg hc]
      rw [numbered, if_neg hc] at hfresh
      congr 1
      apply probe_eq (by omega) (by simpa using hfresh)
      · intro k h₁ hk
        have hm := htaken k hk
        rw [numbered, if_neg (by omega)] at hm
        simpa using hm
      · have hle := names.count_le_length (a := last)
        rw [columnarNames_length]
        omega

lemma columnarHash_eq {names : List Text} (h : (columnarNames names).Nodup) {columns : List V}
    (hlen : columns.length = names.length) :
    columnarHash names columns = (columnarNames names).zip columns := by
  rw [columnarHash, Hash.foldl_setKeyValue [] ?_, List.nil_append]
  rwa [Hash.keys_nil, List.nil_append, List.map_fst_zip (by rw [columnarNames_length, hlen])]

-- each column has a name of its own, which is the key of its value in a row, so the hash has all
-- the columns
def ColumnsNamed (names : List Text) : Prop :=
  (columnarNames names).Nodup ∧ ∀ (V : Type) (values : List V), values.length = names.length →
    fetchRow names values = (columnarNames names).zip values ∧
      columnarHash names values = (columnarNames names).zip values

/-- The columns have distinct names, those of the rows, if and only if no column has the name that a
repetition of another one is given. -/
theorem columnsNamed_iff (names : List Text) : ColumnsNamed names ↔ NoClash names := by
  constructor
  · intro h
    exact noClash_of_nodup h.1
  · intro h
    refine ⟨h.nodup, fun V values hlen => ⟨?_, columnarHash_eq h.nodup hlen⟩⟩
    rw [fetchRow_eq hlen, rowKeys_eq_columnarNames h.nodup]

theorem not_columnsNamed_generated : ¬ ColumnsNamed ["a".toList, "a".toList, "a_1".toList] := by
  rintro ⟨h, -⟩
  exact absurd h (by decide)

end OracleDriver
