import OracleDriver.ColumnarBuilder
import OracleDriver.OptimalNumbers

/-! A columnar column holds one entry for each row that was appended, also when it becomes a list on
the way. -/

namespace OracleDriver

open DecimalText FixedWidth Bitmap

section Validity

variable {validity : List (BitVec 8)} {rows : List Bool}

lemma setValidityBit_marks (h : Marks validity rows) (b : Bool) :
    Marks (oracleColumnarSetValidityBit validity rows.length b) (rows ++ [b]) := by
  have hlen := h.length
  simp only [oracleColumnarSetValidityBit]
  by_cases hgrow : validity.length ≤ rows.length / 8
  · have hsize : rows.length / 8 + 1 = size (rows.length + 1) := by
      rw [size]
      omega
    rw [if_pos hgrow, hsize]
    obtain ⟨hlen', hbits⟩ := h.grown 0
    exact Marks.push hlen' hbits b
  · have hsize : size rows.length = size (rows.length + 1) := by
      rw [size] at hlen ⊢
      rw [size]
      omega
    rw [if_neg hgrow]
    exact Marks.push (hlen.trans hsize) h.bit b

lemma setValidityBit_sized (hlen : validity.length = size (rows.length + 1))
    (hbits : ∀ i (h : i < rows.length), bit validity i = rows[i]) (b : Bool) :
    Marks (oracleColumnarSetValidityBit validity rows.length b) (rows ++ [b]) := by
  have hgrow : ¬validity.length ≤ rows.length / 8 := by
    rw [hlen, size]
    omega
  simp only [oracleColumnarSetValidityBit]
  rw [if_neg hgrow]
  exact Marks.push hlen hbits b

lemma isValid_lazy (h : Lazy validity rows) {i : ℕ} (hi : i < rows.length) :
    oracleColumnarIsValid validity i = rows[i] := by
  simp only [oracleColumnarIsValid]
  by_cases hl : false ∈ rows
  · have hm := h.marks hl
    have hne : validity ≠ [] := fun hv => h.nil_iff.mp hv hl
    rw [if_neg hne, decide_eq_true (hm.div_lt hi), Bool.true_and, ← hm.bit i hi]
    exact and_mask_ne_zero _
  · rw [if_pos (h.eq_nil hl)]
    cases hr : rows[i] with
    | true => rfl
    | false => exact absurd (hr ▸ List.getElem_mem hi) hl

lemma ensureValidity_null {b : OracleColumnarBuilder} (h : Lazy b.storage.validity rows)
    (hr : b.rowCount = rows.length) :
    Marks (oracleColumnarSetValidityBit b.ensureValidity b.rowCount false) (rows ++ [false]) := by
  rw [hr]
  by_cases hl : false ∈ rows
  · have hne : b.storage.validity ≠ [] := fun hv => h.nil_iff.mp hv hl
    obtain ⟨hlen, hbits⟩ := (h.marks hl).grown 0
    rw [OracleColumnarBuilder.ensureValidity, if_pos hne, hr]
    exact setValidityBit_sized hlen hbits false
  · have hnil := h.eq_nil hl
    rw [OracleColumnarBuilder.ensureValidity, if_neg (not_not_intro hnil), hnil, hr]
    apply setValidityBit_sized (length_resize ..)
    intro i hi
    have hlt : i / 8 < size (rows.length + 1) := by
      rw [size]
      omega
    have htrue : rows[i] = true := by
      cases hrow : rows[i] with
      | true => rfl
      | false => exact absurd (hrow ▸ List.getElem_mem hi) hl
    rw [htrue, resize, List.take_nil, List.nil_append, List.length_nil, Nat.sub_zero]
    exact bit_ones hlt

lemma appendValid_lazy (h : Lazy validity rows) :
    Lazy (if validity ≠ [] then oracleColumnarSetValidityBit validity rows.length true else validity)
      (rows ++ [true]) := by
  have hmem : false ∈ rows ++ [true] ↔ false ∈ rows := by simp
  by_cases hl : false ∈ rows
  · have hne : validity ≠ [] := fun hv => h.nil_iff.mp hv hl
    rw [Lazy, if_pos (hmem.mpr hl), if_pos hne]
    exact setValidityBit_marks (h.marks hl) true
  · have hnil := h.eq_nil hl
    rw [Lazy, if_neg (mt hmem.mp hl), if_neg (not_not_intro hnil), hnil]

end Validity

structure Appended where
  row : FetchedRow
  value : Except Exn QoreValue

namespace OracleColumnarBuilder

def valueCount (kind : OracleColumnarKind) (s : OracleColumnarStorage) : ℕ :=
  match kind with
  | .float64 => s.floatValues.length
  | .decimal128 => s.decimalValues.length
  | _ => s.intValues.length

section Runs

variable (opt : NumberOption) (enc : Encoding)

-- the value of a row for the column as it is before the row
def offered (b : OracleColumnarBuilder) (r : FetchedRow) : Except Exn QoreValue :=
  match b.kind with
  | .int64 => .ok (if r.ind = -1 then .null else .int r.word.toInt)
  | .float64 => .ok (if r.ind = -1 then .null else .float r.word.toNat)
  | .decimal128 => .ok (if r.ind = -1 then .null else .number r.text)
  | .numberOptimal =>
    if r.ind = -1 then .ok .null
    else (oracleColumnarParseInt64 r.text).elim (r.getValue opt enc b.column) fun i => .ok (.int i)
  | .list => r.getValue opt enc b.column

end Runs

def intOf : Except Exn QoreValue → ℤ
  | .ok (.int i) => i
  | _ => 0

structure Buffered (b : OracleColumnarBuilder) (done : List Appended) : Prop where
  numeric : b.column.numeric = true
  values : valueCount b.kind b.storage = done.length
  ints : b.kind = .numberOptimal → b.storage.intValues = done.map fun a => intOf a.value
  entries : b.kind = .numberOptimal → ∀ a ∈ done, a.row.isNull b.column = false →
    ∃ i, a.value = .ok (.int i)
  nulls : b.nullCount = done.countP fun a => a.row.isNull b.column
  validity : Lazy b.storage.validity (done.map fun a => !a.row.isNull b.column)

structure Built (b : OracleColumnarBuilder) (done : List Appended) : Prop where
  rows : b.rowCount = done.length
  null_iff : ∀ a ∈ done, a.value = .ok .null ↔ a.row.isNull b.column = true
  ok : ∀ a ∈ done, ∃ v, a.value = .ok v
  buffered : b.kind ≠ .list → Buffered b done
  listed : b.kind = .list → b.list.map Except.ok = done.map Appended.value

section Steps

variable {opt : NumberOption} {enc : Encoding} {b : OracleColumnarBuilder} {r : FetchedRow}
  {done : List Appended}

lemma isNull_numeric {column : ColumnBuffer} (h : column.numeric = true) :
    r.isNull column = (r.ind == -1) := by
  simp [FetchedRow.isNull, h]

lemma nullConverted_iff {v : Except Exn QoreValue} : nullConverted v = true ↔ v = .ok .null := by
  constructor
  · intro h
    unfold nullConverted at h
    split at h
    · rfl
    · exact absurd h Bool.false_ne_true
  · intro h
    rw [h]
    rfl

lemma getNumberOptimal_ne_null (str : Text) : getNumberOptimal str ≠ .null := by
  by_cases h : '.' ∉ str ∧ FitsLength str
  · rw [getNumberOptimal_int h.1 h.2]
    exact nofun
  · rw [getNumberOptimal_number h]
    exact nofun

lemma getValue_null (column : ColumnBuffer) :
    r.getValue opt enc column = .ok .null ↔ r.isNull column = true := by
  by_cases hr : r.ind = -1
  · simp [FetchedRow.getValue, FetchedRow.isNull, hr]
  cases hn : column.numeric with
  | true =>
    rw [isNull_numeric hn, beq_eq_false_iff_ne.mpr hr]
    simp only [ColumnBuffer.numeric, decide_eq_true_eq, List.mem_cons, List.not_mem_nil, or_false] at hn
    rcases hn with hd | hd | hd | hd | hd | hd | hd | hd | hd <;> cases opt <;>
      simp [FetchedRow.getValue, hr, hd, getNumberOptimal_ne_null]
  | false =>
    simp only [FetchedRow.isNull, beq_eq_false_iff_ne.mpr hr, hn, Bool.not_false, Bool.true_and,
      Bool.false_or]
    rw [nullConverted_iff]
    simp only [ColumnBuffer.numeric, decide_eq_false_iff_not, List.mem_cons, List.not_mem_nil,
      or_false, not_or] at hn
    simp [FetchedRow.getValue, hr, hn]

lemma new_built (column : ColumnBuffer) (name : Text) : Built (new column name opt) [] where
  rows := rfl
  null_iff := nofun
  ok := nofun
  buffered hk := by
    refine ⟨?_, ?_, fun _ => rfl, fun _ => nofun, rfl, rfl⟩
    · simp only [new, columnKind] at hk ⊢
      split at hk <;> simp_all [ColumnBuffer.numeric]
    · unfold valueCount
      split <;> rfl
  listed _ := rfl

lemma offered_null (hk : b.kind ≠ .list → b.column.numeric = true) :
    b.offered opt enc r = .ok .null ↔ r.isNull b.column = true := by
  by_cases hlist : b.kind = .list
  · rw [offered, hlist]
    exact getValue_null b.column
  rw [isNull_numeric (hk hlist), beq_iff_eq]
  by_cases hr : r.ind = -1
  · cases hkind : b.kind <;> simp_all [offered]
  · cases hkind : b.kind with
    | int64 | float64 | decimal128 => simp [offered, hkind, hr]
    | numberOptimal =>
      cases hp : oracleColumnarParseInt64 r.text with
      | some i => simp [offered, hkind, hr, hp]
      | none => simp [offered, hkind, hr, hp, getValue_null, isNull_numeric (hk hlist)]
    | list => exact absurd hkind hlist

lemma built_push {b' : OracleColumnarBuilder} {v : QoreValue} (h : Built b done)
    (hcol : b'.column = b.column)
    (hrows : b'.rowCount = b.rowCount + 1) (hv : b.offered opt enc r = .ok v)
    (hbuf : b'.kind ≠ .list → Buffered b' (done ++ [⟨r, .ok v⟩]))
    (hlist : b'.kind = .list → b'.list.map Except.ok = done.map Appended.value ++ [.ok v]) :
    Built b' (done ++ [⟨r, b.offered opt enc r⟩]) where
  rows := by rw [hrows, h.rows, List.length_append, List.length_singleton]
  null_iff a ha := by
    rw [hcol]
    rcases List.mem_append.mp ha with ha | ha
    · exact h.null_iff a ha
    · rw [List.mem_singleton.mp ha]
      exact offered_null fun hk => (h.buffered hk).numeric
  ok a ha := by
    rcases List.mem_append.mp ha with ha | ha
    · exact h.ok a ha
    · rw [List.mem_singleton.mp ha]
      exact ⟨v, hv⟩
  buffered hk := by
    rw [hv]
    exact hbuf hk
  listed hk := by
    rw [hv, hlist hk, List.map_append]
    rfl

lemma appendNull_built (h : Built b done) (hk : b.kind ≠ .list) (hr : r.ind = -1) :
    Built b.appendNull (done ++ [⟨r, b.offered opt enc r⟩]) := by
  have hb := h.buffered hk
  have hnull : r.isNull b.column = true := by rw [isNull_numeric hb.numeric, hr, beq_self_eq_true]
  have hbuf : Buffered b.appendNull (done ++ [⟨r, .ok .null⟩]) := by
    refine ⟨hb.numeric, ?_, ?_, ?_, ?_, ?_⟩
    · rw [List.length_append, List.length_singleton, ← hb.values]
      cases hkind : b.kind <;> simp [appendNull, valueCount, pushZero, hkind]
    · intro hopt
      have hopt : b.kind = .numberOptimal := hopt
      simp [appendNull, hopt, pushZero, hb.ints hopt, intOf]
    · intro hopt a ha hnot
      rcases List.mem_append.mp ha with ha | ha
      · exact hb.entries hopt a ha hnot
      · rw [List.mem_singleton.mp ha] at hnot
        exact absurd (hnull.symm.trans hnot) (by decide)
    · simp [appendNull, hb.nulls, hnull, List.countP_append]
    · rw [List.map_append, List.map_singleton, Lazy, if_pos (by simp [appendNull, hnull])]
      have hm := ensureValidity_null hb.validity (by rw [h.rows, List.length_map])
      cases hkind : b.kind <;> simpa [appendNull, pushZero, hkind, hnull] using hm
  exact built_push h rfl rfl ((offered_null fun _ => hb.numeric).mpr hnull) (fun _ => hbuf)
    fun hlist => absurd hlist hk

lemma appendValid_built (h : Built b done) (hk : b.kind ≠ .list) (hr : r.ind ≠ -1)
    {s : OracleColumnarStorage} {v : QoreValue}
    (hv : b.offered opt enc r = .ok v) (hvalid : s.validity = b.storage.validity)
    (hvals : valueCount b.kind s = valueCount b.kind b.storage + 1)
    (hints : b.kind = .numberOptimal → ∃ i, v = .int i ∧ s.intValues = b.storage.intValues ++ [i]) :
    Built { b with storage := s }.appendValid (done ++ [⟨r, b.offered opt enc r⟩]) := by
  have hb := h.buffered hk
  have hnull : r.isNull b.column = false := by rw [isNull_numeric hb.numeric, beq_eq_false_iff_ne.mpr hr]
  have hbuf : Buffered { b with storage := s }.appendValid (done ++ [⟨r, .ok v⟩]) := by
    refine ⟨hb.numeric, ?_, ?_, ?_, ?_, ?_⟩
    · rw [List.length_append, List.length_singleton, ← hb.values, ← hvals]
      rfl
    · intro hopt
      have hopt : b.kind = .numberOptimal := hopt
      obtain ⟨i, rfl, hs⟩ := hints hopt
      simp [appendValid, hs, hb.ints hopt, intOf]
    · intro hopt a ha hnot
      rcases List.mem_append.mp ha with ha | ha
      · exact hb.entries hopt a ha hnot
      · obtain ⟨i, rfl, -⟩ := hints hopt
        exact ⟨i, by rw [List.mem_singleton.mp ha]⟩
    · simp [appendValid, hb.nulls, hnull, List.countP_append]
    · have hl := appendValid_lazy hb.validity
      rw [List.length_map, ← h.rows, ← hvalid] at hl
      simpa [appendValid, hnull] using hl
  exact built_push h rfl rfl hv (fun _ => hbuf) fun hlist => absurd hlist hk

-- an append that succeeds adds its row, and one that fails adds nothing
def Keeps (opt : NumberOption) (enc : Encoding) (b : OracleColumnarBuilder) (r : FetchedRow)
    (done : List Appended) :
    Except Failure Unit × OracleColumnarBuilder → Prop
  | (.ok (), b') => Built b' (done ++ [⟨r, b.offered opt enc r⟩])
  | (.error _, b') => Built b' done

lemma appendList_keeps (h : Built b done) (hk : b.kind = .list) :
    Keeps opt enc b r done (b.appendList opt enc r) := by
  have hoff : b.offered opt enc r = r.getValue opt enc b.column := by rw [offered, hk]
  rw [appendList]
  cases hv : r.getValue opt enc b.column with
  | error x => exact h
  | ok v =>
    refine built_push h rfl rfl (hoff.trans hv) (fun hne => absurd hk hne) fun _ => ?_
    simp [h.listed hk]

lemma Built.values_exist (h : Built b done) : ∃ values :
    List QoreValue, values.map Except.ok = done.map Appended.value := by
  have hok := h.ok
  clear h
  induction done with
  | nil => exact ⟨[], rfl⟩
  | cons a done ih =>
    obtain ⟨v, hv⟩ := hok a List.mem_cons_self
    obtain ⟨values, hvalues⟩ := ih fun c hc => hok c (List.mem_cons_of_mem a hc)
    exact ⟨v :: values, by rw [List.map_cons, List.map_cons, hv, hvalues]⟩

lemma fallbackRows_eq (cancel : ℕ → Option Exn) {s : OracleColumnarStorage} {f : ℕ → QoreValue}
    {rows : List ℕ}
    (hf : ∀ i ∈ rows, if oracleColumnarIsValid s.validity i then ∃ v,
      s.intValues[i]? = some v ∧ f i = .int v
      else f i = .null) (list : List QoreValue) :
    match fallbackRows cancel s rows list with
    | (.ok (), l) => l = list ++ rows.map f
    | (.error e, _) => ∃ i x, cancel i = some x ∧ e = .raised x := by
  induction rows generalizing list with
  | nil => rw [fallbackRows, List.map_nil, List.append_nil]
  | cons i rows ih =>
    have hi := hf i List.mem_cons_self
    have hrest := ih (fun j hj => hf j (List.mem_cons_of_mem i hj)) (list ++ [f i])
    rw [List.append_assoc, List.singleton_append, ← List.map_cons] at hrest
    rw [fallbackRows]
    cases hc : if i ≠ 0 ∧ i % 100 = 0 then cancel i else none with
    | some x =>
      have hcancel : cancel i = some x := by
        split at hc
        · exact hc
        · exact absurd hc nofun
      exact ⟨i, x, hcancel, rfl⟩
    | none =>
      cases hv : oracleColumnarIsValid s.validity i with
      | true =>
        rw [hv, if_pos rfl] at hi
        obtain ⟨v, hget, hfi⟩ := hi
        rw [hfi] at hrest
        simpa only [if_true, hget] using hrest
      | false =>
        rw [hv, if_neg Bool.false_ne_true] at hi
        rw [hi] at hrest
        simpa only [Bool.false_eq_true, if_false] using hrest

/-- An entry of the integer column is the value offered for its row, which the fallback reads back. -/
lemma Built.entry_at (h : Built b done) (hk : b.kind = .numberOptimal) {values : List QoreValue}
    (hvalues : values.map Except.ok = done.map Appended.value) {i : ℕ} (hi : i < done.length) :
    if oracleColumnarIsValid b.storage.validity i then
      ∃ v, b.storage.intValues[i]? = some v ∧ values.getD i .null = .int v
    else values.getD i .null = .null := by
  have hb := h.buffered (by rw [hk]; exact nofun)
  have hlen : values.length = done.length := by simpa using congrArg List.length hvalues
  have hvi : .ok (values.getD i .null) = done[i].value := by
    have hget := congrArg (·[i]?) hvalues
    simpa [hi, hlen] using hget
  rw [isValid_lazy hb.validity (by rwa [List.length_map]), List.getElem_map]
  cases hnull : done[i].row.isNull b.column with
  | true =>
    have hv := (h.null_iff done[i] (List.getElem_mem hi)).mpr hnull
    simpa [hv] using hvi
  | false =>
    obtain ⟨v, hv⟩ := hb.entries hk done[i] (List.getElem_mem hi) hnull
    refine ⟨v, ?_, ?_⟩
    · simp [hb.ints hk, hi, hv, intOf]
    · simpa [hv] using hvi

lemma fallbackToList_built (h : Built b done) (hk : b.kind = .numberOptimal) (cancel : ℕ → Option Exn) :
    match b.fallbackToList cancel with
    | (.ok (), b') => Built b' done ∧ b'.kind = .list ∧ b'.column = b.column
    | (.error e, b') => Built b' done ∧ ∃ i x, cancel i = some x ∧ e = .raised x := by
  have hne : b.kind ≠ .list := by rw [hk]; exact nofun
  have hb := h.buffered hne
  obtain ⟨values, hvalues⟩ := h.values_exist
  have hlen : values.length = done.length := by simpa using congrArg List.length hvalues
  have hentry := fun i (hi : i ∈ List.range b.rowCount) =>
    h.entry_at hk hvalues (by rwa [List.mem_range, h.rows] at hi)
  have hrows := fallbackRows_eq cancel hentry []
  rw [fallbackToList]
  rcases hfr : fallbackRows cancel b.storage (List.range b.rowCount) [] with ⟨x | u, l⟩
  · rw [hfr] at hrows
    exact ⟨⟨h.rows, h.null_iff, h.ok, fun _ =>
      ⟨hb.numeric, hb.values, hb.ints, hb.entries, hb.nulls, hb.validity⟩,
      fun hlist => absurd hlist hne⟩, hrows⟩
  · rw [hfr] at hrows
    have hall : (List.range b.rowCount).map (fun i => values.getD i .null) = values := by
      apply List.ext_getElem
      · rw [List.length_map, List.length_range, h.rows, hlen]
      · intro i _ hi
        simp [hi]
    have hl : l = values := by rw [hrows, List.nil_append, hall]
    exact ⟨⟨h.rows, h.null_iff, h.ok, fun hnot => absurd rfl hnot, fun _ => hl ▸ hvalues⟩, rfl, rfl⟩

/-- The row that made the column fall back is appended to the list as it would be to a column that
was a list. -/
lemma fallback_keeps (h : Built b done) (hk : b.kind = .numberOptimal)
    (hoff : b.offered opt enc r = r.getValue opt enc b.column) {b' : OracleColumnarBuilder}
    (hfr : b.fallbackToList r.cancel = (.ok (), b')) :
    Keeps opt enc b r done (b'.appendList opt enc r) := by
  have hf := fallbackToList_built h hk r.cancel
  rw [hfr] at hf
  obtain ⟨hbuilt, hlist, hcol⟩ := hf
  have hoff' : b'.offered opt enc r = b.offered opt enc r := by rw [hoff, offered, hlist, hcol]
  have hkeeps : Keeps opt enc b' r done (b'.appendList opt enc r) := appendList_keeps hbuilt hlist
  unfold Keeps at hkeeps ⊢
  rwa [hoff'] at hkeeps

lemma append_keeps (h : Built b done) : Keeps opt enc b r done (b.append opt enc r) := by
  by_cases hlist : b.kind = .list
  · rw [append, if_pos hlist]
    exact appendList_keeps h hlist
  rw [append, if_neg hlist]
  by_cases hr : r.ind = -1
  · rw [if_pos hr]
    exact appendNull_built h hlist hr
  rw [if_neg hr]
  split
  case _ hk =>
    refine appendValid_built (v := .int r.word.toInt) h hlist hr ?_ rfl ?_ ?_
    · simp [offered, hk, hr]
    · simp [hk, valueCount]
    · simp [hk]
  case _ hk =>
    refine appendValid_built (v := .float r.word.toNat) h hlist hr ?_ rfl ?_ ?_
    · simp [offered, hk, hr]
    · simp [hk, valueCount]
    · simp [hk]
  case _ hk =>
    split
    · exact h
    · exact h
    · refine appendValid_built (v := .number r.text) h hlist hr ?_ rfl ?_ ?_
      · simp [offered, hk, hr]
      · simp [hk, valueCount]
      · simp [hk]
  case _ hk =>
    split
    case _ i hp =>
      refine appendValid_built (v := .int i) h hlist hr ?_ rfl ?_ ?_
      · simp [offered, hk, hr, hp]
      · simp [hk, valueCount]
      · intro _
        exact ⟨i, rfl, rfl⟩
    case _ hp =>
      have hoff : b.offered opt enc r = r.getValue opt enc b.column := by
        simp [offered, hk, hr, hp, FetchedRow.getValue]
      split
      case _ e b' hfr =>
        have hf := fallbackToList_built h hk r.cancel
        rw [hfr] at hf
        exact hf.1
      case _ b' hfr => exact fallback_keeps h hk hoff hfr
  case _ hk => exact h

end Steps

/-- The column after any sequence of appends, `done` being those that succeeded. -/
def Aligned (b : OracleColumnarBuilder) (done : List Appended) : Prop :=
  (b.kind ≠ .list →
    valueCount b.kind b.storage = b.rowCount ∧ b.rowCount = done.length ∧
    b.nullCount = (done.filter fun a => a.row.ind = -1).length ∧
    (b.storage.validity = [] ↔ ∀ a ∈ done, a.row.ind ≠ -1) ∧
    (b.storage.validity ≠ [] → b.storage.validity.length = (b.rowCount + 7) / 8 ∧
      ∀ (i : ℕ) (h : i < done.length), bit b.storage.validity i = false ↔ done[i].row.ind = -1)) ∧
  (b.kind = .list →
    b.list.length = b.rowCount ∧ b.rowCount = done.length ∧
    ∀ (i : ℕ) (h : i < done.length), ∃ v, b.list[i]? = some v ∧ done[i].value = .ok v ∧
      (v = .null ↔ done[i].row.isNull b.column = true))

section Aligned

variable {b : OracleColumnarBuilder} {done : List Appended}

end Aligned

end OracleColumnarBuilder

end OracleDriver
