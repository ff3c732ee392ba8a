import OracleDriver.ColumnarNumbers
import OracleDriver.FetchErrors

/-! A columnar select has the values of an ordinary one, cell by cell, and fails where it fails. -/

namespace OracleDriver

open DecimalText FixedWidth Bitmap

-- what a reader of a column finds in a row; a decimal is given by its digits and their scale
inductive ColumnarCell where
  | value (v : QoreValue)
  | decimal (unscaled scale : ℤ)

def QoreBufferNode.cell (n : QoreBufferNode) (i : ℕ) : ColumnarCell :=
  if n.validity.elim true (bit · i) then
    match n.elementType with
    | .int64 => .value (.int (n.data.intValues.getD i 0))
    | .float64 => .value (.float (n.data.floatValues.getD i 0))
    | .decimal128 =>
      .decimal (n.data.decimalValues[i]?.elim 0 (·.value)) (n.decimal.elim 0 Prod.snd)
  else .value .null

def ColumnarColumn.cells : ColumnarColumn → List ColumnarCell
  | .list l => l.map .value
  | .buffer n => (List.range n.rowCount).map n.cell

-- where fetchColumnar() calls qore_check_cancel(), besides fallbackToList()
inductive CancelPoint where
  | builder (j : ℕ)
  | row (i : ℕ)
  | column (i j : ℕ)
  | finish (j : ℕ)

-- the buffers of a row with their columns
abbrev FetchedBuffers := List (ColumnBuffer × FetchedRow)

-- `nested` is what the rows of a cursor in a column are in an ordinary fetch of rows
structure ColumnarSelect where
  clist : List ColumnBuffer
  opt : NumberOption
  enc : Encoding
  nested : FetchedRow → Except Exn QoreValue
  checkCancel : CancelPoint → Option Exn
  atEnd : Option Exn

namespace ColumnarSelect

variable (s : ColumnarSelect)

def names : List Text := s.clist.map ColumnBuffer.name

def check (p : CancelPoint) (due : Bool) : Except Failure Unit :=
  match if due then s.checkCancel p else none with
  | some e => .error (.raised e)
  | none => .ok ()

def checkHundred (p : ℕ → CancelPoint) (j : ℕ) : Except Failure Unit :=
  s.check (p j) (j ≠ 0 ∧ j % 100 = 0)

def newBuilders : ℕ → List (ColumnBuffer × Text) → Except Failure (List OracleColumnarBuilder)
  | _, [] => .ok []
  | j, (w, name) :: columns => do
    s.checkHundred .builder j
    let builders ← newBuilders (j + 1) columns
    .ok (.new w name s.opt :: builders)

-- row `i` from column `j` on
def appendRow (i : ℕ) :
    ℕ → List (OracleColumnarBuilder × FetchedRow) → Except Failure (List OracleColumnarBuilder)
  | _, [] => .ok []
  | j, (b, r) :: row => do
    s.checkHundred (.column i) j
    let (res, b) := b.append s.opt s.enc r
    res
    let builders ← appendRow i (j + 1) row
    .ok (b :: builders)

def appendAll (rows : ℤ) : ℕ → List OracleColumnarBuilder → List FetchedBuffers →
    Except Failure (ℕ × List OracleColumnarBuilder) × List FetchedBuffers
  | num, builders, [] =>
    match s.atEnd with
    | some e => (.error (.raised e), [])
    | none => (.ok (num, builders), [])
  | num, builders, row :: left =>
    match (do s.check (.row num) (num % 100 = 0); s.appendRow num 0 (builders.zip (row.map Prod.snd))) with
    | .error e => (.error e, left)
    | .ok builders =>
      if 0 < rows ∧ (num : ℤ) + 1 = rows then (.ok (num + 1, builders), left)
      else appendAll rows (num + 1) builders left

def finishAll : ℕ → List OracleColumnarBuilder → Hash ColumnarColumn →
    Except Failure (Hash ColumnarColumn)
  | _, [], columns => .ok columns
  | j, b :: builders, columns => do
    s.checkHundred .finish j
    finishAll (j + 1) builders (columns.setKeyValue b.name b.finish)

-- QoreOracleStatement::fetchColumnar(), with the builders of the columns
def fetchColumnar (rows : ℤ) (c : Cursor (ColumnBuffer × FetchedRow)) :
    Except Failure (Hash ColumnarColumn) × Cursor (ColumnBuffer × FetchedRow) :=
  if c.fetchWarned then (.error (.raised FetchForm.columnar.warned), c)
  else if c.fetchComplete then (.ok [], { c with fetchWarned := true })
  else
    match s.newBuilders 0 (s.clist.zip (columnarNames s.names)) with
    | .error e => (.error e, c)
    | .ok builders =>
      match s.appendAll rows 0 builders c.left with
      | (.error e, left) =>
        (.error e, { c with left := left, fetchDone := c.fetchDone || !c.left.isEmpty })
      | (.ok (num, builders), left) =>
        (s.finishAll 0 builders [], ⟨left, true, (num : ℤ) < rows, false⟩)

-- getValue(true), which differs for a cursor (SQLT_RSET)
def rowValue (x : ColumnBuffer × FetchedRow) : Except Exn QoreValue :=
  if x.1.dtype = 116 ∧ x.2.ind ≠ -1 then s.nested x.2 else x.2.getValue s.opt s.enc x.1

-- the client of an ordinary fetch that is not cancelled
def rowClient : FetchErrors.Client (ColumnBuffer × FetchedRow) QoreValue where
  getValue _ x := s.rowValue x
  checkCancel _ := none
  atEnd := s.atEnd

def fetchRows (rows : ℤ) (c : Cursor (ColumnBuffer × FetchedRow)) :
    FetchErrors.Fetched (ColumnBuffer × FetchedRow) (List (Hash QoreValue)) :=
  FetchErrors.fetchRows s.rowClient s.names rows c

end ColumnarSelect

-- an integer, or a number that is made of a text which denotes `q`
def QoreValue.MadeOf : QoreValue → ℚ → Prop
  | .int i, q => (i : ℚ) = q
  | .number d, q => DecimalText.value d = some q
  | _, _ => False

-- the digits of a decimal are the number that the value of the row is made of
def ColumnarCell.Reads : ColumnarCell → QoreValue → Prop
  | .value v, w => v = w
  | .decimal unscaled scale, w => w.MadeOf (unscaled * 10 ^ (-scale))

-- what the server sends for a NUMBER: in a column with a declared precision and scale, a text
-- without an exponent that they allow
def Declared (column : ColumnBuffer) (r : FetchedRow) : Prop :=
  column.dtype = 2 → r.ind ≠ -1 → ∃ l : Literal, Printed l ∧ r.text = l.text ∧
    (oracleColumnarDecimalMetadataSupported column.precision column.scale = true →
      l.exp = none ∧ (l.fracDigits.length : ℤ) ≤ column.scale ∧
        ∃ m : ℤ, |m| < 10 ^ column.precision.toNat ∧ l.value = m * 10 ^ (-column.scale))

section Numbers

variable {p sc : ℤ} {t : Text} {l : Literal}

lemma val_of_exact {α : Type} {m : Calc α} {a : α} (h : m.exact = some a) : m.val = some a := by
  rw [Calc.exact] at h
  split at h
  · cases h
  · exact h

-- a number with no more places than the scale of the column is scaled up
lemma parse_scaled (hps : oracleColumnarDecimalMetadataSupported p sc = true) (col : String)
    (hl : Padded t l) (he : l.exponent.natAbs ≤ 76) {n : ℕ} (hn : sc - l.places = n)
    (hv : (l.sign.apply l.coefficient * 10 ^ n).natAbs < 10 ^ 38) :
    (oracleColumnarParseDecimal128 (some t) p sc col).exact =
      some (stored p sc col t (l.sign.apply l.coefficient * 10 ^ n)) := by
  rw [oracleColumnarDecimalMetadataSupported, decide_eq_true_eq] at hps
  obtain ⟨hp, hp', hs, hsp⟩ := hps
  have hprod : (l.sign.apply l.coefficient * 10 ^ n).natAbs = l.coefficient * 10 ^ n := by
    rw [Int.natAbs_mul, apply_natAbs, Int.natAbs_pow]
    rfl
  rw [parse_eq hl he]
  by_cases hzero : l.coefficient = 0
  · have hm : l.sign.apply l.coefficient * 10 ^ n = 0 := by simp [hzero, Sign.apply]
    rw [storeDigits_zero (allDigits_zeros l) (by rw [coefficient_eq, hzero]), hm, stored,
      if_pos (by simp), Calc.exact_pure]
  · have hlt : l.coefficient < 10 ^ 38 := by
      apply lt_of_le_of_lt _ hv
      rw [hprod]
      exact Nat.le_mul_of_pos_right _ (by positivity)
    rw [exact_storeDigits (allDigits_zeros l) (by rwa [coefficient_eq]) (by rwa [coefficient_eq]),
      coefficient_eq, signedValue_eq]
    rcases Nat.eq_zero_or_pos n with rfl | hpos
    · rw [pow_zero, mul_one] at hv ⊢
      rw [show (l.places : ℤ) = sc by omega, exact_rescale_same hp hv]
    · rw [exact_rescale_up hp (by omega) (by omega) (by omega), hn, Int.toNat_natCast, apply_natAbs,
        ← hprod, if_pos (hv.trans (by norm_num))]

lemma parse_declared (hps : oracleColumnarDecimalMetadataSupported p sc = true) (col : String)
    (hx : l.exp = none) (hfrac : (l.fracDigits.length : ℤ) ≤ sc) {m : ℤ} (hm : |m| < 10 ^ p.toNat)
    (hval : l.value = m * 10 ^ (-sc)) :
    ∃ out, (oracleColumnarParseDecimal128 (some l.text) p sc col).val = some (.ok out) ∧
      out.value = m := by
  have hp := hps
  rw [oracleColumnarDecimalMetadataSupported, decide_eq_true_eq] at hp
  have hexp : l.exponent = 0 := by rw [Literal.exponent, hx, Option.elim_none]
  have hplaces : (l.places : ℤ) = l.fracDigits.length := by
    rw [Literal.places, Literal.scale, hexp]
    omega
  obtain ⟨n, hn⟩ := Int.eq_ofNat_of_zero_le (show 0 ≤ sc - l.places by omega)
  have hmul : l.sign.apply l.coefficient * 10 ^ n = m := by
    rw [Literal.value_eq] at hval
    have hshift := congrArg (· * (10 : ℚ) ^ sc) hval
    simp only [mul_assoc, shift_eq, hn, zpow_natCast] at hshift
    rw [sub_self, zpow_zero, mul_one] at hshift
    exact_mod_cast hshift
  have hm38 := natAbs_lt_pow hp.2.1 hm
  have hl : Padded l.text l := ⟨[], [], List.forall_mem_nil _, List.forall_mem_nil _, by simp⟩
  have hparse := parse_scaled hps col hl (by rw [hexp]; decide) hn (by rwa [hmul])
  rw [hmul, stored, if_pos hm] at hparse
  exact ⟨_, val_of_exact hparse, storage_value (hm38.trans (by norm_num))⟩

lemma getNumberOptimal_madeOf (hl : Printed l) (hx : l.exp = none) :
    (getNumberOptimal l.text).MadeOf l.value := by
  by_cases hb : '.' ∉ l.text ∧ FitsLength l.text
  · have hf : l.frac = none := by
      have hsome := mt point_mem.mpr hb.1
      simpa using hsome
    rw [getNumberOptimal_whole hl hf hb.2]
    show ((l.sign.apply (digitsVal l.whole) : ℤ) : ℚ) = l.value
    rw [value_whole hf, Literal.exponent, hx, Option.elim_none, zpow_zero, mul_one]
  · rw [getNumberOptimal_number hb]
    exact value_text hl

lemma parseInt64_printed (hl : Printed l) {i : ℤ} (hp : oracleColumnarParseInt64 l.text = some i) :
    getNumberOptimal l.text = .int i := by
  cases hx : l.exp with
  | none => exact parseInt64_plain hl hx hp
  | some x =>
    have hmark : 'E' ∈ l.text := by
      simp [Literal.text, Literal.expText, hx, Exponent.text, hl.mark x hx]
    simp [oracleColumnarParseInt64, hmark] at hp

end Numbers

namespace OracleColumnarBuilder

-- what the storage has for a row that is not NULL
def stores (b : OracleColumnarBuilder) (i : ℕ) : ColumnarCell :=
  match b.kind with
  | .float64 => .value (.float (b.storage.floatValues.getD i 0))
  | .decimal128 => .decimal (b.storage.decimalValues[i]?.elim 0 (·.value)) b.column.scale
  | _ => .value (.int (b.storage.intValues.getD i 0))

-- a column to which the rows of `done` were appended
structure Tracks (opt : NumberOption) (enc : Encoding) (b : OracleColumnarBuilder)
    (done : List Appended) : Prop where
  built : Built b done
  kind : b.kind = columnKind b.column opt ∨
    b.kind = .list ∧ columnKind b.column opt = .numberOptimal
  values : b.kind ≠ .decimal128 → ∀ a ∈ done, a.value = a.row.getValue opt enc b.column
  stored : b.kind ≠ .list → ∀ i a, done[i]? = some a → a.row.ind ≠ -1 →
    ∃ v, a.row.getValue opt enc b.column = .ok v ∧ (b.stores i).Reads v

-- storages to which values are added
structure Grows (s s' : OracleColumnarStorage) : Prop where
  ints : s.intValues <+: s'.intValues
  floats : s.floatValues <+: s'.floatValues
  decimals : s.decimalValues <+: s'.decimalValues

lemma grows_appendNull (b : OracleColumnarBuilder) : Grows b.storage b.appendNull.storage := by
  cases hk : b.kind <;> constructor <;> simp [appendNull, pushZero, hk]

lemma stores_grows {b b' : OracleColumnarBuilder} (hk : b'.kind = b.kind) (hc : b'.column = b.column)
    (hg : Grows b.storage b'.storage) {i : ℕ} (hi : i < valueCount b.kind b.storage) :
    b'.stores i = b.stores i := by
  obtain ⟨ints, hints⟩ := hg.ints
  obtain ⟨floats, hfloats⟩ := hg.floats
  obtain ⟨decimals, hdecimals⟩ := hg.decimals
  rw [stores, stores, hk, hc, ← hints, ← hfloats, ← hdecimals]
  cases hkind : b.kind <;> rw [hkind] at hi <;> simp only [valueCount] at hi <;>
    simp only [List.getD_eq_getElem?_getD, List.getElem?_append_left hi]

section Tracks

variable {opt : NumberOption} {enc : Encoding} {b : OracleColumnarBuilder} {r : FetchedRow}
  {done : List Appended}

lemma new_tracks (column : ColumnBuffer) (name : Text) : Tracks opt enc (new column name opt) [] where
  built := new_built column name
  kind := Or.inl rfl
  values _ := nofun
  stored _ i a ha := by simp at ha

lemma columnKind_spec (column : ColumnBuffer) (opt : NumberOption) :
    match columnKind column opt with
    | .int64 => column.dtype ∈ [3, 68]
    | .float64 => column.dtype ∈ [4, 21, 22, 100, 101]
    | .decimal128 => column.dtype = 2 ∧ opt ≠ .string ∧
        oracleColumnarDecimalMetadataSupported column.precision column.scale = true
    | .numberOptimal => column.dtype = 2 ∧ opt = .optimal
    | .list => True := by
  by_cases hnum : column.dtype = 2
  · simp only [columnKind, hnum]
    by_cases hdec : opt ≠ .string ∧
        oracleColumnarDecimalMetadataSupported column.precision column.scale = true ∧
        ¬(opt = .optimal ∧ column.scale = 0 ∧ column.precision ≤ 18)
    · rw [if_pos hdec]
      exact ⟨trivial, hdec.1, hdec.2.1⟩
    · rw [if_neg hdec]
      by_cases ho : opt = .optimal
      · rw [if_pos ho]
        exact ⟨trivial, ho⟩
      · rw [if_neg ho]
        trivial
  by_cases hint : column.dtype = 3 ∨ column.dtype = 68
  · rcases hint with hd | hd <;> simp [columnKind, hd]
  by_cases hfloat : column.dtype ∈ [4, 21, 22, 100, 101]
  · simp only [List.mem_cons, List.not_mem_nil, or_false] at hfloat
    rcases hfloat with hd | hd | hd | hd | hd <;> simp [columnKind, hd]
  · simp only [List.mem_cons, List.not_mem_nil, or_false, not_or] at hint hfloat
    have hlist : columnKind column opt = .list := by simp [columnKind, hint, hfloat]
    simp only [hlist]

variable (enc) in
lemma getValue_numeric {column : ColumnBuffer} (hd : column.dtype = 2) (ho : opt ≠ .string)
    (hr : r.ind ≠ -1) :
    r.getValue opt enc column =
      .ok (if opt = .optimal then getNumberOptimal r.text else .number r.text) := by
  cases opt <;> simp_all [FetchedRow.getValue]

variable (opt enc) in
lemma getValue_word {column : ColumnBuffer} (hr : r.ind ≠ -1) :
    (column.dtype ∈ [3, 68] → r.getValue opt enc column = .ok (.int r.word.toInt)) ∧
      (column.dtype ∈ [4, 21, 22, 100, 101] →
        r.getValue opt enc column = .ok (.float r.word.toNat)) := by
  simp only [List.mem_cons, List.not_mem_nil, or_false]
  constructor
  · rintro (hd | hd) <;> simp [FetchedRow.getValue, hr, hd]
  · rintro (hd | hd | hd | hd | hd) <;> simp [FetchedRow.getValue, hr, hd]

lemma getValue_ind (hr : r.ind = -1) (column : ColumnBuffer) :
    r.getValue opt enc column = .ok .null := if_pos hr

lemma Tracks.push (h : Tracks opt enc b done) {b' : OracleColumnarBuilder} (hk : b.kind ≠ .list)
    (hbuilt : Built b' (done ++ [⟨r, b.offered opt enc r⟩])) (hkind : b'.kind = b.kind)
    (hcol : b'.column = b.column) (hgrow : Grows b.storage b'.storage)
    (hval : b.kind ≠ .decimal128 → b.offered opt enc r = r.getValue opt enc b.column)
    (hnew : r.ind ≠ -1 →
      ∃ v, r.getValue opt enc b.column = .ok v ∧ (b'.stores done.length).Reads v) :
    Tracks opt enc b' (done ++ [⟨r, b.offered opt enc r⟩]) where
  built := hbuilt
  kind := by
    rw [hkind, hcol]
    exact h.kind
  values hdec a ha := by
    rw [hkind] at hdec
    rw [hcol]
    rcases List.mem_append.mp ha with ha | ha
    · exact h.values hdec a ha
    · rw [List.mem_singleton.mp ha]
      exact hval hdec
  stored _ i a ha hr := by
    rw [hcol]
    by_cases hi : i < done.length
    · rw [List.getElem?_append_left hi] at ha
      rw [stores_grows hkind hcol hgrow (by rwa [(h.built.buffered hk).values])]
      exact h.stored hk i a ha hr
    · have hlen := (List.getElem?_eq_some_iff.mp ha).1
      rw [List.length_append, List.length_singleton] at hlen
      obtain rfl : i = done.length := by omega
      rw [List.getElem?_concat_length, Option.some.injEq] at ha
      subst ha
      exact hnew hr

lemma Tracks.pushList (h : Tracks opt enc b done) {b' : OracleColumnarBuilder}
    (hbuilt : Built b' (done ++ [⟨r, b.offered opt enc r⟩])) (hlist : b'.kind = .list)
    (hcol : b'.column = b.column) (hkind : b.kind = .list ∨ b.kind = .numberOptimal)
    (hval : b.offered opt enc r = r.getValue opt enc b.column) :
    Tracks opt enc b' (done ++ [⟨r, b.offered opt enc r⟩]) where
  built := hbuilt
  kind := by
    rw [hlist, hcol]
    rcases h.kind with hk | hk
    · rcases hkind with hb | hb <;> rw [hb] at hk
      · exact Or.inl hk
      · exact Or.inr ⟨rfl, hk.symm⟩
    · exact Or.inr ⟨rfl, hk.2⟩
  values _ a ha := by
    rw [hcol]
    rcases List.mem_append.mp ha with ha | ha
    · apply h.values _ a ha
      rcases hkind with hb | hb <;> simp [hb]
    · rw [List.mem_singleton.mp ha]
      exact hval
  stored hk := absurd hlist hk

lemma offered_ind (hr : r.ind = -1) : b.offered opt enc r = r.getValue opt enc b.column := by
  rw [getValue_ind hr]
  cases hk : b.kind with
  | list => rw [offered, hk, getValue_ind hr]
  | _ => simp [offered, hk, hr]

-- what an append leaves: a column that tracks the row too, or the exception of its value
def Steps (opt : NumberOption) (enc : Encoding) (b : OracleColumnarBuilder) (r : FetchedRow)
    (done : List Appended) : Except Failure Unit × OracleColumnarBuilder → Prop
  | (.ok (), b') => b'.column = b.column ∧ b'.name = b.name ∧
      Tracks opt enc b' (done ++ [⟨r, b.offered opt enc r⟩]) ∧
      ∃ v, r.getValue opt enc b.column = .ok v
  | (.error f, _) => ∃ e, f = .raised e ∧
      ((∃ k, r.cancel k = some e) ∨ r.getValue opt enc b.column = .error e)

lemma appendNull_steps (h : Tracks opt enc b done) (hk : b.kind ≠ .list) (hr : r.ind = -1) :
    Steps opt enc b r done (.ok (), b.appendNull) := by
  refine ⟨rfl, rfl, ?_, .null, getValue_ind hr b.column⟩
  apply h.push hk (appendNull_built h.built hk hr) rfl rfl
  · exact grows_appendNull b
  · exact fun _ => offered_ind hr
  · exact fun hne => absurd hr hne

lemma appendList_steps (h : Tracks opt enc b done) (hk : b.kind = .list) :
    Steps opt enc b r done (b.appendList opt enc r) := by
  have hkeeps : Keeps opt enc b r done (b.appendList opt enc r) := appendList_keeps h.built hk
  rw [appendList] at hkeeps ⊢
  cases hv : r.getValue opt enc b.column with
  | error e => exact ⟨e, rfl, Or.inr hv⟩
  | ok v =>
    rw [hv] at hkeeps
    refine ⟨rfl, rfl, ?_, v, hv⟩
    apply h.pushList hkeeps hk rfl (Or.inl hk)
    rw [offered, hk]

lemma appendValid_steps (h : Tracks opt enc b done) (hk : b.kind ≠ .list)
    {st : OracleColumnarStorage} {v : QoreValue} (hgrow : Grows b.storage st)
    (hbuilt : Built { b with storage := st }.appendValid (done ++ [⟨r, b.offered opt enc r⟩]))
    (hv : r.getValue opt enc b.column = .ok v) (hval : b.kind ≠ .decimal128 → b.offered opt enc r = .ok v)
    (hreads : ({ b with storage := st }.stores done.length).Reads v) :
    Steps opt enc b r done (.ok (), { b with storage := st }.appendValid) := by
  refine ⟨rfl, rfl, ?_, v, hv⟩
  apply h.push hk hbuilt rfl rfl
  · exact ⟨hgrow.ints, hgrow.floats, hgrow.decimals⟩
  · exact fun hdec => (hval hdec).trans hv.symm
  · exact fun _ => ⟨v, hv, hreads⟩

lemma fallbackToList_name {cancel : ℕ → Option Exn} {u : Unit} {b' : OracleColumnarBuilder}
    (h : b.fallbackToList cancel = (.ok u, b')) : b'.name = b.name := by
  rw [fallbackToList] at h
  split at h
  · cases h
  · cases h
    rfl

lemma append_steps (h : Tracks opt enc b done) (hd : Declared b.column r) :
    Steps opt enc b r done (b.append opt enc r) := by
  have hkeeps : Keeps opt enc b r done (b.append opt enc r) := append_keeps h.built
  have hspec := columnKind_spec b.column opt
  by_cases hlist : b.kind = .list
  · rw [append, if_pos hlist]
    exact appendList_steps h hlist
  rw [append, if_neg hlist] at hkeeps ⊢
  by_cases hr : r.ind = -1
  · rw [if_pos hr]
    exact appendNull_steps h hlist hr
  rw [if_neg hr] at hkeeps ⊢
  rw [(h.kind.resolve_right fun hk => hlist hk.1).symm] at hspec
  have hlen := (h.built.buffered hlist).values
  split at hkeeps
  case _ hk =>
    rw [hk] at hspec hlen
    have hv := (getValue_word opt enc hr).1 hspec
    apply appendValid_steps h hlist _ hkeeps hv
    · simp [offered, hk, hr]
    · simp only [valueCount] at hlen
      simp [stores, hk, ← hlen, ColumnarCell.Reads]
    · constructor <;> simp
  case _ hk =>
    rw [hk] at hspec hlen
    have hv := (getValue_word opt enc hr).2 hspec
    apply appendValid_steps h hlist _ hkeeps hv
    · simp [offered, hk, hr]
    · simp only [valueCount] at hlen
      simp [stores, hk, ← hlen, ColumnarCell.Reads]
    · constructor <;> simp
  case _ hk =>
    rw [hk] at hspec hlen
    obtain ⟨hnum, ho, hsup⟩ := hspec
    obtain ⟨l, hl, ht, hdecl⟩ := hd hnum hr
    obtain ⟨hx, hfrac, m, hm, hval⟩ := hdecl hsup
    obtain ⟨out, hout, hvalue⟩ := parse_declared hsup (String.ofList b.name) hx hfrac hm hval
    have hv := getValue_numeric enc hnum ho hr
    rw [← ht] at hout
    rw [hout] at hkeeps
    simp only [hout]
    apply appendValid_steps h hlist _ hkeeps hv (absurd hk)
    · simp only [valueCount] at hlen
      have hnumber : (if opt = .optimal then getNumberOptimal r.text else .number r.text).MadeOf
          l.value := by
        rw [ht]
        split
        · exact getNumberOptimal_madeOf hl hx
        · exact value_text hl
      rw [hval] at hnumber
      simpa [stores, hk, ← hlen, ColumnarCell.Reads, hvalue] using hnumber
    · constructor <;> simp
  case _ hk =>
    rw [hk] at hspec hlen
    obtain ⟨hnum, ho⟩ := hspec
    obtain ⟨l, hl, ht, -⟩ := hd hnum hr
    subst ho
    have hv := getValue_numeric enc hnum (by decide : NumberOption.optimal ≠ .string) hr
    rw [if_pos rfl] at hv
    cases hp : oracleColumnarParseInt64 r.text with
    | some i =>
      rw [hp] at hkeeps
      rw [ht, parseInt64_printed hl (ht ▸ hp)] at hv
      apply appendValid_steps h hlist _ hkeeps hv
      · simp [offered, hk, hr, hp]
      · simp only [valueCount] at hlen
        simp [stores, hk, ← hlen, ColumnarCell.Reads]
      · constructor <;> simp
    | none =>
      rw [hp] at hkeeps
      have hoff : b.offered .optimal enc r = r.getValue .optimal enc b.column := by
        simp [offered, hk, hr, hp]
      have hf := fallbackToList_built h.built hk r.cancel
      rcases hfr : b.fallbackToList r.cancel with ⟨e | u, b'⟩
      · rw [hfr] at hf
        obtain ⟨-, i, x, hcancel, he⟩ := hf
        exact ⟨x, he, Or.inl ⟨i, hcancel⟩⟩
      · rw [hfr] at hf hkeeps
        obtain ⟨-, hb, hcol⟩ := hf
        rw [← hcol] at hv
        simp only [appendList, hv] at hkeeps ⊢
        rw [hcol] at hv
        have hname := fallbackToList_name hfr
        exact ⟨hcol, hname, h.pushList hkeeps hb hcol (Or.inr hk) hoff, _, hv⟩
  case _ hk => exact absurd hk hlist

lemma finish_cells (hk : b.kind ≠ .list) : b.finish.cells = (List.range b.rowCount).map fun i =>
    if (if decide (0 < b.nullCount) ∧ b.storage.validity ≠ [] then some b.storage.validity
      else none).elim true (bit · i) then b.stores i
    else .value .null := by
  rw [finish, if_neg hk]
  cases hkind : b.kind with
  | list => exact absurd hkind hk
  | _ =>
    simp only [ColumnarColumn.cells, elementType, stores, hkind]
    rfl

lemma finish_reads (h : Tracks opt enc b done) {values : List QoreValue}
    (hvalues : done.map (fun a => a.row.getValue opt enc b.column) = values.map .ok) :
    List.Forall₂ ColumnarCell.Reads b.finish.cells values := by
  have hlen : done.length = values.length := by simpa using congrArg List.length hvalues
  have hat : ∀ (i : ℕ) (a : Appended) (v : QoreValue), done[i]? = some a → values[i]? = some v →
      a.row.getValue opt enc b.column = .ok v := by
    intro i a v ha hv
    have hget := congrArg (·[i]?) hvalues
    simpa [ha, hv] using hget
  by_cases hk : b.kind = .list
  · have hlist := h.built.listed hk
    have hsame : done.map Appended.value = values.map .ok := by
      rw [← hvalues]
      apply List.map_congr_left
      exact fun a ha => h.values (by rw [hk]; decide) a ha
    rw [hsame] at hlist
    have hinj : Function.Injective (Except.ok : QoreValue → Except Exn QoreValue) :=
      fun _ _ h => Except.ok.inj h
    rw [finish, if_pos hk, ColumnarColumn.cells, List.map_injective_iff.mpr hinj hlist,
      List.forall₂_map_left_iff]
    exact List.forall₂_same.mpr fun _ _ => rfl
  · have hbuf := h.built.buffered hk
    rw [finish_cells hk, List.forall₂_iff_get]
    refine ⟨by rw [List.length_map, List.length_range, h.built.rows, hlen], ?_⟩
    intro i hi hi'
    have hid : i < done.length := hlen ▸ hi'
    have hv := hat i done[i] values[i] (List.getElem?_eq_getElem hid) (List.getElem?_eq_getElem hi')
    simp only [List.get_eq_getElem, List.getElem_map, List.getElem_range]
    rw [entry_valid hbuf hid, isNull_numeric hbuf.numeric]
    by_cases hr : done[i].row.ind = -1
    · rw [getValue_ind hr, Except.ok.injEq] at hv
      simp [hr, ColumnarCell.Reads, hv]
    · obtain ⟨w, hw, hreads⟩ := h.stored hk i done[i] (List.getElem?_eq_getElem hid) hr
      rw [hv, Except.ok.injEq] at hw
      simpa [hr, hw] using hreads

end Tracks

end OracleColumnarBuilder

namespace ColumnarSelect

open OracleColumnarBuilder

variable (s : ColumnarSelect)

-- a column that has a list of values
def Has (b : OracleColumnarBuilder) (values : List QoreValue) : Prop :=
  ∃ done, Tracks s.opt s.enc b done ∧
    done.map (fun a => a.row.getValue s.opt s.enc b.column) = values.map .ok

def rowValues (row : FetchedBuffers) : Except Exn (List QoreValue) :=
  row.mapM fun x => x.2.getValue s.opt s.enc x.1

-- one of the checks finds that the thread is cancelled
def Cancels (row : FetchedBuffers) (e : Exn) : Prop :=
  (∃ p, s.checkCancel p = some e) ∨ ∃ x ∈ row, ∃ k, x.2.cancel k = some e

variable {s}

lemma has_reads {b : OracleColumnarBuilder} {values : List QoreValue} (h : s.Has b values) :
    List.Forall₂ ColumnarCell.Reads b.finish.cells values := by
  obtain ⟨done, htracks, hvalues⟩ := h
  exact finish_reads htracks hvalues

lemma has_append {b : OracleColumnarBuilder} {values : List QoreValue} {r : FetchedRow}
    (h : s.Has b values) (hd : Declared b.column r) :
    match b.append s.opt s.enc r with
    | (.ok (), b') => b'.column = b.column ∧ b'.name = b.name ∧
        ∃ v, r.getValue s.opt s.enc b.column = .ok v ∧ s.Has b' (values ++ [v])
    | (.error f, _) => ∃ e, f = .raised e ∧
        ((∃ k, r.cancel k = some e) ∨ r.getValue s.opt s.enc b.column = .error e) := by
  obtain ⟨done, htracks, hvalues⟩ := h
  have hsteps := append_steps htracks hd
  rcases hap : b.append s.opt s.enc r with ⟨f | u, b'⟩
  · rw [hap] at hsteps
    exact hsteps
  · rw [hap] at hsteps
    obtain ⟨hcol, hname, hnext, v, hv⟩ := hsteps
    refine ⟨hcol, hname, v, hv, _, hnext, ?_⟩
    rw [List.map_append, List.map_append, hcol, hvalues, List.map_singleton, hv]
    rfl

lemma check_cases (s : ColumnarSelect) (p : CancelPoint) (due : Bool) :
    s.check p due = .ok () ∨ ∃ e, s.checkCancel p = some e ∧ s.check p due = .error (.raised e) := by
  rw [check]
  cases due with
  | false => exact Or.inl rfl
  | true =>
    cases hc : s.checkCancel p with
    | none => exact Or.inl rfl
    | some e => exact Or.inr ⟨e, rfl, rfl⟩

lemma Cancels.mono {row row' : FetchedBuffers} {e : Exn} (h : s.Cancels row e) (hsub : row ⊆ row') :
    s.Cancels row' e := by
  rcases h with h | ⟨y, hy, h⟩
  · exact Or.inl h
  · exact Or.inr ⟨y, hsub hy, h⟩

lemma rowValues_cons (x : ColumnBuffer × FetchedRow) (row : FetchedBuffers) :
    s.rowValues (x :: row) = (x.2.getValue s.opt s.enc x.1).bind fun v =>
      (s.rowValues row).map (v :: ·) := by
  rw [rowValues, rowValues, List.mapM_cons]
  rfl

lemma appendRow_spec (i j : ℕ) {bs : List OracleColumnarBuilder} {cols : List (List QoreValue)}
    {row : FetchedBuffers} (hhas : List.Forall₂ s.Has bs cols)
    (hcols : bs.map (·.column) = row.map Prod.fst) (hd : ∀ x ∈ row, Declared x.1 x.2) :
    match s.appendRow i j (bs.zip (row.map Prod.snd)) with
    | .ok bs' => bs'.map (·.column) = bs.map (·.column) ∧ bs'.map (·.name) = bs.map (·.name) ∧
        ∃ values, s.rowValues row = .ok values ∧
          List.Forall₂ s.Has bs' (List.zipWith (fun l v => l ++ [v]) cols values)
    | .error f => ∃ e, f = .raised e ∧ (s.Cancels row e ∨ s.rowValues row = .error e) := by
  induction hhas generalizing j row with
  | nil =>
    cases row with
    | nil => exact ⟨rfl, rfl, [], rfl, .nil⟩
    | cons x row => simp at hcols
  | @cons b col bs cols hb hbs ih =>
    cases row with
    | nil => simp at hcols
    | cons x row =>
      simp only [List.map_cons, List.cons.injEq] at hcols
      obtain ⟨hcol, hcols⟩ := hcols
      have hrest := ih (j + 1) hcols fun y hy => hd y (List.mem_cons_of_mem x hy)
      have hstep := has_append hb (hcol ▸ hd x List.mem_cons_self)
      rw [List.map_cons, List.zip_cons_cons, appendRow, checkHundred]
      rcases check_cases s (.column i j) (j ≠ 0 ∧ j % 100 = 0) with hc | ⟨e, hcancel, hc⟩
      · rw [hc, rowValues_cons, ← hcol]
        rcases hap : b.append s.opt s.enc x.2 with ⟨f | u, b'⟩ <;> rw [hap] at hstep
        · obtain ⟨e, rfl, hk | hv⟩ := hstep
          · exact ⟨e, rfl, Or.inl (Or.inr ⟨x, List.mem_cons_self, hk⟩)⟩
          · exact ⟨e, rfl, Or.inr (by rw [hv]; rfl)⟩
        · obtain ⟨hcol', hname, v, hv, hb'⟩ := hstep
          rw [hv]
          cases hrow : s.appendRow i (j + 1) (bs.zip (row.map Prod.snd)) with
          | error f =>
            rw [hrow] at hrest
            obtain ⟨e, rfl, hk | hvs⟩ := hrest
            · exact ⟨e, rfl, Or.inl (hk.mono (List.subset_cons_self x row))⟩
            · exact ⟨e, rfl, Or.inr (by rw [hvs]; rfl)⟩
          | ok bs' =>
            rw [hrow] at hrest
            obtain ⟨hcols', hnames, values, hvs, hbs'⟩ := hrest
            refine ⟨?_, ?_, v :: values, by rw [hvs]; rfl, ?_⟩
            · simp [hcol', hcols']
            · simp [hname, hnames]
            · exact .cons hb' hbs'
      · rw [hc]
        exact ⟨e, rfl, Or.inl (Or.inl ⟨_, hcancel⟩)⟩

-- the columns of rows of values
def columnsOf (n : ℕ) (valss : List (List QoreValue)) : List (List QoreValue) :=
  (List.range n).map fun j => valss.map fun values => values.getD j .null

lemma columnsOf_concat {n : ℕ} {valss : List (List QoreValue)} {values : List QoreValue}
    (hlen : values.length = n) :
    columnsOf n (valss ++ [values]) =
      List.zipWith (fun l v => l ++ [v]) (columnsOf n valss) values := by
  apply List.ext_getElem
  · simp [columnsOf, hlen]
  · intro j h h'
    have hj : j < values.length := by
      rw [List.length_zipWith] at h'
      omega
    simp [columnsOf, hj]

lemma rowValues_length {row : FetchedBuffers} {values : List QoreValue} (h : s.rowValues row = .ok values) :
    values.length = row.length := by
  induction row generalizing values with
  | nil =>
    cases h
    rfl
  | cons x row ih =>
    rw [rowValues_cons] at h
    cases hv : x.2.getValue s.opt s.enc x.1 <;> cases hvs : s.rowValues row <;> rw [hv, hvs] at h <;>
      cases h
    simp [ih hvs]

-- the values of a row of an ordinary fetch
lemma convert_spec (i j : ℕ) {row : FetchedBuffers} {st : FetchErrors.State (List (Hash QoreValue))}
    (hrow : ∀ x ∈ row, x.1.dtype ≠ 116) (hs : st.xsink = []) : ∃ st', st'.acc = st.acc ∧
      match s.rowValues row with
      | .ok values => FetchErrors.convert .rows s.rowClient i j row st = (some values, st') ∧
          st'.xsink = []
      | .error e => FetchErrors.convert .rows s.rowClient i j row st = (none, st') ∧
          st'.xsink = [e] := by
  induction row generalizing j st with
  | nil => exact ⟨st, rfl, rfl, hs⟩
  | cons x row ih =>
    have hs' : (st.request (.value i j)).xsink = [] := hs
    obtain ⟨st', hacc, hrest⟩ := ih (j + 1) (fun y hy => hrow y (List.mem_cons_of_mem x hy)) hs'
    have hget : s.rowClient.getValue .rows x = x.2.getValue s.opt s.enc x.1 :=
      if_neg fun h => hrow x List.mem_cons_self h.1
    rw [rowValues_cons, FetchErrors.convert, FetchErrors.cancelColumn_none (fun _ => rfl)]
    cases hv : x.2.getValue s.opt s.enc x.1 with
    | error e =>
      refine ⟨(st.request (.value i j)).raise e, rfl, ?_, ?_⟩
      · simp only [hget, hv]
      · exact congrArg (· ++ [e]) hs'
    | ok v =>
      refine ⟨st', hacc, ?_⟩
      simp only [hget, hv, hs', ne_eq, not_true_eq_false, if_false]
      cases hvs : s.rowValues row with
      | error e =>
        rw [hvs] at hrest
        exact ⟨by rw [hrest.1]; rfl, hrest.2⟩
      | ok values =>
        rw [hvs] at hrest
        exact ⟨by rw [hrest.1]; rfl, hrest.2⟩

-- the ordinary fetch of the rows
abbrev rowLoop (s : ColumnarSelect) := FetchErrors.loop .rows s.rowClient
  (OracleDriver.fetchRows s.names fun _ v => v)

-- a column for each column of the result
structure Table (s : ColumnarSelect) (bs : List OracleColumnarBuilder)
    (valss : List (List QoreValue)) : Prop where
  has : List.Forall₂ s.Has bs (columnsOf s.clist.length valss)
  columns : bs.map (·.column) = s.clist
  names : bs.map (·.name) = columnarNames s.names
  width : ∀ values ∈ valss, values.length = s.clist.length

lemma table_row (num : ℕ) {bs : List OracleColumnarBuilder} {valss : List (List QoreValue)}
    {row : FetchedBuffers} (ht : s.Table bs valss) (hrow : row.map Prod.fst = s.clist)
    (hd : ∀ x ∈ row, Declared x.1 x.2) :
    match s.appendRow num 0 (bs.zip (row.map Prod.snd)) with
    | .ok bs' => ∃ values, s.rowValues row = .ok values ∧ s.Table bs' (valss ++ [values])
    | .error f => ∃ e, f = .raised e ∧ (s.Cancels row e ∨ s.rowValues row = .error e) := by
  have hspec := appendRow_spec num 0 ht.has (ht.columns.trans hrow.symm) hd
  cases ha : s.appendRow num 0 (bs.zip (row.map Prod.snd)) with
  | error f =>
    rw [ha] at hspec
    exact hspec
  | ok bs' =>
    rw [ha] at hspec
    obtain ⟨hcols, hnames, values, hvalues, hhas⟩ := hspec
    have hlen : values.length = s.clist.length := by
      rw [rowValues_length hvalues, ← hrow, List.length_map]
    refine ⟨values, hvalues, ?_, hcols.trans ht.columns, hnames.trans ht.names, ?_⟩
    · rwa [columnsOf_concat hlen]
    · intro vs hvs
      rcases List.mem_append.mp hvs with hvs | hvs
      · exact ht.width vs hvs
      · rw [List.mem_singleton.mp hvs, hlen]

-- both loops stop at the same row: with the same rows, or with the exception of a value
def LoopsAgree (s : ColumnarSelect) (rest : List FetchedBuffers) :
    Except Failure (ℕ × List OracleColumnarBuilder) × List FetchedBuffers →
    ℕ × List FetchedBuffers × FetchErrors.State (List (Hash QoreValue)) → Prop
  | (.ok (num, bs), left), (num', left', st) => num' = num ∧ left' = left ∧ st.xsink = [] ∧
      ∃ valss, s.Table bs valss ∧ st.acc = valss.map (fetchRow s.names)
  | (.error f, left), (_, left', st) => ∃ e, f = .raised e ∧
      (s.Cancels rest.flatten e ∨ left' = left ∧ st.xsink = [e])

lemma LoopsAgree.cons {row : FetchedBuffers} {rest : List FetchedBuffers}
    {x : Except Failure (ℕ × List OracleColumnarBuilder) × List FetchedBuffers}
    {y : ℕ × List FetchedBuffers × FetchErrors.State (List (Hash QoreValue))}
    (h : s.LoopsAgree rest x y) : s.LoopsAgree (row :: rest) x y := by
  obtain ⟨f | ⟨num, bs⟩, left⟩ := x
  · obtain ⟨e, he, hk | hend⟩ := h
    · exact ⟨e, he, Or.inl (hk.mono (by simp))⟩
    · exact ⟨e, he, Or.inr hend⟩
  · exact h

lemma appendAll_agrees (rows : ℤ) (num : ℕ) {bs : List OracleColumnarBuilder}
    {valss : List (List QoreValue)} {left : List FetchedBuffers}
    {st : FetchErrors.State (List (Hash QoreValue))} (hcursor : ∀ w ∈ s.clist, w.dtype ≠ 116)
    (ht : s.Table bs valss)
    (hleft : ∀ row ∈ left, row.map Prod.fst = s.clist ∧ ∀ x ∈ row, Declared x.1 x.2)
    (hs : st.xsink = []) (hacc : st.acc = valss.map (fetchRow s.names)) :
    s.LoopsAgree left (s.appendAll rows num bs left) (s.rowLoop rows num left st) := by
  induction left generalizing num bs valss st with
  | nil =>
    rw [appendAll, rowLoop, FetchErrors.loop]
    cases he : s.atEnd with
    | none =>
      refine ⟨rfl, rfl, ?_, valss, ht, hacc⟩
      show st.xsink ++ s.atEnd.toList = []
      rw [hs, he]
      rfl
    | some e =>
      refine ⟨e, rfl, Or.inr ⟨rfl, ?_⟩⟩
      show st.xsink ++ s.atEnd.toList = [e]
      rw [hs, he]
      rfl
  | cons row left ih =>
    obtain ⟨hrow, hd⟩ := hleft row List.mem_cons_self
    have hstep := table_row num ht hrow hd
    have hs' : (st.request .row).xsink = [] := hs
    have hplain : ∀ x ∈ row, x.1.dtype ≠ 116 := fun x hx =>
      hcursor x.1 (hrow ▸ List.mem_map_of_mem hx)
    obtain ⟨st', hacc', hconvert⟩ := convert_spec num 0 hplain hs'
    have hsub : row ⊆ (row :: left).flatten := by simp
    rw [appendAll, rowLoop, FetchErrors.loop, FetchErrors.cancelRow_none (fun _ => rfl)]
    rcases check_cases s (.row num) (num % 100 = 0) with hc | ⟨e, hcancel, hc⟩
    · rw [hc]
      cases ha : s.appendRow num 0 (bs.zip (row.map Prod.snd)) with
      | error f =>
        rw [ha] at hstep
        obtain ⟨e, rfl, hk | hv⟩ := hstep
        · exact ⟨e, rfl, Or.inl (hk.mono hsub)⟩
        · rw [hv] at hconvert
          simp only [hconvert.1]
          exact ⟨e, rfl, Or.inr ⟨rfl, hconvert.2⟩⟩
      | ok bs' =>
        rw [ha] at hstep
        obtain ⟨values, hv, ht'⟩ := hstep
        rw [hv] at hconvert
        let next : FetchErrors.State (List (Hash QoreValue)) :=
          { st' with acc := (OracleDriver.fetchRows s.names fun _ v => v).add st'.acc values }
        have hnext : next.acc = (valss ++ [values]).map (fetchRow s.names) := by
          show st'.acc ++ [fetchRow s.names (values.map fun v => v)] = _
          rw [hacc', List.map_append, ← hacc, List.map_id']
          rfl
        have hxsink : next.xsink = [] := hconvert.2
        simp only [hconvert.1, Option.isNone_some, Bool.false_eq_true, and_false, if_false]
        by_cases hend : 0 < rows ∧ (num : ℤ) + 1 = rows
        · simp only [if_pos hend]
          exact ⟨rfl, rfl, hxsink, _, ht', hnext⟩
        · simp only [if_neg hend]
          apply LoopsAgree.cons
          apply ih (num + 1) ht' _ hxsink hnext
          exact fun row hrow => hleft row (List.mem_cons_of_mem _ hrow)
    · rw [hc]
      exact ⟨e, rfl, Or.inl (Or.inl ⟨_, hcancel⟩)⟩

lemma newBuilders_spec (j : ℕ) (columns : List (ColumnBuffer × Text)) :
    s.newBuilders j columns = .ok (columns.map fun x => .new x.1 x.2 s.opt) ∨
      ∃ e, s.newBuilders j columns = .error (.raised e) ∧ s.Cancels [] e := by
  induction columns generalizing j with
  | nil => exact Or.inl rfl
  | cons x columns ih =>
    rw [newBuilders, checkHundred]
    rcases check_cases s (.builder j) (j ≠ 0 ∧ j % 100 = 0) with hc | ⟨e, hcancel, hc⟩
    · rw [hc]
      rcases ih (j + 1) with hrest | ⟨e, hrest, hk⟩
      · exact Or.inl (by rw [hrest]; rfl)
      · exact Or.inr ⟨e, by rw [hrest]; rfl, hk⟩
    · rw [hc]
      exact Or.inr ⟨e, rfl, Or.inl ⟨_, hcancel⟩⟩

lemma finishAll_spec (j : ℕ) (bs : List OracleColumnarBuilder) (columns : Hash ColumnarColumn) :
    s.finishAll j bs columns = .ok (bs.foldl (fun h b => h.setKeyValue b.name b.finish) columns) ∨
      ∃ e, s.finishAll j bs columns = .error (.raised e) ∧ s.Cancels [] e := by
  induction bs generalizing j columns with
  | nil => exact Or.inl rfl
  | cons b bs ih =>
    rw [finishAll, checkHundred]
    rcases check_cases s (.finish j) (j ≠ 0 ∧ j % 100 = 0) with hc | ⟨e, hcancel, hc⟩
    · rw [hc]
      exact ih (j + 1) (columns.setKeyValue b.name b.finish)
    · rw [hc]
      exact Or.inr ⟨e, rfl, Or.inl ⟨_, hcancel⟩⟩

lemma table_start :
    s.Table ((s.clist.zip (columnarNames s.names)).map fun x => .new x.1 x.2 s.opt) [] := by
  have hlen : s.clist.length = (columnarNames s.names).length := by
    rw [columnarNames_length, names, List.length_map]
  refine ⟨?_, ?_, ?_, nofun⟩
  · rw [List.forall₂_iff_get]
    refine ⟨by simp [columnsOf, ← hlen], fun i hi hi' => ?_⟩
    simp only [columnsOf, List.get_eq_getElem, List.getElem_map, List.map_nil]
    exact ⟨[], new_tracks _ _, rfl⟩
  · rw [List.map_map]
    exact List.map_fst_zip hlen.le
  · rw [List.map_map]
    exact List.map_snd_zip hlen.ge

-- a table with the keys and, cell by cell, the values of the rows
structure SameCells (keys : List Text) (table : Hash ColumnarColumn) (rs : List (Hash QoreValue)) :
    Prop where
  keys : table.keys = keys ∧ keys.Nodup ∧ ∀ r ∈ rs, r.keys = keys
  cells : ∀ k column, table.getKeyValue k = some column → ∃ values : List QoreValue,
    rs.map (·.getKeyValue k) = values.map some ∧ List.Forall₂ ColumnarCell.Reads column.cells values

-- the hash of the finished columns
def tableOf (bs : List OracleColumnarBuilder) : Hash ColumnarColumn :=
  bs.foldl (fun columns b => Hash.setKeyValue b.name b.finish columns) []

lemma tableOf_eq {bs : List OracleColumnarBuilder} (hn : (bs.map (·.name)).Nodup) :
    tableOf bs = (bs.map (·.name)).zip (bs.map finish) := by
  have hmap : tableOf bs = (bs.map fun b => (b.name, b.finish)).foldl
      (fun columns e => Hash.setKeyValue e.1 e.2 columns) [] := by
    rw [List.foldl_map]
    rfl
  rw [hmap, Hash.foldl_setKeyValue, List.nil_append, List.zip_map']
  simpa [Function.comp_def] using hn

lemma sameCells {bs : List OracleColumnarBuilder} {valss : List (List QoreValue)} (hn : NoClash s.names)
    (ht : s.Table bs valss) :
    SameCells (columnarNames s.names) (tableOf bs) (valss.map (fetchRow s.names)) := by
  have hnodup := hn.nodup
  have hcount : (columnarNames s.names).length = s.clist.length := by
    rw [columnarNames_length, names, List.length_map]
  have hlen : bs.length = s.clist.length := by rw [← ht.columns, List.length_map]
  have hrow : ∀ values ∈ valss, fetchRow s.names values = (columnarNames s.names).zip values := by
    intro values hvalues
    rw [fetchRow_eq (by rw [ht.width values hvalues, names, List.length_map]),
      rowKeys_eq_columnarNames hnodup]
  have hkeys : Hash.keys ((columnarNames s.names).zip (bs.map finish)) = columnarNames s.names :=
    List.map_fst_zip (by rw [hcount, List.length_map, hlen])
  rw [tableOf_eq (by rwa [ht.names]), ht.names]
  refine ⟨⟨hkeys, hnodup, ?_⟩, ?_⟩
  · intro r hr
    obtain ⟨values, hvalues, rfl⟩ := List.mem_map.mp hr
    rw [hrow values hvalues]
    exact List.map_fst_zip (by rw [hcount, ht.width values hvalues])
  · intro k column hk
    have hkey : k ∈ columnarNames s.names :=
      hkeys ▸ Hash.isSome_getKeyValue.mp (Option.isSome_iff_exists.mpr ⟨column, hk⟩)
    obtain ⟨j, hj⟩ := List.mem_iff_getElem?.mp hkey
    have hjlen : j < s.clist.length := by
      rw [← hcount]
      exact (List.getElem?_eq_some_iff.mp hj).1
    rw [Hash.getKeyValue_zip hnodup (by rw [hcount, List.length_map, hlen]) hj, List.getElem?_map,
      Option.map_eq_some_iff] at hk
    obtain ⟨b, hb, rfl⟩ := hk
    refine ⟨valss.map (·.getD j .null), ?_, ?_⟩
    · rw [List.map_map, List.map_map]
      apply List.map_congr_left
      intro values hvalues
      have hwidth := ht.width values hvalues
      simp only [Function.comp_apply]
      rw [hrow values hvalues, Hash.getKeyValue_zip hnodup (by rw [hcount, hwidth]) hj]
      simp [hwidth, hjlen]
    · obtain ⟨hjb, rfl⟩ := List.getElem?_eq_some_iff.mp hb
      have hhas := ht.has.get hjb (by simpa [columnsOf] using hjlen)
      simp only [columnsOf, List.get_eq_getElem, List.getElem_map, List.getElem_range] at hhas
      exact has_reads hhas

-- the results and the cursors behind a columnar fetch and an ordinary one
def FetchesAgree (keys : List Text)
    (x : Except Failure (Hash ColumnarColumn) × Cursor (ColumnBuffer × FetchedRow))
    (y : FetchErrors.Fetched (ColumnBuffer × FetchedRow) (List (Hash QoreValue))) : Prop :=
  x.2 = y.cursor ∧
    match x.1, y.result with
    | .ok table, some rs => y.xsink = [] ∧ SameCells keys table rs
    | .error f, none => ∃ e, f = .raised e ∧ y.xsink = [e]
    | _, _ => False

lemma fetchRows_eq {rows : ℤ} {c : Cursor (ColumnBuffer × FetchedRow)} (hw : c.fetchWarned = false)
    (hc : c.fetchComplete = false) {num : ℕ} {left : List FetchedBuffers}
    {st : FetchErrors.State (List (Hash QoreValue))}
    (h : s.rowLoop rows 0 c.left (.start []) = (num, left, st)) :
    s.fetchRows rows c =
      if st.xsink = [] then ⟨some st.acc, [], st.requests, ⟨left, true, (num : ℤ) < rows, false⟩⟩
      else ⟨none, st.xsink, st.requests,
        { c with left := left, fetchDone := c.fetchDone || !c.left.isEmpty }⟩ := by
  have hloop : FetchErrors.loop .rows s.rowClient (OracleDriver.fetchRows s.names fun _ v => v) rows 0
      c.left (.start (OracleDriver.fetchRows s.names fun _ v => v).start) = (num, left, st) := h
  rw [fetchRows, FetchErrors.fetchRows, FetchErrors.fetch, hw, hc, if_neg Bool.false_ne_true,
    if_neg Bool.false_ne_true, hloop]
  rfl

/-- A columnar fetch has the values of the rows that an ordinary one returns, or the exception, unless
it is cancelled. -/
theorem fetchColumnar_agrees (s : ColumnarSelect) (rows : ℤ) (c : Cursor (ColumnBuffer × FetchedRow))
    (hn : NoClash s.names) (hcursor : ∀ w ∈ s.clist, w.dtype ≠ 116) (hopen : c.fetchWarned = false)
    (hleft : ∀ row ∈ c.left, row.map Prod.fst = s.clist ∧ ∀ x ∈ row, Declared x.1 x.2) :
    (∃ e, (s.fetchColumnar rows c).1 = .error (.raised e) ∧ s.Cancels c.left.flatten e) ∨
      FetchesAgree (if c.fetchComplete then [] else columnarNames s.names) (s.fetchColumnar rows c)
        (s.fetchRows rows c) := by
  have hwarned : ¬c.fetchWarned = true := by rw [hopen]; exact Bool.false_ne_true
  rw [fetchColumnar, if_neg hwarned]
  by_cases hc : c.fetchComplete = true
  · rw [if_pos hc, if_pos hc, fetchRows, FetchErrors.fetchRows, FetchErrors.fetch, if_neg hwarned,
      if_pos hc]
    exact Or.inr ⟨rfl, rfl, ⟨rfl, List.nodup_nil, List.forall_mem_nil _⟩, fun k column h => by cases h⟩
  rw [if_neg hc, if_neg hc]
  rcases newBuilders_spec (s := s) 0 (s.clist.zip (columnarNames s.names)) with hb | ⟨e, hb, hk⟩
  · have hxsink : (FetchErrors.State.start ([] : List (Hash QoreValue))).xsink = [] := rfl
    have hloops := appendAll_agrees rows 0 hcursor table_start hleft hxsink rfl
    rw [hb]
    dsimp only
    rcases hrows : s.rowLoop rows 0 c.left (.start []) with ⟨num', left', st⟩
    rw [fetchRows_eq hopen (Bool.eq_false_iff.mpr hc) hrows]
    rcases hall : s.appendAll rows 0 _ c.left with ⟨f | ⟨num, bs⟩, left⟩ <;> rw [hall, hrows] at hloops
    · obtain ⟨e, rfl, hk | ⟨rfl, hst⟩⟩ := hloops
      · exact Or.inl ⟨e, rfl, hk⟩
      · rw [hst, if_neg (List.cons_ne_nil e [])]
        exact Or.inr ⟨rfl, e, rfl, rfl⟩
    · obtain ⟨rfl, rfl, hst, valss, ht, hacc⟩ := hloops
      rw [hst, if_pos rfl, hacc]
      rcases finishAll_spec (s := s) 0 bs [] with hf | ⟨e, hf, hk⟩
      · dsimp only
        rw [hf]
        exact Or.inr ⟨rfl, rfl, sameCells hn ht⟩
      · exact Or.inl ⟨e, hf, hk.mono (List.nil_subset _)⟩
  · rw [hb]
    exact Or.inl ⟨e, rfl, hk.mono (List.nil_subset _)⟩

section Example

def priceColumn : ColumnBuffer := ⟨"PRICE".toList, 2, 22, 10, 2⟩

def nameColumn : ColumnBuffer := ⟨"NAME".toList, 1, 40, 0, 0⟩

def price : Literal := ⟨.none, ['1', '2'], some ['5', '0'], none, by decide, by decide, by decide⟩

def priceRow : FetchedRow := ⟨0, 0, price.text, .ok .null, fun _ => none⟩

def nameRow : FetchedRow := ⟨0, 0, [], .ok (.string ⟨"pen".toList, 0⟩), fun _ => none⟩

def prices : ColumnarSelect where
  clist := [priceColumn, numberColumn, nameColumn]
  opt := .optimal
  enc := 0
  nested _ := .ok .null
  checkCancel _ := none
  atEnd := none

def pricesLeft : List FetchedBuffers :=
  [[(priceColumn, priceRow), (numberColumn, nullRow), (nameColumn, nameRow)],
    [(priceColumn, nullRow), (numberColumn, largeRow), (nameColumn, nullRow)]]

lemma declared_null (column : ColumnBuffer) : Declared column nullRow := fun _ h => absurd rfl h

lemma declared_name (r : FetchedRow) : Declared nameColumn r := fun h => absurd h (by decide)

lemma declared_large : Declared numberColumn largeRow := fun _ _ =>
  ⟨largeNumber, ⟨nofun, nofun, by decide⟩, rfl, fun h => absurd h (by decide)⟩

lemma declared_price : Declared priceColumn priceRow := fun _ _ => by
  refine ⟨price, ⟨nofun, nofun, by decide⟩, rfl, fun _ => ⟨rfl, by decide, 1250, by decide, ?_⟩⟩
  have hdigits : digitsVal ['1', '2', '5', '0'] = 1250 := rfl
  have hsign : Sign.none.apply 1250 = 1250 := rfl
  norm_num [price, priceColumn, Literal.value, Literal.scale, Literal.exponent, Literal.fracDigits,
    Literal.digits, hdigits, hsign]

theorem fetchColumnar_agrees_prices :
    (∃ e, (prices.fetchColumnar (-1) (.opened pricesLeft)).1 = .error (.raised e) ∧
      prices.Cancels pricesLeft.flatten e) ∨
      FetchesAgree (columnarNames prices.names) (prices.fetchColumnar (-1) (.opened pricesLeft))
        (prices.fetchRows (-1) (.opened pricesLeft)) := by
  apply fetchColumnar_agrees prices (-1) (.opened pricesLeft) (noClash_of_nodup (by decide)) _ rfl
  · intro row hrow
    simp only [Cursor.opened, pricesLeft, List.mem_cons, List.not_mem_nil, or_false] at hrow
    rcases hrow with rfl | rfl <;> refine ⟨rfl, fun x hx => ?_⟩ <;>
      simp only [List.mem_cons, List.not_mem_nil, or_false] at hx <;> rcases hx with rfl | rfl | rfl
    · exact declared_price
    · exact declared_null numberColumn
    · exact declared_name nameRow
    · exact declared_null priceColumn
    · exact declared_large
    · exact declared_name nullRow
  · decide

end Example

end ColumnarSelect

end OracleDriver
