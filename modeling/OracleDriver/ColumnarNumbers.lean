import OracleDriver.ColumnarRows
import OracleDriver.DecimalParsing

/-! A columnar column of numbers has the values that the rows of an ordinary select have. -/

namespace OracleDriver

open DecimalText FixedWidth Bitmap

-- the entries of a buffer of integers
def QoreBufferNode.intEntries (n : QoreBufferNode) : List QoreValue :=
  (List.range n.rowCount).map fun i =>
    if n.validity.elim true (bit · i) then .int (n.data.intValues.getD i 0) else .null

-- none for a buffer of floats or of decimals
def ColumnarColumn.entries : ColumnarColumn → Option (List QoreValue)
  | .list l => some l
  | .buffer n => if n.elementType = .int64 then some n.intEntries else none

-- NULL, or a text without an exponent
def PlainRow (r : FetchedRow) : Prop := r.ind = -1 ∨ ∃ l :
    Literal, Printed l ∧ l.exp = none ∧ r.text = l.text

-- the value of the column in a row of an ordinary select
def rowNumber (r : FetchedRow) : QoreValue := if r.ind = -1 then .null else getNumberOptimal r.text

section Parse

variable {l : Literal}

lemma plain_text (hf : l.frac = none) (hx : l.exp = none) : l.text = l.sign.text ++ l.whole := by
  simp [Literal.text, Literal.fracText, Literal.expText, hf, hx]

lemma dropWhile_space (l : Literal) : l.text.dropWhile isSpace = l.text := by
  rw [List.dropWhile_eq_self_iff]
  intro hl
  simp [literal_not_space l _ (List.getElem_mem hl)]

lemma parseInt64_plain (hl : Printed l) (hx : l.exp = none) {i : ℤ}
    (hp : oracleColumnarParseInt64 l.text = some i) :
    getNumberOptimal l.text = .int i := by
  have hf : l.frac = none := by
    by_contra hne
    have hmem : '.' ∈ l.text := point_mem.mpr (Option.isSome_iff_ne_none.mpr hne)
    simp [oracleColumnarParseInt64, hmem] at hp
  obtain ⟨hskip, hneg⟩ := skipSign_eq l.sign (signHead_digits l.whole_digits)
  rw [← plain_text hf hx] at hskip hneg
  have htake : l.whole.takeWhile Char.isDigit = l.whole := List.takeWhile_eq_self_iff.mpr l.whole_digits
  have hrv : (if isNegative l.text then -(digitsVal l.whole : ℤ) else digitsVal l.whole) =
      l.sign.apply (digitsVal l.whole) := by
    simp [hneg, Sign.apply]
  simp only [oracleColumnarParseInt64, dropWhile_space, hskip, htake, hrv] at hp
  split at hp
  · cases hp
  split at hp
  · cases hp
  case _ hrange =>
    push Not at hrange
    obtain ⟨-, ⟨hlo, hhi⟩, -⟩ := hrange
    have hi : l.sign.apply (digitsVal l.whole) = i := Option.some.inj hp
    rw [hi] at hlo hhi
    have hv : l.value = i := by
      rw [value_whole hf, Literal.exponent, hx, Option.elim_none, zpow_zero, mul_one, hi]
    exact getNumberOptimal_plain hl hf hx hv hlo hhi

end Parse

namespace OracleColumnarBuilder

-- the columns that start with integers and may become lists
structure Optimal (b : OracleColumnarBuilder) : Prop where
  dtype : b.column.dtype = 2
  kind : b.kind = .numberOptimal ∨ b.kind = .list

section Steps

variable {enc : Encoding} {b : OracleColumnarBuilder} {r : FetchedRow} {done : List Appended}

lemma getValue_optimal (h : Optimal b) : r.getValue .optimal enc b.column = .ok (rowNumber r) := by
  by_cases hr : r.ind = -1
  · simp [FetchedRow.getValue, rowNumber, hr]
  · simp [FetchedRow.getValue, rowNumber, hr, h.dtype]

lemma offered_plain (h : Optimal b) (hr : PlainRow r) :
    b.offered .optimal enc r = .ok (rowNumber r) := by
  rcases h.kind with hk | hk
  · by_cases hnull : r.ind = -1
    · simp [offered, hk, rowNumber, hnull]
    · obtain hr | ⟨l, hl, hx, htext⟩ := hr
      · exact absurd hr hnull
      cases hp : oracleColumnarParseInt64 r.text with
      | none => simp [offered, hk, hnull, hp, getValue_optimal h]
      | some i =>
        have hint : getNumberOptimal r.text = .int i := by
          rw [htext] at hp ⊢
          exact parseInt64_plain hl hx hp
        simp [offered, hk, hnull, hp, rowNumber, hint]
  · rw [offered, hk]
    exact getValue_optimal h

lemma appendList_optimal (h : Optimal b) :
    b.appendList .optimal enc r = (.ok (), { b with list := b.list ++ [rowNumber r], rowCount := b.rowCount + 1 }) := by
  rw [appendList, getValue_optimal h]

variable (enc r) in
-- only a cancelled thread stops the column
lemma append_optimal (h : Optimal b) (hb : Built b done) :
    match b.append .optimal enc r with
    | (.ok (), b') => Optimal b'
    | (.error e, _) => ∃ i x, r.cancel i = some x ∧ e = .raised x := by
  rcases h.kind with hk | hk
  · rw [append, if_neg (by rw [hk]; decide)]
    by_cases hr : r.ind = -1
    · rw [if_pos hr]
      exact ⟨h.dtype, Or.inl hk⟩
    rw [if_neg hr]
    simp only [hk]
    cases hp : oracleColumnarParseInt64 r.text with
    | some i => exact ⟨h.dtype, Or.inl rfl⟩
    | none =>
      have hf := fallbackToList_built hb hk r.cancel
      rcases hfr : b.fallbackToList r.cancel with ⟨x | u, b'⟩
      · rw [hfr] at hf
        exact hf.2
      · rw [hfr] at hf
        obtain ⟨-, hlist, hcol⟩ := hf
        have hopt : Optimal b' := ⟨hcol ▸ h.dtype, Or.inr hlist⟩
        simp only [appendList_optimal hopt]
        exact ⟨hopt.dtype, Or.inr hlist⟩
  · rw [append, if_pos hk, appendList_optimal h]
    exact ⟨h.dtype, Or.inr hk⟩

-- the validity that finish() hands over; it is not there when no row is NULL
lemma entry_valid (hbuf : Buffered b done) {i : ℕ} (hi : i < done.length) :
    (if decide (0 < b.nullCount) ∧
      b.storage.validity ≠ [] then some b.storage.validity else none).elim true (bit · i) =
      !done[i].row.isNull b.column := by
  by_cases hnil : b.storage.validity = []
  · have hnot := hbuf.validity.nil_iff.mp hnil
    have hfalse : done[i].row.isNull b.column = false := by
      cases hnull : done[i].row.isNull b.column with
      | false => rfl
      | true => exact absurd (List.mem_map.mpr ⟨done[i], List.getElem_mem hi, by rw [hnull]; rfl⟩) hnot
    simp [hnil, hfalse]
  · have hmem : false ∈ done.map fun a => !a.row.isNull b.column := by
      by_contra hnot
      exact hnil (hbuf.validity.eq_nil hnot)
    have hpos : 0 < b.nullCount := by
      obtain ⟨a, ha, hnull⟩ := List.mem_map.mp hmem
      rw [hbuf.nulls]
      exact List.countP_pos_iff.mpr ⟨a, ha, by simpa using hnull⟩
    rw [if_pos ⟨decide_eq_true hpos, hnil⟩, Option.elim_some,
      (hbuf.validity.marks hmem).bit i (by rwa [List.length_map]), List.getElem_map]

lemma finish_entries (h : Optimal b) (hb : Built b done) {values : List QoreValue}
    (hvalues : done.map Appended.value = values.map Except.ok) : b.finish.entries = some values := by
  rw [finish]
  by_cases hk : b.kind = .list
  · have hlist := hb.listed hk
    rw [hvalues] at hlist
    have hinj : Function.Injective (Except.ok : QoreValue → Except Exn QoreValue) :=
      fun _ _ h => Except.ok.inj h
    rw [if_pos hk, ColumnarColumn.entries, List.map_injective_iff.mpr hinj hlist]
  · have hopt : b.kind = .numberOptimal := h.kind.resolve_right hk
    have hbuf := hb.buffered hk
    have hlen : values.length = done.length := by simpa using (congrArg List.length hvalues).symm
    rw [if_neg hk, hopt]
    simp only [elementType, ColumnarColumn.entries, if_true, QoreBufferNode.intEntries,
      Option.some.injEq]
    apply List.ext_getElem
    · rw [List.length_map, List.length_range, hb.rows, hlen]
    intro i hi hi'
    have hid : i < done.length := by rwa [← hlen]
    have hvalue : done[i].value = .ok values[i] := by
      have hget := congrArg (·[i]?) hvalues
      simpa [hid, hi'] using hget
    rw [List.getElem_map, List.getElem_range, entry_valid hbuf hid]
    cases hnull : done[i].row.isNull b.column with
    | true =>
      have hv := (hb.null_iff done[i] (List.getElem_mem hid)).mpr hnull
      rw [hvalue] at hv
      simp [Except.ok.inj hv]
    | false =>
      obtain ⟨v, hv⟩ := hbuf.entries hopt done[i] (List.getElem_mem hid) hnull
      rw [hvalue] at hv
      simp [hbuf.ints hopt, hid, hvalue, Except.ok.inj hv, intOf]

variable (enc) in
lemma fetchColumn_entries (h : Optimal b) (hb : Built b done) (values : List QoreValue)
    (hvalues : done.map Appended.value = values.map Except.ok) {rows : List FetchedRow}
    (hrows : ∀ r ∈ rows, PlainRow r) :
    match b.fetchColumn .optimal enc rows with
    | .ok c => c.entries = some (values ++ rows.map rowNumber)
    | .error e => ∃ r ∈ rows, ∃ i x, r.cancel i = some x ∧ e = .raised x := by
  induction rows generalizing b done values with
  | nil =>
    rw [fetchColumn, List.map_nil, List.append_nil]
    exact finish_entries h hb hvalues
  | cons r rows ih =>
    have hkeeps : Keeps .optimal enc b r done (b.append .optimal enc r) := append_keeps hb
    have hstep := append_optimal enc r h hb
    rw [fetchColumn]
    rcases hap : b.append .optimal enc r with ⟨e | u, b'⟩
    · rw [hap] at hstep
      exact ⟨r, List.mem_cons_self, hstep⟩
    · rw [hap] at hstep hkeeps
      have hvalues' : (done ++ [(⟨r, b.offered .optimal enc r⟩ : Appended)]).map Appended.value =
          (values ++ [rowNumber r]).map Except.ok := by
        simp [hvalues, offered_plain h (hrows r List.mem_cons_self)]
      have hrest := ih hstep hkeeps _ hvalues' fun c hc => hrows c (List.mem_cons_of_mem r hc)
      rw [List.map_cons, ← List.singleton_append, ← List.append_assoc]
      show match b'.fetchColumn .optimal enc rows with
        | .ok c => c.entries = some (values ++ [rowNumber r] ++ rows.map rowNumber)
        | .error e => ∃ c ∈ r :: rows, ∃ i x, c.cancel i = some x ∧ e = .raised x
      cases hfetch : b'.fetchColumn .optimal enc rows with
      | ok c =>
        rw [hfetch] at hrest
        exact hrest
      | error e =>
        rw [hfetch] at hrest
        obtain ⟨c, hc, hcancel⟩ := hrest
        exact ⟨c, List.mem_cons_of_mem r hc, hcancel⟩

end Steps

-- NUMBER columns without a declared precision and scale, and those of integers that always fit in
-- 64 bits
lemma new_optimal {column : ColumnBuffer} (name : Text) (hd : column.dtype = 2)
    (hm : oracleColumnarDecimalMetadataSupported column.precision column.scale = true →
      column.scale = 0 ∧ column.precision ≤ 18) : Optimal (new column name .optimal) := by
  refine ⟨hd, Or.inl ?_⟩
  simp only [new, columnKind, hd]
  rw [if_neg, if_pos trivial]
  rintro ⟨-, hs, hnot⟩
  exact hnot ⟨trivial, hm hs⟩

/-- The column of NULLs and of plain texts has, row by row, the values of an ordinary select. -/
theorem fetchColumn_rows (enc : Encoding) (column : ColumnBuffer) (name : Text) (hd : column.dtype = 2)
    (hm : oracleColumnarDecimalMetadataSupported column.precision column.scale = true →
      column.scale = 0 ∧ column.precision ≤ 18) (rows : List FetchedRow)
      (hrows : ∀ r ∈ rows, PlainRow r) :
    match (new column name .optimal).fetchColumn .optimal enc rows with
    | .ok c => c.entries = some (rows.map rowNumber)
    | .error e => ∃ r ∈ rows, ∃ i x, r.cancel i = some x ∧ e = .raised x := by
  have hfetch := fetchColumn_entries enc (new_optimal name hd hm) (new_built column name) [] rfl hrows
  simpa only [List.nil_append] using hfetch

def numberColumn : ColumnBuffer := ⟨"N".toList, 2, 22, 0, -127⟩

def nullRow : FetchedRow := ⟨-1, 0, [], .ok .null, fun _ => none⟩

def largeNumber : Literal :=
  ⟨.none, "9223372036854775808".toList, none, none, by decide, noFrac_digits, by decide⟩

def largeRow : FetchedRow := ⟨0, 0, largeNumber.text, .ok .null, fun _ => none⟩

theorem fetchColumn_rows_large :
    match (new numberColumn "N".toList .optimal).fetchColumn .optimal 0 [nullRow, largeRow] with
    | .ok c => c.entries = some [.null, .number largeNumber.text]
    | .error e => ∃ r ∈ [nullRow, largeRow], ∃ i x, r.cancel i = some x ∧ e = .raised x := by
  refine fetchColumn_rows 0 numberColumn "N".toList rfl
    (fun h => absurd h (by decide)) [nullRow, largeRow] ?_
  intro r hr
  simp only [List.mem_cons, List.not_mem_nil, or_false] at hr
  rcases hr with rfl | rfl
  · exact Or.inl rfl
  · exact Or.inr ⟨largeNumber, ⟨nofun, nofun, by decide⟩, rfl, rfl⟩

end OracleColumnarBuilder

end OracleDriver
