import OracleDriver.Decimal128
import OracleDriver.Rows
import OracleDriver.World

/-! The keys of a description and of a result without rows, which are not those of a row when a name
is repeated. -/

namespace OracleDriver

structure ColumnBuffer where
  name : Text
  dtype : ℕ
  maxsize : ℕ
  precision : ℤ
  scale : ℤ
deriving DecidableEq, Repr

inductive QoreType where
  | string
  | number
  | int
  | float
  | binary
  | hash
  | date
  | unknown
deriving DecidableEq, Repr

structure ColumnDescription where
  name : Text
  internalId : ℕ
  type : QoreType
  nativeType : String
  decimal : Option (ℤ × ℤ)
  maxsize : ℕ
deriving DecidableEq, Repr

namespace ColumnBuffer

-- the cases are the SQLT codes of the client
def describe (charSize : ℕ) (w : ColumnBuffer) : ColumnDescription :=
  match w.dtype with
  | 1 => ⟨w.name, w.dtype, .string, "VARCHAR2", none, w.maxsize / charSize⟩
  | 2 =>
    if oracleColumnarDecimalMetadataSupported w.precision w.scale then
      ⟨w.name, w.dtype, .number, "NUMBER(" ++ toString w.precision ++ "," ++ toString w.scale ++ ")",
        some (w.precision, w.scale), w.maxsize⟩
    else
      ⟨w.name, w.dtype, .number, "NUMBER", none, w.maxsize⟩
  | 3 | 68 => ⟨w.name, w.dtype, .int, "INTEGER", none, w.maxsize⟩
  | 4 | 21 | 22 | 100 | 101 => ⟨w.name, w.dtype, .float, "FLOAT", none, w.maxsize⟩
  | 96 | 97 => ⟨w.name, w.dtype, .string, "CHAR", none, w.maxsize / charSize⟩
  | 112 => ⟨w.name, w.dtype, .string, "CLOB", none, w.maxsize / charSize⟩
  | 113 => ⟨w.name, w.dtype, .binary, "BLOB", none, w.maxsize / charSize⟩
  | 108 => ⟨w.name, w.dtype, .hash, "NAMED DATATYPE", none, w.maxsize⟩
  | 12 | 184 => ⟨w.name, w.dtype, .date, "DATE", none, w.maxsize⟩
  | 187 => ⟨w.name, w.dtype, .date, "TIMESTAMP", none, w.maxsize⟩
  | 188 => ⟨w.name, w.dtype, .date, "TIMESTAMP WITH ZONE", none, w.maxsize⟩
  | 232 => ⟨w.name, w.dtype, .date, "TIMESTAMP WITH LOCAL TIME ZONE", none, w.maxsize⟩
  | 189 => ⟨w.name, w.dtype, .date, "INTERVAL YEAR TO MONTH", none, w.maxsize⟩
  | 190 => ⟨w.name, w.dtype, .date, "INTERVAL DAY TO SECOND", none, w.maxsize⟩
  | 104 => ⟨w.name, w.dtype, .string, "ROWID", none, w.maxsize⟩
  | _ => ⟨w.name, w.dtype, .unknown, "n/a", none, w.maxsize⟩

end ColumnBuffer

def describedColumns (c : Setting) (clist : List ColumnBuffer) : List (Text × ColumnDescription) :=
  clist.map fun w => (w.name, w.describe (if c.encoding = c.utf8 then 4 else 1))

-- QoreOracleStatement::describe()
def describe (c : Setting) (clist : List ColumnBuffer) : Hash ColumnDescription :=
  (describedColumns c clist).foldl (fun h e => h.setKeyValue e.1 e.2) []

variable (c : Setting) (clist : List ColumnBuffer)

lemma describedColumns_names :
    (describedColumns c clist).map Prod.fst = clist.map ColumnBuffer.name := by
  rw [describedColumns, List.map_map]
  rfl

lemma describe_keys_subset : (describe c clist).keys ⊆ clist.map ColumnBuffer.name := by
  intro k hk
  rw [describe, Hash.mem_keys_foldl, describedColumns_names] at hk
  exact hk.resolve_left List.not_mem_nil

lemma describe_eq (hn : (clist.map ColumnBuffer.name).Nodup) :
    describe c clist = describedColumns c clist := by
  rw [describe, Hash.foldl_setKeyValue [] ?_, List.nil_append]
  rwa [Hash.keys_nil, List.nil_append, describedColumns_names]

lemma describe_getKeyValue (hn : (clist.map ColumnBuffer.name).Nodup) {j : ℕ} {w : ColumnBuffer}
    (hj : clist[j]? = some w) :
    (describe c clist).getKeyValue w.name = some
      (w.describe (if c.encoding = c.utf8 then 4 else 1)) := by
  have hzip : describedColumns c clist =
      (clist.map ColumnBuffer.name).zip (clist.map fun w =>
        w.describe (if c.encoding = c.utf8 then 4 else 1)) :=
    List.zip_map'.symm
  rw [describe_eq c clist hn, hzip, Hash.getKeyValue_zip hn (j := j)]
  · rw [List.getElem?_map, hj]
    rfl
  · rw [List.length_map, List.length_map]
  · rw [List.getElem?_map, hj]
    rfl

-- a row and the description have the same keys, and each stands for one column in both
def DescribesRows : Prop :=
  ∀ values : List QoreValue, values.length = clist.length →
    (describe c clist).keys = (fetchRow (clist.map ColumnBuffer.name) values).keys ∧
      ∀ k ∈ (describe c clist).keys, ∃ (j : ℕ) (w : ColumnBuffer), clist[j]? = some w ∧
        (fetchRow (clist.map ColumnBuffer.name) values).getKeyValue k = values[j]? ∧
        (describe c clist).getKeyValue k = some (w.describe (if c.encoding = c.utf8 then 4 else 1))

variable {clist}

lemma fetchRow_keys {names : List Text} {V : Type} {values : List V}
    (hlen : values.length = names.length) :
    (fetchRow names values).keys = rowKeys names := by
  rw [fetchRow_eq hlen]
  exact List.map_fst_zip (by rw [rowKeys_length, hlen])

lemma describesRows_of_nodup (hn : (clist.map ColumnBuffer.name).Nodup) : DescribesRows c clist := by
  intro values hlen
  have hlen' : values.length = (clist.map ColumnBuffer.name).length := by rw [List.length_map, hlen]
  have hkeys : (describe c clist).keys = clist.map ColumnBuffer.name := by
    rw [describe_eq c clist hn]
    exact describedColumns_names c clist
  refine ⟨?_, fun k hk => ?_⟩
  · rw [hkeys, fetchRow_keys hlen', rowKeys_of_nodup hn]
  · rw [hkeys] at hk
    obtain ⟨j, hj⟩ := List.getElem?_of_mem hk
    obtain ⟨w, hw, rfl⟩ : ∃ w, clist[j]? = some w ∧ w.name = k := by
      rwa [List.getElem?_map, Option.map_eq_some_iff] at hj
    refine ⟨j, w, hw, ?_, describe_getKeyValue c clist hn hw⟩
    rw [fetchRow_eq hlen', rowKeys_of_nodup hn, Hash.getKeyValue_zip hn hlen' hj]

/-- The description has the keys of the rows if and only if no column name is repeated. -/
theorem describesRows_iff (c : Setting) (clist : List ColumnBuffer) :
    DescribesRows c clist ↔ (clist.map ColumnBuffer.name).Nodup := by
  constructor
  · intro h
    have hlen : (clist.map fun _ => QoreValue.null).length = clist.length := List.length_map _
    obtain ⟨hkeys, -⟩ := h _ hlen
    rw [fetchRow_keys (by rw [hlen, List.length_map])] at hkeys
    exact rowKeys_subset_iff.mp (hkeys ▸ describe_keys_subset c clist)
  · exact describesRows_of_nodup c

theorem not_describesRows_repeated :
    ¬DescribesRows plainSetting [⟨['a'], 2, 22, 0, 0⟩, ⟨['a'], 1, 10, 0, 0⟩] := by
  intro h
  obtain ⟨hkeys, -⟩ := h [.int 1, .string ⟨['x'], 0⟩] rfl
  exact absurd hkeys (by decide)

-- the hash of a select has the same keys without rows and with them
def KeysFixed (names : List Text) : Prop :=
  ∀ (shape : Bool → QoreValue → QoreValue) (rows : List (List QoreValue)),
    (∀ row ∈ rows, row.length = names.length) →
    ∃ h h', ((fetchColumns names shape true).call (-1) (.opened [])).1 = .ok h ∧
      ((fetchColumns names shape true).call (-1) (.opened rows)).1 = .ok h' ∧ ∀ k, k ∈ h.keys ↔
        k ∈ h'.keys

lemma mem_keys_doColumns {V : Type} (names : List Text) {k : Text} :
    k ∈ (doColumns (V := V) names []).keys ↔ k ∈ names := by
  rw [← Hash.isSome_getKeyValue, getKeyValue_doColumns]
  by_cases hk : k ∈ names
  · rw [if_pos hk]
    simp only [Option.isSome_some, hk]
  · rw [if_neg hk, Hash.getKeyValue_nil]
    simp only [Option.isSome_none, hk, Bool.false_eq_true]

lemma select_keys {names : List Text} (shape : Bool → QoreValue → QoreValue)
    {rows : List (List QoreValue)}
    (hlen : ∀ row ∈ rows, row.length = names.length) :
    ∃ h, ((fetchColumns names shape true).call (-1) (.opened rows)).1 = .ok h ∧
      ∀ k, k ∈ h.keys ↔ k ∈ if rows = [] then names else rowKeys names := by
  refine ⟨_, Fetcher.call_rows _ rfl rfl, fun k => ?_⟩
  by_cases hr : rows = []
  · subst hr
    rw [if_pos rfl]
    exact mem_keys_doColumns names
  · rw [if_neg hr]
    exact (render_fetchColumns shape true hr hlen).keys k

/-- A select has the same keys without rows and with them if and only if no column name is repeated. -/
theorem keysFixed_iff (names : List Text) : KeysFixed names ↔ names.Nodup := by
  have none : ∀ row ∈ ([] : List (List QoreValue)), row.length = names.length := nofun
  constructor
  · intro h
    have hlen : ∀ row ∈ [names.map fun _ => QoreValue.null], row.length = names.length := by
      intro row hr
      rw [List.mem_singleton.mp hr, List.length_map]
    obtain ⟨a, b, ha, hb, hk⟩ := h (fun _ v => v) _ hlen
    obtain ⟨a', ha', hka⟩ := select_keys (fun _ v => v) none
    obtain ⟨b', hb', hkb⟩ := select_keys (fun _ v => v) hlen
    obtain rfl : a = a' := Except.ok.inj (ha.symm.trans ha')
    obtain rfl : b = b' := Except.ok.inj (hb.symm.trans hb')
    apply rowKeys_subset_iff.mp
    intro k hk'
    have hrow : k ∈ b.keys := (hkb k).mpr hk'
    exact (hka k).mp ((hk k).mpr hrow)
  · intro hn shape rows hlen
    obtain ⟨a, ha, hka⟩ := select_keys shape none
    obtain ⟨b, hb, hkb⟩ := select_keys shape hlen
    refine ⟨a, b, ha, hb, fun k => ?_⟩
    rw [hka, hkb, rowKeys_of_nodup hn, if_pos rfl, ite_self]

theorem not_keysFixed_repeated : ¬KeysFixed ["a".toList, "a".toList] := by
  intro h
  obtain ⟨a, b, ha, hb, hk⟩ := h (fun _ v => v) [[.int 1, .int 2]] (by decide)
  obtain rfl : [(['a'], [])] = a := Except.ok.inj ha
  obtain rfl : [(['a'], [.int 1]), (['a', '_', '1'], [.int 2])] = b := Except.ok.inj hb
  exact absurd ((hk ['a', '_', '1']).mpr (by decide)) (by decide)

end OracleDriver
