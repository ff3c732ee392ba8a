import OracleDriver.ArrayBinds
import OracleDriver.BlockLoad
import OracleDriver.DateBinds

/-! A block that is loaded through the direct path stores what an INSERT with array binds of the same
columns stores. -/

namespace OracleDriver

open Calendar

-- the text of qoreOracleSerializeDate(), for the formats YYYY-MM-DD HH24:MI:SS and with FF6
def loadDateText (timestamp : Bool) (f : Fields) (us : ℕ) : Text :=
  paddedYear f.year ++ ('-' :: (padded 2 f.month ++ ('-' :: (padded 2 f.day ++ (' ' ::
    (padded 2 f.hour.toNat ++ (':' :: (padded 2 f.minute.toNat ++ (':' ::
      (padded 2 f.second.toNat ++ if timestamp then '.' :: padded 6 us else []))))))))))

-- the driver with the dates of a server zone
def Setting.inZone (c : Setting) (server : Zone) : Setting :=
  { c with
    year := fun epoch => (fieldsOf (epoch + server epoch)).year
    dateText := fun timestamp v =>
      match v with
      | .date epoch micros => loadDateText timestamp (fieldsOf (epoch + server epoch)) micros
      | _ => [] }

-- the time that a text for the column's format stands for
structure StandsFor (timestamp : Bool) (f : Fields) (us : ℕ) (t : Text) : Prop where
  text : t = loadDateText timestamp f us
  unique : ∀ (g : Fields) (v : ℕ), g.Valid → 1 ≤ g.year → g.year ≤ 9999 →
    t = loadDateText timestamp g v → g = f ∧ (timestamp = true → v = us)

-- what Oracle gets from both paths is the same: NULL, one text, one number, or one time
inductive SameValue (server : Zone) (kind : BulkColumnKind) : BulkCell → Delivery → Prop
  | null (buf : Buffer) (len : ℕ) : SameValue server kind ⟨[], true⟩ ⟨-1, buf, len⟩
  | text {t : Text} {ind : ℤ} (len : ℕ) (hind : ind ≠ -1) :
    SameValue server kind ⟨t, false⟩ ⟨ind, .chars (terminated t), len⟩
  | clob {t : Text} {ind : ℤ} (len : ℕ) (hind : ind ≠ -1) :
    SameValue server kind ⟨t, false⟩ ⟨ind, .clob t, len⟩
  | word {i ind : ℤ} (len : ℕ) (hind : ind ≠ -1) :
    SameValue server kind ⟨decimal i, false⟩ ⟨ind, .word i, len⟩
  | date {d : DateTime} {f : Fields} {t : Text} {ind : ℤ} (len : ℕ) (hind : ind ≠ -1)
    (hcell : StandsFor (kind == .timestamp) f d.us t)
    (hbind : (dateTimeConstructArgs server d).Reads f d.us) :
    SameValue server kind ⟨t, false⟩ ⟨ind, .descriptor d.epoch d.us, len⟩

-- the values that the type of the column holds without a conversion of Oracle's own; the times of
-- the first year are at a full minute, as dateTimeConstruct() loses their seconds
inductive Native (server : Zone) (kind : BulkColumnKind) : QoreValue → Prop
  | null {v : QoreValue} (h : v.isNullOrNothing = true) : Native server kind v
  | string (s : QoreString) (h : kind = .numeric ∨ kind = .text) : Native server kind (.string s)
  | int (i : ℤ) (h : kind = .numeric ∨ kind = .text) : Native server kind (.int i)
  | number (d : Text) (h : kind = .numeric ∨ kind = .text) : Native server kind (.number d)
  | date (epoch : ℤ) {micros : ℕ} (h : kind = .date ∨ kind = .timestamp) (hus : micros < 1000000)
    (hyear : 1 < (fieldsOf (epoch + server epoch)).year ∨
      (fieldsOf (epoch + server epoch)).second = 0 ∧ micros = 0) :
    Native server kind (.date epoch micros)

section Dates

variable {f g : Fields} {a b : ℕ}

lemma paddedYear_length {y : ℤ} (hy : 1 ≤ y) (hy' : y ≤ 9999) : (paddedYear y).length = 4 := by
  rw [paddedYear, if_neg (by omega)]
  exact padded_length (by omega) (by omega)

lemma loadDateText_injective {timestamp : Bool} (hf : f.Valid) (hg : g.Valid) (hfy : 1 ≤ f.year)
    (hfy' : f.year ≤ 9999) (hgy : 1 ≤ g.year) (hgy' : g.year ≤ 9999)
    (h : loadDateText timestamp f a = loadDateText timestamp g b) :
    f = g ∧ (timestamp = true → a = b) := by
  have two {m n : ℕ} (hm : m < 10 ^ 2) (hn : n < 10 ^ 2) : (padded 2 m).length =
      (padded 2 n).length := by
    rw [padded_length (by omega) hm, padded_length (by omega) hn]
  obtain ⟨fm, fd, fh, fn, fs⟩ := hf
  obtain ⟨gm, gd, gh, gn, gs⟩ := hg
  obtain ⟨hyear, h⟩ := List.append_inj h
    ((paddedYear_length hfy hfy').trans (paddedYear_length hgy hgy').symm)
  obtain ⟨hmonth, h⟩ := List.append_inj (List.cons.inj h).2 (two (by omega) (by omega))
  obtain ⟨hday, h⟩ := List.append_inj (List.cons.inj h).2 (two (by omega) (by omega))
  obtain ⟨hhour, h⟩ := List.append_inj (List.cons.inj h).2 (two (by omega) (by omega))
  obtain ⟨hminute, h⟩ := List.append_inj (List.cons.inj h).2 (two (by omega) (by omega))
  obtain ⟨hsecond, h⟩ := List.append_inj (List.cons.inj h).2 (two (by omega) (by omega))
  have hy := paddedYear_injective hyear
  have hmo := padded_injective 2 hmonth
  have hda := padded_injective 2 hday
  have hho := padded_injective 2 hhour
  have hmi := padded_injective 2 hminute
  have hse := padded_injective 2 hsecond
  constructor
  · obtain ⟨fy, fmo, fda, fho, fmi, fse⟩ := f
    obtain ⟨gy, gmo, gda, gho, gmi, gse⟩ := g
    simp only [Fields.mk.injEq] at *
    omega
  · intro ht
    rw [ht] at h
    exact padded_injective 6 (List.cons.inj h).2

end Dates

section Values

variable {c : Setting} {server : Zone} {column : BulkColumn} {cell : BulkCell} {r : Delivery}

-- what the scalar bind keeps of a time
lemma dateTimeConstructArgs_keeps {d : DateTime} (hlo : 1 ≤ (d.getInfo server).year)
    (h : 1 < (d.getInfo server).year ∨ (d.getInfo server).second = 0 ∧ d.us = 0) :
    (dateTimeConstructArgs server d).Reads (d.getInfo server) d.us := by
  by_cases hy : 1 < (d.getInfo server).year
  · exact (dateTimeConstructArgs_reads hy).mpr ⟨rfl, rfl⟩
  · obtain ⟨hsecond, hus⟩ := h.resolve_left hy
    have hfields : d.getInfo server = { d.getInfo server with second := 0 } := by rw [← hsecond]
    rw [dateTimeConstructArgs_reads_text (not_lt.mp hy), hsecond, hus]
    exact ⟨by omega, hfields, rfl⟩

lemma serializeDate_year {timestamp : Bool} (d : DateTime) {t : Text}
    (h : serializeDate (c.inZone server) timestamp (.date d.epoch d.us) = .ok t) :
    1 ≤ (d.getInfo server).year ∧ (d.getInfo server).year ≤ 9999 := by
  simp only [serializeDate] at h
  split_ifs at h with hrel hyear
  simp only [Setting.inZone, not_or, not_lt] at hyear
  exact hyear

-- the date of a cell is the time in the zone of the server
lemma serializeDate_standsFor {timestamp : Bool} (d : DateTime) {t : Text}
    (h : serializeDate (c.inZone server) timestamp (.date d.epoch d.us) = .ok t) :
    StandsFor timestamp (d.getInfo server) d.us t := by
  have hy := serializeDate_year d h
  simp only [serializeDate] at h
  split_ifs at h with hrel hyear
  obtain rfl := Except.ok.inj h
  constructor
  · rfl
  · intro g v hg hgy hgy' ht
    obtain ⟨rfl, hus⟩ := loadDateText_injective (fieldsOf_valid _) hg hy.1 hy.2 hgy hgy' ht
    exact ⟨rfl, fun h => (hus h).symm⟩

lemma encode_of_inEncoding {s : QoreString} {t u : Text} (h : InEncoding c s t)
    (hu : c.encodeValue (.string s) = .ok u) : u = t := by
  simp only [Setting.encodeValue, Setting.encode] at hu
  cases h with
  | same he =>
    rw [if_pos he] at hu
    exact (Except.ok.inj hu).symm
  | converted hne hconv =>
    rw [if_neg hne, hconv] at hu
    exact (Except.ok.inj hu).symm

lemma serializeCell_data {v : QoreValue} (hn : v.isNullOrNothing = false)
    (h : serializeCell c column v = .ok cell) :
    ∃ t, serializeData c column v = .ok t ∧ cell = ⟨t, false⟩ := by
  rw [serializeCell, hn, if_neg (by decide)] at h
  cases hd : serializeData c column v with
  | error e =>
    rw [hd] at h
    cases h
  | ok t =>
    rw [hd] at h
    dsimp only at h
    split_ifs at h
    exact ⟨t, rfl, (Except.ok.inj h).symm⟩

-- a column of numbers or texts holds the text of the value
lemma serializeData_text {v : QoreValue} {t : Text} (hk : column.kind = .numeric ∨ column.kind = .text)
    (h : serializeData c column v = .ok t) : c.encodeValue v = .ok t := by
  rcases hk with hk | hk <;> rw [serializeData, hk] at h
  · cases v <;> first | exact h | cases h
  · cases v <;> first | exact h | cases h

lemma serializeData_date {d : DateTime} {t : Text} (hk : column.kind = .date ∨ column.kind = .timestamp)
    (h : serializeData c column (.date d.epoch d.us) = .ok t) :
    serializeDate c (column.kind == .timestamp) (.date d.epoch d.us) = .ok t := by
  rcases hk with hk | hk <;> rw [serializeData, hk] at h <;> rw [hk] <;> exact h

lemma sameValue_of_delivers (hdec : DecimalText c.lib) {v : QoreValue} (hv : Native server column.kind v)
    (hcell : serializeCell (c.inZone server) column v = .ok cell)
    (hr : Delivers (c.inZone server) v r) : SameValue server column.kind cell r := by
  obtain ⟨ind, buf, len⟩ := r
  obtain ⟨hind, henc⟩ := hr
  cases hn : v.isNullOrNothing with
  | true =>
    rw [serializeCell, hn, if_pos rfl] at hcell
    obtain rfl := Except.ok.inj hcell
    obtain rfl : ind = -1 := hind.mpr hn
    exact .null buf len
  | false =>
    obtain ⟨t, ht, rfl⟩ := serializeCell_data hn hcell
    have hne : ind ≠ -1 := fun h => by simp [hind.mp h] at hn
    have he := henc hn
    dsimp only at he
    cases hv with
    | null h => simp [hn] at h
    | string s hk =>
      have htext := serializeData_text hk ht
      cases he with
      | string h =>
        obtain rfl := encode_of_inEncoding h htext
        exact .text _ hne
      | clob h =>
        obtain rfl := encode_of_inEncoding h htext
        exact .clob _ hne
    | int i hk =>
      obtain rfl : decimal i = t := (hdec.int i).symm.trans (Except.ok.inj (serializeData_text hk ht))
      cases he with
      | int => exact .word _ hne
      | intText => exact .text _ hne
    | number d hk =>
      obtain rfl : d = t := (hdec.number d).symm.trans (Except.ok.inj (serializeData_text hk ht))
      cases he with
      | number => exact .text _ hne
    | @date epoch micros hk hus hyear =>
      have hd := serializeDate_standsFor ⟨epoch, micros, server, hus⟩ (serializeData_date hk ht)
      have hlo := (serializeDate_year ⟨epoch, micros, server, hus⟩ (serializeData_date hk ht)).1
      cases he with
      | date => exact .date _ hne hd (dateTimeConstructArgs_keeps hlo hyear)

end Values

section Blocks

open Act BulkLoadState

variable {c : Setting}

-- whatever the client answers, a block that is serialized holds the cells of its values
lemma serializeRows_cells {h : Handler} (x : Sink) (column : BulkColumn) (v : QoreValue)
    (n row payload : ℕ) :
    Spec (fun _ => True) (serializeRows x c column v n row payload : Drv h .recover _) fun r _ =>
      ∀ u, r = some u → List.Forall₂ (fun r cell => serializeCell c column (rowValue v r) = .ok cell)
        (List.range' row n) u.1 := by
  induction n generalizing row payload with
  | zero =>
    apply spec_pure
    rintro w - u ⟨⟩
    exact .nil
  | succ n ih =>
    have failed (e : Option Exn) : Spec (fun _ => True)
        (failRows x e >>= fun _ => pure none : Drv h .recover (Option (List BulkCell × ℕ)))
        fun r _ => ∀ u, r = some u →
          List.Forall₂ (fun r cell => serializeCell c column (rowValue v r) = .ok cell)
            (List.range' row (n + 1)) u.1 :=
      spec_bind (spec_true _) fun _ => spec_pure fun _ _ u hu => by cases hu
    rw [serializeRows]
    refine spec_bind (spec_true _) fun b => spec_ite (fun _ => failed none) fun _ => ?_
    cases hcell : serializeCell c column (rowValue v row) with
    | error e => exact failed (some e)
    | ok cell =>
      refine spec_ite (fun _ => failed (some payloadTooLarge)) fun _ => ?_
      refine spec_bind (ih _ _) fun r => ?_
      cases r with
      | none => exact spec_pure fun _ _ u hu => by cases hu
      | some r =>
        apply spec_pure
        rintro w hr u ⟨⟩
        exact .cons hcell (hr r rfl)

lemma serializeColumns_cells {h : Handler} (x : Sink) (count : ℕ)
    (columns : List ((BulkColumn × QoreValue) × ℕ)) (payload : ℕ) :
    Spec (fun _ => True) (serializeColumns x c count columns payload : Drv h .recover _) fun r _ =>
      ∀ u, r = some u → List.Forall₂ (Cells c count) columns u.1 := by
  induction columns generalizing payload with
  | nil =>
    apply spec_pure
    rintro w - u ⟨⟩
    exact .nil
  | cons e columns ih =>
    obtain ⟨⟨column, v⟩, i⟩ := e
    rw [serializeColumns]
    refine spec_bind (spec_true _) fun b => spec_ite (fun _ => ?_) fun _ => ?_
    · exact spec_bind (spec_true _) fun _ => spec_pure fun _ _ u hu => by cases hu
    refine spec_bind (serializeRows_cells x column v count 0 payload) fun r => ?_
    cases r with
    | none => exact spec_pure fun _ _ u hu => by cases hu
    | some r =>
      obtain ⟨cells, payload'⟩ := r
      intro w hcells
      refine spec_bind (S := fun (r : Option (List (List BulkCell) × ℕ)) _ => ∀ u, r = some u →
        List.Forall₂ (Cells c count) (((column, v), i) :: columns) u.1) (ih payload')
          (fun r => ?_) w trivial
      cases r with
      | none => exact spec_pure fun _ _ u hu => by cases hu
      | some r =>
        apply spec_pure
        rintro w hr u ⟨⟩
        exact .cons (hcells _ rfl) (hr r rfl)

-- an array bind delivers the value that the direct path takes for the row
lemma arrayData_delivers (hdec : DecimalText c.lib) {kind : BulkColumnKind} {oci : ℕ → Option Exn}
    {v : QoreValue} {i : ℕ} (hn : Native server kind (rowValue v i))
    (hlist : ∀ l, v = .list l → i < l.length ∧ Uniform l) {D : ArrayData}
    (hD : arrayData c oci true v.resolveIndirect = .ok D) :
    ∃ r, D.callback i = some r ∧ Delivers c (rowValue v i) r := by
  cases v with
  | list l =>
    obtain ⟨hi, hu⟩ := hlist l rfl
    have hget : l[i]? = some (rowValue (.list l) i) := by simp [rowValue, retrieveEntry, hi]
    exact list_delivers hdec hu hD hget
  | reference w =>
    cases hn with
    | null h => cases h
  | _ => exact single_delivers (fun l h => by cases h) hD i

/-- What a block stores through the direct path, and through an INSERT with array binds. -/
theorem serializeColumns_matches_insert (server : Zone) (hdec : DecimalText c.lib) {h : Handler}
    (x : Sink)
    (w : World) (oci : ℕ → ℕ → Option Exn) (columns : List (BulkColumn × QoreValue)) (count : ℕ)
    (hlist : ∃ e ∈ columns, ∃ l, e.2 = .list l)
    (hlists : ∀ e ∈ columns, ∀ l, e.2 = .list l → l.length = count ∧ Uniform l)
    (hnative : ∀ e ∈ columns, ∀ i < count, Native server e.1.kind (rowValue e.2 i))
    (block : List (List BulkCell)) (payload : ℕ)
    (hload : ((serializeColumns x (c.inZone server) count columns.zipIdx 0 : Drv h .recover _).run w).1 =
      some (block, payload))
    (data : List (Option ArrayData))
    (hinsert : bindOracleArrays (c.inZone server) oci (columns.map fun e => .ofValue e.2) = .ok data)
    (j : ℕ) (e : BulkColumn × QoreValue) (he : columns[j]? = some e) (i : ℕ) (hi : i < count) :
    ∃ cells cell D r, block[j]? = some cells ∧ cells[i]? = some cell ∧ data[j]? = some (some D) ∧
      D.callback i = some r ∧ SameValue server e.1.kind cell r := by
  have hmem : e ∈ columns := List.mem_of_getElem? he
  have hn := hnative e hmem i hi
  have hcells : List.Forall₂ (Cells (c.inZone server) count) columns.zipIdx block :=
    serializeColumns_cells x count columns.zipIdx 0 w trivial (block, payload) hload
  have hzip : columns.zipIdx[j]? = some (e, j) := by simp [he]
  obtain ⟨cells, hblock, hcol⟩ := IndexedFold.forall₂_getElem? hcells hzip
  have hrow : (List.range' 0 count)[i]? = some i := by simp [hi]
  obtain ⟨cell, hcell, hser⟩ := IndexedFold.forall₂_getElem? hcol hrow
  have hsize : scanArraySize (columns.map fun e => .ofValue e.2) = count := by
    apply scanArraySize_eq (Nat.zero_lt_of_lt hi)
    · obtain ⟨f, hf, l, hl⟩ := hlist
      exact ⟨_, List.mem_map_of_mem hf, rfl, l, hl⟩
    · intro m hm _ l hl
      obtain ⟨f, hf, rfl⟩ := List.mem_map.mp hm
      exact (hlists f hf l hl).1
  have hpos : ¬count = 0 := by omega
  rw [bindOracleArrays, hsize, if_neg hpos] at hinsert
  have hnode : (columns.map fun e => OraBindNode.ofValue e.2).zipIdx[j]? = some (.ofValue e.2, j) := by
    simp [he]
  obtain ⟨b, hb, hbind⟩ := IndexedFold.mapM_getElem? hinsert hnode
  obtain ⟨D, hD, rfl⟩ := IndexedFold.map_eq_ok.mp hbind
  have hdec' : DecimalText (c.inZone server).lib := hdec
  obtain ⟨r, hr, hdel⟩ := arrayData_delivers hdec' hn
    (fun l hl => ⟨(hlists e hmem l hl).1.symm ▸ hi, (hlists e hmem l hl).2⟩) hD
  exact ⟨cells, cell, D, r, hblock, hcell, hb, hr, sameValue_of_delivers hdec hn hser hdel⟩

-- a number for each row, and one time for both
def timedRows : List (BulkColumn × QoreValue) :=
  [(⟨['A'], .numeric, 10, 0, 0⟩, .list [.int 1, .null]), (⟨['T'], .timestamp, 30, 0, 0⟩, .date 0 0)]

def timedBlock : List (List BulkCell) :=
  [[⟨['1'], false⟩, ⟨[], true⟩],
    List.replicate 2 ⟨"1970-01-01 00:00:00.000000".toList, false⟩]

/-- A number, a NULL and a time. -/
theorem serializeColumns_matches_insert_timed : ∃ data, ∃ cells cell D r, timedBlock[1]? = some cells ∧
    cells[1]? = some cell ∧ (data : List (Option ArrayData))[1]? = some (some D) ∧
      D.callback 1 = some r ∧
      SameValue (fun _ => 0) .timestamp cell r := by
  have hlists : ∀ e ∈ timedRows, ∀ l, e.2 = .list l → l.length = 2 ∧ Uniform l := by
    intro e he l hl
    rcases List.mem_cons.mp he with rfl | he
    · obtain rfl := QoreValue.list.inj hl
      exact ⟨rfl, .int, by simp [QoreValue.isNullOrNothing, elementType]⟩
    · obtain rfl := List.mem_singleton.mp he
      cases hl
  have hnative : ∀ e ∈ timedRows, ∀ i < 2, Native (fun _ => 0) e.1.kind (rowValue e.2 i) := by
    intro e he i hi
    rcases List.mem_cons.mp he with rfl | he
    · rcases Nat.lt_succ_iff_lt_or_eq.mp hi with hi | rfl
      · obtain rfl := Nat.lt_one_iff.mp hi
        exact .int 1 (.inl rfl)
      · exact .null rfl
    · obtain rfl := List.mem_singleton.mp he
      exact .date 0 (.inr rfl) (Nat.succ_pos _) (.inr ⟨rfl, rfl⟩)
  exact ⟨_, serializeColumns_matches_insert (c := plainSetting) (h := handler 1) (fun _ => 0)
    plainLib_decimal .main (World.start plainSetting fun _ => ⟨.success, 0, "", 0, false⟩)
    (fun _ _ => none) timedRows 2 ⟨_, List.mem_cons_self, _,
      rfl⟩ hlists hnative timedBlock _ rfl _ rfl 1 _ rfl
    1 (Nat.lt_succ_self 1)⟩

end Blocks

end OracleDriver
