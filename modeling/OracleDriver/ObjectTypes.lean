import OracleDriver.Library.PreorderTable
import OracleDriver.Values

/-! The description of object and collection types, and where an attribute has its indicator. -/

namespace OracleDriver

open PreorderTable

-- the codes of columns that are no object and no collection
inductive Sqlt where
  | lng | afc | avc | str | chr
  | num | int
  | flt | bfloat | ibfloat | bdouble | ibdouble
  | dat | odt | date | timestamp | timestampTz | timestampLtz | intervalYm | intervalDs
  | clob | blob
  | bin | bfile
deriving DecidableEq, Repr

-- OCI_CDT_*
inductive ColumnType where
  | numeric | datetime | text | long | lob | file | timestamp | interval | raw | object | collection
deriving DecidableEq, Repr

mutual

inductive TypeInfo where
  -- `collection` is set when `tcode` is SQLT_NCO, and then `ccode` is not zero
  | mk (schema name : Text) (collection : Bool) (cols : List OciColumn)

inductive OciColumn where
  | plain (name : Text) (ocode : Sqlt) (prec scale : ℤ)
  -- SQLT_NTY and SQLT_PNTY
  | named (name : Text) (typinf : TypeInfo)

end

namespace TypeInfo

def schema : TypeInfo → Text
  | mk schema _ _ _ => schema

def name : TypeInfo → Text
  | mk _ name _ _ => name

def collection : TypeInfo → Bool
  | mk _ _ collection _ => collection

def cols : TypeInfo → List OciColumn
  | mk _ _ _ cols => cols

end TypeInfo

-- OCI_ColumnMap2()
def Sqlt.columnType : Sqlt → ColumnType
  | .int | .num | .flt | .bfloat | .ibfloat | .bdouble | .ibdouble => .numeric
  | .dat | .odt => .datetime
  | .timestamp | .timestampTz | .timestampLtz => .timestamp
  | .intervalYm | .intervalDs => .interval
  | .clob | .blob => .lob
  | .bfile => .file
  | .lng => .long
  | .bin => .raw
  | .chr | .str | .afc | .avc | .date => .text

namespace OciColumn

def name : OciColumn → Text
  | plain name _ _ _ => name
  | named name _ => name

def type : OciColumn → ColumnType
  | plain _ ocode _ _ => ocode.columnType
  | named _ typinf => if typinf.collection then .collection else .object

end OciColumn

-- strcasecmp() is zero
def sameName (a b : Text) : Bool := a.map Char.toLower == b.map Char.toLower

-- OCI_ObjectGetAttrIndex2(), with `none` for a column of any type
def objectGetAttrIndex (cols : List OciColumn) (attr : Text) (type : Option ColumnType) : Option ℕ :=
  cols.findIdx? fun col => (type.isNone || type == some col.type) && sameName col.name attr

mutual

-- the indicators of a whole object, with the one of the object itself
def TypeInfo.indicators : TypeInfo → ℕ
  | .mk _ _ _ cols => indicatorsBefore cols cols.length

-- the loop of OCI_ObjectGetIndOffset()
def indicatorsBefore : List OciColumn → ℕ → ℕ
  | [], _ => 1
  | _ :: _, 0 => 1
  | col :: cols, index + 1 => col.indicators + indicatorsBefore cols index

def OciColumn.indicators : OciColumn → ℕ
  | .plain .. => 1
  | .named _ typinf => if typinf.collection then 1 else typinf.indicators

end

-- as ub2
def objectGetIndOffset (typinf : TypeInfo) (index : ℕ) : ℕ := indicatorsBefore typinf.cols index % 2 ^ 16

mutual

def TypeInfo.tree : TypeInfo → Tree
  | .mk _ _ _ cols => .node (trees cols)

def trees : List OciColumn → List Tree
  | [] => []
  | col :: cols => col.tree :: trees cols

def OciColumn.tree : OciColumn → Tree
  | .plain .. => .node []
  | .named _ typinf => if typinf.collection then .node [] else typinf.tree

end

@[simp] lemma trees_length (cols : List OciColumn) : (trees cols).length = cols.length := by
  induction cols with
  | nil => rfl
  | cons col cols ih => rw [trees, List.length_cons, List.length_cons, ih]

lemma trees_get (cols : List OciColumn) (i : ℕ) : (trees cols)[i]? = cols[i]?.map OciColumn.tree := by
  induction cols generalizing i with
  | nil => rfl
  | cons col cols ih =>
    cases i with
    | zero => rfl
    | succ i => rw [trees, List.getElem?_cons_succ, List.getElem?_cons_succ, ih]

mutual

lemma TypeInfo.indicators_eq : ∀ typinf : TypeInfo, typinf.indicators = typinf.tree.size
  | .mk _ _ _ cols => by
    rw [TypeInfo.indicators, TypeInfo.tree, Tree.size, indicatorsBefore_eq cols cols.length, offset,
      ← trees_length cols, List.take_length]

lemma indicatorsBefore_eq : ∀ (cols : List OciColumn) (index : ℕ),
    indicatorsBefore cols index = offset (trees cols) index
  | [], index => by
    rw [indicatorsBefore, trees, offset, List.take_nil, sizes]
  | col :: cols, 0 => by
    rw [indicatorsBefore, offset, List.take_zero, sizes]
  | col :: cols, index + 1 => by
    rw [indicatorsBefore, OciColumn.indicators_eq col, indicatorsBefore_eq cols index, trees, offset,
      offset, List.take_succ_cons, sizes]
    omega

lemma OciColumn.indicators_eq : ∀ col : OciColumn, col.indicators = col.tree.size
  | .plain .. => by
    rw [OciColumn.indicators, OciColumn.tree, Tree.size, sizes]
  | .named _ typinf => by
    rw [OciColumn.indicators, OciColumn.tree]
    split
    · rw [Tree.size, sizes]
    · exact TypeInfo.indicators_eq typinf

end

lemma OciColumn.indicators_pos (col : OciColumn) : 0 < col.indicators := by
  rw [col.indicators_eq]
  exact col.tree.size_pos

lemma indicatorsBefore_pos (cols : List OciColumn) (index : ℕ) : 0 < indicatorsBefore cols index := by
  rw [indicatorsBefore_eq]
  exact offset_pos _ index

-- the indicators of a column come before those of the columns after it
lemma indicatorsBefore_add_le {cols : List OciColumn} {col : OciColumn} {i j : ℕ}
    (hi : cols[i]? = some col)
    (hij : i < j) : indicatorsBefore cols i + col.indicators ≤ indicatorsBefore cols j := by
  rw [indicatorsBefore_eq, indicatorsBefore_eq, col.indicators_eq]
  apply offset_add_size_le _ hij
  rw [trees_get, hi, Option.map_some]

-- no more indicators than ub2 can count
lemma objectGetIndOffset_eq {typinf : TypeInfo} (h : typinf.indicators ≤ 2 ^ 16) {col : OciColumn}
    {index : ℕ} (hcol : typinf.cols[index]? = some col) :
    objectGetIndOffset typinf index = indicatorsBefore typinf.cols index := by
  obtain ⟨schema, name, collection, cols⟩ := typinf
  have hle := indicatorsBefore_add_le hcol (List.getElem?_eq_some_iff.mp hcol).choose
  have hpos := col.indicators_pos
  have htotal : indicatorsBefore cols cols.length ≤ 2 ^ 16 := h
  rw [objectGetIndOffset, Nat.mod_eq_of_lt]
  rw [TypeInfo.cols] at hle ⊢
  omega

section ObjectInit

-- the type of an attribute that is an object inside of its parent
def OciColumn.embedded : OciColumn → Option TypeInfo
  | .plain .. => none
  | .named _ typinf => if typinf.collection then none else some typinf

-- OCI_ObjectInit() for the object at the end of a path: `idx_ind`, from that of its parent, and the type
def objectInit (idx : ℕ) (typinf : TypeInfo) : List ℕ → Option (ℕ × TypeInfo)
  | [] => some (idx, typinf)
  | index :: path => do
    let sub ← typinf.cols[index]?.bind OciColumn.embedded
    objectInit ((idx + objectGetIndOffset typinf index) % 2 ^ 16) sub path

variable {col : OciColumn} {typinf sub : TypeInfo} {idx : ℕ} {path path' : List ℕ} {o o' : ℕ × TypeInfo}

lemma tree_of_embedded (h : col.embedded = some sub) : col.tree = sub.tree := by
  cases col with
  | plain => cases h
  | named name typinf =>
    rw [OciColumn.embedded] at h
    split at h
    · cases h
    · rename_i hobject
      obtain rfl := Option.some.inj h
      rw [OciColumn.tree, if_neg hobject]

lemma objectInit_subtree (hsize : idx + typinf.indicators ≤ 2 ^ 16)
    (h : objectInit idx typinf path = some o) :
    ∃ n, typinf.tree.subtree path = some (n, o.2.tree) ∧ o.1 = idx + n := by
  induction path generalizing idx typinf with
  | nil =>
    obtain rfl := Option.some.inj h
    cases typinf
    exact ⟨0, rfl, rfl⟩
  | cons index path ih =>
    rw [objectInit, Option.bind_eq_bind, Option.bind_eq_some_iff] at h
    obtain ⟨sub, hsub, h⟩ := h
    obtain ⟨col, hcol, hembedded⟩ := Option.bind_eq_some_iff.mp hsub
    have htree := tree_of_embedded hembedded
    have hinside := indicatorsBefore_add_le hcol (List.getElem?_eq_some_iff.mp hcol).choose
    rw [col.indicators_eq, htree, ← sub.indicators_eq] at hinside
    obtain ⟨schema, name, collection, cols⟩ := typinf
    have htotal : idx + indicatorsBefore cols cols.length ≤ 2 ^ 16 := hsize
    have hpos : 0 < sub.indicators := by
      rw [sub.indicators_eq]
      exact sub.tree.size_pos
    rw [TypeInfo.cols] at hinside hcol
    rw [objectGetIndOffset_eq (by rw [TypeInfo.indicators]; omega) hcol, TypeInfo.cols,
      Nat.mod_eq_of_lt (by omega)] at h
    obtain ⟨n, hn, hidx⟩ := ih (by omega) h
    refine ⟨indicatorsBefore cols index + n, ?_, by rw [hidx, Nat.add_assoc]⟩
    rw [TypeInfo.tree, Tree.subtree, trees_get, hcol, Option.map_some, Option.bind_some, htree, hn,
      Option.map_some, indicatorsBefore_eq]

-- an object and the objects that it embeds, at any depth, share out the table of its indicators: the
-- block of an object is in those of the objects around it, and apart from all others
theorem objectInit_blocks (hsize : typinf.indicators ≤ 2 ^ 16) (ho : objectInit 0 typinf path = some o)
    (ho' : objectInit 0 typinf path' = some o') :
    o.1 + o.2.indicators ≤ typinf.indicators ∧
      (path <+: path' → o.1 ≤ o'.1 ∧ o'.1 + o'.2.indicators ≤ o.1 + o.2.indicators) ∧
      (¬ path <+: path' → ¬ path' <+: path →
        o.1 + o.2.indicators ≤ o'.1 ∨ o'.1 + o'.2.indicators ≤ o.1) ∧
      (o.1 = o'.1 → path = path') := by
  obtain ⟨n, hn, hidx⟩ := objectInit_subtree (by omega) ho
  obtain ⟨n', hn', hidx'⟩ := objectInit_subtree (by omega) ho'
  rw [hidx, hidx', Nat.zero_add, Nat.zero_add]
  simp only [TypeInfo.indicators_eq]
  exact ⟨subtree_le hn, subtree_inside hn hn', subtree_disjoint hn hn', subtree_injective hn hn'⟩

def addressType : TypeInfo := .mk [] "ADDRESS".toList false
  [.plain "STREET".toList .chr 0 0, .plain "TOWN".toList .chr 0 0]

def personType : TypeInfo := .mk [] "PERSON".toList false
  [.plain "NAME".toList .chr 0 0, .named "HOME".toList addressType]

theorem objectInit_blocks_person : ∃ o o', objectInit 0 personType [] = some o ∧
    objectInit 0 personType [1] = some o' ∧ o.1 ≤ o'.1 ∧
      o'.1 + o'.2.indicators ≤ o.1 + o.2.indicators := by
  have hroot : objectInit 0 personType [] = some (0, personType) := rfl
  have hhome : objectInit 0 personType [1] = some (2, addressType) := rfl
  exact ⟨_, _, hroot, hhome, (objectInit_blocks (by decide) hroot hhome).2.1 List.nil_prefix⟩

end ObjectInit

end OracleDriver
