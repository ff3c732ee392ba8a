import Mathlib
import OracleDriver.ObjectTypes

/-! The list of the types that a connection has descriptions of. -/

namespace OracleDriver

-- OCI_TIF_*
inductive TypeInfoKind where
  | table
  | view
  | type
deriving DecidableEq, Repr

@[ext]
structure TypeKey where
  type : TypeInfoKind
  schema : Text
  name : Text
deriving DecidableEq

-- SQLT_NTY and SQLT_REF
inductive NamedCode where
  | nty
  | ref
deriving DecidableEq, Repr

-- what the server says of a column
inductive ColumnAnswer where
  -- OCIParamGet() fails
  | missing
  | plain
  | named (ocode : NamedCode) (typeName : Text)
deriving DecidableEq

structure Description where
  collection : Bool
  columns : List ColumnAnswer

-- the types that the server can describe
abbrev Dictionary := List (TypeKey × Description)

structure CachedColumn where
  ocode : Option NamedCode
  typinf : Option ℕ
deriving DecidableEq

structure CachedType where
  key : TypeKey
  collection : Bool
  cols : List CachedColumn
  refcount : ℕ

-- `tinfs`, with what is in memory
structure TypeCache where
  mem : ℕ → Option CachedType
  tinfs : List ℕ
  fresh : ℕ

inductive CacheFault where
  | overflow
  | nullPointer
  | freed
  | unfinished
deriving DecidableEq, Repr

def TypeCache.empty : TypeCache := ⟨fun _ => none, [], 0⟩

-- OCI_SIZE_OBJ_NAME, in bytes; the names of types are lists of their bytes (mtext)
def objectNameSize : ℕ := 30

def objSchema (name : Text) : Text := if '.' ∈ name then name.takeWhile (· ≠ '.') else []

-- what comes after the first '.', and the whole name where nothing does
def objName (name : Text) : Text :=
  let rest := ((name.dropWhile (· ≠ '.')).drop 1).take objectNameSize
  if rest = [] then name.take objectNameSize else rest

-- `obj_schema` and `obj_name` in upper case; the number of bytes that are copied to `obj_schema` is
-- not bounded
def typeKey (kind : TypeInfoKind) (name : Text) : Except CacheFault TypeKey :=
  if objectNameSize < (objSchema name).length then .error .overflow
  else .ok ⟨kind, (objSchema name).map Char.toUpper, (objName name).map Char.toUpper⟩

namespace TypeCache

def isKey (s : TypeCache) (key : TypeKey) (id : ℕ) : Bool :=
  match s.mem id with
  | some t => t.key.type = key.type && sameName t.key.name key.name &&
      sameName t.key.schema key.schema
  | none => false

def find (s : TypeCache) (key : TypeKey) : Option ℕ := s.tinfs.find? (s.isKey key)

def modify (s : TypeCache) (id : ℕ) (f : CachedType → CachedType) : TypeCache :=
  { s with mem := Function.update s.mem id ((s.mem id).map f) }

-- OCI_ListAppend()
def append (s : TypeCache) (key : TypeKey) : TypeCache where
  mem := Function.update s.mem s.fresh (some ⟨key, false, [], 0⟩)
  tinfs := s.tinfs ++ [s.fresh]
  fresh := s.fresh + 1

-- `refcount` has 16 bits
def addRef (s : TypeCache) (id : ℕ) : TypeCache :=
  s.modify id fun t => { t with refcount := (t.refcount + 1) % 2 ^ 16 }

def release (s : TypeCache) (id : ℕ) : TypeCache :=
  s.modify id fun t => { t with refcount := (t.refcount + (2 ^ 16 - 1)) % 2 ^ 16 }

-- OCI_ListRemove()
def listRemove (s : TypeCache) (id : ℕ) : TypeCache :=
  { s with tinfs := s.tinfs.erase id }

-- OCI_TypeInfoFree2() and the removal of the item that failed: where the count was one, the item is
-- not in memory any more
def abandon (s : TypeCache) (id : ℕ) : Except CacheFault TypeCache :=
  match s.mem id with
  | some t =>
    if (t.refcount + (2 ^ 16 - 1)) % 2 ^ 16 = 0 then .error .freed
    else .ok ((s.release id).listRemove id)
  | none => .error .freed

def addColumn (s : TypeCache) (id : ℕ) (col : CachedColumn) : TypeCache :=
  s.modify id fun t => { t with cols := t.cols ++ [col] }

def setCollection (s : TypeCache) (id : ℕ) (collection : Bool) : TypeCache :=
  s.modify id fun t => { t with collection := collection }

end TypeCache

section Describe

-- OCI_TypeInfoGet2() for the type of a column
variable (get : TypeKey → TypeCache → Except CacheFault (TypeCache × Option ℕ))

-- OCI_ColumnMap2() looks at the type of an object or a collection
def columnMap (ocode : NamedCode) (typinf : Option ℕ) (s : TypeCache) : Except CacheFault Unit :=
  match ocode, typinf with
  | .ref, _ => .ok ()
  | .nty, none => .error .nullPointer
  | .nty, some id => if (s.mem id).isSome then .ok () else .error .freed

-- OCI_ColumnDescribe2(): whether the description of the type of a column failed is lost with the
-- result of OCIDescriptorFree()
def columnDescribe (id : ℕ) (s : TypeCache) : ColumnAnswer → Except CacheFault (TypeCache × Bool)
  | .missing => .ok (s, false)
  | .plain => .ok (s.addColumn id ⟨none, none⟩, true)
  | .named ocode typeName => do
    let key ← typeKey .type typeName
    let (s, typinf) ← get key s
    columnMap ocode typinf s
    .ok (s.addColumn id ⟨some ocode, typinf⟩, true)

def columnsDescribe (id : ℕ) : List ColumnAnswer → TypeCache → Except CacheFault (TypeCache × Bool)
  | [], s => .ok (s, true)
  | col :: cols, s => do
    let (s, res) ← columnDescribe get id s col
    if res then columnsDescribe id cols s else .ok (s, false)

end Describe

-- OCI_TypeInfoGet2(), from where the name is in upper case
def typeInfoGet (d : Dictionary) : ℕ → TypeKey → TypeCache →
    Except CacheFault (TypeCache × Option ℕ)
  | 0, _, _ => .error .unfinished
  | fuel + 1, key, s =>
    match s.find key with
    | some id => .ok (s.addRef id, some id)
    | none =>
      match d.lookup key with
      | none => do
        let s' ← (s.append key).abandon s.fresh
        .ok (s', none)
      | some desc => do
        let (s', res) ← columnsDescribe (typeInfoGet d fuel) s.fresh desc.columns
          ((s.append key).setCollection s.fresh desc.collection)
        if res then .ok (s'.addRef s.fresh, some s.fresh)
        else do
          let s' ← s'.abandon s.fresh
          .ok (s', none)

-- QoreOracleConnection::clearCache()
def clearCache (s : TypeCache) : TypeCache where
  mem id := if id ∈ s.tinfs then none else s.mem id
  tinfs := []
  fresh := s.fresh

inductive CacheOp where
  | get (kind : TypeInfoKind) (name : Text)
  | clear

def cacheStep (d : Dictionary) (s : TypeCache) : CacheOp → Except CacheFault TypeCache
  | .get kind name => do
    let key ← typeKey kind name
    let (s', _) ← typeInfoGet d (d.length + 1) key s
    .ok s'
  | .clear => .ok (clearCache s)

def cacheRun (d : Dictionary) (ops : List CacheOp) (s : TypeCache) : Except CacheFault TypeCache :=
  ops.foldlM (cacheStep d) s

section Keys

def TypeKey.Upper (key : TypeKey) : Prop :=
  key.schema.map Char.toUpper = key.schema ∧ key.name.map Char.toUpper = key.name

lemma map_toUpper_toUpper (a : Text) : (a.map Char.toUpper).map Char.toUpper = a.map Char.toUpper := by
  simp

lemma typeKey_upper {kind : TypeInfoKind} {name : Text} {key : TypeKey}
    (h : typeKey kind name = .ok key) : key.Upper := by
  rw [typeKey] at h
  split at h
  · cases h
  · cases h
    exact ⟨map_toUpper_toUpper _, map_toUpper_toUpper _⟩

lemma sameName_upper {a b : Text} (ha : a.map Char.toUpper = a) (hb : b.map Char.toUpper = b) :
    sameName a b = true ↔ a = b := by
  rw [sameName, beq_iff_eq]
  constructor
  · intro h
    have hmap := congrArg (List.map Char.toUpper) h
    simpa [List.map_map, Function.comp_def, ha, hb] using hmap
  · rintro rfl
    rfl

end Keys

section Soundness

def TypeCache.keyOf (s : TypeCache) (id : ℕ) : Option TypeKey := (s.mem id).map (·.key)

-- a column that is kept, with what the server says of it
inductive ColumnDescribed (d : Dictionary) (s : TypeCache) : CachedColumn → ColumnAnswer → Prop
  | plain : ColumnDescribed d s ⟨none, none⟩ .plain
  | known {ocode : NamedCode} {typeName : Text} {key : TypeKey} {id : ℕ} :
      typeKey .type typeName = .ok key → id ∈ s.tinfs → s.keyOf id = some key →
      ColumnDescribed d s ⟨some ocode, some id⟩ (.named ocode typeName)
  | unknown {typeName : Text} {key : TypeKey} : typeKey .type typeName = .ok key →
      d.lookup key = none → ColumnDescribed d s ⟨some .ref, none⟩ (.named .ref typeName)

-- a type is kept as the server describes it
def TypeDescribed (d : Dictionary) (s : TypeCache) (id : ℕ) : Prop :=
  ∃ t desc, s.mem id = some t ∧ d.lookup t.key = some desc ∧ t.collection = desc.collection ∧
    List.Forall₂ (ColumnDescribed d s) t.cols desc.columns

/-- The types in the list, but for those whose columns are being described. -/
structure TypeCache.Sound (d : Dictionary) (busy : List ℕ) (s : TypeCache) : Prop where
  fresh : ∀ id ∈ s.tinfs, id < s.fresh
  nodup : s.tinfs.Nodup
  upper : ∀ id ∈ s.tinfs, ∃ key, s.keyOf id = some key ∧ key.Upper ∧ d.lookup key ≠ none
  keys : ∀ id ∈ s.tinfs, ∀ id' ∈ s.tinfs, s.keyOf id = s.keyOf id' → id = id'
  described : ∀ id ∈ s.tinfs, id ∉ busy → TypeDescribed d s id

/-- The list gets longer, and only columns of types that are being described are added. -/
structure TypeCache.Extends (busy : List ℕ) (s s' : TypeCache) : Prop where
  fresh : s.fresh ≤ s'.fresh
  tinfs : s.tinfs <+: s'.tinfs
  keyOf : ∀ id ∈ s.tinfs, s'.keyOf id = s.keyOf id
  columns : ∀ id ∈ s.tinfs, id ∉ busy →
    (s'.mem id).map (fun t => (t.collection, t.cols)) =
      (s.mem id).map fun t => (t.collection, t.cols)

variable {d : Dictionary} {busy : List ℕ} {s s' s'' : TypeCache} {id : ℕ} {key : TypeKey}

namespace TypeCache

lemma Extends.refl (busy : List ℕ) (s : TypeCache) : Extends busy s s :=
  ⟨le_rfl, List.prefix_rfl, fun _ _ => rfl, fun _ _ _ => rfl⟩

lemma Extends.mem (h : Extends busy s s') (hid : id ∈ s.tinfs) : id ∈ s'.tinfs :=
  h.tinfs.subset hid

lemma Extends.trans (h : Extends busy s s') (h' : Extends busy s' s'') : Extends busy s s'' where
  fresh := h.fresh.trans h'.fresh
  tinfs := h.tinfs.trans h'.tinfs
  keyOf id hid := (h'.keyOf id (h.mem hid)).trans (h.keyOf id hid)
  columns id hid hbusy := (h'.columns id (h.mem hid) hbusy).trans (h.columns id hid hbusy)

lemma Extends.mono {busy' : List ℕ} (h : Extends busy s s') (hsub : busy ⊆ busy') :
    Extends busy' s s' where
  fresh := h.fresh
  tinfs := h.tinfs
  keyOf := h.keyOf
  columns id hid hbusy := h.columns id hid fun hmem => hbusy (hsub hmem)

end TypeCache

open TypeCache

lemma ColumnDescribed.extend {col : CachedColumn} {answer : ColumnAnswer}
    (h : ColumnDescribed d s col answer) (hext : Extends busy s s') :
    ColumnDescribed d s' col answer := by
  cases h with
  | plain => exact .plain
  | known hkey hid hof => exact .known hkey (hext.mem hid) ((hext.keyOf _ hid).trans hof)
  | unknown hkey hnone => exact .unknown hkey hnone

lemma columns_extend {cols : List CachedColumn} {answers : List ColumnAnswer}
    (h : List.Forall₂ (ColumnDescribed d s) cols answers) (hext : Extends busy s s') :
    List.Forall₂ (ColumnDescribed d s') cols answers :=
  h.imp fun _ _ hcol => hcol.extend hext

lemma keyOf_eq_some : s.keyOf id = some key ↔ ∃ t, s.mem id = some t ∧ t.key = key := by
  rw [keyOf, Option.map_eq_some_iff]

lemma TypeDescribed.extend (h : TypeDescribed d s id) (hext : Extends busy s s')
    (hid : id ∈ s.tinfs) (hbusy : id ∉ busy) : TypeDescribed d s' id := by
  obtain ⟨t, desc, ht, hdesc, hcoll, hcols⟩ := h
  have hkey := hext.keyOf id hid
  have hcolumns := hext.columns id hid hbusy
  rw [keyOf, keyOf, ht, Option.map_some, Option.map_eq_some_iff] at hkey
  rw [ht, Option.map_some, Option.map_eq_some_iff] at hcolumns
  obtain ⟨t', ht', hkey⟩ := hkey
  obtain ⟨t'', ht'', hsame⟩ := hcolumns
  obtain rfl := Option.some.inj (ht'.symm.trans ht'')
  obtain ⟨hcoll', hcols'⟩ := Prod.mk.inj hsame
  refine ⟨t', desc, ht', ?_, hcoll'.trans hcoll, ?_⟩
  · rw [hkey, hdesc]
  · rw [hcols']
    exact columns_extend hcols hext

lemma find_eq_some (hsound : Sound d busy s) (hkey : key.Upper) :
    s.find key = some id ↔ id ∈ s.tinfs ∧ s.keyOf id = some key := by
  have hiff : ∀ id ∈ s.tinfs, s.isKey key id = true ↔ s.keyOf id = some key := by
    intro id hid
    obtain ⟨key', hof, hupper, -⟩ := hsound.upper id hid
    obtain ⟨t, ht, rfl⟩ := keyOf_eq_some.mp hof
    rw [isKey, ht, hof, Option.some.injEq]
    simp only [Bool.and_eq_true, decide_eq_true_eq, sameName_upper hupper.2 hkey.2,
      sameName_upper hupper.1 hkey.1]
    constructor
    · rintro ⟨⟨htype, hname⟩, hschema⟩
      exact TypeKey.ext htype hschema hname
    · rintro rfl
      exact ⟨⟨rfl, rfl⟩, rfl⟩
  rw [find]
  constructor
  · intro h
    have hid := List.mem_of_find?_eq_some h
    exact ⟨hid, (hiff id hid).mp (List.find?_some h)⟩
  · rintro ⟨hid, hof⟩
    cases hfind : s.tinfs.find? (s.isKey key) with
    | none =>
      rw [List.find?_eq_none] at hfind
      exact absurd ((hiff id hid).mpr hof) (hfind id hid)
    | some id' =>
      have hid' := List.mem_of_find?_eq_some hfind
      have hof' := (hiff id' hid').mp (List.find?_some hfind)
      rw [hsound.keys id hid id' hid' (hof.trans hof'.symm)]

namespace TypeCache

lemma Sound.of_extends (h : Sound d busy s) (hext : Extends busy s s') (htinfs : s'.tinfs = s.tinfs) :
    Sound d busy s' where
  fresh id hid := by
    rw [htinfs] at hid
    exact (h.fresh id hid).trans_le hext.fresh
  nodup := by
    rw [htinfs]
    exact h.nodup
  upper id hid := by
    rw [htinfs] at hid
    rw [hext.keyOf id hid]
    exact h.upper id hid
  keys id hid id' hid' heq := by
    rw [htinfs] at hid hid'
    rw [hext.keyOf id hid, hext.keyOf id' hid'] at heq
    exact h.keys id hid id' hid' heq
  described id hid hbusy := by
    rw [htinfs] at hid
    exact (h.described id hid hbusy).extend hext hid hbusy

lemma modify_mem_self (s : TypeCache) (id : ℕ) (f : CachedType → CachedType) :
    (s.modify id f).mem id = (s.mem id).map f := Function.update_self _ _ _

lemma modify_mem_of_ne {i : ℕ} (h : i ≠ id) (f : CachedType → CachedType) :
    (s.modify id f).mem i = s.mem i := Function.update_of_ne h _ _

lemma keyOf_modify (s : TypeCache) (id : ℕ) {f : CachedType → CachedType}
    (hf : ∀ t, (f t).key = t.key) (i : ℕ) : (s.modify id f).keyOf i = s.keyOf i := by
  by_cases hi : i = id
  · subst hi
    rw [keyOf, modify_mem_self, Option.map_map, keyOf]
    exact congrArg (fun g => (s.mem i).map g) (funext hf)
  · rw [keyOf, modify_mem_of_ne hi, keyOf]

lemma extends_modify (s : TypeCache) (id : ℕ) {f : CachedType → CachedType}
    (hf : ∀ t, (f t).key = t.key) : Extends [id] s (s.modify id f) where
  fresh := le_rfl
  tinfs := List.prefix_rfl
  keyOf i _ := keyOf_modify s id hf i
  columns i _ hi := by
    rw [List.mem_singleton] at hi
    rw [modify_mem_of_ne hi]

lemma extends_addRef (s : TypeCache) (id : ℕ) : Extends [] s (s.addRef id) where
  fresh := le_rfl
  tinfs := List.prefix_rfl
  keyOf i _ := by
    apply keyOf_modify
    intro t
    rfl
  columns i _ _ := by
    by_cases hi : i = id
    · subst hi
      rw [addRef, modify_mem_self, Option.map_map]
      rfl
    · rw [addRef, modify_mem_of_ne hi]

lemma fresh_notMem (h : Sound d busy s) : s.fresh ∉ s.tinfs :=
  fun hmem => (h.fresh _ hmem).ne rfl

lemma append_mem_of_ne {i : ℕ} (h : i ≠ s.fresh) : (s.append key).mem i = s.mem i :=
  Function.update_of_ne h _ _

lemma append_mem_fresh (s : TypeCache) (key : TypeKey) :
    (s.append key).mem s.fresh = some ⟨key, false, [], 0⟩ := Function.update_self _ _ _

lemma extends_append (h : Sound d busy s) (key : TypeKey) : Extends [] s (s.append key) where
  fresh := Nat.le_succ _
  tinfs := List.prefix_append _ _
  keyOf id hid := by rw [keyOf, append_mem_of_ne (h.fresh id hid).ne, keyOf]
  columns id hid _ := by rw [append_mem_of_ne (h.fresh id hid).ne]

lemma Sound.append (h : Sound d busy s) (hkey : key.Upper) (hdesc : d.lookup key ≠ none)
    (hnew : s.find key = none) : Sound d (s.fresh :: busy) (s.append key) := by
  have hext := extends_append h key
  have hof : (s.append key).keyOf s.fresh = some key := by
    rw [keyOf, append_mem_fresh]
    rfl
  have hother : ∀ id ∈ s.tinfs, s.keyOf id ≠ some key := by
    intro id hid hid'
    have hfind := (find_eq_some h hkey).mpr ⟨hid, hid'⟩
    rw [hnew] at hfind
    cases hfind
  constructor
  · intro id hid
    rcases List.mem_append.mp hid with hid | hid
    · exact (h.fresh id hid).trans (Nat.lt_succ_self _)
    · rw [List.mem_singleton.mp hid]
      exact Nat.lt_succ_self _
  · exact List.nodup_append.mpr ⟨h.nodup, List.nodup_singleton _, fun id hid id' hid' => by
      rw [List.mem_singleton.mp hid']
      exact (h.fresh id hid).ne⟩
  · intro id hid
    rcases List.mem_append.mp hid with hid | hid
    · rw [hext.keyOf id hid]
      exact h.upper id hid
    · rw [List.mem_singleton.mp hid]
      exact ⟨key, hof, hkey, hdesc⟩
  · intro id hid id' hid' heq
    rcases List.mem_append.mp hid with hid | hid <;> rcases List.mem_append.mp hid' with hid' | hid'
    · rw [hext.keyOf id hid, hext.keyOf id' hid'] at heq
      exact h.keys id hid id' hid' heq
    · rw [List.mem_singleton.mp hid', hext.keyOf id hid, hof] at heq
      exact absurd heq (hother id hid)
    · rw [List.mem_singleton.mp hid, hext.keyOf id' hid', hof] at heq
      exact absurd heq.symm (hother id' hid')
    · rw [List.mem_singleton.mp hid, List.mem_singleton.mp hid']
  · intro id hid hbusy
    rw [List.mem_cons, not_or] at hbusy
    rcases List.mem_append.mp hid with hid | hid
    · exact (h.described id hid hbusy.2).extend hext hid (List.not_mem_nil)
    · exact absurd (List.mem_singleton.mp hid) hbusy.1

lemma abandon_append (h : Sound d busy s) (key : TypeKey) :
    ∃ s', (s.append key).abandon s.fresh = .ok s' ∧ s'.tinfs = s.tinfs ∧ Extends [] s s' := by
  have herase : (s.tinfs ++ [s.fresh]).erase s.fresh = s.tinfs := by
    rw [List.erase_append_right _ (fresh_notMem h), List.erase_cons_head, List.append_nil]
  refine ⟨((s.append key).release s.fresh).listRemove s.fresh, ?_, herase, ?_⟩
  · rw [abandon, append_mem_fresh]
    exact if_neg (by norm_num)
  · constructor
    · exact Nat.le_succ _
    · exact (congrArg (s.tinfs <+: ·) herase).mpr List.prefix_rfl
    · intro id hid
      have hne := (h.fresh id hid).ne
      rw [keyOf, listRemove, release]
      dsimp only
      rw [modify_mem_of_ne hne, append_mem_of_ne hne, keyOf]
    · intro id hid _
      have hne := (h.fresh id hid).ne
      rw [listRemove, release]
      dsimp only
      rw [modify_mem_of_ne hne, append_mem_of_ne hne]

end TypeCache

-- every column of every type is described
def Dictionary.Complete (d : Dictionary) : Prop :=
  ∀ key desc, d.lookup key = some desc → .missing ∉ desc.columns

/-- What a call of OCI_TypeInfoGet2() leaves. -/
structure Gets (d : Dictionary) (busy : List ℕ) (key : TypeKey) (s s' : TypeCache)
    (typinf : Option ℕ) : Prop where
  sound : s'.Sound d busy
  ext : s.Extends [] s'
  listed : ∀ id, typinf = some id → id ∈ s'.tinfs ∧ s'.keyOf id = some key
  unknown : typinf = none → d.lookup key = none

-- a type whose first columns are described
structure Describing (d : Dictionary) (id : ℕ) (key : TypeKey) (collection : Bool)
    (done : List ColumnAnswer) (s : TypeCache) : Prop where
  listed : id ∈ s.tinfs
  described : ∃ t, s.mem id = some t ∧ t.key = key ∧ t.collection = collection ∧
    List.Forall₂ (ColumnDescribed d s) t.cols done

section Columns

variable {get : TypeKey → TypeCache → Except CacheFault (TypeCache × Option ℕ)} {collection : Bool}
  {done answers : List ColumnAnswer} {answer : ColumnAnswer} {res : Bool}

lemma Describing.extend (h : Describing d id key collection done s) (hext : Extends [] s s') :
    Describing d id key collection done s' := by
  obtain ⟨hid, t, ht, hkey, hcoll, hcols⟩ := h
  have hof := hext.keyOf id hid
  have hcolumns := hext.columns id hid List.not_mem_nil
  rw [keyOf, keyOf, ht, Option.map_some, Option.map_eq_some_iff] at hof
  rw [ht, Option.map_some, Option.map_eq_some_iff] at hcolumns
  obtain ⟨t', ht', hkey'⟩ := hof
  obtain ⟨t'', ht'', hsame⟩ := hcolumns
  obtain rfl := Option.some.inj (ht'.symm.trans ht'')
  obtain ⟨hcoll', hcols'⟩ := Prod.mk.inj hsame
  refine ⟨hext.mem hid, t', ht', hkey'.trans hkey, hcoll'.trans hcoll, ?_⟩
  rw [hcols']
  exact columns_extend hcols hext

lemma Describing.addColumn {col : CachedColumn} (h : Describing d id key collection done s)
    (hcol : ColumnDescribed d s col answer) :
    Describing d id key collection (done ++ [answer]) (s.addColumn id col) := by
  obtain ⟨hid, t, ht, hkey, hcoll, hcols⟩ := h
  have hext : Extends [id] s (s.addColumn id col) := extends_modify s id fun _ => rfl
  refine ⟨hid, { t with cols := t.cols ++ [col] }, ?_, hkey, hcoll, ?_⟩
  · rw [TypeCache.addColumn, modify_mem_self, ht]
    rfl
  · exact columns_extend (List.rel_append hcols (.cons hcol .nil)) hext

lemma Sound.addColumn (h : Sound d busy s) (hid : id ∈ busy) (col : CachedColumn) :
    Sound d busy (s.addColumn id col) ∧ Extends [id] s (s.addColumn id col) := by
  have hext : Extends [id] s (s.addColumn id col) := extends_modify s id fun _ => rfl
  refine ⟨h.of_extends (hext.mono ?_) rfl, hext⟩
  simpa using hid

lemma columnDescribe_sound
    (hget : ∀ key s s' typinf, key.Upper → Sound d busy s → get key s = .ok (s', typinf) →
      Gets d busy key s s' typinf)
    (hid : id ∈ busy) (hs : Sound d busy s) (hdone : Describing d id key collection done s)
    (hanswer : answer ≠ .missing) (h : columnDescribe get id s answer = .ok (s', res)) :
    res = true ∧ Sound d busy s' ∧ Extends [id] s s' ∧
      Describing d id key collection (done ++ [answer]) s' := by
  cases answer with
  | missing => exact absurd rfl hanswer
  | plain =>
    cases h
    obtain ⟨hsound, hext⟩ := Sound.addColumn hs hid ⟨none, none⟩
    exact ⟨rfl, hsound, hext, hdone.addColumn .plain⟩
  | named ocode typeName =>
    rw [columnDescribe] at h
    simp only [bind, Except.bind] at h
    split at h
    · cases h
    · rename_i key' hkey'
      split at h
      · cases h
      · rename_i pair hpair
        obtain ⟨s1, typinf⟩ := pair
        have hgets := hget key' s s1 typinf (typeKey_upper hkey') hs hpair
        dsimp only at h
        split at h
        · cases h
        · rename_i hmap
          cases h
          have hcol : ColumnDescribed d s1 ⟨some ocode, typinf⟩ (.named ocode typeName) := by
            cases typinf with
            | some id' =>
              obtain ⟨hlisted, hof⟩ := hgets.listed id' rfl
              exact .known hkey' hlisted hof
            | none =>
              cases ocode with
              | nty => cases hmap
              | ref => exact .unknown hkey' (hgets.unknown rfl)
          obtain ⟨hsound, hext⟩ := Sound.addColumn hgets.sound hid ⟨some ocode, typinf⟩
          exact ⟨rfl, hsound, (hgets.ext.mono (List.nil_subset _)).trans hext,
            (hdone.extend hgets.ext).addColumn hcol⟩

lemma columnsDescribe_sound
    (hget : ∀ key s s' typinf, key.Upper → Sound d busy s → get key s = .ok (s', typinf) →
      Gets d busy key s s' typinf)
    (hid : id ∈ busy) (hs : Sound d busy s) (hdone : Describing d id key collection done s)
    (hanswers : .missing ∉ answers) (h : columnsDescribe get id answers s = .ok (s', res)) :
    res = true ∧ Sound d busy s' ∧ Extends [id] s s' ∧
      Describing d id key collection (done ++ answers) s' := by
  induction answers generalizing s done with
  | nil =>
    cases h
    rw [List.append_nil]
    exact ⟨rfl, hs, Extends.refl _ _, hdone⟩
  | cons answer answers ih =>
    rw [List.mem_cons, not_or] at hanswers
    rw [columnsDescribe] at h
    simp only [bind, Except.bind] at h
    split at h
    · cases h
    · rename_i pair hpair
      obtain ⟨s1, res1⟩ := pair
      obtain ⟨rfl, hs1, hext1, hdone1⟩ :=
        columnDescribe_sound hget hid hs hdone (Ne.symm hanswers.1) hpair
      obtain ⟨hres, hs', hext', hdone'⟩ := ih hs1 hdone1 hanswers.2 h
      rw [List.append_assoc] at hdone'
      exact ⟨hres, hs', hext1.trans hext', hdone'⟩

end Columns

lemma TypeCache.Sound.finish {desc : Description} (hs : Sound d (id :: busy) s)
    (hdesc : d.lookup key = some desc)
    (h : Describing d id key desc.collection desc.columns s) : Sound d busy s where
  fresh := hs.fresh
  nodup := hs.nodup
  upper := hs.upper
  keys := hs.keys
  described i hi hbusy := by
    by_cases heq : i = id
    · subst heq
      obtain ⟨-, t, ht, rfl, hcoll, hcols⟩ := h
      exact ⟨t, desc, ht, hdesc, hcoll, hcols⟩
    · exact hs.described i hi (by simp [heq, hbusy])

lemma typeInfoGet_found (hs : Sound d busy s) (hkey : key.Upper)
    (hfind : s.find key = some id) : Gets d busy key s (s.addRef id) (some id) := by
  have hext := extends_addRef s id
  obtain ⟨hid, hof⟩ := (find_eq_some hs hkey).mp hfind
  refine ⟨hs.of_extends (hext.mono (List.nil_subset _)) rfl, hext, ?_, nofun⟩
  rintro _ ⟨⟩
  exact ⟨hid, (hext.keyOf id hid).trans hof⟩

lemma describing_start (hs : Sound d busy s) (hkey : key.Upper) {desc : Description}
    (hdesc : d.lookup key = some desc) (hfind : s.find key = none) :
    Sound d (s.fresh :: busy) ((s.append key).setCollection s.fresh desc.collection) ∧
      Extends [] s ((s.append key).setCollection s.fresh desc.collection) ∧
      Describing d s.fresh key desc.collection []
        ((s.append key).setCollection s.fresh desc.collection) := by
  have hne : d.lookup key ≠ none := by simp [hdesc]
  have happend := hs.append hkey hne hfind
  have hext : Extends [s.fresh] (s.append key)
      ((s.append key).setCollection s.fresh desc.collection) := extends_modify _ _ fun _ => rfl
  have hmem : ((s.append key).setCollection s.fresh desc.collection).mem s.fresh =
      some ⟨key, desc.collection, [], 0⟩ := by
    rw [setCollection, modify_mem_self, append_mem_fresh]
    rfl
  refine ⟨happend.of_extends (hext.mono ?_) rfl, ?_, ?_⟩
  · simp
  · have happ := extends_append hs key
    constructor
    · exact happ.fresh
    · exact happ.tinfs
    · intro id hid
      exact (hext.keyOf id (happ.mem hid)).trans (happ.keyOf id hid)
    · intro id hid _
      have hid' : id ∉ [s.fresh] := by
        rw [List.mem_singleton]
        exact (hs.fresh id hid).ne
      exact (hext.columns id (happ.mem hid) hid').trans (happ.columns id hid List.not_mem_nil)
  · refine ⟨List.mem_append_right _ (List.mem_singleton_self _), _, hmem, rfl, rfl, .nil⟩

lemma extends_of_fresh (hs : Sound d busy s) (h : Extends [] s s') (h' : Extends [s.fresh] s' s'') :
    Extends [] s s'' where
  fresh := h.fresh.trans h'.fresh
  tinfs := h.tinfs.trans h'.tinfs
  keyOf id hid := (h'.keyOf id (h.mem hid)).trans (h.keyOf id hid)
  columns id hid hbusy := by
    have hid' : id ∉ [s.fresh] := by
      rw [List.mem_singleton]
      exact (hs.fresh id hid).ne
    exact (h'.columns id (h.mem hid) hid').trans (h.columns id hid hbusy)

lemma typeInfoGet_sound (hd : d.Complete) {fuel : ℕ} {typinf : Option ℕ} (hkey : key.Upper)
    (hs : Sound d busy s) (h : typeInfoGet d fuel key s = .ok (s', typinf)) :
    Gets d busy key s s' typinf := by
  induction fuel generalizing key s s' typinf busy with
  | zero => cases h
  | succ fuel ih =>
    rw [typeInfoGet] at h
    cases hfind : s.find key with
    | some id =>
      rw [hfind] at h
      cases h
      exact typeInfoGet_found hs hkey hfind
    | none =>
      rw [hfind] at h
      dsimp only at h
      cases hdesc : d.lookup key with
      | none =>
        rw [hdesc] at h
        obtain ⟨s1, habandon, htinfs, hext⟩ := abandon_append hs key
        dsimp only at h
        rw [habandon] at h
        cases h
        exact ⟨hs.of_extends (hext.mono (List.nil_subset _)) htinfs, hext, nofun, fun _ => hdesc⟩
      | some desc =>
        rw [hdesc] at h
        simp only [bind, Except.bind] at h
        obtain ⟨hstart, hext, hdescribing⟩ := describing_start hs hkey hdesc hfind
        split at h
        · cases h
        · rename_i pair hpair
          obtain ⟨s1, res⟩ := pair
          obtain ⟨rfl, hs1, hext1, hdone⟩ :=
            columnsDescribe_sound (fun key s s' typinf hkey hs h => ih hkey hs h)
              (List.mem_cons_self) hstart hdescribing (hd key desc hdesc) hpair
          rw [if_pos rfl] at h
          cases h
          have hfinish := hs1.finish hdesc hdone
          have hext2 := extends_addRef s1 s.fresh
          have hof : s1.keyOf s.fresh = some key := by
            obtain ⟨t, ht, rfl, -⟩ := hdone.described
            rw [keyOf, ht]
            rfl
          refine ⟨hfinish.of_extends (hext2.mono (List.nil_subset _)) rfl,
            (extends_of_fresh hs hext hext1).trans hext2, ?_, nofun⟩
          rintro _ ⟨⟩
          exact ⟨hdone.listed, (hext2.keyOf _ hdone.listed).trans hof⟩

end Soundness

section Ends

variable {d : Dictionary} {busy : List ℕ} {s s' : TypeCache} {id : ℕ} {key : TypeKey}

open TypeCache

-- the type of a column can be described, if the column is an object or a collection
def AnswerResolved (d : Dictionary) : ColumnAnswer → Prop
  | .named ocode typeName =>
    ∃ key, typeKey .type typeName = .ok key ∧ (ocode = .nty → d.lookup key ≠ none)
  | _ => True

def TypeResolved (d : Dictionary) (key : TypeKey) : Prop :=
  ∀ desc, d.lookup key = some desc → ∀ answer ∈ desc.columns, AnswerResolved d answer

-- a type has a column of another type
def TypeEdge (d : Dictionary) (key key' : TypeKey) : Prop :=
  ∃ desc, d.lookup key = some desc ∧
    ∃ ocode typeName, .named ocode typeName ∈ desc.columns ∧ typeKey .type typeName = .ok key'

def AllResolved (d : Dictionary) (key : TypeKey) : Prop :=
  ∀ key', Relation.ReflTransGen (TypeEdge d) key key' → TypeResolved d key'

-- the types that are not in the list
def unlisted (d : Dictionary) (s : TypeCache) : Finset TypeKey :=
  (d.map Prod.fst).toFinset.filter fun key => ∀ id ∈ s.tinfs, s.keyOf id ≠ some key

lemma mem_unlisted : key ∈ unlisted d s ↔
    key ∈ d.map Prod.fst ∧ ∀ id ∈ s.tinfs, s.keyOf id ≠ some key := by
  rw [unlisted, Finset.mem_filter, List.mem_toFinset]

lemma unlisted_subset (h : Extends busy s s') : unlisted d s' ⊆ unlisted d s := by
  intro key hkey
  rw [mem_unlisted] at hkey ⊢
  refine ⟨hkey.1, ?_⟩
  intro id hid
  rw [← h.keyOf id hid]
  exact hkey.2 id (h.mem hid)

lemma mem_of_lookup {desc : Description} (h : d.lookup key = some desc) : key ∈ d.map Prod.fst := by
  obtain ⟨l, l', hd, -⟩ := List.lookup_eq_some_iff.mp h
  rw [hd]
  simp

lemma unlisted_card_lt (hs : Sound d busy s) (hkey : key.Upper) {desc : Description}
    (hdesc : d.lookup key = some desc) (hfind : s.find key = none) (hext : Extends [] s s')
    (hlisted : ∃ id ∈ s'.tinfs, s'.keyOf id = some key) :
    (unlisted d s').card < (unlisted d s).card := by
  apply Finset.card_lt_card
  rw [Finset.ssubset_iff_of_subset (unlisted_subset hext)]
  refine ⟨key, mem_unlisted.mpr ⟨mem_of_lookup hdesc, ?_⟩, ?_⟩
  · intro id hid hof
    have hfound := (find_eq_some hs hkey).mpr ⟨hid, hof⟩
    rw [hfind] at hfound
    cases hfound
  · intro hmem
    obtain ⟨id, hid, hof⟩ := hlisted
    exact (mem_unlisted.mp hmem).2 id hid hof

-- how a call ends, and when it ends without a fault
def EndsIff {α : Type} (r : Except CacheFault α) (p : Prop) : Prop :=
  (∀ e, r = .error e → e = .overflow ∨ e = .nullPointer) ∧ (p → ∃ a, r = .ok a)

lemma ends_ok {α : Type} (a : α) (p : Prop) : EndsIff (.ok a) p := ⟨nofun, fun _ => ⟨a, rfl⟩⟩

lemma ends_error {α : Type} {p : Prop} {e : CacheFault} (he : e = .overflow ∨ e = .nullPointer)
    (hp : ¬ p) : EndsIff (.error e : Except CacheFault α) p := by
  refine ⟨?_, fun h => absurd h hp⟩
  rintro _ ⟨⟩
  exact he

lemma EndsIff.bind {α β : Type} {r : Except CacheFault α} {f : α → Except CacheFault β} {p q : Prop}
    (hr : EndsIff r p) (hqp : q → p) (hf : ∀ a, r = .ok a → EndsIff (f a) q) : EndsIff (r >>= f) q := by
  cases r with
  | error e =>
    constructor
    · intro e' he'
      cases he'
      exact hr.1 e rfl
    · intro hq
      obtain ⟨a, ha⟩ := hr.2 (hqp hq)
      cases ha
  | ok a => exact hf a rfl

lemma ends_typeKey (kind : TypeInfoKind) (name : Text) :
    EndsIff (typeKey kind name) (∃ key, typeKey kind name = .ok key) := by
  refine ⟨fun e he => ?_, id⟩
  rw [typeKey] at he
  split at he
  · cases he
    exact .inl rfl
  · cases he

section Columns

variable {get : TypeKey → TypeCache → Except CacheFault (TypeCache × Option ℕ)} {collection : Bool}
  {done answers : List ColumnAnswer} {answer : ColumnAnswer} {fuel : ℕ}

-- what comes after the answer of the server
def AnswerReaches (d : Dictionary) (answer : ColumnAnswer) : Prop :=
  AnswerResolved d answer ∧ ∀ ocode typeName key, answer = .named ocode typeName →
    typeKey .type typeName = .ok key → AllResolved d key

lemma columnDescribe_ends
    (hget : ∀ key s s' typinf, key.Upper → Sound d busy s → get key s = .ok (s', typinf) →
      Gets d busy key s s' typinf)
    (hends : ∀ key s, key.Upper → Sound d busy s → (unlisted d s).card < fuel →
      EndsIff (get key s) (AllResolved d key))
    (hs : Sound d busy s) (hfuel : (unlisted d s).card < fuel) :
    EndsIff (columnDescribe get id s answer) (AnswerReaches d answer) := by
  cases answer with
  | missing => exact ends_ok _ _
  | plain => exact ends_ok _ _
  | named ocode typeName =>
    rw [columnDescribe]
    apply (ends_typeKey .type typeName).bind
    · rintro ⟨⟨key, hkey, -⟩, -⟩
      exact ⟨key, hkey⟩
    · intro key hkey
      apply (hends key s (typeKey_upper hkey) hs hfuel).bind
      · rintro ⟨-, hreach⟩
        exact hreach ocode typeName key rfl hkey
      · rintro ⟨s1, typinf⟩ hpair
        have hgets := hget key s s1 typinf (typeKey_upper hkey) hs hpair
        have hmap : EndsIff (columnMap ocode typinf s1) (AnswerReaches d (.named ocode typeName)) := by
          cases ocode with
          | ref => exact ends_ok _ _
          | nty =>
            cases typinf with
            | none =>
              apply ends_error (.inr rfl)
              rintro ⟨⟨key', hkey', hdesc⟩, -⟩
              obtain rfl := Except.ok.inj (hkey.symm.trans hkey')
              exact hdesc rfl (hgets.unknown rfl)
            | some id' =>
              obtain ⟨-, hof⟩ := hgets.listed id' rfl
              obtain ⟨t, ht, -⟩ := keyOf_eq_some.mp hof
              rw [columnMap, ht]
              exact ends_ok _ _
        apply hmap.bind fun h => h
        intro _ _
        exact ends_ok _ _

lemma columnsDescribe_ends
    (hget : ∀ key s s' typinf, key.Upper → Sound d busy s → get key s = .ok (s', typinf) →
      Gets d busy key s s' typinf)
    (hends : ∀ key s, key.Upper → Sound d busy s → (unlisted d s).card < fuel →
      EndsIff (get key s) (AllResolved d key))
    (hid : id ∈ busy) (hs : Sound d busy s) (hdone : Describing d id key collection done s)
    (hanswers : .missing ∉ answers) (hfuel : (unlisted d s).card < fuel) :
    EndsIff (columnsDescribe get id answers s) (∀ answer ∈ answers, AnswerReaches d answer) := by
  induction answers generalizing s done with
  | nil => exact ends_ok _ _
  | cons answer answers ih =>
    rw [List.mem_cons, not_or] at hanswers
    rw [columnsDescribe]
    apply (columnDescribe_ends hget hends hs hfuel).bind
    · intro h
      exact h answer List.mem_cons_self
    · rintro ⟨s1, res⟩ hpair
      obtain ⟨rfl, hs1, hext, hdone1⟩ :=
        columnDescribe_sound hget hid hs hdone (Ne.symm hanswers.1) hpair
      have hrest := ih hs1 hdone1 hanswers.2
        ((Finset.card_le_card (unlisted_subset hext)).trans_lt hfuel)
      exact ⟨hrest.1, fun h => hrest.2 fun answer hanswer => h answer (List.mem_cons_of_mem _ hanswer)⟩

end Columns

lemma answer_reaches {desc : Description} (hdesc : d.lookup key = some desc)
    (h : AllResolved d key) : ∀ answer ∈ desc.columns, AnswerReaches d answer := by
  intro answer hanswer
  refine ⟨h key .refl desc hdesc answer hanswer, ?_⟩
  rintro ocode typeName key' rfl hkey' key'' hpath
  exact h key'' (.head ⟨desc, hdesc, ocode, typeName, hanswer, hkey'⟩ hpath)

lemma typeInfoGet_ends (hd : d.Complete) {fuel : ℕ} (hkey : key.Upper) (hs : Sound d busy s)
    (hfuel : (unlisted d s).card < fuel) :
    EndsIff (typeInfoGet d fuel key s) (AllResolved d key) := by
  induction fuel generalizing key s busy with
  | zero => cases hfuel
  | succ fuel ih =>
    rw [typeInfoGet]
    cases hfind : s.find key with
    | some id => exact ends_ok _ _
    | none =>
      dsimp only
      cases hdesc : d.lookup key with
      | none =>
        obtain ⟨s1, habandon, -⟩ := abandon_append hs key
        dsimp only
        rw [habandon]
        exact ends_ok _ _
      | some desc =>
        dsimp only
        obtain ⟨hstart, hext, hdescribing⟩ := describing_start hs hkey hdesc hfind
        have hof : ∃ id ∈ ((s.append key).setCollection s.fresh desc.collection).tinfs,
            ((s.append key).setCollection s.fresh desc.collection).keyOf id = some key := by
          obtain ⟨hid, t, ht, hkey', -⟩ := hdescribing
          exact ⟨s.fresh, hid, keyOf_eq_some.mpr ⟨t, ht, hkey'⟩⟩
        have hlt := unlisted_card_lt hs hkey hdesc hfind hext hof
        have hcolumns := columnsDescribe_ends
          (fun key s s' typinf hkey hs h => typeInfoGet_sound hd hkey hs h)
          (fun key s hkey hs hfuel => ih hkey hs hfuel) List.mem_cons_self hstart hdescribing
          (hd key desc hdesc) (by omega)
        apply hcolumns.bind
        · exact answer_reaches hdesc
        · rintro ⟨s1, res⟩ hpair
          obtain ⟨rfl, -⟩ := columnsDescribe_sound
            (fun key s s' typinf hkey hs h => typeInfoGet_sound hd hkey hs h)
            List.mem_cons_self hstart hdescribing (hd key desc hdesc) hpair
          exact ends_ok _ _

lemma column_of_answer {cols : List CachedColumn} {answers : List ColumnAnswer}
    {answer : ColumnAnswer} (h : List.Forall₂ (ColumnDescribed d s) cols answers)
    (hmem : answer ∈ answers) : ∃ col, ColumnDescribed d s col answer := by
  induction h with
  | nil => cases hmem
  | cons hcol _ ih =>
    rcases List.mem_cons.mp hmem with rfl | hmem
    · exact ⟨_, hcol⟩
    · exact ih hmem

lemma reached_listed (hs : Sound d [] s) {key' : TypeKey} (hid : id ∈ s.tinfs)
    (hof : s.keyOf id = some key) (h : Relation.ReflTransGen (TypeEdge d) key key') :
    d.lookup key' = none ∨ ∃ id' ∈ s.tinfs, s.keyOf id' = some key' := by
  induction h with
  | refl => exact .inr ⟨id, hid, hof⟩
  | tail hpath hedge ih =>
    obtain ⟨desc, hdesc, ocode, typeName, hcol, hkey⟩ := hedge
    rcases ih with hnone | ⟨id', hid', hof'⟩
    · rw [hnone] at hdesc
      cases hdesc
    · obtain ⟨t, desc', ht, hdesc', -, hcols⟩ := hs.described id' hid' List.not_mem_nil
      obtain ⟨t', ht', rfl⟩ := keyOf_eq_some.mp hof'
      obtain rfl := Option.some.inj (ht.symm.trans ht')
      obtain rfl := Option.some.inj (hdesc.symm.trans hdesc')
      obtain ⟨col, hcol⟩ := column_of_answer hcols hcol
      cases hcol with
      | known hkey' hlisted hof'' =>
        obtain rfl := Except.ok.inj (hkey.symm.trans hkey')
        exact .inr ⟨_, hlisted, hof''⟩
      | unknown hkey' hnone =>
        obtain rfl := Except.ok.inj (hkey.symm.trans hkey')
        exact .inl hnone

lemma allResolved_of_listed (hs : Sound d [] s) (hid : id ∈ s.tinfs)
    (hof : s.keyOf id = some key) : AllResolved d key := by
  intro key' hpath desc hdesc answer hanswer
  rcases reached_listed hs hid hof hpath with hnone | ⟨id', hid', hof'⟩
  · rw [hnone] at hdesc
    cases hdesc
  · obtain ⟨t, desc', ht, hdesc', -, hcols⟩ := hs.described id' hid' List.not_mem_nil
    obtain ⟨t', ht', rfl⟩ := keyOf_eq_some.mp hof'
    obtain rfl := Option.some.inj (ht.symm.trans ht')
    obtain rfl := Option.some.inj (hdesc.symm.trans hdesc')
    obtain ⟨col, hcol⟩ := column_of_answer hcols hanswer
    cases hcol with
    | plain => trivial
    | known hkey hlisted hof'' =>
      obtain ⟨key'', hkey'', -, hknown⟩ := hs.upper _ hlisted
      obtain rfl := Option.some.inj (hof''.symm.trans hkey'')
      exact ⟨_, hkey, fun _ => hknown⟩
    | unknown hkey hnone => exact ⟨_, hkey, nofun⟩

lemma allResolved_of_unknown (h : d.lookup key = none) : AllResolved d key := by
  intro key' hpath
  have hsame : key' = key := by
    induction hpath with
    | refl => rfl
    | tail _ hedge ih =>
      obtain ⟨desc, hdesc, -⟩ := hedge
      rw [ih, h] at hdesc
      cases hdesc
  subst hsame
  intro desc hdesc
  rw [h] at hdesc
  cases hdesc

lemma sound_clearCache (s : TypeCache) : Sound d [] (clearCache s) :=
  ⟨List.forall_mem_nil _, List.nodup_nil, List.forall_mem_nil _, List.forall_mem_nil _,
    List.forall_mem_nil _⟩

lemma cacheStep_sound (hd : d.Complete) (hs : Sound d [] s) {op : CacheOp}
    (h : cacheStep d s op = .ok s') : Sound d [] s' := by
  cases op with
  | clear =>
    cases h
    exact sound_clearCache s
  | get kind name =>
    rw [cacheStep] at h
    simp only [bind, Except.bind] at h
    split at h
    · cases h
    · rename_i key hkey
      split at h
      · cases h
      · rename_i pair hpair
        cases h
        exact (typeInfoGet_sound hd (typeKey_upper hkey) hs hpair).sound

lemma cacheRun_sound (hd : d.Complete) {ops : List CacheOp} (hs : Sound d [] s)
    (h : cacheRun d ops s = .ok s') : Sound d [] s' := by
  induction ops generalizing s with
  | nil =>
    cases h
    exact hs
  | cons op ops ih =>
    rw [cacheRun, List.foldlM_cons] at h
    simp only [bind, Except.bind] at h
    split at h
    · cases h
    · rename_i s1 hs1
      exact ih (cacheStep_sound hd hs hs1) h

lemma sound_empty : Sound d [] TypeCache.empty :=
  ⟨List.forall_mem_nil _, List.nodup_nil, List.forall_mem_nil _, List.forall_mem_nil _,
    List.forall_mem_nil _⟩

lemma unlisted_card_le (d : Dictionary) (s : TypeCache) : (unlisted d s).card ≤ d.length := by
  apply (Finset.card_filter_le _ _).trans
  apply (List.toFinset_card_le _).trans
  rw [List.length_map]

section Example

def familyKey (name : Text) : TypeKey := ⟨.type, [], name⟩

-- persons with a home, where persons live
def familyTypes : Dictionary :=
  [(familyKey "PERSON".toList, ⟨false, [.plain, .named .nty "HOME".toList]⟩),
    (familyKey "HOME".toList, ⟨false, [.plain, .named .nty "PERSONS".toList]⟩),
    (familyKey "PERSONS".toList, ⟨true, [.named .ref "PERSON".toList]⟩)]

def familyOps : List CacheOp :=
  [.get .type "person".toList, .get .type "pet".toList, .clear, .get .type "Home".toList]

lemma complete_of_forall (h : ∀ entry ∈ d, .missing ∉ entry.2.columns) : d.Complete := by
  intro key desc hdesc
  obtain ⟨l, l', rfl, -⟩ := List.lookup_eq_some_iff.mp hdesc
  exact h (key, desc) (by simp)

lemma familyTypes_complete : familyTypes.Complete := by
  apply complete_of_forall
  simp [familyTypes]

lemma familyOps_run : ∃ s, cacheRun familyTypes familyOps .empty = .ok s := ⟨_, rfl⟩

lemma personKey : typeKey .type "person".toList = .ok (familyKey "PERSON".toList) := rfl

end Example

-- after calls in any order, a type is found or described without a fault if and only if every
-- object and every collection among the columns that are reached from it has a type that can be
-- described
theorem typeInfoGet_ok_iff (hd : d.Complete) {ops : List CacheOp}
    (hrun : cacheRun d ops .empty = .ok s) {kind : TypeInfoKind} {name : Text}
    (hkey : typeKey kind name = .ok key) :
    ((∃ r, typeInfoGet d (d.length + 1) key s = .ok r) ↔ AllResolved d key) ∧
      ∀ e, typeInfoGet d (d.length + 1) key s = .error e → e = .overflow ∨ e = .nullPointer := by
  have hs := cacheRun_sound hd sound_empty hrun
  have hupper := typeKey_upper hkey
  have hfuel : (unlisted d s).card < d.length + 1 := Nat.lt_succ_of_le (unlisted_card_le d s)
  have hends := typeInfoGet_ends hd hupper hs hfuel
  refine ⟨⟨?_, hends.2⟩, hends.1⟩
  rintro ⟨⟨s', typinf⟩, hget⟩
  have hgets := typeInfoGet_sound hd hupper hs hget
  cases typinf with
  | none => exact allResolved_of_unknown (hgets.unknown rfl)
  | some id =>
    obtain ⟨hid, hof⟩ := hgets.listed id rfl
    exact allResolved_of_listed hgets.sound hid hof

theorem typeInfoGet_ok_iff_family : ∃ s, cacheRun familyTypes familyOps .empty = .ok s ∧
    ((∃ r, typeInfoGet familyTypes (familyTypes.length + 1) (familyKey "PERSON".toList) s = .ok r) ↔
      AllResolved familyTypes (familyKey "PERSON".toList)) ∧
    ∀ e, typeInfoGet familyTypes (familyTypes.length + 1) (familyKey "PERSON".toList) s = .error e →
      e = .overflow ∨ e = .nullPointer := by
  obtain ⟨s, hrun⟩ := familyOps_run
  exact ⟨s, hrun, typeInfoGet_ok_iff familyTypes_complete hrun personKey⟩

-- a home whose type is in another schema
example : typeInfoGet (familyTypes.take 1) 2 (familyKey "PERSON".toList) .empty =
    .error .nullPointer := rfl

-- and the list has one entry for each of its types, with the columns that the server has
theorem cacheRun_describes (hd : d.Complete) {ops : List CacheOp}
    (hrun : cacheRun d ops .empty = .ok s) :
    (∀ id ∈ s.tinfs, ∀ id' ∈ s.tinfs, s.keyOf id = s.keyOf id' → id = id') ∧
      ∀ id ∈ s.tinfs, TypeDescribed d s id := by
  have hs := cacheRun_sound hd sound_empty hrun
  exact ⟨hs.keys, fun id hid => hs.described id hid List.not_mem_nil⟩

theorem cacheRun_describes_family : ∃ s, cacheRun familyTypes familyOps .empty = .ok s ∧
    (∀ id ∈ s.tinfs, ∀ id' ∈ s.tinfs, s.keyOf id = s.keyOf id' → id = id') ∧
    ∀ id ∈ s.tinfs, TypeDescribed familyTypes s id := by
  obtain ⟨s, hrun⟩ := familyOps_run
  exact ⟨s, hrun, cacheRun_describes familyTypes_complete hrun⟩

end Ends

end OracleDriver
