import OracleDriver.Library.IndexedFold
import OracleDriver.ObjectScalars

/-! Objects and collections that are read. The indicators of an object are in one table with those
of the objects it embeds, and an embedded object is read with the table of its root. The theorems are
about types that are `Proper`: their attributes are found by their names. -/

namespace OracleDriver

open IndexedFold

inductive Ind where
  | notNull
  | null
  | badNull
deriving DecidableEq, Repr

-- an element has the indicator of its value, or the table of indicators of an object
inductive Stored where
  | unset
  | scalar (s : Scalar)
  | object (attrs : List Stored)
  | coll (elems : List ((ℕ → Ind) × Stored))

-- an object that is no attribute of another one
structure OciObject where
  typinf : TypeInfo
  tab : ℕ → Ind
  attrs : List Stored

structure OciColl where
  typinf : TypeInfo
  elems : List ((ℕ → Ind) × Stored)

-- OCI_ExceptionAttributeNotFound2()
def attributeNotFound (attr : Text) : Fault :=
  .raised ⟨"ORACLE-OCI-ERROR", "ocilib error 14: Object attribute '" ++ String.ofList attr ++
    "' not found"⟩

def outOfBounds : Fault := .raised ⟨"ORACLE-OCI-ERROR", "ocilib error 11: Index 1 out of bounds"⟩

-- get_typinf_schema()
def schemaText (schema : Text) : String :=
  if schema.isEmpty then "<current schema>" else String.ofList schema

def objectSite (schema name cname : Text) : LobSite :=
  .object (schemaText schema) (String.ofList name) (String.ofList cname)

def collectionSite (schema name : Text) : LobSite := .collection (schemaText schema) (String.ofList name)

def noAttributes (schema name : Text) : Fault :=
  .raised ⟨"FETCH-NTY-ERROR", "unable to retrieve attribute info for object: " ++ schemaText schema ++
    "." ++ String.ofList name⟩

def OciColumn.caseType : OciColumn → ColumnType
  | .plain _ ocode _ _ => ocode.caseType
  | .named _ typinf => if typinf.collection then .collection else .object

-- a value of a column is read with the offset of its object in the table, and with the table
abbrev Reader := LobSite → ℕ → (ℕ → Ind) → Stored → Except Fault QoreValue

section Read

-- the indicator that is looked at, for the offset of the object and that of the attribute in it
variable (slot : ℕ → ℕ → ℕ)

-- a case of objToQore(), which looks for the attribute among those of the type it expects
def readCase (schema name : Text) (cols : List OciColumn) (readers : List Reader) (idx : ℕ)
    (tab : ℕ → Ind) (attrs : List Stored) (col : OciColumn) : Except Fault QoreValue :=
  match objectGetAttrIndex cols col.name (some col.caseType) with
  | none => .error (attributeNotFound col.name)
  | some j =>
    match readers[j]?, attrs[j]? with
    | some read, some attr =>
      read (objectSite schema name col.name) (idx + indicatorsBefore cols j) tab attr
    | _, _ => .error .foreign

-- a turn of the loop of objToQore()
def readAttribute (schema name : Text) (cols : List OciColumn) (readers : List Reader) (idx : ℕ)
    (tab : ℕ → Ind) (attrs : List Stored) (col : OciColumn) : Except Fault (Text × QoreValue) :=
  match objectGetAttrIndex cols col.name none with
  | none => .error (attributeNotFound col.name)
  | some i =>
    if tab (slot idx (indicatorsBefore cols i)) ≠ .notNull then .ok (col.name, .null)
    else (readCase schema name cols readers idx tab attrs col).map (col.name, ·)

def readObjectValue (schema name : Text) (cols : List OciColumn) (readers : List Reader) (idx : ℕ)
    (tab : ℕ → Ind) : Stored → Except Fault QoreValue
  | .object attrs =>
    if cols.isEmpty then .error (noAttributes schema name)
    else (cols.mapM (readAttribute slot schema name cols readers idx tab attrs)).map .hash
  | _ => .error .foreign

-- a turn of the loop of collToQore()
def readElement (schema name : Text) (read : Reader) (elem : (ℕ → Ind) × Stored) :
    Except Fault QoreValue :=
  if elem.1 0 = .null then .ok .null else read (collectionSite schema name) 0 elem.1 elem.2

def readCollectionValue (schema name : Text) (readers : List Reader) : Stored → Except Fault QoreValue
  | .coll elems =>
    match readers with
    | [] => .error outOfBounds
    | read :: _ => (elems.mapM (readElement schema name read)).map .list
  | _ => .error .foreign

def readPlain (c : ScalarClient) (ocode : Sqlt) (prec scale : ℤ) : Reader
  | site, _, _, .scalar s => fetchScalar c site ocode prec scale s
  | _, _, _, _ => .error .foreign

variable (c : ScalarClient)

mutual

def TypeInfo.read : TypeInfo → ℕ → (ℕ → Ind) → Stored → Except Fault QoreValue
  | .mk schema name collection cols => fun idx tab stored =>
    if collection then readCollectionValue schema name (readers cols) stored
    else readObjectValue slot schema name cols (readers cols) idx tab stored

def readers : List OciColumn → List Reader
  | [] => []
  | col :: cols => col.read :: readers cols

def OciColumn.read : OciColumn → Reader
  | .plain _ ocode prec scale => readPlain c ocode prec scale
  | .named _ typinf => fun _ => typinf.read

end

end Read

-- OCI_ObjectGetAttr() and OCI_ObjectIsNull2() add the offset of the attribute, as ub2, to the table of
-- the root; the offset of the object they are given is not used
def tabInd (_idxInd ind : ℕ) : ℕ := ind % 2 ^ 16

def ownInd (idxInd ind : ℕ) : ℕ := idxInd + ind

def objToQore (c : ScalarClient) (o : OciObject) : Except Fault QoreValue :=
  o.typinf.read tabInd c 0 o.tab (.object o.attrs)

def collToQore (c : ScalarClient) (coll : OciColl) : Except Fault QoreValue :=
  coll.typinf.read tabInd c 0 (fun _ => .notNull) (.coll coll.elems)

/-- What an object holds: every attribute is NULL where its own indicator says so. -/
def OciObject.Holds (c : ScalarClient) (o : OciObject) (v : QoreValue) : Prop :=
  o.typinf.read ownInd c 0 o.tab (.object o.attrs) = .ok v

def OciColl.Holds (c : ScalarClient) (coll : OciColl) (v : QoreValue) : Prop :=
  coll.typinf.read ownInd c 0 (fun _ => .notNull) (.coll coll.elems) = .ok v

-- no two attributes of an object have the same name
def NamesDiffer (cols : List OciColumn) : Prop :=
  cols.Pairwise fun a b => sameName a.name b.name = false

mutual

-- attributes that differ by their names, and no more indicators than ub2 can count
def TypeInfo.Proper : TypeInfo → Prop
  | .mk _ _ collection cols => NamesDiffer cols ∧
    (collection = true ∨ indicatorsBefore cols cols.length ≤ 2 ^ 16) ∧ ProperAll cols

def ProperAll : List OciColumn → Prop
  | [] => True
  | col :: cols => col.Proper ∧ ProperAll cols

def OciColumn.Proper : OciColumn → Prop
  | .plain .. => True
  | .named _ typinf => typinf.Proper

end

-- the attributes that are reached have the same answer from the indicator that is looked at as from
-- their own
def ObjectLegible (cols : List OciColumn) (legible : List (ℕ → (ℕ → Ind) → Stored → Prop)) (idx : ℕ)
    (tab : ℕ → Ind) : Stored → Prop
  | .object attrs => ∀ (i : ℕ) p, legible[i]? = some p →
      (tab (tabInd idx (indicatorsBefore cols i)) = .notNull ↔
        tab (ownInd idx (indicatorsBefore cols i)) = .notNull) ∧
      (tab (ownInd idx (indicatorsBefore cols i)) = .notNull → ∀ attr, attrs[i]? = some attr →
        p (idx + indicatorsBefore cols i) tab attr)
  | _ => True

def CollectionLegible (legible : List (ℕ → (ℕ → Ind) → Stored → Prop)) : Stored → Prop
  | .coll elems => ∀ p ∈ legible.head?, ∀ e ∈ elems, e.1 0 ≠ .null → p 0 e.1 e.2
  | _ => True

mutual

def TypeInfo.Legible : TypeInfo → ℕ → (ℕ → Ind) → Stored → Prop
  | .mk _ _ collection cols => fun idx tab stored =>
    if collection then CollectionLegible (legibles cols) stored
    else ObjectLegible cols (legibles cols) idx tab stored

def legibles : List OciColumn → List (ℕ → (ℕ → Ind) → Stored → Prop)
  | [] => []
  | col :: cols => col.Legible :: legibles cols

def OciColumn.Legible : OciColumn → ℕ → (ℕ → Ind) → Stored → Prop
  | .plain .. => fun _ _ _ => True
  | .named _ typinf => typinf.Legible

end

def OciObject.Legible (o : OciObject) : Prop := o.typinf.Legible 0 o.tab (.object o.attrs)

section Names

variable {cols : List OciColumn} {col : OciColumn} {i : ℕ}

lemma sameName_self (a : Text) : sameName a a = true := beq_self_eq_true _

lemma NamesDiffer.not_same (h : NamesDiffer cols) {j : ℕ} {other : OciColumn}
    (hj : cols[j]? = some other)
    (hi : cols[i]? = some col) (hji : j < i) : sameName other.name col.name = false := by
  obtain ⟨hi', rfl⟩ := List.getElem?_eq_some_iff.mp hi
  obtain ⟨hj', rfl⟩ := List.getElem?_eq_some_iff.mp hj
  exact List.pairwise_iff_getElem.mp h j i hj' hi' hji

-- an attribute is found by its name
lemma NamesDiffer.attrIndex (h : NamesDiffer cols) (hi : cols[i]? = some col) {type : Option ColumnType}
    (ht : type = none ∨ type = some col.type) : objectGetAttrIndex cols col.name type = some i := by
  obtain ⟨hlt, hget⟩ := List.getElem?_eq_some_iff.mp hi
  rw [objectGetAttrIndex, List.findIdx?_eq_some_iff_getElem]
  refine ⟨hlt, ?_, ?_⟩
  · rw [hget, sameName_self, Bool.and_true]
    rcases ht with rfl | rfl
    · rfl
    · simp
  · intro j hj
    rw [h.not_same (List.getElem?_eq_getElem (hj.trans hlt)) hi hj, Bool.and_false]
    simp

lemma NamesDiffer.caseIndex (h : NamesDiffer cols) (hi : cols[i]? = some col) {type : ColumnType} {j : ℕ}
    (hj : objectGetAttrIndex cols col.name (some type) = some j) : j = i := by
  rw [objectGetAttrIndex, List.findIdx?_eq_some_iff_getElem] at hj
  obtain ⟨hlt, hp, -⟩ := hj
  have hsame : sameName cols[j].name col.name = true := (Bool.and_eq_true_iff.mp hp).2
  rcases Nat.lt_trichotomy j i with hji | hji | hji
  · rw [h.not_same (List.getElem?_eq_getElem hlt) hi hji] at hsame
    cases hsame
  · exact hji
  · have hrev := h.not_same hi (List.getElem?_eq_getElem hlt) hji
    rw [sameName, beq_eq_false_iff_ne] at hrev
    exact absurd (beq_iff_eq.mp hsame).symm hrev

end Names

section Legible

variable {slot : ℕ → ℕ → ℕ} {c : ScalarClient}

lemma readers_getElem? (cols : List OciColumn) (i : ℕ) :
    (readers slot c cols)[i]? = cols[i]?.map (OciColumn.read slot c) := by
  induction cols generalizing i with
  | nil => rfl
  | cons col cols ih =>
    cases i with
    | zero => rfl
    | succ i => rw [readers, List.getElem?_cons_succ, List.getElem?_cons_succ, ih]

lemma legibles_getElem? (cols : List OciColumn) (i : ℕ) :
    (legibles cols)[i]? = cols[i]?.map OciColumn.Legible := by
  induction cols generalizing i with
  | nil => rfl
  | cons col cols ih =>
    cases i with
    | zero => rfl
    | succ i => rw [legibles, List.getElem?_cons_succ, List.getElem?_cons_succ, ih]

lemma map_ne_null {α : Type} {f : α → QoreValue} (hf : ∀ a, f a ≠ .null) (x : Except Fault α) :
    x.map f ≠ .ok .null := by
  cases x with
  | error e => nofun
  | ok a =>
    intro h
    exact hf a (Except.ok.inj h)

lemma TypeInfo.read_ne_null (typinf : TypeInfo) (idx : ℕ) (tab : ℕ → Ind) (stored : Stored) :
    typinf.read slot c idx tab stored ≠ .ok .null := by
  obtain ⟨schema, name, collection, cols⟩ := typinf
  rw [TypeInfo.read]
  dsimp only
  split
  · cases stored with
    | coll elems =>
      unfold readCollectionValue
      dsimp only
      split
      · nofun
      · exact map_ne_null nofun _
    | _ => nofun
  · cases stored with
    | object attrs =>
      rw [readObjectValue]
      split
      · nofun
      · exact map_ne_null nofun _
    | _ => nofun

-- what is stored is never read as NULL
lemma OciColumn.read_ne_null (col : OciColumn) (site : LobSite) (idx : ℕ) (tab : ℕ → Ind)
    (stored : Stored) :
    col.read slot c site idx tab stored ≠ .ok .null := by
  cases col with
  | plain name ocode prec scale =>
    rw [OciColumn.read]
    cases stored with
    | scalar s => exact fetchScalar_ne_null c site ocode prec scale s
    | _ => nofun
  | named name typinf =>
    rw [OciColumn.read]
    exact typinf.read_ne_null idx tab stored

variable {schema name : Text} {cols : List OciColumn} {idx : ℕ} {tab : ℕ → Ind} {attrs : List Stored}
  {col : OciColumn} {i : ℕ}

lemma readAttribute_null (hcols : NamesDiffer cols) (hi : cols[i]? = some col)
    (hn : tab (slot idx (indicatorsBefore cols i)) ≠ .notNull) :
    readAttribute slot schema name cols (readers slot c cols) idx tab attrs col = .ok
      (col.name, .null) := by
  rw [readAttribute, hcols.attrIndex hi (.inl rfl)]
  exact if_pos hn

lemma readAttribute_notNull (hcols : NamesDiffer cols) (hi : cols[i]? = some col)
    (hn : tab (slot idx (indicatorsBefore cols i)) = .notNull) :
    readAttribute slot schema name cols (readers slot c cols) idx tab attrs col =
      (readCase schema name cols (readers slot c cols) idx tab attrs col).map (col.name, ·) := by
  rw [readAttribute, hcols.attrIndex hi (.inl rfl)]
  exact if_neg (not_not.mpr hn)

-- a case reads the attribute or fails, whichever indicators are looked at
lemma readCase_cases (c : ScalarClient) (schema name : Text) (idx : ℕ) (tab : ℕ → Ind)
    (attrs : List Stored) (hcols : NamesDiffer cols) (hi : cols[i]? = some col) :
    (∃ e, ∀ slot, readCase schema name cols (readers slot c cols) idx tab attrs col = .error e) ∨
    ∃ attr, attrs[i]? = some attr ∧
      ∀ slot, readCase schema name cols (readers slot c cols) idx tab attrs col =
        col.read slot c (objectSite schema name col.name) (idx + indicatorsBefore cols i) tab attr := by
  unfold readCase
  cases hj : objectGetAttrIndex cols col.name (some col.caseType) with
  | none => exact .inl ⟨_, fun _ => rfl⟩
  | some j =>
    obtain rfl := hcols.caseIndex hi hj
    cases hattr : attrs[j]? with
    | none =>
      refine .inl ⟨.foreign, fun slot => ?_⟩
      dsimp only
      rw [readers_getElem?, hi, Option.map_some, hattr]
    | some attr =>
      refine .inr ⟨attr, rfl, fun slot => ?_⟩
      dsimp only
      rw [readers_getElem?, hi, Option.map_some, hattr]

lemma readCase_ne_null (hcols : NamesDiffer cols) (hi : cols[i]? = some col) :
    readCase schema name cols (readers slot c cols) idx tab attrs col ≠ .ok .null := by
  rcases readCase_cases c schema name idx tab attrs hcols hi with ⟨e, he⟩ | ⟨attr, -, hread⟩
  · rw [he slot]
    nofun
  · rw [hread slot]
    exact col.read_ne_null _ _ _ _

lemma map_mk_eq_ok {x : Except Fault QoreValue} {key : Text} {v : QoreValue} :
    x.map (key, ·) = .ok (key, v) ↔ x = .ok v := by
  rw [map_eq_ok]
  constructor
  · rintro ⟨a, ha, h⟩
    rw [ha, (Prod.mk.inj h).2]
  · intro h
    exact ⟨v, h, rfl⟩

-- a value of a column that has one is read right if and only if what it reaches is legible
def OciColumn.Exact (c : ScalarClient) (col : OciColumn) : Prop :=
  ∀ site idx tab stored w, col.read ownInd c site idx tab stored = .ok w →
    (col.read tabInd c site idx tab stored = .ok w ↔ col.Legible idx tab stored)

lemma readAttribute_eq_iff {kv : Text × QoreValue} (hcols : NamesDiffer cols) (hi : cols[i]? = some col)
    (hexact : col.Exact c)
    (hown : readAttribute ownInd schema name cols (readers ownInd c cols) idx tab attrs col = .ok kv) :
    readAttribute tabInd schema name cols (readers tabInd c cols) idx tab attrs col = .ok kv ↔
      (tab (tabInd idx (indicatorsBefore cols i)) = .notNull ↔
        tab (ownInd idx (indicatorsBefore cols i)) = .notNull) ∧
      (tab (ownInd idx (indicatorsBefore cols i)) = .notNull → ∀ attr, attrs[i]? = some attr →
        col.Legible (idx + indicatorsBefore cols i) tab attr) := by
  by_cases ho : tab (ownInd idx (indicatorsBefore cols i)) = .notNull
  · rw [readAttribute_notNull hcols hi ho] at hown
    obtain ⟨w, hw, rfl⟩ := map_eq_ok.mp hown
    by_cases ht : tab (tabInd idx (indicatorsBefore cols i)) = .notNull
    · rw [readAttribute_notNull hcols hi ht, map_mk_eq_ok]
      rcases readCase_cases c schema name idx tab attrs hcols hi with ⟨e, he⟩ | ⟨attr, hattr, hread⟩
      · rw [he ownInd] at hw
        cases hw
      · rw [hread ownInd] at hw
        rw [hread tabInd, hexact _ _ _ _ _ hw]
        constructor
        · intro h
          refine ⟨iff_of_true ht ho, fun _ a ha => ?_⟩
          rw [hattr, Option.some_inj] at ha
          rwa [← ha]
        · rintro ⟨-, h⟩
          exact h ho attr hattr
    · rw [readAttribute_null hcols hi ht]
      constructor
      · intro h
        rw [← (Prod.mk.inj (Except.ok.inj h)).2] at hw
        exact absurd hw (readCase_ne_null hcols hi)
      · rintro ⟨h, -⟩
        exact absurd (h.mpr ho) ht
  · rw [readAttribute_null hcols hi ho, Except.ok.injEq] at hown
    rw [← hown]
    by_cases ht : tab (tabInd idx (indicatorsBefore cols i)) = .notNull
    · rw [readAttribute_notNull hcols hi ht, map_mk_eq_ok]
      constructor
      · intro h
        exact absurd h (readCase_ne_null hcols hi)
      · rintro ⟨h, -⟩
        exact absurd (h.mp ht) ho
    · rw [readAttribute_null hcols hi ht]
      constructor
      · intro _
        exact ⟨iff_of_false ht ho, fun h => absurd h ho⟩
      · intro _
        rfl

lemma map_eq_map_iff {α : Type} {f : α → QoreValue} (hf : Function.Injective f) {x : Except Fault α}
    {a : α} : x.map f = .ok (f a) ↔ x = .ok a := by
  rw [map_eq_ok]
  constructor
  · rintro ⟨b, hb, h⟩
    rw [hb, hf h]
  · intro h
    exact ⟨a, h, rfl⟩

lemma readObjectValue_eq_iff {stored : Stored} {w : QoreValue} (hcols : NamesDiffer cols)
    (hexact : ∀ col ∈ cols, OciColumn.Exact c col)
    (hown : readObjectValue ownInd schema name cols (readers ownInd c cols) idx tab stored = .ok w) :
    readObjectValue tabInd schema name cols (readers tabInd c cols) idx tab stored = .ok w ↔
      ObjectLegible cols (legibles cols) idx tab stored := by
  cases stored with
  | object attrs =>
    unfold readObjectValue at hown ⊢
    dsimp only at hown ⊢
    split at hown
    · cases hown
    · rename_i hne
      obtain ⟨kvs, hkvs, rfl⟩ := map_eq_ok.mp hown
      rw [if_neg hne, map_eq_map_iff fun _ _ => QoreValue.hash.inj, mapM_eq_iff hkvs, ObjectLegible]
      constructor
      · intro h i p hp
        rw [legibles_getElem?] at hp
        obtain ⟨col, hi, rfl⟩ := Option.map_eq_some_iff.mp hp
        have hmem := List.mem_of_getElem? hi
        obtain ⟨kv, hkv⟩ := mapM_mem hkvs hmem
        have heq := h col hmem
        rw [hkv] at heq
        exact (readAttribute_eq_iff hcols hi (hexact col hmem) hkv).mp heq
      · intro h col hmem
        obtain ⟨i, hi⟩ := List.mem_iff_getElem?.mp hmem
        obtain ⟨kv, hkv⟩ := mapM_mem hkvs hmem
        rw [hkv, readAttribute_eq_iff hcols hi (hexact col hmem) hkv]
        apply h i
        rw [legibles_getElem?, hi, Option.map_some]
  | _ => cases hown

lemma readElement_eq_iff {elem : (ℕ → Ind) × Stored} {w : QoreValue} (hexact : col.Exact c)
    (hown : readElement schema name (col.read ownInd c) elem = .ok w) :
    readElement schema name (col.read tabInd c) elem = .ok w ↔
      (elem.1 0 ≠ .null → col.Legible 0 elem.1 elem.2) := by
  unfold readElement at hown ⊢
  split at hown
  · rename_i hn
    rw [if_pos hn]
    exact iff_of_true hown fun h => absurd hn h
  · rename_i hn
    rw [if_neg hn, hexact _ _ _ _ _ hown]
    exact ⟨fun h _ => h, fun h => h hn⟩

lemma readCollectionValue_eq_iff {stored : Stored} {w : QoreValue}
    (hexact : ∀ col ∈ cols, OciColumn.Exact c col)
    (hown : readCollectionValue schema name (readers ownInd c cols) stored = .ok w) :
    readCollectionValue schema name (readers tabInd c cols) stored = .ok w ↔
      CollectionLegible (legibles cols) stored := by
  cases stored with
  | coll elems =>
    cases cols with
    | nil => cases hown
    | cons col cols =>
      have hcol := hexact col List.mem_cons_self
      unfold readCollectionValue readers at hown ⊢
      dsimp only at hown ⊢
      obtain ⟨vs, hvs, rfl⟩ := map_eq_ok.mp hown
      rw [map_eq_map_iff fun _ _ => QoreValue.list.inj, mapM_eq_iff hvs, CollectionLegible, legibles,
        List.head?_cons]
      constructor
      · rintro h p ⟨⟩ e he
        obtain ⟨v, hv⟩ := mapM_mem hvs he
        have heq := h e he
        rw [hv] at heq
        exact (readElement_eq_iff hcol hv).mp heq
      · intro h e he
        obtain ⟨v, hv⟩ := mapM_mem hvs he
        rw [hv, readElement_eq_iff hcol hv]
        exact h _ rfl e he
  | _ => cases hown

mutual

lemma TypeInfo.read_eq_iff : ∀ typinf : TypeInfo, typinf.Proper → ∀ idx tab stored w,
    typinf.read ownInd c idx tab stored = .ok w →
      (typinf.read tabInd c idx tab stored = .ok w ↔ typinf.Legible idx tab stored)
  | .mk schema name collection cols => by
    intro hproper idx tab stored w hown
    rw [TypeInfo.Proper] at hproper
    have hexact := exact_of_proper cols hproper.2.2
    rw [TypeInfo.read] at hown ⊢
    rw [TypeInfo.Legible]
    dsimp only at hown ⊢
    split at hown
    · rename_i hcoll
      rw [if_pos hcoll, if_pos hcoll]
      exact readCollectionValue_eq_iff hexact hown
    · rename_i hcoll
      rw [if_neg hcoll, if_neg hcoll]
      exact readObjectValue_eq_iff hproper.1 hexact hown

lemma exact_of_proper : ∀ cols : List OciColumn, ProperAll cols → ∀ col ∈ cols, OciColumn.Exact c col
  | [] => fun _ => List.forall_mem_nil _
  | col :: cols => by
    intro hproper
    rw [ProperAll] at hproper
    rw [List.forall_mem_cons]
    exact ⟨OciColumn.exact_of_proper col hproper.1, exact_of_proper cols hproper.2⟩

lemma OciColumn.exact_of_proper : ∀ col : OciColumn, col.Proper → OciColumn.Exact c col
  | .plain name ocode prec scale => by
    intro _ site idx tab stored w hown
    rw [OciColumn.Legible]
    rw [OciColumn.read] at hown ⊢
    exact iff_of_true hown trivial
  | .named name typinf => by
    intro hproper site idx tab stored w hown
    rw [OciColumn.Proper] at hproper
    rw [OciColumn.Legible]
    rw [OciColumn.read] at hown ⊢
    exact TypeInfo.read_eq_iff typinf hproper idx tab stored w hown

end

-- what an object of a proper type holds is what is read from it if and only if the indicators that
-- are looked at for the attributes of embedded objects say the same as their own
theorem objToQore_eq_iff {o : OciObject} {v : QoreValue} (hproper : o.typinf.Proper) (hv : o.Holds c v) :
    objToQore c o = .ok v ↔ o.Legible :=
  o.typinf.read_eq_iff hproper 0 o.tab (.object o.attrs) v hv

lemma personType_proper : personType.Proper := by
  simp [personType, addressType, TypeInfo.Proper, ProperAll, OciColumn.Proper, NamesDiffer, sameName,
    OciColumn.name, indicatorsBefore, OciColumn.indicators, TypeInfo.indicators, TypeInfo.collection]

-- the town is NULL, and the indicator of the whole address is looked at for it
def personObject : OciObject where
  typinf := personType
  tab k := if k = 4 then .null else .notNull
  attrs := [.scalar (.text "Ann".toList),
    .object [.scalar (.text "Main".toList), .scalar (.text [])]]

theorem objToQore_eq_iff_person :
    objToQore textClient personObject = .ok (.hash [("NAME".toList, .string ⟨"Ann".toList, 0⟩),
      ("HOME".toList, .hash
        [("STREET".toList, .string ⟨"Main".toList, 0⟩), ("TOWN".toList, .null)])]) ↔
      personObject.Legible :=
  objToQore_eq_iff personType_proper rfl

end Legible

section Congr

variable {c : ScalarClient} {cols : List OciColumn} {idx idx' : ℕ} {tab tab' : ℕ → Ind}

-- two tables have the same indicators behind two offsets, that of the object itself apart
def SameInds (n idx idx' : ℕ) (tab tab' : ℕ → Ind) : Prop :=
  ∀ k, 0 < k → k < n → tab (idx + k) = tab' (idx' + k)

lemma SameInds.sub {j : ℕ} {col : OciColumn} (hj : cols[j]? = some col)
    (h : SameInds (indicatorsBefore cols cols.length) idx idx' tab tab') :
    SameInds col.indicators (idx + indicatorsBefore cols j)
      (idx' + indicatorsBefore cols j) tab tab' := by
  intro k hk hlt
  have hpos := indicatorsBefore_pos cols j
  have hle := indicatorsBefore_add_le hj (List.getElem?_eq_some_iff.mp hj).choose
  rw [Nat.add_assoc, Nat.add_assoc]
  exact h _ (by omega) (by omega)

lemma SameInds.at {j : ℕ} {col : OciColumn} (hj : cols[j]? = some col)
    (h : SameInds (indicatorsBefore cols cols.length) idx idx' tab tab') :
    tab (idx + indicatorsBefore cols j) = tab' (idx' + indicatorsBefore cols j) := by
  have hpos := indicatorsBefore_pos cols j
  have hle := indicatorsBefore_add_le hj (List.getElem?_eq_some_iff.mp hj).choose
  have := col.indicators_pos
  exact h _ hpos (by omega)

-- what is read depends on the indicators of the value only
def OciColumn.Local (c : ScalarClient) (col : OciColumn) : Prop :=
  ∀ site idx idx' tab tab' stored, SameInds col.indicators idx idx' tab tab' →
    col.read ownInd c site idx tab stored = col.read ownInd c site idx' tab' stored

lemma readCase_congr {schema name : Text} {attrs : List Stored} {col : OciColumn}
    (hcols : ∀ col ∈ cols, OciColumn.Local c col)
    (h : SameInds (indicatorsBefore cols cols.length) idx idx' tab tab') :
    readCase schema name cols (readers ownInd c cols) idx tab attrs col =
      readCase schema name cols (readers ownInd c cols) idx' tab' attrs col := by
  unfold readCase
  cases objectGetAttrIndex cols col.name (some col.caseType) with
  | none => rfl
  | some j =>
    dsimp only
    rw [readers_getElem?]
    cases hj : cols[j]? with
    | none => rfl
    | some found =>
      rw [Option.map_some]
      cases attrs[j]? with
      | none => rfl
      | some attr => exact hcols found (List.mem_of_getElem? hj) _ _ _ _ _ _ (h.sub hj)

lemma readAttribute_congr {schema name : Text} {attrs : List Stored} {col : OciColumn}
    (hcols : ∀ col ∈ cols, OciColumn.Local c col)
    (h : SameInds (indicatorsBefore cols cols.length) idx idx' tab tab') :
    readAttribute ownInd schema name cols (readers ownInd c cols) idx tab attrs col =
      readAttribute ownInd schema name cols (readers ownInd c cols) idx' tab' attrs col := by
  unfold readAttribute
  rw [readCase_congr hcols h]
  cases hi : objectGetAttrIndex cols col.name none with
  | none => rfl
  | some i =>
    rw [objectGetAttrIndex, List.findIdx?_eq_some_iff_getElem] at hi
    have hown : tab (ownInd idx (indicatorsBefore cols i)) = tab'
        (ownInd idx' (indicatorsBefore cols i)) :=
      h.at (List.getElem?_eq_getElem hi.choose)
    simp only [hown]

mutual

lemma TypeInfo.read_congr : ∀ (typinf : TypeInfo) idx idx' tab tab' stored,
    (typinf.collection = true ∨ SameInds typinf.indicators idx idx' tab tab') →
      typinf.read ownInd c idx tab stored = typinf.read ownInd c idx' tab' stored
  | .mk schema name collection cols => by
    intro idx idx' tab tab' stored h
    have hcols := local_all cols
    rw [TypeInfo.read]
    dsimp only
    split
    · rfl
    · rename_i hobj
      have hsame : SameInds (indicatorsBefore cols cols.length) idx idx' tab tab' :=
        h.resolve_left hobj
      cases stored with
      | object attrs =>
        unfold readObjectValue
        dsimp only
        split
        · rfl
        · congr 2
          funext col
          exact readAttribute_congr hcols hsame
      | _ => rfl

lemma local_all : ∀ cols : List OciColumn, ∀ col ∈ cols, OciColumn.Local c col
  | [] => List.forall_mem_nil _
  | col :: cols => by
    rw [List.forall_mem_cons]
    exact ⟨OciColumn.local_one col, local_all cols⟩

lemma OciColumn.local_one : ∀ col : OciColumn, OciColumn.Local c col
  | .plain name ocode prec scale => by
    intro site idx idx' tab tab' stored _
    rw [OciColumn.read]
    cases stored <;> rfl
  | .named name typinf => by
    intro site idx idx' tab tab' stored h
    rw [OciColumn.read]
    apply TypeInfo.read_congr typinf
    rw [OciColumn.indicators] at h
    split at h
    · exact .inl ‹_›
    · exact .inr h

end

end Congr

section Separate

mutual

-- objects are elements of collections, not attributes of objects
def TypeInfo.Separate : TypeInfo → Prop
  | .mk _ _ collection cols => (collection = true ∨ ∀ col ∈ cols, col.type ≠ .object) ∧ SeparateAll cols

def SeparateAll : List OciColumn → Prop
  | [] => True
  | col :: cols => col.Separate ∧ SeparateAll cols

def OciColumn.Separate : OciColumn → Prop
  | .plain .. => True
  | .named _ typinf => typinf.Separate

end

mutual

lemma TypeInfo.Separate.legible : ∀ typinf : TypeInfo, typinf.Proper → typinf.Separate →
    ∀ idx tab stored, typinf.collection = true ∨ idx = 0 → typinf.Legible idx tab stored
  | .mk schema name collection cols => by
    intro hproper hsep idx tab stored hidx
    rw [TypeInfo.Proper] at hproper
    rw [TypeInfo.Separate] at hsep
    have hcols := SeparateAll.legible cols hproper.2.2 hsep.2
    rw [TypeInfo.Legible]
    dsimp only
    split
    · cases stored with
      | coll elems =>
        intro p hp e _ _
        cases cols with
        | nil => cases hp
        | cons col cols =>
          obtain rfl := Option.mem_some_iff.mp hp
          exact hcols col List.mem_cons_self 0 e.1 e.2 (.inr rfl)
      | _ => trivial
    · rename_i hobj
      cases stored with
      | object attrs =>
        rcases hidx with hcoll | rfl
        · exact absurd hcoll hobj
        · intro i p hp
          rw [legibles_getElem?] at hp
          obtain ⟨col, hi, rfl⟩ := Option.map_eq_some_iff.mp hp
          have hsize : (TypeInfo.mk schema name collection cols).indicators ≤ 2 ^ 16 :=
            hproper.2.1.resolve_left hobj
          have htab : tabInd 0 (indicatorsBefore cols i) = indicatorsBefore cols i :=
            objectGetIndOffset_eq hsize hi
          rw [ownInd, Nat.zero_add, htab]
          refine ⟨Iff.rfl, fun _ attr _ => hcols col (List.mem_of_getElem? hi) _ _ _ (.inl ?_)⟩
          exact hsep.1.resolve_left hobj col (List.mem_of_getElem? hi)
      | _ => trivial

lemma SeparateAll.legible : ∀ cols : List OciColumn, ProperAll cols → SeparateAll cols →
    ∀ col ∈ cols, ∀ idx tab stored, col.type ≠ .object ∨ idx = 0 → col.Legible idx tab stored
  | [] => fun _ _ => List.forall_mem_nil _
  | col :: cols => by
    intro hproper hsep
    rw [ProperAll] at hproper
    rw [SeparateAll] at hsep
    rw [List.forall_mem_cons]
    exact ⟨OciColumn.Separate.legible col hproper.1 hsep.1,
      SeparateAll.legible cols hproper.2 hsep.2⟩

lemma OciColumn.Separate.legible : ∀ col : OciColumn, col.Proper → col.Separate →
    ∀ idx tab stored, col.type ≠ .object ∨ idx = 0 → col.Legible idx tab stored
  | .plain name ocode prec scale => by
    intro _ _ idx tab stored _
    rw [OciColumn.Legible]
    trivial
  | .named name typinf => by
    intro hproper hsep idx tab stored hidx
    rw [OciColumn.Proper] at hproper
    rw [OciColumn.Separate] at hsep
    rw [OciColumn.Legible]
    apply TypeInfo.Separate.legible typinf hproper hsep
    rcases hidx with htype | hidx
    · rw [OciColumn.type] at htype
      split at htype
      · exact .inl ‹_›
      · exact absurd rfl htype
    · exact .inr hidx

end

end Separate

end OracleDriver
