import OracleDriver.ObjectFetch

/-! Objects and collections that are bound: hashes with the name of a type and the values of its
attributes or elements. -/

namespace OracleDriver

open QoreValue

structure ObjectClient extends ScalarClient where
  -- OCI_TypeInfoGet2()
  typeInfoGet : Text → Except Fault TypeInfo
  -- OCIObjectNew(): the indicators and the attributes of a new object
  objectNew : TypeInfo → Except Fault ((ℕ → Ind) × List Stored)
  sameTdo : TypeInfo → TypeInfo → Bool
  -- OCIObjectCopy() and OCICollAssign() to a value of another type
  copyOther : OciObject → TypeInfo → Except Fault ((ℕ → Ind) × List Stored)
  assignOther : OciColl → TypeInfo → Except Fault (List ((ℕ → Ind) × Stored))

/-- The client makes objects of every object type, and they are not NULL as a whole. -/
structure ObjectClient.Lawful (c : ObjectClient) : Prop where
  objectNew : ∀ typinf : TypeInfo, typinf.collection = false → ∃ tab attrs,
    c.objectNew typinf = .ok (tab, attrs) ∧ tab 0 ≠ .null ∧ attrs.length = typinf.cols.length
  sameTdo : ∀ typinf, c.sameTdo typinf typinf = true

def oracleObject : Text := "OracleObject".toList

def oracleCollection : Text := "OracleCollection".toList

def isString : QoreValue → Bool
  | .string _ => true
  | _ => false

def isHash : QoreValue → Bool
  | .hash _ => true
  | _ => false

def ntyHashType (h : List (Text × QoreValue)) : Text :=
  match getKeyValue h "type" with
  | .string s => s.text
  | _ => []

def ntyCheckType (tname : Text) (h : List (Text × QoreValue)) (isValues : QoreValue → Bool) : Bool :=
  isString (getKeyValue h "type") && isString (getKeyValue h "^oratype^") &&
    isValues (getKeyValue h "^values^") && !(ntyHashType h).isEmpty && cStr (ntyHashType h) == tname

def oraType (h : List (Text × QoreValue)) : Text :=
  match getKeyValue h "^oratype^" with
  | .string s => cStr s.text
  | _ => []

def hashValues (h : List (Text × QoreValue)) : List (Text × QoreValue) :=
  match getKeyValue h "^values^" with
  | .hash th => th
  | _ => []

def listValues (h : List (Text × QoreValue)) : List QoreValue := (getKeyValue h "^values^").elems

-- the key is the name of the attribute or that name in lower case
def attributeValue (th : List (Text × QoreValue)) (cname : Text) : QoreValue :=
  match th.lookup cname with
  | some val => val
  | none => (th.lookup (cname.map Char.toLower)).getD .nothing

-- objBindQore() and collBindQore() for the values inside a value
structure Binder where
  object : List (Text × QoreValue) → Except Fault OciObject
  coll : List (Text × QoreValue) → Except Fault OciColl

section Object

variable (c : ObjectClient)

def ociObjectCopy (o : OciObject) (tdo : TypeInfo) : Except Fault ((ℕ → Ind) × List Stored) :=
  if c.sameTdo o.typinf tdo then .ok (o.tab, o.attrs) else c.copyOther o tdo

def ociCollAssign (coll : OciColl) (tdo : TypeInfo) : Except Fault (List ((ℕ → Ind) × Stored)) :=
  if c.sameTdo coll.typinf tdo then .ok coll.elems else c.assignOther coll tdo

-- `n` indicators are copied to the offset
def copyInds (off n : ℕ) (src dst : ℕ → Ind) : ℕ → Ind := fun k =>
  if off ≤ k ∧ k < off + n then src (k - off) else dst k

def objectSetNull (o : OciObject) (attr : Text) : Except Fault OciObject :=
  match objectGetAttrIndex o.typinf.cols attr none with
  | none => .error (attributeNotFound attr)
  | some i => .ok { o with tab := Function.update o.tab (objectGetIndOffset o.typinf i) .null }

-- OCI_ObjectSetString2(), OCI_ObjectSetNumber2() and the functions for dates, LOBs and collections
def objectSet (o : OciObject) (attr : Text) (type : ColumnType) (value : Stored) :
    Except Fault OciObject :=
  match objectGetAttrIndex o.typinf.cols attr (some type) with
  | none => .error (attributeNotFound attr)
  | some i =>
    .ok { o with
          tab := Function.update o.tab (objectGetIndOffset o.typinf i) .notNull
          attrs := o.attrs.set i value }

def objectSetObject (o : OciObject) (attr : Text) (value : OciObject) : Except Fault OciObject :=
  match objectGetAttrIndex o.typinf.cols attr (some .object) with
  | none => .error (attributeNotFound attr)
  | some i =>
    match o.typinf.cols[i]? with
    | some (.named _ typinf) => do
      let (tab, attrs) ← ociObjectCopy c value typinf
      let off := objectGetIndOffset o.typinf i
      return { o with
               tab := Function.update (copyInds off typinf.indicators tab o.tab) off .notNull
               attrs := o.attrs.set i (.object attrs) }
    | _ => .error .foreign

def objectSetColl (o : OciObject) (attr : Text) (value : OciColl) : Except Fault OciObject :=
  match objectGetAttrIndex o.typinf.cols attr (some .collection) with
  | none => .error (attributeNotFound attr)
  | some i =>
    match o.typinf.cols[i]? with
    | some (.named _ typinf) => do
      objectSet o attr .collection (.coll (← ociCollAssign c value typinf))
    | _ => .error .foreign

def unknownNty (subject : String) (type : ColumnType) : Fault :=
  .raised ⟨"BIND-NTY-ERROR", "Unknown NTY-like argument" ++ subject ++ " (type: " ++
    (if type = .object then "12" else "13") ++ ")"⟩

-- a turn of the loop of objBindQore()
def objBindAttribute (b : Binder) (tname : Text) (th : List (Text × QoreValue)) (o : OciObject)
    (col : OciColumn) : Except Fault OciObject :=
  let val := attributeValue th col.name
  let cname := String.ofList col.name
  if val.isNullOrNothing then objectSetNull o col.name
  else
    match col with
    | .plain name ocode _ _ => do
      match ← bindScalar c.toScalarClient (.object (String.ofList tname) cname) ocode val with
      | none => objectSetNull o name
      | some s => objectSet o name ocode.caseType (.scalar s)
    | .named name _ =>
      match val with
      | .hash n =>
        if ntyHashType n = oracleObject then do
          objectSetObject c o name (← b.object n)
        else if ntyHashType n = oracleCollection then do
          objectSetColl c o name (← b.coll n)
        else .error (unknownNty (" for " ++ String.ofList tname ++ "." ++ cname) col.type)
      | _ => .error (unknownNty (" for " ++ String.ofList tname ++ "." ++ cname) col.type)

def objBindQore (b : Binder) (h : List (Text × QoreValue)) : Except Fault OciObject :=
  if ntyCheckType oracleObject h isHash then do
    let info ← c.typeInfoGet (oraType h)
    let (tab, attrs) ← c.objectNew info
    if info.cols.isEmpty then
      .error (.raised ⟨"BIND-NTY-ERROR", "unable to retrieve attribute info for object of type '" ++
        String.ofList (oraType h) ++ "' for bind"⟩)
    else info.cols.foldlM (objBindAttribute c b (oraType h) (hashValues h)) ⟨info, tab, attrs⟩
  else
    .error (.raised
      ⟨"BIND-ORACLE-OBJECT-ERROR", "Bind value was not created with bindOracleObject()"⟩)

end Object

-- the accessor that every element of a collection is written through; an object is written to one
-- that stays in the accessor, and its table of indicators takes the place of `ind`
structure OciElem where
  ind : Ind
  obj : Option ((ℕ → Ind) × List Stored)
  value : Stored

namespace OciElem

-- OCI_ElemCreate2()
def new : OciElem := ⟨.null, none, .unset⟩

-- OCI_ElemSetNullIndicator() does not write the indicator of an object
def setNull (type : ColumnType) (e : OciElem) : OciElem :=
  if type = .object then e else { e with ind := .null }

def set (e : OciElem) (value : Stored) : OciElem := { e with ind := .notNull, value }

-- what OCICollAppend() is given
def entry (e : OciElem) : (ℕ → Ind) × Stored :=
  match e.obj with
  | some (tab, attrs) => (tab, .object attrs)
  | none => (fun _ => e.ind, e.value)

end OciElem

-- the code of the columns that OCI_CollAssign() compares; it is the same for all texts, for all
-- numbers but SQLT_INT and for all dates
def OciColumn.icode : OciColumn → Option Sqlt
  | .plain _ ocode _ _ =>
    match ocode with
    | .num | .flt | .bfloat | .ibfloat | .bdouble | .ibdouble => some .num
    | .dat | .odt => some .odt
    | .afc | .avc | .chr | .str | .date => some .str
    | ocode => some ocode
  | .named .. => none

section Coll

variable (c : ObjectClient)

def elemSetObject (e : OciElem) (typinf : TypeInfo) (value : OciObject) : Except Fault OciElem := do
  let (tab, _) ← match e.obj with
    | some obj => .ok obj
    | none => c.objectNew typinf
  if c.sameTdo typinf value.typinf then
    return { e with obj := some (copyInds 0 typinf.indicators value.tab tab, value.attrs) }
  else
    .error (.raised ⟨"ORACLE-OBJECT-ERROR", "Cannot assign object of type '" ++
      String.ofList value.typinf.name ++ "' into '" ++ String.ofList typinf.name ++ "'"⟩)

def columnName (typinf : TypeInfo) : String := String.ofList ((typinf.cols.head?.map (·.name)).getD [])

def elemSetColl (e : OciElem) (typinf : TypeInfo) (value : OciColl) : Except Fault OciElem :=
  if typinf.cols.head?.map (·.icode) = value.typinf.cols.head?.map (·.icode) then do
    return e.set (.coll (← ociCollAssign c value typinf))
  else
    .error (.raised ⟨"ORACLE-COLLECTION-ERROR", "Cannot assign collection of type '" ++
      columnName typinf ++ "' into '" ++ columnName value.typinf ++ "'"⟩)

-- the accessor after a turn of the loop of collBindQore()
def collBindElement (b : Binder) (tname : Text) (col : OciColumn) (e : OciElem) (val : QoreValue) :
    Except Fault OciElem :=
  if val.isNullOrNothing then .ok (e.setNull col.type)
  else
    match col with
    | .plain _ ocode _ _ => do
      match ← bindScalar c.toScalarClient (.collection (String.ofList tname)) ocode val with
      | none => return e.setNull ocode.columnType
      | some s =>
        if ocode.caseType = ocode.columnType then return e.set (.scalar s)
        else
          .error (.raised ⟨"BIND-NTY-ERROR",
            "failed to assign string value to element for collection '" ++ String.ofList tname ++ "'"⟩)
    | .named _ typinf =>
      match val with
      | .hash n =>
        if ntyHashType n = oracleObject then do
          let o ← b.object n
          if typinf.collection then .error (.raised ⟨"BIND-NTY-ERROR",
            "unable to bind object of type 'OracleObject' to element"⟩)
          else elemSetObject c e typinf o
        else if ntyHashType n = oracleCollection then do
          let coll ← b.coll n
          if typinf.collection then elemSetColl c e typinf coll
          else .error (.raised ⟨"BIND-NTY-ERROR",
            "unable to bind collection of type 'OracleCollection' to element"⟩)
        else .error (unknownNty "" col.type)
      | _ => .error (unknownNty "" col.type)

-- the accessor is appended after every turn
def collBindTurn (b : Binder) (tname : Text) (col : OciColumn)
    (s : OciElem × List ((ℕ → Ind) × Stored)) (val : QoreValue) :
    Except Fault (OciElem × List ((ℕ → Ind) × Stored)) :=
  (collBindElement c b tname col s.1 val).map fun e => (e, s.2 ++ [e.entry])

def collBindQore (b : Binder) (h : List (Text × QoreValue)) : Except Fault OciColl :=
  if ntyCheckType oracleCollection h isList then do
    let info ← c.typeInfoGet (oraType h)
    if info.collection then
      match info.cols with
      | [] => .error outOfBounds
      | col :: _ =>
        return ⟨info, ((← (listValues h).foldlM (collBindTurn c b (oraType h) col) (.new, [])).2)⟩
    else
      .error (.raised ⟨"BIND-NTY-ERROR", "unable to create collection of type '" ++
        String.ofList (oraType h) ++ "' for bind"⟩)
  else
    .error (.raised ⟨"BIND-ORACLE-COLLECTION-ERROR",
      "Bind value was not created with bindOracleCollection()"⟩)

-- for values inside each other to a depth
def binder : ℕ → Binder
  | 0 => ⟨fun _ => .error .foreign, fun _ => .error .foreign⟩
  | n + 1 => ⟨objBindQore c (binder n), collBindQore c (binder n)⟩

end Coll

mutual

def QoreValue.depth : QoreValue → ℕ
  | .list l => 1 + depthList l
  | .hash h => 1 + depthHash h
  | _ => 0

def depthList : List QoreValue → ℕ
  | [] => 0
  | v :: l => max v.depth (depthList l)

def depthHash : List (Text × QoreValue) → ℕ
  | [] => 0
  | (_, v) :: h => max v.depth (depthHash h)

end

def bindOracleObject (c : ObjectClient) (h : List (Text × QoreValue)) : Except Fault OciObject :=
  (binder c (QoreValue.hash h).depth).object h

def bindOracleCollection (c : ObjectClient) (h : List (Text × QoreValue)) : Except Fault OciColl :=
  (binder c (QoreValue.hash h).depth).coll h

section Depth

variable {h : List (Text × QoreValue)} {l : List QoreValue} {key : Text} {v : QoreValue}

lemma depth_lookup (hv : h.lookup key = some v) : v.depth ≤ depthHash h := by
  induction h with
  | nil => cases hv
  | cons e h ih =>
    obtain ⟨k, u⟩ := e
    rw [List.lookup_cons] at hv
    rw [depthHash]
    split at hv
    · rw [Option.some_inj] at hv
      rw [hv]
      exact le_max_left _ _
    · exact (ih hv).trans (le_max_right _ _)

lemma depth_mem (hv : v ∈ l) : v.depth ≤ depthList l := by
  induction l with
  | nil => cases hv
  | cons u l ih =>
    rw [depthList]
    rcases List.mem_cons.mp hv with rfl | hmem
    · exact le_max_left _ _
    · exact (ih hmem).trans (le_max_right _ _)

lemma depth_getKeyValue (h : List (Text × QoreValue)) (key : String) :
    (getKeyValue h key).depth ≤ depthHash h := by
  rw [getKeyValue]
  cases hv : h.lookup key.toList with
  | none => exact Nat.zero_le _
  | some v => exact depth_lookup hv

-- the value of an attribute and an element are less deep than what they are in
lemma depth_attributeValue (h : List (Text × QoreValue)) (cname : Text) :
    (attributeValue (hashValues h) cname).depth < (QoreValue.hash h).depth := by
  have hattr : (attributeValue (hashValues h) cname).depth ≤ depthHash (hashValues h) := by
    rw [attributeValue]
    split
    · exact depth_lookup ‹_›
    · rename_i hnone
      cases hv : (hashValues h).lookup (cname.map Char.toLower) with
      | none => exact Nat.zero_le _
      | some v => exact depth_lookup hv
  have hvalues : depthHash (hashValues h) ≤ depthHash h := by
    have hkey := depth_getKeyValue h "^values^"
    rw [hashValues]
    split
    · rename_i th heq
      rw [heq, QoreValue.depth] at hkey
      omega
    · exact Nat.zero_le _
  rw [QoreValue.depth]
  omega

lemma depth_listValues (hv : v ∈ listValues h) : v.depth < (QoreValue.hash h).depth := by
  have hkey := depth_getKeyValue h "^values^"
  rw [listValues] at hv
  cases hl : getKeyValue h "^values^" with
  | list l =>
    rw [hl, QoreValue.elems] at hv
    rw [hl, QoreValue.depth] at hkey
    have := depth_mem hv
    rw [QoreValue.depth]
    omega
  | _ =>
    rw [hl] at hv
    cases hv

end Depth

end OracleDriver
