import OracleDriver.ObjectBinds

/-! Objects and collections that are bound and read again, of types that are `Proper`: where two names
of attributes are the same but for their case, both are written to the first one. -/

namespace OracleDriver

open IndexedFold

variable {c : ObjectClient} {b : Binder} {o o' : OciObject} {col : OciColumn} {i j : ℕ}

-- the attribute holds the value that is to be read
inductive AttributeHolds (c : ObjectClient) (o : OciObject) (i : ℕ) (col : OciColumn) :
    QoreValue → Prop
  | null : o.tab (indicatorsBefore o.typinf.cols i) ≠ .notNull → AttributeHolds c o i col .null
  | value (attr : Stored) {w : QoreValue} : o.tab (indicatorsBefore o.typinf.cols i) = .notNull →
      col.caseType = col.type → o.attrs[i]? = some attr →
      col.read ownInd c.toScalarClient (objectSite o.typinf.schema o.typinf.name col.name)
        (indicatorsBefore o.typinf.cols i) o.tab attr = .ok w → AttributeHolds c o i col w

/-- An attribute is written, and the memory and the indicators of the others stay as they are. -/
structure AttributeWritten (c : ObjectClient) (o o' : OciObject) (j : ℕ) (col : OciColumn)
    (w : QoreValue) : Prop where
  typinf : o'.typinf = o.typinf
  length : o'.attrs.length = o.attrs.length
  attrs : ∀ i, i ≠ j → o'.attrs[i]? = o.attrs[i]?
  tab : ∀ k, k < indicatorsBefore o.typinf.cols j → o'.tab k = o.tab k
  holds : AttributeHolds c o' j col w

lemma AttributeHolds.mono {w w' : QoreValue} (hi : o.typinf.cols[i]? = some col) (hij : i < j)
    {other : OciColumn} (h : AttributeHolds c o i col w) (hw : AttributeWritten c o o' j other w') :
    AttributeHolds c o' i col w := by
  have hblock := indicatorsBefore_add_le hi hij
  have hpos := col.indicators_pos
  have htab : o'.tab (indicatorsBefore o.typinf.cols i) = o.tab (indicatorsBefore o.typinf.cols i) :=
    hw.tab _ (by omega)
  cases h with
  | null hn =>
    apply AttributeHolds.null
    rwa [hw.typinf, htab]
  | value attr hn htype hattr hread =>
    refine AttributeHolds.value attr ?_ htype ?_ ?_
    · rwa [hw.typinf, htab]
    · rwa [hw.attrs i hij.ne]
    · rw [hw.typinf, ← hread]
      apply OciColumn.local_one col
      intro k hk hlt
      exact hw.tab _ (by omega)

lemma objectSetNull_written (hcols : NamesDiffer o.typinf.cols)
    (hsize : o.typinf.indicators ≤ 2 ^ 16) (hj : o.typinf.cols[j]? = some col) :
    ∃ o', objectSetNull o col.name = .ok o' ∧ AttributeWritten c o o' j col .null := by
  rw [objectSetNull, hcols.attrIndex hj (.inl rfl)]
  dsimp only
  rw [objectGetIndOffset_eq hsize hj]
  refine ⟨_, rfl, rfl, rfl, fun _ _ => rfl, fun k hk => ?_, .null ?_⟩
  · exact Function.update_of_ne hk.ne _ _
  · dsimp only
    rw [Function.update_self]
    intro h
    cases h

lemma objectSet_written {type : ColumnType} {value : Stored} {w : QoreValue}
    (hcols : NamesDiffer o.typinf.cols) (hsize : o.typinf.indicators ≤ 2 ^ 16)
    (hj : o.typinf.cols[j]? = some col) (hlt : j < o.attrs.length) (htype : type = col.type)
    (hcase : col.caseType = col.type)
    (hread : ∀ idx tab, col.read ownInd c.toScalarClient
      (objectSite o.typinf.schema o.typinf.name col.name) idx tab value = .ok w) :
    ∃ o', objectSet o col.name type value = .ok o' ∧ AttributeWritten c o o' j col w := by
  rw [objectSet, htype, hcols.attrIndex hj (.inr rfl)]
  dsimp only
  rw [objectGetIndOffset_eq hsize hj]
  refine ⟨_, rfl, rfl, List.length_set, fun i hi => ?_, fun k hk => ?_, .value value ?_ hcase ?_ ?_⟩
  · exact List.getElem?_set_ne hi.symm
  · exact Function.update_of_ne hk.ne _ _
  · exact Function.update_self _ _ _
  · exact List.getElem?_set_self hlt
  · exact hread _ _

lemma copyInds_at (off n k : ℕ) (src dst : ℕ → Ind) (hk : k < n) :
    copyInds off n src dst (off + k) = src k := by
  rw [copyInds, if_pos ⟨by omega, by omega⟩, Nat.add_sub_cancel_left]

lemma objectSetObject_written {name : Text} {typinf : TypeInfo} {value : OciObject} {w : QoreValue}
    (hc : c.Lawful) (hcols : NamesDiffer o.typinf.cols) (hsize : o.typinf.indicators ≤ 2 ^ 16)
    (hj : o.typinf.cols[j]? = some (.named name typinf)) (hlt : j < o.attrs.length)
    (hobj : typinf.collection = false) (htype : value.typinf = typinf)
    (hw : value.Holds c.toScalarClient w) :
    ∃ o', objectSetObject c o name value = .ok o' ∧
      AttributeWritten c o o' j (.named name typinf) w := by
  have hcol : (OciColumn.named name typinf).type = .object := by
    rw [OciColumn.type, hobj]
    rfl
  have hindex := hcols.attrIndex hj (.inr rfl)
  rw [hcol] at hindex
  rw [objectSetObject]
  unfold OciColumn.name at hindex
  dsimp only at hindex
  rw [hindex]
  dsimp only
  rw [hj]
  dsimp only
  rw [ociObjectCopy, htype, if_pos (hc.sameTdo typinf), objectGetIndOffset_eq hsize hj]
  refine ⟨_, rfl, rfl, List.length_set, fun i hi => ?_, fun k hk => ?_,
    .value (.object value.attrs) ?_ ?_ ?_ ?_⟩
  · exact List.getElem?_set_ne hi.symm
  · dsimp only
    rw [Function.update_of_ne hk.ne, copyInds, if_neg (by omega)]
  · exact Function.update_self _ _ _
  · rw [hcol, OciColumn.caseType, hobj]
    rfl
  · exact List.getElem?_set_self hlt
  · rw [OciObject.Holds, htype] at hw
    rw [OciColumn.read, ← hw]
    apply typinf.read_congr
    right
    intro k hk hlt
    dsimp only
    rw [Function.update_of_ne (by omega), copyInds_at _ _ _ _ _ hlt, Nat.zero_add]

lemma objectSetColl_written {name : Text} {typinf : TypeInfo} {value : OciColl} {w : QoreValue}
    (hc : c.Lawful) (hcols : NamesDiffer o.typinf.cols) (hsize : o.typinf.indicators ≤ 2 ^ 16)
    (hj : o.typinf.cols[j]? = some (.named name typinf)) (hlt : j < o.attrs.length)
    (hcoll : typinf.collection = true) (htype : value.typinf = typinf)
    (hw : value.Holds c.toScalarClient w) :
    ∃ o', objectSetColl c o name value = .ok o' ∧ AttributeWritten c o o' j (.named name typinf) w := by
  have hcol : (OciColumn.named name typinf).type = .collection := by
    rw [OciColumn.type, hcoll]
    rfl
  have hindex := hcols.attrIndex hj (.inr rfl)
  rw [hcol] at hindex
  rw [objectSetColl]
  unfold OciColumn.name at hindex
  dsimp only at hindex
  rw [hindex]
  dsimp only
  rw [hj]
  dsimp only
  rw [ociCollAssign, htype, if_pos (hc.sameTdo typinf)]
  apply objectSet_written hcols hsize hj hlt hcol.symm
  · rw [hcol, OciColumn.caseType, hcoll]
    rfl
  · intro idx tab
    rw [OciColl.Holds, htype] at hw
    rw [OciColumn.read, ← hw]
    exact typinf.read_congr _ _ _ _ _ (.inl hcoll)

-- what becomes of a value of a column, with the value that is to be read
inductive Stores (c : ObjectClient) (b : Binder) (site : LobSite) :
    OciColumn → QoreValue → QoreValue → Prop
  | null {col : OciColumn} {v : QoreValue} : v.isNullOrNothing = true → Stores c b site col v .null
  | empty {name : Text} {ocode : Sqlt} {prec scale : ℤ} {v : QoreValue} : v.isNullOrNothing = false →
      (∀ s, bindScalar c.toScalarClient s ocode v = .ok none) →
      Stores c b site (.plain name ocode prec scale) v .null
  | scalar {name : Text} {ocode : Sqlt} {prec scale : ℤ} {v w : QoreValue} {x : Scalar} :
      v.isNullOrNothing = false → (∀ s, bindScalar c.toScalarClient s ocode v = .ok (some x)) →
      ocode.caseType = ocode.columnType → fetchScalar c.toScalarClient site ocode prec scale x = .ok w →
      Stores c b site (.plain name ocode prec scale) v w
  | object {name : Text} {typinf : TypeInfo} {h : List (Text × QoreValue)} {w : QoreValue}
      {o : OciObject} : ntyHashType h = oracleObject → typinf.collection = false →
      b.object h = .ok o → o.typinf = typinf → o.tab 0 ≠ .null → o.Holds c.toScalarClient w →
      Stores c b site (.named name typinf) (.hash h) w
  | coll {name : Text} {typinf : TypeInfo} {h : List (Text × QoreValue)} {w : QoreValue}
      {coll : OciColl} : ntyHashType h = oracleCollection → typinf.collection = true →
      b.coll h = .ok coll → coll.typinf = typinf → coll.Holds c.toScalarClient w →
      Stores c b site (.named name typinf) (.hash h) w

lemma oracleCollection_ne : oracleCollection ≠ oracleObject := by decide

lemma objBindAttribute_written {w : QoreValue} (hc : c.Lawful) (hcols : NamesDiffer o.typinf.cols)
    (hsize : o.typinf.indicators ≤ 2 ^ 16) (hj : o.typinf.cols[j]? = some col)
    (hlt : j < o.attrs.length) (tname : Text)
    {th : List (Text × QoreValue)}
    (h : Stores c b (objectSite o.typinf.schema o.typinf.name col.name) col
      (attributeValue th col.name) w) :
    ∃ o', objBindAttribute c b tname th o col = .ok o' ∧ AttributeWritten c o o' j col w := by
  unfold objBindAttribute
  generalize attributeValue th col.name = v at h
  dsimp only
  cases h with
  | null hv =>
    rw [if_pos hv]
    exact objectSetNull_written hcols hsize hj
  | empty hv hbind =>
    rw [if_neg (ne_true_of_eq_false hv)]
    dsimp only
    rw [hbind]
    exact objectSetNull_written hcols hsize hj
  | scalar hv hbind htype hfetch =>
    rw [if_neg (ne_true_of_eq_false hv)]
    dsimp only
    rw [hbind]
    apply objectSet_written hcols hsize hj hlt
    · exact htype
    · exact htype
    · intro idx tab
      rw [OciColumn.read]
      exact hfetch
  | object hkind hobj hbind htypinf _ hw =>
    rw [if_neg (by nofun)]
    dsimp only
    rw [if_pos hkind, hbind]
    exact objectSetObject_written hc hcols hsize hj hlt hobj htypinf hw
  | coll hkind hcoll hbind htypinf hw =>
    rw [if_neg (by nofun)]
    dsimp only
    rw [hkind, if_neg oracleCollection_ne, if_pos rfl, hbind]
    exact objectSetColl_written hc hcols hsize hj hlt hcoll htypinf hw

lemma AttributeHolds.read {w : QoreValue} (hcols : NamesDiffer o.typinf.cols)
    (hi : o.typinf.cols[i]? = some col) (h : AttributeHolds c o i col w) :
    readAttribute ownInd o.typinf.schema o.typinf.name o.typinf.cols
      (readers ownInd c.toScalarClient o.typinf.cols) 0 o.tab o.attrs col = .ok (col.name, w) := by
  have hzero : ownInd 0 (indicatorsBefore o.typinf.cols i) = indicatorsBefore o.typinf.cols i :=
    Nat.zero_add _
  cases h with
  | null hn =>
    apply readAttribute_null hcols hi
    rwa [hzero]
  | value attr hn htype hattr hread =>
    rw [readAttribute_notNull hcols hi (by rwa [hzero]), map_mk_eq_ok, readCase, htype,
      hcols.attrIndex hi (.inr rfl)]
    dsimp only
    rw [readers_getElem?, hi, Option.map_some, hattr]
    dsimp only
    rwa [Nat.zero_add]

lemma objBindQore_written {typinf : TypeInfo} {h : List (Text × QoreValue)} {ws : ℕ → QoreValue}
    (hc : c.Lawful) (hcols : NamesDiffer typinf.cols) (hsize : typinf.indicators ≤ 2 ^ 16)
    (hobj : typinf.collection = false) (hne : typinf.cols ≠ [])
    (hcheck : ntyCheckType oracleObject h isHash = true)
    (hinfo : c.typeInfoGet (oraType h) = .ok typinf)
    (hw : ∀ (i : ℕ) col, typinf.cols[i]? = some col → Stores c b
      (objectSite typinf.schema typinf.name col.name) col (attributeValue (hashValues h) col.name)
        (ws i)) :
    ∃ o, objBindQore c b h = .ok o ∧ o.typinf = typinf ∧ o.tab 0 ≠ .null ∧
      o.Holds c.toScalarClient (.hash (typinf.cols.mapIdx fun i col => (col.name, ws i))) := by
  obtain ⟨tab, attrs, hnew, hatom, hlen⟩ := hc.objectNew typinf hobj
  let P : ℕ → OciObject → Prop := fun j o => o.typinf = typinf ∧ o.attrs.length = typinf.cols.length ∧
    o.tab 0 ≠ .null ∧ ∀ i col, i < j → typinf.cols[i]? = some col → AttributeHolds c o i col (ws i)
  have hstep : ∀ (j : ℕ) col o, typinf.cols[j]? = some col → P j o →
      ∃ o', objBindAttribute c b (oraType h) (hashValues h) o col = .ok o' ∧ P (j + 1) o' := by
    rintro j col o hj ⟨rfl, hattrs, hzero, hheld⟩
    have hlt : j < o.attrs.length := by
      rw [hattrs]
      exact (List.getElem?_eq_some_iff.mp hj).choose
    obtain ⟨o', ho', hwrote⟩ := objBindAttribute_written hc hcols hsize hj hlt (oraType h) (hw j col hj)
    refine ⟨o', ho', hwrote.typinf, hwrote.length.trans hattrs, ?_, ?_⟩
    · rwa [hwrote.tab 0 (indicatorsBefore_pos _ _)]
    · intro i other hi hother
      rcases Nat.lt_succ_iff_lt_or_eq.mp hi with hij | rfl
      · exact (hheld i other hij hother).mono hother hij hwrote
      · rw [hj, Option.some_inj] at hother
        rw [← hother]
        exact hwrote.holds
  obtain ⟨o, ho, htypinf, hattrs, hzero, hheld⟩ := exists_invariant (s := ⟨typinf, tab, attrs⟩) hstep
    ⟨rfl, hlen, hatom, fun i col hi => absurd hi (Nat.not_lt_zero i)⟩
  refine ⟨o, ?_, htypinf, hzero, ?_⟩
  · rw [objBindQore, if_pos hcheck, hinfo]
    dsimp only [bind, Except.bind]
    rw [hnew]
    dsimp only
    rw [if_neg (by rwa [List.isEmpty_iff])]
    exact ho
  · subst htypinf
    have hread : o.typinf.cols.mapM (readAttribute ownInd o.typinf.schema o.typinf.name o.typinf.cols
        (readers ownInd c.toScalarClient o.typinf.cols) 0 o.tab o.attrs) =
        .ok (o.typinf.cols.mapIdx fun i col => (col.name, ws i)) := by
      apply mapM_of_getElem? List.length_mapIdx
      intro i col kv hi hkv
      rw [List.getElem?_mapIdx, hi, Option.map_some, Option.some_inj] at hkv
      rw [← hkv]
      exact (hheld i col (List.getElem?_eq_some_iff.mp hi).choose hi).read hcols hi
    rw [OciObject.Holds]
    obtain ⟨⟨schema, name, collection, cols⟩, tab, attrs⟩ := o
    rw [TypeInfo.read]
    dsimp only [TypeInfo.collection] at hobj ⊢
    rw [hobj, if_neg Bool.false_ne_true, readObjectValue]
    dsimp only [TypeInfo.cols, TypeInfo.schema, TypeInfo.name] at hread hne ⊢
    rw [if_neg (by rwa [List.isEmpty_iff]), hread]
    rfl

section Elements

variable {schema name : Text} {e : OciElem} {v w : QoreValue}

lemma readElement_setNull (he : e.obj = none) :
    readElement schema name (col.read ownInd c.toScalarClient) (OciElem.entry { e with ind := .null }) =
      .ok .null := by
  rw [OciElem.entry, he]
  rfl

lemma readElement_set {value : Stored} (he : e.obj = none)
    (hread : col.read ownInd c.toScalarClient (collectionSite schema name) 0 (fun _ => .notNull) value =
      .ok w) :
    readElement schema name (col.read ownInd c.toScalarClient) (e.set value).entry = .ok w := by
  rw [OciElem.set, OciElem.entry, he]
  exact hread

lemma elemSetObject_written (schema name cname : Text) (e : OciElem) {typinf : TypeInfo}
    {value : OciObject} (hc : c.Lawful) (hobj : typinf.collection = false)
    (htype : value.typinf = typinf) (hatom : value.tab 0 ≠ .null)
    (hw : value.Holds c.toScalarClient w) :
    ∃ e', elemSetObject c e typinf value = .ok e' ∧
      readElement schema name ((OciColumn.named cname typinf).read ownInd c.toScalarClient) e'.entry =
        .ok w := by
  have hentry : ∀ tab, readElement schema name
      ((OciColumn.named cname typinf).read ownInd c.toScalarClient)
      (copyInds 0 typinf.indicators value.tab tab, .object value.attrs) = .ok w := by
    intro tab
    have hcopy : ∀ k, k < typinf.indicators →
        copyInds 0 typinf.indicators value.tab tab k = value.tab k := by
      intro k hk
      have := copyInds_at 0 _ k value.tab tab hk
      rwa [Nat.zero_add] at this
    have hpos : 0 < typinf.indicators := by
      rw [typinf.indicators_eq]
      exact typinf.tree.size_pos
    have hzero : copyInds 0 typinf.indicators value.tab tab 0 ≠ .null := by rwa [hcopy 0 hpos]
    rw [OciObject.Holds, htype] at hw
    rw [readElement, if_neg hzero, OciColumn.read, ← hw]
    apply typinf.read_congr
    right
    intro k _ hlt
    rw [Nat.zero_add]
    exact hcopy k hlt
  rw [elemSetObject]
  cases hobj' : e.obj with
  | some obj =>
    dsimp only [bind, Except.bind]
    rw [htype, if_pos (hc.sameTdo typinf)]
    exact ⟨_, rfl, hentry _⟩
  | none =>
    obtain ⟨tab, attrs, hnew, -⟩ := hc.objectNew typinf hobj
    dsimp only [bind, Except.bind]
    rw [hnew]
    dsimp only
    rw [htype, if_pos (hc.sameTdo typinf)]
    exact ⟨_, rfl, hentry _⟩

-- a turn for an element that is not a NULL object
lemma collBindElement_written (hc : c.Lawful) (tname : Text) (he : col.type ≠ .object → e.obj = none)
    (h : Stores c b (collectionSite schema name) col v w)
    (hv : v.isNullOrNothing = true → col.type ≠ .object) :
    ∃ e', collBindElement c b tname col e v = .ok e' ∧ (col.type ≠ .object → e'.obj = none) ∧
      readElement schema name (col.read ownInd c.toScalarClient) e'.entry = .ok w := by
  unfold collBindElement
  cases h with
  | null hnull =>
    have hcol := hv hnull
    rw [if_pos hnull, OciElem.setNull, if_neg hcol]
    exact ⟨_, rfl, fun _ => he hcol, readElement_setNull (he hcol)⟩
  | @empty _ ocode _ _ _ hnn hbind =>
    have hcol : ocode.columnType ≠ .object := by cases ocode <;> nofun
    rw [if_neg (ne_true_of_eq_false hnn)]
    dsimp only
    rw [hbind]
    refine ⟨_, rfl, ?_⟩
    rw [OciElem.setNull, if_neg hcol]
    exact ⟨fun _ => he hcol, readElement_setNull (he hcol)⟩
  | @scalar _ ocode _ _ _ _ x hnn hbind htype hfetch =>
    have hcol : ocode.columnType ≠ .object := by cases ocode <;> nofun
    rw [if_neg (ne_true_of_eq_false hnn)]
    dsimp only
    rw [hbind]
    dsimp only [bind, Except.bind]
    rw [if_pos htype]
    refine ⟨_, rfl, fun _ => he hcol, readElement_set (he hcol) ?_⟩
    rw [OciColumn.read]
    exact hfetch
  | @object cname typinf h w value hkind hobj hbind htypinf hatom hw =>
    rw [if_neg (by nofun)]
    dsimp only
    rw [if_pos hkind, hbind]
    dsimp only [bind, Except.bind]
    rw [hobj, if_neg Bool.false_ne_true]
    obtain ⟨e', he', hread⟩ := elemSetObject_written schema name cname e hc hobj htypinf hatom hw
    refine ⟨e', he', ?_, hread⟩
    intro hcol
    rw [OciColumn.type, hobj] at hcol
    exact absurd rfl hcol
  | @coll cname typinf h w value hkind hcoll hbind htypinf hw =>
    have hcol : (OciColumn.named cname typinf).type ≠ .object := by
      rw [OciColumn.type, hcoll]
      nofun
    rw [if_neg (by nofun)]
    dsimp only
    rw [hkind, if_neg oracleCollection_ne, if_pos rfl, hbind]
    dsimp only [bind, Except.bind]
    rw [hcoll, if_pos rfl, elemSetColl, htypinf, if_pos rfl, ociCollAssign, htypinf,
      if_pos (hc.sameTdo typinf)]
    refine ⟨_, rfl, fun _ => he hcol, readElement_set (he hcol) ?_⟩
    rw [OciColl.Holds, htypinf] at hw
    rw [OciColumn.read, ← hw]

-- the value of the element before
def before (ws : ℕ → QoreValue) : ℕ → QoreValue
  | 0 => .null
  | i + 1 => ws i

-- an element that is NULL in a collection of objects leaves the accessor as it is
def ElementWritten (c : ObjectClient) (b : Binder) (site : LobSite) (col : OciColumn)
    (ws : ℕ → QoreValue) (i : ℕ) (v : QoreValue) : Prop :=
  if v.isNullOrNothing = true ∧ col.type = .object then ws i = before ws i
  else Stores c b site col v (ws i)

/-- The accessor and the elements that have been appended, before element `j`. -/
structure ElementAppended (c : ObjectClient) (schema name : Text) (col : OciColumn) (ws : ℕ → QoreValue)
    (j : ℕ) (s : OciElem × List ((ℕ → Ind) × Stored)) : Prop where
  length : s.2.length = j
  entries : ∀ (i : ℕ) entry, s.2[i]? = some entry →
    readElement schema name (col.read ownInd c.toScalarClient) entry = .ok (ws i)
  obj : col.type ≠ .object → s.1.obj = none
  last : col.type = .object →
    readElement schema name (col.read ownInd c.toScalarClient) s.1.entry = .ok (before ws j)

lemma ElementAppended.append {ws : ℕ → QoreValue} {s : OciElem × List ((ℕ → Ind) × Stored)}
    {e' : OciElem}
    (h : ElementAppended c schema name col ws j s) (hobj : col.type ≠ .object → e'.obj = none)
    (hread : readElement schema name (col.read ownInd c.toScalarClient) e'.entry = .ok (ws j)) :
    ElementAppended c schema name col ws (j + 1) (e', s.2 ++ [e'.entry]) := by
  refine ⟨?_, ?_, hobj, fun _ => hread⟩
  · rw [List.length_append, h.length]
    rfl
  · intro i entry hi
    rcases Nat.lt_trichotomy i j with hij | rfl | hij
    · rw [List.getElem?_append_left (by rwa [h.length])] at hi
      exact h.entries i entry hi
    · rw [List.getElem?_append_right h.length.le, h.length, Nat.sub_self] at hi
      obtain rfl := Option.some.inj hi
      exact hread
    · rw [List.getElem?_eq_none] at hi
      · cases hi
      · rw [List.length_append, h.length]
        exact hij

lemma collBindTurn_appended {ws : ℕ → QoreValue} {s : OciElem × List ((ℕ → Ind) × Stored)}
    (hc : c.Lawful) (tname : Text) (h : ElementAppended c schema name col ws j s)
    (hw : ElementWritten c b (collectionSite schema name) col ws j v) :
    ∃ s', collBindTurn c b tname col s v = .ok s' ∧ ElementAppended c schema name col ws (j + 1) s' := by
  rw [ElementWritten] at hw
  rw [collBindTurn]
  split at hw
  · rename_i hnull
    have hsame : collBindElement c b tname col s.1 v = .ok s.1 := by
      unfold collBindElement
      rw [if_pos hnull.1, OciElem.setNull, if_pos hnull.2]
    rw [hsame]
    refine ⟨_, rfl, h.append h.obj ?_⟩
    rw [hw]
    exact h.last hnull.2
  · rename_i hnull
    obtain ⟨e', he', hobj, hread⟩ := collBindElement_written hc tname h.obj hw
      fun hv hcol => hnull ⟨hv, hcol⟩
    rw [he']
    exact ⟨_, rfl, h.append hobj hread⟩

lemma collBindQore_written {typinf : TypeInfo} {h : List (Text × QoreValue)} {ws : ℕ → QoreValue}
    (hc : c.Lawful) (hcoll : typinf.collection = true) (hcol : typinf.cols = [col])
    (hcheck : ntyCheckType oracleCollection h QoreValue.isList = true)
    (hinfo : c.typeInfoGet (oraType h) = .ok typinf)
    (hw : ∀ (i : ℕ) v, (listValues h)[i]? = some v →
      ElementWritten c b (collectionSite typinf.schema typinf.name) col ws i v) :
    ∃ coll, collBindQore c b h = .ok coll ∧ coll.typinf = typinf ∧
      coll.Holds c.toScalarClient (.list ((listValues h).mapIdx fun i _ => ws i)) := by
  have hnew : ElementAppended c typinf.schema typinf.name col ws 0 (.new, []) :=
    ⟨rfl, nofun, fun _ => rfl, fun _ => rfl⟩
  obtain ⟨⟨e, elems⟩, hrun, happ⟩ :=
    exists_invariant (P := ElementAppended c typinf.schema typinf.name col ws)
    (fun j v s hj hs => collBindTurn_appended hc (oraType h) hs (hw j v hj)) hnew
  refine ⟨⟨typinf, elems⟩, ?_, rfl, ?_⟩
  · rw [collBindQore, if_pos hcheck, hinfo]
    dsimp only [bind, Except.bind]
    rw [if_pos hcoll, hcol]
    dsimp only
    rw [hrun]
    rfl
  · have hread : elems.mapM (readElement typinf.schema typinf.name
        (col.read ownInd c.toScalarClient)) = .ok ((listValues h).mapIdx fun i _ => ws i) := by
      apply mapM_of_getElem?
      · rw [List.length_mapIdx]
        exact happ.length.symm
      · intro i entry w hi hwi
        rw [happ.entries i entry hi]
        rw [List.getElem?_mapIdx] at hwi
        obtain ⟨_, -, rfl⟩ := Option.map_eq_some_iff.mp hwi
        rfl
    rw [OciColl.Holds]
    obtain ⟨schema, name, collection, cols⟩ := typinf
    rw [TypeInfo.read]
    dsimp only [TypeInfo.collection, TypeInfo.cols, TypeInfo.schema, TypeInfo.name] at *
    rw [hcoll, if_pos rfl, hcol]
    unfold readCollectionValue readers
    dsimp only
    rw [hread]
    rfl

end Elements

-- the value that is read back when a value is bound: the attributes in the order of the type, under
-- the names of the type, and the elements; an element that is NULL in a collection of objects comes
-- back as the element before it
inductive ReadsBack (c : ObjectClient) : LobSite → OciColumn → QoreValue → QoreValue → Prop
  | null {site : LobSite} {col : OciColumn} {v : QoreValue} : v.isNullOrNothing = true →
      ReadsBack c site col v .null
  | empty {site : LobSite} {name : Text} {ocode : Sqlt} {prec scale : ℤ} {v : QoreValue} :
      v.isNullOrNothing = false → (∀ s, bindScalar c.toScalarClient s ocode v = .ok none) →
      ReadsBack c site (.plain name ocode prec scale) v .null
  | scalar {site : LobSite} {name : Text} {ocode : Sqlt} {prec scale : ℤ} {v w : QoreValue}
      {x : Scalar} : v.isNullOrNothing = false →
      (∀ s, bindScalar c.toScalarClient s ocode v = .ok (some x)) → ocode.caseType = ocode.columnType →
      fetchScalar c.toScalarClient site ocode prec scale x = .ok w →
      ReadsBack c site (.plain name ocode prec scale) v w
  | object {site : LobSite} {name : Text} {typinf : TypeInfo} {h : List (Text × QoreValue)}
      {ws : ℕ → QoreValue} : typinf.collection = false → typinf.cols ≠ [] →
      ntyHashType h = oracleObject → ntyCheckType oracleObject h isHash = true →
      c.typeInfoGet (oraType h) = .ok typinf →
      (∀ (i : ℕ) col, typinf.cols[i]? = some col → ReadsBack c
        (objectSite typinf.schema typinf.name col.name) col
        (attributeValue (hashValues h) col.name) (ws i)) →
      ReadsBack c site (.named name typinf) (.hash h)
        (.hash (typinf.cols.mapIdx fun i col => (col.name, ws i)))
  | coll {site : LobSite} {name : Text} {typinf : TypeInfo} {col : OciColumn}
      {h : List (Text × QoreValue)} {ws : ℕ → QoreValue} : typinf.collection = true →
      typinf.cols = [col] → ntyHashType h = oracleCollection →
      ntyCheckType oracleCollection h QoreValue.isList = true →
      c.typeInfoGet (oraType h) = .ok typinf →
      (∀ (i : ℕ) v, (listValues h)[i]? = some v → v.isNullOrNothing = true → col.type = .object →
        ws i = before ws i) →
      (∀ (i : ℕ) v, (listValues h)[i]? = some v → (v.isNullOrNothing = true → col.type ≠ .object) →
        ReadsBack c (collectionSite typinf.schema typinf.name) col v (ws i)) →
      ReadsBack c site (.named name typinf) (.hash h) (.list ((listValues h).mapIdx fun i _ => ws i))

lemma ProperAll.mem {cols : List OciColumn} (h : ProperAll cols) {col : OciColumn} (hcol : col ∈ cols) :
    col.Proper := by
  induction cols with
  | nil => cases hcol
  | cons a cols ih =>
    rw [ProperAll] at h
    rcases List.mem_cons.mp hcol with rfl | hmem
    · exact h.1
    · exact ih h.2 hmem

lemma TypeInfo.Proper.names {typinf : TypeInfo} (h : typinf.Proper) : NamesDiffer typinf.cols := by
  cases typinf
  rw [TypeInfo.Proper] at h
  exact h.1

lemma TypeInfo.Proper.size {typinf : TypeInfo} (h : typinf.Proper) (hobj : typinf.collection = false) :
    typinf.indicators ≤ 2 ^ 16 := by
  obtain ⟨schema, name, collection, cols⟩ := typinf
  rw [TypeInfo.Proper] at h
  obtain rfl : collection = false := hobj
  exact h.2.1.resolve_left Bool.false_ne_true

lemma TypeInfo.Proper.mem {typinf : TypeInfo} (h : typinf.Proper) {col : OciColumn}
    (hcol : col ∈ typinf.cols) : col.Proper := by
  cases typinf
  rw [TypeInfo.Proper] at h
  exact h.2.2.mem hcol

section Example

def peopleType : TypeInfo := .mk [] "PEOPLE".toList true [.named [] addressType]

def exampleClient : ObjectClient where
  toScalarClient := textClient
  typeInfoGet t :=
    if t = "ADDRESS".toList then .ok addressType
    else if t = "PERSON".toList then .ok personType
    else if t = "PEOPLE".toList then .ok peopleType
    else .error .foreign
  objectNew typinf := .ok (fun _ => .notNull, typinf.cols.map fun _ => .unset)
  sameTdo _ _ := true
  copyOther _ _ := .error .foreign
  assignOther _ _ := .error .foreign

lemma exampleClient_lawful : exampleClient.Lawful := by
  refine ⟨fun typinf _ => ⟨_, _, rfl, nofun, List.length_map _⟩, fun _ => rfl⟩

def ntyHash (kind oratype : String) (values : QoreValue) : List (Text × QoreValue) :=
  [("type".toList, .string ⟨kind.toList, 0⟩), ("^oratype^".toList, .string ⟨oratype.toList, 0⟩),
    ("^values^".toList, values)]

def addressHash : List (Text × QoreValue) := ntyHash "OracleObject" "ADDRESS"
  (.hash [("street".toList, .string ⟨"Main".toList, 0⟩), ("TOWN".toList, .string ⟨"Ghent".toList, 0⟩)])

def addressValue : QoreValue := .hash
  [("STREET".toList, .string ⟨"Main".toList, 0⟩), ("TOWN".toList, .string ⟨"Ghent".toList, 0⟩)]

lemma address_readsBack (site : LobSite) (name : Text) :
    ReadsBack exampleClient site (.named name addressType) (.hash addressHash) addressValue := by
  let ws : ℕ → QoreValue
    | 0 => .string ⟨"Main".toList, 0⟩
    | _ => .string ⟨"Ghent".toList, 0⟩
  have h : ReadsBack exampleClient site (.named name addressType) (.hash addressHash)
      (.hash (addressType.cols.mapIdx fun i col => (col.name, ws i))) := by
    have hne : addressType.cols ≠ [] := List.cons_ne_nil _ _
    apply ReadsBack.object rfl hne rfl rfl rfl
    intro i col hi
    match i with
    | 0 =>
      obtain rfl := Option.some.inj hi
      exact .scalar (x := .text "Main".toList) rfl (fun _ => rfl) rfl rfl
    | 1 =>
      obtain rfl := Option.some.inj hi
      exact .scalar (x := .text "Ghent".toList) rfl (fun _ => rfl) rfl rfl
    | i + 2 => cases hi
  exact h

def personHash : List (Text × QoreValue) := ntyHash "OracleObject" "PERSON"
  (.hash [("NAME".toList, .string ⟨"Ann".toList, 0⟩), ("HOME".toList, .hash addressHash)])

def personValue : QoreValue := .hash
  [("NAME".toList, .string ⟨"Ann".toList, 0⟩), ("HOME".toList, addressValue)]

lemma person_readsBack (site : LobSite) (name : Text) :
    ReadsBack exampleClient site (.named name personType) (.hash personHash) personValue := by
  let ws : ℕ → QoreValue
    | 0 => .string ⟨"Ann".toList, 0⟩
    | _ => addressValue
  have h : ReadsBack exampleClient site (.named name personType) (.hash personHash)
      (.hash (personType.cols.mapIdx fun i col => (col.name, ws i))) := by
    have hne : personType.cols ≠ [] := List.cons_ne_nil _ _
    apply ReadsBack.object rfl hne rfl rfl rfl
    intro i col hi
    match i with
    | 0 =>
      obtain rfl := Option.some.inj hi
      exact .scalar (x := .text "Ann".toList) rfl (fun _ => rfl) rfl rfl
    | 1 =>
      obtain rfl := Option.some.inj hi
      exact address_readsBack _ _
    | i + 2 => cases hi
  exact h

def peopleHash : List (Text × QoreValue) := ntyHash "OracleCollection" "PEOPLE"
  (.list [.null, .hash addressHash, .nothing])

lemma peopleType_proper : peopleType.Proper := by
  simp [peopleType, addressType, TypeInfo.Proper, ProperAll, OciColumn.Proper, NamesDiffer, sameName,
    OciColumn.name, indicatorsBefore, OciColumn.indicators]

lemma peopleType_separate : peopleType.Separate := by
  simp [peopleType, addressType, TypeInfo.Separate, SeparateAll, OciColumn.Separate, OciColumn.type,
    Sqlt.columnType]

lemma people_element {i : ℕ} {v : QoreValue} (hi : (listValues peopleHash)[i]? = some v)
    (hv : v.isNullOrNothing = false) (site : LobSite) :
    ReadsBack exampleClient site (.named [] addressType) v addressValue := by
  match i with
  | 0 =>
    obtain rfl := Option.some.inj hi
    cases hv
  | 1 =>
    obtain rfl := Option.some.inj hi
    exact address_readsBack site []
  | 2 =>
    obtain rfl := Option.some.inj hi
    cases hv
  | i + 3 => cases hi

lemma people_readsBack (site : LobSite) (name : Text) :
    ReadsBack exampleClient site (.named name peopleType) (.hash peopleHash)
      (.list [.null, addressValue, addressValue]) := by
  let ws : ℕ → QoreValue
    | 0 => .null
    | _ => addressValue
  have h : ReadsBack exampleClient site (.named name peopleType) (.hash peopleHash)
      (.list ((listValues peopleHash).mapIdx fun i _ => ws i)) := by
    have hcols : peopleType.cols = [.named [] addressType] := rfl
    apply ReadsBack.coll rfl hcols rfl rfl rfl
    · intro i v hi hv _
      match i with
      | 0 => rfl
      | 1 =>
        obtain rfl := Option.some.inj hi
        cases hv
      | 2 => rfl
      | i + 3 => cases hi
    · intro i v hi hv
      have hnn : v.isNullOrNothing = false := by
        by_contra hnull
        exact hv (by rwa [Bool.not_eq_false] at hnull) rfl
      have helem := people_element hi hnn (collectionSite peopleType.schema peopleType.name)
      match i with
      | 0 =>
        obtain rfl := Option.some.inj hi
        cases hnn
      | i + 1 => exact helem
  exact h

end Example

section Bind

variable {site : LobSite} {name : Text} {typinf : TypeInfo} {h : List (Text × QoreValue)}
  {v w : QoreValue}

-- a binder for the depth of a value binds what is in it
lemma ReadsBack.written (hc : c.Lawful) (h : ReadsBack c site col v w) :
    col.Proper → ∀ n, v.depth ≤ n → Stores c (binder c n) site col v w := by
  induction h with
  | null hv =>
    intro _ n _
    exact .null hv
  | empty hv hbind =>
    intro _ n _
    exact .empty hv hbind
  | scalar hv hbind htype hfetch =>
    intro _ n _
    exact .scalar hv hbind htype hfetch
  | @object site name typinf h ws hobj hne hkind hcheck hinfo _ ih =>
    intro hproper n hn
    rw [OciColumn.Proper] at hproper
    have hdepth : (QoreValue.hash h).depth ≠ 0 := by
      rw [QoreValue.depth]
      omega
    obtain ⟨m, rfl⟩ : ∃ m, n = m + 1 := ⟨n - 1, by omega⟩
    obtain ⟨o, ho, htype, hatom, hholds⟩ := objBindQore_written (b := binder c m) hc hproper.names
      (hproper.size hobj) hobj hne hcheck hinfo fun i col hi => by
        have := depth_attributeValue h col.name
        exact ih i col hi (hproper.mem (List.mem_of_getElem? hi)) m (by omega)
    exact .object hkind hobj ho htype hatom hholds
  | @coll site name typinf col h ws hcoll hcol hkind hcheck hinfo hnull _ ih =>
    intro hproper n hn
    rw [OciColumn.Proper] at hproper
    have hdepth : (QoreValue.hash h).depth ≠ 0 := by
      rw [QoreValue.depth]
      omega
    obtain ⟨m, rfl⟩ : ∃ m, n = m + 1 := ⟨n - 1, by omega⟩
    have hmem : col ∈ typinf.cols := by
      rw [hcol]
      exact List.mem_singleton_self col
    obtain ⟨coll, hrun, htype, hholds⟩ :=
      collBindQore_written (b := binder c m) hc hcoll hcol hcheck hinfo
      fun i v hi => by
        have := depth_listValues (List.mem_of_getElem? hi)
        rw [ElementWritten]
        split
        · rename_i hv
          exact hnull i v hi hv.1 hv.2
        · rename_i hv
          exact ih i v hi (fun h₁ h₂ => hv ⟨h₁, h₂⟩) (hproper.mem hmem) m (by omega)
    exact .coll hkind hcoll hrun htype hholds

lemma bindOracleObject_holds (hc : c.Lawful) (hproper : typinf.Proper) (hobj : typinf.collection = false)
    (hw : ReadsBack c site (.named name typinf) (.hash h) w) :
    ∃ o, bindOracleObject c h = .ok o ∧ o.typinf = typinf ∧ o.Holds c.toScalarClient w := by
  have hcol : (OciColumn.named name typinf).Proper := by rwa [OciColumn.Proper]
  have hwritten := hw.written hc hcol _ le_rfl
  cases hwritten with
  | null hv => cases hv
  | object _ _ hbind htype _ hholds => exact ⟨_, hbind, htype, hholds⟩
  | coll _ hcoll =>
    rw [hobj] at hcoll
    cases hcoll

lemma bindOracleCollection_holds (hc : c.Lawful) (hproper : typinf.Proper)
    (hcoll : typinf.collection = true) (hw : ReadsBack c site (.named name typinf) (.hash h) w) :
    ∃ coll, bindOracleCollection c h = .ok coll ∧ coll.typinf = typinf ∧
      coll.Holds c.toScalarClient w := by
  have hcol : (OciColumn.named name typinf).Proper := by rwa [OciColumn.Proper]
  have hwritten := hw.written hc hcol _ le_rfl
  cases hwritten with
  | null hv => cases hv
  | object _ hobj =>
    rw [hcoll] at hobj
    cases hobj
  | coll _ _ hbind htype hholds => exact ⟨_, hbind, htype, hholds⟩

-- an object of a proper type that is bound holds the value, and it is read back as it if and only if
-- it is legible
theorem bindOracleObject_objToQore (hc : c.Lawful) (hproper : typinf.Proper)
    (hobj : typinf.collection = false) (hw : ReadsBack c site (.named name typinf) (.hash h) w) :
    ∃ o, bindOracleObject c h = .ok o ∧ o.typinf = typinf ∧ o.Holds c.toScalarClient w ∧
      (objToQore c.toScalarClient o = .ok w ↔ o.Legible) := by
  obtain ⟨o, ho, rfl, hholds⟩ := bindOracleObject_holds hc hproper hobj hw
  exact ⟨o, ho, rfl, hholds, o.typinf.read_eq_iff hproper _ _ _ _ hholds⟩

theorem bindOracleObject_objToQore_person : ∃ o, bindOracleObject exampleClient personHash = .ok o ∧
    o.typinf = personType ∧ o.Holds exampleClient.toScalarClient personValue ∧
    (objToQore exampleClient.toScalarClient o = .ok personValue ↔ o.Legible) :=
  bindOracleObject_objToQore exampleClient_lawful personType_proper rfl
    (person_readsBack (objectSite [] [] []) [])

lemma objToQore_separate (hc : c.Lawful) (hproper : typinf.Proper) (hsep : typinf.Separate)
    (hobj : typinf.collection = false) (hw : ReadsBack c site (.named name typinf) (.hash h) w) :
    ∃ o, bindOracleObject c h = .ok o ∧ objToQore c.toScalarClient o = .ok w := by
  obtain ⟨o, ho, rfl, hholds⟩ := bindOracleObject_holds hc hproper hobj hw
  refine ⟨o, ho, (o.typinf.read_eq_iff hproper _ _ _ _ hholds).mpr ?_⟩
  exact TypeInfo.Separate.legible o.typinf hproper hsep _ _ _ (.inr rfl)

lemma collToQore_separate (hc : c.Lawful) (hproper : typinf.Proper) (hsep : typinf.Separate)
    (hcoll : typinf.collection = true) (hw : ReadsBack c site (.named name typinf) (.hash h) w) :
    ∃ coll, bindOracleCollection c h = .ok coll ∧ collToQore c.toScalarClient coll = .ok w := by
  obtain ⟨coll, hbind, rfl, hholds⟩ := bindOracleCollection_holds hc hproper hcoll hw
  refine ⟨coll, hbind, (coll.typinf.read_eq_iff hproper _ _ _ _ hholds).mpr ?_⟩
  exact TypeInfo.Separate.legible coll.typinf hproper hsep _ _ _ (.inl hcoll)

-- of proper types where no object is an attribute of another one, the value that the single attributes
-- and elements read back as is read back
theorem separate_readsBack (hc : c.Lawful) (hproper : typinf.Proper) (hsep : typinf.Separate)
    (hw : ReadsBack c site (.named name typinf) (.hash h) w) :
    (typinf.collection = false →
      ∃ o, bindOracleObject c h = .ok o ∧ objToQore c.toScalarClient o = .ok w) ∧
    (typinf.collection = true →
      ∃ coll, bindOracleCollection c h = .ok coll ∧ collToQore c.toScalarClient coll = .ok w) :=
  ⟨fun hobj => objToQore_separate hc hproper hsep hobj hw,
    fun hcoll => collToQore_separate hc hproper hsep hcoll hw⟩

theorem separate_readsBack_people :
    ∃ coll, bindOracleCollection exampleClient peopleHash = .ok coll ∧
      collToQore exampleClient.toScalarClient coll =
        .ok (.list [.null, addressValue, addressValue]) :=
  (separate_readsBack exampleClient_lawful peopleType_proper peopleType_separate
    (people_readsBack (collectionSite [] []) [])).2 rfl

end Bind

section NullElements

-- no element or a NULL element
def nullAt (l : List QoreValue) (i : ℕ) : Bool := (l[i]?.getD .nothing).isNullOrNothing

-- what elements that are objects come back as, from what they are
def carried (l : List QoreValue) (vs : ℕ → QoreValue) : ℕ → QoreValue
  | 0 => if nullAt l 0 then .null else vs 0
  | i + 1 => if nullAt l (i + 1) then carried l vs i else vs (i + 1)

variable {l : List QoreValue} {vs : ℕ → QoreValue} {i k : ℕ}

lemma carried_of_null (h : nullAt l i = true) : carried l vs i = before (carried l vs) i := by
  cases i with
  | zero => exact if_pos h
  | succ i => exact if_pos h

lemma carried_of_value (h : nullAt l i = false) : carried l vs i = vs i := by
  cases i with
  | zero => exact if_neg (ne_true_of_eq_false h)
  | succ i => exact if_neg (ne_true_of_eq_false h)

-- NULL elements behind an object are copies of it
lemma carried_eq (hk : nullAt l k = false) (hki : k ≤ i)
    (hnull : ∀ m, k < m → m ≤ i → nullAt l m = true) :
    carried l vs i = vs k := by
  induction i, hki using Nat.le_induction with
  | base => exact carried_of_value hk
  | succ i hki ih =>
    rw [carried_of_null (hnull (i + 1) (by omega) le_rfl), before]
    exact ih fun m hm hmi => hnull m hm (by omega)

lemma carried_eq_null_iff (hvs : ∀ i, nullAt l i = false → vs i ≠ .null) :
    carried l vs i = .null ↔ ∀ k ≤ i, nullAt l k = true := by
  induction i with
  | zero =>
    cases h : nullAt l 0 with
    | true =>
      rw [carried_of_null h]
      refine iff_of_true rfl fun k hk => ?_
      rwa [Nat.le_zero.mp hk]
    | false =>
      rw [carried_of_value h]
      apply iff_of_false (hvs 0 h)
      intro hall
      rw [hall 0 le_rfl] at h
      cases h
  | succ i ih =>
    cases h : nullAt l (i + 1) with
    | true =>
      rw [carried_of_null h, before, ih]
      constructor
      · intro hall k hk
        rcases Nat.le_or_eq_of_le_succ hk with hk | rfl
        · exact hall k hk
        · exact h
      · intro hall k hk
        exact hall k (by omega)
    | false =>
      rw [carried_of_value h]
      apply iff_of_false (hvs _ h)
      intro hall
      rw [hall (i + 1) le_rfl] at h
      cases h

variable {site : LobSite} {typinf : TypeInfo} {h : List (Text × QoreValue)}

lemma ReadsBack.ne_null {v w : QoreValue} (hcol : col.type = .object) (hv : v.isNullOrNothing = false)
    (h : ReadsBack c site col v w) : w ≠ .null := by
  cases h with
  | null hnull =>
    rw [hv] at hnull
    cases hnull
  | @empty _ _ ocode => cases ocode <;> cases hcol
  | @scalar _ _ ocode => cases ocode <;> cases hcol
  | object => nofun
  | coll => nofun

-- in a collection of objects of a proper type, a NULL element is NULL afterwards if and only if no
-- object stands before it, and otherwise it is a copy of the last one
theorem bindOracleCollection_null (hc : c.Lawful) (hproper : typinf.Proper)
    (hcoll : typinf.collection = true) (hcol : typinf.cols = [col]) (htype : col.type = .object)
    (hkind : ntyHashType h = oracleCollection)
    (hcheck : ntyCheckType oracleCollection h QoreValue.isList = true)
    (hinfo : c.typeInfoGet (oraType h) = .ok typinf)
    (hvs : ∀ (i : ℕ) v, (listValues h)[i]? = some v → v.isNullOrNothing = false →
      ReadsBack c (collectionSite typinf.schema typinf.name) col v (vs i)) :
    ∃ coll, bindOracleCollection c h = .ok coll ∧ ∃ ws : List QoreValue,
      coll.Holds c.toScalarClient (.list ws) ∧ ws.length = (listValues h).length ∧
      ∀ (i : ℕ) w, ws[i]? = some w →
        (nullAt (listValues h) i = false → w = vs i) ∧
        (w = .null ↔ ∀ k ≤ i, nullAt (listValues h) k = true) ∧
        (∀ k < i, nullAt (listValues h) k = false →
          (∀ m, k < m → m ≤ i → nullAt (listValues h) m = true) →
          w = vs k) := by
  have hnullAt : ∀ (i : ℕ) v, (listValues h)[i]? = some v →
      nullAt (listValues h) i = v.isNullOrNothing := by
    intro i v hi
    rw [nullAt, hi, Option.getD_some]
  have hback : ReadsBack c (collectionSite [] []) (.named [] typinf) (.hash h)
      (.list ((listValues h).mapIdx fun i _ => carried (listValues h) vs i)) := by
    apply ReadsBack.coll hcoll hcol hkind hcheck hinfo
    · intro i v hi hv _
      exact carried_of_null (by rwa [hnullAt i v hi])
    · intro i v hi hv
      have hnn : v.isNullOrNothing = false := by
        by_contra hnull
        exact hv (by rwa [Bool.not_eq_false] at hnull) htype
      rw [carried_of_value (by rwa [hnullAt i v hi])]
      exact hvs i v hi hnn
  have hne : ∀ i, nullAt (listValues h) i = false → vs i ≠ .null := by
    intro i hi
    cases hv : (listValues h)[i]? with
    | none =>
      rw [nullAt, hv] at hi
      cases hi
    | some v =>
      rw [hnullAt i v hv] at hi
      exact (hvs i v hv hi).ne_null htype hi
  obtain ⟨coll, hbind, -, hholds⟩ := bindOracleCollection_holds hc hproper hcoll hback
  refine ⟨coll, hbind, _, hholds, List.length_mapIdx, ?_⟩
  intro i w hw
  rw [List.getElem?_mapIdx] at hw
  obtain ⟨_, -, rfl⟩ := Option.map_eq_some_iff.mp hw
  refine ⟨carried_of_value, carried_eq_null_iff hne, ?_⟩
  intro k hki hk hnull
  exact carried_eq hk hki.le hnull

theorem bindOracleCollection_null_people :
    ∃ coll, bindOracleCollection exampleClient peopleHash = .ok coll ∧ ∃ ws : List QoreValue,
      coll.Holds exampleClient.toScalarClient (.list ws) ∧ ws.length = (listValues peopleHash).length ∧
      ∀ (i : ℕ) w, ws[i]? = some w →
        (nullAt (listValues peopleHash) i = false → w = addressValue) ∧
        (w = .null ↔ ∀ k ≤ i, nullAt (listValues peopleHash) k = true) ∧
        (∀ k < i, nullAt (listValues peopleHash) k = false →
          (∀ m, k < m → m ≤ i → nullAt (listValues peopleHash) m = true) → w = addressValue) :=
  bindOracleCollection_null exampleClient_lawful peopleType_proper rfl rfl rfl rfl rfl rfl
    fun _ _ hi hv => people_element hi hv _

end NullElements

end OracleDriver
