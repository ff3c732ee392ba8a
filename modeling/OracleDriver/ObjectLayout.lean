import OracleDriver.Library.StructLayout
import OracleDriver.ObjectTypes

/-! Where the attributes of an object are in memory: the offsets that are computed for a type, and
those of a structure in C with the same members. -/

namespace OracleDriver

open StructLayout

/-- Sizes and alignments of what attributes are in memory; an OCINumber is an array of bytes. -/
structure Abi where
  number : ℕ
  date : ℕ
  dateAlign : ℕ
  pointer : ℕ
  dateAlign_pos : 0 < dateAlign
  pointer_pos : 0 < pointer
  number_dvd : dateAlign ∣ number
  date_dvd : dateAlign ∣ date
  pointer_dvd : dateAlign ∣ pointer

-- OCI_OFT_*
inductive OffsetType where
  | pointer
  | number
  | date
  | object
deriving DecidableEq, Repr

-- the pairs of OCI_OFFSET_PAIR() between which the size is rounded up
def pads (type1 : OffsetType) (type2 : Option OffsetType) : Bool :=
  type1 ≠ .pointer && type2 = some .pointer

@[simp] lemma pads_none (type1 : OffsetType) : pads type1 none = false := Bool.and_false _

section Layout

variable (abi : Abi)

-- the size after an attribute, from the one before it and the type of the next attribute
def nextSize (size : ℕ) (info : ℕ × OffsetType) (next : Option OffsetType) : ℕ :=
  if pads info.2 next then roundUp (size + info.1) abi.pointer else size + info.1

-- the loop of OCI_ObjectGetStructSize(): the offsets and the size
def layoutLoop : ℕ → List (ℕ × OffsetType) → List ℕ × ℕ
  | size, [] => ([], size)
  | size, info :: infos =>
    let rest := layoutLoop (nextSize abi size info (infos.head?.map (·.2))) infos
    (size :: rest.1, rest.2)

mutual

def TypeInfo.structSize : TypeInfo → ℕ
  | .mk _ _ _ cols => (layoutLoop abi 0 (attrInfos cols)).2

def attrInfos : List OciColumn → List (ℕ × OffsetType)
  | [] => []
  | col :: cols => col.attrInfo :: attrInfos cols

-- OCI_ObjectGetAttrInfo()
def OciColumn.attrInfo : OciColumn → ℕ × OffsetType
  | .plain _ ocode _ _ =>
    match ocode.columnType with
    | .numeric => (abi.number, .number)
    | .datetime => (abi.date, .date)
    | _ => (abi.pointer, .pointer)
  | .named _ typinf =>
    if typinf.collection then (abi.pointer, .pointer) else (typinf.structSize, .object)

end

-- the sizes before the attributes
def TypeInfo.starts (typinf : TypeInfo) : List ℕ :=
  (layoutLoop abi 0 (attrInfos abi typinf.cols)).1

-- `offsets` of a type is an array of int, and OCI_ObjectGetAttr() makes a size_t of what is in it
def intOffset (size : ℕ) : ℕ :=
  if size % 2 ^ 32 < 2 ^ 31 then size % 2 ^ 32 else 2 ^ 64 - 2 ^ 32 + size % 2 ^ 32

def TypeInfo.offsets (typinf : TypeInfo) : List ℕ := (typinf.starts abi).map intOffset

end Layout

-- the attribute at the end of a path from a root object, with the number of bytes before it
def attrAt (offsets : TypeInfo → List ℕ) (typinf : TypeInfo) : List ℕ → Option (ℕ × OciColumn)
  | [] => none
  | index :: path => do
    let off ← (offsets typinf)[index]?
    let col ← typinf.cols[index]?
    if path = [] then
      some (off, col)
    else
      let sub ← col.embedded
      let attr ← attrAt offsets sub path
      some (off + attr.1, attr.2)

section Structure

variable (abi : Abi)

mutual

-- the members of the structure of a type
def TypeInfo.members : TypeInfo → List Member
  | .mk _ _ _ cols => colMembers cols

def colMembers : List OciColumn → List Member
  | [] => []
  | col :: cols => col.member :: colMembers cols

def OciColumn.member : OciColumn → Member
  | .plain _ ocode _ _ =>
    match ocode.columnType with
    | .numeric => ⟨abi.number, 1⟩
    | .datetime => ⟨abi.date, abi.dateAlign⟩
    | _ => ⟨abi.pointer, abi.pointer⟩
  | .named _ typinf =>
    if typinf.collection then ⟨abi.pointer, abi.pointer⟩
    else ⟨StructLayout.size typinf.members, align typinf.members⟩

end

def TypeInfo.structOffsets (typinf : TypeInfo) : List ℕ :=
  StructLayout.offsets 0 (typinf.members abi)

-- the objects among attributes start at multiples of their alignment, and padding at the end of
-- one makes no difference to the next attribute
def AlignedFrom : ℕ → List OciColumn → Prop
  | _, [] => True
  | size, col :: cols =>
    (∀ sub ∈ col.embedded, align (sub.members abi) ∣ size ∧
      (cols = [] ∨ cols.head?.map (fun next => (next.attrInfo abi).2) = some .pointer ∨
        align (sub.members abi) ∣ sub.structSize abi)) ∧
      AlignedFrom
        (nextSize abi size (col.attrInfo abi) (cols.head?.map fun next => (next.attrInfo abi).2)) cols

mutual

def TypeInfo.Aligned : TypeInfo → Prop
  | .mk _ _ _ cols => AlignedFrom abi 0 cols ∧ ObjectsAligned cols

def ObjectsAligned : List OciColumn → Prop
  | [] => True
  | col :: cols => col.Aligned ∧ ObjectsAligned cols

def OciColumn.Aligned : OciColumn → Prop
  | .plain .. => True
  | .named _ typinf => typinf.collection = false → typinf.Aligned

end

end Structure

section Slots

variable {abi : Abi}

lemma attrInfos_getElem? (cols : List OciColumn) (i : ℕ) :
    (attrInfos abi cols)[i]? = cols[i]?.map (OciColumn.attrInfo abi) := by
  induction cols generalizing i with
  | nil => rfl
  | cons col cols ih =>
    cases i with
    | zero => rfl
    | succ i => rw [attrInfos, List.getElem?_cons_succ, List.getElem?_cons_succ, ih]

variable (abi) in
lemma le_nextSize (size : ℕ) (info : ℕ × OffsetType) (next : Option OffsetType) :
    size + info.1 ≤ nextSize abi size info next := by
  rw [nextSize]
  split
  · exact le_roundUp abi.pointer_pos _
  · exact le_rfl

lemma le_layoutLoop (infos : List (ℕ × OffsetType)) (size : ℕ) :
    size ≤ (layoutLoop abi size infos).2 := by
  induction infos generalizing size with
  | nil => exact le_rfl
  | cons info infos ih =>
    have hnext := le_nextSize abi size info (infos.head?.map (·.2))
    have hrest := ih (nextSize abi size info (infos.head?.map (·.2)))
    rw [layoutLoop]
    dsimp only
    omega

lemma layoutLoop_start {infos : List (ℕ × OffsetType)} {size i off : ℕ}
    (h : (layoutLoop abi size infos).1[i]? = some off) : size ≤ off := by
  induction infos generalizing size i with
  | nil => cases h
  | cons info infos ih =>
    cases i with
    | zero => exact (Option.some.inj h).le
    | succ i =>
      have hnext := le_nextSize abi size info (infos.head?.map (·.2))
      have hrest := ih h
      omega

lemma layoutLoop_length (infos : List (ℕ × OffsetType)) (size : ℕ) :
    (layoutLoop abi size infos).1.length = infos.length := by
  induction infos generalizing size with
  | nil => rfl
  | cons info infos ih => rw [layoutLoop, List.length_cons, List.length_cons, ih]

lemma layoutLoop_end {infos : List (ℕ × OffsetType)} {size i off : ℕ} {info : ℕ × OffsetType}
    (h : (layoutLoop abi size infos).1[i]? = some off) (hi : infos[i]? = some info) :
    off + info.1 ≤ (layoutLoop abi size infos).2 := by
  induction infos generalizing size i with
  | nil => cases h
  | cons first infos ih =>
    cases i with
    | zero =>
      obtain rfl := Option.some.inj h
      obtain rfl := Option.some.inj hi
      exact (le_nextSize abi size first _).trans (le_layoutLoop infos _)
    | succ i => exact ih h hi

lemma layoutLoop_lt {infos : List (ℕ × OffsetType)} {size i j off off' : ℕ}
    {info : ℕ × OffsetType} (hij : i < j) (h : (layoutLoop abi size infos).1[i]? = some off)
    (hi : infos[i]? = some info)
    (h' : (layoutLoop abi size infos).1[j]? = some off') : off + info.1 ≤ off' := by
  induction infos generalizing size i j with
  | nil => cases h
  | cons first infos ih =>
    cases j with
    | zero => cases hij
    | succ j =>
      cases i with
      | zero =>
        obtain rfl := Option.some.inj h
        obtain rfl := Option.some.inj hi
        exact (le_nextSize abi size first _).trans (layoutLoop_start h')
      | succ i => exact ih (by omega) h hi h'

lemma attrInfo_of_embedded {col : OciColumn} {sub : TypeInfo} (h : col.embedded = some sub) :
    col.attrInfo abi = (sub.structSize abi, .object) := by
  cases col with
  | plain name ocode type handletype => cases h
  | named name typinf =>
    rw [OciColumn.embedded] at h
    split at h
    · cases h
    · rename_i hobject
      obtain rfl := Option.some.inj h
      rw [OciColumn.attrInfo, if_neg hobject]

lemma attrAt_cons_eq_some {offsets : TypeInfo → List ℕ} {typinf : TypeInfo} {i j : ℕ}
    {path : List ℕ} {attr : ℕ × OciColumn} :
    attrAt offsets typinf (i :: j :: path) = some attr ↔
      ∃ off col sub inner, (offsets typinf)[i]? = some off ∧ typinf.cols[i]? = some col ∧
        col.embedded = some sub ∧ attrAt offsets sub (j :: path) = some inner ∧
        (off + inner.1, inner.2) = attr := by
  rw [attrAt]
  simp only [List.cons_ne_nil, if_false, Option.bind_eq_bind, Option.bind_eq_some_iff,
    Option.some.injEq]
  constructor
  · rintro ⟨off, hoff, col, hcol, sub, hsub, inner, hinner, rfl⟩
    exact ⟨off, col, sub, inner, hoff, hcol, hsub, hinner, rfl⟩
  · rintro ⟨off, col, sub, inner, hoff, hcol, hsub, hinner, rfl⟩
    exact ⟨off, hoff, col, hcol, sub, hsub, inner, hinner, rfl⟩

lemma attrAt_singleton_eq_some {offsets : TypeInfo → List ℕ} {typinf : TypeInfo} {i : ℕ}
    {attr : ℕ × OciColumn} :
    attrAt offsets typinf [i] = some attr ↔
      (offsets typinf)[i]? = some attr.1 ∧ typinf.cols[i]? = some attr.2 := by
  rw [attrAt]
  simp only [if_true, Option.bind_eq_bind, Option.bind_eq_some_iff, Option.some.injEq]
  constructor
  · rintro ⟨off, hoff, col, hcol, rfl⟩
    exact ⟨hoff, hcol⟩
  · rintro ⟨hoff, hcol⟩
    exact ⟨attr.1, hoff, attr.2, hcol, rfl⟩

lemma attrAt_end {path : List ℕ} {typinf : TypeInfo} {attr : ℕ × OciColumn}
    (h : attrAt (TypeInfo.starts abi) typinf path = some attr) :
    attr.1 + (attr.2.attrInfo abi).1 ≤ typinf.structSize abi := by
  induction path generalizing typinf attr with
  | nil => cases h
  | cons i path ih =>
    obtain ⟨name, collection, base, cols⟩ := typinf
    rw [TypeInfo.structSize]
    cases path with
    | nil =>
      obtain ⟨hoff, hcol⟩ := attrAt_singleton_eq_some.mp h
      apply layoutLoop_end hoff
      rw [attrInfos_getElem?]
      exact congrArg _ hcol
    | cons j path =>
      obtain ⟨off, col, sub, inner, hoff, hcol, hsub, hinner, rfl⟩ := attrAt_cons_eq_some.mp h
      have hinside := ih hinner
      have hend : off + (col.attrInfo abi).1 ≤ (layoutLoop abi 0 (attrInfos abi cols)).2 := by
        apply layoutLoop_end hoff
        rw [attrInfos_getElem?]
        exact congrArg _ hcol
      rw [attrInfo_of_embedded hsub] at hend
      dsimp only at hend ⊢
      omega

lemma attrAt_root {i : ℕ} {path : List ℕ} {typinf : TypeInfo} {attr : ℕ × OciColumn}
    (h : attrAt (TypeInfo.starts abi) typinf (i :: path) = some attr) :
    ∃ off col, (typinf.starts abi)[i]? = some off ∧ typinf.cols[i]? = some col ∧ off ≤ attr.1 ∧
      attr.1 + (attr.2.attrInfo abi).1 ≤ off + (col.attrInfo abi).1 := by
  cases path with
  | nil =>
    obtain ⟨hoff, hcol⟩ := attrAt_singleton_eq_some.mp h
    exact ⟨attr.1, attr.2, hoff, hcol, le_rfl, le_rfl⟩
  | cons j path =>
    obtain ⟨off, col, sub, inner, hoff, hcol, hsub, hinner, rfl⟩ := attrAt_cons_eq_some.mp h
    have hinside := attrAt_end hinner
    refine ⟨off, col, hoff, hcol, Nat.le_add_right _ _, ?_⟩
    rw [attrInfo_of_embedded hsub]
    dsimp only
    omega

lemma attrAt_lt {i i' : ℕ} {path path' : List ℕ} {typinf : TypeInfo} {attr attr' : ℕ × OciColumn}
    (hi : i < i') (h : attrAt (TypeInfo.starts abi) typinf (i :: path) = some attr)
    (h' : attrAt (TypeInfo.starts abi) typinf (i' :: path') = some attr') :
    attr.1 + (attr.2.attrInfo abi).1 ≤ attr'.1 := by
  obtain ⟨off, col, hoff, hcol, hstart, hend⟩ := attrAt_root h
  obtain ⟨off', col', hoff', hcol', hstart', hend'⟩ := attrAt_root h'
  have hinfo : (attrInfos abi typinf.cols)[i]? = some (col.attrInfo abi) := by
    rw [attrInfos_getElem?, hcol]
    rfl
  have hlt := layoutLoop_lt hi hoff hinfo hoff'
  omega

lemma attrAt_disjoint {typinf : TypeInfo} {path path' : List ℕ} {attr attr' : ℕ × OciColumn}
    (h : attrAt (TypeInfo.starts abi) typinf path = some attr)
    (h' : attrAt (TypeInfo.starts abi) typinf path' = some attr')
    (hpath : ¬ path <+: path') (hpath' : ¬ path' <+: path) :
    attr.1 + (attr.2.attrInfo abi).1 ≤ attr'.1 ∨ attr'.1 + (attr'.2.attrInfo abi).1 ≤ attr.1 := by
  induction path generalizing typinf path' attr attr' with
  | nil => exact absurd List.nil_prefix hpath
  | cons i path ih =>
    cases path' with
    | nil => exact absurd List.nil_prefix hpath'
    | cons i' path' =>
      rcases Nat.lt_trichotomy i i' with hi | rfl | hi
      · exact .inl (attrAt_lt hi h h')
      · rw [List.cons_prefix_cons] at hpath hpath'
        cases path with
        | nil => exact absurd ⟨rfl, List.nil_prefix⟩ hpath
        | cons j path =>
          cases path' with
          | nil => exact absurd ⟨rfl, List.nil_prefix⟩ hpath'
          | cons j' path' =>
            obtain ⟨off, col, sub, inner, hoff, hcol, hsub, hinner, rfl⟩ :=
              attrAt_cons_eq_some.mp h
            obtain ⟨off', col', sub', inner', hoff', hcol', hsub', hinner', rfl⟩ :=
              attrAt_cons_eq_some.mp h'
            obtain rfl := Option.some.inj (hoff.symm.trans hoff')
            obtain rfl := Option.some.inj (hcol.symm.trans hcol')
            obtain rfl := Option.some.inj (hsub.symm.trans hsub')
            have hrest := ih hinner hinner' (fun hp => hpath ⟨rfl, hp⟩) fun hp => hpath' ⟨rfl, hp⟩
            dsimp only at hrest ⊢
            omega
      · exact .inr (attrAt_lt hi h' h)

-- the same attributes at the same offsets
def SameLayout (offs offs' : TypeInfo → List ℕ) (typinf : TypeInfo) : Prop :=
  ∀ path, attrAt offs typinf path = attrAt offs' typinf path

lemma sameLayout_of_embedded {offs offs' : TypeInfo → List ℕ} {typinf : TypeInfo}
    (hoffs : offs typinf = offs' typinf)
    (h : ∀ col ∈ typinf.cols, ∀ sub, col.embedded = some sub → SameLayout offs offs' sub) :
    SameLayout offs offs' typinf := by
  intro path
  apply Option.ext
  intro attr
  cases path with
  | nil => rfl
  | cons i path =>
    cases path with
    | nil => rw [attrAt_singleton_eq_some, attrAt_singleton_eq_some, hoffs]
    | cons j path =>
      rw [attrAt_cons_eq_some, attrAt_cons_eq_some, hoffs]
      constructor
      · rintro ⟨off, col, sub, inner, hoff, hcol, hsub, hinner, hattr⟩
        rw [h col (List.mem_of_getElem? hcol) sub hsub] at hinner
        exact ⟨off, col, sub, inner, hoff, hcol, hsub, hinner, hattr⟩
      · rintro ⟨off, col, sub, inner, hoff, hcol, hsub, hinner, hattr⟩
        rw [← h col (List.mem_of_getElem? hcol) sub hsub] at hinner
        exact ⟨off, col, sub, inner, hoff, hcol, hsub, hinner, hattr⟩

lemma embedded_structSize_le {cols : List OciColumn} {col : OciColumn} {sub : TypeInfo}
    (hcol : col ∈ cols) (hsub : col.embedded = some sub) :
    sub.structSize abi ≤ (layoutLoop abi 0 (attrInfos abi cols)).2 := by
  obtain ⟨i, hi⟩ := List.mem_iff_getElem?.mp hcol
  have hinfo : (attrInfos abi cols)[i]? = some (col.attrInfo abi) := by
    rw [attrInfos_getElem?, hi]
    rfl
  obtain ⟨off, hoff⟩ : ∃ off, (layoutLoop abi 0 (attrInfos abi cols)).1[i]? = some off := by
    have hlt := (List.getElem?_eq_some_iff.mp hinfo).choose
    exact ⟨_, List.getElem?_eq_getElem (by rwa [layoutLoop_length])⟩
  have hend := layoutLoop_end hoff hinfo
  rw [attrInfo_of_embedded hsub] at hend
  exact (Nat.le_add_left _ _).trans hend

lemma offsets_eq_starts {typinf : TypeInfo} (h : typinf.structSize abi < 2 ^ 31) :
    typinf.offsets abi = typinf.starts abi := by
  obtain ⟨schema, name, collection, cols⟩ := typinf
  refine (List.map_congr_left ?_).trans (List.map_id _)
  intro off hoff
  obtain ⟨i, hi⟩ := List.mem_iff_getElem?.mp hoff
  rw [TypeInfo.starts] at hi
  have hlt := (List.getElem?_eq_some_iff.mp hi).choose
  rw [layoutLoop_length] at hlt
  have hend := layoutLoop_end hi (List.getElem?_eq_getElem hlt)
  rw [TypeInfo.structSize] at h
  dsimp only [TypeInfo.cols] at hend
  rw [intOffset, Nat.mod_eq_of_lt (by omega), if_pos (by omega), id_eq]

mutual

lemma TypeInfo.sameLayout_starts : ∀ typinf : TypeInfo, typinf.structSize abi < 2 ^ 31 →
    SameLayout (TypeInfo.offsets abi) (TypeInfo.starts abi) typinf
  | .mk schema name collection cols => by
    intro h
    apply sameLayout_of_embedded
    · exact offsets_eq_starts h
    · intro col hcol sub hsub
      rw [TypeInfo.structSize] at h
      have hmem : col ∈ cols := hcol
      exact sameLayout_starts_all cols col hmem sub hsub
        ((embedded_structSize_le hmem hsub).trans_lt h)

lemma sameLayout_starts_all : ∀ cols : List OciColumn, ∀ col ∈ cols, ∀ sub,
    col.embedded = some sub → sub.structSize abi < 2 ^ 31 →
      SameLayout (TypeInfo.offsets abi) (TypeInfo.starts abi) sub
  | [] => List.forall_mem_nil _
  | col :: cols => by
    rw [List.forall_mem_cons]
    exact ⟨col.sameLayout_starts, sameLayout_starts_all cols⟩

lemma OciColumn.sameLayout_starts : ∀ col : OciColumn, ∀ sub,
    col.embedded = some sub → sub.structSize abi < 2 ^ 31 →
      SameLayout (TypeInfo.offsets abi) (TypeInfo.starts abi) sub
  | .plain _ _ _ _ => by
    rintro _ ⟨⟩
  | .named name typinf => by
    intro sub hsub
    rw [OciColumn.embedded] at hsub
    split at hsub
    · cases hsub
    · obtain rfl := Option.some.inj hsub
      exact typinf.sameLayout_starts

end

-- every attribute of an object of less than 2 GiB has bytes of its own in the structure, those of the
-- attributes inside of it apart
theorem attrAt_slots (abi : Abi) {typinf : TypeInfo} (hsize : typinf.structSize abi < 2 ^ 31) :
    (∀ path attr, attrAt (TypeInfo.offsets abi) typinf path = some attr →
      attr.1 + (attr.2.attrInfo abi).1 ≤ typinf.structSize abi) ∧
    ∀ path path' attr attr', attrAt (TypeInfo.offsets abi) typinf path = some attr →
      attrAt (TypeInfo.offsets abi) typinf path' = some attr' → ¬ path <+: path' →
        ¬ path' <+: path → attr.1 + (attr.2.attrInfo abi).1 ≤ attr'.1 ∨
          attr'.1 + (attr'.2.attrInfo abi).1 ≤ attr.1 := by
  have hsame := typinf.sameLayout_starts hsize
  constructor
  · intro path attr h
    rw [hsame] at h
    exact attrAt_end h
  · intro path path' attr attr' h h' hpath hpath'
    rw [hsame] at h h'
    exact attrAt_disjoint h h' hpath hpath'

-- a string in an object that comes after a number
def exampleAbi : Abi :=
  ⟨22, 8, 2, 8, Nat.zero_lt_two, Nat.zero_lt_succ 7, ⟨11, rfl⟩, ⟨4, rfl⟩, ⟨4, rfl⟩⟩

def accountType : TypeInfo :=
  .mk [] [] false [.plain [] .num 0 0, .named [] (.mk [] [] false [.plain [] .chr 0 0])]

theorem attrAt_slots_account : 22 + 8 ≤ accountType.structSize exampleAbi := by
  have hattr : attrAt (TypeInfo.offsets exampleAbi) accountType [1, 0] =
      some (22, .plain [] .chr 0 0) := rfl
  exact (attrAt_slots exampleAbi (by decide)).1 [1, 0] _ hattr

end Slots

section Agreement

variable (abi : Abi)

-- the alignments there are
def IsAlignment (a : ℕ) : Prop := a = 1 ∨ a = abi.dateAlign ∨ a = abi.pointer

variable {abi} {a b : ℕ}

lemma IsAlignment.pos (h : IsAlignment abi a) : 0 < a := by
  have hdate := abi.dateAlign_pos
  have hpointer := abi.pointer_pos
  rcases h with rfl | rfl | rfl <;> omega

lemma IsAlignment.dvd_pointer (h : IsAlignment abi a) : a ∣ abi.pointer := by
  rcases h with rfl | rfl | rfl
  · exact Nat.one_dvd _
  · exact abi.pointer_dvd
  · exact Nat.dvd_refl _

lemma IsAlignment.max (ha : IsAlignment abi a) (hb : IsAlignment abi b) :
    IsAlignment abi (max a b) := by
  rcases Nat.le_total a b with hab | hab
  · rwa [Nat.max_eq_right hab]
  · rwa [Nat.max_eq_left hab]

lemma IsAlignment.dvd_of_le (ha : IsAlignment abi a) (hb : IsAlignment abi b) (h : a ≤ b) :
    a ∣ b := by
  have hdate := abi.dateAlign_pos
  rcases ha with rfl | rfl | rfl
  · exact Nat.one_dvd _
  · rcases hb with rfl | rfl | rfl
    · rw [Nat.le_antisymm h hdate]
    · exact Nat.dvd_refl _
    · exact abi.pointer_dvd
  · have hpointer := Nat.le_antisymm h (Nat.le_of_dvd abi.pointer_pos hb.dvd_pointer)
    rw [hpointer]

lemma IsAlignment.dvd_max (ha : IsAlignment abi a) (hb : IsAlignment abi b) : a ∣ Max.max a b :=
  ha.dvd_of_le (ha.max hb) (Nat.le_max_left a b)

section

variable (abi)

mutual

lemma TypeInfo.isAlignment : ∀ typinf : TypeInfo, IsAlignment abi (align (typinf.members abi))
  | .mk _ _ _ cols => by
    rw [TypeInfo.members]
    exact colMembers_isAlignment cols

lemma colMembers_isAlignment : ∀ cols : List OciColumn, IsAlignment abi (align (colMembers abi cols))
  | [] => by
    rw [colMembers]
    exact .inl rfl
  | col :: cols => by
    rw [colMembers]
    exact col.isAlignment.max (colMembers_isAlignment cols)

lemma OciColumn.isAlignment : ∀ col : OciColumn, IsAlignment abi (col.member abi).align
  | .plain _ ocode _ _ => by
    rw [OciColumn.member]
    split
    · exact .inl rfl
    · exact .inr (.inl rfl)
    · exact .inr (.inr rfl)
  | .named _ typinf => by
    rw [OciColumn.member]
    split
    · exact .inr (.inr rfl)
    · exact typinf.isAlignment

end

end

mutual

lemma TypeInfo.dvd_structSize : ∀ typinf : TypeInfo, abi.dateAlign ∣ typinf.structSize abi
  | .mk _ _ _ cols => by
    rw [TypeInfo.structSize]
    exact dvd_layoutLoop cols 0 (Nat.dvd_zero _)

lemma dvd_layoutLoop : ∀ (cols : List OciColumn) (size : ℕ), abi.dateAlign ∣ size →
    abi.dateAlign ∣ (layoutLoop abi size (attrInfos abi cols)).2
  | [], _, h => by
    rw [attrInfos]
    exact h
  | col :: cols, size, h => by
    rw [attrInfos, layoutLoop]
    exact dvd_layoutLoop cols _ (col.dvd_nextSize size _ h)

lemma OciColumn.dvd_nextSize : ∀ (col : OciColumn) (size : ℕ) (next : Option OffsetType),
    abi.dateAlign ∣ size → abi.dateAlign ∣ nextSize abi size (col.attrInfo abi) next
  | col, size, next, h => by
    have hattr := col.dvd_attrInfo
    rw [nextSize]
    split
    · exact abi.pointer_dvd.trans (dvd_roundUp _ _)
    · exact Nat.dvd_add h hattr

lemma OciColumn.dvd_attrInfo : ∀ col : OciColumn, abi.dateAlign ∣ (col.attrInfo abi).1
  | .plain _ ocode _ _ => by
    rw [OciColumn.attrInfo]
    split
    · exact abi.number_dvd
    · exact abi.date_dvd
    · exact abi.pointer_dvd
  | .named _ typinf => by
    rw [OciColumn.attrInfo]
    split
    · exact abi.pointer_dvd
    · exact typinf.dvd_structSize

end

section Column

variable {col col' : OciColumn} {size : ℕ}

lemma attrInfo_of_pointer (h : (col.attrInfo abi).2 = .pointer) :
    (col.attrInfo abi).1 = abi.pointer ∧ (col.member abi).align = abi.pointer := by
  cases col with
  | plain name ocode type handletype =>
    rw [OciColumn.attrInfo] at h ⊢
    rw [OciColumn.member]
    split at h
    · cases h
    · cases h
    · exact ⟨rfl, rfl⟩
  | named name typinf =>
    rw [OciColumn.attrInfo] at h ⊢
    rw [OciColumn.member]
    split at h
    · rename_i hcoll
      rw [if_pos hcoll]
      rw [if_pos hcoll]
      exact ⟨rfl, rfl⟩
    · cases h

lemma member_of_embedded {sub : TypeInfo} (h : col.embedded = some sub) :
    col.member abi = ⟨StructLayout.size (sub.members abi), align (sub.members abi)⟩ := by
  cases col with
  | plain name ocode type handletype => cases h
  | named name typinf =>
    rw [OciColumn.embedded] at h
    split at h
    · cases h
    · rename_i hobject
      obtain rfl := Option.some.inj h
      rw [OciColumn.member, if_neg hobject]

variable (abi) in
lemma member_of_not_embedded (h : col.embedded = none) :
    (col.member abi).size = (col.attrInfo abi).1 ∧
      (col.member abi).align ∣ (col.attrInfo abi).1 ∧
      ((col.member abi).align ∣ abi.dateAlign ∨ (col.attrInfo abi).2 = .pointer) := by
  cases col with
  | plain name ocode type handletype =>
    rw [OciColumn.attrInfo, OciColumn.member]
    split
    · exact ⟨rfl, Nat.one_dvd _, .inl (Nat.one_dvd _)⟩
    · exact ⟨rfl, abi.date_dvd, .inl (Nat.dvd_refl _)⟩
    · exact ⟨rfl, Nat.dvd_refl _, .inr rfl⟩
  | named name typinf =>
    rw [OciColumn.embedded] at h
    split at h
    · rename_i hcoll
      rw [OciColumn.attrInfo, OciColumn.member, if_pos hcoll, if_pos hcoll]
      exact ⟨rfl, Nat.dvd_refl _, .inr rfl⟩
    · cases h

-- what holds of the size before an attribute
def OffsetReady (abi : Abi) (size : ℕ) (col : OciColumn) : Prop :=
  abi.dateAlign ∣ size ∧ ((col.attrInfo abi).2 = .pointer → abi.pointer ∣ size)

lemma OffsetReady.after (h : OffsetReady abi size col) :
    OffsetReady abi (nextSize abi size (col.attrInfo abi) (some (col'.attrInfo abi).2)) col' := by
  refine ⟨col.dvd_nextSize size _ h.1, ?_⟩
  intro hnext
  rw [nextSize, hnext]
  split
  · exact dvd_roundUp _ _
  · rename_i hpads
    have hpointer : (col.attrInfo abi).2 = .pointer := by simpa [pads] using hpads
    rw [(attrInfo_of_pointer hpointer).1]
    exact Nat.dvd_add (h.2 hpointer) (Nat.dvd_refl _)

lemma OffsetReady.dvd (h : OffsetReady abi size col) (hnone : col.embedded = none) :
    (col.member abi).align ∣ size := by
  obtain ⟨-, -, hdate | hpointer⟩ := member_of_not_embedded abi hnone
  · exact hdate.trans h.1
  · rw [(attrInfo_of_pointer hpointer).2]
    exact h.2 hpointer

lemma nextSize_eq_iff (h : OffsetReady abi size col) (hdvd : (col.member abi).align ∣ size)
    (hsize : (col.member abi).size = roundUp (col.attrInfo abi).1 (col.member abi).align) :
    roundUp (size + (col.member abi).size) (col'.member abi).align =
        nextSize abi size (col.attrInfo abi) (some (col'.attrInfo abi).2) ↔
      (col'.member abi).align ∣
          nextSize abi size (col.attrInfo abi) (some (col'.attrInfo abi).2) ∧
        ((col'.attrInfo abi).2 = .pointer ∨ (col.member abi).align ∣ (col.attrInfo abi).1) := by
  have ha := (col.isAlignment abi).pos
  have hb := (col'.isAlignment abi).pos
  have hready : OffsetReady abi
      (nextSize abi size (col.attrInfo abi) (some (col'.attrInfo abi).2)) col' :=
    h.after
  rw [hsize, ← roundUp_add ha hdvd]
  by_cases hnext : (col'.attrInfo abi).2 = .pointer
  · have halign := (attrInfo_of_pointer hnext).2
    have hpointer := hready.2 hnext
    rw [halign]
    apply iff_of_true _ ⟨hpointer, .inl hnext⟩
    rw [roundUp_roundUp ha abi.pointer_pos (col.isAlignment abi).dvd_pointer]
    rw [nextSize, hnext] at hpointer ⊢
    split
    · rfl
    · rename_i hpads
      rw [if_neg hpads] at hpointer
      exact roundUp_of_dvd abi.pointer_pos hpointer
  · have hpads : pads (col.attrInfo abi).2 (some (col'.attrInfo abi).2) = false := by
      simp [pads, hnext]
    rw [nextSize, hpads, if_neg Bool.false_ne_true, roundUp_roundUp_eq_iff ha hb,
      Nat.dvd_add_right hdvd, and_comm]
    simp only [hnext, false_or]

end Column

section Loop

variable {cols : List OciColumn} {col : OciColumn} {n e : ℕ}

-- objects that are padded at their end
def EndPadded (abi : Abi) (col : OciColumn) : Prop :=
  (col.member abi).size = roundUp (col.attrInfo abi).1 (col.member abi).align

lemma endPadded_of_not_embedded (h : col.embedded = none) : EndPadded abi col := by
  obtain ⟨hsize, hdvd, -⟩ := member_of_not_embedded abi h
  rw [EndPadded, hsize, roundUp_of_dvd (col.isAlignment abi).pos hdvd]

lemma start_iff (cols : List OciColumn) {col' : OciColumn} (hready : OffsetReady abi n col)
    (hdvd : (col.member abi).align ∣ n)
    (hpadded : EndPadded abi col) :
    roundUp (n + (col.member abi).size) (col'.member abi).align =
        nextSize abi n (col.attrInfo abi) (some (col'.attrInfo abi).2) ↔
      (col'.member abi).align ∣ nextSize abi n (col.attrInfo abi) (some (col'.attrInfo abi).2) ∧
        ∀ sub ∈ col.embedded,
          col' :: cols = [] ∨ some (col'.attrInfo abi).2 = some .pointer ∨
            align (sub.members abi) ∣ sub.structSize abi := by
  rw [nextSize_eq_iff hready hdvd hpadded]
  apply and_congr_right'
  cases hsub : col.embedded with
  | none =>
    have hplain := (member_of_not_embedded abi hsub).2.1
    simp [hplain]
  | some sub =>
    rw [member_of_embedded hsub, attrInfo_of_embedded hsub]
    simp

lemma aligned_head (hready : OffsetReady abi n col) (h : AlignedFrom abi n (col :: cols)) :
    (col.member abi).align ∣ n := by
  rw [AlignedFrom] at h
  cases hsub : col.embedded with
  | none => exact hready.dvd hsub
  | some sub =>
    rw [member_of_embedded hsub]
    exact (h.1 sub hsub).1

lemma alignedFrom_cons_iff (hdvd : (col.member abi).align ∣ n) :
    AlignedFrom abi n (col :: cols) ↔
      (∀ sub ∈ col.embedded,
        cols = [] ∨ cols.head?.map (fun next => (next.attrInfo abi).2) = some .pointer ∨
          align (sub.members abi) ∣ sub.structSize abi) ∧
      AlignedFrom abi
        (nextSize abi n (col.attrInfo abi) (cols.head?.map fun next => (next.attrInfo abi).2))
        cols := by
  rw [AlignedFrom]
  apply and_congr_left'
  constructor
  · intro h sub hsub
    exact (h sub hsub).2
  · intro h sub hsub
    rw [member_of_embedded hsub] at hdvd
    exact ⟨hdvd, h sub hsub⟩

lemma attrInfos_head? (cols : List OciColumn) :
    (attrInfos abi cols).head?.map (·.2) = cols.head?.map fun next => (next.attrInfo abi).2 := by
  cases cols with
  | nil => rfl
  | cons col cols => rfl

lemma layoutLoop_eq_iff (hready : ∀ col, cols.head? = some col → OffsetReady abi n col)
    (hpadded : ∀ col ∈ cols, EndPadded abi col)
    (hstart : ∀ col, cols.head? = some col → roundUp e (col.member abi).align = n) :
    (layoutLoop abi n (attrInfos abi cols)).1 = offsets e (colMembers abi cols) ↔
      AlignedFrom abi n cols := by
  induction cols generalizing n e with
  | nil => exact iff_of_true rfl trivial
  | cons col cols ih =>
    have hn := hstart col rfl
    have hfirst := hready col rfl
    have hdvd : (col.member abi).align ∣ n := by
      rw [← hn]
      exact dvd_roundUp _ _
    rw [List.forall_mem_cons] at hpadded
    rw [attrInfos, layoutLoop, attrInfos_head?, colMembers, StructLayout.offsets, hn,
      alignedFrom_cons_iff hdvd, List.cons.injEq]
    simp only [true_and]
    cases cols with
    | nil =>
      apply iff_of_true rfl
      exact ⟨fun _ _ => .inl rfl, trivial⟩
    | cons col' cols =>
      simp only [List.head?_cons, Option.map_some]
      have hiff : _ ↔ (col'.member abi).align ∣ _ ∧ _ := start_iff cols hfirst hdvd hpadded.1
      have hready' : OffsetReady abi
          (nextSize abi n (col.attrInfo abi) (some (col'.attrInfo abi).2)) col' :=
        hfirst.after
      by_cases hnext : roundUp (n + (col.member abi).size) (col'.member abi).align =
          nextSize abi n (col.attrInfo abi) (some (col'.attrInfo abi).2)
      · rw [and_iff_right (hiff.mp hnext).2]
        apply ih _ hpadded.2
        · rintro _ ⟨⟩
          exact hnext
        · rintro _ ⟨⟩
          exact hready'
      · apply iff_of_false
        · intro h
          rw [attrInfos, layoutLoop, colMembers, StructLayout.offsets, List.cons.injEq] at h
          exact hnext h.1.symm
        · rintro ⟨hobjects, haligned⟩
          exact hnext (hiff.mpr ⟨aligned_head hready' haligned, hobjects⟩)

lemma layoutLoop_size {a : ℕ} (ha : IsAlignment abi a)
    (hmem : ∀ col ∈ cols, (col.member abi).align ∣ a)
    (hready : ∀ col, cols.head? = some col → OffsetReady abi n col)
    (hpadded : ∀ col ∈ cols, EndPadded abi col)
    (hstart : ∀ col, cols.head? = some col → roundUp e (col.member abi).align = n)
    (hend : cols = [] → roundUp e a = roundUp n a) (h : AlignedFrom abi n cols) :
    roundUp (extent e (colMembers abi cols)) a =
      roundUp (layoutLoop abi n (attrInfos abi cols)).2 a := by
  induction cols generalizing n e with
  | nil => exact hend rfl
  | cons col cols ih =>
    have hn := hstart col rfl
    have hfirst := hready col rfl
    have hdvd : (col.member abi).align ∣ n := by
      rw [← hn]
      exact dvd_roundUp _ _
    rw [List.forall_mem_cons] at hpadded hmem
    rw [alignedFrom_cons_iff hdvd] at h
    rw [attrInfos, layoutLoop, attrInfos_head?, colMembers, extent, hn]
    dsimp only
    cases cols with
    | nil =>
      have hpos := (col.isAlignment abi).pos
      apply ih hmem.2 _ hpadded.2 _ _ h.2
      · rintro _ ⟨⟩
      · rintro _ ⟨⟩
      · intro _
        rw [hpadded.1, ← roundUp_add hpos hdvd, roundUp_roundUp hpos ha.pos hmem.1,
          nextSize, List.head?_nil, Option.map_none, pads_none]
        rfl
    | cons col' cols =>
      have hready' : OffsetReady abi
          (nextSize abi n (col.attrInfo abi) (some (col'.attrInfo abi).2)) col' :=
        hfirst.after
      apply ih hmem.2 _ hpadded.2 _ _ h.2
      · rintro _ ⟨⟩
        exact hready'
      · rintro _ ⟨⟩
        exact (start_iff cols hfirst hdvd hpadded.1).mpr ⟨aligned_head hready' h.2, h.1⟩
      · rintro ⟨⟩

end Loop

section Paths

variable {offs offs' : TypeInfo → List ℕ}

lemma SameLayout.offsets_eq {typinf : TypeInfo} (h : SameLayout offs offs' typinf)
    (hlen : (offs typinf).length = typinf.cols.length)
    (hlen' : (offs' typinf).length = typinf.cols.length) : offs typinf = offs' typinf := by
  apply List.ext_getElem (hlen.trans hlen'.symm)
  intro i hi hi'
  have hcols : i < typinf.cols.length := hlen ▸ hi
  have hattr : attrAt offs typinf [i] = some ((offs typinf)[i], typinf.cols[i]) :=
    attrAt_singleton_eq_some.mpr ⟨List.getElem?_eq_getElem hi, List.getElem?_eq_getElem hcols⟩
  rw [h] at hattr
  have hoff := (attrAt_singleton_eq_some.mp hattr).1
  exact ((List.getElem_eq_iff hi').mpr hoff).symm

lemma SameLayout.embedded {typinf : TypeInfo} (h : SameLayout offs offs' typinf)
    (hoffs : offs typinf = offs' typinf) (hlen : (offs typinf).length = typinf.cols.length)
    {col : OciColumn} (hcol : col ∈ typinf.cols) {sub : TypeInfo} (hsub : col.embedded = some sub) :
    SameLayout offs offs' sub := by
  obtain ⟨i, hi, rfl⟩ := List.getElem_of_mem hcol
  have hcol : typinf.cols[i]? = some typinf.cols[i] := List.getElem?_eq_getElem hi
  obtain ⟨off, hoff⟩ : ∃ off, (offs typinf)[i]? = some off :=
    ⟨_, List.getElem?_eq_getElem (hlen ▸ hi)⟩
  intro path
  cases path with
  | nil => rfl
  | cons j path =>
    have hpath := h (i :: j :: path)
    apply Option.ext
    intro inner
    have hiff : ∀ layout : TypeInfo → List ℕ, (layout typinf)[i]? = some off →
        (attrAt layout sub (j :: path) = some inner ↔
          attrAt layout typinf (i :: j :: path) = some (off + inner.1, inner.2)) := by
      intro layout hlayout
      rw [attrAt_cons_eq_some]
      constructor
      · intro hinner
        exact ⟨off, _, sub, inner, hlayout, hcol, hsub, hinner, rfl⟩
      · rintro ⟨off', col', sub', inner', hoff', hcol', hsub', hinner', hattr⟩
        obtain rfl := Option.some.inj (hlayout.symm.trans hoff')
        obtain rfl := Option.some.inj (hcol.symm.trans hcol')
        obtain rfl := Option.some.inj (hsub.symm.trans hsub')
        obtain ⟨hstart, hsame⟩ := Prod.mk.inj hattr
        rw [hinner', Prod.ext (Nat.add_left_cancel hstart) hsame]
    rw [hiff offs hoff, hiff offs' (hoffs ▸ hoff), hpath]

lemma sameLayout_iff {typinf : TypeInfo} (hlen : (offs typinf).length = typinf.cols.length)
    (hlen' : (offs' typinf).length = typinf.cols.length) :
    SameLayout offs offs' typinf ↔ offs typinf = offs' typinf ∧
      ∀ col ∈ typinf.cols, ∀ sub, col.embedded = some sub → SameLayout offs offs' sub := by
  constructor
  · intro h
    have hoffs := h.offsets_eq hlen hlen'
    exact ⟨hoffs, fun col hcol sub hsub => h.embedded hoffs hlen hcol hsub⟩
  · rintro ⟨hoffs, hrest⟩
    exact sameLayout_of_embedded hoffs hrest

end Paths

section Types

lemma attrInfos_length (cols : List OciColumn) : (attrInfos abi cols).length = cols.length := by
  induction cols with
  | nil => rfl
  | cons col cols ih => rw [attrInfos, List.length_cons, List.length_cons, ih]

lemma colMembers_length (cols : List OciColumn) : (colMembers abi cols).length = cols.length := by
  induction cols with
  | nil => rfl
  | cons col cols ih => rw [colMembers, List.length_cons, List.length_cons, ih]

lemma starts_length (typinf : TypeInfo) : (typinf.starts abi).length = typinf.cols.length := by
  rw [TypeInfo.starts, layoutLoop_length, attrInfos_length]

lemma structOffsets_length (typinf : TypeInfo) :
    (typinf.structOffsets abi).length = typinf.cols.length := by
  obtain ⟨name, collection, base, cols⟩ := typinf
  rw [TypeInfo.structOffsets, StructLayout.offsets_length, TypeInfo.members, colMembers_length]
  rfl

lemma member_align_dvd : ∀ {cols : List OciColumn} {col : OciColumn}, col ∈ cols →
    (col.member abi).align ∣ align (colMembers abi cols)
  | first :: cols, col, h => by
    have hfirst := first.isAlignment abi
    have hrest := colMembers_isAlignment abi cols
    rw [colMembers, align]
    rcases List.mem_cons.mp h with rfl | h
    · exact hfirst.dvd_max hrest
    · rw [max_comm]
      exact (member_align_dvd h).trans (hrest.dvd_max hfirst)

lemma ready_zero (col : OciColumn) : OffsetReady abi 0 col := ⟨Nat.dvd_zero _, fun _ => Nat.dvd_zero _⟩

lemma start_zero (col : OciColumn) : roundUp 0 (col.member abi).align = 0 :=
  roundUp_of_dvd (col.isAlignment abi).pos (Nat.dvd_zero _)

mutual

lemma TypeInfo.size_of_aligned : ∀ typinf : TypeInfo, typinf.Aligned abi →
    StructLayout.size (typinf.members abi) =
      roundUp (typinf.structSize abi) (align (typinf.members abi))
  | .mk _ _ _ cols => by
    intro h
    rw [TypeInfo.Aligned] at h
    rw [TypeInfo.members, TypeInfo.structSize, StructLayout.size]
    exact layoutLoop_size (colMembers_isAlignment abi cols) (fun _ => member_align_dvd)
      (fun col _ => ready_zero col) (endPadded_of_aligned cols h.2) (fun col _ => start_zero col)
      (fun _ => rfl) h.1

lemma endPadded_of_aligned : ∀ cols : List OciColumn, ObjectsAligned abi cols →
    ∀ col ∈ cols, EndPadded abi col
  | [] => fun _ => List.forall_mem_nil _
  | col :: cols => by
    intro h
    rw [ObjectsAligned] at h
    rw [List.forall_mem_cons]
    exact ⟨col.endPadded_of_aligned h.1, endPadded_of_aligned cols h.2⟩

lemma OciColumn.endPadded_of_aligned : ∀ col : OciColumn, col.Aligned abi → EndPadded abi col
  | .plain _ _ _ _ => fun _ => endPadded_of_not_embedded rfl
  | .named name typinf => by
    intro h
    rw [OciColumn.Aligned] at h
    cases hcoll : typinf.collection with
    | true => exact endPadded_of_not_embedded (by rw [OciColumn.embedded, if_pos hcoll])
    | false =>
      have hsub : (OciColumn.named name typinf).embedded = some typinf := by
        rw [OciColumn.embedded, hcoll]
        rfl
      rw [EndPadded, member_of_embedded hsub, attrInfo_of_embedded hsub]
      exact typinf.size_of_aligned (h hcoll)

end

mutual

lemma TypeInfo.sameLayout_iff_aligned : ∀ typinf : TypeInfo,
    SameLayout (TypeInfo.starts abi) (TypeInfo.structOffsets abi) typinf ↔ typinf.Aligned abi
  | .mk name collection base cols => by
    rw [sameLayout_iff (starts_length _) (structOffsets_length _), TypeInfo.Aligned]
    have hobjects := objectsAligned_iff cols
    constructor
    · rintro ⟨hoffs, hrest⟩
      have haligned := hobjects.mp hrest
      exact ⟨(layoutLoop_eq_iff (fun col _ => ready_zero col) (endPadded_of_aligned cols haligned)
        fun col _ => start_zero col).mp hoffs, haligned⟩
    · rintro ⟨hfrom, haligned⟩
      exact ⟨(layoutLoop_eq_iff (fun col _ => ready_zero col) (endPadded_of_aligned cols haligned)
        fun col _ => start_zero col).mpr hfrom, hobjects.mpr haligned⟩

lemma objectsAligned_iff : ∀ cols : List OciColumn,
    (∀ col ∈ cols, ∀ sub, col.embedded = some sub →
      SameLayout (TypeInfo.starts abi) (TypeInfo.structOffsets abi) sub) ↔ ObjectsAligned abi cols
  | [] => iff_of_true (List.forall_mem_nil _) trivial
  | col :: cols => by
    rw [List.forall_mem_cons, ObjectsAligned]
    exact and_congr col.aligned_iff (objectsAligned_iff cols)

lemma OciColumn.aligned_iff : ∀ col : OciColumn,
    (∀ sub, col.embedded = some sub →
      SameLayout (TypeInfo.starts abi) (TypeInfo.structOffsets abi) sub) ↔ col.Aligned abi
  | .plain _ _ _ _ => by
    rw [OciColumn.Aligned]
    apply iff_of_true _ trivial
    rintro _ ⟨⟩
  | .named name typinf => by
    rw [OciColumn.Aligned, OciColumn.embedded]
    have hsub := typinf.sameLayout_iff_aligned
    cases hcoll : typinf.collection with
    | true =>
      apply iff_of_true
      · rintro _ ⟨⟩
      · rintro ⟨⟩
    | false =>
      constructor
      · intro h _
        exact hsub.mp (h typinf rfl)
      · rintro h _ ⟨⟩
        exact hsub.mpr (h rfl)

end

-- every attribute of an object of less than 2 GiB, at any depth, is where the structure in C has it
-- exactly if no object among the attributes needs padding that is not there
theorem attrAt_eq_iff_aligned (abi : Abi) {typinf : TypeInfo} (hsize : typinf.structSize abi < 2 ^ 31) :
    (∀ path, attrAt (TypeInfo.offsets abi) typinf path =
      attrAt (TypeInfo.structOffsets abi) typinf path) ↔ typinf.Aligned abi := by
  have hsame : ∀ path, attrAt (TypeInfo.offsets abi) typinf path =
      attrAt (TypeInfo.starts abi) typinf path := typinf.sameLayout_starts hsize
  simp only [hsame]
  exact typinf.sameLayout_iff_aligned

theorem attrAt_eq_iff_aligned_account :
    (∀ path, attrAt (TypeInfo.offsets exampleAbi) accountType path =
      attrAt (TypeInfo.structOffsets exampleAbi) accountType path) ↔ accountType.Aligned exampleAbi :=
  attrAt_eq_iff_aligned exampleAbi (by decide)

example : accountType.offsets exampleAbi = [0, 22] ∧ accountType.structOffsets exampleAbi = [0, 24] := by
  decide

end Types

end Agreement

end OracleDriver
