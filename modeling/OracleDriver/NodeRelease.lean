import OracleDriver.Moves

/-! The release of bind nodes. -/

namespace OracleDriver

namespace OraBindNode

def resetTmp (n : OraBindNode) : OraBindNode :=
  match n.tmp with
  | .none => n
  | .str a => { n with tmp := .none, ledger := n.ledger.release a .qoreString }

-- what the pointer in the buffer is released as
def releaseBuf (k : Resource) (n : OraBindNode) : OraBindNode :=
  { n with ledger :=
      match n.buf with
      | .null => n.ledger
      | .word w => if w = 0 then n.ledger else n.ledger.fault
      | .ptr a => n.ledger.release a k
      | .arraybind a => n.ledger.release a.addr k
      | .borrowed | .uninit => n.ledger.fault }

def nullBuf (n : OraBindNode) : OraBindNode := { n with buf := .null }

def endArray (n : OraBindNode) : OraBindNode := { n with array := false }

def unsetDtype (n : OraBindNode) : OraBindNode := { n with dtype := .unset }

def endLob (n : OraBindNode) : OraBindNode := { n with lobAllocated := false }

def releaseStrlob (n : OraBindNode) : OraBindNode :=
  match n.strlob with
  | some l => { n with strlob := none, ledger := n.ledger.release l.addr .lobDescriptor }
  | none => n

end OraBindNode

namespace ArrayBind

def strResources (a : ArrayBind) : List (ℕ × Resource) :=
  a.strvec.filterMap fun
    | .dynamic b => some (b, .cBuffer)
    | _ => none

def dateResources (a : ArrayBind) : List (ℕ × Resource) :=
  a.datevec.filterMap (·.map (·, .timestampDescriptor))

def strResource (a : ArrayBind) : List (ℕ × Resource) := (a.str.map (·, .qoreString)).toList

def locResources (a : ArrayBind) : List (ℕ × Resource) :=
  (a.loc.map fun l => (l.addr, .lobDescriptor)).toList

-- what the destructor of each class releases: that of the LOB arrays leaves its locators alone, and
-- that of DynamicSingleValueDate its descriptor
def destroyed (a : ArrayBind) : List (ℕ × Resource) :=
  match a.cls with
  | .string | .number | .clob => a.strResources
  | .date => a.dateResources
  | .singleString => a.strResource
  | .singleBinary => a.locResources
  | _ => []

end ArrayBind

namespace OraBindNode

-- `delete buf.arraybind`
def deleteArraybind (n : OraBindNode) : OraBindNode :=
  match n.buf with
  | .arraybind a => { n with ledger := (n.ledger.release a.addr .arraybind).releaseAll a.destroyed }
  | _ => n.releaseBuf .arraybind

def clearType (n : OraBindNode) : OraBindNode := { n with phType := none }

def clearName (n : OraBindNode) : OraBindNode := { n with phName := none }

def clearAltOutput (n : OraBindNode) : OraBindNode := { n with altOutput := false }

def setValue (v : QoreValue) (n : OraBindNode) : OraBindNode := { n with value := v }

namespace Tidy

lemma same {n n' : OraBindNode} (hv : n'.isValue = n.isValue) (ha : n'.array = n.array)
    (hb : n'.buf = n.buf)
    (hs : n'.strlob = n.strlob) (hl : n'.lobAllocated = n.lobAllocated) (hd : n'.dtype = n.dtype) :
    Tidy n n' where
  value := hv
  arr := by simp only [arrLobs, ha, hb, List.Subset.refl]
  str := by simp only [strLobs, hs, hl, List.Subset.refl]
  raw := by simp only [holdsRaw, hv, hd, imp_self]
  scalar := by simp only [ha, imp_self]

lemma resetTmp (n : OraBindNode) : Tidy n n.resetTmp := by
  unfold OraBindNode.resetTmp
  cases n.tmp with
  | none => exact refl n
  | str a => exact same rfl rfl rfl rfl rfl rfl

lemma releaseBuf (k : Resource) (n : OraBindNode) : Tidy n (n.releaseBuf k) :=
  same rfl rfl rfl rfl rfl rfl

lemma deleteArraybind (n : OraBindNode) : Tidy n n.deleteArraybind := by
  unfold OraBindNode.deleteArraybind
  split
  · exact same rfl rfl rfl rfl rfl rfl
  · exact releaseBuf _ n

lemma nullBuf (n : OraBindNode) : Tidy n n.nullBuf where
  value := rfl
  arr := by
    have h : n.nullBuf.arrLobs = [] := by
      cases h : n.array <;> simp only [arrLobs, OraBindNode.nullBuf, h]
    rw [h]
    exact List.nil_subset _
  str := List.Subset.refl _
  raw := id
  scalar := id

lemma endArray (n : OraBindNode) : Tidy n n.endArray :=
  ⟨rfl, List.nil_subset _, List.Subset.refl _, id, fun _ => rfl⟩

lemma unsetDtype (n : OraBindNode) : Tidy n n.unsetDtype where
  value := rfl
  arr := List.Subset.refl _
  str := List.Subset.refl _
  raw := by
    have h : n.unsetDtype.holdsRaw = false := Bool.and_false _
    rw [h]
    exact fun h => absurd h Bool.false_ne_true
  scalar := id

lemma endLob (n : OraBindNode) : Tidy n n.endLob :=
  ⟨rfl, List.Subset.refl _, List.nil_subset _, id, id⟩

lemma releaseStrlob (n : OraBindNode) : Tidy n n.releaseStrlob := by
  unfold OraBindNode.releaseStrlob
  split
  · refine ⟨rfl, List.Subset.refl _, ?_, id, id⟩
    simp only [strLobs, Option.toList_none, ite_self, List.nil_subset]
  · exact refl n

lemma describePlaceholder (lib : QoreLib) (v : QoreValue) (n : OraBindNode) :
    Tidy n (OraBindNode.describePlaceholder lib v n).1 := by
  unfold OraBindNode.describePlaceholder
  split <;> (try split) <;> simp only [setPlaceholderIntern] <;> repeat' split
  all_goals exact same rfl rfl rfl rfl rfl rfl

end Tidy

end OraBindNode

variable {h : Handler}

section Raw

variable {R : World → World → Prop} [HasPlain h R]

def rawResize (x : Sink) : Act R Bool := checked x .rawResize "QoreOracleConnection::rawResize()"

def rawFree (x : Sink) : Act R Bool := rawResize x

end Raw

namespace NodeAct

variable {s i : ℕ} {b : Bool}

def deleteArraybind : NodeAct h s i b Unit := do
  Act.step (fun w => ((), w.arraybindFree s i)) .arraybindFree
  modify OraBindNode.deleteArraybind .deleteArraybind

def freeObject (x : Sink) (n : OraBindNode) : NodeAct h s i b Unit := do
  if n.buf matches .null then
    return
  let a ← oci .objectFree
  if !a.ok then
    raise x ⟨"OCILIB-ERROR", a.text⟩
  modify (·.releaseBuf (if n.subdtype = .object then .object else .collection)) fun n => .releaseBuf _ n
  modify OraBindNode.nullBuf .nullBuf

-- OraColumnValue::del()
def del (x : Sink) : NodeAct h s i b Unit := do
  match ← node with
  | none => return
  | some n =>
    if n.array then
      deleteArraybind
      modify OraBindNode.endArray .endArray
      return
    match n.dtype with
    | .unset | .int | .flt | .dat => return
    | .clob | .blob => modify (·.releaseBuf .lobDescriptor) fun n => .releaseBuf _ n
    | .rdd => modify (·.releaseBuf .rowidDescriptor) fun n => .releaseBuf _ n
    | .rset => modify (·.releaseBuf .stmtHandle) fun n => .releaseBuf _ n
    | .timestamp => modify (·.releaseBuf .timestampDescriptor) fun n => .releaseBuf _ n
    | .intervalYm | .intervalDs => modify (·.releaseBuf .intervalDescriptor) fun n => .releaseBuf _ n
    | .bin | .lbi | .lvb =>
      if ← rawFree x then
        return
      modify (·.releaseBuf .raw) fun n => .releaseBuf _ n
    | .lng => modify (·.releaseBuf .longBuffer) fun n => .releaseBuf _ n
    | .nty => freeObject x n
    | .chr | .str | .avc | .num => modify (·.releaseBuf .cBuffer) fun n => .releaseBuf _ n

def clearPlaceholder (x : Sink) : NodeAct h s i b Unit := do
  match ← node with
  | none => return
  | some n =>
    if n.dtype = .unset then
      return
    del x
    modify OraBindNode.clearAltOutput fun _ => .same rfl rfl rfl rfl rfl rfl
    modify OraBindNode.unsetDtype .unsetDtype

def resetPlaceholder (x : Sink) (freeName : Bool) : NodeAct h s i b Unit := do
  if freeName then
    modify OraBindNode.clearName fun _ => .same rfl rfl rfl rfl rfl rfl
  modify OraBindNode.clearType fun _ => .same rfl rfl rfl rfl rfl rfl
  modify OraBindNode.resetTmp .resetTmp
  clearPlaceholder x

def freeStrlob (x : Sink) : NodeAct h s i b Unit := do
  let r ← Act.step (World.strlobFree s i) .strlobFree
  if let some a := r then
    let _ ← check x a "OraBindNode::resetValue() free temporary LOB"
  modify OraBindNode.endLob .endLob

def resetValue (x : Sink) : NodeAct h s i b Unit := do
  match ← node with
  | none => return
  | some n =>
    if n.dtype = .unset then
      return
    modify OraBindNode.resetTmp .resetTmp
    if n.array then
      deleteArraybind
      modify OraBindNode.endArray .endArray
      return
    if n.strlob.isSome then
      if n.lobAllocated then
        freeStrlob x
      modify OraBindNode.releaseStrlob .releaseStrlob
    else if n.dtype = .nty then
      freeObject x n
    else if n.dtype = .timestamp then
      modify (·.releaseBuf .timestampDescriptor) fun n => .releaseBuf _ n
      modify OraBindNode.nullBuf .nullBuf
    modify OraBindNode.unsetDtype .unsetDtype

def clear (x : Sink) : NodeAct h s i b Unit := do
  match ← node with
  | none => return
  | some n => if n.isValue then resetValue x else clearPlaceholder x

def reset (x : Sink) : NodeAct h s i b Unit := do
  modify (·.setValue .nothing) fun _ => .same rfl rfl rfl rfl rfl rfl
  match ← node with
  | none => return
  | some n => if n.isValue then resetValue x else resetPlaceholder x true

def setPlaceholder (x : Sink) (v : QoreValue) : NodeAct h s i b Bool := do
  resetPlaceholder x false
  match ← node with
  | none => return false
  | some n =>
    let c ← setting
    modify (fun n => (OraBindNode.describePlaceholder c.lib v n).1) fun n =>
      .describePlaceholder c.lib v n
    match (OraBindNode.describePlaceholder c.lib v n).2 with
    | some e =>
      raise x e
      return true
    | none => return false

def set (x : Sink) (v : QoreValue) : NodeAct h s i b Bool := do
  match ← node with
  | none => return false
  | some n =>
    if n.isValue then
      resetValue x
      modify (·.setValue v) fun _ => .same rfl rfl rfl rfl rfl rfl
      return ← pending x
    setPlaceholder x v

end NodeAct

end OracleDriver
