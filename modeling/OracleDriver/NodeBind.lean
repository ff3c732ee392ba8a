import OracleDriver.NodeRelease

/-! The binding of bind nodes. -/

namespace OracleDriver

def lobThreshold : ℕ := 4000

def lobBlockSize : ℕ := 16384

def oraRawSize : ℕ := 65535

def dbiDefaultStrLen : ℤ := 512

def maxInt32 : ℤ := 2147483647

section Connection

variable {h : Handler} {R : World → World → Prop} [HasPlain h R] (x : Sink)

def descriptorAlloc (who : String) : Act R Bool := checked x .descriptorAlloc who

def handleAlloc (who : String) : Act R Bool := checked x .handleAlloc who

def bindByPos : Act R Bool := checked x .bindByPos "QoreOracleStatement::bindByPos()"

-- only the last piece may end with success, every other one with OCI_NEED_DATA
def writePieces (desc : String) : ℕ → Bool → Act R Bool
  | 0, first => do
    if !first then
      if ← checkCancel x then
        return true
    let a ← oci .lobWrite
    if a.status ≠ .success then
      let _ ← check x a desc
      return true
    return false
  | k + 1, first => do
    if !first then
      if ← checkCancel x then
        return true
    let a ← oci .lobWrite
    if a.status ≠ .needData then
      let _ ← check x a desc
      return true
    writePieces desc k false

def writeLob (buflen : ℕ) (desc : String) : Act R Bool := do
  if ← checkCancel x then
    return true
  if buflen ≤ lobBlockSize then
    return ← checked x .lobWrite desc
  writePieces x desc ((buflen - 1) / lobBlockSize) true

def dateTimeConstruct (epoch : ℤ) : Act R Bool := do
  let c ← setting
  if c.year epoch > 1 then
    return ← checked x .dateTimeConstruct "QoreOracleConnection::dateTimeConstruct()"
  checked x .dateTimeFromText "QoreOracleConnection::dateTimeConstruct() fromText"

-- OCILobCreateTemporary() for a LOB that no one frees
def lobCreateTemporary : Act R Answer := do
  let w ← Act.get
  let a ← oci .lobCreateTemporary
  return if w.loggedOn then a else { a with status := .invalidHandle }

-- the attributes of an Oracle object are set by the client library, which reports its own errors
def buildObject (who : String) : Act R Bool := do
  let a ← oci .objectBuild
  if a.ok then
    return true
  raise x ⟨"BIND-NTY-ERROR", who ++ ": " ++ a.text⟩
  return false

end Connection

namespace Setting

-- QoreStringNodeValueHelper
def stringOf (c : Setting) : QoreValue → QoreString
  | .string s => s
  | v => ⟨c.lib.toText v, c.defaultEncoding⟩

-- TempEncodingHelper: the text in the encoding of the connection, and if it is a copy
def encode (c : Setting) (s : QoreString) : Except Exn (Text × Bool) :=
  if s.enc = c.encoding then .ok (s.text, false)
  else
    match c.lib.convert s.enc c.encoding s.text with
    | some t => .ok (t, true)
    | none => .error ⟨"ENCODING-CONVERSION-ERROR", "cannot convert the string"⟩

-- QoreStringValueHelper with an encoding
def encodeValue (c : Setting) : QoreValue → Except Exn Text
  | .string s => (c.encode s).map (·.1)
  | v => .ok (c.lib.toText v)

end Setting

namespace OraBindNode

def setBuf (b : Buf) (n : OraBindNode) : OraBindNode := { n with buf := b }

def setDtype (t : Dtype) (n : OraBindNode) : OraBindNode := { n with dtype := t }

-- a resource of the kind `k` in the buffer
def ownBuf (k : Resource) (n : OraBindNode) : OraBindNode :=
  { n with buf := .ptr n.ledger.next, ledger := n.ledger.acquire k }

def ownStrlob (n : OraBindNode) : OraBindNode :=
  { n with strlob := some ⟨n.ledger.next, none⟩, ledger := n.ledger.acquire .lobDescriptor }

-- data.save()
def save (n : OraBindNode) : OraBindNode :=
  { n with tmp := .str n.ledger.next, ledger := n.ledger.acquire .qoreString }

def beginArray (n : OraBindNode) : OraBindNode := { n with array := true, buf := .null }

def newArraybind (c : ArrayBindClass) (n : OraBindNode) : OraBindNode :=
  { n with
    buf := .arraybind ⟨n.ledger.next, c, none, [], [], [], none, none, false⟩
    ledger := n.ledger.acquire .arraybind }

def withArraybind (f : ArrayBind → Ledger Resource → ArrayBind × Ledger Resource)
    (n : OraBindNode) : OraBindNode :=
  match n.buf with
  | .arraybind a => { n with buf := .arraybind (f a n.ledger).1, ledger := (f a n.ledger).2 }
  | _ => n

def pushStr (p : Option StrPtr) : OraBindNode → OraBindNode :=
  withArraybind fun a L =>
    match p with
    | some p => ({ a with strvec := a.strvec ++ [p] }, L)
    | none => ({ a with strvec := a.strvec ++ [.dynamic L.next] }, L.acquire .cBuffer)

def pushDate (some? : Bool) : OraBindNode → OraBindNode :=
  withArraybind fun a L =>
    if some? then ({ a with datevec := a.datevec ++ [some L.next] }, L.acquire .timestampDescriptor)
    else ({ a with datevec := a.datevec ++ [none] }, L)

def pushLob (some? : Bool) : OraBindNode → OraBindNode :=
  withArraybind fun a L =>
    if some? then ({ a with lhvec := a.lhvec ++ [some ⟨L.next, none⟩] }, L.acquire .lobDescriptor)
    else ({ a with lhvec := a.lhvec ++ [none] }, L)

def ownArrayStr : OraBindNode → OraBindNode :=
  withArraybind fun a L => ({ a with str := some L.next }, L.acquire .qoreString)

def ownArrayDate : OraBindNode → OraBindNode :=
  withArraybind fun a L => ({ a with dt := some L.next }, L.acquire .timestampDescriptor)

def ownArrayLob : OraBindNode → OraBindNode :=
  withArraybind fun a L => ({ a with loc := some ⟨L.next, none⟩ }, L.acquire .lobDescriptor)

lemma withArraybind_isValue (f) (n : OraBindNode) : (withArraybind f n).isValue = n.isValue := by
  unfold withArraybind
  split <;> rfl

namespace Arms

lemma setBuf {b : Buf} (hb : ∀ a, b ≠ .arraybind a) (n : OraBindNode) : Arms n (n.setBuf b) := by
  refine emptied rfl ?_ rfl rfl
  cases b with
  | arraybind a => exact absurd rfl (hb a)
  | _ => cases ha : n.array <;> simp only [arrLobs, OraBindNode.setBuf, ha]

lemma setDtype (t : Dtype) (n : OraBindNode) : Arms n (n.setDtype t) := same rfl rfl rfl rfl rfl

lemma ownBuf (k : Resource) (n : OraBindNode) : Arms n (n.ownBuf k) := by
  refine emptied rfl ?_ rfl rfl
  cases ha : n.array <;> simp only [arrLobs, OraBindNode.ownBuf, ha]

lemma save (n : OraBindNode) : Arms n n.save := same rfl rfl rfl rfl rfl

lemma beginArray (n : OraBindNode) : Arms n n.beginArray := emptied rfl rfl rfl rfl

lemma newArraybind (c : ArrayBindClass) (n : OraBindNode) : Arms n (n.newArraybind c) := by
  refine emptied rfl ?_ rfl rfl
  cases ha : n.array <;> simp only [arrLobs, OraBindNode.newArraybind, ha, ArrayBind.lobs,
    Option.toList_none, ite_self]

lemma withArraybind {f} (hf : ∀ a L, (f a L).1.lobs = a.lobs) (n : OraBindNode) :
    Arms n (n.withArraybind f) := by
  unfold OraBindNode.withArraybind
  split
  · rename_i a hb
    refine ⟨rfl, ?_, List.Subset.refl _⟩
    cases ha : n.array <;> simp only [arrLobs, ha, hb, hf, List.Subset.refl]
  · exact Tidy.arms (.refl n)

lemma pushStr (p : Option StrPtr) (n : OraBindNode) : Arms n (n.pushStr p) := by
  apply withArraybind
  intro a L
  cases p <;> rfl

lemma pushDate (b : Bool) (n : OraBindNode) : Arms n (n.pushDate b) := by
  apply withArraybind
  intro a L
  cases b <;> rfl

lemma pushLob (b : Bool) (n : OraBindNode) : Arms n (n.pushLob b) := by
  apply withArraybind
  intro a L
  cases b <;> rfl

lemma ownArrayStr (n : OraBindNode) : Arms n n.ownArrayStr := withArraybind (fun _ _ => rfl) n

lemma ownArrayDate (n : OraBindNode) : Arms n n.ownArrayDate := withArraybind (fun _ _ => rfl) n

end Arms

def setInd (i : ℤ) (n : OraBindNode) : OraBindNode := { n with ind := i }

def setSubdtype (t : Subdtype) (n : OraBindNode) : OraBindNode := { n with subdtype := t }

def setMaxsize (m : ℤ) (n : OraBindNode) : OraBindNode := { n with phMaxsize := m }

def setAltOutput (n : OraBindNode) : OraBindNode := { n with altOutput := true }

end OraBindNode

open OraBindNode

def bindError (t : Text) (what : String) : Exn :=
  ⟨"ORACLE-BIND-VALUE-ERROR", "type '" ++ String.ofList t ++ "' is not supported for SQL " ++ what⟩

def elementError (e : QoreValue × ℕ) (expected : String) : Exn :=
  ⟨"ARRAY-BIND-ERROR", "found type \"" ++ String.ofList e.1.typeName ++ "\" in list element " ++
    toString e.2 ++
    " (starting from 0) expecting type \"" ++ expected ++
    "\"; all list elements must be of the same type to effect an array bind"⟩

-- the class that bindListValue() makes an object of, and if the object owns a copy of the string
def arrayClass (c : Setting) : QoreValue → Except Exn (ArrayBindClass × Bool)
  | .nothing | .null => .ok (.singleNull, false)
  | .int _ | .bool _ => .ok (.singleInt, false)
  | .float _ => .ok (.singleFloat, false)
  | .number _ => .ok (.singleString, true)
  | .date _ _ => .ok (.singleDate, false)
  | .string s => (c.encode s).map fun r => (.singleString, r.2 || c.inlineString s.text)
  | .binary _ => .ok (.singleBinary, false)
  | .list l =>
    match l.find? (!·.isNullOrNothing) with
    | none => .ok (.singleNull, false)
    | some v =>
      match v with
      | .string _ =>
        if l.any (fun | .string s => 32768 ≤ (c.bytes s).length | _ => false) then .ok (.clob, false)
        else .ok (.string, false)
      | .int _ | .number _ => .ok (.number, false)
      | .float _ => .ok (.float, false)
      | .date _ _ => .ok (.date, false)
      | .bool _ => .ok (.bool, false)
      | .binary _ => .ok (.blob, false)
      | v => .error (bindError v.typeName "array binding")
  | v => .error ⟨"ORACLE-BIND-VALUE-ERROR",
      "single-value type '" ++ String.ofList v.typeName ++ "' is not supported for SQL array binding"⟩

-- what bind() does with a node; the text of an error can name the position
inductive BindCase where
  | value (v : QoreValue) (inOnly : Bool)
  | placeholder
  | refused (e : ℕ → Exn)

namespace Setting

def intOf (c : Setting) : QoreValue → ℤ
  | .int i => i
  | v => c.lib.getAsBigInt v

def floatOf (c : Setting) : QoreValue → ℕ
  | .float f => f
  | v => c.lib.getAsFloat v

end Setting

namespace OraBindNode

variable (c : Setting) (n : OraBindNode)

def isNamedType : Bool := n.isType "OracleObject" || n.isType "OracleCollection"

-- a value for a placeholder is converted to the declared type
def inOutCase : BindCase :=
  if n.isType "string" || n.isType "clob" then .value (.string (c.stringOf n.value)) false
  else if n.isType "date" then .value (.date (c.toDate n.value).1 (c.toDate n.value).2) false
  else if n.isType "binary" || n.isType "blob" then
    if n.value.isBinary then .value n.value false
    else if !(c.stringOf n.value).text.isEmpty then
      .value (.binary (c.bytes (c.stringOf n.value))) false
    else .placeholder
  else if n.isType "integer" then .value (.int (c.intOf n.value)) false
  else if n.isType "float" then .value (.float (c.floatOf n.value)) false
  else
    .refused fun _ => ⟨"BIND-ERROR", "type '" ++ String.ofList (n.phType.getD []) ++
      "' is not supported for SQL binding by value and placeholder (eg IN OUT)"⟩

def bindCase (arraySize : ℕ) : BindCase :=
  if n.isValue then .value n.value true
  else if n.isNamedType then .placeholder
  else if !n.value.isNullOrNothing then
    if arraySize ≠ 0 then
      .refused fun pos =>
        ⟨"BIND-ERROR", "position " ++ toString pos ++ ": cannot bind in/out values of type '" ++
        String.ofList n.value.typeName ++ "' with array binds"⟩
    else n.inOutCase c
  else .placeholder

-- what is bound for a node with the value `v`: the value itself, or its conversion to the type
inductive Sends (v : QoreValue) : QoreValue → Prop where
  | value (hn : n.isValue = true) : Sends v v
  | string (ht : n.isType "string" = true ∨ n.isType "clob" = true) :
      Sends v (.string (c.stringOf v))
  | date (ht : n.isType "date" = true) : Sends v (.date (c.toDate v).1 (c.toDate v).2)
  | binary (ht : n.isType "binary" = true ∨ n.isType "blob" = true) (hv : v.isBinary = true) : Sends v v
  | bytes (ht : n.isType "binary" = true ∨ n.isType "blob" = true)
      (hv : (c.stringOf v).text.isEmpty = false) : Sends v (.binary (c.bytes (c.stringOf v)))
  | integer (ht : n.isType "integer" = true) : Sends v (.int (c.intOf v))
  | float (ht : n.isType "float" = true) : Sends v (.float (c.floatOf v))

variable {c n} {arraySize : ℕ} {w : QoreValue} {inOnly : Bool}

lemma inOutCase_sends (h : n.inOutCase c = .value w inOnly) : inOnly = false ∧ n.Sends c n.value w := by
  unfold inOutCase at h
  split at h
  · rename_i ht
    cases h
    exact ⟨rfl, .string (Bool.or_eq_true_iff.mp ht)⟩
  split at h
  · rename_i ht
    cases h
    exact ⟨rfl, .date ht⟩
  split at h
  · rename_i ht
    have htype := Bool.or_eq_true_iff.mp ht
    split at h
    · rename_i hv
      cases h
      exact ⟨rfl, .binary htype hv⟩
    split at h
    · rename_i hv
      cases h
      exact ⟨rfl, .bytes htype (by simpa only [Bool.not_eq_true'] using hv)⟩
    · cases h
  split at h
  · rename_i ht
    cases h
    exact ⟨rfl, .integer ht⟩
  split at h
  · rename_i ht
    cases h
    exact ⟨rfl, .float ht⟩
  · cases h

lemma bindCase_inOut (hn : n.isValue = false) (h : n.bindCase c arraySize = .value w inOnly) :
    arraySize = 0 ∧ n.value.isNullOrNothing = false ∧ n.inOutCase c = .value w inOnly := by
  rw [bindCase, hn, if_neg Bool.false_ne_true] at h
  split at h
  · cases h
  split at h
  · rename_i hnull
    split at h
    · cases h
    · rename_i hsize
      exact ⟨of_not_not hsize, by simpa only [Bool.not_eq_true'] using hnull, h⟩
  · cases h

lemma bindCase_sends (h : n.bindCase c arraySize = .value w inOnly) : n.Sends c n.value w := by
  cases hn : n.isValue with
  | true =>
    rw [bindCase, hn, if_pos rfl] at h
    cases h
    exact .value hn
  | false => exact (inOutCase_sends (bindCase_inOut hn h).2.2).2

end OraBindNode

namespace NodeAct

variable {h : Handler} {s i : ℕ} (x : Sink) (c : Setting)

def bindAs (t : Dtype) : NodeAct h s i true Unit := do
  arm (setDtype t) (.setDtype t)
  let _ ← bindByPos x

def bindString (inOnly : Bool) (v : QoreValue) : NodeAct h s i true Bool := do
  match v with
  | .nothing | .null =>
    arm (pushStr (some .null)) (.pushStr _)
    return false
  | .string t =>
    if inOnly && !c.inlineString t.text && t.enc == c.encoding then
      arm (pushStr (some .static)) (.pushStr _)
      return false
    match c.encode t with
    | .error e =>
      raise x e
      return true
    | .ok _ =>
      arm (pushStr none) (.pushStr _)
      return false
  | _ =>
    arm (pushStr none) (.pushStr _)
    return false

def setupDateDescriptor (own : NodeAct h s i true Unit) : NodeAct h s i true Bool := do
  if ← descriptorAlloc x "QoreOracleStatement::setupDateDecriptor()" then
    return true
  own
  return false

def bindDateElement (e : QoreValue × ℕ) : NodeAct h s i true Bool := do
  match e.1 with
  | .nothing | .null =>
    arm (pushDate false) (.pushDate _)
    return false
  | .date epoch _ =>
    if ← setupDateDescriptor x (arm (pushDate true) (.pushDate _)) then
      return true
    dateTimeConstruct x epoch
  | _ =>
    raise x (elementError e "date")
    return true

def bindPlainElement (accepts : QoreValue → Bool) (expected : String) (e : QoreValue × ℕ) :
    NodeAct h s i true Bool := do
  if e.1.isNullOrNothing || accepts e.1 then
    return false
  raise x (elementError e expected)
  return true

-- the data of one element of a LOB array; a CLOB in another encoding is converted into a buffer of
-- the object
def getBindData (v : QoreValue) : NodeAct h s i true (Option ℕ) := do
  match v with
  | .binary b => return some b.length
  | .string t =>
    if !c.inlineString t.text && t.enc == c.encoding then
      return some (c.byteSize t.text)
    match c.encode t with
    | .error e =>
      raise x e
      return none
    | .ok (d, _) =>
      arm (pushStr none) (.pushStr _)
      return some (c.byteSize d)
  | _ => return none

def bindLobElement (blob : Bool) (e : QoreValue × ℕ) : NodeAct h s i true Bool := do
  if e.1.isNullOrNothing then
    arm (pushLob false) (.pushLob _)
    return false
  if !(if blob then e.1 matches .binary _ else e.1 matches .string _) then
    raise x (elementError e (if blob then "binary" else "string"))
    return true
  if ← descriptorAlloc x "DynamicArrayBindBinaryGenericLob::setupBindImpl() alloc LOB descriptor" then
    return true
  arm (pushLob true) (.pushLob _)
  let a ← lobCreateTemporary
  if ← check x a "DynamicArrayBindBinaryGenericLob::setupBindImpl() create temporary LOB" then
    return true
  match ← getBindData x c e.1 with
  | none => return true
  | some size => writeLob x size "DynamicArrayBindBinaryGenericLob::setupBindImpl() write LOB"

def setupSingleBinary (size : ℕ) : NodeAct h s i true Bool := do
  if size ≤ lobThreshold then
    bindAs x .bin
    return false
  if ← descriptorAlloc x "DynamicSingleValueBinary::setupBindImpl() alloc LOB descriptor" then
    return true
  describe ownArrayLob fun n => withArraybind_isValue _ n
  let a ← Act.step (World.arraybindCreate s i) .arraybindCreate
  if ← check x a "DynamicSingleValueBinary::setupBindImpl() create temporary BLOB" then
    return true
  if ← writeLob x size "DynamicSingleValueBinary::setupBindImpl() write LOB" then
    return true
  bindAs x .blob
  return false

-- setupBind(): each class binds its own data, and gives up at the first element that it cannot bind
def setupBind (v : QoreValue) (inOnly : Bool) : ArrayBindClass → NodeAct h s i true Bool
  | .string | .number => do
    if ← Act.tryEach (bindString x c inOnly) v.elems then
      return true
    bindAs x .str
    return false
  | .float => do
    if ← Act.tryEach (bindPlainElement x (· matches .float _) "float") v.elems.zipIdx then
      return true
    bindAs x .flt
    return false
  | .date => do
    if ← Act.tryEach (bindDateElement x) v.elems.zipIdx then
      return true
    bindAs x .timestamp
    return false
  | .bool => do
    if ← Act.tryEach (bindPlainElement x (· matches .bool _) "boolean") v.elems.zipIdx then
      return true
    bindAs x .int
    return false
  | .blob => do
    if ← Act.tryEach (bindLobElement x c true) v.elems.zipIdx then
      return true
    bindAs x .blob
    return false
  | .clob => do
    if ← Act.tryEach (bindLobElement x c false) v.elems.zipIdx then
      return true
    bindAs x .clob
    return false
  | .singleNull | .singleString => do
    bindAs x .str
    return false
  | .singleInt => do
    bindAs x .int
    return false
  | .singleFloat => do
    bindAs x .flt
    return false
  | .singleDate => do
    if ← setupDateDescriptor x (arm ownArrayDate .ownArrayDate) then
      return true
    if ← dateTimeConstruct x (c.toDate v).1 then
      return true
    bindAs x .timestamp
    return false
  | .singleBinary =>
    match v with
    | .binary b => setupSingleBinary x b.length
    | _ => return true

def bindListValue (v : QoreValue) (inOnly : Bool) : NodeAct h s i true Unit := do
  arm beginArray .beginArray
  match arrayClass c v with
  | .error e => raise x e
  | .ok (k, owned) =>
    arm (newArraybind k) (.newArraybind k)
    if owned then
      arm ownArrayStr .ownArrayStr
    if ← setupBind x c v inOnly k then
      return
    let _ ← checked x .bindDynamic "OraBindNode::bindListValue()"

def bindLob (len : ℕ) (create write : String) : NodeAct h s i true Unit := do
  if ← descriptorAlloc x "OraBindNode::bindValue() alloc LOB descriptor" then
    return
  describe ownStrlob fun _ => rfl
  let a ← Act.step (World.strlobCreate s i) .strlobCreate
  if ← check x a create then
    return
  if ← writeLob x len write then
    return
  let _ ← bindByPos x

def bindStringValue (t : QoreString) (inOnly : Bool) : NodeAct h s i true Unit := do
  match c.encode t with
  | .error e => raise x e
  | .ok (d, copied) =>
    if inOnly then
      arm (setBuf .borrowed) (.setBuf nofun)
      if copied || c.inlineString t.text then
        arm save .save
      if c.byteSize d + 1 > lobThreshold then
        arm (setDtype .clob) (.setDtype _)
        bindLob x
          (c.byteSize d) "OraBindNode::bindValue() create temporary CLOB" "OraBindNode::bindValue() write CLOB"
      else
        bindAs x .str
    else
      arm (ownBuf .cBuffer) (.ownBuf _)
      bindAs x .str

def setupDate : NodeAct h s i true Bool := do
  arm (setDtype .timestamp) (.setDtype _)
  arm (setBuf .null) (.setBuf nofun)
  setupDateDescriptor x (arm (ownBuf .timestampDescriptor) (.ownBuf _))

def bindDate : NodeAct h s i true Bool := bindByPos x

def bindDateValue (epoch : ℤ) : NodeAct h s i true Unit := do
  if ← setupDate x then
    return
  if ← dateTimeConstruct x epoch then
    return
  let _ ← bindDate x

def bindBinaryValue (len : ℕ) (inOnly : Bool) : NodeAct h s i true Unit := do
  if len > lobThreshold && inOnly then
    arm (setDtype .blob) (.setDtype _)
    arm (setBuf .borrowed) (.setBuf nofun)
    bindLob x len "OraBindNode::bindValue() create temporary BLOB" "OraBindNode::bindValue() write LOB"
  else
    arm (setDtype .bin) (.setDtype _)
    if inOnly then
      arm (setBuf .borrowed) (.setBuf nofun)
    else
      arm (ownBuf .cBuffer) (.ownBuf _)
    let _ ← bindByPos x

-- a number that is bound as a string keeps the text apart from the buffer
def bindNumberText : NodeAct h s i true Unit := do
  arm (setDtype .str) (.setDtype _)
  arm save .save
  let _ ← bindByPos x

def bindWord (t : Dtype) (w : ℤ) : NodeAct h s i true Unit := do
  arm (setDtype t) (.setDtype t)
  arm (setBuf (.word w)) (.setBuf nofun)
  let _ ← bindByPos x

def plainHash : Exn := ⟨"ORACLE-BIND-VALUE-ERROR",
  "Plain hash/list cannot be bound as an Oracle Object/Collection; use bindOracleObject()/bindOracleCollection()"⟩

def badTypeKey (t : Text) : Exn := ⟨"ORACLE-BIND-VALUE-ERROR",
  "the 'type' key in a bind hash must be assigned to a string type name; got type '" ++
    String.ofList t ++
    "' instead"⟩

def badObjectType : Exn := ⟨"ORACLE-BIND-VALUE-ERROR",
  "Only Objects (hash) or collections (list) are allowed; use bindOracleObject()/bindOracleCollection()"⟩

-- objBindQore(), collBindQore() and the calls for placeholders: a null pointer comes with an exception
def buildInto (sub : Subdtype) (who : String) : NodeAct h s i true Bool := do
  if ← buildObject x who then
    arm (ownBuf (if sub = .object then .object else .collection)) (.ownBuf _)
    return false
  arm (setBuf .null) (.setBuf nofun)
  return true

def bindObjectValue (sub : Subdtype) : NodeAct h s i true Unit := do
  arm (setSubdtype sub) fun _ => .same rfl rfl rfl rfl rfl
  arm (setDtype .nty) (.setDtype _)
  if ← buildInto x sub "bind" then
    return
  let _ ← bindByPos x
  let _ ← checked x .bindObject "OraBindNode::bindValue() OCIBindObject"

def bindHashValue (m : List (Text × QoreValue)) : NodeAct h s i true Unit := do
  if !QoreValue.existsKey m "type" || !QoreValue.existsKey m "^oratype^" ||
      !QoreValue.existsKey m "^values^" then
    raise x plainHash
    return
  match QoreValue.getKeyValue m "type" with
  | .string t =>
    if t.text = "OracleObject".toList then
      bindObjectValue x .object
    else if t.text = "OracleCollection".toList then
      bindObjectValue x .collection
    else
      raise x badObjectType
  | v => raise x (badTypeKey v.typeName)

def bindValue (vArg : QoreValue) (inOnly : Bool) : NodeAct h s i true Unit := do
  let v := vArg.resolveIndirect
  arm (setInd 0) fun _ => .same rfl rfl rfl rfl rfl
  let S ← stmt
  if S.arraySize ≠ 0 then
    bindListValue x c v inOnly
    return
  match v with
  | .nothing | .null => let _ ← bindByPos x
  | .string t => bindStringValue x c t inOnly
  | .date epoch _ => bindDateValue x epoch
  | .binary b => bindBinaryValue x b.length inOnly
  | .bool b => bindWord x .int (if b then 1 else 0)
  | .int i => if i ≤ maxInt32 && -maxInt32 ≤ i then bindWord x .int i else bindNumberText x
  | .number _ => bindNumberText x
  | .float f => bindWord x .flt f
  | .hash m => bindHashValue x m
  | v => raise x (bindError v.typeName "binding")

def outputClass (n : OraBindNode) : Except Exn ArrayBindClass :=
  if n.isType "string" then .ok .string
  else if n.isType "integer" || n.isType "number" then .ok .number
  else .error (bindError (n.phType.getD []) "binding for array output buffers")

def bindArrayPlaceholder (n : OraBindNode) (arraySize : ℕ) : NodeAct h s i true Unit := do
  arm beginArray .beginArray
  match outputClass n with
  | .error e => raise x e
  | .ok k =>
    arm (newArraybind k) (.newArraybind k)
    -- setupOutputBindImpl(): one empty entry for each row
    Act.each (fun _ => arm (pushStr (some .null)) (.pushStr _)) (List.range arraySize)
    bindAs x .str
    let _ ← checked x .bindDynamic "OraBindNode::bindPlaceholder()"

def bindStringPlaceholder (n : OraBindNode) : NodeAct h s i true Unit := do
  if n.phMaxsize < 0 then
    arm (setMaxsize dbiDefaultStrLen) fun _ => .same rfl rfl rfl rfl rfl
    arm (setDtype .avc) (.setDtype _)
  else
    arm (setDtype .str) (.setDtype _)
  arm (ownBuf .cBuffer) (.ownBuf _)
  if !n.value.isNothing then
    if let .error e := c.encodeValue n.value then
      raise x e
      return
  let _ ← bindByPos x

def bindDatePlaceholder (n : OraBindNode) : NodeAct h s i true Unit := do
  if ← setupDate x then
    return
  if !n.value.isNothing then
    if ← dateTimeConstruct x (c.toDate n.value).1 then
      return
  let _ ← bindDate x

def rawBytes (n : OraBindNode) : Except Exn (Option ℕ) :=
  match n.value with
  | .nothing => .ok none
  | .binary b => .ok (some b.length)
  | v => (c.encodeValue v).map fun t => some (c.byteSize t)

def tooBig (size : ℕ) : Exn := ⟨"BIND-ERROR", "value passed for binding is " ++ toString size ++
  " bytes long, which is too big to bind as a long binary value, maximum size is " ++
    toString (0x7fffffff : ℕ) ++
  " bytes"⟩

def setupRaw (n : OraBindNode) : NodeAct h s i true Bool := do
  match rawBytes c n with
  | .error e =>
    raise x e
    return true
  | .ok none =>
    arm (setMaxsize oraRawSize) fun _ => .same rfl rfl rfl rfl rfl
    checked x .rawResize "OraBindNode::bindPlaceholder() setup binary placeholder"
  | .ok (some size) =>
    if size > 0x7fffffff then
      raise x (tooBig size)
      return true
    arm (setMaxsize (max oraRawSize (size + 4))) fun _ => .same rfl rfl rfl rfl rfl
    checked x .rawAssignBytes
      (if n.value.isBinary then "OraBindNode::bindPlaceholder() bind binary value"
      else "OraBindNode::bindPlaceholder() bind binary value from string")

def bindBinaryPlaceholder (n : OraBindNode) : NodeAct h s i true Unit := do
  arm (setDtype .lvb) (.setDtype _)
  arm (setBuf .null) (.setBuf nofun)
  if ← setupRaw x c n then
    return
  arm (ownBuf .raw) (.ownBuf _)
  let _ ← bindByPos x

def bindLobPlaceholder (t : Dtype) (who : String) : NodeAct h s i true Unit := do
  arm (setDtype t) (.setDtype _)
  arm (setBuf .null) (.setBuf nofun)
  if ← descriptorAlloc x who then
    return
  arm (ownBuf .lobDescriptor) (.ownBuf _)
  let _ ← bindByPos x

def bindNumberPlaceholder (n : OraBindNode) : NodeAct h s i true Unit := do
  arm (setDtype .num) (.setDtype _)
  arm (setBuf .null) (.setBuf nofun)
  if !n.value.isNothing then
    if let .error e := c.encodeValue n.value then
      raise x e
      return
  arm (ownBuf .cBuffer) (.ownBuf _)
  let _ ← bindByPos x

def bindResultPlaceholder (altOutput : Bool) : NodeAct h s i true Unit := do
  arm (setDtype .rset) (.setDtype _)
  if ← handleAlloc x "OraBindNode::bindPlaceHolder() allocate statement handle" then
    arm (setBuf .null) (.setBuf nofun)
  else
    arm (ownBuf .stmtHandle) (.ownBuf _)
    let _ ← bindByPos x
    if altOutput then
      arm setAltOutput fun _ => .same rfl rfl rfl rfl rfl

-- nothing is put into the buffer for a value of another type
def setupObject (sub : Subdtype) (what : String) (n : OraBindNode) : NodeAct h s i true Bool := do
  match n.value with
  | .string _ => buildInto x sub "placeholder"
  | .hash m =>
    if QoreValue.existsKey m "^values^" then
      buildInto x sub "bind"
    else
      raise x ⟨"BIND-ERROR", "Unable to bind hash as " ++ what ++ " without key '^values^'"⟩
      return true
  | v =>
    raise x ⟨"BIND-ERROR", "Unable to bind " ++ what ++ " from '" ++ String.ofList v.typeName ++
      "' type"⟩
    return true

def bindObjectPlaceholder (sub : Subdtype) (what : String) (n : OraBindNode) :
    NodeAct h s i true Unit := do
  arm (setSubdtype sub) fun _ => .same rfl rfl rfl rfl rfl
  arm (setDtype .nty) (.setDtype _)
  if ← setupObject x sub what n then
    return
  let _ ← bindByPos x
  let _ ← checked x .bindObject ("OraBindNode::bindPlaceholder() OCIBindObject" ++
    if sub = .object then "" else " collection")

def bindPlaceholder (n : OraBindNode) : NodeAct h s i true Unit := do
  let S ← stmt
  if S.arraySize ≠ 0 then
    bindArrayPlaceholder x n S.arraySize
  else if n.isType "string" then
    bindStringPlaceholder x c n
  else if n.isType "date" then
    bindDatePlaceholder x c n
  else if n.isType "binary" then
    bindBinaryPlaceholder x c n
  else if n.isType "clob" then
    bindLobPlaceholder x .clob "OraBindNode::bindPlaceholder() allocate clob descriptor"
  else if n.isType "blob" then
    bindLobPlaceholder x .blob "OraBindNode::bindPlaceholder() allocate blob descriptor"
  else if n.isType "integer" then
    bindWord x .int (c.lib.getAsBigInt n.value)
  else if n.isType "float" then
    bindWord x .flt (c.lib.getAsFloat n.value)
  else if n.isType "number" then
    bindNumberPlaceholder x c n
  else if n.isType "hash" then
    bindResultPlaceholder x false
  else if n.isType "resultset" then
    bindResultPlaceholder x true
  else if n.isType "OracleObject" then
    bindObjectPlaceholder x .object "Object" n
  else if n.isType "OracleCollection" then
    bindObjectPlaceholder x .collection "Collection" n
  else
    raise x ⟨"BIND-ERROR", "type '" ++ String.ofList (n.phType.getD []) ++
      "' is not supported for SQL binding"⟩

def bindAsCase (pos : ℕ) (n : OraBindNode) : BindCase → NodeAct h s i true Unit
  | .value v inOnly => bindValue x c v inOnly
  | .placeholder => bindPlaceholder x c n
  | .refused e => raise x (e pos)

def bind (pos : ℕ) : NodeAct h s i true Unit := do
  match ← node with
  | none => return
  | some n =>
    let c ← setting
    let S ← stmt
    bindAsCase x c pos n (n.bindCase c S.arraySize)

end NodeAct

end OracleDriver
