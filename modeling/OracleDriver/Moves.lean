import OracleDriver.Library.Act
import OracleDriver.World

/-! What the functions of the driver do to the world, one move at a time. A program carries the
proof that it only makes the moves of its level, and an invariant of the moves is an invariant of
every run. -/

namespace OracleDriver

-- handleError() without a retry, as checkerr() calls it
abbrev Handler := Sink → String → World → World

namespace World

def account (w : World) : String := w.setting.user ++ "@" ++ w.setting.db

def checkerr (h : Handler) (x : Sink) (a : Answer) (who : String) (w : World) : Bool × World :=
  match a.status with
  | .success | .successWithInfo => (false, w)
  | .error => (true, h x who w.touch)
  | .invalidHandle => (true, w.raise x ⟨"DBI:ORACLE:OCI-INVALID-HANDLE",
      w.account ++ ": " ++ who ++ ": an invalid OCI handle was used"⟩)
  | .needData => (true, w.raise x ⟨"DBI:ORACLE:OCI-NEED-DATA", "Oracle OCI error"⟩)
  | .noData => (true, w.raise x ⟨"DBI:ORACLE:OCI-NODATA", "Oracle OCI error"⟩)
  | .stillExecuting => (true, w.raise x ⟨"DBI:ORACLE:OCI-STILL-EXECUTING", "Oracle OCI error"⟩)
  | .continues => (true, w.raise x ⟨"DBI:ORACLE:OCI-CONTINUE", "Oracle OCI error"⟩)
  | .unknown c => (true, w.raise x ⟨"DBI:ORACLE:UNKNOWN-ERROR", "unknown OCI error code " ++ toString c⟩)

end World

inductive Plain (h : Handler) : World → World → Prop
  | touch (w) : Plain h w w.touch
  | ask (c w) : Plain h w (w.ask c).2
  | raise (x e w) : Plain h w (w.raise x e)
  | check (x a who w) : Plain h w (w.checkerr h x a who).2
  | exhaust (w) : Plain h w { w with overflow := true }

class HasPlain (h : outParam Handler) (R : World → World → Prop) : Prop where
  plain : ∀ {w t}, Plain h w t → R w t

section Plain

variable {h : Handler} {R : World → World → Prop} [HasPlain h R]

def touch : Act R Unit := Act.step (fun w => ((), w.touch)) fun w => HasPlain.plain (.touch w)

def ask (c : Call) : Act R Answer := Act.step (fun w => w.ask c) fun w => HasPlain.plain (.ask c w)

def raise (x : Sink) (e : Exn) : Act R Unit :=
  Act.step (fun w => ((), w.raise x e)) fun w => HasPlain.plain (.raise x e w)

-- the bound on the turns of a loop is used up
def exhaust : Act R Unit := Act.step (fun w => ((), { w with overflow := true }))
    fun w => HasPlain.plain (.exhaust w)

-- `true` is the -1 of the source
def check (x : Sink) (a : Answer) (who : String) : Act R Bool :=
  Act.step (fun w => w.checkerr h x a who) fun w => HasPlain.plain (.check x a who w)

-- a call into the client library with a handle of the connection
def oci (c : Call) : Act R Answer := do
  touch
  ask c

def checked (x : Sink) (c : Call) (who : String) : Act R Bool := do
  let a ← oci c
  check x a who

def checkCancel (x : Sink) : Act R Bool := do
  let a ← ask .cancelCheck
  if a.flag then
    raise x ⟨"CANCELLED", a.text⟩
    return true
  return false

-- every hundredth turn of a long loop looks for an interrupt
def checkTurn (x : Sink) (i : ℕ) : Act R Bool := do
  if i ≠ 0 ∧ i % 100 = 0 then
    return ← checkCancel x
  return false

def conn : Act R Conn := do
  touch
  let w ← Act.get
  return w.conn

def setting : Act R Setting := do
  let w ← Act.get
  return w.setting

def pending (x : Sink) : Act R Bool := do
  let w ← Act.get
  return w.pending x

def account : Act R String := do
  let w ← Act.get
  return w.account

end Plain

namespace ArrayBind

-- the temporary LOB that the destructor frees
def lobs (a : ArrayBind) : List Locator := if a.lobAllocated then a.loc.toList else []

end ArrayBind

namespace OraBindNode

def arrLobs (n : OraBindNode) : List Locator :=
  match n.array, n.buf with
  | true, .arraybind a => a.lobs
  | _, _ => []

def strLobs (n : OraBindNode) : List Locator := if n.lobAllocated then n.strlob.toList else []

-- the temporary LOBs that a later release of the node frees
def tempLobs (n : OraBindNode) : List Locator := n.arrLobs ++ n.strLobs

def isRaw (t : Dtype) : Bool := t == .bin || t == .lbi || t == .lvb

-- a placeholder whose release resizes a raw buffer, which can fail
def holdsRaw (n : OraBindNode) : Bool := !n.isValue && isRaw n.dtype

structure Tidy (n n' : OraBindNode) : Prop where
  value : n'.isValue = n.isValue
  arr : n'.arrLobs ⊆ n.arrLobs
  str : n'.strLobs ⊆ n.strLobs
  raw : n'.holdsRaw = true → n.holdsRaw = true
  scalar : n.array = false → n'.array = false

namespace Tidy

lemma refl (n : OraBindNode) : Tidy n n := ⟨rfl, fun _ h => h, fun _ h => h, id, id⟩

lemma trans {a b c : OraBindNode} (h : Tidy a b) (k : Tidy b c) : Tidy a c where
  value := k.value.trans h.value
  arr := List.Subset.trans k.arr h.arr
  str := List.Subset.trans k.str h.str
  raw := h.raw ∘ k.raw
  scalar := k.scalar ∘ h.scalar

lemma lobs {n n' : OraBindNode} (h : Tidy n n') : n'.tempLobs ⊆ n.tempLobs :=
  List.append_subset.2 ⟨List.Subset.trans h.arr (List.subset_append_left _ _),
    List.Subset.trans h.str (List.subset_append_right _ _)⟩

end Tidy

-- a bind can make the node one that holds a raw buffer or an array bind
structure Arms (n n' : OraBindNode) : Prop where
  value : n'.isValue = n.isValue
  arr : n'.arrLobs ⊆ n.arrLobs
  str : n'.strLobs ⊆ n.strLobs

namespace Arms

lemma same {n n' : OraBindNode} (hv : n'.isValue = n.isValue) (ha : n'.array = n.array)
    (hb : n'.buf = n.buf)
    (hs : n'.strlob = n.strlob) (hl : n'.lobAllocated = n.lobAllocated) : Arms n n' where
  value := hv
  arr := by simp only [arrLobs, ha, hb, List.Subset.refl]
  str := by simp only [strLobs, hs, hl, List.Subset.refl]

lemma emptied {n n' : OraBindNode} (hv : n'.isValue = n.isValue) (hb : n'.arrLobs = [])
    (hs : n'.strlob = n.strlob) (hl : n'.lobAllocated = n.lobAllocated) : Arms n n' where
  value := hv
  arr := hb ▸ List.nil_subset _
  str := by simp only [strLobs, hs, hl, List.Subset.refl]

lemma lobs {n n' : OraBindNode} (h : Arms n n') : n'.tempLobs ⊆ n.tempLobs :=
  List.append_subset.2 ⟨List.Subset.trans h.arr (List.subset_append_left _ _),
    List.Subset.trans h.str (List.subset_append_right _ _)⟩

end Arms

lemma Tidy.arms {n n' : OraBindNode} (h : Tidy n n') : Arms n n' := ⟨h.value, h.arr, h.str⟩

end OraBindNode

namespace World

def setNode (s i : ℕ) (f : OraBindNode → OraBindNode) (w : World) : World :=
  w.setStmt s (Stmt.setNode i f)

-- OCILobFreeTemporary() for the locator of a node; `lobFreed` says in which session
def freeTemporary (l : Locator) (w : World) : Answer × World :=
  (w.emit (.lobFreed l w.cur)).touch.ask .lobFreeTemporary

def strlobFree (s i : ℕ) (w : World) : Option Answer × World :=
  match (w.node s i).elim [] OraBindNode.strLobs with
  | l :: _ => if w.conn.lost then (none, w.touch) else ((w.freeTemporary l).map some id)
  | [] => (none, w)

-- the destructor of an array bind
def arraybindFree (s i : ℕ) (w : World) : World :=
  match (w.node s i).elim [] OraBindNode.arrLobs with
  | l :: _ => if w.conn.lost then w.touch else (w.freeTemporary l).2
  | [] => w

-- a new descriptor for a locator of a node, which must not be marked as having a temporary LOB
def describe (s i : ℕ) (f : OraBindNode → OraBindNode) (w : World) : World :=
  let t := w.setNode s i f
  match ((t.node s i).elim [] OraBindNode.tempLobs).filter
      (· ∉ (w.node s i).elim [] OraBindNode.tempLobs) with
  | l :: _ => t.emit (.overwritten l)
  | [] => t

-- a temporary LOB is only ever created in a session that is logged on
def createTemporary (w : World) : Answer × World :=
  let r := w.touch.ask .lobCreateTemporary
  if w.loggedOn then r else ({ r.1 with status := .invalidHandle }, r.2)

end World

def Answer.ok (a : Answer) : Bool := a.status == .success || a.status == .successWithInfo

namespace World

def strlobCreate (s i : ℕ) (w : World) : Answer × World :=
  let r := w.createTemporary
  if r.1.ok then (r.1, r.2.setNode s i fun n =>
    { n with strlob := n.strlob.map ({ · with session := some w.session }), lobAllocated := true })
  else r

def arraybindCreate (s i : ℕ) (w : World) : Answer × World :=
  let r := w.createTemporary
  if r.1.ok then (r.1, r.2.setNode s i fun n =>
    match n.buf with
    | .arraybind a => { n with buf := .arraybind { a with
        loc := a.loc.map ({ · with session := some w.session }), lobAllocated := true } }
    | _ => n)
  else r

end World

-- the moves of the functions of one node: those that release, and with `true` those that bind
inductive NodeMove (h : Handler) (s i : ℕ) : Bool → World → World → Prop
  | plain {b w t} (hp : Plain h w t) : NodeMove h s i b w t
  | tidy {b} (w f) (hf : ∀ n, OraBindNode.Tidy n (f n)) : NodeMove h s i b w (w.setNode s i f)
  | strlobFree {b} (w) : NodeMove h s i b w (w.strlobFree s i).2
  | arraybindFree {b} (w) : NodeMove h s i b w (w.arraybindFree s i)
  | arm (w f) (hf : ∀ n, OraBindNode.Arms n (f n)) : NodeMove h s i true w (w.setNode s i f)
  | describe (w f) (hf : ∀ n, (f n).isValue = n.isValue) : NodeMove h s i true w (w.describe s i f)
  | strlobCreate (w) : NodeMove h s i true w (w.strlobCreate s i).2
  | arraybindCreate (w) : NodeMove h s i true w (w.arraybindCreate s i).2

instance (h : Handler) (s i : ℕ) (b : Bool) : HasPlain h (NodeMove h s i b) := ⟨.plain⟩

abbrev NodeAct (h : Handler) (s i : ℕ) (b : Bool) := Act (NodeMove h s i b)

namespace NodeAct

variable {h : Handler} {s i : ℕ} {b : Bool}

-- a node that a nested release has deleted is not looked at again
def node : NodeAct h s i b (Option OraBindNode) := do
  touch
  let w ← Act.get
  return w.node s i

def stmt : NodeAct h s i b Stmt := do
  touch
  let w ← Act.get
  return w.stmt s

def modify (f : OraBindNode → OraBindNode) (hf : ∀ n, OraBindNode.Tidy n (f n)) :
    NodeAct h s i b Unit := do
  touch
  Act.step (fun w => ((), w.setNode s i f)) fun w => .tidy w f hf

def arm (f : OraBindNode → OraBindNode) (hf : ∀ n, OraBindNode.Arms n (f n)) :
    NodeAct h s i true Unit := do
  touch
  Act.step (fun w => ((), w.setNode s i f)) fun w => .arm w f hf

def describe (f : OraBindNode → OraBindNode) (hf : ∀ n, (f n).isValue = n.isValue) :
    NodeAct h s i true Unit := do
  touch
  Act.step (fun w => ((), w.describe s i f)) fun w => .describe w f hf

end NodeAct

end OracleDriver
