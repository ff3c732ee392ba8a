import OracleDriver.BindValues

/-! The indicators of the positions of a prepared statement over its executions. -/

namespace OracleDriver

-- the indicator that a bind registers: `indicator` of the node, its `ind`, or that of an Oracle object
inductive Cell where
  | shared
  | own
  | object
deriving DecidableEq

-- what a bind carries: no value, a NULL in a null buffer or in one of its own, or another value
inductive Given where
  | plain
  | null (empty : Bool)
  | value
deriving DecidableEq

structure Registration where
  cell : Cell
  given : Given
deriving DecidableEq

inductive BindPath where
  | value
  | placeholder
  | refused
deriving DecidableEq

def BindCase.path : BindCase → BindPath
  | .value _ _ => .value
  | .placeholder => .placeholder
  | .refused _ => .refused

namespace OraBindNode

-- which function bind() calls; it raises an exception itself where the types do not allow an IN OUT
-- value
def bindPath (c : Setting) (arraySize : ℕ) (n : OraBindNode) : BindPath := (n.bindCase c arraySize).path

-- bindValue() registers a null buffer for the NULL of a value, bindPlaceholder() one for every value
def given (n : OraBindNode) : Given :=
  if n.isValue then
    if n.value.resolveIndirect.isNullOrNothing then .null true else .value
  else if n.value.isNothing then .plain
  else if n.value.isNullOrNothing then .null false
  else .value

def cellOf (n : OraBindNode) : BindPath → Cell
  | .value =>
    match n.value.resolveIndirect with
    | .hash _ => if n.isValue then .object else .shared
    | _ => .shared
  | _ => if n.isType "date" then .shared else if n.isNamedType then .object else .own

def registration (n : OraBindNode) (p : BindPath) : Registration := ⟨n.cellOf p, n.given⟩

-- resetValue() and clearPlaceholder() do nothing for a node without a type
def endBind (n : OraBindNode) : OraBindNode :=
  if n.dtype = .unset then n
  else if n.isValue && n.array then n.endArray
  else n.endArray.unsetDtype

def markArray (arraySize : ℕ) (n : OraBindNode) : OraBindNode :=
  { n with array := n.array || arraySize != 0 }

end OraBindNode

-- the type a bind leaves, if it comes to OCIBindByPos(), and the indicator of the Oracle object it makes
structure BindEnd where
  dtype : Dtype
  registered : Bool
  object : ℤ

-- `sent` is what the next execution sends, but for array binds
structure Position where
  node : OraBindNode
  object : ℤ
  sent : Option Registration

namespace Position

def parsed (lib : QoreLib) (v : QoreValue) (item : Option Text) : Position :=
  ⟨(Slot.parsed lib v item).node, 0, none⟩

def clear (s : Position) : Position := { s with node := s.node.endBind }

def set (lib : QoreLib) (v : QoreValue) (s : Position) : Position :=
  { s with node :=
      if s.node.isValue then s.node.endBind.setValue v
      else (OraBindNode.describePlaceholder lib v s.node.endBind.cleared).1 }

def bind (c : Setting) (arraySize : ℕ) (e : BindEnd) (s : Position) : Position :=
  match s.node.bindPath c arraySize with
  | .refused => s
  | p =>
    let n := (if p = .value then s.node.setInd 0 else s.node).markArray arraySize |>.setDtype e.dtype
    if e.registered then ⟨n, e.object, if arraySize ≠ 0 then none else some (s.node.registration p)⟩
    else { s with node := n }

def cellValue (s : Position) : Cell → ℤ
  | .shared => s.node.indicator
  | .own => s.node.ind
  | .object => s.object

def writeCell (i : ℤ) (s : Position) : Cell → Position
  | .shared => { s with node := { s.node with indicator := i } }
  | .own => { s with node := { s.node with ind := i } }
  | .object => { s with object := i }

-- the server writes the indicator that is registered, or leaves it alone
def execute (w : Option ℤ) (s : Position) : Position :=
  match s.sent, w with
  | some r, some i => s.writeCell i r.cell
  | _, _ => s

def sendsNull (r : Registration) (s : Position) : Bool :=
  match r.given with
  | .null true => true
  | _ => s.cellValue r.cell == -1

-- OCI_IND_NULL and OCI_IND_BADNULL
def atomicNull (i : ℤ) : Bool := i == -1 || i == -2

-- if OraBindNode::getValue() gives NULL; none where it takes the buffer for an array
def getsNull (r : Registration) (s : Position) : Option Bool :=
  if s.node.array then none
  else some (decide (s.node.indicator ≠ 0 ∨ s.node.ind = -1 ∨ r.cell = .object ∧ atomicNull s.object))

def setsNull (r : Registration) (w : Option ℤ) : Bool :=
  match r.cell with
  | .object => w.any atomicNull
  | _ => decide (w = some (-1))

-- a scalar position sends NULL for a NULL and for nothing else
def SendsFresh (r : Registration) (s : Position) : Prop :=
  r.cell ≠ .object →
    match r.given with
    | .plain => True
    | .null _ => s.sendsNull r = true
    | .value => s.sendsNull r = false

-- the value of an output position is NULL if the server set NULL in this execution
def ReadsFresh (r : Registration) (w : Option ℤ) (s : Position) : Prop :=
  s.node.isPlaceholder → (s.execute w).getsNull r = some (setsNull r w)

def Fresh (w : Option ℤ) (s : Position) : Prop :=
  ∀ r, s.sent = some r → s.SendsFresh r ∧ s.ReadsFresh r w

end Position

-- a step at one position: a release, a bind, or an execution with what the server writes
inductive LogEntry where
  | released
  | bound (p : BindPath) (r : Registration) (arraySize : ℕ) (e : BindEnd)
  | executed (w : Option ℤ)

-- what the steps of a history leave, the last one first
namespace Log

-- the bind that the next execution uses
def sent : List LogEntry → Option Registration
  | [] => none
  | .bound p r arraySize e :: l =>
    if p ≠ .refused ∧ e.registered then if arraySize ≠ 0 then none else some r else sent l
  | _ :: l => sent l

-- what the server wrote last to the cell; bindValue() sets the `ind` of a node back, and a bind makes
-- the object that it registers
def left (cell : Cell) : List LogEntry → ℤ
  | [] => 0
  | .released :: l => left cell l
  | .bound p _ _ e :: l =>
    if cell = .own ∧ p = .value then 0
    else if cell = .object ∧ p ≠ .refused ∧ e.registered then e.object
    else left cell l
  | .executed w :: l =>
    match sent l, w with
    | some r, some i => if r.cell = cell then i else left cell l
    | _, _ => left cell l

-- a bind has set the type of the node, and nothing has released it since
def typed : List LogEntry → Bool
  | [] => false
  | .released :: _ => false
  | .bound p _ _ e :: l => if p = .refused then typed l else e.dtype != .unset
  | .executed _ :: l => typed l

-- an array bind that set no type is not released
def arrayLeft : List LogEntry → Bool
  | [] => false
  | .released :: l => !typed l && arrayLeft l
  | .bound p _ arraySize _ :: l => p != .refused && arraySize != 0 || arrayLeft l
  | .executed _ :: l => arrayLeft l

-- the server wrote no NULL to the cell of a value, and one to the cell of a NULL that is bound as a
-- placeholder
def SendsClean (r : Registration) (l : List LogEntry) : Prop :=
  match r.cell, r.given with
  | .object, _ | _, .plain | _, .null true => True
  | cell, .null false => left cell l = -1
  | cell, .value => left cell l ≠ -1

-- the server sets NULL, or it sets zero in `indicator` and wrote no NULL to the other cells
def ReadsClean (r : Registration) (w : Option ℤ) (l : List LogEntry) : Prop :=
  match r.cell with
  | .shared => w = some (-1) ∨ w.getD (left .shared l) = 0 ∧ left .own l ≠ -1
  | .own => w = some (-1) ∨ left .shared l = 0 ∧ w.getD (left .own l) ≠ -1
  | .object => w.any Position.atomicNull ∨ left .shared l = 0 ∧ left .own l ≠ -1 ∧
      Position.atomicNull (w.getD (left .object l)) = false

-- the history before an execution, and what the server writes in it
def Clean (placeholder : Bool) (l : List LogEntry) (w : Option ℤ) : Prop :=
  ∀ r, sent l = some r →
    SendsClean r l ∧ (placeholder → arrayLeft l = false ∧ ReadsClean r w l)

end Log

namespace OraBindNode

-- what set() makes of a node in which no bind has left anything
def argued (lib : QoreLib) (v : QoreValue) (n : OraBindNode) : OraBindNode :=
  if n.isValue then n.setValue v else (describePlaceholder lib v n.cleared).1

-- the nodes are bound in one way
structure SameArgument (n m : OraBindNode) : Prop where
  isValue : n.isValue = m.isValue
  value : n.value = m.value
  phType : n.phType = m.phType

namespace SameArgument

variable {n m : OraBindNode}

lemma trans {k : OraBindNode} (h : SameArgument n m) (h' : SameArgument m k) : SameArgument n k :=
  ⟨h.isValue.trans h'.isValue, h.value.trans h'.value, h.phType.trans h'.phType⟩

lemma bindPath (h : SameArgument n m) (c : Setting) (arraySize : ℕ) :
    n.bindPath c arraySize = m.bindPath c arraySize := by
  cases n
  cases m
  obtain ⟨hi, hv, ht⟩ := h
  cases hi
  cases hv
  cases ht
  rfl

lemma registration (h : SameArgument n m) (p : BindPath) : n.registration p = m.registration p := by
  cases n
  cases m
  obtain ⟨hi, hv, ht⟩ := h
  cases hi
  cases hv
  cases ht
  rfl

lemma cleared (h : SameArgument n m) : SameArgument n.cleared m.cleared where
  isValue := by rw [cleared_isValue, cleared_isValue, h.isValue]
  value := by rw [cleared_value, cleared_value, h.value]
  phType := by
    simp only [OraBindNode.cleared, clearType, resetTmp, clearAltOutput, unsetDtype]
    split <;> split <;> rfl

lemma describe (h : SameArgument n m) (lib : QoreLib) (v : QoreValue) :
    SameArgument (describePlaceholder lib v n).1 (describePlaceholder lib v m).1 where
  isValue := by rw [describePlaceholder_isValue, describePlaceholder_isValue, h.isValue]
  value := by rw [describePlaceholder_value, describePlaceholder_value, h.value]
  phType := by
    cases n
    cases m
    obtain ⟨hi, hv, ht⟩ := h
    cases hi
    cases hv
    cases ht
    cases v with
    | hash l =>
      simp only [describePlaceholder]
      cases (QoreValue.getKeyValue l "value").isNothing <;>
        cases QoreValue.getKeyValue l "type" with
        | nothing => dsimp only; split <;> split <;> simp_all [setPlaceholderIntern]
        | _ => rfl
    | _ => rfl

lemma argued (h : SameArgument n m) (lib : QoreLib) (v : QoreValue) :
    SameArgument (n.argued lib v) (m.argued lib v) := by
  rw [OraBindNode.argued, OraBindNode.argued, h.isValue]
  split
  · exact ⟨h.isValue, rfl, h.phType⟩
  · exact h.cleared.describe lib v

lemma endBind (n : OraBindNode) : SameArgument n.endBind n := by
  rw [OraBindNode.endBind]
  split
  · exact ⟨rfl, rfl, rfl⟩
  · split <;> exact ⟨rfl, rfl, rfl⟩

end SameArgument

-- what setPlaceholder() sets
lemma describePlaceholder_sets (lib : QoreLib) (v : QoreValue) (n : OraBindNode) :
    ∃ w size t, (describePlaceholder lib v n).1 =
      { n with value := w, phMaxsize := size, phType := t } := by
  cases v with
  | hash l =>
    simp only [describePlaceholder]
    generalize hm : (if (QoreValue.getKeyValue l "value").isNothing then n
      else { n with value := QoreValue.getKeyValue l "value" }) = m
    obtain ⟨w, rfl⟩ : ∃ w, m = { n with value := w } := by
      rw [← hm]
      split
      · exact ⟨n.value, rfl⟩
      · exact ⟨_, rfl⟩
    cases QoreValue.getKeyValue l "type" with
    | nothing =>
      by_cases hw : w.isNothing = true
      · exact ⟨w, _, _, congrArg Prod.fst (if_pos hw)⟩
      · exact ⟨w, _, _, congrArg Prod.fst (if_neg hw)⟩
    | _ => exact ⟨_, _, _, rfl⟩
  | _ => exact ⟨_, _, _, rfl⟩

-- set() leaves the indicators alone
structure KeepsCells (n m : OraBindNode) : Prop where
  ind : m.ind = n.ind
  indicator : m.indicator = n.indicator
  array : m.array = n.array
  dtype : m.isPlaceholder → m.dtype = .unset

lemma argued_keeps (lib : QoreLib) (v : QoreValue) (n : OraBindNode) :
    KeepsCells n (n.argued lib v) := by
  cases hv : n.isValue with
  | true =>
    rw [argued, if_pos hv]
    refine ⟨rfl, rfl, rfl, fun hp => ?_⟩
    have hvalue : (n.setValue v).isValue = true := hv
    rw [isPlaceholder, hvalue] at hp
    cases hp
  | false =>
    have hne : ¬n.isValue = true := by rw [hv]; exact Bool.false_ne_true
    obtain ⟨w, size, t, hd⟩ := describePlaceholder_sets lib v n.cleared
    rw [argued, if_neg hne, hd]
    simp only [cleared, clearType, resetTmp, clearAltOutput, unsetDtype]
    split <;> exact ⟨rfl, rfl, rfl, fun _ => rfl⟩

lemma endBind_ind (n : OraBindNode) : n.endBind.ind = n.ind := by
  rw [endBind]
  split
  · rfl
  · split <;> rfl

lemma endBind_indicator (n : OraBindNode) : n.endBind.indicator = n.indicator := by
  rw [endBind]
  split
  · rfl
  · split <;> rfl

lemma endBind_placeholder {n : OraBindNode} (hp : n.isPlaceholder = true) :
    n.endBind.dtype = .unset ∧ n.endBind.array = (!(n.dtype != .unset) && n.array) := by
  have hv : n.isValue = false := by simpa [isPlaceholder] using hp
  by_cases hd : n.dtype = .unset
  · rw [endBind, if_pos hd]
    simp [hd]
  · rw [endBind, if_neg hd, hv]
    simp [endArray, unsetDtype, hd]

end OraBindNode

namespace Position

-- the position holds what its history has left
structure Follows (s : Position) (n : OraBindNode) (l : List LogEntry) : Prop where
  argument : OraBindNode.SameArgument s.node n
  sent : s.sent = Log.sent l
  cells : ∀ cell, s.cellValue cell = Log.left cell l
  typed : s.node.isPlaceholder → (s.node.dtype != .unset) = Log.typed l
  array : s.node.isPlaceholder → s.node.array = Log.arrayLeft l

variable {s : Position} {n : OraBindNode} {l : List LogEntry} {r : Registration} {w : Option ℤ}

namespace Follows

lemma parsed (lib : QoreLib) (v : QoreValue) (item : Option Text) :
    Follows (Position.parsed lib v item) (Slot.parsed lib v item).node [] := by
  cases item with
  | none => exact ⟨⟨rfl, rfl, rfl⟩, rfl, fun cell => by cases cell <;> rfl, fun _ => rfl, fun _ => rfl⟩
  | some name =>
    obtain ⟨w, size, t, hd⟩ :=
      OraBindNode.describePlaceholder_sets lib v (.ofPlaceholder name (-1) none .nothing)
    have hnode : (Position.parsed lib v (some name)).node =
        { OraBindNode.ofPlaceholder name (-1) none .nothing with
          value := w, phMaxsize := size, phType := t } := hd
    refine ⟨⟨rfl, rfl, rfl⟩, rfl, fun cell => ?_, fun _ => ?_, fun _ => ?_⟩
    · cases cell with
      | shared => rw [cellValue, hnode]; rfl
      | own => rw [cellValue, hnode]; rfl
      | object => rfl
    · rw [hnode]; rfl
    · rw [hnode]; rfl

lemma released (h : Follows s n l) : Follows s.clear n (.released :: l) := by
  have hp : s.node.endBind.isPlaceholder = s.node.isPlaceholder := by
    rw [OraBindNode.isPlaceholder, OraBindNode.isPlaceholder,
      (OraBindNode.SameArgument.endBind _).isValue]
  refine ⟨(OraBindNode.SameArgument.endBind _).trans h.argument, h.sent, fun cell => ?_,
    fun hph => ?_, fun hph => ?_⟩
  · have hcell := h.cells cell
    cases cell with
    | shared => exact (OraBindNode.endBind_indicator _).trans hcell
    | own => exact (OraBindNode.endBind_ind _).trans hcell
    | object => exact hcell
  · have hunset := (OraBindNode.endBind_placeholder (hp.symm.trans hph)).1
    rw [clear, hunset]
    rfl
  · have hold := hp.symm.trans hph
    rw [Log.arrayLeft, ← h.typed hold, ← h.array hold]
    exact (OraBindNode.endBind_placeholder hold).2

lemma set (h : Follows s n l) (lib : QoreLib) (v : QoreValue) :
    Follows (s.set lib v) (n.argued lib v) (.released :: l) := by
  have hnode : (s.set lib v).node = s.node.endBind.argued lib v := by
    rw [Position.set, OraBindNode.argued, (OraBindNode.SameArgument.endBind _).isValue]
  have hkeeps := OraBindNode.argued_keeps lib v s.node.endBind
  have hend := h.released
  have hsame := hend.argument.argued lib v
  have hp : (s.set lib v).node.isPlaceholder = s.node.endBind.isPlaceholder := by
    rw [hnode, OraBindNode.argued]
    split
    · rfl
    · rw [OraBindNode.isPlaceholder, OraBindNode.describePlaceholder_isValue,
        OraBindNode.cleared_isValue]
      rfl
  refine ⟨hnode ▸ hsame, h.sent, fun cell => ?_, fun hph => ?_, fun hph => ?_⟩
  · have hcell := hend.cells cell
    cases cell with
    | shared => rw [cellValue, hnode, hkeeps.indicator]; exact hcell
    | own => rw [cellValue, hnode, hkeeps.ind]; exact hcell
    | object => exact hcell
  · rw [hnode] at hph ⊢
    rw [hkeeps.dtype hph]
    rfl
  · rw [hnode, hkeeps.array]
    exact hend.array (hp.symm.trans hph)

-- a bind leaves the argument, `indicator` and what is not its own
lemma bound_node (h : Follows s n l) {p : BindPath} (hp : p ≠ .refused) (r : Registration)
    (arraySize : ℕ) (e : BindEnd) {m : OraBindNode}
    (hm : m = ((if p = .value then s.node.setInd 0 else s.node).markArray arraySize).setDtype e.dtype) :
    OraBindNode.SameArgument m n ∧ m.indicator = Log.left .shared (.bound p r arraySize e :: l) ∧
      m.ind = Log.left .own (.bound p r arraySize e :: l) ∧
      (m.isPlaceholder → (m.dtype != .unset) = Log.typed (.bound p r arraySize e :: l)) ∧
      (m.isPlaceholder → m.array = Log.arrayLeft (.bound p r arraySize e :: l)) := by
  have hshared : s.node.indicator = Log.left .shared l := h.cells .shared
  have hown : s.node.ind = Log.left .own l := h.cells .own
  have hsame := h.argument
  have hph : m.isPlaceholder = s.node.isPlaceholder := by
    rw [hm]
    split <;> rfl
  refine ⟨?_, ?_, ?_, fun _ => ?_, fun hmp => ?_⟩
  · rw [hm]
    split <;> exact ⟨hsame.isValue, hsame.value, hsame.phType⟩
  · have hleft : Log.left .shared (.bound p r arraySize e :: l) = Log.left .shared l := by
      simp [Log.left]
    rw [hleft, hm]
    split <;> exact hshared
  · by_cases hv : p = .value
    · have hleft : Log.left .own (.bound p r arraySize e :: l) = 0 := by simp [Log.left, hv]
      rw [hleft, hm, if_pos hv]
      rfl
    · have hleft : Log.left .own (.bound p r arraySize e :: l) = Log.left .own l := by
        simp [Log.left, hv]
      rw [hleft, hm, if_neg hv]
      exact hown
  · rw [hm, Log.typed, if_neg hp]
    rfl
  · have hbne : (p != .refused) = true := bne_iff_ne.mpr hp
    rw [Log.arrayLeft, ← h.array (hph.symm.trans hmp), hbne, Bool.true_and, Bool.or_comm, hm]
    split <;> rfl

lemma bound (h : Follows s n l) (c : Setting) (arraySize : ℕ) (e : BindEnd) :
    Follows (s.bind c arraySize e) n
      (.bound (n.bindPath c arraySize) (n.registration (n.bindPath c arraySize)) arraySize e :: l) := by
  have hpath := h.argument.bindPath c arraySize
  have hreg := h.argument.registration (n.bindPath c arraySize)
  by_cases hp : n.bindPath c arraySize = .refused
  · have hbind : s.bind c arraySize e = s := by rw [Position.bind, hpath, hp]
    rw [hbind, hp]
    refine ⟨h.argument, ?_, fun cell => ?_, ?_, ?_⟩
    · simpa [Log.sent] using h.sent
    · simpa [Log.left] using h.cells cell
    · simpa [Log.typed] using h.typed
    · simpa [Log.arrayLeft] using h.array
  generalize hm : ((if n.bindPath c arraySize = .value then s.node.setInd 0 else s.node).markArray
    arraySize).setDtype e.dtype = m
  obtain ⟨hsame, hshared, hown, htyped, harray⟩ :=
    h.bound_node hp (n.registration (n.bindPath c arraySize)) arraySize e hm.symm
  have hbind : s.bind c arraySize e = if e.registered then
      ⟨m, e.object, if arraySize ≠ 0 then none else some (n.registration (n.bindPath c arraySize))⟩
      else { s with node := m } := by
    rw [Position.bind, hpath, ← hm, ← hreg]
    split
    · rename_i hrefused
      exact absurd hrefused hp
    · rfl
  rw [hbind]
  by_cases he : e.registered = true
  · rw [if_pos he]
    refine ⟨hsame, ?_, fun cell => ?_, htyped, harray⟩
    · exact (if_pos ⟨hp, he⟩).symm
    · cases cell with
      | shared => exact hshared
      | own => exact hown
      | object => simp [cellValue, Log.left, hp, he]
  · rw [if_neg he]
    refine ⟨hsame, ?_, fun cell => ?_, htyped, harray⟩
    · rw [Log.sent, if_neg fun hboth => he hboth.2]
      exact h.sent
    · cases cell with
      | shared => exact hshared
      | own => exact hown
      | object => simpa [cellValue, Log.left, he] using h.cells .object

lemma executed (h : Follows s n l) (w : Option ℤ) : Follows (s.execute w) n (.executed w :: l) := by
  cases hr : Log.sent l with
  | none =>
    have hsame : s.execute w = s := by simp [Position.execute, h.sent, hr]
    rw [hsame]
    exact ⟨h.argument, h.sent, fun cell => (h.cells cell).trans (by simp [Log.left, hr]), h.typed,
      h.array⟩
  | some r =>
    cases w with
    | none =>
      have hsame : s.execute none = s := by simp [Position.execute]
      rw [hsame]
      exact ⟨h.argument, h.sent, fun cell => (h.cells cell).trans (by simp [Log.left]), h.typed,
        h.array⟩
    | some i =>
      have hwrite : s.execute (some i) = s.writeCell i r.cell := by simp [Position.execute, h.sent, hr]
      have hleft : ∀ cell, Log.left cell (.executed (some i) :: l) =
          if r.cell = cell then i else s.cellValue cell := by
        intro cell
        simp only [Log.left, hr, h.cells cell]
      rw [hwrite]
      refine ⟨?_, ?_, fun cell => ?_, ?_, ?_⟩
      · cases r.cell <;> exact ⟨h.argument.isValue, h.argument.value, h.argument.phType⟩
      · cases r.cell <;> exact h.sent
      · rw [hleft]
        cases r.cell <;> cases cell <;> rfl
      · cases r.cell <;> exact h.typed
      · cases r.cell <;> exact h.array

end Follows

end Position

-- one step of a history at the positions of a statement; every call is made of such steps
inductive IndicatorStep where
  | set (i : ℕ) (v : QoreValue)
  | clear (i : ℕ)
  | bind (i arraySize : ℕ) (e : BindEnd)
  | execute (writes : ℕ → Option ℤ)

namespace IndicatorRun

variable (c : Setting)

def prepared (args : Option (List QoreValue)) (items : List (Option Text)) : List Position :=
  items.mapIdx fun k item => Position.parsed c.lib (retrieveEntry args k) item

def step (ps : List Position) : IndicatorStep → List Position
  | .set i v => ps.modify i (Position.set c.lib v)
  | .clear i => ps.modify i Position.clear
  | .bind i arraySize e => ps.modify i (Position.bind c arraySize e)
  | .execute writes => ps.mapIdx fun k s => s.execute (writes k)

def run (ps : List Position) (steps : List IndicatorStep) : List Position := steps.foldl (step c) ps

-- the positions that a step executes meet the condition `P` with what the server writes there
def Executes (P : Option ℤ → Position → Prop) (ps : List Position) : IndicatorStep → Prop
  | .execute writes => ∀ k s, ps[k]? = some s → P (writes k) s
  | _ => True

def Always (P : Option ℤ → Position → Prop) : List Position → List IndicatorStep → Prop
  | _, [] => True
  | ps, x :: steps => Executes P ps x ∧ Always P (step c ps x) steps

-- what the steps set at the position `k`
def argue (k : ℕ) (n : OraBindNode) : IndicatorStep → OraBindNode
  | .set i v => if i = k then n.argued c.lib v else n
  | _ => n

def entry (k : ℕ) (n : OraBindNode) : IndicatorStep → Option LogEntry
  | .set i _ | .clear i => if i = k then some .released else none
  | .bind i arraySize e =>
    if i = k then
      some (.bound (n.bindPath c arraySize) (n.registration (n.bindPath c arraySize)) arraySize e)
    else none
  | .execute writes => some (.executed (writes k))

-- the history of a position, from its argument and the steps alone
def history (k : ℕ) : OraBindNode → List LogEntry → List IndicatorStep → List LogEntry
  | _, l, [] => l
  | n, l, x :: steps => history k (argue c k n x) ((entry c k n x).toList ++ l) steps

-- at every execution, the history of each position before it is clean with what the server writes
def Clean (args : Option (List QoreValue)) (items : List (Option Text)) (steps : List IndicatorStep) :
    Prop :=
  ∀ pre writes, pre ++ [.execute writes] <+: steps → ∀ k item, items[k]? = some item →
    Log.Clean item.isSome (history c k (Slot.parsed c.lib (retrieveEntry args k) item).node [] pre)
      (writes k)

variable {c} {ps : List Position} {s : Position} {n : OraBindNode} {l : List LogEntry} {k : ℕ}

lemma always_iff {P : Option ℤ → Position → Prop} (steps : List IndicatorStep) :
    Always c P ps steps ↔ ∀ pre writes, pre ++ [.execute writes] <+: steps →
      ∀ k s, (run c ps pre)[k]? = some s → P (writes k) s := by
  induction steps generalizing ps with
  | nil =>
    refine iff_of_true trivial fun pre writes hpre => ?_
    rw [List.prefix_nil, List.append_eq_nil_iff] at hpre
    cases hpre.2
  | cons x steps ih =>
    rw [Always, ih]
    constructor
    · rintro ⟨hnow, hlater⟩ pre writes hpre
      cases pre with
      | nil =>
        obtain ⟨rfl, -⟩ := List.cons_prefix_cons.mp hpre
        exact hnow
      | cons y pre =>
        obtain ⟨rfl, hrest⟩ := List.cons_prefix_cons.mp hpre
        exact hlater pre writes hrest
    · intro h
      refine ⟨?_, fun pre writes hpre => h (x :: pre) writes (List.cons_prefix_cons.mpr ⟨rfl, hpre⟩)⟩
      cases x with
      | execute writes => exact h [] writes (List.cons_prefix_cons.mpr ⟨rfl, List.nil_prefix⟩)
      | _ => trivial

end IndicatorRun

end OracleDriver
