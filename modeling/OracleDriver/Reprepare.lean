import OracleDriver.Fetch

/-! A statement that is prepared again for a new session, and a new one with the same text and bind
nodes. -/

namespace OracleDriver

-- how a placeholder is bound, which its maximum size has no part in
inductive BoundAs where
  | keeps (t : Dtype)
  | raw (size : ℤ)
  | text
deriving DecidableEq, Repr

namespace OraBindNode

variable (c : Setting)

def rawAs (n : OraBindNode) : BoundAs :=
  match NodeAct.rawBytes c n with
  | .ok (some size) => .raw (max oraRawSize (size + 4) : ℕ)
  | _ => .raw oraRawSize

-- bindPlaceholder() without an array bind
def placeholderAs (n : OraBindNode) : BoundAs :=
  if n.isType "string" then .text
  else if n.isType "date" then .keeps .timestamp
  else if n.isType "binary" then n.rawAs c
  else if n.isType "clob" then .keeps .clob
  else if n.isType "blob" then .keeps .blob
  else if n.isType "integer" then .keeps .int
  else if n.isType "float" then .keeps .flt
  else if n.isType "number" then .keeps .num
  else if n.isType "hash" || n.isType "resultset" then .keeps .rset
  else .keeps .nty

def integerType (i : ℤ) : Dtype := if i ≤ maxInt32 && -maxInt32 ≤ i then .int else .str

-- bindValue() with the value of a placeholder
def valueAs : QoreValue → Dtype
  | .string _ => .str
  | .date _ _ => .timestamp
  | .binary _ => .bin
  | .int i => integerType i
  | .float _ => .flt
  | _ => .unset

-- bind() of a placeholder, which an array bind and an error leave without a type
def boundAs (arraySize : ℕ) (n : OraBindNode) : BoundAs :=
  match n.bindCase c arraySize with
  | .value v _ => .keeps (valueAs v)
  | .placeholder => if arraySize ≠ 0 then .keeps .unset else n.placeholderAs c
  | .refused _ => .keeps .unset

def bindType (arraySize : ℕ) (n : OraBindNode) : Dtype × ℤ :=
  match n.boundAs c arraySize with
  | .keeps t => (t, n.phMaxsize)
  | .raw size => (.lvb, size)
  | .text => if n.phMaxsize < 0 then (.avc, dbiDefaultStrLen) else (.str, n.phMaxsize)

def bound (arraySize : ℕ) (n : OraBindNode) : OraBindNode :=
  if n.isValue then n
  else { n with dtype := (n.bindType c arraySize).1, phMaxsize := (n.bindType c arraySize).2 }

-- a string placeholder without a size, which is bound as a string and not as an array or with a value
def Unsized (arraySize : ℕ) (n : OraBindNode) : Prop :=
  n.isPlaceholder = true ∧ n.boundAs c arraySize = .text ∧ n.phMaxsize < 0

-- the node has the description of the other one and the maximum size of its bind
structure Kept (arraySize : ℕ) (n m : OraBindNode) : Prop where
  isValue : m.isValue = n.isValue
  value : m.value = n.value
  phType : m.phType = n.phType
  phMaxsize : n.isPlaceholder = true → m.phMaxsize = (n.bindType c arraySize).2

variable {c} {a : ℕ} {n m : OraBindNode}

lemma boundAs_congr (hi : m.isValue = n.isValue) (hv : m.value = n.value) (ht : m.phType = n.phType) :
    m.boundAs c a = n.boundAs c a := by
  cases m with
  | mk isValue _ _ phType _ value =>
    cases hi
    cases hv
    cases ht
    rfl

lemma Kept.bindType (hk : Kept c a n m) (hp : n.isPlaceholder = true) :
    (n.Unsized c a → m.bindType c a = (.str, dbiDefaultStrLen)) ∧
      (¬ n.Unsized c a → m.bindType c a = n.bindType c a) := by
  have has := boundAs_congr (c := c) (a := a) hk.isValue hk.value hk.phType
  have hsize := hk.phMaxsize hp
  constructor
  · rintro ⟨-, htext, hneg⟩
    simp only [OraBindNode.bindType, htext, if_pos hneg] at hsize
    simp [OraBindNode.bindType, has, htext, hsize, dbiDefaultStrLen]
  · intro hu
    simp only [OraBindNode.bindType, has] at hsize ⊢
    cases hb : n.boundAs c a with
    | keeps t => simp only [hb] at hsize ⊢; rw [hsize]
    | raw size => rfl
    | text =>
      have hpos : ¬ n.phMaxsize < 0 := fun hneg => hu ⟨hp, hb, hneg⟩
      simp only [hb, if_neg hpos] at hsize ⊢
      rw [hsize, if_neg hpos]

lemma Kept.bound (hk : Kept c a n m) : Kept c a n (m.unsetDtype.bound c a) := by
  have hiv : m.unsetDtype.isValue = n.isValue := hk.isValue
  cases hp : n.isValue with
  | true =>
    have hm : m.unsetDtype.bound c a = m.unsetDtype := if_pos (hiv.trans hp)
    rw [hm]
    exact ⟨hiv, hk.value, hk.phType, fun h => by simp [isPlaceholder, hp] at h⟩
  | false =>
    have hph : n.isPlaceholder = true := by simp [isPlaceholder, hp]
    have hk' : Kept c a n m.unsetDtype := ⟨hiv, hk.value, hk.phType, hk.phMaxsize⟩
    have hm : m.unsetDtype.bound c a = { m.unsetDtype with
        dtype := (m.unsetDtype.bindType c a).1, phMaxsize := (m.unsetDtype.bindType c a).2 } :=
      if_neg (by simp [hiv, hp])
    rw [hm]
    refine ⟨hiv, hk.value, hk.phType, fun _ => ?_⟩
    by_cases hu : n.Unsized c a
    · have hn : (n.bindType c a).2 = dbiDefaultStrLen := by simp [OraBindNode.bindType, hu.2.1, hu.2.2]
      rw [hn, (hk'.bindType hph).1 hu]
    · rw [(hk'.bindType hph).2 hu]

lemma kept_bound (n : OraBindNode) : Kept c a n (n.unsetDtype.bound c a) := by
  have hb : n.unsetDtype.bindType c a = n.bindType c a := rfl
  cases hp : n.isValue with
  | true =>
    have hm : n.unsetDtype.bound c a = n.unsetDtype := if_pos hp
    rw [hm]
    exact ⟨rfl, rfl, rfl, fun h => by simp [isPlaceholder, hp] at h⟩
  | false =>
    have hm : n.unsetDtype.bound c a = { n.unsetDtype with
        dtype := (n.unsetDtype.bindType c a).1, phMaxsize := (n.unsetDtype.bindType c a).2 } :=
      if_neg (by simp [unsetDtype, hp])
    rw [hm, hb]
    exact ⟨rfl, rfl, rfl, fun _ => rfl⟩

end OraBindNode

-- a statement with the prefetch row count that is set on its handle
structure Prepared where
  stmt : Stmt
  attr : ℕ

-- the array size that the lists among the values give
def scanArraySize (nodes : List OraBindNode) : ℕ :=
  nodes.foldl (fun size n =>
    if n.isValue then
      match n.value with
      | .list l => if size = 0 then l.length else size
      | _ => size
    else size) 0

namespace Prepared

variable (c : Setting) (select : Bool)

-- prepare() without an error: a new handle, and the nodes are bound
def prepare (P : Prepared) : Prepared where
  stmt :=
    let S := { P.stmt with stmthp := true, isSelect := P.stmt.isSelect || select }
    if S.nodeList.isEmpty then S
    else { S with
      arraySize := scanArraySize S.nodeList
      nodeList := S.nodeList.map (OraBindNode.bound c (scanArraySize S.nodeList)) }
  attr := 1

-- a new statement with nodes that have not been bound
def new (nodes : List OraBindNode) : Prepared :=
  prepare c select ⟨{ Stmt.new with nodeList := nodes.map OraBindNode.unsetDtype }, 1⟩

-- QorePreparedStatement::clear()
def clear (P : Prepared) : Prepared :=
  { P with stmt := { P.stmt.dropHandle with
      nodeList := P.stmt.nodeList.map OraBindNode.unsetDtype }.dropColumns.undefine }

def again (P : Prepared) : Prepared := (P.clear).prepare c select

end Prepared

-- the calls of a history with their outcomes; `recover` is an execution that makes the session again
inductive StmtCall where
  | execute
  | describe
  | next (found : Bool)
  | fetch (rows : ℤ) (attrSet found : Bool) (count : Option ℕ)
  | getOutput
  | recover

namespace Prepared

variable (c : Setting) (select : Bool)

def step (P : Prepared) : StmtCall → Prepared
  | .execute | .getOutput => P
  | .describe =>
    if P.stmt.defined then P
    else { P with
      stmt := { P.stmt with columns := some (P.stmt.columns.getD ⟨false, []⟩), defined := true } }
  | .next found => { P with stmt := { P.stmt with fetchDone := P.stmt.fetchDone || found } }
  | .fetch rows attrSet found count =>
    if P.stmt.fetchWarned then P
    else if P.stmt.fetchComplete then { P with stmt := { P.stmt with fetchWarned := true } }
    else if P.stmt.prefetchRows = prefetchRowCount rows then
      { P with stmt := { P.stmt with
          fetchDone := P.stmt.fetchDone || found || count.isSome
          fetchComplete := count.any fun n => (n : ℤ) < rows } }
    else if attrSet then
      { stmt := { P.stmt with
          prefetchRows := prefetchRowCount rows
          fetchDone := P.stmt.fetchDone || found || count.isSome
          fetchComplete := count.any fun n => (n : ℤ) < rows }
        attr := prefetchRowCount rows }
    else P
  | .recover => P.again c select

def run (P : Prepared) (calls : List StmtCall) : Prepared := calls.foldl (step c select) P

-- what later calls see of the statement
structure Observed where
  isSelect : Bool
  fetchDone : Bool
  fetchComplete : Bool
  fetchWarned : Bool
  arraySize : ℕ
  defined : Bool
  prefetchAgrees : Bool
  placeholders : List (Dtype × ℤ)
deriving DecidableEq

def placeholderTypes (nodes : List OraBindNode) : List (Dtype × ℤ) :=
  (nodes.filter OraBindNode.isPlaceholder).map fun n => (n.dtype, n.phMaxsize)

def observed (P : Prepared) : Observed where
  isSelect := P.stmt.isSelect
  fetchDone := P.stmt.fetchDone
  fetchComplete := P.stmt.fetchComplete
  fetchWarned := P.stmt.fetchWarned
  arraySize := P.stmt.arraySize
  defined := P.stmt.defined
  prefetchAgrees := P.stmt.prefetchRows == P.attr
  placeholders := placeholderTypes P.stmt.nodeList

-- what a history leaves alone
structure Inv (nodes : List OraBindNode) (P : Prepared) : Prop where
  kept : List.Forall₂ (OraBindNode.Kept c (scanArraySize nodes)) nodes P.stmt.nodeList
  arraySize : P.stmt.arraySize = scanArraySize nodes
  isSelect : P.stmt.isSelect = select

variable {c select} {nodes : List OraBindNode} {P : Prepared}

lemma scanArraySize_congr {a : ℕ} {nodes' : List OraBindNode}
    (h : List.Forall₂ (OraBindNode.Kept c a) nodes nodes') :
    scanArraySize nodes' = scanArraySize nodes := by
  have hfold : ∀ size, (nodes'.foldl (fun size n =>
        if n.isValue then
          match n.value with
          | .list l => if size = 0 then l.length else size
          | _ => size
        else size) size) =
      nodes.foldl (fun size n =>
        if n.isValue then
          match n.value with
          | .list l => if size = 0 then l.length else size
          | _ => size
        else size) size := by
    induction h with
    | nil => exact fun _ => rfl
    | cons hk _ ih =>
      intro size
      rw [List.foldl_cons, List.foldl_cons, hk.isValue, hk.value]
      exact ih _
  exact hfold 0

lemma scanArraySize_unset (nodes : List OraBindNode) :
    scanArraySize (nodes.map OraBindNode.unsetDtype) = scanArraySize nodes := by
  rw [scanArraySize, List.foldl_map]
  rfl

lemma inv_prepare {S : Stmt} {attr : ℕ}
      (hk : List.Forall₂ (fun n m => OraBindNode.Kept c (scanArraySize nodes) n
      (m.bound c (scanArraySize nodes))) nodes S.nodeList)
    (hscan : scanArraySize S.nodeList = scanArraySize nodes) (hsize : nodes = [] → S.arraySize = 0)
    (hsel : S.isSelect = false) : Inv c select nodes (prepare c select ⟨S, attr⟩) := by
  cases hnil : S.nodeList with
  | nil =>
    rw [hnil, List.forall₂_nil_right_iff] at hk
    subst hk
    refine ⟨?_, ?_, ?_⟩
    · simp [prepare, hnil]
    · simpa [prepare, hnil, scanArraySize] using hsize rfl
    · simp [prepare, hnil, hsel]
  | cons n rest =>
    refine ⟨?_, ?_, ?_⟩
    · simp only [prepare, hnil, List.isEmpty_cons, Bool.false_eq_true, if_false]
      rw [← hnil, hscan, List.forall₂_map_right_iff]
      exact hk
    · simp only [prepare, hnil, List.isEmpty_cons, Bool.false_eq_true, if_false]
      rw [← hnil, hscan]
    · simp [prepare, hnil, hsel]

lemma inv_new (c : Setting) (select : Bool) (nodes : List OraBindNode) :
    Inv c select nodes (new c select nodes) := by
  apply inv_prepare
  · rw [List.forall₂_map_right_iff, List.forall₂_same]
    exact fun n _ => OraBindNode.kept_bound n
  · exact scanArraySize_unset nodes
  · intro _
    rfl
  · rfl

lemma Inv.again (hi : Inv c select nodes P) : Inv c select nodes (P.again c select) := by
  apply inv_prepare
  · have hnodes : P.clear.stmt.nodeList = P.stmt.nodeList.map OraBindNode.unsetDtype := rfl
    rw [clear] at hnodes
    rw [hnodes, List.forall₂_map_right_iff]
    exact hi.kept.imp fun n m hk => hk.bound
  · refine Eq.trans ?_ (scanArraySize_congr hi.kept)
    exact scanArraySize_unset P.stmt.nodeList
  · rintro rfl
    have h0 : P.stmt.arraySize = 0 := hi.arraySize
    simp only [Stmt.undefine, Stmt.dropColumns, Stmt.dropHandle, h0, ite_self]
  · rfl

lemma Inv.step (hi : Inv c select nodes P) (call : StmtCall) :
    Inv c select nodes (P.step c select call) := by
  cases call with
  | execute => exact hi
  | getOutput => exact hi
  | describe =>
    simp only [Prepared.step]
    split
    · exact hi
    · exact ⟨hi.kept, hi.arraySize, hi.isSelect⟩
  | next found => exact ⟨hi.kept, hi.arraySize, hi.isSelect⟩
  | fetch rows attrSet found count =>
    simp only [Prepared.step]
    split
    · exact hi
    split
    · exact ⟨hi.kept, hi.arraySize, hi.isSelect⟩
    split
    · exact ⟨hi.kept, hi.arraySize, hi.isSelect⟩
    split
    · exact ⟨hi.kept, hi.arraySize, hi.isSelect⟩
    · exact hi
  | recover => exact hi.again

lemma Inv.run (hi : Inv c select nodes P) (calls : List StmtCall) :
    Inv c select nodes (P.run c select calls) := by
  induction calls generalizing P with
  | nil => exact hi
  | cons call calls ih => exact ih (hi.step call)

lemma placeholderTypes_cons (n : OraBindNode) (nodes : List OraBindNode) :
    placeholderTypes (n :: nodes) =
      if n.isValue then placeholderTypes nodes
      else (n.dtype, n.phMaxsize) :: placeholderTypes nodes := by
  cases hv : n.isValue <;> simp [placeholderTypes, OraBindNode.isPlaceholder, hv]

lemma placeholderTypes_rebound (n : OraBindNode) (nodes : List OraBindNode) (a : ℕ) :
    placeholderTypes ((n :: nodes).map fun n => n.unsetDtype.bound c a) =
      if n.isValue then placeholderTypes (nodes.map fun n => n.unsetDtype.bound c a)
      else n.bindType c a :: placeholderTypes (nodes.map fun n => n.unsetDtype.bound c a) := by
  have hiv : n.unsetDtype.isValue = n.isValue := rfl
  have hb : n.unsetDtype.bindType c a = n.bindType c a := rfl
  rw [List.map_cons, placeholderTypes_cons]
  cases hv : n.isValue <;> simp [OraBindNode.bound, hiv, hv, hb]

lemma placeholderTypes_bound {a : ℕ} {nodes' : List OraBindNode}
    (h : List.Forall₂ (OraBindNode.Kept c a) nodes nodes') :
    placeholderTypes (nodes'.map fun m => m.unsetDtype.bound c a) =
        placeholderTypes (nodes.map fun n => n.unsetDtype.bound c a) ↔ ∀ n ∈ nodes, ¬ n.Unsized c a := by
  induction h with
  | nil => simp
  | @cons n m nodes nodes' hk _ ih =>
    rw [placeholderTypes_rebound, placeholderTypes_rebound, List.forall_mem_cons, hk.isValue]
    cases hv : n.isValue with
    | true =>
      have hnot : ¬ n.Unsized c a := fun hu =>
        by simp [OraBindNode.Unsized, OraBindNode.isPlaceholder, hv] at hu
      simp only [if_true, hnot, not_false_eq_true, true_and]
      exact ih
    | false =>
      have hp : n.isPlaceholder = true := by simp [OraBindNode.isPlaceholder, hv]
      simp only [Bool.false_eq_true, if_false, List.cons.injEq]
      refine and_congr ?_ ih
      by_cases hu : n.Unsized c a
      · have hn : n.bindType c a = (.avc, dbiDefaultStrLen) := by
          simp [OraBindNode.bindType, hu.2.1, hu.2.2]
        simp [(hk.bindType hp).1 hu, hn, hu]
      · simp [(hk.bindType hp).2 hu, hu]

lemma observed_prepare (S : Stmt) (attr : ℕ) : (prepare c select ⟨S, attr⟩).observed =
    ⟨S.isSelect || select, S.fetchDone, S.fetchComplete, S.fetchWarned,
      (prepare c select ⟨S, attr⟩).stmt.arraySize, S.defined, S.prefetchRows == 1,
      placeholderTypes (S.nodeList.map (OraBindNode.bound c (scanArraySize S.nodeList)))⟩ := by
  cases hnil : S.nodeList <;> simp [observed, prepare, hnil]

lemma observed_new (nodes : List OraBindNode) : (new c select nodes).observed =
    ⟨select, false, false, false, scanArraySize nodes, false, true,
      placeholderTypes (nodes.map fun n => n.unsetDtype.bound c (scanArraySize nodes))⟩ := by
  have hsize := (inv_new c select nodes).arraySize
  rw [new] at hsize ⊢
  rw [observed_prepare, hsize, scanArraySize_unset, List.map_map]
  rfl

lemma Inv.observed_again (hi : Inv c select nodes P) : (P.again c select).observed =
    ⟨select, false, P.stmt.fetchComplete, P.stmt.fetchWarned, scanArraySize nodes, false,
      P.stmt.prefetchRows == 1, placeholderTypes
        (P.stmt.nodeList.map fun m => m.unsetDtype.bound c (scanArraySize nodes))⟩ := by
  have hsize := (Inv.again hi).arraySize
  have hnodes : P.clear.stmt.nodeList = P.stmt.nodeList.map OraBindNode.unsetDtype := rfl
  rw [Prepared.again, clear] at hsize
  rw [Prepared.again, clear, observed_prepare, hsize]
  rw [clear] at hnodes
  rw [hnodes, scanArraySize_unset, scanArraySize_congr hi.kept, List.map_map]
  rfl

-- nothing of the fetches before is left, and no string placeholder was bound without a size
def Forgets (c : Setting) (nodes : List OraBindNode) (P : Prepared) : Prop :=
  P.stmt.fetchComplete = false ∧ P.stmt.fetchWarned = false ∧ P.stmt.prefetchRows = 1 ∧
    ∀ n ∈ nodes, ¬ n.Unsized c (scanArraySize nodes)

end Prepared

-- the state after a history, clear() and rebindAbortedConnection() is that of a new statement
def HistoryFree (c : Setting) (select : Bool) (nodes : List OraBindNode) (calls : List StmtCall) :
    Prop :=
  (((Prepared.new c select nodes).run c select calls).again c select).observed =
    (Prepared.new c select nodes).observed

/-- A statement that is prepared again behaves as a new one if and only if it holds nothing that
clearing it keeps. -/
theorem historyFree_iff (c : Setting) (select : Bool) (nodes : List OraBindNode)
    (calls : List StmtCall) :
    HistoryFree c select nodes calls ↔
      Prepared.Forgets c nodes ((Prepared.new c select nodes).run c select calls) := by
  have hinv := (Prepared.inv_new c select nodes).run calls
  rw [HistoryFree, hinv.observed_again, Prepared.observed_new]
  generalize (Prepared.new c select nodes).run c select calls = P at hinv ⊢
  have htypes := Prepared.placeholderTypes_bound hinv.kept
  constructor
  · intro h
    rw [Prepared.Observed.mk.injEq] at h
    obtain ⟨-, -, hcomplete, hwarned, -, -, hprefetch, hplaceholders⟩ := h
    exact ⟨hcomplete, hwarned, by simpa using hprefetch, htypes.mp hplaceholders⟩
  · rintro ⟨hcomplete, hwarned, hprefetch, hunsized⟩
    rw [hcomplete, hwarned, hprefetch, htypes.mpr hunsized]
    rfl

instance (c : Setting) (select : Bool) (nodes : List OraBindNode) (calls : List StmtCall) :
    Decidable (HistoryFree c select nodes calls) := inferInstanceAs (Decidable (_ = _))

/-- After a fetch of all rows, and after nothing at all but with a string placeholder. -/
theorem not_historyFree_fetched :
    ¬ HistoryFree plainSetting true [] [.execute, .describe, .fetch 10 true true (some 3)] ∧
    ¬ HistoryFree plainSetting false [.ofPlaceholder "p".toList (-1)
      (some "string".toList) .nothing] [.execute] := by
  decide

end OracleDriver
