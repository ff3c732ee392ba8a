import OracleDriver.Driver

/-! Statements: preparing and binding them, and giving up what they hold. -/

namespace OracleDriver

namespace Stmt

-- QoreOracleStatement::reset()
def dropHandle (S : Stmt) : Stmt := { S with stmthp := false, isSelect := false, fetchDone := false }

def endColumn (j : ℕ) (S : Stmt) : Stmt :=
  { S with columns := S.columns.map fun r =>
    { r with clist := r.clist.modify j ({ · with defp := false }) } }

def dropColumns (S : Stmt) : Stmt :=
  { S with columns := none, arraySize := if S.columns.isSome then 0 else S.arraySize }

def undefine (S : Stmt) : Stmt := { S with defined := false }

def dropText (S : Stmt) : Stmt := { S with defined := false, hasOutput := false, str := none }

def setArraySize (a : ℕ) (S : Stmt) : Stmt := { S with arraySize := a }

def setHandle (S : Stmt) : Stmt := { S with stmthp := true }

def setSelect (S : Stmt) : Stmt := { S with isSelect := true }

def takeText (S : Stmt) : Stmt := { S with str := none }

def setText (t : Text) (S : Stmt) : Stmt := { S with str := some t }

def setParsed (p : ParseQuery.Parsed) (S : Stmt) : Stmt :=
  { S with str := some p.str, nodeList := p.nodeList, hasOutput := p.hasOutput }

namespace Calm

lemma same {S S' : Stmt} (hn : S'.nodeList = S.nodeList) (hc : S'.columns = S.columns) : Calm S S' :=
  ⟨hn, by simp only [holdsRaw, hc, imp_self]⟩

lemma setHandle (S : Stmt) : Calm S S.setHandle := .same rfl rfl

lemma endColumn (j : ℕ) (S : Stmt) : Calm S (S.endColumn j) where
  nodes := rfl
  raw := by
    intro hr
    simp only [holdsRaw, Stmt.endColumn, Option.any_map, Option.any_eq_true, List.any_eq_true] at hr ⊢
    obtain ⟨r, hr, c, hc, hraw⟩ := hr
    refine ⟨r, hr, ?_⟩
    obtain ⟨k, hk⟩ := List.getElem?_of_mem hc
    rw [List.getElem?_modify] at hk
    cases hg : r.clist[k]? with
    | none => simp only [hg, Option.map_eq_map, Option.map_none, reduceCtorEq] at hk
    | some d =>
      refine ⟨d, List.mem_of_getElem? hg, ?_⟩
      by_cases hj : j = k
      · simp only [hg, hj, if_true, Option.map_eq_map, Option.map_some, Option.some.injEq] at hk
        simp only [← hk, Column.holdsRaw, Bool.false_and, Bool.false_eq_true] at hraw
      · simp only [hg, hj, if_false, Option.map_eq_map, Option.map_some, Option.some.injEq] at hk
        rwa [hk]

lemma dropColumns (S : Stmt) : Calm S S.dropColumns := ⟨rfl, fun hr => absurd hr Bool.false_ne_true⟩

end Calm

end Stmt

variable {h : Handler} {l : Level} (x : Sink) (s : ℕ)

-- OraColumnBuffer::del() for a column of the statement, whose set a nested release may have deleted
def delColumn (j : ℕ) : Drv h l Unit := do
  match ((← Drv.stmt s).columns.bind (·.clist[j]?)) with
  | none => return
  | some c =>
    if !c.defp then
      return
    if OraBindNode.isRaw c.dtype then
      let _ ← rawFree x
    else if c.dtype = .nty then
      let a ← oci .objectFree
      if !a.ok then
        raise x ⟨"OCILIB-ERROR", a.text⟩
    Drv.setStmt s (·.endColumn j) (.endColumn j)

def delColumns : Drv h l Unit := do
  match (← Drv.stmt s).columns with
  | none => return
  | some r =>
    Act.each (delColumn x s) (List.range r.clist.length)
    Drv.setStmt s Stmt.dropColumns .dropColumns

def stmtClear : Drv h l Unit := do
  Drv.setStmt s Stmt.dropHandle fun _ => .same rfl rfl
  let S ← Drv.stmt s
  Act.each (Drv.clearNode x s) (List.range S.nodeList.length)
  delColumns x s
  Drv.setStmt s Stmt.undefine fun _ => .same rfl rfl

def deregisterStatement : Drv h l Unit :=
  Drv.setConn (fun c => { c with stmtSet := c.stmtSet.erase s }) fun _ =>
    ⟨rfl, rfl, rfl, rfl, List.erase_subset, rfl⟩

def stmtReset : Drv h l Unit := do
  Drv.setStmt s Stmt.dropHandle fun _ => .same rfl rfl
  let S ← Drv.stmt s
  Act.each (Drv.resetNode x s) (List.range S.nodeList.length)
  Drv.move .calm l.has_calm (·.setStmt s fun S => { S with nodeList := [] }) (.dropNodes s)
  delColumns x s
  Drv.setStmt s Stmt.dropText fun _ => .same rfl rfl
  deregisterStatement s

def arraySizeError (pos a b : ℕ) : Exn := ⟨"BIND-ERROR", "query position " ++ toString pos ++
  ": cannot bind a list with " ++ toString a ++ " element" ++ (if a = 1 then "" else "s") ++
    " when a list of " ++
  toString b ++ " element" ++ (if b = 1 then "" else "s") ++
  " has already been bound in the same statement; lists must be of exactly the same size"⟩

def setArraySize (pos a : ℕ) : Drv h l Bool := do
  let S ← Drv.stmt s
  if 0 < S.arraySize then
    if S.arraySize ≠ a then
      raise x (arraySizeError pos a S.arraySize)
      return true
    return false
  Drv.setStmt s (Stmt.setArraySize a) fun _ => .same rfl rfl
  return false

-- one turn of the search for array binds
def scanArray (i : ℕ) : Drv h l Bool := do
  let S ← Drv.stmt s
  match S.nodeList[i]? with
  | none => return false
  | some n =>
    if !n.isValue then
      return false
    match n.value with
    | .list l =>
      if S.isSelect then
        raise x ⟨"BIND-ERROR", "cannot perform an array bind with a select statement"⟩
        return true
      setArraySize x s (i + 1) l.length
    | _ => return false

def bindPosition (i : ℕ) : Drv h .binding Bool := do
  Drv.bindNode x (i + 1) s i
  return ← pending x

def bindOracle : Drv h .binding Bool := do
  Drv.setStmt s (Stmt.setArraySize 0) fun _ => .same rfl rfl
  let S ← Drv.stmt s
  if ← Act.tryEach (scanArray x s) (List.range S.nodeList.length) then
    return true
  Act.tryEach (bindPosition x s) (List.range S.nodeList.length)

def allocate : Drv h l Bool := do
  if ← handleAlloc x "QoreOracleSimpleStatement::allocate()" then
    return true
  Drv.setStmt s Stmt.setHandle Stmt.Calm.setHandle
  return false

-- QoreOracleStatement::prepare()
def prepareHandle : Drv h l Bool := do
  if ← checked x .stmtPrepare "QoreOracleSimpleStatement::prepare()" then
    return true
  let a ← oci .attrGet
  if ← check x a "QoreOracleStatement::attrGet():stmt2" then
    return true
  if a.flag then
    Drv.setStmt s Stmt.setSelect fun _ => .same rfl rfl
  return false

def notConverted : Exn := ⟨"ENCODING-CONVERSION-ERROR", "cannot convert the string"⟩

-- QoreString::convertEncoding()
def convertEncoding (c : Setting) (sql : QoreString) : Option Text :=
  if sql.enc = c.encoding then some sql.text else c.lib.convert sql.enc c.encoding sql.text

def parseWith (c : Setting) (args : Option (List QoreValue)) (txn : Bool) (S : Stmt) :
    ParseQuery.Parsed :=
  ParseQuery.parseQuery c.lib args txn none (S.str.getD []) S.nodeList S.hasOutput

end OracleDriver

namespace OracleDriver.ParseQuery

open OraBindNode

-- every node of the scan was there before or is new
def NodesFrom (old : List OraBindNode) (s : Scan) : Prop := ∀ n ∈ s.nodeList, n ∈ old ∨ n.Fresh

variable {old : List OraBindNode} {s : Scan}

@[simp] lemma advance_nodeList (s : Scan) (k : ℕ) : (s.advance k).nodeList = s.nodeList := by
  unfold Scan.advance
  split <;> rfl

lemma quoteStep_nodeList (s : Scan) : (quoteStep s).nodeList = s.nodeList := by
  unfold quoteStep
  dsimp only
  split <;> exact advance_nodeList _ _

lemma unescape_nodeList (lib : QoreLib) (s : Scan) : (unescape lib s).nodeList = s.nodeList := by
  unfold unescape
  dsimp only
  split
  · exact advance_nodeList _ _
  · rw [quoteStep_nodeList]
    exact advance_nodeList _ _

lemma lineStep_nodeList (s : Scan) : (lineStep s).nodeList = s.nodeList := by
  unfold lineStep
  dsimp only
  split <;> exact advance_nodeList _ _

lemma blockStep_nodeList (s : Scan) : (blockStep s).nodeList = s.nodeList := by
  unfold blockStep
  split <;> exact advance_nodeList _ _

lemma nodesFrom_append {n : OraBindNode} {t : Scan} (hs : NodesFrom old s) (hn : n.Fresh)
    (ht : t.nodeList = s.nodeList ++ [n]) : NodesFrom old t := by
  intro m hm
  rw [ht, List.mem_append, List.mem_singleton] at hm
  rcases hm with hm | rfl
  · exact hs m hm
  · exact .inr hn

lemma nodesFrom_same {t : Scan} (hs : NodesFrom old s) (ht : t.nodeList = s.nodeList) :
    NodesFrom old t :=
  fun m hm => hs m (ht ▸ hm)

lemma describePlaceholder_fresh (lib : QoreLib) (v : QoreValue) {n : OraBindNode} (hn : n.Fresh) :
    (describePlaceholder lib v n).1.Fresh := by
  unfold describePlaceholder
  split <;> (try split) <;> simp only [setPlaceholderIntern] <;> repeat' split
  all_goals exact ⟨hn.dtype, hn.array, hn.strlob, hn.lobAllocated⟩

lemma nodesFrom_valueMarker (lib : QoreLib) (args) (hs : NodesFrom old s) :
    NodesFrom old (valueMarker lib args s) := by
  unfold valueMarker
  dsimp only
  split
  · exact nodesFrom_same hs (advance_nodeList _ _)
  split
  · split
    · exact hs
    · exact nodesFrom_same hs (advance_nodeList _ _)
  split
  · exact hs
  split
  · exact hs
  · apply nodesFrom_append hs (n := ofValue (s.nextArg args)) ⟨rfl, rfl, rfl, rfl⟩
    simp only [Scan.addNode, Scan.replaceMarker, advance_nodeList, Scan.tookArg]

lemma nodesFrom_placeholder (lib : QoreLib) (args) (hs : NodesFrom old s) :
    NodesFrom old (placeholder lib args s) := by
  unfold placeholder
  dsimp only
  split
  · generalize hn : ofPlaceholder _ (-1) none .nothing = n
    have hf : n.Fresh := hn ▸ ⟨rfl, rfl, rfl, rfl⟩
    generalize hd : describePlaceholder lib _ n = d
    have hf : d.1.Fresh := hd ▸ describePlaceholder_fresh lib _ hf
    split <;> exact nodesFrom_append hs hf
      (by simp only [Scan.raise, Scan.addNode, advance_nodeList, Scan.tookArg])
  · exact nodesFrom_same hs (advance_nodeList _ _)

lemma nodesFrom_step (lib : QoreLib) (args) (hs : NodesFrom old s) :
    NodesFrom old (step lib args s) := by
  unfold step codeStep
  dsimp only
  split
  · exact nodesFrom_same hs (quoteStep_nodeList s)
  split
  · exact nodesFrom_same hs (lineStep_nodeList s)
  · exact nodesFrom_same hs (blockStep_nodeList s)
  split
  · exact nodesFrom_same hs (advance_nodeList _ _)
  split
  · exact nodesFrom_same hs (advance_nodeList _ _)
  split
  · exact nodesFrom_valueMarker lib args hs
  split
  · exact nodesFrom_placeholder lib args hs
  split
  · exact nodesFrom_same hs (unescape_nodeList lib s)
  · exact nodesFrom_same hs (quoteStep_nodeList s)

lemma parseQuery_nodes (lib : QoreLib) (args) (txn : Bool) (argsCopy) (str : Text)
    (nodeList : List OraBindNode)
    (hasOutput : Bool) : ∀ n ∈ (parseQuery lib args txn argsCopy str nodeList hasOutput).nodeList,
      n ∈ nodeList ∨ n.Fresh :=
  FuelRun.run_invariant (P := NodesFrom nodeList)
    (fun _ _ hs => nodesFrom_step lib args hs) _ _ fun _ hn => .inl hn

end OracleDriver.ParseQuery

namespace OracleDriver

variable {h : Handler} (x : Sink) (s : ℕ)

def parseQuery (args : Option (List QoreValue)) : Drv h .binding Bool := do
  let c ← setting
  let a ← ask .activeTransaction
  let S ← Drv.stmt s
  Drv.move .bind Level.has_bind (·.setStmt s fun S => S.setParsed (parseWith c args a.flag S)) fun w =>
    .parsed s _ w fun S => ParseQuery.parseQuery_nodes c.lib args a.flag none _ S.nodeList S.hasOutput
  Act.each (raise x) (parseWith c args a.flag S).xsink
  return ← pending x

def prepare (sql : QoreString) (args : Option (List QoreValue)) (parse : Bool) :
    Drv h .binding Bool := do
  let c ← setting
  match convertEncoding c sql with
  | none =>
    raise x notConverted
    return true
  | some t =>
    Drv.setStmt s (Stmt.setText t) fun _ => .same rfl rfl
    if parse then
      if ← parseQuery x s args then
        return true
    if ← allocate x s then
      return true
    if ← prepareHandle x s then
      return true
    let S ← Drv.stmt s
    if !S.nodeList.isEmpty then
      return ← bindOracle x s
    return false

-- prepare() takes a copy of the text
def rebindAbortedConnection : Drv h .binding Bool := do
  let c ← setting
  let S ← Drv.stmt s
  Drv.setStmt s Stmt.takeText fun _ => .same rfl rfl
  prepare x s ⟨S.str.getD [], c.encoding⟩ none false

def setArg (args : Option (List QoreValue)) (takes : OraBindNode → Bool) (i : ℕ) :
    Drv h .binding Bool := do
  let S ← Drv.stmt s
  match S.nodeList[i]? with
  | none => return false
  | some n =>
    if !takes n then
      return false
    Drv.setNode x (retrieveEntry args ((S.nodeList.take i).countP takes)) s i

def setArgs (args : Option (List QoreValue)) (takes : OraBindNode → Bool) : Drv h .binding Bool := do
  let S ← Drv.stmt s
  if ← Act.tryEach (setArg x s args takes) (List.range S.nodeList.length) then
    return true
  bindOracle x s

def stmtBind (args : Option (List QoreValue)) : Drv h .binding Bool := setArgs x s args fun _ => true

def bindPlaceholders (args : Option (List QoreValue)) : Drv h .binding Bool :=
  setArgs x s args OraBindNode.isPlaceholder

def bindValues (args : Option (List QoreValue)) : Drv h .binding Bool :=
  setArgs x s args OraBindNode.isValue

end OracleDriver
