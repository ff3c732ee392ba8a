import OracleDriver.Fetch
import OracleDriver.Library.Agreement
import OracleDriver.Library.IndexedFold

/-! The sizes of the lists in an array bind. -/

namespace OracleDriver

-- the sizes of lists are taken as unsigned int
def toUnsigned (n : ℕ) : ℕ := n % 2 ^ 32

namespace ArraySizes

def selectArray : Exn := ⟨"BIND-ERROR", "cannot perform an array bind with a select statement"⟩

-- `size` is array_size, where 0 stands for none
def setArraySize (pos size n : ℕ) : Except Exn ℕ :=
  if 0 < size then
    if size ≠ n then .error (arraySizeError pos n size) else .ok size
  else .ok n

def scanNode (isSelect : Bool) (size : ℕ) (e : OraBindNode × ℕ) : Except Exn ℕ :=
  if !e.1.isValue then .ok size
  else
    match e.1.value with
    | .list l => if isSelect then .error selectArray
        else setArraySize (e.2 + 1) size (toUnsigned l.length)
    | _ => .ok size

def scanArrays (isSelect : Bool) (nodes : List OraBindNode) : Except Exn ℕ :=
  nodes.zipIdx.foldlM (scanNode isSelect) 0

-- OraBindNode::bindValue() as far as lists go: the list that comes to bindListValue()
def bindList (size : ℕ) (n : OraBindNode) : Except Exn (Option (List QoreValue)) :=
  if !n.isValue then .ok none
  else
    match n.value.resolveIndirect with
    | .list l => if size ≠ 0 then .ok (some l) else .error (bindError "list".toList "binding")
    | _ => .ok none

structure Bound where
  arraySize : ℕ
  lists : List (Option (List QoreValue))

-- QorePreparedStatement::bindOracle() as far as lists go
def bindOracle (isSelect : Bool) (nodes : List OraBindNode) : Except Exn Bound :=
  match scanArrays isSelect nodes with
  | .error e => .error e
  | .ok size => (nodes.mapM (bindList size)).map fun lists => ⟨size, lists⟩

-- what execute() passes to OCIStmtExecute()
def Bound.iters (isSelect : Bool) (b : Bound) : ℕ :=
  iterations { Stmt.new with isSelect := isSelect, arraySize := b.arraySize }

section Arguments

def arguments (nodes : List OraBindNode) : List QoreValue :=
  (nodes.filter OraBindNode.isValue).map OraBindNode.value

def direct : QoreValue → Option (List QoreValue)
  | .list l => some l
  | _ => none

-- the list-valued arguments that are given directly, and all of them
def directs (args : List QoreValue) : List (List QoreValue) := args.filterMap direct

def lists (args : List QoreValue) : List (List QoreValue) :=
  args.filterMap fun v => direct v.resolveIndirect

def SameLength (args : List QoreValue) : Prop := ∀ l ∈ lists args, ∀ m ∈ lists args, l.length = m.length

def size (l : List QoreValue) : ℕ := toUnsigned l.length

def sizes (args : List QoreValue) : List ℕ := (directs args).map size

def Accepts (nodes : List OraBindNode) : Prop := ∃ b, bindOracle false nodes = .ok b

structure OrderIndependent (nodes : List OraBindNode) : Prop where
  accepts : Accepts nodes ↔ SameLength (arguments nodes)
  perm : ∀ nodes', (arguments nodes').Perm (arguments nodes) → (Accepts nodes' ↔ Accepts nodes)
  iters : ∀ b, bindOracle false nodes = .ok b → ∀ l, some l ∈ b.lists → l.length = b.iters false

-- where the lists have one length, one that is given directly sets it; where they do not, those
-- that are given directly set no size, or two of them set different ones
structure Regular (args : List QoreValue) : Prop where
  same : SameLength args → lists args = [] ∨ ∃ l ∈ directs args, 0 < l.length ∧ l.length < 2 ^ 32
  differ : ¬SameLength args → (∀ l ∈ directs args, size l = 0) ∨
    ∃ l ∈ directs args, ∃ m ∈ directs args, size l ≠ 0 ∧ size m ≠ 0 ∧ size l ≠ size m

end Arguments

section Scan

variable {nodes : List OraBindNode} {args : List QoreValue} {l : List QoreValue} {n : ℕ}

lemma setArraySize_toOption (pos a n : ℕ) : (setArraySize pos a n).toOption = Agreement.step 0 a n := by
  rw [setArraySize, Agreement.step]
  by_cases ha : a = 0
  · rw [if_pos ha, if_neg (by omega)]
    rfl
  · rw [if_neg ha, if_pos (by omega)]
    by_cases hn : a = n
    · rw [if_pos hn, if_neg (not_not.mpr hn)]
      rfl
    · rw [if_neg hn, if_pos hn]
      rfl

lemma scan_toOption (nodes : List OraBindNode) (k a : ℕ) :
    ((nodes.zipIdx k).foldlM (scanNode false) a).toOption =
    (sizes (arguments nodes)).foldlM (Agreement.step 0) a := by
  induction nodes generalizing k a with
  | nil => rfl
  | cons m nodes ih =>
    rw [List.zipIdx_cons, List.foldlM_cons]
    cases hv : m.isValue with
    | false =>
      have hargs : arguments (m :: nodes) = arguments nodes := by simp [arguments, hv]
      have hscan : scanNode false a (m, k) = .ok a := by simp [scanNode, hv]
      rw [hargs, hscan]
      exact ih _ _
    | true =>
      have hargs : arguments (m :: nodes) = m.value :: arguments nodes := by simp [arguments, hv]
      rw [hargs]
      cases hval : m.value with
      | list l =>
        have hscan : scanNode false a (m, k) = setArraySize (k + 1) a (size l) := by
          simp [scanNode, hv, hval, size]
        have hdir : sizes (.list l :: arguments nodes) = size l :: sizes (arguments nodes) := rfl
        rw [hdir, hscan, List.foldlM_cons, ← setArraySize_toOption (k + 1)]
        cases setArraySize (k + 1) a (size l) with
        | error e => rfl
        | ok b => exact ih _ _
      | _ =>
        have hscan : scanNode false a (m, k) = .ok a := by simp [scanNode, hv, hval]
        rw [hscan]
        exact ih _ _

lemma scan_eq : scanArrays false nodes = .ok n ↔
    Agreement.run 0 (sizes (arguments nodes)) = some n := by
  rw [Agreement.run, ← scan_toOption nodes 0 0, scanArrays]
  cases nodes.zipIdx.foldlM (scanNode false) 0 <;> simp [Except.toOption]

lemma directs_subset (h : l ∈ directs args) : l ∈ lists args := by
  obtain ⟨v, hv, hl⟩ := List.mem_filterMap.mp h
  apply List.mem_filterMap.mpr
  refine ⟨v, hv, ?_⟩
  cases v with
  | list m => exact hl
  | _ => cases hl

def nodeList (n : OraBindNode) : Option (List QoreValue) :=
  if n.isValue then direct n.value.resolveIndirect else none

lemma mem_nodeList : some l ∈ nodes.map nodeList ↔ l ∈ lists (arguments nodes) := by
  simp only [List.mem_map, lists, arguments, List.mem_filterMap, List.mem_filter, nodeList]
  constructor
  · rintro ⟨m, hm, hl⟩
    split at hl
    · rename_i hv
      exact ⟨m.value, ⟨m, ⟨hm, hv⟩, rfl⟩, hl⟩
    · cases hl
  · rintro ⟨v, ⟨m, ⟨hm, hv⟩, rfl⟩, hl⟩
    exact ⟨m, hm, by rw [if_pos hv, hl]⟩

lemma bindList_ok {m : OraBindNode} {o : Option (List QoreValue)} : bindList n m = .ok o ↔
    o = nodeList m ∧ (n ≠ 0 ∨ nodeList m = none) := by
  rw [bindList, nodeList]
  cases m.isValue with
  | false => simp [eq_comm]
  | true =>
    cases hval : m.value.resolveIndirect with
    | list l => by_cases hn : n = 0 <;> simp [direct, hn, eq_comm]
    | _ => simp [direct, eq_comm]

lemma bindAll_ok {r : List (Option (List QoreValue))} : nodes.mapM (bindList n) = .ok r ↔
    r = nodes.map nodeList ∧ (n ≠ 0 ∨ ∀ m ∈ nodes, nodeList m = none) := by
  induction nodes generalizing r with
  | nil =>
    rw [List.mapM_nil]
    exact ⟨fun h => ⟨(Except.ok.inj h).symm, Or.inr (List.forall_mem_nil _)⟩,
      fun h => congrArg Except.ok h.1.symm⟩
  | cons m nodes ih =>
    rw [List.mapM_cons, List.map_cons, List.forall_mem_cons, or_and_left]
    constructor
    · intro h
      cases hm : bindList n m with
      | error e =>
        rw [hm] at h
        cases h
      | ok o =>
        cases hrest : nodes.mapM (bindList n) with
        | error e =>
          rw [hm, hrest] at h
          cases h
        | ok r' =>
          rw [hm, hrest] at h
          obtain ⟨rfl, hfirst⟩ := bindList_ok.mp hm
          obtain ⟨rfl, hall⟩ := ih.mp hrest
          exact ⟨(Except.ok.inj h).symm, hfirst, hall⟩
    · rintro ⟨rfl, hfirst, hall⟩
      rw [bindList_ok.mpr ⟨rfl, hfirst⟩, ih.mpr ⟨rfl, hall⟩]
      rfl

lemma nodeLists_nil : (∀ m ∈ nodes, nodeList m = none) ↔ lists (arguments nodes) = [] := by
  rw [List.eq_nil_iff_forall_not_mem]
  constructor
  · intro h l hl
    obtain ⟨m, hm, hml⟩ := List.mem_map.mp (mem_nodeList.mpr hl)
    rw [h m hm] at hml
    cases hml
  · intro h m hm
    by_contra hne
    obtain ⟨l, hl⟩ := Option.ne_none_iff_exists'.mp hne
    exact h l (mem_nodeList.mp (List.mem_map.mpr ⟨m, hm, hl⟩))

lemma bindOracle_ok {b : Bound} : bindOracle false nodes = .ok b ↔
    Agreement.run 0 (sizes (arguments nodes)) = some b.arraySize ∧ b.lists = nodes.map nodeList ∧
      (b.arraySize ≠ 0 ∨ lists (arguments nodes) = []) := by
  rw [← scan_eq, ← nodeLists_nil, ← bindAll_ok, bindOracle]
  cases scanArrays false nodes with
  | error e => simp
  | ok size =>
    constructor
    · intro h
      obtain ⟨r, hr, rfl⟩ := IndexedFold.map_eq_ok.mp h
      exact ⟨rfl, hr⟩
    · rintro ⟨hsize, hr⟩
      obtain rfl := Except.ok.inj hsize
      exact IndexedFold.map_eq_ok.mpr ⟨b.lists, hr, rfl⟩

lemma accepts_iff : Accepts nodes ↔
    lists (arguments nodes) = [] ∨ ∃ n, n ≠ 0 ∧ Agreement.run 0 (sizes (arguments nodes)) = some n := by
  constructor
  · rintro ⟨b, hb⟩
    obtain ⟨hrun, -, hn | hnil⟩ := bindOracle_ok.mp hb
    · exact Or.inr ⟨b.arraySize, hn, hrun⟩
    · exact Or.inl hnil
  · rintro (hnil | ⟨n, hn, hrun⟩)
    · have hdir : directs (arguments nodes) = [] := by
        rw [List.eq_nil_iff_forall_not_mem]
        intro l hl
        have hmem := directs_subset hl
        rw [hnil] at hmem
        cases hmem
      exact ⟨⟨0, nodes.map nodeList⟩, bindOracle_ok.mpr ⟨by rw [sizes, hdir]; rfl, rfl, Or.inr hnil⟩⟩
    · exact ⟨⟨n, nodes.map nodeList⟩, bindOracle_ok.mpr ⟨hrun, rfl, Or.inl hn⟩⟩

end Scan

section Order

variable {args args' : List QoreValue} {nodes : List OraBindNode} {n : ℕ}

lemma SameLength.perm (h : args'.Perm args) (hs : SameLength args) : SameLength args' := by
  have hp : ∀ l, l ∈ lists args' → l ∈ lists args := fun l hl => (h.filterMap _).mem_iff.mp hl
  exact fun l hl m hm => hs l (hp l hl) m (hp m hm)

lemma iters_set {b : Bound} (h : b.arraySize ≠ 0) : b.iters false = b.arraySize := by
  rw [Bound.iters, iterations]
  simp [h]

lemma run_same {l : List QoreValue} (hs : SameLength args) (hl : l ∈ directs args) (hpos : 0 < l.length)
    (hshort : l.length < 2 ^ 32) : Agreement.run 0 (sizes args) = some l.length := by
  have hsize : size l = l.length := Nat.mod_eq_of_lt hshort
  apply Agreement.run_same (Nat.ne_of_gt hpos)
  · exact List.ne_nil_of_mem (List.mem_map_of_mem hl)
  · intro d hd
    obtain ⟨m, hm, rfl⟩ := List.mem_map.mp hd
    have hlen : m.length = l.length := hs m (directs_subset hm) l (directs_subset hl)
    rw [← hsize, size, size, hlen]

lemma accepts_nil (hnil : lists args = []) (h : (arguments nodes).Perm args) : Accepts nodes := by
  apply accepts_iff.mpr
  left
  have hp := h.filterMap fun v : QoreValue => direct v.resolveIndirect
  have hnil' : args.filterMap (fun v => direct v.resolveIndirect) = [] := hnil
  rw [hnil'] at hp
  exact hp.eq_nil

lemma not_accepts_differ (hs : ¬SameLength args) (hd : (∀ l ∈ directs args, size l = 0) ∨
    ∃ l ∈ directs args, ∃ m ∈ directs args, size l ≠ 0 ∧ size m ≠ 0 ∧ size l ≠ size m)
    (h : (arguments nodes).Perm args) : ¬Accepts nodes := by
  have hdir : ∀ l, l ∈ directs (arguments nodes) ↔ l ∈ directs args := fun l => (h.filterMap _).mem_iff
  rw [accepts_iff]
  rintro (hnil | ⟨n, hn, hrun⟩)
  · apply hs
    apply SameLength.perm h.symm
    intro l hl
    rw [hnil] at hl
    cases hl
  · obtain ⟨hmem, hall⟩ := Agreement.run_set hn hrun
    rcases hd with hzero | ⟨l, hl, m, hm, hl0, hm0, hne⟩
    · obtain ⟨l, hl, rfl⟩ := List.mem_map.mp hmem
      exact hn (hzero l ((hdir l).mp hl))
    · have hsl := (hall _ (List.mem_map_of_mem ((hdir l).mpr hl))).resolve_left hl0
      have hsm := (hall _ (List.mem_map_of_mem ((hdir m).mpr hm))).resolve_left hm0
      exact hne (hsl.trans hsm.symm)

lemma orderIndependent_of_regular (h : Regular (arguments nodes)) : OrderIndependent nodes := by
  by_cases hs : SameLength (arguments nodes)
  · rcases h.same hs with hnil | ⟨l, hl, hpos, hshort⟩
    · have hok := accepts_nil hnil (List.Perm.refl _)
      refine ⟨iff_of_true hok hs, fun nodes' hp => iff_of_true (accepts_nil hnil hp) hok,
        fun b hb l hl => ?_⟩
      rw [(bindOracle_ok.mp hb).2.1, mem_nodeList, hnil] at hl
      cases hl
    · have accepted : ∀ nodes', (arguments nodes').Perm (arguments nodes) → Accepts nodes' := by
        intro nodes' hp
        have hl' : l ∈ directs (arguments nodes') := (hp.filterMap _).mem_iff.mpr hl
        exact accepts_iff.mpr (Or.inr ⟨_, Nat.ne_of_gt hpos, run_same (hs.perm hp) hl' hpos hshort⟩)
      have hok := accepted nodes (List.Perm.refl _)
      refine ⟨iff_of_true hok hs, fun nodes' hp => iff_of_true (accepted nodes' hp) hok,
        fun b hb m hm => ?_⟩
      obtain ⟨hrun, hlists, -⟩ := bindOracle_ok.mp hb
      rw [hlists, mem_nodeList] at hm
      have hsize : l.length = b.arraySize :=
        Option.some.inj ((run_same hs hl hpos hshort).symm.trans hrun)
      rw [iters_set (by omega), ← hsize]
      exact hs m hm l (directs_subset hl)
  · have refused : ∀ nodes', (arguments nodes').Perm (arguments nodes) → ¬Accepts nodes' := fun nodes' =>
      not_accepts_differ hs (h.differ hs)
    have hno := refused nodes (List.Perm.refl _)
    exact ⟨iff_of_false hno hs, fun nodes' hp => iff_of_false (refused nodes' hp) hno,
      fun b hb => absurd ⟨b, hb⟩ hno⟩

-- the arguments with the empty lists in front
def isEmpty (v : QoreValue) : Bool := (direct v).any fun l => size l == 0

def emptiesFirst (args : List QoreValue) : List QoreValue :=
  args.filter isEmpty ++ args.filter fun v => !isEmpty v

lemma emptiesFirst_perm (args : List QoreValue) : (emptiesFirst args).Perm args :=
  List.filter_append_perm _ args

lemma arguments_ofValue (args : List QoreValue) : arguments (args.map OraBindNode.ofValue) = args := by
  induction args with
  | nil => rfl
  | cons v args ih =>
    have hv : arguments ((v :: args).map OraBindNode.ofValue) = v :: arguments
        (args.map OraBindNode.ofValue) := rfl
    rw [hv, ih]

lemma mem_sizes : n ∈ sizes args ↔ ∃ v ∈ args, ∃ l, direct v = some l ∧ size l = n := by
  rw [sizes, directs]
  simp only [List.mem_map, List.mem_filterMap]
  constructor
  · rintro ⟨l, ⟨v, hv, hl⟩, hn⟩
    exact ⟨v, hv, l, hl, hn⟩
  · rintro ⟨v, hv, l, hl, hn⟩
    exact ⟨l, ⟨v, hv, hl⟩, hn⟩

lemma run_emptiesFirst (hn : n ≠ 0) (hmem : n ∈ sizes args) (hall : ∀ d ∈ sizes args, d = 0 ∨ d = n) :
    Agreement.run 0 (sizes (emptiesFirst args)) = some n := by
  have hsplit : sizes (emptiesFirst args) =
      sizes (args.filter isEmpty) ++ sizes (args.filter fun v => !isEmpty v) := by
    rw [emptiesFirst, sizes, directs, List.filterMap_append, List.map_append]
    rfl
  have hempty : ∀ d ∈ sizes (args.filter isEmpty), d = 0 := by
    intro d hd
    obtain ⟨v, hv, l, hl, rfl⟩ := mem_sizes.mp hd
    simpa [isEmpty, hl] using (List.mem_filter.mp hv).2
  rw [hsplit, Agreement.run_unset_append hempty]
  apply Agreement.run_same hn
  · obtain ⟨v, hv, l, hl, hsize⟩ := mem_sizes.mp hmem
    apply List.ne_nil_of_mem (mem_sizes.mpr ⟨v, List.mem_filter.mpr ⟨hv, ?_⟩, l, hl, hsize⟩)
    simpa [isEmpty, hl, hsize] using hn
  · intro d hd
    obtain ⟨v, hv, l, hl, rfl⟩ := mem_sizes.mp hd
    obtain ⟨hv, hne⟩ := List.mem_filter.mp hv
    apply (hall _ (mem_sizes.mpr ⟨v, hv, l, hl, rfl⟩)).resolve_left
    simpa [isEmpty, hl] using hne

lemma regular_of_orderIndependent (h : OrderIndependent nodes) : Regular (arguments nodes) := by
  constructor
  · intro hs
    obtain ⟨b, hb⟩ := h.accepts.mpr hs
    obtain ⟨hrun, hlists, hn | hnil⟩ := bindOracle_ok.mp hb
    · obtain ⟨hmem, -⟩ := Agreement.run_set hn hrun
      obtain ⟨l, hl, hsize⟩ := List.mem_map.mp hmem
      have hlen : l.length = b.iters false := by
        apply h.iters b hb
        rw [hlists, mem_nodeList]
        exact directs_subset hl
      rw [iters_set hn] at hlen
      have hlt : size l < 2 ^ 32 := Nat.mod_lt _ (by decide)
      exact Or.inr ⟨l, hl, by omega, by omega⟩
    · exact Or.inl hnil
  · intro hs
    have hno : ¬Accepts nodes := fun hok => hs (h.accepts.mp hok)
    by_contra hd
    rw [not_or] at hd
    obtain ⟨hsome, hpair⟩ := hd
    obtain ⟨l, hl, hn⟩ : ∃ l ∈ directs (arguments nodes), size l ≠ 0 := by
      by_contra hnone
      exact hsome fun l hl => not_not.mp fun h0 => hnone ⟨l, hl, h0⟩
    have hall : ∀ d ∈ sizes (arguments nodes), d = 0 ∨ d = size l := by
      intro d hd
      obtain ⟨m, hm, rfl⟩ := List.mem_map.mp hd
      by_cases hm0 : size m = 0
      · exact Or.inl hm0
      · exact Or.inr (not_not.mp fun hne => hpair ⟨l, hl, m, hm, hn, hm0, Ne.symm hne⟩)
    have hrun := run_emptiesFirst hn (List.mem_map_of_mem hl) hall
    have hargs : (arguments ((emptiesFirst (arguments nodes)).map OraBindNode.ofValue)).Perm
        (arguments nodes) := by
      rw [arguments_ofValue]
      exact emptiesFirst_perm _
    apply hno
    rw [← h.perm _ hargs, accepts_iff, arguments_ofValue]
    exact Or.inr ⟨_, hn, hrun⟩

/-- The sizes of the lists are taken alike in every order if and only if the arguments are regular. -/
theorem orderIndependent_iff (nodes : List OraBindNode) :
    OrderIndependent nodes ↔ Regular (arguments nodes) :=
  ⟨regular_of_orderIndependent, orderIndependent_of_regular⟩

/-- An empty list is taken before a list with an element and not after it. -/
theorem not_orderIndependent_empty :
    ¬OrderIndependent ([.list [], .list [.int 1]].map OraBindNode.ofValue) := by
  intro h
  have haccepts : Accepts ([.list [], .list [.int 1]].map OraBindNode.ofValue) := ⟨_, rfl⟩
  have hsame := h.accepts.mp haccepts
  have hlists : lists (arguments ([.list [], .list [.int 1]].map OraBindNode.ofValue)) =
      [[], [.int 1]] := rfl
  rw [SameLength, hlists] at hsame
  have hlen := hsame [] List.mem_cons_self [.int 1] (List.mem_cons_of_mem _ List.mem_cons_self)
  cases hlen

end Order

section Driver

open Act

variable {h : Handler} {l : Level} {s : ℕ} {select : Bool} {nodes : List OraBindNode} {i : ℕ}

-- the statement after the turns of the search before `i`
structure Scanned (s : ℕ) (select : Bool) (nodes : List OraBindNode) (i : ℕ) (w : World) : Prop where
  exists_stmt : s < w.stmts.length
  nodeList : (w.stmt s).nodeList = nodes
  isSelect : (w.stmt s).isSelect = select
  size : (nodes.take i).zipIdx.foldlM (scanNode select) 0 = .ok (w.stmt s).arraySize

def ScanRaised (select : Bool) (nodes : List OraBindNode) (w : World) : Prop :=
  ∃ e, scanArrays select nodes = .error e ∧ e ∈ w.xsink

lemma scan_take_succ {n : OraBindNode} (hn : nodes[i]? = some n) :
    (nodes.take (i + 1)).zipIdx.foldlM (scanNode select) 0 =
      (nodes.take i).zipIdx.foldlM (scanNode select) 0 >>= fun a => scanNode select a (n, i) := by
  obtain ⟨hi, rfl⟩ := List.getElem?_eq_some_iff.mp hn
  have hlen : (nodes.take i).length = i := by rw [List.length_take]; omega
  rw [List.take_succ_eq_append_getElem hi, List.zipIdx_append, List.foldlM_append, hlen, Nat.zero_add]
  simp

lemma scan_error {n : OraBindNode} {a : ℕ} {e : Exn} (hn : nodes[i]? = some n)
    (hscan : (nodes.take i).zipIdx.foldlM (scanNode select) 0 = .ok a)
    (he : scanNode select a (n, i) = .error e) :
    scanArrays select nodes = .error e := by
  have hsucc : (nodes.take (i + 1)).zipIdx.foldlM (scanNode select) 0 = .error e := by
    rw [scan_take_succ hn, hscan]
    exact he
  have hsplit : nodes.zipIdx = (nodes.take (i + 1)).zipIdx ++
      (nodes.drop (i + 1)).zipIdx (nodes.take (i + 1)).length := by
    conv_lhs => rw [← List.take_append_drop (i + 1) nodes, List.zipIdx_append, Nat.zero_add]
  rw [scanArrays, hsplit, List.foldlM_append, hsucc]
  rfl

lemma stmt_touch (w : World) : w.touch.stmt s = w.stmt s := by
  rw [World.touch]
  split <;> rfl

lemma stmts_touch (w : World) : w.touch.stmts = w.stmts := by
  rw [World.touch]
  split <;> rfl

lemma Scanned.succ {w w' : World} {n : OraBindNode} (hw : Scanned s select nodes i w)
    (hn : nodes[i]? = some n)
    (hlen : w'.stmts.length = w.stmts.length) (hnodes : (w'.stmt s).nodeList = (w.stmt s).nodeList)
    (hselect : (w'.stmt s).isSelect = (w.stmt s).isSelect)
    (ha : scanNode select (w.stmt s).arraySize (n, i) = .ok (w'.stmt s).arraySize) :
    Scanned s select nodes (i + 1) w' := by
  refine ⟨hlen ▸ hw.exists_stmt, hnodes.trans hw.nodeList, hselect.trans hw.isSelect, ?_⟩
  rw [scan_take_succ hn, hw.size]
  exact ha

lemma Scanned.touch {w : World} (hw : Scanned s select nodes i w) :
    Scanned s select nodes i w.touch := by
  refine ⟨?_, ?_, ?_, ?_⟩
  · rw [stmts_touch]
    exact hw.exists_stmt
  · rw [stmt_touch]
    exact hw.nodeList
  · rw [stmt_touch]
    exact hw.isSelect
  · rw [stmt_touch]
    exact hw.size

lemma setArraySize_run (pos m : ℕ) {w : World} (hlt : s < w.stmts.length) :
    (∃ a w', (OracleDriver.setArraySize .main s pos m : Drv h l Bool).run w = (false, w') ∧
      setArraySize pos (w.stmt s).arraySize m = .ok a ∧ w'.stmts.length = w.stmts.length ∧
      w'.stmt s = { w.stmt s with arraySize := a }) ∨
    ∃ e w', (OracleDriver.setArraySize .main s pos m : Drv h l Bool).run w = (true, w') ∧
      setArraySize pos (w.stmt s).arraySize m = .error e ∧ e ∈ w'.xsink := by
  simp only [OracleDriver.setArraySize, Drv.stmt, OracleDriver.touch, run_bind, run_step, run_get,
    run_pure, run_ite, stmt_touch, setArraySize]
  by_cases hpos : 0 < (w.stmt s).arraySize
  · simp only [hpos, if_true]
    by_cases hne : (w.stmt s).arraySize = m
    · left
      exact ⟨(w.stmt s).arraySize, w.touch, by simp [hne], by simp [hne], by rw [stmts_touch],
        by rw [stmt_touch]⟩
    · right
      refine ⟨arraySizeError pos m (w.stmt s).arraySize,
        w.touch.raise .main (arraySizeError pos m (w.stmt s).arraySize), by simp [hne, raise],
          by simp [hne], by simp [World.raise]⟩
  · left
    refine ⟨m, w.touch.touch.setStmt s (Stmt.setArraySize m), ?_, by simp [hpos], ?_, ?_⟩
    · simp only [hpos, if_false]
      rfl
    · simp [World.setStmt, stmts_touch]
    · rw [World.stmt, World.setStmt, stmts_touch, stmts_touch]
      simp [List.getD_eq_getElem?_getD, hlt, World.stmt, Stmt.setArraySize]

-- the search of the driver takes the sizes in the order of the nodes
lemma scanArray_passes (hshort : ∀ n ∈ nodes, ∀ l, n.value = .list l → l.length < 2 ^ 32)
    {n : OraBindNode}
    (hn : nodes[i]? = some n) :
    Passes (ScanRaised select nodes) (Scanned s select nodes i) (Scanned s select nodes (i + 1))
      (scanArray .main s i : Drv h l Bool) := by
  intro w hw
  have hw := hw.touch
  have hget : (w.touch.stmt s).nodeList[i]? = some n := by rw [hw.nodeList, hn]
  have idle : scanNode select (w.touch.stmt s).arraySize (n, i) = .ok (w.touch.stmt s).arraySize →
      Scanned s select nodes (i + 1) w.touch := hw.succ hn rfl rfl rfl
  simp only [scanArray, Drv.stmt, OracleDriver.touch, run_bind, run_step, run_get, run_pure, hget]
  cases hv : n.isValue with
  | false => exact ⟨nofun, fun _ => idle (by simp [scanNode, hv])⟩
  | true =>
    cases hval : n.value with
    | list l =>
      have hsize : toUnsigned l.length = l.length :=
        Nat.mod_eq_of_lt (hshort n (List.mem_of_getElem? hn) l hval)
      have hnode : scanNode select (w.touch.stmt s).arraySize (n, i) =
          if select then .error selectArray
          else setArraySize (i + 1) (w.touch.stmt s).arraySize l.length := by
        simp [scanNode, hv, hval, hsize]
      cases hsel : select with
      | true =>
        have hs : (w.touch.stmt s).isSelect = true := hw.isSelect.trans hsel
        rw [hsel] at hnode
        simp only [hs, if_true]
        exact ⟨fun _ => ⟨selectArray, scan_error hn (hsel ▸ hw.size) hnode,
          by simp [raise, World.raise, selectArray]⟩, nofun⟩
      | false =>
        have hs : (w.touch.stmt s).isSelect = false := hw.isSelect.trans hsel
        rw [hsel] at hnode
        simp only [hs, Bool.not_true, Bool.false_eq_true, if_false]
        rcases setArraySize_run (i + 1) l.length hw.exists_stmt with
          ⟨a, w', hrun, ha, hlen, hstmt⟩ | ⟨e, w', hrun, he, hmem⟩
        · rw [hrun]
          refine ⟨nofun, fun _ => (hsel ▸ hw).succ hn hlen ?_ ?_ ?_⟩
          · rw [hstmt]
          · rw [hstmt]
          · rw [hstmt]
            exact hnode.trans ha
        · rw [hrun]
          exact ⟨fun _ => ⟨e, scan_error hn (hsel ▸ hw.size) (hnode.trans he), hmem⟩, nofun⟩
    | _ => exact ⟨nofun, fun _ => idle (by simp [scanNode, hv, hval])⟩

/-- The search of the driver raises what the sizes give, or leaves the size that they give. -/
theorem scan_passes (nodes : List OraBindNode)
    (hshort : ∀ n ∈ nodes, ∀ l, n.value = .list l → l.length < 2 ^ 32) :
    Passes (ScanRaised select nodes) (Scanned s select nodes 0) (Scanned s select nodes nodes.length)
      (tryEach (scanArray .main s) (List.range nodes.length) : Drv h l Bool) := by
  have hpass := passes_tryEach (E := ScanRaised select nodes) (I := Scanned s select nodes)
    (f := (scanArray .main s : ℕ → Drv h l Bool)) (l := List.range nodes.length) ?_
  · rwa [List.length_range] at hpass
  · intro i x hx
    obtain ⟨hi, rfl⟩ := List.getElem?_eq_some_iff.mp hx
    rw [List.length_range] at hi
    rw [List.getElem_range]
    exact scanArray_passes hshort (List.getElem?_eq_getElem hi)

end Driver

end ArraySizes

end OracleDriver
