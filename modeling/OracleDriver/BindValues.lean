import OracleDriver.NodeBind

/-! The values of placeholders over the binds of a prepared statement. -/

namespace OracleDriver

lemma QoreValue.eq_nothing {v : QoreValue} (h : v.isNothing = true) : v = .nothing := by
  cases v with
  | nothing => rfl
  | _ => cases h

-- the IN value that the argument of a placeholder carries
def givenValue : QoreValue → QoreValue
  | .hash h => QoreValue.getKeyValue h "value"
  | _ => .nothing

namespace OraBindNode

lemma describePlaceholder_value (lib : QoreLib) (v : QoreValue) (n : OraBindNode) :
    (describePlaceholder lib v n).1.value = if (givenValue v).isNothing then n.value
      else givenValue v := by
  cases v with
  | hash h =>
    simp only [describePlaceholder, givenValue]
    generalize hm : (if (QoreValue.getKeyValue h "value").isNothing then n
      else { n with value := QoreValue.getKeyValue h "value" }) = m
    have hvalue : m.value = if (QoreValue.getKeyValue h "value").isNothing then n.value
        else QoreValue.getKeyValue h "value" := by
      rw [← hm]
      split <;> rfl
    refine Eq.trans ?_ hvalue
    split
    · split <;> rfl
    · rfl
    · rfl
  | _ => rfl

-- what setPlaceholder() resets first, but for the buffers it releases
def cleared (n : OraBindNode) : OraBindNode := n.clearType.resetTmp.clearAltOutput.unsetDtype

@[simp] lemma cleared_value (n : OraBindNode) : n.cleared.value = n.value := by
  simp only [cleared, clearType, resetTmp, clearAltOutput, unsetDtype]
  split <;> rfl

@[simp] lemma cleared_isValue (n : OraBindNode) : n.cleared.isValue = n.isValue := by
  simp only [cleared, clearType, resetTmp, clearAltOutput, unsetDtype]
  split <;> rfl

end OraBindNode

-- a position with the argument of its last bind, which sends the value of the node
structure Slot where
  node : OraBindNode
  arg : Option QoreValue

namespace Slot

-- a marker or the placeholder of the name, as it is parsed
def parsed (lib : QoreLib) (v : QoreValue) : Option Text → Slot
  | none => ⟨.ofValue v, some v⟩
  | some name =>
    let r := OraBindNode.describePlaceholder lib v (.ofPlaceholder name (-1) none .nothing)
    ⟨r.1, if r.2.isSome then none else some v⟩

-- OraBindNode::set(); the release of an earlier value can fail
def set (lib : QoreLib) (v : QoreValue) (broken : Bool) (s : Slot) : Slot × Bool :=
  if s.node.isValue then (⟨s.node.setValue v, some v⟩, broken)
  else
    let r := OraBindNode.describePlaceholder lib v s.node.cleared
    (⟨r.1, if r.2.isSome then none else some v⟩, r.2.isSome)

-- a placeholder has the value of its last argument and no other one
def Fresh (s : Slot) : Prop := s.node.isPlaceholder → ∀ v, s.arg = some v → s.node.value = givenValue v

-- what bind() sends is what the last argument carries, or its conversion to the declared type
lemma Fresh.sends {s : Slot} (hs : s.Fresh) (hp : s.node.isPlaceholder = true) {v w : QoreValue}
    (ha : s.arg = some v) {c : Setting} {arraySize : ℕ} {inOnly : Bool}
    (hcase : s.node.bindCase c arraySize = .value w inOnly) : s.node.Sends c (givenValue v) w :=
  hs hp v ha ▸ OraBindNode.bindCase_sends hcase

lemma parsed_fresh (lib : QoreLib) (v : QoreValue) (item : Option Text) : (parsed lib v item).Fresh := by
  intro hp v' hv'
  cases item with
  | none => cases hp
  | some name =>
    simp only [parsed] at hv' ⊢
    split at hv'
    · cases hv'
    · obtain rfl : v = v' := by simpa using hv'
      rw [OraBindNode.describePlaceholder_value]
      split
      · rename_i hn
        exact (QoreValue.eq_nothing hn).symm
      · rfl

-- the argument carries a value, or there is none from an earlier bind
def Clean (v : QoreValue) (s : Slot) : Prop :=
  (givenValue v).isNothing = false ∨ s.node.value.isNothing = true

lemma set_fresh_iff (lib : QoreLib) (v : QoreValue) (broken : Bool) (s : Slot) :
    (s.set lib v broken).1.Fresh ↔
      (s.node.isPlaceholder → (OraBindNode.describePlaceholder lib v s.node.cleared).2 = none →
        s.Clean v) := by
  cases hval : s.node.isValue with
  | true => simp [set, hval, Fresh, OraBindNode.isPlaceholder, OraBindNode.setValue]
  | false =>
    simp only [set, hval, Bool.false_eq_true, if_false, Fresh, OraBindNode.isPlaceholder,
      OraBindNode.describePlaceholder_isValue, OraBindNode.cleared_isValue, Bool.not_false,
        forall_true_left,
      OraBindNode.describePlaceholder_value, OraBindNode.cleared_value, Clean]
    cases he : (OraBindNode.describePlaceholder lib v s.node.cleared).2 with
    | some e => simp
    | none =>
      simp only [Option.isSome_none, Bool.false_eq_true, if_false, Option.some.injEq, forall_eq',
        forall_true_left]
      cases hg : (givenValue v).isNothing with
      | false => simp
      | true =>
        rw [QoreValue.eq_nothing hg]
        constructor
        · intro h
          have hv : s.node.value = .nothing := h
          exact Or.inr (hv ▸ rfl)
        · rintro (h | h)
          · cases h
          · exact QoreValue.eq_nothing h

end Slot

inductive BindKind where
  | bind
  | placeholders
  | values

-- which positions a call takes arguments for
def BindKind.takes : BindKind → OraBindNode → Bool
  | bind => fun _ => true
  | placeholders => OraBindNode.isPlaceholder
  | values => OraBindNode.isValue

-- bind(), bindPlaceholders() or bindValues() with its arguments, and where the release of a value fails
structure BindCall where
  kind : BindKind
  args : Option (List QoreValue)
  broken : ℕ → Bool

namespace BindCall

variable (lib : QoreLib)

-- the positions from the argument of number `k` on; an error ends the call
def setFrom (c : BindCall) (k : ℕ) : List Slot → List Slot
  | [] => []
  | s :: slots =>
    if c.kind.takes s.node then
      let r := s.set lib (retrieveEntry c.args k) (c.broken k)
      r.1 :: if r.2 then slots else c.setFrom (k + 1) slots
    else s :: c.setFrom k slots

def step (slots : List Slot) (c : BindCall) : List Slot := c.setFrom lib 0 slots

-- no placeholder that the call sets without a value has one from an earlier bind
def CleanFrom (c : BindCall) (k : ℕ) : List Slot → Prop
  | [] => True
  | s :: slots =>
    if c.kind.takes s.node then
      (s.node.isPlaceholder →
        (OraBindNode.describePlaceholder lib (retrieveEntry c.args k) s.node.cleared).2 = none →
        s.Clean (retrieveEntry c.args k)) ∧
      ((s.set lib (retrieveEntry c.args k) (c.broken k)).2 = false → c.CleanFrom (k + 1) slots)
    else c.CleanFrom k slots

def Clean (c : BindCall) (slots : List Slot) : Prop := c.CleanFrom lib 0 slots

omit lib in
lemma setFrom_fresh_iff (lib : QoreLib) (c : BindCall) {slots : List Slot}
    (hs : ∀ s ∈ slots, s.Fresh) (k : ℕ) :
    (∀ s ∈ c.setFrom lib k slots, s.Fresh) ↔ c.CleanFrom lib k slots := by
  induction slots generalizing k with
  | nil => simp [setFrom, CleanFrom]
  | cons s slots ih =>
    obtain ⟨hfirst, hrest⟩ := List.forall_mem_cons.mp hs
    simp only [setFrom, CleanFrom]
    split
    · rw [List.forall_mem_cons, Slot.set_fresh_iff]
      apply and_congr_right'
      cases hb : (s.set lib (retrieveEntry c.args k) (c.broken k)).2 with
      | true => simpa using hrest
      | false => simpa using ih hrest (k + 1)
    · rw [List.forall_mem_cons, and_iff_right hfirst]
      exact ih hrest k

end BindCall

namespace BindRun

variable (lib : QoreLib)

-- the positions of a statement that was parsed with arguments
def prepared (args : Option (List QoreValue)) (items : List (Option Text)) : List Slot :=
  items.mapIdx fun k item => Slot.parsed lib (retrieveEntry args k) item

def run (slots : List Slot) (calls : List BindCall) : List Slot := calls.foldl (BindCall.step lib) slots

-- every call of the run is clean in the state it finds
def Clean : List Slot → List BindCall → Prop
  | _, [] => True
  | slots, c :: calls => c.Clean lib slots ∧ Clean (BindCall.step lib slots c) calls

variable {lib}

lemma prepared_fresh (args : Option (List QoreValue)) (items : List (Option Text)) :
    ∀ s ∈ prepared lib args items, s.Fresh := by
  intro s hs
  obtain ⟨k, hk, rfl⟩ := List.mem_mapIdx.mp hs
  exact Slot.parsed_fresh _ _ _

lemma run_fresh_iff {slots : List Slot} (hs : ∀ s ∈ slots, s.Fresh) (calls : List BindCall) :
    (∀ pre, pre <+: calls → ∀ s ∈ run lib slots pre, s.Fresh) ↔ Clean lib slots calls := by
  induction calls generalizing slots with
  | nil =>
    simp only [List.prefix_nil, forall_eq, Clean, iff_true]
    exact hs
  | cons c calls ih =>
    have hstep := BindCall.setFrom_fresh_iff lib c hs 0
    constructor
    · intro h
      have hfirst : ∀ s ∈ BindCall.step lib slots c, s.Fresh := h [c] ⟨calls, rfl⟩
      refine ⟨hstep.mp hfirst, (ih hfirst).mp ?_⟩
      intro pre hpre
      exact h (c :: pre) (List.cons_prefix_cons.mpr ⟨rfl, hpre⟩)
    · rintro ⟨hc, hcalls⟩ pre hpre
      have hfirst := hstep.mpr hc
      cases pre with
      | nil => exact hs
      | cons c' pre =>
        obtain ⟨rfl, hrest⟩ := List.cons_prefix_cons.mp hpre
        exact (ih hfirst).mpr hcalls pre hrest

end BindRun

-- the value of every placeholder is the one its last argument carries, after each call of the run
def FreshValues (lib : QoreLib) (args : Option (List QoreValue)) (items : List (Option Text))
    (calls : List BindCall) : Prop :=
  ∀ pre, pre <+: calls → ∀ s ∈ BindRun.run lib (BindRun.prepared lib args items) pre, s.Fresh

/-- Each execution sends the values that were bound last if and only if no placeholder without a
value is bound where an earlier bind has left one. -/
theorem freshValues_iff (lib : QoreLib) (args : Option (List QoreValue)) (items : List (Option Text))
    (calls : List BindCall) :
    FreshValues lib args items calls ↔ BindRun.Clean lib (BindRun.prepared lib args items) calls :=
  BindRun.run_fresh_iff (BindRun.prepared_fresh args items) calls

/-- An IN OUT bind, then a plain placeholder. -/
theorem not_freshValues_plain :
    ¬ FreshValues plainLib (some [.string ⟨"string".toList, 0⟩]) [some "p".toList]
      [⟨.bind, some [.hash [("type".toList, .string ⟨"string".toList, 0⟩),
        ("value".toList, .int 1)]], fun _ => false⟩,
          ⟨.bind, some [.string ⟨"string".toList, 0⟩], fun _ => false⟩] := by
  intro h
  have hf := h _ (List.prefix_refl _) _ List.mem_cons_self rfl _ rfl
  cases hf

end OracleDriver
