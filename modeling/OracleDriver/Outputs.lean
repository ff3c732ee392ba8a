import OracleDriver.InOut

/-! The values of output positions over the calls that get them. -/

namespace OracleDriver

-- a string: the node has a null pointer once a value took the buffer over, but the bind still has
-- the buffer
structure TextBuf where
  value : Option Text
  trim : Bool
  held : Bool
  given : Bool

structure CursorBuf where
  rows : Option (List QoreValue)
  held : Bool

-- an entry of an array of strings
structure ArrayEntry where
  value : Option Text
  held : Bool

-- an output position by what getValue() does with its buffer; an array of numbers has buffers after an
-- execution only, and a buffer that is misread is one of another kind than its type says
inductive Out where
  | plain (v : QoreValue)
  | numbers (v : Option QoreValue)
  | misread
  | text (b : TextBuf)
  | cursor (b : CursorBuf)
  | list (es : List ArrayEntry)

-- what the server sets at a position, with none for NULL
structure Written where
  value : QoreValue
  text : Option Text
  rows : Option (List QoreValue)
  entries : List (Option Text)

def removeTrailingBlanks (t : Text) : Text := (t.reverse.dropWhile (· = ' ')).reverse

namespace TextBuf

def read (enc : Encoding) (b : TextBuf) (t : Text) : QoreValue :=
  .string ⟨if b.trim then removeTrailingBlanks t else t, enc⟩

def take (b : TextBuf) : TextBuf := { b with held := false, given := true }

end TextBuf

namespace ArrayEntry

def read (enc : Encoding) (e : ArrayEntry) : QoreValue :=
  match e.value with
  | none => .null
  | some t => .string ⟨if e.held then t else [], enc⟩

def take (e : ArrayEntry) : ArrayEntry := { e with held := e.held && e.value.isNone }

def Intact (e : ArrayEntry) : Prop := e.value = none ∨ e.value = some [] ∨ e.held = true

end ArrayEntry

namespace Out

section Bound

variable (c : Setting) (numbers : NumberOption)

-- what getValue() makes of the buffer that bindValue() leaves for a placeholder; `v` is what a buffer
-- of another type holds
def ofValue (v : QoreValue) : QoreValue → Out
  | .string s => .text ⟨some s.text, false, true, false⟩
  | .binary _ => .misread
  | .int i => if i ≤ maxInt32 && -maxInt32 ≤ i then .plain v else .misread
  | _ => .plain v

def ofPlaceholder (arraySize : ℕ) (v : QoreValue) (n : OraBindNode) : Out :=
  if arraySize ≠ 0 then
    if n.isType "string" then .list (.replicate arraySize ⟨some [], false⟩) else .numbers none
  else if n.isType "string" then .text ⟨some [], n.phMaxsize < 0, true, false⟩
  else if n.isType "number" && numbers = .string then .text ⟨some [], false, true, false⟩
  else if n.isType "hash" || n.isType "resultset" then .cursor ⟨some [], true⟩
  else .plain v

-- the position of a placeholder after bind()
def bound (arraySize : ℕ) (v : QoreValue) (n : OraBindNode) : Out :=
  match n.bindCase c arraySize with
  | .value w _ => ofValue v w
  | .placeholder => ofPlaceholder numbers arraySize v n
  | .refused _ => .plain v

end Bound

variable (enc : Encoding) (shape : Bool → List QoreValue → QoreValue)

-- OraBindNode::getValue(); none where it uses a null pointer or misreads the buffer
def getValue (horizontal : Bool) : Out → Option QoreValue × Out
  | plain v => (some v, plain v)
  | numbers v => (v, numbers v)
  | misread => (none, misread)
  | text b =>
    match b.value with
    | none => (some .null, text b)
    | some t => if b.held then (some (b.read enc t), text b.take) else (none, text b)
  | cursor b =>
    match b.rows with
    | none => (some .null, cursor b)
    | some rows => if b.held then (some (shape horizontal rows), cursor { b with held := false })
        else (none, cursor b)
  | list es => (some (.list (es.map (ArrayEntry.read enc))), list (es.map ArrayEntry.take))

-- OCIStmtExecute() sets the buffers; the callback of an array of strings makes new ones
def write (w : Written) : Out → Out
  | plain _ => plain w.value
  | numbers _ => numbers (some w.value)
  | misread => misread
  | text b => text { b with value := w.text }
  | cursor b => cursor { b with rows := w.rows }
  | list _ => list (w.entries.map fun v => ⟨v, true⟩)

-- an execution reads and writes the buffer of the bind, del() frees the one of the node
def usesGiven : Out → Bool
  | text b => b.given
  | _ => false

def freesGiven : Out → Bool
  | text b => b.held && b.given
  | _ => false

-- no value took the buffer over that an execution sets
def Usable : Out → Prop
  | text b => b.held = true
  | _ => True

-- no value took the buffer over that the next one needs
def Intact : Out → Prop
  | plain _ => True
  | numbers v => v.isSome = true
  | misread => False
  | text b => b.value = none ∨ b.held = true
  | cursor b => b.rows = none ∨ b.held = true
  | list es => ∀ e ∈ es, e.Intact

-- the value as it is if no buffer was taken over
def full (horizontal : Bool) : Out → QoreValue
  | plain v => v
  | numbers v => v.getD .nothing
  | misread => .nothing
  | text b => b.value.elim .null (b.read enc)
  | cursor b => b.rows.elim .null (shape horizontal)
  | list es => .list (es.map fun e => e.value.elim .null fun t => .string ⟨t, enc⟩)

def Consistent : Out → Prop
  | text b => b.given = !b.held
  | _ => True

-- an array of strings that no call has got since the last execution
def Fresh : Out → Prop
  | list es => ∀ e ∈ es, e.Intact
  | _ => True

-- the values have taken the buffers over
def Drained : Out → Prop
  | text b => b.value = none ∨ b.held = false
  | cursor b => b.rows = none ∨ b.held = false
  | _ => True

variable {enc shape} {o : Out} {horizontal : Bool}

lemma ofValue_fresh (v w : QoreValue) : (ofValue v w).Consistent ∧ (ofValue v w).Fresh := by
  cases w with
  | int i =>
    rw [ofValue]
    split <;> exact ⟨trivial, trivial⟩
  | string s => exact ⟨rfl, trivial⟩
  | _ => exact ⟨trivial, trivial⟩

lemma ofPlaceholder_fresh (numbers : NumberOption) (arraySize : ℕ) (v : QoreValue) (n : OraBindNode) :
    (ofPlaceholder numbers arraySize v n).Consistent ∧
      (ofPlaceholder numbers arraySize v n).Fresh := by
  unfold ofPlaceholder
  repeat' split
  all_goals first
    | exact ⟨rfl, trivial⟩
    | exact ⟨trivial, trivial⟩
    | skip
  refine ⟨trivial, fun e he => ?_⟩
  rw [List.eq_of_mem_replicate he]
  exact Or.inr (Or.inl rfl)

lemma arrayEntry_read (e : ArrayEntry) (h : e.Intact) :
    e.read enc = e.value.elim .null fun t => .string ⟨t, enc⟩ := by
  rcases e with ⟨value, held⟩
  rcases h with h | h | h <;> simp only at h <;> subst h
  · rfl
  · simp [ArrayEntry.read]
  · cases value <;> rfl

lemma arrayEntry_intact (e : ArrayEntry)
    (h : e.read enc = e.value.elim .null fun t => .string ⟨t, enc⟩) : e.Intact := by
  rcases e with ⟨value, held⟩
  cases value with
  | none => exact Or.inl rfl
  | some t =>
    cases held with
    | true => exact Or.inr (Or.inr rfl)
    | false =>
      have ht : ([] : Text) = t := congrArg QoreString.text (QoreValue.string.inj h)
      exact Or.inr (Or.inl (congrArg some ht.symm))

lemma getValue_of_intact (h : o.Intact) :
    (o.getValue enc shape horizontal).1 = some (o.full enc shape horizontal) := by
  cases o with
  | plain v => rfl
  | numbers v =>
    obtain ⟨w, rfl⟩ := Option.isSome_iff_exists.mp h
    rfl
  | misread => exact h.elim
  | text b =>
    rcases b with ⟨_ | t, trim, held, given⟩
    · rfl
    · rcases h with h | h
      · cases h
      · simp only at h
        subst h
        rfl
  | cursor b =>
    rcases b with ⟨_ | rows, held⟩
    · rfl
    · rcases h with h | h
      · cases h
      · simp only at h
        subst h
        rfl
  | list es =>
    have hes : es.map (ArrayEntry.read enc) = es.map fun e => e.value.elim .null fun t =>
      .string ⟨t, enc⟩ :=
      List.map_congr_left fun e he => arrayEntry_read e (h e he)
    simp only [getValue, full, hes]

-- a call that gives the value has found the buffers, but for arrays of strings
lemma intact_of_getValue {v : QoreValue} (h : (o.getValue enc shape horizontal).1 = some v)
    (hf : o.Fresh) :
    o.Intact := by
  cases o with
  | plain v => exact trivial
  | numbers w =>
    have hw : w = some v := h
    simp [Intact, hw]
  | misread => cases h
  | text b =>
    rcases b with ⟨_ | t, trim, _ | _, given⟩
    · exact Or.inl rfl
    · exact Or.inl rfl
    · cases h
    · exact Or.inr rfl
  | cursor b =>
    rcases b with ⟨_ | rows, _ | _⟩
    · exact Or.inl rfl
    · exact Or.inl rfl
    · cases h
    · exact Or.inr rfl
  | list es => exact hf

-- an array of strings that gives the same values as before has lost no buffer
lemma fresh_of_full {hz : Bool} (h : (o.getValue enc shape horizontal).1 = some (o.full enc shape hz)) :
    o.Fresh := by
  cases o with
  | list es =>
    have hes := QoreValue.list.inj (Option.some.inj h)
    intro e he
    exact arrayEntry_intact e (List.map_inj_left.mp hes e he)
  | _ => exact trivial

lemma full_getValue (hz : Bool) :
    (o.getValue enc shape horizontal).2.full enc shape hz = o.full enc shape hz := by
  cases o with
  | text b => rcases b with ⟨_ | t, trim, _ | _, given⟩ <;> rfl
  | cursor b => rcases b with ⟨_ | rows, _ | _⟩ <;> rfl
  | list es => simp only [getValue, full, List.map_map, Function.comp_def, ArrayEntry.take]
  | _ => rfl

lemma full_of_drained (hd : o.Drained) (hi : o.Intact) (hz : Bool) :
    o.full enc shape horizontal = o.full enc shape hz := by
  cases o with
  | cursor b =>
    rcases b with ⟨_ | rows, held⟩
    · rfl
    · rcases hd with hd | hd
      · cases hd
      · rcases hi with hi | hi
        · cases hi
        · simp only at hd hi
          rw [hd] at hi
          cases hi
  | _ => rfl

lemma drained_getValue (h : o.Intact) : (o.getValue enc shape horizontal).2.Drained := by
  cases o with
  | text b => rcases b with ⟨_ | t, trim, _ | _, given⟩ <;> simp [getValue, Drained, TextBuf.take]
  | cursor b => rcases b with ⟨_ | rows, _ | _⟩ <;> simp [getValue, Drained]
  | _ => exact trivial

lemma consistent_getValue (h : o.Consistent) : (o.getValue enc shape horizontal).2.Consistent := by
  cases o with
  | text b =>
    rcases b with ⟨_ | t, trim, _ | _, given⟩
    · exact h
    · exact h
    · exact h
    · rfl
  | cursor b => rcases b with ⟨_ | rows, _ | _⟩ <;> exact trivial
  | _ => exact trivial

lemma consistent_write (w : Written) (h : o.Consistent) : (o.write w).Consistent := by
  cases o with
  | text b => exact h
  | _ => exact trivial

lemma fresh_write (w : Written) : (o.write w).Fresh := by
  cases o with
  | list es =>
    intro e he
    obtain ⟨v, -, rfl⟩ := List.mem_map.mp he
    exact Or.inr (Or.inr rfl)
  | _ => exact trivial

lemma usesGiven_iff (h : o.Consistent) : o.usesGiven = false ↔ o.Usable := by
  cases o with
  | text b =>
    have hg : b.given = !b.held := h
    simp [usesGiven, Usable, hg]
  | _ => simp [usesGiven, Usable]

lemma not_freesGiven (h : o.Consistent) : o.freesGiven = false := by
  cases o with
  | text b =>
    have hg : b.given = !b.held := h
    simp [freesGiven, hg]
  | _ => rfl

end Out

-- the calls between binds
inductive OutputCall where
  | execute (writes : ℕ → Written)
  | getOutput (horizontal : Bool)

-- the positions, and the values that the first call since the last execution gave
structure Retrieval where
  outs : List Out
  seen : Option (List QoreValue)

namespace Retrieval

variable (enc : Encoding) (shape : Bool → List QoreValue → QoreValue)

-- the values that getOutputHash() sets in the hash
def values (s : Retrieval) (horizontal : Bool) : List (Option QoreValue) :=
  s.outs.map fun o => (o.getValue enc shape horizontal).1

def step (s : Retrieval) : OutputCall → Retrieval
  | .execute writes => ⟨s.outs.mapIdx fun k o => o.write (writes k), none⟩
  | .getOutput horizontal =>
    ⟨s.outs.map fun o => (o.getValue enc shape horizontal).2,
      some (s.seen.getD ((s.values enc shape horizontal).filterMap id))⟩

-- the call gives what the first one since the last execution gave, and uses no buffer of a value
def Right (s : Retrieval) (c : OutputCall) : Prop :=
  (∀ o ∈ s.outs, o.freesGiven = false) ∧
    match c with
    | .execute _ => ∀ o ∈ s.outs, o.usesGiven = false
    | .getOutput horizontal =>
      ∃ h, s.values enc shape horizontal = h.map some ∧ ∀ first, s.seen = some first → h = first

-- no buffer was taken over that the call needs
def Clean (s : Retrieval) : OutputCall → Prop
  | .execute _ => ∀ o ∈ s.outs, o.Usable
  | .getOutput _ => ∀ o ∈ s.outs, o.Intact

structure Inv (s : Retrieval) : Prop where
  consistent : ∀ o ∈ s.outs, o.Consistent
  fresh : s.seen = none → ∀ o ∈ s.outs, o.Fresh
  seen : ∀ first, s.seen = some first →
    (∃ hz, first = s.outs.map (Out.full enc shape hz)) ∧ ∀ o ∈ s.outs, o.Drained

variable {enc shape} {s : Retrieval}

lemma values_of_intact {horizontal : Bool} (h : ∀ o ∈ s.outs, o.Intact) :
    s.values enc shape horizontal = (s.outs.map (Out.full enc shape horizontal)).map some := by
  rw [values, List.map_map]
  exact List.map_congr_left fun o ho => Out.getValue_of_intact (h o ho)

lemma getOutput_iff (hi : Inv enc shape s) (horizontal : Bool) :
    (∃ h, s.values enc shape horizontal = h.map some ∧ ∀ first, s.seen = some first → h = first) ↔
      ∀ o ∈ s.outs, o.Intact := by
  constructor
  · rintro ⟨h, hval, hfirst⟩ o ho
    have hmem : (o.getValue enc shape horizontal).1 ∈ s.values enc shape horizontal :=
      List.mem_map_of_mem ho
    rw [hval] at hmem
    obtain ⟨v, -, hv⟩ := List.mem_map.mp hmem
    apply Out.intact_of_getValue hv.symm
    cases hs : s.seen with
    | none => exact hi.fresh hs o ho
    | some first =>
      obtain ⟨⟨hz, hfull⟩, -⟩ := hi.seen first hs
      obtain rfl := hfirst first hs
      rw [hfull, values, List.map_map] at hval
      exact Out.fresh_of_full (List.map_inj_left.mp hval o ho)
  · intro h
    refine ⟨_, values_of_intact h, ?_⟩
    intro first hs
    obtain ⟨⟨hz, rfl⟩, hd⟩ := hi.seen first hs
    exact List.map_congr_left fun o ho => Out.full_of_drained (hd o ho) (h o ho) hz

lemma right_iff (hi : Inv enc shape s) (c : OutputCall) : s.Right enc shape c ↔ s.Clean c := by
  have hfrees : ∀ o ∈ s.outs, o.freesGiven = false := fun o ho => Out.not_freesGiven (hi.consistent o ho)
  cases c with
  | execute writes =>
    rw [Right, and_iff_right hfrees]
    exact forall₂_congr fun o ho => Out.usesGiven_iff (hi.consistent o ho)
  | getOutput horizontal =>
    rw [Right, and_iff_right hfrees]
    exact getOutput_iff hi horizontal

lemma inv_step (hi : Inv enc shape s) {c : OutputCall} (hc : s.Clean c) :
    Inv enc shape (s.step enc shape c) := by
  cases c with
  | execute writes =>
    refine ⟨?_, ?_, nofun⟩
    · intro o ho
      obtain ⟨k, hk, rfl⟩ := List.mem_mapIdx.mp ho
      exact Out.consistent_write _ (hi.consistent _ (List.getElem_mem hk))
    · intro _ o ho
      obtain ⟨k, hk, rfl⟩ := List.mem_mapIdx.mp ho
      exact Out.fresh_write _
  | getOutput horizontal =>
    refine ⟨?_, nofun, ?_⟩
    · intro o ho
      obtain ⟨p, hp, rfl⟩ := List.mem_map.mp ho
      exact Out.consistent_getValue (hi.consistent p hp)
    · intro first hfirst
      constructor
      · have hkeep : ∀ hz, (s.outs.map fun o => (o.getValue enc shape horizontal).2).map
            (Out.full enc shape hz) =
            s.outs.map (Out.full enc shape hz) := by
          intro hz
          rw [List.map_map]
          exact List.map_congr_left fun o _ => Out.full_getValue hz
        cases hs : s.seen with
        | none =>
          refine ⟨horizontal, ?_⟩
          simp only [step, hs, Option.getD_none, Option.some.injEq, values_of_intact hc] at hfirst
          simp only [step, hkeep, ← hfirst, List.filterMap_map, Function.comp_def, id,
            List.filterMap_eq_map']
        | some h =>
          obtain ⟨⟨hz, hfull⟩, -⟩ := hi.seen h hs
          simp only [step, hs, Option.getD_some, Option.some.injEq] at hfirst
          exact ⟨hz, by simp only [step, hkeep, ← hfirst, hfull]⟩
      · intro o ho
        obtain ⟨p, hp, rfl⟩ := List.mem_map.mp ho
        exact Out.drained_getValue (hc p hp)

-- every call of a run meets the condition `P` in the state it finds
def Always (enc : Encoding) (shape : Bool → List QoreValue → QoreValue)
    (P : Retrieval → OutputCall → Prop) :
    Retrieval → List OutputCall → Prop
  | _, [] => True
  | s, c :: calls => P s c ∧ Always enc shape P (s.step enc shape c) calls

lemma always_iff (hi : Inv enc shape s) (calls : List OutputCall) :
    Always enc shape (Right enc shape) s calls ↔ Always enc shape Clean s calls := by
  induction calls generalizing s with
  | nil => rfl
  | cons c calls ih =>
    constructor
    · rintro ⟨hright, hrest⟩
      have hc := (right_iff hi c).mp hright
      exact ⟨hc, (ih (inv_step hi hc)).mp hrest⟩
    · rintro ⟨hc, hrest⟩
      exact ⟨(right_iff hi c).mpr hc, (ih (inv_step hi hc)).mpr hrest⟩

variable (c : Setting) (numbers : NumberOption)

-- the placeholders of a statement after a bind
def bound (arraySize : ℕ) (nodes : List (OraBindNode × QoreValue)) : Retrieval where
  outs := (nodes.filter fun n => n.1.isPlaceholder).map fun n => Out.bound c numbers arraySize n.2 n.1
  seen := none

lemma inv_bound (arraySize : ℕ) (nodes : List (OraBindNode × QoreValue)) :
    Inv enc shape (bound c numbers arraySize nodes) := by
  have hout : ∀ v n, (Out.bound c numbers arraySize v n).Consistent ∧
      (Out.bound c numbers arraySize v n).Fresh := by
    intro v n
    rw [Out.bound]
    cases n.bindCase c arraySize with
    | value w inOnly => exact Out.ofValue_fresh v w
    | placeholder => exact Out.ofPlaceholder_fresh numbers arraySize v n
    | refused e => exact ⟨trivial, trivial⟩
  refine ⟨?_, ?_, nofun⟩
  · intro o ho
    obtain ⟨n, -, rfl⟩ := List.mem_map.mp ho
    exact (hout n.2 n.1).1
  · intro _ o ho
    obtain ⟨n, -, rfl⟩ := List.mem_map.mp ho
    exact (hout n.2 n.1).2

end Retrieval

-- all calls between two executions give the same values, and none uses a buffer that a value took over
def RepeatableOutput (c : Setting) (numbers : NumberOption) (shape : Bool → List QoreValue → QoreValue)
    (arraySize : ℕ) (nodes : List (OraBindNode × QoreValue)) (calls : List OutputCall) : Prop :=
  Retrieval.Always c.encoding shape (Retrieval.Right c.encoding shape)
    (Retrieval.bound c numbers arraySize nodes) calls

/-- The outputs can be got again if and only if each call finds the buffers that it reads. -/
theorem repeatableOutput_iff (c : Setting) (numbers : NumberOption)
    (shape : Bool → List QoreValue → QoreValue)
    (arraySize : ℕ) (nodes : List (OraBindNode × QoreValue)) (calls : List OutputCall) :
    RepeatableOutput c numbers shape arraySize nodes calls ↔
      Retrieval.Always c.encoding shape Retrieval.Clean
        (Retrieval.bound c numbers arraySize nodes) calls :=
  Retrieval.always_iff (Retrieval.inv_bound c numbers arraySize nodes) calls

/-- A string that is got twice. -/
theorem not_repeatableOutput_twice :
    ¬ RepeatableOutput plainSetting .optimal (fun _ => .list) 0
      [(.ofPlaceholder "p".toList (-1) (some "string".toList) .nothing, .nothing)]
      [.execute fun _ => ⟨.nothing, some "x".toList, none, []⟩, .getOutput false, .getOutput false] := by
  rintro ⟨-, -, ⟨-, h, hval, -⟩, -⟩
  cases h with
  | nil => cases hval
  | cons v h => cases (List.cons.inj hval).1

end OracleDriver
