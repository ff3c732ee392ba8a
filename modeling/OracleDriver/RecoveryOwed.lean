import OracleDriver.StillRecovery

/-! A statement whose release makes a checked call, when every call times out: the errors of the
release are handled by one more level of handleError(). -/

namespace OracleDriver

open Act

-- what a call returns whose receive timeout has passed
def timedOut : Answer := ⟨.error, recvTimeoutCode, "", 0, false⟩

namespace OraBindNode

-- the release of the node makes a checked call; a value with an array bind gives this one up first
structure OwesRaw (n : OraBindNode) : Prop where
  value : n.isValue = false
  raw : isRaw n.dtype = true
  array : n.array = false

structure OwesLob (n : OraBindNode) : Prop where
  value : n.isValue = true
  dtype : n.dtype ≠ .unset
  lob : n.strLobs ≠ []

structure BareLob (n : OraBindNode) : Prop extends OwesLob n where
  array : n.array = false

lemma not_inert_iff {lost : Bool} {n : OraBindNode} :
    ¬n.Inert lost ↔ n.OwesRaw ∨ n.OwesLob ∧ lost = false := by
  constructor
  · intro hn
    by_cases hr : n.OwesRaw
    · exact .inl hr
    · right
      by_contra hl
      refine hn ⟨fun hv hd hs => ?_, fun hv hr' => ?_⟩
      · exact eq_true_of_ne_false fun hf => hl ⟨⟨hv, hd, hs⟩, hf⟩
      · exact eq_true_of_ne_false fun ha => hr ⟨hv, hr', ha⟩
  · rintro (hr | ⟨hl, rfl⟩) hn
    · exact Bool.false_ne_true (hr.array.symm.trans (hn.raw hr.value hr.raw))
    · exact Bool.false_ne_true (hn.lob hl.value hl.dtype hl.lob)

end OraBindNode

namespace Stmt

def NodeAt (i : ℕ) (q : OraBindNode → Prop) (S : Stmt) : Prop := ∃ n, S.nodeList[i]? = some n ∧ q n

def RawColumn (j : ℕ) (S : Stmt) : Prop :=
  ∃ r c, S.columns = some r ∧ r.clist[j]? = some c ∧ c.holdsRaw = true

lemma not_inert_iff {lost : Bool} {S : Stmt} :
    ¬S.Inert lost ↔ (∃ i, S.NodeAt i fun n => ¬n.Inert lost) ∨ ∃ j, S.RawColumn j := by
  constructor
  · intro hS
    by_cases hr : S.holdsRaw = true
    · right
      obtain ⟨r, hc, hr⟩ := (Option.any_eq_true _ _).1 hr
      obtain ⟨c, hm, hc'⟩ := List.any_eq_true.1 hr
      obtain ⟨j, hj⟩ := List.getElem?_of_mem hm
      exact ⟨j, r, c, hc, hj, hc'⟩
    · left
      by_contra hn
      refine hS ⟨fun n hm => ?_, eq_false_of_ne_true hr⟩
      obtain ⟨i, hi⟩ := List.getElem?_of_mem hm
      by_contra hni
      exact hn ⟨i, n, hi, hni⟩
  · rintro (⟨i, n, hi, hn⟩ | ⟨j, r, c, hr, hj, hc⟩) hS
    · exact hn (hS.nodes n (List.mem_of_getElem? hi))
    · refine Bool.false_ne_true (hS.columns.symm.trans ?_)
      exact (Option.any_eq_true _ _).2 ⟨r, hr, List.any_eq_true.2 ⟨c, List.mem_of_getElem? hj, hc⟩⟩

end Stmt

open OraBindNode (OwesRaw OwesLob BareLob)
open Stmt (NodeAt RawColumn)

lemma not_inert_raw {lost : Bool} (i : ℕ) (S : Stmt) (hS : S.NodeAt i OwesRaw) : ¬S.Inert lost := by
  obtain ⟨n, hn, hr⟩ := hS
  exact Stmt.not_inert_iff.2 (.inl ⟨i, n, hn, OraBindNode.not_inert_iff.2 (.inl hr)⟩)

lemma not_inert_lob (i : ℕ) (S : Stmt) (hS : S.NodeAt i OwesLob) : ¬S.Inert false := by
  obtain ⟨n, hn, hl⟩ := hS
  exact Stmt.not_inert_iff.2 (.inl ⟨i, n, hn, OraBindNode.not_inert_iff.2 (.inr ⟨hl, rfl⟩)⟩)

lemma not_inert_rawColumn {lost : Bool} {j : ℕ} (S : Stmt) (hS : S.RawColumn j) : ¬S.Inert lost :=
  Stmt.not_inert_iff.2 (.inr ⟨j, hS⟩)

-- every call times out, and the release of `s` is still to come; `p` is what it holds
structure Awaits (logon lost : Bool) (set : List ℕ) (s : ℕ) (p : Stmt → Prop) (w : World) : Prop where
  oracle : w.oracle = fun _ => timedOut
  logon : w.conn.inLogon = logon
  lost : w.conn.lost = lost
  depth : w.conn.callDepth = 0
  stmtSet : w.conn.stmtSet = set
  reached : s ∈ set ∨ s ∈ w.dsStmts
  owed : p (w.stmt s)

def Owed (logon lost : Bool) (set : List ℕ) (s : ℕ) (p : Stmt → Prop) (w : World) : Prop :=
  w.overflow = true ∨ Awaits logon lost set s p w

-- a state from which the handling of errors nests without a bound
structure Astir (w : World) : Prop where
  oracle : w.oracle = fun _ => timedOut
  logon : w.conn.inLogon = false
  depth : w.conn.callDepth = 0
  owed : ∃ s, (s ∈ w.conn.stmtSet ∨ s ∈ w.dsStmts) ∧ ¬(w.stmt s).Inert w.conn.lost

variable {h : Handler} {b lost : Bool} {set : List ℕ} {s i : ℕ} {p p' : Stmt → Prop} {w t : World}
  {α : Type} {l : Level}

namespace Awaits

lemma same (hw : Awaits b lost set s p w) (ho : t.oracle = w.oracle)
    (hi : t.conn.inLogon = w.conn.inLogon)
    (hl : t.conn.lost = w.conn.lost) (hc : t.conn.callDepth = w.conn.callDepth)
    (hset : t.conn.stmtSet = w.conn.stmtSet)
    (hd : t.dsStmts = w.dsStmts) (hs : t.stmts = w.stmts) : Awaits b lost set s p t where
  oracle := ho.trans hw.oracle
  logon := hi.trans hw.logon
  lost := hl.trans hw.lost
  depth := hc.trans hw.depth
  stmtSet := hset.trans hw.stmtSet
  reached := by
    rw [hd]
    exact hw.reached
  owed := by
    rw [World.stmt, hs]
    exact hw.owed

lemma plain (hw : Awaits b lost set s p w) (ho : t.oracle = w.oracle) (hc : t.conn = w.conn)
    (hd : t.dsStmts = w.dsStmts)
    (hs : t.stmts = w.stmts) : Awaits b lost set s p t :=
  hw.same ho (by rw [hc]) (by rw [hc]) (by rw [hc]) (by rw [hc]) hd hs

lemma touch (hw : Awaits b lost set s p w) : Awaits b lost set s p w.touch := by
  unfold World.touch
  split
  · exact hw
  · exact hw.plain rfl rfl rfl rfl

lemma raise (hw : Awaits b lost set s p w) (x : Sink) (m : Exn) :
    Awaits b lost set s p (w.raise x m) := by
  cases x <;> exact hw.plain rfl rfl rfl rfl

lemma emit (hw : Awaits b lost set s p w) (m : Event) : Awaits b lost set s p (w.emit m) :=
  hw.plain rfl rfl rfl rfl

lemma mono (hw : Awaits b lost set s p w) (hp : ∀ S, p S → p' S) : Awaits b lost set s p' w :=
  ⟨hw.oracle, hw.logon, hw.lost, hw.depth, hw.stmtSet, hw.reached, hp _ hw.owed⟩

lemma setStmt (hw : Awaits b lost set s p w) (s' : ℕ) {f : Stmt → Stmt}
    (hf : s' = s → p (w.stmt s) → p' (f (w.stmt s)))
    (hn : (s' = s → ¬s < w.stmts.length) → p (w.stmt s) → p' (w.stmt s)) :
    Awaits b lost set s p' (w.setStmt s' f) where
  oracle := hw.oracle
  logon := hw.logon
  lost := hw.lost
  depth := hw.depth
  stmtSet := hw.stmtSet
  reached := hw.reached
  owed := by
    rw [World.stmt_setStmt]
    split
    · rename_i he
      exact hf he.1 hw.owed
    · rename_i he
      exact hn (fun hs hlt => he ⟨hs, hs ▸ hlt⟩) hw.owed

lemma astir (hw : Awaits false lost set s p w) (hp : ∀ S, p S → ¬S.Inert lost) : Astir w where
  oracle := hw.oracle
  logon := hw.logon
  depth := hw.depth
  owed := by
    refine ⟨s, ?_, ?_⟩
    · rw [hw.stmtSet]
      exact hw.reached
    · rw [hw.lost]
      exact hp _ hw.owed

end Awaits

lemma Awaits.asks : Asks (Awaits b lost set s p) where
  touch hw := hw.touch
  ask _ hw := hw.plain rfl rfl rfl rfl
  raise x m hw := hw.raise x m

namespace Owed

lemma mono (hw : Owed b lost set s p w) (hp : ∀ S, p S → p' S) : Owed b lost set s p' w :=
  hw.imp id fun hw => hw.mono hp

lemma asks : Asks (Owed b lost set s p) where
  touch {w} hw := by
    refine hw.imp (fun hw => ?_) Awaits.touch
    unfold World.touch
    split <;> exact hw
  ask c hw := hw.imp id fun hw => hw.plain rfl rfl rfl rfl
  raise x m hw := by
    refine hw.imp (fun hw => ?_) fun hw => hw.raise x m
    cases x <;> exact hw

lemma emit (hw : Owed b lost set s p w) (m : Event) : Owed b lost set s p (w.emit m) :=
  hw.imp id fun hw => hw.emit m

-- a change of a statement that leaves what is owed
lemma setStmt (hw : Owed b lost set s p w) (s' : ℕ) {f : Stmt → Stmt}
    (hf : s' = s → ∀ S, p S → p (f S)) :
    Owed b lost set s p (w.setStmt s' f) := hw.imp id fun hw => hw.setStmt s' (fun hs => hf hs _)
      fun _ hp => hp

end Owed

section Nest

variable (hf : ∀ x who w, Frame w (h x who w)) (hE : ∀ x who w, Astir w → (h x who w).overflow = true)
  (hp : ∀ S, p S → ¬S.Inert lost) (x : Sink)

section Overflow

include hf

-- what ends with the bound exceeded or in `Q`
lemma spec_or (hl : Kind.drive ∉ l.kinds) {m : Drv h l α} {P : World → Prop} {Q : α → World → Prop}
    (hm : Spec P m fun a t => t.overflow = true ∨ Q a t) :
    Spec (fun w => w.overflow = true ∨ P w) m fun a t => t.overflow = true ∨ Q a t := by
  rintro w (hw | hw)
  · exact .inl ((Drv.frame hl hf m w).overflow hw)
  · exact hm w hw

lemma spec_overflow (hl : Kind.drive ∉ l.kinds) (m : Drv h l α) :
    Spec (fun w => w.overflow = true) m fun _ t => t.overflow = true :=
  fun w hw => (Drv.frame hl hf m w).overflow hw

lemma NodeAct.spec_overflow {c : Bool} (m : NodeAct h s i c α) :
    Spec (fun w => w.overflow = true) m fun _ t => t.overflow = true :=
  fun w hw => (NodeAct.frame hf m w).overflow hw

end Overflow

include hE hp in
lemma owed_handled (who : String) (hw : Awaits false lost set s p w) :
    (h x who w).overflow = true := hE x who w (hw.astir hp)

include hf hE hp

-- a checked call times out, and its error is handled
lemma owed_checked {R : World → World → Prop} [HasPlain h R] (c : Call) (who : String) :
    Spec (Owed false lost set s p) (checked x c who : Act R Bool) fun _ t => t.overflow = true := by
  rintro w (hw | hw)
  · show ((w.touch.ask c).2.checkerr h x (w.touch.ask c).1 who).2.overflow = true
    exact (World.frame_checkerr hf x _ who _).overflow
      ((w.frame_touch.trans (World.frame_ask c _)).overflow hw)
  · show ((w.touch.ask c).2.checkerr h x (w.touch.ask c).1 who).2.overflow = true
    have ht : Awaits false lost set s p (w.touch.ask c).2 := hw.touch.plain rfl rfl rfl rfl
    have ha : (w.touch.ask c).1 = timedOut := by
      show w.touch.oracle w.touch.tick = timedOut
      rw [hw.touch.oracle]
    rw [ha]
    exact owed_handled hE hp x who ht.touch

lemma owed_check (a : Answer) (who : String) {R : World → World → Prop} [HasPlain h R] :
    Spec (Owed false lost set s p) (check x a who : Act R Bool) fun _ => Owed false lost set s p := by
  apply asks_check Owed.asks x
  rintro who w (hw | hw)
  · exact .inl ((hf x who w).overflow hw)
  · exact .inl (owed_handled hE hp x who hw)

-- what is done with another node
lemma owed_nodeMove {c : Bool} {s' j : ℕ} (hj : s' = s → ∀ f S, p S → p (Stmt.setNode j f S))
    (hc : c = false)
    (hm : NodeMove h s' j c w t) (hw : Owed false lost set s p w) : Owed false lost set s p t := by
  have free (o : Locator) : Owed false lost set s p (w.freeTemporary o).2 := by
    apply Owed.asks.ask
    apply Owed.asks.touch
    exact hw.emit _
  cases hm with
  | plain hm =>
    cases hm with
    | touch => exact Owed.asks.touch hw
    | ask k => exact Owed.asks.ask k hw
    | raise x m => exact Owed.asks.raise x m hw
    | check x a who => exact owed_check (R := NodeMove h s' j c) hf hE hp x a who w hw
    | exhaust => exact .inl rfl
  | tidy f => exact hw.setStmt s' fun hs => hj hs _
  | strlobFree =>
    unfold World.strlobFree
    split
    · split
      · exact Owed.asks.touch hw
      · exact free _
    · exact hw
  | arraybindFree =>
    unfold World.arraybindFree
    split
    · split
      · exact Owed.asks.touch hw
      · exact free _
    · exact hw
  | _ => cases hc

lemma owed_nodeAct {s' j : ℕ} (hj : s' = s → ∀ f S, p S → p (Stmt.setNode j f S))
    (m : NodeAct h s' j false α) :
    Spec (Owed false lost set s p) m fun _ => Owed false lost set s p :=
  fun _ hw => Act.invariant (fun _ _ hm => owed_nodeMove hf hE hp hj rfl hm) m hw

end Nest

section Node

variable (hf : ∀ x who w, Frame w (h x who w))
  (hE : ∀ x who w, Astir w → (h x who w).overflow = true) (x : Sink)
  {c : Bool} {q r : OraBindNode → Prop}

-- a statement that owes a release is one of the world
lemma nodeAt_lt (hn : (w.stmt s).NodeAt i q) : s < w.stmts.length := by
  by_contra hlt
  have hnew : w.stmt s = Stmt.new := by
    rw [World.stmt, List.getD_eq_getElem?_getD, List.getElem?_eq_none (Nat.le_of_not_lt hlt)]
    rfl
  obtain ⟨n, hn, -⟩ := hn
  rw [hnew] at hn
  simp only [Stmt.new, List.getElem?_nil, reduceCtorEq] at hn

lemma awaits_setNode (hw : Awaits b lost set s (NodeAt i q) w) (f : OraBindNode → OraBindNode)
    (hq : ∀ n, q n → r (f n)) :
    Awaits b lost set s (NodeAt i r) (w.setNode s i f) := by
  refine hw.setStmt s (fun _ => ?_) fun hlt hn => absurd (nodeAt_lt hn) (hlt rfl)
  rintro ⟨n, hn, hqn⟩
  refine ⟨f n, ?_, hq n hqn⟩
  show ((w.stmt s).nodeList.modify i f)[i]? = some (f n)
  rw [List.getElem?_modify, hn]
  simp only [if_true, Option.map_eq_map, Option.map_some]

namespace NodeAct

lemma awaits_node {f : Option OraBindNode → NodeAct h s i c α} {Q : α → World → Prop}
    (hfn : ∀ n, q n → Spec (Awaits b lost set s (NodeAt i q)) (f (some n)) Q) :
    Spec (Awaits b lost set s (NodeAt i q)) (node >>= f) Q := by
  refine spec_node (fun _ hw => hw.touch) fun r w hw => ?_
  obtain ⟨n, hn, hq⟩ := hw.1.owed
  obtain rfl : some n = r := hn.symm.trans hw.2
  exact hfn n hq w hw.1

lemma awaits_modify (f : OraBindNode → OraBindNode) (hf : ∀ n, OraBindNode.Tidy n (f n))
    (hq : ∀ n, q n → r (f n)) :
    Spec (Awaits b lost set s (NodeAt i q)) (modify f hf : NodeAct h s i c Unit)
      fun _ => Awaits b lost set s (NodeAt i r) :=
  fun _ hw => awaits_setNode hw.touch f hq

lemma owesLob_like {n n' : OraBindNode} (hn : n.OwesLob) (hl : OraBindNode.Like n n') : n'.OwesLob where
  value := hl.value.trans hn.value
  dtype := by
    rw [hl.dtype]
    exact hn.dtype
  lob := by
    rw [hl.lobs]
    exact hn.lob

include hf hE

lemma overflow_clear_raw :
    Spec (Awaits false lost set s (NodeAt i OwesRaw)) (clear x : NodeAct h s i c Unit) fun _ t =>
    t.overflow = true := by
  have free : Spec (Awaits false lost set s (NodeAt i OwesRaw)) (rawFree x : NodeAct h s i c Bool)
      fun _ t => t.overflow = true :=
    fun w hw => owed_checked hf hE (not_inert_raw i) x _ _ w (.inr hw)
  have del : Spec (Awaits false lost set s (NodeAt i OwesRaw)) (del x : NodeAct h s i c Unit)
      fun _ t => t.overflow = true := by
    refine awaits_node fun n hn => spec_ite (fun ha => ?_) fun _ => ?_
    · rw [hn.array] at ha
      cases ha
    · have raw := hn.raw
      cases hd : n.dtype with
      | bin | lbi | lvb => exact spec_bind free fun _ => spec_overflow hf _
      | _ => rw [hd] at raw; cases raw
  refine awaits_node fun n hn => spec_ite (fun hv => ?_) fun _ => awaits_node fun n hn =>
    spec_ite (fun hd => ?_) fun _ => ?_
  · rw [hn.value] at hv
    cases hv
  · have raw := hn.raw
    rw [hd] at raw
    cases raw
  · exact spec_bind del fun _ => spec_overflow hf _

lemma overflow_freeStrlob : Spec (Awaits false false set s (NodeAt i OwesLob))
    (freeStrlob x : NodeAct h s i c Unit) fun _ t =>
    t.overflow = true := by
  have step : Spec (Awaits false false set s (NodeAt i OwesLob))
      (Act.step (World.strlobFree s i) .strlobFree : NodeAct h s i c (Option Answer))
      fun r t => r = some timedOut ∧ Awaits false false set s (NodeAt i OwesLob) t := by
    intro w hw
    obtain ⟨n, hn, hl⟩ := hw.owed
    show (w.strlobFree s i).1 = some timedOut ∧
      Awaits false false set s (NodeAt i OwesLob) (w.strlobFree s i).2
    obtain ⟨o, os, ho⟩ := List.exists_cons_of_ne_nil hl.lob
    have hnode : (w.node s i).elim [] OraBindNode.strLobs = o :: os := by
      rw [World.node, hn]
      exact ho
    have hlost : ¬w.conn.lost = true := by
      rw [hw.lost]
      exact Bool.false_ne_true
    simp only [World.strlobFree, hnode, hlost]
    have ht := (hw.emit (.lobFreed o w.cur)).touch
    refine ⟨?_, ht.plain rfl rfl rfl rfl⟩
    show some ((w.emit (.lobFreed o w.cur)).touch.oracle _) = some timedOut
    rw [ht.oracle]
  refine spec_bind_eq step (spec_bind (Q := fun _ t => t.overflow = true) (fun w hw => ?_) fun _ =>
    spec_overflow hf _)
  show (h x _ w.touch).overflow = true
  exact owed_handled hE (not_inert_lob i) x _ hw.touch

lemma overflow_resetValue : Spec (Awaits false false set s (NodeAt i BareLob))
    (resetValue x : NodeAct h s i c Unit) fun _ t =>
    t.overflow = true := by
  refine awaits_node fun n hn => spec_ite (fun hd => absurd hd hn.dtype) fun _ => ?_
  refine spec_bind (awaits_modify _ _ fun n hn => owesLob_like hn.toOwesLob (.resetTmp n)) fun _ =>
    spec_ite (fun ha => ?_) fun _ => ?_
  · rw [hn.array] at ha
    cases ha
  have hl := hn.lob
  refine spec_ite (fun _ => spec_ite (fun _ => ?_) fun ha => absurd ?_ hl) fun hs => absurd ?_ hl
  · exact spec_bind (overflow_freeStrlob hf hE x) fun _ => spec_overflow hf _
  · rw [OraBindNode.strLobs, if_neg ha]
  · rw [OraBindNode.strLobs, Option.not_isSome_iff_eq_none.1 hs]
    exact ite_self _

omit hf hE in
-- an array bind is given up, and what the value holds itself is left
lemma bareLob_resetValue :
    Spec (Awaits false false set s (NodeAt i fun n => n.OwesLob ∧ n.array = true))
    (resetValue x : NodeAct h s i c Unit)
      fun _ => Awaits false false set s (NodeAt i BareLob) := by
  refine awaits_node fun n hn => spec_ite (fun hd => absurd hd hn.1.dtype) fun _ => ?_
  refine spec_bind (awaits_modify (r := OwesLob) _ _ fun n hn => owesLob_like hn.1 (.resetTmp n))
    fun _ => ?_
  refine spec_ite (fun _ => ?_) fun ha => absurd hn.2 ha
  have free : Spec (Awaits false false set s (NodeAt i OwesLob))
      (Act.step (fun w => ((), w.arraybindFree s i)) .arraybindFree : NodeAct h s i c Unit)
      fun _ => Awaits false false set s (NodeAt i OwesLob) := by
    intro w hw
    show Awaits false false set s (NodeAt i OwesLob) (w.arraybindFree s i)
    unfold World.arraybindFree
    split
    · split
      · exact hw.touch
      · exact (hw.emit _).touch.plain rfl rfl rfl rfl
    · exact hw
  have delete : Spec (Awaits false false set s (NodeAt i OwesLob))
      (deleteArraybind : NodeAct h s i c Unit)
      fun _ => Awaits false false set s (NodeAt i OwesLob) :=
    spec_bind free fun _ => awaits_modify _ _ fun n hn => owesLob_like hn (.deleteArraybind n)
  refine spec_bind delete fun _ =>
    spec_bind (awaits_modify (r := BareLob) _ _ fun n hn => ⟨?_, rfl⟩) fun _ _ hw => hw
  exact ⟨hn.value, hn.dtype, hn.lob⟩

-- what clear() leaves of a value
lemma owed_clear_lob : Spec (Owed false false set s (NodeAt i OwesLob)) (clear x : NodeAct h s i c Unit)
    fun _ => Owed false false set s (NodeAt i BareLob) := by
  have reset : Spec (Awaits false false set s (NodeAt i OwesLob)) (resetValue x : NodeAct h s i c Unit)
      fun _ => Owed false false set s (NodeAt i BareLob) := by
    intro w hw
    obtain ⟨n, hn, hl⟩ := hw.owed
    cases ha : n.array with
    | true =>
      right
      exact bareLob_resetValue x w ⟨hw.oracle, hw.logon, hw.lost, hw.depth, hw.stmtSet, hw.reached,
        n, hn, hl, ha⟩
    | false =>
      left
      exact overflow_resetValue hf hE x w
        ⟨hw.oracle, hw.logon, hw.lost, hw.depth, hw.stmtSet, hw.reached, n, hn, hl, ha⟩
  have done : Spec (Awaits false false set s (NodeAt i OwesLob)) (clear x : NodeAct h s i c Unit)
      fun _ => Owed false false set s (NodeAt i BareLob) :=
    awaits_node fun n hn => spec_ite (fun _ => reset) fun hv => absurd hn.value hv
  rintro w (hw | hw)
  · exact .inl (spec_overflow hf _ w hw)
  · exact done w hw

lemma overflow_reset_lob :
    Spec (Awaits false false set s (NodeAt i BareLob)) (reset x : NodeAct h s i c Unit) fun _ t =>
    t.overflow = true := by
  refine spec_bind (awaits_modify (r := BareLob) _ _ fun n hn => ?_) fun _ => ?_
  · exact ⟨owesLob_like hn.toOwesLob ⟨rfl, rfl, rfl, rfl⟩, hn.array⟩
  exact awaits_node fun n hn => spec_ite (fun _ => overflow_resetValue hf hE x) fun hv =>
    absurd hn.value hv

end NodeAct

end Node

section Statement

variable (hf : ∀ x who w, Frame w (h x who w)) (hE : ∀ x who w, Astir w → (h x who w).overflow = true)
  (hp : ∀ S, p S → ¬S.Inert lost) (x : Sink) {s' : ℕ} {q r : OraBindNode → Prop}

lemma owed_setStmt (f : Stmt → Stmt) (hc : ∀ S, Stmt.Calm S (f S)) (hs : s' = s → ∀ S, p S → p (f S)) :
    Spec (Owed b lost set s p) (Drv.setStmt s' f hc : Drv h l Unit) fun _ => Owed b lost set s p :=
  fun _ hw => (Owed.asks.touch hw).setStmt s' hs

lemma owed_deregister (hs : s' ≠ s) :
    Spec (Owed b lost set s p) (deregisterStatement s' : Drv h l Unit)
      fun _ => Owed b lost (set.erase s') s p := by
  intro w hw
  rcases Owed.asks.touch hw with hw | hw
  · exact .inl hw
  · right
    refine ⟨hw.oracle, hw.logon, hw.lost, hw.depth, ?_, hw.reached.imp ?_ id, hw.owed⟩
    · show w.touch.conn.stmtSet.erase s' = set.erase s'
      rw [hw.stmtSet]
    · exact fun hm => (List.mem_erase_of_ne (Ne.symm hs)).2 hm

section Handled

include hf hE hp

lemma owed_stmtClear_other (hs : s' ≠ s) :
    Spec (Owed false lost set s p) (stmtClear x s' : Drv h .calm Unit)
      fun _ => Owed false lost set s p := by
  refine kept_stmtClear x Owed.asks (fun f _ w hw => hw.setStmt s' fun h => absurd h hs)
    (fun i => ?_) fun w _ _ => ?_
  · exact owed_nodeAct hf hE hp (fun h => absurd h hs) _
  · exact fun w hw => .inl (owed_checked hf hE hp x _ _ w hw)

lemma owed_delColumns (hc : s' = s → ∀ (f : Stmt → Stmt) S, Stmt.Calm S (f S) → p S → p (f S)) :
    Spec (Owed false lost set s p) (delColumns x s' : Drv h .calm Unit)
      fun _ => Owed false lost set s p := by
  refine kept_delColumns x Owed.asks (fun f hcalm w hw => hw.setStmt s' fun h S =>
    hc h f S (hcalm S)) fun w _ _ => ?_
  exact fun w hw => .inl (owed_checked hf hE hp x _ _ w hw)

lemma owed_stmtReset_other (hs : s' ≠ s) :
    Spec (Owed false lost set s p) (stmtReset x s' : Drv h .calm Unit)
      fun _ => Owed false lost (set.erase s') s p := by
  have node (i : ℕ) : Spec (Owed false lost set s p) (Drv.resetNode x s' i : Drv h .calm Unit)
      fun _ => Owed false lost set s p :=
    owed_nodeAct hf hE hp (fun h => absurd h hs) (NodeAct.reset x)
  have drop : Spec (Owed false lost set s p)
      (Drv.move .calm Level.calm.has_calm (·.setStmt s' fun S => { S with nodeList := [] })
      (.dropNodes s') : Drv h .calm Unit) fun _ => Owed false lost set s p :=
    fun w hw => hw.setStmt s' fun h => absurd h hs
  refine spec_bind (owed_setStmt _ _ fun h => absurd h hs) fun _ =>
    spec_bind (kept_stmt Owed.asks) fun S => ?_
  refine spec_bind (spec_each fun i _ => node i) fun _ => spec_bind drop fun _ => ?_
  refine spec_bind (owed_delColumns hf hE hp x fun h => absurd h hs) fun _ => ?_
  exact spec_bind (owed_setStmt _ _ fun h => absurd h hs) fun _ => owed_deregister hs

omit hf hE hp in
lemma nodeAt_setNode {j : ℕ} (hj : j ≠ i) (f : OraBindNode → OraBindNode) (S : Stmt)
    (hS : S.NodeAt i q) :
    (S.setNode j f).NodeAt i q := by
  obtain ⟨n, hn, hq⟩ := hS
  refine ⟨n, ?_, hq⟩
  show (S.nodeList.modify j f)[i]? = some n
  rw [List.getElem?_modify, hn]
  simp only [hj, if_false, Option.map_eq_map, Option.map_some]

omit hf hE hp in
lemma nodeAt_calm (f : Stmt → Stmt) (S : Stmt) (hc : Stmt.Calm S (f S)) (hS : S.NodeAt i q) :
    (f S).NodeAt i q := by
  rw [NodeAt, hc.nodes]
  exact hS

omit hp in
-- the node of the statement that owes the release
lemma owed_stmtClear_node (hq : ∀ S : Stmt, S.NodeAt i q → ¬S.Inert lost) (hr : ∀ n, r n → q n)
    (hc : Spec (Owed false lost set s (NodeAt i q)) (NodeAct.clear x : NodeAct h s i false Unit) fun _ =>
      Owed false lost set s (NodeAt i r)) :
    Spec (Owed false lost set s (NodeAt i q)) (stmtClear x s : Drv h .calm Unit) fun _ =>
      Owed false lost set s (NodeAt i r) := by
  have back (S : Stmt) : S.NodeAt i r → S.NodeAt i q := fun ⟨n, hn, h⟩ => ⟨n, hn, hr n h⟩
  have other {q : OraBindNode → Prop} (hq : ∀ S : Stmt, S.NodeAt i q → ¬S.Inert lost) (j : ℕ)
      (hj : j ≠ i) :
      Spec (Owed false lost set s (NodeAt i q)) (Drv.clearNode x s j : Drv h .calm Unit) fun _ =>
        Owed false lost set s (NodeAt i q) :=
    owed_nodeAct hf hE hq (fun _ f S => nodeAt_setNode hj f S) (NodeAct.clear x)
  have node : Spec (Owed false lost set s (NodeAt i q)) (Drv.clearNode x s i : Drv h .calm Unit) fun _ =>
      Owed false lost set s (NodeAt i r) := hc
  have tail : Spec (Owed false lost set s (NodeAt i r)) (do
      delColumns x s
      Drv.setStmt s Stmt.undefine fun _ => .same rfl rfl : Drv h .calm Unit) fun _ =>
        Owed false lost set s (NodeAt i r) := by
    refine spec_bind (owed_delColumns hf hE (fun S hS => hq S (back S hS)) x fun _ f S =>
      nodeAt_calm f S) fun _ => ?_
    exact owed_setStmt _ _ fun _ S hS => hS
  have start : Spec (Awaits false lost set s (NodeAt i q)) (stmtClear x s : Drv h .calm Unit) fun _ =>
      Owed false lost set s (NodeAt i r) := by
    refine spec_bind (Q := fun _ => Awaits false lost set s (NodeAt i q)) (fun w hw => ?_) fun _ => ?_
    · exact hw.touch.setStmt s (fun _ hn => hn) fun _ hn => hn
    refine reads_stmt (fun _ hw => hw.touch) fun S w hw => ?_
    obtain ⟨n, hn, -⟩ := hw.1.owed
    rw [hw.2] at hn
    refine spec_bind (spec_each_mem (fun j => ?_) node (fun j => ?_) ?_) (fun _ => tail) w (.inr hw.1)
    · by_cases hj : j = i
      · rw [hj]
        exact spec_weaken node (fun _ hw => hw) fun _ _ hw => hw.mono back
      · exact other hq j hj
    · by_cases hj : j = i
      · rw [hj]
        exact spec_weaken node (fun _ hw => hw.mono back) fun _ _ hw => hw
      · exact other (fun S hS => hq S (back S hS)) j hj
    · exact List.mem_range.2 (List.getElem?_eq_some_iff.1 hn).1
  rintro w (hw | hw)
  · exact .inl (spec_overflow hf (by decide) _ w hw)
  · exact start w hw

omit hf hE hp in
lemma rawColumn_endColumn {j k : ℕ} (hj : k ≠ j) (S : Stmt) (hS : S.RawColumn j) :
    (S.endColumn k).RawColumn j := by
  obtain ⟨r, c, hr, hc, hraw⟩ := hS
  refine ⟨{ r with clist := r.clist.modify k ({ · with defp := false }) }, c, ?_, ?_, hraw⟩
  · rw [Stmt.endColumn, hr]
    rfl
  · show (r.clist.modify k _)[j]? = some c
    rw [List.getElem?_modify, hc]
    simp only [hj, if_false, Option.map_eq_map, Option.map_some]

section Column

variable {j : ℕ}

omit hp in
lemma overflow_rawFree : Spec (Owed false lost set s (RawColumn j)) (rawFree x : Drv h .calm Bool)
    fun _ t => t.overflow = true :=
  owed_checked hf hE not_inert_rawColumn x _ _

omit hp in
lemma owed_delColumn_other {k : ℕ} (hk : k ≠ j) :
    Spec (Owed false lost set s (RawColumn j)) (delColumn x s k : Drv h .calm Unit)
    fun _ => Owed false lost set s (RawColumn j) := by
  have ended : Spec (Owed false lost set s (RawColumn j))
      (Drv.setStmt s (·.endColumn k) (.endColumn k) : Drv h .calm Unit)
      fun _ => Owed false lost set s (RawColumn j) :=
        owed_setStmt _ _ fun _ S => rawColumn_endColumn hk S
  refine spec_bind (kept_stmt Owed.asks) fun S => ?_
  split
  · exact carried_pure
  · refine spec_ite (fun _ => carried_pure) fun _ => spec_ite (fun _ => ?_) fun _ =>
      spec_ite (fun _ => ?_) fun _ => ended
    · exact spec_bind (overflow_rawFree hf hE x) fun _ w hw => .inl (spec_overflow hf (by decide) _ w hw)
    · refine spec_bind (asks_oci Owed.asks _) fun a => spec_ite (fun _ => ?_) fun _ => ended
      exact spec_bind (asks_raise Owed.asks x _) fun _ => ended

omit hp in
lemma overflow_delColumn :
    Spec (Owed false lost set s (RawColumn j)) (delColumn x s j : Drv h .calm Unit) fun _ t =>
    t.overflow = true := by
  have column : Spec (Awaits false lost set s (RawColumn j)) (delColumn x s j : Drv h .calm Unit)
      fun _ t => t.overflow = true := by
    refine reads_stmt (fun _ hw => hw.touch) fun S w hw => ?_
    obtain ⟨r, c, hr, hc, hraw⟩ := hw.1.owed
    rw [hw.2] at hr
    have hget : S.columns.bind (·.clist[j]?) = some c := by
      rw [hr]
      exact hc
    rw [Column.holdsRaw, Bool.and_eq_true] at hraw
    rw [hget]
    refine (?_ : Spec (Awaits false lost set s (RawColumn j)) _ fun _ t => t.overflow = true) w hw.1
    refine spec_ite (fun hd => ?_) fun _ => spec_ite (fun _ => ?_) fun hn => absurd hraw.2 hn
    · rw [hraw.1] at hd
      cases hd
    · exact spec_bind (fun w hw => overflow_rawFree hf hE x w (.inr hw)) fun _ =>
        spec_overflow hf (by decide) _
  rintro w (hw | hw)
  · exact spec_overflow hf (by decide) _ w hw
  · exact column w hw

omit hp in
lemma overflow_delColumns :
    Spec (Owed false lost set s (RawColumn j)) (delColumns x s : Drv h .calm Unit) fun _ t =>
    t.overflow = true := by
  have columns : Spec (Awaits false lost set s (RawColumn j)) (delColumns x s : Drv h .calm Unit)
      fun _ t => t.overflow = true := by
    refine reads_stmt (fun _ hw => hw.touch) fun S w hw => ?_
    obtain ⟨r, c, hr, hc, -⟩ := hw.1.owed
    rw [hw.2] at hr
    rw [hr]
    refine spec_bind (spec_each_mem (fun k => ?_) (overflow_delColumn hf hE x) (fun k =>
      spec_overflow hf (by decide) _) ?_)
      (fun _ => spec_overflow hf (by decide) _) w (.inr hw.1)
    · by_cases hk : k = j
      · rw [hk]
        exact spec_weaken (overflow_delColumn hf hE x) (fun _ hw => hw) fun _ _ hw => .inl hw
      · exact owed_delColumn_other hf hE x hk
    · exact List.mem_range.2 (List.getElem?_eq_some_iff.1 hc).1
  rintro w (hw | hw)
  · exact spec_overflow hf (by decide) _ w hw
  · exact columns w hw

omit hp in
-- the column of the statement whose release is a checked call
lemma overflow_stmtClear_column :
    Spec (Owed false lost set s (RawColumn j)) (stmtClear x s : Drv h .calm Unit) fun _ t =>
    t.overflow = true := by
  have node (i : ℕ) : Spec (Owed false lost set s (RawColumn j))
      (Drv.clearNode x s i : Drv h .calm Unit) fun _ =>
      Owed false lost set s (RawColumn j) :=
        owed_nodeAct hf hE not_inert_rawColumn (fun _ _ _ hS => hS) (NodeAct.clear x)
  refine spec_bind (owed_setStmt _ _ fun _ S hS => hS) fun _ =>
    spec_bind (kept_stmt Owed.asks) fun S => ?_
  refine spec_bind (spec_each fun i _ => node i) fun _ =>
    spec_bind (overflow_delColumns hf hE x) fun _ => ?_
  exact spec_overflow hf (by decide) _

end Column

omit hp in
lemma overflow_stmtReset {q : OraBindNode → Prop} (hq : ∀ S : Stmt, S.NodeAt i q → ¬S.Inert lost)
    (hr : Spec (Awaits false lost set s (NodeAt i q))
      (NodeAct.reset x : NodeAct h s i false Unit) fun _ t => t.overflow = true) :
    Spec (Owed false lost set s (NodeAt i q)) (stmtReset x s : Drv h .calm Unit)
      fun _ t => t.overflow = true := by
  have node : Spec (Owed false lost set s (NodeAt i q)) (Drv.resetNode x s i : Drv h .calm Unit)
      fun _ t => t.overflow = true := by
    rintro w (hw | hw)
    · exact spec_overflow hf (by decide) _ w hw
    · exact hr w hw
  have start : Spec (Awaits false lost set s (NodeAt i q)) (stmtReset x s : Drv h .calm Unit)
      fun _ t => t.overflow = true := by
    refine spec_bind (Q := fun _ => Awaits false lost set s (NodeAt i q)) (fun w hw => ?_) fun _ => ?_
    · exact hw.touch.setStmt s (fun _ hn => hn) fun _ hn => hn
    refine reads_stmt (fun _ hw => hw.touch) fun S w hw => ?_
    obtain ⟨n, hn, -⟩ := hw.1.owed
    rw [hw.2] at hn
    refine spec_bind (spec_each_mem (fun j => ?_) node (fun j => spec_overflow hf (by decide) _) ?_)
      (fun _ => spec_overflow hf (by decide) _) w (.inr hw.1)
    · by_cases hj : j = i
      · rw [hj]
        exact spec_weaken node (fun _ hw => hw) fun _ _ hw => .inl hw
      · exact owed_nodeAct hf hE hq (fun _ f S => nodeAt_setNode hj f S) (NodeAct.reset x)
    · exact List.mem_range.2 (List.getElem?_eq_some_iff.1 hn).1
  rintro w (hw | hw)
  · exact spec_overflow hf (by decide) _ w hw
  · exact start w hw

end Handled

end Statement

end OracleDriver
