import OracleDriver.NodeRebind

/-! The binding of the statements to a session that has been made again, when no argument needs a
temporary LOB or a raw buffer. -/

namespace OracleDriver

open Act

variable {h : Handler} {c : Setting} {L : List ℕ} {v : ℕ → ℕ → Bool} {s i : ℕ} {w t : World}
  {l : Level} {α : Type}

namespace Loose

lemma touch (hw : Loose c L v w) : Loose c L v w.touch where
  still := hw.still.touch
  lobless := hw.lobless.touch
  setting := w.frame_touch.setting.trans hw.setting

lemma raise (hw : Loose c L v w) (x : Sink) (e : Exn) : Loose c L v (w.raise x e) where
  still := hw.still.raise x e
  lobless := hw.lobless.raise x e
  setting := (w.frame_raise x e).setting.trans hw.setting

lemma ask (hw : Loose c L v w) (k : Call) : Loose c L v (w.ask k).2 :=
  ⟨hw.still.ask k, hw.lobless.same rfl, hw.setting⟩

lemma emit (hw : Loose c L v w) (e : Event) : Loose c L v (w.emit e) :=
  ⟨hw.still.emit e, hw.lobless.same rfl, hw.setting⟩

lemma calm (hw : Loose c L v w) (s : ℕ) {f : Stmt → Stmt} (hf : ∀ S, Stmt.Calm S (f S)) :
    Loose c L v (w.setStmt s f) where
  still := hw.still.calm s hf
  lobless := hw.lobless.setStmt s fun S _ _ hn => (hf S).nodes ▸ hn
  setting := hw.setting

lemma setNode (hw : Loose c L v w) (hs : s ∈ L) {f : OraBindNode → OraBindNode}
    (hf : ∀ n, OraBindNode.Quiet (v s i) n (f n)) : Loose c L v (w.setNode s i f) where
  still := by
    have hset : Still false false (some (s, i)) L (w.setNode s i f) :=
      (hw.still.release s i).setNode s i (fun _ => rfl) f
    refine hset.close fun n hn => ?_
    rw [World.node_setNode, if_pos rfl] at hn
    obtain ⟨m, hm, rfl⟩ := Option.map_eq_some_iff.1 hn
    have hval : (f m).isValue = m.isValue := (Prod.mk.inj (hf m).argument).1
    constructor
    · intro hv _ hlobs
      have hsub := (hf m).lobs
      rw [hw.lobless.lobs s hs i m hm (hval ▸ hv)] at hsub
      exact absurd (List.subset_nil.1 hsub) hlobs
    · intro hv hraw
      rw [hval] at hv
      rcases (hf m).raw ((hw.lobless.value s hs i m hm).symm.trans hv) hraw with harr | ⟨hraw, harr⟩
      · exact harr
      · exact harr ((hw.still.nodes s hs i m hm nofun).raw hv hraw)
  lobless := hw.lobless.setNode fun _ n => ⟨(Prod.mk.inj (hf n).argument).1, (hf n).lobs⟩
  setting := hw.setting

lemma far (hw : Loose c L v w) (hs : s ∉ L) (f : OraBindNode → OraBindNode) :
    Loose c L v (w.setNode s i f) where
  still := hw.still.setNode s i (fun h => absurd h hs) f
  lobless := hw.lobless.setNode fun h => absurd h hs
  setting := hw.setting

end Loose

-- what binding the nodes of one of the statements keeps
def Binding (c : Setting) (L : List ℕ) (v : ℕ → ℕ → Bool) (s : ℕ) (w : World) : Prop :=
  Loose c L v w ∧ (Pending w ∨ ArgsBare c L w ∧ (w.stmt s).Ready c)

lemma Binding.same (hw : Binding c L v s w) (ht : Loose c L v t) (hs : ∀ s, t.stmt s = w.stmt s)
    (hx : Pending w → Pending t) : Binding c L v s t := by
  refine ⟨ht, hw.2.imp hx fun hb => ⟨fun s hL => ?_, ?_⟩⟩
  · rw [hs]
    exact hb.1 s hL
  · rw [hs]
    exact hb.2

lemma arming (hh : ∀ x who w, Loose c L v w → Loose c L v (h x who w))
    (hp : ∀ who w, Pending (h .main who w)) (hs : s ∈ L) :
    Arming h s i False (v s i) (Binding c L v s) where
  touch {w} hw := hw.same hw.1.touch w.touch_stmt fun hp => hp.same w.touch_xsink
  ask k hw := hw.same (hw.1.ask k) (fun _ => rfl) id
  raise {w} x e hw := by
    refine hw.same (hw.1.raise x e) (fun s => by cases x <;> rfl) fun hp => ?_
    cases x with
    | main => exact pending_raise w e
    | own | dropped => exact hp
  handle who hw := ⟨hh .main who _ hw.1, .inl (hp who _)⟩
  emit o hw := hw.same (hw.1.emit _) (fun _ => rfl) id
  setNode {w} f hf hw := by
    refine ⟨hw.1.setNode hs hf, hw.2.imp (fun hp => hp.same rfl) fun hb => ⟨?_, ?_⟩⟩
    · exact hb.1.setNode s i fun n => (hf n).argument
    · intro hS
      rw [World.arraySize_setNode] at hS
      have hready := hb.2 hS
      rw [World.setNode, World.stmt_setStmt]
      split
      · rw [← hready]
        exact Stmt.any_modify (fun n => OraBindNode.bindsChecked_congr (hf n).argument) _ i
      · exact hready
  far hfar := hfar.elim

-- the recovery goes on with `P` until a call fails, and after that with `E`
structure Falls (h : Handler) (E P : World → Prop) : Prop where
  touch : ∀ {w}, P w → P w.touch
  ask : ∀ {w} k, P w → P (w.ask k).2
  calm : ∀ {w} s f, (∀ S, Stmt.Calm S (f S)) → P w → P (w.setStmt s f)
  fall : ∀ {w}, P w → E w
  raise : ∀ {w} e, P w → E (w.raise .main e)
  handle : ∀ {w} who, P w → E (h .main who w)

section Falls

variable {E P : World → Prop} (hP : Falls h E P)
include hP

lemma falls_stmt : Spec P (Drv.stmt s : Drv h l Stmt) fun _ => P := fun _ hw => hP.touch hw

lemma falls_setStmt (f : Stmt → Stmt) (hf : ∀ S, Stmt.Calm S (f S)) :
    Spec P (Drv.setStmt s f hf : Drv h l Unit) fun _ => P := fun _ hw => hP.calm s f hf (hP.touch hw)

lemma falls_raise (e : Exn) : Keeps E P (do raise .main e; return true : Drv h l Bool) :=
  keeps_fail fun _ hw => hP.raise e hw

lemma falls_check (a : Answer) (who : String) : Keeps E P (check .main a who : Drv h l Bool) := by
  intro w hw
  show ((w.checkerr h .main a who).1 = true → E (w.checkerr h .main a who).2) ∧
    ((w.checkerr h .main a who).1 = false → P (w.checkerr h .main a who).2)
  unfold World.checkerr
  split
  · exact ⟨nofun, fun _ => hw⟩
  · exact ⟨nofun, fun _ => hw⟩
  · exact ⟨fun _ => hP.handle who (hP.touch hw), nofun⟩
  all_goals exact ⟨fun _ => hP.raise _ hw, nofun⟩

lemma falls_checked (k : Call) (who : String) : Keeps E P (checked .main k who : Drv h l Bool) :=
  keeps_seq (fun _ hw => hP.ask k (hP.touch hw)) fun a => falls_check hP a who

lemma falls_prepareHandle : Keeps E P (prepareHandle .main s : Drv h l Bool) := by
  unfold prepareHandle
  refine keeps_then (falls_checked hP _ _) (keeps_seq (fun _ hw => hP.ask _ (hP.touch hw)) fun a => ?_)
  refine keeps_then (falls_check hP a _) (keeps_ite (fun _ => ?_) fun _ => keeps_pure)
  exact keeps_seq (falls_setStmt hP _ _) fun _ => keeps_pure

lemma falls_scanArray : Keeps E P (scanArray .main s i : Drv h l Bool) := by
  unfold scanArray
  refine keeps_seq (falls_stmt hP) fun S => ?_
  split
  · exact keeps_pure
  · refine keeps_ite (fun _ => keeps_pure) fun _ => ?_
    split
    · refine keeps_ite (fun _ => falls_raise hP _) fun _ => keeps_seq (falls_stmt hP) fun S => ?_
      refine keeps_ite (fun _ => keeps_ite (fun _ => falls_raise hP _) fun _ => keeps_pure) fun _ => ?_
      exact keeps_seq (falls_setStmt hP _ _) fun _ => keeps_pure
    · exact keeps_pure

-- prepare() for a statement whose text has been taken out
lemma falls_rebind (hbind : Keeps E P (bindOracle .main s : Drv h .binding Bool)) :
    Keeps E P (rebindAbortedConnection .main s : Drv h .binding Bool) := by
  have allocate : Keeps E P (allocate .main s : Drv h .binding Bool) :=
    keeps_then (falls_checked hP _ _) (keeps_seq (falls_setStmt hP _ _) fun _ => keeps_pure)
  refine keeps_seq (fun _ hw => hw) fun c => keeps_seq (falls_stmt hP) fun S =>
    keeps_seq (falls_setStmt hP _ _) fun _ => ?_
  unfold prepare
  refine keeps_seq (fun _ hw => hw) fun c => ?_
  split
  · exact falls_raise hP _
  · refine keeps_seq (falls_setStmt hP _ _) fun _ => keeps_then allocate ?_
    refine keeps_then (falls_prepareHandle hP) (keeps_seq (falls_stmt hP) fun S => ?_)
    exact keeps_ite (fun _ => hbind) fun _ => keeps_pure

end Falls

section Oracle

variable (hh : ∀ x who w, Loose c L v w → Loose c L v (h x who w))
include hh

-- a statement that the recovery does not reach
lemma arming_far (hs : s ∉ L) : Arming h s i True true (Loose c L v) where
  touch hw := hw.touch
  ask k hw := hw.ask k
  raise x e hw := hw.raise x e
  handle who hw := hh .main who _ hw
  emit _ hw := hw.emit _
  setNode f _ hw := hw.far hs f
  far _ _ f hw := hw.far hs f

lemma falls_loose : Falls h (Loose c L v) (Loose c L v) where
  touch hw := hw.touch
  ask k hw := hw.ask k
  calm s _ hf hw := hw.calm s hf
  fall hw := hw
  raise e hw := hw.raise .main e
  handle who hw := hh .main who _ hw

lemma falls_firm : Falls h (Loose c L v) fun w => Loose c L v w ∧ ArgsBare c L w where
  touch hw := ⟨hw.1.touch, hw.2.touch⟩
  ask k hw := ⟨hw.1.ask k, hw.2.same rfl⟩
  calm s _ hf hw := ⟨hw.1.calm s hf, hw.2.calm s hf⟩
  fall hw := hw.1
  raise e hw := hw.1.raise .main e
  handle who hw := hh .main who _ hw.1

lemma far_bindOracle (hs : s ∉ L) :
    Keeps (Loose c L v) (Loose c L v) (bindOracle .main s : Drv h .binding Bool) := by
  have bindNode (i : ℕ) : Spec (Loose c L v) (Drv.bindNode .main (i + 1) s i : Drv h .binding Unit)
      fun _ => Loose c L v := by
    refine spec_weaken (NodeAct.armed_bind c (arming_far hh hs) (i + 1) (fun _ hw => hw.setting)
      (.inl trivial)) (fun w hw => ⟨hw, .inl trivial⟩) fun _ _ hw => hw
  have position (i : ℕ) : Keeps (Loose c L v) (Loose c L v) (bindPosition .main s i) :=
    keeps_seq (bindNode i) fun _ w hw => ⟨fun _ => hw, fun _ => hw⟩
  refine keeps_seq (falls_setStmt (falls_loose hh) _ _) fun _ =>
    keeps_seq (falls_stmt (falls_loose hh)) fun S => keeps_then ?_ ?_
  · exact keeps_tryEach fun i _ => falls_scanArray (falls_loose hh)
  · exact keeps_tryEach fun i _ => position i

end Oracle

-- the arrays of the first `j` nodes have been found
structure ArraysScanned (c : Setting) (L : List ℕ) (v : ℕ → ℕ → Bool) (s : ℕ) (m : List OraBindNode)
    (j : ℕ) (w : World) : Prop where
  loose : Loose c L v w
  bare : ArgsBare c L w
  nodes : (w.stmt s).nodeList = m
  found : ∀ k < j, ∀ n, m[k]? = some n → n.bindsArray = true → (w.stmt s).arraySize ≠ 0

namespace ArraysScanned

variable {m : List OraBindNode} {j : ℕ}

lemma touch (hw : ArraysScanned c L v s m j w) : ArraysScanned c L v s m j w.touch :=
  ⟨hw.loose.touch, hw.bare.touch, (w.touch_stmt s).symm ▸ hw.nodes, (w.touch_stmt s).symm ▸ hw.found⟩

-- a node without an array
lemma pass (hw : ArraysScanned c L v s m j w) (hm : ∀ n, m[j]? = some n → n.bindsArray = false) :
    ArraysScanned c L v s m (j + 1) w := by
  refine ⟨hw.loose, hw.bare, hw.nodes, fun k hk n hn ha => ?_⟩
  rcases Nat.lt_succ_iff_lt_or_eq.1 hk with hk | rfl
  · exact hw.found k hk n hn ha
  · exact absurd ha (ne_true_of_eq_false (hm n hn))

-- a node with one, whose size is known
lemma size (hw : ArraysScanned c L v s m j w) (hs : (w.stmt s).arraySize ≠ 0) :
    ArraysScanned c L v s m (j + 1) w :=
  ⟨hw.loose, hw.bare, hw.nodes, fun _ _ _ _ _ => hs⟩

lemma resize (hw : ArraysScanned c L v s m j w) (hs : (w.stmt s).arraySize = 0) {a : ℕ}
    (hm : ∀ n, m[j]? = some n → n.bindsArray = true → a ≠ 0) :
    ArraysScanned c L v s m (j + 1) (w.setStmt s (Stmt.setArraySize a)) where
  loose := hw.loose.calm s fun _ => .same rfl rfl
  bare := hw.bare.calm s fun _ => .same rfl rfl
  nodes := by
    rw [World.stmt_setStmt]
    split
    · exact hw.nodes
    · exact hw.nodes
  found k hk n hn ha := by
    rcases Nat.lt_succ_iff_lt_or_eq.1 hk with hk | rfl
    · exact absurd hs (hw.found k hk n hn ha)
    · rw [World.stmt_setStmt]
      split
      · exact hm n hn ha
      · rename_i hlen
        have hnew : w.stmt s = Stmt.new := by
          have hle : w.stmts.length ≤ s := Nat.le_of_not_lt fun h => hlen ⟨rfl, h⟩
          rw [World.stmt, List.getD_eq_getElem?_getD, List.getElem?_eq_none hle]
          rfl
        have hnodes := hw.nodes
        rw [hnew] at hnodes
        rw [← hnodes] at hn
        cases hn

lemma passes_scanArray :
    Passes (Loose c L v) (ArraysScanned c L v s m j) (ArraysScanned c L v s m (j + 1))
    (scanArray .main s j : Drv h .binding Bool) := by
  unfold scanArray
  refine reads_stmt (fun _ hw => hw.touch) fun S => ?_
  have nodes {w : World} (hw : ArraysScanned c L v s m j w ∧ w.stmt s = S) : m = S.nodeList :=
    hw.2 ▸ hw.1.nodes.symm
  cases hj : S.nodeList[j]? with
  | none =>
    refine spec_pure fun w hw => ⟨nofun, fun _ => hw.1.pass fun n hn => ?_⟩
    rw [nodes hw, hj] at hn
    cases hn
  | some n =>
    have skip (ha : n.bindsArray = false) : Spec (fun w => ArraysScanned c L v s m j w ∧ w.stmt s = S)
        (pure false : Drv h .binding Bool) fun b w =>
          (b = true → Loose c L v w) ∧ (b = false → ArraysScanned c L v s m (j + 1) w) := by
      refine spec_pure fun w hw => ⟨nofun, fun _ => hw.1.pass fun n' hn => ?_⟩
      rw [nodes hw, hj] at hn
      cases hn
      exact ha
    have raised (P : World → Prop) (hP : ∀ w, P w → Loose c L v w) (e : Exn) : Spec P
        (do raise .main e; return true : Drv h .binding Bool) fun b w =>
          (b = true → Loose c L v w) ∧ (b = false → ArraysScanned c L v s m (j + 1) w) :=
      fun w hw => ⟨fun _ => (hP w hw).raise .main e, nofun⟩
    refine spec_ite (fun hv => skip ?_) fun _ => ?_
    · rw [Bool.not_eq_true'] at hv
      rw [OraBindNode.bindsArray, hv, Bool.false_and]
    cases hval : n.value with
    | list l =>
      refine spec_ite (fun _ => raised _ (fun w hw => hw.1.loose) _) fun _ => ?_
      refine reads_stmt (fun w hw => ⟨hw.1.touch, (w.touch_stmt s).symm ▸ hw.2⟩) fun S' => ?_
      refine spec_ite (fun hpos => ?_) fun hpos => ?_
      · refine spec_ite (fun _ => raised _ (fun w hw => hw.1.1.loose) _) fun _ => ?_
        refine spec_pure fun w hw => ⟨nofun, fun _ => hw.1.1.size ?_⟩
        rw [hw.2]
        exact Nat.ne_of_gt hpos
      · refine spec_bind (Q := fun _ => ArraysScanned c L v s m (j + 1)) (fun w hw => ?_) fun _ =>
          spec_pure fun w hw => ⟨nofun, fun _ => hw⟩
        refine hw.1.1.touch.resize ?_ fun n' hn ha => ?_
        · rw [World.touch_stmt, hw.2]
          exact Nat.eq_zero_of_not_pos hpos
        · rw [nodes hw.1, hj] at hn
          cases hn
          rw [OraBindNode.bindsArray, hval] at ha
          simp only [Bool.and_eq_true, Bool.not_eq_true', List.isEmpty_eq_false_iff] at ha
          exact List.length_eq_zero_iff.not.2 ha.2
    | _ =>
      apply skip
      rw [OraBindNode.bindsArray, hval, Bool.and_false]

end ArraysScanned

section Oracle

variable (hh : ∀ x who w, Loose c L v w → Loose c L v (h x who w))
  (hp : ∀ who w, Pending (h .main who w))
include hh hp

lemma firm_bindPosition (hs : s ∈ L) (j : ℕ) :
    Keeps (Loose c L v) (fun w => (Loose c L v w ∧ ArgsBare c L w) ∧ (w.stmt s).Ready c)
      (bindPosition .main s j : Drv h .binding Bool) := by
  have node : Spec (fun w => Binding c L v s w ∧ (False ∨ (w.stmt s).Ready c))
      (Drv.bindNode .main (j + 1) s j : Drv h .binding Unit) fun _ => Binding c L v s :=
    NodeAct.armed_bind c (arming hh hp hs) (j + 1) (fun _ hw => hw.1.setting)
      (.inr fun w n hw hn => hw.1.lobless.value s hs j n hn)
  refine spec_bind (Q := fun _ => Binding c L v s) (fun w hw => node w ?_) fun _ w hw => ?_
  · exact ⟨⟨hw.1.1, .inr ⟨hw.1.2, hw.2⟩⟩, .inr hw.2⟩
  · refine ⟨fun _ => hw.1, fun hn => ?_⟩
    have hb := hw.2.resolve_left fun hpend => Bool.false_ne_true (hn.symm.trans hpend)
    exact ⟨⟨hw.1, hb.1⟩, hb.2⟩

lemma firm_bindOracle (hs : s ∈ L) :
    Keeps (Loose c L v) (fun w => Loose c L v w ∧ ArgsBare c L w)
      (bindOracle .main s : Drv h .binding Bool) := by
  refine keeps_seq (falls_setStmt (falls_firm hh) _ _) fun _ => ?_
  refine reads_stmt (fun _ hw => ⟨hw.1.touch, hw.2.touch⟩) fun S => ?_
  have scan : Passes (Loose c L v) (ArraysScanned c L v s S.nodeList 0)
      (ArraysScanned c L v s S.nodeList (List.range S.nodeList.length).length)
      (tryEach (scanArray .main s) (List.range S.nodeList.length) : Drv h .binding Bool) := by
    refine passes_tryEach (I := ArraysScanned c L v s S.nodeList) fun i j hj => ?_
    rw [List.getElem?_range (by simpa using (List.getElem?_eq_some_iff.1 hj).1)] at hj
    rw [← Option.some.inj hj]
    exact ArraysScanned.passes_scanArray
  have ready (w : World)
      (hw : ArraysScanned c L v s S.nodeList (List.range S.nodeList.length).length w) :
      (Loose c L v w ∧ ArgsBare c L w) ∧ (w.stmt s).Ready c := by
    refine ⟨⟨hw.loose, hw.bare⟩, fun h0 => ?_⟩
    have hb := hw.bare s hs
    rw [Stmt.bindsChecked, Bool.and_eq_false_iff] at hb
    refine hb.resolve_left fun ha => ?_
    rw [Bool.not_eq_false', hw.nodes] at ha
    obtain ⟨n, hn, ha⟩ := List.any_eq_true.1 ha
    obtain ⟨k, hk⟩ := List.getElem?_of_mem hn
    refine hw.found k ?_ n hk ha h0
    rw [List.length_range]
    exact (List.getElem?_eq_some_iff.1 hk).1
  have bind : Keeps (Loose c L v) (fun w => (Loose c L v w ∧ ArgsBare c L w) ∧ (w.stmt s).Ready c)
      (tryEach (bindPosition .main s) (List.range S.nodeList.length) : Drv h .binding Bool) :=
    keeps_tryEach fun j _ => firm_bindPosition hh hp hs j
  have start (w : World) (hw : (Loose c L v w ∧ ArgsBare c L w) ∧ w.stmt s = S) :
      ArraysScanned c L v s S.nodeList 0 w :=
    ⟨hw.1.1, hw.1.2, by rw [hw.2], fun k hk => absurd hk (Nat.not_lt_zero k)⟩
  refine spec_weaken (passes_then (passes_weaken scan ready) (passes_weaken bind fun _ hw => hw.1))
    start fun _ _ hw => hw

lemma keeps_rebind (s : ℕ) (hs : s ∈ L) :
    Keeps (Loose c L v) (fun w => Loose c L v w ∧ ArgsBare c L w)
    (rebind .main s : Drv h .retry Bool) := by
  refine spec_bind (spec_lift (falls_rebind (falls_firm hh) (firm_bindOracle hh hp hs))) fun b => ?_
  refine spec_bind (Q := fun _ w => (b = true → Loose c L v w) ∧
    (b = false → Loose c L v w ∧ ArgsBare c L w)) (fun w hw => ?_) fun _ => spec_pure fun _ hw => hw
  exact ⟨fun hb => (hw.1 hb).emit _, fun hb => ⟨(hw.2 hb).1.emit _, (hw.2 hb).2.same rfl⟩⟩

lemma loose_rebind (s : ℕ) : Spec (fun w => Loose c L v w ∧ ArgsBare c L w)
    (rebind .main s : Drv h .retry Bool) fun _ => Loose c L v := by
  by_cases hs : s ∈ L
  · refine spec_weaken (keeps_rebind hh hp s hs) (fun _ hw => hw) fun b _ hw => ?_
    cases b with
    | true => exact hw.1 rfl
    | false => exact (hw.2 rfl).1
  · have far : Spec (Loose c L v) (rebindAbortedConnection .main s : Drv h .binding Bool)
        fun _ => Loose c L v := by
      refine spec_weaken (falls_rebind (falls_loose hh) (far_bindOracle hh hs)) (fun _ hw => hw) ?_
      intro b _ hw
      cases b with
      | true => exact hw.1 rfl
      | false => exact hw.2 rfl
    refine spec_bind (spec_lift (spec_weaken far (fun _ hw => hw.1) fun _ _ hw => hw)) fun b => ?_
    exact spec_bind (Q := fun _ => Loose c L v) (fun w hw => hw.emit _) fun _ => spec_pure fun _ hw => hw

lemma loose_rebindStatements (stmt : Option ℕ) :
    Spec (fun w => Loose c L v w ∧ ArgsBare c L w) (rebindStatements .main stmt : Drv h .retry Bool)
      fun _ => Loose c L v := by
  refine reads_conn (fun _ hw => ⟨hw.1.touch, hw.2.touch⟩) fun k w hw => ?_
  have hset : k.stmtSet ⊆ L := hw.2 ▸ hw.1.1.still.stmtSet
  have all : Keeps (Loose c L v) (fun w => Loose c L v w ∧ ArgsBare c L w)
      (tryEach (rebind .main) k.stmtSet : Drv h .retry Bool) :=
    keeps_tryEach fun s hs => keeps_rebind hh hp s (hset hs)
  refine (?_ : Spec (fun w => Loose c L v w ∧ ArgsBare c L w) _ fun _ => Loose c L v) w hw.1
  refine spec_bind all fun b => spec_ite (fun hb => spec_pure fun _ hw => hw.1 hb) fun hb => ?_
  refine spec_weaken ?_ (fun w hw => (hw.2 (eq_false_of_ne_true hb) : Loose c L v w ∧ ArgsBare c L w))
    fun _ _ hw => hw
  cases stmt with
  | none => exact spec_pure fun _ hw => hw.1
  | some s =>
    refine spec_bind (Q := fun _ w => Loose c L v w ∧ ArgsBare c L w)
      (fun _ hw => ⟨hw.1.touch, hw.2.touch⟩) fun k =>
        spec_ite (fun _ => loose_rebind hh hp s) fun _ => ?_
    exact spec_pure fun _ hw => hw.1

end Oracle

section Handled

variable (n : ℕ)

-- what makes the session again, or gives it up, leaves the values without LOBs
lemma loose_of_still {m : Drv (handler n) l α} (hl : l.kinds ⊆ Level.recover.kinds)
    (hm : Spec (Still false false none L) m fun _ => Still false false none L) :
    Spec (Loose c L v) m fun _ => Loose c L v := by
  intro w hw
  refine ⟨hm w hw.still, ?_, ?_⟩
  · exact Lobless.recover (handler_lobless n) (Drv.up m hl) w hw.lobless
  · refine (Drv.frame ?_ (handler_frame n) m w).setting.trans hw.setting
    exact fun hd => absurd (hl hd) (by decide)

lemma still_recovered (s : World) (hs : Loose c L v s) :
    Still false false none L (s.setLost false) where
  nodes s' hL i n hn _ := by
    refine ⟨fun hv _ hl => absurd (hs.lobless.lobs s' hL i n hn hv) hl, ?_⟩
    exact (hs.still.nodes s' hL i n hn nofun).raw
  columns := hs.still.columns
  stmtSet := hs.still.stmtSet
  dsStmts := hs.still.dsStmts
  logon := nofun
  idle := nofun
  sound := hs.still.sound

lemma still_reconnect (who : String) (stmt : Option ℕ) (a : Answer) :
    Spec (fun w => Loose c L v w ∧ ArgsSettled c L w)
      (reconnect .main who stmt a : Drv (handler (n + 3)) .retry Bool)
      fun _ => Still false false none L := by
  have again : Spec (fun w => Loose c L v w ∧ ArgsSettled c L w)
      (logonAgain : Drv (handler (n + 3)) .session Bool)
      fun _ w => Loose c L v w ∧ ArgsSettled c L w := by
    refine fun w hw => ⟨?_, settled_logonAgain (n + 2) w hw.2⟩
    refine loose_of_still (n + 3) (by decide) ?_ w hw.1
    refine spec_bind still_logoff fun _ => spec_bind (Q := fun _ => Still false false none L) ?_
      fun _ => still_logon .own (handler_logon (n + 2))
    exact fun _ hw => hw.plain rfl rfl rfl rfl
  have giveUp : Spec (Still false false none L) (do
      doException .main who a
      Drv.move .calm rfl World.assimilate .assimilate
      Drv.up (abortConnection .main)
      return false : Drv (handler (n + 3)) .retry Bool) fun _ => Still false false none L := by
    refine spec_bind (moved_doException .main still_speaks _ _) fun _ =>
      spec_bind (Q := fun _ => Still false false none L) (fun _ hw => hw.plain rfl rfl rfl rfl)
        fun _ => spec_bind (spec_lift ?_) fun _ => carried_pure
    exact still_abortConnection .main fun _ => handler_unloaded (n + 1)
  have recover : Spec (fun w => Loose c L v w ∧ ArgsSettled c L w)
      (setLost false : Drv (handler (n + 3)) .session Unit)
      fun _ w => Loose c L v w ∧ ArgsSettled c L w := by
    intro w hw
    refine ⟨⟨still_recovered _ hw.1.touch, hw.1.touch.lobless.same rfl, hw.1.touch.setting⟩, ?_⟩
    exact hw.2.touch.same rfl rfl
  refine spec_bind (spec_lift again) fun b => spec_ite (fun _ => ?_) fun _ => ?_
  · exact spec_weaken giveUp (fun _ hw => hw.1.still) fun _ _ hw => hw
  refine spec_bind (spec_lift recover) fun _ => ?_
  refine spec_bind (Q := fun b w => (Loose c L v w ∧ ArgsSettled c L w) ∧ b = w.pending .main)
    (fun w hw => ⟨hw, rfl⟩) fun b => spec_ite (fun _ => ?_) fun hb => ?_
  · refine spec_weaken ?_ (fun w hw => (hw.1.1.still : Still false false none L w)) fun _ _ hw => hw
    exact spec_bind (spec_lower (still_connectionRecovered .main)) fun _ => carried_pure
  · refine spec_bind (Q := fun _ => Loose c L v) (fun w hw => ?_) fun _ => spec_pure fun _ hw => hw.still
    refine loose_rebindStatements (handler_loose n)
      (fun who w => handler_pending who w (n + 3)) stmt w ?_
    exact ⟨hw.1.1, hw.1.2.resolve_left fun hpend => hb (hw.2.trans hpend)⟩

-- an error of a call that can be made again
lemma still_handleError (who : String) (canRetry : Bool) (stmt : Option ℕ) :
    Spec (fun w => Loose c L v w ∧ ArgsBare c L w)
      (handleError .main who canRetry stmt : Drv (handler (n + 3)) .retry Bool)
      fun _ => Still false false none L := by
  have found : Spec (fun w => Loose c L v w ∧ ArgsBare c L w)
      (findLoss .main who canRetry stmt : Drv (handler (n + 3)) .recover (Option Answer))
      fun r w => Loose c L v w ∧ (r = none ∨ ArgsSettled c L w) := by
    refine fun w hw => ⟨?_, ?_⟩
    · exact loose_of_still (n + 3) (List.Subset.refl _) (findLoss_still n .main who canRetry stmt) w hw.1
    · exact settled_findLoss (fun who w => handler_pending who w (n + 3)) who canRetry stmt w (.inr hw.2)
  refine spec_bind (spec_lift found) fun r => ?_
  cases r with
  | none => exact spec_pure fun _ hw => hw.1.still
  | some a =>
    refine spec_ite (fun _ => ?_) fun _ => ?_
    · exact spec_weaken (still_reconnect n who stmt a)
        (fun _ hw => ⟨hw.1, hw.2.resolve_left (by simp)⟩) fun _ _ hw => hw
    · refine spec_weaken ?_ (fun w hw => (hw.1.still : Still false false none L w)) fun _ _ hw => hw
      refine spec_bind (spec_lift ?_) fun _ => carried_pure
      exact spec_bind (moved_doException .main still_speaks _ _) fun _ =>
        still_abortConnection .main fun _ => handler_unloaded (n + 1)

end Handled

end OracleDriver
