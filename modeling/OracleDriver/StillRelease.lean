import OracleDriver.DriverWalk

/-! The releases of nodes and statements that make no call whose error is handled, and the states in
which the recovery of a session has no others to make. -/

namespace OracleDriver

open Act

namespace OraBindNode

structure Inert (lost : Bool) (n : OraBindNode) : Prop where
  lob : n.isValue = true → n.dtype ≠ .unset → n.strLobs ≠ [] → lost = true
  raw : n.isValue = false → isRaw n.dtype = true → n.array = true

variable {lost : Bool} {n n' : OraBindNode}

lemma Inert.lose (hn : n.Inert lost) : n.Inert true := ⟨fun _ _ _ => rfl, hn.raw⟩

lemma Inert.unset (hd : n.dtype = .unset) : n.Inert lost where
  lob _ hn := absurd hd hn
  raw _ hr := by rw [hd] at hr; cases hr

-- a value that gives up what it holds frees no other LOB
lemma Inert.tidy (hn : n.Inert lost) (hv : n.isValue = true) (hd : n.dtype ≠ .unset)
    (ht : Tidy n n') : n'.Inert lost where
  lob _ _ hs := by
    refine hn.lob hv hd fun h => hs ?_
    have hsub := ht.str
    rw [h] at hsub
    exact List.subset_nil.1 hsub
  raw hv' := by
    rw [ht.value, hv] at hv'
    cases hv'

-- the node holds the same
structure Like (n n' : OraBindNode) : Prop where
  value : n'.isValue = n.isValue
  lobs : n'.strLobs = n.strLobs
  dtype : n'.dtype = n.dtype
  array : n'.array = n.array

lemma Like.inert (hl : Like n n') (hn : n.Inert lost) : n'.Inert lost where
  lob := by
    rw [hl.value, hl.dtype, hl.lobs]
    exact hn.lob
  raw := by
    rw [hl.value, hl.dtype, hl.array]
    exact hn.raw

lemma Like.resetTmp (n : OraBindNode) : Like n n.resetTmp := by
  unfold OraBindNode.resetTmp
  split <;> exact ⟨rfl, rfl, rfl, rfl⟩

lemma Like.deleteArraybind (n : OraBindNode) : Like n n.deleteArraybind := by
  unfold OraBindNode.deleteArraybind
  split <;> exact ⟨rfl, rfl, rfl, rfl⟩

-- what bind() reads, which no release changes
def argument (n : OraBindNode) : Bool × Option Text × QoreValue := (n.isValue, n.phType, n.value)

lemma resetTmp_argument (n : OraBindNode) : n.resetTmp.argument = n.argument := by
  unfold OraBindNode.resetTmp
  split <;> rfl

lemma deleteArraybind_argument (n : OraBindNode) : n.deleteArraybind.argument = n.argument := by
  unfold OraBindNode.deleteArraybind
  split <;> rfl

lemma releaseStrlob_argument (n : OraBindNode) : n.releaseStrlob.argument = n.argument := by
  unfold OraBindNode.releaseStrlob
  split <;> rfl

end OraBindNode

structure Stmt.Inert (lost : Bool) (S : Stmt) : Prop where
  nodes : ∀ n ∈ S.nodeList, n.Inert lost
  columns : S.holdsRaw = false

-- `L` are the statements that the recovery clears, all inert but for the node `e` that is being
-- released; the session is being made when `logon` says so, and no load runs when `idle` does
structure Still (logon idle : Bool) (e : Option (ℕ × ℕ)) (L : List ℕ) (w : World) : Prop where
  nodes : ∀ s ∈ L, ∀ i n, w.node s i = some n → some (s, i) ≠ e → n.Inert w.conn.lost
  columns : ∀ s ∈ L, (w.stmt s).holdsRaw = false
  stmtSet : w.conn.stmtSet ⊆ L
  dsStmts : w.dsStmts ⊆ L
  logon : logon = true → w.conn.inLogon = true
  idle : idle = true → w.conn.bulkLoad = none
  sound : w.overflow = false

variable {h : Handler} {b k : Bool} {e : Option (ℕ × ℕ)} {L : List ℕ} {w t : World} {α : Type}
  {l : Level} {s i : ℕ}

namespace World

lemma stmt_setStmt (w : World) (s s' : ℕ) (f : Stmt → Stmt) :
    (w.setStmt s f).stmt s' = if s = s' ∧ s < w.stmts.length then f (w.stmt s') else w.stmt s' := by
  show (w.stmts.modify s f).getD s' Stmt.new = _
  rw [List.getD_eq_getElem?_getD, List.getElem?_modify, World.stmt, List.getD_eq_getElem?_getD]
  by_cases hs : s = s'
  · subst hs
    cases hm : w.stmts[s]? with
    | none =>
      have hlen := List.getElem?_eq_none_iff.1 hm
      rw [if_neg (by omega)]
      rfl
    | some S =>
      obtain ⟨hlen, -⟩ := List.getElem?_eq_some_iff.1 hm
      simp only [if_true, hlen, and_self, Option.map_eq_map, Option.map_some, Option.getD_some]
  · simp only [hs, if_false, false_and, Option.map_eq_map, Option.map_id']

lemma node_setNode (w : World) (s i s' j : ℕ) (f : OraBindNode → OraBindNode) :
    (w.setNode s i f).node s' j = if (s, i) = (s', j) then (w.node s' j).map f else w.node s' j := by
  have hs := w.stmt_setStmt s s' (Stmt.setNode i f)
  show ((w.setStmt s (Stmt.setNode i f)).stmt s').nodeList[j]? = _
  rw [hs]
  split
  · rename_i he
    show ((w.stmt s').nodeList.modify i f)[j]? = _
    rw [List.getElem?_modify]
    by_cases hi : i = j
    · rw [if_pos (by rw [he.1, hi])]
      simp only [hi, if_true]
      rfl
    · rw [if_neg fun hp => hi (Prod.mk.inj hp).2]
      simp only [hi, if_false, Option.map_eq_map, Option.map_id']
      rfl
  · rename_i he
    split
    · rename_i hp
      obtain ⟨rfl, rfl⟩ := Prod.mk.inj hp
      have hlen : w.stmts.length ≤ s := Nat.le_of_not_lt fun hlt => he ⟨rfl, hlt⟩
      have hnew : w.stmt s = Stmt.new := by
        rw [World.stmt, List.getD_eq_getElem?_getD, List.getElem?_eq_none hlen]
        rfl
      rw [World.node, hnew]
      rfl
    · rfl

end World

namespace Still

lemma same (hw : Still b k e L w) (hs : t.stmts = w.stmts) (hl : t.conn.lost = w.conn.lost)
    (hset : t.conn.stmtSet ⊆ w.conn.stmtSet) (hd : t.dsStmts ⊆ w.dsStmts)
    (hi : t.conn.inLogon = w.conn.inLogon)
    (hb : t.conn.bulkLoad = w.conn.bulkLoad) (ho : t.overflow = w.overflow) : Still b k e L t where
  nodes s hL i n hn he := by
    rw [hl]
    refine hw.nodes s hL i n ?_ he
    rw [World.node, World.stmt, ← hs]
    exact hn
  columns s hL := by
    rw [World.stmt, hs]
    exact hw.columns s hL
  stmtSet := List.Subset.trans hset hw.stmtSet
  dsStmts := List.Subset.trans hd hw.dsStmts
  logon hb := hi.trans (hw.logon hb)
  idle hk := hb.trans (hw.idle hk)
  sound := ho.trans hw.sound

lemma plain (hw : Still b k e L w) (hs : t.stmts = w.stmts) (hc : t.conn = w.conn)
    (hd : t.dsStmts = w.dsStmts)
    (ho : t.overflow = w.overflow) : Still b k e L t :=
  hw.same hs (by rw [hc]) (by rw [hc]; exact List.Subset.refl _)
    (by rw [hd]; exact List.Subset.refl _) (by rw [hc])
    (by rw [hc]) ho

lemma touch (hw : Still b k e L w) : Still b k e L w.touch := by
  unfold World.touch
  split
  · exact hw
  · exact hw.plain rfl rfl rfl rfl

lemma raise (hw : Still b k e L w) (x : Sink) (m : Exn) : Still b k e L (w.raise x m) := by
  cases x <;> exact hw.plain rfl rfl rfl rfl

lemma ask (hw : Still b k e L w) (c : Call) : Still b k e L (w.ask c).2 := hw.plain rfl rfl rfl rfl

lemma emit (hw : Still b k e L w) (m : Event) : Still b k e L (w.emit m) := hw.plain rfl rfl rfl rfl

lemma release (hw : Still b k none L w) (s i : ℕ) : Still b k (some (s, i)) L w where
  nodes s' hL j n hn _ := hw.nodes s' hL j n hn nofun
  columns := hw.columns
  stmtSet := hw.stmtSet
  dsStmts := hw.dsStmts
  logon := hw.logon
  idle := hw.idle
  sound := hw.sound

lemma close (hw : Still b k (some (s, i)) L w)
    (hn : ∀ n, w.node s i = some n → n.Inert w.conn.lost) : Still b k none L w where
  nodes s' hL j n hm _ := by
    by_cases he : (s', j) = (s, i)
    · obtain ⟨rfl, rfl⟩ := Prod.mk.inj he
      exact hn n hm
    · exact hw.nodes s' hL j n hm fun h => he (Option.some.inj h)
  columns := hw.columns
  stmtSet := hw.stmtSet
  dsStmts := hw.dsStmts
  logon := hw.logon
  idle := hw.idle
  sound := hw.sound

lemma setStmt (hw : Still b k e L w) (s : ℕ) {f : Stmt → Stmt}
    (hn : s ∈ L → ∀ i n, (f (w.stmt s)).nodeList[i]? = some n → some (s, i) ≠ e → n.Inert w.conn.lost)
    (hc : s ∈ L → (f (w.stmt s)).holdsRaw = false) : Still b k e L (w.setStmt s f) where
  nodes s' hL i n hm he := by
    rw [World.node, World.stmt_setStmt] at hm
    split at hm
    · rename_i hp
      obtain ⟨rfl, -⟩ := hp
      exact hn hL i n hm he
    · exact hw.nodes s' hL i n hm he
  columns s' hL := by
    rw [World.stmt_setStmt]
    split
    · rename_i hp
      obtain ⟨rfl, -⟩ := hp
      exact hc hL
    · exact hw.columns s' hL
  stmtSet := hw.stmtSet
  dsStmts := hw.dsStmts
  logon := hw.logon
  idle := hw.idle
  sound := hw.sound

lemma calm (hw : Still b k e L w) (s : ℕ) {f : Stmt → Stmt} (hf : ∀ S, Stmt.Calm S (f S)) :
    Still b k e L (w.setStmt s f) := by
  refine hw.setStmt s (fun hL i n hn he => ?_) fun hL => ?_
  · rw [(hf _).nodes] at hn
    exact hw.nodes s hL i n hn he
  · apply eq_false_of_ne_true
    intro hr
    have hraw := (hf _).raw hr
    rw [hw.columns s hL] at hraw
    cases hraw

lemma dropNodes (hw : Still b k e L w) (s : ℕ) :
    Still b k e L (w.setStmt s fun S => { S with nodeList := [] }) := by
  refine hw.setStmt s (fun _ i n hn => ?_) fun hL => hw.columns s hL
  simp only [List.getElem?_nil, reduceCtorEq] at hn

-- a node that is being released, or that the recovery does not reach
lemma setNode (hw : Still b k e L w) (s i : ℕ) (he : s ∈ L → e = some (s, i))
    (f : OraBindNode → OraBindNode) :
    Still b k e L (w.setNode s i f) := by
  refine hw.setStmt s (fun hL j n hn hne => ?_) fun hL => hw.columns s hL
  change ((w.stmt s).nodeList.modify i f)[j]? = some n at hn
  rw [List.getElem?_modify] at hn
  have hij : ¬i = j := fun hij => hne (by rw [he hL, hij])
  simp only [hij, if_false, Option.map_eq_map, Option.map_id'] at hn
  exact hw.nodes s hL j n hn hne

lemma like (hw : Still b k none L w) (s i : ℕ) {f : OraBindNode → OraBindNode}
    (hf : ∀ n, OraBindNode.Like n (f n)) :
    Still b k none L (w.setNode s i f) := by
  have hset : Still b k (some (s, i)) L (w.setNode s i f) :=
    (hw.release s i).setNode s i (fun _ => rfl) f
  by_cases hL : s ∈ L
  · refine hset.close fun n hn => ?_
    rw [World.node_setNode, if_pos rfl] at hn
    obtain ⟨m, hm, rfl⟩ := Option.map_eq_some_iff.1 hn
    exact (hf m).inert (hw.nodes s hL i m hm nofun)
  · exact hw.setNode s i (fun h => absurd h hL) f

lemma freeTemporary (hw : Still b k e L w) (o : Locator) : Still b k e L (w.freeTemporary o).2 :=
  (hw.emit _).touch.ask _

end Still

lemma still_speaks : Speaks (Still b k e L) where
  touch hw := hw.touch
  ask c hw := hw.ask c
  raise x e hw := hw.raise x e
  conn _ hf hw :=
    hw.same rfl (hf _).lost (hf _).stmtSet (List.Subset.refl _) (hf _).inLogon (hf _).bulkLoad rfl

lemma still_talks (hh : ∀ x who w, Still b k e L w → Still b k e L (h x who w)) :
    Talks h (Still b k e L) where
  toSpeaks := still_speaks
  check x a who hw := by
    unfold World.checkerr
    split
    · exact hw
    · exact hw
    · exact hh x who _ hw.touch
    all_goals exact hw.raise x _

-- what the calls keep that are not checked, and what the functions keep that release what a node holds
structure Asks (P : World → Prop) : Prop where
  touch : ∀ {w}, P w → P w.touch
  ask : ∀ {w} c, P w → P (w.ask c).2
  raise : ∀ {w} x e, P w → P (w.raise x e)

structure NodeKept (s i : ℕ) (P : World → Prop) : Prop extends Asks P where
  emit : ∀ {w} l, P w → P (w.emit (.lobFreed l w.cur))
  tidy : ∀ {w} f, (∀ n, OraBindNode.Tidy n (f n)) → (∀ n, (f n).argument = n.argument) → P w →
    P (w.setNode s i f)

lemma still_asks : Asks (Still b k e L) where
  touch hw := hw.touch
  ask c hw := hw.ask c
  raise x e hw := hw.raise x e

section Asks

variable {R : World → World → Prop} [HasPlain h R] {P : World → Prop} (hP : Asks P)
include hP

lemma asks_oci (c : Call) : Spec P (oci c : Act R Answer) fun _ => P :=
  fun _ hw => hP.ask c (hP.touch hw)

lemma asks_raise (x : Sink) (m : Exn) : Spec P (raise x m : Act R Unit) fun _ => P :=
  fun _ hw => hP.raise x m hw

lemma asks_conn : Spec P (conn : Act R Conn) fun _ => P := fun _ hw => hP.touch hw

-- a check whose error is handled
lemma asks_check (x : Sink) (hh : ∀ who w, P w → P (h x who w)) (a : Answer) (who : String) :
    Spec P (check x a who : Act R Bool) fun _ => P := by
  intro w hw
  show P (w.checkerr h x a who).2
  unfold World.checkerr
  split
  · exact hw
  · exact hw
  · exact hh who _ (hP.touch hw)
  all_goals exact hP.raise x _ hw

end Asks

namespace NodeAct

variable (x : Sink) {c : Bool} {P P' : World → Prop}

lemma spec_node (hP : ∀ w, P w → P w.touch) {f : Option OraBindNode → NodeAct h s i c α}
    {S : α → World → Prop}
    (hf : ∀ r, Spec (fun w => P w ∧ w.node s i = r) (f r) S) : Spec P (node >>= f) S :=
  fun w hw => hf _ _ ⟨hP w hw, rfl⟩

lemma kept_pure {a : α} : Spec P (pure a : NodeAct h s i c α) fun _ => P := fun _ hw => hw

section Kept

variable (hk : NodeKept s i P)
include hk

lemma kept_modify (f : OraBindNode → OraBindNode) (hf : ∀ n, OraBindNode.Tidy n (f n))
    (ha : ∀ n, (f n).argument = n.argument) :
    Spec P (modify f hf : NodeAct h s i c Unit) fun _ => P := fun _ hw => hk.tidy f hf ha (hk.touch hw)

lemma kept_deleteArraybind : Spec P (deleteArraybind : NodeAct h s i c Unit) fun _ => P := by
  have free : Spec P (Act.step (fun w => ((),
      w.arraybindFree s i)) .arraybindFree : NodeAct h s i c Unit) fun _ => P := by
    intro w hw
    show P (w.arraybindFree s i)
    unfold World.arraybindFree
    split
    · split
      · exact hk.touch hw
      · exact hk.ask _ (hk.touch (hk.emit _ hw))
    · exact hw
  exact spec_bind free fun _ => kept_modify hk _ _ OraBindNode.deleteArraybind_argument

lemma kept_freeObject (n : OraBindNode) : Spec P (freeObject x n : NodeAct h s i c Unit) fun _ => P := by
  have rest : Spec P (do
      modify (·.releaseBuf (if n.subdtype = .object then .object else .collection)) fun n =>
        .releaseBuf _ n
      modify OraBindNode.nullBuf .nullBuf : NodeAct h s i c Unit) fun _ => P :=
    spec_bind (kept_modify hk _ _ fun _ => rfl) fun _ => kept_modify hk _ _ fun _ => rfl
  refine spec_ite (fun _ => kept_pure) fun _ => spec_bind (asks_oci hk.toAsks _) fun a =>
    spec_ite (fun _ => ?_) fun _ => rest
  exact spec_bind (asks_raise hk.toAsks x _) fun _ => rest

-- the release of a raw buffer is the only call of a placeholder that is checked
lemma kept_del (hp : ∀ w, P' w → P w) (ht : ∀ w, P' w → P' w.touch)
    (hr : ∀ n w, P' w → w.node s i = some n → OraBindNode.isRaw n.dtype = true → n.array = false →
      Spec P (rawFree x : NodeAct h s i c Bool) fun _ => P) :
    Spec P' (del x : NodeAct h s i c Unit) fun _ => P := by
  refine spec_node ht fun r => ?_
  cases r with
  | none => exact spec_pure fun w hw => hp w hw.1
  | some n =>
    intro w hw
    refine (?_ : Spec P _ fun _ => P) w (hp w hw.1)
    refine spec_ite (fun _ => ?_) fun ha => ?_
    · exact spec_bind (kept_deleteArraybind hk) fun _ =>
        spec_bind (kept_modify hk _ _ fun _ => rfl) fun _ => kept_pure
    have raw (hd : OraBindNode.isRaw n.dtype = true) : Spec P (do
        if ← rawFree x then
          return
        modify (·.releaseBuf .raw) fun n => .releaseBuf _ n : NodeAct h s i c Unit) fun _ => P := by
      refine spec_bind (hr n w hw.1 hw.2 hd (eq_false_of_ne_true ha)) fun _ =>
        spec_ite (fun _ => kept_pure) fun _ => ?_
      exact kept_modify hk _ _ fun _ => rfl
    cases hd : n.dtype with
    | unset | int | flt | dat => exact kept_pure
    | bin | lbi | lvb => exact raw (by rw [hd]; rfl)
    | nty => exact kept_freeObject x hk n
    | _ => exact kept_modify hk _ _ fun _ => rfl

-- the release of a temporary LOB is the only call of a value that is checked
lemma kept_resetValue (hf : Spec P (freeStrlob x : NodeAct h s i c Unit) fun _ => P) :
    Spec P (resetValue x : NodeAct h s i c Unit) fun _ => P := by
  refine spec_node (fun _ hw => hk.touch hw) fun r => ?_
  cases r with
  | none => exact spec_pure fun _ hw => hw.1
  | some n =>
    refine spec_weaken (?_ : Spec P _ fun _ => P) (fun _ hw => hw.1) fun _ _ hw => hw
    refine spec_ite (fun _ => kept_pure) fun _ =>
      spec_bind (kept_modify hk _ _ OraBindNode.resetTmp_argument) fun _ =>
      spec_ite (fun _ => ?_) fun _ => ?_
    · exact spec_bind (kept_deleteArraybind hk) fun _ =>
        spec_bind (kept_modify hk _ _ fun _ => rfl) fun _ => kept_pure
    have unset : Spec P (modify OraBindNode.unsetDtype .unsetDtype : NodeAct h s i c Unit) fun _ =>
        P := kept_modify hk _ _ fun _ => rfl
    have release : Spec P (do
        modify OraBindNode.releaseStrlob .releaseStrlob
        modify OraBindNode.unsetDtype .unsetDtype : NodeAct h s i c Unit) fun _ => P :=
      spec_bind (kept_modify hk _ _ OraBindNode.releaseStrlob_argument) fun _ => unset
    refine spec_ite (fun _ => ?_) fun _ => spec_ite (fun _ => ?_) fun _ =>
      spec_ite (fun _ => ?_) fun _ => unset
    · exact spec_ite (fun _ => spec_bind hf fun _ => release) fun _ => release
    · exact spec_bind (kept_freeObject x hk n) fun _ => unset
    · exact spec_bind (kept_modify hk _ _ fun _ => rfl) fun _ =>
        spec_bind (kept_modify hk _ _ fun _ => rfl) fun _ => unset

end Kept


section Clear

-- a statement that the recovery does not reach
lemma kept_far (hs : s ∉ L) : NodeKept s i (Still b k none L) where
  toAsks := still_asks
  emit _ hw := hw.emit _
  tidy f _ _ hw := hw.setNode s i (fun h => absurd h hs) f

lemma kept_clear (hk : NodeKept s i P) (hr : Spec P (rawFree x : NodeAct h s i c Bool) fun _ => P)
    (hf : Spec P (freeStrlob x : NodeAct h s i c Unit) fun _ => P) :
    Spec P (clear x : NodeAct h s i c Unit) fun _ => P := by
  refine spec_node (fun _ hw => hk.touch hw) fun r => ?_
  refine spec_weaken (?_ : Spec P _ fun _ => P) (fun _ hw => hw.1) fun _ _ hw => hw
  cases r with
  | none => exact kept_pure
  | some n =>
    refine spec_ite (fun _ => kept_resetValue x hk hf) fun _ =>
      spec_node (fun _ hw => hk.touch hw) fun r => ?_
    refine spec_weaken (?_ : Spec P _ fun _ => P) (fun _ hw => hw.1) fun _ _ hw => hw
    cases r with
    | none => exact kept_pure
    | some n =>
      refine spec_ite (fun _ => kept_pure) fun _ => ?_
      refine spec_bind (kept_del x hk (fun _ hw => hw) (fun _ hw => hk.touch hw) fun _ _ _ _ _ _ =>
        hr) fun _ => ?_
      exact spec_bind (kept_modify hk _ _ fun _ => rfl) fun _ => kept_modify hk _ _ fun _ => rfl

-- a release that can make calls whose error is handled
lemma kept_clear_handled (hh : ∀ who w, P w → P (h x who w)) (hk : NodeKept s i P) :
    Spec P (clear x : NodeAct h s i c Unit) fun _ => P := by
  refine kept_clear x hk (spec_bind (asks_oci hk.toAsks _) fun a => asks_check hk.toAsks x hh a _) ?_
  have free : Spec P (Act.step (World.strlobFree s i) .strlobFree : NodeAct h s i c
      (Option Answer)) fun _ => P := by
    intro w hw
    show P (w.strlobFree s i).2
    unfold World.strlobFree
    split
    · split
      · exact hk.touch hw
      · exact hk.ask _ (hk.touch (hk.emit _ hw))
    · exact hw
  refine spec_bind free fun r => ?_
  cases r with
  | none => exact kept_modify hk _ _ fun _ => rfl
  | some a => exact spec_bind (asks_check hk.toAsks x hh a _) fun _ => kept_modify hk _ _ fun _ => rfl

end Clear

end NodeAct

-- the value `n` is being released
structure Tidied (b k : Bool) (L : List ℕ) (s i : ℕ) (n : OraBindNode) (lost : Bool) (w : World) :
    Prop where
  still : Still b k (some (s, i)) L w
  lost : w.conn.lost = lost
  node : ∀ n', w.node s i = some n' → OraBindNode.Tidy n n'

namespace World

lemma touch_node (w : World) (s i : ℕ) : w.touch.node s i = w.node s i := by
  unfold World.touch
  split <;> rfl

lemma raise_conn (w : World) (x : Sink) (e : Exn) : (w.raise x e).conn = w.conn := by cases x <;> rfl

lemma raise_node (w : World) (x : Sink) (e : Exn) (s i : ℕ) :
    (w.raise x e).node s i = w.node s i := by cases x <;> rfl

end World

namespace Tidied

variable {n : OraBindNode} {lost : Bool}

lemma nodeKept : NodeKept s i (Tidied b k L s i n lost) where
  touch hw := by
    refine ⟨hw.still.touch, ?_, fun n' hn => hw.node n' ?_⟩
    · rw [World.touch_conn]
      exact hw.lost
    · rwa [World.touch_node] at hn
  ask c hw := ⟨hw.still.ask c, hw.lost, hw.node⟩
  raise x e hw := by
    refine ⟨hw.still.raise x e, ?_, fun n' hn => hw.node n' ?_⟩
    · rw [World.raise_conn]
      exact hw.lost
    · rwa [World.raise_node] at hn
  emit _ hw := ⟨hw.still.emit _, hw.lost, hw.node⟩
  tidy f hf _ hw := by
    refine ⟨hw.still.setNode s i (fun _ => rfl) f, hw.lost, fun n' hn => ?_⟩
    rw [World.node_setNode, if_pos rfl] at hn
    obtain ⟨m, hm, rfl⟩ := Option.map_eq_some_iff.1 hn
    exact (hw.node m hm).trans (hf m)

lemma free (x : Sink) {c : Bool} (hl : n.strLobs ≠ [] → lost = true) :
    Spec (Tidied b k L s i n lost) (NodeAct.freeStrlob x : NodeAct h s i c Unit)
      fun _ => Tidied b k L s i n lost := by
  have step : Spec (Tidied b k L s i n lost)
      (Act.step (World.strlobFree s i) .strlobFree : NodeAct h s i c (Option Answer))
      fun r t => r = none ∧ Tidied b k L s i n lost t := by
    intro w hw
    show (w.strlobFree s i).1 = none ∧ Tidied b k L s i n lost (w.strlobFree s i).2
    unfold World.strlobFree
    split
    · rename_i o os ho
      have hne : n.strLobs ≠ [] := by
        intro hnil
        cases hn : w.node s i with
        | none => rw [hn] at ho; cases ho
        | some n' =>
          rw [hn] at ho
          have hsub := (hw.node n' hn).str
          rw [hnil, List.subset_nil] at hsub
          change n'.strLobs = _ at ho
          rw [hsub] at ho
          cases ho
      rw [if_pos (hw.lost.trans (hl hne))]
      exact ⟨rfl, nodeKept.touch hw⟩
    · exact ⟨rfl, hw⟩
  exact spec_bind_eq step (NodeAct.kept_modify nodeKept _ _ fun _ => rfl)

end Tidied

namespace NodeAct

variable (x : Sink) {c v : Bool} {n : OraBindNode}

-- the node is a value when `v` says so
structure Held (b k : Bool) (L : List ℕ) (s i : ℕ) (v : Bool) (w : World) : Prop where
  still : Still b k none L w
  value : ∀ n, w.node s i = some n → n.isValue = v

lemma Held.touch (hw : Held b k L s i v w) : Held b k L s i v w.touch := by
  refine ⟨hw.still.touch, fun n hn => hw.value n ?_⟩
  rwa [World.touch_node] at hn

lemma held_like (f : OraBindNode → OraBindNode) (hf : ∀ n, OraBindNode.Tidy n (f n))
    (hl : ∀ n, OraBindNode.Like n (f n)) :
    Spec (Held b k L s i v) (modify f hf : NodeAct h s i c Unit) fun _ => Held b k L s i v := by
  intro w hw
  refine ⟨hw.touch.still.like s i hl, fun n hn => ?_⟩
  change (w.touch.setNode s i f).node s i = some n at hn
  rw [World.node_setNode, if_pos rfl] at hn
  obtain ⟨m, hm, rfl⟩ := Option.map_eq_some_iff.1 hn
  rw [(hl m).value]
  exact hw.touch.value m hm

-- what is done with a value, and what with a placeholder
lemma still_byKind (f : OraBindNode → NodeAct h s i c α)
    (hf : ∀ n, Spec (Held b k L s i n.isValue) (f n) fun _ => Still b k none L) {a : α} :
    Spec (Still b k none L) (do
      match ← node with
      | none => return a
      | some n => f n : NodeAct h s i c α) fun _ => Still b k none L := by
  refine spec_node (fun _ hw => hw.touch) fun r => ?_
  cases r with
  | none => exact spec_pure fun _ hw => hw.1
  | some n =>
    refine spec_weaken (hf n) (fun w hw => ⟨hw.1, fun m hm => ?_⟩) fun _ _ hw => hw
    rw [Option.some.inj (hm.symm.trans hw.2)]

section Inert

variable (hs : s ∈ L)
include hs

lemma still_resetValue :
    Spec (Held b k L s i true) (resetValue x : NodeAct h s i c Unit) fun _ => Still b k none L := by
  intro w hw
  by_cases hd : ∀ n, w.node s i = some n → n.dtype = .unset
  · have early : Spec (fun w => Still b k none L w ∧ ∀ n, w.node s i = some n → n.dtype = .unset)
        (resetValue x : NodeAct h s i c Unit) fun _ => Still b k none L := by
      refine spec_node ?_ fun r => ?_
      · intro t ht
        refine ⟨ht.1.touch, fun n hn => ht.2 n ?_⟩
        rwa [World.touch_node] at hn
      · cases r with
        | none => exact spec_pure fun t ht => ht.1.1
        | some n =>
          exact spec_ite (fun _ => spec_pure fun t ht => ht.1.1)
            fun hne t ht => absurd (ht.1.2 n ht.2) hne
    exact early w ⟨hw.still, hd⟩
  · push Not at hd
    obtain ⟨n, hn, hd⟩ := hd
    have hin := hw.still.nodes s hs i n hn nofun
    have hval := hw.value n hn
    have hP : Tidied b k L s i n w.conn.lost w := by
      refine ⟨hw.still.release s i, rfl, fun n' hn' => ?_⟩
      obtain rfl := Option.some.inj (hn.symm.trans hn')
      exact .refl n
    have done : Spec (Tidied b k L s i n w.conn.lost) (resetValue x : NodeAct h s i c Unit) fun _ =>
        Tidied b k L s i n w.conn.lost :=
          kept_resetValue x Tidied.nodeKept (Tidied.free x (hin.lob hval hd))
    have ht := done w hP
    refine ht.still.close fun n' hn' => ?_
    rw [ht.lost]
    exact hin.tidy hval hd (ht.node n' hn')

lemma still_clearPlaceholder :
    Spec (Held b k L s i false) (clearPlaceholder x : NodeAct h s i c Unit)
      fun _ => Still b k none L := by
  have kept : NodeKept s i (Still b k (some (s, i)) L) :=
    ⟨still_asks, fun _ hw => hw.emit _, fun f _ _ hw => hw.setNode s i (fun _ => rfl) f⟩
  refine spec_node (fun _ hw => hw.touch) fun r => ?_
  refine spec_weaken (?_ : Spec (Held b k L s i false) _ fun _ => Still b k none L)
    (fun _ hw => hw.1) fun _ _ hw => hw
  cases r with
  | none => exact spec_pure fun _ hw => hw.still
  | some n =>
    refine spec_ite (fun _ => spec_pure fun _ hw => hw.still) fun _ => ?_
    have del : Spec (Held b k L s i false) (del x : NodeAct h s i c Unit) fun _ =>
        Still b k (some (s, i)) L := by
      refine kept_del x kept (fun _ hw => hw.still.release s i) (fun _ hw => hw.touch)
        fun n w hw hn hr ha => ?_
      have harr := (hw.still.nodes s hs i n hn nofun).raw (hw.value n hn) hr
      rw [ha] at harr
      cases harr
    refine spec_bind del fun _ => spec_bind (kept_modify kept _ _ fun _ => rfl) fun _ w hw => ?_
    refine (hw.touch.setNode s i (fun _ => rfl) OraBindNode.unsetDtype).close fun n hn => ?_
    rw [World.node_setNode, if_pos rfl] at hn
    obtain ⟨m, -, rfl⟩ := Option.map_eq_some_iff.1 hn
    exact .unset rfl

lemma still_clear : Spec (Still b k none L) (clear x : NodeAct h s i c Unit)
    fun _ => Still b k none L := by
  apply still_byKind
  intro n
  cases hv : n.isValue with
  | true => exact still_resetValue x hs
  | false => exact still_clearPlaceholder x hs

lemma still_reset : Spec (Still b k none L) (reset x : NodeAct h s i c Unit)
    fun _ => Still b k none L := by
  have set : Spec (Still b k none L) (modify (·.setValue .nothing) fun _ =>
      .same rfl rfl rfl rfl rfl rfl : NodeAct h s i c Unit)
      fun _ => Still b k none L := fun w hw => hw.touch.like s i fun _ => ⟨rfl, rfl, rfl, rfl⟩
  refine spec_bind set fun _ => ?_
  apply still_byKind
  intro n
  cases hv : n.isValue with
  | true => exact still_resetValue x hs
  | false =>
    refine spec_bind (held_like _ _ fun _ => ⟨rfl, rfl, rfl, rfl⟩) fun _ => ?_
    refine spec_bind (held_like _ _ fun _ => ⟨rfl, rfl, rfl, rfl⟩) fun _ => ?_
    exact spec_bind (held_like _ _ .resetTmp) fun _ => still_clearPlaceholder x hs

end Inert

end NodeAct

section Statement

variable (x : Sink)

-- a function that reads a statement
lemma reads_stmt {P : World → Prop} (hP : ∀ w, P w → P w.touch) {f : Stmt → Drv h l α}
    {Q : α → World → Prop}
    (hf : ∀ S, Spec (fun w => P w ∧ w.stmt s = S) (f S) Q) : Spec P (Drv.stmt s >>= f) Q :=
  fun w hw => hf _ _ ⟨hP w hw, rfl⟩

lemma kept_stmt {P : World → Prop} (hs : Asks P) : Spec P (Drv.stmt s : Drv h l Stmt) fun _ => P :=
  fun _ hw => hs.touch hw

lemma still_setStmt (f : Stmt → Stmt) (hf : ∀ S, Stmt.Calm S (f S)) :
    Spec (Still b k none L) (Drv.setStmt s f hf : Drv h l Unit) fun _ => Still b k none L :=
  fun _ hw => hw.touch.calm s hf

lemma still_conn (f : Conn → Conn) (hf : ∀ c, Conn.Calm c (f c)) :
    Spec (Still b k none L) (Drv.setConn f hf : Drv h l Unit) fun _ => Still b k none L :=
  moved_setConn still_speaks f hf

lemma still_dropNodes : Spec (Still b k none L)
    (Drv.move .calm l.has_calm (·.setStmt s fun S => { S with nodeList := [] })
    (.dropNodes s) : Drv h l Unit) fun _ => Still b k none L := fun _ hw => hw.dropNodes s

-- the columns of a statement are deleted, with the release of a raw buffer when the statement can
-- hold one
lemma kept_delColumns {P : World → Prop} (hs : Asks P)
    (hf : ∀ f, (∀ S, Stmt.Calm S (f S)) → ∀ w, P w → P (w.setStmt s f))
    (hr : ∀ w, P w → (w.stmt s).holdsRaw = true → Spec P (rawFree x : Drv h l Bool) fun _ => P) :
    Spec P (delColumns x s : Drv h l Unit) fun _ => P := by
  have set (f : Stmt → Stmt) (hc : ∀ S, Stmt.Calm S (f S)) : Spec P
      (Drv.setStmt s f hc : Drv h l Unit) fun _ => P :=
    fun w hw => hf f hc _ (hs.touch hw)
  have column (j : ℕ) : Spec P (delColumn x s j : Drv h l Unit) fun _ => P := by
    refine reads_stmt (fun _ hw => hs.touch hw) fun S => ?_
    intro w hw
    refine (?_ : Spec P _ fun _ => P) w hw.1
    split
    · exact carried_pure
    · rename_i c hc
      refine spec_ite (fun _ => carried_pure) fun hd => spec_ite (fun hraw => ?_) fun _ =>
        spec_ite (fun _ => ?_) fun _ => set _ _
      · refine spec_bind (hr w hw.1 ?_) fun _ => set _ _
        rw [hw.2, Stmt.holdsRaw, Option.any_eq_true]
        obtain ⟨r, hS, hj⟩ := Option.bind_eq_some_iff.1 hc
        refine ⟨r, hS, List.any_eq_true.2 ⟨c, List.mem_of_getElem? hj, ?_⟩⟩
        rw [Column.holdsRaw, hraw, Bool.and_true]
        simpa only [Bool.not_eq_true', Bool.not_eq_false] using hd
      · refine spec_bind (asks_oci hs _) fun a => spec_ite (fun _ => ?_) fun _ => set _ _
        exact spec_bind (asks_raise hs x _) fun _ => set _ _
  refine spec_bind (kept_stmt hs) fun S => ?_
  split
  · exact carried_pure
  · exact spec_bind (spec_each fun j _ => column j) fun _ => set _ _

lemma kept_stmtClear {P : World → Prop} (hs : Asks P)
    (hf : ∀ f, (∀ S, Stmt.Calm S (f S)) → ∀ w, P w → P (w.setStmt s f))
    (hn : ∀ i, Spec P (NodeAct.clear x : NodeAct h s i false Unit) fun _ => P)
    (hr : ∀ w, P w → (w.stmt s).holdsRaw = true → Spec P (rawFree x : Drv h l Bool) fun _ => P) :
    Spec P (stmtClear x s : Drv h l Unit) fun _ => P := by
  have set (f : Stmt → Stmt) (hc : ∀ S, Stmt.Calm S (f S)) : Spec P
      (Drv.setStmt s f hc : Drv h l Unit) fun _ => P :=
    fun w hw => hf f hc _ (hs.touch hw)
  have node (i : ℕ) : Spec P (Drv.clearNode x s i : Drv h l Unit) fun _ => P := hn i
  refine spec_bind (set _ _) fun _ => spec_bind (kept_stmt hs) fun S => ?_
  exact spec_bind (spec_each fun i _ => node i) fun _ =>
    spec_bind (kept_delColumns x hs hf hr) fun _ => set _ _

section Near

variable (hs : s ∈ L)
include hs

lemma still_delColumns : Spec (Still b k none L) (delColumns x s : Drv h l Unit)
    fun _ => Still b k none L := by
  refine kept_delColumns x still_asks (fun f hf w hw => hw.calm s hf) fun w hw hr => ?_
  rw [hw.columns s hs] at hr
  cases hr

lemma still_stmtClear : Spec (Still b k none L) (stmtClear x s : Drv h l Unit)
    fun _ => Still b k none L := by
  refine kept_stmtClear x still_asks (fun f hf w hw => hw.calm s hf)
    (fun i => NodeAct.still_clear x hs) fun w hw hr => ?_
  rw [hw.columns s hs] at hr
  cases hr

lemma still_stmtReset : Spec (Still b k none L) (stmtReset x s : Drv h l Unit)
    fun _ => Still b k none L := by
  have node (i : ℕ) : Spec (Still b k none L) (Drv.resetNode x s i : Drv h l Unit) fun _ =>
    Still b k none L :=
    NodeAct.still_reset x hs
  refine spec_bind (still_setStmt _ _) fun _ => spec_bind (kept_stmt still_asks) fun S => ?_
  refine spec_bind (spec_each fun i _ => node i) fun _ => spec_bind still_dropNodes fun _ => ?_
  exact spec_bind (still_delColumns x hs) fun _ => spec_bind (still_setStmt _ _) fun _ => still_conn _ _

end Near

-- a statement that the recovery does not reach makes calls whose errors are handled
lemma still_stmtClear_far (hh : ∀ x who w, Still b k none L w → Still b k none L (h x who w))
    (hs : s ∉ L) :
    Spec (Still b k none L) (stmtClear x s : Drv h l Unit) fun _ => Still b k none L :=
  kept_stmtClear x still_asks (fun _ hf _ hw => hw.calm s hf)
    (fun _ => NodeAct.kept_clear_handled x (hh x) (NodeAct.kept_far hs))
    fun _ _ _ => moved_checked x (still_talks hh) _ _

lemma reads_conn {P : World → Prop} (hP : ∀ w, P w → P w.touch) {f : Conn → Drv h l α}
    {Q : α → World → Prop}
    (hf : ∀ c, Spec (fun w => P w ∧ w.conn = c) (f c) Q) : Spec P (conn >>= f) Q :=
  fun w hw => hf _ _ ⟨hP w hw, rfl⟩

lemma still_each (f : ℕ → Drv h l Unit)
    (hf : ∀ s ∈ L, Spec (Still b k none L) (f s) fun _ => Still b k none L) {m : List ℕ}
    (hm : m ⊆ L) : Spec (Still b k none L) (Act.each f m) fun _ => Still b k none L :=
  spec_each fun s hs => hf s (hm hs)

lemma still_registered {m : Conn → Drv h l α}
    (hm : ∀ c, c.stmtSet ⊆ L → Spec (Still b k none L) (m c) fun _ => Still b k none L) :
    Spec (Still b k none L) (conn >>= m) fun _ => Still b k none L :=
  reads_conn (fun _ hw => hw.touch) fun c w hw => hm c (hw.2 ▸ hw.1.stmtSet) w hw.1

-- a statement that is not registered is cleared last
lemma still_clearStatements (stmt : Option ℕ)
    (hf : ∀ s, stmt = some s → s ∉ L → ∀ x who w, Still b k none L w → Still b k none L (h x who w)) :
    Spec (Still b k none L) (clearStatements x stmt : Drv h .calm Unit) fun _ => Still b k none L := by
  apply still_registered
  intro c hc
  refine spec_bind (still_each _ (fun s hs => still_stmtClear x hs) hc) fun _ => ?_
  cases stmt with
  | none => exact carried_pure
  | some s =>
    refine spec_bind (moved_conn still_speaks) fun c => spec_ite (fun _ => ?_) fun _ => carried_pure
    by_cases hs : s ∈ L
    · exact still_stmtClear x hs
    · exact still_stmtClear_far x (hf s rfl hs) hs

lemma still_resetStatements : Spec (Still b k none L) (resetStatements x : Drv h .calm Unit)
    fun _ => Still b k none L := by
  have first : Spec (Still b k none L) (resetFirst x : Drv h .calm Unit) fun _ => Still b k none L := by
    apply still_registered
    intro c hc
    split
    · exact carried_pure
    · rename_i s r hr
      exact spec_bind (still_stmtReset x (hc (hr ▸ List.mem_cons_self))) fun _ => still_conn _ _
  exact spec_bind (moved_conn still_speaks) fun c => spec_each fun _ _ => first

lemma still_dsStatements {order : Datasource → List ℕ → List ℕ}
    (horder : ∀ ds stmts, (order ds stmts).Perm stmts) :
    Spec (Still b k none L) (dsStatements order : Drv h .calm (List ℕ))
      fun stmts w => Still b k none L w ∧ stmts ⊆ L :=
  fun _ hw => ⟨hw, List.Subset.trans (horder _ _).subset hw.dsStmts⟩

lemma still_connectionLost : Spec (Still b k none L) (connectionLost x : Drv h .calm Unit)
    fun _ => Still b k none L :=
  spec_bind (still_dsStatements Datasource.lost_perm) fun _ w hw =>
    still_each _ (fun _ hs => still_stmtClear x hs) hw.2 w hw.1

lemma still_connectionRecovered : Spec (Still b k none L)
    (connectionRecovered x : Drv h .calm Unit) fun _ => Still b k none L := by
  have forget : Spec (Still b k none L) (Drv.move .calm rfl (·.setDsStmts []) fun w =>
      .forget [] w (List.nil_subset _) :
      Drv h .calm Unit) fun _ => Still b k none L :=
    fun w hw => hw.same rfl rfl (List.Subset.refl _) (List.nil_subset _) rfl rfl rfl
  refine spec_bind (still_dsStatements Datasource.closed_perm) fun _ w hw => ?_
  exact spec_bind (still_each _ (fun s hs => still_stmtReset x hs) hw.2) (fun _ => forget) w hw.1

end Statement

end OracleDriver
