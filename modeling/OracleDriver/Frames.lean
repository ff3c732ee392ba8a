import OracleDriver.Recovery

/-! What stays the same, or only gets smaller, until a call opens a statement, a load or a call of
its own. -/

namespace OracleDriver

open Act

structure Frame (w t : World) : Prop where
  setting : t.setting = w.setting
  oracle : t.oracle = w.oracle
  callDepth : t.conn.callDepth = w.conn.callDepth
  stmtSet : t.conn.stmtSet ⊆ w.conn.stmtSet
  dsStmts : t.dsStmts ⊆ w.dsStmts
  bulkLoad : w.conn.bulkLoad = none → t.conn.bulkLoad = none
  overflow : w.overflow = true → t.overflow = true
  alive : t.alive = true → w.alive = true

variable {h : Handler} {w t u : World}

namespace Frame

lemma refl (w : World) : Frame w w := ⟨rfl, rfl, rfl, List.Subset.refl _, List.Subset.refl _, id, id, id⟩

lemma trans (hw : Frame w t) (ht : Frame t u) : Frame w u where
  setting := ht.setting.trans hw.setting
  oracle := ht.oracle.trans hw.oracle
  callDepth := ht.callDepth.trans hw.callDepth
  stmtSet := List.Subset.trans ht.stmtSet hw.stmtSet
  dsStmts := List.Subset.trans ht.dsStmts hw.dsStmts
  bulkLoad := ht.bulkLoad ∘ hw.bulkLoad
  overflow := ht.overflow ∘ hw.overflow
  alive := hw.alive ∘ ht.alive

-- the connection and the flags are the same
lemma same (hs : t.setting = w.setting) (ho : t.oracle = w.oracle) (hc : t.conn = w.conn)
    (hd : t.dsStmts = w.dsStmts)
    (hv : t.overflow = w.overflow) (ha : t.alive = w.alive) : Frame w t :=
  ⟨hs, ho, by rw [hc], by rw [hc]; exact List.Subset.refl _, by rw [hd]; exact List.Subset.refl _,
    by rw [hc]; exact id, by rw [hv]; exact id, by rw [ha]; exact id⟩

lemma run {α : Type} {R : World → World → Prop} (h : ∀ w t, R w t → Frame w t) (m : Act R α)
    (w : World) :
    Frame w (m.run w).2 := Act.preorder refl (fun _ _ _ => trans) h m w

lemma conn {f : Conn → Conn} (w : World) (hd : (f w.conn).callDepth = w.conn.callDepth)
    (hs : (f w.conn).stmtSet ⊆ w.conn.stmtSet)
    (hb : w.conn.bulkLoad = none → (f w.conn).bulkLoad = none) :
    Frame w (w.setConn f) := ⟨rfl, rfl, hd, hs, List.Subset.refl _, hb, id, id⟩

end Frame

namespace World

lemma frame_touch (w : World) : Frame w w.touch := by
  unfold touch
  split
  · exact .refl w
  · exact .same rfl rfl rfl rfl rfl rfl

lemma frame_raise (x : Sink) (e : Exn) (w : World) : Frame w (w.raise x e) := by
  cases x <;> exact .same rfl rfl rfl rfl rfl rfl

lemma frame_ask (c : Call) (w : World) : Frame w (w.ask c).2 := .same rfl rfl rfl rfl rfl rfl

lemma frame_emit (e : Event) (w : World) : Frame w (w.emit e) := .same rfl rfl rfl rfl rfl rfl

lemma frame_checkerr (hh : ∀ x who w, Frame w (h x who w)) (x : Sink) (a : Answer) (who : String)
    (w : World) :
    Frame w (w.checkerr h x a who).2 := by
  unfold checkerr
  split
  · exact .refl w
  · exact .refl w
  · exact w.frame_touch.trans (hh x who _)
  all_goals exact frame_raise _ _ _

lemma frame_setStmt (s : ℕ) (f : Stmt → Stmt) (w : World) : Frame w (w.setStmt s f) :=
  .same rfl rfl rfl rfl rfl rfl

lemma frame_freeTemporary (l : Locator) (w : World) : Frame w (w.freeTemporary l).2 :=
  ((frame_emit _ _).trans (frame_touch _)).trans (frame_ask _ _)

lemma frame_createTemporary (w : World) : Frame w w.createTemporary.2 := by
  unfold createTemporary
  dsimp only
  split <;> exact w.frame_touch.trans (frame_ask _ _)

end World

lemma Plain.frame (hh : ∀ x who w, Frame w (h x who w)) (hp : Plain h w t) : Frame w t := by
  cases hp with
  | touch => exact w.frame_touch
  | ask c => exact w.frame_ask c
  | raise x e => exact w.frame_raise x e
  | check x a who => exact w.frame_checkerr hh x a who
  | exhaust => exact ⟨rfl, rfl, rfl, List.Subset.refl _, List.Subset.refl _, id, fun _ => rfl, id⟩

lemma NodeMove.frame {s i : ℕ} {b : Bool} (hh : ∀ x who w, Frame w (h x who w))
    (hm : NodeMove h s i b w t) :
    Frame w t := by
  cases hm with
  | plain hp => exact hp.frame hh
  | tidy => exact w.frame_setStmt _ _
  | strlobFree =>
    unfold World.strlobFree
    split
    · split
      · exact w.frame_touch
      · exact w.frame_freeTemporary _
    · exact .refl w
  | arraybindFree =>
    unfold World.arraybindFree
    split
    · split
      · exact w.frame_touch
      · exact w.frame_freeTemporary _
    · exact .refl w
  | arm => exact w.frame_setStmt _ _
  | describe =>
    unfold World.describe
    dsimp only
    split
    · exact (w.frame_setStmt _ _).trans (World.frame_emit _ _)
    · exact w.frame_setStmt _ _
  | strlobCreate =>
    unfold World.strlobCreate
    dsimp only
    split
    · exact w.frame_createTemporary.trans (World.frame_setStmt _ _ _)
    · exact w.frame_createTemporary
  | arraybindCreate =>
    unfold World.arraybindCreate
    dsimp only
    split
    · exact w.frame_createTemporary.trans (World.frame_setStmt _ _ _)
    · exact w.frame_createTemporary

lemma NodeAct.frame {α : Type} {s i : ℕ} {b : Bool} (hh : ∀ x who w, Frame w (h x who w))
    (m : NodeAct h s i b α)
    (w : World) : Frame w (m.run w).2 := .run (fun _ _ => NodeMove.frame hh) m w

lemma Move.frame {k : Kind} (hk : k ≠ .drive) (hh : ∀ x who w, Frame w (h x who w)) (hm : Move h k w t) :
    Frame w t := by
  cases hm with
  | plain hp => exact hp.frame hh
  | clearNode => exact NodeAct.frame hh _ w
  | resetNode => exact NodeAct.frame hh _ w
  | valueNode => exact NodeAct.frame hh _ w
  | setNode => exact NodeAct.frame hh _ w
  | bindNode => exact NodeAct.frame hh _ w
  | stmt => exact w.frame_setStmt _ _
  | dropNodes => exact w.frame_setStmt _ _
  | parsed => exact w.frame_setStmt _ _
  | columns => exact w.frame_setStmt _ _
  | conn f _ hf => exact .conn w (hf _).callDepth (hf _).stmtSet fun hb => (hf _).bulkLoad.trans hb
  | assimilate => exact .same rfl rfl rfl rfl rfl rfl
  | freshSink => exact .same rfl rfl rfl rfl rfl rfl
  | forget l _ hl => exact ⟨rfl, rfl, rfl, List.Subset.refl _, hl, id, id, id⟩
  | session e => exact w.frame_emit e
  | load e => exact w.frame_emit e
  | rebound => exact w.frame_emit _
  | setLost => exact .conn w rfl (List.Subset.refl _) id
  | setInLogon => exact .conn w rfl (List.Subset.refl _) id
  | sessionEnded => exact .same rfl rfl rfl rfl rfl rfl
  | sessionBegun => exact .same rfl rfl rfl rfl rfl rfl
  | close => exact ⟨rfl, rfl, rfl, List.Subset.refl _, List.Subset.refl _, id, id, nofun⟩
  | setAbortPending => exact .conn w rfl (List.Subset.refl _) id
  | setBulk f => exact .conn w rfl (List.Subset.refl _) fun hb => by rw [hb]; rfl
  | endLoad => exact .conn w rfl (List.Subset.refl _) fun _ => rfl
  | finish => exact .same rfl rfl rfl rfl rfl rfl
  | _ => exact absurd rfl hk

lemma Drv.frame {α : Type} {l : Level} (hl : .drive ∉ l.kinds)
    (hh : ∀ x who w, Frame w (h x who w)) (m : Drv h l α)
    (w : World) : Frame w (m.run w).2 := by
  refine .run ?_ m w
  rintro w t ⟨k, hk, hm⟩
  refine hm.frame ?_ hh
  rintro rfl
  exact hl (of_decide_eq_true hk)

lemma handler_frame (n : ℕ) : ∀ x who w, Frame w (handler n x who w) := by
  induction n with
  | zero =>
    intro x who w
    exact (w.frame_raise x _).trans ⟨rfl, rfl, rfl, List.Subset.refl _, List.Subset.refl _, id,
      fun _ => rfl, id⟩
  | succ n ih =>
    intro x who w
    rw [handler_succ]
    exact Drv.frame (by decide) ih _ w

end OracleDriver
