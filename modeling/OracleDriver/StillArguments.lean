import OracleDriver.StillRecovery

/-! What the recovery leaves of the arguments of statements, and what they let bind() make. -/

namespace OracleDriver

open Act

namespace Setting

-- bind() writes the value to a temporary LOB
def writesLob (c : Setting) (v : QoreValue) : Bool :=
  match v.resolveIndirect with
  | .string t =>
    match c.encode t with
    | .ok (d, _) => decide (lobThreshold < c.byteSize d + 1)
    | .error _ => false
  | .binary b => decide (lobThreshold < b.length)
  | _ => false

end Setting

namespace OraBindNode

-- bind() makes a raw buffer for the placeholder
def bindsRaw (c : Setting) (n : OraBindNode) : Bool :=
  n.isType "binary" || n.isType "blob" && !n.value.isNullOrNothing &&
    (n.value.isBinary || !(c.stringOf n.value).text.isEmpty)

-- the release of what bind() makes for the node makes a checked call, when no array is bound
def bindsChecked (c : Setting) (n : OraBindNode) : Bool :=
  if n.isValue then c.writesLob n.value else n.bindsRaw c

def bindsArray (n : OraBindNode) : Bool :=
  n.isValue && match n.value with
    | .list l => !l.isEmpty
    | _ => false

variable {c : Setting} {n n' : OraBindNode}

lemma Sends.isBinary {w : QoreValue} (hsend : n.Sends c n.value w) (hn : n.isValue = false)
    (hnull : n.value.isNullOrNothing = false) (hraw : n.bindsRaw c = false) :
    w.resolveIndirect.isBinary = false := by
  obtain ⟨hbinary, hblob⟩ : n.isType "binary" = false ∧ (n.isType "blob" = true →
      n.value.isBinary = false ∧ (c.stringOf n.value).text.isEmpty = true) := by
    simpa [bindsRaw, hnull] using hraw
  have hkind (ht : n.isType "binary" = true ∨ n.isType "blob" = true) :
      n.value.isBinary = false ∧ (c.stringOf n.value).text.isEmpty = true := by
    apply hblob
    apply ht.resolve_left
    rw [hbinary]
    exact Bool.false_ne_true
  cases hsend with
  | value h => rw [hn] at h; cases h
  | binary ht hbin => rw [(hkind ht).1] at hbin; cases hbin
  | bytes ht hne => rw [(hkind ht).2] at hne; cases hne
  | _ => rfl

lemma bindsChecked_congr (h : n'.argument = n.argument) : n'.bindsChecked c = n.bindsChecked c := by
  obtain ⟨hv, ht, hval⟩ : n'.isValue = n.isValue ∧ n'.phType = n.phType ∧ n'.value = n.value := by
    simpa only [argument, Prod.mk.injEq] using h
  simp only [bindsChecked, bindsRaw, isType, hv, ht, hval]

lemma bindsArray_congr (h : n'.argument = n.argument) : n'.bindsArray = n.bindsArray := by
  obtain ⟨hv, ht, hval⟩ : n'.isValue = n.isValue ∧ n'.phType = n.phType ∧ n'.value = n.value := by
    simpa only [argument, Prod.mk.injEq] using h
  simp only [bindsArray, hv, hval]

end OraBindNode

namespace Stmt

def bindsChecked (c : Setting) (S : Stmt) : Bool :=
  !S.nodeList.any OraBindNode.bindsArray && S.nodeList.any (·.bindsChecked c)

-- where the size of the arrays is known
def Ready (c : Setting) (S : Stmt) : Prop :=
  S.arraySize = 0 → S.nodeList.any (·.bindsChecked c) = false

lemma any_modify {p : OraBindNode → Bool} {f : OraBindNode → OraBindNode} (hf : ∀ n, p (f n) = p n)
    (l : List OraBindNode) (i : ℕ) : (l.modify i f).any p = l.any p := by
  induction l generalizing i with
  | nil => simp
  | cons n l ih =>
    cases i with
    | zero => simp [hf]
    | succ i => simp [ih]

lemma bindsChecked_setNode {c : Setting} {f : OraBindNode → OraBindNode}
    (hf : ∀ n, (f n).argument = n.argument) (i : ℕ) (S : Stmt) :
    (S.setNode i f).bindsChecked c = S.bindsChecked c := by
  have harray := any_modify (fun n => OraBindNode.bindsArray_congr (hf n)) S.nodeList i
  have hchecked :=
    any_modify (p := (OraBindNode.bindsChecked c)) (fun n => OraBindNode.bindsChecked_congr (hf n))
    S.nodeList i
  rw [bindsChecked, bindsChecked, Stmt.setNode, harray, hchecked]

end Stmt

variable {h : Handler} {c : Setting} {L : List ℕ} {v : ℕ → ℕ → Bool} {s i : ℕ} {w t : World}
  {b : Bool} {k : Kind} {l : Level} {α : Type}

-- which nodes of the statements are values, and that none of these holds a temporary LOB
structure Lobless (L : List ℕ) (v : ℕ → ℕ → Bool) (w : World) : Prop where
  value : ∀ s ∈ L, ∀ i n, w.node s i = some n → n.isValue = v s i
  lobs : ∀ s ∈ L, ∀ i n, w.node s i = some n → n.isValue = true → n.strLobs = []

namespace Lobless

lemma same (hw : Lobless L v w) (hs : t.stmts = w.stmts) : Lobless L v t := by
  have hnode (s i : ℕ) : t.node s i = w.node s i := by rw [World.node, World.stmt, hs]; rfl
  constructor
  · intro s hL i n hn
    exact hw.value s hL i n (hnode s i ▸ hn)
  · intro s hL i n hn
    exact hw.lobs s hL i n (hnode s i ▸ hn)

lemma touch (hw : Lobless L v w) : Lobless L v w.touch := by
  unfold World.touch
  split
  · exact hw
  · exact hw.same rfl

lemma raise (hw : Lobless L v w) (x : Sink) (e : Exn) : Lobless L v (w.raise x e) := by
  cases x <;> exact hw.same rfl

lemma setStmt (hw : Lobless L v w) (s : ℕ) {f : Stmt → Stmt}
    (hf : ∀ (S : Stmt) (i : ℕ) (n : OraBindNode),
      (f S).nodeList[i]? = some n → S.nodeList[i]? = some n) :
    Lobless L v (w.setStmt s f) := by
  have hnode {s' i : ℕ} {n : OraBindNode} (hn : (w.setStmt s f).node s' i = some n) :
      w.node s' i = some n := by
    rw [World.node, World.stmt_setStmt] at hn
    split at hn
    · exact hf _ i n hn
    · exact hn
  exact ⟨fun s' hL i n hn => hw.value s' hL i n (hnode hn),
    fun s' hL i n hn => hw.lobs s' hL i n (hnode hn)⟩

-- a node that keeps its kind and gets no LOB, or that is of another statement
lemma setNode (hw : Lobless L v w) {f : OraBindNode → OraBindNode}
    (hf : s ∈ L → ∀ n, (f n).isValue = n.isValue ∧ (f n).strLobs ⊆ n.strLobs) :
    Lobless L v (w.setNode s i f) := by
  have hnode {s' j : ℕ} {n : OraBindNode} (hn : (w.setNode s i f).node s' j = some n) :
      w.node s' j = some n ∨ s' = s ∧ ∃ m, w.node s' j = some m ∧ n = f m := by
    rw [World.node_setNode] at hn
    split at hn
    · rename_i he
      obtain ⟨m, hm, rfl⟩ := Option.map_eq_some_iff.1 hn
      exact .inr ⟨(Prod.mk.inj he).1.symm, m, hm, rfl⟩
    · exact .inl hn
  constructor
  · intro s' hL j n hn
    rcases hnode hn with hn | ⟨rfl, m, hm, rfl⟩
    · exact hw.value s' hL j n hn
    · rw [(hf hL m).1]
      exact hw.value s' hL j m hm
  · intro s' hL j n hn hv
    rcases hnode hn with hn | ⟨rfl, m, hm, rfl⟩
    · exact hw.lobs s' hL j n hn hv
    · have hsub := (hf hL m).2
      rw [hw.lobs s' hL j m hm ((hf hL m).1 ▸ hv)] at hsub
      exact List.subset_nil.1 hsub

lemma freeTemporary (hw : Lobless L v w) (o : Locator) : Lobless L v (w.freeTemporary o).2 := by
  have hemit : Lobless L v (w.emit (.lobFreed o w.cur)) := hw.same rfl
  exact hemit.touch.same rfl

lemma createTemporary (hw : Lobless L v w) : Lobless L v w.createTemporary.2 := by
  unfold World.createTemporary
  dsimp only
  split <;> exact hw.touch.same rfl

section Moves

variable (hh : ∀ x who w, Lobless L v w → Lobless L v (h x who w))
include hh

lemma plain (hw : Lobless L v w) (hp : Plain h w t) : Lobless L v t := by
  cases hp with
  | touch => exact hw.touch
  | ask => exact hw.same rfl
  | raise x e => exact hw.raise x e
  | exhaust => exact hw.same rfl
  | check x a who =>
    unfold World.checkerr
    split
    · exact hw
    · exact hw
    · exact hh x who _ hw.touch
    all_goals exact hw.raise x _

-- what binds the nodes of a statement that the recovery does not reach
lemma nodeMove (hw : Lobless L v w) (hb : b = true → s ∉ L) (hm : NodeMove h s i b w t) :
    Lobless L v t := by
  cases hm with
  | plain hp => exact hw.plain hh hp
  | tidy _ f hf => exact hw.setNode fun _ n => ⟨(hf n).value, (hf n).str⟩
  | strlobFree =>
    unfold World.strlobFree
    split
    · split
      · exact hw.touch
      · exact hw.freeTemporary _
    · exact hw
  | arraybindFree =>
    unfold World.arraybindFree
    split
    · split
      · exact hw.touch
      · exact hw.freeTemporary _
    · exact hw
  | arm _ f hf => exact hw.setNode fun _ n => ⟨(hf n).value, (hf n).str⟩
  | describe _ f hf =>
    have hset : Lobless L v (w.setNode s i f) := hw.setNode fun hL => absurd hL (hb rfl)
    unfold World.describe
    dsimp only
    split
    · exact hset.same rfl
    · exact hset
  | strlobCreate =>
    unfold World.strlobCreate
    dsimp only
    split
    · exact hw.createTemporary.setNode fun hL => absurd hL (hb rfl)
    · exact hw.createTemporary
  | arraybindCreate =>
    unfold World.arraybindCreate
    dsimp only
    split
    · exact hw.createTemporary.setNode fun hL => absurd hL (hb rfl)
    · exact hw.createTemporary

lemma node (hb : b = true → s ∉ L) (m : NodeAct h s i b α) :
    Spec (Lobless L v) m fun _ => Lobless L v :=
  spec_invariant (fun _ _ hm hw => hw.nodeMove hh hb hm) m

lemma move (hw : Lobless L v w) (hk : k = .calm ∨ k = .session ∨ k = .load) (hm : Move h k w t) :
    Lobless L v t := by
  cases hm with
  | plain hp => exact hw.plain hh hp
  | clearNode => exact node hh (by simp) _ w hw
  | resetNode => exact node hh (by simp) _ w hw
  | valueNode => exact node hh (by simp) _ w hw
  | stmt s f _ hf => exact hw.setStmt s fun S i n hn => (hf S).nodes ▸ hn
  | dropNodes s => exact hw.setStmt s fun S i n hn => by simp at hn
  | setNode | bindNode | parsed | columns | rebound | register | beginLoad | stmtExecute |
    setCallDepth | newStatement | addStatement => simp at hk
  | _ => exact hw.same rfl

lemma recover (m : Drv h .recover α) : Spec (Lobless L v) m fun _ => Lobless L v := by
  refine spec_invariant ?_ m
  rintro w t ⟨k, hk, hm⟩ hw
  refine hw.move hh ?_ hm
  cases k <;> first | exact absurd hk (by decide) | simp

end Moves

end Lobless

lemma handler_lobless (n : ℕ) : ∀ x who w, Lobless L v w → Lobless L v (handler n x who w) := by
  induction n with
  | zero => exact fun x who w hw => (hw.raise x _).same rfl
  | succ n ih =>
    intro x who w hw
    rw [handler_succ]
    exact Lobless.recover ih _ w hw

-- the state of the recovery, of which only the release of what nodes hold counts
structure Loose (c : Setting) (L : List ℕ) (v : ℕ → ℕ → Bool) (w : World) : Prop where
  still : Still false false none L w
  lobless : Lobless L v w
  setting : w.setting = c

lemma handler_loose (n : ℕ) (x : Sink) (who : String) (w : World) (hw : Loose c L v w) :
    Loose c L v (handler (n + 3) x who w) where
  still := handler_still n x who w hw.still
  lobless := handler_lobless (n + 3) x who w hw.lobless
  setting := (handler_frame (n + 3) x who w).setting.trans hw.setting

-- what the arguments of the statements let bind() make is released without a checked call
def ArgsBare (c : Setting) (L : List ℕ) (w : World) : Prop := ∀ s ∈ L, (w.stmt s).bindsChecked c = false

namespace ArgsBare

lemma same (hw : ArgsBare c L w) (hs : t.stmts = w.stmts) : ArgsBare c L t := by
  intro s hL
  rw [World.stmt, hs]
  exact hw s hL

lemma touch (hw : ArgsBare c L w) : ArgsBare c L w.touch := by
  unfold World.touch
  split
  · exact hw
  · exact hw.same rfl

lemma raise (hw : ArgsBare c L w) (x : Sink) (e : Exn) : ArgsBare c L (w.raise x e) := by
  cases x <;> exact hw.same rfl

lemma setStmt (hw : ArgsBare c L w) (s : ℕ) {f : Stmt → Stmt}
    (hf : ∀ S, (f S).bindsChecked c = S.bindsChecked c) : ArgsBare c L (w.setStmt s f) := by
  intro s' hL
  rw [World.stmt_setStmt]
  split
  · rw [hf]
    exact hw s' hL
  · exact hw s' hL

lemma calm (hw : ArgsBare c L w) (s : ℕ) {f : Stmt → Stmt} (hf : ∀ S, Stmt.Calm S (f S)) :
    ArgsBare c L (w.setStmt s f) :=
  hw.setStmt s fun S => by rw [Stmt.bindsChecked, Stmt.bindsChecked, (hf S).nodes]

lemma setNode (hw : ArgsBare c L w) (s i : ℕ) {f : OraBindNode → OraBindNode}
    (hf : ∀ n, (f n).argument = n.argument) : ArgsBare c L (w.setNode s i f) :=
  hw.setStmt s fun S => S.bindsChecked_setNode hf i

end ArgsBare

-- an error that is handled leaves an exception, and without one the arguments are as they were
def ArgsSettled (c : Setting) (L : List ℕ) (w : World) : Prop := Pending w ∨ ArgsBare c L w

lemma Pending.same (hw : Pending w) (ht : t.xsink = w.xsink) : Pending t := by
  rwa [Pending, World.pending, ht]

namespace ArgsSettled

lemma same (hw : ArgsSettled c L w) (hs : t.stmts = w.stmts) (hx : t.xsink = w.xsink) :
    ArgsSettled c L t :=
  hw.imp (fun hp => hp.same hx) fun hb => hb.same hs

lemma touch (hw : ArgsSettled c L w) : ArgsSettled c L w.touch :=
  hw.imp (fun hp => hp.same w.touch_xsink) ArgsBare.touch

lemma raise (hw : ArgsSettled c L w) (x : Sink) (e : Exn) : ArgsSettled c L (w.raise x e) := by
  rcases hw with hp | hb
  · left
    cases x with
    | main => exact pending_raise w e
    | own | dropped => exact hp
  · exact .inr (hb.raise x e)

end ArgsSettled

lemma settled_asks : Asks (ArgsSettled c L) where
  touch hw := hw.touch
  ask _ hw := hw.same rfl rfl
  raise x e hw := hw.raise x e

lemma settled_speaks : Speaks (ArgsSettled c L) where
  touch hw := hw.touch
  ask _ hw := hw.same rfl rfl
  raise x e hw := hw.raise x e
  conn _ _ hw := hw.same rfl rfl

lemma settled_kept : NodeKept s i (ArgsSettled c L) where
  toAsks := settled_asks
  emit _ hw := hw.same rfl rfl
  tidy _ _ hf hw := hw.imp (fun hp => hp.same rfl) fun hb => hb.setNode s i hf

section Cleared

variable (hp : ∀ who w, Pending (h .main who w))
include hp

lemma settled_stmtClear (s : ℕ) : Spec (ArgsSettled c L) (stmtClear .main s : Drv h l Unit)
    fun _ => ArgsSettled c L := by
  have handled (who : String) (w : World) (_ : ArgsSettled c L w) : ArgsSettled c L (h .main who w) :=
    .inl (hp who w)
  apply kept_stmtClear .main settled_asks
  · exact fun _ hf _ hw => hw.imp (fun hp => hp.same rfl) fun hb => hb.calm s hf
  · exact fun i => NodeAct.kept_clear_handled .main handled settled_kept
  · intro w _ _
    exact spec_bind (asks_oci settled_asks _) fun a => asks_check settled_asks .main handled a _

lemma settled_clearStatements (stmt : Option ℕ) :
    Spec (ArgsSettled c L) (clearStatements .main stmt : Drv h .calm Unit) fun _ => ArgsSettled c L := by
  refine spec_bind (moved_conn settled_speaks) fun k =>
    spec_bind (spec_each fun s _ => settled_stmtClear hp s) fun _ => ?_
  cases stmt with
  | none => exact carried_pure
  | some s =>
    refine spec_bind (moved_conn settled_speaks) fun k => spec_ite (fun _ => ?_) fun _ => carried_pure
    exact settled_stmtClear hp s

lemma settled_connectionLost : Spec (ArgsSettled c L) (connectionLost .main : Drv h .calm Unit)
    fun _ => ArgsSettled c L :=
  spec_bind (Q := fun _ => ArgsSettled c L) (fun _ hw => hw) fun _ =>
    spec_each fun s _ => settled_stmtClear hp s

lemma settled_sessionLost (who : String) (canRetry : Bool) (stmt : Option ℕ) (a : Answer) :
    Spec (ArgsSettled c L) (sessionLost .main who canRetry stmt a : Drv h .session Unit)
      fun _ => ArgsSettled c L := by
  have clear : Spec (ArgsSettled c L) (do
      Drv.calm (clearStatements .main stmt)
      Drv.calm (connectionLost .main) : Drv h .session Unit) fun _ => ArgsSettled c L :=
    spec_bind (spec_lower (settled_clearStatements hp stmt)) fun _ =>
      spec_lower (settled_connectionLost hp)
  have replace : Spec (ArgsSettled c L) (do
      if canRetry then
        replaced stmt
      Drv.calm (clearStatements .main stmt)
      Drv.calm (connectionLost .main) : Drv h .session Unit) fun _ => ArgsSettled c L := by
    refine spec_ite (fun _ => ?_) fun _ => clear
    exact spec_bind (Q := fun _ => ArgsSettled c L) (fun _ hw => hw.same rfl rfl) fun _ => clear
  refine spec_bind (Q := fun _ => ArgsSettled c L) (fun _ hw => hw.touch.same rfl rfl) fun _ =>
    spec_bind (moved_ask settled_speaks _) fun t =>
    spec_bind (Q := fun _ => ArgsSettled c L) (fun _ hw => hw.same rfl rfl) fun _ => ?_
  refine spec_ite (fun _ => ?_) fun _ => replace
  exact spec_bind carried_account fun _ => spec_bind (moved_raise .main settled_speaks _) fun _ =>
    replace

-- a loss that has been found leaves the arguments, or an exception
lemma settled_findLoss (who : String) (canRetry : Bool) (stmt : Option ℕ) :
    Spec (ArgsSettled c L) (findLoss .main who canRetry stmt : Drv h .recover (Option Answer))
      fun r t => r = none ∨ ArgsSettled c L t := by
  have none_left {m : Drv h .recover Unit} : Spec (ArgsSettled c L) (do m; return none)
      fun (r : Option Answer) t => r = none ∨ ArgsSettled c L t := fun _ _ => .inl rfl
  refine spec_bind (moved_oci settled_speaks _) fun a => spec_bind (moved_conn settled_speaks) fun k =>
    spec_ite (fun _ => none_left) fun _ => spec_ite (fun _ => none_left) fun _ => ?_
  refine spec_then (moved_ping settled_speaks a) none_left ?_
  refine spec_bind (spec_lift (settled_sessionLost hp who canRetry stmt a)) fun _ => ?_
  exact spec_pure fun _ hw => .inr hw

end Cleared

-- the session is made again with errors of its own, which are not handled
lemma settled_logonAgain (n : ℕ) : Spec (ArgsSettled c L)
    (logonAgain : Drv (handler (n + 1)) .session Bool) fun _ => ArgsSettled c L := by
  have ready : Asks fun w => ArgsSettled c L w ∧ w.conn.inLogon = true := by
    refine ⟨fun {w} hw => ⟨hw.1.touch, ?_⟩, fun _ hw => ⟨hw.1.same rfl rfl, hw.2⟩, fun {w} x e hw =>
      ⟨hw.1.raise x e, ?_⟩⟩
    · rw [World.touch_conn]
      exact hw.2
    · rw [World.raise_conn]
      exact hw.2
  have talks : Talks (handler (n + 1)) fun w => ArgsSettled c L w ∧ w.conn.inLogon = true := by
    refine ⟨⟨ready.touch, ready.ask, ready.raise, fun {w} f hf hw => ⟨hw.1.same rfl rfl, ?_⟩⟩, ?_⟩
    · exact (hf _).inLogon.trans hw.2
    · intro w x a who hw
      exact asks_check (R := Step (handler (n + 1)) .session) ready x
        (fun who w hw => handler_inLogon ready (fun _ hw => hw.2) n x who w hw) a who w hw
  have begun : Spec (ArgsSettled c L) (setInLogon true : Drv (handler (n + 1)) .session Unit)
      fun _ w => ArgsSettled c L w ∧ w.conn.inLogon = true :=
    fun w hw => ⟨hw.touch.same rfl rfl, rfl⟩
  have ended : Spec (fun w => ArgsSettled c L w ∧ w.conn.inLogon = true)
      (setInLogon false : Drv (handler (n + 1)) .session Unit) fun _ => ArgsSettled c L :=
    fun w hw => hw.1.touch.same rfl rfl
  have logon : Spec (ArgsSettled c L) (logon .own : Drv (handler (n + 1)) .session Bool)
      fun _ => ArgsSettled c L := by
    refine spec_bind (moved_setConn settled_speaks _ _) fun _ => spec_bind begun fun _ => ?_
    refine spec_bind (moved_setupSession .own talks fun hw => ⟨hw.1.same rfl rfl, hw.2⟩) fun _ =>
      spec_bind ended fun _ => ?_
    exact spec_bind (Q := fun _ => ArgsSettled c L) (fun _ hw => hw.same rfl rfl) fun _ => carried_pure
  refine spec_bind (Q := fun _ => ArgsSettled c L) ?_ fun _ =>
    spec_bind (Q := fun _ => ArgsSettled c L) (fun _ hw => hw.same rfl rfl) fun _ => logon
  refine spec_bind (moved_oci settled_speaks _) fun _ => spec_bind (moved_oci settled_speaks _)
    fun _ => ?_
  exact spec_bind (Q := fun _ => ArgsSettled c L) (fun _ hw => hw.same rfl rfl) fun _ =>
    moved_setConn settled_speaks _ _

end OracleDriver
