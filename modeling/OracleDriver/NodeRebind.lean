import OracleDriver.StillArguments

/-! What holds while bind() works on a node, unless it makes a temporary LOB or a raw buffer of what
the recovery reaches. -/

namespace OracleDriver

open Act

variable {h : Handler} {c : Setting} {s i : ℕ} {w : World} {α : Type}

namespace OraBindNode

-- the node holds the same for the same argument
structure Akin (n n' : OraBindNode) : Prop extends Like n n' where
  argument : n'.argument = n.argument

lemma Akin.same {n n' : OraBindNode} (ha : n'.argument = n.argument) (hs : n'.strlob = n.strlob)
    (hl : n'.lobAllocated = n.lobAllocated) (hd : n'.dtype = n.dtype) (hr : n'.array = n.array) :
    Akin n n' :=
  ⟨⟨(Prod.mk.inj ha).1, by simp only [strLobs, hs, hl], hd, hr⟩, ha⟩

lemma Akin.withArraybind (f : ArrayBind → Ledger Resource → ArrayBind × Ledger Resource)
    (n : OraBindNode) : Akin n (n.withArraybind f) := by
  unfold OraBindNode.withArraybind
  split <;> exact .same rfl rfl rfl rfl rfl

-- what bind() makes of a node whose kind is `v`: it gets no LOB, and is given no single raw buffer
structure Quiet (v : Bool) (n n' : OraBindNode) : Prop where
  argument : n'.argument = n.argument
  lobs : n'.strLobs ⊆ n.strLobs
  raw : v = false → isRaw n'.dtype = true → n'.array = true ∨
    isRaw n.dtype = true ∧ (n.array = true → n'.array = true)

lemma Akin.quiet {v : Bool} {n n' : OraBindNode} (h : Akin n n') : Quiet v n n' := by
  refine ⟨h.argument, h.lobs ▸ List.Subset.refl _, fun _ hr => .inr ⟨?_, ?_⟩⟩
  · rwa [h.dtype] at hr
  · rw [h.array]
    exact id

end OraBindNode

-- what holds while bind() works on the node at `i`, whose kind is `v`; all that is done with the node
-- keeps it when the recovery does not reach it
structure Arming (h : Handler) (s i : ℕ) (far : Prop) (v : Bool) (P : World → Prop) : Prop
    extends Asks P where
  handle : ∀ {w} who, P w → P (h .main who w)
  emit : ∀ {w} o, P w → P (w.emit (.overwritten o))
  setNode : ∀ {w} f, (∀ n, OraBindNode.Quiet v n (f n)) → P w → P (w.setNode s i f)
  far : far → ∀ {w} f, P w → P (w.setNode s i f)

namespace World

lemma arraySize_setNode (w : World) (s i : ℕ) (f : OraBindNode → OraBindNode) (s' : ℕ) :
    ((w.setNode s i f).stmt s').arraySize = (w.stmt s').arraySize := by
  rw [World.setNode, World.stmt_setStmt]
  split <;> rfl

lemma touch_stmt (w : World) (s : ℕ) : w.touch.stmt s = w.stmt s := by
  unfold World.touch
  split <;> rfl

end World

namespace NodeAct

open OraBindNode

variable {v : Bool} {far : Prop} {P : World → Prop}

section Arming

variable (c) (hA : Arming h s i far v P)
include hA

lemma armed_arm {f : OraBindNode → OraBindNode} {hf : ∀ n, Arms n (f n)}
    (hq : ∀ n, Akin n (f n)) : Spec P (arm f hf : NodeAct h s i true Unit) fun _ => P :=
  fun _ hw => hA.setNode f (fun n => (hq n).quiet) (hA.touch hw)

lemma armed_setDtype {t : Dtype} (ht : (far ∨ v = true) ∨ isRaw t = false) :
    Spec P (arm (setDtype t) (.setDtype t) : NodeAct h s i true Unit) fun _ => P := by
  intro w hw
  have quiet (hraw : v = false → isRaw t = true → False) : P (w.touch.setNode s i (setDtype t)) :=
    hA.setNode _ (fun n => ⟨rfl, List.Subset.refl _, fun hv hr => (hraw hv hr).elim⟩) (hA.touch hw)
  rcases ht with (hfar | hv) | ht
  · exact hA.far hfar _ (hA.touch hw)
  · exact quiet fun hv' _ => Bool.false_ne_true (hv'.symm.trans hv)
  · exact quiet fun _ hr => Bool.false_ne_true (ht.symm.trans hr)

lemma armed_beginArray : Spec P (arm beginArray .beginArray : NodeAct h s i true Unit) fun _ => P :=
  fun _ hw => hA.setNode _ (fun _ => ⟨rfl, List.Subset.refl _, fun _ _ => .inl rfl⟩) (hA.touch hw)

lemma armed_raise (e : Exn) : Spec P (raise .main e : NodeAct h s i true Unit) fun _ => P :=
  asks_raise hA.toAsks .main e

lemma armed_check (a : Answer) (who : String) :
    Spec P (check .main a who : NodeAct h s i true Bool) fun _ => P :=
  asks_check hA.toAsks .main (fun who _ hw => hA.handle who hw) a who

lemma armed_checked (k : Call) (who : String) :
    Spec P (checked .main k who : NodeAct h s i true Bool) fun _ => P :=
  spec_bind (asks_oci hA.toAsks k) fun a => armed_check hA a who

lemma armed_raised (e : Exn) {α : Type} (a : α) :
    Spec P (do raise .main e; return a : NodeAct h s i true α) fun _ => P :=
  spec_bind (armed_raise hA e) fun _ => kept_pure

lemma armed_bindByPos : Spec P (bindByPos .main : NodeAct h s i true Bool) fun _ => P :=
  armed_checked hA _ _

lemma armed_bindAs {t : Dtype} (ht : (far ∨ v = true) ∨ isRaw t = false) :
    Spec P (bindAs .main t : NodeAct h s i true Unit) fun _ => P :=
  spec_bind (armed_setDtype hA ht) fun _ => spec_bind (armed_bindByPos hA) fun _ => kept_pure

lemma armed_bindString (inOnly : Bool) (val : QoreValue) :
    Spec P (bindString .main c inOnly val : NodeAct h s i true Bool) fun _ => P := by
  have push (p : Option StrPtr) : Spec P (do
      arm (pushStr p) (.pushStr p)
      return false : NodeAct h s i true Bool) fun _ => P :=
    spec_bind (armed_arm hA (.withArraybind _)) fun _ => kept_pure
  unfold bindString
  split
  · exact push _
  · exact push _
  · refine spec_ite (fun _ => push _) fun _ => ?_
    split
    · exact armed_raised hA _ _
    · exact push _
  · exact push _

lemma armed_setupDateDescriptor {own : NodeAct h s i true Unit} (ho : Spec P own fun _ => P) :
    Spec P (setupDateDescriptor .main own : NodeAct h s i true Bool) fun _ => P :=
  spec_then (armed_checked hA _ _) kept_pure (spec_bind ho fun _ => kept_pure)

lemma armed_dateTimeConstruct (epoch : ℤ) :
    Spec P (dateTimeConstruct .main epoch : NodeAct h s i true Bool) fun _ => P := by
  refine spec_bind (Q := fun _ => P) (fun _ hw => hw) fun c => spec_ite (fun _ => ?_) fun _ => ?_
  all_goals exact armed_checked hA _ _

lemma armed_bindDateElement (e : QoreValue × ℕ) :
    Spec P (bindDateElement .main e : NodeAct h s i true Bool) fun _ => P := by
  have push (d : Bool) : Spec P (arm (pushDate d) (.pushDate d) : NodeAct h s i true Unit) fun _ => P :=
    armed_arm hA (.withArraybind _)
  unfold bindDateElement
  split
  · exact spec_bind (push false) fun _ => kept_pure
  · exact spec_bind (push false) fun _ => kept_pure
  · refine spec_then (armed_setupDateDescriptor hA (push true)) kept_pure ?_
    exact armed_dateTimeConstruct hA _
  · exact armed_raised hA _ _

lemma armed_bindPlainElement (accepts : QoreValue → Bool) (expected : String) (e : QoreValue × ℕ) :
    Spec P (bindPlainElement .main accepts expected e : NodeAct h s i true Bool) fun _ => P :=
  spec_ite (fun _ => kept_pure) fun _ => armed_raised hA _ _

lemma armed_checkCancel : Spec P (checkCancel .main : NodeAct h s i true Bool) fun _ => P := by
  refine spec_bind (fun w hw => hA.ask _ hw) fun a => spec_ite (fun _ => ?_) fun _ => kept_pure
  exact armed_raised hA _ _

lemma armed_writePieces (desc : String) (n : ℕ) (first : Bool) :
    Spec P (writePieces .main desc n first : NodeAct h s i true Bool) fun _ => P := by
  have failed (a : Answer) : Spec P (do
      let _ ← check .main a desc
      return true : NodeAct h s i true Bool) fun _ => P :=
    spec_bind (armed_check hA a desc) fun _ => kept_pure
  induction n generalizing first with
  | zero =>
    have write : Spec P (do
        let a ← oci .lobWrite
        if a.status ≠ .success then
          let _ ← check .main a desc
          return true
        return false : NodeAct h s i true Bool) fun _ => P :=
      spec_bind (asks_oci hA.toAsks _) fun a => spec_ite (fun _ => failed a) fun _ => kept_pure
    exact spec_ite (fun _ => spec_then (armed_checkCancel hA) kept_pure write) fun _ => write
  | succ n ih =>
    have write : Spec P (do
        let a ← oci .lobWrite
        if a.status ≠ .needData then
          let _ ← check .main a desc
          return true
        writePieces .main desc n false : NodeAct h s i true Bool) fun _ => P :=
      spec_bind (asks_oci hA.toAsks _) fun a => spec_ite (fun _ => failed a) fun _ => ih false
    exact spec_ite (fun _ => spec_then (armed_checkCancel hA) kept_pure write) fun _ => write

lemma armed_writeLob (n : ℕ) (desc : String) :
    Spec P (writeLob .main n desc : NodeAct h s i true Bool) fun _ => P := by
  refine spec_then (armed_checkCancel hA) kept_pure
    (spec_ite (fun _ => ?_) fun _ => armed_writePieces hA _ _ _)
  exact armed_checked hA _ _

lemma armed_lobCreateTemporary :
    Spec P (lobCreateTemporary : NodeAct h s i true Answer) fun _ => P :=
  spec_bind (Q := fun _ => P) (fun _ hw => hw) fun _ => spec_bind (asks_oci hA.toAsks _) fun _ =>
    kept_pure

lemma armed_getBindData (val : QoreValue) :
    Spec P (getBindData .main c val : NodeAct h s i true (Option ℕ)) fun _ => P := by
  unfold getBindData
  split
  · exact kept_pure
  · refine spec_ite (fun _ => kept_pure) fun _ => ?_
    split
    · exact armed_raised hA _ _
    · exact spec_bind (armed_arm hA (.withArraybind _)) fun _ => kept_pure
  · exact kept_pure

lemma armed_bindLobElement (blob : Bool) (e : QoreValue × ℕ) :
    Spec P (bindLobElement .main c blob e : NodeAct h s i true Bool) fun _ => P := by
  have push (d : Bool) : Spec P (arm (pushLob d) (.pushLob d) : NodeAct h s i true Unit) fun _ => P :=
    armed_arm hA (.withArraybind _)
  unfold bindLobElement
  refine spec_ite (fun _ => spec_bind (push false) fun _ => kept_pure) fun _ =>
    spec_ite (fun _ => armed_raised hA _ _) fun _ => ?_
  refine spec_then (armed_checked hA _ _) kept_pure (spec_bind (push true) fun _ => ?_)
  refine spec_bind (armed_lobCreateTemporary hA) fun a =>
    spec_then (armed_check hA a _) kept_pure (spec_bind (armed_getBindData c hA e.1) fun r => ?_)
  cases r with
  | none => exact kept_pure
  | some n => exact armed_writeLob hA n _

lemma armed_createTemporary (hw : P w) : P w.createTemporary.2 := by
  unfold World.createTemporary
  dsimp only
  split <;> exact hA.ask _ (hA.touch hw)

-- the LOB of an array bind is not one of the value
lemma armed_setupSingleBinary (hv : far ∨ v = true) (n : ℕ) :
    Spec P (setupSingleBinary .main n : NodeAct h s i true Bool) fun _ => P := by
  have own : Spec P (describe ownArrayLob fun n => withArraybind_isValue _ n : NodeAct h s i true Unit)
      fun _ => P := by
    intro w hw
    have hset : P (w.touch.setNode s i ownArrayLob) :=
      hA.setNode _ (fun n => (Akin.withArraybind _ n).quiet) (hA.touch hw)
    show P (w.touch.describe s i ownArrayLob)
    unfold World.describe
    dsimp only
    split
    · exact hA.emit _ hset
    · exact hset
  have create : Spec P (Act.step (World.arraybindCreate s i) .arraybindCreate :
      NodeAct h s i true Answer) fun _ => P := by
    intro w hw
    have hcreate : P w.createTemporary.2 := armed_createTemporary hA hw
    show P (w.arraybindCreate s i).2
    unfold World.arraybindCreate
    dsimp only
    split
    · refine hA.setNode _ (fun n => Akin.quiet ?_) hcreate
      split <;> exact .same rfl rfl rfl rfl rfl
    · exact hcreate
  refine spec_ite (fun _ => spec_bind (armed_bindAs hA (.inl hv)) fun _ => kept_pure) fun _ => ?_
  refine spec_then (armed_checked hA _ _) kept_pure (spec_bind own fun _ => ?_)
  refine spec_bind create fun a => spec_then (armed_check hA a _) kept_pure ?_
  refine spec_then (armed_writeLob hA n _) kept_pure ?_
  exact spec_bind (armed_bindAs hA (.inl hv)) fun _ => kept_pure

lemma armed_setupBind (val : QoreValue) (inOnly : Bool) {k : ArrayBindClass}
    (hk : (far ∨ v = true) ∨ k ≠ .singleBinary) :
    Spec P (setupBind .main c val inOnly k : NodeAct h s i true Bool) fun _ => P := by
  have bound {t : Dtype} (ht : isRaw t = false) : Spec P (do
      bindAs .main t
      return false : NodeAct h s i true Bool) fun _ => P :=
    spec_bind (armed_bindAs hA (.inr ht)) fun _ => kept_pure
  have each {m : NodeAct h s i true Bool} {t : Dtype} (ht : isRaw t = false)
      (hm : Spec P m fun _ => P) : Spec P (do
        if ← m then
          return true
        bindAs .main t
        return false : NodeAct h s i true Bool) fun _ => P :=
    spec_then hm kept_pure (bound ht)
  cases k with
  | string | number => exact each rfl (spec_tryEach fun e _ => armed_bindString c hA inOnly e)
  | float => exact each rfl (spec_tryEach fun e _ => armed_bindPlainElement hA _ _ e)
  | bool => exact each rfl (spec_tryEach fun e _ => armed_bindPlainElement hA _ _ e)
  | date => exact each rfl (spec_tryEach fun e _ => armed_bindDateElement hA e)
  | blob => exact each rfl (spec_tryEach fun e _ => armed_bindLobElement c hA true e)
  | clob => exact each rfl (spec_tryEach fun e _ => armed_bindLobElement c hA false e)
  | singleNull | singleString => exact bound rfl
  | singleInt => exact bound rfl
  | singleFloat => exact bound rfl
  | singleDate =>
    refine spec_then (armed_setupDateDescriptor hA (armed_arm hA (.withArraybind _))) kept_pure ?_
    exact spec_then (armed_dateTimeConstruct hA _) kept_pure (bound rfl)
  | singleBinary =>
    cases val with
    | binary bytes => exact armed_setupSingleBinary hA (hk.resolve_right fun hk => hk rfl) _
    | _ => exact kept_pure

omit hA in
lemma isBinary_of_arrayClass {val : QoreValue} {owned : Bool}
    (hk : arrayClass c val = .ok (.singleBinary, owned)) : val.isBinary = true := by
  cases val with
  | binary => rfl
  | string s =>
    change (c.encode s).map _ = _ at hk
    cases hs : c.encode s <;> rw [hs] at hk <;> cases hk
  | list l =>
    simp only [arrayClass] at hk
    split at hk
    · cases hk
    · split at hk
      · split at hk <;> cases hk
      all_goals cases hk
  | _ => cases hk

lemma armed_bindListValue (val : QoreValue) (inOnly : Bool)
    (hv : (far ∨ v = true) ∨ val.isBinary = false) :
    Spec P (bindListValue .main c val inOnly : NodeAct h s i true Unit) fun _ => P := by
  refine spec_bind (armed_beginArray hA) fun _ => ?_
  cases hc : arrayClass c val with
  | error e => exact armed_raise hA e
  | ok r =>
    obtain ⟨k, owned⟩ := r
    have hk : (far ∨ v = true) ∨ k ≠ .singleBinary := by
      refine hv.imp_right fun hb hk => ?_
      rw [hk] at hc
      exact Bool.false_ne_true (hb.symm.trans (isBinary_of_arrayClass c hc))
    have setup : Spec P (do
        if ← setupBind .main c val inOnly k then
          return
        let _ ← checked .main .bindDynamic "OraBindNode::bindListValue()" : NodeAct h s i true Unit)
        fun _ => P :=
      spec_then (armed_setupBind c hA val inOnly hk) kept_pure
        (spec_bind (armed_checked hA _ _) fun _ => kept_pure)
    refine spec_bind (armed_arm hA fun _ => .same rfl rfl rfl rfl rfl) fun _ =>
      spec_ite (fun _ => ?_) fun _ => setup
    exact spec_bind (armed_arm hA (.withArraybind _)) fun _ => setup

-- the temporary LOB of a value
lemma armed_bindLob (hfar : far) (len : ℕ) (create write : String) :
    Spec P (bindLob .main len create write : NodeAct h s i true Unit) fun _ => P := by
  have own : Spec P (describe ownStrlob fun _ => rfl : NodeAct h s i true Unit) fun _ => P := by
    intro w hw
    have hset : P (w.touch.setNode s i ownStrlob) := hA.far hfar _ (hA.touch hw)
    show P (w.touch.describe s i ownStrlob)
    unfold World.describe
    dsimp only
    split
    · exact hA.emit _ hset
    · exact hset
  have make : Spec P (Act.step (World.strlobCreate s i) .strlobCreate : NodeAct h s i true Answer)
      fun _ => P := by
    intro w hw
    have hcreate : P w.createTemporary.2 := armed_createTemporary hA hw
    show P (w.strlobCreate s i).2
    unfold World.strlobCreate
    dsimp only
    split
    · exact hA.far hfar _ hcreate
    · exact hcreate
  refine spec_then (armed_checked hA _ _) kept_pure (spec_bind own fun _ => spec_bind make fun a => ?_)
  refine spec_then (armed_check hA a _) kept_pure (spec_then (armed_writeLob hA len _) kept_pure ?_)
  exact spec_bind (armed_bindByPos hA) fun _ => kept_pure

lemma armed_bindStringValue (val : QoreString) (inOnly : Bool)
    (hlob : far ∨ (inOnly = true → c.writesLob (.string val) = false)) :
    Spec P (bindStringValue .main c val inOnly : NodeAct h s i true Unit) fun _ => P := by
  unfold bindStringValue
  cases hc : c.encode val with
  | error e => exact armed_raise hA e
  | ok r =>
    obtain ⟨d, copied⟩ := r
    refine spec_ite (fun hin => ?_) fun _ => ?_
    · have hshort : far ∨ ¬c.byteSize d + 1 > lobThreshold := by
        refine hlob.imp_right fun hlob => ?_
        have hshort := hlob hin
        simpa only [Setting.writesLob, QoreValue.resolveIndirect, hc,
          decide_eq_false_iff_not] using hshort
      have bound : Spec P (do
          if c.byteSize d + 1 > lobThreshold then
            arm (setDtype .clob) (.setDtype _)
            bindLob .main (c.byteSize d) "OraBindNode::bindValue() create temporary CLOB"
              "OraBindNode::bindValue() write CLOB"
          else
            bindAs .main .str : NodeAct h s i true Unit) fun _ => P :=
        spec_ite (fun hlong => spec_bind (armed_setDtype hA (.inr rfl)) fun _ =>
          armed_bindLob hA (hshort.resolve_right fun h => h hlong) _ _ _) fun _ =>
            armed_bindAs hA (.inr rfl)
      refine spec_bind (armed_arm hA fun _ => .same rfl rfl rfl rfl rfl) fun _ =>
        spec_ite (fun _ => ?_) fun _ => bound
      exact spec_bind (armed_arm hA fun _ => .same rfl rfl rfl rfl rfl) fun _ => bound
    · exact spec_bind (armed_arm hA fun _ => .same rfl rfl rfl rfl rfl) fun _ =>
        armed_bindAs hA (.inr rfl)

lemma armed_setupDate : Spec P (setupDate .main : NodeAct h s i true Bool) fun _ => P := by
  refine spec_bind (armed_setDtype hA (.inr rfl)) fun _ =>
    spec_bind (armed_arm hA fun _ => .same rfl rfl rfl rfl rfl) fun _ => ?_
  exact armed_setupDateDescriptor hA (armed_arm hA fun _ => .same rfl rfl rfl rfl rfl)

lemma armed_bindDateValue (epoch : ℤ) :
    Spec P (bindDateValue .main epoch : NodeAct h s i true Unit) fun _ => P := by
  refine spec_then (armed_setupDate hA) kept_pure ?_
  refine spec_then (armed_dateTimeConstruct hA _) kept_pure ?_
  exact spec_bind (armed_bindByPos hA) fun _ => kept_pure

lemma armed_bindBinaryValue (len : ℕ) (inOnly : Bool) (hv : far ∨ v = true)
    (hlob : far ∨ (inOnly = true → ¬lobThreshold < len)) :
    Spec P (bindBinaryValue .main len inOnly : NodeAct h s i true Unit) fun _ => P := by
  refine spec_ite (fun hlong => ?_) fun _ => spec_bind (armed_setDtype hA (.inl hv)) fun _ => ?_
  · simp only [Bool.and_eq_true, decide_eq_true_eq] at hlong
    refine spec_bind (armed_setDtype hA (.inr rfl)) fun _ =>
      spec_bind (armed_arm hA fun _ => .same rfl rfl rfl rfl rfl) fun _ => ?_
    exact armed_bindLob hA (hlob.resolve_right fun h => h hlong.2 hlong.1) _ _ _
  refine spec_ite (fun _ => ?_) fun _ => ?_
  all_goals exact spec_bind (armed_arm hA fun _ => .same rfl rfl rfl rfl rfl) fun _ =>
    spec_bind (armed_bindByPos hA) fun _ => kept_pure

lemma armed_bindNumberText : Spec P (bindNumberText .main : NodeAct h s i true Unit) fun _ => P :=
  spec_bind (armed_setDtype hA (.inr rfl)) fun _ =>
    spec_bind (armed_arm hA fun _ => .same rfl rfl rfl rfl rfl) fun _ =>
      spec_bind (armed_bindByPos hA) fun _ => kept_pure

lemma armed_bindWord {t : Dtype} (word : ℤ) (ht : isRaw t = false) :
    Spec P (bindWord .main t word : NodeAct h s i true Unit) fun _ => P :=
  spec_bind (armed_setDtype hA (.inr ht)) fun _ =>
    spec_bind (armed_arm hA fun _ => .same rfl rfl rfl rfl rfl) fun _ =>
      spec_bind (armed_bindByPos hA) fun _ => kept_pure

lemma armed_buildInto (sub : Subdtype) (who : String) :
    Spec P (buildInto .main sub who : NodeAct h s i true Bool) fun _ => P := by
  have build : Spec P (buildObject .main who : NodeAct h s i true Bool) fun _ => P :=
    spec_bind (asks_oci hA.toAsks _) fun a => spec_ite (fun _ => kept_pure) fun _ =>
      armed_raised hA _ _
  refine spec_then build ?_ ?_
  all_goals exact spec_bind (armed_arm hA fun _ => .same rfl rfl rfl rfl rfl) fun _ => kept_pure

lemma armed_bindObjectValue (sub : Subdtype) :
    Spec P (bindObjectValue .main sub : NodeAct h s i true Unit) fun _ => P := by
  refine spec_bind (armed_arm hA fun _ => .same rfl rfl rfl rfl rfl) fun _ =>
    spec_bind (armed_setDtype hA (.inr rfl)) fun _ => ?_
  refine spec_then (armed_buildInto hA _ _) kept_pure ?_
  exact spec_bind (armed_bindByPos hA) fun _ => spec_bind (armed_checked hA _ _) fun _ => kept_pure

lemma armed_bindHashValue (m : List (Text × QoreValue)) :
    Spec P (bindHashValue .main m : NodeAct h s i true Unit) fun _ => P := by
  unfold bindHashValue
  refine spec_ite (fun _ => armed_raised hA _ _) fun _ => ?_
  split
  · refine spec_ite (fun _ => armed_bindObjectValue hA _) fun _ => ?_
    exact spec_ite (fun _ => armed_bindObjectValue hA _) fun _ => armed_raise hA _
  · exact armed_raise hA _

-- what bind() makes depends on whether the statement binds arrays
lemma armed_readStmt {B : Prop} {f : Stmt → NodeAct h s i true α}
    (hf : ∀ S : Stmt, (S.arraySize = 0 → B) →
      Spec (fun w => P w ∧ ((w.stmt s).arraySize = 0 → B)) (f S) fun _ => P) :
    Spec (fun w => P w ∧ ((w.stmt s).arraySize = 0 → B)) (stmt >>= f) fun _ => P := by
  rintro w ⟨hw, hB⟩
  have hsize : (w.touch.stmt s).arraySize = 0 → B := w.touch_stmt s ▸ hB
  exact hf (w.touch.stmt s) hsize _ ⟨hA.touch hw, hsize⟩

lemma armed_stmt {B : Prop} {f : Stmt → NodeAct h s i true α}
    (hf : ∀ S : Stmt, (S.arraySize = 0 → B) → Spec P (f S) fun _ => P) :
    Spec (fun w => P w ∧ ((w.stmt s).arraySize = 0 → B)) (stmt >>= f) fun _ => P :=
  armed_readStmt hA fun S hS => spec_weaken (hf S hS) (fun _ hw => hw.1) fun _ _ hw => hw

lemma armed_bindValue (val : QoreValue) (inOnly : Bool)
    (hbin : (far ∨ v = true) ∨ val.resolveIndirect.isBinary = false) :
    Spec (fun w => P w ∧ ((w.stmt s).arraySize = 0 →
        far ∨ (inOnly = true → c.writesLob val = false)))
      (bindValue .main c val inOnly : NodeAct h s i true Unit) fun _ => P := by
  have set : Spec (fun w => P w ∧ ((w.stmt s).arraySize = 0 →
        far ∨ (inOnly = true → c.writesLob val = false)))
      (arm (setInd 0) fun _ => .same rfl rfl rfl rfl rfl : NodeAct h s i true Unit)
      fun _ w => P w ∧ ((w.stmt s).arraySize = 0 →
        far ∨ (inOnly = true → c.writesLob val = false)) := by
    have hset : Spec P (arm (setInd 0) fun _ => .same rfl rfl rfl rfl rfl : NodeAct h s i true Unit)
        fun _ => P := armed_arm hA fun _ => .same rfl rfl rfl rfl rfl
    rintro w ⟨hw, hB⟩
    refine ⟨hset w hw, fun hS => hB ?_⟩
    rw [← hS]
    show _ = ((w.touch.setNode s i (setInd 0)).stmt s).arraySize
    rw [World.arraySize_setNode, World.touch_stmt]
  refine spec_bind set fun _ => armed_stmt hA fun S hB => spec_ite (fun _ => ?_) fun hS => ?_
  · exact spec_bind (armed_bindListValue c hA _ inOnly hbin) fun _ => kept_pure
  · have hlob := hB (of_not_not hS)
    rw [Setting.writesLob] at hlob
    split
    · exact spec_bind (armed_bindByPos hA) fun _ => kept_pure
    · exact spec_bind (armed_bindByPos hA) fun _ => kept_pure
    · rename_i t hr
      rw [hr] at hlob
      exact armed_bindStringValue c hA t inOnly hlob
    · exact armed_bindDateValue hA _
    · rename_i bytes hr
      rw [hr] at hlob hbin
      refine armed_bindBinaryValue hA _ inOnly (hbin.resolve_right fun h => Bool.false_ne_true h.symm) ?_
      exact hlob.imp_right fun hlob hin => of_decide_eq_false (hlob hin)
    · exact armed_bindWord hA _ rfl
    · exact spec_ite (fun _ => armed_bindWord hA _ rfl) fun _ => armed_bindNumberText hA
    · exact armed_bindNumberText hA
    · exact armed_bindWord hA _ rfl
    · exact armed_bindHashValue hA _
    · exact armed_raise hA _

lemma armed_bindArrayPlaceholder (n : OraBindNode) (size : ℕ) :
    Spec P (bindArrayPlaceholder .main n size : NodeAct h s i true Unit) fun _ => P := by
  refine spec_bind (armed_beginArray hA) fun _ => ?_
  cases outputClass n with
  | error e => exact armed_raise hA e
  | ok k =>
    refine spec_bind (armed_arm hA fun _ => .same rfl rfl rfl rfl rfl) fun _ =>
      spec_bind (spec_each fun _ _ => armed_arm hA (.withArraybind _)) fun _ => ?_
    exact spec_bind (armed_bindAs hA (.inr rfl)) fun _ => spec_bind (armed_checked hA _ _) fun _ =>
      kept_pure

lemma armed_bindStringPlaceholder (n : OraBindNode) :
    Spec P (bindStringPlaceholder .main c n : NodeAct h s i true Unit) fun _ => P := by
  have last : Spec P (do let _ ← bindByPos .main : NodeAct h s i true Unit) fun _ => P :=
    spec_bind (armed_bindByPos hA) fun _ => kept_pure
  refine spec_ite (fun _ => spec_bind (armed_arm hA fun _ => .same rfl rfl rfl rfl rfl) fun _ =>
    spec_bind (armed_setDtype hA (.inr rfl)) fun _ => ?_) fun _ =>
      spec_bind (armed_setDtype hA (.inr rfl)) fun _ => ?_
  all_goals
    refine spec_bind (armed_arm hA fun _ => .same rfl rfl rfl rfl rfl) fun _ =>
      spec_ite (fun _ => ?_) fun _ => last
    split
    · exact armed_raised hA _ _
    · exact last

lemma armed_bindDatePlaceholder (n : OraBindNode) :
    Spec P (bindDatePlaceholder .main c n : NodeAct h s i true Unit) fun _ => P := by
  have last : Spec P (do let _ ← bindDate .main : NodeAct h s i true Unit) fun _ => P :=
    spec_bind (armed_bindByPos hA) fun _ => kept_pure
  refine spec_then (armed_setupDate hA) kept_pure (spec_ite (fun _ => ?_) fun _ => last)
  exact spec_then (armed_dateTimeConstruct hA _) kept_pure last

lemma armed_bindLobPlaceholder {t : Dtype} (ht : isRaw t = false) (who : String) :
    Spec P (bindLobPlaceholder .main t who : NodeAct h s i true Unit) fun _ => P := by
  refine spec_bind (armed_setDtype hA (.inr ht)) fun _ =>
    spec_bind (armed_arm hA fun _ => .same rfl rfl rfl rfl rfl) fun _ =>
      spec_then (armed_checked hA _ _) kept_pure ?_
  exact spec_bind (armed_arm hA fun _ => .same rfl rfl rfl rfl rfl) fun _ =>
    spec_bind (armed_bindByPos hA) fun _ => kept_pure

lemma armed_bindNumberPlaceholder (n : OraBindNode) :
    Spec P (bindNumberPlaceholder .main c n : NodeAct h s i true Unit) fun _ => P := by
  have last : Spec P (do
      arm (ownBuf .cBuffer) (.ownBuf _)
      let _ ← bindByPos .main : NodeAct h s i true Unit) fun _ => P :=
    spec_bind (armed_arm hA fun _ => .same rfl rfl rfl rfl rfl) fun _ =>
      spec_bind (armed_bindByPos hA) fun _ => kept_pure
  refine spec_bind (armed_setDtype hA (.inr rfl)) fun _ =>
    spec_bind (armed_arm hA fun _ => .same rfl rfl rfl rfl rfl) fun _ =>
      spec_ite (fun _ => ?_) fun _ => last
  split
  · exact armed_raised hA _ _
  · exact last

lemma armed_bindResultPlaceholder (alt : Bool) :
    Spec P (bindResultPlaceholder .main alt : NodeAct h s i true Unit) fun _ => P := by
  refine spec_bind (armed_setDtype hA (.inr rfl)) fun _ => spec_then (armed_checked hA _ _) ?_ ?_
  · exact armed_arm hA fun _ => .same rfl rfl rfl rfl rfl
  refine spec_bind (armed_arm hA fun _ => .same rfl rfl rfl rfl rfl) fun _ =>
    spec_bind (armed_bindByPos hA) fun _ => spec_ite (fun _ => ?_) fun _ => kept_pure
  exact armed_arm hA fun _ => .same rfl rfl rfl rfl rfl

lemma armed_bindObjectPlaceholder (sub : Subdtype) (what : String) (n : OraBindNode) :
    Spec P (bindObjectPlaceholder .main sub what n : NodeAct h s i true Unit) fun _ => P := by
  have setup : Spec P (setupObject .main sub what n : NodeAct h s i true Bool) fun _ => P := by
    unfold setupObject
    split
    · exact armed_buildInto hA _ _
    · exact spec_ite (fun _ => armed_buildInto hA _ _) fun _ => armed_raised hA _ _
    · exact armed_raised hA _ _
  refine spec_bind (armed_arm hA fun _ => .same rfl rfl rfl rfl rfl) fun _ =>
    spec_bind (armed_setDtype hA (.inr rfl)) fun _ => spec_then setup kept_pure ?_
  exact spec_bind (armed_bindByPos hA) fun _ => spec_bind (armed_checked hA _ _) fun _ => kept_pure

lemma armed_bindBinaryPlaceholder (hfar : far) (n : OraBindNode) :
    Spec P (bindBinaryPlaceholder .main c n : NodeAct h s i true Unit) fun _ => P := by
  have setup : Spec P (setupRaw .main c n : NodeAct h s i true Bool) fun _ => P := by
    unfold setupRaw
    split
    · exact armed_raised hA _ _
    · refine spec_bind (armed_arm hA fun _ => .same rfl rfl rfl rfl rfl) fun _ => ?_
      exact armed_checked hA _ _
    · refine spec_ite (fun _ => armed_raised hA _ _) fun _ =>
        spec_bind (armed_arm hA fun _ => .same rfl rfl rfl rfl rfl) fun _ => ?_
      exact armed_checked hA _ _
  refine spec_bind (armed_setDtype hA (.inl (.inl hfar))) fun _ =>
    spec_bind (armed_arm hA fun _ => .same rfl rfl rfl rfl rfl) fun _ => spec_then setup kept_pure ?_
  exact spec_bind (armed_arm hA fun _ => .same rfl rfl rfl rfl rfl) fun _ =>
    spec_bind (armed_bindByPos hA) fun _ => kept_pure

lemma armed_bindPlaceholder (n : OraBindNode) :
    Spec (fun w => P w ∧ ((w.stmt s).arraySize = 0 → far ∨ n.isType "binary" = false))
      (bindPlaceholder .main c n : NodeAct h s i true Unit) fun _ => P := by
  refine armed_stmt hA fun S hB => spec_ite (fun _ => armed_bindArrayPlaceholder hA _ _) fun hS =>
    spec_ite (fun _ => armed_bindStringPlaceholder c hA n) fun _ =>
    spec_ite (fun _ => armed_bindDatePlaceholder c hA n) fun _ => spec_ite (fun hb => ?_) fun _ => ?_
  · refine armed_bindBinaryPlaceholder c hA ((hB (of_not_not hS)).resolve_right ?_) n
    exact ne_false_of_eq_true hb
  refine spec_ite (fun _ => armed_bindLobPlaceholder hA rfl _) fun _ =>
    spec_ite (fun _ => armed_bindLobPlaceholder hA rfl _) fun _ =>
    spec_ite (fun _ => armed_bindWord hA _ rfl) fun _ =>
    spec_ite (fun _ => armed_bindWord hA _ rfl) fun _ =>
    spec_ite (fun _ => armed_bindNumberPlaceholder c hA n) fun _ =>
    spec_ite (fun _ => armed_bindResultPlaceholder hA _) fun _ =>
    spec_ite (fun _ => armed_bindResultPlaceholder hA _) fun _ => ?_
  exact spec_ite (fun _ => armed_bindObjectPlaceholder hA _ _ n) fun _ =>
    spec_ite (fun _ => armed_bindObjectPlaceholder hA _ _ n) fun _ => armed_raise hA _

-- a value for a raw placeholder is bound to a raw buffer
lemma armed_bindAsCase (pos : ℕ) (n : OraBindNode) {a : ℕ} (hval : far ∨ n.isValue = v)
    (ha : a = 0 → far ∨ n.bindsChecked c = false) :
    Spec (fun w => P w ∧ ((w.stmt s).arraySize = 0 → far ∨ n.bindsChecked c = false))
      (bindAsCase .main c pos n (n.bindCase c a) : NodeAct h s i true Unit) fun _ => P := by
  cases hn : n.isValue with
  | true =>
    have hcase : n.bindCase c a = .value n.value true := if_pos hn
    have hlob : n.bindsChecked c = c.writesLob n.value := if_pos hn
    rw [hcase, hlob]
    refine spec_weaken (armed_bindValue c hA n.value true ?_) ?_ fun _ _ ht => ht
    · exact .inl (hval.imp_right fun hval => hval.symm.trans hn)
    · exact fun t ht => ⟨ht.1, fun hS => (ht.2 hS).imp_right fun hn _ => hn⟩
  | false =>
    have hraw : n.bindsChecked c = n.bindsRaw c := if_neg (ne_true_of_eq_false hn)
    rw [hraw] at ha ⊢
    cases hcase : n.bindCase c a with
    | refused e => exact spec_weaken (armed_raise hA _) (fun _ ht => ht.1) fun _ _ ht => ht
    | placeholder =>
      refine spec_weaken (armed_bindPlaceholder c hA n) (fun t ht => ⟨ht.1, fun hS => ?_⟩)
        fun _ _ ht => ht
      refine (ht.2 hS).imp_right fun hn => ?_
      rw [bindsRaw, Bool.or_eq_false_iff] at hn
      exact hn.1
    | value val inOnly =>
      obtain ⟨hsize, hnull, hinOut⟩ := bindCase_inOut hn hcase
      obtain ⟨rfl, hsend⟩ := inOutCase_sends hinOut
      have hbin : (far ∨ v = true) ∨ val.resolveIndirect.isBinary = false :=
        (ha hsize).imp Or.inl fun hraw => hsend.isBinary hn hnull hraw
      exact spec_weaken (armed_bindValue c hA val false hbin)
        (fun t ht => ⟨ht.1, fun _ => .inr fun h => absurd h Bool.false_ne_true⟩) fun _ _ ht => ht

lemma armed_bind (pos : ℕ) (hc : ∀ w, P w → w.setting = c)
    (hv : far ∨ ∀ w n, P w → w.node s i = some n → n.isValue = v) :
    Spec (fun w => P w ∧ (far ∨ (w.stmt s).Ready c)) (bind .main pos : NodeAct h s i true Unit)
      fun _ => P := by
  refine spec_node (fun w hw => ⟨hA.touch hw.1, w.touch_stmt s ▸ hw.2⟩) fun r => ?_
  cases r with
  | none => exact spec_pure fun w hw => hw.1.1
  | some n =>
    rintro w ⟨⟨hw, hready⟩, hn⟩
    have hval : far ∨ n.isValue = v := hv.imp_right fun hv => hv w n hw hn
    have hchecked (hS : (w.stmt s).arraySize = 0) : far ∨ n.bindsChecked c = false := by
      refine hready.imp_right fun hready => ?_
      have hall := hready hS
      rw [List.any_eq_false] at hall
      exact eq_false_of_ne_true (hall n (List.mem_of_getElem? hn))
    refine (?_ : Spec (fun t => P t ∧ ((t.stmt s).arraySize = 0 → far ∨ n.bindsChecked c = false)) _
      fun _ => P) w ⟨hw, hchecked⟩
    have known : Spec (fun t => P t ∧ ((t.stmt s).arraySize = 0 → far ∨ n.bindsChecked c = false))
        (setting : NodeAct h s i true Setting) fun r t =>
        r = c ∧ P t ∧ ((t.stmt s).arraySize = 0 → far ∨ n.bindsChecked c = false) :=
      fun t ht => ⟨hc t ht.1, ht⟩
    exact spec_bind_eq known (armed_readStmt hA fun S hS => armed_bindAsCase c hA pos n hval hS)

end Arming

end NodeAct

end OracleDriver
