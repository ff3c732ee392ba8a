import OracleDriver.RecoveryOwed
import OracleDriver.StillRebind

/-! How deep the handling of errors nests. -/

namespace OracleDriver

open Act
open OraBindNode (OwesRaw OwesLob BareLob)
open Stmt (NodeAt RawColumn)

variable {h : Handler} {b lost : Bool} {set : List ℕ} {s i : ℕ} {p r : Stmt → Prop} {w t : World}
  {α : Type} {l : Level}

section Walk

variable (hf : ∀ x who w, Frame w (h x who w)) (hE : ∀ x who w, Astir w → (h x who w).overflow = true)
  (hL : ∀ {lost set s p} x who w, Awaits true lost set s p w → Owed true lost set s p (h x who w))
  (x : Sink)

include hf

-- a step that fails ends the function
lemma or_failed (hl : Kind.drive ∉ l.kinds) {P Q : World → Prop} {m k : Drv h l Bool}
    (hm : Spec P m fun a t => t.overflow = true ∨ a = true ∧ Q t) :
    Spec P (m >>= fun a => if a = true then pure true else k)
      fun a t => t.overflow = true ∨ a = true ∧ Q t := by
  refine spec_bind hm fun a => spec_ite (fun _ => ?_) fun ha => ?_
  · exact spec_pure fun t ht => ht.imp id fun ht => ⟨rfl, ht.2⟩
  · exact fun t ht => .inl (spec_overflow hf hl k t (ht.resolve_right fun ht => ha ht.1))

include hL in
-- the first call of a logon times out
lemma awaits_logon : Spec (Awaits false lost set s p) (logon x : Drv h .session Bool) fun a t =>
    t.overflow = true ∨ a = true ∧ Awaits false lost set s p t := by
  have begun (a b : Bool) : Spec (Awaits a lost set s p) (setInLogon b : Drv h .session Unit)
      fun _ => Awaits b lost set s p :=
    fun w hw => ⟨hw.touch.oracle, rfl, hw.touch.lost, hw.touch.depth, hw.touch.stmtSet,
      hw.touch.reached, hw.touch.owed⟩
  have known : Spec (Awaits false lost set s p) (setSessionInfoKnown false : Drv h .session Unit)
      fun _ => Awaits false lost set s p :=
    fun w hw => hw.touch.same rfl rfl rfl rfl rfl rfl rfl
  have first (who : String) : Spec (Awaits true lost set s p)
      (attrSet x who : Drv h .session Bool) fun a t =>
      t.overflow = true ∨ a = true ∧ Awaits true lost set s p t := by
    intro w hw
    have ha : (w.touch.ask .attrSet).1 = timedOut := by
      show w.touch.oracle w.touch.tick = timedOut
      rw [hw.touch.oracle]
    show ((w.touch.ask .attrSet).2.checkerr h x (w.touch.ask .attrSet).1 who).2.overflow = true ∨
      ((w.touch.ask .attrSet).2.checkerr h x (w.touch.ask .attrSet).1 who).1 = true ∧
      Awaits true lost set s p ((w.touch.ask .attrSet).2.checkerr h x (w.touch.ask .attrSet).1 who).2
    rw [ha]
    exact (hL x who _ (Awaits.asks.ask _ hw.touch).touch).imp id fun ht => ⟨rfl, ht⟩
  have attach : Spec (Awaits true lost set s p) (serverAttach x : Drv h .session Bool) fun a t =>
      t.overflow = true ∨ a = true ∧ Awaits true lost set s p t := or_failed hf (by decide) (first _)
  refine spec_bind known fun _ => spec_bind (begun false true) fun _ => ?_
  refine spec_bind (or_failed hf (by decide) attach) fun a => spec_or hf (by decide) fun w hw => ?_
  right
  exact ⟨hw.1, (begun true false w hw.2).emit _⟩

include hE

section Cleared

variable (hp : ∀ S, p S → ¬S.Inert lost) (hpp : ∀ S, r S → p S)
  (hcl : Spec (Owed false lost set s p) (stmtClear x s : Drv h .calm Unit) fun _ =>
    Owed false lost set s r)
include hp hpp hcl

lemma owed_stmtClear (s' : ℕ) : Spec (Owed false lost set s p) (stmtClear x s' : Drv h .calm Unit)
    fun _ => Owed false lost set s p := by
  by_cases hs : s' = s
  · rw [hs]
    exact spec_weaken hcl (fun _ hw => hw) fun _ _ hw => hw.mono hpp
  · exact owed_stmtClear_other hf hE hp x hs

lemma owed_stmtClear_again (s' : ℕ) :
    Spec (Owed false lost set s r) (stmtClear x s' : Drv h .calm Unit)
      fun _ => Owed false lost set s r := by
  by_cases hs : s' = s
  · rw [hs]
    exact spec_weaken hcl (fun _ hw => hw.mono hpp) fun _ _ hw => hw
  · exact owed_stmtClear_other hf hE (fun S hS => hp S (hpp S hS)) x hs

lemma owed_clearStatements (hs : s ∈ set) :
    Spec (Owed false lost set s p) (clearStatements x none : Drv h .calm Unit)
      fun _ => Owed false lost set s r := by
  have start : Spec (Awaits false lost set s p) (clearStatements x none : Drv h .calm Unit)
      fun _ => Owed false lost set s r := by
    refine reads_conn (fun _ hw => hw.touch) fun c w hw => ?_
    refine spec_bind (spec_each_mem (owed_stmtClear hf hE x hp hpp hcl) hcl
      (owed_stmtClear_again hf hE x hp hpp hcl) ?_)
      (fun _ => carried_pure) w (.inr hw.1)
    rw [← hw.2, hw.1.stmtSet]
    exact hs
  rintro w (hw | hw)
  · exact .inl (spec_overflow hf (by decide) _ w hw)
  · exact start w hw

-- the statement that owes the release is cleared with the registered ones, or with those of the
-- Datasource
lemma exists_cleared : ∃ M : World → Prop,
    Spec (Owed false lost set s p) (clearStatements x none : Drv h .calm Unit) (fun _ => M) ∧
      Spec M (connectionLost x : Drv h .calm Unit) fun _ => Owed false lost set s r := by
  have again := owed_stmtClear_again hf hE x hp hpp hcl
  by_cases hs : s ∈ set
  · refine ⟨_, owed_clearStatements hf hE x hp hpp hcl hs, ?_⟩
    exact spec_bind (Q := fun _ => Owed false lost set s r) (fun _ hw => hw) fun a =>
      spec_each fun s' _ => again s'
  · refine ⟨Owed false lost set s p, ?_, ?_⟩
    · refine spec_bind (asks_conn Owed.asks) fun c => spec_bind (spec_each fun s' _ => ?_) fun _ =>
        carried_pure
      exact owed_stmtClear hf hE x hp hpp hcl s'
    · rintro w (hw | hw)
      · exact .inl (spec_overflow hf (by decide) _ w hw)
      · have hd : s ∈ w.setting.datasource.lost w.dsStmts :=
          (w.setting.datasource.lost_perm _).mem_iff.mpr (hw.reached.resolve_left hs)
        exact spec_each_mem (owed_stmtClear hf hE x hp hpp hcl) hcl again hd w (.inr hw)

end Cleared

section Reset

variable (hp : ∀ S, p S → ¬S.Inert lost)
  (hrs : ∀ set, Spec (Owed false lost set s p) (stmtReset x s : Drv h .calm Unit) fun _ t =>
    t.overflow = true)
include hp hrs

-- one turn of resetStatements() takes the first statement out of the set
lemma owed_resetFirst (s' : ℕ) (set : List ℕ) :
    Spec (Owed false lost (s' :: set) s p) (resetFirst x : Drv h .calm Unit) fun _ t =>
      t.overflow = true ∨ s' ≠ s ∧ Owed false lost (set.erase s') s p t := by
  have start : Spec (Awaits false lost (s' :: set) s p) (resetFirst x : Drv h .calm Unit) fun _ t =>
      t.overflow = true ∨ s' ≠ s ∧ Owed false lost (set.erase s') s p t := by
    refine reads_conn (fun _ hw => hw.touch) fun c w hw => ?_
    have hc : c.stmtSet = s' :: set := hw.2 ▸ hw.1.stmtSet
    rw [hc]
    by_cases hs : s' = s
    · rw [hs]
      left
      exact spec_bind (hrs _) (fun _ => spec_overflow hf (by decide) _) w (.inr (hs ▸ hw.1))
    · right
      have reset : Spec (Owed false lost (s' :: set) s p) (stmtReset x s' : Drv h .calm Unit) fun _ =>
          Owed false lost ((s' :: set).erase s') s p := owed_stmtReset_other hf hE hp x hs
      rw [List.erase_cons_head] at reset
      exact ⟨hs, spec_bind reset (fun _ => owed_deregister hs) w (.inr hw.1)⟩
  rintro w (hw | hw)
  · exact .inl (spec_overflow hf (by decide) _ w hw)
  · exact start w hw

lemma overflow_resetStatements (turns set : List ℕ) (hs : s ∈ set) (hl : set.length ≤ turns.length) :
    Spec (Owed false lost set s p) (Act.each (fun _ => resetFirst x) turns : Drv h .calm Unit)
      fun _ t => t.overflow = true := by
  induction turns generalizing set with
  | nil =>
    rw [List.length_nil, Nat.le_zero, List.length_eq_zero_iff] at hl
    rw [hl] at hs
    cases hs
  | cons a turns ih =>
    cases set with
    | nil => cases hs
    | cons s' set =>
      refine spec_bind (owed_resetFirst hf hE x hp hrs s' set) fun _ => ?_
      rintro w (hw | ⟨hne, hw⟩)
      · exact spec_overflow hf (by decide) _ w hw
      · refine ih (set.erase s') ?_ ?_ w hw
        · exact (List.mem_erase_of_ne (Ne.symm hne)).2 ((List.mem_cons.1 hs).resolve_left (Ne.symm hne))
        · exact Nat.le_trans (List.erase_sublist.length_le) (Nat.le_of_succ_le_succ hl)

-- the release is owed by a statement that is not registered
def Adrift (lost : Bool) (s : ℕ) (p : Stmt → Prop) (w : World) : Prop :=
  ∃ set, s ∉ set ∧ Owed false lost set s p w

lemma adrift_resetFirst : Spec (Adrift lost s p) (resetFirst x : Drv h .calm Unit)
    fun _ => Adrift lost s p := by
  rintro w ⟨set, hs, hw⟩
  cases set with
  | nil =>
    refine ⟨[], hs, ?_⟩
    have keep : Spec (Awaits false lost [] s p) (resetFirst x : Drv h .calm Unit) fun _ =>
        Owed false lost [] s p := by
      refine reads_conn (fun _ hw => hw.touch) fun c w hw => ?_
      have hc : c.stmtSet = [] := hw.2 ▸ hw.1.stmtSet
      rw [hc]
      exact .inr hw.1
    rcases hw with hw | hw
    · exact .inl (spec_overflow hf (by decide) _ w hw)
    · exact keep w hw
  | cons s' set =>
    rcases owed_resetFirst hf hE x hp hrs s' set w hw with ht | ⟨-, ht⟩
    · exact ⟨[], nofun, .inl ht⟩
    · exact ⟨set.erase s', fun hm => hs (List.mem_cons_of_mem _ (List.mem_of_mem_erase hm)), ht⟩

lemma overflow_connectionRecovered :
    Spec (Adrift lost s p) (connectionRecovered x : Drv h .calm Unit) fun _ t => t.overflow = true := by
  have reset : Spec (Adrift lost s p) (stmtReset x s : Drv h .calm Unit) fun _ t => t.overflow = true :=
    fun w ⟨set, _, hw⟩ => hrs set w hw
  have turn (s' : ℕ) : Spec (Adrift lost s p) (stmtReset x s' : Drv h .calm Unit) fun _ =>
      Adrift lost s p := by
    by_cases hs : s' = s
    · rw [hs]
      exact spec_weaken reset (fun _ hw => hw) fun _ _ ht => ⟨[], nofun, .inl ht⟩
    · rintro w ⟨set, hm, hw⟩
      exact ⟨set.erase s', fun h => hm (List.mem_of_mem_erase h),
        owed_stmtReset_other hf hE hp x hs w hw⟩
  rintro w ⟨set, hm, hw | hw⟩
  · exact spec_overflow hf (by decide) _ w hw
  · have hd : s ∈ w.setting.datasource.closed w.dsStmts :=
      (w.setting.datasource.closed_perm _).mem_iff.mpr (hw.reached.resolve_left hm)
    show ((Act.each (stmtReset x) (w.setting.datasource.closed w.dsStmts) :
      Drv h .calm Unit).run w).2.overflow = true
    exact spec_each_mem turn reset (fun _ => spec_overflow hf (by decide) _) hd w ⟨set, hm, .inr hw⟩

lemma overflow_abortConnection :
    Spec (Awaits false lost set s p) (abortConnection x : Drv h .recover Unit)
      fun _ t => t.overflow = true := by
  by_cases hs : s ∈ set
  · refine spec_bind (Q := fun _ t => t.overflow = true) (fun w hw => ?_) fun _ =>
      spec_overflow hf (by decide) _
    have hw' : Owed false lost set s p w.touch := .inr hw.touch
    refine overflow_resetStatements hf hE x hp hrs _ set hs ?_ w.touch hw'
    rw [List.length_range]
    show set.length ≤ w.touch.conn.stmtSet.length
    rw [hw.touch.stmtSet]
  · have closed : Spec (Adrift lost s p) (connectionAborted x : Drv h .recover Unit) fun _ t =>
        t.overflow = true := by
      refine spec_bind (Q := fun _ => Adrift lost s p)
        (fun w ⟨set, hm, hw⟩ => ⟨set, hm, hw.emit _⟩) fun _ => ?_
      exact spec_bind (spec_lower (overflow_connectionRecovered hf hE x hp hrs)) fun _ =>
        spec_overflow hf (by decide) _
    have last (set : List ℕ) (hm : s ∉ set) : Spec (Awaits false lost set s p) (do
        let c ← conn
        Drv.session (.lostForGood c.callDepth) rfl rfl
        if c.callDepth ≠ 0 then
          Drv.move .session rfl (·.setAbortPending true) (.setAbortPending true)
        else
          connectionAborted x : Drv h .recover Unit) fun _ t => t.overflow = true := by
      refine reads_conn (fun _ hw => hw.touch) fun c => ?_
      refine spec_bind (Q := fun _ t => Adrift lost s p t ∧ c.callDepth = 0) (fun t ht => ?_)
        fun _ => spec_ite (fun hc => ?_) fun _ => ?_
      · exact ⟨⟨set, hm, .inr (ht.1.emit _)⟩, ht.2 ▸ ht.1.depth⟩
      · exact fun t ht => absurd ht.2 hc
      · exact fun t ht => closed t ht.1
    have resets : Spec (Awaits false lost set s p) (resetStatements x : Drv h .calm Unit) fun _ =>
        Adrift lost s p := by
      refine spec_bind (Q := fun _ => Adrift lost s p) (fun w hw => ⟨set, hs, .inr hw.touch⟩) fun c => ?_
      exact spec_each fun _ _ => adrift_resetFirst hf hE x hp hrs
    refine spec_bind (spec_lower resets) fun _ => ?_
    rintro w ⟨set, hm, hw | hw⟩
    · exact spec_overflow hf (by decide) _ w hw
    · exact last set hm w hw

end Reset

include hL in
-- a session whose calls time out is cleared and made again, and is given up when the logon fails
lemma overflow_receiveTimeout (hp : ∀ S, p S → ¬S.Inert lost) (hpp : ∀ S, r S → p S)
    (hcl : Spec (Owed false lost set s p) (stmtClear x s : Drv h .calm Unit) fun _ =>
      Owed false lost set s r)
    (hrs : ∀ set, Spec (Owed false lost set s r) (stmtReset x s : Drv h .calm Unit) fun _ t =>
      t.overflow = true)
    (who : String) (a : Answer) :
    Spec (Awaits false lost set s p) (receiveTimeout x who a : Drv h .recover Unit) fun _ t =>
      t.overflow = true := by
  obtain ⟨M, hclear, hlost⟩ := exists_cleared hf hE x hp hpp hcl
  have abandon : Spec (Owed false lost set s r) (abandonSession : Drv h .session Unit) fun _ =>
      Owed false lost set s r := by
    refine spec_bind (asks_oci Owed.asks _) fun _ =>
      spec_bind (Q := fun _ => Owed false lost set s r) (fun w hw => ?_) fun _ w hw => ?_
    · exact hw.imp id fun hw => hw.plain rfl rfl rfl rfl
    · exact (Owed.asks.touch hw).imp id fun hw => hw.same rfl rfl rfl rfl rfl rfl rfl
  have again : Spec (Owed false lost set s r) (do
      if ← Drv.up (logon x) then
        abortConnection x
      else
        Drv.calm (connectionRecovered x) : Drv h .recover Unit) fun _ t => t.overflow = true := by
    have abort : Spec (Awaits false lost set s r) (abortConnection x : Drv h .recover Unit)
        fun _ t => t.overflow = true :=
      overflow_abortConnection hf hE x (fun S hS => hp S (hpp S hS)) hrs
    have start : Spec (Awaits false lost set s r) (do
        if ← Drv.up (logon x) then
          abortConnection x
        else
          Drv.calm (connectionRecovered x) : Drv h .recover Unit) fun _ t => t.overflow = true := by
      refine spec_bind (spec_lift (awaits_logon hf hL x)) fun r => spec_ite (fun _ => ?_) fun hr => ?_
      · rintro t (ht | ht)
        · exact spec_overflow hf (by decide) _ t ht
        · exact abort t ht.2
      · exact fun t ht => spec_overflow hf (by decide) _ t (ht.resolve_right fun ht => hr ht.1)
    rintro w (hw | hw)
    · exact spec_overflow hf (by decide) _ w hw
    · exact start w hw
  have clear : Spec (Owed false lost set s p) (do
      Drv.calm (clearStatements x none)
      Drv.calm (connectionLost x)
      Drv.up abandonSession
      if ← Drv.up (logon x) then
        abortConnection x
      else
        Drv.calm (connectionRecovered x) : Drv h .recover Unit) fun _ t => t.overflow = true :=
    spec_bind (spec_lower hclear) fun _ => spec_bind (spec_lower hlost) fun _ =>
      spec_bind (spec_lift abandon) fun _ => again
  have replace : Spec (Owed false lost set s p) (do
      if !(← conn).lost then
        Drv.up (replaced none)
      Drv.calm (clearStatements x none)
      Drv.calm (connectionLost x)
      Drv.up abandonSession
      if ← Drv.up (logon x) then
        abortConnection x
      else
        Drv.calm (connectionRecovered x) : Drv h .recover Unit) fun _ t => t.overflow = true := by
    refine spec_bind (asks_conn Owed.asks) fun c => spec_ite (fun _ => ?_) fun _ => clear
    exact spec_bind (Q := fun _ => Owed false lost set s p) (fun w hw => hw.emit _) fun _ => clear
  have said : Spec (Owed false lost set s p) (doException x who a : Drv h .recover Unit) fun _ =>
    Owed false lost set s p :=
    spec_bind carried_account fun _ => asks_raise Owed.asks x _
  refine spec_bind (Q := fun _ => Owed false lost set s p) (fun w hw => .inr (hw.emit _)) fun _ =>
    spec_bind said fun _ => ?_
  refine spec_bind (Q := fun _ => Owed false lost set s p) (fun w hw => Owed.asks.ask _ hw)
    fun t => spec_ite (fun _ => ?_) fun _ => replace
  exact spec_bind carried_account fun _ => spec_bind (asks_raise Owed.asks x _) fun _ => replace

include hL in
-- every error is the one of the receive timeout
lemma overflow_findLoss (hp : ∀ S, p S → ¬S.Inert lost) (hpp : ∀ S, r S → p S)
    (hcl : Spec (Owed false lost set s p) (stmtClear x s : Drv h .calm Unit) fun _ =>
      Owed false lost set s r)
    (hrs : ∀ set, Spec (Owed false lost set s r) (stmtReset x s : Drv h .calm Unit) fun _ t =>
      t.overflow = true) (who : String) :
    Spec (Awaits false lost set s p) (findLoss x who false none : Drv h .recover (Option Answer))
      fun _ t => t.overflow = true := by
  have asked : Spec (Awaits false lost set s p) (oci .errorGet : Drv h .recover Answer) fun a t =>
      a = timedOut ∧ Awaits false lost set s p t := by
    refine fun w hw => ⟨?_, hw.touch.plain rfl rfl rfl rfl⟩
    show w.touch.oracle w.touch.tick = timedOut
    rw [hw.touch.oracle]
  refine spec_bind_eq asked ?_
  refine reads_conn (fun _ hw => hw.touch) fun c => spec_ite (fun hc => ?_) fun _ => ?_
  · rintro t ⟨ht, rfl⟩
    rw [ht.logon] at hc
    cases hc
  · refine spec_bind (Q := fun _ t => t.overflow = true) (fun t ht => ?_) fun _ =>
      spec_pure fun _ ht => ht
    exact overflow_receiveTimeout hf hE hL x hp hpp hcl hrs who _ t ht.1

include hL in
lemma overflow_astir (who : String) (hw : Astir w) :
    ((findLoss x who false none : Drv h .recover (Option Answer)).run w).2.overflow = true := by
  obtain ⟨s, hs, hn⟩ := hw.owed
  have owes {p : Stmt → Prop} (hp : p (w.stmt s)) : Awaits false w.conn.lost w.conn.stmtSet s p w :=
    ⟨hw.oracle, hw.logon, rfl, hw.depth, rfl, hs, hp⟩
  rcases Stmt.not_inert_iff.1 hn with ⟨i, n, hi, hn⟩ | ⟨j, hj⟩
  · rcases OraBindNode.not_inert_iff.1 hn with hraw | ⟨hlob, hlost⟩
    · refine overflow_findLoss (r := NodeAt i fun _ => False) hf hE hL x
        (not_inert_raw i) ?_ ?_ ?_ who w (owes ⟨n, hi, hraw⟩)
      · exact fun S ⟨_, _, hr⟩ => hr.elim
      · refine owed_stmtClear_node hf hE x (not_inert_raw i) (fun _ hr => hr.elim) ?_
        rintro w (hw | hw)
        · exact .inl (NodeAct.spec_overflow hf _ w hw)
        · exact .inl (NodeAct.overflow_clear_raw hf hE x w hw)
      · rintro set w (hw | hw)
        · exact spec_overflow hf (by decide) _ w hw
        · exact hw.owed.choose_spec.2.elim
    · rw [hlost] at owes
      refine overflow_findLoss (r := NodeAt i BareLob) hf hE hL x (not_inert_lob i) ?_ ?_
        (fun set => ?_) who w (owes ⟨n, hi, hlob⟩)
      · exact fun S ⟨n, hn, hb⟩ => ⟨n, hn, hb.toOwesLob⟩
      · exact owed_stmtClear_node hf hE x (not_inert_lob i)
          (fun _ hb => hb.toOwesLob) (NodeAct.owed_clear_lob hf hE x)
      · refine overflow_stmtReset hf hE x
          (fun S ⟨n, hn, hb⟩ => not_inert_lob i S ⟨n, hn, hb.toOwesLob⟩) ?_
        exact NodeAct.overflow_reset_lob hf hE x
  · refine overflow_findLoss (r := fun _ => False) hf hE hL x not_inert_rawColumn
      (fun _ hr => hr.elim) (fun t ht => ?_) ?_ who w (owes hj)
    · exact .inl (overflow_stmtClear_column hf hE x t ht)
    · rintro set w (hw | hw)
      · exact spec_overflow hf (by decide) _ w hw
      · exact hw.owed.elim

end Walk

-- what is known of the statements at an error that can be of any call, with any answers to come
structure SameStatements (w t : World) : Prop where
  setting : t.setting = w.setting
  stmts : t.stmts = w.stmts
  stmtSet : t.conn.stmtSet = w.conn.stmtSet
  dsStmts : t.dsStmts = w.dsStmts
  lost : t.conn.lost = w.conn.lost
  inLogon : t.conn.inLogon = w.conn.inLogon
  sound : t.overflow = false

-- `n` levels of handleError() are enough for the error of a call that is checked
def EndsWithin (n : ℕ) (w : World) : Prop :=
  ∀ t, SameStatements w t → ∀ x who, (handler n x who t).overflow = false

-- the same for a call that can be made again, in a new session to which the statements are bound
def RetryEndsWithin (n : ℕ) (w : World) : Prop :=
  ∀ t, SameStatements w t → ∀ who canRetry stmt,
    ((handleError .main who canRetry stmt : Drv (handler n) .retry Bool).run t).2.overflow = false

namespace World

-- the registered statements and those of the Datasource
def Reached (w : World) (s : ℕ) : Prop := s ∈ w.conn.stmtSet ∨ s ∈ w.dsStmts

-- no statement that the recovery reaches makes a checked call in its release
def Inert (w : World) : Prop := ∀ s, w.Reached s → (w.stmt s).Inert w.conn.lost

-- and none is bound to anything whose release makes one
def BindsBare (w : World) : Prop :=
  ∀ s, w.Reached s → (w.stmt s).bindsChecked w.setting = false ∧
    ∀ n ∈ (w.stmt s).nodeList, n.isValue = true → n.strLobs = []

end World

lemma SameStatements.still (ht : SameStatements w t) (hw : w.Inert) :
    Still false false none (w.conn.stmtSet ++ w.dsStmts) t where
  nodes s hs i n hn _ := by
    rw [World.node, World.stmt, ht.stmts] at hn
    rw [ht.lost]
    exact (hw s (List.mem_append.1 hs)).nodes n (List.mem_of_getElem? hn)
  columns s hs := by
    rw [World.stmt, ht.stmts]
    exact (hw s (List.mem_append.1 hs)).columns
  stmtSet := by
    rw [ht.stmtSet]
    exact List.subset_append_left _ _
  dsStmts := by
    rw [ht.dsStmts]
    exact List.subset_append_right _ _
  logon := nofun
  idle := nofun
  sound := ht.sound

lemma endsWithin_inert (hw : w.Inert) : EndsWithin 3 w :=
  fun t ht x who => (handler_still 0 x who t (ht.still hw)).sound

lemma retryEndsWithin_bare (hw : w.Inert) (hb : w.BindsBare) : RetryEndsWithin 3 w := by
  intro t ht who canRetry stmt
  have hnode (s i : ℕ) : t.node s i = w.node s i := by rw [World.node, World.stmt, ht.stmts]; rfl
  have hlobless : Lobless (w.conn.stmtSet ++ w.dsStmts)
      (fun s i => (w.node s i).elim false OraBindNode.isValue) t := by
    constructor
    · intro s _ i n hn
      rw [hnode] at hn
      rw [hn]
      rfl
    · intro s hs i n hn
      rw [hnode] at hn
      exact (hb s (List.mem_append.1 hs)).2 n (List.mem_of_getElem? hn)
  refine (still_handleError 0 who canRetry stmt t ⟨⟨ht.still hw, hlobless, ht.setting⟩, ?_⟩).sound
  intro s hs
  rw [World.stmt, ht.stmts]
  exact (hb s (List.mem_append.1 hs)).1

lemma asks_inLogon : Asks fun u : World => u.conn.inLogon = true ∧ u.overflow = false := by
  refine ⟨fun {u} hu => ?_, fun _ hu => hu, fun {u} x e hu => ?_⟩
  · unfold World.touch
    split <;> exact hu
  · cases x <;> exact hu

section Logon

variable (hw : w.conn.inLogon = true)
include hw

lemma endsWithin_inLogon : EndsWithin 3 w := by
  intro t ht x who
  exact (handler_inLogon asks_inLogon (fun _ hu => hu.1) 2 x who t ⟨ht.inLogon.trans hw, ht.sound⟩).2

lemma retryEndsWithin_inLogon : RetryEndsWithin 3 w := by
  intro t ht who canRetry stmt
  have found : Spec (fun u : World => u.conn.inLogon = true ∧ u.overflow = false)
      (findLoss .main who canRetry stmt : Drv (handler 3) .recover (Option Answer))
      fun r u => r = none ∧ u.conn.inLogon = true ∧ u.overflow = false :=
    spec_findLoss_logon asks_inLogon (fun _ hu => hu.1) .main who canRetry stmt
  have handled : Spec (fun u : World => u.conn.inLogon = true ∧ u.overflow = false)
      (handleError .main who canRetry stmt : Drv (handler 3) .retry Bool) fun _ u =>
        u.overflow = false :=
    spec_bind_eq (spec_lift found) (spec_pure fun _ hu => hu.2)
  exact handled t ⟨ht.inLogon.trans hw, ht.sound⟩

end Logon

lemma handler_logon_owed (n : ℕ) (x : Sink) (who : String) (w : World)
    (hw : Awaits true lost set s p w) :
    Owed true lost set s p (handler n x who w) := by
  cases n with
  | zero => exact .inl rfl
  | succ n => exact .inr (handler_inLogon Awaits.asks (fun _ hw => hw.logon) n x who w hw)

lemma overflow_handler (n : ℕ) : ∀ x who w, Astir w → (handler n x who w).overflow = true := by
  induction n with
  | zero => exact fun _ _ _ _ => rfl
  | succ n ih =>
    intro x who w hw
    rw [handler_succ]
    have found := overflow_astir (handler_frame n) ih (handler_logon_owed n) x who hw
    exact spec_bind (P := (· = w)) (Q := fun _ t => t.overflow = true) (fun t ht => ht ▸ found)
      (fun _ => spec_overflow (handler_frame n) (by decide) _) w rfl

-- the same statements, when every call times out and no call of the Datasource is open
def World.timedOut (w : World) : World :=
  { w with
    oracle := fun _ => OracleDriver.timedOut
    conn := { w.conn with callDepth := 0 }
    overflow := false }

lemma inert_of_ends {n : ℕ}
    (hn : ∀ t, SameStatements w t → (handler n .main "" t).overflow = false)
    (hlogon : w.conn.inLogon = false) : w.Inert := by
  by_contra hinert
  have hastir : Astir w.timedOut := by
    refine ⟨rfl, hlogon, rfl, ?_⟩
    by_contra hs
    exact hinert fun s hr => by_contra fun hi => hs ⟨s, hr, hi⟩
  have hsound := hn w.timedOut ⟨rfl, rfl, rfl, rfl, rfl, rfl, rfl⟩
  rw [overflow_handler n .main "" w.timedOut hastir] at hsound
  cases hsound

/-- The handling of the error of a checked call ends, within a depth that the statements present at
the first error bound, exactly when the error is one of a logon or no statement that the recovery
reaches makes a checked call in its release; and so does that of a call that is made again, when no
statement is bound to what makes one. -/
theorem recovery_ends (w : World) :
    ((∃ n, EndsWithin n w) ↔ w.conn.inLogon = true ∨ w.Inert) ∧
      (w.conn.inLogon = true ∨ w.Inert ∧ w.BindsBare → ∃ n, RetryEndsWithin n w) ∧
      ((∃ n, RetryEndsWithin n w) → w.conn.inLogon = true ∨ w.Inert) := by
  have hends {n : ℕ} (hn : ∀ t, SameStatements w t → (handler n .main "" t).overflow = false) :
      w.conn.inLogon = true ∨ w.Inert := by
    rcases Bool.eq_false_or_eq_true w.conn.inLogon with hlogon | hlogon
    · exact .inl hlogon
    · exact .inr (inert_of_ends hn hlogon)
  refine ⟨⟨fun ⟨n, hn⟩ => hends fun t ht => hn t ht .main "", ?_⟩, ?_, fun ⟨n, hn⟩ => ?_⟩
  · rintro (hw | hw)
    · exact ⟨3, endsWithin_inLogon hw⟩
    · exact ⟨3, endsWithin_inert hw⟩
  · rintro (hw | ⟨hw, hb⟩)
    · exact ⟨3, retryEndsWithin_inLogon hw⟩
    · exact ⟨3, retryEndsWithin_bare hw hb⟩
  · have hlast : ∀ t, SameStatements w t → (handler (n + 1) .main "" t).overflow = false :=
      fun t ht => hn t ht "" false none
    exact hends hlast

-- a character set in which a text of one character is bound as a temporary LOB
def wideSetting : Setting := { plainSetting with byteSize := fun t => 5000 * t.length }

-- a query that has been prepared with a long value and defined
def boundLob : World :=
  (World.start wideSetting fun i => if i < 9 then ⟨.success, 0, "", 0, false⟩ else ⟨.noData, 0, "",
    0, false⟩).run 1 1
    [.call (.stmtPrepare ⟨"select %v from dual".toList, 0⟩ (some [.string ⟨['a'], 0⟩])),
      .call (.stmtDefine 0)]

theorem not_recovery_ends_lob : ¬∃ n, EndsWithin n boundLob := by
  rintro ⟨n, hn⟩
  have hset : 0 ∈ boundLob.conn.stmtSet := by decide
  have hlob : (boundLob.node 0 0).any fun n => n.isValue && n.dtype != .unset && n.strLobs != [] :=
    by decide
  obtain ⟨m, hm, hm'⟩ := (Option.any_eq_true _ _).1 hlob
  simp only [Bool.and_eq_true, bne_iff_ne, ne_eq] at hm'
  have hinert := inert_of_ends (fun t ht => hn t ht .main "") (by decide) 0 (.inl hset)
  have hlost := (hinert.nodes m (List.mem_of_getElem? hm)).lob hm'.1.1 hm'.1.2 hm'.2
  exact absurd hlost (by decide)

end OracleDriver
