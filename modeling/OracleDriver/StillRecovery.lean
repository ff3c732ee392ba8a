import OracleDriver.StillRelease

/-! The recovery of a session in a state in which no release makes a checked call: its errors nest
three levels deep. -/

namespace OracleDriver

open Act

variable {h : Handler} {b k : Bool} {e : Option (ℕ × ℕ)} {L : List ℕ} {w t : World} {α : Type}
  {l : Level} {s i : ℕ}

section Recover

variable (x : Sink)

lemma spec_lower {P : World → Prop} {Q : α → World → Prop} {m : Drv h .calm α} (hm : Spec P m Q) :
    Spec P (Drv.calm m : Drv h l α) Q := hm

lemma still_event (m : Event) (hm : m.kind = .session) (hl : l.has .session = true) :
    Spec (Still b k e L) (Drv.session m hm hl : Drv h l Unit) fun _ => Still b k e L :=
  fun _ hw => hw.emit m

lemma still_sessionEnded : Spec (Still b k e L)
    (Drv.move .session rfl World.sessionEnded .sessionEnded : Drv h .session Unit)
    fun _ => Still b k e L := fun _ hw => hw.plain rfl rfl rfl rfl

lemma still_logoff : Spec (Still b k none L) (logoff : Drv h .session Unit)
    fun _ => Still b k none L := by
  refine spec_bind (moved_oci still_speaks _) fun _ => spec_bind (moved_oci still_speaks _) fun _ => ?_
  exact spec_bind still_sessionEnded fun _ => still_conn _ _

lemma still_abandonSession : Spec (Still b k none L) (abandonSession : Drv h .session Unit)
    fun _ => Still b k none L :=
  spec_bind (moved_oci still_speaks _) fun _ => spec_bind still_sessionEnded fun _ => still_conn _ _

lemma still_finishes (hh : ∀ x who w, Still b k e L w → Still b k e L (h x who w)) :
    Finishes h (Still b k e L) where
  toTalks := still_talks hh
  finish hw := hw.plain rfl rfl rfl rfl
  load hm hw := by
    cases hm with
    | load m => exact hw.emit m
    | setBulk f =>
      refine ⟨hw.nodes, hw.columns, hw.stmtSet, hw.dsStmts, hw.logon, fun hk => ?_, hw.sound⟩
      show Option.map f _ = none
      rw [hw.idle hk]
      rfl
    | endLoad => exact ⟨hw.nodes, hw.columns, hw.stmtSet, hw.dsStmts, hw.logon, fun _ => rfl, hw.sound⟩
    | finish => exact hw.plain rfl rfl rfl rfl

namespace Still

lemma loosen (hw : Still b true e L w) : Still b k e L w :=
  ⟨hw.nodes, hw.columns, hw.stmtSet, hw.dsStmts, hw.logon, fun _ => hw.idle rfl, hw.sound⟩

lemma leave (hw : Still b k e L w) : Still false k e L w :=
  ⟨hw.nodes, hw.columns, hw.stmtSet, hw.dsStmts, nofun, hw.idle, hw.sound⟩

lemma setInLogon (hw : Still b k e L w) (v : Bool) : Still v k e L (w.setInLogon v) :=
  ⟨hw.nodes, hw.columns, hw.stmtSet, hw.dsStmts, fun hv => hv, hw.idle, hw.sound⟩

lemma lose (hw : Still b k e L w) : Still b k e L (w.setLost true) :=
  ⟨fun s hs i n hn he => (hw.nodes s hs i n hn he).lose, hw.columns, hw.stmtSet, hw.dsStmts,
    hw.logon, hw.idle, hw.sound⟩

end Still

-- the errors of a logon are not handled again
variable (hl : ∀ x who w, Still true k none L w → Still true k none L (h x who w))
include hl

lemma still_logon : Spec (Still false k none L) (logon x : Drv h .session Bool)
    fun _ => Still false k none L := by
  have begun (b v : Bool) : Spec (Still b k none L) (setInLogon v : Drv h .session Unit) fun _ =>
    Still v k none L :=
    spec_bind (moved_touch still_speaks) fun _ _ hw => hw.setInLogon v
  refine spec_bind (still_conn _ _) fun _ => spec_bind (begun false true) fun _ => ?_
  refine spec_bind (moved_setupSession x (still_talks hl) fun hw => hw.plain rfl rfl rfl rfl)
    fun failed => ?_
  exact spec_bind (begun true false) fun _ => spec_bind (still_event _ _ _) fun _ => carried_pure

-- while a load runs, closing its path is the only call that is checked
variable (hb : k = false → ∀ x who w, Still false true none L w → Still false true none L (h x who w))
include hb

omit hl in
lemma still_deleteConnection : Spec (Still false k none L) (deleteConnection : Drv h .recover Unit)
    fun _ => Still false k none L := by
  have close : Spec (Still false k none L)
      (Drv.move .session rfl World.close .close : Drv h .recover Unit) fun _ =>
        Still false k none L :=
    fun w hw => hw.plain rfl rfl rfl rfl
  have off : Spec (Still false k none L) (do
      Drv.up logoff
      Drv.move .session rfl World.close .close : Drv h .recover Unit) fun _ => Still false k none L :=
    spec_bind (spec_lift still_logoff) fun _ => close
  have endLoad : Spec (Still false k none L) (bulkLoadEnd .dropped false : Drv h .recover Bool)
      fun _ => Still false k none L := by
    cases k with
    | true =>
      have idle : Spec (Still false true none L) (bulk : Drv h .recover _) fun r t =>
        r = none ∧ Still false true none L t :=
        fun w hw => ⟨hw.touch.idle rfl, hw.touch⟩
      exact spec_bind_eq idle (spec_bind (moved_raise _ still_speaks _) fun _ => carried_pure)
    | false =>
      refine spec_bind (moved_bulk still_speaks) fun r => ?_
      cases r with
      | none => exact spec_bind (moved_raise _ still_speaks _) fun _ => carried_pure
      | some r =>
        refine spec_bind (Q := fun _ => Still false true none L) (fun w hw => ?_) fun _ => ?_
        · exact ⟨hw.nodes, hw.columns, hw.stmtSet, hw.dsStmts, hw.logon, fun _ => rfl, hw.sound⟩
        · refine spec_weaken (BulkLoadState.moved_terminate _ (still_finishes (hb rfl)) r false)
            (fun _ hw => hw) ?_
          exact fun _ _ hw => hw.loosen
  refine spec_bind (moved_bulk still_speaks) fun r => spec_ite (fun _ => ?_) fun _ => off
  exact spec_bind endLoad fun _ => off

omit hl in
lemma still_abortConnection : Spec (Still false k none L) (abortConnection x : Drv h .recover Unit)
    fun _ => Still false k none L := by
  have pend : Spec (Still false k none L)
      (Drv.move .session rfl (·.setAbortPending true) (.setAbortPending true) : Drv h .recover Unit)
      fun _ => Still false k none L :=
    fun w hw => hw.same rfl rfl (List.Subset.refl _) (List.Subset.refl _) rfl rfl rfl
  refine spec_bind (spec_lower (still_resetStatements x)) fun _ =>
    spec_bind (moved_conn still_speaks) fun c => ?_
  refine spec_bind (still_event _ _ _) fun _ => spec_ite (fun _ => pend) fun _ => ?_
  refine spec_bind (still_event _ _ _) fun _ =>
    spec_bind (spec_lower (still_connectionRecovered x)) fun _ => ?_
  exact still_deleteConnection hb

lemma still_receiveTimeout (who : String) (a : Answer) :
    Spec (Still false k none L) (receiveTimeout x who a : Drv h .recover Unit)
      fun _ => Still false k none L := by
  have clear : Spec (Still false k none L) (do
      Drv.calm (clearStatements x none)
      Drv.calm (connectionLost x)
      Drv.up abandonSession
      if ← Drv.up (logon x) then
        abortConnection x
      else
        Drv.calm (connectionRecovered x) : Drv h .recover Unit) fun _ => Still false k none L := by
    refine spec_bind (spec_lower (still_clearStatements x none nofun)) fun _ =>
      spec_bind (spec_lower (still_connectionLost x)) fun _ => ?_
    refine spec_bind (spec_lift still_abandonSession) fun _ =>
      carried_then (spec_lift (still_logon x hl)) ?_ ?_
    · exact still_abortConnection x hb
    · exact spec_lower (still_connectionRecovered x)
  have replace : Spec (Still false k none L) (do
      if !(← conn).lost then
        Drv.up (replaced none)
      Drv.calm (clearStatements x none)
      Drv.calm (connectionLost x)
      Drv.up abandonSession
      if ← Drv.up (logon x) then
        abortConnection x
      else
        Drv.calm (connectionRecovered x) : Drv h .recover Unit) fun _ => Still false k none L := by
    refine spec_bind (moved_conn still_speaks) fun c => spec_ite (fun _ => ?_) fun _ => clear
    exact spec_bind (Q := fun _ => Still false k none L) (fun w hw => hw.emit _) fun _ => clear
  refine spec_bind (still_event _ _ _) fun _ =>
    spec_bind (moved_doException x still_speaks _ _) fun _ => ?_
  refine spec_bind (moved_ask still_speaks _) fun t => spec_ite (fun _ => ?_) fun _ => replace
  exact spec_bind carried_account fun _ => spec_bind (moved_raise x still_speaks _) fun _ => replace

omit hl hb in
lemma still_sessionLost (who : String) (canRetry : Bool) (stmt : Option ℕ) (a : Answer)
    (hf : ∀ s, stmt = some s → s ∉ L → ∀ x who w,
      Still false k none L w → Still false k none L (h x who w)) :
    Spec (Still false k none L) (sessionLost x who canRetry stmt a : Drv h .session Unit)
      fun _ => Still false k none L := by
  have clear : Spec (Still false k none L) (do
      Drv.calm (clearStatements x stmt)
      Drv.calm (connectionLost x) : Drv h .session Unit) fun _ => Still false k none L :=
    spec_bind (spec_lower (still_clearStatements x stmt hf)) fun _ => spec_lower (still_connectionLost x)
  have replace : Spec (Still false k none L) (do
      if canRetry then
        replaced stmt
      Drv.calm (clearStatements x stmt)
      Drv.calm (connectionLost x) : Drv h .session Unit) fun _ => Still false k none L := by
    refine spec_ite (fun _ => ?_) fun _ => clear
    exact spec_bind (Q := fun _ => Still false k none L) (fun w hw => hw.emit _) fun _ => clear
  have lose : Spec (Still false k none L) (setLost true : Drv h .session Unit) fun _ =>
    Still false k none L :=
    spec_bind (moved_touch still_speaks) fun _ _ hw => hw.lose
  refine spec_bind lose fun _ => spec_bind (moved_ask still_speaks _) fun t =>
    spec_bind (still_event _ _ _) fun _ => ?_
  refine spec_ite (fun _ => ?_) fun _ => replace
  exact spec_bind carried_account fun _ => spec_bind (moved_raise x still_speaks _) fun _ => replace

lemma still_findLoss (who : String) (canRetry : Bool) (stmt : Option ℕ)
    (hf : ∀ s, stmt = some s → s ∉ L → ∀ x who w,
      Still false k none L w → Still false k none L (h x who w)) :
    Spec (Still false k none L) (findLoss x who canRetry stmt : Drv h .recover _)
      fun _ => Still false k none L := by
  refine spec_bind (moved_oci still_speaks _) fun a => spec_bind (moved_conn still_speaks) fun c =>
    spec_ite (fun _ => ?_) fun _ => ?_
  · exact spec_bind (moved_doException x still_speaks _ _) fun _ => carried_pure
  refine spec_ite (fun _ => spec_bind (still_receiveTimeout x hl hb _ _) fun _ => carried_pure)
    fun _ => ?_
  refine carried_then (moved_ping still_speaks a) ?_ ?_
  · exact spec_bind (moved_doException x still_speaks _ _) fun _ => carried_pure
  · exact spec_bind (spec_lift (still_sessionLost x _ _ _ _ hf)) fun _ => carried_pure

lemma still_handleFailed (who : String) :
    Spec (Still false k none L) (handleFailed x who : Drv h .recover Unit)
      fun _ => Still false k none L := by
  refine spec_bind (still_findLoss x hl hb who false none nofun) fun r => ?_
  cases r with
  | none => exact carried_pure
  | some a => exact spec_bind (moved_doException x still_speaks _ _) fun _ => still_abortConnection x hb

end Recover

-- an error while a session is being made is only raised
lemma spec_findLoss_logon {P : World → Prop} (hP : Asks P) (hi : ∀ w, P w → w.conn.inLogon = true)
    (x : Sink) (who : String)
    (canRetry : Bool) (stmt : Option ℕ) :
    Spec P (findLoss x who canRetry stmt : Drv h .recover (Option Answer))
      fun r t => r = none ∧ P t := by
  refine spec_bind (asks_oci hP _) fun a => reads_conn (fun _ hw => hP.touch hw) fun c =>
    spec_ite (fun _ => ?_) fun hc => ?_
  · refine spec_weaken (?_ : Spec P _ fun r t => r = none ∧ P t) (fun _ hw => hw.1) fun _ _ hw => hw
    exact spec_bind (spec_bind carried_account fun _ => asks_raise hP x _) fun _ =>
      spec_pure fun _ hw => ⟨rfl, hw⟩
  · exact fun t ht => absurd (ht.2 ▸ hi t ht.1) hc

lemma handler_inLogon {P : World → Prop} (hP : Asks P) (hi : ∀ w, P w → w.conn.inLogon = true)
    (n : ℕ) (x : Sink)
    (who : String) (w : World) (hw : P w) : P (handler (n + 1) x who w) := by
  have failed : Spec P (handleFailed x who : Drv (handler n) .recover Unit) fun _ => P :=
    spec_bind_eq (spec_findLoss_logon hP hi x who false none) carried_pure
  rw [handler_succ]
  exact failed w hw

lemma handler_logon (n : ℕ) (x : Sink) (who : String) (w : World) (hw : Still true k none L w) :
    Still true k none L (handler (n + 1) x who w) :=
  handler_inLogon still_asks (fun _ hw => hw.logon rfl) n x who w hw

lemma handler_unloaded (n : ℕ) (x : Sink) (who : String) (w : World) (hw : Still false true none L w) :
    Still false true none L (handler (n + 2) x who w) := by
  rw [handler_succ]
  refine still_handleFailed x (handler_logon n) ?_ who w hw
  intro hk
  cases hk

lemma handler_still (n : ℕ) (x : Sink) (who : String) (w : World) (hw : Still false false none L w) :
    Still false false none L (handler (n + 3) x who w) := by
  rw [handler_succ]
  exact still_handleFailed x (handler_logon (n + 1)) (fun _ => handler_unloaded n) who w hw

lemma findLoss_still (n : ℕ) (x : Sink) (who : String) (canRetry : Bool) (stmt : Option ℕ) :
    Spec (Still false false none L)
    (findLoss x who canRetry stmt : Drv (handler (n + 3)) .recover _) fun _ =>
      Still false false none L :=
  still_findLoss x (handler_logon (n + 2))
    (fun _ => handler_unloaded (n + 1)) who canRetry stmt fun _ _ _ => handler_still n

end OracleDriver
