import OracleDriver.DriverWalk

/-! The connection is deleted once, when the outermost call ends, as long as no session is given up
outside a guard. -/

namespace OracleDriver

open Act Trace

-- `d` calls are open, nothing has used a deleted connection, and `a` times one was deleted
structure Sheltered (d a : ℕ) (w : World) : Prop where
  alive : w.alive = true
  stray : w.stray = false
  depth : w.conn.callDepth = d
  pending : w.conn.abortPending = true → d ≠ 0
  aborts : w.log.count .aborted = a

-- the session was given up in a call without a guard
def Exposed (w : World) : Prop := .lostForGood 0 ∈ w.log

def Safe (d a : ℕ) (w : World) : Prop := Exposed w ∨ Sheltered d a w

variable {h : Handler} {w t : World} {d a : ℕ} {α : Type}

lemma Exposed.extend (hw : Exposed w) {Q : Event → Prop} (ht : Adds World.log Q w t) : Exposed t := by
  obtain ⟨l, hl, -⟩ := ht
  rw [Exposed, hl]
  exact List.mem_append_right l hw

lemma Sheltered.same (hw : Sheltered d a w) (ha : t.alive = w.alive) (hs : t.stray = w.stray)
    (hd : t.conn.callDepth = w.conn.callDepth) (hp : t.conn.abortPending = w.conn.abortPending)
    (hl : t.log.count .aborted = w.log.count .aborted) : Sheltered d a t where
  alive := ha.trans hw.alive
  stray := hs.trans hw.stray
  depth := hd.trans hw.depth
  pending hp' := hw.pending (hp ▸ hp')
  aborts := hl.trans hw.aborts

-- what neither the log nor the connection of the world shows
lemma Safe.same (hw : Safe d a w) (ha : t.alive = w.alive) (hs : t.stray = w.stray)
    (hd : t.conn.callDepth = w.conn.callDepth) (hp : t.conn.abortPending = w.conn.abortPending)
    (hl : t.log = w.log) :
    Safe d a t := by
  obtain hw | hw := hw
  · left
    rw [Exposed, hl]
    exact hw
  · exact .inr (hw.same ha hs hd hp (by rw [hl]))

lemma Safe.note (hw : Safe d a w) {e : Event} (he : e ≠ .aborted) (ha : t.alive = w.alive)
    (hs : t.stray = w.stray)
    (hd : t.conn.callDepth = w.conn.callDepth) (hp : t.conn.abortPending = w.conn.abortPending)
    (hl : t.log = e :: w.log) :
    Safe d a t := by
  obtain hw | hw := hw
  · left
    rw [Exposed, hl]
    exact List.mem_cons_of_mem e hw
  · exact .inr (hw.same ha hs hd hp (by rw [hl, List.count_cons_of_ne he]))

lemma Safe.touch (hw : Safe d a w) : Safe d a w.touch := by
  obtain hw | hw := hw
  · left
    rw [Exposed, w.touch_log]
    exact hw
  · right
    rw [World.touch, if_pos hw.alive]
    exact hw

lemma Safe.emit (hw : Safe d a w) {e : Event} (he : e ≠ .aborted) : Safe d a (w.emit e) :=
  hw.note he rfl rfl rfl rfl rfl

lemma Safe.ask (hw : Safe d a w) (c : Call) : Safe d a (w.ask c).2 :=
  hw.note (e := .called c _) nofun rfl rfl rfl rfl rfl

lemma Safe.raise (hw : Safe d a w) (x : Sink) (e : Exn) : Safe d a (w.raise x e) := by
  cases x <;> exact hw.same rfl rfl rfl rfl rfl

lemma safe_load (hm : Move h .load w t) (hw : Safe d a w) : Safe d a t := by
  cases hm with
  | load e _ he =>
    refine hw.emit ?_
    rintro rfl
    cases he
  | setBulk | endLoad => exact hw.same rfl rfl rfl rfl rfl
  | finish => exact hw.note (e := .finished _) nofun rfl rfl rfl rfl rfl

section Moves

variable (hs : ∀ x who w, Safe d a w → Safe d a (h x who w))
include hs

lemma tends_safe : Tends h (Safe d a) where
  same hw hc hl ha hs := hw.same ha hs (by rw [hc]) (by rw [hc]) hl
  touch hw := hw.touch
  ask c hw := hw.ask c
  emit e he hw := by
    refine hw.emit ?_
    rintro rfl
    exact absurd he (by decide)
  conn f hf hw := hw.same rfl rfl (hf _).callDepth (hf _).abortPending rfl
  handle x who hw := hs x who _ hw

lemma loadable_safe : Loadable h (Safe d a) where
  toMoved := (tends_safe hs).moved
  fill _ _ hw := hw.same rfl rfl rfl rfl rfl
  finish {w} hw := hw.note (e := .finished (w.oracle w.tick)) nofun rfl rfl rfl rfl rfl
  load hm hw := safe_load hm hw

variable (hh : ∀ x who w, Extends Level.recover.logs w (h x who w))

omit hs in
include hh in
lemma exposed_kept {l : Level} (m : Drv h l α) : Spec Exposed m fun _ => Exposed :=
  fun w hw => hw.extend (Drv.adds hh m w).adds

include hh

lemma safe_abort (x : Sink) : Spec (Safe d a) (abortConnection x : Drv h .recover Unit)
    fun _ => Safe d a := by
  have hreset : Spec (Safe d a) (Drv.calm (resetStatements x) : Drv h .recover Unit) fun _ => Safe d a :=
    spec_calm (tends_safe hs).moved.calm (resetStatements x)
  refine spec_bind hreset fun _ => ?_
  rintro w (hw | hw)
  · exact .inl (exposed_kept hh _ w hw)
  have htouch : w.touch = w := if_pos hw.alive
  let rest (k : ℕ) : Drv h .recover Unit :=
    if k ≠ 0 then
      Drv.move .session rfl (·.setAbortPending true) (.setAbortPending true)
    else
      connectionAborted x
  show Safe d a
    ((rest w.touch.conn.callDepth).run (w.touch.emit (.lostForGood w.touch.conn.callDepth))).2
  rw [htouch, hw.depth]
  cases d with
  | zero =>
    exact .inl (exposed_kept hh (rest 0) _ (List.mem_cons_self : Exposed (w.emit (.lostForGood 0))))
  | succ d =>
    right
    refine ⟨hw.alive, hw.stray, hw.depth, fun _ => Nat.succ_ne_zero d, ?_⟩
    show (Event.lostForGood (d + 1) :: w.log).count .aborted = a
    rw [List.count_cons_of_ne (by nofun), hw.aborts]

lemma carried_safe : Carried h (Safe d a) where
  toMoved := (loadable_safe hs).toMoved
  bind hm hw := (tends_safe hs).move hm (.inr (.inl rfl)) hw
  retry hm hw := (tends_safe hs).move hm (.inr (.inr rfl)) hw
  event _ _ ha _ hw := hw.emit ha
  lose hw := hw.same rfl rfl rfl rfl rfl
  recover hw := hw.same rfl rfl rfl rfl rfl
  setInLogon _ hw := hw.same rfl rfl rfl rfl rfl
  sessionEnded hw := hw.same rfl rfl rfl rfl rfl
  sessionBegun hw := hw.same rfl rfl rfl rfl rfl
  register _ hw := hw.same rfl rfl rfl rfl rfl
  stmtExecute {w} s n hw :=
    hw.note (e := .executed s n (w.oracle w.tick) (w.pending .main)) nofun rfl rfl rfl rfl rfl
  newStatement hw := hw.same rfl rfl rfl rfl rfl
  addStatement _ hw := hw.same rfl rfl rfl rfl rfl
  endLoad x success := moved_bulkLoadEnd x (loadable_safe hs).toFinishes success
  abort := safe_abort hs hh

end Moves

lemma handler_safe (n : ℕ) : ∀ x who w, Safe d a w → Safe d a (handler n x who w) := by
  induction n with
  | zero => exact fun x who w hw => (hw.raise x _).same rfl rfl rfl rfl rfl
  | succ n ih => exact fun x who w hw =>
      carried_handleError x (carried_safe ih (handler_adds n)) who false none w hw

lemma handler_carried (n : ℕ) : Carried (handler n) (Safe d a) :=
  carried_safe (handler_safe n) (handler_adds n)

-- the connection is deleted, and nothing used it after that
structure Gone (w : World) : Prop where
  alive : w.alive = false
  stray : w.stray = false
  aborts : w.log.count .aborted = 1

variable (m n : ℕ) (x : Sink)

lemma safe_connectionAborted :
    Spec (Safe 0 0) (connectionAborted x : Drv (handler m) .recover Unit)
      fun _ w => Exposed w ∨ Gone w := by
  have hc : Carried (handler m) (Safe 0 1) := handler_carried m
  have aborted : Spec (Safe 0 0) (Drv.session .aborted rfl rfl : Drv (handler m) .recover Unit)
      fun _ => Safe 0 1 := by
    rintro w (hw | hw)
    · exact .inl (List.mem_cons_of_mem _ hw)
    · refine .inr ⟨hw.alive, hw.stray, hw.depth, hw.pending, ?_⟩
      show (Event.aborted :: w.log).count .aborted = 1
      rw [List.count_cons_self, hw.aborts]
  have close : Spec (Safe 0 1) (do
      Drv.up logoff
      Drv.move .session rfl World.close .close : Drv (handler m) .recover Unit) fun _ w =>
        Exposed w ∨ Gone w := by
    refine spec_bind (spec_lift (carried_logoff hc)) fun _ => ?_
    rintro w (hw | hw)
    · exact .inl hw
    · exact .inr ⟨rfl, hw.stray, hw.aborts⟩
  refine spec_bind aborted fun _ => spec_bind (moved_lower hc.toMoved (connectionRecovered x))
    fun _ => ?_
  refine spec_bind (moved_bulk hc.toSpeaks) fun b => spec_ite (fun _ => ?_) fun _ => close
  exact spec_bind (hc.endLoad .dropped false) fun _ => close

-- what holds between two calls
def Fine (w : World) : Prop := Exposed w ∨ (∃ d, Sheltered d 0 w) ∨ Gone w

lemma Safe.fine (hw : Safe d 0 w) : Fine w := hw.imp_right fun hw => .inl ⟨d, hw⟩

lemma safe_enter : Spec (Safe d a) (enter : Drv h .all Unit) fun _ => Safe (d + 1) a := by
  intro w hw
  have ht := hw.touch
  show Safe (d + 1) a (w.touch.setCallDepth (w.touch.conn.callDepth + 1))
  obtain ht | ht := ht
  · exact .inl ht
  · exact .inr ⟨ht.alive, ht.stray, congrArg (· + 1) ht.depth, fun _ => Nat.succ_ne_zero d, ht.aborts⟩

lemma fine_leave : Spec (Safe d 0) (leave x : Drv (handler m) .all Unit) fun _ => Fine := by
  intro w hw
  have ht := hw.touch
  show Fine (((if w.touch.conn.callDepth - 1 = 0 ∧ w.touch.conn.abortPending = true then do
      Drv.move .session rfl (·.setAbortPending false) (.setAbortPending false)
      Drv.up (connectionAborted x)
    else pure () : Drv (handler m) .all Unit).run (w.touch.setCallDepth (w.touch.conn.callDepth - 1))).2)
  generalize w.touch = t at ht ⊢
  obtain ht | ht := ht
  · exact .inl (exposed_kept (handler_adds m) _ _ ht)
  rw [ht.depth, Act.run_ite]
  split
  · rename_i hend
    have hsafe : Safe 0 0 ((t.setCallDepth (d - 1)).setAbortPending false) :=
      .inr ⟨ht.alive, ht.stray, hend.1, by rintro ⟨⟩, ht.aborts⟩
    exact (safe_connectionAborted m x _ hsafe).imp_right .inr
  · rename_i hend
    refine .inr (.inl ⟨d - 1, ht.alive, ht.stray, rfl, fun hp hd => hend ⟨hd, hp⟩, ht.aborts⟩)

lemma fine_guarded {body : Drv (handler m) .all Unit}
    (hb : ∀ d, Spec (Safe d 0) body fun _ => Safe d 0) :
    Spec (Safe d 0) (guarded x body) fun _ => Fine :=
  spec_bind safe_enter fun _ => spec_bind (hb _) fun _ => fine_leave m x

lemma fine_call (e : Entry) : Spec (Safe d 0) (e.call x n : Drv (handler m) .all Unit)
    fun _ => Fine := by
  have hc (d : ℕ) : Carried (handler m) (Safe d 0) := handler_carried m
  have hl : Loadable (handler m) (Safe d 0) := loadable_safe (handler_safe m)
  have bare {body : Drv (handler m) .all Unit} (hb : Spec (Safe d 0) body fun _ => Safe d 0) :
      Spec (Safe d 0) body fun _ => Fine := fun w hw => (hb w hw).fine
  refine carried_call x n (fun body hb => fine_guarded m x fun d => hb _ (hc d))
    (fun body hb => bare (hb _ (hc d))) ?_ ?_ e
  · intro table columns o
    have begins (b : BulkLoadState) : Spec (Safe d 0) (do
        BulkStream.begun b.stream
        Drv.move .drive Level.has_drive (·.beginLoad b) (.beginLoad b) : Drv (handler m) .all Unit)
          fun _ => Safe d 0 := by
      have begun : Spec (Safe d 0) (BulkStream.begun b.stream : Drv (handler m) .all Unit) fun _ =>
        Safe d 0 :=
        spec_ite (fun _ _ hw => hw.emit nofun) fun _ => carried_pure
      exact spec_bind begun fun _ w hw => hw.note (e := .loadBegun) nofun rfl rfl rfl rfl rfl
    exact bare (spec_bind (carried_bulkLoadBegin x (hc d) begins _ _ _) fun _ => carried_pure)
  · intro rows
    have fills : Spec (Safe d 0) (bulkLoadRows x rows : Drv (handler m) .recover Bool) fun _ =>
        Safe d 0 := by
      apply moved_bulkLoadRows x hl.toSpeaks
      · exact BulkLoadState.moved_loadRows x hl.toFills (BulkLoadState.moved_loadBlock x hl)
      · exact fun _ hw => hw.emit nofun
    exact bare (spec_bind (spec_lift fills) fun _ => carried_pure)

lemma fine_step (o : Op) (hw : Fine w) : Fine (w.step m n o) := by
  unfold World.step
  split
  · rename_i halive
    obtain hw | ⟨d, hw⟩ | hw := hw
    · exact .inl (exposed_kept (handler_adds m) _ _ hw)
    · have hstart : Safe d 0 { w with xsink := [] } :=
        .inr ⟨hw.alive, hw.stray, hw.depth, hw.pending, hw.aborts⟩
      cases o with
      | enter => exact (safe_enter _ hstart).fine
      | leave => exact fine_leave m .main _ hstart
      | call e => exact fine_call m n .main e _ hstart
    · rw [hw.alive] at halive
      cases halive
  · exact hw

lemma fine_run (ops : List Op) (hw : Fine w) : Fine (w.run m n ops) := by
  induction ops generalizing w with
  | nil => exact hw
  | cons o ops ih => exact ih (fine_step m n o hw)

-- no call uses the connection after it was deleted, and it is deleted once
def Guarded (w : World) : Prop := w.stray = false ∧ w.log.count .aborted ≤ 1

/-- In a run in which no session is given up outside a guard, the connection is deleted at most
once, after its last use. -/
theorem calls_guarded (c : Setting) (oracle : ℕ → Answer) (ops : List Op)
    (hg : .lostForGood 0 ∉ ((World.start c oracle).run m n ops).log) :
    Guarded ((World.start c oracle).run m n ops) := by
  have hstart : Fine (World.start c oracle) := .inr (.inl ⟨0, rfl, rfl, rfl, nofun, rfl⟩)
  obtain hw | ⟨d, hw⟩ | hw := fine_run m n ops hstart
  · exact absurd hw hg
  · exact ⟨hw.stray, hw.aborts.le.trans zero_le_one⟩
  · exact ⟨hw.stray, hw.aborts.le⟩

-- from the tick on, every call finds the session lost
def lostFrom (tick : ℕ) (k : ℕ) : Answer :=
  if k < tick then ⟨.success, 0, "", 1, k == 0⟩ else ⟨.error, 3113, "", 0, false⟩

theorem calls_guarded_commit :
    Guarded ((World.start plainSetting (lostFrom 0)).run 1 1 [.enter, .call .commit, .call .commit,
      .leave]) :=
  calls_guarded 1 1 plainSetting (lostFrom 0) [.enter, .call .commit, .call .commit, .leave] (by decide)

def oneColumn : Setting :=
  { plainSetting with metadata := fun _ => ⟨none, [⟨['A'], some .numeric, 22, 0, 0⟩]⟩ }

-- a load whose column array cannot be allocated aborts the path that has been prepared
def beginSteps : List Op := [.call (.bulkLoadBegin ['T'] [.string ⟨['A'], 0⟩] none)]

/-- A load that begins without a guard goes on with the connection after it was deleted. -/
theorem not_calls_guarded : ¬∀ m n c oracle ops, Guarded ((World.start c oracle).run m n ops) := by
  intro h
  have hstray : ((World.start oneColumn (lostFrom 15)).run 1 1 beginSteps).stray = true := by decide
  rw [(h 1 1 oneColumn (lostFrom 15) beginSteps).1] at hstray
  cases hstray

end OracleDriver
