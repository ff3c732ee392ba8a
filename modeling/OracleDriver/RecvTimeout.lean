import OracleDriver.Connection

/-! The receive timeout of the connection, and the one that is set on the server handle. -/

namespace OracleDriver

open DecimalText

-- `view` is the bytes of a string in its encoding, one character each
structure TimeoutBuild where
  hasReceiveTimeout : Bool
  view : QoreString → Text

-- `handleTimeout` is the timeout of the server handle, and `loggedOn` is true from a successful
-- logon on until the session is ended or given up
structure TimeoutConn where
  recvTimeoutMs : ℕ
  serverAttached : Bool
  handleTimeout : ℕ
  loggedOn : Bool
deriving DecidableEq, Repr

-- what succeeds in a logon: the calls before the attach, the attach, setting the timeout, and the
-- calls behind it; the thread may be cancelled after the attach
structure LogonAnswers where
  before : Bool
  attach : Bool
  cancelled : Bool
  timeoutSet : Bool
  after : Bool

-- what handleError() makes of an error outside of a logon
inductive ErrorHandling where
  | reported
  | aborted
  | madeAgain (a : LogonAnswers)

inductive TimeoutAnswer where
  | set
  | error (e : ErrorHandling)

namespace TimeoutConn

variable (b : TimeoutBuild)

def applyRecvTimeout (ms : ℕ) (isSet : Bool) (handleError : TimeoutConn → TimeoutConn)
    (c : TimeoutConn) :
    Bool × TimeoutConn :=
  if b.hasReceiveTimeout then
    if isSet then (false, { c with handleTimeout := ms }) else (true, handleError c)
  else (decide (ms ≠ 0), c)

def logoff (c : TimeoutConn) : TimeoutConn := { c with serverAttached := false, loggedOn := false }

def abandonSession (c : TimeoutConn) : TimeoutConn :=
  { c with serverAttached := false, loggedOn := false }

-- a newly attached handle has no timeout
def serverAttach (attached : Bool) (c : TimeoutConn) : TimeoutConn :=
  if attached then { c with handleTimeout := 0 } else c

-- a connection made again after it was lost has the receive timeout that was set on it
def setAgain (isSet : Bool) (c : TimeoutConn) : Bool × TimeoutConn :=
  if c.recvTimeoutMs ≠ 0 then c.applyRecvTimeout b c.recvTimeoutMs isSet id else (false, c)

-- true for a failed logon; an error in it is only reported
def logon (a : LogonAnswers) (c : TimeoutConn) : Bool × TimeoutConn :=
  let c := { c with loggedOn := false }
  if !a.before then (true, c)
  else
    let c := c.serverAttach a.attach
    if a.cancelled || !a.attach then (true, c)
    else
      let r := { c with serverAttached := true }.setAgain b a.timeoutSet
      if r.1 || !a.after then (true, r.2)
      else (false, { r.2 with loggedOn := true })

def handleError (e : ErrorHandling) (c : TimeoutConn) : TimeoutConn :=
  match e with
  | .reported => c
  | .aborted => { c with loggedOn := false }
  | .madeAgain a => (c.abandonSession.logon b a).2

-- applyRecvTimeout() outside of a logon
def applyAnswered (ms : ℕ) (a : TimeoutAnswer) (c : TimeoutConn) : Bool × TimeoutConn :=
  match a with
  | .set => c.applyRecvTimeout b ms true id
  | .error e => c.applyRecvTimeout b ms false (handleError b e)

-- an error without an exception is one of the call to the client
def setRecvTimeout (v : QoreValue) (a : TimeoutAnswer) (c : TimeoutConn) :
    Except (Option Exn) Unit × TimeoutConn :=
  match timeoutValue (v.viewed b.view) with
  | .error e => (.error (some e), c)
  | .ok ms =>
    if ms < 0 ∨ recvTimeoutMax < ms then (.error (some (timeoutOutOfRange ms)), c)
    else
      let r := if c.serverAttached then c.applyAnswered b ms.toNat a else (false, c)
      if r.1 then (.error none, r.2) else (.ok (), { r.2 with recvTimeoutMs := ms.toNat })

end TimeoutConn

inductive TimeoutStep where
  | set (v : QoreValue) (a : TimeoutAnswer)
  | logon (a : LogonAnswers)
  | logoff
  | abandonSession

def TimeoutStep.next (b : TimeoutBuild) (c : TimeoutConn) : TimeoutStep → TimeoutConn
  | set v a => (c.setRecvTimeout b v a).2
  | logon a => (c.logon b a).2
  | logoff => c.logoff
  | abandonSession => c.abandonSession

/-- An optional minus sign and 1 to 19 digits, and their number. -/
def TimeoutText (t : Text) (ms : ℤ) : Prop :=
  ∃ ds, AllDigits ds ∧ ds ≠ [] ∧ ds.length ≤ 19 ∧
    (t = ds ∧ ms = digitsVal ds ∨ t = '-' :: ds ∧ ms = -digitsVal ds)

/-- The values of the option, with their number of milliseconds. -/
def TimeoutGiven (v : QoreValue) (ms : ℤ) : Prop :=
  match v with
  | .nothing => ms = 0
  | .int i => ms = i
  | .string s => TimeoutText s.text ms
  | _ => False

def InTimeoutRange (ms : ℤ) : Prop := 0 ≤ ms ∧ ms ≤ recvTimeoutMax

-- without the attribute in the headers of the client, only the timeout 0 can be set
def CanSet (b : TimeoutBuild) (a : TimeoutAnswer) (ms : ℤ) : Prop :=
  if b.hasReceiveTimeout then a = .set else ms = 0

/-- What a step does: which values are accepted, what becomes of the timeout, and that the handle
has it. -/
def StepHolds (b : TimeoutBuild) (c : TimeoutConn) (op : TimeoutStep) : Prop :=
  (match op with
    | .set v a =>
      ((c.setRecvTimeout b v a).1 = .ok () ↔
        ∃ ms, TimeoutGiven v ms ∧ InTimeoutRange ms ∧ (c.serverAttached = true → CanSet b a ms)) ∧
      ((c.setRecvTimeout b v a).1 = .ok () → TimeoutGiven v (c.setRecvTimeout b v a).2.recvTimeoutMs) ∧
      ((c.setRecvTimeout b v a).1 ≠ .ok () → (c.setRecvTimeout b v a).2.recvTimeoutMs = c.recvTimeoutMs)
    | .logon a => (c.logon b a).1 = false → (c.logon b a).2.loggedOn = true
    | _ => True) ∧
  ((op.next b c).loggedOn = true → (op.next b c).handleTimeout = (op.next b c).recvTimeoutMs)

def TimeoutRunHolds (b : TimeoutBuild) (c : TimeoutConn) : List TimeoutStep → Prop
  | [] => True
  | op :: ops => StepHolds b c op ∧ TimeoutRunHolds b (op.next b c) ops

-- the bytes before the first zero are the text, or neither they nor the text is a number in the range
def ReadableTimeout (b : TimeoutBuild) : QoreValue → Prop
  | .string s => cStr (b.view s) = s.text ∨
    (¬∃ ms, TimeoutText (cStr (b.view s)) ms ∧ InTimeoutRange ms) ∧ ¬∃ ms, TimeoutText s.text ms ∧
      InTimeoutRange ms
  | _ => True

def TimeoutStep.Readable (b : TimeoutBuild) : TimeoutStep → Prop
  | set v _ => ReadableTimeout b v
  | _ => True

section Proofs

variable {b : TimeoutBuild} {c : TimeoutConn}

lemma strtoll_digits {ds : Text} (hd : AllDigits ds) : strtoll ds = min (2 ^ 63 - 1) (digitsVal ds : ℤ) ∧
    strtoll ('-' :: ds) = max (-2 ^ 63) (-(digitsVal ds : ℤ)) := by
  have htake : ds.takeWhile Char.isDigit = ds := List.takeWhile_eq_self_iff.mpr hd
  constructor
  · rw [strtoll, htake]
    rintro l rfl
    cases hd '-' List.mem_cons_self
  · rw [strtoll, htake]

lemma strtoll_range {ds : Text} (hd : AllDigits ds) (ms : ℤ) : strtoll ds = ms ∧ InTimeoutRange ms ↔
    (digitsVal ds : ℤ) = ms ∧ InTimeoutRange ms := by
  rw [(strtoll_digits hd).1]
  simp only [InTimeoutRange, recvTimeoutMax]
  omega

lemma strtoll_negative_range {ds : Text} (hd : AllDigits ds) (ms : ℤ) :
    strtoll ('-' :: ds) = ms ∧ InTimeoutRange ms ↔
    -(digitsVal ds : ℤ) = ms ∧ InTimeoutRange ms := by
  rw [(strtoll_digits hd).2]
  simp only [InTimeoutRange, recvTimeoutMax]
  omega

lemma digits_check (ds : Text) :
    (ds.isEmpty || !ds.all Char.isDigit || decide (19 < ds.length)) = false ↔
    AllDigits ds ∧ ds ≠ [] ∧ ds.length ≤ 19 := by
  simp only [Bool.or_eq_false_iff, List.isEmpty_eq_false_iff, Bool.not_eq_false', List.all_eq_true,
    decide_eq_false_iff_not, not_lt, AllDigits]
  tauto

lemma timeoutText_digits {p : Text} (hp : p.head? ≠ some '-') (ms : ℤ) :
    TimeoutText p ms ↔ (AllDigits p ∧ p ≠ [] ∧ p.length ≤ 19) ∧ ms = digitsVal p := by
  constructor
  · rintro ⟨ds, hd, hne, hlen, ⟨rfl, hms⟩ | ⟨rfl, -⟩⟩
    · exact ⟨⟨hd, hne, hlen⟩, hms⟩
    · exact absurd rfl hp
  · rintro ⟨⟨hd, hne, hlen⟩, hms⟩
    exact ⟨p, hd, hne, hlen, Or.inl ⟨rfl, hms⟩⟩

lemma timeoutText_negative (ds : Text) (ms : ℤ) :
    TimeoutText ('-' :: ds) ms ↔ (AllDigits ds ∧ ds ≠ [] ∧ ds.length ≤ 19) ∧ ms = -digitsVal ds := by
  constructor
  · rintro ⟨l, hd, hne, hlen, ⟨rfl, -⟩ | ⟨hl, hms⟩⟩
    · cases hd '-' List.mem_cons_self
    · obtain rfl := (List.cons.inj hl).2
      exact ⟨⟨hd, hne, hlen⟩, hms⟩
  · rintro ⟨⟨hd, hne, hlen⟩, hms⟩
    exact ⟨ds, hd, hne, hlen, Or.inr ⟨rfl, hms⟩⟩

lemma timeoutValue_string (s : QoreString) (ms : ℤ) :
    timeoutValue (.string s) = .ok ms ∧ InTimeoutRange ms ↔
    TimeoutText (cStr s.text) ms ∧ InTimeoutRange ms := by
  simp only [timeoutValue]
  by_cases hneg : (cStr s.text).head? = some '-'
  · obtain ⟨ds, hp⟩ := List.head?_eq_some_iff.mp hneg
    rw [hp, timeoutText_negative, ← digits_check]
    simp only [List.head?_cons, if_true, List.tail_cons]
    cases hcheck : (ds.isEmpty || !ds.all Char.isDigit || decide (19 < ds.length)) with
    | true => simp
    | false =>
      have hd := ((digits_check ds).mp hcheck).1
      simp only [Bool.false_eq_true, if_false, Except.ok.injEq, true_and, strtoll_negative_range hd]
      rw [eq_comm]
  · rw [timeoutText_digits hneg, ← digits_check]
    simp only [if_neg hneg]
    cases hcheck : ((cStr s.text).isEmpty || !(cStr s.text).all Char.isDigit ||
        decide (19 < (cStr s.text).length)) with
    | true => simp
    | false =>
      have hd := ((digits_check _).mp hcheck).1
      simp only [Bool.false_eq_true, if_false, Except.ok.injEq, true_and, strtoll_range hd]
      rw [eq_comm]

-- the value that is read is the value that is given
lemma timeoutValue_readable {v : QoreValue} (hv : ReadableTimeout b v) (ms : ℤ) :
    timeoutValue (v.viewed b.view) = .ok ms ∧ InTimeoutRange ms ↔ TimeoutGiven v ms ∧
      InTimeoutRange ms := by
  cases v with
  | string s =>
    rw [QoreValue.viewed, timeoutValue_string, TimeoutGiven]
    rcases hv with htext | ⟨hview, htext⟩
    · rw [htext]
    · exact ⟨fun h => absurd ⟨ms, h⟩ hview, fun h => absurd ⟨ms, h⟩ htext⟩
  | nothing => simp [QoreValue.viewed, timeoutValue, TimeoutGiven, eq_comm]
  | int i => simp [QoreValue.viewed, timeoutValue, TimeoutGiven, eq_comm]
  | _ => simp [QoreValue.viewed, timeoutValue, TimeoutGiven]

namespace TimeoutConn

lemma serverAttach_eq (attached : Bool) : (c.serverAttach attached).recvTimeoutMs = c.recvTimeoutMs ∧
    (c.serverAttach attached).loggedOn = c.loggedOn ∧
    (attached = true → (c.serverAttach attached).handleTimeout = 0) := by
  cases attached
  · exact ⟨rfl, rfl, nofun⟩
  · exact ⟨rfl, rfl, fun _ => rfl⟩

lemma setAgain_eq (isSet : Bool) (hzero : c.handleTimeout = 0) :
    (c.setAgain b isSet).2.recvTimeoutMs = c.recvTimeoutMs ∧
      (c.setAgain b isSet).2.loggedOn = c.loggedOn ∧
    (c.setAgain b isSet).2.serverAttached = c.serverAttached ∧
    ((c.setAgain b isSet).1 = false → (c.setAgain b isSet).2.handleTimeout = c.recvTimeoutMs ∧
      (b.hasReceiveTimeout = false → c.recvTimeoutMs = 0)) := by
  by_cases hms : c.recvTimeoutMs ≠ 0
  · rw [setAgain, if_pos hms, applyRecvTimeout]
    cases b.hasReceiveTimeout
    · exact ⟨rfl, rfl, rfl, fun h => absurd hms (of_decide_eq_false h)⟩
    · cases isSet
      · exact ⟨rfl, rfl, rfl, nofun⟩
      · exact ⟨rfl, rfl, rfl, fun _ => ⟨rfl, nofun⟩⟩
  · rw [setAgain, if_neg hms]
    exact ⟨rfl, rfl, rfl, fun _ => ⟨hzero.trans (not_not.mp hms).symm, fun _ => not_not.mp hms⟩⟩

variable (b) in
def Synced (c : TimeoutConn) : Prop := c.loggedOn = true →
  c.serverAttached = true ∧ c.handleTimeout = c.recvTimeoutMs ∧
    (b.hasReceiveTimeout = false → c.recvTimeoutMs = 0)

-- a failed logon ends the session, and a successful one leaves the timeout on the handle
lemma logon_cases (a : LogonAnswers) :
    (c.logon b a).2.recvTimeoutMs = c.recvTimeoutMs ∧ Synced b (c.logon b a).2 ∧
    ((c.logon b a).1 = false → (c.logon b a).2.loggedOn = true) := by
  simp only [logon]
  by_cases hbefore : (!a.before) = true
  · rw [if_pos hbefore]
    exact ⟨rfl, nofun, nofun⟩
  rw [if_neg hbefore]
  obtain ⟨hrecv, hlogged, hzero⟩ := serverAttach_eq (c := { c with loggedOn := false }) a.attach
  by_cases hattach : (a.cancelled || !a.attach) = true
  · rw [if_pos hattach]
    exact ⟨hrecv, fun h => absurd (hlogged.symm.trans h) Bool.false_ne_true, nofun⟩
  rw [if_neg hattach]
  have hhandle :=
    hzero (Bool.eq_true_of_not_eq_false fun h => hattach (by rw [h, Bool.not_false, Bool.or_true]))
  generalize serverAttach a.attach { c with loggedOn := false } = d at *
  obtain ⟨hrecv', hlogged', hattached, hset⟩ :=
    setAgain_eq (b := b) (c := { d with serverAttached := true }) a.timeoutSet hhandle
  split
  · exact ⟨hrecv'.trans hrecv,
      fun h => absurd ((hlogged'.trans hlogged).symm.trans h) Bool.false_ne_true, nofun⟩
  · rename_i hok
    obtain ⟨hdone, hhas⟩ := hset (Bool.eq_false_of_not_eq_true fun h => hok (by rw [h, Bool.true_or]))
    refine ⟨hrecv'.trans hrecv, fun _ => ⟨hattached, hdone.trans hrecv'.symm, fun hb => ?_⟩,
      fun _ => rfl⟩
    exact hrecv'.trans (hhas hb)

lemma handleError_synced (e : ErrorHandling) (hc : Synced b c) :
    Synced b (handleError b e c) ∧ (handleError b e c).recvTimeoutMs = c.recvTimeoutMs := by
  cases e with
  | reported => exact ⟨hc, rfl⟩
  | aborted => exact ⟨nofun, rfl⟩
  | madeAgain a => exact ⟨(logon_cases a).2.1, (logon_cases a).1⟩

lemma applyAnswered_cases (ms : ℕ) (a : TimeoutAnswer) (hc : Synced b c)
    (hatt : c.serverAttached = true) :
    (c.applyAnswered b ms a).1 = false ∧ CanSet b a ms ∧
      Synced b { (c.applyAnswered b ms a).2 with recvTimeoutMs := ms } ∨
    (c.applyAnswered b ms a).1 = true ∧ ¬CanSet b a ms ∧ Synced b (c.applyAnswered b ms a).2 ∧
      (c.applyAnswered b ms a).2.recvTimeoutMs = c.recvTimeoutMs := by
  cases hb : b.hasReceiveTimeout with
  | true =>
    have hcan : CanSet b a ms ↔ a = .set := by rw [CanSet, hb, if_pos rfl]
    cases a with
    | set =>
      simp only [applyAnswered, applyRecvTimeout, hb, if_true]
      exact Or.inl ⟨trivial, hcan.mpr rfl, fun _ => ⟨hatt, rfl, fun h => absurd (hb.symm.trans h) nofun⟩⟩
    | error e =>
      simp only [applyAnswered, applyRecvTimeout, hb, if_true, Bool.false_eq_true, if_false]
      exact Or.inr ⟨trivial, fun h => absurd (hcan.mp h) nofun, handleError_synced e hc⟩
  | false =>
    have hcan : CanSet b a ms ↔ ms = 0 := by
      rw [CanSet, hb, if_neg Bool.false_ne_true]
      exact Int.natCast_eq_zero
    have hcall : c.applyAnswered b ms a = (decide (ms ≠ 0), c) := by
      cases a <;> simp only [applyAnswered, applyRecvTimeout, hb, Bool.false_eq_true, if_false]
    rw [hcall]
    by_cases hms : ms = 0
    · refine Or.inl ⟨by simp [hms], hcan.mpr hms, fun h => ?_⟩
      obtain ⟨-, hsame, hzero⟩ := hc h
      exact ⟨hatt, by rw [hsame, hzero hb, hms], fun _ => hms⟩
    · exact Or.inr ⟨by simp [hms], fun h => hms (hcan.mp h), hc, rfl⟩

-- the result of setRecvTimeout() for a number in the range
lemma setRecvTimeout_number {v : QoreValue} {ms : ℤ} (hv : timeoutValue (v.viewed b.view) = .ok ms)
    (hms : InTimeoutRange ms)
    (a : TimeoutAnswer) (hc : Synced b c) :
    (c.setRecvTimeout b v a).1 = .ok () ∧ (c.serverAttached = true → CanSet b a ms) ∧
      ((c.setRecvTimeout b v a).2.recvTimeoutMs : ℤ) = ms ∧ Synced b (c.setRecvTimeout b v a).2 ∨
    (c.setRecvTimeout b v a).1 = .error none ∧ ¬(c.serverAttached = true → CanSet b a ms) ∧
      (c.setRecvTimeout b v a).2.recvTimeoutMs = c.recvTimeoutMs ∧
        Synced b (c.setRecvTimeout b v a).2 := by
  obtain ⟨n, rfl⟩ := Int.eq_ofNat_of_zero_le hms.1
  have hin : ¬((n : ℤ) < 0 ∨ recvTimeoutMax < n) := by
    have hle := hms.2
    omega
  simp only [setRecvTimeout, hv, if_neg hin, Int.toNat_natCast]
  by_cases hatt : c.serverAttached = true
  · simp only [if_pos hatt]
    obtain ⟨hcall, hcan, hsync⟩ | ⟨hcall, hcan, hsync, hrecv⟩ := applyAnswered_cases n a hc hatt
    · left
      rw [hcall, if_neg Bool.false_ne_true]
      exact ⟨rfl, fun _ => hcan, rfl, hsync⟩
    · right
      rw [hcall, if_pos rfl]
      exact ⟨rfl, fun h => hcan (h hatt), hrecv, hsync⟩
  · left
    simp only [if_neg hatt, Bool.false_eq_true, if_false]
    exact ⟨trivial, fun h => absurd h hatt, trivial, fun h => absurd (hc h).1 hatt⟩

lemma setRecvTimeout_refused {v : QoreValue}
    (hv : ¬∃ ms, timeoutValue (v.viewed b.view) = .ok ms ∧ InTimeoutRange ms)
    (a : TimeoutAnswer) : (c.setRecvTimeout b v a).1 ≠ .ok () ∧ (c.setRecvTimeout b v a).2 = c := by
  rw [setRecvTimeout]
  cases htv : timeoutValue (v.viewed b.view) with
  | error e => exact ⟨nofun, rfl⟩
  | ok ms =>
    have hout : ms < 0 ∨ recvTimeoutMax < ms := by
      by_contra hin
      exact hv ⟨ms, htv, by unfold InTimeoutRange; omega⟩
    simp only [if_pos hout]
    exact ⟨nofun, trivial⟩

end TimeoutConn

section Driver

open Act

-- the build of a setting
def Setting.timeoutBuild (c : Setting) : TimeoutBuild := ⟨c.hasReceiveTimeout, c.view⟩

-- the timeout of the connection of a world
structure TimeoutConn.Matches (t : TimeoutConn) (w : World) : Prop where
  recvTimeoutMs : w.conn.recvTimeoutMs = t.recvTimeoutMs
  serverAttached : w.conn.serverAttached = t.serverAttached

namespace TimeoutConn

variable {h : Handler} {l : Level} {x : Sink} {k : Setting} {t : TimeoutConn} {w : World}

lemma Matches.touch (hw : Matches t w) : Matches t w.touch := by
  obtain ⟨hms, hatt⟩ := hw
  unfold World.touch
  split <;> exact ⟨hms, hatt⟩

lemma kept_matches (k : Setting) (t : TimeoutConn) :
    KeptByCalls k fun w => w.setting = k ∧ Matches t w where
  setting _ hw := hw.1
  touch w hw := ⟨by rw [World.touch]; split <;> exact hw.1, hw.2.touch⟩
  ask _ _ hw := ⟨hw.1, hw.2.recvTimeoutMs, hw.2.serverAttached⟩

lemma spec_applyRecvTimeout (ms : ℕ) :
    Spec (fun w => w.setting = k ∧ Matches t w) (OracleDriver.applyRecvTimeout x ms : Drv h l Bool)
      fun failed w => ∃ a, (t.applyAnswered k.timeoutBuild ms a).1 = failed ∧
        (failed = false → w.setting = k ∧ Matches t w ∧
          ∃ handle, (t.applyAnswered k.timeoutBuild ms a).2 = { t with handleTimeout := handle }) := by
  refine spec_bind_eq (kept_matches k t).spec_setting
    (spec_ite (fun hbuild => ?_) fun hbuild => spec_ite (fun hms => ?_) fun hms => ?_)
  · refine spec_weaken (keeps_attrSet x (kept_matches k t) _) (fun _ hw => hw) fun failed w hw => ?_
    have happly (isSet : Bool) (f : TimeoutConn → TimeoutConn) :
        t.applyRecvTimeout k.timeoutBuild ms isSet f =
          if isSet then (false, { t with handleTimeout := ms }) else (true, f t) := if_pos hbuild
    cases failed with
    | true => exact ⟨.error .reported, congrArg Prod.fst (happly false _), nofun⟩
    | false =>
      obtain ⟨hsetting, hmatch⟩ := hw.2 rfl
      have hset := happly true id
      exact ⟨.set, congrArg Prod.fst hset, fun _ => ⟨hsetting, hmatch, ms, congrArg Prod.snd hset⟩⟩
  · apply spec_pure
    intro w hw
    have hset : t.applyRecvTimeout k.timeoutBuild ms true id = (decide (ms ≠ 0), t) := if_neg hbuild
    refine ⟨.set, ?_, fun _ => ⟨hw.1, hw.2, t.handleTimeout, congrArg Prod.snd hset⟩⟩
    exact (congrArg Prod.fst hset).trans (by simp [hms])
  · refine spec_bind (spec_true _) fun _ => spec_pure fun w _ => ⟨.set, ?_, nofun⟩
    have hset : t.applyRecvTimeout k.timeoutBuild ms true id = (decide (ms ≠ 0), t) := if_neg hbuild
    exact (congrArg Prod.fst hset).trans (by simp [hms])

/-- The connection of the driver accepts and keeps the timeouts that the one of this model does. -/
theorem setRecvTimeout_matches (k : Setting) (t : TimeoutConn) (v : QoreValue) :
    Spec (fun w => w.setting = k ∧ Matches t w) (OracleDriver.setRecvTimeout x v : Drv h l Bool)
      fun failed w => ∃ a, ((t.setRecvTimeout k.timeoutBuild v a).1 = .ok () ↔ failed = false) ∧
        (failed = false → Matches (t.setRecvTimeout k.timeoutBuild v a).2 w) := by
  have hP := kept_matches k t
  refine spec_bind_eq hP.spec_setting ?_
  split
  · rename_i e hval
    refine spec_bind (spec_true _) fun _ => spec_pure fun w _ => ⟨.set, ?_, nofun⟩
    apply iff_of_false _ (by decide)
    apply (setRecvTimeout_refused _ .set).1
    rintro ⟨ms, hms, -⟩
    cases hval.symm.trans hms
  · rename_i ms hval
    refine spec_ite (fun hrange => ?_) fun hrange => spec_bind hP.spec_conn fun r => ?_
    · refine spec_bind (spec_true _) fun _ => spec_pure fun w _ => ⟨.set, ?_, nofun⟩
      apply iff_of_false _ (by decide)
      apply (setRecvTimeout_refused _ .set).1
      rintro ⟨ms', hms', hin⟩
      obtain rfl := Except.ok.inj (hval.symm.trans hms')
      exact absurd hrange (by unfold InTimeoutRange at hin; omega)
    have hmodel (a : TimeoutAnswer) : t.setRecvTimeout k.timeoutBuild v a =
        let r := if t.serverAttached then t.applyAnswered k.timeoutBuild ms.toNat a else (false, t)
        if r.1 then (.error none, r.2) else (.ok (), { r.2 with recvTimeoutMs := ms.toNat }) := by
      rw [setRecvTimeout, Setting.timeoutBuild, hval]
      exact if_neg hrange
    have hkeep (w : World) (hw : Matches t w) (handle : ℕ) :
        Matches { t with handleTimeout := handle, recvTimeoutMs := ms.toNat }
          (w.touch.setConn fun c => { c with recvTimeoutMs := ms.toNat }) :=
      ⟨rfl, hw.touch.serverAttached⟩
    refine spec_ite (fun hatt => ?_) fun hatt => ?_
    · refine spec_bind (Q := fun failed w => t.serverAttached = true ∧
        ∃ a, (t.applyAnswered k.timeoutBuild ms.toNat a).1 = failed ∧
          (failed = false → w.setting = k ∧ Matches t w ∧ ∃ handle,
            (t.applyAnswered k.timeoutBuild ms.toNat a).2 = { t with handleTimeout := handle })) ?_ ?_
      · intro w hw
        exact ⟨hw.2.2.serverAttached ▸ hw.1 ▸ hatt, spec_applyRecvTimeout ms.toNat w hw.2⟩
      · intro failed
        cases failed with
        | true =>
          apply spec_pure
          rintro w ⟨ht, a, ha, -⟩
          exact ⟨a, by simp [hmodel, ht, ha], nofun⟩
        | false =>
          rintro w ⟨ht, a, ha, hw⟩
          obtain ⟨-, hw, handle, hstate⟩ := hw rfl
          have hresult := hmodel a
          simp only [ht, if_true, ha, Bool.false_eq_true, if_false, hstate] at hresult
          refine ⟨a, by simp [hresult], fun _ => ?_⟩
          rw [hresult]
          exact ⟨rfl, (hkeep w hw handle).serverAttached.trans ht⟩
    · intro w hw
      have ht : ¬t.serverAttached = true := hw.2.2.serverAttached ▸ hw.1 ▸ hatt
      have hresult := hmodel .set
      simp only [if_neg ht, Bool.false_eq_true, if_false] at hresult
      exact ⟨.set, by simp [hresult], fun _ => hresult ▸ hkeep w hw.2.2 t.handleTimeout⟩

end TimeoutConn

end Driver

-- what a setting does in a state in which the handle has the timeout
lemma set_holds {v : QoreValue} (hv : ReadableTimeout b v) (a : TimeoutAnswer)
    (hc : TimeoutConn.Synced b c) :
    ((c.setRecvTimeout b v a).1 = .ok () ↔
      ∃ ms, TimeoutGiven v ms ∧ InTimeoutRange ms ∧ (c.serverAttached = true → CanSet b a ms)) ∧
    ((c.setRecvTimeout b v a).1 = .ok () → TimeoutGiven v (c.setRecvTimeout b v a).2.recvTimeoutMs) ∧
    ((c.setRecvTimeout b v a).1 ≠ .ok () → (c.setRecvTimeout b v a).2.recvTimeoutMs = c.recvTimeoutMs) ∧
    TimeoutConn.Synced b (c.setRecvTimeout b v a).2 := by
  by_cases hnumber : ∃ ms, timeoutValue (v.viewed b.view) = .ok ms ∧ InTimeoutRange ms
  · obtain ⟨ms, hread, hms⟩ := hnumber
    have hgiven := ((timeoutValue_readable hv ms).mp ⟨hread, hms⟩).1
    have honly : ∀ n, TimeoutGiven v n → InTimeoutRange n → n = ms := by
      intro n hn hrange
      have hn' := ((timeoutValue_readable hv n).mpr ⟨hn, hrange⟩).1
      exact Except.ok.inj (hn'.symm.trans hread)
    obtain ⟨hok, hcan, hrecv, hsync⟩ | ⟨herr, hcan, hrecv, hsync⟩ :=
      TimeoutConn.setRecvTimeout_number hread hms a hc
    · refine ⟨⟨fun _ => ⟨ms, hgiven, hms, hcan⟩, fun _ => hok⟩, ?_, ?_, hsync⟩
      · intro _
        rw [hrecv]
        exact hgiven
      · intro hne
        exact absurd hok hne
    · have hne : (c.setRecvTimeout b v a).1 ≠ .ok () := by
        rw [herr]
        exact nofun
      refine ⟨⟨fun h => absurd h hne, ?_⟩, fun h => absurd h hne, fun _ => hrecv, hsync⟩
      rintro ⟨n, hn, hrange, hcan'⟩
      rw [honly n hn hrange] at hcan'
      exact absurd hcan' hcan
  · obtain ⟨hne, hsame⟩ := TimeoutConn.setRecvTimeout_refused (c := c) hnumber a
    refine ⟨⟨fun h => absurd h hne, ?_⟩, fun h => absurd h hne, fun _ => by rw [hsame], by rwa [hsame]⟩
    rintro ⟨n, hn, hrange, -⟩
    exact absurd ⟨n, (timeoutValue_readable hv n).mpr ⟨hn, hrange⟩⟩ hnumber

lemma step_holds (op : TimeoutStep) (hop : op.Readable b) (hc : TimeoutConn.Synced b c) :
    StepHolds b c op ∧ TimeoutConn.Synced b (op.next b c) := by
  cases op with
  | logon a =>
    obtain ⟨-, hsync, hon⟩ := TimeoutConn.logon_cases (b := b) (c := c) a
    exact ⟨⟨hon, fun h => (hsync h).2.1⟩, hsync⟩
  | logoff => exact ⟨⟨trivial, nofun⟩, nofun⟩
  | abandonSession => exact ⟨⟨trivial, nofun⟩, nofun⟩
  | set v a =>
    obtain ⟨haccept, hgiven, hsame, hsync⟩ := set_holds hop a hc
    exact ⟨⟨⟨haccept, hgiven, hsame⟩, fun h => (hsync h).2.1⟩, hsync⟩

lemma run_holds {ops : List TimeoutStep} (hops : ∀ op ∈ ops, op.Readable b)
    (hc : TimeoutConn.Synced b c) :
    TimeoutRunHolds b c ops := by
  induction ops generalizing c with
  | nil => trivial
  | cons op ops ih =>
    obtain ⟨hstep, hnext⟩ := step_holds op (hops op List.mem_cons_self) hc
    exact ⟨hstep, ih (fun o ho => hops o (List.mem_cons_of_mem op ho)) hnext⟩

end Proofs

def newConnection : TimeoutConn := ⟨0, false, 0, false⟩

/-- In every run whose strings are read as they are, the option accepts the values that it
documents, a failed setting changes nothing, and the handle of a session has the timeout. -/
theorem recvTimeout_runs (b : TimeoutBuild) (ops : List TimeoutStep) (hops : ∀ op ∈ ops, op.Readable b) :
    TimeoutRunHolds b newConnection ops :=
  run_holds hops nofun

def plainBuild : TimeoutBuild := ⟨true, QoreString.text⟩

def goodLogon : LogonAnswers := ⟨true, true, false, true, true⟩

theorem recvTimeout_runs_relogon : TimeoutRunHolds plainBuild newConnection
    [.set (.string ⟨"5000".toList, 0⟩) .set, .logon goodLogon, .logoff, .logon goodLogon] := by
  apply recvTimeout_runs
  intro op hop
  simp only [List.mem_cons, List.not_mem_nil, or_false] at hop
  rcases hop with rfl | rfl | rfl | rfl
  · exact Or.inl (by decide)
  all_goals trivial

/-- A text with a zero after its digits is accepted. -/
theorem zero_accepted :
    ¬TimeoutRunHolds plainBuild newConnection [.set (.string ⟨"5\x00abc".toList, 0⟩) .set] := by
  rintro ⟨⟨⟨haccept, -⟩, -⟩, -⟩
  obtain ⟨ms, ⟨ds, hd, -, -, ⟨htext, -⟩ | ⟨htext, -⟩⟩, -⟩ := haccept.mp rfl
  · have ha : 'a'.isDigit = true := hd 'a' (by rw [← htext]; decide)
    exact absurd ha (by decide)
  · have hhead : some '5' = some '-' := congrArg List.head? htext
    exact absurd hhead (by decide)

end OracleDriver
