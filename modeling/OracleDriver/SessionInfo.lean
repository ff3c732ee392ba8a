import OracleDriver.Connection

/-! The session attributes of a connection that several threads share. -/

namespace OracleDriver

inductive SessionAttr where
  | module
  | action
  | clientInfo
  | clientIdentifier
deriving DecidableEq, Repr

namespace SessionAttr

def all : List SessionAttr := [module, action, clientInfo, clientIdentifier]

lemma mem_all (a : SessionAttr) : a ∈ all := by cases a <;> decide

-- the place in the arrays of the connection
def index : SessionAttr → ℕ
  | module => 0
  | action => 1
  | clientInfo => 2
  | clientIdentifier => 3

lemma index_injective : Function.Injective index := by
  intro a b h
  cases a <;> cases b <;> first | rfl | cases h

def key : SessionAttr → String
  | module => "module"
  | action => "action"
  | clientInfo => "client_info"
  | clientIdentifier => "client_identifier"

end SessionAttr

-- ora_truncate_utf8(): a character that does not fit is dropped whole
def truncateUtf8 (maxBytes : ℕ) : Text → Text
  | [] => []
  | ch :: t => if ch.utf8Size ≤ maxBytes then ch :: truncateUtf8 (maxBytes - ch.utf8Size) t else []

-- the values of a thread
abbrev SessionInfo := SessionAttr → Text

namespace SessionInfo

variable (c : Setting)

def badKey (key t : String) : Exn := ⟨"ORACLE-SESSION-INFO-ERROR",
  "key '" ++ key ++ "' must be a string; got type '" ++ t ++ "' instead"⟩

def attrValue (key : String) : QoreValue → Except Exn Text
  | .nothing | .null => .ok []
  | .string s =>
    if s.enc = c.utf8 then .ok (truncateUtf8 sessionAttrMaxBytes s.text)
    else
      match c.lib.convert s.enc c.utf8 s.text with
      | some t => .ok (truncateUtf8 sessionAttrMaxBytes t)
      | none => .error notConverted
  | v => .error (badKey key (String.ofList v.typeName))

def attrValues (h : List (Text × QoreValue)) : List SessionAttr → SessionInfo → Except Exn SessionInfo
  | [], info => .ok info
  | a :: attrs, info => do
    let t ← attrValue c a.key (QoreValue.getKeyValue h a.key)
    attrValues h attrs (Function.update info a t)

-- ora_set_thread_session_info(): an error leaves the thread's values alone
def set (info : Option (List (Text × QoreValue))) (old : Option SessionInfo) :
    Except Exn Unit × Option SessionInfo :=
  match info with
  | none => (.ok (), none)
  | some h =>
    match attrValues c h SessionAttr.all fun _ => [] with
    | .ok v => (.ok (), if SessionAttr.all.all fun a => (v a).isEmpty then none else some v)
    | .error e => (.error e, old)

-- characters are dropped from the end until the converted value fits; the argument is how many are left
def fittingText (value : Text) : ℕ → Option Text
  | 0 => some []
  | n + 1 =>
    match c.lib.convert c.utf8 c.encoding (value.take (n + 1)) with
    | none => none
    | some t => if c.byteSize t ≤ sessionAttrMaxBytes then some t else fittingText value n

-- what setSessionAttr() gives to OCIAttrSet(), or none after an error of the conversion
def sessionText (value : Text) : Option Text :=
  if value.isEmpty || c.encoding == c.utf8 then some value else fittingText c value value.length

-- the value in the character set of the session, of as many characters as fit
def Converted (value t : Text) : Prop :=
  if value = [] ∨ c.encoding = c.utf8 then t = value
  else ∃ n ≤ value.length,
    (n = 0 ∧ t = [] ∨ c.lib.convert c.utf8 c.encoding (value.take n) = some t ∧
      c.byteSize t ≤ sessionAttrMaxBytes) ∧
      ∀ m, n < m → m ≤ value.length →
        ∃ u, c.lib.convert c.utf8 c.encoding (value.take m) = some u ∧ sessionAttrMaxBytes < c.byteSize u

variable {c}

lemma fittingText_converted {value t : Text} {n : ℕ} (h : fittingText c value n = some t) :
    ∃ k ≤ n, (k = 0 ∧ t = [] ∨ c.lib.convert c.utf8 c.encoding (value.take k) = some t ∧
        c.byteSize t ≤ sessionAttrMaxBytes) ∧
      ∀ m, k < m → m ≤ n →
        ∃ u, c.lib.convert c.utf8 c.encoding (value.take m) = some u ∧
          sessionAttrMaxBytes < c.byteSize u := by
  induction n with
  | zero => exact ⟨0, le_rfl, Or.inl ⟨rfl, (Option.some.inj h).symm⟩, fun m hm hm0 => by omega⟩
  | succ n ih =>
    rw [fittingText] at h
    cases hc : c.lib.convert c.utf8 c.encoding (value.take (n + 1)) with
    | none => simp [hc] at h
    | some u =>
      simp only [hc] at h
      split at h
      · rename_i hfit
        obtain rfl : u = t := Option.some.inj h
        exact ⟨n + 1, le_rfl, Or.inr ⟨hc, hfit⟩, fun m hm hm1 => by omega⟩
      · rename_i hbig
        obtain ⟨k, hk, hfit, hmax⟩ := ih h
        refine ⟨k, by omega, hfit, ?_⟩
        intro m hm hm1
        rcases Nat.eq_or_lt_of_le hm1 with rfl | hlt
        · exact ⟨u, hc, by omega⟩
        · exact hmax m hm (by omega)

lemma sessionText_converted {value t : Text} (h : sessionText c value = some t) :
    Converted c value t := by
  rw [sessionText] at h
  rw [Converted]
  split at h
  · rename_i hplain
    rw [if_pos (by simpa using hplain)]
    exact (Option.some.inj h).symm
  · rename_i hplain
    rw [if_neg (by simpa using hplain)]
    exact fittingText_converted h

end SessionInfo

-- the connection and its session: what is known of the attributes, and the attributes themselves
structure SessionState where
  infoKnown : Bool
  sessionAttr : SessionAttr → Text
  attrs : SessionAttr → Text

-- OCIAttrSet() for one attribute: a failure leaves the attributes of the session in any state
inductive SetAnswer where
  | ok
  | failed (attrs : SessionAttr → Text)

-- a logon, which begins a session with any attributes; `sets` is there if it gets to its first statement
structure LogonAnswer where
  attrs : SessionAttr → Text
  sets : Option (SessionAttr → SetAnswer)

-- the same with what the handling of an error does: it can log on again
structure AttrAnswer where
  set : SetAnswer
  logons : List LogonAnswer

namespace SessionState

variable (c : Setting)

-- the errors of a logon are not handled again
def setInLogon (a : SessionAttr) (value : Text) (r : SetAnswer) (s : SessionState) :
    Bool × SessionState :=
  match SessionInfo.sessionText c value with
  | none => (true, s)
  | some t =>
    match r with
    | .ok => (false, { s with attrs := Function.update s.attrs a t })
    | .failed attrs => (true, { s with attrs := attrs })

-- applyThreadSessionInfo() with a function that sets one attribute
def applyWith (set : SessionAttr → Text → SessionState → Bool × SessionState) (info : SessionInfo) :
    List SessionAttr → SessionState → Bool × SessionState
  | [], s => (false, { s with infoKnown := true })
  | a :: rest, s =>
    if s.infoKnown && s.sessionAttr a == info a then applyWith set info rest s
    else
      let (failed, t) := set a (info a) s
      if failed then (true, { t with infoKnown := false })
      else applyWith set info rest { t with sessionAttr := Function.update t.sessionAttr a (info a) }

def values (info : Option SessionInfo) : SessionInfo := info.getD fun _ => []

def logon (info : Option SessionInfo) (r : LogonAnswer) (s : SessionState) : SessionState :=
  let t := { s with infoKnown := false, attrs := r.attrs }
  match r.sets with
  | none => t
  | some sets => (applyWith (fun a v => setInLogon c a v (sets a)) (values info) SessionAttr.all t).2

def setSessionAttr (info : Option SessionInfo) (a : SessionAttr) (value : Text) (r : AttrAnswer)
    (s : SessionState) : Bool × SessionState :=
  let (failed, t) := setInLogon c a value r.set s
  (failed, if failed then r.logons.foldl (fun t l => logon c info l t) t else t)

def applyThreadSessionInfo (info : Option SessionInfo) (answers : SessionAttr → AttrAnswer)
    (s : SessionState) :
    Bool × SessionState :=
  applyWith (fun a v => setSessionAttr c info a v (answers a)) (values info) SessionAttr.all s

-- the attributes of the session are those that were set last, if they are known
def Known (s : SessionState) : Prop :=
  s.infoKnown = true → ∀ a, SessionInfo.sessionText c (s.sessionAttr a) = some (s.attrs a)

variable {c}

-- what a function that sets an attribute promises
structure Sets (set : SessionAttr → Text → SessionState → Bool × SessionState) : Prop where
  ok : ∀ a v s, (set a v s).1 = false → ∃ t, SessionInfo.sessionText c v = some t ∧
    (set a v s).2 = { s with attrs := Function.update s.attrs a t }

lemma setInLogon_ok {a : SessionAttr} {v : Text} {r : SetAnswer} {s : SessionState}
    (h : (setInLogon c a v r s).1 = false) : ∃ t, SessionInfo.sessionText c v = some t ∧
      (setInLogon c a v r s).2 = { s with attrs := Function.update s.attrs a t } := by
  unfold setInLogon at h ⊢
  cases ht : SessionInfo.sessionText c v with
  | none => simp [ht] at h
  | some t =>
    cases r with
    | ok => exact ⟨t, rfl, rfl⟩
    | failed attrs => simp [ht] at h

lemma sets_inLogon (r : SessionAttr → SetAnswer) : Sets (c := c) fun a v => setInLogon c a v (r a) :=
  ⟨fun _ _ _ h => setInLogon_ok h⟩

lemma sets_setSessionAttr (info : Option SessionInfo) (r : SessionAttr → AttrAnswer) :
    Sets (c := c) fun a v => setSessionAttr c info a v (r a) := by
  constructor
  intro a v s h
  have hfailed : (setInLogon c a v (r a).set s).1 = false := h
  obtain ⟨t, ht, he⟩ := setInLogon_ok hfailed
  exact ⟨t, ht, by simp [setSessionAttr, hfailed, he]⟩

-- the attributes that were looked at have the thread's values, and the others are as they were if
-- they are known
lemma applyWith_ok {set : SessionAttr → Text → SessionState → Bool × SessionState}
    (hset : Sets (c := c) set)
    {info : SessionInfo} {todo : List SessionAttr} {s : SessionState} (hk : Known c s)
    (hdone : ∀ a, a ∉ todo → SessionInfo.sessionText c (info a) = some (s.attrs a) ∧
      s.sessionAttr a = info a)
    (h : (applyWith set info todo s).1 = false) :
    ∀ a, SessionInfo.sessionText c (info a) = some ((applyWith set info todo s).2.attrs a) ∧
      (applyWith set info todo s).2.sessionAttr a = info a := by
  induction todo generalizing s with
  | nil => exact fun a => hdone a List.not_mem_nil
  | cons b rest ih =>
    simp only [applyWith] at h ⊢
    split at h
    · rename_i hsame
      rw [if_pos hsame]
      obtain ⟨hknown, heq⟩ : s.infoKnown = true ∧ s.sessionAttr b = info b := by simpa using hsame
      apply ih hk _ h
      intro a ha
      by_cases hab : a = b
      · subst hab
        exact ⟨heq ▸ hk hknown a, heq⟩
      · exact hdone a (by simp [hab, ha])
    · rename_i hdiff
      rw [if_neg hdiff]
      split at h
      · cases h
      · rename_i hfailed
        rw [if_neg hfailed]
        obtain ⟨t, ht, he⟩ := hset.ok b (info b) s (by simpa using hfailed)
        have hother : ∀ a, a ≠ b → Function.update s.attrs b t a = s.attrs a :=
          fun a hab => Function.update_of_ne hab _ _
        rw [he] at h ⊢
        apply ih _ _ h
        · intro hknown a
          by_cases hab : a = b
          · subst hab
            simpa using ht
          · simpa [hab] using hk hknown a
        · intro a ha
          by_cases hab : a = b
          · subst hab
            simpa using ht
          · simpa [hab] using hdone a (by simp [hab, ha])

lemma applyWith_all {set : SessionAttr → Text → SessionState → Bool × SessionState}
    (hset : Sets (c := c) set)
    {info : SessionInfo} {s : SessionState} (hk : Known c s)
    (h : (applyWith set info SessionAttr.all s).1 = false) :
    ∀ a, SessionInfo.sessionText c (info a) = some ((applyWith set info SessionAttr.all s).2.attrs a) ∧
      (applyWith set info SessionAttr.all s).2.sessionAttr a = info a :=
  applyWith_ok hset hk (fun a ha => absurd (SessionAttr.mem_all a) ha) h

lemma applyWith_failed {set : SessionAttr → Text → SessionState → Bool × SessionState}
    {info : SessionInfo}
    {todo : List SessionAttr} {s : SessionState} (h : (applyWith set info todo s).1 = true) :
    (applyWith set info todo s).2.infoKnown = false := by
  induction todo generalizing s with
  | nil => cases h
  | cons b rest ih =>
    simp only [applyWith] at h ⊢
    split at h
    · rename_i hsame
      rw [if_pos hsame]
      exact ih h
    · rename_i hdiff
      rw [if_neg hdiff]
      split at h
      · rename_i hfailed
        rw [if_pos hfailed]
      · rename_i hfailed
        rw [if_neg hfailed]
        exact ih h

lemma known_applyWith {set : SessionAttr → Text → SessionState → Bool × SessionState}
    (hset : Sets (c := c) set)
    (info : SessionInfo) {s : SessionState} (hk : Known c s) :
    Known c (applyWith set info SessionAttr.all s).2 := by
  intro hknown a
  cases hr : (applyWith set info SessionAttr.all s).1 with
  | true =>
    rw [applyWith_failed hr] at hknown
    cases hknown
  | false =>
    obtain ⟨htext, hattr⟩ := applyWith_all hset hk hr a
    rw [hattr, htext]

lemma known_logon (info : Option SessionInfo) (r : LogonAnswer) (s : SessionState) :
    Known c (logon c info r s) := by
  have hunknown : Known c { s with infoKnown := false, attrs := r.attrs } := fun h => by cases h
  unfold logon
  split
  · exact hunknown
  · exact known_applyWith (sets_inLogon _) _ hunknown

end SessionState

section Driver

open Act SessionInfo

-- the attributes that are known, or that have been set since, are those of the connection of a world
structure SessionState.Matches (todo : List SessionAttr) (s : SessionState) (w : World) : Prop where
  known : w.conn.sessionInfoKnown = s.infoKnown
  attr : ∀ a, s.infoKnown = true ∨ a ∉ todo → w.conn.sessionAttr a.index = s.sessionAttr a

namespace SessionState

variable {h : Handler} {l : Level} {x : Sink} {c : Setting} {P : World → Prop} {s : SessionState}
  {w : World} {a : SessionAttr} {todo : List SessionAttr}

lemma Matches.touch (hw : Matches todo s w) : Matches todo s w.touch := by
  obtain ⟨hknown, hattr⟩ := hw
  unfold World.touch
  split <;> exact ⟨hknown, hattr⟩

lemma kept_matches (c : Setting) (todo : List SessionAttr) (s : SessionState) :
    KeptByCalls c fun w => w.setting = c ∧ Matches todo s w where
  setting _ hw := hw.1
  touch w hw := ⟨by rw [World.touch]; split <;> exact hw.1, hw.2.touch⟩
  ask _ _ hw := ⟨hw.1, hw.2.known, hw.2.attr⟩

lemma spec_setFittingAttr (hP : KeptByCalls c P) (value : Text) (n : ℕ) :
    Spec P (setFittingAttr x c value n : Drv h l Bool) fun failed w => failed = false →
      (∃ t, fittingText c value n = some t) ∧ P w := by
  induction n with
  | zero => exact spec_weaken (keeps_attrSet x hP _) (fun _ hw => hw) fun _ _ hw hb =>
      ⟨⟨[], rfl⟩, hw.2 hb⟩
  | succ n ih =>
    rw [setFittingAttr, fittingText]
    cases hconv : c.lib.convert c.utf8 c.encoding (value.take (n + 1)) with
    | none => exact spec_bind (spec_true _) fun _ _ _ hb => nomatch hb
    | some t =>
      refine spec_ite (fun hfit => ?_) fun hbig => ?_
      · refine spec_weaken (keeps_attrSet x hP _) (fun _ hw => hw) fun _ _ hw hb => ⟨⟨t, ?_⟩, hw.2 hb⟩
        exact if_pos hfit
      · refine spec_weaken ih (fun _ hw => hw) fun _ _ hw hb => ⟨?_, (hw hb).2⟩
        obtain ⟨t', ht'⟩ := (hw hb).1
        exact ⟨t', (if_neg hbig).trans ht'⟩

lemma spec_setSessionAttr (hP : KeptByCalls c P) (value : Text) :
    Spec P (OracleDriver.setSessionAttr x value : Drv h l Bool) fun failed w => failed = false →
      (∃ t, sessionText c value = some t) ∧ P w := by
  refine spec_bind_eq hP.spec_setting (spec_ite (fun hplain => ?_) fun hplain => ?_)
  · refine spec_weaken (keeps_attrSet x hP _) (fun _ hw => hw) fun _ _ hw hb => ⟨⟨value, ?_⟩, hw.2 hb⟩
    exact if_pos hplain
  · refine spec_weaken (spec_setFittingAttr hP _ _) (fun _ hw => hw) fun _ _ hw hb => ⟨?_, (hw hb).2⟩
    obtain ⟨t, ht⟩ := (hw hb).1
    exact ⟨t, (if_neg hplain).trans ht⟩

def keep (a : SessionAttr) (value t : Text) (s : SessionState) : SessionState :=
  { s with attrs := Function.update s.attrs a t, sessionAttr := Function.update s.sessionAttr a value }

lemma Matches.keep (hw : Matches (a :: todo) s w) (value t : Text) : Matches todo (s.keep a value t)
    { w with conn := { w.conn with
      sessionAttr := Function.update w.conn.sessionAttr a.index value } } where
  known := hw.known
  attr b hb := by
    by_cases hab : b = a
    · subst hab
      simp [SessionState.keep]
    · have hindex : b.index ≠ a.index := fun h => hab (SessionAttr.index_injective h)
      simp only [SessionState.keep, Function.update_of_ne hab, Function.update_of_ne hindex]
      exact hw.attr b (hb.imp_right fun hb => by simp [hab, hb])

-- what the driver does for one attribute
lemma spec_applyAttr (info : ℕ → Text) :
    Spec (fun w => w.setting = c ∧ Matches (a :: todo) s w)
      (applyAttr x info a.index : Drv h l Bool) fun failed w =>
        if s.infoKnown && s.sessionAttr a == info a.index then
          failed = false ∧ w.setting = c ∧ Matches todo s w
        else failed = true ∧ w.conn.sessionInfoKnown = false ∨
          failed = false ∧ ∃ t, sessionText c (info a.index) = some t ∧ w.setting = c ∧
            Matches todo (s.keep a (info a.index) t) w := by
  have hP := kept_matches c (a :: todo) s
  have same (w : World) (hw : Matches (a :: todo) s w) :
      (w.conn.sessionInfoKnown && w.conn.sessionAttr a.index == info a.index) =
        (s.infoKnown && s.sessionAttr a == info a.index) := by
    rw [hw.known]
    cases hknown : s.infoKnown with
    | false => rfl
    | true => rw [hw.attr a (.inl hknown)]
  refine spec_bind hP.spec_conn fun r => spec_ite (fun hsame => ?_) fun hdiff => ?_
  · apply spec_pure
    rintro t ⟨rfl, ht⟩
    rw [same t ht.2] at hsame
    rw [if_pos hsame]
    have hknown : s.infoKnown = true := (Bool.and_eq_true_iff.mp hsame).1
    exact ⟨rfl, ht.1, ht.2.known, fun b _ => ht.2.attr b (.inl hknown)⟩
  · refine spec_bind (Q := fun failed t => ¬ (s.infoKnown && s.sessionAttr a == info a.index) ∧
      (failed = false → (∃ u, sessionText c (info a.index) = some u) ∧
        t.setting = c ∧ Matches (a :: todo) s t)) ?_ fun failed => ?_
    · rintro t ⟨rfl, ht⟩
      rw [same t ht.2] at hdiff
      exact ⟨hdiff, spec_setSessionAttr hP _ _ ht⟩
    · rintro t ⟨hcond, ht⟩
      rw [if_neg hcond]
      cases failed with
      | true => exact .inl ⟨rfl, rfl⟩
      | false =>
        obtain ⟨⟨u, hu⟩, ht⟩ := ht rfl
        have ht' := hP.touch t ht
        exact .inr ⟨rfl, u, hu, ht'.1, ht'.2.keep _ u⟩

-- an answer to an attribute that is not set again
lemma applyWith_update {thread : Option SessionInfo} {answers : SessionAttr → AttrAnswer} (ha : a ∉ todo)
    (r : AttrAnswer) (info : SessionInfo) (s : SessionState) :
    applyWith (fun b v => setSessionAttr c thread b v (Function.update answers a r b)) info todo s =
      applyWith (fun b v => setSessionAttr c thread b v (answers b)) info todo s := by
  induction todo generalizing s with
  | nil => rfl
  | cons b todo ih =>
    obtain ⟨hab, ha⟩ := not_or.mp (List.mem_cons.not.mp ha)
    simp only [applyWith, Function.update_of_ne (Ne.symm hab), ih ha]

lemma setSessionAttr_failed (thread : Option SessionInfo) (value : Text)
    (attrs : SessionAttr → Text) (s : SessionState) :
    (setSessionAttr c thread a value ⟨.failed attrs, []⟩ s).1 = true := by
  unfold setSessionAttr setInLogon
  cases sessionText c value <;> rfl

lemma setSessionAttr_ok {thread : Option SessionInfo} {value t : Text} (s : SessionState)
    (ht : sessionText c value = some t) : setSessionAttr c thread a value ⟨.ok, []⟩ s =
      (false, { s with attrs := Function.update s.attrs a t }) := by
  simp [setSessionAttr, setInLogon, ht]

lemma spec_applyAttrs (info : ℕ → Text) (thread : Option SessionInfo) (hnodup : todo.Nodup) :
    Spec (fun w => w.setting = c ∧ Matches todo s w)
      (tryEach (applyAttr x info) (todo.map SessionAttr.index) : Drv h l Bool) fun failed w =>
        ∃ answers : SessionAttr → AttrAnswer,
          (applyWith (fun a v => setSessionAttr c thread a v (answers a)) (fun a => info a.index)
            todo s).1 = failed ∧
          (failed = true → w.conn.sessionInfoKnown = false) ∧
          (failed = false → w.setting = c ∧ ∀ a, w.conn.sessionAttr a.index =
            (applyWith (fun a v => setSessionAttr c thread a v (answers a)) (fun a => info a.index)
              todo s).2.sessionAttr a) := by
  induction todo generalizing s with
  | nil =>
    apply spec_pure
    intro w hw
    exact ⟨fun _ => ⟨.ok, []⟩, rfl, nofun, fun _ => ⟨hw.1, fun a => hw.2.attr a (.inr List.not_mem_nil)⟩⟩
  | cons a todo ih =>
    obtain ⟨ha, htodo⟩ := List.nodup_cons.mp hnodup
    refine spec_bind (spec_applyAttr info) fun failed => ?_
    cases failed with
    | true =>
      apply spec_pure
      intro w hw
      split at hw
      · cases hw.1
      · rename_i hdiff
        refine ⟨fun _ => ⟨.failed s.attrs, []⟩, ?_, fun _ => ?_, nofun⟩
        · rw [applyWith, if_neg hdiff]
          simp only [setSessionAttr_failed, if_true]
        · exact (hw.resolve_right fun hw => nomatch hw.1).2
    | false =>
      intro w hw
      split at hw
      · rename_i hsame
        obtain ⟨answers, hresult⟩ := ih htodo w hw.2
        refine ⟨answers, ?_⟩
        rw [applyWith, if_pos hsame]
        exact hresult
      · rename_i hdiff
        obtain ⟨-, t, ht, hw⟩ := hw.resolve_left fun hw => nomatch hw.1
        obtain ⟨answers, hresult⟩ := ih htodo w hw
        refine ⟨Function.update answers a ⟨.ok, []⟩, ?_⟩
        rw [applyWith, if_neg hdiff]
        simp only [Function.update_self, setSessionAttr_ok s ht, Bool.false_eq_true, if_false,
          applyWith_update ha]
        exact hresult

lemma applyWith_known {set : SessionAttr → Text → SessionState → Bool × SessionState}
    {info : SessionInfo} (h : (applyWith set info todo s).1 = false) :
    (applyWith set info todo s).2.infoKnown = true := by
  induction todo generalizing s with
  | nil => rfl
  | cons b todo ih =>
    simp only [applyWith] at h ⊢
    split at h
    · rename_i hsame
      rw [if_pos hsame]
      exact ih h
    · rename_i hdiff
      rw [if_neg hdiff]
      split at h
      · cases h
      · rename_i hfailed
        rw [if_neg hfailed]
        exact ih h

-- the values of the thread in the setting
def thread (c : Setting) : Option SessionInfo := c.threadInfo.map fun f a => f a.index

lemma values_thread (c : Setting) :
    values (thread c) = fun a => (c.threadInfo.getD fun _ => []) a.index := by
  unfold values thread
  cases c.threadInfo <;> rfl

/-- The connection of the driver does what the one of the session model does. -/
theorem applyThreadSessionInfo_matches (c : Setting) (s : SessionState) :
    Spec (fun w => w.setting = c ∧ Matches SessionAttr.all s w)
      (OracleDriver.applyThreadSessionInfo x : Drv h l Bool) fun failed w =>
        ∃ answers, (applyThreadSessionInfo c (thread c) answers s).1 = failed ∧
          Matches SessionAttr.all (applyThreadSessionInfo c (thread c) answers s).2 w := by
  have known := (kept_matches c SessionAttr.all s).spec_setting (h := h) (l := l)
  have applied := spec_applyAttrs (c := c) (h := h) (l := l) (x := x) (s := s)
    (c.threadInfo.getD fun _ => []) (thread c) (by decide : SessionAttr.all.Nodup)
  rw [← values_thread] at applied
  refine spec_bind_eq known (spec_bind applied fun failed => ?_)
  cases failed with
  | true =>
    apply spec_pure
    rintro w ⟨answers, hfailed, hunknown, -⟩
    have hmodel := applyWith_failed hfailed
    refine ⟨answers, hfailed, (hunknown rfl).trans hmodel.symm, fun a ha => ?_⟩
    have hnone := ha.resolve_left (Bool.not_eq_true _ ▸ hmodel)
    exact absurd a.mem_all hnone
  | false =>
    rintro w ⟨answers, hok, -, hattr⟩
    have hconn : w.touch.conn = w.conn := by
      unfold World.touch
      split <;> rfl
    refine ⟨answers, hok, (applyWith_known hok).symm, fun a _ => ?_⟩
    exact (congrArg (·.sessionAttr a.index) hconn).trans ((hattr rfl).2 a)

end SessionState

end Driver

-- the threads that share a connection
structure Shared (Thread : Type) where
  conn : SessionState
  infos : Thread → Option SessionInfo

-- what the threads do, each with the answers it gets
inductive SessionOp (Thread : Type) where
  | setInfo (t : Thread) (info : Option (List (Text × QoreValue)))
  | apply (t : Thread) (answers : SessionAttr → AttrAnswer)
  | logon (t : Thread) (r : LogonAnswer)

namespace Shared

variable {Thread : Type} [DecidableEq Thread] (c : Setting)

-- a new connection, whose session has any attributes
def start (attrs : SessionAttr → Text) : Shared Thread := ⟨⟨false, fun _ => [], attrs⟩, fun _ => none⟩

def step (S : Shared Thread) : SessionOp Thread → Shared Thread
  | .setInfo t info =>
    { S with infos := Function.update S.infos t (SessionInfo.set c info (S.infos t)).2 }
  | .apply t answers =>
    { S with conn := (SessionState.applyThreadSessionInfo c (S.infos t) answers S.conn).2 }
  | .logon t r => { S with conn := SessionState.logon c (S.infos t) r S.conn }

def run (S : Shared Thread) (ops : List (SessionOp Thread)) : Shared Thread := ops.foldl (step c) S

variable {c}

lemma known_step {S : Shared Thread} (hk : SessionState.Known c S.conn) (op : SessionOp Thread) :
    SessionState.Known c (S.step c op).conn := by
  cases op with
  | setInfo t info => exact hk
  | apply t answers =>
    exact SessionState.known_applyWith (SessionState.sets_setSessionAttr _ answers) _ hk
  | logon t r => exact SessionState.known_logon _ r _

lemma known_run {S : Shared Thread} (hk : SessionState.Known c S.conn) (ops : List (SessionOp Thread)) :
    SessionState.Known c (S.run c ops).conn := by
  induction ops generalizing S with
  | nil => exact hk
  | cons op ops ih => exact ih (known_step hk op)

end Shared

/-- A thread that has applied its values finds them in the session, whatever the threads did before. -/
theorem sessionInfo_isolated {Thread : Type} [DecidableEq Thread] (c : Setting)
    (attrs : SessionAttr → Text)
    (ops : List (SessionOp Thread)) :
    SessionState.Known c ((Shared.start attrs).run c ops).conn ∧
    ∀ (t : Thread) (answers : SessionAttr → AttrAnswer),
      (SessionState.applyThreadSessionInfo c (((Shared.start attrs).run c ops).infos t) answers
        ((Shared.start attrs).run c ops).conn).1 = false →
      ∀ a, SessionInfo.Converted c (SessionState.values (((Shared.start attrs).run c ops).infos t) a)
        ((SessionState.applyThreadSessionInfo c (((Shared.start attrs).run c ops).infos t) answers
          ((Shared.start attrs).run c ops).conn).2.attrs a) := by
  have hk : SessionState.Known c ((Shared.start attrs : Shared Thread).run c ops).conn :=
    Shared.known_run (fun h => by cases h) ops
  refine ⟨hk, ?_⟩
  intro t answers h a
  have hset :=
    SessionState.sets_setSessionAttr (c := c) (((Shared.start attrs).run c ops).infos t) answers
  exact SessionInfo.sessionText_converted (SessionState.applyWith_all hset hk h a).1

-- the first thread has applied its values, the second one has none
def twoThreads : Shared ℕ := (Shared.start fun _ => []).run plainSetting
  [.setInfo 0 (some [("module".toList, .string ⟨"report".toList, 0⟩)]), .apply 0 fun _ => ⟨.ok, []⟩]

theorem sessionInfo_isolated_two :
    SessionInfo.Converted plainSetting (SessionState.values (twoThreads.infos 1) .module)
      ((SessionState.applyThreadSessionInfo plainSetting (twoThreads.infos 1) (fun _ => ⟨.ok, []⟩)
        twoThreads.conn).2.attrs .module) :=
  (sessionInfo_isolated plainSetting _ _).2 1 (fun _ => ⟨.ok, []⟩) rfl .module

end OracleDriver
