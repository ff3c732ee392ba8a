import OracleDriver.SessionTruncation

/-! The session attributes of a thread as bytes: they are set from a hash, and a hash is made of them. -/

namespace OracleDriver

open LeadBytes

-- a value of a hash, with the bytes of a string in its encoding
inductive SessionValue where
  | nothing
  | null
  | string (bytes : List UInt8) (enc : Encoding)
  | other (typeName : String)
deriving DecidableEq, Repr

abbrev SessionHash := SessionAttr → SessionValue

-- the values of a thread as they are stored
abbrev SessionBytes := SessionAttr → List UInt8

namespace SessionBytes

section Model

-- `toUtf8` is TempEncodingHelper, with none for an exception
variable (utf8Enc : Encoding) (toUtf8 : Encoding → List UInt8 → Option (List UInt8))

def attrValue (a : SessionAttr) : SessionValue → Except Exn (List UInt8)
  | .nothing | .null => .ok []
  | .string bytes enc =>
    if enc = utf8Enc then .ok (oraTruncateUtf8 bytes sessionAttrMaxBytes)
    else
      match toUtf8 enc bytes with
      | some str => .ok (oraTruncateUtf8 str sessionAttrMaxBytes)
      | none => .error notConverted
  | .other t => .error (SessionInfo.badKey a.key t)

def attrValues (h : SessionHash) : List SessionAttr → SessionBytes → Except Exn SessionBytes
  | [], info => .ok info
  | a :: attrs, info => do
    let bytes ← attrValue utf8Enc toUtf8 a (h a)
    attrValues h attrs (Function.update info a bytes)

def isEmpty (info : SessionBytes) : Bool := SessionAttr.all.all fun a => (info a).isEmpty

-- ora_set_thread_session_info()
def set (info : Option SessionHash) (old : Option SessionBytes) :
    Except Exn Unit × Option SessionBytes :=
  match info with
  | none => (.ok (), none)
  | some h =>
    match attrValues utf8Enc toUtf8 h SessionAttr.all fun _ => [] with
    | .ok v => (.ok (), if isEmpty v then none else some v)
    | .error e => (.error e, old)

-- the bytes of a string that is made of c_str()
def cBytes (bytes : List UInt8) : List UInt8 := bytes.takeWhile (· ≠ 0)

-- ora_get_thread_session_info_hash()
def getHash (info : Option SessionBytes) : Option SessionHash :=
  info.map fun v a => if v a = [] then .nothing else .string (cBytes (v a)) utf8Enc

def restore (info : Option SessionBytes) : Except Exn Unit × Option SessionBytes :=
  set utf8Enc toUtf8 (getHash utf8Enc info) info

-- a thread starts without values
def run (hashes : List (Option SessionHash)) : Option SessionBytes :=
  hashes.foldl (fun info h => (set utf8Enc toUtf8 h info).2) none

end Model

/-- Setting the hash that was made of the values leaves them as they are, and a set that fails does
so too. -/
structure Restores (utf8Enc : Encoding) (toUtf8 : Encoding → List UInt8 → Option (List UInt8))
    (info : Option SessionBytes) :
    Prop where
  restored : restore utf8Enc toUtf8 info = (.ok (), info)
  failed : ∀ h, (set utf8Enc toUtf8 h info).1 ≠ .ok () → (set utf8Enc toUtf8 h info).2 = info

def NoZero (info : Option SessionBytes) : Prop := ∀ v, info = some v → ∀ a, 0 ∉ v a

section Proofs

variable {utf8Enc : Encoding} {toUtf8 : Encoding → List UInt8 → Option (List UInt8)} {h : SessionHash}

lemma truncatedLength_le (str : List UInt8) (n : ℕ) : truncatedLength str n ≤ n := by
  induction n with
  | zero => exact Nat.le_refl _
  | succ n ih =>
    rw [truncatedLength]
    split
    · omega
    · exact Nat.le_refl _

lemma length_truncate (str : List UInt8) (n : ℕ) : (oraTruncateUtf8 str n).length ≤ n := by
  rw [oraTruncateUtf8]
  split
  case isTrue hle => exact hle
  case isFalse =>
    have hlen := truncatedLength_le str n
    rw [List.length_take]
    omega

-- what is stored for an attribute is cut
lemma attrValue_length {a : SessionAttr} {v : SessionValue} {bytes : List UInt8}
    (hv : attrValue utf8Enc toUtf8 a v = .ok bytes) : bytes.length ≤ sessionAttrMaxBytes := by
  unfold attrValue at hv
  split at hv
  · rw [← Except.ok.inj hv]
    exact Nat.zero_le _
  · rw [← Except.ok.inj hv]
    exact Nat.zero_le _
  · split at hv
    · rw [← Except.ok.inj hv]
      exact length_truncate _ _
    · split at hv
      · rw [← Except.ok.inj hv]
        exact length_truncate _ _
      · exact absurd hv nofun
  · exact absurd hv nofun

-- every attribute of the list gets its value
lemma attrValues_ok {attrs : List SessionAttr} {info v : SessionBytes}
    (hv : attrValues utf8Enc toUtf8 h attrs info = .ok v) (a : SessionAttr) :
    if a ∈ attrs then attrValue utf8Enc toUtf8 a (h a) = .ok (v a) else v a = info a := by
  induction attrs generalizing info with
  | nil => rw [if_neg List.not_mem_nil, Except.ok.inj hv]
  | cons a' attrs ih =>
    cases hval : attrValue utf8Enc toUtf8 a' (h a') with
    | error e =>
      rw [attrValues, hval] at hv
      exact absurd hv nofun
    | ok bytes =>
      rw [attrValues, hval] at hv
      have hrest := ih hv
      by_cases hin : a ∈ attrs
      · rw [if_pos hin] at hrest
        rwa [if_pos (List.mem_cons_of_mem a' hin)]
      · rw [if_neg hin] at hrest
        by_cases heq : a = a'
        · rw [heq, Function.update_self] at hrest
          rw [heq, if_pos List.mem_cons_self, hrest, hval]
        · rw [Function.update_of_ne heq] at hrest
          rwa [if_neg (by simp [heq, hin])]

lemma attrValues_of {f : SessionBytes} (hf : ∀ a, attrValue utf8Enc toUtf8 a (h a) = .ok (f a)) :
    attrValues utf8Enc toUtf8 h SessionAttr.all (fun _ => []) = .ok f := by
  have hsome : ∀ attrs info, ∃ v, attrValues utf8Enc toUtf8 h attrs info = .ok v := by
    intro attrs
    induction attrs with
    | nil => exact fun info => ⟨info, rfl⟩
    | cons a attrs ih =>
      intro info
      rw [attrValues, hf a]
      exact ih _
  obtain ⟨v, hv⟩ := hsome SessionAttr.all fun _ => []
  have heq : v = f := by
    funext a
    have hval := attrValues_ok hv a
    rw [if_pos a.mem_all, hf a] at hval
    exact (Except.ok.inj hval).symm
  rw [hv, heq]

lemma isEmpty_iff (info : SessionBytes) : isEmpty info = true ↔ ∀ a, info a = [] := by
  rw [isEmpty, List.all_eq_true]
  constructor
  · intro hall a
    exact List.isEmpty_iff.mp (hall a a.mem_all)
  · intro hall a _
    rw [hall a]
    rfl

-- what every thread has: values that were cut, and not only empty ones
def Stored (info : Option SessionBytes) : Prop :=
  ∀ v, info = some v → (∀ a, (v a).length ≤ sessionAttrMaxBytes) ∧ ∃ a, v a ≠ []

lemma set_failed {info : Option SessionHash} {old : Option SessionBytes}
    (herr : (set utf8Enc toUtf8 info old).1 ≠ .ok ()) : (set utf8Enc toUtf8 info old).2 = old := by
  cases info with
  | none => exact absurd rfl herr
  | some h =>
    rw [set] at herr ⊢
    cases hv : attrValues utf8Enc toUtf8 h SessionAttr.all fun _ => [] with
    | ok v =>
      rw [hv] at herr
      exact absurd rfl herr
    | error e => rfl

lemma set_stored (info : Option SessionHash) {old : Option SessionBytes} (hold : Stored old) :
    Stored (set utf8Enc toUtf8 info old).2 := by
  cases info with
  | none => exact nofun
  | some h =>
    rw [set]
    cases hv : attrValues utf8Enc toUtf8 h SessionAttr.all fun _ => [] with
    | error e => exact hold
    | ok v =>
      by_cases hempty : isEmpty v = true
      · simp only [if_pos hempty]
        exact nofun
      · simp only [if_neg hempty]
        rintro _ ⟨rfl⟩
        constructor
        · intro a
          have hval := attrValues_ok hv a
          rw [if_pos a.mem_all] at hval
          exact attrValue_length hval
        · rw [isEmpty_iff] at hempty
          push Not at hempty
          exact hempty

-- induction on the hashes, over what the thread has before them
lemma run_stored (hashes : List (Option SessionHash)) : Stored (run utf8Enc toUtf8 hashes) := by
  have hfrom : ∀ (hashes : List (Option SessionHash)) info, Stored info →
      Stored (hashes.foldl (fun info h => (set utf8Enc toUtf8 h info).2) info) := by
    intro hashes
    induction hashes with
    | nil => exact fun _ hstored => hstored
    | cons h hashes ih => exact fun _ hstored => ih _ (set_stored h hstored)
  exact hfrom hashes none nofun

lemma cBytes_eq_iff (bytes : List UInt8) : cBytes bytes = bytes ↔ 0 ∉ bytes := by
  rw [cBytes, List.takeWhile_eq_self_iff]
  constructor
  · intro hall hmem
    exact absurd (hall 0 hmem) (by decide)
  · intro hnot b hb
    rw [decide_eq_true_eq]
    rintro rfl
    exact hnot hb

lemma restore_some {v : SessionBytes} (hv : ∀ a, (v a).length ≤ sessionAttrMaxBytes) :
    restore utf8Enc toUtf8 (some v) =
      (.ok (), if isEmpty (fun a => cBytes (v a)) then none else some fun a => cBytes (v a)) := by
  have hval : ∀ a, attrValue utf8Enc toUtf8 a
      (if v a = [] then .nothing else .string (cBytes (v a)) utf8Enc) =
      .ok (cBytes (v a)) := by
    intro a
    by_cases hnil : v a = []
    · rw [if_pos hnil, hnil]
      rfl
    · have hle : (cBytes (v a)).length ≤ sessionAttrMaxBytes :=
        (List.takeWhile_prefix _).length_le.trans (hv a)
      rw [if_neg hnil, attrValue, if_pos rfl, oraTruncateUtf8, if_pos hle]
  rw [restore, getHash, Option.map_some, set, attrValues_of hval]

lemma restore_iff {info : Option SessionBytes} (hstored : Stored info) :
    restore utf8Enc toUtf8 info = (.ok (), info) ↔ NoZero info := by
  cases info with
  | none => exact ⟨fun _ => nofun, fun _ => rfl⟩
  | some v =>
    obtain ⟨hlen, a, hne⟩ := hstored v rfl
    rw [restore_some hlen]
    constructor
    · intro h w hw b
      obtain rfl := Option.some.inj hw
      have hsame := (Prod.ext_iff.mp h).2
      by_cases hempty : isEmpty (fun a => cBytes (v a)) = true
      · rw [if_pos hempty] at hsame
        exact absurd hsame nofun
      · rw [if_neg hempty] at hsame
        exact (cBytes_eq_iff (v b)).mp (congrFun (Option.some.inj hsame) b)
    · intro h
      have hsame : (fun a => cBytes (v a)) = v := by
        funext b
        exact (cBytes_eq_iff (v b)).mpr (h v rfl b)
      have hempty : ¬ isEmpty v = true := fun hempty => hne ((isEmpty_iff v).mp hempty a)
      rw [hsame, if_neg hempty]

theorem run_restores_iff (utf8Enc : Encoding) (toUtf8 : Encoding → List UInt8 → Option (List UInt8))
    (hashes : List (Option SessionHash)) :
    Restores utf8Enc toUtf8 (run utf8Enc toUtf8 hashes) ↔ NoZero (run utf8Enc toUtf8 hashes) := by
  constructor
  · intro hrestores
    exact (restore_iff (run_stored hashes)).mp hrestores.restored
  · intro hzero
    exact ⟨(restore_iff (run_stored hashes)).mpr hzero, fun _ => set_failed⟩

-- "a\0b" as the module comes back as "a"
theorem zero_byte_not_restored :
    ¬ ∀ (utf8Enc : Encoding) (toUtf8 : Encoding → List UInt8 → Option (List UInt8)) hashes,
    Restores utf8Enc toUtf8 (run utf8Enc toUtf8 hashes) := by
  intro hall
  have hsame := (hall 1 (fun _ bytes => some bytes)
    [some fun a => if a = .module then .string [97, 0, 98] 1 else .nothing]).restored
  have hmodule := congrArg (fun r => r.2.map fun v => v .module) hsame
  exact absurd hmodule (by decide)

end Proofs

section Texts

variable {c : Setting} {toUtf8 : Encoding → List UInt8 → Option (List UInt8)}

def encoded (info : SessionInfo) : SessionBytes := fun a => utf8 (info a)

def valueOf (c : Setting) : QoreValue → SessionValue
  | .nothing => .nothing
  | .null => .null
  | .string s => .string (c.bytes s) s.enc
  | v => .other (String.ofList v.typeName)

def hashOf (c : Setting) (h : List (Text × QoreValue)) : SessionHash :=
  fun a => valueOf c (QoreValue.getKeyValue h a.key)

-- the bytes of strings and their conversion are those of their texts
structure OfTexts (c : Setting) (toUtf8 : Encoding → List UInt8 → Option (List UInt8)) : Prop where
  plain : ∀ s : QoreString, s.enc = c.utf8 → c.bytes s = utf8 s.text
  converted : ∀ s : QoreString, s.enc ≠ c.utf8 →
    toUtf8 s.enc (c.bytes s) = (c.lib.convert s.enc c.utf8 s.text).map utf8

lemma attrValue_encoded (ht : OfTexts c toUtf8) (a : SessionAttr) (v : QoreValue) :
    attrValue c.utf8 toUtf8 a (valueOf c v) = (SessionInfo.attrValue c a.key v).map utf8 := by
  cases v with
  | string s =>
    rw [valueOf, attrValue, SessionInfo.attrValue]
    by_cases henc : s.enc = c.utf8
    · rw [if_pos henc, if_pos henc, ht.plain s henc, oraTruncateUtf8_utf8]
      rfl
    · rw [if_neg henc, if_neg henc, ht.converted s henc]
      cases c.lib.convert s.enc c.utf8 s.text with
      | none => rfl
      | some t =>
        rw [Option.map_some]
        simp only [oraTruncateUtf8_utf8]
        rfl
  | _ => rfl

lemma update_encoded (info : SessionInfo) (a : SessionAttr) (t : Text) :
    Function.update (encoded info) a (utf8 t) = encoded (Function.update info a t) := by
  funext b
  by_cases hb : b = a
  · subst hb
    simp [encoded]
  · simp [encoded, hb]

lemma attrValues_encoded (ht : OfTexts c toUtf8) (h : List (Text × QoreValue)) (attrs : List SessionAttr)
    (info : SessionInfo) : attrValues c.utf8 toUtf8 (hashOf c h) attrs (encoded info) =
      (SessionInfo.attrValues c h attrs info).map encoded := by
  induction attrs generalizing info with
  | nil => rfl
  | cons a attrs ih =>
    rw [attrValues, SessionInfo.attrValues, hashOf, attrValue_encoded ht]
    cases SessionInfo.attrValue c a.key (QoreValue.getKeyValue h a.key) with
    | error e => rfl
    | ok t =>
      have hrest := ih (Function.update info a t)
      rw [← update_encoded] at hrest
      exact hrest

lemma isEmpty_utf8 (t : Text) : (utf8 t).isEmpty = t.isEmpty := by
  cases t with
  | nil => rfl
  | cons ch t =>
    obtain ⟨b, l, heq, -⟩ := encode_head utf8_encodes (a := ch) (t := t)
    rw [utf8, heq]
    rfl

lemma isEmpty_encoded (info : SessionInfo) :
    isEmpty (encoded info) = SessionAttr.all.all fun a => (info a).isEmpty := by
  simp only [isEmpty, encoded, isEmpty_utf8]

/-- On texts this is the model of `SessionInfo`. -/
theorem set_encoded (ht : OfTexts c toUtf8) (info : Option (List (Text × QoreValue)))
    (old : Option SessionInfo) :
    set c.utf8 toUtf8 (info.map (hashOf c)) (old.map encoded) =
      ((SessionInfo.set c info old).1, (SessionInfo.set c info old).2.map encoded) := by
  cases info with
  | none => rfl
  | some h =>
    rw [Option.map_some, set, SessionInfo.set]
    have hvalues := attrValues_encoded ht h SessionAttr.all fun _ => []
    have hnone : encoded (fun _ => []) = fun _ => [] := rfl
    rw [hnone] at hvalues
    rw [hvalues]
    cases SessionInfo.attrValues c h SessionAttr.all fun _ => [] with
    | error e => rfl
    | ok v =>
      simp only [Except.map, isEmpty_encoded]
      split <;> rfl

end Texts

end SessionBytes

end OracleDriver
