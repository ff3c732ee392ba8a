import OracleDriver.Library.IndexedFold
import OracleDriver.Indicators
import OracleDriver.Reprepare

/-! The data that array binds deliver row by row. -/

namespace OracleDriver

-- the text of a C string with its end
def terminated (t : Text) : Text := t ++ ['\x00']

-- what a callback points to: a string, a number of eight bytes or of one, the descriptor that
-- dateTimeConstruct() sets, bytes, or the locator of a LOB with what is written to it
inductive Buffer where
  | null
  | chars (t : Text)
  | word (i : ℤ)
  | byte (n : ℕ)
  | double (bits : ℕ)
  | descriptor (epoch : ℤ) (micros : ℕ)
  | bytes (b : List UInt8)
  | clob (t : Text)
  | blob (b : List UInt8)
deriving DecidableEq

structure Delivery where
  ind : ℤ
  buf : Buffer
  len : ℕ
deriving DecidableEq

-- an entry of a StrVec, whose low bit marks a borrowed string
inductive StrEntry where
  | null
  | dynamic (t : Text)
  | static (t : Text)

def StrEntry.get : StrEntry → Buffer
  | null => .null
  | dynamic t | static t => .chars t

-- the indicators and the data of the elements, each in the place of its index
structure Filled (δ : Type) where
  ind : List ℤ
  vec : List δ

namespace Filled

variable {δ : Type}

def fillStep (f : ℕ → QoreValue → Except Exn δ) (s : Filled δ) (e : QoreValue × ℕ) :
    Except Exn (Filled δ) :=
  if e.1.isNullOrNothing then .ok { s with ind := s.ind.set e.2 (-1) }
  else (f e.2 e.1).map fun d => { s with vec := s.vec.set e.2 d }

def fill (f : ℕ → QoreValue → Except Exn δ) (d : δ) (l : List QoreValue) : Except Exn (Filled δ) :=
  l.zipIdx.foldlM (fillStep f) ⟨.replicate l.length 0, .replicate l.length d⟩

-- the elements before the index `j` are in their places
structure Upto (f : ℕ → QoreValue → Except Exn δ) (l : List QoreValue) (j : ℕ) (s : Filled δ) :
    Prop where
  length : s.vec.length = l.length
  ind : ∀ k v, l[k]? = some v → s.ind[k]? = some (if k < j ∧ v.isNullOrNothing then -1 else 0)
  vec : ∀ k v, l[k]? = some v → k < j → v.isNullOrNothing = false → ∃ d, s.vec[k]? = some d ∧
    f k v = .ok d

lemma ind_set {l : List QoreValue} {ind : List ℤ} {j : ℕ} {a : QoreValue} (ha : l[j]? = some a)
    (h : ∀ k v, l[k]? = some v → ind[k]? = some (if k < j ∧ v.isNullOrNothing then -1 else 0))
    (k : ℕ) (v : QoreValue)
    (hv : l[k]? = some v) :
    (if a.isNullOrNothing then ind.set j (-1) else ind)[k]? =
      some (if k < j + 1 ∧ v.isNullOrNothing then -1 else 0) := by
  have hk := h k v hv
  rcases Nat.lt_trichotomy k j with hlt | rfl | hgt
  · have hne : j ≠ k := by omega
    have hiff : k < j + 1 ↔ k < j := by omega
    split <;> simp only [List.getElem?_set_ne hne, hk, hiff]
  · obtain rfl : a = v := Option.some.inj (ha.symm.trans hv)
    obtain ⟨hlen, -⟩ := List.getElem?_eq_some_iff.mp hk
    cases hn : a.isNullOrNothing with
    | true => simp [hlen]
    | false => simpa [hn] using hk
  · have hne : j ≠ k := by omega
    have h1 : ¬ k < j := by omega
    have h2 : ¬ k < j + 1 := by omega
    split <;> simp only [List.getElem?_set_ne hne, hk, h1, h2, false_and, if_false]

lemma upto_step {f : ℕ → QoreValue → Except Exn δ} {l : List QoreValue} {j : ℕ} {a : QoreValue}
    {s s' : Filled δ}
    (ha : l[j]? = some a) (hs : Upto f l j s) (hrun : fillStep f s (a, j) = .ok s') :
    Upto f l (j + 1) s' := by
  unfold fillStep at hrun
  cases hn : a.isNullOrNothing with
  | true =>
    simp only [hn, if_true, Except.ok.injEq] at hrun
    subst hrun
    refine ⟨hs.length, ?_, ?_⟩
    · intro k v hv
      simpa [hn] using ind_set ha hs.ind k v hv
    · intro k v hv hk hnv
      apply hs.vec k v hv _ hnv
      rcases Nat.lt_succ_iff_lt_or_eq.mp hk with hlt | rfl
      · exact hlt
      · obtain rfl : a = v := Option.some.inj (ha.symm.trans hv)
        simp [hn] at hnv
  | false =>
    cases hf : f j a with
    | error e => simp [hn, hf, Except.map] at hrun
    | ok d =>
      simp only [hn, Bool.false_eq_true, if_false, hf, Except.map, Except.ok.injEq] at hrun
      subst hrun
      refine ⟨by simp [hs.length], ?_, ?_⟩
      · intro k v hv
        simpa [hn] using ind_set ha hs.ind k v hv
      · intro k v hv hk hnv
        rcases Nat.lt_succ_iff_lt_or_eq.mp hk with hlt | rfl
        · have hne : j ≠ k := by omega
          simpa only [List.getElem?_set_ne hne] using hs.vec k v hv hlt hnv
        · obtain rfl : a = v := Option.some.inj (ha.symm.trans hv)
          obtain ⟨hlen, -⟩ := List.getElem?_eq_some_iff.mp ha
          refine ⟨d, ?_, hf⟩
          simp [hs.length, hlen]

-- what row `i` of a list gets
lemma fill_spec {f : ℕ → QoreValue → Except Exn δ} {d : δ} {l : List QoreValue} {s : Filled δ}
    (hrun : fill f d l = .ok s) {i : ℕ} {v : QoreValue} (hv : l[i]? = some v) :
    ∃ ind e, s.ind[i]? = some ind ∧ s.vec[i]? = some e ∧ (ind = -1 ↔ v.isNullOrNothing = true) ∧
      (v.isNullOrNothing = false → f i v = .ok e) := by
  have hstart : Upto f l 0 ⟨.replicate l.length 0, .replicate l.length d⟩ := by
    refine ⟨List.length_replicate, ?_, fun k v _ hk => absurd hk (Nat.not_lt_zero k)⟩
    intro k w hw
    obtain ⟨hk, -⟩ := List.getElem?_eq_some_iff.mp hw
    simp [hk]
  have hs := IndexedFold.invariant (P := Upto f l) (fun _ _ _ _ => upto_step) hstart hrun
  obtain ⟨hi, -⟩ := List.getElem?_eq_some_iff.mp hv
  have hind := hs.ind i v hv
  cases hn : v.isNullOrNothing with
  | true =>
    have hlen : i < s.vec.length := hs.length.symm ▸ hi
    exact ⟨_, _, hind, List.getElem?_eq_getElem hlen, by simp [hi, hn], nofun⟩
  | false =>
    obtain ⟨e, he, hf⟩ := hs.vec i v hv hi hn
    exact ⟨_, e, hind, he, by simp [hn], fun _ => hf⟩

end Filled

-- the strings are appended one by one
structure Strings where
  ind : List ℤ
  alen : List ℕ
  strvec : List StrEntry

namespace Strings

def fillStep (f : QoreValue → Except Exn (StrEntry × ℕ)) (s : Strings) (e : QoreValue × ℕ) :
    Except Exn Strings :=
  if e.1.isNullOrNothing then .ok { s with ind := s.ind.set e.2 (-1), strvec := s.strvec ++ [.null] }
  else (f e.1).map fun r => { s with strvec := s.strvec ++ [r.1], alen := s.alen.set e.2 r.2 }

def fill (f : QoreValue → Except Exn (StrEntry × ℕ)) (l : List QoreValue) : Except Exn Strings :=
  l.zipIdx.foldlM (fillStep f) ⟨.replicate l.length 0, .replicate l.length 0, []⟩

structure Upto (f : QoreValue → Except Exn (StrEntry × ℕ)) (l : List QoreValue) (j : ℕ)
    (s : Strings) : Prop where
  alenLength : s.alen.length = l.length
  strLength : s.strvec.length = j
  ind : ∀ k v, l[k]? = some v → s.ind[k]? = some (if k < j ∧ v.isNullOrNothing then -1 else 0)
  entry : ∀ k v, l[k]? = some v → k < j → v.isNullOrNothing = false →
    ∃ r, s.strvec[k]? = some r.1 ∧ s.alen[k]? = some r.2 ∧ f v = .ok r

lemma upto_step {f : QoreValue → Except Exn (StrEntry × ℕ)} {l : List QoreValue} {j : ℕ} {a : QoreValue}
    {s s' : Strings} (ha : l[j]? = some a) (hs : Upto f l j s) (hrun : fillStep f s (a, j) = .ok s') :
    Upto f l (j + 1) s' := by
  unfold fillStep at hrun
  cases hn : a.isNullOrNothing with
  | true =>
    simp only [hn, if_true, Except.ok.injEq] at hrun
    subst hrun
    refine ⟨hs.alenLength, by simp [hs.strLength], ?_, ?_⟩
    · intro k v hv
      simpa [hn] using Filled.ind_set ha hs.ind k v hv
    · intro k v hv hk hnv
      rcases Nat.lt_succ_iff_lt_or_eq.mp hk with hlt | rfl
      · obtain ⟨r, hstr, halen, hf⟩ := hs.entry k v hv hlt hnv
        refine ⟨r, ?_, halen, hf⟩
        rw [List.getElem?_append_left (hs.strLength.symm ▸ hlt)]
        exact hstr
      · obtain rfl : a = v := Option.some.inj (ha.symm.trans hv)
        simp [hn] at hnv
  | false =>
    cases hf : f a with
    | error e => simp [hn, hf, Except.map] at hrun
    | ok r =>
      simp only [hn, Bool.false_eq_true, if_false, hf, Except.map, Except.ok.injEq] at hrun
      subst hrun
      refine ⟨by simp [hs.alenLength], by simp [hs.strLength], ?_, ?_⟩
      · intro k v hv
        simpa [hn] using Filled.ind_set ha hs.ind k v hv
      · intro k v hv hk hnv
        rcases Nat.lt_succ_iff_lt_or_eq.mp hk with hlt | rfl
        · obtain ⟨t, hstr, halen, hf'⟩ := hs.entry k v hv hlt hnv
          have hne : j ≠ k := by omega
          refine ⟨t, ?_, ?_, hf'⟩
          · rw [List.getElem?_append_left (hs.strLength.symm ▸ hlt)]
            exact hstr
          · simpa only [List.getElem?_set_ne hne] using halen
        · obtain rfl : a = v := Option.some.inj (ha.symm.trans hv)
          obtain ⟨hlen, -⟩ := List.getElem?_eq_some_iff.mp ha
          refine ⟨r, ?_, ?_, hf⟩
          · simp [hs.strLength]
          · simp [hs.alenLength, hlen]

lemma fill_spec {f : QoreValue → Except Exn (StrEntry × ℕ)} {l : List QoreValue} {s : Strings}
    (hrun : fill f l = .ok s) {i : ℕ} {v : QoreValue} (hv : l[i]? = some v) :
    ∃ ind r, s.ind[i]? = some ind ∧ s.strvec[i]? = some r.1 ∧ s.alen[i]? = some r.2 ∧
      (ind = -1 ↔ v.isNullOrNothing = true) ∧ (v.isNullOrNothing = false → f v = .ok r) := by
  have hstart : Upto f l 0 ⟨.replicate l.length 0, .replicate l.length 0, []⟩ := by
    refine ⟨List.length_replicate, rfl, ?_, fun k v _ hk => absurd hk (Nat.not_lt_zero k)⟩
    intro k w hw
    obtain ⟨hk, -⟩ := List.getElem?_eq_some_iff.mp hw
    simp [hk]
  have hs := IndexedFold.invariant (P := Upto f l) (fun _ _ _ _ => upto_step) hstart hrun
  obtain ⟨hi, -⟩ := List.getElem?_eq_some_iff.mp hv
  have hind := hs.ind i v hv
  cases hn : v.isNullOrNothing with
  | true =>
    have hstr : i < s.strvec.length := hs.strLength.symm ▸ hi
    have halen : i < s.alen.length := hs.alenLength.symm ▸ hi
    exact ⟨_, (_, _), hind, List.getElem?_eq_getElem hstr, List.getElem?_eq_getElem halen,
      by simp [hi, hn], nofun⟩
  | false =>
    obtain ⟨r, hstr, halen, hf⟩ := hs.entry i v hv hi hn
    exact ⟨_, r, hind, hstr, halen, by simp [hn], fun _ => hf⟩

end Strings

-- the objects behind the callbacks: one vector for each element of a list, or a single value
inductive ArrayData where
  | strings (s : Strings)
  | floats (s : Filled ℕ)
  | dates (s : Filled (Option (ℤ × ℕ)))
  | bools (s : Filled ℕ)
  | lobs (s : Filled (Option Buffer))
  | singleNull
  | singleInt (i : ℤ)
  | singleFloat (bits : ℕ)
  | singleString (t : Text) (len : ℕ)
  | singleDate (epoch : ℤ) (micros : ℕ)
  | singleBinary (b : List UInt8) (loc : Bool)

section Setup

variable (c : Setting) (oci : ℕ → Option Exn)

-- the Oracle calls for the element with index `j`
def callOci {δ : Type} (j : ℕ) (d : δ) : Except Exn δ :=
  match oci j with
  | some e => .error e
  | none => .ok d

def stringElement (inOnly : Bool) : QoreValue → Except Exn (StrEntry × ℕ)
  | .string s =>
    if inOnly && !c.inlineString s.text && s.enc == c.encoding then
      .ok (.static (terminated s.text), c.byteSize s.text + 1)
    else (c.encode s).map fun r => (.dynamic (terminated r.1), c.byteSize r.1 + 1)
  | v => .ok (.dynamic (terminated (c.lib.toText v)), c.byteSize (c.lib.toText v) + 1)

def floatElement (j : ℕ) : QoreValue → Except Exn ℕ
  | .float f => .ok f
  | v => .error (elementError (v, j) "float")

def dateElement (j : ℕ) : QoreValue → Except Exn (Option (ℤ × ℕ))
  | .date epoch micros => callOci oci j (some (epoch, micros))
  | v => .error (elementError (v, j) "date")

def boolElement (j : ℕ) : QoreValue → Except Exn ℕ
  | .bool b => .ok (if b then 1 else 0)
  | v => .error (elementError (v, j) "boolean")

def blobElement (j : ℕ) : QoreValue → Except Exn (Option Buffer)
  | .binary b => callOci oci j (some (.blob b))
  | v => .error (elementError (v, j) "binary")

def clobElement (j : ℕ) : QoreValue → Except Exn (Option Buffer)
  | .string s =>
    if !c.inlineString s.text && s.enc == c.encoding then callOci oci j (some (.clob s.text))
    else
      match c.encode s with
      | .ok r => callOci oci j (some (.clob r.1))
      | .error e => .error e
  | v => .error (elementError (v, j) "string")

-- setupBindImpl() of the classes
def setupArray (inOnly : Bool) (v : QoreValue) : ArrayBindClass → Except Exn ArrayData
  | .string | .number => (Strings.fill (stringElement c inOnly) v.elems).map .strings
  | .float => (Filled.fill floatElement 0 v.elems).map .floats
  | .date => (Filled.fill (dateElement oci) none v.elems).map .dates
  | .bool => (Filled.fill boolElement 0 v.elems).map .bools
  | .blob => (Filled.fill (blobElement oci) none v.elems).map .lobs
  | .clob => (Filled.fill (clobElement c oci) none v.elems).map .lobs
  | .singleNull => .ok .singleNull
  | .singleInt | .singleFloat | .singleString | .singleDate | .singleBinary =>
    match v with
    | .int i => .ok (.singleInt i)
    | .bool b => .ok (.singleInt (if b then 1 else 0))
    | .float f => .ok (.singleFloat f)
    | .number d => .ok (.singleString d (c.byteSize d + 1))
    | .string s => (c.encode s).map fun r => .singleString r.1 (c.byteSize r.1 + 1)
    | .date epoch micros => callOci oci 0 (.singleDate epoch micros)
    | .binary b => if b.length > lobThreshold then callOci oci 0 (.singleBinary b true)
        else .ok (.singleBinary b false)
    | _ => .ok .singleNull

-- OraBindNode::bindListValue(); the last Oracle call is OCIBindDynamic()
def arrayData (inOnly : Bool) (v : QoreValue) : Except Exn ArrayData :=
  match arrayClass c v with
  | .error e => .error e
  | .ok (k, _) =>
    match setupArray c oci inOnly v k with
    | .error e => .error e
    | .ok d => callOci oci v.elems.length d

end Setup

namespace ArrayData

-- AbstractDynamicArrayBindData::bindCallback(); none if an index is out of bounds
def callback (iter : ℕ) : ArrayData → Option Delivery
  | strings s => do
    let ind ← s.ind[iter]?
    let p ← s.strvec[iter]?
    let len ← s.alen[iter]?
    some ⟨ind, p.get, len⟩
  | floats s => do
    let ind ← s.ind[iter]?
    let f ← s.vec[iter]?
    some ⟨ind, .double f, 8⟩
  | dates s => do
    let ind ← s.ind[iter]?
    let d ← s.vec[iter]?
    some ⟨ind, d.elim .null fun d => .descriptor d.1 d.2, 0⟩
  | bools s => do
    let ind ← s.ind[iter]?
    let b ← s.vec[iter]?
    some ⟨ind, .byte b, 1⟩
  | lobs s => do
    let ind ← s.ind[iter]?
    let l ← s.vec[iter]?
    some ⟨ind, l.getD .null, 0⟩
  | singleNull => some ⟨-1, .null, 0⟩
  | singleInt i => some ⟨0, .word i, 8⟩
  | singleFloat f => some ⟨0, .double f, 8⟩
  | singleString t len => some ⟨0, .chars (terminated t), len⟩
  | singleDate epoch micros => some ⟨0, .descriptor epoch micros, 0⟩
  | singleBinary b loc => some (if loc then ⟨0, .blob b, 0⟩ else ⟨0, .bytes b, b.length⟩)

end ArrayData

-- the string in the encoding of the connection
inductive InEncoding (c : Setting) (s : QoreString) : Text → Prop
  | same (h : s.enc = c.encoding) : InEncoding c s s.text
  | converted {t : Text} (hne : s.enc ≠ c.encoding)
      (h : c.lib.convert s.enc c.encoding s.text = some t) :
      InEncoding c s t

def decimal (i : ℤ) : Text := (toString i).toList

-- the buffers and lengths that stand for exactly one value
inductive Encodes (c : Setting) : QoreValue → Buffer → ℕ → Prop
  | string {s : QoreString} {t : Text} (h : InEncoding c s t) :
      Encodes c (.string s) (.chars (terminated t)) (c.byteSize t + 1)
  | clob {s : QoreString} {t : Text} (h : InEncoding c s t) : Encodes c (.string s) (.clob t) 0
  | int (i : ℤ) : Encodes c (.int i) (.word i) 8
  | intText (i : ℤ) : Encodes c (.int i) (.chars (terminated (decimal i))) (c.byteSize (decimal i) + 1)
  | number (d : Text) : Encodes c (.number d) (.chars (terminated d)) (c.byteSize d + 1)
  | float (f : ℕ) : Encodes c (.float f) (.double f) 8
  | bool (b : Bool) : Encodes c (.bool b) (.word (if b then 1 else 0)) 8
  | boolByte (b : Bool) : Encodes c (.bool b) (.byte (if b then 1 else 0)) 1
  | date (epoch : ℤ) (micros : ℕ) : Encodes c (.date epoch micros) (.descriptor epoch micros) 0
  | bytes (b : List UInt8) : Encodes c (.binary b) (.bytes b) b.length
  | blob (b : List UInt8) : Encodes c (.binary b) (.blob b) 0

-- the indicator is that of NULL, or the buffer stands for the value
def Delivers (c : Setting) (v : QoreValue) (r : Delivery) : Prop :=
  (r.ind = -1 ↔ v.isNullOrNothing = true) ∧ (v.isNullOrNothing = false → Encodes c v r.buf r.len)

inductive ElementType where
  | string
  | int
  | number
  | float
  | date
  | bool
  | binary
deriving DecidableEq, Repr

def elementType : QoreValue → Option ElementType
  | .string _ => some .string
  | .int _ => some .int
  | .number _ => some .number
  | .float _ => some .float
  | .date _ _ => some .date
  | .bool _ => some .bool
  | .binary _ => some .binary
  | _ => none

-- the elements that are not NULL are direct values of one supported type
def Uniform (l : List QoreValue) : Prop :=
  ∃ t : ElementType, ∀ v ∈ l, v.isNullOrNothing = false → elementType v = some t

-- QoreStringValueHelper gives the digits of a number
structure DecimalText (lib : QoreLib) : Prop where
  int : ∀ i, lib.toText (.int i) = decimal i
  number : ∀ d, lib.toText (.number d) = d

section Elements

variable {c : Setting} {oci : ℕ → Option Exn}

lemma encode_inEncoding {s : QoreString} {r : Text × Bool} (h : c.encode s = .ok r) :
    InEncoding c s r.1 := by
  unfold Setting.encode at h
  split at h
  · rename_i he
    obtain rfl := Except.ok.inj h
    exact .same he
  · rename_i hne
    split at h
    · rename_i t ht
      obtain rfl := Except.ok.inj h
      exact .converted hne ht
    · cases h

lemma callOci_eq {δ : Type} {j : ℕ} {d e : δ} (h : callOci oci j d = .ok e) : d = e := by
  unfold callOci at h
  split at h
  · cases h
  · exact Except.ok.inj h

lemma stringElement_encodes (hdec : DecimalText c.lib) {inOnly : Bool} {v : QoreValue} {r : StrEntry × ℕ}
    (htype : elementType v = some .string ∨ elementType v = some .int ∨ elementType v = some .number)
    (h : stringElement c inOnly v = .ok r) : Encodes c v r.1.get r.2 := by
  cases v with
  | string s =>
    simp only [stringElement] at h
    split at h
    · rename_i hc
      obtain rfl := Except.ok.inj h
      simp only [Bool.and_eq_true, beq_iff_eq] at hc
      exact .string (.same hc.2)
    · cases he : c.encode s with
      | error e => simp [he, Except.map] at h
      | ok t =>
        simp only [he, Except.map, Except.ok.injEq] at h
        subst h
        exact .string (encode_inEncoding he)
  | int i =>
    obtain rfl := Except.ok.inj h
    simp only [hdec.int]
    exact .intText i
  | number d =>
    obtain rfl := Except.ok.inj h
    simp only [hdec.number]
    exact .number d
  | _ => simp [elementType] at htype

lemma floatElement_encodes {j : ℕ} {v : QoreValue} {f : ℕ} (h : floatElement j v = .ok f) :
    Encodes c v (.double f) 8 := by
  cases v with
  | float g =>
    obtain rfl := Except.ok.inj h
    exact .float g
  | _ => cases h

lemma dateElement_encodes {j : ℕ} {v : QoreValue} {d : Option (ℤ × ℕ)}
    (h : dateElement oci j v = .ok d) :
    Encodes c v (d.elim .null fun d => .descriptor d.1 d.2) 0 := by
  cases v with
  | date epoch micros =>
    obtain rfl := callOci_eq h
    exact .date epoch micros
  | _ => cases h

lemma boolElement_encodes {j : ℕ} {v : QoreValue} {n : ℕ} (h : boolElement j v = .ok n) :
    Encodes c v (.byte n) 1 := by
  cases v with
  | bool b =>
    obtain rfl := Except.ok.inj h
    exact .boolByte b
  | _ => cases h

lemma blobElement_encodes {j : ℕ} {v : QoreValue} {l : Option Buffer} (h : blobElement oci j v = .ok l) :
    Encodes c v (l.getD .null) 0 := by
  cases v with
  | binary b =>
    obtain rfl := callOci_eq h
    exact .blob b
  | _ => cases h

lemma clobElement_encodes {j : ℕ} {v : QoreValue} {l : Option Buffer}
    (h : clobElement c oci j v = .ok l) :
    Encodes c v (l.getD .null) 0 := by
  cases v with
  | string s =>
    simp only [clobElement] at h
    split at h
    · rename_i hc
      obtain rfl := callOci_eq h
      simp only [Bool.and_eq_true, beq_iff_eq] at hc
      exact .clob (.same hc.2)
    · split at h
      · rename_i r he
        obtain rfl := callOci_eq h
        exact .clob (encode_inEncoding he)
      · cases h
  | _ => cases h

end Elements

namespace ArrayData

variable {c : Setting}

lemma strings_delivers {f : QoreValue → Except Exn (StrEntry × ℕ)} {l : List QoreValue} {s : Strings}
    (hrun : Strings.fill f l = .ok s) {i : ℕ} {v : QoreValue} (hv : l[i]? = some v)
    (henc : v.isNullOrNothing = false → ∀ r, f v = .ok r → Encodes c v r.1.get r.2) :
    ∃ r, (strings s).callback i = some r ∧ Delivers c v r := by
  obtain ⟨ind, e, hind, hstr, halen, hnull, hf⟩ := Strings.fill_spec hrun hv
  refine ⟨⟨ind, e.1.get, e.2⟩, ?_, hnull, fun hn => henc hn e (hf hn)⟩
  simp [callback, hind, hstr, halen]

lemma filled_delivers {δ : Type} {f : ℕ → QoreValue → Except Exn δ} {d : δ} {l : List QoreValue}
    {s : Filled δ}
    (hrun : Filled.fill f d l = .ok s) {i : ℕ} {v : QoreValue} (hv : l[i]? = some v) {D : ArrayData}
    {buf : δ → Buffer} {len : ℕ}
    (hcall : ∀ ind e, s.ind[i]? = some ind → s.vec[i]? = some e → D.callback i = some ⟨ind, buf e, len⟩)
    (henc : ∀ e, f i v = .ok e → Encodes c v (buf e) len) :
    ∃ r, D.callback i = some r ∧ Delivers c v r := by
  obtain ⟨ind, e, hind, hvec, hnull, hf⟩ := Filled.fill_spec hrun hv
  exact ⟨_, hcall ind e hind hvec, hnull, fun hn => henc e (hf hn)⟩

-- a list whose first element that is not NULL has the class `k`
lemma setupArray_delivers (hdec : DecimalText c.lib) {oci : ℕ → Option Exn} {inOnly : Bool}
    {l : List QoreValue}
    {k : ArrayBindClass} {D : ArrayData} (hD : setupArray c oci inOnly (.list l) k = .ok D)
    (hk : k = .string ∨ k = .number ∨ k = .float ∨ k = .date ∨ k = .bool ∨ k = .blob ∨ k = .clob)
    (htype : k = .string ∨ k = .number → ∀ v ∈ l, v.isNullOrNothing = false →
      elementType v = some .string ∨ elementType v = some .int ∨ elementType v = some .number)
    {i : ℕ} {v : QoreValue} (hv : l[i]? = some v) : ∃ r, D.callback i = some r ∧ Delivers c v r := by
  have hmem : v ∈ l := List.mem_of_getElem? hv
  have hstrings : ∀ {s}, Strings.fill (stringElement c inOnly) l = .ok s → (k = .string ∨ k = .number) →
      ∃ r, (strings s).callback i = some r ∧ Delivers c v r := fun hs hk =>
    strings_delivers hs hv fun hn r hr => stringElement_encodes hdec (htype hk v hmem hn) hr
  rcases hk with rfl | rfl | rfl | rfl | rfl | rfl | rfl <;>
    simp only [setupArray, QoreValue.elems] at hD
  · obtain ⟨s, hs, rfl⟩ := IndexedFold.map_eq_ok.mp hD
    exact hstrings hs (Or.inl rfl)
  · obtain ⟨s, hs, rfl⟩ := IndexedFold.map_eq_ok.mp hD
    exact hstrings hs (Or.inr rfl)
  · obtain ⟨s, hs, rfl⟩ := IndexedFold.map_eq_ok.mp hD
    exact filled_delivers hs hv (fun ind e h1 h2 => by simp [callback, h1, h2]) fun e he =>
      floatElement_encodes he
  · obtain ⟨s, hs, rfl⟩ := IndexedFold.map_eq_ok.mp hD
    exact filled_delivers hs hv (fun ind e h1 h2 => by simp [callback, h1, h2]) fun e he =>
      dateElement_encodes he
  · obtain ⟨s, hs, rfl⟩ := IndexedFold.map_eq_ok.mp hD
    exact filled_delivers hs hv (fun ind e h1 h2 => by simp [callback, h1, h2]) fun e he =>
      boolElement_encodes he
  · obtain ⟨s, hs, rfl⟩ := IndexedFold.map_eq_ok.mp hD
    exact filled_delivers hs hv (fun ind e h1 h2 => by simp [callback, h1, h2]) fun e he =>
      blobElement_encodes he
  · obtain ⟨s, hs, rfl⟩ := IndexedFold.map_eq_ok.mp hD
    exact filled_delivers hs hv (fun ind e h1 h2 => by simp [callback, h1, h2]) fun e he =>
      clobElement_encodes he

-- the class of a list is that of its first element that is not NULL
lemma arrayClass_list {l : List QoreValue} {k : ArrayBindClass} {owned : Bool} (hu : Uniform l)
    (h : arrayClass c (.list l) = .ok (k, owned)) :
    (k = .singleNull ∧ ∀ v ∈ l, v.isNullOrNothing = true) ∨
      ((k = .string ∨ k = .number ∨ k = .float ∨ k = .date ∨ k = .bool ∨ k = .blob ∨ k = .clob) ∧
        (k = .string ∨ k = .number → ∀ v ∈ l, v.isNullOrNothing = false →
          elementType v = some .string ∨ elementType v = some .int ∨ elementType v = some .number)) := by
  obtain ⟨t, ht⟩ := hu
  simp only [arrayClass] at h
  cases hfind : l.find? (!·.isNullOrNothing) with
  | none =>
    simp only [hfind, Except.ok.injEq, Prod.mk.injEq] at h
    refine Or.inl ⟨h.1.symm, fun v hv => ?_⟩
    simpa using List.find?_eq_none.mp hfind v hv
  | some w =>
    have hw : w.isNullOrNothing = false := by simpa using List.find?_some hfind
    have htw := ht w (List.mem_of_find?_eq_some hfind) hw
    simp only [hfind] at h
    refine Or.inr ?_
    cases w with
    | string s =>
      obtain rfl : ElementType.string = t := Option.some.inj htw
      refine ⟨?_, fun _ v hv hn => Or.inl (ht v hv hn)⟩
      simp only at h
      split at h <;> simp_all
    | int i =>
      obtain rfl : ElementType.int = t := Option.some.inj htw
      refine ⟨?_, fun _ v hv hn => Or.inr (Or.inl (ht v hv hn))⟩
      simp_all
    | number d =>
      obtain rfl : ElementType.number = t := Option.some.inj htw
      refine ⟨?_, fun _ v hv hn => Or.inr (Or.inr (ht v hv hn))⟩
      simp_all
    | float f =>
      simp only [Except.ok.injEq, Prod.mk.injEq] at h
      obtain ⟨rfl, -⟩ := h
      simp
    | date epoch micros =>
      simp only [Except.ok.injEq, Prod.mk.injEq] at h
      obtain ⟨rfl, -⟩ := h
      simp
    | bool b =>
      simp only [Except.ok.injEq, Prod.mk.injEq] at h
      obtain ⟨rfl, -⟩ := h
      simp
    | binary b =>
      simp only [Except.ok.injEq, Prod.mk.injEq] at h
      obtain ⟨rfl, -⟩ := h
      simp
    | _ => simp at h

end ArrayData

-- row `i` of an argument: the element of a list, or the value itself
def argRow (v : QoreValue) (i : ℕ) : QoreValue :=
  match v.resolveIndirect with
  | .list l => l.getD i .nothing
  | w => w

section Statement

variable (c : Setting)

-- OraBindNode::bind() in an array bind; `oci` are the exceptions of its Oracle calls
def bindArrayNode (oci : ℕ → Option Exn) (arraySize pos : ℕ) (m : OraBindNode) :
    Except Exn (Option ArrayData) :=
  match m.bindCase c arraySize with
  | .value v inOnly => (arrayData c oci inOnly v.resolveIndirect).map some
  | .placeholder => (NodeAct.outputClass m).map fun _ => none
  | .refused e => .error (e pos)

-- QorePreparedStatement::bindOracle(); without a list there is no array data
def bindOracleArrays (oci : ℕ → ℕ → Option Exn) (nodes : List OraBindNode) :
    Except Exn (List (Option ArrayData)) :=
  if scanArraySize nodes = 0 then .ok (nodes.map fun _ => none)
  else nodes.zipIdx.mapM fun e => bindArrayNode c (oci e.2) (scanArraySize nodes) (e.2 + 1) e.1

variable {c}

lemma scanArraySize_eq {nodes : List OraBindNode} {n : ℕ} (hn : 0 < n)
    (hlist : ∃ m ∈ nodes, m.isValue = true ∧ ∃ l, m.value = .list l)
    (hlists : ∀ m ∈ nodes, m.isValue = true → ∀ l, m.value = .list l → l.length = n) :
    scanArraySize nodes = n := by
  have hkeep : ∀ nodes : List OraBindNode, (∀ m ∈ nodes, m.isValue = true → ∀ l,
      m.value = .list l → l.length = n) →
      ∀ size, (size = n ∨ size = 0 ∧ ∃ m ∈ nodes, m.isValue = true ∧ ∃ l, m.value = .list l) →
        nodes.foldl (fun size m =>
          if m.isValue then
            match m.value with
            | .list l => if size = 0 then l.length else size
            | _ => size
          else size) size = n := by
    intro nodes
    induction nodes with
    | nil =>
      rintro - size (rfl | ⟨-, m, hm, -⟩)
      · rfl
      · cases hm
    | cons m nodes ih =>
      intro hall size hsize
      obtain ⟨hfirst, hrest⟩ := List.forall_mem_cons.mp hall
      rw [List.foldl_cons]
      apply ih hrest
      cases hv : m.isValue with
      | false =>
        rcases hsize with rfl | ⟨rfl, k, hk, hkv, l, hl⟩
        · exact Or.inl rfl
        · rcases List.mem_cons.mp hk with rfl | hk
          · simp [hv] at hkv
          · exact Or.inr ⟨rfl, k, hk, hkv, l, hl⟩
      | true =>
        cases hval : m.value with
        | list l =>
          have hl := hfirst hv l hval
          left
          rcases hsize with rfl | ⟨rfl, -⟩
          · have hpos : size ≠ 0 := by omega
            simp [hpos]
          · simpa using hl
        | _ =>
          rcases hsize with rfl | ⟨rfl, k, hk, hkv, l, hl⟩
          · exact Or.inl rfl
          · rcases List.mem_cons.mp hk with rfl | hk
            · simp [hval] at hl
            · exact Or.inr ⟨rfl, k, hk, hkv, l, hl⟩
  exact hkeep nodes hlists 0 (Or.inr ⟨rfl, hlist⟩)

lemma single_delivers {oci : ℕ → Option Exn} {v : QoreValue} (hv : ∀ l, v ≠ .list l) {D : ArrayData}
    (hD : arrayData c oci true v = .ok D) (i : ℕ) : ∃ r, D.callback i = some r ∧ Delivers c v r := by
  unfold arrayData at hD
  cases hclass : arrayClass c v with
  | error e => simp [hclass] at hD
  | ok r =>
    obtain ⟨k, owned⟩ := r
    simp only [hclass] at hD
    cases hsetup : setupArray c oci true v k with
    | error e => simp [hsetup] at hD
    | ok D' =>
      simp only [hsetup] at hD
      obtain rfl := callOci_eq hD
      cases v with
      | nothing | null =>
        obtain ⟨rfl, -⟩ := Prod.mk.inj (Except.ok.inj hclass)
        obtain rfl := Except.ok.inj hsetup
        exact ⟨_, rfl, by simp [QoreValue.isNullOrNothing], nofun⟩
      | bool b =>
        obtain ⟨rfl, -⟩ := Prod.mk.inj (Except.ok.inj hclass)
        obtain rfl := Except.ok.inj hsetup
        exact ⟨_, rfl, by simp [QoreValue.isNullOrNothing], fun _ => .bool b⟩
      | int j =>
        obtain ⟨rfl, -⟩ := Prod.mk.inj (Except.ok.inj hclass)
        obtain rfl := Except.ok.inj hsetup
        exact ⟨_, rfl, by simp [QoreValue.isNullOrNothing], fun _ => .int j⟩
      | float f =>
        obtain ⟨rfl, -⟩ := Prod.mk.inj (Except.ok.inj hclass)
        obtain rfl := Except.ok.inj hsetup
        exact ⟨_, rfl, by simp [QoreValue.isNullOrNothing], fun _ => .float f⟩
      | number d =>
        obtain ⟨rfl, -⟩ := Prod.mk.inj (Except.ok.inj hclass)
        obtain rfl := Except.ok.inj hsetup
        exact ⟨_, rfl, by simp [QoreValue.isNullOrNothing], fun _ => .number d⟩
      | date epoch micros =>
        obtain ⟨rfl, -⟩ := Prod.mk.inj (Except.ok.inj hclass)
        obtain rfl := callOci_eq hsetup
        exact ⟨_, rfl, by simp [QoreValue.isNullOrNothing], fun _ => .date epoch micros⟩
      | string s =>
        obtain ⟨r, -, hr⟩ := IndexedFold.map_eq_ok.mp hclass
        obtain ⟨rfl, -⟩ := Prod.mk.inj hr
        obtain ⟨t, ht, rfl⟩ := IndexedFold.map_eq_ok.mp hsetup
        exact ⟨_, rfl, by simp [QoreValue.isNullOrNothing], fun _ => .string (encode_inEncoding ht)⟩
      | binary b =>
        obtain ⟨rfl, -⟩ := Prod.mk.inj (Except.ok.inj hclass)
        simp only [setupArray] at hsetup
        split at hsetup
        · obtain rfl := callOci_eq hsetup
          exact ⟨_, rfl, by simp [QoreValue.isNullOrNothing], fun _ => .blob b⟩
        · obtain rfl := Except.ok.inj hsetup
          exact ⟨_, rfl, by simp [QoreValue.isNullOrNothing], fun _ => .bytes b⟩
      | list l => exact absurd rfl (hv l)
      | _ => cases hclass

lemma list_delivers (hdec : DecimalText c.lib) {oci : ℕ → Option Exn} {l : List QoreValue}
    (hu : Uniform l)
    {D : ArrayData} (hD : arrayData c oci true (.list l) = .ok D) {i : ℕ} {v : QoreValue}
    (hv : l[i]? = some v) :
    ∃ r, D.callback i = some r ∧ Delivers c v r := by
  unfold arrayData at hD
  cases hclass : arrayClass c (.list l) with
  | error e => simp [hclass] at hD
  | ok r =>
    obtain ⟨k, owned⟩ := r
    simp only [hclass] at hD
    cases hsetup : setupArray c oci true (.list l) k with
    | error e => simp [hsetup] at hD
    | ok D' =>
      simp only [hsetup] at hD
      obtain rfl := callOci_eq hD
      rcases ArrayData.arrayClass_list hu hclass with ⟨rfl, hnull⟩ | ⟨hk, htype⟩
      · obtain rfl := Except.ok.inj hsetup
        have hn := hnull v (List.mem_of_getElem? hv)
        exact ⟨⟨-1, .null, 0⟩, rfl, by simp [hn], by simp [hn]⟩
      · exact ArrayData.setupArray_delivers hdec hsetup hk htype hv

end Statement

/-- Every row of an array bind is delivered at every value position. -/
theorem callback_delivers (c : Setting) (hdec : DecimalText c.lib) (oci : ℕ → ℕ → Option Exn)
    (nodes : List OraBindNode) (n : ℕ) (hn : 0 < n)
    (hlist : ∃ m ∈ nodes, m.isValue = true ∧ ∃ l, m.value = .list l)
    (hlists : ∀ m ∈ nodes, m.isValue = true → ∀ l,
      m.value.resolveIndirect = .list l → l.length = n ∧ Uniform l)
    (data : List (Option ArrayData)) (hok : bindOracleArrays c oci nodes = .ok data) (p : ℕ)
    (m : OraBindNode)
    (hm : nodes[p]? = some m) (hv : m.isValue = true) (i : ℕ) (hi : i < n) :
    ∃ D r, data[p]? = some (some D) ∧ D.callback i = some r ∧ Delivers c (argRow m.value i) r := by
  have hdirect : ∀ m ∈ nodes, m.isValue = true → ∀ l, m.value = .list l → l.length = n := by
    intro m hm hv l hl
    apply (hlists m hm hv l _).1
    rw [hl]
    rfl
  have hsize := scanArraySize_eq hn hlist hdirect
  have hpos : ¬ n = 0 := by omega
  rw [bindOracleArrays, hsize, if_neg hpos] at hok
  have hzip : nodes.zipIdx[p]? = some (m, p) := by
    rw [List.getElem?_zipIdx, hm]
    simp
  obtain ⟨x, hx, hbind⟩ := IndexedFold.mapM_getElem? hok hzip
  have hcase : m.bindCase c n = .value m.value true := if_pos hv
  simp only [bindArrayNode, hcase] at hbind
  obtain ⟨D, hD, rfl⟩ := IndexedFold.map_eq_ok.mp hbind
  by_cases hl : ∃ l, m.value.resolveIndirect = .list l
  · obtain ⟨l, hl⟩ := hl
    obtain ⟨hlen, hu⟩ := hlists m (List.mem_of_getElem? hm) hv l hl
    have hil : i < l.length := by omega
    have hget : l[i]? = some (l.getD i .nothing) := by simp [List.getD, hil]
    have hrow : argRow m.value i = l.getD i .nothing := by simp only [argRow, hl]
    rw [hl] at hD
    obtain ⟨r, hr, hdel⟩ := list_delivers hdec hu hD hget
    exact ⟨D, r, hx, hr, hrow ▸ hdel⟩
  · have hnot : ∀ l, m.value.resolveIndirect ≠ .list l := fun l h => hl ⟨l, h⟩
    have hrow : argRow m.value i = m.value.resolveIndirect := by
      unfold argRow
      split
      · rename_i l h
        exact absurd h (hnot l)
      · rfl
    obtain ⟨r, hr, hdel⟩ := single_delivers hnot hD i
    exact ⟨D, r, hx, hr, hrow ▸ hdel⟩

lemma plainLib_decimal : DecimalText plainLib := ⟨fun _ => rfl, fun _ => rfl⟩

/-- A list with a NULL and one value for both rows. -/
theorem callback_delivers_mixed :
    ∃ D r, ([some (.bools ⟨[0, -1], [1, 0]⟩),
      some (.singleFloat 3)] : List (Option ArrayData))[0]? = some (some D) ∧
      D.callback 1 = some r ∧ Delivers plainSetting (argRow (.list [.bool true, .null]) 1) r := by
  apply callback_delivers plainSetting plainLib_decimal (fun _ _ => none)
    [.ofValue (.list [.bool true, .null]), .ofValue (.float 3)] 2 (by decide)
    ⟨_, List.mem_cons_self, rfl, _, rfl⟩ _ _ rfl 0 _ rfl rfl 1 (by decide)
  intro m hm _ l hl
  rcases List.mem_cons.mp hm with rfl | hm
  · obtain rfl := QoreValue.list.inj hl
    exact ⟨rfl, .bool, by simp [QoreValue.isNullOrNothing, elementType]⟩
  · obtain rfl := List.mem_singleton.mp hm
    cases hl

end OracleDriver
