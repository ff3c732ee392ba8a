import OracleDriver.ArrayBinds

/-! The buffers of IN OUT parameters, which are bound, read and released by separate switches. -/

namespace OracleDriver

inductive InOutType where
  | string
  | clob
  | binary
  | blob
  | integer
  | float
deriving DecidableEq

def InOutType.name : InOutType → String
  | string => "string"
  | clob => "clob"
  | binary => "binary"
  | blob => "blob"
  | integer => "integer"
  | float => "float"

-- what the buffer of a node is or points to
inductive Memory where
  | stale
  | word (i : ℤ)
  | double (bits : ℕ)
  | cString (t : Text)
  | cBytes (b : List UInt8)
  | raw (b : List UInt8)
  | locator
deriving DecidableEq

-- the memory that OCIBindByPos() gets: the buffer of the node, or the string that data.save() keeps
inductive Place where
  | buf
  | saved
deriving DecidableEq

structure InOutBind where
  dtype : Dtype
  place : Place
  buf : Memory
  saved : Option Text
deriving DecidableEq

namespace InOut

variable (c : Setting)

-- bindValue() with in_only = false
def bindValue : QoreValue → Except Exn InOutBind
  | .string s => (c.encode s).map fun r => ⟨.str, .buf, .cString r.1, none⟩
  | .binary b => .ok ⟨.bin, .buf, .cBytes b, none⟩
  | .int i =>
    if i ≤ maxInt32 && -maxInt32 ≤ i then .ok ⟨.int, .buf, .word i, none⟩
    else .ok ⟨.str, .saved, .stale, some (decimal i)⟩
  | .float f => .ok ⟨.flt, .buf, .double f, none⟩
  | v => .error (bindError v.typeName "binding")

-- bindPlaceholder() for a binary value without data; that of a LOB allocates a locator only
def bindPlaceholder (v : QoreValue) : InOutType → Except Exn InOutBind
  | .blob => .ok ⟨.blob, .buf, .locator, none⟩
  | _ => (c.encodeValue v).map fun t => ⟨.lvb, .buf, .raw (c.bytes ⟨t, c.encoding⟩), none⟩

-- OraBindNode::bind(): the value is converted to the declared type
def bind (t : InOutType) (v : QoreValue) : Except Exn InOutBind :=
  match t with
  | .string | .clob => bindValue c (.string (c.stringOf v))
  | .binary | .blob =>
    match v with
    | .binary b => bindValue c (.binary b)
    | v =>
      if (c.stringOf v).text.isEmpty then bindPlaceholder c v t
      else bindValue c (.binary (c.bytes (c.stringOf v)))
  | .integer => bindValue c (.int (c.intOf v))
  | .float => bindValue c (.float (c.floatOf v))

-- OraColumnValue::getValue() of what is in the buffer; none where it takes it for something else
def getValue : Dtype → Memory → Option QoreValue
  | .int, .word i => some (.int i)
  | .flt, .double f => some (.float f)
  | .bin, .raw b | .lbi, .raw b | .lvb, .raw b => some (.binary b)
  | .chr, .cString t | .str, .cString t => some (.string ⟨cStr t, c.encoding⟩)
  | _, _ => none

-- OraColumnValue::del() releases the buffer as what it was allocated as
def released : Dtype → Memory → Bool
  | .int, .word _ | .flt, .double _ => true
  | .bin, .raw _ | .lbi, .raw _ | .lvb, .raw _ => true
  | .clob, .locator | .blob, .locator => true
  | .chr, .cString _ | .str, .cString _ | .chr, .cBytes _ | .str, .cBytes _ => true
  | _, _ => false

-- the value of the declared type that is bound
def declaredValue (t : InOutType) (v : QoreValue) : Option QoreValue :=
  match t with
  | .string | .clob => (c.encode (c.stringOf v)).toOption.map fun r => .string ⟨r.1, c.encoding⟩
  | .binary | .blob =>
    match v with
    | .binary b => some (.binary b)
    | v => (c.encodeValue v).toOption.map fun t => .binary (c.bytes ⟨t, c.encoding⟩)
  | .integer => some (.int (c.intOf v))
  | .float => some (.float (c.floatOf v))

-- the buffer that is registered is the one that is read and released, and it reads as the value
structure Agrees (t : InOutType) (v : QoreValue) (b : InOutBind) : Prop where
  place : b.place = .buf
  released : released b.dtype b.buf = true
  value : ∃ w, declaredValue c t v = some w ∧ getValue c b.dtype b.buf = some w

-- a string has no zero character in the encoding of the connection, an integer is in the range of the
-- type int with the lowest number left out, and a binary value is an empty text
def Representable (t : InOutType) (v : QoreValue) : Prop :=
  match t with
  | .string | .clob => ∀ r, c.encode (c.stringOf v) = .ok r → '\x00' ∉ r.1
  | .binary => v.isBinary = false ∧ (c.stringOf v).text = []
  | .blob => False
  | .integer => c.intOf v ≤ maxInt32 ∧ -maxInt32 ≤ c.intOf v
  | .float => True

variable {c} {v : QoreValue} {b : InOutBind}

-- the case of a node with the declared type
lemma bind_eq {n : OraBindNode} {t : InOutType} (ht : n.phType = some t.name.toList) :
    bind c t n.value = match n.inOutCase c with
      | .value w _ => bindValue c w
      | .placeholder => bindPlaceholder c n.value t
      | .refused e => .error (e 0) := by
  have htype (name : String) : n.isType name = (t.name == name) := by
    rw [OraBindNode.isType, ht, Option.some_beq_some, Bool.eq_iff_iff]
    simp [String.toList_inj]
  cases t with
  | binary | blob =>
    simp only [OraBindNode.inOutCase, htype, InOutType.name, bind]
    cases hv : n.value with
    | binary b => rfl
    | _ =>
      simp only [QoreValue.isBinary]
      split
      · rename_i h
        simp [h]
      · rename_i h
        simp [h]
  | _ => simp [OraBindNode.inOutCase, htype, InOutType.name, bind]

lemma string_agrees_iff {t : InOutType} (ht : t = .string ∨ t = .clob) (hb : bind c t v = .ok b) :
    Agrees c t v b ↔ Representable c t v := by
  have hbind : bindValue c (.string (c.stringOf v)) = .ok b := by rcases ht with rfl | rfl <;> exact hb
  obtain ⟨r, hr, rfl⟩ := IndexedFold.map_eq_ok.mp hbind
  have hdecl : declaredValue c t v = some (.string ⟨r.1, c.encoding⟩) := by
    rcases ht with rfl | rfl <;> simp [declaredValue, hr, Except.toOption]
  have hrep : Representable c t v ↔ cStr r.1 = r.1 := by
    rw [cStr_eq_iff]
    rcases ht with rfl | rfl <;> simp [Representable, hr]
  rw [hrep]
  constructor
  · rintro ⟨-, -, w, hw, hget⟩
    rw [hdecl] at hw
    obtain rfl := Option.some.inj hw
    have h := QoreValue.string.inj (Option.some.inj hget)
    exact congrArg QoreString.text h
  · intro h
    refine ⟨rfl, rfl, _, hdecl, ?_⟩
    simp only [getValue, h]

lemma bytes_not_agrees {t : InOutType} {bytes : List UInt8} (hb : bindValue c (.binary bytes) = .ok b) :
    ¬ Agrees c t v b := by
  obtain rfl := Except.ok.inj hb
  intro h
  cases h.released

lemma text_agrees_iff {t : InOutType} (ht : t = .binary ∨ t = .blob) (hv : v.isBinary = false)
    (hb : bind c t v = .ok b) : Agrees c t v b ↔ Representable c t v := by
  have hbind : bind c t v = if (c.stringOf v).text.isEmpty then bindPlaceholder c v t
      else bindValue c (.binary (c.bytes (c.stringOf v))) := by
    rcases ht with rfl | rfl <;> cases v <;> first | rfl | cases hv
  have hdecl : declaredValue c t v = (c.encodeValue v).toOption.map fun t =>
      .binary (c.bytes ⟨t, c.encoding⟩) := by
    rcases ht with rfl | rfl <;> cases v <;> first | rfl | cases hv
  rw [hbind] at hb
  split at hb
  · rename_i hempty
    have htext : (c.stringOf v).text = [] := List.isEmpty_iff.mp hempty
    rcases ht with rfl | rfl
    · obtain ⟨r, hr, rfl⟩ := IndexedFold.map_eq_ok.mp hb
      simp only [Representable, hv, htext, and_self, iff_true]
      refine ⟨rfl, rfl, _, ?_, rfl⟩
      rw [hdecl, hr]
      rfl
    · obtain rfl := Except.ok.inj hb
      simp only [Representable, iff_false]
      rintro ⟨-, -, w, -, hget⟩
      cases hget
  · rename_i hempty
    have hnot : ¬ Agrees c t v b := bytes_not_agrees hb
    simp only [hnot, false_iff]
    rcases ht with rfl | rfl
    · rintro ⟨-, htext⟩
      simp [htext] at hempty
    · exact id

lemma binary_agrees_iff {t : InOutType} (ht : t = .binary ∨ t = .blob) (hb : bind c t v = .ok b) :
    Agrees c t v b ↔ Representable c t v := by
  cases hv : v.isBinary with
  | false => exact text_agrees_iff ht hv hb
  | true =>
    cases v with
    | binary bytes =>
      have hbytes : bindValue c (.binary bytes) = .ok b := by rcases ht with rfl | rfl <;> exact hb
      have hnot : ¬ Agrees c t (.binary bytes) b := bytes_not_agrees hbytes
      simp only [hnot, false_iff]
      rcases ht with rfl | rfl
      · rintro ⟨h, -⟩
        cases h
      · exact id
    | _ => cases hv

lemma integer_agrees_iff (hb : bind c .integer v = .ok b) :
    Agrees c .integer v b ↔ Representable c .integer v := by
  simp only [bind, bindValue] at hb
  split at hb
  · rename_i hrange
    obtain rfl := Except.ok.inj hb
    simp only [Bool.and_eq_true, decide_eq_true_eq] at hrange
    simp only [Representable, hrange, and_self, iff_true]
    exact ⟨rfl, rfl, _, rfl, rfl⟩
  · rename_i hrange
    obtain rfl := Except.ok.inj hb
    simp only [Bool.and_eq_true, decide_eq_true_eq] at hrange
    simp only [Representable, hrange, iff_false]
    intro h
    cases h.place

end InOut

open InOut

/-- The IN OUT values that come back as they are, if the server leaves the parameter alone. -/
theorem inOut_agrees_iff (c : Setting) (t : InOutType) (v : QoreValue) (b : InOutBind)
    (hb : InOut.bind c t v = .ok b) : Agrees c t v b ↔ Representable c t v := by
  cases t with
  | string => exact string_agrees_iff (Or.inl rfl) hb
  | clob => exact string_agrees_iff (Or.inr rfl) hb
  | binary => exact binary_agrees_iff (Or.inl rfl) hb
  | blob => exact binary_agrees_iff (Or.inr rfl) hb
  | integer => exact integer_agrees_iff hb
  | float =>
    obtain rfl := Except.ok.inj hb
    simp only [Representable, iff_true]
    exact ⟨rfl, rfl, _, rfl, rfl⟩

theorem inOut_agrees_iff_small : Agrees plainSetting .integer (.int 7) ⟨.int, .buf, .word 7, none⟩ ↔
    Representable plainSetting .integer (.int 7) := by
  apply inOut_agrees_iff
  rfl

/-- The lowest integer that is bound as a string. -/
theorem not_agrees_integer : ∃ b, InOut.bind plainSetting .integer (.int 2147483648) = .ok b ∧
    ¬ Agrees plainSetting .integer (.int 2147483648) b := by
  refine ⟨_, rfl, ?_⟩
  intro h
  cases h.place

end OracleDriver
