import Mathlib.Data.List.Range
import OracleDriver.Library.FixedWidth
import OracleDriver.Values

/-! LOBs in attributes of objects and in elements of collections, which are read into one buffer. -/

namespace OracleDriver

open FixedWidth

-- a CLOB as the bytes of each character in the encoding of the connection
inductive LobContent where
  | clob (chars : List (List UInt8))
  | blob (bytes : List UInt8)
deriving DecidableEq, Repr

namespace LobContent

def isBlob : LobContent → Bool
  | clob _ => false
  | blob _ => true

def bytes : LobContent → List UInt8
  | clob chars => chars.flatten
  | blob bytes => bytes

-- characters of a CLOB, bytes of a BLOB
def length : LobContent → ℕ
  | clob chars => chars.length
  | blob bytes => bytes.length

end LobContent

inductive LobValue where
  | string (bytes : List UInt8)
  | binary (bytes : List UInt8)
deriving DecidableEq, Repr

def LobContent.value : LobContent → LobValue
  | clob chars => .string chars.flatten
  | blob bytes => .binary bytes

-- OCILobGetLength2(), OCILobGetLength(), OCILobRead2() and OCILobRead(), with the amounts, the
-- offset and the size of the buffer; the last call counts the characters of a fixed width instead
-- of their bytes
structure LobClient where
  getLength2 : LobContent → Option ℕ
  getLength : LobContent → Option ℕ
  read2 : LobContent → ℕ → ℕ → ℕ → ℕ → Option (List UInt8 × ℕ × ℕ)
  read : LobContent → ℕ → ℕ → ℕ → Option (List UInt8 × ℕ)
  fixedWidth : Bool

-- what the client documents for a read of a whole LOB that fits in the buffer
structure LobClient.Reads (c : LobClient) : Prop where
  length2 : ∀ l, c.getLength2 l = some l.length
  length : ∀ l, l.length < 2 ^ 32 → c.getLength l = some l.length
  clob2 : ∀ chars n size, chars.flatten.length ≤ size →
    c.read2 (.clob chars) n chars.length 1 size = some
      (chars.flatten, chars.flatten.length, chars.length)
  blob2 : ∀ bytes n size, bytes.length ≤ size →
    ∃ chars, c.read2 (.blob bytes) bytes.length n 1 size = some (bytes, bytes.length, chars)
  clob : ∀ chars size, chars.flatten.length ≤ size →
    c.read (.clob chars) chars.length 1 size =
      some (chars.flatten, if c.fixedWidth then chars.length else chars.flatten.length)
  blob : ∀ bytes size, bytes.length ≤ size → c.read (.blob bytes) bytes.length 1 size = some
    (bytes, bytes.length)

structure OciLibrary where
  useLobUb8 : Bool
  nlsUtf8 : Bool

inductive LobError where
  | noLength
  | tooLarge (tl : ℤ)
  | noMemory (byteLen : ℕ)
  -- unless the library has raised an exception of its own
  | notRead (byteLen : ℕ)
deriving DecidableEq, Repr

inductive LobSite where
  | object (schema name cname : String)
  | collection (schema name : String)

namespace LobSite

def subject : LobSite → String
  | object schema name _ => "Object of type " ++ schema ++ "." ++ name
  | collection schema name => "Collection " ++ schema ++ "." ++ name

def problem : LobSite → LobError → String
  | object _ _ cname, .noLength => " failed to retrieve length for LOB attribute '" ++ (cname ++ "'")
  | object _ _ cname, .noMemory n =>
    " failed to allocate " ++ toString (wrap 32 n) ++ " bytes for LOB attribute '" ++ cname ++ "'"
  | object _ _ cname, .notRead n =>
    " failed to fetch " ++ toString (wrap 32 n) ++ " bytes for LOB attribute '" ++ cname ++ "'"
  | collection .., .noLength => " failed to retrieve LOB length for collection"
  | collection .., .noMemory n => " failed to allocate " ++ toString (wrap 32 n) ++
      " bytes for collection"
  | collection .., .notRead n => " failed to fetch " ++ toString (wrap 32 n) ++ " bytes for collection"
  | _, .tooLarge tl => " cannot use OCILib LOB APIs to read a LOB of size " ++ toString tl

def error (site : LobSite) (e : LobError) : Exn := ⟨"FETCH-NTY-ERROR", site.subject ++ site.problem e⟩

end LobSite

-- `product` is the byte length before it is reduced to 32 bits, `told` is the size of the buffer in
-- the call, and `reach` is the end of what is written to it
structure LobReading where
  result : Except Exn LobValue
  product : ℕ
  allocated : ℕ
  told : ℕ
  reach : ℕ

section Read

variable (o : OciLibrary) (c : LobClient)

def ociLobGetLength (l : LobContent) : ℕ :=
  (if o.useLobUb8 then c.getLength2 l else c.getLength l).getD 0

-- the size that the buffer is said to have, the bytes that are read, and the counts of the bytes
-- and the characters
def ociLobRead2 (l : LobContent) (charCount byteCount : ℕ) : ℕ × Option (List UInt8 × ℕ × ℕ) :=
  let byteCount :=
    if l.isBlob = false ∧ byteCount = 0 ∧ 0 < charCount then
      (if o.nlsUtf8 then charCount * 4 else charCount) % 2 ^ 32
    else byteCount
  if byteCount < 1 then (byteCount, none)
  else if o.useLobUb8 then
    (byteCount, (c.read2 l byteCount charCount 1 byteCount).map fun r =>
      (r.1, r.2.1 % 2 ^ 32, r.2.2 % 2 ^ 32))
  else
    (byteCount, (c.read l (if l.isBlob then byteCount else charCount) 1 byteCount).map fun r =>
      (r.1, r.2, r.2))

-- the bytes of the buffer after OCI_LobRead2(): a zero is written behind what was read of a CLOB,
-- which may be behind the buffer
def lobBuffer (l : LobContent) (memory : ℕ → UInt8) (size : ℕ) (data : List UInt8) (byteCount : ℕ) :
    List UInt8 :=
  let buffer := (List.range size).map fun i => data.getD i (memory i)
  if l.isBlob then buffer else buffer.set byteCount 0

def lobReach (l : LobContent) (data : List UInt8) (byteCount : ℕ) : ℕ :=
  if l.isBlob then data.length else max data.length (byteCount + 1)

variable (alloc : ℕ → Bool) (memory : ℕ → UInt8) (maxCharWidth : ℕ)

def readLobAttribute (site : LobSite) (l : LobContent) : LobReading :=
  let tl := wrap 64 (ociLobGetLength o c l)
  if tl = 0 then ⟨.error (site.error .noLength), 0, 0, 0, 0⟩
  else if 2 ^ 32 ≤ tl then ⟨.error (site.error (.tooLarge tl)), 0, 0, 0, 0⟩
  else
    let charLen := (tl % 2 ^ 32).toNat
    let product := if l.isBlob then charLen else charLen * maxCharWidth
    let byteLen := product % 2 ^ 32
    if alloc byteLen = false then ⟨.error (site.error (.noMemory byteLen)), product, 0, 0, 0⟩
    else
      let read := ociLobRead2 o c l charLen byteLen
      match read.2 with
      | none => ⟨.error (site.error (.notRead read.1)), product, byteLen, read.1,
          if read.1 < 1 then 0 else lobReach l [] read.1⟩
      | some (data, byteCount, _) =>
        let buffer := lobBuffer l memory byteLen data byteCount
        let value := if l.isBlob then .binary buffer else .string (buffer.take byteCount)
        ⟨.ok value, product, byteLen, read.1, lobReach l data byteCount⟩

-- the cases SQLT_CLOB and SQLT_BLOB of objToQore() and of collToQore()
def objToQoreLob (schema name cname : String) (l : LobContent) : LobReading :=
  readLobAttribute o c alloc memory maxCharWidth (.object schema name cname) l

def collToQoreLob (schema name : String) (l : LobContent) : LobReading :=
  readLobAttribute o c alloc memory maxCharWidth (.collection schema name) l

end Read

/-- The whole LOB is read or it is too large, the byte length fits in 32 bits, and the buffer is as
large as the client is told and as what is written. -/
structure ReadWhole (site : LobSite) (l : LobContent) (r : LobReading) : Prop where
  whole : r.result = .ok l.value ∨ ∃ tl, r.result = .error (site.error (.tooLarge tl))
  fits : r.product < 2 ^ 32
  room : r.told ≤ r.allocated
  inside : r.reach ≤ r.allocated

-- a LOB that is not empty; the bytes of a CLOB are counted in 32 bits, the client has to return
-- their number, and one of its characters is shorter than the widest of the encoding
def LobReadable (o : OciLibrary) (c : LobClient) (maxCharWidth : ℕ) (l : LobContent) : Prop :=
  l.length ≠ 0 ∧ (l.isBlob = true ∨ l.length * maxCharWidth < 2 ^ 32 ∧
    l.bytes.length < l.length * maxCharWidth ∧
    (o.useLobUb8 = true ∨ c.fixedWidth = false ∨ l.bytes.length = l.length))

section Proofs

variable {o : OciLibrary} {c : LobClient} {alloc : ℕ → Bool} {memory : ℕ → UInt8} {w : ℕ}
  {site : LobSite} {l : LobContent}

lemma append_ne (p : String) {s t : String} (hs : s.toList[1]? = some 'f')
    (ht : t.toList[1]? = some 'c') :
    p ++ s ≠ p ++ t := by
  intro heq
  have hlist := congrArg String.toList heq
  simp only [String.toList_append, List.append_cancel_left_eq] at hlist
  rw [hlist, ht] at hs
  cases hs

lemma noLength_char : (site.problem .noLength).toList[1]? = some 'f' := by
  cases site with
  | object schema name cname =>
    show (" failed to retrieve length for LOB attribute '" ++ (cname ++ "'")).toList[1]? = some 'f'
    rw [String.toList_append, List.getElem?_append_left (by decide)]
    decide
  | collection schema name =>
    show " failed to retrieve LOB length for collection".toList[1]? = some 'f'
    decide

lemma tooLarge_char (tl : ℤ) : (site.problem (.tooLarge tl)).toList[1]? = some 'c' := by
  have htext : site.problem
      (.tooLarge tl) = " cannot use OCILib LOB APIs to read a LOB of size " ++ toString tl := by
    cases site <;> rfl
  rw [htext, String.toList_append, List.getElem?_append_left (by decide)]
  decide

lemma error_noLength (tl : ℤ) : site.error .noLength ≠ site.error (.tooLarge tl) := fun h =>
  append_ne _ noLength_char (tooLarge_char tl) (Exn.mk.inj h).2

lemma getLength_eq (hc : c.Reads) (hl : l.length < 2 ^ 32) : ociLobGetLength o c l = l.length := by
  rw [ociLobGetLength]
  split
  · rw [hc.length2, Option.getD_some]
  · rw [hc.length l hl, Option.getD_some]

lemma wrap_length (hl : l.length < 2 ^ 32) : wrap 64 l.length = l.length := by
  apply wrap_of_fits (by omega)
  constructor <;> omega

lemma readLobAttribute_empty (hc : c.Reads) (hl : l.length = 0) :
    (readLobAttribute o c alloc memory w site l).result = .error (site.error .noLength) := by
  have hlen := getLength_eq (o := o) hc (by omega : l.length < 2 ^ 32)
  simp [readLobAttribute, hlen, hl, wrap]

lemma length_buffer {data : List UInt8} {size n : ℕ} :
    (lobBuffer l memory size data n).length = size := by
  cases l <;> simp [lobBuffer, LobContent.isBlob]

lemma take_buffer {data : List UInt8} {size : ℕ} (hle : data.length ≤ size) :
    (lobBuffer l memory size data data.length).take data.length = data := by
  apply List.ext_getElem
  · rw [List.length_take, length_buffer, Nat.min_eq_left hle]
  · intro i hi hid
    have hne : ¬data.length = i := hid.ne'
    rw [List.getElem_take]
    cases l <;> simp [lobBuffer, LobContent.isBlob, hid, hne]

lemma buffer_eq (data : List UInt8) : lobBuffer l memory data.length data data.length = data := by
  have htake : (lobBuffer l memory data.length data data.length).take data.length = data :=
    take_buffer le_rfl
  rwa [List.take_of_length_le length_buffer.le] at htake

lemma toNat_length (hl : l.length < 2 ^ 32) : ((l.length : ℤ) % 2 ^ 32).toNat = l.length := by
  omega

lemma readLobAttribute_eq (hc : c.Reads) (hl : l.length < 2 ^ 32) (hne : l.length ≠ 0) :
    readLobAttribute o c alloc memory w site l =
      let product := if l.isBlob then l.length else l.length * w
      let byteLen := product % 2 ^ 32
      if alloc byteLen = false then ⟨.error (site.error (.noMemory byteLen)), product, 0, 0, 0⟩
      else
        let read := ociLobRead2 o c l l.length byteLen
        match read.2 with
        | none => ⟨.error (site.error (.notRead read.1)), product, byteLen, read.1,
            if read.1 < 1 then 0 else lobReach l [] read.1⟩
        | some (data, byteCount, _) =>
          let buffer := lobBuffer l memory byteLen data byteCount
          let value := if l.isBlob then .binary buffer else .string (buffer.take byteCount)
          ⟨.ok value, product, byteLen, read.1, lobReach l data byteCount⟩ := by
  have htl : wrap 64 (ociLobGetLength o c l) = l.length := by rw [getLength_eq hc hl, wrap_length hl]
  simp only [readLobAttribute, htl, toNat_length hl]
  rw [if_neg (by omega), if_neg (by omega)]

lemma ociLobRead2_blob (hc : c.Reads) {bytes : List UInt8} (hlt : bytes.length < 2 ^ 32)
    (hne : bytes.length ≠ 0) :
    ∃ m, ociLobRead2 o c (.blob bytes) bytes.length bytes.length =
      (bytes.length, some (bytes, bytes.length, m)) := by
  have hpos : ¬bytes.length < 1 := by omega
  have hmod : bytes.length % 2 ^ 32 = bytes.length := Nat.mod_eq_of_lt hlt
  simp only [ociLobRead2, LobContent.isBlob, Bool.true_eq_false, false_and, if_false, if_true,
    if_neg hpos]
  split
  · obtain ⟨m, hread⟩ := hc.blob2 bytes bytes.length bytes.length le_rfl
    rw [hread, Option.map_some, hmod]
    exact ⟨_, rfl⟩
  · rw [hc.blob bytes bytes.length le_rfl]
    exact ⟨_, rfl⟩

lemma ociLobRead2_clob (hc : c.Reads) {chars : List (List UInt8)} {size : ℕ}
    (hle : chars.flatten.length ≤ size)
    (hsize : size < 2 ^ 32) (hne : size ≠ 0) :
    ∃ m, ociLobRead2 o c (.clob chars) chars.length size = (size,
      some (chars.flatten, if o.useLobUb8 = false ∧
        c.fixedWidth = true then chars.length else chars.flatten.length, m)) := by
  have hpos : ¬size < 1 := by omega
  have hmod : chars.flatten.length % 2 ^ 32 = chars.flatten.length := Nat.mod_eq_of_lt (by omega)
  simp only [ociLobRead2, LobContent.isBlob, hne, false_and, and_false, if_false, if_neg hpos]
  cases o.useLobUb8 with
  | true =>
    rw [if_pos rfl, hc.clob2 chars size size hle, Option.map_some, hmod]
    exact ⟨chars.length % 2 ^ 32, by simp⟩
  | false =>
    rw [if_neg Bool.false_ne_true, if_neg Bool.false_ne_true, hc.clob chars size hle]
    exact ⟨if c.fixedWidth then chars.length else chars.flatten.length, by simp⟩

lemma flatten_length_le {chars : List (List UInt8)} (hw : ∀ u ∈ chars, u.length ≤ w) :
    chars.flatten.length ≤ chars.length * w := by
  induction chars with
  | nil => exact Nat.zero_le _
  | cons u chars ih =>
    have hu := hw u List.mem_cons_self
    have hrest := ih fun v hv => hw v (List.mem_cons_of_mem u hv)
    rw [List.flatten_cons, List.length_append, List.length_cons, Nat.succ_mul]
    omega

lemma readLobAttribute_blob (hc : c.Reads) (ha : ∀ n, 0 < n → alloc n = true) {bytes : List UInt8}
    (hlt : bytes.length < 2 ^ 32)
    (hne : bytes.length ≠ 0) : readLobAttribute o c alloc memory w site (.blob bytes) =
      ⟨.ok (.binary bytes), bytes.length, bytes.length, bytes.length, bytes.length⟩ := by
  obtain ⟨m, hread⟩ := ociLobRead2_blob (o := o) hc hlt hne
  have hmod : bytes.length % 2 ^ 32 = bytes.length := Nat.mod_eq_of_lt hlt
  have halloc : alloc bytes.length = true := ha _ (by omega)
  rw [readLobAttribute_eq (l := .blob bytes) hc hlt hne]
  simp only [LobContent.isBlob, LobContent.length, if_true, hmod, halloc, Bool.true_eq_false,
    if_false, hread, buffer_eq, lobReach]

-- the count that the client returns for the characters is the number of the bytes
def CountsBytes (o : OciLibrary) (c : LobClient) (chars : List (List UInt8)) : Prop :=
  o.useLobUb8 = true ∨ c.fixedWidth = false ∨ chars.flatten.length = chars.length

variable (o memory site) in
lemma readLobAttribute_clob (hc : c.Reads) (ha : ∀ n, 0 < n → alloc n = true)
    {chars : List (List UInt8)} (hw : 0 < w)
    (hchars : ∀ u ∈ chars, u.length ≤ w) (hlt : chars.length * w < 2 ^ 32) (hne : chars.length ≠ 0) :
    ∃ data reach, readLobAttribute o c alloc memory w site (.clob chars) =
      ⟨.ok (.string data), chars.length * w, chars.length * w, chars.length * w, reach⟩ ∧
      (data = chars.flatten ↔ CountsBytes o c chars) ∧
      (data = chars.flatten → reach = chars.flatten.length + 1) := by
  have hpos : chars.length * w ≠ 0 := Nat.mul_ne_zero hne (by omega)
  have hmod : chars.length * w % 2 ^ 32 = chars.length * w := Nat.mod_eq_of_lt hlt
  have halloc : alloc (chars.length * w) = true := ha _ (by omega)
  have hle : chars.length ≤ chars.length * w := Nat.le_mul_of_pos_right chars.length hw
  have hflat : chars.flatten.length ≤ chars.length * w := flatten_length_le hchars
  obtain ⟨m, hread⟩ := ociLobRead2_clob (o := o) hc hflat hlt hpos
  rw [readLobAttribute_eq (l := .clob chars) hc (hle.trans_lt hlt) hne]
  simp only [LobContent.isBlob, LobContent.length, Bool.false_eq_true, if_false, hmod, halloc,
    Bool.true_eq_false, hread]
  refine ⟨_, _, rfl, ?_⟩
  by_cases hcount : o.useLobUb8 = false ∧ c.fixedWidth = true
  · rw [if_pos hcount]
    have hlens {data : List UInt8} (h : (lobBuffer (.clob chars) memory (chars.length * w) data
        chars.length).take chars.length = chars.flatten) : chars.flatten.length = chars.length := by
      rw [← h, List.length_take, length_buffer, Nat.min_eq_left hle]
    constructor
    · constructor
      · exact fun hdata => .inr (.inr (hlens hdata))
      · rintro (hub8 | hwidth | heq)
        · exact absurd (hcount.1.symm.trans hub8) Bool.false_ne_true
        · exact absurd (hwidth.symm.trans hcount.2) Bool.false_ne_true
        · have htake : (lobBuffer (.clob chars) memory (chars.length * w) chars.flatten
              chars.flatten.length).take chars.flatten.length = chars.flatten := take_buffer hflat
          rwa [heq] at htake
    · intro hdata
      rw [lobReach, LobContent.isBlob, if_neg Bool.false_ne_true, hlens hdata]
      omega
  · rw [if_neg hcount]
    refine ⟨⟨fun _ => ?_, fun _ => take_buffer hflat⟩, fun _ => ?_⟩
    · cases hub8 : o.useLobUb8 with
      | true => exact Or.inl hub8
      | false => exact Or.inr (Or.inl (Bool.eq_false_iff.mpr fun hwidth => hcount ⟨hub8, hwidth⟩))
    · rw [lobReach, LobContent.isBlob, if_neg Bool.false_ne_true]
      omega

lemma product_clob (hc : c.Reads) {chars : List (List UInt8)} (hlt : chars.length < 2 ^ 32)
    (hne : chars.length ≠ 0) :
    (readLobAttribute o c alloc memory w site (.clob chars)).product = chars.length * w := by
  rw [readLobAttribute_eq (l := .clob chars) hc hlt hne]
  simp only [LobContent.isBlob, LobContent.length, Bool.false_eq_true, if_false]
  split
  · rfl
  · split <;> rfl

lemma readWhole_iff (hc : c.Reads) (ha : ∀ n, 0 < n → alloc n = true) (hw : 0 < w)
    (hchars : ∀ chars, l = .clob chars → ∀ u ∈ chars, u.length ≤ w) (hl : l.length < 2 ^ 32) :
    ReadWhole site l (readLobAttribute o c alloc memory w site l) ↔ LobReadable o c w l := by
  by_cases hne : l.length = 0
  · constructor
    · intro h
      obtain hok | ⟨tl, herr⟩ := h.whole
      · exact absurd ((readLobAttribute_empty hc hne).symm.trans hok) nofun
      · exact absurd (Except.error.inj ((readLobAttribute_empty hc hne).symm.trans herr))
          (error_noLength tl)
    · intro h
      exact absurd hne h.1
  cases l with
  | blob bytes =>
    refine ⟨fun _ => ⟨hne, Or.inl rfl⟩, fun _ => ?_⟩
    rw [readLobAttribute_blob hc ha hl hne]
    exact ⟨Or.inl rfl, hl, le_rfl, le_rfl⟩
  | clob chars =>
    constructor
    · intro h
      have hlt : chars.length * w < 2 ^ 32 := by
        rw [← product_clob hc hl hne]
        exact h.fits
      obtain ⟨data, reach, hread, hdata, hreach⟩ :=
        readLobAttribute_clob o memory site hc ha hw (hchars chars rfl) hlt hne
      rw [hread] at h
      obtain hok | ⟨tl, herr⟩ := h.whole
      · have hwhole : data = chars.flatten := LobValue.string.inj (Except.ok.inj hok)
        have hinside : reach ≤ chars.length * w := h.inside
        rw [hreach hwhole] at hinside
        exact ⟨hne, Or.inr ⟨hlt, hinside, hdata.mp hwhole⟩⟩
      · exact absurd herr nofun
    · rintro ⟨-, hblob | ⟨hlt, hshort, hcount⟩⟩
      · exact absurd hblob Bool.false_ne_true
      obtain ⟨data, reach, hread, hdata, hreach⟩ :=
        readLobAttribute_clob o memory site hc ha hw (hchars chars rfl) hlt hne
      have hwhole : data = chars.flatten := hdata.mpr hcount
      rw [hread, hreach hwhole, hwhole]
      exact ⟨Or.inl rfl, hlt, le_rfl, hshort⟩

end Proofs

/-- A LOB of an attribute and a LOB of an element are read whole exactly when they are not empty,
the bytes that the characters may need are less than 2 ^ 32 and more than those they have, and the
client counts bytes. -/
theorem lobs_whole_iff (o : OciLibrary) {c : LobClient} (hc : c.Reads) {alloc : ℕ → Bool}
    (ha : ∀ n, 0 < n → alloc n = true) (memory : ℕ → UInt8) {maxCharWidth : ℕ} (hw : 0 < maxCharWidth)
    (schema name cname : String) (l : LobContent)
    (hchars : ∀ chars, l = .clob chars → ∀ u ∈ chars, u.length ≤ maxCharWidth)
    (hl : l.length < 2 ^ 32) :
    (ReadWhole (.object schema name cname) l
      (objToQoreLob o c alloc memory maxCharWidth schema name cname l) ↔
      LobReadable o c maxCharWidth l) ∧
    (ReadWhole (.collection schema name) l (collToQoreLob o c alloc memory maxCharWidth schema name l) ↔
      LobReadable o c maxCharWidth l) :=
  ⟨readWhole_iff hc ha hw hchars hl, readWhole_iff hc ha hw hchars hl⟩

-- the bytes of the first characters or the first bytes, if they fit
def wholeClient : LobClient where
  getLength2 l := some l.length
  getLength l := some l.length
  read2 l bytes chars _ size :=
    match l with
    | .clob content =>
      let data := (content.take chars).flatten
      if data.length ≤ size then some (data, data.length, min chars content.length) else none
    | .blob content => if bytes ≤ size then some (content.take bytes, min bytes content.length, 0)
        else none
  read l amount _ size :=
    match l with
    | .clob content =>
      let data := (content.take amount).flatten
      if data.length ≤ size then some (data, data.length) else none
    | .blob content => if amount ≤ size then some (content.take amount, min amount content.length)
        else none
  fixedWidth := false

lemma wholeClient_reads : wholeClient.Reads where
  length2 _ := rfl
  length _ _ := rfl
  clob2 chars n size h := by simp [wholeClient, -List.length_flatten, h]
  blob2 bytes n size h := ⟨0, by simp [wholeClient, h]⟩
  clob chars size h := by simp [wholeClient, -List.length_flatten, h]
  blob bytes size h := by simp [wholeClient, h]

def plainLibrary : OciLibrary := ⟨true, false⟩

theorem lobs_whole_iff_letter :
    (ReadWhole (.object "S" "T" "c") (.clob [[97]])
        (objToQoreLob plainLibrary wholeClient (fun _ => true) (fun _ =>
          0) 4 "S" "T" "c" (.clob [[97]])) ↔
      LobReadable plainLibrary wholeClient 4 (.clob [[97]])) ∧
    (ReadWhole (.collection "S" "T") (.clob [[97]])
        (collToQoreLob plainLibrary wholeClient (fun _ => true) (fun _ => 0) 4 "S" "T" (.clob [[97]])) ↔
      LobReadable plainLibrary wholeClient 4 (.clob [[97]])) :=
  lobs_whole_iff plainLibrary wholeClient_reads (fun _ _ => rfl)
    (fun _ => 0) (by decide) "S" "T" "c" (.clob [[97]])
    (fun chars h u hu => by
      obtain rfl := LobContent.clob.inj h
      rw [List.mem_singleton.mp hu]
      decide) (by decide)

-- one character of one byte, where no character is longer: the zero is written behind the buffer
example : (objToQoreLob plainLibrary wholeClient (fun _ => true) (fun _ => 0) 1 "S" "T" "c"
    (.clob [[97]])).allocated = 1 ∧ (objToQoreLob plainLibrary wholeClient (fun _ => true)
    (fun _ => 0) 1 "S" "T" "c" (.clob [[97]])).reach = 2 := by decide

/-- An empty BLOB raises an exception about its length. -/
theorem empty_blob_not_whole : ¬ReadWhole (.object "S" "T" "c") (.blob [])
    (objToQoreLob plainLibrary wholeClient (fun _ => true) (fun _ => 0) 4 "S" "T" "c" (.blob [])) := by
  intro h
  obtain hok | ⟨tl, herr⟩ := h.whole
  · exact absurd hok nofun
  · exact error_noLength tl (Except.error.inj herr)

end OracleDriver
