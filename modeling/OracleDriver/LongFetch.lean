import Mathlib.Data.List.TakeDrop
import Mathlib.Data.Int.Notation

/-! LONG columns are fetched in pieces into a string that grows between the calls. -/

namespace OracleDriver

-- the memory of Qore's strings, for one type of string: what a new one has, and what becomes of it
-- as it grows
structure StringMemory where
  new : List UInt8
  grow : ℕ → List UInt8 → List UInt8
  enough : ∀ n buf, n ≤ (grow n buf).length
  keeps : ∀ n buf, buf <+: grow n buf

-- the memory up to the capacity, and the length of the text in it
structure LongString where
  buf : List UInt8
  len : ℕ
deriving DecidableEq, Repr

namespace LongString

variable (m : StringMemory)

def value (s : LongString) : List UInt8 := s.buf.take s.len

def capacity (s : LongString) : ℕ := s.buf.length

def reserve (n : ℕ) (s : LongString) : LongString := { s with buf := m.grow n s.buf }

def terminate (n : ℕ) (s : LongString) : LongString := ⟨(m.grow (n + 1) s.buf).set n 0, n⟩

-- bytes that are written from outside
def write (pos : ℕ) (bytes : List UInt8) (s : LongString) : LongString :=
  { s with buf := s.buf.take pos ++ bytes ++ s.buf.drop (pos + bytes.length) }

end LongString

def longBlockSize : ℕ := 4096

inductive LongPieceKind where
  | first
  | next
  | last
deriving DecidableEq, Repr

-- where the client can write and how much, and the capacity of the string at that time
structure LongOffer where
  pos : ℕ
  alen : ℕ
  capacity : ℕ
deriving DecidableEq, Repr

-- q_lng
structure LongColumn where
  ind : ℤ
  size : ℕ
  str : Option LongString
deriving DecidableEq, Repr

namespace LongColumn

def start : LongColumn := ⟨0, 0, none⟩

section Model

variable (m : StringMemory)

-- q_long_callback() with the position that the client had before; none for an assertion that fails
def longCallback (piece : LongPieceKind) (pos : ℕ) (lng : LongColumn) :
    Option (LongOffer × LongColumn) :=
  match piece with
  | .first =>
    let str := lng.str.getD (LongString.reserve m (longBlockSize + 1) ⟨m.new, 0⟩)
    if str.capacity = 0 || str.len ≠ 0 then none
    else some (⟨0, longBlockSize, str.capacity⟩, ⟨lng.ind, longBlockSize, some str⟩)
  | .next => do
    let str ← lng.str
    let str := str.terminate m (str.len + lng.size)
    let str := str.reserve m (str.len + longBlockSize + 1)
    return (⟨str.len, longBlockSize, str.capacity⟩, ⟨lng.ind, longBlockSize, some str⟩)
  | .last => do
    let str ← lng.str
    let str := str.terminate m (str.len + lng.size)
    return (⟨pos, lng.size, str.capacity⟩, ⟨lng.ind, lng.size, some str⟩)

-- a call and the piece that the client writes after it
def fetchPiece (piece : LongPieceKind) (pos : ℕ) (bytes : List UInt8) (lng : LongColumn) :
    Option (LongOffer × LongColumn) := do
  let (offer, lng) ← lng.longCallback m piece pos
  return (offer, ⟨lng.ind, bytes.length, lng.str.map (·.write offer.pos bytes)⟩)

def fetchNext : List (List UInt8) → ℕ → LongColumn → Option (List LongOffer × LongColumn)
  | [], _, lng => some ([], lng)
  | bytes :: pieces, pos, lng => do
    let (offer, lng) ← lng.fetchPiece m .next pos bytes
    let (offers, lng) ← fetchNext pieces offer.pos lng
    return (offer :: offers, lng)

def fetchPieces (first : List UInt8) (next : List (List UInt8)) (lng : LongColumn) :
    Option (List LongOffer × LongColumn) := do
  let (offer, lng) ← lng.fetchPiece m .first 0 first
  let (offers, lng) ← fetchNext m next offer.pos lng
  return (offer :: offers, lng)

-- takeValue(); the value is none for NULL
def takeValue (lng : LongColumn) : Option (Option (List UInt8) × LongColumn) :=
  if lng.ind ≠ 0 then some (none, ⟨0, 0, lng.str⟩)
  else do
    let str ← lng.str
    return (some (str.terminate m (str.len + lng.size)).value, ⟨0, 0, none⟩)

end Model

end LongColumn

-- no piece is longer than what the client is offered
abbrev LongPiece := { bytes : List UInt8 // bytes.length ≤ longBlockSize }

-- a row: NULL has no bytes in any number of calls, and leaves any length
inductive LongRow where
  | null (nexts : ℕ) (size : ℕ)
  | value (first : LongPiece) (next : List LongPiece)
deriving DecidableEq, Repr

namespace LongRow

def bytes : LongRow → Option (List UInt8)
  | null _ _ => none
  | value first next => some (first.val ++ (next.map Subtype.val).flatten)

variable (m : StringMemory)

-- the indicator is what the client writes
def fetch : LongRow → LongColumn → Option ((List LongOffer × Option (List UInt8)) × LongColumn)
  | null nexts size, lng => do
    let (offers, lng) ← lng.fetchPieces m [] (List.replicate nexts [])
    let (v, lng) ← LongColumn.takeValue m ⟨-1, size, lng.str⟩
    return ((offers, v), lng)
  | value first next, lng => do
    let (offers, lng) ← lng.fetchPieces m first (next.map Subtype.val)
    let (v, lng) ← LongColumn.takeValue m ⟨0, lng.size, lng.str⟩
    return ((offers, v), lng)

def fetchAll : List LongRow → LongColumn → Option (List (List LongOffer × Option (List UInt8)))
  | [], _ => some []
  | row :: rows, lng => do
    let (fetched, lng) ← row.fetch m lng
    let rest ← fetchAll rows lng
    return fetched :: rest

end LongRow

/-- The client is offered a whole block, and all of it is in the memory of the string. -/
structure LongOffer.Within (o : LongOffer) : Prop where
  announced : o.alen = longBlockSize
  bounded : o.pos + o.alen < o.capacity

section Pieces

variable {m : StringMemory} {lng : LongColumn} {bytes piece : List UInt8}

namespace LongString

variable {s : LongString} {n pos : ℕ}

lemma length_write (hle : pos + piece.length ≤ s.capacity) :
    (s.write pos piece).capacity = s.capacity := by
  rw [capacity] at hle
  simp only [capacity, write, List.length_append, List.length_take, List.length_drop]
  omega

lemma take_write (hle : pos + piece.length ≤ s.capacity) :
    (s.write pos piece).buf.take (pos + piece.length) = s.buf.take pos ++ piece := by
  rw [capacity] at hle
  have hlen : (s.buf.take pos ++ piece).length = pos + piece.length := by
    rw [List.length_append, List.length_take]
    omega
  rw [write, ← hlen, List.take_left]

lemma take_grow (hle : n ≤ s.capacity) (k : ℕ) : (m.grow k s.buf).take n = s.buf.take n := by
  obtain ⟨more, hmore⟩ := m.keeps k s.buf
  rw [← hmore, List.take_append_of_le_length hle]

-- the bytes before the end stay
lemma value_terminate (hle : n ≤ s.capacity) : (s.terminate m n).value = s.buf.take n := by
  rw [value, terminate, List.take_set_of_le (Nat.le_refl n), take_grow hle]

lemma value_reserve (hle : s.len ≤ s.capacity) (k : ℕ) : (s.reserve m k).value = s.value :=
  take_grow hle k

lemma lt_capacity_terminate (s : LongString) (n : ℕ) : n < (s.terminate m n).capacity := by
  rw [capacity, terminate, List.length_set]
  exact m.enough _ _

end LongString

open LongString

-- before a row: a string is there only if it is empty and has room for a block
def LongColumn.Ready (lng : LongColumn) : Prop :=
  ∀ s, lng.str = some s → s.len = 0 ∧ longBlockSize < s.capacity

lemma ready_start : LongColumn.start.Ready := fun _ hs => absurd hs nofun

-- in a row: the last piece is behind the end of the string, and its size is known
def LongColumn.Filled (lng : LongColumn) (bytes : List UInt8) : Prop :=
  ∃ s, lng.str = some s ∧ lng.size ≤ longBlockSize ∧ s.len + longBlockSize < s.capacity ∧
    s.buf.take (s.len + lng.size) = bytes

-- what a callback offers is the memory behind the end of the string
lemma fetchPiece_within {k : LongPieceKind} {pos : ℕ} {s : LongString} {ind : ℤ} {alen : ℕ}
    (hcall : lng.longCallback m k pos = some (⟨s.len, longBlockSize, s.capacity⟩, ⟨ind, alen, some s⟩))
    (hroom : s.len + longBlockSize < s.capacity) (hpiece : piece.length ≤ longBlockSize) :
    ∃ o lng', lng.fetchPiece m k pos piece = some (o, lng') ∧ o.Within ∧
      lng'.Filled (s.value ++ piece) := by
  have hle : s.len + piece.length ≤ s.capacity := by omega
  refine ⟨⟨s.len, longBlockSize, s.capacity⟩, ⟨ind, piece.length, some (s.write s.len piece)⟩, ?_,
    ⟨rfl, hroom⟩, ?_⟩
  · rw [LongColumn.fetchPiece, hcall]
    rfl
  · refine ⟨s.write s.len piece, rfl, hpiece, ?_, take_write hle⟩
    rw [length_write hle]
    exact hroom

lemma fetchPiece_first (hready : lng.Ready) (hpiece : piece.length ≤ longBlockSize) :
    ∃ o lng', lng.fetchPiece m .first 0 piece = some (o, lng') ∧ o.Within ∧ lng'.Filled piece := by
  have hstr : ∃ s, lng.str.getD (reserve m (longBlockSize + 1) ⟨m.new, 0⟩) = s ∧ s.len = 0 ∧
      longBlockSize < s.capacity := by
    cases hs : lng.str with
    | none => exact ⟨_, rfl, rfl, m.enough _ _⟩
    | some s => exact ⟨s, rfl, hready s hs⟩
  obtain ⟨s, hs, hlen, hroom⟩ := hstr
  have hcall : lng.longCallback m .first 0 = some
      (⟨s.len, longBlockSize, s.capacity⟩, ⟨lng.ind, longBlockSize, some s⟩) := by
    have hcap : s.capacity ≠ 0 := by omega
    simp [LongColumn.longCallback, hs, hlen, hcap]
  have hvalue : s.value = [] := by rw [value, hlen, List.take_zero]
  have hfetch := fetchPiece_within hcall (by omega) hpiece
  rwa [hvalue, List.nil_append] at hfetch

lemma fetchPiece_next (hfilled : lng.Filled bytes) (pos : ℕ) (hpiece : piece.length ≤ longBlockSize) :
    ∃ o lng', lng.fetchPiece m .next pos piece = some (o, lng') ∧ o.Within ∧
      lng'.Filled (bytes ++ piece) := by
  obtain ⟨s, hs, hsize, hroom, rfl⟩ := hfilled
  let s' := (s.terminate m (s.len + lng.size)).reserve m (s.len + lng.size + longBlockSize + 1)
  have hcall : lng.longCallback m .next pos =
      some (⟨s'.len, longBlockSize, s'.capacity⟩, ⟨lng.ind, longBlockSize, some s'⟩) := by
    rw [LongColumn.longCallback, hs]
    rfl
  have hvalue : s'.value = s.buf.take (s.len + lng.size) := by
    rw [value_reserve (Nat.le_of_lt (lt_capacity_terminate _ _)), value_terminate (by omega)]
  have hfetch := fetchPiece_within hcall (m.enough _ _) hpiece
  rwa [hvalue] at hfetch

-- induction on the pieces: each is added to what the string has
lemma fetchNext_filled (hfilled : lng.Filled bytes) (pos : ℕ) {next : List (List UInt8)}
    (hnext : ∀ piece ∈ next, piece.length ≤ longBlockSize) :
    ∃ offers lng', lng.fetchNext m next pos = some (offers, lng') ∧ (∀ o ∈ offers, o.Within) ∧
      lng'.Filled (bytes ++ next.flatten) := by
  induction next generalizing lng bytes pos with
  | nil => exact ⟨[], lng, rfl, nofun, by rwa [List.flatten_nil, List.append_nil]⟩
  | cons piece next ih =>
    obtain ⟨hpiece, hrest⟩ := List.forall_mem_cons.mp hnext
    obtain ⟨o, lng₁, hcall, ho, hfilled⟩ := fetchPiece_next (m := m) hfilled pos hpiece
    obtain ⟨offers, lng₂, hcalls, hoffers, hfilled⟩ := ih hfilled o.pos hrest
    refine ⟨o :: offers, lng₂, ?_, List.forall_mem_cons.mpr ⟨ho, hoffers⟩, ?_⟩
    · simp [LongColumn.fetchNext, hcall, hcalls]
    · rwa [List.flatten_cons, ← List.append_assoc]

lemma fetchPieces_filled (hready : lng.Ready) {first : List UInt8} {next : List (List UInt8)}
    (hfirst : first.length ≤ longBlockSize) (hnext : ∀ piece ∈ next, piece.length ≤ longBlockSize) :
    ∃ offers lng', lng.fetchPieces m first next = some (offers, lng') ∧ (∀ o ∈ offers, o.Within) ∧
      lng'.Filled (first ++ next.flatten) := by
  obtain ⟨o, lng₁, hcall, ho, hfilled⟩ := fetchPiece_first (m := m) hready hfirst
  obtain ⟨offers, lng₂, hrest, hoffers, hfilled⟩ := fetchNext_filled (m := m) hfilled o.pos hnext
  refine ⟨o :: offers, lng₂, ?_, ?_, hfilled⟩
  · rw [LongColumn.fetchPieces, hcall]
    simp [hrest]
  · exact List.forall_mem_cons.mpr ⟨ho, hoffers⟩

lemma takeValue_filled (hfilled : lng.Filled bytes) :
    LongColumn.takeValue m ⟨0, lng.size, lng.str⟩ = some (some bytes, .start) := by
  obtain ⟨s, hs, hsize, hroom, rfl⟩ := hfilled
  rw [LongColumn.takeValue, hs]
  have hvalue := value_terminate (m := m) (by omega : s.len + lng.size ≤ s.capacity)
  simp [hvalue, LongColumn.start]

lemma takeValue_null (hfilled : lng.Filled []) (size : ℕ) :
    ∃ lng', LongColumn.takeValue m ⟨-1, size, lng.str⟩ = some (none, lng') ∧ lng'.Ready := by
  obtain ⟨s, hs, hsize, hroom, hnil⟩ := hfilled
  refine ⟨⟨0, 0, lng.str⟩, rfl, ?_⟩
  intro s' hs'
  obtain rfl := Option.some.inj (hs.symm.trans hs')
  have hlen := congrArg List.length hnil
  rw [List.length_take, List.length_nil] at hlen
  rw [capacity] at hroom ⊢
  omega

/-- A row gives its bytes or NULL, and the next one finds no string or an empty one. -/
lemma fetch_row (hready : lng.Ready) (row : LongRow) :
    ∃ offers lng', row.fetch m lng = some ((offers, row.bytes), lng') ∧ (∀ o ∈ offers, o.Within) ∧
      lng'.Ready := by
  cases row with
  | null nexts size =>
    have hempty : ∀ piece ∈ List.replicate nexts ([] : List UInt8), piece.length ≤ longBlockSize := by
      intro piece hmem
      rw [List.eq_of_mem_replicate hmem]
      exact Nat.zero_le _
    have hnil : ([] : List UInt8).length ≤ longBlockSize := Nat.zero_le _
    obtain ⟨offers, lng₁, hcalls, hoffers, hfilled⟩ := fetchPieces_filled (m := m) hready hnil hempty
    rw [List.nil_append, List.flatten_replicate_nil] at hfilled
    obtain ⟨lng₂, htake, hready⟩ := takeValue_null (m := m) hfilled size
    refine ⟨offers, lng₂, ?_, hoffers, hready⟩
    simp [LongRow.fetch, hcalls, htake, LongRow.bytes]
  | value first next =>
    have hnext : ∀ piece ∈ next.map Subtype.val, piece.length ≤ longBlockSize := by
      intro piece hmem
      obtain ⟨p, -, rfl⟩ := List.mem_map.mp hmem
      exact p.property
    obtain ⟨offers, lng₁, hcalls, hoffers, hfilled⟩ :=
      fetchPieces_filled (m := m) hready first.property hnext
    refine ⟨offers, .start, ?_, hoffers, ready_start⟩
    simp only [LongRow.fetch, hcalls, Option.bind_eq_bind, Option.bind_some,
      takeValue_filled hfilled, LongRow.bytes]
    rfl

lemma fetchAll_ready (hready : lng.Ready) (rows : List LongRow) :
    ∃ fetched, LongRow.fetchAll m rows lng = some fetched ∧
      fetched.map Prod.snd = rows.map LongRow.bytes ∧
      ∀ offers ∈ fetched.map Prod.fst, ∀ o ∈ offers, o.Within := by
  induction rows generalizing lng with
  | nil => exact ⟨[], rfl, rfl, nofun⟩
  | cons row rows ih =>
    obtain ⟨offers, lng₁, hrow, hoffers, hready⟩ := fetch_row (m := m) hready row
    obtain ⟨fetched, hrows, hvalues, hall⟩ := ih hready
    refine ⟨(offers, row.bytes) :: fetched, ?_, ?_, ?_⟩
    · simp [LongRow.fetchAll, hrow, hrows]
    · rw [List.map_cons, List.map_cons, hvalues]
    · rw [List.map_cons]
      exact List.forall_mem_cons.mpr ⟨hoffers, hall⟩

/-- Every row gives exactly its own bytes, or NULL, and the client writes only into memory of the
string. -/
theorem fetchAll_rows (m : StringMemory) (rows : List LongRow) :
    ∃ fetched, LongRow.fetchAll m rows .start = some fetched ∧
      fetched.map Prod.snd = rows.map LongRow.bytes ∧
      ∀ offers ∈ fetched.map Prod.fst, ∀ o ∈ offers, o.Within :=
  fetchAll_ready ready_start rows

-- memory that grows to no more than what is asked for
def exactMemory : StringMemory where
  new := []
  grow n buf := buf ++ List.replicate (n - buf.length) 0
  enough n buf := by
    rw [List.length_append, List.length_replicate]
    omega
  keeps _ _ := List.prefix_append _ _

theorem fetchAll_rows_null :
    let row : LongRow := .value ⟨[97], by decide⟩ [⟨[98, 99], by decide⟩]
    ∃ fetched, LongRow.fetchAll exactMemory [row, .null 1 4096, row] .start = some fetched ∧
      fetched.map Prod.snd = [some [97, 98, 99], none, some [97, 98, 99]] ∧
      ∀ offers ∈ fetched.map Prod.fst, ∀ o ∈ offers, o.Within :=
  fetchAll_rows exactMemory _

end Pieces

end OracleDriver
