import Mathlib.Data.List.TakeDrop
import OracleDriver.Library.FuelRun
import OracleDriver.Values

/-! LOBs are written in pieces of a limited size. -/

namespace OracleDriver

open FuelRun

inductive PieceFlag where
  | one
  | first
  | next
  | last
deriving DecidableEq, Repr

structure LobPiece where
  flag : PieceFlag
  data : List UInt8
deriving DecidableEq, Repr

inductive OciStatus where
  | success
  | successWithInfo
  | needData
  | error (e : Exn)
deriving DecidableEq, Repr

-- none is a return of -1 without an exception
def OciStatus.checkerr : OciStatus → Except (Option Exn) Unit
  | success | successWithInfo => .ok ()
  | needData => .error (some ⟨"DBI:ORACLE:OCI-NEED-DATA", "Oracle OCI error"⟩)
  | error e => .error (some e)

-- a build with OCILobWrite2() or with OCILobWrite(), what qore_check_cancel() finds at each offset,
-- and what the client answers to a piece at each offset
structure LobWriter where
  write2 : Bool
  lobWorkaround : Bool
  cancel : ℕ → Option Exn
  status : PieceFlag → ℕ → OciStatus

namespace LobWriter

def lobBlockSize (x : LobWriter) : ℕ := if x.lobWorkaround then 128 * 1024 else 16384

-- the width of the variables `offset` and `len`
def width (x : LobWriter) : ℕ := if x.write2 then 64 else 32

end LobWriter

structure LobWriteState where
  offset : ℕ
  pieces : List LobPiece
  result : Option (Except (Option Exn) Unit)

namespace LobWriteState

def halted (s : LobWriteState) : Bool := s.result.isSome

-- one turn of the loop of writeLob()
def step (x : LobWriter) (buf : List UInt8) (s : LobWriteState) : LobWriteState :=
  match if s.offset ≠ 0 then x.cancel s.offset else none with
  | some e => { s with result := some (.error (some e)) }
  | none =>
    let len := (((buf.length : ℤ) - s.offset) % 2 ^ 64 % 2 ^ x.width).toNat
    let piece := if x.lobBlockSize < len then if s.offset ≠ 0 then PieceFlag.next else .first else .last
    let len := if x.lobBlockSize < len then x.lobBlockSize else len
    let pieces := s.pieces ++ [⟨piece, (buf.drop s.offset).take len⟩]
    let rc := x.status piece s.offset
    if piece = .last then
      if rc ≠ .success then
        { s with pieces := pieces, result := some (rc.checkerr.bind fun _ => .error none) }
      else { s with pieces := pieces, result := some (.ok ()) }
    else if rc ≠ .needData then
      { s with pieces := pieces, result := some (rc.checkerr.bind fun _ => .error none) }
    else { s with pieces := pieces, offset := (s.offset + len) % 2 ^ x.width }

-- writeLob() up to its loop
def start (x : LobWriter) (buf : List UInt8) : LobWriteState :=
  match x.cancel 0 with
  | some e => ⟨0, [], some (.error (some e))⟩
  | none =>
    if buf.length ≤ x.lobBlockSize then ⟨0, [⟨.one, buf⟩], some (x.status .one 0).checkerr⟩
    else ⟨0, [], none⟩

end LobWriteState

-- writeLob() returns in the state `t`
def WritesLob (x : LobWriter) (buf : List UInt8) (t : LobWriteState) : Prop :=
  Ends LobWriteState.halted (LobWriteState.step x buf) (.start x buf) t

-- no call fails, and the thread is not cancelled
structure LobWriter.Succeeds (x : LobWriter) : Prop where
  cancel : ∀ n, x.cancel n = none
  one : ∀ n, x.status .one n = .success
  first : ∀ n, x.status .first n = .needData
  next : ∀ n, x.status .next n = .needData
  last : ∀ n, x.status .last n = .success

/-- The pieces are the buffer in one piece, or in a first one, any number of next ones and a last one. -/
structure Chunked (block : ℕ) (buf : List UInt8) (pieces : List LobPiece) : Prop where
  whole : (pieces.map LobPiece.data).flatten = buf
  flags : (∃ data, pieces = [⟨.one, data⟩]) ∨ (∀ p ∈ pieces, p.data ≠ []) ∧
    ∃ (a : List UInt8) (middle : List (List UInt8)) (z : List UInt8),
    pieces = ⟨.first, a⟩ :: middle.map (⟨.next, ·⟩) ++ [⟨.last, z⟩]
  bounded : ∀ p ∈ pieces, p.data.length ≤ block

-- the call returns, it succeeds, and its pieces are those of the buffer
def WritesChunks (x : LobWriter) (buf : List UInt8) : Prop :=
  ∃ t, WritesLob x buf t ∧ t.result = some (.ok ()) ∧ Chunked x.lobBlockSize buf t.pieces

-- the pieces before the last one
structure BegunPieces (block offset : ℕ) (pieces : List LobPiece) : Prop where
  flags : offset = 0 ∧ pieces = [] ∨ 0 < offset ∧ ∃ (a : List UInt8) (middle : List (List UInt8)),
    pieces = ⟨.first, a⟩ :: middle.map (⟨.next, ·⟩)
  sizes : ∀ p ∈ pieces, p.data.length = block

section Loop

variable {x : LobWriter} {buf : List UInt8} {s t : LobWriteState}

lemma block_pos (x : LobWriter) : 0 < x.lobBlockSize := by
  rw [LobWriter.lobBlockSize]
  split <;> decide

-- the length that the loop sees
def seen (x : LobWriter) (buf : List UInt8) : ℕ := buf.length % 2 ^ x.width

lemma width_eq (x : LobWriter) : x.width = 64 ∨ x.width = 32 := by
  rw [LobWriter.width]
  split
  · exact Or.inl rfl
  · exact Or.inr rfl

lemma len_eq (hs : s.offset ≤ seen x buf) :
    (((buf.length : ℤ) - s.offset) % 2 ^ 64 % 2 ^ x.width).toNat = seen x buf - s.offset := by
  rw [seen] at hs ⊢
  rcases width_eq x with hw | hw <;> rw [hw] at hs ⊢ <;> omega

lemma seen_lt (x : LobWriter) (buf : List UInt8) : seen x buf < 2 ^ x.width :=
  Nat.mod_lt _ (Nat.pow_pos (by omega))

lemma not_cancelled (hx : x.Succeeds) : (if s.offset ≠ 0 then x.cancel s.offset else none) = none := by
  split
  · exact hx.cancel _
  · rfl

lemma step_last (hx : x.Succeeds) (hs : s.offset ≤ seen x buf)
    (hlast : seen x buf - s.offset ≤ x.lobBlockSize) :
    s.step x buf = { s with
      pieces := s.pieces ++ [⟨.last, (buf.drop s.offset).take (seen x buf - s.offset)⟩]
      result := some (.ok ()) } := by
  have hle : ¬x.lobBlockSize < seen x buf - s.offset := by omega
  simp only [LobWriteState.step, not_cancelled hx, len_eq hs, if_neg hle, if_true, hx.last, ne_eq,
    not_true_eq_false, if_false]

lemma step_more (hx : x.Succeeds) (hs : s.offset ≤ seen x buf)
    (hmore : x.lobBlockSize < seen x buf - s.offset) :
    s.step x buf = { s with
      pieces :=
    s.pieces ++ [⟨if s.offset = 0 then .first else .next, (buf.drop s.offset).take x.lobBlockSize⟩]
      offset := s.offset + x.lobBlockSize } := by
  have hmod : (s.offset + x.lobBlockSize) % 2 ^ x.width = s.offset + x.lobBlockSize := by
    have hlt := seen_lt x buf
    exact Nat.mod_eq_of_lt (by omega)
  simp only [LobWriteState.step, not_cancelled hx, len_eq hs, if_pos hmore, hmod]
  by_cases hz : s.offset = 0
  · simp [hz, hx.first]
  · simp [hz, hx.next]

lemma begun_more {block : ℕ} (hblock : 0 < block) (hb : BegunPieces block s.offset s.pieces)
    {data : List UInt8}
    (hdata : data.length = block) :
    BegunPieces block (s.offset + block) (s.pieces ++
      [⟨if s.offset = 0 then .first else .next, data⟩]) := by
  refine ⟨Or.inr ⟨by omega, ?_⟩, ?_⟩
  · obtain ⟨hz, hnil⟩ | ⟨hpos, a, middle, hp⟩ := hb.flags
    · exact ⟨data, [], by simp [hz, hnil]⟩
    · exact ⟨a, middle ++ [data], by simp [Nat.pos_iff_ne_zero.mp hpos, hp]⟩
  · intro p hp
    rcases List.mem_append.mp hp with hp | hp
    · exact hb.sizes p hp
    · rw [List.mem_singleton.mp hp]
      exact hdata

/-- The loop ends, and its pieces are those of the part of the buffer that it sees. -/
lemma loop_ends (hx : x.Succeeds) (hs : s.result = none) (hoff : s.offset < seen x buf ∨ s.offset = 0)
    (hb : BegunPieces x.lobBlockSize s.offset s.pieces)
    (hdata : (s.pieces.map LobPiece.data).flatten = buf.take s.offset) :
    ∃ t pieces z, Ends LobWriteState.halted (LobWriteState.step x buf) s t ∧ t.result = some (.ok ()) ∧
      t.pieces = pieces ++ [⟨.last, z⟩] ∧ (t.pieces.map LobPiece.data).flatten = buf.take (seen x buf) ∧
      z.length ≤ x.lobBlockSize ∧ (x.lobBlockSize < seen x buf → z ≠ []) ∧
      ∃ offset, BegunPieces x.lobBlockSize offset pieces ∧
        (x.lobBlockSize < seen x buf → 0 < offset) := by
  have hle : seen x buf ≤ buf.length := Nat.mod_le _ _
  have hhalt : s.halted = false := by rw [LobWriteState.halted, hs, Option.isSome_none]
  induction hn : seen x buf - s.offset using Nat.strong_induction_on generalizing s with
  | _ n ih =>
    by_cases hmore : x.lobBlockSize < seen x buf - s.offset
    · have hstep := step_more hx (by omega) hmore
      have hpos := block_pos x
      have hlen : ((buf.drop s.offset).take x.lobBlockSize).length = x.lobBlockSize := by
        rw [List.length_take, List.length_drop]
        omega
      have hb' := begun_more hpos hb hlen
      obtain ⟨t, pieces, z, hends, hrest⟩ := ih (seen x buf - (s.offset + x.lobBlockSize)) (by omega)
        (s := s.step x buf) (by rw [hstep]; exact hs) (by rw [hstep]; exact Or.inl (by simp only; omega))
        (by rw [hstep]; exact hb') (by rw [hstep]; simp [hdata, List.take_add])
          (by rw [hstep]; exact hhalt) (by rw [hstep])
      exact ⟨t, pieces, z, ends_step hhalt hends, hrest⟩
    · have hstep := step_last hx (by omega) (by omega : seen x buf - s.offset ≤ x.lobBlockSize)
      refine ⟨s.step x buf, s.pieces,
        (buf.drop s.offset).take (seen x buf - s.offset), ?_, ?_, ?_, ?_, ?_, ?_, ?_⟩
      · exact ends_step hhalt (ends_refl (by rw [hstep]; rfl))
      · rw [hstep]
      · rw [hstep]
      · have hsum : buf.take (seen x buf) = buf.take (s.offset + (seen x buf - s.offset)) := by
          congr 1
          omega
        rw [hstep, hsum, List.take_add]
        simp [hdata]
      · rw [List.length_take]
        omega
      · intro hlt hnil
        have hlen := congrArg List.length hnil
        rw [List.length_take, List.length_drop, List.length_nil] at hlen
        omega
      · exact ⟨s.offset, hb, fun hlt => by omega⟩

lemma seen_eq_iff (hlen : buf.length < 2 ^ 64) :
    seen x buf = buf.length ↔ x.write2 = true ∨ buf.length < 2 ^ 32 := by
  rw [seen, LobWriter.width]
  cases x.write2 with
  | true =>
    rw [if_pos rfl]
    exact iff_of_true (Nat.mod_eq_of_lt hlen) (Or.inl rfl)
  | false =>
    simp only [Bool.false_eq_true, if_false, false_or]
    constructor
    · intro h
      rw [← h]
      exact Nat.mod_lt _ (by omega)
    · exact Nat.mod_eq_of_lt

lemma chunked_pieces {pieces : List LobPiece} {z : List UInt8} {offset : ℕ}
    (hdata : ((pieces ++ [(⟨.last, z⟩ : LobPiece)]).map LobPiece.data).flatten = buf)
    (hz : z.length ≤ x.lobBlockSize) (hne : z ≠ [])
    (hb : BegunPieces x.lobBlockSize offset pieces) (hpos : 0 < offset) :
    Chunked x.lobBlockSize buf (pieces ++ [⟨.last, z⟩]) := by
  refine ⟨hdata, Or.inr ⟨?_, ?_⟩, ?_⟩
  · intro p hp
    rcases List.mem_append.mp hp with hp | hp
    · have hblock := block_pos x
      apply List.ne_nil_of_length_pos
      rwa [hb.sizes p hp]
    · rw [List.mem_singleton.mp hp]
      exact hne
  · obtain ⟨hzero, -⟩ | ⟨-, a, middle, hp⟩ := hb.flags
    · exact absurd hzero (Nat.pos_iff_ne_zero.mp hpos)
    · exact ⟨a, middle, z, by rw [hp]⟩
  · intro p hp
    rcases List.mem_append.mp hp with hp | hp
    · exact Nat.le_of_eq (hb.sizes p hp)
    · rw [List.mem_singleton.mp hp]
      exact hz

lemma block_lt (x : LobWriter) : x.lobBlockSize < 2 ^ 32 := by
  rw [LobWriter.lobBlockSize]
  split <;> decide

lemma start_short (hx : x.Succeeds) (h : buf.length ≤ x.lobBlockSize) :
    LobWriteState.start x buf = ⟨0, [⟨.one, buf⟩], some (.ok ())⟩ := by
  rw [LobWriteState.start, hx.cancel]
  simp [h, hx.one, OciStatus.checkerr]

lemma start_long (hx : x.Succeeds) (h : ¬buf.length ≤ x.lobBlockSize) :
    LobWriteState.start x buf = ⟨0, [], none⟩ := by
  rw [LobWriteState.start, hx.cancel]
  simp [h]

lemma writes_short (hx : x.Succeeds) (h : buf.length ≤ x.lobBlockSize) : WritesChunks x buf := by
  refine ⟨.start x buf, ?_, ?_, ?_⟩
  · exact ends_refl (by rw [start_short hx h]; rfl)
  · rw [start_short hx h]
  · rw [start_short hx h]
    exact ⟨by simp, Or.inl ⟨buf, rfl⟩, by simpa using h⟩

lemma writes_long_iff (hx : x.Succeeds) (h : ¬buf.length ≤ x.lobBlockSize) :
    WritesChunks x buf ↔ seen x buf = buf.length := by
  have hlong := start_long hx h
  have hstart : ((⟨0, [], none⟩ : LobWriteState).pieces.map LobPiece.data).flatten = buf.take 0 := rfl
  obtain ⟨t, pieces, z, hends, hok, hpieces, hdata, hz, hne, offset, hb, hpos⟩ :=
    loop_ends (s := ⟨0, [], none⟩) hx rfl (Or.inr rfl) ⟨Or.inl ⟨rfl, rfl⟩, nofun⟩ hstart
  constructor
  · rintro ⟨t', hwrites, -, hchunked⟩
    rw [WritesLob, hlong] at hwrites
    have htaken : buf.take (seen x buf) = buf := by
      rw [← hdata, ends_unique hends hwrites]
      exact hchunked.whole
    have htake := congrArg List.length htaken
    rw [List.length_take] at htake
    have hle : seen x buf ≤ buf.length := Nat.mod_le _ _
    omega
  · intro hseen
    refine ⟨t, ?_, hok, ?_⟩
    · rw [WritesLob, hlong]
      exact hends
    · have hmore : x.lobBlockSize < seen x buf := by omega
      rw [hseen, List.take_length, hpieces] at hdata
      rw [hpieces]
      exact chunked_pieces hdata hz (hne hmore) hb (hpos hmore)

end Loop

/-- A buffer is written in the right pieces exactly when the build has OCILobWrite2() or the length
fits in 32 bits. -/
theorem writesChunks_iff {x : LobWriter} (hx : x.Succeeds) {buf : List UInt8}
    (hlen : buf.length < 2 ^ 64) :
    WritesChunks x buf ↔ x.write2 = true ∨ buf.length < 2 ^ 32 := by
  by_cases hshort : buf.length ≤ x.lobBlockSize
  · exact ⟨fun _ => Or.inr (Nat.lt_of_le_of_lt hshort (block_lt x)), fun _ => writes_short hx hshort⟩
  · rw [writes_long_iff hx hshort, seen_eq_iff hlen]

def goodClient (write2 : Bool) : LobWriter where
  write2 := write2
  lobWorkaround := false
  cancel _ := none
  status flag _ := if flag = .first ∨ flag = .next then .needData else .success

lemma goodClient_succeeds (write2 : Bool) : (goodClient write2).Succeeds :=
  ⟨fun _ => rfl, fun _ => rfl, fun _ => rfl, fun _ => rfl, fun _ => rfl⟩

theorem writesChunks_iff_blocks : WritesChunks (goodClient true) (List.replicate 40000 104) ↔
    (goodClient true).write2 = true ∨ (List.replicate 40000 (104 : UInt8)).length < 2 ^ 32 := by
  apply writesChunks_iff (goodClient_succeeds true)
  rw [List.length_replicate]
  norm_num

/-- A buffer of four gigabytes is not written by OCILobWrite(): the length that the loop sees is zero. -/
theorem four_gigabytes_not_written : ¬WritesChunks (goodClient false) (List.replicate (2 ^ 32) 0) := by
  have hblock : (goodClient false).lobBlockSize = 16384 := rfl
  have hlong : ¬(List.replicate (2 ^ 32) (0 : UInt8)).length ≤ (goodClient false).lobBlockSize := by
    rw [List.length_replicate, hblock]
    omega
  have hwidth : (goodClient false).width = 32 := rfl
  rw [writes_long_iff (goodClient_succeeds false) hlong, seen, List.length_replicate, hwidth]
  omega

end OracleDriver
