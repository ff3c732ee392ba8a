import OracleDriver.BindNode
import OracleDriver.Library.FuelRun

/-! The scan of an SQL text. The text is the buffer of a string, a character for each of its bytes:
in UTF-8 a character of the string is one or more of them. -/

namespace OracleDriver.ParseQuery

open OraBindNode

inductive Comment where
  | none
  | line
  | block
deriving DecidableEq, Repr

inductive Status where
  | scanning
  | broken
  | overrun
deriving DecidableEq, Repr

-- `before` holds the characters in front of the scan pointer p, the nearest one first, and `rest`
-- those from p on
structure Scan where
  before : Text
  rest : Text
  index : ℕ
  quote : Option Char
  comment : Comment
  nodeList : List OraBindNode
  hasOutput : Bool
  xsink : List Exn
  status : Status

namespace Scan

def str (s : Scan) : Text := s.before.reverse ++ s.rest

def advance (s : Scan) (k : ℕ) : Scan :=
  if k ≤ s.rest.length then
    { s with before := (s.rest.take k).reverse ++ s.before, rest := s.rest.drop k }
  else { s with status := .overrun }

def afterAlnum (s : Scan) : Bool := (s.before.head?.map Char.isAlphanum).getD false

-- `args ? args->retrieveEntry(index++) : QoreValue()`
def nextArg (args : Option (List QoreValue)) (s : Scan) : QoreValue := retrieveEntry args s.index

def tookArg (args : Option (List QoreValue)) (s : Scan) : Scan :=
  { s with index := if args.isSome then s.index + 1 else s.index }

def raise (e : Exn) (s : Scan) : Scan := { s with xsink := s.xsink ++ [e], status := .broken }

def replaceMarker (tmp : Text) (s : Scan) : Scan :=
  { s with rest := cStr tmp ++ s.rest.drop 2 }.advance tmp.length

def addNode (n : OraBindNode) (s : Scan) : Scan := { s with nodeList := s.nodeList ++ [n] }

end Scan

def badMarker (c : Char) : Exn :=
  ⟨"DBI-EXEC-PARSE-EXCEPTION",
    "invalid value specification (expecting '%v' or '%d', got %" ++ String.ofList [c] ++ ")"⟩

def badValueMarker (c : Char) : Exn :=
  ⟨"DBI-EXEC-PARSE-EXCEPTION",
    "invalid value specification (expecting '%v' or '%d', got %v" ++ String.ofList [c] ++ "*)"⟩

variable (lib : QoreLib) (args : Option (List QoreValue))

def valueMarker (s : Scan) : Scan :=
  let v := s.nextArg args
  let s := s.tookArg args
  let c := peek s.rest.tail
  if c = 'd' then s.replaceMarker (lib.concatNumeric v)
  else if c = 's' then
    match lib.concatString v with
    | .error e => s.raise e
    | .ok tmp => s.replaceMarker tmp
  else if c ≠ 'v' then s.raise (badMarker c)
  else if (peek (s.rest.drop 2)).isAlpha then s.raise (badValueMarker (peek (s.rest.drop 2)))
  else (s.replaceMarker (markerName s.nodeList.length)).addNode (ofValue v)

def placeholder (s : Scan) : Scan :=
  let s := s.advance 1
  if (peek s.rest).isAlpha then
    let name := s.rest.takeWhile isNameChar
    let s := s.advance name.length
    let d := describePlaceholder lib (s.nextArg args) (ofPlaceholder name (-1) none .nothing)
    let s := { (s.tookArg args).addNode d.1 with hasOutput := true }
    match d.2 with
    | some e => s.raise e
    | none => s
  else s

def quoteStep (s : Scan) : Scan :=
  let c := peek s.rest
  if c = '\'' ∨ c = '"' then
    { s with quote := if s.quote = none then some c else if s.quote = some c then none else s.quote }.advance 1
  else s.advance 1

-- `str->splice(p - str->c_str(), 1)`: the offset of the pointer is one in bytes, and splice() takes
-- out the character of that number
def spliced (s : Scan) : Scan :=
  let str := lib.chars.erase s.str s.before.length
  { s with before := (str.take s.before.length).reverse, rest := str.drop s.before.length }

-- the pointer moves two bytes on after a character has been taken out, and the test for a quote
-- follows at once
def unescape (s : Scan) : Scan :=
  let s := (spliced lib s).advance 2
  if s.status = .overrun then s else quoteStep s

def lineStep (s : Scan) : Scan :=
  let c := peek s.rest
  (if c = '\n' ∨ c = '\r' then { s with comment := .none } else s).advance 1

def blockStep (s : Scan) : Scan :=
  if peek s.rest = '*' ∧ peek s.rest.tail = '/' then { s with comment := .none }.advance 2
  else s.advance 1

def codeStep (s : Scan) : Scan :=
  let c := peek s.rest
  let d := peek s.rest.tail
  if c = '-' ∧ d = '-' then { s with comment := .line }.advance 2
  else if c = '/' ∧ d = '*' then { s with comment := .block }.advance 2
  else if c = '%' ∧ s.afterAlnum = false then valueMarker lib args s
  else if c = ':' then placeholder lib args s
  else if c = '\\' ∧ (d = ':' ∨ d = '%') then unescape lib s
  else quoteStep s

def step (s : Scan) : Scan :=
  if s.quote.isSome then quoteStep s
  else match s.comment with
    | .line => lineStep s
    | .block => blockStep s
    | .none => codeStep lib args s

def halted (s : Scan) : Bool := s.status != .scanning || peek s.rest == '\x00'

def start (str : Text) (nodeList : List OraBindNode) (hasOutput : Bool) : Scan where
  before := []
  rest := str
  index := 0
  quote := none
  comment := .none
  nodeList := nodeList
  hasOutput := hasOutput
  xsink := []
  status := .scanning

structure Parsed where
  str : Text
  nodeList : List OraBindNode
  hasOutput : Bool
  argsCopy : Option (List QoreValue)
  xsink : List Exn
  overrun : Bool

-- the buffer gets no longer by scanning, so that its length bounds the turns of the loop
def parseQuery (inTransaction : Bool) (argsCopy : Option (List QoreValue)) (str : Text)
    (nodeList : List OraBindNode) (hasOutput : Bool) : Parsed :=
  let s := FuelRun.run halted (step lib args) (str.length + 1) (start str nodeList hasOutput)
  { str := s.str
    nodeList := s.nodeList
    hasOutput := s.hasOutput
    argsCopy := if args.isSome ∧ inTransaction = false ∧ s.xsink = [] then args else argsCopy
    xsink := s.xsink
    overrun := s.status == .overrun }

-- a turn of the loop ends the scan or leaves fewer than `n` characters before it
def Shorter (n : ℕ) (s : Scan) : Prop := s.status ≠ .scanning ∨ s.rest.length < n

variable {n : ℕ} {s : Scan}

lemma shorter_advance_pos {k : ℕ} (hk : 0 < k) (h : s.rest.length ≤ n) : Shorter n (s.advance k) := by
  unfold Scan.advance
  split
  · exact Or.inr (by rw [List.length_drop]; omega)
  · exact Or.inl (by simp only [ne_eq, reduceCtorEq, not_false_eq_true])

lemma shorter_advance {k : ℕ} (h : Shorter n s) : Shorter n (s.advance k) := by
  unfold Scan.advance
  split
  · exact h.imp_right fun h => by rw [List.length_drop]; omega
  · exact Or.inl (by simp only [ne_eq, reduceCtorEq, not_false_eq_true])

lemma shorter_quoteStep_pos (h : s.rest.length ≤ n) : Shorter n (quoteStep s) := by
  unfold quoteStep
  dsimp only
  split_ifs <;> exact shorter_advance_pos Nat.one_pos h

lemma shorter_quoteStep (h : Shorter n s) : Shorter n (quoteStep s) := by
  unfold quoteStep
  dsimp only
  split_ifs <;> exact shorter_advance h

lemma spliced_length (s : Scan) : (spliced lib s).rest.length ≤ s.rest.length := by
  have hle := lib.chars.length_erase_le s.str s.before.length
  rw [Scan.str, List.length_append, List.length_reverse] at hle
  show ((lib.chars.erase s.str s.before.length).drop s.before.length).length ≤ _
  rw [List.length_drop]
  exact Nat.sub_le_iff_le_add'.mpr hle

lemma shorter_unescape (h : s.rest.length ≤ n) : Shorter n (unescape lib s) := by
  have hs : Shorter n ((spliced lib s).advance 2) :=
    shorter_advance_pos Nat.two_pos ((spliced_length lib s).trans h)
  unfold unescape
  dsimp only
  split
  · exact hs
  · exact shorter_quoteStep hs

lemma shorter_raise (e : Exn) : Shorter n (s.raise e) :=
  Or.inl (by simp only [Scan.raise, ne_eq, reduceCtorEq, not_false_eq_true])

lemma shorter_replaceMarker (tmp : Text) (h : s.rest.length ≤ n) (hn : 0 < n) :
    Shorter n (s.replaceMarker tmp) := by
  have hc : (cStr tmp).length ≤ tmp.length := (List.takeWhile_prefix _).length_le
  unfold Scan.replaceMarker Scan.advance
  split
  · refine Or.inr ?_
    simp only [List.length_drop, List.length_append]
    omega
  · exact Or.inl (by simp only [ne_eq, reduceCtorEq, not_false_eq_true])

lemma shorter_addNode (d : OraBindNode) (h : Shorter n s) : Shorter n (s.addNode d) := h

lemma shorter_output (d : OraBindNode) (h : Shorter n s) :
    Shorter n { (s.tookArg args).addNode d with hasOutput := true } := h

lemma shorter_valueMarker (h : s.rest.length ≤ n) (hn : 0 < n) : Shorter n (valueMarker lib args s) := by
  unfold valueMarker
  dsimp only
  split
  · exact shorter_replaceMarker (s := s.tookArg args) _ h hn
  split
  · split
    · exact shorter_raise _
    · exact shorter_replaceMarker (s := s.tookArg args) _ h hn
  split
  · exact shorter_raise _
  split
  · exact shorter_raise _
  · apply shorter_addNode
    exact shorter_replaceMarker (s := s.tookArg args) _ h hn

lemma shorter_placeholder (h : s.rest.length ≤ n) : Shorter n (placeholder lib args s) := by
  have h1 : Shorter n (s.advance 1) := shorter_advance_pos Nat.one_pos h
  unfold placeholder
  dsimp only
  split
  · split
    · exact shorter_raise _
    · apply shorter_output
      exact shorter_advance h1
  · exact h1

lemma shorter_codeStep (h : s.rest.length ≤ n) (hn : 0 < n) : Shorter n (codeStep lib args s) := by
  unfold codeStep
  dsimp only
  split
  · exact shorter_advance_pos (s := { s with comment := _ }) Nat.two_pos h
  split
  · exact shorter_advance_pos (s := { s with comment := _ }) Nat.two_pos h
  split
  · exact shorter_valueMarker lib args h hn
  split
  · exact shorter_placeholder lib args h
  split
  · exact shorter_unescape lib h
  · exact shorter_quoteStep_pos h

lemma shorter_step (h : s.rest.length ≤ n) (hn : 0 < n) : Shorter n (step lib args s) := by
  unfold step
  split
  · exact shorter_quoteStep_pos h
  split
  · unfold lineStep
    dsimp only
    split
    · exact shorter_advance_pos (s := { s with comment := _ }) Nat.one_pos h
    · exact shorter_advance_pos Nat.one_pos h
  · unfold blockStep
    split
    · exact shorter_advance_pos (s := { s with comment := _ }) Nat.two_pos h
    · exact shorter_advance_pos Nat.one_pos h
  · exact shorter_codeStep lib args h hn

lemma halted_of_stopped (h : s.status ≠ .scanning) : halted s = true := by
  simp only [halted, bne_iff_ne.mpr h, Bool.true_or]

theorem scan_halts (str : Text) (nodeList : List OraBindNode) (hasOutput : Bool) :
    halted (FuelRun.run halted (step lib args) (str.length + 1) (start str nodeList hasOutput)) =
      true := by
  refine FuelRun.run_ends_of_measure (fun s => s.rest.length) (fun s hs => ?_) _ _ (Nat.lt_succ_self _)
  have hr : 0 < s.rest.length := by
    rw [List.length_pos_iff]
    intro he
    simp only [halted, he, peek, List.headD_nil, BEq.rfl, Bool.or_true, Bool.true_eq_false] at hs
  exact (shorter_step lib args le_rfl hr).imp_left halted_of_stopped

end OracleDriver.ParseQuery
