import OracleDriver.ParseQueryTokens

/-! Whether the scan pointer stays in the buffer. -/

namespace OracleDriver.ParseQuery

open OraBindNode FuelRun

variable (lib : QoreLib) (args : Option (List QoreValue))

def AtCode (s : Scan) : Prop := s.quote = none ∧ s.comment = .none

def AtEscape (s : Scan) : Prop :=
  AtCode s ∧ peek s.rest = '\\' ∧ (peek s.rest.tail = ':' ∨ peek s.rest.tail = '%')

def AtMarker (s : Scan) : Prop := AtCode s ∧ peek s.rest = '%' ∧ s.afterAlnum = false

-- the text that `%d` or `%s` at the pointer is replaced with
def inserted (s : Scan) : Option Text :=
  if peek s.rest.tail = 'd' then some (lib.concatNumeric (s.nextArg args))
  else if peek s.rest.tail = 's' then (lib.concatString (s.nextArg args)).toOption
  else none

-- three bytes are left from an escape on when a character has been taken out, and what is cut off an
-- inserted text at a NUL is no longer than what follows it
structure StaysInside (s : Scan) : Prop where
  escape : AtEscape s → 3 ≤ (spliced lib s).rest.length
  marker : AtMarker s → ∀ tmp, inserted lib args s = some tmp →
    tmp.length ≤ (cStr tmp).length + (s.rest.length - 2)

variable {lib args} {s : Scan}

lemma status_advance (hs : s.status = .scanning) (k : ℕ) :
    (s.advance k).status = .overrun ↔ s.rest.length < k := by
  rw [Scan.advance]
  split
  · rename_i hk
    rw [hs]
    exact ⟨by rintro ⟨⟩, fun h => absurd hk (not_le.mpr h)⟩
  · rename_i hk
    exact ⟨fun _ => not_le.mp hk, fun _ => rfl⟩

lemma rest_pos (h : halted s = false) : 0 < s.rest.length := by
  rw [List.length_pos_iff]
  intro he
  simp [halted, he, peek] at h

lemma scanning_of_not_halted (h : halted s = false) : s.status = .scanning := by
  by_contra hs
  rw [halted_of_stopped hs] at h
  cases h

lemma length_two_of_peek {c : Char} (hc : c ≠ '\x00') (h : peek s.rest.tail = c) :
    2 ≤ s.rest.length := by
  rcases hr : s.rest with _ | ⟨a, _ | ⟨b, r⟩⟩
  · rw [hr] at h
    exact absurd h.symm hc
  · rw [hr] at h
    exact absurd h.symm hc
  · simp

-- what a turn does at a value marker
lemma valueMarker_cases (lib : QoreLib) (args : Option (List QoreValue)) (s : Scan) :
    (∃ tmp, inserted lib args s = some tmp ∧
      valueMarker lib args s = (s.tookArg args).replaceMarker tmp) ∨
    (inserted lib args s = none ∧ ∃ e, valueMarker lib args s = (s.tookArg args).raise e) ∨
    (inserted lib args s = none ∧ peek s.rest.tail = 'v' ∧ valueMarker lib args s =
      ((s.tookArg args).replaceMarker (markerName s.nodeList.length)).addNode
        (ofValue (s.nextArg args))) := by
  by_cases hd : peek s.rest.tail = 'd'
  · exact Or.inl ⟨lib.concatNumeric (s.nextArg args), by rw [inserted, if_pos hd], if_pos hd⟩
  by_cases hs : peek s.rest.tail = 's'
  · have hval : valueMarker lib args s = _ := (if_neg hd).trans (if_pos hs)
    rw [hval, inserted, if_neg hd, if_pos hs]
    cases lib.concatString (s.nextArg args) with
    | error e => exact Or.inr (Or.inl ⟨rfl, e, rfl⟩)
    | ok tmp => exact Or.inl ⟨tmp, rfl, rfl⟩
  have hnone : inserted lib args s = none := by rw [inserted, if_neg hd, if_neg hs]
  by_cases hv : peek s.rest.tail = 'v'
  · have hval : valueMarker lib args s = if (peek (s.rest.drop 2)).isAlpha then
        (s.tookArg args).raise (badValueMarker (peek (s.rest.drop 2)))
        else ((s.tookArg args).replaceMarker (markerName s.nodeList.length)).addNode
          (ofValue (s.nextArg args)) :=
      (if_neg hd).trans ((if_neg hs).trans (if_neg (not_not.mpr hv)))
    by_cases ha : (peek (s.rest.drop 2)).isAlpha = true
    · exact Or.inr (Or.inl ⟨hnone, _, hval.trans (if_pos ha)⟩)
    · exact Or.inr (Or.inr ⟨hnone, hv, hval.trans (if_neg ha)⟩)
  · exact Or.inr (Or.inl ⟨hnone, _, (if_neg hd).trans ((if_neg hs).trans (if_pos hv))⟩)

def nextQuote (s : Scan) : Option Char :=
  if peek s.rest = '\'' ∨ peek s.rest = '"' then
    if s.quote = none then some (peek s.rest) else if s.quote = some (peek s.rest) then none else s.quote
  else s.quote

lemma quoteStep_eq (s : Scan) : quoteStep s = (s.quoted (nextQuote s)).advance 1 := by
  rw [quoteStep, nextQuote]
  by_cases hq : peek s.rest = '\'' ∨ peek s.rest = '"'
  · rw [if_pos hq, if_pos hq]
    rfl
  · rw [if_neg hq, if_neg hq]
    rfl

lemma status_quoteStep (hs : s.status = .scanning) :
    (quoteStep s).status = .overrun ↔ s.rest.length < 1 := by
  rw [quoteStep_eq]
  exact status_advance (s := s.quoted (nextQuote s)) hs 1

variable (lib) in
lemma status_unescape (hs : s.status = .scanning) :
    (unescape lib s).status = .overrun ↔ (spliced lib s).rest.length < 3 := by
  have hadv := status_advance (s := spliced lib s) hs 2
  rw [unescape]
  by_cases hover : ((spliced lib s).advance 2).status = .overrun
  · rw [if_pos hover]
    have hlt := hadv.mp hover
    exact ⟨fun _ => by omega, fun _ => hover⟩
  · have hle : 2 ≤ (spliced lib s).rest.length := not_lt.mp (mt hadv.mpr hover)
    have hmoved : (spliced lib s).advance 2 =
        (spliced lib s).moved ((spliced lib s).rest.take 2) ((spliced lib s).rest.drop 2) :=
      Scan.advance_eq (List.take_append_drop 2 _).symm (by rw [List.length_take]; omega)
    rw [if_neg hover, hmoved, status_quoteStep (by exact hs), Scan.moved_rest, List.length_drop]
    omega

lemma status_replaceMarker (hs : s.status = .scanning) (tmp : Text) :
    (s.replaceMarker tmp).status = .overrun ↔ (cStr tmp).length + (s.rest.length - 2) < tmp.length := by
  rw [Scan.replaceMarker, status_advance (s := { s with rest := cStr tmp ++ s.rest.drop 2 }) hs,
    List.length_append, List.length_drop]

lemma status_raise (e : Exn) : (s.raise e).status ≠ .overrun := nofun

lemma cStr_markerName (j : ℕ) : cStr (markerName j) = markerName j := by
  rw [cStr, List.takeWhile_eq_self_iff]
  intro c hc
  rw [decide_eq_true_eq]
  rintro rfl
  exact markerName_no_nul j hc

lemma status_valueMarker (hs : s.status = .scanning) : (valueMarker lib args s).status = .overrun ↔
    ∃ tmp, inserted lib args s = some tmp ∧ (cStr tmp).length + (s.rest.length - 2) < tmp.length := by
  have took : (s.tookArg args).status = .scanning := hs
  rcases valueMarker_cases lib args s with ⟨tmp, htmp, hval⟩ | ⟨hnone, e, hval⟩ | ⟨hnone, -, hval⟩
  · rw [hval, status_replaceMarker took, htmp]
    simp [Scan.tookArg]
  · rw [hval, hnone]
    exact ⟨fun h => absurd h (status_raise e), by rintro ⟨_, ⟨⟩, _⟩⟩
  · rw [hval, hnone]
    refine ⟨fun h => ?_, by rintro ⟨_, ⟨⟩, _⟩⟩
    have hlong := (status_replaceMarker took _).mp h
    rw [cStr_markerName] at hlong
    omega

lemma status_placeholder (hs : s.status = .scanning) (h : 0 < s.rest.length) :
    (placeholder lib args s).status ≠ .overrun := by
  obtain ⟨c, l, hr⟩ := List.exists_cons_of_length_pos h
  have hadv : s.advance 1 = s.moved [c] l := Scan.advance_one hr
  have hname : (s.moved [c] l).advance (l.takeWhile isNameChar).length =
      (s.moved [c] l).moved (l.takeWhile isNameChar) (l.dropWhile isNameChar) :=
    Scan.advance_eq (s := s.moved [c] l) List.takeWhile_append_dropWhile.symm rfl
  rw [placeholder, hadv]
  simp only [Scan.moved_rest, hname]
  split
  · split
    · exact status_raise _
    · simp [Scan.addNode, Scan.tookArg, hs]
  · simp [hs]

lemma status_opened {m : Comment} (hs : s.status = .scanning) (hp : peek s.rest.tail = c)
    (hz : c ≠ '\x00') :
    ((s.commented m).advance 2).status ≠ .overrun := by
  intro hover
  have hlt := (status_advance (s := s.commented m) hs 2).mp hover
  have hlen := length_two_of_peek hz hp
  rw [Scan.commented_rest] at hlt
  omega

lemma inside_of_peek (he : peek s.rest ≠ '\\') (hm : peek s.rest ≠ '%') : StaysInside lib args s :=
  ⟨fun h => absurd h.2.1 he, fun h => absurd h.2.1 hm⟩

lemma status_marker (hs : s.status = .scanning) (hm : AtMarker s) :
    (valueMarker lib args s).status = .overrun ↔ ¬StaysInside lib args s := by
  rw [status_valueMarker hs]
  constructor
  · rintro ⟨tmp, htmp, hlt⟩ hin
    exact absurd (hin.marker hm tmp htmp) (not_le.mpr hlt)
  · intro hn
    by_contra hnone
    refine hn ⟨fun he => ?_, fun _ tmp htmp => not_lt.mp fun hlt => hnone ⟨tmp, htmp, hlt⟩⟩
    exact absurd (hm.2.1.symm.trans he.2.1) (by decide)

lemma status_escape (hs : s.status = .scanning) (he : AtEscape s) (hm : ¬AtMarker s) :
    (unescape lib s).status = .overrun ↔ ¬StaysInside lib args s := by
  rw [status_unescape lib hs]
  constructor
  · intro hlt hin
    exact absurd (hin.escape he) (not_le.mpr hlt)
  · intro hn
    by_contra hge
    exact hn ⟨fun _ => not_lt.mp hge, fun h => absurd h hm⟩

lemma status_codeStep (hs : s.status = .scanning) (hc : AtCode s) (h : 0 < s.rest.length) :
    (codeStep lib args s).status = .overrun ↔ ¬StaysInside lib args s := by
  rw [codeStep]
  by_cases hline : peek s.rest = '-' ∧ peek s.rest.tail = '-'
  · rw [if_pos hline]
    have hin : StaysInside lib args s :=
      inside_of_peek (by rw [hline.1]; decide) (by rw [hline.1]; decide)
    exact iff_of_false (status_opened hs hline.2 (by decide)) (not_not.mpr hin)
  rw [if_neg hline]
  by_cases hblock : peek s.rest = '/' ∧ peek s.rest.tail = '*'
  · rw [if_pos hblock]
    have hin : StaysInside lib args s :=
      inside_of_peek (by rw [hblock.1]; decide) (by rw [hblock.1]; decide)
    exact iff_of_false (status_opened hs hblock.2 (by decide)) (not_not.mpr hin)
  rw [if_neg hblock]
  by_cases hmark : peek s.rest = '%' ∧ s.afterAlnum = false
  · rw [if_pos hmark]
    exact status_marker hs ⟨hc, hmark⟩
  rw [if_neg hmark]
  by_cases hcolon : peek s.rest = ':'
  · rw [if_pos hcolon]
    have hin : StaysInside lib args s := inside_of_peek (by rw [hcolon]; decide) (by rw [hcolon]; decide)
    exact iff_of_false (status_placeholder hs h) (not_not.mpr hin)
  rw [if_neg hcolon]
  by_cases hesc : peek s.rest = '\\' ∧ (peek s.rest.tail = ':' ∨ peek s.rest.tail = '%')
  · rw [if_pos hesc]
    exact status_escape hs ⟨hc, hesc⟩ fun hm => hmark hm.2
  rw [if_neg hesc, status_quoteStep hs]
  have hin : StaysInside lib args s := ⟨fun he => absurd he.2 hesc, fun hm => absurd hm.2 hmark⟩
  exact iff_of_false (not_lt.mpr h) (not_not.mpr hin)

lemma status_step (h : halted s = false) :
    (step lib args s).status = .overrun ↔ ¬StaysInside lib args s := by
  have hs := scanning_of_not_halted h
  have hpos := rest_pos h
  have calm : ¬AtCode s → StaysInside lib args s := fun hn =>
    ⟨fun he => absurd he.1 hn, fun hm => absurd hm.1 hn⟩
  cases hq : s.quote with
  | some q =>
    have hin := calm fun hc => by rw [hc.1] at hq; cases hq
    rw [step_quoted hq, status_quoteStep hs]
    exact ⟨fun hlt => by omega, fun hn => absurd hin hn⟩
  | none =>
    cases hm : s.comment with
    | none => rw [step_code_eq hq hm, status_codeStep hs ⟨hq, hm⟩ hpos]
    | line =>
      have hin := calm fun hc => by rw [hc.2] at hm; cases hm
      rw [step_line_eq hq hm]
      refine ⟨fun ho => ?_, fun hn => absurd hin hn⟩
      rw [lineStep] at ho
      by_cases he : peek s.rest = '\n' ∨ peek s.rest = '\r'
      · rw [if_pos he] at ho
        exact absurd ((status_advance (s := s.commented .none) hs 1).mp ho) (not_lt.mpr hpos)
      · rw [if_neg he, status_advance hs] at ho
        exact absurd ho (not_lt.mpr hpos)
    | block =>
      have hin := calm fun hc => by rw [hc.2] at hm; cases hm
      rw [step_block_eq hq hm]
      refine ⟨fun ho => ?_, fun hn => absurd hin hn⟩
      rw [blockStep] at ho
      by_cases he : peek s.rest = '*' ∧ peek s.rest.tail = '/'
      · have hlen := length_two_of_peek (by decide) he.2
        rw [if_pos he] at ho
        exact absurd ((status_advance (s := s.commented .none) hs 2).mp ho) (not_lt.mpr hlen)
      · rw [if_neg he, status_advance hs] at ho
        exact absurd ho (not_lt.mpr hpos)

section Bounds

variable (lib : QoreLib) (args : Option (List QoreValue)) (str : Text)
  (nodeList : List OraBindNode) (hasOutput : Bool)

-- the state after `n` turns of the loop
def turns (n : ℕ) : Scan := FuelRun.run halted (step lib args) n (start str nodeList hasOutput)

-- the pointer does not leave the buffer, and the loop ends
def InBounds : Prop :=
  (∀ n, (turns lib args str nodeList hasOutput n).status ≠ .overrun) ∧
    ∃ n, halted (turns lib args str nodeList hasOutput n) = true

/-- The scan ends within the buffer if and only if every turn stays inside. -/
theorem inBounds_iff : InBounds lib args str nodeList hasOutput ↔
    ∀ n, halted (turns lib args str nodeList hasOutput n) = false →
      StaysInside lib args (turns lib args str nodeList hasOutput n) := by
  have next : ∀ n, halted (turns lib args str nodeList hasOutput n) = false →
      turns lib args str nodeList hasOutput (n + 1) = step lib args
        (turns lib args str nodeList hasOutput n) := by
    intro n hn
    have hone : FuelRun.run halted (step lib args) 1 (turns lib args str nodeList hasOutput n) =
        step lib args (turns lib args str nodeList hasOutput n) := by
      simp [FuelRun.run, hn]
    rw [← hone]
    exact run_add n 1 _
  constructor
  · rintro ⟨hin, -⟩ n hn
    by_contra hout
    apply hin (n + 1)
    rw [next n hn]
    exact (status_step hn).mpr hout
  · intro h
    refine ⟨fun n => ?_, _, scan_halts lib args str nodeList hasOutput⟩
    induction n with
    | zero => rintro ⟨⟩
    | succ n ih =>
      by_cases hn : halted (turns lib args str nodeList hasOutput n) = true
      · have hsame : turns lib args str nodeList hasOutput
            (n + 1) = turns lib args str nodeList hasOutput n :=
          (run_add n 1 _).trans (run_halted hn 1)
        rw [hsame]
        exact ih
      · rw [Bool.not_eq_true] at hn
        rw [next n hn, ne_eq, status_step hn, not_not]
        exact h n hn

/-- An escape at the end of the text takes the pointer past the NUL. -/
theorem not_inBounds_escape : ¬InBounds plainLib none "select 1 \\:".toList [] false := by
  rintro ⟨hin, -⟩
  exact hin 10 rfl

end Bounds

end OracleDriver.ParseQuery
