import OracleDriver.MarkerTokens
import OracleDriver.ParseQuery
import Mathlib.Data.List.TakeWhile

namespace OracleDriver.ParseQuery

open OraBindNode MarkerTokens FuelRun

namespace Scan

-- p has passed over the characters `t`, and `r` is what is left
def moved (s : Scan) (t r : Text) : Scan := { s with before := t.reverse ++ s.before, rest := r }

variable (s : Scan) (t r t' r' : Text)

@[simp] lemma moved_before : (s.moved t r).before = t.reverse ++ s.before := rfl
@[simp] lemma moved_rest : (s.moved t r).rest = r := rfl
@[simp] lemma moved_index : (s.moved t r).index = s.index := rfl
@[simp] lemma moved_quote : (s.moved t r).quote = s.quote := rfl
@[simp] lemma moved_comment : (s.moved t r).comment = s.comment := rfl
@[simp] lemma moved_nodeList : (s.moved t r).nodeList = s.nodeList := rfl
@[simp] lemma moved_hasOutput : (s.moved t r).hasOutput = s.hasOutput := rfl
@[simp] lemma moved_xsink : (s.moved t r).xsink = s.xsink := rfl
@[simp] lemma moved_status : (s.moved t r).status = s.status := rfl

lemma moved_moved : (s.moved t r).moved t' r' = s.moved (t ++ t') r' := by
  simp only [moved, List.reverse_append, List.append_assoc]

variable {s t r}

lemma advance_eq (h : s.rest = t ++ r) {k : ℕ} (hk : k = t.length) : s.advance k = s.moved t r := by
  subst hk
  simp only [advance, h, List.length_append, Nat.le_add_right, if_true, List.take_left,
    List.drop_left, moved]

lemma advance_one {c : Char} (h : s.rest = c :: r) : s.advance 1 = s.moved [c] r := advance_eq h rfl

lemma advance_two {c d : Char} (h : s.rest = c :: d :: r) : s.advance 2 = s.moved [c, d] r :=
  advance_eq h rfl

lemma replaceMarker_eq {a b : Char} (h : s.rest = a :: b :: r) {tmp : Text} (ht : '\x00' ∉ tmp) :
    s.replaceMarker tmp = s.moved tmp r := by
  have hc : cStr tmp = tmp := List.takeWhile_eq_self_iff.mpr fun c hc => by
    simp only [ne_eq, decide_not, Bool.not_eq_eq_eq_not, Bool.not_true, decide_eq_false_iff_not]
    rintro rfl
    exact ht hc
  rw [replaceMarker,
    advance_eq (t := tmp) (r := r) (by simp only [hc, h, List.drop_succ_cons, List.drop_zero]) rfl]
  rfl

end Scan

variable (lib : QoreLib) (args : Option (List QoreValue))

def Scan.quoted (s : Scan) (q : Option Char) : Scan := { s with quote := q }

def Scan.commented (s : Scan) (m : Comment) : Scan := { s with comment := m }

@[simp] lemma Scan.quoted_rest (s : Scan) (q : Option Char) : (s.quoted q).rest = s.rest := rfl
@[simp] lemma Scan.quoted_quote (s : Scan) (q : Option Char) : (s.quoted q).quote = q := rfl
@[simp] lemma Scan.quoted_comment (s : Scan) (q : Option Char) : (s.quoted q).comment = s.comment := rfl
@[simp] lemma Scan.quoted_status (s : Scan) (q : Option Char) : (s.quoted q).status = s.status := rfl
@[simp] lemma Scan.commented_rest (s : Scan) (m : Comment) : (s.commented m).rest = s.rest := rfl
@[simp] lemma Scan.commented_quote (s : Scan) (m : Comment) : (s.commented m).quote = s.quote := rfl
@[simp] lemma Scan.commented_comment (s : Scan) (m : Comment) : (s.commented m).comment = m := rfl
@[simp] lemma Scan.commented_status (s : Scan) (m : Comment) : (s.commented m).status = s.status := rfl

-- the run from `s` ends with the text, the nodes and the output flag given, and no error
def Yields (s : Scan) (text : Text) (nodes : List OraBindNode) (out : Bool) : Prop :=
  ∃ u, Ends halted (step lib args) s u ∧ u.str = text ∧ u.nodeList = nodes ∧ u.hasOutput = out ∧
    u.xsink = [] ∧ u.status = .scanning

variable {lib args}

lemma yields_step {s : Scan} {text : Text} {nodes : List OraBindNode} {out : Bool} (h : halted s = false)
    (hy : Yields lib args (step lib args s) text nodes out) : Yields lib args s text nodes out := by
  obtain ⟨u, hu, hr⟩ := hy
  exact ⟨u, ends_step h hu, hr⟩

lemma peek_of_stop {z : Text} (hz : cStr z = []) : peek z = '\x00' := by
  cases z with
  | nil => rfl
  | cons c z =>
    by_contra hc
    simp only [peek, List.headD_cons] at hc
    simp only [cStr, List.takeWhile_cons, ne_eq, hc, not_false_eq_true, decide_true, if_true] at hz
    exact List.cons_ne_nil _ _ hz

lemma yields_end {s : Scan} (hz : cStr s.rest = []) (hs : s.status = .scanning) (hx : s.xsink = []) :
    Yields lib args s (s.before.reverse ++ s.rest) s.nodeList s.hasOutput := by
  refine ⟨s, ends_refl ?_, rfl, rfl, rfl, hx, hs⟩
  simp only [halted, peek_of_stop hz, BEq.rfl, Bool.or_true]

-- two states that differ in the quote or the comment alone, and have nothing left to scan
lemma yields_congr_end {s t : Scan} {text : Text} {nodes : List OraBindNode} {out : Bool}
    (hz : cStr s.rest = []) (hs : s.status = .scanning) (hb : s.before = t.before) (hr : s.rest = t.rest)
    (hn : s.nodeList = t.nodeList) (ho : s.hasOutput = t.hasOutput) (hx : s.xsink = t.xsink)
    (ht : t.status = .scanning) (hy : Yields lib args t text nodes out) :
    Yields lib args s text nodes out := by
  obtain ⟨u, hu, h1, h2, h3, h4, h5⟩ := hy
  have hh : halted t = true := by simp only [halted, ← hr, peek_of_stop hz, BEq.rfl, Bool.or_true]
  obtain rfl := ends_unique hu (ends_refl hh)
  refine ⟨s, ends_refl ?_, ?_, hn ▸ h2, ho ▸ h3, hx ▸ h4, hs⟩
  · simp only [halted, peek_of_stop hz, BEq.rfl, Bool.or_true]
  · simpa only [Scan.str, hb, hr] using h1

lemma not_halted {s : Scan} {c : Char} {r : Text} (h : s.rest = c :: r) (hc : c ≠ '\x00')
    (hs : s.status = .scanning) : halted s = false := by
  simp only [halted, h, peek, List.headD_cons, hs, bne_self_eq_false, Bool.false_or, beq_eq_false_iff_ne]
  exact hc

lemma peek_append {r z : Text} (hz : cStr z = []) : peek (r ++ z) = peek r := by
  cases r with
  | nil => exact peek_of_stop hz
  | cons c r => rfl

lemma takeWhile_append_stop {r z : Text} (hz : cStr z = []) :
    (r ++ z).takeWhile isNameChar = r.takeWhile isNameChar := by
  have hs : z.takeWhile isNameChar = [] := by
    cases z with
    | nil => rfl
    | cons c z =>
      have hc : c = '\x00' := peek_of_stop hz
      rw [hc]; rfl
  rw [List.takeWhile_append]
  split
  · rename_i hl
    rw [hs, List.append_nil]
    exact (List.takeWhile_prefix isNameChar).eq_of_length hl |>.symm
  · rfl

lemma markerName_no_nul (j : ℕ) : '\x00' ∉ markerName j := by
  intro h
  rcases List.mem_append.mp h with h | h
  · exact absurd h (by decide)
  · exact absurd (Nat.isDigit_of_mem_toDigits (by omega) (by omega) h) (by decide)

lemma quoteStep_move {s : Scan} {c : Char} {r : Text} (h : s.rest = c :: r) (hc : c ≠ '\'' ∧ c ≠ '"') :
    quoteStep s = s.moved [c] r := by
  have hp : peek s.rest = c := by rw [h]; rfl
  simp only [quoteStep, hp, hc.1, hc.2, or_self, if_false]
  exact Scan.advance_eq h rfl

lemma quoteStep_inside {s : Scan} {c q : Char} {r : Text} (h : s.rest = c :: r) (hq : s.quote = some q)
    (hc : c ≠ q) : quoteStep s = s.moved [c] r := by
  have hp : peek s.rest = c := by rw [h]; rfl
  have hs : s.quote ≠ some c := by rw [hq]; exact fun e => hc (Option.some.inj e).symm
  have hn : s.quote ≠ none := by rw [hq]; exact Option.some_ne_none q
  simp only [quoteStep, hp, hs, hn, if_false]
  split
  · exact Scan.advance_eq h rfl
  · exact Scan.advance_eq h rfl

lemma quoteStep_close {s : Scan} {q : Char} {r : Text} (h : s.rest = q :: r) (hq : s.quote = some q)
    (hc : q = '\'' ∨ q = '"') : quoteStep s = (s.moved [q] r).quoted none := by
  have hp : peek s.rest = q := by rw [h]; rfl
  simp only [quoteStep, hp, hc, if_true, hq, reduceCtorEq, if_false]
  exact Scan.advance_eq (s := { s with quote := none }) h rfl

lemma quoteStep_open {s : Scan} {q : Char} {r : Text} (h : s.rest = q :: r) (hq : s.quote = none)
    (hc : q = '\'' ∨ q = '"') : quoteStep s = (s.moved [q] r).quoted (some q) := by
  have hp : peek s.rest = q := by rw [h]; rfl
  simp only [quoteStep, hp, hc, if_true, hq]
  exact Scan.advance_eq (s := { s with quote := some q }) h rfl

lemma step_quoted {s : Scan} {q : Char} (h : s.quote = some q) : step lib args s = quoteStep s := by
  simp only [step, h, Option.isSome_some, if_true]

lemma step_line_eq {s : Scan} (hq : s.quote = none) (hm : s.comment = .line) :
    step lib args s = lineStep s := by
  simp only [step, hq, hm, Option.isSome_none, Bool.false_eq_true, if_false]

lemma step_block_eq {s : Scan} (hq : s.quote = none) (hm : s.comment = .block) :
    step lib args s = blockStep s := by
  simp only [step, hq, hm, Option.isSome_none, Bool.false_eq_true, if_false]

lemma step_code_eq {s : Scan} (hq : s.quote = none) (hm : s.comment = .none) :
    step lib args s = codeStep lib args s := by
  simp only [step, hq, hm, Option.isSome_none, Bool.false_eq_true, if_false]

lemma codeStep_quote_char {s : Scan} {q : Char} {r : Text} (h : s.rest = q :: r)
    (hc : q = '\'' ∨ q = '"') :
    codeStep lib args s = quoteStep s := by
  have hp : peek s.rest = q := by rw [h]; rfl
  rcases hc with rfl | rfl <;> simp [codeStep, hp]

lemma lineStep_end {s : Scan} {c : Char} {r : Text} (h : s.rest = c :: r) (hc : c = '\n' ∨ c = '\r') :
    lineStep s = (s.moved [c] r).commented .none := by
  have hp : peek s.rest = c := by rw [h]; rfl
  simp only [lineStep, hp, hc, if_true]
  exact Scan.advance_one (s := { s with comment := .none }) h

lemma lineStep_inside {s : Scan} {c : Char} {r : Text} (h : s.rest = c :: r)
    (hc : ¬(c = '\n' ∨ c = '\r')) :
    lineStep s = s.moved [c] r := by
  have hp : peek s.rest = c := by rw [h]; rfl
  simp only [lineStep, hp, hc, if_false]
  exact Scan.advance_one h

lemma blockStep_end {s : Scan} {r : Text} (h : s.rest = '*' :: '/' :: r) :
    blockStep s = (s.moved ['*', '/'] r).commented .none := by
  have hp : peek s.rest = '*' := by rw [h]; rfl
  have hd : peek s.rest.tail = '/' := by rw [h]; rfl
  simp only [blockStep, hp, hd, and_self, if_true]
  exact Scan.advance_two (s := { s with comment := .none }) h

lemma blockStep_inside {s : Scan} {c : Char} {r : Text} (h : s.rest = c :: r)
    (hc : ¬(c = '*' ∧ peek r = '/')) :
    blockStep s = s.moved [c] r := by
  have hp : peek s.rest = c := by rw [h]; rfl
  have hd : peek s.rest.tail = peek r := by rw [h]; rfl
  simp only [blockStep, hp, hd, hc, if_false]
  exact Scan.advance_one h

section Bodies

variable {z text : Text} {nodes : List OraBindNode} {out : Bool}

lemma yields_literal (hz : cStr z = []) (r : Text) (s : Scan) (hr : '\x00' ∉ r) (h : s.rest = r ++ z)
    (hq : s.quote = some '\'') (hm : s.comment = .none) (hs : s.status = .scanning)
    (hy : Yields lib args ((s.moved (literalBody r) (r.drop (literalBody r).length ++
      z)).quoted none) text nodes out) :
    Yields lib args s text nodes out := by
  induction r using literalBody.induct generalizing s with
  | case1 r ih =>
    change s.rest = '\'' :: '\'' :: (r ++ z) at h
    refine yields_step (not_halted h (by decide) hs) ?_
    rw [step_quoted hq, quoteStep_close h hq (Or.inl rfl)]
    have h1 : ((s.moved ['\''] ('\'' :: (r ++ z))).quoted none).rest = '\'' :: (r ++ z) := rfl
    have h2 : ((s.moved ['\''] ('\'' :: (r ++ z))).quoted none).quote = none := rfl
    refine yields_step (not_halted h1 (by decide) hs) ?_
    rw [step_code_eq h2 hm, codeStep_quote_char h1 (Or.inl rfl), quoteStep_open h1 rfl (Or.inl rfl)]
    refine ih _ (fun hc => hr (List.mem_cons_of_mem _ (List.mem_cons_of_mem _ hc))) rfl rfl hm hs ?_
    simpa [Scan.quoted, Scan.moved, literalBody] using hy
  | case2 r hn =>
    refine yields_step (not_halted h (by decide) hs) ?_
    rw [step_quoted hq, quoteStep_close h hq (Or.inl rfl)]
    have hb : literalBody ('\'' :: r) = ['\''] := by
      rcases r with _ | ⟨c, r⟩
      · rfl
      · have hc : c ≠ '\'' := fun e => hn r (by rw [e])
        simp [literalBody]
    simpa [Scan.quoted, Scan.moved, hb] using hy
  | case3 c r hn hc ih =>
    have h0 : c ≠ '\x00' := fun e => hr (e ▸ List.mem_cons_self)
    refine yields_step (not_halted h h0 hs) ?_
    rw [step_quoted hq, quoteStep_inside h hq hc]
    refine ih _ (fun hm' => hr (List.mem_cons_of_mem _ hm')) rfl hq hm hs ?_
    simpa [Scan.quoted, Scan.moved, literalBody, hc] using hy
  | case4 =>
    refine yields_congr_end (t := (s.moved _ _).quoted none) ?_ hs rfl ?_ rfl rfl rfl hs hy
    · simpa only [h, List.nil_append] using hz
    · simpa only [literalBody, List.length_nil, List.drop_nil] using! h

lemma yields_identifier (hz : cStr z = []) (r : Text) (s : Scan) (hr : '\x00' ∉ r) (h : s.rest = r ++ z)
    (hq : s.quote = some '"') (hs : s.status = .scanning)
    (hy : Yields lib args ((s.moved (identifierBody r) (r.drop (identifierBody r).length ++
      z)).quoted none)
      text nodes out) : Yields lib args s text nodes out := by
  induction r generalizing s with
  | nil =>
    refine yields_congr_end (t := (s.moved _ _).quoted none) ?_ hs rfl ?_ rfl rfl rfl hs hy
    · simpa only [h, List.nil_append] using hz
    · simpa only [identifierBody, List.length_nil, List.drop_nil] using! h
  | cons c r ih =>
    rw [List.cons_append] at h
    have h0 : c ≠ '\x00' := fun e => hr (e ▸ List.mem_cons_self)
    refine yields_step (not_halted h h0 hs) ?_
    by_cases hc : c = '"'
    · subst hc
      rw [step_quoted hq, quoteStep_close h hq (Or.inr rfl)]
      simpa [identifierBody] using hy
    · rw [step_quoted hq, quoteStep_inside h hq hc]
      refine ih _ (fun hm' => hr (List.mem_cons_of_mem _ hm')) rfl hq hs ?_
      simpa [Scan.quoted, Scan.moved, identifierBody, hc] using hy

lemma yields_line (hz : cStr z = []) (r : Text) (s : Scan) (hr : '\x00' ∉ r) (h : s.rest = r ++ z)
    (hq : s.quote = none) (hm : s.comment = .line) (hs : s.status = .scanning)
    (hy : Yields lib args ((s.moved (lineBody r) (r.drop (lineBody r).length ++ z)).commented .none)
      text nodes out) : Yields lib args s text nodes out := by
  induction r generalizing s with
  | nil =>
    refine yields_congr_end (t := (s.moved _ _).commented .none) ?_ hs rfl ?_ rfl rfl rfl hs hy
    · simpa only [h, List.nil_append] using hz
    · simpa only [lineBody, List.length_nil, List.drop_nil] using! h
  | cons c r ih =>
    rw [List.cons_append] at h
    have h0 : c ≠ '\x00' := fun e => hr (e ▸ List.mem_cons_self)
    refine yields_step (not_halted h h0 hs) ?_
    by_cases hc : c = '\n' ∨ c = '\r'
    · rw [step_line_eq hq hm, lineStep_end h hc]
      simpa [lineBody, hc] using hy
    · rw [step_line_eq hq hm, lineStep_inside h hc]
      refine ih _ (fun hm' => hr (List.mem_cons_of_mem _ hm')) rfl hq hm hs ?_
      simpa [Scan.commented, Scan.moved, lineBody, hc] using hy

lemma yields_block (hz : cStr z = []) (r : Text) (s : Scan) (hr : '\x00' ∉ r) (h : s.rest = r ++ z)
    (hq : s.quote = none) (hm : s.comment = .block) (hs : s.status = .scanning)
    (hy : Yields lib args ((s.moved (blockBody r) (r.drop (blockBody r).length ++ z)).commented .none)
      text nodes out) : Yields lib args s text nodes out := by
  induction r generalizing s with
  | nil =>
    refine yields_congr_end (t := (s.moved _ _).commented .none) ?_ hs rfl ?_ rfl rfl rfl hs hy
    · simpa only [h, List.nil_append] using hz
    · simpa only [blockBody, List.length_nil, List.drop_nil] using! h
  | cons c r ih =>
    rw [List.cons_append] at h
    have h0 : c ≠ '\x00' := fun e => hr (e ▸ List.mem_cons_self)
    refine yields_step (not_halted h h0 hs) ?_
    by_cases hc : c = '*' ∧ peek r = '/'
    · obtain ⟨rfl, hr'⟩ := hc
      obtain ⟨r, rfl⟩ : ∃ q, r = '/' :: q := by
        cases r with
        | nil => exact absurd hr' (by decide)
        | cons d r => exact ⟨r, by rw [← hr']; rfl⟩
      rw [step_block_eq hq hm, blockStep_end h]
      simpa [blockBody, hr'] using hy
    · rw [step_block_eq hq hm, blockStep_inside h (by rwa [peek_append hz])]
      refine ih _ (fun hm' => hr (List.mem_cons_of_mem _ hm')) rfl hq hm hs ?_
      simpa [Scan.commented, Scan.moved, blockBody, hc] using hy

end Bodies

-- the scan stands between two tokens: `prev` is the character before `r`, and `k` items have been passed
structure Between (args : Option (List QoreValue)) (s : Scan) (prev : Option Char) (r z : Text)
    (k : ℕ) : Prop where
  rest : s.rest = r ++ z
  quote : s.quote = none
  comment : s.comment = .none
  status : s.status = .scanning
  alnum : s.afterAlnum = afterAlnum prev
  index : args.isSome = true → s.index = k

namespace Between

variable {s : Scan} {prev : Option Char} {c : Char} {r z : Text} {k : ℕ}

lemma nextArg (h : Between args s prev r z k) : s.nextArg args = retrieveEntry args k := by
  cases args with
  | none => rfl
  | some l => rw [Scan.nextArg, h.index rfl]

lemma tookArg_index (h : Between args s prev r z k) (ha : args.isSome = true) :
    (s.tookArg args).index = k + 1 := by
  rw [Scan.tookArg, if_pos ha, h.index ha]

lemma moved_quoted (h : Between args s prev r z k) (q : Option Char) (t t' r' r'' : Text) :
    ((((s.moved t r').quoted q).moved t' r'').quoted none) = s.moved (t ++ t') r'' := by
  simp only [Scan.moved, Scan.quoted, ← h.quote, List.reverse_append, List.append_assoc]

lemma moved_commented (h : Between args s prev r z k) (m : Comment) (t t' r' r'' : Text) :
    ((((s.commented m).moved t r').moved t' r'').commented .none) = s.moved (t ++ t') r'' := by
  simp only [Scan.moved, Scan.commented, ← h.comment, List.reverse_append, List.append_assoc]

lemma step_line_comment (h : Between args s prev ('-' :: '-' :: r) z k) :
    step lib args s = (s.commented .line).moved ['-', '-'] (r ++ z) := by
  have hr : s.rest = '-' :: '-' :: (r ++ z) := h.rest
  have hp : peek s.rest = '-' := by rw [hr]; rfl
  have hd : peek s.rest.tail = '-' := by rw [hr]; rfl
  rw [step_code_eq h.quote h.comment]
  simp only [codeStep, hp, hd, and_self, if_true]
  exact Scan.advance_two (s := s.commented .line) hr

lemma step_block_comment (h : Between args s prev ('/' :: '*' :: r) z k) :
    step lib args s = (s.commented .block).moved ['/', '*'] (r ++ z) := by
  have hr : s.rest = '/' :: '*' :: (r ++ z) := h.rest
  have hp : peek s.rest = '/' := by rw [hr]; rfl
  have hd : peek s.rest.tail = '*' := by rw [hr]; rfl
  rw [step_code_eq h.quote h.comment]
  have hn : ¬('/' = '-' ∧ '*' = '-') := by decide
  simp only [codeStep, hp, hd, hn, and_self, if_true, if_false]
  exact Scan.advance_two (s := s.commented .block) hr

lemma step_marker (h : Between args s prev ('%' :: 'v' :: r) z k) (hz : cStr z = [])
    (hp : afterAlnum prev = false) (hr : (peek r).isAlpha = false) :
    step lib args s = ((s.tookArg args).moved (markerName s.nodeList.length) (r ++ z)).addNode
      (ofValue (retrieveEntry args k)) := by
  have hrest : s.rest = '%' :: 'v' :: (r ++ z) := h.rest
  have h0 : peek s.rest = '%' := by rw [hrest]; rfl
  have h1 : peek s.rest.tail = 'v' := by rw [hrest]; rfl
  have h2 : (peek (s.rest.drop 2)).isAlpha = false := by
    rw [hrest]
    exact (congrArg Char.isAlpha (peek_append hz)).trans hr
  have ha : s.afterAlnum = false := h.alnum.trans hp
  have hn : '\x00' ∉ markerName s.nodeList.length := markerName_no_nul _
  have hd : ¬('%' = '-' ∧ 'v' = '-') := by decide
  have hb : ¬('%' = '/' ∧ 'v' = '*') := by decide
  have hv : 'v' ≠ 'd' ∧ 'v' ≠ 's' := by decide
  rw [step_code_eq h.quote h.comment]
  simp only [codeStep, h0, h1, hd, hb, ha, and_self, if_true, if_false]
  simp only [valueMarker, Scan.tookArg, h1, h2, hv.1, hv.2, ne_eq, not_true, if_false,
    Bool.false_eq_true, h.nextArg]
  exact congrArg (Scan.addNode _) (Scan.replaceMarker_eq (s := s.tookArg args) hrest hn)

lemma step_placeholder (h : Between args s prev (':' :: r) z k) (hz : cStr z = [])
    (hr : (peek r).isAlpha = true)
    (hset : (placeholderNode lib args k (r.takeWhile isNameChar)).2 = none) :
    step lib args s =
      { ((s.tookArg args).moved (':' :: r.takeWhile isNameChar) (r.dropWhile isNameChar ++
        z)).addNode
      (placeholderNode lib args k (r.takeWhile isNameChar)).1 with hasOutput := true } := by
  have hrest : s.rest = ':' :: (r ++ z) := h.rest
  have h0 : peek s.rest = ':' := by rw [hrest]; rfl
  have hn : (r ++ z).takeWhile isNameChar = r.takeWhile isNameChar := takeWhile_append_stop hz
  rw [step_code_eq h.quote h.comment]
  have hc : codeStep lib args s = placeholder lib args s := by
    simp [codeStep, h0]
  have hs : (s.moved [':'] (r ++ z)).rest = r.takeWhile isNameChar ++ (r.dropWhile isNameChar ++ z) := by
    rw [← List.append_assoc, List.takeWhile_append_dropWhile]; rfl
  rw [hc, placeholder, Scan.advance_one hrest]
  simp only [Scan.moved_rest, peek_append hz, hr, if_true, hn]
  rw [Scan.advance_eq hs rfl, Scan.moved_moved]
  have ha : Scan.nextArg args (s.moved ([':'] ++ r.takeWhile isNameChar) (r.dropWhile isNameChar ++ z)) =
      retrieveEntry args k := h.nextArg
  simp only [ha]
  rw [placeholderNode] at hset ⊢
  simp only [hset]
  rfl

-- a token that the scan leaves as it is
lemma yields_same (h : Between args s prev (c :: r) z k) (hz : cStr z = []) (hnul : '\x00' ∉ c :: r)
    {t : Token} (ht : nextToken prev c r = t) (hs : t.supported = true) (hm : t ≠ .marker)
    (hp : t.isPlaceholder = false) {text : Text} {nodes : List OraBindNode} {out : Bool}
    (hy : Yields lib args (s.moved t.text ((c :: r).drop t.text.length ++ z)) text nodes out) :
    Yields lib args s text nodes out := by
  have hrest : s.rest = c :: (r ++ z) := h.rest
  have hc : c ≠ '\x00' := fun e => hnul (e ▸ List.mem_cons_self)
  have hr : '\x00' ∉ r := fun e => hnul (List.mem_cons_of_mem _ e)
  have hpk : peek s.rest = c := by rw [hrest]; rfl
  have hd : peek s.rest.tail = peek r := by rw [hrest]; exact peek_append hz
  refine yields_step (not_halted hrest hc h.status) ?_
  unfold nextToken at ht
  split at ht
  · rename_i hq
    subst hq ht
    rw [step_code_eq h.quote h.comment, codeStep_quote_char hrest (Or.inl rfl),
      quoteStep_open hrest h.quote (Or.inl rfl)]
    refine yields_literal hz r _ hr rfl rfl h.comment h.status ?_
    rwa [h.moved_quoted]
  split at ht
  · rename_i hq
    subst hq ht
    rw [step_code_eq h.quote h.comment, codeStep_quote_char hrest (Or.inr rfl),
      quoteStep_open hrest h.quote (Or.inr rfl)]
    refine yields_identifier hz r _ hr rfl rfl h.status ?_
    rwa [h.moved_quoted]
  split at ht
  · rename_i hl
    obtain ⟨rfl, hl⟩ := hl
    obtain ⟨r, rfl⟩ := cons_of_peek hl (by decide)
    subst ht
    rw [h.step_line_comment]
    refine yields_line hz r _ (fun e => hr (List.mem_cons_of_mem _ e)) rfl h.quote rfl h.status ?_
    rwa [h.moved_commented]
  split at ht
  · rename_i hl
    obtain ⟨rfl, hl⟩ := hl
    obtain ⟨r, rfl⟩ := cons_of_peek hl (by decide)
    subst ht
    rw [h.step_block_comment]
    refine yields_block hz r _ (fun e => hr (List.mem_cons_of_mem _ e)) rfl h.quote rfl h.status ?_
    rwa [h.moved_commented]
  split at ht
  · split at ht
    · exact absurd ht.symm hm
    · subst ht
      exact absurd hs (by decide)
  split at ht
  · subst ht
    exact absurd hp (by simp only [Token.isPlaceholder, Bool.true_eq_false, not_false_eq_true])
  split at ht
  · subst ht
    exact absurd hs (by decide)
  · subst ht
    rename_i h1 h2 h3 h4 h5 h6 h7
    have hcode : codeStep lib args s = quoteStep s ∨ c = ':' ∧
        codeStep lib args s = placeholder lib args s := by
      rw [codeStep]
      simp only [hpk, hd, h3, h4, h7, if_false, h.alnum, h5]
      by_cases h8 : c = ':'
      · simp only [h8, if_true, true_and, or_true]
      · simp only [h8, if_false, true_or]
    rw [step_code_eq h.quote h.comment]
    rcases hcode with hcode | ⟨rfl, hcode⟩
    · rw [hcode, quoteStep_move hrest ⟨h1, h2⟩]
      exact hy
    · have hna : (peek r).isAlpha = false := by
        simpa only [true_and, Bool.not_eq_true] using h6
      rw [hcode, placeholder, Scan.advance_one hrest]
      simp only [Scan.moved_rest, peek_append hz, hna, Bool.false_eq_true, if_false]
      exact hy

end Between

lemma afterAlnum_moved {s : Scan} {t r : Text} (ht : t ≠ []) :
    (s.moved t r).afterAlnum = afterAlnum t.getLast? := by
  simp only [Scan.afterAlnum, Scan.moved_before, afterAlnum]
  rw [List.head?_append_of_ne_nil _ (List.reverse_ne_nil_iff.mpr ht), List.head?_reverse]

lemma append_toDigits_getLast (p : Text) (j : ℕ) :
    afterAlnum (p ++ Nat.toDigits 10 j).getLast? = true := by
  have hne : Nat.toDigits 10 j ≠ [] := Nat.toDigits_ne_nil
  have hd : ((Nat.toDigits 10 j).getLast hne).isDigit = true :=
    Nat.isDigit_of_mem_toDigits (by decide) (by decide) (List.getLast_mem hne)
  rw [List.getLast?_append_of_ne_nil _ hne, List.getLast?_eq_some_getLast hne]
  simp only [afterAlnum, Option.map_some, Option.getD_some, Char.isAlphanum, hd, Bool.or_true]

lemma append_toDigits_ne_nil (p : Text) (j : ℕ) : p ++ Nat.toDigits 10 j ≠ [] :=
  List.append_ne_nil_of_right_ne_nil _ Nat.toDigits_ne_nil

lemma Between.next {s : Scan} {prev : Option Char} {r z t r' : Text} {k : ℕ}
    (h : Between args s prev r z k)
    (ht : t ≠ []) : Between args (s.moved t (r' ++ z)) t.getLast? r' z k where
  rest := rfl
  quote := h.quote
  comment := h.comment
  status := h.status
  alnum := afterAlnum_moved ht
  index := h.index

lemma yields_tokens {z : Text} (hz : cStr z = []) (n : ℕ) (s : Scan) (prev : Option Char)
    (r : Text) (k : ℕ)
    (hn : r.length ≤ n) (hnul : '\x00' ∉ r) (h : Between args s prev r z k) (hx : s.xsink = [])
    (hsup : ∀ t ∈ tokensFrom n prev r, t.supported = true)
    (hset : Settable lib args k (tokensFrom n prev r)) :
    Yields lib args s (s.before.reverse ++ render s.nodeList.length (tokensFrom n prev r) ++ z)
      (s.nodeList ++ created lib args k (tokensFrom n prev r))
      (s.hasOutput || (tokensFrom n prev r).any Token.isPlaceholder) := by
  induction n generalizing s prev r k with
  | zero =>
    obtain rfl := List.eq_nil_of_length_eq_zero (Nat.le_zero.mp hn)
    have hr : s.rest = z := h.rest
    have hy : Yields lib args s _ _ _ := yields_end (hr ▸ hz) h.status hx
    simpa [tokensFrom, render, created, hr] using hy
  | succ n ih =>
    cases r with
    | nil =>
      have hr : s.rest = z := h.rest
      have hy : Yields lib args s _ _ _ := yields_end (hr ▸ hz) h.status hx
      simpa [tokensFrom, render, created, hr] using hy
    | cons c r =>
      have hl := List.length_pos_iff.mpr (nextToken_text_ne_nil prev c r)
      have hlen : ((c :: r).drop (nextToken prev c r).text.length).length ≤ n := by
        rw [List.length_drop, List.length_cons] at *
        omega
      have hnul' : '\x00' ∉ (c :: r).drop (nextToken prev c r).text.length :=
        fun e => hnul (List.mem_of_mem_drop e)
      simp only [tokensFrom, List.forall_mem_cons] at hsup hset ⊢
      obtain ⟨hs, hsup⟩ := hsup
      have hsame : ∀ t, nextToken prev c r = t → t ≠ .marker → t.isPlaceholder = false →
          Yields lib args s (s.before.reverse ++
            render s.nodeList.length (t :: tokensFrom n t.text.getLast?
            ((c :: r).drop t.text.length)) ++
              z) (s.nodeList ++ created lib args k (t :: tokensFrom n t.text.getLast?
            ((c :: r).drop t.text.length))) (s.hasOutput || (t :: tokensFrom n t.text.getLast?
            ((c :: r).drop t.text.length)).any Token.isPlaceholder) := by
        rintro t rfl hm hp
        have hset' : Settable lib args k (tokensFrom n (nextToken prev c r).text.getLast?
            ((c :: r).drop (nextToken prev c r).text.length)) := by
          rwa [settable_same hm hp] at hset
        have hy :=
          ih (s.moved (nextToken prev c r).text
            ((c :: r).drop (nextToken prev c r).text.length ++ z))
          _ _ k hlen hnul' (h.next (nextToken_text_ne_nil prev c r)) hx hsup hset'
        rw [render_same hm hp, created_same hm hp, List.any_cons, hp, Bool.false_or]
        refine h.yields_same hz hnul rfl hs hm hp ?_
        simpa only [Scan.moved_before, Scan.moved_nodeList, Scan.moved_hasOutput,
          List.reverse_append, List.reverse_reverse, List.append_assoc] using hy
      rcases ht : nextToken prev c r with t | t | _ | name | _ | _ | d
      · exact hsame _ ht (by simp) rfl
      · exact hsame _ ht (by simp) rfl
      · obtain ⟨rfl, hprev, hv, ha⟩ := nextToken_eq_marker ht
        obtain ⟨r, rfl⟩ := cons_of_peek hv (by decide)
        rw [ht] at hset hsup hnul' hlen
        refine yields_step (not_halted h.rest (by decide) h.status) ?_
        rw [h.step_marker hz hprev ha]
        have hb : Between args (((s.tookArg args).moved (markerName s.nodeList.length) (r ++ z)).addNode
            (ofValue (retrieveEntry args k))) (some 'v') r z (k + 1) :=
          ⟨rfl, h.quote, h.comment, h.status,
            (afterAlnum_moved (s := s.tookArg args) (r := r ++ z) (append_toDigits_ne_nil _ _)).trans
              (append_toDigits_getLast _ _), h.tookArg_index⟩
        have hy := ih _ _ _ _ hlen hnul' hb hx hsup hset
        simpa [Scan.addNode, Scan.moved, Scan.tookArg, render, created, Token.isPlaceholder,
          Token.text] using hy
      · obtain ⟨rfl, ha, rfl⟩ := nextToken_eq_placeholder ht
        rw [ht] at hset hsup hnul' hlen
        obtain ⟨hfirst, hset⟩ := hset
        refine yields_step (not_halted h.rest (by decide) h.status) ?_
        rw [h.step_placeholder hz ha hfirst]
        have hd : (':' :: r).drop (Token.placeholder (r.takeWhile isNameChar)).text.length =
            r.dropWhile isNameChar := by
          rw [Token.text, List.length_cons, List.drop_succ_cons]
          nth_rewrite 2 [← List.takeWhile_append_dropWhile (p := isNameChar) (l := r)]
          exact List.drop_left
        rw [hd] at hset hsup hnul' hlen ⊢
        have hb : Between args
            (s.moved (':' :: r.takeWhile isNameChar) (r.dropWhile isNameChar ++ z)) _ _ _ _ :=
          h.next (List.cons_ne_nil ':' (r.takeWhile isNameChar))
        have hb' : Between args { ((s.tookArg args).moved (':' :: r.takeWhile isNameChar)
            (r.dropWhile isNameChar ++ z)).addNode
                (placeholderNode lib args k (r.takeWhile isNameChar)).1 with
              hasOutput := true } (':' :: r.takeWhile isNameChar).getLast?
                (r.dropWhile isNameChar) z (k + 1) :=
          ⟨rfl, h.quote, h.comment, h.status, hb.alnum, h.tookArg_index⟩
        have hy := ih _ _ _ _ hlen hnul' hb' hx hsup hset
        simpa [Scan.addNode, Scan.moved, Scan.tookArg, render, created, Token.isPlaceholder,
          Token.text] using hy
      · rw [ht] at hs; exact absurd hs (by decide)
      · rw [ht] at hs; exact absurd hs (by decide)
      · exact hsame _ ht (by simp) rfl

lemma drop_cStr (l : Text) : l.drop (cStr l).length = l.dropWhile (· ≠ '\x00') := by
  nth_rewrite 2 [← List.takeWhile_append_dropWhile (p := (· ≠ '\x00')) (l := l)]
  exact List.drop_left

lemma cStr_append_drop (l : Text) : cStr l ++ l.drop (cStr l).length = l := by
  rw [drop_cStr]
  exact List.takeWhile_append_dropWhile

lemma cStr_drop (l : Text) : cStr (l.drop (cStr l).length) = [] := by
  rw [drop_cStr, cStr]
  cases hd : l.dropWhile (· ≠ '\x00') with
  | nil => rfl
  | cons c r =>
    have hc := List.head?_dropWhile_not (fun c : Char => decide (c ≠ '\x00')) l
    rw [hd, List.head?_cons] at hc
    rw [List.takeWhile_cons, if_neg (by simpa using hc)]

lemma not_mem_cStr (l : Text) : '\x00' ∉ cStr l := fun h => by
  simpa using List.mem_takeWhile_imp h

/-- The scan of a text that the driver supports gives what its tokens give. -/
theorem parseQuery_tokens (inTransaction : Bool) (argsCopy : Option (List QoreValue)) (sql : Text)
    (nodeList : List OraBindNode) (hasOutput : Bool)
    (hsup : ∀ t ∈ tokens (cStr sql), t.supported = true)
    (hset : Settable lib args 0 (tokens (cStr sql))) :
    (tokens (cStr sql)).flatMap Token.text = cStr sql ∧
    parseQuery lib args inTransaction argsCopy sql nodeList hasOutput =
      { str := render nodeList.length (tokens (cStr sql)) ++ sql.drop (cStr sql).length
        nodeList := nodeList ++ created lib args 0 (tokens (cStr sql))
        hasOutput := hasOutput || (tokens (cStr sql)).any Token.isPlaceholder
        argsCopy := if args.isSome ∧ inTransaction = false then args else argsCopy
        xsink := []
        overrun := false } := by
  refine ⟨tokens_text _, ?_⟩
  have hb : Between args (start sql nodeList hasOutput) none (cStr sql) (sql.drop (cStr sql).length) 0 :=
    ⟨(cStr_append_drop sql).symm, rfl, rfl, rfl, rfl, fun _ => rfl⟩
  obtain ⟨u, hu, h1, h2, h3, h4, h5⟩ :=
    yields_tokens (cStr_drop sql) _ _ _ _ _ le_rfl (not_mem_cStr sql) hb rfl hsup hset
  have hr : FuelRun.run halted (step lib args) (sql.length + 1) (start sql nodeList hasOutput) = u :=
    ends_unique ⟨_, rfl, scan_halts lib args sql nodeList hasOutput⟩ hu
  have ho : (Status.scanning == Status.overrun) = false := rfl
  simp only [parseQuery, hr, h1, h2, h3, h4, h5, and_true, ho]
  rfl

theorem parseQuery_tokens_literal_and_comment :
    (parseQuery plainLib (some [.int 1, .string ⟨"integer".toList, 0⟩]) false none
      "f('%v:a', %v, :x) --%v".toList [] false).str = "f('%v:a', :qdodvrs___0, :x) --%v".toList := by
  rw [(parseQuery_tokens false none "f('%v:a', %v, :x) --%v".toList [] false (by decide) ⟨rfl,
    trivial⟩).2]
  decide

end OracleDriver.ParseQuery
