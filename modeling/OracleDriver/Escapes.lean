import OracleDriver.ScanBounds

/-! How the scan goes on after an escape. -/

namespace OracleDriver.ParseQuery

open OraBindNode MarkerTokens FuelRun

variable {lib : QoreLib} {args : Option (List QoreValue)} {s u w : Scan} {n : ℕ} {c x y : Char}
  {t r l : Text}
  {prev : Option Char}

-- the backslash is removed, and the pointer stands behind the character that it protects
def escaped (s : Scan) : Scan := { s with rest := s.rest.drop 1 }.advance 1

lemma escaped_eq (h : s.rest = x :: c :: t) : escaped s = s.moved [c] t :=
  Scan.advance_one (s := { s with rest := s.rest.drop 1 }) (by rw [h]; rfl)

-- the scan that goes on behind the protected character comes to the state that the escape leaves
def Local (lib : QoreLib) (args : Option (List QoreValue)) (s : Scan) : Prop :=
  ∃ n, FuelRun.run halted (step lib args) n (escaped s) = unescape lib s

-- nothing begins at the two characters behind the protected one, except for a quote at the second
-- of them
def Passed (c : Char) (t : Text) : Prop :=
  ∃ x y r, t = x :: y :: r ∧ x ≠ '\x00' ∧ y ≠ '\x00' ∧ nextToken (some c) x (y :: r) = .plain x ∧
    (nextToken (some x) y r = .plain y ∨ y = '\'' ∨ y = '"')

variable (lib args) in
lemma shorter_run (h : Shorter n s) (m : ℕ) : Shorter n (FuelRun.run halted (step lib args) m s) := by
  apply run_invariant (P := Shorter n) _ m s h
  intro s hs hshort
  have hlt := hshort.resolve_left (not_not.mpr (scanning_of_not_halted hs))
  obtain ⟨k, rfl⟩ : ∃ k, n = k + 1 := ⟨n - 1, by omega⟩
  rcases shorter_step lib args (n := s.rest.length) le_rfl (rest_pos hs) with hstop | hless
  · exact Or.inl hstop
  · exact Or.inr (hless.trans hlt)

-- a state with no more text left than the end of the run is that end
lemma run_eq_self (hu : u.status = .scanning) (hle : w.rest.length ≤ u.rest.length) {m : ℕ}
    (h : FuelRun.run halted (step lib args) m w = u) : w = u := by
  cases m with
  | zero => exact h
  | succ m =>
    by_cases hh : halted w = true
    · rw [run_halted hh] at h
      exact h
    · rw [Bool.not_eq_true] at hh
      have hrun : FuelRun.run halted (step lib args) m (step lib args w) = u := by
        rw [← h, FuelRun.run, if_neg (by rw [hh]; exact Bool.false_ne_true)]
      have hshort := shorter_run lib args (shorter_step lib args le_rfl (rest_pos hh)) m
      rw [hrun] at hshort
      rcases hshort with hstop | hless
      · exact absurd hu hstop
      · omega

variable (lib args) in
lemma shorter_ne (hu : u.status = .scanning) (h : Shorter u.rest.length w) (m : ℕ) :
    FuelRun.run halted (step lib args) m w ≠ u := by
  intro hrun
  have hshort := shorter_run lib args h m
  rw [hrun] at hshort
  rcases hshort with hstop | hless
  · exact hstop hu
  · exact Nat.lt_irrefl _ hless

lemma run_succ (hh : halted w = false) (m : ℕ) :
    FuelRun.run halted (step lib args) (m + 1) w = FuelRun.run halted (step lib args) m
      (step lib args w) := by
  rw [FuelRun.run, if_neg (by rw [hh]; exact Bool.false_ne_true)]

lemma replaceMarker_cases (s : Scan) (tmp : Text) : (s.replaceMarker tmp).status = .overrun ∨
    (s.replaceMarker tmp = { s with before := ((cStr tmp ++
      s.rest.drop 2).take tmp.length).reverse ++ s.before
                                    rest := (cStr tmp ++ s.rest.drop 2).drop tmp.length } ∧
      tmp.length ≤ (cStr tmp).length + (s.rest.length - 2)) := by
  rw [Scan.replaceMarker, Scan.advance]
  by_cases hk : tmp.length ≤ ({ s with rest := cStr tmp ++ s.rest.drop 2 } : Scan).rest.length
  · rw [if_pos hk]
    rw [List.length_append, List.length_drop] at hk
    exact Or.inr ⟨rfl, hk⟩
  · rw [if_neg hk]
    exact Or.inl rfl

section Splice

variable (hr : s.rest = x :: l) (hx : Ascii x)
include hr hx

variable (lib) in
-- the characters behind the pointer are counted by the bytes in front of it that begin none
lemma spliced_eq : spliced lib s =
    { s with rest := lib.chars.erase (x :: l) (lib.chars.extra s.before.reverse) } := by
  have herase := lib.chars.erase_append_lone (s := s.before.reverse) (t := l) hx
  rw [List.length_reverse] at herase
  rw [spliced, Scan.str, hr, herase, ← @List.length_reverse _ s.before, List.take_left,
    List.drop_left, List.reverse_reverse]

lemma spliced_zero (h : lib.chars.extra s.before.reverse = 0) :
    spliced lib s = { s with rest := l } := by
  rw [spliced_eq lib hr hx, h, lib.chars.erase_cons_zero hx]

lemma spliced_pos (h : lib.chars.extra s.before.reverse ≠ 0) :
    ∃ k, spliced lib s = { s with rest := x :: lib.chars.erase l k } := by
  obtain ⟨k, hk⟩ := Nat.exists_eq_succ_of_ne_zero h
  exact ⟨k, by rw [spliced_eq lib hr hx, hk, Nat.succ_eq_add_one, lib.chars.erase_cons_succ hx]⟩

end Splice

section Before

-- the text in front of the pointer stays
lemma before_advance (s : Scan) (k : ℕ) : s.before <:+ (s.advance k).before := by
  rw [Scan.advance]
  split
  · exact List.suffix_append _ _
  · exact List.suffix_rfl

lemma before_quoteStep (s : Scan) : s.before <:+ (quoteStep s).before := by
  rw [quoteStep_eq]
  exact before_advance (s.quoted (nextQuote s)) 1

lemma before_valueMarker (s : Scan) : s.before <:+ (valueMarker lib args s).before := by
  have marker (tmp : Text) : s.before <:+ ((s.tookArg args).replaceMarker tmp).before :=
    before_advance { s.tookArg args with rest := cStr tmp ++ s.rest.drop 2 } tmp.length
  rcases valueMarker_cases lib args s with ⟨tmp, -, hval⟩ | ⟨-, e, hval⟩ | ⟨-, -, hval⟩
  · rw [hval]
    exact marker tmp
  · rw [hval]
    exact List.suffix_rfl
  · rw [hval]
    exact marker _

lemma before_placeholder (s : Scan) : s.before <:+ (placeholder lib args s).before := by
  have hone := before_advance s 1
  rw [placeholder]
  dsimp only
  split
  · split
    · exact hone.trans (before_advance _ _)
    · exact hone.trans (before_advance _ _)
  · exact hone

lemma before_unescape (he : AtEscape s) : s.before <:+ (unescape lib s).before := by
  obtain ⟨l, hl⟩ := cons_of_peek he.2.1 (by decide)
  have hadv : s.before <:+ ((spliced lib s).advance 2).before := by
    rw [spliced_eq lib hl (by decide)]
    exact before_advance
      { s with rest := lib.chars.erase ('\\' :: l) (lib.chars.extra s.before.reverse) } 2
  rw [unescape]
  split
  · exact hadv
  · exact hadv.trans (before_quoteStep _)

lemma before_codeStep (hc : AtCode s) : s.before <:+ (codeStep lib args s).before := by
  rw [codeStep]
  split_ifs with h1 h2 h3 h4 h5
  · exact before_advance (s.commented .line) 2
  · exact before_advance (s.commented .block) 2
  · exact before_valueMarker s
  · exact before_placeholder s
  · exact before_unescape ⟨hc, h5⟩
  · exact before_quoteStep s

lemma before_step (s : Scan) : s.before <:+ (step lib args s).before := by
  cases hq : s.quote with
  | some q =>
    rw [step_quoted hq]
    exact before_quoteStep s
  | none =>
    cases hm : s.comment with
    | line =>
      rw [step_line_eq hq hm, lineStep]
      split
      · exact before_advance (s.commented .none) 1
      · exact before_advance s 1
    | block =>
      rw [step_block_eq hq hm, blockStep]
      split
      · exact before_advance (s.commented .none) 2
      · exact before_advance s 1
    | none =>
      rw [step_code_eq hq hm]
      exact before_codeStep ⟨hq, hm⟩

lemma before_run (s : Scan) (n : ℕ) : s.before <:+ (FuelRun.run halted (step lib args) n s).before := by
  apply run_invariant (P := fun w => s.before <:+ w.before) _ n s List.suffix_rfl
  exact fun w _ hw => hw.trans (before_step w)

end Before

section Code

variable (hr : s.rest = x :: l)
include hr

lemma step_plain (hc : AtCode s) (ha : s.afterAlnum = MarkerTokens.afterAlnum prev)
    (ht : nextToken prev x l = .plain x) :
    step lib args s = s.moved [x] l := by
  have hp : peek s.rest = x := by rw [hr]; rfl
  have hd : peek s.rest.tail = peek l := by rw [hr]; rfl
  rw [nextToken] at ht
  split_ifs at ht with h1 h2 h3 h4 h5 h6 h7 h8
  rw [step_code_eq hc.1 hc.2, codeStep]
  simp only [hp, hd, h3, h4, h8, if_false, ha, h5]
  by_cases hcolon : x = ':'
  · have hna : (peek l).isAlpha = false := by
      rw [not_and, Bool.not_eq_true] at h7
      exact h7 hcolon
    rw [if_pos hcolon, placeholder, Scan.advance_one hr]
    simp [hna]
  · rw [if_neg hcolon, quoteStep_move hr ⟨h1, h2⟩]

lemma shorter_replaceMarker_two (hl : l ≠ []) (tmp : Text) : Shorter l.length (s.replaceMarker tmp) := by
  have hc : (cStr tmp).length ≤ tmp.length := (List.takeWhile_prefix _).length_le
  have hpos := List.length_pos_iff.mpr hl
  rcases replaceMarker_cases s tmp with h | ⟨h, -⟩
  · exact Or.inl (by rw [h]; exact nofun)
  · right
    rw [h]
    simp only [List.length_drop, List.length_append, hr, List.length_cons]
    omega

lemma shorter_valueMarker_two : Shorter l.length (valueMarker lib args s) := by
  have ne_nil : ∀ d, d ≠ '\x00' → peek s.rest.tail = d → l ≠ [] := by
    rintro d hd hp rfl
    rw [hr] at hp
    exact hd hp.symm
  rcases valueMarker_cases lib args s with ⟨tmp, htmp, hval⟩ | ⟨-, e, hval⟩ | ⟨-, hv, hval⟩
  · rw [hval]
    apply shorter_replaceMarker_two (s := s.tookArg args) hr
    rw [inserted] at htmp
    split_ifs at htmp with hd hstr
    · exact ne_nil 'd' (by decide) hd
    · exact ne_nil 's' (by decide) hstr
  · rw [hval]
    exact shorter_raise e
  · rw [hval]
    apply shorter_addNode
    exact shorter_replaceMarker_two (s := s.tookArg args) hr (ne_nil 'v' (by decide) hv) _

lemma shorter_placeholder_two (ha : (peek l).isAlpha = true) :
    Shorter l.length (placeholder lib args s) := by
  have hadv : s.advance 1 = s.moved [x] l := Scan.advance_one hr
  obtain ⟨d, l, rfl⟩ : ∃ d m, l = d :: m := by
    cases l with
    | nil => exact absurd ha (by decide)
    | cons d m => exact ⟨d, m, rfl⟩
  have hd : isNameChar d = true := by
    have halpha : d.isAlpha = true := ha
    simp [isNameChar, Char.isAlphanum, halpha]
  have hname : (s.moved [x] (d :: l)).advance ((d :: l).takeWhile isNameChar).length =
      (s.moved [x] (d :: l)).moved ((d :: l).takeWhile isNameChar) ((d :: l).dropWhile isNameChar) :=
    Scan.advance_eq (s := s.moved [x] (d :: l)) List.takeWhile_append_dropWhile.symm rfl
  have hdrop : ((d :: l).dropWhile isNameChar).length < (d :: l).length := by
    rw [List.dropWhile_cons_of_pos hd, List.length_cons]
    exact Nat.lt_succ_of_le (List.dropWhile_sublist _).length_le
  rw [placeholder, hadv]
  simp only [Scan.moved_rest, ha, if_true, hname]
  split
  · exact shorter_raise _
  · exact Or.inr hdrop

omit hr in
variable (lib) in
lemma unescape_rest (hs : s.status = .scanning) : (unescape lib s).status = .overrun ∨
    (unescape lib s).rest.length + 3 = (spliced lib s).rest.length := by
  rw [or_iff_not_imp_left]
  intro hin
  have hle := not_lt.mp (mt (status_unescape lib hs).mpr hin)
  have hmoved : (spliced lib s).advance 2 =
      (spliced lib s).moved ((spliced lib s).rest.take 2) ((spliced lib s).rest.drop 2) :=
    Scan.advance_eq (List.take_append_drop 2 _).symm (by rw [List.length_take]; omega)
  obtain ⟨d, t, hd⟩ := List.exists_cons_of_length_pos (l := (spliced lib s).rest.drop 2)
    (by rw [List.length_drop]; omega)
  have hlen : (d :: t).length = (spliced lib s).rest.length - 2 := by rw [← hd, List.length_drop]
  have hstat : ¬(spliced lib s).status = .overrun := by
    intro h
    have hscan : Status.scanning = .overrun := hs.symm.trans h
    cases hscan
  rw [unescape, hmoved, Scan.moved_status, if_neg hstat, quoteStep_eq,
    Scan.advance_one (s := ((spliced lib s).moved _ _).quoted _) hd]
  simp only [List.length_cons, Scan.moved_rest] at hlen ⊢
  omega

variable (lib) in
lemma shorter_unescape_two (hs : s.status = .scanning) (hl : l ≠ []) :
    Shorter (l.length - 1) (unescape lib s) := by
  have hpos := List.length_pos_iff.mpr hl
  have hle := spliced_length lib s
  rw [hr, List.length_cons] at hle
  rcases unescape_rest lib hs with hover | hrest
  · exact Or.inl (by rw [hover]; exact nofun)
  · exact Or.inr (by omega)

variable (lib args) in
-- what a turn does where something begins that is no quote
lemma step_begins (hc : AtCode s) (ha : s.afterAlnum = MarkerTokens.afterAlnum prev)
    (hq : x ≠ '\'' ∧ x ≠ '"')
    (ht : nextToken prev x l ≠ .plain x) :
    (∃ m d k, m ≠ .none ∧ l = d :: k ∧ step lib args s = (s.commented m).moved [x, d] k) ∨
    (x = '%' ∧ step lib args s = valueMarker lib args s) ∨
    ((peek l).isAlpha = true ∧ step lib args s = placeholder lib args s) ∨
    (l ≠ [] ∧ step lib args s = unescape lib s) := by
  have hp : peek s.rest = x := by rw [hr]; rfl
  have hd : peek s.rest.tail = peek l := by rw [hr]; rfl
  rw [nextToken, if_neg hq.1, if_neg hq.2] at ht
  rw [step_code_eq hc.1 hc.2, codeStep]
  simp only [hp, hd, ha]
  by_cases h3 : x = '-' ∧ peek l = '-'
  · rw [if_pos h3]
    obtain ⟨k, rfl⟩ := cons_of_peek h3.2 (by decide)
    exact Or.inl ⟨.line, '-', k, by decide, rfl, Scan.advance_two (s := s.commented .line) hr⟩
  rw [if_neg h3] at ht ⊢
  by_cases h4 : x = '/' ∧ peek l = '*'
  · rw [if_pos h4]
    obtain ⟨k, rfl⟩ := cons_of_peek h4.2 (by decide)
    exact Or.inl ⟨.block, '*', k, by decide, rfl, Scan.advance_two (s := s.commented .block) hr⟩
  rw [if_neg h4] at ht ⊢
  by_cases h5 : x = '%' ∧ MarkerTokens.afterAlnum prev = false
  · rw [if_pos h5]
    exact Or.inr (Or.inl ⟨h5.1, rfl⟩)
  rw [if_neg h5] at ht ⊢
  by_cases h6 : x = ':' ∧ (peek l).isAlpha = true
  · rw [if_pos h6.1]
    exact Or.inr (Or.inr (Or.inl ⟨h6.2, rfl⟩))
  rw [if_neg h6] at ht
  by_cases h7 : x = '\\' ∧ (peek l = ':' ∨ peek l = '%')
  · rw [if_neg (by rw [h7.1]; decide), if_pos h7]
    refine Or.inr (Or.inr (Or.inr ⟨?_, rfl⟩))
    rintro rfl
    rcases h7.2 with h | h <;> exact absurd h (by decide)
  · rw [if_neg h7] at ht
    exact absurd rfl ht

variable (lib args) in
lemma shorter_step_two (hc : AtCode s) (hs : s.status = .scanning)
    (ha : s.afterAlnum = MarkerTokens.afterAlnum prev)
    (hq : x ≠ '\'' ∧ x ≠ '"') (ht : nextToken prev x l ≠ .plain x) :
    Shorter l.length (step lib args s) := by
  rcases step_begins lib args hr hc ha hq ht with
    ⟨m, d, k, -, rfl, h⟩ | ⟨-, h⟩ | ⟨halpha, h⟩ | ⟨hl, h⟩
  · rw [h]
    exact Or.inr (Nat.lt_succ_self _)
  · rw [h]
    exact shorter_valueMarker_two hr
  · rw [h]
    exact shorter_placeholder_two hr halpha
  · rw [h]
    exact (shorter_unescape_two lib hr hs hl).imp_right fun hlt => by omega

end Code

lemma nodeList_replaceMarker (s : Scan) (tmp : Text) : (s.replaceMarker tmp).nodeList = s.nodeList := by
  rcases replaceMarker_cases s tmp with h | ⟨h, -⟩
  · rw [Scan.replaceMarker, Scan.advance]
    split <;> rfl
  · rw [h]

variable (lib args) in
lemma length_placeholder (hr : s.rest = x :: l) (ha : (peek l).isAlpha = true) :
    (placeholder lib args s).nodeList.length = s.nodeList.length + 1 := by
  have hadv : s.advance 1 = s.moved [x] l := Scan.advance_one hr
  have hname : (s.moved [x] l).advance (l.takeWhile isNameChar).length =
      (s.moved [x] l).moved (l.takeWhile isNameChar) (l.dropWhile isNameChar) :=
    Scan.advance_eq (s := s.moved [x] l) List.takeWhile_append_dropWhile.symm rfl
  rw [placeholder, hadv]
  simp only [Scan.moved_rest, ha, if_true, hname]
  split <;> simp [Scan.raise, Scan.addNode, Scan.tookArg]

-- with the text behind the marker still to scan, the whole replacement has been passed
lemma replaceMarker_whole {tmp : Text} (h : s.replaceMarker tmp = u) (hstat : u.status = .scanning)
    (hlen : u.rest.length = s.rest.length - 2) : u.before = tmp.reverse ++ s.before := by
  rcases replaceMarker_cases s tmp with hover | ⟨heq, hle⟩
  · rw [h, hstat] at hover
    cases hover
  · have hrest : u.rest = (cStr tmp ++ s.rest.drop 2).drop tmp.length := h ▸ congrArg Scan.rest heq
    have hbefore : u.before = ((cStr tmp ++ s.rest.drop 2).take tmp.length).reverse ++ s.before :=
      h ▸ congrArg Scan.before heq
    have hwhole : cStr tmp = tmp := by
      apply (List.takeWhile_prefix _).eq_of_length
      rw [hrest, List.length_drop, List.length_append, List.length_drop] at hlen
      have hcut : (cStr tmp).length ≤ tmp.length := (List.takeWhile_prefix _).length_le
      have hgoal : (cStr tmp).length = tmp.length := by omega
      exact hgoal
    rw [hbefore, hwhole, List.take_left]

-- a value marker leaves a trace, unless it is replaced with itself
lemma valueMarker_ne (hnum : lib.concatNumeric .nothing ≠ "%d".toList)
    (hstr : lib.concatString .nothing ≠ .ok "%s".toList) (hr : s.rest = '%' :: y :: r)
    (hnodes : u.nodeList = s.nodeList) (hindex : u.index = s.index) (hstat : u.status = .scanning)
    (hbefore : u.before = y :: '%' :: s.before) (hrest : u.rest = r) : valueMarker lib args s ≠ u := by
  rcases valueMarker_cases lib args s with ⟨tmp, htmp, hval⟩ | ⟨-, e, hval⟩ | ⟨-, -, hval⟩
  · intro he
    rw [hval] at he
    cases args with
    | some a =>
      rcases replaceMarker_cases (s.tookArg (some a)) tmp with h | ⟨h, -⟩
      · rw [he, hstat] at h
        cases h
      · have hi : u.index = s.index + 1 := by
          rw [← he, h]
          rfl
        omega
    | none =>
      have hlen : u.rest.length = (s.tookArg none).rest.length - 2 := by
        rw [hrest, Scan.tookArg, hr]
        rfl
      have hb : tmp.reverse ++ s.before = [y, '%'] ++ s.before :=
        (replaceMarker_whole he hstat hlen).symm.trans hbefore
      have htext : tmp = ['%', y] := by
        rw [← List.reverse_reverse tmp, List.append_cancel_right hb]
        rfl
      rw [inserted, hr] at htmp
      split_ifs at htmp with hd hs'
      · have hy : y = 'd' := hd
        rw [htext, hy] at htmp
        exact hnum (Option.some.inj htmp)
      · have hy : y = 's' := hs'
        rw [htext, hy] at htmp
        cases hc : lib.concatString (Scan.nextArg none s) with
        | error e => simp [hc, Except.toOption] at htmp
        | ok tmp' =>
          rw [hc] at htmp
          exact hstr (hc.trans (congrArg Except.ok (Option.some.inj htmp)))
  · intro he
    rw [← he, hval] at hstat
    cases hstat
  · intro he
    have hlen : u.nodeList.length = s.nodeList.length + 1 := by
      rw [← he, hval]
      simp [Scan.addNode, nodeList_replaceMarker, Scan.tookArg]
    rw [hnodes] at hlen
    omega

lemma moved_afterAlnum (s : Scan) (c : Char) (l : Text) :
    (s.moved [c] l).afterAlnum = MarkerTokens.afterAlnum (some c) := rfl

-- the state that an escape leaves when two characters follow it
lemma unescape_two (hc : AtCode s) (hs : s.status = .scanning)
    (hsp : spliced lib s = { s with rest := c :: x :: y :: r }) :
    unescape lib s =
      ((s.moved [c, x, y] r).quoted (if y = '\'' ∨ y = '"' then some y else none)) := by
  have hrest : (s.moved [c, x] (y :: r)).rest = y :: r := rfl
  have hadv : (spliced lib s).advance 2 = s.moved [c, x] (y :: r) := by
    rw [hsp]
    exact Scan.advance_two (s := { s with rest := c :: x :: y :: r }) rfl
  have hlive : (s.moved [c, x] (y :: r)).status ≠ .overrun := by
    rw [Scan.moved_status, hs]
    intro h
    cases h
  rw [unescape, hadv, if_neg hlive]
  by_cases hy : y = '\'' ∨ y = '"'
  · rw [if_pos hy, quoteStep_open hrest hc.1 hy, Scan.moved_moved]
    rfl
  · rw [if_neg hy, quoteStep_move hrest (not_or.mp hy), Scan.moved_moved]
    have hq : s.quote = none := hc.1
    simp [Scan.quoted, Scan.moved, hq]

-- a backslash that stays behind the pointer is not passed by the scan that goes on without it
lemma extra_of_local (hr : s.rest = '\\' :: c :: t) (hne : c ≠ '\\') (h : Local lib args s) :
    lib.chars.extra s.before.reverse = 0 := by
  by_contra hextra
  obtain ⟨n, hn⟩ := h
  obtain ⟨k, hk⟩ := spliced_pos hr (by decide) hextra
  have hbehind : (escaped s).before <:+ (FuelRun.run halted (step lib args) n (escaped s)).before :=
    before_run (escaped s) n
  rw [hn, escaped_eq hr] at hbehind
  have hstays : '\\' :: s.before <:+ (unescape lib s).before ∨ (unescape lib s).before = s.before := by
    rcases hl : lib.chars.erase (c :: t) k with _ | ⟨d, l⟩
    · right
      rw [hl] at hk
      have hadv : ((spliced lib s).advance 2) = { s with rest := ['\\'], status := .overrun } := by
        rw [hk]
        rfl
      rw [unescape, hadv]
      rfl
    · left
      rw [hl] at hk
      have hadv : (spliced lib s).advance 2 = s.moved ['\\', d] l := by
        rw [hk]
        exact Scan.advance_two (s := { s with rest := '\\' :: d :: l }) rfl
      have hsuffix : '\\' :: s.before <:+ (s.moved ['\\', d] l).before :=
        List.suffix_cons d ('\\' :: s.before)
      rw [unescape, hadv]
      split
      · exact hsuffix
      · exact hsuffix.trans (before_quoteStep _)
  have hcons : c :: s.before <:+ (unescape lib s).before := hbehind
  rcases hstays with hstays | hsame
  · have heq := (List.suffix_of_suffix_length_le hcons hstays le_rfl).eq_of_length rfl
    exact hne (List.cons.inj heq).1
  · have hlen := hcons.length_le
    rw [hsame, List.length_cons] at hlen
    omega

lemma run_turn {m : ℕ} (h : FuelRun.run halted (step lib args) m w = u)
    (hlt : u.rest.length < w.rest.length) :
    halted w = false ∧ ∃ k, FuelRun.run halted (step lib args) k (step lib args w) = u := by
  have hh : halted w = false := by
    by_contra hh
    rw [Bool.not_eq_false] at hh
    rw [run_halted hh] at h
    rw [h] at hlt
    exact Nat.lt_irrefl _ hlt
  cases m with
  | zero =>
    rw [FuelRun.run] at h
    rw [h] at hlt
    exact absurd hlt (Nat.lt_irrefl _)
  | succ m => exact ⟨hh, m, by rw [← run_succ hh, h]⟩

lemma peek_ne_nul {d : Char} (h : halted w = false) (hr : w.rest = d :: l) : d ≠ '\x00' := by
  rintro rfl
  simp [halted, hr, peek] at h

lemma not_local_end (hs : s.status = .scanning) (hr : s.rest = ['\\', c, x])
    (h0 : lib.chars.extra s.before.reverse = 0) : ¬Local lib args s := by
  rintro ⟨n, hn⟩
  have hover : (unescape lib s).status = .overrun := by
    rw [status_unescape lib hs, spliced_zero hr (by decide) h0]
    exact Nat.lt_succ_self 2
  rw [escaped_eq hr] at hn
  have stays : (FuelRun.run halted (step lib args) n (s.moved [c] [x])).status ≠ .overrun := by
    cases n with
    | zero =>
      rw [FuelRun.run, Scan.moved_status, hs]
      rintro ⟨⟩
    | succ n =>
      by_cases hh : halted (s.moved [c] [x]) = true
      · rw [run_halted hh, Scan.moved_status, hs]
        rintro ⟨⟩
      · rw [Bool.not_eq_true] at hh
        have hin : StaysInside lib args (s.moved [c] [x]) := by
          constructor
          · rintro ⟨-, -, hp | hp⟩ <;> exact absurd hp (by simp [peek])
          · rintro - tmp htmp
            simp [inserted, peek] at htmp
        have hstop : halted (step lib args (s.moved [c] [x])) = true := by
          rcases shorter_step lib args (s := s.moved [c] [x]) le_rfl (rest_pos hh) with h | h
          · exact halted_of_stopped h
          · have hnil := List.eq_nil_of_length_eq_zero (Nat.lt_one_iff.mp h)
            simp [halted, hnil, peek]
        rw [run_succ hh, run_halted hstop, ne_eq, status_step hh, not_not]
        exact hin
  rw [hn] at stays
  exact stays hover

section Second

variable (hc : AtCode s) (hs : s.status = .scanning)
  (hu : (s.moved [c, x, y] r).quoted (if y = '\'' ∨ y = '"' then some y else none) = u)
  {m : ℕ} (hm : FuelRun.run halted (step lib args) m (step lib args (s.moved [c] (x :: y :: r))) = u)
include hc hs hu hm

-- a quote right behind the protected character would stay open or be closed
lemma not_quote_of_run : x ≠ '\'' ∧ x ≠ '"' := by
  have hcode : AtCode (s.moved [c] (x :: y :: r)) := hc
  have hstat : u.status = .scanning := by rw [← hu]; exact hs
  have hrest : u.rest = r := by rw [← hu]; rfl
  have hquote : u.quote = if y = '\'' ∨ y = '"' then some y else none := by rw [← hu]; rfl
  rw [← not_or]
  intro hxq
  have hopen : step lib args (s.moved [c] (x :: y :: r)) =
      ((s.moved [c, x] (y :: r)).quoted (some x)) := by
    rw [step_code_eq hcode.1 hcode.2, codeStep_quote_char rfl hxq, quoteStep_open rfl hcode.1 hxq,
      Scan.moved_moved]
    rfl
  rw [hopen] at hm
  obtain ⟨-, k, hk⟩ := run_turn hm (by
    rw [hrest, Scan.quoted_rest, Scan.moved_rest, List.length_cons]
    omega)
  rw [step_quoted rfl] at hk
  by_cases hyx : y = x
  · rw [hyx, quoteStep_close (s := (s.moved [c, x] (x :: r)).quoted (some x)) rfl rfl hxq] at hk
    have he := run_eq_self hstat (by rw [hrest]; exact le_rfl) hk
    rw [← he, if_pos (by rw [hyx]; exact hxq)] at hquote
    cases hquote
  · rw [quoteStep_inside (s := (s.moved [c, x] (y :: r)).quoted (some x)) rfl rfl hyx] at hk
    have he := run_eq_self hstat (by rw [hrest]; exact le_rfl) hk
    rw [← he] at hquote
    split_ifs at hquote
    · exact hyx (Option.some.inj hquote).symm
    · cases hquote

lemma plain_of_run (hnum : lib.concatNumeric .nothing ≠ "%d".toList)
    (hstr : lib.concatString .nothing ≠ .ok "%s".toList) : nextToken (some c) x (y :: r) = .plain x := by
  have hcode : AtCode (s.moved [c] (x :: y :: r)) := hc
  have hxq := not_quote_of_run hc hs hu hm
  have hstat : u.status = .scanning := by rw [← hu]; exact hs
  have hrest : u.rest = r := by rw [← hu]; rfl
  have hnodes : u.nodeList = (s.moved [c] (x :: y :: r)).nodeList := by rw [← hu]; rfl
  by_contra hne
  have hshort := shorter_step_two lib args (s := s.moved [c] (x :: y :: r)) rfl hcode hs rfl hxq hne
  have hle : (step lib args (s.moved [c] (x :: y :: r))).rest.length ≤ u.rest.length := by
    rcases hshort with hstop | hless
    · rw [run_halted (halted_of_stopped hstop)] at hm
      rw [hm]
    · rw [List.length_cons] at hless
      rw [hrest]
      omega
  have he := run_eq_self hstat hle hm
  rcases step_begins lib args (s := s.moved [c] (x :: y :: r)) rfl hcode rfl hxq hne with
    ⟨b, d, k, hb, -, hstep⟩ | ⟨rfl, hstep⟩ | ⟨halpha, hstep⟩ | ⟨hl, hstep⟩
  · rw [hstep] at he
    have hcom : u.comment = .none := by rw [← hu]; exact hc.2
    rw [← he] at hcom
    exact hb hcom
  · rw [hstep] at he
    exact valueMarker_ne hnum hstr rfl hnodes (by rw [← hu]; rfl) hstat (by rw [← hu]; rfl) hrest he
  · have hlen := length_placeholder lib args (s := s.moved [c] (x :: y :: r)) rfl halpha
    rw [← hstep, he, hnodes] at hlen
    omega
  · have hshort := shorter_unescape_two lib (s := s.moved [c] (x :: y :: r)) rfl hs hl
    rw [← hstep, he, List.length_cons, Nat.add_sub_cancel, ← hrest] at hshort
    exact shorter_ne lib args hstat hshort 0 rfl

end Second

variable (lib) in
lemma passed_of_local (hnum : lib.concatNumeric .nothing ≠ "%d".toList)
    (hstr : lib.concatString .nothing ≠ .ok "%s".toList) (hc : AtCode s) (hs : s.status = .scanning)
    (hr : s.rest = '\\' :: c :: t) (h0 : lib.chars.extra s.before.reverse = 0)
    (h : Local lib args s) : Passed c t := by
  rcases t with _ | ⟨x, _ | ⟨y, r⟩⟩
  · obtain ⟨n, hn⟩ := h
    have hover : (unescape lib s).status = .overrun := by
      rw [status_unescape lib hs, spliced_zero hr (by decide) h0]
      exact Nat.lt_succ_of_lt (Nat.lt_succ_self 1)
    rw [escaped_eq hr, run_halted (by simp [halted, peek])] at hn
    rw [← hn, Scan.moved_status, hs] at hover
    cases hover
  · exact absurd h (not_local_end hs hr h0)
  · obtain ⟨n, hn⟩ := h
    rw [escaped_eq hr, unescape_two hc hs (spliced_zero hr (by decide) h0)] at hn
    generalize hu : (s.moved [c, x, y] r).quoted (if y = '\'' ∨ y = '"' then some y else none) = u at hn
    have hstat : u.status = .scanning := by rw [← hu]; exact hs
    have hrest : u.rest = r := by rw [← hu]; rfl
    obtain ⟨hlive, m, hm⟩ := run_turn hn (by
      rw [hrest, Scan.moved_rest, List.length_cons, List.length_cons]
      omega)
    have hplain := plain_of_run hc hs hu hm hnum hstr
    have h1 : step lib args (s.moved [c] (x :: y :: r)) = s.moved [c, x] (y :: r) := by
      rw [step_plain (s := s.moved [c] (x :: y :: r)) rfl hc rfl hplain, Scan.moved_moved]
      rfl
    rw [h1] at hm
    obtain ⟨hlive', k, hk⟩ := run_turn hm (by
      rw [hrest, Scan.moved_rest, List.length_cons]
      omega)
    refine ⟨x, y, r, rfl, peek_ne_nul hlive rfl, peek_ne_nul hlive' rfl, hplain, ?_⟩
    by_contra hnot
    rw [not_or, not_or] at hnot
    have hshort := shorter_step_two lib args (s := s.moved [c, x] (y :: r)) rfl hc hs
      (moved_afterAlnum (s.moved [c] (x :: y :: r)) x (y :: r)) hnot.2 hnot.1
    exact shorter_ne _ _ hstat (by rw [hrest]; exact hshort) k hk

lemma local_of_passed (hc : AtCode s) (hs : s.status = .scanning) (hr : s.rest = '\\' :: c :: t)
    (h0 : lib.chars.extra s.before.reverse = 0) (h : Passed c t) : Local lib args s := by
  obtain ⟨x, y, r, rfl, hx, hy, hplain, hnext⟩ := h
  have h1 : step lib args (s.moved [c] (x :: y :: r)) = s.moved [c, x] (y :: r) := by
    rw [step_plain (s := s.moved [c] (x :: y :: r)) rfl hc rfl hplain, Scan.moved_moved]
    rfl
  have hcode : AtCode (s.moved [c, x] (y :: r)) := hc
  refine ⟨1 + 1, ?_⟩
  rw [escaped_eq hr, run_succ (not_halted (s := s.moved [c] (x :: y :: r)) rfl hx hs), h1,
    run_succ (not_halted (s := s.moved [c, x] (y :: r)) rfl hy hs), FuelRun.run,
    unescape_two hc hs (spliced_zero hr (by decide) h0)]
  by_cases hq : y = '\'' ∨ y = '"'
  · rw [if_pos hq, step_code_eq hcode.1 hcode.2, codeStep_quote_char rfl hq,
      quoteStep_open rfl hcode.1 hq, Scan.moved_moved]
    rfl
  · have hyplain := hnext.resolve_right hq
    rw [if_neg hq, step_plain (s := s.moved [c, x] (y :: r)) rfl hc rfl hyplain, Scan.moved_moved]
    have hq' : s.quote = none := hc.1
    simp [Scan.quoted, Scan.moved, hq']

section Escapes

variable (lib : QoreLib) (args : Option (List QoreValue)) (str : Text)
  (nodeList : List OraBindNode) (hasOutput : Bool)

-- each byte in front of the escape is a character of its own
structure PassedAt (s : Scan) : Prop where
  single : lib.chars.extra s.before.reverse = 0
  passed : Passed (peek s.rest.tail) (s.rest.drop 2)

-- at every escape that the scan meets
def EveryEscape (P : Scan → Prop) : Prop :=
  ∀ n, halted (turns lib args str nodeList hasOutput n) = false →
    AtEscape (turns lib args str nodeList hasOutput n) →
    P (turns lib args str nodeList hasOutput n)

def EscapesLocal : Prop := EveryEscape lib args str nodeList hasOutput (Local lib args)

def EscapesPassed : Prop := EveryEscape lib args str nodeList hasOutput (PassedAt lib)

lemma escape_rest (h : AtEscape s) : ∃ c t, s.rest = '\\' :: c :: t ∧ c ≠ '\\' := by
  obtain ⟨-, hb, hd⟩ := h
  obtain ⟨l, hl⟩ := cons_of_peek hb (by decide)
  rw [hl, List.tail_cons] at hd
  rcases hd with hd | hd
  · obtain ⟨t, rfl⟩ := cons_of_peek hd (by decide)
    exact ⟨_, t, hl, by decide⟩
  · obtain ⟨t, rfl⟩ := cons_of_peek hd (by decide)
    exact ⟨_, t, hl, by decide⟩

/-- The scan goes on as usual behind every escape if and only if only characters of one byte stand in
front of each, and nothing begins at the two bytes behind it. -/
theorem escapesLocal_iff (hnum : lib.concatNumeric .nothing ≠ "%d".toList)
    (hstr : lib.concatString .nothing ≠ .ok "%s".toList) :
    EscapesLocal lib args str nodeList hasOutput ↔ EscapesPassed lib args str nodeList hasOutput := by
  constructor
  · intro h n hn he
    obtain ⟨c, t, hr, hne⟩ := escape_rest he
    have hlocal := h n hn he
    have h0 := extra_of_local hr hne hlocal
    have hpassed := passed_of_local lib hnum hstr he.1 (scanning_of_not_halted hn) hr h0 hlocal
    exact ⟨h0, by rw [hr]; exact hpassed⟩
  · intro h n hn he
    obtain ⟨c, t, hr, -⟩ := escape_rest he
    obtain ⟨h0, hpassed⟩ := h n hn he
    rw [hr] at hpassed
    exact local_of_passed he.1 (scanning_of_not_halted hn) hr h0 hpassed

theorem escapesLocal_iff_plain : EscapesLocal plainLib none "a\\:b".toList [] false ↔
    EscapesPassed plainLib none "a\\:b".toList [] false :=
  escapesLocal_iff plainLib none "a\\:b".toList [] false (by decide) (by decide)

/-- A marker right behind an escape is not seen. -/
theorem not_escapesLocal_marker : ¬EscapesLocal plainLib none "\\:%v".toList [] false := by
  intro h
  have hpassed : Passed ':' "%v".toList :=
    passed_of_local plainLib (by decide) (by decide) ⟨rfl, rfl⟩ rfl rfl rfl
      (h 0 rfl ⟨⟨rfl, rfl⟩, rfl, Or.inl rfl⟩)
  obtain ⟨x, y, r, ht, -, -, hx, -⟩ := hpassed
  obtain ⟨rfl, hyr⟩ := List.cons.inj ht
  obtain ⟨rfl, rfl⟩ := List.cons.inj hyr
  cases hx

end Escapes

end OracleDriver.ParseQuery
