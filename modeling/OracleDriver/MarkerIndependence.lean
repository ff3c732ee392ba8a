import OracleDriver.Escapes

/-! Two scans of one text with different arguments. -/

namespace OracleDriver.ParseQuery

open OraBindNode FuelRun

-- the scans stand at the same place of the text; `p` is what makes the bytes in front of it split
-- alike
structure SamePlace (E : CharSplit Char Ascii) (p : Prop) (s t : Scan) : Prop where
  rest : s.rest = t.rest
  index : s.index = t.index
  quote : s.quote = t.quote
  comment : s.comment = t.comment
  status : s.status = t.status
  extra : p → ∀ u, E.extra (s.before.reverse ++ u) = E.extra (t.before.reverse ++ u)

-- a value marker at that place is one in both
structure Alike (E : CharSplit Char Ascii) (p : Prop) (s t : Scan) : Prop extends SamePlace E p s t where
  alnum : s.status = .scanning → peek s.rest = '%' → s.afterAlnum = t.afterAlnum

def AtPlaceholder (s : Scan) : Prop := AtCode s ∧ peek s.rest = ':' ∧ (peek s.rest.tail).isAlpha = true

def AtInserted (s : Scan) : Prop := AtMarker s ∧ (peek s.rest.tail = 'd' ∨ peek s.rest.tail = 's')

def setError (lib : QoreLib) (args : Option (List QoreValue)) (s : Scan) : Option Exn :=
  (describePlaceholder lib (s.nextArg args) (ofPlaceholder (s.rest.tail.takeWhile isNameChar)
    (-1) none .nothing)).2

-- the functions of the library append texts and do not fail
structure AppendsText (lib : QoreLib) : Prop where
  numeric : ∀ v, '\x00' ∉ lib.concatNumeric v
  string : ∀ v, ∃ t, lib.concatString v = .ok t ∧ '\x00' ∉ t

variable {lib lib' : QoreLib} {args args' : Option (List QoreValue)} {s t : Scan} {k : ℕ}
  {E : CharSplit Char Ascii} {p q : Prop}

lemma Alike.mono (h : Alike E p s t) (hq : q → p) : Alike E q s t where
  rest := h.rest
  index := h.index
  quote := h.quote
  comment := h.comment
  status := h.status
  extra hp := h.extra (hq hp)
  alnum := h.alnum

-- what both scans pass is split alike behind what they have passed
lemma SamePlace.extra_append (h : SamePlace E p s t) (hp : p) (l u : Text) :
    E.extra ((l.reverse ++ s.before).reverse ++ u) = E.extra ((l.reverse ++ t.before).reverse ++ u) := by
  rw [List.reverse_append, List.reverse_append, List.reverse_reverse, List.append_assoc,
    List.append_assoc]
  exact h.extra hp (l ++ u)

lemma SamePlace.advance (h : SamePlace E p s t) (hk : 0 < k) :
    Alike E p (s.advance k) (t.advance k) := by
  by_cases hle : k ≤ s.rest.length
  · have hle' : k ≤ t.rest.length := h.rest ▸ hle
    have hs : s.advance k = s.moved (s.rest.take k) (s.rest.drop k) :=
      Scan.advance_eq (List.take_append_drop k s.rest).symm (by rw [List.length_take]; omega)
    have ht : t.advance k = t.moved (s.rest.take k) (s.rest.drop k) :=
      Scan.advance_eq (by rw [List.take_append_drop, h.rest]) (by rw [List.length_take]; omega)
    have hne : s.rest.take k ≠ [] := by
      rw [ne_eq, List.take_eq_nil_iff, not_or]
      refine ⟨by omega, fun hnil => ?_⟩
      rw [hnil, List.length_nil] at hle
      omega
    rw [hs, ht]
    refine ⟨⟨rfl, h.index, h.quote, h.comment, h.status, fun hp => h.extra_append hp _⟩, fun _ _ => ?_⟩
    rw [afterAlnum_moved hne, afterAlnum_moved hne]
  · have hle' : ¬k ≤ t.rest.length := h.rest ▸ hle
    rw [Scan.advance, if_neg hle, Scan.advance, if_neg hle']
    exact ⟨⟨h.rest, h.index, h.quote, h.comment, rfl, h.extra⟩, by rintro ⟨⟩⟩

lemma SamePlace.quoted (h : SamePlace E p s t) (c : Option Char) :
    SamePlace E p (s.quoted c) (t.quoted c) :=
  ⟨h.rest, h.index, rfl, h.comment, h.status, h.extra⟩

lemma SamePlace.commented (h : SamePlace E p s t) (m : Comment) :
    SamePlace E p (s.commented m) (t.commented m) :=
  ⟨h.rest, h.index, h.quote, rfl, h.status, h.extra⟩

lemma SamePlace.quoteStep (h : SamePlace E p s t) : Alike E p (quoteStep s) (quoteStep t) := by
  have hq : nextQuote s = nextQuote t := by rw [nextQuote, nextQuote, h.rest, h.quote]
  rw [quoteStep_eq, quoteStep_eq, hq]
  exact (h.quoted _).advance Nat.one_pos

lemma SamePlace.lineStep (h : SamePlace E p s t) : Alike E p (lineStep s) (lineStep t) := by
  by_cases hc : peek s.rest = '\n' ∨ peek s.rest = '\r'
  · rw [ParseQuery.lineStep, ParseQuery.lineStep, if_pos hc, if_pos (h.rest ▸ hc)]
    exact (h.commented .none).advance Nat.one_pos
  · rw [ParseQuery.lineStep, ParseQuery.lineStep, if_neg hc, if_neg (h.rest ▸ hc)]
    exact h.advance Nat.one_pos

lemma SamePlace.blockStep (h : SamePlace E p s t) : Alike E p (blockStep s) (blockStep t) := by
  by_cases hc : peek s.rest = '*' ∧ peek s.rest.tail = '/'
  · rw [ParseQuery.blockStep, ParseQuery.blockStep, if_pos hc, if_pos (h.rest ▸ hc)]
    exact (h.commented .none).advance Nat.two_pos
  · rw [ParseQuery.blockStep, ParseQuery.blockStep, if_neg hc, if_neg (h.rest ▸ hc)]
    exact h.advance Nat.one_pos

section Escape

variable (hE : lib.chars = E) (hE' : lib'.chars = E)
include hE hE'

lemma SamePlace.spliced (h : SamePlace E p s t) (hp : p) {l : Text} (hl : s.rest = '\\' :: l) :
    SamePlace E p (spliced lib s) (spliced lib' t) := by
  have hextra := h.extra hp []
  rw [List.append_nil, List.append_nil] at hextra
  rw [spliced_eq lib hl (by decide), spliced_eq lib' (h.rest.symm.trans hl) (by decide), hE, hE', hextra]
  exact ⟨rfl, h.index, h.quote, h.comment, h.status, h.extra⟩

-- the character that is taken out is the same where the bytes in front split alike
lemma SamePlace.unescape (h : SamePlace E p s t) (hp : p) (he : AtEscape s) :
    Alike E p (unescape lib s) (unescape lib' t) := by
  obtain ⟨l, hl⟩ := MarkerTokens.cons_of_peek he.2.1 (by decide)
  have hadv := (h.spliced hE hE' hp hl).advance Nat.two_pos
  rw [ParseQuery.unescape, ParseQuery.unescape]
  by_cases hover : ((ParseQuery.spliced lib s).advance 2).status = .overrun
  · rw [if_pos hover, if_pos (hadv.status ▸ hover)]
    exact hadv
  · rw [if_neg hover, if_neg (hadv.status ▸ hover)]
    exact hadv.quoteStep

end Escape

lemma markerName_ascii (j : ℕ) : ∀ c ∈ markerName j, Ascii c := by
  intro c hc
  rcases List.mem_append.mp hc with hc | hc
  · have hall : (":qdodvrs___".toList.all fun c => decide (Ascii c)) = true := by decide
    exact of_decide_eq_true (List.all_eq_true.mp hall c hc)
  · have hdigit := Nat.isDigit_of_mem_toDigits (by omega) (by omega) hc
    simp only [Char.isDigit, Bool.and_eq_true, decide_eq_true_eq, UInt32.le_iff_toNat_le] at hdigit
    have hle : c.toNat ≤ 57 := hdigit.2
    exact Nat.lt_of_le_of_lt hle (by omega)

def Scan.outputs (s : Scan) : Scan := { s with hasOutput := true }

section Marker

variable (ha : args.isSome = true) (ha' : args'.isSome = true)
include ha ha'

lemma SamePlace.tookArg (h : SamePlace E p s t) : SamePlace E p (s.tookArg args) (t.tookArg args') := by
  refine ⟨h.rest, ?_, h.quote, h.comment, h.status, h.extra⟩
  rw [Scan.tookArg, Scan.tookArg, if_pos ha, if_pos ha', h.index]

-- where no `%` follows the marker, the texts do not matter
lemma SamePlace.insert (h : SamePlace E p s t) {tmp tmp' : Text} (hn : '\x00' ∉ tmp)
    (hn' : '\x00' ∉ tmp')
    (hlen : 2 ≤ s.rest.length) (hp : peek (s.rest.drop 2) ≠ '%') (hone : p → ∀ u, E.extra u = 0) :
    Alike E p ((s.tookArg args).replaceMarker tmp) ((t.tookArg args').replaceMarker tmp') := by
  obtain ⟨a, l, hl⟩ := List.exists_cons_of_length_pos (l := s.rest) (by omega)
  obtain ⟨b, r, rfl⟩ :=
    List.exists_cons_of_length_pos (l := l) (by rw [hl, List.length_cons] at hlen; omega)
  have took := h.tookArg ha ha'
  rw [Scan.replaceMarker_eq (s := s.tookArg args) hl hn,
    Scan.replaceMarker_eq (s := t.tookArg args') (r := r) (a := a) (b := b) (h.rest ▸ hl) hn']
  refine ⟨⟨rfl, took.index, h.quote, h.comment, h.status, fun hp u => ?_⟩, fun _ hr => ?_⟩
  · rw [hone hp, hone hp]
  rw [hl] at hp
  exact absurd hr hp

lemma SamePlace.raise (h : SamePlace E p s t) (e e' : Exn) :
    Alike E p ((s.tookArg args).raise e) ((t.tookArg args').raise e') :=
  ⟨⟨h.rest, (h.tookArg ha ha').index, h.quote, h.comment, rfl, h.extra⟩, by rintro ⟨⟩⟩

omit ha ha' in
variable (lib args) in
lemma inserted_some (hl : AppendsText lib) (h : peek s.rest.tail = 'd' ∨ peek s.rest.tail = 's') :
    ∃ tmp, inserted lib args s = some tmp ∧ '\x00' ∉ tmp := by
  by_cases hd : peek s.rest.tail = 'd'
  · exact ⟨_, by rw [inserted, if_pos hd], hl.numeric _⟩
  · obtain ⟨tmp, htmp, hn⟩ := hl.string (s.nextArg args)
    exact ⟨tmp, by rw [inserted, if_neg hd, if_pos (h.resolve_left hd), htmp]; rfl, hn⟩

omit ha ha' in
lemma inserted_none (h : ¬(peek s.rest.tail = 'd' ∨ peek s.rest.tail = 's')) :
    inserted lib args s = none := by
  rw [not_or] at h
  rw [inserted, if_neg h.1, if_neg h.2]

omit ha ha' in
lemma valueMarker_inserted {tmp : Text} (h : inserted lib args s = some tmp) :
    valueMarker lib args s = (s.tookArg args).replaceMarker tmp := by
  rcases valueMarker_cases lib args s with ⟨tmp', htmp', hval⟩ | ⟨hnone, -⟩ | ⟨hnone, -⟩
  · obtain rfl : tmp = tmp' := Option.some.inj (h.symm.trans htmp')
    exact hval
  · rw [h] at hnone
    cases hnone
  · rw [h] at hnone
    cases hnone

omit ha ha' in
lemma valueMarker_name (hv : peek s.rest.tail = 'v') (ha : (peek (s.rest.drop 2)).isAlpha = false) :
    valueMarker lib args s =
      ((s.tookArg args).replaceMarker (markerName s.nodeList.length)).addNode
        (ofValue (s.nextArg args)) := by
  have hd : ¬peek s.rest.tail = 'd' := by rw [hv]; decide
  have hs : ¬peek s.rest.tail = 's' := by rw [hv]; decide
  have hna : ¬(peek (s.rest.drop 2)).isAlpha = true := by rw [ha]; exact Bool.false_ne_true
  exact (if_neg hd).trans ((if_neg hs).trans ((if_neg (not_not.mpr hv)).trans (if_neg hna)))

omit ha ha' in
variable (lib args) in
lemma valueMarker_raise (h : ¬(peek s.rest.tail = 'd' ∨ peek s.rest.tail = 's'))
    (hv : ¬(peek s.rest.tail = 'v' ∧ (peek (s.rest.drop 2)).isAlpha = false)) :
    ∃ e, valueMarker lib args s = (s.tookArg args).raise e := by
  rcases valueMarker_cases lib args s with ⟨tmp, htmp, -⟩ | ⟨-, e, hval⟩ | ⟨-, hpv, hval⟩
  · rw [inserted_none h] at htmp
    cases htmp
  · exact ⟨e, hval⟩
  · rw [not_or] at h
    have halpha : (peek (s.rest.drop 2)).isAlpha = true := by
      by_contra hna
      exact hv ⟨hpv, by rwa [Bool.not_eq_true] at hna⟩
    exact ⟨_, (if_neg h.1).trans ((if_neg h.2).trans ((if_neg (not_not.mpr hpv)).trans (if_pos halpha)))⟩

lemma SamePlace.name (h : SamePlace E p s t) (hv : peek s.rest.tail = 'v') (j j' : ℕ)
    (n n' : OraBindNode) :
    Alike E p (((s.tookArg args).replaceMarker (markerName j)).addNode n)
      (((t.tookArg args').replaceMarker (markerName j')).addNode n') := by
  have hlen := length_two_of_peek (by decide) hv
  obtain ⟨a, l, hl⟩ := List.exists_cons_of_length_pos (l := s.rest) (by omega)
  obtain ⟨b, r, rfl⟩ :=
    List.exists_cons_of_length_pos (l := l) (by rw [hl, List.length_cons] at hlen; omega)
  have took := h.tookArg ha ha'
  rw [Scan.replaceMarker_eq (s := s.tookArg args) hl (markerName_no_nul j),
    Scan.replaceMarker_eq (s := t.tookArg args') (r := r) (a := a) (b := b) (h.rest ▸ hl)
      (markerName_no_nul j')]
  refine ⟨⟨rfl, took.index, h.quote, h.comment, h.status, fun hp u => ?_⟩, fun _ _ => ?_⟩
  · have hextra := h.extra hp []
    rw [List.append_nil, List.append_nil] at hextra
    have name : ∀ (v : Scan) i, E.extra (((markerName i).reverse ++ v.before).reverse ++ u) =
        E.extra v.before.reverse + E.extra u := by
      intro v i
      rw [List.reverse_append, List.reverse_reverse]
      exact E.extra_append_lone (markerName_ascii i) (append_toDigits_ne_nil _ _)
    exact (name s j).trans ((congrArg (· + E.extra u) hextra).trans (name t j').symm)
  have digit : ∀ (u : Scan) i, (u.moved (markerName i) r).afterAlnum = true := fun u i =>
    (afterAlnum_moved (append_toDigits_ne_nil _ _)).trans (append_toDigits_getLast _ _)
  exact (digit (s.tookArg args) j).trans (digit (t.tookArg args') j').symm

lemma SamePlace.valueMarker (h : SamePlace E p s t) (hl : AppendsText lib) (hl' : AppendsText lib')
    (hp : peek s.rest.tail = 'd' ∨ peek s.rest.tail = 's' →
      peek (s.rest.drop 2) ≠ '%' ∧ (p → ∀ u, E.extra u = 0)) :
    Alike E p (valueMarker lib args s) (valueMarker lib' args' t) := by
  by_cases hins : peek s.rest.tail = 'd' ∨ peek s.rest.tail = 's'
  · obtain ⟨tmp, htmp, hn⟩ := inserted_some _ args hl hins
    obtain ⟨tmp', htmp', hn'⟩ := inserted_some _ args' (s := t) hl' (h.rest ▸ hins)
    rw [valueMarker_inserted htmp, valueMarker_inserted htmp']
    have hlen : 2 ≤ s.rest.length := by
      rcases hins with hd | hs
      · exact length_two_of_peek (by decide) hd
      · exact length_two_of_peek (by decide) hs
    exact h.insert ha ha' hn hn' hlen (hp hins).1 (hp hins).2
  · by_cases hv : peek s.rest.tail = 'v' ∧ (peek (s.rest.drop 2)).isAlpha = false
    · have hv' : peek t.rest.tail = 'v' ∧ (peek (t.rest.drop 2)).isAlpha = false := h.rest ▸ hv
      rw [valueMarker_name hv.1 hv.2, valueMarker_name hv'.1 hv'.2]
      exact h.name ha ha' hv.1 _ _ _ _
    · obtain ⟨e, he⟩ := valueMarker_raise lib args hins hv
      obtain ⟨e', he'⟩ := valueMarker_raise lib' args' (s := t) (h.rest ▸ hins) (h.rest ▸ hv)
      rw [he, he']
      exact h.raise ha ha' e e'

omit ha ha' in
variable (lib args) in
lemma placeholder_eq {c : Char} {l : Text} (hr : s.rest = c :: l) (halpha : (peek l).isAlpha = true) :
    ∃ n, placeholder lib args s = match setError lib args s with
      | some e =>
        (((s.tookArg args).moved (c :: l.takeWhile isNameChar)
          (l.dropWhile isNameChar)).addNode n).outputs.raise e
      | none =>
        (((s.tookArg args).moved (c :: l.takeWhile isNameChar)
          (l.dropWhile isNameChar)).addNode n).outputs := by
  have hadv : s.advance 1 = s.moved [c] l := Scan.advance_one hr
  have hname : (s.moved [c] l).advance (l.takeWhile isNameChar).length =
      (s.moved [c] l).moved (l.takeWhile isNameChar) (l.dropWhile isNameChar) :=
    Scan.advance_eq (s := s.moved [c] l) List.takeWhile_append_dropWhile.symm rfl
  have herr : setError lib args s =
      (describePlaceholder lib (s.nextArg args)
        (ofPlaceholder (l.takeWhile isNameChar) (-1) none .nothing)).2 := by
    rw [setError, hr, List.tail_cons]
  rw [placeholder, hadv]
  simp only [Scan.moved_rest, halpha, if_true, hname, herr, Scan.moved_moved]
  exact ⟨_, rfl⟩

lemma SamePlace.placeholder (h : SamePlace E p s t) (hpos : 0 < s.rest.length)
    (he : (peek s.rest.tail).isAlpha = true →
      (setError lib args s).isSome = (setError lib' args' t).isSome) :
    Alike E p (placeholder lib args s) (placeholder lib' args' t) := by
  obtain ⟨c, l, hl⟩ := List.exists_cons_of_length_pos hpos
  have hl' : t.rest = c :: l := h.rest ▸ hl
  have took := h.tookArg ha ha'
  by_cases halpha : (peek l).isAlpha = true
  · have he := he (by rw [hl]; exact halpha)
    obtain ⟨n, hn⟩ := placeholder_eq lib args hl halpha
    obtain ⟨n', hn'⟩ := placeholder_eq lib' args' hl' halpha
    rw [hn, hn']
    have hmoved : ∀ (u : Scan) m, ((((u.tookArg m).moved (c :: l.takeWhile isNameChar)
        (l.dropWhile isNameChar)).afterAlnum) = MarkerTokens.afterAlnum
          (c :: l.takeWhile isNameChar).getLast?) :=
      fun u m => afterAlnum_moved (List.cons_ne_nil _ _)
    cases hs : setError lib args s with
    | none =>
      cases ht : setError lib' args' t with
      | none => exact ⟨⟨rfl, took.index, h.quote, h.comment, h.status, fun hp => h.extra_append hp _⟩,
          fun _ _ => (hmoved s args).trans (hmoved t args').symm⟩
      | some e =>
        rw [hs, ht] at he
        cases he
    | some e =>
      cases ht : setError lib' args' t with
      | none =>
        rw [hs, ht] at he
        cases he
      | some e' => exact ⟨⟨rfl, took.index, h.quote, h.comment, rfl, fun hp => h.extra_append hp _⟩,
          by rintro ⟨⟩⟩
  · have hstop : ∀ (li : QoreLib) m (u : Scan), u.rest = c :: l →
        ParseQuery.placeholder li m u = u.advance 1 := by
      intro li m u hu
      rw [ParseQuery.placeholder, Scan.advance_one hu]
      exact if_neg halpha
    rw [hstop lib args s hl, hstop lib' args' t hl']
    exact h.advance Nat.one_pos

-- what a turn may meet for the scans to stay alike
structure SameTurn (E : CharSplit Char Ascii) (p : Prop) (lib lib' : QoreLib)
    (args args' : Option (List QoreValue)) (s t : Scan) : Prop where
  marker : AtInserted s → peek (s.rest.drop 2) ≠ '%' ∧ (p → ∀ u, E.extra u = 0)
  escape : AtEscape s → p
  placeholder : AtPlaceholder s → (setError lib args s).isSome = (setError lib' args' t).isSome

variable (hE : lib.chars = E) (hE' : lib'.chars = E)
include hE hE'

lemma Alike.codeStep (h : Alike E p s t) (hlive : halted s = false) (hc : AtCode s)
    (hl : AppendsText lib) (hl' : AppendsText lib') (hturn : SameTurn E p lib lib' args args' s t) :
    Alike E p (codeStep lib args s) (codeStep lib' args' t) := by
  have hs := scanning_of_not_halted hlive
  have hpos := rest_pos hlive
  rw [ParseQuery.codeStep, ParseQuery.codeStep]
  by_cases h1 : peek s.rest = '-' ∧ peek s.rest.tail = '-'
  · rw [if_pos h1, if_pos (h.rest ▸ h1)]
    exact (h.toSamePlace.commented .line).advance Nat.two_pos
  have h1' : ¬(peek t.rest = '-' ∧ peek t.rest.tail = '-') := h.rest ▸ h1
  rw [if_neg h1, if_neg h1']
  by_cases h2 : peek s.rest = '/' ∧ peek s.rest.tail = '*'
  · rw [if_pos h2, if_pos (h.rest ▸ h2)]
    exact (h.toSamePlace.commented .block).advance Nat.two_pos
  have h2' : ¬(peek t.rest = '/' ∧ peek t.rest.tail = '*') := h.rest ▸ h2
  rw [if_neg h2, if_neg h2']
  have hmark : (peek s.rest = '%' ∧ s.afterAlnum = false) ↔
      (peek t.rest = '%' ∧ t.afterAlnum = false) := by
    rw [← h.rest]
    refine and_congr_right fun hp => ?_
    rw [h.alnum hs hp]
  by_cases h3 : peek s.rest = '%' ∧ s.afterAlnum = false
  · rw [if_pos h3, if_pos (hmark.mp h3)]
    exact h.toSamePlace.valueMarker ha ha' hl hl' fun hins => hturn.marker ⟨⟨hc, h3⟩, hins⟩
  rw [if_neg h3, if_neg (mt hmark.mpr h3)]
  by_cases h4 : peek s.rest = ':'
  · rw [if_pos h4, if_pos (h.rest ▸ h4)]
    exact h.toSamePlace.placeholder ha ha' hpos fun halpha => hturn.placeholder ⟨hc, h4, halpha⟩
  have h4' : ¬(peek t.rest = ':') := h.rest ▸ h4
  rw [if_neg h4, if_neg h4']
  by_cases h5 : peek s.rest = '\\' ∧ (peek s.rest.tail = ':' ∨ peek s.rest.tail = '%')
  · rw [if_pos h5, if_pos (h.rest ▸ h5)]
    exact h.unescape hE hE' (hturn.escape ⟨hc, h5⟩) ⟨hc, h5⟩
  have h5' : ¬(peek t.rest = '\\' ∧ (peek t.rest.tail = ':' ∨ peek t.rest.tail = '%')) := h.rest ▸ h5
  rw [if_neg h5, if_neg h5']
  exact h.toSamePlace.quoteStep

lemma Alike.step (h : Alike E p s t) (hlive : halted s = false) (hl : AppendsText lib)
    (hl' : AppendsText lib') (hturn : SameTurn E p lib lib' args args' s t) :
    Alike E p (step lib args s) (step lib' args' t) := by
  cases hq : s.quote with
  | some q =>
    rw [step_quoted hq, step_quoted (h.quote ▸ hq)]
    exact h.toSamePlace.quoteStep
  | none =>
    have hq' : t.quote = none := h.quote ▸ hq
    cases hm : s.comment with
    | none =>
      rw [step_code_eq hq hm, step_code_eq hq' (h.comment ▸ hm)]
      exact h.codeStep ha ha' hE hE' hlive ⟨hq, hm⟩ hl hl' hturn
    | line =>
      rw [step_line_eq hq hm, step_line_eq hq' (h.comment ▸ hm)]
      exact h.toSamePlace.lineStep
    | block =>
      rw [step_block_eq hq hm, step_block_eq hq' (h.comment ▸ hm)]
      exact h.toSamePlace.blockStep

end Marker

end OracleDriver.ParseQuery
