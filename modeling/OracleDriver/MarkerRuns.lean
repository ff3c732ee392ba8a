import OracleDriver.MarkerIndependence

/-! Whether the items that a scan finds in a text depend on the values of its arguments. -/

namespace OracleDriver.ParseQuery

open OraBindNode FuelRun

instance (s : Scan) : Decidable (AtCode s) :=
  inferInstanceAs (Decidable (s.quote = none ∧ s.comment = .none))

instance (s : Scan) : Decidable (AtMarker s) :=
  inferInstanceAs (Decidable (AtCode s ∧ peek s.rest = '%' ∧ s.afterAlnum = false))

instance (s : Scan) : Decidable (AtPlaceholder s) :=
  inferInstanceAs (Decidable (AtCode s ∧ peek s.rest = ':' ∧ (peek s.rest.tail).isAlpha = true))

-- an argument is taken in the turn
def Takes (s : Scan) : Prop := AtMarker s ∨ AtPlaceholder s

instance (s : Scan) : Decidable (Takes s) := inferInstanceAs (Decidable (AtMarker s ∨ AtPlaceholder s))

instance (s : Scan) : Decidable (AtEscape s) :=
  inferInstanceAs (Decidable (AtCode s ∧ peek s.rest = '\\' ∧
    (peek s.rest.tail = ':' ∨ peek s.rest.tail = '%')))

-- a marker or placeholder, by its place in the text that is scanned
structure Found where
  place : Option ℕ
  index : ℕ
deriving DecidableEq, Repr

-- `places` has an entry for each character from the pointer on
def foundAt (s : Scan) (places : List ℕ) : Option Found :=
  if halted s = false ∧ Takes s then some ⟨places.head?, s.index⟩ else none

variable {lib lib' : QoreLib} {args args' : Option (List QoreValue)} {s t : Scan} {k : ℕ}
  {E : CharSplit Char Ascii} {p : Prop}

section Index

@[simp] lemma index_advance (s : Scan) (k : ℕ) : (s.advance k).index = s.index := by
  rw [Scan.advance]
  split <;> rfl

@[simp] lemma index_replaceMarker (s : Scan) (tmp : Text) :
    (s.replaceMarker tmp).index = s.index := index_advance _ _

lemma index_addNode (s : Scan) (d : OraBindNode) : (s.addNode d).index = s.index := rfl

@[simp] lemma index_quoteStep (s : Scan) : (quoteStep s).index = s.index := by
  rw [quoteStep_eq, index_advance]
  rfl

@[simp] lemma index_unescape (lib : QoreLib) (s : Scan) : (unescape lib s).index = s.index := by
  rw [unescape]
  split
  · exact index_advance _ _
  · rw [index_quoteStep]
    exact index_advance _ _

-- the arguments play no part in the turn
def Idle (s : Scan) : Prop :=
  ¬Takes s ∧ ∀ lib, ∃ t, t.index = s.index ∧ ∀ args, step lib args s = t

lemma idle_outside (hc : ¬AtCode s) (ht : t.index = s.index)
    (h : ∀ lib args, step lib args s = t) : Idle s := by
  refine ⟨?_, fun lib => ⟨t, ht, h lib⟩⟩
  rintro (hm | hp)
  · exact hc hm.1
  · exact hc hp.1

lemma idle_commented {c : Comment} {k : ℕ} (hm : peek s.rest ≠ '%') (hp : peek s.rest ≠ ':')
    (h : ∀ lib args, step lib args s = (s.commented c).advance k) : Idle s := by
  refine ⟨?_, fun lib => ⟨_, index_advance (s.commented c) k, h lib⟩⟩
  rintro (ht | ht)
  · exact hm ht.2.1
  · exact hp ht.2.1

lemma idle_colon (hm : ¬AtMarker s) (hcolon : peek s.rest = ':')
    (halpha : ¬(peek s.rest.tail).isAlpha = true)
    (h : ∀ lib args, step lib args s = placeholder lib args s) : Idle s := by
  obtain ⟨l, hl⟩ := MarkerTokens.cons_of_peek hcolon (by decide)
  refine ⟨?_, fun lib => ⟨s.advance 1, index_advance s 1, ?_⟩⟩
  · rintro (ht | ht)
    · exact hm ht
    · exact halpha ht.2.2
  · intro args
    rw [h, placeholder, Scan.advance_one hl]
    rw [hl, List.tail_cons] at halpha
    exact if_neg halpha

lemma code_cases (hcode : AtCode s) (hstep : ∀ lib args, step lib args s = codeStep lib args s) :
    (AtMarker s ∧ ∀ lib args, step lib args s = valueMarker lib args s) ∨
    (AtPlaceholder s ∧ ∀ lib args, step lib args s = placeholder lib args s) ∨ Idle s := by
  by_cases h1 : peek s.rest = '-' ∧ peek s.rest.tail = '-'
  · have hidle : Idle s := idle_commented (by rw [h1.1]; decide) (by rw [h1.1]; decide)
      fun _ _ => (hstep _ _).trans (if_pos h1)
    exact Or.inr (Or.inr hidle)
  by_cases h2 : peek s.rest = '/' ∧ peek s.rest.tail = '*'
  · have hidle : Idle s := idle_commented (by rw [h2.1]; decide) (by rw [h2.1]; decide)
      fun _ _ => (hstep _ _).trans ((if_neg h1).trans (if_pos h2))
    exact Or.inr (Or.inr hidle)
  by_cases h3 : peek s.rest = '%' ∧ s.afterAlnum = false
  · exact Or.inl ⟨⟨hcode, h3⟩,
      fun _ _ => (hstep _ _).trans ((if_neg h1).trans ((if_neg h2).trans (if_pos h3)))⟩
  have hm : ¬AtMarker s := fun hm => h3 hm.2
  by_cases h4 : peek s.rest = ':'
  · have hcolon : ∀ lib args, step lib args s = placeholder lib args s := fun _ _ =>
      (hstep _ _).trans ((if_neg h1).trans ((if_neg h2).trans ((if_neg h3).trans (if_pos h4))))
    by_cases halpha : (peek s.rest.tail).isAlpha = true
    · exact Or.inr (Or.inl ⟨⟨hcode, h4, halpha⟩, hcolon⟩)
    · exact Or.inr (Or.inr (idle_colon hm h4 halpha hcolon))
  have hrest : ∀ lib args, step lib args s =
      if peek s.rest = '\\' ∧ (peek s.rest.tail = ':' ∨ peek s.rest.tail = '%') then unescape lib s
      else quoteStep s :=
    fun _ _ => (hstep _ _).trans ((if_neg h1).trans ((if_neg h2).trans ((if_neg h3).trans (if_neg h4))))
  refine Or.inr (Or.inr ⟨?_, fun lib => ⟨_, ?_, hrest lib⟩⟩)
  · rintro (h | h)
    · exact hm h
    · exact h4 h.2.1
  · split
    · exact index_unescape lib s
    · exact index_quoteStep s

-- a turn is at a marker, at a placeholder, or the arguments play no part in it
lemma step_cases (s : Scan) : (AtMarker s ∧ ∀ lib args, step lib args s = valueMarker lib args s) ∨
    (AtPlaceholder s ∧ ∀ lib args, step lib args s = placeholder lib args s) ∨ Idle s := by
  cases hq : s.quote with
  | some q =>
    have hc : ¬AtCode s := fun hc => by rw [hc.1] at hq; cases hq
    exact Or.inr (Or.inr (idle_outside hc (index_quoteStep s) fun _ _ => step_quoted hq))
  | none =>
    cases hm : s.comment with
    | line =>
      have hc : ¬AtCode s := fun hc => by rw [hc.2] at hm; cases hm
      have hindex : (lineStep s).index = s.index := by
        rw [lineStep, index_advance]
        split <;> rfl
      exact Or.inr (Or.inr (idle_outside hc hindex fun _ _ => step_line_eq hq hm))
    | block =>
      have hc : ¬AtCode s := fun hc => by rw [hc.2] at hm; cases hm
      have hindex : (blockStep s).index = s.index := by
        rw [blockStep]
        split <;> exact index_advance _ _
      exact Or.inr (Or.inr (idle_outside hc hindex fun _ _ => step_block_eq hq hm))
    | none => exact code_cases ⟨hq, hm⟩ fun _ _ => step_code_eq hq hm

lemma index_valueMarker : (valueMarker lib args s).index = (s.tookArg args).index := by
  rcases valueMarker_cases lib args s with ⟨tmp, -, hval⟩ | ⟨-, e, hval⟩ | ⟨-, -, hval⟩
  · rw [hval, index_replaceMarker]
  · rw [hval]
    rfl
  · rw [hval, index_addNode, index_replaceMarker]

lemma index_placeholder (h : AtPlaceholder s) :
    (placeholder lib args s).index = (s.tookArg args).index := by
  obtain ⟨l, hl⟩ := MarkerTokens.cons_of_peek h.2.1 (by decide)
  have halpha := h.2.2
  rw [hl, List.tail_cons] at halpha
  obtain ⟨n, hn⟩ := placeholder_eq lib args hl halpha
  rw [hn]
  split <;> rfl

lemma index_step (h : Takes s) : (step lib args s).index = (s.tookArg args).index := by
  rcases step_cases s with ⟨-, hs⟩ | ⟨hp, hs⟩ | ⟨hn, -⟩
  · rw [hs, index_valueMarker]
  · rw [hs, index_placeholder hp]
  · exact absurd h hn

lemma index_step_idle (h : ¬Takes s) : (step lib args s).index = s.index := by
  rcases step_cases s with ⟨hm, -⟩ | ⟨hp, -⟩ | ⟨-, hidle⟩
  · exact absurd (Or.inl hm) h
  · exact absurd (Or.inr hp) h
  · obtain ⟨t, ht, hs⟩ := hidle lib
    rw [hs, ht]

lemma index_le_step (lib : QoreLib) (args : Option (List QoreValue)) (s : Scan) :
    s.index ≤ (step lib args s).index := by
  by_cases h : Takes s
  · rw [index_step h, Scan.tookArg]
    dsimp only
    split <;> omega
  · rw [index_step_idle h]

end Index

section Runs

variable (lib : QoreLib) (args : Option (List QoreValue)) (str : Text)
  (nodeList : List OraBindNode) (hasOutput : Bool)

lemma turns_succ (n : ℕ) : turns lib args str nodeList hasOutput (n + 1) =
    if halted (turns lib args str nodeList hasOutput n) then turns lib args str nodeList hasOutput n
    else step lib args (turns lib args str nodeList hasOutput n) := by
  rw [turns, run_add n 1]
  rfl

variable {lib args str nodeList hasOutput} {n m : ℕ}

lemma index_mono (h : n ≤ m) : (turns lib args str nodeList hasOutput n).index ≤
    (turns lib args str nodeList hasOutput m).index := by
  induction m, h using Nat.le_induction with
  | base => exact le_rfl
  | succ m _ ih =>
    rw [turns_succ]
    split
    · exact ih
    · exact ih.trans (index_le_step lib args _)

lemma live_of_le (h : n ≤ m) (hm : halted (turns lib args str nodeList hasOutput m) = false) :
    halted (turns lib args str nodeList hasOutput n) = false := by
  by_contra hn
  rw [Bool.not_eq_false] at hn
  have hsame : turns lib args str nodeList hasOutput m = turns lib args str nodeList hasOutput n := by
    obtain ⟨d, rfl⟩ := Nat.exists_eq_add_of_le h
    exact (run_add n d _).trans (run_halted hn d)
  rw [hsame, hn] at hm
  cases hm

lemma rest_lt (h : n < m) (hm : halted (turns lib args str nodeList hasOutput m) = false) :
    (turns lib args str nodeList hasOutput m).rest.length <
      (turns lib args str nodeList hasOutput n).rest.length := by
  have one : ∀ k, halted (turns lib args str nodeList hasOutput (k + 1)) = false →
      (turns lib args str nodeList hasOutput (k + 1)).rest.length <
        (turns lib args str nodeList hasOutput k).rest.length := by
    intro k hk
    have hlive := live_of_le (Nat.le_succ k) hk
    rw [turns_succ, if_neg (by rw [hlive]; exact Bool.false_ne_true)] at hk ⊢
    exact (shorter_step lib args le_rfl (rest_pos hlive)).resolve_left
      (not_not.mpr (scanning_of_not_halted hk))
  induction m, h using Nat.le_induction with
  | base => exact one n hm
  | succ m hle ih => exact (one m hm).trans (ih (live_of_le (Nat.le_succ m) hm))

lemma rest_add_le (hn : halted (turns lib args str nodeList hasOutput n) = false) :
    (turns lib args str nodeList hasOutput n).rest.length + n ≤ str.length := by
  induction n with
  | zero => exact le_rfl
  | succ n ih =>
    have hlt : (turns lib args str nodeList hasOutput (n + 1)).rest.length <
        (turns lib args str nodeList hasOutput n).rest.length := rest_lt (Nat.lt_succ_self n) hn
    have hle := ih (live_of_le (Nat.le_succ n) hn)
    omega

lemma takes_unique (ha : args.isSome = true)
    (hn : halted (turns lib args str nodeList hasOutput n) = false)
    (hm : halted (turns lib args str nodeList hasOutput m) = false)
    (htn : Takes (turns lib args str nodeList hasOutput n))
    (htm : Takes (turns lib args str nodeList hasOutput m))
    (h : (turns lib args str nodeList hasOutput n).index =
      (turns lib args str nodeList hasOutput m).index) : n = m := by
  have lt_of : ∀ j k, j < k → halted (turns lib args str nodeList hasOutput j) = false →
      Takes (turns lib args str nodeList hasOutput j) → (turns lib args str nodeList hasOutput j).index <
        (turns lib args str nodeList hasOutput k).index := by
    intro j k hjk hj ht
    have hnext : (turns lib args str nodeList hasOutput (j + 1)).index =
        (turns lib args str nodeList hasOutput j).index + 1 := by
      rw [turns_succ, if_neg (by rw [hj]; exact Bool.false_ne_true), index_step ht, Scan.tookArg,
        if_pos ha]
    have hle : (turns lib args str nodeList hasOutput (j + 1)).index ≤ _ :=
      index_mono (Nat.succ_le_of_lt hjk)
    omega
  rcases lt_trichotomy n m with hlt | heq | hgt
  · have := lt_of n m hlt hn htn
    omega
  · exact heq
  · have := lt_of m n hgt hm htm
    omega

end Runs

lemma Alike.marker (h : Alike E p s t) (hs : s.status = .scanning) : AtMarker s ↔ AtMarker t := by
  rw [AtMarker, AtMarker, AtCode, AtCode, h.quote, h.comment, ← h.rest]
  apply and_congr_right
  intro
  apply and_congr_right
  intro hp
  rw [h.alnum hs hp]

lemma Alike.takes (h : Alike E p s t) (hs : s.status = .scanning) : Takes s ↔ Takes t := by
  rw [Takes, Takes, h.marker hs, AtPlaceholder, AtPlaceholder, AtCode, AtCode, h.quote, h.comment,
    h.rest]

lemma Alike.inserted (h : Alike E p s t) (hs : s.status = .scanning) : AtInserted s ↔ AtInserted t := by
  rw [AtInserted, AtInserted, h.marker hs, h.rest]

lemma Alike.escape (h : Alike E p s t) : AtEscape s ↔ AtEscape t := by
  rw [AtEscape, AtEscape, AtCode, AtCode, h.quote, h.comment, h.rest]

lemma Alike.halted (h : Alike E p s t) : ParseQuery.halted s = ParseQuery.halted t := by
  rw [ParseQuery.halted, ParseQuery.halted, h.status, h.rest]

section Places

-- the character that an escape takes out has no place any more
def splicedPlaces (lib : QoreLib) (s : Scan) (places : List ℕ) : List ℕ :=
  if AtEscape s then lib.chars.eraseAlong s.rest places (lib.chars.extra s.before.reverse) else places

variable (lib : QoreLib) (args : Option (List QoreValue)) (str : Text)
  (nodeList : List OraBindNode) (hasOutput : Bool)

-- the places that the characters from the pointer on have in the text that is scanned
def places : ℕ → List ℕ
  | 0 => List.range str.length
  | n + 1 =>
    let l := splicedPlaces lib (turns lib args str nodeList hasOutput n) (places n)
    l.drop (l.length - (turns lib args str nodeList hasOutput (n + 1)).rest.length)

variable {lib args str nodeList hasOutput} {n m : ℕ}

lemma splicedPlaces_sublist (s : Scan) (l : List ℕ) : (splicedPlaces lib s l).Sublist l := by
  rw [splicedPlaces]
  split
  · exact lib.chars.eraseAlong_sublist _ _ _
  · exact List.Sublist.refl _

lemma splicedPlaces_alike (hE : lib.chars = E) (hE' : lib'.chars = E) (h : Alike E p s t)
    (hp : AtEscape s → p) (l : List ℕ) : splicedPlaces lib s l = splicedPlaces lib' t l := by
  by_cases he : AtEscape s
  · have hextra := h.extra (hp he) []
    rw [List.append_nil, List.append_nil] at hextra
    rw [splicedPlaces, splicedPlaces, if_pos he, if_pos (h.escape.mp he), hE, hE', hextra, h.rest]
  · rw [splicedPlaces, splicedPlaces, if_neg he, if_neg (mt h.escape.mpr he)]

lemma step_escape (he : AtEscape s) : step lib args s = unescape lib s := by
  obtain ⟨hc, hp, hd⟩ := he
  rw [step_code_eq hc.1 hc.2, codeStep]
  simp [hp, hd]

-- a turn leaves fewer characters than the text has when an escape has taken one out
lemma rest_lt_splicedPlaces {l : List ℕ} (hs : halted s = false)
    (hlive : halted (step lib args s) = false) (hl : l.length = s.rest.length) :
    (step lib args s).rest.length < (splicedPlaces lib s l).length := by
  by_cases he : AtEscape s
  · obtain ⟨r, hr⟩ := MarkerTokens.cons_of_peek he.2.1 (by decide)
    have hstep : step lib args s = unescape lib s := step_escape he
    have hrest := (unescape_rest lib (scanning_of_not_halted hs)).resolve_left (by
      rw [← hstep, scanning_of_not_halted hlive]
      rintro ⟨⟩)
    have hspliced : (spliced lib s).rest.length =
        (lib.chars.erase s.rest (lib.chars.extra s.before.reverse)).length := by
      rw [spliced_eq lib hr (by decide), hr]
    rw [splicedPlaces, if_pos he, lib.chars.length_eraseAlong _ _ _ hl, ← hspliced, hstep]
    omega
  · rw [splicedPlaces, if_neg he, hl]
    exact (shorter_step lib args le_rfl (rest_pos hs)).resolve_left
      (not_not.mpr (scanning_of_not_halted hlive))

lemma length_places (hn : halted (turns lib args str nodeList hasOutput n) = false) :
    (places lib args str nodeList hasOutput n).length =
      (turns lib args str nodeList hasOutput n).rest.length := by
  induction n with
  | zero => exact List.length_range
  | succ n ih =>
    have hlive := live_of_le (Nat.le_succ n) hn
    have hstep : turns lib args str nodeList hasOutput (n + 1) = _ :=
      (turns_succ lib args str nodeList hasOutput n).trans
        (if_neg (by rw [hlive]; exact Bool.false_ne_true))
    rw [hstep] at hn
    have hlt := rest_lt_splicedPlaces hlive hn (ih hlive)
    rw [places, List.length_drop, hstep]
    omega

lemma places_sublist_tail (hn : halted (turns lib args str nodeList hasOutput (n + 1)) = false) :
    (places lib args str nodeList hasOutput (n + 1)).Sublist
      (places lib args str nodeList hasOutput n).tail := by
  have hlive := live_of_le (Nat.le_succ n) hn
  have hstep : turns lib args str nodeList hasOutput (n + 1) = _ :=
    (turns_succ lib args str nodeList hasOutput n).trans
      (if_neg (by rw [hlive]; exact Bool.false_ne_true))
  have hlt := rest_lt_splicedPlaces hlive (hstep ▸ hn) (length_places hlive)
  have hdrop : 1 ≤ (splicedPlaces lib (turns lib args str nodeList hasOutput n)
      (places lib args str nodeList hasOutput n)).length -
        (turns lib args str nodeList hasOutput (n + 1)).rest.length := by
    rw [hstep]
    omega
  rw [places]
  apply (List.drop_sublist_drop_left _ hdrop).trans
  rw [List.drop_one]
  exact (splicedPlaces_sublist _ _).tail

lemma places_sublist (h : n < m) (hm : halted (turns lib args str nodeList hasOutput m) = false) :
    (places lib args str nodeList hasOutput m).Sublist
      (places lib args str nodeList hasOutput n).tail := by
  induction m, h using Nat.le_induction with
  | base => exact places_sublist_tail hm
  | succ m hle ih =>
    exact (places_sublist_tail hm).trans
      ((List.tail_sublist _).trans (ih (live_of_le (Nat.le_succ m) hm)))

variable (lib args str nodeList hasOutput n) in
lemma places_pairwise : (places lib args str nodeList hasOutput n).Pairwise (· < ·) := by
  induction n with
  | zero => exact List.pairwise_lt_range
  | succ n ih => exact (ih.sublist (splicedPlaces_sublist _ _)).sublist (List.drop_sublist _ _)

-- two turns do not stand at one place
lemma place_ne (h : n < m) (hm : halted (turns lib args str nodeList hasOutput m) = false) :
    (places lib args str nodeList hasOutput n).head? ≠
      (places lib args str nodeList hasOutput m).head? := by
  have hsub := places_sublist h hm
  have hpos := rest_pos hm
  rw [← length_places hm] at hpos
  obtain ⟨x, l, hx⟩ := List.exists_cons_of_length_pos hpos
  have hmem : x ∈ (places lib args str nodeList hasOutput n).tail := by
    apply hsub.subset
    rw [hx]
    exact List.mem_cons_self
  have hlt := places_pairwise lib args str nodeList hasOutput n
  rw [hx]
  rcases hy : places lib args str nodeList hasOutput n with _ | ⟨y, r⟩
  · rw [hy] at hmem
    cases hmem
  · rw [hy] at hmem hlt
    have hyx := List.rel_of_pairwise_cons hlt hmem
    intro he
    exact Nat.ne_of_lt hyx (Option.some.inj he)

lemma places_congr {a b : List QoreValue}
    (h : ∀ m ≤ n,
      turns lib (some a) str nodeList hasOutput m = turns lib (some b) str nodeList hasOutput m) :
    places lib (some a) str nodeList hasOutput n = places lib (some b) str nodeList hasOutput n := by
  induction n with
  | zero => rfl
  | succ n ih =>
    rw [places, places, ih fun m hm => h m (Nat.le_succ_of_le hm), h n (Nat.le_succ n), h (n + 1) le_rfl]

end Places

lemma status_setError {e : Exn} (h : AtPlaceholder s) (he : setError lib args s = some e) :
    (step lib args s).status ≠ .scanning := by
  obtain ⟨l, hl⟩ := MarkerTokens.cons_of_peek h.2.1 (by decide)
  have halpha := h.2.2
  rw [hl, List.tail_cons] at halpha
  obtain ⟨n, hn⟩ := placeholder_eq lib args hl halpha
  rcases step_cases s with ⟨hm, -⟩ | ⟨-, hs⟩ | ⟨hn, -⟩
  · exact absurd (hm.2.1.symm.trans h.2.1) (by decide)
  · rw [hs, hn, he]
    exact nofun
  · exact absurd (Or.inr h) hn

lemma step_congr (h : args.isSome = args'.isSome) (harg : Takes s → s.nextArg args = s.nextArg args') :
    step lib args s = step lib args' s := by
  have took : s.tookArg args = s.tookArg args' := by rw [Scan.tookArg, Scan.tookArg, h]
  rcases step_cases s with ⟨hm, hs⟩ | ⟨hp, hs⟩ | ⟨-, hidle⟩
  · rw [hs, hs, valueMarker, valueMarker, took, harg (Or.inl hm)]
  · have hnext : retrieveEntry args s.index = retrieveEntry args' s.index := harg (Or.inr hp)
    rw [hs, hs]
    simp only [placeholder, Scan.nextArg, index_advance, hnext, Scan.tookArg, h]
  · obtain ⟨t, -, hs⟩ := hidle lib
    rw [hs, hs]

-- a letter for an integer, and a blank for every other value
def letter : QoreValue → Text
  | .int _ => ['a']
  | _ => [' ']

def letterLib (E : CharSplit Char Ascii) : QoreLib :=
  { plainLib with
    concatNumeric := letter
    concatString := fun v => .ok (letter v)
    chars := E }

lemma letter_no_nul (v : QoreValue) : '\x00' ∉ letter v := by
  cases v <;> simp [letter]

variable (E) in
lemma letterLib_appends : AppendsText (letterLib E) :=
  ⟨letter_no_nul, fun v => ⟨letter v, rfl, letter_no_nul v⟩⟩

section Independence

variable (E) (lib : QoreLib) (a b : List QoreValue) (str : Text) (nodeList : List OraBindNode)
  (hasOutput : Bool)

-- the items that the scan finds, with the indexes of their arguments
def founds (args : Option (List QoreValue)) : List Found :=
  (List.range (str.length + 1)).filterMap fun n =>
    foundAt (turns lib args str nodeList hasOutput n) (places lib args str nodeList hasOutput n)

def InsertedAt (i : ℕ) (s : Scan) : Prop := halted s = false ∧ AtInserted s ∧ s.index = i

-- each argument on which the lists differ is taken by `%d` or `%s`
def DifferInserted : Prop :=
  ∀ i, a[i]? ≠ b[i]? → ∃ n, InsertedAt i (turns lib (some a) str nodeList hasOutput n) ∨
    InsertedAt i (turns lib (some b) str nodeList hasOutput n)

-- the text is in the encoding `E`
def MarkersIndependent : Prop :=
  ∀ lib a b nodeList hasOutput, lib.chars = E → AppendsText lib → a.length = b.length →
    DifferInserted lib a b str nodeList hasOutput →
      founds lib str nodeList hasOutput (some a) = founds lib str nodeList hasOutput (some b)

-- no `%` comes directly after a `%d` or a `%s` that the scan finds where blanks are inserted
def NoAdjacent : Prop :=
  ∀ n, halted (turns (letterLib E) (some []) str [] false n) = false →
    AtInserted (turns (letterLib E) (some []) str [] false n) →
    peek ((turns (letterLib E) (some []) str [] false n).rest.drop 2) ≠ '%'

-- each byte is a character
def SingleByte : Prop := ∀ u, E.extra u = 0

-- where blanks are inserted, the scan meets no escape behind a `%d` or a `%s`
def NoEscapeBehind : Prop :=
  ∀ m n, m < n → halted (turns (letterLib E) (some []) str [] false n) = false →
    AtInserted (turns (letterLib E) (some []) str [] false m) →
    ¬AtEscape (turns (letterLib E) (some []) str [] false n)

-- what is in front of the pointer after `n` turns splits alike in all scans
def SplitsAlike (n : ℕ) : Prop :=
  SingleByte E ∨ ∀ m < n, ¬AtInserted (turns (letterLib E) (some []) str [] false m)

variable {E lib a b str nodeList hasOutput}

lemma SplitsAlike.of_succ {n : ℕ} (h : SplitsAlike E str (n + 1)) : SplitsAlike E str n :=
  h.imp_right fun hnone m hm => hnone m (Nat.lt_succ_of_lt hm)

lemma foundAt_congr {s t : Scan} {l : List ℕ} (h : Alike E p s t) : foundAt s l = foundAt t l := by
  have hh := h.halted
  by_cases hlive : halted s = false ∧ Takes s
  · have ht : halted t = false ∧ Takes t :=
      ⟨hh ▸ hlive.1, (h.takes (scanning_of_not_halted hlive.1)).mp hlive.2⟩
    rw [foundAt, foundAt, if_pos hlive, if_pos ht, h.index]
  · have ht : ¬(halted t = false ∧ Takes t) := fun ht =>
      hlive ⟨hh.trans ht.1, (h.takes (scanning_of_not_halted (hh.trans ht.1))).mpr ht.2⟩
    rw [foundAt, foundAt, if_neg hlive, if_neg ht]

lemma foundAt_halted {s : Scan} (h : halted s = true) (l : List ℕ) : foundAt s l = none :=
  if_neg fun hlive => Bool.false_ne_true (hlive.1.symm.trans h)

lemma alike_start (nodes nodes' : List OraBindNode) (output output' : Bool) :
    Alike E p (start str nodes output) (start str nodes' output') :=
  ⟨⟨rfl, rfl, rfl, rfl, rfl, fun _ _ => rfl⟩, fun _ _ => rfl⟩

-- a placeholder takes no argument that is inserted elsewhere
lemma setError_eq (hd : DifferInserted lib a b str nodeList hasOutput) {n : ℕ}
    (hab : Alike E p (turns lib (some a) str nodeList hasOutput n)
      (turns lib (some b) str nodeList hasOutput n))
    (hh : halted (turns lib (some a) str nodeList hasOutput n) = false)
    (hp : AtPlaceholder (turns lib (some a) str nodeList hasOutput n)) :
    setError lib (some a) (turns lib (some a) str nodeList hasOutput n) =
      setError lib (some b) (turns lib (some b) str nodeList hasOutput n) := by
  have hs := scanning_of_not_halted hh
  have notInserted : ¬AtInserted (turns lib (some a) str nodeList hasOutput n) := by
    rintro ⟨hm, -⟩
    exact absurd (hm.2.1.symm.trans hp.2.1) (by decide)
  have hsame : a[(turns lib (some a) str nodeList hasOutput n).index]? =
      b[(turns lib (some a) str nodeList hasOutput n).index]? := by
    by_contra hne
    rcases hd _ hne with ⟨m, ⟨hlive, hi, hidx⟩ | ⟨hlive, hi, hidx⟩⟩
    · obtain rfl := takes_unique rfl hlive hh (Or.inl hi.1) (Or.inr hp) hidx
      exact notInserted hi
    · have htakes := (hab.takes hs).mp (Or.inr hp)
      obtain rfl := takes_unique rfl hlive (hab.halted ▸ hh) (Or.inl hi.1) htakes (hidx.trans hab.index)
      exact notInserted ((hab.inserted hs).mpr hi)
  rw [setError, setError, Scan.nextArg, Scan.nextArg, retrieveEntry, retrieveEntry, ← hab.rest,
    ← hab.index, Option.bind_some, Option.bind_some, hsame]

section Scans

variable (hE : lib.chars = E) (hl : AppendsText lib)
  (hd : DifferInserted lib a b str nodeList hasOutput) (hadj : NoAdjacent E str)
  (hfix : SingleByte E ∨ NoEscapeBehind E str)
include hE hl hd hadj hfix

-- the scan of the text alone, with nothing for every argument
lemma turns_alike (n : ℕ) :
    Alike E (SplitsAlike E str n) (turns lib (some a) str nodeList hasOutput n)
      (turns lib (some b) str nodeList hasOutput n) ∧
    (halted (turns lib (some a) str nodeList hasOutput n) = true ∨
      places lib (some a) str nodeList hasOutput n = places lib (some b) str nodeList hasOutput n ∧
      Alike E (SplitsAlike E str n) (turns lib (some a) str nodeList hasOutput n)
        (turns (letterLib E) (some []) str [] false n)) := by
  induction n with
  | zero => exact ⟨alike_start _ _ _ _, Or.inr ⟨rfl, alike_start _ _ _ _⟩⟩
  | succ n ih =>
    obtain ⟨hab, hblank⟩ := ih
    have hnext := turns_succ lib (some a) str nodeList hasOutput n
    have hnext' := turns_succ lib (some b) str nodeList hasOutput n
    have hnext'' := turns_succ (letterLib E) (some []) str [] false n
    by_cases hh : halted (turns lib (some a) str nodeList hasOutput n) = true
    · rw [if_pos hh] at hnext
      rw [if_pos (hab.halted ▸ hh)] at hnext'
      rw [hnext, hnext']
      exact ⟨hab.mono SplitsAlike.of_succ, Or.inl hh⟩
    obtain ⟨hplaces, hblank⟩ := hblank.resolve_left hh
    rw [if_neg hh] at hnext
    rw [if_neg (hab.halted ▸ hh)] at hnext'
    rw [if_neg (hblank.halted ▸ hh)] at hnext''
    rw [Bool.not_eq_true] at hh
    have hs := scanning_of_not_halted hh
    have hmarker : AtInserted (turns lib (some a) str nodeList hasOutput n) →
        peek ((turns lib (some a) str nodeList hasOutput n).rest.drop 2) ≠ '%' ∧
          (SplitsAlike E str (n + 1) → ∀ u, E.extra u = 0) := by
      intro hi
      have hi' := (hblank.inserted hs).mp hi
      rw [hblank.rest]
      refine ⟨hadj n (hblank.halted ▸ hh) hi', ?_⟩
      rintro (hone | hnone)
      · exact hone
      · exact absurd hi' (hnone n (Nat.lt_succ_self n))
    have hescape : AtEscape (turns lib (some a) str nodeList hasOutput n) →
        SplitsAlike E str (n + 1) := by
      intro he
      have he' := hblank.escape.mp he
      rcases hfix with hone | hnone
      · exact Or.inl hone
      · right
        intro m hm hi
        rcases Nat.lt_succ_iff_lt_or_eq.mp hm with hlt | rfl
        · exact hnone m n hlt (hblank.halted ▸ hh) hi he'
        · exact absurd (hi.1.2.1.symm.trans he'.2.1) (by decide)
    have hab := hab.mono fun h : SplitsAlike E str (n + 1) => h.of_succ
    have hblank := hblank.mono fun h : SplitsAlike E str (n + 1) => h.of_succ
    have hstep := hab.step rfl rfl hE hE hh hl hl
      ⟨hmarker, hescape, fun hp => by rw [setError_eq hd hab hh hp]⟩
    have hspliced : places lib (some a) str nodeList hasOutput (n + 1) =
        places lib (some b) str nodeList hasOutput (n + 1) := by
      rw [places, places, hnext, hnext', hstep.rest, hplaces, splicedPlaces_alike hE hE hab hescape]
    rw [← hnext, ← hnext'] at hstep
    refine ⟨hstep, ?_⟩
    by_cases hfail : AtPlaceholder (turns lib (some a) str nodeList hasOutput n) ∧
        (setError lib (some a) (turns lib (some a) str nodeList hasOutput n)).isSome = true
    · left
      obtain ⟨hp, he⟩ := hfail
      obtain ⟨e, he⟩ := Option.isSome_iff_exists.mp he
      rw [hnext]
      exact halted_of_stopped (status_setError hp he)
    · right
      refine ⟨hspliced, ?_⟩
      rw [hnext, hnext'']
      refine hblank.step rfl rfl hE rfl hh hl (letterLib_appends E) ⟨hmarker, hescape, fun hp => ?_⟩
      rw [not_and, Bool.not_eq_true] at hfail
      rw [hfail hp]
      rfl

lemma founds_eq :
    founds lib str nodeList hasOutput (some a) = founds lib str nodeList hasOutput (some b) := by
  have heq : (fun n => foundAt (turns lib (some a) str nodeList hasOutput n)
      (places lib (some a) str nodeList hasOutput n)) =
      fun n => foundAt (turns lib (some b) str nodeList hasOutput n)
        (places lib (some b) str nodeList hasOutput n) := by
    funext n
    obtain ⟨hab, hend | ⟨hplaces, -⟩⟩ := turns_alike hE hl hd hadj hfix n
    · rw [foundAt_halted hend, foundAt_halted (hab.halted ▸ hend)]
    · rw [foundAt_congr hab, hplaces]
  rw [founds, founds, heq]

end Scans

end Independence

section Arguments

variable (i : ℕ) {j : ℕ}

-- nothing for every argument up to `i`, and the same with a number for `i`
def blanks : List QoreValue := List.replicate (i + 1) .nothing

def numberAt : List QoreValue := List.replicate i .nothing ++ [.int 0]

lemma retrieveEntry_blanks : retrieveEntry (some (blanks i)) j = .nothing := by
  simp only [retrieveEntry, blanks, Option.bind_some, List.getElem?_replicate]
  split
  · rfl
  · rfl

lemma retrieveEntry_numberAt : retrieveEntry (some (numberAt i)) i = .int 0 := by
  simp [retrieveEntry, numberAt]

variable {i}

lemma retrieveEntry_numberAt_ne (hj : j ≠ i) : retrieveEntry (some (numberAt i)) j = .nothing := by
  simp only [retrieveEntry, numberAt, Option.bind_some, List.getElem?_append,
    List.length_replicate, List.getElem?_replicate]
  split
  · rfl
  · rw [List.getElem?_eq_none (by rw [List.length_singleton]; omega)]
    rfl

lemma numberAt_eq_blanks (hj : j ≠ i) : (numberAt i)[j]? = (blanks i)[j]? := by
  rw [numberAt, blanks, List.getElem?_append, List.length_replicate, List.getElem?_replicate,
    List.getElem?_replicate]
  by_cases hlt : j < i
  · rw [if_pos hlt, if_pos hlt, if_pos (by omega)]
  · rw [if_neg hlt, if_neg (by omega), List.getElem?_eq_none (by rw [List.length_singleton]; omega)]

end Arguments

section Adjacent

variable {str : Text} {n : ℕ} (hh : halted (turns (letterLib E) (some []) str [] false n) = false)
  (hi : AtInserted (turns (letterLib E) (some []) str [] false n))
include hh hi

-- an argument list that gives nothing except to the marker of turn `n`
lemma turns_upto {a : List QoreValue}
    (ha : ∀ i, i ≠ (turns (letterLib E) (some []) str [] false n).index →
      retrieveEntry (some a) i = .nothing) {m : ℕ}
    (hm : m ≤ n) :
    turns (letterLib E) (some a) str [] false m = turns (letterLib E) (some []) str [] false m := by
  induction m with
  | zero => rfl
  | succ m ih =>
    have hlive := live_of_le (Nat.le_of_lt hm) hh
    rw [turns_succ, turns_succ, ih (Nat.le_of_lt hm), if_neg (by rw [hlive]; exact Bool.false_ne_true),
      if_neg (by rw [hlive]; exact Bool.false_ne_true)]
    have hsome : (some a : Option (List QoreValue)).isSome =
        (some [] : Option (List QoreValue)).isSome := rfl
    apply step_congr hsome
    intro ht
    apply ha
    intro hidx
    have heq : m = n := takes_unique rfl hlive hh ht (Or.inl hi.1) hidx
    omega

variable {r : Text} (hr : (turns (letterLib E) (some []) str [] false n).rest.drop 2 = '%' :: r)
include hr

-- the turn behind the marker stands at the `%`, behind the text of the argument
lemma turn_behind {a : List QoreValue}
    (ha : ∀ i, i ≠ (turns (letterLib E) (some []) str [] false n).index →
      retrieveEntry (some a) i = .nothing) :
    ∃ s : Scan, turns (letterLib E) (some a) str [] false (n + 1) =
        s.moved (letter (retrieveEntry (some a) (turns (letterLib E) (some []) str [] false n).index))
          ('%' :: r) ∧
      AtCode s ∧ s.status = .scanning := by
  have hs := scanning_of_not_halted hh
  have hstep : turns (letterLib E) (some a) str [] false (n + 1) =
      step (letterLib E) (some a) (turns (letterLib E) (some []) str [] false n) := by
    rw [turns_succ, turns_upto hh hi ha le_rfl, if_neg (by rw [hh]; exact Bool.false_ne_true)]
  rw [hstep]
  generalize turns (letterLib E) (some []) str [] false n = s at hi hr hs
  have hmark : step (letterLib E) (some a) s = valueMarker (letterLib E) (some a) s := by
    rcases step_cases s with ⟨-, h⟩ | ⟨hp, -⟩ | ⟨hn, -⟩
    · exact h _ _
    · exact absurd (hi.1.2.1.symm.trans hp.2.1) (by decide)
    · exact absurd (Or.inl hi.1) hn
  have hins : inserted (letterLib E) (some a) s = some (letter (retrieveEntry (some a) s.index)) := by
    by_cases hd : peek s.rest.tail = 'd'
    · rw [inserted, if_pos hd]
      rfl
    · rw [inserted, if_neg hd, if_pos (hi.2.resolve_left hd)]
      rfl
  obtain ⟨x, l, hl⟩ : ∃ x l, s.rest = x :: l := by
    apply List.exists_cons_of_length_pos
    by_contra hn
    rw [Nat.pos_iff_ne_zero, not_not, List.length_eq_zero_iff] at hn
    rw [hn] at hr
    cases hr
  obtain ⟨y, rfl⟩ : ∃ y, l = y :: '%' :: r := by
    cases l with
    | nil =>
      rw [hl] at hr
      cases hr
    | cons y l =>
      rw [hl] at hr
      exact ⟨y, by rw [← hr]; rfl⟩
  refine ⟨s.tookArg (some a), ?_, hi.1.1, hs⟩
  rw [hmark, valueMarker_inserted hins,
    Scan.replaceMarker_eq (s := s.tookArg (some a)) hl (letter_no_nul _)]

omit hh hi hr in
lemma live_moved {s : Scan} {t : Text} (hs : s.status = .scanning) :
    halted (s.moved t ('%' :: r)) = false := by
  rw [halted, Scan.moved_status, hs]
  rfl

-- behind a blank the `%` is found
lemma found_blanks {i : ℕ} :
    ∃ k, ⟨(places (letterLib E) (some (blanks i)) str [] false (n + 1)).head?, k⟩ ∈
      founds (letterLib E) str [] false (some (blanks i)) := by
  obtain ⟨u, hu, hcu, hsu⟩ := turn_behind hh hi hr (a := blanks i) fun j _ => retrieveEntry_blanks i
  rw [retrieveEntry_blanks] at hu
  have hlive : halted (turns (letterLib E) (some (blanks i)) str [] false (n + 1)) = false := by
    rw [hu]
    exact live_moved hsu
  have hshort := rest_add_le hlive
  have hmark : AtMarker (u.moved (letter .nothing) ('%' :: r)) := ⟨hcu, rfl, rfl⟩
  refine ⟨u.index, List.mem_filterMap.mpr ⟨n + 1, List.mem_range.mpr (by omega), ?_⟩⟩
  rw [hu, foundAt, if_pos ⟨live_moved hsu, Or.inl hmark⟩]
  rfl

-- behind a letter it is not
lemma found_numberAt {i k : ℕ} (hidx : (turns (letterLib E) (some []) str [] false n).index = i) :
    ⟨(places (letterLib E) (some (numberAt i)) str [] false (n + 1)).head?, k⟩ ∉
      founds (letterLib E) str [] false (some (numberAt i)) := by
  intro hfound
  obtain ⟨v, hv, hcv, hsv⟩ := turn_behind hh hi hr (a := numberAt i) fun j hj =>
    retrieveEntry_numberAt_ne (by rwa [hidx] at hj)
  rw [hidx, retrieveEntry_numberAt] at hv
  have hlive : halted (turns (letterLib E) (some (numberAt i)) str [] false (n + 1)) = false := by
    rw [hv]
    exact live_moved hsv
  obtain ⟨m, -, hm⟩ := List.mem_filterMap.mp hfound
  rw [foundAt] at hm
  split at hm
  · rename_i htakes
    have hplace := congrArg Found.place (Option.some.inj hm)
    have heq : m = n + 1 := by
      rcases lt_trichotomy m (n + 1) with hlt | heq | hgt
      · exact absurd hplace (place_ne hlt hlive)
      · exact heq
      · exact absurd hplace.symm (place_ne hgt htakes.1)
    rw [heq, hv] at htakes
    rcases htakes.2 with hmark | hplace
    · have hbefore : true = false := hmark.2.2
      cases hbefore
    · have hcolon : '%' = ':' := hplace.2.1
      exact absurd hcolon (by decide)
  · cases hm

omit hr in
lemma differ_numberAt {i : ℕ} (hidx : (turns (letterLib E) (some []) str [] false n).index = i) :
    DifferInserted (letterLib E) (numberAt i) (blanks i) str [] false := by
  intro j hne
  refine ⟨n, Or.inl ?_⟩
  rw [turns_upto hh hi (fun k hk => retrieveEntry_numberAt_ne (by rwa [hidx] at hk)) le_rfl]
  refine ⟨hh, hi, hidx.trans ?_⟩
  by_contra hij
  exact hne (numberAt_eq_blanks (Ne.symm hij))

-- the `%` has the same place in both scans
lemma places_behind {i : ℕ} (hidx : (turns (letterLib E) (some []) str [] false n).index = i) :
    places (letterLib E) (some (numberAt i)) str [] false (n + 1) =
      places (letterLib E) (some (blanks i)) str [] false (n + 1) := by
  have hnumber : ∀ j, j ≠ (turns (letterLib E) (some []) str [] false n).index →
      retrieveEntry (some (numberAt i)) j = .nothing := fun j hj =>
    retrieveEntry_numberAt_ne (by rwa [hidx] at hj)
  have hblank : ∀ j, j ≠ (turns (letterLib E) (some []) str [] false n).index →
      retrieveEntry (some (blanks i)) j = .nothing := fun j _ => retrieveEntry_blanks i
  have hsame : ∀ m ≤ n, turns (letterLib E) (some (numberAt i)) str [] false m =
      turns (letterLib E) (some (blanks i)) str [] false m := fun m hm =>
    (turns_upto hh hi hnumber hm).trans (turns_upto hh hi hblank hm).symm
  obtain ⟨u, hu, -⟩ := turn_behind hh hi hr hnumber
  obtain ⟨v, hv, -⟩ := turn_behind hh hi hr hblank
  rw [places, places, places_congr hsame, hsame n le_rfl, hu, hv, Scan.moved_rest, Scan.moved_rest]

lemma markers_differ : ¬MarkersIndependent E str := by
  intro hind
  obtain ⟨k, hfound⟩ :=
    found_blanks hh hi hr (i := (turns (letterLib E) (some []) str [] false n).index)
  have hlen : (numberAt (turns (letterLib E) (some []) str [] false n).index).length =
      (blanks (turns (letterLib E) (some []) str [] false n).index).length := by simp [numberAt, blanks]
  rw [← hind (letterLib E) _ _ [] false rfl (letterLib_appends E) hlen (differ_numberAt hh hi rfl),
    ← places_behind hh hi hr rfl] at hfound
  exact found_numberAt hh hi hr rfl hfound

end Adjacent

/-- What is found in a text does not depend on the inserted values where no `%` comes directly after
a marker whose value is inserted and, unless each byte is a character, no escape comes after one. The
first condition is needed in every encoding. -/
theorem markersIndependent_noAdjacent (E : CharSplit Char Ascii) (str : Text) :
    (MarkersIndependent E str → NoAdjacent E str) ∧
    (NoAdjacent E str → SingleByte E ∨ NoEscapeBehind E str → MarkersIndependent E str) := by
  constructor
  · intro hind n hh hi hp
    obtain ⟨r, hr⟩ := MarkerTokens.cons_of_peek hp (by decide)
    exact markers_differ hh hi hr hind
  · intro hadj hfix lib a b nodeList hasOutput hE hl _ hd
    exact founds_eq hE hl hd hadj hfix

/-- The second marker of `%s%v` is found after a blank and not after a letter. -/
theorem not_markersIndependent_adjacent : ¬MarkersIndependent utf8Chars "%s%v".toList :=
  markers_differ (n := 0) rfl ⟨⟨⟨rfl, rfl⟩, rfl, rfl⟩, Or.inr rfl⟩ rfl

end OracleDriver.ParseQuery
