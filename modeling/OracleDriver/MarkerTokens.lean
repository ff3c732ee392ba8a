import OracleDriver.BindNode

/-! A left-to-right tokenizer for SQL texts with value markers and placeholders. -/

namespace OracleDriver.MarkerTokens

open OraBindNode

inductive Token where
  | quoted (text : Text)
  | comment (text : Text)
  | marker
  | placeholder (name : Text)
  | stray
  | escape
  | plain (c : Char)
deriving DecidableEq, Repr

def Token.text : Token → Text
  | quoted t => t
  | comment t => t
  | marker => ['%', 'v']
  | placeholder name => ':' :: name
  | stray => ['%']
  | escape => ['\\']
  | plain c => [c]

-- the remainder of a literal after its opening quote, where two quotes stand for one
def literalBody : Text → Text
  | '\'' :: '\'' :: r => '\'' :: '\'' :: literalBody r
  | '\'' :: _ => ['\'']
  | c :: r => c :: literalBody r
  | [] => []

def identifierBody : Text → Text
  | [] => []
  | c :: r => if c = '"' then [c] else c :: identifierBody r

def lineBody : Text → Text
  | [] => []
  | c :: r => if c = '\n' ∨ c = '\r' then [c] else c :: lineBody r

def blockBody : Text → Text
  | [] => []
  | c :: r => if c = '*' ∧ peek r = '/' then ['*', '/'] else c :: blockBody r

def afterAlnum (prev : Option Char) : Bool := (prev.map Char.isAlphanum).getD false

def nextToken (prev : Option Char) (c : Char) (r : Text) : Token :=
  if c = '\'' then .quoted (c :: literalBody r)
  else if c = '"' then .quoted (c :: identifierBody r)
  else if c = '-' ∧ peek r = '-' then .comment (c :: '-' :: lineBody r.tail)
  else if c = '/' ∧ peek r = '*' then .comment (c :: '*' :: blockBody r.tail)
  else if c = '%' ∧ afterAlnum prev = false then
    if peek r = 'v' ∧ (peek r.tail).isAlpha = false then .marker else .stray
  else if c = ':' ∧ (peek r).isAlpha then .placeholder (r.takeWhile isNameChar)
  else if c = '\\' ∧ (peek r = ':' ∨ peek r = '%') then .escape
  else .plain c

def tokensFrom : ℕ → Option Char → Text → List Token
  | 0, _, _ => []
  | _, _, [] => []
  | n + 1, prev, c :: r =>
    let t := nextToken prev c r
    t :: tokensFrom n t.text.getLast? ((c :: r).drop t.text.length)

def tokens (sql : Text) : List Token := tokensFrom sql.length none sql

lemma literalBody_prefix (r : Text) : literalBody r <+: r := by
  induction r using literalBody.induct with
  | case1 r ih => simpa only [literalBody, List.cons_prefix_cons, true_and] using ih
  | case2 r hn =>
    cases r with
    | nil => exact List.prefix_refl _
    | cons c r =>
      have hc : c ≠ '\'' := fun e => hn r (by rw [e])
      simp [literalBody]
  | case3 c r hn hc ih => simpa [literalBody, hc] using ih
  | case4 => exact List.prefix_refl _

lemma identifierBody_prefix (r : Text) : identifierBody r <+: r := by
  induction r with
  | nil => exact List.prefix_refl _
  | cons c r ih =>
    rw [identifierBody]
    split
    · simp
    · simpa only [List.cons_prefix_cons, true_and] using ih

lemma lineBody_prefix (r : Text) : lineBody r <+: r := by
  induction r with
  | nil => exact List.prefix_refl _
  | cons c r ih =>
    rw [lineBody]
    split
    · simp
    · simpa only [List.cons_prefix_cons, true_and] using ih

lemma cons_of_peek {r : Text} {c : Char} (h : peek r = c) (hc : c ≠ '\x00') : ∃ r', r = c :: r' := by
  cases r with
  | nil => exact absurd h.symm hc
  | cons d r => exact ⟨r, by rw [← h]; rfl⟩

lemma blockBody_prefix (r : Text) : blockBody r <+: r := by
  induction r with
  | nil => exact List.prefix_refl _
  | cons c r ih =>
    rw [blockBody]
    split
    · rename_i h
      obtain ⟨r, rfl⟩ := cons_of_peek h.2 (by decide)
      simp [h.1]
    · simpa only [List.cons_prefix_cons, true_and] using ih

lemma nextToken_prefix (prev : Option Char) (c : Char) (r : Text) :
    (nextToken prev c r).text <+: c :: r := by
  unfold nextToken
  split
  · simpa only [Token.text, List.cons_prefix_cons, true_and] using literalBody_prefix r
  split
  · simpa only [Token.text, List.cons_prefix_cons, true_and] using identifierBody_prefix r
  split
  · rename_i h
    obtain ⟨r, rfl⟩ := cons_of_peek h.2 (by decide)
    simpa only [Token.text, List.cons_prefix_cons, true_and, List.tail_cons] using lineBody_prefix r
  split
  · rename_i h
    obtain ⟨r, rfl⟩ := cons_of_peek h.2 (by decide)
    simpa only [Token.text, List.cons_prefix_cons, true_and, List.tail_cons] using blockBody_prefix r
  split
  · rename_i h
    split
    · rename_i h'
      obtain ⟨r, rfl⟩ := cons_of_peek h'.1 (by decide)
      simp [Token.text, h.1]
    · simp [Token.text, h.1]
  split
  · rename_i h
    simpa only [Token.text, List.cons_prefix_cons, h.1, true_and] using List.takeWhile_prefix _
  split
  · rename_i h
    simp [Token.text, h.1]
  · simp [Token.text]

lemma nextToken_text_ne_nil (prev : Option Char) (c : Char) (r : Text) :
    (nextToken prev c r).text ≠ [] := by
  unfold nextToken
  split_ifs <;> simp only [Token.text, ne_eq, reduceCtorEq, not_false_eq_true]

lemma nextToken_eq_marker {prev : Option Char} {c : Char} {r : Text} (h : nextToken prev c r = .marker) :
    c = '%' ∧ afterAlnum prev = false ∧ peek r = 'v' ∧ (peek r.tail).isAlpha = false := by
  unfold nextToken at h
  split_ifs at h with _ _ _ _ h1 h2
  exact ⟨h1.1, h1.2, h2⟩

lemma nextToken_eq_placeholder {prev : Option Char} {c : Char} {r name : Text}
    (h : nextToken prev c r = .placeholder name) :
    c = ':' ∧ (peek r).isAlpha = true ∧ name = r.takeWhile isNameChar := by
  unfold nextToken at h
  split_ifs at h with _ _ _ _ h1 h2 h3
  exact ⟨h3.1, h3.2, (Token.placeholder.inj h).symm⟩

-- the tokens are the text cut in pieces
lemma tokensFrom_text (n : ℕ) (prev : Option Char) (r : Text) (h : r.length ≤ n) :
    (tokensFrom n prev r).flatMap Token.text = r := by
  induction n generalizing prev r with
  | zero =>
    obtain rfl := List.eq_nil_of_length_eq_zero (Nat.le_zero.mp h)
    rfl
  | succ n ih =>
    cases r with
    | nil => rfl
    | cons c r =>
      obtain ⟨q, hq⟩ := nextToken_prefix prev c r
      have hl := List.length_pos_iff.mpr (nextToken_text_ne_nil prev c r)
      have hd : (c :: r).drop (nextToken prev c r).text.length = q := by rw [← hq, List.drop_left]
      have hlen := congrArg List.length hq
      simp only [List.length_append] at hlen
      simp only [tokensFrom, List.flatMap_cons, hd]
      rw [ih _ _ (by omega), hq]

lemma tokens_text (sql : Text) : (tokens sql).flatMap Token.text = sql := tokensFrom_text _ _ _ le_rfl

def Token.supported : Token → Bool
  | stray | escape => false
  | _ => true

def Token.isPlaceholder : Token → Bool
  | placeholder _ => true
  | _ => false

-- the text with the markers replaced, when `j` nodes stand before the first of the items
def render : ℕ → List Token → Text
  | _, [] => []
  | j, .marker :: ts => markerName j ++ render (j + 1) ts
  | j, .placeholder name :: ts => ':' :: name ++ render (j + 1) ts
  | j, t :: ts => t.text ++ render j ts

variable (lib : QoreLib) (args : Option (List QoreValue))

def placeholderNode (k : ℕ) (name : Text) : OraBindNode × Option Exn :=
  describePlaceholder lib (retrieveEntry args k) (ofPlaceholder name (-1) none .nothing)

-- the nodes of the items, when `k` items stand before the first of them
def created : ℕ → List Token → List OraBindNode
  | _, [] => []
  | k, .marker :: ts => ofValue (retrieveEntry args k) :: created (k + 1) ts
  | k, .placeholder name :: ts => (placeholderNode lib args k name).1 :: created (k + 1) ts
  | k, _ :: ts => created k ts

def Settable : ℕ → List Token → Prop
  | _, [] => True
  | k, .marker :: ts => Settable (k + 1) ts
  | k, .placeholder name :: ts => (placeholderNode lib args k name).2 = none ∧ Settable (k + 1) ts
  | k, _ :: ts => Settable k ts

section Same

variable {lib args} {t : Token} {ts : List Token} (hm : t ≠ .marker) (hp : t.isPlaceholder = false)
include hm hp

lemma render_same (j : ℕ) : render j (t :: ts) = t.text ++ render j ts := by
  cases t with
  | marker => exact absurd rfl hm
  | placeholder name =>
    exact absurd hp (by simp only [Token.isPlaceholder, Bool.true_eq_false, not_false_eq_true])
  | _ => rfl

lemma created_same (k : ℕ) : created lib args k (t :: ts) = created lib args k ts := by
  cases t with
  | marker => exact absurd rfl hm
  | placeholder name =>
    exact absurd hp (by simp only [Token.isPlaceholder, Bool.true_eq_false, not_false_eq_true])
  | _ => rfl

lemma settable_same (k : ℕ) : Settable lib args k (t :: ts) ↔ Settable lib args k ts := by
  cases t with
  | marker => exact absurd rfl hm
  | placeholder name =>
    exact absurd hp (by simp only [Token.isPlaceholder, Bool.true_eq_false, not_false_eq_true])
  | _ => rfl

end Same

end OracleDriver.MarkerTokens
