import OracleDriver.Rows

/-! What a fetch does when a value cannot be converted. -/

namespace OracleDriver

namespace FetchErrors

-- what is asked for: a further row with OCIStmtFetch2(), or the value of a column of the row
inductive Request where
  | row
  | value (i j : ℕ)
deriving DecidableEq, Repr

-- the conversions, qore_check_cancel() after so many requests, and the exception that takes the
-- place of OCI_NO_DATA
structure Client (C V : Type) where
  getValue : FetchForm → C → Except Exn V
  checkCancel : ℕ → Option Exn
  atEnd : Option Exn

structure State (A : Type) where
  acc : A
  xsink : List Exn
  requests : List Request

namespace State

variable {A : Type}

def start (acc : A) : State A := ⟨acc, [], []⟩

def request (q : Request) (s : State A) : State A := { s with requests := s.requests ++ [q] }

def raise (e : Exn) (s : State A) : State A := { s with xsink := s.xsink ++ [e] }

def raises (e : Option Exn) (s : State A) : State A := { s with xsink := s.xsink ++ e.toList }

end State

variable {C V A R : Type} (form : FetchForm) (u : Client C V)

def cancelRow (i : ℕ) (s : State A) : Option Exn :=
  if form.checksRows ∧ i % 100 = 0 then u.checkCancel s.requests.length else none

def cancelColumn (j : ℕ) (s : State A) : Option Exn :=
  if form.checksColumns ∧ j ≠ 0 ∧ j % 100 = 0 then u.checkCancel s.requests.length else none

-- the columns of row `i` from `j` on, until an exception is there
def convert (i : ℕ) : ℕ → List C → State A → Option (List V) × State A
  | _, [], s => (some [], s)
  | j, x :: xs, s =>
    match cancelColumn form u j s with
    | some e => (none, s.raise e)
    | none =>
      let s := s.request (.value i j)
      match u.getValue form x with
      | .error e => (none, s.raise e)
      | .ok v =>
        if s.xsink ≠ [] then (none, s)
        else
          let (vs, s) := convert i (j + 1) xs s
          (vs.map (v :: ·), s)

-- a row that is not complete ends fetchRows() and fetchColumnar(), and in fetchColumns() only the
-- loop over the columns
def loop (f : Fetcher V A R) (rows : ℤ) : ℕ → List (List C) → State A → ℕ × List (List C) × State A
  | num, [], s => (num, [], (s.request .row).raises u.atEnd)
  | num, row :: left, s =>
    let s := s.request .row
    match cancelRow form u num s with
    | some e => (num, left, s.raise e)
    | none =>
      let (vs, s) := convert form u num 0 row s
      let s := match vs with
        | some vs => { s with acc := f.add s.acc vs }
        | none => s
      if form ≠ .columns ∧ vs.isNone then (num, left, s)
      else if 0 < rows ∧ (num : ℤ) + 1 = rows then (num + 1, left, s)
      else loop f rows (num + 1) left s

structure Fetched (C R : Type) where
  result : Option R
  xsink : List Exn
  requests : List Request
  cursor : Cursor C

-- the first row sets fetch_done
def fetch (f : Fetcher V A R) (rows : ℤ) (c : Cursor C) : Fetched C R :=
  if c.fetchWarned then ⟨none, [f.warned], [], c⟩
  else if c.fetchComplete then ⟨some f.empty, [], [], { c with fetchWarned := true }⟩
  else
    let (num, left, s) := loop form u f rows 0 c.left (.start f.start)
    if s.xsink = [] then ⟨some (f.finish s.acc), [], s.requests, ⟨left, true, (num : ℤ) < rows, false⟩⟩
    else ⟨none, s.xsink, s.requests, { c with left := left, fetchDone := c.fetchDone || !c.left.isEmpty }⟩

variable (names : List Text)

-- QoreOracleStatement::fetchRows()
def fetchRows (rows : ℤ) (c : Cursor C) : Fetched C (List (Hash V)) :=
  fetch .rows u (OracleDriver.fetchRows names fun _ v => v) rows c

-- QoreOracleStatement::fetchColumns()
def fetchColumns (cols : Bool) (rows : ℤ) (c : Cursor C) : Fetched C (Hash (List V)) :=
  fetch .columns u (OracleDriver.fetchColumns names (fun _ v => v) cols) rows c

-- QoreOracleStatement::fetchColumnar()
def fetchColumnar (rows : ℤ) (c : Cursor C) : Fetched C (Hash (List V)) :=
  fetch .columnar u (OracleDriver.fetchColumnar names fun _ v => v) rows c

-- a fetch comes to a value that cannot be converted, in row `r` and column `c` of what is left, and
-- no one before it
structure FirstError (rows : ℤ) (left : Cursor C) (r c : ℕ) (e : Exn) : Prop where
  fetches : left.fetchWarned = false ∧ left.fetchComplete = false
  reached : rows ≤ 0 ∨ (r : ℤ) < rows
  error : ∃ row x, left.left[r]? = some row ∧ row[c]? = some x ∧ u.getValue form x = .error e
  before : ∀ i j row x, left.left[i]? = some row → row[j]? = some x → i < r ∨ i = r ∧ j < c →
    ∃ v, u.getValue form x = .ok v

-- the error is the only one, no value behind it is converted, and no row behind its row is requested
structure Stops (x : Fetched C R) (r c : ℕ) (e : Exn) : Prop where
  raised : x.xsink = [e]
  values : ∀ i j, .value i j ∈ x.requests → i < r ∨ i = r ∧ j ≤ c
  rows : x.requests.count .row = r + 1

structure ConversionStops (cols : Bool) (rows : ℤ) (left : Cursor C) : Prop where
  forRows : ∀ r c e, FirstError .rows u rows left r c e → Stops (fetchRows u names rows left) r c e
  forColumns : ∀ r c e, FirstError .columns u rows left r c e →
    Stops (fetchColumns u names cols rows left) r c e
  forColumnar : ∀ r c e, FirstError .columnar u rows left r c e →
    Stops (fetchColumnar u names rows left) r c e

variable {form u} {i j k : ℕ} {s : State A} {e : Exn}

-- the requests for `k` values from column `j` on
def asked (i j k : ℕ) (s : State A) : State A :=
  { s with requests := s.requests ++ (List.range' j k).map (Request.value i) }

lemma asked_succ (i j k : ℕ) (s : State A) :
    asked i (j + 1) k (s.request (.value i j)) = asked i j (k + 1) s := by
  simp [asked, State.request, List.range'_succ]

section Row

variable (hcancel : ∀ n, u.checkCancel n = none)
include hcancel

lemma cancelColumn_none (j : ℕ) (s : State A) : cancelColumn form u j s = none := by
  rw [cancelColumn, hcancel, ite_self]

lemma cancelRow_none (i : ℕ) (s : State A) : cancelRow form u i s = none := by
  rw [cancelRow, hcancel, ite_self]

lemma convert_ok {xs : List C} (hs : s.xsink = []) (h : ∀ x ∈ xs, ∃ v, u.getValue form x = .ok v) :
    ∃ vs, convert form u i j xs s = (some vs, asked i j xs.length s) := by
  induction xs generalizing j s with
  | nil => exact ⟨[], by simp [convert, asked]⟩
  | cons x xs ih =>
    obtain ⟨⟨v, hv⟩, hrest⟩ := List.forall_mem_cons.mp h
    obtain ⟨vs, hvs⟩ := ih (j := j + 1) (s := s.request (.value i j)) hs hrest
    rw [asked_succ] at hvs
    refine ⟨v :: vs, ?_⟩
    have hs' : (s.request (.value i j)).xsink = [] := hs
    rw [convert, cancelColumn_none hcancel]
    simp only [hv, hs', hvs, ne_eq, not_true_eq_false, if_false]
    rfl

lemma convert_error {xs : List C} {x : C} (hs : s.xsink = []) (hx : xs[k]? = some x)
    (he : u.getValue form x = .error e)
    (h : ∀ m y, xs[m]? = some y → m < k → ∃ v, u.getValue form y = .ok v) :
    convert form u i j xs s = (none, (asked i j (k + 1) s).raise e) := by
  induction xs generalizing j k s with
  | nil => cases hx
  | cons y xs ih =>
    cases k with
    | zero =>
      obtain rfl : y = x := Option.some.inj hx
      rw [convert, cancelColumn_none hcancel]
      simp only [he]
      rw [← asked_succ]
      simp [asked]
    | succ k =>
      obtain ⟨v, hv⟩ := h 0 y rfl (Nat.succ_pos k)
      have hs' : (s.request (.value i j)).xsink = [] := hs
      have hrest := ih (j := j + 1) (s := s.request (.value i j)) hs hx fun m z hz hm =>
        h (m + 1) z hz (Nat.succ_lt_succ hm)
      rw [asked_succ] at hrest
      rw [convert, cancelColumn_none hcancel]
      simp only [hv, hs', hrest, ne_eq, not_true_eq_false, if_false]
      rfl

end Row

-- after `num` complete rows
structure Clean (num : ℕ) (s : State A) : Prop where
  xsink : s.xsink = []
  rows : s.requests.count .row = num
  values : ∀ i j, .value i j ∈ s.requests → i < num

lemma count_asked (i j k : ℕ) (s : State A) :
    (asked i j k s).requests.count .row = s.requests.count .row := by
  simp [asked, List.count_eq_zero]

lemma mem_asked {q : Request} : q ∈ (asked i j k s).requests ↔ q ∈ s.requests ∨ ∃ m, j ≤ m ∧
    m < j + k ∧ q = .value i m := by
  simp only [asked, List.mem_append, List.mem_map, List.mem_range'_1]
  apply or_congr_right
  exact ⟨fun ⟨m, hm, h⟩ => ⟨m, hm.1, hm.2, h.symm⟩, fun ⟨m, hj, hk, h⟩ => ⟨m, ⟨hj, hk⟩, h.symm⟩⟩

lemma count_request (s : State A) :
    (s.request .row).requests.count .row = s.requests.count .row + 1 := by
  simp [State.request]

lemma mem_request : Request.value i j ∈ (s.request .row).requests ↔ .value i j ∈ s.requests := by
  simp [State.request]

lemma Clean.row {num : ℕ} (h : Clean num s) (k : ℕ) (a : A) :
    Clean (num + 1) { asked num 0 k (s.request .row) with acc := a } where
  xsink := h.xsink
  rows := by
    have hcount := count_asked num 0 k (s.request .row)
    rw [count_request, h.rows] at hcount
    exact hcount
  values i j hm := by
    rcases mem_asked.mp hm with hold | ⟨m, -, -, hnew⟩
    · have hlt := h.values i j (mem_request.mp hold)
      omega
    · cases hnew
      exact Nat.lt_succ_self _

section Loop

variable {f : Fetcher V A R} {rows : ℤ} {num : ℕ} {left : List (List C)}

variable (form u) in
lemma convert_rows (i j : ℕ) (xs : List C) (s : State A) :
    (convert form u i j xs s).2.requests.count .row = s.requests.count .row := by
  induction xs generalizing j s with
  | nil => rfl
  | cons x xs ih =>
    have hcount : (s.request (.value i j)).requests.count .row = s.requests.count .row := by
      simp [State.request]
    rw [convert]
    split
    · rfl
    · dsimp only
      split
      · exact hcount
      · split
        · exact hcount
        · exact (ih (j + 1) _).trans hcount

variable (form u f rows) in
lemma loop_requests (num : ℕ) (left : List (List C)) (s : State A) :
    s.requests.count .row < (loop form u f rows num left s).2.2.requests.count .row := by
  induction left generalizing num s with
  | nil =>
    have hcount := count_request s
    rw [loop]
    exact Nat.lt_of_lt_of_eq (Nat.lt_succ_self _) hcount.symm
  | cons row left ih =>
    have hcount := count_request s
    have hrow := convert_rows form u num 0 row (s.request .row)
    rw [loop]
    generalize convert form u num 0 row (s.request .row) = r at hrow ⊢
    obtain ⟨vs, t⟩ := r
    have hpos : s.requests.count .row < t.requests.count .row := by
      rw [hrow, hcount]
      exact Nat.lt_succ_self _
    split
    · exact Nat.lt_of_lt_of_eq (Nat.lt_succ_self _) hcount.symm
    · cases vs with
      | none =>
        dsimp only
        split
        · exact hpos
        · split
          · exact hpos
          · exact hpos.trans (ih (num + 1) t)
      | some vs =>
        dsimp only
        split
        · exact hpos
        · split
          · exact hpos
          · exact hpos.trans (ih (num + 1) { t with acc := f.add t.acc vs })

variable (hcancel : ∀ n, u.checkCancel n = none)
include hcancel

variable (left) in
lemma loop_rows (pre : List (List C)) (hpre : ∀ row ∈ pre, ∀ x ∈ row, ∃ v, u.getValue form x = .ok v)
    (hblock : rows ≤ 0 ∨ (num : ℤ) + pre.length < rows) (hs : Clean num s) :
    ∃ t, Clean (num + pre.length) t ∧
      loop form u f rows num (pre ++ left) s = loop form u f rows (num + pre.length) left t := by
  induction pre generalizing num s with
  | nil => exact ⟨s, hs, rfl⟩
  | cons row pre ih =>
    obtain ⟨hrow, hrest⟩ := List.forall_mem_cons.mp hpre
    rw [List.length_cons] at hblock ⊢
    obtain ⟨vs, hvs⟩ := convert_ok hcancel (i := num) (j := 0) (s := s.request .row) hs.xsink hrow
    have hnext : ¬(0 < rows ∧ (num : ℤ) + 1 = rows) := by omega
    obtain ⟨t, ht, heq⟩ := ih hrest (by omega) (hs.row row.length (f.add s.acc vs))
    have hnum : num + (pre.length + 1) = num + 1 + pre.length := by omega
    rw [hnum]
    refine ⟨t, ht, ?_⟩
    rw [List.cons_append, loop, cancelRow_none hcancel]
    simp only [hvs, Option.isNone_some, Bool.false_eq_true, and_false, if_false, hnext]
    exact heq

lemma loop_error {row : List C} {x : C} {c : ℕ} (hs : s.xsink = []) (hx : row[c]? = some x)
    (he : u.getValue form x = .error e)
    (h : ∀ m y, row[m]? = some y → m < c → ∃ v, u.getValue form y = .ok v) :
    loop form u f rows num (row :: left) s =
      if form ≠ .columns then (num, left, (asked num 0 (c + 1) (s.request .row)).raise e)
      else if 0 < rows ∧ (num : ℤ) + 1 = rows then
        (num + 1, left, (asked num 0 (c + 1) (s.request .row)).raise e)
      else loop form u f rows (num + 1) left ((asked num 0 (c + 1) (s.request .row)).raise e) := by
  have hconvert := convert_error hcancel (i := num) (j := 0) (s := s.request .row) hs hx he h
  rw [loop, cancelRow_none hcancel]
  simp only [hconvert, Option.isNone_none, and_true]

end Loop

section Fetch

variable {f : Fetcher V A R} {rows : ℤ} {left : Cursor C} {r c : ℕ}

lemma fetch_requests (rows : ℤ) (h : left.fetchWarned = false ∧ left.fetchComplete = false)
    (form : FetchForm) :
    (fetch form u f rows left).xsink = (loop form u f rows 0 left.left (.start f.start)).2.2.xsink ∧
    (fetch form u f rows left).requests =
      (loop form u f rows 0 left.left (.start f.start)).2.2.requests := by
  rw [fetch, h.1, h.2]
  simp only [Bool.false_eq_true, if_false]
  split
  · rename_i hx
    exact ⟨hx.symm, rfl⟩
  · exact ⟨rfl, rfl⟩

variable (hcancel : ∀ n, u.checkCancel n = none)
include hcancel

-- the loop comes to the row with the error with nothing but requests
lemma fetch_error (h : FirstError form u rows left r c e) :
    ∃ (s : State A) (behind : List (List C)), Clean r s ∧
    loop form u f rows 0 left.left (.start f.start) =
      if form ≠ .columns then (r, behind, (asked r 0 (c + 1) (s.request .row)).raise e)
      else if 0 < rows ∧ (r : ℤ) + 1 = rows then
        (r + 1, behind, (asked r 0 (c + 1) (s.request .row)).raise e)
      else loop form u f rows (r + 1) behind ((asked r 0 (c + 1) (s.request .row)).raise e) := by
  obtain ⟨row, x, hrow, hx, he⟩ := h.error
  obtain ⟨hlt, hget⟩ := List.getElem?_eq_some_iff.mp hrow
  have hsplit : left.left = left.left.take r ++ row :: left.left.drop (r + 1) := by
    rw [← hget, List.cons_getElem_drop_succ, List.take_append_drop]
  have hlen : (left.left.take r).length = r := by rw [List.length_take]; omega
  have hpre : ∀ row ∈ left.left.take r, ∀ x ∈ row, ∃ v, u.getValue form x = .ok v := by
    intro row hrow x hx
    obtain ⟨i, hi⟩ := List.getElem?_of_mem hrow
    obtain ⟨j, hj⟩ := List.getElem?_of_mem hx
    have hir : i < r := by
      have hlt := (List.getElem?_eq_some_iff.mp hi).1
      rwa [hlen] at hlt
    rw [List.getElem?_take_of_lt hir] at hi
    exact h.before i j row x hi hj (Or.inl hir)
  have hstart : Clean 0 (State.start f.start) := ⟨rfl, rfl, nofun⟩
  have hblock : rows ≤ 0 ∨ ((0 : ℕ) : ℤ) + (left.left.take r).length < rows := by
    have hreached := h.reached
    rw [hlen]
    omega
  obtain ⟨s, hs, heq⟩ := loop_rows (row :: left.left.drop (r + 1)) hcancel _ hpre hblock hstart
  rw [hlen, Nat.zero_add] at hs heq
  refine ⟨s, left.left.drop (r + 1), hs, ?_⟩
  rw [hsplit, heq]
  conv_rhs => rw [← hsplit]
  exact loop_error hcancel hs.xsink hx he fun m y hy hm => h.before r m row y hrow hy (Or.inr ⟨rfl, hm⟩)

lemma stops_here (h : FirstError form u rows left r c e) (hend : form ≠ .columns ∨ (r : ℤ) + 1 = rows) :
    Stops (fetch form u f rows left) r c e := by
  obtain ⟨s, behind, hs, heq⟩ := fetch_error (f := f) hcancel h
  have hloop := fetch_requests (f := f) (u := u) rows h.fetches form
  have hstate : (loop form u f rows 0 left.left (.start f.start)).2.2 =
      (asked r 0 (c + 1) (s.request .row)).raise e := by
    rw [heq]
    by_cases hform : form = .columns
    · have hlast := hend.resolve_left (not_not.mpr hform)
      rw [if_neg (not_not.mpr hform), if_pos ⟨by omega, hlast⟩]
    · rw [if_pos hform]
  rw [hstate] at hloop
  refine ⟨?_, ?_, ?_⟩
  · rw [hloop.1]
    exact congrArg (· ++ [e]) hs.xsink
  · intro i j hm
    rw [hloop.2] at hm
    rcases mem_asked.mp hm with hold | ⟨m, -, hlt, hnew⟩
    · exact Or.inl (hs.values i j (mem_request.mp hold))
    · cases hnew
      exact Or.inr ⟨rfl, by omega⟩
  · have hcount := count_asked r 0 (c + 1) (s.request .row)
    rw [count_request, hs.rows] at hcount
    rw [hloop.2]
    exact hcount

lemma not_stops (h : FirstError .columns u rows left r c e) (hmore : (r : ℤ) + 1 ≠ rows) :
    ¬Stops (fetch .columns u f rows left) r c e := by
  intro hstops
  obtain ⟨s, behind, hs, heq⟩ := fetch_error (f := f) hcancel h
  have hloop := fetch_requests (f := f) (u := u) rows h.fetches .columns
  rw [if_neg (not_not.mpr rfl), if_neg fun hlast => hmore hlast.2] at heq
  have hlt :=
    loop_requests .columns u f rows (r + 1) behind ((asked r 0 (c + 1) (s.request .row)).raise e)
  have hcount := count_asked r 0 (c + 1) (s.request .row)
  rw [count_request, hs.rows] at hcount
  have hrows := hstops.rows
  rw [hloop.2, heq] at hrows
  have hraised : ((asked r 0 (c + 1) (s.request .row)).raise e).requests.count .row = r + 1 := hcount
  omega

end Fetch

section Converted

-- where every value is converted, a fetch is the one of the converted rows
variable {shape : C → V} (hget : ∀ x, u.getValue form x = .ok (shape x))
  (hcancel : ∀ n, u.checkCancel n = none)
include hget hcancel

lemma convert_shape (i j : ℕ) (xs : List C) {s : State A} (hs : s.xsink = []) :
    convert form u i j xs s = (some (xs.map shape), asked i j xs.length s) := by
  induction xs generalizing j s with
  | nil => simp [convert, asked]
  | cons x xs ih =>
    have hrest := ih (j + 1) (s := s.request (.value i j)) hs
    have hs' : (s.request (.value i j)).xsink = [] := hs
    rw [asked_succ] at hrest
    rw [convert, cancelColumn_none hcancel]
    simp only [hget, hs', hrest, ne_eq, not_true_eq_false, if_false]
    rfl

lemma loop_shape (hend : u.atEnd = none) (f : Fetcher V A R) (rows : ℤ) (num : ℕ)
    (left : List (List C)) {s : State A}
    (hs : s.xsink = []) : ∃ behind t, loop form u f rows num left s =
        ((Fetcher.loop f.add rows num s.acc (left.map (List.map shape))).1, behind, t) ∧ t.xsink = [] ∧
      t.acc = (Fetcher.loop f.add rows num s.acc (left.map (List.map shape))).2.1 ∧
      behind.map
        (List.map shape) = (Fetcher.loop f.add rows num s.acc (left.map (List.map shape))).2.2 := by
  induction left generalizing num s with
  | nil =>
    refine ⟨[], _, rfl, ?_, rfl, rfl⟩
    rw [hend]
    exact (List.append_nil _).trans hs
  | cons row left ih =>
    have hconvert := convert_shape hget hcancel num 0 row (s := s.request .row) hs
    rw [List.map_cons, loop, Fetcher.loop, cancelRow_none hcancel]
    simp only [hconvert, Option.isNone_some, Bool.false_eq_true, and_false, if_false]
    split
    · exact ⟨left, _, rfl, hs, rfl, rfl⟩
    · exact ih (num + 1) hs

end Converted

def mapCursor (shape : C → V) (c : Cursor C) : Cursor V :=
  ⟨c.left.map (List.map shape), c.fetchDone, c.fetchComplete, c.fetchWarned⟩

/-- A fetch without an exception is the one of the converted rows. -/
theorem fetch_converted {shape : C → V} (u : Client C V) (form : FetchForm) (f : Fetcher V A R)
    (rows : ℤ) (c : Cursor C)
    (hget : ∀ x, u.getValue form x = .ok (shape x)) (hcancel : ∀ n, u.checkCancel n = none)
    (hend : u.atEnd = none) :
    (fetch form u f rows c).result = (f.call rows (mapCursor shape c)).1.toOption ∧
      mapCursor shape (fetch form u f rows c).cursor = (f.call rows (mapCursor shape c)).2 := by
  have hwarned : (mapCursor shape c).fetchWarned = c.fetchWarned := rfl
  have hcomplete : (mapCursor shape c).fetchComplete = c.fetchComplete := rfl
  have hrows : (mapCursor shape c).left = c.left.map (List.map shape) := rfl
  rw [fetch, Fetcher.call, hwarned, hcomplete, hrows]
  by_cases hw : c.fetchWarned = true
  · rw [if_pos hw, if_pos hw]
    exact ⟨rfl, rfl⟩
  by_cases hc : c.fetchComplete = true
  · rw [if_neg hw, if_pos hc, if_neg hw, if_pos hc]
    exact ⟨rfl, rfl⟩
  obtain ⟨behind, t, hloop, hxsink, hacc, hleft⟩ :=
    loop_shape hget hcancel hend f rows 0 c.left (s := .start f.start) rfl
  rw [if_neg hw, if_neg hc, if_neg hw, if_neg hc]
  simp only [hloop, hxsink, if_true]
  have hstart : (State.start f.start).acc = f.start := rfl
  rw [hstart] at hacc hleft
  refine ⟨?_, ?_⟩
  · rw [hacc]
    rfl
  · rw [mapCursor, hleft]
    rfl

/-- A value that cannot be converted ends all fetches if and only if the one that ends a fetch of
columns is in the last row of the block. -/
theorem conversionStops_iff (u : Client C V) (names : List Text) (cols : Bool) (rows : ℤ)
    (left : Cursor C)
    (hcancel : ∀ n, u.checkCancel n = none) : ConversionStops u names cols rows left ↔
      ∀ r c e, FirstError .columns u rows left r c e → (r : ℤ) + 1 = rows := by
  constructor
  · intro hstops r c e h
    by_contra hmore
    exact not_stops hcancel h hmore (hstops.forColumns r c e h)
  · intro hlast
    refine ⟨?_, ?_, ?_⟩
    · exact fun r c e h => stops_here hcancel h (Or.inl nofun)
    · exact fun r c e h => stops_here hcancel h (Or.inr (hlast r c e h))
    · exact fun r c e h => stops_here hcancel h (Or.inl nofun)

-- values that are converted where they are even
def evenClient : Client ℕ ℕ where
  getValue _ x := if x % 2 = 0 then .ok x else .error ⟨"ODD", toString x⟩
  checkCancel _ := none
  atEnd := none

theorem conversionStops_iff_even :
    ConversionStops evenClient ["a".toList, "b".toList] false 2 (.opened [[2, 4], [6, 7], [8, 9]]) ↔
      ∀ r c e, FirstError .columns evenClient 2 (.opened [[2, 4], [6, 7], [8, 9]]) r c e →
        (r : ℤ) + 1 = 2 :=
  conversionStops_iff evenClient ["a".toList, "b".toList] false 2
    (.opened [[2, 4], [6, 7], [8, 9]]) fun _ => rfl

/-- A fetch of columns goes on with the next row. -/
theorem not_conversionStops_odd :
    ¬ConversionStops evenClient ["a".toList] false (-1) (.opened [[1], [2]]) := by
  intro hstops
  have h : FirstError .columns evenClient (-1) (.opened [[1], [2]]) 0 0 ⟨"ODD", toString 1⟩ := by
    refine ⟨⟨rfl, rfl⟩, Or.inl (by decide), ⟨[1], 1, rfl, rfl, rfl⟩, ?_⟩
    rintro i j row x - - (hlt | ⟨-, hlt⟩)
    · exact absurd hlt (Nat.not_lt_zero i)
    · exact absurd hlt (Nat.not_lt_zero j)
  have hrows := (hstops.forColumns 0 0 _ h).rows
  exact absurd hrows (by decide)

end FetchErrors

end OracleDriver
