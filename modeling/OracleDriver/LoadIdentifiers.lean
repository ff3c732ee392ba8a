import OracleDriver.EntryPoints

/-! The identifiers of a direct path load: the texts that are accepted, and the columns that names
stand for. -/

namespace OracleDriver

section Identifiers

def isIdentChar (atStart : Bool) (c : Char) : Bool :=
  if atStart then c.isAlpha || c == '_' else c.isAlphanum || c == '_' || c == '$' || c == '#'

-- an identifier, or without `atStart` what can follow the start of one
def Ident (atStart : Bool) : Text → Prop
  | [] => atStart = false
  | c :: rest => isIdentChar atStart c = true ∧ ∀ d ∈ rest, isIdentChar false d = true

def SimpleIdentifier (qualified : Bool) (t : Text) : Prop :=
  Ident true t ∨ qualified = true ∧ ∃ schema name, t = schema ++ '.' :: name ∧ Ident true schema ∧
    Ident true name

-- what the scan accepts from any place on
def Scans (qualified atStart sawDot : Bool) (t : Text) : Prop :=
  Ident atStart t ∨
    (qualified = true ∧ sawDot = false) ∧ ∃ a b, t = a ++ '.' :: b ∧ Ident atStart a ∧ Ident true b

variable {qualified atStart sawDot : Bool} {c : Char} {t : Text}

lemma scans_start : Scans qualified true false t ↔ SimpleIdentifier qualified t := by
  rw [Scans, SimpleIdentifier, and_iff_left rfl]

lemma scans_last : Scans qualified atStart true t ↔ Ident atStart t := by simp [Scans]

lemma isIdentChar_dot (atStart : Bool) : isIdentChar atStart '.' = false := by cases atStart <;> decide

-- the two tests of the scan
lemma ite_isIdentChar {α : Type} (a b : α) :
    (if (atStart && !(c.isAlpha || c == '_')) = true then b
      else if (!atStart && !(c.isAlphanum || c == '_' || c == '$' || c == '#')) = true then b else a) =
      if isIdentChar atStart c = true then a else b := by
  cases atStart with
  | true => by_cases hc : (c.isAlpha || c == '_') = true <;> simp [isIdentChar, hc]
  | false => by_cases hc : (c.isAlphanum || c == '_' || c == '$' || c == '#') = true
      <;> simp [isIdentChar, hc]

lemma ident_cons : Ident atStart (c :: t) ↔ isIdentChar atStart c = true ∧ Ident false t := by
  cases t with
  | nil => simp [Ident]
  | cons d t => simp [Ident]

lemma scans_dot : Scans qualified atStart sawDot ('.' :: t) ↔
    (qualified = true ∧ sawDot = false) ∧ atStart = false ∧ Ident true t := by
  have hnot : ∀ a, ¬Ident atStart ('.' :: a) := by
    intro a hident
    rw [ident_cons, isIdentChar_dot] at hident
    exact absurd hident.1 Bool.false_ne_true
  constructor
  · rintro (hident | ⟨hq, a, b, heq, ha, hb⟩)
    · exact absurd hident (hnot t)
    · cases a with
      | nil => exact ⟨hq, ha, (List.cons.inj heq).2 ▸ hb⟩
      | cons d a => exact absurd ((List.cons.inj heq).1 ▸ ha) (hnot a)
  · rintro ⟨hq, hstart, ht⟩
    exact Or.inr ⟨hq, [], t, rfl, hstart, ht⟩

lemma scans_char (hc : c ≠ '.') : Scans qualified atStart sawDot (c :: t) ↔
    isIdentChar atStart c = true ∧ Scans qualified false sawDot t := by
  constructor
  · rintro (hident | ⟨hq, a, b, heq, ha, hb⟩)
    · exact (ident_cons.mp hident).imp_right Or.inl
    · cases a with
      | nil => exact absurd (List.cons.inj heq).1 hc
      | cons d a =>
        obtain ⟨rfl, rfl⟩ := List.cons.inj heq
        rw [ident_cons] at ha
        exact ⟨ha.1, Or.inr ⟨hq, a, b, rfl, ha.2, hb⟩⟩
  · rintro ⟨hchar, hident | ⟨hq, a, b, rfl, ha, hb⟩⟩
    · exact Or.inl (ident_cons.mpr ⟨hchar, hident⟩)
    · exact Or.inr ⟨hq, c :: a, b, rfl, ident_cons.mpr ⟨hchar, ha⟩, hb⟩

end Identifiers

-- one of the answers to come is an interrupt
def World.Interrupted (w : World) : Prop := ∃ n, w.tick ≤ n ∧ (w.oracle n).flag = true

section Scan

variable {h : Handler} {x : Sink}

lemma checkTurn_run (i : ℕ) (w : World) :
    let r := (checkTurn x i : Drv h .calm Bool).run w
    (r.2.Interrupted → w.Interrupted) ∧ (r.1 = true → w.Interrupted) := by
  have hasked : (∃ n, w.tick + 1 ≤ n ∧ (w.oracle n).flag = true) → w.Interrupted :=
    fun ⟨n, hn, hflag⟩ => ⟨n, by omega, hflag⟩
  rw [checkTurn, Act.run_ite]
  split
  case isTrue =>
    rw [checkCancel]
    simp only [Act.run_bind, Act.run_ite, Act.run_pure]
    split
    case isTrue hflag =>
      have hnow : w.Interrupted := ⟨w.tick, le_rfl, hflag⟩
      exact ⟨fun _ => hnow, fun _ => hnow⟩
    case isFalse => exact ⟨hasked, nofun⟩
  case isFalse => exact ⟨id, nofun⟩

-- what a scan ends with if `accepted` says that it ends with the text
def Scanned (accepted : Prop) (text : Text) (w : World) : Option Text → Prop
  | some normalized => accepted ∧ normalized = text
  | none => ¬accepted ∨ w.Interrupted

lemma Scanned.earlier {p q : Prop} {text : Text} {w w' : World} {r : Option Text}
    (hr : Scanned p text w' r)
    (hlater : w'.Interrupted → w.Interrupted) (hiff : q ↔ p) : Scanned q text w r := by
  cases r with
  | none => exact hr.imp (mt hiff.mp) hlater
  | some normalized => exact hr.imp_left hiff.mpr

lemma scanIdentifier_scanned (qualified atStart sawDot : Bool) (t : Text) (count : ℕ)
    (normalized : Text) (w : World) :
    Scanned (Scans qualified atStart sawDot t) (normalized ++ t.map Char.toUpper) w
      ((scanIdentifier x qualified t atStart sawDot count normalized : Drv h .calm
        (Option Text)).run w).1 := by
  induction t generalizing atStart sawDot count normalized w with
  | nil =>
    cases atStart with
    | false => exact ⟨Or.inl rfl, (List.append_nil _).symm⟩
    | true =>
      apply Or.inl
      rintro (hident | ⟨-, a, b, heq, -⟩)
      · exact absurd hident nofun
      · exact absurd heq (by simp)
  | cons c t ih =>
    obtain ⟨hlater, hstop⟩ := checkTurn_run (h := h) (x := x) count w
    rw [scanIdentifier]
    simp only [Act.run_bind, Act.run_ite, Act.run_pure]
    by_cases hturn : ((checkTurn x count : Drv h .calm Bool).run w).1 = true
    · rw [if_pos hturn]
      exact Or.inr (hstop hturn)
    rw [if_neg hturn]
    by_cases hdot : c = '.'
    · subst hdot
      rw [if_pos rfl]
      by_cases hbad : (!qualified || sawDot || atStart || t.isEmpty) = true
      · rw [if_pos hbad]
        apply Or.inl
        rw [scans_dot]
        rintro ⟨⟨rfl, rfl⟩, rfl, ht⟩
        rw [List.isEmpty_iff.mp hbad] at ht
        exact absurd ht nofun
      · rw [if_neg hbad]
        simp only [Bool.or_eq_true, Bool.not_eq_true', not_or, Bool.not_eq_false,
          Bool.not_eq_true] at hbad
        obtain ⟨⟨⟨hq, hsaw⟩, hstart⟩, -⟩ := hbad
        have hrest := ih true true (count + 1) (normalized ++ ['.'])
          ((checkTurn x count : Drv h .calm Bool).run w).2
        rw [List.append_assoc] at hrest
        apply hrest.earlier hlater
        rw [scans_dot, scans_last]
        exact ⟨fun hscans => hscans.2.2, fun ht => ⟨⟨hq, hsaw⟩, hstart, ht⟩⟩
    · rw [if_neg hdot, ite_isIdentChar]
      by_cases hchar : isIdentChar atStart c = true
      · rw [if_pos hchar]
        have hrest := ih false sawDot (count + 1) (normalized ++ [c.toUpper])
          ((checkTurn x count : Drv h .calm Bool).run w).2
        rw [List.append_assoc] at hrest
        apply hrest.earlier hlater
        rw [scans_char hdot]
        exact and_iff_right hchar
      · rw [if_neg hchar]
        apply Or.inl
        rw [scans_char hdot]
        exact fun hscans => hchar hscans.1

lemma parseSimpleIdentifier_scanned (value : Text) (qualified : Bool) (w : World) :
    Scanned (SimpleIdentifier qualified (cStr value)) ((cStr value).map Char.toUpper) w
      ((parseSimpleIdentifier x value qualified : Drv h .calm (Option Text)).run w).1 :=
  (scanIdentifier_scanned qualified true false (cStr value) 0 [] w).earlier id scans_start.symm

lemma parseSimpleIdentifier_iff {value : Text} {w : World} (hzero : '\x00' ∉ value)
    (hnone : ¬w.Interrupted)
    (qualified : Bool) (normalized : Text) :
    ((parseSimpleIdentifier x value qualified : Drv h .calm (Option Text)).run w).1 = some normalized ↔
      SimpleIdentifier qualified value ∧ normalized = value.map Char.toUpper := by
  have hr := parseSimpleIdentifier_scanned (h := h) (x := x) value qualified w
  rw [(cStr_eq_iff value).mpr hzero] at hr
  cases hparse : ((parseSimpleIdentifier x value qualified : Drv h .calm (Option Text)).run w).1 with
  | none =>
    rw [hparse] at hr
    constructor
    · exact nofun
    · exact fun hsimple => absurd hsimple.1 (hr.resolve_right hnone)
  | some found =>
    rw [hparse] at hr
    obtain ⟨hsimple, rfl⟩ := hr
    rw [Option.some_inj, and_iff_right hsimple, eq_comm]

end Scan

lemma TableInfo.find_some {t : TableInfo} {name : Text} {i : ℕ} {m : MetaColumn}
    (hfind : t.find name = some (i, m)) :
    t.cols[i]? = some m ∧ m.name = name := by
  rw [TableInfo.find, Option.map_eq_some_iff] at hfind
  obtain ⟨⟨m', i'⟩, hfound, heq⟩ := hfind
  have hname := List.find?_some hfound
  rw [decide_eq_true_eq] at hname
  obtain ⟨rfl, rfl⟩ := Prod.mk.inj heq
  exact ⟨List.mem_zipIdx_iff_getElem?.mp (List.mem_of_find?_eq_some hfound), hname.2⟩

section Names

variable (view : QoreString → Text)

-- the column that stands for an element of the list of names
def Describes (t : TableInfo) (v : QoreValue) (e : ℕ × BulkColumn) : Prop :=
  ∃ name m, v = .string name ∧ t.cols[e.1]? = some m ∧ m.name = (view name).map Char.toUpper ∧
    BulkColumn.describe (view name) m = some e.2

/-- Each name has a column of the table, no two names have the same, and the columns come in the
order of the names. -/
def MapsTo (t : TableInfo) (columnList : List QoreValue) (columns : List BulkColumn) : Prop :=
  ∃ found : List (ℕ × BulkColumn),
    columns = found.map Prod.snd ∧ (found.map Prod.fst).Nodup ∧
      List.Forall₂ (Describes view t) columnList found

-- what the loop looks at: a name up to its first zero
def Reads (t : TableInfo) (v : QoreValue) (e : ℕ × BulkColumn) : Prop :=
  ∃ name m, v = .string name ∧ t.cols[e.1]? = some m ∧ m.name = (cStr (view name)).map Char.toUpper ∧
    BulkColumn.describe (view name) m = some e.2

end Names

section Columns

variable {view : QoreString → Text} {h : Handler} {x : Sink} {table : Text} {t : TableInfo}
  {columnList : List QoreValue}
  {used : List ℕ}
  {columns out : List BulkColumn} {w : World}

open BulkLoadState

-- one turn of the loop that goes on
lemma describeColumns_cons {v : QoreValue}
    (hrun : ((describeColumns x view table t
      (v :: columnList) used columns : Drv h .calm _).run w).1 = .ok out) :
    ∃ e w', Reads view t v e ∧ e.1 ∉ used ∧
      ((describeColumns x view table t columnList (e.1 :: used) (columns ++
        [e.2]) : Drv h .calm _).run w').1 = .ok out := by
  by_cases hstring : ∃ name, v = .string name
  · obtain ⟨name, rfl⟩ := hstring
    rw [describeColumns] at hrun
    simp only [Act.run_bind, Act.run_ite, Act.run_pure] at hrun
    generalize ((checkTurn x columns.length : Drv h .calm Bool).run w) = r at hrun
    have hparse := parseSimpleIdentifier_scanned (h := h) (x := x) (view name) false r.2
    generalize (parseSimpleIdentifier x (view name) false : Drv h .calm (Option Text)).run r.2 =
      p at hrun hparse
    split at hrun
    case isTrue => exact absurd hrun nofun
    case isFalse =>
      split at hrun
      case h_1 => exact absurd hrun nofun
      case h_2 normalized hnormalized =>
        rw [hnormalized] at hparse
        obtain ⟨-, rfl⟩ := hparse
        split at hrun
        case h_1 => exact absurd hrun nofun
        case h_2 i m hfind =>
          obtain ⟨hcol, hname⟩ := TableInfo.find_some hfind
          rw [Act.run_ite] at hrun
          split at hrun
          case isTrue => exact absurd hrun nofun
          case isFalse hused =>
            split at hrun
            case h_1 => exact absurd hrun nofun
            case h_2 column hcolumn =>
              exact ⟨(i, column), _, ⟨name, m, rfl, hcol, hname, hcolumn⟩, hused, hrun⟩
  · rw [describeColumns] at hrun
    · simp only [Act.run_bind, Act.run_ite, Act.run_pure] at hrun
      split at hrun <;> exact absurd hrun nofun
    · exact fun name hv => hstring ⟨name, hv⟩

lemma describeColumns_reads
    (hrun : ((describeColumns x view table t columnList used columns : Drv h .calm _).run w).1 = .ok out) :
    ∃ found : List (ℕ × BulkColumn), out = columns ++ found.map Prod.snd ∧
      ((found.map Prod.fst).Nodup ∧ ∀ i ∈ found.map Prod.fst, i ∉ used) ∧
        List.Forall₂ (Reads view t) columnList found := by
  induction columnList generalizing used columns w with
  | nil =>
    obtain rfl := Except.ok.inj hrun
    exact ⟨[], (List.append_nil _).symm, ⟨List.nodup_nil, nofun⟩, .nil⟩
  | cons v rest ih =>
    obtain ⟨e, w', hreads, hused, hrest⟩ := describeColumns_cons hrun
    obtain ⟨found, rfl, ⟨hnodup, hnot⟩, hall⟩ := ih hrest
    refine ⟨e :: found, ?_, ⟨?_, ?_⟩, .cons hreads hall⟩
    · rw [List.map_cons, List.append_assoc, List.singleton_append]
    · rw [List.map_cons, List.nodup_cons]
      exact ⟨fun hmem => hnot _ hmem List.mem_cons_self, hnodup⟩
    · intro i hi
      rcases List.mem_cons.mp hi with rfl | hi
      · exact hused
      · exact fun hmem => hnot i hi (List.mem_cons_of_mem _ hmem)

def NoZeros (view : QoreString → Text) (columnList : List QoreValue) : Prop :=
  ∀ name, QoreValue.string name ∈ columnList → '\x00' ∉ view name

lemma describes_of_reads {found : List (ℕ × BulkColumn)}
    (hall : List.Forall₂ (Reads view t) columnList found)
    (hzero : NoZeros view columnList) : List.Forall₂ (Describes view t) columnList found := by
  induction hall with
  | nil => exact .nil
  | cons hreads _ ih =>
    apply List.Forall₂.cons
    · obtain ⟨name, m, rfl, hcol, hname, hcolumn⟩ := hreads
      rw [(cStr_eq_iff (view name)).mpr (hzero name List.mem_cons_self)] at hname
      exact ⟨name, m, rfl, hcol, hname, hcolumn⟩
    · exact ih fun name hmem => hzero name (List.mem_cons_of_mem _ hmem)

-- names of columns are strings of C
lemma noZeros_of_describes {found : List (ℕ × BulkColumn)}
    (hall : List.Forall₂ (Describes view t) columnList found)
    (hcols : ∀ m ∈ t.cols, '\x00' ∉ m.name) : NoZeros view columnList := by
  induction hall with
  | nil => exact nofun
  | cons hdescribes _ ih =>
    intro name hmem
    rcases List.mem_cons.mp hmem with heq | hmem
    · obtain ⟨name', m, hv, hcol, hname, -⟩ := hdescribes
      obtain rfl := QoreValue.string.inj (heq.trans hv)
      intro hzero
      have hupper : '\x00' ∈ m.name := by
        rw [hname]
        exact List.mem_map_of_mem (f := Char.toUpper) hzero
      exact hcols m (List.mem_of_getElem? hcol) hupper
    · exact ih name hmem

/-- The identifiers are those of the grammar, in upper case, and the columns are those of the names. -/
structure IdentifiesColumns (view : QoreString → Text) (h : Handler) (x : Sink) (t : TableInfo)
    (columnList : List QoreValue) (columns : List BulkColumn) : Prop where
  parsed : ∀ (qualified : Bool) (value normalized : Text) (w : World), '\x00' ∉ value → ¬w.Interrupted →
    (((parseSimpleIdentifier x value qualified : Drv h .calm (Option Text)).run w).1 = some normalized ↔
      SimpleIdentifier qualified value ∧ normalized = value.map Char.toUpper)
  mapped : MapsTo view t columnList columns

theorem describeColumns_identifies_iff (hcols : ∀ m ∈ t.cols, '\x00' ∉ m.name)
    (hrun : ((describeColumns x view table t columnList [] [] : Drv h .calm _).run w).1 = .ok columns) :
    IdentifiesColumns view h x t columnList columns ↔ NoZeros view columnList := by
  constructor
  · rintro ⟨-, found, -, -, hall⟩
    exact noZeros_of_describes hall hcols
  · intro hzero
    obtain ⟨found, heq, ⟨hnodup, -⟩, hall⟩ := describeColumns_reads hrun
    refine ⟨?_, found, heq, hnodup, describes_of_reads hall hzero⟩
    intro qualified value normalized w hvalue hnone
    exact parseSimpleIdentifier_iff hvalue hnone qualified normalized

def idTable : TableInfo := ⟨none, [⟨['I', 'D'], some .numeric, 22, 0, 0⟩]⟩

def quietWorld : World := World.start plainSetting fun _ => ⟨.success, 0, "", 0, false⟩

theorem describeColumns_identifies_iff_id :
    IdentifiesColumns plainSetting.view (fun _ _ w => w) .main idTable [.string ⟨['i', 'd'], 0⟩]
        [⟨['i', 'd'], .numeric, 127, 0, 0⟩] ↔
      NoZeros plainSetting.view [.string ⟨['i', 'd'], 0⟩] := by
  have hrun : ((describeColumns .main plainSetting.view ['T'] idTable [.string ⟨['i', 'd'], 0⟩] [] [] :
      Drv (fun _ _ w => w) .calm _).run quietWorld).1 = .ok [⟨['i', 'd'], .numeric, 127, 0, 0⟩] := rfl
  exact describeColumns_identifies_iff (by decide) hrun

-- "ID\0X" is taken for the column ID
theorem zero_name_described :
    ¬ ∀ (view : QoreString → Text) (h : Handler) (x : Sink) (table : Text) (t : TableInfo)
    (columnList : List QoreValue) (columns : List BulkColumn)
    (w : World), (∀ m ∈ t.cols, '\x00' ∉ m.name) →
      ((describeColumns x view table t columnList [] [] : Drv h .calm _).run w).1 = .ok columns →
      IdentifiesColumns view h x t columnList columns := by
  intro hall
  have hcols : ∀ m ∈ idTable.cols, '\x00' ∉ m.name := by decide
  have hid :=
    hall plainSetting.view
      (fun _ _ w => w) .main ['T'] idTable [.string ⟨['I', 'D', '\x00', 'X'], 0⟩]
    [⟨['I', 'D', '\x00', 'X'], .numeric, 127, 0, 0⟩] quietWorld hcols rfl
  obtain ⟨found, -, -, hdescribed⟩ := hid.mapped
  exact noZeros_of_describes hdescribed hcols _ List.mem_cons_self (by decide)

end Columns

end OracleDriver
