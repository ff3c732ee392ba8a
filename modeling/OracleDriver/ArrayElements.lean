import OracleDriver.ArrayBinds

/-! Which lists an array bind takes. -/

namespace OracleDriver

namespace ArrayElements

structure Outcome where
  raised : List Exn
  bound : Bool

-- OraBindNode::bindListValue(), where the last two Oracle calls are OCIBindByPos() and OCIBindDynamic()
def bindListValue (c : Setting) (oci : ℕ → Option Exn) (byPos dynamic : Option Exn) (inOnly : Bool)
    (v : QoreValue) :
    Outcome :=
  match arrayClass c v with
  | .error e => ⟨[e], false⟩
  | .ok (k, _) =>
    match setupArray c oci inOnly v k with
    | .error e => ⟨[e], false⟩
    | .ok _ => ⟨byPos.toList ++ dynamic.toList, byPos.isNone⟩

variable (c : Setting)

-- NULL, NOTHING or a value of a supported type, a string being one that the encoding of the
-- connection has
def Bindable (v : QoreValue) : Prop :=
  v.isNullOrNothing = true ∨ (elementType v ≠ none ∧ ∀ s, v = .string s → ∃ r, c.encode s = .ok r)

structure Obeys (l : List QoreValue) : Prop where
  uniform : Uniform l → ∀ inOnly, bindListValue c (fun _ => none) none none inOnly (.list l) = ⟨[], true⟩
  mixed : ¬Uniform l → ∀ oci byPos dynamic inOnly,
    (bindListValue c oci byPos dynamic inOnly (.list l)).raised ≠ [] ∧
      (bindListValue c oci byPos dynamic inOnly (.list l)).bound = false

def HasLongString (l : List QoreValue) : Prop := ∃ s, QoreValue.string s ∈ l ∧ 32768 ≤ (c.bytes s).length

-- the first element that is not NULL is no integer and no number, and no string in a list of short
-- strings
def Checked (l : List QoreValue) : Prop :=
  ∀ v, l.find? (!·.isNullOrNothing) = some v →
    elementType v ≠ some .int ∧ elementType v ≠ some .number ∧
      (elementType v = some .string → HasLongString c l)

variable {c} {l : List QoreValue} {t : ElementType}

lemma fill_total {δ : Type} {f : ℕ → QoreValue → Except Exn δ} {d : δ} :
    (∃ r, Filled.fill f d l = .ok r) ↔
    ∀ j v, l[j]? = some v → v.isNullOrNothing = false → ∃ r, f j v = .ok r := by
  have turn : ∀ (s : Filled δ) (e : QoreValue × ℕ), (∃ r, Filled.fillStep f s e = .ok r) ↔
      (e.1.isNullOrNothing = false → ∃ r, f e.2 e.1 = .ok r) := by
    intro s e
    rw [Filled.fillStep]
    cases e.1.isNullOrNothing with
    | true => simp
    | false => cases f e.2 e.1 <;> simp [Except.map]
  rw [Filled.fill, IndexedFold.total_iff turn]
  constructor
  · intro h j v hv
    exact h (v, j) (List.mem_zipIdx_iff_getElem?.mpr hv)
  · rintro h ⟨v, j⟩ hv
    exact h j v (List.mem_zipIdx_iff_getElem?.mp hv)

lemma strings_total {f : QoreValue → Except Exn (StrEntry × ℕ)} : (∃ r, Strings.fill f l = .ok r) ↔
    ∀ v ∈ l, v.isNullOrNothing = false → ∃ r, f v = .ok r := by
  have turn : ∀ (s : Strings) (e : QoreValue × ℕ), (∃ r, Strings.fillStep f s e = .ok r) ↔
      (e.1.isNullOrNothing = false → ∃ r, f e.1 = .ok r) := by
    intro s e
    rw [Strings.fillStep]
    cases e.1.isNullOrNothing with
    | true => simp
    | false => cases f e.1 <;> simp [Except.map]
  rw [Strings.fill, IndexedFold.total_iff turn]
  constructor
  · intro h v hv
    obtain ⟨j, hj⟩ := List.getElem?_of_mem hv
    exact h (v, j) (List.mem_zipIdx_iff_getElem?.mpr hj)
  · rintro h ⟨v, j⟩ hv
    exact h v (List.mem_of_getElem? (List.mem_zipIdx_iff_getElem?.mp hv))

-- the classes that look at the type of each element
def expected : ArrayBindClass → Option ElementType
  | .float => some .float
  | .date => some .date
  | .bool => some .bool
  | .blob => some .binary
  | .clob => some .string
  | _ => none

def Takes (c : Setting) (oci : ℕ → Option Exn) (j : ℕ) (v : QoreValue) : ArrayBindClass → Prop
  | .float => ∃ r, floatElement j v = .ok r
  | .date => ∃ r, dateElement oci j v = .ok r
  | .bool => ∃ r, boolElement j v = .ok r
  | .blob => ∃ r, blobElement oci j v = .ok r
  | .clob => ∃ r, clobElement c oci j v = .ok r
  | _ => True

variable {k : ArrayBindClass}

lemma map_total {α β : Type} {f : α → β} {r : Except Exn α} :
    (∃ b, r.map f = .ok b) ↔ ∃ a, r = .ok a := by
  cases r <;> simp [Except.map]

lemma setup_total (oci : ℕ → Option Exn) (inOnly : Bool) (hk : expected k = some t) :
    (∃ D, setupArray c oci inOnly (.list l) k = .ok D) ↔
    ∀ j v, l[j]? = some v → v.isNullOrNothing = false → Takes c oci j v k := by
  cases k with
  | float | date | bool | blob | clob =>
    simp only [setupArray, QoreValue.elems, map_total, fill_total, Takes]
  | _ => cases hk

lemma callOci_total {δ : Type} {oci : ℕ → Option Exn} {j : ℕ} {d : δ} (h : oci j = none) :
    callOci oci j d = .ok d := by
  rw [callOci, h]

lemma takes_type {oci : ℕ → Option Exn} (hk : expected k = some t) {j : ℕ} {v : QoreValue}
    (h : Takes c oci j v k) : elementType v = some t := by
  cases k with
  | float | date | bool | blob | clob =>
    obtain ⟨r, hr⟩ := h
    cases v <;> first | exact hk | cases hr
  | _ => cases hk

lemma takes_of_type (hk : expected k = some t) {oci : ℕ → Option Exn} {j : ℕ} (hoci : oci j = none)
    {v : QoreValue}
    (hv : elementType v = some t) (hb : Bindable c v) : Takes c oci j v k := by
  cases k with
  | float =>
    obtain rfl := Option.some.inj hk
    cases v with
    | float f => exact ⟨f, rfl⟩
    | _ => cases hv
  | date =>
    obtain rfl := Option.some.inj hk
    cases v with
    | date epoch micros => exact ⟨_, callOci_total hoci⟩
    | _ => cases hv
  | bool =>
    obtain rfl := Option.some.inj hk
    cases v with
    | bool b => exact ⟨_, rfl⟩
    | _ => cases hv
  | blob =>
    obtain rfl := Option.some.inj hk
    cases v with
    | binary b => exact ⟨_, callOci_total hoci⟩
    | _ => cases hv
  | clob =>
    obtain rfl := Option.some.inj hk
    cases v with
    | string s =>
      obtain ⟨r, hr⟩ := (hb.resolve_left (by simp [QoreValue.isNullOrNothing])).2 s rfl
      simp only [Takes, clobElement, hr, callOci_total hoci]
      split <;> exact ⟨_, rfl⟩
    | _ => cases hv
  | _ => cases hk

lemma text_total (oci : ℕ → Option Exn) (inOnly : Bool) (hk : k = .string ∨ k = .number)
    (hb : ∀ v ∈ l, Bindable c v) :
    ∃ D, setupArray c oci inOnly (.list l) k = .ok D := by
  have element : ∀ v ∈ l, v.isNullOrNothing = false → ∃ r, stringElement c inOnly v = .ok r := by
    intro v hv hn
    have hbv := (hb v hv).resolve_left (by rw [hn]; exact Bool.false_ne_true)
    cases v with
    | string s =>
      obtain ⟨r, hr⟩ := hbv.2 s rfl
      simp only [stringElement, hr]
      split <;> exact ⟨_, rfl⟩
    | _ => exact ⟨_, rfl⟩
  rcases hk with rfl | rfl
  · exact map_total.mpr (strings_total.mpr element)
  · exact map_total.mpr (strings_total.mpr element)

lemma hasLongString_iff : (l.any fun | .string s => 32768 ≤ (c.bytes s).length | _ => false) =
    true ↔ HasLongString c l := by
  rw [List.any_eq_true]
  constructor
  · rintro ⟨v, hv, hlong⟩
    cases v with
    | string s => exact ⟨s, hv, of_decide_eq_true hlong⟩
    | _ => cases hlong
  · rintro ⟨s, hs, hlong⟩
    exact ⟨.string s, hs, decide_eq_true hlong⟩

lemma checked_iff {w : QoreValue} (hw : l.find? (!·.isNullOrNothing) = some w) : Checked c l ↔
    elementType w ≠ some .int ∧ elementType w ≠ some .number ∧
      (elementType w = some .string → HasLongString c l) := by
  constructor
  · exact fun h => h w hw
  · rintro h v hv
    obtain rfl := Option.some.inj (hw.symm.trans hv)
    exact h

-- the class that the first element that is not NULL gives
lemma arrayClass_first {w : QoreValue} (hw : l.find? (!·.isNullOrNothing) = some w) (hb : Bindable c w) :
    ∃ k, arrayClass c (.list l) = .ok (k, false) ∧
      ((expected k = elementType w ∧ Checked c l) ∨ ((k = .string ∨ k = .number) ∧ ¬Checked c l)) := by
  have hn : w.isNullOrNothing = false := by simpa using List.find?_some hw
  have htype := (hb.resolve_left (by rw [hn]; exact Bool.false_ne_true)).1
  have hchecked := checked_iff (c := c) hw
  have hother : ∀ t, elementType w = some t → t ≠ .int → t ≠ .number → t ≠ .string → Checked c l := by
    intro t ht hi hn hs
    rw [hchecked, ht]
    exact ⟨mt Option.some.inj hi, mt Option.some.inj hn, fun h => absurd (Option.some.inj h) hs⟩
  rw [arrayClass, hw]
  cases w with
  | string s =>
    by_cases hlong : HasLongString c l
    · have hall : Checked c l := hchecked.mpr ⟨by rintro ⟨⟩, by rintro ⟨⟩, fun _ => hlong⟩
      exact ⟨.clob, if_pos (hasLongString_iff.mpr hlong), Or.inl ⟨rfl, hall⟩⟩
    · refine ⟨.string, if_neg (mt hasLongString_iff.mp hlong), Or.inr ⟨Or.inl rfl, fun h => ?_⟩⟩
      exact hlong ((hchecked.mp h).2.2 rfl)
  | int i => exact ⟨.number, rfl, Or.inr ⟨Or.inr rfl, fun h => (hchecked.mp h).1 rfl⟩⟩
  | number d => exact ⟨.number, rfl, Or.inr ⟨Or.inr rfl, fun h => (hchecked.mp h).2.1 rfl⟩⟩
  | float f => exact ⟨.float, rfl, Or.inl ⟨rfl, hother .float rfl (by decide) (by decide) (by decide)⟩⟩
  | date epoch micros =>
    exact ⟨.date, rfl, Or.inl ⟨rfl, hother .date rfl (by decide) (by decide) (by decide)⟩⟩
  | bool b => exact ⟨.bool, rfl, Or.inl ⟨rfl, hother .bool rfl (by decide) (by decide) (by decide)⟩⟩
  | binary b => exact ⟨.blob, rfl, Or.inl ⟨rfl, hother .binary rfl (by decide) (by decide) (by decide)⟩⟩
  | _ => exact absurd rfl htype

lemma uniform_of_null (h : ∀ v ∈ l, v.isNullOrNothing = true) : Uniform l := by
  refine ⟨.string, fun v hv hn => ?_⟩
  rw [h v hv] at hn
  cases hn

lemma uniform_iff {w : QoreValue} (hw : l.find? (!·.isNullOrNothing) = some w)
    (ht : elementType w = some t) :
    Uniform l ↔ ∀ v ∈ l, v.isNullOrNothing = false → elementType v = some t := by
  have hn : w.isNullOrNothing = false := by simpa using List.find?_some hw
  constructor
  · rintro ⟨u, hu⟩
    have heq : elementType w = some u := hu w (List.mem_of_find?_eq_some hw) hn
    rw [← ht, heq]
    exact hu
  · exact fun h => ⟨t, h⟩

/-- A list is taken as one with elements of one type if and only if it is such a list or its
elements are looked at. -/
theorem obeys_iff (c : Setting) (l : List QoreValue) (hb : ∀ v ∈ l, Bindable c v) :
    Obeys c l ↔ Uniform l ∨ Checked c l := by
  cases hw : l.find? (!·.isNullOrNothing) with
  | none =>
    have hnull : ∀ v ∈ l, v.isNullOrNothing = true :=
      fun v hv => by simpa using List.find?_eq_none.mp hw v hv
    have hu := uniform_of_null hnull
    refine iff_of_true ⟨fun _ inOnly => ?_, fun hn => absurd hu hn⟩ (Or.inl hu)
    have hclass : arrayClass c (.list l) = .ok (.singleNull, false) := by rw [arrayClass, hw]
    simp [bindListValue, hclass, setupArray]
  | some w =>
    have hbw := hb w (List.mem_of_find?_eq_some hw)
    have hn : w.isNullOrNothing = false := by simpa using List.find?_some hw
    obtain ⟨t, ht⟩ :=
      Option.ne_none_iff_exists'.mp (hbw.resolve_left (by rw [hn]; exact Bool.false_ne_true)).1
    have huniform := uniform_iff hw ht
    obtain ⟨k, hclass, ⟨hk, hchecked⟩ | ⟨hk, hchecked⟩⟩ := arrayClass_first hw hbw
    · rw [ht] at hk
      refine iff_of_true ⟨fun hu inOnly => ?_, fun hmixed oci byPos dynamic inOnly => ?_⟩
        (Or.inr hchecked)
      · obtain ⟨D, hD⟩ := (setup_total (fun _ => none) inOnly hk).mpr fun j v hv hn =>
          takes_of_type hk rfl (huniform.mp hu v (List.mem_of_getElem? hv) hn)
            (hb v (List.mem_of_getElem? hv))
        simp [bindListValue, hclass, hD]
      · cases hD : setupArray c oci inOnly (.list l) k with
        | error e => simp [bindListValue, hclass, hD]
        | ok D =>
          have htakes := (setup_total oci inOnly hk).mp ⟨D, hD⟩
          refine absurd (huniform.mpr fun v hv hn => ?_) hmixed
          obtain ⟨j, hj⟩ := List.getElem?_of_mem hv
          exact takes_type hk (htakes j v hj hn)
    · constructor
      · intro hobeys
        by_contra hmixed
        rw [not_or] at hmixed
        obtain ⟨D, hD⟩ := text_total (fun _ => none) true hk hb
        have hbound := (hobeys.mixed hmixed.1 (fun _ => none) none none true).2
        simp [bindListValue, hclass, hD] at hbound
      · intro h
        have hu := h.resolve_right hchecked
        refine ⟨fun _ inOnly => ?_, fun hmixed => absurd hu hmixed⟩
        obtain ⟨D, hD⟩ := text_total (fun _ => none) inOnly hk hb
        simp [bindListValue, hclass, hD]

theorem obeys_iff_dates : Obeys plainSetting [.date 0 0, .null, .int 1] ↔
    Uniform [.date 0 0, .null, .int 1] ∨ Checked plainSetting [.date 0 0, .null, .int 1] := by
  apply obeys_iff
  intro v hv
  simp only [List.mem_cons, List.not_mem_nil, or_false] at hv
  rcases hv with rfl | rfl | rfl
  · exact Or.inr ⟨nofun, nofun⟩
  · exact Or.inl rfl
  · exact Or.inr ⟨nofun, nofun⟩

/-- An integer in front of a date is bound with it. -/
theorem not_obeys_integer : ¬Obeys plainSetting [.int 1, .date 0 0] := by
  intro h
  have hmixed : ¬Uniform [.int 1, .date 0 0] := by
    rintro ⟨t, ht⟩
    have hint : some ElementType.int = some t := ht (.int 1) List.mem_cons_self rfl
    have hdate : some ElementType.date = some t :=
      ht (.date 0 0) (List.mem_cons_of_mem _ List.mem_cons_self) rfl
    cases hint.trans hdate.symm
  have hbound : true = false := (h.mixed hmixed (fun _ => none) none none true).2
  cases hbound

end ArrayElements

end OracleDriver
