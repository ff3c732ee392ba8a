import Mathlib.Algebra.Order.Ring.Int
import Mathlib.Tactic.SplitIfs

/-! The Gregorian calendar: seconds since 1970 and broken-down times. -/

namespace Calendar

-- from 0001-01-01 to the first day of the year
def daysBeforeYear (y : ℤ) : ℤ := 365 * (y - 1) + (y - 1) / 4 - (y - 1) / 100 + (y - 1) / 400

def leapDays (y : ℤ) : ℤ := if y % 4 = 0 ∧ (y % 100 ≠ 0 ∨ y % 400 = 0) then 1 else 0

lemma daysBeforeYear_succ (y : ℤ) : daysBeforeYear (y + 1) = daysBeforeYear y + 365 + leapDays y := by
  unfold daysBeforeYear leapDays
  split_ifs with h
  · omega
  · omega

-- the year of a day is found from the mean length of the years
def yearOfDay (d : ℤ) : ℤ :=
  let y := 400 * d / 146097 + 1
  if d < daysBeforeYear y then y - 1 else if daysBeforeYear (y + 1) ≤ d then y + 1 else y

lemma yearOfDay_spec (d : ℤ) :
    daysBeforeYear (yearOfDay d) ≤ d ∧ d < daysBeforeYear (yearOfDay d + 1) := by
  unfold yearOfDay daysBeforeYear
  dsimp only
  split_ifs with h₁ h₂
  · constructor
    · omega
    · omega
  · constructor
    · omega
    · omega
  · constructor
    · omega
    · omega

lemma leapDays_cases (y : ℤ) : leapDays y = 0 ∨ leapDays y = 1 := by
  unfold leapDays
  split_ifs
  · exact .inr rfl
  · exact .inl rfl

def monthLengths (y : ℤ) : List ℤ := [31, 28 + leapDays y, 31, 30, 31, 30, 31, 31, 30, 31, 30, 31]

-- the period of a list of lengths in which a day falls, and the day in it, both from 0
def periodOfDay : List ℤ → ℤ → ℕ × ℤ
  | [], d => (0, d)
  | n :: l, d => if d < n then (0, d) else ((periodOfDay l (d - n)).1 + 1, (periodOfDay l (d - n)).2)

lemma periodOfDay_spec {l : List ℤ} {d : ℤ} (h0 : 0 ≤ d) (h1 : d < l.sum) :
    ∃ n, l[(periodOfDay l d).1]? = some n ∧ 0 ≤ (periodOfDay l d).2 ∧ (periodOfDay l d).2 < n ∧
      (l.take (periodOfDay l d).1).sum + (periodOfDay l d).2 = d := by
  induction l generalizing d with
  | nil =>
    rw [List.sum_nil] at h1
    omega
  | cons n l ih =>
    rw [List.sum_cons] at h1
    by_cases hd : d < n
    · have hp : periodOfDay (n :: l) d = (0, d) := if_pos hd
      rw [hp]
      exact ⟨n, rfl, h0, hd, by rw [List.take_zero, List.sum_nil, Int.zero_add]⟩
    · have hp : periodOfDay (n :: l) d = ((periodOfDay l (d - n)).1 + 1,
          (periodOfDay l (d - n)).2) := if_neg hd
      obtain ⟨m, hm, hlo, hhi, hsum⟩ := ih (d := d - n) (by omega) (by omega)
      rw [hp]
      refine ⟨m, by rwa [List.getElem?_cons_succ], hlo, hhi, ?_⟩
      rw [List.take_succ_cons, List.sum_cons]
      omega

structure Fields where
  year : ℤ
  month : ℕ
  day : ℕ
  hour : ℤ
  minute : ℤ
  second : ℤ
deriving DecidableEq, Repr

-- from 0001-01-01 to 1970-01-01
def epochDay : ℤ := 719162

def fieldsOf (s : ℤ) : Fields :=
  let d := s / 86400 + epochDay
  let y := yearOfDay d
  let p := periodOfDay (monthLengths y) (d - daysBeforeYear y)
  let t := s % 86400
  ⟨y, p.1 + 1, (p.2 + 1).toNat, t / 3600, t / 60 % 60, t % 60⟩

def secondsOf (f : Fields) : ℤ :=
  (daysBeforeYear f.year + ((monthLengths f.year).take
    (f.month - 1)).sum + f.day - 1 - epochDay) * 86400 +
    f.hour * 3600 + f.minute * 60 + f.second

structure Fields.Valid (f : Fields) : Prop where
  month : 1 ≤ f.month ∧ f.month ≤ 12
  day : 1 ≤ f.day ∧ f.day ≤ 31
  hour : 0 ≤ f.hour ∧ f.hour < 24
  minute : 0 ≤ f.minute ∧ f.minute < 60
  second : 0 ≤ f.second ∧ f.second < 60

instance (f : Fields) : Decidable f.Valid :=
  decidable_of_iff ((1 ≤ f.month ∧ f.month ≤ 12) ∧ (1 ≤ f.day ∧ f.day ≤ 31) ∧
      (0 ≤ f.hour ∧ f.hour < 24) ∧ (0 ≤ f.minute ∧ f.minute < 60) ∧ (0 ≤ f.second ∧ f.second < 60))
    ⟨fun ⟨h₁, h₂, h₃, h₄, h₅⟩ => ⟨h₁, h₂, h₃, h₄, h₅⟩, fun ⟨h₁, h₂, h₃, h₄, h₅⟩ => ⟨h₁, h₂, h₃, h₄, h₅⟩⟩

variable (s : ℤ)

lemma monthLengths_le {y n : ℤ} (h : n ∈ monthLengths y) : n ≤ 31 := by
  have hl := leapDays_cases y
  simp only [monthLengths, List.mem_cons, List.not_mem_nil, or_false] at h
  omega

lemma fieldsOf_day : ∃ n ∈ monthLengths (fieldsOf s).year, (fieldsOf s).month ≤ 12 ∧
    1 ≤ (fieldsOf s).day ∧
    (fieldsOf s).day ≤ n ∧ daysBeforeYear (fieldsOf s).year +
      ((monthLengths (fieldsOf s).year).take ((fieldsOf s).month - 1)).sum + (fieldsOf s).day - 1 =
        s / 86400 + epochDay := by
  let d := s / 86400 + epochDay
  obtain ⟨hlo, hhi⟩ := yearOfDay_spec d
  rw [daysBeforeYear_succ] at hhi
  have hsum : (monthLengths (yearOfDay d)).sum = 365 + leapDays (yearOfDay d) := by
    simp only [monthLengths, List.sum_cons, List.sum_nil]
    omega
  obtain ⟨n, hn, h0, h1, hd⟩ :=
    periodOfDay_spec (l := monthLengths (yearOfDay d)) (d := d - daysBeforeYear (yearOfDay d))
      (by omega) (by omega)
  have hday : ((fieldsOf s).day : ℤ) =
      (periodOfDay (monthLengths (yearOfDay d)) (d - daysBeforeYear (yearOfDay d))).2 + 1 :=
    Int.toNat_of_nonneg (Int.le_add_one h0)
  obtain ⟨hlen, -⟩ := List.getElem?_eq_some_iff.mp hn
  refine ⟨n, List.mem_of_getElem? hn, hlen, by omega, by omega, ?_⟩
  have hmonth : (fieldsOf s).month - 1 =
      (periodOfDay (monthLengths (yearOfDay d)) (d - daysBeforeYear (yearOfDay d))).1 := rfl
  have hyear : (fieldsOf s).year = yearOfDay d := rfl
  rw [hmonth, hyear, hday]
  omega

lemma fieldsOf_valid : (fieldsOf s).Valid := by
  obtain ⟨n, hn, hm, hlo, hhi, -⟩ := fieldsOf_day s
  have hle := monthLengths_le hn
  constructor
  · exact ⟨Nat.succ_pos _, hm⟩
  · omega
  · show 0 ≤ s % 86400 / 3600 ∧ s % 86400 / 3600 < 24
    omega
  · show 0 ≤ s % 86400 / 60 % 60 ∧ s % 86400 / 60 % 60 < 60
    omega
  · show 0 ≤ s % 86400 % 60 ∧ s % 86400 % 60 < 60
    omega

lemma secondsOf_fieldsOf : secondsOf (fieldsOf s) = s := by
  obtain ⟨-, -, -, -, -, hd⟩ := fieldsOf_day s
  have hh : (fieldsOf s).hour = s % 86400 / 3600 := rfl
  have hm : (fieldsOf s).minute = s % 86400 / 60 % 60 := rfl
  have hs : (fieldsOf s).second = s % 86400 % 60 := rfl
  rw [secondsOf, hd, hh, hm, hs]
  omega

-- the minute in which an instant lies
lemma fieldsOf_sub_second :
    fieldsOf (s - (fieldsOf s).second) = { fieldsOf s with second := 0 } := by
  have hsecond : (fieldsOf s).second = s % 86400 % 60 := rfl
  have hday : (s - (fieldsOf s).second) / 86400 = s / 86400 := by omega
  have hhour : (s - (fieldsOf s).second) % 86400 / 3600 = s % 86400 / 3600 := by omega
  have hminute : (s - (fieldsOf s).second) % 86400 / 60 % 60 = s % 86400 / 60 % 60 := by omega
  have hzero : (s - (fieldsOf s).second) % 86400 % 60 = 0 := by omega
  simp only [fieldsOf] at hday hhour hminute hzero ⊢
  rw [hday, hhour, hminute, hzero]

example : fieldsOf 951782400 = ⟨2000, 2, 29, 0, 0, 0⟩ := by decide

end Calendar
