import OracleDriver.Library.Calendar
import OracleDriver.Library.DecimalText
import OracleDriver.World

/-! Dates that are bound, and dates that are read: the fields of a time in the zone of the server,
of the date or of the process. -/

namespace OracleDriver

open Calendar DecimalText

-- seconds east of UTC at an instant
abbrev Zone := ℤ → ℤ

structure DateTime where
  epoch : ℤ
  us : ℕ
  zone : Zone
  resolution : us < 1000000

namespace DateTime

-- DateTime::getInfo()
def getInfo (z : Zone) (d : DateTime) : Fields := fieldsOf (d.epoch + z d.epoch)

end DateTime

-- "%0*d"
def padded (w n : ℕ) : Text := List.replicate (w - (Nat.toDigits 10 n).length) '0' ++ Nat.toDigits 10 n

def paddedYear (y : ℤ) : Text := if y < 0 then '-' :: padded 3 y.natAbs else padded 4 y.natAbs

-- dstr.sprintf("%04d%02d%02d%02d%02d%06d"): six conversions, the last one is the second, and nothing
-- prints the microseconds
def backupText (f : Fields) : Text :=
  paddedYear f.year ++
    (padded 2 f.month ++ (padded 2 f.day ++ (padded 2 f.hour.toNat ++ (padded 2 f.minute.toNat ++
    padded 6 f.second.toNat))))

example : backupText ⟨1, 1, 1, 0, 0, 5⟩ = "000101010000000005".toList := by decide

def readDigits (n : ℕ) (t : Text) : Option (ℕ × Text) :=
  if n ≤ t.length ∧ AllDigits (t.take n) then some (digitsVal (t.take n), t.drop n) else none

-- the format ORA_BACKUP_DATE_FMT: years from 1 on, and up to six digits of a fraction
def fromBackupText (t : Text) : Option (Fields × ℕ) := do
  let (year, t) ← readDigits 4 t
  let (month, t) ← readDigits 2 t
  let (day, t) ← readDigits 2 t
  let (hour, t) ← readDigits 2 t
  let (minute, t) ← readDigits 2 t
  let (second, t) ← readDigits 2 t
  let f : Fields := ⟨year, month, day, hour, minute, second⟩
  if 1 ≤ f.year ∧ f.Valid ∧ t.length ≤ 6 ∧ AllDigits t then
    some (f, digitsVal t * 10 ^ (6 - t.length)) else none

inductive DateArgs where
  | fields (f : Fields) (ns : ℕ)
  | text (t : Text)

-- OCIDateTimeConstruct() is only used after the first year
def dateTimeConstructArgs (server : Zone) (d : DateTime) : DateArgs :=
  let info := d.getInfo server
  if 1 < info.year then .fields info (d.us * 1000) else .text (backupText info)

-- a date that is written to an attribute or an element, with nanoseconds if it has them
structure WrittenDate where
  fields : Fields
  ns : Option ℕ

inductive DateColumn where
  | timestamp
  | datetime
deriving DecidableEq, Repr

def bindDate (col : DateColumn) (d : DateTime) : WrittenDate :=
  match col with
  | .timestamp => ⟨d.getInfo d.zone, some (d.us * 1000)⟩
  | .datetime => ⟨d.getInfo d.zone, none⟩

-- the time that is written is `f`
def DateArgs.Reads (f : Fields) (us : ℕ) : DateArgs → Prop
  | .fields g ns => g = f ∧ ns = us * 1000
  | .text t => fromBackupText t = some (f, us)

def WrittenDate.Reads (f : Fields) (us : ℕ) (w : WrittenDate) : Prop :=
  w.fields = f ∧ ∀ ns ∈ w.ns, ns = us * 1000

lemma digitsVal_padded (w n : ℕ) : digitsVal (padded w n) = n := by
  rw [digitsVal, padded, Nat.ofDigitChars_append, Nat.ofDigitChars_replicate_zero, Nat.mul_zero,
    Nat.ofDigitChars_ten_toDigits]

lemma padded_length {w n : ℕ} (hw : 0 < w) (hn : n < 10 ^ w) : (padded w n).length = w := by
  have hlen := (Nat.length_toDigits_le_iff (by omega) hw).mpr hn
  rw [padded, List.length_append, List.length_replicate]
  omega

lemma padded_injective (w : ℕ) : Function.Injective (padded w) := fun a b h => by
  have hv := congrArg digitsVal h
  rwa [digitsVal_padded, digitsVal_padded] at hv

lemma padded_digits (w n : ℕ) : AllDigits (padded w n) := (AllDigits.zeros _).append (.toDigits n)

lemma paddedYear_injective : Function.Injective paddedYear := by
  have hdash : ∀ {w n l}, padded w n ≠ '-' :: l := by
    intro w n l h
    have hd := padded_digits w n
    rw [h] at hd
    exact absurd hd.head (by decide)
  intro a b h
  unfold paddedYear at h
  split_ifs at h with ha hb hb
  · have hab := padded_injective 3 (List.cons.inj h).2
    omega
  · exact absurd h.symm hdash
  · exact absurd h hdash
  · have hab := padded_injective 4 h
    omega

lemma readDigits_padded {w n : ℕ} (hw : 0 < w) (hn : n < 10 ^ w) (t : Text) :
    readDigits w (padded w n ++ t) = some (n, t) := by
  have hlen := padded_length hw hn
  have htake : (padded w n ++ t).take w = padded w n := by
    rw [List.take_append_of_le_length hlen.ge, List.take_of_length_le hlen.le]
  have hdrop : (padded w n ++ t).drop w = t := by
    rw [List.drop_append_of_le_length hlen.ge, List.drop_of_length_le hlen.le, List.nil_append]
  rw [readDigits, htake, hdrop, digitsVal_padded, if_pos ⟨by simp [hlen], padded_digits w n⟩]

lemma padded_add {w n : ℕ} (k : ℕ) (hn : (Nat.toDigits 10 n).length ≤ w) :
    padded (k + w) n = List.replicate k '0' ++ padded w n := by
  rw [padded, padded, Nat.add_sub_assoc hn, List.replicate_add, List.append_assoc]

-- the two digits for the second are zeros, and the second is read as a fraction
lemma fromBackupText_backupText {f : Fields} (hf : f.Valid) (hy : f.year ≤ 1) :
    fromBackupText (backupText f) =
      if f.year = 1 then some ({ f with second := 0 }, f.second.toNat * 100) else none := by
  by_cases hneg : f.year < 0
  · have hread (t : Text) : readDigits 4 ('-' :: t) = none := by
      rw [readDigits, if_neg]
      rintro ⟨-, h⟩
      exact absurd h.head (by decide)
    have hne : ¬f.year = 1 := by omega
    rw [fromBackupText, backupText, paddedYear, if_pos hneg, List.cons_append, hread, if_neg hne]
    rfl
  · obtain ⟨hm, hd, hh, hn, hs⟩ := hf
    have hsec : padded 6 f.second.toNat = padded 2 0 ++ padded 4 f.second.toNat := by
      have hlt : f.second.toNat < 10 ^ 4 := by omega
      exact padded_add 2 ((Nat.length_toDigits_le_iff (by omega) (by omega)).mpr hlt)
    have hlen := padded_length (w := 4) (n := f.second.toNat) (by omega) (by omega)
    have hdigits := padded_digits 4 f.second.toNat
    have hyear : ((f.year.natAbs : ℕ) : ℤ) = f.year := by omega
    have hhour : ((f.hour.toNat : ℕ) : ℤ) = f.hour := by omega
    have hminute : ((f.minute.toNat : ℕ) : ℤ) = f.minute := by omega
    rw [fromBackupText, backupText, paddedYear, if_neg hneg, hsec]
    rw [readDigits_padded (by omega) (by omega)]
    simp only [Option.bind_eq_bind, Option.bind_some]
    rw [readDigits_padded (by omega) (by omega)]
    simp only [Option.bind_some]
    rw [readDigits_padded (by omega) (by omega)]
    simp only [Option.bind_some]
    rw [readDigits_padded (by omega) (by omega)]
    simp only [Option.bind_some]
    rw [readDigits_padded (by omega) (by omega)]
    simp only [Option.bind_some]
    rw [readDigits_padded (by omega) (by omega)]
    simp only [Option.bind_some, hyear, hhour, hminute, hlen, digitsVal_padded]
    by_cases hone : f.year = 1
    · have hzero : 0 ≤ (0 : ℤ) ∧ (0 : ℤ) < 60 := ⟨le_rfl, by omega⟩
      rw [if_pos ⟨hone.ge, ⟨hm, hd, hh, hn, hzero⟩, by omega, hdigits⟩, if_pos hone]
      rfl
    · rw [if_neg (by omega), if_neg hone]

section Construct

variable {server : Zone} {d : DateTime} {f : Fields} {us : ℕ}

-- OCIDateTimeConstruct() gets the fields as they are
lemma dateTimeConstructArgs_reads (hy : 1 < (d.getInfo server).year) :
    (dateTimeConstructArgs server d).Reads f us ↔ f = d.getInfo server ∧ us = d.us := by
  rw [dateTimeConstructArgs, if_pos hy]
  constructor
  · rintro ⟨rfl, hus⟩
    exact ⟨rfl, by omega⟩
  · rintro ⟨rfl, rfl⟩
    exact ⟨rfl, rfl⟩

-- OCIDateTimeFromText() gets the second in the place of the fraction
lemma dateTimeConstructArgs_reads_text (hy : (d.getInfo server).year ≤ 1) :
    (dateTimeConstructArgs server d).Reads f us ↔ (d.getInfo server).year = 1 ∧
      f = { d.getInfo server with second := 0 } ∧ us = (d.getInfo server).second.toNat * 100 := by
  have hvalid : (d.getInfo server).Valid := fieldsOf_valid _
  rw [dateTimeConstructArgs, if_neg hy.not_gt]
  show fromBackupText (backupText (d.getInfo server)) = some (f, us) ↔ _
  rw [fromBackupText_backupText hvalid hy]
  split_ifs with hone
  · constructor
    · intro h
      obtain ⟨rfl, rfl⟩ := Prod.mk.inj (Option.some.inj h)
      exact ⟨hone, rfl, rfl⟩
    · rintro ⟨-, rfl, rfl⟩
      rfl
  · constructor
    · intro h
      cases h
    · rintro ⟨h, -, -⟩
      exact absurd h hone

end Construct

example : fromBackupText (backupText ⟨1, 1, 1, 0, 0, 5⟩) = some (⟨1, 1, 1, 0, 0, 0⟩, 500) := by decide

-- the form SQLT_DAT
structure DatBytes where
  century : UInt8
  year : UInt8
  month : UInt8
  day : UInt8
  hour : UInt8
  minute : UInt8
  second : UInt8
deriving DecidableEq

-- what the client returns for a DATE of the common era
def datBytes (f : Fields) : DatBytes where
  century := UInt8.ofNat (f.year / 100 + 100).toNat
  year := UInt8.ofNat (f.year % 100 + 100).toNat
  month := UInt8.ofNat f.month
  day := UInt8.ofNat f.day
  hour := UInt8.ofNat (f.hour + 1).toNat
  minute := UInt8.ofNat (f.minute + 1).toNat
  second := UInt8.ofNat (f.second + 1).toNat

-- convert_date_time(): seconds and microseconds, the fields being taken to be in the zone of the process
def convertDateTime (process : ℤ) (str : DatBytes) : ℤ × ℕ :=
  let year : ℤ :=
    if str.century.toNat < 100 ∨ str.year.toNat < 100 then 9999
    else ((str.century.toNat : ℤ) - 100) * 100 + ((str.year.toNat : ℤ) - 100)
  (secondsOf ⟨year, str.month.toNat, str.day.toNat, (str.hour.toNat : ℤ) - 1, (str.minute.toNat : ℤ) - 1,
    (str.second.toNat : ℤ) - 1⟩ - process, 0)

lemma convertDateTime_datBytes (process : ℤ) {f : Fields} (hf : f.Valid) (hlo : 1 ≤ f.year)
    (hhi : f.year ≤ 9999) :
    convertDateTime process (datBytes f) = (secondsOf f - process, 0) := by
  have byte {n : ℕ} (hn : n < 256) : (UInt8.ofNat n).toNat = n := by
    rw [UInt8.toNat_ofNat']
    omega
  obtain ⟨hm, hd, hh, hn, hs⟩ := hf
  have hyear : (datBytes f).year.toNat = (f.year % 100 + 100).toNat := byte (by omega)
  have hcentury : (datBytes f).century.toNat = (f.year / 100 + 100).toNat := byte (by omega)
  have hmonth : (datBytes f).month.toNat = f.month := byte (by omega)
  have hday : (datBytes f).day.toNat = f.day := byte (by omega)
  have hhour : (datBytes f).hour.toNat = (f.hour + 1).toNat := byte (by omega)
  have hminute : (datBytes f).minute.toNat = (f.minute + 1).toNat := byte (by omega)
  have hsecond : (datBytes f).second.toNat = (f.second + 1).toNat := byte (by omega)
  unfold convertDateTime
  dsimp only
  rw [hyear, hcentury, hmonth, hday, hhour, hminute, hsecond, if_neg (by omega)]
  have hfields : (⟨(((f.year / 100 + 100).toNat : ℤ) - 100) * 100 +
      (((f.year % 100 + 100).toNat : ℤ) - 100), f.month, f.day,
      ((f.hour + 1).toNat : ℤ) - 1, ((f.minute + 1).toNat : ℤ) - 1,
        ((f.second + 1).toNat : ℤ) - 1⟩ : Fields) = f := by
    obtain ⟨fy, fmo, fda, fho, fmi, fse⟩ := f
    rw [Fields.mk.injEq]
    dsimp only at *
    refine ⟨by omega, rfl, rfl, by omega, by omega, by omega⟩
  rw [hfields]

-- a date that is bound, stored without change and read is the same instant
def DateRoundTrips (server process : ℤ) (d : DateTime) : Prop :=
  ∃ f us, (dateTimeConstructArgs (fun _ => server) d).Reads f us ∧
    convertDateTime process (datBytes f) = (d.epoch, d.us)

/-- A date comes back from the server as it was bound if and only if the server and the process are
in one zone; in the first year, if they differ by the second that is lost. -/
theorem dateRoundTrips_iff (server process : ℤ) (d : DateTime) (hus : d.us = 0)
    (hlo : 1 ≤ (d.getInfo fun _ => server).year) (hhi : (d.getInfo fun _ => server).year ≤ 9999) :
    DateRoundTrips server process d ↔ server = process +
      if 1 < (d.getInfo fun _ => server).year then 0 else (d.getInfo fun _ => server).second := by
  have hread {e : ℤ} (he : 1 ≤ (fieldsOf e).year) (he' : (fieldsOf e).year ≤ 9999) :
      convertDateTime process (datBytes (fieldsOf e)) = (e - process, 0) := by
    rw [convertDateTime_datBytes process (fieldsOf_valid e) he he', secondsOf_fieldsOf]
  split_ifs with hy
  · constructor
    · rintro ⟨f, us, hf, he⟩
      obtain ⟨rfl, -⟩ := (dateTimeConstructArgs_reads hy).mp hf
      rw [DateTime.getInfo, hread hlo hhi, Prod.mk.injEq] at he
      have hepoch : d.epoch + server - process = d.epoch := he.1
      omega
    · rw [Int.add_zero]
      rintro rfl
      refine ⟨_, _, (dateTimeConstructArgs_reads hy).mpr ⟨rfl, rfl⟩, ?_⟩
      rw [DateTime.getInfo, hread hlo hhi, hus, Int.add_sub_cancel]
  · have hminute : { d.getInfo fun _ => server with second := 0 } =
        fieldsOf (d.epoch + server - (d.getInfo fun _ => server).second) :=
      (fieldsOf_sub_second _).symm
    have hyear := congrArg Fields.year hminute
    constructor
    · rintro ⟨f, us, hf, he⟩
      obtain ⟨-, rfl, -⟩ := (dateTimeConstructArgs_reads_text (not_lt.mp hy)).mp hf
      rw [hminute, hread (hyear ▸ hlo) (hyear ▸ hhi), Prod.mk.injEq] at he
      omega
    · intro h
      refine ⟨_, _, (dateTimeConstructArgs_reads_text (not_lt.mp hy)).mpr ⟨by omega, rfl, rfl⟩, ?_⟩
      rw [hminute, hread (hyear ▸ hlo) (hyear ▸ hhi), hus, Prod.mk.injEq]
      exact ⟨by omega, rfl⟩

theorem dateRoundTrips_iff_leap :
    DateRoundTrips 3600 3600 ⟨951782400, 0, fun _ => 0, by decide⟩ ↔
      (3600 : ℤ) = 3600 + if 1 < (fieldsOf 951786000).year then 0 else (fieldsOf 951786000).second :=
  dateRoundTrips_iff 3600 3600 ⟨951782400, 0, fun _ => 0, by decide⟩ rfl (by decide) (by decide)

theorem not_dateRoundTrips_east : ¬DateRoundTrips 3600 0 ⟨951782400, 0, fun _ => 0, by decide⟩ := by
  rintro ⟨f, us, hf, he⟩
  obtain ⟨rfl, -⟩ := (dateTimeConstructArgs_reads (by decide)).mp hf
  exact absurd he (by decide)

end OracleDriver
