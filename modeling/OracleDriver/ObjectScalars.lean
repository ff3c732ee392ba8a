import OracleDriver.DateBinds
import OracleDriver.LobAttributes
import OracleDriver.NumberConversions
import OracleDriver.ObjectTypes

/-! Values of attributes and of elements that are no objects and no collections: how they are
written for a bind and how they are read. -/

namespace OracleDriver

inductive Fault where
  | raised (e : Exn)
  -- the name of a type that a column does not have
  | nullTypinf
  -- the memory of a value is not of the type of its column
  | foreign
  -- a read of a LOB that writes behind its buffer
  | overrun
deriving DecidableEq, Repr

-- the numbers that DateTime::getYear() and the other getters return
structure DateInfo where
  year : ℤ
  month : ℤ
  day : ℤ
  hour : ℤ
  minute : ℤ
  second : ℤ
  us : ℤ
deriving DecidableEq, Repr

-- an OCIDateTime; the offset is that of OCIDateTimeGetTimeZoneOffset(), in seconds
structure Timestamp where
  fields : DateInfo
  ns : ℤ
  offset : Option ℤ
deriving DecidableEq, Repr

inductive Scalar where
  | text (t : Text)
  | number (n : OracleNumber)
  | date (d : DateInfo)
  | timestamp (t : Timestamp)
  | yearMonth (year month : ℤ)
  | daySecond (day hour minute second fs : ℤ)
  | lob (l : LobContent)

-- the functions of Qore and of the OCI that values are converted with
structure ScalarClient where
  lib : QoreLib
  encoding : Encoding
  numberSupport : NumberOption
  -- QoreStringValueHelper with the encoding of the connection
  asString : QoreValue → Except Fault Text
  dateInfo : QoreValue → DateInfo
  numberFromText : Text → Except Fault OracleNumber
  numberFromInt : ℤ → Except Fault OracleNumber
  numberFromReal : ℕ → Except Fault OracleNumber
  numberToReal : OracleNumber → Except Fault ℕ
  numberToText : OracleNumber → Text
  -- `none` is the error of a number that does not fit
  numberToInt : OracleNumber → Option ℤ
  -- what OCINumberToInt() raises for a number that does not fit
  numberOverflow : Fault
  -- OCIDateTimeConstruct() with nanoseconds
  timestampConstruct : DateInfo → ℤ → Except Fault Timestamp
  intervalSetYearMonth : ℤ → ℤ → Except Fault Unit
  intervalSetDaySecond : ℤ → ℤ → ℤ → ℤ → ℤ → Except Fault Unit
  encode : Char → List UInt8
  decode : List UInt8 → Text
  ociLibrary : OciLibrary
  lobClient : LobClient
  alloc : ℕ → Bool
  memory : ℕ → UInt8
  maxCharWidth : ℕ
  -- DateTimeNode::makeAbsolute(), in the zone of the connection or in one with an offset
  makeAbsolute : Option ℤ → DateInfo → {v : QoreValue // v.isNullOrNothing = false}
  makeRelative : DateInfo → {v : QoreValue // v.isNullOrNothing = false}

-- where a value is bound
inductive NtySite where
  | object (tname cname : String)
  | collection (tname : String)

namespace NtySite

def numberType (site : NtySite) (typeName : String) : Fault :=
  .raised ⟨"BIND-NTY-ERROR", match site with
    | object tname cname => "NUMBER: unable to bind value of Qore type: '" ++ typeName ++
        "' to object attribute " ++ tname ++ "." ++ cname
    | collection tname =>
        "NUMBER: unable to bind value of Qore type: '" ++ typeName ++ "' element for collection '" ++
          tname ++ "'"⟩

-- the type is OCI_CDT_TEXT
def unknownDate : NtySite → Fault
  | object tname cname => .raised ⟨"BIND-NTY-ERROR",
      "Unknown DATE-like argument for " ++ tname ++ "." ++ cname ++ " (type: 4)"⟩
  | collection _ => .raised ⟨"BIND-NTY-ERROR", "Unknown DATE-like argument (type: 4)"⟩

-- the message for an element names the type of a column that is no object
def unsupported : NtySite → Fault
  | object tname cname => .raised ⟨"BIND-NTY-ERROR",
      "unknown datatype to bind as an attribute (unsupported): " ++ tname ++ "." ++ cname⟩
  | collection _ => .nullTypinf

end NtySite

section Bind

variable (c : ScalarClient)

def bindNumber (site : NtySite) : QoreValue → Except Fault OracleNumber
  | .string s => c.numberFromText s.text
  | .float bits => c.numberFromReal bits
  | .int i => c.numberFromInt i
  | .number digits => c.numberFromText digits
  | v => .error (site.numberType (String.ofList v.typeName))

def bindDateLike (site : NtySite) (ocode : Sqlt) (dn : DateInfo) : Except Fault Scalar :=
  match ocode.columnType with
  | .timestamp => do
    return .timestamp (← c.timestampConstruct dn (dn.us * 1000))
  | .datetime => return .date { dn with us := 0 }
  | .interval =>
    if ocode = .intervalYm then do
      c.intervalSetYearMonth dn.year dn.month
      return .yearMonth dn.year dn.month
    else do
      c.intervalSetDaySecond dn.day dn.hour dn.minute dn.second (dn.us * 1000)
      return .daySecond dn.day dn.hour dn.minute dn.second (dn.us * 1000)
  | _ => .error site.unknownDate

-- an empty value is bound as NULL
def bindLob : QoreValue → Except Fault (Option LobContent)
  | .binary bytes => return if bytes.isEmpty then none else some (.blob bytes)
  | v => do
    let str ← c.asString v
    return if str.isEmpty then none else some (.clob (str.map c.encode))

-- the cases of objBindQore() and of collBindQore() for a value that is not NULL; `none` is NULL
def bindScalar (site : NtySite) (ocode : Sqlt) (val : QoreValue) : Except Fault (Option Scalar) :=
  match ocode with
  | .lng | .afc | .avc | .str | .chr => do
    let str ← c.asString val
    return if str.isEmpty then none else some (.text (cStr str))
  | .num => do
    return some (.number (← bindNumber c site val))
  | .int => do
    return some (.number (← c.numberFromInt (c.lib.getAsBigInt val)))
  | .flt | .bfloat | .ibfloat | .bdouble | .ibdouble => do
    return some (.number (← c.numberFromReal (c.lib.getAsFloat val)))
  | .dat | .odt | .date | .timestamp | .timestampTz | .timestampLtz | .intervalYm | .intervalDs => do
    return some (← bindDateLike c site ocode (c.dateInfo val))
  | .clob | .blob => do
    return (← bindLob c val).map .lob
  | .bin | .bfile => .error site.unsupported

end Bind

-- the type of the columns among which the case looks for the attribute
def Sqlt.caseType : Sqlt → ColumnType
  | .lng | .afc | .avc | .str | .chr => .text
  | ocode => ocode.columnType

section Fetch

variable (c : ScalarClient)

def fetchText : Scalar → Except Fault QoreValue
  | .text t => return .string ⟨t, c.encoding⟩
  | _ => .error .foreign

def fetchInt : Scalar → Except Fault QoreValue
  | .number n =>
    match c.numberToInt n with
    | some i => return .int i
    | none => .error c.numberOverflow
  | _ => .error .foreign

def fetchFloat : Scalar → Except Fault QoreValue
  | .number n => do
    return .float (← c.numberToReal n)
  | _ => .error .foreign

def unknownDate (site : LobSite) : Fault :=
  .raised ⟨"FETCH-NTY-ERROR", match site with
    | .object _ _ cname => site.subject ++ " Unknown DATE-like argument for " ++ cname ++ " (type: 4)"
    | .collection .. => site.subject ++ " Unknown DATE-like argument (code: 184)"⟩

-- only SQLT_TIMESTAMP gets the zone of the connection
def fetchDateLike (site : LobSite) (ocode : Sqlt) (s : Scalar) : Except Fault QoreValue :=
  match ocode.columnType, s with
  | .timestamp, .timestamp t =>
    let zone := if ocode = .timestamp then none else t.offset
    return c.makeAbsolute zone { t.fields with us := t.ns / 1000 }
  | .datetime, .date d => return c.makeAbsolute none { d with us := 0 }
  | .interval, s =>
    match ocode, s with
    | .intervalYm, .yearMonth y m => return c.makeRelative ⟨y, m, 0, 0, 0, 0, 0⟩
    | .intervalDs, .daySecond d h mi s fs => return c.makeRelative ⟨0, 0, d, h, mi, s, fs.tdiv 1000⟩
    | _, _ => .error .foreign
  | .timestamp, _ | .datetime, _ => .error .foreign
  | _, _ => .error (unknownDate site)

def fetchLob (site : LobSite) (ocode : Sqlt) : Scalar → Except Fault QoreValue
  | .lob l =>
    if l.isBlob ≠ (ocode == .blob) then .error .foreign
    else
      let r := readLobAttribute c.ociLibrary c.lobClient c.alloc c.memory c.maxCharWidth site l
      if r.allocated < r.reach then .error .overrun
      else
        match r.result with
        | .ok (.string bytes) => return .string ⟨c.decode bytes, c.encoding⟩
        | .ok (.binary bytes) => return .binary bytes
        | .error e => .error (.raised e)
  | _ => .error .foreign

-- the case SQLT_NUM: an attribute is read as the option for numbers says, an element as a number
-- with a binary mantissa or as an integer
def fetchNumber (site : LobSite) (prec scale : ℤ) : Scalar → Except Fault QoreValue
  | .number n =>
    match site with
    | .object .. => return objNumber c.numberToText c.numberSupport c.encoding n
    | .collection .. =>
      if scale = -127 ∧ 0 < prec then fetchFloat c (.number n) else fetchInt c (.number n)
  | _ => .error .foreign

def unsupported (site : LobSite) (ocode : Sqlt) : Fault :=
  match site with
  | .object .. => .nullTypinf
  | .collection .. => .raised ⟨"FETCH-NTY-ERROR", site.subject ++
      " unknown datatype to fetch as an attribute: " ++ (if ocode = .bin then "23" else "114") ++
      " (define SQLT_...)"⟩

-- the cases of objToQore() and of collToQore() for what is not NULL
def fetchScalar (site : LobSite) (ocode : Sqlt) (prec scale : ℤ) (s : Scalar) : Except Fault QoreValue :=
  match ocode with
  | .lng | .afc | .avc | .str | .chr => fetchText c s
  | .num => fetchNumber c site prec scale s
  | .int => fetchInt c s
  | .flt | .bfloat | .ibfloat | .bdouble | .ibdouble => fetchFloat c s
  | .dat | .odt | .date | .timestamp | .timestampTz | .timestampLtz | .intervalYm | .intervalDs =>
    fetchDateLike c site ocode s
  | .clob | .blob => fetchLob c site ocode s
  | .bin | .bfile => .error (unsupported site ocode)

lemma ite_ne_null (p : Prop) [Decidable p] (i : ℤ) (t : Text) :
    (if p then QoreValue.int i else .number t) ≠ .null := by
  split_ifs
  · nofun
  · nofun

lemma getNumberOptimal_ne_null (t : Text) : getNumberOptimal t ≠ .null := ite_ne_null _ _ t

lemma fetchText_ne_null (s : Scalar) : fetchText c s ≠ .ok .null := by
  cases s <;> nofun

lemma fetchInt_ne_null (s : Scalar) : fetchInt c s ≠ .ok .null := by
  cases s with
  | number n =>
    unfold fetchInt
    dsimp only
    split
    · nofun
    · nofun
  | _ => nofun

lemma fetchFloat_ne_null (s : Scalar) : fetchFloat c s ≠ .ok .null := by
  cases s with
  | number n =>
    unfold fetchFloat
    dsimp only
    cases c.numberToReal n with
    | ok bits => nofun
    | error e => nofun
  | _ => nofun

lemma fetchNumber_ne_null (site : LobSite) (prec scale : ℤ) (s : Scalar) :
    fetchNumber c site prec scale s ≠ .ok .null := by
  cases s with
  | number n =>
    cases site with
    | object =>
      unfold fetchNumber objNumber
      cases c.numberSupport with
      | optimal =>
        intro h
        exact getNumberOptimal_ne_null _ (Except.ok.inj h)
      | string => nofun
      | numeric => nofun
    | collection =>
      unfold fetchNumber
      dsimp only
      split
      · exact fetchFloat_ne_null c _
      · exact fetchInt_ne_null c _
  | _ => nofun

lemma fetchDateLike_ne_null (site : LobSite) (ocode : Sqlt) (s : Scalar) :
    fetchDateLike c site ocode s ≠ .ok .null := by
  have hnode
      (v : {v : QoreValue // v.isNullOrNothing = false}) : (.ok v.1 : Except Fault QoreValue) ≠ .ok .null := by
    intro h
    have hv := v.2
    rw [Except.ok.inj h] at hv
    cases hv
  unfold fetchDateLike
  split
  · exact hnode _
  · exact hnode _
  · split
    · exact hnode _
    · exact hnode _
    · nofun
  · nofun
  · nofun
  · nofun

lemma fetchLob_ne_null (site : LobSite) (ocode : Sqlt) (s : Scalar) :
    fetchLob c site ocode s ≠ .ok .null := by
  cases s with
  | lob l =>
    simp only [fetchLob]
    split_ifs
    · nofun
    · nofun
    · split
      · nofun
      · nofun
      · nofun
  | _ => nofun

-- what is stored is never read as NULL
lemma fetchScalar_ne_null (site : LobSite) (ocode : Sqlt) (prec scale : ℤ) (s : Scalar) :
    fetchScalar c site ocode prec scale s ≠ .ok .null := by
  unfold fetchScalar
  split
  all_goals first
    | exact fetchText_ne_null c s
    | exact fetchNumber_ne_null c site prec scale s
    | exact fetchInt_ne_null c s
    | exact fetchFloat_ne_null c s
    | exact fetchDateLike_ne_null c site _ s
    | exact fetchLob_ne_null c site _ s
    | nofun

end Fetch

-- texts of the encoding of the connection, and no other values
def textClient : ScalarClient where
  lib := plainLib
  encoding := 0
  numberSupport := .optimal
  asString
    | .string s => .ok s.text
    | _ => .ok []
  dateInfo _ := ⟨1, 1, 1, 0, 0, 0, 0⟩
  numberFromText _ := .error .foreign
  numberFromInt _ := .error .foreign
  numberFromReal _ := .error .foreign
  numberToReal _ := .error .foreign
  numberToText := OracleNumber.text
  numberToInt := OracleNumber.toInt
  numberOverflow := .foreign
  timestampConstruct _ _ := .error .foreign
  intervalSetYearMonth _ _ := .error .foreign
  intervalSetDaySecond _ _ _ _ _ := .error .foreign
  encode _ := []
  decode _ := []
  ociLibrary := ⟨false, false⟩
  lobClient := ⟨fun _ => none, fun _ => none, fun _ _ _ _ _ => none, fun _ _ _ _ => none, false⟩
  alloc _ := true
  memory _ := 0
  maxCharWidth := 1
  makeAbsolute _ _ := ⟨.int 0, rfl⟩
  makeRelative _ := ⟨.int 0, rfl⟩

end OracleDriver
