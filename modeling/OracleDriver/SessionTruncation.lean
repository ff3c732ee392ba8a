import Mathlib.Data.List.Induction
import OracleDriver.Library.FuelRun
import OracleDriver.Library.LeadBytes
import OracleDriver.SessionInfo

/-! Session attributes are cut between characters, in UTF-8 and after their conversion. -/

namespace OracleDriver

open FuelRun LeadBytes

def utf8 (t : Text) : List UInt8 := encode String.utf8EncodeChar t

def isContinuation (b : UInt8) : Bool := b &&& 0xc0 == 0x80

-- the loop of ora_truncate_utf8(); a byte behind the end is zero
def truncatedLength (str : List UInt8) : ℕ → ℕ
  | 0 => 0
  | len + 1 => if isContinuation (str.getD (len + 1) 0) then truncatedLength str len else len + 1

def oraTruncateUtf8 (str : List UInt8) (maxBytes : ℕ) : List UInt8 :=
  if str.length ≤ maxBytes then str else str.take (truncatedLength str maxBytes)

-- the encoding of the connection; `plain` is UTF-8 or none at all
structure SessionEncoding where
  plain : Bool
  convert : List UInt8 → Option (List UInt8)

-- setSessionAttr(): `tried` are the texts that were converted, and `sent` is what the client is
-- given or an exception
structure AttrLoop where
  src : List UInt8
  tried : List (List UInt8)
  sent : Option (Option (List UInt8))

namespace AttrLoop

variable (e : SessionEncoding)

def start (value : List UInt8) : AttrLoop :=
  ⟨value, [], if value.isEmpty || e.plain then some (some value) else none⟩

def halted (s : AttrLoop) : Bool := s.sent.isSome

-- the size of an empty text minus one is the largest size
def step (s : AttrLoop) : AttrLoop :=
  match e.convert s.src with
  | none => ⟨s.src, s.tried ++ [s.src], some none⟩
  | some str =>
    if str.length ≤ sessionAttrMaxBytes then ⟨s.src, s.tried ++ [s.src], some (some str)⟩
    else ⟨oraTruncateUtf8 s.src (if s.src = [] then 2 ^ 64 - 1 else s.src.length - 1),
      s.tried ++ [s.src], none⟩

end AttrLoop

-- the text in the encoding of the connection
def SessionEncoding.target (e : SessionEncoding) (value : List UInt8) : Option (List UInt8) :=
  if e.plain then some value else e.convert value

-- the conversion goes from character to character, and nothing becomes nothing
def SessionEncoding.CharByChar (e : SessionEncoding) : Prop :=
  ∃ f : Char → List UInt8, ∀ t, e.convert (utf8 t) = some (t.flatMap f)

/-- A prefix of whole characters that fits, and no longer one does. -/
structure LongestPrefix (t : Text) (fit : Text → Prop) (p : Text) : Prop where
  isPrefix : p <+: t
  fits : fit p
  longest : ∀ q, q <+: t → fit q → q.length ≤ p.length

def FitsAttr (e : SessionEncoding) (q : Text) : Prop :=
  ∃ u, e.target (utf8 q) = some u ∧ u.length ≤ sessionAttrMaxBytes

section Truncation

lemma continuation_byte : ∀ n < 64, isContinuation (UInt8.ofNat (n + 0x80)) = true := by decide

lemma ascii_byte : ∀ n < 128, isContinuation (UInt8.ofNat n) = false := by decide

lemma lead_byte : ∀ n < 64, isContinuation (UInt8.ofNat (n + 0xc0)) = false := by decide

-- every character of UTF-8 has one lead byte, the first
lemma utf8_encodes : LeadBytes.Encodes String.utf8EncodeChar isContinuation := by
  constructor
  intro c
  have more : ∀ n, isContinuation (UInt8.ofNat (n % 64 + 0x80)) = true := fun n =>
    continuation_byte _ (Nat.mod_lt n (by omega))
  have lead : ∀ n m, n + m < 64 → isContinuation
      (UInt8.ofNat (n + (m + 0xc0))) = false := fun n m h => by
    rw [← Nat.add_assoc]
    exact lead_byte _ h
  simp only [String.utf8EncodeChar]
  split
  case isTrue hv =>
    refine ⟨_, _, rfl, ascii_byte _ (by omega), nofun⟩
  split
  · refine ⟨_, _, rfl, lead _ 0 (by omega), ?_⟩
    intro b hb
    rw [List.mem_singleton.mp hb]
    exact more _
  split
  · refine ⟨_, _, rfl, lead _ 32 (by omega), ?_⟩
    intro b hb
    simp only [List.mem_cons, List.not_mem_nil, or_false] at hb
    rcases hb with rfl | rfl <;> exact more _
  · refine ⟨_, _, rfl, lead _ 48 (by omega), ?_⟩
    intro b hb
    simp only [List.mem_cons, List.not_mem_nil, or_false] at hb
    rcases hb with rfl | rfl | rfl <;> exact more _

lemma truncatedLength_eq (str : List UInt8) (n : ℕ) :
    truncatedLength str n = backUp isContinuation str n := by
  induction n with
  | zero => rfl
  | succ n ih =>
    rw [truncatedLength, backUp, ih, List.getD_eq_getElem?_getD]
    cases str[n + 1]? with
    | none => rfl
    | some b => rfl

lemma oraTruncateUtf8_eq (str : List UInt8) (n : ℕ) :
    oraTruncateUtf8 str n = cut isContinuation str n := by
  rw [oraTruncateUtf8, cut, truncatedLength_eq]

lemma fitting_eq_truncate (n : ℕ) (t : Text) : fitting String.utf8EncodeChar n t = truncateUtf8 n t := by
  induction t generalizing n with
  | nil => rfl
  | cons c t ih => rw [fitting, truncateUtf8, String.length_utf8EncodeChar, ih]

/-- Cutting the bytes is dropping characters. -/
lemma oraTruncateUtf8_utf8 (t : Text) (n : ℕ) :
    oraTruncateUtf8 (utf8 t) n = utf8 (truncateUtf8 n t) := by
  rw [oraTruncateUtf8_eq, utf8, cut_encode utf8_encodes, fitting_eq_truncate]
  rfl

lemma truncateUtf8_longest (t : Text) (n : ℕ) :
    LongestPrefix t (fun q => (utf8 q).length ≤ n) (truncateUtf8 n t) := by
  rw [← fitting_eq_truncate]
  exact ⟨fitting_isPrefix _ n t, length_fitting _ n t, fun q hq hlen => fitting_longest hq hlen⟩

lemma oraTruncateUtf8_last (t : Text) (c : Char) :
    oraTruncateUtf8 (utf8 (t ++ [c])) ((utf8 (t ++ [c])).length - 1) = utf8 t := by
  rw [oraTruncateUtf8_eq]
  exact cut_last utf8_encodes t c

end Truncation

section Loop

variable {e : SessionEncoding}

-- the texts of a loop that starts with `t` and ends with its prefix of the length `n`
def shortened (t : Text) (n : ℕ) : List (List UInt8) :=
  (List.range (t.length - n + 1)).map fun i => utf8 (t.take (t.length - i))

lemma shortened_self (t : Text) : shortened t t.length = [utf8 t] := by
  simp [shortened]

lemma shortened_concat {t : Text} {n : ℕ} (hn : n ≤ t.length) (c : Char) :
    shortened (t ++ [c]) n = utf8 (t ++ [c]) :: shortened t n := by
  have hlen : (t ++ [c]).length - n + 1 = t.length - n + 1 + 1 := by
    rw [List.length_append, List.length_singleton]
    omega
  rw [shortened, hlen, List.range_succ_eq_map, List.map_cons, List.map_map, Nat.sub_zero,
    List.take_length]
  congr 1
  apply List.map_congr_left
  intro i hi
  have htake : (t ++ [c]).take (t.length - i) = t.take (t.length - i) :=
    List.take_append_of_le_length (by omega)
  simp [← htake]

-- one turn of the loop, in which the text fits or loses its last character
lemma step_convert {t : Text} {tried : List (List UInt8)} {u : List UInt8}
    (hu : e.convert (utf8 t) = some u) :
    (u.length ≤ sessionAttrMaxBytes → AttrLoop.step e ⟨utf8 t, tried, none⟩ = ⟨utf8 t,
      tried ++ [utf8 t], some (some u)⟩) ∧
    (sessionAttrMaxBytes < u.length → ∀ q c, t = q ++ [c] →
      AttrLoop.step e ⟨utf8 t, tried, none⟩ = ⟨utf8 q, tried ++ [utf8 t], none⟩) := by
  constructor
  · intro hfit
    simp only [AttrLoop.step, hu, if_pos hfit]
  · rintro hbig q c rfl
    have hne : utf8 (q ++ [c]) ≠ [] := by
      have hlt := length_encode_lt utf8_encodes (a := c) q
      exact List.ne_nil_of_length_pos (Nat.zero_lt_of_lt hlt)
    simp only [AttrLoop.step, hu, if_neg (Nat.not_le.mpr hbig), if_neg hne, oraTruncateUtf8_last]

lemma ends_fit {t : Text} {tried : List (List UInt8)} {u : List UInt8} (hu : e.convert (utf8 t) = some u)
    (hfit : u.length ≤ sessionAttrMaxBytes) :
    Ends AttrLoop.halted (AttrLoop.step e) ⟨utf8 t, tried, none⟩
      ⟨utf8 t, tried ++ [utf8 t], some (some u)⟩ := by
  apply ends_step rfl
  rw [(step_convert hu).1 hfit]
  exact ends_refl rfl

lemma longest_self {t : Text} {fit : Text → Prop} (h : fit t) : LongestPrefix t fit t :=
  ⟨List.prefix_refl t, h, fun _ hq _ => hq.length_le⟩

lemma longest_concat {t p : Text} {c : Char} {fit : Text → Prop} (h : LongestPrefix t fit p)
    (hbig : ¬fit (t ++ [c])) :
    LongestPrefix (t ++ [c]) fit p := by
  refine ⟨h.isPrefix.trans (List.prefix_append t [c]), h.fits, ?_⟩
  intro q hq hfit
  rcases List.prefix_concat_iff.mp hq with rfl | hsub
  · exact absurd hfit hbig
  · exact h.longest q hsub hfit

/-- The loop ends with the longest prefix that fits, and it has tried the longer ones before, each
of them once. -/
lemma loop_longest (he : e.CharByChar) (hplain : e.plain = false) (t : Text)
    (tried : List (List UInt8)) :
    ∃ p s u, Ends AttrLoop.halted (AttrLoop.step e) ⟨utf8 t, tried, none⟩ s ∧
      LongestPrefix t (FitsAttr e) p ∧
      s.sent = some (some u) ∧ e.target (utf8 p) = some u ∧ s.tried = tried ++ shortened t p.length := by
  obtain ⟨f, hf⟩ := he
  have htarget : ∀ q, e.target (utf8 q) = some (q.flatMap f) := by
    intro q
    rw [SessionEncoding.target, hplain]
    exact hf q
  induction t using List.reverseRecOn generalizing tried with
  | nil =>
    refine ⟨[], _, _, ends_fit (hf []) (Nat.zero_le _),
      longest_self ⟨_, htarget [], Nat.zero_le _⟩, rfl, htarget [], ?_⟩
    rfl
  | append_singleton t c ih =>
    by_cases hfit : ((t ++ [c]).flatMap f).length ≤ sessionAttrMaxBytes
    · refine ⟨t ++ [c], _, _, ends_fit (hf _) hfit, longest_self ⟨_, htarget _, hfit⟩, rfl,
        htarget _, ?_⟩
      rw [shortened_self]
    · obtain ⟨p, s, u, hends, hlong, hsent, hu, htried⟩ := ih (tried ++ [utf8 (t ++ [c])])
      have hbig : ¬FitsAttr e (t ++ [c]) := by
        rintro ⟨v, hv, hle⟩
        rw [htarget] at hv
        exact hfit (Option.some.inj hv ▸ hle)
      refine ⟨p, s, u, ?_, longest_concat hlong hbig, hsent, hu, ?_⟩
      · apply ends_step rfl
        rw [(step_convert (hf _)).2 (Nat.lt_of_not_le hfit) t c rfl]
        exact hends
      · rw [htried, shortened_concat hlong.isPrefix.length_le, List.append_assoc, List.singleton_append]

lemma target_direct (he : e.CharByChar) {t : Text} (hdirect : ((utf8 t).isEmpty || e.plain) = true)
    (hstored : e.plain = true → (utf8 t).length ≤ sessionAttrMaxBytes) :
    e.target (utf8 t) = some (utf8 t) ∧ (utf8 t).length ≤ sessionAttrMaxBytes := by
  cases hplain : e.plain with
  | true => exact ⟨by rw [SessionEncoding.target, hplain, if_pos rfl], hstored hplain⟩
  | false =>
    rw [hplain, Bool.or_false, List.isEmpty_iff] at hdirect
    obtain ⟨f, hf⟩ := he
    have hnil := hf []
    rw [utf8, encode_nil, List.flatMap_nil] at hnil
    rw [hdirect, SessionEncoding.target, hplain]
    exact ⟨hnil, Nat.zero_le _⟩

end Loop

/-- Bytes are cut where the longest prefix of whole characters ends; the loop ends, each of its
turns takes one character away, and the client is given the longest prefix whose converted form
fits. A value that is not converted has to fit. -/
theorem sessionAttr_truncation :
    (∀ (t : Text) (limit : ℕ), ∃ p, oraTruncateUtf8 (utf8 t) limit = utf8 p ∧
      LongestPrefix t (fun q => (utf8 q).length ≤ limit) p) ∧
    ∀ e : SessionEncoding, e.CharByChar → ∀ t :
    Text, (e.plain = true → (utf8 t).length ≤ sessionAttrMaxBytes) →
      ∃ p s u, Ends AttrLoop.halted (AttrLoop.step e) (.start e (utf8 t)) s ∧
        LongestPrefix t (FitsAttr e) p ∧
        s.sent = some (some u) ∧ e.target (utf8 p) = some u ∧
        (s.tried = shortened t p.length ∨ s.tried = [] ∧ p = t) := by
  refine ⟨fun t limit => ⟨_, oraTruncateUtf8_utf8 t limit, truncateUtf8_longest t limit⟩, ?_⟩
  intro e he t hstored
  by_cases hdirect : (utf8 t).isEmpty || e.plain
  · obtain ⟨htarget, hle⟩ := target_direct he hdirect hstored
    refine ⟨t, .start e (utf8 t), utf8 t, ends_refl ?_, longest_self ⟨_, htarget, hle⟩, ?_,
      htarget, Or.inr ⟨rfl, rfl⟩⟩
    · simp [AttrLoop.halted, AttrLoop.start, hdirect]
    · simp [AttrLoop.start, hdirect]
  · have hplain : e.plain = false := by
      rw [Bool.not_eq_true, Bool.or_eq_false_iff] at hdirect
      exact hdirect.2
    obtain ⟨p, s, u, hends, hlong, hsent, hu, htried⟩ := loop_longest he hplain t []
    refine ⟨p, s, u, ?_, hlong, hsent, hu, Or.inl htried⟩
    rw [AttrLoop.start, if_neg hdirect]
    exact hends

-- two bytes for each byte of a value in ASCII
def wideEncoding : SessionEncoding := ⟨false, fun value => some (value.flatMap fun b => [0, b])⟩

lemma wideEncoding_charByChar : wideEncoding.CharByChar :=
  ⟨fun c => (String.utf8EncodeChar c).flatMap fun b => [0, b],
    fun t => by simp [wideEncoding, utf8, encode, List.flatMap_assoc]⟩

-- eight characters do not fit
def longModule : Text := List.replicate 40 'a'

theorem sessionAttr_truncation_wide :
    ∃ p s u, Ends AttrLoop.halted (AttrLoop.step wideEncoding)
      (.start wideEncoding (utf8 longModule)) s ∧
      LongestPrefix longModule (FitsAttr wideEncoding) p ∧ s.sent = some (some u) ∧
      wideEncoding.target (utf8 p) = some u ∧
        (s.tried = shortened longModule p.length ∨ s.tried = [] ∧ p = longModule) :=
  sessionAttr_truncation.2 wideEncoding wideEncoding_charByChar longModule nofun

end OracleDriver
