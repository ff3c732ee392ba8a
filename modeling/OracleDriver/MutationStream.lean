import OracleDriver.DriverWalk
import OracleDriver.LoadOutcome

/-! What the observer of direct path loads is told, over all runs of a connection: each load that it
accepts begins once, is reported with growing totals, and ends once, with the bytes of the blocks
that were loaded. -/

namespace OracleDriver

open Act

def Event.streamed : Event → Option StreamEvent
  | .stream e => some e
  | _ => none

-- the first event is the first of the list
def World.told (w : World) : List StreamEvent := w.log.reverse.filterMap Event.streamed

def StreamEvent.progressed : StreamEvent → Option ℕ
  | .progress n => some n
  | _ => none

def StreamEvent.bytes : StreamEvent → Option ℕ
  | .loaded n => some n
  | _ => none

-- the events of a load that the observer has accepted, from its begin on and without its end
structure IsLoad (m : List StreamEvent) (total reported : ℕ) : Prop where
  begins : ∃ mid, m = .begun :: mid ∧ ∀ e ∈ mid, e ≠ .begun ∧ ∀ n, e ≠ .ended n
  increasing : (0 :: m.filterMap StreamEvent.progressed).Pairwise (· < ·)
  last : reported ∈ 0 :: m.filterMap StreamEvent.progressed
  most : ∀ n ∈ m.filterMap StreamEvent.progressed, n ≤ reported
  counted : .overflow ∉ m → total = (m.filterMap StreamEvent.bytes).sum
  covers : reported ≤ total
  unreported : total < reported + streamReportBytes
  fits : total ≤ int64Max
  blocks : ∀ n ∈ m.filterMap StreamEvent.bytes, n ≤ sizeMax

-- loads that have ended, and blocks of loads that no observer is told of
inductive Complete : List StreamEvent → Prop
  | nil : Complete []
  | unobserved {l n} (hl : Complete l) : Complete (l ++ [.loaded n])
  | load {l m total reported} (hl : Complete l) (hm : IsLoad m total reported) : Complete
      (l ++ m ++ [.ended total])

def Serves (s : BulkStream) (l : List StreamEvent) : Prop :=
  if s.started then ∃ done m, l = done ++ m ∧ Complete done ∧ IsLoad m s.consumed s.reported
  else Complete l

lemma filterMap_append_of_nil {β : Type} {f : StreamEvent → Option β} {m l : List StreamEvent}
    (hl : l.filterMap f = []) :
    (m ++ l).filterMap f = m.filterMap f := by
  rw [List.filterMap_append, hl, List.append_nil]

namespace IsLoad

variable {m : List StreamEvent} {total reported bytes : ℕ}

lemma begin : IsLoad [.begun] 0 0 where
  begins := ⟨[], rfl, nofun⟩
  increasing := List.pairwise_singleton ..
  last := List.mem_cons_self
  most := nofun
  counted _ := rfl
  covers := Nat.le_refl 0
  unreported := Nat.zero_lt_succ _
  fits := Nat.zero_le _
  blocks := nofun

lemma begins_append (hm : IsLoad m total reported) {l : List StreamEvent}
    (hl : ∀ e ∈ l, e ≠ .begun ∧ ∀ n, e ≠ .ended n) :
    ∃ mid, m ++ l = .begun :: mid ∧ ∀ e ∈ mid, e ≠ .begun ∧ ∀ n, e ≠ .ended n := by
  obtain ⟨mid, rfl, hmid⟩ := hm.begins
  refine ⟨mid ++ l, rfl, fun e he => ?_⟩
  obtain he | he := List.mem_append.mp he
  · exact hmid e he
  · exact hl e he

-- a block whose bytes are counted, and not reported yet
lemma count (hm : IsLoad m total reported) (hb : bytes ≤ sizeMax) (hf : total + bytes ≤ int64Max)
    (hr : total + bytes < reported + streamReportBytes) :
    IsLoad (m ++ [.loaded bytes]) (total + bytes) reported where
  begins := hm.begins_append (by simp)
  increasing := by
    rw [filterMap_append_of_nil rfl]
    exact hm.increasing
  last := by
    rw [filterMap_append_of_nil rfl]
    exact hm.last
  most := by
    rw [filterMap_append_of_nil rfl]
    exact hm.most
  counted ho := by
    rw [List.filterMap_append, List.sum_append, ← hm.counted fun h => ho (List.mem_append_left _ h)]
    rfl
  covers := Nat.le_add_right_of_le hm.covers
  unreported := hr
  fits := hf
  blocks n hn := by
    rw [List.filterMap_append, List.mem_append] at hn
    obtain hn | hn := hn
    · exact hm.blocks n hn
    · obtain rfl := List.mem_singleton.mp hn
      exact hb

lemma overflow (hm : IsLoad m total reported) (hb : bytes ≤ sizeMax) :
    IsLoad (m ++ [.loaded bytes, .overflow]) total reported where
  begins := hm.begins_append (by simp)
  increasing := by
    rw [filterMap_append_of_nil rfl]
    exact hm.increasing
  last := by
    rw [filterMap_append_of_nil rfl]
    exact hm.last
  most := by
    rw [filterMap_append_of_nil rfl]
    exact hm.most
  counted ho := absurd (List.mem_append_right _ (by simp)) ho
  covers := hm.covers
  unreported := hm.unreported
  fits := hm.fits
  blocks n hn := by
    rw [List.filterMap_append, List.mem_append] at hn
    obtain hn | hn := hn
    · exact hm.blocks n hn
    · obtain rfl := List.mem_singleton.mp hn
      exact hb

end IsLoad

namespace World

variable {w t : World} {e : Event}

lemma told_same (hl : t.log = w.log) : t.told = w.told := by
  rw [told, told, hl]

lemma told_cons (hl : t.log = e :: w.log) : t.told = w.told ++ e.streamed.toList := by
  rw [told, told, hl, List.reverse_cons, List.filterMap_append]
  cases he : e.streamed <;> simp [he]

end World

-- a property of the load that is active and of what the observer was told
def Seen (F : Option BulkLoadState → List StreamEvent → Prop) (w : World) : Prop :=
  F w.conn.bulkLoad w.told

variable {h : Handler} {w t : World} {F : Option BulkLoadState → List StreamEvent → Prop}
  {l : Level} {α : Type} {n : ℕ} (x : Sink)

lemma Seen.same (hw : Seen F w) (hb : t.conn.bulkLoad = w.conn.bulkLoad) (hl : t.log = w.log) :
    Seen F t := by
  rw [Seen, hb, World.told_same hl]
  exact hw

lemma Seen.note (hw : Seen F w) {e : Event} (he : e.streamed = none)
    (hb : t.conn.bulkLoad = w.conn.bulkLoad)
    (hl : t.log = e :: w.log) : Seen F t := by
  rw [Seen, hb, World.told_cons hl, he]
  simpa [Seen] using hw

lemma Seen.touch (hw : Seen F w) : Seen F w.touch := hw.same (by rw [w.touch_conn]) w.touch_log

lemma Seen.session (hw : Seen F w) (hm : Move h .session w t) : Seen F t := by
  cases hm with
  | session e _ he =>
    refine hw.note ?_ rfl rfl
    cases e with
    | stream e => cases he
    | _ => rfl
  | _ => exact hw.same rfl rfl

section Handled

variable (hs : ∀ x who w, Seen F w → Seen F (h x who w))
include hs

variable (he : ∀ x success, Spec (Seen F) (bulkLoadEnd x success : Drv h .recover Bool) fun _ => Seen F)
include he

end Handled

variable {m : ℕ}

lemma Serves.same {s s' : BulkStream} {l : List StreamEvent} (h : BulkStream.Same s s')
    (hs : Serves s l) : Serves s' l := by
  rwa [Serves, h.started, h.consumed, h.reported]

namespace BulkLoadState

end BulkLoadState

section At

variable {b : BulkLoadState} {told : List StreamEvent}

end At

end OracleDriver
