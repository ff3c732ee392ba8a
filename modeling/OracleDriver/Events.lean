import OracleDriver.EntryPoints
import OracleDriver.Library.Trace

/-! What the moves log and raise: the events of a function are of the kinds of its level, and an
exception that is pending stays pending. -/

namespace OracleDriver

open Trace

structure Extends (P : Event → Prop) (w t : World) : Prop where
  adds : Adds World.log P w t
  pending : w.pending .main = true → t.pending .main = true

variable {P : Event → Prop} {h : Handler} {w t u : World}

namespace Extends

lemma refl (w : World) : Extends P w w := ⟨adds_refl w, id⟩

lemma trans (hw : Extends P w t) (ht : Extends P t u) : Extends P w u :=
  ⟨hw.adds.trans ht.adds, ht.pending ∘ hw.pending⟩

lemma mono {Q : Event → Prop} (hw : Extends P w t) (h : ∀ e, P e → Q e) : Extends Q w t :=
  ⟨hw.adds.mono h, hw.pending⟩

lemma same (hl : t.log = w.log) (hx : t.xsink = w.xsink) : Extends P w t :=
  ⟨adds_same hl, fun hp => by rwa [World.pending, hx]⟩

lemma one {e : Event} (hl : t.log = e :: w.log) (hx : t.xsink = w.xsink) (he : P e) : Extends P w t :=
  ⟨adds_one hl he, fun hp => by rwa [World.pending, hx]⟩

lemma run {α : Type} {R : World → World → Prop} (h : ∀ w t, R w t → Extends P w t) (m : Act R α)
    (w : World) :
    Extends P w (m.run w).2 := Act.preorder refl (fun _ _ _ => trans) h m w

end Extends

lemma pending_append {l m : List Exn} (h : (!l.isEmpty) = true) : (!(l ++ m).isEmpty) = true := by
  cases l with
  | nil => exact absurd h Bool.false_ne_true
  | cons a l => rfl

namespace World

@[simp] lemma touch_log (w : World) : w.touch.log = w.log := by
  unfold touch
  split <;> rfl

@[simp] lemma touch_xsink (w : World) : w.touch.xsink = w.xsink := by
  unfold touch
  split <;> rfl

@[simp] lemma touch_conn (w : World) : w.touch.conn = w.conn := by
  unfold touch
  split <;> rfl

lemma extends_touch (w : World) : Extends P w w.touch := .same (touch_log w) (touch_xsink w)

lemma extends_raise (x : Sink) (e : Exn) (w : World) : Extends P w (w.raise x e) := by
  cases x with
  | main => exact ⟨adds_same rfl, pending_append⟩
  | own => exact .same rfl rfl
  | dropped => exact .refl w

lemma extends_ask (hc : ∀ e : Event, e.kind = .calm → P e) (c : Call) (w : World) :
    Extends P w (w.ask c).2 :=
  .one rfl rfl (hc _ rfl)

lemma extends_checkerr (hh : ∀ x who w, Extends P w (h x who w)) (x : Sink) (a : Answer)
    (who : String) (w : World) :
    Extends P w (w.checkerr h x a who).2 := by
  unfold checkerr
  split
  · exact .refl w
  · exact .refl w
  · exact (extends_touch w).trans (hh x who _)
  all_goals exact extends_raise _ _ _

lemma extends_freeTemporary (hc : ∀ e : Event, e.kind = .calm → P e) (l : Locator) (w : World) :
    Extends P w (w.freeTemporary l).2 := by
  have he : Extends P w (w.emit (.lobFreed l w.cur)) := .one rfl rfl (hc _ rfl)
  exact (he.trans (extends_touch _)).trans (extends_ask hc _ _)

lemma extends_createTemporary (hc : ∀ e : Event, e.kind = .calm → P e) (w : World) :
    Extends P w w.createTemporary.2 := by
  unfold createTemporary
  dsimp only
  split <;> exact (extends_touch _).trans (extends_ask hc _ _)

end World

lemma Plain.adds (hh : ∀ x who w, Extends P w (h x who w)) (hc : ∀ e : Event, e.kind = .calm → P e)
    (hp : Plain h w t) : Extends P w t := by
  cases hp with
  | touch => exact w.extends_touch
  | ask c => exact w.extends_ask hc c
  | raise x e => exact w.extends_raise x e
  | check x a who => exact w.extends_checkerr hh x a who
  | exhaust => exact .same rfl rfl

lemma NodeMove.adds {s i : ℕ} {b : Bool} (hh : ∀ x who w, Extends P w (h x who w))
    (hc : ∀ e : Event, e.kind = .calm → P e) (hb : b = true → ∀ e : Event, e.kind = .bind → P e)
    (hm : NodeMove h s i b w t) : Extends P w t := by
  cases hm with
  | plain hp => exact hp.adds hh hc
  | tidy => exact .same rfl rfl
  | strlobFree =>
    unfold World.strlobFree
    split
    · split
      · exact w.extends_touch
      · exact w.extends_freeTemporary hc _
    · exact .refl w
  | arraybindFree =>
    unfold World.arraybindFree
    split
    · split
      · exact w.extends_touch
      · exact w.extends_freeTemporary hc _
    · exact .refl w
  | arm => exact .same rfl rfl
  | describe =>
    unfold World.describe
    dsimp only
    split
    · exact .one rfl rfl (hb rfl _ rfl)
    · exact .same rfl rfl
  | strlobCreate =>
    unfold World.strlobCreate
    dsimp only
    split
    · exact (w.extends_createTemporary hc).trans (.same rfl rfl)
    · exact w.extends_createTemporary hc
  | arraybindCreate =>
    unfold World.arraybindCreate
    dsimp only
    split
    · exact (w.extends_createTemporary hc).trans (.same rfl rfl)
    · exact w.extends_createTemporary hc

lemma NodeAct.adds {α : Type} {s i : ℕ} {b : Bool} (hh : ∀ x who w, Extends P w (h x who w))
    (hc : ∀ e : Event, e.kind = .calm → P e) (hb : b = true → ∀ e : Event, e.kind = .bind → P e)
    (m : NodeAct h s i b α) (w : World) : Extends P w (m.run w).2 :=
  .run (fun _ _ => NodeMove.adds hh hc hb) m w

lemma NodeAct.adds_calm {α : Type} {s i : ℕ} (hh : ∀ x who w, Extends P w (h x who w))
    (hc : ∀ e : Event, e.kind = .calm → P e) (m : NodeAct h s i false α) (w : World) :
    Extends P w (m.run w).2 :=
  NodeAct.adds hh hc (fun hb => absurd hb Bool.false_ne_true) m w

lemma Move.adds {k : Kind} (hh : ∀ x who w, Extends P w (h x who w))
    (hc : ∀ e : Event, e.kind = .calm → P e)
    (hk : ∀ e : Event, e.kind = k → P e) (hm : Move h k w t) : Extends P w t := by
  cases hm with
  | plain hp => exact hp.adds hh hc
  | clearNode => exact NodeAct.adds_calm hh hc _ w
  | resetNode => exact NodeAct.adds_calm hh hc _ w
  | valueNode => exact NodeAct.adds_calm hh hc _ w
  | setNode => exact NodeAct.adds_calm hh hc _ w
  | bindNode => exact NodeAct.adds hh hc (fun _ => hk) _ w
  | assimilate => exact ⟨adds_same rfl, pending_append⟩
  | session e _ he => exact .one rfl rfl (hk e he)
  | load e _ he => exact .one rfl rfl (hk e he)
  | rebound => exact .one rfl rfl (hk _ rfl)
  | finish => exact .one rfl rfl (hk _ rfl)
  | beginLoad => exact .one rfl rfl (hk _ rfl)
  | stmtExecute => exact .one rfl rfl (hk _ rfl)
  | _ => exact .same rfl rfl

-- the kinds of events of a function of the level, whose errors are handled
def Level.logs (l : Level) (e : Event) : Prop := e.kind ∈ l.kinds ++ Level.recover.kinds

lemma Step.adds {l : Level} (hh : ∀ x who w, Extends (Level.recover.logs) w (h x who w))
    (hs : Step h l w t) :
    Extends l.logs w t := by
  obtain ⟨k, hk, hm⟩ := hs
  have hl : k ∈ l.kinds := of_decide_eq_true hk
  refine hm.adds (fun x who w => (hh x who w).mono ?_) ?_ ?_
  · intro e he
    exact List.mem_append_right _ ((List.mem_append.1 he).elim id id)
  · intro e he
    exact List.mem_append_right _ (by rw [he]; decide)
  · intro e he
    exact List.mem_append_left _ (he ▸ hl)

lemma Drv.adds {α : Type} {l : Level} (hh : ∀ x who w, Extends Level.recover.logs w (h x who w))
    (m : Drv h l α)
    (w : World) : Extends l.logs w (m.run w).2 := .run (fun _ _ => Step.adds hh) m w

end OracleDriver
