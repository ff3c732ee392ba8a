import OracleDriver.Library.Act

/-! States with a log of events, the last event first: what a run adds to the log. -/

namespace OracleDriver.Trace

open Relation

variable {σ ε α : Type} (log : σ → List ε)

-- the run from `s` to `t` has logged only events with the property
def Adds (P : ε → Prop) (s t : σ) : Prop := ∃ l, log t = l ++ log s ∧ ∀ e ∈ l, P e

-- the events of the run from `s` to `t`
def since (s t : σ) : List ε := (log t).take ((log t).length - (log s).length)

variable {log} {P Q : ε → Prop} {s t u : σ}

lemma adds_refl (s : σ) : Adds log P s s := ⟨[], rfl, fun _ he => absurd he List.not_mem_nil⟩

lemma adds_same (h : log t = log s) : Adds log P s t := ⟨[], h, fun _ he => absurd he List.not_mem_nil⟩

lemma adds_one {e : ε} (h : log t = e :: log s) (he : P e) : Adds log P s t :=
  ⟨[e], h, fun f hf => by rwa [List.mem_singleton.1 hf]⟩

lemma Adds.trans (h : Adds log P s t) (k : Adds log P t u) : Adds log P s u := by
  obtain ⟨l, hl, hp⟩ := h
  obtain ⟨m, hm, hq⟩ := k
  refine ⟨m ++ l, by rw [hm, hl, List.append_assoc], ?_⟩
  intro e he
  rcases List.mem_append.1 he with he | he
  · exact hq e he
  · exact hp e he

lemma Adds.mono (h : Adds log P s t) (hpq : ∀ e, P e → Q e) : Adds log Q s t := by
  obtain ⟨l, hl, hp⟩ := h
  exact ⟨l, hl, fun e he => hpq e (hp e he)⟩

lemma since_eq {l : List ε} (h : log t = l ++ log s) : since log s t = l := by
  rw [since, h, List.length_append, Nat.add_sub_cancel, List.take_left]

lemma Adds.mem (h : Adds log P s t) {e : ε} (he : e ∈ since log s t) : P e := by
  obtain ⟨l, hl, hp⟩ := h
  rw [since_eq hl] at he
  exact hp e he

end OracleDriver.Trace
