import Mathlib.Data.List.Basic

/-! Books on what an owner has allocated and not yet released, by kind. -/

namespace OracleDriver

structure Ledger (κ : Type) where
  next : ℕ
  live : List (ℕ × κ)
  sound : Bool

namespace Ledger

variable {κ : Type} [DecidableEq κ]

def empty : Ledger κ := ⟨0, [], true⟩

def acquire (L : Ledger κ) (k : κ) : Ledger κ :=
  { L with next := L.next + 1, live := (L.next, k) :: L.live }

-- the release of what is not held, or of a thing of another kind, is recorded for good
def release (L : Ledger κ) (a : ℕ) (k : κ) : Ledger κ :=
  if (a, k) ∈ L.live then { L with live := L.live.erase (a, k) } else { L with sound := false }

def use (L : Ledger κ) (a : ℕ) (k : κ) : Ledger κ :=
  if (a, k) ∈ L.live then L else { L with sound := false }

def fault (L : Ledger κ) : Ledger κ := { L with sound := false }

def releaseAll (L : Ledger κ) : List (ℕ × κ) → Ledger κ
  | [] => L
  | (a, k) :: l => (L.release a k).releaseAll l

end Ledger

end OracleDriver
