import Mathlib.Data.Option.Basic
import Mathlib.Tactic.Lemma

/-! Machines that answer calls: a call that breaks its precondition has no next state. -/

namespace Library.Simulation

variable {σ τ Call Answer : Type*}

def runs (step : σ → Call → Option (Answer × σ)) : List Call → σ → Option (List Answer × σ)
  | [], s => some ([], s)
  | c :: cs, s => (step s c).bind fun p => (runs step cs p.2).map (Prod.map (p.1 :: ·) id)

/-- Every call answers alike on a state and on what the state stands for, and leads to states that
stand in the same relation. -/
def Refines (abstraction : σ → τ) (step : σ → Call → Option (Answer × σ))
    (spec : τ → Call → Option (Answer × τ)) : Prop :=
  ∀ s c, (step s c).map (Prod.map id abstraction) = spec (abstraction s) c

variable {abstraction : σ → τ} {step : σ → Call → Option (Answer × σ)} {spec : τ → Call → Option (Answer × τ)}

lemma map_runs (h : Refines abstraction step spec) (cs : List Call) (s : σ) :
    (runs step cs s).map (Prod.map id abstraction) = runs spec cs (abstraction s) := by
  induction cs generalizing s with
  | nil => rfl
  | cons c cs ih =>
    rw [runs, runs, ← h s c]
    cases step s c with
    | none => rfl
    | some p =>
      show ((runs step cs p.2).map _).map _ = (runs spec cs (abstraction p.2)).map _
      rw [← ih p.2, Option.map_map, Option.map_map]
      rfl

end Library.Simulation
