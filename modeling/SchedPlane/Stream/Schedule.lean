/-
SchedPlane/Stream/Schedule.lean

Running a machine until it rests.  A machine takes small steps; `untilRest` takes them one
after the other as long as the machine has something to do, and at most as many as it
is allowed.
-/

namespace SchedPlane

/-- Takes steps until the machine rests, at most `bound` of them. -/
def untilRest {σ : Type} (atRest : σ → Bool) (step : σ → σ) : Nat → σ → σ
  | 0, s => s
  | bound + 1, s => if atRest s then s else untilRest atRest step bound (step s)

variable {σ : Type} {atRest : σ → Bool} {step : σ → σ} {s : σ}

theorem untilRest_of_atRest (h : atRest s = true) (bound : Nat) :
    untilRest atRest step bound s = s := by
  cases bound <;> simp [untilRest, h]

/-- What every step keeps still holds when the machine is left. -/
theorem untilRest_keeps {P : σ → Prop} (keeps : ∀ s, P s → P (step s)) (first : P s)
    (bound : Nat) : P (untilRest atRest step bound s) := by
  induction bound generalizing s with
  | zero => exact first
  | succ bound ih =>
    rw [untilRest]
    split
    · exact first
    · exact ih (keeps s first)

/-- A machine comes to rest if every step it takes lowers a measure and it is allowed as many
steps as the measure says. -/
theorem atRest_untilRest (measure : σ → Nat)
    (falls : ∀ s, atRest s = false → measure (step s) < measure s) {bound : Nat}
    (enough : measure s ≤ bound) : atRest (untilRest atRest step bound s) = true := by
  induction bound generalizing s with
  | zero =>
    rcases rests : atRest s with - | -
    · exact absurd (falls s rests) (by omega)
    · exact rests
  | succ bound ih =>
    rw [untilRest]
    split
    · next rests => exact rests
    · next busy =>
      have lower := falls s (by simpa using busy)
      exact ih (by omega)

end SchedPlane
