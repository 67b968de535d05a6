import Mathlib.Logic.Basic

/-!
# Outcomes of operations that keep their state

An operation returns a result together with the state it leaves behind, also when it
fails. An outcome is specified by what holds after a success and what holds after a
failure, and the specifications of loops follow from those of their rounds.
-/

/-- `P` holds of the value and the state after a success, `Q` of the error and the state
after a failure. -/
def Outcome {ε α σ : Type*} (P : α → σ → Prop) (Q : ε → σ → Prop) (x : Except ε α × σ) : Prop :=
  match x with
  | (.ok a, s) => P a s
  | (.error e, s) => Q e s

namespace Outcome

variable {ε α σ : Type*} {P P' : α → σ → Prop} {Q Q' : ε → σ → Prop} {x : Except ε α × σ}

@[simp] theorem ok_iff (a : α) (s : σ) : Outcome P Q (.ok a, s) ↔ P a s := Iff.rfl

@[simp] theorem error_iff (e : ε) (s : σ) : Outcome P Q (.error e, s) ↔ Q e s := Iff.rfl

theorem mono (h : Outcome P Q x) (hP : ∀ a s, P a s → P' a s) (hQ : ∀ e s, Q e s → Q' e s) :
    Outcome P' Q' x := by
  rcases x with ⟨e | a, s⟩
  · exact hQ e s h
  · exact hP a s h

/-- Both specifications hold at once. -/
theorem and (h : Outcome P Q x) (h' : Outcome P' Q' x) :
    Outcome (fun a s => P a s ∧ P' a s) (fun e s => Q e s ∧ Q' e s) x := by
  rcases x with ⟨e | a, s⟩
  · exact ⟨h, h'⟩
  · exact ⟨h, h'⟩

/-- What holds of the state in both cases. -/
theorem state {R : σ → Prop} (h : Outcome (fun (_ : α) s => R s) (fun (_ : ε) s => R s) x) :
    R x.2 := by
  rcases x with ⟨e | a, s⟩
  · exact h
  · exact h

theorem of_state {R : σ → Prop} {Q : ε → σ → Prop} (hR : R x.2) (hQ : ∀ e s, R s → Q e s) :
    Outcome (fun _ s => R s) Q x := by
  rcases x with ⟨e | a, s⟩
  · exact hQ e s hR
  · exact hR

/-- After a success, what is known of the state in any case holds as well. -/
theorem with_state (h : Outcome P Q x) {R : σ → Prop} (hR : R x.2) :
    Outcome (fun a s => R s ∧ P a s) Q x := by
  rcases x with ⟨e | a, s⟩
  · exact h
  · exact ⟨hR, h⟩

theorem of_ok (h : Outcome P Q x) {a : α} {s : σ} (hx : x = (.ok a, s)) : P a s := by
  rw [hx] at h
  exact h

theorem of_error (h : Outcome P Q x) {e : ε} {s : σ} (hx : x = (.error e, s)) : Q e s := by
  rw [hx] at h
  exact h

end Outcome
