import Mathlib.Logic.Basic

/-!
# Simulation of partial computations

Two computations that may fail run in step when they fail with the same error or succeed
with related values. Composite computations are related by relating their parts. A machine
and a part of it that moves in some of its operations only stay related along any run.
-/

universe u

/-- Both fail with one error, or both succeed with related values. -/
inductive Simulates {ε α β : Type*} (R : α → β → Prop) : Except ε α → Except ε β → Prop where
  | error (e : ε) : Simulates R (.error e) (.error e)
  | ok {a : α} {b : β} (h : R a b) : Simulates R (.ok a) (.ok b)

namespace Simulates

variable {ε : Type*} {α β γ δ : Type u} {R S : α → β → Prop} {x : Except ε α} {y : Except ε β}

theorem mono (h : Simulates R x y) (hRS : ∀ a b, R a b → S a b) : Simulates S x y := by
  cases h with
  | error e => exact .error e
  | ok h => exact .ok (hRS _ _ h)

/-- The related values are the results. -/
theorem results (h : Simulates R x y) :
    Simulates (fun a b => R a b ∧ x = .ok a ∧ y = .ok b) x y := by
  cases h with
  | error e => exact .error e
  | ok h => exact .ok ⟨h, rfl, rfl⟩

theorem bind {T : γ → δ → Prop} {f : α → Except ε γ} {g : β → Except ε δ} (h : Simulates R x y)
    (hfg : ∀ a b, R a b → Simulates T (f a) (g b)) : Simulates T (x >>= f) (y >>= g) := by
  cases h with
  | error e => exact .error e
  | ok h => exact hfg _ _ h

/-- A step on one side only, which cannot fail. -/
theorem bind_ok {T : α → δ → Prop} {g : β → δ} (h : Simulates R x y)
    (hg : ∀ a b, R a b → T a (g b)) : Simulates T x (y >>= fun b => .ok (g b)) := by
  cases h with
  | error e => exact .error e
  | ok h => exact .ok (hg _ _ h)

/-- Two computations in step with a third are in step with each other. -/
theorem join {z : Except ε γ} {T : α → γ → Prop} {U : β → γ → Prop} (h : Simulates T x z)
    (h' : Simulates U y z) : Simulates (fun a b => ∃ c, T a c ∧ U b c) x y := by
  cases h with
  | error e =>
    cases h' with
    | error => exact .error e
  | ok h =>
    cases h' with
    | ok h' => exact .ok ⟨_, h, h'⟩

theorem foldlM {ι : Type*} {f : α → ι → Except ε α} {g : β → ι → Except ε β}
    (hstep : ∀ i a b, R a b → Simulates R (f a i) (g b i)) (list : List ι) {a : α} {b : β}
    (h : R a b) : Simulates R (list.foldlM f a) (list.foldlM g b) := by
  induction list generalizing a b with
  | nil => exact .ok h
  | cons i list ih =>
    rw [List.foldlM_cons, List.foldlM_cons]
    apply (hstep i a b h).bind
    intro a b h
    exact ih h

end Simulates

section

variable {σ ι ν τ : Type*}

/-- Operations that are permitted one after the other. -/
def Permitted (permits : σ → ι → Prop) (act : σ → ι → σ) : σ → List ι → Prop
  | _, [] => True
  | s, i :: rest => permits s i ∧ Permitted permits act (act s i) rest

/-- A part that moves in its own operations only has taken just these in the end. -/
theorem foldl_stutter {R : σ → ν → Prop} {permits : σ → ι → Prop} {act : σ → ι → σ} {own : ι → Option τ}
    {step : ν → τ → ν}
    (hact : ∀ s v i, R s v → permits s i → R (act s i) ((own i).elim v (step v)))
    {list : List ι} {s : σ} {v : ν} (h : R s v) (hlist : Permitted permits act s list) :
    R (list.foldl act s) ((list.filterMap own).foldl step v) := by
  induction list generalizing s v with
  | nil => exact h
  | cons i rest ih =>
    obtain ⟨hi, hrest⟩ := hlist
    have hnext := ih (hact s v i h hi) hrest
    cases hown : own i with
    | none =>
      rw [hown] at hnext
      rw [List.filterMap_cons_none hown]
      exact hnext
    | some t =>
      rw [hown] at hnext
      rw [List.filterMap_cons_some hown]
      exact hnext

end
