import Mathlib.Data.Nat.Notation
import Mathlib.Logic.Basic

/-!
# Observations along a fold that may fail

A fold of a partial step over a list, and what is observed of each state just before it
takes a step. An invariant of the observations so far and the state reached is
established step by step.
-/

section

variable {σ ι ε ω : Type*}

/-- What is observed along a fold, up to the first step that fails. -/
def observeFold (step : σ → ι → Except ε σ) (observe : σ → ι → List ω) : σ → List ι → List ω
  | _, [] => []
  | s, i :: rest =>
    observe s i ++
      match step s i with
      | .ok next => observeFold step observe next rest
      | .error _ => []

variable {step : σ → ι → Except ε σ} {observe : σ → ι → List ω}

theorem foldlM_cons_ok {s last : σ} {i : ι} {rest : List ι} :
    (i :: rest).foldlM step s = .ok last ↔
      ∃ next, step s i = .ok next ∧ rest.foldlM step next = .ok last := by
  rw [List.foldlM_cons]
  cases step s i with
  | error e => simp [bind, Except.bind]
  | ok next => simp [bind, Except.bind]

theorem foldlM_append_ok {s last : σ} {first second : List ι} :
    (first ++ second).foldlM step s = .ok last ↔
      ∃ next, first.foldlM step s = .ok next ∧ second.foldlM step next = .ok last := by
  rw [List.foldlM_append]
  cases first.foldlM step s with
  | error e => simp [bind, Except.bind]
  | ok next => simp [bind, Except.bind]

theorem observeFold_cons {s next : σ} {i : ι} (rest : List ι) (h : step s i = .ok next) :
    observeFold step observe s (i :: rest) = observe s i ++ observeFold step observe next rest := by
  rw [observeFold, h]

/-- Over the numbers below a bound a fold keeps what each step keeps, or it stops at the first
step that fails. -/
theorem foldlM_range_cases {step : σ → ℕ → Except ε σ} {P : ℕ → σ → Prop} {n : ℕ} {s : σ} (h : P 0 s)
    (hstep : ∀ k < n, ∀ s next, P k s → step s k = .ok next → P (k + 1) next) :
    (∃ last, (List.range n).foldlM step s = .ok last ∧ P n last) ∨
      ∃ k < n, ∃ reached e, P k reached ∧ step reached k = .error e ∧
        (List.range n).foldlM step s = .error e := by
  induction n with
  | zero => exact Or.inl ⟨s, rfl, h⟩
  | succ n ih =>
    rw [List.range_succ, List.foldlM_append]
    rcases ih fun k hk => hstep k (Nat.lt_succ_of_lt hk) with
      ⟨last, heq, hlast⟩ | ⟨k, hk, reached, e, hreached, herror, heq⟩
    · rw [heq]
      cases hnext : step last n with
      | error e =>
        refine Or.inr ⟨n, Nat.lt_succ_self n, last, e, hlast, hnext, ?_⟩
        simp [bind, Except.bind, hnext]
      | ok next =>
        refine Or.inl ⟨next, ?_, hstep n (Nat.lt_succ_self n) last next hlast hnext⟩
        simp [bind, Except.bind, hnext, pure, Except.pure]
    · rw [heq]
      exact Or.inr ⟨k, Nat.lt_succ_of_lt hk, reached, e, hreached, herror, rfl⟩

/-- What holds of the steps to come, the observations so far and the state is kept by each
step, so in the end it holds without any steps to come. -/
theorem observeFold_induction {P : List ι → List ω → σ → Prop}
    (hstep : ∀ i rest log s next, P (i :: rest) log s → step s i = .ok next →
      P rest (log ++ observe s i) next)
    {list : List ι} {log : List ω} {s last : σ} (h : P list log s)
    (hfold : list.foldlM step s = .ok last) :
    P [] (log ++ observeFold step observe s list) last := by
  induction list generalizing log s with
  | nil =>
    cases hfold
    rw [observeFold, List.append_nil]
    exact h
  | cons i rest ih =>
    obtain ⟨next, hnext, hrest⟩ := foldlM_cons_ok.1 hfold
    rw [observeFold_cons rest hnext, ← List.append_assoc]
    exact ih (hstep i rest log s next h hnext) hrest

/-- The same for an invariant that does not look at the steps to come. -/
theorem observeFold_invariant {P : List ω → σ → Prop}
    (hstep : ∀ i log s next, P log s → step s i = .ok next → P (log ++ observe s i) next)
    {list : List ι} {log : List ω} {s last : σ} (h : P log s)
    (hfold : list.foldlM step s = .ok last) :
    P (log ++ observeFold step observe s list) last := by
  apply observeFold_induction (P := fun _ => P) _ h hfold
  intro i rest log s next hlog hnext
  exact hstep i log s next hlog hnext

end
