import Mathlib.Data.Nat.ModEq
import Mathlib.Logic.Function.Basic
import Mathlib.Tactic.Linarith

/-!
# Speculative execution with bounded history

A process consumes one value per count. Values arrive late, early, repeatedly or
not at all, so each count is run with the value that is retained for it, or with a
guess copied from the nearest earlier retained value. Arrivals are retained in a
direct-mapped table of fixed capacity. An arrival that differs from the value used
marks its count dirty, and a correction reruns every count from the earliest dirty
one. A watermark follows the counts whose value has arrived and is in use.

Three facts are kept by every operation. Below the watermark each count was run
with its accepted value (`Sound`). When arrivals are never ahead of the process and
never a whole table late, the watermark stands exactly at the first gap (`Exact`).
Under the same discipline, and unless a gap has fallen too far behind to be filled,
every clean count was run with the nearest value accepted at or below it (`Settled`).
-/

namespace Speculation

variable {κ : Type}

structure State (κ : Type) where
  /-- The next count to run. -/
  current : ℕ
  /-- The value each count was last run with. -/
  used : ℕ → κ
  /-- The value most recently accepted for each count. -/
  accepted : ℕ → Option κ
  /-- What the table still holds. -/
  retained : ℕ → Option κ
  /-- The earliest count whose used value is known to be wrong. -/
  dirty : Option ℕ
  /-- The watermark. -/
  confirmed : ℕ

/-! ## Scanning and guessing -/

/-- The first count from `i` on at which `p` fails, looking at most `fuel` ahead. -/
def scan (p : ℕ → Bool) : ℕ → ℕ → ℕ
  | 0, i => i
  | fuel + 1, i => if p i then scan p fuel (i + 1) else i

theorem scan_succ (p : ℕ → Bool) (fuel i : ℕ) :
    scan p (fuel + 1) i = if p i then scan p fuel (i + 1) else i := rfl

theorem le_scan (p : ℕ → Bool) (fuel i : ℕ) : i ≤ scan p fuel i := by
  induction fuel generalizing i with
  | zero => exact le_rfl
  | succ fuel ih =>
    rw [scan_succ]
    split
    · exact (Nat.le_succ i).trans (ih (i + 1))
    · exact le_rfl

theorem scan_passed (p : ℕ → Bool) (fuel : ℕ) {i j : ℕ} (hij : i ≤ j) (hj : j < scan p fuel i) :
    p j = true := by
  induction fuel generalizing i with
  | zero =>
    change j < i at hj
    omega
  | succ fuel ih =>
    rw [scan_succ] at hj
    split at hj
    · rename_i hp
      rcases Nat.eq_or_lt_of_le hij with rfl | hlt
      · exact hp
      · exact ih hlt hj
    · omega

/-- A scan with enough fuel stops because the predicate fails. -/
theorem scan_stops (p : ℕ → Bool) (fuel i : ℕ) (h : p (i + fuel) = false) :
    p (scan p fuel i) = false := by
  induction fuel generalizing i with
  | zero => exact h
  | succ fuel ih =>
    rw [scan_succ]
    split
    · exact ih (i + 1) (by rwa [Nat.add_right_comm])
    · rename_i hp
      exact Bool.eq_false_iff.2 hp

/-- The nearest value held at one of the `n` counts before `i`. -/
def lookBack (held : ℕ → Option κ) (neutral : κ) : ℕ → ℕ → κ
  | 0, _ => neutral
  | n + 1, i => (held (i - 1)).getD (lookBack held neutral n (i - 1))

/-- The nearest value accepted strictly below `i`. -/
def below (accepted : ℕ → Option κ) (neutral : κ) : ℕ → κ
  | 0 => neutral
  | i + 1 => (accepted i).getD (below accepted neutral i)

theorem below_succ (accepted : ℕ → Option κ) (neutral : κ) (i : ℕ) :
    below accepted neutral (i + 1) = (accepted i).getD (below accepted neutral i) := rfl

theorem below_eq_neutral {accepted : ℕ → Option κ} {neutral : κ} {i : ℕ}
    (h : ∀ g < i, accepted g = none) : below accepted neutral i = neutral := by
  induction i with
  | zero => rfl
  | succ i ih => simp [below_succ, h i (Nat.lt_succ_self i), ih (fun g hg => h g (Nat.lt_succ_of_lt hg))]

/-- Below the count that changed, the nearest accepted value does not change. -/
theorem below_update_of_le {accepted : ℕ → Option κ} {neutral v : κ} {i j : ℕ} (h : j ≤ i) :
    below (Function.update accepted i (some v)) neutral j = below accepted neutral j := by
  induction j with
  | zero => rfl
  | succ j ih =>
    rw [below_succ, below_succ, Function.update_of_ne (by omega), ih (by omega)]

/-- Accepting the value that a count already resolves to changes nothing above it. -/
theorem below_update_self {accepted : ℕ → Option κ} {neutral v : κ} {i : ℕ}
    (hv : below accepted neutral (i + 1) = v) (j : ℕ) :
    below (Function.update accepted i (some v)) neutral j = below accepted neutral j := by
  rcases Nat.le_or_ge j i with h | h
  · exact below_update_of_le h
  · induction j, h using Nat.le_induction with
    | base => exact below_update_of_le le_rfl
    | succ j hij ih =>
      rcases Nat.eq_or_lt_of_le hij with rfl | hlt
      · rw [hv, below_succ, Function.update_self, Option.getD_some]
      · rw [below_succ, below_succ, Function.update_of_ne (by omega), ih]

/-- Looking back through a table agrees with the accepted history when the table
is right as far as the nearest accepted value, and reaches it. -/
theorem lookBack_eq_below {held accepted : ℕ → Option κ} {neutral : κ} {n i : ℕ} (hni : n ≤ i)
    (hheld : ∀ g, g < i → i ≤ g + n → (∀ g', g < g' → g' < i → accepted g' = none) →
      held g = accepted g)
    (hbottom : (∀ g, g < i → i ≤ g + n → accepted g = none) → ∀ g < i, accepted g = none) :
    lookBack held neutral n i = below accepted neutral i := by
  induction n generalizing i with
  | zero => exact (below_eq_neutral (hbottom (fun g hg hgi => by omega))).symm
  | succ n ih =>
    obtain ⟨i, rfl⟩ : ∃ k, i = k + 1 := ⟨i - 1, by omega⟩
    rw [lookBack, below_succ, Nat.add_sub_cancel, hheld i (by omega) (by omega) (fun g' _ _ => by omega)]
    cases hi : accepted i with
    | some v => rfl
    | none =>
      have hgap : ∀ g, g < i → i ≤ g + n → (∀ g', g < g' → g' < i → accepted g' = none) →
          held g = accepted g := by
        intro g hg hgn hbetween
        apply hheld g (by omega) (by omega)
        intro g' hgg' hg'
        rcases Nat.lt_succ_iff_lt_or_eq.1 hg' with hlt | rfl
        · exact hbetween g' hgg' hlt
        · exact hi
      refine ih (by omega) hgap (fun hnone g hg => ?_)
      refine hbottom (fun g' hg' hgn => ?_) g (by omega)
      rcases Nat.lt_succ_iff_lt_or_eq.1 hg' with hlt | rfl
      · exact hnone g' hlt (by omega)
      · exact hi

/-! ## Operations -/

/-- Nothing has run and nothing has arrived. -/
def State.start (first : ℕ) (neutral : κ) : State κ :=
  ⟨first, fun _ => neutral, fun _ => none, fun _ => none, none, first⟩

section Operations

variable (first capacity : ℕ) (neutral : κ)

/-- A count is not affected by a pending correction. -/
def State.Clean (s : State κ) (i : ℕ) : Prop := ∀ j, s.dirty = some j → i < j

/-- The watermark may pass `i`: its value is retained, in use, and not dirty. -/
def eligible (s : State κ) (i : ℕ) : Bool :=
  decide (i < s.current) && decide (s.current ≤ i + capacity) && (s.retained i).isSome &&
    s.dirty.all (fun j => decide (i < j))

def confirm (s : State κ) : State κ :=
  { s with confirmed := scan (eligible capacity s) capacity s.confirmed }

def retain (s : State κ) (i : ℕ) (v : κ) : ℕ → Option κ := fun g =>
  if g = i then some v else if g % capacity = i % capacity then none else s.retained g

/-- The count was run, is still in the table, and was run with another value. -/
def Contradicts (s : State κ) (i : ℕ) (v : κ) : Prop :=
  first ≤ i ∧ i < s.current ∧ s.current ≤ i + capacity ∧ s.used i ≠ v

instance [DecidableEq κ] (s : State κ) (i : ℕ) (v : κ) : Decidable (Contradicts first capacity s i v) := by
  unfold Contradicts; infer_instance

def store (s : State κ) (i : ℕ) (v : κ) : State κ :=
  { s with accepted := Function.update s.accepted i (some v), retained := retain capacity s i v }

def mark (s : State κ) (i : ℕ) : State κ :=
  { s with
    dirty := some (min (s.dirty.getD i) i)
    confirmed := min s.confirmed i }

def accept [DecidableEq κ] (s : State κ) (i : ℕ) (v : κ) : State κ :=
  confirm capacity
    (if Contradicts first capacity s i v then mark (store capacity s i v) i
     else store capacity s i v)

/-- The value a count is run with now. -/
def resolve (s : State κ) (i : ℕ) : κ :=
  (s.retained i).getD (lookBack s.retained neutral capacity i)

def rerun (s : State κ) (j : ℕ) : State κ :=
  { s with
    used := fun i => if j ≤ i ∧ i < s.current then resolve capacity neutral s i else s.used i
    dirty := none }

def flush (s : State κ) : State κ :=
  match s.dirty with
  | none => confirm capacity s
  | some j => confirm capacity (rerun capacity neutral s j)

def extend (s : State κ) : State κ :=
  { s with
    current := s.current + 1
    used := Function.update s.used s.current (resolve capacity neutral s s.current) }

/-- Run the next count, once no correction is pending. -/
def advance (s : State κ) : State κ := confirm capacity (extend capacity neutral s)

end Operations

section Invariants

variable {first capacity : ℕ} {neutral : κ} {s : State κ}

theorem eligible_iff (s : State κ) (i : ℕ) : eligible capacity s i = true ↔
    i < s.current ∧ s.current ≤ i + capacity ∧ (∃ v, s.retained i = some v) ∧ s.Clean i := by
  have hd : (s.dirty.all fun j => decide (i < j)) = true ↔ s.Clean i := by
    unfold State.Clean
    cases s.dirty <;> simp
  rw [eligible, Bool.and_eq_true, Bool.and_eq_true, Bool.and_eq_true, hd, Option.isSome_iff_exists]
  simp only [decide_eq_true_eq, and_assoc]

/-! ## Below the watermark nothing is a guess -/

structure Sound (first capacity : ℕ) (s : State κ) : Prop where
  first_le : first ≤ s.confirmed
  confirmed_le : s.confirmed ≤ s.current
  dirty_window : ∀ j, s.dirty = some j → first ≤ j ∧ j < s.current ∧ s.current ≤ j + capacity
  confirmed_dirty : ∀ j, s.dirty = some j → s.confirmed ≤ j
  retained_accepted : ∀ i v, s.retained i = some v → s.accepted i = some v
  used_retained : ∀ i, first ≤ i → i < s.current → s.current ≤ i + capacity → s.Clean i →
    ∀ v, s.retained i = some v → s.used i = v
  confirmed_accepted : ∀ i, first ≤ i → i < s.confirmed → s.accepted i = some (s.used i)

namespace Sound

theorem start : Sound first capacity (State.start first neutral) := by
  refine ⟨le_rfl, le_rfl, ?_, ?_, ?_, fun i hf hi => ?_, fun i hf hi => ?_⟩
  · simp [State.start]
  · simp [State.start]
  · simp [State.start]
  · simp only [State.start] at hi
    omega
  · simp only [State.start] at hi
    omega

theorem confirm (h : Sound first capacity s) : Sound first capacity (confirm capacity s) := by
  have hpassed : ∀ i, s.confirmed ≤ i → i < (Speculation.confirm capacity s).confirmed →
      i < s.current ∧ s.current ≤ i + capacity ∧ (∃ v, s.retained i = some v) ∧ s.Clean i :=
    fun i hi hlt => (eligible_iff s i).1 (scan_passed _ _ hi hlt)
  have hle : s.confirmed ≤ (Speculation.confirm capacity s).confirmed := le_scan _ _ _
  refine ⟨h.first_le.trans hle, ?_, h.dirty_window, ?_, h.retained_accepted, h.used_retained, ?_⟩
  · rcases Nat.eq_or_lt_of_le hle with he | hlt
    · exact he ▸ h.confirmed_le
    · have := (hpassed _ (Nat.le_sub_one_of_lt hlt) (by omega)).1
      exact Nat.le_of_pred_lt this
  · intro j hj
    rcases Nat.eq_or_lt_of_le hle with he | hlt
    · exact he ▸ h.confirmed_dirty j hj
    · have := (hpassed _ (Nat.le_sub_one_of_lt hlt) (by omega)).2.2.2 j hj
      exact Nat.le_of_pred_lt this
  · intro i hi hlt
    rcases Nat.lt_or_ge i s.confirmed with hc | hc
    · exact h.confirmed_accepted i hi hc
    · obtain ⟨hcur, hcap, ⟨v, hv⟩, hclean⟩ := hpassed i hc hlt
      have hu : s.used i = v := h.used_retained i hi hcur hcap hclean v hv
      exact hu ▸ h.retained_accepted i v hv

private theorem retain_cases {i g : ℕ} {v w : κ} (h : retain capacity s i v g = some w) :
    g = i ∧ w = v ∨ g ≠ i ∧ s.retained g = some w := by
  unfold retain at h
  split at h
  · exact Or.inl ⟨by assumption, (Option.some.inj h).symm⟩
  · split at h
    · cases h
    · exact Or.inr ⟨by assumption, h⟩

/-- An arrival that is not a whole table late keeps the watermark sound: if it
contradicts a count that was run, that count and all later ones fall back. -/
theorem accept_before_confirm [DecidableEq κ] (h : Sound first capacity s) {i : ℕ} {v : κ}
    (hin : first ≤ i → i < s.current → s.current ≤ i + capacity) :
    Sound first capacity (if Contradicts first capacity s i v then mark (store capacity s i v) i
      else store capacity s i v) := by
  have hretained : ∀ g w, retain capacity s i v g = some w →
      Function.update s.accepted i (some v) g = some w := by
    intro g w hw
    rcases retain_cases hw with ⟨rfl, rfl⟩ | ⟨hne, hw⟩
    · simp
    · rw [Function.update_of_ne hne]
      exact h.retained_accepted g w hw
  by_cases hc : Contradicts first capacity s i v
  · obtain ⟨hfi, hic, hcap, hne⟩ := hc
    rw [if_pos ⟨hfi, hic, hcap, hne⟩]
    have hdirty : ∀ j, (mark (store capacity s i v) i).dirty = some j → j ≤ i ∧
        (j = i ∨ s.dirty = some j) ∧ ∀ j', s.dirty = some j' → j ≤ j' := by
      intro j hj
      obtain rfl : min (s.dirty.getD i) i = j := Option.some.inj hj
      cases hd : s.dirty with
      | none => simp
      | some k =>
        refine ⟨min_le_right _ _, ?_, fun j' hj' => ?_⟩
        · rcases Nat.le_or_ge k i with hk | hk
          · exact Or.inr (by simp [hk])
          · exact Or.inl (by simp [hk])
        · obtain rfl := Option.some.inj hj'
          exact min_le_left _ _
    have hclean : ∀ g, (mark (store capacity s i v) i).Clean g → g < i ∧ s.Clean g := by
      intro g hg
      have hj := hg _ rfl
      obtain ⟨hji, -, hle⟩ := hdirty _ rfl
      exact ⟨by omega, fun j' hj' => by have := hle j' hj'; omega⟩
    refine ⟨le_min h.first_le hfi, (min_le_left _ _).trans h.confirmed_le, ?_, ?_, hretained, ?_, ?_⟩
    · intro j hj
      rcases (hdirty j hj).2.1 with rfl | hj'
      · exact ⟨hfi, hic, hcap⟩
      · exact h.dirty_window j hj'
    · intro j hj
      rcases (hdirty j hj).2.1 with rfl | hj'
      · exact min_le_right _ _
      · exact (min_le_left _ _).trans (h.confirmed_dirty j hj')
    · intro g hfg hgc hgcap hg w hw
      obtain ⟨hgi, hgclean⟩ := hclean g hg
      rcases retain_cases hw with ⟨rfl, -⟩ | ⟨-, hw⟩
      · omega
      · exact h.used_retained g hfg hgc hgcap hgclean w hw
    · intro g hfg hg
      have hg' : g < s.confirmed ∧ g < i := Nat.lt_min.1 hg
      change Function.update s.accepted i (some v) g = some (s.used g)
      rw [Function.update_of_ne (by omega)]
      exact h.confirmed_accepted g hfg hg'.1
  · rw [if_neg hc]
    have hsame : first ≤ i → i < s.current → s.used i = v := by
      intro hfi hic
      by_contra hne
      exact hc ⟨hfi, hic, hin hfi hic, hne⟩
    refine ⟨h.first_le, h.confirmed_le, h.dirty_window, h.confirmed_dirty, hretained, ?_, ?_⟩
    · intro g hfg hgc hgcap hg w hw
      rcases retain_cases hw with ⟨rfl, rfl⟩ | ⟨-, hw⟩
      · exact hsame hfg hgc
      · exact h.used_retained g hfg hgc hgcap hg w hw
    · intro g hfg hg
      change Function.update s.accepted i (some v) g = some (s.used g)
      rcases eq_or_ne g i with rfl | hne
      · rw [Function.update_self, hsame hfg (lt_of_lt_of_le hg h.confirmed_le)]
      · rw [Function.update_of_ne hne]
        exact h.confirmed_accepted g hfg hg

theorem accept [DecidableEq κ] (h : Sound first capacity s) {i : ℕ} {v : κ}
    (hin : first ≤ i → i < s.current → s.current ≤ i + capacity) :
    Sound first capacity (accept first capacity s i v) :=
  (h.accept_before_confirm hin).confirm

theorem resolve_eq {i : ℕ} {v : κ} (hv : s.retained i = some v) :
    resolve capacity neutral s i = v := by simp [resolve, hv]

theorem rerun (h : Sound first capacity s) {j : ℕ} (hd : s.dirty = some j) :
    Sound first capacity (rerun capacity neutral s j) := by
  refine ⟨h.first_le, h.confirmed_le, fun j' hj' => (by cases hj'), fun j' hj' => (by cases hj'),
    h.retained_accepted, ?_, ?_⟩
  · intro i hfi hic hcap _ v hv
    change (if j ≤ i ∧ i < s.current then _ else _) = v
    split
    · exact resolve_eq hv
    · rename_i hout
      have hij : i < j := by
        by_contra hge
        exact hout ⟨Nat.le_of_not_lt hge, hic⟩
      refine h.used_retained i hfi hic hcap (fun j' hj' => ?_) v hv
      exact Option.some.inj (hd.symm.trans hj') ▸ hij
  · intro i hfi hi
    have hij : i < j := lt_of_lt_of_le hi (h.confirmed_dirty j hd)
    change s.accepted i = some (if j ≤ i ∧ i < s.current then _ else _)
    rw [if_neg (by omega)]
    exact h.confirmed_accepted i hfi hi

theorem flush (h : Sound first capacity s) : Sound first capacity (flush capacity neutral s) := by
  unfold Speculation.flush
  cases hd : s.dirty with
  | none => exact h.confirm
  | some j => exact (h.rerun hd).confirm

theorem extend (h : Sound first capacity s) (hclean : s.dirty = none) :
    Sound first capacity (extend capacity neutral s) := by
  have hd : ∀ j, s.dirty = some j → False := by
    intro j hj
    rw [hclean] at hj
    cases hj
  refine ⟨h.first_le, h.confirmed_le.trans (Nat.le_succ _), fun j hj => (hd j hj).elim,
    fun j hj => (hd j hj).elim, h.retained_accepted, ?_, ?_⟩
  · intro i hfi hic hcap _ v hv
    change Function.update s.used s.current _ i = v
    rcases Nat.lt_succ_iff_lt_or_eq.1 hic with hlt | rfl
    · rw [Function.update_of_ne (by omega)]
      exact h.used_retained i hfi hlt (Nat.le_of_succ_le hcap) (by simp [State.Clean, hclean]) v hv
    · rw [Function.update_self]
      exact resolve_eq hv
  · intro i hfi hi
    have hlt : i < s.current := lt_of_lt_of_le hi h.confirmed_le
    change s.accepted i = some (Function.update s.used s.current _ i)
    rw [Function.update_of_ne (by omega)]
    exact h.confirmed_accepted i hfi hi

theorem advance (h : Sound first capacity s) (hclean : s.dirty = none) :
    Sound first capacity (advance capacity neutral s) := (h.extend hclean).confirm

end Sound

/-! ## Without early or very late arrivals the watermark is exact -/

structure Exact (capacity : ℕ) (s : State κ) : Prop where
  accepted_le : ∀ i v, s.accepted i = some v → i ≤ s.current
  recent : ∀ i, s.current < i + capacity → s.retained i = s.accepted i
  dirty_near : ∀ j, s.dirty = some j → s.current < j + capacity
  stuck : s.confirmed = s.current ∨ s.accepted s.confirmed = none ∨ s.dirty = some s.confirmed

namespace Exact

theorem start : Exact capacity (State.start first neutral) :=
  ⟨by simp [State.start], by simp [State.start], by simp [State.start], Or.inl rfl⟩

/-- Scanning restores exactness when the watermark, if it is not already stuck,
stands within the table. -/
private theorem confirm_of (hs : Sound first capacity s)
    (haccepted : ∀ i v, s.accepted i = some v → i ≤ s.current)
    (hrecent : ∀ i, s.current < i + capacity → s.retained i = s.accepted i)
    (hnear : ∀ j, s.dirty = some j → s.current < j + capacity)
    (hstuck : s.confirmed = s.current ∨ s.accepted s.confirmed = none ∨
      s.dirty = some s.confirmed ∨ s.current < s.confirmed + capacity) :
    Exact capacity (Speculation.confirm capacity s) := by
  refine ⟨haccepted, hrecent, hnear, ?_⟩
  set k := (Speculation.confirm capacity s).confirmed with hk
  have hsound := hs.confirm
  have hkc : k ≤ s.current := hsound.confirmed_le
  have hle : s.confirmed ≤ k := le_scan _ _ _
  change k = s.current ∨ s.accepted k = none ∨ s.dirty = some k
  by_cases hkeq : k = s.current
  · exact Or.inl hkeq
  by_cases hka : s.accepted k = none
  · exact Or.inr (Or.inl hka)
  by_cases hkd : s.dirty = some k
  · exact Or.inr (Or.inr hkd)
  exfalso
  have hklt : k < s.current := lt_of_le_of_ne hkc hkeq
  have hclean : s.Clean k := fun j hj => lt_of_le_of_ne (hsound.confirmed_dirty j hj)
    (fun he => hkd (he ▸ hj))
  have hnear : s.current < k + capacity := by
    rcases Nat.eq_or_lt_of_le hle with he | hlt
    · rcases hstuck with h | h | h | h
      · omega
      · exact absurd (he ▸ h) hka
      · exact absurd (he ▸ h) hkd
      · omega
    · have := ((eligible_iff s s.confirmed).1 (scan_passed _ _ le_rfl (hk ▸ hlt))).2.1
      omega
  obtain ⟨v, hv⟩ := Option.ne_none_iff_exists'.1 hka
  have heligible : eligible capacity s k = true :=
    (eligible_iff s k).2 ⟨hklt, by omega, ⟨v, (hrecent k hnear).trans hv⟩, hclean⟩
  have hstop : eligible capacity s (s.confirmed + capacity) = false := by
    rw [← Bool.not_eq_true, eligible_iff]
    rintro ⟨hlt, -, ⟨w, hw⟩, -⟩
    rcases hstuck with h | h | h | h
    · omega
    · have hw' := hs.retained_accepted _ w hw
      have hke : k = s.confirmed := by
        by_contra hne
        obtain ⟨-, -, ⟨u, hu⟩, -⟩ := (eligible_iff s s.confirmed).1
          (scan_passed _ _ le_rfl (hk ▸ lt_of_le_of_ne hle (Ne.symm hne)))
        rw [hs.retained_accepted _ u hu] at h
        cases h
      exact hka (hke ▸ h)
    · exact absurd (hsound.confirmed_dirty _ h) (by
        intro hge
        exact hkd (by rw [h, Nat.le_antisymm hle hge]))
    · omega
  have := scan_stops _ _ _ hstop
  rw [← show k = scan (eligible capacity s) capacity s.confirmed from hk, heligible] at this
  cases this

theorem confirm (h : Exact capacity s) (hs : Sound first capacity s) :
    Exact capacity (Speculation.confirm capacity s) := by
  refine confirm_of hs h.accepted_le h.recent h.dirty_near ?_
  rcases h.stuck with h | h | h
  · exact Or.inl h
  · exact Or.inr (Or.inl h)
  · exact Or.inr (Or.inr (Or.inl h))

private theorem recent_store (h : Exact capacity s) {i : ℕ} {v : κ}
    (hi : i ≤ s.current) (hnear : s.current < i + capacity) (g : ℕ)
    (hg : s.current < g + capacity) :
    retain capacity s i v g = Function.update s.accepted i (some v) g := by
  rcases eq_or_ne g i with rfl | hne
  · simp [retain]
  · rw [Function.update_of_ne hne, retain, if_neg hne]
    split
    · rename_i hmod
      cases ha : s.accepted g with
      | none => rfl
      | some w =>
        -- a count of the same slot is a whole table away, so it cannot have arrived yet
        have hgc := h.accepted_le g w ha
        have hfar : ∀ a b, a < b → a % capacity = b % capacity → a + capacity ≤ b := by
          intro a b hab he
          have hd : capacity ∣ b - a := (Nat.modEq_iff_dvd' hab.le).1 he
          have := Nat.le_of_dvd (by omega) hd
          omega
        rcases Nat.lt_or_gt_of_ne hne with hlt | hgt
        · have := hfar g i hlt hmod
          omega
        · have := hfar i g hgt hmod.symm
          omega
    · exact h.recent g hg

theorem accept [DecidableEq κ] (h : Exact capacity s) (hs : Sound first capacity s) {i : ℕ} {v : κ}
    (hi : i ≤ s.current) (hnear : s.current < i + capacity) :
    Exact capacity (accept first capacity s i v) := by
  have haccepted : ∀ g w, Function.update s.accepted i (some v) g = some w → g ≤ s.current := by
    intro g w hw
    rcases eq_or_ne g i with rfl | hne
    · exact hi
    · rw [Function.update_of_ne hne] at hw
      exact h.accepted_le g w hw
  have hrecent := recent_store (v := v) h hi hnear
  have hnone : ∀ {g}, s.accepted g = none → g ≠ i →
      Function.update s.accepted i (some v) g = none := by
    intro g hg hne
    rw [Function.update_of_ne hne, hg]
  -- the state that `accept` scans from is sound, since scanning leaves it as it is
  have hpre : Sound first capacity (if Contradicts first capacity s i v then
      mark (store capacity s i v) i else store capacity s i v) :=
    hs.accept_before_confirm (fun _ _ => hnear.le)
  unfold Speculation.accept
  by_cases hc : Contradicts first capacity s i v
  · rw [if_pos hc] at hpre ⊢
    obtain ⟨-, hic, -, -⟩ := hc
    have hmin : s.confirmed ≤ s.dirty.getD s.confirmed := by
      cases hd : s.dirty with
      | none => exact le_rfl
      | some k => exact hs.confirmed_dirty k hd
    refine confirm_of hpre haccepted hrecent ?_ ?_
    · intro j hj
      obtain rfl : min (s.dirty.getD i) i = j := Option.some.inj hj
      rcases min_choice (s.dirty.getD i) i with he | he
      · rw [he]
        cases hd : s.dirty with
        | none => exact hnear
        | some k => exact h.dirty_near k hd
      · rw [he]
        exact hnear
    · change min s.confirmed i = s.current ∨ Function.update s.accepted i (some v) (min s.confirmed i)
        = none ∨ some (min (s.dirty.getD i) i) = some (min s.confirmed i) ∨ _
      rcases Nat.lt_or_ge i s.confirmed with hlt | hge
      · refine Or.inr (Or.inr (Or.inl (congrArg some ?_)))
        cases hd : s.dirty <;> simp_all <;> omega
      · rw [Nat.min_eq_left hge]
        rcases h.stuck with hk | hk | hk
        · omega
        · rcases eq_or_ne s.confirmed i with he | hne
          · refine Or.inr (Or.inr (Or.inl (congrArg some ?_)))
            cases hd : s.dirty <;> simp_all
          · exact Or.inr (Or.inl (hnone hk hne))
        · exact Or.inr (Or.inr (Or.inl (by simp [hk, hge])))
  · rw [if_neg hc] at hpre ⊢
    refine confirm_of hpre haccepted hrecent h.dirty_near ?_
    rcases h.stuck with hk | hk | hk
    · exact Or.inl hk
    · rcases eq_or_ne s.confirmed i with he | hne
      · exact Or.inr (Or.inr (Or.inr (he ▸ hnear)))
      · exact Or.inr (Or.inl (hnone hk hne))
    · exact Or.inr (Or.inr (Or.inl hk))

theorem flush (h : Exact capacity s) (hs : Sound first capacity s) :
    Exact capacity (flush capacity neutral s) := by
  unfold Speculation.flush
  cases hd : s.dirty with
  | none => exact h.confirm hs
  | some j =>
    refine confirm_of (hs.rerun hd) h.accepted_le h.recent (by simp [rerun]) ?_
    change s.confirmed = s.current ∨ s.accepted s.confirmed = none ∨ none = some s.confirmed ∨
      s.current < s.confirmed + capacity
    rcases h.stuck with hk | hk | hk
    · exact Or.inl hk
    · exact Or.inr (Or.inl hk)
    · exact Or.inr (Or.inr (Or.inr (h.dirty_near _ hk)))

theorem advance (h : Exact capacity s) (hs : Sound first capacity s) (hclean : s.dirty = none)
    (hcap : 1 < capacity) : Exact capacity (advance capacity neutral s) := by
  refine confirm_of (hs.extend hclean) (fun i v hv => (h.accepted_le i v hv).trans (Nat.le_succ _))
    (fun i hi => h.recent i (Nat.lt_of_succ_lt hi)) (fun j hj => ?_) ?_
  · rw [show (extend capacity neutral s).dirty = s.dirty from rfl, hclean] at hj
    cases hj
  · change s.confirmed = s.current + 1 ∨ s.accepted s.confirmed = none ∨ s.dirty = some s.confirmed ∨
      s.current + 1 < s.confirmed + capacity
    rcases h.stuck with hk | hk | hk
    · exact Or.inr (Or.inr (Or.inr (by omega)))
    · exact Or.inr (Or.inl hk)
    · exact Or.inr (Or.inr (Or.inl hk))

/-- The watermark is the first gap, or the earliest dirty count if that is lower. -/
theorem confirmed_eq (h : Exact capacity s) (hs : Sound first capacity s) {m : ℕ} (hfm : first ≤ m)
    (hm : m ≤ s.current) (hfilled : ∀ i, first ≤ i → i < m → s.accepted i ≠ none)
    (hgap : m = s.current ∨ s.accepted m = none) :
    s.confirmed = min m (s.dirty.getD m) := by
  have hle : s.confirmed ≤ m := by
    by_contra hlt
    rcases hgap with hg | hg
    · have := hs.confirmed_le
      omega
    · rw [hs.confirmed_accepted m hfm (by omega)] at hg
      cases hg
  have hge : s.dirty ≠ some s.confirmed → m ≤ s.confirmed := by
    intro hd
    rcases h.stuck with hk | hk | hk
    · omega
    · by_contra hlt
      exact hfilled _ hs.first_le (by omega) hk
    · exact absurd hk hd
  cases hd : s.dirty with
  | none =>
    rw [Option.getD_none, min_self]
    exact Nat.le_antisymm hle (hge (by simp [hd]))
  | some j =>
    have hj := hs.confirmed_dirty j hd
    rw [Option.getD_some]
    rcases eq_or_ne j s.confirmed with rfl | hne
    · exact (min_eq_right hle).symm
    · have := hge (by rw [hd]; exact fun he => hne (Option.some.inj he))
      omega

end Exact

/-! ## Clean counts follow the accepted history -/

/-- Either a gap has fallen too far behind to be filled, or every clean count was run
with the nearest value accepted at or below it. -/
def Settled (first gap : ℕ) (neutral : κ) (s : State κ) : Prop :=
  (∃ x, first ≤ x ∧ s.accepted x = none ∧ x + gap < s.current) ∨
    ∀ i, first ≤ i → i < s.current → s.Clean i → s.used i = below s.accepted neutral (i + 1)

namespace Settled

variable {gap : ℕ}

theorem start : Settled first gap neutral (State.start first neutral) := by
  refine Or.inr (fun i hf hi => ?_)
  simp only [State.start] at hi
  omega

/-- Unless a gap has fallen too far behind, resolving a recent count gives the nearest
value accepted at or below it. -/
private theorem resolve_eq_below (hs : Sound first capacity s) (he : Exact capacity s)
    (hearly : ∀ i < first, s.accepted i = none) (hfirst : capacity ≤ first)
    (hgap : gap + 1 < capacity)
    (hopen : ¬ ∃ x, first ≤ x ∧ s.accepted x = none ∧ x + gap < s.current)
    {i : ℕ} (hfi : first ≤ i) (hic : i ≤ s.current) (hnear : s.current < i + capacity) :
    resolve capacity neutral s i = below s.accepted neutral (i + 1) := by
  have hclosed : ∀ x, first ≤ x → s.accepted x = none → s.current ≤ x + gap := by
    intro x hx hn
    by_contra hlt
    exact hopen ⟨x, hx, hn, by omega⟩
  rw [resolve, below_succ, he.recent i hnear]
  cases hi : s.accepted i with
  | some v => rfl
  | none =>
    simp only [Option.getD_none]
    apply lookBack_eq_below (hfirst.trans hfi)
    · intro g hg hgn hbetween
      rcases Nat.lt_or_ge s.current (g + capacity) with hlt | hge
      · exact he.recent g hlt
      · have hnext : s.accepted (g + 1) = none := by
          rcases Nat.eq_or_lt_of_le (Nat.succ_le_of_lt hg) with h | h
          · rwa [show g + 1 = i from h]
          · exact hbetween (g + 1) (Nat.lt_succ_self g) h
        have hgf : g < first := by
          by_contra hgf
          have := hclosed (g + 1) (by omega) hnext
          omega
        rw [hearly g hgf]
        by_contra hne
        obtain ⟨w, hw⟩ := Option.ne_none_iff_exists'.1 hne
        have := hs.retained_accepted g w hw
        rw [hearly g hgf] at this
        cases this
    · intro hnone g hg
      by_contra hne
      have hgf : first ≤ g := by
        by_contra hgf
        exact hne (hearly g (by omega))
      rcases Nat.lt_or_ge g (i - capacity) with hlt | hge
      · have := hclosed (i - capacity) (by omega) (hnone _ (by omega) (by omega))
        omega
      · exact hne (hnone g hg (by omega))

theorem accept [DecidableEq κ] (h : Settled first gap neutral s) (hgap : gap ≤ capacity) {i : ℕ}
    {v : κ} (hfi : first ≤ i) (hi : i ≤ s.current) (hnear : s.current ≤ i + gap) :
    Settled first gap neutral (accept first capacity s i v) := by
  rcases h with ⟨x, hx, hn, hlt⟩ | h
  · refine Or.inl ⟨x, hx, ?_, ?_⟩
    · unfold Speculation.accept
      split <;> exact (Function.update_of_ne (by omega) _ _).trans hn
    · unfold Speculation.accept
      split <;> exact hlt
  · refine Or.inr ?_
    unfold Speculation.accept
    by_cases hc : Contradicts first capacity s i v
    · rw [if_pos hc]
      intro g hfg hgc hg
      have hgi : g < min (s.dirty.getD i) i := hg _ rfl
      change s.used g = below (Function.update s.accepted i (some v)) neutral (g + 1)
      rw [below_update_of_le (by omega)]
      refine h g hfg hgc (fun j hj => ?_)
      rw [hj, Option.getD_some] at hgi
      omega
    · rw [if_neg hc]
      intro g hfg hgc hg
      change s.used g = below (Function.update s.accepted i (some v)) neutral (g + 1)
      have hclean : s.Clean g := hg
      have hgc' : g < s.current := hgc
      rcases Nat.lt_or_ge g i with hlt | hge
      · rw [below_update_of_le (by omega)]
        exact h g hfg hgc hclean
      · have hused : s.used i = v := by
          by_contra hne
          exact hc ⟨hfi, by omega, by omega, hne⟩
        have hiclean : s.Clean i := fun j hj => lt_of_le_of_lt hge (hclean j hj)
        rw [below_update_self ((h i hfi (by omega) hiclean).symm.trans hused)]
        exact h g hfg hgc hclean

theorem flush (h : Settled first gap neutral s) (hs : Sound first capacity s)
    (he : Exact capacity s) (hearly : ∀ i < first, s.accepted i = none) (hfirst : capacity ≤ first)
    (hgap : gap + 1 < capacity) : Settled first gap neutral (flush capacity neutral s) := by
  unfold Speculation.flush
  cases hd : s.dirty with
  | none => exact h
  | some j =>
    by_cases hopen : ∃ x, first ≤ x ∧ s.accepted x = none ∧ x + gap < s.current
    · exact Or.inl hopen
    · refine Or.inr (fun i hfi hic _ => ?_)
      have hic' : i < s.current := hic
      change (if j ≤ i ∧ i < s.current then resolve capacity neutral s i else s.used i) =
        below s.accepted neutral (i + 1)
      by_cases hji : j ≤ i
      · rw [if_pos ⟨hji, hic'⟩]
        have := he.dirty_near j hd
        exact resolve_eq_below hs he hearly hfirst hgap hopen hfi hic'.le (by omega)
      · rw [if_neg (fun hc => hji hc.1)]
        refine (h.resolve_left hopen) i hfi hic (fun k hk => ?_)
        obtain rfl := Option.some.inj (hd.symm.trans hk)
        omega

theorem advance (h : Settled first gap neutral s) (hs : Sound first capacity s)
    (he : Exact capacity s) (hearly : ∀ i < first, s.accepted i = none) (hfirst : capacity ≤ first)
    (hgap : gap + 1 < capacity) (hclean : s.dirty = none) :
    Settled first gap neutral (advance capacity neutral s) := by
  by_cases hopen : ∃ x, first ≤ x ∧ s.accepted x = none ∧ x + gap < s.current
  · obtain ⟨x, hx, hn, hlt⟩ := hopen
    exact Or.inl ⟨x, hx, hn, Nat.lt_succ_of_lt hlt⟩
  · refine Or.inr (fun i hfi hic _ => ?_)
    change Function.update s.used s.current _ i = below s.accepted neutral (i + 1)
    rcases Nat.lt_succ_iff_lt_or_eq.1 hic with hlt | rfl
    · rw [Function.update_of_ne (by omega)]
      exact (h.resolve_left hopen) i hfi hlt (by simp [State.Clean, hclean])
    · rw [Function.update_self]
      exact resolve_eq_below hs he hearly hfirst hgap hopen hfi le_rfl (by omega)

end Settled

/-! ## Invariants of a run -/

/-- A property that the operations keep, when values arrive as `arrival` allows. -/
structure Kept [DecidableEq κ] (first capacity : ℕ) (neutral : κ) (arrival : State κ → ℕ → Prop)
    (P : State κ → Prop) : Prop where
  start : P (State.start first neutral)
  accept : ∀ s i v, P s → arrival s i → P (accept first capacity s i v)
  flush : ∀ s, P s → P (flush capacity neutral s)
  advance : ∀ s, P s → s.dirty = none → P (advance capacity neutral s)

theorem Kept.trivial [DecidableEq κ] (neutral : κ) :
    Kept first capacity neutral (fun _ _ => True) (fun _ => True) :=
  ⟨True.intro, fun _ _ _ _ _ => True.intro, fun _ _ => True.intro, fun _ _ _ => True.intro⟩

theorem Kept.sound [DecidableEq κ] : Kept first capacity neutral
    (fun s i => first ≤ i → i < s.current → s.current ≤ i + capacity) (Sound first capacity) :=
  ⟨.start, fun _ _ _ h hin => h.accept hin, fun _ h => h.flush, fun _ h hc => h.advance hc⟩

theorem Kept.exact [DecidableEq κ] (hcap : 1 < capacity) : Kept first capacity neutral
    (fun s i => i ≤ s.current ∧ s.current < i + capacity)
    (fun s => Sound first capacity s ∧ Exact capacity s) :=
  ⟨⟨.start, .start⟩,
    fun _ _ _ h hin => ⟨h.1.accept (fun _ _ => hin.2.le), h.2.accept h.1 hin.1 hin.2⟩,
    fun _ h => ⟨h.1.flush, h.2.flush h.1⟩,
    fun _ h hc => ⟨h.1.advance hc, h.2.advance h.1 hc hcap⟩⟩

theorem Kept.settled [DecidableEq κ] (gap : ℕ) (hfirst : capacity ≤ first) (hgap : gap + 1 < capacity) :
    Kept first capacity neutral
      (fun s i => first ≤ i ∧ i ≤ s.current ∧ s.current ≤ i + gap)
      (fun s => Sound first capacity s ∧ Exact capacity s ∧ Settled first gap neutral s ∧
        ∀ i < first, s.accepted i = none) := by
  refine ⟨⟨.start, .start, .start, fun _ _ => rfl⟩, ?_, ?_, ?_⟩
  · rintro s i v ⟨hs, he, ht, hearly⟩ ⟨hf, hi, hnear⟩
    refine ⟨hs.accept (fun _ _ => by omega), he.accept hs hi (by omega),
      ht.accept (by omega) hf hi hnear, fun j hj => ?_⟩
    rw [show (Speculation.accept first capacity s i v).accepted =
      Function.update s.accepted i (some v) by unfold Speculation.accept; split <;> rfl,
      Function.update_of_ne (by omega)]
    exact hearly j hj
  · rintro s ⟨hs, he, ht, hearly⟩
    refine ⟨hs.flush, he.flush hs, ht.flush hs he hearly hfirst hgap, ?_⟩
    unfold Speculation.flush
    split <;> exact hearly
  · rintro s ⟨hs, he, ht, hearly⟩ hc
    exact ⟨hs.advance hc, he.advance hs hc (by omega),
      ht.advance hs he hearly hfirst hgap hc, hearly⟩

end Invariants

end Speculation
