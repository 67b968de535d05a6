import Mathlib.Data.List.Induction
import Mathlib.Data.Nat.Bitwise
import Mathlib.Tactic.Linarith

/-!
# The sequence window

A receiver remembers the newest sequence number and, in a mask of 64 bits, which of the
numbers just before it have been seen. Read as integers, the numbers of a stream that
spans less than half the ring are told apart exactly.
-/

namespace RollbackLab

inductive SequenceDisposition where
  | newest | outOfOrder | duplicate | stale
  deriving DecidableEq, Repr, Inhabited

structure SequenceWindow where
  initialized : Bool := false
  newest : UInt32 := 0
  receivedMask : UInt64 := 0
  deriving DecidableEq, Repr, Inhabited

def SequenceWindow.observe (window : SequenceWindow) (sequence : UInt32) :
    SequenceDisposition × SequenceWindow :=
  if !window.initialized then (.newest, ⟨true, sequence, 1⟩)
  else
    let forward := sequence - window.newest
    if forward = 0 then (.duplicate, window)
    else if forward < 0x80000000 then
      let receivedMask :=
        if 64 ≤ forward then 1 else (window.receivedMask <<< forward.toUInt64) ||| 1
      (.newest, { window with receivedMask := receivedMask, newest := sequence })
    else
      let behind := window.newest - sequence
      if 64 ≤ behind then (.stale, window)
      else
        let bit : UInt64 := 1 <<< behind.toUInt64
        if window.receivedMask &&& bit ≠ 0 then (.duplicate, window)
        else (.outOfOrder, { window with receivedMask := window.receivedMask ||| bit })

namespace SequenceWindow

/-! ## The mask -/

/-- The bit of the number that is `i` behind the newest. -/
def seen (mask : UInt64) (i : ℕ) : Bool := mask.toNat.testBit i

theorem seen_one (i : ℕ) : seen 1 i = decide (i = 0) := by
  rw [seen, UInt64.toNat_one, ← Nat.pow_zero 2, Nat.testBit_two_pow, decide_eq_decide]
  exact eq_comm

theorem seen_or (mask mask' : UInt64) (i : ℕ) : seen (mask ||| mask') i = (seen mask i || seen mask' i) := by
  rw [seen, UInt64.toNat_or, Nat.testBit_or]
  rfl

theorem seen_shiftLeft (mask : UInt64) {d i : ℕ} (hd : d < 64) (hi : i < 64) :
    seen (mask <<< UInt64.ofNat d) i = (decide (d ≤ i) && seen mask (i - d)) := by
  have hmod : (UInt64.ofNat d).toNat % 64 = d := by
    rw [UInt64.toNat_ofNat']
    omega
  rw [seen, UInt64.toNat_shiftLeft, hmod, Nat.testBit_mod_two_pow, Nat.testBit_shiftLeft]
  simp [hi, seen]

theorem seen_bit {d i : ℕ} (hd : d < 64) (hi : i < 64) :
    seen (1 <<< UInt64.ofNat d) i = decide (i = d) := by
  rw [seen_shiftLeft 1 hd hi, seen_one]
  by_cases h : d ≤ i
  · simp only [h, decide_true, Bool.true_and, decide_eq_decide]
    omega
  · simp only [h, decide_false, Bool.false_and, Bool.false_eq, decide_eq_false_iff_not]
    omega

theorem and_bit_ne_zero (mask : UInt64) {d : ℕ} (hd : d < 64) :
    mask &&& (1 <<< UInt64.ofNat d) ≠ 0 ↔ seen mask d = true := by
  have hmod : (UInt64.ofNat d).toNat % 64 = d := by
    rw [UInt64.toNat_ofNat']
    omega
  have hbit : ((1 : UInt64) <<< UInt64.ofNat d).toNat = 2 ^ d := by
    rw [UInt64.toNat_shiftLeft, hmod, UInt64.toNat_one, Nat.one_shiftLeft,
      Nat.mod_eq_of_lt (Nat.pow_lt_pow_right (by omega) hd)]
  rw [ne_eq, ← UInt64.toNat_inj, UInt64.toNat_and, hbit, UInt64.toNat_zero, Nat.and_two_pow, seen]
  cases mask.toNat.testBit d <;> simp

/-! ## The stream -/

/-- The wire number of an unwrapped one. -/
def wrap (number : ℤ) : UInt32 := UInt32.ofInt number

theorem wrap_sub (x y : ℤ) : (wrap x - wrap y).toNat = ((x - y) % 2 ^ 32).toNat := by
  have hsub : wrap x - wrap y = UInt32.ofInt (x - y) := by
    rw [Int.sub_eq_add_neg, UInt32.ofInt_add, UInt32.ofInt_neg, UInt32.sub_eq_add_neg]
    rfl
  rw [hsub, UInt32.ofInt, UInt32.toNat_ofNat']
  omega

/-- What a receiver should say about a number after the numbers of a history. -/
def classify (history : List ℤ) (number : ℤ) : SequenceDisposition :=
  match history.max? with
  | none => .newest
  | some largest =>
    if largest < number then .newest
    else if number ≤ largest - 64 then .stale
    else if number ∈ history then .duplicate
    else .outOfOrder

/-- The window that a stream leaves. -/
def observeAll (window : SequenceWindow) (numbers : List ℤ) : SequenceWindow :=
  numbers.foldl (fun window number => (window.observe (wrap number)).2) window

/-- All numbers of a stream are less than half the ring apart. -/
def Spans (numbers : List ℤ) : Prop := ∀ x ∈ numbers, ∀ y ∈ numbers, x - y < 2 ^ 31

/-- The mask holds the history of the numbers just before the largest. -/
structure Remembers (history : List ℤ) (window : SequenceWindow) : Prop where
  empty : window.initialized = false ↔ history = []
  largest : ∀ m, history.max? = some m → window.newest = wrap m ∧
    ∀ i < 64, seen window.receivedMask i = true ↔ m - i ∈ history

theorem Remembers.start : Remembers [] {} := ⟨⟨fun _ => rfl, fun _ => rfl⟩, nofun⟩

theorem toUInt64_eq (x : UInt32) : x.toUInt64 = UInt64.ofNat x.toNat := by
  apply UInt64.toNat_inj.1
  have := x.toNat_lt
  rw [UInt32.toNat_toUInt64, UInt64.toNat_ofNat']
  omega

/-- A larger number becomes the newest, and the mask moves up. -/
theorem observe_larger {window : SequenceWindow} (hinit : window.initialized = true) {m number : ℤ}
    (hnewest : window.newest = wrap m) (hlarger : m < number) (hspan : number - m < 2 ^ 31) :
    ∃ mask, window.observe (wrap number) = (.newest, ⟨true, wrap number, mask⟩) ∧
      ∀ i < 64, seen mask i = (decide (i = 0) || decide (number - m ≤ i) &&
        seen window.receivedMask (i - (number - m).toNat)) := by
  have hforward : (wrap number - window.newest).toNat = (number - m).toNat := by
    rw [hnewest, wrap_sub]
    omega
  have hne : wrap number - window.newest ≠ 0 := by
    rw [ne_eq, ← UInt32.toNat_inj, hforward, UInt32.toNat_zero]
    omega
  have hlt : wrap number - window.newest < 0x80000000 := by
    rw [UInt32.lt_iff_toNat_lt, hforward]
    change _ < 2147483648
    omega
  rw [SequenceWindow.observe, if_neg (by simp [hinit])]
  dsimp only
  rw [if_neg hne, if_pos hlt, hinit]
  refine ⟨_, rfl, fun i hi => ?_⟩
  by_cases hfar : 64 ≤ wrap number - window.newest
  · have hd : 64 ≤ (number - m).toNat := hforward ▸ UInt32.le_iff_toNat_le.1 hfar
    rw [if_pos hfar, seen_one, decide_eq_false (show ¬ number - m ≤ i by omega)]
    simp
  · have hd : (number - m).toNat < 64 := hforward ▸ UInt32.lt_iff_toNat_lt.1 (UInt32.not_le.1 hfar)
    rw [if_neg hfar, toUInt64_eq, hforward, seen_or, seen_one, seen_shiftLeft _ hd hi, Bool.or_comm]
    congr 2
    rw [decide_eq_decide]
    omega

/-- A smaller number is looked up in the mask. -/
theorem observe_smaller {window : SequenceWindow} (hinit : window.initialized = true) {m number : ℤ}
    (hnewest : window.newest = wrap m) (hsmaller : number < m) (hspan : m - number < 2 ^ 31) :
    window.observe (wrap number) =
      if 64 ≤ m - number then (.stale, window)
      else if seen window.receivedMask (m - number).toNat then (.duplicate, window)
      else (.outOfOrder, { window with
        receivedMask := window.receivedMask ||| 1 <<< UInt64.ofNat (m - number).toNat }) := by
  have hforward : (wrap number - window.newest).toNat = 2 ^ 32 - (m - number).toNat := by
    rw [hnewest, wrap_sub]
    omega
  have hbehind : (window.newest - wrap number).toNat = (m - number).toNat := by
    rw [hnewest, wrap_sub]
    omega
  have hne : wrap number - window.newest ≠ 0 := by
    rw [ne_eq, ← UInt32.toNat_inj, hforward, UInt32.toNat_zero]
    omega
  have hlt : ¬ wrap number - window.newest < 0x80000000 := by
    rw [UInt32.lt_iff_toNat_lt, hforward]
    change ¬ _ < 2147483648
    omega
  have hfar : 64 ≤ window.newest - wrap number ↔ 64 ≤ m - number := by
    rw [UInt32.le_iff_toNat_le, hbehind]
    change 64 ≤ _ ↔ _
    omega
  rw [SequenceWindow.observe, if_neg (by simp [hinit])]
  dsimp only
  rw [if_neg hne, if_neg hlt]
  by_cases hstale : 64 ≤ m - number
  · rw [if_pos (hfar.2 hstale), if_pos hstale]
  · rw [if_neg fun h => hstale (hfar.1 h), if_neg hstale, toUInt64_eq, hbehind]
    have hbit := and_bit_ne_zero window.receivedMask (show (m - number).toNat < 64 by omega)
    by_cases hseen : seen window.receivedMask (m - number).toNat = true
    · rw [if_pos (hbit.2 hseen), if_pos hseen]
    · rw [if_neg fun h => hseen (hbit.1 h), if_neg hseen]

theorem max?_concat {history : List ℤ} {m : ℤ} (h : history.max? = some m) (number : ℤ) :
    (history ++ [number]).max? = some (max m number) := by
  obtain ⟨hmem, hle⟩ := List.max?_eq_some_iff.1 h
  refine List.max?_eq_some_iff.2 ⟨?_, fun x hx => ?_⟩
  · rcases max_choice m number with heq | heq
    · rw [heq]
      exact List.mem_append_left _ hmem
    · rw [heq]
      exact List.mem_append_right _ List.mem_cons_self
  · rcases List.mem_append.1 hx with hold | hnew
    · exact (hle x hold).trans (le_max_left _ _)
    · exact (List.mem_singleton.1 hnew).le.trans (le_max_right _ _)

/-- The mask of a window that remembers a history, after one more number. -/
theorem Remembers.of_seen {history : List ℤ} {window : SequenceWindow} {m number : ℤ}
    (hmax : history.max? = some m) (hinit : window.initialized = true)
    (hnewest : window.newest = wrap (max m number))
    (hseen : ∀ i < 64, seen window.receivedMask i = true ↔ max m number - i ∈ history ++ [number]) :
    Remembers (history ++ [number]) window := by
  refine ⟨⟨fun h => ?_, fun h => ?_⟩, fun largest hlargest => ?_⟩
  · rw [hinit] at h
    cases h
  · cases List.append_eq_nil_iff.1 h |>.2
  · cases (max?_concat hmax number).symm.trans hlargest
    exact ⟨hnewest, hseen⟩

/-- One number is classified by the history, and then remembered. -/
theorem Remembers.observe {history : List ℤ} {window : SequenceWindow} (h : Remembers history window)
    {number : ℤ} (hspan : Spans (history ++ [number])) :
    (window.observe (wrap number)).1 = classify history number ∧
      Remembers (history ++ [number]) (window.observe (wrap number)).2 := by
  cases hmax : history.max? with
  | none =>
    obtain rfl : history = [] := List.max?_eq_none_iff.1 hmax
    rw [SequenceWindow.observe, h.empty.2 rfl]
    refine ⟨rfl, ⟨nofun, nofun⟩, fun m hm => ?_⟩
    obtain rfl : number = m := Option.some.inj hm
    refine ⟨rfl, fun i hi => ?_⟩
    change seen 1 i = true ↔ _
    rw [seen_one, decide_eq_true_iff, List.nil_append, List.mem_singleton]
    omega
  | some m =>
    obtain ⟨hmem, hle⟩ := List.max?_eq_some_iff.1 hmax
    obtain ⟨hnewest, hseen⟩ := h.largest m hmax
    have hinit : window.initialized = true := by
      rw [← Bool.not_eq_false, h.empty]
      rintro rfl
      cases hmem
    have habove := hspan number (List.mem_append_right _ List.mem_cons_self) m
      (List.mem_append_left _ hmem)
    have hbelow := hspan m (List.mem_append_left _ hmem) number
      (List.mem_append_right _ List.mem_cons_self)
    rw [classify, hmax]
    dsimp only
    rcases lt_trichotomy m number with hlt | rfl | hgt
    · obtain ⟨mask, hobserve, hmask⟩ := observe_larger hinit hnewest hlt habove
      rw [hobserve, if_pos hlt]
      refine ⟨rfl, .of_seen hmax rfl (by rw [max_eq_right hlt.le]) fun i hi => ?_⟩
      rw [max_eq_right hlt.le, hmask i hi, List.mem_append, List.mem_singleton]
      by_cases hold : number - m ≤ i
      · have hback := hseen (i - (number - m).toNat) (by omega)
        rw [show m - ((i - (number - m).toNat : ℕ) : ℤ) = number - i by omega] at hback
        simp only [hold, decide_true, Bool.true_and, Bool.or_eq_true, decide_eq_true_iff, hback]
        constructor
        · rintro (rfl | hhistory)
          · exact Or.inr (by simp)
          · exact Or.inl hhistory
        · rintro (hhistory | hzero)
          · exact Or.inr hhistory
          · exact Or.inl (by omega)
      · simp only [hold, decide_false, Bool.false_and, Bool.or_false, decide_eq_true_iff]
        constructor
        · rintro rfl
          exact Or.inr (by simp)
        · rintro (hhistory | hzero)
          · have := hle _ hhistory
            omega
          · omega
    · have hzero := hseen 0 (by omega)
      rw [SequenceWindow.observe, if_neg (by simp [hinit])]
      dsimp only
      rw [hnewest, if_pos (UInt32.sub_self _), if_neg (lt_irrefl m), if_neg (by omega), if_pos hmem]
      refine ⟨rfl, .of_seen hmax hinit (by rw [max_self, hnewest]) fun i hi => ?_⟩
      rw [max_self, hseen i hi, List.mem_append, List.mem_singleton]
      constructor
      · exact Or.inl
      · rintro (hhistory | heq)
        · exact hhistory
        · rwa [heq]
    · rw [observe_smaller hinit hnewest hgt hbelow, if_neg (show ¬ m < number by omega)]
      have hlookup := hseen (m - number).toNat
      by_cases hstale : 64 ≤ m - number
      · rw [if_pos hstale, if_pos (by omega)]
        refine ⟨rfl, .of_seen hmax hinit (by rw [max_eq_left hgt.le, hnewest]) fun i hi => ?_⟩
        rw [max_eq_left hgt.le, hseen i hi, List.mem_append, List.mem_singleton]
        constructor
        · exact Or.inl
        · rintro (hhistory | heq)
          · exact hhistory
          · omega
      · have hlookup := hlookup (by omega)
        rw [show m - ((m - number).toNat : ℤ) = number by omega] at hlookup
        rw [if_neg hstale, if_neg (show ¬ number ≤ m - 64 by omega)]
        by_cases hold : number ∈ history
        · rw [if_pos (hlookup.2 hold), if_pos hold]
          refine ⟨rfl, .of_seen hmax hinit (by rw [max_eq_left hgt.le, hnewest]) fun i hi => ?_⟩
          rw [max_eq_left hgt.le, hseen i hi, List.mem_append, List.mem_singleton]
          constructor
          · exact Or.inl
          · rintro (hhistory | heq)
            · exact hhistory
            · rwa [heq]
        · rw [if_neg fun hc => hold (hlookup.1 hc), if_neg hold]
          refine ⟨rfl, .of_seen hmax hinit (by rw [max_eq_left hgt.le]; exact hnewest) fun i hi => ?_⟩
          rw [max_eq_left hgt.le, seen_or, Bool.or_eq_true, hseen i hi,
            seen_bit (show (m - number).toNat < 64 by omega) hi, decide_eq_true_iff, List.mem_append,
            List.mem_singleton]
          have hsame : i = (m - number).toNat ↔ m - i = number := by omega
          rw [hsame]

theorem remembers_observeAll {history : List ℤ} (hspan : Spans history) :
    Remembers history (observeAll {} history) := by
  induction history using List.reverseRecOn with
  | nil => exact .start
  | append_singleton history number ih =>
    have hbefore : Spans history := fun x hx y hy =>
      hspan x (List.mem_append_left _ hx) y (List.mem_append_left _ hy)
    rw [observeAll, List.foldl_append]
    exact ((ih hbefore).observe hspan).2

/-- The receive window is exact, also where the wire numbers wrap: no number is accepted
twice, and no fresh number within the window is dropped. -/
theorem sequence_window_exact (history : List ℤ) (number : ℤ) (hspan : Spans (history ++ [number])) :
    ((observeAll {} history).observe (wrap number)).1 = classify history number ∧
      (((observeAll {} history).observe (wrap number)).1 = .newest ∨
        ((observeAll {} history).observe (wrap number)).1 = .outOfOrder ↔
          number ∉ history ∧ ∀ x ∈ history, x < number + 64) := by
  have hbefore : Spans history := fun x hx y hy =>
    hspan x (List.mem_append_left _ hx) y (List.mem_append_left _ hy)
  obtain ⟨hclass, -⟩ := (remembers_observeAll hbefore).observe hspan
  refine ⟨hclass, ?_⟩
  rw [hclass, classify]
  cases hmax : history.max? with
  | none =>
    obtain rfl : history = [] := List.max?_eq_none_iff.1 hmax
    simp
  | some m =>
    obtain ⟨hmem, hle⟩ := List.max?_eq_some_iff.1 hmax
    dsimp only
    split
    next hlarger =>
      refine iff_of_true (Or.inl rfl) ⟨fun hold => ?_, fun x hx => ?_⟩
      · exact absurd (hle number hold) (not_le.2 hlarger)
      · have := hle x hx
        omega
    next =>
      split
      next hstale => exact iff_of_false (by simp) fun hfresh => absurd (hfresh.2 m hmem) (by omega)
      next hnear =>
        split
        next hold => exact iff_of_false (by simp) fun hfresh => hfresh.1 hold
        next hfresh =>
          refine iff_of_true (Or.inr rfl) ⟨hfresh, fun x hx => ?_⟩
          have := hle x hx
          omega

/-- The number zero of the wire, between its two neighbours that came first. -/
theorem sequence_window_exact_wrap :
    ((observeAll {} [2 ^ 32 - 1, 2 ^ 32 + 1]).observe (wrap (2 ^ 32))).1 = .outOfOrder := by
  have hspan : Spans ([2 ^ 32 - 1, 2 ^ 32 + 1] ++ [2 ^ 32]) := by
    rw [Spans]
    decide
  rw [(sequence_window_exact _ _ hspan).1]
  decide

end SequenceWindow

end RollbackLab
