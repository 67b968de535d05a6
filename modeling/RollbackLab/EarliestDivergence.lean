import RollbackLab.Report
import Mathlib.Data.List.DropRight
import Mathlib.Data.List.MinMax

/-!
# The earliest divergence on record

A tracker is told of pairs of hashes in any order. What it keeps is the first of the
earliest: among the pairs that diverge, the least boundary, with the evidence of the
first pair seen there.
-/

namespace RollbackLab

/-! ## The first least element of a list -/

section FirstLeast

variable {α β : Type} [LinearOrder β] {key : α → β} {xs : List α} {x : α}

/-- Before the first least element the keys are greater, behind it they are no less. -/
theorem argmin_split (h : xs.argmin key = some x) :
    ∃ before after, xs = before ++ x :: after ∧ (∀ y ∈ before, key x < key y) ∧
      ∀ y ∈ after, key x ≤ key y := by
  induction xs with
  | nil => cases h
  | cons first xs ih =>
    rw [List.argmin_cons] at h
    cases hleast : xs.argmin key with
    | none =>
      rw [hleast] at h
      cases h
      obtain rfl := List.argmin_eq_none.1 hleast
      exact ⟨[], [], rfl, fun y hy => absurd hy List.not_mem_nil,
        fun y hy => absurd hy List.not_mem_nil⟩
    | some least =>
      rw [hleast] at h
      by_cases hlt : key least < key first
      · obtain rfl : least = x := by simpa [hlt] using h
        obtain ⟨before, after, rfl, hbefore, hafter⟩ := ih hleast
        exact ⟨first :: before, after, rfl, List.forall_mem_cons.2 ⟨hlt, hbefore⟩, hafter⟩
      · obtain rfl : first = x := by simpa [hlt] using h
        refine ⟨[], xs, rfl, fun y hy => absurd hy List.not_mem_nil, fun y hy => ?_⟩
        exact (not_lt.1 hlt).trans (List.le_of_mem_argmin hy hleast)

/-- The same among those elements of a list that count. -/
theorem argmin_filter_split {p : α → Prop} [DecidablePred p]
    (h : (xs.filter p).argmin key = some x) :
    ∃ before after, xs = before ++ x :: after ∧ p x ∧ (∀ y ∈ before, p y → key x < key y) ∧
      ∀ y ∈ after, p y → key x ≤ key y := by
  obtain ⟨before, after, hsplit, hbefore, hafter⟩ := argmin_split h
  obtain ⟨left, right, rfl, hleft, hright⟩ := List.filter_eq_append_iff.1 hsplit
  obtain ⟨skipped, rest, rfl, hskipped, hx, hrest⟩ := List.filter_eq_cons_iff.1 hright
  refine ⟨left ++ skipped, rest, (List.append_assoc ..).symm, by simpa using hx, ?_, ?_⟩
  · intro y hy hpy
    rcases List.mem_append.1 hy with hy | hy
    · exact hbefore y (hleft ▸ List.mem_filter.2 ⟨hy, by simpa using hpy⟩)
    · exact absurd (by simpa using hpy) (hskipped y hy)
  · intro y hy hpy
    exact hafter y (hrest ▸ List.mem_filter.2 ⟨hy, by simpa using hpy⟩)

end FirstLeast

/-! ## Observations -/

/-- The arguments of one call of the tracker. -/
structure Observation where
  loc : HashObservation
  remote : HashObservation
  recentInputs : List InputPair
  localState : WorldState

namespace Observation

/-- Both hashes are confirmed, belong to one boundary and differ. -/
def Diverges (call : Observation) : Prop :=
  call.loc.confirmed = true ∧ call.remote.confirmed = true ∧ call.loc.frame = call.remote.frame ∧
    call.loc.hash ≠ call.remote.hash

instance (call : Observation) : Decidable call.Diverges := by
  unfold Diverges
  infer_instance

/-- What a call proves if it is the one that is kept. -/
def evidence (seed : UInt64) (call : Observation) : DesyncDiagnostic where
  earliestDivergentFrame := call.loc.frame
  localHash := call.loc.hash
  remoteHash := call.remote.hash
  recentInputs := call.recentInputs.rtake 32
  players := call.localState.players.toList.map fun player =>
    ⟨player.id, player.x, player.y, player.hp, player.score⟩
  activeProjectiles := UInt32.ofNat (call.localState.projectiles.toList.countP ProjectileState.active)
  scenarioSeed := seed

end Observation

namespace DesyncTracker

def observeCall (tracker : DesyncTracker) (call : Observation) : DesyncTracker :=
  tracker.observe call.loc call.remote call.recentInputs call.localState

/-- A new tracker after some calls. -/
def observeAll (seed : UInt64) (calls : List Observation) : DesyncTracker :=
  calls.foldl observeCall ⟨seed, none⟩

/-- The first exit of the tracker is taken by the calls that do not diverge. -/
theorem not_diverges_iff (call : Observation) :
    (!call.loc.confirmed || !call.remote.confirmed || call.loc.frame != call.remote.frame ||
      call.loc.hash == call.remote.hash) = true ↔ ¬call.Diverges := by
  simp only [Observation.Diverges, Bool.or_eq_true, Bool.not_eq_true', bne_iff_ne, beq_iff_eq, not_and_or,
    not_not, Bool.not_eq_true, or_assoc]

theorem observeCall_eq (tracker : DesyncTracker) (call : Observation) :
    tracker.observeCall call =
      if call.Diverges ∧ ∀ known ∈ tracker.diagnostic,
          frameBefore call.loc.frame known.earliestDivergentFrame = true then
        { tracker with diagnostic := some (call.evidence tracker.scenarioSeed) }
      else tracker := by
  rw [observeCall, observe]
  by_cases hdiverges : call.Diverges
  · rw [if_neg (fun h => (not_diverges_iff call).1 h hdiverges)]
    cases hknown : tracker.diagnostic with
    | none => simp [hdiverges, Observation.evidence, List.rtake]
    | some known =>
      cases hbefore : frameBefore call.loc.frame known.earliestDivergentFrame with
      | false => simp [hbefore]
      | true => simp [hdiverges, hbefore, Observation.evidence, List.rtake]
  · rw [if_pos ((not_diverges_iff call).2 hdiverges), if_neg (fun h => hdiverges h.1)]

@[simp] theorem observeCall_seed (tracker : DesyncTracker) (call : Observation) :
    (tracker.observeCall call).scenarioSeed = tracker.scenarioSeed := by
  rw [observeCall_eq]
  split
  · rfl
  · rfl

@[simp] theorem observeAll_seed (seed : UInt64) (calls : List Observation) :
    (observeAll seed calls).scenarioSeed = seed := by
  induction calls using List.reverseRecOn with
  | nil => rfl
  | append_singleton calls call ih => rw [observeAll, List.foldl_concat, observeCall_seed, ← observeAll, ih]

/-- A call replaces nothing but a later boundary. -/
theorem observeCall_known {tracker : DesyncTracker} {known : DesyncDiagnostic}
    (h : tracker.diagnostic = some known) (call : Observation) :
    ∃ found, (tracker.observeCall call).diagnostic = some found ∧ (found = known ∨
      frameBefore found.earliestDivergentFrame known.earliestDivergentFrame = true) := by
  rw [observeCall_eq]
  split
  · rename_i hearlier
    exact ⟨_, rfl, Or.inr (hearlier.2 known h)⟩
  · exact ⟨known, h, Or.inl rfl⟩

/-- How far a boundary lies behind the origin. -/
def offset (origin : FrameNumber) (call : Observation) : ℕ :=
  (frameDistance origin call.loc.frame).toNat

theorem plus_offset (origin : FrameNumber) (call : Observation) :
    origin.plus (offset origin call) = call.loc.frame := by
  obtain ⟨i, hi, hframe⟩ := FrameNumber.exists_plus origin call.loc.frame
  have hdistance := frameDistance_plus origin (Nat.zero_le i) (by omega : i < 0 + 2 ^ 32)
  rw [FrameNumber.plus_zero, ← hframe, Nat.sub_zero] at hdistance
  rw [offset, hdistance, hframe]

theorem offset_inj {origin : FrameNumber} {call other : Observation}
    (h : offset origin call = offset origin other) : call.loc.frame = other.loc.frame := by
  rw [← plus_offset origin call, h, plus_offset]

theorem frameBefore_iff_offset {origin : FrameNumber} {call other : Observation}
    (hcall : offset origin call < 2 ^ 31) (hother : offset origin other < 2 ^ 31) :
    frameBefore call.loc.frame other.loc.frame = true ↔ offset origin call < offset origin other := by
  rw [← plus_offset origin call, ← plus_offset origin other,
    frameBefore_plus origin (by omega) (by omega)]

/-- Within half the ring the tracker keeps the first of the earliest calls that diverge. -/
theorem observeAll_eq_argmin {origin : FrameNumber} (seed : UInt64) {calls : List Observation}
    (hwindow : ∀ call ∈ calls, offset origin call < 2 ^ 31) :
    (observeAll seed calls).diagnostic =
      ((calls.filter Observation.Diverges).argmin (offset origin)).map
        (Observation.evidence seed) := by
  induction calls using List.reverseRecOn with
  | nil => rfl
  | append_singleton calls call ih =>
    have hcalls := ih fun c hc => hwindow c (List.mem_append_left _ hc)
    have hcall := hwindow call (List.mem_append_right _ List.mem_cons_self)
    rw [observeAll, List.foldl_concat, ← observeAll, observeCall_eq, observeAll_seed, hcalls,
      List.filter_append]
    by_cases hdiverges : call.Diverges
    · have hfilter : [call].filter Observation.Diverges = [call] := by simp [hdiverges]
      rw [hfilter, List.argmin_concat]
      cases hleast : (calls.filter Observation.Diverges).argmin (offset origin) with
      | none => simp [hdiverges]
      | some least =>
        have hmem := (List.mem_filter.1 (List.argmin_mem hleast)).1
        have horder := frameBefore_iff_offset hcall (hwindow least (List.mem_append_left _ hmem))
        by_cases hlt : offset origin call < offset origin least
        · simp [hdiverges, hlt, Observation.evidence, horder]
        · simp [hlt, Observation.evidence, horder, hcalls, hleast]
    · have hfilter : [call].filter Observation.Diverges = [] := by simp [hdiverges]
      rw [hfilter, List.append_nil, if_neg (fun h => hdiverges h.1), hcalls]

theorem observeAll_evidence {seed : UInt64} {calls : List Observation} {found : DesyncDiagnostic}
    (h : (observeAll seed calls).diagnostic = some found) :
    ∃ call ∈ calls, found = call.evidence seed := by
  induction calls using List.reverseRecOn with
  | nil => cases h
  | append_singleton calls call ih =>
    rw [observeAll, List.foldl_concat, ← observeAll, observeCall_eq] at h
    split at h
    · cases h
      exact ⟨call, List.mem_append_right _ List.mem_cons_self, by rw [observeAll_seed]⟩
    · obtain ⟨earlier, hmem, hfound⟩ := ih h
      exact ⟨earlier, List.mem_append_left _ hmem, hfound⟩

/-- What is known stays known, or is moved to an earlier boundary. -/
theorem observeAll_append_known {seed : UInt64} {origin : FrameNumber} {before after : List Observation}
    (hwindow : ∀ call ∈ before ++ after, offset origin call < 2 ^ 31) {known : DesyncDiagnostic}
    (hknown : (observeAll seed before).diagnostic = some known) :
    ∃ found, (observeAll seed (before ++ after)).diagnostic = some found ∧ (found = known ∨
      frameBefore found.earliestDivergentFrame known.earliestDivergentFrame = true) := by
  induction after using List.reverseRecOn with
  | nil => exact ⟨known, by rw [List.append_nil, hknown], Or.inl rfl⟩
  | append_singleton after call ih =>
    rw [← List.append_assoc] at hwindow ⊢
    have hearlier : ∀ c ∈ before ++ after, offset origin c < 2 ^ 31 :=
      fun c hc => hwindow c (List.mem_append_left _ hc)
    obtain ⟨middle, hmiddle, horder⟩ := ih hearlier
    obtain ⟨found, hfound, hstep⟩ := observeCall_known hmiddle call
    rw [observeAll, List.foldl_concat, ← observeAll]
    refine ⟨found, hfound, ?_⟩
    rcases hstep with rfl | hbefore
    · exact horder
    · rcases horder with rfl | horder
      · exact Or.inr hbefore
      · right
        have hlast : (observeAll seed (before ++ after ++ [call])).diagnostic = some found := by
          rw [observeAll, List.foldl_concat, ← observeAll, hfound]
        obtain ⟨first, hfirst, rfl⟩ := observeAll_evidence hknown
        obtain ⟨second, hsecond, rfl⟩ := observeAll_evidence hmiddle
        obtain ⟨third, hthird, rfl⟩ := observeAll_evidence hlast
        have h1 := hearlier first (List.mem_append_left _ hfirst)
        have h2 := hearlier second hsecond
        have h3 := hwindow third hthird
        exact (frameBefore_iff_offset h3 h1).2
          (((frameBefore_iff_offset h3 h2).1 hbefore).trans ((frameBefore_iff_offset h2 h1).1 horder))

/-- What a new tracker says after some calls. There is a diagnostic exactly when some call
diverges, and it holds the evidence of the first call at the least of these boundaries.
What was found before is at most replaced by an earlier boundary. -/
structure TracksEarliest (seed : UInt64) (calls : List Observation) : Prop where
  found : (observeAll seed calls).diagnostic.isSome = true ↔ ∃ call ∈ calls, call.Diverges
  first : ∀ found, (observeAll seed calls).diagnostic = some found →
    ∃ before call after, calls = before ++ call :: after ∧ call.Diverges ∧
      found = call.evidence seed ∧
      (∀ other ∈ before, other.Diverges → frameBefore call.loc.frame other.loc.frame = true) ∧
      ∀ other ∈ after, other.Diverges →
        call.loc.frame = other.loc.frame ∨ frameBefore call.loc.frame other.loc.frame = true
  kept : ∀ before after known, calls = before ++ after →
    (observeAll seed before).diagnostic = some known →
    ∃ found, (observeAll seed calls).diagnostic = some found ∧ (found = known ∨
      frameBefore found.earliestDivergentFrame known.earliestDivergentFrame = true)

/-- The tracker computes the earliest divergence where the boundaries lie within half the
ring. -/
theorem desync_tracker_earliest (seed : UInt64) (origin : FrameNumber) (calls : List Observation)
    (hwindow : ∀ call ∈ calls, frameDistance origin call.loc.frame < 0x80000000) :
    TracksEarliest seed calls := by
  have hoffset : ∀ call ∈ calls, offset origin call < 2 ^ 31 :=
    fun call hcall => UInt32.lt_iff_toNat_lt.1 (hwindow call hcall)
  have hleast := observeAll_eq_argmin seed hoffset
  refine ⟨?_, ?_, ?_⟩
  · rw [hleast, Option.isSome_map, Option.isSome_iff_ne_none, Ne, List.argmin_eq_none,
      ← Ne, ← List.length_pos_iff, List.length_filter_pos_iff]
    simp
  · intro found hfound
    rw [hleast, Option.map_eq_some_iff] at hfound
    obtain ⟨call, hcall, rfl⟩ := hfound
    obtain ⟨before, after, rfl, hdiverges, hbefore, hafter⟩ := argmin_filter_split hcall
    have hmem : call ∈ before ++ call :: after := List.mem_append_right _ List.mem_cons_self
    refine ⟨before, call, after, rfl, hdiverges, rfl, ?_, ?_⟩
    · intro other hother hdiffers
      exact (frameBefore_iff_offset (hoffset call hmem)
        (hoffset other (List.mem_append_left _ hother))).2 (hbefore other hother hdiffers)
    · intro other hother hdiffers
      have hmem' := List.mem_append_right before (List.mem_cons_of_mem call hother)
      rcases (hafter other hother hdiffers).eq_or_lt with heq | hlt
      · exact Or.inl (offset_inj heq)
      · exact Or.inr ((frameBefore_iff_offset (hoffset call hmem) (hoffset other hmem')).2 hlt)
  · rintro before after known rfl hknown
    exact observeAll_append_known hoffset hknown

/-- Three calls around the wrap: the later boundary first, then the earlier one, and last a
boundary whose remote hash is not confirmed. -/
def wrappedCalls : List Observation :=
  [⟨⟨⟨3⟩, 5, true⟩, ⟨⟨3⟩, 6, true⟩, [], makeInitialWorld⟩,
    ⟨⟨⟨0xFFFFFFFF⟩, 7, true⟩, ⟨⟨0xFFFFFFFF⟩, 8, true⟩, [{}], makeInitialWorld⟩,
    ⟨⟨⟨0xFFFFFFF8⟩, 7, true⟩, ⟨⟨0xFFFFFFF8⟩, 8, false⟩, [{}], makeInitialWorld⟩]

theorem wrappedCalls_earliest : TracksEarliest 1 wrappedCalls :=
  desync_tracker_earliest 1 ⟨0xFFFFFFF0⟩ wrappedCalls (by decide)

example : (observeAll 1 wrappedCalls).diagnostic.map DesyncDiagnostic.earliestDivergentFrame =
    some ⟨0xFFFFFFFF⟩ := by decide

end DesyncTracker

end RollbackLab
