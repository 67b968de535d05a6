import RollbackLab.AttentiveSession
import RollbackLab.LiveScenario
import RollbackLab.PeerMessages

/-!
# What the peers of a scenario send

The script of a scenario is what both peers would press, with the presses of a player in
place of the first peer's. A packet tells the latest inputs of its sender, and the hashes
of its latest confirmed boundaries.
-/

namespace RollbackLab

/-- What both peers press, frame by frame. -/
def ScenarioRunConfig.script (config : ScenarioRunConfig) (presses : ℕ → Option UInt8) :
    InputScript where
  input player frame :=
    match player with
    | .a => (LiveScenario.frameInputs config frame (presses frame.value.toNat)).a
    | .b => (LiveScenario.frameInputs config frame (presses frame.value.toNat)).b
  frame player frame := by
    cases player <;> rfl
  player player frame := by
    cases player <;> rfl

section Script

variable (config : ScenarioRunConfig) (presses : ℕ → Option UInt8)

theorem frameInputs_eq {k : ℕ} (hk : k < 2 ^ 32) :
    LiveScenario.frameInputs config ⟨UInt32.ofNat k⟩ (presses k) = (config.script presses).pair k := by
  have hvalue : (UInt32.ofNat k).toNat = k :=
    UInt32.toNat_ofNat_of_lt' (by simp only [UInt32.size]; omega)
  rw [InputScript.pair, ScenarioRunConfig.script]
  dsimp only
  rw [hvalue]

/-- The input of a frame with the buttons that a player presses in it, if there is one. -/
theorem overridden_buttons {input : InputFrame} (hinput : input.buttons &&& 0xE0 = 0)
    {press : Option UInt8} (hpress : ∀ buttons ∈ press, buttons &&& 0xE0 = 0) :
    press.getD input.buttons &&& 0xE0 = 0 := by
  cases press with
  | none => exact hinput
  | some buttons => exact hpress buttons rfl

theorem script_buttons (h : ∀ t, ∀ buttons ∈ presses t, buttons &&& 0xE0 = 0) (player : PlayerId)
    (frame : FrameNumber) : ((config.script presses).input player frame).buttons &&& 0xE0 = 0 := by
  have hscripted := scriptedInput_buttons config.scenarioSeed frame
  cases player with
  | a => exact overridden_buttons (hscripted .a) (h frame.value.toNat)
  | b => exact hscripted .b

theorem InputScript.ext_input {script other : InputScript} (h : script.input = other.input) :
    script = other := by
  cases script
  cases other
  cases h
  rfl

/-- Without a player both peers follow the seed. -/
theorem script_unpressed :
    config.script (fun _ => none) = .scripted config.scenarioSeed := by
  have hsame : ∀ input : InputFrame,
      { input with buttons := (none : Option UInt8).getD input.buttons } = input := fun _ => rfl
  apply InputScript.ext_input
  funext player frame
  cases player with
  | a => exact hsame (scriptedInput config.scenarioSeed frame .a)
  | b => rfl

end Script

/-! ## Packets -/

/-- A packet of a sender with `m` inputs so far, whose session has simulated `n` frames and
confirmed `c`. -/
structure Tells (script : InputScript) (variant : SimulationVariant) (id : PlayerId)
    (sequence : UInt32) (m n c : ℕ) (packet : Packet) : Prop where
  sequence_eq : packet.sequence = sequence
  inputs : packet.inputs = inputWindow (script.locals id m)
  hashes : ∀ hash ∈ packet.confirmedHashes, ∃ k ≤ c, hash.frame = ⟨UInt32.ofNat k⟩ ∧
    hash.hash = hashCanonical (script.worldAt variant k)
  recent : ∀ k ≤ c, c < k + 32 → n < k + 256 →
    ⟨⟨UInt32.ofNat k⟩, hashCanonical (script.worldAt variant k)⟩ ∈ packet.confirmedHashes

/-- The frames of the latest inputs, when there are `m`. -/
def Latest (m k : ℕ) : Prop := k < m ∧ m ≤ k + 32

theorem mem_inputWindow_locals {script : InputScript} {id : PlayerId} {m : ℕ} {input : InputFrame} :
    input ∈ inputWindow (script.locals id m) ↔
      ∃ k, Latest m k ∧ input = script.input id ⟨UInt32.ofNat k⟩ := by
  rw [inputWindow, InputScript.length_locals, InputScript.locals, ← List.map_drop, List.mem_map,
    List.range_eq_range', List.drop_range', kMaxRedundantInputs]
  constructor
  · rintro ⟨k, hk, rfl⟩
    rw [List.mem_range'_1] at hk
    exact ⟨k, ⟨by omega, by omega⟩, rfl⟩
  · rintro ⟨k, ⟨hlt, hnear⟩, rfl⟩
    exact ⟨k, List.mem_range'_1.2 ⟨by omega, by omega⟩, rfl⟩

/-- The walk back reaches a boundary if every boundary on the way has a hash. -/
theorem mem_hashesBack_of {session : RollbackSession} {confirmed : FrameNumber}
    {remaining offset i : ℕ} {hash : StateHash} (hfrom : offset ≤ i) (hto : i < offset + remaining)
    (hway : ∀ j, offset ≤ j → j < i → ∃ other,
      session.hashAt ⟨confirmed.value - UInt32.ofNat j⟩ = .ok other)
    (hhash : session.hashAt ⟨confirmed.value - UInt32.ofNat i⟩ = .ok hash) :
    ⟨⟨confirmed.value - UInt32.ofNat i⟩, hash⟩ ∈ hashesBack session confirmed remaining offset := by
  induction remaining generalizing offset with
  | zero => omega
  | succ remaining ih =>
    rw [hashesBack]
    rcases Nat.eq_or_lt_of_le hfrom with rfl | hlt
    · rw [hhash]
      exact List.mem_cons_self
    · obtain ⟨other, hother⟩ := hway offset le_rfl hlt
      rw [hother]
      exact List.mem_cons_of_mem _ (ih hlt (by omega) fun j hj => hway j (by omega))

section Sending

variable {sc : SessionConfig} {script : InputScript} {limit n c : ℕ} {session : RollbackSession}

/-- The latest confirmed boundaries are at hand, with the worlds of the script. -/
theorem Follows.hashAt_recent (h : Follows sc script limit n c session) (hn : n < 2 ^ 30) {k : ℕ}
    (hk : k ≤ c) (hring : n < k + 256) :
    session.hashAt ⟨UInt32.ofNat k⟩ = .ok (hashCanonical (script.worldAt sc.variant k)) ∧
      session.stateAt ⟨UInt32.ofNat k⟩ = .ok (script.worldAt sc.variant k) := by
  have hle := h.confirmed_le
  obtain ⟨hash, hhash⟩ := h.hashAt_ok hk hring
  obtain ⟨i, world, hi, hboundary, hworld, hvalue, hstate⟩ := h.hashAt hn hhash
  have hik : i = k := by
    have hsame := congrArg (fun frame => frame.value.toNat) hboundary
    simp only [UInt32.toNat_ofNat'] at hsame
    omega
  rw [hik, script.world_eq sc.variant (by omega)] at hworld
  cases hworld
  exact ⟨by rw [hhash, hvalue], hstate⟩

theorem makePacket_tells (h : Follows sc script limit n c session) (hn : n < 2 ^ 30)
    (seed : UInt64) (sequence : UInt32) (m : ℕ) :
    Tells script sc.variant sc.localPeer sequence m n c
      (makePacket session (script.locals sc.localPeer m) seed sequence) where
  sequence_eq := rfl
  inputs := rfl
  hashes hash hmem := by
    obtain ⟨k, world, hk, hframe, hworld, hvalue, -⟩ :=
      h.hashAt hn (mem_hashesBack (List.mem_reverse.1 hmem))
    have hle := h.confirmed_le
    rw [script.world_eq sc.variant (by omega)] at hworld
    cases hworld
    exact ⟨k, hk, hframe, hvalue⟩
  recent k hk hnear hring := by
    have hle := h.confirmed_le
    have hback : ∀ j ≤ c, session.report.metrics.confirmedFrame.value - UInt32.ofNat j =
        UInt32.ofNat (c - j) := by
      intro j hj
      rw [RollbackSession.report, h.confirmedFrame_eq, UInt32.ofNat_sub hj]
    have hget : ∀ j, k ≤ j → j ≤ c → session.hashAt ⟨UInt32.ofNat j⟩ =
        .ok (hashCanonical (script.worldAt sc.variant j)) := fun j hkj hjc =>
      (h.hashAt_recent hn hjc (by omega)).1
    have hway : ∀ j, 0 ≤ j → j < c - k → ∃ other,
        session.hashAt ⟨session.report.metrics.confirmedFrame.value - UInt32.ofNat j⟩ = .ok other := by
      intro j _ hj
      rw [hback j (by omega)]
      exact ⟨_, hget _ (by omega) (by omega)⟩
    have hlast : session.hashAt
        ⟨session.report.metrics.confirmedFrame.value - UInt32.ofNat (c - k)⟩ =
          .ok (hashCanonical (script.worldAt sc.variant k)) := by
      rw [hback _ (by omega), Nat.sub_sub_self hk]
      exact hget k le_rfl hk
    have hmem := mem_hashesBack_of (Nat.zero_le _)
      (by simp only [kMaxConfirmedHashes]; omega : c - k < 0 + kMaxConfirmedHashes) hway hlast
    rw [hback _ (by omega), Nat.sub_sub_self hk] at hmem
    exact List.mem_reverse.2 hmem

theorem makePacket_said (h : Follows sc script limit n c session) (seed : UInt64)
    (sequence : UInt32) (m : ℕ)
    (hbuttons : ∀ player frame, (script.input player frame).buttons &&& 0xE0 = 0) :
    ∃ bytes, encodePacket (makePacket session (script.locals sc.localPeer m) seed sequence) =
        .ok bytes ∧ bytes.length ≤ 1200 ∧
      decodePacket bytes = .ok (makePacket session (script.locals sc.localPeer m) seed sequence) := by
  have hencodable : (makePacket session (script.locals sc.localPeer m) seed sequence).Encodable := by
    refine encodable_window rfl rfl rfl rfl rfl fun input hmem => ?_
    obtain ⟨k, -, rfl⟩ := List.mem_map.1 hmem
    rw [script.player, makePacket, RollbackSession.report, h.config_eq]
  have hpayload := hencodable.length_payload_le
  refine ⟨_, encodePacket_ok_iff.2 ⟨hencodable, rfl⟩, ?_, decodePacket_ok_iff.2
    ⟨⟨hencodable, rfl⟩, fun input hmem => ?_⟩⟩
  · rw [Packet.length_wireBytes]
    simp only [headerSize, checksumSize]
    omega
  · obtain ⟨k, -, rfl⟩ := mem_inputWindow_locals.1 hmem
    exact hbuttons _ _

end Sending

end RollbackLab
