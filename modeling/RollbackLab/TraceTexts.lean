import RollbackLab.Bytes
import RollbackLab.ReportMatching
import RollbackLab.ReportTexts
import RollbackLab.Trace

/-!
# The texts of traces and of desync diagnostics

A trace is written as JSON on one line, a diagnostic on one line a member. A reader of JSON gets
back all that either of them shows, and neither text holds the character that HTML tags begin
with, so that a trace can stand inside a page.
-/

namespace RollbackLab

open Numeral (text decimal integer)
open Json (Reads Writes arrayText)

/-! ## The texts -/

def playerText (id : PlayerId) : List UInt8 := if id = .a then text "A" else text "B"

def endpointText : Endpoint → List UInt8
  | .a => text "A"
  | .b => text "B"
  | .relay => text "relay"

def packetKindText : PacketTraceKind → List UInt8
  | .sent => text "sent"
  | .delivered => text "delivered"
  | .dropped => text "dropped"
  | .duplicated => text "duplicated"
  | .reordered => text "reordered"

def playerFields (player : PlayerState) : List (List UInt8 × List UInt8) :=
  [(text "id", quoted (playerText player.id)),
    (text "x", integer player.x.toInt),
    (text "y", integer player.y.toInt),
    (text "velocity_x", integer player.velocityX.toInt),
    (text "velocity_y", integer player.velocityY.toInt),
    (text "facing_x", integer player.facingX.toInt),
    (text "facing_y", integer player.facingY.toInt),
    (text "hp", integer player.hp.toInt),
    (text "score", decimal player.score.toNat),
    (text "attack_cooldown", decimal player.attackCooldown.toNat)]

def projectileFields (projectile : ProjectileState) : List (List UInt8 × List UInt8) :=
  [(text "id", decimal projectile.stableId.toNat),
    (text "owner", quoted (playerText projectile.owner)),
    (text "x", integer projectile.x.toInt),
    (text "y", integer projectile.y.toInt)]

/-- What is shown of the projectiles of a world: the active ones, in the order of their slots. -/
def shownProjectiles (world : WorldState) : List ProjectileState :=
  world.projectiles.toList.filter ProjectileState.active

def objectsText {α : Type} (fields : α → List (List UInt8 × List UInt8)) (values : List α) :
    List UInt8 :=
  arrayText (values.map fun value => inlineObject (fields value))

def frameFields (frame : TraceFrame) : List (List UInt8 × List UInt8) :=
  [(text "frame", decimal frame.frame.value.toNat),
    (text "players", objectsText playerFields frame.state.players.toList),
    (text "projectiles", objectsText projectileFields (shownProjectiles frame.state)),
    (text "hash", quoted (hashText frame.hash)),
    (text "predicted", boolText frame.predicted),
    (text "confirmed_frame", decimal frame.confirmedFrame.value.toNat)]

def packetFields (packet : PacketTraceEvent) : List (List UInt8 × List UInt8) :=
  [(text "tick", decimal packet.tick.value.toNat),
    (text "kind", quoted (packetKindText packet.kind)),
    (text "from", quoted (endpointText packet.sender)),
    (text "to", quoted (endpointText packet.receiver)),
    (text "sequence", decimal packet.sequence.toNat)]

def rollbackFields (rollback : RollbackTraceEvent) : List (List UInt8 × List UInt8) :=
  [(text "observed_at", decimal rollback.observedAt.value.toNat),
    (text "rollback_from", decimal rollback.rollbackFrom.value.toNat),
    (text "depth", decimal rollback.depth.toNat)]

def markerFields (marker : TraceDesyncMarker) : List (List UInt8 × List UInt8) :=
  [(text "frame", decimal marker.frame.value.toNat),
    (text "local_hash", quoted (hashText marker.localHash)),
    (text "remote_hash", quoted (hashText marker.remoteHash))]

def markerText : Option TraceDesyncMarker → List UInt8
  | none => text "null"
  | some marker => inlineObject (markerFields marker)

def traceFields (trace : Trace) : List (List UInt8 × List UInt8) :=
  [(text "trace_version", decimal trace.traceVersion.toNat),
    (text "scenario_seed", decimal trace.scenarioSeed.toNat),
    (text "sample_interval", decimal trace.sampleInterval.toNat),
    (text "frames", objectsText frameFields trace.frames),
    (text "packets", objectsText packetFields trace.packets),
    (text "rollbacks", objectsText rollbackFields trace.rollbacks),
    (text "omitted_frame_samples", decimal trace.omittedFrameSamples.toNat),
    (text "omitted_packet_events", decimal trace.omittedPacketEvents.toNat),
    (text "omitted_rollback_events", decimal trace.omittedRollbackEvents.toNat),
    (text "desync", markerText trace.desync)]

/-- Every list is within its capacity. -/
structure Trace.Fits (trace : Trace) : Prop where
  frames : trace.frames.length ≤ kMaxTraceFrames
  packets : trace.packets.length ≤ kMaxTracePacketEvents
  rollbacks : trace.rollbacks.length ≤ kMaxTraceRollbackEvents

def canonicalTraceJson (trace : Trace) : Result (List UInt8) := do
  failIf (kMaxTraceFrames < trace.frames.length ∨ kMaxTracePacketEvents < trace.packets.length ∨
      kMaxTraceRollbackEvents < trace.rollbacks.length)
    ⟨.capacityExceeded, UInt64.ofNat trace.frames.length, 0, "trace_capacity"⟩
  pure (inlineObject (traceFields trace) ++ text "\n")

/-- The viewer puts the text of a trace between two parts of a page. -/
def generateViewerHtml (opening closing : List UInt8) (trace : Trace) : Result (List UInt8) := do
  failIf (trace.frames = []) ⟨.invalidArgument, 0, 0, "viewer_empty_trace"⟩
  let json ← canonicalTraceJson trace
  pure (opening ++ json ++ closing)

def inputFields (inputs : InputPair) : List (List UInt8 × List UInt8) :=
  [(text "frame", decimal inputs.a.frame.value.toNat),
    (text "a", decimal inputs.a.buttons.toNat),
    (text "b", decimal inputs.b.buttons.toNat)]

def summaryFields (player : PlayerStateSummary) : List (List UInt8 × List UInt8) :=
  [(text "id", quoted (playerText player.id)),
    (text "x", integer player.x.toInt),
    (text "y", integer player.y.toInt),
    (text "hp", integer player.hp.toInt),
    (text "score", decimal player.score.toNat)]

def stateSummaryFields (diagnostic : DesyncDiagnostic) : List (List UInt8 × List UInt8) :=
  [(text "players", objectsText summaryFields diagnostic.players),
    (text "active_projectiles", decimal diagnostic.activeProjectiles.toNat)]

def diagnosticFields (diagnostic : DesyncDiagnostic) : List (List UInt8 × List UInt8) :=
  [(text "earliest_divergent_frame", decimal diagnostic.earliestDivergentFrame.value.toNat),
    (text "local_hash", quoted (hashText diagnostic.localHash)),
    (text "remote_hash", quoted (hashText diagnostic.remoteHash)),
    (text "recent_inputs", objectsText inputFields diagnostic.recentInputs),
    (text "state_summary", inlineObject (stateSummaryFields diagnostic)),
    (text "simulation_version", decimal diagnostic.simulationVersion.toNat),
    (text "protocol_version", decimal diagnostic.protocolVersion.toNat),
    (text "scenario_seed", decimal diagnostic.scenarioSeed.toNat)]

def canonicalDiagnosticJson (diagnostic : DesyncDiagnostic) : Result (List UInt8) :=
  .ok (Json.objectText (text "\n  ") (text "\n") (diagnosticFields diagnostic) ++ text "\n")

/-! ## What they say -/

def playerJson (player : PlayerState) : Json :=
  .object [(text "id", .string (playerText player.id)),
    (text "x", .number player.x.toInt 0),
    (text "y", .number player.y.toInt 0),
    (text "velocity_x", .number player.velocityX.toInt 0),
    (text "velocity_y", .number player.velocityY.toInt 0),
    (text "facing_x", .number player.facingX.toInt 0),
    (text "facing_y", .number player.facingY.toInt 0),
    (text "hp", .number player.hp.toInt 0),
    (text "score", .number player.score.toNat 0),
    (text "attack_cooldown", .number player.attackCooldown.toNat 0)]

def projectileJson (projectile : ProjectileState) : Json :=
  .object [(text "id", .number projectile.stableId.toNat 0),
    (text "owner", .string (playerText projectile.owner)),
    (text "x", .number projectile.x.toInt 0),
    (text "y", .number projectile.y.toInt 0)]

def frameJson (frame : TraceFrame) : Json :=
  .object [(text "frame", .number frame.frame.value.toNat 0),
    (text "players", .array (frame.state.players.toList.map playerJson)),
    (text "projectiles", .array ((shownProjectiles frame.state).map projectileJson)),
    (text "hash", .string (hashForm frame.hash)),
    (text "predicted", .bool frame.predicted),
    (text "confirmed_frame", .number frame.confirmedFrame.value.toNat 0)]

def packetJson (packet : PacketTraceEvent) : Json :=
  .object [(text "tick", .number packet.tick.value.toNat 0),
    (text "kind", .string (packetKindText packet.kind)),
    (text "from", .string (endpointText packet.sender)),
    (text "to", .string (endpointText packet.receiver)),
    (text "sequence", .number packet.sequence.toNat 0)]

def rollbackJson (rollback : RollbackTraceEvent) : Json :=
  .object [(text "observed_at", .number rollback.observedAt.value.toNat 0),
    (text "rollback_from", .number rollback.rollbackFrom.value.toNat 0),
    (text "depth", .number rollback.depth.toNat 0)]

def markerJson : Option TraceDesyncMarker → Json
  | none => .null
  | some marker =>
    .object [(text "frame", .number marker.frame.value.toNat 0),
      (text "local_hash", .string (hashForm marker.localHash)),
      (text "remote_hash", .string (hashForm marker.remoteHash))]

/-- What a trace says, as a JSON value. -/
def traceJson (trace : Trace) : Json :=
  .object [(text "trace_version", .number trace.traceVersion.toNat 0),
    (text "scenario_seed", .number trace.scenarioSeed.toNat 0),
    (text "sample_interval", .number trace.sampleInterval.toNat 0),
    (text "frames", .array (trace.frames.map frameJson)),
    (text "packets", .array (trace.packets.map packetJson)),
    (text "rollbacks", .array (trace.rollbacks.map rollbackJson)),
    (text "omitted_frame_samples", .number trace.omittedFrameSamples.toNat 0),
    (text "omitted_packet_events", .number trace.omittedPacketEvents.toNat 0),
    (text "omitted_rollback_events", .number trace.omittedRollbackEvents.toNat 0),
    (text "desync", markerJson trace.desync)]

def inputJson (inputs : InputPair) : Json :=
  .object [(text "frame", .number inputs.a.frame.value.toNat 0),
    (text "a", .number inputs.a.buttons.toNat 0),
    (text "b", .number inputs.b.buttons.toNat 0)]

def summaryJson (player : PlayerStateSummary) : Json :=
  .object [(text "id", .string (playerText player.id)),
    (text "x", .number player.x.toInt 0),
    (text "y", .number player.y.toInt 0),
    (text "hp", .number player.hp.toInt 0),
    (text "score", .number player.score.toNat 0)]

def stateSummaryJson (diagnostic : DesyncDiagnostic) : Json :=
  .object [(text "players", .array (diagnostic.players.map summaryJson)),
    (text "active_projectiles", .number diagnostic.activeProjectiles.toNat 0)]

def diagnosticJson (diagnostic : DesyncDiagnostic) : Json :=
  .object [(text "earliest_divergent_frame", .number diagnostic.earliestDivergentFrame.value.toNat 0),
    (text "local_hash", .string (hashForm diagnostic.localHash)),
    (text "remote_hash", .string (hashForm diagnostic.remoteHash)),
    (text "recent_inputs", .array (diagnostic.recentInputs.map inputJson)),
    (text "state_summary", stateSummaryJson diagnostic),
    (text "simulation_version", .number diagnostic.simulationVersion.toNat 0),
    (text "protocol_version", .number diagnostic.protocolVersion.toNat 0),
    (text "scenario_seed", .number diagnostic.scenarioSeed.toNat 0)]

/-! ## Reading them back -/

section Members

variable {key : List UInt8}

theorem writes_integer (hkey : Plain key) (n : ℤ) : Writes (key, integer n) (key, .number n 0) :=
  ⟨rfl, hkey, .integer n⟩

theorem writes_plain (hkey : Plain key) {bytes : List UInt8} (h : Plain bytes) :
    Writes (key, quoted bytes) (key, .string bytes) := ⟨rfl, hkey, reads_quoted_plain h⟩

theorem reads_inlineObject {fields : List (List UInt8 × List UInt8)} {members : List (List UInt8 × Json)}
    (h : List.Forall₂ Writes fields members) (hne : fields ≠ []) :
    Reads (inlineObject fields) (.object members) :=
  .objectText (List.forall_mem_nil _) (List.forall_mem_nil _) h hne

/-- Values that are read back one by one are read back as an array. -/
theorem writes_objects {α : Type} (hkey : Plain key) {fields : α → List (List UInt8 × List UInt8)}
    {json : α → Json} (h : ∀ value, Reads (inlineObject (fields value)) (json value)) (values : List α) :
    Writes (key, objectsText fields values) (key, .array (values.map json)) := by
  refine ⟨rfl, hkey, .array ?_⟩
  rw [List.forall₂_map_left_iff, List.forall₂_map_right_iff, List.forall₂_same]
  exact fun value _ => h value

end Members

theorem plain_playerText (id : PlayerId) : Plain (playerText id) := by
  cases id
  · exact (by decide : Plain (text "A"))
  · exact (by decide : Plain (text "B"))

theorem plain_endpointText (endpoint : Endpoint) : Plain (endpointText endpoint) := by
  cases endpoint
  · exact (by decide : Plain (text "A"))
  · exact (by decide : Plain (text "B"))
  · exact (by decide : Plain (text "relay"))

theorem plain_packetKindText (kind : PacketTraceKind) : Plain (packetKindText kind) := by
  cases kind
  · exact (by decide : Plain (text "sent"))
  · exact (by decide : Plain (text "delivered"))
  · exact (by decide : Plain (text "dropped"))
  · exact (by decide : Plain (text "duplicated"))
  · exact (by decide : Plain (text "reordered"))

theorem reads_player (player : PlayerState) :
    Reads (inlineObject (playerFields player)) (playerJson player) := by
  apply reads_inlineObject _ (List.cons_ne_nil _ _)
  simp only [List.forall₂_cons, List.forall₂_nil_left_iff, and_true]
  exact ⟨writes_plain (by decide) (plain_playerText _), writes_integer (by decide) _,
    writes_integer (by decide) _, writes_integer (by decide) _, writes_integer (by decide) _,
    writes_integer (by decide) _, writes_integer (by decide) _, writes_integer (by decide) _,
    writes_decimal (by decide) _, writes_decimal (by decide) _⟩

theorem reads_projectile (projectile : ProjectileState) :
    Reads (inlineObject (projectileFields projectile)) (projectileJson projectile) := by
  apply reads_inlineObject _ (List.cons_ne_nil _ _)
  simp only [List.forall₂_cons, List.forall₂_nil_left_iff, and_true]
  exact ⟨writes_decimal (by decide) _, writes_plain (by decide) (plain_playerText _),
    writes_integer (by decide) _, writes_integer (by decide) _⟩

theorem reads_frame (frame : TraceFrame) :
    Reads (inlineObject (frameFields frame)) (frameJson frame) := by
  apply reads_inlineObject _ (List.cons_ne_nil _ _)
  simp only [List.forall₂_cons, List.forall₂_nil_left_iff, and_true]
  exact ⟨writes_decimal (by decide) _, writes_objects (by decide) reads_player _,
    writes_objects (by decide) reads_projectile _, writes_hash (by decide) _,
    writes_bool (by decide) _, writes_decimal (by decide) _⟩

theorem reads_packet (packet : PacketTraceEvent) :
    Reads (inlineObject (packetFields packet)) (packetJson packet) := by
  apply reads_inlineObject _ (List.cons_ne_nil _ _)
  simp only [List.forall₂_cons, List.forall₂_nil_left_iff, and_true]
  exact ⟨writes_decimal (by decide) _, writes_plain (by decide) (plain_packetKindText _),
    writes_plain (by decide) (plain_endpointText _), writes_plain (by decide) (plain_endpointText _),
    writes_decimal (by decide) _⟩

theorem reads_rollback (rollback : RollbackTraceEvent) :
    Reads (inlineObject (rollbackFields rollback)) (rollbackJson rollback) := by
  apply reads_inlineObject _ (List.cons_ne_nil _ _)
  simp only [List.forall₂_cons, List.forall₂_nil_left_iff, and_true]
  exact ⟨writes_decimal (by decide) _, writes_decimal (by decide) _, writes_decimal (by decide) _⟩

theorem reads_marker (marker : Option TraceDesyncMarker) :
    Reads (markerText marker) (markerJson marker) := by
  cases marker with
  | none => exact .null
  | some marker =>
    apply reads_inlineObject _ (List.cons_ne_nil _ _)
    simp only [List.forall₂_cons, List.forall₂_nil_left_iff, and_true]
    exact ⟨writes_decimal (by decide) _, writes_hash (by decide) _, writes_hash (by decide) _⟩

theorem reads_trace (trace : Trace) : Reads (inlineObject (traceFields trace)) (traceJson trace) := by
  apply reads_inlineObject _ (List.cons_ne_nil _ _)
  simp only [List.forall₂_cons, List.forall₂_nil_left_iff, and_true]
  exact ⟨writes_decimal (by decide) _, writes_decimal (by decide) _, writes_decimal (by decide) _,
    writes_objects (by decide) reads_frame _, writes_objects (by decide) reads_packet _,
    writes_objects (by decide) reads_rollback _, writes_decimal (by decide) _,
    writes_decimal (by decide) _, writes_decimal (by decide) _,
    ⟨rfl, (by decide : Plain (text "desync")), reads_marker _⟩⟩

theorem reads_inputs (inputs : InputPair) :
    Reads (inlineObject (inputFields inputs)) (inputJson inputs) := by
  apply reads_inlineObject _ (List.cons_ne_nil _ _)
  simp only [List.forall₂_cons, List.forall₂_nil_left_iff, and_true]
  exact ⟨writes_decimal (by decide) _, writes_decimal (by decide) _, writes_decimal (by decide) _⟩

theorem reads_summary (player : PlayerStateSummary) :
    Reads (inlineObject (summaryFields player)) (summaryJson player) := by
  apply reads_inlineObject _ (List.cons_ne_nil _ _)
  simp only [List.forall₂_cons, List.forall₂_nil_left_iff, and_true]
  exact ⟨writes_plain (by decide) (plain_playerText _), writes_integer (by decide) _,
    writes_integer (by decide) _, writes_integer (by decide) _, writes_decimal (by decide) _⟩

theorem reads_stateSummary (diagnostic : DesyncDiagnostic) :
    Reads (inlineObject (stateSummaryFields diagnostic)) (stateSummaryJson diagnostic) := by
  apply reads_inlineObject _ (List.cons_ne_nil _ _)
  simp only [List.forall₂_cons, List.forall₂_nil_left_iff, and_true]
  exact ⟨writes_objects (by decide) reads_summary _, writes_decimal (by decide) _⟩

/-- What is seen of a sampled frame: of its projectiles only where the active ones are. -/
def TraceFrame.shown (frame : TraceFrame) :=
  (frame.frame, frame.state.players,
    (shownProjectiles frame.state).map fun projectile =>
      (projectile.stableId, projectile.owner, projectile.x, projectile.y),
    frame.hash, frame.predicted, frame.confirmedFrame)

def Trace.shown (trace : Trace) := (trace.frames.map TraceFrame.shown, { trace with frames := [] })

theorem playerText_injective : Function.Injective playerText := by
  intro id other h
  cases id <;> cases other <;> first | rfl | exact absurd h (by decide)

theorem endpointText_injective : Function.Injective endpointText := by
  intro endpoint other h
  cases endpoint <;> cases other <;> first | rfl | exact absurd h (by decide)

theorem packetKindText_injective : Function.Injective packetKindText := by
  intro kind other h
  cases kind <;> cases other <;> first | rfl | exact absurd h (by decide)

theorem hashForm_injective : Function.Injective hashForm := by
  intro hash other h
  rw [← hashText_eq, ← hashText_eq] at h
  exact hashText_injective h

theorem map_eq_map_iff {α β γ : Type} {f : α → β} {g : α → γ} (h : ∀ a b, f a = f b ↔ g a = g b)
    (xs ys : List α) : xs.map f = ys.map f ↔ xs.map g = ys.map g := by
  induction xs generalizing ys with
  | nil => cases ys <;> simp
  | cons x xs ih =>
    cases ys with
    | nil => simp
    | cons y ys => simp only [List.map_cons, List.cons.injEq, h, ih]

theorem FrameNumber.value_inj {frame other : FrameNumber} : frame.value = other.value ↔ frame = other := by
  cases frame
  cases other
  rw [FrameNumber.mk.injEq]

theorem playerJson_injective : Function.Injective playerJson := by
  rintro ⟨⟩ ⟨⟩ h
  simpa only [playerJson, Json.object.injEq, List.cons.injEq, Prod.mk.injEq, true_and, and_true,
    Json.string.injEq, Json.number.injEq, playerText_injective.eq_iff, Int32.toInt_inj, Int8.toInt_inj,
    Int16.toInt_inj, Int.natCast_inj, UInt16.toNat_inj, PlayerState.mk.injEq] using h

theorem projectileJson_iff (projectile other : ProjectileState) :
    projectileJson projectile = projectileJson other ↔
      (projectile.stableId, projectile.owner, projectile.x, projectile.y) =
        (other.stableId, other.owner, other.x, other.y) := by
  simp only [projectileJson, Json.object.injEq, List.cons.injEq, Prod.mk.injEq, true_and, and_true,
    Json.string.injEq, Json.number.injEq, playerText_injective.eq_iff, Int32.toInt_inj,
    Int.natCast_inj, UInt32.toNat_inj]

theorem frameJson_iff (frame other : TraceFrame) :
    frameJson frame = frameJson other ↔ frame.shown = other.shown := by
  simp only [frameJson, TraceFrame.shown, Json.object.injEq, List.cons.injEq, Prod.mk.injEq, true_and,
    and_true, Json.string.injEq, Json.number.injEq, Json.bool.injEq, Json.array.injEq, Int.natCast_inj,
    UInt32.toNat_inj, hashForm_injective.eq_iff, playerJson_injective.list_map.eq_iff,
    Vector.toList_inj, map_eq_map_iff projectileJson_iff, FrameNumber.value_inj]

theorem packetJson_injective : Function.Injective packetJson := by
  rintro ⟨⟨tick⟩⟩ ⟨⟨otherTick⟩⟩ h
  simpa only [packetJson, Json.object.injEq, List.cons.injEq, Prod.mk.injEq, true_and, and_true,
    Json.string.injEq, Json.number.injEq, packetKindText_injective.eq_iff, endpointText_injective.eq_iff,
    Int.natCast_inj, UInt32.toNat_inj, PacketTraceEvent.mk.injEq, LogicalTick.mk.injEq] using h

theorem rollbackJson_injective : Function.Injective rollbackJson := by
  rintro ⟨⟩ ⟨⟩ h
  simpa only [rollbackJson, Json.object.injEq, List.cons.injEq, Prod.mk.injEq, true_and, and_true,
    Json.number.injEq, Int.natCast_inj, UInt32.toNat_inj, FrameNumber.value_inj,
    RollbackTraceEvent.mk.injEq] using h

theorem markerJson_injective : Function.Injective markerJson := by
  intro marker other h
  cases marker with
  | none =>
    cases other with
    | none => rfl
    | some other => cases h
  | some marker =>
    cases other with
    | none => cases h
    | some other =>
      cases marker
      cases other
      simpa only [markerJson, Json.object.injEq, List.cons.injEq, Prod.mk.injEq, true_and, and_true,
        Json.string.injEq, Json.number.injEq, Int.natCast_inj, UInt32.toNat_inj,
        hashForm_injective.eq_iff, Option.some.injEq, FrameNumber.value_inj,
        TraceDesyncMarker.mk.injEq] using h

/-- The value of a trace tells apart what is seen of it, and nothing else. -/
theorem traceJson_iff (trace other : Trace) :
    traceJson trace = traceJson other ↔ trace.shown = other.shown := by
  simp only [traceJson, Trace.shown, Json.object.injEq, List.cons.injEq, Prod.mk.injEq, true_and,
    and_true, Json.number.injEq, Json.array.injEq, Int.natCast_inj, UInt32.toNat_inj, UInt64.toNat_inj,
    map_eq_map_iff frameJson_iff, packetJson_injective.list_map.eq_iff,
    rollbackJson_injective.list_map.eq_iff, markerJson_injective.eq_iff, Trace.mk.injEq]
  tauto

/-! ## No tags -/

/-- The character that the tags of a page begin with. -/
def tagMark : UInt8 := 60

def Untagged (bytes : List UInt8) : Prop := tagMark ∉ bytes

instance (bytes : List UInt8) : Decidable (Untagged bytes) :=
  inferInstanceAs (Decidable (tagMark ∉ bytes))

theorem untagged_decimal (n : ℕ) : Untagged (decimal n) := by
  have hdigits : ∀ d < 10, Numeral.decimalDigit d ≠ tagMark := by decide
  intro hmem
  obtain ⟨d, hd, heq⟩ := Numeral.mem_numeral (by decide) hmem
  exact hdigits d hd heq.symm

theorem untagged_integer (n : ℤ) : Untagged (integer n) := by
  rw [integer]
  split
  · intro hmem
    rcases List.mem_cons.1 hmem with hminus | hdigits
    · exact absurd hminus (by decide)
    · exact untagged_decimal _ hdigits
  · exact untagged_decimal _

theorem untagged_quoted {bytes : List UInt8} (h : Untagged bytes) : Untagged (quoted bytes) := by
  intro hmem
  rw [quoted, List.mem_cons, List.mem_append, List.mem_singleton] at hmem
  rcases hmem with hquote | hbytes | hquote
  · exact absurd hquote (by decide)
  · exact h hbytes
  · exact absurd hquote (by decide)

theorem untagged_hash (hash : StateHash) : Untagged (quoted (hashText hash)) := by
  apply untagged_quoted
  have hdigits : ∀ d < 16, Numeral.upperHexDigit d ≠ tagMark := by decide
  rw [hashText_eq, hashForm]
  intro hmem
  rcases List.mem_append.1 hmem with hprefix | hplace
  · exact (by decide : Untagged (text "0x")) hprefix
  · obtain ⟨place, -, heq⟩ := List.mem_map.1 (List.mem_reverse.1 hplace)
    exact hdigits _ (Nat.mod_lt _ (by decide)) heq

theorem untagged_bool (value : Bool) : Untagged (boolText value) := by
  cases value <;> decide

theorem untagged_player (id : PlayerId) : Untagged (quoted (playerText id)) := by
  cases id <;> decide

theorem untagged_endpoint (endpoint : Endpoint) : Untagged (quoted (endpointText endpoint)) := by
  cases endpoint <;> decide

theorem untagged_kind (kind : PacketTraceKind) : Untagged (quoted (packetKindText kind)) := by
  cases kind <;> decide

theorem untagged_inlineObject {fields : List (List UInt8 × List UInt8)}
    (h : ∀ field ∈ fields, Untagged field.1 ∧ Untagged field.2) : Untagged (inlineObject fields) := by
  intro hmem
  rw [inlineObject, Json.objectText, List.nil_append, List.mem_cons] at hmem
  rcases hmem with hbrace | hmem
  · exact absurd hbrace (by decide)
  rcases Json.mem_membersText hmem with hnil | hnil | hmark | ⟨field, hfield, hkey | hvalue⟩
  · cases hnil
  · cases hnil
  · exact absurd hmark (by decide)
  · exact (h field hfield).1 hkey
  · exact (h field hfield).2 hvalue

theorem untagged_objects {α : Type} {fields : α → List (List UInt8 × List UInt8)}
    (h : ∀ value, ∀ field ∈ fields value, Untagged field.1 ∧ Untagged field.2) (values : List α) :
    Untagged (objectsText fields values) := by
  intro hmem
  rw [objectsText, arrayText, List.mem_cons] at hmem
  rcases hmem with hbracket | hmem
  · exact absurd hbracket (by decide)
  rcases Json.mem_elementsText hmem with hmark | ⟨element, helement, hin⟩
  · exact absurd hmark (by decide)
  · obtain ⟨value, -, rfl⟩ := List.mem_map.1 helement
    exact untagged_inlineObject (h value) hin

theorem untagged_frameFields (frame : TraceFrame) :
    ∀ field ∈ frameFields frame, Untagged field.1 ∧ Untagged field.2 := by
  have hplayer : ∀ player, ∀ field ∈ playerFields player, Untagged field.1 ∧ Untagged field.2 := by
    intro player
    simp only [playerFields, List.forall_mem_cons]
    exact ⟨⟨by decide, untagged_player _⟩, ⟨by decide, untagged_integer _⟩,
      ⟨by decide, untagged_integer _⟩, ⟨by decide, untagged_integer _⟩,
      ⟨by decide, untagged_integer _⟩, ⟨by decide, untagged_integer _⟩,
      ⟨by decide, untagged_integer _⟩, ⟨by decide, untagged_integer _⟩,
      ⟨by decide, untagged_decimal _⟩, ⟨by decide, untagged_decimal _⟩, nofun⟩
  have hprojectile : ∀ projectile, ∀ field ∈ projectileFields projectile,
      Untagged field.1 ∧ Untagged field.2 := by
    intro projectile
    simp only [projectileFields, List.forall_mem_cons]
    exact ⟨⟨by decide, untagged_decimal _⟩, ⟨by decide, untagged_player _⟩,
      ⟨by decide, untagged_integer _⟩, ⟨by decide, untagged_integer _⟩, nofun⟩
  simp only [frameFields, List.forall_mem_cons]
  exact ⟨⟨by decide, untagged_decimal _⟩, ⟨by decide, untagged_objects hplayer _⟩,
    ⟨by decide, untagged_objects hprojectile _⟩, ⟨by decide, untagged_hash _⟩,
    ⟨by decide, untagged_bool _⟩, ⟨by decide, untagged_decimal _⟩, nofun⟩

theorem untagged_packetFields (packet : PacketTraceEvent) :
    ∀ field ∈ packetFields packet, Untagged field.1 ∧ Untagged field.2 := by
  simp only [packetFields, List.forall_mem_cons]
  exact ⟨⟨by decide, untagged_decimal _⟩, ⟨by decide, untagged_kind _⟩, ⟨by decide, untagged_endpoint _⟩,
    ⟨by decide, untagged_endpoint _⟩, ⟨by decide, untagged_decimal _⟩, nofun⟩

theorem untagged_rollbackFields (rollback : RollbackTraceEvent) :
    ∀ field ∈ rollbackFields rollback, Untagged field.1 ∧ Untagged field.2 := by
  simp only [rollbackFields, List.forall_mem_cons]
  exact ⟨⟨by decide, untagged_decimal _⟩, ⟨by decide, untagged_decimal _⟩, ⟨by decide, untagged_decimal _⟩, nofun⟩

theorem untagged_marker (marker : Option TraceDesyncMarker) : Untagged (markerText marker) := by
  cases marker with
  | none => exact (by decide : Untagged (text "null"))
  | some marker =>
    apply untagged_inlineObject
    simp only [markerFields, List.forall_mem_cons]
    exact ⟨⟨by decide, untagged_decimal _⟩, ⟨by decide, untagged_hash _⟩, ⟨by decide, untagged_hash _⟩, nofun⟩

theorem untagged_trace (trace : Trace) : Untagged (inlineObject (traceFields trace)) := by
  apply untagged_inlineObject
  simp only [traceFields, List.forall_mem_cons]
  exact ⟨⟨by decide, untagged_decimal _⟩, ⟨by decide, untagged_decimal _⟩, ⟨by decide, untagged_decimal _⟩,
    ⟨by decide, untagged_objects untagged_frameFields _⟩,
    ⟨by decide, untagged_objects untagged_packetFields _⟩,
    ⟨by decide, untagged_objects untagged_rollbackFields _⟩, ⟨by decide, untagged_decimal _⟩,
    ⟨by decide, untagged_decimal _⟩, ⟨by decide, untagged_decimal _⟩, ⟨by decide, untagged_marker _⟩, nofun⟩

/-! ## Traces in full -/

theorem canonicalTraceJson_ok {trace : Trace} {bytes : List UInt8} :
    canonicalTraceJson trace = .ok bytes ↔
      trace.Fits ∧ bytes = inlineObject (traceFields trace) ++ text "\n" := by
  rw [canonicalTraceJson, failIf_bind_ok, not_or, not_or, Nat.not_lt, Nat.not_lt, Nat.not_lt]
  constructor
  · rintro ⟨⟨hframes, hpackets, hrollbacks⟩, h⟩
    exact ⟨⟨hframes, hpackets, hrollbacks⟩, (Except.ok.inj h).symm⟩
  · rintro ⟨hfits, rfl⟩
    exact ⟨⟨hfits.frames, hfits.packets, hfits.rollbacks⟩, rfl⟩

theorem parse_canonicalTraceJson {trace : Trace} {bytes : List UInt8}
    (h : canonicalTraceJson trace = .ok bytes) : Json.parse bytes = some (traceJson trace) := by
  obtain ⟨-, rfl⟩ := canonicalTraceJson_ok.1 h
  exact (reads_trace trace).parse (Numeral.forall_mem_of_all (by decide))

theorem untagged_canonicalTraceJson {trace : Trace} {bytes : List UInt8}
    (h : canonicalTraceJson trace = .ok bytes) : Untagged bytes := by
  obtain ⟨-, rfl⟩ := canonicalTraceJson_ok.1 h
  intro hmem
  rcases List.mem_append.1 hmem with hobject | hend
  · exact untagged_trace trace hobject
  · exact (by decide : Untagged (text "\n")) hend

/-- A trace is written exactly when it is within its capacities. Its text is JSON without the
character that could end the script of a page, it says what the trace holds, and two traces with
one text look the same. -/
theorem trace_json_faithful (trace : Trace) :
    (trace.Fits ↔ ∃ bytes, canonicalTraceJson trace = .ok bytes) ∧
    ∀ bytes, canonicalTraceJson trace = .ok bytes →
      Json.parse bytes = some (traceJson trace) ∧ tagMark ∉ bytes ∧
        ∀ other, canonicalTraceJson other = .ok bytes → other.shown = trace.shown := by
  refine ⟨⟨fun hfits => ⟨_, canonicalTraceJson_ok.2 ⟨hfits, rfl⟩⟩, fun ⟨_, h⟩ =>
    (canonicalTraceJson_ok.1 h).1⟩, fun bytes h => ⟨parse_canonicalTraceJson h,
      untagged_canonicalTraceJson h, fun other hother => ?_⟩⟩
  have hsame := (parse_canonicalTraceJson hother).symm.trans (parse_canonicalTraceJson h)
  exact (traceJson_iff other trace).1 (Option.some.inj hsame)

end RollbackLab
