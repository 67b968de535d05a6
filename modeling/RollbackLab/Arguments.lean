import RollbackLab.Json
import RollbackLab.Relay

/-!
# Arguments on a command line

The supervisor of a run over sockets starts the relay and the peers with options on their
command lines, and each of them reads its options back. An option's value is the argument
behind its first occurrence, wherever that is.
-/

namespace RollbackLab

open Numeral (text decimal)

/-! ## Reading options -/

/-- The argument behind the first occurrence of an option. -/
def optionValue (option : List UInt8) : List (List UInt8) → List UInt8
  | argument :: next :: rest =>
    if argument = option then next else optionValue option (next :: rest)
  | _ => []

/-- An unsigned number at the head of a text and what follows it, unless it is too large. -/
def fromChars (limit : ℕ) (text : List UInt8) : Option (ℕ × List UInt8) :=
  let digits := text.takeWhile Json.isDigit
  let value := Numeral.value 10 Numeral.readDecimal digits
  if digits = [] ∨ limit < value then none else some (value, text.dropWhile Json.isDigit)

def parseU32 (text : List UInt8) (fallback : UInt32) : Result UInt32 :=
  if text = [] then .ok fallback
  else
    match fromChars 0xFFFFFFFF text with
    | some (value, []) => .ok (UInt32.ofNat value)
    | _ => .error ⟨.invalidArgument, 0, 0, "numeric_option"⟩

def requiredU32 (arguments : List (List UInt8)) (option : List UInt8) : Result UInt32 :=
  let value := optionValue option arguments
  if value = [] then .error ⟨.invalidArgument, 0, 0, "required_option"⟩ else parseU32 value 0

/-- What a peer is told. -/
structure PeerCommand where
  config : PeerConfig
  listenPort : UInt16
  variant : SimulationVariant
  reportPath : List UInt8
  replayPath : List UInt8
  diagnosticPath : List UInt8
  deriving DecidableEq, Repr

/-- The options of a peer, unless they are refused. -/
def peerCommand (arguments : List (List UInt8)) : Option PeerCommand := do
  let id := optionValue (text "--id") arguments
  let listenPort ← (requiredU32 arguments (text "--listen-port")).toOption
  let relayPort ← (requiredU32 arguments (text "--relay-port")).toOption
  let scenarioSeed ← (requiredU32 arguments (text "--scenario-seed")).toOption
  let transportSeed ← (requiredU32 arguments (text "--transport-seed")).toOption
  let frames ← (requiredU32 arguments (text "--frames")).toOption
  let protocol ← (requiredU32 arguments (text "--protocol-version")).toOption
  let simulation ← (requiredU32 arguments (text "--simulation-version")).toOption
  let variant := optionValue (text "--variant") arguments
  let handshake ← (requiredU32 arguments (text "--handshake-ms")).toOption
  let runTimeout ← (requiredU32 arguments (text "--run-ms")).toOption
  let report := optionValue (text "--report") arguments
  let replay := optionValue (text "--replay") arguments
  let diagnostic := optionValue (text "--diagnostic") arguments
  if id ≠ text "A" ∧ id ≠ text "B" ∨ report = [] ∨ replay = [] ∨ diagnostic = [] ∨
      variant ≠ text "canonical" ∧ variant ≠ text "damage-bias" ∨ 65535 < listenPort ∨
      65535 < relayPort ∨ 65535 < protocol then none
  else
    some
      { config :=
          { id := if id = text "A" then .a else .b
            relayPort := relayPort.toUInt16
            scenarioSeed := scenarioSeed.toUInt64
            transportSeed := transportSeed.toUInt64
            frameCount := frames
            protocolVersionOverride := protocol.toUInt16
            simulationVersionOverride := simulation
            handshakeTimeoutMilliseconds := handshake
            runTimeoutMilliseconds := runTimeout }
        listenPort := listenPort.toUInt16
        variant := if variant = text "damage-bias" then .damageBias else .canonical
        reportPath := report
        replayPath := replay
        diagnosticPath := diagnostic }

/-- What a relay is told. -/
structure RelayCommand where
  config : RelayConfig
  readyFile : List UInt8
  maximumRuntimeMilliseconds : UInt32
  deriving DecidableEq, Repr

/-- The options of a relay, unless they are refused. -/
def relayCommand (arguments : List (List UInt8)) : Option RelayCommand := do
  let relayPort ← (requiredU32 arguments (text "--relay-port")).toOption
  let peerAPort ← (requiredU32 arguments (text "--peer-a-port")).toOption
  let peerBPort ← (requiredU32 arguments (text "--peer-b-port")).toOption
  let maximum ← (requiredU32 arguments (text "--max-ms")).toOption
  let ready := optionValue (text "--ready") arguments
  if ready = [] ∨ 65535 < relayPort ∨ 65535 < peerAPort ∨ 65535 < peerBPort then none
  else
    some ⟨⟨relayPort.toUInt16, peerAPort.toUInt16, peerBPort.toUInt16⟩, ready, maximum⟩

/-! ## Writing options -/

structure UdpDemoConfig where
  executablePath : List UInt8
  outputDirectory : List UInt8 := text "artifacts/udp-demo"
  scenarioSeed : UInt64 := 0xC0FFEE
  transportSeed : UInt64 := 0x55445030
  frameCount : UInt32 := 120
  watchdogMilliseconds : UInt32 := 5000
  forcedRelayPort : Option UInt16 := none
  launchPeerB : Bool := true
  peerBProtocolVersion : UInt16 := 1
  peerBSimulationVersion : UInt32 := kSimulationVersion
  peerBVariant : SimulationVariant := .canonical
  deriving DecidableEq, Repr

/-- Half the time of the watchdog, within limits. -/
def UdpDemoConfig.handshakeMilliseconds (config : UdpDemoConfig) : UInt32 :=
  max 200 (min 1000 (config.watchdogMilliseconds / 2))

def peerArguments (config : UdpDemoConfig) (id : PlayerId) (listenPort relayPort : UInt16)
    (report replay diagnostic : List UInt8) (protocolVersion : UInt16) (simulationVersion : UInt32)
    (variant : SimulationVariant) : List (List UInt8) :=
  [text "peer", text "--id", if id = .a then text "A" else text "B",
    text "--listen-port", decimal listenPort.toNat,
    text "--relay-port", decimal relayPort.toNat,
    text "--scenario-seed", decimal config.scenarioSeed.toNat,
    text "--transport-seed", decimal config.transportSeed.toNat,
    text "--frames", decimal config.frameCount.toNat,
    text "--protocol-version", decimal protocolVersion.toNat,
    text "--simulation-version", decimal simulationVersion.toNat,
    text "--variant", if variant = .canonical then text "canonical" else text "damage-bias",
    text "--handshake-ms", decimal config.handshakeMilliseconds.toNat,
    text "--run-ms", decimal config.watchdogMilliseconds.toNat,
    text "--report", report,
    text "--replay", replay,
    text "--diagnostic", diagnostic]

def relayArguments (config : UdpDemoConfig) (relayPort peerAPort peerBPort : UInt16)
    (readyFile : List UInt8) : List (List UInt8) :=
  [text "relay", text "--relay-port", decimal relayPort.toNat,
    text "--peer-a-port", decimal peerAPort.toNat,
    text "--peer-b-port", decimal peerBPort.toNat,
    text "--ready", readyFile,
    text "--max-ms", decimal (config.watchdogMilliseconds + 1000).toNat]

/-! ## Reading what was written -/

theorem fromChars_decimal (limit n : ℕ) :
    fromChars limit (decimal n) = if limit < n then none else some (n, []) := by
  have hsplit := @Json.takeWhile_decimal n [] (fun c hc => by cases hc)
  rw [List.append_nil] at hsplit
  have hvalue : Numeral.value 10 Numeral.readDecimal (decimal n) = n :=
    Numeral.value_numeral (by decide) Numeral.readDecimal_digit n
  have hne : decimal n ≠ [] := Numeral.numeral_ne_nil n
  rw [fromChars, hsplit.1, hsplit.2, hvalue]
  simp only [hne, false_or]

theorem requiredU32_decimal {arguments : List (List UInt8)} {option : List UInt8} {n : ℕ}
    (h : optionValue option arguments = decimal n) (hn : n < 2 ^ 32) :
    (requiredU32 arguments option).toOption = some (UInt32.ofNat n) := by
  have hne : decimal n ≠ [] := Numeral.numeral_ne_nil n
  rw [requiredU32, h, if_neg hne, parseU32, if_neg hne, fromChars_decimal, if_neg (by omega)]
  rfl

theorem requiredU32_large {arguments : List (List UInt8)} {option : List UInt8} {n : ℕ}
    (h : optionValue option arguments = decimal n) (hn : ¬ n < 2 ^ 32) :
    (requiredU32 arguments option).toOption = none := by
  have hne : decimal n ≠ [] := Numeral.numeral_ne_nil n
  rw [requiredU32, h, if_neg hne, parseU32, if_neg hne, fromChars_decimal, if_pos (by omega)]
  rfl

theorem requiredU32_port {arguments : List (List UInt8)} {option : List UInt8} {port : UInt16}
    (h : optionValue option arguments = decimal port.toNat) :
    (requiredU32 arguments option).toOption = some port.toUInt32 := by
  have hport : port.toNat < 2 ^ 16 := port.toNat_lt
  rw [requiredU32_decimal h (by omega)]
  exact congrArg some (UInt32.toNat_inj.1 (by
    rw [UInt32.toNat_ofNat', UInt16.toNat_toUInt32, Nat.mod_eq_of_lt (by omega)]))

theorem requiredU32_word {arguments : List (List UInt8)} {option : List UInt8} {word : UInt32}
    (h : optionValue option arguments = decimal word.toNat) :
    (requiredU32 arguments option).toOption = some word := by
  rw [requiredU32_decimal h word.toNat_lt, UInt32.ofNat_toNat]

theorem not_large_port (port : UInt16) : ¬ (65535 : UInt32) < port.toUInt32 := by
  have hport : port.toNat < 2 ^ 16 := port.toNat_lt
  rw [UInt32.lt_iff_toNat_lt, UInt16.toNat_toUInt32]
  exact fun h => absurd h (by rw [show (65535 : UInt32).toNat = 65535 from rfl]; omega)

/-- An argument that cannot be taken for an option. -/
def Ordinary (argument : List UInt8) : Prop := argument.head? ≠ some 45

instance (argument : List UInt8) : Decidable (Ordinary argument) :=
  inferInstanceAs (Decidable (argument.head? ≠ some 45))

theorem optionValue_cons {option argument : List UInt8} (h : argument ≠ option)
    (arguments : List (List UInt8)) :
    optionValue option (argument :: arguments) = optionValue option arguments := by
  cases arguments with
  | nil => rfl
  | cons next rest => rw [optionValue, if_neg h]

/-- The options on a command line with their values. -/
def fields : List (List UInt8) → List (List UInt8 × List UInt8)
  | option :: value :: rest => (option, value) :: fields rest
  | _ => []

/-- Options with ordinary values are found as in a table. -/
theorem optionValue_fields {option : List UInt8} (hoption : option.head? = some 45)
    {arguments : List (List UInt8)} (h : ∀ field ∈ fields arguments, Ordinary field.2) :
    optionValue option arguments = ((fields arguments).lookup option).getD [] := by
  fun_induction fields arguments with
  | case1 key value rest ih =>
    obtain ⟨hfield, hrest⟩ := List.forall_mem_cons.1 h
    have hvalue : value ≠ option := by
      rintro rfl
      exact hfield hoption
    rw [List.lookup_cons]
    by_cases hkey : key = option
    · rw [optionValue, if_pos hkey, hkey, beq_self_eq_true]
      rfl
    · have hother : (option == key) = false := beq_eq_false_iff_ne.2 (Ne.symm hkey)
      rw [optionValue_cons hkey, optionValue_cons hvalue, ih hrest, hother]
  | case2 arguments hshort =>
    cases arguments with
    | nil => rfl
    | cons argument rest =>
      cases rest with
      | nil => rfl
      | cons next rest => exact absurd rfl (hshort argument next rest)

theorem ordinary_decimal (n : ℕ) : Ordinary (decimal n) := by
  obtain ⟨d, hd, tail, hcons⟩ := Json.decimal_first n
  rw [Ordinary, hcons, List.head?_cons]
  exact fun h => (by decide : ∀ d < 10, Numeral.decimalDigit d ≠ 45) d hd (Option.some.inj h)

/-- The values of the options behind a command. -/
theorem optionValue_command {option executable command : List UInt8} (hoption : option.head? = some 45)
    (hexecutable : Ordinary executable) (hcommand : Ordinary command) {arguments : List (List UInt8)}
    (h : ∀ field ∈ fields arguments, Ordinary field.2) :
    optionValue option (executable :: command :: arguments) =
      ((fields arguments).lookup option).getD [] := by
  have hne : ∀ argument, Ordinary argument → argument ≠ option := by
    rintro argument hargument rfl
    exact hargument hoption
  rw [optionValue_cons (hne _ hexecutable), optionValue_cons (hne _ hcommand), optionValue_fields hoption h]

/-- A path that can stand behind an option. -/
structure PathArgument (path : List UInt8) : Prop where
  ordinary : Ordinary path
  nonempty : path ≠ []

section Commands

variable (config : UdpDemoConfig) {executable : List UInt8}

/-- A peer is told what the supervisor means, unless a seed does not fit into 32 bits: then it
refuses its arguments. -/
theorem peerCommand_peerArguments (id : PlayerId) (listenPort relayPort : UInt16)
    {report replay diagnostic : List UInt8} (protocolVersion : UInt16) (simulationVersion : UInt32)
    (variant : SimulationVariant) (hexecutable : Ordinary executable) (hreport : PathArgument report)
    (hreplay : PathArgument replay) (hdiagnostic : PathArgument diagnostic) :
    peerCommand (executable :: peerArguments config id listenPort relayPort report replay diagnostic
        protocolVersion simulationVersion variant) =
      if config.scenarioSeed.toNat < 2 ^ 32 ∧ config.transportSeed.toNat < 2 ^ 32 then
        some
          { config :=
              { id
                relayPort
                scenarioSeed := config.scenarioSeed
                transportSeed := config.transportSeed
                frameCount := config.frameCount
                protocolVersionOverride := protocolVersion
                simulationVersionOverride := simulationVersion
                handshakeTimeoutMilliseconds := config.handshakeMilliseconds
                runTimeoutMilliseconds := config.watchdogMilliseconds }
            listenPort
            variant := if variant = .canonical then .canonical else .damageBias
            reportPath := report
            replayPath := replay
            diagnosticPath := diagnostic }
      else none := by
  have hvalues : ∀ field ∈ fields (peerArguments config id listenPort relayPort report replay
      diagnostic protocolVersion simulationVersion variant).tail, Ordinary field.2 := by
    simp only [peerArguments, List.tail_cons, fields, List.forall_mem_cons]
    have hid : Ordinary (if id = .a then text "A" else text "B") := by split <;> decide
    have hvariant : Ordinary (if variant = .canonical then text "canonical" else text "damage-bias") := by
      split <;> decide
    exact ⟨hid, ordinary_decimal _, ordinary_decimal _, ordinary_decimal _, ordinary_decimal _,
      ordinary_decimal _, ordinary_decimal _, ordinary_decimal _, hvariant, ordinary_decimal _,
      ordinary_decimal _, hreport.ordinary, hreplay.ordinary, hdiagnostic.ordinary, nofun⟩
  have hlook : ∀ option, option.head? = some 45 →
      optionValue option (executable :: peerArguments config id listenPort relayPort report replay
        diagnostic protocolVersion simulationVersion variant) =
      ((fields (peerArguments config id listenPort relayPort report replay
        diagnostic protocolVersion simulationVersion variant).tail).lookup option).getD [] :=
    fun option hoption => optionValue_command hoption hexecutable
      (by decide : Ordinary (text "peer")) hvalues
  generalize executable :: peerArguments config id listenPort relayPort report replay diagnostic
    protocolVersion simulationVersion variant = line at hlook ⊢
  have hid : optionValue (text "--id") line = if id = .a then text "A" else text "B" :=
    (hlook _ (by decide)).trans rfl
  have hlisten := requiredU32_port ((hlook (text "--listen-port") (by decide)).trans rfl)
  have hrelay := requiredU32_port ((hlook (text "--relay-port") (by decide)).trans rfl)
  have hframes := requiredU32_word ((hlook (text "--frames") (by decide)).trans rfl)
  have hprotocol := requiredU32_port ((hlook (text "--protocol-version") (by decide)).trans rfl)
  have hsimulation := requiredU32_word ((hlook (text "--simulation-version") (by decide)).trans rfl)
  have hvariant : optionValue (text "--variant") line =
      if variant = .canonical then text "canonical" else text "damage-bias" :=
    (hlook _ (by decide)).trans rfl
  have hhandshake := requiredU32_word ((hlook (text "--handshake-ms") (by decide)).trans rfl)
  have hrun := requiredU32_word ((hlook (text "--run-ms") (by decide)).trans rfl)
  have hpath : optionValue (text "--report") line = report := (hlook _ (by decide)).trans rfl
  have hrecord : optionValue (text "--replay") line = replay := (hlook _ (by decide)).trans rfl
  have hmarker : optionValue (text "--diagnostic") line = diagnostic := (hlook _ (by decide)).trans rfl
  have hscenario := (hlook (text "--scenario-seed") (by decide)).trans rfl
  have htransport := (hlook (text "--transport-seed") (by decide)).trans rfl
  rw [peerCommand, hlisten, hrelay]
  by_cases hfirst : config.scenarioSeed.toNat < 2 ^ 32
  swap
  · rw [requiredU32_large hscenario hfirst]
    exact (if_neg (fun h => hfirst h.1)).symm
  by_cases hsecond : config.transportSeed.toNat < 2 ^ 32
  swap
  · rw [requiredU32_decimal hscenario hfirst, requiredU32_large htransport hsecond]
    exact (if_neg (fun h => hsecond h.2)).symm
  rw [requiredU32_decimal hscenario hfirst, requiredU32_decimal htransport hsecond, hframes, hprotocol,
    hsimulation, hvariant, hhandshake, hrun, hpath, hrecord, hmarker, hid]
  refine Eq.trans ?_ (if_pos ⟨hfirst, hsecond⟩).symm
  dsimp only [Option.bind_eq_bind, Option.bind_some]
  have hname : ¬ ((if id = .a then text "A" else text "B") ≠ text "A" ∧
      (if id = .a then text "A" else text "B") ≠ text "B") := by
    split <;> decide
  have hkind : ¬ ((if variant = .canonical then text "canonical" else text "damage-bias") ≠
        text "canonical" ∧
      (if variant = .canonical then text "canonical" else text "damage-bias") ≠ text "damage-bias") := by
    split <;> decide
  rw [if_neg (by
    rintro (h | h | h | h | h | h | h | h)
    · exact hname h
    · exact hreport.nonempty h
    · exact hreplay.nonempty h
    · exact hdiagnostic.nonempty h
    · exact hkind h
    · exact not_large_port _ h
    · exact not_large_port _ h
    · exact not_large_port _ h)]
  have hwho : (if (if id = .a then text "A" else text "B") = text "A" then PlayerId.a else .b) = id := by
    cases id
    · rfl
    · exact if_neg (by decide)
  have hwhich : (if (if variant = .canonical then text "canonical" else text "damage-bias") =
      text "damage-bias" then SimulationVariant.damageBias else .canonical) =
      if variant = .canonical then .canonical else .damageBias := by
    by_cases h : variant = .canonical
    · rw [if_pos h, if_pos h]
      exact if_neg (by decide)
    · rw [if_neg h, if_neg h, if_pos rfl]
  have hseed : ∀ seed : UInt64, seed.toNat < 2 ^ 32 → (UInt32.ofNat seed.toNat).toUInt64 = seed := by
    intro seed hseed
    refine UInt64.toNat_inj.1 ?_
    rw [UInt32.toNat_toUInt64, UInt32.toNat_ofNat', Nat.mod_eq_of_lt hseed]
  simp only [hwho, hwhich, hseed _ hfirst, hseed _ hsecond, UInt16.toUInt16_toUInt32]

/-- A relay is told what the supervisor means. -/
theorem relayCommand_relayArguments (relayPort peerAPort peerBPort : UInt16) {ready : List UInt8}
    (hexecutable : Ordinary executable) (hready : PathArgument ready) :
    relayCommand (executable :: relayArguments config relayPort peerAPort peerBPort ready) =
      some ⟨⟨relayPort, peerAPort, peerBPort⟩, ready, config.watchdogMilliseconds + 1000⟩ := by
  have hvalues : ∀ field ∈ fields (relayArguments config relayPort peerAPort peerBPort ready).tail,
      Ordinary field.2 := by
    simp only [relayArguments, List.tail_cons, fields, List.forall_mem_cons]
    exact ⟨ordinary_decimal _, ordinary_decimal _, ordinary_decimal _, hready.ordinary,
      ordinary_decimal _, nofun⟩
  rw [relayArguments] at hvalues ⊢
  generalize config.watchdogMilliseconds + 1000 = maximum at hvalues ⊢
  have hlook := fun (option : List UInt8) (hoption : option.head? = some 45) =>
    optionValue_command hoption hexecutable (by decide : Ordinary (text "relay")) hvalues
  simp only [List.tail_cons] at hlook
  generalize executable :: text "relay" :: _ = line at hlook ⊢
  have hrelay := requiredU32_port ((hlook (text "--relay-port") (by decide)).trans rfl)
  have hpeerA := requiredU32_port ((hlook (text "--peer-a-port") (by decide)).trans rfl)
  have hpeerB := requiredU32_port ((hlook (text "--peer-b-port") (by decide)).trans rfl)
  have hmaximum := requiredU32_word ((hlook (text "--max-ms") (by decide)).trans rfl)
  have hpath : optionValue (text "--ready") line = ready := (hlook _ (by decide)).trans rfl
  rw [relayCommand, hrelay, hpeerA, hpeerB, hmaximum, hpath]
  dsimp only [Option.bind_eq_bind, Option.bind_some]
  rw [if_neg (by
    rintro (h | h | h | h)
    · exact hready.nonempty h
    · exact not_large_port _ h
    · exact not_large_port _ h
    · exact not_large_port _ h)]
  simp only [UInt16.toUInt16_toUInt32]

end Commands

end RollbackLab
