import RollbackLab.ConstantLatency

/-!
# Packets that are too old before they are due

If even the shortest delay exceeds the largest age, a delivery drops every packet before it
can be handed out. Neither session hears anything, and the match runs out of time.
-/

namespace RollbackLab

open LiveScenario (sendingTicks totalTicks Phase)

/-! ## The transport -/

/-- Every packet is too old before it is due, and there is room for four packets a tick until
they are dropped. -/
structure TransportConfig.Stale (config : TransportConfig) : Prop where
  percents : SeededTransport.percentsInvalid config = false
  stale : config.maxPacketAgeTicks.toNat < config.shortestDelay
  packets : 4 * (config.maxPacketAgeTicks.toNat + 2) ≤ config.maxQueuePackets
  bytes : 4 * (config.maxPacketAgeTicks.toNat + 2) * kMaxPacketBytes ≤ config.maxQueueBytes

section Budget

variable {α : Type*} {due : α → Prop} [DecidablePred due] {size : α → ℕ}

/-- If nothing is due, nothing is taken. -/
theorem markUnder_of_none (budget : ℕ) {list : List α} (h : ∀ a ∈ list, ¬due a) :
    taken (markUnder due size budget list) = [] ∧ passedOver (markUnder due size budget list) = list := by
  induction list with
  | nil => exact ⟨rfl, rfl⟩
  | cons a rest ih =>
    obtain ⟨hnever, hrest⟩ := List.forall_mem_cons.1 h
    obtain ⟨htaken, hpassed⟩ := ih hrest
    rw [markUnder, if_neg fun hboth => hnever hboth.1]
    exact ⟨htaken, congrArg (a :: ·) hpassed⟩

end Budget

namespace SeededTransport

variable {config : TransportConfig} {transport : SeededTransport} {t now : ℕ}
  {sender receiver : Endpoint} {bytes : List UInt8} {tick : LogicalTick}

/-- A packet that waits in a tick, and is dropped before it is due. -/
structure Scheduled.Waits (packet : Scheduled) (config : TransportConfig) (t : ℕ) : Prop where
  short : packet.bytes.length ≤ kMaxPacketBytes
  sent : packet.tick ≤ t
  young : t ≤ packet.tick + config.maxPacketAgeTicks.toNat + 1
  stale : packet.tick + config.maxPacketAgeTicks.toNat < packet.scheduledFor.value.toNat

/-- The queue in a tick in which at most `now` packets have been sent so far. -/
structure Waits (transport : SeededTransport) (config : TransportConfig) (t now : ℕ) : Prop where
  config_eq : transport.config = config
  bytes_eq : transport.queuedBytes = (transport.queue.map fun packet => packet.bytes.length).sum
  waits : ∀ packet ∈ transport.queue, packet.Waits config t
  count : ∀ s, (transport.queue.map Scheduled.tick).count s ≤ 4
  count_now : (transport.queue.map Scheduled.tick).count t ≤ now

theorem Waits.create (config : TransportConfig) : (create config).Waits config 0 0 :=
  ⟨rfl, rfl, fun _ hpacket => absurd hpacket List.not_mem_nil, fun _ => Nat.zero_le _, le_rfl⟩

theorem Waits.congr {after : SeededTransport} (h : transport.Waits config t now)
    (hconfig : after.config = transport.config) (hqueue : after.queue = transport.queue)
    (hbytes : after.queuedBytes = transport.queuedBytes) : after.Waits config t now := by
  refine ⟨hconfig.trans h.config_eq, ?_, ?_, ?_, ?_⟩
  · rw [hqueue, hbytes, h.bytes_eq]
  · rw [hqueue]
    exact h.waits
  · rw [hqueue]
    exact h.count
  · rw [hqueue]
    exact h.count_now

theorem Waits.mono {later : ℕ} (h : transport.Waits config t now) (hle : now ≤ later) :
    transport.Waits config t later :=
  ⟨h.config_eq, h.bytes_eq, h.waits, h.count, h.count_now.trans hle⟩

theorem Waits.length_le (h : transport.Waits config t now) {more : ℕ} (hroom : now + more ≤ 4) :
    transport.queue.length + more ≤ 4 * (config.maxPacketAgeTicks.toNat + 2) := by
  have hkeys := @length_le_of_count
    (transport.queue.map Scheduled.tick ++ List.replicate more t)
    (t - (config.maxPacketAgeTicks.toNat + 1)) (t + 1) 4 (fun key hkey => ?_) fun key => ?_
  · rw [List.length_append, List.length_map, List.length_replicate] at hkeys
    omega
  · rcases List.mem_append.1 hkey with hqueued | hnew
    · obtain ⟨packet, hpacket, rfl⟩ := List.mem_map.1 hqueued
      obtain ⟨-, hsent, hyoung, -⟩ := h.waits packet hpacket
      omega
    · have hkey := List.eq_of_mem_replicate hnew
      omega
  · have hcount := h.count key
    have hnow := h.count_now
    rw [List.count_append, List.count_replicate]
    split
    next heq =>
      rw [beq_iff_eq] at heq
      subst heq
      omega
    · omega

theorem Waits.bytes_le (h : transport.Waits config t now) :
    transport.queuedBytes ≤ transport.queue.length * kMaxPacketBytes := by
  rw [h.bytes_eq, ← List.length_map (f := fun packet : Scheduled => packet.bytes.length),
    ← smul_eq_mul]
  refine List.sum_le_card_nsmul _ _ fun size hsize => ?_
  obtain ⟨packet, hpacket, rfl⟩ := List.mem_map.1 hsize
  exact (h.waits packet hpacket).short

/-- There is room for the copies of a packet. -/
theorem Waits.ensureCapacity (h : transport.Waits config t now) (hstale : config.Stale) {more : ℕ}
    (hroom : now + more ≤ 4) (hbytes : bytes.length ≤ kMaxPacketBytes) :
    transport.ensureCapacity more (bytes.length * more) = (.ok (), transport) := by
  have hlength := h.length_le hroom
  have hpackets := hstale.packets
  have hexceeds : transport.exceeds more (bytes.length * more) = false := by
    rw [exceeds, h.config_eq, Bool.or_eq_false_iff, decide_eq_false_iff_not, decide_eq_false_iff_not]
    refine ⟨by omega, Nat.not_lt.2 ?_⟩
    calc transport.queuedBytes + bytes.length * more
        ≤ transport.queue.length * kMaxPacketBytes + kMaxPacketBytes * more :=
          Nat.add_le_add h.bytes_le (Nat.mul_le_mul_right _ hbytes)
      _ = (transport.queue.length + more) * kMaxPacketBytes := by
          rw [Nat.add_mul, Nat.mul_comm kMaxPacketBytes more]
      _ ≤ 4 * (config.maxPacketAgeTicks.toNat + 2) * kMaxPacketBytes := Nat.mul_le_mul_right _ hlength
      _ ≤ config.maxQueueBytes := hstale.bytes
  rw [SeededTransport.ensureCapacity, hexceeds]
  rfl

/-- A copy joins the packets that wait. -/
theorem Waits.enqueueCopy (h : transport.Waits config t now) (hstale : config.Stale) (duplicate : Bool)
    (hroom : now + 1 ≤ 4) (hbytes : bytes.length ≤ kMaxPacketBytes) (htick : tick.value.toNat = t)
    (hsmall : t + config.longestDelay + 2 < 2 ^ 32) :
    (enqueueCopy sender receiver bytes tick duplicate transport).Waits config t (now + 1) := by
  have hjitter : config.jitterTicks.toNat + 2 < 2 ^ 32 := by
    rw [TransportConfig.longestDelay] at hsmall
    omega
  obtain ⟨packet, hqueue, hconfig, -, hqueued, hsent, hshort, -, -, hearly, -⟩ :=
    @enqueueCopy_underWay config transport t sender receiver bytes tick duplicate h.config_eq hbytes
      htick (by omega) hjitter
  have hpacket : packet.tick = t := by
    rw [Scheduled.tick, show packet.enqueuedAt = tick from congrArg Sent.now hsent, htick]
  have hlong := hstale.stale
  refine ⟨hconfig.trans h.config_eq, ?_, ?_, ?_, ?_⟩
  · rw [hqueue, hqueued, h.bytes_eq, List.map_append, List.sum_append, List.map_singleton,
      List.sum_singleton]
  · rw [hqueue]
    intro other hother
    rcases List.mem_append.1 hother with hold | hnew
    · exact h.waits other hold
    · rw [List.mem_singleton.1 hnew]
      exact ⟨hshort, hpacket.le, by omega, by omega⟩
  · intro s
    have hcount := h.count s
    have hnow := h.count_now
    rw [hqueue, List.map_append, List.map_singleton, List.count_append, hpacket]
    rcases eq_or_ne s t with rfl | hne
    · rw [List.count_singleton_self]
      omega
    · rw [List.count_singleton, if_neg (by simpa using hne.symm)]
      omega
  · have hnow := h.count_now
    rw [hqueue, List.map_append, List.map_singleton, List.count_append, hpacket,
      List.count_singleton_self]
    omega

/-- A packet is lost, or it waits in one copy or two. -/
theorem Waits.send (h : transport.Waits config t now) (hstale : config.Stale) (hroom : now + 2 ≤ 4)
    (hbytes : bytes.length ≤ kMaxPacketBytes) (htick : tick.value.toNat = t)
    (hsmall : t + config.longestDelay + 2 < 2 ^ 32) :
    ∃ after, transport.send sender receiver bytes tick = (.ok (), after) ∧
      after.Waits config t (now + 2) := by
  have hchosen : ∀ {duplicate : Bool} {chosen : SeededTransport}, transport.Chooses duplicate chosen →
      chosen.Waits config t now := fun hchooses =>
    h.congr hchooses.draws.config hchooses.draws.queue hchooses.draws.queuedBytes
  rcases hsend : transport.send sender receiver bytes tick with ⟨result, after⟩
  cases sends hsend with
  | tooLong hlength => exact absurd hbytes (Nat.not_le.2 hlength)
  | badPercent hpercents =>
    rw [h.config_eq, hstale.percents] at hpercents
    cases hpercents
  | lost _ _ hdraws =>
    have hdrawn := h.congr hdraws.config hdraws.queue hdraws.queuedBytes
    have hcount := countLoss_queue
    exact ⟨_, rfl, (hdrawn.congr (hcount _).config (hcount _).queue (hcount _).queuedBytes).mono
      (Nat.le_add_right now 2)⟩
  | full _ hchooses hcapacity =>
    rw [(hchosen hchooses).ensureCapacity hstale (by split <;> omega) hbytes] at hcapacity
    cases hcapacity
  | queued _ hchooses hcapacity =>
    rw [(hchosen hchooses).ensureCapacity hstale (by omega) hbytes] at hcapacity
    cases hcapacity
    have hone := @Waits.enqueueCopy _ _ _ _ sender receiver _ _ (hchosen hchooses) hstale false
      (by omega) hbytes htick hsmall
    exact ⟨_, rfl, hone.mono (by omega)⟩
  | doubled _ hchooses hcapacity =>
    rw [(hchosen hchooses).ensureCapacity hstale (by omega) hbytes] at hcapacity
    cases hcapacity
    have hone := @Waits.enqueueCopy _ _ _ _ sender receiver _ _ (hchosen hchooses) hstale false
      (by omega) hbytes htick hsmall
    have htwo := @Waits.enqueueCopy _ _ _ _ sender receiver _ _ hone hstale true (by omega) hbytes
      htick hsmall
    have hcount := countDuplicate_queue
    exact ⟨_, rfl, (htwo.congr (hcount _).config (hcount _).queue (hcount _).queuedBytes).mono
      (by omega)⟩

/-- A delivery hands out nothing, and drops what is too old. -/
theorem Waits.deliver (h : transport.Waits config t now) (htick : tick.value.toNat = t) :
    (transport.deliver tick).1 = [] ∧ (transport.deliver tick).2.Waits config (t + 1) 0 := by
  have hyoung : ∀ packet ∈ transport.inOrder.filter (isYoung transport.config tick),
      packet ∈ transport.queue ∧ t ≤ packet.tick + config.maxPacketAgeTicks.toNat := by
    intro packet hpacket
    obtain ⟨hmem, hage⟩ := List.mem_filter.1 hpacket
    have hqueued := transport.inOrder_perm.mem_iff.1 hmem
    have hsent := (h.waits packet hqueued).sent
    rw [h.config_eq, isYoung_iff (UInt32.le_iff_toNat_le.2 (htick ▸ hsent)), decide_eq_true_iff,
      htick] at hage
    rw [Scheduled.tick] at hsent ⊢
    exact ⟨hqueued, by omega⟩
  obtain ⟨htaken, hpassed⟩ := @markUnder_of_none _
    (fun packet : Scheduled => packet.scheduledFor.value ≤ tick.value) _
    (fun packet => packet.bytes.length) transport.config.bandwidthBytesPerTick _
    fun packet hpacket hdue => by
      obtain ⟨hqueued, hage⟩ := hyoung packet hpacket
      have hstale := (h.waits packet hqueued).stale
      rw [UInt32.le_iff_toNat_le, htick] at hdue
      omega
  obtain ⟨hdeliveries, hqueue⟩ := deliverEach_eq transport.config tick transport.inOrder
    transport.config.bandwidthBytesPerTick transport.queuedBytes transport.metrics
  rw [htaken] at hdeliveries
  rw [hpassed] at hqueue
  obtain ⟨aged, out, hperm, -, htotal, -⟩ := deliverEach_spec transport.config tick
    transport.inOrder transport.config.bandwidthBytesPerTick transport.queuedBytes transport.metrics
    (by rw [(transport.inOrder_perm.map fun packet => packet.bytes.length).sum_eq, h.bytes_eq])
  have hafter : (transport.deliver tick).2.queue =
      transport.inOrder.filter (isYoung transport.config tick) := hqueue
  have hcount : ∀ s, ((transport.deliver tick).2.queue.map Scheduled.tick).count s ≤
      (transport.queue.map Scheduled.tick).count s := by
    intro s
    rw [hafter, ← (transport.inOrder_perm.map Scheduled.tick).count_eq s]
    exact (List.filter_sublist.map _).count_le _
  refine ⟨hdeliveries, h.config_eq, ?_, fun packet hpacket => ?_, fun s => (hcount s).trans (h.count s), ?_⟩
  · -- the bytes of what was dropped have been taken off
    have hsum := (hperm.map fun packet => packet.bytes.length).sum_eq
    rw [(transport.inOrder_perm.map fun packet => packet.bytes.length).sum_eq, ← h.bytes_eq,
      List.map_append, List.sum_append] at hsum
    exact Nat.add_right_cancel (htotal.trans hsum.symm)
  · rw [hafter] at hpacket
    obtain ⟨hqueued, hage⟩ := hyoung packet hpacket
    obtain ⟨hshort, hsent, -, hstale⟩ := h.waits packet hqueued
    exact ⟨hshort, by omega, by omega, hstale⟩
  · refine Nat.le_zero.2 (List.count_eq_zero.2 fun hmem => ?_)
    rw [hafter] at hmem
    obtain ⟨packet, hpacket, htwice⟩ := List.mem_map.1 hmem
    have hsent := (h.waits packet (hyoung packet hpacket).1).sent
    omega

end SeededTransport

/-! ## The match -/

namespace LiveMatch

variable {m : LiveMatch}

/-- The packets of a match are too old before they are due. -/
structure HearsNothing (m : LiveMatch) : Prop where
  transport : m.network.Stale
  ticks : totalTicks m.config + m.network.longestDelay + 2 < 2 ^ 32

variable (m) in
/-- Neither session has heard anything, and what was sent waits to be dropped. -/
structure Unheard (phase : Phase) (live : LiveScenario) : Prop where
  peers : m.Peers (m.simulated live.tickIndex.toNat) ⟨∅, ∅⟩ live.context
  undiverged : Undiverged live.context
  waits : ∃ now, (phase ≠ .sent → now = 0) ∧ live.transport.Waits m.network
    (if phase = .processed then live.tickIndex.toNat + 1 else live.tickIndex.toNat) now

theorem Unheard.congr {phase : Phase} {live next : LiveScenario} (h : m.Unheard phase live)
    (hindex : next.tickIndex = live.tickIndex) (htransport : next.transport = live.transport)
    (hpeer : next.context.peer = live.context.peer) (hquiet : live.context.Quiet next.context) :
    m.Unheard phase next := by
  refine ⟨?_, h.undiverged.quiet hquiet, ?_⟩
  · rw [hindex]
    exact h.peers.congr hpeer
  · rw [hindex, htransport]
    exact h.waits

/-- The packet of one peer is lost, or it waits. -/
theorem send_waits (hm : m.HearsNothing) {live : LiveScenario} (id : PlayerId) {now : ℕ}
    (hwaits : live.transport.Waits m.network live.tickIndex.toNat now) (hroom : now + 2 ≤ 4)
    (hpeers : m.Peers (m.simulated live.tickIndex.toNat) ⟨∅, ∅⟩ live.context)
    (hconfig : live.config = m.config)
    (hhistory : live.history.of id = m.script.locals id (m.simulated (live.tickIndex.toNat + 1)))
    (hsequence : live.sequence.of id = UInt32.ofNat (live.tickIndex.toNat + 1))
    (hticks : live.tickIndex.toNat < sendingTicks m.config) :
    ∃ after trace, after.Waits m.network live.tickIndex.toNat (now + 2) ∧
      live.send id ⟨live.tickIndex⟩ =
        (.ok (),
          { live with
            sequence := live.sequence.put id (live.sequence.of id + 1)
            transport := after
            context := { live.context with trace := trace } }) := by
  have hspan := hm.ticks
  have htotal : totalTicks m.config = sendingTicks m.config + 32 := rfl
  obtain ⟨c, hpays⟩ := hpeers.pays id
  obtain ⟨bytes, packet, hlength, -, -, -, hsends⟩ :=
    send_spoken id rfl hconfig hpays hhistory hsequence
  obtain ⟨after, hsend, hafter⟩ := @SeededTransport.Waits.send _ _ _ _ id.endpoint
    (remoteId id).endpoint bytes ⟨live.tickIndex⟩ hwaits hm.transport hroom hlength rfl (by omega)
  obtain ⟨trace, -, heq⟩ := hsends _ _ hsend
  exact ⟨after, trace, hafter, heq⟩

/-- Both peers send, and neither fails. -/
theorem Unheard.send (hm : m.HearsNothing) {noted : Option InputPair} {live : LiveScenario}
    (h : m.Truthful .begun noted live) (hunheard : m.Unheard .begun live)
    (hnoted : noted = none → m.config.frameCount ≤ live.tickIndex)
    (hticks : live.tickIndex.toNat < sendingTicks m.config) :
    Outcome (fun _ next => m.Unheard .sent next) (fun _ _ => False)
      (live.sendBoth ⟨live.tickIndex⟩) := by
  obtain ⟨now, hnow, hwaits⟩ := hunheard.waits
  obtain rfl := hnow (by decide)
  obtain ⟨afterA, traceA, hA, heqA⟩ := send_waits hm .a hwaits (by omega) hunheard.peers
    h.config_eq (h.history_noted hnoted .a) (h.sequence_begun hticks .a) hticks
  obtain ⟨afterB, traceB, hB, heqB⟩ := @send_waits m hm
      { live with
        sequence := live.sequence.put .a (live.sequence.of .a + 1)
        transport := afterA
        context := { live.context with trace := traceA } } .b _ hA (by omega)
    (hunheard.peers.congr rfl) h.config_eq (h.history_noted hnoted .b) (h.sequence_begun hticks .b) hticks
  have hsent := live.sendBoth_sent ⟨live.tickIndex⟩
  obtain ⟨sentA, next, sentB, last, hcallA, hcallB, hboth⟩ := live.sendBoth_eq ⟨live.tickIndex⟩
  rw [heqA] at hcallA
  cases hcallA
  rw [show LiveScenario.send _ .b ⟨live.tickIndex⟩ = _ from heqB] at hcallB
  cases hcallB
  rcases hboth with ⟨error, herror, -⟩ | ⟨-, heq⟩
  · cases herror
  rw [heq] at hsent ⊢
  exact ⟨hunheard.peers.congr rfl, hunheard.undiverged.quiet (sent_quiet hsent), 4,
    fun hphase => absurd rfl hphase, hB⟩

/-- Nothing is delivered. -/
theorem Unheard.process {phase : Phase} {live : LiveScenario} (hunheard : m.Unheard phase live)
    (hphase : phase ≠ .processed) :
    Outcome (fun _ next => m.Unheard .processed next) (fun _ _ => False)
      (live.process ⟨live.tickIndex⟩) := by
  obtain ⟨now, -, hwaits⟩ := hunheard.waits
  rw [if_neg hphase] at hwaits
  obtain ⟨hnothing, hafter⟩ := @SeededTransport.Waits.deliver _ _ _ _ ⟨live.tickIndex⟩ hwaits rfl
  rcases hdeliver : live.transport.deliver ⟨live.tickIndex⟩ with ⟨deliveries, transport⟩
  rw [hdeliver] at hnothing hafter
  obtain rfl : deliveries = [] := hnothing
  rw [live.process_eq _ hdeliver]
  exact ⟨hunheard.peers, hunheard.undiverged, 0, fun _ => rfl, hafter⟩

/-- A tick is over. -/
theorem Unheard.later {live next : LiveScenario} (hunheard : m.Unheard .processed live)
    (hindex : next.tickIndex.toNat = live.tickIndex.toNat + 1)
    (htransport : next.transport = live.transport)
    (hpeers : m.Peers (m.simulated (live.tickIndex.toNat + 1)) ⟨∅, ∅⟩ next.context)
    (hquiet : live.context.Quiet next.context) : m.Unheard .begun next := by
  obtain ⟨now, hnow, hwaits⟩ := hunheard.waits
  obtain rfl := hnow (by decide)
  refine ⟨?_, hunheard.undiverged.quiet hquiet, 0, fun _ => rfl, ?_⟩
  · rw [hindex]
    exact hpeers
  · rw [hindex, htransport]
    exact hwaits

variable (m) in
/-- A match whose packets are too old before they are due never fails before it is judged. -/
theorem unheardRule (hm : m.HearsNothing) :
    LiveScenario.TickRule m.config (fun live press => press = m.presses live.tickIndex.toNat)
      (fun phase noted live => m.Truthful phase noted live ∧ m.Unheard phase live)
      (fun _ _ => False) where
  config_eq _ _ _ h := h.1.config_eq
  clear live h := ⟨h.1.clear, h.2.congr rfl rfl rfl ⟨fun _ => rfl, rfl, rfl, rfl, rfl⟩⟩
  record live press h hpress hframe := by
    obtain ⟨next, heq, hcontext, htransport, hnext⟩ := h.1.clear.record hpress hframe
    have hclock := live.clearCorrections.record_clock live.tickIndex
      (LiveScenario.frameInputs m.config ⟨live.tickIndex⟩ press)
    have heq' : live.clearCorrections.record live.tickIndex
        (LiveScenario.frameInputs m.config ⟨live.tickIndex⟩ press) = (.ok (), next) := heq
    rw [heq'] at hclock ⊢
    refine ⟨hnext, h.2.congr hclock.tickIndex htransport ?_ ?_⟩
    · rw [hcontext]
      rfl
    · rw [hcontext]
      exact ⟨fun _ => rfl, rfl, rfl, rfl, rfl⟩
  send noted live h hnoted hticks := by
    have hnext := h.1.send hnoted hticks
    have hsend := h.2.send hm h.1 hnoted hticks
    rcases hcall : live.sendBoth ⟨live.tickIndex⟩ with ⟨error | _, next⟩
    · rw [hcall] at hsend
      exact hsend.elim
    · rw [hcall] at hsend hnext
      exact ⟨hnext, hsend⟩
  process phase noted live h hdelivering := by
    have hnext := h.1.process hdelivering (K := fun _ => True) trivial
      (fun _ _ _ _ => trivial) fun _ _ _ _ _ _ _ _ _ _ _ => trivial
    have hphase : phase ≠ .processed := by
      rintro rfl
      rcases hdelivering with ⟨h, -⟩ | ⟨h, -⟩
      · cases h
      · cases h
    exact (hnext.and (h.2.process hphase)).mono (fun _ _ h => ⟨h.1.1, h.2⟩) fun _ _ h => h.2
  advance inputs live h hframe := by
    have hnext := h.1.advance
    obtain ⟨hlt, rfl⟩ := h.1.noted_eq inputs rfl
    have hpeers := h.2.peers
    rw [m.simulated_eq hlt.le] at hpeers
    obtain ⟨peers, heq, hpeers', htally⟩ := Truthful.advanceBoth_peers hpeers hlt
    obtain ⟨frames, omitted, replay, hend⟩ := LiveScenario.endFrame_eq
      { live with context := { live.context with peer := peers } } live.tickIndex
    rw [heq, Outcome.ok_iff] at hnext ⊢
    refine ⟨hnext.1, ?_⟩
    rw [hend] at hnext ⊢
    refine h.2.later ?_ rfl ?_ ⟨htally, rfl, rfl, rfl, rfl⟩
    · have hlimit := m.frames_lt
      rw [UInt32.toNat_add, UInt32.toNat_one, Nat.mod_eq_of_lt (by omega)]
    · rw [m.simulated_eq (t := live.tickIndex.toNat + 1) hlt]
      exact hpeers'.congr rfl
  pass live h hpass hticks := by
    have hroom := m.room
    have hpassed : m.frames ≤ live.tickIndex.toNat := UInt32.le_iff_toNat_le.1 hpass
    have hsimulated : m.simulated (live.tickIndex.toNat + 1) = m.simulated live.tickIndex.toNat := by
      rw [simulated, simulated, min_eq_right hpassed, min_eq_right (by omega)]
    refine ⟨h.1.pass hpass hticks, h.2.later ?_ rfl ?_ ⟨fun _ => rfl, rfl, rfl, rfl, rfl⟩⟩
    · rw [UInt32.toNat_add, UInt32.toNat_one, Nat.mod_eq_of_lt (by omega)]
    · rw [hsimulated]
      exact h.2.peers

theorem first_unheard (m : LiveMatch) : m.Unheard .begun m.first :=
  ⟨(Hearing.first m).peers, m.first_undiverged, 0, fun _ => rfl, .create m.network⟩

/-! ## The verdict -/

/-- What a session has confirmed, it has heard. -/
theorem mem_heard_of_confirmed {config : SessionConfig} {script : InputScript} {limit n c k : ℕ}
    {heard : Finset ℕ} {session : RollbackSession} (h : Pays config script limit n c heard session)
    (hk : k < c) : k ∈ heard := by
  obtain ⟨run, s, worlds, used, -, ht, -, hheard, -⟩ := h.traces
  rw [← hheard, ht.sound.confirmed_accepted (256 + k) (by omega) (by rw [ht.confirmed_eq]; omega)]
  rfl

theorem confirmed_zero {n c : ℕ} {config : SessionConfig} {script : InputScript} {limit : ℕ}
    {session : RollbackSession} (h : Pays config script limit n c ∅ session) : c = 0 := by
  by_contra hne
  exact absurd (mem_heard_of_confirmed h (Nat.pos_of_ne_zero hne)) (Finset.notMem_empty 0)

/-- A match that has confirmed too little, and shows no desync, has run out of time. -/
theorem judge_unconfirmed {live : LiveScenario} (hdesync : Undiverged live.context)
    (hunconfirmed : live.buildReport.confirmedFrame ≠ ⟨live.config.frameCount⟩) :
    live.judged.judge = .error
      ⟨.timeout, live.buildReport.confirmedFrame.value.toUInt64, 0, "seeded_scenario"⟩ := by
  have hA : live.judged.context.desync.a.diagnostic = none := hdesync.1 .a
  have hB : live.judged.context.desync.b.diagnostic = none := hdesync.1 .b
  have hframe : live.judged.report.confirmedFrame ≠ ⟨live.judged.config.frameCount⟩ := hunconfirmed
  have hfailed : live.judged.report.success = false := by
    change (live.buildReport.confirmedFrame == ⟨live.config.frameCount⟩ && _ && _ && _ && _) = false
    rw [beq_eq_false_iff_ne.2 hunconfirmed]
    rfl
  rw [LiveScenario.judge, hA, hB, hfailed, if_neg (by decide), if_pos (by decide), if_pos hframe]
  rfl

/-- A match in which nothing is heard is played to its end by prediction alone, and then it
is out of time. -/
theorem times_out (hm : m.HearsNothing) :
    (∀ n < totalTicks m.config, (LiveScenario.play m.presses m.first n).Open) ∧
      let last := LiveScenario.play m.presses m.first (totalTicks m.config)
      last.failure = some ⟨.timeout, 0, 0, "seeded_scenario"⟩ ∧ last.finished = false ∧
        last.report.confirmedFrame = ⟨0⟩ ∧
        ∀ id, (last.context.peer.of id).state.frame = ⟨m.config.frameCount⟩ := by
  have hlimit := m.frames_lt
  have hplay := fun n hn => (m.unheardRule hm).play m.pressed ⟨m.first_truthful, m.first_unheard⟩
    ⟨rfl, rfl⟩ rfl m.room (n := n) hn
  refine ⟨fun n hn => ?_, ?_⟩
  · rcases hplay n hn.le with ⟨_, _, hnever, -⟩ | ⟨-, -, hopen, -⟩ | ⟨heq, -⟩
    · exact hnever.elim
    · exact hopen
    · omega
  rcases hplay _ le_rfl with ⟨_, _, hnever, -⟩ | ⟨hlt, -⟩ | ⟨-, live, ⟨htruthful, hunheard⟩, hopen, htick, heq⟩
  · exact hnever.elim
  · omega
  have hover : m.frames ≤ live.tickIndex.toNat := by
    rw [htick, totalTicks, frames]
    omega
  have hpeers := hunheard.peers
  rw [show m.simulated live.tickIndex.toNat = m.frames from min_eq_right hover] at hpeers
  obtain ⟨peers, hfinal, hafter⟩ := exists_verdict hpeers
  have hsilent : ∀ id, ∃ c, Pays (m.session.of id) m.script m.frames m.frames c ∅ (peers.of id) := by
    intro id
    cases id with
    | a => exact hafter.pays .a
    | b => exact hafter.pays .b
  have hconfirmed : ∀ id, Follows (m.session.of id) m.script m.frames m.frames 0 (peers.of id) := by
    intro id
    obtain ⟨c, hpays⟩ := hsilent id
    obtain rfl := confirmed_zero hpays
    exact hpays.hears.follows
  have hreport := @buildReport_confirmed { live with context := { live.context with peer := peers } } 0 0
    (hconfirmed .a).confirmedFrame_eq (hconfirmed .b).confirmedFrame_eq (by decide) (by decide)
  have hjudge := @judge_unconfirmed { live with context := { live.context with peer := peers } }
    hunheard.undiverged (by
      rw [hreport, ne_eq, FrameNumber.mk.injEq]
      dsimp only
      rw [htruthful.config_eq, ← UInt32.toNat_inj]
      exact (Nat.ne_of_lt m.frames_pos))
  rw [hreport] at hjudge
  rw [heq, LiveScenario.ending, hfinal, hjudge]
  refine ⟨rfl, hopen.2, hreport, fun id => ?_⟩
  rw [show m.config.frameCount = UInt32.ofNat m.frames from UInt32.ofNat_toNat.symm]
  exact (hconfirmed id).frame_eq

end LiveMatch

/-- One second over a transport that forgets every packet in the tick after it was sent. -/
def forgetfulConfig : ScenarioRunConfig :=
  { frameCount := 60
    transport :=
      { baseLatencyTicks := 10
        jitterTicks := 3
        lossPercent := 20
        duplicatePercent := 10
        maxPacketAgeTicks := 0 } }

end RollbackLab
