/-
The telemetry of one read after another.

The bridge loop parses every bulk buffer, counts its packets in telemetry of its own and adds this to the telemetry of
the run. `Sees` is what one packet does to the telemetry of its read, and `Accumulates` what a sequence of reads does to that
of the run; neither depends on where frames are forwarded to.

- `processPackets_sees`, `processReads_accumulates`: the processing returns, having done just that.
-/
import WfbLink.Runtime.FlowReport

namespace WfbLink.Runtime

open WfbLink.Core WfbLink.RadioCore WfbLink.Bridge

/-! ## One packet -/

/-- a result with the outcome `Frame` has a frame, as the parser's results do -/
def Framed (parsed : ParsedRxPacket) : Prop := parsed.outcome = .frame → parsed.frame.isSome

/-- the frame that is processed -/
def receivedFrame (parsed : ParsedRxPacket) : Option RxFrame :=
  match parsed.outcome with
  | .frame => parsed.frame
  | .drop | .needMoreData => none

/-- the frames of a read -/
def receivedFrames (packets : List ParsedRxPacket) : List RxFrame := packets.filterMap receivedFrame

theorem receivedFrames_cons (parsed : ParsedRxPacket) (packets : List ParsedRxPacket) :
    receivedFrames (parsed :: packets) = receivedFrames [parsed] ++ receivedFrames packets := by
  rw [receivedFrames, ← List.singleton_append, List.filterMap_append]
  rfl

/-- the telemetry before a packet, and after it -/
inductive Sees : ProductionRuntimeRxPacketTelemetry → ParsedRxPacket → ProductionRuntimeRxPacketTelemetry → Prop where
  | frame {t typed : ProductionRuntimeRxPacketTelemetry} {frame : RxFrame} {parsed : ParsedRxPacket}
      {observations : List RuntimeWfbChannelObservation} (hframe : receivedFrame parsed = some frame)
      (htype : countProductionRxFrameType
        (countProductionRxMetadata { t with parsedFrames := satAdd t.parsedFrames 1 } frame) frame.data = .ok typed)
      (hobserve : observeRuntimeWfbChannelId typed.wfbChannelObservations frame.data = .ok observations) :
      Sees t parsed { typed with wfbChannelObservations := observations }
  | drop {t : ProductionRuntimeRxPacketTelemetry} {parsed : ParsedRxPacket} (h : parsed.outcome = .drop) :
      Sees t parsed { t with droppedPackets := satAdd t.droppedPackets 1 }
  | needMoreData {t : ProductionRuntimeRxPacketTelemetry} {parsed : ParsedRxPacket}
      (h : parsed.outcome = .needMoreData) : Sees t parsed { t with needMoreData := satAdd t.needMoreData 1 }

inductive SeesAll : ProductionRuntimeRxPacketTelemetry → List ParsedRxPacket → ProductionRuntimeRxPacketTelemetry → Prop
  where
  | nil {t : ProductionRuntimeRxPacketTelemetry} : SeesAll t [] t
  | cons {t t₁ t₂ : ProductionRuntimeRxPacketTelemetry} {parsed : ParsedRxPacket} {packets : List ParsedRxPacket}
      (hone : Sees t parsed t₁) (hrest : SeesAll t₁ packets t₂) : SeesAll t (parsed :: packets) t₂

/-- a frame too short for a type is counted as dropped; no byte is read out of range -/
theorem countProductionRxFrameType_total (t : ProductionRuntimeRxPacketTelemetry) (frame : List UInt8) :
    ∃ typed, countProductionRxFrameType t frame = .ok typed := by
  by_cases hlen : ieee80211MinHeaderLen ≤ frame.length
  · obtain ⟨type, htype⟩ := frameType_ok hlen
    rw [countProductionRxFrameType, htype, checked_bind_ok]
    cases type <;> exact ⟨_, rfl⟩
  · have herror : frameType frame = .ok (.error (.tooShort ieee80211MinHeaderLen frame.length)) := by
      rw [frameType, validateIeee80211Frame, if_pos (Nat.not_le.1 hlen)]
      rfl
    rw [countProductionRxFrameType, herror, checked_bind_ok]
    exact ⟨_, rfl⟩

/-- finding the type of a frame counts this type, or the frame as dropped, and nothing else -/
theorem countProductionRxFrameType_spec {t typed : ProductionRuntimeRxPacketTelemetry} {frame : List UInt8}
    (h : countProductionRxFrameType t frame = .ok typed) :
    ∃ managementFrames controlFrames dataFrames extensionFrames droppedPackets,
      typed = { t with managementFrames, controlFrames, dataFrames, extensionFrames, droppedPackets } := by
  obtain ⟨type, -, h⟩ := except_bind_ok h
  split at h <;> cases h <;> exact ⟨_, _, _, _, _, rfl⟩

section Process

variable {ω : Type} [DatagramHost ω]

theorem processPacket_sees (s : RxProcessing ω) {parsed : ParsedRxPacket} (hframed : Framed parsed) :
    ∃ s', processPacket s parsed = .ok (.ok (), s') ∧ Sees s.telemetry parsed s'.telemetry := by
  cases hout : parsed.outcome with
  | frame =>
    obtain ⟨frame, hframe⟩ := Option.isSome_iff_exists.1 (hframed hout)
    have hreceived : receivedFrame parsed = some frame := by
      simp only [receivedFrame, hout, hframe]
    obtain ⟨typed, htype⟩ := countProductionRxFrameType_total
      (countProductionRxMetadata { s.telemetry with parsedFrames := satAdd s.telemetry.parsedFrames 1 } frame) frame.data
    obtain ⟨observations, hobserve⟩ := observeRuntimeWfbChannelId_total typed.wfbChannelObservations frame.data
    obtain ⟨rxForwards, host, hforward⟩ := processProductionWfbRxForwards_ok s.rxForwards frame s.host
    refine ⟨{ telemetry := { typed with wfbChannelObservations := observations }, rxForwards, host }, ?_,
      .frame hreceived htype hobserve⟩
    have hexpect : expect "frame outcome includes frame" (some frame) = .ok frame := rfl
    simp only [processPacket, hout, hframe, hexpect, checked_bind_ok, htype, hobserve, hforward]
    rfl
  | drop =>
    let telemetry := { s.telemetry with droppedPackets := satAdd s.telemetry.droppedPackets 1 }
    refine ⟨{ s with telemetry }, ?_, .drop hout⟩
    simp only [processPacket, hout]
    rfl
  | needMoreData =>
    let telemetry := { s.telemetry with needMoreData := satAdd s.telemetry.needMoreData 1 }
    refine ⟨{ s with telemetry }, ?_, .needMoreData hout⟩
    simp only [processPacket, hout]
    rfl

theorem processPackets_sees (s : RxProcessing ω) {packets : List ParsedRxPacket}
    (hframed : ∀ parsed ∈ packets, Framed parsed) :
    ∃ s', processPackets s packets = .ok (.ok (), s') ∧ SeesAll s.telemetry packets s'.telemetry := by
  induction packets generalizing s with
  | nil => exact ⟨s, rfl, .nil⟩
  | cons parsed packets ih =>
    obtain ⟨s₁, hone, hsees⟩ := processPacket_sees s (hframed parsed List.mem_cons_self)
    obtain ⟨s', hrest, hall⟩ := ih s₁ fun r hr => hframed r (List.mem_cons_of_mem _ hr)
    refine ⟨s', ?_, .cons hsees hall⟩
    rw [processPackets, hone]
    exact hrest

/-- **A read is processed.** Its telemetry starts empty and sees every packet. -/
theorem processOutcomes_sees {packets : List ParsedRxPacket} (hframed : ∀ parsed ∈ packets, Framed parsed)
    (rxForwards : List ProductionRuntimeRxForwardRuntime) (host : ω) :
    ∃ outcome rxForwards' host',
      processProductionRxPacketOutcomes packets rxForwards host = .ok (.ok outcome, rxForwards', host') ∧
      SeesAll {} packets outcome.telemetry := by
  obtain ⟨s', hrun, hsees⟩ := processPackets_sees { telemetry := {}, rxForwards, host } hframed
  rw [processProductionRxPacketOutcomes, hrun]
  exact ⟨_, _, _, rfl, hsees⟩

/-! ## Reads -/

/-- processes the packets of one read after the other, adding up their telemetry -/
def processReads (rx : RuntimeFlowRxTelemetry) (rxForwards : List ProductionRuntimeRxForwardRuntime) (host : ω) :
    List (List ParsedRxPacket) →
      Checked (Except RuntimeRadioError Unit × RuntimeFlowRxTelemetry × List ProductionRuntimeRxForwardRuntime × ω)
  | [] => return (.ok (), rx, rxForwards, host)
  | packets :: reads => do
    match ← processProductionRxPacketOutcomes packets rxForwards host with
    | (.error error, rxForwards, host) => return (.error error, rx, rxForwards, host)
    | (.ok outcome, rxForwards, host) =>
      processReads (applyProductionRuntimeRxPacketTelemetry rx outcome.telemetry) rxForwards host reads

end Process

/-- the telemetry before a sequence of reads, and after it -/
inductive Accumulates : RuntimeFlowRxTelemetry → List (List ParsedRxPacket) → RuntimeFlowRxTelemetry → Prop where
  | nil {rx : RuntimeFlowRxTelemetry} : Accumulates rx [] rx
  | cons {rx rx' : RuntimeFlowRxTelemetry} {t : ProductionRuntimeRxPacketTelemetry} {packets : List ParsedRxPacket}
      {reads : List (List ParsedRxPacket)} (hread : SeesAll {} packets t)
      (hrest : Accumulates (applyProductionRuntimeRxPacketTelemetry rx t) reads rx') : Accumulates rx (packets :: reads) rx'

/-- **Reads are processed.** -/
theorem processReads_accumulates {ω : Type} [DatagramHost ω] (rx : RuntimeFlowRxTelemetry)
    (rxForwards : List ProductionRuntimeRxForwardRuntime) (host : ω) {reads : List (List ParsedRxPacket)}
    (hframed : ∀ packets ∈ reads, ∀ parsed ∈ packets, Framed parsed) :
    ∃ rx' rxForwards' host', processReads rx rxForwards host reads = .ok (.ok (), rx', rxForwards', host') ∧
      Accumulates rx reads rx' := by
  induction reads generalizing rx rxForwards host with
  | nil => exact ⟨rx, rxForwards, host, rfl, .nil⟩
  | cons packets reads ih =>
    obtain ⟨outcome, rxForwards₁, host₁, hone, hsees⟩ :=
      processOutcomes_sees (hframed packets List.mem_cons_self) rxForwards host
    obtain ⟨rx', rxForwards', host', hrest, hreads⟩ :=
      ih (applyProductionRuntimeRxPacketTelemetry rx outcome.telemetry) rxForwards₁ host₁
        fun r hr => hframed r (List.mem_cons_of_mem _ hr)
    refine ⟨rx', rxForwards', host', ?_, .cons hsees hreads⟩
    rw [processReads, hone, checked_bind_ok]
    exact hrest

end WfbLink.Runtime
