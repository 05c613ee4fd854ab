/-
Telemetry of received packets (`process_production_rx_packet_outcomes`).

Every parse result is counted once, and every frame once more under its 802.11 type, in saturating `u64` counters that
start at zero. The WFB channels seen are collected, and frames of configured channels are sent on as datagrams; a
datagram that cannot be sent is counted and dropped.

- `processPackets_ok`: on results of the shape the parser returns, the processing neither panics nor fails, and
  `Tally` says what the counters have counted.
- `readRxPackets_telemetry`: reading and processing any bytes, together.
-/
import WfbLink.Bridge.RxForward
import WfbLink.Runtime.Host
import WfbLink.Runtime.RxRead

namespace WfbLink.Runtime

open WfbLink.Core WfbLink.RadioCore WfbLink.Bridge

def wfbObservedHeaderLen : ℕ := 24
def wfbObservedMacPrefix : List UInt8 := [0x57, 0x42]
def wfbObservedSrcMacPrefixOffset : ℕ := 10
def wfbObservedSrcChannelIdOffset : ℕ := 12
def wfbObservedDstMacPrefixOffset : ℕ := 16
def wfbObservedDstChannelIdOffset : ℕ := 18
def wfbMaxChannelObservations : ℕ := 32

/-! ## Observed WFB channels -/

structure RuntimeWfbChannelObservation where
  sourceChannelId : ℕ
  sourceChannelIdHex : String
  sourceLinkId : ℕ
  sourceRadioPort : UInt8
  destinationChannelId : ℕ
  destinationChannelIdHex : String
  destinationLinkId : ℕ
  destinationRadioPort : UInt8
  count : UInt64
deriving DecidableEq

def formatWfbObservedChannelId (raw : ℕ) : String := s!"0x{hexText 8 raw}"

def splitWfbObservedChannelId (raw : ℕ) : ℕ × UInt8 := (raw >>> 8, UInt8.ofNat (raw &&& 0xff))

/-- the four bytes of a channel id, whose length the slice has fixed -/
def wfbObservedChannelId (frame : List UInt8) (offset : ℕ) : Checked ℕ := do
  let bytes ← slice frame offset (offset + 4)
  match bytes with
  | [b0, b1, b2, b3] => return beU32 b0 b1 b2 b3
  | _ => expect "slice length checked by frame length" none

def runtimeWfbChannelObservation (frame : List UInt8) : Checked (Option RuntimeWfbChannelObservation) :=
  if frame.length < wfbObservedHeaderLen then return none
  else do
    let srcPrefix ← slice frame wfbObservedSrcMacPrefixOffset (wfbObservedSrcMacPrefixOffset + 2)
    let dstPrefix ← slice frame wfbObservedDstMacPrefixOffset (wfbObservedDstMacPrefixOffset + 2)
    if srcPrefix ≠ wfbObservedMacPrefix ∨ dstPrefix ≠ wfbObservedMacPrefix then return none
    else
      let source ← wfbObservedChannelId frame wfbObservedSrcChannelIdOffset
      let destination ← wfbObservedChannelId frame wfbObservedDstChannelIdOffset
      return some {
        sourceChannelId := source
        sourceChannelIdHex := formatWfbObservedChannelId source
        sourceLinkId := (splitWfbObservedChannelId source).1
        sourceRadioPort := (splitWfbObservedChannelId source).2
        destinationChannelId := destination
        destinationChannelIdHex := formatWfbObservedChannelId destination
        destinationLinkId := (splitWfbObservedChannelId destination).1
        destinationRadioPort := (splitWfbObservedChannelId destination).2
        count := 1 }

/-- adds `count` to the observation of the same channels, or appends a new one while there is room -/
def addWfbChannelObservation (observations : List RuntimeWfbChannelObservation)
    (observation : RuntimeWfbChannelObservation) (count : UInt64) : List RuntimeWfbChannelObservation :=
  match observations.findIdx? fun existing =>
    existing.sourceChannelId == observation.sourceChannelId &&
      existing.destinationChannelId == observation.destinationChannelId with
  | some i => observations.modify i fun existing => { existing with count := satAdd existing.count count }
  | none => if observations.length < wfbMaxChannelObservations then observations ++ [observation] else observations

def observeRuntimeWfbChannelId (observations : List RuntimeWfbChannelObservation) (frame : List UInt8) :
    Checked (List RuntimeWfbChannelObservation) := do
  match ← runtimeWfbChannelObservation frame with
  | none => return observations
  | some observation => return addWfbChannelObservation observations observation 1

theorem wfbObservedChannelId_total {frame : List UInt8} {offset : ℕ} (h : offset + 4 ≤ frame.length) :
    ∃ id, wfbObservedChannelId frame offset = .ok id := by
  have hslice : slice frame offset (offset + 4) = .ok ((frame.drop offset).take 4) := by
    rw [slice_ok (Nat.le_add_right _ _) h, Nat.add_sub_cancel_left]
  have hlen : ((frame.drop offset).take 4).length = 4 := by
    rw [List.length_take, List.length_drop]; omega
  rw [wfbObservedChannelId, hslice, checked_bind_ok]
  obtain ⟨b0, b1, b2, b3, hbytes⟩ := List.length_eq_four.1 hlen
  rw [hbytes]
  exact ⟨_, rfl⟩

theorem runtimeWfbChannelObservation_total (frame : List UInt8) :
    ∃ observation, runtimeWfbChannelObservation frame = .ok observation := by
  unfold runtimeWfbChannelObservation
  by_cases h : frame.length < wfbObservedHeaderLen
  · rw [if_pos h]
    exact ⟨_, rfl⟩
  · have hlen : 24 ≤ frame.length := Nat.not_lt.1 h
    have hsrc : wfbObservedSrcMacPrefixOffset + 2 ≤ frame.length := le_trans (by decide) hlen
    have hdst : wfbObservedDstMacPrefixOffset + 2 ≤ frame.length := le_trans (by decide) hlen
    have hsrcId : wfbObservedSrcChannelIdOffset + 4 ≤ frame.length := le_trans (by decide) hlen
    have hdstId : wfbObservedDstChannelIdOffset + 4 ≤ frame.length := le_trans (by decide) hlen
    obtain ⟨source, hsource⟩ := wfbObservedChannelId_total hsrcId
    obtain ⟨destination, hdestination⟩ := wfbObservedChannelId_total hdstId
    rw [if_neg h, slice_ok (Nat.le_add_right _ _) hsrc, checked_bind_ok, slice_ok (Nat.le_add_right _ _) hdst,
      checked_bind_ok, hsource, checked_bind_ok, hdestination, checked_bind_ok]
    split_ifs
    · exact ⟨_, rfl⟩
    · exact ⟨_, rfl⟩

theorem observeRuntimeWfbChannelId_total (observations : List RuntimeWfbChannelObservation) (frame : List UInt8) :
    ∃ observations', observeRuntimeWfbChannelId observations frame = .ok observations' := by
  obtain ⟨observation, hobs⟩ := runtimeWfbChannelObservation_total frame
  rw [observeRuntimeWfbChannelId, hobs, checked_bind_ok]
  cases observation with
  | none => exact ⟨_, rfl⟩
  | some observation => exact ⟨_, rfl⟩

/-! ## Signal metrics -/

/-- `i64` addition that stays in range -/
def satAddI64 (a b : ℤ) : ℤ := max (-2 ^ 63) (min (a + b) (2 ^ 63 - 1))

/-- `i64` arithmetic without overflow checks -/
def wrapI64 (n : ℤ) : ℤ := n.bmod (2 ^ 64)

/-- without overflow checks; the division rounds towards zero -/
def roundedAverageI64 (sum : ℤ) (count : UInt64) : ℤ :=
  let count : ℤ := max (min count.toNat (2 ^ 63 - 1) : ℕ) 1
  if sum ≥ 0 then (wrapI64 (sum + count / 2)).tdiv count
  else wrapI64 (-(wrapI64 (wrapI64 (-sum) + count / 2)).tdiv count)

structure RuntimeRxSignalMetric where
  sampleCount : UInt64 := 0
  min : Option Int8 := none
  max : Option Int8 := none
  average : Option ℤ := none
  sum : ℤ := 0
deriving DecidableEq

def RuntimeRxSignalMetric.observe (metric : RuntimeRxSignalMetric) (value : Int8) : RuntimeRxSignalMetric :=
  let sampleCount := satAdd metric.sampleCount 1
  let sum := satAddI64 metric.sum value.toInt
  { sampleCount
    sum
    min := some (metric.min.elim value fun current => if value < current then value else current)
    max := some (metric.max.elim value fun current => if current < value then value else current)
    average := some (roundedAverageI64 sum sampleCount) }

structure RuntimeRxSignalSummary where
  rssiDbm : RuntimeRxSignalMetric := {}
  snrDb : RuntimeRxSignalMetric := {}
  noiseDbm : RuntimeRxSignalMetric := {}
deriving DecidableEq

def RuntimeRxSignalSummary.observeFrame (summary : RuntimeRxSignalSummary) (frame : RxFrame) :
    RuntimeRxSignalSummary where
  rssiDbm := if frame.rssiDbmValid then summary.rssiDbm.observe frame.rssiDbm else summary.rssiDbm
  snrDb := frame.snrDb.elim summary.snrDb summary.snrDb.observe
  noiseDbm := frame.noiseDbm.elim summary.noiseDbm summary.noiseDbm.observe

/-! ## Forwarding -/

structure ProductionRuntimeRxForwardRuntime where
  config : RxForwardConfig
  aggregator : Option SocketAddr
  socket : Option UdpSocket
  forwardedBytes : UInt64 := 0
  counters : RxCounters := {}
  lastRxUnixMs : Option UInt64 := none

structure ProductionRuntimeRxForwardSnapshot where
  config : RxForwardConfig
  aggregator : Option SocketAddr
  forwardedBytes : UInt64
  counters : RxCounters
  lastRxUnixMs : Option UInt64
deriving DecidableEq

def productionRxForwardSnapshots (runtimes : List ProductionRuntimeRxForwardRuntime) :
    List ProductionRuntimeRxForwardSnapshot :=
  runtimes.map fun runtime =>
    { config := runtime.config
      aggregator := runtime.aggregator
      forwardedBytes := runtime.forwardedBytes
      counters := runtime.counters
      lastRxUnixMs := runtime.lastRxUnixMs }

variable {ω : Type} [DatagramHost ω]

def processProductionWfbRxForward (runtime : ProductionRuntimeRxForwardRuntime) (frame : RxFrame) (host : ω) :
    Checked (Except RuntimeRadioError Unit × ProductionRuntimeRxForwardRuntime × ω) := do
  let (packet, counters) ← buildRxForwardDatagram frame runtime.config runtime.counters
  let runtime := { runtime with counters }
  match packet, runtime.socket, runtime.aggregator with
  | some packet, some socket, some aggregator =>
    match sendTo host socket packet aggregator with
    | (.error _, host) =>
      let counters := { runtime.counters with sendFailed := satAdd runtime.counters.sendFailed 1 }
      return (.ok (), { runtime with counters }, host)
    | (.ok bytes, host) =>
      let (now, host) := runtimeUnixMs host
      return (.ok (), { runtime with
        counters := { runtime.counters with forwarded := satAdd runtime.counters.forwarded 1 }
        forwardedBytes := satAdd runtime.forwardedBytes (UInt64.ofNat bytes)
        lastRxUnixMs := some now }, host)
  | _, _, _ => return (.ok (), runtime, host)

def processProductionWfbRxForwards (runtimes : List ProductionRuntimeRxForwardRuntime) (frame : RxFrame) (host : ω) :
    Checked (Except RuntimeRadioError Unit × List ProductionRuntimeRxForwardRuntime × ω) :=
  match runtimes with
  | [] => return (.ok (), [], host)
  | runtime :: runtimes => do
    match ← processProductionWfbRxForward runtime frame host with
    | (.error error, runtime, host) => return (.error error, runtime :: runtimes, host)
    | (.ok (), runtime, host) =>
      let (result, runtimes, host) ← processProductionWfbRxForwards runtimes frame host
      return (result, runtime :: runtimes, host)

theorem processProductionWfbRxForward_ok (runtime : ProductionRuntimeRxForwardRuntime) (frame : RxFrame) (host : ω) :
    ∃ runtime' host', processProductionWfbRxForward runtime frame host = .ok (.ok (), runtime', host') := by
  obtain ⟨⟨packet, counters⟩, hbuild⟩ := buildRxForwardDatagram_total frame runtime.config runtime.counters
  rw [processProductionWfbRxForward, hbuild, checked_bind_ok]
  dsimp only
  split
  · split
    · exact ⟨_, _, rfl⟩
    · exact ⟨_, _, rfl⟩
  · exact ⟨_, _, rfl⟩

/-- a frame is offered to every forward; none of them can stop the processing -/
theorem processProductionWfbRxForwards_ok (runtimes : List ProductionRuntimeRxForwardRuntime) (frame : RxFrame)
    (host : ω) :
    ∃ runtimes' host', processProductionWfbRxForwards runtimes frame host = .ok (.ok (), runtimes', host') := by
  induction runtimes generalizing host with
  | nil => exact ⟨_, _, rfl⟩
  | cons runtime runtimes ih =>
    obtain ⟨runtime', host₁, hone⟩ := processProductionWfbRxForward_ok runtime frame host
    obtain ⟨runtimes', host₂, hrest⟩ := ih host₁
    rw [processProductionWfbRxForwards, hone, checked_bind_ok]
    dsimp only
    rw [hrest]
    exact ⟨_, _, rfl⟩

/-! ## Processing -/

structure ProductionRuntimeRxPacketTelemetry where
  parsedFrames : UInt64 := 0
  phyStatusFrames : UInt64 := 0
  rssiValidFrames : UInt64 := 0
  snrFrames : UInt64 := 0
  noiseFrames : UInt64 := 0
  signal : RuntimeRxSignalSummary := {}
  droppedPackets : UInt64 := 0
  needMoreData : UInt64 := 0
  managementFrames : UInt64 := 0
  controlFrames : UInt64 := 0
  dataFrames : UInt64 := 0
  extensionFrames : UInt64 := 0
  wfbChannelObservations : List RuntimeWfbChannelObservation := []

structure ProductionRuntimeRxPacketOutcome where
  telemetry : ProductionRuntimeRxPacketTelemetry
  rxForwards : List ProductionRuntimeRxForwardSnapshot

def countProductionRxMetadata (telemetry : ProductionRuntimeRxPacketTelemetry) (frame : RxFrame) :
    ProductionRuntimeRxPacketTelemetry :=
  { telemetry with
    phyStatusFrames := if frame.phyStatus then satAdd telemetry.phyStatusFrames 1 else telemetry.phyStatusFrames
    rssiValidFrames := if frame.rssiDbmValid then satAdd telemetry.rssiValidFrames 1 else telemetry.rssiValidFrames
    snrFrames := if frame.snrDb.isSome then satAdd telemetry.snrFrames 1 else telemetry.snrFrames
    noiseFrames := if frame.noiseDbm.isSome then satAdd telemetry.noiseFrames 1 else telemetry.noiseFrames
    signal := telemetry.signal.observeFrame frame }

def countProductionRxFrameType (telemetry : ProductionRuntimeRxPacketTelemetry) (frame : List UInt8) :
    Checked ProductionRuntimeRxPacketTelemetry := do
  match ← frameType frame with
  | .ok .management => return { telemetry with managementFrames := satAdd telemetry.managementFrames 1 }
  | .ok .control => return { telemetry with controlFrames := satAdd telemetry.controlFrames 1 }
  | .ok .data => return { telemetry with dataFrames := satAdd telemetry.dataFrames 1 }
  | .ok .extension => return { telemetry with extensionFrames := satAdd telemetry.extensionFrames 1 }
  | .error _ => return { telemetry with droppedPackets := satAdd telemetry.droppedPackets 1 }

/-- what the processing of packets changes -/
structure RxProcessing (ω : Type) where
  telemetry : ProductionRuntimeRxPacketTelemetry
  rxForwards : List ProductionRuntimeRxForwardRuntime
  host : ω

def processPacket (s : RxProcessing ω) (parsed : ParsedRxPacket) :
    Checked (Except RuntimeRadioError Unit × RxProcessing ω) :=
  match parsed.outcome with
  | .frame => do
    let frame ← expect "frame outcome includes frame" parsed.frame
    let telemetry := { s.telemetry with parsedFrames := satAdd s.telemetry.parsedFrames 1 }
    let telemetry ← countProductionRxFrameType (countProductionRxMetadata telemetry frame) frame.data
    let observations ← observeRuntimeWfbChannelId telemetry.wfbChannelObservations frame.data
    let telemetry := { telemetry with wfbChannelObservations := observations }
    let (result, rxForwards, host) ← processProductionWfbRxForwards s.rxForwards frame s.host
    return (result, { telemetry, rxForwards, host })
  | .drop =>
    let telemetry := { s.telemetry with droppedPackets := satAdd s.telemetry.droppedPackets 1 }
    return (.ok (), { s with telemetry })
  | .needMoreData =>
    let telemetry := { s.telemetry with needMoreData := satAdd s.telemetry.needMoreData 1 }
    return (.ok (), { s with telemetry })

def processPackets (s : RxProcessing ω) : List ParsedRxPacket → Checked (Except RuntimeRadioError Unit × RxProcessing ω)
  | [] => return (.ok (), s)
  | parsed :: packets => do
    match ← processPacket s parsed with
    | (.error error, s) => return (.error error, s)
    | (.ok (), s) => processPackets s packets

def processProductionRxPacketOutcomes (packets : List ParsedRxPacket)
    (rxForwards : List ProductionRuntimeRxForwardRuntime) (host : ω) :
    Checked (Except RuntimeRadioError ProductionRuntimeRxPacketOutcome ×
      List ProductionRuntimeRxForwardRuntime × ω) := do
  match ← processPackets { telemetry := {}, rxForwards, host } packets with
  | (.error error, s) => return (.error error, s.rxForwards, s.host)
  | (.ok (), s) =>
    return (.ok { telemetry := s.telemetry, rxForwards := productionRxForwardSnapshots s.rxForwards },
      s.rxForwards, s.host)

/-! ## What has been counted -/

/-- the telemetry of a run that has counted `frames` frames, `drops` drops and `requests` requests for more data -/
structure Tally (t : ProductionRuntimeRxPacketTelemetry) (frames drops requests : ℕ) : Prop where
  parsedFrames : t.parsedFrames.toNat = frames
  byType : t.managementFrames.toNat + t.controlFrames.toNat + t.dataFrames.toNat + t.extensionFrames.toNat = frames
  droppedPackets : t.droppedPackets.toNat = drops
  needMoreData : t.needMoreData.toNat = requests

theorem tally_zero : Tally {} 0 0 0 := ⟨rfl, rfl, rfl, rfl⟩

/-- far from the end of its range a saturating counter just counts -/
theorem satAdd_one {a : UInt64} (h : a.toNat < u64Max) : (satAdd a 1).toNat = a.toNat + 1 := by
  have h1 : (1 : UInt64).toNat = 1 := rfl
  rw [satAdd_toNat, h1]; omega

variable {s : RxProcessing ω} {frames drops requests : ℕ}

theorem processPacket_drop (h : Tally s.telemetry frames drops requests) (hlt : drops < u64Max) (consumed : ℕ) :
    ∃ s', processPacket s ⟨consumed, .drop, none⟩ = .ok (.ok (), s') ∧
      Tally s'.telemetry frames (drops + 1) requests := by
  refine ⟨_, rfl, { h with droppedPackets := ?_ }⟩
  rw [satAdd_one (by rw [h.droppedPackets]; exact hlt), h.droppedPackets]

theorem processPacket_needMoreData (h : Tally s.telemetry frames drops requests) (hlt : requests < u64Max) :
    ∃ s', processPacket s ⟨0, .needMoreData, none⟩ = .ok (.ok (), s') ∧
      Tally s'.telemetry frames drops (requests + 1) := by
  refine ⟨_, rfl, { h with needMoreData := ?_ }⟩
  rw [satAdd_one (by rw [h.needMoreData]; exact hlt), h.needMoreData]

/-- a frame that is long enough has a type, so it is counted there and not as dropped -/
theorem countProductionRxFrameType_ok {t : ProductionRuntimeRxPacketTelemetry} {frame : List UInt8}
    (hlen : ieee80211MinHeaderLen ≤ frame.length) (hlt : frames < u64Max)
    (hparsed : t.parsedFrames.toNat = frames + 1)
    (htypes : t.managementFrames.toNat + t.controlFrames.toNat + t.dataFrames.toNat + t.extensionFrames.toNat = frames)
    (hdrops : t.droppedPackets.toNat = drops) (hmore : t.needMoreData.toNat = requests) :
    ∃ t', countProductionRxFrameType t frame = .ok t' ∧ Tally t' (frames + 1) drops requests := by
  obtain ⟨type, htype⟩ := frameType_ok hlen
  rw [countProductionRxFrameType, htype, checked_bind_ok]
  cases type with
  | management =>
    refine ⟨_, rfl, hparsed, ?_, hdrops, hmore⟩
    dsimp only
    rw [satAdd_one (by omega)]; omega
  | control =>
    refine ⟨_, rfl, hparsed, ?_, hdrops, hmore⟩
    dsimp only
    rw [satAdd_one (by omega)]; omega
  | data =>
    refine ⟨_, rfl, hparsed, ?_, hdrops, hmore⟩
    dsimp only
    rw [satAdd_one (by omega)]; omega
  | extension =>
    refine ⟨_, rfl, hparsed, ?_, hdrops, hmore⟩
    dsimp only
    rw [satAdd_one (by omega)]; omega

theorem processPacket_frame (h : Tally s.telemetry frames drops requests) (hlt : frames < u64Max) (consumed : ℕ)
    {frame : RxFrame} (hlen : ieee80211MinHeaderLen ≤ frame.data.length) :
    ∃ s', processPacket s ⟨consumed, .frame, some frame⟩ = .ok (.ok (), s') ∧
      Tally s'.telemetry (frames + 1) drops requests := by
  have hparsed : (satAdd s.telemetry.parsedFrames 1).toNat = frames + 1 := by
    rw [satAdd_one (by rw [h.parsedFrames]; exact hlt), h.parsedFrames]
  obtain ⟨t, htype, htally⟩ := countProductionRxFrameType_ok hlen hlt
    (t := countProductionRxMetadata { s.telemetry with parsedFrames := satAdd s.telemetry.parsedFrames 1 } frame)
    hparsed h.byType h.droppedPackets h.needMoreData
  obtain ⟨observations, hobs⟩ := observeRuntimeWfbChannelId_total t.wfbChannelObservations frame.data
  obtain ⟨rxForwards, host, hforward⟩ := processProductionWfbRxForwards_ok s.rxForwards frame s.host
  refine ⟨{ telemetry := { t with wfbChannelObservations := observations }, rxForwards, host }, ?_, ?_⟩
  · have hexpect : expect "frame outcome includes frame" (some frame) = .ok frame := rfl
    simp only [processPacket, hexpect, checked_bind_ok, htype, hobs, hforward]
    rfl
  · exact ⟨htally.parsedFrames, htally.byType, htally.droppedPackets, htally.needMoreData⟩

/-- **Processing is total on what the parser returns.** No panic, no error, and each result is counted once. -/
theorem processPackets_ok {packets : List ParsedRxPacket} (hshape : ∀ r ∈ packets, ParsedShape r)
    (h : Tally s.telemetry frames drops requests) (hlt : frames + drops + requests + packets.length ≤ u64Max) :
    ∃ s', processPackets s packets = .ok (.ok (), s') ∧
      Tally s'.telemetry (frames + countOutcome .frame packets) (drops + countOutcome .drop packets)
        (requests + countOutcome .needMoreData packets) := by
  induction packets generalizing s frames drops requests with
  | nil => exact ⟨s, rfl, h⟩
  | cons parsed packets ih =>
    rw [List.length_cons] at hlt
    have hrest : ∀ r ∈ packets, ParsedShape r := fun r hr => hshape r (List.mem_cons_of_mem _ hr)
    simp only [processPackets, countOutcome_cons]
    cases hshape parsed List.mem_cons_self with
    | needMoreData =>
      obtain ⟨s₁, hone, htally⟩ := processPacket_needMoreData h (by omega)
      obtain ⟨s', hrun, htally⟩ := ih hrest htally (by omega)
      refine ⟨s', by rw [hone]; exact hrun, ?_⟩
      simpa [Nat.add_assoc, Nat.add_comm 1] using htally
    | drop _ =>
      obtain ⟨s₁, hone, htally⟩ := processPacket_drop h (by omega) _
      obtain ⟨s', hrun, htally⟩ := ih hrest htally (by omega)
      refine ⟨s', by rw [hone]; exact hrun, ?_⟩
      simpa [Nat.add_assoc, Nat.add_comm 1] using htally
    | frame _ hlen =>
      obtain ⟨s₁, hone, htally⟩ := processPacket_frame h (by omega) _ hlen
      obtain ⟨s', hrun, htally⟩ := ih hrest htally (by omega)
      refine ⟨s', by rw [hone]; exact hrun, ?_⟩
      simpa [Nat.add_assoc, Nat.add_comm 1] using htally

/-! ## Reading and processing together -/

theorem length_eq_countOutcome (packets : List ParsedRxPacket) :
    countOutcome .frame packets + countOutcome .drop packets + countOutcome .needMoreData packets =
      packets.length := by
  induction packets with
  | nil => rfl
  | cons parsed packets ih =>
    rw [countOutcome_cons, countOutcome_cons, countOutcome_cons, List.length_cons, ← ih]
    cases parsed.outcome <;> simp <;> omega

/-- the parser's results can be counted: a buffer in memory holds far fewer than `u64::MAX` of them -/
theorem rxPackets_length_lt (channel : Channel) {bytes : List UInt8} (h : bytes.length ≤ isizeMax) :
    (rxPackets channel bytes).length ≤ u64Max := by
  have hle := rxPackets_length_le channel bytes
  unfold isizeMax at h
  unfold u64Max
  omega

theorem processRxPackets_ok (channel : Channel) {bytes : List UInt8} (h : bytes.length ≤ isizeMax)
    (rxForwards : List ProductionRuntimeRxForwardRuntime) (host : ω) :
    ∃ outcome rxForwards' host',
      processProductionRxPacketOutcomes (rxPackets channel bytes) rxForwards host =
        .ok (.ok outcome, rxForwards', host') ∧
      Tally outcome.telemetry (countOutcome .frame (rxPackets channel bytes))
        (countOutcome .drop (rxPackets channel bytes)) (countOutcome .needMoreData (rxPackets channel bytes)) := by
  have hlt := rxPackets_length_lt channel h
  obtain ⟨s', hrun, htally⟩ := processPackets_ok (s := { telemetry := {}, rxForwards, host })
    (rxPackets_shape channel bytes) tally_zero (by omega)
  simp only [Nat.zero_add] at htally
  rw [processProductionRxPacketOutcomes, hrun]
  exact ⟨_, _, _, rfl, htally⟩

/-- a saturating counter that counts `n` more differs from before by `n`, or by what was left to `u64::MAX` -/
theorem satSub_satCount (a : UInt64) (n : ℕ) : (satSub (satCount a n) a).toNat = min n (u64Max - a.toNat) := by
  have ha := a.toNat_lt
  rw [satSub_toNat, satCount_toNat, u64Max]; omega

theorem readCounters_rxFrames (counters : RuntimeRadioCounters) (packets : List ParsedRxPacket) :
    ((counters.countBulkIn.observeAll packets).saturatingSub counters).rxFrames.toNat =
      min (countOutcome .frame packets) (u64Max - counters.rxFrames.toNat) := by
  rw [RuntimeRadioCounters.saturatingSub, observeAll_rxFrames]
  exact satSub_satCount _ _

theorem readCounters_droppedFrames (counters : RuntimeRadioCounters) (packets : List ParsedRxPacket) :
    ((counters.countBulkIn.observeAll packets).saturatingSub counters).droppedFrames.toNat =
      min (countOutcome .drop packets) (u64Max - counters.droppedFrames.toNat) := by
  rw [RuntimeRadioCounters.saturatingSub, observeAll_droppedFrames]
  exact satSub_satCount _ _

variable {τ : Type} [UsbBulkTransfer τ] {n : ℕ} {session : RuntimeRadioSession τ} {buffer buffer' : ByteBuf n}
  {timeout bytesRead : ℕ} {bulkIn : UInt8} {transport : τ}

/-- **Any bytes.** Whatever a bulk IN read left in the buffer, reading and processing it panics nowhere and fails
nowhere; the results are few, end with the first request for more data, and carry whole frames; and the telemetry
counts each of them once, in step with the session counters as long as these do not saturate. -/
theorem readRxPackets_telemetry (hin : session.endpoints.bulkIn = some bulkIn)
    (hread : readBulkTransfer session.transport bulkIn buffer timeout = (.ok bytesRead, buffer', transport))
    (hlen : bytesRead ≤ n) (channel : Channel) (rxForwards : List ProductionRuntimeRxForwardRuntime) (host : ω) :
    ∃ read session' outcome rxForwards' host',
      readRxPackets session channel buffer timeout = .ok (.ok read, buffer', session') ∧
      processProductionRxPacketOutcomes read.packets rxForwards host = .ok (.ok outcome, rxForwards', host') ∧
      read.packets.length ≤ bytesRead / 24 + 1 ∧
      (∃ parsed last, read.packets = parsed ++ last ∧ last.length ≤ 1 ∧
        (∀ r ∈ parsed, r.outcome ≠ .needMoreData) ∧ ∀ r ∈ last, r.outcome = .needMoreData) ∧
      (∀ r ∈ read.packets, r.outcome = .frame → ∃ frame, r.frame = some frame ∧ 10 ≤ frame.data.length) ∧
      (let t := outcome.telemetry
       t.parsedFrames.toNat =
          t.managementFrames.toNat + t.controlFrames.toNat + t.dataFrames.toNat + t.extensionFrames.toNat ∧
        t.parsedFrames.toNat + t.droppedPackets.toNat + t.needMoreData.toNat = read.packets.length ∧
        read.counters.rxFrames.toNat = min t.parsedFrames.toNat (u64Max - session.counters.rxFrames.toNat) ∧
        read.counters.droppedFrames.toNat =
          min t.droppedPackets.toNat (u64Max - session.counters.droppedFrames.toNat)) := by
  have hfits : bytesRead ≤ buffer'.bytes.length := by rw [buffer'.length_eq]; exact hlen
  have hbytes : (buffer'.bytes.take bytesRead).length = bytesRead := List.length_take_of_le hfits
  have hreceives : session.Receives buffer timeout bulkIn (buffer'.bytes.take bytesRead) buffer' transport :=
    ⟨hin, by rw [hbytes, hread], List.take_prefix _ _⟩
  obtain ⟨outcome, rxForwards', host', hprocess, htally⟩ :=
    processRxPackets_ok channel (hbytes.trans_le (hlen.trans buffer.length_le)) rxForwards host
  refine ⟨_, _, outcome, rxForwards', host', readRxPackets_ok hreceives channel, hprocess, ?_,
    rxPackets_needMoreData _ _, ?_, ?_, ?_, ?_, ?_⟩
  · have hcount := rxPackets_length_le channel (buffer'.bytes.take bytesRead)
    rwa [hbytes] at hcount
  · intro r hr hframe
    cases rxPackets_shape channel _ r hr with
    | needMoreData => exact nomatch hframe
    | drop _ => exact nomatch hframe
    | frame _ hdata => exact ⟨_, rfl, hdata⟩
  · rw [htally.parsedFrames, htally.byType]
  · rw [htally.parsedFrames, htally.droppedPackets, htally.needMoreData, length_eq_countOutcome]
  · rw [htally.parsedFrames]
    exact readCounters_rxFrames _ _
  · rw [htally.droppedPackets]
    exact readCounters_droppedFrames _ _

/-- a frame, an empty descriptor, which is dropped, and three bytes, which are too few for another one -/
def mixedBytes : List UInt8 := ([14, 0, 0, 0] ++ List.replicate 124 0) ++ (List.replicate 24 0 ++ [0, 1, 2])

theorem mixedBytes_length : mixedBytes.length = 155 := by
  simp [mixedBytes]

set_option maxRecDepth 4000 in
theorem mixedBytes_outcomes (channel : Channel) :
    (rxPackets channel mixedBytes).map (·.outcome) = [.frame, .drop, .needMoreData] := by
  obtain ⟨frame, hframe⟩ : ∃ frame, rxStep channel mixedBytes = .record ⟨128, .frame, frame⟩ 128 := ⟨_, rfl⟩
  have hdrop : rxStep channel (List.replicate 24 0 ++ [0, 1, 2]) = .record ⟨24, .drop, none⟩ 24 := rfl
  have htail : rxStep channel [0, 1, 2] = .halt ⟨0, .needMoreData, none⟩ := rfl
  rw [rxPackets_record (by decide) hframe (by decide)]
  change _ :: (rxPackets channel (List.replicate 24 0 ++ [0, 1, 2])).map _ = _
  rw [rxPackets_record (by decide) hdrop (by decide)]
  change _ :: _ :: (rxPackets channel [0, 1, 2]).map _ = _
  rw [rxPackets_halt (by decide) htail]
  rfl

theorem readRxPackets_telemetry_sample :
    ∃ read session' outcome rxForwards' host',
      readRxPackets (loopbackSession mixedBytes {}) ⟨36, 5180, .ghz5⟩ (ByteBuf.zeroed 160 (by decide)) 0 =
        .ok (.ok read, (ByteBuf.zeroed 160 (by decide)).fill mixedBytes, session') ∧
      processProductionRxPacketOutcomes read.packets [] (QuietHost.mk 0) = .ok (.ok outcome, rxForwards', host') ∧
      read.packets.map (·.outcome) = [.frame, .drop, .needMoreData] ∧
      outcome.telemetry.parsedFrames.toNat + outcome.telemetry.droppedPackets.toNat +
        outcome.telemetry.needMoreData.toNat = 3 ∧
      read.counters.rxFrames.toNat = min outcome.telemetry.parsedFrames.toNat u64Max := by
  have hreceives := loopbackSession_receives (show mixedBytes.length ≤ 160 by simp [mixedBytes_length]) {}
    (ByteBuf.zeroed 160 (by decide)) 0
  obtain ⟨read, session', outcome, rxForwards', host', hread, hprocess, -, -, -, -, htotal, hframes, -⟩ :=
    readRxPackets_telemetry rfl hreceives.answer (by simp [mixedBytes_length]) ⟨36, 5180, .ghz5⟩ [] (QuietHost.mk 0)
  have hok := readRxPackets_ok hreceives ⟨36, 5180, .ghz5⟩
  rw [hread] at hok
  have hpackets : read.packets = rxPackets ⟨36, 5180, .ghz5⟩ mixedBytes := by
    injection hok with hok
    injection hok with hok
    injection hok with hok
    rw [hok]
  have houtcomes := mixedBytes_outcomes ⟨36, 5180, .ghz5⟩
  rw [← hpackets] at houtcomes
  refine ⟨read, session', outcome, rxForwards', host', hread, hprocess, houtcomes, ?_, hframes⟩
  rw [htotal, ← List.length_map, houtcomes]
  rfl

/-- a session that has dropped `u64::MAX` packets does not see the next drop in its counters; the telemetry does -/
theorem saturated_session_hides_drop :
    ∃ read session' outcome rxForwards' host',
      readRxPackets (loopbackSession (List.replicate 24 0) { droppedFrames := 0xffffffffffffffff })
        ⟨36, 5180, .ghz5⟩ (ByteBuf.zeroed 64 (by decide)) 0 =
          .ok (.ok read, (ByteBuf.zeroed 64 (by decide)).fill (List.replicate 24 0), session') ∧
      processProductionRxPacketOutcomes read.packets [] (QuietHost.mk 0) = .ok (.ok outcome, rxForwards', host') ∧
      outcome.telemetry.droppedPackets.toNat ≠ read.counters.droppedFrames.toNat := by
  obtain ⟨outcome, rxForwards', host', hprocess, htally⟩ := processRxPackets_ok ⟨36, 5180, .ghz5⟩
    (show (List.replicate 24 (0 : UInt8)).length ≤ isizeMax by decide) [] (QuietHost.mk 0)
  refine ⟨_, _, outcome, rxForwards', host',
    readRxPackets_ok (loopbackSession_receives (by decide) _ (ByteBuf.zeroed 64 (by decide)) 0) _, hprocess, ?_⟩
  rw [htally.droppedPackets]
  decide +kernel

end WfbLink.Runtime
