/-
Transmitting one datagram (`handle_production_bridge_tx_datagram`).

A datagram is parsed, its TX options are overridden by the runtime's configuration, a packet is built once to see
whether it can be, and the frame is submitted, which builds the packet again and writes it to the bulk OUT endpoint.

- `submit80211Frame_recorded`, `handleProductionBridgeTxDatagram_recorded`: what either of them writes.
- `handleProductionBridgeTxDatagram_writes`: at most one packet, and what it looks like.
-/
import WfbLink.Bridge.Tx
import WfbLink.RadioCore.TxDescriptor
import WfbLink.Runtime.Host
import WfbLink.Runtime.RxTelemetry

namespace WfbLink.Runtime

open WfbLink.Core WfbLink.RadioCore WfbLink.Bridge

/-! ## Submitting a frame -/

def runtimeTxSubmitError (error : Rtl8812auTxSubmitError) : RuntimeRadioError :=
  .new "tx_submit_failed" error.message

def RuntimeRadioError.display (error : RuntimeRadioError) : String := s!"{error.code}: {error.message}"

/-- `apply_tx_submit_counter_delta` -/
def RuntimeRadioCounters.applyTxSubmit (counters : RuntimeRadioCounters) (before after : TxSubmitCounters) :
    RuntimeRadioCounters :=
  let submitted := satSub after.submitted before.submitted
  let failed := satSub after.failed before.failed
  let rejected := satSub after.rejected before.rejected
  { counters with
    usbBulkOutWrites := satAdd counters.usbBulkOutWrites (satAdd submitted failed)
    txFrames := satAdd counters.txFrames submitted
    droppedFrames := satAdd counters.droppedFrames (satAdd rejected failed) }

def submit80211Frame {τ : Type} [UsbBulkTransfer τ] (session : RuntimeRadioSession τ) (frame : List UInt8)
    (channel : Channel) (options : TxOptions) (txCounters : TxSubmitCounters) :
    Checked (Except RuntimeRadioError ℕ × RuntimeRadioSession τ × TxSubmitCounters) :=
  match session.endpoints.bulkOut with
  | none =>
    let error := .new "missing_bulk_out_endpoint" "runtime radio session has no selected bulk OUT endpoint"
    return (.error error, session, txCounters)
  | some bulkOut => do
    let (result, transport, after) ← submitTxFrame session.transport bulkOut frame channel options txCounters
    let session := { session with transport, counters := session.counters.applyTxSubmit txCounters after }
    return (result.mapError runtimeTxSubmitError, session, after)

/-- a packet that is written as it is -/
def submitRawTxPacket {τ : Type} [UsbBulkTransfer τ] (session : RuntimeRadioSession τ) (packet : List UInt8)
    (txCounters : TxSubmitCounters) (timeout : ℕ) :
    Except RuntimeRadioError ℕ × RuntimeRadioSession τ × TxSubmitCounters :=
  match session.endpoints.bulkOut with
  | none =>
    let error := .new "missing_bulk_out_endpoint" "runtime radio session has no selected bulk OUT endpoint"
    (.error error, session, txCounters)
  | some bulkOut =>
    let txCounters := { txCounters with attempted := satAdd txCounters.attempted 1 }
    let counters := session.counters
    match writeBulkTransfer session.transport bulkOut packet timeout with
    | (.ok written, transport) =>
      if written = packet.length then
        (.ok written,
          { session with
            transport
            counters := { counters with
              usbBulkOutWrites := satAdd counters.usbBulkOutWrites 1
              txFrames := satAdd counters.txFrames 1 } },
          { txCounters with
            submitted := satAdd txCounters.submitted 1
            bytesWritten := satAdd txCounters.bytesWritten (UInt64.ofNat written) })
      else
        (.error (.new "raw_tx_packet_short_write"
            s!"short bulk OUT write to endpoint 0x{hexText 2 bulkOut.toNat}: expected {packet.length} bytes, wrote {written}"),
          { session with
            transport
            counters := { counters with
              usbBulkOutWrites := satAdd counters.usbBulkOutWrites 1
              droppedFrames := satAdd counters.droppedFrames 1 } },
          { txCounters with
            failed := satAdd txCounters.failed 1
            shortWrites := satAdd txCounters.shortWrites 1
            bytesWritten := satAdd txCounters.bytesWritten (UInt64.ofNat written) })
    | (.error error, transport) =>
      (.error (.new "raw_tx_packet_submit_failed" error.message),
        { session with
          transport
          counters := { counters with
            usbBulkOutWrites := satAdd counters.usbBulkOutWrites 1
            droppedFrames := satAdd counters.droppedFrames 1 } },
        { txCounters with failed := satAdd txCounters.failed 1 })

/-- on a recorded transport a submission adds the packet the builder returns, and nothing without a packet or an
endpoint -/
theorem submit80211Frame_recorded {ε τ : Type} [UsbLog ε] [UsbBulkTransfer τ]
    (session : RuntimeRadioSession (Recorded ε τ)) (frame : List UInt8) (channel : Channel) (options : TxOptions)
    (txCounters : TxSubmitCounters) :
    ∃ result session' txCounters', submit80211Frame session frame channel options txCounters =
        .ok (result, session', txCounters') ∧
      (session'.transport.events = session.transport.events ∨
        ∃ bulkOut packet, buildTxPacket frame channel options = .ok (.ok packet) ∧
          session'.transport.events = session.transport.events ++ [UsbLog.entry (.bulkOut bulkOut packet)]) := by
  rw [submit80211Frame]
  cases session.endpoints.bulkOut with
  | none => exact ⟨_, _, _, rfl, Or.inl rfl⟩
  | some bulkOut =>
    obtain ⟨built, hbuild⟩ := buildTxPacket_total frame channel options
    obtain ⟨result, transport, after, hsubmit, hevents⟩ :=
      submitTxFrame_recorded session.transport bulkOut frame channel options txCounters hbuild
    dsimp only
    rw [hsubmit]
    refine ⟨_, _, _, rfl, ?_⟩
    cases built with
    | error error => exact Or.inl (hevents.trans (List.append_nil _))
    | ok packet => exact Or.inr ⟨bulkOut, packet, hbuild, hevents⟩

/-! ## Overrides -/

inductive ProductionRuntimeBridgeTxProfile where
  | linuxMonitor
  | radiotapDirect
deriving DecidableEq, Repr

structure ProductionRuntimeBridgeTxOverrides where
  txProfile : ProductionRuntimeBridgeTxProfile := .linuxMonitor
  txRate : Option TxRate := none
  txBandwidth : Option Bandwidth := none
  txChannelBandwidth : Option Bandwidth := none
  txQueue : Option TxQueue := none
  macId : Option UInt8 := none
  txRateId : Option UInt8 := none
  txRetries : Option UInt8 := none
  txFallbackLimit : Option UInt8 := none
  enableRateFallback : Bool := false
  noAggBreak : Bool := false

structure ProductionRuntimeBridgeTxConfig where
  channel : Channel
  channelBandwidth : Bandwidth
  overrides : ProductionRuntimeBridgeTxOverrides

def applyProductionWfbMonitorTxDefaults (options : TxOptions) : TxOptions :=
  match options.rate with
  | .mcs _ =>
    { options with
      queue := .mgnt
      macId := 1
      rateId := some 7
      disableRateFallback := false
      rateFallbackLimit := 0
      aggregateBreak := false
      retries := if options.noRetry then 0 else options.retries }
  | .vht _ _ =>
    { options with
      queue := .mgnt
      macId := 1
      disableRateFallback := false
      rateFallbackLimit := 0
      aggregateBreak := false
      retries := if options.noRetry then 0 else options.retries }
  | _ => options

def applyProductionBridgeTxOverrides (overrides : ProductionRuntimeBridgeTxOverrides) (channelBandwidth : Bandwidth)
    (options : TxOptions) : TxOptions :=
  let options := { options with channelBandwidth := some (overrides.txChannelBandwidth.getD channelBandwidth) }
  let options := { options with rate := overrides.txRate.getD options.rate }
  let options := { options with bandwidth := overrides.txBandwidth.getD options.bandwidth }
  let options := match overrides.txProfile with
    | .linuxMonitor => applyProductionWfbMonitorTxDefaults options
    | .radiotapDirect => options
  { options with
    queue := overrides.txQueue.getD options.queue
    macId := overrides.macId.getD options.macId
    rateId := overrides.txRateId.or options.rateId
    retries := overrides.txRetries.getD options.retries
    rateFallbackLimit := overrides.txFallbackLimit.getD options.rateFallbackLimit
    disableRateFallback := if overrides.enableRateFallback then false else options.disableRateFallback
    aggregateBreak := if overrides.noAggBreak then false else options.aggregateBreak }

/-! ## One datagram -/

structure ProductionRuntimeQueuedDatagram where
  reportIndex : ℕ
  peer : SocketAddr
  data : List UInt8
deriving DecidableEq, Repr

structure ProductionRuntimeBridgeTxDatagramMetadata where
  peer : SocketAddr
  datagramLen : ℕ
  fwmark : ℕ
  radiotapLen : ℕ
  frameLen : ℕ
  packetLen : ℕ
  txDescriptorPreviewHex : String
  wfbChannelObservation : Option RuntimeWfbChannelObservation
  txProfile : ProductionRuntimeBridgeTxProfile
  txOptions : TxOptions

structure ProductionRuntimeBridgeTxOutcome where
  metadata : Option ProductionRuntimeBridgeTxDatagramMetadata
  datagramBytes : ℕ
  frameBytes : ℕ
  bridgeCounters : TxCounters
  submitCounters : TxSubmitCounters

structure ProductionRuntimeBridgeTxError where
  code : String
  message : String
  metadata : Option ProductionRuntimeBridgeTxDatagramMetadata
  datagramBytes : ℕ
  frameBytes : ℕ
  bridgeCounters : TxCounters
  submitCounters : TxSubmitCounters

def encodeRuntimeHex (bytes : List UInt8) : String := String.join (bytes.map fun b => hexText 2 b.toNat)

/-- a datagram that is dropped before it is submitted -/
def dropMalformed (counters : TxCounters) (unsupportedRadiotap : Bool) : TxCounters :=
  { counters with
    incoming := satAdd counters.incoming 1
    dropped := satAdd counters.dropped 1
    malformed := satAdd counters.malformed 1
    unsupportedRadiotap := satAdd counters.unsupportedRadiotap (if unsupportedRadiotap then 1 else 0) }

/-- the result of handling a datagram, with the state it leaves -/
structure HandledDatagram (τ : Type) where
  result : Except ProductionRuntimeBridgeTxError ProductionRuntimeBridgeTxOutcome
  session : RuntimeRadioSession τ
  bridgeCounters : TxCounters
  submitCounters : TxSubmitCounters

def handleProductionBridgeTxDatagram {τ : Type} [UsbBulkTransfer τ] (session : RuntimeRadioSession τ)
    (queued : ProductionRuntimeQueuedDatagram) (config : ProductionRuntimeBridgeTxConfig)
    (bridgeCounters : TxCounters) (submitCounters : TxSubmitCounters) : Checked (HandledDatagram τ) := do
  let datagramBytes := queued.data.length
  match ← parseTxDatagram queued.data with
  | .error error =>
    let bridgeCounters := dropMalformed bridgeCounters (isUnsupportedRuntimeRadiotap error)
    return {
      result := .ok { metadata := none, datagramBytes, frameBytes := 0, bridgeCounters, submitCounters }
      session, bridgeCounters, submitCounters }
  | .ok parsed =>
    let txOptions := applyProductionBridgeTxOverrides config.overrides config.channelBandwidth parsed.txOptions
    let frameBytes := parsed.ieee80211Frame.length
    match ← buildTxPacket parsed.ieee80211Frame config.channel txOptions with
    | .error _ =>
      let bridgeCounters := dropMalformed bridgeCounters false
      return {
        result := .ok { metadata := none, datagramBytes, frameBytes, bridgeCounters, submitCounters }
        session, bridgeCounters, submitCounters }
    | .ok packet =>
      let preview ← slice packet 0 (min txDescSize packet.length)
      let observation ← runtimeWfbChannelObservation parsed.ieee80211Frame
      let metadata : ProductionRuntimeBridgeTxDatagramMetadata := {
        peer := queued.peer
        datagramLen := queued.data.length
        fwmark := parsed.fwmark
        radiotapLen := parsed.radiotapLen
        frameLen := parsed.ieee80211Frame.length
        packetLen := packet.length
        txDescriptorPreviewHex := encodeRuntimeHex preview
        wfbChannelObservation := observation
        txProfile := config.overrides.txProfile
        txOptions }
      let bridgeCounters := { bridgeCounters with incoming := satAdd bridgeCounters.incoming 1 }
      match ← submit80211Frame session parsed.ieee80211Frame config.channel txOptions submitCounters with
      | (.ok _, session, submitCounters) =>
        let bridgeCounters := { bridgeCounters with injected := satAdd bridgeCounters.injected 1 }
        return {
          result := .ok { metadata := some metadata, datagramBytes, frameBytes, bridgeCounters, submitCounters }
          session, bridgeCounters, submitCounters }
      | (.error error, session, submitCounters) =>
        let bridgeCounters := { bridgeCounters with dropped := satAdd bridgeCounters.dropped 1 }
        return {
          result := .error {
            code := "tx_submit_failed"
            message := s!"radio TX failed: {error.display}"
            metadata := some metadata
            datagramBytes, frameBytes, bridgeCounters, submitCounters }
          session, bridgeCounters, submitCounters }

/-! ## What is written -/

/-- **What a datagram can make the transport see.** Handling it panics nowhere, and adds nothing to the record of the
transport but, at most, one bulk OUT write of a packet that was built for its frame. -/
theorem handleProductionBridgeTxDatagram_recorded {ε τ : Type} [UsbLog ε] [UsbBulkTransfer τ]
    (session : RuntimeRadioSession (Recorded ε τ)) (queued : ProductionRuntimeQueuedDatagram)
    (config : ProductionRuntimeBridgeTxConfig) (bridgeCounters : TxCounters) (submitCounters : TxSubmitCounters) :
    ∃ handled, handleProductionBridgeTxDatagram session queued config bridgeCounters submitCounters = .ok handled ∧
      (handled.session.transport.events = session.transport.events ∨
        ∃ bulkOut packet options, buildTxPacket (datagramFrame queued.data) config.channel options = .ok (.ok packet) ∧
          (datagramFrame queued.data).length + 17 ≤ queued.data.length ∧
          handled.session.transport.events = session.transport.events ++ [UsbLog.entry (.bulkOut bulkOut packet)]) := by
  obtain ⟨parsed, hparse, hframe⟩ := parseTxDatagram_total queued.data
  rw [handleProductionBridgeTxDatagram, hparse, checked_bind_ok]
  cases parsed with
  | error error => exact ⟨_, rfl, Or.inl rfl⟩
  | ok parsed =>
    obtain ⟨hdata, hlen⟩ := hframe parsed rfl
    set options := applyProductionBridgeTxOverrides config.overrides config.channelBandwidth parsed.txOptions
      with hoptions
    obtain ⟨built, hbuild⟩ := buildTxPacket_total parsed.ieee80211Frame config.channel options
    dsimp only
    rw [← hoptions, hbuild, checked_bind_ok]
    cases built with
    | error error => exact ⟨_, rfl, Or.inl rfl⟩
    | ok packet =>
      obtain ⟨observation, hobs⟩ := runtimeWfbChannelObservation_total parsed.ieee80211Frame
      obtain ⟨result, session', submitCounters', hsubmit, hevents⟩ :=
        submit80211Frame_recorded session parsed.ieee80211Frame config.channel options submitCounters
      dsimp only
      rw [slice_ok (Nat.zero_le _) (min_le_right _ _), checked_bind_ok, hobs, checked_bind_ok, hsubmit,
        checked_bind_ok]
      have hwritten : session'.transport.events = session.transport.events ∨
          ∃ bulkOut packet options, buildTxPacket (datagramFrame queued.data) config.channel options =
            .ok (.ok packet) ∧ (datagramFrame queued.data).length + 17 ≤ queued.data.length ∧
            session'.transport.events = session.transport.events ++ [UsbLog.entry (.bulkOut bulkOut packet)] := by
        rcases hevents with hnone | ⟨bulkOut, packet, hpacket, hone⟩
        · exact Or.inl hnone
        · exact Or.inr ⟨bulkOut, packet, options, hdata ▸ hpacket, hdata ▸ hlen, hone⟩
      cases result with
      | error error => exact ⟨_, rfl, hwritten⟩
      | ok written => exact ⟨_, rfl, hwritten⟩

/-- **End-to-end TX encoding.** Handling a datagram issues at most one operation on the transport: a bulk OUT write of
a packet of the frame in the datagram, as `TxEncodes` describes it. -/
theorem handleProductionBridgeTxDatagram_writes {τ : Type} [UsbBulkTransfer τ]
    (session : RuntimeRadioSession (Recorded UsbEvent τ)) (queued : ProductionRuntimeQueuedDatagram)
    (hlen : queued.data.length ≤ 65535) (config : ProductionRuntimeBridgeTxConfig) (bridgeCounters : TxCounters)
    (submitCounters : TxSubmitCounters) :
    ∃ handled written, handleProductionBridgeTxDatagram session queued config bridgeCounters submitCounters =
        .ok handled ∧
      handled.session.transport.events = session.transport.events ++ written ∧ written.length ≤ 1 ∧
      ∀ event ∈ written, ∃ bulkOut packet, event = .bulkOut bulkOut packet ∧
        TxEncodes (datagramFrame queued.data) packet := by
  obtain ⟨handled, hhandled, hevents⟩ :=
    handleProductionBridgeTxDatagram_recorded session queued config bridgeCounters submitCounters
  rcases hevents with hnone | ⟨bulkOut, packet, options, hbuild, hframe, hone⟩
  · exact ⟨handled, [], hhandled, by rw [hnone, List.append_nil], Nat.zero_le 1, nofun⟩
  · refine ⟨handled, _, hhandled, hone, le_rfl, fun event hevent => ?_⟩
    rw [List.mem_singleton.1 hevent]
    exact ⟨bulkOut, packet, rfl, buildTxPacket_encodes hbuild (by omega)⟩

/-- a firewall mark, an HT radiotap header for MCS 1 at 20 MHz, and a data frame of ten bytes -/
def sampleDatagram : ProductionRuntimeQueuedDatagram where
  reportIndex := 0
  peer := ⟨"127.0.0.1", 40000⟩
  data := [0, 0, 0, 1] ++ [0, 0, 13, 0, 0x00, 0x80, 0x08, 0x00, 0x08, 0x00, 0x37, 0x00, 0x01] ++
    [0x08, 0x01, 0, 0, 0xff, 0xff, 0xff, 0xff, 0xff, 0xff]

def sampleTxSession : RuntimeRadioSession (Recorded UsbEvent LoopbackUsb) where
  transport := ⟨⟨[]⟩, []⟩
  endpoints := ⟨some 0x81, some 0x02⟩

example : (handleProductionBridgeTxDatagram sampleTxSession sampleDatagram ⟨⟨36, 5180, .ghz5⟩, .mhz20, {}⟩ {} {}).map
    (fun handled => handled.session.transport.events.length) = .ok 1 := by decide +kernel

theorem handleProductionBridgeTxDatagram_writes_sample :
    ∃ handled written, handleProductionBridgeTxDatagram sampleTxSession sampleDatagram
        ⟨⟨36, 5180, .ghz5⟩, .mhz20, {}⟩ {} {} = .ok handled ∧
      handled.session.transport.events = [] ++ written ∧ written.length ≤ 1 ∧
      ∀ event ∈ written, ∃ bulkOut packet, event = .bulkOut bulkOut packet ∧
        TxEncodes (datagramFrame sampleDatagram.data) packet :=
  handleProductionBridgeTxDatagram_writes sampleTxSession sampleDatagram (by decide) ⟨⟨36, 5180, .ghz5⟩, .mhz20, {}⟩
    {} {}

end WfbLink.Runtime
