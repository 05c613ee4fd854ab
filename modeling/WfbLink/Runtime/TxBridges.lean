/-
The two bridges that transmit datagrams: the handler of the runtime (`handle_production_bridge_tx_datagram`) and
`submit_tx_datagram` of `wfb-bridge`, on one session.

They look at a datagram in different places. The handler builds a packet before it submits the frame and counts a frame
that has none as malformed; `submit_tx_datagram` only checks the shortest length and leaves the rest to the session.

- `submit80211Frame_built`: a submission depends on its options through the packet that is built with them.
- `bridges_agree`: on radios that build the packet of the handler the two write the same and count the same, but for the
  frames that no packet can be built for.
- `tx_bridges_agree`: so do the two on the radio of the diagnostics, and with no overrides on a bare session.
-/
import WfbLink.Bridge.TxGrammar
import WfbLink.Runtime.TxDatagram

namespace WfbLink.Runtime

open WfbLink.Core WfbLink.RadioCore WfbLink.Bridge

/-! ## A session as a radio -/

/-- `BridgeTxSessionRadio`: the options of a datagram are adjusted before the session submits its frame -/
structure BridgeTxSessionRadio (τ : Type) where
  session : RuntimeRadioSession τ
  channel : Channel
  adjust : TxOptions → TxOptions
  submitCounters : TxSubmitCounters

instance {τ : Type} [UsbBulkTransfer τ] : RadioTx (BridgeTxSessionRadio τ) where
  submit80211 radio frame options := do
    let (result, session, submitCounters) ←
      submit80211Frame radio.session frame radio.channel (radio.adjust options) radio.submitCounters
    return ((result.map fun _ => ()).mapError RuntimeRadioError.display, { radio with session, submitCounters })

/-- the radio of the diagnostics, with the overrides of the handler -/
def overridingRadio {τ : Type} (session : RuntimeRadioSession τ) (config : ProductionRuntimeBridgeTxConfig)
    (submitCounters : TxSubmitCounters) : BridgeTxSessionRadio τ where
  session
  channel := config.channel
  adjust := applyProductionBridgeTxOverrides config.overrides config.channelBandwidth
  submitCounters

/-- a radio that submits what it is given -/
def bareRadio {τ : Type} (session : RuntimeRadioSession τ) (channel : Channel) (submitCounters : TxSubmitCounters) :
    BridgeTxSessionRadio τ :=
  { session, channel, adjust := id, submitCounters }

/-- overrides that leave the options of a datagram as they are, the channel bandwidth apart -/
def passThrough : ProductionRuntimeBridgeTxOverrides := { txProfile := .radiotapDirect }

/-! ## Agreement -/

/-- a datagram whose frame is long enough, and has no packet -/
def Unbuildable (data : List UInt8) (config : ProductionRuntimeBridgeTxConfig) : Prop :=
  ∃ parsed error, parseTxDatagram data = .ok (.ok parsed) ∧ ieee80211MinHeaderLen ≤ parsed.ieee80211Frame.length ∧
    buildTxPacket parsed.ieee80211Frame config.channel
      (applyProductionBridgeTxOverrides config.overrides config.channelBandwidth parsed.txOptions) = .ok (.error error)

/-- no counter is full -/
structure Room (counters : TxCounters) : Prop where
  incoming : counters.incoming.toNat < u64Max
  injected : counters.injected.toNat < u64Max
  dropped : counters.dropped.toNat < u64Max
  malformed : counters.malformed.toNat < u64Max
  unsupportedRadiotap : counters.unsupportedRadiotap.toNat < u64Max

/-- handled by the runtime and submitted through the radio, a datagram leaves the same transport, and the same counters
unless it is unbuildable: the runtime alone counts that as malformed -/
def BridgesAgree {τ : Type} [UsbBulkTransfer τ] (queued : ProductionRuntimeQueuedDatagram)
    (config : ProductionRuntimeBridgeTxConfig) (radio : BridgeTxSessionRadio τ) (bridgeCounters : TxCounters) : Prop :=
  ∃ handled outcome radio' counters,
    handleProductionBridgeTxDatagram radio.session queued config bridgeCounters radio.submitCounters = .ok handled ∧
    submitTxDatagram queued.data radio bridgeCounters = .ok (outcome, radio', counters) ∧
    handled.session.transport = radio'.session.transport ∧
    (¬ Unbuildable queued.data config → handled.bridgeCounters = counters) ∧
    (Unbuildable queued.data config → handled.bridgeCounters = { counters with malformed := counters.malformed + 1 })

theorem satAdd_of_lt {counter : UInt64} (h : counter.toNat < u64Max) : satAdd counter 1 = counter + 1 := by
  have hone : (1 : UInt64).toNat = 1 := rfl
  unfold u64Max at h
  exact if_pos (by omega)

/-- the two name the same errors -/
theorem isUnsupportedRadiotap_eq (error : TxDatagramError) :
    isUnsupportedRadiotap error = isUnsupportedRuntimeRadiotap error := by
  unfold isUnsupportedRadiotap isUnsupportedRuntimeRadiotap
  split <;> rfl

/-- options reach a submission through the packet -/
theorem submit80211Frame_built {τ : Type} [UsbBulkTransfer τ] {frame : List UInt8} {channel : Channel}
    {options other : TxOptions} (h : buildTxPacket frame channel options = buildTxPacket frame channel other)
    (session : RuntimeRadioSession τ) (submitCounters : TxSubmitCounters) :
    submit80211Frame session frame channel options submitCounters =
      submit80211Frame session frame channel other submitCounters := by
  unfold submit80211Frame submitTxFrame
  rw [h]

theorem submit80211Frame_total {τ : Type} [UsbBulkTransfer τ] (session : RuntimeRadioSession τ) (frame : List UInt8)
    (channel : Channel) (options : TxOptions) (submitCounters : TxSubmitCounters) :
    ∃ result session' submitCounters',
      submit80211Frame session frame channel options submitCounters = .ok (result, session', submitCounters') := by
  obtain ⟨built, hbuild⟩ := buildTxPacket_total frame channel options
  rw [submit80211Frame]
  cases session.endpoints.bulkOut with
  | none => exact ⟨_, _, _, rfl⟩
  | some bulkOut =>
    dsimp only
    rw [submitTxFrame, hbuild, checked_bind_ok]
    cases built with
    | error error => exact ⟨_, _, _, rfl⟩
    | ok packet =>
      dsimp only
      rcases writeBulkTransfer session.transport bulkOut packet defaultTimeout with ⟨error | written, transport⟩
      · exact ⟨_, _, _, rfl⟩
      · dsimp only
        split_ifs
        · exact ⟨_, _, _, rfl⟩
        · exact ⟨_, _, _, rfl⟩

/-- a frame without a packet is not written -/
theorem submit80211Frame_unbuilt {τ : Type} [UsbBulkTransfer τ] {frame : List UInt8} {channel : Channel}
    {options : TxOptions} {error : Rtl8812auTxError} (h : buildTxPacket frame channel options = .ok (.error error))
    (session : RuntimeRadioSession τ) (submitCounters : TxSubmitCounters) :
    ∃ reason session' submitCounters',
      submit80211Frame session frame channel options submitCounters = .ok (.error reason, session', submitCounters') ∧
        session'.transport = session.transport := by
  rw [submit80211Frame]
  cases session.endpoints.bulkOut with
  | none => exact ⟨_, _, _, rfl, rfl⟩
  | some bulkOut =>
    dsimp only
    rw [submitTxFrame, h]
    exact ⟨_, _, _, rfl, rfl⟩

/-! ## What the handler does -/

/-- the counters of the handler behind a submission -/
def submittedCounters {α : Type} (counters : TxCounters) : Except RuntimeRadioError α → TxCounters
  | .error _ => { counters with
      incoming := satAdd counters.incoming 1
      dropped := satAdd counters.dropped 1 }
  | .ok _ => { counters with
      incoming := satAdd counters.incoming 1
      injected := satAdd counters.injected 1 }

section Handler

variable {τ : Type} [UsbBulkTransfer τ] (session : RuntimeRadioSession τ) {queued : ProductionRuntimeQueuedDatagram}
  {config : ProductionRuntimeBridgeTxConfig} (bridgeCounters : TxCounters) (submitCounters : TxSubmitCounters)

theorem handled_unparsed {error : TxDatagramError} (hparse : parseTxDatagram queued.data = .ok (.error error)) :
    ∃ handled, handleProductionBridgeTxDatagram session queued config bridgeCounters submitCounters = .ok handled ∧
      handled.session = session ∧
      handled.bridgeCounters = dropMalformed bridgeCounters (isUnsupportedRuntimeRadiotap error) := by
  rw [handleProductionBridgeTxDatagram, hparse]
  exact ⟨_, rfl, rfl, rfl⟩

variable {parsed : ParsedTxDatagram} (hparse : parseTxDatagram queued.data = .ok (.ok parsed))

include hparse

theorem handled_unbuilt {error : Rtl8812auTxError} (hbuild : buildTxPacket parsed.ieee80211Frame config.channel
      (applyProductionBridgeTxOverrides config.overrides config.channelBandwidth parsed.txOptions) = .ok (.error error)) :
    ∃ handled, handleProductionBridgeTxDatagram session queued config bridgeCounters submitCounters = .ok handled ∧
      handled.session = session ∧ handled.bridgeCounters = dropMalformed bridgeCounters false := by
  rw [handleProductionBridgeTxDatagram, hparse, checked_bind_ok]
  dsimp only
  rw [hbuild]
  exact ⟨_, rfl, rfl, rfl⟩

theorem handled_built {packet : List UInt8} (hbuild : buildTxPacket parsed.ieee80211Frame config.channel
      (applyProductionBridgeTxOverrides config.overrides config.channelBandwidth parsed.txOptions) = .ok (.ok packet))
    {result : Except RuntimeRadioError ℕ} {session' : RuntimeRadioSession τ} {submitCounters' : TxSubmitCounters}
    (hsubmit : submit80211Frame session parsed.ieee80211Frame config.channel
      (applyProductionBridgeTxOverrides config.overrides config.channelBandwidth parsed.txOptions)
      submitCounters = .ok (result, session', submitCounters')) :
    ∃ handled, handleProductionBridgeTxDatagram session queued config bridgeCounters submitCounters = .ok handled ∧
      handled.session = session' ∧ handled.bridgeCounters = submittedCounters bridgeCounters result := by
  obtain ⟨observation, hobservation⟩ := runtimeWfbChannelObservation_total parsed.ieee80211Frame
  rw [handleProductionBridgeTxDatagram, hparse, checked_bind_ok]
  dsimp only
  rw [hbuild, checked_bind_ok]
  dsimp only
  rw [slice_ok (Nat.zero_le _) (min_le_right _ _), checked_bind_ok, hobservation, checked_bind_ok, hsubmit]
  cases result with
  | error error => exact ⟨_, rfl, rfl, rfl⟩
  | ok written => exact ⟨_, rfl, rfl, rfl⟩

end Handler

/-! ## What the radio does -/

/-- the counters of the bridge behind a submission -/
def handedCounters {α : Type} (counters : TxCounters) : Except RuntimeRadioError α → TxCounters
  | .error _ => { counters with
      incoming := counters.incoming + 1
      dropped := counters.dropped + 1 }
  | .ok _ => { counters with
      incoming := counters.incoming + 1
      injected := counters.injected + 1 }

section Radio

variable {τ : Type} [UsbBulkTransfer τ] {packet : List UInt8} {radio : BridgeTxSessionRadio τ} {counters : TxCounters}

theorem submitTxDatagram_unparsed {error : TxDatagramError} (hparse : parseTxDatagram packet = .ok (.error error)) :
    submitTxDatagram packet radio counters = .ok (.error (.datagram error), radio, { counters with
      incoming := counters.incoming + 1
      dropped := counters.dropped + 1
      malformed := counters.malformed + 1
      unsupportedRadiotap :=
        if isUnsupportedRadiotap error then counters.unsupportedRadiotap + 1 else counters.unsupportedRadiotap }) := by
  rw [submitTxDatagram, hparse]
  rfl

variable {parsed : ParsedTxDatagram} (hparse : parseTxDatagram packet = .ok (.ok parsed))

include hparse

theorem submitTxDatagram_short (hshort : parsed.ieee80211Frame.length < ieee80211MinHeaderLen) :
    submitTxDatagram packet radio counters =
      .ok (.error (.frame (.tooShort ieee80211MinHeaderLen parsed.ieee80211Frame.length)), radio, { counters with
        incoming := counters.incoming + 1
        dropped := counters.dropped + 1
        malformed := counters.malformed + 1 }) := by
  rw [submitTxDatagram, hparse, checked_bind_ok]
  dsimp only
  rw [validateIeee80211Frame, if_pos hshort]
  rfl

theorem submitTxDatagram_handed (hlong : ieee80211MinHeaderLen ≤ parsed.ieee80211Frame.length)
    {result : Except RuntimeRadioError ℕ} {session : RuntimeRadioSession τ} {submitCounters : TxSubmitCounters}
    (hsubmit : submit80211Frame radio.session parsed.ieee80211Frame radio.channel (radio.adjust parsed.txOptions)
      radio.submitCounters = .ok (result, session, submitCounters)) :
    submitTxDatagram packet radio counters =
      .ok ((result.map fun _ => .injected).mapError fun error => .radio error.display,
        { radio with session, submitCounters }, handedCounters counters result) := by
  rw [submitTxDatagram, hparse, checked_bind_ok]
  dsimp only
  rw [validateIeee80211Frame_ok hlong]
  dsimp only [RadioTx.submit80211]
  rw [hsubmit]
  cases result with
  | error error => rfl
  | ok written => rfl

end Radio

/-! ## Both on one session -/

section Agreement

variable {τ : Type} [UsbBulkTransfer τ] {queued : ProductionRuntimeQueuedDatagram}
  {config : ProductionRuntimeBridgeTxConfig} {radio : BridgeTxSessionRadio τ} {bridgeCounters : TxCounters}
  {parsed : ParsedTxDatagram}

/-- a datagram that does not parse -/
theorem bridgesAgree_unparsed {error : TxDatagramError} (hparse : parseTxDatagram queued.data = .ok (.error error))
    (hroom : Room bridgeCounters) : BridgesAgree queued config radio bridgeCounters := by
  have hbuildable : ¬ Unbuildable queued.data config := by
    rintro ⟨parsed, _, hparsed, -⟩
    cases hparse.symm.trans hparsed
  obtain ⟨handled, hhandled, hsession, hcounters⟩ := handled_unparsed radio.session bridgeCounters radio.submitCounters hparse
  refine ⟨handled, _, _, _, hhandled, submitTxDatagram_unparsed hparse, by rw [hsession], fun _ => ?_,
    fun h => absurd h hbuildable⟩
  rw [hcounters, dropMalformed, satAdd_of_lt hroom.incoming, satAdd_of_lt hroom.dropped, satAdd_of_lt hroom.malformed,
    isUnsupportedRadiotap_eq]
  cases isUnsupportedRuntimeRadiotap error with
  | false => simp
  | true => simp [satAdd_of_lt hroom.unsupportedRadiotap]

variable (hparse : parseTxDatagram queued.data = .ok (.ok parsed))

include hparse

/-- a frame that is too short for both -/
theorem bridgesAgree_short (hshort : parsed.ieee80211Frame.length < ieee80211MinHeaderLen)
    (hroom : Room bridgeCounters) : BridgesAgree queued config radio bridgeCounters := by
  have hbuildable : ¬ Unbuildable queued.data config := by
    rintro ⟨other, _, hother, hlong, -⟩
    obtain rfl := Except.ok.inj (Except.ok.inj (hparse.symm.trans hother))
    omega
  obtain ⟨error, hbuild⟩ := buildTxPacket_short hshort config.channel
    (applyProductionBridgeTxOverrides config.overrides config.channelBandwidth parsed.txOptions)
  obtain ⟨handled, hhandled, hsession, hcounters⟩ :=
    handled_unbuilt radio.session bridgeCounters radio.submitCounters hparse hbuild
  refine ⟨handled, _, _, _, hhandled, submitTxDatagram_short hparse hshort, by rw [hsession], fun _ => ?_,
    fun h => absurd h hbuildable⟩
  rw [hcounters, dropMalformed, satAdd_of_lt hroom.incoming, satAdd_of_lt hroom.dropped, satAdd_of_lt hroom.malformed]
  simp

variable (hlong : ieee80211MinHeaderLen ≤ parsed.ieee80211Frame.length) (hchannel : radio.channel = config.channel)
  (hadjust : buildTxPacket parsed.ieee80211Frame config.channel (radio.adjust parsed.txOptions) =
    buildTxPacket parsed.ieee80211Frame config.channel
      (applyProductionBridgeTxOverrides config.overrides config.channelBandwidth parsed.txOptions))

include hlong hchannel hadjust

/-- a frame that no packet can be built for -/
theorem bridgesAgree_unbuilt {error : Rtl8812auTxError} (hbuild : buildTxPacket parsed.ieee80211Frame config.channel
      (applyProductionBridgeTxOverrides config.overrides config.channelBandwidth parsed.txOptions) = .ok (.error error))
    (hroom : Room bridgeCounters) : BridgesAgree queued config radio bridgeCounters := by
  have hunbuildable : Unbuildable queued.data config := ⟨parsed, error, hparse, hlong, hbuild⟩
  have hunbuilt := hadjust.trans hbuild
  rw [← hchannel] at hunbuilt
  obtain ⟨reason, session, submitCounters, hsubmit, htransport⟩ :=
    submit80211Frame_unbuilt hunbuilt radio.session radio.submitCounters
  obtain ⟨handled, hhandled, hsession, hcounters⟩ :=
    handled_unbuilt radio.session bridgeCounters radio.submitCounters hparse hbuild
  refine ⟨handled, _, _, _, hhandled, submitTxDatagram_handed hparse hlong hsubmit, by rw [hsession, htransport],
    fun h => absurd hunbuildable h, fun _ => ?_⟩
  rw [hcounters, dropMalformed, satAdd_of_lt hroom.incoming, satAdd_of_lt hroom.dropped, satAdd_of_lt hroom.malformed]
  simp [handedCounters]

/-- a frame with a packet, whatever the transport does with it -/
theorem bridgesAgree_built {packet : List UInt8} (hbuild : buildTxPacket parsed.ieee80211Frame config.channel
      (applyProductionBridgeTxOverrides config.overrides config.channelBandwidth parsed.txOptions) = .ok (.ok packet))
    (hroom : Room bridgeCounters) : BridgesAgree queued config radio bridgeCounters := by
  have hbuildable : ¬ Unbuildable queued.data config := by
    rintro ⟨other, _, hother, -, hunbuilt⟩
    obtain rfl := Except.ok.inj (Except.ok.inj (hparse.symm.trans hother))
    cases hbuild.symm.trans hunbuilt
  obtain ⟨result, session, submitCounters, hsubmit⟩ := submit80211Frame_total radio.session parsed.ieee80211Frame
    config.channel (applyProductionBridgeTxOverrides config.overrides config.channelBandwidth parsed.txOptions)
    radio.submitCounters
  obtain ⟨handled, hhandled, hsession, hcounters⟩ :=
    handled_built radio.session bridgeCounters radio.submitCounters hparse hbuild hsubmit
  rw [← submit80211Frame_built hadjust, ← hchannel] at hsubmit
  refine ⟨handled, _, _, _, hhandled, submitTxDatagram_handed hparse hlong hsubmit, by rw [hsession], fun _ => ?_,
    fun h => absurd h hbuildable⟩
  rw [hcounters]
  cases result with
  | error error => rw [submittedCounters, handedCounters, satAdd_of_lt hroom.incoming, satAdd_of_lt hroom.dropped]
  | ok written => rw [submittedCounters, handedCounters, satAdd_of_lt hroom.incoming, satAdd_of_lt hroom.injected]

end Agreement

/-- **The two agree** on a radio that builds the packets of the handler. -/
theorem bridges_agree {τ : Type} [UsbBulkTransfer τ] {queued : ProductionRuntimeQueuedDatagram}
    {config : ProductionRuntimeBridgeTxConfig} {radio : BridgeTxSessionRadio τ} {bridgeCounters : TxCounters}
    (hchannel : radio.channel = config.channel)
    (hadjust : ∀ parsed, parseTxDatagram queued.data = .ok (.ok parsed) →
      buildTxPacket parsed.ieee80211Frame config.channel (radio.adjust parsed.txOptions) =
        buildTxPacket parsed.ieee80211Frame config.channel
          (applyProductionBridgeTxOverrides config.overrides config.channelBandwidth parsed.txOptions))
    (hroom : Room bridgeCounters) : BridgesAgree queued config radio bridgeCounters := by
  obtain ⟨result, hparse, -⟩ := parseTxDatagram_total queued.data
  cases result with
  | error error => exact bridgesAgree_unparsed hparse hroom
  | ok parsed =>
    rcases Nat.lt_or_ge parsed.ieee80211Frame.length ieee80211MinHeaderLen with hshort | hlong
    · exact bridgesAgree_short hparse hshort hroom
    · obtain ⟨built, hbuild⟩ := buildTxPacket_total parsed.ieee80211Frame config.channel
        (applyProductionBridgeTxOverrides config.overrides config.channelBandwidth parsed.txOptions)
      cases built with
      | error error => exact bridgesAgree_unbuilt hparse hlong hchannel (hadjust parsed hparse) hbuild hroom
      | ok packet => exact bridgesAgree_built hparse hlong hchannel (hadjust parsed hparse) hbuild hroom

/-- a datagram brings no channel bandwidth of its own -/
theorem parsed_channelBandwidth {packet : List UInt8} {parsed : ParsedTxDatagram}
    (h : parseTxDatagram packet = .ok (.ok parsed)) : parsed.txOptions.channelBandwidth = none := by
  cases grammar_of_parseTxDatagram h with
  | ht => rfl
  | vht => rfl

/-- a packet is built for the bandwidth of its frame where no channel bandwidth is given -/
theorem buildTxPacket_ownBandwidth (frame : List UInt8) (channel : Channel) {options : TxOptions}
    (hnone : options.channelBandwidth = none) :
    buildTxPacket frame channel { options with channelBandwidth := some options.bandwidth } =
      buildTxPacket frame channel options := by
  unfold buildTxPacket
  simp only [hnone]
  rfl

/-- **The two bridges agree** on one session while no counter is full: with any overrides, on the radio of the
diagnostics; and without overrides also on a bare session, where the bandwidth of the datagram is that of the channel.
They write the same, and differ in one place: the handler counts a frame without a packet as malformed. -/
theorem tx_bridges_agree {τ : Type} [UsbBulkTransfer τ] (session : RuntimeRadioSession τ)
    (queued : ProductionRuntimeQueuedDatagram) (config : ProductionRuntimeBridgeTxConfig) (bridgeCounters : TxCounters)
    (submitCounters : TxSubmitCounters) (hroom : Room bridgeCounters) :
    BridgesAgree queued config (overridingRadio session config submitCounters) bridgeCounters ∧
      (config.overrides = passThrough →
        (∀ parsed, parseTxDatagram queued.data = .ok (.ok parsed) → parsed.txOptions.bandwidth = config.channelBandwidth) →
        BridgesAgree queued config (bareRadio session config.channel submitCounters) bridgeCounters) := by
  refine ⟨bridges_agree rfl (fun _ _ => rfl) hroom, fun hoverrides hwidth => ?_⟩
  refine bridges_agree rfl (fun parsed hparse => ?_) hroom
  have hoptions : applyProductionBridgeTxOverrides config.overrides config.channelBandwidth parsed.txOptions =
      { parsed.txOptions with channelBandwidth := some parsed.txOptions.bandwidth } := by
    rw [hoverrides, hwidth parsed hparse]
    rfl
  rw [hoptions, buildTxPacket_ownBandwidth _ _ (parsed_channelBandwidth hparse)]
  rfl

theorem tx_bridges_agree_sample :
    BridgesAgree sampleDatagram ⟨⟨36, 5180, .ghz5⟩, .mhz20, passThrough⟩
        (overridingRadio sampleTxSession ⟨⟨36, 5180, .ghz5⟩, .mhz20, passThrough⟩ {}) {} ∧
      (passThrough = passThrough →
        (∀ parsed, parseTxDatagram sampleDatagram.data = .ok (.ok parsed) → parsed.txOptions.bandwidth = .mhz20) →
        BridgesAgree sampleDatagram ⟨⟨36, 5180, .ghz5⟩, .mhz20, passThrough⟩
          (bareRadio sampleTxSession ⟨36, 5180, .ghz5⟩ {}) {}) :=
  tx_bridges_agree sampleTxSession sampleDatagram ⟨⟨36, 5180, .ghz5⟩, .mhz20, passThrough⟩ {} {}
    ⟨by decide, by decide, by decide, by decide, by decide⟩

/-- the sample datagram for a channel of 40 MHz -/
def wideDatagram : ProductionRuntimeQueuedDatagram :=
  { sampleDatagram with
    data := [0, 0, 0, 1] ++ [0, 0, 13, 0, 0x00, 0x80, 0x08, 0x00, 0x08, 0x00, 0x37, 0x01, 0x01] ++
      [0x08, 0x01, 0, 0, 0xff, 0xff, 0xff, 0xff, 0xff, 0xff] }

/-- a frame of 40 MHz on a channel of 20: only the handler counts it as malformed. A counter that is full stays full in
the handler and starts again in the bridge. And a bare session writes another packet than the handler where the channel
is wider than the datagram. -/
theorem bridges_differ :
    (∃ handled outcome radio counters,
      handleProductionBridgeTxDatagram sampleTxSession wideDatagram ⟨⟨165, 5825, .ghz5⟩, .mhz20, passThrough⟩ {} {} =
          .ok handled ∧
        submitTxDatagram wideDatagram.data (bareRadio sampleTxSession ⟨165, 5825, .ghz5⟩ {}) {} =
          .ok (outcome, radio, counters) ∧
        handled.bridgeCounters.malformed = 1 ∧ counters.malformed = 0) ∧
    (∃ handled outcome radio counters,
      handleProductionBridgeTxDatagram sampleTxSession sampleDatagram ⟨⟨36, 5180, .ghz5⟩, .mhz20, passThrough⟩
          { incoming := UInt64.ofNat u64Max } {} = .ok handled ∧
        submitTxDatagram sampleDatagram.data (bareRadio sampleTxSession ⟨36, 5180, .ghz5⟩ {})
          { incoming := UInt64.ofNat u64Max } = .ok (outcome, radio, counters) ∧
        handled.bridgeCounters.incoming.toNat = u64Max ∧ counters.incoming = 0) ∧
    (∃ handled outcome radio counters,
      handleProductionBridgeTxDatagram sampleTxSession sampleDatagram ⟨⟨36, 5180, .ghz5⟩, .mhz40, passThrough⟩ {} {} =
          .ok handled ∧
        submitTxDatagram sampleDatagram.data (bareRadio sampleTxSession ⟨36, 5180, .ghz5⟩ {}) {} =
          .ok (outcome, radio, counters) ∧
        handled.session.transport.events ≠ radio.session.transport.events) :=
  ⟨⟨_, _, _, _, rfl, rfl, by decide +kernel, by decide +kernel⟩,
    ⟨_, _, _, _, rfl, rfl, by decide +kernel, by decide +kernel⟩,
    ⟨_, _, _, _, rfl, rfl, by decide +kernel⟩⟩

end WfbLink.Runtime
