/-
Payloads over WFB frames: the data header (`build_wfb_data_header`), and what a forward target makes of a frame.

A channel id made by `WfbChannelId::new` has 24 bits of link id and 8 bits of radio port, so its four bytes name exactly
this link and this port. A frame whose header was built for a channel therefore passes the check of a target with this
channel, and of no other.

- `extractWfbPayload_header`: which targets see the payload.
- `buildRxForwardDatagram_spec`: one datagram and one counter for every frame.
-/
import WfbLink.Bridge.RxForward

namespace WfbLink.Bridge

open WfbLink.Core WfbLink.RadioCore

/-! ## Channel ids -/

/-- what `WfbChannelId::new` has checked -/
def WfbChannelId.Valid (id : WfbChannelId) : Prop := id.linkId ≤ 0x00ffffff

instance (id : WfbChannelId) : Decidable id.Valid := inferInstanceAs (Decidable (id.linkId ≤ 0x00ffffff))

theorem WfbChannelId.valid_of_new {linkId : UInt32} {radioPort : UInt8} {id : WfbChannelId}
    (h : WfbChannelId.new linkId radioPort = .ok id) : id.Valid := by
  unfold WfbChannelId.new at h
  split_ifs at h with hwide
  cases h
  exact UInt32.not_lt.1 hwide

theorem WfbChannelId.raw_toNat {id : WfbChannelId} (h : id.Valid) :
    id.raw.toNat = id.linkId.toNat * 2 ^ 8 + id.radioPort.toNat := by
  have hlink : id.linkId.toNat ≤ 0x00ffffff := UInt32.le_iff_toNat_le.1 h
  have hport := id.radioPort.toNat_lt
  have hshift : id.linkId.toNat <<< 8 % 2 ^ 32 = id.linkId.toNat <<< 8 := by
    rw [Nat.shiftLeft_eq]
    omega
  rw [WfbChannelId.raw, UInt32.toNat_or, UInt32.toNat_shiftLeft, UInt8.toNat_toUInt32]
  rw [show (8 : UInt32).toNat % 32 = 8 from rfl, hshift, ← Nat.shiftLeft_add_eq_or_of_lt hport, Nat.shiftLeft_eq]

theorem toBeU32_inj {m n : ℕ} (hm : m < 2 ^ 32) (hn : n < 2 ^ 32) (h : toBeU32 m = toBeU32 n) : m = n := by
  have hbytes : toLeU32 m = toLeU32 n := List.reverse_inj.1 h
  simp only [toLeU32, List.cons.injEq, and_true] at hbytes
  obtain ⟨h0, h1, h2, h3⟩ := hbytes
  rw [← leU32_toLe hm, ← leU32_toLe hn, h0, h1, h2, h3]

/-- **A channel id is its bytes.** -/
theorem WfbChannelId.rawBeBytes_inj {a b : WfbChannelId} (ha : a.Valid) (hb : b.Valid)
    (h : a.rawBeBytes = b.rawBeBytes) : a = b := by
  have hraw : a.raw.toNat = b.raw.toNat := toBeU32_inj a.raw.toNat_lt b.raw.toNat_lt h
  rw [raw_toNat ha, raw_toNat hb] at hraw
  have haport := a.radioPort.toNat_lt
  have hbport := b.radioPort.toNat_lt
  have hlink : a.linkId = b.linkId := UInt32.toNat_inj.1 (by omega)
  have hport : a.radioPort = b.radioPort := UInt8.toNat_inj.1 (by omega)
  cases a
  cases b
  exact congrArg₂ _ hlink hport

/-! ## The data header -/

/-- the 24 bytes of a data frame to everyone, with the channel in both addresses -/
def buildWfbDataHeader (channelId : WfbChannelId) (sequence : UInt16) : List UInt8 :=
  [0x08, 0x01, 0x00, 0x00, 0xff, 0xff, 0xff, 0xff, 0xff, 0xff] ++ wfbMacPrefix ++ channelId.rawBeBytes ++ wfbMacPrefix ++
    channelId.rawBeBytes ++ toLeU16 sequence.toNat

theorem buildWfbDataHeader_length (channelId : WfbChannelId) (sequence : UInt16) :
    (buildWfbDataHeader channelId sequence).length = wfbIeee80211HeaderLen := rfl

/-- a slice of the header, whatever follows it -/
theorem slice_header (channelId : WfbChannelId) (sequence : UInt16) (payload : List UInt8) {a b : ℕ} (hab : a ≤ b)
    (hb : b ≤ 24) :
    slice (buildWfbDataHeader channelId sequence ++ payload) a b =
      .ok (((buildWfbDataHeader channelId sequence).drop a).take (b - a)) := by
  have hlen : (buildWfbDataHeader channelId sequence).length = 24 := rfl
  rw [slice_ok hab (by rw [List.length_append]; omega), List.drop_append_of_le_length (by omega),
    List.take_append_of_le_length (by rw [List.length_drop]; omega)]

/-- **Who sees the payload.** A frame built for a channel is accepted for this channel only. -/
theorem extractWfbPayload_header {channelId expected : WfbChannelId} (hchannel : channelId.Valid)
    (hexpected : expected.Valid) (sequence : UInt16) (payload : List UInt8) :
    extractWfbPayload (buildWfbDataHeader channelId sequence ++ payload) expected =
      .ok (if expected = channelId then .ok payload else .error .channelIdMismatch) := by
  have hlen : (buildWfbDataHeader channelId sequence).length = wfbIeee80211HeaderLen := rfl
  have hlong : ¬ (buildWfbDataHeader channelId sequence ++ payload).length < wfbIeee80211HeaderLen := by
    rw [List.length_append, hlen]
    omega
  have hvalid : validateWfbHeader (buildWfbDataHeader channelId sequence ++ payload) expected =
      .ok (if expected = channelId then .ok () else .error .channelIdMismatch) := by
    have hsrcPrefix : slice (buildWfbDataHeader channelId sequence ++ payload) srcMacPrefixOffset
        (srcMacPrefixOffset + 2) = .ok wfbMacPrefix := slice_header _ _ _ (by decide) (by decide)
    have hdstPrefix : slice (buildWfbDataHeader channelId sequence ++ payload) dstMacPrefixOffset
        (dstMacPrefixOffset + 2) = .ok wfbMacPrefix := slice_header _ _ _ (by decide) (by decide)
    have hsrcChannel : slice (buildWfbDataHeader channelId sequence ++ payload) srcChannelIdOffset
        (srcChannelIdOffset + 4) = .ok channelId.rawBeBytes := slice_header _ _ _ (by decide) (by decide)
    have hdstChannel : slice (buildWfbDataHeader channelId sequence ++ payload) dstChannelIdOffset
        (dstChannelIdOffset + 4) = .ok channelId.rawBeBytes := slice_header _ _ _ (by decide) (by decide)
    rw [validateWfbHeader, if_neg hlong, hsrcPrefix, checked_bind_ok, hdstPrefix, checked_bind_ok,
      if_neg (by simp), hsrcChannel, checked_bind_ok, hdstChannel, checked_bind_ok]
    by_cases heq : expected = channelId
    · rw [if_pos heq, heq, if_neg (by simp)]
      rfl
    · rw [if_neg heq]
      refine if_pos (.inl fun hbytes => heq ?_)
      exact (WfbChannelId.rawBeBytes_inj hchannel hexpected hbytes).symm
  rw [extractWfbPayload, hvalid, checked_bind_ok]
  by_cases heq : expected = channelId
  · rw [if_pos heq, if_pos heq]
    dsimp only
    rw [slice_to_end (Nat.not_lt.1 hlong), ← hlen, List.drop_left]
    rfl
  · rw [if_neg heq, if_neg heq]
    rfl

theorem extractWfbPayload_short {frame : List UInt8} (h : frame.length < wfbIeee80211HeaderLen) (expected : WfbChannelId) :
    extractWfbPayload frame expected = .ok (.error (.tooShort frame.length)) := by
  rw [extractWfbPayload, validateWfbHeader, if_pos h]
  rfl

/-! ## Datagrams -/

/-- the result of the check, which cannot panic -/
def wfbPayload (frame : List UInt8) (expected : WfbChannelId) : Except WfbFrameError (List UInt8) :=
  match extractWfbPayload frame expected with
  | .ok result => result
  | .error _ => .error .prefixMismatch

theorem extractWfbPayload_eq (frame : List UInt8) (expected : WfbChannelId) :
    extractWfbPayload frame expected = .ok (wfbPayload frame expected) := by
  obtain ⟨result, h⟩ := extractWfbPayload_total frame expected
  rw [wfbPayload, h]

/-- what a target counts a frame as -/
inductive RxVerdict where
  | matched
  | filtered
  | malformed
deriving DecidableEq, Repr

def rxVerdict (config : RxForwardConfig) (frame : RxFrame) : RxVerdict :=
  match wfbPayload frame.data config.channelId with
  | .ok _ => .matched
  | .error .prefixMismatch | .error .channelIdMismatch => .filtered
  | .error (.tooShort _) | .error (.invalidLinkId _) => .malformed

def RxCounters.observe (counters : RxCounters) (verdict : RxVerdict) : RxCounters :=
  { counters with
    received := counters.received + 1
    matched := if verdict = .matched then counters.matched + 1 else counters.matched
    filtered := if verdict = .filtered then counters.filtered + 1 else counters.filtered
    malformed := if verdict = .malformed then counters.malformed + 1 else counters.malformed }

def rxForwardHeader (config : RxForwardConfig) (frame : RxFrame) : WfbForwardHeader :=
  .singleAntennaWithNoise config.wlanIdx frame.rssiDbm frame.noiseDbm frame.channel.frequencyMhz
    ((rxForwardMcsIndex frame).getD config.mcsIndex)
    ((frame.rxBandwidth.map fun bandwidth => bandwidth.mhz.toUInt8).getD config.bandwidthMhz)

/-- the datagram of a frame for a target, if the frame is for the target -/
def rxForwardDatagram (config : RxForwardConfig) (frame : RxFrame) : Option (List UInt8) :=
  (wfbPayload frame.data config.channelId).toOption.map (rxForwardHeader config frame).prependToPayload

/-- **One verdict per frame.** It decides the datagram and the counters. -/
theorem buildRxForwardDatagram_spec (frame : RxFrame) (config : RxForwardConfig) (counters : RxCounters) :
    buildRxForwardDatagram frame config counters =
      .ok (rxForwardDatagram config frame, counters.observe (rxVerdict config frame)) := by
  rw [buildRxForwardDatagram, extractWfbPayload_eq, checked_bind_ok]
  unfold rxForwardDatagram rxVerdict
  cases hpayload : wfbPayload frame.data config.channelId with
  | ok payload => rfl
  | error error => cases error <;> rfl

theorem rxForwardHeader_length (config : RxForwardConfig) (frame : RxFrame) :
    (rxForwardHeader config frame).toBytes.length = 17 := rfl

/-- there is a datagram where the frame has matched -/
theorem rxForwardDatagram_isSome (config : RxForwardConfig) (frame : RxFrame) :
    (rxForwardDatagram config frame).isSome = true ↔ rxVerdict config frame = .matched := by
  unfold rxForwardDatagram rxVerdict
  cases hpayload : wfbPayload frame.data config.channelId with
  | ok payload => exact iff_of_true rfl rfl
  | error error => cases error <;> exact iff_of_false Bool.false_ne_true nofun

section Frames

variable {channelId : WfbChannelId} {config : RxForwardConfig} {frame : RxFrame} {sequence : UInt16}
  {payload : List UInt8}

/-- **The payload arrives** behind 17 bytes of forward header, at a target with this channel. -/
theorem rxForward_matching (hchannel : channelId.Valid)
    (hdata : frame.data = buildWfbDataHeader channelId sequence ++ payload) (hconfig : config.channelId = channelId) :
    rxForwardDatagram config frame = some ((rxForwardHeader config frame).toBytes ++ payload) ∧
      rxVerdict config frame = .matched := by
  have hpayload : wfbPayload frame.data config.channelId = .ok payload := by
    rw [wfbPayload, hdata, hconfig, extractWfbPayload_header hchannel hchannel, if_pos rfl]
  unfold rxForwardDatagram rxVerdict
  rw [hpayload]
  exact ⟨rfl, rfl⟩

theorem rxForward_other (hchannel : channelId.Valid) (hvalid : config.channelId.Valid)
    (hdata : frame.data = buildWfbDataHeader channelId sequence ++ payload) (hconfig : config.channelId ≠ channelId) :
    rxForwardDatagram config frame = none ∧ rxVerdict config frame = .filtered := by
  have hpayload : wfbPayload frame.data config.channelId = .error .channelIdMismatch := by
    rw [wfbPayload, hdata, extractWfbPayload_header hchannel hvalid, if_neg hconfig]
  unfold rxForwardDatagram rxVerdict
  rw [hpayload]
  exact ⟨rfl, rfl⟩

theorem rxForward_short (hshort : frame.data.length < wfbIeee80211HeaderLen) :
    rxForwardDatagram config frame = none ∧ rxVerdict config frame = .malformed := by
  have hpayload : wfbPayload frame.data config.channelId = .error (.tooShort frame.data.length) := by
    rw [wfbPayload, extractWfbPayload_short hshort]
  unfold rxForwardDatagram rxVerdict
  rw [hpayload]
  exact ⟨rfl, rfl⟩

end Frames

end WfbLink.Bridge
