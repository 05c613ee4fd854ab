/-
The TX packet builder (`build_tx_packet` and `submit_tx_frame` in `radio-core/src/rtl8812au.rs`).

A TX packet is a 40-byte descriptor, the frame, and one zero byte where the packet would otherwise end on a 512-byte
boundary. The descriptor carries the length of what follows it and a checksum over its first 32 bytes, written last.

- `buildTxPacket_encodes`: what every packet the builder returns looks like (`TxEncodes`).
- `buildTxPacket_ok`: when it returns one.
- `buildTxPacket_lengthExact_iff`: for which frames the length field is right.
- `submitTxFrame_recorded`: submitting a frame writes nothing, or exactly the packet the builder returns.
-/
import WfbLink.Core.Checksum
import WfbLink.RadioCore.Frame
import WfbLink.RadioCore.Rate
import WfbLink.RadioCore.Usb

namespace WfbLink.RadioCore

open WfbLink.Core

def txDescSize : ℕ := 40
def usb2BulkPacketSize : ℕ := 512
/-- 500 ms -/
def defaultTimeout : ℕ := 500000000

def qsltBe : UInt8 := 0x00
def qsltBk : UInt8 := 0x02
def qsltVi : UInt8 := 0x05
def qsltVo : UInt8 := 0x07
def qsltHigh : UInt8 := 0x11
def qsltMgnt : UInt8 := 0x12

def vhtDataScDonotCare : UInt8 := 0
def vhtDataSc20UpperOf80mhz : UInt8 := 1
def vhtDataSc20LowerOf80mhz : UInt8 := 2
def vhtDataSc20UpperstOf80mhz : UInt8 := 3
def vhtDataSc20LowestOf80mhz : UInt8 := 4
def vhtDataSc40UpperOf80mhz : UInt8 := 9
def vhtDataSc40LowerOf80mhz : UInt8 := 10

/-! ## Secondary channels -/

def txPrimary20Of40 (channel : Channel) : Except Rtl8812auTxError UInt8 :=
  match channel.band with
  | .ghz5 =>
    if channel.number % 8 = 4 then .ok vhtDataSc20LowerOf80mhz
    else if channel.number % 8 = 0 then .ok vhtDataSc20UpperOf80mhz
    else .error (.unsupportedBandwidth channel.number Bandwidth.mhz40.mhz)
  | .ghz2 =>
    if 1 ≤ channel.number ∧ channel.number ≤ 7 then .ok vhtDataSc20LowerOf80mhz
    else if 8 ≤ channel.number ∧ channel.number ≤ 13 then .ok vhtDataSc20UpperOf80mhz
    else .error (.unsupportedBandwidth channel.number Bandwidth.mhz40.mhz)

def txDataSecondaryChannel (channel : Channel) (channelBandwidth frameBandwidth : Bandwidth) :
    Except Rtl8812auTxError UInt8 :=
  match channelBandwidth, frameBandwidth with
  | .mhz20, .mhz20 | .mhz40, .mhz40 | .mhz80, .mhz80 => .ok vhtDataScDonotCare
  | .mhz40, .mhz20 => txPrimary20Of40 channel
  | .mhz80, .mhz40 =>
    if channel.number ∈ [36, 40, 52, 56, 100, 104, 116, 120, 132, 136, 149, 153] then
      .ok vhtDataSc40LowerOf80mhz
    else if channel.number ∈ [44, 48, 60, 64, 108, 112, 124, 128, 140, 144, 157, 161] then
      .ok vhtDataSc40UpperOf80mhz
    else .error (.unsupportedBandwidth channel.number channelBandwidth.mhz)
  | .mhz80, .mhz20 =>
    if channel.number ∈ [36, 52, 100, 116, 132, 149] then .ok vhtDataSc20LowestOf80mhz
    else if channel.number ∈ [40, 56, 104, 120, 136, 153] then .ok vhtDataSc20LowerOf80mhz
    else if channel.number ∈ [44, 60, 108, 124, 140, 157] then .ok vhtDataSc20UpperOf80mhz
    else if channel.number ∈ [48, 64, 112, 128, 144, 161] then .ok vhtDataSc20UpperstOf80mhz
    else .error (.unsupportedBandwidth channel.number channelBandwidth.mhz)
  | _, _ => .error (.unsupportedBandwidth channel.number frameBandwidth.mhz)

/-! ## The descriptor -/

def txDescriptorChecksum (first32Bytes : List UInt8) : ℕ := xorWords (leWords first32Bytes)

/-- `1 << n` -/
def bit (n : UInt8) : UInt8 := 1 <<< n

/-- the bits that an `if` adds to a zeroed byte -/
def setIf (condition : Bool) (bits : UInt8) : UInt8 := if condition then bits else 0

def autoQsel : FrameType → UInt8
  | .management => qsltMgnt
  | .control => qsltVo
  | .data => qsltBe
  | .extension => qsltMgnt

def txQsel (type : FrameType) : TxQueue → UInt8
  | .auto => autoQsel type
  | .be => qsltBe
  | .bk => qsltBk
  | .vi => qsltVi
  | .vo => qsltVo
  | .high => qsltHigh
  | .mgnt => qsltMgnt

/-- the length of the frame on the wire: one pad byte where the packet would end on a bulk packet boundary -/
def txFrameLenForUsb (frameLen : ℕ) : ℕ :=
  if (frameLen + txDescSize) % usb2BulkPacketSize = 0 then frameLen + 1 else frameLen

/-- the descriptor before its checksum is known: the sequence number is that of the frame where software sets it -/
def txDescriptor (frameLenForUsb : ℕ) (bmc : Bool) (type : FrameType) (rate secondaryChannel : UInt8)
    (sequence : Option ℕ) (opts : TxOptions) : List UInt8 :=
  let retries := if opts.noRetry then 0 else min opts.retries 63
  let bandwidthBits : UInt8 := match opts.bandwidth with
    | .mhz20 => 0
    | .mhz40 => bit 5
    | .mhz80 => (2 : UInt8) <<< 5
  [ -- 0x00
    UInt8.ofNat (frameLenForUsb &&& 0xff), UInt8.ofNat ((frameLenForUsb >>> 8) &&& 0xff), UInt8.ofNat txDescSize,
    bit 2 ||| bit 7 ||| setIf opts.firstSegment (bit 3) ||| setIf bmc (bit 0),
    -- 0x04
    opts.macId &&& 0x7f, txQsel type opts.queue &&& 0x1f, opts.rateId.getD (defaultRateId opts.rate) &&& 0x1f, 0,
    -- 0x08
    0, 0, setIf (type = .data && opts.aggregateBreak) (bit 0), 0,
    -- 0x0c
    0, bit 0 ||| setIf opts.disableRateFallback (bit 2) ||| setIf opts.protect (bit 4 ||| bit 5), 0, 0,
    -- 0x10
    rate &&& 0x7f, opts.rateFallbackLimit &&& 0x1f, bit 1 ||| ((retries &&& 0x3f) <<< 2), setIf opts.protect 0x04,
    -- 0x14
    secondaryChannel ||| bandwidthBits ||| setIf opts.shortGi (bit 4) ||| setIf opts.ldpc (bit 7),
    setIf opts.stbc (bit 0), 0, 0,
    -- 0x18
    0, 0, 0, 0,
    -- 0x1c: the checksum
    0, 0, 0, 0,
    -- 0x20
    0, setIf opts.hardwareSequence (bit 7), 0, 0,
    -- 0x24
    0, UInt8.ofNat (((sequence.getD 0) &&& 0x000f) <<< 4), UInt8.ofNat ((sequence.getD 0) >>> 4), 0 ]

/-- `packet[at..at + bytes.len()].copy_from_slice(bytes)` -/
def copyFromSlice (packet : List UInt8) (start : ℕ) (bytes : List UInt8) : List UInt8 :=
  packet.take start ++ bytes ++ packet.drop (start + bytes.length)

/-- the last steps of the builder: room for the frame, the checksum, and then the frame -/
def finishTxPacket (descriptor frame : List UInt8) : List UInt8 :=
  let packet := descriptor ++ List.replicate (txFrameLenForUsb frame.length) 0
  let packet := copyFromSlice packet 0x1c (toLeU16 (txDescriptorChecksum (packet.take 32)))
  copyFromSlice packet txDescSize frame

/-- the sequence number of a frame with a whole header, where the hardware does not choose it -/
def txSequence (frame : List UInt8) (opts : TxOptions) : Checked (Option ℕ) :=
  if opts.hardwareSequence = false ∧ 24 ≤ frame.length then do
    let low ← index frame 22
    let high ← index frame 23
    return some ((leU16 low high >>> 4) &&& 0x0fff)
  else return none

def buildTxPacket (frame : List UInt8) (channel : Channel) (opts : TxOptions) :
    Checked (Except Rtl8812auTxError (List UInt8)) :=
  match validateIeee80211Frame frame with
  | .error error => return .error (.frame error)
  | .ok () =>
    if ¬ channel.supportsBandwidth opts.bandwidth then
      return .error (.unsupportedBandwidth channel.number opts.bandwidth.mhz)
    else
      match txRateToHw opts.rate channel with
      | .error error => return .error error
      | .ok rate => do
        let first ← index frame 4
        match ← frameType frame with
        | .error error => return .error (.frame error)
        | .ok type =>
          match txDataSecondaryChannel channel (opts.channelBandwidth.getD opts.bandwidth) opts.bandwidth with
          | .error error => return .error error
          | .ok secondaryChannel => do
            let sequence ← txSequence frame opts
            let descriptor := txDescriptor (txFrameLenForUsb frame.length) (first &&& 0x01 != 0) type rate
              secondaryChannel sequence opts
            return .ok (finishTxPacket descriptor frame)

theorem txSequence_total (frame : List UInt8) (opts : TxOptions) : ∃ sequence, txSequence frame opts = .ok sequence := by
  unfold txSequence
  split_ifs with h
  · have h22 : 22 < frame.length := by omega
    have h23 : 23 < frame.length := by omega
    rw [index_of_lt h22, checked_bind_ok, index_of_lt h23]
    exact ⟨_, rfl⟩
  · exact ⟨_, rfl⟩

/-! ## What a packet looks like -/

/-- the packet of a frame -/
structure TxEncodes (frame packet : List UInt8) : Prop where
  layout : ∃ descriptor pad, packet = descriptor ++ frame ++ pad ∧ descriptor.length = txDescSize ∧
    pad.length ≤ 1 ∧ ∀ b ∈ pad, b = 0
  lengthField : ∃ low high, packet[0]? = some low ∧ packet[1]? = some high ∧
    leU16 low high = packet.length - txDescSize
  checksum : xorWords (leWords (packet.take 32)) = 0
  boundary : packet.length % usb2BulkPacketSize ≠ 0
  broadcast : ∃ flags first, packet[3]? = some flags ∧ frame[4]? = some first ∧ flags &&& 1 = first &&& 1

theorem txFrameLenForUsb_eq (frameLen : ℕ) :
    ∃ pad, txFrameLenForUsb frameLen = frameLen + pad ∧ pad ≤ 1 ∧ (frameLen + pad + txDescSize) % usb2BulkPacketSize ≠ 0 := by
  unfold txFrameLenForUsb
  split_ifs with h
  · refine ⟨1, rfl, le_rfl, ?_⟩
    unfold usb2BulkPacketSize at *
    omega
  · exact ⟨0, rfl, Nat.zero_le 1, h⟩

/-- the two bytes of the length field, read back -/
theorem leU16_lengthBytes {n : ℕ} (h : n < 2 ^ 16) :
    leU16 (UInt8.ofNat (n &&& 0xff)) (UInt8.ofNat ((n >>> 8) &&& 0xff)) = n := by
  have hlow : n &&& 0xff = n % 2 ^ 8 := Nat.and_two_pow_sub_one_eq_mod n 8
  have hhigh : (n >>> 8) &&& 0xff = n / 2 ^ 8 % 2 ^ 8 := by
    rw [Nat.and_two_pow_sub_one_eq_mod _ 8, Nat.shiftRight_eq_div_pow]
  simp only [leU16, UInt8.toNat_ofNat', hlow, hhigh]
  omega

theorem or_and_one (a b : UInt8) : (a ||| b) &&& 1 = (a &&& 1) ||| (b &&& 1) := by
  apply UInt8.toNat_inj.1
  simp only [UInt8.toNat_and, UInt8.toNat_or, Nat.and_or_distrib_right]

/-- the broadcast bit is the lowest of the flags byte, and no other flag touches it -/
theorem broadcastBit (first : UInt8) (firstSegment : Bool) :
    (bit 2 ||| bit 7 ||| setIf firstSegment (bit 3) ||| setIf (first &&& 0x01 != 0) (bit 0)) &&& 1 = first &&& 1 := by
  have hbmc : setIf (first &&& 0x01 != 0) (bit 0) = first &&& 1 := by
    have hone : (first &&& 1).toNat = first.toNat % 2 := by
      rw [UInt8.toNat_and]
      exact Nat.and_one_is_mod _
    rcases Nat.mod_two_eq_zero_or_one first.toNat with h | h
    · have hzero : first &&& 1 = 0 := UInt8.toNat_inj.1 (hone.trans h)
      rw [hzero]; rfl
    · have hset : first &&& 1 = 1 := UInt8.toNat_inj.1 (hone.trans h)
      rw [hset]; rfl
  have hothers : (bit 2 ||| bit 7 ||| setIf firstSegment (bit 3)) &&& 1 = 0 := by cases firstSegment <;> rfl
  rw [hbmc, or_and_one, hothers, UInt8.and_assoc, UInt8.and_self, UInt8.zero_or]

variable {frame : List UInt8}

/-- the last steps of the builder on a 40-byte descriptor whose checksum field is zero -/
theorem finishTxPacket_eq {before after rest : List UInt8} (hbefore : before.length = 28) (hafter : after.length = 2)
    (hrest : rest.length = 8) {pad : ℕ} (hpad : txFrameLenForUsb frame.length = frame.length + pad) :
    finishTxPacket (before ++ [0, 0] ++ after ++ rest) frame =
      before ++ toLeU16 (txDescriptorChecksum (before ++ [0, 0] ++ after)) ++ after ++ rest ++ frame ++
        List.replicate pad 0 := by
  have htake : (before ++ [0, 0] ++ after ++ rest ++ List.replicate (frame.length + pad) (0 : UInt8)).take 32 =
      before ++ [0, 0] ++ after := by
    rw [List.append_assoc, List.take_left']
    simp [hbefore, hafter]
  have hsum : ∀ field : List UInt8, field.length = 2 →
      copyFromSlice (before ++ [0, 0] ++ after ++ rest ++ List.replicate (frame.length + pad) 0) 0x1c field =
        before ++ field ++ after ++ rest ++ List.replicate (frame.length + pad) 0 := by
    intro field hfield
    have hassoc : before ++ [0, 0] ++ after ++ rest ++ List.replicate (frame.length + pad) (0 : UInt8) =
        before ++ ([0, 0] ++ (after ++ rest ++ List.replicate (frame.length + pad) 0)) := by
      simp only [List.append_assoc]
    have hdrop : ∀ tail : List UInt8, ([0, 0] ++ tail).drop 2 = tail := fun _ => rfl
    rw [copyFromSlice, hassoc, List.take_left' hbefore, hfield, ← List.drop_drop, List.drop_left' hbefore, hdrop]
    simp only [List.append_assoc]
  have hframe : ∀ field : List UInt8, field.length = 2 →
      copyFromSlice (before ++ field ++ after ++ rest ++ List.replicate (frame.length + pad) 0) txDescSize frame =
        before ++ field ++ after ++ rest ++ frame ++ List.replicate pad 0 := by
    intro field hfield
    have hlen : (before ++ field ++ after ++ rest).length = txDescSize := by
      simp [hbefore, hfield, hafter, hrest, txDescSize]
    rw [copyFromSlice, List.take_left' hlen, ← List.drop_drop, List.drop_left' hlen, List.drop_replicate,
      Nat.add_sub_cancel_left]
  rw [finishTxPacket, hpad, htake, hsum _ rfl, hframe _ rfl]

theorem finishTxPacket_encodes {frameLenForUsb : ℕ} {first : UInt8} {type : FrameType} {rate secondaryChannel : UInt8}
    {sequence : Option ℕ} {opts : TxOptions} (hfirst : frame[4]? = some first)
    (hlen : frame.length + 1 < 2 ^ 16) (husb : frameLenForUsb = txFrameLenForUsb frame.length) :
    TxEncodes frame (finishTxPacket
      (txDescriptor frameLenForUsb (first &&& 0x01 != 0) type rate secondaryChannel sequence opts) frame) := by
  obtain ⟨pad, hpad, hpad1, hboundary⟩ := txFrameLenForUsb_eq frame.length
  set descriptor := txDescriptor frameLenForUsb (first &&& 0x01 != 0) type rate secondaryChannel sequence opts
  have hparts : descriptor = descriptor.take 28 ++ [0, 0] ++ (descriptor.drop 30).take 2 ++ descriptor.drop 32 := rfl
  have hpacket := @finishTxPacket_eq frame (descriptor.take 28) ((descriptor.drop 30).take 2) (descriptor.drop 32)
    rfl rfl rfl pad hpad
  rw [← hparts] at hpacket
  set sum := toLeU16 (txDescriptorChecksum (descriptor.take 28 ++ [0, 0] ++ (descriptor.drop 30).take 2)) with hsum
  have hhead : (descriptor.take 28 ++ sum ++ (descriptor.drop 30).take 2 ++ descriptor.drop 32).length = txDescSize :=
    rfl
  have hlen28 : (descriptor.take 28).length = 28 := rfl
  have heven : (descriptor.take 28).length % 2 = 0 := by rw [hlen28]
  rw [hpacket]
  refine ⟨⟨_, _, rfl, hhead, ?_, ?_⟩, ?_, ?_, ?_, ?_⟩
  · rw [List.length_replicate]
    exact hpad1
  · exact fun b hb => List.eq_of_mem_replicate hb
  · refine ⟨_, _, rfl, rfl, ?_⟩
    rw [leU16_lengthBytes (by rw [husb, hpad]; omega), List.length_append, List.length_append, hhead,
      List.length_replicate, husb, hpad]
    omega
  · have htake : (descriptor.take 28 ++ sum ++ (descriptor.drop 30).take 2 ++ descriptor.drop 32 ++ frame ++
        List.replicate pad 0).take 32 = descriptor.take 28 ++ sum ++ (descriptor.drop 30).take 2 := rfl
    rw [htake]
    exact xorWords_store heven _
  · rw [List.length_append, List.length_append, hhead, List.length_replicate]
    have hcomm : txDescSize + frame.length + pad = frame.length + pad + txDescSize := by omega
    rw [hcomm]
    exact hboundary
  · exact ⟨_, first, rfl, hfirst, broadcastBit first opts.firstSegment⟩

/-! ## The builder -/

/-- the builder on a frame that is long enough: three checks, and then the packet -/
theorem buildTxPacket_long (hlen : ieee80211MinHeaderLen ≤ frame.length) (channel : Channel) (opts : TxOptions) :
    ∃ first type sequence, frame[4]? = some first ∧ buildTxPacket frame channel opts =
      .ok (if ¬ channel.supportsBandwidth opts.bandwidth then
          .error (.unsupportedBandwidth channel.number opts.bandwidth.mhz)
        else do
          let rate ← txRateToHw opts.rate channel
          let secondaryChannel ←
            txDataSecondaryChannel channel (opts.channelBandwidth.getD opts.bandwidth) opts.bandwidth
          return finishTxPacket (txDescriptor (txFrameLenForUsb frame.length) (first &&& 0x01 != 0) type rate
            secondaryChannel sequence opts) frame) := by
  have h4 : 4 < frame.length := lt_of_lt_of_le (by decide) hlen
  obtain ⟨type, htype⟩ := frameType_ok hlen
  obtain ⟨sequence, hsequence⟩ := txSequence_total frame opts
  refine ⟨frame[4], type, sequence, List.getElem?_eq_getElem h4, ?_⟩
  rw [buildTxPacket, validateIeee80211Frame_ok hlen]
  by_cases hband : channel.supportsBandwidth opts.bandwidth
  · rw [if_neg (not_not.2 hband)]
    dsimp only
    rw [if_neg (not_not.2 hband)]
    cases txRateToHw opts.rate channel with
    | error error => rfl
    | ok rate =>
      dsimp only
      rw [index_of_lt h4, checked_bind_ok, htype, checked_bind_ok]
      dsimp only
      cases txDataSecondaryChannel channel (opts.channelBandwidth.getD opts.bandwidth) opts.bandwidth with
      | error error => rfl
      | ok secondaryChannel =>
        dsimp only
        rw [hsequence]
        rfl
  · rw [if_pos hband]
    dsimp only
    rw [if_pos hband]
    rfl

theorem buildTxPacket_short (hlen : frame.length < ieee80211MinHeaderLen) (channel : Channel) (opts : TxOptions) :
    ∃ error, buildTxPacket frame channel opts = .ok (.error error) := by
  rw [buildTxPacket, validateIeee80211Frame, if_pos hlen]
  exact ⟨_, rfl⟩

/-- the builder reads nothing out of range -/
theorem buildTxPacket_total (frame : List UInt8) (channel : Channel) (opts : TxOptions) :
    ∃ result, buildTxPacket frame channel opts = .ok result := by
  rcases Nat.lt_or_ge frame.length ieee80211MinHeaderLen with hlen | hlen
  · obtain ⟨error, h⟩ := buildTxPacket_short hlen channel opts
    exact ⟨_, h⟩
  · obtain ⟨first, type, sequence, _, h⟩ := buildTxPacket_long hlen channel opts
    exact ⟨_, h⟩

/-- what a frame can be sent with, whatever its bytes are -/
structure Buildable (channel : Channel) (opts : TxOptions) : Prop where
  bandwidth : channel.supportsBandwidth opts.bandwidth = true
  rate : ∃ rate, txRateToHw opts.rate channel = .ok rate
  secondaryChannel : ∃ secondaryChannel, txDataSecondaryChannel channel
    (opts.channelBandwidth.getD opts.bandwidth) opts.bandwidth = .ok secondaryChannel

/-- a packet that the builder returned -/
theorem buildTxPacket_returned {channel : Channel} {opts : TxOptions} {packet : List UInt8}
    (h : buildTxPacket frame channel opts = .ok (.ok packet)) : Buildable channel opts ∧
      ∃ first type rate secondaryChannel sequence, frame[4]? = some first ∧
        packet = finishTxPacket (txDescriptor (txFrameLenForUsb frame.length) (first &&& 0x01 != 0) type rate
          secondaryChannel sequence opts) frame := by
  rcases Nat.lt_or_ge frame.length ieee80211MinHeaderLen with hshort | hlong
  · obtain ⟨error, herror⟩ := buildTxPacket_short hshort channel opts
    rw [herror] at h
    exact nomatch Except.ok.inj h
  · obtain ⟨first, type, sequence, hfirst, hbuild⟩ := buildTxPacket_long hlong channel opts
    rw [hbuild] at h
    have h := Except.ok.inj h
    split_ifs at h with hband
    obtain ⟨rate, hrate, h⟩ := except_bind_ok h
    obtain ⟨secondaryChannel, hsc, h⟩ := except_bind_ok h
    exact ⟨⟨hband, ⟨rate, hrate⟩, ⟨secondaryChannel, hsc⟩⟩, first, type, rate, secondaryChannel, sequence,
      hfirst, (Except.ok.inj h).symm⟩

/-- **What the builder returns.** For a frame whose length fits the length field. -/
theorem buildTxPacket_encodes {channel : Channel} {opts : TxOptions} {packet : List UInt8}
    (h : buildTxPacket frame channel opts = .ok (.ok packet)) (hlen : frame.length + 1 < 2 ^ 16) :
    TxEncodes frame packet := by
  obtain ⟨-, first, type, rate, secondaryChannel, sequence, hfirst, rfl⟩ := buildTxPacket_returned h
  exact finishTxPacket_encodes hfirst hlen rfl

/-- when the builder returns a packet -/
theorem buildTxPacket_ok (hlen : ieee80211MinHeaderLen ≤ frame.length) {channel : Channel} {opts : TxOptions}
    (hband : channel.supportsBandwidth opts.bandwidth = true) (hrate : opts.rate.isHardware)
    {secondaryChannel : UInt8} (hsc : txDataSecondaryChannel channel (opts.channelBandwidth.getD opts.bandwidth)
      opts.bandwidth = .ok secondaryChannel) :
    ∃ packet, buildTxPacket frame channel opts = .ok (.ok packet) := by
  obtain ⟨first, type, sequence, _, hbuild⟩ := buildTxPacket_long hlen channel opts
  obtain ⟨rate, hrate⟩ := txRateToHw_ok hrate channel
  rw [hbuild, if_neg (not_not.2 hband), hrate, hsc]
  exact ⟨_, rfl⟩

/-- no packet without a secondary channel setting -/
theorem buildTxPacket_no_secondaryChannel {channel : Channel} {opts : TxOptions} {error : Rtl8812auTxError}
    (hsc : txDataSecondaryChannel channel (opts.channelBandwidth.getD opts.bandwidth) opts.bandwidth = .error error)
    (packet : List UInt8) : buildTxPacket frame channel opts ≠ .ok (.ok packet) := by
  intro h
  obtain ⟨⟨-, -, secondaryChannel, hok⟩, -⟩ := buildTxPacket_returned h
  rw [hsc] at hok
  cases hok

/-! ## The length field -/

/-- the length field says how long the packet is behind its descriptor, and that is the frame with its pad byte -/
def LengthExact (frame packet : List UInt8) : Prop :=
  ∃ low high, packet[0]? = some low ∧ packet[1]? = some high ∧ leU16 low high = packet.length - txDescSize ∧
    packet.length - txDescSize = frame.length + if (frame.length + 40) % 512 = 0 then 1 else 0

/-- the first two bytes of a packet and its length, for a frame of any length -/
theorem finishTxPacket_front (frame : List UInt8) (frameLenForUsb : ℕ) (bmc : Bool) (type : FrameType)
    (rate secondaryChannel : UInt8) (sequence : Option ℕ) (opts : TxOptions) :
    (finishTxPacket (txDescriptor frameLenForUsb bmc type rate secondaryChannel sequence opts) frame)[0]? =
        some (UInt8.ofNat (frameLenForUsb &&& 0xff)) ∧
      (finishTxPacket (txDescriptor frameLenForUsb bmc type rate secondaryChannel sequence opts) frame)[1]? =
        some (UInt8.ofNat ((frameLenForUsb >>> 8) &&& 0xff)) ∧
      (finishTxPacket (txDescriptor frameLenForUsb bmc type rate secondaryChannel sequence opts) frame).length =
        txDescSize + txFrameLenForUsb frame.length := by
  obtain ⟨pad, hpad, -, -⟩ := txFrameLenForUsb_eq frame.length
  set descriptor := txDescriptor frameLenForUsb bmc type rate secondaryChannel sequence opts
  have hparts : descriptor = descriptor.take 28 ++ [0, 0] ++ (descriptor.drop 30).take 2 ++ descriptor.drop 32 := rfl
  have hpacket := @finishTxPacket_eq frame (descriptor.take 28) ((descriptor.drop 30).take 2) (descriptor.drop 32)
    rfl rfl rfl pad hpad
  rw [← hparts] at hpacket
  rw [hpacket]
  refine ⟨rfl, rfl, ?_⟩
  rw [List.length_append, List.length_append, List.length_replicate, hpad, ← Nat.add_assoc]
  rfl

/-- sixteen bits cannot say more -/
theorem leU16_lengthBytes_iff {n : ℕ} :
    leU16 (UInt8.ofNat (n &&& 0xff)) (UInt8.ofNat ((n >>> 8) &&& 0xff)) = n ↔ n < 2 ^ 16 :=
  ⟨fun h => h ▸ leU16_lt _ _, leU16_lengthBytes⟩

/-- the pad byte does not push a length over sixteen bits -/
theorem txFrameLenForUsb_lt (frameLen : ℕ) : txFrameLenForUsb frameLen < 2 ^ 16 ↔ frameLen < 2 ^ 16 := by
  rw [txFrameLenForUsb, txDescSize, usb2BulkPacketSize]
  split_ifs with h
  · omega
  · rfl

/-- **The length field is exact**, unless a frame of 2^16 bytes or more can be sent. -/
theorem buildTxPacket_lengthExact_iff (frame : List UInt8) (channel : Channel) (opts : TxOptions) :
    (∃ result, buildTxPacket frame channel opts = .ok result ∧ ∀ packet, result = .ok packet → LengthExact frame packet) ↔
      frame.length < 2 ^ 16 ∨ ¬ Buildable channel opts := by
  obtain ⟨result, hresult⟩ := buildTxPacket_total frame channel opts
  constructor
  · rintro ⟨result, hresult, hexact⟩
    by_contra hcontra
    rw [not_or, Nat.not_lt, not_not] at hcontra
    obtain ⟨hlong, hband, ⟨rate, hrate⟩, secondaryChannel, hsc⟩ := hcontra
    have hmin : ieee80211MinHeaderLen ≤ frame.length := le_trans (by decide) hlong
    obtain ⟨first, type, sequence, _, hbuild⟩ := buildTxPacket_long hmin channel opts
    rw [hbuild, if_neg (not_not.2 hband), hrate, hsc] at hresult
    obtain ⟨low, high, hlow, hhigh, hfield, -⟩ := hexact _ (Except.ok.inj hresult).symm
    obtain ⟨hlow', hhigh', hlength⟩ := finishTxPacket_front frame (txFrameLenForUsb frame.length) (first &&& 0x01 != 0)
      type rate secondaryChannel sequence opts
    obtain rfl := Option.some.inj (hlow'.symm.trans hlow)
    obtain rfl := Option.some.inj (hhigh'.symm.trans hhigh)
    rw [hlength, Nat.add_sub_cancel_left, leU16_lengthBytes_iff, txFrameLenForUsb_lt] at hfield
    omega
  · intro hcondition
    refine ⟨result, hresult, fun packet hpacket => ?_⟩
    obtain rfl := hpacket
    obtain ⟨hbuildable, first, type, rate, secondaryChannel, sequence, -, rfl⟩ := buildTxPacket_returned hresult
    have hlen : frame.length < 2 ^ 16 := hcondition.resolve_right (not_not.2 hbuildable)
    obtain ⟨hlow, hhigh, hlength⟩ := finishTxPacket_front frame (txFrameLenForUsb frame.length) (first &&& 0x01 != 0)
      type rate secondaryChannel sequence opts
    refine ⟨_, _, hlow, hhigh, ?_, ?_⟩
    · rw [hlength, Nat.add_sub_cancel_left]
      exact leU16_lengthBytes ((txFrameLenForUsb_lt _).2 hlen)
    · rw [hlength, Nat.add_sub_cancel_left, txFrameLenForUsb, txDescSize, usb2BulkPacketSize]
      split_ifs
      · rfl
      · rfl

/-- a frame of 65536 bytes is sent as one of length zero -/
theorem buildTxPacket_wraps : ∃ packet,
    buildTxPacket (List.replicate 65536 0) ⟨36, 5180, .ghz5⟩ {} = .ok (.ok packet) ∧
      packet[0]? = some 0 ∧ packet[1]? = some 0 ∧ packet.length - txDescSize = 65536 := by
  have hlen : (List.replicate 65536 (0 : UInt8)).length = 65536 := List.length_replicate
  have hmin : ieee80211MinHeaderLen ≤ (List.replicate 65536 (0 : UInt8)).length := by rw [hlen]; decide
  obtain ⟨first, type, sequence, _, hbuild⟩ := buildTxPacket_long hmin ⟨36, 5180, .ghz5⟩ {}
  have hfront := finishTxPacket_front (List.replicate 65536 0) (txFrameLenForUsb 65536) (first &&& 0x01 != 0) type 0x04
    vhtDataScDonotCare sequence {}
  rw [hlen] at hbuild hfront
  refine ⟨_, hbuild, hfront.1, hfront.2.1, ?_⟩
  exact (congrArg (· - txDescSize) hfront.2.2).trans (by decide)

/-! ## Submitting -/

inductive Rtl8812auTxSubmitError where
  | build (error : Rtl8812auTxError)
  | usb (error : UsbError)
  | shortWrite (endpoint : UInt8) (expected actual : ℕ)
deriving DecidableEq, Repr

def Rtl8812auTxSubmitError.message : Rtl8812auTxSubmitError → String
  | .build error => error.message
  | .usb error => error.message
  | .shortWrite endpoint expected actual =>
    s!"short bulk OUT write to endpoint 0x{hexText 2 endpoint.toNat}: expected {expected} bytes, wrote {actual}"

/-- counted by plain additions -/
structure TxSubmitCounters where
  attempted : UInt64 := 0
  submitted : UInt64 := 0
  rejected : UInt64 := 0
  failed : UInt64 := 0
  shortWrites : UInt64 := 0
  bytesWritten : UInt64 := 0

def submitTxFrame {τ : Type} [UsbBulkTransfer τ] (transport : τ) (bulkOutEndpoint : UInt8) (frame : List UInt8)
    (channel : Channel) (opts : TxOptions) (counters : TxSubmitCounters) :
    Checked (Except Rtl8812auTxSubmitError ℕ × τ × TxSubmitCounters) := do
  let counters := { counters with attempted := counters.attempted + 1 }
  match ← buildTxPacket frame channel opts with
  | .error error => return (.error (.build error), transport, { counters with rejected := counters.rejected + 1 })
  | .ok packet =>
    match writeBulkTransfer transport bulkOutEndpoint packet defaultTimeout with
    | (.ok written, transport) =>
      if written = packet.length then
        return (.ok written, transport, { counters with
          submitted := counters.submitted + 1
          bytesWritten := counters.bytesWritten + UInt64.ofNat written })
      else
        return (.error (.shortWrite bulkOutEndpoint packet.length written), transport, { counters with
          failed := counters.failed + 1
          shortWrites := counters.shortWrites + 1
          bytesWritten := counters.bytesWritten + UInt64.ofNat written })
    | (.error error, transport) =>
      return (.error (.usb error), transport, { counters with failed := counters.failed + 1 })

/-- **One submission, one write.** On a recorded transport the submission adds nothing to the record where the builder
refuses the frame, and otherwise one bulk OUT write of the packet it built, whatever the transport answers. -/
theorem submitTxFrame_recorded {ε τ : Type} [UsbLog ε] [UsbBulkTransfer τ] (transport : Recorded ε τ)
    (bulkOutEndpoint : UInt8) (frame : List UInt8) (channel : Channel) (opts : TxOptions)
    (counters : TxSubmitCounters) {built : Except Rtl8812auTxError (List UInt8)}
    (hbuild : buildTxPacket frame channel opts = .ok built) :
    ∃ result transport' counters', submitTxFrame transport bulkOutEndpoint frame channel opts counters =
        .ok (result, transport', counters') ∧
      transport'.events = transport.events ++
        built.toOption.toList.map fun packet => UsbLog.entry (.bulkOut bulkOutEndpoint packet) := by
  rw [submitTxFrame, hbuild, checked_bind_ok]
  cases built with
  | error error => exact ⟨_, _, _, rfl, (List.append_nil _).symm⟩
  | ok packet =>
    obtain ⟨answer, inner, hanswer⟩ : ∃ answer inner,
        writeBulkTransfer transport.inner bulkOutEndpoint packet defaultTimeout = (answer, inner) := ⟨_, _, rfl⟩
    have hwrite : writeBulkTransfer transport bulkOutEndpoint packet defaultTimeout =
        (answer, transport.record (UsbLog.entry (.bulkOut bulkOutEndpoint packet)) inner) := by
      simp only [writeBulkTransfer, hanswer]
    dsimp only
    rw [hwrite]
    cases answer with
    | error error => exact ⟨_, _, _, rfl, rfl⟩
    | ok written =>
      dsimp only
      split_ifs
      · exact ⟨_, _, _, rfl, rfl⟩
      · exact ⟨_, _, _, rfl, rfl⟩

end WfbLink.RadioCore
