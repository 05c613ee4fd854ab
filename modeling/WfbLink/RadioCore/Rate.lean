/-
TX rates, queues and options, and the hardware rate codes (`radio-core/src/rtl8812au.rs`).

Rate codes are one number space for both directions: `txRateToHw` writes a rate into the TX descriptor and
`rxRateFromHw` reads one from the RX descriptor.
-/
import WfbLink.RadioCore.Channel
import WfbLink.RadioCore.Frame

namespace WfbLink.RadioCore

inductive TxRate where
  | cck1m
  | cck2m
  | cck5_5m
  | cck11m
  | ofdm6m
  | ofdm9m
  | ofdm12m
  | ofdm18m
  | ofdm24m
  | ofdm36m
  | ofdm48m
  | ofdm54m
  | mcs (mcs : UInt8)
  | vht (mcs nss : UInt8)
deriving DecidableEq, Repr

inductive TxQueue where
  | auto
  | be
  | bk
  | vi
  | vo
  | high
  | mgnt
deriving DecidableEq, Repr

structure TxOptions where
  rate : TxRate := .ofdm6m
  bandwidth : Bandwidth := .mhz20
  channelBandwidth : Option Bandwidth := none
  queue : TxQueue := .auto
  macId : UInt8 := 0
  rateId : Option UInt8 := none
  retries : UInt8 := 12
  hardwareSequence : Bool := true
  firstSegment : Bool := true
  disableRateFallback : Bool := true
  rateFallbackLimit : UInt8 := 0x1f
  aggregateBreak : Bool := true
  shortGi : Bool := false
  ldpc : Bool := false
  stbc : Bool := false
  protect : Bool := false
  noRetry : Bool := false
deriving DecidableEq

inductive Rtl8812auTxError where
  | frame (error : Ieee80211FrameError)
  | unsupportedBandwidth (channel : UInt8) (bandwidthMhz : UInt16)
  | unsupportedRate (rate : String)
deriving DecidableEq, Repr

def Rtl8812auTxError.message : Rtl8812auTxError → String
  | .frame error => error.message
  | .unsupportedBandwidth channel bandwidthMhz =>
    s!"channel {channel} does not support {bandwidthMhz} MHz TX bandwidth"
  | .unsupportedRate rate => s!"unsupported TX rate {rate}"

/-- a rate the descriptor can carry: legacy, HT MCS 0 to 31, or VHT MCS 0 to 9 with 1 to 4 streams -/
def TxRate.isHardware : TxRate → Prop
  | .mcs index => index ≤ 31
  | .vht index nss => index ≤ 9 ∧ 1 ≤ nss ∧ nss ≤ 4
  | _ => True

instance (rate : TxRate) : Decidable rate.isHardware := by
  cases rate <;> unfold TxRate.isHardware <;> infer_instance

def txRateToHw (rate : TxRate) (channel : Channel) : Except Rtl8812auTxError UInt8 := do
  let hw ← match rate with
    | .cck1m => .ok 0x00
    | .cck2m => .ok 0x01
    | .cck5_5m => .ok 0x02
    | .cck11m => .ok 0x03
    | .ofdm6m => .ok 0x04
    | .ofdm9m => .ok 0x05
    | .ofdm12m => .ok 0x06
    | .ofdm18m => .ok 0x07
    | .ofdm24m => .ok 0x08
    | .ofdm36m => .ok 0x09
    | .ofdm48m => .ok 0x0a
    | .ofdm54m => .ok 0x0b
    | .mcs mcs => if mcs ≤ 31 then .ok (0x0c + mcs) else .error (.unsupportedRate s!"mcs{mcs}")
    | .vht mcs nss =>
      if mcs ≤ 9 ∧ 1 ≤ nss ∧ nss ≤ 4 then .ok (0x2c + (nss - 1) * 10 + mcs)
      else .error (.unsupportedRate s!"vht{nss}ss-mcs{mcs}")
  if channel.band = .ghz5 ∧ hw ≤ 0x03 then return 0x04 else return hw

def defaultRateId : TxRate → UInt8
  | .cck1m | .cck2m | .cck5_5m | .cck11m => 8
  | .mcs mcs => if mcs ≤ 7 then 3 else if mcs ≤ 15 then 2 else 14
  | .vht _ nss => if nss = 1 then 10 else if nss = 2 then 9 else 13
  | _ => 7

def rxRateFromHw (raw : UInt8) : Option TxRate :=
  match raw with
  | 0x00 => some .cck1m
  | 0x01 => some .cck2m
  | 0x02 => some .cck5_5m
  | 0x03 => some .cck11m
  | 0x04 => some .ofdm6m
  | 0x05 => some .ofdm9m
  | 0x06 => some .ofdm12m
  | 0x07 => some .ofdm18m
  | 0x08 => some .ofdm24m
  | 0x09 => some .ofdm36m
  | 0x0a => some .ofdm48m
  | 0x0b => some .ofdm54m
  | raw =>
    if 0x0c ≤ raw ∧ raw ≤ 0x2b then some (.mcs (raw - 0x0c))
    else if 0x2c ≤ raw ∧ raw ≤ 0x53 then some (.vht ((raw - 0x2c) % 10) ((raw - 0x2c) / 10 + 1))
    else none

def rxBandwidthFromRaw (raw : UInt8) : Option Bandwidth :=
  match raw with
  | 0 => some .mhz20
  | 1 => some .mhz40
  | 2 => some .mhz80
  | _ => none

theorem txRateToHw_ok {rate : TxRate} (h : rate.isHardware) (channel : Channel) :
    ∃ hw, txRateToHw rate channel = .ok hw := by
  have key : ∀ hw : UInt8, ∃ hw', (if channel.band = .ghz5 ∧ hw ≤ 0x03 then (pure 0x04 : Except Rtl8812auTxError UInt8)
      else pure hw) = .ok hw' := by
    intro hw
    split_ifs
    · exact ⟨_, rfl⟩
    · exact ⟨_, rfl⟩
  cases rate with
  | mcs mcs =>
    have h : mcs ≤ 31 := h
    simp only [txRateToHw, if_pos h]
    exact key _
  | vht mcs nss =>
    have h : mcs ≤ 9 ∧ 1 ≤ nss ∧ nss ≤ 4 := h
    simp only [txRateToHw, if_pos h]
    exact key _
  | _ => exact key _

end WfbLink.RadioCore
