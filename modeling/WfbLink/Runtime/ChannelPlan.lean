/-
Channel planning of the runtime: what is programmed for a channel and a bandwidth.

The runtime has its own table of secondary channels, next to the bandwidth table of the channel
(`supportsBandwidth`) and the table of the TX descriptor (`txDataSecondaryChannel`).

- `plan_iff`, `txDataSecondaryChannel_ok`: for a supported channel and bandwidth, the runtime has an entry exactly if
  the channel is not `Misaligned`: a 5 GHz channel from 149 up, at 40 MHz. Then the descriptor has one too.
-/
import WfbLink.RadioCore.TxDescriptor
import WfbLink.Runtime.Counters

namespace WfbLink.Runtime

open WfbLink.Core WfbLink.RadioCore

/-- the center of an 80 MHz group, and which of its four channels the primary one is -/
def productionEightyMhzCenterAndPosition (primaryChannel : UInt8) : Except RuntimeRadioError (UInt8 × Fin 4) :=
  match primaryChannel with
  | 36 => .ok (42, 0)
  | 40 => .ok (42, 1)
  | 44 => .ok (42, 2)
  | 48 => .ok (42, 3)
  | 52 => .ok (58, 0)
  | 56 => .ok (58, 1)
  | 60 => .ok (58, 2)
  | 64 => .ok (58, 3)
  | 100 => .ok (106, 0)
  | 104 => .ok (106, 1)
  | 108 => .ok (106, 2)
  | 112 => .ok (106, 3)
  | 116 => .ok (122, 0)
  | 120 => .ok (122, 1)
  | 124 => .ok (122, 2)
  | 128 => .ok (122, 3)
  | 132 => .ok (138, 0)
  | 136 => .ok (138, 1)
  | 140 => .ok (138, 2)
  | 144 => .ok (138, 3)
  | 149 => .ok (155, 0)
  | 153 => .ok (155, 1)
  | 157 => .ok (155, 2)
  | 161 => .ok (155, 3)
  | _ => .error (.new "channel_bandwidth_not_supported"
      s!"channel {primaryChannel} is not aligned to a supported 5 GHz 80 MHz group")

def productionDataSecondaryChannelSetting (channel : Channel) (bandwidth : Bandwidth) :
    Except RuntimeRadioError UInt8 :=
  match bandwidth with
  | .mhz20 => .ok 0
  | .mhz40 =>
    match channel.band with
    | .ghz5 =>
      if channel.number % 8 = 4 then .ok vhtDataSc20LowerOf80mhz
      else if channel.number % 8 = 0 then .ok vhtDataSc20UpperOf80mhz
      else .error (.new "channel_bandwidth_not_supported"
        s!"channel {channel.number} is not aligned to a 5 GHz 40 MHz channel pair")
    | .ghz2 =>
      if 1 ≤ channel.number ∧ channel.number ≤ 7 then .ok vhtDataSc20LowerOf80mhz
      else if 8 ≤ channel.number ∧ channel.number ≤ 13 then .ok vhtDataSc20UpperOf80mhz
      else .error (.new "channel_bandwidth_not_supported"
        s!"channel {channel.number} is not supported for 2.4 GHz 40 MHz operation")
  | .mhz80 => do
    let (_, position) ← productionEightyMhzCenterAndPosition channel.number
    let (sc40, sc20) := match position with
      | 0 => (vhtDataSc40LowerOf80mhz, vhtDataSc20LowestOf80mhz)
      | 1 => (vhtDataSc40LowerOf80mhz, vhtDataSc20LowerOf80mhz)
      | 2 => (vhtDataSc40UpperOf80mhz, vhtDataSc20UpperOf80mhz)
      | 3 => (vhtDataSc40UpperOf80mhz, vhtDataSc20UpperstOf80mhz)
    return (sc40 <<< 4) ||| sc20

/-- channel number 0, which no table supports, wraps as in a build without overflow checks; one with them panics -/
def productionFortyMhzCenterChannel (channel : Channel) : Except RuntimeRadioError UInt8 := do
  let dataSc ← productionDataSecondaryChannelSetting channel .mhz40
  if dataSc = vhtDataSc20LowerOf80mhz then return channel.number + 2
  else if dataSc = vhtDataSc20UpperOf80mhz then return channel.number - 2
  else .error (.new "channel_bandwidth_not_supported"
    s!"channel {channel.number} did not map to a 40 MHz primary side")

def productionChannelProgrammingNumber (channel : Channel) (bandwidth : Bandwidth) : Except RuntimeRadioError UInt8 :=
  match bandwidth with
  | .mhz20 => .ok channel.number
  | .mhz40 => productionFortyMhzCenterChannel channel
  | .mhz80 => (productionEightyMhzCenterAndPosition channel.number).map Prod.fst

/-! ## The tables agree -/

/-- a channel whose number is not a multiple of four, where a 40 MHz pair is looked up by the remainder modulo eight -/
def Misaligned (channel : Channel) (bandwidth : Bandwidth) : Prop :=
  bandwidth = .mhz40 ∧ channel.number ∈ [149, 153, 157, 161, (165 : UInt8)]

instance (channel : Channel) (bandwidth : Bandwidth) : Decidable (Misaligned channel bandwidth) := by
  unfold Misaligned; infer_instance

/-- both numbers that are programmed for a channel exist -/
def Planned (channel : Channel) (bandwidth : Bandwidth) : Prop :=
  (∃ dataSc, productionDataSecondaryChannelSetting channel bandwidth = .ok dataSc) ∧
    ∃ number, productionChannelProgrammingNumber channel bandwidth = .ok number

theorem plan_iff {channel : Channel} (hchannel : channel ∈ supportedChannels) {bandwidth : Bandwidth}
    (hsupports : channel.supportsBandwidth bandwidth = true) :
    Planned channel bandwidth ↔ ¬ Misaligned channel bandwidth := by
  have htable : ∀ bandwidth, ∀ channel ∈ supportedChannels, channel.supportsBandwidth bandwidth = true →
      ((productionDataSecondaryChannelSetting channel bandwidth).isOk = true ∧
        (productionChannelProgrammingNumber channel bandwidth).isOk = true ↔ ¬ Misaligned channel bandwidth) := by
    intro bandwidth
    cases bandwidth <;> decide +kernel
  rw [Planned, ← isOk_iff, ← isOk_iff]
  exact htable bandwidth channel hchannel hsupports

/-- the descriptor has a setting for every frame bandwidth that fits a planned channel -/
theorem txDataSecondaryChannel_ok {channel : Channel} (hchannel : channel ∈ supportedChannels)
    {channelBandwidth frameBandwidth : Bandwidth} (hsupports : channel.supportsBandwidth channelBandwidth = true)
    (hfits : frameBandwidth.fits channelBandwidth) (haligned : ¬ Misaligned channel channelBandwidth) :
    ∃ secondaryChannel, txDataSecondaryChannel channel channelBandwidth frameBandwidth = .ok secondaryChannel := by
  have htable : ∀ channelBandwidth frameBandwidth, frameBandwidth.fits channelBandwidth →
      ∀ channel ∈ supportedChannels, channel.supportsBandwidth channelBandwidth = true →
      ¬ Misaligned channel channelBandwidth →
      (txDataSecondaryChannel channel channelBandwidth frameBandwidth).isOk = true := by
    intro channelBandwidth frameBandwidth hfits
    cases channelBandwidth <;> cases frameBandwidth <;>
      first | exact absurd hfits (by decide) | decide +kernel
  exact isOk_iff.1 (htable channelBandwidth frameBandwidth hfits channel hchannel hsupports haligned)

end WfbLink.Runtime
