/-
Wi-Fi channels and bandwidths (`radio-core/src/channel.rs`).

A channel the runtime accepts is one of the table entries, with the table's frequency and band: `fromNumber` looks a
number up, and `supportsBandwidth` is the first of the three bandwidth tables of the program. The other two are
`txDataSecondaryChannel` (the TX descriptor) and the channel planning of the runtime.
-/
import Mathlib.Tactic

namespace WfbLink.RadioCore

inductive Band where
  | ghz2
  | ghz5
deriving DecidableEq, Repr

inductive Bandwidth where
  | mhz20
  | mhz40
  | mhz80
deriving DecidableEq, Repr

def Bandwidth.mhz : Bandwidth → UInt16
  | .mhz20 => 20
  | .mhz40 => 40
  | .mhz80 => 80

/-- a frame of the first bandwidth fits a channel of the second -/
def Bandwidth.fits (frame channel : Bandwidth) : Prop := frame.mhz ≤ channel.mhz

instance (frame channel : Bandwidth) : Decidable (frame.fits channel) := by
  unfold Bandwidth.fits; infer_instance

structure Channel where
  number : UInt8
  frequencyMhz : UInt16
  band : Band
deriving DecidableEq, Repr

inductive ChannelError where
  | unsupportedChannel (number : UInt8)
  | unsupportedBandwidth (number : UInt8) (bandwidthMhz : UInt16)
deriving DecidableEq, Repr

def ChannelError.message : ChannelError → String
  | .unsupportedChannel number => s!"unsupported Wi-Fi channel {number}"
  | .unsupportedBandwidth number bandwidthMhz => s!"channel {number} does not support {bandwidthMhz} MHz bandwidth"

def supported2GhzChannels : List Channel :=
  [⟨1, 2412, .ghz2⟩, ⟨2, 2417, .ghz2⟩, ⟨3, 2422, .ghz2⟩, ⟨4, 2427, .ghz2⟩, ⟨5, 2432, .ghz2⟩, ⟨6, 2437, .ghz2⟩,
   ⟨7, 2442, .ghz2⟩, ⟨8, 2447, .ghz2⟩, ⟨9, 2452, .ghz2⟩, ⟨10, 2457, .ghz2⟩, ⟨11, 2462, .ghz2⟩, ⟨12, 2467, .ghz2⟩,
   ⟨13, 2472, .ghz2⟩, ⟨14, 2484, .ghz2⟩]

def supported5GhzChannels : List Channel :=
  [⟨36, 5180, .ghz5⟩, ⟨40, 5200, .ghz5⟩, ⟨44, 5220, .ghz5⟩, ⟨48, 5240, .ghz5⟩, ⟨52, 5260, .ghz5⟩, ⟨56, 5280, .ghz5⟩,
   ⟨60, 5300, .ghz5⟩, ⟨64, 5320, .ghz5⟩, ⟨100, 5500, .ghz5⟩, ⟨104, 5520, .ghz5⟩, ⟨108, 5540, .ghz5⟩,
   ⟨112, 5560, .ghz5⟩, ⟨116, 5580, .ghz5⟩, ⟨120, 5600, .ghz5⟩, ⟨124, 5620, .ghz5⟩, ⟨128, 5640, .ghz5⟩,
   ⟨132, 5660, .ghz5⟩, ⟨136, 5680, .ghz5⟩, ⟨140, 5700, .ghz5⟩, ⟨144, 5720, .ghz5⟩, ⟨149, 5745, .ghz5⟩,
   ⟨153, 5765, .ghz5⟩, ⟨157, 5785, .ghz5⟩, ⟨161, 5805, .ghz5⟩, ⟨165, 5825, .ghz5⟩]

def supportedChannels : List Channel := supported2GhzChannels ++ supported5GhzChannels

def Channel.fromNumber (number : UInt8) : Except ChannelError Channel :=
  match supportedChannels.find? (fun channel => channel.number = number) with
  | some channel => .ok channel
  | none => .error (.unsupportedChannel number)

def Channel.supportsBandwidth (channel : Channel) (bandwidth : Bandwidth) : Bool :=
  match channel.band, bandwidth with
  | _, .mhz20 => true
  | .ghz2, .mhz40 => 1 ≤ channel.number && channel.number ≤ 13
  | .ghz2, .mhz80 => false
  | .ghz5, .mhz40 => true
  | .ghz5, .mhz80 =>
    [36, 40, 44, 48, 52, 56, 60, 64, 100, 104, 108, 112, 116, 120, 124, 128, 132, 136, 140, 144, 149, 153, 157,
      161].contains channel.number

theorem fromNumber_mem {number : UInt8} {channel : Channel} (h : Channel.fromNumber number = .ok channel) :
    channel ∈ supportedChannels := by
  unfold Channel.fromNumber at h
  cases hf : supportedChannels.find? (fun channel => channel.number = number) with
  | none => rw [hf] at h; cases h
  | some found =>
    rw [hf] at h
    cases h
    exact List.mem_of_find?_eq_some hf

/-- the numbers of the table are distinct: looking an entry's own number up gives the entry -/
theorem fromNumber_self : ∀ channel ∈ supportedChannels, Channel.fromNumber channel.number = .ok channel := by
  decide

/-- a channel that supports a bandwidth supports every narrower one -/
theorem supportsBandwidth_mono : ∀ channel ∈ supportedChannels, ∀ narrow wide : Bandwidth, narrow.fits wide →
    channel.supportsBandwidth wide = true → channel.supportsBandwidth narrow = true := by
  intro channel hchannel narrow wide hfits
  revert channel
  cases narrow <;> cases wide <;> first | exact absurd hfits (by decide) | decide

end WfbLink.RadioCore
