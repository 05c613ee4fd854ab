/-
Forwarding received WFB frames (`wfb-bridge/src/rx.rs`, `forward.rs` and `counters.rs`).
-/
import WfbLink.Bridge.Frame
import WfbLink.RadioCore.RxDescriptor

namespace WfbLink.Bridge

open WfbLink.Core WfbLink.RadioCore

/-- the counters are `u64`s that are increased by plain additions -/
structure RxCounters where
  received : UInt64 := 0
  matched : UInt64 := 0
  forwarded : UInt64 := 0
  filtered : UInt64 := 0
  malformed : UInt64 := 0
  sendFailed : UInt64 := 0
deriving DecidableEq

structure RxForwardConfig where
  channelId : WfbChannelId
  wlanIdx : UInt8
  mcsIndex : UInt8
  bandwidthMhz : UInt8
deriving DecidableEq, Repr

/-- the 17 bytes in front of a forwarded payload; only the first of the four antennas is used -/
structure WfbForwardHeader where
  wlanIdx : UInt8
  antenna : List UInt8
  rssi : List Int8
  noise : List Int8
  freqMhz : UInt16
  mcsIndex : UInt8
  bandwidthMhz : UInt8

namespace WfbForwardHeader

def singleAntennaWithNoise (wlanIdx : UInt8) (rssiDbm : Int8) (noiseDbm : Option Int8) (freqMhz : UInt16)
    (mcsIndex bandwidthMhz : UInt8) : WfbForwardHeader where
  wlanIdx
  antenna := [0, 0xff, 0xff, 0xff]
  rssi := [rssiDbm, -128, -128, -128]
  noise := [noiseDbm.getD 127, 127, 127, 127]
  freqMhz
  mcsIndex
  bandwidthMhz

def toBytes (header : WfbForwardHeader) : List UInt8 :=
  [header.wlanIdx] ++ header.antenna ++ header.rssi.map (·.toUInt8) ++ header.noise.map (·.toUInt8) ++
    toBeU16 header.freqMhz.toNat ++ [header.mcsIndex, header.bandwidthMhz]

def prependToPayload (header : WfbForwardHeader) (payload : List UInt8) : List UInt8 := header.toBytes ++ payload

end WfbForwardHeader

def rxForwardMcsIndex (frame : RxFrame) : Option UInt8 :=
  match frame.rxRate with
  | some (.mcs index) => some index
  | some (.vht index _) => some index
  | _ => none

def buildRxForwardDatagram (frame : RxFrame) (config : RxForwardConfig) (counters : RxCounters) :
    Checked (Option (List UInt8) × RxCounters) := do
  let counters := { counters with received := counters.received + 1 }
  match ← extractWfbPayload frame.data config.channelId with
  | .error .prefixMismatch | .error .channelIdMismatch =>
    return (none, { counters with filtered := counters.filtered + 1 })
  | .error (.tooShort _) | .error (.invalidLinkId _) =>
    return (none, { counters with malformed := counters.malformed + 1 })
  | .ok payload =>
    let header := .singleAntennaWithNoise config.wlanIdx frame.rssiDbm frame.noiseDbm frame.channel.frequencyMhz
      ((rxForwardMcsIndex frame).getD config.mcsIndex)
      ((frame.rxBandwidth.map fun bandwidth => bandwidth.mhz.toUInt8).getD config.bandwidthMhz)
    return (some (WfbForwardHeader.prependToPayload header payload),
      { counters with matched := counters.matched + 1 })

theorem buildRxForwardDatagram_total (frame : RxFrame) (config : RxForwardConfig) (counters : RxCounters) :
    ∃ result, buildRxForwardDatagram frame config counters = .ok result := by
  obtain ⟨payload, hpayload⟩ := extractWfbPayload_total frame.data config.channelId
  rw [buildRxForwardDatagram, hpayload, checked_bind_ok]
  split
  · exact ⟨_, rfl⟩
  · exact ⟨_, rfl⟩
  · exact ⟨_, rfl⟩
  · exact ⟨_, rfl⟩
  · exact ⟨_, rfl⟩

end WfbLink.Bridge
