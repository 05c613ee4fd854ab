/-
Datagrams to transmit (`parse_tx_datagram` and `submit_tx_datagram` in `wfb-bridge/src/tx.rs`).

A datagram is a big-endian firewall mark, a radiotap header and a frame.
-/
import WfbLink.Bridge.Radiotap

namespace WfbLink.Bridge

open WfbLink.Core WfbLink.RadioCore

def fwmarkLen : ℕ := 4

/-- counted by saturating additions in the runtime, by plain ones here -/
structure TxCounters where
  incoming : UInt64 := 0
  injected : UInt64 := 0
  dropped : UInt64 := 0
  malformed : UInt64 := 0
  unsupportedRadiotap : UInt64 := 0

structure ParsedTxDatagram where
  fwmark : ℕ
  radiotapLen : ℕ
  txOptions : TxOptions
  ieee80211Frame : List UInt8
deriving DecidableEq

inductive TxDatagramError where
  | tooShort (minLen actualLen : ℕ)
  | radiotap (error : RadiotapError)
  | missingFrame
deriving DecidableEq, Repr

def TxDatagramError.message : TxDatagramError → String
  | .tooShort minLen actualLen => s!"TX datagram too short: expected at least {minLen} bytes, got {actualLen}"
  | .radiotap error => error.message
  | .missingFrame => "TX datagram contains no IEEE 802.11 frame after radiotap header"

def isUnsupportedRuntimeRadiotap : TxDatagramError → Bool
  | .radiotap (.unsupportedPresentFlags _) => true
  | .radiotap (.unsupportedHtBandwidth _) => true
  | .radiotap (.unsupportedVhtBandwidth _) => true
  | _ => false

def parseTxDatagram (packet : List UInt8) : Checked (Except TxDatagramError ParsedTxDatagram) :=
  if packet.length < fwmarkLen + 8 then return .error (.tooShort (fwmarkLen + 8) packet.length)
  else do
    let fwmark ← readBeU32 packet 0
    let radioPacket ← slice packet fwmarkLen packet.length
    match ← parseWfbRadiotapTx radioPacket with
    | .error error => return .error (.radiotap error)
    | .ok radiotap =>
      if radioPacket.length = radiotap.headerLen then return .error .missingFrame
      else
        let frame ← slice radioPacket radiotap.headerLen radioPacket.length
        return .ok {
          fwmark
          radiotapLen := radiotap.headerLen
          txOptions := radiotap.options
          ieee80211Frame := frame }

/-- the frame in a datagram: what follows the firewall mark and as many bytes as the radiotap length field says -/
def datagramFrame (packet : List UInt8) : List UInt8 :=
  match readLeU16 packet (fwmarkLen + 2) with
  | .ok radiotapLen => packet.drop (fwmarkLen + radiotapLen)
  | .error _ => []

theorem readLeU16_drop {packet : List UInt8} {k i n : ℕ} (h : readLeU16 (packet.drop k) i = .ok n) :
    readLeU16 packet (k + i) = .ok n := by
  have hindex : ∀ j, index (packet.drop k) j = index packet (k + j) := by
    intro j
    rw [index, index, List.getElem?_drop]
  rw [readLeU16, hindex, hindex] at h
  rw [readLeU16, Nat.add_assoc]
  exact h

/-- **The datagram parser is total**, and the frame it returns is the frame in the datagram. -/
theorem parseTxDatagram_total (packet : List UInt8) :
    ∃ result, parseTxDatagram packet = .ok result ∧ ∀ parsed, result = .ok parsed →
      parsed.ieee80211Frame = datagramFrame packet ∧ parsed.ieee80211Frame.length + 17 ≤ packet.length := by
  unfold parseTxDatagram
  by_cases hmin : packet.length < fwmarkLen + 8
  · rw [if_pos hmin]
    exact ⟨_, rfl, forall_error⟩
  · have hlen : 12 ≤ packet.length := Nat.not_lt.1 hmin
    have hmark : fwmarkLen ≤ packet.length := le_trans (by decide) hlen
    obtain ⟨result, hresult, hparsed⟩ := parseWfbRadiotapTx_total (packet.drop fwmarkLen)
    rw [if_neg hmin, readBeU32_ok (by omega), checked_bind_ok, slice_to_end hmark, checked_bind_ok, hresult,
      checked_bind_ok]
    cases result with
    | error error => exact ⟨_, rfl, forall_error⟩
    | ok radiotap =>
      obtain ⟨hfield, hfits, hheader⟩ := hparsed radiotap rfl
      dsimp only
      split_ifs with hmissing
      · exact ⟨_, rfl, forall_error⟩
      · rw [slice_to_end hfits]
        refine ⟨_, rfl, fun parsed hp => ?_⟩
        rw [← Except.ok.inj hp]
        refine ⟨?_, ?_⟩
        · rw [datagramFrame, readLeU16_drop hfield, List.drop_drop]
        · rw [List.length_drop] at hfits
          dsimp only
          rw [List.length_drop, List.length_drop]
          unfold fwmarkLen at *
          omega

/-! ## Submitting a datagram -/

/-- a radio that frames are handed to -/
class RadioTx (ρ : Type) where
  submit80211 : ρ → List UInt8 → TxOptions → Checked (Except String Unit × ρ)

inductive TxBridgeOutcome where
  | injected
deriving DecidableEq, Repr

inductive TxBridgeError where
  | datagram (error : TxDatagramError)
  | frame (error : Ieee80211FrameError)
  | radio (message : String)
deriving DecidableEq, Repr

def TxBridgeError.message : TxBridgeError → String
  | .datagram error => error.message
  | .frame error => error.message
  | .radio message => s!"radio TX failed: {message}"

/-- `is_unsupported_radiotap` -/
def isUnsupportedRadiotap : TxDatagramError → Bool
  | .radiotap (.unsupportedPresentFlags _) => true
  | .radiotap (.unsupportedHtBandwidth _) => true
  | .radiotap (.unsupportedVhtBandwidth _) => true
  | _ => false

def submitTxDatagram {ρ : Type} [RadioTx ρ] (packet : List UInt8) (radio : ρ) (counters : TxCounters) :
    Checked (Except TxBridgeError TxBridgeOutcome × ρ × TxCounters) := do
  let counters := { counters with incoming := counters.incoming + 1 }
  match ← parseTxDatagram packet with
  | .error error =>
    return (.error (.datagram error), radio, { counters with
      dropped := counters.dropped + 1
      malformed := counters.malformed + 1
      unsupportedRadiotap :=
        if isUnsupportedRadiotap error then counters.unsupportedRadiotap + 1 else counters.unsupportedRadiotap })
  | .ok parsed =>
    match validateIeee80211Frame parsed.ieee80211Frame with
    | .error error =>
      return (.error (.frame error), radio, { counters with
        dropped := counters.dropped + 1
        malformed := counters.malformed + 1 })
    | .ok () =>
      match ← RadioTx.submit80211 radio parsed.ieee80211Frame parsed.txOptions with
      | (.error error, radio) => return (.error (.radio error), radio, { counters with dropped := counters.dropped + 1 })
      | (.ok (), radio) => return (.ok .injected, radio, { counters with injected := counters.injected + 1 })

end WfbLink.Bridge
