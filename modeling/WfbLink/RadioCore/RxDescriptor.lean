/-
The RX descriptor parser (`parse_rx_packet` in `radio-core/src/rtl8812au.rs`).

The chip prefixes every received packet with a 24-byte descriptor, the driver information (8-byte units) and up to
three shift bytes, and starts the next packet of a bulk transfer on a 128-byte boundary. `parseRxPacket` looks at the
front of the remaining buffer; the caller advances by the `consumed` of the result.

- `parseRxPacket_total`: the parser never reads out of range, whatever the bytes.
- one lemma per branch of the parser (`parseRxPacket_short`, `.._badLength`, `.._incomplete`, `.._dropped`,
  `.._frame`), each stated over the descriptor words.
-/
import WfbLink.RadioCore.Frame
import WfbLink.RadioCore.Rate

namespace WfbLink.RadioCore

open WfbLink.Core

def rxDescSize : ℕ := 24
def rxAggregationAlignment : ℕ := 128
def rtl8812PhyStatus1stTypeMinLen : ℕ := 17

/-! ## Results -/

inductive RxRssiSource where
  | rtl8812PhyStatusBestPath
  | phyStatusFirstByte
  | fallbackNoPhyStatus
deriving DecidableEq, Repr

inductive RxSnrSource where
  | rtl8812PhyStatusBestPath
deriving DecidableEq, Repr

structure RxFrame where
  data : List UInt8
  rssiDbm : Int8
  rssiDbmValid : Bool
  rssiDbmSource : RxRssiSource
  noiseDbm : Option Int8
  snrDb : Option Int8
  snrDbSource : Option RxSnrSource
  channel : Channel
  phyStatus : Bool
  driverInfoSize : ℕ
  rxShift : ℕ
  rawPhyStatus : List UInt8
  rxRateRaw : UInt8
  rxRate : Option TxRate
  rxBandwidthRaw : UInt8
  rxBandwidth : Option Bandwidth
  shortGi : Bool
  ldpc : Bool
  stbc : Bool
  crcError : Bool
deriving DecidableEq

inductive RxParseOutcome where
  | frame
  | drop
  | needMoreData
deriving DecidableEq, Repr

structure ParsedRxPacket where
  consumed : ℕ
  outcome : RxParseOutcome
  frame : Option RxFrame
deriving DecidableEq

/-! ## PHY status -/

structure Rtl8812PhyStatusMetrics where
  rssiDbm : Int8
  snrDb : Int8
  noiseDbm : Int8
deriving DecidableEq, Repr

/-- `value.clamp(-127, 0) as i8` -/
def clampDbm (value : ℤ) : Int8 := Int8.ofInt (max (-127) (min value 0))

def rtl8812PhyStatusPath (gainTrsw rawSnr : UInt8) : Rtl8812PhyStatusMetrics :=
  let rssiDbm := clampDbm ((gainTrsw &&& 0x7f).toNat - 110)
  let snrDb := rawSnr.toInt8 >>> 1
  let noiseDbm := clampDbm (rssiDbm.toInt - snrDb.toInt)
  { rssiDbm, snrDb, noiseDbm }

def rtl8812PhyStatusMetrics (raw : List UInt8) (rxRateRaw : UInt8) : Checked (Option Rtl8812PhyStatusMetrics) :=
  if raw.length < rtl8812PhyStatus1stTypeMinLen ∨ rxRateRaw ≤ 0x03 then return none
  else do
    let raw0 ← index raw 0
    let raw15 ← index raw 15
    let raw1 ← index raw 1
    let raw16 ← index raw 16
    let pathA := rtl8812PhyStatusPath raw0 raw15
    let pathB := rtl8812PhyStatusPath raw1 raw16
    return some (if pathB.rssiDbm > pathA.rssiDbm then pathB else pathA)

theorem rtl8812PhyStatusMetrics_total (raw : List UInt8) (rxRateRaw : UInt8) :
    ∃ metrics, rtl8812PhyStatusMetrics raw rxRateRaw = .ok metrics := by
  unfold rtl8812PhyStatusMetrics
  split_ifs with h
  · exact ⟨_, rfl⟩
  · have hlen : 17 ≤ raw.length := Nat.not_lt.1 fun hlt => h (Or.inl hlt)
    simp only [index_of_lt (show 0 < raw.length by omega), index_of_lt (show 15 < raw.length by omega),
      index_of_lt (show 1 < raw.length by omega), index_of_lt (show 16 < raw.length by omega), checked_bind_ok]
    exact ⟨_, rfl⟩

/-! ## The descriptor -/

/-- the three descriptor words the parser reads -/
structure RxDescWords where
  dw0 : ℕ
  dw3 : ℕ
  dw4 : ℕ
deriving DecidableEq, Repr

namespace RxDescWords

def packetLen (w : RxDescWords) : ℕ := w.dw0 &&& 0x3fff
def crcError (w : RxDescWords) : Bool := (w.dw0 >>> 14) &&& 1 != 0
def drvinfoSize (w : RxDescWords) : ℕ := ((w.dw0 >>> 16) &&& 0x0f) * 8
def shift (w : RxDescWords) : ℕ := (w.dw0 >>> 24) &&& 0x03
def phyStatus (w : RxDescWords) : Bool := (w.dw0 >>> 26) &&& 1 != 0
def rxRateRaw (w : RxDescWords) : UInt8 := UInt8.ofNat (w.dw3 &&& 0x7f)
def rxBandwidthRaw (w : RxDescWords) : UInt8 := UInt8.ofNat ((w.dw4 >>> 4) &&& 0x03)
def shortGi (w : RxDescWords) : Bool := w.dw4 &&& 1 != 0
def ldpc (w : RxDescWords) : Bool := (w.dw4 >>> 1) &&& 1 != 0
def stbc (w : RxDescWords) : Bool := (w.dw4 >>> 2) &&& 1 != 0

/-- `data_start`, `data_end` and the aligned size of the packet -/
def dataStart (w : RxDescWords) : ℕ := rxDescSize + w.drvinfoSize + w.shift
def dataEnd (w : RxDescWords) : ℕ := w.dataStart + w.packetLen
def frameLen (w : RxDescWords) : ℕ := w.packetLen - 4

/-- the length field the parser refuses before it looks at the rest of the packet -/
def badLength (w : RxDescWords) : Prop := w.packetLen = 0 ∨ w.packetLen > 4096

instance (w : RxDescWords) : Decidable w.badLength := by unfold badLength; infer_instance

theorem packetLen_lt (w : RxDescWords) : w.packetLen < 2 ^ 14 := Nat.and_lt_two_pow _ (by decide)

theorem drvinfoSize_le (w : RxDescWords) : w.drvinfoSize ≤ 120 := by
  have : (w.dw0 >>> 16) &&& 0x0f < 2 ^ 4 := Nat.and_lt_two_pow _ (by decide)
  unfold drvinfoSize; omega

theorem shift_le (w : RxDescWords) : w.shift ≤ 3 := by
  have : (w.dw0 >>> 24) &&& 0x03 < 2 ^ 2 := Nat.and_lt_two_pow _ (by decide)
  unfold shift; omega

end RxDescWords

def readRxDescWords (buf : List UInt8) : Checked RxDescWords := do
  let dw0 ← readLeU32 buf 0
  let dw3 ← readLeU32 buf 12
  let dw4 ← readLeU32 buf 16
  return { dw0, dw3, dw4 }

theorem readRxDescWords_ok {buf : List UInt8} (h : rxDescSize ≤ buf.length) :
    ∃ w, readRxDescWords buf = .ok w := by
  have hlen : 24 ≤ buf.length := h
  simp only [readRxDescWords, readLeU32_ok (show 0 + 4 ≤ buf.length by omega),
    readLeU32_ok (show 12 + 4 ≤ buf.length by omega), readLeU32_ok (show 16 + 4 ≤ buf.length by omega),
    checked_bind_ok]
  exact ⟨_, rfl⟩

/-- `(value + alignment - 1) & !(alignment - 1)` on `usize` -/
def alignUp (value alignment : ℕ) : ℕ := (value + alignment - 1) &&& (usizeMax - (alignment - 1))

/-- the next 128-byte boundary -/
theorem alignUp_eq {value : ℕ} (h : value < 2 ^ 63) :
    alignUp value rxAggregationAlignment = (value + 127) / 128 * 128 := by
  have hlt : value + 127 < 2 ^ 64 := by omega
  exact and_high_mask (k := 7) hlt (by norm_num)

/-- the length of a packet together with the padding the chip adds -/
def RxDescWords.consumed (w : RxDescWords) : ℕ := alignUp w.dataEnd rxAggregationAlignment

theorem RxDescWords.dataEnd_le (w : RxDescWords) : w.dataEnd ≤ 16530 := by
  have h1 := w.packetLen_lt
  have h2 := w.drvinfoSize_le
  have h3 := w.shift_le
  unfold dataEnd dataStart rxDescSize; omega

theorem RxDescWords.consumed_eq (w : RxDescWords) : w.consumed = (w.dataEnd + 127) / 128 * 128 :=
  alignUp_eq (lt_of_le_of_lt w.dataEnd_le (by norm_num))

theorem RxDescWords.dataEnd_le_consumed (w : RxDescWords) : w.dataEnd ≤ w.consumed := by
  rw [w.consumed_eq]; omega

/-! ## The parser -/

/-- the RSSI of a frame, whether it was measured, and where it comes from -/
def rxRssi (phyMetrics : Option Rtl8812PhyStatusMetrics) (rawPhyStatus : List UInt8) : Int8 × Bool × RxRssiSource :=
  match phyMetrics with
  | some metrics => (metrics.rssiDbm, true, .rtl8812PhyStatusBestPath)
  | none =>
    match rawPhyStatus.head? with
    | some raw => (clampDbm (raw.toNat - 110), true, .phyStatusFirstByte)
    | none => (-80, false, .fallbackNoPhyStatus)

/-- the PHY status bytes in front of the frame, at most 32 of them -/
def rxRawPhyStatus (w : RxDescWords) (buf : List UInt8) : Checked (List UInt8) :=
  if w.phyStatus && w.drvinfoSize > 0 then slice buf rxDescSize (rxDescSize + min w.drvinfoSize 32)
  else return []

theorem rxRawPhyStatus_total {w : RxDescWords} {buf : List UInt8} (h : w.dataEnd ≤ buf.length) :
    ∃ raw, rxRawPhyStatus w buf = .ok raw := by
  have hend : w.dataEnd = rxDescSize + w.drvinfoSize + w.shift + w.packetLen := rfl
  unfold rxRawPhyStatus
  split_ifs
  · exact ⟨_, slice_ok (by omega) (by omega)⟩
  · exact ⟨_, rfl⟩

def parseRxPacket (buf : List UInt8) (channel : Channel) : Checked ParsedRxPacket :=
  if buf.length < rxDescSize then return ⟨0, .needMoreData, none⟩
  else do
    let w ← readRxDescWords buf
    -- a length out of range: only the descriptor is consumed, not the packet
    if w.badLength then return ⟨min rxDescSize buf.length, .drop, none⟩
    else if w.dataEnd > buf.length then return ⟨0, .needMoreData, none⟩
    else if w.crcError || w.frameLen < ieee80211MinHeaderLen then return ⟨w.consumed, .drop, none⟩
    else
      let rawPhyStatus ← rxRawPhyStatus w buf
      let phyMetrics ← rtl8812PhyStatusMetrics rawPhyStatus w.rxRateRaw
      let rssi := rxRssi phyMetrics rawPhyStatus
      let data ← slice buf w.dataStart (w.dataStart + w.frameLen)
      return ⟨w.consumed, .frame, some {
        data
        rssiDbm := rssi.1
        rssiDbmValid := rssi.2.1
        rssiDbmSource := rssi.2.2
        noiseDbm := phyMetrics.map (·.noiseDbm)
        snrDb := phyMetrics.map (·.snrDb)
        snrDbSource := phyMetrics.map fun _ => .rtl8812PhyStatusBestPath
        channel
        phyStatus := w.phyStatus
        driverInfoSize := w.drvinfoSize
        rxShift := w.shift
        rawPhyStatus
        rxRateRaw := w.rxRateRaw
        rxRate := rxRateFromHw w.rxRateRaw
        rxBandwidthRaw := w.rxBandwidthRaw
        rxBandwidth := rxBandwidthFromRaw w.rxBandwidthRaw
        shortGi := w.shortGi
        ldpc := w.ldpc
        stbc := w.stbc
        crcError := w.crcError }⟩

variable {buf : List UInt8} {w : RxDescWords} {channel : Channel}

theorem parseRxPacket_short (h : buf.length < rxDescSize) :
    parseRxPacket buf channel = .ok ⟨0, .needMoreData, none⟩ := by
  rw [parseRxPacket, if_pos h]; rfl

theorem parseRxPacket_badLength (h : rxDescSize ≤ buf.length) (hw : readRxDescWords buf = .ok w) (hb : w.badLength) :
    parseRxPacket buf channel = .ok ⟨rxDescSize, .drop, none⟩ := by
  rw [parseRxPacket, if_neg (Nat.not_lt.2 h), hw, checked_bind_ok, if_pos hb, Nat.min_eq_left h]; rfl

theorem parseRxPacket_incomplete (h : rxDescSize ≤ buf.length) (hw : readRxDescWords buf = .ok w)
    (hb : ¬ w.badLength) (hend : w.dataEnd > buf.length) :
    parseRxPacket buf channel = .ok ⟨0, .needMoreData, none⟩ := by
  rw [parseRxPacket, if_neg (Nat.not_lt.2 h), hw, checked_bind_ok, if_neg hb, if_pos hend]; rfl

theorem parseRxPacket_dropped (h : rxDescSize ≤ buf.length) (hw : readRxDescWords buf = .ok w)
    (hb : ¬ w.badLength) (hend : w.dataEnd ≤ buf.length)
    (hd : w.crcError = true ∨ w.frameLen < ieee80211MinHeaderLen) :
    parseRxPacket buf channel = .ok ⟨w.consumed, .drop, none⟩ := by
  rw [parseRxPacket, if_neg (Nat.not_lt.2 h), hw, checked_bind_ok, if_neg hb, if_neg (Nat.not_lt.2 hend),
    if_pos (by simpa using hd)]
  rfl

variable (channel) in
/-- a good packet: the frame is the payload without its trailing frame check sequence -/
theorem parseRxPacket_frame (h : rxDescSize ≤ buf.length) (hw : readRxDescWords buf = .ok w)
    (hb : ¬ w.badLength) (hend : w.dataEnd ≤ buf.length) (hcrc : w.crcError = false)
    (hlen : ieee80211MinHeaderLen ≤ w.frameLen) :
    ∃ frame, parseRxPacket buf channel = .ok ⟨w.consumed, .frame, some frame⟩ ∧
      frame.data = (buf.drop w.dataStart).take w.frameLen ∧ frame.driverInfoSize = w.drvinfoSize ∧
      frame.rxShift = w.shift := by
  have hstart : w.dataStart + w.frameLen ≤ buf.length := by
    have : w.dataEnd = w.dataStart + w.packetLen := rfl
    have : w.frameLen = w.packetLen - 4 := rfl
    omega
  obtain ⟨raw, hraw⟩ := rxRawPhyStatus_total hend
  obtain ⟨metrics, hmetrics⟩ := rtl8812PhyStatusMetrics_total raw w.rxRateRaw
  have hslice : slice buf w.dataStart (w.dataStart + w.frameLen) = _ := slice_ok (Nat.le_add_right _ _) hstart
  rw [Nat.add_sub_cancel_left] at hslice
  rw [parseRxPacket, if_neg (Nat.not_lt.2 h), hw, checked_bind_ok, if_neg hb, if_neg (Nat.not_lt.2 hend),
    if_neg (by simp [hcrc, Nat.not_lt.2 hlen]), hraw, checked_bind_ok, hmetrics, checked_bind_ok, hslice,
    checked_bind_ok]
  exact ⟨_, rfl, rfl, rfl, rfl⟩

/-! ## What the parser returns on any bytes -/

/-- the shape of a parse result: the outcome decides whether a frame is there and how much was consumed -/
inductive ParsedShape : ParsedRxPacket → Prop where
  | needMoreData : ParsedShape ⟨0, .needMoreData, none⟩
  | drop {consumed : ℕ} (h : rxDescSize ≤ consumed) : ParsedShape ⟨consumed, .drop, none⟩
  | frame {consumed : ℕ} {frame : RxFrame} (h : rxDescSize ≤ consumed)
      (hlen : ieee80211MinHeaderLen ≤ frame.data.length) : ParsedShape ⟨consumed, .frame, some frame⟩

/-- **The parser is total.** On any bytes it returns a result, reads nothing out of range, and every frame it returns
has at least the 10 bytes of the smallest 802.11 header. -/
theorem parseRxPacket_total (buf : List UInt8) (channel : Channel) :
    ∃ parsed, parseRxPacket buf channel = .ok parsed ∧ ParsedShape parsed := by
  by_cases h : buf.length < rxDescSize
  · exact ⟨_, parseRxPacket_short h, .needMoreData⟩
  have h := Nat.not_lt.1 h
  obtain ⟨w, hw⟩ := readRxDescWords_ok h
  by_cases hb : w.badLength
  · exact ⟨_, parseRxPacket_badLength h hw hb, .drop le_rfl⟩
  by_cases hend : w.dataEnd > buf.length
  · exact ⟨_, parseRxPacket_incomplete h hw hb hend, .needMoreData⟩
  have hend := Nat.not_lt.1 hend
  have hconsumed : rxDescSize ≤ w.consumed := by
    refine le_trans ?_ w.dataEnd_le_consumed
    unfold RxDescWords.dataEnd RxDescWords.dataStart; omega
  by_cases hd : w.crcError = true ∨ w.frameLen < ieee80211MinHeaderLen
  · exact ⟨_, parseRxPacket_dropped h hw hb hend hd, .drop hconsumed⟩
  have hlen : ieee80211MinHeaderLen ≤ w.frameLen := Nat.not_lt.1 fun hlt => hd (Or.inr hlt)
  obtain ⟨frame, hparse, hdata, -, -⟩ := parseRxPacket_frame channel h hw hb hend
    (Bool.eq_false_iff.2 fun hc => hd (Or.inl hc)) hlen
  refine ⟨_, hparse, .frame hconsumed ?_⟩
  have hframe : w.frameLen = w.packetLen - 4 := rfl
  have hdataEnd : w.dataEnd = w.dataStart + w.packetLen := rfl
  rw [hdata, List.length_take, List.length_drop]
  exact le_min hlen (by omega)

end WfbLink.RadioCore
