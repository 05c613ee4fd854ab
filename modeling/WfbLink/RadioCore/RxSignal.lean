/-
The signal evidence of a received frame (`parse_rx_packet`, `rtl8812_phy_status_metrics`).

A descriptor may flag a PHY status, and carries between 0 and 15 units of driver information. The parser reports an RSSI
as valid, and SNR and noise beside it, only where the bytes for them are there.

- `parseRxPacket_signal`: what a parsed frame says about its signal, on any bytes.
-/
import WfbLink.RadioCore.RxDescriptor

namespace WfbLink.RadioCore

open WfbLink.Core

/-! ## Paths -/

/-- the RSSI of path A (0) or B (1) in a PHY status block -/
def pathRssi (block : List UInt8) (path : ℕ) : Int8 := clampDbm ((block.getD path 0 &&& 0x7f).toNat - 110)

/-- the SNR of the path, in units of half a dB in the block -/
def pathSnr (block : List UInt8) (path : ℕ) : Int8 := (block.getD (path + 15) 0).toInt8 >>> 1

/-- RSSI, SNR and noise are those of one path, and no path has a larger RSSI -/
structure BestPath (block : List UInt8) (path : ℕ) (metrics : Rtl8812PhyStatusMetrics) : Prop where
  path_le : path ≤ 1
  rssiDbm : metrics.rssiDbm = pathRssi block path
  snrDb : metrics.snrDb = pathSnr block path
  noiseDbm : metrics.noiseDbm = clampDbm (metrics.rssiDbm.toInt - metrics.snrDb.toInt)
  largest : ∀ other ≤ 1, pathRssi block other ≤ metrics.rssiDbm

/-- the metrics of a block that is too short, or of a CCK frame, are absent; others are those of the best path -/
theorem rtl8812PhyStatusMetrics_spec {raw : List UInt8} {rxRateRaw : UInt8} {metrics : Rtl8812PhyStatusMetrics}
    (h : rtl8812PhyStatusMetrics raw rxRateRaw = .ok (some metrics)) :
    rtl8812PhyStatus1stTypeMinLen ≤ raw.length ∧ 0x03 < rxRateRaw ∧ ∃ path, BestPath raw path metrics := by
  unfold rtl8812PhyStatusMetrics at h
  split_ifs at h with habsent
  · cases h
  · obtain ⟨hlen, hrate⟩ := not_or.1 habsent
    have hlen : 17 ≤ raw.length := Nat.not_lt.1 hlen
    simp only [index_of_lt (show 0 < raw.length by omega), index_of_lt (show 15 < raw.length by omega),
      index_of_lt (show 1 < raw.length by omega), index_of_lt (show 16 < raw.length by omega), checked_bind_ok] at h
    have hpath : ∀ path (hp : path ≤ 1), rtl8812PhyStatusPath raw[path] raw[path + 15] =
        ⟨pathRssi raw path, pathSnr raw path, clampDbm ((pathRssi raw path).toInt - (pathSnr raw path).toInt)⟩ := by
      intro path hp
      have hgain : raw.getD path 0 = raw[path] := by simp [show path < raw.length by omega]
      have hsnr : raw.getD (path + 15) 0 = raw[path + 15] := by simp [show path + 15 < raw.length by omega]
      rw [pathRssi, pathSnr, hgain, hsnr]
      rfl
    refine ⟨hlen, UInt8.not_le.1 hrate, ?_⟩
    rw [hpath 0 (by omega), hpath 1 le_rfl] at h
    obtain rfl := (Option.some.inj (Except.ok.inj h)).symm
    split_ifs with hbetter
    · refine ⟨1, le_rfl, rfl, rfl, rfl, fun other hother => ?_⟩
      obtain rfl | rfl : other = 0 ∨ other = 1 := by omega
      · exact Int8.le_of_lt hbetter
      · exact Int8.le_refl _
    · refine ⟨0, Nat.zero_le 1, rfl, rfl, rfl, fun other hother => ?_⟩
      obtain rfl | rfl : other = 0 ∨ other = 1 := by omega
      · exact Int8.le_refl _
      · exact Int8.not_lt.1 hbetter

/-! ## Rates -/

def cckRates : List TxRate := [.cck1m, .cck2m, .cck5_5m, .cck11m]

theorem rxRateFromHw_notCck {raw : UInt8} (h : 0x03 < raw) {rate : TxRate} (hrate : rate ∈ cckRates) :
    rxRateFromHw raw ≠ some rate := by
  simp only [cckRates, List.mem_cons, List.not_mem_nil, or_false] at hrate
  unfold rxRateFromHw
  split
  · exact absurd h (by decide)
  · exact absurd h (by decide)
  · exact absurd h (by decide)
  · exact absurd h (by decide)
  all_goals rcases hrate with rfl | rfl | rfl | rfl
  all_goals try split_ifs
  all_goals simp

/-! ## Frames -/

/-- what a frame may say about its signal, from the descriptor `w` in front of these bytes -/
structure SignalEvidence (w : RxDescWords) (bytes : List UInt8) (frame : RxFrame) : Prop where
  phyStatus : frame.phyStatus = w.phyStatus
  driverInfoSize : frame.driverInfoSize = w.drvinfoSize
  /-- the PHY status block is the driver information, up to 32 bytes of it -/
  rawPhyStatus : frame.rawPhyStatus =
    if w.phyStatus && w.drvinfoSize > 0 then (bytes.drop rxDescSize).take (min w.drvinfoSize 32) else []
  rssiValid : frame.rssiDbmValid = true ↔ w.phyStatus = true ∧ 0 < w.drvinfoSize
  bothOrNone : frame.snrDb.isSome = frame.noiseDbm.isSome
  needs : frame.snrDb.isSome = true → frame.rssiDbmValid = true ∧ (∀ rate ∈ cckRates, frame.rxRate ≠ some rate) ∧
    rtl8812PhyStatus1stTypeMinLen ≤ frame.rawPhyStatus.length
  path : ∀ snrDb noiseDbm, frame.snrDb = some snrDb → frame.noiseDbm = some noiseDbm →
    ∃ path, BestPath frame.rawPhyStatus path ⟨frame.rssiDbm, snrDb, noiseDbm⟩

/-- the PHY status block is empty where the descriptor has none -/
theorem rxRawPhyStatus_spec {w : RxDescWords} {buf raw : List UInt8} (hend : w.dataEnd ≤ buf.length)
    (h : rxRawPhyStatus w buf = .ok raw) :
    raw = (if w.phyStatus && w.drvinfoSize > 0 then (buf.drop rxDescSize).take (min w.drvinfoSize 32) else []) ∧
      (raw ≠ [] ↔ w.phyStatus = true ∧ 0 < w.drvinfoSize) := by
  have hdata : w.dataEnd = rxDescSize + w.drvinfoSize + w.shift + w.packetLen := rfl
  unfold rxRawPhyStatus at h
  split_ifs at h ⊢ with hflag
  · rw [slice_ok (Nat.le_add_right _ _) (by omega), Nat.add_sub_cancel_left] at h
    obtain rfl := (Except.ok.inj h).symm
    have hflags : w.phyStatus = true ∧ 0 < w.drvinfoSize := by simpa using hflag
    refine ⟨rfl, iff_of_true (List.length_pos_iff.1 ?_) hflags⟩
    rw [List.length_take, List.length_drop]
    omega
  · obtain rfl := (Except.ok.inj h).symm
    exact ⟨rfl, iff_of_false (fun h => h rfl) fun h => hflag (by simpa using h)⟩

/-- the RSSI is valid where there is a PHY status block -/
theorem rxRssi_valid {raw : List UInt8} {metrics : Option Rtl8812PhyStatusMetrics}
    (hmetrics : ∀ m, metrics = some m → raw ≠ []) : (rxRssi metrics raw).2.1 = true ↔ raw ≠ [] := by
  cases metrics with
  | some m => exact iff_of_true rfl (hmetrics m rfl)
  | none =>
    cases raw with
    | nil => exact iff_of_false Bool.false_ne_true fun h => h rfl
    | cons first rest => exact iff_of_true rfl (List.cons_ne_nil _ _)

/-- **The evidence of a frame.** On any bytes, a parsed frame says about its signal what the descriptor in front of it
and the bytes after that show. -/
theorem parseRxPacket_signal {buf : List UInt8} {channel : Channel} {parsed : ParsedRxPacket}
    (h : parseRxPacket buf channel = .ok parsed) (hframe : parsed.outcome = .frame) :
    ∃ w frame, readRxDescWords buf = .ok w ∧ parsed.frame = some frame ∧ SignalEvidence w buf frame := by
  unfold parseRxPacket at h
  split at h
  · cases h; cases hframe
  obtain ⟨w, hw, h⟩ := except_bind_ok h
  split at h
  · cases h; cases hframe
  split at h
  · cases h; cases hframe
  rename_i hend
  split at h
  · cases h; cases hframe
  obtain ⟨raw, hraw, h⟩ := except_bind_ok h
  obtain ⟨metrics, hmetrics, h⟩ := except_bind_ok h
  obtain ⟨data, -, h⟩ := except_bind_ok h
  cases h
  obtain ⟨hblock, hnonempty⟩ := rxRawPhyStatus_spec (Nat.not_lt.1 hend) hraw
  have hmeasured : ∀ m, metrics = some m → raw ≠ [] := by
    rintro m rfl
    have hlen : 17 ≤ raw.length := (rtl8812PhyStatusMetrics_spec hmetrics).1
    exact List.length_pos_iff.1 (by omega)
  have hvalid := rxRssi_valid hmeasured
  refine ⟨w, _, hw, rfl, rfl, rfl, hblock, hvalid.trans hnonempty, ?_, ?_, ?_⟩
  · exact (Option.isSome_map ..).trans (Option.isSome_map ..).symm
  · intro hsome
    obtain ⟨m, rfl⟩ := Option.isSome_iff_exists.1 ((Option.isSome_map ..).symm.trans hsome)
    obtain ⟨hlen, hrate, -⟩ := rtl8812PhyStatusMetrics_spec hmetrics
    exact ⟨rfl, fun rate hcck => rxRateFromHw_notCck hrate hcck, hlen⟩
  · intro snrDb noiseDbm hsnr hnoise
    obtain ⟨m, rfl, rfl⟩ := Option.map_eq_some_iff.1 hsnr
    cases hnoise
    exact (rtl8812PhyStatusMetrics_spec hmetrics).2.2

end WfbLink.RadioCore
