/-
TX power derived from the EFUSE (`wfb-radio-runtime/src/tx_power.rs`).

The EFUSE holds, for each path, a base index for every group of 5 GHz channels, and signed nibbles that the rates of a
family add to it. A plan lists eleven registers for each selected path, each with four lanes: a lane's index is base
plus difference plus the offset of its rate, held within the lane's limits, and the four indices are the bytes of the
register's value.

- `efuse_plan_safe_iff`: the indices of a plan are within the range of the hardware unless the maximum asked for is not,
  no profile lowers it, and the EFUSE drives a rate above the range.
-/
import WfbLink.Runtime.RadioSetup

namespace WfbLink.Runtime

open WfbLink.Core WfbLink.RadioCore

inductive Rtl8812auTxPowerSafetyProfile where
  | maxIndex
  | linuxCh36Ht20
deriving DecidableEq, Repr

/-! ## Rates and registers -/

inductive TxPowerRateFamily where
  | ofdm
  | ht
  | vht
deriving DecidableEq, Repr

structure TxPowerRateLaneSpec where
  lane : UInt8
  rate : String
  rateSection : String
  family : TxPowerRateFamily
  txStreams : UInt8
  byRateOffset : Int8

structure TxPowerEfuseRegisterSpec where
  name : String
  address : UInt16
  path : Rtl8812auRfPath
  lanes : List TxPowerRateLaneSpec

/-- a register that each path has under a name and an address of its own -/
def txPowerEfuseRegisterSpec (path : Rtl8812auRfPath) (registerA registerB : String × UInt16)
    (lanes : List TxPowerRateLaneSpec) : TxPowerEfuseRegisterSpec :=
  match path with
  | .a => ⟨registerA.1, registerA.2, path, lanes⟩
  -- `both` is unreachable: its specs are those of the two paths
  | .b | .both => ⟨registerB.1, registerB.2, path, lanes⟩

def txPowerEfusePathRegisterSpecs (path : Rtl8812auRfPath) : List TxPowerEfuseRegisterSpec :=
  [ txPowerEfuseRegisterSpec path ("rA_TxAGC_OFDM18_OFDM6", 0x0c24) ("rB_TxAGC_OFDM18_OFDM6", 0x0e24)
      [⟨0, "ofdm_6m", "ofdm", .ofdm, 1, 14⟩, ⟨1, "ofdm_9m", "ofdm", .ofdm, 1, 14⟩,
        ⟨2, "ofdm_12m", "ofdm", .ofdm, 1, 12⟩, ⟨3, "ofdm_18m", "ofdm", .ofdm, 1, 12⟩],
    txPowerEfuseRegisterSpec path ("rA_TxAGC_OFDM54_OFDM24", 0x0c28) ("rB_TxAGC_OFDM54_OFDM24", 0x0e28)
      [⟨0, "ofdm_24m", "ofdm", .ofdm, 1, 10⟩, ⟨1, "ofdm_36m", "ofdm", .ofdm, 1, 6⟩,
        ⟨2, "ofdm_48m", "ofdm", .ofdm, 1, 2⟩, ⟨3, "ofdm_54m", "ofdm", .ofdm, 1, 0⟩],
    txPowerEfuseRegisterSpec path ("rA_TxAGC_MCS3_MCS0", 0x0c2c) ("rB_TxAGC_MCS3_MCS0", 0x0e2c)
      [⟨0, "mcs0", "ht_1ss", .ht, 1, 16⟩, ⟨1, "mcs1", "ht_1ss", .ht, 1, 16⟩,
        ⟨2, "mcs2", "ht_1ss", .ht, 1, 14⟩, ⟨3, "mcs3", "ht_1ss", .ht, 1, 12⟩],
    txPowerEfuseRegisterSpec path ("rA_TxAGC_MCS7_MCS4", 0x0c30) ("rB_TxAGC_MCS7_MCS4", 0x0e30)
      [⟨0, "mcs4", "ht_1ss", .ht, 1, 8⟩, ⟨1, "mcs5", "ht_1ss", .ht, 1, 4⟩,
        ⟨2, "mcs6", "ht_1ss", .ht, 1, 2⟩, ⟨3, "mcs7", "ht_1ss", .ht, 1, 0⟩],
    txPowerEfuseRegisterSpec path ("rA_TxAGC_NSS1_7_NSS1_4", 0x0c34) ("rB_TxAGC_NSS1_7_NSS1_4", 0x0e34)
      [⟨0, "mcs8", "ht_2ss", .ht, 2, 16⟩, ⟨1, "mcs9", "ht_2ss", .ht, 2, 16⟩,
        ⟨2, "mcs10", "ht_2ss", .ht, 2, 14⟩, ⟨3, "mcs11", "ht_2ss", .ht, 2, 12⟩],
    txPowerEfuseRegisterSpec path ("rA_TxAGC_NSS1_11_NSS1_8", 0x0c38) ("rB_TxAGC_NSS1_11_NSS1_8", 0x0e38)
      [⟨0, "mcs12", "ht_2ss", .ht, 2, 8⟩, ⟨1, "mcs13", "ht_2ss", .ht, 2, 4⟩,
        ⟨2, "mcs14", "ht_2ss", .ht, 2, 2⟩, ⟨3, "mcs15", "ht_2ss", .ht, 2, 0⟩],
    txPowerEfuseRegisterSpec path ("rA_TxAGC_NSS1_3_NSS1_0", 0x0c3c) ("rB_TxAGC_NSS1_3_NSS1_0", 0x0e3c)
      [⟨0, "vht1ss_mcs0", "vht_1ss", .vht, 1, 16⟩, ⟨1, "vht1ss_mcs1", "vht_1ss", .vht, 1, 16⟩,
        ⟨2, "vht1ss_mcs2", "vht_1ss", .vht, 1, 14⟩, ⟨3, "vht1ss_mcs3", "vht_1ss", .vht, 1, 12⟩],
    txPowerEfuseRegisterSpec path ("rA_TxAGC_NSS2_3_NSS2_0", 0x0c40) ("rB_TxAGC_NSS2_3_NSS2_0", 0x0e40)
      [⟨0, "vht1ss_mcs4", "vht_1ss", .vht, 1, 8⟩, ⟨1, "vht1ss_mcs5", "vht_1ss", .vht, 1, 4⟩,
        ⟨2, "vht1ss_mcs6", "vht_1ss", .vht, 1, 2⟩, ⟨3, "vht1ss_mcs7", "vht_1ss", .vht, 1, 0⟩],
    txPowerEfuseRegisterSpec path ("rA_TxAGC_NSS2_7_NSS2_4", 0x0c44) ("rB_TxAGC_NSS2_7_NSS2_4", 0x0e44)
      [⟨0, "vht1ss_mcs8", "vht_1ss", .vht, 1, -2⟩, ⟨1, "vht1ss_mcs9", "vht_1ss", .vht, 1, -4⟩,
        ⟨2, "vht2ss_mcs0", "vht_2ss", .vht, 2, 16⟩, ⟨3, "vht2ss_mcs1", "vht_2ss", .vht, 2, 16⟩],
    txPowerEfuseRegisterSpec path ("rA_TxAGC_NSS2_11_NSS2_8", 0x0c48) ("rB_TxAGC_NSS2_11_NSS2_8", 0x0e48)
      [⟨0, "vht2ss_mcs2", "vht_2ss", .vht, 2, 14⟩, ⟨1, "vht2ss_mcs3", "vht_2ss", .vht, 2, 12⟩,
        ⟨2, "vht2ss_mcs4", "vht_2ss", .vht, 2, 8⟩, ⟨3, "vht2ss_mcs5", "vht_2ss", .vht, 2, 4⟩],
    txPowerEfuseRegisterSpec path ("rA_TxAGC_NSS3_3_NSS3_0", 0x0c4c) ("rB_TxAGC_NSS3_3_NSS3_0", 0x0e4c)
      [⟨0, "vht2ss_mcs6", "vht_2ss", .vht, 2, 2⟩, ⟨1, "vht2ss_mcs7", "vht_2ss", .vht, 2, 0⟩,
        ⟨2, "vht2ss_mcs8", "vht_2ss", .vht, 2, -2⟩, ⟨3, "vht2ss_mcs9", "vht_2ss", .vht, 2, -4⟩] ]

def txPowerEfuseRegisterSpecs : Rtl8812auRfPath → List TxPowerEfuseRegisterSpec
  | .a => txPowerEfusePathRegisterSpecs .a
  | .b => txPowerEfusePathRegisterSpecs .b
  | .both => txPowerEfusePathRegisterSpecs .a ++ txPowerEfusePathRegisterSpecs .b

/-! ## EFUSE bytes -/

def rtl8812auEfuseTxPowerStart : ℕ := 0x10

structure TxPowerEfuseDiff where
  kind : String
  offset : Option ℕ
  sourceByte : Option UInt8
  value : Int8
deriving DecidableEq, Repr

/-- the channels of each group, first and last -/
def txPower5gChannelGroups : List (UInt8 × UInt8 × UInt8) :=
  [(15, 42, 0), (44, 48, 1), (50, 58, 2), (60, 80, 3), (82, 106, 4), (108, 114, 5), (116, 122, 6), (124, 130, 7),
    (132, 138, 8), (140, 144, 9), (149, 155, 10), (157, 161, 11), (165, 171, 12), (173, 177, 13)]

def txPower5gChannelGroup (channel : UInt8) : Option UInt8 :=
  (txPower5gChannelGroups.find? fun (first, last, _) => first ≤ channel && channel ≤ last).map fun (_, _, group) =>
    group

def txPower5gPathOffset : Rtl8812auRfPath → ℕ
  | .a => 18
  -- `both` is unreachable: a register belongs to one path
  | .b | .both => 60

def txPowerSignExtend4bit (value : UInt8) : Int8 :=
  let nibble := value &&& 0x0f
  if nibble &&& 0x08 ≠ 0 then nibble.toInt8 - 16 else nibble.toInt8

def txPowerDiffFromByte (data : List UInt8) (offset : ℕ) (highNibble : Bool) (kind : String) :
    Except RuntimeRadioError TxPowerEfuseDiff :=
  match data[offset]? with
  | none =>
    .error (.new "tx_power_efuse_diff_out_of_range"
      s!"EFUSE TX-power diff offset {offset} is outside the TX-power region")
  | some byte =>
    let nibble := if highNibble then byte >>> 4 else byte &&& 0x0f
    .ok {
      kind
      offset := some (rtl8812auEfuseTxPowerStart + offset)
      sourceByte := some byte
      value := txPowerSignExtend4bit nibble }

def txPowerEfuse5gDiff (data : List UInt8) (path : Rtl8812auRfPath) (lane : TxPowerRateLaneSpec)
    (bandwidth : Bandwidth) : Except RuntimeRadioError TxPowerEfuseDiff :=
  let txIndex := lane.txStreams.toNat - 1
  let pathOffset := txPower5gPathOffset path
  match lane.family with
  | .ofdm =>
    match txIndex with
    | 0 => txPowerDiffFromByte data (pathOffset + 14) false "ofdm_5g_diff"
    | 1 => txPowerDiffFromByte data (pathOffset + 18) true "ofdm_5g_diff"
    | 2 => txPowerDiffFromByte data (pathOffset + 18) false "ofdm_5g_diff"
    | 3 => txPowerDiffFromByte data (pathOffset + 19) false "ofdm_5g_diff"
    | _ =>
      .error (.new "tx_power_stream_count_unsupported" s!"unsupported OFDM TX stream count {lane.txStreams}")
  | .ht | .vht =>
    match bandwidth with
    | .mhz20 =>
      match txIndex with
      | 0 => txPowerDiffFromByte data (pathOffset + 14) true "bw20_5g_diff"
      | 1 => txPowerDiffFromByte data (pathOffset + 15) false "bw20_5g_diff"
      | 2 => txPowerDiffFromByte data (pathOffset + 16) false "bw20_5g_diff"
      | 3 => txPowerDiffFromByte data (pathOffset + 17) false "bw20_5g_diff"
      | _ =>
        .error (.new "tx_power_stream_count_unsupported" s!"unsupported HT/VHT TX stream count {lane.txStreams}")
    | .mhz40 =>
      match txIndex with
      | 0 => .ok ⟨"bw40_5g_diff_default_1ss", none, none, 0⟩
      | 1 => txPowerDiffFromByte data (pathOffset + 15) true "bw40_5g_diff"
      | 2 => txPowerDiffFromByte data (pathOffset + 16) true "bw40_5g_diff"
      | 3 => txPowerDiffFromByte data (pathOffset + 17) true "bw40_5g_diff"
      | _ =>
        .error (.new "tx_power_stream_count_unsupported" s!"unsupported HT/VHT TX stream count {lane.txStreams}")
    | .mhz80 =>
      if txIndex ≤ 3 then txPowerDiffFromByte data (pathOffset + 20 + txIndex) true "bw80_5g_diff"
      else
        .error (.new "tx_power_stream_count_unsupported" s!"unsupported HT/VHT TX stream count {lane.txStreams}")

section Clamp

variable (profile : Rtl8812auTxPowerSafetyProfile) (maxIndex : UInt8) (channel : Channel) (bandwidth : Bandwidth)
  (path : Rtl8812auRfPath) (lane : TxPowerRateLaneSpec)

def profileMax : UInt8 :=
  match profile with
  | .maxIndex => maxIndex
  | .linuxCh36Ht20 =>
    if channel.number = 36 ∧ bandwidth = .mhz20 then
      match path, lane.family, lane.txStreams with
      | .a, .ofdm, _ => 0x1b
      | .b, .ofdm, _ => 0x1d
      | .a, _, 1 => 0x17
      | .b, _, 1 => 0x1c
      | .a, _, 2 => 0x15
      | .b, _, 2 => 0x1a
      | _, _, _ => maxIndex
    else maxIndex

def txPowerSafetyClamp : UInt8 := min (profileMax profile maxIndex channel bandwidth path lane) maxIndex

end Clamp

/-! ## Plan -/

structure Rtl8812auTxPowerDerivedLaneReport where
  lane : UInt8
  rate : String
  rateSection : String
  txStreams : UInt8
  efuseBaseOffset : ℕ
  efuseBaseValue : UInt8
  efuseDiffKind : String
  efuseDiffOffset : Option ℕ
  efuseDiffSourceHex : Option String
  efuseDiffValue : Int8
  byRateOffset : Int8
  trackingOffset : Int8
  unclampedIndex : ℤ
  clampProfile : Rtl8812auTxPowerSafetyProfile
  clampMaxIndex : UInt8
  finalIndex : UInt8
  clamped : Bool

structure Rtl8812auTxPowerDerivedWriteReport where
  name : String
  address : UInt16
  path : Rtl8812auRfPath
  value : UInt32
  lanes : List Rtl8812auTxPowerDerivedLaneReport

structure Rtl8812auTxPowerChannelGroupReport where
  band : String
  group : UInt8
  groupName : String
deriving DecidableEq, Repr

/-- the plan as it is reported; `toReport` is what programming reads of it -/
structure Rtl8812auTxPowerEfusePlan where
  channel : UInt8
  bandwidthMhz : UInt16
  channelGroup : Rtl8812auTxPowerChannelGroupReport
  selectedPath : Rtl8812auRfPath
  programmedPaths : List Rtl8812auRfPath
  safetyProfile : Rtl8812auTxPowerSafetyProfile
  maxIndex : UInt8
  writes : List Rtl8812auTxPowerDerivedWriteReport

def Rtl8812auTxPowerEfusePlan.toReport (plan : Rtl8812auTxPowerEfusePlan) : Rtl8812auTxPowerEfusePlanReport :=
  ⟨plan.selectedPath, plan.writes.map fun write => ⟨write.name, write.address, write.value⟩⟩

/-- `x.clamp(low, high)` -/
def clamp (x low high : ℤ) : ℤ := if x < low then low else if high < x then high else x

section Plan

variable (txPowerData : List UInt8) (channel : Channel) (bandwidth : Bandwidth)
  (safetyProfile : Rtl8812auTxPowerSafetyProfile) (maxIndex : UInt8)

/-- the pass over one lane; an `i16` holds any sum of three bytes -/
def planLane (path : Rtl8812auRfPath) (baseOffset : ℕ) (baseValue : UInt8) (lane : TxPowerRateLaneSpec) :
    Except RuntimeRadioError Rtl8812auTxPowerDerivedLaneReport := do
  let diff ← txPowerEfuse5gDiff txPowerData path lane bandwidth
  let unclamped : ℤ := baseValue.toNat + diff.value.toInt + lane.byRateOffset.toInt
  let clampMax := txPowerSafetyClamp safetyProfile maxIndex channel bandwidth path lane
  let clampMin : UInt8 := if clampMax = 0 then 0 else 1
  let finalIndex := UInt8.ofNat (clamp unclamped clampMin.toNat clampMax.toNat).toNat
  return {
    lane := lane.lane
    rate := lane.rate
    rateSection := lane.rateSection
    txStreams := lane.txStreams
    efuseBaseOffset := rtl8812auEfuseTxPowerStart + baseOffset
    efuseBaseValue := baseValue
    efuseDiffKind := diff.kind
    efuseDiffOffset := diff.offset
    efuseDiffSourceHex := diff.sourceByte.map fun byte => formatRegisterValue byte.toNat 2
    efuseDiffValue := diff.value
    byRateOffset := lane.byRateOffset
    trackingOffset := 0
    unclampedIndex := unclamped
    clampProfile := safetyProfile
    clampMaxIndex := clampMax
    finalIndex
    clamped := unclamped != finalIndex.toNat }

/-- `final_index << (lane * 8)` -/
def laneBits (lane : Rtl8812auTxPowerDerivedLaneReport) : UInt32 :=
  lane.finalIndex.toUInt32 <<< (lane.lane.toUInt32 * 8)

/-- `value |= ..`, over the lanes of a register -/
def packedLanes (lanes : List Rtl8812auTxPowerDerivedLaneReport) : UInt32 :=
  lanes.foldl (fun value lane => value ||| laneBits lane) 0

/-- the pass over one register -/
def planWrite (group : UInt8) (spec : TxPowerEfuseRegisterSpec) :
    Except RuntimeRadioError Rtl8812auTxPowerDerivedWriteReport := do
  let baseOffset := txPower5gPathOffset spec.path + group.toNat
  match txPowerData[baseOffset]? with
  | none =>
    .error (.new "tx_power_efuse_base_out_of_range"
      s!"EFUSE TX-power base offset {baseOffset} is outside the TX-power region")
  | some baseValue =>
    if rtl8812auTxPowerIndexMax < baseValue then
      .error (.new "tx_power_efuse_base_invalid"
        s!"EFUSE TX-power base {formatRegisterValue baseValue.toNat 2} at offset {rtl8812auEfuseTxPowerStart + baseOffset} exceeds RTL8812AU max index {formatRegisterValue rtl8812auTxPowerIndexMax.toNat 2}")
    else
      let lanes ← spec.lanes.mapM (planLane txPowerData channel bandwidth safetyProfile maxIndex spec.path baseOffset
        baseValue)
      return { name := spec.name, address := spec.address, path := spec.path, value := packedLanes lanes, lanes }

def planRtl8812auEfuseTxPower (selectedPath : Rtl8812auRfPath) :
    Except RuntimeRadioError Rtl8812auTxPowerEfusePlan :=
  if channel.band ≠ .ghz5 then
    .error (.new "tx_power_efuse_band_unsupported"
      "EFUSE-derived TX power currently supports RTL8812AU 5 GHz channel groups only")
  else
    match txPower5gChannelGroup channel.number with
    | none =>
      .error (.new "tx_power_efuse_channel_group_unknown"
        s!"no RTL8812AU 5 GHz TX-power group for channel {channel.number}")
    | some group => do
      let specs := txPowerEfuseRegisterSpecs selectedPath
      let writes ← specs.mapM (planWrite txPowerData channel bandwidth safetyProfile maxIndex group)
      return {
        channel := channel.number
        bandwidthMhz := bandwidth.mhz
        channelGroup := {
          band := "5ghz"
          group
          groupName := "5g_group_" ++ String.ofList ((Nat.toDigits 10 group.toNat).leftpad 2 '0') }
        selectedPath
        programmedPaths := specs.foldl (fun programmed spec =>
          if spec.path ∈ programmed then programmed else programmed ++ [spec.path]) []
        safetyProfile
        maxIndex
        writes }

end Plan

/-! ## What a plan is asked -/

/-- the paths a selection programs -/
def selectedPaths : Rtl8812auRfPath → List Rtl8812auRfPath
  | .a => [.a]
  | .b => [.b]
  | .both => [.a, .b]

/-- the nibble a family of rates adds to the base: its offset in the bytes of a path, and whether it is the high one -/
def diffNibble : TxPowerRateFamily → UInt8 → Bandwidth → Option (ℕ × Bool)
  | .ofdm, _, _ => some (14, false)
  | _, 1, .mhz20 => some (14, true)
  | _, _, .mhz20 => some (15, false)
  | _, 1, .mhz40 => none
  | _, _, .mhz40 => some (15, true)
  | _, 1, .mhz80 => some (20, true)
  | _, _, .mhz80 => some (21, true)

/-- a nibble, as a signed number -/
def signedNibble (byte : UInt8) (high : Bool) : ℤ :=
  let nibble := if high then byte.toNat / 16 else byte.toNat % 16
  if nibble < 8 then nibble else nibble - 16

section Ask

variable (data : List UInt8) (channel : Channel) (bandwidth : Bandwidth)
  (safetyProfile : Rtl8812auTxPowerSafetyProfile) (maxIndex : UInt8)

/-- what the EFUSE adds to the base for a family of rates -/
def efuseDiff (path : Rtl8812auRfPath) (family : TxPowerRateFamily) (streams : UInt8) : ℤ :=
  match diffNibble family streams bandwidth with
  | none => 0
  | some (offset, high) => signedNibble (data.getD (txPower5gPathOffset path + offset) 0) high

/-- the base index of a group of channels -/
def efuseBase (path : Rtl8812auRfPath) (group : UInt8) : ℕ :=
  (data.getD (txPower5gPathOffset path + group.toNat) 0).toNat

/-- a lane's index is the sum of its three parts, held within the lane's limits -/
structure LaneDerived (path : Rtl8812auRfPath) (group : UInt8) (lane : TxPowerRateLaneSpec)
    (report : Rtl8812auTxPowerDerivedLaneReport) : Prop where
  number : report.lane = lane.lane
  limit : report.clampMaxIndex = txPowerSafetyClamp safetyProfile maxIndex channel bandwidth path lane
  exactSum : (report.finalIndex.toNat : ℤ) =
    clamp (efuseBase data path group + efuseDiff data bandwidth path lane.family lane.txStreams +
      lane.byRateOffset.toInt) (min 1 report.clampMaxIndex.toNat) report.clampMaxIndex.toNat

/-- a register's value is its four indices, one byte each -/
structure WriteDerived (group : UInt8) (spec : TxPowerEfuseRegisterSpec)
    (write : Rtl8812auTxPowerDerivedWriteReport) : Prop where
  register : (write.name, write.address, write.path) = (spec.name, spec.address, spec.path)
  lanes : List.Forall₂ (LaneDerived data channel bandwidth safetyProfile maxIndex spec.path group) spec.lanes
    write.lanes
  packed : ∃ a b c d, write.lanes.map (·.finalIndex) = [a, b, c, d] ∧ write.value.toNat = leU32 a b c d

/-- a plan never asks for more than the hardware has, nor for more than it may -/
structure PlanSafe (selectedPath : Rtl8812auRfPath) (plan : Rtl8812auTxPowerEfusePlan) : Prop where
  withinRange : ∀ write ∈ plan.writes, ∀ lane ∈ write.lanes, lane.finalIndex ≤ rtl8812auTxPowerIndexMax
  withinMax : ∀ write ∈ plan.writes, ∀ lane ∈ write.lanes, lane.finalIndex ≤ maxIndex
  derived : ∃ group, txPower5gChannelGroup channel.number = some group ∧
    List.Forall₂ (WriteDerived data channel bandwidth safetyProfile maxIndex group)
      (txPowerEfuseRegisterSpecs selectedPath) plan.writes

/-- the EFUSE bytes of a path are there, and its base is an index of the hardware -/
def Programmable (group : UInt8) (path : Rtl8812auRfPath) : Prop :=
  txPower5gPathOffset path + (if bandwidth = .mhz80 then 21 else 15) < data.length ∧
    efuseBase data path group ≤ rtl8812auTxPowerIndexMax.toNat

/-- the rates with the largest offset of each family that the EFUSE tells apart -/
def hottestRates : List (TxPowerRateFamily × UInt8 × ℤ) := [(.ofdm, 1, 14), (.ht, 1, 16), (.ht, 2, 16)]

/-- nothing keeps the plan within the range: it is not refused, the maximum asked for is out of range, no profile lowers
it, and the EFUSE drives a rate that high -/
def Overdriven (selectedPath : Rtl8812auRfPath) : Prop :=
  channel.band = .ghz5 ∧ rtl8812auTxPowerIndexMax < maxIndex ∧
    ¬ (safetyProfile = .linuxCh36Ht20 ∧ channel.number = 36 ∧ bandwidth = .mhz20) ∧
    ∃ group, txPower5gChannelGroup channel.number = some group ∧
      (∀ path ∈ selectedPaths selectedPath, Programmable data bandwidth group path) ∧
      ∃ path ∈ selectedPaths selectedPath, ∃ rate ∈ hottestRates,
        (rtl8812auTxPowerIndexMax.toNat : ℤ) <
          efuseBase data path group + efuseDiff data bandwidth path rate.1 rate.2.1 + rate.2.2

end Ask

/-! ## Tables -/

/-- what a lane of the tables can be: its family, its streams, and how high its offset can get -/
def TableLane (lane : TxPowerRateLaneSpec) : Prop :=
  (lane.family = .ofdm ∧ lane.txStreams = 1 ∧ lane.byRateOffset.toInt ≤ 14) ∨
    (lane.family ≠ .ofdm ∧ (lane.txStreams = 1 ∨ lane.txStreams = 2) ∧ lane.byRateOffset.toInt ≤ 16)

instance (lane : TxPowerRateLaneSpec) : Decidable (TableLane lane) := by unfold TableLane; infer_instance

theorem specs_table {selected : Rtl8812auRfPath} :
    ∀ spec ∈ txPowerEfuseRegisterSpecs selected, spec.path ∈ selectedPaths selected ∧
      spec.lanes.map (·.lane) = [0, 1, 2, 3] ∧ ∀ lane ∈ spec.lanes, TableLane lane := by
  cases selected <;> decide

/-- every selected path has a register for the hottest rate of each family -/
theorem specs_hottest {selected : Rtl8812auRfPath} :
    ∀ path ∈ selectedPaths selected, ∀ rate ∈ hottestRates,
      ∃ spec ∈ txPowerEfuseRegisterSpecs selected, spec.path = path ∧ ∃ lane ∈ spec.lanes,
        lane.family = rate.1 ∧ lane.txStreams = rate.2.1 ∧ lane.byRateOffset.toInt = rate.2.2 := by
  cases selected <;> decide

theorem channelGroup_le {channel group : UInt8} (h : txPower5gChannelGroup channel = some group) :
    group.toNat ≤ 13 := by
  have hall : ∀ entry ∈ txPower5gChannelGroups, entry.2.2.toNat ≤ 13 := by decide
  unfold txPower5gChannelGroup at h
  obtain ⟨entry, hfind, rfl⟩ := Option.map_eq_some_iff.mp h
  exact hall entry (List.mem_of_find?_eq_some hfind)

/-! ## Lanes -/

theorem clamp_bounds {x low high : ℤ} (h : low ≤ high) : low ≤ clamp x low high ∧ clamp x low high ≤ high := by
  unfold clamp
  split_ifs <;> omega

theorem lt_clamp_iff {bound x low high : ℤ} (hlow : low ≤ bound) :
    bound < clamp x low high ↔ bound < x ∧ bound < high := by
  unfold clamp
  split_ifs <;> omega

theorem signExtend_nibble (byte : UInt8) (high : Bool) :
    (txPowerSignExtend4bit (if high then byte >>> 4 else byte &&& 0x0f)).toInt = signedNibble byte high := by
  have hall : ∀ n < 256, ∀ high : Bool,
      (txPowerSignExtend4bit (if high then UInt8.ofNat n >>> 4 else UInt8.ofNat n &&& 0x0f)).toInt =
        signedNibble (UInt8.ofNat n) high := by decide +kernel
  have hbyte := hall byte.toNat byte.toNat_lt high
  rwa [UInt8.ofNat_toNat] at hbyte

section Lanes

variable {data : List UInt8} {channel : Channel} {bandwidth : Bandwidth}
  {safetyProfile : Rtl8812auTxPowerSafetyProfile} {maxIndex : UInt8}

theorem diffFromByte_value {offset : ℕ} {high : Bool} {kind : String} {diff : TxPowerEfuseDiff}
    (h : txPowerDiffFromByte data offset high kind = .ok diff) :
    offset < data.length ∧ diff.value.toInt = signedNibble (data.getD offset 0) high := by
  unfold txPowerDiffFromByte at h
  cases hbyte : data[offset]? with
  | none =>
    rw [hbyte] at h
    exact nomatch h
  | some byte =>
    rw [hbyte] at h
    obtain rfl := Except.ok.inj h
    refine ⟨(List.getElem?_eq_some_iff.mp hbyte).1, ?_⟩
    rw [List.getD_eq_getElem?_getD, hbyte]
    exact signExtend_nibble byte high

theorem diffFromByte_exists {offset : ℕ} (h : offset < data.length) (high : Bool) (kind : String) :
    ∃ diff, txPowerDiffFromByte data offset high kind = .ok diff := by
  unfold txPowerDiffFromByte
  rw [List.getElem?_eq_getElem h]
  exact ⟨_, rfl⟩

/-- the tables read one nibble, or none -/
theorem efuse5gDiff_cases (data : List UInt8) (path : Rtl8812auRfPath) (bandwidth : Bandwidth)
    {lane : TxPowerRateLaneSpec} (hlane : TableLane lane) :
    (diffNibble lane.family lane.txStreams bandwidth = none ∧
      ∃ kind, txPowerEfuse5gDiff data path lane bandwidth = .ok ⟨kind, none, none, 0⟩) ∨
    ∃ offset high kind, diffNibble lane.family lane.txStreams bandwidth = some (offset, high) ∧
      offset ≤ (if bandwidth = .mhz80 then 21 else 15) ∧
      txPowerEfuse5gDiff data path lane bandwidth =
        txPowerDiffFromByte data (txPower5gPathOffset path + offset) high kind := by
  obtain ⟨number, rate, rateSection, family, streams, byRate⟩ := lane
  rcases hlane with ⟨hfamily, hstreams, -⟩ | ⟨hfamily, hstreams, -⟩
  · obtain rfl : family = .ofdm := hfamily
    obtain rfl : streams = 1 := hstreams
    exact .inr ⟨14, false, _, rfl, by split <;> omega, rfl⟩
  · have hne : family ≠ .ofdm := hfamily
    have htwo : streams = 1 ∨ streams = 2 := hstreams
    cases family with
    | ofdm => exact absurd rfl hne
    | ht | vht =>
      rcases htwo with rfl | rfl
      · cases bandwidth with
        | mhz20 => exact .inr ⟨14, true, _, rfl, by decide, rfl⟩
        | mhz40 => exact .inl ⟨rfl, _, rfl⟩
        | mhz80 => exact .inr ⟨20, true, _, rfl, by decide, rfl⟩
      · cases bandwidth with
        | mhz20 => exact .inr ⟨15, false, _, rfl, by decide, rfl⟩
        | mhz40 => exact .inr ⟨15, true, _, rfl, by decide, rfl⟩
        | mhz80 => exact .inr ⟨21, true, _, rfl, by decide, rfl⟩

theorem efuse5gDiff_value {path : Rtl8812auRfPath} {lane : TxPowerRateLaneSpec} (hlane : TableLane lane)
    {diff : TxPowerEfuseDiff} (h : txPowerEfuse5gDiff data path lane bandwidth = .ok diff) :
    diff.value.toInt = efuseDiff data bandwidth path lane.family lane.txStreams := by
  unfold efuseDiff
  rcases efuse5gDiff_cases data path bandwidth hlane with ⟨hnone, kind, hdiff⟩ | ⟨offset, high, kind, hsome, -, hdiff⟩
  · rw [hdiff] at h
    obtain rfl := Except.ok.inj h
    rw [hnone]
    rfl
  · rw [hdiff] at h
    rw [hsome]
    exact (diffFromByte_value h).2

theorem efuse5gDiff_exists {path : Rtl8812auRfPath} {lane : TxPowerRateLaneSpec} (hlane : TableLane lane)
    (hlength : txPower5gPathOffset path + (if bandwidth = .mhz80 then 21 else 15) < data.length) :
    ∃ diff, txPowerEfuse5gDiff data path lane bandwidth = .ok diff := by
  rcases efuse5gDiff_cases data path bandwidth hlane with ⟨-, kind, hdiff⟩ | ⟨offset, high, kind, -, hle, hdiff⟩
  · exact ⟨_, hdiff⟩
  · rw [hdiff]
    exact diffFromByte_exists (by omega) high kind

/-- the two-stream rates read the last byte of all -/
theorem length_of_efuse5gDiff {path : Rtl8812auRfPath} {lane : TxPowerRateLaneSpec} (hfamily : lane.family = .ht)
    (hstreams : lane.txStreams = 2) {diff : TxPowerEfuseDiff}
    (h : txPowerEfuse5gDiff data path lane bandwidth = .ok diff) :
    txPower5gPathOffset path + (if bandwidth = .mhz80 then 21 else 15) < data.length := by
  unfold txPowerEfuse5gDiff at h
  rw [hfamily, hstreams] at h
  cases bandwidth with
  | mhz20 | mhz40 | mhz80 => exact (diffFromByte_value h).1

theorem planLane_derived {path : Rtl8812auRfPath} {group base : UInt8}
    (hbase : data[txPower5gPathOffset path + group.toNat]? = some base) {lane : TxPowerRateLaneSpec}
    (hlane : TableLane lane) {report : Rtl8812auTxPowerDerivedLaneReport}
    (h : planLane data channel bandwidth safetyProfile maxIndex path (txPower5gPathOffset path + group.toNat) base
      lane = .ok report) :
    LaneDerived data channel bandwidth safetyProfile maxIndex path group lane report := by
  unfold planLane at h
  obtain ⟨diff, hdiff, h⟩ := except_bind_ok h
  obtain rfl := Except.ok.inj h
  refine ⟨rfl, rfl, ?_⟩
  have hmin : ∀ limit : UInt8, ((if limit = 0 then 0 else 1 : UInt8).toNat : ℤ) = min 1 (limit.toNat : ℤ) := by
    intro limit
    split_ifs with hzero
    · rw [hzero]; rfl
    · have hpos : limit.toNat ≠ 0 := fun hz => hzero (UInt8.toNat_inj.mp hz)
      change (1 : ℤ) = min 1 (limit.toNat : ℤ)
      omega
  have hsum : efuseBase data path group = base.toNat := by
    rw [efuseBase, List.getD_eq_getElem?_getD, hbase, Option.getD_some]
  dsimp only
  rw [hmin, hsum, ← efuse5gDiff_value hlane hdiff]
  generalize hlimit : txPowerSafetyClamp safetyProfile maxIndex channel bandwidth path lane = limit
  have hle := limit.toNat_lt
  have hbounds := @clamp_bounds (base.toNat + diff.value.toInt + lane.byRateOffset.toInt) (min 1 (limit.toNat : ℤ))
    limit.toNat (by omega)
  rw [UInt8.toNat_ofNat', Nat.mod_eq_of_lt (by omega)]
  omega

theorem planLane_exists {path : Rtl8812auRfPath} {lane : TxPowerRateLaneSpec} (hlane : TableLane lane)
    (hlength : txPower5gPathOffset path + (if bandwidth = .mhz80 then 21 else 15) < data.length) (baseOffset : ℕ)
    (base : UInt8) :
    ∃ report, planLane data channel bandwidth safetyProfile maxIndex path baseOffset base lane = .ok report := by
  unfold planLane
  obtain ⟨diff, hdiff⟩ := efuse5gDiff_exists hlane hlength
  rw [hdiff]
  exact ⟨_, rfl⟩

end Lanes

/-! ## Registers -/

theorem laneBits_toNat {lane : Rtl8812auTxPowerDerivedLaneReport} (h : lane.lane.toNat ≤ 3) :
    (laneBits lane).toNat = 2 ^ (8 * lane.lane.toNat) * lane.finalIndex.toNat := by
  have hshift : (lane.lane.toUInt32 * 8).toNat % 32 = 8 * lane.lane.toNat := by
    rw [UInt32.toNat_mul, UInt8.toNat_toUInt32]
    change lane.lane.toNat * 8 % 2 ^ 32 % 32 = 8 * lane.lane.toNat
    omega
  have hfits : lane.finalIndex.toNat * 2 ^ (8 * lane.lane.toNat) < 2 ^ 32 := by
    calc lane.finalIndex.toNat * 2 ^ (8 * lane.lane.toNat)
        < 2 ^ 8 * 2 ^ (8 * lane.lane.toNat) := Nat.mul_lt_mul_of_pos_right lane.finalIndex.toNat_lt (by positivity)
      _ = 2 ^ (8 + 8 * lane.lane.toNat) := (pow_add 2 8 _).symm
      _ ≤ 2 ^ 32 := Nat.pow_le_pow_right (by decide) (by omega)
  rw [laneBits, UInt32.toNat_shiftLeft, UInt8.toNat_toUInt32, hshift, Nat.shiftLeft_eq, Nat.mod_eq_of_lt hfits,
    mul_comm]

/-- a lane above all the bits so far is added to them -/
theorem or_lane {value : UInt32} {lane : Rtl8812auTxPowerDerivedLaneReport} (h : lane.lane.toNat ≤ 3)
    (hvalue : value.toNat < 2 ^ (8 * lane.lane.toNat)) :
    (value ||| laneBits lane).toNat = value.toNat + 2 ^ (8 * lane.lane.toNat) * lane.finalIndex.toNat := by
  rw [UInt32.toNat_or, laneBits_toNat h, Nat.or_comm, ← Nat.two_pow_add_eq_or_of_lt hvalue, add_comm]

/-- the indices of four lanes are the bytes of the word -/
theorem packedLanes_bytes {lanes : List Rtl8812auTxPowerDerivedLaneReport} (h : lanes.map (·.lane) = [0, 1, 2, 3]) :
    ∃ a b c d, lanes.map (·.finalIndex) = [a, b, c, d] ∧ (packedLanes lanes).toNat = leU32 a b c d := by
  obtain ⟨first, rest, rfl, h0, h⟩ := List.map_eq_cons_iff.mp h
  obtain ⟨second, rest, rfl, h1, h⟩ := List.map_eq_cons_iff.mp h
  obtain ⟨third, rest, rfl, h2, h⟩ := List.map_eq_cons_iff.mp h
  obtain ⟨fourth, rest, rfl, h3, h⟩ := List.map_eq_cons_iff.mp h
  obtain rfl := List.map_eq_nil_iff.mp h
  refine ⟨_, _, _, _, rfl, ?_⟩
  have b0 := first.finalIndex.toNat_lt
  have b1 := second.finalIndex.toNat_lt
  have b2 := third.finalIndex.toNat_lt
  have hone : (0 ||| laneBits first).toNat = first.finalIndex.toNat := by
    rw [or_lane (by rw [h0]; decide) (by rw [h0]; decide), h0]
    exact (Nat.zero_add _).trans (Nat.one_mul _)
  have htwo := @or_lane (0 ||| laneBits first) second (by rw [h1]; decide) (by rw [h1, hone]; exact b0)
  rw [h1, hone] at htwo
  have hthree := @or_lane (0 ||| laneBits first ||| laneBits second) third (by rw [h2]; decide) (by
    rw [h2, htwo]
    change first.finalIndex.toNat + 2 ^ 8 * second.finalIndex.toNat < 2 ^ 16
    omega)
  rw [h2, htwo] at hthree
  have hfour := @or_lane (0 ||| laneBits first ||| laneBits second ||| laneBits third) fourth (by rw [h3]; decide) (by
    rw [h3, hthree]
    change first.finalIndex.toNat + 2 ^ 8 * second.finalIndex.toNat + 2 ^ 16 * third.finalIndex.toNat < 2 ^ 24
    omega)
  rw [h3, hthree] at hfour
  exact hfour

section Registers

variable {data : List UInt8} {channel : Channel} {bandwidth : Bandwidth}
  {safetyProfile : Rtl8812auTxPowerSafetyProfile} {maxIndex : UInt8} {group : UInt8}

theorem planWrite_derived {spec : TxPowerEfuseRegisterSpec} (hnumbers : spec.lanes.map (·.lane) = [0, 1, 2, 3])
    (htable : ∀ lane ∈ spec.lanes, TableLane lane) {write : Rtl8812auTxPowerDerivedWriteReport}
    (h : planWrite data channel bandwidth safetyProfile maxIndex group spec = .ok write) :
    WriteDerived data channel bandwidth safetyProfile maxIndex group spec write ∧
      efuseBase data spec.path group ≤ rtl8812auTxPowerIndexMax.toNat := by
  unfold planWrite at h
  cases hbase : data[txPower5gPathOffset spec.path + group.toNat]? with
  | none =>
    simp only [hbase] at h
    exact nomatch h
  | some base =>
    simp only [hbase] at h
    split_ifs at h with hrange
    obtain ⟨lanes, hlanes, h⟩ := except_bind_ok h
    obtain rfl := Except.ok.inj h
    have hderived : List.Forall₂ (LaneDerived data channel bandwidth safetyProfile maxIndex spec.path group)
        spec.lanes lanes :=
      mapM_forall₂ (fun lane hmem report => planLane_derived hbase (htable lane hmem)) hlanes
    have hreported : lanes.map (·.lane) = [0, 1, 2, 3] := by
      have hsame : List.Forall₂ (fun lane report => lane.lane = report.lane) spec.lanes lanes :=
        hderived.imp fun _ _ hlane => hlane.number.symm
      have hmap : spec.lanes.map (·.lane) = lanes.map (·.lane) := by
        rw [← List.forall₂_eq_eq_eq, List.forall₂_map_left_iff, List.forall₂_map_right_iff]
        exact hsame
      rw [← hmap, hnumbers]
    refine ⟨⟨rfl, hderived, packedLanes_bytes hreported⟩, ?_⟩
    rw [efuseBase, List.getD_eq_getElem?_getD, hbase, Option.getD_some]
    exact not_lt.mp hrange

/-- a register is planned only if every lane's difference was read -/
theorem planWrite_reads {spec : TxPowerEfuseRegisterSpec} {write : Rtl8812auTxPowerDerivedWriteReport}
    (h : planWrite data channel bandwidth safetyProfile maxIndex group spec = .ok write) :
    ∀ lane ∈ spec.lanes, ∃ diff, txPowerEfuse5gDiff data spec.path lane bandwidth = .ok diff := by
  unfold planWrite at h
  cases hbase : data[txPower5gPathOffset spec.path + group.toNat]? with
  | none =>
    simp only [hbase] at h
    exact nomatch h
  | some base =>
    simp only [hbase] at h
    split_ifs at h with hrange
    obtain ⟨lanes, hlanes, h⟩ := except_bind_ok h
    intro lane hmem
    obtain ⟨report, -, hread⟩ := forall₂_exists_right (mapM_forall₂ (fun _ _ _ hlane => hlane) hlanes) lane hmem
    obtain ⟨diff, hdiff, -⟩ := except_bind_ok hread
    exact ⟨diff, hdiff⟩

theorem planWrite_exists {spec : TxPowerEfuseRegisterSpec} (htable : ∀ lane ∈ spec.lanes, TableLane lane)
    (hgroup : group.toNat ≤ 13) (hprogrammable : Programmable data bandwidth group spec.path) :
    ∃ write, planWrite data channel bandwidth safetyProfile maxIndex group spec = .ok write := by
  obtain ⟨hlength, hrange⟩ := hprogrammable
  have hread : txPower5gPathOffset spec.path + group.toNat < data.length := by
    have : 15 ≤ (if bandwidth = .mhz80 then 21 else 15) := by split_ifs <;> omega
    omega
  rw [efuseBase, List.getD_eq_getElem?_getD, List.getElem?_eq_getElem hread, Option.getD_some] at hrange
  have hbase : ¬ rtl8812auTxPowerIndexMax < data[txPower5gPathOffset spec.path + group.toNat] :=
    fun hlt => absurd (UInt8.lt_iff_toNat_lt.mp hlt) (not_lt.mpr hrange)
  unfold planWrite
  simp only [List.getElem?_eq_getElem hread, if_neg hbase]
  obtain ⟨lanes, hlanes⟩ := mapM_exists fun lane hmem =>
    @planLane_exists data channel bandwidth safetyProfile maxIndex spec.path lane (htable lane hmem) hlength
      (txPower5gPathOffset spec.path + group.toNat) data[txPower5gPathOffset spec.path + group.toNat]
  rw [hlanes]
  exact ⟨_, rfl⟩

/-- a plan holds the registers of the tables, and the bytes it was made of were there -/
theorem plan_derived {selectedPath : Rtl8812auRfPath} {plan : Rtl8812auTxPowerEfusePlan}
    (h : planRtl8812auEfuseTxPower data channel bandwidth safetyProfile maxIndex selectedPath = .ok plan) :
    channel.band = .ghz5 ∧ ∃ group, txPower5gChannelGroup channel.number = some group ∧
      List.Forall₂ (WriteDerived data channel bandwidth safetyProfile maxIndex group)
        (txPowerEfuseRegisterSpecs selectedPath) plan.writes ∧
      ∀ path ∈ selectedPaths selectedPath, Programmable data bandwidth group path := by
  unfold planRtl8812auEfuseTxPower at h
  split_ifs at h with hband
  cases hgroup : txPower5gChannelGroup channel.number with
  | none =>
    rw [hgroup] at h
    exact nomatch h
  | some group =>
    rw [hgroup] at h
    obtain ⟨writes, hwrites, h⟩ := except_bind_ok h
    obtain rfl := Except.ok.inj h
    have hall := mapM_forall₂ (fun spec hmem write hwrite =>
      planWrite_derived (specs_table spec hmem).2.1 (specs_table spec hmem).2.2 hwrite) hwrites
    refine ⟨not_not.mp hband, group, rfl, hall.imp fun _ _ hwrite => hwrite.1, ?_⟩
    intro path hpath
    obtain ⟨spec, hspec, rfl, lane, hlane, hfamily, hstreams, -⟩ :=
      specs_hottest path hpath (.ht, 2, 16) (by decide)
    obtain ⟨write, -, hwrite⟩ := forall₂_exists_right (mapM_forall₂ (fun _ _ _ hwrite => hwrite) hwrites) spec hspec
    obtain ⟨diff, hdiff⟩ := planWrite_reads hwrite lane hlane
    exact ⟨length_of_efuse5gDiff hfamily hstreams hdiff,
      (planWrite_derived (specs_table spec hspec).2.1 (specs_table spec hspec).2.2 hwrite).2⟩

theorem plan_exists {selectedPath : Rtl8812auRfPath} (hband : channel.band = .ghz5)
    (hgroup : txPower5gChannelGroup channel.number = some group)
    (hprogrammable : ∀ path ∈ selectedPaths selectedPath, Programmable data bandwidth group path) :
    ∃ plan, planRtl8812auEfuseTxPower data channel bandwidth safetyProfile maxIndex selectedPath = .ok plan := by
  obtain ⟨writes, hwrites⟩ := mapM_exists fun spec hspec =>
    @planWrite_exists data channel bandwidth safetyProfile maxIndex group spec (specs_table spec hspec).2.2
      (channelGroup_le hgroup) (hprogrammable spec.path (specs_table spec hspec).1)
  unfold planRtl8812auEfuseTxPower
  rw [if_neg (not_not.mpr hband), hgroup]
  simp only [hwrites]
  exact ⟨_, rfl⟩

end Registers

/-! ## Range -/

section Range

variable (data : List UInt8) (channel : Channel) (bandwidth : Bandwidth)
  (safetyProfile : Rtl8812auTxPowerSafetyProfile) (maxIndex : UInt8) (selectedPath : Rtl8812auRfPath)

theorem min_toNat (a b : UInt8) : (min a b).toNat = min a.toNat b.toNat := by
  change (if a ≤ b then a else b).toNat = min a.toNat b.toNat
  split_ifs with hle
  · exact (min_eq_left (UInt8.le_iff_toNat_le.mp hle)).symm
  · exact (min_eq_right (UInt8.le_iff_toNat_le.not.mp hle |> le_of_not_ge)).symm

theorem safetyClamp_le (path : Rtl8812auRfPath) (lane : TxPowerRateLaneSpec) :
    (txPowerSafetyClamp safetyProfile maxIndex channel bandwidth path lane).toNat ≤ maxIndex.toNat := by
  rw [txPowerSafetyClamp, min_toNat]
  exact min_le_right _ _

/-- the table of the profile is far below the range -/
theorem profileMax_ch36 {path : Rtl8812auRfPath} (hpath : path ∈ selectedPaths selectedPath)
    {lane : TxPowerRateLaneSpec} (hlane : TableLane lane) (hch36 : channel.number = 36 ∧ bandwidth = .mhz20) :
    (profileMax .linuxCh36Ht20 maxIndex channel bandwidth path lane).toNat ≤ 0x1d := by
  obtain ⟨number, rate, rateSection, family, streams, byRate⟩ := lane
  have hone : path = .a ∨ path = .b := by cases selectedPath <;> simp_all [selectedPaths]
  have hstreams : streams = 1 ∨ streams = 2 := by
    rcases hlane with ⟨-, hone, -⟩ | ⟨-, htwo, -⟩
    · exact .inl hone
    · exact htwo
  unfold profileMax
  dsimp only
  rw [if_pos hch36]
  rcases hone with rfl | rfl <;> rcases hstreams with rfl | rfl <;> cases family <;>
    exact Nat.le_of_ble_eq_true rfl

/-- a lane's limit is out of range just when the maximum is, and no profile lowers it -/
theorem safetyClamp_exceeds_iff {path : Rtl8812auRfPath} (hpath : path ∈ selectedPaths selectedPath)
    {lane : TxPowerRateLaneSpec} (hlane : TableLane lane) :
    rtl8812auTxPowerIndexMax.toNat < (txPowerSafetyClamp safetyProfile maxIndex channel bandwidth path lane).toNat ↔
      rtl8812auTxPowerIndexMax.toNat < maxIndex.toNat ∧
        ¬ (safetyProfile = .linuxCh36Ht20 ∧ channel.number = 36 ∧ bandwidth = .mhz20) := by
  rw [txPowerSafetyClamp, min_toNat]
  cases safetyProfile with
  | maxIndex => simp [profileMax]
  | linuxCh36Ht20 =>
    by_cases hch36 : channel.number = 36 ∧ bandwidth = .mhz20
    · have hlow := profileMax_ch36 channel bandwidth maxIndex selectedPath hpath hlane hch36
      have hmax : rtl8812auTxPowerIndexMax.toNat = 63 := rfl
      exact iff_of_false (by omega) fun h => h.2 ⟨rfl, hch36⟩
    · simp [profileMax, hch36]

variable {data channel bandwidth safetyProfile maxIndex selectedPath} {path : Rtl8812auRfPath} {group : UInt8}
  {lane : TxPowerRateLaneSpec} {report : Rtl8812auTxPowerDerivedLaneReport}

theorem LaneDerived.le_limit (h : LaneDerived data channel bandwidth safetyProfile maxIndex path group lane report) :
    report.finalIndex.toNat ≤ report.clampMaxIndex.toNat := by
  have hbounds := @clamp_bounds
    (efuseBase data path group + efuseDiff data bandwidth path lane.family lane.txStreams + lane.byRateOffset.toInt)
    (min 1 (report.clampMaxIndex.toNat : ℤ)) report.clampMaxIndex.toNat (by omega)
  rw [← h.exactSum] at hbounds
  exact_mod_cast hbounds.2

theorem LaneDerived.le_max (h : LaneDerived data channel bandwidth safetyProfile maxIndex path group lane report) :
    report.finalIndex.toNat ≤ maxIndex.toNat := by
  have hle := h.le_limit
  rw [h.limit] at hle
  exact hle.trans (safetyClamp_le channel bandwidth safetyProfile maxIndex path lane)

/-- a lane of the tables is no hotter than the hottest rate of its family -/
theorem TableLane.hottest (h : TableLane lane) :
    ∃ rate ∈ hottestRates, efuseDiff data bandwidth path lane.family lane.txStreams + lane.byRateOffset.toInt ≤
      efuseDiff data bandwidth path rate.1 rate.2.1 + rate.2.2 := by
  obtain ⟨number, rate, rateSection, family, streams, byRate⟩ := lane
  rcases h with ⟨rfl, rfl, hoffset⟩ | ⟨hfamily, hstreams, hoffset⟩
  · exact ⟨(.ofdm, 1, 14), by decide, by dsimp only at hoffset ⊢; omega⟩
  · dsimp only at hfamily hstreams hoffset ⊢
    have hdiff : efuseDiff data bandwidth path family streams = efuseDiff data bandwidth path .ht streams := by
      cases family with
      | ofdm => exact absurd rfl hfamily
      | ht => rfl
      | vht => rcases hstreams with rfl | rfl <;> cases bandwidth <;> rfl
    rcases hstreams with rfl | rfl
    · exact ⟨(.ht, 1, 16), by decide, by dsimp only; omega⟩
    · exact ⟨(.ht, 2, 16), by decide, by dsimp only; omega⟩

/-- an index out of range is driven there by the EFUSE, and let through by the maximum -/
theorem LaneDerived.overdriven
    (h : LaneDerived data channel bandwidth safetyProfile maxIndex path group lane report)
    (hband : channel.band = .ghz5) (hgroup : txPower5gChannelGroup channel.number = some group)
    (hprogrammable : ∀ path ∈ selectedPaths selectedPath, Programmable data bandwidth group path)
    (hpath : path ∈ selectedPaths selectedPath) (hlane : TableLane lane)
    (hexceeds : rtl8812auTxPowerIndexMax.toNat < report.finalIndex.toNat) :
    Overdriven data channel bandwidth safetyProfile maxIndex selectedPath := by
  have hrange : rtl8812auTxPowerIndexMax.toNat = 63 := rfl
  have hindex : (rtl8812auTxPowerIndexMax.toNat : ℤ) < report.finalIndex.toNat := by exact_mod_cast hexceeds
  rw [h.exactSum, lt_clamp_iff (by omega)] at hindex
  obtain ⟨hsum, -⟩ := hindex
  have hlimit := hexceeds.trans_le h.le_limit
  rw [h.limit, safetyClamp_exceeds_iff channel bandwidth safetyProfile maxIndex selectedPath hpath hlane] at hlimit
  obtain ⟨rate, hrate, hhot⟩ := @TableLane.hottest data bandwidth path lane hlane
  exact ⟨hband, UInt8.lt_iff_toNat_lt.mpr hlimit.1, hlimit.2, group, hgroup, hprogrammable, path, hpath, rate, hrate,
    by omega⟩

variable (data channel bandwidth safetyProfile maxIndex selectedPath)

/-- **The range of a plan.** Whatever the EFUSE holds and whatever is asked for, a plan's indices are exact and packed,
and none is above the maximum asked for. None is above what the hardware has either, unless the plan is overdriven: a
maximum that is out of range, with no profile that lowers it, over an EFUSE that drives a rate that high. -/
theorem efuse_plan_safe_iff :
    (∀ plan, planRtl8812auEfuseTxPower data channel bandwidth safetyProfile maxIndex selectedPath = .ok plan →
      PlanSafe data channel bandwidth safetyProfile maxIndex selectedPath plan) ↔
    ¬ Overdriven data channel bandwidth safetyProfile maxIndex selectedPath := by
  constructor
  · rintro hsafe ⟨hband, hmax, hprofile, group, hgroup, hprogrammable, path, hpath, rate, hrate, hhot⟩
    obtain ⟨plan, hplan⟩ := @plan_exists data channel bandwidth safetyProfile maxIndex group selectedPath hband hgroup
      hprogrammable
    have hplanSafe := hsafe plan hplan
    obtain ⟨spec, hspec, rfl, lane, hlane, hfamily, hstreams, hoffset⟩ := specs_hottest path hpath rate hrate
    obtain ⟨group', hgroup', hwrites⟩ := hplanSafe.derived
    obtain rfl : group = group' := Option.some.inj (hgroup.symm.trans hgroup')
    obtain ⟨write, hwrite, hderived⟩ := forall₂_exists_right hwrites spec hspec
    obtain ⟨report, hreport, hexact⟩ := forall₂_exists_right hderived.lanes lane hlane
    have hwithin := UInt8.le_iff_toNat_le.mp (hplanSafe.withinRange write hwrite report hreport)
    have hlimit := (safetyClamp_exceeds_iff channel bandwidth safetyProfile maxIndex selectedPath hpath
      ((specs_table spec hspec).2.2 lane hlane)).mpr ⟨UInt8.lt_iff_toNat_lt.mp hmax, hprofile⟩
    have hrange : rtl8812auTxPowerIndexMax.toNat = 63 := rfl
    have hindex : (rtl8812auTxPowerIndexMax.toNat : ℤ) < report.finalIndex.toNat := by
      rw [hexact.exactSum, lt_clamp_iff (by omega), hfamily, hstreams, hoffset, hexact.limit]
      exact ⟨hhot, by exact_mod_cast hlimit⟩
    omega
  · intro hcool plan hplan
    obtain ⟨hband, group, hgroup, hwrites, hprogrammable⟩ := plan_derived hplan
    have hlanes : ∀ write ∈ plan.writes, ∀ report ∈ write.lanes, ∃ spec ∈ txPowerEfuseRegisterSpecs selectedPath,
        ∃ lane ∈ spec.lanes, LaneDerived data channel bandwidth safetyProfile maxIndex spec.path group lane report := by
      intro write hwrite report hreport
      obtain ⟨spec, hspec, hderived⟩ := forall₂_exists_left hwrites write hwrite
      obtain ⟨lane, hlane, hexact⟩ := forall₂_exists_left hderived.lanes report hreport
      exact ⟨spec, hspec, lane, hlane, hexact⟩
    refine ⟨?_, ?_, group, hgroup, hwrites⟩
    · intro write hwrite report hreport
      obtain ⟨spec, hspec, lane, hlane, hexact⟩ := hlanes write hwrite report hreport
      obtain ⟨hpath, -, htable⟩ := specs_table spec hspec
      by_contra hexceeds
      refine hcool (hexact.overdriven hband hgroup hprogrammable hpath (htable lane hlane) ?_)
      exact not_le.mp fun hle => hexceeds (UInt8.le_iff_toNat_le.mpr hle)
    · intro write hwrite report hreport
      obtain ⟨spec, hspec, lane, hlane, hexact⟩ := hlanes write hwrite report hreport
      exact UInt8.le_iff_toNat_le.mpr hexact.le_max

/-- a base at the top of the range, and a maximum that only a configuration file can ask for -/
theorem overdriven_planned :
    ¬ ∀ plan,
      planRtl8812auEfuseTxPower (List.replicate 84 0x3f) ⟨149, 5745, .ghz5⟩ .mhz20 .maxIndex 0xff .a = .ok plan →
        PlanSafe (List.replicate 84 0x3f) ⟨149, 5745, .ghz5⟩ .mhz20 .maxIndex 0xff .a plan := by
  intro hsafe
  have hrun :
      ((planRtl8812auEfuseTxPower (List.replicate 84 0x3f) ⟨149, 5745, .ghz5⟩ .mhz20 .maxIndex 0xff .a).toOption.any
        fun plan => plan.writes.any fun write => write.lanes.any fun lane =>
          rtl8812auTxPowerIndexMax < lane.finalIndex) = true := by decide +kernel
  cases hplan : planRtl8812auEfuseTxPower (List.replicate 84 0x3f) ⟨149, 5745, .ghz5⟩ .mhz20 .maxIndex 0xff .a with
  | error error =>
    rw [hplan] at hrun
    exact nomatch hrun
  | ok plan =>
    rw [hplan] at hrun
    obtain ⟨write, hwrite, hexceeds⟩ := List.any_eq_true.mp hrun
    obtain ⟨lane, hlane, hexceeds⟩ := List.any_eq_true.mp hexceeds
    have hlt := UInt8.lt_iff_toNat_lt.mp (of_decide_eq_true hexceeds)
    have hle := UInt8.le_iff_toNat_le.mp ((hsafe plan hplan).withinRange write hwrite lane hlane)
    omega

end Range

/-! ## Programming -/

end WfbLink.Runtime
