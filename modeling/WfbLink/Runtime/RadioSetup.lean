/-
Register work of the runtime between initialisation and traffic: monitor opmode, TX power control, and calibration
profiles (`wfb-radio-runtime/src/lib.rs` and `tx_power.rs`).

A `RegisterAction` is code over the register transport that also counts transfers and may fail with a runtime error.

- `readyForTx_iff`: a calibration report passes the check before TX iff it has no runtime IQK or a clean one.
-/
import WfbLink.RadioCore.Register
import WfbLink.Runtime.FlowConfig

namespace WfbLink.Runtime

open WfbLink.Core WfbLink.RadioCore

/-! ## Counted register access -/

def RegisterAction (α : Type) : Type :=
  RuntimeRadioCounters → RegisterProgram (Except RuntimeRadioError α × RuntimeRadioCounters)

namespace RegisterAction

variable {α β : Type}

def andThen (action : RegisterAction α) (f : α → RegisterAction β) : RegisterAction β := fun counters => do
  match ← action counters with
  | (.ok a, counters) => f a counters
  | (.error error, counters) => return (.error error, counters)

instance : Monad RegisterAction where
  pure a := fun counters => return (.ok a, counters)
  bind := andThen

def fail (error : RuntimeRadioError) : RegisterAction α := fun counters => return (.error error, counters)

/-- the counters so far -/
def counters : RegisterAction RuntimeRadioCounters := fun counters => return (.ok counters, counters)

end RegisterAction

def RuntimeRadioError.registerRead (registerName phase : String) (error : Rtl8812auRegisterError) : RuntimeRadioError :=
  .new "register_read_failed" s!"{registerName} {phase} read failed: {error.message}"

def RuntimeRadioError.registerWrite (registerName phase : String) (error : Rtl8812auRegisterError) :
    RuntimeRadioError :=
  .new "register_write_failed" s!"{registerName} {phase} write failed: {error.message}"

section Counted

variable (registers : Rtl8812auRegisterAccess)

/-- a read that succeeds is counted; the addition is not saturating -/
def readWithCounter {α : Type} (read : RegisterProgram (Except Rtl8812auRegisterError α))
    (registerName phase : String) : RegisterAction α := fun counters => do
  match ← read with
  | .error error => return (.error (.registerRead registerName phase error), counters)
  | .ok value => return (.ok value, { counters with usbControlReads := counters.usbControlReads + 1 })

/-- a write that succeeds is counted; the addition is not saturating -/
def writeWithCounter (write : RegisterProgram (Except Rtl8812auRegisterError Unit)) (registerName phase : String) :
    RegisterAction Unit := fun counters => do
  match ← write with
  | .error error => return (.error (.registerWrite registerName phase error), counters)
  | .ok () => return (.ok (), { counters with usbControlWrites := counters.usbControlWrites + 1 })

def read8WithCounter (address : UInt16) (registerName phase : String) : RegisterAction UInt8 :=
  readWithCounter (registers.read8 address) registerName phase

def read16WithCounter (address : UInt16) (registerName phase : String) : RegisterAction UInt16 :=
  readWithCounter (registers.read16 address) registerName phase

def read32WithCounter (address : UInt16) (registerName phase : String) : RegisterAction UInt32 :=
  readWithCounter (registers.read32 address) registerName phase

def write8WithCounter (address : UInt16) (value : UInt8) (registerName phase : String) : RegisterAction Unit :=
  writeWithCounter (registers.write8 address value) registerName phase

def write16WithCounter (address value : UInt16) (registerName phase : String) : RegisterAction Unit :=
  writeWithCounter (registers.write16 address value) registerName phase

def write32WithCounter (address : UInt16) (value : UInt32) (registerName phase : String) : RegisterAction Unit :=
  writeWithCounter (registers.write32 address value) registerName phase

end Counted

/-! ## Monitor opmode -/

def regCr : UInt16 := 0x0100
def regMsr : UInt16 := regCr + 2
def regRcr : UInt16 := 0x0608
def regRxfltmap2 : UInt16 := 0x06a4
def msrPort0NettypeMask : UInt8 := 0x03

def rcrAap : UInt32 := (1 : UInt32) <<< 0
def rcrApm : UInt32 := (1 : UInt32) <<< 1
def rcrAm : UInt32 := (1 : UInt32) <<< 2
def rcrAb : UInt32 := (1 : UInt32) <<< 3
def rcrApwrmgt : UInt32 := (1 : UInt32) <<< 5
def rcrAdf : UInt32 := (1 : UInt32) <<< 11
def rcrAcf : UInt32 := (1 : UInt32) <<< 12
def rcrAmf : UInt32 := (1 : UInt32) <<< 13
def rcrAppPhystRxff : UInt32 := (1 : UInt32) <<< 28
def rcrAppfcs : UInt32 := (1 : UInt32) <<< 31

def monitorReceiveConfig : UInt32 :=
  rcrAap ||| rcrApm ||| rcrAm ||| rcrAb ||| rcrApwrmgt ||| rcrAdf ||| rcrAcf ||| rcrAmf ||| rcrAppPhystRxff |||
    rcrAppfcs

structure MonitorReceiveFilterExecution where
  rcrWritten : UInt32
  rcrAfter : UInt32
  rxfltmap2Written : UInt16
  rxfltmap2After : UInt16
  registerWrites : ℕ

structure RuntimeMonitorOpmodeExecution where
  msrBefore : UInt8
  msrWritten : UInt8
  msrAfter : UInt8
  rcrWritten : UInt32
  rcrAfter : UInt32
  rxfltmap2Written : UInt16
  rxfltmap2After : UInt16
  registerWrites : ℕ
  counters : RuntimeRadioCounters

def runMonitorReceiveFilterRegisters (registers : Rtl8812auRegisterAccess) (phase : String) :
    RegisterAction MonitorReceiveFilterExecution := do
  write32WithCounter registers regRcr monitorReceiveConfig "REG_RCR" "monitor receive config"
  let rcrAfter ← read32WithCounter registers regRcr "REG_RCR" phase
  write16WithCounter registers regRxfltmap2 0xffff "REG_RXFLTMAP2" "monitor receive map"
  let rxfltmap2After ← read16WithCounter registers regRxfltmap2 "REG_RXFLTMAP2" phase
  return {
    rcrWritten := monitorReceiveConfig
    rcrAfter
    rxfltmap2Written := 0xffff
    rxfltmap2After
    registerWrites := 2 }

def runRtl8812auMonitorOpmode (registers : Rtl8812auRegisterAccess) : RegisterAction RuntimeMonitorOpmodeExecution := do
  let beforeCounters ← RegisterAction.counters
  let msrBefore ← read8WithCounter registers regMsr "REG_MSR" "pre-monitor-opmode"
  let msrWritten := msrBefore &&& ~~~msrPort0NettypeMask
  write8WithCounter registers regMsr msrWritten "REG_MSR" "monitor/no-link"
  let msrAfter ← read8WithCounter registers regMsr "REG_MSR" "post-monitor-opmode"
  let monitorFilter ← runMonitorReceiveFilterRegisters registers "post-monitor-opmode"
  let counters ← RegisterAction.counters
  return {
    msrBefore
    msrWritten
    msrAfter
    rcrWritten := monitorFilter.rcrWritten
    rcrAfter := monitorFilter.rcrAfter
    rxfltmap2Written := monitorFilter.rxfltmap2Written
    rxfltmap2After := monitorFilter.rxfltmap2After
    registerWrites := 1 + monitorFilter.registerWrites
    counters := counters.saturatingSub beforeCounters }

/-! ## Register writes with a report -/

/-- the hexadecimal copies of the numbers are left out -/
structure Rtl8812auRegisterWriteReport where
  registerName : String
  address : UInt16
  before : UInt32
  written : UInt32
  after : UInt32
  changed : Bool
  counters : RuntimeRadioCounters

def write32RegisterReport (registers : Rtl8812auRegisterAccess) (registerName : String) (address : UInt16)
    (value : UInt32) : RegisterAction Rtl8812auRegisterWriteReport := do
  let beforeCounters ← RegisterAction.counters
  let before ← read32WithCounter registers address registerName "pre-write"
  write32WithCounter registers address value registerName "write"
  let after ← read32WithCounter registers address registerName "post-write"
  let counters ← RegisterAction.counters
  return {
    registerName
    address
    before
    written := value
    after
    changed := before != after
    counters := counters.saturatingSub beforeCounters }

structure Rtl8812auRegisterWriteSpec where
  registerName : String
  address : UInt16
  value : UInt32
deriving DecidableEq, Repr

/-- one report after the other, up to the first failure -/
def writeRegisterSpecs (registers : Rtl8812auRegisterAccess) :
    List Rtl8812auRegisterWriteSpec → RegisterAction (List Rtl8812auRegisterWriteReport)
  | [] => return []
  | write :: writes => do
    let report ← write32RegisterReport registers write.registerName write.address write.value
    let reports ← writeRegisterSpecs registers writes
    return report :: reports

/-! ## TX power -/

inductive Rtl8812auRfPath where
  | a
  | b
  | both
deriving DecidableEq, Repr

def rtl8812auTxPowerIndexMax : UInt8 := 0x3f

def txPowerAgcPathARegisters : List (String × UInt16) :=
  [("rA_TxAGC_CCK", 0x0c20), ("rA_TxAGC_OFDM18_OFDM6", 0x0c24), ("rA_TxAGC_OFDM54_OFDM24", 0x0c28),
    ("rA_TxAGC_MCS3_MCS0", 0x0c2c), ("rA_TxAGC_MCS7_MCS4", 0x0c30), ("rA_TxAGC_NSS1_7_NSS1_4", 0x0c34),
    ("rA_TxAGC_NSS1_11_NSS1_8", 0x0c38), ("rA_TxAGC_NSS1_3_NSS1_0", 0x0c3c), ("rA_TxAGC_NSS2_3_NSS2_0", 0x0c40),
    ("rA_TxAGC_NSS2_7_NSS2_4", 0x0c44), ("rA_TxAGC_NSS2_11_NSS2_8", 0x0c48), ("rA_TxAGC_NSS3_3_NSS3_0", 0x0c4c)]

def txPowerAgcPathBRegisters : List (String × UInt16) :=
  [("rB_TxAGC_CCK", 0x0e20), ("rB_TxAGC_OFDM18_OFDM6", 0x0e24), ("rB_TxAGC_OFDM54_OFDM24", 0x0e28),
    ("rB_TxAGC_MCS3_MCS0", 0x0e2c), ("rB_TxAGC_MCS7_MCS4", 0x0e30), ("rB_TxAGC_NSS1_7_NSS1_4", 0x0e34),
    ("rB_TxAGC_NSS1_11_NSS1_8", 0x0e38), ("rB_TxAGC_NSS1_3_NSS1_0", 0x0e3c), ("rB_TxAGC_NSS2_3_NSS2_0", 0x0e40),
    ("rB_TxAGC_NSS2_7_NSS2_4", 0x0e44), ("rB_TxAGC_NSS2_11_NSS2_8", 0x0e48), ("rB_TxAGC_NSS3_3_NSS3_0", 0x0e4c)]

def rtl8812auTxPowerAgcValue (index : UInt8) : UInt32 := index.toUInt32 * 0x01010101

def rtl8812auTxPowerAgcRegisters : Rtl8812auRfPath → List (String × UInt16)
  | .a => txPowerAgcPathARegisters
  | .b => txPowerAgcPathBRegisters
  | .both => txPowerAgcPathARegisters ++ txPowerAgcPathBRegisters

def formatRegisterValue (value digits : ℕ) : String := s!"0x{hexText digits value}"

def runRtl8812auManualTxPower (registers : Rtl8812auRegisterAccess) (path : Rtl8812auRfPath) (index : UInt8) :
    RegisterAction (List Rtl8812auRegisterWriteReport) :=
  if index > rtl8812auTxPowerIndexMax then
    .fail (.new "tx_power_index_out_of_range"
      s!"TX power index {formatRegisterValue index.toNat 2} exceeds RTL8812AU max index {formatRegisterValue rtl8812auTxPowerIndexMax.toNat 2}")
  else
    writeRegisterSpecs registers ((rtl8812auTxPowerAgcRegisters path).map fun (name, address) =>
      ⟨name, address, rtl8812auTxPowerAgcValue index⟩)

/-- of an EFUSE plan, what programming it reads -/
structure Rtl8812auTxPowerEfusePlanReport where
  selectedPath : Rtl8812auRfPath
  writes : List Rtl8812auRegisterWriteSpec
deriving DecidableEq, Repr

def runRtl8812auEfuseTxPower (registers : Rtl8812auRegisterAccess) (plan : Rtl8812auTxPowerEfusePlanReport) :
    RegisterAction (List Rtl8812auRegisterWriteReport) :=
  writeRegisterSpecs registers plan.writes

inductive ProductionRuntimeTxPowerControlInput where
  | none
  | manualIndex (path : Rtl8812auRfPath) (index : UInt8)
  | efuseDerived (plan : Rtl8812auTxPowerEfusePlanReport)
deriving DecidableEq, Repr

inductive Rtl8812auTxPowerControlMode where
  | manualIndex
  | efuseDerived
deriving DecidableEq, Repr

structure Rtl8812auTxPowerControlReport where
  mode : Rtl8812auTxPowerControlMode
  manualIndex : Option UInt8
  path : Rtl8812auRfPath
  registerCount : ℕ
  repeatedValue : Option UInt32
  efusePlan : Option Rtl8812auTxPowerEfusePlanReport
  writes : List Rtl8812auRegisterWriteReport

def applyProductionRuntimeTxPowerControl (input : ProductionRuntimeTxPowerControlInput) :
    RegisterAction (Option Rtl8812auTxPowerControlReport) :=
  match input with
  | .none => return none
  | .manualIndex path index => do
    let writes ← runRtl8812auManualTxPower {} path index
    return some {
      mode := .manualIndex
      manualIndex := some index
      path
      registerCount := writes.length
      repeatedValue := some (rtl8812auTxPowerAgcValue index)
      efusePlan := none
      writes }
  | .efuseDerived plan => do
    let writes ← runRtl8812auEfuseTxPower {} plan
    return some {
      mode := .efuseDerived
      manualIndex := none
      path := plan.selectedPath
      registerCount := writes.length
      repeatedValue := none
      efusePlan := some plan
      writes }

def applyProductionRuntimeMonitorOpmode : RegisterAction Unit := do
  let _ ← runRtl8812auMonitorOpmode {}
  return ()

/-! ## Calibration profiles -/

/-- of the report of a runtime IQK run, what the runtime reads -/
structure Rtl8812auRuntimeIqkCalibrationReport where
  sweepCount : UInt8
  maxSweeps : UInt8
  status : String
  cleanupStatus : String
  selectedIqcFillApplied : Bool
  counters : RuntimeRadioCounters

/-- of the report of an LCK run, what the runtime reads: whether packet TX had to be paused, and was resumed -/
structure Rtl8812auLckCalibrationReport where
  txPauseWrite : Option Rtl8812auRegisterWriteReport
  txPauseRestore : Option Rtl8812auRegisterWriteReport

/-- the two calibration procedures, which are code over the register transport like everything here -/
structure CalibrationProcedures where
  runRtl8812auLckCalibration (registers : Rtl8812auRegisterAccess) : RegisterAction Rtl8812auLckCalibrationReport
  runRtl8812auRuntimeIqkCalibration (registers : Rtl8812auRegisterAccess) (channel : Channel) (rfeType : UInt8) :
    RegisterAction Rtl8812auRuntimeIqkCalibrationReport

structure Rtl8812auTxCalibrationProfileReport where
  profile : TxCalibrationProfile
  channel : UInt8
  bandwidthMhz : UInt16
  registerCount : ℕ
  writes : List Rtl8812auRegisterWriteReport
  lck : Option Rtl8812auLckCalibrationReport
  runtimeIqk : Option Rtl8812auRuntimeIqkCalibrationReport

def linuxParityCh36Ht20CalibrationWrites : List Rtl8812auRegisterWriteSpec :=
  [⟨"rA_TxScale_Jaguar", 0x0c1c, 0x40000003⟩, ⟨"rB_TxScale_Jaguar", 0x0e1c, 0x40000003⟩,
    ⟨"rA_RFE_Pinmux_Jaguar", 0x0cb0, 0x54337770⟩, ⟨"rB_RFE_Pinmux_Jaguar", 0x0eb0, 0x54337770⟩,
    ⟨"rA_TxBbCtrl", 0x0c90, 0x01807c09⟩, ⟨"rB_TxBbCtrl", 0x0e90, 0x01807c09⟩]

def rtl8812auTargetedCalibrationWrites (profile : TxCalibrationProfile) (channel : Channel) (bandwidth : Bandwidth) :
    Except RuntimeRadioError (Option (List Rtl8812auRegisterWriteSpec)) :=
  match profile with
  | .linuxParityCh36Ht20 =>
    if channel.number = 36 ∧ bandwidth = .mhz20 then .ok (some linuxParityCh36Ht20CalibrationWrites)
    else
      .error (.new "tx_calibration_profile_unsupported"
        s!"tx calibration profile linux-parity-ch36-ht20 only supports channel 36 HT20; requested channel {channel.number} {bandwidth.mhz} MHz")
  | .currentDefault | .rtl8812aLck | .rtl8812aIqkProbe | .rtl8812aRuntimeIqk => .ok none

def runRtl8812auTargetedCalibrationProfile (registers : Rtl8812auRegisterAccess) (profile : TxCalibrationProfile)
    (channel : Channel) (bandwidth : Bandwidth) : RegisterAction (Option (List Rtl8812auRegisterWriteReport)) :=
  match rtl8812auTargetedCalibrationWrites profile channel bandwidth with
  | .error error => .fail error
  | .ok none => return none
  | .ok (some writes) => do
    let reports ← writeRegisterSpecs registers writes
    return some reports

def runRtl8812auTxCalibrationProfile (procedures : CalibrationProcedures) (registers : Rtl8812auRegisterAccess)
    (profile : TxCalibrationProfile) (channel : Channel) (bandwidth : Bandwidth) (rfeType : UInt8) :
    RegisterAction (Option Rtl8812auTxCalibrationProfileReport) :=
  match profile with
  | .currentDefault => return none
  | .rtl8812aIqkProbe =>
    .fail (.new "tx_calibration_profile_diagnostic_only"
      "rtl8812a-iqk-probe is a diagnostic-only evidence marker; runtime callers should use rtl8812a-runtime-iqk for live IQK")
  | .linuxParityCh36Ht20 => do
    let writes ← runRtl8812auTargetedCalibrationProfile registers profile channel bandwidth
    let writes := writes.getD []
    return some {
      profile
      channel := channel.number
      bandwidthMhz := bandwidth.mhz
      registerCount := writes.length
      writes
      lck := none
      runtimeIqk := none }
  | .rtl8812aLck => do
    let lck ← procedures.runRtl8812auLckCalibration registers
    return some {
      profile
      channel := channel.number
      bandwidthMhz := bandwidth.mhz
      registerCount := 4 + lck.txPauseWrite.isSome.toNat + lck.txPauseRestore.isSome.toNat
      writes := []
      lck := some lck
      runtimeIqk := none }
  | .rtl8812aRuntimeIqk => do
    let runtimeIqk ← procedures.runRtl8812auRuntimeIqkCalibration registers channel rfeType
    return some {
      profile
      channel := channel.number
      bandwidthMhz := bandwidth.mhz
      registerCount := runtimeIqk.counters.usbControlWrites.toNat
      writes := []
      lck := none
      runtimeIqk := some runtimeIqk }

/-! ## The check before TX -/

def validateProductionRuntimeTxCalibrationProfileReadyForTx (profile : Rtl8812auTxCalibrationProfileReport) :
    Except RuntimeRadioError Unit :=
  match profile.runtimeIqk with
  | none => .ok ()
  | some iqk =>
    if iqk.cleanupStatus ≠ "restored" then
      .error (.new "runtime_iqk_cleanup_not_restored"
        s!"runtime IQK cleanup status is {iqk.cleanupStatus}; refusing live TX")
    else if iqk.status ≠ "completed" then
      .error (.new "runtime_iqk_not_completed"
        s!"runtime IQK status is {iqk.status} after {iqk.sweepCount}/{iqk.maxSweeps} sweeps; refusing live TX because fallback IQK has produced receiver decrypt failures on hardware")
    else if !iqk.selectedIqcFillApplied then
      .error (.new "runtime_iqk_fill_not_applied"
        "runtime IQK completed but selected IQC fill was not applied after cleanup; refusing live TX")
    else .ok ()

def applyProductionRuntimeTxCalibrationProfile (procedures : CalibrationProcedures)
    (config : ProductionRuntimeFlowConfig) (rfeType : UInt8) :
    RegisterAction (Option Rtl8812auTxCalibrationProfileReport) := do
  let report ← runRtl8812auTxCalibrationProfile procedures {} config.calibrationProfile config.channel config.bandwidth
    rfeType
  match report with
  | none => return none
  | some profile =>
    match validateProductionRuntimeTxCalibrationProfileReadyForTx profile with
    | .error error => .fail error
    | .ok () => return some profile

/-- there is no runtime IQK, or it was cleaned up, completed and filled in -/
def CalibrationReady (report : Option Rtl8812auTxCalibrationProfileReport) : Prop :=
  ∀ profile ∈ report, ∀ iqk ∈ profile.runtimeIqk,
    iqk.cleanupStatus = "restored" ∧ iqk.status = "completed" ∧ iqk.selectedIqcFillApplied = true

theorem readyForTx_iff (profile : Rtl8812auTxCalibrationProfileReport) :
    validateProductionRuntimeTxCalibrationProfileReadyForTx profile = .ok () ↔ CalibrationReady (some profile) := by
  rw [validateProductionRuntimeTxCalibrationProfileReadyForTx, CalibrationReady]
  cases hiqk : profile.runtimeIqk with
  | none => simp [hiqk]
  | some iqk =>
    dsimp only
    split_ifs with hcleanup hstatus hfill
    · simp [hiqk, hcleanup]
    · simp [hiqk, hstatus]
    · simp [hiqk] at hfill ⊢
      simp [hfill]
    · simp only [Bool.not_eq_eq_eq_not, Bool.not_true, Bool.not_eq_false] at hfill
      simp [hiqk, not_not.1 hcleanup, not_not.1 hstatus, hfill]

end WfbLink.Runtime
