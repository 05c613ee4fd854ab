/-
The power-on phase of the init sequence, and the checks in front of the later phases (`wfb-radio-runtime/src/lib.rs`).

- `performs_powerOn`: what the phase writes, and what it has found when it returns.
-/
import WfbLink.Runtime.EfuseRead
import WfbLink.Runtime.FirmwareSequence
import WfbLink.Runtime.RegisterEffects

namespace WfbLink.Runtime

open WfbLink.Core WfbLink.RadioCore

/-! ## Registers -/

def bit0 : UInt8 := (1 : UInt8) <<< 0
def bit4 : UInt8 := (1 : UInt8) <<< 4
def bit5 : UInt8 := (1 : UInt8) <<< 5
def bit6 : UInt8 := (1 : UInt8) <<< 6
def bit7 : UInt8 := (1 : UInt8) <<< 7

def regApsFsmcoPlus1 : UInt16 := 0x0005
def regApsFsmcoPlus2 : UInt16 := 0x0006
def regRfCtrl : UInt16 := 0x001f
def regAfeXtalCtrl : UInt16 := 0x0024
def regAfePllCtrl : UInt16 := 0x0028
def regRfBCtrl8812 : UInt16 := 0x0076

def crEnableBits : UInt16 :=
  ((1 : UInt16) <<< 0) ||| ((1 : UInt16) <<< 1) ||| ((1 : UInt16) <<< 2) ||| ((1 : UInt16) <<< 3) |||
    ((1 : UInt16) <<< 4) ||| ((1 : UInt16) <<< 5) ||| ((1 : UInt16) <<< 9) ||| ((1 : UInt16) <<< 10)

def fenBbrstb : UInt8 := bit0
def fenBbGlbRstn : UInt8 := bit1
def fenUsba : UInt8 := bit2

/-- the writes that were counted since; a `usize` has 64 bits -/
def writesSince (before : RuntimeRadioCounters) : RegisterAction ℕ := do
  let counters ← RegisterAction.counters
  return (satSub counters.usbControlWrites before.usbControlWrites).toNat

/-! ## Checks -/

/-- a field that has to be set, or an error with the value that was read -/
def requireField {α : Type} (read : RegisterAction α) (ready : α → Prop) [DecidablePred ready]
    (error : α → RuntimeRadioError) : RegisterAction Unit := do
  let value ← read
  if ready value then return ()
  else .fail (error value)

section Checks

variable (registers : Rtl8812auRegisterAccess)

def productionPreflightCr (label : String) : RegisterAction Unit :=
  requireField (read16WithCounter registers regCr "REG_CR" "preflight") (fun cr => cr &&& crEnableBits = crEnableBits)
    fun cr => .new "mac_not_powered_on"
      s!"REG_CR expected block-enable mask {formatRegisterValue crEnableBits.toNat 4} to be set before {label}, got {formatRegisterValue cr.toNat 4}"

def firmwareReadyMask : UInt8 := ramDlSel ||| bit6 ||| bit1

def productionPreflightFirmware (label : String) : RegisterAction Unit := do
  productionPreflightCr registers label
  requireField (read8WithCounter registers regMcufwdl "REG_MCUFWDL" "preflight")
    (fun mcu => mcu &&& firmwareReadyMask = firmwareReadyMask)
    fun mcu => .new "firmware_not_ready"
      s!"REG_MCUFWDL expected firmware-ready mask {formatRegisterValue firmwareReadyMask.toNat 2} before {label}, got {formatRegisterValue mcu.toNat 2}"

def bbReadyMask : UInt8 := fenUsba ||| fenBbGlbRstn ||| fenBbrstb

def productionRfPreflight : RegisterAction Unit := do
  productionPreflightFirmware registers "RF programming"
  requireField (read8WithCounter registers regSysFuncEn "REG_SYS_FUNC_EN" "rf-preflight")
    (fun sys => sys &&& bbReadyMask = bbReadyMask)
    fun sys => .new "bb_not_ready"
      s!"REG_SYS_FUNC_EN expected BB-ready mask {formatRegisterValue bbReadyMask.toNat 2} before RF programming, got {formatRegisterValue sys.toNat 2}"

/-! ## The sequence -/

/-- the timeout is not used -/
def productionPowerOnSequence : RegisterAction ℕ := do
  let before ← RegisterAction.counters
  productionRmw8 registers "REG_APS_FSMCO + 1" regApsFsmcoPlus1 bit2 0 true "power-on"
  let _ ← productionPoll8 registers "REG_APS_FSMCO + 2" regApsFsmcoPlus2 bit1 bit1 200
  productionRmw8 registers "REG_APS_FSMCO + 1" regApsFsmcoPlus1 bit3 0 true "power-on"
  productionRmw8 registers "REG_APS_FSMCO + 1" regApsFsmcoPlus1 bit0 bit0 false "power-on"
  let _ ← productionPoll8 registers "REG_APS_FSMCO + 1" regApsFsmcoPlus1 bit0 0 200
  productionRmw8 registers "REG_AFE_XTAL_CTRL" regAfeXtalCtrl bit1 0 true "power-on"
  productionRmw8 registers "REG_AFE_PLL_CTRL" regAfePllCtrl bit3 0 true "power-on"
  productionWrite16Verify registers "REG_CR" regCr 0 0xffff 0 "power-on"
  let cr ← read16WithCounter registers regCr "REG_CR" "power-on"
  productionWrite16Verify registers "REG_CR" regCr (cr ||| crEnableBits) crEnableBits crEnableBits "power-on"
  [("REG_RF_CTRL", regRfCtrl, (0x05 : UInt8)), ("REG_RF_CTRL", regRfCtrl, 0x07),
    ("REG_RF_B_CTRL_8812", regRfBCtrl8812, 0x05), ("REG_RF_B_CTRL_8812", regRfBCtrl8812, 0x07)].forM
      fun (registerName, address, value) => write8WithCounter registers address value registerName "power-on"
  writesSince before

end Checks

/-! ## Effects -/

theorem performs_writesSince {P : StuckRegisters → Prop} (before : RuntimeRadioCounters) :
    Performs P (writesSince before) (fun _ => True) (RegisterStep.effects []) :=
  Performs.counters.bind_empty fun _ _ => Performs.pure trivial

section Effects

variable {P : StuckRegisters → Prop} (registers : Rtl8812auRegisterAccess)

theorem performs_requireField {α : Type} {read : RegisterAction α} {toNat : α → ℕ} {address : UInt16} {n mask : ℕ}
    (hread : ReadsValue read toNat address n) {ready : α → Prop} [DecidablePred ready] (error : α → RuntimeRadioError)
    (hready : ∀ value, ready value → toNat value &&& mask = mask &&& mask) :
    Performs P (requireField read ready error) (fun _ => True) (foundField address n mask mask).effect := by
  have hfound (before : StuckRegisters) : Acts True (fun file => file = before) (requireField read ready error)
      (fun _ file => before.value address n &&& mask = mask &&& mask ∧ file = before) fun file => file = before := by
    apply Acts.bind (hread.acts before)
    intro value
    apply Acts.assume
    intro hvalue
    split
    · rename_i hok
      apply Acts.pure
      intro file hfile
      rw [← hvalue]
      exact ⟨hready value hok, hfile⟩
    · exact Acts.fail _ fun _ h => h
  exact performs_found hfound fun _ _ h => h

def preflightCrSteps : List RegisterStep :=
  [foundField regCr 2 crEnableBits.toNat crEnableBits.toNat]

theorem performs_preflightCr (label : String) :
    Performs P (productionPreflightCr registers label) (fun _ => True) (RegisterStep.effects preflightCrSteps) := by
  refine (performs_requireField (readsValue16 registers regCr "REG_CR" "preflight") _ ?_).last
  intro cr hcr
  rw [← UInt16.toNat_and, hcr, Nat.and_self]

def preflightFirmwareSteps : List RegisterStep :=
  preflightCrSteps ++ [foundField regMcufwdl 1 firmwareReadyMask.toNat firmwareReadyMask.toNat]

theorem performs_preflightFirmware (label : String) :
    Performs P (productionPreflightFirmware registers label) (fun _ => True)
      (RegisterStep.effects preflightFirmwareSteps) := by
  refine (performs_preflightCr registers label).append fun _ _ => ?_
  refine (performs_requireField (readsValue8 registers regMcufwdl "REG_MCUFWDL" "preflight") _ ?_).last
  intro mcu hmcu
  rw [← UInt8.toNat_and, hmcu, Nat.and_self]

def rfPreflightSteps : List RegisterStep :=
  preflightFirmwareSteps ++ [foundField regSysFuncEn 1 bbReadyMask.toNat bbReadyMask.toNat]

theorem performs_rfPreflight :
    Performs P (productionRfPreflight registers) (fun _ => True) (RegisterStep.effects rfPreflightSteps) := by
  refine (performs_preflightFirmware registers "RF programming").append fun _ _ => ?_
  refine (performs_requireField (readsValue8 registers regSysFuncEn "REG_SYS_FUNC_EN" "rf-preflight") _ ?_).last
  intro sys hsys
  rw [← UInt8.toNat_and, hsys, Nat.and_self]

def powerOnSteps : List RegisterStep :=
  [setField regApsFsmcoPlus1 1 bit2.toNat 0,
    foundField regApsFsmcoPlus2 1 bit1.toNat bit1.toNat,
    setField regApsFsmcoPlus1 1 bit3.toNat 0,
    blindField regApsFsmcoPlus1 1 bit0.toNat bit0.toNat,
    foundField regApsFsmcoPlus1 1 bit0.toNat 0,
    setField regAfeXtalCtrl 1 bit1.toNat 0,
    setField regAfePllCtrl 1 bit3.toNat 0,
    wordStep regCr 2 0 0xffff 0,
    setField regCr 2 crEnableBits.toNat crEnableBits.toNat,
    blindField regRfCtrl 1 0xff 0x05, blindField regRfCtrl 1 0xff 0x07,
    blindField regRfBCtrl8812 1 0xff 0x05, blindField regRfBCtrl8812 1 0xff 0x07]

/-- the bits that are set -/
theorem performs_setCr :
    Performs P (read16WithCounter registers regCr "REG_CR" "power-on" >>= fun cr =>
      productionWrite16Verify registers "REG_CR" regCr (cr ||| crEnableBits) crEnableBits crEnableBits "power-on")
      (fun _ => True) (setField regCr 2 crEnableBits.toNat crEnableBits.toNat).effect := by
  rw [setField, blind_found]
  refine performs_rmw (readsValue16 registers regCr "REG_CR" "power-on")
    (fun written => writesValue16 registers regCr "REG_CR" "power-on" written) ?_ _
    ((performs_verify16 registers "REG_CR" regCr "power-on" crEnableBits crEnableBits).return_ trivial)
  intro before j _
  rw [UInt16.toNat_or, Nat.testBit_or]
  cases crEnableBits.toNat.testBit j <;> simp

theorem performs_powerOn :
    Performs P (productionPowerOnSequence registers) (fun _ => True) (RegisterStep.effects powerOnSteps) := by
  refine Performs.counters.bind_empty fun before _ => ?_
  refine (performs_rmw8_verified registers _ _ _ bit2 0).cons fun _ _ => ?_
  refine (performs_poll8 registers _ _ bit1 bit1 200).cons fun _ _ => ?_
  refine (performs_rmw8_verified registers _ _ _ bit3 0).cons fun _ _ => ?_
  refine (performs_rmw8_blind registers _ _ _ bit0 bit0).cons fun _ _ => ?_
  refine (performs_poll8 registers _ _ bit0 0 200).cons fun _ _ => ?_
  refine (performs_rmw8_verified registers _ _ _ bit1 0).cons fun _ _ => ?_
  refine (performs_rmw8_verified registers _ _ _ bit3 0).cons fun _ _ => ?_
  refine (performs_write16Verify registers _ _ _ 0 0xffff 0).cons fun _ _ => ?_
  refine (performs_setCr registers).cons_pair fun _ _ => ?_
  refine (Performs.forM _ fun item => (performs_write8 registers _ _ _ _).last).append fun _ _ => ?_
  exact performs_writesSince before

end Effects

/-- an adapter all of whose registers are set, and can be written -/
def setBench : RegisterRun (FaultyDevice StuckRegisters) where
  transport := { file := { bits := fun _ => true, writable := fun _ => true }, failing := fun _ => none }
  counters := {}

end WfbLink.Runtime
