/-
Masked register writes and the serial ports of the RF registers (`wfb-radio-runtime/src/lib.rs`).

An RF register is written as one word on the port of its path. It is read in steps: the mode of the path, its offset into
`rHSSIRead`, and the port that the mode selects.

- `serialOffset_encode`, `serialData_encode`: the word on the port says which register gets which value.
-/
import WfbLink.RadioCore.RadioDevice
import WfbLink.Runtime.RegisterRun

namespace WfbLink.Runtime

open WfbLink.Core WfbLink.RadioCore

/-! ## Registers -/

def regTxpause : UInt16 := 0x0522
def regHssiReadJaguar : UInt16 := 0x08b0
def regRfPiModeAJaguar : UInt16 := 0x0c00
def regRfPathA3wire : UInt16 := 0x0c90
def regRfPiReadAJaguar : UInt16 := 0x0d04
def regRfSiReadAJaguar : UInt16 := 0x0d08
def regRfPiReadBJaguar : UInt16 := 0x0d44
def regRfSiReadBJaguar : UInt16 := 0x0d48
def regRfPiModeBJaguar : UInt16 := 0x0e00
def regRfPathB3wire : UInt16 := 0x0e90

def rfRegisterOffsetMask : UInt32 := 0x000fffff

/-! ## Reports -/

/-- the hexadecimal copies of the numbers are left out, here and in the other reports -/
structure Rtl8812auRegisterReadReport where
  registerName : String
  address : UInt16
  width : String
  value : UInt32
deriving DecidableEq, Repr

structure Rtl8812auRfSerialWriteReport where
  registerName : String
  path : Rtl8812auRfPath
  pathName : String
  bbRegisterName : String
  bbRegister : UInt16
  rfOffset : UInt32
  value : UInt32
  encoded : UInt32
  counters : RuntimeRadioCounters

structure Rtl8812auRfSerialReadReport where
  registerName : String
  path : Rtl8812auRfPath
  pathName : String
  rfOffset : UInt32
  piModeRegisterName : String
  piModeRegister : UInt16
  piModeValue : UInt32
  piMode : Bool
  readbackRegisterName : String
  readbackRegister : UInt16
  value : UInt32
  counters : RuntimeRadioCounters

/-! ## Masked writes -/

/-- `u32::trailing_zeros` -/
def trailingZeros (mask : UInt32) : ℕ := ((List.range 32).find? fun i => mask.toNat.testBit i).getD 32

/-- the bits under the mask get the data, shifted up to the lowest of them -/
def maskedValue (original bitmask data : UInt32) : UInt32 :=
  (original &&& ~~~bitmask) ||| ((data <<< UInt32.ofNat (trailingZeros bitmask)) &&& bitmask)

section Access

variable (registers : Rtl8812auRegisterAccess)

def bbSetBbReg (address : UInt16) (bitmask data : UInt32) (registerName : String) : RegisterAction Unit :=
  if bitmask = 0xffffffff then write32WithCounter registers address data registerName "bb-set"
  else if bitmask = 0 then return ()
  else do
    let original ← read32WithCounter registers address registerName "bb-set"
    write32WithCounter registers address (maskedValue original bitmask data) registerName "bb-set"

def write8RegisterReport (registerName : String) (address : UInt16) (value : UInt8) :
    RegisterAction Rtl8812auRegisterWriteReport := do
  let beforeCounters ← RegisterAction.counters
  let before ← read8WithCounter registers address registerName "pre-write"
  write8WithCounter registers address value registerName "write"
  let after ← read8WithCounter registers address registerName "post-write"
  let counters ← RegisterAction.counters
  return {
    registerName
    address
    before := before.toUInt32
    written := value.toUInt32
    after := after.toUInt32
    changed := before != after
    counters := counters.saturatingSub beforeCounters }

end Access

/-! ## Serial ports -/

def Rtl8812auRfPath.debug : Rtl8812auRfPath → String
  | .a => "A"
  | .b => "B"
  | .both => "Both"

def encodeRfSerialWrite (rfOffset data : UInt32) : UInt32 :=
  (((rfOffset &&& 0xff) <<< 20) ||| (data &&& rfRegisterOffsetMask)) &&& 0x0fffffff

structure RfSerialWriteTarget where
  path : Rtl8812auRfPath
  pathName : String
  bbRegisterName : String
  bbRegister : UInt16

structure RfSerialReadTarget where
  path : Rtl8812auRfPath
  pathName : String
  piModeRegisterName : String
  piModeRegister : UInt16
  piReadbackRegisterName : String
  piReadbackRegister : UInt16
  siReadbackRegisterName : String
  siReadbackRegister : UInt16

/-- the name and the address of the port that is read -/
def RfSerialReadTarget.readback (target : RfSerialReadTarget) (piMode : Bool) : String × UInt16 :=
  if piMode then (target.piReadbackRegisterName, target.piReadbackRegister)
  else (target.siReadbackRegisterName, target.siReadbackRegister)

def rfSerialTargetA : RfSerialWriteTarget := ⟨.a, "A", "rA_LSSIWrite_Jaguar", regRfPathA3wire⟩
def rfSerialTargetB : RfSerialWriteTarget := ⟨.b, "B", "rB_LSSIWrite_Jaguar", regRfPathB3wire⟩

def rfSerialReadTargetA : RfSerialReadTarget :=
  ⟨.a, "A", "rA_PI_Mode_Jaguar", regRfPiModeAJaguar, "rA_PIRead_Jaguar", regRfPiReadAJaguar, "rA_SIRead_Jaguar",
    regRfSiReadAJaguar⟩

def rfSerialReadTargetB : RfSerialReadTarget :=
  ⟨.b, "B", "rB_PI_Mode_Jaguar", regRfPiModeBJaguar, "rB_PIRead_Jaguar", regRfPiReadBJaguar, "rB_SIRead_Jaguar",
    regRfSiReadBJaguar⟩

def rfSerialWriteTargets : Rtl8812auRfPath → List RfSerialWriteTarget
  | .a => [rfSerialTargetA]
  | .b => [rfSerialTargetB]
  | .both => [rfSerialTargetA, rfSerialTargetB]

def rfSerialReadTarget : Rtl8812auRfPath → Option RfSerialReadTarget
  | .a => some rfSerialReadTargetA
  | .b => some rfSerialReadTargetB
  | .both => none

def rfRegisterDisplayName (rfOffset : UInt32) : String :=
  if rfOffset = 0x00 then "RF_0x00"
  else if rfOffset = 0x08 then "RF_0x08_LOK_readback"
  else if rfOffset = 0x30 then "RF_0x30_IQK"
  else if rfOffset = 0x31 then "RF_0x31_IQK"
  else if rfOffset = 0x32 then "RF_0x32_IQK"
  else if rfOffset = 0x58 then "RF_0x58_LOK_load"
  else if rfOffset = 0x65 then "RF_0x65_IQK_backup"
  else if rfOffset = 0x8f then "RF_0x8f_IQK_backup"
  else if rfOffset = 0xef then "RF_0xef_IQK_mode"
  else if rfOffset = 0x18 then "RF_CHNLBW_Jaguar"
  else if rfOffset = 0xb4 then "RF_LCK"
  else "RF register"

section Serial

variable (registers : Rtl8812auRegisterAccess)

def rfSerialWriteTo (rfOffset value : UInt32) (target : RfSerialWriteTarget) :
    RegisterAction Rtl8812auRfSerialWriteReport := do
  let before ← RegisterAction.counters
  let value := value &&& rfRegisterOffsetMask
  let encoded := encodeRfSerialWrite rfOffset value
  write32WithCounter registers target.bbRegister encoded target.bbRegisterName "rf-serial-write"
  let counters ← RegisterAction.counters
  return {
    registerName := rfRegisterDisplayName rfOffset
    path := target.path
    pathName := target.pathName
    bbRegisterName := target.bbRegisterName
    bbRegister := target.bbRegister
    rfOffset
    value
    encoded
    counters := counters.saturatingSub before }

/-- one target after the other; the last report is returned -/
def rfSerialWriteFrom (rfOffset value : UInt32) (path : Rtl8812auRfPath) :
    List RfSerialWriteTarget → Option Rtl8812auRfSerialWriteReport → RegisterAction Rtl8812auRfSerialWriteReport
  | [], none =>
    .fail (.new "rf_serial_write_failed" s!"RF serial write produced no report for path {path.debug}")
  | [], some report => return report
  | target :: targets, _ => do
    let report ← rfSerialWriteTo registers rfOffset value target
    rfSerialWriteFrom rfOffset value path targets (some report)

def rfSerialWriteSinglePath (path : Rtl8812auRfPath) (rfOffset value : UInt32) :
    RegisterAction Rtl8812auRfSerialWriteReport :=
  rfSerialWriteFrom registers rfOffset value path (rfSerialWriteTargets path) none

def rfSerialReadFrom (rfOffset : UInt32) (target : RfSerialReadTarget) : RegisterAction Rtl8812auRfSerialReadReport := do
  let before ← RegisterAction.counters
  let rfOffset := rfOffset &&& 0xff
  let piModeValue ← read32WithCounter registers target.piModeRegister target.piModeRegisterName "rf-serial-read"
  let piMode := piModeValue &&& 0x4 != 0
  bbSetBbReg registers regHssiReadJaguar 0x000000ff rfOffset "rHSSIRead_Jaguar"
  let readback := target.readback piMode
  let value ← read32WithCounter registers readback.2 readback.1 "rf-serial-read"
  let counters ← RegisterAction.counters
  return {
    registerName := rfRegisterDisplayName rfOffset
    path := target.path
    pathName := target.pathName
    rfOffset
    piModeRegisterName := target.piModeRegisterName
    piModeRegister := target.piModeRegister
    piModeValue
    piMode
    readbackRegisterName := readback.1
    readbackRegister := readback.2
    value := value &&& rfRegisterOffsetMask
    counters := counters.saturatingSub before }

def rfSerialReadRegister (path : Rtl8812auRfPath) (rfOffset : UInt32) : RegisterAction Rtl8812auRfSerialReadReport :=
  match rfSerialReadTarget path with
  | none =>
    .fail (.new "rf_serial_read_path_unsupported" "RF serial read requires path A or path B, not both")
  | some target => rfSerialReadFrom registers rfOffset target

end Serial

/-! ## The word on the port -/

theorem encode_toNat (rfOffset data : UInt32) :
    (encodeRfSerialWrite rfOffset data).toNat = rfOffset.toNat % 2 ^ 8 * 2 ^ 20 + data.toNat % 2 ^ 20 := by
  have hdata : (data &&& rfRegisterOffsetMask).toNat = data.toNat % 2 ^ 20 :=
    (UInt32.toNat_and _ _).trans (Nat.and_two_pow_sub_one_eq_mod _ 20)
  have hoffset : (rfOffset &&& 0xff).toNat = rfOffset.toNat % 2 ^ 8 :=
    (UInt32.toNat_and _ _).trans (Nat.and_two_pow_sub_one_eq_mod _ 8)
  have hshift : ((rfOffset &&& 0xff) <<< 20 : UInt32).toNat = (rfOffset.toNat % 2 ^ 8) <<< 20 := by
    rw [UInt32.toNat_shiftLeft, hoffset]
    change (rfOffset.toNat % 2 ^ 8) <<< 20 % 2 ^ 32 = _
    rw [Nat.shiftLeft_eq]
    omega
  have hor : ((rfOffset &&& 0xff) <<< 20 ||| (data &&& rfRegisterOffsetMask)).toNat
      = rfOffset.toNat % 2 ^ 8 * 2 ^ 20 + data.toNat % 2 ^ 20 := by
    rw [UInt32.toNat_or, hshift, hdata, ← Nat.shiftLeft_add_eq_or_of_lt (Nat.mod_lt _ (by decide)), Nat.shiftLeft_eq]
  rw [encodeRfSerialWrite, UInt32.toNat_and, hor]
  refine (Nat.and_two_pow_sub_one_eq_mod _ 28).trans ?_
  omega

theorem serialOffset_encode (rfOffset data : UInt32) :
    serialOffset (encodeRfSerialWrite rfOffset data) = UInt8.ofNat rfOffset.toNat := by
  rw [serialOffset, encode_toNat]
  apply UInt8.toNat_inj.1
  rw [UInt8.toNat_ofNat', UInt8.toNat_ofNat']
  omega

theorem serialData_encode (rfOffset data : UInt32) :
    serialData (encodeRfSerialWrite rfOffset data) = BitVec.ofNat 20 data.toNat := by
  rw [serialData, encode_toNat]
  apply BitVec.eq_of_toNat_eq
  rw [BitVec.toNat_ofNat, BitVec.toNat_ofNat]
  omega

/-! ## What the steps do to a radio -/

theorem masked_bits (original bitmask data : UInt32) :
    maskedValue original bitmask data &&& bitmask
      = data <<< UInt32.ofNat (trailingZeros bitmask) &&& bitmask := by
  apply UInt32.eq_of_toBitVec_eq
  ext i hi
  simp only [maskedValue, UInt32.toBitVec_and, UInt32.toBitVec_or, UInt32.toBitVec_not, BitVec.getElem_and,
    BitVec.getElem_or, BitVec.getElem_not]
  cases original.toBitVec[i] <;> cases bitmask.toBitVec[i] <;>
    cases (data <<< UInt32.ofNat (trailingZeros bitmask)).toBitVec[i] <;> rfl

/-- either port of a path reads its RF registers -/
theorem readPort_readback {path : Rtl8812auRfPath} {target : RfSerialReadTarget}
    (htarget : rfSerialReadTarget path = some target) (piMode : Bool) :
    readPort (target.readback piMode).2 = some (.serial (if path = .a then .a else .b)) := by
  cases path with
  | a =>
    obtain rfl := Option.some.inj htarget
    cases piMode <;> rfl
  | b =>
    obtain rfl := Option.some.inj htarget
    cases piMode <;> rfl
  | both => cases htarget

/-- the low byte, written under its mask -/
theorem maskedValue_low (original data : UInt32) :
    UInt8.ofNat (maskedValue original 0xff data).toNat = UInt8.ofNat data.toNat := by
  have hbits : (maskedValue original 0xff data).toNat % 2 ^ 8 = data.toNat % 2 ^ 8 := by
    have h := congrArg UInt32.toNat (masked_bits original 0xff data)
    rw [show trailingZeros 0xff = 0 from rfl, show data <<< UInt32.ofNat 0 = data from UInt32.shiftLeft_zero,
      UInt32.toNat_and, UInt32.toNat_and] at h
    rwa [← Nat.and_two_pow_sub_one_eq_mod, ← Nat.and_two_pow_sub_one_eq_mod]
  apply UInt8.toNat_inj.1
  rw [UInt8.toNat_ofNat', UInt8.toNat_ofNat', hbits]

/-- the offset that is written into `rHSSIRead` -/
theorem hssi_offset (file : RadioRegisters) (original rfOffset : UInt32) :
    (RegisterFile.store file regHssiReadJaguar (toLeU32 (maskedValue original 0xff rfOffset).toNat)).cells
      (false, 0x08b0) = UInt8.ofNat rfOffset.toNat := by
  have hplace (address : UInt16) (haddress : banked address = false) :
      place file.pageC1 address = (false, address) := by rw [place, haddress, Bool.and_false]
  have hcell : (RegisterFile.store file regHssiReadJaguar (toLeU32 (maskedValue original 0xff rfOffset).toNat)).cells
      (false, 0x08b0) = UInt8.ofNat (maskedValue original 0xff rfOffset).toNat := by
    rw [file.store_cells, toLeU32]
    simp only [patch]
    rw [hplace _ (by decide), hplace _ (by decide), hplace _ (by decide), hplace _ (by decide),
      Function.update_of_ne (by decide), Function.update_of_ne (by decide), Function.update_of_ne (by decide)]
    exact Function.update_self _ _ _
  rw [hcell, maskedValue_low]

/-- what the port of the RF registers reads, without the bits it does not have -/
theorem readback_value (value : BitVec 20) : UInt32.ofNat value.toNat &&& rfRegisterOffsetMask = UInt32.ofNat value.toNat := by
  apply UInt32.toNat_inj.1
  have hvalue := value.isLt
  rw [UInt32.toNat_and, UInt32.toNat_ofNat', Nat.mod_eq_of_lt (by omega)]
  exact (Nat.and_two_pow_sub_one_eq_mod _ 20).trans (Nat.mod_eq_of_lt hvalue)

end WfbLink.Runtime
