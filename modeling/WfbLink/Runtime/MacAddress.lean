/-
The MAC address of the adapter (`wfb-radio-runtime/src/lib.rs`): it is looked up in the EFUSE, and written to `REG_MACID`.

The fuses are read one by one. A read is a command that names a fuse, and the status says when the byte is there. The
adapter listens to it only while access is granted and the loader has its clock.

- `acts_readFuse`: one fuse, on an adapter that takes as long as it likes.
- `macid_programmed`: from the blocks on the fuses to the address in the registers.
-/
import WfbLink.RadioCore.StuckRegisters
import WfbLink.Runtime.DeviceFaults
import WfbLink.Runtime.EfuseRead
import WfbLink.Runtime.IqkOneShot

namespace WfbLink.Runtime

open WfbLink.Core WfbLink.RadioCore

/-! ## The address -/

def regMacid : UInt16 := 0x0610
def rtl8812auEfuseMacOffset : ℕ := 0x0d7

/-- a blank address is none -/
def rtl8812auEfuseLogicalMacAddress (logicalMap : List UInt8) : Option (List UInt8) :=
  if rtl8812auEfuseMacOffset + 6 ≤ logicalMap.length then
    let mac := (logicalMap.drop rtl8812auEfuseMacOffset).take 6
    if mac.all (· == 0xff) || mac.all (· == 0x00) then none else some mac
  else none

/-- the decoder stops with a map on any bytes -/
def decodedEfuseMap (raw : List UInt8) : List UInt8 :=
  match rtl8812auDecodeEfuseLogicalMap raw with
  | .stopped (.ok logicalMap) => logicalMap
  | _ => []

def formatMacAddress (mac : List UInt8) : String := ":".intercalate (mac.map fun byte => hexText 2 byte.toNat)

structure RuntimeMacAddressExecution where
  before : List UInt8
  written : List UInt8
  after : List UInt8
  registerWrites : ℕ
  counters : RuntimeRadioCounters

section Sequence

variable (registers : Rtl8812auRegisterAccess)

def readRtl8812auEfuseMacAddressWithConfig (config : RuntimeEfuseReadConfig) :
    RegisterAction (Option (List UInt8)) := do
  let raw ← readRtl8812auEfusePhysicalWithConfig registers config
  return rtl8812auEfuseLogicalMacAddress (decodedEfuseMap raw)

def readRtl8812auEfuseMacAddress : RegisterAction (Option (List UInt8)) :=
  readRtl8812auEfuseMacAddressWithConfig registers {}

/-- the bytes at some addresses -/
def readMacidBytes (phase : String) : List UInt16 → RegisterAction (List UInt8)
  | [] => return []
  | address :: addresses => do
    let byte ← read8WithCustomError registers address fun error => .new "register_read_failed"
      s!"REG_MACID {phase} byte read failed at {formatRegisterAddress address}: {error.message}"
    let bytes ← readMacidBytes phase addresses
    return byte :: bytes

def macidAddresses : List UInt16 := (List.range 6).map fun offset => regMacid + UInt16.ofNat offset

def readRtl8812auMacid (phase : String) : RegisterAction (List UInt8) := readMacidBytes registers phase macidAddresses

/-- a byte for each address, and how many were written -/
def writeMacidBytes : List UInt16 → List UInt8 → ℕ → RegisterAction ℕ
  | address :: addresses, byte :: bytes, registerWrites => do
    write8WithCustomError registers address byte fun error => .new "register_write_failed"
      s!"REG_MACID local MAC byte write failed at {formatRegisterAddress address}: {error.message}"
    writeMacidBytes addresses bytes (registerWrites + 1)
  | _, _, registerWrites => return registerWrites

def programRtl8812auLocalMac (localMac : List UInt8) : RegisterAction RuntimeMacAddressExecution := do
  let beforeCounters ← RegisterAction.counters
  let before ← readRtl8812auMacid registers "pre-local-MAC"
  let registerWrites ← writeMacidBytes registers macidAddresses localMac 0
  let after ← readRtl8812auMacid registers "post-local-MAC"
  let counters ← RegisterAction.counters
  return { before, written := localMac, after, registerWrites, counters := counters.saturatingSub beforeCounters }

def productionProgramEfuseMacid : RegisterAction String := do
  match ← readRtl8812auEfuseMacAddress registers with
  | some mac =>
    let report ← programRtl8812auLocalMac registers mac
    return s!"programmed REG_MACID from EFUSE MAC {formatMacAddress report.written} (was {formatMacAddress report.before})"
  | none => return "EFUSE did not contain a programmed MAC address; REG_MACID left unchanged"

end Sequence

/-! ## The adapter -/

/-- registers in front of fuses; `reading` is the fuse that is being read, and how many reads of the status it takes -/
structure EfuseRegisters where
  plain : PlainRegisters
  fuses : ℕ → UInt8
  latency : ℕ → ℕ
  reading : Option (ℕ × ℕ)

/-- the half word at an address -/
def halfWord (file : PlainRegisters) (address : UInt16) : UInt16 :=
  UInt16.ofNat (fromLeBytes (file.loadBytes address 2))

namespace EfuseRegisters

variable (file : EfuseRegisters)

/-- access is granted, and the loader has its clock -/
def Powered : Prop :=
  file.plain.cells regEfuseBurnGnt8812 = efuseAccessOnJaguar ∧ halfWord file.plain regSysFuncEn &&& fenEldr ≠ 0 ∧
    halfWord file.plain regSysClkr &&& (loaderClkEn ||| ana8m) = loaderClkEn ||| ana8m

instance instDecidablePowered : Decidable file.Powered := inferInstanceAs (Decidable (_ ∧ _ ∧ _))

/-- the fuse that the address bits name -/
def selected : ℕ :=
  (file.plain.cells (regEfuseCtrl + 1)).toNat + (file.plain.cells (regEfuseCtrl + 2)).toNat % 4 * 2 ^ 8

/-- a byte to the command register; without its top bit it starts a read -/
def command (byte : UInt8) : EfuseRegisters :=
  { file with
      plain := file.plain.storeBytes (regEfuseCtrl + 3) [byte]
      reading := if byte &&& 0x80 = 0 ∧ file.Powered then some (file.selected, file.latency file.selected) else none }

/-- a byte from the command register; the top bit says that the byte of the fuse is there -/
def status : UInt8 × EfuseRegisters :=
  match file.reading with
  | none => (file.plain.cells (regEfuseCtrl + 3), file)
  | some (fuse, wait + 1) => (file.plain.cells (regEfuseCtrl + 3), { file with reading := some (fuse, wait) })
  | some (fuse, 0) =>
    let ready := file.plain.cells (regEfuseCtrl + 3) ||| 0x80
    (ready, { file with
                plain := (file.plain.storeBytes (regEfuseCtrl + 3) [ready]).storeBytes regEfuseCtrl [file.fuses fuse]
                reading := none })

instance instRegisterFile : RegisterFile EfuseRegisters where
  load file address n :=
    if address = regEfuseCtrl + 3 ∧ n = 1 then ([file.status.1], file.status.2)
    else (file.plain.loadBytes address n, file)
  store file address data :=
    match data with
    | [byte] =>
      if address = regEfuseCtrl + 3 then file.command byte
      else { file with plain := file.plain.storeBytes address [byte] }
    | data => { file with plain := file.plain.storeBytes address data }
  load_length file address n := by
    split
    · rename_i h
      exact h.2.symm
    · rw [PlainRegisters.loadBytes, List.length_map, List.length_range]

end EfuseRegisters

/-! ## Registers beside the fuses -/

theorem halfWord_store (file : PlainRegisters) (address value : UInt16) :
    halfWord (file.storeBytes address (toLeU16 value.toNat)) address = value := by
  have hload := file.loadBytes_storeBytes address (toLeU16 value.toNat) (by change 2 ≤ 2 ^ 16; decide)
  rw [halfWord]
  change (file.storeBytes address (toLeU16 value.toNat)).loadBytes address 2 = _ at hload
  rw [hload, fromLeBytes_toLeU16 value.toNat_lt, UInt16.ofNat_toNat]

theorem halfWord_congr {file file' : PlainRegisters} {address : UInt16} (h : file.cells address = file'.cells address)
    (h' : file.cells (address + 1) = file'.cells (address + 1)) : halfWord file address = halfWord file' address := by
  have hload : file.loadBytes address 2 = file'.loadBytes address 2 := by
    change [file.cells (address + 0), file.cells (address + 1)] = [file'.cells (address + 0), file'.cells (address + 1)]
    rw [UInt16.add_zero, h, h']
  rw [halfWord, halfWord, hload]

theorem storeByte_same (file : PlainRegisters) (address : UInt16) (byte : UInt8) :
    (file.storeBytes address [byte]).cells address = byte := if_pos rfl

theorem storeByte_other (file : PlainRegisters) {address other : UInt16} (byte : UInt8) (h : other ≠ address) :
    (file.storeBytes address [byte]).cells other = file.cells other := if_neg h

theorem storeHalf_other (file : PlainRegisters) {address other : UInt16} (value : UInt16) (h : other ≠ address)
    (h' : other ≠ address + 1) : (file.storeBytes address (toLeU16 value.toNat)).cells other = file.cells other := by
  refine file.storeBytes_other address _ fun i hi => ?_
  have hcases : i = 0 ∨ i = 1 := by
    change i < 2 at hi
    omega
  rcases hcases with rfl | rfl
  · rwa [show address + UInt16.ofNat 0 = address from UInt16.add_zero address]
  · exact h'

namespace EfuseRegisters

variable (file : EfuseRegisters) {address : UInt16}

theorem load8 (h : address ≠ regEfuseCtrl + 3) :
    (UInt8.ofNat (loadValue address 1 file).1, (loadValue address 1 file).2) = (file.plain.cells address, file) := by
  have hload : RegisterFile.load file address 1 = (file.plain.loadBytes address 1, file) :=
    if_neg fun hand => h hand.1
  have hbytes : file.plain.loadBytes address 1 = [file.plain.cells address] := by
    change [file.plain.cells (address + 0)] = _
    rw [UInt16.add_zero]
  rw [loadValue, hload, hbytes]
  change (UInt8.ofNat ((file.plain.cells address).toNat + 256 * 0), file) = _
  rw [Nat.mul_zero, Nat.add_zero, UInt8.ofNat_toNat]

theorem load8_status :
    (UInt8.ofNat (loadValue (regEfuseCtrl + 3) 1 file).1, (loadValue (regEfuseCtrl + 3) 1 file).2) = file.status := by
  have hload : RegisterFile.load file (regEfuseCtrl + 3) 1 = ([file.status.1], file.status.2) := if_pos ⟨rfl, rfl⟩
  rw [loadValue, hload]
  change (UInt8.ofNat (file.status.1.toNat + 256 * 0), file.status.2) = _
  rw [Nat.mul_zero, Nat.add_zero, UInt8.ofNat_toNat]

theorem load16 : (UInt16.ofNat (loadValue address 2 file).1, (loadValue address 2 file).2)
    = (halfWord file.plain address, file) := by
  have hload : RegisterFile.load file address 2 = (file.plain.loadBytes address 2, file) :=
    if_neg fun hand => absurd hand.2 (by decide)
  rw [loadValue, hload]
  rfl

theorem store8 (byte : UInt8) (h : address ≠ regEfuseCtrl + 3) :
    RegisterFile.store file address [byte] = { file with plain := file.plain.storeBytes address [byte] } := if_neg h

theorem store8_command (byte : UInt8) : RegisterFile.store file (regEfuseCtrl + 3) [byte] = file.command byte := if_pos rfl

end EfuseRegisters

/-! ## The accesses -/

section Access

variable {faults : Prop} {P E : EfuseRegisters → Prop} (registers : Rtl8812auRegisterAccess) {address : UInt16}

theorem acts_efuseRead8 {Q : UInt8 → EfuseRegisters → Prop} (haddress : address ≠ regEfuseCtrl + 3)
    (error : Rtl8812auRegisterError → RuntimeRadioError) (hfail : faults → ∀ file, P file → E file)
    (hdone : ∀ file, P file → Q (file.plain.cells address) file) :
    Acts faults P (read8WithCustomError registers address error) Q E := by
  refine Acts.readWithCustomError (registers.read8_loads address) error hfail fun file hfile => ?_
  exact (congrArg (fun r : UInt8 × EfuseRegisters => Q r.1 r.2) (file.load8 haddress)).mpr (hdone file hfile)

theorem acts_efuseStatus {Q : UInt8 → EfuseRegisters → Prop} (error : Rtl8812auRegisterError → RuntimeRadioError)
    (hfail : faults → ∀ file, P file → E file) (hdone : ∀ file, P file → Q file.status.1 file.status.2) :
    Acts faults P (read8WithCustomError registers (regEfuseCtrl + 3) error) Q E := by
  refine Acts.readWithCustomError (registers.read8_loads _) error hfail fun file hfile => ?_
  exact (congrArg (fun r : UInt8 × EfuseRegisters => Q r.1 r.2) (file.load8_status)).mpr (hdone file hfile)

theorem acts_efuseRead16 {Q : UInt16 → EfuseRegisters → Prop} (error : Rtl8812auRegisterError → RuntimeRadioError)
    (hfail : faults → ∀ file, P file → E file) (hdone : ∀ file, P file → Q (halfWord file.plain address) file) :
    Acts faults P (read16WithCustomError registers address error) Q E := by
  refine Acts.readWithCustomError (registers.read16_loads address) error hfail fun file hfile => ?_
  exact (congrArg (fun r : UInt16 × EfuseRegisters => Q r.1 r.2) (@EfuseRegisters.load16 file address)).mpr (hdone file hfile)

theorem acts_efuseWrite8 {Q : Unit → EfuseRegisters → Prop} (haddress : address ≠ regEfuseCtrl + 3) (byte : UInt8)
    (error : Rtl8812auRegisterError → RuntimeRadioError) (hfail : faults → ∀ file, P file → E file)
    (hdone : ∀ file, P file → Q () { file with plain := file.plain.storeBytes address [byte] }) :
    Acts faults P (write8WithCustomError registers address byte error) Q E := by
  refine Acts.writeWithCustomError (registers.writeAll_stores address .u8 [byte] rfl) error hfail fun file hfile => ?_
  rw [file.store8 byte haddress]
  exact hdone file hfile

theorem acts_efuseCommand {Q : Unit → EfuseRegisters → Prop} (byte : UInt8)
    (error : Rtl8812auRegisterError → RuntimeRadioError) (hfail : faults → ∀ file, P file → E file)
    (hdone : ∀ file, P file → Q () (file.command byte)) :
    Acts faults P (write8WithCustomError registers (regEfuseCtrl + 3) byte error) Q E := by
  refine Acts.writeWithCustomError (registers.writeAll_stores _ .u8 [byte] rfl) error hfail fun file hfile => ?_
  rw [file.store8_command byte]
  exact hdone file hfile

theorem acts_efuseWrite16 {Q : Unit → EfuseRegisters → Prop} (value : UInt16)
    (error : Rtl8812auRegisterError → RuntimeRadioError) (hfail : faults → ∀ file, P file → E file)
    (hdone : ∀ file, P file →
      Q () { file with plain := file.plain.storeBytes address (toLeU16 value.toNat) }) :
    Acts faults P (write16WithCustomError registers address value error) Q E :=
  Acts.writeWithCustomError (registers.writeAll_stores address .u16 (toLeU16 value.toNat) rfl) error hfail hdone

end Access

/-! ## One fuse -/

/-- the registers that reading the fuses writes to -/
def efuseTouched : List UInt16 :=
  [regSysFuncEn, regSysFuncEn + 1, regSysClkr, regSysClkr + 1, regEfuseCtrl, regEfuseCtrl + 1, regEfuseCtrl + 2,
    regEfuseCtrl + 3, regEfuseBurnGnt8812]

/-- the fuses are what they were, and so are all other registers -/
structure EfuseKept (start file : EfuseRegisters) : Prop where
  fuses : file.fuses = start.fuses
  latency : file.latency = start.latency
  cells : ∀ address, address ∉ efuseTouched → file.plain.cells address = start.plain.cells address

namespace EfuseKept

variable {start file : EfuseRegisters}

theorem refl (start : EfuseRegisters) : EfuseKept start start := ⟨rfl, rfl, fun _ _ => rfl⟩

theorem store8 (h : EfuseKept start file) {address : UInt16} (haddress : address ∈ efuseTouched) (byte : UInt8)
    (reading : Option (ℕ × ℕ)) :
    EfuseKept start { file with plain := file.plain.storeBytes address [byte], reading } := by
  refine ⟨h.fuses, h.latency, fun other hother => ?_⟩
  have hne : other ≠ address := fun heq => hother (heq ▸ haddress)
  exact (storeByte_other _ byte hne).trans (h.cells other hother)

theorem store16 (h : EfuseKept start file) {address : UInt16} (haddress : address ∈ efuseTouched)
    (hnext : address + 1 ∈ efuseTouched) (value : UInt16) :
    EfuseKept start { file with plain := file.plain.storeBytes address (toLeU16 value.toNat) } := by
  refine ⟨h.fuses, h.latency, fun other hother => ?_⟩
  have hne : other ≠ address := fun heq => hother (heq ▸ haddress)
  have hne' : other ≠ address + 1 := fun heq => hother (heq ▸ hnext)
  exact (storeHalf_other _ value hne hne').trans (h.cells other hother)

theorem status (h : EfuseKept start file) : EfuseKept start file.status.2 := by
  unfold EfuseRegisters.status
  split
  · exact h
  · exact ⟨h.fuses, h.latency, h.cells⟩
  · exact (h.store8 (by decide) _ none).store8 (by decide) _ none

end EfuseKept

/-- access is granted, and no fuse is being read -/
structure EfuseReady (start file : EfuseRegisters) : Prop where
  kept : EfuseKept start file
  powered : file.Powered
  idle : file.reading = none

/-- the registers of the read are none of those that power it -/
theorem EfuseRegisters.Powered.store8 {file : EfuseRegisters} (h : file.Powered) {address : UInt16}
    (haddress : address ∈ [regEfuseCtrl, regEfuseCtrl + 1, regEfuseCtrl + 2, regEfuseCtrl + 3]) (byte : UInt8)
    (reading : Option (ℕ × ℕ)) :
    ({ file with plain := file.plain.storeBytes address [byte], reading } : EfuseRegisters).Powered := by
  have hother : ∀ address ∈ [regEfuseCtrl, regEfuseCtrl + 1, regEfuseCtrl + 2, regEfuseCtrl + 3],
      regEfuseBurnGnt8812 ≠ address ∧ regSysFuncEn ≠ address ∧ regSysFuncEn + 1 ≠ address ∧ regSysClkr ≠ address ∧
        regSysClkr + 1 ≠ address := by
    decide
  obtain ⟨hgrant, hfunc, hfunc', hclkr, hclkr'⟩ := hother address haddress
  obtain ⟨h₁, h₂, h₃⟩ := h
  refine ⟨(storeByte_other _ byte hgrant).trans h₁, ?_, ?_⟩
  · rwa [halfWord_congr (storeByte_other _ byte hfunc) (storeByte_other _ byte hfunc')]
  · rwa [halfWord_congr (storeByte_other _ byte hclkr) (storeByte_other _ byte hclkr')]

/-- a fuse is being read, and for how long -/
structure EfuseReading (start : EfuseRegisters) (fuse wait : ℕ) (file : EfuseRegisters) : Prop where
  kept : EfuseKept start file
  powered : file.Powered
  reading : file.reading = some (fuse, wait)
  waiting : file.plain.cells (regEfuseCtrl + 3) &&& 0x80 = 0

section Fuse

variable {faults : Prop} (registers : Rtl8812auRegisterAccess) {start : EfuseRegisters}

theorem efuseReady_bit (byte : UInt8) : (byte ||| 0x80) &&& 0x80 ≠ 0 := by
  intro h
  have hnat := congrArg UInt8.toNat h
  rw [UInt8.toNat_and, UInt8.toNat_or] at hnat
  have hbit := congrArg (fun n => n.testBit 7) hnat
  simp only [Nat.testBit_and, Nat.testBit_or] at hbit
  revert hbit
  cases byte.toNat.testBit 7 <;> decide

/-- polling, until the byte of the fuse is there -/
theorem acts_efusePoll (address : UInt16) (fuse attempts wait : ℕ) :
    Acts faults (EfuseReading start fuse wait) (efusePollReady registers address attempts)
      (fun byte file => (∀ b, byte = some b → b = start.fuses fuse ∧ EfuseReady start file) ∧
        (byte = none → EfuseKept start file ∧ attempts ≤ wait))
      fun file => EfuseKept start file ∧ faults := by
  induction attempts generalizing wait with
  | zero =>
    apply Acts.pure
    intro file hfile
    refine ⟨?_, fun _ => ⟨hfile.kept, Nat.zero_le _⟩⟩
    rintro _ ⟨⟩
  | succ attempts ih =>
    unfold efusePollReady
    cases wait with
    | zero =>
      apply Acts.bind (acts_efuseStatus registers (Q := fun status file => status &&& 0x80 ≠ 0 ∧
        EfuseReady start file ∧ file.plain.cells regEfuseCtrl = start.fuses fuse) _ (fun hf file h => ⟨h.kept, hf⟩) ?_)
      · intro status
        apply Acts.assume
        intro hready
        rw [if_pos hready]
        apply Acts.bind (acts_efuseRead8 registers (Q := fun byte file => byte = start.fuses fuse ∧ EfuseReady start file)
          (by decide) _ (fun hf file h => ⟨h.1.kept, hf⟩) fun file h => ⟨h.2, h.1⟩)
        intro byte
        apply Acts.pure
        intro file hfile
        refine ⟨?_, ?_⟩
        · rintro _ ⟨⟩
          exact hfile
        · rintro ⟨⟩
      · intro file hfile
        have hstatus : file.status = (file.plain.cells (regEfuseCtrl + 3) ||| 0x80, file.status.2) := by
          unfold EfuseRegisters.status
          rw [hfile.reading]
        have hafter : file.status.2 =
            { file with
                plain := (file.plain.storeBytes (regEfuseCtrl + 3)
                  [file.plain.cells (regEfuseCtrl + 3) ||| 0x80]).storeBytes regEfuseCtrl [file.fuses fuse]
                reading := none } := by
          unfold EfuseRegisters.status
          rw [hfile.reading]
        have hpowered : file.status.2.Powered := by
          rw [hafter]
          exact (hfile.powered.store8 (by decide) _ none).store8 (by decide) _ none
        refine ⟨?_, ⟨hfile.kept.status, hpowered, ?_⟩, ?_⟩
        · rw [congrArg Prod.fst hstatus]
          exact efuseReady_bit _
        · rw [hafter]
        · rw [hafter, ← hfile.kept.fuses]
          exact storeByte_same _ _ _
    | succ wait =>
      apply Acts.bind (acts_efuseStatus registers (Q := fun status file => status &&& 0x80 = 0 ∧
        EfuseReading start fuse wait file) _ (fun hf file h => ⟨h.kept, hf⟩) ?_)
      · intro status
        apply Acts.assume
        intro hwaiting
        rw [if_neg (not_not.2 hwaiting)]
        refine (ih wait).weaken (fun _ h => h) ?_ fun _ h => h
        rintro byte file ⟨hsome, hnone⟩
        exact ⟨hsome, fun h => ⟨(hnone h).1, Nat.succ_le_succ (hnone h).2⟩⟩
      · intro file hfile
        have hstatus : file.status = (file.plain.cells (regEfuseCtrl + 3), { file with reading := some (fuse, wait) }) := by
          unfold EfuseRegisters.status
          rw [hfile.reading]
        rw [hstatus]
        exact ⟨hfile.waiting, ⟨hfile.kept.fuses, hfile.kept.latency, hfile.kept.cells⟩, hfile.powered, rfl, hfile.waiting⟩

/-- the two bits of the address beside the six that are kept -/
theorem highBits (address : UInt16) (high : UInt8) :
    (((address >>> 8) &&& 0x03).toUInt8 ||| (high &&& 0xfc)).toNat % 4 = address.toNat / 2 ^ 8 % 4 := by
  have hkept : (high &&& 0xfc).toNat % 2 ^ 2 = 0 := by
    rw [UInt8.toNat_and, Nat.and_mod_two_pow]
    exact Nat.and_zero _
  have hbits : ((address >>> 8) &&& 0x03).toUInt8.toNat = address.toNat / 2 ^ 8 % 2 ^ 2 := by
    have hand : ((address >>> 8) &&& 0x03).toNat = address.toNat / 2 ^ 8 % 2 ^ 2 := by
      rw [UInt16.toNat_and, UInt16.toNat_shiftRight, Nat.shiftRight_eq_div_pow]
      exact Nat.and_two_pow_sub_one_eq_mod _ 2
    rw [UInt16.toNat_toUInt8, hand]
    omega
  change (_ ||| _ : UInt8).toNat % 2 ^ 2 = _ % 2 ^ 2
  rw [UInt8.toNat_or, Nat.or_mod_two_pow, hkept, hbits, Nat.or_zero, Nat.mod_mod]

theorem lowBits (address : UInt16) : (address &&& 0x00ff).toUInt8.toNat = address.toNat % 2 ^ 8 := by
  rw [UInt16.toNat_toUInt8, UInt16.toNat_and]
  refine (congrArg (· % 2 ^ 8) (Nat.and_two_pow_sub_one_eq_mod _ 8)).trans ?_
  exact Nat.mod_mod _ _

namespace EfuseReady

variable {start : EfuseRegisters} {file : EfuseRegisters}

theorem store8 (h : EfuseReady start file) {register : UInt16}
    (hregister : register ∈ [regEfuseCtrl, regEfuseCtrl + 1, regEfuseCtrl + 2, regEfuseCtrl + 3]) (byte : UInt8) :
    EfuseReady start { file with plain := file.plain.storeBytes register [byte] } := by
  have htouched : ∀ register ∈ [regEfuseCtrl, regEfuseCtrl + 1, regEfuseCtrl + 2, regEfuseCtrl + 3],
      register ∈ efuseTouched := by decide
  exact ⟨h.kept.store8 (htouched _ hregister) byte _, h.powered.store8 hregister byte _, h.idle⟩

/-- the second half of the address selects the fuse -/
theorem select (h : EfuseReady start file) {address : UInt16} (haddress : address.toNat < 2 ^ 10)
    (hlow : file.plain.cells (regEfuseCtrl + 1) = (address &&& 0x00ff).toUInt8) (high : UInt8) :
    let after : EfuseRegisters := { file with
      plain := file.plain.storeBytes (regEfuseCtrl + 2) [((address >>> 8) &&& 0x03).toUInt8 ||| (high &&& 0xfc)] }
    EfuseReady start after ∧ after.selected = address.toNat := by
  refine ⟨h.store8 (by decide) _, ?_⟩
  have hlow' := (storeByte_other file.plain (((address >>> 8) &&& 0x03).toUInt8 ||| (high &&& 0xfc))
    (show regEfuseCtrl + 1 ≠ regEfuseCtrl + 2 by decide)).trans hlow
  rw [EfuseRegisters.selected, hlow', storeByte_same, lowBits, highBits]
  omega

/-- the command without its ready bit starts a read of the selected fuse -/
theorem command (h : EfuseReady start file) (byte : UInt8) :
    EfuseReading start file.selected (start.latency file.selected) (file.command (byte &&& 0x7f)) := by
  have hstart : (byte &&& 0x7f) &&& 0x80 = 0 := by
    rw [UInt8.and_assoc]
    exact UInt8.and_zero
  have hcommand : file.command (byte &&& 0x7f) =
      { file with
          plain := file.plain.storeBytes (regEfuseCtrl + 3) [byte &&& 0x7f]
          reading := some (file.selected, start.latency file.selected) } := by
    rw [EfuseRegisters.command, if_pos ⟨hstart, h.powered⟩, h.kept.latency]
  rw [hcommand]
  refine ⟨h.kept.store8 (by decide) _ _, h.powered.store8 (by decide) _ _, rfl, ?_⟩
  exact (congrArg (· &&& 0x80) (storeByte_same file.plain (regEfuseCtrl + 3) _)).trans hstart

/-- no read is going on that reading the status would finish -/
theorem status_eq (h : EfuseReady start file) : file.status.2 = file := by
  rw [EfuseRegisters.status, h.idle]

end EfuseReady

/-- the status is read after a timeout, for the message -/
theorem acts_efuseTimeout {registerName phase : String} (pollAttempts latency : ℕ)
    (f : Except RuntimeRadioError UInt8 → RuntimeRadioError) {Q : UInt8 → EfuseRegisters → Prop} :
    Acts faults (fun file => EfuseKept start file ∧ pollAttempts ≤ latency)
      ((read8WithCounter registers (regEfuseCtrl + 3) registerName phase).attempt >>= fun status => .fail (f status)) Q
      fun file => EfuseKept start file ∧ (faults ∨ pollAttempts ≤ latency) := by
  have hstatus : Acts faults (fun file => EfuseKept start file ∧ pollAttempts ≤ latency)
      (read8WithCounter registers (regEfuseCtrl + 3) registerName phase)
      (fun _ file => EfuseKept start file ∧ (faults ∨ pollAttempts ≤ latency))
      fun file => EfuseKept start file ∧ (faults ∨ pollAttempts ≤ latency) :=
    acts_efuseStatus registers _ (fun hf file h => ⟨h.1, .inl hf⟩) fun file h => ⟨h.1.status, .inr h.2⟩
  exact Acts.bind (hstatus.attempt fun _ _ h => h) fun _ => Acts.fail _ fun _ h => h

/-- **One fuse.** -/
theorem acts_readFuse {address : UInt16} (haddress : address.toNat < 2 ^ 10) (pollAttempts : ℕ) :
    Acts faults (EfuseReady start) (efuseReadByte registers address pollAttempts)
      (fun byte file => byte = start.fuses address.toNat ∧ EfuseReady start file)
      fun file => EfuseKept start file ∧ (faults ∨ pollAttempts ≤ start.latency address.toNat) := by
  have hstop {file : EfuseRegisters} (hf : faults) (h : EfuseReady start file) :
      EfuseKept start file ∧ (faults ∨ pollAttempts ≤ start.latency address.toNat) := ⟨h.kept, .inl hf⟩
  apply Acts.bind (acts_efuseWrite8 registers (Q := fun _ file => EfuseReady start file ∧
    file.plain.cells (regEfuseCtrl + 1) = (address &&& 0x00ff).toUInt8) (by decide) _ _ (fun hf file h => hstop hf h)
    fun file h => ⟨h.store8 (by decide) _, storeByte_same _ _ _⟩)
  intro _
  apply Acts.bind (acts_efuseRead8 registers (Q := fun _ file => EfuseReady start file ∧
    file.plain.cells (regEfuseCtrl + 1) = (address &&& 0x00ff).toUInt8) (by decide) _ (fun hf file h => hstop hf h.1)
    fun file h => h)
  intro high
  apply Acts.bind (acts_efuseWrite8 registers (Q := fun _ file => EfuseReady start file ∧
    file.selected = address.toNat) (by decide) _ _ (fun hf file h => hstop hf h.1)
    fun file h => h.1.select haddress h.2 high)
  intro _
  refine Acts.bind (acts_efuseStatus registers (Q := fun _ file => EfuseReady start file ∧
    file.selected = address.toNat) _ (fun hf file h => hstop hf h.1) fun file h => ?_) fun command => ?_
  · rw [h.1.status_eq]
    exact h
  refine Acts.bind (acts_efuseCommand registers (Q := fun _ =>
    EfuseReading start address.toNat (start.latency address.toNat)) _ _ (fun hf file h => hstop hf h.1)
    fun file h => ?_) fun _ => ?_
  · rw [← h.2]
    exact h.1.command command
  apply Acts.bind ((acts_efusePoll registers address address.toNat pollAttempts _).weaken (fun _ h => h)
    (fun _ _ h => h) fun file h => ⟨h.1, .inl h.2⟩)
  intro byte
  cases byte with
  | some byte =>
    apply Acts.pure
    rintro file ⟨hsome, -⟩
    exact hsome byte rfl
  | none =>
    exact (acts_efuseTimeout registers pollAttempts (start.latency address.toNat) _).weaken (fun _ h => h.2 rfl)
      (fun _ _ h => h) fun _ h => h

/-! ## All fuses -/

/-- a fuse that is too slow -/
def SlowFuse (start : EfuseRegisters) (pollAttempts : ℕ) : Prop :=
  ∃ fuse < rtl8812auEfuseRealContentLen, pollAttempts ≤ start.latency fuse

/-- the fuses, one by one; a failure is kept for later -/
theorem acts_readFuses (pollAttempts count address : ℕ) (hcount : address + count ≤ rtl8812auEfuseRealContentLen) :
    Acts faults (EfuseReady start)
      (efuseReadBytes registers pollAttempts address count ((List.range address).map start.fuses))
      (fun result file => EfuseKept start file ∧
        (result.2 = none → result.1 = (List.range (address + count)).map start.fuses) ∧
        (result.2 ≠ none → faults ∨ SlowFuse start pollAttempts))
      fun _ => False := by
  induction count generalizing address with
  | zero =>
    apply Acts.pure
    intro file hfile
    exact ⟨hfile.kept, fun _ => rfl, fun h => absurd rfl h⟩
  | succ count ih =>
    have hlt : address < 512 := by
      change address + (count + 1) ≤ 512 at hcount
      omega
    have hnat : (UInt16.ofNat address).toNat = address := by
      rw [UInt16.toNat_ofNat']
      omega
    have hread := @acts_readFuse faults registers start (UInt16.ofNat address) (by rw [hnat]; omega) pollAttempts
    rw [hnat] at hread
    apply Acts.bind hread.attempted
    intro byte
    cases byte with
    | ok byte =>
      apply Acts.assume
      rintro rfl
      have hraw : (List.range address).map start.fuses ++ [start.fuses address]
          = (List.range (address + 1)).map start.fuses := by
        rw [List.range_succ, List.map_append, List.map_singleton]
      have hnext := ih (address + 1) (by omega)
      rw [← hraw, Nat.add_right_comm] at hnext
      exact hnext
    | error error =>
      apply Acts.pure
      rintro file ⟨hkept, hslow⟩
      refine ⟨hkept, ?_, fun _ => hslow.imp_right fun h => ⟨address, hlt, h⟩⟩
      rintro ⟨⟩

theorem or_and_self (x mask : UInt16) : (x ||| mask) &&& mask = mask := by
  apply UInt16.toNat_inj.1
  rw [UInt16.toNat_and, UInt16.toNat_or]
  refine Nat.eq_of_testBit_eq fun i => ?_
  rw [Nat.testBit_and, Nat.testBit_or]
  cases mask.toNat.testBit i with
  | false => exact Bool.and_false _
  | true => exact (Bool.and_true _).trans (Bool.or_true _)

/-- the loader is switched on, as far as it is not -/
theorem acts_efuseEnableLoader :
    Acts faults (fun file => EfuseKept start file ∧ file.plain.cells regEfuseBurnGnt8812 = efuseAccessOnJaguar ∧
        file.reading = none) (efuseEnableLoader registers) (fun _ => EfuseReady start)
      fun file => EfuseKept start file ∧ faults := by
  have hclock : Acts faults (fun file => EfuseKept start file ∧
        file.plain.cells regEfuseBurnGnt8812 = efuseAccessOnJaguar ∧ file.reading = none ∧
        halfWord file.plain regSysFuncEn &&& fenEldr ≠ 0)
      (do
        let sysClkr ← read16WithCustomError registers regSysClkr (efusePowerSwitchFailed "read REG_SYS_CLKR")
        if sysClkr &&& (loaderClkEn ||| ana8m) ≠ loaderClkEn ||| ana8m then
          write16WithCustomError registers regSysClkr (sysClkr ||| (loaderClkEn ||| ana8m))
            (efusePowerSwitchFailed "enable EFUSE loader clock"))
      (fun _ => EfuseReady start) fun file => EfuseKept start file ∧ faults := by
    apply Acts.bind (acts_efuseRead16 registers (Q := fun clock file => halfWord file.plain regSysClkr = clock ∧
      EfuseKept start file ∧ file.plain.cells regEfuseBurnGnt8812 = efuseAccessOnJaguar ∧ file.reading = none ∧
      halfWord file.plain regSysFuncEn &&& fenEldr ≠ 0) _ (fun hf file h => ⟨h.1, hf⟩) fun file h => ⟨rfl, h⟩)
    intro clock
    split
    · refine acts_efuseWrite16 registers _ _ (fun hf file h => ⟨h.2.1, hf⟩) ?_
      rintro file ⟨-, hkept, hgrant, hidle, hfunc⟩
      refine ⟨hkept.store16 (by decide) (by decide) _, ⟨?_, ?_, ?_⟩, hidle⟩
      · exact (storeHalf_other _ _ (by decide) (by decide)).trans hgrant
      · rwa [halfWord_congr (storeHalf_other _ _ (by decide) (by decide)) (storeHalf_other _ _ (by decide) (by decide))]
      · rw [halfWord_store]
        exact or_and_self _ _
    · rename_i hon
      apply Acts.pure
      rintro file ⟨rfl, hkept, hgrant, hidle, hfunc⟩
      exact ⟨hkept, ⟨hgrant, hfunc, not_not.1 hon⟩, hidle⟩
  apply Acts.bind (acts_efuseRead16 registers (Q := fun _ file => EfuseKept start file ∧
    file.plain.cells regEfuseBurnGnt8812 = efuseAccessOnJaguar ∧ file.reading = none) _
    (fun hf file h => ⟨h.1, hf⟩) fun file h => h)
  intro _
  apply Acts.bind (acts_efuseRead16 registers (Q := fun func file => halfWord file.plain regSysFuncEn = func ∧
    EfuseKept start file ∧ file.plain.cells regEfuseBurnGnt8812 = efuseAccessOnJaguar ∧ file.reading = none) _
    (fun hf file h => ⟨h.1, hf⟩) fun file h => ⟨rfl, h⟩)
  intro func
  split
  · refine Acts.bind (acts_efuseWrite16 registers _ _ (fun hf file h => ⟨h.2.1, hf⟩) ?_) fun _ => hclock
    rintro file ⟨-, hkept, hgrant, hidle⟩
    refine ⟨hkept.store16 (by decide) (by decide) _, ?_, hidle, ?_⟩
    · exact (storeHalf_other _ _ (by decide) (by decide)).trans hgrant
    · rw [halfWord_store, or_and_self]
      decide
  · rename_i hon
    refine hclock.weaken ?_ (fun _ _ h => h) fun _ h => h
    rintro file ⟨rfl, hkept, hgrant, hidle⟩
    exact ⟨hkept, hgrant, hidle, hon⟩

/-- access is revoked -/
theorem acts_efuseRevoke :
    Acts faults (EfuseKept start) (efusePowerSwitchRead registers false)
      (fun _ file => EfuseKept start file ∧ file.plain.cells regEfuseBurnGnt8812 = efuseAccessOffJaguar)
      fun file => EfuseKept start file ∧ faults := by
  apply Acts.bind (acts_efuseWrite8 registers (Q := fun _ file => EfuseKept start file ∧
    file.plain.cells regEfuseBurnGnt8812 = efuseAccessOffJaguar) (by decide) _ _ (fun hf file h => ⟨h, hf⟩) ?_)
  · intro _
    exact Acts.pure fun _ h => h
  · intro file hkept
    exact ⟨hkept.store8 (by decide) _ _, storeByte_same _ _ _⟩

/-- without faults, access is revoked -/
def Revoked (faults : Prop) (file : EfuseRegisters) : Prop :=
  faults ∨ file.plain.cells regEfuseBurnGnt8812 = efuseAccessOffJaguar

/-- **All fuses.** -/
theorem acts_readFusesPhysical (config : RuntimeEfuseReadConfig) (hlength : config.length ≤ rtl8812auEfuseRealContentLen)
    (hidle : start.reading = none) :
    Acts faults (fun file => file = start) (readRtl8812auEfusePhysicalWithConfig registers config)
      (fun raw file => raw = (List.range config.length).map start.fuses ∧ EfuseKept start file ∧
        file.plain.cells regEfuseBurnGnt8812 = efuseAccessOffJaguar)
      fun file => EfuseKept start file ∧ (faults ∨ SlowFuse start config.pollAttempts) ∧ Revoked faults file := by
  rw [readRtl8812auEfusePhysicalWithConfig, if_neg (Nat.not_lt.2 hlength)]
  have hgrant : Acts faults (fun file => file = start) (efusePowerSwitchRead registers true) (fun _ => EfuseReady start)
      fun file => EfuseKept start file ∧ faults := by
    apply Acts.bind (acts_efuseWrite8 registers (Q := fun _ file => EfuseKept start file ∧
      file.plain.cells regEfuseBurnGnt8812 = efuseAccessOnJaguar ∧ file.reading = none) (by decide) _ _
      (fun hf file h => ⟨h ▸ .refl start, hf⟩) ?_)
    · intro _
      exact acts_efuseEnableLoader registers
    · rintro file rfl
      exact ⟨(EfuseKept.refl _).store8 (by decide) _ _, storeByte_same _ _ _, hidle⟩
  apply Acts.bind (hgrant.weaken (fun _ h => h) (fun _ _ h => h) fun file h => ⟨h.1, .inl h.2, .inl h.2⟩)
  intro _
  have hread := @acts_readFuses faults registers start config.pollAttempts config.length 0
    (by rwa [Nat.zero_add])
  apply Acts.bind (hread.weaken (fun _ h => h) (fun _ _ h => h) fun _ h => h.elim)
  rintro ⟨raw, readError⟩
  cases readError with
  | some error =>
    have hrevoke : Acts faults (fun file => (faults ∨ SlowFuse start config.pollAttempts) ∧ EfuseKept start file)
        (efusePowerSwitchRead registers false).attempt
        (fun _ file => EfuseKept start file ∧ (faults ∨ SlowFuse start config.pollAttempts) ∧ Revoked faults file)
        fun file => EfuseKept start file ∧ (faults ∨ SlowFuse start config.pollAttempts) ∧ Revoked faults file := by
      apply Acts.assume
      intro hslow
      apply Acts.attempt ((acts_efuseRevoke registers).weaken (fun _ h => h) (fun _ file h => ⟨h.1, hslow, .inr h.2⟩)
        fun _ h => h)
      rintro error file ⟨hkept, hfaults⟩
      exact ⟨hkept, hslow, .inl hfaults⟩
    refine Acts.bind (hrevoke.weaken ?_ (fun _ _ h => h) fun _ h => h) fun _ => Acts.fail _ fun _ h => h
    rintro file ⟨hkept, -, hslow⟩
    exact ⟨hslow (Option.some_ne_none error), hkept⟩
  | none =>
    have hrevoke : Acts faults (fun file => raw = (List.range config.length).map start.fuses ∧ EfuseKept start file)
        (efusePowerSwitchRead registers false).attempt
        (fun powerOff file => raw = (List.range config.length).map start.fuses ∧ OutcomeIn (fun _ file =>
          EfuseKept start file ∧ file.plain.cells regEfuseBurnGnt8812 = efuseAccessOffJaguar)
          (fun file => EfuseKept start file ∧ faults) powerOff file)
        fun file => EfuseKept start file ∧ (faults ∨ SlowFuse start config.pollAttempts) ∧ Revoked faults file := by
      apply Acts.assume
      intro hraw
      exact ((acts_efuseRevoke registers).attempted).weaken (fun _ h => h) (fun _ _ h => ⟨hraw, h⟩) fun _ h => h
    apply Acts.bind (hrevoke.weaken ?_ (fun _ _ h => h) fun _ h => h)
    · intro powerOff
      apply Acts.assume
      intro hraw
      refine Acts.bind (Acts.ofExcept (Q := fun _ file => EfuseKept start file ∧
        file.plain.cells regEfuseBurnGnt8812 = efuseAccessOffJaguar) ?_ ?_) fun _ => Acts.pure fun _ h => ⟨hraw, h⟩
      · rintro _ rfl file h
        exact h
      · rintro _ rfl file h
        exact ⟨h.1, .inl h.2, .inl h.2⟩
    · rintro file ⟨hkept, hraw, -⟩
      have hraw' := hraw rfl
      rw [Nat.zero_add] at hraw'
      exact ⟨hraw', hkept⟩

end Fuse

/-! ## The registers of the address -/

section Macid

variable {faults : Prop} (registers : Rtl8812auRegisterAccess)

/-- the bytes that are there -/
theorem acts_readMacid {P E : EfuseRegisters → Prop} (phase : String) (addresses : List UInt16)
    (haddresses : regEfuseCtrl + 3 ∉ addresses) (hfail : faults → ∀ file, P file → E file) :
    Acts faults P (readMacidBytes registers phase addresses)
      (fun bytes file => P file ∧ bytes = addresses.map file.plain.cells) E := by
  induction addresses generalizing P with
  | nil => exact Acts.pure fun _ h => ⟨h, rfl⟩
  | cons address addresses ih =>
    rw [List.mem_cons, not_or] at haddresses
    apply Acts.bind (acts_efuseRead8 registers (Q := fun byte file => P file ∧ byte = file.plain.cells address)
      (Ne.symm haddresses.1) _ hfail fun file h => ⟨h, rfl⟩)
    intro byte
    apply Acts.bind (ih haddresses.2 fun hf file h => hfail hf file h.1)
    intro bytes
    apply Acts.pure
    rintro file ⟨⟨hP, rfl⟩, rfl⟩
    exact ⟨hP, rfl⟩

/-- the first `k` bytes of the address are written, and nothing beside them -/
structure MacidWritten (start : EfuseRegisters) (mac : List UInt8) (k : ℕ) (file : EfuseRegisters) : Prop where
  fuses : file.fuses = start.fuses
  written : ∀ i < 6, file.plain.cells (regMacid + UInt16.ofNat i)
    = if i < k then mac.getD i 0 else start.plain.cells (regMacid + UInt16.ofNat i)
  cells : ∀ address ∉ macidAddresses, file.plain.cells address = start.plain.cells address

theorem MacidWritten.refl (start : EfuseRegisters) (mac : List UInt8) : MacidWritten start mac 0 start :=
  ⟨rfl, fun i _ => (if_neg (Nat.not_lt_zero i)).symm, fun _ _ => rfl⟩

theorem macidAddresses_get {i : ℕ} (hi : i < macidAddresses.length) : macidAddresses[i] = regMacid + UInt16.ofNat i :=
  (List.getElem_map _).trans (congrArg (fun i => regMacid + UInt16.ofNat i) (List.getElem_range _))

theorem macidAddresses_distinct {i j : ℕ} (hi : i < 6) (hj : j < 6)
    (h : regMacid + UInt16.ofNat i = regMacid + UInt16.ofNat j) : i = j := by
  have hall : ∀ i < 6, ∀ j < 6, regMacid + UInt16.ofNat i = regMacid + UInt16.ofNat j → i = j := by decide
  exact hall i hi j hj h

theorem MacidWritten.next {start file : EfuseRegisters} {mac : List UInt8} {k : ℕ} (h : MacidWritten start mac k file)
    (hk : k < 6) : MacidWritten start mac (k + 1)
      { file with plain := file.plain.storeBytes (regMacid + UInt16.ofNat k) [mac.getD k 0] } := by
  refine ⟨h.fuses, fun i hi => ?_, fun address haddress => ?_⟩
  · by_cases heq : i = k
    · rw [heq, if_pos (Nat.lt_succ_self k)]
      exact storeByte_same _ _ _
    · have hlt : i < k ↔ i < k + 1 := by omega
      refine (storeByte_other _ _ fun hand => heq (macidAddresses_distinct hi hk hand)).trans ?_
      rw [h.written i hi, if_congr hlt rfl rfl]
  · have hne : address ≠ regMacid + UInt16.ofNat k := fun heq =>
      haddress (List.mem_map.2 ⟨k, List.mem_range.2 hk, heq.symm⟩)
    exact (storeByte_other _ _ hne).trans (h.cells address haddress)

/-- the bytes that are left; induction on how many there are -/
theorem acts_writeMacid {start : EfuseRegisters} {mac : List UInt8} (hmac : mac.length = 6) (count k : ℕ)
    (hcount : k + count = 6) (registerWrites : ℕ) :
    Acts faults (MacidWritten start mac k)
      (writeMacidBytes registers (macidAddresses.drop k) (mac.drop k) registerWrites)
      (fun _ => MacidWritten start mac 6) fun file => faults ∧ ∃ j ≤ 6, MacidWritten start mac j file := by
  induction count generalizing k registerWrites with
  | zero =>
    obtain rfl : k = 6 := hcount
    have hdrop : mac.drop 6 = [] := List.drop_eq_nil_of_le (Nat.le_of_eq hmac)
    rw [hdrop]
    exact Acts.pure fun _ h => h
  | succ count ih =>
    have hk : k < 6 := by omega
    have hkmac : k < mac.length := by omega
    have hkaddress : k < macidAddresses.length := hk
    have hbyte : mac[k] = mac.getD k 0 := (List.getD_eq_getElem mac 0 hkmac).symm
    have hcommand : ∀ i < 6, regMacid + UInt16.ofNat i ≠ regEfuseCtrl + 3 := by decide
    rw [List.drop_eq_getElem_cons hkmac, List.drop_eq_getElem_cons hkaddress, hbyte, macidAddresses_get]
    refine Acts.bind (acts_efuseWrite8 registers (hcommand k hk) _ _ (fun hf file h => ⟨hf, k, Nat.le_of_lt hk, h⟩)
      fun file h => h.next hk) fun _ => ih (k + 1) (by omega) _

theorem macidAddresses_map {mac : List UInt8} (hmac : mac.length = 6) {f : UInt16 → UInt8}
    (h : ∀ i < 6, f (regMacid + UInt16.ofNat i) = mac.getD i 0) : macidAddresses.map f = mac := by
  have hlength : (macidAddresses.map f).length = 6 := List.length_map f
  refine List.ext_getElem (hlength.trans hmac.symm) fun i hi hi' => ?_
  rw [List.getElem_map, macidAddresses_get, h i (hmac ▸ hi'), List.getD_eq_getElem mac 0 hi']

/-- the address is written; the registers are read before and after -/
theorem acts_programMac {start : EfuseRegisters} {mac : List UInt8} (hmac : mac.length = 6) :
    Acts faults (fun file => file = start) (programRtl8812auLocalMac registers mac)
      (fun report file => (report.before = macidAddresses.map start.plain.cells ∧ report.written = mac ∧
        report.after = mac) ∧ MacidWritten start mac 6 file)
      fun file => faults ∧ ∃ j ≤ 6, MacidWritten start mac j file := by
  have hfail {file : EfuseRegisters} (hfaults : faults) (h : file = start) :
      faults ∧ ∃ j ≤ 6, MacidWritten start mac j file :=
    ⟨hfaults, 0, Nat.zero_le _, h ▸ .refl start mac⟩
  apply Acts.bind Acts.counters
  intro beforeCounters
  apply Acts.bind (acts_readMacid (P := fun file => file = start) registers "pre-local-MAC" macidAddresses (by decide)
    fun hf file h => hfail hf h)
  intro before
  have hwrite : Acts faults (fun file => before = macidAddresses.map start.plain.cells ∧ file = start)
      (writeMacidBytes registers macidAddresses mac 0)
      (fun _ file => before = macidAddresses.map start.plain.cells ∧ MacidWritten start mac 6 file)
      fun file => faults ∧ ∃ j ≤ 6, MacidWritten start mac j file := by
    apply Acts.assume
    intro hbefore
    refine (acts_writeMacid registers hmac 6 0 rfl 0).weaken ?_ (fun _ _ h => ⟨hbefore, h⟩) fun _ h => h
    rintro file rfl
    exact .refl _ mac
  apply Acts.bind (hwrite.weaken ?_ (fun _ _ h => h) fun _ h => h)
  · intro registerWrites
    apply Acts.assume
    intro hbefore
    apply Acts.bind (acts_readMacid registers "post-local-MAC" macidAddresses (by decide)
      fun hf file h => ⟨hf, 6, Nat.le_refl _, h⟩)
    intro after
    apply Acts.bind Acts.counters
    intro counters
    apply Acts.pure
    rintro file ⟨hwritten, rfl⟩
    refine ⟨⟨hbefore, rfl, ?_⟩, hwritten⟩
    exact macidAddresses_map hmac fun i hi => (hwritten.written i hi).trans (if_pos hi)
  · rintro file ⟨rfl, hbefore⟩
    exact ⟨hbefore, rfl⟩

end Macid

/-! ## From the fuses to the registers -/

/-- a byte of the address that a map has -/
def macByte (logicalMap : List UInt8) (i : ℕ) : UInt8 := logicalMap.getD (rtl8812auEfuseMacOffset + i) 0

/-- no address: the fuses are as they were made, or they are all zero -/
def BlankMac (logicalMap : List UInt8) : Prop :=
  (∀ i < 6, macByte logicalMap i = 0xff) ∨ ∀ i < 6, macByte logicalMap i = 0x00

theorem logicalMac_cases {logicalMap : List UInt8} (hlength : logicalMap.length = rtl8812auEfuseLogicalMapLen) :
    (BlankMac logicalMap ∧ rtl8812auEfuseLogicalMacAddress logicalMap = none) ∨
    ¬BlankMac logicalMap ∧ ∃ mac, rtl8812auEfuseLogicalMacAddress logicalMap = some mac ∧ mac.length = 6 ∧
      ∀ i < 6, mac.getD i 0 = macByte logicalMap i := by
  change _ = 512 at hlength
  have hmac : (logicalMap.drop rtl8812auEfuseMacOffset).take 6 = (List.range 6).map (macByte logicalMap) := by
    have htake : ((logicalMap.drop rtl8812auEfuseMacOffset).take 6).length = 6 := by
      rw [List.length_take, List.length_drop, hlength]
      rfl
    have hmap : ((List.range 6).map (macByte logicalMap)).length = 6 := List.length_map _
    refine List.ext_getElem (htake.trans hmap.symm) fun i hi hi' => ?_
    have hlt : rtl8812auEfuseMacOffset + i < logicalMap.length := by
      rw [htake] at hi
      rw [hlength, rtl8812auEfuseMacOffset]
      omega
    rw [List.getElem_take, List.getElem_drop, List.getElem_map, List.getElem_range, macByte,
      List.getD_eq_getElem logicalMap 0 hlt]
  have hall (byte : UInt8) : ((List.range 6).map (macByte logicalMap)).all (· == byte) = true ↔
      ∀ i < 6, macByte logicalMap i = byte := by
    rw [List.all_map, List.all_eq_true]
    exact forall_congr' fun i => imp_congr List.mem_range beq_iff_eq
  have hfits : rtl8812auEfuseMacOffset + 6 ≤ logicalMap.length := by
    rw [hlength]
    decide
  have hiff : (((List.range 6).map (macByte logicalMap)).all (· == 0xff) ||
      ((List.range 6).map (macByte logicalMap)).all (· == 0x00)) = true ↔ BlankMac logicalMap := by
    rw [Bool.or_eq_true, hall, hall, BlankMac]
  rw [rtl8812auEfuseLogicalMacAddress, if_pos hfits, hmac]
  by_cases hblank : BlankMac logicalMap
  · exact .inl ⟨hblank, if_pos (hiff.2 hblank)⟩
  · refine .inr ⟨hblank, _, if_neg fun hand => hblank (hiff.1 hand), ?_, fun i hi => ?_⟩
    · rw [List.length_map, List.length_range]
    · have hlt : i < ((List.range 6).map (macByte logicalMap)).length := by
        rwa [List.length_map, List.length_range]
      rw [List.getD_eq_getElem _ 0 hlt, List.getElem_map, List.getElem_range]

/-- `k` bytes of the address are in the registers; the fuses are as before, and so are all registers that do not serve to
read them -/
structure MacidFrom (start : EfuseRegisters) (logicalMap : List UInt8) (k : ℕ) (file : EfuseRegisters) : Prop where
  fuses : file.fuses = start.fuses
  macid : ∀ i < 6, file.plain.cells (regMacid + UInt16.ofNat i)
    = if i < k then macByte logicalMap i else start.plain.cells (regMacid + UInt16.ofNat i)
  cells : ∀ address ∉ efuseTouched, address ∉ macidAddresses → file.plain.cells address = start.plain.cells address

section Phase

variable {faults : Prop} (registers : Rtl8812auRegisterAccess) {start file middle : EfuseRegisters}
  {logicalMap : List UInt8}

theorem EfuseKept.macid (h : EfuseKept start file) (logicalMap : List UInt8) : MacidFrom start logicalMap 0 file := by
  have hbeside : ∀ i < 6, regMacid + UInt16.ofNat i ∉ efuseTouched := by decide
  exact ⟨h.fuses, fun i hi => (h.cells _ (hbeside i hi)).trans (if_neg (Nat.not_lt_zero i)).symm,
    fun address haddress _ => h.cells address haddress⟩

/-- reading, and then writing -/
theorem MacidWritten.after {mac : List UInt8} {k : ℕ} (h : MacidWritten middle mac k file)
    (hkept : EfuseKept start middle) (hmac : ∀ i < 6, mac.getD i 0 = macByte logicalMap i) :
    MacidFrom start logicalMap k file := by
  have hbeside : ∀ i < 6, regMacid + UInt16.ofNat i ∉ efuseTouched := by decide
  refine ⟨h.fuses.trans hkept.fuses, fun i hi => ?_, fun address haddress hmacid => ?_⟩
  · rw [h.written i hi, hmac i hi, hkept.cells _ (hbeside i hi)]
  · exact (h.cells address hmacid).trans (hkept.cells address haddress)

/-- what a phase that stopped leaves: the bytes up to one, and if no transfer failed, no access -/
def MacidStopped (faults : Prop) (start : EfuseRegisters) (logicalMap : List UInt8) (file : EfuseRegisters) : Prop :=
  (∃ k ≤ 6, (BlankMac logicalMap → k = 0) ∧ MacidFrom start logicalMap k file) ∧ (faults ∨ SlowFuse start 1000) ∧
    Revoked faults file

theorem acts_macid (hidle : start.reading = none) (hlength : logicalMap.length = rtl8812auEfuseLogicalMapLen)
    (hmap : decodedEfuseMap ((List.range rtl8812auEfuseRealContentLen).map start.fuses) = logicalMap) :
    Acts faults (fun file => file = start) (productionProgramEfuseMacid registers)
      (fun _ file => (∃ k ≤ 6, (BlankMac logicalMap → k = 0) ∧ (¬BlankMac logicalMap → k = 6) ∧
        MacidFrom start logicalMap k file) ∧ file.plain.cells regEfuseBurnGnt8812 = efuseAccessOffJaguar)
      (MacidStopped faults start logicalMap) := by
  have hread : Acts faults (fun file => file = start) (readRtl8812auEfuseMacAddress registers)
      (fun mac file => mac = rtl8812auEfuseLogicalMacAddress logicalMap ∧ EfuseKept start file ∧
        file.plain.cells regEfuseBurnGnt8812 = efuseAccessOffJaguar)
      (MacidStopped faults start logicalMap) := by
    have hphysical := @acts_readFusesPhysical faults registers start {}
      (Nat.le_refl rtl8812auEfuseRealContentLen) hidle
    apply Acts.bind (hphysical.weaken (fun _ h => h) (fun _ _ h => h) fun file h =>
      ⟨⟨0, Nat.zero_le _, fun _ => rfl, h.1.macid logicalMap⟩, h.2⟩)
    intro raw
    apply Acts.assume
    intro hraw
    have hdecoded := (congrArg decodedEfuseMap hraw).trans hmap
    exact Acts.pure fun _ h => ⟨congrArg rtl8812auEfuseLogicalMacAddress hdecoded, h⟩
  apply Acts.bind hread
  intro mac
  apply Acts.assume
  intro heq
  rcases logicalMac_cases hlength with ⟨hblank, hnone⟩ | ⟨hmac, bytes, hsome, hbytes, hbyte⟩
  · rw [heq, hnone]
    apply Acts.pure
    rintro file ⟨hkept, hgrant⟩
    exact ⟨⟨0, Nat.zero_le _, fun _ => rfl, fun h => absurd hblank h, hkept.macid logicalMap⟩, hgrant⟩
  · rw [heq, hsome]
    intro s hs
    -- the registers as the fuses leave them are where the writing starts
    obtain ⟨hsound, hkept, hgrant⟩ := hs
    have hgrant' : regEfuseBurnGnt8812 ∉ macidAddresses := by decide
    have hprogram := (@acts_programMac faults registers s.transport.file bytes hbytes).weaken
      (fun _ h => h) (fun _ _ h => h) fun file (h : faults ∧ _) => (⟨?_, .inl h.1, .inl h.1⟩ :
        MacidStopped faults start logicalMap file)
    · refine (Acts.bind hprogram fun report => Acts.pure fun file h => ?_) s ⟨hsound, rfl⟩
      exact ⟨⟨6, Nat.le_refl _, fun h => absurd h hmac, fun _ => rfl, h.2.after hkept hbyte⟩,
        (h.2.cells _ hgrant').trans hgrant⟩
    · obtain ⟨-, k, hk, hwritten⟩ := h
      exact ⟨k, hk, fun h => absurd h hmac, hwritten.after hkept hbyte⟩

/-- **The address in the registers.** On an adapter whose fuses hold blocks, however slow and whichever transfers fail,
the phase leaves the fuses and all registers beside its own (nine of them for the access to the fuses), and some of the
first bytes of the address that the blocks make in `REG_MACID`: none if that is blank, all if it returns. If it returns,
or no transfer fails, access to the fuses is revoked. It returns if no transfer fails and all fuses are fast enough. -/
theorem macid_programmed (registers : Rtl8812auRegisterAccess) {s s' : RegisterRun (FaultyDevice EfuseRegisters)}
    {outcome : Except RuntimeRadioError String} {encoded : List (EfuseBlock × List UInt8)} {rest : List UInt8}
    (henc : ∀ e ∈ encoded, e.1.Encodes e.2) (hrest : EndsBlocks rest)
    (hfuses : (List.range rtl8812auEfuseRealContentLen).map s.transport.file.fuses
      = encoded.flatMap Prod.snd ++ rest)
    (hidle : s.transport.file.reading = none)
    (hrun : (productionProgramEfuseMacid registers).exec s = (outcome, s')) :
    let logicalMap := (encoded.map Prod.fst).foldl EfuseBlock.apply (List.replicate rtl8812auEfuseLogicalMapLen 0xff)
    (∃ k ≤ 6, MacidFrom s.transport.file logicalMap k s'.transport.file ∧ (BlankMac logicalMap → k = 0) ∧
      ∀ text, outcome = .ok text → ¬BlankMac logicalMap → k = 6) ∧
    (s.transport.Reliable ∨ (∃ text, outcome = .ok text) →
      s'.transport.file.plain.cells regEfuseBurnGnt8812 = efuseAccessOffJaguar) ∧
    (s.transport.Reliable → (∀ fuse < rtl8812auEfuseRealContentLen, s.transport.file.latency fuse < 1000) →
      ∃ text, outcome = .ok text) := by
  intro logicalMap
  have hdecode := decode_encodes encoded henc hrest
  rw [← hfuses] at hdecode
  have hmap : decodedEfuseMap ((List.range rtl8812auEfuseRealContentLen).map s.transport.file.fuses) = logicalMap := by
    rw [decodedEfuseMap, hdecode]
  have hlength : logicalMap.length = rtl8812auEfuseLogicalMapLen := by
    obtain ⟨decoded, hdecoded, hlength⟩ := decode_total ((List.range rtl8812auEfuseRealContentLen).map
      s.transport.file.fuses)
    rw [← hmap, decodedEfuseMap, hdecoded]
    exact hlength
  have hacts (faults : Prop) (hsound : faults ∨ s.transport.Reliable) :=
    Handles.of_run (@acts_macid faults registers s.transport.file logicalMap hidle hlength hmap) hrun ⟨hsound, rfl⟩
  obtain ⟨hok, herror⟩ := hacts True (.inl trivial)
  refine ⟨?_, ?_, fun hreliable hfast => ?_⟩
  · cases outcome with
    | ok text =>
      obtain ⟨k, hk, hblank, hmac, hfrom⟩ := (hok text rfl).2.1
      exact ⟨k, hk, hfrom, hblank, fun _ _ => hmac⟩
    | error error =>
      obtain ⟨k, hk, hblank, hfrom⟩ := (herror error rfl).2.1
      refine ⟨k, hk, hfrom, hblank, ?_⟩
      rintro text ⟨⟩
  · rintro (hreliable | ⟨text, htext⟩)
    · obtain ⟨hok', herror'⟩ := hacts False (.inr hreliable)
      cases outcome with
      | ok text => exact (hok' text rfl).2.2
      | error error => exact (herror' error rfl).2.2.2.resolve_left not_false
    · exact (hok text htext).2.2
  · obtain ⟨-, herror'⟩ := hacts False (.inr hreliable)
    cases outcome with
    | ok text => exact ⟨text, rfl⟩
    | error error =>
      rcases (herror' error rfl).2.2.1 with hfalse | ⟨fuse, hfuse, hslow⟩
      · exact hfalse.elim
      · exact absurd (hfast fuse hfuse) (Nat.not_lt.2 hslow)

end Phase

/-- the end of section 26 -/
def macHeadBlock : EfuseBlock :=
  ⟨26, [none, none, none, some (0xff, 0x00)], Nat.lt_of_sub_eq_succ rfl, rfl, _, List.mem_cons_of_mem _
    (List.mem_cons_of_mem _ (List.mem_cons_of_mem _ List.mem_cons_self)), rfl⟩

/-- the start of section 27 -/
def macTailBlock : EfuseBlock :=
  ⟨27, [some (0xe0, 0x4c), some (0x12, 0x34), some (0x56, 0xff), none], Nat.lt_of_sub_eq_succ rfl, rfl, _,
    List.mem_cons_self, rfl⟩

/-- an adapter with an address, and fuses of which every third is slow -/
def macidBench : RegisterRun (FaultyDevice EfuseRegisters) where
  transport := {
    file := {
      plain := ⟨fun _ => 0⟩
      fuses := fun fuse => (macHeadBlock.encodeExtended ++ macTailBlock.encodeExtended).getD fuse 0xff
      latency := fun fuse => fuse % 3 * 400
      reading := none }
    failing := fun _ => none }
  counters := {}

theorem macid_programmed_macidBench :
    (∃ text, ((productionProgramEfuseMacid {}).exec macidBench).1 = .ok text) ∧
    macidAddresses.map ((productionProgramEfuseMacid {}).exec macidBench).2.transport.file.plain.cells
      = [0x00, 0xe0, 0x4c, 0x12, 0x34, 0x56] := by
  have hfuses : (List.range rtl8812auEfuseRealContentLen).map macidBench.transport.file.fuses
      = [(macHeadBlock, macHeadBlock.encodeExtended), (macTailBlock, macTailBlock.encodeExtended)].flatMap Prod.snd ++
        0xff :: List.replicate 499 0xff := by
    decide +kernel
  have henc : ∀ e ∈ [(macHeadBlock, macHeadBlock.encodeExtended), (macTailBlock, macTailBlock.encodeExtended)],
      e.1.Encodes e.2 := by
    intro e he
    rcases List.mem_cons.1 he with rfl | he
    · exact .inr rfl
    · rw [List.mem_singleton] at he
      rw [he]
      exact .inr rfl
  obtain ⟨⟨k, -, hfrom, -, hall⟩, -, hreturns⟩ :=
    macid_programmed {} henc (.inr ⟨_, rfl⟩) hfuses rfl Prod.mk.eta.symm
  obtain ⟨text, htext⟩ := hreturns (fun _ _ => rfl) fun fuse _ => by
    change fuse % 3 * 400 < 1000
    omega
  obtain rfl : k = 6 := hall text htext (by rw [BlankMac]; decide +kernel)
  refine ⟨⟨text, htext⟩, macidAddresses_map rfl fun i hi => ?_⟩
  have hbytes : ∀ i < 6, macByte (([(macHeadBlock, macHeadBlock.encodeExtended),
      (macTailBlock, macTailBlock.encodeExtended)].map Prod.fst).foldl EfuseBlock.apply
        (List.replicate rtl8812auEfuseLogicalMapLen 0xff)) i = [0x00, 0xe0, 0x4c, 0x12, 0x34, 0x56].getD i 0 := by
    decide +kernel
  rw [hfrom.macid i hi, if_pos hi, hbytes i hi]

end WfbLink.Runtime
