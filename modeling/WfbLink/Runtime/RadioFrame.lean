/-
Frames of register code on a radio.

`Keeps words rfs page page'` says that code started on `page` ends on `page'` and writes nothing but the words in `words`
and the RF registers in `rfs`, also when it fails. There is one rule for each way to access a register; that a write
stays within the frame is decided.

- `Keeps.selectPage`: a masked write to `REG_AGC_TABLE` selects the page.
- `rfRead_value`: reading an RF register outside the frame gives what it held before.
-/
import WfbLink.Runtime.DeviceFaults
import WfbLink.Runtime.RfSerial

namespace WfbLink.Runtime

open WfbLink.Core WfbLink.RadioCore

/-- the page is selected, and only the frame has changed -/
structure RadioFrame (before : RadioRegisters) (words : List Cell) (rfs : List RfCell) (pageC1 : Bool)
    (file : RadioRegisters) : Prop where
  page : file.pageC1 = pageC1
  same : SameBut words rfs before file

/-- a write of `n` bytes stays within the frame, and is neither the page select nor a serial write -/
def Writable (words : List Cell) (pageC1 : Bool) (address : UInt16) (n : ℕ) : Prop :=
  address.toNat % 4 + n ≤ 4 ∧ wordOf (place pageC1 address) ∈ words ∧ wordOf (place pageC1 address) ≠ agcWord ∧
    writePort pageC1 address = none

instance (words : List Cell) (pageC1 : Bool) (address : UInt16) (n : ℕ) : Decidable (Writable words pageC1 address n) :=
  inferInstanceAs (Decidable (_ ∧ _ ∧ _ ∧ _))

namespace RadioFrame

variable {before file : RadioRegisters} {words words' : List Cell} {rfs rfs' : List RfCell} {pageC1 : Bool}

theorem load (h : RadioFrame before words rfs pageC1 file) (address : UInt16) (n : ℕ) :
    RadioFrame before words rfs pageC1 (loadValue address n file).2 := by
  have hcells : (loadValue address n file).2.cells = file.cells := (file.load_cells address n).1
  refine ⟨?_, h.same.load address n⟩
  rw [← h.page, RadioRegisters.pageC1, RadioRegisters.pageC1, hcells]

theorem store (h : RadioFrame before words rfs pageC1 file) {address : UInt16} {data : List UInt8}
    (hwrite : Writable words pageC1 address data.length) :
    RadioFrame before words rfs pageC1 (RegisterFile.store file address data) := by
  obtain ⟨hword, hmem, hagc, hport⟩ := hwrite
  have hpage := h.page
  constructor
  · rw [file.store_pageC1 hword (by rwa [hpage]), hpage]
  · apply h.same.store hword
    · rwa [hpage]
    · intro path hpath
      rw [hpage, hport] at hpath
      cases hpath

/-- a word outside the frame holds what it held -/
theorem loadValue_word (h : RadioFrame before words rfs pageC1 file) {address : UInt16}
    (haddress : readPort address = none) (haligned : address.toNat % 4 = 0)
    (hmem : wordOf (place pageC1 address) ∉ words) :
    UInt32.ofNat (loadValue address 4 file).1 = before.wordAt pageC1 address := by
  rw [(file.loadValue_word haddress).1, h.page]
  exact h.same.wordAt haligned hmem

end RadioFrame

/-- bit 31 of `REG_AGC_TABLE` is the page -/
theorem wordAt_agc (file : RadioRegisters) (pageC1 : Bool) :
    file.wordAt pageC1 0x082c &&& 0x80000000 = 0 ↔ file.pageC1 = false := by
  have hlast : UInt8.ofNat ((file.wordAt pageC1 0x082c).toNat / 2 ^ 24) = file.cells (false, 0x082f) := by
    have hbytes := file.toLeU32_wordAt pageC1 0x082c
    rw [toLeU32] at hbytes
    have hplace : place pageC1 (0x082c + 3) = (false, 0x082f) := by cases pageC1 <;> rfl
    rw [← hplace]
    exact (List.cons.inj (List.cons.inj (List.cons.inj (List.cons.inj hbytes).2).2).2).1
  have hbit := topBit_iff (file.wordAt pageC1 0x082c)
  rw [hlast] at hbit
  rw [RadioRegisters.pageC1, decide_eq_false_iff_not, hbit, not_not]

/-! ## Serial ports -/

def rfPathOf : RadioPath → Rtl8812auRfPath
  | .a => .a
  | .b => .b

/-- the serial port of a path -/
def serialRegister : RadioPath → UInt16
  | .a => regRfPathA3wire
  | .b => regRfPathB3wire

/-- where an RF register of a path is read -/
def serialReadTarget : RadioPath → RfSerialReadTarget
  | .a => rfSerialReadTargetA
  | .b => rfSerialReadTargetB

theorem readPort_serial (path : RadioPath) (piMode : Bool) :
    readPort ((serialReadTarget path).readback piMode).2 = some (.serial path) := by
  cases path with
  | a => exact @readPort_readback .a _ rfl piMode
  | b => exact @readPort_readback .b _ rfl piMode

theorem rfSerialReadRegister_eq (registers : Rtl8812auRegisterAccess) (path : RadioPath) (rfOffset : UInt32) :
    rfSerialReadRegister registers (rfPathOf path) rfOffset
      = rfSerialReadFrom registers rfOffset (serialReadTarget path) := by
  cases path <;> rfl

/-- what a write of an RF register puts on the port -/
def serialStore (path : RadioPath) (rfOffset value : UInt32) (file : RadioRegisters) : RadioRegisters :=
  RegisterFile.store file (serialRegister path)
    (toLeU32 (encodeRfSerialWrite rfOffset (value &&& rfRegisterOffsetMask)).toNat)

/-- a write of an RF register is one access -/
theorem Acts.rfWrite {faults : Prop} {P Q E : RadioRegisters → Prop} (registers : Rtl8812auRegisterAccess)
    (path : RadioPath) (rfOffset value : UInt32) (hfail : faults → ∀ file, P file → E file)
    (hdone : ∀ file, P file → Q (serialStore path rfOffset value file)) :
    Acts faults P (rfSerialWriteSinglePath registers (rfPathOf path) rfOffset value) (fun _ => Q) E := by
  have hto (target : RfSerialWriteTarget) (htarget : target.bbRegister = serialRegister path) :
      Acts faults P (rfSerialWriteTo registers rfOffset value target) (fun _ => Q) E := by
    apply Acts.bind Acts.counters
    intro _
    refine Acts.bind (Q := fun _ => Q)
      (Acts.writeWithCustomError (registers.writeAll_stores _ .u32 _ rfl) _ hfail fun file h => ?_) fun _ => ?_
    · rw [htarget]
      exact hdone file h
    · apply Acts.bind Acts.counters
      intro _
      exact Acts.pure fun _ h => h
  cases path with
  | a => exact Acts.bind (hto rfSerialTargetA rfl) fun _ => Acts.pure fun _ h => h
  | b => exact Acts.bind (hto rfSerialTargetB rfl) fun _ => Acts.pure fun _ h => h

/-- the word on the port is for that register -/
theorem serialOffset_masked (rfOffset value : UInt32) :
    serialOffset (encodeRfSerialWrite rfOffset (value &&& rfRegisterOffsetMask)) = UInt8.ofNat rfOffset.toNat :=
  serialOffset_encode rfOffset _

theorem serialRegister_place (path : RadioPath) : place false (serialRegister path) = (false, serialRegister path) := by
  cases path <;> rfl

theorem serialRegister_word (path : RadioPath) : wordOf (false, serialRegister path) = (false, serialRegister path) := by
  cases path <;> rfl

theorem serialRegister_aligned (path : RadioPath) : (serialRegister path).toNat % 4 = 0 := by
  cases path <;> rfl

theorem serialRegister_port (path : RadioPath) : writePort false (serialRegister path) = some path := by
  cases path <;> rfl

/-! ## Selecting a page -/

section Page

variable {faults : Prop} {before : RadioRegisters} {words : List Cell} {rfs : List RfCell} {page' : Bool}
  {E : RadioRegisters → Prop} (registers : Rtl8812auRegisterAccess)

/-- whatever page was selected, writing `REG_AGC_TABLE` leaves the one that its bit 31 says -/
theorem Acts.writeAgc {value : UInt32} (registerName phase : String) (hagc : agcWord ∈ words)
    (hvalue : decide (value &&& 0x80000000 ≠ 0) = page')
    (hfail : faults → ∀ file, SameBut words rfs before file → E file) :
    Acts faults (SameBut words rfs before) (write32WithCounter registers 0x082c value registerName phase)
      (fun _ => RadioFrame before words rfs page') E := by
  refine Acts.writeWithCustomError (registers.writeAll_stores 0x082c .u32 _ rfl) _ hfail fun file hf => ?_
  have hplace : wordOf (place file.pageC1 0x082c) = agcWord := by cases file.pageC1 <;> rfl
  have hport : writePort file.pageC1 0x082c = none := by cases file.pageC1 <;> rfl
  constructor
  · rw [file.store_agc, hvalue]
  · apply hf.store
    · rw [toLeU32_length]
      decide
    · rwa [hplace]
    · intro path hpath
      rw [hport] at hpath
      cases hpath

theorem Acts.selectPage {data : UInt32} (registerName : String) (hagc : agcWord ∈ words)
    (hdata : decide (data <<< 31 &&& 0x80000000 ≠ 0) = page')
    (hfail : faults → ∀ file, SameBut words rfs before file → E file) :
    Acts faults (SameBut words rfs before) (bbSetBbReg registers 0x082c 0x80000000 data registerName)
      (fun _ => RadioFrame before words rfs page') E := by
  unfold bbSetBbReg
  rw [if_neg (by decide), if_neg (by decide)]
  apply Acts.bind (Q := fun _ => SameBut words rfs before)
    (Acts.readWithCustomError (registers.read32_loads 0x082c) _ hfail fun _ h => h.load _ _)
  intro original
  refine Acts.writeAgc registers _ _ hagc ?_ hfail
  rw [masked_bits, ← hdata]
  rfl

end Page

/-! ## Keeping a frame -/

variable {α β : Type} {faults : Prop} {before : RadioRegisters} {words : List Cell} {rfs : List RfCell}
  {page page' page'' : Bool}

variable (faults before words rfs) in
def Keeps (page page' : Bool) (action : RegisterAction α) : Prop :=
  Acts faults (RadioFrame before words rfs page) action (fun _ => RadioFrame before words rfs page')
    (SameBut words rfs before)

namespace Keeps

theorem pure (a : α) : Keeps faults before words rfs page page (Pure.pure a) := Acts.pure fun _ h => h

theorem fail (error : RuntimeRadioError) : Keeps faults before words rfs page page' (RegisterAction.fail error : RegisterAction α) :=
  Acts.fail error fun _ h => h.same

theorem bind {action : RegisterAction α} {f : α → RegisterAction β} (h : Keeps faults before words rfs page page' action)
    (hf : ∀ a, Keeps faults before words rfs page' page'' (f a)) : Keeps faults before words rfs page page'' (action >>= f) :=
  Acts.bind h hf

theorem mapError {action : RegisterAction α} (h : Keeps faults before words rfs page page' action)
    (f : RuntimeRadioError → RuntimeRadioError) : Keeps faults before words rfs page page' (action.mapError f) :=
  Acts.mapError h f

theorem ite {c : Prop} [Decidable c] {action other : RegisterAction α}
    (h : Keeps faults before words rfs page page' action) (hother : Keeps faults before words rfs page page' other) :
    Keeps faults before words rfs page page' (if c then action else other) := by
  split
  · exact h
  · exact hother

variable (registers : Rtl8812auRegisterAccess)

theorem read32 (address : UInt16) (registerName phase : String) :
    Keeps faults before words rfs page page (read32WithCounter registers address registerName phase) :=
  Acts.readWithCustomError (registers.read32_loads address) _ (fun _ _ h => h.same) fun _ h => h.load _ _

theorem write32 {address : UInt16} (value : UInt32) (registerName phase : String)
    (h : Writable words page address 4) :
    Keeps faults before words rfs page page (write32WithCounter registers address value registerName phase) :=
  Acts.writeWithCustomError (registers.writeAll_stores address .u32 _ rfl) _ (fun _ _ hf => hf.same) fun _ hf =>
    hf.store h

theorem write8 {address : UInt16} (value : UInt8) (registerName phase : String) (h : Writable words page address 1) :
    Keeps faults before words rfs page page (write8WithCounter registers address value registerName phase) :=
  Acts.writeWithCustomError (registers.writeAll_stores address .u8 [value] rfl) _ (fun _ _ hf => hf.same) fun _ hf =>
    hf.store h

theorem bbSet {address : UInt16} (bitmask data : UInt32) (registerName : String) (h : Writable words page address 4) :
    Keeps faults before words rfs page page (bbSetBbReg registers address bitmask data registerName) := by
  unfold bbSetBbReg
  apply ite
  · exact write32 registers data registerName "bb-set" h
  · apply ite
    · exact pure ()
    · exact bind (read32 registers address registerName "bb-set") fun _ => write32 registers _ registerName "bb-set" h

/-- writing `REG_AGC_TABLE` leaves the page that its bit 31 says -/
theorem writeAgc {value : UInt32} (registerName phase : String) (hagc : agcWord ∈ words)
    (hvalue : decide (value &&& 0x80000000 ≠ 0) = page') :
    Keeps faults before words rfs page page' (write32WithCounter registers 0x082c value registerName phase) :=
  (Acts.writeAgc registers registerName phase hagc hvalue fun _ _ h => h).weaken (fun _ h => h.same) (fun _ _ h => h)
    fun _ h => h

/-- a masked write of bit 31 selects the page -/
theorem selectPage {data : UInt32} (registerName : String) (hagc : agcWord ∈ words)
    (hdata : decide (data <<< 31 &&& 0x80000000 ≠ 0) = page') :
    Keeps faults before words rfs page page' (bbSetBbReg registers 0x082c 0x80000000 data registerName) :=
  (Acts.selectPage registers registerName hagc hdata fun _ _ h => h).weaken (fun _ h => h.same) (fun _ _ h => h)
    fun _ h => h

/-! ### RF registers -/

theorem hssiWritable (hhssi : (false, 0x08b0) ∈ words) : Writable words page regHssiReadJaguar 4 := by
  cases page
  · exact ⟨by decide, hhssi, by decide, by decide⟩
  · exact ⟨by decide, hhssi, by decide, by decide⟩

/-- reading an RF register sets its offset, and reads it as it was unless it is in the frame -/
theorem rfRead_value (path : RadioPath) (rfOffset : UInt32) (hhssi : (false, 0x08b0) ∈ words) :
    Acts faults (RadioFrame before words rfs page) (rfSerialReadRegister registers (rfPathOf path) rfOffset)
      (fun report file => (report.rfOffset = rfOffset &&& 0xff ∧
          ((path, UInt8.ofNat (rfOffset &&& 0xff).toNat) ∉ rfs →
            report.value.toNat = (before.rf (path, UInt8.ofNat (rfOffset &&& 0xff).toNat)).toNat)) ∧
        RadioFrame before words rfs page file)
      (SameBut words rfs before) := by
  rw [rfSerialReadRegister_eq]
  apply Acts.bind Acts.counters
  intro _
  apply Acts.bind (read32 registers _ _ _)
  intro piModeValue
  have hset : Acts faults (RadioFrame before words rfs page)
      (bbSetBbReg registers regHssiReadJaguar 0x000000ff (rfOffset &&& 0xff) "rHSSIRead_Jaguar")
      (fun _ file => file.cells (false, 0x08b0) = UInt8.ofNat (rfOffset &&& 0xff).toNat ∧
        RadioFrame before words rfs page file)
      (SameBut words rfs before) := by
    unfold bbSetBbReg
    rw [if_neg (by decide), if_neg (by decide)]
    apply Acts.bind (read32 registers regHssiReadJaguar "rHSSIRead_Jaguar" "bb-set")
    intro original
    refine Acts.writeWithCustomError (registers.writeAll_stores _ .u32 _ rfl) _ (fun _ _ hf => hf.same) fun file hf => ?_
    exact ⟨hssi_offset file original _, hf.store (hssiWritable hhssi)⟩
  apply Acts.bind hset
  intro _
  refine Acts.bind (Q := fun readback file =>
      ((path, UInt8.ofNat (rfOffset &&& 0xff).toNat) ∉ rfs → (readback &&& rfRegisterOffsetMask).toNat
        = (before.rf (path, UInt8.ofNat (rfOffset &&& 0xff).toNat)).toNat) ∧ RadioFrame before words rfs page file)
    (Acts.readWithCustomError (registers.read32_loads _) _ (fun _ _ hf => hf.2.same) ?_) fun readback => ?_
  · rintro file ⟨hoffset, hf⟩
    obtain ⟨hread, hfile⟩ := file.loadValue_serial (readPort_serial path (piModeValue &&& 0x4 != 0))
    dsimp only
    rw [hread, hfile, hoffset, readback_value, UInt32.toNat_ofNat', Nat.mod_eq_of_lt (lt_trans (BitVec.isLt _) (by decide))]
    exact ⟨fun hmem => congrArg BitVec.toNat (hf.same.rf _ hmem), hf⟩
  · apply Acts.bind Acts.counters
    intro _
    exact Acts.pure fun file h => ⟨⟨rfl, h.1⟩, h.2⟩

/-- reading an RF register -/
theorem rfRead (path : RadioPath) (rfOffset : UInt32) (hhssi : (false, 0x08b0) ∈ words) :
    Keeps faults before words rfs page page (rfSerialReadRegister registers (rfPathOf path) rfOffset) :=
  (rfRead_value registers path rfOffset hhssi).weaken (fun _ h => h) (fun _ _ h => h.2) fun _ h => h

/-- an RF register in the frame, written on page C -/
theorem rfWrite (path : RadioPath) {rfOffset : UInt32} (value : UInt32)
    (hword : (false, serialRegister path) ∈ words) (hrf : (path, UInt8.ofNat rfOffset.toNat) ∈ rfs) :
    Keeps faults before words rfs false false (rfSerialWriteSinglePath registers (rfPathOf path) rfOffset value) := by
  apply Acts.rfWrite
  · intro _ file h
    exact h.same
  · intro file h
    have hplace : wordOf (place file.pageC1 (serialRegister path)) = (false, serialRegister path) := by
      rw [h.page, serialRegister_place, serialRegister_word]
    have haligned : (serialRegister path).toNat % 4
        + (toLeU32 (encodeRfSerialWrite rfOffset (value &&& rfRegisterOffsetMask)).toNat).length ≤ 4 := by
      rw [serialRegister_aligned, toLeU32_length]
    constructor
    · rw [serialStore, file.store_pageC1 haligned, h.page]
      rw [hplace]
      cases path <;> decide
    · apply h.same.store haligned
      · rwa [hplace]
      · intro path' hpath _
        rw [h.page, serialRegister_port] at hpath
        obtain rfl := Option.some.inj hpath
        rwa [fromLeBytes_toLeU32 (UInt32.toNat_lt _), UInt32.ofNat_toNat, serialOffset_masked]

end Keeps

end WfbLink.Runtime
