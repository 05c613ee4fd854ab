/-
What a masked update of a register changes (`wfb-radio-runtime/src/lib.rs`).

Three helpers read a register, replace the field under a mask, and write the word back: two of them registers that are
mapped, one of them RF registers, which it selects in `rHSSIRead` and writes over the serial port of their path. An RF
register has 20 bits.

- `maskedUpdate_applyRfMask`: what the word that is written has under the mask, and outside it.
- `acts_bbSet`, `acts_maskedBb`, `acts_rfMaskedWrite`: the registers after each helper, however it ends.
-/
import WfbLink.Runtime.IqkFrame

namespace WfbLink.Runtime

open WfbLink.Core WfbLink.RadioCore

/-! ## Words -/

/-- from `before` to `after`, a register that has the bits in `bits` takes the data under the mask -/
structure MaskedUpdate (bits mask data before after : UInt32) : Prop where
  outside : after &&& ~~~mask = before &&& ~~~mask
  field : bbMaskedField after mask = data &&& ((mask &&& bits) >>> UInt32.ofNat (trailingZeros mask))

/-- data that is shifted up, cut to a mask, and shifted down again is cut to the mask that is shifted down -/
theorem shift_and_shift (data mask amount : UInt32) :
    (data <<< amount &&& mask) >>> amount = data &&& mask >>> amount := by
  apply UInt32.toNat_inj.1
  rw [UInt32.toNat_shiftRight, UInt32.toNat_and, UInt32.toNat_and, UInt32.toNat_shiftLeft, UInt32.toNat_shiftRight]
  apply Nat.eq_of_testBit_eq
  intro i
  simp only [Nat.testBit_shiftRight, Nat.testBit_and, Nat.testBit_mod_two_pow, Nat.testBit_shiftLeft]
  by_cases hmask : mask.toNat.testBit (amount.toNat % 32 + i)
  · have hlt : amount.toNat % 32 + i < 32 := by
      by_contra hge
      have hbit := Nat.testBit_lt_two_pow (lt_of_lt_of_le mask.toNat_lt (Nat.pow_le_pow_right (by decide) (Nat.not_lt.1 hge)))
      rw [hbit] at hmask
      cases hmask
    simp [hlt]
  · simp [hmask]

/-- **The word that is written.** The bits the register does not have are lost, all others are as the mask says. -/
theorem maskedUpdate_applyRfMask {bits before : UInt32} (hbefore : before &&& bits = before) (mask data : UInt32) :
    MaskedUpdate bits mask data before (applyRfMask before mask data &&& bits) := by
  constructor
  · unfold applyRfMask
    split
    · rw [hbefore]
    · rw [← hbefore]
      apply UInt32.eq_of_toBitVec_eq
      ext i hi
      simp only [maskedValue, UInt32.toBitVec_and, UInt32.toBitVec_or, UInt32.toBitVec_not, BitVec.getElem_and,
        BitVec.getElem_or, BitVec.getElem_not]
      cases before.toBitVec[i] <;> cases mask.toBitVec[i] <;> cases bits.toBitVec[i] <;> simp
  · unfold bbMaskedField
    split
    · rename_i hmask
      rw [hmask, UInt32.zero_and, UInt32.zero_shiftRight, UInt32.and_zero]
    · rename_i hmask
      calc (applyRfMask before mask data &&& bits &&& mask) >>> UInt32.ofNat (trailingZeros mask)
          = (maskedValue before mask data &&& mask &&& bits) >>> UInt32.ofNat (trailingZeros mask) := by
            rw [applyRfMask, if_neg hmask, UInt32.and_assoc, UInt32.and_comm bits mask, ← UInt32.and_assoc]
        _ = (data <<< UInt32.ofNat (trailingZeros mask) &&& (mask &&& bits)) >>> UInt32.ofNat (trailingZeros mask) := by
            rw [masked_bits, UInt32.and_assoc]
        _ = data &&& ((mask &&& bits) >>> UInt32.ofNat (trailingZeros mask)) := shift_and_shift _ _ _

theorem and_full (value : UInt32) : value &&& 0xffffffff = value := by
  apply UInt32.toNat_inj.1
  rw [UInt32.toNat_and]
  exact (Nat.and_two_pow_sub_one_eq_mod _ 32).trans (Nat.mod_eq_of_lt value.toNat_lt)

/-- a full mask replaces the word -/
theorem applyRfMask_full (before data : UInt32) : applyRfMask before 0xffffffff data = data := by
  rw [applyRfMask, if_neg (by decide), maskedValue, show trailingZeros 0xffffffff = 0 from rfl,
    show data <<< UInt32.ofNat 0 = data from UInt32.shiftLeft_zero, show ~~~(0xffffffff : UInt32) = 0 from rfl,
    UInt32.and_zero, UInt32.zero_or, and_full]

theorem applyRfMask_empty (before data : UInt32) : applyRfMask before 0 data = before := if_pos rfl

theorem applyRfMask_of_ne {mask : UInt32} (hmask : mask ≠ 0) (before data : UInt32) :
    applyRfMask before mask data = maskedValue before mask data := if_neg hmask

/-! ## Registers that are mapped -/

/-- the word at an address takes the data under the mask, and every other byte stays -/
structure WordUpdate (address : UInt16) (mask data : UInt32) (before after : PlainRegisters) : Prop where
  word : MaskedUpdate 0xffffffff mask data (before.word address) (after.word address)
  other : ∀ a, (∀ i < 4, a ≠ address + UInt16.ofNat i) → after.cells a = before.cells a

theorem wordUpdate_store (before : PlainRegisters) (address : UInt16) (mask data : UInt32) :
    WordUpdate address mask data before
      (RegisterFile.store before address (toLeU32 (applyRfMask (before.word address) mask data).toNat)) := by
  constructor
  · have hupdate := maskedUpdate_applyRfMask (and_full (before.word address)) mask data
    rw [and_full] at hupdate
    rwa [before.word_store]
  · intro a ha
    exact before.storeBytes_other address _ (by rwa [toLeU32_length])

theorem wordUpdate_empty (before : PlainRegisters) (address : UInt16) (data : UInt32) :
    WordUpdate address 0 data before before := by
  constructor
  · have hupdate := maskedUpdate_applyRfMask (and_full (before.word address)) 0 data
    rwa [applyRfMask_empty, and_full] at hupdate
  · exact fun _ _ => rfl

section Mapped

variable {faults : Prop} (registers : Rtl8812auRegisterAccess) (before : PlainRegisters) (address : UInt16)
  (mask data : UInt32) (registerName : String)

/-- reading a register leaves all of them as they were -/
theorem acts_readWord (phase : String) :
    Acts faults (fun file => file = before) (read32WithCounter registers address registerName phase)
      (fun value file => value = before.word address ∧ file = before) fun file => faults ∧ file = before := by
  refine Acts.readWithCustomError (registers.read32_loads address) _ (fun hfaults _ hf => ⟨hfaults, hf⟩) ?_
  rintro _ rfl
  exact ⟨rfl, rfl⟩

theorem acts_writeWord (phase : String) (value : UInt32) :
    Acts faults (fun file => file = before) (write32WithCounter registers address value registerName phase)
      (fun _ file => file = RegisterFile.store before address (toLeU32 value.toNat)) fun file => faults ∧ file = before := by
  refine Acts.writeWithCustomError (registers.writeAll_stores address .u32 _ rfl) _ (fun hfaults _ hf => ⟨hfaults, hf⟩) ?_
  rintro _ rfl
  rfl

/-- a masked write ends with the update, or with an error and the registers as they were -/
theorem acts_bbSet :
    Acts faults (fun file => file = before) (bbSetBbReg registers address mask data registerName)
      (fun _ file => WordUpdate address mask data before file) fun file => faults ∧ file = before := by
  unfold bbSetBbReg
  split
  · -- the word is written without reading it
    rename_i hfull
    refine (acts_writeWord registers before address registerName "bb-set" data).weaken (fun _ h => h) ?_ fun _ h => h
    rintro _ _ rfl
    have hupdate := wordUpdate_store before address 0xffffffff data
    rwa [applyRfMask_full, ← hfull] at hupdate
  · split
    · rename_i hempty
      apply Acts.pure
      rintro _ rfl
      rw [hempty]
      exact wordUpdate_empty _ address data
    · rename_i hempty
      apply Acts.bind (acts_readWord registers before address registerName "bb-set")
      intro original
      apply Acts.assume
      rintro rfl
      refine (acts_writeWord registers before address registerName "bb-set" _).weaken (fun _ h => h) ?_ fun _ h => h
      rintro _ _ rfl
      rw [← applyRfMask_of_ne hempty]
      exact wordUpdate_store before address mask data

/-- a masked write of the set-up reads the word again, which may fail when the word is already written -/
theorem acts_maskedBb :
    Acts faults (fun file => file = before)
      (applyRtl8812auRuntimeIqkSetupWrite registers (.maskedBb registerName address mask data))
      (fun _ file => WordUpdate address mask data before file)
      fun file => faults ∧ (file = before ∨ WordUpdate address mask data before file) := by
  have hafter := wordUpdate_store before address mask data
  apply Acts.bind ((acts_readWord registers before address registerName "runtime-iqk-setup").weaken (fun _ h => h)
    (fun _ _ h => h) fun _ h => h.imp_right .inl)
  intro original
  apply Acts.assume
  rintro rfl
  apply Acts.bind ((acts_writeWord registers before address registerName "runtime-iqk-setup" _).weaken (fun _ h => h)
    (fun _ _ h => h) fun _ h => h.imp_right .inl)
  intro _
  apply Acts.bind ((acts_readWord registers _ address registerName "runtime-iqk-setup").weaken (fun _ h => h)
    (fun _ _ h => h.2) ?_)
  · intro _
    apply Acts.pure
    rintro _ rfl
    exact hafter
  · rintro _ ⟨hfaults, rfl⟩
    exact ⟨hfaults, .inr hafter⟩

/-- if the word is not read, it is not written -/
theorem handles_maskedBb :
    Handles (fun device => device.file = before ∧ device.failing device.transfers ≠ none)
      (applyRtl8812auRuntimeIqkSetupWrite registers (.maskedBb registerName address mask data)) (fun _ _ => False)
      fun device => device.file = before := by
  apply Handles.bind (Q := fun _ _ => False)
    (Handles.readWithCustomError (registers.read32_loads address) _ (fun _ h _ => h.1) fun _ h hnow => h.2 hnow)
  intro _ s hs
  exact hs.elim

end Mapped

/-! ## RF registers -/

/-- what an RF register holds, as it is read -/
def rfWord (file : RadioRegisters) (r : RfCell) : UInt32 := UInt32.ofNat (file.rf r).toNat

/-- the cells that an update of an RF register may change: the offset in `rHSSIRead`, and the serial port -/
def Transit (path : RadioPath) (c : Cell) : Prop := c = (false, 0x08b0) ∨ wordOf c = (false, serialRegister path)

/-- an RF register takes the data under the mask; every other one stays, and so does every cell but the two -/
structure RfUpdate (r : RfCell) (mask data : UInt32) (before after : RadioRegisters) : Prop where
  word : MaskedUpdate rfRegisterOffsetMask mask data (rfWord before r) (rfWord after r)
  other : ∀ r', r' ≠ r → after.rf r' = before.rf r'
  cells : ∀ c, ¬ Transit r.1 c → after.cells c = before.cells c

/-- the RF registers are as they were -/
structure RfUntouched (path : RadioPath) (before after : RadioRegisters) : Prop where
  rf : after.rf = before.rf
  cells : ∀ c, ¬ Transit path c → after.cells c = before.cells c

/-- the radio after the offset was written into `rHSSIRead` -/
def selectRf (rfOffset : UInt32) (file : RadioRegisters) : RadioRegisters :=
  RegisterFile.store file regHssiReadJaguar
    (toLeU32 (maskedValue (file.wordAt file.pageC1 regHssiReadJaguar) 0xff rfOffset).toNat)

/-- the bytes above the lowest one -/
theorem and_upper (value : UInt32) : (value &&& ~~~0xff).toNat = value.toNat / 2 ^ 8 * 2 ^ 8 := by
  rw [UInt32.toNat_and, show (~~~0xff : UInt32).toNat = (2 ^ 24 - 1) <<< 8 from rfl]
  apply Nat.eq_of_testBit_eq
  intro i
  rw [Nat.testBit_and, Nat.testBit_shiftLeft, Nat.testBit_two_pow_sub_one, Nat.testBit_mul_two_pow,
    Nat.testBit_div_two_pow]
  by_cases hlow : 8 ≤ i
  · rw [Nat.sub_add_cancel hlow]
    by_cases hhigh : i < 32
    · simp [hlow, show i - 8 < 24 by omega]
    · rw [Nat.testBit_lt_two_pow (lt_of_lt_of_le value.toNat_lt (Nat.pow_le_pow_right (by decide) (Nat.not_lt.1 hhigh)))]
      simp
  · simp [hlow]

/-- a write of the low byte puts the other three back -/
theorem toLeU32_maskedValue (original rfOffset : UInt32) {b0 b1 b2 b3 : UInt8}
    (horiginal : toLeU32 original.toNat = [b0, b1, b2, b3]) :
    toLeU32 (maskedValue original 0xff rfOffset).toNat = [UInt8.ofNat rfOffset.toNat, b1, b2, b3] := by
  have hupper : (maskedValue original 0xff rfOffset).toNat / 2 ^ 8 = original.toNat / 2 ^ 8 := by
    have houtside := congrArg UInt32.toNat (maskedUpdate_applyRfMask (and_full original) 0xff rfOffset).outside
    rw [and_full, applyRfMask_of_ne (by decide), and_upper, and_upper] at houtside
    omega
  have hbyte (n k : ℕ) : n / 2 ^ (8 + k) = n / 2 ^ 8 / 2 ^ k := by rw [Nat.div_div_eq_div_mul, ← pow_add]
  rw [toLeU32] at horiginal ⊢
  rw [maskedValue_low, hbyte _ 8, hbyte _ 16, hupper, ← hbyte, ← hbyte]
  exact congrArg _ (List.cons.inj horiginal).2

/-- only the low byte of `rHSSIRead` changes -/
theorem selectRf_cells (rfOffset : UInt32) (file : RadioRegisters) :
    (selectRf rfOffset file).cells = Function.update file.cells (false, 0x08b0) (UInt8.ofNat rfOffset.toNat) := by
  have hplace (address : UInt16) (haddress : banked address = false) :
      place file.pageC1 address = (false, address) := by rw [place, haddress, Bool.and_false]
  have hkeep (cells : Cell → UInt8) (c : Cell) (byte : UInt8) (hc : c ≠ (false, 0x08b0)) :
      Function.update (Function.update cells (false, 0x08b0) byte) c (cells c)
        = Function.update cells (false, 0x08b0) byte := by
    conv_lhs => rw [← Function.update_of_ne hc byte cells]
    exact Function.update_eq_self _ _
  rw [selectRf, file.store_cells, toLeU32_maskedValue _ _ (file.toLeU32_wordAt _ _)]
  simp only [patch]
  rw [hplace _ (by decide), hplace _ (by decide), hplace _ (by decide), hplace _ (by decide), hplace _ (by decide),
    hplace _ (by decide)]
  have h1 := hkeep file.cells (false, regHssiReadJaguar + 1) (UInt8.ofNat rfOffset.toNat) (by decide)
  have h2 := hkeep file.cells (false, regHssiReadJaguar + 2) (UInt8.ofNat rfOffset.toNat) (by decide)
  have h3 := hkeep file.cells (false, regHssiReadJaguar + 3) (UInt8.ofNat rfOffset.toNat) (by decide)
  change Function.update (Function.update (Function.update (Function.update file.cells (false, 0x08b0) _)
    (false, regHssiReadJaguar + 1) _) (false, regHssiReadJaguar + 2) _) (false, regHssiReadJaguar + 3) _ = _
  rw [h1, h2, h3]

theorem selectRf_rf (rfOffset : UInt32) (file : RadioRegisters) : (selectRf rfOffset file).rf = file.rf :=
  file.store_rf_of_none fun _ => by cases file.pageC1 <;> rfl

theorem selectRf_pageC1 (rfOffset : UInt32) (file : RadioRegisters) : (selectRf rfOffset file).pageC1 = file.pageC1 := by
  rw [RadioRegisters.pageC1, RadioRegisters.pageC1, selectRf_cells, Function.update_of_ne (by decide)]

/-- what a read value of 20 bits is -/
theorem rfWord_and (file : RadioRegisters) (r : RfCell) : rfWord file r &&& rfRegisterOffsetMask = rfWord file r :=
  readback_value (file.rf r)

theorem offsetCell_low (path : RadioPath) (rfOffset : UInt32) :
    offsetCell path (rfOffset &&& 0xff) = offsetCell path rfOffset := by
  have hlow : (rfOffset &&& 0xff).toNat = rfOffset.toNat % 2 ^ 8 :=
    (UInt32.toNat_and _ _).trans (Nat.and_two_pow_sub_one_eq_mod _ 8)
  have hbyte : UInt8.ofNat (rfOffset &&& 0xff).toNat = UInt8.ofNat rfOffset.toNat := by
    apply UInt8.toNat_inj.1
    rw [UInt8.toNat_ofNat', UInt8.toNat_ofNat', hlow, Nat.mod_mod]
  rw [offsetCell, offsetCell, hbyte]

section Serial

variable {faults : Prop} (registers : Rtl8812auRegisterAccess) (before : RadioRegisters) (path : RadioPath) (rfOffset : UInt32)

/-- reading a register that is mapped leaves the radio as it was -/
theorem acts_readMapped {address : UInt16} (haddress : readPort address = none) (registerName phase : String) :
    Acts faults (fun file => file = before) (read32WithCounter registers address registerName phase)
      (fun value file => value = before.wordAt before.pageC1 address ∧ file = before)
      fun file => faults ∧ file = before := by
  refine Acts.readWithCustomError (registers.read32_loads address) _ (fun hfaults _ hf => ⟨hfaults, hf⟩) ?_
  intro file hf
  rw [hf]
  exact before.loadValue_word haddress

/-- an RF register is read after it was selected; if that fails, it may be selected all the same -/
theorem acts_rfRead :
    Acts faults (fun file => file = before) (rfSerialReadRegister registers (rfPathOf path) rfOffset)
      (fun report file => report.value = rfWord before (offsetCell path rfOffset) ∧
        file = selectRf (rfOffset &&& 0xff) before)
      fun file => faults ∧ (file = before ∨ file = selectRf (rfOffset &&& 0xff) before) := by
  rw [rfSerialReadRegister_eq]
  have hmode : readPort (serialReadTarget path).piModeRegister = none := by cases path <;> rfl
  apply Acts.bind Acts.counters
  intro _
  apply Acts.bind ((acts_readMapped registers before hmode _ _).weaken (fun _ h => h) (fun _ _ h => h.2) fun _ h => h.imp_right .inl)
  intro piModeValue
  have hselect : Acts faults (fun file => file = before)
      (bbSetBbReg registers regHssiReadJaguar 0x000000ff (rfOffset &&& 0xff) "rHSSIRead_Jaguar")
      (fun _ file => file = selectRf (rfOffset &&& 0xff) before) fun file => faults ∧ file = before := by
    unfold bbSetBbReg
    rw [if_neg (by decide), if_neg (by decide)]
    apply Acts.bind (acts_readMapped registers before rfl "rHSSIRead_Jaguar" "bb-set")
    intro original
    apply Acts.assume
    rintro rfl
    refine Acts.writeWithCustomError (registers.writeAll_stores _ .u32 _ rfl) _ (fun hfaults _ hf => ⟨hfaults, hf⟩) ?_
    rintro _ rfl
    rfl
  apply Acts.bind (hselect.weaken (fun _ h => h) (fun _ _ h => h) fun _ h => h.imp_right .inl)
  intro _
  refine Acts.bind (Q := fun readback file =>
      readback &&& rfRegisterOffsetMask = rfWord before (offsetCell path rfOffset) ∧
        file = selectRf (rfOffset &&& 0xff) before)
    (Acts.readWithCustomError (registers.read32_loads _) _ (fun hfaults _ hf => ⟨hfaults, .inr hf⟩) ?_) fun readback => ?_
  · rintro _ rfl
    obtain ⟨hread, hfile⟩ := (selectRf (rfOffset &&& 0xff) before).loadValue_serial
      (readPort_serial path (piModeValue &&& 0x4 != 0))
    rw [selectRf_rf, selectRf_cells, Function.update_self] at hread
    refine ⟨?_, hfile⟩
    dsimp only
    rw [hread, ← offsetCell_low]
    exact readback_value _
  · apply Acts.bind Acts.counters
    intro _
    exact Acts.pure fun file h => h

/-- what a masked write of an RF register leaves on page C -/
theorem rfUpdate_store (hpage : before.pageC1 = false) (mask data : UInt32) :
    RfUpdate (offsetCell path rfOffset) mask data before
      (serialStore path rfOffset (applyRfMask (rfWord before (offsetCell path rfOffset)) mask data)
        (selectRf (rfOffset &&& 0xff) before)) := by
  set value := applyRfMask (rfWord before (offsetCell path rfOffset)) mask data
  have hport : writePort (selectRf (rfOffset &&& 0xff) before).pageC1 (serialRegister path) = some path := by
    rw [selectRf_pageC1, hpage, serialRegister_port]
  have hencoded : UInt32.ofNat (fromLeBytes (toLeU32 (encodeRfSerialWrite rfOffset (value &&& rfRegisterOffsetMask)).toNat))
      = encodeRfSerialWrite rfOffset (value &&& rfRegisterOffsetMask) := by
    rw [fromLeBytes_toLeU32 (UInt32.toNat_lt _), UInt32.ofNat_toNat]
  have hrf : (serialStore path rfOffset value (selectRf (rfOffset &&& 0xff) before)).rf
      = Function.update before.rf (offsetCell path rfOffset)
          (BitVec.ofNat 20 (value &&& rfRegisterOffsetMask).toNat) := by
    rw [serialStore, RadioRegisters.store_rf_of_some _ (toLeU32_length _) hport, hencoded, serialOffset_masked,
      serialData_encode, selectRf_rf]
    rfl
  constructor
  · have hword : rfWord (serialStore path rfOffset value (selectRf (rfOffset &&& 0xff) before)) (offsetCell path rfOffset)
        = value &&& rfRegisterOffsetMask := by
      have hlow : (value &&& rfRegisterOffsetMask).toNat = value.toNat % 2 ^ 20 :=
        (UInt32.toNat_and _ _).trans (Nat.and_two_pow_sub_one_eq_mod _ 20)
      rw [rfWord, hrf, Function.update_self, BitVec.toNat_ofNat, hlow, Nat.mod_mod, ← hlow, UInt32.ofNat_toNat]
    rw [hword]
    exact maskedUpdate_applyRfMask (rfWord_and before _) mask data
  · intro r hr
    rw [hrf]
    exact Function.update_of_ne hr _ _
  · intro c hc
    have hoffset : c ≠ (false, 0x08b0) := fun h => hc (.inl h)
    have hplace : wordOf (place (selectRf (rfOffset &&& 0xff) before).pageC1 (serialRegister path))
        = (false, serialRegister path) := by
      rw [selectRf_pageC1, hpage, serialRegister_place, serialRegister_word]
    rw [serialStore, RadioRegisters.store_cells, patch_frame _ _ _ (hplace ▸ fun h => hc (.inr h)), selectRf_cells,
      Function.update_of_ne hoffset]
    rw [serialRegister_aligned, toLeU32_length]

theorem rfUntouched_select : RfUntouched path before (selectRf (rfOffset &&& 0xff) before) := by
  constructor
  · exact selectRf_rf _ before
  · intro c hc
    rw [selectRf_cells]
    exact Function.update_of_ne (fun h => hc (.inl h)) _ _

/-- a masked write of an RF register ends with the update, or with an error and no RF register changed -/
theorem acts_rfMaskedWrite (hpage : before.pageC1 = false) (mask data : UInt32) (errorCode : String) :
    Acts faults (fun file => file = before)
      (runtimeIqkRfMaskedWrite registers (rfPathOf path) rfOffset mask data errorCode)
      (fun _ file => RfUpdate (offsetCell path rfOffset) mask data before file)
      fun file => faults ∧ RfUntouched path before file := by
  have huntouched := rfUntouched_select before path rfOffset
  apply Acts.bind ((acts_rfRead registers before path rfOffset).weaken (fun _ h => h) (fun _ _ h => h) ?_)
  · intro report
    apply Acts.assume
    intro hvalue
    refine Acts.bind (Q := fun _ file => RfUpdate (offsetCell path rfOffset) mask data before file)
      (Acts.mapError (Acts.rfWrite registers path rfOffset _ ?_ ?_) _) fun _ => Acts.pure fun _ h => h
    · rintro hfaults file rfl
      exact ⟨hfaults, huntouched⟩
    · rintro file rfl
      rw [hvalue]
      exact rfUpdate_store before path rfOffset hpage mask data
  · rintro file ⟨hfaults, rfl | rfl⟩
    · exact ⟨hfaults, rfl, fun _ _ => rfl⟩
    · exact ⟨hfaults, huntouched⟩

end Serial

/-- both paths at once are refused before any access -/
theorem rfMaskedWrite_both (registers : Rtl8812auRegisterAccess) (rfOffset mask data : UInt32) (errorCode : String)
    (s : RegisterRun (FaultyDevice RadioRegisters)) :
    ∃ error, (runtimeIqkRfMaskedWrite registers .both rfOffset mask data errorCode).exec s = (.error error, s) :=
  ⟨_, rfl⟩

/-! ## Runs -/

/-- **Frame of a masked write.** Whichever transfers fail, a run of one of the helpers ends with the field under the
mask replaced, every other bit and every other register as it was, or with an error; what is not read is not written. An
RF register is reached over `rHSSIRead` and the serial port of its path, on page C, and takes the low 20 bits. -/
theorem masked_updates (registers : Rtl8812auRegisterAccess) (address : UInt16) (mask data : UInt32)
    (registerName errorCode : String) (mapped : RegisterRun (FaultyDevice PlainRegisters)) (path : RadioPath)
    (rfOffset : UInt32) (radio : RegisterRun (FaultyDevice RadioRegisters))
    (hpage : radio.transport.file.pageC1 = false) :
    (match (bbSetBbReg registers address mask data registerName).exec mapped with
      | (.ok (), s) => WordUpdate address mask data mapped.transport.file s.transport.file
      | (.error _, s) => ¬ mapped.transport.Reliable ∧ s.transport.file = mapped.transport.file) ∧
    (match (applyRtl8812auRuntimeIqkSetupWrite registers (.maskedBb registerName address mask data)).exec mapped with
      | (.ok (), s) => WordUpdate address mask data mapped.transport.file s.transport.file
      | (.error _, s) => ¬ mapped.transport.Reliable ∧
          (s.transport.file = mapped.transport.file ∨
            mapped.transport.failing mapped.transport.transfers = none ∧
              WordUpdate address mask data mapped.transport.file s.transport.file)) ∧
    (match (runtimeIqkRfMaskedWrite registers (rfPathOf path) rfOffset mask data errorCode).exec radio with
      | (.ok (), s) => RfUpdate (offsetCell path rfOffset) mask data radio.transport.file s.transport.file
      | (.error _, s) => ¬ radio.transport.Reliable ∧ RfUntouched path radio.transport.file s.transport.file) ∧
    ∃ error, (runtimeIqkRfMaskedWrite registers .both rfOffset mask data errorCode).exec radio = (.error error, radio) := by
  have hmapped : Sound (¬ mapped.transport.Reliable) (fun file => file = mapped.transport.file) mapped.transport :=
    ⟨(Classical.em _).symm, rfl⟩
  have hradio : Sound (¬ radio.transport.Reliable) (fun file => file = radio.transport.file) radio.transport :=
    ⟨(Classical.em _).symm, rfl⟩
  refine ⟨?_, ?_, ?_, rfMaskedWrite_both registers rfOffset mask data errorCode radio⟩
  · have hact := acts_bbSet registers mapped.transport.file address mask data registerName mapped hmapped
    rcases hrun : (bbSetBbReg registers address mask data registerName).exec mapped with ⟨error | a, s⟩
    · rw [hrun] at hact
      exact hact.2
    · rw [hrun] at hact
      exact hact.2
  · have hact := acts_maskedBb registers mapped.transport.file address mask data registerName mapped hmapped
    have hunread := handles_maskedBb registers mapped.transport.file address mask data registerName mapped
    rcases hrun : (applyRtl8812auRuntimeIqkSetupWrite registers (.maskedBb registerName address mask data)).exec mapped
      with ⟨error | a, s⟩
    · rw [hrun] at hact hunread
      refine ⟨hact.2.1, ?_⟩
      by_cases hread : mapped.transport.failing mapped.transport.transfers = none
      · exact hact.2.2.imp_right fun h => ⟨hread, h⟩
      · exact .inl (hunread ⟨rfl, hread⟩)
    · rw [hrun] at hact
      exact hact.2
  · have hact := acts_rfMaskedWrite registers radio.transport.file path rfOffset hpage mask data errorCode radio hradio
    rcases hrun : (runtimeIqkRfMaskedWrite registers (rfPathOf path) rfOffset mask data errorCode).exec radio
      with ⟨error | a, s⟩
    · rw [hrun] at hact
      exact hact.2
    · rw [hrun] at hact
      exact hact.2

/-- a radio whose registers are all zero, on page C or C1, and registers that are mapped -/
def blankRadio (pageC1 : Bool) : RegisterRun (FaultyDevice RadioRegisters) where
  transport := {
    file := { cells := fun c => if pageC1 ∧ c = (false, 0x082f) then 0x80 else 0, rf := fun _ => 0, answers := fun _ => 0 }
    failing := fun _ => none }
  counters := {}

def blankRegisters : RegisterRun (FaultyDevice PlainRegisters) where
  transport := { file := ⟨fun _ => 0⟩, failing := fun _ => none }
  counters := {}

/-- a masked write of RF register 0x58 of path A -/
def blankRun (pageC1 : Bool) (mask data : UInt32) : Except RuntimeRadioError Unit × RegisterRun (FaultyDevice RadioRegisters) :=
  (runtimeIqkRfMaskedWrite {} .a 0x58 mask data "rtl8812a_runtime_iqk_tx_failed").exec (blankRadio pageC1)

/-- a mask with holes, on a radio that answers -/
theorem blankRadio_updates :
    (blankRun false 0x00055 0x3).1 = .ok () ∧
      RfUpdate (offsetCell .a 0x58) 0x00055 0x3 (blankRadio false).transport.file
        (blankRun false 0x00055 0x3).2.transport.file :=
  ⟨rfl, (masked_updates {} 0x0c90 0x00055 0x3 "R_0xc90" "rtl8812a_runtime_iqk_tx_failed" blankRegisters .a 0x58
    (blankRadio false) (by decide)).2.2.1⟩

/-- a masked write of an RF register changes `rHSSIRead` as well; a bit above the 20 of the register is lost; and on page
C1 the register is not reached -/
theorem blankRadio_frame_broken :
    ((blankRun false 0x00055 0x3).1 = .ok () ∧
      (blankRun false 0x00055 0x3).2.transport.file.cells (false, 0x08b0)
        ≠ (blankRadio false).transport.file.cells (false, 0x08b0)) ∧
    ((blankRun false 0x100000 0x1).1 = .ok () ∧
      bbMaskedField (rfWord (blankRun false 0x100000 0x1).2.transport.file (offsetCell .a 0x58)) 0x100000
        ≠ (0x1 : UInt32) &&& 0x100000 >>> UInt32.ofNat (trailingZeros 0x100000)) ∧
    ((blankRun true 0x00055 0x3).1 = .ok () ∧
      bbMaskedField (rfWord (blankRun true 0x00055 0x3).2.transport.file (offsetCell .a 0x58)) 0x00055
        ≠ (0x3 : UInt32) &&& 0x00055 >>> UInt32.ofNat (trailingZeros 0x00055)) :=
  ⟨⟨rfl, by decide +kernel⟩, ⟨rfl, by decide +kernel⟩, ⟨rfl, by decide +kernel⟩⟩

end WfbLink.Runtime
