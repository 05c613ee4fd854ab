/-
The calibration of the local oscillator (`run_rtl8812au_lck_calibration`).

Packet TX is paused, `RF_LCK` and `RF_CHNLBW` are set up for the calibration, and after it all three are put back. What
has to be put back after a failure stands in a clean-up record. The record forgets a value before the write that puts it
back, so that a failure in between leaves the register as the calibration had it.

- `lckRestored_iff`: after a failure the registers hold their old values iff it is none of those.
-/
import WfbLink.Runtime.DeviceFaults
import WfbLink.Runtime.RfSerial

namespace WfbLink.Runtime

open WfbLink.Core WfbLink.RadioCore

/-! ## The procedure -/

def regSingleToneContTxJaguar : UInt16 := 0x0914
def rfChnlbwJaguar : UInt32 := 0x18
def rfLckJaguar : UInt32 := 0xb4
def rfLckModeBit : UInt32 := (1 : UInt32) <<< 14
def rfChnlbwLckTriggerBit : UInt32 := (1 : UInt32) <<< 15

/-- what has to be put back after a failure -/
structure Rtl8812auLckCleanupState where
  txPauseRestore : Option UInt8 := none
  rfLckRestore : Option UInt32 := none
  rfChnlbwRestore : Option UInt32 := none
deriving DecidableEq, Repr

/-- register code with a clean-up record, which survives a failure like the counters -/
def LckAction (α : Type) : Type :=
  Rtl8812auLckCleanupState → RuntimeRadioCounters →
    RegisterProgram (Except RuntimeRadioError α × Rtl8812auLckCleanupState × RuntimeRadioCounters)

namespace LckAction

variable {α β : Type}

def andThen (action : LckAction α) (f : α → LckAction β) : LckAction β := fun cleanup counters => do
  match ← action cleanup counters with
  | (.ok a, cleanup, counters) => f a cleanup counters
  | (.error error, cleanup, counters) => return (.error error, cleanup, counters)

instance : Monad LckAction where
  pure a := fun cleanup counters => return (.ok a, cleanup, counters)
  bind := andThen

def lift (action : RegisterAction α) : LckAction α := fun cleanup counters => do
  let (result, counters) ← action counters
  return (result, cleanup, counters)

/-- the record so far -/
def cleanup : LckAction Rtl8812auLckCleanupState := fun cleanup counters => return (.ok cleanup, cleanup, counters)

def setCleanup (f : Rtl8812auLckCleanupState → Rtl8812auLckCleanupState) : LckAction Unit := fun cleanup counters =>
  return (.ok (), f cleanup, counters)

/-- from the empty record on; the outcome comes with the record -/
def start (action : LckAction α) : RegisterAction (Except RuntimeRadioError α × Rtl8812auLckCleanupState) :=
  fun counters => do
    let (result, cleanup, counters) ← action {} counters
    return (.ok (result, cleanup), counters)

end LckAction

/-- the whole report; the runtime reads what it extends -/
structure Rtl8812auLckCalibrationFullReport extends Rtl8812auLckCalibrationReport where
  continuousTxRegister : Rtl8812auRegisterReadReport
  continuousTxActive : Bool
  txPauseBefore : Rtl8812auRegisterReadReport
  rfChnlbwBackup : Rtl8812auRfSerialReadReport
  rfLckBeforeEnter : Rtl8812auRfSerialReadReport
  rfLckEnterWrite : Rtl8812auRfSerialWriteReport
  rfChnlbwBeforeTrigger : Rtl8812auRfSerialReadReport
  rfChnlbwTriggerWrite : Rtl8812auRfSerialWriteReport
  delayMs : UInt64
  rfLckBeforeExit : Rtl8812auRfSerialReadReport
  rfLckExitWrite : Rtl8812auRfSerialWriteReport
  rfChnlbwRestoreWrite : Rtl8812auRfSerialWriteReport
  rfChnlbwAfterRestore : Rtl8812auRfSerialReadReport
  rfLckAfterExit : Rtl8812auRfSerialReadReport
  counters : RuntimeRadioCounters

section Lck

variable (registers : Rtl8812auRegisterAccess)

/-- a value that is put back; a failure is kept as a text -/
def lckCleanupWrite {α : Type} (restore : Option α) (write : α → RegisterAction Unit)
    (failure : α → RuntimeRadioError → String) : RegisterAction (List String) :=
  match restore with
  | none => return []
  | some value => do
    match ← (write value).attempt with
    | .ok () => return []
    | .error error => return [failure value error]

def lckCleanupRf (registerName : String) (rfOffset : UInt32) (restore : Option UInt32) :
    RegisterAction (List String) :=
  lckCleanupWrite restore
    (fun value => write32WithCounter registers regRfPathA3wire (encodeRfSerialWrite rfOffset value)
      "rA_LSSIWrite_Jaguar" "lck-cleanup")
    fun value error =>
      s!"{registerName} restore to {formatRegisterValue value.toNat 5} failed: {error.code}: {error.message}"

def cleanupRtl8812auLckAfterError (cleanup : Rtl8812auLckCleanupState) : RegisterAction (List String) := do
  let rfLck ← lckCleanupRf registers "RF_LCK" rfLckJaguar cleanup.rfLckRestore
  let rfChnlbw ← lckCleanupRf registers "RF_CHNLBW" rfChnlbwJaguar cleanup.rfChnlbwRestore
  let txPause ← lckCleanupWrite cleanup.txPauseRestore
    (fun value => write8WithCounter registers regTxpause value "REG_TXPAUSE" "lck-cleanup")
    fun value error =>
      s!"REG_TXPAUSE restore to {formatRegisterValue value.toNat 2} failed: {error.code}: {error.message}"
  return rfLck ++ rfChnlbw ++ txPause

/-- packet TX is paused, unless the radio sends continuously -/
def lckPause (continuousTxActive : Bool) (txPauseBeforeValue : UInt8) :
    LckAction (Option Rtl8812auRegisterWriteReport) :=
  if continuousTxActive then pure none
  else do
    LckAction.setCleanup fun cleanup => { cleanup with txPauseRestore := some txPauseBeforeValue }
    let report ← LckAction.lift (write8RegisterReport registers "REG_TXPAUSE" regTxpause 0xff)
    return some report

/-- packet TX is resumed, if it was paused; the record forgets the value before it is written -/
def lckResume : LckAction (Option Rtl8812auRegisterWriteReport) := do
  let cleanup ← LckAction.cleanup
  LckAction.setCleanup fun cleanup => { cleanup with txPauseRestore := none }
  match cleanup.txPauseRestore with
  | none => return none
  | some restoreValue => do
    let report ← LckAction.lift (write8RegisterReport registers "REG_TXPAUSE" regTxpause restoreValue)
    return some report

def runRtl8812auLckCalibrationInner : LckAction Rtl8812auLckCalibrationFullReport := do
  let continuousTxValue ← LckAction.lift
    (read32WithCounter registers regSingleToneContTxJaguar "REG_SINGLE_TONE_CONT_TX_JAGUAR" "lck")
  let continuousTxActive := continuousTxValue &&& 0x00070000 != 0
  let txPauseBeforeValue ← LckAction.lift (read8WithCounter registers regTxpause "REG_TXPAUSE" "lck")
  let rfChnlbwBackup ← LckAction.lift (rfSerialReadRegister registers .a rfChnlbwJaguar)
  let txPauseWrite ← lckPause registers continuousTxActive txPauseBeforeValue
  let rfLckBeforeEnter ← LckAction.lift (rfSerialReadRegister registers .a rfLckJaguar)
  LckAction.setCleanup fun cleanup => { cleanup with rfLckRestore := some rfLckBeforeEnter.value }
  let rfLckEnterWrite ← LckAction.lift
    (rfSerialWriteSinglePath registers .a rfLckJaguar (rfLckBeforeEnter.value ||| rfLckModeBit))
  let rfChnlbwBeforeTrigger ← LckAction.lift (rfSerialReadRegister registers .a rfChnlbwJaguar)
  LckAction.setCleanup fun cleanup => { cleanup with rfChnlbwRestore := some rfChnlbwBeforeTrigger.value }
  let rfChnlbwTriggerWrite ← LckAction.lift
    (rfSerialWriteSinglePath registers .a rfChnlbwJaguar (rfChnlbwBeforeTrigger.value ||| rfChnlbwLckTriggerBit))
  let rfLckBeforeExit ← LckAction.lift (rfSerialReadRegister registers .a rfLckJaguar)
  let rfLckExitWrite ← LckAction.lift
    (rfSerialWriteSinglePath registers .a rfLckJaguar (rfLckBeforeExit.value &&& ~~~rfLckModeBit))
  LckAction.setCleanup fun cleanup => { cleanup with rfLckRestore := none }
  let txPauseRestore ← lckResume registers
  let cleanup ← LckAction.cleanup
  LckAction.setCleanup fun cleanup => { cleanup with rfChnlbwRestore := none }
  let rfChnlbwRestoreWrite ← LckAction.lift
    (rfSerialWriteSinglePath registers .a rfChnlbwJaguar (cleanup.rfChnlbwRestore.getD rfChnlbwBeforeTrigger.value))
  let rfChnlbwAfterRestore ← LckAction.lift (rfSerialReadRegister registers .a rfChnlbwJaguar)
  let rfLckAfterExit ← LckAction.lift (rfSerialReadRegister registers .a rfLckJaguar)
  return {
    txPauseWrite
    txPauseRestore
    continuousTxRegister :=
      ⟨"REG_SINGLE_TONE_CONT_TX_JAGUAR", regSingleToneContTxJaguar, "u32", continuousTxValue⟩
    continuousTxActive
    txPauseBefore := ⟨"REG_TXPAUSE", regTxpause, "u8", txPauseBeforeValue.toUInt32⟩
    rfChnlbwBackup
    rfLckBeforeEnter
    rfLckEnterWrite
    rfChnlbwBeforeTrigger
    rfChnlbwTriggerWrite
    delayMs := 150
    rfLckBeforeExit
    rfLckExitWrite
    rfChnlbwRestoreWrite
    rfChnlbwAfterRestore
    rfLckAfterExit
    counters := {} }

def runRtl8812auLckCalibration : RegisterAction Rtl8812auLckCalibrationFullReport := do
  let before ← RegisterAction.counters
  let (result, cleanup) ← (runRtl8812auLckCalibrationInner registers).start
  match result with
  | .ok report => do
    let counters ← RegisterAction.counters
    return { report with counters := counters.saturatingSub before }
  | .error error => do
    let cleanupFailures ← cleanupRtl8812auLckAfterError registers cleanup
    if cleanupFailures = [] then .fail error
    else
      .fail { error with
        message := error.message ++ "; cleanup failures: " ++ String.intercalate "; " cleanupFailures }

end Lck

/-! ## Running it -/

namespace LckAction

variable {τ α β : Type} [Rtl8812auUsbTransport τ]

def exec (action : LckAction α) :
    Action (RegisterRun τ × Rtl8812auLckCleanupState) RuntimeRadioError α := fun s =>
  let outcome := (action s.2 s.1.counters).run s.1.transport
  (outcome.1.1, { transport := outcome.2, counters := outcome.1.2.2 }, outcome.1.2.1)

theorem exec_pure (a : α) :
    (pure a : LckAction α).exec = (pure a : Action (RegisterRun τ × Rtl8812auLckCleanupState) _ α) := rfl

theorem exec_cleanup :
    cleanup.exec = (Action.read Prod.snd : Action (RegisterRun τ × Rtl8812auLckCleanupState) RuntimeRadioError _) := rfl

theorem exec_setCleanup (f : Rtl8812auLckCleanupState → Rtl8812auLckCleanupState) :
    (setCleanup f).exec = (Action.modify fun s => (s.1, f s.2) :
      Action (RegisterRun τ × Rtl8812auLckCleanupState) RuntimeRadioError Unit) := rfl

theorem exec_lift (action : RegisterAction α) (s : RegisterRun τ × Rtl8812auLckCleanupState) :
    (lift action).exec s = ((action.exec s.1).1, (action.exec s.1).2, s.2) := by
  rcases hrun : (action s.1.counters).run s.1.transport with ⟨⟨result, counters⟩, transport⟩
  simp only [exec, lift, RegisterAction.exec, RegisterProgram.run_bind, RegisterProgram.run_pure, hrun]

theorem exec_bind (action : LckAction α) (f : α → LckAction β) :
    (action >>= f).exec = (action.exec >>= fun a => (f a).exec :
      Action (RegisterRun τ × Rtl8812auLckCleanupState) _ β) := by
  funext s
  change (action.andThen f).exec s = _
  rcases hrun : (action s.2 s.1.counters).run s.1.transport with ⟨⟨error | a, cleanup, counters⟩, transport⟩
  · have hact : (action.exec : Action (RegisterRun τ × Rtl8812auLckCleanupState) _ α) s
        = (.error error, ⟨transport, counters⟩, cleanup) := by
      simp only [exec, hrun]
    rw [Action.bind_of_error hact, exec, andThen, RegisterProgram.run_bind, hrun]
    rfl
  · have hact : (action.exec : Action (RegisterRun τ × Rtl8812auLckCleanupState) _ α) s
        = (.ok a, ⟨transport, counters⟩, cleanup) := by
      simp only [exec, hrun]
    rw [Action.bind_of_ok hact, exec, andThen, RegisterProgram.run_bind, hrun]
    rfl

theorem exec_start (action : LckAction α) (s : RegisterRun τ) :
    action.start.exec s = (.ok ((action.exec (s, {})).1, (action.exec (s, {})).2.2), (action.exec (s, {})).2.1) := by
  rcases hrun : (action {} s.counters).run s.transport with ⟨⟨result, cleanup, counters⟩, transport⟩
  simp only [exec, start, RegisterAction.exec, RegisterProgram.run_bind, RegisterProgram.run_pure, hrun]

end LckAction

/-! ## The three registers -/

def txPauseCell : Cell := (false, 0x0522)
def lckCell : RfCell := (.a, 0xb4)
def chnlbwCell : RfCell := (.a, 0x18)

/-- the registers that matter, next to what they were -/
structure LckRadio (before : RadioRegisters) (txPause : UInt8) (rfLck rfChnlbw : BitVec 20)
    (file : RadioRegisters) : Prop where
  pageC1 : file.pageC1 = before.pageC1
  txPause : file.cells txPauseCell = txPause
  rfLck : file.rf lckCell = rfLck
  rfChnlbw : file.rf chnlbwCell = rfChnlbw

namespace LckRadio

variable {before file : RadioRegisters} {txPause : UInt8} {rfLck rfChnlbw : BitVec 20}

theorem refl (file : RadioRegisters) :
    LckRadio file (file.cells txPauseCell) (file.rf lckCell) (file.rf chnlbwCell) file := ⟨rfl, rfl, rfl, rfl⟩

theorem load (h : LckRadio before txPause rfLck rfChnlbw file) (address : UInt16) (n : ℕ) :
    LckRadio before txPause rfLck rfChnlbw (loadValue address n file).2 := by
  obtain ⟨hcells, hrf⟩ := file.load_cells address n
  change (loadValue address n file).2.cells = _ at hcells
  change (loadValue address n file).2.rf = _ at hrf
  refine ⟨?_, by rw [hcells, h.txPause], by rw [hrf, h.rfLck], by rw [hrf, h.rfChnlbw]⟩
  rw [← h.pageC1, RadioRegisters.pageC1, RadioRegisters.pageC1, hcells]

/-- a write to another register -/
theorem store_other (h : LckRadio before txPause rfLck rfChnlbw file) {address : UInt16} {data : List UInt8}
    (hword : address.toNat % 4 + data.length ≤ 4) (hagc : wordOf (place file.pageC1 address) ≠ agcWord)
    (htx : wordOf (place file.pageC1 address) ≠ wordOf txPauseCell)
    (hport : writePort file.pageC1 address = none) :
    LckRadio before txPause rfLck rfChnlbw (RegisterFile.store file address data) := by
  refine ⟨?_, ?_, ?_, ?_⟩
  · rw [file.store_pageC1 hword hagc, h.pageC1]
  · rw [file.store_cells, patch_frame _ hword _ htx.symm, h.txPause]
  · rw [file.store_rf_of_none fun _ => hport, h.rfLck]
  · rw [file.store_rf_of_none fun _ => hport, h.rfChnlbw]

theorem store_hssi (h : LckRadio before txPause rfLck rfChnlbw file) (value : UInt32) :
    LckRadio before txPause rfLck rfChnlbw (RegisterFile.store file regHssiReadJaguar (toLeU32 value.toNat)) := by
  apply h.store_other
  · rw [toLeU32_length]; decide
  · cases file.pageC1 <;> decide
  · cases file.pageC1 <;> decide
  · cases file.pageC1 <;> decide

theorem store_txPause (h : LckRadio before txPause rfLck rfChnlbw file) (value : UInt8) :
    LckRadio before value rfLck rfChnlbw (RegisterFile.store file regTxpause [value]) := by
  have hplace : place file.pageC1 regTxpause = txPauseCell := by cases file.pageC1 <;> rfl
  have hword : regTxpause.toNat % 4 + [value].length ≤ 4 := by rw [List.length_singleton]; decide
  refine ⟨?_, ?_, ?_, ?_⟩
  · rw [file.store_pageC1 hword (by rw [hplace]; decide), h.pageC1]
  · rw [file.store_cells, patch, patch, hplace, Function.update_self]
  · rw [file.store_rf_of_none fun hlength => absurd hlength (by rw [List.length_singleton]; decide), h.rfLck]
  · rw [file.store_rf_of_none fun hlength => absurd hlength (by rw [List.length_singleton]; decide), h.rfChnlbw]

/-- what a write to the serial port leaves in an RF register: on page C1 the port is not there -/
def serialWritten (pageC1 : Bool) (value : UInt32) (old : BitVec 20) : BitVec 20 :=
  if pageC1 then old else BitVec.ofNat 20 value.toNat

theorem store_serial (h : LckRadio before txPause rfLck rfChnlbw file) (rfOffset value : UInt32) :
    LckRadio before txPause
      (if UInt8.ofNat rfOffset.toNat = lckCell.2 then serialWritten before.pageC1 value rfLck else rfLck)
      (if UInt8.ofNat rfOffset.toNat = chnlbwCell.2 then serialWritten before.pageC1 value rfChnlbw else rfChnlbw)
      (RegisterFile.store file regRfPathA3wire (toLeU32 (encodeRfSerialWrite rfOffset value).toNat)) := by
  have hword : regRfPathA3wire.toNat % 4 + (toLeU32 (encodeRfSerialWrite rfOffset value).toNat).length ≤ 4 := by
    rw [toLeU32_length]; decide
  have hagc : wordOf (place file.pageC1 regRfPathA3wire) ≠ agcWord := by cases file.pageC1 <;> decide
  have htx : wordOf (place file.pageC1 regRfPathA3wire) ≠ wordOf txPauseCell := by cases file.pageC1 <;> decide
  rcases hpage : before.pageC1 with _ | _
  · have hport : writePort file.pageC1 regRfPathA3wire = some .a := by rw [h.pageC1, hpage]; rfl
    have hrf := file.store_rf_of_some (toLeU32_length (encodeRfSerialWrite rfOffset value).toNat) hport
    rw [fromLeBytes_toLeU32 (UInt32.toNat_lt _), UInt32.ofNat_toNat, serialOffset_encode,
      serialData_encode] at hrf
    refine ⟨?_, ?_, ?_, ?_⟩
    · rw [file.store_pageC1 hword hagc, h.pageC1]
    · rw [file.store_cells, patch_frame _ hword _ htx.symm, h.txPause]
    · rw [hrf]
      split
      · rename_i hoffset
        rw [hoffset]
        exact Function.update_self _ _ _
      · rename_i hoffset
        rw [Function.update_of_ne fun heq => hoffset (Prod.ext_iff.1 heq).2.symm, h.rfLck]
    · rw [hrf]
      split
      · rename_i hoffset
        rw [hoffset]
        exact Function.update_self _ _ _
      · rename_i hoffset
        rw [Function.update_of_ne fun heq => hoffset (Prod.ext_iff.1 heq).2.symm, h.rfChnlbw]
  · have hport : writePort file.pageC1 regRfPathA3wire = none := by rw [h.pageC1, hpage]; rfl
    simp only [serialWritten, if_true, ite_self]
    exact h.store_other hword hagc htx hport

end LckRadio

/-! ## The steps -/

section Steps

variable (registers : Rtl8812auRegisterAccess) {k i : ℕ} {before : RadioRegisters} {txPause : UInt8}
  {rfLck rfChnlbw value : BitVec 20}

/-- a read of an RF register is four transfers -/
theorem ahead_rfRead (rfOffset : UInt32)
    (hvalue : ∀ file, LckRadio before txPause rfLck rfChnlbw file →
      file.rf (.a, UInt8.ofNat (rfOffset &&& 0xff).toNat) = value) :
    Handles (Ahead k i (LckRadio before txPause rfLck rfChnlbw)) (rfSerialReadRegister registers .a rfOffset)
      (fun report => Ahead k (i + 4) fun file =>
        report.value.toNat = value.toNat ∧ LckRadio before txPause rfLck rfChnlbw file)
      fun device => (i ≤ k ∧ k < i + 4) ∧ Behind (LckRadio before txPause rfLck rfChnlbw) device := by
  apply Handles.bind Handles.counters
  intro _
  have hmode : Handles (Ahead k i (LckRadio before txPause rfLck rfChnlbw))
      (read32WithCounter registers regRfPiModeAJaguar "rA_PI_Mode_Jaguar" "rf-serial-read")
      (fun _ => Ahead k (i + 1) (LckRadio before txPause rfLck rfChnlbw))
      fun device => k = i ∧ Behind (LckRadio before txPause rfLck rfChnlbw) device :=
    Ahead.readWithCustomError (registers.read32_loads _) _ fun _ h => h.load _ _
  apply Handles.bind (hmode.weaken (fun _ h => h) (fun _ _ h => h) fun _ h => ⟨by omega, h.2⟩)
  intro piModeValue
  have hset : Handles (Ahead k (i + 1) (LckRadio before txPause rfLck rfChnlbw))
      (bbSetBbReg registers regHssiReadJaguar 0x000000ff (rfOffset &&& 0xff) "rHSSIRead_Jaguar")
      (fun _ => Ahead k (i + 3) fun file => file.cells (false, 0x08b0) = UInt8.ofNat (rfOffset &&& 0xff).toNat ∧
        LckRadio before txPause rfLck rfChnlbw file)
      fun device => (i ≤ k ∧ k < i + 4) ∧ Behind (LckRadio before txPause rfLck rfChnlbw) device := by
    rw [bbSetBbReg, if_neg (by decide), if_neg (by decide)]
    have hread : Handles (Ahead k (i + 1) (LckRadio before txPause rfLck rfChnlbw))
        (read32WithCounter registers regHssiReadJaguar "rHSSIRead_Jaguar" "bb-set")
        (fun _ => Ahead k (i + 2) (LckRadio before txPause rfLck rfChnlbw))
        fun device => k = i + 1 ∧ Behind (LckRadio before txPause rfLck rfChnlbw) device :=
      Ahead.readWithCustomError (registers.read32_loads _) _ fun _ h => h.load _ _
    apply Handles.bind (hread.weaken (fun _ h => h) (fun _ _ h => h) fun _ h => ⟨by omega, h.2⟩)
    intro original
    refine (Ahead.writeWithCustomError (registers.writeAll_stores _ .u32 _ rfl) _ ?_).weaken (fun _ h => h)
      (fun _ _ h => h) fun _ h => ⟨by omega, h.2⟩
    intro file h
    exact ⟨hssi_offset file original _, h.store_hssi _⟩
  apply Handles.bind hset
  intro _
  have hport : readPort (rfSerialReadTargetA.readback (piModeValue &&& 0x4 != 0)).2 = some (.serial .a) :=
    @readPort_readback .a _ rfl _
  refine Handles.bind ((Ahead.readWithCustomError (registers.read32_loads _) _
    (Q := fun readback file => (readback &&& rfRegisterOffsetMask).toNat = value.toNat ∧
      LckRadio before txPause rfLck rfChnlbw file) ?_).weaken (fun _ h => h) (fun _ _ h => h) fun _ h =>
        ⟨by omega, h.2.1, h.2.2.2⟩) fun readback => ?_
  · rintro file ⟨hhssi, h⟩
    obtain ⟨hread, hfile⟩ := file.loadValue_serial hport
    rw [hhssi, hvalue file h] at hread
    dsimp only
    rw [hread, hfile, readback_value, UInt32.toNat_ofNat',
      Nat.mod_eq_of_lt (lt_trans value.isLt (by decide))]
    exact ⟨rfl, h⟩
  · apply Handles.bind Handles.counters
    intro _
    exact Handles.pure fun _ h => h

theorem ofNat_masked (data : UInt32) :
    BitVec.ofNat 20 (data &&& rfRegisterOffsetMask).toNat = BitVec.ofNat 20 data.toNat := by
  apply BitVec.eq_of_toNat_eq
  rw [BitVec.toNat_ofNat, BitVec.toNat_ofNat, UInt32.toNat_and]
  change (data.toNat &&& 2 ^ 20 - 1) % 2 ^ 20 = data.toNat % 2 ^ 20
  rw [Nat.and_two_pow_sub_one_eq_mod, Nat.mod_mod]

/-- a write to an RF register is one transfer -/
theorem ahead_rfWrite (rfOffset data : UInt32) :
    Handles (Ahead k i (LckRadio before txPause rfLck rfChnlbw)) (rfSerialWriteSinglePath registers .a rfOffset data)
      (fun _ => Ahead k (i + 1) (LckRadio before txPause
        (if UInt8.ofNat rfOffset.toNat = lckCell.2 then LckRadio.serialWritten before.pageC1 data rfLck else rfLck)
        (if UInt8.ofNat rfOffset.toNat = chnlbwCell.2 then LckRadio.serialWritten before.pageC1 data rfChnlbw
          else rfChnlbw)))
      fun device => k = i ∧ Behind (LckRadio before txPause rfLck rfChnlbw) device := by
  apply Handles.bind (Q := fun _ => _) ?_ fun _ => Handles.pure fun _ h => h
  apply Handles.bind Handles.counters
  intro _
  apply Handles.bind (Q := fun _ => _) (Ahead.writeWithCustomError (registers.writeAll_stores _ .u32 _ rfl) _ fun file h => ?_)
  · intro _
    exact Handles.bind Handles.counters fun _ => Handles.pure fun _ h => h
  · have hstore := h.store_serial rfOffset (data &&& rfRegisterOffsetMask)
    rwa [LckRadio.serialWritten, LckRadio.serialWritten, ofNat_masked] at hstore

theorem ahead_lckWrite (data : UInt32) :
    Handles (Ahead k i (LckRadio before txPause rfLck rfChnlbw)) (rfSerialWriteSinglePath registers .a rfLckJaguar data)
      (fun _ => Ahead k (i + 1)
        (LckRadio before txPause (LckRadio.serialWritten before.pageC1 data rfLck) rfChnlbw))
      fun device => k = i ∧ Behind (LckRadio before txPause rfLck rfChnlbw) device :=
  ahead_rfWrite registers rfLckJaguar data

theorem ahead_chnlbwWrite (data : UInt32) :
    Handles (Ahead k i (LckRadio before txPause rfLck rfChnlbw))
      (rfSerialWriteSinglePath registers .a rfChnlbwJaguar data)
      (fun _ => Ahead k (i + 1)
        (LckRadio before txPause rfLck (LckRadio.serialWritten before.pageC1 data rfChnlbw)))
      fun device => k = i ∧ Behind (LckRadio before txPause rfLck rfChnlbw) device :=
  ahead_rfWrite registers rfChnlbwJaguar data

/-- a reported write of `REG_TXPAUSE` is three transfers, the middle one of which writes -/
theorem ahead_txPause (written : UInt8) :
    Handles (Ahead k i (LckRadio before txPause rfLck rfChnlbw))
      (write8RegisterReport registers "REG_TXPAUSE" regTxpause written)
      (fun _ => Ahead k (i + 3) (LckRadio before written rfLck rfChnlbw))
      fun device => (k = i ∨ k = i + 1) ∧ Behind (LckRadio before txPause rfLck rfChnlbw) device ∨
        k = i + 2 ∧ Behind (LckRadio before written rfLck rfChnlbw) device := by
  apply Handles.bind Handles.counters
  intro _
  apply Handles.bind (Q := fun _ => Ahead k (i + 1) (LckRadio before txPause rfLck rfChnlbw))
    ((Ahead.readWithCustomError (registers.read8_loads _) _ fun _ h => h.load _ _).weaken (fun _ h => h)
      (fun _ _ h => h) fun _ h => .inl ⟨.inl h.1, h.2⟩)
  intro _
  apply Handles.bind (Q := fun _ => Ahead k (i + 2) (LckRadio before written rfLck rfChnlbw))
    ((Ahead.writeWithCustomError (registers.writeAll_stores _ .u8 [written] rfl) _ fun _ h =>
      h.store_txPause written).weaken (fun _ h => h) (fun _ _ h => h) fun _ h => .inl ⟨.inr h.1, h.2⟩)
  intro _
  apply Handles.bind (Q := fun _ => Ahead k (i + 3) (LckRadio before written rfLck rfChnlbw))
    ((Ahead.readWithCustomError (registers.read8_loads _) _ fun _ h => h.load _ _).weaken (fun _ h => h)
      (fun _ _ h => h) fun _ h => .inr h)
  intro _
  exact Handles.bind Handles.counters fun _ => Handles.pure fun _ h => h

end Steps

/-! ## What is put back -/

/-- all three registers hold their old values -/
def LckRestored (before after : RadioRegisters) : Prop :=
  after.cells txPauseCell = before.cells txPauseCell ∧ after.rf lckCell = before.rf lckCell ∧
    after.rf chnlbwCell = before.rf chnlbwCell

def ContinuousTx (before : RadioRegisters) : Prop :=
  before.wordAt false regSingleToneContTxJaguar &&& 0x00070000 ≠ 0

instance (before : RadioRegisters) : Decidable (ContinuousTx before) := inferInstanceAs (Decidable (_ ≠ _))

/-- how many transfers it takes to leave the calibration mode -/
def lckLeft (before : RadioRegisters) : ℕ := if ContinuousTx before then 21 else 24

/-- and to resume packet TX -/
def lckResumed (before : RadioRegisters) : ℕ := if ContinuousTx before then 21 else 27

/-- transfer number `k` may fail: if it is one of the first two that resume packet TX, it was paused before; if it is the
one that puts `RF_CHNLBW` back, the trigger was set before; and if it is any one behind the calibration mode, `RF_LCK`
was in normal mode before. On page C1 the RF registers are never written. -/
def LckPutBack (before : RadioRegisters) (k : ℕ) : Prop :=
  (lckLeft before ≤ k → k < lckLeft before + 2 → ContinuousTx before ∨ before.cells txPauseCell = 0xff) ∧
    (before.pageC1 = false →
      (k = lckResumed before → before.rf chnlbwCell &&& 0x08000 ≠ 0) ∧
        (lckLeft before ≤ k → k < lckResumed before + 9 → before.rf lckCell &&& 0x04000 = 0))

/-- what an RF register holds after the clean-up -/
def rfCleaned (pageC1 : Bool) (restore : Option UInt32) (now : BitVec 20) : BitVec 20 :=
  match restore with
  | none => now
  | some value => LckRadio.serialWritten pageC1 value now

/-- the clean-up record puts everything back -/
def LckRecord (before : RadioRegisters) (cleanup : Rtl8812auLckCleanupState) (txPause : UInt8)
    (rfLck rfChnlbw : BitVec 20) : Prop :=
  cleanup.txPauseRestore.getD txPause = before.cells txPauseCell ∧
    rfCleaned before.pageC1 cleanup.rfLckRestore rfLck = before.rf lckCell ∧
    rfCleaned before.pageC1 cleanup.rfChnlbwRestore rfChnlbw = before.rf chnlbwCell

/-- after the failure: the clean-up puts everything back iff that transfer may fail -/
def LckSettled (before : RadioRegisters) (k : ℕ)
    (s : RegisterRun (FaultyDevice RadioRegisters) × Rtl8812auLckCleanupState) : Prop :=
  ∃ txPause rfLck rfChnlbw, Behind (LckRadio before txPause rfLck rfChnlbw) s.1.transport ∧
    (LckRecord before s.2 txPause rfLck rfChnlbw ↔ LckPutBack before k)

namespace LckRadio

/-- writing back a value that was read -/
theorem serialWritten_back {pageC1 : Bool} {value : UInt32} {old : BitVec 20} (hvalue : value.toNat = old.toNat)
    (now : BitVec 20) (hnow : pageC1 = true → now = old) : serialWritten pageC1 value now = old := by
  cases pageC1 with
  | true => exact hnow rfl
  | false =>
    apply BitVec.eq_of_toNat_eq
    rw [serialWritten, if_neg Bool.false_ne_true, BitVec.toNat_ofNat, hvalue, Nat.mod_eq_of_lt old.isLt]

theorem ofNat_toNat_eq (value : UInt32) : BitVec.ofNat 20 value.toNat = value.toBitVec.setWidth 20 := by
  apply BitVec.eq_of_toNat_eq
  rw [BitVec.toNat_ofNat, BitVec.toNat_setWidth]
  rfl

/-- a value that was read, as bits -/
theorem setWidth_of_toNat {value : UInt32} {bits : BitVec 20} (hvalue : value.toNat = bits.toNat) :
    value.toBitVec.setWidth 20 = bits := by
  rw [← ofNat_toNat_eq, hvalue, BitVec.ofNat_toNat, BitVec.setWidth_eq]

/-- leaving the mode gives the old value iff the mode was not set -/
theorem lck_left {pageC1 : Bool} {enter exit : UInt32} {old : BitVec 20} (henter : enter.toNat = old.toNat)
    (hexit : exit.toNat = (serialWritten pageC1 (enter ||| rfLckModeBit) old).toNat) :
    serialWritten pageC1 (exit &&& ~~~rfLckModeBit) (serialWritten pageC1 (enter ||| rfLckModeBit) old) = old ↔
      (pageC1 = false → old &&& 0x04000 = 0) := by
  cases pageC1 with
  | true => exact iff_of_true rfl nofun
  | false =>
    rw [serialWritten, if_neg Bool.false_ne_true, ofNat_toNat_eq] at hexit
    rw [serialWritten, if_neg Bool.false_ne_true, ofNat_toNat_eq, UInt32.toBitVec_and, BitVec.setWidth_and,
      setWidth_of_toNat hexit, UInt32.toBitVec_or, BitVec.setWidth_or, setWidth_of_toNat henter]
    have hmode : (~~~rfLckModeBit).toBitVec.setWidth 20 = ~~~0x04000#20 := by decide
    have hmode' : rfLckModeBit.toBitVec.setWidth 20 = 0x04000#20 := by decide
    rw [hmode, hmode', or_and_not, and_not_eq_iff]
    exact ⟨fun h _ => h, fun h => h rfl⟩

/-- the trigger leaves the old value iff it was set -/
theorem chnlbw_triggered {pageC1 : Bool} {before : UInt32} {old : BitVec 20} (hbefore : before.toNat = old.toNat) :
    serialWritten pageC1 (before ||| rfChnlbwLckTriggerBit) old = old ↔ (pageC1 = false → old &&& 0x08000 ≠ 0) := by
  cases pageC1 with
  | true => exact iff_of_true rfl nofun
  | false =>
    rw [serialWritten, if_neg Bool.false_ne_true, ofNat_toNat_eq, UInt32.toBitVec_or, BitVec.setWidth_or,
      setWidth_of_toNat hbefore]
    have htrigger : rfChnlbwLckTriggerBit.toBitVec.setWidth 20 = BitVec.twoPow 20 15 := by decide
    have htrigger' : (0x08000 : BitVec 20) = BitVec.twoPow 20 15 := by decide
    rw [htrigger, htrigger', or_twoPow_eq_iff _ (by decide)]
    exact ⟨fun h _ => h, fun h => h rfl⟩

end LckRadio

/-! ## The whole procedure -/

/-- the procedure in front of the failure -/
def LckAt (k i : ℕ) (P : RadioRegisters → Prop) (cleanup : Rtl8812auLckCleanupState)
    (s : RegisterRun (FaultyDevice RadioRegisters) × Rtl8812auLckCleanupState) : Prop :=
  Ahead k i P s.1.transport ∧ s.2 = cleanup

/-- if the failure is met, it is settled -/
def LckDoes {α : Type} (before : RadioRegisters) (k : ℕ)
    (P : RegisterRun (FaultyDevice RadioRegisters) × Rtl8812auLckCleanupState → Prop) (action : LckAction α)
    (Q : α → RegisterRun (FaultyDevice RadioRegisters) × Rtl8812auLckCleanupState → Prop) : Prop :=
  Triple P action.exec Q fun _ => LckSettled before k

namespace LckDoes

variable {α β : Type} {before : RadioRegisters} {k i j : ℕ} {record : Rtl8812auLckCleanupState}
  {P : RegisterRun (FaultyDevice RadioRegisters) × Rtl8812auLckCleanupState → Prop}

theorem pure {Q : α → RegisterRun (FaultyDevice RadioRegisters) × Rtl8812auLckCleanupState → Prop} {a : α}
    (h : ∀ s, P s → Q a s) : LckDoes before k P (Pure.pure a) Q := by
  rw [LckDoes, LckAction.exec_pure]
  exact Triple.pure h

theorem bind {Q : α → RegisterRun (FaultyDevice RadioRegisters) × Rtl8812auLckCleanupState → Prop}
    {R : β → RegisterRun (FaultyDevice RadioRegisters) × Rtl8812auLckCleanupState → Prop} {action : LckAction α}
    {f : α → LckAction β} (h : LckDoes before k P action Q) (hf : ∀ a, LckDoes before k (Q a) (f a) R) :
    LckDoes before k P (action >>= f) R := by
  rw [LckDoes, LckAction.exec_bind]
  exact Triple.bind h hf

theorem setCleanup {R : RadioRegisters → Prop} (g : Rtl8812auLckCleanupState → Rtl8812auLckCleanupState) :
    LckDoes before k (LckAt k i R record) (LckAction.setCleanup g) fun _ => LckAt k i R (g record) := by
  rw [LckDoes, LckAction.exec_setCleanup]
  apply Triple.modify
  rintro s ⟨hahead, rfl⟩
  exact ⟨hahead, rfl⟩

theorem cleanup {R : RadioRegisters → Prop} :
    LckDoes before k (LckAt k i R record) LckAction.cleanup fun a s => a = record ∧ LckAt k i R record s := by
  rw [LckDoes, LckAction.exec_cleanup]
  apply Triple.read
  rintro s ⟨hahead, rfl⟩
  exact ⟨rfl, hahead, rfl⟩

/-- a pure part of what is known about the registers -/
theorem assume {R : RadioRegisters → Prop} {φ : Prop} {action : LckAction α}
    {Q : α → RegisterRun (FaultyDevice RadioRegisters) × Rtl8812auLckCleanupState → Prop}
    (h : φ → LckDoes before k (LckAt k i R record) action Q) :
    LckDoes before k (LckAt k i (fun file => φ ∧ R file) record) action Q := by
  rintro s ⟨⟨hfailing, htransfers, hle, hφ, hR⟩, hcleanup⟩
  exact h hφ s ⟨⟨hfailing, htransfers, hle, hR⟩, hcleanup⟩

/-- register code; the failure is settled by the record so far -/
theorem lift {R : RadioRegisters → Prop} {Q : α → RadioRegisters → Prop} {E : FaultyDevice RadioRegisters → Prop}
    {action : RegisterAction α} (h : Handles (Ahead k i R) action (fun a => Ahead k j (Q a)) E)
    (hsettled : ∀ device, E device → ∃ txPause rfLck rfChnlbw,
      Behind (LckRadio before txPause rfLck rfChnlbw) device ∧
        (LckRecord before record txPause rfLck rfChnlbw ↔ LckPutBack before k)) :
    LckDoes before k (LckAt k i R record) (LckAction.lift action) fun a => LckAt k j (Q a) record := by
  rintro s ⟨hahead, rfl⟩
  have hact := h s.1 hahead
  rw [LckAction.exec_lift]
  rcases hrun : action.exec s.1 with ⟨error | a, s'⟩
  · rw [hrun] at hact
    exact hsettled _ hact
  · rw [hrun] at hact
    exact ⟨hact, rfl⟩

end LckDoes

section Whole

variable (registers : Rtl8812auRegisterAccess) (before : RadioRegisters) (k : ℕ)

/-- up to the transfer that leaves the mode, everything is put back -/
theorem lckPutBack_early {before : RadioRegisters} {k : ℕ} (h : k < lckLeft before) : LckPutBack before k := by
  have hresumed : lckLeft before ≤ lckResumed before := by
    rw [lckLeft, lckResumed]
    split <;> decide
  refine ⟨fun hle => ?_, fun _ => ⟨fun heq => ?_, fun hle => ?_⟩⟩
  · omega
  · omega
  · omega

/-- `REG_TXPAUSE` during the calibration -/
def lckPaused : UInt8 := if ContinuousTx before then before.cells txPauseCell else 0xff

def lckPauseRestore : Option UInt8 := if ContinuousTx before then none else some (before.cells txPauseCell)

theorem lckPauseRestore_getD : (lckPauseRestore before).getD (lckPaused before) = before.cells txPauseCell := by
  rw [lckPauseRestore, lckPaused]
  split
  · rfl
  · rfl

theorem does_lckPause {continuousTxActive : Bool} (hcontinuous : continuousTxActive = true ↔ ContinuousTx before)
    {i : ℕ} (hi : lckLeft before = i + 15) :
    LckDoes before k
      (LckAt k 6 (LckRadio before (before.cells txPauseCell) (before.rf lckCell) (before.rf chnlbwCell)) {})
      (lckPause registers continuousTxActive (before.cells txPauseCell))
      fun _ => LckAt k i (LckRadio before (lckPaused before) (before.rf lckCell) (before.rf chnlbwCell))
        { txPauseRestore := lckPauseRestore before } := by
  rw [lckPause]
  by_cases h : ContinuousTx before
  · rw [lckLeft, if_pos h] at hi
    rw [if_pos (hcontinuous.2 h), lckPaused, lckPauseRestore, if_pos h, if_pos h, show i = 6 by omega]
    exact LckDoes.pure fun _ hs => hs
  · have hleft : lckLeft before = 24 := if_neg h
    rw [if_neg fun hactive => h (hcontinuous.1 hactive), lckPaused, lckPauseRestore, if_neg h, if_neg h,
      show i = 9 by omega]
    apply LckDoes.bind (LckDoes.setCleanup _)
    intro _
    apply LckDoes.bind (Q := fun _ => _) (LckDoes.lift (ahead_txPause registers 0xff) ?_)
    · intro _
      exact LckDoes.pure fun _ hs => hs
    · rintro device (⟨hk, hbehind⟩ | ⟨hk, hbehind⟩)
      · exact ⟨_, _, _, hbehind, iff_of_true ⟨rfl, rfl, rfl⟩ (lckPutBack_early (by omega))⟩
      · exact ⟨_, _, _, hbehind, iff_of_true ⟨rfl, rfl, rfl⟩ (lckPutBack_early (by omega))⟩

/-- behind the calibration mode, a failure that leaves `REG_TXPAUSE` and `RF_CHNLBW` put back -/
theorem lckPutBack_late {before : RadioRegisters} {k : ℕ} {rfLck : BitVec 20}
    (hlck : rfLck = before.rf lckCell ↔ (before.pageC1 = false → before.rf lckCell &&& 0x04000 = 0))
    (hleft : lckLeft before ≤ k) (hresumed : k < lckResumed before + 9) (hk : k ≠ lckResumed before)
    (htx : k < lckLeft before + 2 → ContinuousTx before ∨ before.cells txPauseCell = 0xff) :
    rfLck = before.rf lckCell ↔ LckPutBack before k := by
  rw [hlck]
  constructor
  · intro hmode
    exact ⟨fun _ => htx, fun hpage => ⟨fun heq => absurd heq hk, fun _ _ => hmode hpage⟩⟩
  · rintro ⟨-, hrf⟩ hpage
    exact (hrf hpage).2 hleft hresumed

/-- resuming packet TX: its first two transfers leave it paused -/
theorem does_lckResume {rfLck rfChnlbw : BitVec 20} {rfChnlbwRestore : UInt32}
    (hlck : rfLck = before.rf lckCell ↔ (before.pageC1 = false → before.rf lckCell &&& 0x04000 = 0))
    (hchnlbw : rfCleaned before.pageC1 (some rfChnlbwRestore) rfChnlbw = before.rf chnlbwCell) :
    LckDoes before k
      (LckAt k (lckLeft before) (LckRadio before (lckPaused before) rfLck rfChnlbw)
        { txPauseRestore := lckPauseRestore before, rfChnlbwRestore := some rfChnlbwRestore })
      (lckResume registers)
      fun _ => LckAt k (lckResumed before) (LckRadio before (before.cells txPauseCell) rfLck rfChnlbw)
        { rfChnlbwRestore := some rfChnlbwRestore } := by
  apply LckDoes.bind LckDoes.cleanup
  rintro cleanup s ⟨rfl, hs⟩
  revert s
  apply LckDoes.bind (LckDoes.setCleanup _)
  intro _
  by_cases h : ContinuousTx before
  · have hleft : lckLeft before = 21 := if_pos h
    have hresumed : lckResumed before = 21 := if_pos h
    rw [lckPaused, lckPauseRestore, if_pos h, if_pos h, hleft, hresumed]
    exact LckDoes.pure fun _ hs => hs
  · have hleft : lckLeft before = 24 := if_neg h
    have hresumed : lckResumed before = 27 := if_neg h
    rw [lckPaused, lckPauseRestore, if_neg h, if_neg h, hleft, hresumed]
    apply LckDoes.bind (Q := fun _ => _) (LckDoes.lift (ahead_txPause registers _) ?_)
    · intro _
      exact LckDoes.pure fun _ hs => hs
    · rintro device (⟨hk, hbehind⟩ | ⟨hk, hbehind⟩)
      · refine ⟨_, _, _, hbehind, ?_⟩
        constructor
        · rintro ⟨htx, hlckBack, -⟩
          exact (lckPutBack_late hlck (by omega) (by omega) (by omega) fun _ => .inr htx.symm).1 hlckBack
        · intro hback
          have htx : before.cells txPauseCell = 0xff := (hback.1 (by omega) (by omega)).resolve_left h
          exact ⟨htx.symm, (lckPutBack_late hlck (by omega) (by omega) (by omega) fun _ => .inr htx).2 hback, hchnlbw⟩
      · refine ⟨_, _, _, hbehind, ?_⟩
        rw [← lckPutBack_late hlck (by omega) (by omega) (by omega) fun hlt => by omega]
        exact ⟨fun hrecord => hrecord.2.1, fun hlckBack => ⟨rfl, hlckBack, hchnlbw⟩⟩

/-! ### Before the calibration mode is left -/

section Early

variable {before k} {β : Type} {i : ℕ} {txPause : UInt8} {rfLck rfChnlbw value : BitVec 20}
  {record : Rtl8812auLckCleanupState}
  {R : β → RegisterRun (FaultyDevice RadioRegisters) × Rtl8812auLckCleanupState → Prop}

/-- the record puts back whatever was changed -/
theorem settled_early (hrecord : LckRecord before record txPause rfLck rfChnlbw) {device : FaultyDevice RadioRegisters}
    (hk : k < lckLeft before) (hbehind : Behind (LckRadio before txPause rfLck rfChnlbw) device) :
    ∃ txPause rfLck rfChnlbw, Behind (LckRadio before txPause rfLck rfChnlbw) device ∧
      (LckRecord before record txPause rfLck rfChnlbw ↔ LckPutBack before k) :=
  ⟨_, _, _, hbehind, iff_of_true hrecord (lckPutBack_early hk)⟩

theorem LckRadio.of_eq {file : RadioRegisters} (h : file = before) :
    LckRadio before (before.cells txPauseCell) (before.rf lckCell) (before.rf chnlbwCell) file :=
  h ▸ LckRadio.refl before

theorem does_continuousRead (hleft : 6 ≤ lckLeft before) {f : UInt32 → LckAction β}
    (hf : ∀ value, ((value &&& 0x00070000 != 0) = true ↔ ContinuousTx before) →
      LckDoes before k (LckAt k 1 (fun file => file = before) {}) (f value) R) :
    LckDoes before k (LckAt k 0 (fun file => file = before) {})
      (LckAction.lift
        (read32WithCounter registers regSingleToneContTxJaguar "REG_SINGLE_TONE_CONT_TX_JAGUAR" "lck") >>= f) R := by
  have hread : Handles (Ahead k 0 fun file => file = before)
      (read32WithCounter registers regSingleToneContTxJaguar "REG_SINGLE_TONE_CONT_TX_JAGUAR" "lck")
      (fun value => Ahead k 1 fun file =>
        value = before.wordAt before.pageC1 regSingleToneContTxJaguar ∧ file = before)
      fun device => k = 0 ∧ Behind (fun file => file = before) device := by
    apply Ahead.readWithCustomError (registers.read32_loads _)
    rintro file rfl
    exact file.loadValue_word rfl
  apply LckDoes.bind (LckDoes.lift hread fun device h =>
    settled_early ⟨rfl, rfl, rfl⟩ (by omega) ⟨h.2.1, LckRadio.of_eq h.2.2⟩)
  intro value
  apply LckDoes.assume
  intro hvalue
  apply hf
  rw [bne_iff_ne, hvalue]
  cases before.pageC1
  · exact Iff.rfl
  · exact Iff.rfl

theorem does_txPauseRead (hleft : 6 ≤ lckLeft before) {f : UInt8 → LckAction β}
    (hf : LckDoes before k
      (LckAt k 2 (LckRadio before (before.cells txPauseCell) (before.rf lckCell) (before.rf chnlbwCell)) {})
      (f (before.cells txPauseCell)) R) :
    LckDoes before k (LckAt k 1 (fun file => file = before) {})
      (LckAction.lift (read8WithCounter registers regTxpause "REG_TXPAUSE" "lck") >>= f) R := by
  have hread : Handles (Ahead k 1 fun file => file = before)
      (read8WithCounter registers regTxpause "REG_TXPAUSE" "lck")
      (fun value => Ahead k 2 fun file => value = before.cells txPauseCell ∧
        LckRadio before (before.cells txPauseCell) (before.rf lckCell) (before.rf chnlbwCell) file)
      fun device => k = 1 ∧ Behind (fun file => file = before) device := by
    apply Ahead.readWithCustomError (registers.read8_loads _)
    rintro file rfl
    obtain ⟨hvalue, hfile⟩ := file.loadValue_byte regTxpause
    refine ⟨hvalue.trans ?_, LckRadio.of_eq hfile⟩
    cases file.pageC1
    · rfl
    · rfl
  apply LckDoes.bind (LckDoes.lift hread fun device h =>
    settled_early ⟨rfl, rfl, rfl⟩ (by omega) ⟨h.2.1, LckRadio.of_eq h.2.2⟩)
  intro value
  apply LckDoes.assume
  rintro rfl
  exact hf

/-- a read of an RF register, which gives the value it holds -/
theorem does_earlyRead (rfOffset : UInt32)
    (hvalue : ∀ file, LckRadio before txPause rfLck rfChnlbw file →
      file.rf (.a, UInt8.ofNat (rfOffset &&& 0xff).toNat) = value)
    (hrecord : LckRecord before record txPause rfLck rfChnlbw) (hi : i + 4 ≤ lckLeft before)
    {f : Rtl8812auRfSerialReadReport → LckAction β}
    (hf : ∀ report, report.value.toNat = value.toNat →
      LckDoes before k (LckAt k (i + 4) (LckRadio before txPause rfLck rfChnlbw) record) (f report) R) :
    LckDoes before k (LckAt k i (LckRadio before txPause rfLck rfChnlbw) record)
      (LckAction.lift (rfSerialReadRegister registers .a rfOffset) >>= f) R := by
  apply LckDoes.bind (LckDoes.lift (ahead_rfRead registers rfOffset hvalue) fun device h =>
    settled_early hrecord (by omega) h.2)
  intro report
  apply LckDoes.assume
  exact hf report

theorem does_earlyLckWrite (data : UInt32) (hrecord : LckRecord before record txPause rfLck rfChnlbw)
    (hi : i + 1 ≤ lckLeft before) {f : Rtl8812auRfSerialWriteReport → LckAction β}
    (hf : ∀ report, LckDoes before k (LckAt k (i + 1)
      (LckRadio before txPause (LckRadio.serialWritten before.pageC1 data rfLck) rfChnlbw) record) (f report) R) :
    LckDoes before k (LckAt k i (LckRadio before txPause rfLck rfChnlbw) record)
      (LckAction.lift (rfSerialWriteSinglePath registers .a rfLckJaguar data) >>= f) R :=
  LckDoes.bind (LckDoes.lift (ahead_lckWrite registers data) fun _ h => settled_early hrecord (by omega) h.2) hf

theorem does_earlyChnlbwWrite (data : UInt32) (hrecord : LckRecord before record txPause rfLck rfChnlbw)
    (hi : i + 1 ≤ lckLeft before) {f : Rtl8812auRfSerialWriteReport → LckAction β}
    (hf : ∀ report, LckDoes before k (LckAt k (i + 1)
      (LckRadio before txPause rfLck (LckRadio.serialWritten before.pageC1 data rfChnlbw)) record) (f report) R) :
    LckDoes before k (LckAt k i (LckRadio before txPause rfLck rfChnlbw) record)
      (LckAction.lift (rfSerialWriteSinglePath registers .a rfChnlbwJaguar data) >>= f) R :=
  LckDoes.bind (LckDoes.lift (ahead_chnlbwWrite registers data) fun _ h => settled_early hrecord (by omega) h.2) hf

end Early

/-! ### Behind the calibration mode -/

theorem lckLeft_le_resumed : lckLeft before ≤ lckResumed before := by
  rw [lckLeft, lckResumed]
  split
  · exact le_rfl
  · decide

theorem lckResumed_or_continuous : lckLeft before + 2 ≤ lckResumed before ∨ ContinuousTx before := by
  rw [lckLeft, lckResumed]
  split
  · rename_i h
    exact .inr h
  · exact .inl (by decide)

variable {before k} in
/-- a failure behind the write that puts `RF_CHNLBW` back; the record is empty -/
theorem settled_late {rfLck rfChnlbw : BitVec 20}
    (hlck : rfLck = before.rf lckCell ↔ (before.pageC1 = false → before.rf lckCell &&& 0x04000 = 0))
    (hchnlbw : rfChnlbw = before.rf chnlbwCell) (hk : lckResumed before < k) (hk' : k < lckResumed before + 9)
    {device : FaultyDevice RadioRegisters}
    (h : Behind (LckRadio before (before.cells txPauseCell) rfLck rfChnlbw) device) :
    ∃ txPause rfLck rfChnlbw, Behind (LckRadio before txPause rfLck rfChnlbw) device ∧
      (LckRecord before {} txPause rfLck rfChnlbw ↔ LckPutBack before k) := by
  have hleft := lckLeft_le_resumed before
  refine ⟨_, _, _, h, ?_⟩
  rw [← lckPutBack_late hlck (by omega) hk' (by omega) fun hlt =>
    .inl ((lckResumed_or_continuous before).resolve_left (by omega))]
  exact ⟨fun hrecord => hrecord.2.1, fun hback => ⟨rfl, hback, hchnlbw⟩⟩

/-- `RF_CHNLBW` is put back with an empty record, and then both RF registers are read again -/
theorem does_lckPutBack {rfLck : BitVec 20} {beforeTrigger : UInt32}
    (hlck : rfLck = before.rf lckCell ↔ (before.pageC1 = false → before.rf lckCell &&& 0x04000 = 0))
    (hbefore : beforeTrigger.toNat = (before.rf chnlbwCell).toNat)
    (report : Rtl8812auRfSerialWriteReport → Rtl8812auRfSerialReadReport → Rtl8812auRfSerialReadReport →
      Rtl8812auLckCalibrationFullReport) :
    LckDoes before k
      (LckAt k (lckResumed before) (LckRadio before (before.cells txPauseCell) rfLck
        (LckRadio.serialWritten before.pageC1 (beforeTrigger ||| rfChnlbwLckTriggerBit) (before.rf chnlbwCell))) {})
      (do
        let rfChnlbwRestoreWrite ← LckAction.lift (rfSerialWriteSinglePath registers .a rfChnlbwJaguar beforeTrigger)
        let rfChnlbwAfterRestore ← LckAction.lift (rfSerialReadRegister registers .a rfChnlbwJaguar)
        let rfLckAfterExit ← LckAction.lift (rfSerialReadRegister registers .a rfLckJaguar)
        return report rfChnlbwRestoreWrite rfChnlbwAfterRestore rfLckAfterExit)
      fun _ _ => LckPutBack before k := by
  have hleft := lckLeft_le_resumed before
  have hresumed := lckResumed_or_continuous before
  have hback := LckRadio.serialWritten_back hbefore
    (LckRadio.serialWritten before.pageC1 (beforeTrigger ||| rfChnlbwLckTriggerBit) (before.rf chnlbwCell))
    fun hpage => if_pos hpage
  refine LckDoes.bind (LckDoes.lift (ahead_chnlbwWrite registers _) fun device h => ⟨_, _, _, h.2, ?_⟩)
    fun rfChnlbwRestoreWrite => ?_
  · have hk : k = lckResumed before := h.1
    have htriggered := @LckRadio.chnlbw_triggered before.pageC1 _ _ hbefore
    constructor
    · rintro ⟨-, hlckBack, hchnlbw⟩
      refine ⟨fun _ hlt => .inl (hresumed.resolve_left (by omega)), fun hpage => ⟨fun _ => ?_, fun _ _ => ?_⟩⟩
      · exact htriggered.1 hchnlbw hpage
      · exact hlck.1 hlckBack hpage
    · rintro ⟨-, hrf⟩
      exact ⟨rfl, hlck.2 fun hpage => (hrf hpage).2 (by omega) (by omega),
        htriggered.2 fun hpage => (hrf hpage).1 hk⟩
  apply LckDoes.bind (LckDoes.lift (ahead_rfRead registers rfChnlbwJaguar fun _ h => h.rfChnlbw) fun device h =>
    settled_late hlck hback (by omega) (by omega) h.2)
  intro rfChnlbwAfterRestore
  apply LckDoes.assume
  intro _
  apply LckDoes.bind (LckDoes.lift (ahead_rfRead registers rfLckJaguar fun _ h => h.rfLck) fun device h =>
    settled_late hlck hback (by omega) (by omega) h.2)
  intro rfLckAfterExit
  apply LckDoes.assume
  intro _
  apply LckDoes.pure
  rintro s ⟨⟨-, -, hle, -⟩, -⟩
  refine ⟨fun _ hlt => ?_, fun _ => ⟨fun heq => ?_, fun _ hlt => ?_⟩⟩
  · omega
  · omega
  · omega

/-- **The procedure.** Whichever transfer fails, what the record says settles it. -/
theorem does_lckInner :
    LckDoes before k (LckAt k 0 (fun file => file = before) {}) (runRtl8812auLckCalibrationInner registers)
      fun _ _ => LckPutBack before k := by
  obtain ⟨i, hi, hi6⟩ : ∃ i, lckLeft before = i + 15 ∧ 6 ≤ i := by
    rw [lckLeft]
    split
    · exact ⟨6, rfl, by decide⟩
    · exact ⟨9, rfl, by decide⟩
  apply does_continuousRead registers (by omega)
  intro continuousTxValue hcontinuous
  apply does_txPauseRead registers (by omega)
  apply does_earlyRead registers rfChnlbwJaguar (fun _ h => h.rfChnlbw) ⟨rfl, rfl, rfl⟩ (by omega)
  intro rfChnlbwBackup _
  apply LckDoes.bind (does_lckPause registers before k hcontinuous hi)
  intro txPauseWrite
  -- the calibration mode is entered
  apply does_earlyRead registers rfLckJaguar (fun _ h => h.rfLck) ⟨lckPauseRestore_getD before, rfl, rfl⟩ (by omega)
  intro rfLckBeforeEnter henter
  apply LckDoes.bind (LckDoes.setCleanup _)
  intro _
  refine does_earlyLckWrite registers _ ?_ (by omega) fun rfLckEnterWrite => ?_
  · exact ⟨lckPauseRestore_getD before, LckRadio.serialWritten_back henter _ fun _ => rfl, rfl⟩
  have hlckBack : rfCleaned before.pageC1 (some rfLckBeforeEnter.value)
      (LckRadio.serialWritten before.pageC1 (rfLckBeforeEnter.value ||| rfLckModeBit) (before.rf lckCell))
        = before.rf lckCell :=
    LckRadio.serialWritten_back henter _ fun hpage => if_pos hpage
  -- the calibration is triggered
  apply does_earlyRead registers rfChnlbwJaguar (fun _ h => h.rfChnlbw)
    ⟨lckPauseRestore_getD before, hlckBack, rfl⟩ (by omega)
  intro rfChnlbwBeforeTrigger hbefore
  apply LckDoes.bind (LckDoes.setCleanup _)
  intro _
  refine does_earlyChnlbwWrite registers _ ?_ (by omega) fun rfChnlbwTriggerWrite => ?_
  · exact ⟨lckPauseRestore_getD before, hlckBack, LckRadio.serialWritten_back hbefore _ fun _ => rfl⟩
  have hchnlbwBack : rfCleaned before.pageC1 (some rfChnlbwBeforeTrigger.value)
      (LckRadio.serialWritten before.pageC1 (rfChnlbwBeforeTrigger.value ||| rfChnlbwLckTriggerBit)
        (before.rf chnlbwCell)) = before.rf chnlbwCell :=
    LckRadio.serialWritten_back hbefore _ fun hpage => if_pos hpage
  -- the calibration mode is left; from here on the record does not know `RF_LCK` any more
  apply does_earlyRead registers rfLckJaguar (fun _ h => h.rfLck)
    ⟨lckPauseRestore_getD before, hlckBack, hchnlbwBack⟩ (by omega)
  intro rfLckBeforeExit hexit
  apply does_earlyLckWrite registers _ ⟨lckPauseRestore_getD before, hlckBack, hchnlbwBack⟩ (by omega)
  intro rfLckExitWrite
  have hlck := LckRadio.lck_left henter hexit
  apply LckDoes.bind (LckDoes.setCleanup _)
  intro _
  have hresume := does_lckResume registers before k hlck hchnlbwBack
  rw [hi] at hresume
  apply LckDoes.bind hresume
  intro txPauseRestore
  apply LckDoes.bind LckDoes.cleanup
  rintro cleanup s ⟨rfl, hs⟩
  revert s
  apply LckDoes.bind (LckDoes.setCleanup _)
  intro _
  exact does_lckPutBack registers before k hlck hbefore _

/-! ## The clean-up -/

theorem behind_cleanupWrite {α : Type} {P Q : RadioRegisters → Prop} {restore : Option α}
    {write : α → RegisterAction Unit} {failure : α → RuntimeRadioError → String}
    (hnone : restore = none → ∀ file, P file → Q file)
    (hsome : ∀ value, restore = some value → Handles (Behind P) (write value) (fun _ => Behind Q) fun _ => False) :
    Handles (Behind P) (lckCleanupWrite restore write failure) (fun _ => Behind Q) fun _ => False := by
  cases restore with
  | none => exact Handles.pure fun device h => ⟨h.1, hnone rfl _ h.2⟩
  | some value =>
    apply Handles.bind ((hsome value rfl).attempt (Q := fun _ => Behind Q) fun _ _ h => h.elim)
    rintro (_ | _)
    · exact Handles.pure fun _ h => h
    · exact Handles.pure fun _ h => h

theorem behind_cleanupRf {before : RadioRegisters} {txPause : UInt8} {rfLck rfChnlbw : BitVec 20}
    (registerName : String) (rfOffset : UInt32) (restore : Option UInt32) :
    Handles (Behind (LckRadio before txPause rfLck rfChnlbw)) (lckCleanupRf registers registerName rfOffset restore)
      (fun _ => Behind (LckRadio before txPause
        (if UInt8.ofNat rfOffset.toNat = lckCell.2 then rfCleaned before.pageC1 restore rfLck else rfLck)
        (if UInt8.ofNat rfOffset.toNat = chnlbwCell.2 then rfCleaned before.pageC1 restore rfChnlbw else rfChnlbw)))
      fun _ => False := by
  apply behind_cleanupWrite
  · rintro rfl file h
    simp only [rfCleaned, ite_self]
    exact h
  · rintro value rfl
    exact Behind.writeWithCustomError (registers.writeAll_stores _ .u32 _ rfl) _ fun _ h => h.store_serial rfOffset value

/-- what the record knows is put back -/
theorem behind_cleanup {txPause : UInt8} {rfLck rfChnlbw : BitVec 20} (cleanup : Rtl8812auLckCleanupState) :
    Handles (Behind (LckRadio before txPause rfLck rfChnlbw)) (cleanupRtl8812auLckAfterError registers cleanup)
      (fun _ => Behind (LckRadio before (cleanup.txPauseRestore.getD txPause)
        (rfCleaned before.pageC1 cleanup.rfLckRestore rfLck)
        (rfCleaned before.pageC1 cleanup.rfChnlbwRestore rfChnlbw)))
      fun _ => False := by
  apply Handles.bind (behind_cleanupRf registers "RF_LCK" rfLckJaguar cleanup.rfLckRestore)
  intro _
  apply Handles.bind (behind_cleanupRf registers "RF_CHNLBW" rfChnlbwJaguar cleanup.rfChnlbwRestore)
  intro _
  have htxPause : Handles (Behind (LckRadio before txPause (rfCleaned before.pageC1 cleanup.rfLckRestore rfLck)
        (rfCleaned before.pageC1 cleanup.rfChnlbwRestore rfChnlbw)))
      (lckCleanupWrite cleanup.txPauseRestore
        (fun value => write8WithCounter registers regTxpause value "REG_TXPAUSE" "lck-cleanup")
        fun value error =>
          s!"REG_TXPAUSE restore to {formatRegisterValue value.toNat 2} failed: {error.code}: {error.message}")
      (fun _ => Behind (LckRadio before (cleanup.txPauseRestore.getD txPause)
        (rfCleaned before.pageC1 cleanup.rfLckRestore rfLck)
        (rfCleaned before.pageC1 cleanup.rfChnlbwRestore rfChnlbw)))
      fun _ => False := by
    apply behind_cleanupWrite
    · intro hnone file h
      rw [hnone]
      exact h
    · intro value hsome
      rw [hsome]
      exact Behind.writeWithCustomError (registers.writeAll_stores _ .u8 [value] rfl) _ fun _ h => h.store_txPause value
  exact Handles.bind htxPause fun _ => Handles.pure fun _ h => h

/-! ## Failure atomicity -/

/-- a failed calibration leaves the three registers as they were -/
def LckFailureAtomic (start : RegisterRun (FaultyDevice RadioRegisters)) : Prop :=
  ∀ failure s', (runRtl8812auLckCalibration registers).exec start = (.error failure, s') →
    LckRestored start.transport.file s'.transport.file

/-- the device that holds `file` and whose transfer number `k` fails, no other -/
def oneFailure (file : RadioRegisters) (k : ℕ) (error : UsbError) : FaultyDevice RadioRegisters :=
  { file, failing := fun n => if n = k then some error else none }

/-- the outcome of the procedure -/
def LckOutcome (before : RadioRegisters) (k : ℕ)
    (outcome : Except RuntimeRadioError Rtl8812auLckCalibrationFullReport × Rtl8812auLckCleanupState)
    (device : FaultyDevice RadioRegisters) : Prop :=
  match outcome with
  | (.ok _, _) => LckPutBack before k
  | (.error _, cleanup) => ∃ txPause rfLck rfChnlbw, Behind (LckRadio before txPause rfLck rfChnlbw) device ∧
      (LckRecord before cleanup txPause rfLck rfChnlbw ↔ LckPutBack before k)

/-- the record comes with the outcome -/
theorem handles_start {α : Type} {action : LckAction α} {P E : FaultyDevice RadioRegisters → Prop}
    {Q : Except RuntimeRadioError α × Rtl8812auLckCleanupState → FaultyDevice RadioRegisters → Prop}
    (h : Triple (fun s : RegisterRun (FaultyDevice RadioRegisters) × Rtl8812auLckCleanupState =>
        P s.1.transport ∧ s.2 = {}) action.exec (fun a s => Q (.ok a, s.2) s.1.transport)
      fun error s => Q (.error error, s.2) s.1.transport) :
    Handles P action.start Q E := by
  intro s hs
  have hact := h (s, {}) ⟨hs, rfl⟩
  rw [LckAction.exec_start]
  rcases hrun : action.exec (s, {}) with ⟨error | a, s'⟩
  · rw [hrun] at hact
    exact hact
  · rw [hrun] at hact
    exact hact

/-- after a settled failure, the clean-up puts everything back iff that transfer may fail -/
theorem handles_lckFailed {txPause : UInt8} {rfLck rfChnlbw : BitVec 20} {cleanup : Rtl8812auLckCleanupState}
    {Q : Rtl8812auLckCalibrationFullReport → FaultyDevice RadioRegisters → Prop} (error : RuntimeRadioError)
    (hrecord : LckRecord before cleanup txPause rfLck rfChnlbw ↔ LckPutBack before k) :
    Handles (Behind (LckRadio before txPause rfLck rfChnlbw))
      (do
        let cleanupFailures ← cleanupRtl8812auLckAfterError registers cleanup
        if cleanupFailures = [] then .fail error
        else
          .fail { error with
            message := error.message ++ "; cleanup failures: " ++ String.intercalate "; " cleanupFailures })
      Q fun device => LckRestored before device.file ↔ LckPutBack before k := by
  refine Handles.bind ((behind_cleanup registers before cleanup).weaken (fun _ h => h) (fun _ _ h => h)
    fun _ h => h.elim) fun cleanupFailures => ?_
  have hrestored (device : FaultyDevice RadioRegisters)
      (h : Behind (LckRadio before (cleanup.txPauseRestore.getD txPause)
        (rfCleaned before.pageC1 cleanup.rfLckRestore rfLck)
        (rfCleaned before.pageC1 cleanup.rfChnlbwRestore rfChnlbw)) device) :
      LckRestored before device.file ↔ LckPutBack before k := by
    rw [← hrecord, LckRestored, h.2.txPause, h.2.rfLck, h.2.rfChnlbw]
    exact Iff.rfl
  split
  · exact Handles.fail _ hrestored
  · exact Handles.fail _ hrestored

theorem handles_lckCalibration :
    Handles (Ahead k 0 fun file => file = before) (runRtl8812auLckCalibration registers)
      (fun _ _ => LckPutBack before k) fun device => LckRestored before device.file ↔ LckPutBack before k := by
  apply Handles.bind Handles.counters
  intro counters
  have hstart : Handles (Ahead k 0 fun file => file = before) (runRtl8812auLckCalibrationInner registers).start
      (LckOutcome before k) fun _ => False :=
    handles_start (does_lckInner registers before k)
  refine Handles.bind (hstart.weaken (fun _ h => h) (fun _ _ h => h) fun _ h => h.elim) ?_
  rintro ⟨error | report, cleanup⟩
  · rintro s ⟨txPause, rfLck, rfChnlbw, hbehind, hrecord⟩
    exact handles_lckFailed registers before k (Q := fun _ _ => LckPutBack before k) error hrecord s hbehind
  · exact Handles.bind Handles.counters fun _ => Handles.pure fun _ h => h

/-- **Failure atomicity of the calibration.** -/
theorem lckFailureAtomic_iff (file : RadioRegisters) (k : ℕ) (error : UsbError) (counters : RuntimeRadioCounters) :
    LckFailureAtomic registers { transport := oneFailure file k error, counters } ↔ LckPutBack file k := by
  have hstart : Ahead k 0 (fun now => now = file) (oneFailure file k error) := by
    refine ⟨fun n => ?_, rfl, Nat.zero_le k, rfl⟩
    by_cases h : n = k
    · simp [oneFailure, h]
    · simp [oneFailure, h]
  have hrun := handles_lckCalibration registers file k { transport := oneFailure file k error, counters } hstart
  rw [LckFailureAtomic]
  rcases hexec : (runRtl8812auLckCalibration registers).exec
    { transport := oneFailure file k error, counters } with ⟨failure | report, s'⟩
  · rw [hexec] at hrun
    constructor
    · intro h
      exact hrun.1 (h failure s' rfl)
    · intro h failure' s'' heq
      cases heq
      exact hrun.2 h
  · rw [hexec] at hrun
    exact iff_of_true (fun _ _ heq => by cases heq) hrun

/-- a radio at rest: every register reads zero -/
def quietRadio : RadioRegisters := { cells := fun _ => 0, rf := fun _ => 0, answers := fun _ => 0 }

/-- the write that resumes packet TX fails after the record has forgotten the value -/
theorem txPause_kept_after_failure :
    ¬LckFailureAtomic {} { transport := oneFailure quietRadio 25 .deviceDisappeared, counters := {} } := by
  intro h
  have hfailed : (((runRtl8812auLckCalibration {}).exec
      { transport := oneFailure quietRadio 25 .deviceDisappeared, counters := {} }).1).isOk = false := by
    decide +kernel
  have hpaused : ((runRtl8812auLckCalibration {}).exec
      { transport := oneFailure quietRadio 25 .deviceDisappeared, counters := {} }).2.transport.file.cells txPauseCell
        = 0xff := by
    decide +kernel
  rcases hexec : (runRtl8812auLckCalibration {}).exec
    { transport := oneFailure quietRadio 25 .deviceDisappeared, counters := {} } with ⟨failure | report, s'⟩
  · obtain ⟨htx, -⟩ := h failure s' hexec
    rw [hexec] at hpaused
    rw [hpaused] at htx
    exact absurd htx (by decide)
  · rw [hexec] at hfailed
    exact absurd hfailed (by simp [Except.isOk, Except.toBool])

end Whole

end WfbLink.Runtime
