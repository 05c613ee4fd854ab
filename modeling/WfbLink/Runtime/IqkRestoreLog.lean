/-
What the restore of the runtime IQK attempts, and a whole round trip from backup to restore.

The restore makes its writes one after the other, whatever comes of each of them. Only a page select is a read first,
and a write of what was read; it is not written unless the read is answered.

- `completes_restore`: the transfers of a restore fall into the sections of its backup.
- `iqkRoundTrip_restores`: without failures, the round trip leaves the trigger and the serial ports changed only.
-/
import WfbLink.Runtime.IqkRestore
import WfbLink.Runtime.LckCalibration

namespace WfbLink.Runtime

open WfbLink.Core WfbLink.RadioCore

/-! ## Sections -/

/-- a page select whose read was not answered, or with its write -/
inductive PageSelected (pageC1 : Bool) : List RegisterTransfer → Prop where
  | unanswered {data : List UInt8} {result : Except UsbError ℕ}
      (h : ¬RegisterTransfer.Answered (.read regAgcTableJaguar data result)) :
      PageSelected pageC1 [.read regAgcTableJaguar data result]
  | written {data : List UInt8} {result result' : Except UsbError ℕ}
      (h : RegisterTransfer.Answered (.read regAgcTableJaguar data result)) :
      PageSelected pageC1 [.read regAgcTableJaguar data result,
        .write regAgcTableJaguar
          (toLeU32 (maskedValue (UInt32.ofNat (fromLeBytes data)) rtl8812aIqkPageC1SelectBit
            (if pageC1 then 1 else 0)).toNat) result']

/-- a write of `data`, whatever came of it -/
def Wrote (address : UInt16) (data : List UInt8) (t : RegisterTransfer) : Prop := ∃ result, t = .write address data result

/-- every value of a group, written to its register -/
def GroupWritten (backups : List Rtl8812auRegisterReadReport) (transfers : List RegisterTransfer) : Prop :=
  List.Forall₂ (fun backup => Wrote backup.address (toLeU32 backup.value.toNat)) backups transfers

/-- every value of a group, written to the port of its path -/
def RfGroupWritten (path : RadioPath) (backups : List Rtl8812auRfSerialReadReport) (transfers : List RegisterTransfer) :
    Prop :=
  List.Forall₂ (fun backup => Wrote (serialRegister path)
    (toLeU32 (encodeRfSerialWrite backup.rfOffset (backup.value &&& rfRegisterOffsetMask)).toNat)) backups transfers

/-- a write, and a read unless it failed -/
def CheckedWritten (address : UInt16) (data : List UInt8) (transfers : List RegisterTransfer) : Prop :=
  ∃ t later, transfers = t :: later ∧ Wrote address data t ∧
    (later = [] ∨ ∃ data' result, later = [.read address data' result])

/-- the sections of a restore, in their order -/
def restoreSections (backup : Rtl8812auRuntimeIqkBackupReport) : List (List RegisterTransfer → Prop) :=
  [PageSelected false, RfGroupWritten .a backup.rfBackupPathA, RfGroupWritten .b backup.rfBackupPathB,
    PageSelected false, GroupWritten backup.afeBackup,
    PageSelected true, GroupWritten backup.pageC1Latches,
    PageSelected false, GroupWritten backup.macbbBackup,
    CheckedWritten backup.hssiReadRegister.address (toLeU32 backup.hssiReadRegister.value.toNat),
    CheckedWritten backup.pageSelectRegister.address (toLeU32 backup.pageSelectRegister.value.toNat),
    CheckedWritten backup.txPauseRegister.address [backup.txPauseRegister.value.toUInt8]]

/-! ## What the steps attempt -/

section Attempts

variable {τ α : Type} [Rtl8812auUsbTransport τ] (registers : Rtl8812auRegisterAccess)

/-- a step that notes its failure leaves what it attempts -/
theorem completes_restoreStep {action : RegisterAction α} {kind : List RegisterTransfer → Prop}
    (h : LeavesLog τ action fun _ => kind) (failure : RuntimeRadioError → String) (failures : List String) :
    Completes τ (restoreStep action failure failures) fun _ => kind := by
  apply (Completes.attempt h).bind
  rintro (error | a) earlier hkind
  · exact Completes.pure (by rwa [List.append_nil])
  · exact Completes.pure (by rwa [List.append_nil])

theorem leaves_selectPage (pageC1 : Bool) :
    LeavesLog τ (rtl8812auIqkSelectPage registers pageC1) fun _ => PageSelected pageC1 := by
  apply LeavesLog.mapError
  unfold bbSetBbReg
  rw [if_neg (by decide), if_neg (by decide)]
  have hread : LeavesLog τ (read32WithCounter registers regAgcTableJaguar "REG_AGC_TABLE_JAGUAR" "bb-set")
      fun outcome transfers => ∃ data result, transfers = [.read regAgcTableJaguar data result] ∧
        (∀ value, outcome = .ok value → value = UInt32.ofNat (fromLeBytes data)) ∧
        (outcome.isOk = true ↔ RegisterTransfer.Answered (.read regAgcTableJaguar data result)) :=
    LeavesLog.read32 registers _ _ fun _ data result hvalue hanswered => ⟨data, result, rfl, hvalue, hanswered⟩
  apply LeavesLog.bind hread
  · rintro value _ ⟨data, result, rfl, hvalue, hanswered⟩
    obtain rfl := hvalue value rfl
    exact LeavesLog.writeAll registers _ .u32 _ rfl _ fun _ _ => .written (hanswered.1 rfl)
  · rintro error _ ⟨data, result, rfl, -, hanswered⟩
    exact .unanswered fun h => Bool.false_ne_true (hanswered.2 h)

theorem completes_restoreSelectPage (pageC1 : Bool) (failures : List String) :
    Completes τ (restoreSelectPage registers pageC1 failures) fun _ => PageSelected pageC1 := by
  apply (completes_restoreStep (leaves_selectPage registers pageC1) _ failures).bind
  rintro ⟨done, failures⟩ earlier hkind
  exact Completes.pure (by rwa [List.append_nil])

/-- one write -/
theorem leaves_restoreWrite32 (backup : Rtl8812auRegisterReadReport) :
    LeavesLog τ (restoreWrite32 registers backup) fun _ transfers =>
      ∃ t, transfers = [t] ∧ Wrote backup.address (toLeU32 backup.value.toNat) t :=
  LeavesLog.writeAll registers _ .u32 _ rfl _ fun _ result => ⟨_, rfl, result, rfl⟩

theorem leaves_restoreRf (path : RadioPath) (backup : Rtl8812auRfSerialReadReport) :
    LeavesLog τ (rfSerialWriteSinglePath registers (rfPathOf path) backup.rfOffset backup.value) fun _ transfers =>
      ∃ t, transfers = [t] ∧ Wrote (serialRegister path)
        (toLeU32 (encodeRfSerialWrite backup.rfOffset (backup.value &&& rfRegisterOffsetMask)).toNat) t := by
  have hto (target : RfSerialWriteTarget) (htarget : target.bbRegister = serialRegister path) :
      LeavesLog τ (rfSerialWriteTo registers backup.rfOffset backup.value target) fun _ transfers =>
        ∃ t, transfers = [t] ∧ Wrote (serialRegister path)
          (toLeU32 (encodeRfSerialWrite backup.rfOffset (backup.value &&& rfRegisterOffsetMask)).toNat) t := by
    apply LeavesLog.counters_bind
    intro before
    rw [← htarget]
    apply (LeavesLog.writeAll registers _ .u32 _ rfl _ fun _ result => ⟨_, rfl, result, rfl⟩).bind_silent
    intro _
    apply LeavesLog.counters_bind
    intro counters
    exact LeavesLog.pure rfl
  cases path with
  | a => exact (hto rfSerialTargetA rfl).bind_silent fun _ => LeavesLog.pure rfl
  | b => exact (hto rfSerialTargetB rfl).bind_silent fun _ => LeavesLog.pure rfl

/-- the rest of a group comes after its first write -/
theorem completes_restoreGroup (groupName : String) (backups : List Rtl8812auRegisterReadReport)
    (failures : List String) :
    Completes τ (restoreRuntimeIqkRegisterGroup registers groupName backups failures) fun _ => GroupWritten backups := by
  induction backups generalizing failures with
  | nil => exact Completes.pure .nil
  | cons backup backups ih =>
    apply (completes_restoreStep (leaves_restoreWrite32 registers backup) _ failures).bind
    rintro ⟨done, failures⟩ _ ⟨t, rfl, ht⟩
    apply (ih failures).bind
    rintro ⟨restored, failures⟩ later hlater
    exact Completes.pure (by rw [List.append_nil]; exact .cons ht hlater)

theorem completes_restoreRfGroup (path : RadioPath) (backups : List Rtl8812auRfSerialReadReport)
    (failures : List String) :
    Completes τ (restoreRuntimeIqkRfGroup registers (rfPathOf path) backups failures) fun _ =>
      RfGroupWritten path backups := by
  induction backups generalizing failures with
  | nil => exact Completes.pure .nil
  | cons backup backups ih =>
    apply (completes_restoreStep (leaves_restoreRf registers path backup) _ failures).bind
    rintro ⟨done, failures⟩ _ ⟨t, rfl, ht⟩
    apply (ih failures).bind
    rintro ⟨restored, failures⟩ later hlater
    exact Completes.pure (by rw [List.append_nil]; exact .cons ht hlater)

/-- the read only comes after a write that went through -/
theorem completes_restoreChecked {address : UInt16} {data : List UInt8} {name : String} {digits : ℕ} {value : UInt32}
    {write : RegisterAction Unit} {readBack : RegisterAction UInt32}
    (hwrite : LeavesLog τ write fun _ transfers => ∃ t, transfers = [t] ∧ Wrote address data t)
    (hread : LeavesLog τ readBack fun _ transfers => ∃ data' result, transfers = [.read address data' result])
    (failures : List String) :
    Completes τ (restoreChecked name digits value write readBack failures) fun _ => CheckedWritten address data := by
  apply (Completes.attempt hwrite).bind
  rintro (error | ⟨⟩) _ ⟨t, rfl, ht⟩
  · exact Completes.pure ⟨t, [], rfl, ht, .inl rfl⟩
  · apply (Completes.attempt hread).bind
    rintro (error | after) later hlater
    · exact Completes.pure ⟨t, later ++ [], rfl, ht, .inr (by rwa [List.append_nil])⟩
    · dsimp only
      split
      · exact Completes.pure ⟨t, later ++ [], rfl, ht, .inr (by rwa [List.append_nil])⟩
      · exact Completes.pure ⟨t, later ++ [], rfl, ht, .inr (by rwa [List.append_nil])⟩

theorem completes_restoreChecked32 (backup : Rtl8812auRegisterReadReport) (failures : List String) :
    Completes τ (restoreChecked32 registers backup failures) fun _ =>
      CheckedWritten backup.address (toLeU32 backup.value.toNat) :=
  completes_restoreChecked (leaves_restoreWrite32 registers backup)
    (LeavesLog.read32 registers _ _ fun _ data result _ _ => ⟨data, result, rfl⟩) failures

theorem completes_restoreChecked8 (backup : Rtl8812auRegisterReadReport) (failures : List String) :
    Completes τ (restoreChecked8 registers backup failures) fun _ =>
      CheckedWritten backup.address [backup.value.toUInt8] := by
  apply completes_restoreChecked
  · exact LeavesLog.writeAll registers _ .u8 _ rfl _ fun _ result => ⟨_, rfl, result, rfl⟩
  · have hread : LeavesLog τ (read8WithCounter registers backup.address backup.registerName "runtime-iqk-restore")
        fun _ transfers => ∃ data' result, transfers = [.read backup.address data' result] :=
      LeavesLog.read8 registers _ _ fun _ data result _ _ => ⟨data, result, rfl⟩
    apply LeavesLog.bind hread
    · intro after earlier hearlier
      exact LeavesLog.pure (by rwa [List.append_nil])
    · intro error transfers h
      exact h

/-- **Every write is attempted.** The restore comes to an end, whatever is answered. -/
theorem completes_restore (backup : Rtl8812auRuntimeIqkBackupReport) :
    Completes τ (restoreRtl8812auRuntimeIqkBackup registers backup) fun cleanup transfers =>
      (cleanup.status = "restored" ↔ cleanup.failures = []) ∧ Sections (restoreSections backup) transfers := by
  apply (Completes.counters (P := fun _ transfers => transfers = []) fun _ => rfl).bind
  rintro before _ rfl
  apply Completes.section_bind (completes_restoreSelectPage registers false [])
  intro failures
  apply Completes.section_bind (completes_restoreRfGroup registers .a backup.rfBackupPathA failures)
  rintro ⟨rfPathARestoreCount, failures⟩
  apply Completes.section_bind (completes_restoreRfGroup registers .b backup.rfBackupPathB failures)
  rintro ⟨rfPathBRestoreCount, failures⟩
  apply Completes.section_bind (completes_restoreSelectPage registers false failures)
  intro failures
  apply Completes.section_bind (completes_restoreGroup registers "AFE" backup.afeBackup failures)
  rintro ⟨afeRestoreCount, failures⟩
  apply Completes.section_bind (completes_restoreSelectPage registers true failures)
  intro failures
  apply Completes.section_bind (completes_restoreGroup registers "page-C1 latch" backup.pageC1Latches failures)
  rintro ⟨pageC1LatchRestoreCount, failures⟩
  apply Completes.section_bind (completes_restoreSelectPage registers false failures)
  intro failures
  apply Completes.section_bind (completes_restoreGroup registers "MAC/BB" backup.macbbBackup failures)
  rintro ⟨macbbRestoreCount, failures⟩
  apply Completes.section_bind (completes_restoreChecked32 registers backup.hssiReadRegister failures)
  rintro ⟨hssiReadRestored, failures⟩
  apply Completes.section_bind (completes_restoreChecked32 registers backup.pageSelectRegister failures)
  rintro ⟨pageSelectRestored, failures⟩
  apply Completes.section_bind (completes_restoreChecked8 registers backup.txPauseRegister failures)
  rintro ⟨txPauseRestored, failures⟩
  apply (Completes.counters (P := fun _ transfers => transfers = []) fun _ => rfl).bind
  rintro counters _ rfl
  refine Completes.pure ⟨?_, rfl⟩
  dsimp only
  split
  · rename_i hnone
    exact iff_of_true rfl hnone
  · rename_i hsome
    exact iff_of_false (by decide) hsome

end Attempts

/-! ## Without failures -/

/-- without failing transfers, the action never fails -/
def Sure {α : Type} (action : RegisterAction α) : Prop :=
  Acts False (fun _ : RadioRegisters => True) action (fun _ _ => True) fun _ => False

namespace Sure

variable {α β : Type} {action : RegisterAction α} {f : α → RegisterAction β} (registers : Rtl8812auRegisterAccess)

theorem pure (a : α) : Sure (Pure.pure a) := Acts.pure fun _ _ => trivial

theorem bind (h : Sure action) (hf : ∀ a, Sure (f a)) : Sure (action >>= f) := Acts.bind h hf

theorem counters : Sure RegisterAction.counters := Acts.counters

theorem mapError (h : Sure action) (g : RuntimeRadioError → RuntimeRadioError) : Sure (action.mapError g) :=
  Acts.mapError h g

theorem read32 (address : UInt16) (registerName phase : String) :
    Sure (read32WithCounter registers address registerName phase) :=
  Acts.readWithCustomError (registers.read32_loads address) _ False.elim fun _ _ => trivial

theorem read8 (address : UInt16) (registerName phase : String) :
    Sure (read8WithCounter registers address registerName phase) :=
  Acts.readWithCustomError (registers.read8_loads address) _ False.elim fun _ _ => trivial

theorem write32 (address : UInt16) (value : UInt32) (registerName phase : String) :
    Sure (write32WithCounter registers address value registerName phase) :=
  Acts.writeWithCustomError (registers.writeAll_stores address .u32 _ rfl) _ False.elim fun _ _ => trivial

theorem bbSet (address : UInt16) (bitmask data : UInt32) (registerName : String) :
    Sure (bbSetBbReg registers address bitmask data registerName) := by
  unfold bbSetBbReg
  split
  · exact write32 registers address data registerName "bb-set"
  · split
    · exact pure ()
    · exact bind (read32 registers address registerName "bb-set") fun _ => write32 registers address _ registerName "bb-set"

theorem selectPage (pageC1 : Bool) : Sure (rtl8812auIqkSelectPage registers pageC1) :=
  mapError (bbSet registers _ _ _ _) _

theorem rfRead (path : RadioPath) (rfOffset : UInt32) :
    Sure (rfSerialReadRegister registers (rfPathOf path) rfOffset) := by
  have hfrom (target : RfSerialReadTarget) : Sure (rfSerialReadFrom registers rfOffset target) := by
    apply bind counters
    intro before
    apply bind (read32 registers _ _ _)
    intro piModeValue
    apply bind (bbSet registers _ _ _ _)
    intro _
    apply bind (read32 registers _ _ _)
    intro value
    exact bind counters fun _ => pure _
  cases path with
  | a => exact hfrom rfSerialReadTargetA
  | b => exact hfrom rfSerialReadTargetB

theorem read32Group (specs : List Rtl8812auRegisterReadSpec) : Sure (rtl8812auIqkRead32Group registers specs) := by
  induction specs with
  | nil => exact pure []
  | cons spec specs ih => exact bind (read32 registers _ _ _) fun value => bind ih fun reports => pure _

theorem rfBackupReads (path : RadioPath) (offsets : List UInt32) :
    Sure (rtl8812auIqkRfBackupReadsOf registers (rfPathOf path) offsets) := by
  induction offsets with
  | nil => exact pure []
  | cons rfOffset offsets ih => exact bind (rfRead registers path rfOffset) fun report => bind ih fun reports => pure _

theorem backup : Sure (runRtl8812auRuntimeIqkBackup registers) := by
  have hread32 (spec : Rtl8812auRegisterReadSpec) : Sure (iqkBackupRead32 registers spec) :=
    bind (mapError (read32 registers _ _ _) _) fun _ => pure _
  have hread8 (spec : Rtl8812auRegisterReadSpec) : Sure (iqkBackupRead8 registers spec) :=
    bind (mapError (read8 registers _ _ _) _) fun _ => pure _
  apply bind (hread32 _)
  intro hssiReadRegister
  apply bind (hread32 _)
  intro pageSelectRegister
  apply bind (hread8 _)
  intro txPauseRegister
  apply bind (selectPage registers false)
  intro _
  apply bind (read32Group registers _)
  intro macbbBackup
  apply bind (selectPage registers true)
  intro _
  apply bind (read32Group registers _)
  intro pageC1Latches
  apply bind (selectPage registers false)
  intro _
  apply bind (read32Group registers _)
  intro afeBackup
  apply bind (rfBackupReads registers .a _)
  intro rfBackupPathA
  apply bind (rfBackupReads registers .b _)
  intro rfBackupPathB
  exact pure _

end Sure

/-! ## The round trip -/

theorem selectors_subset : iqkSelectors ⊆ iqkWords := by
  intro c hc
  rcases List.mem_cons.1 hc with rfl | hc
  · exact hssi_mem_iqkWords
  · rw [List.mem_singleton.1 hc]
    exact agc_mem_iqkWords

section RoundTrip

variable (registers : Rtl8812auRegisterAccess)

/-- backup, set-up and one-shots, restore -/
def iqkRoundTrip (channel : Channel) (rfeType : UInt8) : RegisterAction Rtl8812auRuntimeIqkCleanupReport := do
  let backup ← runRtl8812auRuntimeIqkBackup registers
  let _ ← (iqkDisturb registers channel rfeType).attempt
  restoreRtl8812auRuntimeIqkBackup registers backup

/-- **Round trip.** Nothing but the trigger and the serial ports is left changed. -/
theorem acts_roundTrip (before : RadioRegisters) (channel : Channel) (rfeType : UInt8) :
    Acts False (fun file => file = before) (iqkRoundTrip registers channel rfeType)
      (fun cleanup file => cleanup.status = "restored" ∧ SameBut iqkScratch [] before file) fun _ => False := by
  have hbackup : Acts False (fun file => file = before) (runRtl8812auRuntimeIqkBackup registers)
      (fun backup file => BackupOf before backup ∧ RadioFrame before iqkSelectors [] false file) fun _ => False :=
    ((acts_backup registers).and (Sure.backup registers)).weaken (fun _ h => ⟨h, trivial⟩) (fun _ _ h => h.1)
      fun _ h => h.2
  apply Acts.bind hbackup
  intro backup
  apply Acts.assume
  intro hvalues
  have hstart (file : RadioRegisters) (h : RadioFrame before iqkSelectors [] false file) :
      RadioFrame before iqkWords iqkRfs false file :=
    ⟨h.page, h.same.mono selectors_subset (List.nil_subset _)⟩
  have hdisturb : Acts False (RadioFrame before iqkSelectors [] false) (iqkDisturb registers channel rfeType)
      (fun _ => SameBut iqkWords iqkRfs before) (SameBut iqkWords iqkRfs before) :=
    Acts.weaken (keeps_disturb registers channel rfeType) hstart (fun _ _ h => h.same) fun _ h => h
  apply Acts.bind (Q := fun _ => SameBut iqkWords iqkRfs before) (hdisturb.attempt fun _ _ h => h)
  intro _
  refine (acts_restore registers hvalues).weaken (fun _ h => h) (fun cleanup file h => ?_) fun _ h => h
  have hnone : cleanup.failures = [] := h.2.1.resolve_left id
  exact ⟨h.1.2 hnone, (h.2.2 hnone).same⟩

/-! ## Reports -/

/-- the report says what became of the restore -/
structure CleanupReported (report : Rtl8812auRuntimeIqkCalibrationFullReport) : Prop where
  status : report.cleanupStatus = report.cleanup.status
  restored : report.cleanup.status = "restored" ↔ report.cleanup.failures = []

variable {τ : Type} [Rtl8812auUsbTransport τ]

theorem reported_sweep (channel : Channel) (rfeType : UInt8) :
    OkLogs τ (runRtl8812auRuntimeIqkCalibrationSweep registers channel rfeType) fun report _ =>
      CleanupReported report := by
  apply OkLogs.after
  intro beforeCounters
  apply OkLogs.after
  intro prologue
  apply OkLogs.after
  intro result
  apply (completes_restore registers prologue.backup).okLogs.bind
  intro cleanup
  apply OkLogs.weaken (P := fun report _ => report.cleanup = cleanup ∧ report.cleanupStatus = cleanup.status)
  · cases result with
    | error error => exact OkLogs.fail _
    | ok stages =>
      apply OkLogs.after
      rintro ⟨fillCount, stages⟩
      apply OkLogs.after
      intro afterIqkRegisters
      apply OkLogs.after
      intro affectedRegisters
      apply OkLogs.after
      intro counters
      exact OkLogs.pure ⟨rfl, rfl⟩
  · rintro report _ ⟨hcleanup, hstatus⟩ _ ⟨hrestored, -⟩
    rw [← hcleanup] at hstatus hrestored
    exact ⟨hstatus, hrestored⟩

/-- the report of several sweeps is the report of one of them -/
theorem reported_sweeps (channel : Channel) (rfeType : UInt8) (before : RuntimeRadioCounters) (maxSweeps left : ℕ)
    (sweepIndex : ℕ) (summaries : List Rtl8812auRuntimeIqkSweepSummaryReport)
    {last : Option Rtl8812auRuntimeIqkCalibrationFullReport} (hlast : ∀ report ∈ last, CleanupReported report) :
    OkLogs τ (iqkSweeps registers channel rfeType before maxSweeps left sweepIndex summaries last) fun report _ =>
      CleanupReported report := by
  induction left generalizing sweepIndex summaries last with
  | zero =>
    cases last with
    | none => exact OkLogs.fail _
    | some report => exact OkLogs.pure (hlast report rfl)
  | succ left ih =>
    apply (reported_sweep registers channel rfeType).bind
    intro report
    have hnumbered (index : UInt8) (summaries : List Rtl8812auRuntimeIqkSweepSummaryReport)
        (counters : RuntimeRadioCounters) (h : CleanupReported report) :
        CleanupReported (iqkNumbered report index (UInt8.ofNat maxSweeps) summaries counters) := ⟨h.status, h.restored⟩
    by_cases hreport : CleanupReported report
    · refine OkLogs.weaken (P := fun report _ => CleanupReported report) ?_ fun _ _ h _ _ => h
      apply OkLogs.after
      intro counters
      dsimp only
      split
      · exact OkLogs.pure (hnumbered _ _ _ hreport)
      · apply ih
        rintro _ ⟨⟩
        exact hnumbered _ _ _ hreport
    · exact (OkLogs.any _).weaken fun _ _ _ _ h => absurd h hreport

theorem reported_calibration (channel : Channel) (rfeType : UInt8) (maxSweeps : ℕ) :
    OkLogs τ (runIqkCalibrationSweeps registers channel rfeType maxSweeps) fun report _ => CleanupReported report := by
  apply OkLogs.after
  intro before
  exact reported_sweeps registers channel rfeType before maxSweeps maxSweeps 1 [] fun report h =>
    absurd h (Option.not_mem_none report)

/-- **The check before TX.** It passes no report of a restore with failures. -/
theorem ready_restored {report : Rtl8812auRuntimeIqkCalibrationFullReport} (hreported : CleanupReported report)
    {profile : Rtl8812auTxCalibrationProfileReport}
    (hprofile : profile.runtimeIqk = some report.toRtl8812auRuntimeIqkCalibrationReport)
    (hready : validateProductionRuntimeTxCalibrationProfileReadyForTx profile = .ok ()) :
    report.cleanup.status = "restored" ∧ report.cleanup.failures = [] := by
  obtain ⟨hstatus, -, -⟩ := (readyForTx_iff profile).1 hready profile rfl _ hprofile
  have hrestored : report.cleanup.status = "restored" := hreported.status.symm.trans hstatus
  exact ⟨hrestored, hreported.restored.1 hrestored⟩

/-! ## Restore completeness -/

/-- the device that holds `file`, and whose transfers never fail -/
def noFailure (file : RadioRegisters) : FaultyDevice RadioRegisters := { file, failing := fun _ => none }

/-- **Restore completeness.** Without failures, a round trip leaves the trigger and the serial ports changed only; in any
case, all values are written back, and the check before TX knows whether they were. -/
theorem iqkRestore_complete :
    (∀ file counters channel rfeType, ∃ cleanup s',
      (iqkRoundTrip registers channel rfeType).exec { transport := noFailure file, counters } = (.ok cleanup, s') ∧
        cleanup.status = "restored" ∧ SameBut iqkScratch [] file s'.transport.file) ∧
      (∀ (τ : Type) [Rtl8812auUsbTransport τ] (backup : Rtl8812auRuntimeIqkBackupReport) (s : RegisterRun τ),
        ∃ cleanup s', (restoreRtl8812auRuntimeIqkBackup registers backup).exec s.logged = (.ok cleanup, s') ∧
          (cleanup.status = "restored" ↔ cleanup.failures = []) ∧ Sections (restoreSections backup) (runLog s')) ∧
      ∀ (τ : Type) [Rtl8812auUsbTransport τ] (channel : Channel) (rfeType : UInt8) (maxSweeps : ℕ) (s s' : RegisterRun τ)
        (report : Rtl8812auRuntimeIqkCalibrationFullReport) (profile : Rtl8812auTxCalibrationProfileReport),
        ((runRtl8812auRuntimeIqkCalibrationSweep registers channel rfeType).exec s = (.ok report, s') ∨
          (runIqkCalibrationSweeps registers channel rfeType maxSweeps).exec s = (.ok report, s')) →
        profile.runtimeIqk = some report.toRtl8812auRuntimeIqkCalibrationReport →
        validateProductionRuntimeTxCalibrationProfileReadyForTx profile = .ok () →
        report.cleanup.status = "restored" ∧ report.cleanup.failures = [] := by
  refine ⟨fun file counters channel rfeType => ?_, fun τ _ backup s => ?_, ?_⟩
  · have hstart : Sound False (fun now => now = file) (noFailure file) := ⟨.inr fun _ _ => rfl, rfl⟩
    exact (acts_roundTrip registers file channel rfeType).succeeds hstart
  · exact (completes_restore registers backup).returns s
  · intro τ _ channel rfeType maxSweeps s s' report profile hrun hprofile hready
    refine ready_restored ?_ hprofile hready
    rcases hrun with hrun | hrun
    · exact (reported_sweep registers channel rfeType).returned hrun
    · exact (reported_calibration registers channel rfeType maxSweeps).returned hrun

/-- a radio that answers every read with the same word, whatever is written -/
structure SteadyRadio where
  word : UInt32

instance : Rtl8812auUsbTransport SteadyRadio where
  readVendor {n} radio _ _ data _ := (.ok n, data.fill (toLeU32 radio.word.toNat), radio)
  writeVendor radio _ _ data _ := (.ok data.length, radio)

/-- a sweep that finds the result ports ready at once, with the same candidate on every path -/
def steadySweep : Except RuntimeRadioError Rtl8812auRuntimeIqkCalibrationFullReport × RegisterRun SteadyRadio :=
  (runRtl8812auRuntimeIqkCalibrationSweep {} ⟨36, 5180, .ghz5⟩ 0).exec { transport := ⟨0x02000400⟩, counters := {} }

theorem steadySweep_completes :
    steadySweep.1.toOption.any (fun report =>
      report.status = "completed" ∧ report.cleanupStatus = "restored" ∧ report.selectedIqcFillApplied = true) = true := by
  decide +kernel

/-- the profile of a sweep that was made for channel 36 -/
def sweptProfile (report : Rtl8812auRuntimeIqkCalibrationFullReport) : Rtl8812auTxCalibrationProfileReport where
  profile := .rtl8812aRuntimeIqk
  channel := 36
  bandwidthMhz := 20
  registerCount := 0
  writes := []
  lck := none
  runtimeIqk := some report.toRtl8812auRuntimeIqkCalibrationReport

theorem iqkRestore_complete_sample :
    ∃ report s', steadySweep = (.ok report, s') ∧
      validateProductionRuntimeTxCalibrationProfileReadyForTx (sweptProfile report) = .ok () ∧
      report.cleanup.status = "restored" ∧ report.cleanup.failures = [] := by
  have hcompletes := steadySweep_completes
  rcases hsweep : steadySweep with ⟨result, s'⟩
  rw [hsweep] at hcompletes
  cases result with
  | error error => cases hcompletes
  | ok report =>
    obtain ⟨hstatus, hcleanup, hfill⟩ := of_decide_eq_true hcompletes
    have hready : validateProductionRuntimeTxCalibrationProfileReadyForTx (sweptProfile report) = .ok () := by
      rw [readyForTx_iff]
      rintro profile ⟨⟩ iqk ⟨⟩
      exact ⟨hcleanup, hstatus, hfill⟩
    exact ⟨report, s', rfl, hready, (iqkRestore_complete {}).2.2 SteadyRadio ⟨36, 5180, .ghz5⟩ 0 1 _ s' report _
      (.inl hsweep) rfl hready⟩

/-! ## One failure -/

def isWrite : RegisterTransfer → Bool
  | .read _ _ _ => false
  | .write _ _ _ => true

/-- four page selects, the groups, and the three registers that are checked -/
def restoreWrites (backup : Rtl8812auRuntimeIqkBackupReport) : ℕ :=
  4 + backup.rfBackupPathA.length + backup.rfBackupPathB.length + backup.afeBackup.length + backup.pageC1Latches.length
    + backup.macbbBackup.length + 3

/-- how many writes the restore attempts if its transfer number `k` fails -/
def attemptedWrites (backup : Rtl8812auRuntimeIqkBackupReport) (s : RegisterRun (FaultyDevice RadioRegisters)) (k : ℕ) :
    ℕ :=
  let start : RegisterRun (FaultyDevice RadioRegisters) :=
    { s with transport := oneFailure s.transport.file k .deviceDisappeared }
  (runLog ((restoreRtl8812auRuntimeIqkBackup {} backup).exec start.logged).2).countP isWrite

/-- what a serial read of an RF register reports -/
def rfReadReport (target : RfSerialReadTarget) (rfOffset value : UInt32) : Rtl8812auRfSerialReadReport where
  registerName := rfRegisterDisplayName rfOffset
  path := target.path
  pathName := target.pathName
  rfOffset
  piModeRegisterName := target.piModeRegisterName
  piModeRegister := target.piModeRegister
  piModeValue := 0
  piMode := false
  readbackRegisterName := (target.readback false).1
  readbackRegister := (target.readback false).2
  value
  counters := {}

/-- a backup with a value in every group -/
def sampleBackup : Rtl8812auRuntimeIqkBackupReport where
  hssiReadRegister := registerReadReport iqkHssiSpec "u32" 0x00000018
  pageSelectRegister := registerReadReport iqkPageSelectSpec "u32" 0x002083dd
  txPauseRegister := registerReadReport iqkTxPauseSpec "u8" 0
  macbbBackup := [registerReadReport ("REG_BCN_CTRL", regBcnCtrl) "u32" 0x00001810]
  afeBackup := [registerReadReport ("R_0xc5c", regIqkAfeAC5c) "u32" 0x0d000058]
  rfBackupPathA := [rfReadReport rfSerialReadTargetA rfIqkModeJaguar 0x80000]
  rfBackupPathB := [rfReadReport rfSerialReadTargetB rfIqkModeJaguar 0x80000]
  pageC1Latches := [registerReadReport ("R_0xc80_page_c1", regIqkTxToneAC80) "u32" 0x18008c10]

/-- a page select whose read fails is not attempted -/
theorem pageSelect_not_attempted : ¬∀ backup s k, attemptedWrites backup s k = restoreWrites backup := by
  intro h
  have hskipped : attemptedWrites sampleBackup { transport := noFailure quietRadio, counters := {} } 0 = 11 := by
    decide +kernel
  rw [h] at hskipped
  exact absurd hskipped (by decide)

end RoundTrip

end WfbLink.Runtime
