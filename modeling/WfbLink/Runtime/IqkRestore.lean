/-
The backup of the runtime IQK, and what restoring it gives back.

The backup reads every word on the page that it is written on. The restore writes them back group by group: as long as
no failure is noted, the words of a group leave the frame with the group.

- `acts_backup`: the values of the backup are those from before it, which has selected a page and an RF register since.
- `acts_restore`: unless a failure is noted, the restore gives back all but the trigger and the serial ports.
-/
import WfbLink.Runtime.IqkFrame

namespace WfbLink.Runtime

open WfbLink.Core WfbLink.RadioCore

/-! ## What a backup says -/

/-- the value of a backup; of `REG_AGC_TABLE`, which says the page, only that it says page C -/
structure BackupValue (before : RadioRegisters) (pageC1 : Bool) (spec : Rtl8812auRegisterReadSpec)
    (report : Rtl8812auRegisterReadReport) : Prop where
  address : report.address = spec.2
  agc : spec.2 = regAgcTableJaguar → report.value &&& 0x80000000 = 0
  value : spec.2 ≠ regAgcTableJaguar → report.value = before.wordAt pageC1 spec.2

structure RfBackupValue (before : RadioRegisters) (path : RadioPath) (rfOffset : UInt32)
    (report : Rtl8812auRfSerialReadReport) : Prop where
  offset : report.rfOffset = rfOffset
  value : report.value.toNat = (before.rf (offsetCell path rfOffset)).toNat

/-- every value of the backup is the one from before -/
structure BackupOf (before : RadioRegisters) (backup : Rtl8812auRuntimeIqkBackupReport) : Prop where
  hssi : backup.hssiReadRegister = registerReadReport iqkHssiSpec "u32" (before.wordAt false regHssiReadJaguar)
  pageSelect :
    backup.pageSelectRegister = registerReadReport iqkPageSelectSpec "u32" (before.wordAt false regAgcTableJaguar)
  txPause :
    backup.txPauseRegister = registerReadReport iqkTxPauseSpec "u8" (before.cells (false, regTxpause)).toUInt32
  macbb : List.Forall₂ (BackupValue before false) rtl8812aIqkMacbbBackupRegisters backup.macbbBackup
  latches : List.Forall₂ (BackupValue before true) rtl8812aIqkPageC1LatchRegisters backup.pageC1Latches
  afe : List.Forall₂ (BackupValue before false) rtl8812aIqkAfeBackupRegisters backup.afeBackup
  rfA : List.Forall₂ (RfBackupValue before .a) rtl8812aIqkRfBackupOffsets backup.rfBackupPathA
  rfB : List.Forall₂ (RfBackupValue before .b) rtl8812aIqkRfBackupOffsets backup.rfBackupPathB

/-- what the backup itself changes: the page, and the RF register that is read -/
def iqkSelectors : List Cell := [(false, 0x08b0), agcWord]

section Restore

variable {faults : Prop} {before : RadioRegisters} (registers : Rtl8812auRegisterAccess)

/-! ## Backup -/

/-- a register that can be backed up on a page -/
def Backable (page : Bool) (spec : Rtl8812auRegisterReadSpec) : Prop :=
  spec.2.toNat % 4 = 0 ∧ readPort spec.2 = none ∧ writePort page spec.2 = none ∧
    (if spec.2 = regAgcTableJaguar then page = false
    else wordOf (place page spec.2) ∉ iqkSelectors ∧ wordOf (place page spec.2) ≠ agcWord)

instance (address : UInt16) : Decidable (readPort address = none) :=
  decidable_of_iff (readPort address |>.isNone) Option.isNone_iff_eq_none

instance (page : Bool) (spec : Rtl8812auRegisterReadSpec) : Decidable (Backable page spec) :=
  inferInstanceAs (Decidable (_ ∧ _ ∧ _ ∧ _))

theorem backable_macbb : ∀ spec ∈ rtl8812aIqkMacbbBackupRegisters, Backable false spec := by decide +kernel

theorem backable_latches : ∀ spec ∈ rtl8812aIqkPageC1LatchRegisters, Backable true spec := by decide +kernel

theorem backable_afe : ∀ spec ∈ rtl8812aIqkAfeBackupRegisters, Backable false spec := by decide +kernel

theorem acts_read32Group {page : Bool} {specs : List Rtl8812auRegisterReadSpec} (h : ∀ spec ∈ specs, Backable page spec) :
    Acts faults (RadioFrame before iqkSelectors [] page) (rtl8812auIqkRead32Group registers specs)
      (fun reports file => List.Forall₂ (BackupValue before page) specs reports ∧
        RadioFrame before iqkSelectors [] page file)
      (SameBut iqkSelectors [] before) := by
  induction specs with
  | nil => exact Acts.pure fun file hf => ⟨.nil, hf⟩
  | cons spec specs ih =>
    obtain ⟨haligned, hport, -, hspec⟩ := h spec List.mem_cons_self
    have hread : Acts faults (RadioFrame before iqkSelectors [] page)
        (read32WithCounter registers spec.2 spec.1 "runtime-iqk-backup")
        (fun value file => BackupValue before page spec (registerReadReport spec "u32" value) ∧
          RadioFrame before iqkSelectors [] page file)
        (SameBut iqkSelectors [] before) := by
      refine Acts.readWithCustomError (registers.read32_loads _) _ (fun _ _ hf => hf.same) fun file hf => ?_
      refine ⟨⟨rfl, fun hagc => ?_, fun hagc => ?_⟩, hf.load _ _⟩
      · rw [if_pos hagc] at hspec
        rw [hagc]
        have hagcPort : readPort regAgcTableJaguar = none := rfl
        change UInt32.ofNat (loadValue regAgcTableJaguar 4 file).1 &&& 0x80000000 = 0
        rw [(file.loadValue_word hagcPort).1]
        exact (wordAt_agc file file.pageC1).2 (hf.page.trans hspec)
      · rw [if_neg hagc] at hspec
        exact hf.loadValue_word hport haligned hspec.1
    apply Acts.bind hread
    intro value
    apply Acts.assume
    intro hvalue
    apply Acts.bind (ih fun spec' hmem => h spec' (List.mem_cons_of_mem _ hmem))
    intro reports
    exact Acts.pure fun file hf => ⟨.cons hvalue hf.1, hf.2⟩

theorem acts_rfBackupReadsOf (path : RadioPath) {offsets : List UInt32}
    (h : ∀ rfOffset ∈ offsets, rfOffset &&& 0xff = rfOffset) :
    Acts faults (RadioFrame before iqkSelectors [] false) (rtl8812auIqkRfBackupReadsOf registers (rfPathOf path) offsets)
      (fun reports file => List.Forall₂ (RfBackupValue before path) offsets reports ∧
        RadioFrame before iqkSelectors [] false file)
      (SameBut iqkSelectors [] before) := by
  induction offsets with
  | nil => exact Acts.pure fun file hf => ⟨.nil, hf⟩
  | cons rfOffset offsets ih =>
    have hoffset := h rfOffset List.mem_cons_self
    refine Acts.bind ((Keeps.rfRead_value registers path rfOffset (by decide)).weaken (fun _ hf => hf)
      (fun report file hf => ?_ : ∀ report file, _ → RfBackupValue before path rfOffset report ∧
        RadioFrame before iqkSelectors [] false file) fun _ hf => hf) fun report => ?_
    · rw [hoffset] at hf
      exact ⟨⟨hf.1.1, hf.1.2 List.not_mem_nil⟩, hf.2⟩
    · apply Acts.assume
      intro hvalue
      apply Acts.bind (ih fun rfOffset' hmem => h rfOffset' (List.mem_cons_of_mem _ hmem))
      intro reports
      exact Acts.pure fun file hf => ⟨.cons hvalue hf.1, hf.2⟩

theorem offsets_masked : ∀ rfOffset ∈ rtl8812aIqkRfBackupOffsets, rfOffset &&& 0xff = rfOffset := by decide

/-- a read on whatever page is selected changes nothing -/
theorem acts_backupRead32 {spec : Rtl8812auRegisterReadSpec} (hport : readPort spec.2 = none)
    (hpage : before.wordAt before.pageC1 spec.2 = before.wordAt false spec.2) :
    Acts faults (fun file => file = before) (iqkBackupRead32 registers spec)
      (fun report file => report = registerReadReport spec "u32" (before.wordAt false spec.2) ∧ file = before)
      (fun file => file = before) := by
  have hread : Acts faults (fun file => file = before)
      (read32WithCounter registers spec.2 spec.1 "runtime-iqk-backup")
      (fun value file => value = before.wordAt false spec.2 ∧ file = before) (fun file => file = before) := by
    refine Acts.readWithCustomError (registers.read32_loads _) _ (fun _ _ h => h) ?_
    rintro file rfl
    obtain ⟨hvalue, hfile⟩ := file.loadValue_word hport
    exact ⟨hvalue.trans hpage, hfile⟩
  apply Acts.bind (hread.mapError _)
  intro value
  exact Acts.pure fun file h => ⟨by rw [h.1], h.2⟩

theorem acts_backupRead8 :
    Acts faults (fun file => file = before) (iqkBackupRead8 registers iqkTxPauseSpec)
      (fun report file => report = registerReadReport iqkTxPauseSpec "u8" (before.cells (false, regTxpause)).toUInt32 ∧
        file = before)
      (fun file => file = before) := by
  have hread : Acts faults (fun file => file = before)
      (read8WithCounter registers iqkTxPauseSpec.2 iqkTxPauseSpec.1 "runtime-iqk-backup")
      (fun value file => value = before.cells (false, regTxpause) ∧ file = before) (fun file => file = before) := by
    refine Acts.readWithCustomError (registers.read8_loads _) _ (fun _ _ h => h) ?_
    rintro file rfl
    obtain ⟨hvalue, hfile⟩ := file.loadValue_byte iqkTxPauseSpec.2
    refine ⟨hvalue.trans ?_, hfile⟩
    cases file.pageC1 <;> rfl
  apply Acts.bind (hread.mapError _)
  intro value
  exact Acts.pure fun file h => ⟨by rw [h.1], h.2⟩

theorem wordAt_hssi (file : RadioRegisters) (pageC1 : Bool) :
    file.wordAt pageC1 regHssiReadJaguar = file.wordAt false regHssiReadJaguar := by
  cases pageC1 <;> rfl

theorem wordAt_agcTable (file : RadioRegisters) (pageC1 : Bool) :
    file.wordAt pageC1 regAgcTableJaguar = file.wordAt false regAgcTableJaguar := by
  cases pageC1 <;> rfl

/-- **Backup.** Its values are those from before, and it leaves page C selected. -/
theorem acts_backup :
    Acts faults (fun file => file = before) (runRtl8812auRuntimeIqkBackup registers)
      (fun backup file => BackupOf before backup ∧ RadioFrame before iqkSelectors [] false file)
      (SameBut iqkSelectors [] before) := by
  have hsame {file : RadioRegisters} (h : file = before) : SameBut iqkSelectors [] before file := h ▸ .refl _ _ _
  have hhssiPort : readPort iqkHssiSpec.2 = none := rfl
  have hagcPort : readPort iqkPageSelectSpec.2 = none := rfl
  refine Acts.bind ((acts_backupRead32 registers hhssiPort (wordAt_hssi before _)).weaken (fun _ h => h) (fun _ _ h => h)
    fun _ h => hsame h) fun hssiReadRegister => ?_
  apply Acts.assume
  rintro rfl
  refine Acts.bind ((acts_backupRead32 registers hagcPort (wordAt_agcTable before _)).weaken (fun _ h => h) (fun _ _ h => h)
    fun _ h => hsame h) fun pageSelectRegister => ?_
  apply Acts.assume
  rintro rfl
  refine Acts.bind ((acts_backupRead8 registers).weaken (fun _ h => h) (fun _ _ h => h) fun _ h => hsame h)
    fun txPauseRegister => ?_
  apply Acts.assume
  rintro rfl
  have hagc : agcWord ∈ iqkSelectors := by decide
  have hselect : Acts faults (fun file => file = before) (rtl8812auIqkSelectPage registers false)
      (fun _ => RadioFrame before iqkSelectors [] false) (SameBut iqkSelectors [] before) := by
    have hkeeps : Keeps faults before iqkSelectors [] before.pageC1 false (rtl8812auIqkSelectPage registers false) :=
      keeps_selectPage registers hagc
    exact hkeeps.weaken (fun file h => ⟨congrArg _ h, hsame h⟩) (fun _ _ h => h) fun _ h => h
  apply Acts.bind hselect
  intro _
  apply Acts.bind (acts_read32Group registers backable_macbb)
  intro macbbBackup
  apply Acts.assume
  intro hmacbb
  apply Acts.bind (keeps_selectPage registers hagc)
  intro _
  apply Acts.bind (acts_read32Group registers backable_latches)
  intro pageC1Latches
  apply Acts.assume
  intro hlatches
  apply Acts.bind (keeps_selectPage registers hagc)
  intro _
  apply Acts.bind (acts_read32Group registers backable_afe)
  intro afeBackup
  apply Acts.assume
  intro hafe
  apply Acts.bind (acts_rfBackupReadsOf registers .a offsets_masked)
  intro rfBackupPathA
  apply Acts.assume
  intro hrfA
  apply Acts.bind (acts_rfBackupReadsOf registers .b offsets_masked)
  intro rfBackupPathB
  apply Acts.assume
  intro hrfB
  exact Acts.pure fun file h =>
    ⟨{ hssi := rfl, pageSelect := rfl, txPause := rfl, macbb := hmacbb, latches := hlatches, afe := hafe,
       rfA := hrfA, rfB := hrfB }, h⟩

/-! ## Steps of the restore -/

/-- as long as no failure is noted; without faults, none is -/
def Intact (faults : Prop) (failures : List String) (P : RadioRegisters → Prop) (file : RadioRegisters) : Prop :=
  (faults ∨ failures = []) ∧ (failures = [] → P file)

section Intact

variable {α : Type} {P Q E : RadioRegisters → Prop} {failures : List String}

theorem acts_of_faults (hfaults : faults) (action : RegisterAction α) :
    Acts faults P action (fun _ _ => True) fun _ => True := by
  intro s hs
  rcases action.exec s with ⟨error | a, s'⟩
  · exact ⟨.inl hfaults, trivial⟩
  · exact ⟨.inl hfaults, trivial⟩

theorem noted_ne_nil (text : String) : ¬failures ++ [text] = [] := by simp

/-- a failure that was noted stays noted -/
theorem acts_of_noted {action : RegisterAction (α × List String)} (hnoted : ¬failures = [])
    (h : faults → Acts faults (fun _ : RadioRegisters => True) action (fun out _ => ¬out.2 = []) fun _ => False) :
    Acts faults (Intact faults failures P) action (fun out => Intact faults out.2 Q) fun _ => False := by
  rintro s ⟨hsound, hintact⟩
  have hfaults : faults := hintact.1.resolve_right hnoted
  have hkept : Acts faults (fun _ : RadioRegisters => True) action (fun out => Intact faults out.2 Q) fun _ => False :=
    (h hfaults).weaken (fun _ h => h) (fun _ _ hne => ⟨.inl hfaults, fun heq => absurd heq hne⟩) fun _ hf => hf
  exact hkept s ⟨hsound, trivial⟩

/-- a step that notes its failure -/
theorem acts_restoreStep {action : RegisterAction α} {failure : RuntimeRadioError → String}
    (h : Acts faults P action (fun _ => Q) fun _ => faults) :
    Acts faults (Intact faults failures P) (restoreStep action failure failures)
      (fun out => Intact faults out.2 Q) fun _ => False := by
  by_cases hnone : failures = []
  · subst hnone
    apply Acts.bind (h.weaken (fun _ hf => hf.2 rfl) (fun _ _ hq => hq) fun _ hf => hf).attempted
    rintro (error | a)
    · exact Acts.pure fun file hf => ⟨.inl hf, fun h => absurd h (noted_ne_nil _)⟩
    · exact Acts.pure fun file hq => ⟨.inr rfl, fun _ => hq⟩
  · apply acts_of_noted hnone
    intro hfaults
    apply Acts.bind (Q := fun _ _ => True) (Acts.attempt (acts_of_faults hfaults action) fun _ _ _ => trivial)
    rintro (error | a)
    · exact Acts.pure fun _ _ => noted_ne_nil _
    · exact Acts.pure fun _ _ => hnone

/-- a value that is written and read again -/
theorem acts_restoreChecked {name : String} {digits : ℕ} {value : UInt32} {write : RegisterAction Unit}
    {readBack : RegisterAction UInt32} (hwrite : Acts faults P write (fun _ => Q) fun _ => faults)
    (hread : Acts faults Q readBack (fun after file => after = value ∧ Q file) fun _ => faults) :
    Acts faults (Intact faults failures P) (restoreChecked name digits value write readBack failures)
      (fun out => Intact faults out.2 Q) fun _ => False := by
  by_cases hnone : failures = []
  · subst hnone
    apply Acts.bind (hwrite.weaken (fun _ hf => hf.2 rfl) (fun _ _ hq => hq) fun _ hf => hf).attempted
    rintro (error | _)
    · exact Acts.pure fun file hf => ⟨.inl hf, fun h => absurd h (noted_ne_nil _)⟩
    · apply Acts.bind hread.attempted
      rintro (error | after)
      · exact Acts.pure fun file hf => ⟨.inl hf, fun h => absurd h (noted_ne_nil _)⟩
      · apply Acts.assume
        rintro rfl
        dsimp only
        rw [if_pos rfl]
        exact Acts.pure fun file hq => ⟨.inr rfl, fun _ => hq⟩
  · apply acts_of_noted hnone
    intro hfaults
    apply Acts.bind (Q := fun _ _ => True) (Acts.attempt (acts_of_faults hfaults write) fun _ _ _ => trivial)
    rintro (error | _)
    · exact Acts.pure fun _ _ => noted_ne_nil _
    · apply Acts.bind (Q := fun _ _ => True) (Acts.attempt (acts_of_faults hfaults readBack) fun _ _ _ => trivial)
      rintro (error | after)
      · exact Acts.pure fun _ _ => noted_ne_nil _
      · dsimp only
        split
        · exact Acts.pure fun _ _ => hnone
        · exact Acts.pure fun _ _ => noted_ne_nil _

end Intact

/-! ## Groups -/

section Groups

variable {words : List Cell} {rfs : List RfCell} {page : Bool}

/-- a word that gets its old value back leaves the frame -/
theorem acts_restoreWrite32 {spec : Rtl8812auRegisterReadSpec} {backup : Rtl8812auRegisterReadReport}
    (hspec : Backable page spec) (hagc : agcWord ∈ words) (hvalue : BackupValue before page spec backup) :
    Acts faults (RadioFrame before (wordOf (place page spec.2) :: words) rfs page) (restoreWrite32 registers backup)
      (fun _ => RadioFrame before words rfs page) fun _ => faults := by
  obtain ⟨haligned, -, hport, hplace⟩ := hspec
  unfold restoreWrite32
  rw [hvalue.address]
  by_cases hselect : spec.2 = regAgcTableJaguar
  · rw [if_pos hselect] at hplace
    subst hplace
    rw [hselect]
    have hpage : decide (backup.value &&& 0x80000000 ≠ 0) = false := by
      rw [decide_eq_false_iff_not, not_not]
      exact hvalue.agc hselect
    have hwrite : Acts faults (SameBut words rfs before)
        (write32WithCounter registers regAgcTableJaguar backup.value backup.registerName "runtime-iqk-restore")
        (fun _ => RadioFrame before words rfs false) fun _ => faults :=
      Acts.writeAgc registers _ _ hagc hpage fun hf _ _ => hf
    refine hwrite.weaken (fun file h => h.same.mono (fun c hc => ?_) fun _ hr => hr) (fun _ _ h => h) fun _ h => h
    rcases List.mem_cons.1 hc with rfl | hc
    · exact hagc
    · exact hc
  · rw [if_neg hselect] at hplace
    rw [hvalue.value hselect]
    refine Acts.writeWithCustomError (registers.writeAll_stores _ .u32 _ rfl) _ (fun hf _ _ => hf) fun file h => ?_
    have hpage := h.page
    constructor
    · rw [file.store_pageC1 (by rw [toLeU32_length]; omega) (by rw [hpage]; exact hplace.2), hpage]
    · rw [← hpage] at h hport ⊢
      exact h.same.restore haligned hport

theorem acts_restoreGroup (groupName : String) {specs : List Rtl8812auRegisterReadSpec}
    {backups : List Rtl8812auRegisterReadReport} (hspecs : ∀ spec ∈ specs, Backable page spec) (hagc : agcWord ∈ words)
    (hvalues : List.Forall₂ (BackupValue before page) specs backups) (failures : List String) :
    Acts faults (Intact faults failures (RadioFrame before (specWords page specs ++ words) rfs page))
      (restoreRuntimeIqkRegisterGroup registers groupName backups failures)
      (fun out => Intact faults out.2 (RadioFrame before words rfs page)) fun _ => False := by
  induction hvalues generalizing failures with
  | nil => exact Acts.pure fun _ h => h
  | cons hvalue hvalues ih =>
    apply Acts.bind (acts_restoreStep (acts_restoreWrite32 registers (hspecs _ List.mem_cons_self)
      (List.mem_append_right _ hagc) hvalue))
    rintro ⟨done, failures⟩
    apply Acts.bind (ih (fun spec hmem => hspecs spec (List.mem_cons_of_mem _ hmem)) failures)
    rintro ⟨restored, failures⟩
    exact Acts.pure fun _ h => h

/-- an RF register that gets its old value back leaves the frame -/
theorem acts_restoreRf {path : RadioPath} {rfOffset : UInt32} {backup : Rtl8812auRfSerialReadReport}
    (hword : (false, serialRegister path) ∈ words) (hvalue : RfBackupValue before path rfOffset backup) :
    Acts faults (RadioFrame before words (offsetCell path rfOffset :: rfs) false)
      (rfSerialWriteSinglePath registers (rfPathOf path) backup.rfOffset backup.value)
      (fun _ => RadioFrame before words rfs false) fun _ => faults := by
  rw [hvalue.offset]
  refine Acts.rfWrite registers path _ _ (fun hf _ _ => hf) fun file h => ?_
  have hpage := h.page
  have hplace : wordOf (place file.pageC1 (serialRegister path)) = (false, serialRegister path) := by
    rw [hpage, serialRegister_place, serialRegister_word]
  constructor
  · rw [serialStore, file.store_pageC1 _ _, hpage]
    · rw [serialRegister_aligned, toLeU32_length]
    · rw [hplace]
      cases path <;> decide
  · have hdata : serialData (encodeRfSerialWrite rfOffset (backup.value &&& rfRegisterOffsetMask))
        = before.rf (offsetCell path rfOffset) := by
      rw [serialData_encode]
      apply BitVec.eq_of_toNat_eq
      have hmask : (backup.value &&& rfRegisterOffsetMask).toNat = backup.value.toNat % 2 ^ 20 :=
        (UInt32.toNat_and _ _).trans (Nat.and_two_pow_sub_one_eq_mod _ 20)
      rw [BitVec.toNat_ofNat, hmask, Nat.mod_mod, hvalue.value, Nat.mod_eq_of_lt (BitVec.isLt _)]
    apply h.same.restoreRf (serialRegister_aligned path)
    · rwa [hplace]
    · rw [hpage]
      exact serialRegister_port path
    · exact serialOffset_masked rfOffset backup.value
    · exact hdata

theorem acts_restoreRfGroup {path : RadioPath} {offsets : List UInt32} {backups : List Rtl8812auRfSerialReadReport}
    (hword : (false, serialRegister path) ∈ words)
    (hvalues : List.Forall₂ (RfBackupValue before path) offsets backups) (failures : List String) :
    Acts faults (Intact faults failures (RadioFrame before words (offsets.map (offsetCell path) ++ rfs) false))
      (restoreRuntimeIqkRfGroup registers (rfPathOf path) backups failures)
      (fun out => Intact faults out.2 (RadioFrame before words rfs false)) fun _ => False := by
  induction hvalues generalizing failures with
  | nil => exact Acts.pure fun _ h => h
  | cons hvalue hvalues ih =>
    apply Acts.bind (acts_restoreStep (acts_restoreRf registers hword hvalue))
    rintro ⟨done, failures⟩
    apply Acts.bind (ih failures)
    rintro ⟨restored, failures⟩
    exact Acts.pure fun _ h => h

theorem acts_restoreSelectPage {page' : Bool} (hagc : agcWord ∈ words) (failures : List String) :
    Acts faults (Intact faults failures (SameBut words rfs before)) (restoreSelectPage registers page' failures)
      (fun failures => Intact faults failures (RadioFrame before words rfs page')) fun _ => False := by
  have hselect : Acts faults (SameBut words rfs before) (rtl8812auIqkSelectPage registers page')
      (fun _ => RadioFrame before words rfs page') fun _ => faults := by
    apply Acts.mapError
    refine Acts.selectPage registers _ hagc ?_ fun hf _ _ => hf
    cases page' <;> decide
  apply Acts.bind (acts_restoreStep hselect)
  rintro ⟨done, failures⟩
  exact Acts.pure fun _ h => h

theorem acts_selectAgain {page' : Bool} (hagc : agcWord ∈ words) (failures : List String) :
    Acts faults (Intact faults failures (RadioFrame before words rfs page)) (restoreSelectPage registers page' failures)
      (fun failures => Intact faults failures (RadioFrame before words rfs page')) fun _ => False :=
  (acts_restoreSelectPage registers hagc failures).weaken (fun _ h => ⟨h.1, fun hnone => (h.2 hnone).same⟩)
    (fun _ _ h => h) fun _ h => h

end Groups

/-! ## The checked registers -/

theorem acts_restoreHssi {backup : Rtl8812auRegisterReadReport} {words : List Cell} {rfs : List RfCell}
    (hbackup : backup = registerReadReport iqkHssiSpec "u32" (before.wordAt false regHssiReadJaguar))
    (hhssi : (false, 0x08b0) ∉ words) (failures : List String) :
    Acts faults (Intact faults failures (RadioFrame before ((false, 0x08b0) :: words) rfs false))
      (restoreChecked32 registers backup failures)
      (fun out => Intact faults out.2 (RadioFrame before words rfs false)) fun _ => False := by
  rw [hbackup]
  apply acts_restoreChecked
  · refine Acts.writeWithCustomError (registers.writeAll_stores regHssiReadJaguar .u32 _ rfl) _ (fun hf _ _ => hf)
      fun file h => ?_
    have hpage := h.page
    constructor
    · rw [file.store_pageC1 (by rw [toLeU32_length]; decide) (by rw [hpage]; decide), hpage]
    · have hport : writePort file.pageC1 regHssiReadJaguar = none := by cases file.pageC1 <;> rfl
      have hsame := h.same
      have hword : wordOf (place file.pageC1 regHssiReadJaguar) = (false, 0x08b0) := by
        cases file.pageC1 <;> rfl
      rw [← hword] at hsame
      have hrestore := hsame.restore (by decide) hport
      rwa [wordAt_hssi] at hrestore
  · refine Acts.readWithCustomError (registers.read32_loads _) _ (fun hf _ _ => hf) fun file h => ?_
    have hport : readPort regHssiReadJaguar = none := rfl
    have hvalue : UInt32.ofNat (loadValue regHssiReadJaguar 4 file).1 = before.wordAt false regHssiReadJaguar :=
      h.loadValue_word hport (by decide) hhssi
    exact ⟨hvalue, h.load _ _⟩

/-- writing `REG_AGC_TABLE` back selects the page from before -/
theorem acts_restorePage {backup : Rtl8812auRegisterReadReport} {words : List Cell} {rfs : List RfCell} {page : Bool}
    (hbackup : backup = registerReadReport iqkPageSelectSpec "u32" (before.wordAt false regAgcTableJaguar))
    (hagc : agcWord ∉ words) (failures : List String) :
    Acts faults (Intact faults failures (RadioFrame before (agcWord :: words) rfs page))
      (restoreChecked32 registers backup failures)
      (fun out => Intact faults out.2 (RadioFrame before words rfs before.pageC1)) fun _ => False := by
  have hplace (pageC1 : Bool) : wordOf (place pageC1 regAgcTableJaguar) = agcWord := by cases pageC1 <;> rfl
  rw [hbackup]
  apply acts_restoreChecked
  · refine Acts.writeWithCustomError (registers.writeAll_stores regAgcTableJaguar .u32 _ rfl) _ (fun hf _ _ => hf)
      fun file h => ?_
    constructor
    · refine (file.store_agc (before.wordAt false regAgcTableJaguar)).trans ?_
      have hbit := wordAt_agc before false
      rcases hpage : before.pageC1 with _ | _
      · rw [decide_eq_false_iff_not, not_not]
        exact hbit.2 hpage
      · rw [decide_eq_true_iff]
        intro hzero
        rw [hbit.1 hzero] at hpage
        cases hpage
    · have hport : writePort file.pageC1 regAgcTableJaguar = none := by cases file.pageC1 <;> rfl
      have hsame := h.same
      rw [← hplace file.pageC1] at hsame
      have hrestore := hsame.restore (by decide) hport
      rwa [wordAt_agcTable] at hrestore
  · refine Acts.readWithCustomError (registers.read32_loads _) _ (fun hf _ _ => hf) fun file h => ?_
    have hport : readPort regAgcTableJaguar = none := rfl
    have hvalue : UInt32.ofNat (loadValue regAgcTableJaguar 4 file).1 = before.wordAt false regAgcTableJaguar :=
      (h.loadValue_word hport (by decide) (by rwa [hplace])).trans (wordAt_agcTable before _)
    exact ⟨hvalue, h.load _ _⟩

theorem acts_restoreTxPause {backup : Rtl8812auRegisterReadReport} {words : List Cell} {rfs : List RfCell} {page : Bool}
    (hbackup : backup = registerReadReport iqkTxPauseSpec "u8" (before.cells (false, regTxpause)).toUInt32)
    (htxPause : wordOf (false, regTxpause) ∉ words) (failures : List String) :
    Acts faults (Intact faults failures (RadioFrame before words rfs page)) (restoreChecked8 registers backup failures)
      (fun out => Intact faults out.2 (RadioFrame before words rfs page)) fun _ => False := by
  have hplace (pageC1 : Bool) : place pageC1 regTxpause = (false, regTxpause) := by cases pageC1 <;> rfl
  rw [hbackup]
  apply acts_restoreChecked
  · refine Acts.writeWithCustomError (registers.writeAll_stores regTxpause .u8 [_] rfl) _ (fun hf _ _ => hf)
      fun file h => ?_
    have hpage := h.page
    constructor
    · rw [file.store_pageC1 (by rw [List.length_singleton]; decide) (by rw [hplace]; decide), hpage]
    · constructor
      · intro c hc
        rw [file.store_cells, patch, patch, hplace, Function.update_apply]
        split
        · rename_i heq
          rw [heq]
          exact UInt8.toUInt8_toUInt32 _
        · exact h.same.cells c hc
      · intro r hr
        rw [file.store_rf_of_none fun hlength => absurd hlength (by rw [List.length_singleton]; decide)]
        exact h.same.rf r hr
  · have hread : Acts faults (RadioFrame before words rfs page)
        (read8WithCounter registers regTxpause "REG_TXPAUSE" "runtime-iqk-restore")
        (fun after file => after = before.cells (false, regTxpause) ∧ RadioFrame before words rfs page file)
        fun _ => faults := by
      refine Acts.readWithCustomError (registers.read8_loads _) _ (fun hf _ _ => hf) fun file h => ?_
      refine ⟨?_, h.load _ _⟩
      rw [(file.loadValue_byte regTxpause).1, hplace]
      exact h.same.cells _ htxPause
    apply Acts.bind hread
    intro after
    exact Acts.pure fun file h => ⟨congrArg UInt8.toUInt32 h.1, h.2⟩

/-! ## The whole restore -/

/-- **Restore.** Unless a failure is noted, the trigger and the serial ports are all that is left changed. -/
theorem acts_restore {backup : Rtl8812auRuntimeIqkBackupReport} (hbackup : BackupOf before backup) :
    Acts faults (SameBut iqkWords iqkRfs before) (restoreRtl8812auRuntimeIqkBackup registers backup)
      (fun cleanup file => (cleanup.status = "restored" ↔ cleanup.failures = []) ∧
        Intact faults cleanup.failures (RadioFrame before iqkScratch [] before.pageC1) file)
      fun _ => False := by
  have hserial (path : RadioPath) : (false, serialRegister path) ∈ iqkWords := serial_mem_iqkWords path
  apply Acts.bind Acts.counters
  intro counters
  have hselect : Acts faults (SameBut iqkWords iqkRfs before) (restoreSelectPage registers false [])
      (fun failures => Intact faults failures (RadioFrame before iqkWords iqkRfs false)) fun _ => False :=
    (acts_restoreSelectPage registers agc_mem_iqkWords []).weaken (fun _ h => ⟨.inr rfl, fun _ => h⟩) (fun _ _ h => h)
      fun _ h => h
  apply Acts.bind hselect
  intro failures
  apply Acts.bind (acts_restoreRfGroup registers (hserial .a) hbackup.rfA failures)
  rintro ⟨rfPathARestoreCount, failures⟩
  have hrfB : Acts faults (Intact faults failures
        (RadioFrame before iqkWords (rtl8812aIqkRfBackupOffsets.map (offsetCell .b)) false))
      (restoreRuntimeIqkRfGroup registers .b backup.rfBackupPathB failures)
      (fun out => Intact faults out.2 (RadioFrame before iqkWords [] false)) fun _ => False := by
    have hgroup : Acts faults (Intact faults failures
          (RadioFrame before iqkWords (rtl8812aIqkRfBackupOffsets.map (offsetCell .b) ++ []) false)) _ _ _ :=
      acts_restoreRfGroup registers (hserial .b) hbackup.rfB failures
    rwa [List.append_nil] at hgroup
  apply Acts.bind hrfB
  rintro ⟨rfPathBRestoreCount, failures⟩
  apply Acts.bind (acts_selectAgain registers agc_mem_iqkWords failures)
  intro failures
  apply Acts.bind (acts_restoreGroup registers "AFE" backable_afe (by decide +kernel) hbackup.afe failures)
  rintro ⟨afeRestoreCount, failures⟩
  apply Acts.bind (acts_selectAgain registers (by decide +kernel) failures)
  intro failures
  apply Acts.bind (acts_restoreGroup registers "page-C1 latch" backable_latches (by decide +kernel) hbackup.latches
    failures)
  rintro ⟨pageC1LatchRestoreCount, failures⟩
  apply Acts.bind (acts_selectAgain registers (by decide +kernel) failures)
  intro failures
  apply Acts.bind (acts_restoreGroup registers "MAC/BB" backable_macbb (by decide +kernel) hbackup.macbb failures)
  rintro ⟨macbbRestoreCount, failures⟩
  apply Acts.bind (acts_restoreHssi registers hbackup.hssi (by decide) failures)
  rintro ⟨hssiReadRestored, failures⟩
  apply Acts.bind (acts_restorePage registers hbackup.pageSelect (by decide) failures)
  rintro ⟨pageSelectRestored, failures⟩
  apply Acts.bind (acts_restoreTxPause registers hbackup.txPause (by decide) failures)
  rintro ⟨txPauseRestored, failures⟩
  apply Acts.bind Acts.counters
  intro _
  refine Acts.pure fun file h => ⟨?_, h⟩
  dsimp only
  split
  · rename_i hnone
    exact iff_of_true rfl hnone
  · rename_i hsome
    exact iff_of_false (by decide) hsome

end Restore

end WfbLink.Runtime
