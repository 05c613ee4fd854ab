/-
What the set-up and the one-shots of the runtime IQK change.

They write the words and the RF registers that the backup covers, the trigger, and the serial ports, on whichever page
each of them is. The set-up plan is data, and checked as such.

- `keeps_disturb`: set-up and one-shots change nothing else, whatever the device answers and whether they fail or not.
-/
import WfbLink.Runtime.IqkBackup
import WfbLink.Runtime.RadioFrame

namespace WfbLink.Runtime

open WfbLink.Core WfbLink.RadioCore

/-! ## The frame -/

/-- the words of a register list, on a page -/
def specWords (pageC1 : Bool) (specs : List Rtl8812auRegisterReadSpec) : List Cell :=
  specs.map fun spec => wordOf (place pageC1 spec.2)

def offsetCell (path : RadioPath) (rfOffset : UInt32) : RfCell := (path, UInt8.ofNat rfOffset.toNat)

/-- the trigger and the serial ports, which are not backed up -/
def iqkScratch : List Cell := [(false, 0x0980), (false, 0x0c90), (false, 0x0e90)]

/-- everything a sweep writes before it fills in, in the order in which it is restored -/
def iqkWords : List Cell :=
  specWords false rtl8812aIqkAfeBackupRegisters ++ (specWords true rtl8812aIqkPageC1LatchRegisters ++
    (specWords false rtl8812aIqkMacbbBackupRegisters ++ (false, 0x08b0) :: agcWord :: iqkScratch))

def iqkRfs : List RfCell :=
  rtl8812aIqkRfBackupOffsets.map (offsetCell .a) ++ rtl8812aIqkRfBackupOffsets.map (offsetCell .b)

theorem agc_mem_iqkWords : agcWord ∈ iqkWords := by decide +kernel

theorem hssi_mem_iqkWords : (false, 0x08b0) ∈ iqkWords := by decide +kernel

theorem serial_mem_iqkWords (path : RadioPath) : (false, serialRegister path) ∈ iqkWords := by
  cases path <;> decide +kernel

theorem offset_mem_iqkRfs (path : RadioPath) {rfOffset : UInt32} (h : rfOffset ∈ rtl8812aIqkRfBackupOffsets) :
    offsetCell path rfOffset ∈ iqkRfs := by
  cases path with
  | a => exact List.mem_append_left _ (List.mem_map_of_mem h)
  | b => exact List.mem_append_right _ (List.mem_map_of_mem h)

section Disturb

variable {faults : Prop} {before : RadioRegisters} (registers : Rtl8812auRegisterAccess) {page page' page'' : Bool}

variable (faults before) in
/-- the page changes, and only what is backed up -/
abbrev Disturbs (page page' : Bool) {α : Type} (action : RegisterAction α) : Prop :=
  Keeps faults before iqkWords iqkRfs page page' action

/-! ## Accesses -/

theorem disturbs_read32 (spec : Rtl8812auRegisterReadSpec) (errorCode : String) :
    Disturbs faults before page page (runtimeIqkRead32 registers spec errorCode) :=
  (Keeps.read32 registers _ _ _).mapError _

theorem disturbs_write32 {spec : Rtl8812auRegisterReadSpec} (value : UInt32) (errorCode : String)
    (h : Writable iqkWords page spec.2 4) :
    Disturbs faults before page page (runtimeIqkWrite32 registers spec value errorCode) :=
  (Keeps.write32 registers _ _ _ h).mapError _

theorem disturbs_setBbReg {spec : Rtl8812auRegisterReadSpec} (mask data : UInt32) (errorCode : String)
    (h : Writable iqkWords page spec.2 4) :
    Disturbs faults before page page (runtimeIqkSetBbReg registers spec mask data errorCode) :=
  (Keeps.bbSet registers _ _ _ h).mapError _

theorem keeps_selectPage {words : List Cell} {rfs : List RfCell} (hagc : agcWord ∈ words) :
    Keeps faults before words rfs page page' (rtl8812auIqkSelectPage registers page') := by
  apply Keeps.mapError
  apply Keeps.selectPage registers _ hagc
  cases page' <;> decide

theorem disturbs_selectPage : Disturbs faults before page page' (rtl8812auIqkSelectPage registers page') :=
  keeps_selectPage registers agc_mem_iqkWords

theorem disturbs_rfWrite (path : RadioPath) {rfOffset : UInt32} (value : UInt32)
    (h : rfOffset ∈ rtl8812aIqkRfBackupOffsets) :
    Disturbs faults before false false (rfSerialWriteSinglePath registers (rfPathOf path) rfOffset value) :=
  Keeps.rfWrite registers path value (serial_mem_iqkWords path) (offset_mem_iqkRfs path h)

theorem disturbs_rfMaskedWrite {path : RadioPath} {rfOffset : UInt32} (mask data : UInt32) (errorCode : String)
    (h : rfOffset ∈ rtl8812aIqkRfBackupOffsets) :
    Disturbs faults before false false
      (runtimeIqkRfMaskedWrite registers (rfPathOf path) rfOffset mask data errorCode) := by
  apply Keeps.bind (Keeps.rfRead registers path rfOffset hssi_mem_iqkWords)
  intro report
  exact Keeps.bind ((disturbs_rfWrite registers path _ h).mapError _) fun _ => Keeps.pure ()

/-! ## Set-up -/

/-- the page after a set-up write, if that stays within the frame -/
def setupPage (page : Bool) : Rtl8812auRuntimeIqkSetupWritePlan → Option Bool
  | .register _ address width _ =>
    if Writable iqkWords page address (if width = "u8" then 1 else 4) then some page else none
  | .maskedBb _ address mask data =>
    if address = regAgcTableJaguar ∧ mask = rtl8812aIqkPageC1SelectBit then
      some (data <<< 31 &&& 0x80000000 ≠ 0)
    else if Writable iqkWords page address 4 then some page
    else none
  | .rf path rfOffset _ =>
    if page = false ∧ path ≠ .both ∧ rfOffset ∈ rtl8812aIqkRfBackupOffsets then some page else none

def setupPlanPage (page : Bool) : List Rtl8812auRuntimeIqkSetupWritePlan → Option Bool
  | [] => some page
  | write :: plan =>
    match setupPage page write with
    | none => none
    | some page => setupPlanPage page plan

/-- the whole plan stays within the frame, for every band and type of front end, and ends on page C1 -/
theorem setupPlanPage_setup (band : Band) (rfeType : UInt8) (extPa5g extPa2g : Bool) :
    setupPlanPage false (rtl8812auRuntimeIqkSetupPlan band rfeType extPa5g extPa2g) = some true := by
  rfl

theorem disturbs_setupWrite {write : Rtl8812auRuntimeIqkSetupWritePlan} (h : setupPage page write = some page') :
    Disturbs faults before page page' (applyRtl8812auRuntimeIqkSetupWrite registers write) := by
  cases write with
  | register registerName address width value =>
    dsimp only [setupPage] at h
    dsimp only [applyRtl8812auRuntimeIqkSetupWrite]
    by_cases hwidth : width = "u8"
    · rw [if_pos hwidth] at h ⊢
      split at h
      · rename_i hwrite
        obtain rfl := Option.some.inj h
        exact Keeps.write8 registers _ _ _ hwrite
      · cases h
    · rw [if_neg hwidth] at h ⊢
      split at h
      · rename_i hwrite
        obtain rfl := Option.some.inj h
        exact Keeps.write32 registers _ _ _ hwrite
      · cases h
  | maskedBb registerName address mask data =>
    simp only [setupPage] at h
    apply Keeps.bind (Keeps.read32 registers address registerName "runtime-iqk-setup")
    intro original
    refine Keeps.bind (?_ : Disturbs faults before page page' _) fun _ => Keeps.bind (Keeps.read32 registers _ _ _) fun _ => Keeps.pure ()
    split at h
    · rename_i hselect
      obtain ⟨rfl, rfl⟩ := hselect
      obtain rfl := Option.some.inj h
      apply Keeps.writeAgc registers _ _ agc_mem_iqkWords
      have hmask : applyRfMask original rtl8812aIqkPageC1SelectBit data
          = maskedValue original rtl8812aIqkPageC1SelectBit data := if_neg (by decide)
      have hbits := masked_bits original rtl8812aIqkPageC1SelectBit data
      rw [rtl8812aIqkPageC1SelectBit] at hbits hmask
      rw [rtl8812aIqkPageC1SelectBit, hmask, hbits]
      rfl
    · split at h
      · rename_i hwrite
        cases h
        exact Keeps.write32 registers _ _ _ hwrite
      · cases h
  | rf path rfOffset value =>
    simp only [setupPage] at h
    split at h
    · rename_i hrf
      obtain ⟨rfl, hpath, hmem⟩ := hrf
      cases h
      refine Keeps.bind (?_ : Disturbs faults before false false _) fun _ => Keeps.pure ()
      cases path with
      | a => exact disturbs_rfWrite registers .a value hmem
      | b => exact disturbs_rfWrite registers .b value hmem
      | both => exact absurd rfl hpath
    · cases h

theorem disturbs_setupPlan {plan : List Rtl8812auRuntimeIqkSetupWritePlan} (h : setupPlanPage page plan = some page') :
    Disturbs faults before page page' (applyRtl8812auRuntimeIqkSetupPlan registers plan) := by
  induction plan generalizing page with
  | nil =>
    cases h
    exact Keeps.pure 0
  | cons write plan ih =>
    rw [setupPlanPage] at h
    rcases hwrite : setupPage page write with _ | next
    · rw [hwrite] at h
      cases h
    · rw [hwrite] at h
      exact Keeps.bind (disturbs_setupWrite registers hwrite) fun _ => Keeps.bind (ih h) fun _ => Keeps.pure _

/-! ## One-shots -/

theorem disturbs_captureRaw {target : IqkOneShotTarget} (latchX latchY : UInt32) (errorCode : String)
    (h : Writable iqkWords page target.latch.2 4) :
    Disturbs faults before page page (iqkCaptureRaw registers target latchX latchY errorCode) := by
  apply Keeps.bind (disturbs_write32 registers latchX errorCode h)
  intro _
  apply Keeps.bind (disturbs_read32 registers target.result errorCode)
  intro xRaw
  apply Keeps.bind (disturbs_write32 registers latchY errorCode h)
  intro _
  exact Keeps.bind (disturbs_read32 registers target.result errorCode) fun yRaw => Keeps.pure _

theorem disturbs_captureTx {target : IqkOneShotTarget} (h : Writable iqkWords page target.latch.2 4) :
    Disturbs faults before page page (runtimeIqkCaptureTxCandidate registers target) := by
  apply Keeps.bind (disturbs_captureRaw registers _ _ _ h)
  intro raw
  exact Keeps.ite (Keeps.fail _) (Keeps.pure _)

theorem disturbs_captureRx {target : IqkOneShotTarget} (h : Writable iqkWords page target.latch.2 4) :
    Disturbs faults before page page (runtimeIqkCaptureRxCandidate registers target) := by
  apply Keeps.bind (disturbs_captureRaw registers _ _ _ h)
  intro raw
  exact Keeps.pure _

theorem latch_writable (target : IqkOneShotTarget) (h : target = iqkOneShotTargetA ∨ target = iqkOneShotTargetB) :
    Writable iqkWords true target.latch.2 4 := by
  rcases h with rfl | rfl
  · decide +kernel
  · decide +kernel

section Rounds

variable {shot : IqkOneShot}

theorem disturbs_pollPath (target : IqkOneShotTarget) (active : Bool) (path : Rtl8812auRuntimeIqkOneShotPathState)
    (status : Option UInt32) : Disturbs faults before page page (iqkPollPath registers shot target active path status) := by
  apply Keeps.ite
  · exact Keeps.bind (disturbs_read32 registers _ _) fun value => Keeps.pure _
  · exact Keeps.pure _

theorem disturbs_poll (left : ℕ) (polled : IqkPolled) :
    Disturbs faults before page page (iqkPoll registers shot left polled) := by
  induction left generalizing polled with
  | zero =>
    apply Keeps.bind (disturbs_pollPath registers _ _ _ _)
    rintro ⟨pathA, statusA⟩
    apply Keeps.bind (disturbs_pollPath registers _ _ _ _)
    rintro ⟨pathB, statusB⟩
    exact Keeps.ite (Keeps.pure _) (Keeps.pure _)
  | succ left ih =>
    apply Keeps.bind (disturbs_pollPath registers _ _ _ _)
    rintro ⟨pathA, statusA⟩
    apply Keeps.bind (disturbs_pollPath registers _ _ _ _)
    rintro ⟨pathB, statusB⟩
    exact Keeps.ite (Keeps.pure _) (ih _)

/-- the measurement starts and ends on page C1 -/
structure ShotDisturbs (faults : Prop) (before : RadioRegisters) (shot : IqkOneShot) : Prop where
  trigger : Disturbs faults before true true shot.trigger
  capture : ∀ target, target = iqkOneShotTargetA ∨ target = iqkOneShotTargetB →
    Disturbs faults before true true (shot.capture target)

theorem disturbs_measurePath (hshot : ShotDisturbs faults before shot) {target : IqkOneShotTarget}
    (htarget : target = iqkOneShotTargetA ∨ target = iqkOneShotTargetB) (active : Bool) (delayCount : UInt8)
    (path : Rtl8812auRuntimeIqkOneShotPathState) :
    Disturbs faults before true true (iqkMeasurePath registers shot target active delayCount path) := by
  apply Keeps.ite
  · apply Keeps.bind (disturbs_read32 registers _ _)
    intro value
    apply Keeps.ite
    · exact Keeps.pure _
    · apply Keeps.bind (hshot.capture target htarget)
      rintro ⟨candidate, raw⟩
      exact Keeps.pure _
  · exact Keeps.pure _

theorem disturbs_round (hshot : ShotDisturbs faults before shot) (paths : IqkPaths) :
    Disturbs faults before true true (iqkRound registers shot paths) := by
  apply Keeps.bind hshot.trigger
  intro _
  apply Keeps.bind (disturbs_poll registers _ _)
  intro polled
  apply Keeps.ite
  · apply Keeps.bind (disturbs_measurePath registers hshot (.inl rfl) _ _ _)
    intro pathA
    apply Keeps.bind (disturbs_measurePath registers hshot (.inr rfl) _ _ _)
    intro pathB
    exact Keeps.pure _
  · exact Keeps.pure _

theorem disturbs_rounds (hshot : ShotDisturbs faults before shot) (rounds : ℕ) (paths : IqkPaths) :
    Disturbs faults before true true (iqkRounds registers shot rounds paths) := by
  induction rounds generalizing paths with
  | zero => exact Keeps.pure _
  | succ rounds ih =>
    apply Keeps.ite
    · exact Keeps.pure _
    · apply Keeps.bind (disturbs_round registers hshot paths)
      intro paths
      exact Keeps.ite (Keeps.pure _) (ih paths)

end Rounds

/-! ### TX -/

theorem txShot_disturbs : ShotDisturbs faults before (iqkTxOneShot registers) where
  trigger := by
    apply Keeps.bind (disturbs_write32 registers _ _ (by decide +kernel))
    intro _
    apply Keeps.bind (disturbs_write32 registers _ _ (by decide +kernel))
    intro _
    apply Keeps.bind (disturbs_write32 registers _ _ (by decide +kernel))
    intro _
    apply Keeps.bind (disturbs_write32 registers _ _ (by decide +kernel))
    intro _
    apply Keeps.bind (disturbs_write32 registers _ _ (by decide +kernel))
    intro _
    exact disturbs_write32 registers _ _ (by decide +kernel)
  capture target htarget := disturbs_captureTx registers (latch_writable target htarget)

theorem disturbs_txOneshot : Disturbs faults before true true (runRtl8812auRuntimeIqkTxOneshot registers) := by
  apply Keeps.bind (disturbs_rounds registers (txShot_disturbs registers) _ _)
  rintro ⟨pathA, pathB⟩
  exact Keeps.pure _

/-! ### RX -/

theorem disturbs_when {ready : Bool} {action : RegisterAction Unit} (h : Disturbs faults before page page action) :
    Disturbs faults before page page (iqkWhen ready action) :=
  Keeps.ite h (Keeps.pure ())

theorem disturbs_prepareRxPath (path : RadioPath) {writes : List (UInt32 × UInt32)}
    (h : ∀ write ∈ writes, write.1 ∈ rtl8812aIqkRfBackupOffsets) :
    Disturbs faults before false false (runtimeIqkPrepareRxPath registers (rfPathOf path) writes) := by
  induction writes with
  | nil => exact Keeps.pure ()
  | cons write writes ih =>
    apply Keeps.bind ((disturbs_rfWrite registers path _ (h write List.mem_cons_self)).mapError _)
    intro _
    exact ih fun write' hmem => h write' (List.mem_cons_of_mem _ hmem)

theorem prepareRx_offsets : ∀ write ∈ runtimeIqkPrepareRxWrites, write.1 ∈ rtl8812aIqkRfBackupOffsets := by
  decide +kernel

theorem disturbs_loadLok (path : RadioPath) :
    Disturbs faults before false false (runtimeIqkLoadLok registers (rfPathOf path)) := by
  apply Keeps.bind (Keeps.rfRead registers path _ hssi_mem_iqkWords)
  intro lokSource
  exact disturbs_rfMaskedWrite registers _ _ _ (by decide +kernel)

theorem disturbs_prepareRx (readyA readyB : Bool) (rfeType : UInt8) :
    Disturbs faults before page true (runtimeIqkPrepareRxOneshot registers readyA readyB rfeType) := by
  apply Keeps.bind (disturbs_selectPage registers)
  intro _
  apply Keeps.bind (disturbs_when (disturbs_prepareRxPath registers .a prepareRx_offsets))
  intro _
  apply Keeps.bind (disturbs_when (disturbs_prepareRxPath registers .b prepareRx_offsets))
  intro _
  apply Keeps.bind (disturbs_setBbReg registers _ _ _ (by decide +kernel))
  intro _
  apply Keeps.bind (disturbs_setBbReg registers _ _ _ (by decide +kernel))
  intro _
  apply Keeps.bind (disturbs_write32 registers _ _ (by decide +kernel))
  intro _
  apply Keeps.bind (disturbs_write32 registers _ _ (by decide +kernel))
  intro _
  apply Keeps.bind (disturbs_write32 registers _ _ (by decide +kernel))
  intro _
  apply Keeps.bind (disturbs_write32 registers _ _ (by decide +kernel))
  intro _
  apply Keeps.bind (disturbs_write32 registers _ _ (by decide +kernel))
  intro _
  apply Keeps.bind (disturbs_write32 registers _ _ (by decide +kernel))
  intro _
  apply Keeps.bind (disturbs_selectPage registers)
  intro _
  apply Keeps.bind
  · apply disturbs_when
    apply Keeps.bind (disturbs_write32 registers _ _ (by decide +kernel))
    intro _
    apply Keeps.bind (disturbs_write32 registers _ _ (by decide +kernel))
    intro _
    exact disturbs_write32 registers _ _ (by decide +kernel)
  · intro _
    apply disturbs_when
    apply Keeps.bind (disturbs_write32 registers _ _ (by decide +kernel))
    intro _
    apply Keeps.bind (disturbs_write32 registers _ _ (by decide +kernel))
    intro _
    exact disturbs_write32 registers _ _ (by decide +kernel)

theorem disturbs_triggerRx (txIqc : Rtl8812auRuntimeIqkIqcValue) {mixer latch : Rtl8812auRegisterReadSpec}
    (mixerValue : UInt32) (hmixer : Writable iqkWords true mixer.2 4) (hlatch : Writable iqkWords true latch.2 4) :
    Disturbs faults before page true (runtimeIqkTriggerRxPath registers txIqc mixer latch mixerValue) := by
  apply Keeps.bind (disturbs_selectPage registers)
  intro _
  apply Keeps.bind (disturbs_setBbReg registers _ _ _ (by decide +kernel))
  intro _
  apply Keeps.bind (disturbs_setBbReg registers _ _ _ (by decide +kernel))
  intro _
  apply Keeps.bind (disturbs_selectPage registers)
  intro _
  apply Keeps.bind (disturbs_write32 registers _ _ hmixer)
  intro _
  apply Keeps.bind (disturbs_write32 registers _ _ hlatch)
  intro _
  apply Keeps.bind (disturbs_write32 registers _ _ hlatch)
  intro _
  apply Keeps.bind (disturbs_write32 registers _ _ hmixer)
  intro _
  exact disturbs_write32 registers _ _ hlatch

theorem rxShot_disturbs (txIqcA txIqcB : Option Rtl8812auRuntimeIqkIqcValue) (rfeType : UInt8) :
    ShotDisturbs faults before (iqkRxOneShot registers txIqcA txIqcB rfeType) where
  trigger := by
    have hmixerA : Writable iqkWords true regIqkRfeSettingAC8c 4 := by decide +kernel
    have hmixerB : Writable iqkWords true regIqkRfeSettingBE8c 4 := by decide +kernel
    have hlatchA : Writable iqkWords true regRfeTimingAJaguar 4 := by decide +kernel
    have hlatchB : Writable iqkWords true regRfeTimingBJaguar 4 := by decide +kernel
    have hpathB : Disturbs faults before true true (iqkRxTrigger registers none txIqcB rfeType) := by
      cases txIqcB with
      | none => exact Keeps.pure ()
      | some txIqc => exact disturbs_triggerRx registers txIqc _ hmixerB hlatchB
    cases txIqcA with
    | none => exact hpathB
    | some txIqc => exact Keeps.bind (disturbs_triggerRx registers txIqc _ hmixerA hlatchA) fun _ => hpathB
  capture target htarget := disturbs_captureRx registers (latch_writable target htarget)

theorem disturbs_rxOneshot (txPathA txPathB : Rtl8812auRuntimeIqkStageReport) (rfeType : UInt8) :
    Disturbs faults before page true (runRtl8812auRuntimeIqkRxOneshot registers txPathA txPathB rfeType) := by
  apply Keeps.bind (disturbs_selectPage registers)
  intro _
  apply Keeps.bind (disturbs_when (disturbs_loadLok registers .a))
  intro _
  apply Keeps.bind (disturbs_when (disturbs_loadLok registers .b))
  intro _
  apply Keeps.bind (disturbs_prepareRx registers _ _ _)
  intro _
  apply Keeps.bind (disturbs_rounds registers (rxShot_disturbs registers _ _ _) _ _)
  rintro ⟨pathA, pathB⟩
  exact Keeps.pure _

/-! ## The whole disturbance -/

/-- **Footprint.** Set-up and one-shots write nothing but the frame. -/
theorem keeps_disturb (channel : Channel) (rfeType : UInt8) :
    Disturbs faults before false true (iqkDisturb registers channel rfeType) := by
  apply Keeps.bind (disturbs_setupPlan registers (setupPlanPage_setup _ _ _ _))
  intro _
  apply Keeps.bind (disturbs_txOneshot registers)
  rintro ⟨txA, txB⟩
  apply Keeps.bind (disturbs_rxOneshot registers txA txB rfeType)
  rintro ⟨rxA, rxB⟩
  exact Keeps.pure _

end Disturb

end WfbLink.Runtime
