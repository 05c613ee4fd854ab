/-
The init sequence of the adapter (`run_rtl8812au_production_init`): all phases, one after the other.

Every phase writes to a region of its own, and what it leaves there stays until a later phase writes to the same place.
The bits of `REG_MCUFWDL` are also set by the hardware, which reports there that the firmware runs: what it does to the
register before a phase is up to it.

- `confined_phase`: the region of each phase.
- `performs_phase`: the effect of the phases whose writes do not depend on how long the adapter takes.
- `runInitPhases_done`: what the phases of a run leave, and what is left of it at the end.
- `productionInit_outside`: the registers that the whole sequence leaves alone.
- `productionInit_registers`: what the phases of the adapter leave, for any phases and any hardware.
- `productionInit_ready`: the registers of an adapter that is ready.
-/
import WfbLink.RadioCore.Firmware
import WfbLink.Runtime.Confined
import WfbLink.Runtime.SameSessionInit

namespace WfbLink.Runtime

open WfbLink.Core WfbLink.RadioCore StuckRegisters

/-! ## The transmit scheduler -/

def regAclkMon : UInt16 := 0x003e
def regSdioCtrl8812 : UInt16 := 0x0070
def regNavUpper : UInt16 := 0x0652
def regEarlyModeControl8812 : UInt16 := 0x02bc
def regQueueCtrl : UInt16 := 0x04c6
def regTxRptTime : UInt16 := 0x04f0
def regUsbHrpwm : UInt16 := 0xfe58

def rtl8812auTxSchedulerTailU8Writes : List (UInt16 × UInt8 × String) :=
  [(regFwhwTxqCtrl + 1, 0x0f, "REG_FWHW_TXQ_CTRL+1"),
    (regEarlyModeControl8812 + 3, 0x01, "REG_EARLY_MODE_CONTROL_8812+3"),
    (regSdioCtrl8812, 0x00, "REG_SDIO_CTRL_8812"),
    (regAclkMon, 0x00, "REG_ACLK_MON"),
    (regUsbHrpwm, 0x00, "REG_USB_HRPWM"),
    (regNavUpper, 0x00, "REG_NAV_UPPER")]

structure RuntimePhaseExecution where
  phase : Rtl8812auInitPhase
  registerWrites : ℕ
  counters : RuntimeRadioCounters
deriving DecidableEq

def runRtl8812auTxSchedulerTail (registers : Rtl8812auRegisterAccess) : RegisterAction RuntimePhaseExecution := do
  let beforeCounters ← RegisterAction.counters
  let queueCtrl ← read8WithCounter registers regQueueCtrl "REG_QUEUE_CTRL" "pre-tail"
  write8WithCounter registers regQueueCtrl (queueCtrl &&& ~~~bit3) "REG_QUEUE_CTRL" "late TX scheduler"
  rtl8812auTxSchedulerTailU8Writes.forM fun (address, value, name) =>
    write8WithCounter registers address value name "late TX scheduler"
  write16WithCounter registers regTxRptTime 0x3df0 "REG_TX_RPT_TIME" "late TX scheduler"
  let counters ← RegisterAction.counters
  return {
    phase := .txSchedulerTail
    registerWrites := 1 + rtl8812auTxSchedulerTailU8Writes.length + 1
    counters := counters.saturatingSub beforeCounters }

def txSchedulerTailSteps : List RegisterStep :=
  blindField regQueueCtrl 1 bit3.toNat 0 ::
    (rtl8812auTxSchedulerTailU8Writes.flatMap fun write => [blindField write.1 1 0xff write.2.1.toNat]) ++
    [blindField regTxRptTime 2 0xffff 0x3df0]

/-! ## The phases -/

/-- the inputs, and the channel; the endpoints are those for bulk OUT, and the clocks those of the firmware polls -/
structure Rtl8812auProductionInitState where
  firmwareImage : FirmwareImage
  macPlan : RealtekTablePlan
  phyPlan : RealtekTablePlan
  agcPlan : RealtekTablePlan
  radioaPlan : RealtekTablePlan
  radiobPlan : RealtekTablePlan
  rfeType : UInt8
  initTimeout : ℕ
  channel : Channel
  bandwidth : Bandwidth
  bulkOutAll : List UInt8
  clocks : PollClocks

section Phases

variable (state : Rtl8812auProductionInitState)

def Rtl8812auProductionInitState.registers : Rtl8812auRegisterAccess := ⟨state.initTimeout⟩

/-- what the phase reports of itself, and its writes -/
def productionInitPhase (phase : Rtl8812auInitPhase) : RegisterAction (String × Option ℕ) :=
  match phase with
  | .powerOn => do
    let writes ← productionPowerOnSequence state.registers
    return (s!"completed {writes} power-on/RF-reset writes", some writes)
  | .firmware => do
    let payload := state.firmwareImage.realtekDownloadPayload
    let stats ← productionFirmwareSequence state.registers payload.bytes state.clocks
    let signature := (payload.signature.map fun value => formatRegisterValue value.toNat 4).getD "n/a"
    return (s!"downloaded {stats.bytesWritten} payload bytes from offset {payload.offset} signature {signature} in {stats.controlWrites} control writes; checksum ready after {stats.checksumPollAttempts} polls, firmware ready after {stats.readyPollAttempts} polls",
      some stats.controlWrites.toNat)
  | .llt => do
    let entries ← productionLltSequence state.registers
    return (s!"wrote {entries} LLT entries", some entries.toNat)
  | .macTable => do
    let writes ← productionApplyMacTablePlan state.registers state.macPlan
    return (s!"applied {writes} generated MAC register writes", some writes)
  | .queueDma => do
    let layout ← RegisterAction.ofExcept (productionQueueLayoutFromEndpoints state.bulkOutAll)
    let writes ← productionQueueDmaSequence state.registers layout
    return (s!"programmed queue/DMA layout for {layout.bulkOutEndpointCount} bulk OUT endpoints (HPQ={layout.hpq}, LPQ={layout.lpq}, NPQ={layout.npq}, PUBQ={layout.pubq})",
      some writes)
  | .mac => do
    let writes ← productionMacSequence state.registers
    return (s!"completed {writes} MAC/WMAC setup writes", some writes)
  | .macAddr => do
    let detail ← productionProgramEfuseMacid state.registers
    return (detail, none)
  | .bb => do
    let (writes, phy, agc) ← productionBbSequence state.registers state.phyPlan state.agcPlan
    return (s!"applied {phy.1} PHY writes, {agc.1} AGC writes, and {phy.2 + agc.2} delays", some writes)
  | .rf => do
    let (writes, radioa, radiob) ← productionRfSequence state.registers state.radioaPlan state.radiobPlan
    return (s!"applied {radioa.1} radioA writes, {radiob.1} radioB writes", some writes)
  | .channel => do
    let writes ← productionChannelSequence state.registers state.channel state.bandwidth state.rfeType state.radioaPlan
      state.radiobPlan
    return (s!"programmed channel {state.channel.number} ({state.channel.frequencyMhz} MHz, {state.bandwidth.mhz} MHz bandwidth, RFE type {formatRegisterValue state.rfeType.toNat 2}) in {writes} writes",
      some writes)
  | .txSchedulerTail => do
    let execution ← runRtl8812auTxSchedulerTail state.registers
    return (s!"applied {execution.registerWrites} late Linux USB TX scheduler writes", some execution.registerWrites)
  | .rfCalibrationBeforeChannel | .rfCalibrationAfterChannel | .rfCalibrationBeforeTx =>
    return ("skipped diagnostic-only RF calibration probe in direct production runtime path", some 0)

variable {τ : Type} [Rtl8812auUsbTransport τ]

def runRtl8812auProductionInitPhase : InitPhaseRunner τ := fun phase session =>
  let (outcome, run) := (productionInitPhase state phase).exec ⟨session.transport, session.counters⟩
  let summary (status : RuntimeSameSessionInitPhaseStatus) (detail : String) (registerWrites : Option ℕ) :
      RuntimeSameSessionInitPhaseSummary :=
    { phase, status, detail, registerWrites, counters := run.counters.saturatingSub session.counters }
  (match outcome with
    | .ok (detail, registerWrites) => .ok (summary .completed detail registerWrites)
    | .error error => .error { summary := summary .blocked error.message none, error },
    { session with transport := run.transport, counters := run.counters })

/-- the order, and what the calibration decision depends on -/
def runRtl8812auProductionInit (initOrder : Rtl8812auInitOrder) (txCalibrationProfile : TxCalibrationProfile)
    (liveWriteAuthorized capturedTailApplied : Bool) :
    Action (RuntimeRadioSession τ) RuntimeSameSessionInitFailure RuntimeSameSessionInitResult :=
  runRtl8812auSameSessionInit (runRtl8812auProductionInitPhase state)
    { initOrder, channel := state.channel, bandwidth := state.bandwidth, rfeType := state.rfeType, txCalibrationProfile,
      liveWriteAuthorized, capturedTailApplied }

end Phases

/-! ## A run of phases -/

section Run

variable {runPhase : InitPhaseRunner (FaultyDevice StuckRegisters)} {region : Rtl8812auInitPhase → UInt16 → Prop}
  {done : Rtl8812auInitPhase → StuckRegisters → StuckRegisters → Prop}

/-- the addresses that some phases write to -/
def regionOf (region : Rtl8812auInitPhase → UInt16 → Prop) (phases : List Rtl8812auInitPhase) (address : UInt16) :
    Prop :=
  ∃ phase ∈ phases, region phase address

/-- a phase writes to its region only, and if it returns, it has done its work -/
def PhaseWorks (runPhase : InitPhaseRunner (FaultyDevice StuckRegisters)) (region : Rtl8812auInitPhase → UInt16 → Prop)
    (done : Rtl8812auInitPhase → StuckRegisters → StuckRegisters → Prop) : Prop :=
  ∀ phase session, Outside (region phase) session.transport.file (runPhase phase session).2.transport.file ∧
    ∀ summary, (runPhase phase session).1 = .ok summary →
      done phase session.transport.file (runPhase phase session).2.transport.file

/-- **A run of phases.** What a phase has done is there at the end, outside the regions of the phases behind it. -/
theorem runInitPhases_done (hphase : PhaseWorks runPhase region done) (phases : List Rtl8812auInitPhase)
    (phaseSummaries : List RuntimeSameSessionInitPhaseSummary)
    (session : RuntimeRadioSession (FaultyDevice StuckRegisters)) :
    Outside (regionOf region phases) session.transport.file
      (runInitPhases runPhase phases phaseSummaries session).2.transport.file ∧
    ∀ result, (runInitPhases runPhase phases phaseSummaries session).1 = .ok result →
      ∀ before phase later, phases = before ++ phase :: later →
        ∃ start after, Outside (regionOf region before) session.transport.file start ∧ done phase start after ∧
          Outside (regionOf region later) after
            (runInitPhases runPhase phases phaseSummaries session).2.transport.file := by
  induction phases generalizing phaseSummaries session with
  | nil =>
    refine ⟨.refl _ _, fun result _ before phase later h => ?_⟩
    cases before <;> cases h
  | cons first phases ih =>
    obtain ⟨hregion, hdone⟩ := hphase first session
    have hfirst (phases : List Rtl8812auInitPhase) : Outside (regionOf region (first :: phases)) session.transport.file
        (runPhase first session).2.transport.file :=
      hregion.weaken fun _ h => ⟨first, List.mem_cons_self, h⟩
    have hlater (phases : List Rtl8812auInitPhase) (address : UInt16) (h : regionOf region phases address) :
        regionOf region (first :: phases) address := by
      obtain ⟨phase, hphase, hin⟩ := h
      exact ⟨phase, List.mem_cons_of_mem _ hphase, hin⟩
    have hattempt : (Action.attempt (runPhase first) : Action (RuntimeRadioSession (FaultyDevice StuckRegisters))
        (List RuntimeSameSessionInitPhaseSummary × RuntimeRadioError) _) session
          = (.ok (runPhase first session).1, (runPhase first session).2) := Action.attempt_run _ _
    rw [runInitPhases, Action.bind_of_ok hattempt]
    rcases hrun : runPhase first session with ⟨failure | summary, session₁⟩
    · rw [hrun] at hfirst
      refine ⟨hfirst phases, ?_⟩
      rintro result ⟨⟩
    · rw [hrun] at hfirst hdone
      obtain ⟨hrest, hphases⟩ := ih (phaseSummaries ++ [summary]) session₁
      refine ⟨(hfirst phases).trans (hrest.weaken (hlater phases)), fun result hresult before phase later hsplit => ?_⟩
      cases before with
      | nil =>
        obtain ⟨rfl, rfl⟩ := List.cons.inj hsplit
        exact ⟨_, _, .refl _ _, hdone summary rfl, hrest⟩
      | cons _ before =>
        obtain ⟨rfl, htail⟩ := List.cons.inj hsplit
        obtain ⟨start, after, hstart, hwork, hafter⟩ := hphases result hresult before phase later htail
        exact ⟨start, after, (hfirst before).trans (hstart.weaken (hlater before)), hwork, hafter⟩

end Run

/-! ## What the phases of the adapter do -/

section Phase

variable {P : StuckRegisters → Prop} (registers : Rtl8812auRegisterAccess)

theorem performs_txSchedulerTail :
    Performs P (runRtl8812auTxSchedulerTail registers) (fun _ => True) (RegisterStep.effects txSchedulerTailSteps) := by
  refine Performs.counters.bind_empty fun before _ => ?_
  refine Performs.cons_pair (performs_change (readsValue8 registers regQueueCtrl _ _)
    (fun written => writesValue8 registers regQueueCtrl _ _ written)
    fun queueCtrl _ hj => testBit_clearing8 bit3 queueCtrl hj) fun _ _ => ?_
  refine (Performs.forM _ fun item => (performs_write8 registers _ _ _ _).last).append fun _ _ => ?_
  refine (performs_write16 registers _ _ _ _).cons fun _ _ => ?_
  exact Performs.bind_empty Performs.counters fun _ _ => Performs.pure trivial

end Phase

section Adapter

variable (state : Rtl8812auProductionInitState)

/-- what is programmed for the channel of the adapter -/
def Rtl8812auProductionInitState.target (start : StuckRegisters) : Except RuntimeRadioError ChannelTarget :=
  ChannelTarget.lookUp state.channel state.bandwidth state.rfeType state.radioaPlan state.radiobPlan start

def phaseRegion : Rtl8812auInitPhase → UInt16 → Prop
  | .powerOn => RegisterStep.region powerOnSteps
  | .firmware => firmwareRegion
  | .llt => lltRegion
  | .macTable => overwriteRegion (tableEffect (macTarget state.macPlan) macPlace state.macPlan.actions).writes
  | .queueDma => fun address => ∃ layout, RegisterStep.region (queueDmaSteps layout) address
  | .mac => RegisterStep.region (macSteps 0 0)
  | .macAddr => macidRegion
  | .bb => overwriteRegion (bbEffect state.phyPlan state.agcPlan).writes
  | .rf => rfRegion
  | .channel => fun address =>
    ∃ start target, state.target start = .ok target ∧ RegisterStep.region target.steps address
  | .txSchedulerTail => RegisterStep.region txSchedulerTailSteps
  | .rfCalibrationBeforeChannel | .rfCalibrationAfterChannel | .rfCalibrationBeforeTx => fun _ => False

/-- the effect of a phase that returns; the writes of the others depend on what the adapter answers -/
def phaseEffect (phase : Rtl8812auInitPhase) (start : StuckRegisters) : Option (Effect RegisterBit Bool) :=
  match phase with
  | .powerOn => some (RegisterStep.effects powerOnSteps)
  | .macTable => some (tableEffect (macTarget state.macPlan) macPlace state.macPlan.actions)
  | .queueDma =>
    (productionQueueLayoutFromEndpoints state.bulkOutAll).toOption.map fun layout =>
      RegisterStep.effects (queueDmaSteps layout)
  | .mac => some (RegisterStep.effects (macSteps (start.byteAt 0x00ff) (start.byteAt 0xfe17)))
  | .bb => some (bbEffect state.phyPlan state.agcPlan)
  | .channel => (state.target start).toOption.map fun target => RegisterStep.effects target.steps
  | .txSchedulerTail => some (RegisterStep.effects txSchedulerTailSteps)
  | .firmware | .llt | .macAddr | .rf => none
  | .rfCalibrationBeforeChannel | .rfCalibrationAfterChannel | .rfCalibrationBeforeTx => some .empty

/-- the sequence of the channel, which depends on the bandwidth that the adapter had -/
theorem performs_target {start : StuckRegisters} {target : ChannelTarget} (h : state.target start = .ok target) :
    Performs (fun file => file = start) (productionChannelSequence state.registers state.channel state.bandwidth
      state.rfeType state.radioaPlan state.radiobPlan) (fun _ => True) (RegisterStep.effects target.steps) := by
  obtain ⟨hplanned, ⟨hchannel, hbandwidth, hrfeType⟩, hcck, hbw⟩ := ChannelTarget.lookUp_ok h
  rw [← hchannel, ← hbandwidth, ← hrfeType]
  refine (performs_channel state.registers target hplanned).weaken ?_ fun _ _ => trivial
  rintro file rfl address haddress
  rcases List.mem_pair.1 haddress with rfl | rfl
  · exact (file.toNat_byteAt _).symm.trans (congrArg UInt8.toNat hcck.symm)
  · exact (file.toNat_byteAt _).symm.trans (congrArg UInt8.toNat hbw.symm)

theorem performs_macAt (start : StuckRegisters) :
    Performs (fun file => file = start) (productionMacSequence state.registers) (fun _ => True)
      (RegisterStep.effects (macSteps (start.byteAt 0x00ff) (start.byteAt 0xfe17))) :=
  (performs_mac state.registers _ _).weaken (fun _ h => h ▸ burstSpeed_self start) fun _ h => h

/-- **The effect of a phase.** -/
theorem performs_phase {phase : Rtl8812auInitPhase} {start : StuckRegisters} {e : Effect RegisterBit Bool}
    (he : phaseEffect state phase start = some e) :
    Performs (fun file => file = start) (productionInitPhase state phase) (fun _ => True) e := by
  cases phase with
  | powerOn =>
    obtain rfl := Option.some.inj he
    exact (performs_powerOn state.registers).map _
  | macTable =>
    obtain rfl := Option.some.inj he
    exact (performs_macTable state.registers state.macPlan).map _
  | queueDma =>
    rcases hlayout : productionQueueLayoutFromEndpoints state.bulkOutAll with error | layout
    · rw [phaseEffect, hlayout] at he
      cases he
    · rw [phaseEffect, hlayout] at he
      obtain rfl := Option.some.inj he
      rw [productionInitPhase, hlayout]
      refine (Performs.ofExcept (.ok layout)).bind_empty fun layout' hlayout' => ?_
      obtain rfl := Except.ok.inj hlayout'
      exact (performs_queueDma state.registers layout).map _
  | mac =>
    obtain rfl := Option.some.inj he
    exact (performs_macAt state start).map _
  | bb =>
    obtain rfl := Option.some.inj he
    exact (performs_bb state.registers state.phyPlan state.agcPlan).map _
  | channel =>
    rcases htarget : state.target start with error | target
    · rw [phaseEffect, htarget] at he
      cases he
    · rw [phaseEffect, htarget] at he
      obtain rfl := Option.some.inj he
      exact (performs_target state htarget).map _
  | txSchedulerTail =>
    obtain rfl := Option.some.inj he
    exact (performs_txSchedulerTail state.registers).map _
  | rfCalibrationBeforeChannel =>
    obtain rfl := Option.some.inj he
    exact .pure trivial
  | rfCalibrationAfterChannel =>
    obtain rfl := Option.some.inj he
    exact .pure trivial
  | rfCalibrationBeforeTx =>
    obtain rfl := Option.some.inj he
    exact .pure trivial
  | _ => cases he

/-- **The region of a phase.** -/
theorem confined_phase (phase : Rtl8812auInitPhase) :
    Confined (phaseRegion state phase) (productionInitPhase state phase) := by
  unfold productionInitPhase
  cases phase with
  | powerOn => exact (Confined.of_steps (performs_powerOn state.registers) fun _ h => h).bind fun _ => .pure _
  | firmware => exact (confined_firmware state.registers _ _).bind fun _ => .pure _
  | llt => exact (confined_llt state.registers).bind fun _ => .pure _
  | macTable =>
    exact (Confined.of_performs (performs_macTable state.registers state.macPlan) fun _ => overwrite_of_region).bind
      fun _ => .pure _
  | queueDma =>
    refine (Confined.ofExcept _).bind fun layout => ?_
    exact (Confined.of_steps (performs_queueDma state.registers layout) fun _ h => ⟨layout, h⟩).bind fun _ => .pure _
  | mac =>
    refine (Confined.of_start fun start => ⟨_, _, performs_macAt state start, fun c hc => ?_⟩).bind fun _ => .pure _
    exact RegisterStep.writes_of_avoid (Bool.of_not_eq_false hc)
  | macAddr => exact (confined_macid state.registers).bind fun _ => .pure _
  | bb =>
    exact (Confined.of_performs (performs_bb state.registers state.phyPlan state.agcPlan)
      fun _ => overwrite_of_region).bind fun _ => .pure _
  | rf => exact (confined_rf state.registers _ _).bind fun _ => .pure _
  | channel =>
    refine (Confined.of_start fun start => ?_).bind fun _ => .pure _
    rcases htarget : state.target start with error | target
    · exact ⟨_, _, performs_unplanned state.registers htarget,
        fun c _ => RegisterStep.writes_of_avoid (rfPreflightSteps_avoid c.1)⟩
    · exact ⟨_, _, performs_target state htarget, fun c hc => RegisterStep.writes_of_region fun h =>
        hc ⟨start, target, htarget, h⟩⟩
  | txSchedulerTail =>
    exact (Confined.of_steps (performs_txSchedulerTail state.registers) fun _ h => h).bind fun _ => .pure _
  | rfCalibrationBeforeChannel => exact .pure _
  | rfCalibrationAfterChannel => exact .pure _
  | rfCalibrationBeforeTx => exact .pure _

/-- the phases whose writes depend on what the adapter answers -/
def answeredPhases : List Rtl8812auInitPhase := [.firmware, .llt, .macAddr, .rf]

/-- a phase that returns has an effect, unless it is one of those -/
theorem phaseEffect_of_ok {phase : Rtl8812auInitPhase} {s s' : RegisterRun (FaultyDevice StuckRegisters)}
    {result : String × Option ℕ} (hrun : (productionInitPhase state phase).exec s = (.ok result, s'))
    (hnone : phaseEffect state phase s.transport.file = none) : phase ∈ answeredPhases := by
  cases phase with
  | firmware => decide
  | llt => decide
  | macAddr => decide
  | rf => decide
  | queueDma =>
    rcases hlayout : productionQueueLayoutFromEndpoints state.bulkOutAll with error | layout
    · rw [productionInitPhase, hlayout] at hrun
      have hfailed := (Prod.ext_iff.1 hrun).1
      cases hfailed
    · rw [phaseEffect, hlayout] at hnone
      cases hnone
  | channel =>
    rcases htarget : state.target s.transport.file with error | target
    · have hfails : Performs (fun _ => True) (productionInitPhase state .channel) (fun _ => False)
          ((RegisterStep.effects rfPreflightSteps).andThen .empty) :=
        (performs_unplanned state.registers htarget).next fun _ hfalse => hfalse.elim
      exact ((hfails.outcome trivial hrun).2 result rfl).1.elim
    · rw [phaseEffect, htarget] at hnone
      cases hnone
  | _ => cases hnone

/-- the phase had its effect, if it has one -/
structure PhaseDone (phase : Rtl8812auInitPhase) (start after : StuckRegisters) : Prop where
  reached : ∀ e, phaseEffect state phase start = some e → StuckRegisters.Reached e start after
  answered : phaseEffect state phase start = none → phase ∈ answeredPhases

namespace PhaseDone

variable {state} {phase : Rtl8812auInitPhase} {start after : StuckRegisters}

theorem effect (h : PhaseDone state phase start after) (hphase : phase ∉ answeredPhases) :
    ∃ e, phaseEffect state phase start = some e ∧ StuckRegisters.Reached e start after := by
  rcases he : phaseEffect state phase start with _ | e
  · exact absurd (h.answered he) hphase
  · exact ⟨e, rfl, h.reached e he⟩

theorem crystal_in (h : PhaseDone state .bb start after) : crystalField.In after := crystalField_in (h.reached _ rfl)

theorem mac_in (h : PhaseDone state .mac start after) :
    ∀ field ∈ macFields (rxdmaProValue (start.byteAt 0x00ff) (start.byteAt 0xfe17) 0), field.In after :=
  macFields_in (h.reached _ rfl)

theorem queueDma_in (h : PhaseDone state .queueDma start after) :
    ∃ layout, productionQueueLayoutFromEndpoints state.bulkOutAll = .ok layout ∧
      ∀ field ∈ queueDmaFields layout, field.In after := by
  obtain ⟨e, he, hreached⟩ := h.effect (by decide)
  rcases hlayout : productionQueueLayoutFromEndpoints state.bulkOutAll with error | layout
  · rw [phaseEffect, hlayout] at he
    cases he
  · rw [phaseEffect, hlayout] at he
    obtain rfl := Option.some.inj he
    exact ⟨layout, rfl, queueDmaFields_in hlayout hreached⟩

theorem channel_in (h : PhaseDone state .channel start after) :
    ∃ target, state.target start = .ok target ∧ ∀ field ∈ target.fields, field.In after := by
  obtain ⟨e, he, hreached⟩ := h.effect (by decide)
  rcases htarget : state.target start with error | target
  · rw [phaseEffect, htarget] at he
    cases he
  · rw [phaseEffect, htarget] at he
    obtain rfl := Option.some.inj he
    refine ⟨target, rfl, ChannelTarget.fields_in hreached ?_⟩
    rw [(ChannelTarget.lookUp_ok htarget).2.2.1, StuckRegisters.toNat_byteAt]

end PhaseDone

theorem productionInit_phaseWorks :
    PhaseWorks (runRtl8812auProductionInitPhase state) (phaseRegion state) (PhaseDone state) := by
  intro phase session
  rcases hrun : (productionInitPhase state phase).exec ⟨session.transport, session.counters⟩ with ⟨outcome, run⟩
  have hregion := (confined_phase state phase).outcome hrun
  unfold runRtl8812auProductionInitPhase
  rw [hrun]
  refine ⟨hregion, fun summary hsummary => ?_⟩
  cases outcome with
  | error error => cases hsummary
  | ok result =>
    have hanswered := phaseEffect_of_ok state hrun
    have hdone : PhaseDone state phase session.transport.file run.transport.file :=
      ⟨fun e he => (((performs_phase state he).outcome rfl hrun).2 result rfl).2, hanswered⟩
    exact hdone

end Adapter

/-! ## The whole sequence -/

/-- a session that fails at the decision has not begun -/
theorem sameSessionInit_run {runPhase : InitPhaseRunner (FaultyDevice StuckRegisters)}
    {config : RuntimeSameSessionInitConfig} {session session' : RuntimeRadioSession (FaultyDevice StuckRegisters)}
    {outcome : Except RuntimeSameSessionInitFailure RuntimeSameSessionInitResult}
    (hrun : runRtl8812auSameSessionInit runPhase config session = (outcome, session')) :
    ((∀ result, outcome ≠ .ok result) ∧ session' = session) ∨
      ∃ phases, runInitPhases runPhase (rtl8812auSameSessionInitSequence config.initOrder) [] session
        = (phases, session') ∧ ∀ result, outcome = .ok result → ∃ summaries, phases = .ok summaries := by
  rw [runRtl8812auSameSessionInit] at hrun
  rcases hdecision : config.calibrationDecision with error | calibration
  · rw [hdecision] at hrun
    obtain ⟨rfl, rfl⟩ := Prod.ext_iff.1 hrun
    refine .inl ⟨?_, rfl⟩
    rintro result ⟨⟩
  · rw [hdecision] at hrun
    rcases hphases : runInitPhases runPhase (rtl8812auSameSessionInitSequence config.initOrder) [] session
      with ⟨phases, session₁⟩
    have hattempt : (Action.attempt (runInitPhases runPhase (rtl8812auSameSessionInitSequence config.initOrder) []) :
        Action (RuntimeRadioSession (FaultyDevice StuckRegisters)) RuntimeSameSessionInitFailure _) session
          = (.ok phases, session₁) := by
      rw [Action.attempt_run, hphases]
    dsimp only at hrun
    rw [Action.bind_of_ok hattempt] at hrun
    rcases phases with ⟨summaries, error⟩ | summaries
    · obtain ⟨rfl, rfl⟩ := Prod.ext_iff.1 hrun
      refine .inr ⟨_, rfl, ?_⟩
      rintro result ⟨⟩
    · obtain ⟨rfl, rfl⟩ := Prod.ext_iff.1 hrun
      exact .inr ⟨_, rfl, fun _ _ => ⟨summaries, rfl⟩⟩

/-! ## The hardware -/

/-- the bytes of `REG_MCUFWDL` -/
def hardwareBytes : List UInt16 := [regMcufwdl, regMcufwdl + 1, regMcufwdl + 2, regMcufwdl + 3]

def hardwareRegion (address : UInt16) : Prop := address ∈ hardwareBytes

/-- what the hardware does on its own before a phase -/
structure Hardware where
  act : Rtl8812auInitPhase → StuckRegisters → StuckRegisters
  outside : ∀ phase file, Outside hardwareRegion file (act phase file)

/-- hardware that does nothing -/
def Hardware.idle : Hardware := ⟨fun _ file => file, fun _ file => .refl _ file⟩

/-- the hardware acts, then the phase runs -/
def Hardware.before (hardware : Hardware) (runPhase : InitPhaseRunner (FaultyDevice StuckRegisters)) :
    InitPhaseRunner (FaultyDevice StuckRegisters) := fun phase session =>
  runPhase phase
    { session with transport := { session.transport with file := hardware.act phase session.transport.file } }

section Done

variable (state : Rtl8812auProductionInitState)

/-- the addresses that some phases and the hardware write to -/
def initRegion (phases : List Rtl8812auInitPhase) (address : UInt16) : Prop :=
  regionOf (phaseRegion state) phases address ∨ hardwareRegion address

/-- a phase in front of which the hardware acted -/
theorem hardware_phaseWorks (hardware : Hardware) :
    PhaseWorks (hardware.before (runRtl8812auProductionInitPhase state))
      (fun phase address => phaseRegion state phase address ∨ hardwareRegion address)
      fun phase start after => ∃ begun, Outside hardwareRegion start begun ∧ PhaseDone state phase begun after := by
  intro phase session
  have hacted := hardware.outside phase session.transport.file
  obtain ⟨hregion, hdone⟩ := productionInit_phaseWorks state phase
    { session with transport := { session.transport with file := hardware.act phase session.transport.file } }
  refine ⟨(hacted.weaken fun _ => .inr).trans (hregion.weaken fun _ => .inl), fun summary hsummary => ?_⟩
  exact ⟨_, hacted, hdone summary hsummary⟩

theorem initRegion_of_region {phases : List Rtl8812auInitPhase} {address : UInt16}
    (h : regionOf (fun phase address => phaseRegion state phase address ∨ hardwareRegion address) phases address) :
    initRegion state phases address := by
  obtain ⟨phase, hphase, hin⟩ := h
  exact hin.imp_left fun hin => ⟨phase, hphase, hin⟩

/-- the phases of the adapter, and what each of them has done if they return -/
theorem initPhases_done {hardware : Hardware} {phases : List Rtl8812auInitPhase}
    {session session' : RuntimeRadioSession (FaultyDevice StuckRegisters)}
    {outcome : Except (List RuntimeSameSessionInitPhaseSummary × RuntimeRadioError)
      (List RuntimeSameSessionInitPhaseSummary)}
    (hrun : runInitPhases (hardware.before (runRtl8812auProductionInitPhase state)) phases [] session
      = (outcome, session')) :
    Outside (initRegion state phases) session.transport.file session'.transport.file ∧
    ∀ summaries, outcome = .ok summaries → ∀ before phase later, phases = before ++ phase :: later →
      ∃ start after, Outside (initRegion state before) session.transport.file start ∧
        PhaseDone state phase start after ∧ Outside (initRegion state later) after session'.transport.file := by
  obtain ⟨hregion, hdone⟩ := runInitPhases_done (hardware_phaseWorks state hardware) phases [] session
  rw [hrun] at hregion hdone
  refine ⟨hregion.weaken fun _ => initRegion_of_region state, fun summaries hok before phase later hsplit => ?_⟩
  obtain ⟨start, after, hstart, ⟨begun, hbegun, hwork⟩, hafter⟩ := hdone summaries hok before phase later hsplit
  refine ⟨begun, after, ?_, hwork, hafter.weaken fun _ => initRegion_of_region state⟩
  exact (hstart.weaken fun _ => initRegion_of_region state).trans (hbegun.weaken fun _ => .inr)

/-- the whole sequence, on hardware that does nothing -/
theorem productionInit_outside {initOrder : Rtl8812auInitOrder} {txCalibrationProfile : TxCalibrationProfile}
    {liveWriteAuthorized capturedTailApplied : Bool}
    {session session' : RuntimeRadioSession (FaultyDevice StuckRegisters)}
    {outcome : Except RuntimeSameSessionInitFailure RuntimeSameSessionInitResult}
    (hrun : runRtl8812auProductionInit state initOrder txCalibrationProfile liveWriteAuthorized capturedTailApplied
      session = (outcome, session')) :
    Outside (initRegion state (rtl8812auSameSessionInitSequence initOrder)) session.transport.file
      session'.transport.file := by
  rcases sameSessionInit_run hrun with ⟨-, rfl⟩ | ⟨phases, hphases, -⟩
  · exact .refl _ _
  · have hidle : Hardware.idle.before (runRtl8812auProductionInitPhase state) = runRtl8812auProductionInitPhase state :=
      rfl
    rw [← hidle] at hphases
    exact (initPhases_done state hphases).1

/-- **The phases of the init sequence**, all of them or any others, one after the other. Whichever transfers fail and
whichever bits are stuck: registers outside the regions of the phases and of the hardware are left alone. If they return,
each phase began with registers that the phases before it and the hardware wrote at most, had its effect, and every field
that it found is there at the end, unless a later phase or the hardware writes to it. -/
theorem productionInit_registers {hardware : Hardware} {phases : List Rtl8812auInitPhase}
    {session session' : RuntimeRadioSession (FaultyDevice StuckRegisters)}
    {outcome : Except (List RuntimeSameSessionInitPhaseSummary × RuntimeRadioError)
      (List RuntimeSameSessionInitPhaseSummary)}
    (hrun : runInitPhases (hardware.before (runRtl8812auProductionInitPhase state)) phases [] session
      = (outcome, session')) :
    Outside (initRegion state phases) session.transport.file session'.transport.file ∧
    ∀ summaries, outcome = .ok summaries → ∀ before phase later, phases = before ++ phase :: later →
      ∃ start after, Outside (initRegion state before) session.transport.file start ∧
        PhaseDone state phase start after ∧ Outside (initRegion state later) after session'.transport.file ∧
        ∀ e, phaseEffect state phase start = some e → ∀ field : RegisterField, field.Fits → field.FoundIn e.finds →
          field.Apart (initRegion state later) → field.In session'.transport.file := by
  obtain ⟨hregion, hdone⟩ := initPhases_done state hrun
  refine ⟨hregion, fun summaries hok before phase later hsplit => ?_⟩
  obtain ⟨start, after, hstart, hwork, hafter⟩ := hdone summaries hok before phase later hsplit
  refine ⟨start, after, hstart, hwork, hafter, fun e he field hfits hfound hapart => hafter.field hapart ?_⟩
  exact RegisterField.in_of_found (hwork.reached e he).bits.found hfound hfits.1 hfits.2

end Done

/-! ## What stays of each phase -/

/-- an address that a phase leaves alone, where the tables of the baseband write to the baseband only -/
def phaseSpares (phase : Rtl8812auInitPhase) (address : UInt16) : Bool :=
  match phase with
  | .mac => RegisterStep.avoid (macSteps 0 0) address
  | .macAddr => !(efuseTouched ++ macidAddresses).contains address
  | .bb => decide (address.toNat < 0x800) && RegisterStep.avoid bbResetSteps address &&
      RegisterStep.avoid [setField regMacPhyCtrl 4 rtl8812CrystalCapMask.toNat 0] address
  | .rf => [RadioPath.a, .b].all fun path => (List.range 4).all fun k => serialRegister path + UInt16.ofNat k != address
  | .channel => RegisterStep.avoid channelShapes address
  | .txSchedulerTail => RegisterStep.avoid txSchedulerTailSteps address
  | .rfCalibrationBeforeChannel | .rfCalibrationAfterChannel | .rfCalibrationBeforeTx => true
  | .powerOn | .firmware | .llt | .macTable | .queueDma => false

/-- each byte of the field is left alone by the hardware and by each of the phases -/
def sparedByPhases (phases : List Rtl8812auInitPhase) (field : RegisterField) : Bool :=
  (List.range field.bytes).all fun k => !hardwareBytes.contains (field.address + UInt16.ofNat k) &&
    phases.all fun phase => phaseSpares phase (field.address + UInt16.ofNat k)

section Stays

variable (state : Rtl8812auProductionInitState)

/-- no table of the baseband writes below its registers -/
def Rtl8812auProductionInitState.BasebandOnly : Prop :=
  ∀ address : UInt16, address.toNat < 0x800 → ¬overwriteRegion (bbTables state.phyPlan state.agcPlan).writes address

variable {state}

theorem not_region_of_spares {phase : Rtl8812auInitPhase} {address : UInt16} (hbb : phase = .bb → state.BasebandOnly)
    (h : phaseSpares phase address = true) : ¬phaseRegion state phase address := by
  cases phase with
  | mac => exact ne_false_of_eq_true h
  | macAddr =>
    intro hin
    rw [phaseSpares, List.contains_iff_mem.2 hin] at h
    cases h
  | bb =>
    simp only [phaseSpares, Bool.and_eq_true, decide_eq_true_eq] at h
    obtain ⟨⟨hlow, hreset⟩, hcrystal⟩ := h
    rintro ⟨i, hsome⟩
    refine hsome (Overwrite.andThen_eq_none.2 ⟨Overwrite.andThen_eq_none.2 ⟨?_, ?_⟩, ?_⟩)
    · exact RegisterStep.writes_of_avoid hreset
    · exact overwrite_of_region (hbb rfl address hlow)
    · have hstep : RegisterStep.avoid [setField regMacPhyCtrl 4 rtl8812CrystalCapMask.toNat
          (shifted rtl8812CrystalCapMask crystalCap).toNat] (address, i).1 = true := hcrystal
      have hone (step : RegisterStep) : RegisterStep.effects [step] = step.effect := Effect.andThen_empty step.effect
      have hwrites := RegisterStep.writes_of_avoid hstep
      rwa [hone] at hwrites
  | rf =>
    rintro ⟨path, k, hk, rfl⟩
    have hpath := List.all_eq_true.1 h path (by cases path <;> decide)
    have hword := List.all_eq_true.1 hpath k (List.mem_range.2 hk)
    exact bne_iff_ne.1 hword rfl
  | channel =>
    rintro ⟨start, target, -, hin⟩
    have havoid := ChannelTarget.avoid_steps target h
    rw [RegisterStep.region, havoid] at hin
    cases hin
  | txSchedulerTail => exact ne_false_of_eq_true h
  | rfCalibrationBeforeChannel => exact id
  | rfCalibrationAfterChannel => exact id
  | rfCalibrationBeforeTx => exact id
  | _ => cases h

theorem apart_of_sparedByPhases {phases : List Rtl8812auInitPhase} {field : RegisterField}
    (hbb : .bb ∈ phases → state.BasebandOnly) (h : sparedByPhases phases field = true) :
    field.Apart (initRegion state phases) := by
  intro k hk hin
  obtain ⟨hhardware, hphases⟩ := Bool.and_eq_true_iff.1 (List.all_eq_true.1 h k (List.mem_range.2 hk))
  rcases hin with ⟨phase, hphase, hin⟩ | hin
  · have hspares := List.all_eq_true.1 hphases phase hphase
    exact not_region_of_spares (fun heq => hbb (heq ▸ hphase)) hspares hin
  · rw [List.contains_iff_mem.2 hin] at hhardware
    cases hhardware

/-- fewer phases leave no less alone -/
theorem sparedByPhases_subset {phases later : List Rtl8812auInitPhase} (hsubset : later ⊆ phases)
    {field : RegisterField} (h : sparedByPhases phases field = true) : sparedByPhases later field = true := by
  refine List.all_eq_true.2 fun k hk => ?_
  obtain ⟨hhardware, hphases⟩ := Bool.and_eq_true_iff.1 (List.all_eq_true.1 h k hk)
  refine Bool.and_eq_true_iff.2 ⟨hhardware, List.all_eq_true.2 fun phase hphase => ?_⟩
  exact List.all_eq_true.1 hphases phase (hsubset hphase)

end Stays

/-! ## The adapter that is ready -/

section Sequence

def afterMac : List Rtl8812auInitPhase :=
  [.macAddr, .bb, .rf, .rfCalibrationBeforeChannel, .channel, .rfCalibrationAfterChannel, .txSchedulerTail,
    .rfCalibrationBeforeTx]

/-- in both orders, the MAC phases come behind the firmware and the link table -/
theorem sequence_mac (initOrder : Rtl8812auInitOrder) :
    ∃ before, rtl8812auSameSessionInitSequence initOrder = before ++ .queueDma :: .mac :: afterMac := by
  cases initOrder with
  | default => exact ⟨[.powerOn, .firmware, .llt, .macTable], rfl⟩
  | linux => exact ⟨[.powerOn, .llt, .firmware, .macTable], rfl⟩

/-- what is behind a phase of a selection is behind it in the sequence; induction on what is in front of it there -/
theorem sublist_behind {before behind later : List Rtl8812auInitPhase} {phase : Rtl8812auInitPhase}
    (hnew : phase ∉ before) (h : (phase :: later).Sublist (before ++ phase :: behind)) : later.Sublist behind := by
  induction before with
  | nil => exact List.cons_sublist_cons.1 h
  | cons first before ih =>
    obtain ⟨hfirst, hnew⟩ := not_or.1 (mt List.mem_cons.2 hnew)
    cases h with
    | cons _ h => exact ih hnew h
    | cons_cons => exact absurd rfl hfirst

/-- a phase of the sequence that is selected, and what may be behind it -/
theorem selected_split {initOrder : Rtl8812auInitOrder} {phases front behind : List Rtl8812auInitPhase}
    {phase : Rtl8812auInitPhase} (hphases : phases.Sublist (rtl8812auSameSessionInitSequence initOrder))
    (hsplit : .queueDma :: .mac :: afterMac = front ++ phase :: behind) (hphase : phase ∈ phases) :
    ∃ before later, phases = before ++ phase :: later ∧ later ⊆ behind := by
  obtain ⟨before, later, rfl⟩ := List.append_of_mem hphase
  obtain ⟨first, hfirst⟩ := sequence_mac initOrder
  have hsequence : rtl8812auSameSessionInitSequence initOrder = (first ++ front) ++ phase :: behind := by
    rw [hfirst, hsplit, List.append_assoc]
  have hnodup : (rtl8812auSameSessionInitSequence initOrder).Nodup := by cases initOrder <;> decide
  rw [hsequence] at hnodup hphases
  have hnew : phase ∉ first ++ front := fun hmem =>
    (List.nodup_append.1 hnodup).2.2 phase hmem phase List.mem_cons_self rfl
  exact ⟨before, later, rfl, (sublist_behind hnew ((List.sublist_append_right _ _).trans hphases)).subset⟩

theorem channelFields_spared : ∀ field ∈ channelFieldShapes, sparedByPhases
    [.rfCalibrationAfterChannel, .txSchedulerTail, .rfCalibrationBeforeTx] field = true := by
  decide +kernel

theorem crystalField_spared : sparedByPhases [.rf, .rfCalibrationBeforeChannel, .channel, .rfCalibrationAfterChannel,
    .txSchedulerTail, .rfCalibrationBeforeTx] crystalField = true := by
  decide +kernel

/-- the fields of the MAC phase that stay: the channel sets the basic rates again, and the hardware the firmware bits -/
def macKept (field : RegisterField) : Bool := field.address != regRrsr && field.address != regMcufwdl

theorem macFields_spared (rxdmaPro : UInt8) : ∀ field ∈ macFields rxdmaPro, macKept field = true →
    sparedByPhases afterMac field = true := by
  have hall : ∀ field ∈ (macFields 0).map RegisterField.shape, macKept field = true →
      sparedByPhases afterMac field = true := by
    decide +kernel
  have hsame : (macFields rxdmaPro).map RegisterField.shape = (macFields 0).map RegisterField.shape := rfl
  intro field hfield hkept
  exact hall field.shape (hsame ▸ List.mem_map_of_mem hfield) hkept

/-- the MAC phase writes `REG_CR` again -/
theorem queueDmaFields_spared (layout : ProductionQueueLayout) :
    ∀ field ∈ queueDmaFields layout, field.address ≠ regCr → sparedByPhases (.mac :: afterMac) field = true := by
  have hall : ∀ field ∈ (queueDmaFields threeQueueLayout).map RegisterField.shape, field.address ≠ regCr →
      sparedByPhases (.mac :: afterMac) field = true := by
    decide +kernel
  have hsame : (queueDmaFields layout).map RegisterField.shape
      = (queueDmaFields threeQueueLayout).map RegisterField.shape := rfl
  intro field hfield haddress
  exact hall field.shape (hsame ▸ List.mem_map_of_mem hfield) haddress

end Sequence

/-- **The adapter that is ready.** Where phases of the init sequence return, in its order and on any hardware, their
fields are set at the end: the crystal cap, every field of the channel, and, if the tables of the baseband write to the
baseband only, the queues as the endpoints ask and the MAC, but for what a later phase sets again. What the channel and
the MAC read of the adapter is as before the phases, outside their regions. -/
theorem productionInit_ready (state : Rtl8812auProductionInitState) {initOrder : Rtl8812auInitOrder}
    {hardware : Hardware} {phases : List Rtl8812auInitPhase}
    {session session' : RuntimeRadioSession (FaultyDevice StuckRegisters)}
    {summaries : List RuntimeSameSessionInitPhaseSummary}
    (hphases : phases.Sublist (rtl8812auSameSessionInitSequence initOrder))
    (hrun : runInitPhases (hardware.before (runRtl8812auProductionInitPhase state)) phases [] session
      = (.ok summaries, session')) :
    (.bb ∈ phases → crystalField.In session'.transport.file) ∧
    (.channel ∈ phases → ∃ start target, Outside (initRegion state phases) session.transport.file start ∧
      state.target start = .ok target ∧ ∀ field ∈ target.fields, field.In session'.transport.file) ∧
    (state.BasebandOnly → .queueDma ∈ phases →
      ∃ layout, productionQueueLayoutFromEndpoints state.bulkOutAll = .ok layout ∧
        ∀ field ∈ queueDmaFields layout, field.address ≠ regCr → field.In session'.transport.file) ∧
    (state.BasebandOnly → .mac ∈ phases →
      ∃ start, Outside (initRegion state phases) session.transport.file start ∧
        ∀ field ∈ macFields (rxdmaProValue (start.byteAt 0x00ff) (start.byteAt 0xfe17) 0), macKept field = true →
          field.In session'.transport.file) := by
  have hphase (front behind : List Rtl8812auInitPhase) (phase : Rtl8812auInitPhase)
      (hsplit : .queueDma :: .mac :: afterMac = front ++ phase :: behind) (hmem : phase ∈ phases) :
      ∃ start after later, later ⊆ behind ∧ Outside (initRegion state phases) session.transport.file start ∧
        PhaseDone state phase start after ∧ Outside (initRegion state later) after session'.transport.file := by
    obtain ⟨before, later, hphases, hlater⟩ := selected_split hphases hsplit hmem
    obtain ⟨start, after, hstart, hwork, hafter⟩ := (initPhases_done state hrun).2 summaries rfl before phase later hphases
    refine ⟨start, after, later, hlater, hstart.weaken fun address hin => hin.imp_left ?_, hwork, hafter⟩
    rintro ⟨earlier, hearlier, hin⟩
    exact ⟨earlier, hphases ▸ List.mem_append_left _ hearlier, hin⟩
  refine ⟨fun hmem => ?_, fun hmem => ?_, fun hbb hmem => ?_, fun hbb hmem => ?_⟩
  · obtain ⟨start, after, later, hlater, -, hwork, hafter⟩ := hphase [.queueDma, .mac, .macAddr] _ .bb rfl hmem
    have hspared := sparedByPhases_subset hlater crystalField_spared
    refine hafter.field (apart_of_sparedByPhases (fun h => ?_) hspared) hwork.crystal_in
    exact absurd (hlater h) (by decide)
  · obtain ⟨start, after, later, hlater, hstart, hwork, hafter⟩ :=
      hphase [.queueDma, .mac, .macAddr, .bb, .rf, .rfCalibrationBeforeChannel] _ .channel rfl hmem
    obtain ⟨target, htarget, hfields⟩ := hwork.channel_in
    refine ⟨start, target, hstart, htarget, fun field hfield => ?_⟩
    have hspared : sparedByPhases _ field = true := channelFields_spared field.shape (target.fields_shape field hfield)
    refine hafter.field (apart_of_sparedByPhases (fun h => ?_) (sparedByPhases_subset hlater hspared))
      (hfields field hfield)
    exact absurd (hlater h) (by decide)
  · obtain ⟨start, after, later, hlater, -, hwork, hafter⟩ := hphase [] _ .queueDma rfl hmem
    obtain ⟨layout, hlayout, hfields⟩ := hwork.queueDma_in
    refine ⟨layout, hlayout, fun field hfield haddress => ?_⟩
    have hspared := sparedByPhases_subset hlater (queueDmaFields_spared layout field hfield haddress)
    exact hafter.field (apart_of_sparedByPhases (fun _ => hbb) hspared) (hfields field hfield)
  · obtain ⟨start, after, later, hlater, hstart, hwork, hafter⟩ := hphase [.queueDma] _ .mac rfl hmem
    refine ⟨start, hstart, fun field hfield hkept => ?_⟩
    have hspared := sparedByPhases_subset hlater (macFields_spared _ field hfield hkept)
    exact hafter.field (apart_of_sparedByPhases (fun _ => hbb) hspared) (hwork.mac_in field hfield)

/-! ## A bench -/

/-- an adapter all of whose registers are set: the power-on bit clears itself, and the firmware runs once it is loaded -/
def initBench : RuntimeRadioSession (FaultyDevice StuckRegisters) where
  transport := {
    file := {
      bits := fun c => c.1 ≠ regApsFsmcoPlus1 ∨ c.2.val ≠ 0
      writable := fun c => (c.1 ≠ regApsFsmcoPlus1 ∨ c.2.val ≠ 0) ∧ (c.1 ≠ regMcufwdl ∨ c.2.val ≠ 6) }
    failing := fun _ => none }
  endpoints := ⟨none, none⟩

/-- the hardware reports the firmware that was loaded -/
def firmwareReported : Hardware where
  act phase file := if phase = .macTable then file.write (wordWrite regMcufwdl 1 0xc2) else file
  outside phase file := by
    split
    · refine .of_write file fun c hc => wordWrite_apart (fun k hk => ?_) _ hc
      obtain rfl := Nat.lt_one_iff.1 hk
      exact List.mem_cons_self
    · exact .refl _ _

def initBenchState : Rtl8812auProductionInitState where
  firmwareImage := ⟨.inMemory, 0x11, [0x11], by decide, by decide⟩
  macPlan := twoWritesPlan
  phyPlan := phySamplePlan
  agcPlan := phySamplePlan
  radioaPlan := radioaSamplePlan
  radiobPlan := radioaSamplePlan
  rfeType := 3
  initTimeout := 100
  channel := ⟨36, 5180, .ghz5⟩
  bandwidth := .mhz20
  bulkOutAll := [1, 2, 3]
  clocks := steadyClocks

def initBenchRun (phases : List Rtl8812auInitPhase) :
    Except (List RuntimeSameSessionInitPhaseSummary × RuntimeRadioError) (List RuntimeSameSessionInitPhaseSummary) ×
      RuntimeRadioSession (FaultyDevice StuckRegisters) :=
  runInitPhases (firmwareReported.before (runRtl8812auProductionInitPhase initBenchState)) phases [] initBench

/-- the sequence up to the baseband tables, but for the link table and the address -/
def setupPhases : List Rtl8812auInitPhase := [.powerOn, .firmware, .macTable, .queueDma, .mac, .bb]

/-- the phases that the channel cannot be tuned without -/
def tuningPhases : List Rtl8812auInitPhase := [.powerOn, .firmware, .macTable, .channel]

theorem initBench_returns : (initBenchRun setupPhases).1.isOk = true ∧ (initBenchRun tuningPhases).1.isOk = true := by
  constructor
  · decide +kernel
  · decide +kernel

theorem initBench_run {phases : List Rtl8812auInitPhase} (h : (initBenchRun phases).1.isOk = true) :
    ∃ summaries, initBenchRun phases = (.ok summaries, (initBenchRun phases).2) := by
  obtain ⟨summaries, hok⟩ := isOk_iff.1 h
  exact ⟨summaries, Prod.mk.eta.symm.trans (congrArg (fun outcome => (outcome, (initBenchRun phases).2)) hok)⟩

/-- its tables write to one register of the baseband -/
theorem initBench_basebandOnly : initBenchState.BasebandOnly := by
  have hplace : (0x800 : UInt16).toNat = 0x800 := rfl
  have hfirst : ∃ mask value, actionOverwrite (bbTarget phySamplePlan) bbPlace (tableAction .bbPhy 0 (0x800, 0x8020d010))
      = fieldWrite 0x800 4 mask value := ⟨_, _, rfl⟩
  have hsecond : actionOverwrite (bbTarget phySamplePlan) bbPlace (tableAction .bbPhy 1 (0xfe, 0)) = .empty := rfl
  have hactions : phySamplePlan.actions
      = [tableAction .bbPhy 0 (0x800, 0x8020d010), tableAction .bbPhy 1 (0xfe, 0)] := rfl
  obtain ⟨mask, value, hfirst⟩ := hfirst
  rintro address hlow ⟨i, hsome⟩
  have hfar : 8 * 4 ≤ bitIndex 0x800 (address, i) := by
    change 8 * 4 ≤ 8 * (address - 0x800).toNat + i
    rw [UInt16.toNat_sub, hplace]
    omega
  have htable : tableOverwrite (bbTarget phySamplePlan) bbPlace phySamplePlan.actions (address, i) = none := by
    rw [hactions, tableOverwrite, List.map_cons, List.map_singleton, hfirst, hsecond]
    exact Overwrite.andThen_eq_none.2 ⟨fieldWrite_of_le hfar mask value, rfl⟩
  exact hsome (Overwrite.andThen_eq_none.2 ⟨htable, htable⟩)

theorem productionInit_registers_initBench : ∃ start after, PhaseDone initBenchState .mac start after ∧
    Outside (initRegion initBenchState [.bb]) after (initBenchRun setupPhases).2.transport.file := by
  obtain ⟨summaries, hrun⟩ := initBench_run initBench_returns.1
  obtain ⟨start, after, -, hwork, hafter, -⟩ := (productionInit_registers initBenchState hrun).2 summaries rfl
    [.powerOn, .firmware, .macTable, .queueDma] .mac [.bb] rfl
  exact ⟨start, after, hwork, hafter⟩

theorem productionInit_ready_initBench :
    (crystalField.In (initBenchRun setupPhases).2.transport.file ∧
      ∀ field ∈ queueDmaFields threeQueueLayout, field.address ≠ regCr →
        field.In (initBenchRun setupPhases).2.transport.file) ∧
    ∃ target : ChannelTarget, target.channel.number = 36 ∧
      ∀ field ∈ target.fields, field.In (initBenchRun tuningPhases).2.transport.file := by
  constructor
  · obtain ⟨summaries, hrun⟩ := initBench_run initBench_returns.1
    have hphases : setupPhases.Sublist (rtl8812auSameSessionInitSequence .default) := by decide
    obtain ⟨hcrystal, -, hqueue, -⟩ := productionInit_ready initBenchState hphases hrun
    obtain ⟨layout, hlayout, hlayoutFields⟩ := hqueue initBench_basebandOnly (by decide)
    have hthree : productionQueueLayoutFromEndpoints initBenchState.bulkOutAll = .ok threeQueueLayout := by
      decide +kernel
    obtain rfl := Except.ok.inj (hlayout.symm.trans hthree)
    exact ⟨hcrystal (by decide), hlayoutFields⟩
  · obtain ⟨summaries, hrun⟩ := initBench_run initBench_returns.2
    have hphases : tuningPhases.Sublist (rtl8812auSameSessionInitSequence .default) := by decide
    obtain ⟨-, hchannel, -⟩ := productionInit_ready initBenchState hphases hrun
    obtain ⟨start, target, -, htarget, hfields⟩ := hchannel (by decide)
    obtain ⟨-, ⟨hnumber, -⟩, -⟩ := ChannelTarget.lookUp_ok htarget
    exact ⟨target, congrArg Channel.number hnumber, hfields⟩

end WfbLink.Runtime
