/-
Monitor opmode (`run_rtl8812au_monitor_opmode`) on registers some bits of which are stuck. The sequence does not check
what it reads back, it reports it.

- `performs_monitorOpmode`: the effect.
- `acts_monitorOpmode`: the report.
- `monitor_registers`: the registers afterwards, and what the report says of them.
-/
import WfbLink.Runtime.Confined

namespace WfbLink.Runtime

open WfbLink.Core WfbLink.RadioCore StuckRegisters

variable {α : Type}

/-! ## Accesses that keep what is known -/

/-- the addresses of a word -/
def wordRegion (address : UInt16) (n : ℕ) (place : UInt16) : Prop := ∃ k < n, place = address + UInt16.ofNat k

/-- a word reads the same after a write beside it -/
theorem value_write_apart (file : StuckRegisters) {address address' : UInt16} {n n' : ℕ}
    (hapart : ∀ k < n', ∀ j < n, address' + UInt16.ofNat k ≠ address + UInt16.ofNat j) (value : ℕ) :
    (file.write (wordWrite address n value)).value address' n' = file.value address' n' := by
  have hregion : ∀ k < n, wordRegion address n (address + UInt16.ofNat k) := fun k hk => ⟨k, hk, rfl⟩
  have houtside : Outside (wordRegion address n) file (file.write (wordWrite address n value)) :=
    .of_write file fun c hc => wordWrite_apart hregion value hc
  apply houtside.value
  rintro k hk ⟨j, hj, heq⟩
  exact hapart k hk j hj heq

theorem ReadsValue.keeps {read : RegisterAction α} {toNat : α → ℕ} {address : UInt16} {n : ℕ}
    (h : ReadsValue read toNat address n) (P : StuckRegisters → Prop) :
    Acts True P read (fun value file => toNat value = file.value address n ∧ P file) fun _ => True := by
  apply Acts.of_files
  intro start hstart
  refine (h True start).weaken (fun _ h => h) ?_ fun _ _ => trivial
  rintro value file ⟨hvalue, rfl⟩
  exact ⟨hvalue, hstart⟩

theorem Writes.keeps {write : RegisterAction Unit} {o : Overwrite RegisterBit Bool} (h : Writes write o)
    {P : StuckRegisters → Prop} (hP : ∀ file, P file → P (file.write o)) :
    Acts True P write (fun _ => P) fun _ => True := by
  apply Acts.of_files
  intro start hstart
  refine (h True start).weaken (fun _ h => h) ?_ fun _ _ => trivial
  rintro _ file rfl
  exact hP start hstart

/-! ## The effect -/

def receiveConfigField : RegisterField := ⟨regRcr, 4, 0xffffffff, monitorReceiveConfig.toNat⟩

def monitorFilterSteps : List RegisterStep :=
  [blindField regRcr 4 0xffffffff monitorReceiveConfig.toNat, blindField regRxfltmap2 2 0xffff 0xffff]

/-- nothing is looked for -/
def monitorSteps : List RegisterStep := blindField regMsr 1 msrPort0NettypeMask.toNat 0 :: monitorFilterSteps

section Opmode

variable {P : StuckRegisters → Prop} (registers : Rtl8812auRegisterAccess) (phase : String)

theorem performs_monitorFilter :
    Performs P (runMonitorReceiveFilterRegisters registers phase) (fun _ => True)
      (RegisterStep.effects monitorFilterSteps) := by
  refine (performs_write32 registers _ _ _ _).cons fun _ _ => ?_
  refine (readsValue32 registers _ _ _).performs.bind_empty fun rcrAfter _ => ?_
  refine (performs_write16 registers _ _ _ _).cons fun _ _ => ?_
  exact (readsValue16 registers _ _ _).performs.bind_empty fun rxfltmap2After _ => Performs.pure trivial

theorem performs_monitorOpmode :
    Performs P (runRtl8812auMonitorOpmode registers) (fun _ => True) (RegisterStep.effects monitorSteps) := by
  refine Performs.counters.bind_empty fun before _ => ?_
  intro start _
  have hread := (readsValue8 registers regMsr "REG_MSR" "pre-monitor-opmode").acts start
  apply Acts.bind (hread.weaken (fun _ h => h) (fun _ _ h => h) fun file hfile => hfile ▸ .refl _ _)
  intro msrBefore
  apply Acts.assume
  intro hbefore
  have hkept : ∀ j < 8 * 1, (msrBefore &&& ~~~msrPort0NettypeMask).toNat.testBit j
      = if msrPort0NettypeMask.toNat.testBit j then Nat.testBit 0 j else (start.value regMsr 1).testBit j := by
    intro j hj
    rw [← hbefore]
    exact testBit_clearing8 msrPort0NettypeMask msrBefore hj
  have hwrite := performs_written
    (writesValue8 registers regMsr "REG_MSR" "monitor/no-link" (msrBefore &&& ~~~msrPort0NettypeMask)) hkept
  refine (hwrite.cons fun _ _ => ?_) start rfl
  refine (readsValue8 registers _ _ _).performs.bind_empty fun msrAfter _ => ?_
  rw [← Effect.andThen_empty (RegisterStep.effects _)]
  refine (performs_monitorFilter registers _).next fun monitorFilter _ => ?_
  exact Performs.counters.bind_empty fun _ _ => Performs.pure trivial

/-! ## The report -/

/-- what is reported is what the registers are, and what is known of other registers stays known -/
theorem acts_monitorFilter (hrcr : ∀ file value, P file → P (file.write (wordWrite regRcr 4 value)))
    (hmap : ∀ file value, P file → P (file.write (wordWrite regRxfltmap2 2 value))) :
    Acts True P (runMonitorReceiveFilterRegisters registers phase)
      (fun report file => report.rcrWritten = monitorReceiveConfig ∧ report.rcrAfter.toNat = file.value regRcr 4 ∧
        report.rxfltmap2After.toNat = file.value regRxfltmap2 2 ∧ P file) fun _ => True := by
  refine Acts.bind (Writes.keeps (writesValue32 registers _ _ _ _) fun file => hrcr file _) fun _ => ?_
  refine Acts.bind ((readsValue32 registers _ _ _).keeps P) fun rcrAfter => ?_
  have hkept : ∀ file : StuckRegisters, rcrAfter.toNat = file.value regRcr 4 ∧ P file →
      rcrAfter.toNat = (file.write (wordWrite regRxfltmap2 2 (0xffff : UInt16).toNat)).value regRcr 4 ∧
        P (file.write (wordWrite regRxfltmap2 2 (0xffff : UInt16).toNat)) := by
    rintro file ⟨hafter, hP⟩
    exact ⟨hafter.trans (value_write_apart file (by decide) _).symm, hmap file _ hP⟩
  refine Acts.bind (Writes.keeps (writesValue16 registers _ _ _ _) hkept) fun _ => ?_
  refine Acts.bind ((readsValue16 registers _ _ _).keeps _) fun rxfltmap2After => ?_
  apply Acts.pure
  rintro file ⟨hmapAfter, hrcrAfter, hP⟩
  exact ⟨rfl, hrcrAfter, hmapAfter, hP⟩

/-- the registers that a report speaks of -/
structure MonitorReported (report : RuntimeMonitorOpmodeExecution) (start after : StuckRegisters) : Prop where
  msrBefore : report.msrBefore.toNat = start.value regMsr 1
  msrAfter : report.msrAfter.toNat = after.value regMsr 1
  rcrWritten : report.rcrWritten = monitorReceiveConfig
  rcrAfter : report.rcrAfter.toNat = after.value regRcr 4
  rxfltmap2After : report.rxfltmap2After.toNat = after.value regRxfltmap2 2

theorem acts_monitorOpmode (start : StuckRegisters) :
    Acts True (fun file => file = start) (runRtl8812auMonitorOpmode registers)
      (fun report file => MonitorReported report start file) fun _ => True := by
  refine Acts.bind Acts.counters fun before => ?_
  refine Acts.bind ((readsValue8 registers _ _ _).keeps _) fun msrBefore => ?_
  have hstart : ∀ file : StuckRegisters, msrBefore.toNat = file.value regMsr 1 ∧ file = start →
      msrBefore.toNat = start.value regMsr 1 := by
    rintro file ⟨hbefore, rfl⟩
    exact hbefore
  refine Acts.bind ((Writes.keeps (writesValue8 registers _ _ _ _) fun _ h => h).weaken hstart (fun _ _ h => h)
    fun _ h => h) fun _ => ?_
  refine Acts.bind ((readsValue8 registers _ _ _).keeps _) fun msrAfter => ?_
  refine Acts.bind (acts_monitorFilter registers _ ?_ ?_) fun monitorFilter => ?_
  · rintro file value ⟨hafter, hbefore⟩
    exact ⟨hafter.trans (value_write_apart file (by decide) _).symm, hbefore⟩
  · rintro file value ⟨hafter, hbefore⟩
    exact ⟨hafter.trans (value_write_apart file (by decide) _).symm, hbefore⟩
  refine Acts.bind Acts.counters fun counters => ?_
  apply Acts.pure
  rintro file ⟨hwritten, hrcr, hmap, hafter, hbefore⟩
  exact ⟨hbefore, hafter, hwritten, hrcr, hmap⟩

/-- what was read back is what was written just if the register took it -/
theorem MonitorReported.receiveConfig_iff {report : RuntimeMonitorOpmodeExecution} {start after : StuckRegisters}
    (h : MonitorReported report start after) :
    report.rcrAfter = report.rcrWritten ↔ receiveConfigField.In after := by
  have hmask (n : ℕ) (hn : n < 2 ^ 32) : n &&& 0xffffffff = n := Nat.and_two_pow_sub_one_of_lt_two_pow hn
  rw [← UInt32.toNat_inj, h.rcrWritten, h.rcrAfter, RegisterField.In, receiveConfigField]
  dsimp only
  rw [hmask _ (after.value_lt regRcr 4), hmask _ monitorReceiveConfig.toNat_lt]

end Opmode

/-- **Monitor opmode.** Whichever transfers fail: no register but its three is written. If it returns, the writes were
made on the bits that can be written, the values that it read are what the registers were and are, and the register of
the receive configuration took it just if the report says so. -/
theorem monitor_registers (registers : Rtl8812auRegisterAccess) {s s' : RegisterRun (FaultyDevice StuckRegisters)}
    {outcome : Except RuntimeRadioError RuntimeMonitorOpmodeExecution}
    (hrun : (runRtl8812auMonitorOpmode registers).exec s = (outcome, s')) :
    (∀ c, RegisterStep.avoid monitorSteps c.1 = true → s'.transport.file.bits c = s.transport.file.bits c) ∧
      ∀ report, outcome = .ok report →
        StuckRegisters.Reached (RegisterStep.effects monitorSteps) s.transport.file s'.transport.file ∧
          MonitorReported report s.transport.file s'.transport.file ∧
          (report.rcrAfter = report.rcrWritten ↔ receiveConfigField.In s'.transport.file) := by
  obtain ⟨hwithin, hok⟩ := (performs_monitorOpmode (P := fun _ => True) registers).outcome trivial hrun
  refine ⟨fun c hc => hwithin.bits_of_avoid hc, fun report hreport => ?_⟩
  obtain ⟨-, hreported⟩ := (Handles.of_run (acts_monitorOpmode registers s.transport.file) hrun ⟨.inl trivial, rfl⟩).1
    report hreport
  exact ⟨(hok report hreport).2, hreported, hreported.receiveConfig_iff⟩

/-- an adapter that cannot append the checksum: bit 31 of `REG_RCR` is stuck -/
def checksumStuck : RegisterRun (FaultyDevice StuckRegisters) where
  transport := {
    file := { bits := fun _ => false, writable := fun c => c ≠ (regRcr + 3, 7) }
    failing := fun _ => none }
  counters := {}

theorem monitor_registers_checksumStuck :
    (∃ report, ((runRtl8812auMonitorOpmode {}).exec checksumStuck).1 = .ok report ∧
      report.rcrAfter ≠ report.rcrWritten) ∧
    ¬receiveConfigField.In ((runRtl8812auMonitorOpmode {}).exec checksumStuck).2.transport.file := by
  have houtcome : ((runRtl8812auMonitorOpmode {}).exec checksumStuck).1.toOption.any
      (fun report => report.rcrAfter != report.rcrWritten) = true := by decide +kernel
  rcases hrun : (runRtl8812auMonitorOpmode {}).exec checksumStuck with ⟨error | report, s'⟩
  · rw [hrun] at houtcome
    cases houtcome
  · rw [hrun] at houtcome
    have hne : report.rcrAfter ≠ report.rcrWritten := bne_iff_ne.1 houtcome
    exact ⟨⟨report, rfl, hne⟩, fun hin => hne (((monitor_registers {} hrun).2 report rfl).2.2.2 hin)⟩

end WfbLink.Runtime
