/-
The radio phase of the init sequence (`wfb-radio-runtime/src/lib.rs`): the tables of both paths, written over the serial
ports into the RF registers.

- `acts_rfTable`: a table writes RF registers of its path, and nothing else but the word of its port.
- `rf_registers`: the RF registers after the phase; the last write to one of them wins.
-/
import WfbLink.Runtime.MaskedWrite
import WfbLink.Runtime.TablePlan

namespace WfbLink.Runtime

open WfbLink.Core WfbLink.RadioCore

/-! ## The sequence -/

section Sequence

variable (registers : Rtl8812auRegisterAccess)

/-- the writes of the phase, and the writes and delays of its two tables -/
def productionRfSequence (radioaPlan radiobPlan : RealtekTablePlan) : RegisterAction (ℕ × (ℕ × ℕ) × (ℕ × ℕ)) := do
  productionRfPreflight registers
  let beforeWrites ← RegisterAction.counters
  let radioaCounts ← productionRunRfTablePlan registers radioaPlan
  let radiobCounts ← productionRunRfTablePlan registers radiobPlan
  let writes ← writesSince beforeWrites
  return (writes, radioaCounts, radiobCounts)

end Sequence

/-! ## What the tables write -/

/-- the RF register of an action, and its data of 20 bits -/
def rfPlace (path : RadioPath) (action : RealtekTableAction) (data : UInt32) : Overwrite RfCell (BitVec 20) :=
  fun r => if r = offsetCell path action.address then some (BitVec.ofNat 20 data.toNat) else none

/-- the RF registers were written, and no cell but the words of the ports -/
structure RfWritten (start : RadioRegisters) (o : Overwrite RfCell (BitVec 20)) (file : RadioRegisters) : Prop where
  rf : file.rf = o.apply start.rf
  cells : ∀ c, (∀ path, wordOf c ≠ (false, serialRegister path)) → file.cells c = start.cells c

theorem RfWritten.refl (file : RadioRegisters) : RfWritten file .empty file := ⟨rfl, fun _ _ => rfl⟩

/-- the page stays selected -/
theorem RfWritten.pageC1 {start file : RadioRegisters} {o : Overwrite RfCell (BitVec 20)} (h : RfWritten start o file) :
    file.pageC1 = start.pageC1 := by
  have hagc : file.cells (false, 0x082f) = start.cells (false, 0x082f) := by
    apply h.cells
    rintro (_ | _)
    · decide
    · decide
  rw [RadioRegisters.pageC1, RadioRegisters.pageC1, hagc]

/-- one RF register is written -/
theorem RfWritten.store {start file : RadioRegisters} {o : Overwrite RfCell (BitVec 20)} (h : RfWritten start o file)
    (hpage : start.pageC1 = false) (path : RadioPath) (action : RealtekTableAction) (data : UInt32) :
    RfWritten start (o.andThen (rfPlace path action data)) (serialStore path action.address data file) := by
  have hfile : file.pageC1 = false := h.pageC1.trans hpage
  have hport : writePort file.pageC1 (serialRegister path) = some path := by
    rw [hfile, serialRegister_port]
  have hencoded : UInt32.ofNat (fromLeBytes (toLeU32
      (encodeRfSerialWrite action.address (data &&& rfRegisterOffsetMask)).toNat))
      = encodeRfSerialWrite action.address (data &&& rfRegisterOffsetMask) := by
    rw [fromLeBytes_toLeU32 (UInt32.toNat_lt _), UInt32.ofNat_toNat]
  have hlow : BitVec.ofNat 20 (data &&& rfRegisterOffsetMask).toNat = BitVec.ofNat 20 data.toNat := by
    apply BitVec.eq_of_toNat_eq
    rw [BitVec.toNat_ofNat, BitVec.toNat_ofNat, UInt32.toNat_and]
    exact (congrArg (· % 2 ^ 20) (Nat.and_two_pow_sub_one_eq_mod _ 20)).trans (Nat.mod_mod _ _)
  constructor
  · rw [serialStore, RadioRegisters.store_rf_of_some _ (toLeU32_length _) hport, hencoded, serialOffset_masked,
      serialData_encode, hlow, Overwrite.apply_andThen, ← h.rf]
    funext r
    rw [Function.update_apply, Overwrite.apply, rfPlace]
    change (if r = offsetCell path action.address then _ else _) = _
    split <;> rfl
  · intro c hc
    have hplace : wordOf (place file.pageC1 (serialRegister path)) = (false, serialRegister path) := by
      rw [hfile, serialRegister_place, serialRegister_word]
    rw [serialStore, RadioRegisters.store_cells, patch_frame _ _ _ (hplace ▸ hc path)]
    · exact h.cells c hc
    · rw [serialRegister_aligned, toLeU32_length]

/-! ## The tables -/

/-- what a table writes; the kind of the table says on which path -/
def rfTable (plan : RealtekTablePlan) (actions : List RealtekTableAction) : Overwrite RfCell (BitVec 20) :=
  match plan.kind with
  | .rfRadioA => tableOverwrite (rfTarget plan) (rfPlace .a) actions
  | .rfRadioB => tableOverwrite (rfTarget plan) (rfPlace .b) actions
  | .mac | .bbPhy | .bbAgc => .empty

section Tables

variable {faults : Prop} (registers : Rtl8812auRegisterAccess) {start : RadioRegisters}

/-- the actions on one path -/
theorem acts_rfActions (plan : RealtekTablePlan) (path : RadioPath) (hpage : start.pageC1 = false)
    (o : Overwrite RfCell (BitVec 20)) (actions : List RealtekTableAction) :
    Acts faults (RfWritten start o)
      (runTableActions (rfTarget plan) (rfTableWrite registers plan (rfPathOf path)) actions 0 0)
      (fun counts file => ((∀ action ∈ actions, WellFormed (rfTarget plan) action) ∧
        counts = (countKind .write actions, countKind .delay actions)) ∧
          RfWritten start (o.andThen (tableOverwrite (rfTarget plan) (rfPlace path) actions)) file)
      fun file => ∃ now, now <+: actions ∧
        RfWritten start (o.andThen (tableOverwrite (rfTarget plan) (rfPlace path) now)) file := by
  have hdelay (applied : List RealtekTableAction) (action : RealtekTableAction) (file : RadioRegisters)
      (hkind : action.kind = .delay)
      (hfile : RfWritten start (o.andThen (tableOverwrite (rfTarget plan) (rfPlace path) applied)) file) :
      RfWritten start (o.andThen (tableOverwrite (rfTarget plan) (rfPlace path) (applied ++ [action]))) file := by
    rwa [tableOverwrite_snoc, actionOverwrite_delay hkind, Overwrite.andThen_empty]
  have hwrite (applied : List RealtekTableAction) (action : RealtekTableAction) (data : UInt32)
      (hkind : action.kind = .write) (hdata : rfTarget plan action = .ok data) :
      Acts faults (RfWritten start (o.andThen (tableOverwrite (rfTarget plan) (rfPlace path) applied)))
        (rfTableWrite registers plan (rfPathOf path) action data)
        (fun _ => RfWritten start (o.andThen (tableOverwrite (rfTarget plan) (rfPlace path) (applied ++ [action]))))
        fun file => faults ∧ RfWritten start (o.andThen (tableOverwrite (rfTarget plan) (rfPlace path) applied)) file := by
    apply Acts.bind (Acts.mapError (Acts.rfWrite registers path _ _ (fun hfaults _ h => ⟨hfaults, h⟩) ?_) _)
    · intro _
      exact Acts.pure fun _ h => h
    · intro file hfile
      rw [tableOverwrite_snoc, actionOverwrite_write hkind hdata, ← Overwrite.andThen_assoc]
      exact hfile.store hpage path action data
  refine (acts_runTable hdelay hwrite [] actions 0 0).weaken (fun _ h => h) ?_ ?_
  · intro counts file h
    rwa [Nat.zero_add, Nat.zero_add] at h
  · rintro file ⟨now, later, rfl, hfile, -, -⟩
    exact ⟨now, List.prefix_append _ _, hfile⟩

/-- a table is for a path, or it cannot be applied at all -/
theorem rfTable_cases (plan : RealtekTablePlan) :
    (∃ path : RadioPath, rfTablePath plan = .ok (rfPathOf path) ∧
      rfTable plan = tableOverwrite (rfTarget plan) (rfPlace path)) ∨
      (∃ error, rfTablePath plan = .error error) ∧ ∀ actions, rfTable plan actions = .empty := by
  unfold rfTablePath rfTable
  cases plan.kind with
  | rfRadioA => exact .inl ⟨.a, rfl, rfl⟩
  | rfRadioB => exact .inl ⟨.b, rfl, rfl⟩
  | mac => exact .inr ⟨⟨_, rfl⟩, fun _ => rfl⟩
  | bbPhy => exact .inr ⟨⟨_, rfl⟩, fun _ => rfl⟩
  | bbAgc => exact .inr ⟨⟨_, rfl⟩, fun _ => rfl⟩

/-- **One table.** If its kind is not one of the radio, nothing is written. -/
theorem acts_rfTable (plan : RealtekTablePlan) (hpage : start.pageC1 = false) (o : Overwrite RfCell (BitVec 20)) :
    Acts faults (RfWritten start o) (productionRunRfTablePlan registers plan)
      (fun counts file => TableDone (rfTarget plan) plan counts ∧
        RfWritten start (o.andThen (rfTable plan plan.actions)) file)
      fun file => ∃ now, now <+: plan.actions ∧ RfWritten start (o.andThen (rfTable plan now)) file := by
  rcases rfTable_cases plan with ⟨path, hpath, htable⟩ | ⟨⟨error, hpath⟩, hnone⟩
  · rw [productionRunRfTablePlan, hpath, htable]
    exact acts_rfActions registers plan path hpage o plan.actions
  · rw [productionRunRfTablePlan, hpath]
    apply Acts.fail
    intro file hfile
    refine ⟨[], List.nil_prefix, ?_⟩
    rwa [hnone, Overwrite.andThen_empty]

/-! ## The phase -/

/-- a check reads, and changes nothing that a read does not change -/
theorem acts_requireField {φ α : Type} [RegisterFile φ] {P E : φ → Prop} {read : RegisterAction α}
    (hread : Acts faults P read (fun _ => P) E) (hfail : ∀ file, P file → E file) {ready : α → Prop}
    [DecidablePred ready] (error : α → RuntimeRadioError) :
    Acts faults P (requireField read ready error) (fun _ => P) E := by
  apply Acts.bind hread
  intro value
  split
  · exact Acts.pure fun _ h => h
  · exact Acts.fail _ hfail

/-- the checks leave the RF registers and the cells as they are -/
theorem acts_rfPreflight (o : Overwrite RfCell (BitVec 20)) :
    Acts faults (RfWritten start o) (productionRfPreflight registers) (fun _ => RfWritten start o)
      (RfWritten start o) := by
  have hload (address : UInt16) (n : ℕ) (file : RadioRegisters) (h : RfWritten start o file) :
      RfWritten start o (loadValue address n file).2 := by
    obtain ⟨hcells, hrf⟩ := file.load_cells address n
    exact ⟨hrf.trans h.rf, fun c hc => (congrFun hcells c).trans (h.cells c hc)⟩
  have hread8 (address : UInt16) (registerName phase : String) : Acts faults (RfWritten start o)
      (read8WithCounter registers address registerName phase) (fun _ => RfWritten start o) (RfWritten start o) :=
    Acts.readWithCustomError (registers.read8_loads address) _ (fun _ _ h => h) (hload address 1)
  have hread16 (address : UInt16) (registerName phase : String) : Acts faults (RfWritten start o)
      (read16WithCounter registers address registerName phase) (fun _ => RfWritten start o) (RfWritten start o) :=
    Acts.readWithCustomError (registers.read16_loads address) _ (fun _ _ h => h) (hload address 2)
  have hcr (label : String) : Acts faults (RfWritten start o) (productionPreflightCr registers label)
      (fun _ => RfWritten start o) (RfWritten start o) := acts_requireField (hread16 _ _ _) (fun _ h => h) _
  have hfirmware (label : String) : Acts faults (RfWritten start o) (productionPreflightFirmware registers label)
      (fun _ => RfWritten start o) (RfWritten start o) :=
    Acts.bind (hcr label) fun _ => acts_requireField (hread8 _ _ _) (fun _ h => h) _
  exact Acts.bind (hfirmware _) fun _ => acts_requireField (hread8 _ _ _) (fun _ h => h) _

end Tables

/-- **The radio phase.** On page C, it writes RF registers and the words of the two ports and nothing else. However it
ends, the RF registers hold what a prefix of the first table and then a prefix of the second one wrote, and the second
one was not begun before the first one was through. If the phase returns, both were written in full. -/
theorem rf_registers (registers : Rtl8812auRegisterAccess) (radioaPlan radiobPlan : RealtekTablePlan)
    {s s' : RegisterRun (FaultyDevice RadioRegisters)} {outcome : Except RuntimeRadioError (ℕ × (ℕ × ℕ) × (ℕ × ℕ))}
    (hpage : s.transport.file.pageC1 = false)
    (hrun : (productionRfSequence registers radioaPlan radiobPlan).exec s = (outcome, s')) :
    ∃ nowA nowB, nowA <+: radioaPlan.actions ∧ nowB <+: radiobPlan.actions ∧
      (nowB = [] ∨ nowA = radioaPlan.actions) ∧
      RfWritten s.transport.file ((rfTable radioaPlan nowA).andThen (rfTable radiobPlan nowB)) s'.transport.file ∧
      ∀ result, outcome = .ok result → nowA = radioaPlan.actions ∧ nowB = radiobPlan.actions ∧
        TableDone (rfTarget radioaPlan) radioaPlan result.2.1 ∧
        TableDone (rfTarget radiobPlan) radiobPlan result.2.2 := by
  set start := s.transport.file with hstart
  set stopped : RadioRegisters → Prop := fun file => ∃ nowA nowB, nowA <+: radioaPlan.actions ∧
    nowB <+: radiobPlan.actions ∧ (nowB = [] ∨ nowA = radioaPlan.actions) ∧
      RfWritten start ((rfTable radioaPlan nowA).andThen (rfTable radiobPlan nowB)) file with hstopped
  have hnil (plan : RealtekTablePlan) : rfTable plan [] = .empty := by
    rw [rfTable]
    split <;> rfl
  have hacts : Acts True (fun file => file = start) (productionRfSequence registers radioaPlan radiobPlan)
      (fun result file => (TableDone (rfTarget radioaPlan) radioaPlan result.2.1 ∧
        TableDone (rfTarget radiobPlan) radiobPlan result.2.2) ∧
          RfWritten start ((rfTable radioaPlan radioaPlan.actions).andThen (rfTable radiobPlan radiobPlan.actions)) file)
      stopped := by
    have hwrites (before : RuntimeRadioCounters) (P : RadioRegisters → Prop) :
        Acts True P (writesSince before) (fun _ => P) stopped :=
      Acts.bind Acts.counters fun _ => Acts.pure fun _ h => h
    apply Acts.bind ((acts_rfPreflight registers .empty).weaken ?_ (fun _ _ h => h) ?_)
    · intro _
      apply Acts.bind Acts.counters
      intro before
      apply Acts.bind ((acts_rfTable registers radioaPlan hpage .empty).weaken (fun _ h => h) (fun _ _ h => h) ?_)
      · intro radioaCounts
        apply Acts.assume
        intro hradioa
        apply Acts.bind ((acts_rfTable registers radiobPlan hpage _).weaken (fun _ h => h) (fun _ _ h => h) ?_)
        · intro radiobCounts
          apply Acts.assume
          intro hradiob
          refine Acts.bind (hwrites before _) fun _ => ?_
          apply Acts.pure
          intro file hfile
          exact ⟨⟨hradioa, hradiob⟩, by rwa [Overwrite.empty_andThen] at hfile⟩
        · rintro file ⟨nowB, hnowB, hfile⟩
          rw [Overwrite.empty_andThen] at hfile
          exact ⟨radioaPlan.actions, nowB, List.prefix_rfl, hnowB, .inr rfl, hfile⟩
      · rintro file ⟨nowA, hnowA, hfile⟩
        rw [Overwrite.empty_andThen] at hfile
        refine ⟨nowA, [], hnowA, List.nil_prefix, .inl rfl, ?_⟩
        rwa [hnil, Overwrite.andThen_empty]
    · rintro file rfl
      exact .refl _
    · intro file hfile
      refine ⟨[], [], List.nil_prefix, List.nil_prefix, .inl rfl, ?_⟩
      rwa [hnil, hnil, Overwrite.andThen_empty]
  obtain ⟨hok, herror⟩ := Handles.of_run hacts hrun ⟨.inl trivial, hstart.symm⟩
  cases outcome with
  | ok result =>
    obtain ⟨-, hdone, hfile⟩ := hok result rfl
    refine ⟨radioaPlan.actions, radiobPlan.actions, List.prefix_rfl, List.prefix_rfl, .inr rfl, hfile, ?_⟩
    rintro _ ⟨⟩
    exact ⟨rfl, rfl, hdone⟩
  | error error =>
    obtain ⟨-, nowA, nowB, hnowA, hnowB, horder, hfile⟩ := herror error rfl
    refine ⟨nowA, nowB, hnowA, hnowB, horder, hfile, ?_⟩
    rintro _ ⟨⟩

/-- a radio that is powered on, with page C selected -/
def readyRadio : RegisterRun (FaultyDevice RadioRegisters) where
  transport := {
    file := { cells := fun c => if c.2 = 0x082f then 0 else 0xff, rf := fun _ => 0, answers := fun _ => 0 }
    failing := fun _ => none }
  counters := {}

def radioaSamplePlan : RealtekTablePlan where
  arrayName := "array_mp_8812a_radioa"
  kind := .rfRadioA
  rawValueCount := 4
  rawPairCount := 2
  conditionMarkerPairs := 0
  skippedWritePairs := 0
  actions := [tableAction .rfRadioA 0 (0x18, 0x1712a), tableAction .rfRadioA 1 (0x18, 0x0a12a)]

theorem rf_registers_readyRadio :
    ((productionRfSequence {} radioaSamplePlan radioaSamplePlan).exec readyRadio).2.transport.file.rf
      = ((rfTable radioaSamplePlan radioaSamplePlan.actions).andThen
          (rfTable radioaSamplePlan radioaSamplePlan.actions)).apply fun _ => 0 := by
  have hok : ((productionRfSequence {} radioaSamplePlan radioaSamplePlan).exec readyRadio).1
      = .ok (4, (2, 0), (2, 0)) := by decide +kernel
  obtain ⟨nowA, nowB, -, -, -, hwritten, hresult⟩ :=
    rf_registers {} radioaSamplePlan radioaSamplePlan (s := readyRadio) (by decide) Prod.mk.eta.symm
  obtain ⟨rfl, rfl, -⟩ := hresult _ hok
  exact hwritten.rf

end WfbLink.Runtime
