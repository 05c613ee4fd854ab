/-
Applying the plans of the register tables (`wfb-radio-runtime/src/lib.rs`), and the phases that apply them.

The MAC table writes bytes, the tables of the baseband write words under a mask, and the tables of the radio write RF
registers over a serial port. An action that asks for something that does not fit ends the run.

- `acts_runTable`: a run applies a prefix of the table; it stops in front of the first malformed action at the latest.
- `macTable_applied`: the registers after a prefix; the last action for a bit wins.
- `bb_registers`: the whole phase of the baseband.
-/
import WfbLink.RadioCore.RealtekTable
import WfbLink.Runtime.MacSetup

namespace WfbLink.Runtime

open WfbLink.Core WfbLink.RadioCore

variable {γ : Type}

def realtekTableKindDebug : RealtekTableKind → String
  | .mac => "Mac"
  | .bbPhy => "BbPhy"
  | .bbAgc => "BbAgc"
  | .rfRadioA => "RfRadioA"
  | .rfRadioB => "RfRadioB"

/-! ## What an action asks for -/

section Targets

variable (plan : RealtekTablePlan) (action : RealtekTableAction)

def tableAddress (code : String) : Except RuntimeRadioError UInt16 :=
  if action.address.toNat < 2 ^ 16 then .ok (UInt16.ofNat action.address.toNat)
  else .error (.new code
    s!"{plan.arrayName} pair {action.pairIndex} address {formatRegisterValue action.address.toNat 8} does not fit a USB register address")

def tableData (code : String) : Except RuntimeRadioError UInt32 :=
  match action.data with
  | some data => .ok data
  | none => .error (.new code s!"{plan.arrayName} pair {action.pairIndex} is a write action with no data")

def macTarget : Except RuntimeRadioError (UInt16 × UInt8) := do
  let address ← tableAddress plan action "mac_table_address_out_of_range"
  let data ← tableData plan action "mac_table_write_missing_data"
  if data.toNat < 2 ^ 8 then return (address, UInt8.ofNat data.toNat)
  else .error (.new "mac_table_write_data_out_of_range"
    s!"{plan.arrayName} pair {action.pairIndex} data {formatRegisterValue data.toNat 8} does not fit an 8-bit MAC table write")

/-- the address, the mask and the data -/
def bbTarget : Except RuntimeRadioError (UInt16 × UInt32 × UInt32) := do
  let address ← tableAddress plan action "bb_table_address_out_of_range"
  let data ← tableData plan action "bb_table_write_missing_data"
  return (address, action.bitmask.getD 0xffffffff, data)

def rfTarget : Except RuntimeRadioError UInt32 := tableData plan action "rf_table_write_missing_data"

/-- the data of an action in the text of an error -/
def tableDataHex : String := (action.data.map fun data => formatRegisterValue data.toNat 8).getD "<missing>"

end Targets

/-! ## The loop -/

/-- the actions one after the other, with the numbers of writes and of delays so far -/
def runTableActions (target : RealtekTableAction → Except RuntimeRadioError γ)
    (write : RealtekTableAction → γ → RegisterAction Unit) :
    List RealtekTableAction → ℕ → ℕ → RegisterAction (ℕ × ℕ)
  | [], writes, delays => return (writes, delays)
  | action :: actions, writes, delays =>
    match action.kind with
    | .delay => runTableActions target write actions writes (delays + 1)
    | .write => do
      let asked ← RegisterAction.ofExcept (target action)
      write action asked
      runTableActions target write actions (writes + 1) delays

section Plans

variable (registers : Rtl8812auRegisterAccess) (plan : RealtekTablePlan)

def macTableWrite (_ : RealtekTableAction) (asked : UInt16 × UInt8) : RegisterAction Unit :=
  write8WithCounter registers asked.1 asked.2 "array_mp_8812a_mac_reg" "mac-table"

def productionApplyMacTablePlan : RegisterAction ℕ :=
  if plan.kind ≠ .mac then
    .fail (.new "invalid_mac_table_kind" s!"{plan.arrayName} has non-MAC table kind {realtekTableKindDebug plan.kind}")
  else do
    let counts ← runTableActions (macTarget plan) (macTableWrite registers) plan.actions 0 0
    return counts.1

def bbTableWrite (action : RealtekTableAction) (asked : UInt16 × UInt32 × UInt32) : RegisterAction Unit :=
  (bbSetBbReg registers asked.1 asked.2.1 asked.2.2 "realtek-bb-table").mapError fun error =>
    .new "bb_table_write_failed"
      s!"{plan.arrayName} pair {action.pairIndex} write addr={formatRegisterValue action.address.toNat 8} data={tableDataHex action} failed: {error.message}"

def productionRunBbTablePlan : RegisterAction (ℕ × ℕ) :=
  runTableActions (bbTarget plan) (bbTableWrite registers plan) plan.actions 0 0

/-- the path that a table is for -/
def rfTablePath : Except RuntimeRadioError Rtl8812auRfPath :=
  match plan.kind with
  | .rfRadioA => .ok .a
  | .rfRadioB => .ok .b
  | .mac | .bbPhy | .bbAgc =>
    .error (.new "invalid_rf_table_kind" s!"{plan.arrayName} has non-RF table kind {realtekTableKindDebug plan.kind}")

def rfTableWrite (path : Rtl8812auRfPath) (action : RealtekTableAction) (data : UInt32) : RegisterAction Unit := do
  let _ ← (rfSerialWriteSinglePath registers path action.address data).mapError fun error =>
    .new "rf_table_write_failed"
      s!"{plan.arrayName} pair {action.pairIndex} RF addr={formatRegisterValue action.address.toNat 8} data={tableDataHex action} failed: {error.message}"
  return ()

def productionRunRfTablePlan : RegisterAction (ℕ × ℕ) := do
  let path ← RegisterAction.ofExcept (rfTablePath plan)
  runTableActions (rfTarget plan) (rfTableWrite registers plan path) plan.actions 0 0

end Plans

/-! ## Prefixes -/

/-- an action that can be done; a delay always can -/
def WellFormed (target : RealtekTableAction → Except RuntimeRadioError γ) (action : RealtekTableAction) : Prop :=
  action.kind = .write → ∃ asked, target action = .ok asked

/-- how many actions of a kind there are -/
def countKind (kind : RealtekTableActionKind) (actions : List RealtekTableAction) : ℕ :=
  actions.countP fun action => action.kind = kind

theorem countKind_cons (kind : RealtekTableActionKind) (action : RealtekTableAction)
    (actions : List RealtekTableAction) :
    countKind kind (action :: actions) = (if action.kind = kind then 1 else 0) + countKind kind actions := by
  rw [countKind, countKind, List.countP_cons, Nat.add_comm]
  simp only [decide_eq_true_eq]

/-- the numbers after a delay -/
theorem counts_delay {action : RealtekTableAction} (h : action.kind = .delay) (actions : List RealtekTableAction)
    (writes delays : ℕ) :
    (writes + countKind .write actions, delays + 1 + countKind .delay actions)
      = (writes + countKind .write (action :: actions), delays + countKind .delay (action :: actions)) := by
  have hne : ¬RealtekTableActionKind.delay = .write := by decide
  rw [countKind_cons, countKind_cons, h, if_neg hne, if_pos rfl, Nat.zero_add, Nat.add_assoc]

/-- the numbers after a write -/
theorem counts_write {action : RealtekTableAction} (h : action.kind = .write) (actions : List RealtekTableAction)
    (writes delays : ℕ) :
    (writes + 1 + countKind .write actions, delays + countKind .delay actions)
      = (writes + countKind .write (action :: actions), delays + countKind .delay (action :: actions)) := by
  have hne : ¬RealtekTableActionKind.write = .delay := by decide
  rw [countKind_cons, countKind_cons, h, if_neg hne, if_pos rfl, Nat.zero_add, Nat.add_assoc]

/-- a prefix of the table was applied; what comes next is malformed, or a transfer failed -/
def Stopped {φ : Type} (faults : Prop) (target : RealtekTableAction → Except RuntimeRadioError γ)
    (Inv : List RealtekTableAction → φ → Prop) (applied actions : List RealtekTableAction) (file : φ) : Prop :=
  ∃ now later, actions = now ++ later ∧ Inv (applied ++ now) file ∧ (∀ action ∈ now, WellFormed target action) ∧
    (faults ∨ ∃ bad ∈ later.head?, ¬WellFormed target bad)

/-- **The run of a table.** What holds of the actions that were applied is kept by each action. -/
theorem acts_runTable {φ : Type} [RegisterFile φ] {faults : Prop}
    {target : RealtekTableAction → Except RuntimeRadioError γ} {write : RealtekTableAction → γ → RegisterAction Unit}
    {Inv : List RealtekTableAction → φ → Prop}
    (hdelay : ∀ applied action file, action.kind = .delay → Inv applied file → Inv (applied ++ [action]) file)
    (hwrite : ∀ applied action asked, action.kind = .write → target action = .ok asked →
      Acts faults (Inv applied) (write action asked) (fun _ => Inv (applied ++ [action]))
        fun file => faults ∧ Inv applied file)
    (applied actions : List RealtekTableAction) (writes delays : ℕ) :
    Acts faults (Inv applied) (runTableActions target write actions writes delays)
      (fun counts file => ((∀ action ∈ actions, WellFormed target action) ∧
        counts = (writes + countKind .write actions, delays + countKind .delay actions)) ∧ Inv (applied ++ actions) file)
      (Stopped faults target Inv applied actions) := by
  induction actions generalizing applied writes delays with
  | nil =>
    apply Acts.pure
    intro file hfile
    rw [List.append_nil]
    exact ⟨⟨fun _ h => absurd h List.not_mem_nil, rfl⟩, hfile⟩
  | cons action actions ih =>
    have happend : applied ++ action :: actions = (applied ++ [action]) ++ actions := by
      rw [List.append_assoc, List.singleton_append]
    have hstopped (hgood : WellFormed target action) (file : φ)
        (h : Stopped faults target Inv (applied ++ [action]) actions file) :
        Stopped faults target Inv applied (action :: actions) file := by
      obtain ⟨now, later, rfl, hinv, hnow, hwhy⟩ := h
      rw [List.append_assoc, List.singleton_append] at hinv
      exact ⟨action :: now, later, rfl, hinv, List.forall_mem_cons.2 ⟨hgood, hnow⟩, hwhy⟩
    cases hkind : action.kind with
    | delay =>
      have hgood : WellFormed target action := by
        intro hwrite
        rw [hkind] at hwrite
        cases hwrite
      have hnext := ih (applied ++ [action]) writes (delays + 1)
      rw [runTableActions, hkind]
      refine hnext.weaken (fun file hfile => hdelay applied action file hkind hfile) ?_ (hstopped hgood)
      rintro counts file ⟨⟨hall, rfl⟩, hfile⟩
      exact ⟨⟨List.forall_mem_cons.2 ⟨hgood, hall⟩, counts_delay hkind actions writes delays⟩, happend ▸ hfile⟩
    | write =>
      rw [runTableActions, hkind]
      have hbefore (file : φ) (hfile : Inv applied file) (hwhy : faults ∨ ¬WellFormed target action) :
          Stopped faults target Inv applied (action :: actions) file := by
        refine ⟨[], action :: actions, rfl, ?_, fun _ h => absurd h List.not_mem_nil, ?_⟩
        · rwa [List.append_nil]
        · exact hwhy.imp_right fun h => ⟨action, rfl, h⟩
      refine Acts.bind (Q := fun asked file => target action = .ok asked ∧ Inv applied file) ?_ ?_
      · apply Acts.ofExcept
        · intro asked hasked file hfile
          exact ⟨hasked, hfile⟩
        · intro error herror file hfile
          refine hbefore file hfile (.inr fun hgood => ?_)
          obtain ⟨asked, hasked⟩ := hgood hkind
          rw [herror] at hasked
          cases hasked
      · intro asked
        apply Acts.assume
        intro hasked
        have hgood : WellFormed target action := fun _ => ⟨asked, hasked⟩
        apply Acts.bind ((hwrite applied action asked hkind hasked).weaken (fun _ h => h) (fun _ _ h => h) ?_)
        · intro _
          refine (ih (applied ++ [action]) (writes + 1) delays).weaken (fun _ h => h) ?_ (hstopped hgood)
          rintro counts file ⟨⟨hall, rfl⟩, hfile⟩
          exact ⟨⟨List.forall_mem_cons.2 ⟨hgood, hall⟩, counts_write hkind actions writes delays⟩, happend ▸ hfile⟩
        · rintro file ⟨hfaults, hfile⟩
          exact hbefore file hfile (.inl hfaults)

/-! ## What a table writes -/

section Overwrites

variable {α β : Type} (target : RealtekTableAction → Except RuntimeRadioError γ)
  (place : RealtekTableAction → γ → Overwrite α β)

/-- a delay writes nothing -/
def actionOverwrite (action : RealtekTableAction) : Overwrite α β :=
  match action.kind, target action with
  | .write, .ok asked => place action asked
  | .write, .error _ => .empty
  | .delay, _ => .empty

/-- the actions one after the other: where several of them write, the last one wins -/
def tableOverwrite (actions : List RealtekTableAction) : Overwrite α β :=
  .all (actions.map (actionOverwrite target place))

variable {target place}

theorem tableOverwrite_snoc (applied : List RealtekTableAction) (action : RealtekTableAction) :
    tableOverwrite target place (applied ++ [action])
      = (tableOverwrite target place applied).andThen (actionOverwrite target place action) := by
  rw [tableOverwrite, List.map_append, Overwrite.all_append]
  rfl

theorem actionOverwrite_delay {action : RealtekTableAction} (h : action.kind = .delay) :
    actionOverwrite target place action = .empty := by
  rw [actionOverwrite, h]

theorem actionOverwrite_write {action : RealtekTableAction} {asked : γ} (h : action.kind = .write)
    (hasked : target action = .ok asked) : actionOverwrite target place action = place action asked := by
  rw [actionOverwrite, h, hasked]

end Overwrites

/-! ## Tables of mapped registers -/

section Mapped

variable {target : RealtekTableAction → Except RuntimeRadioError γ}
  {write : RealtekTableAction → γ → RegisterAction Unit}
  {place : RealtekTableAction → γ → Overwrite RegisterBit Bool}

/-- the table was applied to registers -/
def TableWritten (target : RealtekTableAction → Except RuntimeRadioError γ)
    (place : RealtekTableAction → γ → Overwrite RegisterBit Bool) (start : StuckRegisters)
    (applied : List RealtekTableAction) (file : StuckRegisters) : Prop :=
  file = start.write (tableOverwrite target place applied)

/-- a table each of whose actions writes all or nothing -/
theorem acts_writesTable
    (hwrites : ∀ action asked, target action = .ok asked → Writes (write action asked) (place action asked))
    (faults : Prop) (start : StuckRegisters) (actions : List RealtekTableAction) :
    Acts faults (fun file => file = start) (runTableActions target write actions 0 0)
      (fun counts file => ((∀ action ∈ actions, WellFormed target action) ∧
        counts = (countKind .write actions, countKind .delay actions)) ∧ TableWritten target place start actions file)
      (Stopped faults target (TableWritten target place start) [] actions) := by
  have hdelay (applied : List RealtekTableAction) (action : RealtekTableAction) (file : StuckRegisters)
      (hkind : action.kind = .delay) (hfile : TableWritten target place start applied file) :
      TableWritten target place start (applied ++ [action]) file := by
    rw [TableWritten, tableOverwrite_snoc, actionOverwrite_delay hkind, Overwrite.andThen_empty]
    exact hfile
  have hwrite (applied : List RealtekTableAction) (action : RealtekTableAction) (asked : γ)
      (hkind : action.kind = .write) (hasked : target action = .ok asked) :
      Acts faults (TableWritten target place start applied) (write action asked)
        (fun _ => TableWritten target place start (applied ++ [action]))
        fun file => faults ∧ TableWritten target place start applied file := by
    refine (hwrites action asked hasked faults (start.write (tableOverwrite target place applied))).weaken
      (fun _ h => h) ?_ fun _ h => h
    rintro _ file rfl
    rw [TableWritten, tableOverwrite_snoc, actionOverwrite_write hkind hasked, StuckRegisters.write_write]
  refine (acts_runTable hdelay hwrite [] actions 0 0).weaken ?_ ?_ fun _ h => h
  · rintro file rfl
    exact file.write_empty.symm
  · intro counts file h
    rwa [Nat.zero_add, Nat.zero_add] at h

/-- **A table on mapped registers.** However the run ends, a prefix of the table was applied, and all of it if the run
returns. Unless a transfer fails, it returns if and only if every action is well-formed. -/
theorem writesTable_outcome
    (hwrites : ∀ action asked, target action = .ok asked → Writes (write action asked) (place action asked))
    {actions : List RealtekTableAction} {s s' : RegisterRun (FaultyDevice StuckRegisters)}
    {outcome : Except RuntimeRadioError (ℕ × ℕ)}
    (hrun : (runTableActions target write actions 0 0).exec s = (outcome, s')) :
    ∃ now later, actions = now ++ later ∧ (∀ action ∈ now, WellFormed target action) ∧
      s'.transport.file = s.transport.file.write (tableOverwrite target place now) ∧
      (∀ counts, outcome = .ok counts →
        later = [] ∧ counts = (countKind .write actions, countKind .delay actions)) ∧
      (s.transport.Reliable → ((∃ counts, outcome = .ok counts) ↔ ∀ action ∈ actions, WellFormed target action)) := by
  have hacts := acts_writesTable hwrites (¬s.transport.Reliable) s.transport.file actions
  obtain ⟨hok, herror⟩ := Handles.of_run hacts hrun ⟨(Classical.em _).symm, rfl⟩
  cases outcome with
  | ok counts =>
    obtain ⟨-, ⟨hall, hcounts⟩, hfile⟩ := hok counts rfl
    refine ⟨actions, [], (List.append_nil _).symm, hall, hfile, ?_, fun _ => ⟨fun _ => hall, fun _ => ⟨counts, rfl⟩⟩⟩
    rintro _ ⟨⟩
    exact ⟨rfl, hcounts⟩
  | error error =>
    obtain ⟨-, now, later, rfl, hfile, hnow, hwhy⟩ := herror error rfl
    refine ⟨now, later, rfl, hnow, hfile, ?_, ?_⟩
    · rintro _ ⟨⟩
    · intro hreliable
      constructor
      · rintro ⟨_, ⟨⟩⟩
      · intro hall
        rcases hwhy with hfaults | ⟨bad, hbad, hmalformed⟩
        · exact absurd hreliable hfaults
        · exact absurd (hall bad (List.mem_append_right _ (List.mem_of_mem_head? hbad))) hmalformed

/-- the effect of a table that is not read back -/
def tableEffect (target : RealtekTableAction → Except RuntimeRadioError γ)
    (place : RealtekTableAction → γ → Overwrite RegisterBit Bool) (actions : List RealtekTableAction) :
    Effect RegisterBit Bool where
  writes := tableOverwrite target place actions
  finds := .empty

theorem tableOverwrite_append (now later : List RealtekTableAction) :
    tableOverwrite target place (now ++ later)
      = (tableOverwrite target place now).andThen (tableOverwrite target place later) := by
  rw [tableOverwrite, List.map_append, Overwrite.all_append]
  rfl

theorem performs_table {P : StuckRegisters → Prop}
    (hwrites : ∀ action asked, target action = .ok asked → Writes (write action asked) (place action asked))
    (actions : List RealtekTableAction) :
    Performs P (runTableActions target write actions 0 0)
      (fun counts => (∀ action ∈ actions, WellFormed target action) ∧
        counts = (countKind .write actions, countKind .delay actions)) (tableEffect target place actions) := by
  intro start _
  refine (acts_writesTable hwrites True start actions).weaken (fun _ h => h) ?_ ?_
  · rintro counts file ⟨hcounts, rfl⟩
    exact ⟨hcounts, reached_write (Overwrite.found_empty _)⟩
  · rintro file ⟨now, later, rfl, rfl, -, -⟩
    refine ⟨rfl, ?_⟩
    rw [Effect.Within, tableEffect, tableOverwrite_append, Overwrite.restrict_andThen]
    exact (Overwrite.Agree.apply _ _).andThen_left _

end Mapped

/-- where the bits of a byte go -/
def macPlace (_ : RealtekTableAction) (asked : UInt16 × UInt8) : Overwrite RegisterBit Bool :=
  wordWrite asked.1 1 asked.2.toNat

/-- where the bits under a mask go -/
def bbPlace (_ : RealtekTableAction) (asked : UInt16 × UInt32 × UInt32) : Overwrite RegisterBit Bool :=
  fieldWrite asked.1 4 asked.2.1.toNat (shifted asked.2.1 asked.2.2).toNat

section Registers

variable (registers : Rtl8812auRegisterAccess) (plan : RealtekTablePlan)

theorem writes_macTable (action : RealtekTableAction) (asked : UInt16 × UInt8) :
    Writes (macTableWrite registers action asked) (macPlace action asked) :=
  writesValue8 registers asked.1 "array_mp_8812a_mac_reg" "mac-table" asked.2

theorem writes_bbTable (action : RealtekTableAction) (asked : UInt16 × UInt32 × UInt32) :
    Writes (bbTableWrite registers plan action asked) (bbPlace action asked) :=
  fun faults before => (writes_bbSet registers "realtek-bb-table" asked.1 asked.2.1 asked.2.2 faults before).mapError _

theorem performs_macTable {P : StuckRegisters → Prop} :
    Performs P (productionApplyMacTablePlan registers plan) (fun _ => True)
      (tableEffect (macTarget plan) macPlace plan.actions) := by
  unfold productionApplyMacTablePlan
  split
  · exact .fail _ _
  · exact (performs_table (fun action asked _ => writes_macTable registers action asked) plan.actions).map _

/-- **The MAC table.** The last write to a byte wins. -/
theorem macTable_applied {s s' : RegisterRun (FaultyDevice StuckRegisters)} {outcome : Except RuntimeRadioError ℕ}
    (hrun : (productionApplyMacTablePlan registers plan).exec s = (outcome, s')) :
    ∃ now later, plan.actions = now ++ later ∧ (∀ action ∈ now, WellFormed (macTarget plan) action) ∧
      s'.transport.file = s.transport.file.write (tableOverwrite (macTarget plan) macPlace now) ∧
      (∀ writes, outcome = .ok writes → later = [] ∧ writes = countKind .write plan.actions) ∧
      (s.transport.Reliable → ((∃ writes, outcome = .ok writes) ↔
        plan.kind = .mac ∧ ∀ action ∈ plan.actions, WellFormed (macTarget plan) action)) := by
  unfold productionApplyMacTablePlan at hrun
  by_cases hkind : plan.kind ≠ .mac
  · rw [if_pos hkind] at hrun
    obtain ⟨rfl, rfl⟩ := Prod.ext_iff.1 hrun
    refine ⟨[], plan.actions, rfl, fun _ h => absurd h List.not_mem_nil, s.transport.file.write_empty.symm, ?_, ?_⟩
    · rintro _ ⟨⟩
    · intro _
      refine iff_of_false ?_ fun h => hkind h.1
      rintro ⟨_, ⟨⟩⟩
  · rw [if_neg hkind, RegisterAction.exec_bind] at hrun
    rcases htable : (runTableActions (macTarget plan) (macTableWrite registers) plan.actions 0 0).exec s
      with ⟨error | counts, s₁⟩
    · rw [Action.bind_of_error htable] at hrun
      obtain ⟨rfl, rfl⟩ := Prod.ext_iff.1 hrun
      obtain ⟨now, later, hactions, hnow, hfile, -, hreliable⟩ :=
        writesTable_outcome (fun action asked _ => writes_macTable registers action asked) htable
      refine ⟨now, later, hactions, hnow, hfile, ?_, ?_⟩
      · rintro _ ⟨⟩
      · intro h
        refine iff_of_false ?_ fun hall => ?_
        · rintro ⟨_, ⟨⟩⟩
        · obtain ⟨_, ⟨⟩⟩ := (hreliable h).2 hall.2
    · rw [Action.bind_of_ok htable] at hrun
      obtain ⟨rfl, rfl⟩ := Prod.ext_iff.1 hrun
      obtain ⟨now, later, hactions, hnow, hfile, hcounts, hreliable⟩ :=
        writesTable_outcome (fun action asked _ => writes_macTable registers action asked) htable
      refine ⟨now, later, hactions, hnow, hfile, ?_, fun h => ?_⟩
      · rintro _ ⟨⟩
        exact ⟨(hcounts counts rfl).1, congrArg Prod.fst (hcounts counts rfl).2⟩
      · exact iff_of_true ⟨counts.1, rfl⟩ ⟨of_not_not hkind, (hreliable h).1 ⟨counts, rfl⟩⟩

/-- two writes to one byte -/
def twoWritesPlan : RealtekTablePlan where
  arrayName := "array_mp_8812a_mac_reg"
  kind := .mac
  rawValueCount := 4
  rawPairCount := 2
  conditionMarkerPairs := 0
  skippedWritePairs := 0
  actions := [tableAction .mac 0 (0x010, 0x7c), tableAction .mac 1 (0x010, 0x0c)]

theorem macTable_applied_twoWrites :
    ((productionApplyMacTablePlan {} twoWritesPlan).exec setBench).2.transport.file
      = setBench.transport.file.write (tableOverwrite (macTarget twoWritesPlan) macPlace twoWritesPlan.actions) := by
  have hok : ((productionApplyMacTablePlan {} twoWritesPlan).exec setBench).1 = .ok 2 := by decide +kernel
  obtain ⟨now, later, hactions, -, hfile, hcounts, -⟩ := macTable_applied {} twoWritesPlan Prod.mk.eta.symm
  rw [(hcounts 2 hok).1, List.append_nil] at hactions
  rw [hactions]
  exact hfile

end Registers

/-! ## The phase of the baseband -/

def regMacPhyCtrl : UInt16 := 0x002c
def rtl8812CrystalCapMask : UInt32 := 0x7ff80000
def crystalCap : UInt32 := (0x20 : UInt32) ||| ((0x20 : UInt32) <<< 6)

section Sequence

variable (registers : Rtl8812auRegisterAccess)

def productionBbMaskedWrite32 (registerName : String) (address : UInt16) (bitmask data : UInt32) (phase : String) :
    RegisterAction Unit := do
  bbSetBbReg registers address bitmask data registerName
  if bitmask ≠ 0 then
    let after ← read32WithCounter registers address registerName phase
    let expected := shifted bitmask data &&& bitmask
    if after &&& bitmask ≠ expected then
      .fail (productionReadbackError registerName bitmask.toNat expected.toNat (after &&& bitmask).toNat 8)
    else return ()
  else return ()

/-- the writes of the phase, and the writes and delays of its two tables -/
def productionBbSequence (phyPlan agcPlan : RealtekTablePlan) : RegisterAction (ℕ × (ℕ × ℕ) × (ℕ × ℕ)) := do
  productionPreflightFirmware registers "BB programming"
  let beforeWrites ← RegisterAction.counters
  productionRmw8Preserve registers "REG_SYS_FUNC_EN" regSysFuncEn (~~~fenUsba) fenUsba fenUsba "bb"
  productionRmw8Preserve registers "REG_SYS_FUNC_EN" regSysFuncEn (~~~bbReadyMask) bbReadyMask bbReadyMask "bb"
  productionWrite8Verify registers "REG_RF_CTRL" regRfCtrl 0x07 0xff 0x07 "bb"
  productionWrite8Verify registers "REG_RF_B_CTRL_8812" regRfBCtrl8812 0x07 0xff 0x07 "bb"
  let phyCounts ← productionRunBbTablePlan registers phyPlan
  let agcCounts ← productionRunBbTablePlan registers agcPlan
  productionBbMaskedWrite32 registers "REG_MAC_PHY_CTRL" regMacPhyCtrl rtl8812CrystalCapMask crystalCap "bb-crystal-cap"
  let writes ← writesSince beforeWrites
  return (writes, phyCounts, agcCounts)

/-! ## Effects -/

variable {P : StuckRegisters → Prop}

theorem performs_bbMasked (registerName : String) (address : UInt16) (bitmask data : UInt32) (phase : String) :
    Performs P (productionBbMaskedWrite32 registers registerName address bitmask data phase) (fun _ => True)
      (setField address 4 bitmask.toNat (shifted bitmask data).toNat).effect := by
  rw [setField, blind_found]
  refine (performs_bbSet registers registerName address bitmask data).next fun _ _ => ?_
  split
  · have hfound (before : StuckRegisters) : Acts True (fun file => file = before)
        (do
          let after ← read32WithCounter registers address registerName phase
          let expected := shifted bitmask data &&& bitmask
          if after &&& bitmask ≠ expected then
            .fail (productionReadbackError registerName bitmask.toNat expected.toNat (after &&& bitmask).toNat 8)
          else return ())
        (fun _ file => before.value address 4 &&& bitmask.toNat = (shifted bitmask data).toNat &&& bitmask.toNat ∧
          file = before) fun file => file = before := by
      apply Acts.bind ((readsValue32 registers address registerName phase).acts before)
      intro after
      apply Acts.assume
      intro hafter
      dsimp only
      split
      · exact Acts.fail _ fun _ h => h
      · rename_i heq
        apply Acts.pure
        intro file hfile
        refine ⟨?_, hfile⟩
        rw [← hafter, ← UInt32.toNat_and, ← UInt32.toNat_and, of_not_not heq]
    exact performs_found hfound fun _ _ h => h
  · rename_i hempty
    rw [of_not_not hempty, show (0 : UInt32).toNat = 0 from rfl, foundField_effect, fieldWrite_zero]
    exact Performs.pure trivial

/-- what comes before the tables -/
def bbResetSteps : List RegisterStep :=
  preflightFirmwareSteps ++
    [setField regSysFuncEn 1 fenUsba.toNat fenUsba.toNat, setField regSysFuncEn 1 bbReadyMask.toNat bbReadyMask.toNat,
      setWord regRfCtrl 1 0x07, setWord regRfBCtrl8812 1 0x07]

def bbTables (phyPlan agcPlan : RealtekTablePlan) : Effect RegisterBit Bool :=
  (tableEffect (bbTarget phyPlan) bbPlace phyPlan.actions).andThen
    (tableEffect (bbTarget agcPlan) bbPlace agcPlan.actions)

def bbEffect (phyPlan agcPlan : RealtekTablePlan) : Effect RegisterBit Bool :=
  ((RegisterStep.effects bbResetSteps).andThen (bbTables phyPlan agcPlan)).andThen
    (setField regMacPhyCtrl 4 rtl8812CrystalCapMask.toNat (shifted rtl8812CrystalCapMask crystalCap).toNat).effect

/-- what a table that was applied in full returns -/
def TableDone (target : RealtekTableAction → Except RuntimeRadioError γ) (plan : RealtekTablePlan)
    (counts : ℕ × ℕ) : Prop :=
  (∀ action ∈ plan.actions, WellFormed target action) ∧
    counts = (countKind .write plan.actions, countKind .delay plan.actions)

theorem performs_bb (phyPlan agcPlan : RealtekTablePlan) :
    Performs P (productionBbSequence registers phyPlan agcPlan)
      (fun result => TableDone (bbTarget phyPlan) phyPlan result.2.1 ∧ TableDone (bbTarget agcPlan) agcPlan result.2.2)
      (bbEffect phyPlan agcPlan) := by
  have htable (plan : RealtekTablePlan) : Performs (fun _ => True) (productionRunBbTablePlan registers plan)
      (TableDone (bbTarget plan) plan) (tableEffect (bbTarget plan) bbPlace plan.actions) :=
    performs_table (fun action asked _ => writes_bbTable registers plan action asked) plan.actions
  rw [bbEffect, bbTables, Effect.andThen_assoc, Effect.andThen_assoc, bbResetSteps, RegisterStep.effects_append,
    Effect.andThen_assoc]
  refine (performs_preflightFirmware registers _).next fun _ _ => ?_
  refine Performs.counters.bind_empty fun before _ => ?_
  rw [RegisterStep.effects]
  simp only [List.map_cons, List.map_nil, Effect.all, Effect.andThen_assoc, Effect.empty_andThen]
  refine (performs_rmw8Preserve registers _ _ _ fenUsba fenUsba).next fun _ _ => ?_
  refine (performs_rmw8Preserve registers _ _ _ bbReadyMask bbReadyMask).next fun _ _ => ?_
  refine (performs_write8Verify registers _ _ _ 0x07 0xff 0x07).next fun _ _ => ?_
  refine (performs_write8Verify registers _ _ _ 0x07 0xff 0x07).next fun _ _ => ?_
  refine (htable phyPlan).next fun phyCounts hphy => ?_
  refine (htable agcPlan).next fun agcCounts hagc => ?_
  rw [← Effect.andThen_empty (setField _ _ _ _).effect]
  refine (performs_bbMasked registers _ _ _ _ _).next fun _ _ => ?_
  exact Performs.bind_empty (performs_writesSince before) fun _ _ => Performs.pure ⟨hphy, hagc⟩

end Sequence

/-- what the phase has found before the tables -/
def bbResetFields : List RegisterField :=
  [⟨regCr, 2, crEnableBits.toNat, crEnableBits.toNat⟩, ⟨regMcufwdl, 1, firmwareReadyMask.toNat, firmwareReadyMask.toNat⟩,
    ⟨regSysFuncEn, 1, bbReadyMask.toNat, bbReadyMask.toNat⟩, ⟨regRfCtrl, 1, 0xff, 0x07⟩,
    ⟨regRfBCtrl8812, 1, 0xff, 0x07⟩]

def crystalField : RegisterField := ⟨regMacPhyCtrl, 4, 0x7ff80000, 0x41000000⟩

/-- neither table writes to the field -/
def TablesAvoid (phyPlan agcPlan : RealtekTablePlan) (field : RegisterField) : Prop :=
  ∀ k < field.bytes, ∀ i : Fin 8, (bbTables phyPlan agcPlan).writes (field.address + UInt16.ofNat k, i) = none

theorem bbTables_finds (phyPlan agcPlan : RealtekTablePlan) (c : RegisterBit) :
    (bbTables phyPlan agcPlan).finds c = none := by
  change Option.or none (((tableEffect _ _ agcPlan.actions).writes c).elim none fun _ => none) = none
  rw [Option.none_or]
  cases (tableEffect (bbTarget agcPlan) bbPlace agcPlan.actions).writes c <;> rfl

theorem bbResetFields_found : ∀ field ∈ bbResetFields, field.foundBy bbResetSteps = true ∧
    field.mask < 2 ^ (8 * field.bytes) ∧ field.bytes ≤ 2 ^ 16 ∧
      ∀ k < field.bytes, (field.address + UInt16.ofNat k - crystalField.address).toNat ≥ 4 := by
  decide +kernel

/-- the crystal cap comes last -/
theorem crystalField_in {phyPlan agcPlan : RealtekTablePlan} {start file : StuckRegisters}
    (hreached : StuckRegisters.Reached (bbEffect phyPlan agcPlan) start file) : crystalField.In file := by
  have hcrystal : crystalField.FoundIn (setField regMacPhyCtrl 4 rtl8812CrystalCapMask.toNat
      (shifted rtl8812CrystalCapMask crystalCap).toNat).effect.finds :=
    RegisterField.foundIn_fieldWrite (by decide)
  exact RegisterField.in_of_found hreached.bits.found (hcrystal.last _) (by decide) (by decide)

/-- **The phase of the baseband.** It writes what the two tables ask for, one after the other, between the reset and the
crystal cap. If it returns, every action was well-formed, the crystal cap is set, and so is what the reset sets, unless a
table writes there. -/
theorem bb_registers (registers : Rtl8812auRegisterAccess) (phyPlan agcPlan : RealtekTablePlan)
    {s s' : RegisterRun (FaultyDevice StuckRegisters)} {outcome : Except RuntimeRadioError (ℕ × (ℕ × ℕ) × (ℕ × ℕ))}
    (hrun : (productionBbSequence registers phyPlan agcPlan).exec s = (outcome, s')) :
    (∀ c, (bbEffect phyPlan agcPlan).writes c = none → s'.transport.file.bits c = s.transport.file.bits c) ∧
      ∀ result, outcome = .ok result →
        TableDone (bbTarget phyPlan) phyPlan result.2.1 ∧ TableDone (bbTarget agcPlan) agcPlan result.2.2 ∧
          s'.transport.file = s.transport.file.write (bbEffect phyPlan agcPlan).writes ∧
          crystalField.In s'.transport.file ∧
          ∀ field ∈ bbResetFields, TablesAvoid phyPlan agcPlan field → field.In s'.transport.file := by
  obtain ⟨hwithin, hok⟩ := (performs_bb (P := fun _ => True) registers phyPlan agcPlan).outcome trivial hrun
  refine ⟨fun c hc => hwithin.bits c (Overwrite.restrict_eq_none hc), fun result hresult => ?_⟩
  obtain ⟨⟨hphy, hagc⟩, hreached⟩ := hok result hresult
  refine ⟨hphy, hagc, StuckRegisters.ext hreached.bits.written hreached.writable, crystalField_in hreached, ?_⟩
  intro field hfield havoid
  obtain ⟨hfound, hmask, hbytes, hfar⟩ := bbResetFields_found field hfield
  refine RegisterField.in_of_found hreached.bits.found ?_ hmask hbytes
  refine ((RegisterField.foundIn_of_foundBy hfound).kept fun k hk i _ => ⟨havoid k hk i, bbTables_finds _ _ _⟩).kept ?_
  intro k hk i _
  refine RegisterStep.effect_of_not_covers (decide_eq_false ?_)
  exact Nat.not_lt.2 (hfar k hk)

/-- one write under a mask, and a delay -/
def phySamplePlan : RealtekTablePlan where
  arrayName := "array_mp_8812a_phy_reg"
  kind := .bbPhy
  rawValueCount := 4
  rawPairCount := 2
  conditionMarkerPairs := 0
  skippedWritePairs := 0
  actions := [tableAction .bbPhy 0 (0x800, 0x8020d010), tableAction .bbPhy 1 (0xfe, 0)]

theorem bb_registers_phySample :
    crystalField.In ((productionBbSequence {} phySamplePlan phySamplePlan).exec setBench).2.transport.file := by
  have hok : ((productionBbSequence {} phySamplePlan phySamplePlan).exec setBench).1 = .ok (7, (1, 1), (1, 1)) := by
    decide +kernel
  exact ((bb_registers {} phySamplePlan phySamplePlan Prod.mk.eta.symm).2 _ hok).2.2.2.1

end WfbLink.Runtime
