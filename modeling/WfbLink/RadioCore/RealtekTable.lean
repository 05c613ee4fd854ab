/-
Tables of register writes with conditions (`radio-core/src/realtek_table.rs`).

A table is a list of pairs. Two bits of the first word tell markers from writes: a condition opens a branch, which is
taken if it is the first one of its block that is accepted. The planner keeps four flags instead of a block.

- `items_run`: between blocks that are not nested the flags are as at the start.
- `planned_first_match`: the plan of such blocks is what first-match branching leaves of them.
-/
import Mathlib.Tactic

namespace WfbLink.RadioCore

/-! ## Conditions -/

def bit31 : UInt32 := (1 : UInt32) <<< 31
def bit30 : UInt32 := (1 : UInt32) <<< 30
def bit29 : UInt32 := (1 : UInt32) <<< 29
def bit28 : UInt32 := (1 : UInt32) <<< 28
def maskDword : UInt32 := 0xffffffff

inductive RealtekTableError where
  | arrayNotFound (arrayName : String)
  | arrayBodyNotFound (arrayName : String)
  | oddValueCount (arrayName : String) (valueCount : ℕ)
  | byteOutOfRange (arrayName : String) (literal : UInt32)
  | invalidNumber (literal message : String)
deriving DecidableEq, Repr

def RealtekTableError.message : RealtekTableError → String
  | .arrayNotFound arrayName => s!"array {arrayName.quote} was not found"
  | .arrayBodyNotFound arrayName => s!"array {arrayName.quote} does not contain a braced initializer"
  | .oddValueCount arrayName valueCount =>
    s!"array {arrayName.quote} contains an odd number of u32 values: {valueCount}"
  | .byteOutOfRange arrayName literal => s!"array {arrayName.quote} contains non-u8 literal {literal}"
  | .invalidNumber literal message => s!"invalid numeric literal {literal.quote}: {message}"

inductive RealtekTableKind where
  | mac
  | bbPhy
  | bbAgc
  | rfRadioA
  | rfRadioB
deriving DecidableEq, Repr

structure RealtekConditionEnv where
  cutVersion : UInt8
  packageType : UInt8
  supportInterface : UInt8
  supportPlatform : UInt8
  boardType : UInt8
  typeGlna : UInt16
  typeGpa : UInt16
  typeAlna : UInt16
  typeApa : UInt16

def RealtekConditionEnv.rtl8812auAwus036achDefault : RealtekConditionEnv where
  cutVersion := 0
  packageType := 0
  supportInterface := 0x02
  supportPlatform := 0x00
  boardType := 0xd8
  typeGlna := 0
  typeGpa := 0
  typeAlna := 0
  typeApa := 0

/-- zero stands for any -/
def paraOrAny (version : UInt8) : UInt8 := if version = 0 then 15 else version

/-- bit `i` of a byte, at the bottom -/
def bitOf (value i : UInt8) : UInt8 := (value &&& ((1 : UInt8) <<< i)) >>> i

/-- the bits of the board type, in the order of the conditions -/
def conditionBoardType (boardType : UInt8) : UInt8 :=
  bitOf boardType 4 ||| (bitOf boardType 3 <<< 1) ||| (bitOf boardType 7 <<< 2) ||| (bitOf boardType 6 <<< 3) |||
    (bitOf boardType 2 <<< 4) ||| (bitOf boardType 1 <<< 5) ||| (bitOf boardType 5 <<< 6)

def conditionDriver1 (env : RealtekConditionEnv) : UInt32 :=
  ((paraOrAny env.cutVersion).toUInt32 <<< 24) ||| ((env.supportInterface &&& 0xf0).toUInt32 <<< 16) |||
    (env.supportPlatform.toUInt32 <<< 16) ||| ((paraOrAny env.packageType).toUInt32 <<< 12) |||
    ((env.supportInterface &&& 0x0f).toUInt32 <<< 8) ||| (conditionBoardType env.boardType).toUInt32

def conditionDriver2 (env : RealtekConditionEnv) : UInt32 :=
  (env.typeGlna &&& 0x00ff).toUInt32 ||| ((env.typeGpa &&& 0x00ff).toUInt32 <<< 8) |||
    ((env.typeAlna &&& 0x00ff).toUInt32 <<< 16) ||| ((env.typeApa &&& 0x00ff).toUInt32 <<< 24)

def conditionDriver4 (env : RealtekConditionEnv) : UInt32 :=
  ((env.typeGlna &&& 0xff00) >>> 8).toUInt32 ||| (env.typeGpa &&& 0xff00).toUInt32 |||
    ((env.typeAlna &&& 0xff00).toUInt32 <<< 8) ||| ((env.typeApa &&& 0xff00).toUInt32 <<< 16)

/-- which front-end types a condition asks for -/
def conditionTypeMask (cond1 : UInt32) : UInt32 :=
  (if cond1 &&& 1 ≠ 0 then 0x000000ff else 0) ||| (if cond1 &&& 2 ≠ 0 then 0x0000ff00 else 0) |||
    (if cond1 &&& 4 ≠ 0 then 0x00ff0000 else 0) ||| (if cond1 &&& 8 ≠ 0 then 0xff000000 else 0)

def checkPositive (env : RealtekConditionEnv) (condition1 condition2 _condition3 condition4 : UInt32) : Bool :=
  let driver1 := conditionDriver1 env
  if condition1 &&& 0x0000f000 ≠ 0 ∧ condition1 &&& 0x0000f000 ≠ driver1 &&& 0x0000f000 then false
  else if condition1 &&& 0x0f000000 ≠ 0 ∧ condition1 &&& 0x0f000000 ≠ driver1 &&& 0x0f000000 then false
  else
    let cond1 := condition1 &&& 0x00ff0fff
    let driver1 := driver1 &&& 0x00ff0fff
    if cond1 &&& driver1 ≠ cond1 then false
    else if cond1 &&& 0x0f = 0 then true
    else
      let bitMask := conditionTypeMask cond1
      condition2 &&& bitMask = conditionDriver2 env &&& bitMask && condition4 &&& bitMask = conditionDriver4 env &&& bitMask

/-! ## Plans -/

inductive RealtekTableActionKind where
  | write
  | delay
deriving DecidableEq, Repr

structure RealtekTableAction where
  pairIndex : ℕ
  kind : RealtekTableActionKind
  address : UInt32
  bitmask : Option UInt32
  data : Option UInt32
  delayUs : Option UInt64

structure RealtekTablePlan where
  arrayName : String
  kind : RealtekTableKind
  rawValueCount : ℕ
  rawPairCount : ℕ
  conditionMarkerPairs : ℕ
  skippedWritePairs : ℕ
  actions : List RealtekTableAction

def tableBitmask : RealtekTableKind → UInt32
  | .mac | .bbPhy | .bbAgc => maskDword
  | .rfRadioA | .rfRadioB => 0x000fffff

def tableDelayUs (kind : RealtekTableKind) (address : UInt32) : Option UInt64 :=
  match kind with
  | .mac => none
  | .bbPhy =>
    if address = 0xfe then some 50000
    else if address = 0xfd then some 5000
    else if address = 0xfc then some 1000
    else if address = 0xfb then some 50
    else if address = 0xfa then some 5
    else if address = 0xf9 then some 1
    else none
  | .rfRadioA | .rfRadioB => if address = 0xfe ∨ address = 0xffe then some 50000 else none
  | .bbAgc => none

abbrev RealtekPair : Type := UInt32 × UInt32

/-- what a pair that is no marker asks for -/
def tableAction (kind : RealtekTableKind) (pairIndex : ℕ) (pair : RealtekPair) : RealtekTableAction :=
  match tableDelayUs kind pair.1 with
  | some delayUs =>
    { pairIndex, kind := .delay, address := pair.1, bitmask := none, data := none, delayUs := some delayUs }
  | none =>
    { pairIndex
      kind := .write
      address := pair.1
      bitmask := some (tableBitmask kind)
      data := some pair.2
      delayUs := none }

/-- the flags of the planner, and what it has collected -/
structure RealtekTableState where
  actions : List RealtekTableAction := []
  conditionMarkerPairs : ℕ := 0
  skippedWritePairs : ℕ := 0
  isMatched : Bool := true
  isSkipped : Bool := false
  preV1 : UInt32 := 0
  preV2 : UInt32 := 0

def conditionOf (v1 : UInt32) : UInt32 := (v1 &&& (bit29 ||| bit28)) >>> 28

def isMarker (v1 : UInt32) : Bool := v1 &&& (bit31 ||| bit30) ≠ 0

section Plan

variable (env : RealtekConditionEnv) (kind : RealtekTableKind)

/-- a marker only changes the flags -/
def markerStep (pair : RealtekPair) (s : RealtekTableState) : RealtekTableState :=
  if pair.1 &&& bit31 ≠ 0 then
    if conditionOf pair.1 = 3 then { s with isMatched := true, isSkipped := false }
    else if conditionOf pair.1 = 2 then { s with isMatched := !s.isSkipped }
    else { s with preV1 := pair.1, preV2 := pair.2 }
  else if pair.1 &&& bit30 ≠ 0 then
    if s.isSkipped then { s with isMatched := false }
    else if checkPositive env s.preV1 s.preV2 pair.1 pair.2 then { s with isMatched := true, isSkipped := true }
    else { s with isMatched := false, isSkipped := false }
  else s

def pairStep (pairIndex : ℕ) (pair : RealtekPair) (s : RealtekTableState) : RealtekTableState :=
  if isMarker pair.1 then markerStep env pair { s with conditionMarkerPairs := s.conditionMarkerPairs + 1 }
  else if !s.isMatched then { s with skippedWritePairs := s.skippedWritePairs + 1 }
  else { s with actions := s.actions ++ [tableAction kind pairIndex pair] }

/-- from pair number `pairIndex` on -/
def tableRun : ℕ → List RealtekPair → RealtekTableState → RealtekTableState
  | _, [], s => s
  | pairIndex, pair :: pairs, s => tableRun (pairIndex + 1) pairs (pairStep env kind pairIndex pair s)

/-- `chunks_exact(2)` -/
def pairsOf : List UInt32 → List RealtekPair
  | v1 :: v2 :: values => (v1, v2) :: pairsOf values
  | _ => []

def planRealtekTable (arrayName : String) (values : List UInt32) : Except RealtekTableError RealtekTablePlan :=
  if values.length % 2 ≠ 0 then .error (.oddValueCount arrayName values.length)
  else
    let s := tableRun env kind 0 (pairsOf values) {}
    .ok {
      arrayName
      kind
      rawValueCount := values.length
      rawPairCount := values.length / 2
      conditionMarkerPairs := s.conditionMarkerPairs
      skippedWritePairs := s.skippedWritePairs
      actions := s.actions }

end Plan

/-! ## Blocks -/

/-- a branch: its condition is the words of the marker and of the pair behind it -/
structure RealtekBranch where
  marker : RealtekPair
  condition : RealtekPair
  body : List RealtekPair
  opens : marker.1 &&& bit31 ≠ 0 ∧ conditionOf marker.1 ≠ 3 ∧ conditionOf marker.1 ≠ 2
  positive : condition.1 &&& bit31 = 0 ∧ condition.1 &&& bit30 ≠ 0
  plain : ∀ pair ∈ body, isMarker pair.1 = false

structure RealtekElse where
  marker : RealtekPair
  body : List RealtekPair
  opens : marker.1 &&& bit31 ≠ 0 ∧ conditionOf marker.1 = 2
  plain : ∀ pair ∈ body, isMarker pair.1 = false

/-- IF, any number of ELSE IFs, perhaps ELSE, and ENDIF -/
structure RealtekBlock where
  first : RealtekBranch
  elseIfs : List RealtekBranch
  otherwise : Option RealtekElse
  endIf : RealtekPair
  closes : endIf.1 &&& bit31 ≠ 0 ∧ conditionOf endIf.1 = 3

/-- a part of a table without nested blocks -/
inductive RealtekItem where
  | plain (pair : RealtekPair) (h : isMarker pair.1 = false)
  | block (conditional : RealtekBlock)

namespace RealtekBranch

def pairs (branch : RealtekBranch) : List RealtekPair := branch.marker :: branch.condition :: branch.body

def accepted (env : RealtekConditionEnv) (branch : RealtekBranch) : Bool :=
  checkPositive env branch.marker.1 branch.marker.2 branch.condition.1 branch.condition.2

/-- the bodies of branches one after the other, each with the number of its first pair -/
def bodies : ℕ → List RealtekBranch → List (RealtekBranch × ℕ)
  | _, [] => []
  | pairIndex, branch :: branches =>
    (branch, pairIndex + 2) :: bodies (pairIndex + branch.pairs.length) branches

end RealtekBranch

def RealtekElse.pairs (branch : RealtekElse) : List RealtekPair := branch.marker :: branch.body

namespace RealtekBlock

def branches (block : RealtekBlock) : List RealtekBranch := block.first :: block.elseIfs

def branchPairs (block : RealtekBlock) : List RealtekPair := block.branches.flatMap RealtekBranch.pairs

def pairs (block : RealtekBlock) : List RealtekPair :=
  block.branchPairs ++ (block.otherwise.map RealtekElse.pairs).getD [] ++ [block.endIf]

/-- the body of the first branch that is accepted, or else of ELSE, with the number of its first pair -/
def taken (env : RealtekConditionEnv) (pairIndex : ℕ) (block : RealtekBlock) : List RealtekPair × ℕ :=
  match (RealtekBranch.bodies pairIndex block.branches).find? (·.1.accepted env) with
  | some (branch, start) => (branch.body, start)
  | none =>
    match block.otherwise with
    | some otherwise => (otherwise.body, pairIndex + block.branchPairs.length + 1)
    | none => ([], pairIndex)

end RealtekBlock

namespace RealtekItem

def pairs : RealtekItem → List RealtekPair
  | .plain pair _ => [pair]
  | .block conditional => conditional.pairs

/-- what is left of an item that starts at a pair -/
def taken (env : RealtekConditionEnv) (pairIndex : ℕ) : RealtekItem → List RealtekPair × ℕ
  | .plain pair _ => ([pair], pairIndex)
  | .block conditional => conditional.taken env pairIndex

end RealtekItem

/-- the actions of pairs one after the other -/
def tableActions (kind : RealtekTableKind) (pairIndex : ℕ) (pairs : List RealtekPair) : List RealtekTableAction :=
  (pairs.zipIdx pairIndex).map fun pair => tableAction kind pair.2 pair.1

/-- **First-match branching**: the actions of what is left of every item -/
def blockActions (env : RealtekConditionEnv) (kind : RealtekTableKind) :
    ℕ → List RealtekItem → List RealtekTableAction
  | _, [] => []
  | pairIndex, item :: items =>
    tableActions kind (item.taken env pairIndex).2 (item.taken env pairIndex).1 ++
      blockActions env kind (pairIndex + item.pairs.length) items

/-- the words of a table -/
def valuesOf (pairs : List RealtekPair) : List UInt32 := pairs.flatMap fun pair => [pair.1, pair.2]

/-! ## Steps -/

section Steps

variable {env : RealtekConditionEnv} {kind : RealtekTableKind}

theorem tableRun_append (pairIndex : ℕ) (pairs later : List RealtekPair) (s : RealtekTableState) :
    tableRun env kind pairIndex (pairs ++ later) s =
      tableRun env kind (pairIndex + pairs.length) later (tableRun env kind pairIndex pairs s) := by
  induction pairs generalizing pairIndex s with
  | nil => rfl
  | cons pair pairs ih =>
    rw [List.cons_append, tableRun, ih, tableRun, List.length_cons, Nat.add_assoc, Nat.add_comm 1]

/-- the flags between pairs, and the actions so far -/
structure RealtekTableState.At (matched skipped : Bool) (actions : List RealtekTableAction)
    (s : RealtekTableState) : Prop where
  isMatched : s.isMatched = matched
  isSkipped : s.isSkipped = skipped
  actions : s.actions = actions

theorem pairStep_marker {pair : RealtekPair} (h : isMarker pair.1 = true) (pairIndex : ℕ) (s : RealtekTableState) :
    pairStep env kind pairIndex pair s =
      markerStep env pair { s with conditionMarkerPairs := s.conditionMarkerPairs + 1 } := if_pos h

theorem pairStep_plain {pair : RealtekPair} (h : isMarker pair.1 = false) (pairIndex : ℕ) (s : RealtekTableState) :
    pairStep env kind pairIndex pair s =
      if !s.isMatched then { s with skippedWritePairs := s.skippedWritePairs + 1 }
      else { s with actions := s.actions ++ [tableAction kind pairIndex pair] } :=
  if_neg (by rw [h]; exact Bool.false_ne_true)

theorem pairStep_planned {pair : RealtekPair} (h : isMarker pair.1 = false) (pairIndex : ℕ) {s : RealtekTableState}
    (hmatched : s.isMatched = true) :
    pairStep env kind pairIndex pair s = { s with actions := s.actions ++ [tableAction kind pairIndex pair] } := by
  rw [pairStep_plain h, if_neg (by rw [hmatched]; decide)]

theorem pairStep_skipped {pair : RealtekPair} (h : isMarker pair.1 = false) (pairIndex : ℕ) {s : RealtekTableState}
    (hmatched : s.isMatched = false) :
    pairStep env kind pairIndex pair s = { s with skippedWritePairs := s.skippedWritePairs + 1 } := by
  rw [pairStep_plain h, if_pos (by rw [hmatched]; decide)]

theorem tableActions_cons (pairIndex : ℕ) (pair : RealtekPair) (pairs : List RealtekPair) :
    tableActions kind pairIndex (pair :: pairs) =
      tableAction kind pairIndex pair :: tableActions kind (pairIndex + 1) pairs := rfl

/-- a body is planned whole, if its branch is taken -/
theorem body_planned {pairs : List RealtekPair} (hplain : ∀ pair ∈ pairs, isMarker pair.1 = false) (pairIndex : ℕ)
    {skipped : Bool} {actions : List RealtekTableAction} {s : RealtekTableState} (h : s.At true skipped actions) :
    (tableRun env kind pairIndex pairs s).At true skipped (actions ++ tableActions kind pairIndex pairs) := by
  induction pairs generalizing pairIndex actions s with
  | nil =>
    have hnone : actions ++ tableActions kind pairIndex [] = actions := List.append_nil actions
    rw [hnone]
    exact h
  | cons pair pairs ih =>
    rw [tableRun, pairStep_planned (hplain pair List.mem_cons_self) pairIndex h.isMatched, tableActions_cons,
      List.append_cons]
    refine ih (fun pair' hmem => hplain pair' (List.mem_cons_of_mem pair hmem)) (pairIndex + 1) ?_
    exact ⟨h.isMatched, h.isSkipped, by rw [← h.actions]⟩

/-- and skipped whole, if it is not -/
theorem body_skipped {pairs : List RealtekPair} (hplain : ∀ pair ∈ pairs, isMarker pair.1 = false) (pairIndex : ℕ)
    {skipped : Bool} {actions : List RealtekTableAction} {s : RealtekTableState} (h : s.At false skipped actions) :
    (tableRun env kind pairIndex pairs s).At false skipped actions := by
  induction pairs generalizing pairIndex s with
  | nil => exact h
  | cons pair pairs ih =>
    rw [tableRun, pairStep_skipped (hplain pair List.mem_cons_self) pairIndex h.isMatched]
    exact ih (fun pair' hmem => hplain pair' (List.mem_cons_of_mem pair hmem)) (pairIndex + 1)
      ⟨h.isMatched, h.isSkipped, h.actions⟩

theorem body_run {pairs : List RealtekPair} (hplain : ∀ pair ∈ pairs, isMarker pair.1 = false) (pairIndex : ℕ)
    {matched skipped : Bool} {actions : List RealtekTableAction} {s : RealtekTableState}
    (h : s.At matched skipped actions) :
    (tableRun env kind pairIndex pairs s).At matched skipped
      (actions ++ if matched then tableActions kind pairIndex pairs else []) := by
  cases matched with
  | true => exact body_planned hplain pairIndex h
  | false =>
    rw [if_neg Bool.false_ne_true, List.append_nil]
    exact body_skipped hplain pairIndex h

theorem marker_of_and {v1 bit : UInt32} (hbit : (bit31 ||| bit30) &&& bit = bit) (h : v1 &&& bit ≠ 0) :
    isMarker v1 = true := by
  rw [isMarker, decide_eq_true_iff]
  intro hzero
  apply h
  rw [← hbit, ← UInt32.and_assoc, hzero, UInt32.zero_and]

variable (env kind)

/-- a marker with bit 31 that neither ends a block nor opens ELSE keeps the flags, and the words of its condition -/
theorem open_run {pair : RealtekPair} (h31 : pair.1 &&& bit31 ≠ 0) (hend : conditionOf pair.1 ≠ 3)
    (helse : conditionOf pair.1 ≠ 2) (pairIndex : ℕ) {matched skipped : Bool} {actions : List RealtekTableAction}
    {s : RealtekTableState} (h : s.At matched skipped actions) :
    (pairStep env kind pairIndex pair s).At matched skipped actions ∧
      (pairStep env kind pairIndex pair s).preV1 = pair.1 ∧ (pairStep env kind pairIndex pair s).preV2 = pair.2 := by
  rw [pairStep_marker (marker_of_and (by decide) h31), markerStep, if_pos h31, if_neg hend, if_neg helse]
  exact ⟨⟨h.isMatched, h.isSkipped, h.actions⟩, rfl, rfl⟩

theorem else_run {pair : RealtekPair} (h31 : pair.1 &&& bit31 ≠ 0) (helse : conditionOf pair.1 = 2) (pairIndex : ℕ)
    {matched skipped : Bool} {actions : List RealtekTableAction} {s : RealtekTableState}
    (h : s.At matched skipped actions) : (pairStep env kind pairIndex pair s).At (!skipped) skipped actions := by
  rw [pairStep_marker (marker_of_and (by decide) h31), markerStep, if_pos h31, helse, if_neg (by decide), if_pos rfl]
  exact ⟨congrArg (!·) h.isSkipped, h.isSkipped, h.actions⟩

theorem endIf_run {pair : RealtekPair} (h31 : pair.1 &&& bit31 ≠ 0) (hend : conditionOf pair.1 = 3) (pairIndex : ℕ)
    {matched skipped : Bool} {actions : List RealtekTableAction} {s : RealtekTableState}
    (h : s.At matched skipped actions) : (pairStep env kind pairIndex pair s).At true false actions := by
  rw [pairStep_marker (marker_of_and (by decide) h31), markerStep, if_pos h31, if_pos hend]
  exact ⟨rfl, rfl, h.actions⟩

/-- a condition is looked at unless a branch was taken -/
theorem positive_run {pair : RealtekPair} (h31 : pair.1 &&& bit31 = 0) (h30 : pair.1 &&& bit30 ≠ 0) (pairIndex : ℕ)
    {matched skipped : Bool} {actions : List RealtekTableAction} {s : RealtekTableState}
    (h : s.At matched skipped actions) :
    (pairStep env kind pairIndex pair s).At (!skipped && checkPositive env s.preV1 s.preV2 pair.1 pair.2)
      (skipped || checkPositive env s.preV1 s.preV2 pair.1 pair.2) actions := by
  rw [pairStep_marker (marker_of_and (by decide) h30), markerStep, if_neg fun hne => hne h31, if_pos h30]
  dsimp only
  cases skipped with
  | true =>
    rw [if_pos h.isSkipped]
    exact ⟨rfl, h.isSkipped, h.actions⟩
  | false =>
    rw [if_neg (by rw [h.isSkipped]; decide)]
    cases checkPositive env s.preV1 s.preV2 pair.1 pair.2 with
    | true => exact ⟨rfl, rfl, h.actions⟩
    | false => exact ⟨rfl, rfl, h.actions⟩

/-- a branch is taken if it is accepted and none was taken before -/
theorem branch_run (branch : RealtekBranch) (pairIndex : ℕ) {matched skipped : Bool}
    {actions : List RealtekTableAction} {s : RealtekTableState} (h : s.At matched skipped actions) :
    (tableRun env kind pairIndex branch.pairs s).At (!skipped && branch.accepted env)
      (skipped || branch.accepted env)
      (actions ++ if !skipped && branch.accepted env then tableActions kind (pairIndex + 2) branch.body else []) := by
  obtain ⟨hopen, hv1, hv2⟩ :=
    open_run env kind branch.opens.1 branch.opens.2.1 branch.opens.2.2 pairIndex h
  have hpositive := positive_run env kind branch.positive.1 branch.positive.2 (pairIndex + 1) hopen
  rw [hv1, hv2] at hpositive
  exact body_run branch.plain (pairIndex + 1 + 1) hpositive

/-- the actions of the first branch that is accepted, if any -/
def takenActions (env : RealtekConditionEnv) (kind : RealtekTableKind) (pairIndex : ℕ)
    (branches : List RealtekBranch) : List RealtekTableAction :=
  ((RealtekBranch.bodies pairIndex branches).find? (·.1.accepted env)).elim [] fun taken =>
    tableActions kind taken.2 taken.1.body

theorem takenActions_accepted {branch : RealtekBranch} (h : branch.accepted env = true) (pairIndex : ℕ)
    (branches : List RealtekBranch) :
    takenActions env kind pairIndex (branch :: branches) = tableActions kind (pairIndex + 2) branch.body := by
  rw [takenActions, RealtekBranch.bodies, List.find?_cons_of_pos (by exact h)]
  rfl

theorem takenActions_rejected {branch : RealtekBranch} (h : branch.accepted env = false) (pairIndex : ℕ)
    (branches : List RealtekBranch) :
    takenActions env kind pairIndex (branch :: branches) =
      takenActions env kind (pairIndex + branch.pairs.length) branches := by
  rw [takenActions, RealtekBranch.bodies, List.find?_cons_of_neg (by rw [h]; decide)]
  rfl

/-- the flag of the skipped branches says whether one was taken -/
theorem branches_run (branches : List RealtekBranch) (pairIndex : ℕ) {matched skipped : Bool}
    {actions : List RealtekTableAction} {s : RealtekTableState} (h : s.At matched skipped actions) :
    ∃ left, (tableRun env kind pairIndex (branches.flatMap RealtekBranch.pairs) s).At left
      (skipped || branches.any (·.accepted env))
      (actions ++ if skipped then [] else takenActions env kind pairIndex branches) := by
  induction branches generalizing pairIndex matched skipped actions s with
  | nil =>
    have hnone : (if skipped then [] else takenActions env kind pairIndex []) = [] := ite_self _
    rw [hnone, List.append_nil, List.any_nil, Bool.or_false]
    exact ⟨matched, h⟩
  | cons branch branches ih =>
    rw [List.flatMap_cons, tableRun_append, List.any_cons, ← Bool.or_assoc]
    obtain ⟨left, hleft⟩ := ih (pairIndex + branch.pairs.length) (branch_run env kind branch pairIndex h)
    refine ⟨left, ?_⟩
    cases skipped with
    | true => simpa using hleft
    | false =>
      cases haccepted : branch.accepted env with
      | true =>
        rw [takenActions_accepted env kind haccepted]
        simpa [haccepted] using hleft
      | false =>
        rw [takenActions_rejected env kind haccepted]
        simpa [haccepted] using hleft

theorem find_bodies (branches : List RealtekBranch) (pairIndex : ℕ) :
    ((RealtekBranch.bodies pairIndex branches).find? (·.1.accepted env)).isSome =
      branches.any (·.accepted env) := by
  induction branches generalizing pairIndex with
  | nil => rfl
  | cons branch branches ih =>
    rw [RealtekBranch.bodies, List.any_cons]
    cases haccepted : branch.accepted env with
    | true => rw [List.find?_cons_of_pos (by exact haccepted)]; rfl
    | false => rw [List.find?_cons_of_neg (by rw [haccepted]; decide), ih, Bool.false_or]

/-- what ELSE leaves, if no branch was taken -/
theorem otherwise_run (otherwise : Option RealtekElse) (pairIndex : ℕ) {matched skipped : Bool}
    {actions : List RealtekTableAction} {s : RealtekTableState} (h : s.At matched skipped actions) :
    ∃ left, (tableRun env kind pairIndex ((otherwise.map RealtekElse.pairs).getD []) s).At left skipped
      (actions ++ if skipped then [] else
        otherwise.elim [] fun branch => tableActions kind (pairIndex + 1) branch.body) := by
  cases otherwise with
  | none =>
    refine ⟨matched, ?_⟩
    have hnone : (if skipped then [] else ([] : List RealtekTableAction)) = [] := ite_self _
    rw [Option.elim_none, hnone, List.append_nil]
    exact h
  | some branch =>
    refine ⟨!skipped, ?_⟩
    have helse := else_run env kind branch.opens.1 branch.opens.2 pairIndex h
    cases skipped with
    | true => exact body_run branch.plain (pairIndex + 1) helse
    | false => exact body_run branch.plain (pairIndex + 1) helse

/-- **A block** ends as it started, with the actions of the branch that is taken -/
theorem block_run (block : RealtekBlock) (pairIndex : ℕ) {actions : List RealtekTableAction}
    {s : RealtekTableState} (h : s.At true false actions) :
    (tableRun env kind pairIndex block.pairs s).At true false
      (actions ++ tableActions kind (block.taken env pairIndex).2 (block.taken env pairIndex).1) := by
  obtain ⟨left, hbranches⟩ := branches_run env kind block.branches pairIndex h
  obtain ⟨left', hotherwise⟩ := otherwise_run env kind block.otherwise
    (pairIndex + block.branchPairs.length) hbranches
  rw [RealtekBlock.pairs, tableRun_append, tableRun_append]
  have hend := endIf_run env kind block.closes.1 block.closes.2
    (pairIndex + (block.branchPairs ++ (block.otherwise.map RealtekElse.pairs).getD []).length) hotherwise
  have htaken : (if (false : Bool) then [] else takenActions env kind pairIndex block.branches) ++
      (if false || block.branches.any (·.accepted env) then [] else block.otherwise.elim [] fun branch =>
        tableActions kind (pairIndex + block.branchPairs.length + 1) branch.body) =
      tableActions kind (block.taken env pairIndex).2 (block.taken env pairIndex).1 := by
    rw [if_neg Bool.false_ne_true, Bool.false_or, ← find_bodies env block.branches pairIndex, takenActions,
      RealtekBlock.taken]
    cases (RealtekBranch.bodies pairIndex block.branches).find? (·.1.accepted env) with
    | some taken => exact List.append_nil _
    | none =>
      cases block.otherwise with
      | some otherwise => rfl
      | none => rfl
  rw [List.append_assoc, htaken] at hend
  exact hend

theorem items_run (items : List RealtekItem) (pairIndex : ℕ) {actions : List RealtekTableAction}
    {s : RealtekTableState} (h : s.At true false actions) :
    (tableRun env kind pairIndex (items.flatMap RealtekItem.pairs) s).At true false
      (actions ++ blockActions env kind pairIndex items) := by
  induction items generalizing pairIndex actions s with
  | nil =>
    rw [blockActions, List.append_nil]
    exact h
  | cons item items ih =>
    rw [List.flatMap_cons, tableRun_append, blockActions, ← List.append_assoc]
    refine ih (pairIndex + item.pairs.length) ?_
    cases item with
    | plain pair hplain =>
      have honly : ∀ pair' ∈ [pair], isMarker pair'.1 = false := by
        intro pair' hmem
        rwa [List.mem_singleton.mp hmem]
      exact body_planned honly pairIndex h
    | block conditional => exact block_run env kind conditional pairIndex h

end Steps

/-! ## First match -/

section Plan

variable (env : RealtekConditionEnv) (kind : RealtekTableKind)

theorem pairsOf_values (pairs : List RealtekPair) : pairsOf (valuesOf pairs) = pairs := by
  induction pairs with
  | nil => rfl
  | cons pair pairs ih => exact congrArg (pair :: ·) ih

theorem valuesOf_length (pairs : List RealtekPair) : (valuesOf pairs).length = 2 * pairs.length := by
  induction pairs with
  | nil => rfl
  | cons pair pairs ih =>
    have hstep : (valuesOf (pair :: pairs)).length = (valuesOf pairs).length + 2 := rfl
    rw [hstep, ih, List.length_cons, Nat.mul_add]

/-- every pair is counted once, and the numbers of the actions grow -/
structure RealtekTableState.Counted (pairIndex : ℕ) (s : RealtekTableState) : Prop where
  total : s.actions.length + s.skippedWritePairs + s.conditionMarkerPairs = pairIndex
  below : ∀ action ∈ s.actions, action.pairIndex < pairIndex
  growing : (s.actions.map RealtekTableAction.pairIndex).Pairwise (· < ·)

theorem markerStep_keeps (pair : RealtekPair) (s : RealtekTableState) :
    (markerStep env pair s).actions = s.actions ∧
      (markerStep env pair s).skippedWritePairs = s.skippedWritePairs ∧
      (markerStep env pair s).conditionMarkerPairs = s.conditionMarkerPairs := by
  unfold markerStep
  split_ifs <;> exact ⟨rfl, rfl, rfl⟩

theorem tableAction_pairIndex (pairIndex : ℕ) (pair : RealtekPair) :
    (tableAction kind pairIndex pair).pairIndex = pairIndex := by
  unfold tableAction
  cases tableDelayUs kind pair.1 <;> rfl

theorem pairStep_counted {pairIndex : ℕ} {s : RealtekTableState} (h : s.Counted pairIndex) (pair : RealtekPair) :
    (pairStep env kind pairIndex pair s).Counted (pairIndex + 1) := by
  have hbelow := fun action hmem => Nat.lt_succ_of_lt (h.below action hmem)
  have htotal := h.total
  cases hmarker : isMarker pair.1 with
  | true =>
    rw [pairStep_marker hmarker]
    obtain ⟨hactions, hskipped, hmarkers⟩ :=
      markerStep_keeps env pair { s with conditionMarkerPairs := s.conditionMarkerPairs + 1 }
    refine ⟨?_, ?_, ?_⟩
    · rw [hactions, hskipped, hmarkers]
      dsimp only
      omega
    · rw [hactions]
      exact hbelow
    · rw [hactions]
      exact h.growing
  | false =>
    cases hmatched : s.isMatched with
    | false =>
      rw [pairStep_skipped hmarker pairIndex hmatched]
      refine ⟨?_, hbelow, h.growing⟩
      dsimp only
      omega
    | true =>
      rw [pairStep_planned hmarker pairIndex hmatched]
      refine ⟨?_, ?_, ?_⟩
      · rw [List.length_append, List.length_singleton]
        dsimp only
        omega
      · intro action hmem
        rcases List.mem_append.mp hmem with hold | hnew
        · exact hbelow action hold
        · rw [List.mem_singleton.mp hnew, tableAction_pairIndex kind]
          exact Nat.lt_succ_self pairIndex
      · rw [List.map_append, List.pairwise_append]
        refine ⟨h.growing, List.pairwise_singleton _ _, ?_⟩
        intro index hmem index' hmem'
        obtain ⟨action, haction, rfl⟩ := List.mem_map.mp hmem
        rw [List.mem_singleton.mp hmem', tableAction_pairIndex kind]
        exact h.below action haction

theorem tableRun_counted (pairs : List RealtekPair) {pairIndex : ℕ} {s : RealtekTableState}
    (h : s.Counted pairIndex) : (tableRun env kind pairIndex pairs s).Counted (pairIndex + pairs.length) := by
  induction pairs generalizing pairIndex s with
  | nil => exact h
  | cons pair pairs ih =>
    rw [tableRun, List.length_cons, Nat.add_comm pairs.length, ← Nat.add_assoc]
    exact ih (pairStep_counted env kind h pair)

/-- a table is planned whenever its words come in pairs -/
theorem planned (arrayName : String)
    (pairs : List RealtekPair) : ∃ plan, planRealtekTable env kind arrayName (valuesOf pairs) = .ok plan := by
  have heven : ¬(valuesOf pairs).length % 2 ≠ 0 := by
    rw [valuesOf_length, Nat.mul_mod_right]
    exact fun hne => hne rfl
  rw [planRealtekTable, if_neg heven]
  exact ⟨_, rfl⟩

theorem plan_ok {arrayName : String} {pairs : List RealtekPair} {plan : RealtekTablePlan}
    (h : planRealtekTable env kind arrayName (valuesOf pairs) = .ok plan) :
    plan.actions = (tableRun env kind 0 pairs {}).actions ∧
      plan.skippedWritePairs = (tableRun env kind 0 pairs {}).skippedWritePairs ∧
      plan.conditionMarkerPairs = (tableRun env kind 0 pairs {}).conditionMarkerPairs := by
  rw [planRealtekTable, pairsOf_values] at h
  split_ifs at h with hodd
  cases h
  exact ⟨rfl, rfl, rfl⟩

theorem planned_blocks {arrayName : String} {items : List RealtekItem} {plan : RealtekTablePlan}
    (h : planRealtekTable env kind arrayName (valuesOf (items.flatMap RealtekItem.pairs)) = .ok plan) :
    plan.actions = blockActions env kind 0 items := by
  rw [(plan_ok env kind h).1]
  exact (items_run env kind items 0 ⟨rfl, rfl, rfl⟩).actions

/-- every pair of a table is an action, skipped, or a marker, and the actions come in its order -/
theorem planned_total (arrayName : String) (pairs : List RealtekPair) :
    ∃ plan, planRealtekTable env kind arrayName (valuesOf pairs) = .ok plan ∧
      plan.actions.length + plan.skippedWritePairs + plan.conditionMarkerPairs = pairs.length ∧
      (plan.actions.map RealtekTableAction.pairIndex).Pairwise (· < ·) := by
  obtain ⟨plan, hplan⟩ := planned env kind arrayName pairs
  obtain ⟨hactions, hskipped, hmarkers⟩ := plan_ok env kind hplan
  have hstart : RealtekTableState.Counted 0 {} := ⟨rfl, nofun, List.Pairwise.nil⟩
  have hcounted := tableRun_counted env kind pairs hstart
  refine ⟨plan, hplan, ?_⟩
  rw [hactions, hskipped, hmarkers]
  exact ⟨by rw [hcounted.total, Nat.zero_add], hcounted.growing⟩

/-- **First match**: the plan of a table without nested blocks is what first-match branching leaves of it, and the plan
of any table accounts for all its pairs in their order -/
theorem planned_first_match (arrayName : String) :
    (∀ items : List RealtekItem,
      ∃ plan, planRealtekTable env kind arrayName (valuesOf (items.flatMap RealtekItem.pairs)) = .ok plan ∧
        plan.actions = blockActions env kind 0 items ∧
        (plan.actions.map RealtekTableAction.pairIndex).Pairwise (· < ·)) ∧
      ∀ pairs : List RealtekPair,
        ∃ plan, planRealtekTable env kind arrayName (valuesOf pairs) = .ok plan ∧
          plan.actions.length + plan.skippedWritePairs + plan.conditionMarkerPairs = pairs.length := by
  refine ⟨fun items => ?_, fun pairs => ?_⟩
  · obtain ⟨plan, hplan, htotal, hgrowing⟩ :=
      planned_total env kind arrayName (items.flatMap RealtekItem.pairs)
    exact ⟨plan, hplan, planned_blocks env kind hplan, hgrowing⟩
  · obtain ⟨plan, hplan, htotal, hgrowing⟩ := planned_total env kind arrayName pairs
    exact ⟨plan, hplan, htotal⟩

end Plan

/-- a branch for PCI, one for USB, one for neither, and a delay behind them -/
def sampleTable : List RealtekItem :=
  [.plain (0x010, 0x11) rfl,
    .block {
      first := ⟨(0x80000100, 0), (0x40000000, 0), [(0x011, 0x66)], by decide, by decide, by decide⟩
      elseIfs := [⟨(0x90000200, 0), (0x40000000, 0), [(0x011, 0x5a)], by decide, by decide, by decide⟩]
      otherwise := some ⟨(0xa0000000, 0), [(0x011, 0x00)], by decide, by decide⟩
      endIf := (0xb0000000, 0)
      closes := by decide },
    .plain (0xfe, 0) rfl]

/-- the default environment takes ELSE IF, and one without an interface takes ELSE -/
theorem planned_first_match_sample :
    (∃ plan, planRealtekTable .rtl8812auAwus036achDefault .bbPhy "array"
        (valuesOf (sampleTable.flatMap RealtekItem.pairs)) = .ok plan ∧
      plan.actions.map RealtekTableAction.pairIndex = [0, 6, 10]) ∧
    ∃ plan, planRealtekTable { RealtekConditionEnv.rtl8812auAwus036achDefault with supportInterface := 0 } .bbPhy "array"
        (valuesOf (sampleTable.flatMap RealtekItem.pairs)) = .ok plan ∧
      plan.actions.map RealtekTableAction.pairIndex = [0, 8, 10] := by
  constructor
  · obtain ⟨plan, hplan, hactions, -⟩ := (planned_first_match _ .bbPhy "array").1 sampleTable
    exact ⟨plan, hplan, by rw [hactions]; decide⟩
  · obtain ⟨plan, hplan, hactions, -⟩ := (planned_first_match _ .bbPhy "array").1 sampleTable
    exact ⟨plan, hplan, by rw [hactions]; decide⟩

end WfbLink.RadioCore
