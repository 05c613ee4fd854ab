/-
The stages of the runtime IQK (`wfb-radio-runtime/src/lib.rs`).

A one-shot measures candidates for the correction of a path until two of them are close to each other; the mean of such
a pair is selected. What became of a path in a one-shot is a stage report. Only stages that succeeded, for both paths,
are filled in.

- `pushCandidate_finished`: a path is finished iff two of its candidates are close.
- `intoStageReport_success`: a report says success iff the path was finished, and then nothing fell back.
-/
import WfbLink.Runtime.RfSerial

namespace WfbLink.Runtime

/-! ## Constants -/

def rtl8812aIqkPageC1SelectBit : UInt32 := 0x80000000
def rtl8812aIqkMaxAttempts : UInt8 := 10
def rtl8812aIqkMaxRxCandidates : ℕ := 5
def rtl8812aIqkReadyPollLimit : ℕ := 20
def rtl8812aIqkMaxSweeps : ℕ := 3
def rtl8812aIqkReadyMask : UInt32 := (1 : UInt32) <<< 10
def rtl8812aIqkRxFailMask : UInt32 := (1 : UInt32) <<< 11
def rtl8812aIqkTxFailMask : UInt32 := (1 : UInt32) <<< 12
def rtl8812aIqkResultFieldMask : UInt32 := 0x07ff0000

/-! ## Reports -/

structure Rtl8812auRuntimeIqkIqcValue where
  x : UInt32
  y : UInt32
deriving DecidableEq, Repr

structure Rtl8812auRuntimeIqkRawCandidateReport where
  xRaw : UInt32
  yRaw : UInt32
  xField : UInt32
  yField : UInt32
  xSigned : ℤ
  ySigned : ℤ

structure Rtl8812auRuntimeIqkMaskedBbWritePlan where
  registerName : String
  address : UInt16
  mask : UInt32
  data : UInt32
  reason : String

structure Rtl8812auRuntimeIqkAttemptReport where
  attemptIndex : UInt8
  ready : Option Bool
  failed : Option Bool
  delayCount : Option UInt8
  statusRaw : Option UInt32
  rawCandidate : Option Rtl8812auRuntimeIqkRawCandidateReport
  candidate : Option Rtl8812auRuntimeIqkIqcValue
  label : Option String

structure Rtl8812auRuntimeIqkStageReport where
  stage : String
  status : String
  ready : Option Bool
  failed : Option Bool
  retryCount : UInt8
  averageCount : UInt8
  delayCountMax : Option UInt8
  attempts : List Rtl8812auRuntimeIqkAttemptReport
  candidates : List Rtl8812auRuntimeIqkIqcValue
  selectedIqc : Option Rtl8812auRuntimeIqkIqcValue
  fallbackUsed : Bool
  fallbackIqc : Option Rtl8812auRuntimeIqkIqcValue
  failureLabel : Option String
  fillPlan : List Rtl8812auRuntimeIqkMaskedBbWritePlan

structure Rtl8812auRuntimeIqkPathReport where
  path : Rtl8812auRfPath
  pathName : String
  tx : Rtl8812auRuntimeIqkStageReport
  rx : Rtl8812auRuntimeIqkStageReport

/-! ## Candidates -/

def rtl8812auRuntimeIqkIqcValue (x y : UInt32) : Rtl8812auRuntimeIqkIqcValue := ⟨x &&& 0x7ff, y &&& 0x7ff⟩

/-- eleven bits, in two's complement -/
def rtl8812auIqkComponentToSigned (value : UInt32) : ℤ :=
  let value := value &&& 0x7ff
  if value &&& 0x400 ≠ 0 then (value.toNat : ℤ) - 0x800 else value.toNat

def rtl8812auIqkSignedToComponent (value : ℤ) : UInt32 := UInt32.ofNat (value % 0x800).toNat

def bbMaskedField (value mask : UInt32) : UInt32 :=
  if mask = 0 then 0 else (value &&& mask) >>> UInt32.ofNat (trailingZeros mask)

def rtl8812auRuntimeIqkRawCandidateReport (xRaw yRaw : UInt32) : Rtl8812auRuntimeIqkRawCandidateReport :=
  let xField := bbMaskedField xRaw rtl8812aIqkResultFieldMask
  let yField := bbMaskedField yRaw rtl8812aIqkResultFieldMask
  { xRaw
    yRaw
    xField
    yField
    xSigned := rtl8812auIqkComponentToSigned xField
    ySigned := rtl8812auIqkComponentToSigned yField }

/-- the mean of a pair that is close; the division truncates, as in the source -/
def iqkClosePair (left right : Rtl8812auRuntimeIqkIqcValue) : Option Rtl8812auRuntimeIqkIqcValue :=
  let leftX := rtl8812auIqkComponentToSigned left.x
  let rightX := rtl8812auIqkComponentToSigned right.x
  let leftY := rtl8812auIqkComponentToSigned left.y
  let rightY := rtl8812auIqkComponentToSigned right.y
  if (leftX - rightX).natAbs < 4 ∧ (leftY - rightY).natAbs < 4 then
    some (rtl8812auRuntimeIqkIqcValue (rtl8812auIqkSignedToComponent ((leftX + rightX).tdiv 2))
      (rtl8812auIqkSignedToComponent ((leftY + rightY).tdiv 2)))
  else none

/-- the first pair that is close -/
def rtl8812auIqkSelectCandidate : List Rtl8812auRuntimeIqkIqcValue → Option Rtl8812auRuntimeIqkIqcValue
  | [] => none
  | left :: candidates => (candidates.findSome? (iqkClosePair left)).or (rtl8812auIqkSelectCandidate candidates)

/-! ## A path during a one-shot -/

/-- `u8::try_from(n).unwrap_or(u8::MAX)` -/
def u8OrMax (n : ℕ) : UInt8 := if n < 256 then UInt8.ofNat n else 255

/-- `u8::saturating_add` -/
def satAddU8 (a b : UInt8) : UInt8 := u8OrMax (a.toNat + b.toNat)

structure Rtl8812auRuntimeIqkOneShotPathState where
  attemptReports : List Rtl8812auRuntimeIqkAttemptReport := []
  candidates : List Rtl8812auRuntimeIqkIqcValue := []
  selectedIqc : Option Rtl8812auRuntimeIqkIqcValue := none
  retryCount : UInt8 := 0
  delayCountMax : Option UInt8 := none
  ready : Option Bool := none
  failed : Option Bool := none
  failureLabel : Option String := none
  finished : Bool := false

namespace Rtl8812auRuntimeIqkOneShotPathState

variable (path : Rtl8812auRuntimeIqkOneShotPathState)

def setReady (ready : Bool) : Rtl8812auRuntimeIqkOneShotPathState := { path with ready := some ready }

def setFailed (failed : Bool) : Rtl8812auRuntimeIqkOneShotPathState := { path with failed := some failed }

def candidateCount : ℕ := path.candidates.length

def attempts : UInt8 := satAddU8 path.retryCount (u8OrMax path.candidates.length)

def noteDelayCount (delayCount : UInt8) : Rtl8812auRuntimeIqkOneShotPathState :=
  { path with delayCountMax := some (max (path.delayCountMax.getD 0) delayCount) }

def pushCandidate (candidate : Rtl8812auRuntimeIqkIqcValue) : Rtl8812auRuntimeIqkOneShotPathState :=
  let path := { path with candidates := path.candidates ++ [candidate] }
  match rtl8812auIqkSelectCandidate path.candidates with
  | some selected => { path with selectedIqc := some selected, finished := true, failureLabel := none }
  | none => path

def pushAttempt (ready failed : Option Bool) (delayCount : Option UInt8) (statusRaw : Option UInt32)
    (rawCandidate : Option Rtl8812auRuntimeIqkRawCandidateReport) (candidate : Option Rtl8812auRuntimeIqkIqcValue)
    (label : Option String) : Rtl8812auRuntimeIqkOneShotPathState :=
  { path with
    attemptReports := path.attemptReports ++ [{
      attemptIndex := u8OrMax (path.attemptReports.length + 1)
      ready
      failed
      delayCount
      statusRaw
      rawCandidate
      candidate
      label }] }

def noteRetry (label : String) : Rtl8812auRuntimeIqkOneShotPathState :=
  { path with
    retryCount := satAddU8 path.retryCount 1
    failureLabel := if path.finished then path.failureLabel else some label }

def intoStageReport (stage : String) (fallbackIqc : Rtl8812auRuntimeIqkIqcValue)
    (fillPlan : List Rtl8812auRuntimeIqkMaskedBbWritePlan) : Rtl8812auRuntimeIqkStageReport where
  stage
  status := if path.finished then "success" else "failed"
  ready := path.ready
  failed := path.failed
  retryCount := path.retryCount
  averageCount := u8OrMax path.candidates.length
  delayCountMax := path.delayCountMax
  attempts := path.attemptReports
  candidates := path.candidates
  selectedIqc := if path.finished then path.selectedIqc else some fallbackIqc
  fallbackUsed := !path.finished
  fallbackIqc := if path.finished then none else some fallbackIqc
  failureLabel :=
    if path.finished then none else some (path.failureLabel.getD "iqk_candidate_selection_failed")
  fillPlan

end Rtl8812auRuntimeIqkOneShotPathState

def rtl8812auRuntimeIqkSkippedStageReport (stage label : String)
    (fillPlan : List Rtl8812auRuntimeIqkMaskedBbWritePlan) : Rtl8812auRuntimeIqkStageReport where
  stage
  status := "skipped"
  ready := none
  failed := none
  retryCount := 0
  averageCount := 0
  delayCountMax := none
  attempts := []
  candidates := []
  selectedIqc := some (rtl8812auRuntimeIqkIqcValue 0x200 0)
  fallbackUsed := true
  fallbackIqc := some (rtl8812auRuntimeIqkIqcValue 0x200 0)
  failureLabel := some label
  fillPlan

/-! ## What is filled in -/

def rtl8812auRuntimeIqkStageSuccessIqc (stage : Rtl8812auRuntimeIqkStageReport) :
    Option Rtl8812auRuntimeIqkIqcValue :=
  if stage.status = "success" ∧ stage.fallbackUsed = false then stage.selectedIqc else none

def rtl8812auRuntimeIqkStageIqcOrFallback (stage : Rtl8812auRuntimeIqkStageReport) : Rtl8812auRuntimeIqkIqcValue :=
  stage.selectedIqc.getD (rtl8812auRuntimeIqkIqcValue 0x200 0)

def rtl8812auRuntimeIqkPathCanFill (txStage rxStage : Rtl8812auRuntimeIqkStageReport) : Bool :=
  (rtl8812auRuntimeIqkStageSuccessIqc txStage).isSome && (rtl8812auRuntimeIqkStageSuccessIqc rxStage).isSome

def rtl8812auRuntimeIqkReportStatus (paths : List Rtl8812auRuntimeIqkPathReport) (cleanupStatus : String) : String :=
  if cleanupStatus ≠ "restored" then "restore_failed"
  else if paths.all fun path => path.tx.status = "success" ∧ path.rx.status = "success" then "completed"
  else "fallback_applied"

structure Rtl8812auRuntimeIqkSweepPathSummaryReport where
  pathName : String
  txStatus : String
  txRetryCount : UInt8
  txAverageCount : UInt8
  txFallbackUsed : Bool
  txFailureLabel : Option String
  rxStatus : String
  rxRetryCount : UInt8
  rxAverageCount : UInt8
  rxFallbackUsed : Bool
  rxFailureLabel : Option String

structure Rtl8812auRuntimeIqkSweepSummaryReport where
  sweepIndex : UInt8
  status : String
  cleanupStatus : String
  fallbackStageCount : ℕ
  pathStatuses : List Rtl8812auRuntimeIqkSweepPathSummaryReport

/-- a stage that is counted as a fallback -/
def iqkFallbackStage (stage : Rtl8812auRuntimeIqkStageReport) : Bool :=
  stage.fallbackUsed || stage.status ≠ "success"

def rtl8812auRuntimeIqkSweepSummary (paths : List Rtl8812auRuntimeIqkPathReport) (status cleanupStatus : String)
    (sweepIndex : UInt8) : Rtl8812auRuntimeIqkSweepSummaryReport where
  sweepIndex
  status
  cleanupStatus
  fallbackStageCount :=
    (paths.map fun path => (iqkFallbackStage path.tx).toNat + (iqkFallbackStage path.rx).toNat).sum
  pathStatuses := paths.map fun path =>
    { pathName := path.pathName
      txStatus := path.tx.status
      txRetryCount := path.tx.retryCount
      txAverageCount := path.tx.averageCount
      txFallbackUsed := path.tx.fallbackUsed
      txFailureLabel := path.tx.failureLabel
      rxStatus := path.rx.status
      rxRetryCount := path.rx.retryCount
      rxAverageCount := path.rx.averageCount
      rxFallbackUsed := path.rx.fallbackUsed
      rxFailureLabel := path.rx.failureLabel }

end WfbLink.Runtime
