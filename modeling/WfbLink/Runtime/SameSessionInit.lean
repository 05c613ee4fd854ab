/-
Same-session initialisation (`run_rtl8812au_same_session_init`): the phases of a fixed sequence, one after the other, up
to the first that fails. What a phase does is up to the caller.

- `ExecutedPhases`: the logs a run can leave; the phases that ran are a prefix of the sequence, and a failure is last.
-/
import WfbLink.Core.Action
import WfbLink.Runtime.FlowConfig

namespace WfbLink.Runtime

open WfbLink.Core WfbLink.RadioCore

/-! ## Phases -/

inductive Rtl8812auInitOrder where
  | default
  | linux
deriving DecidableEq, Repr

inductive Rtl8812auInitPhase where
  | powerOn
  | firmware
  | llt
  | macTable
  | queueDma
  | mac
  | macAddr
  | bb
  | rf
  | rfCalibrationBeforeChannel
  | channel
  | rfCalibrationAfterChannel
  | txSchedulerTail
  | rfCalibrationBeforeTx
deriving DecidableEq, Repr

def rtl8812auDefaultSameSessionInitSequence : List Rtl8812auInitPhase :=
  [.powerOn, .firmware, .llt, .macTable, .queueDma, .mac, .macAddr, .bb, .rf, .rfCalibrationBeforeChannel, .channel,
    .rfCalibrationAfterChannel, .txSchedulerTail, .rfCalibrationBeforeTx]

def rtl8812auLinuxSameSessionInitSequence : List Rtl8812auInitPhase :=
  [.powerOn, .llt, .firmware, .macTable, .queueDma, .mac, .macAddr, .bb, .rf, .rfCalibrationBeforeChannel, .channel,
    .rfCalibrationAfterChannel, .txSchedulerTail, .rfCalibrationBeforeTx]

def rtl8812auSameSessionInitSequence : Rtl8812auInitOrder → List Rtl8812auInitPhase
  | .default => rtl8812auDefaultSameSessionInitSequence
  | .linux => rtl8812auLinuxSameSessionInitSequence

/-- the orders differ in the order of two phases only -/
theorem sameSessionInitSequence_perm (order order' : Rtl8812auInitOrder) :
    (rtl8812auSameSessionInitSequence order).Perm (rtl8812auSameSessionInitSequence order') := by
  cases order <;> cases order' <;> decide

/-! ## Results -/

inductive RuntimeSameSessionInitReadiness where
  | ready
  | failed
deriving DecidableEq, Repr

inductive RuntimeSameSessionInitPhaseStatus where
  | completed
  | blocked
deriving DecidableEq, Repr

structure RuntimeSameSessionInitConfig where
  initOrder : Rtl8812auInitOrder
  channel : Channel
  bandwidth : Bandwidth
  rfeType : UInt8
  txCalibrationProfile : TxCalibrationProfile
  liveWriteAuthorized : Bool
  capturedTailApplied : Bool

def RuntimeSameSessionInitConfig.calibrationDecision (config : RuntimeSameSessionInitConfig) :
    Except RuntimeRadioError RuntimeTxCalibrationDecision :=
  config.txCalibrationProfile.calibrationDecision config.capturedTailApplied config.liveWriteAuthorized

structure RuntimeSameSessionInitPhaseSummary where
  phase : Rtl8812auInitPhase
  status : RuntimeSameSessionInitPhaseStatus
  detail : String
  registerWrites : Option ℕ
  counters : RuntimeRadioCounters

structure RuntimeSameSessionInitResult where
  config : RuntimeSameSessionInitConfig
  calibration : RuntimeTxCalibrationDecision
  phaseSummaries : List RuntimeSameSessionInitPhaseSummary
  counters : RuntimeRadioCounters
  readiness : RuntimeSameSessionInitReadiness

structure RuntimeSameSessionInitFailure where
  result : RuntimeSameSessionInitResult
  error : RuntimeRadioError

structure RuntimeSameSessionInitPhaseFailure where
  summary : RuntimeSameSessionInitPhaseSummary
  error : RuntimeRadioError

/-- the closure of the caller; what it captures is part of the world behind the session -/
abbrev InitPhaseRunner (τ : Type) : Type :=
  Rtl8812auInitPhase →
    Action (RuntimeRadioSession τ) RuntimeSameSessionInitPhaseFailure RuntimeSameSessionInitPhaseSummary

/-! ## The run -/

section Run

variable {τ : Type} (runPhase : InitPhaseRunner τ)

/-- the `for` loop: the summaries of all phases that ran, and the error of the one that failed -/
def runInitPhases (phases : List Rtl8812auInitPhase) (phaseSummaries : List RuntimeSameSessionInitPhaseSummary) :
    Action (RuntimeRadioSession τ) (List RuntimeSameSessionInitPhaseSummary × RuntimeRadioError)
      (List RuntimeSameSessionInitPhaseSummary) :=
  match phases with
  | [] => return phaseSummaries
  | phase :: phases => do
    match ← Action.attempt (runPhase phase) with
    | .ok summary => runInitPhases phases (phaseSummaries ++ [summary])
    | .error failure => Action.fail (phaseSummaries ++ [failure.summary], failure.error)

/-- the decision that is reported where the profile is not authorised -/
def refusedCalibration (config : RuntimeSameSessionInitConfig) : RuntimeTxCalibrationDecision where
  profile := config.txCalibrationProfile
  cls := config.txCalibrationProfile.beforeTxClass config.capturedTailApplied
  evidenceSource := config.txCalibrationProfile.evidenceSource config.capturedTailApplied
  requiresLiveWriteAuthorization := config.txCalibrationProfile.requiresRegisterWriteAuthorization
  authorized := config.liveWriteAuthorized
  validationStatus := config.txCalibrationProfile.validationStatus
  productionSafeDefault := config.txCalibrationProfile.isDefault

def runRtl8812auSameSessionInit (config : RuntimeSameSessionInitConfig) :
    Action (RuntimeRadioSession τ) RuntimeSameSessionInitFailure RuntimeSameSessionInitResult :=
  match config.calibrationDecision with
  | .error error => do
    let counters ← Action.read RuntimeRadioSession.counters
    let result := {
      config
      calibration := refusedCalibration config
      phaseSummaries := []
      counters
      readiness := .failed }
    Action.fail { result, error }
  | .ok calibration => do
    let outcome ← Action.attempt (runInitPhases runPhase (rtl8812auSameSessionInitSequence config.initOrder) [])
    let counters ← Action.read RuntimeRadioSession.counters
    match outcome with
    | .error (phaseSummaries, error) =>
      Action.fail { result := { config, calibration, phaseSummaries, counters, readiness := .failed }, error }
    | .ok phaseSummaries => return { config, calibration, phaseSummaries, counters, readiness := .ready }

end Run

/-! ## Which phases ran -/

/-- a log of phases and of whether they succeeded, as a run of the sequence leaves it -/
inductive ExecutedPhases (sequence : List Rtl8812auInitPhase) : List (Rtl8812auInitPhase × Bool) → Prop
  | notStarted : ExecutedPhases sequence []
  | completed : ExecutedPhases sequence (sequence.map (·, true))
  | failed {done rest : List Rtl8812auInitPhase} {phase : Rtl8812auInitPhase} (h : sequence = done ++ phase :: rest) :
      ExecutedPhases sequence (done.map (·, true) ++ [(phase, false)])

/-- the phases that ran are a prefix of the sequence -/
theorem ExecutedPhases.isPrefix {sequence : List Rtl8812auInitPhase} {log : List (Rtl8812auInitPhase × Bool)}
    (h : ExecutedPhases sequence log) : log.map Prod.fst <+: sequence := by
  cases h with
  | notStarted => exact List.nil_prefix
  | completed => simp [List.map_map, Function.comp_def]
  | failed h => simp [h, List.map_map, Function.comp_def]

/-- a phase that failed is the last one -/
theorem ExecutedPhases.failure_last {sequence : List Rtl8812auInitPhase} {log before after : List (Rtl8812auInitPhase × Bool)}
    {phase : Rtl8812auInitPhase} (h : ExecutedPhases sequence log) (hlog : log = before ++ (phase, false) :: after) :
    after = [] := by
  cases h with
  | notStarted => simp at hlog
  | completed =>
    have hmem : (phase, false) ∈ sequence.map (·, true) := by rw [hlog]; simp
    simp at hmem
  | failed =>
    rcases List.eq_nil_or_concat after with rfl | ⟨init, last, rfl⟩
    · rfl
    · rename_i done rest failing heq
      have hdone : done.map (·, true) = before ++ (phase, false) :: init := by
        refine (List.append_inj' (hlog.trans (?_ : _ = (before ++ (phase, false) :: init) ++ [last])) rfl).1
        simp
      have hmem : (phase, false) ∈ done.map (·, true) := by rw [hdone]; simp
      simp at hmem

end WfbLink.Runtime
