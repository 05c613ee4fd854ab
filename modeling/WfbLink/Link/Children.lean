/-
The helper processes of a managed handle (`ManagedChild`) and how they are stopped.

A child remembers the status it was polled with, and whether its owner stopped it. Both are compared with what became of
the helper itself.

- `Fits`: what a child remembers is true of its helper.
- `terminateChildProcesses_stopped`: after a stop, every child has a status or was sent a signal.
- `terminateChildProcesses_returns`: a stop returns.
-/
import WfbLink.Core.Numeral
import WfbLink.Link.Radio

namespace WfbLink.Link

open WfbLink.Core WfbLink.Runtime

/-! ## Children -/

structure ManagedChild where
  name : String
  streamName : Option String
  criticality : StreamCriticality
  pid : ℕ
  stdoutLog : String
  stderrLog : String
  status : Option ExitStatus := none
  terminatedByOwner : Bool := false
deriving DecidableEq

structure ChildProcessReport where
  name : String
  streamName : Option String
  criticality : StreamCriticality
  pid : ℕ
  status : Option String
  degraded : Bool
  degradationReason : Option String
  stdoutLog : String
  stderrLog : String

def exitStatusLabel : ExitStatus → String
  | .code code => "exit:" ++ toString code
  | .signal => "signal"

/-! ## Labels -/

/-- `starts_with` -/
def startsWith (text start : String) : Bool := start.toList.isPrefixOf text.toList

/-- an exit that looks like the answer to a stop -/
def ExitStatus.Quiet : ExitStatus → Prop
  | .code value => value = 0
  | .signal => True

instance : DecidablePred ExitStatus.Quiet
  | .code code => inferInstanceAs (Decidable (code = 0))
  | .signal => .isTrue True.intro

theorem startsWith_exit (rest start : String) :
    startsWith ("exit:" ++ rest) ("exit:" ++ start) = startsWith rest start := by
  rw [startsWith, startsWith, String.toList_append, String.toList_append]
  rfl

theorem startsWith_code (code : ℤ) : startsWith ("exit:" ++ toString code) "exit:0" = true ↔ code = 0 := by
  have hsplit : "exit:0" = "exit:" ++ "0" := rfl
  rw [hsplit, startsWith_exit]
  cases code with
  | negSucc n =>
    have htext : toString (Int.negSucc n) = "-" ++ (n + 1).repr := rfl
    rw [htext, startsWith, String.toList_append]
    exact ⟨fun h => by simp at h, nofun⟩
  | ofNat n =>
    have htext : toString (Int.ofNat n) = n.repr := rfl
    rw [htext, startsWith, Nat.toList_repr]
    constructor
    · intro h
      by_contra hn
      have hne : n ≠ 0 := fun h => hn (congrArg Int.ofNat h)
      have hhead : (Nat.toDigits 10 n).head? ≠ some '0' := toDigits_head (by omega) (by omega) hne
      cases hdigits : Nat.toDigits 10 n with
      | nil => exact Nat.toDigits_ne_nil hdigits
      | cons first rest =>
        rw [hdigits] at h hhead
        have hfirst : '0' = first := by simpa using h
        exact hhead (congrArg some hfirst.symm)
    · intro h
      obtain rfl : n = 0 := Int.ofNat.inj h
      decide

/-- what `join` takes for the answer to a stop -/
theorem label_quiet (status : ExitStatus) :
    startsWith (exitStatusLabel status) "exit:0" = true ∨ exitStatusLabel status = "signal" ↔ status.Quiet := by
  cases status with
  | code value =>
    have hsignal : exitStatusLabel (.code value) ≠ "signal" := by
      intro h
      have hchars := congrArg String.toList h
      rw [exitStatusLabel, String.toList_append] at hchars
      simp at hchars
    rw [or_iff_left hsignal]
    exact startsWith_code value
  | signal => exact ⟨fun _ => True.intro, fun _ => Or.inr rfl⟩

/-- no label of a status says that the process is running -/
theorem label_notRunning (status : ExitStatus) : startsWith (exitStatusLabel status) "running" = false := by
  cases status with
  | code value =>
    rw [exitStatusLabel, startsWith, String.toList_append]
    rfl
  | signal => decide

/-! ## Reports -/

namespace ManagedChild

variable (child : ManagedChild)

def degradationReason : Option String :=
  if child.criticality ≠ .bestEffort ∨ child.status = none ∨ child.terminatedByOwner then none
  else some ("best-effort helper '" ++ child.name ++ "' exited with status " ++
    (child.status.map exitStatusLabel).getD "")

def degradation : Option LinkStreamDegradation :=
  child.degradationReason.map fun reason => ⟨child.streamName.getD child.name, reason⟩

/-- the report of a child that has just been polled -/
def polledReport : ChildProcessReport where
  name := child.name
  streamName := child.streamName
  criticality := child.criticality
  pid := child.pid
  status := some ((child.status.map exitStatusLabel).getD "running")
  degraded := child.degradationReason.isSome
  degradationReason := child.degradationReason
  stdoutLog := child.stdoutLog
  stderrLog := child.stderrLog

end ManagedChild

abbrev ChildAction (α : Type) : Type := Action (Beside ManagedChild LinkWorld) (LinkFault LinkError) α

def setChild (f : ManagedChild → ManagedChild) : ChildAction Unit :=
  Action.modify fun s => { s with held := f s.held }

/-- an operation on the process of the child -/
def onProcess {α : Type} (operation : ℕ → LinkAction α) : ChildAction α := fun s => inWorld (operation s.held.pid) s

def tryWait : ChildAction (Option ExitStatus) := do
  let child ← Action.read Beside.held
  match child.status with
  | some status => return some status
  | none =>
    match ← onProcess pollHelper with
    | .error source => Action.fail (.failed (.spawn "poll child process" source))
    | .ok none => return none
    | .ok (some status) =>
      setChild fun child => { child with status := some status }
      return some status

def reportChild : ChildAction ChildProcessReport := do
  let _ ← tryWait
  Action.read fun s => s.held.polledReport

/-- one child of `check_children_alive` -/
def checkAlive : ChildAction Unit := do
  let status ← tryWait
  let child ← Action.read Beside.held
  match status with
  | some status =>
    if child.criticality = .required then
      Action.fail (.failed (.processExitedBeforeReady child.name (exitStatusLabel status)))
    else return ()
  | none => return ()

/-- one child of `child_degradations` -/
def pollDegradation : ChildAction (Option LinkStreamDegradation) := do
  let _ ← tryWait
  Action.read fun s => s.held.degradation

/-! ## Termination -/

abbrev ManagedAction (α : Type) : Type := Action (Beside (List ManagedChild) LinkWorld) (LinkFault LinkError) α

def terminateDeadline : ℕ := 3 * 10 ^ 9

def terminatePollInterval : ℕ := 25 * 10 ^ 6

/-- a child whose status is known is left alone -/
def askChild : ChildAction Unit := do
  let child ← Action.read Beside.held
  if child.status.isSome then return ()
  setChild fun child => { child with terminatedByOwner := true }
  onProcess (sendSignal .term)

/-- whether all children are done, as far as this one can tell; an error of the poll says they are -/
def collectChild : ChildAction (Option Bool) := do
  let child ← Action.read Beside.held
  if child.status.isSome then return none
  match ← onProcess pollHelper with
  | .ok (some status) =>
    setChild fun child => { child with status := some status }
    return none
  | .ok none => return some false
  | .error _ => return some true

def killChild : ChildAction Unit := do
  let child ← Action.read Beside.held
  if child.status.isSome then return ()
  onProcess (sendSignal .kill)
  match ← onProcess waitHelper with
  | .ok status => setChild fun child => { child with status := some status }
  | .error _ => return ()

/-- the last child that has something to say decides -/
def allDone (answers : List (Option Bool)) : Bool := answers.foldl (fun done answer => answer.getD done) true

/-- polls until all are done or the deadline has passed, for at most `fuel` rounds -/
def awaitChildren (deadline : ℕ) : ℕ → ManagedAction Unit
  | 0 => Action.fail .running
  | fuel + 1 => do
    let answers ← forEach collectChild
    if allDone answers then return ()
    if (← inWorld instantNow) ≥ deadline then return ()
    inWorld (sleep terminatePollInterval)
    awaitChildren deadline fuel

/-- each round sleeps, so there are never more of them -/
def terminateRounds : ℕ := terminateDeadline / terminatePollInterval + 1

def terminateChildProcesses : ManagedAction Unit := do
  let _ ← forEach askChild
  let now ← inWorld instantNow
  awaitChildren (now + terminateDeadline) terminateRounds
  let _ ← forEach killChild
  return ()

/-! ## What happens to a child -/

namespace ManagedChild

/-- a child, later on -/
structure Later (child child' : ManagedChild) : Prop where
  name : child'.name = child.name
  streamName : child'.streamName = child.streamName
  criticality : child'.criticality = child.criticality
  pid : child'.pid = child.pid
  status : ∀ status ∈ child.status, child'.status = some status

instance : IsPreorder ManagedChild Later where
  refl _ := ⟨rfl, rfl, rfl, rfl, fun _ h => h⟩
  trans _ _ _ h h' := ⟨h'.name.trans h.name, h'.streamName.trans h.streamName, h'.criticality.trans h.criticality,
    h'.pid.trans h.pid, fun _ hs => h'.status _ (h.status _ hs)⟩

end ManagedChild

/-- an operation on one child -/
structure ChildStep (s s' : Beside ManagedChild LinkWorld) : Prop where
  child : s.held.Later s'.held
  world : Touches s.held.pid s.world s'.world

instance : IsPreorder (Beside ManagedChild LinkWorld) ChildStep where
  refl _ := ⟨refl_of ManagedChild.Later _, refl_of Goes _, fun _ _ => refl_of Helper.Moves _⟩
  trans _ _ _ h h' := by
    refine ⟨trans_of ManagedChild.Later h.child h'.child, trans_of Goes h.world.toGoes h'.world.toGoes,
      fun other hother => ?_⟩
    refine trans_of Helper.Moves (h.world.other other hother) (h'.world.other other ?_)
    rwa [h.child.pid]

theorem ChildStep.confined {s s' : Beside ManagedChild LinkWorld} (h : ChildStep s s') :
    Confined ManagedChild.pid LinkWorld.helpers Helper.Moves s s' := ⟨h.child.pid, h.world.other⟩

/-! ## What one operation does -/

section Operations

variable (s : Beside ManagedChild LinkWorld)

/-- the helper of a child, at the next operation -/
def helperNow (s : Beside ManagedChild LinkWorld) : Helper := s.world.tick.helpers s.held.pid

/-- what a poll finds -/
theorem pollHelper_cases : (∃ source, onProcess pollHelper s = (.ok (.error source), ⟨s.held, s.world.tick⟩)) ∨
    onProcess pollHelper s = (.ok (.ok (helperNow s).status), ⟨s.held, s.world.tick⟩) := by
  cases hpoll : s.world.tick.oracle.pollError s.world.tick.operations with
  | some source =>
    left
    refine ⟨source, ?_⟩
    unfold onProcess inWorld pollHelper observe Action.ofState
    simp only [hpoll]
  | none =>
    right
    unfold onProcess inWorld pollHelper observe Action.ofState
    simp only [hpoll]
    rfl

/-- a known status is kept; else the process is polled -/
inductive TryWait : Except (LinkFault LinkError) (Option ExitStatus) × Beside ManagedChild LinkWorld → Prop
  | known {status : ExitStatus} (h : s.held.status = some status) : TryWait (.ok (some status), s)
  | failed (h : s.held.status = none) (error : LinkError) : TryWait (.error (.failed error), ⟨s.held, s.world.tick⟩)
  | running (h : s.held.status = none) (hhelper : (helperNow s).status = none) :
      TryWait (.ok none, ⟨s.held, s.world.tick⟩)
  | ended {status : ExitStatus} (h : s.held.status = none) (hhelper : (helperNow s).status = some status) :
      TryWait (.ok (some status), ⟨{ s.held with status := some status }, s.world.tick⟩)

theorem tryWait_cases : TryWait s (tryWait s) := by
  have hread : (Action.read Beside.held : ChildAction ManagedChild) s = (.ok s.held, s) := rfl
  rw [tryWait, Action.bind_of_ok hread]
  cases hstatus : s.held.status with
  | some status => exact .known hstatus
  | none =>
    dsimp only
    rcases pollHelper_cases s with ⟨source, hpoll⟩ | hpoll
    · rw [Action.bind_of_ok hpoll]
      exact .failed hstatus _
    · rw [Action.bind_of_ok hpoll]
      cases hhelper : (helperNow s).status with
      | none => exact .running hstatus hhelper
      | some status => exact .ended hstatus hhelper

/-- a child that has been asked to stop, or had a status -/
inductive AskChild : Except (LinkFault LinkError) Unit × Beside ManagedChild LinkWorld → Prop
  | known {status : ExitStatus} (h : s.held.status = some status) : AskChild (.ok (), s)
  | asked (h : s.held.status = none) : AskChild (.ok (), ⟨{ s.held with terminatedByOwner := true },
      s.world.tick.send s.held.pid .term⟩)

theorem askChild_cases : AskChild s (askChild s) := by
  have hread : (Action.read Beside.held : ChildAction ManagedChild) s = (.ok s.held, s) := rfl
  rw [askChild, Action.bind_of_ok hread]
  cases hstatus : s.held.status with
  | some status => exact .known hstatus
  | none => exact .asked hstatus

inductive CollectChild : Except (LinkFault LinkError) (Option Bool) × Beside ManagedChild LinkWorld → Prop
  | known {status : ExitStatus} (h : s.held.status = some status) : CollectChild (.ok none, s)
  | unknown (answer : Bool) (h : s.held.status = none) : CollectChild (.ok (some answer), ⟨s.held, s.world.tick⟩)
  | ended {status : ExitStatus} (h : s.held.status = none) (hhelper : (helperNow s).status = some status) :
      CollectChild (.ok none, ⟨{ s.held with status := some status }, s.world.tick⟩)

theorem collectChild_cases : CollectChild s (collectChild s) := by
  have hread : (Action.read Beside.held : ChildAction ManagedChild) s = (.ok s.held, s) := rfl
  rw [collectChild, Action.bind_of_ok hread]
  cases hstatus : s.held.status with
  | some status => exact .known hstatus
  | none =>
    rw [if_neg (by simp)]
    rcases pollHelper_cases s with ⟨source, hpoll⟩ | hpoll
    · rw [Action.bind_of_ok hpoll]
      exact .unknown true hstatus
    · rw [Action.bind_of_ok hpoll]
      cases hhelper : (helperNow s).status with
      | none => exact .unknown false hstatus
      | some status => exact .ended hstatus hhelper

/-- the world once the helper of the child was killed -/
def killedWorld (s : Beside ManagedChild LinkWorld) : LinkWorld := s.world.tick.send s.held.pid .kill

/-- a child that has been killed and waited for, or had a status -/
inductive KillChild : Except (LinkFault LinkError) Unit × Beside ManagedChild LinkWorld → Prop
  | known {status : ExitStatus} (h : s.held.status = some status) : KillChild (.ok (), s)
  | lost (h : s.held.status = none) {source : String}
      (hlost : s.world.oracle.waited (killedWorld s).operations = .error source) :
      KillChild (.ok (), ⟨s.held, (killedWorld s).tick⟩)
  | waited {status : ExitStatus} (h : s.held.status = none) {helper : Helper}
      (hmoves : ((killedWorld s).tick.helpers s.held.pid).Moves helper) (hhelper : helper.status = some status) :
      KillChild (.ok (), ⟨{ s.held with status := some status },
        (killedWorld s).tick.setHelper s.held.pid helper⟩)

theorem killChild_cases : KillChild s (killChild s) := by
  have hread : (Action.read Beside.held : ChildAction ManagedChild) s = (.ok s.held, s) := rfl
  have hsignal : onProcess (sendSignal .kill) s = (.ok (), ⟨s.held, killedWorld s⟩) := rfl
  rw [killChild, Action.bind_of_ok hread]
  cases hstatus : s.held.status with
  | some status => exact .known hstatus
  | none =>
    rw [if_neg (by simp), Action.bind_of_ok hsignal]
    have hwait : onProcess waitHelper ⟨s.held, killedWorld s⟩ = inWorld (waitHelper s.held.pid)
        ⟨s.held, killedWorld s⟩ := rfl
    cases hwaited : (killedWorld s).oracle.waited (killedWorld s).operations with
    | error source =>
      have hrun : onProcess waitHelper ⟨s.held, killedWorld s⟩ =
          (.ok (.error source), ⟨s.held, (killedWorld s).tick⟩) := by
        rw [hwait, inWorld, waitHelper, Action.ofState_run, hwaited]
      rw [Action.bind_of_ok hrun]
      exact .lost hstatus hwaited
    | ok status =>
      have hrun : onProcess waitHelper ⟨s.held, killedWorld s⟩ =
          (.ok (.ok ((((killedWorld s).tick.helpers s.held.pid).endWith (some status)).status.getD status)),
            ⟨s.held, (killedWorld s).tick.setHelper s.held.pid
              (((killedWorld s).tick.helpers s.held.pid).endWith (some status))⟩) := by
        rw [hwait, inWorld, waitHelper, Action.ofState_run, hwaited]
      rw [Action.bind_of_ok hrun]
      refine .waited hstatus (Helper.Moves.endWith _ _) ?_
      cases (killedWorld s).tick.helpers s.held.pid <;> rfl

end Operations

section Steps

variable {α : Type} {s s' : Beside ManagedChild LinkWorld}

/-- time passes -/
theorem childStep_tick (s : Beside ManagedChild LinkWorld) : ChildStep s ⟨s.held, s.world.tick⟩ :=
  ⟨refl_of ManagedChild.Later _, (passes_tick s.world).touches _⟩

/-- a status is set where there was none -/
theorem ChildStep.setStatus (h : ChildStep s s') (hnone : s'.held.status = none) (status : ExitStatus) :
    ChildStep s ⟨{ s'.held with status := some status }, s'.world⟩ := by
  have hlater : s'.held.Later { s'.held with status := some status } := by
    refine ⟨rfl, rfl, rfl, rfl, fun _ hs => ?_⟩
    rw [hnone] at hs
    cases hs
  have hset : ChildStep s' ⟨{ s'.held with status := some status }, s'.world⟩ :=
    ⟨hlater, refl_of Goes _, fun _ _ => refl_of Helper.Moves _⟩
  exact trans_of ChildStep h hset

theorem childStep_send (s : Beside ManagedChild LinkWorld) (child : ManagedChild) (h : s.held.Later child)
    (signal : Signal) : ChildStep s ⟨child, s.world.tick.send s.held.pid signal⟩ := ⟨h, touches_send s.world _ signal⟩

theorem tryWait_step : Within ChildStep tryWait := by
  refine .of_cases tryWait_cases fun s run h => ?_
  cases h with
  | known => exact refl_of ChildStep s
  | failed | running => exact childStep_tick s
  | ended hnone => exact (childStep_tick s).setStatus hnone _

theorem askChild_step : Within ChildStep askChild := by
  refine .of_cases askChild_cases fun s run h => ?_
  cases h with
  | known => exact refl_of ChildStep s
  | asked =>
    exact childStep_send s { s.held with terminatedByOwner := true } ⟨rfl, rfl, rfl, rfl, fun _ h => h⟩ .term

theorem collectChild_step : Within ChildStep collectChild := by
  refine .of_cases collectChild_cases fun s run h => ?_
  cases h with
  | known => exact refl_of ChildStep s
  | unknown => exact childStep_tick s
  | ended hnone => exact (childStep_tick s).setStatus hnone _

theorem killChild_step : Within ChildStep killChild := by
  refine .of_cases killChild_cases fun s run h => ?_
  have hkilled := childStep_send s _ (refl_of ManagedChild.Later s.held) .kill
  cases h with
  | known => exact refl_of ChildStep s
  | lost => exact trans_of ChildStep hkilled (childStep_tick _)
  | waited hnone hmoves =>
    have hwaited : ChildStep ⟨s.held, killedWorld s⟩ ⟨s.held, (killedWorld s).tick.setHelper s.held.pid _⟩ :=
      ⟨refl_of ManagedChild.Later _, touches_setHelper _ hmoves.later⟩
    exact (trans_of ChildStep hkilled hwaited).setStatus hnone _

theorem reportChild_step : Within ChildStep reportChild :=
  tryWait_step.bind fun _ => .ofState fun s => refl_of ChildStep s

theorem pollDegradation_step : Within ChildStep pollDegradation :=
  tryWait_step.bind fun _ => .ofState fun s => refl_of ChildStep s

theorem checkAlive_step : Within ChildStep checkAlive := by
  refine tryWait_step.bind fun status => .bind (.ofState fun s => refl_of ChildStep s) fun child => ?_
  cases status with
  | none => exact .pure ()
  | some status =>
    dsimp only
    split_ifs
    · exact .fail _
    · exact .pure ()

end Steps

/-! ## What a child remembers -/

/-- what a child remembers is true of its helper -/
structure Fits (child : ManagedChild) (helper : Helper) : Prop where
  status : ∀ status ∈ child.status, helper.status = some status
  signalled : child.terminatedByOwner = helper.signalled

/-- a child that has a status, or was sent a signal -/
structure Stopped (child : ManagedChild) (helper : Helper) : Prop extends Fits child helper where
  asked : child.status = none → helper.signalled = true

/-- a child that was polled after that: without a status, its helper was running when it was sent the signal -/
structure Polled (child : ManagedChild) (helper : Helper) : Prop extends Stopped child helper where
  noEnd : child.status = none → helper.ownEnd = none

abbrev AtHelper (P : ManagedChild → Helper → Prop) : Beside ManagedChild LinkWorld → Prop :=
  AtPart ManagedChild.pid LinkWorld.helpers P

abbrev AllHelpers (P : ManagedChild → Helper → Prop) : Beside (List ManagedChild) LinkWorld → Prop :=
  AllParts ManagedChild.pid LinkWorld.helpers P

theorem stable_fits : Stable Helper.Moves Fits := fun _ _ _ hmoves h =>
  ⟨fun status hs => hmoves.status (h.status status hs), h.signalled.trans hmoves.signalled.symm⟩

theorem stable_stopped : Stable Helper.Moves Stopped := fun child helper helper' hmoves h =>
  ⟨stable_fits child helper helper' hmoves h.toFits, fun hnone => hmoves.signalled.trans (h.asked hnone)⟩

/-- a helper that was sent a signal and has not ended before does not do so any more -/
theorem Helper.Moves.noEnd {helper helper' : Helper} (h : helper.Moves helper') (hsignalled : helper.signalled = true)
    (hend : helper.ownEnd = none) : helper'.ownEnd = none := by
  cases helper with
  | running asked => exact h.ownEnd (congrArg _ hsignalled)
  | ended signal status =>
    rw [h.ended rfl]
    exact hend

theorem stable_polled : Stable Helper.Moves Polled := fun child helper helper' hmoves h =>
  ⟨stable_stopped child helper helper' hmoves h.toStopped, fun hnone =>
    hmoves.noEnd (h.asked hnone) (h.noEnd hnone)⟩

theorem Fits.setStatus {child : ManagedChild} {helper : Helper} (h : Fits child helper) {status : ExitStatus}
    (hstatus : helper.status = some status) : Fits { child with status := some status } helper := by
  refine ⟨fun other hother => ?_, h.signalled⟩
  obtain rfl := Option.some.inj hother
  exact hstatus

theorem Stopped.setStatus {child : ManagedChild} {helper : Helper} (h : Stopped child helper) {status : ExitStatus}
    (hstatus : helper.status = some status) : Stopped { child with status := some status } helper :=
  ⟨h.toFits.setStatus hstatus, nofun⟩

/-- a child without a status that is sent a signal -/
theorem stopped_ask {child : ManagedChild} (hnone : child.status = none) (helper : Helper) :
    Stopped { child with terminatedByOwner := true } helper.ask := by
  refine ⟨⟨fun status hs => ?_, (Helper.signalled_ask helper).symm⟩, fun _ => Helper.signalled_ask helper⟩
  change status ∈ child.status at hs
  rw [hnone] at hs
  cases hs

section Memory

variable {P : ManagedChild → Helper → Prop} {s : Beside ManagedChild LinkWorld}

theorem atHelper_tick (hP : Stable Helper.Moves P) (h : AtHelper P s) : P s.held (helperNow s) :=
  hP _ _ _ ((passes_tick s.world).helper s.held.pid) h

theorem helpers_setHelper (w : LinkWorld) (pid : ℕ) (helper : Helper) :
    (w.setHelper pid helper).helpers pid = helper := if_pos rfl

theorem helpers_send (w : LinkWorld) (pid : ℕ) (signal : Signal) :
    (w.send pid signal).helpers pid = (w.helpers pid).ask := helpers_setHelper w pid _

/-- a poll leaves a child that knows the status of its helper, if it has ended -/
theorem tryWait_fits : Triple (AtHelper Fits) tryWait
    (fun status => AtHelper fun child helper => Fits child helper ∧ child.status = status) fun _ => AtHelper Fits := by
  refine Triple.of_cases tryWait_cases fun s h run hcase => ?_
  have hnow := atHelper_tick stable_fits h
  cases hcase with
  | known hstatus => exact ⟨h, hstatus⟩
  | failed => exact hnow
  | running hnone => exact ⟨hnow, hnone⟩
  | ended hnone hhelper => exact ⟨hnow.setStatus hhelper, rfl⟩

theorem tryWait_keeps : Triple (AtHelper Fits) tryWait (fun _ => AtHelper Fits) fun _ => AtHelper Fits :=
  tryWait_fits.weaken (fun _ h => h) (fun _ _ h => h.1) fun _ _ h => h

theorem tryWait_stopped : Triple (AtHelper Stopped) tryWait (fun _ => AtHelper Polled) fun _ => AtHelper Stopped := by
  refine Triple.of_cases tryWait_cases fun s h run hcase => ?_
  have hnow := atHelper_tick stable_stopped h
  cases hcase with
  | known hstatus =>
    refine ⟨h, fun hnone => ?_⟩
    rw [hstatus] at hnone
    cases hnone
  | failed => exact hnow
  | running hnone hhelper =>
    refine ⟨hnow, fun _ => ?_⟩
    change (helperNow s).ownEnd = none
    cases hended : helperNow s with
    | running asked => rfl
    | ended signal status =>
      rw [hended] at hhelper
      cases hhelper
  | ended hnone hhelper => exact ⟨hnow.setStatus hhelper, nofun⟩

theorem reportChild_triple {Q : ManagedChild → Helper → Prop} {E : LinkFault LinkError → Beside ManagedChild LinkWorld → Prop}
    (h : Triple (AtHelper P) tryWait (fun _ => AtHelper Q) E) : Triple (AtHelper P) reportChild
      (fun report => AtHelper fun child helper => Q child helper ∧ report = child.polledReport) E :=
  h.bind fun _ => Triple.read fun _ hs => ⟨hs, rfl⟩

theorem pollDegradation_triple : Triple (AtHelper Fits) pollDegradation
    (fun degradation => AtHelper fun child helper => Fits child helper ∧ degradation = child.degradation)
    fun _ => AtHelper Fits :=
  tryWait_fits.bind fun _ => Triple.read fun _ hs => ⟨hs.1, rfl⟩

theorem checkAlive_triple : Triple (AtHelper Fits) checkAlive (fun _ => AtHelper Fits) fun _ => AtHelper Fits := by
  refine tryWait_fits.bind fun status => .bind (Q := fun _ => AtHelper Fits) (Triple.read fun _ hs => hs.1) fun child => ?_
  cases status with
  | none => exact .pure fun _ hs => hs
  | some status =>
    dsimp only
    split_ifs
    · exact .fail fun _ hs => hs
    · exact .pure fun _ hs => hs

theorem askChild_triple : Triple (AtHelper Fits) askChild (fun _ => AtHelper Stopped) fun _ => AtHelper Fits := by
  refine Triple.of_cases askChild_cases fun s h run hcase => ?_
  cases hcase with
  | known hstatus =>
    refine ⟨h, fun hnone => ?_⟩
    rw [hstatus] at hnone
    cases hnone
  | asked hnone =>
    change Stopped _ ((s.world.tick.send s.held.pid .term).helpers s.held.pid)
    rw [helpers_send]
    exact stopped_ask hnone _

theorem collectChild_triple :
    Triple (AtHelper Stopped) collectChild (fun _ => AtHelper Stopped) fun _ => AtHelper Stopped := by
  refine Triple.of_cases collectChild_cases fun s h run hcase => ?_
  have hnow := atHelper_tick stable_stopped h
  cases hcase with
  | known => exact h
  | unknown => exact hnow
  | ended _ hhelper => exact hnow.setStatus hhelper

theorem killChild_triple : Triple (AtHelper Stopped) killChild (fun _ => AtHelper Stopped) fun _ => AtHelper Stopped := by
  refine Triple.of_cases killChild_cases fun s h run hcase => ?_
  have hnow := atHelper_tick stable_stopped h
  -- a second signal changes nothing for a child that was sent one
  have hasked (hnone : s.held.status = none) : Stopped s.held ((killedWorld s).helpers s.held.pid) := by
    rw [killedWorld, helpers_send]
    refine ⟨⟨fun status hs => ?_, ?_⟩, fun _ => Helper.signalled_ask _⟩
    · rw [hnone] at hs
      cases hs
    · rw [Helper.signalled_ask, hnow.signalled, hnow.asked hnone]
  have hlater (hnone : s.held.status = none) : Stopped s.held ((killedWorld s).tick.helpers s.held.pid) :=
    stable_stopped _ _ _ ((passes_tick _).helper _) (hasked hnone)
  cases hcase with
  | known => exact h
  | lost hnone => exact hlater hnone
  | waited hnone hmoves hhelper =>
    change Stopped _ (((killedWorld s).tick.setHelper s.held.pid _).helpers s.held.pid)
    rw [helpers_setHelper]
    exact (stable_stopped _ _ _ hmoves (hlater hnone)).setStatus hhelper

end Memory

/-! ## All children -/

/-- what the operations of the managed handle do to its children and their world -/
structure ManagedGoes (s s' : Beside (List ManagedChild) LinkWorld) : Prop where
  children : List.Forall₂ ManagedChild.Later s.held s'.held
  world : Goes s.world s'.world

instance : IsPreorder (Beside (List ManagedChild) LinkWorld) ManagedGoes where
  refl _ := ⟨refl_of (List.Forall₂ ManagedChild.Later) _, refl_of Goes _⟩
  trans _ _ _ h h' := ⟨trans_of (List.Forall₂ ManagedChild.Later) h.children h'.children,
    trans_of Goes h.world h'.world⟩

/-- what has become of a child -/
theorem ManagedGoes.child {s s' : Beside (List ManagedChild) LinkWorld} (h : ManagedGoes s s') {child : ManagedChild}
    (hchild : child ∈ s.held) : ∃ child' ∈ s'.held, child.Later child' := by
  obtain ⟨i, hi, rfl⟩ := List.getElem_of_mem hchild
  have hi' : i < s'.held.length := by rwa [← h.children.length_eq]
  exact ⟨s'.held[i], List.getElem_mem hi', h.children.get hi hi'⟩

/-- every child has a helper of its own, and something is true of each of them -/
def Each (P : ManagedChild → Helper → Prop) (s : Beside (List ManagedChild) LinkWorld) : Prop :=
  (s.held.map ManagedChild.pid).Nodup ∧ AllHelpers P s

section All

variable {α : Type} {P Q : ManagedChild → Helper → Prop} {body : ChildAction α}

theorem forEach_goes (hbody : Within ChildStep body) : Within ManagedGoes (forEach body) := fun s =>
  ⟨forEachMember_held (hbody.mono fun _ _ h => h.child) s.held s.world,
    forEachMember_world (hbody.mono fun _ _ h => h.world.toGoes) s.held s.world⟩

theorem inWorld_goes {act : LinkAction α} (hact : Within Passes act) : Within ManagedGoes (inWorld act) := fun s =>
  ⟨refl_of (List.Forall₂ ManagedChild.Later) _, ((hact s.world).touches 0).toGoes⟩

theorem forEach_each (hbody : Within ChildStep body) (hP : Stable Helper.Moves P) (hQ : Stable Helper.Moves Q)
    (himp : ∀ child helper, Q child helper → P child helper)
    (hone : Triple (AtHelper P) body (fun _ => AtHelper Q) fun _ => AtHelper P) :
    Triple (Each P) (forEach body) (fun _ => Each Q) fun _ => Each P :=
  forEach_all (hbody.mono fun _ _ h => h.confined) hP hQ himp hone

theorem inWorld_each {act : LinkAction α} (hact : Within Passes act) (hP : Stable Helper.Moves P) :
    Triple (Each P) (inWorld act) (fun _ => Each P) fun _ => Each P := by
  rintro ⟨children, w⟩ ⟨hnodup, hall⟩
  have hafter : Each P ⟨children, (act w).2⟩ :=
    ⟨hnodup, hall.of_drift hP fun child _ => (hact w).helper child.pid⟩
  rw [inWorld]
  rcases hrun : act w with ⟨e | a, w'⟩
  · rw [hrun] at hafter
    exact hafter
  · rw [hrun] at hafter
    exact hafter

end All

theorem awaitChildren_goes (deadline fuel : ℕ) : Within ManagedGoes (awaitChildren deadline fuel) := by
  induction fuel with
  | zero => exact .fail _
  | succ fuel ih =>
    refine (forEach_goes collectChild_step).bind fun answers => ?_
    split_ifs
    · exact .pure ()
    · refine (inWorld_goes instantNow_passes).bind fun now => ?_
      split_ifs
      · exact .pure ()
      · exact (inWorld_goes (sleep_passes _)).bind fun _ => ih

theorem terminateChildProcesses_goes : Within ManagedGoes terminateChildProcesses :=
  (forEach_goes askChild_step).bind fun _ => (inWorld_goes instantNow_passes).bind fun _ =>
    (awaitChildren_goes _ _).bind fun _ => (forEach_goes killChild_step).bind fun _ => .pure ()

theorem awaitChildren_stopped (deadline fuel : ℕ) :
    Triple (Each Stopped) (awaitChildren deadline fuel) (fun _ => Each Stopped) fun _ => Each Stopped := by
  have hcollect := forEach_each collectChild_step stable_stopped stable_stopped (fun _ _ h => h) collectChild_triple
  induction fuel with
  | zero => exact .fail fun _ h => h
  | succ fuel ih =>
    refine hcollect.bind fun answers => ?_
    split_ifs
    · exact .pure fun _ h => h
    · refine (inWorld_each instantNow_passes stable_stopped).bind fun now => ?_
      split_ifs
      · exact .pure fun _ h => h
      · exact (inWorld_each (sleep_passes _) stable_stopped).bind fun _ => ih

/-- **After a stop, every child has a status or was sent a signal.** -/
theorem terminateChildProcesses_stopped :
    Triple (Each Fits) terminateChildProcesses (fun _ => Each Stopped) fun _ => Each Fits := by
  have hfits (s) (h : Each Stopped s) : Each Fits s := ⟨h.1, fun child hchild => (h.2 child hchild).toFits⟩
  have hask := forEach_each askChild_step stable_fits stable_stopped (fun _ _ h => h.toFits) askChild_triple
  have hkill := forEach_each killChild_step stable_stopped stable_stopped (fun _ _ h => h) killChild_triple
  refine hask.bind fun _ => ?_
  refine Triple.weaken (Q := fun _ => Each Stopped) (E := fun _ => Each Stopped) ?_ (fun _ h => h) (fun _ _ h => h)
    fun _ => hfits
  refine (inWorld_each instantNow_passes stable_stopped).bind fun now => ?_
  exact (awaitChildren_stopped _ _).bind fun _ => hkill.bind fun _ => .pure fun _ h => h

/-! ## A stop returns -/

theorem askChild_returns : Returns askChild := by
  refine .of_cases askChild_cases fun s run h => ?_
  cases h <;> exact ⟨_, _, rfl⟩

theorem collectChild_returns : Returns collectChild := by
  refine .of_cases collectChild_cases fun s run h => ?_
  cases h <;> exact ⟨_, _, rfl⟩

theorem killChild_returns : Returns killChild := by
  refine .of_cases killChild_cases fun s run h => ?_
  cases h <;> exact ⟨_, _, rfl⟩

/-- a round returns, or sleeps ahead of the deadline -/
theorem awaitChildren_round (deadline fuel : ℕ) (s : Beside (List ManagedChild) LinkWorld) :
    (∃ s', awaitChildren deadline (fuel + 1) s = (.ok (), s')) ∨
      ∃ s', s.world.now < deadline ∧ s.world.now + terminatePollInterval ≤ s'.world.now ∧
        awaitChildren deadline (fuel + 1) s = awaitChildren deadline fuel s' := by
  obtain ⟨answers, s₁, hcollect⟩ := collectChild_returns.forEach s
  have hgoes : s.world.now ≤ s₁.world.now := by
    have h := (forEach_goes collectChild_step s).world.now
    rwa [hcollect] at h
  have htick : s₁.world.now ≤ s₁.world.tick.now := (passes_tick s₁.world).now
  have htick' : s₁.world.tick.now ≤ s₁.world.tick.tick.now := (passes_tick s₁.world.tick).now
  have hnow : (inWorld instantNow : ManagedAction ℕ) s₁ = (.ok s₁.world.tick.now, ⟨s₁.held, s₁.world.tick⟩) := rfl
  have hsleep : (inWorld (sleep terminatePollInterval) : ManagedAction Unit) ⟨s₁.held, s₁.world.tick⟩ = (.ok (),
      ⟨s₁.held, { s₁.world.tick.tick with now := s₁.world.tick.tick.now + terminatePollInterval }⟩) := rfl
  rw [awaitChildren, Action.bind_of_ok hcollect]
  split_ifs
  · exact Or.inl ⟨s₁, rfl⟩
  · rw [Action.bind_of_ok hnow]
    split_ifs with hpassed
    · exact Or.inl ⟨_, rfl⟩
    · rw [Action.bind_of_ok hsleep]
      refine Or.inr ⟨_, ?_, ?_, rfl⟩
      · omega
      · change s.world.now + terminatePollInterval ≤ s₁.world.tick.tick.now + terminatePollInterval
        omega

/-- each round that goes on has slept, so the deadline comes -/
theorem awaitChildren_returns {deadline : ℕ} (fuel : ℕ) (s : Beside (List ManagedChild) LinkWorld)
    (hdeadline : deadline ≤ s.world.now + fuel * terminatePollInterval) :
    ∃ s', awaitChildren deadline (fuel + 1) s = (.ok (), s') := by
  induction fuel generalizing s with
  | zero =>
    rcases awaitChildren_round deadline 0 s with hreturns | ⟨s₁, hbefore, -, -⟩
    · exact hreturns
    · omega
  | succ fuel ih =>
    rcases awaitChildren_round deadline (fuel + 1) s with hreturns | ⟨s₁, -, hslept, hround⟩
    · exact hreturns
    · rw [hround]
      refine ih s₁ ?_
      have hrounds : (fuel + 1) * terminatePollInterval = fuel * terminatePollInterval + terminatePollInterval :=
        Nat.succ_mul _ _
      omega

/-- **A stop returns**, whatever the helpers do. -/
theorem terminateChildProcesses_returns : Returns terminateChildProcesses := by
  intro s
  obtain ⟨_, s₁, hask⟩ := askChild_returns.forEach s
  have hnow : (inWorld instantNow : ManagedAction ℕ) s₁ = (.ok s₁.world.tick.now, ⟨s₁.held, s₁.world.tick⟩) := rfl
  have hrounds : terminateDeadline ≤ terminateDeadline / terminatePollInterval * terminatePollInterval := by decide
  have hdeadline := Nat.add_le_add_left hrounds s₁.world.tick.now
  obtain ⟨s₂, hawait⟩ := awaitChildren_returns _ ⟨s₁.held, s₁.world.tick⟩ hdeadline
  obtain ⟨_, s₃, hkill⟩ := killChild_returns.forEach s₂
  refine ⟨(), s₃, ?_⟩
  rw [terminateChildProcesses, Action.bind_of_ok hask, Action.bind_of_ok hnow, terminateRounds, Action.bind_of_ok hawait,
    Action.bind_of_ok hkill]
  rfl

/-! ## Operations of the handle -/

/-- an operation of the handle leaves children that fit their helpers -/
structure ManagedStep (s s' : Beside (List ManagedChild) LinkWorld) : Prop extends ManagedGoes s s' where
  fits : Each Fits s → Each Fits s'

instance : IsPreorder (Beside (List ManagedChild) LinkWorld) ManagedStep where
  refl s := ⟨refl_of ManagedGoes s, id⟩
  trans _ _ _ h h' := ⟨trans_of ManagedGoes h.toManagedGoes h'.toManagedGoes, fun hs => h'.fits (h.fits hs)⟩

section Steps

variable {α : Type} {body : ChildAction α}

theorem forEach_step (hbody : Within ChildStep body)
    (h : Triple (AtHelper Fits) body (fun _ => AtHelper Fits) fun _ => AtHelper Fits) :
    Within ManagedStep (forEach body) := fun s =>
  ⟨forEach_goes hbody s, Within.of_triple (forEach_each hbody stable_fits stable_fits (fun _ _ h => h) h) s⟩

theorem inWorld_step {act : LinkAction α} (hact : Within Passes act) : Within ManagedStep (inWorld act) := fun s =>
  ⟨inWorld_goes hact s, Within.of_triple (inWorld_each hact stable_fits) s⟩

theorem terminateChildProcesses_step : Within ManagedStep terminateChildProcesses := fun s =>
  ⟨terminateChildProcesses_goes s, Within.of_triple (terminateChildProcesses_stopped.weaken (fun _ h => h)
    (fun _ _ h => ⟨h.1, fun child hchild => (h.2 child hchild).toFits⟩) fun _ _ h => h) s⟩

theorem reportChildren_step : Within ManagedStep (forEach reportChild) :=
  forEach_step reportChild_step ((reportChild_triple tryWait_keeps).weaken (fun _ h => h) (fun _ _ h => h.1) fun _ _ h => h)

theorem pollDegradations_step : Within ManagedStep (forEach pollDegradation) :=
  forEach_step pollDegradation_step (pollDegradation_triple.weaken (fun _ h => h) (fun _ _ h => h.1) fun _ _ h => h)

theorem checkAlive_all_step : Within ManagedStep (forEach checkAlive) := forEach_step checkAlive_step checkAlive_triple

end Steps

end WfbLink.Link
