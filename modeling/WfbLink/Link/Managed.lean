/-
The handle of a link with helper processes (`ManagedWfbStreamsHandle`).

- `call_step`: what a call of the handle does to its children and to the world.
- `join_spec`: the report of `join`, in terms of the children it leaves and the result of the radio.
- `health_spec`: why `health` says that the link has failed.
-/
import WfbLink.Link.Children

namespace WfbLink.Link

open WfbLink.Core WfbLink.Runtime

/-- without the directory of its artifacts and the reports of its configuration -/
structure ManagedWfbStreamsHandle where
  endpoints : LinkEndpoints
  radioEndpoints : LinkEndpoints
  radioHandle : UserspaceRadioHandle
  startupDegradations : List LinkStreamDegradation
  startupSettle : ℕ
deriving DecidableEq

structure ManagedReady where
  endpoints : LinkEndpoints
  readyFile : String
  readyAtUnixMs : Option UInt64
  radio : FileContent
  startupDegradations : List LinkStreamDegradation
  children : List ChildProcessReport

structure ManagedHealth where
  lifecycle : LinkLifecycle
  ready : Bool
  endpoints : LinkEndpoints
  streams : List LinkStreamHealth
  degradedStreams : List String
  radio : Option FileContent
  startupDegradations : List LinkStreamDegradation
  children : List ChildProcessReport

structure ManagedReport where
  lifecycle : LinkLifecycle
  endpoints : LinkEndpoints
  streams : List LinkStreamHealth
  degradedStreams : List String
  radio : ProductionRuntimeFlowReport
  children : List ChildProcessReport

def childReportDegradations (reports : List ChildProcessReport) : List LinkStreamDegradation :=
  reports.filterMap fun report => report.degradationReason.map fun reason => ⟨report.streamName.getD report.name, reason⟩

/-- as `health` sees it: a required child that is not running any more has failed -/
def ChildProcessReport.notRunning (report : ChildProcessReport) : Bool :=
  report.status.any (fun status => !startsWith status "running") && report.criticality = .required

/-- as `join` sees it: a required child may exit with 0, or by a signal -/
def ChildProcessReport.exitedBadly (report : ChildProcessReport) : Bool :=
  report.status.any (fun status => !startsWith status "exit:0" && status ≠ "signal") && report.criticality = .required

/-- a required child that failed comes first, then a degradation, then the radio -/
def joinLifecycle (children : List ChildProcessReport) (degradations : List LinkStreamDegradation)
    (radio : LinkLifecycle) : LinkLifecycle :=
  if children.any (·.exitedBadly) then .failed
  else if degradations ≠ [] then .degraded
  else if radio = .stopped then .stopped
  else .failed

def healthLifecycle (children : List ChildProcessReport) (degradations : List LinkStreamDegradation)
    (radio : LinkLifecycle) : LinkLifecycle :=
  if children.any (·.notRunning) then .failed
  else if degradations ≠ [] then .degraded
  else radio

namespace ManagedWfbStreamsHandle

variable (handle : ManagedWfbStreamsHandle)

def childReports : ManagedAction (List ChildProcessReport) := forEach reportChild

def combinedDegradations : ManagedAction (List LinkStreamDegradation) := do
  let degradations ← forEach pollDegradation
  return handle.startupDegradations ++ degradations.filterMap id

def checkChildrenAlive : ManagedAction Unit := do
  let _ ← forEach checkAlive

def terminateChildren : ManagedAction (List ChildProcessReport) := do
  terminateChildProcesses
  childReports

/-- errors are dropped -/
def shutdownAfterStartupError : ManagedAction Unit := do
  let _ ← Action.attempt (inWorld UserspaceRadioHandle.requestStop : ManagedAction Unit)
  let _ ← Action.attempt terminateChildren
  return ()

/-- a check whose error stops everything that was started -/
def orShutdown {α : Type} (act : ManagedAction α) : ManagedAction α := do
  match ← Action.attempt act with
  | .ok a => return a
  | .error error =>
    shutdownAfterStartupError
    Action.fail error

def settle : ManagedAction Unit :=
  if handle.startupSettle = 0 then return () else inWorld (sleep handle.startupSettle)

/-- every branch of the loop of `wait_ready` returns in its first round -/
def waitReady (timeout fuel : ℕ) : ManagedAction ManagedReady := do
  let started ← inWorld instantNow
  orShutdown checkChildrenAlive
  let remaining := timeout - ((← inWorld instantNow) - started)
  inWorld (failLinkIf (remaining = 0) (.readyTimeout timeout))
  match ← Action.attempt (inWorld (handle.radioHandle.waitReady remaining fuel) : ManagedAction LinkReady) with
  | .ok ready =>
    handle.settle
    orShutdown checkChildrenAlive
    let children ← childReports
    return {
      endpoints := handle.endpoints
      readyFile := ready.readyFile
      readyAtUnixMs := ready.readyAtUnixMs
      radio := ready.backend
      startupDegradations := handle.startupDegradations
      children }
  | .error (.failed (.readyTimeout _)) => Action.fail (.failed (.readyTimeout timeout))
  | .error .running => Action.fail .running
  | .error error =>
    shutdownAfterStartupError
    Action.fail error

def health : ManagedAction ManagedHealth := do
  let radioHealth ← inWorld handle.radioHandle.health
  let children ← childReports
  let childDegradations ← handle.combinedDegradations
  let streams := managedStreamHealth handle.endpoints handle.radioEndpoints childDegradations
  return {
    lifecycle := healthLifecycle children childDegradations radioHealth.lifecycle
    ready := radioHealth.ready && !children.any (·.notRunning)
    endpoints := handle.endpoints
    streams
    degradedStreams := degradedStreamNamesWithExtra streams childDegradations
    radio := radioHealth.backend
    startupDegradations := handle.startupDegradations
    children }

def requestStop : ManagedAction Unit := do
  inWorld UserspaceRadioHandle.requestStop
  let _ ← terminateChildren

def join : ManagedAction ManagedReport := do
  inWorld UserspaceRadioHandle.requestStop
  terminateChildProcesses
  let children ← childReports
  let radioReport ← inWorld handle.radioHandle.join
  let childDegradations := handle.startupDegradations ++ childReportDegradations children
  let streams := managedStreamHealth handle.endpoints handle.radioEndpoints childDegradations
  return {
    lifecycle := joinLifecycle children childDegradations radioReport.lifecycle
    endpoints := handle.endpoints
    streams
    degradedStreams := degradedStreamNamesWithExtra streams childDegradations
    radio := radioReport.radio
    children }

end ManagedWfbStreamsHandle

/-! ## Calls -/

inductive LinkCall where
  | waitReady (timeout fuel : ℕ)
  | health
  | requestStop
deriving DecidableEq, Repr

inductive LinkAnswer where
  | waitReady (answer : Except (LinkFault LinkError) ManagedReady)
  | health (answer : Except (LinkFault LinkError) ManagedHealth)
  | requestStop (answer : Except (LinkFault LinkError) Unit)

namespace ManagedWfbStreamsHandle

variable (handle : ManagedWfbStreamsHandle)

/-- one call; the handle lives on whatever it answers -/
def call (s : Beside (List ManagedChild) LinkWorld) : LinkCall → LinkAnswer × Beside (List ManagedChild) LinkWorld
  | .waitReady timeout fuel => (.waitReady (handle.waitReady timeout fuel s).1, (handle.waitReady timeout fuel s).2)
  | .health => (.health (handle.health s).1, (handle.health s).2)
  | .requestStop => (.requestStop (requestStop s).1, (requestStop s).2)

/-- one call after the other -/
def calls (s : Beside (List ManagedChild) LinkWorld) :
    List LinkCall → List LinkAnswer × Beside (List ManagedChild) LinkWorld
  | [] => ([], s)
  | next :: rest =>
    let (answer, s) := handle.call s next
    let (answers, s) := calls s rest
    (answer :: answers, s)

end ManagedWfbStreamsHandle

/-! ## What a call does -/

section Steps

variable {α : Type} (handle : ManagedWfbStreamsHandle)

theorem childReports_step : Within ManagedStep ManagedWfbStreamsHandle.childReports := reportChildren_step

theorem terminateChildren_step : Within ManagedStep ManagedWfbStreamsHandle.terminateChildren :=
  terminateChildProcesses_step.bind fun _ => childReports_step

theorem radioStop_step : Within ManagedStep (inWorld UserspaceRadioHandle.requestStop : ManagedAction Unit) :=
  inWorld_step storeStopRequested_passes

theorem shutdown_step : Within ManagedStep ManagedWfbStreamsHandle.shutdownAfterStartupError :=
  (Within.attempt radioStop_step).bind fun _ => (Within.attempt terminateChildren_step).bind fun _ => .pure ()

theorem orShutdown_step {act : ManagedAction α} (h : Within ManagedStep act) :
    Within ManagedStep (ManagedWfbStreamsHandle.orShutdown act) := by
  refine (Within.attempt h).bind fun outcome => ?_
  cases outcome with
  | ok a => exact .pure a
  | error error => exact shutdown_step.bind fun _ => .fail error

theorem checkChildrenAlive_step : Within ManagedStep ManagedWfbStreamsHandle.checkChildrenAlive :=
  checkAlive_all_step.bind fun _ => .pure ()

theorem settle_step : Within ManagedStep handle.settle := by
  rw [ManagedWfbStreamsHandle.settle]
  split_ifs
  · exact .pure ()
  · exact inWorld_step (sleep_passes _)

theorem waitReady_step (timeout fuel : ℕ) : Within ManagedStep (handle.waitReady timeout fuel) := by
  refine (inWorld_step instantNow_passes).bind fun started => (orShutdown_step checkChildrenAlive_step).bind fun _ => ?_
  refine (inWorld_step instantNow_passes).bind fun now => (inWorld_step (failLinkIf_passes _ _)).bind fun _ => ?_
  refine (Within.attempt (inWorld_step (waitReady_passes _ _ _))).bind fun outcome => ?_
  rcases outcome with (_ | error) | ready
  · exact .fail _
  · cases error with
    | readyTimeout => exact .fail _
    | _ => exact shutdown_step.bind fun _ => .fail _
  · exact (settle_step handle).bind fun _ => (orShutdown_step checkChildrenAlive_step).bind fun _ =>
      childReports_step.bind fun _ => .pure _

theorem combinedDegradations_step : Within ManagedStep handle.combinedDegradations :=
  pollDegradations_step.bind fun _ => .pure _

theorem health_step : Within ManagedStep handle.health :=
  (inWorld_step (health_passes _)).bind fun _ => childReports_step.bind fun _ => (combinedDegradations_step handle).bind fun _ =>
    .pure _

theorem requestStop_step : Within ManagedStep ManagedWfbStreamsHandle.requestStop :=
  radioStop_step.bind fun _ => terminateChildren_step.bind fun _ => .pure ()

theorem join_step : Within ManagedStep handle.join :=
  radioStop_step.bind fun _ => terminateChildProcesses_step.bind fun _ => childReports_step.bind fun _ =>
    (inWorld_step (join_passes _)).bind fun _ => .pure _

theorem call_step (s : Beside (List ManagedChild) LinkWorld) (next : LinkCall) :
    ManagedStep s (handle.call s next).2 := by
  cases next with
  | waitReady timeout fuel => exact waitReady_step handle timeout fuel s
  | health => exact health_step handle s
  | requestStop => exact requestStop_step s

theorem calls_step (s : Beside (List ManagedChild) LinkWorld) (calls : List LinkCall) :
    ManagedStep s (handle.calls s calls).2 := by
  induction calls generalizing s with
  | nil => exact refl_of ManagedStep s
  | cons next calls ih => exact trans_of ManagedStep (call_step handle s next) (ih _)

end Steps

/-! ## Reports of polled children -/

section Reports

variable {child : ManagedChild}

/-- for `join`, a required child has failed unless it ended as if it had been stopped -/
theorem exitedBadly_iff : child.polledReport.exitedBadly = true ↔
    child.criticality = .required ∧ ∀ status, child.status = some status → ¬ status.Quiet := by
  rw [ChildProcessReport.exitedBadly, ManagedChild.polledReport]
  cases hstatus : child.status with
  | none =>
    have hrunning : startsWith "running" "exit:0" = false := by decide
    simp [hrunning]
  | some status =>
    have hquiet := label_quiet status
    simp [← hquiet, and_comm]

theorem notRunning_iff : child.polledReport.notRunning = true ↔
    child.criticality = .required ∧ ∃ status, child.status = some status := by
  rw [ChildProcessReport.notRunning, ManagedChild.polledReport]
  cases hstatus : child.status with
  | none =>
    have hrunning : startsWith "running" "running" = true := by decide
    simp [hrunning]
  | some status => simp [label_notRunning status]

theorem childReportDegradations_map (children : List ManagedChild) :
    childReportDegradations (children.map ManagedChild.polledReport) = children.filterMap ManagedChild.degradation := by
  rw [childReportDegradations, List.filterMap_map]
  rfl

/-- only a best-effort child that ended without having been stopped is degraded -/
theorem degradation_isSome : child.degradation.isSome = true ↔
    child.criticality = .bestEffort ∧ child.status ≠ none ∧ child.terminatedByOwner = false := by
  rw [ManagedChild.degradation, Option.isSome_map, ManagedChild.degradationReason]
  split_ifs with h
  · simp only [Option.isSome_none, Bool.false_eq_true, false_iff]
    rintro ⟨hcriticality, hstatus, hterminated⟩
    rw [hterminated] at h
    rcases h with h | h | h
    · exact h hcriticality
    · exact hstatus h
    · cases h
  · simpa [not_or] using h

theorem degradation_name {degradation : LinkStreamDegradation} (h : child.degradation = some degradation) :
    degradation.name = child.streamName.getD child.name := by
  obtain ⟨reason, -, rfl⟩ := Option.map_eq_some_iff.1 h
  rfl

/-- the reports are those of the children that are left -/
theorem forEach_reports {P Q : ManagedChild → Helper → Prop} (hP : Stable Helper.Moves P) (hQ : Stable Helper.Moves Q)
    (himp : ∀ child helper, Q child helper → P child helper)
    (hone : Triple (AtHelper P) tryWait (fun _ => AtHelper Q) fun _ => AtHelper P) :
    Triple (Each P) ManagedWfbStreamsHandle.childReports
      (fun reports s => Each Q s ∧ reports = s.held.map ManagedChild.polledReport) fun _ _ => True := by
  have hreports := forEach_triple (Q := fun report child helper => Q child helper ∧ report = child.polledReport)
    (reportChild_step.mono fun _ _ h => h.confined) hP (fun _ _ _ _ hmoves h => ⟨hQ _ _ _ hmoves h.1, h.2⟩)
    (fun _ child helper h => himp child helper h.1) (reportChild_triple hone)
  intro s hs
  have hkeys := (forEachMember_confined (reportChild_step.mono fun _ _ h => h.confined) s.held s.world).1
  have hrun := hreports s hs
  change Ends _ _ (forEach reportChild s)
  change (forEach reportChild s).2.held.map ManagedChild.pid = _ at hkeys
  rcases hresult : forEach reportChild s with ⟨e | reports, s'⟩
  · exact True.intro
  · rw [hresult] at hrun hkeys
    change List.Forall₂ _ reports s'.held at hrun
    refine ⟨⟨?_, fun child hchild => ?_⟩, ?_⟩
    · rw [hkeys]
      exact hs.1
    · obtain ⟨i, hi, rfl⟩ := List.getElem_of_mem hchild
      exact (hrun.get (by rw [hrun.length_eq]; exact hi) hi).1
    · have hsame := hrun.imp fun _ _ h => h.2
      exact List.forall₂_eq_eq_eq ▸ (List.forall₂_map_right_iff.2 hsame)

end Reports

/-! ## Calls, seen from outside -/

section Specs

variable {handle : ManagedWfbStreamsHandle} {s s' : Beside (List ManagedChild) LinkWorld}

/-- everything that is degraded, as `join` sees it -/
def ManagedWfbStreamsHandle.degradations (handle : ManagedWfbStreamsHandle) (children : List ManagedChild) :
    List LinkStreamDegradation := handle.startupDegradations ++ children.filterMap ManagedChild.degradation

/-- the report of `join`, in terms of the children and the radio that it leaves -/
structure JoinReport (handle : ManagedWfbStreamsHandle) (s : Beside (List ManagedChild) LinkWorld)
    (report : ManagedReport) : Prop where
  polled : Each Polled s
  radio : s.world.radio.outcome = .ok report.radio
  lifecycle : report.lifecycle = joinLifecycle (s.held.map ManagedChild.polledReport) (handle.degradations s.held)
    (match report.radio.result with
      | .pass => .stopped
      | .fail => .failed)
  degradedStreams : report.degradedStreams = degradedStreamNamesWithExtra
    (managedStreamHealth handle.endpoints handle.radioEndpoints (handle.degradations s.held)) (handle.degradations s.held)

theorem inWorld_ok {α : Type} {act : LinkAction α} {a : α} (h : (inWorld act : ManagedAction α) s = (.ok a, s')) :
    act s.world = (.ok a, s'.world) ∧ s'.held = s.held := by
  rw [inWorld] at h
  rcases hrun : act s.world with ⟨result, w⟩
  rw [hrun] at h
  cases h
  exact ⟨rfl, rfl⟩

/-- the radio's own report -/
theorem radioJoin_spec {radioHandle : UserspaceRadioHandle} {w w' : LinkWorld} {report : LinkReport}
    (h : radioHandle.join w = (.ok report, w')) : w'.radio.outcome = .ok report.radio ∧
      report.lifecycle = match report.radio.result with
        | .pass => .stopped
        | .fail => .failed := by
  have hthread : (joinThread : LinkAction _) w =
      (.ok w.radio.outcome, { w.tick with done := max w.tick.done (w.radio.events.length + 1) }) := rfl
  rw [UserspaceRadioHandle.join, Action.bind_of_ok hthread] at h
  cases houtcome : w.radio.outcome with
  | error panic =>
    rw [houtcome] at h
    cases h
  | ok radio =>
    rw [houtcome] at h
    cases h
    exact ⟨houtcome, rfl⟩

/-- **The report of `join`.** -/
theorem join_spec {report : ManagedReport} (hfits : Each Fits s) (hjoin : handle.join s = (.ok report, s')) :
    JoinReport handle s' report := by
  obtain ⟨_, s₁, hstop, hjoin⟩ := Action.bind_ok hjoin
  have hfits₁ : Each Fits s₁ := by
    have h := (radioStop_step s).fits hfits
    rwa [hstop] at h
  obtain ⟨_, s₂, hterminate, hjoin⟩ := Action.bind_ok hjoin
  have hstopped : Each Stopped s₂ := by
    have h := terminateChildProcesses_stopped s₁ hfits₁
    rwa [hterminate] at h
  obtain ⟨children, s₃, hreports, hjoin⟩ := Action.bind_ok hjoin
  obtain ⟨hpolled, rfl⟩ : Each Polled s₃ ∧ children = s₃.held.map ManagedChild.polledReport := by
    have h := forEach_reports stable_stopped stable_polled (fun _ _ h => h.toStopped) tryWait_stopped s₂ hstopped
    rwa [hreports] at h
  obtain ⟨radioReport, s₄, hradio, hreturn⟩ := Action.bind_ok hjoin
  have hpolled : Each Polled s₄ := by
    have h := inWorld_each (join_passes handle.radioHandle) stable_polled s₃ hpolled
    rwa [hradio] at h
  obtain ⟨hradio, hheld⟩ := inWorld_ok hradio
  obtain ⟨houtcome, hlifecycle⟩ := radioJoin_spec hradio
  cases hreturn
  refine ⟨hpolled, houtcome, ?_, ?_⟩
  · rw [hheld, ManagedWfbStreamsHandle.degradations, ← childReportDegradations_map]
    exact congrArg (joinLifecycle _ _) hlifecycle
  · rw [hheld, ManagedWfbStreamsHandle.degradations, ← childReportDegradations_map]

/-- why `health` says that the link has failed: a required child has a status, or the radio has failed -/
theorem health_spec {health : ManagedHealth} (hfits : Each Fits s) (hrun : handle.health s = (.ok health, s'))
    (hfailed : health.lifecycle = .failed) :
    (∃ child ∈ s'.held, child.criticality = .required ∧ ∃ status, child.status = some status) ∨
      ∃ radio w, handle.radioHandle.health s.world = (.ok radio, w) ∧ radio.lifecycle = .failed ∧ Passes s.world w ∧
        Goes w s'.world := by
  obtain ⟨radio, s₁, hradio, hrun⟩ := Action.bind_ok hrun
  have hfits₁ : Each Fits s₁ := by
    have h := (inWorld_step (health_passes handle.radioHandle) s).fits hfits
    rwa [hradio] at h
  obtain ⟨hradio, hheld⟩ := inWorld_ok hradio
  obtain ⟨children, s₂, hreports, hrun⟩ := Action.bind_ok hrun
  have hreported := forEach_reports stable_fits stable_fits (fun _ _ h => h) tryWait_keeps s₁ hfits₁
  have hstep := childReports_step s₁
  rw [hreports] at hreported hstep
  obtain ⟨-, rfl⟩ : Each Fits s₂ ∧ children = s₂.held.map ManagedChild.polledReport := hreported
  obtain ⟨degradations, s₃, hdegradations, hreturn⟩ := Action.bind_ok hrun
  have hlater := combinedDegradations_step handle s₂
  rw [hdegradations] at hlater
  cases hreturn
  change healthLifecycle _ _ _ = _ at hfailed
  rw [healthLifecycle] at hfailed
  split_ifs at hfailed with hrequired hdegraded
  · obtain ⟨report, hreport, hnot⟩ := List.any_eq_true.1 hrequired
    obtain ⟨child, hchild, rfl⟩ := List.mem_map.1 hreport
    obtain ⟨hcriticality, status, hstatus⟩ := notRunning_iff.1 hnot
    obtain ⟨child', hchild', hlater⟩ := hlater.child hchild
    exact Or.inl ⟨child', hchild', hlater.criticality.trans hcriticality, status, hlater.status status hstatus⟩
  · refine Or.inr ⟨radio, s₁.world, hradio, hfailed, ?_, ?_⟩
    · have h := health_passes handle.radioHandle s.world
      rwa [hradio] at h
    · exact trans_of Goes hstep.world hlater.world

end Specs

end WfbLink.Link
