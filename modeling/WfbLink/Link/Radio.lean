/-
The handle of a userspace radio (`UserspaceRadioHandle`).

The handle learns how the radio thread is doing from two files the thread writes, and from whether it has finished. The
ready marker is written once and never removed, and the handle looks at it first.

- `neverReady_iff`: after a failed run the handle keeps quiet about readiness exactly if there is no ready marker.
- `stale_marker`: a run that fails on a port in use, after its marker.
-/
import WfbLink.Link.Endpoints
import WfbLink.Link.World
import WfbLink.Runtime.FlowRecords

namespace WfbLink.Link

open WfbLink.Core WfbLink.RadioCore WfbLink.Runtime

abbrev LinkAction (α : Type) : Type := Action LinkWorld (LinkFault LinkError) α

def failLink {α : Type} (error : LinkError) : LinkAction α := Action.fail (.failed error)

def failLinkIf (condition : Prop) [Decidable condition] (error : LinkError) : LinkAction Unit :=
  if condition then failLink error else return ()

/-! ## Files -/

def readJsonFile (path : String) : LinkAction FileContent := do
  match ← observe fun w => w.view path with
  | .content content => return content
  | .absent => failLink (.io path "No such file or directory")
  | .unreadable source => failLink (.io path source)
  | .torn source => failLink (.json path source)

def lifecycleText : ProductionRuntimeServiceLifecycle → String
  | .starting => "starting"
  | .validating => "validating"
  | .initializing => "initializing"
  | .ready => "ready"
  | .running => "running"
  | .stopping => "stopping"
  | .exitedPass => "exited_pass"
  | .exitedFail => "exited_fail"

/-- the field `lifecycle`, which a ready marker does not have -/
def lifecycleField : FileContent → Option String
  | .health record => some (lifecycleText record.lifecycle)
  | .readyMarker _ => none

def linkLifecycleFromHealthJson (health : FileContent) : LinkLifecycle :=
  match (lifecycleField health).getD "" with
  | "starting" | "validating" | "initializing" => .starting
  | "ready" | "running" => .ready
  | "stopping" => .stopping
  | "exited_pass" => .stopped
  | "exited_fail" => .failed
  | _ => .degraded

/-- the field `ready_at_unix_ms`, which a health record does not have -/
def readyAtField : FileContent → Option UInt64
  | .readyMarker marker => marker.readyAtUnixMs
  | .health _ => none

/-! ## The handle -/

structure UserspaceRadioHandle where
  endpoints : LinkEndpoints
  startupDegradedStreams : List LinkStreamDegradation
  readyFile : String
  healthFile : String
  readyPollInterval : ℕ
deriving DecidableEq

structure LinkReady where
  endpoints : LinkEndpoints
  readyFile : String
  readyAtUnixMs : Option UInt64
  backend : FileContent
deriving DecidableEq

/-- without the counters, which are read from the backend's record -/
structure LinkHealth where
  lifecycle : LinkLifecycle
  ready : Bool
  endpoints : LinkEndpoints
  streams : List LinkStreamHealth
  degradedStreams : List String
  backend : Option FileContent

structure LinkReport where
  lifecycle : LinkLifecycle
  endpoints : LinkEndpoints
  streams : List LinkStreamHealth
  degradedStreams : List String
  radio : ProductionRuntimeFlowReport

namespace UserspaceRadioHandle

variable (handle : UserspaceRadioHandle)

/-- a round of `wait_ready` that has no marker to return -/
def retryLater (timeout started : ℕ) : LinkAction (Option LinkReady) := do
  failLinkIf (← threadFinished) .backendExitedBeforeReady
  failLinkIf ((← instantNow) - started ≥ timeout) (.readyTimeout timeout)
  let remaining := timeout - ((← instantNow) - started)
  let sleepFor := min handle.readyPollInterval remaining
  failLinkIf (sleepFor = 0) (.readyTimeout timeout)
  sleep sleepFor
  return none

/-- one round of the loop of `wait_ready`; nothing where it goes on -/
def waitReadyRound (timeout started : ℕ) : LinkAction (Option LinkReady) := do
  if ← pathExists handle.readyFile then
    match ← Action.attempt (readJsonFile handle.readyFile) with
    | .ok ready =>
      return some {
        endpoints := handle.endpoints
        readyFile := handle.readyFile
        readyAtUnixMs := readyAtField ready
        backend := ready }
    | .error (.failed (.json path source)) =>
      failLinkIf ((← instantNow) - started ≥ timeout) (.json path source)
      handle.retryLater timeout started
    | .error error => Action.fail error
  else handle.retryLater timeout started

/-- the loop, for at most `fuel` rounds -/
def waitReadyFor (timeout started : ℕ) : ℕ → LinkAction LinkReady
  | 0 => Action.fail .running
  | fuel + 1 => do
    match ← handle.waitReadyRound timeout started with
    | some ready => return ready
    | none => waitReadyFor timeout started fuel

def waitReady (timeout fuel : ℕ) : LinkAction LinkReady := do
  let started ← instantNow
  handle.waitReadyFor timeout started fuel

/-- what `health` says before there is a health record -/
def healthBeforeRecord : LinkAction LinkHealth := do
  let streams := linkStreamHealth handle.endpoints handle.startupDegradedStreams
  if ← pathExists handle.readyFile then
    let ready ← readJsonFile handle.readyFile
    return {
      lifecycle := .ready
      ready := true
      endpoints := handle.endpoints
      streams
      degradedStreams := degradedStreamNames streams
      backend := some ready }
  else
    let finished ← threadFinished
    return {
      lifecycle := if finished then .failed else .starting
      ready := false
      endpoints := handle.endpoints
      streams
      degradedStreams := degradedStreamNames streams
      backend := none }

def health : LinkAction LinkHealth := do
  if ← pathExists handle.healthFile then
    let health ← readJsonFile handle.healthFile
    let streams := linkStreamHealth handle.endpoints handle.startupDegradedStreams
    let lifecycle := linkLifecycleFromHealthJson health
    let ready ← match lifecycle with
      | .ready | .degraded | .stopped => pure true
      | _ => pathExists handle.readyFile
    return {
      lifecycle
      ready
      endpoints := handle.endpoints
      streams
      degradedStreams := degradedStreamNames streams
      backend := some health }
  else handle.healthBeforeRecord

def requestStop : LinkAction Unit := storeStopRequested

def join : LinkAction LinkReport := do
  match ← joinThread with
  | .error _ => failLink .joinFailed
  | .ok report =>
    let streams := linkStreamHealth handle.endpoints handle.startupDegradedStreams
    return {
      lifecycle := match report.result with
        | .pass => .stopped
        | .fail => .failed
      endpoints := handle.endpoints
      streams
      degradedStreams := degradedStreamNames streams
      radio := report }

end UserspaceRadioHandle

/-! ## What the handle does to the world -/

section Passes

variable (handle : UserspaceRadioHandle)

theorem readJsonFile_passes (path : String) : Within Passes (readJsonFile path) := by
  refine (observe_passes _).bind fun view => ?_
  cases view with
  | content content => exact .pure content
  | absent | unreadable source | torn source => exact .fail _

theorem failLinkIf_passes (condition : Prop) [Decidable condition] (error : LinkError) :
    Within Passes (failLinkIf condition error) := by
  rw [failLinkIf]
  split_ifs
  · exact .fail _
  · exact .pure ()

theorem retryLater_passes (timeout started : ℕ) : Within Passes (handle.retryLater timeout started) :=
  (observe_passes _).bind fun _ => (failLinkIf_passes _ _).bind fun _ => instantNow_passes.bind fun _ =>
    (failLinkIf_passes _ _).bind fun _ => instantNow_passes.bind fun _ => (failLinkIf_passes _ _).bind fun _ =>
      (sleep_passes _).bind fun _ => .pure none

theorem waitReadyRound_passes (timeout started : ℕ) : Within Passes (handle.waitReadyRound timeout started) := by
  refine (observe_passes _).bind fun found => ?_
  cases found with
  | false => exact retryLater_passes handle timeout started
  | true =>
    refine (Within.attempt (readJsonFile_passes _)).bind fun read => ?_
    rcases read with (_ | error) | ready
    · exact .fail _
    · cases error with
      | json path source =>
        exact instantNow_passes.bind fun _ => (failLinkIf_passes _ _).bind fun _ => retryLater_passes handle timeout started
      | _ => exact .fail _
    · exact .pure _

theorem waitReady_passes (timeout fuel : ℕ) : Within Passes (handle.waitReady timeout fuel) := by
  refine instantNow_passes.bind fun started => ?_
  induction fuel with
  | zero => exact .fail _
  | succ fuel ih =>
    refine (waitReadyRound_passes handle timeout started).bind fun round => ?_
    cases round with
    | some ready => exact .pure ready
    | none => exact ih

theorem health_passes : Within Passes handle.health := by
  refine (observe_passes _).bind fun found => ?_
  cases found with
  | false =>
    refine (observe_passes _).bind fun found => ?_
    split_ifs
    · exact (readJsonFile_passes _).bind fun ready => .pure _
    · exact (observe_passes _).bind fun finished => .pure _
  | true =>
    refine (readJsonFile_passes _).bind fun health => ?_
    dsimp only
    split
    · exact .bind (.pure true) fun _ => .pure _
    · exact .bind (.pure true) fun _ => .pure _
    · exact .bind (.pure true) fun _ => .pure _
    · exact .bind (observe_passes _) fun _ => .pure _

theorem join_passes : Within Passes handle.join := by
  refine joinThread_passes.bind fun outcome => ?_
  cases outcome with
  | error panic => exact .fail _
  | ok report => exact .pure _

end Passes

/-! ## After a failed run -/

theorem view_tick {w : LinkWorld} (h : w.finished = true) (path : String) : w.tick.view path = w.view path := by
  have hdone : w.radio.events.length < w.done := of_decide_eq_true h
  have hlater : w.radio.events.length ≤ w.tick.done := hdone.le.trans (Nat.le_add_right _ _)
  have hall : w.radio.events.take w.tick.done = w.radio.events.take w.done := by
    rw [List.take_of_length_le hlater, List.take_of_length_le hdone.le]
  change w.radio.view path w.tick.done = w.radio.view path w.done
  rw [RadioRun.view, RadioRun.view, hall]

theorem finished_tick {w : LinkWorld} (h : w.finished = true) : w.tick.finished = true := by
  have hdone : w.radio.events.length < w.done := of_decide_eq_true h
  exact decide_eq_true (hdone.trans_le (Nat.le_add_right _ _))

/-- the lifecycle of a health record -/
def FileView.lifecycle : FileView → Option ProductionRuntimeServiceLifecycle
  | .content (.health record) => some record.lifecycle
  | _ => none

theorem FileView.lifecycle_eq {view : FileView} {lifecycle : ProductionRuntimeServiceLifecycle}
    (h : view.lifecycle = some lifecycle) : ∃ record, view = .content (.health record) ∧ record.lifecycle = lifecycle := by
  cases view with
  | content content =>
    cases content with
    | health record => exact ⟨record, rfl, Option.some.inj h⟩
    | readyMarker marker => cases h
  | absent | unreadable source | torn source => cases h

/-- the result of a thread that has not panicked -/
def RadioRun.result (run : RadioRun) : Option ProductionRuntimeFlowResult :=
  match run.outcome with
  | .ok report => some report.result
  | .error _ => none

/-- the thread has finished with result `Fail`, and its health record says so -/
structure FailedRun (handle : UserspaceRadioHandle) (w : LinkWorld) : Prop where
  finished : w.finished = true
  failed : w.radio.result = some .fail
  recorded : (w.view handle.healthFile).lifecycle = some .exitedFail

/-- `health` does not report ready, and `wait_ready` does not return -/
structure NeverReady (handle : UserspaceRadioHandle) (w : LinkWorld) : Prop where
  health : ∀ health w', handle.health w = (.ok health, w') → health.ready = false
  waitReady : ∀ timeout fuel ready w', handle.waitReady timeout fuel w ≠ (.ok ready, w')

section FailedRun

variable {handle : UserspaceRadioHandle} {w : LinkWorld}

theorem FailedRun.tick (h : FailedRun handle w) : FailedRun handle w.tick := by
  obtain ⟨hfinished, hfailed, hrecorded⟩ := h
  refine ⟨finished_tick hfinished, hfailed, ?_⟩
  rwa [view_tick hfinished]

theorem pathExists_finished (hfinished : w.finished = true) (path : String) :
    (pathExists path : LinkAction Bool) w = (.ok (decide (w.view path ≠ .absent)), w.tick) := by
  rw [← view_tick hfinished]
  rfl

theorem readJsonFile_finished (hfinished : w.finished = true) {path : String} {content : FileContent}
    (hview : w.view path = .content content) : readJsonFile path w = (.ok content, w.tick) := by
  have hlook : (observe (fun w => w.view path) : LinkAction FileView) w = (.ok (.content content), w.tick) := by
    rw [← hview, ← view_tick hfinished]
    rfl
  rw [readJsonFile, Action.bind_of_ok hlook]
  rfl

/-- the health of a failed run is `Failed`, and says ready if there is a ready file -/
theorem FailedRun.health (h : FailedRun handle w) :
    ∃ health w', handle.health w = (.ok health, w') ∧ health.lifecycle = .failed ∧
      health.ready = decide (w.view handle.readyFile ≠ .absent) := by
  obtain ⟨record, hview, hlifecycle⟩ := FileView.lifecycle_eq h.tick.recorded
  have hexists : (pathExists handle.healthFile : LinkAction Bool) w = (.ok true, w.tick) := by
    rw [pathExists_finished h.finished, ← view_tick h.finished, hview]
    rfl
  have hread := readJsonFile_finished h.tick.finished hview
  have hfailed : linkLifecycleFromHealthJson (.health record) = .failed := by
    rw [linkLifecycleFromHealthJson, lifecycleField, hlifecycle]
    rfl
  have hready := pathExists_finished h.tick.tick.finished handle.readyFile
  rw [view_tick h.tick.finished, view_tick h.finished] at hready
  rw [UserspaceRadioHandle.health, Action.bind_of_ok hexists, if_pos rfl, Action.bind_of_ok hread]
  dsimp only
  rw [hfailed]
  dsimp only
  rw [Action.bind_of_ok hready]
  exact ⟨_, _, rfl, rfl, rfl⟩

/-- without a ready file, `wait_ready` finds that the thread has finished -/
theorem FailedRun.waitReadyRound (h : FailedRun handle w) (habsent : w.view handle.readyFile = .absent)
    (timeout started : ℕ) :
    ∃ w', handle.waitReadyRound timeout started w = (.error (.failed .backendExitedBeforeReady), w') := by
  have hexists : (pathExists handle.readyFile : LinkAction Bool) w = (.ok false, w.tick) := by
    rw [pathExists_finished h.finished, habsent]
    rfl
  have hfinished : (threadFinished : LinkAction Bool) w.tick = (.ok true, w.tick.tick) := by
    rw [← h.tick.tick.finished]
    rfl
  rw [UserspaceRadioHandle.waitReadyRound, Action.bind_of_ok hexists, if_neg Bool.false_ne_true,
    UserspaceRadioHandle.retryLater, Action.bind_of_ok hfinished, failLinkIf, if_pos rfl]
  exact ⟨_, rfl⟩

/-- **Readiness is stale exactly if there is a ready file.** -/
theorem neverReady_iff (h : FailedRun handle w) : NeverReady handle w ↔ w.view handle.readyFile = .absent := by
  constructor
  · intro hnever
    obtain ⟨health, w', hrun, -, hready⟩ := h.health
    rw [hnever.health health w' hrun] at hready
    exact not_not.1 (of_decide_eq_false hready.symm)
  · intro habsent
    constructor
    · intro health w' hrun
      obtain ⟨health', w'', hrun', -, hready⟩ := h.health
      rw [hrun'] at hrun
      cases hrun
      rw [hready, habsent]
      rfl
    · intro timeout fuel ready w' hrun
      have hnow : (instantNow : LinkAction ℕ) w = (.ok w.tick.now, w.tick) := rfl
      rw [UserspaceRadioHandle.waitReady, Action.bind_of_ok hnow] at hrun
      cases fuel with
      | zero => cases hrun
      | succ fuel =>
        rw [← view_tick h.finished] at habsent
        obtain ⟨w₁, hround⟩ := h.tick.waitReadyRound habsent timeout w.tick.now
        rw [UserspaceRadioHandle.waitReadyFor, Action.bind_of_error hround] at hrun
        cases hrun

end FailedRun

/-! ## Files of a run -/

/-- the run of the thread over the session of its device; nothing as long as its loop is running -/
def RadioRun.ofFlow {ω : Type} (failedWrite : FileView → FileView) :
    Except FlowExit ProductionRuntimeFlowReport × RuntimeRadioSession (RecordedHost ω) → Option RadioRun
  | (.ok report, session) | (.error (.report report), session) =>
    some { events := sessionTrace session, outcome := .ok report, failedWrite }
  | (.error (.panicked panic), session) =>
    some { events := sessionTrace session, outcome := .error panic, failedWrite }
  | (.error .running, _) => none

theorem RadioRun.ofFlow_failedWrite {ω : Type} {failedWrite : FileView → FileView} {run : RadioRun}
    {result : Except FlowExit ProductionRuntimeFlowReport × RuntimeRadioSession (RecordedHost ω)}
    (h : RadioRun.ofFlow failedWrite result = some run) : run.failedWrite = failedWrite := by
  rcases result with ⟨(report | panic) | report, session⟩
  all_goals
    cases h
    try rfl

/-- the thread ran the runtime, from an empty trace and with a health file -/
inductive RunsRuntime (healthFile : String) (run : RadioRun) : Prop
  | intro {ω : Type} [RuntimeHost ω] {start : SessionStart (RecordedHost ω)} (hstart : SilentStart start)
      {config : ProductionRuntimeFlowConfig} (hfile : config.healthFile = some healthFile)
      (inputs : ProductionRuntimeFlowExecutionInputs) (procedures : CalibrationProcedures)
      {runPhase : InitPhaseRunner (RecordedHost ω)} (hregister : RegisterOnly runPhase) (fuel : ℕ)
      {session : RuntimeRadioSession (RecordedHost ω)} (hempty : sessionTrace session = [])
      (hrun : RadioRun.ofFlow run.failedWrite
        (runProductionRuntimeFlow start config inputs procedures runPhase fuel session) = some run)

/-- the records of a thread that passed -/
structure PassedRun (healthFile : String) (run : RadioRun) : Prop where
  wellWritten : ∀ e ∈ run.events, e.WellWritten
  written : ∃ record, .writeFile healthFile record true ∈ run.events

theorem RunsRuntime.passed {healthFile : String} {run : RadioRun} (h : RunsRuntime healthFile run)
    (hpass : run.result = some .pass) : PassedRun healthFile run := by
  obtain ⟨events, outcome, failedWrite⟩ := run
  obtain @⟨ω, host, start, hstart, config, hfile, inputs, procedures, runPhase, hregister, fuel, session, hempty, hrun⟩ := h
  have hflow := @finishing_flow ω [] host config inputs procedures runPhase start hstart hregister fuel session
    (.of_eq hempty)
  rcases hresult : runProductionRuntimeFlow start config inputs procedures runPhase fuel session with
    ⟨(report | panic) | report, session'⟩
  · rw [hresult] at hrun hflow
    cases hrun
    exact absurd (Option.some.inj hpass) hflow
  · rw [hresult] at hrun
    cases hrun
    cases hpass
  · rw [hresult] at hrun
    cases hrun
  · rw [hresult] at hrun hflow
    cases hrun
    obtain ⟨⟨written, htrace, hwell⟩, hwritten⟩ := hflow (Option.some.inj hpass)
    refine ⟨?_, hwritten healthFile hfile⟩
    rw [htrace]
    exact hwell

/-! ## Files of a run that passed -/

/-- the file is absent, or a record that does not say that the run has failed -/
def FileView.Sound (view : FileView) : Prop := view.lifecycle ≠ some .exitedFail

section PassedRun

variable {run : RadioRun} {healthFile : String}

theorem FileView.after_sound {failedWrite : FileView → FileView} {path : String} {view : FileView} {e : RuntimeEvent}
    (he : e.WellWritten) (h : view.Sound) : (FileView.after failedWrite path view e).Sound := by
  cases e with
  | writeFile written content succeeded =>
    rw [FileView.after]
    split_ifs with hpath hsucceeded
    · cases content with
      | readyMarker marker => exact nofun
      | health record => exact fun hfail => he.2 (Option.some.inj hfail)
    · cases content with
      | readyMarker marker => exact absurd he hsucceeded
      | health record => exact absurd he.1 hsucceeded
    · exact h
  | usb _ | phase _ _ | udpBind _ _ | spawnReceiver _ _ => exact h

theorem FileView.after_present {failedWrite : FileView → FileView} {path : String} {view : FileView} {e : RuntimeEvent}
    (he : e.WellWritten) (h : view ≠ .absent) : FileView.after failedWrite path view e ≠ .absent := by
  cases e with
  | writeFile written content succeeded =>
    rw [FileView.after]
    split_ifs with hpath hsucceeded
    · exact nofun
    · cases content with
      | readyMarker marker => exact absurd he hsucceeded
      | health record => exact absurd he.1 hsucceeded
    · exact h
  | usb _ | phase _ _ | udpBind _ _ | spawnReceiver _ _ => exact h

theorem foldl_sound {failedWrite : FileView → FileView} {path : String} {events : List RuntimeEvent}
    (hevents : ∀ e ∈ events, e.WellWritten) {view : FileView} (h : view.Sound) :
    (events.foldl (FileView.after failedWrite path) view).Sound := by
  induction events generalizing view with
  | nil => exact h
  | cons e events ih =>
    exact ih (fun e he => hevents e (List.mem_cons_of_mem _ he)) (FileView.after_sound (hevents e List.mem_cons_self) h)

theorem foldl_present {failedWrite : FileView → FileView} {path : String} {events : List RuntimeEvent}
    (hevents : ∀ e ∈ events, e.WellWritten) {view : FileView} (h : view ≠ .absent) :
    events.foldl (FileView.after failedWrite path) view ≠ .absent := by
  induction events generalizing view with
  | nil => exact h
  | cons e events ih =>
    exact ih (fun e he => hevents e (List.mem_cons_of_mem _ he)) (FileView.after_present (hevents e List.mem_cons_self) h)

theorem PassedRun.view_sound (h : PassedRun healthFile run) (path : String) (done : ℕ) : (run.view path done).Sound :=
  foldl_sound (fun e he => h.wellWritten e (List.mem_of_mem_take he)) nofun

/-- a file that is there stays there -/
theorem PassedRun.view_stays (h : PassedRun healthFile run) {path : String} {done done' : ℕ} (hle : done ≤ done')
    (hview : run.view path done ≠ .absent) : run.view path done' ≠ .absent := by
  have hsplit : run.events.take done' = run.events.take done ++ (run.events.take done').drop done := by
    conv_lhs => rw [← List.take_append_drop done (run.events.take done'), List.take_take, min_eq_left hle]
  rw [RadioRun.view, hsplit, List.foldl_append]
  exact foldl_present (fun e he => h.wellWritten e (List.mem_of_mem_take (List.mem_of_mem_drop he))) hview

end PassedRun

/-! ## A failure that is none -/

section Health

variable {handle : UserspaceRadioHandle} {w w' : LinkWorld}

theorem readJsonFile_ok {path : String} {content : FileContent} (h : readJsonFile path w = (.ok content, w')) :
    w.tick.view path = .content content ∧ w' = w.tick := by
  have hlook : (observe (fun w => w.view path) : LinkAction FileView) w = (.ok (w.tick.view path), w.tick) := rfl
  rw [readJsonFile, Action.bind_of_ok hlook] at h
  cases hview : w.tick.view path with
  | content found =>
    rw [hview] at h
    cases h
    exact ⟨rfl, rfl⟩
  | absent | unreadable source | torn source =>
    rw [hview] at h
    cases h

/-- only a record of a failed run reads as a failure -/
theorem linkLifecycle_failed {content : FileContent} (h : linkLifecycleFromHealthJson content = .failed) :
    (FileView.content content).lifecycle = some .exitedFail := by
  cases content with
  | readyMarker marker => cases h
  | health record =>
    rw [linkLifecycleFromHealthJson, lifecycleField] at h
    cases hlifecycle : record.lifecycle
    all_goals
      rw [hlifecycle] at h
      first
        | exact congrArg some hlifecycle
        | cases h

/-- `health` says that the radio has failed because its record says so, or because it found no record and then a thread
that has finished -/
theorem health_failed {health : LinkHealth} (hrun : handle.health w = (.ok health, w'))
    (hfailed : health.lifecycle = .failed) :
    (w.tick.tick.view handle.healthFile).lifecycle = some .exitedFail ∨
      w.tick.view handle.healthFile = .absent ∧ w'.finished = true := by
  have hfound : (pathExists handle.healthFile : LinkAction Bool) w =
      (.ok (decide (w.tick.view handle.healthFile ≠ .absent)), w.tick) := rfl
  rw [UserspaceRadioHandle.health, Action.bind_of_ok hfound] at hrun
  by_cases habsent : w.tick.view handle.healthFile = .absent
  · refine Or.inr ⟨habsent, ?_⟩
    have hmarker : (pathExists handle.readyFile : LinkAction Bool) w.tick =
        (.ok (decide (w.tick.tick.view handle.readyFile ≠ .absent)), w.tick.tick) := rfl
    have hfinished : (threadFinished : LinkAction Bool) w.tick.tick =
        (.ok w.tick.tick.tick.finished, w.tick.tick.tick) := rfl
    rw [if_neg (by simpa using habsent), UserspaceRadioHandle.healthBeforeRecord, Action.bind_of_ok hmarker] at hrun
    split_ifs at hrun with hready
    · obtain ⟨ready, w₁, -, hreturn⟩ := Action.bind_ok hrun
      cases hreturn
      cases hfailed
    · rw [Action.bind_of_ok hfinished] at hrun
      cases hrun
      by_contra hnot
      rw [Bool.not_eq_true] at hnot
      dsimp only at hfailed
      rw [hnot] at hfailed
      cases hfailed
  · refine Or.inl ?_
    rw [if_pos (by simpa using habsent)] at hrun
    obtain ⟨content, w₁, hread, hrun⟩ := Action.bind_ok hrun
    obtain ⟨hview, rfl⟩ := readJsonFile_ok hread
    rw [hview]
    apply linkLifecycle_failed
    dsimp only at hrun
    cases hlifecycle : linkLifecycleFromHealthJson content with
    | failed => rfl
    | starting | ready | degraded | stopping | stopped =>
      rw [hlifecycle] at hrun
      obtain ⟨ready, w₂, -, hreturn⟩ := Action.bind_ok hrun
      cases hreturn
      cases hfailed

/-- a radio that passes has not failed for `health`, unless it got from its first record to its end in the meantime -/
theorem health_of_passed (hruntime : RunsRuntime handle.healthFile w.radio) (hpass : w.radio.result = some .pass)
    {health : LinkHealth} (hrun : handle.health w = (.ok health, w'))
    (hfair : w.view handle.healthFile ≠ .absent ∨ w'.finished = false) : health.lifecycle ≠ .failed := by
  have hpassed := hruntime.passed hpass
  intro hfailed
  rcases health_failed hrun hfailed with hrecord | ⟨habsent, hfinished⟩
  · exact hpassed.view_sound handle.healthFile w.tick.tick.done hrecord
  · rcases hfair with hview | hrunning
    · exact hpassed.view_stays (passes_tick w).done hview habsent
    · rw [hrunning] at hfinished
      cases hfinished

end Health

/-! ## A marker that stays -/

/-- nothing happens by itself -/
def quietOracle : Oracle where
  delay _ := 0
  ends _ _ := none
  progress _ := 0
  pollError _ := none
  waited _ := .ok (.code 0)

/-- the thread has finished, and there are no helpers -/
def finishedWorld (radio : RadioRun) : LinkWorld where
  oracle := quietOracle
  helpers _ := .running false
  radio := radio
  done := radio.events.length + 1

theorem finishedWorld_finished (radio : RadioRun) : (finishedWorld radio).finished = true :=
  decide_eq_true (Nat.lt_succ_self _)

def sampleRadio : UserspaceRadioHandle where
  endpoints := ⟨[], none⟩
  startupDegradedStreams := []
  readyFile := "ready.json"
  healthFile := "health.json"
  readyPollInterval := 25 * 10 ^ 6

/-- the device is there, and is open at once -/
def sampleStart : SessionStart (RecordedHost WorkingHost) where
  installSignalHandlers := return ()
  openSession := return ()

/-- the runtime of the sample, with a health file -/
def sampleRadioRun (inputs : ProductionRuntimeFlowExecutionInputs) (busy : List SocketAddr) : Option RadioRun :=
  RadioRun.ofFlow id (runProductionRuntimeFlow sampleStart
    { sampleForwardingConfig with healthFile := some "health.json" } inputs noProcedures checkCrPhase 5
    (sampleSession busy))

theorem sampleRadioRun_runsRuntime {inputs : ProductionRuntimeFlowExecutionInputs} {busy : List SocketAddr}
    {run : RadioRun} (hrun : sampleRadioRun inputs busy = some run) : RunsRuntime sampleRadio.healthFile run := by
  have hstart : SilentStart sampleStart := ⟨Emits.pure (), Emits.pure ()⟩
  have hfailedWrite : run.failedWrite = id := RadioRun.ofFlow_failedWrite hrun
  have hempty : sessionTrace (sampleSession busy) = [] := rfl
  rw [sampleRadioRun, ← hfailedWrite] at hrun
  exact .intro hstart rfl inputs noProcedures checkCrPhase_registerOnly 5 hempty hrun

/-- the result of a run, the lifecycle it leaves, and whether its marker stays -/
def RadioRun.leftBehind (run : RadioRun) :
    Option ProductionRuntimeFlowResult × Option ProductionRuntimeServiceLifecycle × Bool :=
  (run.result, ((finishedWorld run).view sampleRadio.healthFile).lifecycle,
    (finishedWorld run).view sampleRadio.readyFile ≠ .absent)

theorem failedRun_of_leftBehind {run : RadioRun} {marker : Bool}
    (h : run.leftBehind = (some .fail, some .exitedFail, marker)) : FailedRun sampleRadio (finishedWorld run) := by
  rw [RadioRun.leftBehind, Prod.mk.injEq, Prod.mk.injEq] at h
  exact ⟨finishedWorld_finished run, h.1, h.2.1⟩

/-- the ingress port of the radio is in use: its thread has failed, and its handle says it is ready -/
theorem stale_marker : ∃ run, sampleRadioRun sampleFlowInputs [occupied] = some run ∧
    FailedRun sampleRadio (finishedWorld run) ∧ ¬ NeverReady sampleRadio (finishedWorld run) := by
  have hleft : (sampleRadioRun sampleFlowInputs [occupied]).map RadioRun.leftBehind =
      some (some .fail, some .exitedFail, true) := by decide +kernel
  obtain ⟨run, hrun, hrest⟩ := Option.map_eq_some_iff.1 hleft
  have hfailed := failedRun_of_leftBehind hrest
  refine ⟨run, hrun, hfailed, fun hnever => ?_⟩
  rw [RadioRun.leftBehind, Prod.mk.injEq, Prod.mk.injEq] at hrest
  obtain ⟨health, w', hhealth, -, hready⟩ := hfailed.health
  rw [hnever.health health w' hhealth] at hready
  exact absurd (hready.trans hrest.2.2) Bool.false_ne_true

/-- a run without what its device needs to start fails before its marker -/
theorem neverReady_iff_sample : ∃ run, sampleRadioRun { sampleFlowInputs with rtl8812auInit := none } [] = some run ∧
    (finishedWorld run).view sampleRadio.readyFile = .absent ∧
    (NeverReady sampleRadio (finishedWorld run) ↔ (finishedWorld run).view sampleRadio.readyFile = .absent) := by
  have hleft : (sampleRadioRun { sampleFlowInputs with rtl8812auInit := none } []).map RadioRun.leftBehind =
      some (some .fail, some .exitedFail, false) := by decide +kernel
  obtain ⟨run, hrun, hrest⟩ := Option.map_eq_some_iff.1 hleft
  have habsent := hrest
  rw [RadioRun.leftBehind, Prod.mk.injEq, Prod.mk.injEq] at habsent
  exact ⟨run, hrun, not_not.1 (of_decide_eq_false habsent.2.2), neverReady_iff (failedRun_of_leftBehind hrest)⟩

end WfbLink.Link
