/-
What a ready record says, and when it is true.

The marker and the health record that says `ready` are written before the sockets of the plan are opened. A run whose
ready record was written has no open socket at that point, and may still fail to open them.

- `readySound_iff`: a run is sound exactly if it does not get to the point where it writes a ready record.
- `busy_port_leaves_marker`: a run that fails on a port in use leaves its marker behind.
-/
import WfbLink.Runtime.FlowSafety

namespace WfbLink.Runtime

open WfbLink.Core WfbLink.RadioCore WfbLink.Bridge

/-! ## Soundness of a run -/

/-- the ready marker, or the health record that says `ready`, was written -/
def RuntimeEvent.IsReadyRecord : RuntimeEvent → Prop
  | .writeFile _ content succeeded => content.kind = .readyRecord ∧ succeeded = true
  | _ => False

instance : DecidablePred RuntimeEvent.IsReadyRecord
  | .writeFile _ content succeeded => inferInstanceAs (Decidable (content.kind = .readyRecord ∧ succeeded = true))
  | .usb _ | .phase _ _ | .udpBind _ _ | .spawnReceiver _ _ => .isFalse id

/-- the sockets of the plan were bound, and their receivers started -/
structure TrafficOpen (plan : ProductionRuntimeWfbLoopPlan) (trace : List RuntimeEvent) : Prop where
  bound : ∀ addr ∈ plan.txBindAddrs, RuntimeEvent.udpBind addr true ∈ trace
  receiving : ∀ addr ∈ plan.txBindAddrs, RuntimeEvent.spawnReceiver addr true ∈ trace
  forwarding : ∀ forward ∈ plan.rxForwards, forward.aggregator.isSome →
    RuntimeEvent.udpBind rxForwardBindAddr true ∈ trace

section Sound

variable {ω : Type} [RuntimeHost ω] (config : ProductionRuntimeFlowConfig)
  (inputs : ProductionRuntimeFlowExecutionInputs) (procedures : CalibrationProcedures)
  (runPhase : InitPhaseRunner (RecordedHost ω))

/-- whenever a ready record has been written, traffic is open, and the run enters its loop -/
def ReadySound (fuel : ℕ) (start : RuntimeRadioSession (RecordedHost ω)) : Prop :=
  ∀ before e after, sessionTrace (runProductionRuntimeFlowWithSession config inputs procedures runPhase fuel start).2 =
      sessionTrace start ++ before ++ e :: after → e.IsReadyRecord →
    (∃ validation, config.validate = .ok validation ∧ TrafficOpen validation.wfbLoop before) ∧
      ∃ entered session, enterLoop config inputs procedures runPhase start = (.ok entered, session)

/-- the marker as it is written now -/
def markerNow (prepared : PreparedFlow) (host : RecordedHost ω) : FileContent :=
  .readyMarker { productionRuntimeReadyMarker config prepared.validation prepared.init prepared.preLoop with
    readyAtUnixMs := some (runtimeUnixMs host).1 }

/-- the health record that says `ready`, as it is written now -/
def readyHealthNow (prepared : PreparedFlow) (session : RuntimeRadioSession (RecordedHost ω)) : FileContent :=
  .health (.fromReport (.fromState config
    { prepared.state with endpoints := some session.endpoints, counters := session.counters } "ready"
    (.idle config.airtimeSchedule) .pass none) .ready config.healthFile (runtimeUnixMs session.transport).1)

/-- the next thing the run does is write a ready record, and the write succeeds -/
inductive WritesReadyRecord (prepared : PreparedFlow) (session : RuntimeRadioSession (RecordedHost ω)) : Prop
  | marker {path : String} (hpath : config.readyFile = some path)
      (hwrite : (writeFile (runtimeUnixMs session.transport).2 path (markerNow config prepared session.transport)).1 =
        .ok ())
  | health {path : String} (hmarker : config.readyFile = none) (hpath : config.healthFile = some path)
      (hwrite : (writeFile (runtimeUnixMs session.transport).2 path (readyHealthNow config prepared session)).1 = .ok ())

/-- the run gets to the point where it announces that it is ready -/
def Announces (start : RuntimeRadioSession (RecordedHost ω)) (prepared : PreparedFlow)
    (session : RuntimeRadioSession (RecordedHost ω)) : Prop :=
  (prepareFlow procedures runPhase config inputs >>= kickRx config) start = (.ok prepared, session)

end Sound

/-! ## What the announcement leaves -/

theorem ok_of_isOk {result : Except WriteFileError Unit} (h : result.isOk = true) : result = .ok () := by
  cases result with
  | error error => cases h
  | ok => rfl

section Announce

variable {ω α : Type} [RuntimeHost ω] {kinds : List EventKind} {config : ProductionRuntimeFlowConfig}
  {prepared : PreparedFlow} {session : RuntimeRadioSession (RecordedHost ω)}

theorem RuntimeEvent.IsReadyRecord.kind_eq {e : RuntimeEvent} (h : e.IsReadyRecord) : e.kind = .readyRecord := by
  cases e with
  | writeFile path content succeeded => exact h.1
  | usb event => exact h.elim
  | phase phase succeeded => exact h.elim
  | udpBind addr succeeded => exact h.elim
  | spawnReceiver addr succeeded => exact h.elim

/-- no ready record is written -/
abbrev Unready (earlier later : List RuntimeEvent) : Prop := Extends (fun e => ¬ e.IsReadyRecord) earlier later

theorem unready_of_appends {earlier later : List RuntimeEvent} (h : Appends kinds earlier later)
    (hk : .readyRecord ∉ kinds) : Unready earlier later := by
  refine Extends.mono h fun e he hready => hk ?_
  rw [← hready.kind_eq]
  exact he

theorem writeFile_recorded {host host' : RecordedHost ω} {path : String} {content : FileContent}
    {result : Except WriteFileError Unit} (h : writeFile host path content = (result, host')) :
    host'.events = host.events ++ [.writeFile path content result.isOk] := by
  have hresult : result = (writeFile host path content).1 := by rw [h]
  have hhost : host' = (writeFile host path content).2 := by rw [h]
  rw [hresult, hhost]
  rfl

/-- a write of a file leaves one event, whether it succeeds or not -/
theorem readyMarker_run (path : String) (marker : ProductionRuntimeReadyMarker) {content : FileContent}
    {result : Except WriteFileError Unit} {host : RecordedHost ω}
    (hcontent : content = .readyMarker { marker with readyAtUnixMs := some (runtimeUnixMs session.transport).1 })
    (hwrite : writeFile (runtimeUnixMs session.transport).2 path content = (result, host)) :
    ∃ outcome, writeProductionRuntimeReadyMarker (some path) marker session =
        (outcome, { session with transport := host }) ∧ (result = .ok () → outcome = .ok ()) ∧
      (result ≠ .ok () → ∃ error, outcome = .error (.failed error)) := by
  subst hcontent
  have hfile : (onHost (fun host => writeFile host path
      (.readyMarker { marker with readyAtUnixMs := some (runtimeUnixMs session.transport).1 })) : SessionAction _ _)
      { session with transport := (runtimeUnixMs session.transport).2 } =
        (.ok result, { session with transport := host }) := by
    rw [onHost, Action.ofState_run]
    dsimp only
    rw [hwrite]
  have hclock : (onHost runtimeUnixMs : SessionAction (RecordedHost ω) _) session =
      (.ok (runtimeUnixMs session.transport).1, { session with transport := (runtimeUnixMs session.transport).2 }) := rfl
  rw [writeProductionRuntimeReadyMarker, Action.bind_of_ok hclock, Action.bind_of_ok hfile]
  rcases result with (text | text) | ⟨⟩
  · exact ⟨_, rfl, nofun, fun _ => ⟨_, rfl⟩⟩
  · exact ⟨_, rfl, nofun, fun _ => ⟨_, rfl⟩⟩
  · exact ⟨_, rfl, fun _ => rfl, fun h => absurd rfl h⟩

theorem serviceHealth_run (path : String) (health : ProductionRuntimeServiceHealth)
    {result : Except WriteFileError Unit} {host : RecordedHost ω}
    (hwrite : writeFile session.transport path (.health health) = (result, host)) :
    ∃ outcome, writeProductionRuntimeServiceHealth (some path) health session =
        (outcome, { session with transport := host }) ∧ (result = .ok () → outcome = .ok ()) ∧
      (result ≠ .ok () → ∃ error, outcome = .error (.failed error)) := by
  have hfile : (onHost (fun host => writeFile host path (.health health)) : SessionAction _ _) session =
      (.ok result, { session with transport := host }) := by
    rw [onHost, Action.ofState_run]
    dsimp only
    rw [hwrite]
  rw [writeProductionRuntimeServiceHealth, Action.bind_of_ok hfile]
  rcases result with (text | text) | ⟨⟩
  · exact ⟨_, rfl, nofun, fun _ => ⟨_, rfl⟩⟩
  · exact ⟨_, rfl, nofun, fun _ => ⟨_, rfl⟩⟩
  · exact ⟨_, rfl, fun _ => rfl, fun h => absurd rfl h⟩

omit [RuntimeHost ω] in
theorem orReturn_of_ok {step : SessionAction ω α}
    {onError : RuntimeRadioError → FlowAction ω ProductionRuntimeFlowReport} {a : α} {s s' : RuntimeRadioSession ω}
    (h : step s = (.ok a, s')) : orReturn step onError s = (.ok a, s') := by
  have hattempt : (Action.attempt step : FlowAction ω _) s = (.ok (.ok a), s') := by rw [Action.attempt_run, h]
  rw [orReturn, Action.bind_of_ok hattempt]
  rfl

omit [RuntimeHost ω] in
theorem orReturn_of_error {step : SessionAction ω α}
    {onError : RuntimeRadioError → FlowAction ω ProductionRuntimeFlowReport} {error : RuntimeRadioError}
    {s s' : RuntimeRadioSession ω} (h : step s = (.error (.failed error), s')) :
    orReturn step onError s = (onError error >>= fun report => Action.fail (.report report)) s' := by
  have hattempt : (Action.attempt step : FlowAction ω _) s = (.ok (.error (.failed error)), s') := by
    rw [Action.attempt_run, h]
  rw [orReturn, Action.bind_of_ok hattempt]

/-- the second half of the announcement -/
def announceHealth (config : ProductionRuntimeFlowConfig) (prepared : PreparedFlow) : FlowAction ω Unit := do
  let readyReport ← productionRuntimeFlowReportFromState config prepared.state "ready" (.idle config.airtimeSchedule)
    .pass none
  orReturn (writeHealthFromReport config readyReport .ready) fun error =>
    productionRuntimeFlowReportFromState config prepared.state "not_started" (.idle config.airtimeSchedule) .fail
      (some error)

theorem leaves_announceHealth :
    Leaves [.readyRecord] (announceHealth config prepared : FlowAction (RecordedHost ω) Unit) :=
  Emits.bind (Emits.read _) fun _ => leaves_orReturn (leaves_healthFromReport (by decide)) fun _ => Emits.read _

/-- the health record is the only thing that the second half writes -/
theorem announceHealth_trace {path : String} (hpath : config.healthFile = some path) :
    sessionTrace (announceHealth config prepared session).2 = sessionTrace session ++
      [.writeFile path (readyHealthNow config prepared session)
        (writeFile (runtimeUnixMs session.transport).2 path (readyHealthNow config prepared session)).1.isOk] := by
  rcases hrun : writeFile (runtimeUnixMs session.transport).2 path (readyHealthNow config prepared session) with
    ⟨result, host⟩
  obtain ⟨outcome, hhealth, hok, herror⟩ := @serviceHealth_run ω _ { session with
    transport := (runtimeUnixMs session.transport).2 } path _ _ _ hrun
  have hwritten : (writeHealthFromReport config (.fromState config
      { prepared.state with endpoints := some session.endpoints, counters := session.counters } "ready"
      (.idle config.airtimeSchedule) .pass none) .ready : SessionAction (RecordedHost ω) Unit) session =
        (outcome, { session with transport := host }) := by
    have hclock : (onHost runtimeUnixMs : SessionAction (RecordedHost ω) _) session =
      (.ok (runtimeUnixMs session.transport).1, { session with transport := (runtimeUnixMs session.transport).2 }) := rfl
    rw [writeHealthFromReport, Action.bind_of_ok hclock, hpath]
    rw [hpath] at hhealth
    exact hhealth
  have htrace := writeFile_recorded hrun
  rw [announceHealth, productionRuntimeFlowReportFromState, Action.bind_of_ok (Action.read_run _ _)]
  by_cases hresult : result = .ok ()
  · rw [hok hresult] at hwritten
    rw [orReturn_of_ok hwritten]
    exact htrace
  · obtain ⟨error, rfl⟩ := herror hresult
    rw [orReturn_of_error hwritten]
    exact htrace

/-- a ready record that is about to be written comes next in the trace -/
theorem announceReady_writes (h : WritesReadyRecord config prepared session) :
    ∃ e, e.IsReadyRecord ∧ ∃ after,
      sessionTrace (announceReady config prepared session).2 = sessionTrace session ++ e :: after := by
  cases h with
  | @marker path hpath hwrite =>
    rcases hrun : writeFile (runtimeUnixMs session.transport).2 path (markerNow config prepared session.transport) with
      ⟨result, host⟩
    obtain rfl : result = .ok () := by rw [← hwrite, hrun]
    obtain ⟨outcome, hmarker, hok, -⟩ := readyMarker_run path
      (productionRuntimeReadyMarker config prepared.validation prepared.init prepared.preLoop) rfl hrun
    rw [hok rfl] at hmarker
    obtain ⟨after, htrace, -⟩ := @leaves_announceHealth ω _ config prepared
      { session with transport := host }
    refine ⟨.writeFile path (markerNow config prepared session.transport) true, ⟨rfl, rfl⟩, after, ?_⟩
    rw [announceReady, hpath, Action.bind_of_ok (orReturn_of_ok hmarker)]
    refine htrace.trans ?_
    rw [sessionTrace, writeFile_recorded hrun, List.append_assoc]
    rfl
  | @health path hmarker hpath hwrite =>
    have hnone : (writeProductionRuntimeReadyMarker config.readyFile (productionRuntimeReadyMarker config
        prepared.validation prepared.init prepared.preLoop) : SessionAction (RecordedHost ω) Unit) session =
          (.ok (), session) := by
      rw [hmarker]
      rfl
    refine ⟨.writeFile path (readyHealthNow config prepared session) true, ⟨rfl, rfl⟩, [], ?_⟩
    rw [announceReady, Action.bind_of_ok (orReturn_of_ok hnone)]
    refine (announceHealth_trace hpath).trans ?_
    rw [hwrite]
    rfl

/-- without that, the announcement leaves no ready record, and fails where it has one to write -/
theorem announceReady_unready (h : ¬ WritesReadyRecord config prepared session) :
    Unready (sessionTrace session) (sessionTrace (announceReady config prepared session).2) := by
  cases hready : config.readyFile with
  | none =>
    have hnone : (writeProductionRuntimeReadyMarker config.readyFile (productionRuntimeReadyMarker config
        prepared.validation prepared.init prepared.preLoop) : SessionAction (RecordedHost ω) Unit) session =
          (.ok (), session) := by
      rw [hready]
      rfl
    rw [announceReady, Action.bind_of_ok (orReturn_of_ok hnone)]
    change Unready _ (sessionTrace (announceHealth config prepared session).2)
    cases hhealth : config.healthFile with
    | none =>
      refine .of_eq ?_
      rw [announceHealth, productionRuntimeFlowReportFromState, Action.bind_of_ok (Action.read_run _ _),
        writeHealthFromReport, hhealth]
      rfl
    | some path =>
      rw [announceHealth_trace hhealth]
      refine .single _ ?_
      rintro ⟨-, hwrite⟩
      exact h (.health hready hhealth (ok_of_isOk hwrite))
  | some path =>
    rcases hrun : writeFile (runtimeUnixMs session.transport).2 path (markerNow config prepared session.transport) with
      ⟨result, host⟩
    obtain ⟨outcome, hmarker, -, herror⟩ := readyMarker_run path
      (productionRuntimeReadyMarker config prepared.validation prepared.init prepared.preLoop) rfl hrun
    have hresult : result ≠ .ok () := by
      rintro rfl
      exact h (.marker hready (by rw [hrun]))
    obtain ⟨error, rfl⟩ := herror hresult
    have hfailed : Unready (sessionTrace session) host.events := by
      rw [writeFile_recorded hrun]
      refine .single _ ?_
      rintro ⟨-, hwrite⟩
      exact hresult (ok_of_isOk hwrite)
    have hreport : Leaves [.record] (failedReport config prepared.state error >>= fun report =>
        Action.fail (.report report) : FlowAction (RecordedHost ω) Unit) :=
      Emits.bind (leaves_failedReport (by decide) error) fun _ => Emits.fail _
    have hstep : (orReturn (writeProductionRuntimeReadyMarker config.readyFile (productionRuntimeReadyMarker config
        prepared.validation prepared.init prepared.preLoop)) (failedReport config prepared.state) :
          FlowAction (RecordedHost ω) Unit) session =
        (failedReport config prepared.state error >>= fun report => Action.fail (.report report))
          { session with transport := host } := by
      rw [hready, orReturn_of_error hmarker]
    rcases hend : (failedReport config prepared.state error >>= fun report => Action.fail (.report report) :
        FlowAction (RecordedHost ω) Unit) { session with transport := host } with ⟨exit | ⟨⟩, session'⟩
    · rw [announceReady, Action.bind_of_error (hstep.trans hend)]
      have hreport := hreport { session with transport := host }
      rw [hend] at hreport
      exact hfailed.trans (unready_of_appends hreport (by decide))
    · obtain ⟨report, s₁, _, hfail⟩ := Action.bind_ok hend
      cases hfail

end Announce

/-! ## The run -/

section Run

variable {ω : Type} [RuntimeHost ω] {config : ProductionRuntimeFlowConfig}
  {inputs : ProductionRuntimeFlowExecutionInputs} {procedures : CalibrationProcedures}
  {runPhase : InitPhaseRunner (RecordedHost ω)} {fuel : ℕ}

/-- the kinds of events before the announcement -/
def beforeReadyKinds : List EventKind := [.register, .bulkOut, .record]

theorem leaves_untilReady (hregister : RegisterOnly runPhase) :
    Leaves beforeReadyKinds (prepareFlow procedures runPhase config inputs >>= kickRx config) :=
  Emits.bind (leaves_prepareFlow (fun phase => (hregister phase).mono (by decide)) (by decide) (by decide)) fun _ =>
    leaves_kickRx (by decide) (by decide)

theorem runFlow_eq_announce (runPhase : InitPhaseRunner ω) :
    runProductionRuntimeFlowWithSession config inputs procedures runPhase fuel =
      (prepareFlow procedures runPhase config inputs >>= kickRx config) >>= fun prepared =>
        announceReady config prepared >>= fun _ => afterReady config inputs fuel prepared := by
  rw [runFlow_eq, Action.bind_assoc]
  rfl

theorem run_unready (hregister : RegisterOnly runPhase) (start : RuntimeRadioSession (RecordedHost ω))
    (h : ∀ prepared session, Announces config inputs procedures runPhase start prepared session →
      ¬ WritesReadyRecord config prepared session) :
    Unready (sessionTrace start)
      (sessionTrace (runProductionRuntimeFlowWithSession config inputs procedures runPhase fuel start).2) := by
  have huntil := unready_of_appends (@leaves_untilReady ω _ config inputs procedures _ hregister start) (by decide)
  rw [runFlow_eq_announce]
  rcases hrun : (prepareFlow procedures runPhase config inputs >>= kickRx config) start with ⟨exit | prepared, session⟩
  · rw [hrun] at huntil
    rw [Action.bind_of_error hrun]
    exact huntil
  rw [hrun] at huntil
  rw [Action.bind_of_ok hrun]
  have hannounce := huntil.trans (announceReady_unready (h prepared session hrun))
  rcases hrun' : announceReady config prepared session with ⟨exit | ⟨⟩, session'⟩
  · rw [hrun'] at hannounce
    rw [Action.bind_of_error hrun']
    exact hannounce
  · rw [hrun'] at hannounce
    rw [Action.bind_of_ok hrun']
    have hrest : Leaves [.register, .bulkIn, .bulkOut, .record, .socket]
        (afterReady config inputs fuel prepared : FlowAction (RecordedHost ω) _) :=
      leaves_afterReady (by decide) (by decide) (by decide) fuel prepared
    exact hannounce.trans (unready_of_appends (hrest session') (by decide))

/-- a ready record that is written comes before any socket -/
theorem run_announces (hregister : RegisterOnly runPhase) {start session : RuntimeRadioSession (RecordedHost ω)}
    {prepared : PreparedFlow} (hannounce : Announces config inputs procedures runPhase start prepared session)
    (hwrites : WritesReadyRecord config prepared session) :
    ∃ before e after,
      sessionTrace (runProductionRuntimeFlowWithSession config inputs procedures runPhase fuel start).2 =
        sessionTrace start ++ before ++ e :: after ∧ e.IsReadyRecord ∧ ∀ e ∈ before, e.kind ∈ beforeReadyKinds := by
  obtain ⟨before, htrace, hbefore⟩ := @leaves_untilReady ω _ config inputs procedures _ hregister start
  obtain ⟨e, he, after, hrecord⟩ := announceReady_writes hwrites
  rw [hannounce] at htrace
  rw [runFlow_eq_announce, Action.bind_of_ok hannounce]
  rcases hrun : announceReady config prepared session with ⟨exit | ⟨⟩, session'⟩
  · rw [hrun, htrace] at hrecord
    rw [Action.bind_of_error hrun]
    exact ⟨before, e, after, hrecord, he, hbefore⟩
  · rw [hrun, htrace] at hrecord
    have hrest : Leaves [.register, .bulkIn, .bulkOut, .record, .socket]
        (afterReady config inputs fuel prepared : FlowAction (RecordedHost ω) _) :=
      leaves_afterReady (by decide) (by decide) (by decide) fuel prepared
    obtain ⟨rest, htrace', -⟩ := hrest session'
    rw [Action.bind_of_ok hrun]
    refine ⟨before, e, after ++ rest, ?_, he, hbefore⟩
    rw [htrace', hrecord, List.append_assoc, List.cons_append]

/-- **A run is sound exactly if it writes no ready record.** -/
theorem readySound_iff (hregister : RegisterOnly runPhase) (start : RuntimeRadioSession (RecordedHost ω)) :
    ReadySound config inputs procedures runPhase fuel start ↔
      ∀ prepared session, Announces config inputs procedures runPhase start prepared session →
        ¬ WritesReadyRecord config prepared session := by
  constructor
  · intro hsound prepared session hannounce hwrites
    obtain ⟨before, e, after, htrace, he, hbefore⟩ := @run_announces _ _ _ _ _ _ fuel hregister _ _ _ hannounce hwrites
    obtain ⟨⟨validation, hvalid, hopen⟩, -⟩ := hsound before e after htrace he
    have hbound : RuntimeEvent.udpBind config.bindAddr true ∈ before := by
      apply hopen.bound
      rw [validate_txBindAddrs hvalid]
      exact List.mem_cons_self
    have hkind : EventKind.socket ∈ beforeReadyKinds := hbefore _ hbound
    exact absurd hkind (by decide)
  · intro hquiet before e after htrace he
    obtain ⟨written, hwritten, hunready⟩ := @run_unready _ _ _ _ _ _ fuel hregister start hquiet
    refine absurd he (hunready e ?_)
    rw [htrace, List.append_assoc] at hwritten
    rw [← List.append_cancel_left hwritten]
    simp

end Run

/-! ## A port in use -/

def occupied : SocketAddr := ⟨"127.0.0.1", 5600⟩

/-- **The marker is left behind.** The port of the ingress is in use: the run writes its marker, cannot bind, and fails
without having entered its loop. -/
theorem busy_port_leaves_marker :
    (∃ e ∈ sessionTrace (runProductionRuntimeFlowWithSession sampleForwardingConfig sampleFlowInputs noProcedures
      checkCrPhase 5 (sampleSession [occupied])).2, e.IsReadyRecord) ∧
    (∀ entered session, enterLoop sampleForwardingConfig sampleFlowInputs noProcedures checkCrPhase
      (sampleSession [occupied]) ≠ (.ok entered, session)) ∧
    ¬ ReadySound sampleForwardingConfig sampleFlowInputs noProcedures checkCrPhase 5 (sampleSession [occupied]) := by
  have hmarker : ∃ e ∈ sessionTrace (runProductionRuntimeFlowWithSession sampleForwardingConfig sampleFlowInputs
      noProcedures checkCrPhase 5 (sampleSession [occupied])).2, e.IsReadyRecord := by decide +kernel
  have hfails : (enterLoop sampleForwardingConfig sampleFlowInputs noProcedures checkCrPhase
      (sampleSession [occupied])).1.isOk = false := by decide +kernel
  have hentered : ∀ entered session, enterLoop sampleForwardingConfig sampleFlowInputs noProcedures checkCrPhase
      (sampleSession [occupied]) ≠ (.ok entered, session) := by
    intro entered session hrun
    rw [hrun] at hfails
    cases hfails
  refine ⟨hmarker, hentered, fun hsound => ?_⟩
  obtain ⟨e, he, hready⟩ := hmarker
  obtain ⟨before, after, htrace⟩ := List.append_of_mem he
  obtain ⟨-, entered, session, hrun⟩ := hsound before e after htrace hready
  exact hentered entered session hrun

/-- the same run in a world whose port is free, with the condition of the theorem in its place -/
theorem readySound_iff_sample :
    ReadySound sampleForwardingConfig sampleFlowInputs noProcedures checkCrPhase 5 (sampleSession []) ↔
      ∀ prepared session, Announces sampleForwardingConfig sampleFlowInputs noProcedures checkCrPhase
          (sampleSession []) prepared session →
        ¬ WritesReadyRecord sampleForwardingConfig prepared session :=
  readySound_iff checkCrPhase_registerOnly (sampleSession [])

end WfbLink.Runtime
