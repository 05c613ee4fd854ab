/-
The production bridge loop (`run_production_bridge_loop`).

Each iteration checks the stop conditions, samples the clock once, and on that instant decides whether a burst of TX
steps may run; then it reads RX once. What a step does is up to the caller: the loop sees a world with hooks.

- `runProductionBridgeLoop_gated`: every TX step belongs to an iteration whose instant the airtime schedule allows, and
  no iteration has more of them than the burst limit.
- `burst_outlives_its_window`: the instant of the iteration is not the instant of the step.
-/
import WfbLink.Core.Action
import WfbLink.Core.Trace
import WfbLink.Runtime.Airtime

namespace WfbLink.Runtime

open WfbLink.Core

/-- durations are nanoseconds -/
structure ProductionRuntimeBridgeLoopRunConfig where
  duration : Option ℕ
  rxTimeout : ℕ
  txBurstLimit : UInt32
  txMinInterval : ℕ
  maxDatagrams : UInt64
  airtimeSchedule : ProductionRuntimeAirtimeSchedule

def ProductionRuntimeBridgeLoopRunConfig.fromBounds (durationMs rxTimeoutMs : UInt64) (txBurstLimit : UInt32)
    (maxDatagrams : UInt64) : ProductionRuntimeBridgeLoopRunConfig :=
  { duration := if durationMs ≠ 0 then some (durationMs.toNat * 10 ^ 6) else none
    rxTimeout := rxTimeoutMs.toNat * 10 ^ 6
    txBurstLimit
    txMinInterval := 0
    maxDatagrams
    airtimeSchedule := .continuous }

def ProductionRuntimeBridgeLoopRunConfig.withTxMinInterval (config : ProductionRuntimeBridgeLoopRunConfig)
    (txMinIntervalUs : UInt64) : ProductionRuntimeBridgeLoopRunConfig :=
  { config with txMinInterval := txMinIntervalUs.toNat * 10 ^ 3 }

def ProductionRuntimeBridgeLoopRunConfig.withAirtimeSchedule (config : ProductionRuntimeBridgeLoopRunConfig)
    (airtimeSchedule : ProductionRuntimeAirtimeSchedule) : ProductionRuntimeBridgeLoopRunConfig :=
  { config with airtimeSchedule }

inductive ProductionRuntimeBridgeLoopStopReason where
  | signal
  | durationElapsed
  | txDatagramLimit
deriving DecidableEq, Repr

inductive ProductionRuntimeBridgeLoopStep where
  | tryTx
  | readRx (timeout : ℕ)
deriving DecidableEq, Repr

inductive ProductionRuntimeBridgeLoopStepOutcome where
  | txProcessed
  | txEmpty
  | txDisconnected
  | rxRead
  | rxTimeout
  | stop (reason : ProductionRuntimeBridgeLoopStopReason)
deriving DecidableEq, Repr

structure ProductionRuntimeBridgeLoopOutcome where
  stopReason : ProductionRuntimeBridgeLoopStopReason
  txDatagramsProcessed : UInt64
  iterations : UInt64
  txPolls : UInt64
  rxPolls : UInt64
  airtimeTxAllowedIterations : UInt64
  airtimeTxGatedIterations : UInt64

/-- the clock and the closures of the caller, on its world -/
structure BridgeLoopHooks (ω ε : Type) where
  instantNow : ω → ℕ × ω
  onIterationStart : ℕ → ω → ω
  stopRequested : ω → Bool × ω
  handleStep : ProductionRuntimeBridgeLoopStep → ω → Except ε ProductionRuntimeBridgeLoopStepOutcome × ω

/-- the variables of the loop -/
structure BridgeLoopState (ω : Type) where
  host : ω
  started : ℕ
  deadline : Option ℕ
  txDatagramsProcessed : UInt64 := 0
  iterations : UInt64 := 0
  txPolls : UInt64 := 0
  rxPolls : UInt64 := 0
  airtimeTxAllowedIterations : UInt64 := 0
  airtimeTxGatedIterations : UInt64 := 0
  lastTxProcessedAt : Option ℕ := none

def BridgeLoopState.outcome {ω : Type} (s : BridgeLoopState ω) (stopReason : ProductionRuntimeBridgeLoopStopReason) :
    ProductionRuntimeBridgeLoopOutcome where
  stopReason
  txDatagramsProcessed := s.txDatagramsProcessed
  iterations := s.iterations
  txPolls := s.txPolls
  rxPolls := s.rxPolls
  airtimeTxAllowedIterations := s.airtimeTxAllowedIterations
  airtimeTxGatedIterations := s.airtimeTxGatedIterations

/-- how an iteration leaves the loop: `return Ok(..)`, or an error of a step -/
inductive BridgeLoopExit (ε : Type) where
  | stop (reason : ProductionRuntimeBridgeLoopStopReason)
  | failed (e : ε)
deriving DecidableEq, Repr

abbrev LoopAction (ω ε α : Type) := Action (BridgeLoopState ω) (BridgeLoopExit ε) α

section Loop

variable {ω ε : Type} (hooks : BridgeLoopHooks ω ε) (config : ProductionRuntimeBridgeLoopRunConfig)

def onWorld {α : Type} (f : ω → α × ω) : LoopAction ω ε α :=
  Action.ofState fun s => ((f s.host).1, { s with host := (f s.host).2 })

def stopLoop (reason : ProductionRuntimeBridgeLoopStopReason) : LoopAction ω ε Unit := Action.fail (.stop reason)

def handleLoopStep (step : ProductionRuntimeBridgeLoopStep) :
    LoopAction ω ε ProductionRuntimeBridgeLoopStepOutcome := do
  match ← onWorld (hooks.handleStep step) with
  | .error e => Action.fail (.failed e)
  | .ok outcome => return outcome

/-- may another datagram be started -/
def mayTransmit (now : ℕ) (s : BridgeLoopState ω) : Bool :=
  (config.maxDatagrams = 0 ∨ s.txDatagramsProcessed < config.maxDatagrams) ∧
    ∀ lastTxProcessedAt ∈ s.lastTxProcessedAt, ¬ now - lastTxProcessedAt < config.txMinInterval

/-- the `while` of the TX burst, with `tx_burst_limit - tx_burst_count` to go -/
def txBurst (now : ℕ) : ℕ → LoopAction ω ε Unit
  | 0 => return ()
  | remaining + 1 => do
    if !(← Action.read (mayTransmit config now)) then return ()
    Action.modify fun s => { s with txPolls := satAdd s.txPolls 1 }
    match ← handleLoopStep hooks .tryTx with
    | .txProcessed =>
      Action.modify fun s => { s with txDatagramsProcessed := satAdd s.txDatagramsProcessed 1 }
      let processedAt ← onWorld hooks.instantNow
      Action.modify fun s => { s with lastTxProcessedAt := some processedAt }
      txBurst now remaining
    | .txEmpty | .txDisconnected => return ()
    | .stop reason => stopLoop reason
    | .rxRead | .rxTimeout => return ()

/-- the checks at the top of an iteration -/
def checkStop : LoopAction ω ε Unit := do
  if ← onWorld hooks.stopRequested then stopLoop .signal
  match ← Action.read BridgeLoopState.deadline with
  | some deadline =>
    let now ← onWorld hooks.instantNow
    if now ≥ deadline then stopLoop .durationElapsed
  | none =>
    let txDatagramsProcessed ← Action.read BridgeLoopState.txDatagramsProcessed
    if config.maxDatagrams ≠ 0 ∧ txDatagramsProcessed ≥ config.maxDatagrams then stopLoop .txDatagramLimit

/-- the burst, where the schedule allows one at `now` -/
def transmit (now : ℕ) : LoopAction ω ε Unit := do
  let started ← Action.read BridgeLoopState.started
  if config.airtimeSchedule.txAllowedAtElapsed (now - started) then
    Action.modify fun s => { s with airtimeTxAllowedIterations := satAdd s.airtimeTxAllowedIterations 1 }
    txBurst hooks config now config.txBurstLimit.toNat
  else
    Action.modify fun s => { s with airtimeTxGatedIterations := satAdd s.airtimeTxGatedIterations 1 }

/-- the time left for the RX step -/
def rxTimeout : LoopAction ω ε ℕ := do
  match ← Action.read BridgeLoopState.deadline with
  | some deadline =>
    let now ← onWorld hooks.instantNow
    if deadline - now = 0 then Action.fail (.stop .durationElapsed) else return min config.rxTimeout (deadline - now)
  | none => return config.rxTimeout

def receive (timeout : ℕ) : LoopAction ω ε Unit := do
  Action.modify fun s => { s with rxPolls := satAdd s.rxPolls 1 }
  match ← handleLoopStep hooks (.readRx timeout) with
  | .rxRead | .rxTimeout => return ()
  | .stop reason => stopLoop reason
  | .txProcessed | .txEmpty | .txDisconnected => return ()

/-- the body of the `loop` -/
def iteration : LoopAction ω ε Unit := do
  Action.modify fun s => { s with iterations := satAdd s.iterations 1 }
  checkStop hooks config
  let now ← onWorld hooks.instantNow
  onWorld fun host => ((), hooks.onIterationStart now host)
  transmit hooks config now
  let timeout ← rxTimeout hooks config
  receive hooks timeout

def BridgeLoopState.start (host : ω) : BridgeLoopState ω :=
  let (started, host) := hooks.instantNow host
  { host, started, deadline := config.duration.map (started + ·) }

abbrev BridgeLoopResult (ω ε : Type) := Except ε ProductionRuntimeBridgeLoopOutcome × ω

def turn (s : BridgeLoopState ω) : Looped (BridgeLoopState ω) (BridgeLoopResult ω ε) :=
  match iteration hooks config s with
  | (.ok (), s) => .running s
  | (.error (.stop reason), s) => .stopped (.ok (s.outcome reason), s.host)
  | (.error (.failed e), s) => .stopped (.error e, s.host)

def runProductionBridgeLoop (host : ω) (fuel : ℕ) : Looped (BridgeLoopState ω) (BridgeLoopResult ω ε) :=
  loopFor (turn hooks config) fuel (BridgeLoopState.start hooks config host)

end Loop

/-! ## What a caller can observe -/

/-- the calls of the loop that concern airtime; a step with the instant it is issued at -/
inductive BridgeLoopEvent where
  | iterationStart (now : ℕ)
  | step (step : ProductionRuntimeBridgeLoopStep) (issuedAt : ℕ)
deriving DecidableEq, Repr

structure Traced (ω : Type) where
  host : ω
  trace : List BridgeLoopEvent

/-- the same hooks, with a trace of what the loop called, on a world that shows the time -/
def traced {ω ε : Type} (hooks : BridgeLoopHooks ω ε) (time : ω → ℕ) : BridgeLoopHooks (Traced ω) ε where
  instantNow w := ((hooks.instantNow w.host).1, { w with host := (hooks.instantNow w.host).2 })
  onIterationStart now w := ⟨hooks.onIterationStart now w.host, w.trace ++ [.iterationStart now]⟩
  stopRequested w := ((hooks.stopRequested w.host).1, { w with host := (hooks.stopRequested w.host).2 })
  handleStep step w :=
    ((hooks.handleStep step w.host).1, ⟨(hooks.handleStep step w.host).2, w.trace ++ [.step step (time w.host)]⟩)

/-- the clock reads the time, and time never runs backwards -/
structure MonotoneClock {ω ε : Type} (hooks : BridgeLoopHooks ω ε) (time : ω → ℕ) : Prop where
  reads : ∀ host, (hooks.instantNow host).1 = time host
  instantNow : ∀ host, time host ≤ time (hooks.instantNow host).2
  onIterationStart : ∀ now host, time host ≤ time (hooks.onIterationStart now host)
  stopRequested : ∀ host, time host ≤ time (hooks.stopRequested host).2
  handleStep : ∀ step host, time host ≤ time (hooks.handleStep step host).2

/-- what comes before a TX step issued at `issuedAt`: the start of its iteration at an instant that is allowed and not
later, and fewer TX steps than the limit, nothing else -/
def TxGated (allowed : ℕ → Prop) (limit : ℕ) (before : List BridgeLoopEvent) : BridgeLoopEvent → Prop
  | .step .tryTx issuedAt => ∃ earlier now burst, before = earlier ++ .iterationStart now :: burst ∧
      (∀ e ∈ burst, ∃ t, e = .step .tryTx t) ∧ burst.length < limit ∧ allowed now ∧ now ≤ issuedAt
  | _ => True

def TxAllowedAt (config : ProductionRuntimeBridgeLoopRunConfig) (started now : ℕ) : Prop :=
  config.airtimeSchedule.txAllowedAtElapsed (now - started) = true

/-! ## The gate -/

section Gate

variable {ω ε : Type} {hooks : BridgeLoopHooks ω ε} {time : ω → ℕ} {config : ProductionRuntimeBridgeLoopRunConfig}
  {allowed : ℕ → Prop} {limit started now count : ℕ}

/-- between two bursts -/
structure Idle (allowed : ℕ → Prop) (limit started : ℕ) (s : BridgeLoopState (Traced ω)) : Prop where
  started_eq : s.started = started
  causal : Causal (TxGated allowed limit) s.host.trace

/-- `count` steps into the burst of the iteration that started at `now` -/
structure Bursting (time : ω → ℕ) (allowed : ℕ → Prop) (limit started now count : ℕ)
    (s : BridgeLoopState (Traced ω)) : Prop extends Idle allowed limit started s where
  burst : ∃ earlier burst, s.host.trace = earlier ++ .iterationStart now :: burst ∧
    (∀ e ∈ burst, ∃ t, e = .step .tryTx t) ∧ burst.length = count
  now_le : now ≤ time s.host.host

theorem idle_modify {f : BridgeLoopState (Traced ω) → BridgeLoopState (Traced ω)}
    (hstarted : ∀ s, (f s).started = s.started) (hhost : ∀ s, (f s).host = s.host) :
    Triple (Idle allowed limit started) (Action.modify f : LoopAction (Traced ω) ε Unit)
      (fun _ => Idle allowed limit started) fun _ => Idle allowed limit started :=
  Triple.modify fun s h => ⟨(hstarted s).trans h.started_eq, (hhost s).symm ▸ h.causal⟩

theorem bursting_modify {f : BridgeLoopState (Traced ω) → BridgeLoopState (Traced ω)}
    (hstarted : ∀ s, (f s).started = s.started) (hhost : ∀ s, (f s).host = s.host) :
    Triple (Bursting time allowed limit started now count) (Action.modify f : LoopAction (Traced ω) ε Unit)
      (fun _ => Bursting time allowed limit started now count) fun _ => Idle allowed limit started := by
  refine Triple.modify fun s h => ⟨⟨(hstarted s).trans h.started_eq, ?_⟩, ?_, ?_⟩
  · rw [hhost]
    exact h.causal
  · rw [hhost]
    exact h.burst
  · rw [hhost]
    exact h.now_le

/-- a TX step within the limit is gated, and adds to the burst -/
theorem bursting_tryTx (hclock : MonotoneClock hooks time) (hallowed : allowed now) (hlimit : count < limit) :
    Triple (Bursting time allowed limit started now count) (handleLoopStep (traced hooks time) .tryTx)
      (fun _ => Bursting time allowed limit started now (count + 1)) fun _ => Idle allowed limit started := by
  have hstep : ∀ s, Bursting time allowed limit started now count s →
      Bursting time allowed limit started now (count + 1)
        { s with host := ((traced hooks time).handleStep .tryTx s.host).2 } := by
    intro s h
    obtain ⟨earlier, burst, htrace, hburst, hlen⟩ := h.burst
    refine ⟨⟨h.started_eq, h.causal.snoc ?_⟩, ⟨earlier, burst ++ [.step .tryTx (time s.host.host)], ?_, ?_, ?_⟩, ?_⟩
    · exact ⟨earlier, now, burst, htrace, hburst, hlen ▸ hlimit, hallowed, h.now_le⟩
    · change s.host.trace ++ _ = _
      rw [htrace]
      simp
    · intro e he
      rcases List.mem_append.1 he with he | he
      · exact hburst e he
      · exact ⟨_, List.mem_singleton.1 he⟩
    · rw [List.length_append, hlen]
      rfl
    · exact h.now_le.trans (hclock.handleStep .tryTx s.host.host)
  refine Triple.bind (Triple.ofState (Q := fun _ => Bursting time allowed limit started now (count + 1)) hstep)
    fun outcome => ?_
  cases outcome with
  | error e => exact Triple.fail fun _ h => h.toIdle
  | ok outcome => exact Triple.pure fun _ h => h

theorem bursting_now (hclock : MonotoneClock hooks time) :
    Triple (Bursting time allowed limit started now count) (onWorld (traced hooks time).instantNow : LoopAction _ ε ℕ)
      (fun _ => Bursting time allowed limit started now count) fun _ => Idle allowed limit started :=
  Triple.ofState fun s h =>
    ⟨⟨h.started_eq, h.causal⟩, h.burst, h.now_le.trans (hclock.instantNow s.host.host)⟩

/-- the burst: every round adds one step, and there are at most as many as are left -/
theorem bursting_txBurst (hclock : MonotoneClock hooks time) (hallowed : allowed now) (remaining : ℕ)
    (hremaining : count + remaining ≤ limit) :
    Triple (Bursting time allowed limit started now count) (txBurst (traced hooks time) config now remaining)
      (fun _ => Idle allowed limit started) fun _ => Idle allowed limit started := by
  induction remaining generalizing count with
  | zero => exact Triple.pure fun _ h => h.toIdle
  | succ remaining ih =>
    refine Triple.bind (Triple.read (Q := fun _ => Bursting time allowed limit started now count) fun _ h => h)
      fun may => ?_
    split_ifs
    · exact Triple.pure fun _ h => h.toIdle
    · refine Triple.bind (bursting_modify (fun _ => rfl) fun _ => rfl) fun _ =>
        Triple.bind (bursting_tryTx hclock hallowed (by omega)) fun outcome => ?_
      cases outcome with
      | txProcessed =>
        exact Triple.bind (bursting_modify (fun _ => rfl) fun _ => rfl) fun _ =>
          Triple.bind (bursting_now hclock) fun _ =>
            Triple.bind (bursting_modify (fun _ => rfl) fun _ => rfl) fun _ => ih (by omega)
      | stop reason => exact Triple.fail fun _ h => h.toIdle
      | txEmpty | txDisconnected | rxRead | rxTimeout => exact Triple.pure fun _ h => h.toIdle

theorem idle_onWorld {α : Type} {f : Traced ω → α × Traced ω} (hf : ∀ w, (f w).2.trace = w.trace) :
    Triple (Idle allowed limit started) (onWorld f : LoopAction (Traced ω) ε α)
      (fun _ => Idle allowed limit started) fun _ => Idle allowed limit started :=
  Triple.ofState fun s h => ⟨h.started_eq, (hf s.host).symm ▸ h.causal⟩

theorem idle_stopLoop {α : Type} {f : Unit → LoopAction (Traced ω) ε α} {R : α → BridgeLoopState (Traced ω) → Prop}
    (reason : ProductionRuntimeBridgeLoopStopReason) :
    Triple (Idle allowed limit started) (stopLoop reason >>= f) R fun _ => Idle allowed limit started :=
  Triple.bind_fails (Triple.fail fun _ h => h)

theorem idle_checkStop :
    Triple (Idle allowed limit started) (checkStop (traced hooks time) config)
      (fun _ => Idle allowed limit started) fun _ => Idle allowed limit started := by
  refine Triple.bind (idle_onWorld fun _ => rfl) fun stop => ?_
  have hread : ∀ {α : Type} (f : BridgeLoopState (Traced ω) → α),
      Triple (Idle allowed limit started) (Action.read f : LoopAction (Traced ω) ε α)
        (fun _ => Idle allowed limit started) fun _ => Idle allowed limit started := fun f => Triple.read fun _ h => h
  split_ifs
  · exact idle_stopLoop .signal
  · refine Triple.bind (hread _) fun deadline => ?_
    cases deadline with
    | some deadline =>
      refine Triple.bind (idle_onWorld fun _ => rfl) fun now => ?_
      split_ifs
      · exact Triple.fail fun _ h => h
      · exact Triple.pure fun _ h => h
    | none =>
      refine Triple.bind (hread _) fun processed => ?_
      split_ifs
      · exact Triple.fail fun _ h => h
      · exact Triple.pure fun _ h => h

/-- the schedule is asked at `now`, and the burst runs on its answer -/
theorem bursting_transmit (hclock : MonotoneClock hooks time) :
    Triple (Bursting time (TxAllowedAt config started) config.txBurstLimit.toNat started now 0) (transmit (traced hooks time) config now)
      (fun _ => Idle (TxAllowedAt config started) config.txBurstLimit.toNat started)
      fun _ => Idle (TxAllowedAt config started) config.txBurstLimit.toNat started := by
  refine Triple.bind (Triple.read (Q := fun start s => start = started ∧ Bursting time
    (TxAllowedAt config started) config.txBurstLimit.toNat started
      now 0 s) fun s h => ⟨h.started_eq, h⟩) fun start => Triple.assume fun hstart => ?_
  rw [hstart]
  split_ifs with hallowed
  · exact Triple.bind (bursting_modify (fun _ => rfl) fun _ => rfl) fun _ =>
      bursting_txBurst hclock hallowed _ (Nat.zero_add _).le
  · exact Triple.modify fun s h => ⟨h.started_eq, h.causal⟩

theorem idle_rxTimeout :
    Triple (Idle allowed limit started) (rxTimeout (traced hooks time) config)
      (fun _ => Idle allowed limit started) fun _ => Idle allowed limit started := by
  refine Triple.bind (Triple.read (Q := fun _ => Idle allowed limit started) fun _ h => h) fun deadline => ?_
  cases deadline with
  | some deadline =>
    refine Triple.bind (idle_onWorld fun _ => rfl) fun now => ?_
    split_ifs
    · exact Triple.fail fun _ h => h
    · exact Triple.pure fun _ h => h
  | none => exact Triple.pure fun _ h => h

theorem idle_receive (timeout : ℕ) :
    Triple (Idle allowed limit started) (receive (traced hooks time) timeout)
      (fun _ => Idle allowed limit started) fun _ => Idle allowed limit started := by
  have hstep : ∀ s, Idle allowed limit started s → Idle allowed limit started
      { s with host := ((traced hooks time).handleStep (.readRx timeout) s.host).2 } :=
    fun s h => ⟨h.started_eq, h.causal.snoc trivial⟩
  have hhandle : Triple (Idle allowed limit started) (handleLoopStep (traced hooks time) (.readRx timeout))
      (fun _ => Idle allowed limit started) fun _ => Idle allowed limit started := by
    refine Triple.bind (Triple.ofState (Q := fun _ => Idle allowed limit started) hstep) fun outcome => ?_
    cases outcome with
    | error e => exact Triple.fail fun _ h => h
    | ok outcome => exact Triple.pure fun _ h => h
  refine Triple.bind (idle_modify (fun _ => rfl) fun _ => rfl) fun _ => Triple.bind hhandle fun outcome => ?_
  cases outcome with
  | stop reason => exact Triple.fail fun _ h => h
  | rxRead | rxTimeout | txProcessed | txEmpty | txDisconnected => exact Triple.pure fun _ h => h

/-- **One iteration** keeps every TX step behind the gate. -/
theorem idle_iteration (hclock : MonotoneClock hooks time) :
    Triple (Idle (TxAllowedAt config started) config.txBurstLimit.toNat started) (iteration (traced hooks time) config)
      (fun _ => Idle (TxAllowedAt config started) config.txBurstLimit.toNat started)
      fun _ => Idle (TxAllowedAt config started) config.txBurstLimit.toNat started := by
  have hsample : ∀ s, Idle (TxAllowedAt config started) config.txBurstLimit.toNat started s → Idle
        (TxAllowedAt config started) config.txBurstLimit.toNat started
        { s with host := ((traced hooks time).instantNow s.host).2 } ∧
      ((traced hooks time).instantNow s.host).1 ≤ time ((traced hooks time).instantNow s.host).2.host := by
    intro s h
    refine ⟨⟨h.started_eq, h.causal⟩, ?_⟩
    calc (hooks.instantNow s.host.host).1 = time s.host.host := hclock.reads _
      _ ≤ time (hooks.instantNow s.host.host).2 := hclock.instantNow _
  refine Triple.bind (idle_modify (fun _ => rfl) fun _ => rfl) fun _ => Triple.bind idle_checkStop fun _ =>
    Triple.bind (Triple.ofState (Q := fun now s => Idle
      (TxAllowedAt config started) config.txBurstLimit.toNat started s ∧
        now ≤ time s.host.host) hsample) fun now => ?_
  refine Triple.bind (Triple.ofState fun s h => ?_) fun _ => Triple.bind (bursting_transmit hclock) fun _ =>
    Triple.bind idle_rxTimeout fun timeout => idle_receive timeout
  obtain ⟨hidle, hnow⟩ := h
  exact ⟨⟨hidle.started_eq, hidle.causal.snoc trivial⟩, ⟨s.host.trace, [], rfl, nofun, rfl⟩,
    hnow.trans (hclock.onIterationStart now s.host.host)⟩

/-- **The gate.** In every run, on every clock and whatever the steps do, a TX step is issued only in an iteration that
started at an instant the schedule allows, and within the burst limit of that iteration. -/
theorem runProductionBridgeLoop_gated (config : ProductionRuntimeBridgeLoopRunConfig) (hooks : BridgeLoopHooks ω ε)
    (time : ω → ℕ) (hclock : MonotoneClock hooks time) (host : ω) (fuel : ℕ) :
    (runProductionBridgeLoop (traced hooks time) config ⟨host, []⟩ fuel).Sat
      (fun s => Causal (TxGated (TxAllowedAt config (time host)) config.txBurstLimit.toNat) s.host.trace)
      fun result => Causal (TxGated (TxAllowedAt config (time host)) config.txBurstLimit.toNat) result.2.trace := by
  have hturn : ∀ s, Idle (TxAllowedAt config (time host)) config.txBurstLimit.toNat (time host) s →
      (turn (traced hooks time) config s).Sat
        (Idle (TxAllowedAt config (time host)) config.txBurstLimit.toNat (time host))
        fun result => Causal (TxGated (TxAllowedAt config (time host)) config.txBurstLimit.toNat) result.2.trace := by
    intro s hs
    have hiteration := idle_iteration hclock s hs
    rw [turn]
    rcases hrun : iteration (traced hooks time) config s with ⟨e | a, s'⟩
    · rw [hrun] at hiteration
      cases e with
      | stop reason => exact hiteration.causal
      | failed e => exact hiteration.causal
    · rw [hrun] at hiteration
      exact hiteration
  have hstart : Idle (TxAllowedAt config (time host)) config.txBurstLimit.toNat (time host)
      (BridgeLoopState.start (traced hooks time) config ⟨host, []⟩) := ⟨hclock.reads host, Causal.nil⟩
  exact (loopFor_invariant hturn fuel hstart).weaken (fun s h => h.causal) fun _ h => h

end Gate

/-! ## What the loop leaves in a log -/

section Log

variable {ω ε κ : Type} {log : ω → List κ} {allowed : κ → Prop} {hooks : BridgeLoopHooks ω ε}
  {config : ProductionRuntimeBridgeLoopRunConfig}

/-- the clock and the closures append allowed events to the log, and do nothing else to it -/
structure HooksEmit (log : ω → List κ) (allowed : κ → Prop) (hooks : BridgeLoopHooks ω ε) : Prop where
  instantNow : ∀ host, Extends allowed (log host) (log (hooks.instantNow host).2)
  onIterationStart : ∀ now host, Extends allowed (log host) (log (hooks.onIterationStart now host))
  stopRequested : ∀ host, Extends allowed (log host) (log (hooks.stopRequested host).2)
  handleStep : ∀ step host, Extends allowed (log host) (log (hooks.handleStep step host).2)

/-- an action of the loop appends allowed events -/
abbrev LoopEmits {α : Type} (log : ω → List κ) (allowed : κ → Prop) (act : LoopAction ω ε α) : Prop :=
  Emits (fun s : BridgeLoopState ω => log s.host) allowed act

theorem loopEmits_onWorld {α : Type} {f : ω → α × ω} (hf : ∀ host, Extends allowed (log host) (log (f host).2)) :
    LoopEmits log allowed (onWorld f : LoopAction ω ε α) := fun s => hf s.host

theorem loopEmits_handleLoopStep (h : HooksEmit log allowed hooks) (step : ProductionRuntimeBridgeLoopStep) :
    LoopEmits log allowed (handleLoopStep hooks step) := by
  refine Emits.bind (loopEmits_onWorld (h.handleStep step)) fun outcome => ?_
  cases outcome with
  | error e => exact Emits.fail _
  | ok outcome => exact Emits.pure outcome

theorem loopEmits_txBurst (h : HooksEmit log allowed hooks) (now remaining : ℕ) :
    LoopEmits log allowed (txBurst hooks config now remaining) := by
  induction remaining with
  | zero => exact Emits.pure ()
  | succ remaining ih =>
    refine Emits.bind (Emits.read _) fun may => ?_
    split_ifs
    · exact Emits.pure ()
    · refine Emits.bind (Emits.modify fun _ => rfl) fun _ =>
        Emits.bind (loopEmits_handleLoopStep h .tryTx) fun outcome => ?_
      cases outcome with
      | txProcessed =>
        exact Emits.bind (Emits.modify fun _ => rfl) fun _ => Emits.bind (loopEmits_onWorld h.instantNow) fun _ =>
          Emits.bind (Emits.modify fun _ => rfl) fun _ => ih
      | stop reason => exact Emits.fail _
      | txEmpty | txDisconnected | rxRead | rxTimeout => exact Emits.pure ()

theorem loopEmits_checkStop (h : HooksEmit log allowed hooks) : LoopEmits log allowed (checkStop hooks config) := by
  refine Emits.bind (loopEmits_onWorld h.stopRequested) fun stop => ?_
  split_ifs
  · exact Emits.of_same fun _ => rfl
  · refine Emits.bind (Emits.read _) fun deadline => ?_
    cases deadline with
    | some deadline =>
      refine Emits.bind (loopEmits_onWorld h.instantNow) fun now => ?_
      split_ifs
      · exact Emits.fail _
      · exact Emits.pure ()
    | none =>
      refine Emits.bind (Emits.read _) fun processed => ?_
      split_ifs
      · exact Emits.fail _
      · exact Emits.pure ()

theorem loopEmits_transmit (h : HooksEmit log allowed hooks) (now : ℕ) :
    LoopEmits log allowed (transmit hooks config now) := by
  refine Emits.bind (Emits.read _) fun started => ?_
  split_ifs
  · exact Emits.bind (Emits.modify fun _ => rfl) fun _ => loopEmits_txBurst h now _
  · exact Emits.modify fun _ => rfl

theorem loopEmits_rxTimeout (h : HooksEmit log allowed hooks) : LoopEmits log allowed (rxTimeout hooks config) := by
  refine Emits.bind (Emits.read _) fun deadline => ?_
  cases deadline with
  | some deadline =>
    refine Emits.bind (loopEmits_onWorld h.instantNow) fun now => ?_
    split_ifs
    · exact Emits.fail _
    · exact Emits.pure _
  | none => exact Emits.pure _

theorem loopEmits_receive (h : HooksEmit log allowed hooks) (timeout : ℕ) :
    LoopEmits log allowed (receive hooks timeout) := by
  refine Emits.bind (Emits.modify fun _ => rfl) fun _ =>
    Emits.bind (loopEmits_handleLoopStep h (.readRx timeout)) fun outcome => ?_
  cases outcome with
  | stop reason => exact Emits.fail _
  | rxRead | rxTimeout | txProcessed | txEmpty | txDisconnected => exact Emits.pure ()

theorem loopEmits_iteration (h : HooksEmit log allowed hooks) : LoopEmits log allowed (iteration hooks config) :=
  Emits.bind (Emits.modify fun _ => rfl) fun _ => Emits.bind (loopEmits_checkStop h) fun _ =>
    Emits.bind (loopEmits_onWorld h.instantNow) fun now =>
      Emits.bind (loopEmits_onWorld (h.onIterationStart now)) fun _ => Emits.bind (loopEmits_transmit h now) fun _ =>
        Emits.bind (loopEmits_rxTimeout h) fun timeout => loopEmits_receive h timeout

/-- **What the closures append, the loop appends.** -/
theorem runProductionBridgeLoop_emits (h : HooksEmit log allowed hooks) (host : ω) (fuel : ℕ) :
    (runProductionBridgeLoop hooks config host fuel).Sat (fun s => Extends allowed (log host) (log s.host))
      fun result => Extends allowed (log host) (log result.2) := by
  have hturn : ∀ s : BridgeLoopState ω, Extends allowed (log host) (log s.host) → (turn hooks config s).Sat
      (fun s => Extends allowed (log host) (log s.host)) fun result => Extends allowed (log host) (log result.2) := by
    intro s hs
    have hiteration := @loopEmits_iteration _ _ _ _ _ _ config h s
    rw [turn]
    rcases hrun : iteration hooks config s with ⟨e | a, s'⟩
    · rw [hrun] at hiteration
      cases e with
      | stop reason => exact hs.trans hiteration
      | failed e => exact hs.trans hiteration
    · rw [hrun] at hiteration
      exact hs.trans hiteration
  exact loopFor_invariant hturn fuel (h.instantNow host)

end Log

/-! ## The instant of the step -/

/-- a clock that only the steps move: a datagram takes a millisecond -/
def slowHooks : BridgeLoopHooks ℕ Unit where
  instantNow time := (time, time)
  onIterationStart _ time := time
  stopRequested time := (false, time)
  handleStep step time :=
    match step with
    | .tryTx => (.ok .txProcessed, time + 10 ^ 6)
    | .readRx timeout => (.ok .rxTimeout, time + timeout)

/-- a millisecond to transmit, a millisecond to receive, two datagrams in a burst -/
def slowConfig : ProductionRuntimeBridgeLoopRunConfig :=
  { duration := none, rxTimeout := 10 ^ 6, txBurstLimit := 2, txMinInterval := 0, maxDatagrams := 2
    airtimeSchedule := .tdd .tx 1 1 0 0 }

theorem slowHooks_clock : MonotoneClock slowHooks id where
  reads _ := rfl
  instantNow _ := le_rfl
  onIterationStart _ _ := le_rfl
  stopRequested _ := le_rfl
  handleStep step time := by
    cases step with
    | tryTx => exact Nat.le_add_right time _
    | readRx timeout => exact Nat.le_add_right time timeout

theorem runProductionBridgeLoop_gated_sample :
    (runProductionBridgeLoop (traced slowHooks id) slowConfig ⟨0, []⟩ 2).Sat
      (fun s => Causal (TxGated (TxAllowedAt slowConfig (id 0)) slowConfig.txBurstLimit.toNat) s.host.trace)
      fun result => Causal (TxGated (TxAllowedAt slowConfig (id 0)) slowConfig.txBurstLimit.toNat) result.2.trace :=
  runProductionBridgeLoop_gated slowConfig slowHooks id slowHooks_clock 0 2

/-- on an accepted schedule and a monotone clock, the second step of a burst is issued when its window is over -/
theorem burst_outlives_its_window :
    slowConfig.airtimeSchedule.validate = .ok () ∧ MonotoneClock slowHooks id ∧
      ∃ result, runProductionBridgeLoop (traced slowHooks id) slowConfig ⟨0, []⟩ 2 = .stopped result ∧
        .step .tryTx (10 ^ 6) ∈ result.2.trace ∧ ¬ TxAllowedAt slowConfig 0 (10 ^ 6) := by
  have hrun : (runProductionBridgeLoop (traced slowHooks id) slowConfig ⟨0, []⟩ 2).result?.map (·.2.trace) =
      some [.iterationStart 0, .step .tryTx 0, .step .tryTx (10 ^ 6), .step (.readRx (10 ^ 6)) (2 * 10 ^ 6)] := by
    decide +kernel
  obtain ⟨result, hresult, htrace⟩ := Option.map_eq_some_iff.1 hrun
  refine ⟨rfl, slowHooks_clock, result, Looped.eq_stopped hresult, ?_, ?_⟩
  · rw [htrace]
    decide
  · rw [TxAllowedAt]
    decide +kernel

end WfbLink.Runtime
