/-
A proof rule for the production bridge loop.

A `LoopProof` annotates the points of an iteration with predicates and shows that each step leads from one point to the
next, for one clock and one set of closures. What it shows of one iteration holds of every run.

- `LoopProof.turn`: one iteration leads from the top of the loop to its top, or to an exit.
- `LoopProof.run`: so does every run.
- `HookInvariant.run`: what every hook keeps, every run keeps.
-/
import WfbLink.Runtime.BridgeLoop

namespace WfbLink.Runtime

open WfbLink.Core

variable {ω ε : Type}

/-- where a TX step leads: on with the burst, to the end of it, or out of the loop -/
def AfterTx (next polled exit : Prop) :
    Except ε ProductionRuntimeBridgeLoopStepOutcome → Prop
  | .ok .txProcessed => next
  | .ok (.stop _) | .error _ => exit
  | .ok .txEmpty | .ok .txDisconnected | .ok .rxRead | .ok .rxTimeout => polled

/-- where the RX step leads -/
def AfterRx (top exit : Prop) : Except ε ProductionRuntimeBridgeLoopStepOutcome → Prop
  | .ok (.stop _) | .error _ => exit
  | .ok .rxRead | .ok .rxTimeout | .ok .txProcessed | .ok .txEmpty | .ok .txDisconnected => top

theorem AfterTx.of {next polled exit : Prop} {outcome : Except ε ProductionRuntimeBridgeLoopStepOutcome}
    (hnext : outcome = .ok .txProcessed → next) (hrest : outcome ≠ .ok .txProcessed → polled ∧ exit) :
    AfterTx next polled exit outcome := by
  rcases outcome with e | outcome
  · exact (hrest nofun).2
  · cases outcome with
    | txProcessed => exact hnext rfl
    | stop reason => exact (hrest nofun).2
    | txEmpty | txDisconnected | rxRead | rxTimeout => exact (hrest nofun).1

theorem AfterRx.of {top exit : Prop} (htop : top) (hexit : exit)
    (outcome : Except ε ProductionRuntimeBridgeLoopStepOutcome) : AfterRx top exit outcome := by
  rcases outcome with e | outcome
  · exact hexit
  · cases outcome with
    | stop reason => exact hexit
    | rxRead | rxTimeout | txProcessed | txEmpty | txDisconnected => exact htop

/-- the state behind a step -/
def BridgeLoopState.stepped (hooks : BridgeLoopHooks ω ε) (s : BridgeLoopState ω) (step : ProductionRuntimeBridgeLoopStep) :
    BridgeLoopState ω :=
  { s with host := (hooks.handleStep step s.host).2 }

/-- the state behind a reading of the clock -/
def BridgeLoopState.sampled (hooks : BridgeLoopHooks ω ε) (s : BridgeLoopState ω) : BridgeLoopState ω :=
  { s with host := (hooks.instantNow s.host).2 }

structure LoopProof (hooks : BridgeLoopHooks ω ε) (config : ProductionRuntimeBridgeLoopRunConfig) where
  top : BridgeLoopState ω → Prop
  begun : BridgeLoopState ω → Prop
  unstopped : BridgeLoopState ω → Prop
  checked : BridgeLoopState ω → Prop
  started : ℕ → BridgeLoopState ω → Prop
  /-- with the instant of the iteration, and how many steps are left -/
  burst : ℕ → ℕ → BridgeLoopState ω → Prop
  polled : BridgeLoopState ω → Prop
  listening : ℕ → BridgeLoopState ω → Prop
  exit : BridgeLoopState ω → Prop
  begin : ∀ s, top s → begun { s with iterations := satAdd s.iterations 1 }
  signalled : ∀ s, begun s → (hooks.stopRequested s.host).1 = true → exit { s with host := (hooks.stopRequested s.host).2 }
  unsignalled : ∀ s, begun s → (hooks.stopRequested s.host).1 = false →
    unstopped { s with host := (hooks.stopRequested s.host).2 }
  expired : ∀ s deadline, unstopped s → s.deadline = some deadline → deadline ≤ (hooks.instantNow s.host).1 →
    exit (s.sampled hooks)
  unexpired : ∀ s deadline, unstopped s → s.deadline = some deadline → (hooks.instantNow s.host).1 < deadline →
    checked (s.sampled hooks)
  limited : ∀ s, unstopped s → s.deadline = none → config.maxDatagrams ≠ 0 →
    config.maxDatagrams ≤ s.txDatagramsProcessed → exit s
  unlimited : ∀ s, unstopped s → s.deadline = none →
    ¬(config.maxDatagrams ≠ 0 ∧ config.maxDatagrams ≤ s.txDatagramsProcessed) → checked s
  start : ∀ s, checked s → started (hooks.instantNow s.host).1
    { s with host := hooks.onIterationStart (hooks.instantNow s.host).1 (hooks.instantNow s.host).2 }
  allowed : ∀ now s, started now s → config.airtimeSchedule.txAllowedAtElapsed (now - s.started) = true →
    burst now config.txBurstLimit.toNat { s with airtimeTxAllowedIterations := satAdd s.airtimeTxAllowedIterations 1 }
  gated : ∀ now s, started now s → config.airtimeSchedule.txAllowedAtElapsed (now - s.started) = false →
    polled { s with airtimeTxGatedIterations := satAdd s.airtimeTxGatedIterations 1 }
  leave : ∀ now remaining s, burst now remaining s → polled s
  tryTx : ∀ now remaining s, burst now (remaining + 1) s → mayTransmit config now s = true →
    let polledTx : BridgeLoopState ω := { s with txPolls := satAdd s.txPolls 1 }
    let s' := polledTx.stepped hooks .tryTx
    AfterTx
      (burst now remaining { s'.sampled hooks with
        txDatagramsProcessed := satAdd s.txDatagramsProcessed 1
        lastTxProcessedAt := some (hooks.instantNow s'.host).1 })
      (polled s') (exit s') (hooks.handleStep .tryTx s.host).1
  timeUp : ∀ s deadline, polled s → s.deadline = some deadline → deadline - (hooks.instantNow s.host).1 = 0 →
    exit (s.sampled hooks)
  timeLeft : ∀ s deadline, polled s → s.deadline = some deadline → deadline - (hooks.instantNow s.host).1 ≠ 0 →
    listening (min config.rxTimeout (deadline - (hooks.instantNow s.host).1)) (s.sampled hooks)
  unbounded : ∀ s, polled s → s.deadline = none → listening config.rxTimeout s
  readRx : ∀ timeout s, listening timeout s →
    let polledRx : BridgeLoopState ω := { s with rxPolls := satAdd s.rxPolls 1 }
    let s' := polledRx.stepped hooks (.readRx timeout)
    AfterRx (top s') (exit s') (hooks.handleStep (.readRx timeout) s.host).1

namespace LoopProof

variable {hooks : BridgeLoopHooks ω ε} {config : ProductionRuntimeBridgeLoopRunConfig} (proof : LoopProof hooks config)

/-! ## The parts of an iteration -/

theorem checkStop : Triple proof.begun (checkStop hooks config) (fun _ => proof.checked) fun _ => proof.exit := by
  have hsignal : Triple proof.begun (onWorld hooks.stopRequested : LoopAction ω ε Bool)
      (fun stop s => if stop = true then proof.exit s else proof.unstopped s) fun _ => proof.exit := by
    refine Triple.ofState fun s hs => ?_
    split_ifs with hstop
    · exact proof.signalled s hs hstop
    · exact proof.unsignalled s hs (Bool.eq_false_iff.2 hstop)
  apply Triple.bind hsignal
  intro stop
  split_ifs
  · exact Triple.bind_fails (Triple.fail fun s hs => hs)
  · refine Triple.bind (Triple.read (Q := fun deadline s => s.deadline = deadline ∧ proof.unstopped s)
      fun s hs => ⟨rfl, hs⟩) fun deadline => ?_
    cases deadline with
    | some deadline =>
      have hnow : Triple (fun s => s.deadline = some deadline ∧ proof.unstopped s)
          (onWorld hooks.instantNow : LoopAction ω ε ℕ)
          (fun now s => if now ≥ deadline then proof.exit s else proof.checked s) fun _ => proof.exit := by
        refine Triple.ofState fun s hs => ?_
        split_ifs with hlate
        · exact proof.expired s deadline hs.2 hs.1 hlate
        · exact proof.unexpired s deadline hs.2 hs.1 (Nat.lt_of_not_le hlate)
      apply Triple.bind hnow
      intro now
      split_ifs
      · exact Triple.fail fun s hs => hs
      · exact Triple.pure fun s hs => hs
    | none =>
      refine Triple.bind (Triple.read (Q := fun processed s => s.txDatagramsProcessed = processed ∧
        s.deadline = none ∧ proof.unstopped s) fun s hs => ⟨rfl, hs⟩) fun processed => ?_
      split_ifs with hlimit
      · refine Triple.fail fun s hs => ?_
        obtain ⟨rfl, hdeadline, hs⟩ := hs
        exact proof.limited s hs hdeadline hlimit.1 hlimit.2
      · refine Triple.pure fun s hs => ?_
        obtain ⟨rfl, hdeadline, hs⟩ := hs
        exact proof.unlimited s hs hdeadline hlimit

/-- a step, and what it leads to -/
theorem handleLoopStep {P : BridgeLoopState ω → Prop} {step : ProductionRuntimeBridgeLoopStep}
    {Q : ProductionRuntimeBridgeLoopStepOutcome → BridgeLoopState ω → Prop} {E : BridgeLoopState ω → Prop}
    (h : ∀ s, P s → match (hooks.handleStep step s.host).1 with
      | .ok outcome => Q outcome (s.stepped hooks step)
      | .error _ => E (s.stepped hooks step)) :
    Triple P (handleLoopStep hooks step) Q fun _ => E := by
  intro s hs
  have hstep := h s hs
  have hrun : (onWorld (hooks.handleStep step) : LoopAction ω ε _) s
      = (.ok (hooks.handleStep step s.host).1, s.stepped hooks step) := rfl
  rw [WfbLink.Runtime.handleLoopStep, Action.bind_of_ok hrun]
  rcases houtcome : (hooks.handleStep step s.host).1 with e | outcome
  · rw [houtcome] at hstep
    exact hstep
  · rw [houtcome] at hstep
    exact hstep

/-- the burst: every datagram leaves one step less -/
theorem txBurst (now remaining : ℕ) :
    Triple (proof.burst now remaining) (txBurst hooks config now remaining) (fun _ => proof.polled)
      fun _ => proof.exit := by
  induction remaining with
  | zero => exact Triple.pure fun s hs => proof.leave now 0 s hs
  | succ remaining ih =>
    refine Triple.bind (Triple.read (Q := fun may s => mayTransmit config now s = may ∧ proof.burst now (remaining + 1) s)
      fun s hs => ⟨rfl, hs⟩) fun may => ?_
    cases may with
    | false => exact Triple.pure fun s hs => proof.leave now _ s hs.2
    | true =>
      refine Triple.bind (Triple.modify (Q := fun _ s => ∃ s₀, mayTransmit config now s₀ = true ∧
        proof.burst now (remaining + 1) s₀ ∧ s = { s₀ with txPolls := satAdd s₀.txPolls 1 })
        fun s hs => ⟨s, hs.1, hs.2, rfl⟩) fun _ => ?_
      have hstep : Triple (fun s => ∃ s₀, mayTransmit config now s₀ = true ∧ proof.burst now (remaining + 1) s₀ ∧
            s = { s₀ with txPolls := satAdd s₀.txPolls 1 }) (WfbLink.Runtime.handleLoopStep hooks .tryTx)
          (fun outcome s' => AfterTx (proof.burst now remaining { s'.sampled hooks with
            txDatagramsProcessed := satAdd s'.txDatagramsProcessed 1
            lastTxProcessedAt := some (hooks.instantNow s'.host).1 }) (proof.polled s') (proof.exit s')
            (.ok outcome : Except ε _)) fun _ => proof.exit := by
        apply handleLoopStep
        rintro _ ⟨s₀, hmay, hs, rfl⟩
        have hafter := proof.tryTx now remaining s₀ hs hmay
        dsimp only at hafter ⊢
        rcases houtcome : (hooks.handleStep .tryTx s₀.host).1 with e | outcome
        · rw [houtcome] at hafter
          exact hafter
        · rw [houtcome] at hafter
          exact hafter
      apply Triple.bind hstep
      intro outcome
      cases outcome with
      | txProcessed =>
        refine Triple.bind (Triple.modify (Q := fun _ (s : BridgeLoopState ω) => proof.burst now remaining
          { s.sampled hooks with lastTxProcessedAt := some (hooks.instantNow s.host).1 }) fun s hs => ?_) fun _ => ?_
        · exact hs
        refine Triple.bind (Triple.ofState (Q := fun processedAt s => proof.burst now remaining { s with
          lastTxProcessedAt := some processedAt }) fun s hs => hs) fun processedAt => ?_
        exact Triple.bind (Triple.modify fun s hs => hs) fun _ => ih
      | stop reason => exact Triple.fail fun s hs => hs
      | txEmpty | txDisconnected | rxRead | rxTimeout => exact Triple.pure fun s hs => hs

theorem transmit (now : ℕ) :
    Triple (proof.started now) (transmit hooks config now) (fun _ => proof.polled) fun _ => proof.exit := by
  refine Triple.bind (Triple.read (Q := fun begin s => s.started = begin ∧ proof.started now s)
    fun s hs => ⟨rfl, hs⟩) fun begin => ?_
  split_ifs with hallowed
  · refine Triple.bind (Triple.modify (Q := fun _ => proof.burst now config.txBurstLimit.toNat) fun s hs => ?_)
      fun _ => proof.txBurst now _
    obtain ⟨rfl, hs⟩ := hs
    exact proof.allowed now s hs hallowed
  · refine Triple.modify fun s hs => ?_
    obtain ⟨rfl, hs⟩ := hs
    exact proof.gated now s hs (Bool.eq_false_iff.2 hallowed)

theorem rxTimeout : Triple proof.polled (rxTimeout hooks config) proof.listening fun _ => proof.exit := by
  refine Triple.bind (Triple.read (Q := fun deadline s => s.deadline = deadline ∧ proof.polled s)
    fun s hs => ⟨rfl, hs⟩) fun deadline => ?_
  cases deadline with
  | some deadline =>
    have hnow : Triple (fun s => s.deadline = some deadline ∧ proof.polled s)
        (onWorld hooks.instantNow : LoopAction ω ε ℕ)
        (fun now s => if deadline - now = 0 then proof.exit s
          else proof.listening (min config.rxTimeout (deadline - now)) s) fun _ => proof.exit := by
      refine Triple.ofState fun s hs => ?_
      split_ifs with hup
      · exact proof.timeUp s deadline hs.2 hs.1 hup
      · exact proof.timeLeft s deadline hs.2 hs.1 hup
    apply Triple.bind hnow
    intro now
    split_ifs
    · exact Triple.fail fun s hs => hs
    · exact Triple.pure fun s hs => hs
  | none => exact Triple.pure fun s hs => proof.unbounded s hs.2 hs.1

theorem receive (timeout : ℕ) :
    Triple (proof.listening timeout) (receive hooks timeout) (fun _ => proof.top) fun _ => proof.exit := by
  refine Triple.bind (Triple.modify (Q := fun _ s => ∃ s₀, proof.listening timeout s₀ ∧
    s = { s₀ with rxPolls := satAdd s₀.rxPolls 1 }) fun s hs => ⟨s, hs, rfl⟩) fun _ => ?_
  have hstep : Triple (fun s => ∃ s₀, proof.listening timeout s₀ ∧ s = { s₀ with rxPolls := satAdd s₀.rxPolls 1 })
      (WfbLink.Runtime.handleLoopStep hooks (.readRx timeout))
      (fun outcome s' => AfterRx (proof.top s') (proof.exit s') (.ok outcome : Except ε _)) fun _ => proof.exit := by
    apply handleLoopStep
    rintro _ ⟨s₀, hs, rfl⟩
    have hafter := proof.readRx timeout s₀ hs
    dsimp only at hafter ⊢
    rcases houtcome : (hooks.handleStep (.readRx timeout) s₀.host).1 with e | outcome
    · rw [houtcome] at hafter
      exact hafter
    · rw [houtcome] at hafter
      exact hafter
  apply Triple.bind hstep
  intro outcome
  cases outcome with
  | stop reason => exact Triple.fail fun s hs => hs
  | rxRead | rxTimeout | txProcessed | txEmpty | txDisconnected => exact Triple.pure fun s hs => hs

/-! ## Iterations -/

/-- **One iteration.** -/
theorem iteration : Triple proof.top (iteration hooks config) (fun _ => proof.top) fun _ => proof.exit := by
  apply Triple.bind (Triple.modify (Q := fun _ => proof.begun) proof.begin)
  intro _
  apply Triple.bind proof.checkStop
  intro _
  apply Triple.bind (Triple.ofState (Q := fun now s => proof.started now
    { s with host := hooks.onIterationStart now s.host }) proof.start)
  intro now
  have hhook : Triple (fun s => proof.started now { s with host := hooks.onIterationStart now s.host })
      (onWorld fun host => ((), hooks.onIterationStart now host) : LoopAction ω ε Unit) (fun _ => proof.started now)
      fun _ => proof.exit := Triple.ofState fun s hs => hs
  apply Triple.bind hhook
  intro _
  apply Triple.bind (proof.transmit now)
  intro _
  apply Triple.bind proof.rxTimeout
  intro timeout
  exact proof.receive timeout

/-- the loop has returned from an exit -/
def Returned (result : BridgeLoopResult ω ε) : Prop :=
  ∃ s, proof.exit s ∧ result.2 = s.host ∧ ∀ outcome, result.1 = .ok outcome → ∃ reason, outcome = s.outcome reason

theorem turn (s : BridgeLoopState ω) (hs : proof.top s) : (turn hooks config s).Sat proof.top proof.Returned := by
  have hiteration := proof.iteration s hs
  rw [WfbLink.Runtime.turn]
  rcases hrun : WfbLink.Runtime.iteration hooks config s with ⟨e | a, s'⟩
  · rw [hrun] at hiteration
    cases e with
    | stop reason =>
      refine ⟨s', hiteration, rfl, ?_⟩
      rintro _ ⟨⟩
      exact ⟨reason, rfl⟩
    | failed e =>
      refine ⟨s', hiteration, rfl, ?_⟩
      rintro _ ⟨⟩
  · rw [hrun] at hiteration
    exact hiteration

/-- **Every run** of the loop keeps to the points. -/
theorem run {host : ω} (hstart : proof.top (BridgeLoopState.start hooks config host)) (fuel : ℕ) :
    (runProductionBridgeLoop hooks config host fuel).Sat proof.top proof.Returned :=
  loopFor_invariant proof.turn fuel hstart

end LoopProof

/-! ## Invariants of the world -/

/-- what every hook keeps -/
structure HookInvariant (hooks : BridgeLoopHooks ω ε) (Inv : ω → Prop) : Prop where
  instantNow : ∀ host, Inv host → Inv (hooks.instantNow host).2
  onIterationStart : ∀ now host, Inv host → Inv (hooks.onIterationStart now host)
  stopRequested : ∀ host, Inv host → Inv (hooks.stopRequested host).2
  handleStep : ∀ step host, Inv host → Inv (hooks.handleStep step host).2

/-- an invariant of the world holds at every point -/
def HookInvariant.proof {hooks : BridgeLoopHooks ω ε} {Inv : ω → Prop} (h : HookInvariant hooks Inv)
    (config : ProductionRuntimeBridgeLoopRunConfig) : LoopProof hooks config where
  top s := Inv s.host
  begun s := Inv s.host
  unstopped s := Inv s.host
  checked s := Inv s.host
  started _ s := Inv s.host
  burst _ _ s := Inv s.host
  polled s := Inv s.host
  listening _ s := Inv s.host
  exit s := Inv s.host
  begin _ hs := hs
  signalled s hs _ := h.stopRequested s.host hs
  unsignalled s hs _ := h.stopRequested s.host hs
  expired s _ hs _ _ := h.instantNow s.host hs
  unexpired s _ hs _ _ := h.instantNow s.host hs
  limited _ hs _ _ _ := hs
  unlimited _ hs _ _ := hs
  start s hs := h.onIterationStart _ _ (h.instantNow s.host hs)
  allowed _ _ hs _ := hs
  gated _ _ hs _ := hs
  leave _ _ _ hs := hs
  tryTx _ _ s hs _ :=
    have hstepped := h.handleStep .tryTx s.host hs
    AfterTx.of (fun _ => h.instantNow _ hstepped) fun _ => ⟨hstepped, hstepped⟩
  timeUp s _ hs _ _ := h.instantNow s.host hs
  timeLeft s _ hs _ _ := h.instantNow s.host hs
  unbounded _ hs _ := hs
  readRx timeout s hs :=
    have hstepped := h.handleStep (.readRx timeout) s.host hs
    AfterRx.of hstepped hstepped _

/-- **What every hook keeps, every run keeps.** -/
theorem HookInvariant.run {hooks : BridgeLoopHooks ω ε} {Inv : ω → Prop} (h : HookInvariant hooks Inv)
    (config : ProductionRuntimeBridgeLoopRunConfig) {host : ω} (hhost : Inv host) (fuel : ℕ) :
    (runProductionBridgeLoop hooks config host fuel).Sat (fun s => Inv s.host) fun result => Inv result.2 := by
  have hstart : (h.proof config).top (BridgeLoopState.start hooks config host) := h.instantNow host hhost
  refine Looped.Sat.weaken ((h.proof config).run hstart fuel) (fun s hs => hs) fun result hresult => ?_
  obtain ⟨s, hs, heq, -⟩ := hresult
  rw [heq]
  exact hs

end WfbLink.Runtime
