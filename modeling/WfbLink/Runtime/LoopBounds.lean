/-
Pacing and bounds of the production bridge loop.

- `runProductionBridgeLoop_paced`: two datagrams are never completed closer together than `tx_min_interval`.
- `runProductionBridgeLoop_bounded`: how many datagrams a run processes, how many steps a burst has, how long an RX step
  may take, and how soon the loop returns once it has to.
- `gated_iteration_forgotten`: a saturated counter of iterations misses the ones that were gated.
-/
import WfbLink.Runtime.LoopProof

namespace WfbLink.Runtime

open WfbLink.Core

variable {ω ε : Type} {hooks : BridgeLoopHooks ω ε} {config : ProductionRuntimeBridgeLoopRunConfig}

/-! ## Pacing -/

/-- a world with the times at which datagrams were completed -/
structure Timed (ω : Type) where
  host : ω
  completions : List ℕ

/-- the times after a step -/
def completionsAfter {ε : Type} (completions : List ℕ) (now : ℕ) :
    ProductionRuntimeBridgeLoopStep → Except ε ProductionRuntimeBridgeLoopStepOutcome → List ℕ
  | .tryTx, .ok .txProcessed => completions ++ [now]
  | _, _ => completions

theorem completionsAfter_other {ε : Type} (completions : List ℕ) (now : ℕ) (step : ProductionRuntimeBridgeLoopStep)
    {outcome : Except ε ProductionRuntimeBridgeLoopStepOutcome} (h : outcome ≠ .ok .txProcessed) :
    completionsAfter completions now step outcome = completions := by
  unfold completionsAfter
  split
  · exact absurd rfl h
  · rfl

/-- the same hooks, noting when a TX step has answered that it processed a datagram -/
def timed (hooks : BridgeLoopHooks ω ε) (time : ω → ℕ) : BridgeLoopHooks (Timed ω) ε where
  instantNow w := ((hooks.instantNow w.host).1, { w with host := (hooks.instantNow w.host).2 })
  onIterationStart now w := { w with host := hooks.onIterationStart now w.host }
  stopRequested w := ((hooks.stopRequested w.host).1, { w with host := (hooks.stopRequested w.host).2 })
  handleStep step w :=
    ((hooks.handleStep step w.host).1,
      { host := (hooks.handleStep step w.host).2
        completions := completionsAfter w.completions (time (hooks.handleStep step w.host).2) step
          (hooks.handleStep step w.host).1 })

def Spaced (interval : ℕ) (completions : List ℕ) : Prop :=
  completions.Pairwise fun earlier later => earlier + interval ≤ later

/-- the last completion is remembered, and none is later -/
structure Paced (interval : ℕ) (s : BridgeLoopState (Timed ω)) : Prop where
  spaced : Spaced interval s.host.completions
  last : ∀ completion ∈ s.host.completions, ∃ last ∈ s.lastTxProcessedAt, completion ≤ last

theorem Spaced.snoc {interval now : ℕ} {completions : List ℕ} (h : Spaced interval completions)
    (hnow : ∀ completion ∈ completions, completion + interval ≤ now) : Spaced interval (completions ++ [now]) := by
  rw [Spaced, List.pairwise_append]
  refine ⟨h, List.pairwise_singleton _ _, fun completion hmem later hlater => ?_⟩
  rw [List.mem_singleton.1 hlater]
  exact hnow completion hmem

/-- a datagram that may be transmitted is an interval behind all others -/
theorem Paced.apart {s : BridgeLoopState (Timed ω)} {now : ℕ} (h : Paced config.txMinInterval s)
    (hinterval : config.txMinInterval ≠ 0) (hmay : mayTransmit config now s = true) :
    ∀ completion ∈ s.host.completions, completion + config.txMinInterval ≤ now := by
  intro completion hmem
  obtain ⟨last, hlast, hle⟩ := h.last completion hmem
  have helapsed : ¬now - last < config.txMinInterval := by
    rw [mayTransmit, decide_eq_true_iff] at hmay
    exact hmay.2 last hlast
  omega

/-- the points of the loop: the instant of an iteration is never ahead of the clock -/
def pacing (time : ω → ℕ) (hclock : MonotoneClock hooks time) (hinterval : config.txMinInterval ≠ 0) :
    LoopProof (timed hooks time) config where
  top := Paced config.txMinInterval
  begun := Paced config.txMinInterval
  unstopped := Paced config.txMinInterval
  checked := Paced config.txMinInterval
  started now s := Paced config.txMinInterval s ∧ now ≤ time s.host.host
  burst now _ s := Paced config.txMinInterval s ∧ now ≤ time s.host.host
  polled := Paced config.txMinInterval
  listening _ := Paced config.txMinInterval
  exit s := Spaced config.txMinInterval s.host.completions
  begin _ h := ⟨h.spaced, h.last⟩
  signalled _ h _ := h.spaced
  unsignalled _ h _ := ⟨h.spaced, h.last⟩
  expired _ _ h _ _ := h.spaced
  unexpired _ _ h _ _ := ⟨h.spaced, h.last⟩
  limited _ h _ _ _ := h.spaced
  unlimited _ h _ _ := h
  start s h := by
    refine ⟨⟨h.spaced, h.last⟩, ?_⟩
    calc (hooks.instantNow s.host.host).1 = time s.host.host := hclock.reads _
      _ ≤ time (hooks.instantNow s.host.host).2 := hclock.instantNow _
      _ ≤ _ := hclock.onIterationStart _ _
  allowed _ _ h _ := ⟨⟨h.1.spaced, h.1.last⟩, h.2⟩
  gated _ _ h _ := ⟨h.1.spaced, h.1.last⟩
  leave _ _ _ h := h.1
  tryTx now remaining s h hmay := by
    obtain ⟨hpaced, hnow⟩ := h
    have hlater : now ≤ time (hooks.handleStep .tryTx s.host.host).2 := hnow.trans (hclock.handleStep .tryTx _)
    have hspaced : Spaced config.txMinInterval
        (s.host.completions ++ [time (hooks.handleStep .tryTx s.host.host).2]) :=
      hpaced.spaced.snoc fun completion hmem => (hpaced.apart hinterval hmay completion hmem).trans hlater
    have hreads : (hooks.instantNow (hooks.handleStep .tryTx s.host.host).2).1
        = time (hooks.handleStep .tryTx s.host.host).2 := hclock.reads _
    intro polledTx s'
    apply AfterTx.of
    · intro houtcome
      have hcompletions : s'.host.completions
          = s.host.completions ++ [time (hooks.handleStep .tryTx s.host.host).2] := by
        change completionsAfter _ _ _ (hooks.handleStep .tryTx s.host.host).1 = _
        rw [show (hooks.handleStep .tryTx s.host.host).1 = .ok .txProcessed from houtcome]
        rfl
      refine ⟨⟨?_, fun completion hmem => ⟨_, rfl, ?_⟩⟩, hlater.trans (hclock.instantNow _)⟩
      · change Spaced _ s'.host.completions
        rw [hcompletions]
        exact hspaced
      · change completion ∈ s'.host.completions at hmem
        rw [hcompletions] at hmem
        change completion ≤ (hooks.instantNow (hooks.handleStep .tryTx s.host.host).2).1
        rw [hreads]
        rcases List.mem_append.1 hmem with hmem | hmem
        · have hapart := hpaced.apart hinterval hmay completion hmem
          omega
        · exact (List.mem_singleton.1 hmem).le
    · intro houtcome
      have hcompletions : s'.host.completions = s.host.completions := completionsAfter_other _ _ _ houtcome
      have hpaced' : Paced config.txMinInterval s' := by
        refine ⟨?_, fun completion hmem => ?_⟩
        · rw [hcompletions]
          exact hpaced.spaced
        · rw [hcompletions] at hmem
          exact hpaced.last completion hmem
      exact ⟨hpaced', hpaced'.spaced⟩
  timeUp _ _ h _ _ := h.spaced
  timeLeft _ _ h _ _ := ⟨h.spaced, h.last⟩
  unbounded _ h _ := h
  readRx timeout s h := by
    intro polledRx s'
    have hpaced : Paced config.txMinInterval s' := ⟨h.spaced, h.last⟩
    exact AfterRx.of hpaced hpaced.spaced _

/-- **Pacing.** In every run with an interval, on every monotone clock and whatever the steps do, the datagrams are
completed at least that far apart. -/
theorem runProductionBridgeLoop_paced (config : ProductionRuntimeBridgeLoopRunConfig) (hooks : BridgeLoopHooks ω ε)
    (time : ω → ℕ) (hclock : MonotoneClock hooks time) (hinterval : config.txMinInterval ≠ 0) (host : ω) (fuel : ℕ) :
    (runProductionBridgeLoop (timed hooks time) config ⟨host, []⟩ fuel).Sat
      (fun s => Spaced config.txMinInterval s.host.completions)
      fun result => Spaced config.txMinInterval result.2.completions := by
  have hstart : (pacing time hclock hinterval).top (BridgeLoopState.start (timed hooks time) config ⟨host, []⟩) :=
    ⟨List.Pairwise.nil, nofun⟩
  refine ((pacing time hclock hinterval).run hstart fuel).weaken (fun s h => Paced.spaced h) fun result h => ?_
  obtain ⟨s, hexit, hhost, -⟩ := h
  rw [hhost]
  exact hexit

/-- the schedule of `slowConfig`, with a pause of a millisecond -/
def pausingConfig : ProductionRuntimeBridgeLoopRunConfig := { slowConfig with txMinInterval := 10 ^ 6 }

theorem runProductionBridgeLoop_paced_sample :
    (runProductionBridgeLoop (timed slowHooks id) pausingConfig ⟨0, []⟩ 5).Sat
      (fun s => Spaced pausingConfig.txMinInterval s.host.completions)
      fun result => Spaced pausingConfig.txMinInterval result.2.completions :=
  runProductionBridgeLoop_paced pausingConfig slowHooks id slowHooks_clock (by decide) 0 5

/-! ## What the loop calls -/

/-- a reading of the clock, or a step with its answer, and whether the loop had to return by then -/
inductive BridgeLoopCall where
  | clock (reading : ℕ)
  | step (step : ProductionRuntimeBridgeLoopStep) (answer : Option ProductionRuntimeBridgeLoopStepOutcome)
      (halted : Bool)
deriving DecidableEq, Repr

namespace BridgeLoopCall

def isReadRx : BridgeLoopCall → Bool
  | .step (.readRx _) _ _ => true
  | _ => false

def isTryTx : BridgeLoopCall → Bool
  | .step .tryTx _ _ => true
  | _ => false

/-- a step made after the loop had to return -/
def haltedStep : BridgeLoopCall → Option ProductionRuntimeBridgeLoopStep
  | .step issued _ true => some issued
  | _ => none

end BridgeLoopCall

structure Watched (ω : Type) where
  host : ω
  calls : List BridgeLoopCall

/-- the same hooks, on a world that shows whether the loop has to return, with a trace of what was called -/
def watched (hooks : BridgeLoopHooks ω ε) (halted : ω → Bool) : BridgeLoopHooks (Watched ω) ε where
  instantNow w :=
    ((hooks.instantNow w.host).1, ⟨(hooks.instantNow w.host).2, w.calls ++ [.clock (hooks.instantNow w.host).1]⟩)
  onIterationStart now w := { w with host := hooks.onIterationStart now w.host }
  stopRequested w := ((hooks.stopRequested w.host).1, { w with host := (hooks.stopRequested w.host).2 })
  handleStep step w :=
    ((hooks.handleStep step w.host).1,
      ⟨(hooks.handleStep step w.host).2,
        w.calls ++ [.step step (hooks.handleStep step w.host).1.toOption (halted w.host)]⟩)

/-- from now on the stop predicate is true, or from now on the clock reads the deadline or more -/
structure Halts (hooks : BridgeLoopHooks ω ε) (config : ProductionRuntimeBridgeLoopRunConfig) (started : ℕ)
    (halted : ω → Bool) : Prop where
  instantNow : ∀ host, halted host = true → halted (hooks.instantNow host).2 = true
  onIterationStart : ∀ now host, halted host = true → halted (hooks.onIterationStart now host) = true
  stopRequested : ∀ host, halted host = true → halted (hooks.stopRequested host).2 = true
  handleStep : ∀ step host, halted host = true → halted (hooks.handleStep step host).2 = true
  stops : (∀ host, halted host = true → (hooks.stopRequested host).1 = true) ∨
    ∃ duration, config.duration = some duration ∧
      ∀ host, halted host = true → started + duration ≤ (hooks.instantNow host).1

/-! ## Bounds -/

/-- an RX step waits no longer than configured, nor than was left to the deadline when the clock was last read -/
def ReadRxBounded (config : ProductionRuntimeBridgeLoopRunConfig) (started : ℕ) (before : List BridgeLoopCall) :
    BridgeLoopCall → Prop
  | .step (.readRx timeout) _ _ => timeout ≤ config.rxTimeout ∧ ∀ duration ∈ config.duration,
      ∃ earlier reading, before = earlier ++ [.clock reading] ∧ timeout ≤ started + duration - reading
  | _ => True

/-- the steps made after the loop had to return: the rest of a burst, and one RX step -/
def LastSteps (limit : ℕ) (steps : List ProductionRuntimeBridgeLoopStep) : Prop :=
  ∃ count ≤ limit, steps = List.replicate count .tryTx ∨
    ∃ timeout, steps = List.replicate count .tryTx ++ [.readRx timeout]

structure CallsBounded (config : ProductionRuntimeBridgeLoopRunConfig) (started : ℕ) (calls : List BridgeLoopCall) :
    Prop where
  burst : RunsBounded BridgeLoopCall.isReadRx BridgeLoopCall.isTryTx config.txBurstLimit.toNat calls
  timeout : Causal (ReadRxBounded config started) calls
  lastSteps : LastSteps config.txBurstLimit.toNat (calls.filterMap BridgeLoopCall.haltedStep)

structure CountsBounded (config : ProductionRuntimeBridgeLoopRunConfig) (outcome : ProductionRuntimeBridgeLoopOutcome) :
    Prop where
  datagrams : config.maxDatagrams ≠ 0 → outcome.txDatagramsProcessed ≤ config.maxDatagrams
  polls : outcome.txDatagramsProcessed ≤ outcome.txPolls
  iterations : outcome.iterations.toNat < u64Max →
    outcome.airtimeTxAllowedIterations.toNat + outcome.airtimeTxGatedIterations.toNat = outcome.iterations.toNat ∨
      outcome.airtimeTxAllowedIterations.toNat + outcome.airtimeTxGatedIterations.toNat + 1 = outcome.iterations.toNat

/-! ## The invariant -/

/-- how many iterations have been allowed and gated, and how many more have begun -/
def Iterated {ω : Type} (more : ℕ) (s : BridgeLoopState ω) : Prop :=
  ∃ allowed gated, s.airtimeTxAllowedIterations = satCount 0 allowed ∧ s.airtimeTxGatedIterations = satCount 0 gated ∧
    s.iterations = satCount 0 (allowed + gated + more)

/-- what holds throughout -/
structure Watching (config : ProductionRuntimeBridgeLoopRunConfig) (started : ℕ) (halted : ω → Bool)
    (s : BridgeLoopState (Watched ω)) : Prop where
  deadline : s.deadline = config.duration.map (started + ·)
  datagrams : config.maxDatagrams ≠ 0 → s.txDatagramsProcessed ≤ config.maxDatagrams
  polls : s.txDatagramsProcessed ≤ s.txPolls
  burst : RunsBounded BridgeLoopCall.isReadRx BridgeLoopCall.isTryTx config.txBurstLimit.toNat s.host.calls
  timeout : Causal (ReadRxBounded config started) s.host.calls
  lastSteps : LastSteps config.txBurstLimit.toNat (s.host.calls.filterMap BridgeLoopCall.haltedStep)
  settled : s.host.calls.filterMap BridgeLoopCall.haltedStep ≠ [] → halted s.host.host = true

theorem satCount_snoc (a : UInt64) (n : ℕ) : satAdd (satCount a n) 1 = satCount a (n + 1) :=
  (Function.iterate_succ_apply' (fun c => satAdd c 1) n a).symm

theorem satAdd_le_of_lt {a b : UInt64} (h : a < b) : satAdd a 1 ≤ b := by
  rw [UInt64.le_iff_toNat_le, satAdd_toNat]
  have hlt := UInt64.lt_iff_toNat_lt.1 h
  have hone : (1 : UInt64).toNat = 1 := rfl
  omega

/-- what is observed of the counters -/
theorem Iterated.counts {ω : Type} {s : BridgeLoopState ω} {more : ℕ} (h : Iterated more s) (hmore : more ≤ 1)
    (hlt : s.iterations.toNat < u64Max) :
    s.airtimeTxAllowedIterations.toNat + s.airtimeTxGatedIterations.toNat = s.iterations.toNat ∨
      s.airtimeTxAllowedIterations.toNat + s.airtimeTxGatedIterations.toNat + 1 = s.iterations.toNat := by
  obtain ⟨allowed, gated, hallowed, hgated, hiterations⟩ := h
  have hzero : (0 : UInt64).toNat = 0 := rfl
  rw [hiterations, satCount_toNat] at hlt
  rw [hallowed, hgated, hiterations, satCount_toNat, satCount_toNat, satCount_toNat]
  omega

section Bounds

variable {started : ℕ} {halted : ω → Bool}

/-- the steps made after the loop had to return -/
def haltedSteps {ω : Type} (s : BridgeLoopState (Watched ω)) : List ProductionRuntimeBridgeLoopStep :=
  s.host.calls.filterMap BridgeLoopCall.haltedStep

/-- since the last RX step, `count` TX steps -/
def TriedSince {ω : Type} (count : ℕ) (s : BridgeLoopState (Watched ω)) : Prop :=
  TailBounded BridgeLoopCall.isReadRx BridgeLoopCall.isTryTx count s.host.calls

/-- only TX steps have been made since the loop had to return -/
def OnlyTried {ω : Type} (count : ℕ) (s : BridgeLoopState (Watched ω)) : Prop :=
  ∃ k ≤ count, haltedSteps s = List.replicate k .tryTx

namespace Watching

variable {s : BridgeLoopState (Watched ω)}

/-- nothing is called, or nothing that shows -/
theorem silent (h : Watching config started halted s) {s' : BridgeLoopState (Watched ω)}
    (hcalls : s'.host.calls = s.host.calls) (hhalted : halted s.host.host = true → halted s'.host.host = true)
    (hdeadline : s'.deadline = s.deadline) (hdatagrams : s'.txDatagramsProcessed = s.txDatagramsProcessed)
    (hpolls : s'.txPolls = s.txPolls) : Watching config started halted s' where
  deadline := hdeadline.trans h.deadline
  datagrams := by
    rw [hdatagrams]
    exact h.datagrams
  polls := by
    rw [hdatagrams, hpolls]
    exact h.polls
  burst := by
    rw [hcalls]
    exact h.burst
  timeout := by
    rw [hcalls]
    exact h.timeout
  lastSteps := by
    rw [hcalls]
    exact h.lastSteps
  settled := by
    rw [hcalls]
    exact fun hne => hhalted (h.settled hne)

/-- reading the clock is no step -/
theorem sampled (h : Watching config started halted s) (hhalts : Halts hooks config started halted) :
    Watching config started halted (s.sampled (watched hooks halted)) ∧
      haltedSteps (s.sampled (watched hooks halted)) = haltedSteps s := by
  have hsteps : haltedSteps (s.sampled (watched hooks halted)) = haltedSteps s := by
    change (s.host.calls ++ [BridgeLoopCall.clock _]).filterMap _ = _
    rw [List.filterMap_append]
    exact List.append_nil _
  refine ⟨⟨h.deadline, h.datagrams, h.polls, h.burst.snoc_other rfl, h.timeout.snoc trivial, ?_, ?_⟩, hsteps⟩
  · change LastSteps _ (haltedSteps _)
    rw [hsteps]
    exact h.lastSteps
  · change haltedSteps _ ≠ [] → _
    rw [hsteps]
    exact fun hne => hhalts.instantNow _ (h.settled hne)

/-- a step, made while or before the loop had to return -/
theorem stepped (h : Watching config started halted s) (hhalts : Halts hooks config started halted)
    (step : ProductionRuntimeBridgeLoopStep) (s' : BridgeLoopState (Watched ω))
    (hdeadline : s'.deadline = s.deadline)
    (hdatagrams : config.maxDatagrams ≠ 0 → s'.txDatagramsProcessed ≤ config.maxDatagrams)
    (hpolls : s'.txDatagramsProcessed ≤ s'.txPolls) (hhost : s'.host = ((watched hooks halted).handleStep step s.host).2)
    (hburst : ∀ answer, RunsBounded BridgeLoopCall.isReadRx BridgeLoopCall.isTryTx config.txBurstLimit.toNat
      (s.host.calls ++ [.step step answer (halted s.host.host)]))
    (htimeout : ∀ answer, ReadRxBounded config started s.host.calls (.step step answer (halted s.host.host)))
    (hlast : LastSteps config.txBurstLimit.toNat (haltedSteps s ++ [step])) :
    Watching config started halted s' ∧
      haltedSteps s' = if halted s.host.host = true then haltedSteps s ++ [step] else haltedSteps s := by
  have hcalls : s'.host.calls = s.host.calls ++ [.step step (hooks.handleStep step s.host.host).1.toOption
      (halted s.host.host)] := by rw [hhost]; rfl
  have hhost' : s'.host.host = (hooks.handleStep step s.host.host).2 := by rw [hhost]; rfl
  have hsteps : haltedSteps s' = if halted s.host.host = true then haltedSteps s ++ [step] else haltedSteps s := by
    rw [haltedSteps, hcalls, List.filterMap_append]
    cases halted s.host.host with
    | true => rfl
    | false => exact List.append_nil _
  refine ⟨⟨hdeadline.trans h.deadline, hdatagrams, hpolls, ?_, ?_, ?_, ?_⟩, hsteps⟩
  · rw [hcalls]
    exact hburst _
  · rw [hcalls]
    exact h.timeout.snoc (htimeout _)
  · change LastSteps _ (haltedSteps s')
    rw [hsteps]
    split_ifs
    · exact hlast
    · exact h.lastSteps
  · change haltedSteps s' ≠ [] → _
    rw [hsteps, hhost']
    split_ifs with hhalted
    · exact fun _ => hhalts.handleStep step _ hhalted
    · exact fun hne => absurd (h.settled hne) hhalted

end Watching

/-- the points of the loop: the steps that count are behind it at the top, and ahead of it before the burst -/
def bounds (hhalts : Halts hooks config started halted) : LoopProof (watched hooks halted) config where
  top s := Watching config started halted s ∧ Iterated 0 s ∧ TriedSince 0 s
  begun s := Watching config started halted s ∧ Iterated 1 s ∧ TriedSince 0 s
  unstopped s := Watching config started halted s ∧ Iterated 1 s ∧ TriedSince 0 s ∧
    ((∀ host, halted host = true → (hooks.stopRequested host).1 = true) → haltedSteps s = [])
  checked s := Watching config started halted s ∧ Iterated 1 s ∧ TriedSince 0 s ∧ haltedSteps s = []
  started _ s := Watching config started halted s ∧ Iterated 1 s ∧ TriedSince 0 s ∧ haltedSteps s = []
  burst _ remaining s := Watching config started halted s ∧ Iterated 0 s ∧ ∃ count,
    count + remaining = config.txBurstLimit.toNat ∧ TriedSince count s ∧ OnlyTried count s
  polled s := Watching config started halted s ∧ Iterated 0 s ∧ OnlyTried config.txBurstLimit.toNat s
  listening timeout s := Watching config started halted s ∧ Iterated 0 s ∧ OnlyTried config.txBurstLimit.toNat s ∧
    ∀ answer, ReadRxBounded config started s.host.calls (.step (.readRx timeout) answer (halted s.host.host))
  exit s := Watching config started halted s ∧ (Iterated 0 s ∨ Iterated 1 s)
  begin s h := by
    obtain ⟨hwatching, ⟨allowed, gated, hallowed, hgated, hiterations⟩, htried⟩ := h
    refine ⟨hwatching.silent rfl id rfl rfl rfl, ⟨allowed, gated, hallowed, hgated, ?_⟩, htried⟩
    change satAdd s.iterations 1 = _
    rw [hiterations, satCount_snoc]
  signalled s h _ := ⟨h.1.silent rfl (hhalts.stopRequested _) rfl rfl rfl, .inr h.2.1⟩
  unsignalled s h hstop := by
    obtain ⟨hwatching, hiterated, htried⟩ := h
    refine ⟨hwatching.silent rfl (hhalts.stopRequested _) rfl rfl rfl, hiterated, htried, fun hsignal => ?_⟩
    by_contra hne
    have hstopped : (hooks.stopRequested s.host.host).1 = true := hsignal _ (hwatching.settled hne)
    exact absurd (hstopped.symm.trans hstop) (by decide)
  expired s deadline h _ _ := ⟨(h.1.sampled hhalts).1, .inr h.2.1⟩
  unexpired s deadline h hdeadline hlt := by
    obtain ⟨hwatching, hiterated, htried, hsignal⟩ := h
    obtain ⟨hsampled, hsteps⟩ := hwatching.sampled hhalts
    refine ⟨hsampled, hiterated, htried.snoc _, hsteps.trans ?_⟩
    rcases hhalts.stops with hstops | ⟨duration, hduration, hreads⟩
    · exact hsignal hstops
    · by_contra hne
      have hlate : started + duration ≤ (hooks.instantNow s.host.host).1 := hreads _ (hwatching.settled hne)
      have hend : deadline = started + duration := by
        have h := hwatching.deadline
        rw [hdeadline, hduration] at h
        exact Option.some.inj h
      rw [hend] at hlt
      exact absurd hlt (Nat.not_lt.2 hlate)
  limited s h _ _ _ := ⟨h.1, .inr h.2.1⟩
  unlimited s h hdeadline _ := by
    obtain ⟨hwatching, hiterated, htried, hsignal⟩ := h
    refine ⟨hwatching, hiterated, htried, ?_⟩
    rcases hhalts.stops with hstops | ⟨duration, hduration, -⟩
    · exact hsignal hstops
    · have h := hwatching.deadline
      rw [hdeadline, hduration] at h
      cases h
  start s h := by
    obtain ⟨hwatching, hiterated, htried, hnone⟩ := h
    obtain ⟨hsampled, hsteps⟩ := hwatching.sampled hhalts
    exact ⟨hsampled.silent rfl (hhalts.onIterationStart _ _) rfl rfl rfl, hiterated, htried.snoc _, hsteps.trans hnone⟩
  allowed now s h _ := by
    obtain ⟨hwatching, ⟨allowed, gated, hallowed, hgated, hiterations⟩, htried, hnone⟩ := h
    refine ⟨hwatching.silent rfl id rfl rfl rfl, ⟨allowed + 1, gated, ?_, hgated, ?_⟩, 0, Nat.zero_add _, htried,
      0, le_rfl, hnone⟩
    · change satAdd s.airtimeTxAllowedIterations 1 = _
      rw [hallowed, satCount_snoc]
    · change s.iterations = _
      rw [hiterations]
      congr 1
      omega
  gated now s h _ := by
    obtain ⟨hwatching, ⟨allowed, gated, hallowed, hgated, hiterations⟩, htried, hnone⟩ := h
    refine ⟨hwatching.silent rfl id rfl rfl rfl, ⟨allowed, gated + 1, hallowed, ?_, ?_⟩, 0, Nat.zero_le _, hnone⟩
    · change satAdd s.airtimeTxGatedIterations 1 = _
      rw [hgated, satCount_snoc]
    · exact hiterations
  leave now remaining s h := by
    obtain ⟨hwatching, hiterated, count, hcount, -, k, hk, hsteps⟩ := h
    exact ⟨hwatching, hiterated, k, by omega, hsteps⟩
  tryTx now remaining s h hmay := by
    obtain ⟨hwatching, hiterated, count, hcount, htried, k, hk, hsteps⟩ := h
    have hroom : config.maxDatagrams = 0 ∨ s.txDatagramsProcessed < config.maxDatagrams := by
      rw [mayTransmit, decide_eq_true_iff] at hmay
      exact hmay.1
    have hburst (answer : Option ProductionRuntimeBridgeLoopStepOutcome) :
        RunsBounded BridgeLoopCall.isReadRx BridgeLoopCall.isTryTx config.txBurstLimit.toNat
          (s.host.calls ++ [.step .tryTx answer (halted s.host.host)]) :=
      hwatching.burst.snoc ((htried.snoc _).mono (by rw [show (BridgeLoopCall.isTryTx _).toNat = 1 from rfl]; omega))
    have hpolls : s.txDatagramsProcessed ≤ satAdd s.txPolls 1 :=
      UInt64.le_trans hwatching.polls (le_satAdd _ _)
    intro polledTx s'
    obtain ⟨hstepped, hsteps'⟩ := hwatching.stepped hhalts .tryTx s' rfl hwatching.datagrams hpolls rfl hburst
      (fun _ => trivial) ⟨k + 1, by omega, .inl (by rw [hsteps, List.replicate_succ'])⟩
    have hiterated' : Iterated 0 s' := hiterated
    have honly : OnlyTried (count + 1) s' := by
      rw [OnlyTried, hsteps', hsteps]
      split_ifs
      · exact ⟨k + 1, by omega, List.replicate_succ'.symm⟩
      · exact ⟨k, by omega, rfl⟩
    apply AfterTx.of
    · intro _
      obtain ⟨hsampled, hsame⟩ := hstepped.sampled hhalts
      refine ⟨⟨hsampled.deadline, fun hmax => ?_, satAdd_mono hwatching.polls (UInt64.le_refl 1), hsampled.burst, hsampled.timeout,
        hsampled.lastSteps, hsampled.settled⟩, hiterated', count + 1, by omega, ?_, ?_⟩
      · exact satAdd_le_of_lt (hroom.resolve_left hmax)
      · exact (htried.snoc _).snoc _
      · obtain ⟨k', hk', hreplicate⟩ := honly
        exact ⟨k', hk', hsame.trans hreplicate⟩
    · intro _
      obtain ⟨k', hk', hreplicate⟩ := honly
      exact ⟨⟨hstepped, hiterated', k', by omega, hreplicate⟩, hstepped, .inl hiterated'⟩
  timeUp s deadline h _ _ := ⟨(h.1.sampled hhalts).1, .inl h.2.1⟩
  timeLeft s deadline h hdeadline hleft := by
    obtain ⟨hwatching, hiterated, k, hk, hsteps⟩ := h
    obtain ⟨hsampled, hsame⟩ := hwatching.sampled hhalts
    refine ⟨hsampled, hiterated, ⟨k, hk, hsame.trans hsteps⟩, fun answer => ⟨min_le_left _ _, ?_⟩⟩
    intro duration hduration
    have hend : deadline = started + duration := by
      have h := hwatching.deadline
      rw [hdeadline, hduration] at h
      exact Option.some.inj h
    refine ⟨s.host.calls, (hooks.instantNow s.host.host).1, rfl, ?_⟩
    rw [hend]
    exact min_le_right _ _
  unbounded s h hdeadline := by
    refine ⟨h.1, h.2.1, h.2.2, fun answer => ⟨le_rfl, fun duration hduration => ?_⟩⟩
    have hnone := h.1.deadline
    rw [hdeadline, hduration] at hnone
    cases hnone
  readRx timeout s h := by
    obtain ⟨hwatching, hiterated, ⟨k, hk, hsteps⟩, htimeout⟩ := h
    intro polledRx s'
    have hburst (answer : Option ProductionRuntimeBridgeLoopStepOutcome) :
        RunsBounded BridgeLoopCall.isReadRx BridgeLoopCall.isTryTx config.txBurstLimit.toNat
          (s.host.calls ++ [.step (.readRx timeout) answer (halted s.host.host)]) := hwatching.burst.snoc_other rfl
    obtain ⟨hstepped, -⟩ := hwatching.stepped hhalts (.readRx timeout) s' rfl hwatching.datagrams hwatching.polls
      rfl hburst htimeout ⟨k, hk, .inr ⟨timeout, by rw [hsteps]⟩⟩
    exact AfterRx.of ⟨hstepped, hiterated, TailBounded.snoc_break rfl⟩ ⟨hstepped, .inl hiterated⟩ _

/-! ## Returning -/

/-- the loop has to return -/
def MustReturn (config : ProductionRuntimeBridgeLoopRunConfig) (started : ℕ) (halted : ω → Bool)
    (s : BridgeLoopState ω) : Prop :=
  s.deadline = config.duration.map (started + ·) ∧ halted s.host = true

/-- the checks at the top of an iteration notice -/
theorem checkStop_halted (hhalts : Halts hooks config started halted) :
    Triple (MustReturn config started halted) (checkStop hooks config) (fun _ _ => False)
      fun exit _ => ∃ reason, exit = .stop reason := by
  rcases hhalts.stops with hstops | ⟨duration, hduration, hreads⟩
  · have hsignal : Triple (MustReturn config started halted) (onWorld hooks.stopRequested : LoopAction ω ε Bool)
        (fun stop _ => stop = true) fun exit _ => ∃ reason, exit = .stop reason :=
      Triple.ofState fun s hs => hstops _ hs.2
    apply Triple.bind hsignal
    intro stop
    split_ifs with hstop
    · exact Triple.bind_fails (Triple.fail fun _ _ => ⟨_, rfl⟩)
    · exact fun s hs => absurd hs hstop
  · have hsignal : Triple (MustReturn config started halted) (onWorld hooks.stopRequested : LoopAction ω ε Bool)
        (fun _ => MustReturn config started halted) fun exit _ => ∃ reason, exit = .stop reason :=
      Triple.ofState fun s hs => ⟨hs.1, hhalts.stopRequested _ hs.2⟩
    apply Triple.bind hsignal
    intro stop
    split_ifs
    · exact Triple.bind_fails (Triple.fail fun _ _ => ⟨_, rfl⟩)
    · refine Triple.bind (Triple.read (Q := fun deadline s => deadline = some (started + duration) ∧ halted s.host = true)
        fun s hs => ⟨?_, hs.2⟩) fun deadline => Triple.assume ?_
      · rw [hs.1, hduration]
        rfl
      · rintro rfl
        have hnow : Triple (fun s => halted s.host = true) (onWorld hooks.instantNow : LoopAction ω ε ℕ)
            (fun now _ => started + duration ≤ now) fun exit _ => ∃ reason, exit = .stop reason :=
          Triple.ofState fun s hs => hreads _ hs
        apply Triple.bind hnow
        intro now
        split_ifs with hlate
        · exact Triple.fail fun _ _ => ⟨_, rfl⟩
        · exact fun s hs => absurd hs hlate

theorem turn_halted (hhalts : Halts hooks config started halted) {s : BridgeLoopState ω}
    (hs : MustReturn config started halted s) : ∃ result, turn hooks config s = .stopped result := by
  have hiteration : Triple (MustReturn config started halted) (iteration hooks config) (fun _ _ => False)
      fun exit _ => ∃ reason, exit = .stop reason := by
    have hbegin : Triple (MustReturn config started halted)
        (Action.modify fun s => { s with iterations := satAdd s.iterations 1 } : LoopAction ω ε Unit)
        (fun _ => MustReturn config started halted) fun exit _ => ∃ reason, exit = .stop reason :=
      Triple.modify fun s hs => hs
    apply Triple.bind hbegin
    intro _
    exact Triple.bind_fails (checkStop_halted hhalts)
  obtain ⟨exit, s', hrun, reason, rfl⟩ := hiteration.fails hs
  rw [turn, hrun]
  exact ⟨_, rfl⟩

theorem Halts.watched (h : Halts hooks config started halted) :
    Halts (watched hooks halted) config started fun w => halted w.host where
  instantNow _ := h.instantNow _
  onIterationStart _ _ := h.onIterationStart _ _
  stopRequested _ := h.stopRequested _
  handleStep _ _ := h.handleStep _ _
  stops := by
    rcases h.stops with hstops | ⟨duration, hduration, hreads⟩
    · exact .inl fun w => hstops w.host
    · exact .inr ⟨duration, hduration, fun w => hreads w.host⟩

/-- what is observed at a point of a run -/
theorem Watching.observed {s : BridgeLoopState (Watched ω)} (h : Watching config started halted s)
    (hiterated : Iterated 0 s ∨ Iterated 1 s) (reason : ProductionRuntimeBridgeLoopStopReason) :
    CallsBounded config started s.host.calls ∧ CountsBounded config (s.outcome reason) := by
  refine ⟨⟨h.burst, h.timeout, h.lastSteps⟩, h.datagrams, h.polls, fun hlt => ?_⟩
  rcases hiterated with hiterated | hiterated
  · exact hiterated.counts (by decide) hlt
  · exact hiterated.counts (by decide) hlt

/-- **Bounds.** In every run, on every clock and whatever the steps answer, the calls and the counters of the loop are
bounded, and it returns as soon as an iteration begins in which it has to. -/
theorem runProductionBridgeLoop_bounded (config : ProductionRuntimeBridgeLoopRunConfig) (hooks : BridgeLoopHooks ω ε)
    (host : ω) (halted : ω → Bool) (hhalts : Halts hooks config (hooks.instantNow host).1 halted) (fuel : ℕ) :
    (runProductionBridgeLoop (watched hooks halted) config ⟨host, []⟩ fuel).Sat
        (fun s => CallsBounded config (hooks.instantNow host).1 s.host.calls ∧
          ∀ reason, CountsBounded config (s.outcome reason))
        (fun result => CallsBounded config (hooks.instantNow host).1 result.2.calls ∧
          ∀ outcome, result.1 = .ok outcome → CountsBounded config outcome) ∧
      ∀ s, runProductionBridgeLoop (watched hooks halted) config ⟨host, []⟩ fuel = .running s →
        halted s.host.host = true →
        ∃ result, runProductionBridgeLoop (watched hooks halted) config ⟨host, []⟩ (fuel + 1) = .stopped result := by
  have hstart : (bounds hhalts).top (BridgeLoopState.start (watched hooks halted) config ⟨host, []⟩) := by
    have hcalls : (BridgeLoopState.start (watched hooks halted) config ⟨host, []⟩ : BridgeLoopState _).host.calls
      = [] ++ [.clock (hooks.instantNow host).1] := rfl
    refine ⟨⟨rfl, fun _ => UInt64.zero_le, UInt64.le_refl _, ?_, ?_, ⟨0, Nat.zero_le _, .inl rfl⟩, fun hne => ?_⟩,
      ⟨0, 0, rfl, rfl, rfl⟩, ?_⟩
    · rw [hcalls]
      exact RunsBounded.nil.snoc_other rfl
    · rw [hcalls]
      exact Causal.nil.snoc trivial
    · exact absurd rfl hne
    · rw [TriedSince, hcalls]
      exact TailBounded.nil.snoc _
  have hrun := (bounds hhalts).run hstart fuel
  refine ⟨hrun.weaken (fun s hs => ?_) fun result hresult => ?_, fun s hs hhalted => ?_⟩
  · have htop : Watching config _ halted s ∧ Iterated 0 s ∧ TriedSince 0 s := hs
    exact ⟨(htop.1.observed (.inl htop.2.1) .signal).1, fun reason => (htop.1.observed (.inl htop.2.1) reason).2⟩
  · obtain ⟨s, hexit, hhost, houtcome⟩ := hresult
    have hpoint : Watching config _ halted s ∧ (Iterated 0 s ∨ Iterated 1 s) := hexit
    rw [hhost]
    refine ⟨(hpoint.1.observed hpoint.2 .signal).1, fun outcome hok => ?_⟩
    obtain ⟨reason, rfl⟩ := houtcome outcome hok
    exact (hpoint.1.observed hpoint.2 reason).2
  · rw [hs] at hrun
    have htop : Watching config _ halted s ∧ Iterated 0 s ∧ TriedSince 0 s := hrun
    obtain ⟨result, hresult⟩ := turn_halted hhalts.watched ⟨htop.1.deadline, hhalted⟩
    exact ⟨result, (loopFor_succ hs).trans hresult⟩

end Bounds

/-- the hooks of `slowHooks`, with a stop request after three milliseconds -/
def stoppingHooks : BridgeLoopHooks ℕ Unit :=
  { slowHooks with stopRequested := fun time => (decide (3 * 10 ^ 6 ≤ time), time) }

def stopping (time : ℕ) : Bool := decide (3 * 10 ^ 6 ≤ time)

theorem stoppingHooks_halts : Halts stoppingHooks slowConfig 0 stopping where
  instantNow _ h := h
  onIterationStart _ _ h := h
  stopRequested _ h := h
  handleStep step time h := by
    have htime := slowHooks_clock.handleStep step time
    rw [stopping, decide_eq_true_iff] at h ⊢
    exact h.trans htime
  stops := .inl fun _ h => h

theorem runProductionBridgeLoop_bounded_sample :
    (runProductionBridgeLoop (watched stoppingHooks stopping) slowConfig ⟨0, []⟩ 2).Sat
        (fun s => CallsBounded slowConfig 0 s.host.calls ∧ ∀ reason, CountsBounded slowConfig (s.outcome reason))
        (fun result => CallsBounded slowConfig 0 result.2.calls ∧
          ∀ outcome, result.1 = .ok outcome → CountsBounded slowConfig outcome) ∧
      ∀ s, runProductionBridgeLoop (watched stoppingHooks stopping) slowConfig ⟨0, []⟩ 2 = .running s →
        stopping s.host.host = true →
        ∃ result, runProductionBridgeLoop (watched stoppingHooks stopping) slowConfig ⟨0, []⟩ 3 = .stopped result :=
  runProductionBridgeLoop_bounded slowConfig stoppingHooks 0 stopping stoppingHooks_halts 2

/-! ## A saturated counter -/

/-- a host that counts the RX steps: the first takes a millisecond, and it asks to stop after `2 ^ 64` of them -/
def patientHooks : BridgeLoopHooks ℕ Unit where
  instantNow steps := (if steps = 0 then 0 else 10 ^ 6, steps)
  onIterationStart _ steps := steps
  stopRequested steps := (decide (2 ^ 64 ≤ steps), steps)
  handleStep step steps :=
    match step with
    | .tryTx => (.ok .txEmpty, steps)
    | .readRx _ => (.ok .rxTimeout, steps + 1)

/-- a millisecond to receive, a millisecond to transmit, and so on -/
def patientConfig : ProductionRuntimeBridgeLoopRunConfig :=
  { duration := none, rxTimeout := 10 ^ 6, txBurstLimit := 1, txMinInterval := 0, maxDatagrams := 0
    airtimeSchedule := .tdd .rx 1 1 0 0 }

/-- after one gated iteration and `n` allowed ones -/
def patientState (n : ℕ) : BridgeLoopState ℕ where
  host := n + 1
  started := 0
  deadline := none
  iterations := satCount 0 (n + 1)
  txPolls := satCount 0 n
  rxPolls := satCount 0 (n + 1)
  airtimeTxAllowedIterations := satCount 0 n
  airtimeTxGatedIterations := 1

theorem patient_checkStop {s : BridgeLoopState ℕ} (hdeadline : s.deadline = none) (hs : s.host < 2 ^ 64) :
    checkStop patientHooks patientConfig s = (.ok (), s) := by
  have hstop : (onWorld patientHooks.stopRequested : LoopAction ℕ Unit Bool) s = (.ok false, s) := by
    change (Except.ok (decide (2 ^ 64 ≤ s.host)), s) = _
    rw [decide_eq_false (Nat.not_le.2 hs)]
  have hread : (Action.read BridgeLoopState.deadline : LoopAction ℕ Unit (Option ℕ)) s = (.ok none, s) := by
    rw [Action.read_run, hdeadline]
  rw [checkStop, Action.bind_of_ok hstop]
  change (Action.read BridgeLoopState.deadline >>= _) s = _
  rw [Action.bind_of_ok hread]
  rfl

/-- one more iteration, allowed -/
theorem patient_turn {n : ℕ} (hn : n + 1 < 2 ^ 64) :
    turn patientHooks patientConfig (patientState n) = .running (patientState (n + 1)) := by
  let begun : BridgeLoopState ℕ := { patientState n with iterations := satCount 0 (n + 2) }
  have hbegin : (Action.modify fun s => { s with iterations := satAdd s.iterations 1 } : LoopAction ℕ Unit Unit)
      (patientState n) = (.ok (), begun) := by
    change (Except.ok (), { patientState n with iterations := satAdd (satCount 0 (n + 1)) 1 }) = _
    rw [satCount_snoc]
  have hcheck : checkStop patientHooks patientConfig begun = (.ok (), begun) := patient_checkStop rfl hn
  have hnow : (onWorld patientHooks.instantNow : LoopAction ℕ Unit ℕ) begun = (.ok (10 ^ 6), begun) := rfl
  have hhook : (onWorld fun host => ((), patientHooks.onIterationStart (10 ^ 6) host) : LoopAction ℕ Unit Unit) begun
      = (.ok (), begun) := rfl
  have hallowed : patientConfig.airtimeSchedule.txAllowedAtElapsed (10 ^ 6 - 0) = true := by decide +kernel
  let allowed : BridgeLoopState ℕ := { begun with airtimeTxAllowedIterations := satCount 0 (n + 1) }
  let tried : BridgeLoopState ℕ := { allowed with txPolls := satCount 0 (n + 1) }
  have hburst : txBurst patientHooks patientConfig (10 ^ 6) 1 allowed = (.ok (), tried) := by
    change (Except.ok (), { allowed with txPolls := satAdd (satCount 0 n) 1 }) = _
    rw [satCount_snoc]
  have htransmit : transmit patientHooks patientConfig (10 ^ 6) begun = (.ok (), tried) := by
    have hread : (Action.read BridgeLoopState.started : LoopAction ℕ Unit ℕ) begun = (.ok 0, begun) := rfl
    have hcount : (Action.modify fun s => { s with airtimeTxAllowedIterations := satAdd s.airtimeTxAllowedIterations 1 } :
        LoopAction ℕ Unit Unit) begun = (.ok (), allowed) := by
      change (Except.ok (), { begun with airtimeTxAllowedIterations := satAdd (satCount 0 n) 1 }) = _
      rw [satCount_snoc]
    rw [transmit, Action.bind_of_ok hread, if_pos hallowed, Action.bind_of_ok hcount]
    exact hburst
  have hreceive : receive patientHooks (10 ^ 6) tried = (.ok (), patientState (n + 1)) := by
    change (Except.ok (), { tried with host := n + 1 + 1, rxPolls := satAdd (satCount 0 (n + 1)) 1 }) = _
    rw [satCount_snoc]
    rfl
  have hrest : iteration patientHooks patientConfig (patientState n) = (.ok (), patientState (n + 1)) := by
    rw [iteration, Action.bind_of_ok hbegin, Action.bind_of_ok hcheck, Action.bind_of_ok hnow, Action.bind_of_ok hhook,
      Action.bind_of_ok htransmit]
    exact hreceive
  rw [turn, hrest]

theorem patient_runs {n : ℕ} (hn : n < 2 ^ 64) :
    runProductionBridgeLoop patientHooks patientConfig 0 (n + 1) = .running (patientState n) := by
  induction n with
  | zero => rfl
  | succ n ih => exact (loopFor_succ (ih (by omega))).trans (patient_turn hn)

/-- the stop request at the end -/
theorem patient_stops {n : ℕ} (hn : n + 1 = 2 ^ 64) :
    turn patientHooks patientConfig (patientState n) = .stopped (.ok
      ({ patientState n with iterations := satCount 0 (n + 2) }.outcome .signal), n + 1) := by
  let begun : BridgeLoopState ℕ := { patientState n with iterations := satCount 0 (n + 2) }
  have hbegin : (Action.modify fun s => { s with iterations := satAdd s.iterations 1 } : LoopAction ℕ Unit Unit)
      (patientState n) = (.ok (), begun) := by
    change (Except.ok (), { patientState n with iterations := satAdd (satCount 0 (n + 1)) 1 }) = _
    rw [satCount_snoc]
  have hstop : (onWorld patientHooks.stopRequested : LoopAction ℕ Unit Bool) begun = (.ok true, begun) := by
    change (Except.ok (decide (2 ^ 64 ≤ n + 1)), begun) = _
    rw [decide_eq_true hn.ge]
  have hcheck : checkStop patientHooks patientConfig begun = (.error (.stop .signal), begun) := by
    rw [checkStop, Action.bind_of_ok hstop]
    rfl
  have hrest : iteration patientHooks patientConfig (patientState n) = (.error (.stop .signal), begun) := by
    rw [iteration, Action.bind_of_ok hbegin, Action.bind_of_error hcheck]
  rw [turn, hrest]
  rfl

/-- the gated iteration is counted, but the counter of all iterations has no room for it -/
theorem gated_iteration_forgotten :
    ∃ fuel outcome host, runProductionBridgeLoop patientHooks patientConfig 0 fuel = .stopped (.ok outcome, host) ∧
      ¬(outcome.airtimeTxAllowedIterations.toNat + outcome.airtimeTxGatedIterations.toNat = outcome.iterations.toNat ∨
        outcome.airtimeTxAllowedIterations.toNat + outcome.airtimeTxGatedIterations.toNat + 1
          = outcome.iterations.toNat) := by
  obtain ⟨n, hn⟩ : ∃ n, n + 1 = 2 ^ 64 := ⟨2 ^ 64 - 1, by norm_num⟩
  refine ⟨n + 2, _, _, (loopFor_succ (patient_runs (by omega))).trans (patient_stops hn), ?_⟩
  have hzero : (0 : UInt64).toNat = 0 := rfl
  have hallowed : (satCount 0 n).toNat = u64Max := by
    rw [satCount_toNat, u64Max]
    omega
  have hiterations : (satCount 0 (n + 2)).toNat = u64Max := by
    rw [satCount_toNat, u64Max]
    omega
  change ¬((satCount 0 n).toNat + 1 = (satCount 0 (n + 2)).toNat ∨
    (satCount 0 n).toNat + 1 + 1 = (satCount 0 (n + 2)).toNat)
  rw [hallowed, hiterations]
  omega

end WfbLink.Runtime
