/-
The verdict of a link with helper processes: what `join` reports about a whole run.

- `Verdict`: what a report should say about what became of the helpers and of the radio.
- `join_verdict`: a run that meets the conditions of `FairEnd` and `FairCalls` gets that report.
- `unsound_verdicts`: four runs that do not.
-/
import WfbLink.Link.Managed

namespace WfbLink.Link

open WfbLink.Core WfbLink.Runtime

/-- the children of a handle, and the world -/
abbrev LinkState : Type := Beside (List ManagedChild) LinkWorld

/-- what became of the helper of a child -/
def helperOf (s : LinkState) (child : ManagedChild) : Helper := s.world.helpers child.pid

def ManagedChild.degradedName (child : ManagedChild) : String := child.streamName.getD child.name

/-! ## Runs -/

/-- a link as it was started: the radio thread runs the runtime, and nobody was asked to stop -/
structure Started (handle : ManagedWfbStreamsHandle) (s : LinkState) : Prop where
  runtime : RunsRuntime handle.radioHandle.healthFile s.world.radio
  pids : (s.held.map ManagedChild.pid).Nodup
  children : ∀ child ∈ s.held, child.status = none ∧ child.terminatedByOwner = false
  helpers : ∀ child ∈ s.held, (helperOf s child).signalled = false

/-- an answer of `health` that the link has failed -/
def LinkAnswer.reportsFailed : LinkAnswer → Bool
  | .health (.ok answer) => answer.lifecycle = .failed
  | _ => false

/-- a report that is true of what became of the helpers and of the radio -/
structure Verdict (handle : ManagedWfbStreamsHandle) (answers : List LinkAnswer) (s : LinkState)
    (report : ManagedReport) : Prop where
  radioFailed : s.world.radio.result = some .fail → report.lifecycle = .failed
  helperFailed : ∀ child ∈ s.held, child.criticality = .required → (helperOf s child).ownEnd ≠ none →
    report.lifecycle = .failed
  degraded : ∀ child ∈ s.held, child.criticality = .bestEffort → (helperOf s child).ownEnd ≠ none →
    child.degradedName ∈ report.degradedStreams
  stopped : report.lifecycle = .stopped → s.world.radio.result = some .pass ∧ report.degradedStreams = [] ∧
    handle.startupDegradations = [] ∧ handle.radioHandle.startupDegradedStreams = [] ∧
    ∀ child ∈ s.held, child.criticality = .bestEffort → (helperOf s child).ownEnd = none
  healthFailed : ∀ answer ∈ answers, answer.reportsFailed = true → report.lifecycle = .failed

instance (handle : ManagedWfbStreamsHandle) (answers : List LinkAnswer) (s : LinkState) (report : ManagedReport) :
    Decidable (Verdict handle answers s report) :=
  decidable_of_iff
    ((s.world.radio.result = some .fail → report.lifecycle = .failed) ∧
      (∀ child ∈ s.held, child.criticality = .required → (helperOf s child).ownEnd ≠ none →
        report.lifecycle = .failed) ∧
      (∀ child ∈ s.held, child.criticality = .bestEffort → (helperOf s child).ownEnd ≠ none →
        child.degradedName ∈ report.degradedStreams) ∧
      (report.lifecycle = .stopped → s.world.radio.result = some .pass ∧ report.degradedStreams = [] ∧
        handle.startupDegradations = [] ∧ handle.radioHandle.startupDegradedStreams = [] ∧
        ∀ child ∈ s.held, child.criticality = .bestEffort → (helperOf s child).ownEnd = none) ∧
      ∀ answer ∈ answers, answer.reportsFailed = true → report.lifecycle = .failed)
    ⟨fun ⟨radioFailed, helperFailed, degraded, stopped, healthFailed⟩ =>
      ⟨radioFailed, helperFailed, degraded, stopped, healthFailed⟩,
    fun h => ⟨h.radioFailed, h.helperFailed, h.degraded, h.stopped, h.healthFailed⟩⟩

/-- what the verdict needs to know of the end of a run -/
structure FairEnd (handle : ManagedWfbStreamsHandle) (s : LinkState) : Prop where
  /-- a best-effort helper that ends on its own is polled before the helpers are asked to stop -/
  noticed : ∀ child ∈ s.held, child.criticality = .bestEffort → (helperOf s child).signal ≠ some .late
  /-- a required helper that ends on its own does not look as if it had been stopped -/
  exits : ∀ child ∈ s.held, child.criticality = .required → ∀ status ∈ (helperOf s child).ownEnd, ¬ status.Quiet
  /-- where the radio fails, nothing is degraded, or a required helper fails as well -/
  precedence : s.world.radio.result = some .fail →
    (handle.startupDegradations = [] ∧
      ∀ child ∈ s.held, child.criticality = .bestEffort → (helperOf s child).ownEnd = none) ∨
    ∃ child ∈ s.held, child.criticality = .required ∧ ∃ status ∈ (helperOf s child).status, ¬ status.Quiet
  /-- the radio has no degraded streams of its own -/
  radioStreams : handle.radioHandle.startupDegradedStreams = []

/-- a call of `health` does not see a required helper that has been stopped, nor a radio that passes from before its first
record to its end -/
structure FairHealth (handle : ManagedWfbStreamsHandle) (s s' : LinkState) : Prop where
  helpers : ∀ child ∈ s'.held, child.criticality = .required → (helperOf s' child).signal = some .inTime →
    ∀ status ∈ (helperOf s' child).status, ¬ status.Quiet
  radio : s.world.radio.result = some .pass →
    s.world.view handle.radioHandle.healthFile ≠ .absent ∨ s'.world.finished = false

instance (handle : ManagedWfbStreamsHandle) (s : LinkState) : Decidable (FairEnd handle s) :=
  decidable_of_iff
    ((∀ child ∈ s.held, child.criticality = .bestEffort → (helperOf s child).signal ≠ some .late) ∧
      (∀ child ∈ s.held, child.criticality = .required → ∀ status ∈ (helperOf s child).ownEnd, ¬ status.Quiet) ∧
      (s.world.radio.result = some .fail →
        (handle.startupDegradations = [] ∧
          ∀ child ∈ s.held, child.criticality = .bestEffort → (helperOf s child).ownEnd = none) ∨
        ∃ child ∈ s.held, child.criticality = .required ∧ ∃ status ∈ (helperOf s child).status, ¬ status.Quiet) ∧
      handle.radioHandle.startupDegradedStreams = [])
    ⟨fun ⟨noticed, exits, precedence, radioStreams⟩ => ⟨noticed, exits, precedence, radioStreams⟩,
    fun h => ⟨h.noticed, h.exits, h.precedence, h.radioStreams⟩⟩

instance (handle : ManagedWfbStreamsHandle) (s s' : LinkState) : Decidable (FairHealth handle s s') :=
  decidable_of_iff
    ((∀ child ∈ s'.held, child.criticality = .required → (helperOf s' child).signal = some .inTime →
        ∀ status ∈ (helperOf s' child).status, ¬ status.Quiet) ∧
      (s.world.radio.result = some .pass →
        s.world.view handle.radioHandle.healthFile ≠ .absent ∨ s'.world.finished = false))
    ⟨fun ⟨helpers, radio⟩ => ⟨helpers, radio⟩, fun h => ⟨h.helpers, h.radio⟩⟩

/-- every call of `health` is a fair one -/
def FairCalls (handle : ManagedWfbStreamsHandle) : LinkState → List LinkCall → Prop
  | _, [] => True
  | s, next :: rest =>
    (next = .health → FairHealth handle s (handle.call s next).2) ∧ FairCalls handle (handle.call s next).2 rest

instance decidableFairCalls (handle : ManagedWfbStreamsHandle) :
    (s : LinkState) → (calls : List LinkCall) → Decidable (FairCalls handle s calls)
  | _, [] => .isTrue trivial
  | s, next :: rest =>
    have := decidableFairCalls handle (handle.call s next).2 rest
    inferInstanceAs (Decidable ((next = .health → FairHealth handle s (handle.call s next).2) ∧
      FairCalls handle (handle.call s next).2 rest))

/-! ## What the end of a run says -/

theorem Started.fits {handle : ManagedWfbStreamsHandle} {s : LinkState} (h : Started handle s) : Each Fits s := by
  refine ⟨h.pids, fun child hchild => ?_⟩
  obtain ⟨hstatus, hterminated⟩ := h.children child hchild
  refine ⟨fun status hs => ?_, hterminated.trans (h.helpers child hchild).symm⟩
  rw [hstatus] at hs
  cases hs

section End

variable {handle : ManagedWfbStreamsHandle} {s s' : LinkState} {report : ManagedReport} {child : ManagedChild}

/-- a helper that ended on its own has that status -/
theorem Helper.status_of_ownEnd {helper : Helper} {status : ExitStatus} (h : helper.ownEnd = some status) :
    helper.status = some status := by
  cases helper with
  | running asked => cases h
  | ended signal status => cases signal <;> first | exact h | cases h

/-- a required child that has no quiet status makes the link fail -/
theorem JoinReport.failed_of_child (h : JoinReport handle s report) (hchild : child ∈ s.held)
    (hrequired : child.criticality = .required) (hstatus : ∀ status, child.status = some status → ¬ status.Quiet) :
    report.lifecycle = .failed := by
  rw [h.lifecycle, joinLifecycle, if_pos]
  exact List.any_eq_true.2 ⟨_, List.mem_map_of_mem hchild, exitedBadly_iff.2 ⟨hrequired, hstatus⟩⟩

/-- the status of a helper is that of its child, if the child has one -/
theorem JoinReport.failed_of_helper (h : JoinReport handle s report) (hchild : child ∈ s.held)
    (hrequired : child.criticality = .required) {status : ExitStatus} (hstatus : (helperOf s child).status = some status)
    (hquiet : ¬ status.Quiet) : report.lifecycle = .failed := by
  refine h.failed_of_child hchild hrequired fun other hother => ?_
  have hsame := (h.polled.2 child hchild).status other hother
  change (helperOf s child).status = some other at hsame
  rw [hstatus] at hsame
  rwa [← Option.some.inj hsame]

/-- a degraded best-effort child is one whose helper ended on its own -/
theorem JoinReport.ownEnd_of_degraded (h : JoinReport handle s report) (hchild : child ∈ s.held)
    (hdegraded : child.degradation.isSome = true) :
    child.criticality = .bestEffort ∧ (helperOf s child).ownEnd ≠ none := by
  obtain ⟨hcriticality, hstatus, hterminated⟩ := degradation_isSome.1 hdegraded
  refine ⟨hcriticality, ?_⟩
  obtain ⟨status, hstatus⟩ := Option.ne_none_iff_exists'.1 hstatus
  have hfits := (h.polled.2 child hchild).toFits
  have hhelper : (helperOf s child).status = some status := hfits.status status hstatus
  have hsignalled : (helperOf s child).signalled = false := hfits.signalled.symm.trans hterminated
  cases hended : helperOf s child with
  | running asked =>
    rw [hended] at hhelper
    cases hhelper
  | ended signal other =>
    rw [hended] at hsignalled
    cases signal with
    | never => exact nofun
    | inTime | late => cases hsignalled

/-- a best-effort helper that ended on its own, and was noticed, is degraded -/
theorem JoinReport.degraded_of_ownEnd (h : JoinReport handle s report) (hend : FairEnd handle s) (hchild : child ∈ s.held)
    (hcriticality : child.criticality = .bestEffort) (hown : (helperOf s child).ownEnd ≠ none) :
    child.degradation.isSome = true := by
  have hpolled := h.polled.2 child hchild
  refine degradation_isSome.2 ⟨hcriticality, fun hnone => hown (hpolled.noEnd hnone), hpolled.signalled.trans ?_⟩
  change (helperOf s child).signalled = false
  cases hended : helperOf s child with
  | running asked =>
    rw [hended] at hown
    exact absurd rfl hown
  | ended signal status =>
    cases signal with
    | never => rfl
    | inTime =>
      rw [hended] at hown
      exact absurd rfl hown
    | late => exact absurd (congrArg Helper.signal hended) (hend.noticed child hchild hcriticality)

theorem mem_degradations (handle : ManagedWfbStreamsHandle) (hchild : child ∈ s.held) (hdegraded : child.degradation.isSome = true) :
    ∃ degradation ∈ handle.degradations s.held, degradation.name = child.degradedName := by
  obtain ⟨degradation, hdegradation⟩ := Option.isSome_iff_exists.1 hdegraded
  exact ⟨degradation, List.mem_append_right _ (List.mem_filterMap.2 ⟨child, hchild, hdegradation⟩),
    degradation_name hdegradation⟩

/-- a link has stopped only if nothing was degraded and the radio has stopped -/
theorem joinLifecycle_stopped {children : List ChildProcessReport} {degradations : List LinkStreamDegradation}
    {radio : LinkLifecycle} (h : joinLifecycle children degradations radio = .stopped) :
    degradations = [] ∧ radio = .stopped := by
  rw [joinLifecycle] at h
  split_ifs at h with hbad hdegraded hstopped
  exact ⟨not_not.1 hdegraded, hstopped⟩

/-- a radio that failed makes the link fail -/
theorem JoinReport.failed_of_radio (h : JoinReport handle s report) (hend : FairEnd handle s)
    (hfail : s.world.radio.result = some .fail) : report.lifecycle = .failed := by
  rcases hend.precedence hfail with ⟨hstartup, hbest⟩ | ⟨child, hchild, hrequired, status, hstatus, hquiet⟩
  · have hnone : handle.degradations s.held = [] := by
      rw [ManagedWfbStreamsHandle.degradations, hstartup, List.nil_append, List.filterMap_eq_nil_iff]
      intro child hchild
      by_contra hsome
      obtain ⟨hcriticality, hown⟩ := h.ownEnd_of_degraded hchild (Option.isSome_iff_ne_none.2 hsome)
      exact hown (hbest child hchild hcriticality)
    have hresult : report.radio.result = .fail := by
      rw [RadioRun.result, h.radio] at hfail
      exact Option.some.inj hfail
    rw [h.lifecycle, hnone, hresult, joinLifecycle]
    split_ifs <;> first | rfl | contradiction
  · exact h.failed_of_helper hchild hrequired hstatus hquiet

end End

/-! ## Once health has reported a failure -/

section Health

variable {handle : ManagedWfbStreamsHandle} {s s' : LinkState}

/-- why the link has failed, at some time of its run: it stays a reason -/
def ReasonToFail (s : LinkState) : Prop :=
  s.world.radio.result ≠ some .pass ∨ ∃ child ∈ s.held, child.criticality = .required ∧
    ∃ status, (helperOf s child).ownEnd = some status ∨ (helperOf s child).status = some status ∧ ¬ status.Quiet

theorem ReasonToFail.later (h : ReasonToFail s) (hlater : ManagedGoes s s') : ReasonToFail s' := by
  rcases h with hradio | ⟨child, hchild, hrequired, status, hhelper⟩
  · refine Or.inl ?_
    rwa [hlater.world.radio]
  · obtain ⟨child', hchild', hsame⟩ := hlater.child hchild
    have hgoes : (helperOf s child).Later (helperOf s' child') := by
      rw [helperOf, helperOf, hsame.pid]
      exact hlater.world.helper child.pid
    refine Or.inr ⟨child', hchild', hsame.criticality.trans hrequired, status, ?_⟩
    rcases hhelper with hown | ⟨hstatus, hquiet⟩
    · exact Or.inl (hgoes.ownEnd status hown)
    · exact Or.inr ⟨hgoes.status status hstatus, hquiet⟩

/-- a fair call of `health` has a reason to say that the link has failed -/
theorem health_reason (hruntime : RunsRuntime handle.radioHandle.healthFile s.world.radio) (hfits : Each Fits s)
    {health : ManagedHealth} (hrun : handle.health s = (.ok health, s')) (hfair : FairHealth handle s s')
    (hfailed : health.lifecycle = .failed) : ReasonToFail s' := by
  have hstep := health_step handle s
  rw [hrun] at hstep
  rcases health_spec hfits hrun hfailed with ⟨child, hchild, hrequired, status, hstatus⟩ | ⟨radio, w, hradio, hlifecycle, -, hgoes⟩
  · have hhelper : (helperOf s' child).status = some status := ((hstep.fits hfits).2 child hchild).status status hstatus
    refine Or.inr ⟨child, hchild, hrequired, status, ?_⟩
    cases hended : helperOf s' child with
    | running asked =>
      rw [hended] at hhelper
      cases hhelper
    | ended signal other =>
      rw [hended] at hhelper
      cases hhelper
      cases signal with
      | never | late => exact Or.inl rfl
      | inTime =>
        have hasked : (helperOf s' child).signal = some .inTime := congrArg Helper.signal hended
        have hstatus : (helperOf s' child).status = some status := congrArg Helper.status hended
        exact Or.inr ⟨rfl, hfair.helpers child hchild hrequired hasked status hstatus⟩
  · refine Or.inl fun hpass => ?_
    rw [hstep.world.radio] at hpass
    refine health_of_passed hruntime hpass hradio ?_ hlifecycle
    rcases hfair.radio hpass with hview | hrunning
    · exact Or.inl hview
    · refine Or.inr (Bool.eq_false_iff.2 fun hfinished => ?_)
      have hdone : w.radio.events.length < w.done := of_decide_eq_true hfinished
      have hlate : s'.world.finished = true := by
        refine decide_eq_true ?_
        rw [hgoes.radio]
        exact hdone.trans_le hgoes.done
      rw [hrunning] at hlate
      cases hlate

/-- in a run of fair calls, a failure that was reported has a reason -/
theorem calls_reason {answers : List LinkAnswer} {calls : List LinkCall}
    (hruntime : RunsRuntime handle.radioHandle.healthFile s.world.radio) (hfits : Each Fits s)
    (hfair : FairCalls handle s calls) (hcalls : handle.calls s calls = (answers, s')) {answer : LinkAnswer}
    (hanswer : answer ∈ answers) (hfailed : answer.reportsFailed = true) : ReasonToFail s' := by
  induction calls generalizing s answers with
  | nil =>
    cases hcalls
    cases hanswer
  | cons next rest ih =>
    obtain ⟨hnext, hrest⟩ := hfair
    have hstep := call_step handle s next
    have hlater := calls_step handle (handle.call s next).2 rest
    rw [ManagedWfbStreamsHandle.calls] at hcalls
    rcases hfirst : handle.call s next with ⟨first, s₁⟩
    rw [hfirst] at hcalls hnext hrest hstep hlater
    rcases hothers : handle.calls s₁ rest with ⟨others, s₂⟩
    dsimp only at hcalls hlater
    rw [hothers] at hcalls hlater
    cases hcalls
    rcases List.mem_cons.1 hanswer with rfl | hmem
    · cases next with
      | waitReady | requestStop =>
        cases hfirst
        cases hfailed
      | health =>
        obtain ⟨rfl, rfl⟩ := Prod.mk.inj hfirst
        rcases hrun : handle.health s with ⟨error | health, s₁⟩
        · rw [hrun] at hfailed
          cases hfailed
        · rw [hrun] at hfailed hlater hnext
          exact (health_reason hruntime hfits hrun (hnext rfl) (of_decide_eq_true hfailed)).later hlater.toManagedGoes
    · refine ih ?_ (hstep.fits hfits) hrest hothers hmem
      rw [hstep.world.radio]
      exact hruntime

end Health

/-! ## The verdict -/

/-- **The verdict of a run.** For any helpers, any radio and any order of calls, the report of `join` is true of what became
of them, if the end of the run and its calls of `health` are fair. -/
theorem join_verdict {handle : ManagedWfbStreamsHandle} {s s₁ s₂ : LinkState} {calls : List LinkCall}
    {answers : List LinkAnswer} {report : ManagedReport} (hstart : Started handle s)
    (hcalls : handle.calls s calls = (answers, s₁)) (hjoin : handle.join s₁ = (.ok report, s₂))
    (hfair : FairCalls handle s calls) (hend : FairEnd handle s₂) : Verdict handle answers s₂ report := by
  have hgoes := calls_step handle s calls
  have hlast := join_step handle s₁
  rw [hcalls] at hgoes
  rw [hjoin] at hlast
  have hreport := join_spec (hgoes.fits hstart.fits) hjoin
  constructor
  · exact hreport.failed_of_radio hend
  · intro child hchild hrequired hown
    obtain ⟨status, hown⟩ := Option.ne_none_iff_exists'.1 hown
    exact hreport.failed_of_helper hchild hrequired (Helper.status_of_ownEnd hown)
      (hend.exits child hchild hrequired status hown)
  · intro child hchild hcriticality hown
    obtain ⟨degradation, hmem, hname⟩ := mem_degradations handle hchild
      (hreport.degraded_of_ownEnd hend hchild hcriticality hown)
    rw [hreport.degradedStreams, ← hname]
    exact listed_degraded _ _ hmem
  · intro hstopped
    rw [hreport.lifecycle] at hstopped
    obtain ⟨hnone, hradio⟩ := joinLifecycle_stopped hstopped
    have hpass : s₂.world.radio.result = some .pass := by
      rw [RadioRun.result, hreport.radio]
      cases hresult : report.radio.result with
      | pass => exact congrArg some hresult
      | fail =>
        rw [hresult] at hradio
        cases hradio
    refine ⟨hpass, ?_, (List.append_eq_nil_iff.1 hnone).1, hend.radioStreams, fun child hchild hcriticality => ?_⟩
    · rw [hreport.degradedStreams, hnone]
      exact degradedStreamNames_none _ _
    · by_contra hown
      obtain ⟨degradation, hmem, -⟩ := mem_degradations handle hchild
        (hreport.degraded_of_ownEnd hend hchild hcriticality hown)
      rw [hnone] at hmem
      cases hmem
  · intro answer hanswer hfailed
    rcases (calls_reason hstart.runtime hstart.fits hfair hcalls hanswer hfailed).later hlast.toManagedGoes with
      hradio | ⟨child, hchild, hrequired, status, hhelper⟩
    · refine hreport.failed_of_radio hend ?_
      rw [RadioRun.result, hreport.radio] at hradio ⊢
      cases hresult : report.radio.result with
      | pass =>
        dsimp only at hradio
        rw [hresult] at hradio
        exact absurd rfl hradio
      | fail => exact congrArg some hresult
    · rcases hhelper with hown | ⟨hstatus, hquiet⟩
      · exact hreport.failed_of_helper hchild hrequired (Helper.status_of_ownEnd hown)
          (hend.exits child hchild hrequired status hown)
      · exact hreport.failed_of_helper hchild hrequired hstatus hquiet

/-! ## Runs that are judged wrongly -/

/-- a run from a proper start whose report is not true -/
def Unsound (handle : ManagedWfbStreamsHandle) (s : LinkState) (calls : List LinkCall) : Prop :=
  Started handle s ∧ ∃ report s', handle.join (handle.calls s calls).2 = (.ok report, s') ∧
    ¬ Verdict handle (handle.calls s calls).1 s' report

/-- the run is joined, and its report is not true -/
def misjudged (handle : ManagedWfbStreamsHandle) (s : LinkState) (calls : List LinkCall) : Bool :=
  match handle.join (handle.calls s calls).2 with
  | (.ok report, s') => ¬ Verdict handle (handle.calls s calls).1 s' report
  | (.error _, _) => false

/-- the run is joined, and its calls and its end are fair -/
def fair (handle : ManagedWfbStreamsHandle) (s : LinkState) (calls : List LinkCall) : Bool :=
  match handle.join (handle.calls s calls).2 with
  | (.ok _, s') => FairCalls handle s calls ∧ FairEnd handle s'
  | (.error _, _) => false

def sampleManaged : ManagedWfbStreamsHandle where
  endpoints := ⟨[], none⟩
  radioEndpoints := ⟨[], none⟩
  radioHandle := sampleRadio
  startupDegradations := []
  startupSettle := 0

def sampleChild (criticality : StreamCriticality) : ManagedChild where
  name := "wfb-tx-video"
  streamName := some "video"
  criticality
  pid := 7
  stdoutLog := "wfb-tx-video.stdout.log"
  stderrLog := "wfb-tx-video.stderr.log"

/-- one helper, and a radio thread that has finished -/
def sampleLink (criticality : StreamCriticality) (helper : Helper) (oracle : Oracle) (radio : RadioRun) : LinkState where
  held := [sampleChild criticality]
  world := { finishedWorld radio with oracle, helpers := fun _ => helper }

/-- every helper that is still there at this operation ends by a signal -/
def signalOracle (atOperation : ℕ) : Oracle :=
  { quietOracle with ends := fun operation _ => if operation = atOperation then some .signal else none }

theorem sampleLink_started {inputs : ProductionRuntimeFlowExecutionInputs} {busy : List SocketAddr} {radio : RadioRun}
    (hradio : sampleRadioRun inputs busy = some radio) (criticality : StreamCriticality) {helper : Helper}
    (hhelper : helper.signalled = false) (oracle : Oracle) :
    Started sampleManaged (sampleLink criticality helper oracle radio) := by
  refine ⟨sampleRadioRun_runsRuntime hradio, List.nodup_singleton _, fun child hchild => ?_, fun child _ => hhelper⟩
  obtain rfl := List.mem_singleton.1 hchild
  exact ⟨rfl, rfl⟩

theorem unsound_sample {inputs : ProductionRuntimeFlowExecutionInputs} {busy : List SocketAddr}
    {criticality : StreamCriticality} {helper : Helper} {oracle : Oracle} {calls : List LinkCall}
    (hhelper : helper.signalled = false)
    (h : (sampleRadioRun inputs busy).map (fun radio =>
      misjudged sampleManaged (sampleLink criticality helper oracle radio) calls) = some true) :
    ∃ radio, sampleRadioRun inputs busy = some radio ∧
      Unsound sampleManaged (sampleLink criticality helper oracle radio) calls := by
  obtain ⟨radio, hradio, hmisjudged⟩ := Option.map_eq_some_iff.1 h
  refine ⟨radio, hradio, sampleLink_started hradio criticality hhelper oracle, ?_⟩
  rw [misjudged] at hmisjudged
  rcases hjoin : sampleManaged.join (sampleManaged.calls (sampleLink criticality helper oracle radio) calls).2 with
    ⟨error | report, s'⟩
  · rw [hjoin] at hmisjudged
    cases hmisjudged
  · rw [hjoin] at hmisjudged
    exact ⟨report, s', rfl, of_decide_eq_true hmisjudged⟩

/-- four runs that are judged wrongly: the radio fails behind a degradation; a required helper exits with 0 on its own; a
best-effort helper ends on its own and is not polled before the stop; and `health` is called after the stop -/
theorem unsound_verdicts :
    (∃ radio, sampleRadioRun sampleFlowInputs [occupied] = some radio ∧
      Unsound sampleManaged (sampleLink .bestEffort (.ended .never (.code 1)) quietOracle radio) [.health]) ∧
    (∃ radio, sampleRadioRun sampleFlowInputs [] = some radio ∧
      Unsound sampleManaged (sampleLink .required (.ended .never (.code 0)) quietOracle radio) []) ∧
    (∃ radio, sampleRadioRun sampleFlowInputs [] = some radio ∧
      Unsound sampleManaged (sampleLink .bestEffort (.ended .never (.code 1)) quietOracle radio) []) ∧
    ∃ radio, sampleRadioRun sampleFlowInputs [] = some radio ∧
      Unsound sampleManaged (sampleLink .required (.running false) (signalOracle 2) radio) [.requestStop, .health] :=
  ⟨unsound_sample rfl (by decide +kernel), unsound_sample rfl (by decide +kernel), unsound_sample rfl (by decide +kernel),
    unsound_sample rfl (by decide +kernel)⟩

/-- a required helper that runs, a best-effort one that has ended on its own, and a radio thread that has finished -/
def mixedLink (oracle : Oracle) (radio : RadioRun) : LinkState where
  held := [sampleChild .required,
    { sampleChild .bestEffort with name := "wfb-tx-tunnel", streamName := some "tunnel", pid := 8 }]
  world := { finishedWorld radio with
    oracle
    helpers := fun pid => if pid = 8 then .ended .never (.code 1) else .running false }

theorem mixedLink_started {inputs : ProductionRuntimeFlowExecutionInputs} {busy : List SocketAddr} {radio : RadioRun}
    (hradio : sampleRadioRun inputs busy = some radio) (oracle : Oracle) :
    Started sampleManaged (mixedLink oracle radio) := by
  refine ⟨sampleRadioRun_runsRuntime hradio, show [7, 8].Nodup by decide, fun child hchild => ?_, fun child hchild => ?_⟩
  · rcases List.mem_pair.1 hchild with rfl | rfl <;> exact ⟨rfl, rfl⟩
  · rcases List.mem_pair.1 hchild with rfl | rfl <;> rfl

/-- `health` polls both helpers, and then the required one is stopped -/
theorem join_verdict_sample : ∃ radio, sampleRadioRun sampleFlowInputs [] = some radio ∧
    ∃ answers s₁ report s₂,
      sampleManaged.calls (mixedLink (signalOracle 8) radio) [.health] = (answers, s₁) ∧
      sampleManaged.join s₁ = (.ok report, s₂) ∧ report.lifecycle = .degraded ∧ report.degradedStreams = ["tunnel"] ∧
      Verdict sampleManaged answers s₂ report := by
  have hrun : (sampleRadioRun sampleFlowInputs []).map (fun radio =>
      fair sampleManaged (mixedLink (signalOracle 8) radio) [.health] &&
        (sampleManaged.join (sampleManaged.calls (mixedLink (signalOracle 8) radio) [.health]).2).1.toOption.any
          fun report => report.lifecycle = .degraded ∧ report.degradedStreams = ["tunnel"]) = some true := by
    decide +kernel
  obtain ⟨radio, hradio, hrun⟩ := Option.map_eq_some_iff.1 hrun
  obtain ⟨hfair, hreport⟩ := Bool.and_eq_true_iff.1 hrun
  rcases hcalls : sampleManaged.calls (mixedLink (signalOracle 8) radio) [.health] with ⟨answers, s₁⟩
  rw [hcalls] at hreport
  rw [fair, hcalls] at hfair
  rcases hjoin : sampleManaged.join s₁ with ⟨error | report, s₂⟩
  · dsimp only at hfair
    rw [hjoin] at hfair
    cases hfair
  · dsimp only at hfair hreport
    rw [hjoin] at hfair hreport
    obtain ⟨hfair, hend⟩ := of_decide_eq_true hfair
    obtain ⟨hlifecycle, hdegraded⟩ := of_decide_eq_true hreport
    exact ⟨radio, hradio, answers, s₁, report, s₂, hcalls, hjoin, hlifecycle, hdegraded,
      join_verdict (mixedLink_started hradio _) hcalls hjoin hfair hend⟩

end WfbLink.Link
