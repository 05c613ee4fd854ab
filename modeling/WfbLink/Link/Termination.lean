/-
How children are terminated (`terminate_child_processes`): they are asked to stop, polled until all are done or three
seconds have passed, and those without a status are killed and waited for.

The flag that ends the polling is set anew by every child that is asked, so the last one decides for all. A failed poll
sets it.

- `awaitRounds_spec`: the polling ends in a round that is all done, or behind the deadline.
- `terminateChildProcesses_graceful_iff`: every child is given its three seconds, exactly unless a poll fails behind a
  child that is still running.
- `terminateChildProcesses_terminates`: every child has ended or was killed behind it.
-/
import WfbLink.Link.Children

namespace WfbLink.Link

open WfbLink.Core

/-! ## The rounds of polls -/

/-- what each child had to say in a round, and the time behind it -/
structure PollRound where
  answers : List (Option Bool)
  time : ℕ
deriving DecidableEq, Repr

/-- `awaitChildren`, returning its rounds -/
def awaitRounds (deadline : ℕ) : ℕ → ManagedAction (List PollRound)
  | 0 => Action.fail .running
  | fuel + 1 => do
    let answers ← forEach collectChild
    let round ← Action.read fun s => ⟨answers, s.world.now⟩
    if allDone answers then return [round]
    if (← inWorld instantNow) ≥ deadline then return [round]
    inWorld (sleep terminatePollInterval)
    let rounds ← awaitRounds deadline fuel
    return round :: rounds

/-- an earlier child was found running, and the poll of the last child without a status failed -/
def Misjudged (answers : List (Option Bool)) : Prop :=
  some false ∈ answers ∧ (answers.filterMap id).getLast? = some true

instance : DecidablePred Misjudged := fun _ => inferInstanceAs (Decidable (_ ∧ _))

theorem allDone_append (answers : List (Option Bool)) (answer : Option Bool) :
    allDone (answers ++ [answer]) = answer.getD (allDone answers) := by
  simp [allDone]

/-- the last child with an answer decides -/
theorem allDone_eq (answers : List (Option Bool)) :
    allDone answers = ((answers.filterMap id).getLast?).getD true := by
  induction answers using List.reverseRecOn with
  | nil => rfl
  | append_singleton answers answer ih =>
    rw [allDone_append, ih]
    cases answer with
    | none => simp
    | some done => simp

/-- the rounds are those of `awaitChildren` -/
theorem awaitChildren_eq (deadline fuel : ℕ) :
    awaitChildren deadline fuel = awaitRounds deadline fuel >>= fun _ => pure () := by
  funext s
  induction fuel generalizing s with
  | zero => rfl
  | succ fuel ih =>
    obtain ⟨answers, s₁, hcollect⟩ := collectChild_returns.forEach s
    have hread : (Action.read fun s => ⟨answers, s.world.now⟩ : ManagedAction PollRound) s₁ =
      (.ok ⟨answers, s₁.world.now⟩, s₁) := rfl
    have hnow : (inWorld instantNow : ManagedAction ℕ) s₁ = (.ok s₁.world.tick.now, ⟨s₁.held, s₁.world.tick⟩) := rfl
    have hsleep : (inWorld (sleep terminatePollInterval) : ManagedAction Unit) ⟨s₁.held, s₁.world.tick⟩ = (.ok (),
      ⟨s₁.held, { s₁.world.tick.tick with now := s₁.world.tick.tick.now + terminatePollInterval }⟩) := rfl
    rw [awaitChildren, awaitRounds, Action.bind_of_ok hcollect, Action.bind_assoc, Action.bind_of_ok hcollect,
      Action.bind_assoc, Action.bind_of_ok hread]
    split_ifs
    · rfl
    · rw [Action.bind_of_ok hnow, Action.bind_assoc, Action.bind_of_ok hnow]
      split_ifs
      · rfl
      · rw [Action.bind_of_ok hsleep, Action.bind_assoc, Action.bind_of_ok hsleep, ih, Action.bind_assoc]
        rfl

/-- a child that answers has no status -/
def Answers (answer : Option Bool) (child : ManagedChild) : Prop := child.status = none ↔ answer ≠ none

theorem collectChild_answers (s : Beside ManagedChild LinkWorld) (answer : Option Bool)
    (s' : Beside ManagedChild LinkWorld) (hrun : collectChild s = (.ok answer, s')) : Answers answer s'.held := by
  have hcase := collectChild_cases s
  rw [hrun] at hcase
  unfold Answers
  cases hcase with
  | known hstatus => simp [hstatus]
  | unknown done hnone => simp [hnone]
  | ended => simp

/-- the last round, and why it was the last -/
theorem awaitRounds_spec {deadline : ℕ} (fuel : ℕ) {s s' : Beside (List ManagedChild) LinkWorld}
    {rounds : List PollRound} (hrun : awaitRounds deadline fuel s = (.ok rounds, s')) :
    ∃ earlier last, rounds = earlier ++ [last] ∧ (∀ round ∈ earlier, allDone round.answers = false) ∧
      List.Forall₂ Answers last.answers s'.held ∧
      (allDone last.answers = true ∧ last.time = s'.world.now ∨
        allDone last.answers = false ∧ deadline ≤ s'.world.now) := by
  induction fuel generalizing s rounds with
  | zero => cases hrun
  | succ fuel ih =>
    obtain ⟨answers, s₁, hcollect, hrun⟩ := Action.bind_ok hrun
    have hanswers := forEach_results (I := fun _ => True)
      (fun t answer t' _ hone => ⟨True.intro, collectChild_answers t answer t' hone⟩) True.intro hcollect
    obtain ⟨round, s₂, hread, hrun⟩ := Action.bind_ok hrun
    cases hread
    by_cases hdone : allDone answers = true
    · rw [if_pos hdone] at hrun
      cases hrun
      exact ⟨[], _, rfl, nofun, hanswers, Or.inl ⟨hdone, rfl⟩⟩
    · rw [if_neg hdone] at hrun
      obtain ⟨now, s₂, hnow, hrun⟩ := Action.bind_ok hrun
      cases hnow
      by_cases hpassed : s₁.world.tick.now ≥ deadline
      · rw [if_pos hpassed] at hrun
        cases hrun
        exact ⟨[], _, rfl, nofun, hanswers, Or.inr ⟨Bool.eq_false_iff.2 hdone, hpassed⟩⟩
      · rw [if_neg hpassed] at hrun
        obtain ⟨_, s₂, -, hrun⟩ := Action.bind_ok hrun
        obtain ⟨rest, s₃, hrest, hrun⟩ := Action.bind_ok hrun
        cases hrun
        obtain ⟨earlier, last, rfl, hearlier, hlast, hend⟩ := ih hrest
        refine ⟨⟨answers, s₁.world.now⟩ :: earlier, last, rfl, fun round hround => ?_, hlast, hend⟩
        rcases List.mem_cons.1 hround with rfl | hround
        · exact Bool.eq_false_iff.2 hdone
        · exact hearlier round hround

/-! ## Signals -/

/-- one signal for each child without a status, in order -/
structure Sends (signal : Signal) (since : ℕ) (children : List ManagedChild) (sent : List SentSignal) : Prop where
  pids : sent.map (·.pid) = (children.filter fun child => child.status = none).map (·.pid)
  each : ∀ one ∈ sent, one.signal = signal ∧ since ≤ one.time

section Sending

variable {signal : Signal} {since : ℕ} {child : ManagedChild} {children : List ManagedChild} {sent : List SentSignal}

theorem Sends.nil (signal : Signal) (since : ℕ) : Sends signal since [] [] := ⟨rfl, nofun⟩

theorem Sends.append {rest : List SentSignal} (h : Sends signal since [child] sent)
    (hrest : Sends signal since children rest) : Sends signal since (child :: children) (sent ++ rest) := by
  refine ⟨?_, fun one hone => (List.mem_append.1 hone).elim (h.each one) (hrest.each one)⟩
  rw [List.map_append, h.pids, hrest.pids, ← List.map_append, ← List.filter_append]
  rfl

theorem Sends.known {status : ExitStatus} (h : child.status = some status) : Sends signal since [child] [] :=
  ⟨by simp [h], nofun⟩

theorem Sends.one (h : child.status = none) {time : ℕ} (htime : since ≤ time) :
    Sends signal since [child] [⟨child.pid, signal, time⟩] := by
  refine ⟨by simp [h], fun one hone => ?_⟩
  obtain rfl := List.mem_singleton.1 hone
  exact ⟨rfl, htime⟩

/-- asking the children sends a signal to each without a status -/
theorem askChildren_sends {s s' : Beside (List ManagedChild) LinkWorld} {answers : List Unit}
    (hrun : forEach askChild s = (.ok answers, s')) :
    ∃ sent, s'.world.signals = s.world.signals ++ sent ∧ Sends .term s.world.now s.held sent := by
  refine forEach_log (I := fun w => s.world.now ≤ w.now) (.nil _ _) (fun _ _ _ _ => Sends.append) ?_ le_rfl hrun
  intro t answer t' hsince hask
  have hcase := askChild_cases t
  rw [hask] at hcase
  have htick := hsince.trans (passes_tick t.world).now
  cases hcase with
  | known hstatus => exact ⟨hsince, [], (List.append_nil _).symm, .known hstatus⟩
  | asked hnone => exact ⟨htick, _, rfl, .one hnone htick⟩

/-- so does killing them -/
theorem killChildren_sends {s s' : Beside (List ManagedChild) LinkWorld} {answers : List Unit}
    (hrun : forEach killChild s = (.ok answers, s')) :
    ∃ sent, s'.world.signals = s.world.signals ++ sent ∧ Sends .kill s.world.now s.held sent := by
  refine forEach_log (I := fun w => s.world.now ≤ w.now) (.nil _ _) (fun _ _ _ _ => Sends.append) ?_ le_rfl hrun
  intro t answer t' hsince hkill
  have hcase := killChild_cases t
  rw [hkill] at hcase
  have htick := hsince.trans (passes_tick t.world).now
  have hlater : s.world.now ≤ (killedWorld t).tick.now := htick.trans (passes_tick (killedWorld t)).now
  cases hcase with
  | known hstatus => exact ⟨hsince, [], (List.append_nil _).symm, .known hstatus⟩
  | lost hnone => exact ⟨hlater, _, rfl, .one hnone htick⟩
  | waited hnone => exact ⟨hlater, _, rfl, .one hnone htick⟩

end Sending

/-- what is to come stays as it is -/
def SameOracle (w w' : LinkWorld) : Prop := w'.oracle = w.oracle

instance : IsPreorder LinkWorld SameOracle where
  refl _ := rfl
  trans _ _ _ h h' := Eq.trans h' h

/-- no signal is sent either -/
def Silent (w w' : LinkWorld) : Prop := w'.signals = w.signals ∧ SameOracle w w'

instance : IsPreorder LinkWorld Silent where
  refl _ := ⟨rfl, rfl⟩
  trans _ _ _ h h' := ⟨h'.1.trans h.1, trans_of SameOracle h.2 h'.2⟩

theorem askChildren_oracle : Within (fun s s' => SameOracle s.world s'.world) (forEach askChild) := by
  have hone : Within (fun s s' => SameOracle s.world s'.world) askChild := by
    refine .of_cases askChild_cases fun s run hcase => ?_
    cases hcase with
    | known | asked => exact rfl
  exact fun s => forEachMember_world hone s.held s.world

theorem collectChildren_silent : Within (fun s s' => Silent s.world s'.world) (forEach collectChild) := by
  have hone : Within (fun s s' => Silent s.world s'.world) collectChild := by
    refine .of_cases collectChild_cases fun s run hcase => ?_
    cases hcase with
    | known | unknown | ended => exact ⟨rfl, rfl⟩
  exact fun s => forEachMember_world hone s.held s.world

theorem awaitRounds_silent {deadline : ℕ} (fuel : ℕ) {s s' : Beside (List ManagedChild) LinkWorld}
    {rounds : List PollRound} (hrun : awaitRounds deadline fuel s = (.ok rounds, s')) : Silent s.world s'.world := by
  induction fuel generalizing s rounds with
  | zero => cases hrun
  | succ fuel ih =>
    obtain ⟨answers, s₁, hcollect, hrun⟩ := Action.bind_ok hrun
    have hsilent := collectChildren_silent s
    rw [hcollect] at hsilent
    obtain ⟨round, s₂, hread, hrun⟩ := Action.bind_ok hrun
    cases hread
    split_ifs at hrun
    · cases hrun
      exact hsilent
    · obtain ⟨now, s₂, hnow, hrun⟩ := Action.bind_ok hrun
      cases hnow
      split_ifs at hrun
      · cases hrun
        exact hsilent
      · obtain ⟨_, s₂, hsleep, hrun⟩ := Action.bind_ok hrun
        cases hsleep
        obtain ⟨rest, s₃, hrest, hrun⟩ := Action.bind_ok hrun
        cases hrun
        obtain ⟨hsignals, horacle⟩ := ih hrest
        exact ⟨hsignals.trans hsilent.1, horacle.trans hsilent.2⟩

/-- no wait for a process fails -/
def Waitable (w : LinkWorld) : Prop := ∀ operation, ∃ status, w.oracle.waited operation = .ok status

/-- a child that is killed is waited for -/
theorem killChildren_waited {s s' : Beside (List ManagedChild) LinkWorld} {answers : List Unit}
    (hwaitable : Waitable s.world) (hrun : forEach killChild s = (.ok answers, s')) :
    ∀ child ∈ s'.held, child.status.isSome := by
  have hresults : List.Forall₂ (fun _ child => child.status.isSome) answers s'.held := by
    refine forEach_results (I := Waitable) (fun t answer t' hwaitable hkill => ?_) hwaitable hrun
    have hcase := killChild_cases t
    rw [hkill] at hcase
    cases hcase with
    | known hstatus => exact ⟨hwaitable, by rw [hstatus]; rfl⟩
    | lost _ hlost =>
      obtain ⟨status, hstatus⟩ := hwaitable (killedWorld t).operations
      cases hlost.symm.trans hstatus
    | waited => exact ⟨hwaitable, rfl⟩
  intro child hchild
  obtain ⟨i, hi, rfl⟩ := List.getElem_of_mem hchild
  exact hresults.get (by rw [hresults.length_eq]; exact hi) hi

/-! ## A graceful stop -/

section Stop

variable (s : Beside (List ManagedChild) LinkWorld)

/-- the children once they were asked to stop, and the clock was read -/
def askedState : Beside (List ManagedChild) LinkWorld :=
  let asked := (forEach askChild s).2
  ⟨asked.held, asked.world.tick⟩

def waitDeadline : ℕ := (askedState s).world.now + terminateDeadline

def pollRounds : List PollRound :=
  match (awaitRounds (waitDeadline s) terminateRounds (askedState s)).1 with
  | .ok rounds => rounds
  | .error _ => []

/-- the children once the polling is over -/
def awaitedState : Beside (List ManagedChild) LinkWorld :=
  (awaitRounds (waitDeadline s) terminateRounds (askedState s)).2

/-- what the children had to say at last -/
def lastAnswers : List (Option Bool) := ((pollRounds s).getLast?.map PollRound.answers).getD []

/-- how children are to be stopped -/
structure Graceful : Prop where
  returns : ∃ s', terminateChildProcesses s = (.ok (), s')
  asked : ∃ sent, (awaitedState s).world.signals = s.world.signals ++ sent ∧ Sends .term s.world.now s.held sent
  killed : ∃ sent, (terminateChildProcesses s).2.world.signals = (awaitedState s).world.signals ++ sent ∧
    Sends .kill (awaitedState s).world.now (awaitedState s).held sent
  waited : Waitable s.world → ∀ child ∈ (terminateChildProcesses s).2.held, child.status.isSome
  /-- a child that is left to be killed has had its time, or its own poll failed at last -/
  patient : ∀ (i : ℕ) (child : ManagedChild), (awaitedState s).held[i]? = some child → child.status = none →
    waitDeadline s ≤ (awaitedState s).world.now ∨ (lastAnswers s)[i]? = some (some true)

/-- the phases of a stop -/
structure Phases (asked awaited killed : Beside (List ManagedChild) LinkWorld) : Prop where
  ask : ∃ answers, forEach askChild s = (.ok answers, asked)
  askedState : askedState s = ⟨asked.held, asked.world.tick⟩
  wait : awaitRounds (waitDeadline s) terminateRounds (Link.askedState s) = (.ok (pollRounds s), awaited)
  awaitedState : awaitedState s = awaited
  kill : ∃ answers, forEach killChild awaited = (.ok answers, killed)
  run : terminateChildProcesses s = (.ok (), killed)

theorem terminateChildProcesses_phases : ∃ asked awaited killed, Phases s asked awaited killed := by
  obtain ⟨_, s', hrun⟩ := terminateChildProcesses_returns s
  have hstop := hrun
  rw [terminateChildProcesses] at hstop
  obtain ⟨answers, asked, hask, hstop⟩ := Action.bind_ok hstop
  obtain ⟨now, s₁, hnow, hstop⟩ := Action.bind_ok hstop
  cases hnow
  have hasked : askedState s = ⟨asked.held, asked.world.tick⟩ := by rw [askedState, hask]
  obtain ⟨_, awaited, hwait, hstop⟩ := Action.bind_ok hstop
  rw [awaitChildren_eq] at hwait
  obtain ⟨rounds, s₂, hrounds, hwait⟩ := Action.bind_ok hwait
  cases hwait
  have hwaited : awaitRounds (waitDeadline s) terminateRounds (askedState s) = (.ok rounds, awaited) := by
    rw [waitDeadline, hasked]
    exact hrounds
  obtain ⟨kills, killed, hkill, hstop⟩ := Action.bind_ok hstop
  cases hstop
  refine ⟨asked, awaited, s', ⟨answers, hask⟩, hasked, ?_, ?_, ⟨kills, hkill⟩, hrun⟩
  · rw [pollRounds, hwaited]
  · rw [awaitedState, hwaited]

variable {s} {asked awaited killed : Beside (List ManagedChild) LinkWorld}

theorem Phases.asked_sends (h : Phases s asked awaited killed) :
    ∃ sent, awaited.world.signals = s.world.signals ++ sent ∧ Sends .term s.world.now s.held sent := by
  obtain ⟨answers, hask⟩ := h.ask
  obtain ⟨sent, hsent, hsends⟩ := askChildren_sends hask
  have hsilent := (awaitRounds_silent _ h.wait).1
  rw [h.askedState] at hsilent
  exact ⟨sent, hsilent.trans hsent, hsends⟩

/-- the oracle stays as it is up to the killing -/
theorem Phases.oracle (h : Phases s asked awaited killed) : awaited.world.oracle = s.world.oracle := by
  obtain ⟨answers, hask⟩ := h.ask
  have hasked := askChildren_oracle s
  rw [hask] at hasked
  have hsilent := (awaitRounds_silent _ h.wait).2
  rw [h.askedState] at hsilent
  exact hsilent.trans hasked

/-- the children that are left to be killed have had their time, or their own poll failed, unless a round is misjudged -/
theorem Phases.patient_iff (h : Phases s asked awaited killed) :
    (∀ (i : ℕ) (child : ManagedChild), awaited.held[i]? = some child → child.status = none →
      waitDeadline s ≤ awaited.world.now ∨ (lastAnswers s)[i]? = some (some true)) ↔
      ∀ round ∈ pollRounds s, round.time < waitDeadline s → ¬ Misjudged round.answers := by
  obtain ⟨earlier, last, hrounds, hearlier, hanswers, hend⟩ := awaitRounds_spec _ h.wait
  have hlast : lastAnswers s = last.answers := by
    rw [lastAnswers, hrounds, List.getLast?_concat]
    rfl
  rw [hlast, hrounds]
  constructor
  · intro hpatient round hround htime ⟨hrunning, hfailed⟩
    have hdone : allDone round.answers = true := by rw [allDone_eq, hfailed]; rfl
    rcases List.mem_append.1 hround with hround | hround
    · rw [hearlier round hround] at hdone
      cases hdone
    · obtain rfl := List.mem_singleton.1 hround
      -- the child that was found running is not done, and its own poll did not fail
      obtain ⟨i, hi⟩ := List.mem_iff_getElem?.1 hrunning
      obtain ⟨hilen, hi'⟩ := List.getElem?_eq_some_iff.1 hi
      have hlen : i < awaited.held.length := by rwa [← hanswers.length_eq]
      have hchild := hanswers.get hilen hlen
      have hnone : awaited.held[i].status = none := hchild.2 (by simp [hi'])
      rcases hpatient i _ (List.getElem?_eq_getElem hlen) hnone with hpassed | hown
      · rcases hend with ⟨-, hnow⟩ | ⟨hnotDone, -⟩
        · omega
        · rw [hnotDone] at hdone
          cases hdone
      · rw [hi] at hown
        cases hown
  · intro hrounds i child hchild hnone
    obtain ⟨hlen, rfl⟩ := List.getElem?_eq_some_iff.1 hchild
    have hilen : i < last.answers.length := by rwa [hanswers.length_eq]
    have hanswer : last.answers[i] ≠ none := (hanswers.get hilen hlen).1 hnone
    obtain ⟨failed, hfailed⟩ := Option.ne_none_iff_exists'.1 hanswer
    cases failed with
    | true => exact Or.inr (by rw [List.getElem?_eq_getElem hilen, hfailed])
    | false =>
      refine Or.inl ?_
      rcases hend with ⟨hdone, hnow⟩ | ⟨-, hpassed⟩
      · -- the round ended the polling, though this child was found running
        have hrunning : some false ∈ last.answers := hfailed ▸ List.getElem_mem hilen
        by_contra hearly
        refine hrounds last (by simp) (by omega) ⟨hrunning, ?_⟩
        have hpresent : false ∈ last.answers.filterMap id := List.mem_filterMap.2 ⟨_, hrunning, rfl⟩
        obtain ⟨final, hfinal⟩ := Option.ne_none_iff_exists'.1
          (mt List.getLast?_eq_none_iff.1 (List.ne_nil_of_mem hpresent))
        rw [allDone_eq, hfinal] at hdone
        rw [hfinal]
        exact congrArg some hdone
      · exact hpassed

/-- **A stop is graceful**, exactly if no round ahead of the deadline ends in a failed poll behind a child that was found
running. -/
theorem terminateChildProcesses_graceful_iff (s : Beside (List ManagedChild) LinkWorld) :
    Graceful s ↔ ∀ round ∈ pollRounds s, round.time < waitDeadline s → ¬ Misjudged round.answers := by
  obtain ⟨asked, awaited, killed, h⟩ := terminateChildProcesses_phases s
  rw [← h.patient_iff, ← h.awaitedState]
  refine ⟨Graceful.patient, fun hpatient => ?_⟩
  obtain ⟨kills, hkill⟩ := h.kill
  obtain ⟨sent, hsent, hsends⟩ := killChildren_sends hkill
  refine ⟨⟨killed, h.run⟩, ?_, ⟨sent, ?_, ?_⟩, fun hwaitable => ?_, hpatient⟩
  · rw [h.awaitedState]
    exact h.asked_sends
  · rw [h.run, h.awaitedState]
    exact hsent
  · rw [h.awaitedState]
    exact hsends
  · rw [h.run]
    refine killChildren_waited (fun operation => ?_) hkill
    rw [h.oracle]
    exact hwaitable operation

end Stop

/-- two helpers that do not end; the poll of the second fails -/
def impatientState : Beside (List ManagedChild) LinkWorld where
  held := [⟨"wfb-rx-video", some "video", .required, 1, "rx.out", "rx.err", none, false⟩,
    ⟨"wfb-tx-control", some "control", .required, 2, "tx.out", "tx.err", none, false⟩]
  world := {
    oracle := {
      delay := fun _ => 0
      ends := fun _ _ => none
      progress := fun _ => 0
      pollError := fun operation => if operation = 5 then some "no such process" else none
      waited := fun _ => .ok .signal }
    helpers := fun _ => .running false
    radio := ⟨[], .error .indexOutOfRange, id⟩ }

/-- the first helper is running and is killed at once, three seconds too early -/
theorem failed_poll_kills_another :
    (terminateChildProcesses impatientState).2.world.signals = [⟨1, .term, 0⟩, ⟨2, .term, 0⟩, ⟨1, .kill, 0⟩, ⟨2, .kill, 0⟩] ∧
      lastAnswers impatientState = [some false, some true] ∧ waitDeadline impatientState = 3 * 10 ^ 9 ∧
      ¬ Graceful impatientState := by
  refine ⟨by decide +kernel, by decide +kernel, by decide +kernel, fun h => ?_⟩
  have hchild : (awaitedState impatientState).held[0]?.map ManagedChild.status = some none := by decide +kernel
  obtain ⟨child, hchild, hnone⟩ := Option.map_eq_some_iff.1 hchild
  rcases h.patient 0 child hchild hnone with hpassed | hown
  · exact absurd hpassed (by decide +kernel)
  · exact absurd hown (by decide +kernel)

/-! ## What a stop leaves -/

/-- signals are only added, and the radio is not asked to stop -/
structure Signals (w w' : LinkWorld) : Prop where
  added : w.signals <+: w'.signals
  stopRequested : w'.stopRequested = w.stopRequested

instance : IsPreorder LinkWorld Signals where
  refl _ := ⟨List.prefix_refl _, rfl⟩
  trans _ _ _ h h' := ⟨h.added.trans h'.added, h'.stopRequested.trans h.stopRequested⟩

/-- the helpers of others are left alone -/
structure Spares (s s' : Beside (List ManagedChild) LinkWorld) : Prop where
  pids : s'.held.map ManagedChild.pid = s.held.map ManagedChild.pid
  others : ∀ pid ∉ s.held.map ManagedChild.pid, (s.world.helpers pid).Moves (s'.world.helpers pid)
  signals : Signals s.world s'.world

instance : IsPreorder (Beside (List ManagedChild) LinkWorld) Spares where
  refl _ := ⟨rfl, fun _ _ => refl_of Helper.Moves _, refl_of Signals _⟩
  trans _ _ _ h h' := by
    refine ⟨h'.pids.trans h.pids, fun pid hpid => ?_, trans_of Signals h.signals h'.signals⟩
    exact trans_of Helper.Moves (h.others pid hpid) (h'.others pid (h.pids ▸ hpid))

theorem signals_sent (w : LinkWorld) (pid : ℕ) (signal : Signal) : Signals w (w.tick.send pid signal) :=
  ⟨List.prefix_append _ _, rfl⟩

theorem askChild_signals : Within (fun s s' => Signals s.world s'.world) askChild := by
  refine .of_cases askChild_cases fun s run h => ?_
  cases h with
  | known => exact refl_of Signals s.world
  | asked => exact signals_sent s.world _ _

theorem collectChild_signals : Within (fun s s' => Signals s.world s'.world) collectChild := by
  refine .of_cases collectChild_cases fun s run h => ?_
  cases h with
  | known | unknown | ended => exact ⟨List.prefix_refl _, rfl⟩

theorem killChild_signals : Within (fun s s' => Signals s.world s'.world) killChild := by
  refine .of_cases killChild_cases fun s run h => ?_
  have hkilled := signals_sent s.world s.held.pid .kill
  cases h with
  | known => exact refl_of Signals s.world
  | lost | waited => exact ⟨hkilled.added, hkilled.stopRequested⟩

theorem forEach_spares {α : Type} {body : ChildAction α} (hbody : Within ChildStep body)
    (hsignals : Within (fun s s' => Signals s.world s'.world) body) : Within Spares (forEach body) := by
  intro s
  obtain ⟨hpids, hothers⟩ := forEachMember_confined (hbody.mono fun _ _ h => h.confined) s.held s.world
  exact ⟨hpids, hothers, forEachMember_world hsignals s.held s.world⟩

theorem inWorld_spares {α : Type} {act : LinkAction α} (hact : Within Passes act) (hsignals : Within Signals act) :
    Within Spares (inWorld act) := fun s =>
  ⟨rfl, fun pid _ => (hact s.world).helper pid, hsignals s.world⟩

theorem instantNow_signals : Within Signals (instantNow : LinkAction ℕ) := .ofState fun _ => ⟨List.prefix_refl _, rfl⟩

theorem awaitChildren_spares (deadline fuel : ℕ) : Within Spares (awaitChildren deadline fuel) := by
  induction fuel with
  | zero => exact .fail _
  | succ fuel ih =>
    refine (forEach_spares collectChild_step collectChild_signals).bind fun answers => ?_
    split_ifs
    · exact .pure ()
    · refine (inWorld_spares instantNow_passes instantNow_signals).bind fun now => ?_
      split_ifs
      · exact .pure ()
      · refine (inWorld_spares (sleep_passes _) ?_).bind fun _ => ih
        exact .ofState fun _ => ⟨List.prefix_refl _, rfl⟩

theorem terminateChildProcesses_spares : Within Spares terminateChildProcesses :=
  (forEach_spares askChild_step askChild_signals).bind fun _ =>
    (inWorld_spares instantNow_passes instantNow_signals).bind fun _ => (awaitChildren_spares _ _).bind fun _ =>
      (forEach_spares killChild_step killChild_signals).bind fun _ => .pure ()

/-- a helper that has ended or was killed -/
def Terminated (w : LinkWorld) (pid : ℕ) : Prop :=
  (w.helpers pid).status ≠ none ∨ ∃ sent ∈ w.signals, sent.pid = pid ∧ sent.signal = .kill

theorem Terminated.later {w w' : LinkWorld} {pid : ℕ} (h : Terminated w pid)
    (hlater : (w.helpers pid).Later (w'.helpers pid)) (hsignals : w.signals <+: w'.signals) : Terminated w' pid := by
  rcases h with hended | ⟨sent, hsent, hkill⟩
  · obtain ⟨status, hstatus⟩ := Option.ne_none_iff_exists'.1 hended
    refine Or.inl ?_
    rw [hlater.status status hstatus]
    exact Option.some_ne_none _
  · exact Or.inr ⟨sent, hsignals.subset hsent, hkill⟩

/-- **A stop terminates every child.** -/
theorem terminateChildProcesses_terminates {s s' : Beside (List ManagedChild) LinkWorld} (hfits : Each Fits s)
    (hrun : terminateChildProcesses s = (.ok (), s')) : ∀ child ∈ s.held, Terminated s'.world child.pid := by
  obtain ⟨asked, awaited, killed, h⟩ := terminateChildProcesses_phases s
  obtain rfl : killed = s' := (Prod.mk.inj (h.run.symm.trans hrun)).2
  obtain ⟨answers, hask⟩ := h.ask
  obtain ⟨kills, hkill⟩ := h.kill
  -- the children have been asked, and polled
  have hstopped := forEach_each askChild_step stable_fits stable_stopped (fun _ _ h => h.toFits) askChild_triple s hfits
  rw [hask] at hstopped
  have hpids := (forEach_spares askChild_step askChild_signals s).pids
  rw [hask] at hpids
  have hwait : awaitChildren (waitDeadline s) terminateRounds (askedState s) = (.ok (), awaited) := by
    rw [awaitChildren_eq, Action.bind_of_ok h.wait]
    rfl
  have hawaited := awaitChildren_stopped (waitDeadline s) terminateRounds (askedState s) (by
    rw [h.askedState]
    exact ⟨hstopped.1, hstopped.2.of_drift stable_stopped fun child _ => (passes_tick _).helper _⟩)
  have hpids' := (awaitChildren_spares (waitDeadline s) terminateRounds (askedState s)).pids
  rw [hwait] at hawaited hpids'
  rw [h.askedState] at hpids'
  -- those that have not ended are killed
  obtain ⟨sent, hsent, hsends⟩ := killChildren_sends hkill
  have hgoes := (forEach_goes killChild_step awaited).world
  rw [hkill] at hgoes
  intro child hchild
  have hpid : child.pid ∈ awaited.held.map ManagedChild.pid := by
    rw [hpids', hpids]
    exact List.mem_map_of_mem hchild
  obtain ⟨left, hleft, hsame⟩ := List.mem_map.1 hpid
  cases hstatus : left.status with
  | none =>
    have hmem : left.pid ∈ sent.map (·.pid) := by
      rw [hsends.pids]
      exact List.mem_map_of_mem (List.mem_filter.2 ⟨hleft, decide_eq_true hstatus⟩)
    obtain ⟨one, hone, hownPid⟩ := List.mem_map.1 hmem
    refine Or.inr ⟨one, ?_, hownPid.trans hsame, (hsends.each one hone).1⟩
    rw [hsent]
    exact List.mem_append_right _ hone
  | some status =>
    have hended := (hawaited.2 left hleft).status status hstatus
    refine Or.inl ?_
    rw [← hsame, (hgoes.helper left.pid).status status hended]
    exact Option.some_ne_none _

end WfbLink.Link
