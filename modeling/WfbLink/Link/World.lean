/-
The world of a link: helper processes, the thread of the radio runtime, the files it writes, and the clock.

Ahead of every operation of a handle the world moves on by itself: helpers end, the radio thread goes on, time passes. An
`Oracle` says how, operation by operation, and nothing is assumed about it; what holds for every oracle holds for every
interleaving.

- `Helper.Moves`: what a helper can do by itself; `Helper.Later` takes signals in as well.
- `Passes`: what an operation does that touches no helper; `Goes` is what any operation does.
-/
import WfbLink.Core.Members
import WfbLink.Runtime.RuntimeHost

namespace WfbLink.Link

open WfbLink.Core WfbLink.Runtime

/-! ## Helpers -/

inductive ExitStatus where
  | code (code : ℤ)
  | signal
deriving DecidableEq, Repr

/-- whether a helper that has ended was asked to stop, and when -/
inductive StopSignal where
  | never
  | inTime
  | late
deriving DecidableEq, Repr

/-- a helper process, and whether it was asked to stop -/
inductive Helper where
  | running (asked : Bool)
  | ended (signal : StopSignal) (status : ExitStatus)
deriving DecidableEq, Repr

namespace Helper

def status : Helper → Option ExitStatus
  | running _ => none
  | ended _ status => some status

/-- when it was asked to stop, if it has ended -/
def signal : Helper → Option StopSignal
  | running _ => none
  | ended signal _ => some signal

/-- it was sent a signal, in time or not -/
def signalled : Helper → Bool
  | running asked => asked
  | ended signal _ => signal ≠ .never

/-- the status of a helper that ended before it was asked to -/
def ownEnd : Helper → Option ExitStatus
  | ended .never status | ended .late status => some status
  | ended .inTime _ | running _ => none

/-- ends with this status, if there is one and it has not ended -/
def endWith : Helper → Option ExitStatus → Helper
  | running asked, some status => ended (if asked then .inTime else .never) status
  | helper, _ => helper

/-- a signal for a process that has ended changes nothing for it -/
def ask : Helper → Helper
  | running _ => running true
  | ended .never status => ended .late status
  | helper => helper

/-- what a helper can do by itself -/
def Moves (helper helper' : Helper) : Prop := ∃ ending, helper' = helper.endWith ending

/-- what can have become of a helper -/
structure Later (helper helper' : Helper) : Prop where
  status : ∀ status ∈ helper.status, helper'.status = some status
  ownEnd : ∀ status ∈ helper.ownEnd, helper'.ownEnd = some status

theorem endWith_endWith (helper : Helper) (ending ending' : Option ExitStatus) :
    ∃ both, (helper.endWith ending).endWith ending' = helper.endWith both := by
  cases helper with
  | running asked =>
    cases ending with
    | none => exact ⟨ending', rfl⟩
    | some status => exact ⟨some status, rfl⟩
  | ended signal status => exact ⟨none, rfl⟩

instance : IsPreorder Helper Moves where
  refl helper := ⟨none, by cases helper <;> rfl⟩
  trans := by
    rintro helper _ _ ⟨ending, rfl⟩ ⟨ending', rfl⟩
    exact endWith_endWith helper ending ending'

instance : IsPreorder Helper Later where
  refl _ := ⟨fun _ h => h, fun _ h => h⟩
  trans _ _ _ h h' := ⟨fun _ hs => h'.status _ (h.status _ hs), fun _ hs => h'.ownEnd _ (h.ownEnd _ hs)⟩

variable {helper helper' : Helper}

theorem Moves.endWith (helper : Helper) (ending : Option ExitStatus) : helper.Moves (helper.endWith ending) :=
  ⟨ending, rfl⟩

theorem Moves.later (h : helper.Moves helper') : helper.Later helper' := by
  obtain ⟨ending, rfl⟩ := h
  cases helper with
  | running asked => exact ⟨nofun, nofun⟩
  | ended signal status => exact ⟨fun _ h => h, fun _ h => h⟩

theorem Moves.signalled (h : helper.Moves helper') : helper'.signalled = helper.signalled := by
  obtain ⟨ending, rfl⟩ := h
  cases helper with
  | running asked =>
    cases ending with
    | none => rfl
    | some status => cases asked <;> rfl
  | ended signal status => rfl

theorem Moves.status (h : helper.Moves helper') {status : ExitStatus} (hs : helper.status = some status) :
    helper'.status = some status := h.later.status status hs

/-- a helper that has ended stays as it is, unless it is sent a signal -/
theorem Moves.ended (h : helper.Moves helper') {signal : StopSignal} {status : ExitStatus}
    (hended : helper = ended signal status) : helper' = ended signal status := by
  obtain ⟨ending, rfl⟩ := h
  rw [hended]
  rfl

/-- a helper that was asked to stop while it was running does not end on its own -/
theorem Moves.ownEnd (h : helper.Moves helper') (hasked : helper = running true) : helper'.ownEnd = none := by
  obtain ⟨ending, rfl⟩ := h
  rw [hasked]
  cases ending <;> rfl

theorem later_ask (helper : Helper) : helper.Later helper.ask := by
  cases helper with
  | running asked => exact ⟨nofun, nofun⟩
  | ended signal status => cases signal <;> exact ⟨fun _ h => h, fun _ h => h⟩

theorem signalled_ask (helper : Helper) : helper.ask.signalled = true := by
  cases helper with
  | running asked => rfl
  | ended signal status => cases signal <;> rfl

end Helper

/-! ## The radio thread -/

/-- a file, as a reader finds it -/
inductive FileView where
  | absent
  | unreadable (source : String)
  | torn (source : String)
  | content (content : FileContent)
deriving DecidableEq

/-- a run of the radio thread, up to its end -/
structure RadioRun where
  events : List RuntimeEvent
  outcome : Except Panic ProductionRuntimeFlowReport
  /-- what a write that fails makes of a file -/
  failedWrite : FileView → FileView

def FileView.after (failedWrite : FileView → FileView) (path : String) (view : FileView) : RuntimeEvent → FileView
  | .writeFile written record succeeded =>
    if written = path then (if succeeded then .content record else failedWrite view) else view
  | _ => view

/-- a file after the first events of the thread; it was removed before the thread started -/
def RadioRun.view (run : RadioRun) (path : String) (done : ℕ) : FileView :=
  (run.events.take done).foldl (FileView.after run.failedWrite path) .absent

/-! ## The world -/

structure Oracle where
  /-- how much time passes ahead of an operation -/
  delay : ℕ → ℕ
  /-- which helpers end ahead of an operation, and how -/
  ends : ℕ → ℕ → Option ExitStatus
  /-- how far the radio thread gets ahead of an operation -/
  progress : ℕ → ℕ
  pollError : ℕ → Option String
  /-- how a helper that is waited for ends, or why it cannot be waited for -/
  waited : ℕ → Except String ExitStatus

inductive Signal where
  | term
  | kill
deriving DecidableEq, Repr

/-- a signal that was sent to a process, and when -/
structure SentSignal where
  pid : ℕ
  signal : Signal
  time : ℕ
deriving DecidableEq, Repr

structure LinkWorld where
  oracle : Oracle
  operations : ℕ := 0
  now : ℕ := 0
  helpers : ℕ → Helper
  radio : RadioRun
  /-- how many events of the radio thread have happened; one more than there are once it has finished -/
  done : ℕ := 0
  stopRequested : Bool := false
  signals : List SentSignal := []

namespace LinkWorld

/-- the world moves on -/
def tick (w : LinkWorld) : LinkWorld :=
  { w with
    operations := w.operations + 1
    now := w.now + w.oracle.delay w.operations
    helpers := fun pid => (w.helpers pid).endWith (w.oracle.ends w.operations pid)
    done := w.done + w.oracle.progress w.operations }

def finished (w : LinkWorld) : Bool := w.radio.events.length < w.done

def view (w : LinkWorld) (path : String) : FileView := w.radio.view path w.done

def setHelper (w : LinkWorld) (pid : ℕ) (helper : Helper) : LinkWorld :=
  { w with helpers := fun other => if other = pid then helper else w.helpers other }

def send (w : LinkWorld) (pid : ℕ) (signal : Signal) : LinkWorld :=
  { w.setHelper pid (w.helpers pid).ask with signals := w.signals ++ [⟨pid, signal, w.now⟩] }

end LinkWorld

/-- a handle runs out of fuel, or returns an error -/
inductive LinkFault (ε : Type) where
  | running
  | failed (error : ε)
deriving DecidableEq, Repr

section Operations

variable {ε α : Type}

/-- an operation that only looks -/
def observe (f : LinkWorld → α) : Action LinkWorld ε α := Action.ofState fun w => (f w.tick, w.tick)

/-- an operation that changes the world -/
def change (f : LinkWorld → LinkWorld) : Action LinkWorld ε Unit := Action.ofState fun w => ((), f w.tick)

def instantNow : Action LinkWorld ε ℕ := observe LinkWorld.now

def sleep (duration : ℕ) : Action LinkWorld ε Unit := change fun w => { w with now := w.now + duration }

def pathExists (path : String) : Action LinkWorld ε Bool := observe fun w => w.view path ≠ .absent

def threadFinished : Action LinkWorld ε Bool := observe LinkWorld.finished

def storeStopRequested : Action LinkWorld ε Unit := change fun w => { w with stopRequested := true }

/-- waits for the thread; a panic is not a report -/
def joinThread : Action LinkWorld ε (Except Panic ProductionRuntimeFlowReport) :=
  Action.ofState fun w => (w.radio.outcome, { w.tick with done := max w.tick.done (w.radio.events.length + 1) })

/-! ## Processes -/

def pollHelper (pid : ℕ) : Action LinkWorld ε (Except String (Option ExitStatus)) :=
  observe fun w => match w.oracle.pollError w.operations with
    | some error => .error error
    | none => .ok (w.helpers pid).status

def sendSignal (signal : Signal) (pid : ℕ) : Action LinkWorld ε Unit := change fun w => w.send pid signal

/-- waits until the helper has ended -/
def waitHelper (pid : ℕ) : Action LinkWorld ε (Except String ExitStatus) := Action.ofState fun w =>
  match w.oracle.waited w.operations with
  | .error error => (.error error, w.tick)
  | .ok status =>
    let helper := (w.tick.helpers pid).endWith (some status)
    (.ok (helper.status.getD status), w.tick.setHelper pid helper)

end Operations

/-! ## What operations do to the world -/

/-- what an operation does that touches no helper -/
structure Passes (w w' : LinkWorld) : Prop where
  radio : w'.radio = w.radio
  done : w.done ≤ w'.done
  now : w.now ≤ w'.now
  helper : ∀ pid, (w.helpers pid).Moves (w'.helpers pid)

/-- what any operation does -/
structure Goes (w w' : LinkWorld) : Prop where
  radio : w'.radio = w.radio
  done : w.done ≤ w'.done
  now : w.now ≤ w'.now
  helper : ∀ pid, (w.helpers pid).Later (w'.helpers pid)

/-- what an operation does that touches one helper -/
structure Touches (pid : ℕ) (w w' : LinkWorld) : Prop extends Goes w w' where
  other : ∀ other ≠ pid, (w.helpers other).Moves (w'.helpers other)

instance : IsPreorder LinkWorld Passes where
  refl _ := ⟨rfl, le_rfl, le_rfl, fun _ => refl_of Helper.Moves _⟩
  trans _ _ _ h h' := ⟨h'.radio.trans h.radio, h.done.trans h'.done, h.now.trans h'.now,
    fun pid => trans_of Helper.Moves (h.helper pid) (h'.helper pid)⟩

instance : IsPreorder LinkWorld Goes where
  refl _ := ⟨rfl, le_rfl, le_rfl, fun _ => refl_of Helper.Later _⟩
  trans _ _ _ h h' := ⟨h'.radio.trans h.radio, h.done.trans h'.done, h.now.trans h'.now,
    fun pid => trans_of Helper.Later (h.helper pid) (h'.helper pid)⟩

theorem Passes.touches {w w' : LinkWorld} (h : Passes w w') (pid : ℕ) : Touches pid w w' :=
  ⟨⟨h.radio, h.done, h.now, fun pid => (h.helper pid).later⟩, fun other _ => h.helper other⟩

theorem passes_tick (w : LinkWorld) : Passes w w.tick :=
  ⟨rfl, Nat.le_add_right _ _, Nat.le_add_right _ _, fun _ => Helper.Moves.endWith _ _⟩

/-- time passes, and one helper changes -/
theorem touches_setHelper (w : LinkWorld) {pid : ℕ} {helper : Helper} (h : (w.tick.helpers pid).Later helper) :
    Touches pid w (w.tick.setHelper pid helper) := by
  have htick := passes_tick w
  refine ⟨⟨rfl, htick.done, htick.now, fun other => ?_⟩, fun other hother => ?_⟩
  · change (w.helpers other).Later (if other = pid then helper else w.tick.helpers other)
    split_ifs with hsame
    · subst hsame
      exact trans_of Helper.Later (htick.helper other).later h
    · exact (htick.helper other).later
  · change (w.helpers other).Moves (if other = pid then helper else w.tick.helpers other)
    rw [if_neg hother]
    exact htick.helper other

theorem touches_send (w : LinkWorld) (pid : ℕ) (signal : Signal) : Touches pid w (w.tick.send pid signal) := by
  have h := touches_setHelper w (Helper.later_ask (w.tick.helpers pid))
  exact ⟨⟨h.radio, h.done, h.now, h.helper⟩, h.other⟩

section Within

variable {ε α : Type}

theorem observe_passes (f : LinkWorld → α) : Within Passes (observe f : Action LinkWorld ε α) :=
  Within.ofState passes_tick

theorem instantNow_passes : Within Passes (instantNow : Action LinkWorld ε ℕ) := observe_passes _

theorem sleep_passes (duration : ℕ) : Within Passes (sleep duration : Action LinkWorld ε Unit) := by
  refine Within.ofState fun w => ?_
  have htick := passes_tick w
  exact ⟨htick.radio, htick.done, htick.now.trans (Nat.le_add_right _ _), htick.helper⟩

theorem storeStopRequested_passes : Within Passes (storeStopRequested : Action LinkWorld ε Unit) := by
  refine Within.ofState fun w => ?_
  have htick := passes_tick w
  exact ⟨htick.radio, htick.done, htick.now, htick.helper⟩

theorem joinThread_passes : Within Passes (joinThread : Action LinkWorld ε _) := by
  refine Within.ofState fun w => ?_
  have htick := passes_tick w
  exact ⟨htick.radio, htick.done.trans (le_max_left _ _), htick.now, htick.helper⟩

end Within

end WfbLink.Link
