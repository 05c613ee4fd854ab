/-
Running register actions on a transport.

`RegisterAction.exec` runs a register action as an action on the transport and the counters, so that the rules for
actions apply to register code. On a logged transport, what a register action leaves is a list of transfers.

- `exec_bind`: running a sequence is running its parts.
- `Logs`: the action leaves allowed transfers only; one rule for each way to build a register action.
-/
import WfbLink.RadioCore.RegisterLog
import WfbLink.Runtime.RadioSetup

namespace WfbLink.Runtime

open WfbLink.Core WfbLink.RadioCore

/-! ## Register actions -/

namespace RegisterAction

variable {α : Type}

/-- the outcome as a value -/
def attempt (action : RegisterAction α) : RegisterAction (Except RuntimeRadioError α) := fun counters => do
  let (result, counters) ← action counters
  return (.ok result, counters)

/-- what is computed without any access -/
def ofExcept (result : Except RuntimeRadioError α) : RegisterAction α := fun counters => return (result, counters)

def modifyCounters (f : RuntimeRadioCounters → RuntimeRadioCounters) : RegisterAction Unit := fun counters =>
  return (.ok (), f counters)

/-- the same with another error -/
def mapError (f : RuntimeRadioError → RuntimeRadioError) (action : RegisterAction α) : RegisterAction α :=
  fun counters => do
    let (result, counters) ← action counters
    return (result.mapError f, counters)

theorem pure_bind {β : Type} (a : α) (f : α → RegisterAction β) : Pure.pure a >>= f = f a := rfl

theorem bind_assoc {β γ : Type} (action : RegisterAction α) (f : α → RegisterAction β) (g : β → RegisterAction γ) :
    action >>= f >>= g = action >>= fun a => f a >>= g := by
  funext counters
  refine (RegisterProgram.bind_assoc (action counters) _ _).trans ?_
  refine congrArg (action counters >>= ·) (funext fun result => ?_)
  rcases result with ⟨error | a, counters⟩
  · rfl
  · rfl

/-- an access that is not counted -/
def access (program : RegisterProgram (Except Rtl8812auRegisterError α))
    (error : Rtl8812auRegisterError → RuntimeRadioError) : RegisterAction α := fun counters => do
  let result ← program
  return (result.mapError error, counters)

end RegisterAction

section CustomError

variable {α : Type} (registers : Rtl8812auRegisterAccess)

/-- a read with an error of the caller's -/
def readWithCustomError (read : RegisterProgram (Except Rtl8812auRegisterError α))
    (error : Rtl8812auRegisterError → RuntimeRadioError) : RegisterAction α := fun counters => do
  match ← read with
  | .error e => return (.error (error e), counters)
  | .ok value => return (.ok value, { counters with usbControlReads := counters.usbControlReads + 1 })

/-- a write with an error of the caller's -/
def writeWithCustomError (write : RegisterProgram (Except Rtl8812auRegisterError Unit))
    (error : Rtl8812auRegisterError → RuntimeRadioError) : RegisterAction Unit := fun counters => do
  match ← write with
  | .error e => return (.error (error e), counters)
  | .ok () => return (.ok (), { counters with usbControlWrites := counters.usbControlWrites + 1 })

def read8WithCustomError (address : UInt16) (error : Rtl8812auRegisterError → RuntimeRadioError) :
    RegisterAction UInt8 := readWithCustomError (registers.read8 address) error

def read16WithCustomError (address : UInt16) (error : Rtl8812auRegisterError → RuntimeRadioError) :
    RegisterAction UInt16 := readWithCustomError (registers.read16 address) error

def write8WithCustomError (address : UInt16) (value : UInt8) (error : Rtl8812auRegisterError → RuntimeRadioError) :
    RegisterAction Unit := writeWithCustomError (registers.write8 address value) error

def write16WithCustomError (address value : UInt16) (error : Rtl8812auRegisterError → RuntimeRadioError) :
    RegisterAction Unit := writeWithCustomError (registers.write16 address value) error

end CustomError

/-! ## Running them -/

/-- where a register action runs -/
structure RegisterRun (τ : Type) where
  transport : τ
  counters : RuntimeRadioCounters

section Exec

variable {τ α β : Type} [Rtl8812auUsbTransport τ]

namespace RegisterAction

def exec (action : RegisterAction α) : Action (RegisterRun τ) RuntimeRadioError α := fun s =>
  (((action s.counters).run s.transport).1.1,
    { transport := ((action s.counters).run s.transport).2, counters := ((action s.counters).run s.transport).1.2 })

@[simp] theorem exec_pure (a : α) : (pure a : RegisterAction α).exec = (pure a : Action (RegisterRun τ) _ α) := rfl

@[simp] theorem exec_fail (error : RuntimeRadioError) :
    (fail error : RegisterAction α).exec = (Action.fail error : Action (RegisterRun τ) _ α) := rfl

@[simp] theorem exec_counters :
    counters.exec = (Action.read RegisterRun.counters : Action (RegisterRun τ) RuntimeRadioError _) := rfl

@[simp] theorem exec_ofExcept (result : Except RuntimeRadioError α) :
    (ofExcept result).exec = (Action.ofExcept result : Action (RegisterRun τ) _ α) := rfl

@[simp] theorem exec_modifyCounters (f : RuntimeRadioCounters → RuntimeRadioCounters) :
    (modifyCounters f).exec
      = (Action.modify fun s => { s with counters := f s.counters } : Action (RegisterRun τ) RuntimeRadioError Unit) :=
  rfl

@[simp] theorem exec_attempt (action : RegisterAction α) :
    action.attempt.exec = (Action.attempt action.exec : Action (RegisterRun τ) RuntimeRadioError _) := by
  funext s
  rcases hrun : (action s.counters).run s.transport with ⟨⟨result, counters⟩, transport⟩
  simp only [exec, attempt, RegisterProgram.run_bind, RegisterProgram.run_pure, hrun, Action.attempt_run]

theorem exec_attempt_run (action : RegisterAction α) (s : RegisterRun τ) :
    action.attempt.exec s = (.ok (action.exec s).1, (action.exec s).2) := by
  rw [exec_attempt, Action.attempt_run]

theorem exec_mapError (f : RuntimeRadioError → RuntimeRadioError) (action : RegisterAction α) (s : RegisterRun τ) :
    (action.mapError f).exec s = ((action.exec s).1.mapError f, (action.exec s).2) := by
  rcases hrun : (action s.counters).run s.transport with ⟨⟨result, counters⟩, transport⟩
  simp only [exec, mapError, RegisterProgram.run_bind, RegisterProgram.run_pure, hrun]

/-- running a sequence is running its parts -/
@[simp] theorem exec_bind (action : RegisterAction α) (f : α → RegisterAction β) :
    (action >>= f).exec = (action.exec >>= fun a => (f a).exec : Action (RegisterRun τ) _ β) := by
  funext s
  change (action.andThen f).exec s = _
  rcases hrun : (action s.counters).run s.transport with ⟨⟨error | a, counters⟩, transport⟩
  · have hact : (action.exec : Action (RegisterRun τ) _ α) s = (.error error, ⟨transport, counters⟩) := by
      simp only [exec, hrun]
    rw [Action.bind_of_error hact, exec, andThen, RegisterProgram.run_bind, hrun]
    rfl
  · have hact : (action.exec : Action (RegisterRun τ) _ α) s = (.ok a, ⟨transport, counters⟩) := by
      simp only [exec, hrun]
    rw [Action.bind_of_ok hact, exec, andThen, RegisterProgram.run_bind, hrun]
    rfl

theorem exec_access (program : RegisterProgram (Except Rtl8812auRegisterError α))
    (error : Rtl8812auRegisterError → RuntimeRadioError) (s : RegisterRun τ) :
    (access program error).exec s =
      ((program.run s.transport).1.mapError error, { s with transport := (program.run s.transport).2 }) := by
  simp only [exec, access, RegisterProgram.run_bind, RegisterProgram.run_pure]

/-- a read is one access; a failed one leaves the counters -/
theorem exec_readWithCustomError (read : RegisterProgram (Except Rtl8812auRegisterError α))
    (error : Rtl8812auRegisterError → RuntimeRadioError) (s : RegisterRun τ) :
    (readWithCustomError read error).exec s =
      match read.run s.transport with
      | (.error e, transport) => (.error (error e), { s with transport })
      | (.ok value, transport) =>
        (.ok value, ⟨transport, { s.counters with usbControlReads := s.counters.usbControlReads + 1 }⟩) := by
  rcases hrun : read.run s.transport with ⟨e | value, transport⟩
  · simp only [exec, readWithCustomError, RegisterProgram.run_bind, hrun, RegisterProgram.run_pure]
  · simp only [exec, readWithCustomError, RegisterProgram.run_bind, hrun, RegisterProgram.run_pure]

theorem exec_writeWithCustomError (write : RegisterProgram (Except Rtl8812auRegisterError Unit))
    (error : Rtl8812auRegisterError → RuntimeRadioError) (s : RegisterRun τ) :
    (writeWithCustomError write error).exec s =
      match write.run s.transport with
      | (.error e, transport) => (.error (error e), { s with transport })
      | (.ok (), transport) =>
        (.ok (), ⟨transport, { s.counters with usbControlWrites := s.counters.usbControlWrites + 1 }⟩) := by
  rcases hrun : write.run s.transport with ⟨e | value, transport⟩
  · simp only [exec, writeWithCustomError, RegisterProgram.run_bind, hrun, RegisterProgram.run_pure]
  · simp only [exec, writeWithCustomError, RegisterProgram.run_bind, hrun, RegisterProgram.run_pure]

end RegisterAction

theorem writeWithCounter_eq (write : RegisterProgram (Except Rtl8812auRegisterError Unit))
    (registerName phase : String) :
    writeWithCounter write registerName phase = writeWithCustomError write (.registerWrite registerName phase) := rfl

end Exec

/-! ## On a logged transport -/

section Logs

variable {τ α β : Type} [Rtl8812auUsbTransport τ] {allowed : RegisterTransfer → Prop}

def runLog (s : RegisterRun (Logged τ)) : List RegisterTransfer := s.transport.log

/-- on a logged transport, the action leaves allowed transfers only -/
def Logs (τ : Type) [Rtl8812auUsbTransport τ] (allowed : RegisterTransfer → Prop) (action : RegisterAction α) : Prop :=
  Emits (runLog (τ := τ)) allowed action.exec

namespace Logs

theorem pure (a : α) : Logs τ allowed (Pure.pure a) := Emits.pure a

theorem fail (error : RuntimeRadioError) : Logs τ allowed (RegisterAction.fail error : RegisterAction α) :=
  Emits.fail error

theorem counters : Logs τ allowed RegisterAction.counters := Emits.read _

theorem ofExcept (result : Except RuntimeRadioError α) : Logs τ allowed (RegisterAction.ofExcept result) :=
  Emits.ofExcept result

theorem modifyCounters (f : RuntimeRadioCounters → RuntimeRadioCounters) :
    Logs τ allowed (RegisterAction.modifyCounters f) := Emits.modify fun _ => rfl

theorem bind {action : RegisterAction α} {f : α → RegisterAction β} (h : Logs τ allowed action)
    (hf : ∀ a, Logs τ allowed (f a)) : Logs τ allowed (action >>= f) := by
  rw [Logs, RegisterAction.exec_bind]
  exact Emits.bind h hf

theorem attempt {action : RegisterAction α} (h : Logs τ allowed action) : Logs τ allowed action.attempt := by
  rw [Logs, RegisterAction.exec_attempt]
  exact Emits.attempt h

theorem mono {allowed' : RegisterTransfer → Prop} {action : RegisterAction α} (h : Logs τ allowed action)
    (himp : ∀ t, allowed t → allowed' t) : Logs τ allowed' action := Emits.mono h himp

theorem access {program : RegisterProgram (Except Rtl8812auRegisterError α)}
    {error : Rtl8812auRegisterError → RuntimeRadioError}
    (h : ∀ transport : Logged τ, Extends allowed transport.log (program.run transport).2.log) :
    Logs τ allowed (RegisterAction.access program error) := by
  intro s
  rw [RegisterAction.exec_access]
  exact h s.transport

theorem readWithCustomError {read : RegisterProgram (Except Rtl8812auRegisterError α)}
    {error : Rtl8812auRegisterError → RuntimeRadioError}
    (h : ∀ transport : Logged τ, Extends allowed transport.log (read.run transport).2.log) :
    Logs τ allowed (readWithCustomError read error) := by
  intro s
  have hread := h s.transport
  rw [RegisterAction.exec_readWithCustomError]
  rcases hrun : read.run s.transport with ⟨e | value, transport⟩
  · rwa [hrun] at hread
  · rwa [hrun] at hread

theorem writeWithCustomError {write : RegisterProgram (Except Rtl8812auRegisterError Unit)}
    {error : Rtl8812auRegisterError → RuntimeRadioError}
    (h : ∀ transport : Logged τ, Extends allowed transport.log (write.run transport).2.log) :
    Logs τ allowed (writeWithCustomError write error) := by
  intro s
  have hwrite := h s.transport
  rw [RegisterAction.exec_writeWithCustomError]
  rcases hrun : write.run s.transport with ⟨e | value, transport⟩
  · rwa [hrun] at hwrite
  · rwa [hrun] at hwrite

end Logs

theorem logs_any (action : RegisterAction α) : Logs τ (fun _ => True) action := fun s =>
  (action s.counters).run_extends s.transport

/-- the run with an empty log -/
def RegisterRun.logged (s : RegisterRun τ) : RegisterRun (Logged τ) := ⟨⟨s.transport, []⟩, s.counters⟩

/-- the run without its log -/
def RegisterRun.bare (s : RegisterRun (Logged τ)) : RegisterRun τ := ⟨s.transport.inner, s.counters⟩

/-- keeping a log changes nothing -/
theorem exec_bare (action : RegisterAction α) (s : RegisterRun (Logged τ)) :
    action.exec s.bare = ((action.exec s).1, (action.exec s).2.bare) := by
  obtain ⟨hresult, hinner⟩ := (action s.counters).run_logged s.transport
  simp only [RegisterAction.exec, RegisterRun.bare, hresult, hinner]

/-! ### What a success leaves -/

/-- if the action returns a value, it leaves transfers in `P` -/
def OkLogs (τ : Type) [Rtl8812auUsbTransport τ] (action : RegisterAction α) (P : α → List RegisterTransfer → Prop) :
    Prop :=
  ∀ (s : RegisterRun (Logged τ)) a s', action.exec s = (.ok a, s') →
    ∃ transfers, runLog s' = runLog s ++ transfers ∧ P a transfers

namespace OkLogs

variable {P P' : α → List RegisterTransfer → Prop} {Q : β → List RegisterTransfer → Prop} {action : RegisterAction α}
  {f : α → RegisterAction β}

theorem pure {a : α} (h : P a []) : OkLogs τ (Pure.pure a) P := by
  intro s b s' hrun
  rw [RegisterAction.exec_pure, Action.pure_run] at hrun
  obtain ⟨hb, rfl⟩ := Prod.ext_iff.1 hrun
  obtain rfl := Except.ok.inj hb
  exact ⟨[], (List.append_nil _).symm, h⟩

theorem fail (error : RuntimeRadioError) : OkLogs τ (RegisterAction.fail error) P := by
  intro s b s' hrun
  cases (Prod.ext_iff.1 hrun).1

theorem bind (h : OkLogs τ action P) (hf : ∀ a, OkLogs τ (f a) fun b later => ∀ earlier, P a earlier → Q b (earlier ++ later)) :
    OkLogs τ (action >>= f) Q := by
  intro s b s' hrun
  rw [RegisterAction.exec_bind] at hrun
  obtain ⟨a, s₁, hact, hcont⟩ := Action.bind_ok hrun
  obtain ⟨earlier, hearlier, hP⟩ := h s a s₁ hact
  obtain ⟨later, hlater, hQ⟩ := hf a s₁ b s' hcont
  exact ⟨earlier ++ later, by rw [hlater, hearlier, List.append_assoc], hQ earlier hP⟩

theorem weaken (h : OkLogs τ action P) (hpost : ∀ a transfers, P a transfers → P' a transfers) :
    OkLogs τ action P' := by
  intro s a s' hrun
  obtain ⟨transfers, hlog, hP⟩ := h s a s' hrun
  exact ⟨transfers, hlog, hpost a transfers hP⟩

theorem any (action : RegisterAction α) : OkLogs τ action fun _ _ => True := by
  intro s a s' hrun
  obtain ⟨transfers, hlog, -⟩ := logs_any action s
  rw [hrun] at hlog
  exact ⟨transfers, hlog, True.intro⟩

/-- what the last step returns, whatever comes first -/
theorem after {ψ : β → Prop} (action : RegisterAction α) (hf : ∀ a, OkLogs τ (f a) fun b _ => ψ b) :
    OkLogs τ (action >>= f) fun b _ => ψ b :=
  (any action).bind fun a => (hf a).weaken fun _ _ h _ _ => h

theorem attempt (h : OkLogs τ action P) :
    OkLogs τ action.attempt fun outcome transfers => ∀ a, outcome = .ok a → P a transfers := by
  intro s outcome s' hrun
  rw [RegisterAction.exec_attempt_run] at hrun
  obtain ⟨houtcome, rfl⟩ := Prod.ext_iff.1 hrun
  obtain rfl := Except.ok.inj houtcome
  rcases hact : action.exec s with ⟨error | a, s'⟩
  · obtain ⟨transfers, hlog, -⟩ := logs_any action s
    rw [hact] at hlog
    exact ⟨transfers, hlog, fun a ha => nomatch ha⟩
  · obtain ⟨transfers, hlog, hP⟩ := h s a s' hact
    exact ⟨transfers, hlog, fun b hb => Except.ok.inj hb ▸ hP⟩

theorem ofExcept {r : Except RuntimeRadioError α} (h : ∀ a, r = .ok a → P a []) :
    OkLogs τ (RegisterAction.ofExcept r) P := by
  intro s a s' hrun
  rw [RegisterAction.exec_ofExcept, Action.ofExcept_run] at hrun
  obtain ⟨hr, rfl⟩ := Prod.ext_iff.1 hrun
  exact ⟨[], (List.append_nil _).symm, h a hr⟩

theorem counters {P : RuntimeRadioCounters → List RegisterTransfer → Prop} (h : ∀ c, P c []) :
    OkLogs τ RegisterAction.counters P := by
  intro s a s' hrun
  obtain ⟨-, rfl⟩ := Prod.ext_iff.1 hrun
  exact ⟨[], (List.append_nil _).symm, h a⟩

theorem modifyCounters {g : RuntimeRadioCounters → RuntimeRadioCounters} {P : Unit → List RegisterTransfer → Prop}
    (h : P () []) : OkLogs τ (RegisterAction.modifyCounters g) P := by
  intro s a s' hrun
  obtain ⟨-, rfl⟩ := Prod.ext_iff.1 hrun
  exact ⟨[], (List.append_nil _).symm, h⟩

/-- one read, answered in full -/
theorem read8 (registers : Rtl8812auRegisterAccess) (address : UInt16)
    (error : Rtl8812auRegisterError → RuntimeRadioError) {P : UInt8 → List RegisterTransfer → Prop}
    (h : ∀ data : List UInt8, data.length = 1 → P (UInt8.ofNat (fromLeBytes data)) [.read address data (.ok 1)]) :
    OkLogs τ (read8WithCustomError registers address error) P := by
  intro s a s' hrun
  obtain ⟨outcome, inner, bytes, result, hread, houtcome⟩ :=
    registers.readExact_logged (n := 1) address .u8 rfl (.zeroed 1 (by decide)) s.transport
  rw [read8WithCustomError, RegisterAction.exec_readWithCustomError, Rtl8812auRegisterAccess.read8,
    RegisterProgram.run_bind, hread] at hrun
  rcases houtcome with ⟨data, -, rfl, rfl, rfl⟩ | ⟨-, e, rfl⟩
  · obtain ⟨hvalue, rfl⟩ := Prod.ext_iff.1 hrun
    obtain rfl := Except.ok.inj hvalue
    exact ⟨_, rfl, h data.bytes data.length_eq⟩
  · cases (Prod.ext_iff.1 hrun).1

theorem read32 (registers : Rtl8812auRegisterAccess) (address : UInt16)
    (error : Rtl8812auRegisterError → RuntimeRadioError) {P : UInt32 → List RegisterTransfer → Prop}
    (h : ∀ data : List UInt8, data.length = 4 → P (UInt32.ofNat (fromLeBytes data)) [.read address data (.ok 4)]) :
    OkLogs τ (readWithCustomError (registers.read32 address) error) P := by
  intro s a s' hrun
  obtain ⟨outcome, inner, bytes, result, hread, houtcome⟩ :=
    registers.readExact_logged (n := 4) address .u32 rfl (.zeroed 4 (by decide)) s.transport
  rw [RegisterAction.exec_readWithCustomError, Rtl8812auRegisterAccess.read32, RegisterProgram.run_bind,
    hread] at hrun
  rcases houtcome with ⟨data, -, rfl, rfl, rfl⟩ | ⟨-, e, rfl⟩
  · obtain ⟨hvalue, rfl⟩ := Prod.ext_iff.1 hrun
    obtain rfl := Except.ok.inj hvalue
    exact ⟨_, rfl, h data.bytes data.length_eq⟩
  · cases (Prod.ext_iff.1 hrun).1

/-- one write, answered in full -/
theorem access_writeAll (registers : Rtl8812auRegisterAccess) (address : UInt16) (width : RegisterWidth)
    (data : List UInt8) (hwidth : width.expectedLen = data.length)
    (error : Rtl8812auRegisterError → RuntimeRadioError) {P : Unit → List RegisterTransfer → Prop}
    (h : P () [.write address data (.ok data.length)]) :
    OkLogs τ (RegisterAction.access (registers.writeAll address width data) error) P := by
  intro s a s' hrun
  obtain ⟨outcome, inner, result, hwrite, houtcome⟩ := registers.writeAll_logged address width data hwidth s.transport
  rw [RegisterAction.exec_access, hwrite] at hrun
  rcases houtcome with ⟨-, rfl, rfl⟩ | ⟨-, ⟨e, rfl⟩, -⟩
  · obtain ⟨-, rfl⟩ := Prod.ext_iff.1 hrun
    exact ⟨_, rfl, h⟩
  · cases (Prod.ext_iff.1 hrun).1

theorem writeAll (registers : Rtl8812auRegisterAccess) (address : UInt16) (width : RegisterWidth) (data : List UInt8)
    (hwidth : width.expectedLen = data.length) (error : Rtl8812auRegisterError → RuntimeRadioError)
    {P : Unit → List RegisterTransfer → Prop} (h : P () [.write address data (.ok data.length)]) :
    OkLogs τ (writeWithCustomError (registers.writeAll address width data) error) P := by
  intro s a s' hrun
  obtain ⟨outcome, inner, result, hwrite, houtcome⟩ := registers.writeAll_logged address width data hwidth s.transport
  rw [RegisterAction.exec_writeWithCustomError, hwrite] at hrun
  rcases houtcome with ⟨-, rfl, rfl⟩ | ⟨-, ⟨e, rfl⟩, -⟩
  · obtain ⟨-, rfl⟩ := Prod.ext_iff.1 hrun
    exact ⟨_, rfl, h⟩
  · cases (Prod.ext_iff.1 hrun).1

end OkLogs

/-! ### What is left in any case -/

/-- the action leaves transfers in `P`, which depends on its outcome -/
def LeavesLog (τ : Type) [Rtl8812auUsbTransport τ] (action : RegisterAction α)
    (P : Except RuntimeRadioError α → List RegisterTransfer → Prop) : Prop :=
  ∀ s : RegisterRun (Logged τ), ∃ transfers,
    runLog (action.exec s).2 = runLog s ++ transfers ∧ P (action.exec s).1 transfers

namespace LeavesLog

variable {P P' : Except RuntimeRadioError α → List RegisterTransfer → Prop}
  {Q : Except RuntimeRadioError β → List RegisterTransfer → Prop} {action : RegisterAction α} {f : α → RegisterAction β}

theorem pure {a : α} (h : P (.ok a) []) : LeavesLog τ (Pure.pure a) P :=
  fun _ => ⟨[], (List.append_nil _).symm, h⟩

theorem counters {P : Except RuntimeRadioError RuntimeRadioCounters → List RegisterTransfer → Prop}
    (h : ∀ c, P (.ok c) []) : LeavesLog τ RegisterAction.counters P :=
  fun s => ⟨[], (List.append_nil _).symm, h s.counters⟩

theorem bind (h : LeavesLog τ action P)
    (hf : ∀ a earlier, P (.ok a) earlier → LeavesLog τ (f a) fun outcome later => Q outcome (earlier ++ later))
    (herror : ∀ error transfers, P (.error error) transfers → Q (.error error) transfers) :
    LeavesLog τ (action >>= f) Q := by
  intro s
  obtain ⟨earlier, hearlier, hP⟩ := h s
  rw [RegisterAction.exec_bind]
  rcases hrun : action.exec s with ⟨error | a, s'⟩
  · rw [hrun] at hearlier hP
    rw [Action.bind_of_error hrun]
    exact ⟨earlier, hearlier, herror _ _ hP⟩
  · rw [hrun] at hearlier hP
    rw [Action.bind_of_ok hrun]
    obtain ⟨later, hlater, hQ⟩ := hf a earlier hP s'
    exact ⟨earlier ++ later, by rw [hlater, hearlier, List.append_assoc], hQ⟩

/-- what follows leaves nothing -/
theorem bind_silent {kind : List RegisterTransfer → Prop} (h : LeavesLog τ action fun _ => kind)
    (hf : ∀ a, LeavesLog τ (f a) fun _ later => later = []) : LeavesLog τ (action >>= f) fun _ => kind := by
  intro s
  obtain ⟨earlier, hearlier, hkind⟩ := h s
  rw [RegisterAction.exec_bind]
  rcases hrun : action.exec s with ⟨error | a, s'⟩
  · rw [hrun] at hearlier
    rw [Action.bind_of_error hrun]
    exact ⟨earlier, hearlier, hkind⟩
  · rw [hrun] at hearlier
    rw [Action.bind_of_ok hrun]
    obtain ⟨_, hlater, rfl⟩ := hf a s'
    exact ⟨earlier, by rw [hlater, hearlier, List.append_nil], hkind⟩

theorem counters_bind {f : RuntimeRadioCounters → RegisterAction α} (hf : ∀ c, LeavesLog τ (f c) P) :
    LeavesLog τ (RegisterAction.counters >>= f) P := by
  intro s
  rw [RegisterAction.exec_bind]
  exact hf s.counters s

theorem weaken (h : LeavesLog τ action P) (hpost : ∀ outcome transfers, P outcome transfers → P' outcome transfers) :
    LeavesLog τ action P' := by
  intro s
  obtain ⟨transfers, hlog, hP⟩ := h s
  exact ⟨transfers, hlog, hpost _ _ hP⟩

theorem attempt {P : Except RuntimeRadioError (Except RuntimeRadioError α) → List RegisterTransfer → Prop}
    (h : LeavesLog τ action fun outcome => P (.ok outcome)) : LeavesLog τ action.attempt P := by
  intro s
  rw [RegisterAction.exec_attempt_run]
  exact h s

theorem mapError {g : RuntimeRadioError → RuntimeRadioError} (h : LeavesLog τ action fun outcome => P (outcome.mapError g)) :
    LeavesLog τ (action.mapError g) P := by
  intro s
  rw [RegisterAction.exec_mapError]
  exact h s

/-- a read leaves itself, and succeeds iff it is answered -/
theorem read32 {P : Except RuntimeRadioError UInt32 → List RegisterTransfer → Prop}
    (registers : Rtl8812auRegisterAccess) (address : UInt16) (error : Rtl8812auRegisterError → RuntimeRadioError)
    (h : ∀ outcome data result, (∀ value, outcome = .ok value → value = UInt32.ofNat (fromLeBytes data)) →
      (outcome.isOk = true ↔ RegisterTransfer.Answered (.read address data result)) →
        P outcome [.read address data result]) :
    LeavesLog τ (readWithCustomError (registers.read32 address) error) P := by
  intro s
  obtain ⟨outcome, inner, bytes, result, hread, hbytes, hanswered⟩ :=
    registers.readExact_answered (n := 4) address .u32 rfl (.zeroed 4 (by decide)) s.transport
  rw [RegisterAction.exec_readWithCustomError, Rtl8812auRegisterAccess.read32, RegisterProgram.run_bind, hread]
  cases outcome with
  | ok data =>
    refine ⟨_, rfl, h _ _ _ ?_ hanswered⟩
    rintro _ ⟨⟩
    exact congrArg (UInt32.ofNat ∘ fromLeBytes) (hbytes data rfl)
  | error e =>
    refine ⟨_, rfl, h _ _ _ ?_ hanswered⟩
    rintro _ ⟨⟩

theorem read8 {P : Except RuntimeRadioError UInt8 → List RegisterTransfer → Prop}
    (registers : Rtl8812auRegisterAccess) (address : UInt16) (error : Rtl8812auRegisterError → RuntimeRadioError)
    (h : ∀ outcome data result, (∀ value, outcome = .ok value → value = UInt8.ofNat (fromLeBytes data)) →
      (outcome.isOk = true ↔ RegisterTransfer.Answered (.read address data result)) →
        P outcome [.read address data result]) :
    LeavesLog τ (readWithCustomError (registers.read8 address) error) P := by
  intro s
  obtain ⟨outcome, inner, bytes, result, hread, hbytes, hanswered⟩ :=
    registers.readExact_answered (n := 1) address .u8 rfl (.zeroed 1 (by decide)) s.transport
  rw [RegisterAction.exec_readWithCustomError, Rtl8812auRegisterAccess.read8, RegisterProgram.run_bind, hread]
  cases outcome with
  | ok data =>
    refine ⟨_, rfl, h _ _ _ ?_ hanswered⟩
    rintro _ ⟨⟩
    exact congrArg (UInt8.ofNat ∘ fromLeBytes) (hbytes data rfl)
  | error e =>
    refine ⟨_, rfl, h _ _ _ ?_ hanswered⟩
    rintro _ ⟨⟩

/-- a write leaves itself -/
theorem writeAll {P : Except RuntimeRadioError Unit → List RegisterTransfer → Prop}
    (registers : Rtl8812auRegisterAccess) (address : UInt16) (width : RegisterWidth) (data : List UInt8)
    (hwidth : width.expectedLen = data.length) (error : Rtl8812auRegisterError → RuntimeRadioError)
    (h : ∀ outcome result, P outcome [.write address data result]) :
    LeavesLog τ (writeWithCustomError (registers.writeAll address width data) error) P := by
  intro s
  obtain ⟨outcome, inner, result, hwrite, -⟩ := registers.writeAll_logged address width data hwidth s.transport
  rw [RegisterAction.exec_writeWithCustomError, hwrite]
  cases outcome with
  | ok _ => exact ⟨_, rfl, h _ _⟩
  | error e => exact ⟨_, rfl, h _ _⟩

end LeavesLog

/-! ### What never fails -/

/-- whatever is answered, the action returns a value, and leaves transfers in `P` -/
def Completes (τ : Type) [Rtl8812auUsbTransport τ] (action : RegisterAction α)
    (P : α → List RegisterTransfer → Prop) : Prop :=
  LeavesLog τ action fun outcome transfers => ∃ a, outcome = .ok a ∧ P a transfers

namespace Completes

variable {P P' : α → List RegisterTransfer → Prop} {Q : β → List RegisterTransfer → Prop} {action : RegisterAction α}
  {f : α → RegisterAction β}

theorem pure {a : α} (h : P a []) : Completes τ (Pure.pure a) P := LeavesLog.pure ⟨a, rfl, h⟩

theorem counters {P : RuntimeRadioCounters → List RegisterTransfer → Prop} (h : ∀ c, P c []) :
    Completes τ RegisterAction.counters P :=
  LeavesLog.counters fun c => ⟨c, rfl, h c⟩

theorem weaken (h : Completes τ action P) (himp : ∀ a transfers, P a transfers → P' a transfers) :
    Completes τ action P' := by
  refine LeavesLog.weaken h fun outcome transfers hP => ?_
  obtain ⟨a, houtcome, hP⟩ := hP
  exact ⟨a, houtcome, himp a transfers hP⟩

theorem bind (h : Completes τ action P)
    (hf : ∀ a earlier, P a earlier → Completes τ (f a) fun b later => Q b (earlier ++ later)) :
    Completes τ (action >>= f) Q := by
  apply LeavesLog.bind h
  · rintro a earlier ⟨_, ⟨⟩, hP⟩
    exact hf a earlier hP
  · rintro error transfers ⟨_, ⟨⟩, -⟩

/-- caught, an action never fails -/
theorem attempt {P : Except RuntimeRadioError α → List RegisterTransfer → Prop} (h : LeavesLog τ action P) :
    Completes τ action.attempt P :=
  LeavesLog.attempt (h.weaken fun outcome _ hP => ⟨outcome, rfl, hP⟩)

/-- the first section of the transfers, and the others -/
theorem section_bind {kind : List RegisterTransfer → Prop} {kinds : List (List RegisterTransfer → Prop)} {ψ : β → Prop}
    (h : Completes τ action fun _ => kind)
    (hf : ∀ a, Completes τ (f a) fun b transfers => ψ b ∧ Sections kinds transfers) :
    Completes τ (action >>= f) fun b transfers => ψ b ∧ Sections (kind :: kinds) transfers := by
  apply h.bind
  intro a earlier hkind
  refine (hf a).weaken fun b later hlater => ?_
  exact ⟨hlater.1, earlier, later, rfl, hkind, hlater.2⟩

/-- what it returns, from any start -/
theorem returns (h : Completes τ action P) (s : RegisterRun τ) :
    ∃ a s', action.exec s.logged = (.ok a, s') ∧ P a (runLog s') := by
  obtain ⟨transfers, hlog, a, houtcome, hP⟩ := h s.logged
  have hall : runLog (action.exec s.logged).2 = transfers := hlog
  exact ⟨a, (action.exec s.logged).2, Prod.ext houtcome rfl, by rwa [hall]⟩

theorem okLogs (h : Completes τ action P) : OkLogs τ action P := by
  intro s a s' hrun
  obtain ⟨transfers, hlog, a', houtcome, hP⟩ := h s
  rw [hrun] at hlog houtcome
  obtain rfl := Except.ok.inj houtcome
  exact ⟨transfers, hlog, hP⟩

end Completes

/-- what holds of every value that is returned on a logged transport, holds on the transport itself -/
theorem OkLogs.returned {action : RegisterAction α} {ψ : α → Prop} (h : OkLogs τ action fun a _ => ψ a)
    {s s' : RegisterRun τ} {a : α} (hrun : action.exec s = (.ok a, s')) : ψ a := by
  have hbare := exec_bare action s.logged
  have hlogged : (action.exec s.logged).1 = .ok a := (congrArg Prod.fst hbare).symm.trans (congrArg Prod.fst hrun)
  obtain ⟨transfers, -, hψ⟩ := h s.logged a (action.exec s.logged).2 (Prod.ext hlogged rfl)
  exact hψ

/-! ### What a run leaves behind -/

/-- a step, and what follows it; the step may fail only if `safe` -/
def RegisterAction.mayFail (safe : Bool) (step : RegisterAction α) (next : α → RegisterAction Unit) :
    RegisterAction Unit := do
  match ← step.attempt with
  | .ok a => next a
  | .error error => if safe then return () else .fail error

/-- the transfers that the action leaves are in `P` iff the steps `due` all go through -/
def Due (τ : Type) [Rtl8812auUsbTransport τ] (P : List RegisterTransfer → Prop) (action : RegisterAction α)
    (due : RegisterAction Unit) : Prop :=
  ∀ s : RegisterRun (Logged τ), ∃ transfers, runLog (action.exec s).2 = runLog s ++ transfers ∧
    (P transfers ↔ ∃ s', due.exec s.bare = (.ok (), s'))

namespace Due

variable {P P' : List RegisterTransfer → Prop} {action : RegisterAction α} {due : RegisterAction Unit}

/-- only what the action leaves counts, not what it returns -/
theorem congr {action' : RegisterAction β} (h : Due τ P action' due)
    (heq : ∀ s : RegisterRun (Logged τ), (action.exec s).2 = (action'.exec s).2) : Due τ P action due := by
  intro s
  rw [heq]
  exact h s

theorem always (h : LeavesLog τ action fun _ => P) : Due τ P action (Pure.pure ()) := by
  intro s
  obtain ⟨transfers, hlog, hP⟩ := h s
  exact ⟨transfers, hlog, iff_of_true hP ⟨s.bare, rfl⟩⟩

theorem never (h : LeavesLog τ action fun _ transfers => ¬P transfers) (error : RuntimeRadioError) :
    Due τ P action (.fail error) := by
  intro s
  obtain ⟨transfers, hlog, hP⟩ := h s
  refine ⟨transfers, hlog, iff_of_false hP ?_⟩
  rintro ⟨s', h⟩
  cases (Prod.ext_iff.1 h).1

/-- a first step: if it fails, its transfers are in `P` iff it may fail; behind it, `P'` is what counts -/
theorem bind {safe : Bool} {step : RegisterAction β} {f : β → RegisterAction α} {g : β → RegisterAction Unit}
    (hstep : LeavesLog τ step fun outcome transfers =>
      (∀ error, outcome = .error error → (P transfers ↔ safe = true)) ∧
        ∀ b, outcome = .ok b → ∀ later, P (transfers ++ later) ↔ P' later)
    (hf : ∀ b, Due τ P' (f b) (g b)) : Due τ P (step >>= f) (step.mayFail safe g) := by
  intro s
  obtain ⟨earlier, hearlier, hfailed, hdone⟩ := hstep s
  have hbare : step.attempt.exec s.bare = (.ok (step.exec s).1, (step.exec s).2.bare) := by
    rw [RegisterAction.exec_attempt_run, exec_bare]
  rw [RegisterAction.exec_bind, RegisterAction.mayFail, RegisterAction.exec_bind, Action.bind_of_ok hbare]
  rcases hrun : step.exec s with ⟨error | b, s₁⟩
  · rw [hrun] at hearlier hfailed
    rw [Action.bind_of_error hrun]
    refine ⟨earlier, hearlier, (hfailed error rfl).trans ?_⟩
    cases safe with
    | true => exact iff_of_true rfl ⟨_, rfl⟩
    | false =>
      refine iff_of_false Bool.false_ne_true ?_
      rintro ⟨s', h⟩
      cases (Prod.ext_iff.1 h).1
  · rw [hrun] at hearlier hdone
    rw [Action.bind_of_ok hrun]
    obtain ⟨later, hlater, hiff⟩ := hf b s₁
    refine ⟨earlier ++ later, ?_, (hdone b rfl later).trans hiff⟩
    rw [hlater, ← List.append_assoc]
    exact congrArg (· ++ later) hearlier

end Due

/-! ### Answers -/

/-- the action returns what the transport answers, and fails if the transport does not answer in full -/
def Follows (action : RegisterAction α) (answers : Answered τ α) : Prop :=
  ∀ s : RegisterRun (Logged τ),
    (∀ a inner, answers s.transport.inner = some (a, inner) →
      ∃ s', action.exec s = (.ok a, s') ∧ s'.transport.inner = inner) ∧
    (answers s.transport.inner = none → ∃ error s', action.exec s = (.error error, s'))

namespace Follows

theorem pure (a : α) : Follows (Pure.pure a) (Pure.pure a : Answered τ α) := by
  intro s
  refine ⟨fun b inner h => ?_, fun h => nomatch h⟩
  obtain ⟨rfl, rfl⟩ := Prod.ext_iff.1 (Option.some.inj h)
  exact ⟨s, rfl, rfl⟩

theorem bind {action : RegisterAction α} {f : α → RegisterAction β} {answers : Answered τ α}
    {g : α → Answered τ β} (h : Follows action answers) (hf : ∀ a, Follows (f a) (g a)) :
    Follows (action >>= f) (answers >>= g) := by
  intro s
  obtain ⟨hok, herror⟩ := h s
  rw [RegisterAction.exec_bind]
  rcases hanswers : answers s.transport.inner with _ | ⟨a, inner⟩
  · have hnone : (answers >>= g) s.transport.inner = none := by
      change (answers s.transport.inner).bind _ = none
      rw [hanswers, Option.bind_none]
    obtain ⟨error, s', hrun⟩ := herror hanswers
    refine ⟨fun b inner hb => ?_, fun _ => ⟨error, s', Action.bind_of_error hrun⟩⟩
    rw [hnone] at hb
    cases hb
  · have hsome : (answers >>= g) s.transport.inner = g a inner := by
      change (answers s.transport.inner).bind _ = _
      rw [hanswers]
      rfl
    obtain ⟨s', hrun, rfl⟩ := hok a inner hanswers
    rw [hsome, Action.bind_of_ok hrun]
    exact hf a s'

theorem readWithCustomError {read : RegisterProgram (Except Rtl8812auRegisterError α)} {answers : Answered τ α}
    {error : Rtl8812auRegisterError → RuntimeRadioError}
    (h : ∀ transport : Logged τ,
      (∀ a inner, answers transport.inner = some (a, inner) →
        ∃ transport', read.run transport = (.ok a, transport') ∧ transport'.inner = inner) ∧
      (answers transport.inner = none → ∃ e transport', read.run transport = (.error e, transport'))) :
    Follows (Runtime.readWithCustomError read error) answers := by
  intro s
  obtain ⟨hok, herror⟩ := h s.transport
  rw [RegisterAction.exec_readWithCustomError]
  refine ⟨fun a inner ha => ?_, fun hnone => ?_⟩
  · obtain ⟨transport', hrun, hinner⟩ := hok a inner ha
    rw [hrun]
    exact ⟨_, rfl, hinner⟩
  · obtain ⟨e, transport', hrun⟩ := herror hnone
    rw [hrun]
    exact ⟨_, _, rfl⟩

theorem writeWithCustomError {address : UInt16} {data : List UInt8} {width : RegisterWidth}
    (hwidth : width.expectedLen = data.length) (registers : Rtl8812auRegisterAccess)
    (error : Rtl8812auRegisterError → RuntimeRadioError) :
    Follows (Runtime.writeWithCustomError (registers.writeAll address width data) error)
      (answeredWrite registers.timeout address data : Answered τ Unit) := by
  intro s
  obtain ⟨outcome, inner, result, hrun, h⟩ := registers.writeAll_logged address width data hwidth s.transport
  rw [RegisterAction.exec_writeWithCustomError, hrun]
  rcases h with ⟨hanswered, rfl, -⟩ | ⟨hanswered, ⟨e, rfl⟩, -⟩
  · refine ⟨fun a inner' ha => ?_, fun hnone => ?_⟩
    · rw [hanswered] at ha
      obtain ⟨-, rfl⟩ := Prod.ext_iff.1 (Option.some.inj ha)
      exact ⟨_, rfl, rfl⟩
    · rw [hanswered] at hnone
      cases hnone
  · refine ⟨fun a inner' ha => ?_, fun _ => ⟨_, _, rfl⟩⟩
    rw [hanswered] at ha
    cases ha

theorem read16 (registers : Rtl8812auRegisterAccess) (address : UInt16)
    (error : Rtl8812auRegisterError → RuntimeRadioError) :
    Follows (read16WithCustomError registers address error)
      (answeredRead16 registers.timeout address : Answered τ UInt16) := by
  apply readWithCustomError
  intro transport
  obtain ⟨outcome, inner, bytes, result, hrun, h⟩ :=
    registers.readExact_logged (n := 2) address .u16 rfl (.zeroed 2 (by decide)) transport
  have hread : (registers.read16 address).run transport =
      (outcome.map fun buf => UInt16.ofNat (fromLeBytes buf.bytes),
        { inner, log := transport.log ++ [.read address bytes result] }) := by
    rw [Rtl8812auRegisterAccess.read16, RegisterProgram.run_bind, hrun, RegisterProgram.run_pure]
  rw [hread]
  rcases h with ⟨data, hanswered, rfl, -, -⟩ | ⟨hanswered, e, rfl⟩
  · have hsome : answeredRead16 registers.timeout address transport.inner =
        some (UInt16.ofNat (fromLeBytes data.bytes), inner) := by
      change (answeredRead _ _ _ transport.inner).bind _ = _
      rw [hanswered]
      rfl
    refine ⟨fun a inner' ha => ?_, fun hnone => ?_⟩
    · rw [hsome] at ha
      obtain ⟨rfl, rfl⟩ := Prod.ext_iff.1 (Option.some.inj ha)
      exact ⟨_, rfl, rfl⟩
    · rw [hsome] at hnone
      cases hnone
  · have hnone : answeredRead16 registers.timeout address transport.inner = none := by
      change (answeredRead _ _ _ transport.inner).bind _ = _
      rw [hanswered]
      rfl
    refine ⟨fun a inner' ha => ?_, fun _ => ⟨_, _, rfl⟩⟩
    rw [hnone] at ha
    cases ha

end Follows

end Logs

end WfbLink.Runtime
