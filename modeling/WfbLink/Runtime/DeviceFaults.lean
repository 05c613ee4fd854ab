/-
Running register actions on a device whose transfers may fail.

- `Handles P action Q E`: from every device in `P`, the action returns a value and leaves the device in `Q`, or fails and
  leaves it in `E`; one rule for each way to build a register action.
- `Ahead k i P`: one transfer fails, number `k`, and number `i` is the next one.
- `Acts faults P action Q E`: the same for the registers alone; unless there are `faults`, no transfer fails.
-/
import WfbLink.RadioCore.RegisterDevice
import WfbLink.Runtime.RegisterRun

namespace WfbLink.Runtime

open WfbLink.Core WfbLink.RadioCore

variable {φ α β : Type} [RegisterFile φ]

/-! ## Devices -/

def Handles (P : FaultyDevice φ → Prop) (action : RegisterAction α) (Q : α → FaultyDevice φ → Prop)
    (E : FaultyDevice φ → Prop) : Prop :=
  Triple (fun s : RegisterRun (FaultyDevice φ) => P s.transport) action.exec (fun a s => Q a s.transport)
    fun _ s => E s.transport

namespace Handles

variable {P P' : FaultyDevice φ → Prop} {Q Q' : α → FaultyDevice φ → Prop} {R : β → FaultyDevice φ → Prop}
  {E E' : FaultyDevice φ → Prop} {action : RegisterAction α} {f : α → RegisterAction β}

theorem pure {a : α} (h : ∀ device, P device → Q a device) : Handles P (Pure.pure a) Q E := by
  rw [Handles, RegisterAction.exec_pure]
  exact Triple.pure fun s hs => h _ hs

theorem fail (error : RuntimeRadioError) (h : ∀ device, P device → E device) :
    Handles P (RegisterAction.fail error) Q E := by
  rw [Handles, RegisterAction.exec_fail]
  exact Triple.fail fun s hs => h _ hs

theorem bind (h : Handles P action Q E) (hf : ∀ a, Handles (Q a) (f a) R E) : Handles P (action >>= f) R E := by
  rw [Handles, RegisterAction.exec_bind]
  exact Triple.bind h hf

theorem weaken (h : Handles P action Q E) (hpre : ∀ device, P' device → P device)
    (hpost : ∀ a device, Q a device → Q' a device) (herror : ∀ device, E device → E' device) :
    Handles P' action Q' E' :=
  Triple.weaken h (fun _ hs => hpre _ hs) (fun _ _ hs => hpost _ _ hs) fun _ _ hs => herror _ hs

theorem counters : Handles P RegisterAction.counters (fun _ => P) E := by
  rw [Handles, RegisterAction.exec_counters]
  exact Triple.read fun _ hs => hs

theorem modifyCounters (g : RuntimeRadioCounters → RuntimeRadioCounters) :
    Handles P (RegisterAction.modifyCounters g) (fun _ => P) E := by
  rw [Handles, RegisterAction.exec_modifyCounters]
  exact Triple.modify fun _ hs => hs

theorem ofExcept {r : Except RuntimeRadioError α} (hok : ∀ a, r = .ok a → ∀ device, P device → Q a device)
    (herror : ∀ e, r = .error e → ∀ device, P device → E device) : Handles P (RegisterAction.ofExcept r) Q E := by
  rw [Handles, RegisterAction.exec_ofExcept]
  exact Triple.ofExcept (fun a ha s hs => hok a ha _ hs) fun e he s hs => herror e he _ hs

theorem attempt {Q : Except RuntimeRadioError α → FaultyDevice φ → Prop}
    (h : Handles P action (fun a => Q (.ok a)) E') (herror : ∀ error device, E' device → Q (.error error) device) :
    Handles P action.attempt Q E := by
  rw [Handles, RegisterAction.exec_attempt]
  exact Triple.attempt (Triple.weaken h (fun _ hs => hs) (fun _ _ hs => hs) fun error s hs => herror error _ hs)

theorem mapError (h : Handles P action Q E) (g : RuntimeRadioError → RuntimeRadioError) :
    Handles P (action.mapError g) Q E := by
  intro s hs
  have hact := h s hs
  rw [RegisterAction.exec_mapError]
  rcases hrun : action.exec s with ⟨error | a, s'⟩
  · rw [hrun] at hact
    exact hact
  · rw [hrun] at hact
    exact hact

theorem readWithCustomError {read : RegisterProgram (Except Rtl8812auRegisterError α)} {g : φ → α × φ}
    (hread : Loads read g) (error : Rtl8812auRegisterError → RuntimeRadioError)
    (hfail : ∀ device, P device → device.failing device.transfers ≠ none → E device.tick)
    (hdone : ∀ device, P device → device.failing device.transfers = none →
      Q (g device.file).1 (device.next (g device.file).2)) : Handles P (readWithCustomError read error) Q E := by
  intro s hs
  rw [RegisterAction.exec_readWithCustomError, hread]
  rcases hnow : s.transport.failing s.transport.transfers with _ | usbError
  · exact hdone _ hs hnow
  · exact hfail _ hs (by rw [hnow]; nofun)

theorem writeWithCustomError {write : RegisterProgram (Except Rtl8812auRegisterError Unit)} {g : φ → φ}
    {Q : Unit → FaultyDevice φ → Prop} (hwrite : Stores write g)
    (error : Rtl8812auRegisterError → RuntimeRadioError)
    (hfail : ∀ device, P device → device.failing device.transfers ≠ none → E device.tick)
    (hdone : ∀ device, P device → device.failing device.transfers = none → Q () (device.next (g device.file))) :
    Handles P (writeWithCustomError write error) Q E := by
  intro s hs
  rw [RegisterAction.exec_writeWithCustomError, hwrite]
  rcases hnow : s.transport.failing s.transport.transfers with _ | usbError
  · exact hdone _ hs hnow
  · exact hfail _ hs (by rw [hnow]; nofun)

end Handles

/-! ## One failure -/

/-- transfer number `k` is the only one that fails, and number `i`, the next one, is not behind it -/
def Ahead (k i : ℕ) (P : φ → Prop) (device : FaultyDevice φ) : Prop :=
  (∀ n, device.failing n ≠ none ↔ n = k) ∧ device.transfers = i ∧ i ≤ k ∧ P device.file

/-- no transfer fails from now on -/
def Behind (P : φ → Prop) (device : FaultyDevice φ) : Prop := device.Reliable ∧ P device.file

namespace Ahead

variable {k i : ℕ} {P : φ → Prop}

omit [RegisterFile φ] in
/-- the failure is met -/
theorem tick {device : FaultyDevice φ} (h : Ahead k i P device) (hnow : device.failing device.transfers ≠ none) :
    k = i ∧ Behind P device.tick := by
  obtain ⟨hfailing, htransfers, -, hP⟩ := h
  obtain rfl : device.transfers = k := (hfailing _).1 hnow
  refine ⟨htransfers, fun n hn => ?_, hP⟩
  by_contra hne
  exact absurd ((hfailing n).1 hne) (Nat.ne_of_gt hn)

omit [RegisterFile φ] in
theorem next {Q : φ → Prop} {device : FaultyDevice φ} (h : Ahead k i P device)
    (hnow : device.failing device.transfers = none) {file : φ} (hQ : Q file) :
    Ahead k (i + 1) Q (device.next file) := by
  obtain ⟨hfailing, rfl, hle, -⟩ := h
  refine ⟨hfailing, rfl, Nat.lt_of_le_of_ne hle fun heq => ?_, hQ⟩
  exact (hfailing _).2 heq hnow

theorem readWithCustomError {Q : α → φ → Prop} {read : RegisterProgram (Except Rtl8812auRegisterError α)}
    {g : φ → α × φ} (hread : Loads read g) (error : Rtl8812auRegisterError → RuntimeRadioError)
    (h : ∀ file, P file → Q (g file).1 (g file).2) :
    Handles (Ahead k i P) (readWithCustomError read error) (fun a => Ahead k (i + 1) (Q a))
      fun device => k = i ∧ Behind P device :=
  Handles.readWithCustomError hread error (fun _ hd hnow => hd.tick hnow) fun _ hd hnow => hd.next hnow (h _ hd.2.2.2)

theorem writeWithCustomError {Q : φ → Prop} {write : RegisterProgram (Except Rtl8812auRegisterError Unit)}
    {g : φ → φ} (hwrite : Stores write g) (error : Rtl8812auRegisterError → RuntimeRadioError)
    (h : ∀ file, P file → Q (g file)) :
    Handles (Ahead k i P) (writeWithCustomError write error) (fun _ => Ahead k (i + 1) Q)
      fun device => k = i ∧ Behind P device :=
  Handles.writeWithCustomError hwrite error (fun _ hd hnow => hd.tick hnow) fun _ hd hnow => hd.next hnow (h _ hd.2.2.2)

end Ahead

theorem Behind.writeWithCustomError {P Q : φ → Prop} {E : FaultyDevice φ → Prop}
    {write : RegisterProgram (Except Rtl8812auRegisterError Unit)} {g : φ → φ} (hwrite : Stores write g)
    (error : Rtl8812auRegisterError → RuntimeRadioError) (h : ∀ file, P file → Q (g file)) :
    Handles (Behind P) (writeWithCustomError write error) (fun _ => Behind Q) E :=
  Handles.writeWithCustomError hwrite error (fun _ hd hnow => absurd hd.1.now hnow) fun _ hd _ =>
    ⟨hd.1.next _, h _ hd.2⟩

/-! ## Registers -/

/-- unless there are faults, no transfer fails from now on -/
def Sound (faults : Prop) (P : φ → Prop) (device : FaultyDevice φ) : Prop :=
  (faults ∨ device.Reliable) ∧ P device.file

/-- what holds behind an action, by what it returned -/
def OutcomeIn (Q : α → φ → Prop) (E : φ → Prop) : Except RuntimeRadioError α → φ → Prop
  | .ok a => Q a
  | .error _ => E

def Acts (faults : Prop) (P : φ → Prop) (action : RegisterAction α) (Q : α → φ → Prop) (E : φ → Prop) : Prop :=
  Handles (Sound faults P) action (fun a => Sound faults (Q a)) (Sound faults E)

namespace Acts

variable {faults : Prop} {P P' : φ → Prop} {Q Q' : α → φ → Prop} {R : β → φ → Prop} {E E' : φ → Prop}
  {action : RegisterAction α} {f : α → RegisterAction β}

theorem pure {a : α} (h : ∀ file, P file → Q a file) : Acts faults P (Pure.pure a) Q E :=
  Handles.pure fun _ hd => ⟨hd.1, h _ hd.2⟩

theorem fail (error : RuntimeRadioError) (h : ∀ file, P file → E file) :
    Acts faults P (RegisterAction.fail error) Q E :=
  Handles.fail error fun _ hd => ⟨hd.1, h _ hd.2⟩

theorem bind (h : Acts faults P action Q E) (hf : ∀ a, Acts faults (Q a) (f a) R E) :
    Acts faults P (action >>= f) R E :=
  Handles.bind h hf

theorem weaken (h : Acts faults P action Q E) (hpre : ∀ file, P' file → P file)
    (hpost : ∀ a file, Q a file → Q' a file) (herror : ∀ file, E file → E' file) : Acts faults P' action Q' E' :=
  Handles.weaken h (fun _ hd => ⟨hd.1, hpre _ hd.2⟩) (fun _ _ hd => ⟨hd.1, hpost _ _ hd.2⟩)
    fun _ hd => ⟨hd.1, herror _ hd.2⟩

theorem counters : Acts faults P RegisterAction.counters (fun _ => P) E := Handles.counters

theorem ofExcept {r : Except RuntimeRadioError α} (hok : ∀ a, r = .ok a → ∀ file, P file → Q a file)
    (herror : ∀ e, r = .error e → ∀ file, P file → E file) : Acts faults P (RegisterAction.ofExcept r) Q E :=
  Handles.ofExcept (fun a ha _ hd => ⟨hd.1, hok a ha _ hd.2⟩) fun e he _ hd => ⟨hd.1, herror e he _ hd.2⟩

/-- a pure part of the precondition -/
theorem assume {ψ : Prop} (h : ψ → Acts faults P action Q E) : Acts faults (fun file => ψ ∧ P file) action Q E :=
  fun s hs => h hs.2.1 s ⟨hs.1, hs.2.2⟩

theorem attempt {Q : Except RuntimeRadioError α → φ → Prop} (h : Acts faults P action (fun a => Q (.ok a)) E')
    (herror : ∀ error file, E' file → Q (.error error) file) : Acts faults P action.attempt Q E :=
  Handles.attempt h fun error _ hd => ⟨hd.1, herror error _ hd.2⟩

/-- an error that is handed on is an outcome like any other -/
theorem attempted (h : Acts faults P action Q E) : Acts faults P action.attempt (OutcomeIn Q E) E' :=
  h.attempt fun _ _ herror => herror

theorem mapError (h : Acts faults P action Q E) (g : RuntimeRadioError → RuntimeRadioError) :
    Acts faults P (action.mapError g) Q E := Handles.mapError h g

theorem and (h : Acts faults P action Q E) (h' : Acts faults P' action Q' E') :
    Acts faults (fun file => P file ∧ P' file) action (fun a file => Q a file ∧ Q' a file) fun file => E file ∧ E' file := by
  rintro s ⟨hsound, hP, hP'⟩
  have hact := h s ⟨hsound, hP⟩
  have hact' := h' s ⟨hsound, hP'⟩
  rcases hrun : action.exec s with ⟨error | a, s'⟩
  · rw [hrun] at hact hact'
    exact ⟨hact.1, hact.2, hact'.2⟩
  · rw [hrun] at hact hact'
    exact ⟨hact.1, hact.2, hact'.2⟩

theorem readWithCustomError {read : RegisterProgram (Except Rtl8812auRegisterError α)} {g : φ → α × φ}
    (hread : Loads read g) (error : Rtl8812auRegisterError → RuntimeRadioError)
    (hfail : faults → ∀ file, P file → E file) (hdone : ∀ file, P file → Q (g file).1 (g file).2) :
    Acts faults P (readWithCustomError read error) Q E := by
  apply Handles.readWithCustomError hread error
  · rintro device ⟨hsound, hP⟩ hnow
    rcases hsound with hfaults | hreliable
    · exact ⟨.inl hfaults, hfail hfaults _ hP⟩
    · exact absurd hreliable.now hnow
  · rintro device ⟨hsound, hP⟩ -
    exact ⟨hsound.imp_right fun h => h.next _, hdone _ hP⟩

theorem writeWithCustomError {write : RegisterProgram (Except Rtl8812auRegisterError Unit)} {g : φ → φ}
    {Q : Unit → φ → Prop} (hwrite : Stores write g) (error : Rtl8812auRegisterError → RuntimeRadioError)
    (hfail : faults → ∀ file, P file → E file) (hdone : ∀ file, P file → Q () (g file)) :
    Acts faults P (writeWithCustomError write error) Q E := by
  apply Handles.writeWithCustomError hwrite error
  · rintro device ⟨hsound, hP⟩ hnow
    rcases hsound with hfaults | hreliable
    · exact ⟨.inl hfaults, hfail hfaults _ hP⟩
    · exact absurd hreliable.now hnow
  · rintro device ⟨hsound, hP⟩ -
    exact ⟨hsound.imp_right fun h => h.next _, hdone _ hP⟩

/-- an action that cannot fail returns a value -/
theorem succeeds (h : Acts faults P action Q fun _ => False) {s : RegisterRun (FaultyDevice φ)}
    (hs : Sound faults P s.transport) : ∃ a s', action.exec s = (.ok a, s') ∧ Q a s'.transport.file := by
  have hact := h s hs
  rcases hrun : action.exec s with ⟨error | a, s'⟩
  · rw [hrun] at hact
    exact hact.2.elim
  · rw [hrun] at hact
    exact ⟨a, s', rfl, hact.2⟩

end Acts

/-! ## A run -/

/-- what is known of a run that is at hand -/
theorem Handles.of_run {P E : FaultyDevice φ → Prop} {Q : α → FaultyDevice φ → Prop} {action : RegisterAction α}
    (h : Handles P action Q E) {s s' : RegisterRun (FaultyDevice φ)} {outcome : Except RuntimeRadioError α}
    (hrun : action.exec s = (outcome, s')) (hs : P s.transport) :
    (∀ a, outcome = .ok a → Q a s'.transport) ∧ ∀ error, outcome = .error error → E s'.transport := by
  have hact := h s hs
  rw [hrun] at hact
  cases outcome with
  | ok a => exact ⟨fun _ heq => Except.ok.inj heq ▸ hact, nofun⟩
  | error error => exact ⟨nofun, fun _ _ => hact⟩

end WfbLink.Runtime
