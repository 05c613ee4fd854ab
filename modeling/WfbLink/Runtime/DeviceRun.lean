/-
Running register actions on a device whose transfers do not fail.

- `Does P action Q`: from every register file in `P`, the action returns a value and leaves a file in `Q`; one rule for
  each way to build a register action.
-/
import WfbLink.RadioCore.RegisterDevice
import WfbLink.Runtime.RegisterRun

namespace WfbLink.Runtime

open WfbLink.Core WfbLink.RadioCore

variable {φ α β : Type} [RegisterFile φ]

/-- no transfer fails from now on, and the registers are in `P` -/
def OnFile (P : φ → Prop) (s : RegisterRun (FaultyDevice φ)) : Prop := s.transport.Reliable ∧ P s.transport.file

def Does (P : φ → Prop) (action : RegisterAction α) (Q : α → φ → Prop) : Prop :=
  Triple (OnFile P) action.exec (fun a => OnFile (Q a)) fun _ _ => False

namespace Does

variable {P P' : φ → Prop} {Q Q' : α → φ → Prop} {R : β → φ → Prop} {action : RegisterAction α}
  {f : α → RegisterAction β}

theorem pure {a : α} (h : ∀ file, P file → Q a file) : Does P (Pure.pure a) Q := by
  rw [Does, RegisterAction.exec_pure]
  exact Triple.pure fun s hs => ⟨hs.1, h _ hs.2⟩

theorem bind (h : Does P action Q) (hf : ∀ a, Does (Q a) (f a) R) : Does P (action >>= f) R := by
  rw [Does, RegisterAction.exec_bind]
  exact Triple.bind h hf

theorem weaken (h : Does P action Q) (hpre : ∀ file, P' file → P file) (hpost : ∀ a file, Q a file → Q' a file) :
    Does P' action Q' :=
  Triple.weaken h (fun _ hs => ⟨hs.1, hpre _ hs.2⟩) (fun _ _ hs => ⟨hs.1, hpost _ _ hs.2⟩) fun _ _ hs => hs

/-- a pure part of the precondition -/
theorem assume {ψ : Prop} (h : ψ → Does P action Q) : Does (fun file => ψ ∧ P file) action Q := by
  rintro s ⟨hreliable, hψ, hs⟩
  exact h hψ s ⟨hreliable, hs⟩

theorem modifyCounters (g : RuntimeRadioCounters → RuntimeRadioCounters) :
    Does P (RegisterAction.modifyCounters g) fun _ => P := by
  rw [Does, RegisterAction.exec_modifyCounters]
  exact Triple.modify fun _ hs => hs

theorem access {write : RegisterProgram (Except Rtl8812auRegisterError Unit)} {g : φ → φ} {Q : Unit → φ → Prop}
    (hwrite : Stores write g) (error : Rtl8812auRegisterError → RuntimeRadioError)
    (h : ∀ file, P file → Q () (g file)) : Does P (RegisterAction.access write error) Q := by
  intro s hs
  rw [RegisterAction.exec_access, hwrite, hs.1.now]
  exact ⟨hs.1.next _, h _ hs.2⟩

theorem readWithCustomError {read : RegisterProgram (Except Rtl8812auRegisterError α)} {g : φ → α × φ}
    (hread : Loads read g) (error : Rtl8812auRegisterError → RuntimeRadioError)
    (h : ∀ file, P file → Q (g file).1 (g file).2) : Does P (readWithCustomError read error) Q := by
  intro s hs
  rw [RegisterAction.exec_readWithCustomError, hread, hs.1.now]
  exact ⟨hs.1.next _, h _ hs.2⟩

theorem writeWithCustomError {write : RegisterProgram (Except Rtl8812auRegisterError Unit)} {g : φ → φ}
    {Q : Unit → φ → Prop} (hwrite : Stores write g) (error : Rtl8812auRegisterError → RuntimeRadioError)
    (h : ∀ file, P file → Q () (g file)) : Does P (writeWithCustomError write error) Q := by
  intro s hs
  rw [RegisterAction.exec_writeWithCustomError, hwrite, hs.1.now]
  exact ⟨hs.1.next _, h _ hs.2⟩

/-- the run itself, from a state -/
theorem returns (h : Does P action Q) {s : RegisterRun (FaultyDevice φ)} (hs : OnFile P s) :
    ∃ a s', action.exec s = (.ok a, s') ∧ OnFile (Q a) s' :=
  Triple.succeeds h hs

end Does

end WfbLink.Runtime
