/-
Register transports that keep a log.

A `Logged` transport behaves like the transport it wraps, and keeps every control transfer together with what the
transport answered. A statement about the transfers a function makes, and about which of them succeeded, is a statement
about that function on a logged transport.

- `answeredRead`, `answeredWrite`: a transfer that the transport answers in full, from the side of the transport.
- `readExact_logged`, `writeAll_logged`: on a logged transport, one access is one transfer, which succeeds iff it is
  answered in full.
-/
import WfbLink.Core.Trace
import WfbLink.RadioCore.Register

namespace WfbLink.RadioCore

open WfbLink.Core

/-- a control transfer and its answer; `data` is the buffer after the read -/
inductive RegisterTransfer where
  | read (address : UInt16) (data : List UInt8) (result : Except UsbError ℕ)
  | write (address : UInt16) (data : List UInt8) (result : Except UsbError ℕ)

namespace RegisterTransfer

/-- the transfer was answered in full -/
def Answered : RegisterTransfer → Prop
  | .read _ data result => result = .ok data.length
  | .write _ data result => result = .ok data.length

/-- what the transfer wrote to the register at `address` -/
def written (address : UInt16) : RegisterTransfer → Option (List UInt8)
  | .read _ _ _ => none
  | .write address' data result =>
    if address' = address then
      match result with
      | .ok actual => if actual = data.length then some data else none
      | .error _ => none
    else none

/-- the transfer is no write to the register at `address` -/
def Spares (address : UInt16) : RegisterTransfer → Prop
  | .read _ _ _ => True
  | .write address' _ _ => address' ≠ address

end RegisterTransfer

/-- what was last written to the register at `address` -/
def lastWritten (address : UInt16) (log : List RegisterTransfer) : Option (List UInt8) :=
  (log.filterMap (RegisterTransfer.written address)).getLast?

structure Logged (τ : Type) where
  inner : τ
  log : List RegisterTransfer

variable {τ α : Type} [Rtl8812auUsbTransport τ]

instance : Rtl8812auUsbTransport (Logged τ) where
  readVendor transport value index data timeout :=
    let (result, data, inner) := readVendor transport.inner value index data timeout
    (result, data, { inner, log := transport.log ++ [.read value data.bytes result] })
  writeVendor transport value index data timeout :=
    let (result, inner) := writeVendor transport.inner value index data timeout
    (result, { inner, log := transport.log ++ [.write value data result] })

/-- a logged transport answers what the transport answers -/
theorem RegisterProgram.run_logged (program : RegisterProgram α) (transport : Logged τ) :
    (program.run transport).1 = (program.run transport.inner).1 ∧
      (program.run transport).2.inner = (program.run transport.inner).2 := by
  induction program generalizing transport with
  | done a => exact ⟨rfl, rfl⟩
  | readVendor value index data timeout next ih => exact ih _ _ _
  | writeVendor value index data timeout next ih => exact ih _ _

/-- whatever a program does, it only appends to the log -/
theorem RegisterProgram.run_extends (program : RegisterProgram α) (transport : Logged τ) :
    Extends (fun _ => True) transport.log (program.run transport).2.log := by
  induction program generalizing transport with
  | done a => exact .refl _
  | readVendor value index data timeout next ih => exact (Extends.single _ True.intro).trans (ih _ _ _)
  | writeVendor value index data timeout next ih => exact (Extends.single _ True.intro).trans (ih _ _)

/-! ## Answers -/

/-- transfers that the transport answers, one after the other, each in full -/
abbrev Answered (τ α : Type) : Type := StateT τ Option α

/-- a read that the transport answers in full -/
def answeredRead {n : ℕ} (timeout : ℕ) (address : UInt16) (data : ByteBuf n) : Answered τ (ByteBuf n) := fun transport =>
  match readVendor transport address rtlUsbIndex data timeout with
  | (.ok actual, data, transport) => if actual = n then some (data, transport) else none
  | (.error _, _, _) => none

/-- a write that the transport answers in full -/
def answeredWrite (timeout : ℕ) (address : UInt16) (data : List UInt8) : Answered τ Unit := fun transport =>
  match writeVendor transport address rtlUsbIndex data timeout with
  | (.ok actual, transport) => if actual = data.length then some ((), transport) else none
  | (.error _, _) => none

theorem word_le_isizeMax : 2 ≤ isizeMax := by decide

def answeredRead16 (timeout : ℕ) (address : UInt16) : Answered τ UInt16 := do
  let data ← answeredRead timeout address (.zeroed 2 word_le_isizeMax)
  return UInt16.ofNat (fromLeBytes data.bytes)

namespace Rtl8812auRegisterAccess

variable (registers : Rtl8812auRegisterAccess)

/-- **One read.** It is one transfer, and returns its buffer iff the transport answers in full. -/
theorem readExact_logged {n : ℕ} (address : UInt16) (width : RegisterWidth) (hn : width.expectedLen = n)
    (data : ByteBuf n) (transport : Logged τ) :
    ∃ outcome inner bytes result, (registers.readExact address width data).run transport =
        (outcome, { inner, log := transport.log ++ [.read address bytes result] }) ∧
      ((∃ data', answeredRead registers.timeout address data transport.inner = some (data', inner) ∧
          outcome = .ok data' ∧ bytes = data'.bytes ∧ result = .ok n) ∨
        (answeredRead registers.timeout address data transport.inner = none ∧ ∃ error, outcome = .error error)) := by
  rcases hread : readVendor transport.inner address rtlUsbIndex data registers.timeout with
    ⟨error | actual, data', inner⟩
  · have hnone : answeredRead registers.timeout address data transport.inner = none := by
      rw [answeredRead, hread]
    refine ⟨.error (.usb error), inner, data'.bytes, .error error, ?_, .inr ⟨hnone, _, rfl⟩⟩
    simp only [readExact, RegisterProgram.run, readVendor, hread]
  · by_cases hactual : actual = n
    · have hsome : answeredRead registers.timeout address data transport.inner = some (data', inner) := by
        rw [answeredRead, hread]
        exact if_pos hactual
      refine ⟨.ok data', inner, data'.bytes, .ok actual, ?_, .inl ⟨data', hsome, rfl, rfl, by rw [hactual]⟩⟩
      simp only [readExact, RegisterProgram.run, readVendor, hread, hn, hactual, ne_eq, not_true_eq_false, if_false]
    · have hnone : answeredRead registers.timeout address data transport.inner = none := by
        rw [answeredRead, hread]
        exact if_neg hactual
      refine ⟨.error (.shortRead address width n actual), inner, data'.bytes, .ok actual, ?_, .inr ⟨hnone, _, rfl⟩⟩
      simp only [readExact, RegisterProgram.run, readVendor, hread, hn, hactual, ne_eq, not_false_eq_true, if_true]

/-- **One write.** It is one transfer, and succeeds iff the transport answers in full. -/
theorem writeAll_logged (address : UInt16) (width : RegisterWidth) (data : List UInt8)
    (hwidth : width.expectedLen = data.length) (transport : Logged τ) :
    ∃ outcome inner result, (registers.writeAll address width data).run transport =
        (outcome, { inner, log := transport.log ++ [.write address data result] }) ∧
      ((answeredWrite registers.timeout address data transport.inner = some ((), inner) ∧ outcome = .ok () ∧
          result = .ok data.length) ∨
        (answeredWrite registers.timeout address data transport.inner = none ∧ (∃ error, outcome = .error error) ∧
          result ≠ .ok data.length)) := by
  rcases hwrite : writeVendor transport.inner address rtlUsbIndex data registers.timeout with ⟨error | actual, inner⟩
  · have hnone : answeredWrite registers.timeout address data transport.inner = none := by
      rw [answeredWrite, hwrite]
    refine ⟨.error (.usb error), inner, .error error, ?_, .inr ⟨hnone, ⟨_, rfl⟩, nofun⟩⟩
    simp only [writeAll, RegisterProgram.run, writeVendor, hwrite]
  · by_cases hactual : actual = data.length
    · have hsome : answeredWrite registers.timeout address data transport.inner = some ((), inner) := by
        rw [answeredWrite, hwrite]
        exact if_pos hactual
      refine ⟨.ok (), inner, .ok actual, ?_, .inl ⟨hsome, rfl, by rw [hactual]⟩⟩
      simp only [writeAll, RegisterProgram.run, writeVendor, hwrite, hwidth, hactual, ne_eq, not_true_eq_false,
        if_false]
    · have hnone : answeredWrite registers.timeout address data transport.inner = none := by
        rw [answeredWrite, hwrite]
        exact if_neg hactual
      refine ⟨.error (.shortWrite address width data.length actual), inner, .ok actual, ?_,
        .inr ⟨hnone, ⟨_, rfl⟩, fun h => hactual (Except.ok.inj h)⟩⟩
      simp only [writeAll, RegisterProgram.run, writeVendor, hwrite, hwidth, hactual, ne_eq, not_false_eq_true,
        if_true]

/-- a read succeeds iff its transfer was answered in full -/
theorem readExact_answered {n : ℕ} (address : UInt16) (width : RegisterWidth) (hn : width.expectedLen = n)
    (data : ByteBuf n) (transport : Logged τ) :
    ∃ outcome inner bytes result, (registers.readExact address width data).run transport =
        (outcome, { inner, log := transport.log ++ [.read address bytes result] }) ∧
      (∀ data', outcome = .ok data' → data'.bytes = bytes) ∧
      (outcome.isOk = true ↔ RegisterTransfer.Answered (.read address bytes result)) := by
  rcases hread : readVendor transport.inner address rtlUsbIndex data registers.timeout with
    ⟨error | actual, data', inner⟩
  · refine ⟨.error (.usb error), inner, data'.bytes, .error error, ?_, nofun, iff_of_false Bool.false_ne_true nofun⟩
    simp only [readExact, RegisterProgram.run, readVendor, hread]
  · have hanswered : RegisterTransfer.Answered (.read address data'.bytes (.ok actual)) ↔ actual = n := by
      rw [RegisterTransfer.Answered, data'.length_eq]
      exact ⟨Except.ok.inj, congrArg Except.ok⟩
    by_cases hactual : actual = n
    · refine ⟨.ok data', inner, data'.bytes, .ok actual, ?_, ?_, iff_of_true rfl (hanswered.2 hactual)⟩
      rotate_left
      · rintro _ ⟨⟩
        rfl
      simp only [readExact, RegisterProgram.run, readVendor, hread, hn, hactual, ne_eq, not_true_eq_false, if_false]
    · refine ⟨.error (.shortRead address width n actual), inner, data'.bytes, .ok actual, ?_, nofun,
        iff_of_false Bool.false_ne_true fun h => hactual (hanswered.1 h)⟩
      simp only [readExact, RegisterProgram.run, readVendor, hread, hn, hactual, ne_eq, not_false_eq_true, if_true]

/-! ### What an access leaves -/

variable {allowed : RegisterTransfer → Prop}

theorem readExact_extends {n : ℕ} {address : UInt16} (width : RegisterWidth) (data : ByteBuf n)
    (h : ∀ data result, allowed (.read address data result)) (transport : Logged τ) :
    Extends allowed transport.log ((registers.readExact address width data).run transport).2.log := by
  rcases hread : readVendor transport.inner address rtlUsbIndex data registers.timeout with
    ⟨error | actual, data', inner⟩
  · simp only [readExact, RegisterProgram.run, readVendor, hread]
    exact .single transport.log (h _ _)
  · simp only [readExact, RegisterProgram.run, readVendor, hread]
    split
    · exact .single transport.log (h _ _)
    · exact .single transport.log (h _ _)

theorem read8_extends {address : UInt16} (h : ∀ data result, allowed (.read address data result))
    (transport : Logged τ) : Extends allowed transport.log ((registers.read8 address).run transport).2.log := by
  rw [read8, RegisterProgram.run_bind]
  exact registers.readExact_extends .u8 _ h transport

theorem read16_extends {address : UInt16} (h : ∀ data result, allowed (.read address data result))
    (transport : Logged τ) : Extends allowed transport.log ((registers.read16 address).run transport).2.log := by
  rw [read16, RegisterProgram.run_bind]
  exact registers.readExact_extends .u16 _ h transport

theorem read32_extends {address : UInt16} (h : ∀ data result, allowed (.read address data result))
    (transport : Logged τ) : Extends allowed transport.log ((registers.read32 address).run transport).2.log := by
  rw [read32, RegisterProgram.run_bind]
  exact registers.readExact_extends .u32 _ h transport

theorem writeAll_extends {address : UInt16} {data : List UInt8} (width : RegisterWidth)
    (h : ∀ result, allowed (.write address data result)) (transport : Logged τ) :
    Extends allowed transport.log ((registers.writeAll address width data).run transport).2.log := by
  rcases hwrite : writeVendor transport.inner address rtlUsbIndex data registers.timeout with ⟨error | actual, inner⟩
  · simp only [writeAll, RegisterProgram.run, writeVendor, hwrite]
    exact .single transport.log (h _)
  · simp only [writeAll, RegisterProgram.run, writeVendor, hwrite]
    split
    · exact .single transport.log (h _)
    · exact .single transport.log (h _)

end Rtl8812auRegisterAccess

end WfbLink.RadioCore
