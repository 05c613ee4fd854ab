/-
Register access (`radio-core/src/rtl8812au.rs`).

Code that is generic over the register transport can only read and write registers, whatever the transport is. A
`RegisterProgram` is such code: it ends with a value, or it makes one control transfer and goes on with the answer.

- `RegisterProgram.run_recorded`: on a recorded transport a program leaves register transfers and nothing else.
- `RegisterProgram.run_bind`: running a sequence is running its parts.
-/
import WfbLink.RadioCore.TxDescriptor

namespace WfbLink.RadioCore

open WfbLink.Core

def rtlUsbIndex : UInt16 := 0

class Rtl8812auUsbTransport (τ : Type) where
  readVendor {n : ℕ} (transport : τ) (value index : UInt16) (data : ByteBuf n) (timeout : ℕ) :
    Except UsbError ℕ × ByteBuf n × τ
  writeVendor (transport : τ) (value index : UInt16) (data : List UInt8) (timeout : ℕ) : Except UsbError ℕ × τ

export Rtl8812auUsbTransport (readVendor writeVendor)

instance {ε τ : Type} [UsbLog ε] [Rtl8812auUsbTransport τ] : Rtl8812auUsbTransport (Recorded ε τ) where
  readVendor transport value index data timeout :=
    let (result, data, inner) := readVendor transport.inner value index data timeout
    (result, data, transport.record (UsbLog.entry (.readVendor value index)) inner)
  writeVendor transport value index data timeout :=
    let (result, inner) := writeVendor transport.inner value index data timeout
    (result, transport.record (UsbLog.entry (.writeVendor value index data)) inner)

/-! ## Programs -/

/-- code that is generic over the register transport -/
inductive RegisterProgram (α : Type) where
  | done (a : α)
  | readVendor {n : ℕ} (value index : UInt16) (data : ByteBuf n) (timeout : ℕ)
      (next : Except UsbError ℕ → ByteBuf n → RegisterProgram α)
  | writeVendor (value index : UInt16) (data : List UInt8) (timeout : ℕ) (next : Except UsbError ℕ → RegisterProgram α)

namespace RegisterProgram

variable {α β : Type}

def andThen (f : α → RegisterProgram β) : RegisterProgram α → RegisterProgram β
  | .done a => f a
  | .readVendor value index data timeout next =>
    .readVendor value index data timeout fun result data => (next result data).andThen f
  | .writeVendor value index data timeout next =>
    .writeVendor value index data timeout fun result => (next result).andThen f

instance : Monad RegisterProgram where
  pure := done
  bind program f := program.andThen f

theorem bind_assoc (program : RegisterProgram α) (f : α → RegisterProgram β) {γ : Type}
    (g : β → RegisterProgram γ) : program >>= f >>= g = program >>= fun a => f a >>= g := by
  induction program with
  | done a => rfl
  | readVendor value index data timeout next ih =>
    exact congrArg (RegisterProgram.readVendor value index data timeout)
      (funext fun result => funext fun data => ih result data)
  | writeVendor value index data timeout next ih =>
    exact congrArg (RegisterProgram.writeVendor value index data timeout) (funext fun result => ih result)

variable {τ : Type} [Rtl8812auUsbTransport τ]

def run : RegisterProgram α → τ → α × τ
  | .done a, transport => (a, transport)
  | .readVendor value index data timeout next, transport =>
    let (result, data, transport) := RadioCore.readVendor transport value index data timeout
    (next result data).run transport
  | .writeVendor value index data timeout next, transport =>
    let (result, transport) := RadioCore.writeVendor transport value index data timeout
    (next result).run transport

@[simp] theorem run_pure (a : α) (transport : τ) : (pure a : RegisterProgram α).run transport = (a, transport) := rfl

theorem run_bind (program : RegisterProgram α) (f : α → RegisterProgram β) (transport : τ) :
    (program >>= f).run transport = (f (program.run transport).1).run (program.run transport).2 := by
  induction program generalizing transport with
  | done a => rfl
  | readVendor value index data timeout next ih => exact ih _ _ _
  | writeVendor value index data timeout next ih => exact ih _ _

end RegisterProgram

/-- a control transfer of the register transport -/
def UsbEvent.IsRegister : UsbEvent → Prop
  | .readVendor _ _ => True
  | .writeVendor _ _ _ => True
  | _ => False

/-- **Register programs access registers only**, whatever the transport answers. -/
theorem RegisterProgram.run_recorded {ε τ α : Type} [UsbLog ε] [Rtl8812auUsbTransport τ] (program : RegisterProgram α)
    (transport : Recorded ε τ) :
    ∃ transfers, (program.run transport).2.events = transport.events ++ transfers ∧
      ∀ e ∈ transfers, ∃ event : UsbEvent, event.IsRegister ∧ e = UsbLog.entry event := by
  induction program generalizing transport with
  | done a => exact ⟨[], (List.append_nil _).symm, nofun⟩
  | readVendor value index data timeout next ih =>
    obtain ⟨transfers, hevents, hregister⟩ := ih (RadioCore.readVendor transport value index data timeout).1
      (RadioCore.readVendor transport value index data timeout).2.1
      (RadioCore.readVendor transport value index data timeout).2.2
    refine ⟨UsbLog.entry (.readVendor value index) :: transfers, ?_, ?_⟩
    · refine hevents.trans ?_
      exact List.append_assoc _ _ _
    · intro e he
      rcases List.mem_cons.1 he with rfl | he
      · exact ⟨.readVendor value index, trivial, rfl⟩
      · exact hregister e he
  | writeVendor value index data timeout next ih =>
    obtain ⟨transfers, hevents, hregister⟩ := ih (RadioCore.writeVendor transport value index data timeout).1
      (RadioCore.writeVendor transport value index data timeout).2
    refine ⟨UsbLog.entry (.writeVendor value index data) :: transfers, ?_, ?_⟩
    · refine hevents.trans ?_
      exact List.append_assoc _ _ _
    · intro e he
      rcases List.mem_cons.1 he with rfl | he
      · exact ⟨.writeVendor value index data, trivial, rfl⟩
      · exact hregister e he

/-! ## Registers -/

inductive RegisterWidth where
  | u8
  | u16
  | u32
  | block (len : ℕ)
deriving DecidableEq, Repr

def RegisterWidth.expectedLen : RegisterWidth → ℕ
  | .u8 => 1
  | .u16 => 2
  | .u32 => 4
  | .block len => len

def RegisterWidth.debug : RegisterWidth → String
  | .u8 => "U8"
  | .u16 => "U16"
  | .u32 => "U32"
  | .block len => s!"Block({len})"

inductive Rtl8812auRegisterError where
  | usb (error : UsbError)
  | shortRead (addr : UInt16) (width : RegisterWidth) (expected actual : ℕ)
  | shortWrite (addr : UInt16) (width : RegisterWidth) (expected actual : ℕ)
deriving DecidableEq, Repr

def Rtl8812auRegisterError.message : Rtl8812auRegisterError → String
  | .usb error => error.message
  | .shortRead addr width expected actual =>
    s!"short register read addr=0x{hexText 4 addr.toNat} width={width.debug} expected={expected} actual={actual}"
  | .shortWrite addr width expected actual =>
    s!"short register write addr=0x{hexText 4 addr.toNat} width={width.debug} expected={expected} actual={actual}"

/-- the transport itself is what a program is run on -/
structure Rtl8812auRegisterAccess where
  timeout : ℕ := defaultTimeout

/-- `from_le_bytes` -/
def fromLeBytes (bytes : List UInt8) : ℕ := bytes.foldr (fun byte n => byte.toNat + 256 * n) 0

theorem fromLeBytes_four (b0 b1 b2 b3 : UInt8) : fromLeBytes [b0, b1, b2, b3] = leU32 b0 b1 b2 b3 := by
  change b0.toNat + 256 * (b1.toNat + 256 * (b2.toNat + 256 * (b3.toNat + 256 * 0))) = _
  rw [leU32]
  omega

theorem fromLeBytes_toLeU32 {n : ℕ} (h : n < 2 ^ 32) : fromLeBytes (toLeU32 n) = n := by
  rw [toLeU32, fromLeBytes_four, leU32_toLe h]

namespace Rtl8812auRegisterAccess

variable (registers : Rtl8812auRegisterAccess)

def readExact {n : ℕ} (addr : UInt16) (width : RegisterWidth) (data : ByteBuf n) :
    RegisterProgram (Except Rtl8812auRegisterError (ByteBuf n)) :=
  .readVendor addr rtlUsbIndex data registers.timeout fun result data =>
    match result with
    | .error error => .done (.error (.usb error))
    | .ok actual =>
      if actual ≠ width.expectedLen then .done (.error (.shortRead addr width width.expectedLen actual))
      else .done (.ok data)

def writeAll (addr : UInt16) (width : RegisterWidth) (data : List UInt8) :
    RegisterProgram (Except Rtl8812auRegisterError Unit) :=
  .writeVendor addr rtlUsbIndex data registers.timeout fun result =>
    match result with
    | .error error => .done (.error (.usb error))
    | .ok actual =>
      if actual ≠ width.expectedLen then .done (.error (.shortWrite addr width width.expectedLen actual))
      else .done (.ok ())

def read8 (addr : UInt16) : RegisterProgram (Except Rtl8812auRegisterError UInt8) := do
  let result ← registers.readExact addr .u8 (.zeroed 1 (by decide))
  return result.map fun buf => UInt8.ofNat (fromLeBytes buf.bytes)

def read16 (addr : UInt16) : RegisterProgram (Except Rtl8812auRegisterError UInt16) := do
  let result ← registers.readExact addr .u16 (.zeroed 2 (by decide))
  return result.map fun buf => UInt16.ofNat (fromLeBytes buf.bytes)

def read32 (addr : UInt16) : RegisterProgram (Except Rtl8812auRegisterError UInt32) := do
  let result ← registers.readExact addr .u32 (.zeroed 4 (by decide))
  return result.map fun buf => UInt32.ofNat (fromLeBytes buf.bytes)

def write8 (addr : UInt16) (value : UInt8) : RegisterProgram (Except Rtl8812auRegisterError Unit) :=
  registers.writeAll addr .u8 [value]

def write16 (addr value : UInt16) : RegisterProgram (Except Rtl8812auRegisterError Unit) :=
  registers.writeAll addr .u16 (toLeU16 value.toNat)

def write32 (addr : UInt16) (value : UInt32) : RegisterProgram (Except Rtl8812auRegisterError Unit) :=
  registers.writeAll addr .u32 (toLeU32 value.toNat)

def writeBlock (addr : UInt16) (data : List UInt8) : RegisterProgram (Except Rtl8812auRegisterError Unit) :=
  registers.writeAll addr (.block data.length) data

end Rtl8812auRegisterAccess

end WfbLink.RadioCore
