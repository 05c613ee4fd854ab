/-
The USB transport the driver code is generic over (`radio-core/src/usb.rs`).

A transport is any state with bulk IN and bulk OUT operations; nothing is assumed about what they answer. A transport
can be wrapped in `Recorded`, which behaves like the transport it wraps and keeps the list of operations made on it:
a statement about the operations a function issues is a statement about that function on a recorded transport.
-/
import WfbLink.Core.Checked

namespace WfbLink.RadioCore

open WfbLink.Core

/-- the errors of the USB library, as far as the runtime tells them apart -/
inductive RusbError where
  | timeout
  | other (text : String)
deriving DecidableEq, Repr

def RusbError.message : RusbError → String
  | .timeout => "Operation timed out"
  | .other text => text

inductive UsbError where
  | rusb (error : RusbError)
  | backend (text : String)
  | backendTimeout (text : String)
  | noSupportedAdapter
  | deviceDisappeared
  | missingBulkEndpoints (interface : UInt8)
deriving DecidableEq, Repr

def UsbError.message : UsbError → String
  | .rusb error => s!"USB operation failed: {error.message}"
  | .backend text => s!"USB backend operation failed: {text}"
  | .backendTimeout text => s!"USB backend operation timed out: {text}"
  | .noSupportedAdapter => "no supported adapter matched selector"
  | .deviceDisappeared => "selected device disappeared before claim"
  | .missingBulkEndpoints interface => s!"interface {interface} has no usable bulk IN/OUT endpoint pair"

def UsbError.isTimeout : UsbError → Bool
  | .rusb .timeout => true
  | .backendTimeout _ => true
  | _ => false

structure UsbEndpoints where
  bulkIn : Option UInt8
  bulkOut : Option UInt8
deriving DecidableEq, Repr

/-! ## Buffers -/

/-- the largest length of an object in memory -/
def isizeMax : ℕ := 2 ^ 63 - 1

/-- a byte buffer of `n` bytes that is filled in place: what is written to it never changes its length -/
structure ByteBuf (n : ℕ) where
  bytes : List UInt8
  length_eq : bytes.length = n
  length_le : n ≤ isizeMax

/-- the buffer with these bytes at its front, as far as they fit -/
def ByteBuf.fill {n : ℕ} (data : ByteBuf n) (bytes : List UInt8) : ByteBuf n where
  bytes := bytes.take n ++ data.bytes.drop bytes.length
  length_eq := by
    have := data.length_eq
    rw [List.length_append, List.length_take, List.length_drop]; omega
  length_le := data.length_le

theorem ByteBuf.prefix_fill {n : ℕ} (data : ByteBuf n) {bytes : List UInt8} (h : bytes.length ≤ n) :
    bytes <+: (data.fill bytes).bytes := by
  have hfill : (data.fill bytes).bytes = bytes.take n ++ data.bytes.drop bytes.length := rfl
  rw [hfill, List.take_of_length_le h]
  exact List.prefix_append _ _

/-- an empty buffer of `n` bytes -/
def ByteBuf.zeroed (n : ℕ) (h : n ≤ isizeMax) : ByteBuf n := ⟨List.replicate n 0, List.length_replicate, h⟩

/-! ## Transports -/

class UsbBulkTransfer (τ : Type) where
  readBulkTransfer {n : ℕ} (transport : τ) (endpoint : UInt8) (data : ByteBuf n) (timeout : ℕ) :
    Except UsbError ℕ × ByteBuf n × τ
  writeBulkTransfer (transport : τ) (endpoint : UInt8) (data : List UInt8) (timeout : ℕ) :
    Except UsbError ℕ × τ

export UsbBulkTransfer (readBulkTransfer writeBulkTransfer)

/-- one operation on a transport -/
inductive UsbEvent where
  | bulkIn (endpoint : UInt8)
  | bulkOut (endpoint : UInt8) (data : List UInt8)
  | readVendor (value index : UInt16)
  | writeVendor (value index : UInt16) (data : List UInt8)
deriving DecidableEq, Repr

/-- event types with an entry for transport operations -/
class UsbLog (ε : Type) where
  entry : UsbEvent → ε

instance : UsbLog UsbEvent := ⟨id⟩

/-- a transport together with the operations made on it so far -/
structure Recorded (ε τ : Type) where
  inner : τ
  events : List ε

namespace Recorded

variable {ε τ : Type}

def record (transport : Recorded ε τ) (event : ε) (inner : τ) : Recorded ε τ :=
  { inner, events := transport.events ++ [event] }

@[simp] theorem record_events (transport : Recorded ε τ) (event : ε) (inner : τ) :
    (transport.record event inner).events = transport.events ++ [event] := rfl

@[simp] theorem record_inner (transport : Recorded ε τ) (event : ε) (inner : τ) :
    (transport.record event inner).inner = inner := rfl

instance [UsbLog ε] [UsbBulkTransfer τ] : UsbBulkTransfer (Recorded ε τ) where
  readBulkTransfer transport endpoint data timeout :=
    let (result, data, inner) := readBulkTransfer transport.inner endpoint data timeout
    (result, data, transport.record (UsbLog.entry (.bulkIn endpoint)) inner)
  writeBulkTransfer transport endpoint data timeout :=
    let (result, inner) := writeBulkTransfer transport.inner endpoint data timeout
    (result, transport.record (UsbLog.entry (.bulkOut endpoint data)) inner)

end Recorded

/-- a transport that answers every bulk IN read with the same bytes and takes every bulk OUT packet whole -/
structure LoopbackUsb where
  input : List UInt8
deriving DecidableEq, Repr

instance : UsbBulkTransfer LoopbackUsb where
  readBulkTransfer {n} transport _ data _ := (.ok (min n transport.input.length), data.fill transport.input, transport)
  writeBulkTransfer transport _ data _ := (.ok data.length, transport)

end WfbLink.RadioCore
