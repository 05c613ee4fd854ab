/-
IEEE 802.11 frame checks (`radio-core/src/frame.rs`).
-/
import WfbLink.Core.Checked

namespace WfbLink.RadioCore

open WfbLink.Core

def ieee80211MinHeaderLen : ℕ := 10

inductive FrameType where
  | management
  | control
  | data
  | extension
deriving DecidableEq, Repr

inductive Ieee80211FrameError where
  | tooShort (minLen actualLen : ℕ)
deriving DecidableEq, Repr

def Ieee80211FrameError.message : Ieee80211FrameError → String
  | .tooShort minLen actualLen =>
    s!"IEEE 802.11 frame too short: expected at least {minLen} bytes, got {actualLen}"

def validateIeee80211Frame (frame : List UInt8) : Except Ieee80211FrameError Unit :=
  if frame.length < ieee80211MinHeaderLen then .error (.tooShort ieee80211MinHeaderLen frame.length) else .ok ()

def frameType (frame : List UInt8) : Checked (Except Ieee80211FrameError FrameType) :=
  match validateIeee80211Frame frame with
  | .error error => return .error error
  | .ok () => do
    let first ← index frame 0
    return .ok <|
      if first &&& 0x0c = 0x00 then .management
      else if first &&& 0x0c = 0x04 then .control
      else if first &&& 0x0c = 0x08 then .data
      else .extension

theorem validateIeee80211Frame_ok {frame : List UInt8} (h : ieee80211MinHeaderLen ≤ frame.length) :
    validateIeee80211Frame frame = .ok () := by
  rw [validateIeee80211Frame, if_neg (Nat.not_lt.2 h)]

/-- a frame that passes the length check has a type, and finding it reads no byte out of range -/
theorem frameType_ok {frame : List UInt8} (h : ieee80211MinHeaderLen ≤ frame.length) :
    ∃ type, frameType frame = .ok (.ok type) := by
  have h0 : 0 < frame.length := lt_of_lt_of_le (by decide) h
  rw [frameType, validateIeee80211Frame_ok h]
  simp only [index_of_lt h0, checked_bind_ok]
  exact ⟨_, rfl⟩

end WfbLink.RadioCore
