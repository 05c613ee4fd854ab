/-
WFB frames over 802.11 (`wfb-bridge/src/frame.rs`).

A WFB frame is a data frame of 24 header bytes whose source and destination addresses carry the prefix `57 42` and the
channel id of the link. `extractWfbPayload` checks the header and returns what follows it.
-/
import WfbLink.Core.Checked

namespace WfbLink.Bridge

open WfbLink.Core

def wfbIeee80211HeaderLen : ℕ := 24
def wfbMacPrefix : List UInt8 := [0x57, 0x42]
def srcMacPrefixOffset : ℕ := 10
def srcChannelIdOffset : ℕ := 12
def dstMacPrefixOffset : ℕ := 16
def dstChannelIdOffset : ℕ := 18

inductive WfbFrameError where
  | invalidLinkId (linkId : UInt32)
  | tooShort (actualLen : ℕ)
  | prefixMismatch
  | channelIdMismatch
deriving DecidableEq, Repr

def WfbFrameError.message : WfbFrameError → String
  | .invalidLinkId linkId => s!"WFB link_id must fit in 24 bits, got 0x{hexText 8 linkId.toNat}"
  | .tooShort actualLen =>
    s!"IEEE 802.11 frame too short for WFB header: expected at least 24 bytes, got {actualLen}"
  | .prefixMismatch => "frame does not use the WFB MAC prefix"
  | .channelIdMismatch => "frame channel id does not match configured link/radio port"

/-- a link id, which fits in 24 bits where it was checked by `WfbChannelId.new`, and a radio port -/
structure WfbChannelId where
  linkId : UInt32
  radioPort : UInt8
deriving DecidableEq, Repr

namespace WfbChannelId

def new (linkId : UInt32) (radioPort : UInt8) : Except WfbFrameError WfbChannelId :=
  if linkId > 0x00ffffff then .error (.invalidLinkId linkId) else .ok { linkId, radioPort }

def raw (id : WfbChannelId) : UInt32 := (id.linkId <<< 8) ||| id.radioPort.toUInt32

def rawBeBytes (id : WfbChannelId) : List UInt8 := toBeU32 id.raw.toNat

end WfbChannelId

def validateWfbHeader (frame : List UInt8) (expected : WfbChannelId) : Checked (Except WfbFrameError Unit) :=
  if frame.length < wfbIeee80211HeaderLen then return .error (.tooShort frame.length)
  else do
    let srcPrefix ← slice frame srcMacPrefixOffset (srcMacPrefixOffset + 2)
    let dstPrefix ← slice frame dstMacPrefixOffset (dstMacPrefixOffset + 2)
    if srcPrefix ≠ wfbMacPrefix ∨ dstPrefix ≠ wfbMacPrefix then return .error .prefixMismatch
    else
      let srcChannel ← slice frame srcChannelIdOffset (srcChannelIdOffset + 4)
      let dstChannel ← slice frame dstChannelIdOffset (dstChannelIdOffset + 4)
      if srcChannel ≠ expected.rawBeBytes ∨ dstChannel ≠ expected.rawBeBytes then
        return .error .channelIdMismatch
      else return .ok ()

def extractWfbPayload (frame : List UInt8) (expected : WfbChannelId) :
    Checked (Except WfbFrameError (List UInt8)) := do
  match ← validateWfbHeader frame expected with
  | .error error => return .error error
  | .ok () =>
    let payload ← slice frame wfbIeee80211HeaderLen frame.length
    return .ok payload

/-- the header check reads nothing out of range, and passes only frames with a whole header -/
theorem validateWfbHeader_total (frame : List UInt8) (expected : WfbChannelId) :
    ∃ result, validateWfbHeader frame expected = .ok result ∧
      (result = .ok () → wfbIeee80211HeaderLen ≤ frame.length) := by
  unfold validateWfbHeader
  by_cases h : frame.length < wfbIeee80211HeaderLen
  · rw [if_pos h]
    exact ⟨_, rfl, nofun⟩
  · have hlen : 24 ≤ frame.length := Nat.not_lt.1 h
    have hslice : ∀ {a b}, a ≤ b → b ≤ 24 → slice frame a b = .ok ((frame.drop a).take (b - a)) :=
      fun hab hb => slice_ok hab (le_trans hb hlen)
    simp only [if_neg h, hslice (show srcMacPrefixOffset ≤ srcMacPrefixOffset + 2 by decide) (by decide),
      hslice (show dstMacPrefixOffset ≤ dstMacPrefixOffset + 2 by decide) (by decide),
      hslice (show srcChannelIdOffset ≤ srcChannelIdOffset + 4 by decide) (by decide),
      hslice (show dstChannelIdOffset ≤ dstChannelIdOffset + 4 by decide) (by decide), checked_bind_ok]
    split_ifs
    · exact ⟨_, rfl, nofun⟩
    · exact ⟨_, rfl, nofun⟩
    · exact ⟨_, rfl, fun _ => hlen⟩

/-- extraction reads nothing out of range, whatever the frame -/
theorem extractWfbPayload_total (frame : List UInt8) (expected : WfbChannelId) :
    ∃ result, extractWfbPayload frame expected = .ok result := by
  obtain ⟨result, hvalid, hlen⟩ := validateWfbHeader_total frame expected
  rw [extractWfbPayload, hvalid, checked_bind_ok]
  cases result with
  | error error => exact ⟨_, rfl⟩
  | ok value =>
    dsimp only
    rw [slice_to_end (hlen rfl)]
    exact ⟨_, rfl⟩

end WfbLink.Bridge
