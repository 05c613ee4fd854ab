/-
Firmware images (`radio-core/src/firmware.rs`).

An image is never empty and never longer than `RTL8812A_FIRMWARE_MAX_LEN`. What is downloaded of it is its payload: the
image without the Realtek header, if it has one.
-/
import WfbLink.Core.Checked

namespace WfbLink.RadioCore

open WfbLink.Core

def rtl8812aFirmwareMaxLen : ℕ := 128 * 1024
def realtekFirmwareHeaderLen : ℕ := 32

inductive FirmwareSource where
  | external (path : String)
  | realtekCArray (path arrayName : String)
  | embedded (name : String)
  | inMemory
deriving DecidableEq, Repr

inductive FirmwareError where
  | empty
  | tooLarge (maxLen actualLen : ℕ)
deriving DecidableEq, Repr

/-- the field `len` is the length of the bytes -/
structure FirmwareImage where
  source : FirmwareSource
  byteSum : UInt32
  bytes : List UInt8
  bytes_ne : bytes ≠ []
  length_le : bytes.length ≤ rtl8812aFirmwareMaxLen

namespace FirmwareImage

def fromBytes (source : FirmwareSource) (bytes : List UInt8) : Except FirmwareError FirmwareImage :=
  if hempty : bytes = [] then .error .empty
  else if hlong : bytes.length > rtl8812aFirmwareMaxLen then .error (.tooLarge rtl8812aFirmwareMaxLen bytes.length)
  else
    .ok {
      source
      byteSum := bytes.foldl (fun acc byte => acc + byte.toUInt32) 0
      bytes
      bytes_ne := hempty
      length_le := Nat.le_of_not_lt hlong }

variable (image : FirmwareImage)

def signature : Option UInt16 :=
  match image.bytes with
  | b0 :: b1 :: _ => some (UInt16.ofNat (leU16 b0 b1))
  | _ => none

def hasHeader : Bool :=
  match image.signature with
  | some signature => signature &&& 0xfff0 == 0x9500 || signature &&& 0xfff0 == 0x2100
  | none => false

def payloadOffset : ℕ :=
  if image.hasHeader ∧ image.bytes.length > realtekFirmwareHeaderLen then realtekFirmwareHeaderLen else 0

end FirmwareImage

structure FirmwarePayload where
  bytes : List UInt8
  offset : ℕ
  signature : Option UInt16
deriving DecidableEq, Repr

def FirmwareImage.realtekDownloadPayload (image : FirmwareImage) : FirmwarePayload where
  bytes := image.bytes.drop image.payloadOffset
  offset := image.payloadOffset
  signature := image.signature

theorem FirmwareImage.payload_length_le (image : FirmwareImage) :
    image.realtekDownloadPayload.bytes.length ≤ rtl8812aFirmwareMaxLen := by
  have h := image.length_le
  simp only [realtekDownloadPayload, List.length_drop]
  omega

/-- an image of any bytes within the limit is accepted -/
theorem FirmwareImage.fromBytes_ok {bytes : List UInt8} (hne : bytes ≠ []) (hlen : bytes.length ≤ rtl8812aFirmwareMaxLen)
    (source : FirmwareSource) : ∃ image, fromBytes source bytes = .ok image ∧ image.bytes = bytes := by
  rw [fromBytes, dif_neg hne, dif_neg (Nat.not_lt.2 hlen)]
  exact ⟨_, rfl, rfl⟩

end WfbLink.RadioCore
