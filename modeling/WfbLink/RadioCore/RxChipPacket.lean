/-
The chip's side of the RX framing.

`RxChipPacket` is what the chip puts into a bulk transfer for one received packet: a 24-byte descriptor whose first word
holds the lengths, the driver information in 8-byte units, up to three shift bytes, the payload with its frame check
sequence, and padding to the next 128-byte boundary. The lengths in the descriptor are the lengths of the parts by
construction. Nothing here mentions the parser; `chipPacket_words` connects the two: the words the parser reads in front
of an encoded packet are the ones the chip wrote.

- `parse_chipPacket_bad`, `parse_chipPacket_dropped`, `parse_chipPacket_frame`: what the parser makes of an encoded
  packet, in front of any continuation.
-/
import WfbLink.RadioCore.RxDescriptor

namespace WfbLink.RadioCore

open WfbLink.Core

/-- the next boundary of an aggregate -/
def padded (len : ℕ) : ℕ := (len + 127) / 128 * 128

structure RxChipPacket where
  crcError : Bool
  icvError : Bool
  phyStatus : Bool
  /-- bits 20 to 23 and 27 to 31 of the first word -/
  midFlags : ℕ
  highFlags : ℕ
  drvinfoUnits : ℕ
  /-- the other five words of the descriptor -/
  descTail : List UInt8
  drvinfo : List UInt8
  shiftBytes : List UInt8
  payload : List UInt8
  padding : List UInt8
  midFlags_lt : midFlags < 16
  highFlags_lt : highFlags < 32
  drvinfoUnits_lt : drvinfoUnits < 16
  descTail_length : descTail.length = 20
  drvinfo_length : drvinfo.length = 8 * drvinfoUnits
  shift_lt : shiftBytes.length < 4
  payload_lt : payload.length < 2 ^ 14
  padding_length : padding.length = padded (24 + drvinfo.length + shiftBytes.length + payload.length) -
    (24 + drvinfo.length + shiftBytes.length + payload.length)

namespace RxChipPacket

/-- a packet of zero bytes with nothing but a length in its descriptor -/
def plain (len : ℕ) (h : len < 2 ^ 14) : RxChipPacket where
  crcError := false
  icvError := false
  phyStatus := false
  midFlags := 0
  highFlags := 0
  drvinfoUnits := 0
  descTail := List.replicate 20 0
  drvinfo := []
  shiftBytes := []
  payload := List.replicate len 0
  padding := List.replicate (padded (24 + len) - (24 + len)) 0
  midFlags_lt := by norm_num
  highFlags_lt := by norm_num
  drvinfoUnits_lt := by norm_num
  descTail_length := rfl
  drvinfo_length := rfl
  shift_lt := by norm_num
  payload_lt := by simpa using h
  padding_length := by simp

/-- the length field of the descriptor -/
def packetLen (p : RxChipPacket) : ℕ := p.payload.length

def payloadStart (p : RxChipPacket) : ℕ := 24 + p.drvinfo.length + p.shiftBytes.length

/-- the first word of the descriptor -/
def word0 (p : RxChipPacket) : ℕ :=
  p.packetLen + 2 ^ 14 * p.crcError.toNat + 2 ^ 15 * p.icvError.toNat + 2 ^ 16 * p.drvinfoUnits +
    2 ^ 20 * p.midFlags + 2 ^ 24 * p.shiftBytes.length + 2 ^ 26 * p.phyStatus.toNat + 2 ^ 27 * p.highFlags

/-- a packet without padding -/
def encode (p : RxChipPacket) : List UInt8 :=
  toLeU32 p.word0 ++ p.descTail ++ p.drvinfo ++ p.shiftBytes ++ p.payload

def encodePadded (p : RxChipPacket) : List UInt8 := p.encode ++ p.padding

/-- the packets of one bulk transfer: every packet but the last is padded -/
def aggregate : List RxChipPacket → List UInt8
  | [] => []
  | [p] => p.encode
  | p :: q :: packets => p.encodePadded ++ aggregate (q :: packets)

/-- a length the parser accepts -/
def lenOk (p : RxChipPacket) : Prop := 1 ≤ p.packetLen ∧ p.packetLen ≤ 4096

instance (p : RxChipPacket) : Decidable p.lenOk := by unfold lenOk; infer_instance

/-- a packet the runtime is to hand on: no CRC error, and at least 10 bytes in front of the frame check sequence -/
def good (p : RxChipPacket) : Prop := p.crcError = false ∧ 14 ≤ p.packetLen ∧ p.packetLen ≤ 4096

instance (p : RxChipPacket) : Decidable p.good := by unfold good; infer_instance

/-- the 802.11 frame of a packet, without the frame check sequence -/
def frameData (p : RxChipPacket) : List UInt8 := p.payload.take (p.packetLen - 4)

variable (p : RxChipPacket)

theorem encode_length : p.encode.length = p.payloadStart + p.packetLen := by
  simp only [encode, List.length_append, toLeU32_length, p.descTail_length, payloadStart, packetLen]

theorem encodePadded_length : p.encodePadded.length = padded (p.payloadStart + p.packetLen) := by
  have h := p.padding_length
  have hle : 24 + p.drvinfo.length + p.shiftBytes.length + p.payload.length ≤
      padded (24 + p.drvinfo.length + p.shiftBytes.length + p.payload.length) := by unfold padded; omega
  rw [encodePadded, List.length_append, encode_length]
  unfold payloadStart packetLen at *
  omega

/-- even an empty packet fills one alignment unit -/
theorem encodePadded_length_ge : 128 ≤ p.encodePadded.length := by
  rw [encodePadded_length]; unfold padded payloadStart; omega

theorem encode_length_le : p.encode.length ≤ p.encodePadded.length := by
  rw [encodePadded, List.length_append]; omega

theorem encode_ne_nil : p.encode ≠ [] := by
  have := p.encode_length
  exact List.length_pos_iff.1 (by rw [this, payloadStart]; omega)

theorem encodePadded_ne_nil : p.encodePadded ≠ [] := by simp [encodePadded, p.encode_ne_nil]

theorem word0_lt : p.word0 < 2 ^ 32 := by
  have h1 := p.payload_lt
  have h2 := p.drvinfoUnits_lt
  have h3 := p.shift_lt
  have h4 := p.midFlags_lt
  have h5 := p.highFlags_lt
  have h6 := p.crcError.toNat_le
  have h7 := p.icvError.toNat_le
  have h8 := p.phyStatus.toNat_le
  unfold word0 packetLen
  omega

/-- an aggregate is the padded packets up to the last one, followed by the last one -/
theorem aggregate_concat (packets : List RxChipPacket) (last : RxChipPacket) :
    aggregate (packets ++ [last]) = packets.flatMap encodePadded ++ last.encode := by
  induction packets with
  | nil => rfl
  | cons p packets ih =>
    have hcons : aggregate (p :: (packets ++ [last])) = p.encodePadded ++ aggregate (packets ++ [last]) := by
      cases packets <;> rfl
    rw [List.cons_append, hcons, ih, List.flatMap_cons, List.append_assoc]

end RxChipPacket

/-! ## What the parser reads -/

variable {p : RxChipPacket} {w : RxDescWords}

theorem word0_packetLen (hw : w.dw0 = p.word0) : w.packetLen = p.packetLen := by
  have h1 := p.payload_lt
  rw [RxDescWords.packetLen, hw, Nat.and_two_pow_sub_one_eq_mod _ 14]
  unfold RxChipPacket.word0 RxChipPacket.packetLen
  omega

theorem word0_crcError (hw : w.dw0 = p.word0) : w.crcError = p.crcError := by
  have h1 := p.payload_lt
  have hbit : (p.word0 >>> 14) &&& 1 = p.crcError.toNat := by
    have h2 := p.crcError.toNat_le
    rw [Nat.and_two_pow_sub_one_eq_mod _ 1, Nat.shiftRight_eq_div_pow]
    unfold RxChipPacket.word0 RxChipPacket.packetLen
    omega
  rw [RxDescWords.crcError, hw, hbit]
  cases p.crcError <;> rfl

theorem word0_drvinfoSize (hw : w.dw0 = p.word0) : w.drvinfoSize = p.drvinfo.length := by
  have h1 := p.payload_lt
  have h2 := p.crcError.toNat_le
  have h3 := p.icvError.toNat_le
  have h4 := p.drvinfoUnits_lt
  have hbits : (p.word0 >>> 16) &&& 0x0f = p.drvinfoUnits := by
    rw [Nat.and_two_pow_sub_one_eq_mod _ 4, Nat.shiftRight_eq_div_pow]
    unfold RxChipPacket.word0 RxChipPacket.packetLen
    omega
  rw [RxDescWords.drvinfoSize, hw, hbits, p.drvinfo_length, Nat.mul_comm]

theorem word0_shift (hw : w.dw0 = p.word0) : w.shift = p.shiftBytes.length := by
  have h1 := p.payload_lt
  have h2 := p.crcError.toNat_le
  have h3 := p.icvError.toNat_le
  have h4 := p.drvinfoUnits_lt
  have h5 := p.midFlags_lt
  have h6 := p.shift_lt
  rw [RxDescWords.shift, hw, Nat.and_two_pow_sub_one_eq_mod _ 2, Nat.shiftRight_eq_div_pow]
  unfold RxChipPacket.word0 RxChipPacket.packetLen
  omega

theorem word0_dataStart (hw : w.dw0 = p.word0) : w.dataStart = p.payloadStart := by
  rw [RxDescWords.dataStart, word0_drvinfoSize hw, word0_shift hw]; rfl

theorem word0_dataEnd (hw : w.dw0 = p.word0) : w.dataEnd = p.encode.length := by
  rw [RxDescWords.dataEnd, word0_dataStart hw, word0_packetLen hw, p.encode_length]

theorem word0_consumed (hw : w.dw0 = p.word0) : w.consumed = p.encodePadded.length := by
  rw [w.consumed_eq, word0_dataEnd hw, p.encode_length, p.encodePadded_length]; rfl

theorem word0_badLength (hw : w.dw0 = p.word0) : w.badLength ↔ ¬ p.lenOk := by
  rw [RxDescWords.badLength, word0_packetLen hw, RxChipPacket.lenOk]; omega

/-- the descriptor the parser reads in front of an encoded packet is the chip's -/
theorem chipPacket_words (p : RxChipPacket) (tail : List UInt8) :
    rxDescSize ≤ (p.encode ++ tail).length ∧ ∃ w, readRxDescWords (p.encode ++ tail) = .ok w ∧ w.dw0 = p.word0 := by
  have hlen : rxDescSize ≤ (p.encode ++ tail).length := by
    rw [List.length_append, p.encode_length, RxChipPacket.payloadStart, rxDescSize]; omega
  refine ⟨hlen, ?_⟩
  have hlen24 : 24 ≤ (p.encode ++ tail).length := hlen
  have h0 : readLeU32 (p.encode ++ tail) 0 = .ok p.word0 := by
    simp only [RxChipPacket.encode, List.append_assoc]
    exact readLeU32_front p.word0_lt _
  simp only [readRxDescWords, h0, readLeU32_ok (show 12 + 4 ≤ (p.encode ++ tail).length by omega),
    readLeU32_ok (show 16 + 4 ≤ (p.encode ++ tail).length by omega), checked_bind_ok]
  exact ⟨_, rfl, rfl⟩

variable (channel : Channel)

/-- a packet whose length field is out of range: the parser steps over the descriptor only -/
theorem parse_chipPacket_bad (hlen : ¬ p.lenOk) (tail : List UInt8) :
    parseRxPacket (p.encode ++ tail) channel = .ok ⟨rxDescSize, .drop, none⟩ := by
  obtain ⟨hsize, w, hread, hw⟩ := chipPacket_words p tail
  exact parseRxPacket_badLength hsize hread ((word0_badLength hw).2 hlen)

theorem parse_chipPacket_dropped (hlen : p.lenOk) (hbad : ¬ p.good) (tail : List UInt8) :
    parseRxPacket (p.encode ++ tail) channel = .ok ⟨p.encodePadded.length, .drop, none⟩ := by
  obtain ⟨hsize, w, hread, hw⟩ := chipPacket_words p tail
  have hend : w.dataEnd ≤ (p.encode ++ tail).length := by rw [word0_dataEnd hw, List.length_append]; omega
  rw [← word0_consumed hw]
  refine parseRxPacket_dropped hsize hread (fun hb => (word0_badLength hw).1 hb hlen) hend ?_
  rw [word0_crcError hw, RxDescWords.frameLen, word0_packetLen hw, ieee80211MinHeaderLen]
  by_contra h
  push Not at h
  exact hbad ⟨by simpa using h.1, by omega, hlen.2⟩

theorem parse_chipPacket_frame (hgood : p.good) (tail : List UInt8) :
    ∃ frame, parseRxPacket (p.encode ++ tail) channel = .ok ⟨p.encodePadded.length, .frame, some frame⟩ ∧
      frame.data = p.frameData ∧ rxDescSize + frame.driverInfoSize + frame.rxShift = p.payloadStart := by
  obtain ⟨hcrc, hmin, hmax⟩ := hgood
  obtain ⟨hsize, w, hread, hw⟩ := chipPacket_words p tail
  have hlen : p.lenOk := ⟨by omega, hmax⟩
  have hend : w.dataEnd ≤ (p.encode ++ tail).length := by rw [word0_dataEnd hw, List.length_append]; omega
  have hmin' : ieee80211MinHeaderLen ≤ w.frameLen := by
    rw [RxDescWords.frameLen, word0_packetLen hw, ieee80211MinHeaderLen]; omega
  obtain ⟨frame, hparse, hdata, hdrv, hshift⟩ := parseRxPacket_frame channel hsize hread
    (fun hb => (word0_badLength hw).1 hb hlen) hend ((word0_crcError hw).trans hcrc) hmin'
  refine ⟨frame, by rw [hparse, word0_consumed hw], ?_, ?_⟩
  · have hhead : (toLeU32 p.word0 ++ p.descTail ++ p.drvinfo ++ p.shiftBytes).length = p.payloadStart := by
      simp only [List.length_append, toLeU32_length, p.descTail_length, RxChipPacket.payloadStart]
    have hdrop : (p.encode ++ tail).drop p.payloadStart = p.payload ++ tail := by
      rw [RxChipPacket.encode, List.append_assoc _ p.payload, ← hhead, List.drop_left]
    rw [hdata, word0_dataStart hw, hdrop, RxDescWords.frameLen, word0_packetLen hw]
    exact List.take_append_of_le_length (Nat.sub_le _ _)
  · rw [hdrv, hshift, word0_drvinfoSize hw, word0_shift hw]; rfl

end WfbLink.RadioCore
