/-
The datagrams that are transmitted (`parse_tx_datagram` and `parse_wfb_radiotap_tx`), as a grammar.

A datagram is a firewall mark, one of two radiotap headers, and a frame. The headers are given field by field, and what
the fields say by the bits of the radiotap standard; nothing here is taken from the offsets and masks of the parser.
`parseTxDatagram_grammar`: the parser accepts exactly these datagrams, and returns what their fields say.
-/
import WfbLink.Bridge.Tx
import WfbLink.Core.Bits

namespace WfbLink.Bridge

open WfbLink.Core WfbLink.RadioCore

/-- bit `i` of a byte -/
def hasBit (byte : UInt8) (i : ℕ) : Bool := byte.toNat.testBit i

/-- a header with an MCS field -/
structure HtFields where
  pad : UInt8
  txFlagsLow : UInt8
  txFlagsHigh : UInt8
  known : UInt8
  flags : UInt8
  mcs : UInt8

/-- a header with a VHT field -/
structure VhtFields where
  pad : UInt8
  txFlagsLow : UInt8
  txFlagsHigh : UInt8
  knownLow : UInt8
  knownHigh : UInt8
  flags : UInt8
  bandwidth : UInt8
  mcsNss0 : UInt8
  mcsNss1 : UInt8
  mcsNss2 : UInt8
  mcsNss3 : UInt8
  coding : UInt8
  groupId : UInt8
  partialAidLow : UInt8
  partialAidHigh : UInt8

namespace HtFields

/-- version 0, 13 bytes, present word 0x00088000 -/
def bytes (fields : HtFields) : List UInt8 :=
  [0, fields.pad, 13, 0] ++ toLeU32 0x00088000 ++
    [fields.txFlagsLow, fields.txFlagsHigh, fields.known, fields.flags, fields.mcs]

/-- the bandwidth code is in the two lowest bits of the flags, if it is known -/
def channelWidth (fields : HtFields) : Option Bandwidth :=
  if hasBit fields.known 0 then
    match fields.flags.toNat % 4 with
    | 0 => some .mhz20
    | 1 => some .mhz40
    | _ => none
  else some .mhz20

def options (fields : HtFields) (bandwidth : Bandwidth) : TxOptions where
  rate := if hasBit fields.known 1 then .mcs fields.mcs else .ofdm6m
  bandwidth
  shortGi := hasBit fields.known 2 && hasBit fields.flags 2
  ldpc := hasBit fields.known 4 && hasBit fields.flags 4
  stbc := hasBit fields.known 5 && (hasBit fields.flags 5 || hasBit fields.flags 6)
  noRetry := hasBit fields.txFlagsLow 3

end HtFields

namespace VhtFields

/-- version 0, 22 bytes, present word 0x00208000 -/
def bytes (fields : VhtFields) : List UInt8 :=
  [0, fields.pad, 22, 0] ++ toLeU32 0x00208000 ++
    [fields.txFlagsLow, fields.txFlagsHigh, fields.knownLow, fields.knownHigh, fields.flags, fields.bandwidth,
      fields.mcsNss0, fields.mcsNss1, fields.mcsNss2, fields.mcsNss3, fields.coding, fields.groupId,
      fields.partialAidLow, fields.partialAidHigh]

def channelWidth (fields : VhtFields) : Option Bandwidth :=
  match fields.bandwidth.toNat with
  | 0 => some .mhz20
  | 1 => some .mhz40
  | 4 => some .mhz80
  | _ => none

/-- the MCS is in the upper half of the byte, the number of streams in the lower one -/
def options (fields : VhtFields) (bandwidth : Bandwidth) : TxOptions where
  rate := .vht (UInt8.ofNat (fields.mcsNss0.toNat / 16)) (UInt8.ofNat (fields.mcsNss0.toNat % 16))
  bandwidth
  shortGi := hasBit fields.flags 2
  ldpc := hasBit fields.coding 0
  stbc := hasBit fields.flags 0
  noRetry := hasBit fields.txFlagsLow 3

end VhtFields

/-- a datagram, and what is to be transmitted -/
inductive TxDatagram : List UInt8 → ParsedTxDatagram → Prop
  | ht (m0 m1 m2 m3 : UInt8) (fields : HtFields) {bandwidth : Bandwidth}
      (supported : fields.channelWidth = some bandwidth) {frame : List UInt8} (nonempty : frame ≠ []) :
      TxDatagram ([m0, m1, m2, m3] ++ fields.bytes ++ frame) ⟨beU32 m0 m1 m2 m3, 13, fields.options bandwidth, frame⟩
  | vht (m0 m1 m2 m3 : UInt8) (fields : VhtFields) {bandwidth : Bandwidth}
      (supported : fields.channelWidth = some bandwidth) {frame : List UInt8} (nonempty : frame ≠ []) :
      TxDatagram ([m0, m1, m2, m3] ++ fields.bytes ++ frame) ⟨beU32 m0 m1 m2 m3, 22, fields.options bandwidth, frame⟩

/-! ## Bits -/

/-- what holds of the 256 bytes -/
theorem forall_byte {P : UInt8 → Prop} (h : ∀ n < 256, P (UInt8.ofNat n)) (byte : UInt8) : P byte := by
  have hbyte := h byte.toNat byte.toNat_lt
  rwa [UInt8.ofNat_toNat] at hbyte

/-- a mask of one bit -/
theorem flag_set (byte : UInt8) {mask : UInt8} {i : ℕ} (hi : i < 8) (hmask : mask = UInt8.ofNat (2 ^ i)) :
    (byte &&& mask != 0) = hasBit byte i := by
  have hall : ∀ i < 8, ∀ n < 256, (UInt8.ofNat n &&& UInt8.ofNat (2 ^ i) != 0) = hasBit (UInt8.ofNat n) i := by
    decide +kernel
  subst hmask
  revert byte
  exact forall_byte (hall i hi)

theorem stbc_set (byte : UInt8) : (byte &&& mcsStbcMask != 0) = (hasBit byte 5 || hasBit byte 6) := by
  revert byte
  exact forall_byte (by decide +kernel)

theorem bandwidth_code (byte : UInt8) : (byte &&& mcsBwMask).toNat = byte.toNat % 4 := by
  revert byte
  exact forall_byte (by decide +kernel)

theorem upper_half (byte : UInt8) : (byte >>> 4) &&& 0x0f = UInt8.ofNat (byte.toNat / 16) := by
  revert byte
  exact forall_byte (by decide +kernel)

theorem lower_half (byte : UInt8) : byte &&& 0x0f = UInt8.ofNat (byte.toNat % 16) := by
  revert byte
  exact forall_byte (by decide +kernel)

/-- the no-ack flag is in the low byte of the TX flags -/
theorem noAck_set (low high : UInt8) : (leU16 low high &&& txFlagsNoAck != 0) = hasBit low 3 := by
  have hword : leU16 low high = 2 ^ 8 * high.toNat + low.toNat := Nat.add_comm _ _
  have hbit : (leU16 low high).testBit 3 = low.toNat.testBit 3 := by
    rw [hword, Nat.testBit_two_pow_mul_add _ low.toNat_lt]
    rfl
  have hzero : leU16 low high &&& txFlagsNoAck = 0 ↔ (leU16 low high).testBit 3 = false := and_two_pow_eq_zero _ 3
  rw [hbit] at hzero
  rw [hasBit, Bool.eq_iff_iff, bne_iff_ne, ne_eq, hzero, Bool.not_eq_false]

/-! ## Headers -/

/-- what the code of a bandwidth is read as -/
theorem htBandwidth_eq (fields : HtFields) : htBandwidth fields.known fields.flags =
    match fields.channelWidth with
    | some bandwidth => .ok bandwidth
    | none => .error (.unsupportedHtBandwidth (fields.flags &&& mcsBwMask)) := by
  have hknown : fields.known &&& mcsHaveBw ≠ 0 ↔ hasBit fields.known 0 = true := by
    rw [← flag_set fields.known (show 0 < 8 by decide) (show mcsHaveBw = UInt8.ofNat (2 ^ 0) from rfl), bne_iff_ne]
  have hcode := bandwidth_code fields.flags
  rw [htBandwidth, HtFields.channelWidth]
  by_cases hbit : hasBit fields.known 0 = true
  · rw [if_pos (hknown.2 hbit), if_pos hbit]
    by_cases h20 : fields.flags &&& mcsBwMask = mcsBw20
    · rw [h20] at hcode
      rw [if_pos h20, ← hcode]
      rfl
    · by_cases h40 : fields.flags &&& mcsBwMask = mcsBw40
      · rw [h40] at hcode
        rw [if_neg h20, if_pos h40, ← hcode]
        rfl
      · rw [if_neg h20, if_neg h40]
        have hne20 : fields.flags.toNat % 4 ≠ 0 := fun h => h20 (UInt8.toNat_inj.1 (hcode.trans h))
        have hne40 : fields.flags.toNat % 4 ≠ 1 := fun h => h40 (UInt8.toNat_inj.1 (hcode.trans h))
        split
        · rename_i hsome
          split at hsome
          · exact absurd ‹_› hne20
          · exact absurd ‹_› hne40
          · cases hsome
        · rfl
  · rw [if_neg (mt hknown.1 hbit), if_neg hbit]

theorem vhtBandwidth_eq (fields : VhtFields) : vhtBandwidth fields.bandwidth =
    match fields.channelWidth with
    | some bandwidth => .ok bandwidth
    | none => .error (.unsupportedVhtBandwidth fields.bandwidth) := by
  have hcode : ∀ code : UInt8, fields.bandwidth = code ↔ fields.bandwidth.toNat = code.toNat :=
    fun code => UInt8.toNat_inj.symm
  rw [vhtBandwidth, VhtFields.channelWidth]
  by_cases h20 : fields.bandwidth = vhtBw20
  · rw [if_pos h20, (hcode _).1 h20]
    rfl
  by_cases h40 : fields.bandwidth = vhtBw40
  · rw [if_neg h20, if_pos h40, (hcode _).1 h40]
    rfl
  by_cases h80 : fields.bandwidth = vhtBw80
  · rw [if_neg h20, if_neg h40, if_pos h80, (hcode _).1 h80]
    rfl
  rw [if_neg h20, if_neg h40, if_neg h80]
  rw [hcode] at h20 h40 h80
  split
  · rename_i hsome
    split at hsome
    · exact absurd ‹_› h20
    · exact absurd ‹_› h40
    · exact absurd ‹_› h80
    · cases hsome
  · rfl

/-- the options of a header with an MCS field -/
theorem parseHt_fields (fields : HtFields) (tail : List UInt8) : parseHt (fields.bytes ++ tail) = .ok
    (match fields.channelWidth with
    | some bandwidth => .ok ⟨13, false, hasBit fields.txFlagsLow 3, fields.options bandwidth⟩
    | none => .error (.unsupportedHtBandwidth (fields.flags &&& mcsBwMask))) := by
  have hflags : readLeU16 (fields.bytes ++ tail) txFlagsOffset = .ok (leU16 fields.txFlagsLow fields.txFlagsHigh) := rfl
  have hknown : index (fields.bytes ++ tail) mcsKnownOffset = .ok fields.known := rfl
  have hmcsFlags : index (fields.bytes ++ tail) mcsFlagsOffset = .ok fields.flags := rfl
  have hmcs : index (fields.bytes ++ tail) mcsIndexOffset = .ok fields.mcs := rfl
  rw [parseHt, hflags, checked_bind_ok, hknown, checked_bind_ok, hmcsFlags, checked_bind_ok, hmcs, checked_bind_ok,
    htBandwidth_eq]
  cases fields.channelWidth with
  | none => rfl
  | some bandwidth =>
    have hrate : fields.known &&& mcsHaveMcs ≠ 0 ↔ hasBit fields.known 1 = true := by
      rw [← flag_set fields.known (show 1 < 8 by decide) (show mcsHaveMcs = UInt8.ofNat (2 ^ 1) from rfl), bne_iff_ne]
    simp only [HtFields.options, noAck_set, stbc_set,
      flag_set _ (show 2 < 8 by decide) (show mcsHaveGi = UInt8.ofNat (2 ^ 2) from rfl),
      flag_set _ (show 2 < 8 by decide) (show mcsSgi = UInt8.ofNat (2 ^ 2) from rfl),
      flag_set _ (show 4 < 8 by decide) (show mcsHaveFec = UInt8.ofNat (2 ^ 4) from rfl),
      flag_set _ (show 4 < 8 by decide) (show mcsFecLdpc = UInt8.ofNat (2 ^ 4) from rfl),
      flag_set _ (show 5 < 8 by decide) (show mcsHaveStbc = UInt8.ofNat (2 ^ 5) from rfl), hrate]
    rfl

theorem parseVht_fields (fields : VhtFields) (tail : List UInt8) : parseVht (fields.bytes ++ tail) = .ok
    (match fields.channelWidth with
    | some bandwidth => .ok ⟨22, true, hasBit fields.txFlagsLow 3, fields.options bandwidth⟩
    | none => .error (.unsupportedVhtBandwidth fields.bandwidth)) := by
  have hflags : readLeU16 (fields.bytes ++ tail) txFlagsOffset = .ok (leU16 fields.txFlagsLow fields.txFlagsHigh) := rfl
  have hvhtFlags : index (fields.bytes ++ tail) vhtFlagsOffset = .ok fields.flags := rfl
  have hbandwidth : index (fields.bytes ++ tail) vhtBwOffset = .ok fields.bandwidth := rfl
  have hmcsNss : index (fields.bytes ++ tail) vhtMcsnss0Offset = .ok fields.mcsNss0 := rfl
  have hcoding : index (fields.bytes ++ tail) vhtCodingOffset = .ok fields.coding := rfl
  rw [parseVht, hflags, checked_bind_ok, hvhtFlags, checked_bind_ok, hbandwidth, checked_bind_ok, vhtBandwidth_eq]
  cases fields.channelWidth with
  | none => rfl
  | some bandwidth =>
    dsimp only
    rw [hmcsNss, checked_bind_ok, hcoding, checked_bind_ok, upper_half, lower_half]
    simp only [VhtFields.options, noAck_set,
      flag_set _ (show 2 < 8 by decide) (show vhtFlagSgi = UInt8.ofNat (2 ^ 2) from rfl),
      flag_set _ (show 0 < 8 by decide) (show vhtCodingLdpcUser0 = UInt8.ofNat (2 ^ 0) from rfl),
      flag_set _ (show 0 < 8 by decide) (show vhtFlagStbc = UInt8.ofNat (2 ^ 0) from rfl)]
    rfl

/-- a header that is accepted, in front of anything -/
inductive RadiotapHeader : List UInt8 → ParsedRadiotapTx → Prop
  | ht (fields : HtFields) {bandwidth : Bandwidth} (supported : fields.channelWidth = some bandwidth)
      (tail : List UInt8) :
      RadiotapHeader (fields.bytes ++ tail) ⟨13, false, hasBit fields.txFlagsLow 3, fields.options bandwidth⟩
  | vht (fields : VhtFields) {bandwidth : Bandwidth} (supported : fields.channelWidth = some bandwidth)
      (tail : List UInt8) :
      RadiotapHeader (fields.bytes ++ tail) ⟨22, true, hasBit fields.txFlagsLow 3, fields.options bandwidth⟩

/-- the fixed part of a header: version, pad, length and present word -/
theorem eight_bytes {packet : List UInt8} (h : ¬ packet.length < radiotapMinLen) :
    ∃ version pad l0 l1 p0 p1 p2 p3 rest, packet = version :: pad :: l0 :: l1 :: p0 :: p1 :: p2 :: p3 :: rest := by
  have hlen : 8 ≤ packet.length := Nat.not_lt.1 h
  match packet with
  | version :: pad :: l0 :: l1 :: p0 :: p1 :: p2 :: p3 :: rest =>
    exact ⟨version, pad, l0, l1, p0, p1, p2, p3, rest, rfl⟩
  | [] | [_] | [_, _] | [_, _, _] | [_, _, _, _] | [_, _, _, _, _] | [_, _, _, _, _, _] | [_, _, _, _, _, _, _] =>
    simp at hlen

theorem parseWfbRadiotapTx_header {packet : List UInt8} {radiotap : ParsedRadiotapTx}
    (h : RadiotapHeader packet radiotap) : parseWfbRadiotapTx packet = .ok (.ok radiotap) := by
  cases h with
  | ht fields supported tail =>
    have hlen : (fields.bytes ++ tail).length = 13 + tail.length := List.length_append
    have hversion : index (fields.bytes ++ tail) 0 = .ok 0 := rfl
    have hheader : readLeU16 (fields.bytes ++ tail) 2 = .ok 13 := rfl
    have hpresent : readLeU32 (fields.bytes ++ tail) 4 = .ok wfbHtPresent := rfl
    rw [parseWfbRadiotapTx, if_neg (by rw [hlen, radiotapMinLen]; omega), hversion, checked_bind_ok,
      if_neg (not_not.2 rfl), hheader, checked_bind_ok, if_neg (by omega), hpresent, checked_bind_ok,
      if_pos ⟨rfl, rfl⟩, parseHt_fields, supported]
  | vht fields supported tail =>
    have hlen : (fields.bytes ++ tail).length = 22 + tail.length := List.length_append
    have hversion : index (fields.bytes ++ tail) 0 = .ok 0 := rfl
    have hheader : readLeU16 (fields.bytes ++ tail) 2 = .ok 22 := rfl
    have hpresent : readLeU32 (fields.bytes ++ tail) 4 = .ok wfbVhtPresent := rfl
    rw [parseWfbRadiotapTx, if_neg (by rw [hlen, radiotapMinLen]; omega), hversion, checked_bind_ok,
      if_neg (not_not.2 rfl), hheader, checked_bind_ok, if_neg (by omega), hpresent, checked_bind_ok,
      if_neg (by decide), if_pos ⟨rfl, rfl⟩, parseVht_fields, supported]

/-- what starts like a header with an MCS field, and is long enough -/
theorem ht_bytes (pad : UInt8) {l0 l1 p0 p1 p2 p3 : UInt8} {rest : List UInt8}
    (hlength : toLeU16 wfbHtRadiotapLen = [l0, l1]) (hword : toLeU32 wfbHtPresent = [p0, p1, p2, p3]) (hrest : 5 ≤ rest.length) :
    ∃ (fields : HtFields) (tail : List UInt8),
      0 :: pad :: l0 :: l1 :: p0 :: p1 :: p2 :: p3 :: rest = fields.bytes ++ tail := by
  rw [wfbHtPresent] at hword
  match rest with
  | txFlagsLow :: txFlagsHigh :: known :: flags :: mcs :: tail =>
    refine ⟨⟨pad, txFlagsLow, txFlagsHigh, known, flags, mcs⟩, tail, ?_⟩
    injection hlength with hl0 hlength
    injection hlength with hl1
    rw [HtFields.bytes, hword, ← hl0, ← hl1]
    rfl
  | [] | [_] | [_, _] | [_, _, _] | [_, _, _, _] => simp at hrest

theorem vht_bytes (pad : UInt8) {l0 l1 p0 p1 p2 p3 : UInt8} {rest : List UInt8}
    (hlength : toLeU16 wfbVhtRadiotapLen = [l0, l1]) (hword : toLeU32 wfbVhtPresent = [p0, p1, p2, p3]) (hrest : 14 ≤ rest.length) :
    ∃ (fields : VhtFields) (tail : List UInt8),
      0 :: pad :: l0 :: l1 :: p0 :: p1 :: p2 :: p3 :: rest = fields.bytes ++ tail := by
  rw [wfbVhtPresent] at hword
  match rest with
  | txFlagsLow :: txFlagsHigh :: knownLow :: knownHigh :: flags :: bandwidth :: mcsNss0 :: mcsNss1 :: mcsNss2 ::
      mcsNss3 :: coding :: groupId :: partialAidLow :: partialAidHigh :: tail =>
    refine ⟨⟨pad, txFlagsLow, txFlagsHigh, knownLow, knownHigh, flags, bandwidth, mcsNss0, mcsNss1, mcsNss2, mcsNss3,
      coding, groupId, partialAidLow, partialAidHigh⟩, tail, ?_⟩
    injection hlength with hl0 hlength
    injection hlength with hl1
    rw [VhtFields.bytes, hword, ← hl0, ← hl1]
    rfl
  | [] | [_] | [_, _] | [_, _, _] | [_, _, _, _] | [_, _, _, _, _] | [_, _, _, _, _, _] | [_, _, _, _, _, _, _]
  | [_, _, _, _, _, _, _, _] | [_, _, _, _, _, _, _, _, _] | [_, _, _, _, _, _, _, _, _, _]
  | [_, _, _, _, _, _, _, _, _, _, _] | [_, _, _, _, _, _, _, _, _, _, _, _] | [_, _, _, _, _, _, _, _, _, _, _, _, _] =>
    simp at hrest

theorem header_of_parseHt (fields : HtFields) (tail : List UInt8) {radiotap : ParsedRadiotapTx}
    (h : parseHt (fields.bytes ++ tail) = .ok (.ok radiotap)) : RadiotapHeader (fields.bytes ++ tail) radiotap := by
  rw [parseHt_fields] at h
  cases hwidth : fields.channelWidth with
  | none =>
    rw [hwidth] at h
    cases h
  | some bandwidth =>
    rw [hwidth] at h
    cases h
    exact .ht fields hwidth tail

theorem header_of_parseVht (fields : VhtFields) (tail : List UInt8) {radiotap : ParsedRadiotapTx}
    (h : parseVht (fields.bytes ++ tail) = .ok (.ok radiotap)) : RadiotapHeader (fields.bytes ++ tail) radiotap := by
  rw [parseVht_fields] at h
  cases hwidth : fields.channelWidth with
  | none =>
    rw [hwidth] at h
    cases h
  | some bandwidth =>
    rw [hwidth] at h
    cases h
    exact .vht fields hwidth tail

theorem header_of_parse {packet : List UInt8} {radiotap : ParsedRadiotapTx}
    (h : parseWfbRadiotapTx packet = .ok (.ok radiotap)) : RadiotapHeader packet radiotap := by
  rw [parseWfbRadiotapTx] at h
  split_ifs at h with hmin
  · exact absurd h return_error_ne
  obtain ⟨version, pad, l0, l1, p0, p1, p2, p3, rest, rfl⟩ := eight_bytes hmin
  obtain ⟨version', hversion, h⟩ := except_bind_ok h
  obtain rfl : version = version' := Except.ok.inj hversion
  split_ifs at h with hzero
  · exact absurd h return_error_ne
  obtain rfl : version = 0 := not_not.1 hzero
  obtain ⟨headerLen, hheader, h⟩ := except_bind_ok h
  obtain rfl : leU16 l0 l1 = headerLen := Except.ok.inj hheader
  split_ifs at h with hexceeds
  · exact absurd h return_error_ne
  obtain ⟨present, hpresent, h⟩ := except_bind_ok h
  obtain rfl : leU32 p0 p1 p2 p3 = present := Except.ok.inj hpresent
  have hlength := toLeU16_leU16 l0 l1
  have hword := toLeU32_leU32 p0 p1 p2 p3
  have hlen : leU16 l0 l1 ≤ rest.length + 8 := Nat.not_lt.1 hexceeds
  split_ifs at h with hht hvht
  · rw [hht.1] at hlength hlen
    rw [hht.2] at hword
    have hrest : 5 ≤ rest.length := by
      rw [wfbHtRadiotapLen] at hlen
      omega
    obtain ⟨fields, tail, hbytes⟩ := ht_bytes pad hlength hword hrest
    rw [hbytes] at h ⊢
    exact header_of_parseHt fields tail h
  · rw [hvht.1] at hlength hlen
    rw [hvht.2] at hword
    have hrest : 14 ≤ rest.length := by
      rw [wfbVhtRadiotapLen] at hlen
      omega
    obtain ⟨fields, tail, hbytes⟩ := vht_bytes pad hlength hword hrest
    rw [hbytes] at h ⊢
    exact header_of_parseVht fields tail h
  · exact absurd h return_error_ne

theorem parseWfbRadiotapTx_iff (packet : List UInt8) (radiotap : ParsedRadiotapTx) :
    parseWfbRadiotapTx packet = .ok (.ok radiotap) ↔ RadiotapHeader packet radiotap :=
  ⟨header_of_parse, parseWfbRadiotapTx_header⟩

/-! ## Datagrams -/

/-- an accepted header, as long as it says, and the frame behind it -/
theorem parseTxDatagram_header {m0 m1 m2 m3 : UInt8} {header frame : List UInt8} {radiotap : ParsedRadiotapTx}
    (hheader : RadiotapHeader (header ++ frame) radiotap) (hlen : header.length = radiotap.headerLen)
    (hmin : 8 ≤ header.length) (hframe : frame ≠ []) :
    parseTxDatagram ([m0, m1, m2, m3] ++ header ++ frame) =
      .ok (.ok ⟨beU32 m0 m1 m2 m3, radiotap.headerLen, radiotap.options, frame⟩) := by
  have hpos := List.length_pos_iff.2 hframe
  have hall : ([m0, m1, m2, m3] ++ header ++ frame).length = 4 + header.length + frame.length := by
    rw [List.length_append, List.length_append]
    rfl
  have hmark : readBeU32 ([m0, m1, m2, m3] ++ header ++ frame) 0 = .ok (beU32 m0 m1 m2 m3) := rfl
  have hradio : slice ([m0, m1, m2, m3] ++ header ++ frame) fwmarkLen ([m0, m1, m2, m3] ++ header ++ frame).length =
      .ok (header ++ frame) := by
    rw [slice_to_end (by rw [hall, fwmarkLen]; omega)]
    rfl
  have hsuffix : slice (header ++ frame) radiotap.headerLen (header ++ frame).length = .ok frame := by
    rw [slice_to_end (by rw [List.length_append]; omega), ← hlen, List.drop_left]
  have hmissing : (header ++ frame).length ≠ radiotap.headerLen := by
    rw [List.length_append]
    omega
  rw [parseTxDatagram, if_neg (by rw [hall, fwmarkLen]; omega), hmark, checked_bind_ok, hradio, checked_bind_ok,
    parseWfbRadiotapTx_header hheader, checked_bind_ok]
  dsimp only
  rw [if_neg hmissing, hsuffix]
  rfl

theorem parseTxDatagram_of_grammar {packet : List UInt8} {parsed : ParsedTxDatagram} (h : TxDatagram packet parsed) :
    parseTxDatagram packet = .ok (.ok parsed) := by
  cases h with
  | ht m0 m1 m2 m3 fields supported nonempty =>
    have hlen : fields.bytes.length = 13 := rfl
    exact parseTxDatagram_header (.ht fields supported _) hlen (by rw [hlen]; omega) nonempty
  | vht m0 m1 m2 m3 fields supported nonempty =>
    have hlen : fields.bytes.length = 22 := rfl
    exact parseTxDatagram_header (.vht fields supported _) hlen (by rw [hlen]; omega) nonempty

/-- what the parser accepts has a mark, a header that is accepted, and a frame -/
theorem parseTxDatagram_ok {packet : List UInt8} {parsed : ParsedTxDatagram}
    (h : parseTxDatagram packet = .ok (.ok parsed)) : ∃ m0 m1 m2 m3 radioPacket radiotap,
      packet = [m0, m1, m2, m3] ++ radioPacket ∧ RadiotapHeader radioPacket radiotap ∧
      radioPacket.length ≠ radiotap.headerLen ∧
      parsed = ⟨beU32 m0 m1 m2 m3, radiotap.headerLen, radiotap.options, radioPacket.drop radiotap.headerLen⟩ := by
  rw [parseTxDatagram] at h
  split_ifs at h with hmin
  · exact absurd h return_error_ne
  match packet with
  | m0 :: m1 :: m2 :: m3 :: radioPacket =>
    have hradio : slice (m0 :: m1 :: m2 :: m3 :: radioPacket) fwmarkLen (m0 :: m1 :: m2 :: m3 :: radioPacket).length =
        .ok radioPacket := by
      rw [slice_to_end (by rw [fwmarkLen, List.length_cons, List.length_cons, List.length_cons, List.length_cons]; omega)]
      rfl
    obtain ⟨fwmark, hmark, h⟩ := except_bind_ok h
    obtain rfl : beU32 m0 m1 m2 m3 = fwmark := Except.ok.inj hmark
    rw [hradio, checked_bind_ok] at h
    obtain ⟨result, hresult, h⟩ := except_bind_ok h
    cases result with
    | error error => exact absurd h return_error_ne
    | ok radiotap =>
      dsimp only at h
      split_ifs at h with hmissing
      · exact absurd h return_error_ne
      obtain ⟨hheader, hfits, -⟩ := (parseWfbRadiotapTx_total radioPacket).elim fun result' h' =>
        h'.2 radiotap (Except.ok.inj (h'.1.symm.trans hresult))
      rw [slice_to_end hfits] at h
      exact ⟨m0, m1, m2, m3, radioPacket, radiotap, rfl, header_of_parse hresult, hmissing,
        (Except.ok.inj (Except.ok.inj h)).symm⟩
  | [] | [_] | [_, _] | [_, _, _] => simp [fwmarkLen] at hmin

theorem grammar_of_parseTxDatagram {packet : List UInt8} {parsed : ParsedTxDatagram}
    (h : parseTxDatagram packet = .ok (.ok parsed)) : TxDatagram packet parsed := by
  obtain ⟨m0, m1, m2, m3, radioPacket, radiotap, rfl, hheader, hmissing, rfl⟩ := parseTxDatagram_ok h
  cases hheader with
  | ht fields supported tail =>
    have hlen : fields.bytes.length = 13 := rfl
    have hframe : (fields.bytes ++ tail).drop 13 = tail := by rw [← hlen, List.drop_left]
    have hne : tail ≠ [] := by
      rintro rfl
      exact hmissing (by rw [List.append_nil, hlen])
    dsimp only
    rw [hframe, ← List.append_assoc]
    exact .ht m0 m1 m2 m3 fields supported hne
  | vht fields supported tail =>
    have hlen : fields.bytes.length = 22 := rfl
    have hframe : (fields.bytes ++ tail).drop 22 = tail := by rw [← hlen, List.drop_left]
    have hne : tail ≠ [] := by
      rintro rfl
      exact hmissing (by rw [List.append_nil, hlen])
    dsimp only
    rw [hframe, ← List.append_assoc]
    exact .vht m0 m1 m2 m3 fields supported hne

/-- **The datagrams of the grammar.** The parser never reads out of range, accepts exactly the datagrams of the grammar,
and returns the mark, the options and the frame that are in them. -/
theorem parseTxDatagram_grammar (packet : List UInt8) : ∃ result, parseTxDatagram packet = .ok result ∧
    ∀ parsed, result = .ok parsed ↔ TxDatagram packet parsed := by
  obtain ⟨result, hresult, -⟩ := parseTxDatagram_total packet
  refine ⟨result, hresult, fun parsed => ⟨?_, fun h => ?_⟩⟩
  · rintro rfl
    exact grammar_of_parseTxDatagram hresult
  · exact Except.ok.inj (hresult.symm.trans (parseTxDatagram_of_grammar h))

end WfbLink.Bridge
