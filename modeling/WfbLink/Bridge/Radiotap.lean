/-
Radiotap headers of injected frames (`wfb-bridge/src/radiotap.rs`).

Only the two headers the WFB transmitter writes are accepted: 13 bytes with an MCS field, or 22 bytes with a VHT field.
`parseWfbRadiotapTx_total`: the parser reads nothing out of range, and the header it accepts is as long as its length
field says and no longer than the packet.
-/
import WfbLink.Core.Checked
import WfbLink.RadioCore.Rate

namespace WfbLink.Bridge

open WfbLink.Core WfbLink.RadioCore

def radiotapMinLen : ℕ := 8
def wfbHtRadiotapLen : ℕ := 13
def wfbVhtRadiotapLen : ℕ := 22
def wfbHtPresent : ℕ := 0x00088000
def wfbVhtPresent : ℕ := 0x00208000
def txFlagsOffset : ℕ := 8
def txFlagsNoAck : ℕ := 0x0008

def mcsKnownOffset : ℕ := 10
def mcsFlagsOffset : ℕ := 11
def mcsIndexOffset : ℕ := 12
def mcsHaveBw : UInt8 := 0x01
def mcsHaveMcs : UInt8 := 0x02
def mcsHaveGi : UInt8 := 0x04
def mcsHaveFec : UInt8 := 0x10
def mcsHaveStbc : UInt8 := 0x20
def mcsBwMask : UInt8 := 0x03
def mcsBw20 : UInt8 := 0x00
def mcsBw40 : UInt8 := 0x01
def mcsSgi : UInt8 := 0x04
def mcsFecLdpc : UInt8 := 0x10
def mcsStbcMask : UInt8 := 0x60

def vhtFlagsOffset : ℕ := 12
def vhtBwOffset : ℕ := 13
def vhtMcsnss0Offset : ℕ := 14
def vhtCodingOffset : ℕ := 18
def vhtFlagStbc : UInt8 := 0x01
def vhtFlagSgi : UInt8 := 0x04
def vhtBw20 : UInt8 := 0x00
def vhtBw40 : UInt8 := 0x01
def vhtBw80 : UInt8 := 0x04
def vhtCodingLdpcUser0 : UInt8 := 0x01

structure ParsedRadiotapTx where
  headerLen : ℕ
  isVht : Bool
  noAck : Bool
  options : TxOptions
deriving DecidableEq

inductive RadiotapError where
  | tooShort (minLen actualLen : ℕ)
  | unsupportedVersion (version : UInt8)
  | lengthExceedsPacket (headerLen packetLen : ℕ)
  | unsupportedPresentFlags (present : ℕ)
  | unsupportedHtBandwidth (bits : UInt8)
  | unsupportedVhtBandwidth (value : UInt8)
deriving DecidableEq, Repr

def RadiotapError.message : RadiotapError → String
  | .tooShort minLen actualLen => s!"radiotap header too short: expected at least {minLen}, got {actualLen}"
  | .unsupportedVersion version => s!"unsupported radiotap version {version}"
  | .lengthExceedsPacket headerLen packetLen => s!"radiotap length {headerLen} exceeds packet length {packetLen}"
  | .unsupportedPresentFlags present => s!"unsupported WFB radiotap present flags 0x{hexText 8 present}"
  | .unsupportedHtBandwidth bits => s!"unsupported HT bandwidth bits 0x{hexText 2 bits.toNat}"
  | .unsupportedVhtBandwidth value => s!"unsupported VHT bandwidth value 0x{hexText 2 value.toNat}"

/-- the HT bandwidth; 20 MHz where the header does not say -/
def htBandwidth (known flags : UInt8) : Except RadiotapError Bandwidth :=
  if known &&& mcsHaveBw ≠ 0 then
    if flags &&& mcsBwMask = mcsBw20 then .ok .mhz20
    else if flags &&& mcsBwMask = mcsBw40 then .ok .mhz40
    else .error (.unsupportedHtBandwidth (flags &&& mcsBwMask))
  else .ok .mhz20

def vhtBandwidth (value : UInt8) : Except RadiotapError Bandwidth :=
  if value = vhtBw20 then .ok .mhz20
  else if value = vhtBw40 then .ok .mhz40
  else if value = vhtBw80 then .ok .mhz80
  else .error (.unsupportedVhtBandwidth value)

def parseHt (packet : List UInt8) : Checked (Except RadiotapError ParsedRadiotapTx) := do
  let txFlags ← readLeU16 packet txFlagsOffset
  let known ← index packet mcsKnownOffset
  let flags ← index packet mcsFlagsOffset
  let mcs ← index packet mcsIndexOffset
  match htBandwidth known flags with
  | .error error => return .error error
  | .ok bw =>
    return .ok {
      headerLen := wfbHtRadiotapLen
      isVht := false
      noAck := txFlags &&& txFlagsNoAck != 0
      options := {
        rate := if known &&& mcsHaveMcs ≠ 0 then .mcs mcs else .ofdm6m
        bandwidth := bw
        channelBandwidth := none
        queue := .auto
        macId := 0
        rateId := none
        retries := 12
        hardwareSequence := true
        firstSegment := true
        disableRateFallback := true
        rateFallbackLimit := 0x1f
        aggregateBreak := true
        shortGi := known &&& mcsHaveGi != 0 && flags &&& mcsSgi != 0
        ldpc := known &&& mcsHaveFec != 0 && flags &&& mcsFecLdpc != 0
        stbc := known &&& mcsHaveStbc != 0 && flags &&& mcsStbcMask != 0
        protect := false
        noRetry := txFlags &&& txFlagsNoAck != 0 } }

def parseVht (packet : List UInt8) : Checked (Except RadiotapError ParsedRadiotapTx) := do
  let txFlags ← readLeU16 packet txFlagsOffset
  let flags ← index packet vhtFlagsOffset
  match vhtBandwidth (← index packet vhtBwOffset) with
  | .error error => return .error error
  | .ok bw =>
    let mcsNss ← index packet vhtMcsnss0Offset
    let coding ← index packet vhtCodingOffset
    return .ok {
      headerLen := wfbVhtRadiotapLen
      isVht := true
      noAck := txFlags &&& txFlagsNoAck != 0
      options := {
        rate := .vht ((mcsNss >>> 4) &&& 0x0f) (mcsNss &&& 0x0f)
        bandwidth := bw
        channelBandwidth := none
        queue := .auto
        macId := 0
        rateId := none
        retries := 12
        hardwareSequence := true
        firstSegment := true
        disableRateFallback := true
        rateFallbackLimit := 0x1f
        aggregateBreak := true
        shortGi := flags &&& vhtFlagSgi != 0
        ldpc := coding &&& vhtCodingLdpcUser0 != 0
        stbc := flags &&& vhtFlagStbc != 0
        protect := false
        noRetry := txFlags &&& txFlagsNoAck != 0 } }

def parseWfbRadiotapTx (packet : List UInt8) : Checked (Except RadiotapError ParsedRadiotapTx) :=
  if packet.length < radiotapMinLen then return .error (.tooShort radiotapMinLen packet.length)
  else do
    let version ← index packet 0
    if version ≠ 0 then return .error (.unsupportedVersion version)
    else
      let headerLen ← readLeU16 packet 2
      if headerLen > packet.length then return .error (.lengthExceedsPacket headerLen packet.length)
      else
        let present ← readLeU32 packet 4
        if headerLen = wfbHtRadiotapLen ∧ present = wfbHtPresent then parseHt packet
        else if headerLen = wfbVhtRadiotapLen ∧ present = wfbVhtPresent then parseVht packet
        else return .error (.unsupportedPresentFlags present)

/-! ## What is accepted -/

variable {packet : List UInt8}

theorem parseHt_total (h : wfbHtRadiotapLen ≤ packet.length) :
    ∃ result, parseHt packet = .ok result ∧ ∀ parsed, result = .ok parsed → parsed.headerLen = wfbHtRadiotapLen := by
  have hlen : 13 ≤ packet.length := h
  have hflags : txFlagsOffset + 2 ≤ packet.length := le_trans (by decide) hlen
  have hread : ∀ i, i < 13 → ∃ b, index packet i = .ok b := fun i hi => ⟨_, index_of_lt (by omega)⟩
  obtain ⟨known, hknown⟩ := hread mcsKnownOffset (by decide)
  obtain ⟨flags, hmflags⟩ := hread mcsFlagsOffset (by decide)
  obtain ⟨mcs, hmcs⟩ := hread mcsIndexOffset (by decide)
  rw [parseHt, readLeU16_ok hflags, checked_bind_ok, hknown, checked_bind_ok, hmflags, checked_bind_ok, hmcs,
    checked_bind_ok]
  cases htBandwidth known flags with
  | error error => exact ⟨_, rfl, forall_error⟩
  | ok bw => exact ⟨_, rfl, fun parsed hparsed => by rw [← Except.ok.inj hparsed]⟩

theorem parseVht_total (h : wfbVhtRadiotapLen ≤ packet.length) :
    ∃ result, parseVht packet = .ok result ∧ ∀ parsed, result = .ok parsed → parsed.headerLen = wfbVhtRadiotapLen := by
  have hlen : 22 ≤ packet.length := h
  have hflags : txFlagsOffset + 2 ≤ packet.length := le_trans (by decide) hlen
  have hread : ∀ i, i < 22 → ∃ b, index packet i = .ok b := fun i hi => ⟨_, index_of_lt (by omega)⟩
  obtain ⟨flags, hvflags⟩ := hread vhtFlagsOffset (by decide)
  obtain ⟨value, hvalue⟩ := hread vhtBwOffset (by decide)
  obtain ⟨mcsNss, hmcsNss⟩ := hread vhtMcsnss0Offset (by decide)
  obtain ⟨coding, hcoding⟩ := hread vhtCodingOffset (by decide)
  rw [parseVht, readLeU16_ok hflags, checked_bind_ok, hvflags, checked_bind_ok, hvalue, checked_bind_ok]
  cases vhtBandwidth value with
  | error error => exact ⟨_, rfl, forall_error⟩
  | ok bw =>
    dsimp only
    rw [hmcsNss, checked_bind_ok, hcoding]
    exact ⟨_, rfl, fun parsed hparsed => by rw [← Except.ok.inj hparsed]⟩

/-- **The parser is total**, and an accepted header has the length its length field says, within the packet. -/
theorem parseWfbRadiotapTx_total (packet : List UInt8) :
    ∃ result, parseWfbRadiotapTx packet = .ok result ∧ ∀ parsed, result = .ok parsed →
      readLeU16 packet 2 = .ok parsed.headerLen ∧ parsed.headerLen ≤ packet.length ∧ 13 ≤ parsed.headerLen := by
  unfold parseWfbRadiotapTx
  by_cases hmin : packet.length < radiotapMinLen
  · rw [if_pos hmin]
    exact ⟨_, rfl, forall_error⟩
  · have hlen : 8 ≤ packet.length := Nat.not_lt.1 hmin
    rw [if_neg hmin, index_of_lt (by omega), checked_bind_ok]
    split_ifs
    · exact ⟨_, rfl, forall_error⟩
    · obtain ⟨headerLen, hheader⟩ : ∃ headerLen, readLeU16 packet 2 = .ok headerLen := ⟨_, readLeU16_ok (by omega)⟩
      obtain ⟨present, hpresent⟩ : ∃ present, readLeU32 packet 4 = .ok present := ⟨_, readLeU32_ok (by omega)⟩
      rw [hheader, checked_bind_ok]
      split_ifs with hexceeds
      · exact ⟨_, rfl, forall_error⟩
      · have hfits : headerLen ≤ packet.length := Nat.not_lt.1 hexceeds
        rw [hpresent, checked_bind_ok]
        split_ifs with hht hvht
        · obtain ⟨result, hresult, hparsed⟩ := @parseHt_total packet (hht.1 ▸ hfits)
          refine ⟨result, hresult, fun parsed h => ?_⟩
          rw [hparsed parsed h, ← hht.1]
          exact ⟨rfl, hfits, hht.1.ge⟩
        · obtain ⟨result, hresult, hparsed⟩ := @parseVht_total packet (hvht.1 ▸ hfits)
          refine ⟨result, hresult, fun parsed h => ?_⟩
          rw [hparsed parsed h, ← hvht.1]
          exact ⟨rfl, hfits, le_trans (by decide) hvht.1.ge⟩
        · exact ⟨_, rfl, forall_error⟩

end WfbLink.Bridge
