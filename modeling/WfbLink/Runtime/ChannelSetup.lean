/-
Setting the channel (`wfb-radio-runtime/src/lib.rs`): the band, the frequency, the bandwidth, and the registers that were
captured for channel 36.

- `performs_channel`: what the sequence writes, and what it has found when it returns.
- `channel_registers`: the registers after it.
-/
import WfbLink.Runtime.ChannelPlan
import WfbLink.Runtime.IqkOneShot
import WfbLink.Runtime.IqkPlan
import WfbLink.Runtime.LckCalibration
import WfbLink.Runtime.RadioFrame
import WfbLink.Runtime.RfTable
import WfbLink.Runtime.TablePlan

namespace WfbLink.Runtime

open WfbLink.Core WfbLink.RadioCore

/-! ## Constants -/

def regTxpktEmpty : UInt16 := 0x041a
def regCckCheck8812 : UInt16 := 0x0454
def regDataSc8812 : UInt16 := 0x0483
def regWmacTrxptclCtl : UInt16 := 0x0668
def regTxPathJaguar : UInt16 := 0x080c
def regPwedThJaguar : UInt16 := 0x0830
def regBwIndicationJaguar : UInt16 := 0x0834
def regL1PeakThJaguar : UInt16 := 0x0848
def regFcAreaJaguar : UInt16 := 0x0860
def regRfModJaguar : UInt16 := 0x08ac
def regAdcBufClkJaguar : UInt16 := 0x08c4
def regAntselSwJaguar : UInt16 := 0x0900
def regCckSystemJaguar : UInt16 := 0x0a00
def regTxScaleAJaguar : UInt16 := 0x0c1c
def regTxScaleBJaguar : UInt16 := 0x0e1c
def regTxAgcACckJaguar : UInt16 := 0x0c20
def regTxAgcAOfdm18Ofdm6Jaguar : UInt16 := 0x0c24
def regTxAgcAOfdm54Ofdm24Jaguar : UInt16 := 0x0c28
def regTxAgcAMcs3Mcs0Jaguar : UInt16 := 0x0c2c
def regTxAgcAMcs7Mcs4Jaguar : UInt16 := 0x0c30
def regTxAgcANss17Nss14Jaguar : UInt16 := 0x0c34
def regTxAgcANss111Nss18Jaguar : UInt16 := 0x0c38
def regTxAgcANss13Nss10Jaguar : UInt16 := 0x0c3c
def regTxAgcANss23Nss20Jaguar : UInt16 := 0x0c40
def regTxAgcANss27Nss24Jaguar : UInt16 := 0x0c44
def regTxAgcANss211Nss28Jaguar : UInt16 := 0x0c48
def regTxAgcANss33Nss30Jaguar : UInt16 := 0x0c4c
def regTxPwrOffsetAJaguar : UInt16 := 0x0c50
def regTxPwrTrainAJaguar : UInt16 := 0x0c54
def regTxAgcBCckJaguar : UInt16 := 0x0e20
def regTxAgcBOfdm18Ofdm6Jaguar : UInt16 := 0x0e24
def regTxAgcBOfdm54Ofdm24Jaguar : UInt16 := 0x0e28
def regTxAgcBMcs3Mcs0Jaguar : UInt16 := 0x0e2c
def regTxAgcBMcs7Mcs4Jaguar : UInt16 := 0x0e30
def regTxAgcBNss17Nss14Jaguar : UInt16 := 0x0e34
def regTxAgcBNss111Nss18Jaguar : UInt16 := 0x0e38
def regTxAgcBNss13Nss10Jaguar : UInt16 := 0x0e3c
def regTxAgcBNss23Nss20Jaguar : UInt16 := 0x0e40
def regTxAgcBNss27Nss24Jaguar : UInt16 := 0x0e44
def regTxAgcBNss211Nss28Jaguar : UInt16 := 0x0e48
def regTxAgcBNss33Nss30Jaguar : UInt16 := 0x0e4c
def regTxPwrOffsetBJaguar : UInt16 := 0x0e50
def regTxPwrTrainBJaguar : UInt16 := 0x0e54

def basicRate2g : UInt16 := 0x015f
def basicRate5g : UInt16 := 0x0150
def rfChnlbwModAgMask : UInt32 := 0x00070300
def rfChnlbwBwMask : UInt32 := 0x00000c00
def rfChnlbwChannelMask : UInt32 := 0x000000ff

/-! ## Data of a channel -/

/-- the ranges are tried from the top -/
def productionFcAreaData (channel : UInt8) : UInt32 :=
  if 36 ≤ channel ∧ channel ≤ 48 then 0x494
  else if 15 ≤ channel ∧ channel ≤ 35 then 0x494
  else if 50 ≤ channel ∧ channel ≤ 80 then 0x453
  else if 82 ≤ channel ∧ channel ≤ 116 then 0x452
  else if 118 ≤ channel then 0x412
  else 0x96a

def productionRfModAgData (channel : UInt8) : UInt32 :=
  if 36 ≤ channel ∧ channel ≤ 80 then 0x101
  else if 15 ≤ channel ∧ channel ≤ 35 then 0x101
  else if 82 ≤ channel ∧ channel ≤ 140 then 0x301
  else if 141 ≤ channel then 0x501
  else 0x000

/-- the data of the last write to an RF register in a table -/
def lastRfWrite (rfOffset : UInt32) (actions : List RealtekTableAction) : Option UInt32 :=
  actions.foldl (fun data action =>
    if action.kind = .write ∧ action.address = rfOffset then action.data else data) none

def productionLastRfRegisterData (plan : RealtekTablePlan) (rfOffset : UInt32) : Except RuntimeRadioError UInt32 :=
  match lastRfWrite rfOffset plan.actions with
  | some data => .ok data
  | none => .error (.new "rf_channel_base_missing"
      s!"{plan.arrayName} did not contain a final RF register 0x{hexText 2 rfOffset.toNat} write to use as channel base")

structure ProductionRfeRegConfig where
  pinmux : UInt32
  invMask : UInt32
  inv : UInt32
  antsel : Option UInt32
deriving DecidableEq, Repr

def productionRfeRegConfig8812 (band : Band) (rfeType : UInt8) : Except RuntimeRadioError ProductionRfeRegConfig :=
  match band, rfeType with
  | .ghz2, 0 | .ghz2, 1 | .ghz2, 2 => .ok ⟨0x77777777, 0x3ff00000, 0x000, none⟩
  | .ghz2, 3 => .ok ⟨0x54337770, 0x3ff00000, 0x010, some 0x1⟩
  | .ghz2, 4 => .ok ⟨0x77777777, 0x3ff00000, 0x001, none⟩
  | .ghz2, 6 => .ok ⟨0x07772770, 0xffffffff, 0x00000077, none⟩
  | .ghz5, 0 => .ok ⟨0x77337717, 0x3ff00000, 0x010, none⟩
  | .ghz5, 1 => .ok ⟨0x77337717, 0x3ff00000, 0x000, none⟩
  | .ghz5, 2 | .ghz5, 4 => .ok ⟨0x77337777, 0x3ff00000, 0x010, none⟩
  | .ghz5, 3 => .ok ⟨0x54337717, 0x3ff00000, 0x010, some 0x1⟩
  | .ghz5, 6 => .ok ⟨0x07737717, 0xffffffff, 0x00000077, none⟩
  | _, 5 => .error (.new "unsupported_rfe_type"
      "RFE type 5 needs byte-level partial pinmux writes that are not ported yet")
  | _, rfeType => .error (.new "unsupported_rfe_type"
      s!"RFE type {rfeType} is not supported by the RTL8812A channel path")

/-! ## The captured registers -/

def productionShouldApplyCapturedTxBringupTail (channel : Channel) (bandwidth : Bandwidth) : Bool :=
  channel.number = 36 && (bandwidth = .mhz20 || bandwidth = .mhz40)

def productionCapturedTxBringupTail20mhz : List (String × UInt16 × UInt32) :=
  [("rA_TxScale_Jaguar", regTxScaleAJaguar, 0x2d400003), ("rB_TxScale_Jaguar", regTxScaleBJaguar, 0x2d400003),
    ("rA_RFE_Pinmux_Jaguar", regRfePinmuxAJaguar, 0x54337717),
    ("rB_RFE_Pinmux_Jaguar", regRfePinmuxBJaguar, 0x54337717), ("rA_RFE_Inv_Jaguar", regRfeInvAJaguar, 0x01000077),
    ("rB_RFE_Inv_Jaguar", regRfeInvBJaguar, 0x01000077), ("rA_RFE_Timing_Jaguar", regRfeTimingAJaguar, 0x00508242),
    ("rB_RFE_Timing_Jaguar", regRfeTimingBJaguar, 0x00508242),
    ("rA_IQK_Result_Jaguar", regOfdm0Xbagccore1, 0x30000c1c),
    ("rB_IQK_Result_Jaguar", regOfdm0Xbagccore1 + 0x200, 0x30000c1c),
    ("rA_IQK_Shadow_Jaguar", regOfdm0Xbagccore1 + 4, 0x00000058),
    ("rB_IQK_Shadow_Jaguar", regOfdm0Xbagccore1 + 0x204, 0x00000058),
    ("rA_TxAGC_CCK", regTxAgcACckJaguar, 0x15151515),
    ("rA_TxAGC_OFDM18_OFDM6", regTxAgcAOfdm18Ofdm6Jaguar, 0x27272727),
    ("rA_TxAGC_OFDM54_OFDM24", regTxAgcAOfdm54Ofdm24Jaguar, 0x27272727),
    ("rA_TxAGC_MCS3_MCS0", regTxAgcAMcs3Mcs0Jaguar, 0x28282828),
    ("rA_TxAGC_MCS7_MCS4", regTxAgcAMcs7Mcs4Jaguar, 0x28282828),
    ("rA_TxAGC_NSS1_7_NSS1_4", regTxAgcANss17Nss14Jaguar, 0x26262626),
    ("rA_TxAGC_NSS1_11_NSS1_8", regTxAgcANss111Nss18Jaguar, 0x26262626),
    ("rA_TxAGC_NSS1_3_NSS1_0", regTxAgcANss13Nss10Jaguar, 0x28282828),
    ("rA_TxAGC_NSS2_3_NSS2_0", regTxAgcANss23Nss20Jaguar, 0x28282828),
    ("rA_TxAGC_NSS2_7_NSS2_4", regTxAgcANss27Nss24Jaguar, 0x26262828),
    ("rA_TxAGC_NSS2_11_NSS2_8", regTxAgcANss211Nss28Jaguar, 0x26262626),
    ("rA_TxAGC_NSS3_3_NSS3_0", regTxAgcANss33Nss30Jaguar, 0x26262626),
    ("rA_TxPowerOffset", regTxPwrOffsetAJaguar, 0x0000001e),
    ("rA_TxPowerTraining", regTxPwrTrainAJaguar, 0x0010161e), ("rA_TxBbCtrl", regTxBbCtrlAJaguar, 0x01817d24),
    ("rB_TxAGC_CCK", regTxAgcBCckJaguar, 0x18181818),
    ("rB_TxAGC_OFDM18_OFDM6", regTxAgcBOfdm18Ofdm6Jaguar, 0x28282828),
    ("rB_TxAGC_OFDM54_OFDM24", regTxAgcBOfdm54Ofdm24Jaguar, 0x28282828),
    ("rB_TxAGC_MCS3_MCS0", regTxAgcBMcs3Mcs0Jaguar, 0x2a2a2a2a),
    ("rB_TxAGC_MCS7_MCS4", regTxAgcBMcs7Mcs4Jaguar, 0x2a2a2a2a),
    ("rB_TxAGC_NSS1_7_NSS1_4", regTxAgcBNss17Nss14Jaguar, 0x28282828),
    ("rB_TxAGC_NSS1_11_NSS1_8", regTxAgcBNss111Nss18Jaguar, 0x28282828),
    ("rB_TxAGC_NSS1_3_NSS1_0", regTxAgcBNss13Nss10Jaguar, 0x2a2a2a2a),
    ("rB_TxAGC_NSS2_3_NSS2_0", regTxAgcBNss23Nss20Jaguar, 0x2a2a2a2a),
    ("rB_TxAGC_NSS2_7_NSS2_4", regTxAgcBNss27Nss24Jaguar, 0x28282a2a),
    ("rB_TxAGC_NSS2_11_NSS2_8", regTxAgcBNss211Nss28Jaguar, 0x28282828),
    ("rB_TxAGC_NSS3_3_NSS3_0", regTxAgcBNss33Nss30Jaguar, 0x28282828),
    ("rB_TxPowerOffset", regTxPwrOffsetBJaguar, 0x0000001e),
    ("rB_TxPowerTraining", regTxPwrTrainBJaguar, 0x00121820), ("rB_TxBbCtrl", regTxBbCtrlBJaguar, 0x01817d24)]

def productionCapturedTxBringupTail40mhz : List (String × UInt16 × UInt32) :=
  [("rA_TxScale_Jaguar", regTxScaleAJaguar, 0x35e00003), ("rB_TxScale_Jaguar", regTxScaleBJaguar, 0x35e00003),
    ("rA_RFE_Pinmux_Jaguar", regRfePinmuxAJaguar, 0x54337717),
    ("rB_RFE_Pinmux_Jaguar", regRfePinmuxBJaguar, 0x54337717), ("rA_RFE_Inv_Jaguar", regRfeInvAJaguar, 0x01000077),
    ("rB_RFE_Inv_Jaguar", regRfeInvBJaguar, 0x01000077), ("rA_RFE_Timing_Jaguar", regRfeTimingAJaguar, 0x00508242),
    ("rB_RFE_Timing_Jaguar", regRfeTimingBJaguar, 0x00508242),
    ("rA_IQK_Result_Jaguar", regOfdm0Xbagccore1, 0x30000c1c),
    ("rB_IQK_Result_Jaguar", regOfdm0Xbagccore1 + 0x200, 0x30000c1c),
    ("rA_IQK_Shadow_Jaguar", regOfdm0Xbagccore1 + 4, 0x00000058),
    ("rB_IQK_Shadow_Jaguar", regOfdm0Xbagccore1 + 0x204, 0x00000058),
    ("rA_TxAGC_CCK", regTxAgcACckJaguar, 0x15151515),
    ("rA_TxAGC_OFDM18_OFDM6", regTxAgcAOfdm18Ofdm6Jaguar, 0x27272727),
    ("rA_TxAGC_OFDM54_OFDM24", regTxAgcAOfdm54Ofdm24Jaguar, 0x27272727),
    ("rA_TxAGC_MCS3_MCS0", regTxAgcAMcs3Mcs0Jaguar, 0x29292929),
    ("rA_TxAGC_MCS7_MCS4", regTxAgcAMcs7Mcs4Jaguar, 0x29292929),
    ("rA_TxAGC_NSS1_7_NSS1_4", regTxAgcANss17Nss14Jaguar, 0x27272727),
    ("rA_TxAGC_NSS1_11_NSS1_8", regTxAgcANss111Nss18Jaguar, 0x27272727),
    ("rA_TxAGC_NSS1_3_NSS1_0", regTxAgcANss13Nss10Jaguar, 0x29292929),
    ("rA_TxAGC_NSS2_3_NSS2_0", regTxAgcANss23Nss20Jaguar, 0x29292929),
    ("rA_TxAGC_NSS2_7_NSS2_4", regTxAgcANss27Nss24Jaguar, 0x27272929),
    ("rA_TxAGC_NSS2_11_NSS2_8", regTxAgcANss211Nss28Jaguar, 0x27272727),
    ("rA_TxAGC_NSS3_3_NSS3_0", regTxAgcANss33Nss30Jaguar, 0x27272727),
    ("rA_TxPowerOffset", regTxPwrOffsetAJaguar, 0x0000001c),
    ("rA_TxPowerTraining", regTxPwrTrainAJaguar, 0x0011171f), ("rA_TxBbCtrl", regTxBbCtrlAJaguar, 0x04238500),
    ("rB_TxAGC_CCK", regTxAgcBCckJaguar, 0x18181818),
    ("rB_TxAGC_OFDM18_OFDM6", regTxAgcBOfdm18Ofdm6Jaguar, 0x28282828),
    ("rB_TxAGC_OFDM54_OFDM24", regTxAgcBOfdm54Ofdm24Jaguar, 0x28282828),
    ("rB_TxAGC_MCS3_MCS0", regTxAgcBMcs3Mcs0Jaguar, 0x2b2b2b2b),
    ("rB_TxAGC_MCS7_MCS4", regTxAgcBMcs7Mcs4Jaguar, 0x2b2b2b2b),
    ("rB_TxAGC_NSS1_7_NSS1_4", regTxAgcBNss17Nss14Jaguar, 0x29292929),
    ("rB_TxAGC_NSS1_11_NSS1_8", regTxAgcBNss111Nss18Jaguar, 0x29292929),
    ("rB_TxAGC_NSS1_3_NSS1_0", regTxAgcBNss13Nss10Jaguar, 0x2b2b2b2b),
    ("rB_TxAGC_NSS2_3_NSS2_0", regTxAgcBNss23Nss20Jaguar, 0x2b2b2b2b),
    ("rB_TxAGC_NSS2_7_NSS2_4", regTxAgcBNss27Nss24Jaguar, 0x29292b2b),
    ("rB_TxAGC_NSS2_11_NSS2_8", regTxAgcBNss211Nss28Jaguar, 0x29292929),
    ("rB_TxAGC_NSS3_3_NSS3_0", regTxAgcBNss33Nss30Jaguar, 0x29292929),
    ("rB_TxPowerOffset", regTxPwrOffsetBJaguar, 0x0000001c),
    ("rB_TxPowerTraining", regTxPwrTrainBJaguar, 0x00131921), ("rB_TxBbCtrl", regTxBbCtrlBJaguar, 0x01817526)]

def productionCapturedTxBringupTail : Bandwidth → Except RuntimeRadioError (List (String × UInt16 × UInt32))
  | .mhz20 => .ok productionCapturedTxBringupTail20mhz
  | .mhz40 => .ok productionCapturedTxBringupTail40mhz
  | .mhz80 => .error (.new "captured_tx_bringup_tail_unsupported"
      "captured TX bring-up tail is only available for 20 and 40 MHz")

/-! ## The sequence -/

section Sequence

variable (registers : Rtl8812auRegisterAccess)

def productionSetRfeReg8812 (band : Band) (rfeType : UInt8) : RegisterAction Unit := do
  let config ← RegisterAction.ofExcept (productionRfeRegConfig8812 band rfeType)
  [("rA_RFE_Pinmux_Jaguar", regRfePinmuxAJaguar), ("rB_RFE_Pinmux_Jaguar", regRfePinmuxBJaguar)].forM fun register =>
    productionBbMaskedWrite32 registers register.1 register.2 0xffffffff config.pinmux "band-switch"
  [("rA_RFE_Inv_Jaguar", regRfeInvAJaguar), ("rB_RFE_Inv_Jaguar", regRfeInvBJaguar)].forM fun register =>
    productionBbMaskedWrite32 registers register.1 register.2 config.invMask config.inv "band-switch"
  match config.antsel with
  | some antsel =>
    productionBbMaskedWrite32 registers "r_ANTSEL_SW_Jaguar" regAntselSwJaguar 0x00000303 antsel "band-switch"
  | none => return ()

def productionSetPwedThresholds (pdTh20m : UInt32) : RegisterAction Unit := do
  productionBbMaskedWrite32 registers "rPwed_TH_Jaguar" regPwedThJaguar 0x0003e000 pdTh20m "band-switch"
  productionBbMaskedWrite32 registers "rPwed_TH_Jaguar" regPwedThJaguar 0x0000000e 0x04 "band-switch"

def productionSetBasicRate (rateMask : UInt16) : RegisterAction Unit := do
  productionWrite16Verify registers "REG_RRSR" regRrsr rateMask 0xffff rateMask "band-switch"
  productionRmw8Preserve registers "REG_RRSR + 2" (regRrsr + 2) 0xf0 0x0f 0 "band-switch"

def productionSetBbSwingDefault : RegisterAction Unit :=
  [("rA_TxScale_Jaguar", regTxScaleAJaguar), ("rB_TxScale_Jaguar", regTxScaleBJaguar)].forM fun register =>
    productionBbMaskedWrite32 registers register.1 register.2 0xffe00000 0x200 "band-switch"

/-- the waits between two reads are left out -/
def productionPollTxPacketEmpty : RegisterAction Unit := do
  let _ ← pollReads (read16WithCounter registers regTxpktEmpty "REG_TXPKT_EMPTY" "band-switch")
    (fun observed => observed &&& 0x0030 = 0x0030)
    (fun observed => .new "tx_packet_empty_poll_failed"
      s!"REG_TXPKT_EMPTY did not report mask 0x0030 after 50 reads, got {formatRegisterValue observed.toNat 4}") 50 0 0
  return ()

def productionSwitchTo2gBand (rfeType : UInt8) : RegisterAction Unit := do
  productionBbMaskedWrite32 registers "rOFDMCCKEN_Jaguar" regOfdmcckenJaguar 0x30000000 0x03 "band-switch"
  productionBbMaskedWrite32 registers "rBWIndication_Jaguar" regBwIndicationJaguar 0x00000003 0x01 "band-switch"
  productionSetPwedThresholds registers 0x17
  productionBbMaskedWrite32 registers "rAGC_table_Jaguar" regAgcTableJaguar 0x00000003 0x00 "band-switch"
  productionSetRfeReg8812 registers .ghz2 rfeType
  productionBbMaskedWrite32 registers "rTxPath_Jaguar" regTxPathJaguar 0x000000f0 0x01 "band-switch"
  productionBbMaskedWrite32 registers "rCCK_RX_Jaguar" regCckRxJaguar 0x0f000000 0x01 "band-switch"
  productionSetBasicRate registers basicRate2g
  productionRmw8Preserve registers "REG_CCK_CHECK_8812" regCckCheck8812 (~~~bit7) bit7 0 "band-switch"
  productionSetBbSwingDefault registers

def productionSwitchTo5gBand (rfeType : UInt8) : RegisterAction Unit := do
  productionRmw8Preserve registers "REG_CCK_CHECK_8812" regCckCheck8812 (~~~bit7) bit7 bit7 "band-switch"
  productionPollTxPacketEmpty registers
  productionBbMaskedWrite32 registers "rOFDMCCKEN_Jaguar" regOfdmcckenJaguar 0x30000000 0x03 "band-switch"
  productionBbMaskedWrite32 registers "rBWIndication_Jaguar" regBwIndicationJaguar 0x00000003 0x02 "band-switch"
  productionSetPwedThresholds registers 0x15
  productionBbMaskedWrite32 registers "rAGC_table_Jaguar" regAgcTableJaguar 0x00000003 0x01 "band-switch"
  productionSetRfeReg8812 registers .ghz5 rfeType
  productionBbMaskedWrite32 registers "rTxPath_Jaguar" regTxPathJaguar 0x000000f0 0x00 "band-switch"
  productionBbMaskedWrite32 registers "rCCK_RX_Jaguar" regCckRxJaguar 0x0f000000 0x0f "band-switch"
  productionSetBasicRate registers basicRate5g
  productionSetBbSwingDefault registers

/-- the band that `REG_CCK_CHECK_8812` says -/
def bandOf (cckCheck : UInt8) : Band := if cckCheck &&& bit7 ≠ 0 then .ghz5 else .ghz2

def productionSwitchWirelessBand8812 (targetBand : Band) (rfeType : UInt8) : RegisterAction Unit := do
  let cckCheck ← read8WithCounter registers regCckCheck8812 "REG_CCK_CHECK_8812" "band-switch"
  if bandOf cckCheck = targetBand then productionSetRfeReg8812 registers targetBand rfeType
  else
    match targetBand with
    | .ghz2 => productionSwitchTo2gBand registers rfeType
    | .ghz5 => productionSwitchTo5gBand registers rfeType

def spurData (channelNumber : UInt8) (bandwidth : Bandwidth) : UInt32 :=
  if bandwidth = .mhz20 ∧ (channelNumber = 13 ∨ channelNumber = 14) then 0x03 else 0x02

def productionFixSpur8812a (channelNumber : UInt8) (bandwidth : Bandwidth) : RegisterAction Unit :=
  if channelNumber > 14 then return ()
  else productionBbMaskedWrite32 registers "rRFMOD_Jaguar" regRfModJaguar 0x00000300 (spurData channelNumber bandwidth) "spur"

def productionApplyCapturedTxBringupTail (bandwidth : Bandwidth) : RegisterAction Unit := do
  let tail ← RegisterAction.ofExcept (productionCapturedTxBringupTail bandwidth)
  tail.forM fun write =>
    productionWrite32Verify registers write.1 write.2.1 write.2.2 0xffffffff write.2.2 "tx-bringup-tail"

def wmacBandwidthBits : Bandwidth → UInt16
  | .mhz20 => 0x0000
  | .mhz40 => 0x0080
  | .mhz80 => 0x0100

def rfModeData : Bandwidth → UInt32
  | .mhz20 => 0x00300200
  | .mhz40 => 0x00300201
  | .mhz80 => 0x00300202

def l1Peak (bwIndication : UInt8) : Bandwidth → UInt32
  | .mhz20 => 7
  | .mhz40 => if bwIndication &&& bit2 ≠ 0 then 6 else 7
  | .mhz80 => if bwIndication &&& bit2 ≠ 0 then 5 else 6

def rfBandwidthBits : Bandwidth → UInt32
  | .mhz20 => 3
  | .mhz40 => 1
  | .mhz80 => 0

/-- `RF_CHNLBW` as the three steps leave it: the band of the frequency, the channel, the bandwidth -/
def chnlbwModAg (base : UInt32) (number : UInt8) : UInt32 :=
  applyRfMask base rfChnlbwModAgMask (productionRfModAgData number)

def chnlbwChannel (base : UInt32) (number : UInt8) : UInt32 :=
  applyRfMask (chnlbwModAg base number) rfChnlbwChannelMask number.toUInt32

def chnlbwBandwidth (base : UInt32) (number : UInt8) (bandwidth : Bandwidth) : UInt32 :=
  applyRfMask (chnlbwChannel base number) rfChnlbwBwMask (rfBandwidthBits bandwidth)

/-- one write of `RF_CHNLBW` -/
def writeChnlbw (path : Rtl8812auRfPath) (value : UInt32) : RegisterAction Unit := do
  let _ ← rfSerialWriteSinglePath registers path rfChnlbwJaguar value
  return ()

/-- the frequency on one path -/
def tunePath (path : Rtl8812auRfPath) (base : UInt32) (number : UInt8) (bandwidth : Bandwidth) : RegisterAction Unit := do
  writeChnlbw registers path (chnlbwModAg base number)
  productionFixSpur8812a registers number bandwidth
  writeChnlbw registers path (chnlbwChannel base number)

/-- the frequency on both paths -/
def setFrequency (rfPathA rfPathB : UInt32) (number : UInt8) (bandwidth : Bandwidth) : RegisterAction Unit := do
  productionBbMaskedWrite32 registers "rOFDMCCKEN_Jaguar" regOfdmcckenJaguar 0x30000000 0x03 "band-switch"
  productionBbMaskedWrite32 registers "rFc_area_Jaguar" regFcAreaJaguar 0x1ffe0000 (productionFcAreaData number) "channel"
  tunePath registers .a rfPathA number bandwidth
  tunePath registers .b rfPathB number bandwidth

/-- where the secondary channel goes, if there is one -/
def setSecondaryChannel (bandwidth : Bandwidth) (dataSc : UInt8) : RegisterAction Unit :=
  if bandwidth = .mhz40 ∨ bandwidth = .mhz80 then do
    productionBbMaskedWrite32 registers "rRFMOD_Jaguar" regRfModJaguar 0x0000003c dataSc.toUInt32 "bandwidth"
    productionBbMaskedWrite32 registers "rCCAonSec_Jaguar" regCcaOnSecJaguar 0xf0000000 dataSc.toUInt32 "bandwidth"
  else return ()

def setCckSystem (bandwidth : Bandwidth) (dataSc : UInt8) : RegisterAction Unit :=
  if bandwidth = .mhz40 then
    productionBbMaskedWrite32 registers "rCCK_System_Jaguar" regCckSystemJaguar 0x10
      (if dataSc = vhtDataSc20UpperOf80mhz then 1 else 0) "bandwidth"
  else return ()

/-- the registers of the bandwidth -/
def setBandwidthRegisters (bandwidth : Bandwidth) (dataSc : UInt8) : RegisterAction Unit := do
  productionRmw16Preserve registers "REG_WMAC_TRXPTCL_CTL" regWmacTrxptclCtl 0xfe7f 0x0180 (wmacBandwidthBits bandwidth)
    "bandwidth"
  productionWrite8Verify registers "REG_DATA_SC_8812" regDataSc8812 dataSc 0xff dataSc "bandwidth"
  let bwIndication ← read8WithCounter registers (regBwIndicationJaguar + 3) "rBWIndication_Jaguar + 3" "bandwidth"
  productionBbMaskedWrite32 registers "rRFMOD_Jaguar" regRfModJaguar 0x003003c3 (rfModeData bandwidth) "bandwidth"
  productionBbMaskedWrite32 registers "rADC_Buf_Clk_Jaguar" regAdcBufClkJaguar ((1 : UInt32) <<< 30)
    (if bandwidth = .mhz80 then 1 else 0) "bandwidth"
  setSecondaryChannel registers bandwidth dataSc
  productionBbMaskedWrite32 registers "rL1PeakTH_Jaguar" regL1PeakThJaguar 0x03c00000 (l1Peak bwIndication bandwidth)
    "bandwidth"
  setCckSystem registers bandwidth dataSc

/-- the captured registers, on the channel they were captured for -/
def applyCapturedTail (channel : Channel) (bandwidth : Bandwidth) : RegisterAction Unit :=
  if productionShouldApplyCapturedTxBringupTail channel bandwidth then
    productionApplyCapturedTxBringupTail registers bandwidth
  else return ()

def productionChannelSequence (channel : Channel) (bandwidth : Bandwidth) (rfeType : UInt8)
    (radioaPlan radiobPlan : RealtekTablePlan) : RegisterAction ℕ := do
  let beforeWrites ← RegisterAction.counters
  let number ← RegisterAction.ofExcept (productionChannelProgrammingNumber channel bandwidth)
  let dataSc ← RegisterAction.ofExcept (productionDataSecondaryChannelSetting channel bandwidth)
  productionRfPreflight registers
  let rfPathA ← RegisterAction.ofExcept (productionLastRfRegisterData radioaPlan rfChnlbwJaguar)
  let rfPathB ← RegisterAction.ofExcept (productionLastRfRegisterData radiobPlan rfChnlbwJaguar)
  productionSwitchWirelessBand8812 registers channel.band rfeType
  setFrequency registers rfPathA rfPathB number bandwidth
  setBandwidthRegisters registers bandwidth dataSc
  productionFixSpur8812a registers number bandwidth
  writeChnlbw registers .a (chnlbwBandwidth rfPathA number bandwidth)
  writeChnlbw registers .b (chnlbwBandwidth rfPathB number bandwidth)
  applyCapturedTail registers channel bandwidth
  writesSince beforeWrites

end Sequence

/-! ## Steps -/

/-- a field of a word of the baseband, written and found -/
def bbStep (address : UInt16) (bitmask data : UInt32) : RegisterStep :=
  setField address 4 bitmask.toNat (shifted bitmask data).toNat

def rfeSteps (config : ProductionRfeRegConfig) : List RegisterStep :=
  [bbStep regRfePinmuxAJaguar 0xffffffff config.pinmux, bbStep regRfePinmuxBJaguar 0xffffffff config.pinmux,
    bbStep regRfeInvAJaguar config.invMask config.inv, bbStep regRfeInvBJaguar config.invMask config.inv] ++
    config.antsel.toList.map (bbStep regAntselSwJaguar 0x00000303)

/-- an RFE type that is not supported ends the run -/
def setRfeSteps (band : Band) (rfeType : UInt8) : List RegisterStep :=
  match productionRfeRegConfig8812 band rfeType with
  | .ok config => rfeSteps config
  | .error _ => []

def pwedSteps (pdTh20m : UInt32) : List RegisterStep :=
  [bbStep regPwedThJaguar 0x0003e000 pdTh20m, bbStep regPwedThJaguar 0x0000000e 0x04]

def basicRateSteps (rateMask : UInt16) : List RegisterStep :=
  [setWord regRrsr 2 rateMask.toNat, setField (regRrsr + 2) 1 0x0f 0]

def swingSteps : List RegisterStep :=
  [bbStep regTxScaleAJaguar 0xffe00000 0x200, bbStep regTxScaleBJaguar 0xffe00000 0x200]

def switchTo2gSteps (rfe : List RegisterStep) : List RegisterStep :=
  [bbStep regOfdmcckenJaguar 0x30000000 0x03, bbStep regBwIndicationJaguar 0x00000003 0x01] ++ pwedSteps 0x17 ++
    [bbStep regAgcTableJaguar 0x00000003 0x00] ++ rfe ++
    [bbStep regTxPathJaguar 0x000000f0 0x01, bbStep regCckRxJaguar 0x0f000000 0x01] ++ basicRateSteps basicRate2g ++
    [setField regCckCheck8812 1 bit7.toNat 0] ++ swingSteps

def switchTo5gSteps (rfe : List RegisterStep) : List RegisterStep :=
  [setField regCckCheck8812 1 bit7.toNat bit7.toNat, foundField regTxpktEmpty 2 0x0030 0x0030,
    bbStep regOfdmcckenJaguar 0x30000000 0x03, bbStep regBwIndicationJaguar 0x00000003 0x02] ++ pwedSteps 0x15 ++
    [bbStep regAgcTableJaguar 0x00000003 0x01] ++ rfe ++
    [bbStep regTxPathJaguar 0x000000f0 0x00, bbStep regCckRxJaguar 0x0f000000 0x0f] ++ basicRateSteps basicRate5g ++
    swingSteps

def switchSteps : Band → List RegisterStep → List RegisterStep
  | .ghz2 => switchTo2gSteps
  | .ghz5 => switchTo5gSteps

/-- an adapter that is on the band already only has its RFE pins set -/
def bandSteps (cckCheck : UInt8) (targetBand : Band) (rfeType : UInt8) : List RegisterStep :=
  if bandOf cckCheck = targetBand then setRfeSteps targetBand rfeType
  else switchSteps targetBand (setRfeSteps targetBand rfeType)

def spurSteps (number : UInt8) (bandwidth : Bandwidth) : List RegisterStep :=
  if number > 14 then [] else [bbStep regRfModJaguar 0x00000300 (spurData number bandwidth)]

/-- a word on a serial port; it is not read back -/
def chnlbwStep (path : RadioPath) (value : UInt32) : RegisterStep :=
  blindField (serialRegister path) 4 (2 ^ 32 - 1)
    (encodeRfSerialWrite rfChnlbwJaguar (value &&& rfRegisterOffsetMask)).toNat

def tuneSteps (path : RadioPath) (base : UInt32) (number : UInt8) (bandwidth : Bandwidth) : List RegisterStep :=
  [chnlbwStep path (chnlbwModAg base number)] ++ spurSteps number bandwidth ++
    [chnlbwStep path (chnlbwChannel base number)]

/-- where the secondary channel goes, if there is one -/
def secondarySteps (bandwidth : Bandwidth) (dataSc : UInt8) : List RegisterStep :=
  if bandwidth = .mhz40 ∨ bandwidth = .mhz80 then
    [bbStep regRfModJaguar 0x0000003c dataSc.toUInt32, bbStep regCcaOnSecJaguar 0xf0000000 dataSc.toUInt32]
  else []

def cckSystemSteps (bandwidth : Bandwidth) (dataSc : UInt8) : List RegisterStep :=
  if bandwidth = .mhz40 then
    [bbStep regCckSystemJaguar 0x10 (if dataSc = vhtDataSc20UpperOf80mhz then 1 else 0)]
  else []

/-- what follows the mode -/
def afterModeSteps (bandwidth : Bandwidth) (dataSc bwIndication : UInt8) : List RegisterStep :=
  [bbStep regAdcBufClkJaguar ((1 : UInt32) <<< 30) (if bandwidth = .mhz80 then 1 else 0)] ++
    secondarySteps bandwidth dataSc ++ [bbStep regL1PeakThJaguar 0x03c00000 (l1Peak bwIndication bandwidth)] ++
    cckSystemSteps bandwidth dataSc

def bandwidthSteps (bandwidth : Bandwidth) (dataSc bwIndication : UInt8) : List RegisterStep :=
  [setField regWmacTrxptclCtl 2 0x0180 (wmacBandwidthBits bandwidth).toNat, setWord regDataSc8812 1 dataSc.toNat,
    bbStep regRfModJaguar 0x003003c3 (rfModeData bandwidth)] ++ afterModeSteps bandwidth dataSc bwIndication

def capturedSteps (tail : List (String × UInt16 × UInt32)) : List RegisterStep :=
  tail.flatMap fun write => [setWord write.2.1 4 write.2.2.toNat]

def tailSteps (channel : Channel) (bandwidth : Bandwidth) : List RegisterStep :=
  if productionShouldApplyCapturedTxBringupTail channel bandwidth then
    match productionCapturedTxBringupTail bandwidth with
    | .ok tail => capturedSteps tail
    | .error _ => []
  else []

/-- what is programmed for a channel, and what the adapter has said -/
structure ChannelTarget where
  channel : Channel
  bandwidth : Bandwidth
  rfeType : UInt8
  number : UInt8
  dataSc : UInt8
  rfPathA : UInt32
  rfPathB : UInt32
  cckCheck : UInt8
  bwIndication : UInt8
deriving DecidableEq

namespace ChannelTarget

variable (target : ChannelTarget)

def frequencySteps : List RegisterStep :=
  bbStep regOfdmcckenJaguar 0x30000000 0x03 :: bbStep regFcAreaJaguar 0x1ffe0000 (productionFcAreaData target.number) ::
    (tuneSteps .a target.rfPathA target.number target.bandwidth ++
      tuneSteps .b target.rfPathB target.number target.bandwidth)

def lastSteps : List RegisterStep :=
  spurSteps target.number target.bandwidth ++
    [chnlbwStep .a (chnlbwBandwidth target.rfPathA target.number target.bandwidth),
      chnlbwStep .b (chnlbwBandwidth target.rfPathB target.number target.bandwidth)]

def steps : List RegisterStep :=
  rfPreflightSteps ++ bandSteps target.cckCheck target.channel.band target.rfeType ++ target.frequencySteps ++
    bandwidthSteps target.bandwidth target.dataSc target.bwIndication ++ target.lastSteps ++
    tailSteps target.channel target.bandwidth

end ChannelTarget

/-! ## Effects -/

/-- there is a setting of the RFE pins -/
def RfeSupported (band : Band) (rfeType : UInt8) : Prop := ∃ config, productionRfeRegConfig8812 band rfeType = .ok config

/-- what the adapter says about its band and about the bandwidth it had -/
abbrev BandKnown (cckCheck bwIndication : UInt8) : StuckRegisters → Prop :=
  Known [regCckCheck8812, regBwIndicationJaguar + 3] fun address =>
    if address = regCckCheck8812 then cckCheck else bwIndication

section Effects

variable {P : StuckRegisters → Prop} (registers : Rtl8812auRegisterAccess)

theorem performs_bbStep (registerName : String) (address : UInt16) (bitmask data : UInt32) (phase : String) :
    Performs P (productionBbMaskedWrite32 registers registerName address bitmask data phase) (fun _ => True)
      (bbStep address bitmask data).effect :=
  performs_bbMasked registers registerName address bitmask data phase

theorem performs_setRfe (band : Band) (rfeType : UInt8) :
    Performs P (productionSetRfeReg8812 registers band rfeType) (fun _ => RfeSupported band rfeType)
      (RegisterStep.effects (setRfeSteps band rfeType)) := by
  unfold productionSetRfeReg8812 setRfeSteps
  cases hconfig : productionRfeRegConfig8812 band rfeType with
  | error error => exact Performs.fail error _
  | ok config =>
    change Performs P (do
      [("rA_RFE_Pinmux_Jaguar", regRfePinmuxAJaguar), ("rB_RFE_Pinmux_Jaguar", regRfePinmuxBJaguar)].forM _
      [("rA_RFE_Inv_Jaguar", regRfeInvAJaguar), ("rB_RFE_Inv_Jaguar", regRfeInvBJaguar)].forM _
      _) _ (RegisterStep.effects ([_, _] ++ ([_, _] ++ _)))
    refine (Performs.forM _ fun register => (performs_bbStep registers _ _ _ config.pinmux _).last).append fun _ _ => ?_
    refine (Performs.forM _ fun register => (performs_bbStep registers _ _ config.invMask config.inv _).last).append
      fun _ _ => ?_
    cases config.antsel with
    | none => exact Performs.pure ⟨config, hconfig⟩
    | some antsel =>
      exact (performs_bbStep registers _ _ _ antsel _).last.weaken (fun _ h => h) fun _ _ => ⟨config, hconfig⟩

theorem performs_setPwed (pdTh20m : UInt32) :
    Performs P (productionSetPwedThresholds registers pdTh20m) (fun _ => True)
      (RegisterStep.effects (pwedSteps pdTh20m)) :=
  (performs_bbStep registers _ _ _ pdTh20m _).cons fun _ _ => (performs_bbStep registers _ _ _ _ _).last

theorem performs_setBasicRate (rateMask : UInt16) :
    Performs P (productionSetBasicRate registers rateMask) (fun _ => True)
      (RegisterStep.effects (basicRateSteps rateMask)) :=
  (performs_write16Verify registers _ _ _ rateMask 0xffff rateMask).cons fun _ _ =>
    (performs_rmw8Preserve registers _ _ _ 0x0f 0).last

theorem performs_setSwing :
    Performs P (productionSetBbSwingDefault registers) (fun _ => True) (RegisterStep.effects swingSteps) :=
  Performs.forM _ fun _ => (performs_bbStep registers _ _ _ _ _).last

theorem performs_pollTxPacketEmpty :
    Performs P (productionPollTxPacketEmpty registers) (fun _ => True)
      (foundField regTxpktEmpty 2 0x0030 0x0030).effect := by
  refine Performs.return_ (performs_found
    ((readsValue16 registers regTxpktEmpty "REG_TXPKT_EMPTY" "band-switch").pollReads _ _ · _ _ _) ?_) trivial
  rintro _ before ⟨observed, hready, hvalue⟩
  rw [← hvalue]
  exact congrArg UInt16.toNat hready

theorem performs_switchTo2g (rfeType : UInt8) :
    Performs P (productionSwitchTo2gBand registers rfeType) (fun _ => RfeSupported .ghz2 rfeType)
      (RegisterStep.effects (switchTo2gSteps (setRfeSteps .ghz2 rfeType))) := by
  simp only [switchTo2gSteps, List.append_assoc]
  refine (performs_bbStep registers _ _ _ _ _).cons fun _ _ => ?_
  refine (performs_bbStep registers _ _ _ _ _).cons fun _ _ => ?_
  refine (performs_setPwed registers _).append fun _ _ => ?_
  refine (performs_bbStep registers _ _ _ _ _).cons fun _ _ => ?_
  refine (performs_setRfe registers _ _).append fun _ hsupported => ?_
  refine (performs_bbStep registers _ _ _ _ _).cons fun _ _ => ?_
  refine (performs_bbStep registers _ _ _ _ _).cons fun _ _ => ?_
  refine (performs_setBasicRate registers _).append fun _ _ => ?_
  refine (performs_rmw8Preserve registers _ _ _ bit7 0).cons fun _ _ => ?_
  exact (performs_setSwing registers).weaken (fun _ h => h) fun _ _ => hsupported

theorem performs_switchTo5g (rfeType : UInt8) :
    Performs P (productionSwitchTo5gBand registers rfeType) (fun _ => RfeSupported .ghz5 rfeType)
      (RegisterStep.effects (switchTo5gSteps (setRfeSteps .ghz5 rfeType))) := by
  simp only [switchTo5gSteps, List.append_assoc]
  refine (performs_rmw8Preserve registers _ _ _ bit7 bit7).cons fun _ _ => ?_
  refine (performs_pollTxPacketEmpty registers).cons fun _ _ => ?_
  refine (performs_bbStep registers _ _ _ _ _).cons fun _ _ => ?_
  refine (performs_bbStep registers _ _ _ _ _).cons fun _ _ => ?_
  refine (performs_setPwed registers _).append fun _ _ => ?_
  refine (performs_bbStep registers _ _ _ _ _).cons fun _ _ => ?_
  refine (performs_setRfe registers _ _).append fun _ hsupported => ?_
  refine (performs_bbStep registers _ _ _ _ _).cons fun _ _ => ?_
  refine (performs_bbStep registers _ _ _ _ _).cons fun _ _ => ?_
  refine (performs_setBasicRate registers _).append fun _ _ => ?_
  exact (performs_setSwing registers).weaken (fun _ h => h) fun _ _ => hsupported

theorem performs_rfSerial (path : RadioPath) (rfOffset value : UInt32) :
    Performs P (rfSerialWriteSinglePath registers (rfPathOf path) rfOffset value) (fun _ => True)
      (blindField (serialRegister path) 4 (2 ^ 32 - 1)
        (encodeRfSerialWrite rfOffset (value &&& rfRegisterOffsetMask)).toNat).effect := by
  have hto (target : RfSerialWriteTarget) (htarget : target.bbRegister = serialRegister path) :
      Performs P (rfSerialWriteTo registers rfOffset value target) (fun _ => True)
        (blindField (serialRegister path) 4 (2 ^ 32 - 1)
          (encodeRfSerialWrite rfOffset (value &&& rfRegisterOffsetMask)).toNat).effect := by
    refine Performs.counters.bind_empty fun before _ => ?_
    rw [← htarget, ← Effect.andThen_empty (blindField _ _ _ _).effect]
    refine (performs_write32 registers _ _ _ _).next fun _ _ => ?_
    exact Performs.counters.bind_empty fun _ _ => Performs.pure trivial
  rw [← Effect.andThen_empty (blindField _ _ _ _).effect]
  cases path with
  | a => exact (hto rfSerialTargetA rfl).next fun _ _ => Performs.pure trivial
  | b => exact (hto rfSerialTargetB rfl).next fun _ _ => Performs.pure trivial

theorem performs_writeChnlbw (path : RadioPath) (value : UInt32) :
    Performs P (writeChnlbw registers (rfPathOf path) value) (fun _ => True) (chnlbwStep path value).effect :=
  (performs_rfSerial registers path rfChnlbwJaguar value).return_ trivial

theorem performs_fixSpur (number : UInt8) (bandwidth : Bandwidth) :
    Performs P (productionFixSpur8812a registers number bandwidth) (fun _ => True)
      (RegisterStep.effects (spurSteps number bandwidth)) := by
  unfold productionFixSpur8812a spurSteps
  split
  · exact Performs.pure trivial
  · exact (performs_bbStep registers _ _ _ _ _).last

theorem performs_tunePath (path : RadioPath) (base : UInt32) (number : UInt8) (bandwidth : Bandwidth) :
    Performs P (tunePath registers (rfPathOf path) base number bandwidth) (fun _ => True)
      (RegisterStep.effects (tuneSteps path base number bandwidth)) := by
  rw [tuneSteps, List.append_assoc]
  refine (performs_writeChnlbw registers path _).cons fun _ _ => ?_
  refine (performs_fixSpur registers number bandwidth).append fun _ _ => ?_
  exact (performs_writeChnlbw registers path _).last

theorem performs_tail (channel : Channel) (bandwidth : Bandwidth) :
    Performs P (applyCapturedTail registers channel bandwidth) (fun _ => True)
      (RegisterStep.effects (tailSteps channel bandwidth)) := by
  unfold tailSteps applyCapturedTail productionApplyCapturedTxBringupTail
  split
  · cases productionCapturedTxBringupTail bandwidth with
    | error error => exact Performs.fail error _
    | ok tail => exact Performs.forM _ fun write => (performs_write32Verify registers _ _ _ _ 0xffffffff _).last
  · exact Performs.pure trivial

/-! The whole sequence -/

/-- what is left of the knowledge when the band is set -/
abbrev BandwidthKnown (bwIndication : UInt8) : StuckRegisters → Prop :=
  Known [regBwIndicationJaguar + 3] fun _ => bwIndication

theorem BandKnown.bandwidth {cckCheck bwIndication : UInt8} {file : StuckRegisters}
    (h : BandKnown cckCheck bwIndication file) : BandwidthKnown bwIndication file := by
  intro address haddress
  obtain rfl := List.mem_singleton.1 haddress
  exact h _ (List.mem_cons_of_mem _ List.mem_cons_self)

/-- reading a byte that is known -/
theorem performs_readKnown {addresses : List UInt16} {values : UInt16 → UInt8} {address : UInt16}
    (haddress : address ∈ addresses) (registerName phase : String) :
    Performs (Known addresses values) (read8WithCounter registers address registerName phase)
      (fun value => value = values address) .empty := by
  refine (readsValue8 registers address registerName phase).performs.weaken (fun _ h => h) ?_
  rintro value ⟨file, hfile, hvalue⟩
  exact UInt8.toNat_inj.1 (hvalue.trans (hfile address haddress))

theorem Performs.ofExcept {α : Type} (r : Except RuntimeRadioError α) :
    Performs P (RegisterAction.ofExcept r) (fun a => r = .ok a) .empty := by
  cases r with
  | ok a => exact Performs.pure rfl
  | error error => exact Performs.fail error _

theorem bbStep_shape (address : UInt16) (bitmask data : UInt32) :
    (bbStep address bitmask data).shape = ⟨address, 4, bitmask.toNat, 0, bitmask.toNat, 0⟩ := rfl

theorem setField_shape (address : UInt16) (n mask value : ℕ) :
    (setField address n mask value).shape = ⟨address, n, mask, 0, mask, 0⟩ := rfl

theorem setWord_shape (address : UInt16) (n value : ℕ) :
    (setWord address n value).shape = ⟨address, n, 2 ^ (8 * n) - 1, 0, 2 ^ (8 * n) - 1, 0⟩ := rfl

theorem chnlbwStep_shape (path : RadioPath) (value : UInt32) :
    (chnlbwStep path value).shape = ⟨serialRegister path, 4, 2 ^ 32 - 1, 0, 0, 0⟩ := rfl

/-- there are two ways to invert the RFE pins -/
theorem rfeConfig_invMask {band : Band} {rfeType : UInt8} {config : ProductionRfeRegConfig}
    (h : productionRfeRegConfig8812 band rfeType = .ok config) :
    config.invMask = 0x3ff00000 ∨ config.invMask = 0xffffffff := by
  unfold productionRfeRegConfig8812 at h
  split at h
  all_goals cases h
  all_goals first | exact .inl rfl | exact .inr rfl

/-! The shapes that the parts can have -/

def rfeShapes : List (List RegisterStep) :=
  [] :: [(0x3ff00000 : UInt32), 0xffffffff].flatMap fun invMask =>
    [none, some 0].map fun antsel => (rfeSteps ⟨0, invMask, 0, antsel⟩).map RegisterStep.shape

theorem setRfeSteps_shape (band : Band) (rfeType : UInt8) :
    (setRfeSteps band rfeType).map RegisterStep.shape ∈ rfeShapes := by
  unfold setRfeSteps
  split
  · rename_i config hconfig
    have hshape : (rfeSteps config).map RegisterStep.shape
        = (rfeSteps ⟨0, config.invMask, 0, config.antsel.map fun _ => 0⟩).map RegisterStep.shape := by
      rw [rfeSteps, rfeSteps]
      cases config.antsel <;> rfl
    rw [hshape]
    cases config.antsel with
    | none => rcases rfeConfig_invMask hconfig with hmask | hmask <;> rw [hmask] <;> decide
    | some antsel => rcases rfeConfig_invMask hconfig with hmask | hmask <;> rw [hmask, Option.map_some] <;> decide
  · exact List.mem_cons_self

def bandShapes : List (List RegisterStep) :=
  rfeShapes ++ (rfeShapes.map fun rfe => (switchTo2gSteps rfe).map RegisterStep.shape) ++
    rfeShapes.map fun rfe => (switchTo5gSteps rfe).map RegisterStep.shape

theorem bandSteps_shape (cckCheck : UInt8) (targetBand : Band) (rfeType : UInt8) :
    (bandSteps cckCheck targetBand rfeType).map RegisterStep.shape ∈ bandShapes := by
  have hrfe := setRfeSteps_shape targetBand rfeType
  unfold bandSteps
  split
  · exact List.mem_append_left _ (List.mem_append_left _ hrfe)
  · cases targetBand with
    | ghz2 =>
      refine List.mem_append_left _ (List.mem_append_right _ (List.mem_map.2 ⟨_, hrfe, ?_⟩))
      simp only [switchSteps, switchTo2gSteps, List.map_append, List.map_map, RegisterStep.shape_comp_shape]
    | ghz5 =>
      refine List.mem_append_right _ (List.mem_map.2 ⟨_, hrfe, ?_⟩)
      simp only [switchSteps, switchTo5gSteps, List.map_append, List.map_map, RegisterStep.shape_comp_shape]

def spurShape : RegisterStep := (bbStep regRfModJaguar 0x00000300 0).shape

def lastShapes : List RegisterStep := [spurShape, (chnlbwStep .a 0).shape, (chnlbwStep .b 0).shape]

def frequencyShapes : List RegisterStep :=
  [(bbStep regOfdmcckenJaguar 0x30000000 0).shape, (bbStep regFcAreaJaguar 0x1ffe0000 0).shape] ++ lastShapes

theorem spurSteps_shape (number : UInt8) (bandwidth : Bandwidth) :
    ∀ step ∈ spurSteps number bandwidth, step.shape = spurShape := by
  unfold spurSteps
  split
  · intro step hstep
    cases hstep
  · intro step hstep
    rw [List.mem_singleton.1 hstep]
    rfl

theorem tuneSteps_shape (path : RadioPath) (base : UInt32) (number : UInt8) (bandwidth : Bandwidth) :
    ∀ step ∈ tuneSteps path base number bandwidth, step.shape ∈ lastShapes := by
  have hspur : ∀ step ∈ spurSteps number bandwidth, step.shape ∈ lastShapes := by
    intro step hstep
    rw [spurSteps_shape _ _ step hstep]
    decide
  simp only [tuneSteps, List.forall_mem_append, List.forall_mem_cons, List.not_mem_nil, false_imp_iff, implies_true,
    and_true, chnlbwStep_shape]
  cases path with
  | a => exact ⟨⟨by decide, hspur⟩, by decide⟩
  | b => exact ⟨⟨by decide, hspur⟩, by decide⟩

theorem frequencySteps_shape (target : ChannelTarget) : ∀ step ∈ target.frequencySteps, step.shape ∈ frequencyShapes := by
  have htune (path : RadioPath) (base : UInt32) :
      ∀ step ∈ tuneSteps path base target.number target.bandwidth, step.shape ∈ frequencyShapes :=
    fun step hstep => List.mem_append_right _ (tuneSteps_shape path base _ _ step hstep)
  simp only [ChannelTarget.frequencySteps, List.forall_mem_append, List.forall_mem_cons, bbStep_shape]
  exact ⟨by decide, by decide, htune .a _, htune .b _⟩

theorem lastSteps_shape (target : ChannelTarget) : ∀ step ∈ target.lastSteps, step.shape ∈ lastShapes := by
  simp only [ChannelTarget.lastSteps, List.forall_mem_append, List.forall_mem_cons, List.not_mem_nil, false_imp_iff,
    implies_true, and_true, chnlbwStep_shape]
  refine ⟨fun step hstep => ?_, by decide, by decide⟩
  rw [spurSteps_shape _ _ step hstep]
  decide

def afterModeShapes : List RegisterStep :=
  [(bbStep regAdcBufClkJaguar ((1 : UInt32) <<< 30) 0).shape, (bbStep regRfModJaguar 0x0000003c 0).shape,
    (bbStep regCcaOnSecJaguar 0xf0000000 0).shape, (bbStep regL1PeakThJaguar 0x03c00000 0).shape,
    (bbStep regCckSystemJaguar 0x10 0).shape]

theorem afterModeSteps_shape (bandwidth : Bandwidth) (dataSc bwIndication : UInt8) :
    ∀ step ∈ afterModeSteps bandwidth dataSc bwIndication, step.shape ∈ afterModeShapes := by
  cases bandwidth <;>
    simp only [afterModeSteps, secondarySteps, cckSystemSteps, reduceCtorEq, or_self, or_true, true_or, if_true, if_false,
      List.forall_mem_append, List.forall_mem_cons, List.not_mem_nil, false_imp_iff, implies_true, and_true,
      bbStep_shape] <;> decide

def bandwidthShapes : List RegisterStep :=
  [(setField regWmacTrxptclCtl 2 0x0180 0).shape, (setWord regDataSc8812 1 0).shape,
    (bbStep regRfModJaguar 0x003003c3 0).shape] ++ afterModeShapes

theorem bandwidthSteps_shape (bandwidth : Bandwidth) (dataSc bwIndication : UInt8) :
    ∀ step ∈ bandwidthSteps bandwidth dataSc bwIndication, step.shape ∈ bandwidthShapes := by
  have hafter : ∀ step ∈ afterModeSteps bandwidth dataSc bwIndication, step.shape ∈ bandwidthShapes :=
    fun step hstep => List.mem_append_right _ (afterModeSteps_shape _ _ _ step hstep)
  simp only [bandwidthSteps, List.forall_mem_append, List.forall_mem_cons, List.not_mem_nil, false_imp_iff, implies_true,
    and_true, bbStep_shape, setField_shape, setWord_shape]
  exact ⟨⟨by decide, by decide, by decide⟩, hafter⟩

/-- the captured registers of both bandwidths have the same shapes -/
def tailShapes : List RegisterStep :=
  productionCapturedTxBringupTail20mhz.map fun write => (setWord write.2.1 4 0).shape

theorem tailSteps_cases (channel : Channel) (bandwidth : Bandwidth) :
    tailSteps channel bandwidth = [] ∨
      tailSteps channel bandwidth = capturedSteps productionCapturedTxBringupTail20mhz ∨
      tailSteps channel bandwidth = capturedSteps productionCapturedTxBringupTail40mhz := by
  unfold tailSteps
  split
  · cases bandwidth with
    | mhz20 => exact .inr (.inl rfl)
    | mhz40 => exact .inr (.inr rfl)
    | mhz80 => exact .inl rfl
  · exact .inl rfl

theorem tailSteps_shape (channel : Channel) (bandwidth : Bandwidth) :
    ∀ step ∈ tailSteps channel bandwidth, step.shape ∈ tailShapes := by
  rcases tailSteps_cases channel bandwidth with h | h | h <;> rw [h]
  · intro step hstep
    cases hstep
  · decide +kernel
  · decide +kernel

/-! The bandwidth that the adapter had is not written -/

theorem bandSteps_avoid (cckCheck : UInt8) (targetBand : Band) (rfeType : UInt8) :
    RegisterStep.avoid (bandSteps cckCheck targetBand rfeType) (regBwIndicationJaguar + 3) = true := by
  have hshapes : ∀ shapes ∈ bandShapes, RegisterStep.avoid shapes (regBwIndicationJaguar + 3) = true := by decide +kernel
  rw [← RegisterStep.avoid_shape]
  exact hshapes _ (bandSteps_shape cckCheck targetBand rfeType)

theorem frequencySteps_avoid (target : ChannelTarget) :
    RegisterStep.avoid target.frequencySteps (regBwIndicationJaguar + 3) = true :=
  RegisterStep.avoid_of_shapes (frequencySteps_shape target) (by decide)

/-! The parts of the sequence -/

theorem performs_switchBand (cckCheck bwIndication : UInt8) (targetBand : Band) (rfeType : UInt8) :
    Performs (BandKnown cckCheck bwIndication) (productionSwitchWirelessBand8812 registers targetBand rfeType)
      (fun _ => RfeSupported targetBand rfeType) (RegisterStep.effects (bandSteps cckCheck targetBand rfeType)) := by
  refine (performs_readKnown registers List.mem_cons_self _ _).bind_empty fun value hvalue => ?_
  rw [if_pos rfl] at hvalue
  rw [hvalue]
  unfold bandSteps
  split
  · exact performs_setRfe registers targetBand rfeType
  · cases targetBand with
    | ghz2 => exact performs_switchTo2g registers rfeType
    | ghz5 => exact performs_switchTo5g registers rfeType

theorem performs_setFrequency (target : ChannelTarget) :
    Performs P (setFrequency registers target.rfPathA target.rfPathB target.number target.bandwidth) (fun _ => True)
      (RegisterStep.effects target.frequencySteps) := by
  refine (performs_bbStep registers _ _ _ _ _).cons fun _ _ => ?_
  refine (performs_bbStep registers _ _ _ _ _).cons fun _ _ => ?_
  refine (performs_tunePath registers .a _ _ _).append fun _ _ => ?_
  exact performs_tunePath registers .b _ _ _

theorem performs_setSecondaryChannel (bandwidth : Bandwidth) (dataSc : UInt8) :
    Performs P (setSecondaryChannel registers bandwidth dataSc) (fun _ => True)
      (RegisterStep.effects (secondarySteps bandwidth dataSc)) := by
  unfold setSecondaryChannel secondarySteps
  split
  · exact (performs_bbStep registers _ _ _ _ _).cons fun _ _ => (performs_bbStep registers _ _ _ _ _).last
  · exact Performs.pure trivial

theorem performs_setCckSystem (bandwidth : Bandwidth) (dataSc : UInt8) :
    Performs P (setCckSystem registers bandwidth dataSc) (fun _ => True)
      (RegisterStep.effects (cckSystemSteps bandwidth dataSc)) := by
  unfold setCckSystem cckSystemSteps
  split
  · exact (performs_bbStep registers _ _ _ _ _).last
  · exact Performs.pure trivial

theorem performs_setBandwidth (bandwidth : Bandwidth) (dataSc bwIndication : UInt8) :
    Performs (BandwidthKnown bwIndication) (setBandwidthRegisters registers bandwidth dataSc) (fun _ => True)
      (RegisterStep.effects (bandwidthSteps bandwidth dataSc bwIndication)) := by
  have havoid (step : RegisterStep) (h : RegisterStep.avoid [step.shape] (regBwIndicationJaguar + 3) = true) :
      [regBwIndicationJaguar + 3].all (RegisterStep.avoid [step]) = true := by
    rw [List.all_cons, ← RegisterStep.avoid_shape, List.map_singleton, h]
    rfl
  simp only [bandwidthSteps, afterModeSteps, List.append_assoc]
  refine Performs.consKnown (performs_rmw16Preserve registers _ _ _ 0x0180 _) (havoid _ ?_) fun _ _ => ?_
  · rw [setField_shape]
    decide
  refine Performs.consKnown (performs_write8Verify registers _ _ _ dataSc 0xff dataSc) (havoid _ ?_) fun _ _ => ?_
  · rw [setWord_shape]
    decide
  refine (performs_readKnown registers List.mem_cons_self _ _).bind_empty fun value hvalue => ?_
  rw [hvalue]
  refine (performs_bbStep registers _ _ _ _ _).cons fun _ _ => ?_
  refine (performs_bbStep registers _ _ _ _ _).cons fun _ _ => ?_
  refine (performs_setSecondaryChannel registers bandwidth dataSc).append fun _ _ => ?_
  refine (performs_bbStep registers _ _ _ _ _).cons fun _ _ => ?_
  exact performs_setCckSystem registers bandwidth dataSc

/-- the numbers that the sequence looks up before it writes -/
structure ChannelTarget.Planned (target : ChannelTarget) (radioaPlan radiobPlan : RealtekTablePlan) : Prop where
  number : productionChannelProgrammingNumber target.channel target.bandwidth = .ok target.number
  dataSc : productionDataSecondaryChannelSetting target.channel target.bandwidth = .ok target.dataSc
  rfPathA : productionLastRfRegisterData radioaPlan rfChnlbwJaguar = .ok target.rfPathA
  rfPathB : productionLastRfRegisterData radiobPlan rfChnlbwJaguar = .ok target.rfPathB

theorem performs_channel (target : ChannelTarget) {radioaPlan radiobPlan : RealtekTablePlan}
    (hplanned : target.Planned radioaPlan radiobPlan) :
    Performs (BandKnown target.cckCheck target.bwIndication)
      (productionChannelSequence registers target.channel target.bandwidth target.rfeType radioaPlan radiobPlan)
      (fun _ => RfeSupported target.channel.band target.rfeType) (RegisterStep.effects target.steps) := by
  unfold productionChannelSequence
  rw [hplanned.number, hplanned.dataSc, hplanned.rfPathA, hplanned.rfPathB]
  simp only [ChannelTarget.steps, List.append_assoc]
  refine Performs.counters.bind_empty fun before _ => ?_
  refine Performs.bind_empty (Performs.ofExcept (.ok target.number)) fun number hnumber => ?_
  refine Performs.bind_empty (Performs.ofExcept (.ok target.dataSc)) fun dataSc hdataSc => ?_
  rw [← Except.ok.inj hnumber, ← Except.ok.inj hdataSc]
  refine Performs.appendKnown rfPreflightSteps (performs_rfPreflight registers) (by decide) fun _ _ => ?_
  refine Performs.bind_empty (Performs.ofExcept (.ok target.rfPathA)) fun rfPathA hrfPathA => ?_
  refine Performs.bind_empty (Performs.ofExcept (.ok target.rfPathB)) fun rfPathB hrfPathB => ?_
  rw [← Except.ok.inj hrfPathA, ← Except.ok.inj hrfPathB, RegisterStep.effects_append]
  have hknown (start after : StuckRegisters) (hstart : BandKnown target.cckCheck target.bwIndication start)
      (hreached : StuckRegisters.Reached
        (RegisterStep.effects (bandSteps target.cckCheck target.channel.band target.rfeType)) start after) :
      BandwidthKnown target.bwIndication after := by
    refine hstart.bandwidth.kept ?_ hreached.within
    rw [List.all_cons, bandSteps_avoid, List.all_nil]
    rfl
  refine (performs_switchBand registers _ target.bwIndication _ _).bind hknown fun _ hsupported => ?_
  refine Performs.appendKnown target.frequencySteps (performs_setFrequency registers target) ?_ fun _ _ => ?_
  · rw [List.all_cons, frequencySteps_avoid, List.all_nil]
    rfl
  refine (performs_setBandwidth registers target.bandwidth target.dataSc target.bwIndication).append fun _ _ => ?_
  rw [ChannelTarget.lastSteps, List.append_assoc]
  refine (performs_fixSpur registers target.number target.bandwidth).append fun _ _ => ?_
  refine (performs_writeChnlbw registers .a _).cons fun _ _ => ?_
  refine (performs_writeChnlbw registers .b _).cons fun _ _ => ?_
  rw [← List.append_nil (tailSteps target.channel target.bandwidth)]
  refine (performs_tail registers target.channel target.bandwidth).append fun _ _ => ?_
  exact (performs_writesSince before).weaken (fun _ h => h) fun _ _ => hsupported

end Effects

/-! ## The registers after the sequence -/

/-- a field of a word of the baseband -/
def bbField (address : UInt16) (bitmask data : UInt32) : RegisterField :=
  ⟨address, 4, bitmask.toNat, (shifted bitmask data).toNat⟩

theorem bbField_shape (address : UInt16) (bitmask data : UInt32) :
    (bbField address bitmask data).shape = ⟨address, 4, bitmask.toNat, 0⟩ := rfl

theorem bbField_fits (address : UInt16) (bitmask data : UInt32) : (bbField address bitmask data).Fits :=
  ⟨bitmask.toNat_lt, show 4 ≤ 2 ^ 16 by decide⟩

/-- the field that a step of the baseband looks for -/
theorem bbField_found {steps later : List RegisterStep} {address : UInt16} {bitmask data : UInt32} (i : ℕ)
    (hstep : steps.drop i = bbStep address bitmask data :: later)
    (hspared : (bbField address bitmask data).sparedBy later = true) :
    (bbField address bitmask data).FoundIn (RegisterStep.effects steps).finds :=
  RegisterField.foundIn_drop i hstep rfl rfl (Nat.and_self _) rfl (show 4 ≤ 2 ^ 16 by decide) hspared

def bandBit : Band → UInt8
  | .ghz2 => 0
  | .ghz5 => bit7

def bandField (band : Band) : RegisterField := ⟨regCckCheck8812, 1, bit7.toNat, (bandBit band).toNat⟩

def secondaryFields (bandwidth : Bandwidth) (dataSc : UInt8) : List RegisterField :=
  if bandwidth = .mhz40 ∨ bandwidth = .mhz80 then
    [bbField regRfModJaguar 0x0000003c dataSc.toUInt32, bbField regCcaOnSecJaguar 0xf0000000 dataSc.toUInt32]
  else []

def cckSystemFields (bandwidth : Bandwidth) (dataSc : UInt8) : List RegisterField :=
  if bandwidth = .mhz40 then
    [bbField regCckSystemJaguar 0x10 (if dataSc = vhtDataSc20UpperOf80mhz then 1 else 0)]
  else []

def bandwidthFields (bandwidth : Bandwidth) (dataSc bwIndication : UInt8) : List RegisterField :=
  [⟨regWmacTrxptclCtl, 2, 0x0180, (wmacBandwidthBits bandwidth).toNat⟩, ⟨regDataSc8812, 1, 0xff, dataSc.toNat⟩,
    bbField regRfModJaguar 0x003000c3 (rfModeData bandwidth),
    bbField regAdcBufClkJaguar ((1 : UInt32) <<< 30) (if bandwidth = .mhz80 then 1 else 0)] ++
    secondaryFields bandwidth dataSc ++ [bbField regL1PeakThJaguar 0x03c00000 (l1Peak bwIndication bandwidth)] ++
    cckSystemFields bandwidth dataSc

namespace ChannelTarget

/-- what is programmed for a channel on an adapter, unless a number of it cannot be looked up -/
def lookUp (channel : Channel) (bandwidth : Bandwidth) (rfeType : UInt8) (radioaPlan radiobPlan : RealtekTablePlan)
    (file : StuckRegisters) : Except RuntimeRadioError ChannelTarget := do
  let number ← productionChannelProgrammingNumber channel bandwidth
  let dataSc ← productionDataSecondaryChannelSetting channel bandwidth
  let rfPathA ← productionLastRfRegisterData radioaPlan rfChnlbwJaguar
  let rfPathB ← productionLastRfRegisterData radiobPlan rfChnlbwJaguar
  return { channel, bandwidth, rfeType, number, dataSc, rfPathA, rfPathB, cckCheck := file.byteAt regCckCheck8812,
           bwIndication := file.byteAt (regBwIndicationJaguar + 3) }

variable (target : ChannelTarget)

/-- bits 8 and 9 of `rRFMOD_Jaguar`; on a channel of 2.4 GHz the spurs have the last word -/
def spurBits : UInt32 := if target.number > 14 then 0x02 else spurData target.number target.bandwidth

def tailFields : List RegisterField := (tailSteps target.channel target.bandwidth).map RegisterStep.field

/-- what the registers are after the sequence -/
def fields : List RegisterField :=
  [bandField target.channel.band, bbField regOfdmcckenJaguar 0x30000000 0x03,
    bbField regFcAreaJaguar 0x1ffe0000 (productionFcAreaData target.number),
    bbField regRfModJaguar 0x00000300 target.spurBits] ++
    bandwidthFields target.bandwidth target.dataSc target.bwIndication ++ target.tailFields

/-! Where they are found -/

def laterShapes : List RegisterStep := bandwidthShapes ++ lastShapes ++ tailShapes

variable {target} {field : RegisterField}

/-- a field that the frequency sets -/
theorem foundIn_frequency (hfield : field.FoundIn (RegisterStep.effects target.frequencySteps).finds)
    (hlater : field.shape.sparedBy laterShapes = true) : field.FoundIn (RegisterStep.effects target.steps).finds := by
  rw [laterShapes, RegisterField.sparedBy_append, RegisterField.sparedBy_append, Bool.and_eq_true, Bool.and_eq_true] at hlater
  obtain ⟨⟨hbandwidth, hlast⟩, htail⟩ := hlater
  refine RegisterField.FoundIn.before ?_ (RegisterField.sparedBy_of_shapes (tailSteps_shape _ _) htail)
  refine RegisterField.FoundIn.before ?_ (RegisterField.sparedBy_of_shapes (lastSteps_shape target) hlast)
  refine RegisterField.FoundIn.before ?_ (RegisterField.sparedBy_of_shapes (bandwidthSteps_shape _ _ _) hbandwidth)
  exact hfield.after _

/-- a field that the bandwidth sets -/
theorem foundIn_bandwidth
    (hfield : field.FoundIn
      (RegisterStep.effects (bandwidthSteps target.bandwidth target.dataSc target.bwIndication)).finds)
    (hlast : field.sparedBy target.lastSteps = true) (htail : field.shape.sparedBy tailShapes = true) :
    field.FoundIn (RegisterStep.effects target.steps).finds := by
  refine RegisterField.FoundIn.before ?_ (RegisterField.sparedBy_of_shapes (tailSteps_shape _ _) htail)
  refine RegisterField.FoundIn.before ?_ hlast
  exact hfield.after _

/-- the two fields in front of the tuning -/
theorem frequency_found : ∀ field ∈ [bbField regOfdmcckenJaguar 0x30000000 0x03,
    bbField regFcAreaJaguar 0x1ffe0000 (productionFcAreaData target.number)],
    field.FoundIn (RegisterStep.effects target.steps).finds := by
  have htune (field : RegisterField) (h : field.shape.sparedBy lastShapes = true) :
      field.sparedBy (tuneSteps .a target.rfPathA target.number target.bandwidth ++
        tuneSteps .b target.rfPathB target.number target.bandwidth) = true := by
    rw [RegisterField.sparedBy_append, RegisterField.sparedBy_of_shapes (tuneSteps_shape _ _ _ _) h,
      RegisterField.sparedBy_of_shapes (tuneSteps_shape _ _ _ _) h, Bool.and_self]
  simp only [List.forall_mem_cons, List.not_mem_nil, false_imp_iff, implies_true, and_true]
  constructor
  · refine foundIn_frequency (bbField_found 0 rfl ?_) (by decide +kernel)
    rw [RegisterField.sparedBy_cons, htune _ (by decide), Bool.and_true, ← RegisterField.sparedByStep_shape, bbStep_shape]
    decide
  · refine foundIn_frequency (bbField_found 1 rfl (htune _ ?_)) ?_ <;> rw [bbField_shape] <;> decide +kernel

theorem bandwidthFields_spared (bandwidth : Bandwidth) (dataSc bwIndication : UInt8) :
    ∀ field ∈ bandwidthFields bandwidth dataSc bwIndication,
      field.shape.Fits ∧ field.shape.sparedBy (lastShapes ++ tailShapes) = true := by
  have hshape : (bandwidthFields bandwidth dataSc bwIndication).map RegisterField.shape
      = (bandwidthFields bandwidth 0 0).map RegisterField.shape := by
    cases bandwidth <;>
      simp only [bandwidthFields, secondaryFields, cckSystemFields, reduceCtorEq, or_self, true_or, or_true, if_true,
        if_false, List.map_append, List.map_cons, List.map_nil, bbField_shape, RegisterField.mk_shape]
  have hspared : ∀ field ∈ (bandwidthFields bandwidth 0 0).map RegisterField.shape,
      field.Fits ∧ field.sparedBy (lastShapes ++ tailShapes) = true := by
    cases bandwidth <;> decide +kernel
  intro field hfield
  exact hspared _ (hshape ▸ List.mem_map_of_mem hfield)

/-- the fields of the bandwidth, where the bandwidth is set -/
theorem bandwidth_found (bandwidth : Bandwidth) (dataSc bwIndication : UInt8) :
    ∀ field ∈ bandwidthFields bandwidth dataSc bwIndication,
      field.FoundIn (RegisterStep.effects (bandwidthSteps bandwidth dataSc bwIndication)).finds := by
  have hword {steps later : List RegisterStep} {field : RegisterField} (i : ℕ)
      (hstep : steps.drop i = ⟨field.address, field.bytes, field.mask, field.value, field.mask, field.value⟩ :: later)
      (hsize : field.bytes ≤ 2 ^ 16) (hspared : field.shape.sparedBy (later.map RegisterStep.shape) = true) :
      field.FoundIn (RegisterStep.effects steps).finds :=
    RegisterField.foundIn_drop i hstep rfl rfl (Nat.and_self _) rfl hsize (RegisterField.sparedBy_of_shape hspared)
  have hbb {steps later : List RegisterStep} {address : UInt16} {bitmask data : UInt32} (i : ℕ)
      (hstep : steps.drop i = bbStep address bitmask data :: later)
      (hspared : (bbField address bitmask data).shape.sparedBy (later.map RegisterStep.shape) = true) :
      (bbField address bitmask data).FoundIn (RegisterStep.effects steps).finds :=
    hword i hstep (show 4 ≤ 2 ^ 16 by decide) hspared
  -- the bits of the secondary channel are written again
  have hmode {steps later : List RegisterStep}
      (hstep : steps.drop 2 = bbStep regRfModJaguar 0x003003c3 (rfModeData bandwidth) :: later)
      (hspared : (bbField regRfModJaguar 0x003000c3 (rfModeData bandwidth)).shape.sparedBy
        (later.map RegisterStep.shape) = true) :
      (bbField regRfModJaguar 0x003000c3 (rfModeData bandwidth)).FoundIn (RegisterStep.effects steps).finds := by
    refine RegisterField.foundIn_drop 2 hstep rfl rfl ?_ ?_ (show 4 ≤ 2 ^ 16 by decide)
      (RegisterField.sparedBy_of_shape hspared)
    · cases bandwidth <;> decide
    · cases bandwidth <;> decide
  cases bandwidth with
  | mhz20 =>
    simp only [bandwidthFields, secondaryFields, cckSystemFields, bandwidthSteps, afterModeSteps, secondarySteps, cckSystemSteps,
      reduceCtorEq, or_self, if_false, List.append_nil, List.cons_append, List.nil_append, List.forall_mem_cons,
      List.not_mem_nil, false_imp_iff, implies_true, and_true]
    refine ⟨hword 0 rfl (show 2 ≤ 2 ^ 16 by decide) ?_, hword 1 rfl (show 1 ≤ 2 ^ 16 by decide) ?_, hmode rfl ?_,
      hbb 3 rfl ?_, hbb 4 rfl ?_⟩
    all_goals simp only [bbField_shape, RegisterField.mk_shape, List.map, setWord_shape, bbStep_shape]
    all_goals decide +kernel
  | mhz40 =>
    simp only [bandwidthFields, secondaryFields, cckSystemFields, bandwidthSteps, afterModeSteps, secondarySteps, cckSystemSteps,
      reduceCtorEq, true_or, if_true, if_false, List.cons_append, List.nil_append, List.forall_mem_cons,
      List.not_mem_nil, false_imp_iff, implies_true, and_true]
    refine ⟨hword 0 rfl (show 2 ≤ 2 ^ 16 by decide) ?_, hword 1 rfl (show 1 ≤ 2 ^ 16 by decide) ?_, hmode rfl ?_,
      hbb 3 rfl ?_, hbb 4 rfl ?_, hbb 5 rfl ?_, hbb 6 rfl ?_, hbb 7 rfl ?_⟩
    all_goals simp only [bbField_shape, RegisterField.mk_shape, List.map, setWord_shape, bbStep_shape]
    all_goals decide +kernel
  | mhz80 =>
    simp only [bandwidthFields, secondaryFields, cckSystemFields, bandwidthSteps, afterModeSteps, secondarySteps, cckSystemSteps,
      reduceCtorEq, or_true, if_true, if_false, List.append_nil, List.cons_append, List.nil_append, List.forall_mem_cons,
      List.not_mem_nil, false_imp_iff, implies_true, and_true]
    refine ⟨hword 0 rfl (show 2 ≤ 2 ^ 16 by decide) ?_, hword 1 rfl (show 1 ≤ 2 ^ 16 by decide) ?_, hmode rfl ?_,
      hbb 3 rfl ?_, hbb 4 rfl ?_, hbb 5 rfl ?_, hbb 6 rfl ?_⟩
    all_goals simp only [bbField_shape, RegisterField.mk_shape, List.map, setWord_shape, bbStep_shape]
    all_goals decide +kernel

/-- the two bits of the spurs -/
theorem spur_found : (bbField regRfModJaguar 0x00000300 target.spurBits).FoundIn (RegisterStep.effects target.steps).finds := by
  have htail : (bbField regRfModJaguar 0x00000300 target.spurBits).shape.sparedBy tailShapes = true := by
    rw [bbField_shape]
    decide +kernel
  by_cases hnumber : target.number > 14
  · have hspurs : spurSteps target.number target.bandwidth = [] := if_pos hnumber
    refine foundIn_bandwidth (RegisterField.foundIn_drop 2 rfl rfl rfl ?_ ?_ (show 4 ≤ 2 ^ 16 by decide) ?_) ?_ htail
    · exact (by decide : 0x00000300 &&& 0x003003c3 = 0x00000300)
    · rw [spurBits, if_pos hnumber]
      cases target.bandwidth <;> decide
    · refine RegisterField.sparedBy_of_shapes (afterModeSteps_shape _ _ _) ?_
      rw [bbField_shape]
      decide
    · rw [lastSteps, hspurs]
      apply RegisterField.sparedBy_of_shape
      simp only [bbField_shape, List.nil_append, List.map, chnlbwStep_shape]
      decide
  · have hspurs : spurSteps target.number target.bandwidth
        = [bbStep regRfModJaguar 0x00000300 (spurData target.number target.bandwidth)] := if_neg hnumber
    refine RegisterField.FoundIn.before ?_ (RegisterField.sparedBy_of_shapes (tailSteps_shape _ _) htail)
    rw [lastSteps, hspurs, spurBits, if_neg hnumber, List.singleton_append]
    refine RegisterField.FoundIn.after (bbField_found 0 rfl ?_) _
    apply RegisterField.sparedBy_of_shape
    simp only [bbField_shape, List.map, chnlbwStep_shape]
    decide

/-- the captured registers -/
theorem tail_found : ∀ field ∈ target.tailFields,
    field.Fits ∧ field.FoundIn (RegisterStep.effects target.steps).finds := by
  have hwords : ∀ tail ∈ [productionCapturedTxBringupTail20mhz, productionCapturedTxBringupTail40mhz],
      ((capturedSteps tail).map RegisterStep.shape).Pairwise
        (fun step later => step.field.shape.sparedByStep later = true) ∧
          ∀ step ∈ capturedSteps tail, step.field.Fits := by
    decide +kernel
  have hcaptured (tail : List (String × UInt16 × UInt32))
      (htail : tail ∈ [productionCapturedTxBringupTail20mhz, productionCapturedTxBringupTail40mhz]) :
      ∀ step ∈ capturedSteps tail,
        step.field.Fits ∧ step.field.FoundIn (RegisterStep.effects (capturedSteps tail)).finds := by
    obtain ⟨hspared, hfits⟩ := hwords tail htail
    intro step hstep
    exact ⟨hfits step hstep, RegisterField.foundIn_of_pairwise hspared step hstep (hfits step hstep).2⟩
  have hfound : ∀ step ∈ tailSteps target.channel target.bandwidth, step.field.Fits ∧
      step.field.FoundIn (RegisterStep.effects (tailSteps target.channel target.bandwidth)).finds := by
    rcases tailSteps_cases target.channel target.bandwidth with h | h | h <;> rw [h]
    · intro step hstep
      cases hstep
    · exact hcaptured _ List.mem_cons_self
    · exact hcaptured _ (List.mem_cons_of_mem _ List.mem_cons_self)
  intro field hfield
  obtain ⟨step, hstep, rfl⟩ := List.mem_map.1 hfield
  exact ⟨(hfound step hstep).1, (hfound step hstep).2.after _⟩

/-- what the switch of the band sets stays, but for what is captured -/
theorem band_found : ∀ step ∈ bandSteps target.cckCheck target.channel.band target.rfeType,
    step.address ≠ regOfdmcckenJaguar → step.field.sparedBy (tailSteps target.channel target.bandwidth) = true →
      step.field.Fits ∧ step.field.FoundIn (RegisterStep.effects target.steps).finds := by
  have hshapes : ∀ shapes ∈ bandShapes,
      (shapes.Pairwise fun step later => step.field.shape.sparedByStep later = true) ∧
        ∀ step ∈ shapes, step.field.Fits ∧ (step.address ≠ regOfdmcckenJaguar →
          step.field.shape.sparedBy (frequencyShapes ++ bandwidthShapes ++ lastShapes) = true) := by
    decide +kernel
  obtain ⟨hpairwise, hlater⟩ := hshapes _ (bandSteps_shape target.cckCheck target.channel.band target.rfeType)
  intro step hstep haddress htail
  obtain ⟨hfits, hspared⟩ := hlater step.shape (List.mem_map_of_mem hstep)
  have hafter : step.field.shape.sparedBy (frequencyShapes ++ bandwidthShapes ++ lastShapes) = true := hspared haddress
  rw [RegisterField.sparedBy_append, RegisterField.sparedBy_append, Bool.and_eq_true, Bool.and_eq_true] at hafter
  obtain ⟨⟨hfrequency, hbandwidth⟩, hlast⟩ := hafter
  refine ⟨hfits, RegisterField.FoundIn.before ?_ htail⟩
  refine RegisterField.FoundIn.before ?_ (RegisterField.sparedBy_of_shapes (lastSteps_shape target) hlast)
  refine RegisterField.FoundIn.before ?_ (RegisterField.sparedBy_of_shapes (bandwidthSteps_shape _ _ _) hbandwidth)
  refine RegisterField.FoundIn.before ?_ (RegisterField.sparedBy_of_shapes (frequencySteps_shape target) hfrequency)
  exact RegisterField.FoundIn.after (RegisterField.foundIn_of_pairwise hpairwise step hstep hfits.2) _

theorem bandBit_eq (cckCheck : UInt8) :
    cckCheck.toNat &&& bit7.toNat = (bandBit (bandOf cckCheck)).toNat &&& bit7.toNat := by
  have hbit : cckCheck.toNat &&& bit7.toNat = (cckCheck.toNat.testBit 7).toNat * 2 ^ 7 := Nat.and_two_pow _ 7
  have hband : bandOf cckCheck = if cckCheck.toNat.testBit 7 then .ghz5 else .ghz2 := by
    have hzero : cckCheck &&& bit7 = 0 ↔ cckCheck.toNat.testBit 7 = false := by
      rw [← UInt8.toNat_inj, UInt8.toNat_and, hbit]
      cases cckCheck.toNat.testBit 7 <;> decide
    simp only [bandOf, ne_eq, hzero]
    cases cckCheck.toNat.testBit 7 <;> rfl
  rw [hbit, hband]
  cases cckCheck.toNat.testBit 7 <;> rfl

/-- the band bit, which is only written when the band is switched -/
theorem bandField_in {start file : StuckRegisters}
    (hreached : StuckRegisters.Reached (RegisterStep.effects target.steps) start file)
    (hstart : start.value regCckCheck8812 1 = target.cckCheck.toNat) : (bandField target.channel.band).In file := by
  by_cases hband : bandOf target.cckCheck = target.channel.band
  · have hsteps : bandSteps target.cckCheck target.channel.band target.rfeType
        = setRfeSteps target.channel.band target.rfeType := if_pos hband
    have hrfe : RegisterStep.avoid (setRfeSteps target.channel.band target.rfeType) regCckCheck8812 = true := by
      have hshapes : ∀ shapes ∈ rfeShapes, RegisterStep.avoid shapes regCckCheck8812 = true := by decide +kernel
      rw [← RegisterStep.avoid_shape]
      exact hshapes _ (setRfeSteps_shape _ _)
    have havoid : RegisterStep.avoid target.steps regCckCheck8812 = true := by
      rw [steps, hsteps]
      simp only [RegisterStep.avoid_append, hrfe, Bool.and_true, Bool.and_eq_true]
      refine ⟨⟨⟨⟨by decide, ?_⟩, ?_⟩, ?_⟩, ?_⟩
      · exact RegisterStep.avoid_of_shapes (frequencySteps_shape target) (by decide)
      · exact RegisterStep.avoid_of_shapes (bandwidthSteps_shape _ _ _) (by decide)
      · exact RegisterStep.avoid_of_shapes (lastSteps_shape target) (by decide)
      · exact RegisterStep.avoid_of_shapes (tailSteps_shape _ _) (by decide +kernel)
    have hkept : file.value regCckCheck8812 1 = start.value regCckCheck8812 1 := by
      apply hreached.within.value_of_avoid
      intro k hk
      rw [Nat.lt_one_iff.1 hk]
      exact havoid
    rw [RegisterField.In, bandField]
    dsimp only
    rw [hkept, hstart, bandBit_eq, hband]
  · have hstep : setField regCckCheck8812 1 bit7.toNat (bandBit target.channel.band).toNat
        ∈ bandSteps target.cckCheck target.channel.band target.rfeType := by
      rw [bandSteps, if_neg hband]
      cases target.channel.band with
      | ghz2 =>
        simp only [switchSteps, switchTo2gSteps, List.mem_append]
        exact .inl (.inr List.mem_cons_self)
      | ghz5 =>
        simp only [switchSteps, switchTo5gSteps, List.mem_append]
        exact .inl (.inl (.inl (.inl (.inl (.inl List.mem_cons_self)))))
    have haddress : regCckCheck8812 ≠ regOfdmcckenJaguar := by decide
    have htail : (bandField target.channel.band).sparedBy (tailSteps target.channel target.bandwidth) = true := by
      refine RegisterField.sparedBy_of_shapes (tailSteps_shape _ _) ?_
      rw [bandField, RegisterField.mk_shape]
      decide +kernel
    obtain ⟨hfits, hfound⟩ := band_found _ hstep haddress htail
    exact RegisterField.in_of_found hreached.bits.found hfound hfits.1 hfits.2

/-- the registers after the sequence -/
theorem fields_in {start file : StuckRegisters}
    (hreached : StuckRegisters.Reached (RegisterStep.effects target.steps) start file)
    (hstart : start.value regCckCheck8812 1 = target.cckCheck.toNat) : ∀ field ∈ target.fields, field.In file := by
  have hin {field : RegisterField}
      (hfield : field.Fits ∧ field.FoundIn (RegisterStep.effects target.steps).finds) : field.In file :=
    RegisterField.in_of_found hreached.bits.found hfield.2 hfield.1.1 hfield.1.2
  simp only [fields, List.forall_mem_append, List.forall_mem_cons, List.not_mem_nil, false_imp_iff, implies_true,
    and_true]
  refine ⟨⟨⟨bandField_in hreached hstart, ?_, ?_, ?_⟩, ?_⟩, fun field hfield => hin (tail_found field hfield)⟩
  · exact hin ⟨bbField_fits _ _ _, frequency_found _ List.mem_cons_self⟩
  · exact hin ⟨bbField_fits _ _ _, frequency_found _ (List.mem_cons_of_mem _ List.mem_cons_self)⟩
  · exact hin ⟨bbField_fits _ _ _, spur_found⟩
  · intro field hfield
    obtain ⟨hfits, hspared⟩ := bandwidthFields_spared _ _ _ field hfield
    rw [RegisterField.sparedBy_append, Bool.and_eq_true] at hspared
    exact hin ⟨hfits, foundIn_bandwidth (bandwidth_found _ _ _ field hfield)
      (RegisterField.sparedBy_of_shapes (lastSteps_shape target) hspared.1) hspared.2⟩

end ChannelTarget

/-! ## The sequence on an adapter -/

section Run

variable (registers : Rtl8812auRegisterAccess) {channel : Channel} {bandwidth : Bandwidth} {rfeType : UInt8}
  {radioaPlan radiobPlan : RealtekTablePlan} {file : StuckRegisters}

/-- what was looked up, and on which adapter -/
theorem ChannelTarget.lookUp_ok {target : ChannelTarget}
    (h : lookUp channel bandwidth rfeType radioaPlan radiobPlan file = .ok target) :
    target.Planned radioaPlan radiobPlan ∧
      (target.channel = channel ∧ target.bandwidth = bandwidth ∧ target.rfeType = rfeType) ∧
      target.cckCheck = file.byteAt regCckCheck8812 ∧ target.bwIndication = file.byteAt (regBwIndicationJaguar + 3) := by
  obtain ⟨number, hnumber, h⟩ := except_bind_ok h
  obtain ⟨dataSc, hdataSc, h⟩ := except_bind_ok h
  obtain ⟨rfPathA, hrfPathA, h⟩ := except_bind_ok h
  obtain ⟨rfPathB, hrfPathB, h⟩ := except_bind_ok h
  obtain rfl := Except.ok.inj h
  exact ⟨⟨hnumber, hdataSc, hrfPathA, hrfPathB⟩, ⟨rfl, rfl, rfl⟩, rfl, rfl⟩

/-- if a number cannot be looked up, the sequence does not get past the checks -/
theorem performs_unplanned {P : StuckRegisters → Prop} {error : RuntimeRadioError}
    (h : ChannelTarget.lookUp channel bandwidth rfeType radioaPlan radiobPlan file = .error error) :
    Performs P (productionChannelSequence registers channel bandwidth rfeType radioaPlan radiobPlan) (fun _ => False)
      (RegisterStep.effects rfPreflightSteps) := by
  rw [← List.append_nil rfPreflightSteps]
  refine Performs.counters.bind_empty fun before _ => ?_
  refine (Performs.ofExcept _).bind_empty fun number hnumber => ?_
  refine (Performs.ofExcept _).bind_empty fun dataSc hdataSc => ?_
  refine (performs_rfPreflight registers).append fun _ _ => ?_
  refine (Performs.ofExcept _).bind_empty fun rfPathA hrfPathA => ?_
  refine (Performs.ofExcept _).bind_empty fun rfPathB hrfPathB => ?_
  rw [ChannelTarget.lookUp, hnumber, hdataSc, hrfPathA, hrfPathB] at h
  cases h

theorem rfPreflightSteps_avoid (address : UInt16) : RegisterStep.avoid rfPreflightSteps address = true :=
  RegisterStep.avoid_of_unwritten (by decide) address

/-- **The channel.** If a number of the channel cannot be looked up, nothing is written. Otherwise the sequence writes
nothing but what its steps write, however it ends, and if it returns, the RFE type has a setting, every field of the
channel reads as it should, the bit of the band among them, and so does what the switch of the band set, unless it is
captured. The number that is looked up for channel 0 at 40 MHz is the one of a build without overflow checks. -/
theorem channel_registers {s s' : RegisterRun (FaultyDevice StuckRegisters)} {outcome : Except RuntimeRadioError ℕ}
    (hrun : (productionChannelSequence registers channel bandwidth rfeType radioaPlan radiobPlan).exec s = (outcome, s')) :
    (∀ error, ChannelTarget.lookUp channel bandwidth rfeType radioaPlan radiobPlan s.transport.file = .error error →
      s'.transport.file = s.transport.file ∧ ∀ n, outcome ≠ .ok n) ∧
    ∀ target, ChannelTarget.lookUp channel bandwidth rfeType radioaPlan radiobPlan s.transport.file = .ok target →
      (∀ c, RegisterStep.avoid target.steps c.1 = true → s'.transport.file.bits c = s.transport.file.bits c) ∧
      ∀ n, outcome = .ok n → RfeSupported channel.band rfeType ∧
        (∀ field ∈ target.fields, field.In s'.transport.file) ∧
        ∀ step ∈ bandSteps target.cckCheck channel.band rfeType, step.address ≠ regOfdmcckenJaguar →
          step.field.sparedBy (tailSteps channel bandwidth) = true → step.field.In s'.transport.file := by
  constructor
  · intro error herror
    obtain ⟨hwithin, hok⟩ := (performs_unplanned (P := fun _ => True) registers herror).outcome trivial hrun
    constructor
    · apply StuckRegisters.ext
      · funext c
        exact hwithin.bits_of_avoid (rfPreflightSteps_avoid c.1)
      · exact hwithin.writable
    · intro n hn
      exact (hok n hn).1
  · intro target htarget
    obtain ⟨hplanned, ⟨rfl, rfl, rfl⟩, hcck, hbw⟩ := ChannelTarget.lookUp_ok htarget
    have hknown : BandKnown target.cckCheck target.bwIndication s.transport.file := by
      intro address haddress
      rcases List.mem_pair.1 haddress with rfl | rfl
      · exact (s.transport.file.toNat_byteAt _).symm.trans (congrArg UInt8.toNat hcck.symm)
      · exact (s.transport.file.toNat_byteAt _).symm.trans (congrArg UInt8.toNat hbw.symm)
    obtain ⟨hwithin, hok⟩ := (performs_channel registers target hplanned).outcome hknown hrun
    refine ⟨fun c hc => hwithin.bits_of_avoid hc, fun n hn => ?_⟩
    obtain ⟨hsupported, hreached⟩ := hok n hn
    have hstart : s.transport.file.value regCckCheck8812 1 = target.cckCheck.toNat := by
      rw [hcck, StuckRegisters.toNat_byteAt]
    refine ⟨hsupported, ChannelTarget.fields_in hreached hstart, fun step hstep haddress hspared => ?_⟩
    obtain ⟨hfits, hfound⟩ := ChannelTarget.band_found step hstep haddress hspared
    exact RegisterField.in_of_found hreached.bits.found hfound hfits.1 hfits.2

end Run

/-! ## Every channel -/

/-- the shapes of what a channel can ask for -/
def channelShapes : List RegisterStep :=
  bandShapes.flatten ++ frequencyShapes ++ bandwidthShapes ++ lastShapes ++ tailShapes

theorem ChannelTarget.avoid_steps (target : ChannelTarget) {address : UInt16}
    (h : RegisterStep.avoid channelShapes address = true) : RegisterStep.avoid target.steps address = true := by
  simp only [channelShapes, RegisterStep.avoid_append, Bool.and_eq_true] at h
  obtain ⟨⟨⟨⟨hband, hfrequency⟩, hbandwidth⟩, hlast⟩, htail⟩ := h
  simp only [ChannelTarget.steps, RegisterStep.avoid_append, Bool.and_eq_true]
  refine ⟨⟨⟨⟨⟨rfPreflightSteps_avoid address, ?_⟩, ?_⟩, ?_⟩, ?_⟩, ?_⟩
  · rw [← RegisterStep.avoid_shape]
    refine List.all_eq_true.2 fun step hstep => List.all_eq_true.1 hband step ?_
    exact List.mem_flatten.2 ⟨_, bandSteps_shape _ _ _, hstep⟩
  · exact RegisterStep.avoid_of_shapes (frequencySteps_shape target) hfrequency
  · exact RegisterStep.avoid_of_shapes (bandwidthSteps_shape _ _ _) hbandwidth
  · exact RegisterStep.avoid_of_shapes (lastSteps_shape target) hlast
  · exact RegisterStep.avoid_of_shapes (tailSteps_shape _ _) htail

/-- the fields of every channel, without their values -/
def channelFieldShapes : List RegisterField :=
  [bandField .ghz2, bbField regOfdmcckenJaguar 0x30000000 0, bbField regFcAreaJaguar 0x1ffe0000 0,
    bbField regRfModJaguar 0x00000300 0].map RegisterField.shape ++
    (bandwidthFields .mhz40 0 0).map RegisterField.shape ++ tailShapes.map RegisterStep.field

theorem ChannelTarget.fields_shape (target : ChannelTarget) :
    ∀ field ∈ target.fields, field.shape ∈ channelFieldShapes := by
  have hbandwidth (bandwidth : Bandwidth) (dataSc bwIndication : UInt8) :
      ∀ field ∈ bandwidthFields bandwidth dataSc bwIndication,
        field.shape ∈ (bandwidthFields .mhz40 0 0).map RegisterField.shape := by
    cases bandwidth <;>
      simp only [bandwidthFields, secondaryFields, cckSystemFields, reduceCtorEq, or_self, true_or, or_true, if_true,
        if_false, List.forall_mem_append, List.forall_mem_cons, List.not_mem_nil, false_imp_iff, implies_true, and_true,
        bbField_shape, RegisterField.mk_shape] <;>
      decide
  have htail : ∀ field ∈ target.tailFields, field.shape ∈ tailShapes.map RegisterStep.field := by
    intro field hfield
    obtain ⟨step, hstep, rfl⟩ := List.mem_map.1 hfield
    exact List.mem_map.2 ⟨step.shape, tailSteps_shape _ _ step hstep, rfl⟩
  simp only [ChannelTarget.fields, List.forall_mem_append, List.forall_mem_cons, List.not_mem_nil, false_imp_iff,
    implies_true, and_true, bbField_shape]
  refine ⟨⟨⟨?_, by decide, by decide, by decide⟩, fun field hfield => ?_⟩, fun field hfield => ?_⟩
  · cases target.channel.band <;> decide
  · exact List.mem_append_left _ (List.mem_append_right _ (hbandwidth _ _ _ field hfield))
  · exact List.mem_append_right _ (htail field hfield)

/-- channel 6 at 40 MHz, on an adapter that is on 5 GHz -/
def channel6Target : ChannelTarget where
  channel := ⟨6, 2437, .ghz2⟩
  bandwidth := .mhz40
  rfeType := 3
  number := 8
  dataSc := vhtDataSc20LowerOf80mhz
  rfPathA := 0x0a12a
  rfPathB := 0x0a12a
  cckCheck := 0xff
  bwIndication := 0xff

theorem channel_registers_setBench :
    RfeSupported channel6Target.channel.band 3 ∧ ∀ field ∈ channel6Target.fields,
      field.In ((productionChannelSequence {} channel6Target.channel .mhz40 3 radioaSamplePlan radioaSamplePlan).exec
        setBench).2.transport.file := by
  have htarget : ChannelTarget.lookUp channel6Target.channel .mhz40 3 radioaSamplePlan radioaSamplePlan
      setBench.transport.file = .ok channel6Target := by decide +kernel
  have hok : ((productionChannelSequence {} channel6Target.channel .mhz40 3 radioaSamplePlan radioaSamplePlan).exec
      setBench).1 = .ok 36 := by decide +kernel
  obtain ⟨hsupported, hfields, -⟩ := ((channel_registers {} Prod.mk.eta.symm).2 _ htarget).2 _ hok
  exact ⟨hsupported, hfields⟩

end WfbLink.Runtime
