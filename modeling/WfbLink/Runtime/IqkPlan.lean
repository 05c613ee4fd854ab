/-
What the runtime IQK reads, writes and backs up (`wfb-radio-runtime/src/lib.rs`): the register lists, the set-up plan,
and the plans that fill in what was selected. A set-up write does not carry its phase and reason, which nothing reads.
-/
import WfbLink.RadioCore.Channel
import WfbLink.Runtime.IqkStage

namespace WfbLink.Runtime

open WfbLink.RadioCore

/-! ## Registers -/

def regIqkMacbb0x0520 : UInt16 := 0x0520
def regBcnCtrl : UInt16 := 0x0550
def regOfdmcckenJaguar : UInt16 := 0x0808
def regAgcTableJaguar : UInt16 := 0x082c
def regCcaOnSecJaguar : UInt16 := 0x0838
def regIqkMacbb0x090c : UInt16 := 0x090c
def regIqkTrigger980 : UInt16 := 0x0980
def regCckRxJaguar : UInt16 := 0x0a04
def regCckRxPathJaguar : UInt16 := 0x0a07
def regIqkRxIqcAJaguar : UInt16 := 0x0c10
def regOfdm0Xbagccore1 : UInt16 := 0x0c58
def regIqkAfeAC5c : UInt16 := 0x0c5c
def regIqkAfeAC60 : UInt16 := 0x0c60
def regIqkAfeAC64 : UInt16 := 0x0c64
def regIqkAfeAC68 : UInt16 := 0x0c68
def regIqkTxToneAC80 : UInt16 := 0x0c80
def regIqkRxToneAC84 : UInt16 := 0x0c84
def regIqkRfeSettingAC88 : UInt16 := 0x0c88
def regIqkRfeSettingAC8c : UInt16 := 0x0c8c
def regIqkResultAD00 : UInt16 := 0x0d00
def regIqkResultBD40 : UInt16 := 0x0d40
def regTxBbCtrlAJaguar : UInt16 := regRfPathA3wire
def regIqkTxPowerCtrlAC94 : UInt16 := 0x0c94
def regRfePinmuxAJaguar : UInt16 := 0x0cb0
def regRfeInvAJaguar : UInt16 := 0x0cb4
def regRfeTimingAJaguar : UInt16 := 0x0cb8
def regIqkTxCtrlACc4 : UInt16 := 0x0cc4
def regIqkTxCtrlACc8 : UInt16 := 0x0cc8
def regIqkTxYACcc : UInt16 := 0x0ccc
def regIqkTxXACd4 : UInt16 := 0x0cd4
def regIqkVdfACe8 : UInt16 := 0x0ce8
def regIqkRxIqcBJaguar : UInt16 := 0x0e10
def regFpga0IqkJaguar : UInt16 := 0x0e28
def regTxIqkToneAJaguar : UInt16 := 0x0e30
def regRxIqkToneAJaguar : UInt16 := 0x0e34
def regTxIqkPiAJaguar : UInt16 := 0x0e38
def regRxIqkPiAJaguar : UInt16 := 0x0e3c
def regTxIqkJaguar : UInt16 := 0x0e40
def regRxIqkJaguar : UInt16 := 0x0e44
def regIqkAgcPtsJaguar : UInt16 := 0x0e48
def regIqkAgcRspJaguar : UInt16 := 0x0e4c
def regTxIqkToneBJaguar : UInt16 := 0x0e50
def regRxIqkToneBJaguar : UInt16 := 0x0e54
def regTxIqkPiBJaguar : UInt16 := 0x0e58
def regIqkAfeBE5c : UInt16 := 0x0e5c
def regRxIqkPiBJaguar : UInt16 := regIqkAfeBE5c
def regIqkAfeBE60 : UInt16 := 0x0e60
def regIqkAgcContJaguar : UInt16 := regIqkAfeBE60
def regIqkAfeBE64 : UInt16 := 0x0e64
def regIqkAfeBE68 : UInt16 := 0x0e68
def regIqkTxToneBE80 : UInt16 := 0x0e80
def regIqkRxToneBE84 : UInt16 := 0x0e84
def regIqkRfeSettingBE88 : UInt16 := 0x0e88
def regIqkRfeSettingBE8c : UInt16 := 0x0e8c
def regTxBbCtrlBJaguar : UInt16 := regRfPathB3wire
def regTxPowerBeforeIqkAJaguar : UInt16 := 0x0e94
def regTxPowerAfterIqkAJaguar : UInt16 := 0x0e9c
def regRxPowerBeforeIqkAJaguar : UInt16 := 0x0ea0
def regRxPowerBeforeIqkA2Jaguar : UInt16 := 0x0ea4
def regRxPowerAfterIqkAJaguar : UInt16 := 0x0ea8
def regRxPowerAfterIqkA2Jaguar : UInt16 := 0x0eac
def regRfePinmuxBJaguar : UInt16 := 0x0eb0
def regRfeInvBJaguar : UInt16 := 0x0eb4
def regTxPowerBeforeIqkBJaguar : UInt16 := regRfeInvBJaguar
def regRfeTimingBJaguar : UInt16 := 0x0eb8
def regTxPowerAfterIqkBJaguar : UInt16 := 0x0ebc
def regRxPowerBeforeIqkBJaguar : UInt16 := 0x0ec0
def regIqkTxCtrlBEc4 : UInt16 := 0x0ec4
def regRxPowerBeforeIqkB2Jaguar : UInt16 := regIqkTxCtrlBEc4
def regIqkTxCtrlBEc8 : UInt16 := 0x0ec8
def regRxPowerAfterIqkBJaguar : UInt16 := regIqkTxCtrlBEc8
def regIqkTxYBEcc : UInt16 := 0x0ecc
def regRxPowerAfterIqkB2Jaguar : UInt16 := regIqkTxYBEcc
def regIqkTxXBEd4 : UInt16 := 0x0ed4
def regIqkVdfBEe8 : UInt16 := 0x0ee8

def rfIqkLokReadbackJaguar : UInt32 := 0x08
def rfIqkTx0x30Jaguar : UInt32 := 0x30
def rfIqkTx0x31Jaguar : UInt32 := 0x31
def rfIqkTx0x32Jaguar : UInt32 := 0x32
def rfIqkLokLoadJaguar : UInt32 := 0x58
def rfIqkModeJaguar : UInt32 := 0xef

abbrev Rtl8812auRegisterReadSpec : Type := String × UInt16

def rtl8812aIqkMacbbBackupRegisters : List Rtl8812auRegisterReadSpec :=
  [("R_0x520", regIqkMacbb0x0520), ("REG_BCN_CTRL", regBcnCtrl), ("REG_OFDMCCKEN_JAGUAR", regOfdmcckenJaguar),
    ("REG_CCK_RX_JAGUAR", regCckRxJaguar), ("R_0x90c", regIqkMacbb0x090c), ("R_0x978", 0x0978), ("R_0x97c", 0x097c),
    ("R_0x984", 0x0984), ("rA_PI_Mode_Jaguar", regRfPiModeAJaguar), ("rB_PI_Mode_Jaguar", regRfPiModeBJaguar),
    ("REG_CCA_ON_SEC_JAGUAR", regCcaOnSecJaguar), ("REG_AGC_TABLE_JAGUAR", regAgcTableJaguar),
    ("R_0xc94", regIqkTxPowerCtrlAC94), ("R_0xe94", regTxPowerBeforeIqkAJaguar)]

def rtl8812aIqkAfeBackupRegisters : List Rtl8812auRegisterReadSpec :=
  [("R_0xc5c", regIqkAfeAC5c), ("R_0xc60", regIqkAfeAC60), ("R_0xc64", regIqkAfeAC64), ("R_0xc68", regIqkAfeAC68),
    ("rA_RFE_Pinmux_Jaguar", regRfePinmuxAJaguar), ("rA_RFE_Inv_Jaguar", regRfeInvAJaguar), ("R_0xe5c", regIqkAfeBE5c),
    ("R_0xe60", regIqkAfeBE60), ("R_0xe64", regIqkAfeBE64), ("R_0xe68", regIqkAfeBE68),
    ("rB_RFE_Pinmux_Jaguar", regRfePinmuxBJaguar), ("rB_RFE_Inv_Jaguar", regRfeInvBJaguar)]

def rtl8812aIqkPageC1LatchRegisters : List Rtl8812auRegisterReadSpec :=
  [("R_0xc80_page_c1", regIqkTxToneAC80), ("R_0xc84_page_c1", regIqkRxToneAC84),
    ("R_0xc88_page_c1", regIqkRfeSettingAC88), ("R_0xc8c_page_c1", regIqkRfeSettingAC8c),
    ("R_0xcb8_page_c1", regRfeTimingAJaguar), ("R_0xcc4_page_c1", regIqkTxCtrlACc4),
    ("R_0xcc8_page_c1", regIqkTxCtrlACc8), ("R_0xccc_page_c1", regIqkTxYACcc), ("R_0xcd4_page_c1", regIqkTxXACd4),
    ("R_0xce8_page_c1", regIqkVdfACe8), ("R_0xe80_page_c1", regIqkTxToneBE80), ("R_0xe84_page_c1", regIqkRxToneBE84),
    ("R_0xe88_page_c1", regIqkRfeSettingBE88), ("R_0xe8c_page_c1", regIqkRfeSettingBE8c),
    ("R_0xeb8_page_c1", regRfeTimingBJaguar), ("R_0xec4_page_c1", regIqkTxCtrlBEc4),
    ("R_0xec8_page_c1", regIqkTxCtrlBEc8), ("R_0xecc_page_c1", regIqkTxYBEcc), ("R_0xed4_page_c1", regIqkTxXBEd4),
    ("R_0xee8_page_c1", regIqkVdfBEe8)]

def rtl8812aIqkResultRegisters : List Rtl8812auRegisterReadSpec :=
  [("rA_IQK_Result_Jaguar", regOfdm0Xbagccore1), ("rA_IQK_Shadow_Jaguar", regOfdm0Xbagccore1 + 4),
    ("rA_RX_IQC_Latch_Jaguar", regIqkRxIqcAJaguar), ("rB_IQK_Result_Jaguar", regOfdm0Xbagccore1 + 0x200),
    ("rB_IQK_Shadow_Jaguar", regOfdm0Xbagccore1 + 0x204), ("rB_RX_IQC_Latch_Jaguar", regIqkRxIqcBJaguar),
    ("rFPGA0_IQK", regFpga0IqkJaguar), ("rTx_IQK_Tone_A", regTxIqkToneAJaguar),
    ("rRx_IQK_Tone_A", regRxIqkToneAJaguar), ("rTx_IQK_PI_A", regTxIqkPiAJaguar), ("rRx_IQK_PI_A", regRxIqkPiAJaguar),
    ("rTx_IQK", regTxIqkJaguar), ("rRx_IQK", regRxIqkJaguar), ("rIQK_AGC_Pts", regIqkAgcPtsJaguar),
    ("rIQK_AGC_Rsp", regIqkAgcRspJaguar), ("rTx_IQK_Tone_B", regTxIqkToneBJaguar),
    ("rRx_IQK_Tone_B", regRxIqkToneBJaguar), ("rTx_IQK_PI_B", regTxIqkPiBJaguar), ("rRx_IQK_PI_B", regRxIqkPiBJaguar),
    ("rIQK_AGC_Cont", regIqkAgcContJaguar), ("rTx_Power_Before_IQK_A", regTxPowerBeforeIqkAJaguar),
    ("rTx_Power_After_IQK_A", regTxPowerAfterIqkAJaguar), ("rRx_Power_Before_IQK_A", regRxPowerBeforeIqkAJaguar),
    ("rRx_Power_Before_IQK_A_2", regRxPowerBeforeIqkA2Jaguar), ("rRx_Power_After_IQK_A", regRxPowerAfterIqkAJaguar),
    ("rRx_Power_After_IQK_A_2", regRxPowerAfterIqkA2Jaguar), ("rTx_Power_Before_IQK_B", regTxPowerBeforeIqkBJaguar),
    ("rTx_Power_After_IQK_B", regTxPowerAfterIqkBJaguar), ("rRx_Power_Before_IQK_B", regRxPowerBeforeIqkBJaguar),
    ("rRx_Power_Before_IQK_B_2", regRxPowerBeforeIqkB2Jaguar), ("rRx_Power_After_IQK_B", regRxPowerAfterIqkBJaguar),
    ("rRx_Power_After_IQK_B_2", regRxPowerAfterIqkB2Jaguar)]

def rtl8812aIqkRfBackupOffsets : List UInt32 :=
  [0x65, 0x8f, 0x00, rfIqkModeJaguar, rfIqkTx0x30Jaguar, rfIqkTx0x31Jaguar, rfIqkTx0x32Jaguar, rfIqkLokLoadJaguar]

/-! ## The set-up plan -/

inductive Rtl8812auRuntimeIqkSetupWritePlan where
  | register (registerName : String) (address : UInt16) (width : String) (value : UInt32)
  | maskedBb (registerName : String) (address : UInt16) (mask data : UInt32)
  | rf (path : Rtl8812auRfPath) (rfOffset value : UInt32)
deriving DecidableEq, Repr

def rtl8812auRuntimeIqkSetupWrite8Plan (registerName : String) (address : UInt16) (value : UInt8) :
    Rtl8812auRuntimeIqkSetupWritePlan := .register registerName address "u8" value.toUInt32

def rtl8812auRuntimeIqkSetupWrite32Plan (registerName : String) (address : UInt16) (value : UInt32) :
    Rtl8812auRuntimeIqkSetupWritePlan := .register registerName address "u32" value

def rtl8812auRuntimeIqkSetupMaskedBbPlan (registerName : String) (address : UInt16) (mask data : UInt32) :
    Rtl8812auRuntimeIqkSetupWritePlan := .maskedBb registerName address mask data

def rtl8812auRuntimeIqkSetupRfPlan (path : Rtl8812auRfPath) (rfOffset value : UInt32) :
    Rtl8812auRuntimeIqkSetupWritePlan := .rf path rfOffset value

/-- the RF registers of one path -/
def rtl8812auRuntimeIqkSetupRfPlans (path : Rtl8812auRfPath) : List Rtl8812auRuntimeIqkSetupWritePlan :=
  [rtl8812auRuntimeIqkSetupRfPlan path rfIqkModeJaguar 0x80002,
    rtl8812auRuntimeIqkSetupRfPlan path rfIqkTx0x30Jaguar 0x20000,
    rtl8812auRuntimeIqkSetupRfPlan path rfIqkTx0x31Jaguar 0x3fffd,
    rtl8812auRuntimeIqkSetupRfPlan path rfIqkTx0x32Jaguar 0xfe83f,
    rtl8812auRuntimeIqkSetupRfPlan path 0x65 0x931d5,
    rtl8812auRuntimeIqkSetupRfPlan path 0x8f 0x8a001]

def iqkRfeSetting (band : Band) (rfeType : UInt8) (extPa5g extPa2g : Bool) : UInt32 :=
  if band = .ghz5 then
    if extPa5g then
      if rfeType = 1 then 0x821403e3 else 0x821403f7
    else 0x821403f1
  else if rfeType = 3 then
    if extPa2g then 0x821403e3 else 0x821403f7
  else 0x821403f1

def iqkMixerSetting (band : Band) : UInt32 := if band = .ghz5 then 0x68163e96 else 0x28163e96

def rtl8812auRuntimeIqkSetupPlan (band : Band) (rfeType : UInt8) (extPa5g extPa2g : Bool) :
    List Rtl8812auRuntimeIqkSetupWritePlan :=
  [rtl8812auRuntimeIqkSetupMaskedBbPlan "REG_AGC_TABLE_JAGUAR" regAgcTableJaguar rtl8812aIqkPageC1SelectBit 0,
    rtl8812auRuntimeIqkSetupWrite8Plan "REG_TXPAUSE" regTxpause 0x3f,
    rtl8812auRuntimeIqkSetupMaskedBbPlan "REG_BCN_CTRL" regBcnCtrl 0x00000808 0,
    rtl8812auRuntimeIqkSetupWrite8Plan "REG_OFDMCCKEN_JAGUAR" regOfdmcckenJaguar 0x00,
    rtl8812auRuntimeIqkSetupMaskedBbPlan "REG_CCA_ON_SEC_JAGUAR" regCcaOnSecJaguar 0x0000000f 0x0c,
    rtl8812auRuntimeIqkSetupWrite8Plan "REG_CCK_RX_PATH_JAGUAR" regCckRxPathJaguar 0x0f,
    rtl8812auRuntimeIqkSetupMaskedBbPlan "REG_AGC_TABLE_JAGUAR" regAgcTableJaguar rtl8812aIqkPageC1SelectBit 0,
    rtl8812auRuntimeIqkSetupWrite32Plan "R_0xc60" regIqkAfeAC60 0x77777777,
    rtl8812auRuntimeIqkSetupWrite32Plan "R_0xc64" regIqkAfeAC64 0x77777777,
    rtl8812auRuntimeIqkSetupWrite32Plan "R_0xe60" regIqkAfeBE60 0x77777777,
    rtl8812auRuntimeIqkSetupWrite32Plan "R_0xe64" regIqkAfeBE64 0x77777777,
    rtl8812auRuntimeIqkSetupWrite32Plan "R_0xc68" regIqkAfeAC68 0x19791979,
    rtl8812auRuntimeIqkSetupWrite32Plan "R_0xe68" regIqkAfeBE68 0x19791979,
    rtl8812auRuntimeIqkSetupMaskedBbPlan "rA_PI_Mode_Jaguar" regRfPiModeAJaguar 0x0000000f 0x04,
    rtl8812auRuntimeIqkSetupMaskedBbPlan "rB_PI_Mode_Jaguar" regRfPiModeBJaguar 0x0000000f 0x04,
    rtl8812auRuntimeIqkSetupMaskedBbPlan "R_0xc5c" regIqkAfeAC5c 0x07000000 0x07,
    rtl8812auRuntimeIqkSetupMaskedBbPlan "R_0xe5c" regIqkAfeBE5c 0x07000000 0x07] ++
  rtl8812auRuntimeIqkSetupRfPlans .a ++ rtl8812auRuntimeIqkSetupRfPlans .b ++
  [rtl8812auRuntimeIqkSetupWrite32Plan "R_0x90c" regIqkMacbb0x090c 0x00008000,
    rtl8812auRuntimeIqkSetupMaskedBbPlan "R_0xc94" regIqkTxPowerCtrlAC94 0x00000001 1,
    rtl8812auRuntimeIqkSetupMaskedBbPlan "R_0xe94" regTxPowerBeforeIqkAJaguar 0x00000001 1,
    rtl8812auRuntimeIqkSetupWrite32Plan "R_0x978" 0x0978 0x29002000,
    rtl8812auRuntimeIqkSetupWrite32Plan "R_0x97c" 0x097c 0xa9002000,
    rtl8812auRuntimeIqkSetupWrite32Plan "R_0x984" 0x0984 0x00462910,
    rtl8812auRuntimeIqkSetupMaskedBbPlan "REG_AGC_TABLE_JAGUAR" regAgcTableJaguar rtl8812aIqkPageC1SelectBit 1,
    rtl8812auRuntimeIqkSetupWrite32Plan "R_0xc88" regIqkRfeSettingAC88 (iqkRfeSetting band rfeType extPa5g extPa2g),
    rtl8812auRuntimeIqkSetupWrite32Plan "R_0xe88" regIqkRfeSettingBE88 (iqkRfeSetting band rfeType extPa5g extPa2g),
    rtl8812auRuntimeIqkSetupWrite32Plan "R_0xc8c" regIqkRfeSettingAC8c (iqkMixerSetting band),
    rtl8812auRuntimeIqkSetupWrite32Plan "R_0xe8c" regIqkRfeSettingBE8c (iqkMixerSetting band),
    rtl8812auRuntimeIqkSetupWrite32Plan "R_0xc80" regIqkTxToneAC80 0x18008c10,
    rtl8812auRuntimeIqkSetupWrite32Plan "R_0xc84" regIqkRxToneAC84 0x38008c10,
    rtl8812auRuntimeIqkSetupWrite32Plan "R_0xce8" regIqkVdfACe8 0,
    rtl8812auRuntimeIqkSetupWrite32Plan "R_0xe80" regIqkTxToneBE80 0x18008c10,
    rtl8812auRuntimeIqkSetupWrite32Plan "R_0xe84" regIqkRxToneBE84 0x38008c10,
    rtl8812auRuntimeIqkSetupWrite32Plan "R_0xee8" regIqkVdfBEe8 0]

/-! ## The fill plans -/

def Rtl8812auRfPath.name : Rtl8812auRfPath → Option String
  | .a => some "A"
  | .b => some "B"
  | .both => none

/-- the registers of one path that the fill writes -/
structure IqkFillTarget where
  txBbCtrl : Rtl8812auRegisterReadSpec
  txCtrl : Rtl8812auRegisterReadSpec
  txLatch : Rtl8812auRegisterReadSpec
  txY : Rtl8812auRegisterReadSpec
  txX : Rtl8812auRegisterReadSpec
  rxIqc : Rtl8812auRegisterReadSpec

def iqkFillTargetA : IqkFillTarget where
  txBbCtrl := ("rA_TxBbCtrl", regTxBbCtrlAJaguar)
  txCtrl := ("R_0xcc4", regIqkTxCtrlACc4)
  txLatch := ("R_0xcc8", regIqkTxCtrlACc8)
  txY := ("R_0xccc_TX_Y", regIqkTxYACcc)
  txX := ("R_0xcd4_TX_X", regIqkTxXACd4)
  rxIqc := ("R_0xc10_RX_IQC_A", regIqkRxIqcAJaguar)

def iqkFillTargetB : IqkFillTarget where
  txBbCtrl := ("rB_TxBbCtrl", regTxBbCtrlBJaguar)
  txCtrl := ("R_0xec4", regIqkTxCtrlBEc4)
  txLatch := ("R_0xec8", regIqkTxCtrlBEc8)
  txY := ("R_0xecc_TX_Y", regIqkTxYBEcc)
  txX := ("R_0xed4_TX_X", regIqkTxXBEd4)
  rxIqc := ("R_0xe10_RX_IQC_B", regIqkRxIqcBJaguar)

/-- a path that is not both -/
def iqkFillTarget (path : Rtl8812auRfPath) (message : String) : Except RuntimeRadioError IqkFillTarget :=
  match path with
  | .a => .ok iqkFillTargetA
  | .b => .ok iqkFillTargetB
  | .both => .error (.new "rtl8812a_runtime_iqk_invalid_path" message)

def rtl8812auRuntimeIqkMaskedBbWritePlan (spec : Rtl8812auRegisterReadSpec) (mask data : UInt32) (reason : String) :
    Rtl8812auRuntimeIqkMaskedBbWritePlan := ⟨spec.1, spec.2, mask, data, reason⟩

def iqkPageSelectSpec : Rtl8812auRegisterReadSpec := ("REG_AGC_TABLE_JAGUAR", regAgcTableJaguar)

def rtl8812auIqkTxFillIqcPlan (path : Rtl8812auRfPath) (txX txY : UInt32) (dpkDone : Bool) :
    Except RuntimeRadioError (List Rtl8812auRuntimeIqkMaskedBbWritePlan) := do
  let target ← iqkFillTarget path "RTL8812A IQK TX IQC fill requires path A or path B, not both"
  return [rtl8812auRuntimeIqkMaskedBbWritePlan iqkPageSelectSpec rtl8812aIqkPageC1SelectBit 1
      "_iqk_tx_fill_iqc_8812a selects BB page C1 before writing TX IQC latches",
    rtl8812auRuntimeIqkMaskedBbWritePlan target.txBbCtrl 0x00000080 1
      "_iqk_tx_fill_iqc_8812a enables TX IQC fill path",
    rtl8812auRuntimeIqkMaskedBbWritePlan target.txCtrl 0x00040000 1
      "_iqk_tx_fill_iqc_8812a enables TX IQK correction latch"] ++
    (if dpkDone then []
    else [rtl8812auRuntimeIqkMaskedBbWritePlan target.txCtrl 0x20000000 1
      "_iqk_tx_fill_iqc_8812a enables IQK fill when DPK has not completed"]) ++
    [rtl8812auRuntimeIqkMaskedBbWritePlan target.txLatch 0x20000000 1
      "_iqk_tx_fill_iqc_8812a arms the TX IQK result latch",
    rtl8812auRuntimeIqkMaskedBbWritePlan target.txY 0x000007ff (txY &&& 0x7ff)
      "_iqk_tx_fill_iqc_8812a writes selected TX_Y IQC",
    rtl8812auRuntimeIqkMaskedBbWritePlan target.txX 0x000007ff (txX &&& 0x7ff)
      "_iqk_tx_fill_iqc_8812a writes selected TX_X IQC"]

/-- what is filled in for RX, and why: a value out of range is replaced -/
def iqkRxFillValue (rxX rxY : UInt32) : UInt32 × UInt32 × String :=
  let shiftedX := rxX >>> 1
  let shiftedY := rxY >>> 1
  if shiftedX ≥ 0x112 ∨ (shiftedY ≥ 0x12 ∧ shiftedY ≤ 0x3ee) then
    (0x100, 0, "_iqk_rx_fill_iqc_8812a uses upstream fallback when shifted RX_X/RX_Y is out of range")
  else
    (shiftedX &&& 0x3ff, shiftedY &&& 0x3ff, "_iqk_rx_fill_iqc_8812a writes selected shifted RX IQC")

def rtl8812auIqkRxFillIqcPlan (path : Rtl8812auRfPath) (rxX rxY : UInt32) :
    Except RuntimeRadioError (List Rtl8812auRuntimeIqkMaskedBbWritePlan) := do
  let target ← iqkFillTarget path "RTL8812A IQK RX IQC fill requires path A or path B, not both"
  let value := iqkRxFillValue rxX rxY
  return [rtl8812auRuntimeIqkMaskedBbWritePlan iqkPageSelectSpec rtl8812aIqkPageC1SelectBit 0
      "_iqk_rx_fill_iqc_8812a selects BB page C before writing RX IQC latches",
    rtl8812auRuntimeIqkMaskedBbWritePlan target.rxIqc 0x000003ff value.1 value.2.2,
    rtl8812auRuntimeIqkMaskedBbWritePlan target.rxIqc 0x03ff0000 value.2.1 value.2.2]

end WfbLink.Runtime
