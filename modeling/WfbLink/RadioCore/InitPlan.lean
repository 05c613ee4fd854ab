/-
The dry-run plan of the init sequence (`radio-core/src/init_plan.rs`).

The plan lists the control transfers that the init sequence is expected to make, phase by phase. What the source pushes
to the list is here what a function returns.

- `addFirmwarePageBlocks_eq`: the offsets of the blocks of a page.
-/
import WfbLink.RadioCore.Firmware
import WfbLink.RadioCore.UsbTrace
import WfbLink.Core.Chunks

namespace WfbLink.RadioCore.InitPlan

open WfbLink.Core

/-! ## Registers -/

def regSysFuncEn : UInt16 := 0x0002
def regApsFsmco : UInt16 := 0x0004
def regSysClkr : UInt16 := 0x0008
def regAfeXtalCtrl : UInt16 := 0x0024
def regAfePllCtrl : UInt16 := 0x0028
def regRfCtrl : UInt16 := 0x001f
def regOptCtrl8812 : UInt16 := 0x0074
def regRfBCtrl8812 : UInt16 := regOptCtrl8812 + 2
def regMcufwdl : UInt16 := 0x0080
def regCr : UInt16 := 0x0100
def regPbp : UInt16 := 0x0104
def regTrxffBndy : UInt16 := 0x0114
def regLltInit : UInt16 := 0x01e0
def regRqpn : UInt16 := 0x0200
def regTdectrl : UInt16 := 0x0208
def regRqpnNpq : UInt16 := 0x0214
def regRxdmaAggPgTh : UInt16 := 0x0280
def regRxdmaStatus : UInt16 := 0x0288
def regRxdmaPro8812 : UInt16 := 0x0290
def regFwhwTxqCtrl : UInt16 := 0x0420
def regAmpduMaxTime8812 : UInt16 := 0x0456
def regAmpduMaxLength8812 : UInt16 := 0x0458
def regAmpduBurstMode8812 : UInt16 := 0x04bc
def regRxDrvinfoSz : UInt16 := 0x060f
def regRxfltmap1 : UInt16 := 0x06a2
def regMar : UInt16 := 0x0620
def regRrsr : UInt16 := 0x0440
def regSpecSifs : UInt16 := 0x0428
def regRetryLimit : UInt16 := 0x042a
def regAckto : UInt16 := 0x0640
def regHwseqCtrl : UInt16 := 0x0423
def regBarModeCtrl : UInt16 := 0x04cc
def regNavUpper : UInt16 := 0x0652
def regUstimeTsf : UInt16 := 0x055c
def regUstimeEdca : UInt16 := 0x0638
def regRxPktLimit : UInt16 := 0x060c
def regPifs : UInt16 := 0x0512
def regOfdmcckenJaguar : UInt16 := 0x0808

def fwStartAddress : UInt16 := 0x1000
def maxDlfwPageSize : ℕ := 4096
def maxRegBlockSize : ℕ := 196
def firmwareRemainderBlockSize : ℕ := 8
def txPageBoundary8812 : UInt8 := 0xf7
def lastEntryOfTxPktBuffer8812 : UInt8 := 0xff
def initDryRunFirmwareChunkSize : ℕ := maxDlfwPageSize

/-! ## Transfers -/

inductive InitOperation where
  | read
  | write
  | poll
  | firmwareBlock
deriving DecidableEq, Repr

structure InitRegister where
  name : String
  address : UInt16
  width : ℕ
deriving DecidableEq, Repr

inductive InitPhase where
  | preflight
  | rfReset
  | powerOn
  | macReset
  | llt
  | firmwareDownload
  | firmwareChecksumPoll
  | firmwareReadyPoll
  | macConfig
  | queueDma
  | wmac
  | bbRf
  | channel
deriving DecidableEq, Repr

structure PlannedInitTransfer where
  phase : InitPhase
  operation : InitOperation
  register : Option InitRegister
  description : String
  event : UsbTraceEvent

structure InitDryRunPlan where
  firmwareLen : ℕ
  firmwareChunkSize : ℕ
  transfers : List PlannedInitTransfer

def controlWriteEvent (value : UInt16) (length : ℕ) : UsbTraceEvent where
  kind := .controlWrite
  endpoint := none
  requestType := some 0x40
  request := some 0x05
  value := some value
  index := some 0
  length := some length
  dataHex := none

def controlReadEvent (value : UInt16) (length : ℕ) : UsbTraceEvent where
  kind := .controlRead
  endpoint := none
  requestType := some 0xc0
  request := some 0x05
  value := some value
  index := some 0
  length := some length
  dataHex := none

def readReg (phase : InitPhase) (register : InitRegister) (description : String) : List PlannedInitTransfer :=
  [⟨phase, .read, some register, description, controlReadEvent register.address register.width⟩]

def writeReg (phase : InitPhase) (register : InitRegister) (description : String) : List PlannedInitTransfer :=
  [⟨phase, .write, some register, description, controlWriteEvent register.address register.width⟩]

def pollReg (phase : InitPhase) (register : InitRegister) (description : String) : List PlannedInitTransfer :=
  [⟨phase, .poll, some register, description, controlReadEvent register.address register.width⟩]

def rmwReg8 (phase : InitPhase) (register : InitRegister) (description : String) : List PlannedInitTransfer :=
  readReg phase register description ++ writeReg phase register description

def firmwareBlock (address : UInt16) (length : ℕ) : List PlannedInitTransfer :=
  [⟨.firmwareDownload, .firmwareBlock, some ⟨"FW_START_ADDRESS + offset", address, length⟩,
    "write firmware bytes through USB register block write", controlWriteEvent address length⟩]

/-! ## Phases -/

def addPreflightTransfers : List PlannedInitTransfer :=
  readReg .preflight ⟨"REG_SYS_CLKR + 1", regSysClkr + 1, 1⟩ "check MAC clock state before init" ++
  readReg .preflight ⟨"REG_CR", regCr, 1⟩ "check command register before init" ++
  readReg .preflight ⟨"REG_MCUFWDL", regMcufwdl, 1⟩ "check whether RAM firmware is already selected"

def addRfResetTransfers : List PlannedInitTransfer :=
  writeReg .rfReset ⟨"REG_RF_CTRL", regRfCtrl, 1⟩ "reset RF path A before MAC power-on" ++
  writeReg .rfReset ⟨"REG_RF_CTRL", regRfCtrl, 1⟩ "release RF path A reset before MAC power-on" ++
  writeReg .rfReset ⟨"REG_RF_B_CTRL_8812", regRfBCtrl8812, 1⟩ "reset RF path B before MAC power-on" ++
  writeReg .rfReset ⟨"REG_RF_B_CTRL_8812", regRfBCtrl8812, 1⟩ "release RF path B reset before MAC power-on"

def addPowerOnTransfers : List PlannedInitTransfer :=
  rmwReg8 .powerOn ⟨"REG_APS_FSMCO + 1", regApsFsmco + 1, 1⟩
    "disable SW low-power state in RTL8812 card-emulation to active flow" ++
  pollReg .powerOn ⟨"REG_APS_FSMCO + 2", regApsFsmco + 2, 1⟩
    "poll power-ready bit in RTL8812 card-emulation to active flow" ++
  rmwReg8 .powerOn ⟨"REG_APS_FSMCO + 1", regApsFsmco + 1, 1⟩ "disable WLAN suspend in power sequence" ++
  rmwReg8 .powerOn ⟨"REG_APS_FSMCO + 1", regApsFsmco + 1, 1⟩ "request MAC power-on transition" ++
  pollReg .powerOn ⟨"REG_APS_FSMCO + 1", regApsFsmco + 1, 1⟩ "poll MAC power-on transition completion" ++
  rmwReg8 .powerOn ⟨"REG_AFE_XTAL_CTRL", regAfeXtalCtrl, 1⟩ "select post-XOSC buffer type" ++
  rmwReg8 .powerOn ⟨"REG_AFE_PLL_CTRL", regAfePllCtrl, 1⟩ "select post-XOSC PLL buffer type" ++
  writeReg .powerOn ⟨"REG_CR", regCr, 2⟩ "clear command register before enabling DMA and scheduler blocks" ++
  readReg .powerOn ⟨"REG_CR", regCr, 2⟩ "read command register for block-enable update" ++
  writeReg .powerOn ⟨"REG_CR", regCr, 2⟩
    "enable HCI DMA, TX/RX DMA, protocol, scheduler, security, and calibration timer"

def addMacResetTransfers : List PlannedInitTransfer :=
  readReg .macReset ⟨"REG_MCUFWDL", regMcufwdl, 1⟩ "check RAM_DL_SEL before optional 8051/MAC reset" ++
  writeReg .macReset ⟨"REG_MCUFWDL", regMcufwdl, 1⟩
    "clear MCU firmware-download state if previous RAM code was active" ++
  rmwReg8 .macReset ⟨"REG_SYS_FUNC_EN", regSysFuncEn, 1⟩ "reset BB before reinitializing MAC" ++
  writeReg .macReset ⟨"REG_RF_CTRL", regRfCtrl, 1⟩ "reset RF control during MAC reset path" ++
  writeReg .macReset ⟨"REG_CR", regCr, 2⟩ "reset TX/RX path during MAC reset path" ++
  rmwReg8 .macReset ⟨"REG_APS_FSMCO + 1", regApsFsmco + 1, 1⟩ "turn MAC state machine off during reset" ++
  pollReg .macReset ⟨"REG_APS_FSMCO + 1", regApsFsmco + 1, 1⟩ "poll MAC state machine reset completion" ++
  rmwReg8 .macReset ⟨"REG_APS_FSMCO + 1", regApsFsmco + 1, 1⟩ "turn MAC state machine back on after reset" ++
  rmwReg8 .macReset ⟨"REG_SYS_FUNC_EN + 1", regSysFuncEn + 1, 1⟩ "toggle upper SYS_FUNC_EN bits after reset"

/-- the encoded operation is not in the transfers -/
def addLltWrite (_address _data : UInt8) : List PlannedInitTransfer :=
  writeReg .llt ⟨"REG_LLT_INIT", regLltInit, 4⟩ "write one LLT entry" ++
  pollReg .llt ⟨"REG_LLT_INIT", regLltInit, 4⟩ "poll LLT write operation completion"

def addLltTransfers : List PlannedInitTransfer :=
  ((List.range (txPageBoundary8812 - 1).toNat).flatMap fun address =>
      addLltWrite (UInt8.ofNat address) (UInt8.ofNat address + 1)) ++
    addLltWrite (txPageBoundary8812 - 1) 0xff ++
    ((List.range' txPageBoundary8812.toNat (lastEntryOfTxPktBuffer8812 - txPageBoundary8812).toNat).flatMap
      fun address => addLltWrite (UInt8.ofNat address) (UInt8.ofNat address + 1)) ++
    addLltWrite lastEntryOfTxPktBuffer8812 txPageBoundary8812

def firmwarePageDescription : ℕ → String
  | 0 => "select firmware page 0 in REG_MCUFWDL + 2"
  | 1 => "select firmware page 1 in REG_MCUFWDL + 2"
  | 2 => "select firmware page 2 in REG_MCUFWDL + 2"
  | 3 => "select firmware page 3 in REG_MCUFWDL + 2"
  | 4 => "select firmware page 4 in REG_MCUFWDL + 2"
  | 5 => "select firmware page 5 in REG_MCUFWDL + 2"
  | 6 => "select firmware page 6 in REG_MCUFWDL + 2"
  | 7 => "select firmware page 7 in REG_MCUFWDL + 2"
  | _ => "select firmware page in REG_MCUFWDL + 2"

/-- blocks of one size, `count` of them, and the offset behind them -/
def addFirmwareBlocks (size : ℕ) : ℕ → ℕ → List PlannedInitTransfer × ℕ
  | 0, offset => ([], offset)
  | count + 1, offset =>
    let (later, behind) := addFirmwareBlocks size count (offset + size)
    (firmwareBlock (fwStartAddress + UInt16.ofNat offset) size ++ later, behind)

def addFirmwarePageBlocks (pageLen : ℕ) : List PlannedInitTransfer :=
  let blockCount := pageLen / maxRegBlockSize
  let (blocks, offset) := addFirmwareBlocks maxRegBlockSize blockCount 0
  let remain := pageLen - offset
  let eightByteBlocks := remain / firmwareRemainderBlockSize
  let (shortBlocks, offset) := addFirmwareBlocks firmwareRemainderBlockSize eightByteBlocks offset
  let (bytes, _) := addFirmwareBlocks 1 (pageLen - offset) offset
  blocks ++ shortBlocks ++ bytes

def addFirmwarePage (page : ℕ) (chunk : List UInt8) : List PlannedInitTransfer :=
  readReg .firmwareDownload ⟨"REG_MCUFWDL + 2", regMcufwdl + 2, 1⟩ "read firmware page selector" ++
  writeReg .firmwareDownload ⟨"REG_MCUFWDL + 2", regMcufwdl + 2, 1⟩ (firmwarePageDescription page) ++
  addFirmwarePageBlocks chunk.length

/-- what comes before the pages -/
def addFirmwareEnable : List PlannedInitTransfer :=
  readReg .firmwareDownload ⟨"REG_MCUFWDL", regMcufwdl, 1⟩
    "check whether 8051 RAM code is already active before firmware download" ++
  writeReg .firmwareDownload ⟨"REG_MCUFWDL", regMcufwdl, 1⟩ "reset MCU firmware-download state before download" ++
  rmwReg8 .firmwareDownload ⟨"REG_MCUFWDL", regMcufwdl, 1⟩ "enable MCU firmware download" ++
  rmwReg8 .firmwareDownload ⟨"REG_MCUFWDL + 2", regMcufwdl + 2, 1⟩
    "hold 8051 reset while firmware download is enabled" ++
  rmwReg8 .firmwareDownload ⟨"REG_MCUFWDL", regMcufwdl, 1⟩ "reset firmware-download checksum report bit"

/-- what comes after the pages -/
def addFirmwareStart : List PlannedInitTransfer :=
  (List.range 5).flatMap (fun _ =>
    pollReg .firmwareChecksumPoll ⟨"REG_MCUFWDL", regMcufwdl, 4⟩
      "poll FWDL_ChkSum_rpt after firmware block writes") ++
  rmwReg8 .firmwareDownload ⟨"REG_MCUFWDL", regMcufwdl, 1⟩ "disable MCU firmware download after checksum report" ++
  readReg .firmwareReadyPoll ⟨"REG_MCUFWDL", regMcufwdl, 4⟩ "read firmware control before setting MCUFWDL_RDY" ++
  writeReg .firmwareReadyPoll ⟨"REG_MCUFWDL", regMcufwdl, 4⟩
    "set MCUFWDL_RDY and clear WINTINI_RDY before 8051 reset" ++
  rmwReg8 .firmwareReadyPoll ⟨"REG_SYS_FUNC_EN + 1", regSysFuncEn + 1, 1⟩
    "toggle 8051 reset after firmware download" ++
  (List.range 10).flatMap (fun _ =>
    pollReg .firmwareReadyPoll ⟨"REG_MCUFWDL", regMcufwdl, 4⟩ "poll WINTINI_RDY after firmware download")

def addFirmwareTransfers (firmwarePayload : List UInt8) : List PlannedInitTransfer :=
  addFirmwareEnable ++
    ((chunks maxDlfwPageSize firmwarePayload).zipIdx.flatMap fun e => addFirmwarePage e.2 e.1) ++
    addFirmwareStart

def addMacConfigTransfers : List PlannedInitTransfer :=
  readReg .macConfig ⟨"PHY MAC table", 0x0000, 0⟩ "load PHY_MACConfig8812 table entries from the driver image" ++
  writeReg .macConfig ⟨"REG_PBP", regPbp, 1⟩ "set TX packet-buffer page size to 512 bytes" ++
  writeReg .macConfig ⟨"REG_BCNQ_BDNY", 0x0424, 1⟩ "set beacon queue TX buffer boundary" ++
  writeReg .macConfig ⟨"REG_MGQ_BDNY", 0x0425, 1⟩ "set management queue TX buffer boundary" ++
  writeReg .macConfig ⟨"REG_TRXFF_BNDY", regTrxffBndy, 1⟩ "set TX/RX FIFO boundary low byte" ++
  writeReg .macConfig ⟨"REG_TRXFF_BNDY + 2", regTrxffBndy + 2, 2⟩ "set RX FIFO page boundary"

def addQueueDmaTransfers : List PlannedInitTransfer :=
  writeReg .queueDma ⟨"REG_RQPN_NPQ", regRqpnNpq, 1⟩ "program normal-priority queue reserved pages" ++
  writeReg .queueDma ⟨"REG_RQPN", regRqpn, 4⟩ "load TX DMA reserved page numbers" ++
  readReg .queueDma ⟨"REG_TXDMA_OFFSET_CHK", 0x020c, 4⟩
    "read TX DMA offset check before optional incorrect bulk-out drop bit" ++
  writeReg .queueDma ⟨"REG_TXDMA_OFFSET_CHK", 0x020c, 4⟩ "write TX DMA offset check policy" ++
  writeReg .queueDma ⟨"REG_RXDMA_STATUS", regRxdmaStatus, 2⟩ "set RX DMA burst length" ++
  readReg .queueDma ⟨"REG_RXDMA_PRO_8812", regRxdmaPro8812, 1⟩ "read RX DMA burst packet length policy" ++
  writeReg .queueDma ⟨"REG_RXDMA_PRO_8812", regRxdmaPro8812, 1⟩ "write RX DMA burst packet length policy" ++
  writeReg .queueDma ⟨"REG_RXDMA_AGG_PG_TH", regRxdmaAggPgTh, 2⟩ "program RX aggregation page threshold" ++
  writeReg .queueDma ⟨"REG_TDECTRL", regTdectrl, 1⟩ "set TX DMA descriptor page policy"

def addWmacTransfers : List PlannedInitTransfer :=
  writeReg .wmac ⟨"REG_RX_DRVINFO_SZ", regRxDrvinfoSz, 1⟩
    "include RX PHY status driver-info bytes for RSSI metadata" ++
  writeReg .wmac ⟨"REG_MAR", regMar, 4⟩ "accept all multicast address bits low" ++
  writeReg .wmac ⟨"REG_MAR + 4", regMar + 4, 4⟩ "accept all multicast address bits high" ++
  writeReg .wmac ⟨"REG_RXFLTMAP1", regRxfltmap1, 2⟩ "configure control-frame receive filter map" ++
  readReg .wmac ⟨"REG_RRSR", regRrsr, 4⟩ "read response-rate set before conservative update" ++
  writeReg .wmac ⟨"REG_RRSR", regRrsr, 4⟩ "write conservative response-rate set" ++
  writeReg .wmac ⟨"REG_SPEC_SIFS", regSpecSifs, 2⟩ "set SIFS timing" ++
  writeReg .wmac ⟨"REG_RETRY_LIMIT", regRetryLimit, 2⟩ "set short and long retry limits" ++
  readReg .wmac ⟨"REG_FWHW_TXQ_CTRL", regFwhwTxqCtrl, 1⟩
    "read firmware/hardware TX queue control before retry update" ++
  writeReg .wmac ⟨"REG_FWHW_TXQ_CTRL", regFwhwTxqCtrl, 1⟩ "enable newer AMPDU retry behavior" ++
  writeReg .wmac ⟨"REG_ACKTO", regAckto, 1⟩ "set ACK timeout" ++
  writeReg .wmac ⟨"REG_AMPDU_MAX_TIME_8812", regAmpduMaxTime8812, 1⟩ "set AMPDU maximum time" ++
  writeReg .wmac ⟨"REG_AMPDU_MAX_LENGTH_8812", regAmpduMaxLength8812, 4⟩ "set AMPDU maximum length" ++
  writeReg .wmac ⟨"REG_USTIME_TSF", regUstimeTsf, 1⟩ "set TSF microsecond timing" ++
  writeReg .wmac ⟨"REG_USTIME_EDCA", regUstimeEdca, 1⟩ "set EDCA microsecond timing" ++
  writeReg .wmac ⟨"REG_RX_PKT_LIMIT", regRxPktLimit, 1⟩ "set VHT receive packet-length limit" ++
  writeReg .wmac ⟨"REG_PIFS", regPifs, 1⟩ "set PIFS timing" ++
  writeReg .wmac ⟨"REG_AMPDU_BURST_MODE_8812", regAmpduBurstMode8812, 1⟩
    "set AMPDU burst mode when enabled by config" ++
  readReg .wmac ⟨"REG_CR", regCr, 1⟩ "read command register before enabling MAC TX/RX" ++
  writeReg .wmac ⟨"REG_CR", regCr, 1⟩ "enable MAC TX and RX after FIFO boundaries are configured" ++
  writeReg .wmac ⟨"REG_HWSEQ_CTRL", regHwseqCtrl, 1⟩ "enable hardware sequence numbers" ++
  writeReg .wmac ⟨"REG_BAR_MODE_CTRL", regBarModeCtrl, 4⟩ "disable BAR behavior per init sequence" ++
  writeReg .wmac ⟨"REG_NAV_UPPER", regNavUpper, 1⟩ "apply NAV upper limit"

def addBbRfTransfers : List PlannedInitTransfer :=
  readReg .bbRf ⟨"REG_SYS_FUNC_EN", regSysFuncEn, 1⟩ "read SYS_FUNC_EN before enabling USBA and BB reset bits" ++
  writeReg .bbRf ⟨"REG_SYS_FUNC_EN", regSysFuncEn, 1⟩ "enable USB analog path for BB/RF configuration" ++
  writeReg .bbRf ⟨"REG_SYS_FUNC_EN", regSysFuncEn, 1⟩ "enable BB global reset and BB reset bits" ++
  writeReg .bbRf ⟨"REG_RF_CTRL", regRfCtrl, 1⟩ "power on RF path A" ++
  writeReg .bbRf ⟨"REG_RF_B_CTRL_8812", regRfBCtrl8812, 1⟩ "power on RF path B" ++
  writeReg .bbRf ⟨"PHY BB table", 0x0800, 0⟩ "load PHY_BBConfig8812 table entries" ++
  writeReg .bbRf ⟨"PHY RF path A table", 0x0000, 0⟩ "load PHY_RFConfig8812 path A table entries" ++
  writeReg .bbRf ⟨"PHY RF path B table", 0x0000, 0⟩ "load PHY_RFConfig8812 path B table entries"

def addChannelTransfers : List PlannedInitTransfer :=
  writeReg .channel ⟨"PHY band switch", 0x0000, 0⟩ "select 2.4 GHz or 5 GHz band before channel setup" ++
  writeReg .channel ⟨"rOFDMCCKEN_Jaguar", regOfdmcckenJaguar, 4⟩
    "ensure OFDM/CCK BB clocks remain enabled after band selection" ++
  writeReg .channel ⟨"PHY channel/bandwidth", 0x0000, 0⟩ "set initial 20 MHz channel and bandwidth" ++
  writeReg .channel ⟨"captured Linux TX bring-up tail", 0x0c20, 0⟩
    "apply captured runtime RFE, IQK, and TX power register values for bench TX"

def planRtl8812auInit (firmware : FirmwareImage) : Except FirmwareError InitDryRunPlan :=
  let firmwarePayload := firmware.realtekDownloadPayload
  .ok {
    firmwareLen := firmwarePayload.bytes.length
    firmwareChunkSize := initDryRunFirmwareChunkSize
    transfers := addPreflightTransfers ++ addRfResetTransfers ++ addPowerOnTransfers ++ addMacResetTransfers ++
      addLltTransfers ++ addFirmwareTransfers firmwarePayload.bytes ++ addMacConfigTransfers ++
      addQueueDmaTransfers ++ addWmacTransfers ++ addBbRfTransfers ++ addChannelTransfers }

/-! ## The blocks of a page -/

/-- the blocks follow each other without a gap -/
theorem addFirmwareBlocks_eq (size count offset : ℕ) :
    addFirmwareBlocks size count offset
      = ((List.range count).flatMap fun i => firmwareBlock (fwStartAddress + UInt16.ofNat (offset + i * size)) size,
        offset + count * size) := by
  induction count generalizing offset with
  | zero => simp [addFirmwareBlocks]
  | succ count ih =>
    have hshift : ∀ i, offset + size + i * size = offset + (i + 1) * size := by
      intro i
      ring
    simp only [addFirmwareBlocks, ih, hshift, List.range_succ_eq_map, List.flatMap_cons, List.flatMap_map,
      Nat.zero_mul, Nat.add_zero]

/-- **The offsets of a page.** Full blocks come first, then short ones, then single bytes. -/
theorem addFirmwarePageBlocks_eq (pageLen : ℕ) :
    addFirmwarePageBlocks pageLen =
      ((List.range (pageLen / maxRegBlockSize)).flatMap fun i =>
        firmwareBlock (fwStartAddress + UInt16.ofNat (i * maxRegBlockSize)) maxRegBlockSize) ++
      ((List.range (pageLen % maxRegBlockSize / firmwareRemainderBlockSize)).flatMap fun i =>
        firmwareBlock (fwStartAddress + UInt16.ofNat (pageLen / maxRegBlockSize * maxRegBlockSize +
          i * firmwareRemainderBlockSize)) firmwareRemainderBlockSize) ++
      ((List.range (pageLen % maxRegBlockSize % firmwareRemainderBlockSize)).flatMap fun i =>
        firmwareBlock (fwStartAddress + UInt16.ofNat (pageLen / maxRegBlockSize * maxRegBlockSize +
          pageLen % maxRegBlockSize / firmwareRemainderBlockSize * firmwareRemainderBlockSize + i)) 1) := by
  have hremain : pageLen - pageLen / maxRegBlockSize * maxRegBlockSize = pageLen % maxRegBlockSize := by
    have h := Nat.div_add_mod' pageLen maxRegBlockSize
    omega
  have hbytes : pageLen - (pageLen / maxRegBlockSize * maxRegBlockSize +
      pageLen % maxRegBlockSize / firmwareRemainderBlockSize * firmwareRemainderBlockSize)
      = pageLen % maxRegBlockSize % firmwareRemainderBlockSize := by
    have h := Nat.div_add_mod' (pageLen % maxRegBlockSize) firmwareRemainderBlockSize
    omega
  simp only [addFirmwarePageBlocks, addFirmwareBlocks_eq, Nat.zero_add, hremain, hbytes, Nat.mul_one]

end WfbLink.RadioCore.InitPlan
