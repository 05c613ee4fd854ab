/-
The MAC phase of the init sequence (`wfb-radio-runtime/src/lib.rs`).

- `performs_mac`: what the phase writes, and what it has found when it returns. The bits that depend on the speed of the
  USB link are written as the link says.
- `mac_registers`: after the phase, the registers hold the values of `macFields`, and it wrote no others.
-/
import WfbLink.Runtime.IqkPlan
import WfbLink.Runtime.QueueDma

namespace WfbLink.Runtime

open WfbLink.Core WfbLink.RadioCore

/-! ## Constants -/

def regRxdmaStatus : UInt16 := 0x0288
def regRxdmaPro8812 : UInt16 := 0x0290
def regFwhwTxqCtrl : UInt16 := 0x0420
def regHwseqCtrl : UInt16 := 0x0423
def regSpecSifs : UInt16 := 0x0428
def regRetryLimit : UInt16 := 0x042a
def regRrsr : UInt16 := 0x0440
def regArfr0X8812 : UInt16 := 0x0444
def regArfr1X8812 : UInt16 := 0x044c
def regAmpduMaxTime8812 : UInt16 := 0x0456
def regAmpduMaxLength8812 : UInt16 := 0x0458
def regArfr2X8812 : UInt16 := 0x048c
def regArfr3X8812 : UInt16 := 0x0494
def regHtSingleAmpdu8812 : UInt16 := 0x04c7
def regMaxAggrNum : UInt16 := 0x04ca
def regBarModeCtrl : UInt16 := 0x04cc
def regEdcaVoParam : UInt16 := 0x0500
def regEdcaViParam : UInt16 := 0x0504
def regEdcaBeParam : UInt16 := 0x0508
def regEdcaBkParam : UInt16 := 0x050c
def regBcntcfg : UInt16 := 0x0510
def regPifs : UInt16 := 0x0512
def regSifsCtx : UInt16 := 0x0514
def regSifsTrx : UInt16 := 0x0516
def regTbttProhibit : UInt16 := 0x0540
def regDrverlyint : UInt16 := 0x0558
def regBcndmatim : UInt16 := 0x0559
def regUstimeTsf : UInt16 := 0x055c
def regRxPktLimit : UInt16 := 0x060c
def regRxDrvinfoSz : UInt16 := 0x060f
def regMar : UInt16 := 0x0620
def regUstimeEdca : UInt16 := 0x0638
def regMacSpecSifs : UInt16 := 0x063a
def regAckto : UInt16 := 0x0640
def regRxfltmap1 : UInt16 := 0x06a2

def drvinfoSz : UInt8 := 4
def maskNettype : UInt32 := 0x00030000
def ntLinkAp : UInt32 := 0x3
def nettypeLinkAp : UInt32 := ntLinkAp <<< 16
def rcrCbssidData : UInt32 := (1 : UInt32) <<< 6
def rcrCbssidBcn : UInt32 := (1 : UInt32) <<< 7
def rcrHtcLocCtrl : UInt32 := (1 : UInt32) <<< 14
def rcrForceack : UInt32 := (1 : UInt32) <<< 26
def rcrAppIcv : UInt32 := (1 : UInt32) <<< 29
def rcrAppMic : UInt32 := (1 : UInt32) <<< 30
def macReceiveConfig : UInt32 :=
  rcrApm ||| rcrAm ||| rcrAb ||| rcrCbssidData ||| rcrCbssidBcn ||| rcrAmf ||| rcrHtcLocCtrl ||| rcrAppPhystRxff |||
    rcrAppIcv ||| rcrAppMic ||| rcrForceack
def rateBitmapAll : UInt32 := 0x000fffff
def rateRrsrCckOnly1m : UInt32 := 0x000ffff1
def rlValSta : UInt16 := 0x30
def retryLimitSta : UInt16 := rlValSta ||| (rlValSta <<< 8)
def barModeCtrlValue : UInt32 := 0x0201ffff
def barModeCtrlReadbackMask : UInt32 := 0xffffff7f
def enAmpduRtyNew : UInt8 := (1 : UInt8) <<< 7
def disTsfUdt : UInt8 := bit4
def tbttProhibitSetupTime : UInt8 := 0x04
def tbttProhibitHoldTimeStopBcn : UInt16 := 0x0064
def driverEarlyIntTime8812 : UInt8 := 0x05
def bcnDmaAtimeIntTime8812 : UInt8 := 0x02
def mactxen : UInt8 := (1 : UInt8) <<< 6
def macrxen : UInt8 := (1 : UInt8) <<< 7
def macTxRxEnableMask : UInt8 := mactxen ||| macrxen

/-! ## The sequences -/

section Sequences

variable (registers : Rtl8812auRegisterAccess)

def bcnCtrl : UInt16 := disTsfUdt.toUInt16 ||| (disTsfUdt.toUInt16 <<< 8)

def productionBeaconParametersSequence : RegisterAction Unit := do
  let phase := "beacon-parameters"
  productionWrite16Verify registers "REG_BCN_CTRL" regBcnCtrl bcnCtrl 0xffff bcnCtrl phase
  productionWrite8Verify registers "REG_TBTT_PROHIBIT" regTbttProhibit tbttProhibitSetupTime 0xff
    tbttProhibitSetupTime phase
  productionWrite8Verify registers "REG_TBTT_PROHIBIT + 1" (regTbttProhibit + 1)
    (tbttProhibitHoldTimeStopBcn &&& 0x00ff).toUInt8 0xff (tbttProhibitHoldTimeStopBcn &&& 0x00ff).toUInt8 phase
  productionRmw8Preserve registers "REG_TBTT_PROHIBIT + 2" (regTbttProhibit + 2) 0xf0 0x0f
    (tbttProhibitHoldTimeStopBcn >>> 8).toUInt8 phase
  productionWrite8Verify registers "REG_DRVERLYINT" regDrverlyint driverEarlyIntTime8812 0xff
    driverEarlyIntTime8812 phase
  productionWrite8Verify registers "REG_BCNDMATIM" regBcndmatim bcnDmaAtimeIntTime8812 0xff
    bcnDmaAtimeIntTime8812 phase
  productionWrite16Verify registers "REG_BCNTCFG" regBcntcfg 0x4413 0xffff 0x4413 phase

/-- `REG_RXDMA_PRO_8812` as the speed of the link wants it -/
def rxdmaProValue (speedValue phySpeed rxdmaPro : UInt8) : UInt8 :=
  if speedValue &&& bit7 ≠ 0 then
    if (phySpeed >>> 4) &&& 0x03 = 0 then (rxdmaPro ||| bit4 ||| bit3 ||| bit2 ||| bit1) &&& ~~~bit5
    else (rxdmaPro ||| bit5 ||| bit3 ||| bit2 ||| bit1) &&& ~~~bit4
  else (rxdmaPro ||| bit3 ||| bit2 ||| bit1) &&& ~~~(bit5 ||| bit4)

/-- the speed of the PHY is read on a fast link only -/
def usbPhySpeed (speedValue : UInt8) : RegisterAction UInt8 :=
  if speedValue &&& bit7 ≠ 0 then read8WithCounter registers 0xfe17 "USB PHY speed" "usb-burst"
  else return 0

def usbBurstRxdmaPro : RegisterAction Unit := do
  let speedValue ← read8WithCounter registers 0x00ff "USB speed probe" "usb-burst"
  let rxdmaPro ← read8WithCounter registers regRxdmaPro8812 "REG_RXDMA_PRO_8812" "usb-burst"
  let phySpeed ← usbPhySpeed registers speedValue
  let rxdmaProValue := rxdmaProValue speedValue phySpeed rxdmaPro
  productionWrite8Verify registers "REG_RXDMA_PRO_8812" regRxdmaPro8812 rxdmaProValue 0xff rxdmaProValue "usb-burst"

/-- the registers of the rate fallback tables, and the two words of each -/
def arfrTable : List (String × UInt16 × UInt32 × UInt32) :=
  [("REG_ARFR0_8812", regArfr0X8812, 0x00000010, 0xfffff000), ("REG_ARFR1_8812", regArfr1X8812, 0x00000010, 0x003ff000),
    ("REG_ARFR2_8812", regArfr2X8812, 0x00000015, 0x003ff000),
    ("REG_ARFR3_8812", regArfr3X8812, 0x00000015, 0xffcff000)]

def productionArfr (entry : String × UInt16 × UInt32 × UInt32) : RegisterAction Unit := do
  let (registerName, address, low, high) := entry
  productionWrite32Verify registers registerName address low 0xffffffff low "arfr-table"
  productionWrite32Verify registers registerName (address + 4) high 0xffffffff high "arfr-table"

def productionUsbBurstPacketSequence : RegisterAction Unit := do
  let phase := "usb-burst"
  productionWrite8Verify registers "0xf050" 0xf050 0x01 0 0 phase
  productionWrite16Verify registers "REG_RXDMA_STATUS" regRxdmaStatus 0x7400 0 0 phase
  productionWrite8Verify registers "REG_RXDMA_STATUS + 1" (regRxdmaStatus + 1) 0xf5 0 0 phase
  productionWrite8Verify registers "REG_AMPDU_MAX_TIME_8812" regAmpduMaxTime8812 0x70 0xff 0x70 phase
  productionWrite32Verify registers "REG_AMPDU_MAX_LENGTH_8812" regAmpduMaxLength8812 0xffffffff 0xffffffff 0xffffffff
    phase
  usbBurstRxdmaPro registers
  productionWrite8Verify registers "REG_TDECTRL" regTdectrl 0x10 0xff 0x10 phase
  productionRmw8Preserve registers "REG_HT_SINGLE_AMPDU_8812" regHtSingleAmpdu8812 (~~~bit7) bit7 bit7 phase
  productionWrite8Verify registers "REG_RX_PKT_LIMIT" regRxPktLimit 0x18 0xff 0x18 phase
  productionWrite8Verify registers "REG_PIFS" regPifs 0 0xff 0 phase
  productionWrite16Verify registers "REG_MAX_AGGR_NUM" regMaxAggrNum 0x1f1f 0xffff 0x1f1f phase
  productionRmw8Preserve registers "REG_FWHW_TXQ_CTRL" regFwhwTxqCtrl (~~~enAmpduRtyNew) enAmpduRtyNew 0 phase
  let rsvCtrl ← read8WithCounter registers regRsvCtrl "REG_RSV_CTRL" phase
  write8WithCounter registers regRsvCtrl ((rsvCtrl &&& ~~~(bit5 ||| bit6)) ||| bit5 ||| bit6) "REG_RSV_CTRL" phase
  let _ ← productionVerify8Readback registers "REG_RSV_CTRL" regRsvCtrl bit5 bit5 phase
  arfrTable.forM (productionArfr registers)

def productionMacSequence : RegisterAction ℕ := do
  productionPreflightFirmware registers "MAC programming"
  let beforeWrites ← RegisterAction.counters
  productionWrite8Verify registers "REG_RX_DRVINFO_SZ" regRxDrvinfoSz drvinfoSz 0xff drvinfoSz "mac"
  productionRmw32Preserve registers "REG_CR" regCr (~~~maskNettype) maskNettype nettypeLinkAp "mac"
  productionWrite32Verify registers "REG_RCR" regRcr macReceiveConfig 0xffffffff macReceiveConfig "mac"
  [("REG_MAR", regMar), ("REG_MAR + 4", regMar + 4)].forM fun (registerName, address) =>
    productionWrite32Verify registers registerName address 0xffffffff 0xffffffff 0xffffffff "mac"
  productionWrite16Verify registers "REG_RXFLTMAP1" regRxfltmap1 ((1 : UInt16) <<< 10) 0xffff ((1 : UInt16) <<< 10) "mac"
  productionRmw32Preserve registers "REG_RRSR" regRrsr (~~~rateBitmapAll) rateBitmapAll rateRrsrCckOnly1m "mac"
  productionWrite16Verify registers "REG_SPEC_SIFS" regSpecSifs 0x1010 0xffff 0x1010 "mac"
  productionWrite16Verify registers "REG_RETRY_LIMIT" regRetryLimit retryLimitSta 0xffff retryLimitSta "mac"
  [("REG_SPEC_SIFS", regSpecSifs), ("REG_MAC_SPEC_SIFS", regMacSpecSifs), ("REG_SIFS_CTX", regSifsCtx),
    ("REG_SIFS_TRX", regSifsTrx)].forM fun (registerName, address) =>
      productionWrite16Verify registers registerName address 0x100a 0xffff 0x100a "mac"
  [("REG_EDCA_BE_PARAM", regEdcaBeParam, (0x005ea42b : UInt32)), ("REG_EDCA_BK_PARAM", regEdcaBkParam, 0x0000a44f),
    ("REG_EDCA_VI_PARAM", regEdcaViParam, 0x005ea324), ("REG_EDCA_VO_PARAM", regEdcaVoParam, 0x002fa226)].forM
      fun (registerName, address, value) =>
        productionWrite32Verify registers registerName address value 0xffffffff value "mac"
  productionWrite8Verify registers "REG_TXPAUSE" regTxpause 0 0xff 0 "mac"
  [("REG_USTIME_TSF", regUstimeTsf), ("REG_USTIME_EDCA", regUstimeEdca)].forM fun (registerName, address) =>
    productionWrite8Verify registers registerName address 0x50 0xff 0x50 "mac"
  productionRmw8Preserve registers "REG_FWHW_TXQ_CTRL" regFwhwTxqCtrl (~~~enAmpduRtyNew) enAmpduRtyNew enAmpduRtyNew
    "mac"
  productionWrite8Verify registers "REG_ACKTO" regAckto 0x80 0xff 0x80 "mac"
  productionBeaconParametersSequence registers
  productionUsbBurstPacketSequence registers
  productionWrite8Verify registers "REG_HWSEQ_CTRL" regHwseqCtrl 0xff 0xff 0xff "mac"
  productionWrite32Verify registers "REG_BAR_MODE_CTRL" regBarModeCtrl barModeCtrlValue barModeCtrlReadbackMask
    barModeCtrlValue "mac"
  productionRmw8Preserve registers "REG_CR" regCr (~~~macTxRxEnableMask) macTxRxEnableMask macTxRxEnableMask "mac"
  writesSince beforeWrites

end Sequences

/-! ## Effects -/

/-- what the USB link says about its speed -/
abbrev BurstSpeed (speedValue phySpeed : UInt8) : StuckRegisters → Prop :=
  Known [0x00ff, 0xfe17] fun address => if address = 0x00ff then speedValue else phySpeed

/-- bits that are set, and then bits that are cleared -/
theorem testBit_setClear (set clear before : UInt8) {j : ℕ} (hj : j < 8) :
    ((before ||| set) &&& ~~~clear).toNat.testBit j
      = if (set ||| clear).toNat.testBit j then (set &&& ~~~clear).toNat.testBit j else before.toNat.testBit j := by
  simp only [← UInt8.toNat_toBitVec, BitVec.testBit_toNat, UInt8.toBitVec_or, UInt8.toBitVec_and, UInt8.toBitVec_not,
    BitVec.getLsbD_or, BitVec.getLsbD_and, BitVec.getLsbD_not, hj, decide_true, Bool.true_and]
  cases set.toBitVec.getLsbD j <;> cases clear.toBitVec.getLsbD j <;> simp

/-- the bits for bursts -/
def rxdmaProMask : UInt8 := bit5 ||| bit4 ||| bit3 ||| bit2 ||| bit1

theorem testBit_rxdmaProValue (speedValue phySpeed before : UInt8) {j : ℕ} (hj : j < 8) :
    (rxdmaProValue speedValue phySpeed before).toNat.testBit j
      = if rxdmaProMask.toNat.testBit j then (rxdmaProValue speedValue phySpeed 0).toNat.testBit j
        else before.toNat.testBit j := by
  have hor (a b c d e : UInt8) : a ||| b ||| c ||| d ||| e = a ||| (b ||| c ||| d ||| e) := by
    simp only [UInt8.or_assoc]
  have hor' (a b c d : UInt8) : a ||| b ||| c ||| d = a ||| (b ||| c ||| d) := by simp only [UInt8.or_assoc]
  unfold rxdmaProValue
  split
  · split
    · rw [hor, testBit_setClear _ _ before hj]
      rfl
    · rw [hor, testBit_setClear _ _ before hj]
      rfl
  · rw [hor', testBit_setClear _ _ before hj]
    rfl

section Effects

variable {P : StuckRegisters → Prop} (registers : Rtl8812auRegisterAccess)

def beaconSteps : List RegisterStep :=
  [setWord regBcnCtrl 2 bcnCtrl.toNat, setWord regTbttProhibit 1 tbttProhibitSetupTime.toNat,
    setWord (regTbttProhibit + 1) 1 (tbttProhibitHoldTimeStopBcn &&& 0x00ff).toUInt8.toNat,
    setField (regTbttProhibit + 2) 1 0x0f (tbttProhibitHoldTimeStopBcn >>> 8).toUInt8.toNat,
    setWord regDrverlyint 1 driverEarlyIntTime8812.toNat, setWord regBcndmatim 1 bcnDmaAtimeIntTime8812.toNat,
    setWord regBcntcfg 2 0x4413]

theorem performs_beaconParameters :
    Performs P (productionBeaconParametersSequence registers) (fun _ => True) (RegisterStep.effects beaconSteps) := by
  refine (performs_write16Verify registers _ _ _ _ 0xffff _).cons fun _ _ => ?_
  refine (performs_write8Verify registers _ _ _ _ 0xff _).cons fun _ _ => ?_
  refine (performs_write8Verify registers _ _ _ _ 0xff _).cons fun _ _ => ?_
  refine (performs_rmw8Preserve registers _ _ _ 0x0f _).cons fun _ _ => ?_
  refine (performs_write8Verify registers _ _ _ _ 0xff _).cons fun _ _ => ?_
  refine (performs_write8Verify registers _ _ _ _ 0xff _).cons fun _ _ => ?_
  exact (performs_write16Verify registers _ _ _ _ 0xffff _).last

/-- `REG_RXDMA_PRO_8812` is written as the link says -/
theorem performs_rxdmaPro (speedValue phySpeed : UInt8) :
    Performs (BurstSpeed speedValue phySpeed) (usbBurstRxdmaPro registers) (fun _ => True)
      (setField regRxdmaPro8812 1 rxdmaProMask.toNat (rxdmaProValue speedValue phySpeed 0).toNat).effect := by
  intro start hstart
  have hspeed : start.value 0x00ff 1 = speedValue.toNat := hstart _ List.mem_cons_self
  have hphy : start.value 0xfe17 1 = phySpeed.toNat := hstart _ (List.mem_cons_of_mem _ List.mem_cons_self)
  have hread (address : UInt16) (registerName : String) {value : UInt8} (hvalue : start.value address 1 = value.toNat) :
      Performs (fun file => file = start) (read8WithCounter registers address registerName "usb-burst")
        (fun v => v = value) .empty := by
    refine (readsValue8 registers address registerName "usb-burst").performs.weaken (fun _ h => h) ?_
    rintro v ⟨_, rfl, hv⟩
    exact UInt8.toNat_inj.1 (hv.trans hvalue)
  refine ((hread 0x00ff "USB speed probe" hspeed).bind_empty fun speed hspeed => ?_) start rfl
  obtain ⟨before, hbefore⟩ : ∃ before : UInt8, start.value regRxdmaPro8812 1 = before.toNat :=
    ⟨UInt8.ofNat _, ((UInt8.toNat_ofNat').trans (Nat.mod_eq_of_lt (start.value_lt _ 1))).symm⟩
  refine (hread regRxdmaPro8812 "REG_RXDMA_PRO_8812" hbefore).bind_empty fun rxdmaPro hrxdmaPro => ?_
  rw [hspeed, hrxdmaPro]
  have hphySpeed : Performs (fun file => file = start) (usbPhySpeed registers speedValue)
      (fun v => rxdmaProValue speedValue v before = rxdmaProValue speedValue phySpeed before) .empty := by
    unfold usbPhySpeed
    split
    · refine (hread 0xfe17 "USB PHY speed" hphy).weaken (fun _ h => h) ?_
      rintro v rfl
      rfl
    · rename_i hslow
      refine Performs.pure ?_
      rw [rxdmaProValue, rxdmaProValue, if_neg hslow, if_neg hslow]
  refine hphySpeed.bind_empty fun v hv => ?_
  rw [hv]
  apply performs_write8Verify_kept
  intro j hj
  rw [hbefore]
  exact testBit_rxdmaProValue speedValue phySpeed before hj

def usbBurstSteps (speedValue phySpeed : UInt8) : List RegisterStep :=
  [wordStep 0xf050 1 0x01 0 0, wordStep regRxdmaStatus 2 0x7400 0 0, wordStep (regRxdmaStatus + 1) 1 0xf5 0 0,
    setWord regAmpduMaxTime8812 1 0x70, setWord regAmpduMaxLength8812 4 0xffffffff,
    setField regRxdmaPro8812 1 rxdmaProMask.toNat (rxdmaProValue speedValue phySpeed 0).toNat,
    setWord regTdectrl 1 0x10, setField regHtSingleAmpdu8812 1 bit7.toNat bit7.toNat, setWord regRxPktLimit 1 0x18,
    setWord regPifs 1 0, setWord regMaxAggrNum 2 0x1f1f, setField regFwhwTxqCtrl 1 enAmpduRtyNew.toNat 0,
    blindField regRsvCtrl 1 (bit5 ||| bit6).toNat (bit5 ||| bit6).toNat, foundField regRsvCtrl 1 bit5.toNat bit5.toNat]
    ++ arfrTable.flatMap fun entry =>
      [setWord entry.2.1 4 entry.2.2.1.toNat, setWord (entry.2.1 + 4) 4 entry.2.2.2.toNat]

theorem performs_usbBurstPacket (speedValue phySpeed : UInt8) :
    Performs (BurstSpeed speedValue phySpeed) (productionUsbBurstPacketSequence registers) (fun _ => True)
      (RegisterStep.effects (usbBurstSteps speedValue phySpeed)) := by
  refine Performs.consKnown (performs_write8Verify registers _ _ _ 0x01 0 0) (by decide) fun _ _ => ?_
  refine Performs.consKnown (performs_write16Verify registers _ _ _ 0x7400 0 0) (by decide) fun _ _ => ?_
  refine Performs.consKnown (performs_write8Verify registers _ _ _ 0xf5 0 0) (by decide) fun _ _ => ?_
  refine Performs.consKnown (performs_write8Verify registers _ _ _ _ 0xff _) (by decide) fun _ _ => ?_
  refine Performs.consKnown (performs_write32Verify registers _ _ _ _ 0xffffffff _) (by decide) fun _ _ => ?_
  refine (performs_rxdmaPro registers speedValue phySpeed).cons fun _ _ => ?_
  refine (performs_write8Verify registers _ _ _ _ 0xff _).cons fun _ _ => ?_
  refine (performs_rmw8Preserve registers _ _ _ bit7 bit7).cons fun _ _ => ?_
  refine (performs_write8Verify registers _ _ _ _ 0xff _).cons fun _ _ => ?_
  refine (performs_write8Verify registers _ _ _ _ 0xff _).cons fun _ _ => ?_
  refine (performs_write16Verify registers _ _ _ _ 0xffff _).cons fun _ _ => ?_
  refine (performs_rmw8Preserve registers _ _ _ enAmpduRtyNew 0).cons fun _ _ => ?_
  refine Performs.cons_pair (performs_change (readsValue8 registers regRsvCtrl "REG_RSV_CTRL" "usb-burst")
    (fun written => writesValue8 registers regRsvCtrl "REG_RSV_CTRL" "usb-burst" written) ?_) fun _ _ => ?_
  · intro before j hj
    rw [UInt8.or_assoc]
    exact testBit_preserving8 (bit5 ||| bit6) (bit5 ||| bit6) before hj
  refine (performs_verify8 registers _ _ _ bit5 bit5).cons fun _ _ => ?_
  refine Performs.forM _ fun entry => ?_
  exact (performs_write32Verify registers _ _ _ _ 0xffffffff _).cons fun _ _ =>
    (performs_write32Verify registers _ _ _ _ 0xffffffff _).last

def macSteps (speedValue phySpeed : UInt8) : List RegisterStep :=
  preflightFirmwareSteps ++
    [setWord regRxDrvinfoSz 1 drvinfoSz.toNat, setField regCr 4 maskNettype.toNat nettypeLinkAp.toNat,
      setWord regRcr 4 macReceiveConfig.toNat, setWord regMar 4 0xffffffff, setWord (regMar + 4) 4 0xffffffff,
      setWord regRxfltmap1 2 ((1 : UInt16) <<< 10).toNat,
      setField regRrsr 4 rateBitmapAll.toNat rateRrsrCckOnly1m.toNat, setWord regSpecSifs 2 0x1010,
      setWord regRetryLimit 2 retryLimitSta.toNat, setWord regSpecSifs 2 0x100a, setWord regMacSpecSifs 2 0x100a,
      setWord regSifsCtx 2 0x100a, setWord regSifsTrx 2 0x100a, setWord regEdcaBeParam 4 0x005ea42b,
      setWord regEdcaBkParam 4 0x0000a44f, setWord regEdcaViParam 4 0x005ea324, setWord regEdcaVoParam 4 0x002fa226,
      setWord regTxpause 1 0, setWord regUstimeTsf 1 0x50, setWord regUstimeEdca 1 0x50,
      setField regFwhwTxqCtrl 1 enAmpduRtyNew.toNat enAmpduRtyNew.toNat, setWord regAckto 1 0x80] ++
    beaconSteps ++ usbBurstSteps speedValue phySpeed ++
    [setWord regHwseqCtrl 1 0xff,
      wordStep regBarModeCtrl 4 barModeCtrlValue.toNat barModeCtrlReadbackMask.toNat barModeCtrlValue.toNat,
      setField regCr 1 macTxRxEnableMask.toNat macTxRxEnableMask.toNat]

theorem performs_mac (speedValue phySpeed : UInt8) :
    Performs (BurstSpeed speedValue phySpeed) (productionMacSequence registers) (fun _ => True)
      (RegisterStep.effects (macSteps speedValue phySpeed)) := by
  rw [macSteps, List.append_assoc, List.append_assoc, List.append_assoc]
  refine Performs.appendKnown _ (performs_preflightFirmware registers _) (by decide) fun _ _ => ?_
  refine Performs.counters.bind_empty fun before _ => ?_
  refine Performs.consKnown (performs_write8Verify registers _ _ _ _ 0xff _) (by decide) fun _ _ => ?_
  refine Performs.consKnown (performs_rmw32Preserve registers _ _ _ _ _) (by decide) fun _ _ => ?_
  refine Performs.consKnown (performs_write32Verify registers _ _ _ _ 0xffffffff _) (by decide) fun _ _ => ?_
  refine Performs.appendKnown [_, _] (Performs.forM _ fun _ =>
    (performs_write32Verify registers _ _ _ _ 0xffffffff _).last)
    (by decide) fun _ _ => ?_
  refine Performs.consKnown (performs_write16Verify registers _ _ _ _ 0xffff _) (by decide) fun _ _ => ?_
  refine Performs.consKnown (performs_rmw32Preserve registers _ _ _ _ _) (by decide) fun _ _ => ?_
  refine Performs.consKnown (performs_write16Verify registers _ _ _ _ 0xffff _) (by decide) fun _ _ => ?_
  refine Performs.consKnown (performs_write16Verify registers _ _ _ _ 0xffff _) (by decide) fun _ _ => ?_
  refine Performs.appendKnown [_, _, _, _] (Performs.forM _ fun _ =>
    (performs_write16Verify registers _ _ _ _ 0xffff _).last) (by decide) fun _ _ => ?_
  refine Performs.appendKnown [_, _, _, _] (Performs.forM _ fun _ =>
    (performs_write32Verify registers _ _ _ _ 0xffffffff _).last) (by decide) fun _ _ => ?_
  refine Performs.consKnown (performs_write8Verify registers _ _ _ _ 0xff _) (by decide) fun _ _ => ?_
  refine Performs.appendKnown [_, _] (Performs.forM _ fun _ =>
    (performs_write8Verify registers _ _ _ _ 0xff _).last)
    (by decide) fun _ _ => ?_
  refine Performs.consKnown (performs_rmw8Preserve registers _ _ _ _ _) (by decide) fun _ _ => ?_
  refine Performs.consKnown (performs_write8Verify registers _ _ _ _ 0xff _) (by decide) fun _ _ => ?_
  refine Performs.appendKnown beaconSteps (performs_beaconParameters registers) (by decide) fun _ _ => ?_
  refine (performs_usbBurstPacket registers speedValue phySpeed).append fun _ _ => ?_
  refine (performs_write8Verify registers _ _ _ _ 0xff _).cons fun _ _ => ?_
  refine (performs_write32Verify registers _ _ _ _ _ _).cons fun _ _ => ?_
  refine (performs_rmw8Preserve registers _ _ _ _ _).cons fun _ _ => ?_
  exact performs_writesSince before

end Effects

/-! ## The registers after the phase -/

/-- what the registers are after the phase; `rxdmaPro` is what the link wants of `REG_RXDMA_PRO_8812` -/
def macFields (rxdmaPro : UInt8) : List RegisterField :=
  [⟨regCr, 2, crEnableBits.toNat, crEnableBits.toNat⟩, ⟨regMcufwdl, 1, firmwareReadyMask.toNat, firmwareReadyMask.toNat⟩,
    ⟨regRxDrvinfoSz, 1, 0xff, 4⟩, ⟨regCr, 4, 0x00030000, 0x00030000⟩, ⟨regRcr, 4, 0xffffffff, macReceiveConfig.toNat⟩,
    ⟨regMar, 4, 0xffffffff, 0xffffffff⟩, ⟨regMar + 4, 4, 0xffffffff, 0xffffffff⟩, ⟨regRxfltmap1, 2, 0xffff, 0x0400⟩,
    ⟨regRrsr, 4, 0x000fffff, 0x000ffff1⟩, ⟨regSpecSifs, 2, 0xffff, 0x100a⟩, ⟨regRetryLimit, 2, 0xffff, 0x3030⟩,
    ⟨regMacSpecSifs, 2, 0xffff, 0x100a⟩, ⟨regSifsCtx, 2, 0xffff, 0x100a⟩, ⟨regSifsTrx, 2, 0xffff, 0x100a⟩,
    ⟨regEdcaBeParam, 4, 0xffffffff, 0x005ea42b⟩, ⟨regEdcaBkParam, 4, 0xffffffff, 0x0000a44f⟩,
    ⟨regEdcaViParam, 4, 0xffffffff, 0x005ea324⟩, ⟨regEdcaVoParam, 4, 0xffffffff, 0x002fa226⟩,
    ⟨regTxpause, 1, 0xff, 0⟩, ⟨regUstimeTsf, 1, 0xff, 0x50⟩, ⟨regUstimeEdca, 1, 0xff, 0x50⟩, ⟨regAckto, 1, 0xff, 0x80⟩,
    ⟨regBcnCtrl, 2, 0xffff, 0x1010⟩, ⟨regTbttProhibit, 2, 0xffff, 0x6404⟩, ⟨regTbttProhibit + 2, 1, 0x0f, 0⟩,
    ⟨regDrverlyint, 1, 0xff, 5⟩, ⟨regBcndmatim, 1, 0xff, 2⟩, ⟨regBcntcfg, 2, 0xffff, 0x4413⟩,
    ⟨regAmpduMaxTime8812, 1, 0xff, 0x70⟩, ⟨regAmpduMaxLength8812, 4, 0xffffffff, 0xffffffff⟩,
    ⟨regRxdmaPro8812, 1, 0x3e, rxdmaPro.toNat⟩, ⟨regTdectrl, 1, 0xff, 0x10⟩, ⟨regHtSingleAmpdu8812, 1, 0x80, 0x80⟩,
    ⟨regRxPktLimit, 1, 0xff, 0x18⟩, ⟨regPifs, 1, 0xff, 0⟩, ⟨regMaxAggrNum, 2, 0xffff, 0x1f1f⟩,
    ⟨regFwhwTxqCtrl, 1, 0x80, 0⟩, ⟨regRsvCtrl, 1, 0x20, 0x20⟩, ⟨regArfr0X8812, 4, 0xffffffff, 0x00000010⟩,
    ⟨regArfr0X8812 + 4, 4, 0xffffffff, 0xfffff000⟩, ⟨regArfr1X8812, 4, 0xffffffff, 0x00000010⟩,
    ⟨regArfr1X8812 + 4, 4, 0xffffffff, 0x003ff000⟩, ⟨regArfr2X8812, 4, 0xffffffff, 0x00000015⟩,
    ⟨regArfr2X8812 + 4, 4, 0xffffffff, 0x003ff000⟩, ⟨regArfr3X8812, 4, 0xffffffff, 0x00000015⟩,
    ⟨regArfr3X8812 + 4, 4, 0xffffffff, 0xffcff000⟩, ⟨regHwseqCtrl, 1, 0xff, 0xff⟩,
    ⟨regBarModeCtrl, 4, 0xffffff7f, 0x0201ffff⟩, ⟨regCr, 1, 0xc0, 0xc0⟩]

/-- which of its fields the phase finds does not depend on the rest of what the link says -/
theorem macFields_found (speedValue phySpeed : UInt8) : ∀ field ∈ macFields (rxdmaProValue speedValue phySpeed 0),
    field.foundBy (macSteps speedValue phySpeed) = true := by
  have hsteps (speedValue' phySpeed' : UInt8)
      (heq : rxdmaProValue speedValue phySpeed 0 = rxdmaProValue speedValue' phySpeed' 0) :
      macSteps speedValue phySpeed = macSteps speedValue' phySpeed' := by
    rw [macSteps, macSteps, usbBurstSteps, usbBurstSteps, heq]
  have hcheck (speedValue' phySpeed' : UInt8)
      (heq : rxdmaProValue speedValue phySpeed 0 = rxdmaProValue speedValue' phySpeed' 0)
      (hall : (macFields (rxdmaProValue speedValue' phySpeed' 0)).all
        (RegisterField.foundBy (macSteps speedValue' phySpeed')) = true) :
      ∀ field ∈ macFields (rxdmaProValue speedValue phySpeed 0),
        field.foundBy (macSteps speedValue phySpeed) = true := by
    rw [hsteps speedValue' phySpeed' heq, heq]
    exact List.all_eq_true.1 hall
  by_cases hfast : speedValue &&& bit7 ≠ 0
  · by_cases hphy : (phySpeed >>> 4) &&& 0x03 = 0
    · refine hcheck 0x80 0 ?_ (by decide +kernel)
      rw [rxdmaProValue, if_pos hfast, if_pos hphy]
      rfl
    · refine hcheck 0x80 0x10 ?_ (by decide +kernel)
      rw [rxdmaProValue, if_pos hfast, if_neg hphy]
      rfl
  · refine hcheck 0 0 ?_ (by decide +kernel)
    rw [rxdmaProValue, if_neg hfast]
    rfl

theorem macFields_fit (rxdmaPro : UInt8) :
    ∀ field ∈ macFields rxdmaPro, field.mask < 2 ^ (8 * field.bytes) ∧ field.bytes ≤ 2 ^ 16 := by
  intro field hfield
  have hall : ∀ field ∈ (macFields 0).map fun field => (field.mask, field.bytes),
      field.1 < 2 ^ (8 * field.2) ∧ field.2 ≤ 2 ^ 16 := by decide
  have hsame : (macFields rxdmaPro).map (fun field => (field.mask, field.bytes))
      = (macFields 0).map fun field => (field.mask, field.bytes) := rfl
  exact hall (field.mask, field.bytes) (hsame ▸ List.mem_map_of_mem hfield)

theorem burstSpeed_self (file : StuckRegisters) : BurstSpeed (file.byteAt 0x00ff) (file.byteAt 0xfe17) file := by
  intro address haddress
  rcases List.mem_pair.1 haddress with rfl | rfl
  · exact (file.toNat_byteAt 0x00ff).symm
  · exact (file.toNat_byteAt 0xfe17).symm

theorem macFields_in {speedValue phySpeed : UInt8} {start file : StuckRegisters}
    (hreached : StuckRegisters.Reached (RegisterStep.effects (macSteps speedValue phySpeed)) start file) :
    ∀ field ∈ macFields (rxdmaProValue speedValue phySpeed 0), field.In file := by
  intro field hfield
  obtain ⟨hmask, hbytes⟩ := macFields_fit _ field hfield
  exact RegisterField.in_of_foundBy hreached (macFields_found _ _ field hfield) hmask hbytes

/-- **The MAC phase.** Whichever transfers fail and whichever bits are stuck: the phase writes no register but its own,
and if it returns, every field of `macFields` reads as it should. -/
theorem mac_registers (registers : Rtl8812auRegisterAccess) {s s' : RegisterRun (FaultyDevice StuckRegisters)}
    {outcome : Except RuntimeRadioError ℕ} (hrun : (productionMacSequence registers).exec s = (outcome, s')) :
    (∀ c, RegisterStep.avoid (macSteps 0 0) c.1 = true → s'.transport.file.bits c = s.transport.file.bits c) ∧
      ∀ writes, outcome = .ok writes →
        ∀ field ∈ macFields (rxdmaProValue (s.transport.file.byteAt 0x00ff) (s.transport.file.byteAt 0xfe17) 0),
          field.In s'.transport.file := by
  obtain ⟨hwithin, hok⟩ := (performs_mac registers _ _).outcome (burstSpeed_self s.transport.file) hrun
  exact ⟨fun c hc => hwithin.bits_of_avoid hc, fun writes hwrites => macFields_in (hok writes hwrites).2⟩

theorem mac_registers_setBench :
    ((productionMacSequence {}).exec setBench).1 = .ok 53 ∧
      ∀ field ∈ macFields 0x2e, field.In ((productionMacSequence {}).exec setBench).2.transport.file := by
  have hok : ((productionMacSequence {}).exec setBench).1 = .ok 53 := by decide +kernel
  exact ⟨hok, (mac_registers {} Prod.mk.eta.symm).2 53 hok⟩

end WfbLink.Runtime
