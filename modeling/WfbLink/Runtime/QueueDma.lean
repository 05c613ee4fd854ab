/-
The queue/DMA phase of the init sequence (`wfb-radio-runtime/src/lib.rs`).

The pages of the transmit buffer are shared out between three queues and a public pool, and every traffic class is
mapped to a queue. How many bulk OUT endpoints the adapter has decides which queues there are.

- `queueLayout_cases`: the layouts there are.
- `performs_queueDma`: what the phase writes, and what it has found when it returns.
- `queueDma_registers`: the layout shares out all pages, and after the phase the registers hold it.
-/
import WfbLink.Runtime.PowerOn

namespace WfbLink.Runtime

open WfbLink.Core WfbLink.RadioCore

/-! ## Constants -/

def regPbp : UInt16 := 0x0104
def regTrxdmaCtrl : UInt16 := 0x010c
def regTrxffBndy : UInt16 := 0x0114
def regRqpn : UInt16 := 0x0200
def regTdectrl : UInt16 := 0x0208
def regRqpnNpq : UInt16 := 0x0214
def regBcnqBdny : UInt16 := 0x0424
def regMgqBdny : UInt16 := 0x0425
def regWmacLbkBfHd : UInt16 := 0x045d

def txPageBoundary8812 : UInt8 := 0xf7
def lastEntryOfTxPktBuffer8812 : UInt8 := 0xff
def txTotalPageNumber8812 : UInt8 := txPageBoundary8812 - 1
def rxDmaBoundary8812 : UInt16 := 0x3e7f
def normalPageNumHpq8812 : UInt8 := 0x10
def normalPageNumLpq8812 : UInt8 := 0x10
def normalPageNumNpq8812 : UInt8 := 0x00
def pbp512 : UInt8 := 0x03
def pstxPbp512 : UInt8 := pbp512 <<< 4
def queueExtra : UInt16 := 0
def queueLow : UInt16 := 1
def queueNormal : UInt16 := 2
def queueHigh : UInt16 := 3
def ldRqpn : UInt32 := (1 : UInt32) <<< 31
def rqpnPageMask : UInt32 := 0x00ffffff
def txdmaQueueMapMask : UInt16 := 0xfff8

/-! ## The layout -/

structure ProductionQueueLayout where
  bulkOutEndpointCount : ℕ
  hpq : UInt8
  lpq : UInt8
  npq : UInt8
  pubq : UInt8
  rqpnNpq : UInt8
  rqpn : UInt32
  queueMap : UInt16
deriving DecidableEq

def productionQueueMap (beq bkq viq voq mgq hiq : UInt16) : UInt16 :=
  ((hiq &&& 0x3) <<< 14) ||| ((mgq &&& 0x3) <<< 12) ||| ((bkq &&& 0x3) <<< 10) ||| ((beq &&& 0x3) <<< 8) |||
    ((viq &&& 0x3) <<< 6) ||| ((voq &&& 0x3) <<< 4)

def productionQueueMapForEndpointCount : ℕ → UInt16
  | 2 => productionQueueMap queueNormal queueNormal queueHigh queueHigh queueHigh queueHigh
  | 3 => productionQueueMap queueLow queueLow queueNormal queueHigh queueHigh queueHigh
  | 4 => productionQueueMap queueLow queueLow queueNormal queueNormal queueExtra queueHigh
  | _ => 0

/-- which of the high, the low and the normal queue there are -/
def usedQueues : ℕ → Option (Bool × Bool × Bool)
  | 2 => some (true, false, true)
  | 3 | 4 => some (true, true, true)
  | _ => none

def checkedSubU8 (a b : UInt8) : Option UInt8 := if b ≤ a then some (a - b) else none

def productionQueueLayoutFromBulkOutEndpointCount (bulkOutEndpointCount : ℕ) :
    Except RuntimeRadioError ProductionQueueLayout := do
  match usedQueues bulkOutEndpointCount with
  | none =>
    .error (.new "unsupported_bulk_out_endpoint_count"
      s!"queue/DMA setup supports 2, 3, or 4 bulk OUT endpoints, found {bulkOutEndpointCount}")
  | some (useHpq, useLpq, useNpq) =>
    let hpq := if useHpq then normalPageNumHpq8812 else 0
    let lpq := if useLpq then normalPageNumLpq8812 else 0
    let npq := if useNpq then normalPageNumNpq8812 else 0
    match (checkedSubU8 txTotalPageNumber8812 hpq).bind fun value =>
        (checkedSubU8 value lpq).bind fun value => checkedSubU8 value npq with
    | none =>
      .error (.new "invalid_queue_page_layout" "queue reserved-page layout underflowed public queue pages")
    | some pubq =>
      return {
        bulkOutEndpointCount
        hpq
        lpq
        npq
        pubq
        rqpnNpq := npq
        rqpn := hpq.toUInt32 ||| (lpq.toUInt32 <<< 8) ||| (pubq.toUInt32 <<< 16) ||| ldRqpn
        queueMap := productionQueueMapForEndpointCount bulkOutEndpointCount }

/-- of the endpoints, the number of bulk OUT ones is used -/
def productionQueueLayoutFromEndpoints (bulkOutAll : List UInt8) : Except RuntimeRadioError ProductionQueueLayout :=
  productionQueueLayoutFromBulkOutEndpointCount bulkOutAll.length

/-! ## The sequence -/

/-- the registers that hold the boundary of the transmit pages -/
def txPageBoundaryRegisters : List (String × UInt16) :=
  [("REG_BCNQ_BDNY", regBcnqBdny), ("REG_MGQ_BDNY", regMgqBdny), ("REG_WMAC_LBK_BF_HD", regWmacLbkBfHd),
    ("REG_TRXFF_BNDY", regTrxffBndy), ("REG_TDECTRL + 1", regTdectrl + 1)]

section Sequence

variable (registers : Rtl8812auRegisterAccess)

def productionQueueDmaSequence (layout : ProductionQueueLayout) : RegisterAction ℕ := do
  productionPreflightCr registers "queue/DMA programming"
  let beforeWrites ← RegisterAction.counters
  productionWrite8Verify registers "REG_RQPN_NPQ" regRqpnNpq layout.rqpnNpq 0xff layout.rqpnNpq "queue-dma"
  productionWrite32Verify registers "REG_RQPN" regRqpn layout.rqpn rqpnPageMask layout.rqpn "queue-dma"
  txPageBoundaryRegisters.forM fun (registerName, address) =>
    productionWrite8Verify registers registerName address txPageBoundary8812 0xff txPageBoundary8812 "queue-dma"
  productionRmw16Preserve registers "REG_TRXDMA_CTRL" regTrxdmaCtrl 0x0007 txdmaQueueMapMask layout.queueMap
    "queue-dma"
  productionWrite16Verify registers "REG_TRXFF_BNDY + 2" (regTrxffBndy + 2) rxDmaBoundary8812 0xffff
    rxDmaBoundary8812 "queue-dma"
  productionWrite8Verify registers "REG_PBP" regPbp pstxPbp512 0xff pstxPbp512 "queue-dma"
  writesSince beforeWrites

/-! ## Effects -/

variable {P : StuckRegisters → Prop}

def queueDmaSteps (layout : ProductionQueueLayout) : List RegisterStep :=
  preflightCrSteps ++
    [setWord regRqpnNpq 1 layout.rqpnNpq.toNat,
      wordStep regRqpn 4 layout.rqpn.toNat rqpnPageMask.toNat layout.rqpn.toNat] ++
    txPageBoundaryRegisters.flatMap (fun register => [setWord register.2 1 txPageBoundary8812.toNat]) ++
    [setField regTrxdmaCtrl 2 txdmaQueueMapMask.toNat layout.queueMap.toNat,
      setWord (regTrxffBndy + 2) 2 rxDmaBoundary8812.toNat,
      setWord regPbp 1 pstxPbp512.toNat]

theorem performs_queueDma (layout : ProductionQueueLayout) :
    Performs P (productionQueueDmaSequence registers layout) (fun _ => True) (RegisterStep.effects (queueDmaSteps layout)) := by
  rw [queueDmaSteps, List.append_assoc, List.append_assoc]
  refine (performs_preflightCr registers _).append fun _ _ => ?_
  refine Performs.counters.bind_empty fun before _ => ?_
  refine (performs_write8Verify registers _ _ _ layout.rqpnNpq 0xff layout.rqpnNpq).cons fun _ _ => ?_
  refine (performs_write32Verify registers _ _ _ layout.rqpn rqpnPageMask layout.rqpn).cons fun _ _ => ?_
  refine (Performs.forM _ fun register => (performs_write8Verify registers _ _ _ _ 0xff _).last).append fun _ _ => ?_
  refine (performs_rmw16Preserve registers _ _ _ txdmaQueueMapMask layout.queueMap).cons fun _ _ => ?_
  refine (performs_write16Verify registers _ _ _ _ 0xffff _).cons fun _ _ => ?_
  refine (performs_write8Verify registers _ _ _ _ 0xff _).cons fun _ _ => ?_
  exact performs_writesSince before

end Sequence

/-! ## The registers after the phase -/

/-- there is a layout for two, three and four endpoints -/
theorem queueLayout_cases {n : ℕ} {layout : ProductionQueueLayout}
    (h : productionQueueLayoutFromBulkOutEndpointCount n = .ok layout) :
    layout = ⟨2, 0x10, 0x00, 0x00, 0xe6, 0x00, 0x80e60010, 0xfaf0⟩ ∨
      layout = ⟨3, 0x10, 0x10, 0x00, 0xd6, 0x00, 0x80d61010, 0xf5b0⟩ ∨
        layout = ⟨4, 0x10, 0x10, 0x00, 0xd6, 0x00, 0x80d61010, 0xc5a0⟩ := by
  by_cases htwo : n = 2
  · subst htwo
    exact .inl (Except.ok.inj h).symm
  by_cases hthree : n = 3
  · subst hthree
    exact .inr (.inl (Except.ok.inj h).symm)
  by_cases hfour : n = 4
  · subst hfour
    exact .inr (.inr (Except.ok.inj h).symm)
  have hnone : usedQueues n = none := by
    unfold usedQueues
    split
    · exact absurd rfl htwo
    · exact absurd rfl hthree
    · exact absurd rfl hfour
    · rfl
  rw [productionQueueLayoutFromBulkOutEndpointCount, hnone] at h
  cases h

/-- what the registers are after the phase: the pages of each queue and of the pool, the boundary of the transmit pages
in all its places, and the queue of every traffic class -/
def queueDmaFields (layout : ProductionQueueLayout) : List RegisterField :=
  [⟨regCr, 2, crEnableBits.toNat, crEnableBits.toNat⟩, ⟨regRqpn, 1, 0xff, layout.hpq.toNat⟩,
    ⟨regRqpn + 1, 1, 0xff, layout.lpq.toNat⟩, ⟨regRqpn + 2, 1, 0xff, layout.pubq.toNat⟩,
    ⟨regRqpnNpq, 1, 0xff, layout.npq.toNat⟩] ++
    txPageBoundaryRegisters.map (fun register => ⟨register.2, 1, 0xff, txTotalPageNumber8812.toNat + 1⟩) ++
    [⟨regTrxdmaCtrl, 2, 0xfff8, layout.queueMap.toNat⟩, ⟨regTrxffBndy + 2, 2, 0xffff, 0x3e7f⟩, ⟨regPbp, 1, 0xff, 0x30⟩]

/-- whatever the layout, each field has a mask that fits its word and is found at the end -/
theorem queueDmaFields_found {n : ℕ} {layout : ProductionQueueLayout}
    (h : productionQueueLayoutFromBulkOutEndpointCount n = .ok layout) :
    ∀ field ∈ queueDmaFields layout, field.foundBy (queueDmaSteps layout) = true ∧
      field.mask < 2 ^ (8 * field.bytes) ∧ field.bytes ≤ 2 ^ 16 := by
  rcases queueLayout_cases h with rfl | rfl | rfl
  · decide +kernel
  · decide +kernel
  · decide +kernel

theorem queueDmaFields_in {n : ℕ} {layout : ProductionQueueLayout} {start file : StuckRegisters}
    (hlayout : productionQueueLayoutFromBulkOutEndpointCount n = .ok layout)
    (hreached : StuckRegisters.Reached (RegisterStep.effects (queueDmaSteps layout)) start file) :
    ∀ field ∈ queueDmaFields layout, field.In file := by
  intro field hfield
  obtain ⟨hfound, hmask, hbytes⟩ := queueDmaFields_found hlayout field hfield
  exact RegisterField.in_of_foundBy hreached hfound hmask hbytes

/-- **The queue/DMA phase.** The pages of the queues and of the pool are all pages below the boundary. The phase writes
no register but its own, and if it returns, every field of `queueDmaFields` reads as the layout says. -/
theorem queueDma_registers (registers : Rtl8812auRegisterAccess) {bulkOutAll : List UInt8}
    {layout : ProductionQueueLayout} (hlayout : productionQueueLayoutFromEndpoints bulkOutAll = .ok layout)
    {s s' : RegisterRun (FaultyDevice StuckRegisters)} {outcome : Except RuntimeRadioError ℕ}
    (hrun : (productionQueueDmaSequence registers layout).exec s = (outcome, s')) :
    layout.hpq.toNat + layout.lpq.toNat + layout.npq.toNat + layout.pubq.toNat = txTotalPageNumber8812.toNat ∧
      (∀ c, RegisterStep.avoid (queueDmaSteps layout) c.1 = true →
        s'.transport.file.bits c = s.transport.file.bits c) ∧
      ∀ writes, outcome = .ok writes → ∀ field ∈ queueDmaFields layout, field.In s'.transport.file := by
  obtain ⟨hwithin, hok⟩ := (performs_queueDma (P := fun _ => True) registers layout).outcome trivial hrun
  refine ⟨?_, fun c hc => hwithin.bits_of_avoid hc, fun writes hwrites => queueDmaFields_in hlayout (hok writes hwrites).2⟩
  rcases queueLayout_cases hlayout with rfl | rfl | rfl <;> rfl

/-- the layout for three endpoints -/
def threeQueueLayout : ProductionQueueLayout := ⟨3, 0x10, 0x10, 0x00, 0xd6, 0x00, 0x80d61010, 0xf5b0⟩

theorem queueDma_registers_setBench :
    ((productionQueueDmaSequence {} threeQueueLayout).exec setBench).1 = .ok 10 ∧
      ∀ field ∈ queueDmaFields threeQueueLayout,
        field.In ((productionQueueDmaSequence {} threeQueueLayout).exec setBench).2.transport.file := by
  have hlayout : productionQueueLayoutFromEndpoints [0x02, 0x03, 0x04] = .ok threeQueueLayout := rfl
  have hok : ((productionQueueDmaSequence {} threeQueueLayout).exec setBench).1 = .ok 10 := by decide +kernel
  exact ⟨hok, (queueDma_registers {} hlayout Prod.mk.eta.symm).2.2 10 hok⟩

end WfbLink.Runtime
