/-
The planned download and the download (`plan_rtl8812au_init`, `production_write_firmware_image`).

The dry-run plan and the live download cut the payload of an image into pages and blocks with loops of their own. Both
are read as a list of events here: the selection of a page, and a block with its address and length.

- `imageEvents`: what either of them should do for a payload.
- `plannedEvent_planRtl8812auInit`: the plan lists it.
- `downloads_writeFirmwareImage`: a download that succeeds does it.
- `planned_download`: on a device whose transfers succeed the two agree.
-/
import WfbLink.RadioCore.InitPlan
import WfbLink.Runtime.FirmwareSequence

namespace WfbLink.Runtime

open WfbLink.Core WfbLink.RadioCore

inductive DownloadEvent where
  | select (page : ℕ)
  | block (address : UInt16) (length : ℕ)
deriving DecidableEq, Repr

namespace DownloadEvent

/-- what a block adds to the download -/
def size : DownloadEvent → ℕ
  | .select _ => 0
  | .block _ length => length

/-- a block of one of the three sizes, inside the download window -/
def InWindow : DownloadEvent → Prop
  | .select _ => True
  | .block address length =>
    length ∈ [196, 8, 1] ∧ 0x1000 ≤ address.toNat ∧ address.toNat + length ≤ 0x2000

end DownloadEvent

/-! ## The events of a payload -/

/-- `count` blocks of one size, from the offset `start` of the page on -/
def sizedBlocks (size start count : ℕ) : List DownloadEvent :=
  (List.range count).map fun i => .block (fwStartAddress + UInt16.ofNat (start + i * size)) size

def pageEvents (pageLen : ℕ) : List DownloadEvent :=
  sizedBlocks maxRegBlockSize 0 (pageLen / maxRegBlockSize) ++
    sizedBlocks firmwareRemainderBlockSize (pageLen / maxRegBlockSize * maxRegBlockSize)
      (pageLen % maxRegBlockSize / firmwareRemainderBlockSize) ++
    sizedBlocks 1 (pageLen / maxRegBlockSize * maxRegBlockSize +
        pageLen % maxRegBlockSize / firmwareRemainderBlockSize * firmwareRemainderBlockSize)
      (pageLen % maxRegBlockSize % firmwareRemainderBlockSize)

example : pageEvents 205 = [.block 0x1000 196, .block 0x10c4 8, .block 0x10cc 1] := by decide

def imageEvents (firmwarePayload : List UInt8) : List DownloadEvent :=
  (chunks maxDlfwPageSize firmwarePayload).zipIdx.flatMap fun e => .select e.2 :: pageEvents e.1.length

theorem sizedBlocks_size (size start count : ℕ) :
    ((sizedBlocks size start count).map DownloadEvent.size).sum = count * size := by
  simp [sizedBlocks, DownloadEvent.size, Function.comp_def]

/-- the blocks lie in the window as long as they lie in the page -/
theorem sizedBlocks_inWindow {size start count : ℕ} (hsize : size ∈ [196, 8, 1])
    (hend : start + count * size ≤ maxDlfwPageSize) : ∀ event ∈ sizedBlocks size start count, event.InWindow := by
  intro event hevent
  obtain ⟨i, hi, rfl⟩ := List.mem_map.1 hevent
  rw [List.mem_range] at hi
  have hblock : start + i * size + size ≤ maxDlfwPageSize := by
    calc start + i * size + size = start + (i + 1) * size := by ring
      _ ≤ start + count * size := Nat.add_le_add_left (Nat.mul_le_mul_right size hi) start
      _ ≤ maxDlfwPageSize := hend
  have haddress :
      (fwStartAddress + UInt16.ofNat (start + i * size)).toNat = fwStartAddress.toNat + (start + i * size) :=
    windowAddress_toNat (by omega)
  have hfw : fwStartAddress.toNat = 4096 := rfl
  have hpage : maxDlfwPageSize = 4096 := rfl
  refine ⟨hsize, ?_, ?_⟩
  · omega
  · omega

theorem pageEvents_size (pageLen : ℕ) : ((pageEvents pageLen).map DownloadEvent.size).sum = pageLen := by
  simp only [pageEvents, List.map_append, List.sum_append, sizedBlocks_size]
  have hfull := Nat.div_add_mod' pageLen maxRegBlockSize
  have hshort := Nat.div_add_mod' (pageLen % maxRegBlockSize) firmwareRemainderBlockSize
  omega

theorem pageEvents_inWindow {pageLen : ℕ} (hlen : pageLen ≤ maxDlfwPageSize) :
    ∀ event ∈ pageEvents pageLen, event.InWindow := by
  have hfull := Nat.div_add_mod' pageLen maxRegBlockSize
  have hshort := Nat.div_add_mod' (pageLen % maxRegBlockSize) firmwareRemainderBlockSize
  simp only [pageEvents, List.forall_mem_append]
  refine ⟨⟨sizedBlocks_inWindow (by decide) (by omega), sizedBlocks_inWindow (by decide) (by omega)⟩,
    sizedBlocks_inWindow (by decide) (by omega)⟩

/-- the blocks hold the whole payload -/
theorem imageEvents_size (firmwarePayload : List UInt8) :
    ((imageEvents firmwarePayload).map DownloadEvent.size).sum = firmwarePayload.length := by
  have hpage : ∀ e : List UInt8 × ℕ,
      ((DownloadEvent.select e.2 :: pageEvents e.1.length).map DownloadEvent.size).sum = e.1.length := by
    intro e
    rw [List.map_cons, List.sum_cons, pageEvents_size, DownloadEvent.size, Nat.zero_add]
  rw [imageEvents, List.map_flatMap, List.flatMap_def, List.sum_flatten, List.map_map, Function.comp_def]
  simp only [hpage]
  have hlengths : ((chunks maxDlfwPageSize firmwarePayload).zipIdx.map fun e => e.1.length)
      = (chunks maxDlfwPageSize firmwarePayload).map List.length := by
    conv_rhs => rw [← List.zipIdx_map_fst 0 (chunks maxDlfwPageSize firmwarePayload), List.map_map]
    rfl
  rw [hlengths, sum_length_chunks (by decide)]

/-- a payload of at most eight pages has no page behind number 7 -/
theorem page_lt {firmwarePayload : List UInt8} (hlen : firmwarePayload.length ≤ 8 * maxDlfwPageSize) :
    ∀ e ∈ (chunks maxDlfwPageSize firmwarePayload).zipIdx, e.2 < 8 := by
  intro e he
  have hbound := chunks_bound (show 0 < maxDlfwPageSize by decide) firmwarePayload 0 e he
  have hne := chunks_ne_nil (show 0 < maxDlfwPageSize by decide) firmwarePayload e.1 (List.fst_mem_of_mem_zipIdx he)
  have hpos := List.length_pos_iff.2 hne
  unfold maxDlfwPageSize at hbound hlen
  omega

theorem imageEvents_inWindow (firmwarePayload : List UInt8) :
    ∀ event ∈ imageEvents firmwarePayload, event.InWindow := by
  intro event hevent
  obtain ⟨e, he, hevent⟩ := List.mem_flatMap.1 hevent
  rcases List.mem_cons.1 hevent with rfl | hevent
  · trivial
  · exact pageEvents_inWindow (chunks_bound (by decide) firmwarePayload 0 e he).1 event hevent

/-! ## The plan -/

/-- the page a description names -/
def describedPage (description : String) : Option ℕ :=
  (List.range 8).find? fun page => InitPlan.firmwarePageDescription page = description

/-- a firmware block, or a write of the selector register for a page -/
def plannedEvent (transfer : InitPlan.PlannedInitTransfer) : Option DownloadEvent :=
  match transfer.operation, transfer.register with
  | .firmwareBlock, some register => some (.block register.address register.width)
  | .write, some register =>
    if register.address = InitPlan.regMcufwdl + 2 then (describedPage transfer.description).map .select else none
  | _, _ => none

theorem describedPage_description {page : ℕ} (hpage : page < 8) :
    describedPage (InitPlan.firmwarePageDescription page) = some page := by
  interval_cases page <;> decide

theorem plannedEvent_addFirmwarePageBlocks (pageLen : ℕ) :
    (InitPlan.addFirmwarePageBlocks pageLen).filterMap plannedEvent = pageEvents pageLen := by
  have hblocks : ∀ (size start count : ℕ),
      ((List.range count).flatMap fun i =>
        InitPlan.firmwareBlock (InitPlan.fwStartAddress + UInt16.ofNat (start + i * size)) size).filterMap plannedEvent
      = sizedBlocks size start count := by
    intro size start count
    rw [List.filterMap_flatMap, sizedBlocks, List.map_eq_flatMap]
    rfl
  have hfull := hblocks InitPlan.maxRegBlockSize 0
  have hbytes := hblocks 1
  simp only [Nat.zero_add] at hfull
  simp only [Nat.mul_one] at hbytes
  rw [InitPlan.addFirmwarePageBlocks_eq, List.filterMap_append, List.filterMap_append, hfull, hblocks, hbytes]
  rfl

theorem plannedEvent_addFirmwarePage {page : ℕ} (hpage : page < 8) (chunk : List UInt8) :
    (InitPlan.addFirmwarePage page chunk).filterMap plannedEvent = .select page :: pageEvents chunk.length := by
  have hselect : (InitPlan.writeReg .firmwareDownload ⟨"REG_MCUFWDL + 2", InitPlan.regMcufwdl + 2, 1⟩
      (InitPlan.firmwarePageDescription page)).filterMap plannedEvent = [.select page] := by
    simp only [InitPlan.writeReg, List.filterMap_cons, List.filterMap_nil, plannedEvent, if_true,
      describedPage_description hpage, Option.map_some]
  rw [InitPlan.addFirmwarePage, List.filterMap_append, List.filterMap_append, hselect,
    plannedEvent_addFirmwarePageBlocks]
  rfl

/-- only the pages select and write -/
theorem plannedEvent_addFirmwareTransfers {firmwarePayload : List UInt8}
    (hlen : firmwarePayload.length ≤ 8 * maxDlfwPageSize) :
    (InitPlan.addFirmwareTransfers firmwarePayload).filterMap plannedEvent = imageEvents firmwarePayload := by
  have henable : InitPlan.addFirmwareEnable.filterMap plannedEvent = [] := by decide
  have hstart : InitPlan.addFirmwareStart.filterMap plannedEvent = [] := by decide
  rw [InitPlan.addFirmwareTransfers, List.filterMap_append, List.filterMap_append, henable, hstart, List.nil_append,
    List.append_nil, List.filterMap_flatMap, imageEvents]
  apply List.flatMap_congr
  intro e he
  exact plannedEvent_addFirmwarePage (page_lt hlen e he) e.1

theorem plannedEvent_addLltTransfers : InitPlan.addLltTransfers.filterMap plannedEvent = [] := by
  have hentry : ∀ address data, (InitPlan.addLltWrite address data).filterMap plannedEvent = [] :=
    fun _ _ => rfl
  have hentries : ∀ (addresses : List ℕ) (f g : ℕ → UInt8),
      (addresses.flatMap fun i => InitPlan.addLltWrite (f i) (g i)).filterMap plannedEvent = [] := by
    intro addresses f g
    rw [List.filterMap_flatMap]
    exact List.flatMap_eq_nil_iff.2 fun i _ => hentry _ _
  simp only [InitPlan.addLltTransfers, List.filterMap_append, hentry, hentries, List.append_nil]

/-- **The plan.** It lists the events of the payload, and no others. -/
theorem plannedEvent_planRtl8812auInit {firmware : FirmwareImage} {plan : InitPlan.InitDryRunPlan}
    (hplan : InitPlan.planRtl8812auInit firmware = .ok plan)
    (hlen : firmware.realtekDownloadPayload.bytes.length ≤ 8 * maxDlfwPageSize) :
    plan.transfers.filterMap plannedEvent = imageEvents firmware.realtekDownloadPayload.bytes := by
  have hpreflight : InitPlan.addPreflightTransfers.filterMap plannedEvent = [] := by decide
  have hrfReset : InitPlan.addRfResetTransfers.filterMap plannedEvent = [] := by decide
  have hpowerOn : InitPlan.addPowerOnTransfers.filterMap plannedEvent = [] := by decide
  have hmacReset : InitPlan.addMacResetTransfers.filterMap plannedEvent = [] := by decide
  have hmacConfig : InitPlan.addMacConfigTransfers.filterMap plannedEvent = [] := by decide
  have hqueueDma : InitPlan.addQueueDmaTransfers.filterMap plannedEvent = [] := by decide
  have hwmac : InitPlan.addWmacTransfers.filterMap plannedEvent = [] := by decide
  have hbbRf : InitPlan.addBbRfTransfers.filterMap plannedEvent = [] := by decide
  have hchannel : InitPlan.addChannelTransfers.filterMap plannedEvent = [] := by decide
  unfold InitPlan.planRtl8812auInit at hplan
  injection hplan with hplan
  rw [← hplan]
  simp only [List.filterMap_append, hpreflight, hrfReset, hpowerOn, hmacReset, plannedEvent_addLltTransfers,
    plannedEvent_addFirmwareTransfers hlen, hmacConfig, hqueueDma, hwmac, hbbRf, hchannel, List.nil_append,
    List.append_nil]

/-! ## The download -/

/-- a write of the selector register selects a page, and every other write is a block -/
def downloadEvent : RegisterTransfer → Option DownloadEvent
  | .read _ _ _ => none
  | .write address data _ =>
    if address = regMcufwdlPlus2 then data.head?.map fun byte => .select (byte &&& 0x07).toNat
    else some (.block address data.length)

/-- the transfers of a part of the download make these events -/
def Downloads (events : List DownloadEvent) (transfers : List RegisterTransfer) : Prop :=
  transfers.filterMap downloadEvent = events

theorem Downloads.joins : Joins Downloads where
  nil := rfl
  append := by
    intro front back earlier later h h'
    rw [Downloads, List.filterMap_append, h, h']

section Download

variable {τ : Type} [Rtl8812auUsbTransport τ] (registers : Rtl8812auRegisterAccess)

theorem downloads_read8 (address : UInt16) (registerName phase : String) :
    OkLogs τ (read8WithCounter registers address registerName phase) fun _ => Downloads [] :=
  OkLogs.read8 registers address _ fun _ _ => rfl

/-- reading back selects nothing; induction on the attempts that are left -/
theorem downloads_verifyReadback (address : UInt16) (registerName phase : String) (masked : UInt8 → UInt8)
    (expected : UInt8) (mismatch : UInt8 → RuntimeRadioError) (attempts : ℕ) (actual : UInt8) :
    OkLogs τ (verifyReadback (read8WithCounter registers address registerName phase) masked expected mismatch attempts
      actual) fun _ => Downloads [] := by
  induction attempts generalizing actual with
  | zero => exact OkLogs.fail _
  | succ attempts ih =>
    apply OkLogs.bind (downloads_read8 registers address registerName phase)
    intro after
    split
    · exact OkLogs.pure fun earlier h => by rwa [List.append_nil]
    · exact (ih _).weaken fun _ later h earlier h' => Downloads.joins.append h' h

/-- the selector takes the page, whatever its other bits are -/
theorem downloads_select (page : ℕ) :
    OkLogs τ (productionRmw8 registers "REG_MCUFWDL + 2" regMcufwdlPlus2 0x07 (UInt8.ofNat page &&& 0x07) true
      "firmware-download") fun _ => Downloads [.select (page % 8)] := by
  apply OkLogs.bind (downloads_read8 registers regMcufwdlPlus2 _ _)
  intro before
  have hwrite : OkLogs τ (write8WithCounter registers regMcufwdlPlus2
      ((before &&& ~~~0x07) ||| ((UInt8.ofNat page &&& 0x07) &&& 0x07)) "REG_MCUFWDL + 2" "firmware-download")
      fun _ => Downloads [.select (page % 8)] := by
    apply OkLogs.writeAll registers regMcufwdlPlus2 .u8 _ rfl
    have hbyte : ((before &&& ~~~0x07) ||| ((UInt8.ofNat page &&& 0x07) &&& 0x07)) &&& 0x07
        = UInt8.ofNat page &&& 0x07 := by
      rw [rmw_masked, UInt8.and_assoc, UInt8.and_self]
    simp only [Downloads, List.filterMap_cons, List.filterMap_nil, downloadEvent, if_true, List.head?_cons,
      Option.map_some, hbyte, selector_toNat]
  apply OkLogs.bind hwrite
  intro _
  rw [if_pos rfl]
  refine OkLogs.bind (downloads_verifyReadback registers regMcufwdlPlus2 _ _ _ _ _ _ _) fun _ => ?_
  apply OkLogs.pure
  intro verified hverified written hwritten earlier hearlier
  rw [List.append_nil]
  exact Downloads.joins.append hearlier (Downloads.joins.append hwritten hverified)

/-- data within the page are one block -/
theorem downloads_writeData {start : ℕ} {data : List UInt8} (hend : start + data.length ≤ maxDlfwPageSize) :
    OkLogs τ (productionFirmwareWriteData registers start data)
      fun _ => Downloads [.block (fwStartAddress + UInt16.ofNat start) data.length] := by
  have hstart : start ≤ maxDlfwPageSize := Nat.le_of_add_right_le hend
  have hother : fwStartAddress + UInt16.ofNat start ≠ regMcufwdlPlus2 := by
    intro h
    have haddress := windowAddress_toNat hstart
    rw [h, show regMcufwdlPlus2.toNat = 130 from rfl, show fwStartAddress.toNat = 4096 from rfl] at haddress
    omega
  have hevent (data : List UInt8) : Downloads [.block (fwStartAddress + UInt16.ofNat start) data.length]
      [.write (fwStartAddress + UInt16.ofNat start) data (.ok data.length)] := by
    simp only [Downloads, List.filterMap_cons, List.filterMap_nil, downloadEvent, if_neg hother]
  have hblock (data : List UInt8) (error : Rtl8812auRegisterError → RuntimeRadioError) :
      OkLogs τ (writeBlockWithCustomError registers (fwStartAddress + UInt16.ofNat start) data error)
        fun _ => Downloads [.block (fwStartAddress + UInt16.ofNat start) data.length] := by
    have hwrite : OkLogs τ (RegisterAction.access (registers.writeBlock (fwStartAddress + UInt16.ofNat start) data)
        error) fun _ => Downloads [.block (fwStartAddress + UInt16.ofNat start) data.length] :=
      OkLogs.access_writeAll registers _ (.block data.length) data rfl error (hevent data)
    apply OkLogs.bind hwrite
    intro _
    apply OkLogs.modifyCounters
    intro earlier h
    rwa [List.append_nil]
  rw [productionFirmwareWriteData_of_le registers hstart]
  rcases data with _ | ⟨byte, _ | ⟨byte', data⟩⟩
  · exact hblock _ _
  · exact OkLogs.writeAll registers _ .u8 [byte] rfl _ (hevent [byte])
  · exact hblock _ _

/-- the blocks of a page have the offsets and the lengths of its events -/
theorem pageParts_events (data : List UInt8) :
    ((pageParts data).flatMap fun part => [.block (fwStartAddress + UInt16.ofNat part.1) part.2.length])
      = pageEvents data.length := by
  have hfull : data.length / maxRegBlockSize * maxRegBlockSize ≤ data.length := Nat.div_mul_le_self _ _
  have hremain : data.length - data.length / maxRegBlockSize * maxRegBlockSize = data.length % maxRegBlockSize := by
    have h := Nat.div_add_mod' data.length maxRegBlockSize
    omega
  have hshort : data.length % maxRegBlockSize / firmwareRemainderBlockSize * firmwareRemainderBlockSize
      ≤ data.length % maxRegBlockSize := Nat.div_mul_le_self _ _
  have hbytes : data.length % maxRegBlockSize -
        data.length % maxRegBlockSize / firmwareRemainderBlockSize * firmwareRemainderBlockSize
      = data.length % maxRegBlockSize % firmwareRemainderBlockSize := by
    have h := Nat.div_add_mod' (data.length % maxRegBlockSize) firmwareRemainderBlockSize
    omega
  have hwhole : ∀ (size start count : ℕ) (bytes : List UInt8), 0 < size → bytes.length = count * size →
      ((chunks size bytes).zipIdx.map fun e =>
          DownloadEvent.block (fwStartAddress + UInt16.ofNat (start + e.2 * size)) e.1.length)
        = sizedBlocks size start count := by
    intro size start count bytes hsize hlen
    rw [map_zipIdx_chunks hsize (fun number length =>
        DownloadEvent.block (fwStartAddress + UInt16.ofNat (start + number * size)) length) hlen 0,
      ← List.range_eq_range', sizedBlocks]
  have hsingle : ∀ (start : ℕ) (bytes : List UInt8),
      (bytes.zipIdx.map fun e => DownloadEvent.block (fwStartAddress + UInt16.ofNat (start + e.2)) 1)
        = sizedBlocks 1 start bytes.length := by
    intro start bytes
    have hrange : List.range bytes.length = bytes.zipIdx.map Prod.snd := by
      rw [List.range_eq_range', List.zipIdx_map_snd]
    rw [sizedBlocks, hrange, List.map_map]
    simp only [Nat.mul_one, Function.comp_def]
  rw [← List.map_eq_flatMap]
  simp only [pageParts, List.map_append, List.map_map, Function.comp_def, List.length_singleton]
  rw [hwhole _ _ _ _ (by decide) (List.length_take_of_le hfull), List.length_drop, hremain,
    hwhole _ _ _ _ (by decide) (List.length_take_of_le (by rw [List.length_drop, hremain]; exact hshort)), hsingle,
    List.length_drop, List.length_drop, hremain, hbytes]
  rfl

/-- **The download.** If the image goes through, its transfers make the events of the payload. -/
theorem downloads_writeFirmwareImage {firmwarePayload : List UInt8}
    (hlen : firmwarePayload.length ≤ 8 * maxDlfwPageSize) :
    OkLogs τ (productionWriteFirmwareImage registers firmwarePayload) fun _ => Downloads (imageEvents firmwarePayload) := by
  have h := joins_writeFirmwareImage (τ := τ) registers Downloads.joins (fun hend => downloads_writeData registers hend)
    (fun page => downloads_select registers page) firmwarePayload
  have hpages : ((chunks maxDlfwPageSize firmwarePayload).zipIdx.flatMap fun e =>
      [DownloadEvent.select (e.2 % 8)] ++
        (pageParts e.1).flatMap fun part => [.block (fwStartAddress + UInt16.ofNat part.1) part.2.length])
      = imageEvents firmwarePayload := by
    apply List.flatMap_congr
    intro e he
    rw [Nat.mod_eq_of_lt (page_lt hlen e he), pageParts_events]
    rfl
  rwa [hpages] at h

end Download

/-! ## The two -/

/-- the plan of an image and its download: the blocks, on a device without failures, and wherever a download succeeds -/
structure DownloadAgrees (firmware : FirmwareImage) (plan : InitPlan.InitDryRunPlan) : Prop where
  inWindow : ∀ event ∈ plan.transfers.filterMap plannedEvent, event.InWindow
  size : ((plan.transfers.filterMap plannedEvent).map DownloadEvent.size).sum
    = firmware.realtekDownloadPayload.bytes.length
  succeeds : ∀ (registers : Rtl8812auRegisterAccess) (file : FirmwareRegisters) (counters : RuntimeRadioCounters),
    ∃ s', (productionWriteFirmwareImage registers firmware.realtekDownloadPayload.bytes).exec
        (downloadStart file counters).logged
      = (.ok (UInt64.ofNat firmware.realtekDownloadPayload.bytes.length), s') ∧
      (runLog s').filterMap downloadEvent = plan.transfers.filterMap plannedEvent
  agrees : ∀ (τ : Type) [Rtl8812auUsbTransport τ] (registers : Rtl8812auRegisterAccess) (s : RegisterRun (Logged τ))
    (written : UInt64) (s' : RegisterRun (Logged τ)),
    (productionWriteFirmwareImage registers firmware.realtekDownloadPayload.bytes).exec s = (.ok written, s') →
      ∃ transfers, runLog s' = runLog s ++ transfers ∧
        transfers.filterMap downloadEvent = plan.transfers.filterMap plannedEvent

/-- **Planned and downloaded.** For a payload of at most eight pages the plan lists the page selections and the blocks
that the download makes. -/
theorem planned_download (firmware : FirmwareImage)
    (hlen : firmware.realtekDownloadPayload.bytes.length ≤ 8 * maxDlfwPageSize) :
    ∃ plan, InitPlan.planRtl8812auInit firmware = .ok plan ∧ DownloadAgrees firmware plan := by
  obtain ⟨plan, hplan⟩ : ∃ plan, InitPlan.planRtl8812auInit firmware = .ok plan := ⟨_, rfl⟩
  have hevents := plannedEvent_planRtl8812auInit hplan hlen
  refine ⟨plan, hplan, ?_, ?_, ?_, ?_⟩
  · rw [hevents]
    exact imageEvents_inWindow _
  · rw [hevents]
    exact imageEvents_size _
  · intro registers file counters
    have hmax : firmware.realtekDownloadPayload.bytes.length ≤ u64Max := by
      unfold maxDlfwPageSize at hlen
      unfold u64Max
      omega
    obtain ⟨bare, hbare, -, -⟩ := productionWriteFirmwareImage_stores registers _ hmax file counters
    have hlogged := exec_bare (productionWriteFirmwareImage registers firmware.realtekDownloadPayload.bytes)
      (downloadStart file counters).logged
    rw [show (downloadStart file counters).logged.bare = downloadStart file counters from rfl, hbare] at hlogged
    rcases hrun : (productionWriteFirmwareImage registers firmware.realtekDownloadPayload.bytes).exec
      (downloadStart file counters).logged with ⟨outcome, s'⟩
    rw [hrun] at hlogged
    obtain rfl : _ = outcome := (Prod.ext_iff.1 hlogged).1
    obtain ⟨transfers, hlog, htransfers⟩ := downloads_writeFirmwareImage registers hlen _ _ _ hrun
    refine ⟨s', rfl, ?_⟩
    rw [hlog, hevents]
    exact htransfers
  · intro τ _ registers s written s' hrun
    obtain ⟨transfers, hlog, htransfers⟩ := downloads_writeFirmwareImage registers hlen s written s' hrun
    exact ⟨transfers, hlog, htransfers.trans hevents.symm⟩

/-- an image with one block of each size -/
def shortFirmware : FirmwareImage where
  source := .inMemory
  byteSum := 0x8822
  bytes := List.replicate 205 0xaa
  bytes_ne := by decide
  length_le := by rw [List.length_replicate]; decide

theorem shortFirmware_planned :
    ∃ plan, InitPlan.planRtl8812auInit shortFirmware = .ok plan ∧ DownloadAgrees shortFirmware plan :=
  planned_download shortFirmware (by decide +kernel)

end WfbLink.Runtime
