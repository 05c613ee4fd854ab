/-
Downloading firmware (`production_write_firmware_image`).

The payload goes to the device in pages, which a selector register switches; a page goes in blocks, then in short
blocks, then byte by byte.

- `productionWriteFirmwareImage_stores`: the bytes go to the cells of their positions, with the page number cut down to
  the three bits of the selector.
- `placed_iff`: so every byte is where it belongs exactly if the payload has no more than eight pages.
-/
import WfbLink.Core.Chunks
import WfbLink.RadioCore.Firmware
import WfbLink.Runtime.DeviceRun
import WfbLink.Runtime.ProductionRegister

namespace WfbLink.Runtime

open WfbLink.Core WfbLink.RadioCore

def regMcufwdl : UInt16 := 0x0080
def regMcufwdlPlus2 : UInt16 := regMcufwdl + 2
def fwStartAddress : UInt16 := 0x1000
def maxDlfwPageSize : ℕ := 4096
def maxRegBlockSize : ℕ := 196
def firmwareRemainderBlockSize : ℕ := 8

/-! ## Writing the image -/

section Image

variable (registers : Rtl8812auRegisterAccess)

def productionFirmwarePageAddress (pageOffset : ℕ) : Except RuntimeRadioError UInt16 :=
  if pageOffset ≥ 2 ^ 16 then
    .error (.new "firmware_offset_too_large"
      s!"firmware page offset {pageOffset} does not fit in a register address")
  else if fwStartAddress.toNat + pageOffset ≥ 2 ^ 16 then
    .error (.new "firmware_address_overflow"
      s!"firmware address overflow: start=0x{hexText 4 fwStartAddress.toNat} offset={pageOffset}")
  else .ok (fwStartAddress + UInt16.ofNat pageOffset)

/-- a block write is counted like any other write, but by a saturating addition -/
def writeBlockWithCustomError (address : UInt16) (data : List UInt8)
    (error : Rtl8812auRegisterError → RuntimeRadioError) : RegisterAction Unit := do
  RegisterAction.access (registers.writeBlock address data) error
  RegisterAction.modifyCounters fun counters =>
    { counters with usbControlWrites := satAdd counters.usbControlWrites 1 }

def productionFirmwareWriteData (pageOffset : ℕ) (data : List UInt8) : RegisterAction Unit := do
  let address ← RegisterAction.ofExcept (productionFirmwarePageAddress pageOffset)
  match data with
  | [byte] => write8WithCounter registers address byte "FW_START_ADDRESS + page_offset" "firmware-download"
  | data =>
    writeBlockWithCustomError registers address data fun error =>
      .new "firmware_write_failed"
        s!"firmware write offset={pageOffset} len={data.length} addr=0x{hexText 4 address.toNat} failed: {error.message}"

/-- the parts one after the other, with their numbers; the results are added up -/
def forEnumerate {α : Type} (body : ℕ → α → RegisterAction UInt64) : ℕ → List α → UInt64 → RegisterAction UInt64
  | _, [], total => return total
  | number, part :: parts, total => do
    let written ← body number part
    forEnumerate body (number + 1) parts (satAdd total written)

/-- blocks of one size, from the offset `start` of the page on -/
def writeFirmwareBlocks (start size : ℕ) (bytes : List UInt8) (bytesWritten : UInt64) : RegisterAction UInt64 :=
  forEnumerate (fun number block => do
    productionFirmwareWriteData registers (start + number * size) block
    return u64Sat block.length) 0 (chunks size bytes) bytesWritten

def productionWriteFirmwarePage (bytes : List UInt8) : RegisterAction UInt64 := do
  let fullBlockLen := bytes.length / maxRegBlockSize * maxRegBlockSize
  let bytesWritten ← writeFirmwareBlocks registers 0 maxRegBlockSize (bytes.take fullBlockLen) 0
  let remainder := bytes.drop fullBlockLen
  let remainderBlockLen := remainder.length / firmwareRemainderBlockSize * firmwareRemainderBlockSize
  let bytesWritten ← writeFirmwareBlocks registers fullBlockLen firmwareRemainderBlockSize
    (remainder.take remainderBlockLen) bytesWritten
  forEnumerate (fun number byte => do
    productionFirmwareWriteData registers (fullBlockLen + remainderBlockLen + number) [byte]
    return 1) 0 (remainder.drop remainderBlockLen) bytesWritten

def productionWriteFirmwareImage (firmwarePayload : List UInt8) : RegisterAction UInt64 :=
  forEnumerate (fun page chunk => do
    productionRmw8 registers "REG_MCUFWDL + 2" regMcufwdlPlus2 0x07 (UInt8.ofNat page &&& 0x07) true
      "firmware-download"
    productionWriteFirmwarePage registers chunk) 0 (chunks maxDlfwPageSize firmwarePayload) 0

end Image

section Address

theorem windowAddress_toNat {start : ℕ} (hstart : start ≤ maxDlfwPageSize) :
    (fwStartAddress + UInt16.ofNat start).toNat = fwStartAddress.toNat + start := by
  have hfw : fwStartAddress.toNat = 4096 := rfl
  have hpage : maxDlfwPageSize = 4096 := rfl
  rw [UInt16.toNat_add, UInt16.toNat_ofNat', hfw]
  omega

/-- within a page the address is never refused -/
theorem productionFirmwareWriteData_of_le (registers : Rtl8812auRegisterAccess) {start : ℕ}
    (hstart : start ≤ maxDlfwPageSize) (data : List UInt8) :
    productionFirmwareWriteData registers start data =
      match data with
      | [byte] =>
        write8WithCounter registers (fwStartAddress + UInt16.ofNat start) byte "FW_START_ADDRESS + page_offset"
          "firmware-download"
      | data =>
        writeBlockWithCustomError registers (fwStartAddress + UInt16.ofNat start) data fun error =>
          .new "firmware_write_failed"
            s!"firmware write offset={start} len={data.length} addr=0x{hexText 4 (fwStartAddress + UInt16.ofNat start).toNat} failed: {error.message}" := by
  have hfw : fwStartAddress.toNat = 4096 := rfl
  have hpage : maxDlfwPageSize = 4096 := rfl
  have haddress : productionFirmwarePageAddress start = .ok (fwStartAddress + UInt16.ofNat start) := by
    rw [productionFirmwarePageAddress, if_neg (by omega), if_neg (by omega)]
  rw [productionFirmwareWriteData, haddress]
  rfl

end Address

/-! ## The device -/

/-- a byte in every register, and what was written to the cells of the pages, in order -/
structure FirmwareRegisters where
  cells : UInt16 → UInt8
  stored : List ((ℕ × ℕ) × UInt8)

namespace FirmwareRegisters

/-- the page that is selected -/
def page (file : FirmwareRegisters) : ℕ := (file.cells regMcufwdlPlus2 &&& 0x07).toNat

/-- a byte to the selected page, if the address is in the window, and otherwise to a register -/
def storeByte (file : FirmwareRegisters) (address : ℕ) (byte : UInt8) : FirmwareRegisters :=
  if fwStartAddress.toNat ≤ address ∧ address < fwStartAddress.toNat + maxDlfwPageSize then
    { file with stored := file.stored ++ [((file.page, address - fwStartAddress.toNat), byte)] }
  else { file with cells := fun a => if a = UInt16.ofNat address then byte else file.cells a }

def storeBytes (file : FirmwareRegisters) (address : ℕ) : List UInt8 → FirmwareRegisters
  | [] => file
  | byte :: data => storeBytes (file.storeByte address byte) (address + 1) data

instance : RegisterFile FirmwareRegisters where
  load file address n := ((List.range n).map fun i => file.cells (address + UInt16.ofNat i), file)
  store file address data := file.storeBytes address.toNat data
  load_length file address n := by rw [List.length_map, List.length_range]

end FirmwareRegisters

/-! ## What the accesses do to it -/

/-- a string in a page, from the offset `start` on -/
def pageCells (page start : ℕ) (data : List UInt8) : List ((ℕ × ℕ) × UInt8) :=
  (data.zipIdx start).map fun e => ((page, e.2), e.1)

theorem pageCells_append (page start : ℕ) (front back : List UInt8) :
    pageCells page start (front ++ back) = pageCells page start front ++ pageCells page (start + front.length) back := by
  rw [pageCells, List.zipIdx_append, List.map_append]
  rfl

namespace FirmwareRegisters

/-- bytes in the window go to the selected page; induction on the bytes -/
theorem storeBytes_window (file : FirmwareRegisters) (start : ℕ) (data : List UInt8)
    (hend : start + data.length ≤ maxDlfwPageSize) :
    file.storeBytes (fwStartAddress.toNat + start) data
      = { file with stored := file.stored ++ pageCells file.page start data } := by
  induction data generalizing file start with
  | nil => simp [storeBytes, pageCells]
  | cons byte data ih =>
    simp only [List.length_cons] at hend
    have hbyte : file.storeByte (fwStartAddress.toNat + start) byte
        = { file with stored := file.stored ++ [((file.page, start), byte)] } := by
      rw [storeByte, if_pos ⟨by omega, by omega⟩, Nat.add_sub_cancel_left]
    rw [storeBytes, hbyte, Nat.add_assoc, ih _ (start + 1) (by omega)]
    simp only [page, pageCells, List.zipIdx_cons, List.map_cons, List.append_assoc, List.cons_append, List.nil_append]

theorem store_register {address : UInt16} (haddress : address.toNat < fwStartAddress.toNat) (file : FirmwareRegisters)
    (byte : UInt8) :
    RegisterFile.store file address [byte]
      = { file with cells := fun a => if a = address then byte else file.cells a } := by
  change (file.storeByte address.toNat byte).storeBytes (address.toNat + 1) [] = _
  rw [storeBytes, storeByte, if_neg (fun h => absurd h.1 (Nat.not_le.2 haddress)), UInt16.ofNat_toNat]

theorem load_register (address : UInt16) (file : FirmwareRegisters) :
    loadValue address 1 file = ((file.cells address).toNat, file) := by
  have hload : RegisterFile.load file address 1 = ([file.cells (address + UInt16.ofNat 0)], file) := rfl
  rw [loadValue, hload, show address + UInt16.ofNat 0 = address from UInt16.add_zero address]
  rfl

end FirmwareRegisters

section Does

variable (registers : Rtl8812auRegisterAccess)

theorem does_read8 (address : UInt16) (registerName phase : String) (file : FirmwareRegisters) :
    Does (fun f => f = file) (read8WithCounter registers address registerName phase)
      fun value f => value = file.cells address ∧ f = file := by
  apply Does.readWithCustomError (registers.read8_loads address)
  rintro f rfl
  rw [FirmwareRegisters.load_register]
  exact ⟨UInt8.ofNat_toNat, rfl⟩

/-- the registers after a read-modify-write -/
def rmwCells (cells : UInt16 → UInt8) (address : UInt16) (mask value : UInt8) : UInt16 → UInt8 := fun a =>
  if a = address then (cells address &&& ~~~mask) ||| (value &&& mask) else cells a

theorem rmwCells_self (cells : UInt16 → UInt8) (address : UInt16) (mask value : UInt8) :
    rmwCells cells address mask value address = (cells address &&& ~~~mask) ||| (value &&& mask) := if_pos rfl

theorem rmwCells_of_ne (cells : UInt16 → UInt8) {address a : UInt16} (h : a ≠ address) (mask value : UInt8) :
    rmwCells cells address mask value a = cells a := if_neg h

/-- a register takes the new bits and keeps the others; reading it back agrees at once -/
theorem does_rmw8 {address : UInt16} (haddress : address.toNat < fwStartAddress.toNat) (registerName phase : String)
    (mask value : UInt8) (shouldVerify : Bool) (file : FirmwareRegisters) :
    Does (fun f => f = file) (productionRmw8 registers registerName address mask value shouldVerify phase)
      fun _ f => f = { file with cells := rmwCells file.cells address mask value } := by
  apply Does.bind (does_read8 registers address registerName phase file)
  intro before
  have hwrite : Does (fun f => before = file.cells address ∧ f = file)
      (write8WithCounter registers address ((before &&& ~~~mask) ||| (value &&& mask)) registerName phase)
      fun _ f => f = { file with cells := rmwCells file.cells address mask value } := by
    apply Does.writeWithCustomError (registers.writeAll_stores address .u8 [_] rfl)
    rintro f ⟨rfl, rfl⟩
    exact FirmwareRegisters.store_register haddress f _
  apply Does.bind hwrite
  intro _
  split
  · refine Does.bind (Q := fun _ f => f = _) ?_ fun _ => Does.pure fun _ hf => hf
    apply Does.bind (does_read8 registers address registerName phase _)
    intro after
    by_cases hafter : after &&& mask = value &&& mask
    · rw [if_pos hafter]
      exact Does.pure fun _ hf => hf.2
    · intro s hs
      refine absurd ?_ hafter
      rw [hs.2.1]
      dsimp only
      rw [rmwCells_self, rmw_masked]
  · exact Does.pure fun _ hf => hf

/-- data go to the selected page -/
theorem does_writeData {start : ℕ} {data : List UInt8} (hend : start + data.length ≤ maxDlfwPageSize)
    (file : FirmwareRegisters) :
    Does (fun f => f = file) (productionFirmwareWriteData registers start data)
      fun _ f => f = { file with stored := file.stored ++ pageCells file.page start data } := by
  have hstart : start ≤ maxDlfwPageSize := Nat.le_of_add_right_le hend
  have hstore : ∀ f : FirmwareRegisters, f = file →
      RegisterFile.store f (fwStartAddress + UInt16.ofNat start) data
        = { file with stored := file.stored ++ pageCells file.page start data } := by
    rintro f rfl
    change f.storeBytes (fwStartAddress + UInt16.ofNat start).toNat data = _
    rw [windowAddress_toNat hstart, f.storeBytes_window start data hend]
  have hblock (error : Rtl8812auRegisterError → RuntimeRadioError) : Does (fun f => f = file)
      (writeBlockWithCustomError registers (fwStartAddress + UInt16.ofNat start) data error)
      fun _ f => f = { file with stored := file.stored ++ pageCells file.page start data } :=
    Does.bind (Does.access (registers.writeAll_stores _ (.block data.length) data rfl) error hstore) fun _ =>
      Does.modifyCounters _
  rw [productionFirmwareWriteData_of_le registers hstart]
  rcases data with _ | ⟨byte, _ | ⟨byte', data⟩⟩
  · exact hblock _
  · exact Does.writeWithCustomError (registers.writeAll_stores _ .u8 [byte] rfl) _ hstore
  · exact hblock _

/-- the parts one after the other; induction on the parts -/
theorem does_forEnumerate {α : Type} (body : ℕ → α → RegisterAction UInt64) (I : FirmwareRegisters → Prop)
    (size : α → ℕ) (place : ℕ → α → List ((ℕ × ℕ) × UInt8)) (parts : List α) (number : ℕ)
    (hbody : ∀ e ∈ parts.zipIdx number, ∀ stored, Does (fun f => I f ∧ f.stored = stored) (body e.2 e.1)
      fun written f => written.toNat = min (size e.1) u64Max ∧ I f ∧ f.stored = stored ++ place e.2 e.1)
    (total : UInt64) {n : ℕ} (htotal : total.toNat = min n u64Max) (stored : List ((ℕ × ℕ) × UInt8)) :
    Does (fun f => I f ∧ f.stored = stored) (forEnumerate body number parts total)
      fun written f => written.toNat = min (n + (parts.map size).sum) u64Max ∧ I f ∧
        f.stored = stored ++ (parts.zipIdx number).flatMap fun e => place e.2 e.1 := by
  induction parts generalizing number total n stored with
  | nil =>
    apply Does.pure
    rintro f ⟨hI, rfl⟩
    exact ⟨htotal, hI, (List.append_nil _).symm⟩
  | cons part parts ih =>
    rw [List.zipIdx_cons] at hbody
    apply Does.bind (hbody (part, number) List.mem_cons_self stored)
    intro written
    apply Does.assume
    intro hwritten
    have hnext : (satAdd total written).toNat = min (n + size part) u64Max := by
      rw [satAdd_toNat, htotal, hwritten]
      dsimp only
      omega
    have h := ih (number + 1) (fun e he => hbody e (List.mem_cons_of_mem _ he)) (satAdd total written) hnext
      (stored ++ place number part)
    simpa only [List.map_cons, List.sum_cons, Nat.add_assoc, List.zipIdx_cons, List.flatMap_cons,
      List.append_assoc] using h

theorem map_zipIdx_shift (page start a : ℕ) (data : List UInt8) :
    ((data.zipIdx a).map fun e => ((page, start + e.2), e.1)) = pageCells page (start + a) data := by
  induction data generalizing a with
  | nil => rfl
  | cons byte data ih =>
    rw [List.zipIdx_cons, List.map_cons, ih (a + 1)]
    rfl

/-- single bytes fill a part of a page without a gap -/
theorem pageCells_bytes (page start : ℕ) (data : List UInt8) :
    ((data.zipIdx 0).flatMap fun e => pageCells page (start + e.2) [e.1]) = pageCells page start data := by
  have hsingle : ∀ e : UInt8 × ℕ, pageCells page (start + e.2) [e.1] = [((page, start + e.2), e.1)] := fun _ => rfl
  simp only [hsingle]
  rw [← List.map_eq_flatMap]
  exact map_zipIdx_shift page start 0 data

/-- blocks fill a part of a page without a gap -/
theorem pageCells_chunks {size : ℕ} (hsize : 0 < size) (page start : ℕ) (data : List UInt8) :
    ((chunks size data).zipIdx 0).flatMap (fun e => pageCells page (start + e.2 * size) e.1)
      = pageCells page start data := by
  have h := zipIdx_chunks hsize (fun number byte offset => ((page, start + number * size + offset), byte)) data 0
  simp only [map_zipIdx_shift, Nat.add_zero, Nat.zero_mul] at h
  rw [h]
  have hposition : ∀ j, start + j / size * size + j % size = start + j := by
    intro j
    rw [Nat.add_assoc, Nat.div_add_mod']
  simp only [hposition]
  exact map_zipIdx_shift page start 0 data

theorem sum_length_chunks {size : ℕ} (hsize : 0 < size) (data : List UInt8) :
    ((chunks size data).map List.length).sum = data.length := by
  rw [← List.length_flatten, flatten_chunks hsize]

/-- a part of a page, and how many bytes it counts for; the selected page stays -/
theorem does_writePart {start : ℕ} {data : List UInt8} (hend : start + data.length ≤ maxDlfwPageSize)
    (cells : UInt16 → UInt8) (size : UInt64) (stored : List ((ℕ × ℕ) × UInt8)) :
    Does (fun f : FirmwareRegisters => f.cells = cells ∧ f.stored = stored)
      (do
        productionFirmwareWriteData registers start data
        return size)
      fun written f => written.toNat = size.toNat ∧ f.cells = cells ∧
        f.stored = stored ++ pageCells (FirmwareRegisters.page ⟨cells, []⟩) start data := by
  refine Does.bind (Does.weaken (does_writeData registers hend ⟨cells, stored⟩) ?_ fun _ _ hf => hf) ?_
  · rintro ⟨c, st⟩ ⟨rfl, rfl⟩
    rfl
  · intro _
    apply Does.pure
    rintro f rfl
    exact ⟨rfl, rfl, rfl⟩

theorem does_writeFirmwareBlocks (start size : ℕ) (hsize : 0 < size) (data : List UInt8)
    (hend : start + data.length ≤ maxDlfwPageSize) (cells : UInt16 → UInt8) {bytesWritten : UInt64} {n : ℕ}
    (hwritten : bytesWritten.toNat = min n u64Max) (stored : List ((ℕ × ℕ) × UInt8)) :
    Does (fun f : FirmwareRegisters => f.cells = cells ∧ f.stored = stored)
      (writeFirmwareBlocks registers start size data bytesWritten)
      fun written f => written.toNat = min (n + data.length) u64Max ∧ f.cells = cells ∧
        f.stored = stored ++ pageCells (FirmwareRegisters.page ⟨cells, []⟩) start data := by
  have h := does_forEnumerate (fun number block => do
      productionFirmwareWriteData registers (start + number * size) block
      return u64Sat block.length) (fun f => f.cells = cells) List.length
    (fun number block => pageCells (FirmwareRegisters.page ⟨cells, []⟩) (start + number * size) block)
    (chunks size data) 0 ?_ bytesWritten hwritten stored
  · rw [pageCells_chunks hsize, sum_length_chunks hsize] at h
    exact h
  · intro e he stored
    have hbound := chunks_bound hsize data 0 e he
    have hpart := does_writePart registers (show start + e.2 * size + e.1.length ≤ maxDlfwPageSize by omega) cells
      (u64Sat e.1.length) stored
    rwa [u64Sat_toNat] at hpart

theorem does_writeFirmwareBytes (start : ℕ) (data : List UInt8) (hend : start + data.length ≤ maxDlfwPageSize)
    (cells : UInt16 → UInt8) {bytesWritten : UInt64} {n : ℕ} (hwritten : bytesWritten.toNat = min n u64Max)
    (stored : List ((ℕ × ℕ) × UInt8)) :
    Does (fun f : FirmwareRegisters => f.cells = cells ∧ f.stored = stored)
      (forEnumerate (fun number byte => do
        productionFirmwareWriteData registers (start + number) [byte]
        return 1) 0 data bytesWritten)
      fun written f => written.toNat = min (n + data.length) u64Max ∧ f.cells = cells ∧
        f.stored = stored ++ pageCells (FirmwareRegisters.page ⟨cells, []⟩) start data := by
  have h := does_forEnumerate (fun number byte => do
      productionFirmwareWriteData registers (start + number) [byte]
      return 1) (fun f => f.cells = cells) (fun _ => 1)
    (fun number byte => pageCells (FirmwareRegisters.page ⟨cells, []⟩) (start + number) [byte]) data 0 ?_
    bytesWritten hwritten stored
  · rw [pageCells_bytes, List.map_const', List.sum_replicate, smul_eq_mul, Nat.mul_one] at h
    exact h
  · intro e he stored
    have hindex : e.2 < 0 + data.length := List.snd_lt_add_of_mem_zipIdx he
    exact does_writePart registers (show start + e.2 + 1 ≤ maxDlfwPageSize by omega) cells 1 stored

/-- a page that is cut twice -/
theorem pageCells_cut (page : ℕ) {data : List UInt8} {m n : ℕ} (hm : m ≤ data.length) (hn : n ≤ (data.drop m).length) :
    pageCells page 0 data = pageCells page 0 (data.take m) ++ (pageCells page m ((data.drop m).take n) ++
      pageCells page (m + n) ((data.drop m).drop n)) := by
  conv_lhs => rw [← List.take_append_drop m data, pageCells_append, List.length_take_of_le hm, Nat.zero_add,
    ← List.take_append_drop n (data.drop m), pageCells_append, List.length_take_of_le hn]

/-- **One page.** Its bytes fill the selected page from the front. -/
theorem does_writeFirmwarePage {data : List UInt8} (hlen : data.length ≤ maxDlfwPageSize) (cells : UInt16 → UInt8)
    (stored : List ((ℕ × ℕ) × UInt8)) :
    Does (fun f : FirmwareRegisters => f.cells = cells ∧ f.stored = stored)
      (productionWriteFirmwarePage registers data)
      fun written f => written.toNat = min data.length u64Max ∧ f.cells = cells ∧
        f.stored = stored ++ pageCells (FirmwareRegisters.page ⟨cells, []⟩) 0 data := by
  have hfull : data.length / maxRegBlockSize * maxRegBlockSize ≤ data.length := Nat.div_mul_le_self _ _
  generalize hfullLen : data.length / maxRegBlockSize * maxRegBlockSize = fullBlockLen at hfull
  have hrest : (data.drop fullBlockLen).length / firmwareRemainderBlockSize * firmwareRemainderBlockSize
      ≤ (data.drop fullBlockLen).length := Nat.div_mul_le_self _ _
  generalize hrestLen : (data.drop fullBlockLen).length / firmwareRemainderBlockSize * firmwareRemainderBlockSize
    = remainderBlockLen at hrest
  have hdrop : (data.drop fullBlockLen).length = data.length - fullBlockLen := List.length_drop
  have htake : (data.take fullBlockLen).length = fullBlockLen := List.length_take_of_le hfull
  have htake' : ((data.drop fullBlockLen).take remainderBlockLen).length = remainderBlockLen :=
    List.length_take_of_le hrest
  have hdrop' : ((data.drop fullBlockLen).drop remainderBlockLen).length =
      data.length - fullBlockLen - remainderBlockLen := by
    rw [List.length_drop, hdrop]
  simp only [productionWriteFirmwarePage, hfullLen, hrestLen]
  -- the full blocks, the short blocks, and the single bytes
  apply Does.bind (does_writeFirmwareBlocks registers 0 maxRegBlockSize (by decide) _ (by omega) cells
    (show (0 : UInt64).toNat = min 0 u64Max from rfl) stored)
  intro written
  apply Does.assume
  intro hwritten
  apply Does.bind (does_writeFirmwareBlocks registers fullBlockLen firmwareRemainderBlockSize (by decide) _ (by omega)
    cells hwritten _)
  intro written
  apply Does.assume
  intro hwritten
  refine Does.weaken (does_writeFirmwareBytes registers (fullBlockLen + remainderBlockLen) _ (by omega) cells hwritten _)
    (fun _ hf => hf) ?_
  rintro total f ⟨htotal, hcells, hstored⟩
  refine ⟨?_, hcells, ?_⟩
  · rw [htotal, htake, htake', hdrop']
    congr 1
    omega
  · rw [hstored, pageCells_cut _ hfull hrest, List.append_assoc, List.append_assoc]

/-- the registers but the selector are as before, and so are the other bits of its byte -/
def KeepsOtherBits (before after : UInt16 → UInt8) : Prop :=
  (∀ address, address ≠ regMcufwdlPlus2 → after address = before address) ∧
    after regMcufwdlPlus2 &&& ~~~0x07 = before regMcufwdlPlus2 &&& ~~~0x07

/-- where the bytes of a payload go: the page number has three bits -/
def imageCells (firmwarePayload : List UInt8) : List ((ℕ × ℕ) × UInt8) :=
  firmwarePayload.zipIdx.map fun e => ((e.2 / maxDlfwPageSize % 8, e.2 % maxDlfwPageSize), e.1)

theorem selector_toNat (page : ℕ) : (UInt8.ofNat page &&& 0x07).toNat = page % 8 := by
  rw [UInt8.toNat_and, UInt8.toNat_ofNat', show (0x07 : UInt8).toNat = 2 ^ 3 - 1 from rfl,
    Nat.and_two_pow_sub_one_eq_mod]
  omega

/-- selecting a page, and writing it -/
theorem does_selectAndWrite {chunk : List UInt8} (hlen : chunk.length ≤ maxDlfwPageSize) (number : ℕ)
    (cells : UInt16 → UInt8) (stored : List ((ℕ × ℕ) × UInt8)) :
    Does (fun f : FirmwareRegisters => KeepsOtherBits cells f.cells ∧ f.stored = stored)
      (do
        productionRmw8 registers "REG_MCUFWDL + 2" regMcufwdlPlus2 0x07 (UInt8.ofNat number &&& 0x07) true
          "firmware-download"
        productionWriteFirmwarePage registers chunk)
      fun written f => written.toNat = min chunk.length u64Max ∧ KeepsOtherBits cells f.cells ∧
        f.stored = stored ++ pageCells (number % 8) 0 chunk := by
  rintro s ⟨hreliable, ⟨hothers, hbits⟩, hstored⟩
  have hselect := does_rmw8 registers (show regMcufwdlPlus2.toNat < fwStartAddress.toNat by decide) "REG_MCUFWDL + 2"
    "firmware-download" 0x07 (UInt8.ofNat number &&& 0x07) true s.transport.file
  have hselected : Does (fun f => f = s.transport.file)
      (productionRmw8 registers "REG_MCUFWDL + 2" regMcufwdlPlus2 0x07 (UInt8.ofNat number &&& 0x07) true
        "firmware-download")
      fun _ f => f.cells = rmwCells s.transport.file.cells regMcufwdlPlus2 0x07 (UInt8.ofNat number &&& 0x07) ∧
        f.stored = stored := by
    apply Does.weaken hselect (fun _ hf => hf)
    rintro _ f rfl
    exact ⟨rfl, hstored⟩
  refine Does.bind hselected (fun _ => ?_) s ⟨hreliable, rfl⟩
  refine Does.weaken (does_writeFirmwarePage registers hlen _ _) (fun _ hf => hf) ?_
  rintro written f ⟨hwritten, hcells, hpages⟩
  refine ⟨hwritten, ⟨fun address haddress => ?_, ?_⟩, ?_⟩
  · rw [hcells, rmwCells_of_ne _ haddress, hothers address haddress]
  · rw [hcells, rmwCells_self, rmw_kept, hbits]
  · have hnumber : FirmwareRegisters.page
        ⟨rmwCells s.transport.file.cells regMcufwdlPlus2 0x07 (UInt8.ofNat number &&& 0x07), []⟩ = number % 8 := by
      rw [FirmwareRegisters.page]
      dsimp only
      rw [rmwCells_self, rmw_masked, UInt8.and_assoc, UInt8.and_self, selector_toNat]
    rw [hpages, hnumber]

/-- **The image.** Its bytes go to the cells of their positions, as far as the selector tells pages apart. -/
theorem does_writeFirmwareImage (firmwarePayload : List UInt8) (cells : UInt16 → UInt8)
    (stored : List ((ℕ × ℕ) × UInt8)) :
    Does (fun f : FirmwareRegisters => KeepsOtherBits cells f.cells ∧ f.stored = stored)
      (productionWriteFirmwareImage registers firmwarePayload)
      fun written f => written.toNat = min firmwarePayload.length u64Max ∧ KeepsOtherBits cells f.cells ∧
        f.stored = stored ++ imageCells firmwarePayload := by
  have hpage : ∀ e ∈ (chunks maxDlfwPageSize firmwarePayload).zipIdx 0, ∀ stored,
      Does (fun f : FirmwareRegisters => KeepsOtherBits cells f.cells ∧ f.stored = stored)
        (do
          productionRmw8 registers "REG_MCUFWDL + 2" regMcufwdlPlus2 0x07 (UInt8.ofNat e.2 &&& 0x07) true
            "firmware-download"
          productionWriteFirmwarePage registers e.1)
        fun written f => written.toNat = min e.1.length u64Max ∧ KeepsOtherBits cells f.cells ∧
          f.stored = stored ++ pageCells (e.2 % 8) 0 e.1 := by
    intro e he stored
    exact does_selectAndWrite registers (chunks_bound (by decide) firmwarePayload 0 e he).1 e.2 cells stored
  have h := does_forEnumerate (fun page chunk => do
      productionRmw8 registers "REG_MCUFWDL + 2" regMcufwdlPlus2 0x07 (UInt8.ofNat page &&& 0x07) true
        "firmware-download"
      productionWriteFirmwarePage registers chunk) (fun f => KeepsOtherBits cells f.cells) List.length
    (fun number chunk => pageCells (number % 8) 0 chunk) (chunks maxDlfwPageSize firmwarePayload) 0 hpage 0
    (show (0 : UInt64).toNat = min 0 u64Max from rfl) stored
  have hcells := zipIdx_chunks (show 0 < maxDlfwPageSize by decide)
    (fun number byte offset => ((number % 8, offset), byte)) firmwarePayload 0
  rw [Nat.zero_mul] at hcells
  rw [sum_length_chunks (by decide), Nat.zero_add] at h
  simp only [pageCells] at h
  rw [hcells] at h
  exact h

/-- the image is where it belongs: byte `i` in page `i / 4096` at offset `i % 4096`, and no cell written twice; the
other bits of the selector's byte are kept, and the length is returned -/
def Placed (firmwarePayload : List UInt8) (before after : FirmwareRegisters)
    (outcome : Except RuntimeRadioError UInt64) : Prop :=
  outcome = .ok (UInt64.ofNat firmwarePayload.length) ∧ KeepsOtherBits before.cells after.cells ∧
    ∃ stored, after.stored = before.stored ++ stored ∧ (stored.map Prod.fst).Nodup ∧
      ∀ i (hi : i < firmwarePayload.length),
        ((i / maxDlfwPageSize, i % maxDlfwPageSize), firmwarePayload[i]) ∈ stored

/-- a device without failures, at the start of the download -/
def downloadStart (file : FirmwareRegisters) (counters : RuntimeRadioCounters) :
    RegisterRun (FaultyDevice FirmwareRegisters) :=
  { transport := { file, failing := fun _ => none }, counters }

/-- what the download of a payload does, whatever its length -/
theorem productionWriteFirmwareImage_stores (firmwarePayload : List UInt8) (hlen : firmwarePayload.length ≤ u64Max)
    (file : FirmwareRegisters) (counters : RuntimeRadioCounters) :
    ∃ s', (productionWriteFirmwareImage registers firmwarePayload).exec (downloadStart file counters)
        = (.ok (UInt64.ofNat firmwarePayload.length), s') ∧
      KeepsOtherBits file.cells s'.transport.file.cells ∧
      s'.transport.file.stored = file.stored ++ imageCells firmwarePayload := by
  have hstart : OnFile (fun f : FirmwareRegisters => KeepsOtherBits file.cells f.cells ∧ f.stored = file.stored)
      (downloadStart file counters) := ⟨fun _ _ => rfl, ⟨fun _ _ => rfl, rfl⟩, rfl⟩
  obtain ⟨written, s', hrun, -, hwritten, hcells, hstored⟩ :=
    (does_writeFirmwareImage registers firmwarePayload file.cells file.stored).returns hstart
  refine ⟨s', ?_, hcells, hstored⟩
  have hvalue : written = UInt64.ofNat firmwarePayload.length := by
    apply UInt64.toNat_inj.1
    rw [hwritten, UInt64.toNat_ofNat', Nat.mod_eq_of_lt (by unfold u64Max at hlen; omega), Nat.min_eq_left hlen]
  rw [hrun, hvalue]

theorem imageCells_page_lt {firmwarePayload : List UInt8} : ∀ e ∈ imageCells firmwarePayload, e.1.1 < 8 := by
  intro e he
  obtain ⟨_, _, rfl⟩ := List.mem_map.1 he
  exact Nat.mod_lt _ (by decide)

/-- within eight pages the selector tells all pages apart -/
theorem imageCells_of_le {firmwarePayload : List UInt8} (hlen : firmwarePayload.length ≤ 8 * maxDlfwPageSize) :
    imageCells firmwarePayload
      = firmwarePayload.zipIdx.map fun e => ((e.2 / maxDlfwPageSize, e.2 % maxDlfwPageSize), e.1) := by
  apply List.map_congr_left
  intro e he
  have hindex := List.snd_lt_of_mem_zipIdx he
  have hpage : e.2 / maxDlfwPageSize < 8 := by
    apply Nat.div_lt_of_lt_mul
    rw [Nat.mul_comm]
    omega
  rw [Nat.mod_eq_of_lt hpage]

theorem nodup_positions (firmwarePayload : List UInt8) :
    ((firmwarePayload.zipIdx.map fun e => ((e.2 / maxDlfwPageSize, e.2 % maxDlfwPageSize), e.1)).map
      Prod.fst).Nodup := by
  have hmap : (firmwarePayload.zipIdx.map fun e => ((e.2 / maxDlfwPageSize, e.2 % maxDlfwPageSize), e.1)).map Prod.fst
      = (List.range firmwarePayload.length).map fun i => (i / maxDlfwPageSize, i % maxDlfwPageSize) := by
    rw [List.map_map, List.range_eq_range', ← List.zipIdx_map_snd 0 firmwarePayload, List.map_map]
    rfl
  rw [hmap]
  refine List.Nodup.map ?_ List.nodup_range
  intro i j hij
  obtain ⟨hdiv, hmod⟩ := Prod.ext_iff.1 hij
  dsimp only at hdiv hmod
  rw [← Nat.div_add_mod i maxDlfwPageSize, ← Nat.div_add_mod j maxDlfwPageSize, hdiv, hmod]

/-- a payload of more than eight pages does not fit: the byte behind the eighth page has no page -/
theorem not_placed_of_long {firmwarePayload : List UInt8} (hlong : 8 * maxDlfwPageSize < firmwarePayload.length)
    (hlen : firmwarePayload.length ≤ u64Max) (file : FirmwareRegisters) (counters : RuntimeRadioCounters) :
    ¬Placed firmwarePayload file
      ((productionWriteFirmwareImage registers firmwarePayload).exec (downloadStart file counters)).2.transport.file
      ((productionWriteFirmwareImage registers firmwarePayload).exec (downloadStart file counters)).1 := by
  rintro ⟨-, -, stored, hstored, -, hbytes⟩
  obtain ⟨s', hrun, -, himage⟩ := productionWriteFirmwareImage_stores registers firmwarePayload hlen file counters
  rw [hrun] at hstored
  obtain rfl : imageCells firmwarePayload = stored := List.append_cancel_left (himage.symm.trans hstored)
  have hpage := imageCells_page_lt _ (hbytes (8 * maxDlfwPageSize) hlong)
  dsimp only at hpage
  rw [Nat.mul_div_cancel _ (by decide)] at hpage
  exact lt_irrefl _ hpage

/-- an image of 40000 bytes is accepted, and its payload has more than eight pages -/
theorem long_image_not_placed : ∃ image, FirmwareImage.fromBytes .inMemory (List.replicate 40000 0) = .ok image ∧
    ¬Placed image.realtekDownloadPayload.bytes ⟨fun _ => 0, []⟩
      ((productionWriteFirmwareImage {} image.realtekDownloadPayload.bytes).exec
        (downloadStart ⟨fun _ => 0, []⟩ {})).2.transport.file
      ((productionWriteFirmwareImage {} image.realtekDownloadPayload.bytes).exec
        (downloadStart ⟨fun _ => 0, []⟩ {})).1 := by
  have hbytes : (List.replicate 40000 (0 : UInt8)).length = 40000 := List.length_replicate
  have hne : List.replicate 40000 (0 : UInt8) ≠ [] := by
    apply List.length_pos_iff.1
    rw [hbytes]
    omega
  have hle : (List.replicate 40000 (0 : UInt8)).length ≤ rtl8812aFirmwareMaxLen := by
    rw [hbytes, rtl8812aFirmwareMaxLen]
    omega
  obtain ⟨image, himage, himageBytes⟩ := FirmwareImage.fromBytes_ok hne hle .inMemory
  refine ⟨image, himage, not_placed_of_long {} ?_ ?_ _ _⟩
  · have hoffset : image.payloadOffset ≤ realtekFirmwareHeaderLen := by
      rw [FirmwareImage.payloadOffset]
      split_ifs
      · exact le_rfl
      · exact Nat.zero_le _
    unfold realtekFirmwareHeaderLen at hoffset
    rw [FirmwareImage.realtekDownloadPayload, List.length_drop, himageBytes, hbytes, maxDlfwPageSize]
    omega
  · exact image.payload_length_le.trans (by unfold rtl8812aFirmwareMaxLen u64Max; omega)

/-- **Placement.** The payload of an image is where it belongs exactly if it has no more than eight pages. -/
theorem placed_iff (image : FirmwareImage) (file : FirmwareRegisters) (counters : RuntimeRadioCounters) :
    Placed image.realtekDownloadPayload.bytes file
      ((productionWriteFirmwareImage registers image.realtekDownloadPayload.bytes).exec
        (downloadStart file counters)).2.transport.file
      ((productionWriteFirmwareImage registers image.realtekDownloadPayload.bytes).exec
        (downloadStart file counters)).1 ↔
      image.realtekDownloadPayload.bytes.length ≤ 8 * maxDlfwPageSize := by
  have hlen : image.realtekDownloadPayload.bytes.length ≤ u64Max :=
    image.payload_length_le.trans (by unfold rtl8812aFirmwareMaxLen u64Max; omega)
  constructor
  · intro hplaced
    by_contra hlong
    exact not_placed_of_long registers (Nat.lt_of_not_le hlong) hlen file counters hplaced
  · intro hshort
    obtain ⟨s', hrun, hcells, hstored⟩ :=
      productionWriteFirmwareImage_stores registers image.realtekDownloadPayload.bytes hlen file counters
    rw [hrun]
    refine ⟨rfl, hcells, _, hstored, ?_, fun i hi => ?_⟩
    · rw [imageCells_of_le hshort]
      exact nodup_positions _
    · rw [imageCells_of_le hshort]
      exact List.mem_map.2 ⟨(image.realtekDownloadPayload.bytes[i], i), List.mk_mem_zipIdx_iff_getElem?.2 (by simp), rfl⟩

end Does

end WfbLink.Runtime
