/-
What register actions leave alone.

- `Confined region action`: however the action ends, it writes to addresses of a region only; one rule for each way to
  build an action.
- `confined_firmware`, `confined_llt`, ..: the regions of the phases whose writes depend on what they read.
-/
import WfbLink.Runtime.ChannelSetup
import WfbLink.Runtime.LltTable
import WfbLink.Runtime.MacAddress
import WfbLink.Runtime.RfTable

namespace WfbLink.RadioCore

open WfbLink.Core

/-! ## Regions -/

/-- the bits at the addresses beside a region are what they were -/
structure StuckRegisters.Outside (region : UInt16 → Prop) (start after : StuckRegisters) : Prop where
  writable : after.writable = start.writable
  bits : ∀ c, ¬region c.1 → after.bits c = start.bits c

/-- no byte of the field lies in the region -/
def RegisterField.Apart (field : RegisterField) (region : UInt16 → Prop) : Prop :=
  ∀ k < field.bytes, ¬region (field.address + UInt16.ofNat k)

/-- the addresses that a list of steps writes to -/
def RegisterStep.region (steps : List RegisterStep) (address : UInt16) : Prop := RegisterStep.avoid steps address = false

theorem RegisterStep.writes_of_region {steps : List RegisterStep} {c : RegisterBit} (h : ¬region steps c.1) :
    (effects steps).writes c = none := writes_of_avoid (Bool.of_not_eq_false h)

/-- the addresses that have a bit that is overwritten -/
def overwriteRegion (o : Overwrite RegisterBit Bool) (address : UInt16) : Prop := ∃ i : Fin 8, o (address, i) ≠ none

theorem overwrite_of_region {o : Overwrite RegisterBit Bool} {c : RegisterBit} (h : ¬overwriteRegion o c.1) :
    o c = none := by
  by_contra hsome
  exact h ⟨c.2, hsome⟩

namespace StuckRegisters.Outside

variable {region region' : UInt16 → Prop} {start after final : StuckRegisters}

theorem refl (region : UInt16 → Prop) (start : StuckRegisters) : Outside region start start := ⟨rfl, fun _ _ => rfl⟩

theorem trans (h : Outside region start after) (h' : Outside region after final) : Outside region start final :=
  ⟨h'.writable.trans h.writable, fun c hc => (h'.bits c hc).trans (h.bits c hc)⟩

theorem weaken (h : Outside region start after) (hregion : ∀ address, region address → region' address) :
    Outside region' start after :=
  ⟨h.writable, fun c hc => h.bits c fun hin => hc (hregion _ hin)⟩

theorem of_within {e : Effect RegisterBit Bool} (h : Within e start after)
    (hregion : ∀ c, ¬region c.1 → e.writes c = none) : Outside region start after :=
  ⟨h.writable, fun c hc => h.bits c (Overwrite.restrict_eq_none (hregion c hc))⟩

theorem of_write {o : Overwrite RegisterBit Bool} (start : StuckRegisters)
    (hregion : ∀ c, ¬region c.1 → o c = none) : Outside region start (start.write o) :=
  ⟨rfl, fun c hc => Overwrite.apply_of_none (Overwrite.restrict_eq_none (hregion c hc))⟩

theorem value (h : Outside region start after) {address : UInt16} {n : ℕ}
    (hapart : ∀ k < n, ¬region (address + UInt16.ofNat k)) : after.value address n = start.value address n := by
  have hbytes : after.loadBytes address n = start.loadBytes address n := by
    unfold loadBytes
    refine List.map_congr_left fun k hk => ?_
    congr 1
    funext i
    exact h.bits _ (hapart k (List.mem_range.1 hk))
  exact congrArg fromLeBytes hbytes

/-- a field that lies apart reads as before -/
theorem field {field : RegisterField} (h : Outside region start after) (hapart : field.Apart region)
    (hin : field.In start) : field.In after := by
  rw [RegisterField.In, h.value hapart]
  exact hin

end StuckRegisters.Outside

/-- a word has bits at its own addresses only -/
theorem wordWrite_apart {region : UInt16 → Prop} {address : UInt16} {n : ℕ}
    (hregion : ∀ k < n, region (address + UInt16.ofNat k)) (value : ℕ) {c : RegisterBit} (hc : ¬region c.1) :
    wordWrite address n value c = none := by
  by_contra hsome
  have hlt : bitIndex address c < 8 * n := by
    by_contra hle
    exact hsome (fieldWrite_of_le (Nat.not_lt.1 hle) _ _)
  have hk : (c.1 - address).toNat < n := by
    rw [bitIndex] at hlt
    omega
  have hin := hregion _ hk
  rw [UInt16.ofNat_toNat, UInt16.add_comm, UInt16.sub_add_cancel] at hin
  exact hc hin

end WfbLink.RadioCore

namespace WfbLink.Runtime

open WfbLink.Core WfbLink.RadioCore StuckRegisters

/-! ## Actions -/

variable {α β : Type}

def Confined (region : UInt16 → Prop) (action : RegisterAction α) : Prop :=
  ∀ start, Acts True (fun file => file = start) action (fun _ => Outside region start) (Outside region start)

namespace Confined

variable {region : UInt16 → Prop} {action : RegisterAction α} {f : α → RegisterAction β}

theorem pure (a : α) : Confined region (Pure.pure a) := by
  intro start
  apply Acts.pure
  rintro file rfl
  exact .refl region file

theorem fail (error : RuntimeRadioError) : Confined region (RegisterAction.fail error : RegisterAction α) := by
  intro start
  apply Acts.fail
  rintro file rfl
  exact .refl region file

theorem bind (h : Confined region action) (hf : ∀ a, Confined region (f a)) : Confined region (action >>= f) := by
  intro start
  apply Acts.bind (h start)
  intro a
  apply Acts.of_files
  intro after hafter
  exact (hf a after).weaken (fun _ h => h) (fun _ _ h => hafter.trans h) fun _ h => hafter.trans h

theorem counters : Confined region RegisterAction.counters :=
  fun start => Acts.counters.weaken (fun _ h => h) (fun _ _ h => h ▸ .refl region start) fun _ h => h

theorem modifyCounters (g : RuntimeRadioCounters → RuntimeRadioCounters) :
    Confined region (RegisterAction.modifyCounters g) :=
  fun start => Handles.weaken (Handles.modifyCounters g) (fun _ h => h)
    (fun _ _ h => ⟨h.1, h.2 ▸ Outside.refl region start⟩) fun _ h => h

theorem ofExcept (r : Except RuntimeRadioError α) : Confined region (RegisterAction.ofExcept r) :=
  fun start => Acts.ofExcept (fun _ _ _ h => h ▸ .refl region start) fun _ _ _ h => h ▸ .refl region start

theorem attempt (h : Confined region action) : Confined region action.attempt :=
  fun start => (h start).attempt fun _ _ h => h

theorem mapError (h : Confined region action) (g : RuntimeRadioError → RuntimeRadioError) :
    Confined region (action.mapError g) := fun start => (h start).mapError g

theorem of_performs {Q : α → Prop} {e : Effect RegisterBit Bool} (h : Performs (fun _ => True) action Q e)
    (hregion : ∀ c, ¬region c.1 → e.writes c = none) : Confined region action :=
  fun start => (h start trivial).weaken (fun _ h => h) (fun _ _ h => .of_within h.2.within hregion)
    fun _ h => .of_within h hregion

theorem of_steps {Q : α → Prop} {steps : List RegisterStep}
    (h : Performs (fun _ => True) action Q (RegisterStep.effects steps))
    (hregion : ∀ address, RegisterStep.avoid steps address = false → region address) : Confined region action :=
  of_performs h fun _ hc => RegisterStep.writes_of_avoid (Bool.not_eq_false _ ▸ fun havoid => hc (hregion _ havoid))

/-- an action whose effect depends on the registers it starts from -/
theorem of_start (h : ∀ start, ∃ Q e, Performs (fun file => file = start) action Q e ∧
    ∀ c, ¬region c.1 → e.writes c = none) : Confined region action := by
  intro start
  obtain ⟨Q, e, hperforms, hregion⟩ := h start
  exact (hperforms start rfl).weaken (fun _ h => h) (fun _ _ h => .of_within h.2.within hregion)
    fun _ h => .of_within h hregion

/-- an action that only looks for something -/
theorem of_finds {Q : α → Prop} {steps : List RegisterStep}
    (h : Performs (fun _ => True) action Q (RegisterStep.effects steps)) (hwritten : ∀ step ∈ steps, step.written = 0) :
    Confined region action :=
  of_steps h fun address havoid => absurd (RegisterStep.avoid_of_unwritten hwritten address) (Bool.eq_false_iff.1 havoid)

/-- a run, however it ends -/
theorem outcome (h : Confined region action) {s s' : RegisterRun (FaultyDevice StuckRegisters)}
    {outcome : Except RuntimeRadioError α} (hrun : action.exec s = (outcome, s')) :
    Outside region s.transport.file s'.transport.file := by
  obtain ⟨hok, herror⟩ := Handles.of_run (h s.transport.file) hrun ⟨.inl trivial, rfl⟩
  cases outcome with
  | ok a => exact (hok a rfl).2
  | error error => exact (herror error rfl).2

end Confined

/-! ## Accesses -/

section Accesses

variable {region : UInt16 → Prop} (registers : Rtl8812auRegisterAccess)

/-- a read changes no register -/
theorem Confined.read {read : RegisterProgram (Except Rtl8812auRegisterError α)}
    {g : StuckRegisters → α × StuckRegisters} (hread : Loads read g) (hsame : ∀ file, (g file).2 = file)
    (error : Rtl8812auRegisterError → RuntimeRadioError) : Confined region (readWithCustomError read error) := by
  intro start
  apply Acts.readWithCustomError hread
  · rintro - file rfl
    exact .refl region file
  · rintro file rfl
    rw [hsame]
    exact .refl region file

theorem Confined.write {write : RegisterProgram (Except Rtl8812auRegisterError Unit)} {address : UInt16}
    {data : List UInt8} (hwrite : Stores write fun file : StuckRegisters => RegisterFile.store file address data)
    (hregion : ∀ k < data.length, region (address + UInt16.ofNat k))
    (error : Rtl8812auRegisterError → RuntimeRadioError) : Confined region (writeWithCustomError write error) := by
  intro start
  apply Acts.writeWithCustomError hwrite
  · rintro - file rfl
    exact .refl region file
  · rintro file rfl
    exact .of_write file fun c hc => wordWrite_apart hregion _ hc

theorem Confined.access {write : RegisterProgram (Except Rtl8812auRegisterError Unit)} {address : UInt16}
    {data : List UInt8} (hwrite : Stores write fun file : StuckRegisters => RegisterFile.store file address data)
    (hregion : ∀ k < data.length, region (address + UInt16.ofNat k))
    (error : Rtl8812auRegisterError → RuntimeRadioError) : Confined region (RegisterAction.access write error) := by
  rintro _ s ⟨-, rfl⟩
  rw [RegisterAction.exec_access, hwrite]
  rcases s.transport.failing s.transport.transfers with _ | usbError
  · exact ⟨.inl trivial, .of_write _ fun c hc => wordWrite_apart hregion _ hc⟩
  · exact ⟨.inl trivial, .refl region _⟩

theorem confined_read8 (address : UInt16) (error : Rtl8812auRegisterError → RuntimeRadioError) :
    Confined region (read8WithCustomError registers address error) :=
  .read (registers.read8_loads address) (fun _ => rfl) error

theorem confined_read16 (address : UInt16) (error : Rtl8812auRegisterError → RuntimeRadioError) :
    Confined region (read16WithCustomError registers address error) :=
  .read (registers.read16_loads address) (fun _ => rfl) error

theorem confined_read32 (address : UInt16) (registerName phase : String) :
    Confined region (read32WithCounter registers address registerName phase) :=
  .read (registers.read32_loads address) (fun _ => rfl) _

theorem confined_write8 {address : UInt16} (haddress : region address) (value : UInt8)
    (error : Rtl8812auRegisterError → RuntimeRadioError) :
    Confined region (write8WithCustomError registers address value error) := by
  refine .write (registers.writeAll_stores address .u8 [value] rfl) (fun k hk => ?_) error
  rwa [Nat.lt_one_iff.1 hk, show UInt16.ofNat 0 = 0 from rfl, UInt16.add_zero]

theorem confined_write16 {address : UInt16} (hregion : ∀ k < 2, region (address + UInt16.ofNat k)) (value : UInt16)
    (error : Rtl8812auRegisterError → RuntimeRadioError) :
    Confined region (write16WithCustomError registers address value error) :=
  .write (registers.writeAll_stores address .u16 (toLeU16 value.toNat) rfl) hregion error

theorem confined_write32 {address : UInt16} (hregion : ∀ k < 4, region (address + UInt16.ofNat k)) (value : UInt32)
    (registerName phase : String) :
    Confined region (write32WithCounter registers address value registerName phase) :=
  .write (registers.writeAll_stores address .u32 (toLeU32 value.toNat) rfl) hregion _

/-- polling; induction on the attempts that are left -/
theorem Confined.pollReads {read : RegisterAction α} (h : Confined region read) (ready : α → Prop) [DecidablePred ready]
    (timeout : α → RuntimeRadioError) (attempts n : ℕ) (last : α) :
    Confined region (pollReads read ready timeout attempts n last) := by
  induction attempts generalizing n last with
  | zero => exact .fail _
  | succ attempts ih =>
    refine h.bind fun last => ?_
    split
    · exact .pure _
    · exact ih _ _

theorem Confined.verifyReadback [DecidableEq α] {read : RegisterAction α} (h : Confined region read) (masked : α → α)
    (expected : α) (mismatch : α → RuntimeRadioError) (attempts : ℕ) (actual : α) :
    Confined region (verifyReadback read masked expected mismatch attempts actual) := by
  induction attempts generalizing actual with
  | zero => exact .fail _
  | succ attempts ih =>
    refine h.bind fun after => ?_
    split
    · exact .pure _
    · exact ih _

theorem confined_rmw8 {address : UInt16} (haddress : region address) (registerName phase : String) (mask value : UInt8)
    (shouldVerify : Bool) :
    Confined region (productionRmw8 registers registerName address mask value shouldVerify phase) := by
  refine (confined_read8 registers address _).bind fun before => ?_
  refine (confined_write8 registers haddress _ _).bind fun _ => ?_
  split
  · exact ((confined_read8 registers address _).verifyReadback _ _ _ _ _).bind fun _ => .pure _
  · exact .pure _

theorem confined_write8Verify {address : UInt16} (haddress : region address) (registerName phase : String)
    (value mask expected : UInt8) :
    Confined region (productionWrite8Verify registers registerName address value mask expected phase) := by
  refine (confined_write8 registers haddress _ _).bind fun _ => ?_
  split
  · exact ((confined_read8 registers address _).verifyReadback _ _ _ _ _).bind fun _ => .pure _
  · exact .pure _

theorem confined_poll32 {delay : ℕ} (registerName : String) (address : UInt16) (mask expected minAttempts : UInt32)
    (timeout : ℕ) (clock : PollClock delay) (n : ℕ) :
    Confined region (productionPoll32MinFrom registers registerName address mask expected minAttempts timeout clock n) := by
  apply poll_induct (pollLimit minAttempts.toNat timeout delay) ?_ n
  intro n ih
  rw [productionPoll32MinFrom]
  refine (confined_read32 registers address registerName "poll32").bind fun value => ?_
  split
  · exact .pure _
  · split
    · exact .fail _
    · rename_i hclock
      exact ih (lt_pollLimit clock hclock)

end Accesses

/-! ## The firmware -/

/-- the registers of the download, and the window of a page -/
def firmwareRegion (address : UInt16) : Prop :=
  address ∈ [regMcufwdl, regMcufwdl + 1, regMcufwdlPlus2, regMcufwdlPlus2 + 1, regRsvCtrl, regRsvCtrl + 1,
    regSysFuncEnPlus1] ∨
  (fwStartAddress.toNat ≤ address.toNat ∧ address.toNat < fwStartAddress.toNat + maxDlfwPageSize)

section Firmware

variable (registers : Rtl8812auRegisterAccess)

theorem confined_writeData {start : ℕ} {data : List UInt8} (hend : start + data.length ≤ maxDlfwPageSize) :
    Confined firmwareRegion (productionFirmwareWriteData registers start data) := by
  have hwindow : ∀ k < data.length, firmwareRegion (fwStartAddress + UInt16.ofNat start + UInt16.ofNat k) := by
    intro k hk
    have hpage : maxDlfwPageSize = 4096 := rfl
    have hfw : fwStartAddress.toNat = 4096 := rfl
    have hplace : (fwStartAddress + UInt16.ofNat start + UInt16.ofNat k).toNat = 4096 + start + k := by
      rw [UInt16.toNat_add, UInt16.toNat_add, UInt16.toNat_ofNat', UInt16.toNat_ofNat', hfw]
      omega
    refine .inr ⟨?_, ?_⟩ <;> omega
  have hblock (data : List UInt8) (hdata : ∀ k < data.length,
      firmwareRegion (fwStartAddress + UInt16.ofNat start + UInt16.ofNat k))
      (error : Rtl8812auRegisterError → RuntimeRadioError) :
      Confined firmwareRegion
        (writeBlockWithCustomError registers (fwStartAddress + UInt16.ofNat start) data error) :=
    (Confined.access (registers.writeAll_stores _ (.block data.length) data rfl) hdata error).bind fun _ =>
      .modifyCounters _
  rw [productionFirmwareWriteData_of_le registers (Nat.le_of_add_right_le hend)]
  rcases data with _ | ⟨byte, _ | ⟨byte', data⟩⟩
  · exact hblock _ hwindow _
  · refine confined_write8 registers ?_ byte _
    have hfirst := hwindow 0 Nat.one_pos
    rwa [show UInt16.ofNat 0 = 0 from rfl, UInt16.add_zero] at hfirst
  · exact hblock _ hwindow _

/-- the parts one after the other; induction on the parts -/
theorem confined_forEnumerate {region : UInt16 → Prop} {body : ℕ → α → RegisterAction UInt64} (parts : List α)
    (number : ℕ) (hbody : ∀ e ∈ parts.zipIdx number, Confined region (body e.2 e.1)) (total : UInt64) :
    Confined region (forEnumerate body number parts total) := by
  induction parts generalizing number total with
  | nil => exact .pure _
  | cons part parts ih =>
    rw [List.zipIdx_cons] at hbody
    refine (hbody (part, number) List.mem_cons_self).bind fun written => ?_
    exact ih (number + 1) (fun e he => hbody e (List.mem_cons_of_mem _ he)) _

theorem confined_writeBlocks (start size : ℕ) (hsize : 0 < size) (data : List UInt8)
    (hend : start + data.length ≤ maxDlfwPageSize) (bytesWritten : UInt64) :
    Confined firmwareRegion (writeFirmwareBlocks registers start size data bytesWritten) := by
  apply confined_forEnumerate
  intro e he
  have hbound := chunks_bound hsize data 0 e he
  exact (confined_writeData registers (by omega)).bind fun _ => .pure _

theorem confined_writePage {data : List UInt8} (hlen : data.length ≤ maxDlfwPageSize) :
    Confined firmwareRegion (productionWriteFirmwarePage registers data) := by
  have hfull : data.length / maxRegBlockSize * maxRegBlockSize ≤ data.length := Nat.div_mul_le_self _ _
  simp only [productionWriteFirmwarePage]
  generalize data.length / maxRegBlockSize * maxRegBlockSize = fullBlockLen at hfull
  have hrest : (data.drop fullBlockLen).length / firmwareRemainderBlockSize * firmwareRemainderBlockSize
      ≤ (data.drop fullBlockLen).length := Nat.div_mul_le_self _ _
  generalize (data.drop fullBlockLen).length / firmwareRemainderBlockSize * firmwareRemainderBlockSize
    = remainderBlockLen at hrest
  have hdrop : (data.drop fullBlockLen).length = data.length - fullBlockLen := List.length_drop
  have htake : (data.take fullBlockLen).length = fullBlockLen := List.length_take_of_le hfull
  have htake' : ((data.drop fullBlockLen).take remainderBlockLen).length = remainderBlockLen :=
    List.length_take_of_le hrest
  refine (confined_writeBlocks registers 0 maxRegBlockSize (by decide) _ (by omega) 0).bind fun written => ?_
  refine (confined_writeBlocks registers fullBlockLen firmwareRemainderBlockSize (by decide) _ (by omega) written).bind
    fun written => ?_
  apply confined_forEnumerate
  intro e he
  have hindex := List.snd_lt_of_mem_zipIdx he
  simp only [List.length_drop] at hindex
  exact (confined_writeData registers (by rw [List.length_singleton]; omega)).bind fun _ => .pure _

theorem confined_writeImage (firmwarePayload : List UInt8) :
    Confined firmwareRegion (productionWriteFirmwareImage registers firmwarePayload) := by
  apply confined_forEnumerate
  intro e he
  refine (confined_rmw8 registers (.inl (by decide)) _ _ _ _ _).bind fun _ => ?_
  exact confined_writePage registers (chunks_bound (by decide) firmwarePayload 0 e he).1

theorem confined_8051Reset : Confined firmwareRegion (productionFirmware8051Reset8812 registers) := by
  refine (confined_rmw8 registers (.inl (by decide)) _ _ _ _ _).bind fun _ => ?_
  refine (confined_rmw8 registers (.inl (by decide)) _ _ _ _ _).bind fun _ => ?_
  refine (confined_read8 registers _ _).bind fun sysFunc => ?_
  refine (confined_write8Verify registers (.inl (by decide)) _ _ _ _ _).bind fun _ => ?_
  refine (confined_rmw8 registers (.inl (by decide)) _ _ _ _ _).bind fun _ => ?_
  refine (confined_rmw8 registers (.inl (by decide)) _ _ _ _ _).bind fun _ => ?_
  exact confined_write8Verify registers (.inl (by decide)) _ _ _ _ _

/-- the tries; induction on those that are left -/
theorem confined_attempts (firmwarePayload : List UInt8) (clocks : PollClocks) (attempt attempts : ℕ)
    (download : FirmwareDownload) :
    Confined firmwareRegion (firmwareDownloadAttempts registers firmwarePayload clocks attempt attempts download) := by
  induction attempts generalizing attempt download with
  | zero => exact .pure _
  | succ attempts ih =>
    refine (confined_rmw8 registers (.inl (by decide)) _ _ _ _ _).bind fun _ => ?_
    refine (confined_writeImage registers firmwarePayload).bind fun written => ?_
    refine (Confined.attempt (confined_poll32 registers _ _ _ _ _ _ _ _)).bind fun polled => ?_
    cases polled with
    | ok attempts => exact .pure _
    | error error => exact ih _ _

/-- **The firmware.** -/
theorem confined_firmware (firmwarePayload : List UInt8) (clocks : PollClocks) :
    Confined firmwareRegion (productionFirmwareSequence registers firmwarePayload clocks) := by
  have hreset : Confined firmwareRegion (productionFirmwarePreflightResetLoadedCode registers) := by
    refine (confined_read8 registers _ _).bind fun value => ?_
    split
    · exact .pure _
    · refine (confined_write8Verify registers (.inl (by decide)) _ _ _ _ _).bind fun _ => ?_
      exact confined_8051Reset registers
  refine Confined.counters.bind fun before => ?_
  refine hreset.bind fun _ => ?_
  refine (confined_rmw8 registers (.inl (by decide)) _ _ _ _ _).bind fun _ => ?_
  refine (confined_rmw8 registers (.inl (by decide)) _ _ _ _ _).bind fun _ => ?_
  refine (confined_attempts registers firmwarePayload clocks 1 3 {}).bind fun download => ?_
  refine (Confined.attempt (confined_rmw8 registers (.inl (by decide)) _ _ _ _ _)).bind fun disabled => ?_
  refine (Confined.ofExcept _).bind fun _ => ?_
  refine (Confined.ofExcept _).bind fun _ => ?_
  refine (confined_read32 registers _ _ _).bind fun before => ?_
  have hwrite (value : UInt32) : Confined firmwareRegion
      (productionWrite32Verify registers "REG_MCUFWDL" regMcufwdl value 0 0 "firmware-ready") := by
    refine (confined_write32 registers (fun k hk => .inl ?_) _ _ _).bind fun _ => .pure _
    revert k
    decide
  refine (hwrite _).bind fun _ => ?_
  refine (confined_8051Reset registers).bind fun _ => ?_
  refine (confined_poll32 registers _ _ _ _ _ _ _ _).bind fun _ => ?_
  exact Confined.counters.bind fun _ => .pure _

end Firmware

/-! ## The other phases -/

/-- the word of the link table -/
def lltRegion (address : UInt16) : Prop := address ∈ [regLltInit, regLltInit + 1, regLltInit + 2, regLltInit + 3]

section Llt

variable (registers : Rtl8812auRegisterAccess)

theorem confined_lltWrite (lltAddress lltData : UInt8) :
    Confined lltRegion (productionLltWrite registers lltAddress lltData) := by
  refine (confined_write32 registers (fun k hk => ?_) _ _ _).bind fun _ => ?_
  · revert k
    unfold lltRegion
    decide
  · exact ((confined_read32 registers _ _ _).pollReads _ _ _ _ _).bind fun _ => .pure _

/-- links to the next page; induction on the pages -/
theorem confined_lltChain (addresses : List UInt8) (entries : UInt64) :
    Confined lltRegion (productionLltChain registers addresses entries) := by
  induction addresses generalizing entries with
  | nil => exact .pure _
  | cons address addresses ih => exact (confined_lltWrite registers _ _).bind fun _ => ih _

/-- **The link table.** -/
theorem confined_llt : Confined lltRegion (productionLltSequence registers) := by
  have hpreflight : Confined lltRegion (productionPreflightCr registers "LLT programming") :=
    .of_finds (performs_preflightCr registers _) (by decide)
  refine hpreflight.bind fun _ => ?_
  refine (confined_lltChain registers _ _).bind fun entries => ?_
  refine (confined_lltWrite registers _ _).bind fun _ => ?_
  refine (confined_lltChain registers _ _).bind fun entries => ?_
  exact (confined_lltWrite registers _ _).bind fun _ => .pure _

end Llt

/-- the words of the serial ports -/
def rfRegion (address : UInt16) : Prop := ∃ path : RadioPath, ∃ k < 4, address = serialRegister path + UInt16.ofNat k

section Rf

variable (registers : Rtl8812auRegisterAccess)

/-- a table; induction on its actions -/
theorem confined_tableActions {region : UInt16 → Prop} {target : RealtekTableAction → Except RuntimeRadioError α}
    {write : RealtekTableAction → α → RegisterAction Unit} (hwrite : ∀ action asked, Confined region (write action asked))
    (actions : List RealtekTableAction) (writes delays : ℕ) :
    Confined region (runTableActions target write actions writes delays) := by
  induction actions generalizing writes delays with
  | nil => exact .pure _
  | cons action actions ih =>
    unfold runTableActions
    split
    · exact ih _ _
    · refine (Confined.ofExcept _).bind fun asked => ?_
      exact (hwrite action asked).bind fun _ => ih _ _

theorem confined_rfSerial (path : Rtl8812auRfPath) (rfOffset value : UInt32) :
    Confined rfRegion (rfSerialWriteSinglePath registers path rfOffset value) := by
  have hto (path : RadioPath) (target : RfSerialWriteTarget) (htarget : target.bbRegister = serialRegister path) :
      Confined rfRegion (rfSerialWriteTo registers rfOffset value target) := by
    refine Confined.counters.bind fun before => ?_
    have hregion : ∀ k < 4, rfRegion (target.bbRegister + UInt16.ofNat k) := fun k hk => ⟨path, k, hk, by rw [htarget]⟩
    refine (confined_write32 registers hregion _ _ _).bind fun _ => ?_
    exact Confined.counters.bind fun _ => .pure _
  cases path with
  | a => exact (hto .a _ rfl).bind fun report => .pure _
  | b => exact (hto .b _ rfl).bind fun report => .pure _
  | both => exact (hto .a _ rfl).bind fun _ => (hto .b _ rfl).bind fun report => .pure _

theorem confined_rfTable (plan : RealtekTablePlan) : Confined rfRegion (productionRunRfTablePlan registers plan) := by
  refine (Confined.ofExcept _).bind fun path => confined_tableActions (fun action data => ?_) _ _ _
  exact ((confined_rfSerial registers path _ _).mapError _).bind fun _ => .pure _

/-- **The radio.** -/
theorem confined_rf (radioaPlan radiobPlan : RealtekTablePlan) :
    Confined rfRegion (productionRfSequence registers radioaPlan radiobPlan) := by
  refine (Confined.of_finds (performs_rfPreflight registers) (by decide)).bind fun _ => ?_
  refine Confined.counters.bind fun before => ?_
  refine (confined_rfTable registers radioaPlan).bind fun radioaCounts => ?_
  refine (confined_rfTable registers radiobPlan).bind fun radiobCounts => ?_
  exact (Confined.counters.bind fun _ => .pure _).bind fun writes => .pure _

end Rf

/-- the registers of the fuses and of the address -/
def macidRegion (address : UInt16) : Prop := address ∈ efuseTouched ++ macidAddresses

section Macid

variable (registers : Rtl8812auRegisterAccess)

theorem confined_efuseRead (address : UInt16) (pollAttempts : ℕ) :
    Confined macidRegion (efuseReadByte registers address pollAttempts) := by
  have hpoll (attempts : ℕ) : Confined macidRegion (efusePollReady registers address attempts) := by
    induction attempts with
    | zero => exact .pure _
    | succ attempts ih =>
      refine (confined_read8 registers _ _).bind fun status => ?_
      split
      · exact (confined_read8 registers _ _).bind fun byte => .pure _
      · exact ih
  have hregion : macidRegion (regEfuseCtrl + 1) ∧ macidRegion (regEfuseCtrl + 2) ∧ macidRegion (regEfuseCtrl + 3) := by
    unfold macidRegion
    decide
  refine (confined_write8 registers hregion.1 _ _).bind fun _ => ?_
  refine (confined_read8 registers _ _).bind fun high => ?_
  refine (confined_write8 registers hregion.2.1 _ _).bind fun _ => ?_
  refine (confined_read8 registers _ _).bind fun command => ?_
  refine (confined_write8 registers hregion.2.2 _ _).bind fun _ => ?_
  refine (hpoll pollAttempts).bind fun byte => ?_
  cases byte with
  | some byte => exact .pure _
  | none => exact (Confined.attempt (confined_read8 registers _ _)).bind fun status => .fail _

/-- the fuses; induction on those that are left -/
theorem confined_efuseReads (pollAttempts address count : ℕ) (raw : List UInt8) :
    Confined macidRegion (efuseReadBytes registers pollAttempts address count raw) := by
  induction count generalizing address raw with
  | zero => exact .pure _
  | succ count ih =>
    refine (confined_efuseRead registers _ pollAttempts).attempt.bind fun byte => ?_
    cases byte with
    | ok byte => exact ih _ _
    | error error => exact .pure _

theorem confined_powerSwitch (enabled : Bool) : Confined macidRegion (efusePowerSwitchRead registers enabled) := by
  have hgrant : macidRegion regEfuseBurnGnt8812 := by
    unfold macidRegion
    decide
  have hfunc : ∀ k < 2, macidRegion (regSysFuncEn + UInt16.ofNat k) := by
    unfold macidRegion
    decide
  have hclkr : ∀ k < 2, macidRegion (regSysClkr + UInt16.ofNat k) := by
    unfold macidRegion
    decide
  have hclock : Confined macidRegion (do
      let sysClkr ← read16WithCustomError registers regSysClkr (efusePowerSwitchFailed "read REG_SYS_CLKR")
      if sysClkr &&& (loaderClkEn ||| ana8m) ≠ loaderClkEn ||| ana8m then
        write16WithCustomError registers regSysClkr (sysClkr ||| (loaderClkEn ||| ana8m))
          (efusePowerSwitchFailed "enable EFUSE loader clock")) := by
    refine (confined_read16 registers _ _).bind fun sysClkr => ?_
    split
    · exact confined_write16 registers hclkr _ _
    · exact .pure _
  have henable : Confined macidRegion (efuseEnableLoader registers) := by
    refine (confined_read16 registers _ _).bind fun _ => ?_
    refine (confined_read16 registers _ _).bind fun sysFunc => ?_
    split
    · exact (confined_write16 registers hfunc _ _).bind fun _ => hclock
    · exact hclock
  refine (confined_write8 registers hgrant _ _).bind fun _ => ?_
  cases enabled with
  | true => exact henable
  | false => exact .pure _

theorem confined_readMacid (phase : String) (addresses : List UInt16) :
    Confined macidRegion (readMacidBytes registers phase addresses) := by
  induction addresses with
  | nil => exact .pure _
  | cons address addresses ih =>
    exact (confined_read8 registers _ _).bind fun byte => ih.bind fun bytes => .pure _

/-- a byte for each address; induction on the addresses -/
theorem confined_writeMacid (addresses : List UInt16) (haddresses : ∀ address ∈ addresses, macidRegion address)
    (bytes : List UInt8) (registerWrites : ℕ) :
    Confined macidRegion (writeMacidBytes registers addresses bytes registerWrites) := by
  induction addresses generalizing bytes registerWrites with
  | nil => exact .pure _
  | cons address addresses ih =>
    cases bytes with
    | nil => exact .pure _
    | cons byte bytes =>
      refine (confined_write8 registers (haddresses address List.mem_cons_self) _ _).bind fun _ => ?_
      exact ih (fun other hother => haddresses other (List.mem_cons_of_mem _ hother)) _ _

/-- **The address.** -/
theorem confined_macid : Confined macidRegion (productionProgramEfuseMacid registers) := by
  have hread (config : RuntimeEfuseReadConfig) :
      Confined macidRegion (readRtl8812auEfusePhysicalWithConfig registers config) := by
    unfold readRtl8812auEfusePhysicalWithConfig
    split
    · exact .fail _
    · refine (confined_powerSwitch registers true).bind fun _ => ?_
      refine (confined_efuseReads registers _ _ _ _).bind fun read => ?_
      refine (confined_powerSwitch registers false).attempt.bind fun powerOff => ?_
      obtain ⟨raw, readError⟩ := read
      cases readError with
      | some error => exact .fail _
      | none => exact (Confined.ofExcept _).bind fun _ => .pure _
  refine ((hread {}).bind fun raw => .pure _).bind fun mac => ?_
  cases mac with
  | none => exact .pure _
  | some mac =>
    refine Confined.bind ?_ fun report => .pure _
    refine Confined.counters.bind fun before => ?_
    refine (confined_readMacid registers _ _).bind fun bytes => ?_
    refine (confined_writeMacid registers macidAddresses (fun _ h => List.mem_append_right _ h) _ _).bind fun _ => ?_
    refine (confined_readMacid registers _ _).bind fun bytes' => ?_
    exact Confined.counters.bind fun _ => .pure _

end Macid

end WfbLink.Runtime
