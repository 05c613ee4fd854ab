/-
The download of the firmware is disabled again (`production_firmware_sequence`, clean-up).

The sequence keeps the outcome of the tries and of the disabling step, so that the download is disabled before either is
returned. The other steps return their failures at once; those between a write that sets the enable bit and the next
write that clears it leave the bit set. The register is written again by every try and by the step behind the disabling
one, with the bit as they read it.

- `due_firmwareDownload`: behind the enabling write, every write that sets the bit is followed by one that clears it iff
  no step fails while the bit is set.
- `firmwareDownload_iff`: so the sequence is sound, and cleans up behind each of these writes, iff that holds.
-/
import WfbLink.Runtime.FirmwareSequence

namespace WfbLink.Runtime

open WfbLink.Core WfbLink.RadioCore

/-! ## The enable bit -/

/-- a write that sets the enable bit, taken in full -/
def SetsEnable (t : RegisterTransfer) : Prop :=
  ∃ byte rest, t = .write regMcufwdl (byte :: rest) (.ok (rest.length + 1)) ∧ byte &&& mcufwdlEn ≠ 0

/-- a write that clears the enable bit, whether it is taken or not -/
def ClearsEnable (t : RegisterTransfer) : Prop :=
  ∃ byte rest result, t = .write regMcufwdl (byte :: rest) result ∧ byte &&& mcufwdlEn = 0

/-- behind every write that sets the bit, a write that clears it is tried -/
def EnableCleared (log : List RegisterTransfer) : Prop :=
  ∀ before t after, log = before ++ t :: after → SetsEnable t → ∃ t' ∈ after, ClearsEnable t'

/-- the same of transfers in front of which the bit was cleared, or else was set -/
def ClearedFrom (cleared : Bool) (log : List RegisterTransfer) : Prop :=
  EnableCleared log ∧ (cleared = false → ∃ t ∈ log, ClearsEnable t)

theorem SetsEnable.not_clears {t : RegisterTransfer} (h : SetsEnable t) : ¬ClearsEnable t := by
  obtain ⟨byte, rest, rfl, hset⟩ := h
  rintro ⟨byte', rest', result, heq, hclear⟩
  injection heq with _ hdata
  obtain ⟨rfl, -⟩ := List.cons.inj hdata
  exact hset hclear

theorem enableCleared_of_unset {log : List RegisterTransfer} (h : ∀ t ∈ log, ¬SetsEnable t) : EnableCleared log := by
  intro before t after hlog hset
  exact absurd hset (h t (hlog ▸ List.mem_append_right before List.mem_cons_self))

theorem enableCleared_cons {t : RegisterTransfer} {log : List RegisterTransfer} :
    EnableCleared (t :: log) ↔ (SetsEnable t → ∃ t' ∈ log, ClearsEnable t') ∧ EnableCleared log := by
  constructor
  · intro h
    refine ⟨h [] t log rfl, fun before t' after hlog hset => ?_⟩
    exact h (t :: before) t' after (by rw [hlog, List.cons_append]) hset
  · rintro ⟨hfirst, hrest⟩ before t' after hlog hset
    rcases before with _ | ⟨x, before⟩
    · obtain ⟨rfl, rfl⟩ := List.cons.inj hlog
      exact hfirst hset
    · exact hrest before t' after (List.cons.inj hlog).2 hset

theorem clearedFrom_nil {cleared : Bool} : ClearedFrom cleared [] ↔ cleared = true := by
  have hnone : EnableCleared [] := enableCleared_of_unset fun _ ht => absurd ht List.not_mem_nil
  simp [ClearedFrom, hnone]

theorem clearedFrom_sets {t : RegisterTransfer} (ht : SetsEnable t) (cleared : Bool) (log : List RegisterTransfer) :
    ClearedFrom cleared (t :: log) ↔ ClearedFrom false log := by
  have hclear := ht.not_clears
  simp only [ClearedFrom, enableCleared_cons, List.mem_cons, exists_eq_or_imp, hclear, false_or]
  tauto

theorem clearedFrom_clears {t : RegisterTransfer} (ht : ClearsEnable t) (cleared : Bool)
    (log : List RegisterTransfer) : ClearedFrom cleared (t :: log) ↔ ClearedFrom true log := by
  have hset : ¬SetsEnable t := fun hset => hset.not_clears ht
  simp [ClearedFrom, enableCleared_cons, ht, hset]

theorem clearedFrom_neither {t : RegisterTransfer} (hset : ¬SetsEnable t) (hclear : ¬ClearsEnable t) (cleared : Bool)
    (log : List RegisterTransfer) : ClearedFrom cleared (t :: log) ↔ ClearedFrom cleared log := by
  simp [ClearedFrom, enableCleared_cons, hset, hclear]

abbrev SparesMcufwdl : RegisterTransfer → Prop := RegisterTransfer.Spares regMcufwdl

theorem SparesMcufwdl.not_clears (t : RegisterTransfer) (h : SparesMcufwdl t) : ¬ClearsEnable t := by
  rintro ⟨byte, rest, result, rfl, -⟩
  exact h rfl

theorem SparesMcufwdl.not_sets (t : RegisterTransfer) (h : SparesMcufwdl t) : ¬SetsEnable t := by
  rintro ⟨byte, rest, rfl, -⟩
  exact h rfl

/-- transfers that spare the register do not count; induction on them -/
theorem clearedFrom_spares {earlier : List RegisterTransfer} (h : ∀ t ∈ earlier, SparesMcufwdl t) (cleared : Bool)
    (later : List RegisterTransfer) : ClearedFrom cleared (earlier ++ later) ↔ ClearedFrom cleared later := by
  induction earlier with
  | nil => rfl
  | cons t earlier ih =>
    have ht := h t List.mem_cons_self
    rw [List.cons_append, clearedFrom_neither (SparesMcufwdl.not_sets t ht) (SparesMcufwdl.not_clears t ht)]
    exact ih fun t' ht' => h t' (List.mem_cons_of_mem _ ht')

theorem clearedFrom_spared {transfers : List RegisterTransfer} (h : ∀ t ∈ transfers, SparesMcufwdl t)
    (cleared : Bool) : ClearedFrom cleared transfers ↔ cleared = true := by
  rw [← clearedFrom_nil, ← clearedFrom_spares h cleared [], List.append_nil]

/-- transfers that set no bit do not count in front of those that are asked about -/
theorem enableCleared_append {before after : List RegisterTransfer} (h : ∀ t ∈ before, ¬SetsEnable t) :
    EnableCleared (before ++ after) ↔ EnableCleared after := by
  induction before with
  | nil => rfl
  | cons t before ih =>
    have ht := h t List.mem_cons_self
    rw [List.cons_append, enableCleared_cons, ih fun t' ht' => h t' (List.mem_cons_of_mem _ ht')]
    exact and_iff_right fun hset => absurd hset ht

/-- behind the first write that sets the bit, it has to be cleared -/
theorem enableCleared_iff {before after : List RegisterTransfer} {t : RegisterTransfer} (hset : SetsEnable t)
    (hbefore : ∀ t' ∈ before, ¬SetsEnable t') : EnableCleared (before ++ t :: after) ↔ ClearedFrom false after := by
  rw [enableCleared_append hbefore, enableCleared_cons, ClearedFrom, and_comm]
  simp [hset]

/-! ## The steps -/

section Due

variable (registers : Rtl8812auRegisterAccess)

/-- up to the enabling write -/
def firmwareEnable : RegisterAction Unit := do
  productionFirmwarePreflightResetLoadedCode registers
  let before ← read8WithCounter registers regMcufwdl "REG_MCUFWDL" "firmware-download-enable"
  write8WithCounter registers regMcufwdl ((before &&& ~~~mcufwdlEn) ||| (mcufwdlEn &&& mcufwdlEn)) "REG_MCUFWDL"
    "firmware-download-enable"

/-- the disabling step and what follows it, where a step may fail only if the enable bit was cleared since it was last
set; the write of the ready bit is the last one of the register, and has to leave the bit clear if it is taken -/
def firmwareStartDue (cleared : Bool) (downloadResult : Except RuntimeRadioError Unit) : RegisterAction Unit :=
  (read8WithCounter registers regMcufwdl "REG_MCUFWDL" "firmware-download-disable").mayFail cleared fun before =>
  let written := (before &&& ~~~mcufwdlEn) ||| (0 &&& mcufwdlEn)
  (write8WithCounter registers regMcufwdl written "REG_MCUFWDL" "firmware-download-disable").mayFail true fun _ =>
  (productionVerify8Readback registers "REG_MCUFWDL" regMcufwdl mcufwdlEn 0 "firmware-download-disable").mayFail true
    fun _ =>
  (RegisterAction.ofExcept downloadResult).mayFail true fun _ =>
  (read32WithCounter registers regMcufwdl "REG_MCUFWDL" "firmware-ready").mayFail true fun before =>
  let written := (before ||| mcufwdlRdy) &&& ~~~wintiniRdy
  (write32WithCounter registers regMcufwdl written "REG_MCUFWDL" "firmware-ready").mayFail true fun _ =>
  if written.toUInt8 &&& mcufwdlEn = 0 then return ()
  else .fail (.new "firmware_download_enabled" "REG_MCUFWDL was left with MCUFWDL_EN set")

/-- the same from a try on; its first write sets or clears the bit as it was read -/
def firmwareAttemptsDue (firmwarePayload : List UInt8) (clocks : PollClocks) :
    Bool → ℕ → ℕ → Except RuntimeRadioError Unit → RegisterAction Unit
  | cleared, _, 0, downloadResult => firmwareStartDue registers cleared downloadResult
  | cleared, attempt, attempts + 1, _ =>
    (read8WithCounter registers regMcufwdl "REG_MCUFWDL" "firmware-download").mayFail cleared fun before =>
    let written := (before &&& ~~~fwdlChksumRptU8) ||| (fwdlChksumRptU8 &&& fwdlChksumRptU8)
    let clears := decide (written &&& mcufwdlEn = 0)
    (write8WithCounter registers regMcufwdl written "REG_MCUFWDL" "firmware-download").mayFail (cleared || clears)
      fun _ =>
    (productionWriteFirmwareImage registers firmwarePayload).mayFail clears fun _ =>
    (firmwareChecksumPoll registers (clocks attempt)).attempt.mayFail clears fun outcome =>
    match outcome with
    | .ok _ => firmwareStartDue registers clears (.ok ())
    | .error error => firmwareAttemptsDue firmwarePayload clocks clears (attempt + 1) attempts (.error error)

/-- the same from the enabling write on -/
def firmwareClearDue (firmwarePayload : List UInt8) (clocks : PollClocks) : RegisterAction Unit :=
  (productionVerify8Readback registers "REG_MCUFWDL" regMcufwdl mcufwdlEn mcufwdlEn "firmware-download-enable").mayFail
    false fun _ =>
  (productionRmw8 registers "REG_MCUFWDL + 2" regMcufwdlPlus2 bit3 0 true "firmware-download-enable").mayFail false
    fun _ =>
  firmwareAttemptsDue registers firmwarePayload clocks false 1 3
    (.error (.new "firmware_download_not_started" "firmware download loop did not run"))

end Due

/-! ## What they leave -/

section Spares

variable {τ : Type} [Rtl8812auUsbTransport τ] (registers : Rtl8812auRegisterAccess)

theorem spares_read8 (address : UInt16) (registerName phase : String) :
    Logs τ SparesMcufwdl (read8WithCounter registers address registerName phase) :=
  .readWithCustomError (registers.read8_extends fun _ _ => trivial)

theorem spares_read32 (address : UInt16) (registerName phase : String) :
    Logs τ SparesMcufwdl (read32WithCounter registers address registerName phase) :=
  .readWithCustomError (registers.read32_extends fun _ _ => trivial)

theorem spares_write8 {address : UInt16} (haddress : address ≠ regMcufwdl) (value : UInt8)
    (registerName phase : String) :
    Logs τ SparesMcufwdl (write8WithCounter registers address value registerName phase) :=
  .writeWithCustomError (registers.writeAll_extends .u8 fun _ => haddress)

/-- reading back; induction on the attempts that are left -/
theorem spares_verifyReadback {α : Type} [DecidableEq α] {read : RegisterAction α} (hread : Logs τ SparesMcufwdl read)
    (masked : α → α) (expected : α) (mismatch : α → RuntimeRadioError) (attempts : ℕ) (actual : α) :
    Logs τ SparesMcufwdl (verifyReadback read masked expected mismatch attempts actual) := by
  induction attempts generalizing actual with
  | zero => exact Logs.fail _
  | succ attempts ih =>
    apply Logs.bind hread
    intro after
    split
    · exact Logs.pure _
    · exact ih _

theorem spares_verify8 (registerName : String) (address : UInt16) (mask expected : UInt8) (phase : String) :
    Logs τ SparesMcufwdl (productionVerify8Readback registers registerName address mask expected phase) :=
  spares_verifyReadback (spares_read8 registers address registerName phase) _ _ _ _ _

theorem spares_rmw8 {address : UInt16} (haddress : address ≠ regMcufwdl) (registerName : String)
    (mask value : UInt8) (shouldVerify : Bool) (phase : String) :
    Logs τ SparesMcufwdl (productionRmw8 registers registerName address mask value shouldVerify phase) := by
  apply Logs.bind (spares_read8 registers address registerName phase)
  intro before
  apply Logs.bind (spares_write8 registers haddress _ _ _)
  intro _
  split
  · exact Logs.bind (spares_verify8 registers _ _ _ _ _) fun _ => Logs.pure _
  · exact Logs.pure _

theorem spares_write8Verify {address : UInt16} (haddress : address ≠ regMcufwdl) (registerName : String)
    (value verifyMask verifyValue : UInt8) (phase : String) :
    Logs τ SparesMcufwdl (productionWrite8Verify registers registerName address value verifyMask verifyValue phase) := by
  apply Logs.bind (spares_write8 registers haddress _ _ _)
  intro _
  split
  · exact Logs.bind (spares_verify8 registers _ _ _ _ _) fun _ => Logs.pure _
  · exact Logs.pure _

theorem spares_poll {delay : ℕ} (registerName : String) (address : UInt16) (mask expected minAttempts : UInt32)
    (timeout : ℕ) (clock : PollClock delay) (n : ℕ) :
    Logs τ SparesMcufwdl
      (productionPoll32MinFrom registers registerName address mask expected minAttempts timeout clock n) := by
  apply poll_induct (pollLimit minAttempts.toNat timeout delay) ?_ n
  intro n ih
  rw [productionPoll32MinFrom]
  apply Logs.bind (spares_read32 registers _ _ _)
  intro value
  split
  · exact Logs.pure _
  · split
    · exact Logs.fail _
    · rename_i hclock
      exact ih (lt_pollLimit clock hclock)

/-! ### The image -/

theorem spares_writeData {start : ℕ} {data : List UInt8} (hend : start + data.length ≤ maxDlfwPageSize) :
    Logs τ SparesMcufwdl (productionFirmwareWriteData registers start data) := by
  have hstart : start ≤ maxDlfwPageSize := Nat.le_of_add_right_le hend
  have hwindow : fwStartAddress + UInt16.ofNat start ≠ regMcufwdl := by
    intro h
    have hnat := congrArg UInt16.toNat h
    have hfw : fwStartAddress.toNat = 4096 := rfl
    have hreg : regMcufwdl.toNat = 128 := rfl
    rw [windowAddress_toNat hstart] at hnat
    omega
  have hblock (data : List UInt8) (error : Rtl8812auRegisterError → RuntimeRadioError) :
      Logs τ SparesMcufwdl (writeBlockWithCustomError registers (fwStartAddress + UInt16.ofNat start) data error) := by
    apply Logs.bind (Logs.access (registers.writeAll_extends (.block data.length) fun _ => hwindow))
    intro _
    exact Logs.modifyCounters _
  rw [productionFirmwareWriteData_of_le registers hstart]
  rcases data with _ | ⟨byte, _ | ⟨byte', data⟩⟩
  · exact hblock _ _
  · exact spares_write8 registers hwindow _ _ _
  · exact hblock _ _

/-- one part, and its length -/
theorem spares_writeData_pure {start : ℕ} {data : List UInt8} (hend : start + data.length ≤ maxDlfwPageSize)
    (n : UInt64) :
    Logs τ SparesMcufwdl (do productionFirmwareWriteData registers start data; return n) :=
  Logs.bind (spares_writeData registers hend) fun _ => Logs.pure _

/-- the parts one after the other; induction on the parts -/
theorem spares_forEnumerate {α : Type} (body : ℕ → α → RegisterAction UInt64) (parts : List α) (number : ℕ)
    (hbody : ∀ e ∈ parts.zipIdx number, Logs τ SparesMcufwdl (body e.2 e.1)) (total : UInt64) :
    Logs τ SparesMcufwdl (forEnumerate body number parts total) := by
  induction parts generalizing number total with
  | nil => exact Logs.pure _
  | cons part parts ih =>
    rw [List.zipIdx_cons] at hbody
    apply Logs.bind (hbody (part, number) List.mem_cons_self)
    intro written
    exact ih (number + 1) (fun e he => hbody e (List.mem_cons_of_mem _ he)) _

theorem spares_writeFirmwareBlocks (start size : ℕ) (hsize : 0 < size) (data : List UInt8)
    (hend : start + data.length ≤ maxDlfwPageSize) (bytesWritten : UInt64) :
    Logs τ SparesMcufwdl (writeFirmwareBlocks registers start size data bytesWritten) := by
  refine spares_forEnumerate (fun number block => do
    productionFirmwareWriteData registers (start + number * size) block
    return u64Sat block.length) (chunks size data) 0 ?_ bytesWritten
  intro e he
  have hbound := chunks_bound hsize data 0 e he
  exact spares_writeData_pure registers (by omega) _

theorem spares_writeFirmwarePage {data : List UInt8} (hlen : data.length ≤ maxDlfwPageSize) :
    Logs τ SparesMcufwdl (productionWriteFirmwarePage registers data) := by
  have hfull : data.length / maxRegBlockSize * maxRegBlockSize ≤ data.length := Nat.div_mul_le_self _ _
  generalize hfullLen : data.length / maxRegBlockSize * maxRegBlockSize = fullBlockLen at hfull
  have hrest : (data.drop fullBlockLen).length / firmwareRemainderBlockSize * firmwareRemainderBlockSize
      ≤ (data.drop fullBlockLen).length := Nat.div_mul_le_self _ _
  generalize hrestLen : (data.drop fullBlockLen).length / firmwareRemainderBlockSize * firmwareRemainderBlockSize
    = remainderBlockLen at hrest
  have hdrop : (data.drop fullBlockLen).length = data.length - fullBlockLen := List.length_drop
  have htake : (data.take fullBlockLen).length = fullBlockLen := List.length_take_of_le hfull
  have htake' : ((data.drop fullBlockLen).take remainderBlockLen).length = remainderBlockLen :=
    List.length_take_of_le hrest
  simp only [productionWriteFirmwarePage, hfullLen, hrestLen]
  apply Logs.bind (spares_writeFirmwareBlocks registers 0 maxRegBlockSize (by decide) _ (by omega) 0)
  intro written
  apply Logs.bind (spares_writeFirmwareBlocks registers fullBlockLen firmwareRemainderBlockSize (by decide) _
    (by omega) written)
  intro written
  refine spares_forEnumerate (fun number byte => do
    productionFirmwareWriteData registers (fullBlockLen + remainderBlockLen + number) [byte]
    return 1) ((data.drop fullBlockLen).drop remainderBlockLen) 0 ?_ written
  intro e he
  have hindex := List.snd_lt_of_mem_zipIdx he
  simp only [List.length_drop] at hindex
  exact spares_writeData_pure registers (by rw [List.length_singleton]; omega) _

theorem spares_writeFirmwareImage (firmwarePayload : List UInt8) :
    Logs τ SparesMcufwdl (productionWriteFirmwareImage registers firmwarePayload) := by
  refine spares_forEnumerate (fun page chunk => do
    productionRmw8 registers "REG_MCUFWDL + 2" regMcufwdlPlus2 0x07 (UInt8.ofNat page &&& 0x07) true
      "firmware-download"
    productionWriteFirmwarePage registers chunk) (chunks maxDlfwPageSize firmwarePayload) 0 ?_ 0
  intro e he
  apply Logs.bind (spares_rmw8 registers (by decide) _ _ _ _ _)
  intro _
  exact spares_writeFirmwarePage registers (chunks_bound (by decide) firmwarePayload 0 e he).1

/-! ### Before the download -/

theorem spares_8051 : Logs τ SparesMcufwdl (productionFirmware8051Reset8812 registers) := by
  apply Logs.bind (spares_rmw8 registers (by decide) _ _ _ _ _)
  intro _
  apply Logs.bind (spares_rmw8 registers (by decide) _ _ _ _ _)
  intro _
  apply Logs.bind (spares_read8 registers _ _ _)
  intro sysFunc
  apply Logs.bind (spares_write8Verify registers (by decide) _ _ _ _ _)
  intro _
  apply Logs.bind (spares_rmw8 registers (by decide) _ _ _ _ _)
  intro _
  apply Logs.bind (spares_rmw8 registers (by decide) _ _ _ _ _)
  intro _
  exact spares_write8Verify registers (by decide) _ _ _ _ _

/-- a write of `REG_MCUFWDL` without the enable bit -/
theorem write8_not_sets {byte : UInt8} (hbyte : byte &&& mcufwdlEn = 0) (registerName phase : String) :
    Logs τ (fun t => ¬SetsEnable t) (write8WithCounter registers regMcufwdl byte registerName phase) := by
  apply Logs.writeWithCustomError (registers.writeAll_extends .u8 ?_)
  rintro result ⟨byte', rest, heq, hset⟩
  injection heq with _ hdata
  obtain ⟨rfl, -⟩ := List.cons.inj hdata
  exact hset hbyte

/-- the preflight writes the register once, with a zero -/
theorem preflight_not_sets :
    Logs τ (fun t => ¬SetsEnable t) (productionFirmwarePreflightResetLoadedCode registers) := by
  apply Logs.bind ((spares_read8 registers _ _ _).mono SparesMcufwdl.not_sets)
  intro value
  split
  · exact Logs.pure _
  · have hwrite : Logs τ (fun t => ¬SetsEnable t)
        (productionWrite8Verify registers "REG_MCUFWDL" regMcufwdl 0 ramDlSel 0 "firmware-preflight") := by
      apply Logs.bind (write8_not_sets registers (by decide) _ _)
      intro _
      split
      · refine Logs.bind ((spares_verify8 registers _ _ _ _ _).mono SparesMcufwdl.not_sets) fun _ => Logs.pure _
      · exact Logs.pure _
    exact Logs.bind hwrite fun _ => (spares_8051 registers).mono SparesMcufwdl.not_sets

end Spares

/-! ## Following the enable bit -/

section Follow

variable {τ α β : Type} [Rtl8812auUsbTransport τ] (registers : Rtl8812auRegisterAccess) {cleared : Bool}

/-- one write of `REG_MCUFWDL` is one transfer, answered in full iff it succeeds -/
theorem write_logged {width : RegisterWidth} {data : List UInt8} (hwidth : width.expectedLen = data.length)
    (registerName phase : String) (s : RegisterRun (Logged τ)) :
    ∃ outcome s' result,
      (writeWithCounter (registers.writeAll regMcufwdl width data) registerName phase).exec s = (outcome, s') ∧
      runLog s' = runLog s ++ [.write regMcufwdl data result] ∧
      ((outcome = .ok () ∧ result = .ok data.length) ∨
        ((∃ error, outcome = .error error) ∧ result ≠ .ok data.length)) := by
  obtain ⟨outcome, inner, result, hrun, h⟩ := registers.writeAll_logged regMcufwdl width data hwidth s.transport
  rw [writeWithCounter_eq, RegisterAction.exec_writeWithCustomError, hrun]
  rcases h with ⟨-, rfl, hresult⟩ | ⟨-, ⟨error, rfl⟩, hresult⟩
  · exact ⟨_, _, result, rfl, rfl, .inl ⟨rfl, hresult⟩⟩
  · exact ⟨_, _, result, rfl, rfl, .inr ⟨⟨_, rfl⟩, hresult⟩⟩

/-- a step that spares the register leaves the bit as it is -/
theorem due_spares {step : RegisterAction β} {f : β → RegisterAction α} {g : β → RegisterAction Unit}
    (hstep : Logs τ SparesMcufwdl step) (hf : ∀ b, Due τ (ClearedFrom cleared) (f b) (g b)) :
    Due τ (ClearedFrom cleared) (step >>= f) (step.mayFail cleared g) := by
  apply Due.bind _ hf
  intro s
  obtain ⟨transfers, hlog, hspares⟩ := hstep s
  exact ⟨transfers, hlog, fun _ _ => clearedFrom_spared hspares cleared,
    fun _ _ later => clearedFrom_spares hspares cleared later⟩

/-- nothing but such steps -/
theorem due_spared {action : RegisterAction α} (h : Logs τ SparesMcufwdl action) (error : RuntimeRadioError) :
    Due τ (ClearedFrom cleared) action (if cleared then Pure.pure () else .fail error) := by
  have hleaves : LeavesLog τ action fun _ transfers => ClearedFrom cleared transfers ↔ cleared = true := by
    intro s
    obtain ⟨transfers, hlog, hspares⟩ := h s
    exact ⟨transfers, hlog, clearedFrom_spared hspares cleared⟩
  cases cleared with
  | true => exact Due.always (hleaves.weaken fun _ _ hiff => hiff.2 rfl)
  | false => exact Due.never (hleaves.weaken fun _ _ hiff hP => Bool.false_ne_true (hiff.1 hP)) error

/-- a write clears the bit once it is tried, and sets it once it is taken -/
theorem due_write {width : RegisterWidth} {byte : UInt8} {rest : List UInt8}
    (hwidth : width.expectedLen = (byte :: rest).length) {registerName phase : String} {f : Unit → RegisterAction α}
    {g : Unit → RegisterAction Unit} (hf : ∀ u, Due τ (ClearedFrom (decide (byte &&& mcufwdlEn = 0))) (f u) (g u)) :
    Due τ (ClearedFrom cleared)
      (writeWithCounter (registers.writeAll regMcufwdl width (byte :: rest)) registerName phase >>= f)
      ((writeWithCounter (registers.writeAll regMcufwdl width (byte :: rest)) registerName phase).mayFail
        (cleared || decide (byte &&& mcufwdlEn = 0)) g) := by
  apply Due.bind _ hf
  intro s
  obtain ⟨outcome, s', result, hrun, hlog, h⟩ := write_logged registers hwidth registerName phase s
  rw [hrun]
  refine ⟨_, hlog, ?_⟩
  by_cases hbyte : byte &&& mcufwdlEn = 0
  · have hclears : ClearsEnable (.write regMcufwdl (byte :: rest) result) := ⟨byte, rest, result, rfl, hbyte⟩
    rw [decide_eq_true hbyte]
    refine ⟨fun error _ => ?_, fun _ _ later => clearedFrom_clears hclears cleared later⟩
    rw [clearedFrom_clears hclears, clearedFrom_nil, Bool.or_true]
  · have hnot : ¬ClearsEnable (.write regMcufwdl (byte :: rest) result) := by
      rintro ⟨byte', rest', result', heq, hclear⟩
      injection heq with _ hdata
      obtain ⟨rfl, -⟩ := List.cons.inj hdata
      exact hbyte hclear
    rw [decide_eq_false hbyte, Bool.or_false]
    rcases h with ⟨rfl, rfl⟩ | ⟨⟨error, rfl⟩, hresult⟩
    · have hsets : SetsEnable (.write regMcufwdl (byte :: rest) (.ok (byte :: rest).length)) :=
        ⟨byte, rest, rfl, hbyte⟩
      exact ⟨nofun, fun _ _ later => clearedFrom_sets hsets cleared later⟩
    · refine ⟨fun _ _ => ?_, nofun⟩
      have hunset : ¬SetsEnable (.write regMcufwdl (byte :: rest) result) := by
        rintro ⟨byte', rest', heq, -⟩
        injection heq with _ hdata hok
        obtain ⟨rfl, rfl⟩ := List.cons.inj hdata
        exact hresult hok
      rw [clearedFrom_neither hunset hnot, clearedFrom_nil]

theorem due_write8 (byte : UInt8) {registerName phase : String} {f : Unit → RegisterAction α}
    {g : Unit → RegisterAction Unit} (hf : ∀ u, Due τ (ClearedFrom (decide (byte &&& mcufwdlEn = 0))) (f u) (g u)) :
    Due τ (ClearedFrom cleared) (write8WithCounter registers regMcufwdl byte registerName phase >>= f)
      ((write8WithCounter registers regMcufwdl byte registerName phase).mayFail
        (cleared || decide (byte &&& mcufwdlEn = 0)) g) :=
  due_write registers (show RegisterWidth.expectedLen .u8 = [byte].length from rfl) hf

/-- a write that clears the bit may fail -/
theorem due_clear8 {byte : UInt8} (hbyte : byte &&& mcufwdlEn = 0) {registerName phase : String}
    {f : Unit → RegisterAction α} {g : Unit → RegisterAction Unit} (hf : ∀ u, Due τ (ClearedFrom true) (f u) (g u)) :
    Due τ (ClearedFrom cleared) (write8WithCounter registers regMcufwdl byte registerName phase >>= f)
      ((write8WithCounter registers regMcufwdl byte registerName phase).mayFail true g) := by
  have hclears : decide (byte &&& mcufwdlEn = 0) = true := decide_eq_true hbyte
  have hsafe : true = (cleared || decide (byte &&& mcufwdlEn = 0)) := by rw [hclears, Bool.or_true]
  rw [hsafe]
  apply due_write8 registers
  rwa [hclears]

/-- the bit is in the first of the four bytes -/
theorem due_write32 (value : UInt32) {registerName phase : String} {f : Unit → RegisterAction α}
    {g : Unit → RegisterAction Unit}
    (hf : ∀ u, Due τ (ClearedFrom (decide (value.toUInt8 &&& mcufwdlEn = 0))) (f u) (g u)) :
    Due τ (ClearedFrom cleared) (write32WithCounter registers regMcufwdl value registerName phase >>= f)
      ((write32WithCounter registers regMcufwdl value registerName phase).mayFail
        (cleared || decide (value.toUInt8 &&& mcufwdlEn = 0)) g) :=
  due_write registers (show RegisterWidth.expectedLen .u32 = (toLeU32 value.toNat).length from rfl) hf

theorem disable_clears (before : UInt8) : ((before &&& ~~~mcufwdlEn) ||| (0 &&& mcufwdlEn)) &&& mcufwdlEn = 0 :=
  rmw_masked before mcufwdlEn 0

theorem enable_sets (before : UInt8) :
    ((before &&& ~~~mcufwdlEn) ||| (mcufwdlEn &&& mcufwdlEn)) &&& mcufwdlEn ≠ 0 := by
  rw [rmw_masked]
  decide

/-- the steps behind the disabling one -/
def firmwareReady (clocks : PollClocks) (beforeWrites : UInt64) (download : FirmwareDownload) :
    RegisterAction ProductionFirmwareStats := do
  let before ← read32WithCounter registers regMcufwdl "REG_MCUFWDL" "firmware-ready"
  let written := (before ||| mcufwdlRdy) &&& ~~~wintiniRdy
  productionWrite32Verify registers "REG_MCUFWDL" regMcufwdl written 0 0 "firmware-ready"
  productionFirmware8051Reset8812 registers
  let (readyPollAttempts, _) ← productionPoll32Min registers "REG_MCUFWDL" regMcufwdl wintiniRdy wintiniRdy 10 200000
    (clocks 0)
  let counters ← RegisterAction.counters
  return {
    bytesWritten := download.bytesWritten
    controlWrites := satSub counters.usbControlWrites beforeWrites
    checksumPollAttempts := download.checksumPollAttempts
    readyPollAttempts }

/-- keeping the outcome of the disabling step changes which error is returned, and no transfer -/
theorem firmwareStart_state (clocks : PollClocks) (beforeWrites : UInt64) (download : FirmwareDownload)
    (s : RegisterRun τ) :
    ((firmwareStart registers clocks beforeWrites download).exec s).2 =
      ((firmwareDisable registers >>= fun _ => RegisterAction.ofExcept download.downloadResult >>= fun _ =>
        firmwareReady registers clocks beforeWrites download).exec s).2 := by
  have hattempt : (firmwareStart registers clocks beforeWrites download).exec s =
      (RegisterAction.ofExcept download.downloadResult >>= fun _ =>
        RegisterAction.ofExcept ((firmwareDisable registers).exec s).1 >>= fun _ =>
          firmwareReady registers clocks beforeWrites download).exec ((firmwareDisable registers).exec s).2 := by
    rw [firmwareStart, RegisterAction.exec_bind,
      Action.bind_of_ok (RegisterAction.exec_attempt_run (firmwareDisable registers) s)]
    rfl
  rw [hattempt, RegisterAction.exec_bind (firmwareDisable registers)]
  rcases hrun : (firmwareDisable registers).exec s with ⟨error | u, s₁⟩
  · rw [Action.bind_of_error hrun]
    cases download.downloadResult with
    | error => rfl
    | ok => rfl
  · rw [Action.bind_of_ok hrun]
    cases download.downloadResult with
    | error => rfl
    | ok => rfl

theorem due_firmwareReady (clocks : PollClocks) (beforeWrites : UInt64) (download : FirmwareDownload) :
    Due τ (ClearedFrom true) (firmwareReady registers clocks beforeWrites download)
      ((read32WithCounter registers regMcufwdl "REG_MCUFWDL" "firmware-ready").mayFail true fun before =>
        (write32WithCounter registers regMcufwdl ((before ||| mcufwdlRdy) &&& ~~~wintiniRdy) "REG_MCUFWDL"
          "firmware-ready").mayFail true fun _ =>
        if ((before ||| mcufwdlRdy) &&& ~~~wintiniRdy).toUInt8 &&& mcufwdlEn = 0 then return ()
        else .fail (.new "firmware_download_enabled" "REG_MCUFWDL was left with MCUFWDL_EN set")) := by
  apply due_spares (spares_read32 registers _ _ _)
  intro before
  simp only [productionWrite32Verify, RegisterAction.bind_assoc]
  apply due_write32 registers
  intro _
  rw [if_neg (not_not_intro rfl), RegisterAction.pure_bind]
  have hrest : Logs τ SparesMcufwdl (do
      productionFirmware8051Reset8812 registers
      let (readyPollAttempts, _) ← productionPoll32Min registers "REG_MCUFWDL" regMcufwdl wintiniRdy wintiniRdy 10
        200000 (clocks 0)
      let counters ← RegisterAction.counters
      return ({
        bytesWritten := download.bytesWritten
        controlWrites := satSub counters.usbControlWrites beforeWrites
        checksumPollAttempts := download.checksumPollAttempts
        readyPollAttempts } : ProductionFirmwareStats)) := by
    apply Logs.bind (spares_8051 registers)
    intro _
    apply Logs.bind (spares_poll registers _ _ _ _ _ _ _ _)
    intro polled
    exact Logs.bind Logs.counters fun _ => Logs.pure _
  have hdue : Due τ (ClearedFrom (decide (((before ||| mcufwdlRdy) &&& ~~~wintiniRdy).toUInt8 &&& mcufwdlEn = 0))) _ _ :=
    due_spared hrest (.new "firmware_download_enabled" "REG_MCUFWDL was left with MCUFWDL_EN set")
  simpa only [decide_eq_true_eq] using hdue

theorem due_firmwareStart (clocks : PollClocks) (beforeWrites : UInt64) (download : FirmwareDownload) :
    Due τ (ClearedFrom cleared) (firmwareStart registers clocks beforeWrites download)
      (firmwareStartDue registers cleared download.downloadResult) := by
  apply Due.congr _ (firmwareStart_state registers clocks beforeWrites download)
  simp only [firmwareDisable, productionRmw8, RegisterAction.bind_assoc, if_true]
  apply due_spares (spares_read8 registers _ _ _)
  intro before
  apply due_clear8 registers (disable_clears before)
  intro _
  apply due_spares (spares_verify8 registers _ _ _ _ _)
  intro _
  rw [RegisterAction.pure_bind]
  apply due_spares (Logs.ofExcept _)
  intro _
  exact due_firmwareReady registers clocks beforeWrites download

/-- the tries and what follows; induction on the tries that are left -/
theorem due_firmwareAttempts (firmwarePayload : List UInt8) (clocks : PollClocks) (beforeWrites : UInt64)
    (attempt attempts : ℕ) (download : FirmwareDownload) :
    Due τ (ClearedFrom cleared)
      (firmwareDownloadAttempts registers firmwarePayload clocks attempt attempts download >>=
        firmwareStart registers clocks beforeWrites)
      (firmwareAttemptsDue registers firmwarePayload clocks cleared attempt attempts download.downloadResult) := by
  induction attempts generalizing cleared attempt download with
  | zero => exact due_firmwareStart registers clocks beforeWrites download
  | succ attempts ih =>
    rw [firmwareDownloadAttempts, firmwareAttemptsDue]
    simp only [productionRmw8, RegisterAction.bind_assoc, Bool.false_eq_true, if_false]
    apply due_spares (spares_read8 registers _ _ _)
    intro before
    apply due_write8 registers
    intro _
    apply due_spares (spares_writeFirmwareImage registers _)
    intro written
    apply due_spares (spares_poll registers _ _ _ _ _ _ _ _).attempt
    intro outcome
    rcases outcome with error | ⟨checksumPollAttempts, value⟩
    · exact ih _ _
    · exact due_firmwareStart registers clocks beforeWrites _

/-- what follows the enabling write -/
def firmwareEnabled (firmwarePayload : List UInt8) (clocks : PollClocks) (beforeWrites : UInt64) :
    RegisterAction ProductionFirmwareStats := do
  let _ ← productionVerify8Readback registers "REG_MCUFWDL" regMcufwdl mcufwdlEn mcufwdlEn "firmware-download-enable"
  productionRmw8 registers "REG_MCUFWDL + 2" regMcufwdlPlus2 bit3 0 true "firmware-download-enable"
  let download ← firmwareDownloadAttempts registers firmwarePayload clocks 1 3 {}
  firmwareStart registers clocks beforeWrites download

/-- the sequence, cut behind the enabling write -/
theorem productionFirmwareSequence_eq (firmwarePayload : List UInt8) (clocks : PollClocks) :
    productionFirmwareSequence registers firmwarePayload clocks =
      RegisterAction.counters >>= fun beforeCounters => firmwareEnable registers >>= fun _ =>
        firmwareEnabled registers firmwarePayload clocks beforeCounters.usbControlWrites := by
  simp only [productionFirmwareSequence, firmwareEnable, firmwareEnabled, productionRmw8, RegisterAction.bind_assoc,
    if_true]
  rfl

/-- **Behind the enabling write.** Every write that sets the bit, this one included, is followed by one that clears it
iff no step fails while the bit is set, and the last write leaves it clear. -/
theorem due_firmwareDownload (firmwarePayload : List UInt8) (clocks : PollClocks) (beforeWrites : UInt64) :
    Due τ (ClearedFrom false) (firmwareEnabled registers firmwarePayload clocks beforeWrites)
      (firmwareClearDue registers firmwarePayload clocks) := by
  apply due_spares (spares_verify8 registers _ _ _ _ _)
  intro _
  apply due_spares (spares_rmw8 registers (by decide) _ _ _ _ _)
  intro _
  exact due_firmwareAttempts registers firmwarePayload clocks beforeWrites 1 3 {}

/-- up to the enabling write: if it is taken, it is the first transfer that sets the bit, and else there is none -/
theorem firmwareEnable_logged (s : RegisterRun (Logged τ)) :
    ∃ outcome s' before, (firmwareEnable registers).exec s = (outcome, s') ∧ (∀ t ∈ before, ¬SetsEnable t) ∧
      ((outcome = .ok () ∧ ∃ t, runLog s' = runLog s ++ before ++ [t] ∧ SetsEnable t) ∨
        ((∃ error, outcome = .error error) ∧ runLog s' = runLog s ++ before)) := by
  have hfirst : Logs τ (fun t => ¬SetsEnable t) (do
      productionFirmwarePreflightResetLoadedCode registers
      read8WithCounter registers regMcufwdl "REG_MCUFWDL" "firmware-download-enable") :=
    Logs.bind (preflight_not_sets registers) fun _ => (spares_read8 registers _ _ _).mono SparesMcufwdl.not_sets
  obtain ⟨before, hbefore, hunset⟩ := hfirst s
  have henable : firmwareEnable registers = (do
      productionFirmwarePreflightResetLoadedCode registers
      read8WithCounter registers regMcufwdl "REG_MCUFWDL" "firmware-download-enable") >>= fun byte =>
        write8WithCounter registers regMcufwdl ((byte &&& ~~~mcufwdlEn) ||| (mcufwdlEn &&& mcufwdlEn)) "REG_MCUFWDL"
          "firmware-download-enable" := by
    rw [RegisterAction.bind_assoc]
    rfl
  rw [henable, RegisterAction.exec_bind]
  rcases hrun : RegisterAction.exec (τ := Logged τ) (do
      productionFirmwarePreflightResetLoadedCode registers
      read8WithCounter registers regMcufwdl "REG_MCUFWDL" "firmware-download-enable") s with ⟨error | byte, s₁⟩
  · rw [hrun] at hbefore
    rw [Action.bind_of_error hrun]
    exact ⟨_, s₁, before, rfl, hunset, .inr ⟨⟨error, rfl⟩, hbefore⟩⟩
  · rw [hrun] at hbefore
    rw [Action.bind_of_ok hrun]
    obtain ⟨outcome, s', result, hwrite, hlog, h⟩ := write_logged registers
      (show RegisterWidth.expectedLen .u8 = [(byte &&& ~~~mcufwdlEn) ||| (mcufwdlEn &&& mcufwdlEn)].length from rfl)
      "REG_MCUFWDL" "firmware-download-enable" s₁
    rcases h with ⟨rfl, rfl⟩ | ⟨herror, hresult⟩
    · refine ⟨_, s', before, hwrite, hunset, .inl ⟨rfl, _, ?_, _, [], rfl, enable_sets byte⟩⟩
      rw [hlog]
      exact congrArg (· ++ _) hbefore
    · refine ⟨outcome, s', before ++ [.write regMcufwdl [(byte &&& ~~~mcufwdlEn) ||| (mcufwdlEn &&& mcufwdlEn)] result],
        hwrite, ?_, .inr ⟨herror, ?_⟩⟩
      · intro t ht
        rcases List.mem_append.1 ht with ht | ht
        · exact hunset t ht
        · rintro ⟨byte', rest, heq, -⟩
          rw [List.mem_singleton.1 ht] at heq
          injection heq with _ hdata hok
          obtain ⟨-, rfl⟩ := List.cons.inj hdata
          exact hresult hok
      · rw [hlog, ← List.append_assoc]
        exact congrArg (· ++ _) hbefore

/-- **Download and clean-up.** On every transport, a success of the sequence is a downloaded and started firmware, and
behind every write that sets the enable bit a write that clears it is tried, iff either the enabling write is not taken
or from it on no step fails while the bit is set and the last write of the register leaves it clear. -/
theorem firmwareDownload_iff (firmwarePayload : List UInt8) (clocks : PollClocks) (s : RegisterRun τ) :
    ((∀ stats, ((productionFirmwareSequence registers firmwarePayload clocks).exec s.logged).1 = .ok stats →
        FirmwareStarted firmwarePayload
          (runLog ((productionFirmwareSequence registers firmwarePayload clocks).exec s.logged).2)) ∧
      EnableCleared (runLog ((productionFirmwareSequence registers firmwarePayload clocks).exec s.logged).2)) ↔
      ∀ enabled, (firmwareEnable registers).exec s = (.ok (), enabled) →
        ∃ cleared, (firmwareClearDue registers firmwarePayload clocks).exec enabled = (.ok (), cleared) := by
  have hsound (stats : ProductionFirmwareStats)
      (hok : ((productionFirmwareSequence registers firmwarePayload clocks).exec s.logged).1 = .ok stats) :
      FirmwareStarted firmwarePayload
        (runLog ((productionFirmwareSequence registers firmwarePayload clocks).exec s.logged).2) := by
    obtain ⟨transfers, hlog, hstarted⟩ :=
      firmwareStarted_of_ok registers firmwarePayload clocks s.logged stats _ (Prod.ext hok rfl)
    rw [hlog]
    exact hstarted
  rw [and_iff_right hsound, productionFirmwareSequence_eq, RegisterAction.exec_bind, RegisterAction.exec_counters,
    Action.bind_of_ok (Action.read_run _ _), RegisterAction.exec_bind]
  obtain ⟨outcome, s₁, before, hrun, hunset, h⟩ := firmwareEnable_logged registers s.logged
  have hbare : (firmwareEnable registers).exec s = (outcome, s₁.bare) := by
    have h := exec_bare (firmwareEnable registers) s.logged
    rwa [hrun] at h
  rcases h with ⟨rfl, t, hlog, hset⟩ | ⟨⟨error, rfl⟩, hlog⟩
  · rw [Action.bind_of_ok hrun]
    obtain ⟨after, hafter, hiff⟩ :=
      due_firmwareDownload registers firmwarePayload clocks s.counters.usbControlWrites s₁
    have hall : runLog ((firmwareEnabled registers firmwarePayload clocks s.counters.usbControlWrites).exec s₁).2
        = before ++ t :: after := by
      rw [hafter, hlog, List.append_assoc]
      rfl
    refine Iff.trans (by rw [← enableCleared_iff hset hunset, ← hall]; rfl) (hiff.trans ?_)
    constructor
    · rintro hdue enabled henabled
      obtain ⟨-, rfl⟩ := Prod.ext_iff.1 (hbare.symm.trans henabled)
      exact hdue
    · intro hdue
      exact hdue _ hbare
  · rw [Action.bind_of_error hrun]
    refine iff_of_true (enableCleared_of_unset ?_) fun enabled henabled => ?_
    · rw [hlog]
      exact hunset
    · cases (Prod.ext_iff.1 (hbare.symm.trans henabled)).1

/-- the device takes the enabling write, and then its next transfer fails -/
def failingBehindEnable : RegisterRun (FaultyDevice PlainRegisters) where
  transport :=
    { file := { cells := fun _ => 0 }, failing := fun n => if n = 3 then some .deviceDisappeared else none }
  counters := {}

/-- reading the bit back fails, and the download stays enabled -/
theorem enable_kept_after_failure :
    ¬EnableCleared (runLog ((productionFirmwareSequence {} [0x11] steadyClocks).exec failingBehindEnable.logged).2) := by
  have hlog : runLog ((productionFirmwareSequence {} [0x11] steadyClocks).exec failingBehindEnable.logged).2
      = [.read regMcufwdl [0] (.ok 1), .read regMcufwdl [0] (.ok 1)] ++
          .write regMcufwdl [mcufwdlEn] (.ok 1) :: [.read regMcufwdl [0] (.error .deviceDisappeared)] := rfl
  have hset : SetsEnable (.write regMcufwdl [mcufwdlEn] (.ok 1)) := ⟨mcufwdlEn, [], rfl, by decide⟩
  rw [hlog, enableCleared_iff hset (by simp [SetsEnable])]
  simp [ClearedFrom, ClearsEnable]

end Follow

end WfbLink.Runtime
