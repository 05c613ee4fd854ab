/-
The firmware phase of the init sequence (`production_firmware_sequence`).

The download is enabled, tried at most three times, and disabled; then the firmware is started and has to report that it
is ready. A failed checksum poll leads to the next try. Any other failure in between leaves the function at once, and
then the download stays enabled.

- `firmwareStarted_of_ok`: a success means that the image was written, its checksum reported, and the firmware started.
-/
import WfbLink.Runtime.FirmwareDownload

namespace WfbLink.Runtime

open WfbLink.Core WfbLink.RadioCore

/-! ## Registers -/

def regRsvCtrl : UInt16 := 0x001c
def regSysFuncEnPlus1 : UInt16 := 0x0003
def mcufwdlEn : UInt8 := (1 : UInt8) <<< 0
def mcufwdlRdy : UInt32 := (1 : UInt32) <<< 1
def fwdlChksumRptU8 : UInt8 := (1 : UInt8) <<< 2
def fwdlChksumRptU32 : UInt32 := (1 : UInt32) <<< 2
def wintiniRdy : UInt32 := (1 : UInt32) <<< 6
def ramDlSel : UInt8 := (1 : UInt8) <<< 7
def bit1 : UInt8 := (1 : UInt8) <<< 1
def bit2 : UInt8 := (1 : UInt8) <<< 2
def bit3 : UInt8 := (1 : UInt8) <<< 3

/-! ## The sequence -/

structure ProductionFirmwareStats where
  bytesWritten : UInt64
  controlWrites : UInt64
  checksumPollAttempts : UInt32
  readyPollAttempts : UInt32
deriving DecidableEq, Repr

section Sequence

variable (registers : Rtl8812auRegisterAccess)

def productionFirmware8051Reset8812 : RegisterAction Unit := do
  productionRmw8 registers "REG_RSV_CTRL" regRsvCtrl bit1 0 true "firmware-8051-reset"
  productionRmw8 registers "REG_RSV_CTRL + 1" (regRsvCtrl + 1) bit3 0 true "firmware-8051-reset"
  let sysFunc ← read8WithCounter registers regSysFuncEnPlus1 "REG_SYS_FUNC_EN + 1" "firmware-8051-reset"
  productionWrite8Verify registers "REG_SYS_FUNC_EN + 1" regSysFuncEnPlus1 (sysFunc &&& ~~~bit2) bit2 0
    "firmware-8051-reset"
  productionRmw8 registers "REG_RSV_CTRL" regRsvCtrl bit1 0 true "firmware-8051-reset"
  productionRmw8 registers "REG_RSV_CTRL + 1" (regRsvCtrl + 1) bit3 bit3 true "firmware-8051-reset"
  productionWrite8Verify registers "REG_SYS_FUNC_EN + 1" regSysFuncEnPlus1 (sysFunc ||| bit2) bit2 bit2
    "firmware-8051-reset"

def productionFirmwarePreflightResetLoadedCode : RegisterAction Unit := do
  let value ← read8WithCounter registers regMcufwdl "REG_MCUFWDL" "firmware-preflight"
  if value &&& ramDlSel = 0 then return ()
  else
    productionWrite8Verify registers "REG_MCUFWDL" regMcufwdl 0 ramDlSel 0 "firmware-preflight"
    productionFirmware8051Reset8812 registers

structure FirmwareDownload where
  bytesWritten : UInt64 := 0
  checksumPollAttempts : UInt32 := 0
  downloadResult : Except RuntimeRadioError Unit :=
    .error (.new "firmware_download_not_started" "firmware download loop did not run")

/-- microseconds -/
def checksumPollDelay : ℕ := 1000

/-- the polls of a run have clocks of their own; number 0 is that of the poll for the started firmware -/
abbrev PollClocks : Type := ℕ → PollClock checksumPollDelay

/-- clocks that run with the sleeps -/
def steadyClocks : PollClocks := fun _ =>
  { elapsed := fun n => n * checksumPollDelay
    delay_pos := by decide
    sleeps := fun n => Nat.mul_le_mul_right _ (Nat.le_succ n) }

def firmwareChecksumPoll (clock : PollClock checksumPollDelay) : RegisterAction (UInt32 × UInt32) :=
  productionPoll32Min registers "REG_MCUFWDL" regMcufwdl fwdlChksumRptU32 fwdlChksumRptU32 5 50000 clock

/-- the tries that are left, from try number `attempt` on -/
def firmwareDownloadAttempts (firmwarePayload : List UInt8) (clocks : PollClocks) :
    ℕ → ℕ → FirmwareDownload → RegisterAction FirmwareDownload
  | _, 0, download => return download
  | attempt, attempts + 1, download => do
    productionRmw8 registers "REG_MCUFWDL" regMcufwdl fwdlChksumRptU8 fwdlChksumRptU8 false "firmware-download"
    let written ← productionWriteFirmwareImage registers firmwarePayload
    let bytesWritten := satAdd download.bytesWritten written
    match ← (firmwareChecksumPoll registers (clocks attempt)).attempt with
    | .ok (checksumPollAttempts, _) => return { bytesWritten, checksumPollAttempts, downloadResult := .ok () }
    | .error error =>
      firmwareDownloadAttempts firmwarePayload clocks (attempt + 1) attempts
        { download with bytesWritten, downloadResult := .error error }

def firmwareDisable : RegisterAction Unit :=
  productionRmw8 registers "REG_MCUFWDL" regMcufwdl mcufwdlEn 0 true "firmware-download-disable"

/-- what follows the tries -/
def firmwareStart (clocks : PollClocks) (beforeWrites : UInt64) (download : FirmwareDownload) :
    RegisterAction ProductionFirmwareStats := do
  let disableResult ← (firmwareDisable registers).attempt
  RegisterAction.ofExcept download.downloadResult
  RegisterAction.ofExcept disableResult
  let before ← read32WithCounter registers regMcufwdl "REG_MCUFWDL" "firmware-ready"
  let written := (before ||| mcufwdlRdy) &&& ~~~wintiniRdy
  productionWrite32Verify registers "REG_MCUFWDL" regMcufwdl written 0 0 "firmware-ready"
  productionFirmware8051Reset8812 registers
  let (readyPollAttempts, _) ← productionPoll32Min registers "REG_MCUFWDL" regMcufwdl wintiniRdy wintiniRdy 10 200000
    (clocks 0)
  let counters ← RegisterAction.counters
  return {
    bytesWritten := download.bytesWritten
    controlWrites := satSub counters.usbControlWrites beforeWrites
    checksumPollAttempts := download.checksumPollAttempts
    readyPollAttempts }

def productionFirmwareSequence (firmwarePayload : List UInt8) (clocks : PollClocks) :
    RegisterAction ProductionFirmwareStats := do
  let beforeCounters ← RegisterAction.counters
  productionFirmwarePreflightResetLoadedCode registers
  productionRmw8 registers "REG_MCUFWDL" regMcufwdl mcufwdlEn mcufwdlEn true "firmware-download-enable"
  productionRmw8 registers "REG_MCUFWDL + 2" regMcufwdlPlus2 bit3 0 true "firmware-download-enable"
  let download ← firmwareDownloadAttempts registers firmwarePayload clocks 1 3 {}
  firmwareStart registers clocks beforeCounters.usbControlWrites download

end Sequence

/-! ## A written image -/

/-- the bytes a transfer sends to the download window -/
def windowBytes : RegisterTransfer → List UInt8
  | .read _ _ _ => []
  | .write address data _ => if fwStartAddress ≤ address then data else []

/-- every transfer was answered in full, and together they sent these bytes to the window -/
def Takes (data : List UInt8) (transfers : List RegisterTransfer) : Prop :=
  (∀ t ∈ transfers, t.Answered) ∧ transfers.flatMap windowBytes = data

theorem Takes.nil : Takes [] [] := ⟨fun _ ht => absurd ht List.not_mem_nil, rfl⟩

theorem Takes.single {t : RegisterTransfer} (ht : t.Answered) : Takes (windowBytes t) [t] :=
  ⟨fun _ h => List.mem_singleton.1 h ▸ ht, List.append_nil _⟩

theorem Takes.append {front back : List UInt8} {earlier later : List RegisterTransfer} (h : Takes front earlier)
    (h' : Takes back later) : Takes (front ++ back) (earlier ++ later) := by
  refine ⟨fun t ht => ?_, by rw [List.flatMap_append, h.2, h'.2]⟩
  rcases List.mem_append.1 ht with ht | ht
  · exact h.1 t ht
  · exact h'.1 t ht

section Sound

variable {τ : Type} [Rtl8812auUsbTransport τ] (registers : Rtl8812auRegisterAccess)

theorem takes_read8 (address : UInt16) (registerName phase : String) :
    OkLogs τ (read8WithCounter registers address registerName phase) fun _ => Takes [] :=
  OkLogs.read8 registers address _ fun _ hdata => Takes.single (by rw [RegisterTransfer.Answered, hdata])

/-- reading back; induction on the attempts that are left -/
theorem takes_verifyReadback (address : UInt16) (registerName phase : String) (masked : UInt8 → UInt8)
    (expected : UInt8) (mismatch : UInt8 → RuntimeRadioError) (attempts : ℕ) (actual : UInt8) :
    OkLogs τ (verifyReadback (read8WithCounter registers address registerName phase) masked expected mismatch attempts
      actual) fun _ => Takes [] := by
  induction attempts generalizing actual with
  | zero => exact OkLogs.fail _
  | succ attempts ih =>
    apply OkLogs.bind (takes_read8 registers address registerName phase)
    intro after
    split
    · exact OkLogs.pure fun earlier h => by rwa [List.append_nil]
    · exact (ih _).weaken fun _ later h earlier h' => h'.append h

theorem takes_rmw8 {address : UInt16} (haddress : ¬fwStartAddress ≤ address) (registerName phase : String)
    (mask value : UInt8) (shouldVerify : Bool) :
    OkLogs τ (productionRmw8 registers registerName address mask value shouldVerify phase) fun _ => Takes [] := by
  apply OkLogs.bind (takes_read8 registers address registerName phase)
  intro before
  have hwrite : OkLogs τ (write8WithCounter registers address ((before &&& ~~~mask) ||| (value &&& mask)) registerName
      phase) fun _ => Takes [] := by
    apply OkLogs.writeAll registers address .u8 _ rfl
    have h := Takes.single (show (RegisterTransfer.write address [(before &&& ~~~mask) ||| (value &&& mask)]
      (.ok 1)).Answered from rfl)
    rwa [windowBytes, if_neg haddress] at h
  apply OkLogs.bind hwrite
  intro _
  split
  · refine OkLogs.bind (takes_verifyReadback registers address registerName phase _ _ _ _ _) fun _ => ?_
    apply OkLogs.pure
    intro verified hverified written hwritten earlier hearlier
    rw [List.append_nil]
    exact hearlier.append (hwritten.append hverified)
  · apply OkLogs.pure
    intro written hwritten earlier hearlier
    rw [List.append_nil]
    exact hearlier.append hwritten

theorem takes_writeData {start : ℕ} {data : List UInt8} (hend : start + data.length ≤ maxDlfwPageSize) :
    OkLogs τ (productionFirmwareWriteData registers start data) fun _ => Takes data := by
  have hstart : start ≤ maxDlfwPageSize := Nat.le_of_add_right_le hend
  have hwindow : fwStartAddress ≤ fwStartAddress + UInt16.ofNat start := by
    rw [UInt16.le_iff_toNat_le, windowAddress_toNat hstart]
    exact Nat.le_add_right _ _
  have htakes (data : List UInt8) :
      Takes data [.write (fwStartAddress + UInt16.ofNat start) data (.ok data.length)] := by
    have h := Takes.single (show (RegisterTransfer.write (fwStartAddress + UInt16.ofNat start) data
      (.ok data.length)).Answered from rfl)
    rwa [windowBytes, if_pos hwindow] at h
  have hblock (data : List UInt8) (error : Rtl8812auRegisterError → RuntimeRadioError) :
      OkLogs τ (writeBlockWithCustomError registers (fwStartAddress + UInt16.ofNat start) data error)
        fun _ => Takes data := by
    have hwrite : OkLogs τ (RegisterAction.access (registers.writeBlock (fwStartAddress + UInt16.ofNat start) data)
        error) fun _ => Takes data :=
      OkLogs.access_writeAll registers _ (.block data.length) data rfl error (htakes data)
    apply OkLogs.bind hwrite
    intro _
    apply OkLogs.modifyCounters
    intro earlier h
    rwa [List.append_nil]
  rw [productionFirmwareWriteData_of_le registers hstart]
  rcases data with _ | ⟨byte, _ | ⟨byte', data⟩⟩
  · exact hblock _ _
  · exact OkLogs.writeAll registers _ .u8 [byte] rfl _ (htakes [byte])
  · exact hblock _ _

/-- the relation holds of the whole if it holds of the parts -/
structure Joins {β : Type} (R : List β → List RegisterTransfer → Prop) : Prop where
  nil : R [] []
  append : ∀ {front back earlier later}, R front earlier → R back later → R (front ++ back) (earlier ++ later)

theorem Takes.joins : Joins Takes := ⟨Takes.nil, Takes.append⟩

/-- the blocks of a page with their offsets: full blocks, short blocks, and single bytes -/
def pageParts (data : List UInt8) : List (ℕ × List UInt8) :=
  let fullBlockLen := data.length / maxRegBlockSize * maxRegBlockSize
  let remainder := data.drop fullBlockLen
  let remainderBlockLen := remainder.length / firmwareRemainderBlockSize * firmwareRemainderBlockSize
  ((chunks maxRegBlockSize (data.take fullBlockLen)).zipIdx.map fun e => (0 + e.2 * maxRegBlockSize, e.1)) ++
    ((chunks firmwareRemainderBlockSize (remainder.take remainderBlockLen)).zipIdx.map fun e =>
      (fullBlockLen + e.2 * firmwareRemainderBlockSize, e.1)) ++
    (remainder.drop remainderBlockLen).zipIdx.map fun e => (fullBlockLen + remainderBlockLen + e.2, [e.1])

theorem zipIdx_flatMap_fst {α β : Type} (parts : List α) (k : ℕ) (f : α → List β) :
    ((parts.zipIdx k).flatMap fun e => f e.1) = parts.flatMap f := by
  conv_rhs => rw [← List.zipIdx_map_fst k parts, List.flatMap_map]

theorem pageParts_flatten (data : List UInt8) : (pageParts data).flatMap Prod.snd = data := by
  simp only [pageParts, List.flatMap_append, List.flatMap_map]
  rw [zipIdx_flatMap_fst _ 0 fun block => block, zipIdx_flatMap_fst _ 0 fun block => block,
    zipIdx_flatMap_fst _ 0 fun byte => [byte], List.flatMap_singleton', List.flatMap_id', List.flatMap_id',
    flatten_chunks (by decide), flatten_chunks (by decide), List.append_assoc, List.take_append_drop,
    List.take_append_drop]

section Parts

variable {β : Type} {R : List β → List RegisterTransfer → Prop} (hjoins : Joins R)
include hjoins

/-- the parts one after the other; induction on the parts -/
theorem joins_forEnumerate {α : Type} (body : ℕ → α → RegisterAction UInt64) (place : ℕ → α → List β)
    (parts : List α) (number : ℕ)
    (hbody : ∀ e ∈ parts.zipIdx number, OkLogs τ (body e.2 e.1) fun _ => R (place e.2 e.1)) (total : UInt64) :
    OkLogs τ (forEnumerate body number parts total) fun _ => R ((parts.zipIdx number).flatMap fun e => place e.2 e.1) := by
  induction parts generalizing number total with
  | nil => exact OkLogs.pure hjoins.nil
  | cons part parts ih =>
    rw [List.zipIdx_cons] at hbody
    apply OkLogs.bind (hbody (part, number) List.mem_cons_self)
    intro written
    refine (ih (number + 1) (fun e he => hbody e (List.mem_cons_of_mem _ he)) _).weaken ?_
    intro _ later h earlier h'
    rw [List.zipIdx_cons, List.flatMap_cons]
    exact hjoins.append h' h

variable {cell : ℕ → List UInt8 → List β}
  (hwrite : ∀ {start : ℕ} {data : List UInt8}, start + data.length ≤ maxDlfwPageSize →
    OkLogs τ (productionFirmwareWriteData registers start data) fun _ => R (cell start data))
include hwrite

omit hjoins in
/-- one part, and its length -/
theorem joins_writeData_pure {start : ℕ} {data : List UInt8} (hend : start + data.length ≤ maxDlfwPageSize)
    (n : UInt64) :
    OkLogs τ (do productionFirmwareWriteData registers start data; return n) fun _ => R (cell start data) := by
  apply OkLogs.bind (hwrite hend)
  intro _
  apply OkLogs.pure
  intro earlier h
  rwa [List.append_nil]

theorem joins_writeFirmwareBlocks (start size : ℕ) (hsize : 0 < size) (data : List UInt8)
    (hend : start + data.length ≤ maxDlfwPageSize) (bytesWritten : UInt64) :
    OkLogs τ (writeFirmwareBlocks registers start size data bytesWritten)
      fun _ => R ((chunks size data).zipIdx.flatMap fun e => cell (start + e.2 * size) e.1) := by
  apply joins_forEnumerate hjoins (fun number block => do
      productionFirmwareWriteData registers (start + number * size) block
      return u64Sat block.length) fun number block => cell (start + number * size) block
  intro e he
  have hbound := chunks_bound hsize data 0 e he
  exact joins_writeData_pure registers hwrite (by omega) _

/-- **One page.** It leaves what its parts leave. -/
theorem joins_writeFirmwarePage {data : List UInt8} (hlen : data.length ≤ maxDlfwPageSize) :
    OkLogs τ (productionWriteFirmwarePage registers data)
      fun _ => R ((pageParts data).flatMap fun part => cell part.1 part.2) := by
  have hfull : data.length / maxRegBlockSize * maxRegBlockSize ≤ data.length := Nat.div_mul_le_self _ _
  simp only [productionWriteFirmwarePage, pageParts, List.flatMap_append, List.flatMap_map]
  generalize data.length / maxRegBlockSize * maxRegBlockSize = fullBlockLen at hfull
  have hrest : (data.drop fullBlockLen).length / firmwareRemainderBlockSize * firmwareRemainderBlockSize
      ≤ (data.drop fullBlockLen).length := Nat.div_mul_le_self _ _
  generalize (data.drop fullBlockLen).length / firmwareRemainderBlockSize * firmwareRemainderBlockSize
    = remainderBlockLen at hrest
  have hdrop : (data.drop fullBlockLen).length = data.length - fullBlockLen := List.length_drop
  have htake : (data.take fullBlockLen).length = fullBlockLen := List.length_take_of_le hfull
  have htake' : ((data.drop fullBlockLen).take remainderBlockLen).length = remainderBlockLen :=
    List.length_take_of_le hrest
  apply OkLogs.bind (joins_writeFirmwareBlocks registers hjoins hwrite 0 maxRegBlockSize (by decide) _ (by omega) 0)
  intro written
  apply OkLogs.bind (joins_writeFirmwareBlocks registers hjoins hwrite fullBlockLen firmwareRemainderBlockSize
    (by decide) _ (by omega) written)
  intro written
  have hbytes := joins_forEnumerate (τ := τ) hjoins (fun number byte => do
      productionFirmwareWriteData registers (fullBlockLen + remainderBlockLen + number) [byte]
      return 1) (fun number byte => cell (fullBlockLen + remainderBlockLen + number) [byte])
    ((data.drop fullBlockLen).drop remainderBlockLen) 0 ?_ written
  · refine hbytes.weaken ?_
    intro _ singles hsingles short hshort full hfullTransfers
    rw [← List.append_assoc]
    exact hjoins.append (hjoins.append hfullTransfers hshort) hsingles
  · intro e he
    have hindex := List.snd_lt_of_mem_zipIdx he
    simp only [List.length_drop] at hindex
    exact joins_writeData_pure registers hwrite (by rw [List.length_singleton]; omega) _

/-- **An image.** Every page leaves what its selection and its parts leave. -/
theorem joins_writeFirmwareImage {selected : ℕ → List β}
    (hselect : ∀ page, OkLogs τ (productionRmw8 registers "REG_MCUFWDL + 2" regMcufwdlPlus2 0x07
      (UInt8.ofNat page &&& 0x07) true "firmware-download") fun _ => R (selected page))
    (firmwarePayload : List UInt8) :
    OkLogs τ (productionWriteFirmwareImage registers firmwarePayload) fun _ =>
      R ((chunks maxDlfwPageSize firmwarePayload).zipIdx.flatMap fun e =>
        selected e.2 ++ (pageParts e.1).flatMap fun part => cell part.1 part.2) := by
  apply joins_forEnumerate hjoins (fun page chunk => do
      productionRmw8 registers "REG_MCUFWDL + 2" regMcufwdlPlus2 0x07 (UInt8.ofNat page &&& 0x07) true
        "firmware-download"
      productionWriteFirmwarePage registers chunk) fun page chunk =>
        selected page ++ (pageParts chunk).flatMap fun part => cell part.1 part.2
  intro e he
  apply OkLogs.bind (hselect e.2)
  intro _
  refine (joins_writeFirmwarePage registers hjoins hwrite (chunks_bound (by decide) firmwarePayload 0 e he).1).weaken ?_
  intro _ later h earlier h'
  exact hjoins.append h' h

end Parts

/-- **A written image.** If the image goes through, every transfer was answered and the window got the payload. -/
theorem takes_writeFirmwareImage (firmwarePayload : List UInt8) :
    OkLogs τ (productionWriteFirmwareImage registers firmwarePayload) fun _ => Takes firmwarePayload := by
  have h := joins_writeFirmwareImage (τ := τ) registers Takes.joins (fun hend => takes_writeData registers hend)
    (fun page => takes_rmw8 registers (by decide) _ _ _ _ _) firmwarePayload
  simp only [List.nil_append, pageParts_flatten] at h
  rwa [zipIdx_flatMap_fst _ 0 fun chunk => chunk, List.flatMap_id', flatten_chunks (by decide)] at h

/-! ## A started firmware -/

/-- the transfer is a read of all four bytes that shows the bits -/
def Shows (address : UInt16) (mask expected : UInt32) (t : RegisterTransfer) : Prop :=
  ∃ data, t = .read address data (.ok 4) ∧ data.length = 4 ∧ UInt32.ofNat (fromLeBytes data) &&& mask = expected &&& mask

/-- a poll that succeeds ends with a read that shows the bits -/
theorem shows_poll {delay : ℕ} (registerName : String) (address : UInt16) (mask expected minAttempts : UInt32)
    (timeout : ℕ) (clock : PollClock delay) (n : ℕ) :
    OkLogs τ (productionPoll32MinFrom registers registerName address mask expected minAttempts timeout clock n)
      fun _ transfers => ∃ earlier report, transfers = earlier ++ [report] ∧ Shows address mask expected report := by
  apply poll_induct (pollLimit minAttempts.toNat timeout delay) ?_ n
  intro n ih
  rw [productionPoll32MinFrom]
  have hread : OkLogs τ (read32WithCounter registers address registerName "poll32") fun value transfers =>
      ∃ data, transfers = [.read address data (.ok 4)] ∧ data.length = 4 ∧ value = UInt32.ofNat (fromLeBytes data) :=
    OkLogs.read32 registers address _ fun data hdata => ⟨data, rfl, hdata, rfl⟩
  apply OkLogs.bind hread
  intro value
  split
  · rename_i hvalue
    apply OkLogs.pure
    rintro earlier ⟨data, rfl, hdata, rfl⟩
    exact ⟨[], _, rfl, data, rfl, hdata, hvalue⟩
  · split
    · exact OkLogs.fail _
    · rename_i hclock
      refine (ih (lt_pollLimit clock hclock)).weaken ?_
      rintro _ _ ⟨earlier, report, rfl, hshows⟩ first -
      exact ⟨first ++ earlier, report, (List.append_assoc _ _ _).symm, hshows⟩

/-- a try that wrote the payload -/
def Tried (firmwarePayload : List UInt8) (transfers : List RegisterTransfer) : Prop :=
  ∃ before image after, transfers = before ++ image ++ after ∧ Takes firmwarePayload image

/-- after fewer than `tries` tries, a try that wrote the payload, and behind it the report of the checksum -/
def Downloaded (firmwarePayload : List UInt8) (tries : ℕ) (transfers : List RegisterTransfer) : Prop :=
  ∃ (failed : List (List RegisterTransfer)) (image polls : List RegisterTransfer) (before : List RegisterTransfer)
    (report : RegisterTransfer),
    transfers = failed.flatten ++ (before ++ (image ++ (polls ++ [report]))) ∧ failed.length < tries ∧
      (∀ t ∈ failed, Tried firmwarePayload t) ∧ Takes firmwarePayload image ∧
      Shows regMcufwdl fwdlChksumRptU32 fwdlChksumRptU32 report

/-- the tries; induction on how many are left -/
theorem downloaded_attempts (firmwarePayload : List UInt8) (clocks : PollClocks) (attempt attempts : ℕ)
    (download : FirmwareDownload) (hnot : download.downloadResult ≠ .ok ()) :
    OkLogs τ (firmwareDownloadAttempts registers firmwarePayload clocks attempt attempts download)
      fun result transfers => result.downloadResult = .ok () → Downloaded firmwarePayload attempts transfers := by
  induction attempts generalizing attempt download with
  | zero => exact OkLogs.pure fun h => absurd h hnot
  | succ attempts ih =>
    rw [firmwareDownloadAttempts]
    apply OkLogs.bind (OkLogs.any _)
    intro _
    apply OkLogs.bind (takes_writeFirmwareImage registers firmwarePayload)
    intro written
    apply OkLogs.bind (shows_poll registers _ _ _ _ _ _ _ _).attempt
    intro outcome
    rcases outcome with error | ⟨checksumPollAttempts, value⟩
    · have hnext := ih (attempt + 1) { download with
        bytesWritten := satAdd download.bytesWritten written, downloadResult := .error error } nofun
      refine hnext.weaken ?_
      intro result later hlater polls _ image himage before _ hok
      obtain ⟨failed, image', polls', before', report, rfl, hlen, hfailed, himage', hreport⟩ := hlater hok
      refine ⟨(before ++ (image ++ polls)) :: failed, image', polls', before', report, ?_, Nat.succ_lt_succ hlen, ?_,
        himage', hreport⟩
      · simp only [List.flatten_cons, List.append_assoc]
      · intro t ht
        rcases List.mem_cons.1 ht with rfl | ht
        · exact ⟨before, image, polls, (List.append_assoc _ _ _).symm, himage⟩
        · exact hfailed t ht
    · apply OkLogs.pure
      intro polls hpolls image himage before _ _
      obtain ⟨earlier, report, rfl, hreport⟩ := hpolls _ rfl
      refine ⟨[], image, earlier, before, report, ?_, Nat.succ_pos _, fun t ht => absurd ht List.not_mem_nil, himage,
        hreport⟩
      rw [List.append_nil]
      rfl

/-- the 8051 was stopped, and later started again -/
def Resets (transfers : List RegisterTransfer) : Prop :=
  ∃ before stop between start after, transfers =
      before ++ (.write regSysFuncEnPlus1 [stop] (.ok 1) :: between) ++
        (.write regSysFuncEnPlus1 [start] (.ok 1) :: after) ∧
    stop &&& bit2 = 0 ∧ start &&& bit2 ≠ 0

/-- a checked write starts with the write -/
theorem writes_write8Verify (registerName : String) (address : UInt16) (value verifyMask verifyValue : UInt8)
    (phase : String) :
    OkLogs τ (productionWrite8Verify registers registerName address value verifyMask verifyValue phase)
      fun _ transfers => ∃ later, transfers = .write address [value] (.ok 1) :: later := by
  have hwrite : OkLogs τ (write8WithCounter registers address value registerName phase)
      fun _ transfers => transfers = [.write address [value] (.ok 1)] :=
    OkLogs.writeAll registers address .u8 [value] rfl _ rfl
  apply OkLogs.bind hwrite
  intro _
  refine (OkLogs.any _).weaken ?_
  rintro _ later - _ rfl
  exact ⟨later, rfl⟩

theorem stop_bit (sysFunc : UInt8) : (sysFunc &&& ~~~bit2) &&& bit2 = 0 := by
  rw [UInt8.and_assoc, show ~~~bit2 &&& bit2 = 0 by decide, UInt8.and_zero]

theorem start_bit (sysFunc : UInt8) : (sysFunc ||| bit2) &&& bit2 ≠ 0 := by
  have hbit : (sysFunc ||| bit2) &&& bit2 = bit2 := by
    apply UInt8.eq_of_toBitVec_eq
    ext i hi
    simp only [UInt8.toBitVec_and, UInt8.toBitVec_or, BitVec.getElem_and, BitVec.getElem_or]
    cases sysFunc.toBitVec[i] <;> cases bit2.toBitVec[i] <;> rfl
  rw [hbit]
  decide

theorem resets_8051 : OkLogs τ (productionFirmware8051Reset8812 registers) fun _ => Resets := by
  apply OkLogs.bind (OkLogs.any _)
  intro _
  apply OkLogs.bind (OkLogs.any _)
  intro _
  apply OkLogs.bind (OkLogs.any _)
  intro sysFunc
  apply OkLogs.bind (writes_write8Verify registers _ _ _ _ _ _)
  intro _
  apply OkLogs.bind (OkLogs.any _)
  intro _
  apply OkLogs.bind (OkLogs.any _)
  intro _
  refine (writes_write8Verify registers _ _ _ _ _ _).weaken ?_
  rintro _ _ ⟨after, rfl⟩ third - second - _ ⟨between, rfl⟩ read - e₂ - e₁ -
  refine ⟨e₁ ++ (e₂ ++ read), sysFunc &&& ~~~bit2, between ++ (second ++ third), sysFunc ||| bit2, after, ?_,
    stop_bit sysFunc, start_bit sysFunc⟩
  simp only [List.append_assoc, List.cons_append]

/-- the download-ready bit was set -/
def SetsReady (t : RegisterTransfer) : Prop :=
  ∃ value : UInt32, t = .write regMcufwdl (toLeU32 value.toNat) (.ok 4) ∧ value &&& mcufwdlRdy = mcufwdlRdy

/-- the whole story of a firmware that was downloaded and started, in order -/
def FirmwareStarted (firmwarePayload : List UInt8) (transfers : List RegisterTransfer) : Prop :=
  ∃ (enable tries disable : List RegisterTransfer) (ready : RegisterTransfer) (reset polls : List RegisterTransfer)
    (report : RegisterTransfer),
    transfers = enable ++ (tries ++ (disable ++ ([ready] ++ (reset ++ (polls ++ [report]))))) ∧
      Downloaded firmwarePayload 3 tries ∧ SetsReady ready ∧ Resets reset ∧
      Shows regMcufwdl wintiniRdy wintiniRdy report

theorem ready_bit (before : UInt32) : ((before ||| mcufwdlRdy) &&& ~~~wintiniRdy) &&& mcufwdlRdy = mcufwdlRdy := by
  rw [UInt32.and_assoc, show ~~~wintiniRdy &&& mcufwdlRdy = mcufwdlRdy by decide]
  apply UInt32.eq_of_toBitVec_eq
  ext i hi
  simp only [UInt32.toBitVec_and, UInt32.toBitVec_or, BitVec.getElem_and, BitVec.getElem_or]
  cases before.toBitVec[i] <;> cases mcufwdlRdy.toBitVec[i] <;> rfl

/-- what follows the tries succeeds only behind a download that succeeded -/
theorem started_firmwareStart (clocks : PollClocks) (beforeWrites : UInt64) (download : FirmwareDownload) :
    OkLogs τ (firmwareStart registers clocks beforeWrites download) fun _ transfers =>
      download.downloadResult = .ok () ∧ ∃ disable ready reset polls report,
        transfers = disable ++ ([ready] ++ (reset ++ (polls ++ [report]))) ∧ SetsReady ready ∧ Resets reset ∧
          Shows regMcufwdl wintiniRdy wintiniRdy report := by
  apply OkLogs.bind (OkLogs.any _)
  intro disableResult
  have hdownload : OkLogs τ (RegisterAction.ofExcept download.downloadResult) fun _ transfers =>
      download.downloadResult = .ok () ∧ transfers = [] := OkLogs.ofExcept fun _ h => ⟨h, rfl⟩
  apply OkLogs.bind hdownload
  intro _
  apply OkLogs.bind (OkLogs.any _)
  intro _
  apply OkLogs.bind (OkLogs.any _)
  intro before
  have hready : OkLogs τ (productionWrite32Verify registers "REG_MCUFWDL" regMcufwdl
      ((before ||| mcufwdlRdy) &&& ~~~wintiniRdy) 0 0 "firmware-ready") fun _ transfers =>
        ∃ ready, transfers = [ready] ∧ SetsReady ready := by
    have hwrite : OkLogs τ (write32WithCounter registers regMcufwdl ((before ||| mcufwdlRdy) &&& ~~~wintiniRdy)
        "REG_MCUFWDL" "firmware-ready") fun _ transfers =>
          transfers = [.write regMcufwdl (toLeU32 ((before ||| mcufwdlRdy) &&& ~~~wintiniRdy).toNat) (.ok 4)] :=
      OkLogs.writeAll registers regMcufwdl .u32 _ rfl _ rfl
    apply OkLogs.bind hwrite
    intro _
    apply OkLogs.pure
    rintro _ rfl
    exact ⟨_, rfl, _, rfl, ready_bit before⟩
  apply OkLogs.bind hready
  intro _
  apply OkLogs.bind (resets_8051 registers)
  intro _
  apply OkLogs.bind (shows_poll registers _ _ _ _ _ _ _ _)
  intro ready
  apply OkLogs.bind (OkLogs.counters (P := fun _ transfers => transfers = []) fun _ => rfl)
  intro counters
  apply OkLogs.pure
  rintro _ rfl _ ⟨polls, report, rfl, hreport⟩ reset hreset _ ⟨ready, rfl, hready⟩ read - result - _ ⟨hok, rfl⟩ disable -
  refine ⟨hok, disable ++ (result ++ read), ready, reset, polls, report, ?_, hready, hreset, hreport⟩
  simp only [List.append_assoc, List.nil_append, List.append_nil]

/-- **A success is a started firmware.** -/
theorem firmwareStarted_of_ok (firmwarePayload : List UInt8) (clocks : PollClocks) :
    OkLogs τ (productionFirmwareSequence registers firmwarePayload clocks) fun _ => FirmwareStarted firmwarePayload := by
  apply OkLogs.bind (OkLogs.any _)
  intro beforeCounters
  apply OkLogs.bind (OkLogs.any _)
  intro _
  apply OkLogs.bind (OkLogs.any _)
  intro _
  apply OkLogs.bind (OkLogs.any _)
  intro _
  apply OkLogs.bind (downloaded_attempts registers firmwarePayload clocks 1 3 {} nofun)
  intro download
  refine (started_firmwareStart registers clocks beforeCounters.usbControlWrites download).weaken ?_
  rintro _ _ ⟨hok, disable, ready, reset, polls, report, rfl, hready, hreset, hreport⟩ tries htries e₄ - e₃ - e₂ - e₁ -
  refine ⟨e₁ ++ (e₂ ++ (e₃ ++ e₄)), tries, disable, ready, reset, polls, report, ?_, htries hok, hready, hreset,
    hreport⟩
  simp only [List.append_assoc]

end Sound

end WfbLink.Runtime
