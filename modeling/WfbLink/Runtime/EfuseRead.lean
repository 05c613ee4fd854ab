/-
Reading the EFUSE (`read_rtl8812au_efuse_physical_with_config`).

The read takes a grant (it writes access-on to `REG_EFUSE_BURN_GNT_8812` and enables the loader), reads the bytes one by
one up to the first failure, and gives the grant back (access-off). The enable routine returns its own failure at once,
and then nobody gives the grant back.

- `accessRevoked_iff`: the grant is given back exactly if it was not taken or the enable routine got its answers.
-/
import WfbLink.RadioCore.RegisterDevice
import WfbLink.Runtime.EfuseMap
import WfbLink.Runtime.RegisterRun

namespace WfbLink.Runtime

open WfbLink.Core WfbLink.RadioCore

/-! ## Registers -/

def regEfuseCtrl : UInt16 := 0x0030
def regEfuseBurnGnt8812 : UInt16 := 0x00cf
def regSysIsoCtrl : UInt16 := 0x0000
def regSysFuncEn : UInt16 := 0x0002
def regSysClkr : UInt16 := 0x0008
def rtl8812auEfuseRealContentLen : ℕ := 512
def efuseAccessOnJaguar : UInt8 := 0x69
def efuseAccessOffJaguar : UInt8 := 0x00
def fenEldr : UInt16 := (1 : UInt16) <<< 12
def ana8m : UInt16 := (1 : UInt16) <<< 1
def loaderClkEn : UInt16 := (1 : UInt16) <<< 5

structure RuntimeEfuseReadConfig where
  length : ℕ := rtl8812auEfuseRealContentLen
  pollAttempts : ℕ := 1000
  pollDelay : ℕ := 1000
deriving DecidableEq, Repr

/-! ## The read -/

section Read

variable (registers : Rtl8812auRegisterAccess)

def efusePowerSwitchFailed (what : String) (error : Rtl8812auRegisterError) : RuntimeRadioError :=
  .new "efuse_power_switch_failed" s!"{what} failed: {error.message}"

/-- what the power switch does beyond the grant to switch the loader on -/
def efuseEnableLoader : RegisterAction Unit := do
  let _sysIso ← read16WithCustomError registers regSysIsoCtrl (efusePowerSwitchFailed "read REG_SYS_ISO_CTRL")
  let sysFunc ← read16WithCustomError registers regSysFuncEn (efusePowerSwitchFailed "read REG_SYS_FUNC_EN")
  if sysFunc &&& fenEldr = 0 then
    write16WithCustomError registers regSysFuncEn (sysFunc ||| fenEldr) (efusePowerSwitchFailed "enable FEN_ELDR")
  let sysClkr ← read16WithCustomError registers regSysClkr (efusePowerSwitchFailed "read REG_SYS_CLKR")
  if sysClkr &&& (loaderClkEn ||| ana8m) ≠ loaderClkEn ||| ana8m then
    write16WithCustomError registers regSysClkr (sysClkr ||| (loaderClkEn ||| ana8m))
      (efusePowerSwitchFailed "enable EFUSE loader clock")

def efuseWriteGrant (grant : UInt8) : RegisterAction Unit :=
  write8WithCustomError registers regEfuseBurnGnt8812 grant
    (efusePowerSwitchFailed s!"write REG_EFUSE_BURN_GNT_8812=0x{hexText 2 grant.toNat}")

def efusePowerSwitchRead (enabled : Bool) : RegisterAction Unit := do
  let grant := if enabled then efuseAccessOnJaguar else efuseAccessOffJaguar
  efuseWriteGrant registers grant
  if enabled then efuseEnableLoader registers

def efuseReadFailed (what : String) (address : UInt16) (error : Rtl8812auRegisterError) : RuntimeRadioError :=
  .new "efuse_read_failed" s!"{what} for 0x{hexText 3 address.toNat} failed: {error.message}"

/-- the polls that are left; a ready status is followed by the data byte -/
def efusePollReady (address : UInt16) : ℕ → RegisterAction (Option UInt8)
  | 0 => return none
  | attempts + 1 => do
    let status ← read8WithCustomError registers (regEfuseCtrl + 3) (efuseReadFailed "poll EFUSE ready" address)
    if status &&& 0x80 ≠ 0 then
      let byte ← read8WithCustomError registers regEfuseCtrl (efuseReadFailed "read EFUSE data byte" address)
      return some byte
    else efusePollReady address attempts

def efuseReadByte (address : UInt16) (pollAttempts : ℕ) : RegisterAction UInt8 := do
  write8WithCustomError registers (regEfuseCtrl + 1) (address &&& 0x00ff).toUInt8
    (efuseReadFailed "write EFUSE address low byte" address)
  let high ← read8WithCustomError registers (regEfuseCtrl + 2) (efuseReadFailed "read EFUSE address high latch" address)
  write8WithCustomError registers (regEfuseCtrl + 2) (((address >>> 8) &&& 0x03).toUInt8 ||| (high &&& 0xfc))
    (efuseReadFailed "write EFUSE address high byte" address)
  let command ← read8WithCustomError registers (regEfuseCtrl + 3) (efuseReadFailed "read EFUSE command latch" address)
  write8WithCustomError registers (regEfuseCtrl + 3) (command &&& 0x7f) (efuseReadFailed "start EFUSE read" address)
  match ← efusePollReady registers address pollAttempts with
  | some byte => return byte
  | none =>
    let status ← (read8WithCounter registers (regEfuseCtrl + 3) "REG_EFUSE_CTRL+3" "timeout-status").attempt
    let status := match status with
      | .ok status => status
      | .error _ => 0
    .fail (.new "efuse_read_timeout"
      s!"EFUSE byte 0x{hexText 3 address.toNat} did not become ready after {pollAttempts} polls; REG_EFUSE_CTRL+3=0x{hexText 2 status.toNat}")

/-- the bytes from `address` on, up to the first failure -/
def efuseReadBytes (pollAttempts address : ℕ) : ℕ → List UInt8 → RegisterAction (List UInt8 × Option RuntimeRadioError)
  | 0, raw => return (raw, none)
  | count + 1, raw => do
    match ← (efuseReadByte registers (UInt16.ofNat address) pollAttempts).attempt with
    | .ok byte => efuseReadBytes pollAttempts (address + 1) count (raw ++ [byte])
    | .error error => return (raw, some error)

def readRtl8812auEfusePhysicalWithConfig (config : RuntimeEfuseReadConfig) : RegisterAction (List UInt8) :=
  if config.length > rtl8812auEfuseRealContentLen then
    .fail (.new "efuse_read_invalid_length"
      s!"EFUSE read length must be in 0..={rtl8812auEfuseRealContentLen}; got {config.length}")
  else do
    efusePowerSwitchRead registers true
    let (raw, readError) ← efuseReadBytes registers config.pollAttempts 0 config.length []
    let powerOff ← (efusePowerSwitchRead registers false).attempt
    match readError with
    | some error => .fail error
    | none => do
      RegisterAction.ofExcept powerOff
      return raw

end Read

/-! ## What the reads leave -/

section Logs

variable {τ : Type} [Rtl8812auUsbTransport τ] (registers : Rtl8812auRegisterAccess)

/-- no write to the grant register -/
abbrev SparesGrant : RegisterTransfer → Prop := RegisterTransfer.Spares regEfuseBurnGnt8812

theorem logs_read16 (address : UInt16) (error : Rtl8812auRegisterError → RuntimeRadioError) :
    Logs τ SparesGrant (read16WithCustomError registers address error) :=
  .readWithCustomError (registers.read16_extends fun _ _ => trivial)

theorem logs_write16 {address : UInt16} (haddress : address ≠ regEfuseBurnGnt8812) (value : UInt16)
    (error : Rtl8812auRegisterError → RuntimeRadioError) :
    Logs τ SparesGrant (write16WithCustomError registers address value error) :=
  .writeWithCustomError (registers.writeAll_extends .u16 fun _ => haddress)

theorem logs_efuseEnableLoader : Logs τ SparesGrant (efuseEnableLoader registers) := by
  apply Logs.bind (logs_read16 registers _ _)
  intro _
  apply Logs.bind (logs_read16 registers _ _)
  intro sysFunc
  have hrest : Logs τ SparesGrant (do
      let sysClkr ← read16WithCustomError registers regSysClkr (efusePowerSwitchFailed "read REG_SYS_CLKR")
      if sysClkr &&& (loaderClkEn ||| ana8m) ≠ loaderClkEn ||| ana8m then
        write16WithCustomError registers regSysClkr (sysClkr ||| (loaderClkEn ||| ana8m))
          (efusePowerSwitchFailed "enable EFUSE loader clock")) := by
    apply Logs.bind (logs_read16 registers _ _)
    intro sysClkr
    split
    · exact logs_write16 registers (by decide) _ _
    · exact Logs.pure _
  split
  · exact Logs.bind (logs_write16 registers (by decide) _ _) fun _ => hrest
  · exact hrest

end Logs

/-! ## The grant -/

section Grant

variable {τ : Type} [Rtl8812auUsbTransport τ] (registers : Rtl8812auRegisterAccess)

/-- the transport takes the grant -/
def grantAnswered (timeout : ℕ) : Answered τ Unit := answeredWrite timeout regEfuseBurnGnt8812 [efuseAccessOnJaguar]

/-- the transport answers each transfer of the enable routine behind the grant -/
def loaderAnswered (timeout : ℕ) : Answered τ Unit := do
  let _ ← answeredRead16 timeout regSysIsoCtrl
  let sysFunc ← answeredRead16 timeout regSysFuncEn
  if sysFunc &&& fenEldr = 0 then
    answeredWrite timeout regSysFuncEn (toLeU16 (sysFunc ||| fenEldr).toNat)
  let sysClkr ← answeredRead16 timeout regSysClkr
  if sysClkr &&& (loaderClkEn ||| ana8m) ≠ loaderClkEn ||| ana8m then
    answeredWrite timeout regSysClkr (toLeU16 (sysClkr ||| (loaderClkEn ||| ana8m)).toNat)

theorem follows_write16 (address value : UInt16) (error : Rtl8812auRegisterError → RuntimeRadioError) :
    Follows (write16WithCustomError registers address value error)
      (answeredWrite registers.timeout address (toLeU16 value.toNat) : Answered τ Unit) :=
  .writeWithCustomError rfl registers error

theorem follows_efuseEnableLoader :
    Follows (efuseEnableLoader registers) (loaderAnswered registers.timeout : Answered τ Unit) := by
  apply Follows.bind (Follows.read16 registers _ _)
  intro _
  apply Follows.bind (Follows.read16 registers _ _)
  intro sysFunc
  have hrest : Follows (do
      let sysClkr ← read16WithCustomError registers regSysClkr (efusePowerSwitchFailed "read REG_SYS_CLKR")
      if sysClkr &&& (loaderClkEn ||| ana8m) ≠ loaderClkEn ||| ana8m then
        write16WithCustomError registers regSysClkr (sysClkr ||| (loaderClkEn ||| ana8m))
          (efusePowerSwitchFailed "enable EFUSE loader clock"))
      (do
        let sysClkr ← answeredRead16 registers.timeout regSysClkr
        if sysClkr &&& (loaderClkEn ||| ana8m) ≠ loaderClkEn ||| ana8m then
          answeredWrite registers.timeout regSysClkr (toLeU16 (sysClkr ||| (loaderClkEn ||| ana8m)).toNat) :
        Answered τ Unit) := by
    apply Follows.bind (Follows.read16 registers _ _)
    intro sysClkr
    split
    · exact follows_write16 registers _ _ _
    · exact Follows.pure _
  split
  · exact Follows.bind (follows_write16 registers _ _ _) fun _ => hrest
  · exact hrest

/-- access-on, taken in full -/
def accessOn : RegisterTransfer := .write regEfuseBurnGnt8812 [efuseAccessOnJaguar] (.ok 1)

/-- every grant is followed by an access-off write that ends the log, so that the register is off if that write was
taken -/
def AccessRevoked (log : List RegisterTransfer) : Prop :=
  ∀ before after, log = before ++ accessOn :: after →
    ∃ middle result, after = middle ++ [.write regEfuseBurnGnt8812 [efuseAccessOffJaguar] result] ∧
      (result = .ok 1 → lastWritten regEfuseBurnGnt8812 log = some [efuseAccessOffJaguar])

theorem accessRevoked_off (log : List RegisterTransfer) (result : Except UsbError ℕ) :
    AccessRevoked (log ++ [.write regEfuseBurnGnt8812 [efuseAccessOffJaguar] result]) := by
  intro before after heq
  rcases List.eq_nil_or_concat after with rfl | ⟨middle, last, rfl⟩
  · obtain ⟨-, hlast⟩ := List.append_inj' heq rfl
    cases List.singleton_inj.1 hlast
  · have hsplit : log ++ [.write regEfuseBurnGnt8812 [efuseAccessOffJaguar] result]
        = (before ++ accessOn :: middle) ++ [last] := by
      rw [heq]; simp
    obtain ⟨-, hlast⟩ := List.append_inj' hsplit rfl
    refine ⟨middle, result, by rw [List.concat_eq_append, List.singleton_inj.1 hlast], fun hresult => ?_⟩
    rw [lastWritten, List.filterMap_append, hresult]
    exact List.getLast?_append_of_ne_nil _ (List.cons_ne_nil _ _)

theorem accessRevoked_of_notMem {log : List RegisterTransfer} (h : accessOn ∉ log) : AccessRevoked log := by
  intro before after heq
  rw [heq] at h
  exact absurd (List.mem_append_right before List.mem_cons_self) h

/-- behind a grant nothing but other registers were written: nobody gave it back -/
theorem not_accessRevoked {log after : List RegisterTransfer} (hlog : log = accessOn :: after)
    (hafter : ∀ t ∈ after, SparesGrant t) : ¬AccessRevoked log := by
  intro h
  obtain ⟨middle, result, rfl, -⟩ := h [] after hlog
  exact hafter _ (List.mem_append_right middle List.mem_cons_self) rfl

/-- the reads never fail themselves: they return the first failure -/
theorem efuseReadBytes_returns (pollAttempts address count : ℕ) (raw : List UInt8) (s : RegisterRun τ) :
    ∃ r s', (efuseReadBytes registers pollAttempts address count raw).exec s = (.ok r, s') := by
  induction count generalizing address raw s with
  | zero => exact ⟨_, _, rfl⟩
  | succ count ih =>
    rw [efuseReadBytes, RegisterAction.exec_bind, Action.bind_of_ok (RegisterAction.exec_attempt_run _ s)]
    rcases ((efuseReadByte registers (UInt16.ofNat address) pollAttempts).exec s).1 with error | byte
    · exact ⟨_, _, rfl⟩
    · exact ih _ _ _

/-- writing the grant is one transfer, and succeeds iff the transport takes it in full -/
theorem efuseWriteGrant_logged (grant : UInt8) (s : RegisterRun (Logged τ)) :
    ∃ outcome s' result, (efuseWriteGrant registers grant).exec s = (outcome, s') ∧
      runLog s' = runLog s ++ [.write regEfuseBurnGnt8812 [grant] result] ∧
      ((answeredWrite registers.timeout regEfuseBurnGnt8812 [grant] s.transport.inner = some ((), s'.transport.inner) ∧
          outcome = .ok () ∧ result = .ok 1) ∨
        (answeredWrite registers.timeout regEfuseBurnGnt8812 [grant] s.transport.inner = none ∧
          (∃ error, outcome = .error error) ∧ result ≠ .ok 1)) := by
  obtain ⟨outcome, inner, result, hrun, h⟩ :=
    registers.writeAll_logged regEfuseBurnGnt8812 .u8 [grant] rfl s.transport
  rw [efuseWriteGrant, write8WithCustomError, RegisterAction.exec_writeWithCustomError,
    Rtl8812auRegisterAccess.write8, hrun]
  rcases h with ⟨hanswered, rfl, hresult⟩ | ⟨hanswered, ⟨error, rfl⟩, hresult⟩
  · exact ⟨_, _, result, rfl, rfl, .inl ⟨hanswered, rfl, hresult⟩⟩
  · exact ⟨_, _, result, rfl, rfl, .inr ⟨hanswered, ⟨_, rfl⟩, hresult⟩⟩

/-- switching off is one write -/
theorem efusePowerSwitchRead_off (s : RegisterRun (Logged τ)) :
    ∃ result, runLog ((efusePowerSwitchRead registers false).exec s).2
      = runLog s ++ [.write regEfuseBurnGnt8812 [efuseAccessOffJaguar] result] := by
  obtain ⟨outcome, s', result, hrun, hlog, -⟩ := efuseWriteGrant_logged registers efuseAccessOffJaguar s
  have hswitch : efusePowerSwitchRead registers false
      = efuseWriteGrant registers efuseAccessOffJaguar >>= fun _ => pure () := rfl
  rw [hswitch, RegisterAction.exec_bind]
  refine ⟨result, ?_⟩
  rcases outcome with error | ⟨⟩
  · rw [Action.bind_of_error hrun, hlog]
  · rw [Action.bind_of_ok hrun, RegisterAction.exec_pure, Action.pure_run, hlog]

/-- what the function does once the loader is on: it ends with access-off, whatever happened before -/
theorem readBytes_then_off (config : RuntimeEfuseReadConfig) (s : RegisterRun (Logged τ)) :
    ∃ log result, runLog ((do
        let (raw, readError) ← efuseReadBytes registers config.pollAttempts 0 config.length []
        let powerOff ← (efusePowerSwitchRead registers false).attempt
        match readError with
        | some error => .fail error
        | none => do
          RegisterAction.ofExcept powerOff
          return raw : RegisterAction (List UInt8)).exec s).2
      = log ++ [.write regEfuseBurnGnt8812 [efuseAccessOffJaguar] result] := by
  obtain ⟨⟨raw, readError⟩, s₁, hread⟩ := efuseReadBytes_returns registers config.pollAttempts 0 config.length [] s
  obtain ⟨result, hoff⟩ := efusePowerSwitchRead_off registers s₁
  refine ⟨runLog s₁, result, ?_⟩
  rw [RegisterAction.exec_bind, Action.bind_of_ok hread]
  dsimp only
  rw [RegisterAction.exec_bind, Action.bind_of_ok (RegisterAction.exec_attempt_run _ s₁), ← hoff]
  rcases readError with _ | error
  · rcases hpower : ((efusePowerSwitchRead registers false).exec s₁).1 with error | ⟨⟩
    · rfl
    · rfl
  · rfl

/-- **The grant is given back iff the loader came on.** On every transport, after a read every access-on that was taken
is followed by access-off, as the last transfer, exactly if the length is out of range (nothing is accessed then), or
the transport does not take the grant, or it answers each transfer of the enable routine behind the grant. -/
theorem accessRevoked_iff (config : RuntimeEfuseReadConfig) (transport : τ) (counters : RuntimeRadioCounters) :
    AccessRevoked (runLog ((readRtl8812auEfusePhysicalWithConfig registers config).exec
        { transport := { inner := transport, log := [] }, counters }).2) ↔
      config.length > rtl8812auEfuseRealContentLen ∨
      ∀ granted, grantAnswered registers.timeout transport = some ((), granted) →
        (loaderAnswered registers.timeout granted).isSome := by
  rw [readRtl8812auEfusePhysicalWithConfig]
  by_cases hlength : config.length > rtl8812auEfuseRealContentLen
  · rw [if_pos hlength]
    exact iff_of_true (accessRevoked_of_notMem List.not_mem_nil) (.inl hlength)
  rw [if_neg hlength, or_iff_right hlength]
  obtain ⟨outcome, s₁, result, hgrant, hlog₁, h⟩ := efuseWriteGrant_logged registers efuseAccessOnJaguar
    { transport := { inner := transport, log := [] }, counters }
  have hswitch : efusePowerSwitchRead registers true
      = efuseWriteGrant registers efuseAccessOnJaguar >>= fun _ => efuseEnableLoader registers := rfl
  simp only [hswitch, RegisterAction.exec_bind, Action.bind_assoc]
  rw [show runLog { transport := { inner := transport, log := [] }, counters } = ([] : List RegisterTransfer) from rfl,
    List.nil_append] at hlog₁
  rcases h with ⟨hanswered, rfl, rfl⟩ | ⟨hanswered, ⟨error, rfl⟩, hresult⟩
  · rw [Action.bind_of_ok hgrant]
    have hloader := follows_efuseEnableLoader registers s₁
    obtain ⟨transfers, hlog₂, htransfers⟩ := logs_efuseEnableLoader registers s₁
    rw [hlog₁] at hlog₂
    rcases hanswers : loaderAnswered registers.timeout s₁.transport.inner with _ | ⟨⟨⟩, inner⟩
    · obtain ⟨error, s₂, hrun⟩ := hloader.2 hanswers
      rw [hrun] at hlog₂
      rw [Action.bind_of_error hrun]
      refine iff_of_false (not_accessRevoked hlog₂ htransfers) fun hall => ?_
      have hsome := hall _ hanswered
      rw [hanswers] at hsome
      cases hsome
    · obtain ⟨s₂, hrun, -⟩ := hloader.1 _ _ hanswers
      rw [Action.bind_of_ok hrun]
      obtain ⟨log, result, hlog⟩ := readBytes_then_off registers config s₂
      simp only [RegisterAction.exec_bind] at hlog
      rw [hlog]
      refine iff_of_true (accessRevoked_off log result) fun granted hgranted => ?_
      obtain rfl : s₁.transport.inner = granted := (Prod.ext_iff.1 (Option.some.inj (hanswered.symm.trans hgranted))).2
      rw [hanswers]
      rfl
  · rw [Action.bind_of_error hgrant, hlog₁]
    refine iff_of_true (accessRevoked_of_notMem ?_) fun granted hgranted => ?_
    · intro hmem
      injection List.mem_singleton.1 hmem with _ _ hok
      exact hresult hok.symm
    · cases hanswered.symm.trans hgranted

/-- the device takes the grant, and then its second transfer fails -/
def failingBehindGrant : RegisterRun (Logged (FaultyDevice PlainRegisters)) where
  transport :=
    { inner := { file := { cells := fun _ => 0 }, failing := fun n => if n = 1 then some .deviceDisappeared else none }
      log := [] }
  counters := {}

/-- reading `REG_SYS_ISO_CTRL` fails, and the grant is kept -/
theorem grant_kept_after_failure :
    ¬AccessRevoked (runLog ((readRtl8812auEfusePhysicalWithConfig {} {}).exec failingBehindGrant).2) := by
  have hlog : runLog ((readRtl8812auEfusePhysicalWithConfig {} {}).exec failingBehindGrant).2
      = [accessOn, .read regSysIsoCtrl [0, 0] (.error .deviceDisappeared)] := rfl
  apply not_accessRevoked hlog
  intro t ht
  rw [List.mem_singleton.1 ht]
  exact trivial

end Grant

end WfbLink.Runtime
