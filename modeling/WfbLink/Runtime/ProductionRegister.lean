/-
The checked register accesses of the init sequence: writes that are read back, read-modify-writes, and timed polls.

- `productionPoll32MinFrom` is total: a poll sleeps between its reads, so that its clock ends it.
-/
import WfbLink.Runtime.RegisterRun

namespace WfbLink.Runtime

open WfbLink.Core WfbLink.RadioCore

/-! ## Masks -/

/-- the bits under the mask are the new ones -/
theorem rmw_masked (before mask value : UInt8) :
    ((before &&& ~~~mask) ||| (value &&& mask)) &&& mask = value &&& mask := by
  apply UInt8.eq_of_toBitVec_eq
  ext i hi
  simp only [UInt8.toBitVec_and, UInt8.toBitVec_or, UInt8.toBitVec_not, BitVec.getElem_and, BitVec.getElem_or,
    BitVec.getElem_not]
  cases before.toBitVec[i] <;> cases mask.toBitVec[i] <;> cases value.toBitVec[i] <;> rfl

/-- the other bits are the old ones -/
theorem rmw_kept (before mask value : UInt8) :
    ((before &&& ~~~mask) ||| (value &&& mask)) &&& ~~~mask = before &&& ~~~mask := by
  apply UInt8.eq_of_toBitVec_eq
  ext i hi
  simp only [UInt8.toBitVec_and, UInt8.toBitVec_or, UInt8.toBitVec_not, BitVec.getElem_and, BitVec.getElem_or,
    BitVec.getElem_not]
  cases before.toBitVec[i] <;> cases mask.toBitVec[i] <;> cases value.toBitVec[i] <;> rfl

/-! ## Reading back -/

def productionReadbackVerifyAttempts : ℕ := 5

def productionReadbackError (registerName : String) (mask expected actual digits : ℕ) : RuntimeRadioError :=
  .new "register_readback_mismatch"
    s!"{registerName} expected mask {formatRegisterValue mask digits} to equal {formatRegisterValue expected digits}, got {formatRegisterValue actual digits}"

/-- the attempts that are left; a value that agrees under the mask is returned -/
def verifyReadback {α : Type} [DecidableEq α] (read : RegisterAction α) (masked : α → α) (expected : α)
    (mismatch : α → RuntimeRadioError) : ℕ → α → RegisterAction α
  | 0, actual => .fail (mismatch actual)
  | attempts + 1, _ => do
    let after ← read
    if masked after = expected then return after
    else verifyReadback read masked expected mismatch attempts (masked after)

section Production

variable (registers : Rtl8812auRegisterAccess)

def productionVerify8Readback (registerName : String) (address : UInt16) (mask expected : UInt8) (phase : String) :
    RegisterAction UInt8 :=
  verifyReadback (read8WithCounter registers address registerName phase) (fun after => after &&& mask)
    (expected &&& mask)
    (fun actual => productionReadbackError registerName mask.toNat (expected &&& mask).toNat actual.toNat 2)
    productionReadbackVerifyAttempts 0

def productionVerify16Readback (registerName : String) (address mask expected : UInt16) (phase : String) :
    RegisterAction UInt16 :=
  verifyReadback (read16WithCounter registers address registerName phase) (fun after => after &&& mask)
    (expected &&& mask)
    (fun actual => productionReadbackError registerName mask.toNat (expected &&& mask).toNat actual.toNat 4)
    productionReadbackVerifyAttempts 0

def productionVerify32Readback (registerName : String) (address : UInt16) (mask expected : UInt32) (phase : String) :
    RegisterAction UInt32 :=
  verifyReadback (read32WithCounter registers address registerName phase) (fun after => after &&& mask)
    (expected &&& mask)
    (fun actual => productionReadbackError registerName mask.toNat (expected &&& mask).toNat actual.toNat 8)
    productionReadbackVerifyAttempts 0

/-! ## Writing -/

def productionRmw8 (registerName : String) (address : UInt16) (mask value : UInt8) (shouldVerify : Bool)
    (phase : String) : RegisterAction Unit := do
  let before ← read8WithCounter registers address registerName phase
  let written := (before &&& ~~~mask) ||| (value &&& mask)
  write8WithCounter registers address written registerName phase
  if shouldVerify then
    let _ ← productionVerify8Readback registers registerName address mask value phase
    return ()
  else return ()

def productionWrite8Verify (registerName : String) (address : UInt16) (value verifyMask verifyValue : UInt8)
    (phase : String) : RegisterAction Unit := do
  write8WithCounter registers address value registerName phase
  if verifyMask ≠ 0 then
    let _ ← productionVerify8Readback registers registerName address verifyMask verifyValue phase
    return ()
  else return ()

def productionWrite32Verify (registerName : String) (address : UInt16) (value verifyMask verifyValue : UInt32)
    (phase : String) : RegisterAction Unit := do
  write32WithCounter registers address value registerName phase
  if verifyMask ≠ 0 then
    let _ ← productionVerify32Readback registers registerName address verifyMask verifyValue phase
    return ()
  else return ()

/-- the write, and the reading back unless the mask is empty -/
def writeVerify {α : Type} (write : RegisterAction Unit) (verifies : Bool) (verify : RegisterAction α) :
    RegisterAction Unit := do
  write
  if verifies then
    let _ ← verify
    return ()
  else return ()

def productionWrite16Verify (registerName : String) (address value verifyMask verifyValue : UInt16) (phase : String) :
    RegisterAction Unit :=
  writeVerify (write16WithCounter registers address value registerName phase) (verifyMask ≠ 0)
    (productionVerify16Readback registers registerName address verifyMask verifyValue phase)

/-- the bits that are kept, and the new ones -/
def preserving {α : Type} [AndOp α] [OrOp α] (preserveMask valueMask value before : α) : α :=
  (before &&& preserveMask) ||| (value &&& valueMask)

/-- a word is read, written back with a change, and verified -/
def rmwVerify {α : Type} (read : RegisterAction α) (change : α → α) (write : α → RegisterAction Unit)
    (verify : RegisterAction α) : RegisterAction Unit := do
  let before ← read
  write (change before)
  let _ ← verify
  return ()

def productionRmw8Preserve (registerName : String) (address : UInt16) (preserveMask valueMask value : UInt8)
    (phase : String) : RegisterAction Unit :=
  rmwVerify (read8WithCounter registers address registerName phase) (preserving preserveMask valueMask value)
    (fun written => write8WithCounter registers address written registerName phase)
    (productionVerify8Readback registers registerName address valueMask value phase)

def productionRmw16Preserve (registerName : String) (address preserveMask valueMask value : UInt16) (phase : String) :
    RegisterAction Unit :=
  rmwVerify (read16WithCounter registers address registerName phase) (preserving preserveMask valueMask value)
    (fun written => write16WithCounter registers address written registerName phase)
    (productionVerify16Readback registers registerName address valueMask value phase)

def productionRmw32Preserve (registerName : String) (address : UInt16) (preserveMask valueMask value : UInt32)
    (phase : String) : RegisterAction Unit :=
  rmwVerify (read32WithCounter registers address registerName phase) (preserving preserveMask valueMask value)
    (fun written => write32WithCounter registers address written registerName phase)
    (productionVerify32Readback registers registerName address valueMask value phase)

/-! ## Polling -/

/-- reads, until one is as expected; `attempts` are left, and the first of them has number `n` -/
def pollReads {α : Type} (read : RegisterAction α) (ready : α → Prop) [DecidablePred ready]
    (timeout : α → RuntimeRadioError) : ℕ → ℕ → α → RegisterAction ℕ
  | 0, _, last => .fail (timeout last)
  | attempts + 1, n, _ => do
    let last ← read
    if ready last then return n
    else pollReads read ready timeout attempts (n + 1) last

/-- the waits between two reads are left out -/
def productionPoll8 (registerName : String) (address : UInt16) (mask expected : UInt8) (attempts : ℕ) :
    RegisterAction ℕ :=
  pollReads (read8WithCounter registers address registerName "poll8")
    (fun last => last &&& mask = expected &&& mask)
    (fun last => .new "register_poll_timeout"
      s!"{registerName} expected mask {formatRegisterValue mask.toNat 2} to equal {formatRegisterValue (expected &&& mask).toNat 2}, last value {formatRegisterValue last.toNat 2} after {attempts} attempts")
    attempts 1 0

def u32Max : ℕ := 2 ^ 32 - 1

/-- how long a poll has been going on when it looks at its clock after attempt number `n`, in microseconds; between
two attempts it sleeps for `delay` -/
structure PollClock (delay : ℕ) where
  elapsed : ℕ → ℕ
  delay_pos : 0 < delay
  sleeps : ∀ n, n * delay ≤ elapsed (n + 1)

/-- a limit for the attempts of a poll -/
def pollLimit (minAttempts timeout delay : ℕ) : ℕ := max minAttempts (timeout / delay + 2)

/-- after as many attempts, the clock ends the poll -/
theorem pollLimit_ends {minAttempts timeout delay n : ℕ} (hmin : minAttempts ≤ u32Max) (clock : PollClock delay)
    (hn : pollLimit minAttempts timeout delay ≤ n) :
    timeout ≤ clock.elapsed n ∧ minAttempts ≤ min n u32Max := by
  have hminn := le_trans (Nat.le_max_left _ _) hn
  have hquot := le_trans (Nat.le_max_right _ _) hn
  obtain ⟨n, rfl⟩ := Nat.exists_eq_add_of_le' (le_trans (Nat.succ_le_succ (Nat.zero_le _)) hquot)
  have hdiv : timeout < (timeout / delay + 1) * delay := by
    rw [Nat.succ_mul]
    exact Nat.lt_div_mul_add clock.delay_pos
  have hmul : (timeout / delay + 1) * delay ≤ n * delay := Nat.mul_le_mul_right _ (Nat.succ_le_succ_iff.1 hquot)
  exact ⟨(hdiv.trans_le (hmul.trans (clock.sleeps n))).le, Nat.le_min.2 ⟨hminn, hmin⟩⟩

/-- a poll that goes on is below its limit -/
theorem lt_pollLimit {minAttempts : UInt32} {timeout delay n : ℕ} (clock : PollClock delay)
    (hclock : ¬(timeout ≤ clock.elapsed n ∧ minAttempts.toNat ≤ min n u32Max)) :
    n < pollLimit minAttempts.toNat timeout delay := by
  by_contra hn
  have hmin : minAttempts.toNat ≤ u32Max := by
    have := minAttempts.toNat_lt
    unfold u32Max
    omega
  exact hclock (pollLimit_ends hmin clock (Nat.le_of_not_lt hn))

variable {delay : ℕ} (registerName : String) (address : UInt16) (mask expected minAttempts : UInt32) (timeout : ℕ)
  (clock : PollClock delay)

/-- the poll from attempt number `n` on -/
def productionPoll32MinFrom (n : ℕ) : RegisterAction (UInt32 × UInt32) := do
  let value ← read32WithCounter registers address registerName "poll32"
  if value &&& mask = expected &&& mask then return (UInt32.ofNat (min n u32Max), value)
  else if h : timeout ≤ clock.elapsed n ∧ minAttempts.toNat ≤ min n u32Max then
    .fail (.new "register_poll_timeout"
      s!"{registerName} expected mask {formatRegisterValue mask.toNat 8} to equal {formatRegisterValue (expected &&& mask).toNat 8}, last value {formatRegisterValue value.toNat 8} after {min n u32Max} attempts")
  else productionPoll32MinFrom (n + 1)
termination_by pollLimit minAttempts.toNat timeout delay - n
decreasing_by
  have hlimit := lt_pollLimit clock h
  omega

/-- induction along a poll: it goes on only below its limit -/
theorem poll_induct {P : ℕ → Prop} (limit : ℕ) (step : ∀ n, (n < limit → P (n + 1)) → P n) : ∀ n, P n := by
  intro n
  induction hk : limit - n using Nat.strong_induction_on generalizing n with
  | _ k ih =>
    apply step
    intro hn
    exact ih _ (by omega) (n + 1) rfl

def productionPoll32Min : RegisterAction (UInt32 × UInt32) :=
  productionPoll32MinFrom registers registerName address mask expected minAttempts timeout clock 1

end Production

end WfbLink.Runtime
