/-
The airtime schedule of the production runtime (`ProductionRuntimeAirtimeSchedule`).

Time division: receive and transmit windows alternate, with a guard on both sides of the transmit window.

- `tdd_tx_allowed_iff`: a schedule that does not overflow allows transmission at exactly the instants of its transmit
  windows.
- `tdd_law`: such a schedule is silent before its delay, repeats with its cycle, transmits for exactly its transmit
  window in every cycle and keeps its guard to every receive window.
-/
import WfbLink.Core.Recurring
import WfbLink.Runtime.Counters

namespace WfbLink.Runtime

open WfbLink.Core

inductive ProductionRuntimeAirtimeMode where
  | continuous
  | tdd
deriving DecidableEq, Repr

inductive ProductionRuntimeTddWindow where
  | rx
  | tx
deriving DecidableEq, Repr

structure ProductionRuntimeAirtimeSchedule where
  mode : ProductionRuntimeAirtimeMode := .continuous
  tddFirstWindow : ProductionRuntimeTddWindow := .rx
  tddRxWindowMs : UInt64 := 1000
  tddTxWindowMs : UInt64 := 1000
  tddGuardMs : UInt64 := 0
  tddStartDelayMs : UInt64 := 0
deriving DecidableEq

namespace ProductionRuntimeAirtimeSchedule

def continuous : ProductionRuntimeAirtimeSchedule := {}

def tdd (tddFirstWindow : ProductionRuntimeTddWindow) (tddRxWindowMs tddTxWindowMs tddGuardMs tddStartDelayMs : UInt64) :
    ProductionRuntimeAirtimeSchedule :=
  { mode := .tdd, tddFirstWindow, tddRxWindowMs, tddTxWindowMs, tddGuardMs, tddStartDelayMs }

def validate (self : ProductionRuntimeAirtimeSchedule) : Except RuntimeRadioError Unit :=
  match self.mode with
  | .continuous => .ok ()
  | .tdd =>
    if self.tddRxWindowMs = 0 then
      .error (.new "invalid_airtime_tdd_rx_window"
        "TDD airtime schedule requires tdd_rx_window_ms greater than zero")
    else if self.tddTxWindowMs = 0 then
      .error (.new "invalid_airtime_tdd_tx_window"
        "TDD airtime schedule requires tdd_tx_window_ms greater than zero")
    else .ok ()

/-- `elapsed` in nanoseconds -/
def tddTxAllowedAtElapsed (self : ProductionRuntimeAirtimeSchedule) (elapsed : ℕ) : Bool :=
  let elapsedMs := u64Sat (elapsed / 10 ^ 6)
  if elapsedMs < self.tddStartDelayMs then false
  else
    let rx := self.tddRxWindowMs
    let tx := self.tddTxWindowMs
    let guard := self.tddGuardMs
    let cycle := satAdd (satAdd rx tx) (satMul guard 2)
    if cycle = 0 then false
    else
      let offset := satSub elapsedMs self.tddStartDelayMs % cycle
      match self.tddFirstWindow with
      | .rx =>
        let txStart := satAdd rx guard
        decide (offset ≥ txStart ∧ offset < satAdd txStart tx)
      | .tx => decide (offset < tx)

def txAllowedAtElapsed (self : ProductionRuntimeAirtimeSchedule) (elapsed : ℕ) : Bool :=
  match self.mode with
  | .continuous => true
  | .tdd => self.tddTxAllowedAtElapsed elapsed

/-- how far into its cycle the transmit window starts -/
def txStart (self : ProductionRuntimeAirtimeSchedule) : ℕ :=
  match self.tddFirstWindow with
  | .rx => self.tddRxWindowMs.toNat + self.tddGuardMs.toNat
  | .tx => 0

def cycleMs (self : ProductionRuntimeAirtimeSchedule) : ℕ :=
  self.tddRxWindowMs.toNat + self.tddTxWindowMs.toNat + self.tddGuardMs.toNat * 2

variable {self : ProductionRuntimeAirtimeSchedule} {elapsed : ℕ}

/-- **The transmit windows.** As long as nothing saturates, transmission is allowed at exactly the instants of the
transmit window of some cycle. -/
theorem tdd_tx_allowed_iff (hmode : self.mode = .tdd) (hcycle : self.cycleMs < 2 ^ 64)
    (helapsed : elapsed / 10 ^ 6 < 2 ^ 64) :
    self.txAllowedAtElapsed elapsed = true ↔
      ∃ k, self.tddStartDelayMs.toNat + (k * self.cycleMs + self.txStart) ≤ elapsed / 10 ^ 6 ∧
        elapsed / 10 ^ 6 < self.tddStartDelayMs.toNat + (k * self.cycleMs + self.txStart) + self.tddTxWindowMs.toNat := by
  have helapsed : (u64Sat (elapsed / 10 ^ 6)).toNat = elapsed / 10 ^ 6 := by
    rw [u64Sat_toNat, u64Max]
    omega
  have htwo : (2 : UInt64).toNat = 2 := rfl
  have hcycleMs : (satAdd (satAdd self.tddRxWindowMs self.tddTxWindowMs) (satMul self.tddGuardMs 2)).toNat =
      self.cycleMs := by
    rw [satAdd_toNat, satAdd_toNat, satMul_toNat, htwo, u64Max]
    rw [cycleMs] at hcycle ⊢
    omega
  rw [txAllowedAtElapsed, hmode]
  dsimp only
  rw [tddTxAllowedAtElapsed]
  by_cases hdelay : u64Sat (elapsed / 10 ^ 6) < self.tddStartDelayMs
  · rw [if_pos hdelay]
    rw [UInt64.lt_iff_toNat_lt, helapsed] at hdelay
    refine iff_of_false Bool.false_ne_true ?_
    rintro ⟨k, hle, -⟩
    omega
  rw [if_neg hdelay]
  rw [UInt64.lt_iff_toNat_lt, helapsed, Nat.not_lt] at hdelay
  by_cases hzero : satAdd (satAdd self.tddRxWindowMs self.tddTxWindowMs) (satMul self.tddGuardMs 2) = 0
  · have htx : self.tddTxWindowMs.toNat = 0 := by
      rw [hzero, cycleMs] at hcycleMs
      have h0 : (0 : UInt64).toNat = 0 := rfl
      omega
    rw [if_pos hzero]
    refine iff_of_false Bool.false_ne_true ?_
    rintro ⟨k, hle, hlt⟩
    omega
  rw [if_neg hzero]
  -- the offset into the cycle, and the window it has to be in
  have hoffset : (satSub (u64Sat (elapsed / 10 ^ 6)) self.tddStartDelayMs %
      satAdd (satAdd self.tddRxWindowMs self.tddTxWindowMs) (satMul self.tddGuardMs 2)).toNat =
      (elapsed / 10 ^ 6 - self.tddStartDelayMs.toNat) % self.cycleMs := by
    rw [UInt64.toNat_mod, satSub_toNat, helapsed, hcycleMs]
  have hfits : self.txStart + self.tddTxWindowMs.toNat ≤ self.cycleMs := by
    rw [txStart, cycleMs]
    split <;> omega
  have hshift : (∃ k, k * self.cycleMs + self.txStart ≤ elapsed / 10 ^ 6 - self.tddStartDelayMs.toNat ∧
      elapsed / 10 ^ 6 - self.tddStartDelayMs.toNat < k * self.cycleMs + self.txStart + self.tddTxWindowMs.toNat) ↔
      ∃ k, self.tddStartDelayMs.toNat + (k * self.cycleMs + self.txStart) ≤ elapsed / 10 ^ 6 ∧
        elapsed / 10 ^ 6 <
          self.tddStartDelayMs.toNat + (k * self.cycleMs + self.txStart) + self.tddTxWindowMs.toNat :=
    exists_congr fun k => by omega
  rw [← hshift, ← Recurring.mod_window_iff hfits, ← hoffset]
  dsimp only
  generalize satSub (u64Sat (elapsed / 10 ^ 6)) self.tddStartDelayMs % _ = offset
  cases hfirst : self.tddFirstWindow with
  | rx =>
    have hstart : (satAdd self.tddRxWindowMs self.tddGuardMs).toNat = self.txStart := by
      rw [txStart, hfirst, satAdd_toNat, u64Max]
      dsimp only
      rw [cycleMs] at hcycle
      omega
    have hend : (satAdd (satAdd self.tddRxWindowMs self.tddGuardMs) self.tddTxWindowMs).toNat =
        self.txStart + self.tddTxWindowMs.toNat := by
      rw [satAdd_toNat, hstart, u64Max]
      omega
    rw [decide_eq_true_iff, ge_iff_le, UInt64.le_iff_toNat_le, UInt64.lt_iff_toNat_lt, hstart, hend]
  | tx =>
    have hstart : self.txStart = 0 := by rw [txStart, hfirst]
    rw [decide_eq_true_iff, UInt64.lt_iff_toNat_lt, hstart, Nat.zero_add]
    exact (and_iff_right (Nat.zero_le _)).symm

/-! ## The law of a schedule -/

/-- how far into its cycle the receive window starts -/
def rxStart (self : ProductionRuntimeAirtimeSchedule) : ℕ :=
  match self.tddFirstWindow with
  | .rx => 0
  | .tx => self.tddTxWindowMs.toNat + self.tddGuardMs.toNat

/-- the transmit windows, in milliseconds -/
def txWindows (self : ProductionRuntimeAirtimeSchedule) : Recurring where
  delay := self.tddStartDelayMs.toNat
  cycle := self.cycleMs
  start := self.txStart
  len := self.tddTxWindowMs.toNat
  fits := by
    unfold txStart cycleMs
    split <;> omega

/-- the receive windows, in milliseconds: what the peer of a schedule expects, the schedule itself never asks -/
def rxWindows (self : ProductionRuntimeAirtimeSchedule) : Recurring where
  delay := self.tddStartDelayMs.toNat
  cycle := self.cycleMs
  start := self.rxStart
  len := self.tddRxWindowMs.toNat
  fits := by
    unfold rxStart cycleMs
    split <;> omega

/-- milliseconds in nanoseconds -/
def millis (ms : ℕ) : ℕ := ms * 10 ^ 6

/-- time division as two peers rely on it, at the instants whose milliseconds fit 64 bits; times in nanoseconds -/
structure TddLaw (self : ProductionRuntimeAirtimeSchedule) : Prop where
  delayed : ∀ elapsed, elapsed < millis self.tddStartDelayMs.toNat → self.txAllowedAtElapsed elapsed = false
  periodic : ∀ elapsed, millis self.tddStartDelayMs.toNat ≤ elapsed →
    elapsed + millis self.cycleMs < millis (2 ^ 64) →
      self.txAllowedAtElapsed (elapsed + millis self.cycleMs) = self.txAllowedAtElapsed elapsed
  share : ∀ since, millis self.tddStartDelayMs.toNat ≤ since → since + millis self.cycleMs ≤ millis (2 ^ 64) →
    ((Finset.Ico since (since + millis self.cycleMs)).filter
      (fun elapsed => self.txAllowedAtElapsed elapsed = true)).card = millis self.tddTxWindowMs.toNat
  guarded : ∀ elapsed other, elapsed < millis (2 ^ 64) → self.txAllowedAtElapsed elapsed = true →
    (self.rxWindows.scale (10 ^ 6)).Holds other →
      other + millis self.tddGuardMs.toNat < elapsed ∨ elapsed + millis self.tddGuardMs.toNat < other

/-- the guard keeps the two kinds of window apart, on a clock of any unit -/
theorem windows_apart {unit other : ℕ} (htx : (self.txWindows.scale unit).Holds elapsed)
    (hrx : (self.rxWindows.scale unit).Holds other) :
    other + self.tddGuardMs.toNat * unit < elapsed ∨ elapsed + self.tddGuardMs.toNat * unit < other := by
  cases hfirst : self.tddFirstWindow with
  | rx =>
    refine Recurring.apart hrx htx rfl rfl ?_ ?_
    · simp only [Recurring.scale, rxWindows, txWindows, rxStart, txStart, hfirst, Nat.add_mul]
      omega
    · simp only [Recurring.scale, rxWindows, txWindows, rxStart, txStart, hfirst, cycleMs, Nat.add_mul, Nat.mul_two]
      omega
  | tx =>
    refine (Recurring.apart htx hrx rfl rfl ?_ ?_).symm
    · simp only [Recurring.scale, rxWindows, txWindows, rxStart, txStart, hfirst, Nat.add_mul]
      omega
    · simp only [Recurring.scale, rxWindows, txWindows, rxStart, txStart, hfirst, cycleMs, Nat.add_mul, Nat.mul_two]
      omega

section Law

variable (hmode : self.mode = .tdd) (hcycle : self.cycleMs < 2 ^ 64)

include hmode hcycle

theorem txAllowedAtElapsed_iff (helapsed : elapsed < millis (2 ^ 64)) :
    self.txAllowedAtElapsed elapsed = true ↔ (self.txWindows.scale (10 ^ 6)).Holds elapsed := by
  unfold millis at helapsed
  rw [Recurring.holds_scale (by decide), tdd_tx_allowed_iff hmode hcycle (by omega)]
  rfl

theorem tdd_delayed (helapsed : elapsed < millis self.tddStartDelayMs.toNat) :
    self.txAllowedAtElapsed elapsed = false := by
  have hfits : elapsed < millis (2 ^ 64) :=
    Nat.lt_of_lt_of_le helapsed (Nat.mul_le_mul_right _ self.tddStartDelayMs.toNat_lt.le)
  rw [← Bool.not_eq_true, txAllowedAtElapsed_iff hmode hcycle hfits]
  exact Recurring.not_holds_of_lt helapsed

theorem tdd_periodic (hdelay : millis self.tddStartDelayMs.toNat ≤ elapsed)
    (hfits : elapsed + millis self.cycleMs < millis (2 ^ 64)) :
    self.txAllowedAtElapsed (elapsed + millis self.cycleMs) = self.txAllowedAtElapsed elapsed := by
  rw [Bool.eq_iff_iff, txAllowedAtElapsed_iff hmode hcycle hfits,
    txAllowedAtElapsed_iff hmode hcycle (Nat.lt_of_le_of_lt (Nat.le_add_right _ _) hfits)]
  exact Recurring.holds_add_cycle hdelay

theorem tdd_share {since : ℕ} (hdelay : millis self.tddStartDelayMs.toNat ≤ since)
    (hfits : since + millis self.cycleMs ≤ millis (2 ^ 64)) :
    ((Finset.Ico since (since + millis self.cycleMs)).filter
      (fun elapsed => self.txAllowedAtElapsed elapsed = true)).card = millis self.tddTxWindowMs.toNat := by
  classical
  have hwindows : ∀ elapsed ∈ Finset.Ico since (since + millis self.cycleMs),
      (self.txAllowedAtElapsed elapsed = true ↔ (self.txWindows.scale (10 ^ 6)).Holds elapsed) := by
    intro elapsed hmem
    exact txAllowedAtElapsed_iff hmode hcycle (Nat.lt_of_lt_of_le (Finset.mem_Ico.1 hmem).2 hfits)
  rw [Finset.filter_congr hwindows]
  exact Recurring.card_holds (w := self.txWindows.scale (10 ^ 6)) hdelay

theorem tdd_guarded {other : ℕ} (hfits : elapsed < millis (2 ^ 64)) (htx : self.txAllowedAtElapsed elapsed = true)
    (hrx : (self.rxWindows.scale (10 ^ 6)).Holds other) :
    other + millis self.tddGuardMs.toNat < elapsed ∨ elapsed + millis self.tddGuardMs.toNat < other := by
  rw [txAllowedAtElapsed_iff hmode hcycle hfits] at htx
  exact windows_apart htx hrx

/-- **The law of time division**, for a schedule whose cycle does not overflow. -/
theorem tdd_law : TddLaw self where
  delayed := fun _ => tdd_delayed hmode hcycle
  periodic := fun _ => tdd_periodic hmode hcycle
  share := fun _ => tdd_share hmode hcycle
  guarded := fun _ _ => tdd_guarded hmode hcycle

end Law

/-- one second each way, 100 ms of guard and 5 ms of delay -/
theorem tdd_law_sample : TddLaw (tdd .rx 1000 1000 100 5) :=
  tdd_law rfl (by decide)

/-- milliseconds beyond 64 bits all count as the last one: a window of one millisecond in every two closes for good -/
theorem saturated_clock_stops : ∃ self : ProductionRuntimeAirtimeSchedule,
    self.mode = .tdd ∧ self.validate = .ok () ∧ self.cycleMs = 2 ∧ self.tddStartDelayMs = 0 ∧
      self.txAllowedAtElapsed (millis (2 ^ 64 - 2)) = true ∧
      self.txAllowedAtElapsed (millis (2 ^ 64 - 2) + millis self.cycleMs) = false :=
  ⟨tdd .tx 1 1 0 0, rfl, rfl, rfl, rfl, by decide, by decide⟩

end ProductionRuntimeAirtimeSchedule

end WfbLink.Runtime
