/-
Devices behind the register transport.

A register file says what reading and writing registers does to a device. A `FaultyDevice` is a device whose transfers
are counted and may fail: a transfer whose number fails returns an error and leaves the device as it was, any other one
is done in full. The numbers that fail are arbitrary.

- `Loads`, `Stores`: what an access does on such a device; one lemma for each width.
-/
import WfbLink.RadioCore.Register

namespace WfbLink.RadioCore

open WfbLink.Core

/-- what reading and writing registers does to a device -/
class RegisterFile (φ : Type) where
  load (file : φ) (address : UInt16) (n : ℕ) : List UInt8 × φ
  store (file : φ) (address : UInt16) (data : List UInt8) : φ
  load_length (file : φ) (address : UInt16) (n : ℕ) : (load file address n).1.length = n

/-- a device, the transfers that fail and with which error, and the number of the next transfer -/
structure FaultyDevice (φ : Type) where
  file : φ
  failing : ℕ → Option UsbError
  transfers : ℕ := 0

variable {φ : Type} [RegisterFile φ]

instance : Rtl8812auUsbTransport (FaultyDevice φ) where
  readVendor {n} device value _ data _ :=
    match device.failing device.transfers with
    | some error => (.error error, data, { device with transfers := device.transfers + 1 })
    | none =>
      let (bytes, file) := RegisterFile.load device.file value n
      (.ok n, data.fill bytes, { device with file, transfers := device.transfers + 1 })
  writeVendor device value _ data _ :=
    match device.failing device.transfers with
    | some error => (.error error, { device with transfers := device.transfers + 1 })
    | none =>
      (.ok data.length,
        { device with file := RegisterFile.store device.file value data, transfers := device.transfers + 1 })

namespace FaultyDevice

/-- after a transfer that failed -/
def tick (device : FaultyDevice φ) : FaultyDevice φ := { device with transfers := device.transfers + 1 }

/-- after a transfer that was done -/
def next (device : FaultyDevice φ) (file : φ) : FaultyDevice φ :=
  { device with file, transfers := device.transfers + 1 }

/-- no transfer from now on fails -/
def Reliable (device : FaultyDevice φ) : Prop := ∀ n, device.transfers ≤ n → device.failing n = none

omit [RegisterFile φ] in
theorem Reliable.now {device : FaultyDevice φ} (h : device.Reliable) : device.failing device.transfers = none :=
  h device.transfers le_rfl

omit [RegisterFile φ] in
theorem Reliable.next {device : FaultyDevice φ} (h : device.Reliable) (file : φ) : (device.next file).Reliable :=
  fun n hn => h n (Nat.le_of_succ_le hn)

end FaultyDevice

/-! ## Accesses -/

/-- the access loads a value -/
def Loads {α : Type} (read : RegisterProgram (Except Rtl8812auRegisterError α)) (f : φ → α × φ) : Prop :=
  ∀ device : FaultyDevice φ, read.run device =
    match device.failing device.transfers with
    | some error => (.error (.usb error), device.tick)
    | none => (.ok (f device.file).1, device.next (f device.file).2)

/-- the access stores a value -/
def Stores (write : RegisterProgram (Except Rtl8812auRegisterError Unit)) (f : φ → φ) : Prop :=
  ∀ device : FaultyDevice φ, write.run device =
    match device.failing device.transfers with
    | some error => (.error (.usb error), device.tick)
    | none => (.ok (), device.next (f device.file))

/-- the number in the `n` bytes from `address` on -/
def loadValue (address : UInt16) (n : ℕ) (file : φ) : ℕ × φ :=
  (fromLeBytes (RegisterFile.load file address n).1, (RegisterFile.load file address n).2)

theorem ByteBuf.fill_all {n : ℕ} (data : ByteBuf n) {bytes : List UInt8} (h : bytes.length = n) :
    (data.fill bytes).bytes = bytes := by
  have hdata := data.length_eq
  change bytes.take n ++ data.bytes.drop bytes.length = bytes
  rw [List.take_of_length_le (Nat.le_of_eq h), List.drop_eq_nil_of_le (by omega), List.append_nil]

namespace Rtl8812auRegisterAccess

variable (registers : Rtl8812auRegisterAccess)

theorem readExact_run {n : ℕ} (address : UInt16) (width : RegisterWidth) (hwidth : width.expectedLen = n)
    (data : ByteBuf n) (device : FaultyDevice φ) :
    (registers.readExact address width data).run device =
      match device.failing device.transfers with
      | some error => (.error (.usb error), device.tick)
      | none => (.ok (data.fill (RegisterFile.load device.file address n).1),
          device.next (RegisterFile.load device.file address n).2) := by
  rcases hfail : device.failing device.transfers with _ | error
  · simp only [readExact, RegisterProgram.run, readVendor, hfail, hwidth, ne_eq, not_true_eq_false, if_false]
    rfl
  · simp only [readExact, RegisterProgram.run, readVendor, hfail]
    rfl

theorem read8_loads (address : UInt16) :
    Loads (registers.read8 address)
      fun file : φ => (UInt8.ofNat (loadValue address 1 file).1, (loadValue address 1 file).2) := by
  intro device
  rw [read8, RegisterProgram.run_bind, registers.readExact_run (n := 1) address .u8 rfl]
  rcases device.failing device.transfers with _ | error
  · simp only [RegisterProgram.run_pure, Except.map, ByteBuf.fill_all _ (RegisterFile.load_length device.file address 1),
      loadValue]
  · rfl

theorem read16_loads (address : UInt16) :
    Loads (registers.read16 address)
      fun file : φ => (UInt16.ofNat (loadValue address 2 file).1, (loadValue address 2 file).2) := by
  intro device
  rw [read16, RegisterProgram.run_bind, registers.readExact_run (n := 2) address .u16 rfl]
  rcases device.failing device.transfers with _ | error
  · simp only [RegisterProgram.run_pure, Except.map, ByteBuf.fill_all _ (RegisterFile.load_length device.file address 2),
      loadValue]
  · rfl

theorem read32_loads (address : UInt16) :
    Loads (registers.read32 address)
      fun file : φ => (UInt32.ofNat (loadValue address 4 file).1, (loadValue address 4 file).2) := by
  intro device
  rw [read32, RegisterProgram.run_bind, registers.readExact_run (n := 4) address .u32 rfl]
  rcases device.failing device.transfers with _ | error
  · simp only [RegisterProgram.run_pure, Except.map, ByteBuf.fill_all _ (RegisterFile.load_length device.file address 4),
      loadValue]
  · rfl

theorem writeAll_stores (address : UInt16) (width : RegisterWidth) (data : List UInt8)
    (hwidth : width.expectedLen = data.length) :
    Stores (registers.writeAll address width data) fun file : φ => RegisterFile.store file address data := by
  intro device
  rcases hfail : device.failing device.transfers with _ | error
  · simp only [writeAll, RegisterProgram.run, writeVendor, hfail, hwidth, ne_eq, not_true_eq_false, if_false]
    rfl
  · simp only [writeAll, RegisterProgram.run, writeVendor, hfail]
    rfl

end Rtl8812auRegisterAccess

/-! ## Plain registers -/

/-- a byte in every register -/
structure PlainRegisters where
  cells : UInt16 → UInt8

namespace PlainRegisters

def loadBytes (file : PlainRegisters) (address : UInt16) (n : ℕ) : List UInt8 :=
  (List.range n).map fun i => file.cells (address + UInt16.ofNat i)

/-- the bytes one after the other, from `address` on -/
def storeBytes (file : PlainRegisters) (address : UInt16) : List UInt8 → PlainRegisters
  | [] => file
  | byte :: data => storeBytes ⟨fun a => if a = address then byte else file.cells a⟩ (address + 1) data

instance : RegisterFile PlainRegisters where
  load file address n := (file.loadBytes address n, file)
  store := storeBytes
  load_length file address n := by rw [loadBytes, List.length_map, List.length_range]

/-- a write changes nothing else -/
theorem storeBytes_other (file : PlainRegisters) (address : UInt16) (data : List UInt8) {a : UInt16}
    (ha : ∀ i < data.length, a ≠ address + UInt16.ofNat i) : (file.storeBytes address data).cells a = file.cells a := by
  induction data generalizing file address with
  | nil => rfl
  | cons byte data ih =>
    have hfirst : a ≠ address := by
      have h0 := ha 0 (Nat.zero_lt_succ _)
      rwa [show address + UInt16.ofNat 0 = address from UInt16.add_zero address] at h0
    rw [storeBytes, ih]
    · exact if_neg hfirst
    · intro i hi heq
      refine ha (i + 1) (Nat.succ_lt_succ hi) (heq.trans ?_)
      rw [UInt16.add_assoc, UInt16.ofNat_add, UInt16.add_comm (UInt16.ofNat i)]
      rfl

/-- what was written is read -/
theorem loadBytes_storeBytes (file : PlainRegisters) (address : UInt16) (data : List UInt8)
    (hlength : data.length ≤ 2 ^ 16) : (file.storeBytes address data).loadBytes address data.length = data := by
  induction data generalizing file address with
  | nil => rfl
  | cons byte data ih =>
    rw [List.length_cons] at hlength
    have hfirst : (storeBytes ⟨fun a => if a = address then byte else file.cells a⟩ (address + 1) data).cells address
        = byte := by
      rw [storeBytes_other]
      · exact if_pos rfl
      · intro i hi heq
        have hnat := congrArg UInt16.toNat heq
        rw [UInt16.toNat_add, UInt16.toNat_add, UInt16.toNat_ofNat'] at hnat
        have haddress := address.toNat_lt
        change address.toNat = ((address.toNat + 1) % 65536 + i % 65536) % 65536 at hnat
        omega
    rw [storeBytes, List.length_cons, loadBytes, List.range_succ_eq_map, List.map_cons, List.map_map]
    rw [show address + UInt16.ofNat 0 = address from UInt16.add_zero address, hfirst]
    congr 1
    have htail := ih ⟨fun a => if a = address then byte else file.cells a⟩ (address + 1) (Nat.le_of_succ_le hlength)
    rw [loadBytes] at htail
    refine Eq.trans (List.map_congr_left fun i _ => ?_) htail
    change (storeBytes _ _ data).cells (address + UInt16.ofNat (i + 1)) = _
    rw [UInt16.ofNat_add, UInt16.add_comm (UInt16.ofNat i), ← UInt16.add_assoc]
    rfl

/-- the word at an address -/
def word (file : PlainRegisters) (address : UInt16) : UInt32 := UInt32.ofNat (loadValue address 4 file).1

theorem word_store (file : PlainRegisters) (address : UInt16) (value : UInt32) :
    word (RegisterFile.store file address (toLeU32 value.toNat)) address = value := by
  have hload := file.loadBytes_storeBytes address (toLeU32 value.toNat) (by rw [toLeU32_length]; decide)
  rw [toLeU32_length] at hload
  change UInt32.ofNat (fromLeBytes ((file.storeBytes address (toLeU32 value.toNat)).loadBytes address 4)) = value
  rw [hload, fromLeBytes_toLeU32 value.toNat_lt, UInt32.ofNat_toNat]

end PlainRegisters

end WfbLink.RadioCore
