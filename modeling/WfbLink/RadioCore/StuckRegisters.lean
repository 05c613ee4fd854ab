/-
Registers, some bits of which are stuck.

A bit that is not writable stays what it is, whatever is written to it. If every bit is writable, the registers are plain.

- `testBit_loadValue`: what an access reads, bit by bit.
- `store_bits`: a write is an overwrite of bits, of which those that are writable take.
- `found_field`: a field that reads as expected is found there.
- `apply_kept`: a word that is written back with a new field is an overwrite of that field.
-/
import Mathlib.Data.Nat.Bitwise
import WfbLink.Core.Overwrite
import WfbLink.RadioCore.RegisterDevice

namespace WfbLink.RadioCore

open WfbLink.Core

/-! ## Bits -/

/-- the address of a byte, and a bit in it -/
abbrev RegisterBit : Type := UInt16 × Fin 8

def byteOf (bits : Fin 8 → Bool) : UInt8 := UInt8.ofNat (Nat.ofBits bits)

theorem testBit_byteOf (bits : Fin 8 → Bool) (i : Fin 8) : (byteOf bits).toNat.testBit i = bits i := by
  rw [byteOf, UInt8.toNat_ofNat', Nat.mod_eq_of_lt (Nat.ofBits_lt_two_pow bits)]
  exact Nat.testBit_ofBits_lt bits i i.isLt

/-- bit `i` of byte `k` of a little-endian number -/
theorem testBit_fromLeBytes (data : List UInt8) (k : ℕ) (i : Fin 8) :
    (fromLeBytes data).testBit (8 * k + i) = (data[k]?.map fun byte => byte.toNat.testBit i).getD false := by
  induction data generalizing k with
  | nil => exact Nat.zero_testBit _
  | cons byte data ih =>
    have hcons : fromLeBytes (byte :: data) = 2 ^ 8 * fromLeBytes data + byte.toNat := Nat.add_comm _ _
    have hi := i.isLt
    rw [hcons, Nat.testBit_two_pow_mul_add _ byte.toNat_lt]
    cases k with
    | zero =>
      rw [if_pos (by omega), Nat.mul_zero, Nat.zero_add]
      rfl
    | succ k =>
      rw [if_neg (by omega), show 8 * (k + 1) + i - 8 = 8 * k + i by omega, ih]
      rfl

theorem fromLeBytes_lt (data : List UInt8) : fromLeBytes data < 2 ^ (8 * data.length) := by
  induction data with
  | nil => exact Nat.one_pos
  | cons byte data ih =>
    have hcons : fromLeBytes (byte :: data) = byte.toNat + 256 * fromLeBytes data := rfl
    have hbyte := byte.toNat_lt
    rw [hcons, List.length_cons, Nat.mul_succ, pow_add]
    omega

theorem fromLeBytes_toLeU16 {n : ℕ} (h : n < 2 ^ 16) : fromLeBytes (toLeU16 n) = n := by
  change (UInt8.ofNat n).toNat + 256 * ((UInt8.ofNat (n / 2 ^ 8)).toNat + 256 * 0) = n
  rw [UInt8.toNat_ofNat', UInt8.toNat_ofNat']
  omega

/-- the place of a bit in the word at an address -/
def bitIndex (address : UInt16) (c : RegisterBit) : ℕ := 8 * (c.1 - address).toNat + c.2

/-- the bits under the mask, in the word of `n` bytes at an address -/
def fieldWrite (address : UInt16) (n mask value : ℕ) : Overwrite RegisterBit Bool := fun c =>
  if bitIndex address c < 8 * n ∧ mask.testBit (bitIndex address c) then some (value.testBit (bitIndex address c))
  else none

/-- every bit of the word -/
def wordWrite (address : UInt16) (n value : ℕ) : Overwrite RegisterBit Bool :=
  fieldWrite address n (2 ^ (8 * n) - 1) value

theorem wordWrite_of_lt {address : UInt16} {n : ℕ} {c : RegisterBit} (h : bitIndex address c < 8 * n) (value : ℕ) :
    wordWrite address n value c = some (value.testBit (bitIndex address c)) := by
  rw [wordWrite, fieldWrite, if_pos ⟨h, by rw [Nat.testBit_two_pow_sub_one]; exact decide_eq_true h⟩]

theorem fieldWrite_zero (address : UInt16) (n value : ℕ) : fieldWrite address n 0 value = .empty := by
  funext c
  rw [fieldWrite, Nat.zero_testBit, if_neg fun h => Bool.false_ne_true h.2]
  rfl

theorem fieldWrite_of_le {address : UInt16} {n : ℕ} {c : RegisterBit} (h : 8 * n ≤ bitIndex address c) (mask value : ℕ) :
    fieldWrite address n mask value c = none :=
  if_neg fun hand => absurd hand.1 (Nat.not_lt.2 h)

/-! ## The registers -/

/-- what the bits are, and which of them take what is written -/
@[ext] structure StuckRegisters where
  bits : RegisterBit → Bool
  writable : RegisterBit → Bool

namespace StuckRegisters

variable (file : StuckRegisters) (address : UInt16) (n : ℕ)

def loadBytes : List UInt8 :=
  (List.range n).map fun k => byteOf fun i => file.bits (address + UInt16.ofNat k, i)

/-- the registers after an overwrite -/
def write (o : Overwrite RegisterBit Bool) : StuckRegisters :=
  { file with bits := (o.restrict file.writable).apply file.bits }

instance instRegisterFile : RegisterFile StuckRegisters where
  load file address n := (file.loadBytes address n, file)
  store file address data := file.write (wordWrite address data.length (fromLeBytes data))
  load_length file address n := by rw [loadBytes, List.length_map, List.length_range]

/-- the number that an access reads -/
def value : ℕ := (loadValue address n file).1

theorem value_lt : file.value address n < 2 ^ (8 * n) := by
  have hlt := fromLeBytes_lt (file.loadBytes address n)
  rwa [show (file.loadBytes address n).length = n from RegisterFile.load_length file address n] at hlt

/-- the byte at an address -/
def byteAt : UInt8 := UInt8.ofNat (file.value address 1)

theorem toNat_byteAt : (file.byteAt address).toNat = file.value address 1 :=
  (UInt8.toNat_ofNat').trans (Nat.mod_eq_of_lt (file.value_lt address 1))

/-- **What is read.** -/
theorem testBit_value {c : RegisterBit} (hc : bitIndex address c < 8 * n) :
    (file.value address n).testBit (bitIndex address c) = file.bits c := by
  have hk : (c.1 - address).toNat < n := by
    rw [bitIndex] at hc
    omega
  have hplace : address + UInt16.ofNat (c.1 - address).toNat = c.1 := by
    rw [UInt16.ofNat_toNat, UInt16.add_comm, UInt16.sub_add_cancel]
  have hbyte : (file.loadBytes address n)[(c.1 - address).toNat]?
      = some (byteOf fun i => file.bits (address + UInt16.ofNat (c.1 - address).toNat, i)) := by
    rw [loadBytes, List.getElem?_map, List.getElem?_range hk]
    rfl
  change (fromLeBytes (file.loadBytes address n)).testBit (bitIndex address c) = _
  rw [bitIndex, testBit_fromLeBytes, hbyte, hplace]
  exact testBit_byteOf _ _

/-- a field that reads as expected is there -/
theorem found_field {mask expected : ℕ} (h : file.value address n &&& mask = expected &&& mask) :
    (fieldWrite address n mask expected).Found file.bits := by
  intro c b hc
  rw [fieldWrite] at hc
  split at hc
  · rename_i hand
    obtain ⟨hlt, hmask⟩ := hand
    have hbit := congrArg (fun v => v.testBit (bitIndex address c)) h
    simp only [Nat.testBit_and, hmask, Bool.and_true] at hbit
    rw [← Option.some.inj hc, ← hbit]
    exact (file.testBit_value address n hlt).symm
  · cases hc

/-- **Writing a word back.** Outside the mask it is what it was, so that only the field is written. -/
theorem write_kept {word mask data : ℕ}
    (h : ∀ j < 8 * n, word.testBit j = if mask.testBit j then data.testBit j else (file.value address n).testBit j) :
    file.write (wordWrite address n word) = file.write (fieldWrite address n mask data) := by
  unfold write
  congr 1
  funext c
  by_cases hc : bitIndex address c < 8 * n
  · have hword := h _ hc
    rw [file.testBit_value address n hc] at hword
    rw [Overwrite.apply, Overwrite.apply, Overwrite.restrict, Overwrite.restrict, wordWrite_of_lt hc, hword, fieldWrite]
    cases hmask : mask.testBit (bitIndex address c) with
    | true => simp only [hc, and_self, if_true]
    | false =>
      simp only [Bool.false_eq_true, and_false, if_false, ite_self, Option.getD_none]
      split
      · rfl
      · rfl
  · have hle := Nat.not_lt.1 hc
    rw [Overwrite.apply, Overwrite.apply, Overwrite.restrict, Overwrite.restrict, wordWrite, fieldWrite_of_le hle,
      fieldWrite_of_le hle]

theorem write_empty : file.write .empty = file := by
  apply StuckRegisters.ext
  · funext c
    exact Overwrite.apply_of_none (Overwrite.restrict_eq_none rfl)
  · rfl

/-- one overwrite after the other -/
theorem write_write (o p : Overwrite RegisterBit Bool) : (file.write o).write p = file.write (o.andThen p) := by
  simp only [write, Overwrite.restrict_andThen, Overwrite.apply_andThen]

/-! ## Effects on registers -/

variable {e e' : Effect RegisterBit Bool} {start after final : StuckRegisters}

/-- the effect was had on the registers -/
structure Reached (e : Effect RegisterBit Bool) (start after : StuckRegisters) : Prop where
  writable : after.writable = start.writable
  bits : e.Reached start.writable start.bits after.bits

/-- nothing was written but what the effect writes -/
structure Within (e : Effect RegisterBit Bool) (start after : StuckRegisters) : Prop where
  writable : after.writable = start.writable
  bits : e.Within start.writable start.bits after.bits

theorem Reached.within (h : Reached e start after) : Within e start after := ⟨h.writable, h.bits.within⟩

theorem Within.refl (e : Effect RegisterBit Bool) (start : StuckRegisters) : Within e start start :=
  ⟨rfl, .refl _ _ _⟩

theorem Within.left (h : Within e start after) (e' : Effect RegisterBit Bool) : Within (e.andThen e') start after :=
  ⟨h.writable, h.bits.left e'⟩

theorem Reached.andThen (h : Reached e start after) (h' : Reached e' after final) :
    Reached (e.andThen e') start final := by
  refine ⟨h'.writable.trans h.writable, ?_⟩
  have hbits := h'.bits
  rw [h.writable] at hbits
  exact h.bits.andThen hbits

theorem Within.andThen (h : Reached e start after) (h' : Within e' after final) :
    Within (e.andThen e') start final := by
  refine ⟨h'.writable.trans h.writable, ?_⟩
  have hbits := h'.bits
  rw [h.writable] at hbits
  exact Effect.Within.andThen h.bits hbits

/-- the effect determines the registers -/
theorem Reached.unique (h : Reached e start after) (h' : Reached e start final) : after = final := by
  apply StuckRegisters.ext
  · rw [h.bits.written, h'.bits.written]
  · rw [h.writable, h'.writable]

end StuckRegisters

/-! ## Steps -/

/-- one step on a word: the bits that are written and their values, and the bits that are found afterwards and theirs -/
structure RegisterStep where
  address : UInt16
  bytes : ℕ
  written : ℕ
  value : ℕ
  found : ℕ
  expected : ℕ
deriving DecidableEq

namespace RegisterStep

def effect (step : RegisterStep) : Effect RegisterBit Bool where
  writes := fieldWrite step.address step.bytes step.written step.value
  finds := fieldWrite step.address step.bytes step.found step.expected

/-- the steps of a list, one after the other -/
def effects (steps : List RegisterStep) : Effect RegisterBit Bool := .all (steps.map effect)

theorem effects_append (steps steps' : List RegisterStep) :
    effects (steps ++ steps') = (effects steps).andThen (effects steps') := by
  rw [effects, List.map_append, Effect.all_append]
  rfl

/-- the word has a byte at this address -/
def covers (step : RegisterStep) (address : UInt16) : Bool := (address - step.address).toNat < step.bytes

theorem effect_of_not_covers {step : RegisterStep} {c : RegisterBit} (h : step.covers c.1 = false) :
    step.effect.writes c = none ∧ step.effect.finds c = none := by
  have hle : 8 * step.bytes ≤ bitIndex step.address c := by
    have hbytes := of_decide_eq_false h
    rw [bitIndex]
    omega
  exact ⟨fieldWrite_of_le hle _ _, fieldWrite_of_le hle _ _⟩

/-- the byte of a mask that lies at an address -/
def byteOfMask (step : RegisterStep) (mask : ℕ) (address : UInt16) : ℕ :=
  mask / 2 ^ (8 * (address - step.address).toNat) % 2 ^ 8

/-- no step writes at this address -/
def avoid (steps : List RegisterStep) (address : UInt16) : Bool :=
  steps.all fun step => !step.covers address || step.byteOfMask step.written address == 0

/-- a byte without bits -/
theorem fieldWrite_of_byteOfMask {step : RegisterStep} {mask : ℕ} {c : RegisterBit}
    (h : step.byteOfMask mask c.1 = 0) (value : ℕ) : fieldWrite step.address step.bytes mask value c = none := by
  apply if_neg
  rintro ⟨-, hbit⟩
  have hi := c.2.isLt
  have hbyte := congrArg (fun n => n.testBit c.2) h
  simp only [byteOfMask, Nat.testBit_mod_two_pow, Nat.testBit_div_two_pow, hi, decide_true, Bool.true_and,
    Nat.zero_testBit] at hbyte
  rw [bitIndex, Nat.add_comm, hbyte] at hbit
  cases hbit

theorem writes_of_avoid {steps : List RegisterStep} {c : RegisterBit} (h : avoid steps c.1 = true) :
    (effects steps).writes c = none := by
  induction steps with
  | nil => rfl
  | cons step steps ih =>
    obtain ⟨hstep, hsteps⟩ := Bool.and_eq_true_iff.1 h
    refine Overwrite.andThen_eq_none.2 ⟨?_, ih hsteps⟩
    rcases Bool.or_eq_true_iff.1 hstep with hcovers | hbyte
    · exact (effect_of_not_covers (Bool.not_eq_true' _ ▸ hcovers)).1
    · exact fieldWrite_of_byteOfMask (beq_iff_eq.1 hbyte) _

/-- steps that only look for something -/
theorem avoid_of_unwritten {steps : List RegisterStep} (h : ∀ step ∈ steps, step.written = 0) (address : UInt16) :
    avoid steps address = true := by
  refine List.all_eq_true.2 fun step hstep => ?_
  rw [byteOfMask, h step hstep, Nat.zero_div]
  exact Bool.or_true _

theorem avoid_append (steps steps' : List RegisterStep) (address : UInt16) :
    avoid (steps ++ steps') address = (avoid steps address && avoid steps' address) := List.all_append

/-- a step without its values; whether it touches a bit does not depend on them -/
def shape (step : RegisterStep) : RegisterStep := { step with value := 0, expected := 0 }

theorem shape_comp_shape : shape ∘ shape = shape := rfl

theorem avoid_shape (steps : List RegisterStep) (address : UInt16) :
    avoid (steps.map shape) address = avoid steps address := List.all_map

theorem avoid_of_shapes {steps shapes : List RegisterStep} {address : UInt16}
    (hshapes : ∀ step ∈ steps, step.shape ∈ shapes) (h : avoid shapes address = true) : avoid steps address = true := by
  rw [← avoid_shape]
  refine List.all_eq_true.2 fun shape hshape => ?_
  obtain ⟨step, hstep, rfl⟩ := List.mem_map.1 hshape
  exact List.all_eq_true.1 h _ (hshapes step hstep)

/-- at one address, only the steps that cover it matter -/
theorem view_filter (steps : List RegisterStep) (c : RegisterBit) :
    Effect.view ((steps.filter fun step => step.covers c.1).map effect) c = Effect.view (steps.map effect) c := by
  induction steps with
  | nil => rfl
  | cons step steps ih =>
    cases hcovers : step.covers c.1 with
    | true =>
      rw [List.filter_cons, if_pos hcovers, List.map_cons, List.map_cons, Effect.view, Effect.view, ih]
    | false =>
      obtain ⟨hwrites, hfinds⟩ := effect_of_not_covers hcovers
      rw [List.filter_cons, hcovers, if_neg Bool.false_ne_true, List.map_cons, Effect.view, ih, hwrites, hfinds,
        ite_self, Option.or_none, Option.isSome_none, Bool.false_or]

end RegisterStep

namespace StuckRegisters

variable {steps : List RegisterStep} {start after : StuckRegisters}

/-- an address that no step covers -/
theorem Within.bits_of_avoid (h : Within (RegisterStep.effects steps) start after) {c : RegisterBit}
    (havoid : RegisterStep.avoid steps c.1 = true) : after.bits c = start.bits c :=
  h.bits c (Overwrite.restrict_eq_none (RegisterStep.writes_of_avoid havoid))

/-- a word that no step covers reads the same -/
theorem Within.value_of_avoid (h : Within (RegisterStep.effects steps) start after) {address : UInt16} {n : ℕ}
    (havoid : ∀ k < n, RegisterStep.avoid steps (address + UInt16.ofNat k) = true) :
    after.value address n = start.value address n := by
  have hbytes : after.loadBytes address n = start.loadBytes address n := by
    unfold loadBytes
    refine List.map_congr_left fun k hk => ?_
    congr 1
    funext i
    exact h.bits_of_avoid (havoid k (List.mem_range.1 hk))
  exact congrArg fromLeBytes hbytes

end StuckRegisters

/-! ## Fields -/

/-- the bits under the mask, in the word of some bytes at an address -/
structure RegisterField where
  address : UInt16
  bytes : ℕ
  mask : ℕ
  value : ℕ
deriving DecidableEq, Repr

/-- what a step looks for -/
def RegisterStep.field (step : RegisterStep) : RegisterField := ⟨step.address, step.bytes, step.found, step.expected⟩

namespace RegisterField

/-- the field reads as its value -/
def In (field : RegisterField) (file : StuckRegisters) : Prop :=
  file.value field.address field.bytes &&& field.mask = field.value &&& field.mask

/-- every bit of the field is found at the end -/
def foundBy (steps : List RegisterStep) (field : RegisterField) : Bool :=
  (List.range field.bytes).all fun k =>
    let address := field.address + UInt16.ofNat k
    let near := (steps.filter fun step => step.covers address).map RegisterStep.effect
    (List.finRange 8).all fun i =>
      !field.mask.testBit (8 * k + i) || (Effect.view near (address, i)).2 == some (field.value.testBit (8 * k + i))

/-- every bit of the field is among those -/
def FoundIn (field : RegisterField) (finds : Overwrite RegisterBit Bool) : Prop :=
  ∀ k < field.bytes, ∀ i : Fin 8, field.mask.testBit (8 * k + i) = true →
    finds (field.address + UInt16.ofNat k, i) = some (field.value.testBit (8 * k + i))

variable {field : RegisterField} {e e' : Effect RegisterBit Bool} {file : StuckRegisters}

theorem foundIn_of_foundBy {steps : List RegisterStep} (hfound : field.foundBy steps = true) :
    field.FoundIn (RegisterStep.effects steps).finds := by
  intro k hk i hbit
  have hat := List.all_eq_true.1 (List.all_eq_true.1 hfound k (List.mem_range.2 hk)) i (List.mem_finRange _)
  simp only [hbit, Bool.not_true, Bool.false_or, beq_iff_eq] at hat
  rwa [RegisterStep.view_filter steps (_, _), Effect.view_eq] at hat

theorem bitIndex_byte {k : ℕ} (hk : k < field.bytes) (hbytes : field.bytes ≤ 2 ^ 16) (i : Fin 8) :
    bitIndex field.address (field.address + UInt16.ofNat k, i) = 8 * k + i := by
  rw [bitIndex, UInt16.add_comm, UInt16.add_sub_cancel, UInt16.toNat_ofNat', Nat.mod_eq_of_lt (by omega)]

/-- a field that is looked for as such -/
theorem foundIn_fieldWrite (hbytes : field.bytes ≤ 2 ^ 16) :
    field.FoundIn (fieldWrite field.address field.bytes field.mask field.value) := by
  intro k hk i hbit
  have hi := i.isLt
  rw [fieldWrite, bitIndex_byte hk hbytes, if_pos ⟨by omega, hbit⟩]

/-- what was found last -/
theorem FoundIn.last (h : field.FoundIn e'.finds) (e : Effect RegisterBit Bool) :
    field.FoundIn (e.andThen e').finds := by
  intro k hk i hbit
  change (e'.finds _).or _ = _
  rw [h k hk i hbit, Option.some_or]

/-- what was found before, where nothing was written or looked for since -/
theorem FoundIn.kept (h : field.FoundIn e.finds)
    (hkept : ∀ k < field.bytes, ∀ i : Fin 8, field.mask.testBit (8 * k + i) = true →
      e'.writes (field.address + UInt16.ofNat k, i) = none ∧ e'.finds (field.address + UInt16.ofNat k, i) = none) :
    field.FoundIn (e.andThen e').finds := by
  intro k hk i hbit
  obtain ⟨hwrites, hfinds⟩ := hkept k hk i hbit
  change (e'.finds _).or ((e'.writes _).elim (e.finds _) fun _ => none) = _
  rw [hfinds, hwrites, Option.none_or, Option.elim_none]
  exact h k hk i hbit

/-- the step neither writes nor looks for a bit of the field -/
def sparedByStep (field : RegisterField) (step : RegisterStep) : Bool :=
  (List.range field.bytes).all fun k =>
    let address := field.address + UInt16.ofNat k
    !step.covers address ||
      step.byteOfMask step.written address &&& field.mask / 2 ^ (8 * k) == 0 &&
        step.byteOfMask step.found address &&& field.mask / 2 ^ (8 * k) == 0

def sparedBy (field : RegisterField) (steps : List RegisterStep) : Bool := steps.all field.sparedByStep

theorem sparedByStep_shape (step : RegisterStep) : field.sparedByStep step.shape = field.sparedByStep step := rfl

theorem sparedBy_cons (step : RegisterStep) (steps : List RegisterStep) :
    field.sparedBy (step :: steps) = (field.sparedByStep step && field.sparedBy steps) := rfl

theorem sparedBy_append (steps steps' : List RegisterStep) :
    field.sparedBy (steps ++ steps') = (field.sparedBy steps && field.sparedBy steps') := List.all_append

theorem sparedBy_shape (steps : List RegisterStep) :
    field.sparedBy (steps.map RegisterStep.shape) = field.sparedBy steps := List.all_map

/-- a bit that the field has and the byte of a mask has not -/
theorem fieldWrite_of_spared {step : RegisterStep} {mask k : ℕ} {i : Fin 8}
    (h : step.byteOfMask mask (field.address + UInt16.ofNat k) &&& field.mask / 2 ^ (8 * k) = 0)
    (hbit : field.mask.testBit (8 * k + i) = true) (value : ℕ) :
    fieldWrite step.address step.bytes mask value (field.address + UInt16.ofNat k, i) = none := by
  apply if_neg
  rintro ⟨-, hmask⟩
  have hi := i.isLt
  have hbyte := congrArg (fun n => n.testBit i) h
  simp only [RegisterStep.byteOfMask, Nat.testBit_and, Nat.testBit_mod_two_pow, Nat.testBit_div_two_pow, hi,
    decide_true, Bool.true_and, Nat.zero_testBit, Nat.add_comm _ (8 * k), hbit, Bool.and_true] at hbyte
  rw [bitIndex, Nat.add_comm] at hmask
  exact Bool.false_ne_true (hbyte.symm.trans hmask)

theorem FoundIn.spared (h : field.FoundIn e.finds) {steps : List RegisterStep} (hspared : field.sparedBy steps = true) :
    field.FoundIn (e.andThen (RegisterStep.effects steps)).finds := by
  induction steps generalizing e with
  | nil =>
    rw [show RegisterStep.effects [] = .empty from rfl, Effect.andThen_empty]
    exact h
  | cons step steps ih =>
    obtain ⟨hstep, hsteps⟩ := Bool.and_eq_true_iff.1 hspared
    have hcons : RegisterStep.effects (step :: steps) = step.effect.andThen (RegisterStep.effects steps) := rfl
    rw [hcons, ← Effect.andThen_assoc]
    refine ih (h.kept fun k hk i hbit => ?_) hsteps
    have hbyte := List.all_eq_true.1 hstep k (List.mem_range.2 hk)
    rcases Bool.or_eq_true_iff.1 hbyte with hcovers | hmasks
    · exact RegisterStep.effect_of_not_covers (Bool.not_eq_true' _ ▸ hcovers)
    · obtain ⟨hwritten, hfound⟩ := Bool.and_eq_true_iff.1 hmasks
      exact ⟨fieldWrite_of_spared (beq_iff_eq.1 hwritten) hbit _, fieldWrite_of_spared (beq_iff_eq.1 hfound) hbit _⟩

/-- a field without its value; whether a step touches it does not depend on that -/
def shape (field : RegisterField) : RegisterField := { field with value := 0 }

theorem mk_shape (address : UInt16) (bytes mask value : ℕ) :
    (RegisterField.mk address bytes mask value).shape = ⟨address, bytes, mask, 0⟩ := rfl

theorem sparedBy_of_shape {steps : List RegisterStep}
    (h : field.shape.sparedBy (steps.map RegisterStep.shape) = true) : field.sparedBy steps = true := by
  rw [sparedBy_shape] at h
  exact h

theorem FoundIn.before {steps later : List RegisterStep} (h : field.FoundIn (RegisterStep.effects steps).finds)
    (hspared : field.sparedBy later = true) : field.FoundIn (RegisterStep.effects (steps ++ later)).finds := by
  rw [RegisterStep.effects_append]
  exact h.spared hspared

theorem FoundIn.after {later : List RegisterStep} (h : field.FoundIn (RegisterStep.effects later).finds)
    (steps : List RegisterStep) : field.FoundIn (RegisterStep.effects (steps ++ later)).finds := by
  rw [RegisterStep.effects_append]
  exact h.last _

/-- the bits that one step looks for are found, unless a later step touches them -/
theorem foundIn_drop {steps later : List RegisterStep} {step : RegisterStep} (i : ℕ)
    (hstep : steps.drop i = step :: later) (haddress : field.address = step.address) (hbytes : field.bytes = step.bytes)
    (hmask : field.mask &&& step.found = field.mask) (hvalue : field.value &&& field.mask = step.expected &&& field.mask)
    (hsize : field.bytes ≤ 2 ^ 16) (hspared : field.sparedBy later = true) :
    field.FoundIn (RegisterStep.effects steps).finds := by
  have hfound : field.FoundIn step.effect.finds := by
    intro k hk i hbit
    have hi := i.isLt
    have hin := congrArg (fun n => n.testBit (8 * k + i)) hmask
    have hsame := congrArg (fun n => n.testBit (8 * k + i)) hvalue
    simp only [Nat.testBit_and, hbit, Bool.true_and, Bool.and_true] at hin hsame
    change fieldWrite step.address step.bytes step.found step.expected _ = _
    rw [← haddress, ← hbytes, fieldWrite, bitIndex_byte hk hsize, if_pos ⟨by omega, hin⟩, hsame]
  have hcons : RegisterStep.effects (step :: later) = step.effect.andThen (RegisterStep.effects later) := rfl
  rw [← List.take_append_drop i steps, hstep]
  apply FoundIn.after
  rw [hcons]
  exact hfound.spared hspared

/-- the steps are of some shapes, each of which spares the field -/
theorem sparedBy_of_shapes {steps shapes : List RegisterStep} (hshapes : ∀ step ∈ steps, step.shape ∈ shapes)
    (h : field.shape.sparedBy shapes = true) : field.sparedBy steps = true := by
  apply sparedBy_of_shape
  refine List.all_eq_true.2 fun shape hshape => ?_
  obtain ⟨step, hstep, rfl⟩ := List.mem_map.1 hshape
  exact List.all_eq_true.1 h _ (hshapes step hstep)

/-- the mask is one of the word, and the word is not larger than the registers -/
def Fits (field : RegisterField) : Prop := field.mask < 2 ^ (8 * field.bytes) ∧ field.bytes ≤ 2 ^ 16

instance instDecidableFits (field : RegisterField) : Decidable field.Fits := inferInstanceAs (Decidable (_ ∧ _))

/-- **What was found is what the field reads as.** -/
theorem in_of_found {finds : Overwrite RegisterBit Bool} (hfound : finds.Found file.bits) (hfield : field.FoundIn finds)
    (hmask : field.mask < 2 ^ (8 * field.bytes)) (hbytes : field.bytes ≤ 2 ^ 16) : field.In file := by
  apply Nat.eq_of_testBit_eq
  intro j
  rw [Nat.testBit_and, Nat.testBit_and]
  by_cases hj : j < 8 * field.bytes
  · cases hbit : field.mask.testBit j with
    | false => rw [Bool.and_false, Bool.and_false]
    | true =>
      rw [Bool.and_true, Bool.and_true]
      have hk : j / 8 < field.bytes := by omega
      have hi : j % 8 < 8 := Nat.mod_lt _ (by decide)
      have hplace : 8 * (j / 8) + j % 8 = j := Nat.div_add_mod j 8
      have hindex : bitIndex field.address (field.address + UInt16.ofNat (j / 8), ⟨j % 8, hi⟩) = j :=
        (bitIndex_byte hk hbytes _).trans hplace
      have hvalue := file.testBit_value field.address field.bytes (c := (_, _)) (hindex.symm ▸ hj)
      rw [hindex] at hvalue
      rw [hvalue]
      refine hfound _ _ ((hfield _ hk ⟨j % 8, hi⟩ ?_).trans ?_)
      · exact hplace.symm ▸ hbit
      · rw [hplace]
  · have hlt := lt_of_lt_of_le hmask (Nat.pow_le_pow_right (by decide) (Nat.not_lt.1 hj))
    rw [Nat.testBit_lt_two_pow hlt, Bool.and_false, Bool.and_false]

/-- steps that spare what the ones before them look for -/
theorem foundIn_of_pairwise {steps : List RegisterStep}
    (h : (steps.map RegisterStep.shape).Pairwise fun step later => step.field.shape.sparedByStep later = true) :
    ∀ step ∈ steps, step.bytes ≤ 2 ^ 16 → step.field.FoundIn (RegisterStep.effects steps).finds := by
  induction steps with
  | nil =>
    intro step hstep
    cases hstep
  | cons first later ih =>
    obtain ⟨hfirst, hlater⟩ := List.pairwise_cons.1 h
    intro step hstep hsize
    rcases List.mem_cons.1 hstep with rfl | hstep
    · refine foundIn_drop 0 rfl rfl rfl (Nat.and_self _) rfl hsize ?_
      exact sparedBy_of_shape (List.all_eq_true.2 hfirst)
    · exact (ih hlater step hstep hsize).after [first]

theorem in_of_foundBy {steps : List RegisterStep} {start : StuckRegisters}
    (hreached : StuckRegisters.Reached (RegisterStep.effects steps) start file) (hfound : field.foundBy steps = true)
    (hmask : field.mask < 2 ^ (8 * field.bytes)) (hbytes : field.bytes ≤ 2 ^ 16) : field.In file :=
  in_of_found hreached.bits.found (foundIn_of_foundBy hfound) hmask hbytes

end RegisterField

end WfbLink.RadioCore
