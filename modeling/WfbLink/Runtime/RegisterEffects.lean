/-
What the register accesses of the init sequence do to registers some bits of which are stuck.

- `Performs P action Q e`: whichever transfers fail, an action that returns has had the effect `e`, and one that fails
  has written nothing but what `e` writes.
- `performs_write8Verify`, ..: one lemma for each access.
-/
import WfbLink.RadioCore.StuckRegisters
import WfbLink.Runtime.DeviceFaults
import WfbLink.Runtime.ProductionRegister
import WfbLink.Runtime.RfSerial

namespace WfbLink.Runtime

open WfbLink.Core WfbLink.RadioCore

variable {α β : Type}

/-! ## Actions with an effect -/

theorem Acts.of_files {φ : Type} [RegisterFile φ] {faults : Prop} {P : φ → Prop} {action : RegisterAction α}
    {Q : α → φ → Prop} {E : φ → Prop}
    (h : ∀ start, P start → Acts faults (fun file => file = start) action Q E) : Acts faults P action Q E :=
  fun s hs => h s.transport.file hs.2 s ⟨hs.1, rfl⟩

def Performs (P : StuckRegisters → Prop) (action : RegisterAction α) (Q : α → Prop) (e : Effect RegisterBit Bool) :
    Prop :=
  ∀ start, P start → Acts True (fun file => file = start) action
    (fun a file => Q a ∧ StuckRegisters.Reached e start file) (StuckRegisters.Within e start)

/-- the bytes at some addresses are what they are known to be -/
def Known (addresses : List UInt16) (values : UInt16 → UInt8) (file : StuckRegisters) : Prop :=
  ∀ address ∈ addresses, file.value address 1 = (values address).toNat

/-- steps that avoid them keep them -/
theorem Known.kept {addresses : List UInt16} {values : UInt16 → UInt8} {steps : List RegisterStep}
    {start after : StuckRegisters} (h : Known addresses values start)
    (havoid : addresses.all (RegisterStep.avoid steps) = true)
    (hwithin : StuckRegisters.Within (RegisterStep.effects steps) start after) : Known addresses values after := by
  intro address haddress
  rw [← h address haddress]
  apply hwithin.value_of_avoid
  intro k hk
  rw [Nat.lt_one_iff.1 hk, show UInt16.ofNat 0 = 0 from rfl, UInt16.add_zero]
  exact List.all_eq_true.1 havoid address haddress

namespace Performs

variable {P P' : StuckRegisters → Prop} {Q Q' : α → Prop} {R : β → Prop} {action : RegisterAction α}
  {f : α → RegisterAction β} {e e' : Effect RegisterBit Bool}

theorem reached_empty (start : StuckRegisters) : StuckRegisters.Reached .empty start start := by
  refine ⟨rfl, ?_, ?_⟩
  · funext c
    rw [Overwrite.apply_of_none]
    exact Overwrite.restrict_eq_none rfl
  · rintro c b ⟨⟩

theorem pure {a : α} (hQ : Q a) : Performs P (Pure.pure a) Q .empty := by
  intro start _
  apply Acts.pure
  intro file hfile
  rw [hfile]
  exact ⟨hQ, reached_empty start⟩

theorem fail (error : RuntimeRadioError) (e : Effect RegisterBit Bool) : Performs P (RegisterAction.fail error) Q e := by
  intro start _
  apply Acts.fail
  intro file hfile
  rw [hfile]
  exact .refl e start

theorem weaken (h : Performs P action Q e) (hpre : ∀ start, P' start → P start) (hpost : ∀ a, Q a → Q' a) :
    Performs P' action Q' e :=
  fun start hstart => (h start (hpre start hstart)).weaken (fun _ h => h) (fun _ _ h => ⟨hpost _ h.1, h.2⟩) fun _ h => h

/-- one after the other -/
theorem bind (h : Performs P action Q e) (hP : ∀ start after, P start → StuckRegisters.Reached e start after → P' after)
    (hf : ∀ a, Q a → Performs P' (f a) R e') : Performs P (action >>= f) R (e.andThen e') := by
  intro start hstart
  apply Acts.bind ((h start hstart).weaken (fun _ h => h) (fun _ _ h => h) fun _ h => h.left e')
  intro a
  apply Acts.of_files
  intro after hafter
  refine (hf a hafter.1 after (hP start after hstart hafter.2)).weaken (fun _ h => h) ?_ ?_
  · intro b final hfinal
    exact ⟨hfinal.1, hafter.2.andThen hfinal.2⟩
  · intro final hfinal
    exact StuckRegisters.Within.andThen hafter.2 hfinal

/-- what comes next holds of all registers -/
theorem next (h : Performs P action Q e) (hf : ∀ a, Q a → Performs (fun _ => True) (f a) R e') :
    Performs P (action >>= f) R (e.andThen e') :=
  h.bind (fun _ _ _ _ => trivial) hf

/-- after an action that changes nothing -/
theorem bind_empty (h : Performs P action Q .empty) (hf : ∀ a, Q a → Performs P (f a) R e) :
    Performs P (action >>= f) R e := by
  have hempty {start after : StuckRegisters} (hreached : StuckRegisters.Reached .empty start after) : after = start :=
    hreached.unique (reached_empty start)
  rw [← Effect.empty_andThen e]
  exact h.bind (fun start after hstart hreached => by rwa [hempty hreached]) hf

/-- what is returned at the end does not matter -/
theorem return_ {b : β} (h : Performs P action Q e) (hR : R b) :
    Performs P (action >>= fun _ => Pure.pure b) R e := by
  rw [← Effect.andThen_empty e]
  exact h.next fun _ _ => pure hR

theorem map (h : Performs P action Q e) (g : α → β) :
    Performs P (action >>= fun a => Pure.pure (g a)) (fun _ => True) e := by
  rw [← Effect.andThen_empty e]
  exact h.next fun _ _ => pure trivial

theorem counters : Performs P RegisterAction.counters (fun _ => True) .empty := by
  intro start _
  refine Acts.counters.weaken (fun _ h => h) ?_ fun _ h => h
  rintro _ file rfl
  exact ⟨trivial, reached_empty _⟩

/-! Sequences, whose effect is a list of steps -/

variable {step : RegisterStep} {steps steps' : List RegisterStep}

/-- the last one -/
theorem last (h : Performs P action Q step.effect) : Performs P action Q (RegisterStep.effects [step]) := by
  rw [← Effect.andThen_empty step.effect] at h
  exact h

theorem cons (h : Performs P action Q step.effect)
    (hf : ∀ a, Q a → Performs (fun _ => True) (f a) R (RegisterStep.effects steps)) :
    Performs P (action >>= f) R (RegisterStep.effects (step :: steps)) :=
  h.next hf

/-- two steps with one effect -/
theorem cons_pair {γ : Type} {first : RegisterAction γ} {second : γ → RegisterAction α}
    (h : Performs P (first >>= second) Q step.effect)
    (hf : ∀ a, Q a → Performs (fun _ => True) (f a) R (RegisterStep.effects steps)) :
    Performs P (first >>= fun c => second c >>= f) R (RegisterStep.effects (step :: steps)) := by
  rw [← RegisterAction.bind_assoc]
  exact h.cons hf

theorem append (h : Performs P action Q (RegisterStep.effects steps))
    (hf : ∀ a, Q a → Performs (fun _ => True) (f a) R (RegisterStep.effects steps')) :
    Performs P (action >>= f) R (RegisterStep.effects (steps ++ steps')) := by
  rw [RegisterStep.effects_append]
  exact h.next hf

/-- some steps for each item -/
theorem forM {γ : Type} (items : List γ) {body : γ → RegisterAction Unit} {itemSteps : γ → List RegisterStep}
    (h : ∀ item, Performs (fun _ => True) (body item) (fun _ => True) (RegisterStep.effects (itemSteps item))) :
    Performs P (items.forM body) (fun _ => True) (RegisterStep.effects (items.flatMap itemSteps)) := by
  induction items generalizing P with
  | nil => exact pure trivial
  | cons item items ih => exact ((h item).weaken (fun _ _ => trivial) fun _ h => h).append fun _ _ => ih

/-! Steps that keep what is known -/

variable {addresses : List UInt16} {values : UInt16 → UInt8}

theorem consKnown (h : Performs (Known addresses values) action Q step.effect)
    (havoid : addresses.all (RegisterStep.avoid [step]) = true)
    (hf : ∀ a, Q a → Performs (Known addresses values) (f a) R (RegisterStep.effects steps)) :
    Performs (Known addresses values) (action >>= f) R (RegisterStep.effects (step :: steps)) := by
  refine h.bind (fun start after hstart hreached => ?_) hf
  apply hstart.kept havoid
  have heffects : RegisterStep.effects [step] = step.effect := Effect.andThen_empty step.effect
  rw [heffects]
  exact hreached.within

theorem appendKnown (steps : List RegisterStep) (h : Performs (Known addresses values) action Q (RegisterStep.effects steps))
    (havoid : addresses.all (RegisterStep.avoid steps) = true)
    (hf : ∀ a, Q a → Performs (Known addresses values) (f a) R (RegisterStep.effects steps')) :
    Performs (Known addresses values) (action >>= f) R (RegisterStep.effects (steps ++ steps')) := by
  rw [RegisterStep.effects_append]
  exact h.bind (fun start after hstart hreached => hstart.kept havoid hreached.within) hf

/-- **A run.** However it ends, nothing else was written; if it returns, it has had the effect. -/
theorem outcome (h : Performs P action Q e) {s s' : RegisterRun (FaultyDevice StuckRegisters)}
    {outcome : Except RuntimeRadioError α} (hP : P s.transport.file) (hrun : action.exec s = (outcome, s')) :
    StuckRegisters.Within e s.transport.file s'.transport.file ∧
      ∀ a, outcome = .ok a → Q a ∧ StuckRegisters.Reached e s.transport.file s'.transport.file := by
  obtain ⟨hok, herror⟩ := Handles.of_run (h _ hP) hrun ⟨.inl trivial, rfl⟩
  cases outcome with
  | ok a =>
    obtain ⟨-, hQ, hreached⟩ := hok a rfl
    refine ⟨hreached.within, ?_⟩
    rintro _ ⟨⟩
    exact ⟨hQ, hreached⟩
  | error error =>
    refine ⟨(herror error rfl).2, ?_⟩
    rintro _ ⟨⟩

end Performs

/-! ## Single accesses -/

/-- the access reads the word of `n` bytes at an address -/
def ReadsValue (read : RegisterAction α) (toNat : α → ℕ) (address : UInt16) (n : ℕ) : Prop :=
  ∀ (faults : Prop) (before : StuckRegisters), Acts faults (fun file => file = before) read
    (fun value file => toNat value = before.value address n ∧ file = before) fun file => faults ∧ file = before

/-- all or nothing is written -/
def Writes (write : RegisterAction Unit) (o : Overwrite RegisterBit Bool) : Prop :=
  ∀ (faults : Prop) (before : StuckRegisters), Acts faults (fun file => file = before) write
    (fun _ file => file = before.write o) fun file => faults ∧ file = before

/-- the access writes a word of `n` bytes -/
abbrev WritesValue (write : RegisterAction Unit) (address : UInt16) (n value : ℕ) : Prop :=
  Writes write (wordWrite address n value)

/-- a word is written, and a field found in it -/
def wordStep (address : UInt16) (n value mask expected : ℕ) : RegisterStep :=
  ⟨address, n, 2 ^ (8 * n) - 1, value, mask, expected⟩

/-- a word is written and found -/
def setWord (address : UInt16) (n value : ℕ) : RegisterStep := wordStep address n value (2 ^ (8 * n) - 1) value

/-- a field is written and found -/
def setField (address : UInt16) (n mask value : ℕ) : RegisterStep := ⟨address, n, mask, value, mask, value⟩

/-- a field is written and not looked for -/
def blindField (address : UInt16) (n mask value : ℕ) : RegisterStep := ⟨address, n, mask, value, 0, 0⟩

/-- a field is found -/
def foundField (address : UInt16) (n mask expected : ℕ) : RegisterStep := ⟨address, n, 0, 0, mask, expected⟩

theorem blindField_effect (address : UInt16) (n mask value : ℕ) :
    (blindField address n mask value).effect = { writes := fieldWrite address n mask value, finds := .empty } :=
  congrArg (Effect.mk _) (fieldWrite_zero address n 0)

theorem foundField_effect (address : UInt16) (n mask expected : ℕ) :
    (foundField address n mask expected).effect = { writes := .empty, finds := fieldWrite address n mask expected } :=
  congrArg (Effect.mk · _) (fieldWrite_zero address n 0)

/-- the effect of a write and of the reading back -/
theorem blind_found (address : UInt16) (n mask value found expected : ℕ) :
    (RegisterStep.mk address n mask value found expected).effect
      = (blindField address n mask value).effect.andThen (foundField address n found expected).effect := by
  rw [blindField_effect, foundField_effect, Effect.andThen, RegisterStep.effect]
  congr 1
  funext c
  exact Option.or_none.symm

theorem reached_write {o finds : Overwrite RegisterBit Bool} {start : StuckRegisters}
    (hfound : finds.Found (start.write o).bits) :
    StuckRegisters.Reached { writes := o, finds } start (start.write o) := ⟨rfl, rfl, hfound⟩

section Access

variable (registers : Rtl8812auRegisterAccess) (address : UInt16) (registerName phase : String)

theorem readsValue8 : ReadsValue (read8WithCounter registers address registerName phase) UInt8.toNat address 1 := by
  intro faults before
  refine Acts.readWithCustomError (registers.read8_loads address) _ (fun hf _ h => ⟨hf, h⟩) ?_
  intro file hfile
  rw [hfile]
  exact ⟨(UInt8.toNat_ofNat').trans (Nat.mod_eq_of_lt (before.value_lt address 1)), rfl⟩

theorem readsValue16 : ReadsValue (read16WithCounter registers address registerName phase) UInt16.toNat address 2 := by
  intro faults before
  refine Acts.readWithCustomError (registers.read16_loads address) _ (fun hf _ h => ⟨hf, h⟩) ?_
  intro file hfile
  rw [hfile]
  exact ⟨(UInt16.toNat_ofNat').trans (Nat.mod_eq_of_lt (before.value_lt address 2)), rfl⟩

theorem readsValue32 : ReadsValue (read32WithCounter registers address registerName phase) UInt32.toNat address 4 := by
  intro faults before
  refine Acts.readWithCustomError (registers.read32_loads address) _ (fun hf _ h => ⟨hf, h⟩) ?_
  intro file hfile
  rw [hfile]
  exact ⟨(UInt32.toNat_ofNat').trans (Nat.mod_eq_of_lt (before.value_lt address 4)), rfl⟩

theorem writesValue8 (value : UInt8) :
    WritesValue (write8WithCounter registers address value registerName phase) address 1 value.toNat := by
  intro faults before
  refine Acts.writeWithCustomError (registers.writeAll_stores address .u8 [value] rfl) _ (fun hf _ h => ⟨hf, h⟩) ?_
  intro file hfile
  rw [hfile]
  rfl

theorem writesValue16 (value : UInt16) :
    WritesValue (write16WithCounter registers address value registerName phase) address 2 value.toNat := by
  intro faults before
  refine Acts.writeWithCustomError (registers.writeAll_stores address .u16 (toLeU16 value.toNat) rfl) _
    (fun hf _ h => ⟨hf, h⟩) ?_
  intro file hfile
  rw [hfile]
  exact congrArg (fun v => before.write (wordWrite address 2 v)) (fromLeBytes_toLeU16 value.toNat_lt)

theorem writesValue32 (value : UInt32) :
    WritesValue (write32WithCounter registers address value registerName phase) address 4 value.toNat := by
  intro faults before
  refine Acts.writeWithCustomError (registers.writeAll_stores address .u32 (toLeU32 value.toNat) rfl) _
    (fun hf _ h => ⟨hf, h⟩) ?_
  intro file hfile
  rw [hfile]
  exact congrArg (fun v => before.write (wordWrite address 4 v)) (fromLeBytes_toLeU32 value.toNat_lt)

end Access

/-! ## Reading -/

section Reading

variable {P : StuckRegisters → Prop} {read : RegisterAction α} {toNat : α → ℕ} {address : UInt16} {n mask : ℕ}

theorem ReadsValue.acts (h : ReadsValue read toNat address n) (before : StuckRegisters) :
    Acts True (fun file => file = before) read
      (fun value file => toNat value = before.value address n ∧ file = before) fun file => file = before :=
  (h True before).weaken (fun _ h => h) (fun _ _ h => h) fun _ h => h.2

/-- a read changes nothing -/
theorem ReadsValue.performs (h : ReadsValue read toNat address n) :
    Performs P read (fun value => ∃ start, P start ∧ toNat value = start.value address n) .empty := by
  intro start hstart
  refine (h.acts start).weaken (fun _ h => h) ?_ ?_
  · rintro value file ⟨hvalue, rfl⟩
    exact ⟨⟨_, hstart, hvalue⟩, Performs.reached_empty _⟩
  · rintro file rfl
    exact .refl _ _

/-- reading again until the field is as expected -/
theorem ReadsValue.verifyReadback [DecidableEq α] (h : ReadsValue read toNat address n) (masked : α → α) (expected : α)
    (mismatch : α → RuntimeRadioError) (before : StuckRegisters) (attempts : ℕ) (actual : α) :
    Acts True (fun file => file = before) (verifyReadback read masked expected mismatch attempts actual)
      (fun value file => (masked value = expected ∧ toNat value = before.value address n) ∧ file = before)
      fun file => file = before := by
  induction attempts generalizing actual with
  | zero => exact Acts.fail _ fun _ h => h
  | succ attempts ih =>
    unfold Runtime.verifyReadback
    apply Acts.bind (h.acts before)
    intro after
    apply Acts.assume
    intro hafter
    split
    · rename_i hmasked
      exact Acts.pure fun _ hfile => ⟨⟨hmasked, hafter⟩, hfile⟩
    · exact ih _

/-- polling, which is reading again -/
theorem ReadsValue.pollReads (h : ReadsValue read toNat address n) (ready : α → Prop) [DecidablePred ready]
    (timeout : α → RuntimeRadioError) (before : StuckRegisters) (attempts k : ℕ) (last : α) :
    Acts True (fun file => file = before) (pollReads read ready timeout attempts k last)
      (fun _ file => (∃ value, ready value ∧ toNat value = before.value address n) ∧ file = before)
      fun file => file = before := by
  induction attempts generalizing k last with
  | zero => exact Acts.fail _ fun _ h => h
  | succ attempts ih =>
    unfold Runtime.pollReads
    apply Acts.bind (h.acts before)
    intro value
    apply Acts.assume
    intro hvalue
    split
    · rename_i hready
      exact Acts.pure fun _ hfile => ⟨⟨value, hready, hvalue⟩, hfile⟩
    · exact ih _ _

/-- a field that was read is found -/
theorem performs_found {action : RegisterAction β} {expected : ℕ} {good : β → StuckRegisters → Prop}
    (h : ∀ before : StuckRegisters, Acts True (fun file => file = before) action
      (fun b file => good b before ∧ file = before) fun file => file = before)
    (hgood : ∀ b before, good b before → before.value address n &&& mask = expected &&& mask) :
    Performs P action (fun _ => True) (foundField address n mask expected).effect := by
  rw [foundField_effect]
  intro start _
  refine (h start).weaken (fun _ h => h) ?_ ?_
  · rintro b file ⟨hb, rfl⟩
    refine ⟨trivial, rfl, ?_, file.found_field address n (hgood b _ hb)⟩
    funext c
    rw [Overwrite.apply_of_none]
    exact Overwrite.restrict_eq_none rfl
  · rintro file rfl
    exact .refl _ _

end Reading

section Verify

variable {P : StuckRegisters → Prop} (registers : Rtl8812auRegisterAccess) (registerName : String) (address : UInt16)
  (phase : String)

theorem performs_verify8 (mask expected : UInt8) :
    Performs P (productionVerify8Readback registers registerName address mask expected phase) (fun _ => True)
      (foundField address 1 mask.toNat expected.toNat).effect := by
  apply performs_found ((readsValue8 registers address registerName phase).verifyReadback _ _ _ · _ _)
  rintro value before ⟨hmasked, hvalue⟩
  rw [← hvalue, ← UInt8.toNat_and, ← UInt8.toNat_and, hmasked]

theorem performs_verify16 (mask expected : UInt16) :
    Performs P (productionVerify16Readback registers registerName address mask expected phase) (fun _ => True)
      (foundField address 2 mask.toNat expected.toNat).effect := by
  apply performs_found ((readsValue16 registers address registerName phase).verifyReadback _ _ _ · _ _)
  rintro value before ⟨hmasked, hvalue⟩
  rw [← hvalue, ← UInt16.toNat_and, ← UInt16.toNat_and, hmasked]

theorem performs_verify32 (mask expected : UInt32) :
    Performs P (productionVerify32Readback registers registerName address mask expected phase) (fun _ => True)
      (foundField address 4 mask.toNat expected.toNat).effect := by
  apply performs_found ((readsValue32 registers address registerName phase).verifyReadback _ _ _ · _ _)
  rintro value before ⟨hmasked, hvalue⟩
  rw [← hvalue, ← UInt32.toNat_and, ← UInt32.toNat_and, hmasked]

theorem performs_poll8 (mask expected : UInt8) (attempts : ℕ) :
    Performs P (productionPoll8 registers registerName address mask expected attempts) (fun _ => True)
      (foundField address 1 mask.toNat expected.toNat).effect := by
  apply performs_found ((readsValue8 registers address registerName "poll8").pollReads _ _ · _ _ _)
  rintro _ before ⟨value, hready, hvalue⟩
  rw [← hvalue, ← UInt8.toNat_and, ← UInt8.toNat_and, hready]

end Verify

/-! ## Writing -/

section Writing

variable {P : StuckRegisters → Prop} {read verify : RegisterAction α} {toNat : α → ℕ} {write : α → RegisterAction Unit}
  {address : UInt16} {n value mask expected : ℕ}

theorem Writes.performs {write : RegisterAction Unit} {o : Overwrite RegisterBit Bool} (h : Writes write o) :
    Performs P write (fun _ => True) { writes := o, finds := .empty } := by
  intro start _
  refine (h True start).weaken (fun _ h => h) ?_ ?_
  · rintro _ file rfl
    exact ⟨trivial, reached_write (Overwrite.found_empty _)⟩
  · rintro file ⟨-, rfl⟩
    exact .refl _ _

theorem WritesValue.performs {write : RegisterAction Unit} (h : WritesValue write address n value) :
    Performs P write (fun _ => True) (blindField address n (2 ^ (8 * n) - 1) value).effect := by
  rw [blindField_effect]
  exact Writes.performs h

theorem performs_writeVerify {write : RegisterAction Unit} (verifies : Bool) (h : WritesValue write address n value)
    (hverify : Performs (fun _ => True) verify (fun _ => True) (foundField address n mask expected).effect)
    (hmask : verifies = false → mask = 0) :
    Performs P (writeVerify write verifies verify) (fun _ => True) (wordStep address n value mask expected).effect := by
  rw [wordStep, blind_found]
  refine (h.performs (P := P)).next fun _ _ => ?_
  cases verifies with
  | true => exact hverify.return_ trivial
  | false =>
    rw [foundField_effect, hmask rfl, fieldWrite_zero]
    exact Performs.pure trivial

/-- **A field is written.** All other bits of the word are written back as they were. -/
theorem performs_written {write : RegisterAction Unit} {word : ℕ} {start : StuckRegisters}
    (hwrite : WritesValue write address n word)
    (hkept : ∀ j < 8 * n, word.testBit j = if mask.testBit j then value.testBit j
      else (start.value address n).testBit j) :
    Performs (fun file => file = start) write (fun _ => True) (blindField address n mask value).effect := by
  rw [blindField_effect]
  intro again hagain
  rw [hagain]
  refine (hwrite True start).weaken (fun _ h => h) ?_ ?_
  · rintro _ file rfl
    rw [start.write_kept address n hkept]
    exact ⟨trivial, reached_write (Overwrite.found_empty _)⟩
  · rintro file ⟨-, rfl⟩
    exact .refl _ _

/-- the word that is read is written back with a new field -/
theorem writes_change {change : α → α} (hread : ReadsValue read toNat address n)
    (hwrite : ∀ a, WritesValue (write a) address n (toNat a))
    (hchange : ∀ a, ∀ j < 8 * n, (toNat (change a)).testBit j = if mask.testBit j then value.testBit j
      else (toNat a).testBit j) :
    Writes (read >>= fun before => write (change before)) (fieldWrite address n mask value) := by
  intro faults start
  apply Acts.bind (hread faults start)
  intro before
  apply Acts.assume
  intro hbefore
  refine (hwrite (change before) faults start).weaken (fun _ h => h) ?_ fun _ h => h
  rintro _ file rfl
  apply start.write_kept
  intro j hj
  rw [← hbefore]
  exact hchange before j hj

theorem performs_change {change : α → α} (hread : ReadsValue read toNat address n)
    (hwrite : ∀ a, WritesValue (write a) address n (toNat a))
    (hchange : ∀ a, ∀ j < 8 * n, (toNat (change a)).testBit j = if mask.testBit j then value.testBit j
      else (toNat a).testBit j) :
    Performs P (read >>= fun before => write (change before)) (fun _ => True) (blindField address n mask value).effect := by
  rw [blindField_effect]
  exact (writes_change hread hwrite hchange).performs

/-- what follows the change -/
theorem performs_rmw {change : α → α} (hread : ReadsValue read toNat address n)
    (hwrite : ∀ a, WritesValue (write a) address n (toNat a))
    (hchange : ∀ a, ∀ j < 8 * n, (toNat (change a)).testBit j = if mask.testBit j then value.testBit j
      else (toNat a).testBit j) (f : RegisterAction β) {Q : β → Prop} {e : Effect RegisterBit Bool}
    (hf : Performs (fun _ => True) f Q e) :
    Performs P (do let before ← read; write (change before); f) Q ((blindField address n mask value).effect.andThen e) := by
  rw [← RegisterAction.bind_assoc]
  exact (performs_change hread hwrite hchange).next fun _ _ => hf

theorem performs_rmwVerify {change : α → α} (hread : ReadsValue read toNat address n)
    (hwrite : ∀ a, WritesValue (write a) address n (toNat a))
    (hchange : ∀ a, ∀ j < 8 * n, (toNat (change a)).testBit j = if mask.testBit j then value.testBit j
      else (toNat a).testBit j)
    (hverify : Performs (fun _ => True) verify (fun _ => True) (foundField address n mask value).effect) :
    Performs P (rmwVerify read change write verify) (fun _ => True) (setField address n mask value).effect := by
  rw [setField, blind_found]
  exact performs_rmw hread hwrite hchange _ (hverify.return_ trivial)

end Writing

/-! ## The accesses of the init sequence -/

theorem testBit_preserving8 (mask value before : UInt8) {j : ℕ} (hj : j < 8) :
    (preserving (~~~mask) mask value before).toNat.testBit j
      = if mask.toNat.testBit j then value.toNat.testBit j else before.toNat.testBit j := by
  simp only [preserving, ← UInt8.toNat_toBitVec, BitVec.testBit_toNat, UInt8.toBitVec_or, UInt8.toBitVec_and,
    UInt8.toBitVec_not, BitVec.getLsbD_or, BitVec.getLsbD_and, BitVec.getLsbD_not, hj, decide_true, Bool.true_and]
  cases mask.toBitVec.getLsbD j <;> simp

theorem testBit_preserving16 (mask value before : UInt16) {j : ℕ} (hj : j < 16) :
    (preserving (~~~mask) mask value before).toNat.testBit j
      = if mask.toNat.testBit j then value.toNat.testBit j else before.toNat.testBit j := by
  simp only [preserving, ← UInt16.toNat_toBitVec, BitVec.testBit_toNat, UInt16.toBitVec_or, UInt16.toBitVec_and,
    UInt16.toBitVec_not, BitVec.getLsbD_or, BitVec.getLsbD_and, BitVec.getLsbD_not, hj, decide_true, Bool.true_and]
  cases mask.toBitVec.getLsbD j <;> simp

theorem testBit_preserving32 (mask value before : UInt32) {j : ℕ} (hj : j < 32) :
    (preserving (~~~mask) mask value before).toNat.testBit j
      = if mask.toNat.testBit j then value.toNat.testBit j else before.toNat.testBit j := by
  simp only [preserving, ← UInt32.toNat_toBitVec, BitVec.testBit_toNat, UInt32.toBitVec_or, UInt32.toBitVec_and,
    UInt32.toBitVec_not, BitVec.getLsbD_or, BitVec.getLsbD_and, BitVec.getLsbD_not, hj, decide_true, Bool.true_and]
  cases mask.toBitVec.getLsbD j <;> simp

/-- the bits under the mask are cleared -/
theorem testBit_clearing8 (mask before : UInt8) {j : ℕ} (hj : j < 8) :
    (before &&& ~~~mask).toNat.testBit j = if mask.toNat.testBit j then Nat.testBit 0 j else before.toNat.testBit j := by
  have hclear : before &&& ~~~mask = preserving (~~~mask) mask 0 before := by
    rw [preserving, UInt8.zero_and, UInt8.or_zero]
  rw [hclear]
  exact testBit_preserving8 mask 0 before hj

section Init

variable {P : StuckRegisters → Prop} (registers : Rtl8812auRegisterAccess) (registerName : String) (address : UInt16)
  (phase : String)

theorem performs_write8 (value : UInt8) :
    Performs P (write8WithCounter registers address value registerName phase) (fun _ => True)
      (blindField address 1 (2 ^ 8 - 1) value.toNat).effect :=
  (writesValue8 registers address registerName phase value).performs

theorem performs_write16 (value : UInt16) :
    Performs P (write16WithCounter registers address value registerName phase) (fun _ => True)
      (blindField address 2 (2 ^ 16 - 1) value.toNat).effect :=
  (writesValue16 registers address registerName phase value).performs

theorem performs_write32 (value : UInt32) :
    Performs P (write32WithCounter registers address value registerName phase) (fun _ => True)
      (blindField address 4 (2 ^ 32 - 1) value.toNat).effect :=
  (writesValue32 registers address registerName phase value).performs

theorem performs_write8Verify (value verifyMask verifyValue : UInt8) :
    Performs P (productionWrite8Verify registers registerName address value verifyMask verifyValue phase)
      (fun _ => True) (wordStep address 1 value.toNat verifyMask.toNat verifyValue.toNat).effect := by
  have hverify := performs_verify8 (P := fun _ => True) registers registerName address phase verifyMask verifyValue
  have h := performs_writeVerify (P := P) (verifyMask ≠ 0)
    (writesValue8 registers address registerName phase value) hverify fun h => by
      rw [of_not_not (of_decide_eq_false h)]
      rfl
  simp only [writeVerify, decide_eq_true_eq] at h
  exact h

theorem performs_write16Verify (value verifyMask verifyValue : UInt16) :
    Performs P (productionWrite16Verify registers registerName address value verifyMask verifyValue phase)
      (fun _ => True) (wordStep address 2 value.toNat verifyMask.toNat verifyValue.toNat).effect :=
  performs_writeVerify _ (writesValue16 registers address registerName phase value)
    (performs_verify16 registers registerName address phase verifyMask verifyValue) fun h => by
      rw [of_not_not (of_decide_eq_false h)]
      rfl

theorem performs_write32Verify (value verifyMask verifyValue : UInt32) :
    Performs P (productionWrite32Verify registers registerName address value verifyMask verifyValue phase)
      (fun _ => True) (wordStep address 4 value.toNat verifyMask.toNat verifyValue.toNat).effect := by
  have hverify := performs_verify32 (P := fun _ => True) registers registerName address phase verifyMask verifyValue
  have h := performs_writeVerify (P := P) (verifyMask ≠ 0)
    (writesValue32 registers address registerName phase value) hverify fun h => by
      rw [of_not_not (of_decide_eq_false h)]
      rfl
  simp only [writeVerify, decide_eq_true_eq] at h
  exact h

theorem performs_rmw8Preserve (mask value : UInt8) :
    Performs P (productionRmw8Preserve registers registerName address (~~~mask) mask value phase) (fun _ => True)
      (setField address 1 mask.toNat value.toNat).effect :=
  performs_rmwVerify (readsValue8 registers address registerName phase)
    (fun written => writesValue8 registers address registerName phase written)
    (fun before _ hj => testBit_preserving8 mask value before hj)
    (performs_verify8 registers registerName address phase mask value)

theorem performs_rmw16Preserve (mask value : UInt16) :
    Performs P (productionRmw16Preserve registers registerName address (~~~mask) mask value phase) (fun _ => True)
      (setField address 2 mask.toNat value.toNat).effect :=
  performs_rmwVerify (readsValue16 registers address registerName phase)
    (fun written => writesValue16 registers address registerName phase written)
    (fun before _ hj => testBit_preserving16 mask value before hj)
    (performs_verify16 registers registerName address phase mask value)

theorem performs_rmw32Preserve (mask value : UInt32) :
    Performs P (productionRmw32Preserve registers registerName address (~~~mask) mask value phase) (fun _ => True)
      (setField address 4 mask.toNat value.toNat).effect :=
  performs_rmwVerify (readsValue32 registers address registerName phase)
    (fun written => writesValue32 registers address registerName phase written)
    (fun before _ hj => testBit_preserving32 mask value before hj)
    (performs_verify32 registers registerName address phase mask value)

/-- the read-modify-write whose mask is the field, verified -/
theorem performs_rmw8_verified (mask value : UInt8) :
    Performs P (productionRmw8 registers registerName address mask value true phase) (fun _ => True)
      (setField address 1 mask.toNat value.toNat).effect :=
  performs_rmw8Preserve registers registerName address phase mask value

/-- the same, not verified -/
theorem performs_rmw8_blind (mask value : UInt8) :
    Performs P (productionRmw8 registers registerName address mask value false phase) (fun _ => True)
      (blindField address 1 mask.toNat value.toNat).effect := by
  rw [← Effect.andThen_empty (blindField _ _ _ _).effect]
  exact performs_rmw (readsValue8 registers address registerName phase)
    (fun written => writesValue8 registers address registerName phase written)
    (fun before _ hj => testBit_preserving8 mask value before hj) _ (Performs.pure trivial)

/-- a byte that is written with a new field, and read back in full -/
theorem performs_write8Verify_kept {start : StuckRegisters} {word mask value : UInt8}
    (hkept : ∀ j < 8, word.toNat.testBit j = if mask.toNat.testBit j then value.toNat.testBit j
      else (start.value address 1).testBit j) :
    Performs (fun file => file = start) (productionWrite8Verify registers registerName address word 0xff word phase)
      (fun _ => True) (setField address 1 mask.toNat value.toNat).effect := by
  rw [setField, blind_found]
  refine (performs_written (writesValue8 registers address registerName phase word) hkept).next fun _ _ => ?_
  rw [if_pos (by decide)]
  refine Performs.return_ (performs_found ((readsValue8 registers address registerName phase).verifyReadback _ _ _ · _ _)
    ?_) trivial
  rintro after before ⟨hmasked, hafter⟩
  have hfull (v : UInt8) : v &&& 0xff = v := UInt8.and_neg_one
  have hword : after = word := by
    change after &&& 0xff = word &&& 0xff at hmasked
    rwa [hfull, hfull] at hmasked
  apply Nat.eq_of_testBit_eq
  intro j
  rw [← hafter, hword, Nat.testBit_and, Nat.testBit_and]
  by_cases hj : j < 8
  · rw [hkept j hj]
    cases mask.toNat.testBit j <;> simp
  · have hmask := lt_of_lt_of_le mask.toNat_lt (Nat.pow_le_pow_right (by decide) (Nat.not_lt.1 hj))
    rw [Nat.testBit_lt_two_pow hmask, Bool.and_false, Bool.and_false]

/-- the bits that a masked write of the baseband writes -/
def shifted (bitmask data : UInt32) : UInt32 := data <<< UInt32.ofNat (trailingZeros bitmask)

theorem writes_bbSet (bitmask data : UInt32) :
    Writes (bbSetBbReg registers address bitmask data registerName)
      (fieldWrite address 4 bitmask.toNat (shifted bitmask data).toNat) := by
  unfold bbSetBbReg
  split
  · rename_i hfull
    have hdata : shifted bitmask data = data := by
      rw [shifted, hfull]
      exact UInt32.shiftLeft_zero
    rw [hdata, hfull]
    exact writesValue32 registers address registerName "bb-set" data
  · split
    · rename_i hempty
      intro faults before
      apply Acts.pure
      intro file hfile
      rw [hempty, show (0 : UInt32).toNat = 0 from rfl, fieldWrite_zero, StuckRegisters.write_empty, hfile]
    · exact writes_change (readsValue32 registers address registerName "bb-set")
        (fun written => writesValue32 registers address registerName "bb-set" written)
        fun before _ hj => testBit_preserving32 bitmask (shifted bitmask data) before hj

theorem performs_bbSet (bitmask data : UInt32) :
    Performs P (bbSetBbReg registers address bitmask data registerName) (fun _ => True)
      (blindField address 4 bitmask.toNat (shifted bitmask data).toNat).effect := by
  rw [blindField_effect]
  exact (writes_bbSet registers registerName address bitmask data).performs

end Init

end WfbLink.Runtime
