/-
The registers of the radio behind the register transport.

Two ranges of addresses are banked: bit 31 of `REG_AGC_TABLE` selects which of two pages an access reaches. The radio
has RF registers of its own behind serial ports: writing a port on page C writes one of them, and reading a port reads
the one whose offset stands in the low byte of `rHSSIRead`. Two more ports answer with results of the hardware, which
may be anything.

- `patch_frame`: a write changes nothing outside the aligned word it goes to.
- `patch_restores`: writing back what a word held restores all of it.
- `SameBut`: two radios agree outside some words and RF registers.
-/
import WfbLink.Core.Bits
import WfbLink.RadioCore.RegisterDevice

namespace WfbLink.RadioCore

open WfbLink.Core

/-! ## Cells -/

/-- a byte of a register: whether it is on page C1, and its address -/
abbrev Cell : Type := Bool × UInt16

def banked (address : UInt16) : Bool := address / 256 = 0x0c || address / 256 = 0x0e

/-- the cell that an address reaches while the page is selected -/
def place (pageC1 : Bool) (address : UInt16) : Cell := (pageC1 && banked address, address)

/-- the aligned word a cell lies in -/
def wordOf (c : Cell) : Cell := (c.1, c.2 / 4 * 4)

/-- the word with `REG_AGC_TABLE` -/
def agcWord : Cell := (false, 0x082c)

theorem toNat_add_ofNat {address : UInt16} {i : ℕ} (h : address.toNat % 4 + i < 4) :
    (address + UInt16.ofNat i).toNat = address.toNat + i := by
  have haddress := address.toNat_lt
  rw [UInt16.toNat_add, UInt16.toNat_ofNat']
  omega

theorem banked_add {address : UInt16} {i : ℕ} (h : address.toNat % 4 + i < 4) :
    banked (address + UInt16.ofNat i) = banked address := by
  have hdiv : (address + UInt16.ofNat i) / 256 = address / 256 := by
    apply UInt16.toNat_inj.1
    rw [UInt16.toNat_div, UInt16.toNat_div, toNat_add_ofNat h]
    change (address.toNat + i) / 256 = address.toNat / 256
    omega
  rw [banked, banked, hdiv]

theorem wordOf_place_add (pageC1 : Bool) {address : UInt16} {i : ℕ} (h : address.toNat % 4 + i < 4) :
    wordOf (place pageC1 (address + UInt16.ofNat i)) = wordOf (place pageC1 address) := by
  have hdiv : (address + UInt16.ofNat i) / 4 * 4 = address / 4 * 4 := by
    apply UInt16.toNat_inj.1
    rw [UInt16.toNat_mul, UInt16.toNat_mul, UInt16.toNat_div, UInt16.toNat_div, toNat_add_ofNat h]
    change (address.toNat + i) / 4 * 4 % 65536 = address.toNat / 4 * 4 % 65536
    omega
  rw [wordOf, wordOf, place, place, banked_add h, hdiv]

/-- the cells of an aligned word -/
theorem mem_word {pageC1 : Bool} {address : UInt16} (haligned : address.toNat % 4 = 0) {c : Cell}
    (hc : wordOf c = wordOf (place pageC1 address)) :
    c = place pageC1 address ∨ c = place pageC1 (address + 1) ∨ c = place pageC1 (address + 2) ∨
      c = place pageC1 (address + 3) := by
  obtain ⟨bank, x⟩ := c
  obtain ⟨hbank, hword⟩ := Prod.ext_iff.1 hc
  have hnat := congrArg UInt16.toNat hword
  simp only [wordOf, place, UInt16.toNat_mul, UInt16.toNat_div] at hnat
  change x.toNat / 4 * 4 % 65536 = address.toNat / 4 * 4 % 65536 at hnat
  have hx := x.toNat_lt
  have ha := address.toNat_lt
  have hcell (i : ℕ) (hi : i < 4) (h : x.toNat = address.toNat + i) :
      (bank, x) = place pageC1 (address + UInt16.ofNat i) := by
    refine Prod.ext ?_ ?_
    · rw [place, banked_add (by omega)]
      exact hbank
    · apply UInt16.toNat_inj.1
      rw [h]
      exact (toNat_add_ofNat (by omega)).symm
  have hcases : x.toNat = address.toNat + 0 ∨ x.toNat = address.toNat + 1 ∨ x.toNat = address.toNat + 2 ∨
      x.toNat = address.toNat + 3 := by omega
  rcases hcases with h | h | h | h
  · left
    have h0 := hcell 0 (by decide) h
    rwa [show address + UInt16.ofNat 0 = address from UInt16.add_zero address] at h0
  · exact .inr (.inl (hcell 1 (by decide) h))
  · exact .inr (.inr (.inl (hcell 2 (by decide) h)))
  · exact .inr (.inr (.inr (hcell 3 (by decide) h)))

/-- the bytes one after the other, from `address` on -/
def patch (pageC1 : Bool) : UInt16 → List UInt8 → (Cell → UInt8) → Cell → UInt8
  | _, [], cells => cells
  | address, byte :: data, cells => patch pageC1 (address + 1) data (Function.update cells (place pageC1 address) byte)

/-- **Frame of a write.** Within one aligned word, a write changes no other word. -/
theorem patch_frame (pageC1 : Bool) {address : UInt16} {data : List UInt8}
    (hword : address.toNat % 4 + data.length ≤ 4) (cells : Cell → UInt8) {c : Cell}
    (hc : wordOf c ≠ wordOf (place pageC1 address)) : patch pageC1 address data cells c = cells c := by
  induction data generalizing address cells with
  | nil => rfl
  | cons byte data ih =>
    have hne : c ≠ place pageC1 address := fun h => hc (congrArg wordOf h)
    rw [List.length_cons] at hword
    rw [patch]
    rcases data with _ | ⟨next, data⟩
    · exact Function.update_of_ne hne _ _
    · rw [List.length_cons] at hword
      have hnext : (address + 1).toNat = address.toNat + 1 := toNat_add_ofNat (i := 1) (by omega)
      have hsame : wordOf (place pageC1 (address + 1)) = wordOf (place pageC1 address) :=
        wordOf_place_add pageC1 (i := 1) (by omega)
      rw [ih (by rw [List.length_cons, hnext]; omega) _ (by rwa [hsame])]
      exact Function.update_of_ne hne _ _

/-- **Writing back.** A word that gets the bytes of `cells'` agrees with it. -/
theorem patch_restores (pageC1 : Bool) {address : UInt16} (haligned : address.toNat % 4 = 0) (cells cells' : Cell → UInt8)
    {c : Cell} (hc : wordOf c = wordOf (place pageC1 address)) :
    patch pageC1 address [cells' (place pageC1 address), cells' (place pageC1 (address + 1)),
      cells' (place pageC1 (address + 2)), cells' (place pageC1 (address + 3))] cells c = cells' c := by
  have h2 : address + 1 + 1 = address + 2 := UInt16.add_assoc address 1 1
  have h3 : address + 2 + 1 = address + 3 := UInt16.add_assoc address 2 1
  simp only [patch, h2, h3, Function.update_apply]
  split
  · rename_i h; rw [h]
  split
  · rename_i h; rw [h]
  split
  · rename_i h; rw [h]
  split
  · rename_i h; rw [h]
  · rename_i h₃ h₂ h₁ h₀
    rcases mem_word haligned hc with h | h | h | h
    · exact absurd h h₀
    · exact absurd h h₁
    · exact absurd h h₂
    · exact absurd h h₃

/-! ## One bit -/

/-- bit 31 of a word is bit 7 of its last byte -/
theorem topBit_iff (value : UInt32) :
    UInt8.ofNat (value.toNat / 2 ^ 24) &&& 0x80 ≠ 0 ↔ value &&& 0x80000000 ≠ 0 := by
  rw [ne_eq, ne_eq, not_iff_not, ← UInt8.toNat_inj, ← UInt32.toNat_inj, UInt8.toNat_and, UInt32.toNat_and]
  change (UInt8.ofNat (value.toNat / 2 ^ 24)).toNat &&& 2 ^ 7 = 0 ↔ value.toNat &&& 2 ^ 31 = 0
  rw [and_two_pow_eq_zero, and_two_pow_eq_zero, UInt8.toNat_ofNat', Nat.testBit_mod_two_pow, Nat.testBit_div_two_pow]
  simp

/-! ## The radio -/

/-- the two paths of the radio -/
inductive RadioPath where
  | a
  | b
deriving DecidableEq, Repr

/-- an RF register: its path and its offset -/
abbrev RfCell : Type := RadioPath × UInt8

/-- the ports that do not read a cell -/
inductive ReadPort where
  | serial (path : RadioPath)
  | result

def readPort (address : UInt16) : Option ReadPort :=
  if address = 0x0d04 ∨ address = 0x0d08 then some (.serial .a)
  else if address = 0x0d44 ∨ address = 0x0d48 then some (.serial .b)
  else if address = 0x0d00 ∨ address = 0x0d40 then some .result
  else none

/-- the serial ports are on page C -/
def writePort (pageC1 : Bool) (address : UInt16) : Option RadioPath :=
  if pageC1 then none
  else if address = 0x0c90 then some .a
  else if address = 0x0e90 then some .b
  else none

/-- the RF register a word on a serial port is for -/
def serialOffset (value : UInt32) : UInt8 := UInt8.ofNat (value.toNat / 2 ^ 20)

def serialData (value : UInt32) : BitVec 20 := BitVec.ofNat 20 value.toNat

/-- the cells, the RF registers, and what the result ports answer, one after the other -/
structure RadioRegisters where
  cells : Cell → UInt8
  rf : RfCell → BitVec 20
  answers : ℕ → UInt32
  answered : ℕ := 0

namespace RadioRegisters

/-- bit 31 of `REG_AGC_TABLE` -/
def pageC1 (file : RadioRegisters) : Bool := file.cells (false, 0x082f) &&& 0x80 ≠ 0

def bytes (file : RadioRegisters) (address : UInt16) (n : ℕ) : List UInt8 :=
  (List.range n).map fun i => file.cells (place file.pageC1 (address + UInt16.ofNat i))

def load (file : RadioRegisters) (address : UInt16) (n : ℕ) : List UInt8 × RadioRegisters :=
  if n = 4 then
    match readPort address with
    | some (.serial path) => (toLeU32 (file.rf (path, file.cells (false, 0x08b0))).toNat, file)
    | some .result => (toLeU32 (file.answers file.answered).toNat, { file with answered := file.answered + 1 })
    | none => (file.bytes address 4, file)
  else (file.bytes address n, file)

def store (file : RadioRegisters) (address : UInt16) (data : List UInt8) : RadioRegisters where
  cells := patch file.pageC1 address data file.cells
  rf :=
    match if data.length = 4 then writePort file.pageC1 address else none with
    | some path =>
      let value := UInt32.ofNat (fromLeBytes data)
      Function.update file.rf (path, serialOffset value) (serialData value)
    | none => file.rf
  answers := file.answers
  answered := file.answered

instance : RegisterFile RadioRegisters where
  load := load
  store := store
  load_length file address n := by
    rw [load]
    split
    · rename_i hn
      rw [hn]
      split
      · rfl
      · rfl
      · rfl
    · rw [bytes, List.length_map, List.length_range]

/-- the word at an address, on a page -/
def wordAt (file : RadioRegisters) (pageC1 : Bool) (address : UInt16) : UInt32 :=
  UInt32.ofNat (leU32 (file.cells (place pageC1 address)) (file.cells (place pageC1 (address + 1)))
    (file.cells (place pageC1 (address + 2))) (file.cells (place pageC1 (address + 3))))

theorem toLeU32_wordAt (file : RadioRegisters) (pageC1 : Bool) (address : UInt16) :
    toLeU32 (file.wordAt pageC1 address).toNat =
      [file.cells (place pageC1 address), file.cells (place pageC1 (address + 1)),
        file.cells (place pageC1 (address + 2)), file.cells (place pageC1 (address + 3))] := by
  rw [wordAt, UInt32.toNat_ofNat', Nat.mod_eq_of_lt (leU32_lt _ _ _ _), toLeU32_leU32]

/-! ### Reading -/

theorem loadValue_word (file : RadioRegisters) {address : UInt16} (haddress : readPort address = none) :
    UInt32.ofNat (loadValue address 4 file).1 = file.wordAt file.pageC1 address ∧ (loadValue address 4 file).2 = file := by
  have hload : RegisterFile.load file address 4 = (file.bytes address 4, file) := by
    change file.load address 4 = _
    rw [load, if_pos rfl, haddress]
  have h0 : address + UInt16.ofNat 0 = address := UInt16.add_zero address
  rw [loadValue, hload]
  refine ⟨?_, rfl⟩
  rw [wordAt, ← fromLeBytes_four, bytes]
  simp only [List.range_succ, List.range_zero, List.nil_append, List.cons_append, List.map_cons, List.map_nil, h0]
  rfl

theorem loadValue_byte (file : RadioRegisters) (address : UInt16) :
    UInt8.ofNat (loadValue address 1 file).1 = file.cells (place file.pageC1 address) ∧
      (loadValue address 1 file).2 = file := by
  have hload : RegisterFile.load file address 1 = (file.bytes address 1, file) := rfl
  have h0 : address + UInt16.ofNat 0 = address := UInt16.add_zero address
  rw [loadValue, hload]
  refine ⟨?_, rfl⟩
  have hbytes : file.bytes address 1 = [file.cells (place file.pageC1 address)] := by
    rw [bytes, List.range_one, List.map_singleton, h0]
  rw [hbytes]
  exact UInt8.ofNat_toNat

theorem loadValue_serial (file : RadioRegisters) {address : UInt16} {path : RadioPath}
    (haddress : readPort address = some (.serial path)) :
    (loadValue address 4 file).1 = (file.rf (path, file.cells (false, 0x08b0))).toNat ∧
      (loadValue address 4 file).2 = file := by
  have hload : RegisterFile.load file address 4
      = (toLeU32 (file.rf (path, file.cells (false, 0x08b0))).toNat, file) := by
    change file.load address 4 = _
    rw [load, if_pos rfl, haddress]
  rw [loadValue, hload]
  exact ⟨fromLeBytes_toLeU32 (lt_trans (BitVec.isLt _) (by decide)), rfl⟩

/-- reading only uses up answers -/
theorem load_cells (file : RadioRegisters) (address : UInt16) (n : ℕ) :
    (RegisterFile.load file address n).2.cells = file.cells ∧ (RegisterFile.load file address n).2.rf = file.rf := by
  change (file.load address n).2.cells = _ ∧ (file.load address n).2.rf = _
  rw [load]
  split
  · split
    · exact ⟨rfl, rfl⟩
    · exact ⟨rfl, rfl⟩
    · exact ⟨rfl, rfl⟩
  · exact ⟨rfl, rfl⟩

/-! ### Writing -/

theorem store_cells (file : RadioRegisters) (address : UInt16) (data : List UInt8) :
    (RegisterFile.store file address data).cells = patch file.pageC1 address data file.cells := rfl

theorem store_rf_of_none (file : RadioRegisters) {address : UInt16} {data : List UInt8}
    (hport : data.length = 4 → writePort file.pageC1 address = none) :
    (RegisterFile.store file address data).rf = file.rf := by
  change (file.store address data).rf = file.rf
  rw [store]
  by_cases hlength : data.length = 4
  · simp only [if_pos hlength, hport hlength]
  · simp only [if_neg hlength]

theorem store_rf_of_some (file : RadioRegisters) {address : UInt16} {data : List UInt8} {path : RadioPath}
    (hlength : data.length = 4) (hport : writePort file.pageC1 address = some path) :
    (RegisterFile.store file address data).rf = Function.update file.rf
      (path, serialOffset (UInt32.ofNat (fromLeBytes data))) (serialData (UInt32.ofNat (fromLeBytes data))) := by
  change (file.store address data).rf = _
  rw [store]
  simp only [if_pos hlength, hport]

/-- a write elsewhere keeps the page -/
theorem store_pageC1 (file : RadioRegisters) {address : UInt16} {data : List UInt8}
    (hword : address.toNat % 4 + data.length ≤ 4) (hagc : wordOf (place file.pageC1 address) ≠ agcWord) :
    (RegisterFile.store file address data).pageC1 = file.pageC1 := by
  have hcell : (RegisterFile.store file address data).cells (false, 0x082f) = file.cells (false, 0x082f) :=
    patch_frame _ hword _ fun h => hagc (h.symm.trans (by decide))
  rw [pageC1, pageC1, hcell]

/-- writing `REG_AGC_TABLE` selects the page in its bit 31 -/
theorem store_agc (file : RadioRegisters) (value : UInt32) :
    (RegisterFile.store file 0x082c (toLeU32 value.toNat)).pageC1 = decide (value &&& 0x80000000 ≠ 0) := by
  have hcell : (RegisterFile.store file 0x082c (toLeU32 value.toNat)).cells (false, 0x082f)
      = UInt8.ofNat (value.toNat / 2 ^ 24) := by
    rw [store_cells, toLeU32]
    have hplace (a : UInt16) (ha : banked a = false) : place file.pageC1 a = (false, a) := by
      rw [place, ha, Bool.and_false]
    simp only [patch]
    rw [hplace _ (by decide), hplace _ (by decide), hplace _ (by decide), hplace _ (by decide)]
    exact Function.update_self _ _ _
  rw [pageC1, hcell, decide_eq_decide]
  exact topBit_iff value

end RadioRegisters

/-! ## Frames -/

/-- the radios agree outside the words in `words` and the RF registers in `rfs` -/
structure SameBut (words : List Cell) (rfs : List RfCell) (before after : RadioRegisters) : Prop where
  cells : ∀ c, wordOf c ∉ words → after.cells c = before.cells c
  rf : ∀ r, r ∉ rfs → after.rf r = before.rf r

namespace SameBut

variable {words words' : List Cell} {rfs rfs' : List RfCell} {before after : RadioRegisters}

theorem refl (words : List Cell) (rfs : List RfCell) (file : RadioRegisters) : SameBut words rfs file file :=
  ⟨fun _ _ => rfl, fun _ _ => rfl⟩

theorem mono (h : SameBut words rfs before after) (hwords : words ⊆ words') (hrfs : rfs ⊆ rfs') :
    SameBut words' rfs' before after :=
  ⟨fun c hc => h.cells c fun hmem => hc (hwords hmem), fun r hr => h.rf r fun hmem => hr (hrfs hmem)⟩

/-- reading keeps the frame -/
theorem load (h : SameBut words rfs before after) (address : UInt16) (n : ℕ) :
    SameBut words rfs before (RegisterFile.load after address n).2 := by
  obtain ⟨hcells, hrf⟩ := after.load_cells address n
  exact ⟨fun c hc => by rw [hcells, h.cells c hc], fun r hr => by rw [hrf, h.rf r hr]⟩

/-- writing within the frame keeps it -/
theorem store (h : SameBut words rfs before after) {address : UInt16} {data : List UInt8}
    (hword : address.toNat % 4 + data.length ≤ 4) (hmem : wordOf (place after.pageC1 address) ∈ words)
    (hserial : ∀ path, writePort after.pageC1 address = some path → data.length = 4 →
      (path, serialOffset (UInt32.ofNat (fromLeBytes data))) ∈ rfs) :
    SameBut words rfs before (RegisterFile.store after address data) := by
  constructor
  · intro c hc
    rw [after.store_cells, patch_frame _ hword _ fun heq => hc (heq ▸ hmem), h.cells c hc]
  · intro r hr
    rw [← h.rf r hr]
    rcases hport : writePort after.pageC1 address with _ | path
    · rw [after.store_rf_of_none fun _ => hport]
    · by_cases hlength : data.length = 4
      · rw [after.store_rf_of_some hlength hport]
        exact Function.update_of_ne (fun heq => hr (by rw [heq]; exact hserial path hport hlength)) _ _
      · rw [after.store_rf_of_none fun h => absurd h hlength]

/-- writing back a word -/
theorem restore {address : UInt16} (h : SameBut (wordOf (place after.pageC1 address) :: words) rfs before after)
    (haligned : address.toNat % 4 = 0) (hport : writePort after.pageC1 address = none) :
    SameBut words rfs before
      (RegisterFile.store after address (toLeU32 (before.wordAt after.pageC1 address).toNat)) := by
  constructor
  · intro c hc
    by_cases hword : wordOf c = wordOf (place after.pageC1 address)
    · rw [after.store_cells, before.toLeU32_wordAt]
      exact patch_restores _ haligned _ _ hword
    · rw [after.store_cells, patch_frame _ (by rw [toLeU32_length]; omega) _ hword]
      exact h.cells c fun hmem => (List.mem_cons.1 hmem).elim hword hc
  · intro r hr
    rw [after.store_rf_of_none fun _ => hport, h.rf r hr]

/-- writing back an RF register -/
theorem restoreRf {r : RfCell} (h : SameBut words (r :: rfs) before after) {address : UInt16} {value : UInt32}
    (haligned : address.toNat % 4 = 0) (hmem : wordOf (place after.pageC1 address) ∈ words)
    (hport : writePort after.pageC1 address = some r.1) (hoffset : serialOffset value = r.2)
    (hdata : serialData value = before.rf r) :
    SameBut words rfs before (RegisterFile.store after address (toLeU32 value.toNat)) := by
  have hvalue : UInt32.ofNat (fromLeBytes (toLeU32 value.toNat)) = value := by
    rw [fromLeBytes_toLeU32 value.toNat_lt, UInt32.ofNat_toNat]
  constructor
  · intro c hc
    rw [after.store_cells, patch_frame _ (by rw [toLeU32_length]; omega) _ fun heq => hc (heq ▸ hmem), h.cells c hc]
  · intro r' hr'
    rw [after.store_rf_of_some (toLeU32_length _) hport, hvalue, hoffset, hdata]
    by_cases heq : r' = r
    · rw [heq]
      exact Function.update_self _ _ _
    · rw [← h.rf r' fun hmem' => (List.mem_cons.1 hmem').elim heq hr']
      exact Function.update_of_ne heq _ _

/-- a word outside the frame reads the same -/
theorem wordAt (h : SameBut words rfs before after) {pageC1 : Bool} {address : UInt16}
    (haligned : address.toNat % 4 = 0) (hmem : wordOf (place pageC1 address) ∉ words) :
    after.wordAt pageC1 address = before.wordAt pageC1 address := by
  have hcell (i : ℕ) (hi : i < 4) : after.cells (place pageC1 (address + UInt16.ofNat i))
      = before.cells (place pageC1 (address + UInt16.ofNat i)) :=
    h.cells _ (by rwa [wordOf_place_add pageC1 (by omega)])
  have h0 := hcell 0 (by decide)
  rw [show address + UInt16.ofNat 0 = address from UInt16.add_zero address] at h0
  rw [RadioRegisters.wordAt, RadioRegisters.wordAt, h0, show after.cells (place pageC1 (address + 1)) = _ from
    hcell 1 (by decide), show after.cells (place pageC1 (address + 2)) = _ from hcell 2 (by decide),
    show after.cells (place pageC1 (address + 3)) = _ from hcell 3 (by decide)]
  rfl

end SameBut

end WfbLink.RadioCore
