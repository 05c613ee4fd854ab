/-
The link table of the transmit buffer (`wfb-radio-runtime/src/lib.rs`).

Every page of the buffer has a link to the page behind it. A link is written by an operation: the register takes the
page and its link, and says for a while that the operation is active. An adapter that is asked for another operation
meanwhile does not listen.

- `acts_lltWrite`: one link, on an adapter that takes as long as it likes.
- `llt_linked`: the table after the sequence. The pages for sending are one chain that ends, the others are a ring.
-/
import WfbLink.Runtime.QueueDma

namespace WfbLink.Runtime

open WfbLink.Core WfbLink.RadioCore

/-! ## The sequence -/

def regLltInit : UInt16 := 0x01e0
def lltNoActive : UInt32 := 0x0
def lltWriteAccess : UInt32 := 0x1
def lltOpShift : UInt32 := 30
def lltOpMask : UInt32 := 0x3

def encodeLltWrite (address data : UInt8) : UInt32 :=
  (address.toUInt32 <<< 8) ||| data.toUInt32 ||| (lltWriteAccess <<< lltOpShift)

def lltOpValue (value : UInt32) : UInt32 := (value >>> lltOpShift) &&& lltOpMask

section Sequence

variable (registers : Rtl8812auRegisterAccess)

/-- the waits between two reads are left out -/
def productionLltWrite (lltAddress lltData : UInt8) : RegisterAction Unit := do
  write32WithCounter registers regLltInit (encodeLltWrite lltAddress lltData) "REG_LLT_INIT" "llt"
  let _ ← pollReads (read32WithCounter registers regLltInit "REG_LLT_INIT" "llt")
    (fun last => lltOpValue last = lltNoActive)
    (fun last => .new "llt_poll_timeout"
      s!"LLT write addr=0x{hexText 2 lltAddress.toNat} data=0x{hexText 2 lltData.toNat} did not become idle, last {formatRegisterValue last.toNat 8}")
    25 1 0
  return ()

/-- links to the next page each, and how many were written -/
def productionLltChain (addresses : List UInt8) (entries : UInt64) : RegisterAction UInt64 :=
  match addresses with
  | [] => return entries
  | address :: addresses => do
    productionLltWrite registers address (address + 1)
    productionLltChain addresses (satAdd entries 1)

/-- the pages `first..past` -/
def pageRange (first past : UInt8) : List UInt8 :=
  (List.range' first.toNat (past.toNat - first.toNat)).map UInt8.ofNat

/-- the timeout is not used -/
def productionLltSequence : RegisterAction UInt64 := do
  productionPreflightCr registers "LLT programming"
  let entries ← productionLltChain registers (pageRange 0 (txPageBoundary8812 - 1)) 0
  productionLltWrite registers (txPageBoundary8812 - 1) 0xff
  let entries ← productionLltChain registers (pageRange txPageBoundary8812 lastEntryOfTxPktBuffer8812)
    (satAdd entries 1)
  productionLltWrite registers lastEntryOfTxPktBuffer8812 txPageBoundary8812
  return satAdd entries 1

end Sequence

/-! ## The adapter -/

/-- registers, and a link table behind one of them; `latency` says how many reads the operation on a page stays active
for, and `active` how many are left -/
structure LltRegisters where
  plain : PlainRegisters
  links : UInt8 → UInt8
  operation : UInt16
  active : ℕ
  latency : UInt8 → ℕ

namespace LltRegisters

/-- what the register reads as -/
def status (file : LltRegisters) : UInt32 :=
  if file.active = 0 then file.operation.toUInt32 else file.operation.toUInt32 ||| (lltWriteAccess <<< lltOpShift)

/-- a word at the register; an operation that is active keeps the adapter from listening -/
def operate (file : LltRegisters) (value : UInt32) : LltRegisters :=
  let page := UInt8.ofNat (value.toNat / 2 ^ 8)
  if file.active = 0 ∧ lltOpValue value = lltWriteAccess then
    { file with
        links := Function.update file.links page (UInt8.ofNat value.toNat)
        operation := value.toUInt16
        active := file.latency page }
  else file

instance instRegisterFile : RegisterFile LltRegisters where
  load file address n :=
    if address = regLltInit ∧ n = 4 then (toLeU32 file.status.toNat, { file with active := file.active - 1 })
    else (file.plain.loadBytes address n, file)
  store file address data :=
    if address = regLltInit ∧ data.length = 4 then file.operate (UInt32.ofNat (fromLeBytes data))
    else { file with plain := file.plain.storeBytes address data }
  load_length file address n := by
    split
    · rename_i h
      rw [h.2]
      exact toLeU32_length _
    · rw [PlainRegisters.loadBytes, List.length_map, List.length_range]

end LltRegisters

/-! ## One link -/

theorem encodeLltWrite_toNat (address data : UInt8) :
    (encodeLltWrite address data).toNat = 2 ^ 30 + (address.toNat * 2 ^ 8 + data.toNat) := by
  have haddress := address.toNat_lt
  have hdata := data.toNat_lt
  have hshift : (address.toUInt32 <<< 8).toNat = address.toNat * 2 ^ 8 := by
    rw [UInt32.toNat_shiftLeft, UInt8.toNat_toUInt32, Nat.shiftLeft_eq]
    exact Nat.mod_eq_of_lt (by change address.toNat * 2 ^ 8 < _; omega)
  have hlow : address.toNat * 2 ^ 8 ||| data.toNat = address.toNat * 2 ^ 8 + data.toNat := by
    rw [Nat.mul_comm]
    exact (Nat.two_pow_add_eq_or_of_lt hdata _).symm
  have hop : (lltWriteAccess <<< lltOpShift).toNat = 2 ^ 30 * 1 := by decide
  rw [encodeLltWrite, UInt32.toNat_or, UInt32.toNat_or, hshift, UInt8.toNat_toUInt32, hlow, hop, Nat.or_comm,
    ← Nat.two_pow_add_eq_or_of_lt (by omega), Nat.mul_one]

theorem lltOpValue_toNat (value : UInt32) : (lltOpValue value).toNat = value.toNat / 2 ^ 30 := by
  have hvalue := value.toNat_lt
  have hshift : (value >>> lltOpShift).toNat = value.toNat / 2 ^ 30 := by
    rw [UInt32.toNat_shiftRight, Nat.shiftRight_eq_div_pow]
    rfl
  rw [lltOpValue, UInt32.toNat_and, hshift]
  exact (Nat.and_two_pow_sub_one_eq_mod _ 2).trans (Nat.mod_eq_of_lt (by omega))

/-- an adapter that is idle takes the link -/
theorem LltRegisters.operate_encode {file : LltRegisters} (hidle : file.active = 0) (address data : UInt8) :
    file.operate (encodeLltWrite address data) =
      { file with
          links := Function.update file.links address data
          operation := (encodeLltWrite address data).toUInt16
          active := file.latency address } := by
  have haddress := address.toNat_lt
  have hdata := data.toNat_lt
  have hvalue := encodeLltWrite_toNat address data
  have hop : lltOpValue (encodeLltWrite address data) = lltWriteAccess := by
    apply UInt32.toNat_inj.1
    rw [lltOpValue_toNat, hvalue]
    change _ = 1
    omega
  have hpage : UInt8.ofNat ((encodeLltWrite address data).toNat / 2 ^ 8) = address := by
    apply UInt8.toNat_inj.1
    rw [UInt8.toNat_ofNat', hvalue]
    omega
  have hlink : UInt8.ofNat (encodeLltWrite address data).toNat = data := by
    apply UInt8.toNat_inj.1
    rw [UInt8.toNat_ofNat', hvalue]
    omega
  rw [operate, if_pos ⟨hidle, hop⟩, hpage, hlink]

/-- the register says whether the adapter is idle -/
theorem LltRegisters.status_idle (file : LltRegisters) : lltOpValue file.status = lltNoActive ↔ file.active = 0 := by
  have hoperation := file.operation.toNat_lt
  have hop : (lltWriteAccess <<< lltOpShift).toNat = 2 ^ 30 * 1 := by decide
  rw [← UInt32.toNat_inj, lltOpValue_toNat, status]
  change _ = 0 ↔ _
  split
  · rename_i hidle
    rw [UInt16.toNat_toUInt32]
    exact iff_of_true (by omega) hidle
  · rename_i hactive
    rw [UInt32.toNat_or, UInt16.toNat_toUInt32, hop, Nat.or_comm, ← Nat.two_pow_add_eq_or_of_lt (by omega)]
    exact iff_of_false (by omega) hactive

/-! ## Many links -/

/-- the link that a page is to have -/
def lltLink (page : UInt8) : UInt8 :=
  if page = txPageBoundary8812 - 1 then 0xff
  else if page = lastEntryOfTxPktBuffer8812 then txPageBoundary8812
  else page + 1

/-- the pages of a list have their links, and nothing else was changed -/
structure Linked (start : LltRegisters) (done : List UInt8) (file : LltRegisters) : Prop where
  plain : file.plain = start.plain
  latency : file.latency = start.latency
  links : ∀ page, file.links page = if page ∈ done then lltLink page else start.links page

theorem Linked.refl (start : LltRegisters) : Linked start [] start :=
  ⟨rfl, rfl, fun _ => (if_neg List.not_mem_nil).symm⟩

/-- how long the adapter still works does not matter -/
theorem Linked.wait {start file : LltRegisters} {done : List UInt8} (h : Linked start done file) (active : ℕ) :
    Linked start done { file with active } := ⟨h.plain, h.latency, h.links⟩

theorem Linked.operate {start file : LltRegisters} {done : List UInt8} (h : Linked start done file)
    (hidle : file.active = 0) (page : UInt8) :
    Linked start (done ++ [page]) (file.operate (encodeLltWrite page (lltLink page))) := by
  rw [LltRegisters.operate_encode hidle]
  refine ⟨h.plain, h.latency, fun other => ?_⟩
  change Function.update file.links page (lltLink page) other = _
  by_cases heq : other = page
  · rw [heq, Function.update_self, if_pos (List.mem_append_right _ List.mem_cons_self)]
  · have hmem : other ∈ done ++ [page] ↔ other ∈ done := by
      rw [List.mem_append, List.mem_singleton, or_iff_left heq]
    rw [Function.update_of_ne heq, h.links, if_congr hmem rfl rfl]

section Actions

variable {faults : Prop} (registers : Rtl8812auRegisterAccess) {start : LltRegisters}

/-- polling, while the adapter works on; without faults it only gives up on one that is too slow -/
theorem acts_lltPoll (done : List UInt8) (timeout : UInt32 → RuntimeRadioError) (attempts k active : ℕ) (last : UInt32) :
    Acts faults (fun file => Linked start done file ∧ file.active = active)
      (pollReads (read32WithCounter registers regLltInit "REG_LLT_INIT" "llt")
        (fun last => lltOpValue last = lltNoActive) timeout attempts k last)
      (fun _ file => Linked start done file ∧ file.active = 0)
      fun file => Linked start done file ∧ (faults ∨ attempts ≤ active) := by
  induction attempts generalizing k active last with
  | zero => exact Acts.fail _ fun _ h => ⟨h.1, .inr (Nat.zero_le _)⟩
  | succ attempts ih =>
    have hread : Acts faults (fun file => Linked start done file ∧ file.active = active)
        (read32WithCounter registers regLltInit "REG_LLT_INIT" "llt")
        (fun value file => (lltOpValue value = lltNoActive ↔ active = 0) ∧ Linked start done file ∧
          file.active = active - 1)
        fun file => Linked start done file ∧ (faults ∨ attempts + 1 ≤ active) := by
      refine Acts.readWithCustomError (registers.read32_loads regLltInit) _ (fun hf _ h => ⟨h.1, .inl hf⟩) ?_
      rintro file ⟨hlinked, rfl⟩
      have hstatus : UInt32.ofNat (loadValue regLltInit 4 file).1 = file.status := by
        change UInt32.ofNat (fromLeBytes (toLeU32 file.status.toNat)) = _
        rw [fromLeBytes_toLeU32 file.status.toNat_lt, UInt32.ofNat_toNat]
      rw [hstatus]
      exact ⟨file.status_idle, hlinked.wait _, rfl⟩
    unfold pollReads
    apply Acts.bind hread
    intro value
    apply Acts.assume
    intro hvalue
    split
    · rename_i hready
      apply Acts.pure
      rintro file ⟨hlinked, hactive⟩
      rw [hvalue.1 hready] at hactive
      exact ⟨hlinked, hactive⟩
    · rename_i hready
      have hpos : active ≠ 0 := fun hzero => hready (hvalue.2 hzero)
      refine (ih (k + 1) (active - 1) value).weaken (fun _ h => h) (fun _ _ h => h) ?_
      rintro file ⟨hlinked, hslow⟩
      exact ⟨hlinked, hslow.imp_right (by omega)⟩

/-- where a run stopped: some of the links are there -/
def LinksStopped (start : LltRegisters) (done pages : List UInt8) (file : LltRegisters) : Prop :=
  ∃ now, now <+: pages ∧ Linked start (done ++ now) file

/-- the reason why a run without faults stops -/
def TooSlow (start : LltRegisters) (pages : List UInt8) : Prop := ∃ page ∈ pages, 25 ≤ start.latency page

/-- **One link.** The sequence goes on only when the adapter is idle again. -/
theorem acts_lltWrite (done : List UInt8) (page : UInt8) :
    Acts faults (fun file => Linked start done file ∧ file.active = 0)
      (productionLltWrite registers page (lltLink page))
      (fun _ file => Linked start (done ++ [page]) file ∧ file.active = 0)
      fun file => LinksStopped start done [page] file ∧ (faults ∨ TooSlow start [page]) := by
  have hwrite : Acts faults (fun file => Linked start done file ∧ file.active = 0)
      (write32WithCounter registers regLltInit (encodeLltWrite page (lltLink page)) "REG_LLT_INIT" "llt")
      (fun _ file => Linked start (done ++ [page]) file ∧ file.active = start.latency page)
      fun file => LinksStopped start done [page] file ∧ (faults ∨ TooSlow start [page]) := by
    refine Acts.writeWithCustomError (registers.writeAll_stores regLltInit .u32 (toLeU32 _) rfl) _ ?_ ?_
    · rintro hfaults file ⟨hlinked, -⟩
      refine ⟨⟨[], List.nil_prefix, ?_⟩, .inl hfaults⟩
      rwa [List.append_nil]
    · rintro file ⟨hlinked, hidle⟩
      have hvalue : RegisterFile.store file regLltInit (toLeU32 (encodeLltWrite page (lltLink page)).toNat)
          = file.operate (encodeLltWrite page (lltLink page)) := by
        change (if _ then file.operate (UInt32.ofNat (fromLeBytes _)) else _) = _
        rw [if_pos ⟨rfl, toLeU32_length _⟩, fromLeBytes_toLeU32 (UInt32.toNat_lt _), UInt32.ofNat_toNat]
      rw [hvalue]
      refine ⟨hlinked.operate hidle page, ?_⟩
      rw [LltRegisters.operate_encode hidle, ← hlinked.latency]
  apply Acts.bind hwrite
  intro _
  apply Acts.bind ((acts_lltPoll registers (done ++ [page]) _ 25 1 (start.latency page) 0).weaken (fun _ h => h)
    (fun _ _ h => h) ?_)
  · intro _
    exact Acts.pure fun _ h => h
  · rintro file ⟨hlinked, hslow⟩
    exact ⟨⟨[page], List.prefix_rfl, hlinked⟩, hslow.imp_right fun h => ⟨page, List.mem_cons_self, h⟩⟩

/-- after some pages, others -/
theorem LinksStopped.after {reason : Prop} {done pages : List UInt8} {file : LltRegisters} (before : List UInt8)
    (h : LinksStopped start (done ++ before) pages file ∧ (reason ∨ TooSlow start pages)) :
    LinksStopped start done (before ++ pages) file ∧ (reason ∨ TooSlow start (before ++ pages)) := by
  obtain ⟨⟨now, hnow, hlinked⟩, hslow⟩ := h
  refine ⟨⟨before ++ now, (List.prefix_append_right_inj before).2 hnow, ?_⟩, hslow.imp_right ?_⟩
  · rwa [← List.append_assoc]
  · rintro ⟨page, hpage, hlatency⟩
    exact ⟨page, List.mem_append_right _ hpage, hlatency⟩

theorem LinksStopped.before {reason : Prop} {done pages : List UInt8} {file : LltRegisters} (later : List UInt8)
    (h : LinksStopped start done pages file ∧ (reason ∨ TooSlow start pages)) :
    LinksStopped start done (pages ++ later) file ∧ (reason ∨ TooSlow start (pages ++ later)) := by
  obtain ⟨⟨now, hnow, hlinked⟩, hslow⟩ := h
  refine ⟨⟨now, hnow.trans (List.prefix_append _ _), hlinked⟩, hslow.imp_right ?_⟩
  rintro ⟨page, hpage, hlatency⟩
  exact ⟨page, List.mem_append_left _ hpage, hlatency⟩

/-- pages that are linked to the next one each -/
theorem acts_lltChain (done pages : List UInt8) (hpages : ∀ page ∈ pages, lltLink page = page + 1) (entries : UInt64) :
    Acts faults (fun file => Linked start done file ∧ file.active = 0) (productionLltChain registers pages entries)
      (fun written file => written.toNat = min (entries.toNat + pages.length) u64Max ∧
        Linked start (done ++ pages) file ∧ file.active = 0)
      fun file => LinksStopped start done pages file ∧ (faults ∨ TooSlow start pages) := by
  induction pages generalizing done entries with
  | nil =>
    apply Acts.pure
    rintro file ⟨hlinked, hidle⟩
    refine ⟨?_, by rwa [List.append_nil], hidle⟩
    have hentries := entries.toNat_lt
    rw [List.length_nil, u64Max]
    omega
  | cons page pages ih =>
    obtain ⟨hpage, hrest⟩ := List.forall_mem_cons.1 hpages
    unfold productionLltChain
    rw [← hpage]
    apply Acts.bind ((acts_lltWrite registers done page).weaken (fun _ h => h) (fun _ _ h => h)
      fun file h => LinksStopped.before pages h)
    intro _
    refine (ih (done ++ [page]) hrest (satAdd entries 1)).weaken (fun _ h => h) ?_ fun file h =>
      LinksStopped.after [page] h
    rintro written file ⟨hwritten, hlinked, hidle⟩
    refine ⟨?_, by rwa [List.append_assoc] at hlinked, hidle⟩
    rw [hwritten, satAdd_toNat, List.length_cons, show (1 : UInt64).toNat = 1 from rfl, u64Max]
    omega

/-- all pages, in the order of the sequence -/
def lltPages : List UInt8 :=
  pageRange 0 (txPageBoundary8812 - 1) ++ ([txPageBoundary8812 - 1] ++
    (pageRange txPageBoundary8812 lastEntryOfTxPktBuffer8812 ++ [lastEntryOfTxPktBuffer8812]))

theorem lltPages_eq : lltPages = (List.range 256).map UInt8.ofNat := by decide +kernel

/-- the blocks of the adapter are enabled -/
def LltRegisters.Enabled (file : LltRegisters) : Prop :=
  UInt16.ofNat (fromLeBytes (file.plain.loadBytes regCr 2)) &&& crEnableBits = crEnableBits

/-- **The whole table.** -/
theorem acts_llt :
    Acts faults (fun file => file = start ∧ start.active = 0) (productionLltSequence registers)
      (fun written file => written = 256 ∧ Linked start lltPages file ∧ file.active = 0)
      fun file => LinksStopped start [] lltPages file ∧ (faults ∨ ¬start.Enabled ∨ TooSlow start lltPages) := by
  have hchain : (∀ page ∈ pageRange 0 (txPageBoundary8812 - 1), lltLink page = page + 1) ∧
      ∀ page ∈ pageRange txPageBoundary8812 lastEntryOfTxPktBuffer8812, lltLink page = page + 1 := by
    decide +kernel
  have hslow {file : LltRegisters} (h : LinksStopped start [] lltPages file ∧ (faults ∨ TooSlow start lltPages)) :
      LinksStopped start [] lltPages file ∧ (faults ∨ ¬start.Enabled ∨ TooSlow start lltPages) :=
    ⟨h.1, h.2.imp_right .inr⟩
  have hcr : Acts faults (fun file => file = start ∧ start.active = 0)
      (productionPreflightCr registers "LLT programming")
      (fun _ file => Linked start [] file ∧ file.active = 0)
      fun file => LinksStopped start [] lltPages file ∧ (faults ∨ ¬start.Enabled ∨ TooSlow start lltPages) := by
    have hread : Acts faults (fun file => file = start ∧ start.active = 0)
        (read16WithCounter registers regCr "REG_CR" "preflight")
        (fun cr file => (cr &&& crEnableBits = crEnableBits ↔ start.Enabled) ∧ file = start ∧ start.active = 0)
        fun file => LinksStopped start [] lltPages file ∧ (faults ∨ ¬start.Enabled ∨ TooSlow start lltPages) := by
      refine Acts.readWithCustomError (registers.read16_loads regCr) _ ?_ ?_
      · rintro hfaults file ⟨rfl, -⟩
        exact ⟨⟨[], List.nil_prefix, .refl _⟩, .inl hfaults⟩
      · rintro file ⟨rfl, hidle⟩
        exact ⟨Iff.rfl, rfl, hidle⟩
    apply Acts.bind hread
    intro cr
    apply Acts.assume
    intro hcr
    split
    · apply Acts.pure
      rintro file ⟨rfl, hidle⟩
      exact ⟨.refl _, hidle⟩
    · rename_i hoff
      apply Acts.fail
      rintro file ⟨rfl, -⟩
      exact ⟨⟨[], List.nil_prefix, .refl _⟩, .inr (.inl fun henabled => hoff (hcr.2 henabled))⟩
  apply Acts.bind hcr
  intro _
  apply Acts.bind ((acts_lltChain registers [] _ hchain.1 0).weaken (fun _ h => h) (fun _ _ h => h) fun file h =>
    hslow (LinksStopped.before _ h))
  intro entries
  apply Acts.assume
  intro hentries
  apply Acts.bind ((acts_lltWrite registers _ (txPageBoundary8812 - 1)).weaken (fun _ h => h) (fun _ _ h => h)
    fun file h => hslow (LinksStopped.after _ (LinksStopped.before _ h)))
  intro _
  apply Acts.bind ((acts_lltChain registers _ _ hchain.2 _).weaken (fun _ h => h) (fun _ _ h => h) fun file h =>
    hslow (LinksStopped.after _ (LinksStopped.after _ (LinksStopped.before _ h))))
  intro entries'
  apply Acts.assume
  intro hentries'
  apply Acts.bind ((acts_lltWrite registers _ lastEntryOfTxPktBuffer8812).weaken (fun _ h => h) (fun _ _ h => h)
    fun file h => hslow (LinksStopped.after _ (LinksStopped.after _ (LinksStopped.after _ h))))
  intro _
  apply Acts.pure
  rintro file ⟨hlinked, hidle⟩
  have hlengths : (pageRange 0 (txPageBoundary8812 - 1)).length = 246 ∧
      (pageRange txPageBoundary8812 lastEntryOfTxPktBuffer8812).length = 8 := by
    decide +kernel
  refine ⟨?_, ?_, hidle⟩
  · apply UInt64.toNat_inj.1
    rw [satAdd_toNat, hentries', satAdd_toNat, hentries, hlengths.1, hlengths.2]
    decide
  · rw [List.nil_append, List.append_assoc, List.append_assoc] at hlinked
    exact hlinked

end Actions

/-! ## The table -/

/-- the pages for sending are a chain -/
theorem lltLink_chain {page : UInt8} {k : ℕ} (h : page.toNat + k ≤ (txPageBoundary8812 - 1).toNat) :
    lltLink^[k] page = UInt8.ofNat (page.toNat + k) := by
  induction k with
  | zero => exact UInt8.ofNat_toNat.symm
  | succ k ih =>
    have hlt : page.toNat + k < 0xf6 := Nat.lt_of_lt_of_le (Nat.lt_succ_self _) h
    have hnat : (UInt8.ofNat (page.toNat + k)).toNat = page.toNat + k := by
      rw [UInt8.toNat_ofNat']
      omega
    have hne (other : UInt8) (hother : 0xf6 ≤ other.toNat) : UInt8.ofNat (page.toNat + k) ≠ other := by
      intro heq
      rw [heq] at hnat
      omega
    rw [Function.iterate_succ_apply', ih (Nat.le_of_succ_le h), lltLink, if_neg (hne _ (by decide)),
      if_neg (hne _ (by decide)), ← Nat.add_assoc]
    exact (UInt8.ofNat_add _ 1).symm

/-- the other pages are a ring of nine -/
theorem lltLink_ring {page : UInt8} (h : txPageBoundary8812 ≤ page) :
    lltLink^[9] page = page ∧ ∀ k, 0 < k → k < 9 → lltLink^[k] page ≠ page := by
  have hring : ∀ n ∈ List.range' 0xf7 9, lltLink^[9] (UInt8.ofNat n) = UInt8.ofNat n ∧
      ∀ k < 9, 0 < k → lltLink^[k] (UInt8.ofNat n) ≠ UInt8.ofNat n := by
    decide +kernel
  have hpage := page.toNat_lt
  have hle : 0xf7 ≤ page.toNat := UInt8.le_iff_toNat_le.1 h
  obtain ⟨hround, hbefore⟩ := hring page.toNat (by rw [List.mem_range'_1]; omega)
  rw [UInt8.ofNat_toNat] at hround hbefore
  exact ⟨hround, fun k hpos hlt => hbefore k hlt hpos⟩

/-- some of the pages in order -/
theorem mem_prefix_pages {now : List UInt8} (h : now <+: lltPages) :
    now.length ≤ 256 ∧ ∀ page, page ∈ now ↔ page.toNat < now.length := by
  rw [lltPages_eq] at h
  have hlength : now.length ≤ 256 := by
    have hle := h.length_le
    rwa [List.length_map, List.length_range] at hle
  have htake : now = (List.range now.length).map UInt8.ofNat := by
    have heq := List.prefix_iff_eq_take.1 h
    rwa [← List.map_take, List.take_range, Nat.min_eq_left hlength] at heq
  refine ⟨hlength, fun page => ?_⟩
  have hpage := page.toNat_lt
  constructor
  · intro hmem
    rw [htake] at hmem
    obtain ⟨n, hn, rfl⟩ := List.mem_map.1 hmem
    rw [UInt8.toNat_ofNat']
    exact Nat.lt_of_le_of_lt (Nat.mod_le _ _) (List.mem_range.1 hn)
  · intro hlt
    rw [htake]
    exact List.mem_map.2 ⟨page.toNat, List.mem_range.2 hlt, UInt8.ofNat_toNat⟩

/-- **The link table.** On an adapter that is idle, however slow and whichever transfers fail, the pages up to one have
their links and the others are as before, and no register is written. If the sequence returns, all pages have theirs: the
pages for sending are one chain that ends, and the others a ring. It returns if the adapter is enabled and fast enough
and no transfer fails. -/
theorem llt_linked (registers : Rtl8812auRegisterAccess) {s s' : RegisterRun (FaultyDevice LltRegisters)}
    {outcome : Except RuntimeRadioError UInt64} (hidle : s.transport.file.active = 0)
    (hrun : (productionLltSequence registers).exec s = (outcome, s')) :
    s'.transport.file.plain = s.transport.file.plain ∧
    (∃ k ≤ 256, ∀ page, s'.transport.file.links page
      = if page.toNat < k then lltLink page else s.transport.file.links page) ∧
    (∀ written, outcome = .ok written → written = 256 ∧
      (∀ page k, page.toNat + k ≤ (txPageBoundary8812 - 1).toNat →
        s'.transport.file.links^[k] page = UInt8.ofNat (page.toNat + k)) ∧
      s'.transport.file.links (txPageBoundary8812 - 1) = 0xff ∧
      ∀ page, txPageBoundary8812 ≤ page → s'.transport.file.links^[9] page = page ∧
        ∀ k, 0 < k → k < 9 → s'.transport.file.links^[k] page ≠ page) ∧
    (s.transport.Reliable → s.transport.file.Enabled → (∀ page, s.transport.file.latency page < 25) →
      outcome = .ok 256) := by
  have hacts (faults : Prop) (hsound : faults ∨ s.transport.Reliable) :=
    Handles.of_run (@acts_llt faults registers s.transport.file) hrun ⟨hsound, rfl, hidle⟩
  obtain ⟨hok, herror⟩ := hacts True (.inl trivial)
  have hstopped : LinksStopped s.transport.file [] lltPages s'.transport.file := by
    cases outcome with
    | ok written => exact ⟨lltPages, List.prefix_rfl, (hok written rfl).2.2.1⟩
    | error error => exact (herror error rfl).2.1
  obtain ⟨now, hnow, hlinked⟩ := hstopped
  obtain ⟨hlength, hmem⟩ := mem_prefix_pages hnow
  refine ⟨hlinked.plain, ⟨now.length, hlength, fun page => ?_⟩, fun written hwritten => ?_,
    fun hreliable henabled hfast => ?_⟩
  · rw [hlinked.links, List.nil_append, if_congr (hmem page) rfl rfl]
  · obtain ⟨-, hcount, hall, -⟩ := hok written hwritten
    have hlinks : s'.transport.file.links = lltLink := by
      funext page
      have hpage := page.toNat_lt
      have hmem' : page ∈ lltPages := by
        rw [(mem_prefix_pages List.prefix_rfl).2, lltPages_eq, List.length_map, List.length_range]
        exact hpage
      rw [hall.links, if_pos hmem']
    rw [hlinks]
    exact ⟨hcount, fun page k => lltLink_chain, rfl, fun page => lltLink_ring⟩
  · obtain ⟨hok', herror'⟩ := hacts False (.inr hreliable)
    cases outcome with
    | ok written => rw [(hok' written rfl).2.1]
    | error error =>
      rcases (herror' error rfl).2.2 with hfalse | hoff | ⟨page, -, hslow⟩
      · exact hfalse.elim
      · exact absurd henabled hoff
      · exact absurd (hfast page) (Nat.not_lt.2 hslow)

/-- an adapter that takes longer for every other page -/
def lltBench : RegisterRun (FaultyDevice LltRegisters) where
  transport := {
    file := {
      plain := ⟨fun _ => 0xff⟩
      links := fun _ => 0
      operation := 0
      active := 0
      latency := fun page => page.toNat % 2 * 24 }
    failing := fun _ => none }
  counters := {}

theorem llt_linked_lltBench : ((productionLltSequence {}).exec lltBench).1 = .ok 256 := by
  refine (llt_linked {} (s := lltBench) rfl Prod.mk.eta.symm).2.2.2 (fun _ _ => rfl) ?_ ?_
  · rw [LltRegisters.Enabled]
    decide
  · intro page
    change page.toNat % 2 * 24 < 25
    omega

end WfbLink.Runtime
