/-
The logical map of the EFUSE (`rtl8812au_decode_efuse_logical_map`).

The EFUSE holds a list of blocks. A block names a section of four words and programs some of them; its header takes one
byte, or two for the sections a short header has no room for. Words that no block programs read as `0xff`.

- `decode_encodes`: decoding the encoding of a list of blocks applies the blocks in order.
- `decode_total`: decoding any bytes at all stops, reads and writes nothing out of range, and gives 512 bytes.
-/
import WfbLink.Core.Action
import WfbLink.Core.Checked

namespace WfbLink.Runtime

open WfbLink.Core

def rtl8812auEfuseLogicalMapLen : ℕ := 512
def rtl8812auEfuseMaxSection : UInt8 := 64

/-! ## Decoding -/

def efuseIsExtendedHeader (header : UInt8) : Bool := header &&& 0x1f == 0x0f

def efuseAllWordsDisabled (wordEnable : UInt8) : Bool := wordEnable &&& 0x0f == 0x0f

/-- word number `word` is programmed: its bit is clear -/
def efuseWordEnabled (wordEnable : UInt8) (word : ℕ) : Bool := wordEnable &&& (1 <<< UInt8.ofNat word) == 0

def efuseWordCount (wordEnable : UInt8) : ℕ := (List.range 4).countP (efuseWordEnabled wordEnable)

structure EfuseDecode where
  rawOffset : ℕ
  logicalMap : List UInt8
deriving DecidableEq, Repr

section Decode

variable (raw : List UInt8)

/-- the words from number `word` on; a block that ends too early ends the decoding -/
def decodeEfuseWords (wordEnable : UInt8) (word : ℕ) : ℕ → ℕ → EfuseDecode → Checked EfuseDecode
  | 0, _, s => return s
  | words + 1, target, s =>
    if efuseWordEnabled wordEnable word then
      if s.rawOffset + 1 ≥ raw.length ∨ target + 1 ≥ s.logicalMap.length then
        return { s with rawOffset := raw.length }
      else do
        let low ← index raw s.rawOffset
        let logicalMap ← setIndex s.logicalMap target low
        let high ← index raw (s.rawOffset + 1)
        let logicalMap ← setIndex logicalMap (target + 1) high
        decodeEfuseWords wordEnable (word + 1) words (target + 2) { rawOffset := s.rawOffset + 2, logicalMap }
    else decodeEfuseWords wordEnable (word + 1) words (target + 2) s

/-- the words of one block -/
def decodeEfuseBlock (sectionNo wordEnable : UInt8) (s : EfuseDecode) : Checked EfuseDecode :=
  let dataLen := efuseWordCount wordEnable * 2
  if sectionNo < rtl8812auEfuseMaxSection then decodeEfuseWords raw wordEnable 0 4 (sectionNo.toNat * 8) s
  else return { s with rawOffset := min (s.rawOffset + dataLen) raw.length }

/-- one iteration of the loop; `none` is a `break` -/
def decodeEfuseStep (s : EfuseDecode) : Checked (Option EfuseDecode) := do
  let header ← index raw s.rawOffset
  let s := { s with rawOffset := s.rawOffset + 1 }
  if header = 0xff then return none
  else if efuseIsExtendedHeader header then
    let offsetLow := (header &&& 0xe0) >>> 5
    if s.rawOffset ≥ raw.length then return none
    else
      let ext ← index raw s.rawOffset
      let s := { s with rawOffset := s.rawOffset + 1 }
      if efuseAllWordsDisabled ext then return some s
      else
        let s ← decodeEfuseBlock raw (offsetLow ||| ((ext &&& 0xf0) >>> 1)) (ext &&& 0x0f) s
        return some s
  else
    let s ← decodeEfuseBlock raw ((header >>> 4) &&& 0x0f) (header &&& 0x0f) s
    return some s

def decodeEfuseIteration (s : EfuseDecode) : Looped EfuseDecode (Checked (List UInt8)) :=
  if s.rawOffset < raw.length then
    match decodeEfuseStep raw s with
    | .error panic => .stopped (.error panic)
    | .ok none => .stopped (.ok s.logicalMap)
    | .ok (some s) => .running s
  else .stopped (.ok s.logicalMap)

def rtl8812auDecodeEfuseLogicalMap : Looped EfuseDecode (Checked (List UInt8)) :=
  loopFor (decodeEfuseIteration raw) (raw.length + 1)
    { rawOffset := 0, logicalMap := List.replicate rtl8812auEfuseLogicalMapLen 0xff }

end Decode

/-! ## Blocks -/

/-- a programmed block: a section, and its four words as far as they are programmed -/
structure EfuseBlock where
  sectionNo : ℕ
  words : List (Option (UInt8 × UInt8))
  section_lt : sectionNo < 64
  words_length : words.length = 4
  programmed : ∃ word ∈ words, word.isSome

/-- the programmed words of a section, from the byte `target` on; the others stay -/
def placeWords : List (Option (UInt8 × UInt8)) → ℕ → List UInt8 → List UInt8
  | [], _, logicalMap => logicalMap
  | none :: words, target, logicalMap => placeWords words (target + 2) logicalMap
  | some (low, high) :: words, target, logicalMap =>
    placeWords words (target + 2) ((logicalMap.set target low).set (target + 1) high)

/-- the map after a block was programmed -/
def EfuseBlock.apply (logicalMap : List UInt8) (block : EfuseBlock) : List UInt8 :=
  placeWords block.words (block.sectionNo * 8) logicalMap

/-- a bit for each word in front of the bits of the later words; it is clear if the word is programmed -/
def wordEnableBits : List Bool → UInt8
  | [] => 0
  | programmed :: words => (if programmed then 0 else 1 : UInt8) ||| (wordEnableBits words <<< 1)

def wordBytes : List (Option (UInt8 × UInt8)) → List UInt8
  | [] => []
  | none :: words => wordBytes words
  | some (low, high) :: words => low :: high :: wordBytes words

namespace EfuseBlock

def wordEnable (block : EfuseBlock) : UInt8 := wordEnableBits (block.words.map Option.isSome)

def encodeShort (block : EfuseBlock) : List UInt8 :=
  ((UInt8.ofNat block.sectionNo <<< 4) ||| block.wordEnable) :: wordBytes block.words

def encodeExtended (block : EfuseBlock) : List UInt8 :=
  ((UInt8.ofNat (block.sectionNo % 8) <<< 5) ||| 0x0f) ::
    ((UInt8.ofNat (block.sectionNo / 8) <<< 4) ||| block.wordEnable) :: wordBytes block.words

/-- the bytes of a block, with a header of its choice as far as the section has one -/
def Encodes (block : EfuseBlock) (bytes : List UInt8) : Prop :=
  (block.sectionNo < 16 ∧ bytes = block.encodeShort) ∨ bytes = block.encodeExtended

end EfuseBlock

/-! ## Headers -/

/-- four words give the four bits of an enable nibble; a programmed word clears its bit -/
theorem enableNibble_bits : ∀ b0 b1 b2 b3 : Bool, (b0 || b1 || b2 || b3) = true →
    ∃ n : Fin 16, n ≠ 15 ∧ wordEnableBits [b0, b1, b2, b3] = UInt8.ofNat n ∧
      efuseWordEnabled (UInt8.ofNat n) 0 = b0 ∧ efuseWordEnabled (UInt8.ofNat n) 1 = b1 ∧
      efuseWordEnabled (UInt8.ofNat n) 2 = b2 ∧ efuseWordEnabled (UInt8.ofNat n) 3 = b3 := by
  decide +kernel

theorem shortHeader_fields : ∀ (sectionNo n : Fin 16), n ≠ 15 →
    let header := (UInt8.ofNat sectionNo <<< 4) ||| UInt8.ofNat n
    header ≠ 0xff ∧ efuseIsExtendedHeader header = false ∧ (header >>> 4) &&& 0x0f = UInt8.ofNat sectionNo ∧
      header &&& 0x0f = UInt8.ofNat n := by
  decide +kernel

theorem extendedHeader_fields : ∀ (sectionNo : Fin 64) (n : Fin 16), n ≠ 15 →
    let header := (UInt8.ofNat (sectionNo % 8) <<< 5) ||| 0x0f
    let ext := (UInt8.ofNat (sectionNo / 8) <<< 4) ||| UInt8.ofNat n
    header ≠ 0xff ∧ efuseIsExtendedHeader header = true ∧ efuseAllWordsDisabled ext = false ∧
      ((header &&& 0xe0) >>> 5) ||| ((ext &&& 0xf0) >>> 1) = UInt8.ofNat sectionNo ∧ ext &&& 0x0f = UInt8.ofNat n := by
  decide +kernel

namespace EfuseBlock

/-- the enable nibble of a block, and what it says of its words -/
theorem wordEnable_bits (block : EfuseBlock) : ∃ n : Fin 16, n ≠ 15 ∧ block.wordEnable = UInt8.ofNat n ∧
    ∀ i (hi : i < block.words.length), efuseWordEnabled (UInt8.ofNat n) (0 + i) = block.words[i].isSome := by
  obtain ⟨sectionNo, words, hsection, hlength, word, hmem, hword⟩ := block
  match words, hlength with
  | [w0, w1, w2, w3], _ =>
    have hsome : (w0.isSome || w1.isSome || w2.isSome || w3.isSome) = true := by
      simp only [List.mem_cons, List.not_mem_nil, or_false] at hmem
      rcases hmem with rfl | rfl | rfl | rfl <;> simp [hword]
    obtain ⟨n, hn, hbits, h0, h1, h2, h3⟩ := enableNibble_bits w0.isSome w1.isSome w2.isSome w3.isSome hsome
    refine ⟨n, hn, hbits, ?_⟩
    intro i hi
    match i, hi with
    | 0, _ => exact h0
    | 1, _ => exact h1
    | 2, _ => exact h2
    | 3, _ => exact h3

end EfuseBlock

/-! ## Decoding what was encoded -/

theorem placeWords_length (words : List (Option (UInt8 × UInt8))) (target : ℕ) (logicalMap : List UInt8) :
    (placeWords words target logicalMap).length = logicalMap.length := by
  induction words generalizing target logicalMap with
  | nil => rfl
  | cons word words ih =>
    rcases word with _ | ⟨low, high⟩
    · exact ih _ _
    · rw [placeWords, ih, List.length_set, List.length_set]

/-- the words of a block are placed; induction on the words that are left, with the enable bits from number `word` on -/
theorem decodeEfuseWords_wordBytes (wordEnable : UInt8) (words : List (Option (UInt8 × UInt8)))
    (word target : ℕ) (pre post : List UInt8) (logicalMap : List UInt8)
    (hbits : ∀ i (hi : i < words.length), efuseWordEnabled wordEnable (word + i) = words[i].isSome)
    (hroom : target + 2 * words.length ≤ logicalMap.length) :
    decodeEfuseWords (pre ++ wordBytes words ++ post) wordEnable word words.length target
        { rawOffset := pre.length, logicalMap }
      = .ok { rawOffset := pre.length + (wordBytes words).length,
              logicalMap := placeWords words target logicalMap } := by
  induction words generalizing word target pre logicalMap with
  | nil => rfl
  | cons w words ih =>
    have hbit := hbits 0 (Nat.zero_lt_succ _)
    have hbits' : ∀ i (hi : i < words.length), efuseWordEnabled wordEnable (word + 1 + i) = words[i].isSome := by
      intro i hi
      have h := hbits (i + 1) (Nat.succ_lt_succ hi)
      rwa [show word + (i + 1) = word + 1 + i by omega] at h
    simp only [Nat.add_zero, List.getElem_cons_zero] at hbit
    simp only [List.length_cons] at hroom ⊢
    rcases w with _ | ⟨low, high⟩
    · rw [decodeEfuseWords, hbit]
      exact ih (word + 1) (target + 2) pre logicalMap hbits' (by omega)
    · have hlow : index (pre ++ low :: high :: wordBytes words ++ post) pre.length = .ok low :=
        index_ok (by simp)
      have hhigh : index (pre ++ low :: high :: wordBytes words ++ post) (pre.length + 1) = .ok high :=
        index_ok (by simp)
      have hnext := ih (word + 1) (target + 2) (pre ++ [low, high])
        ((logicalMap.set target low).set (target + 1) high) hbits' (by simp only [List.length_set]; omega)
      have hraw : pre ++ [low, high] ++ wordBytes words ++ post = pre ++ low :: high :: wordBytes words ++ post := by
        simp
      rw [hraw] at hnext
      have hfits : ¬(pre.length + 1 ≥ (pre ++ low :: high :: wordBytes words ++ post).length ∨
          target + 1 ≥ logicalMap.length) := by
        simp only [List.length_append, List.length_cons]; omega
      have htarget : target < logicalMap.length := by omega
      have htarget' : target + 1 < (logicalMap.set target low).length := by rw [List.length_set]; omega
      rw [decodeEfuseWords, hbit, Option.isSome_some, if_pos rfl, wordBytes, if_neg hfits, hlow, checked_bind_ok,
        setIndex_of_lt htarget, checked_bind_ok, hhigh, checked_bind_ok, setIndex_of_lt htarget', checked_bind_ok]
      simp only [List.length_append, List.length_cons, List.length_nil] at hnext ⊢
      rw [hnext, placeWords]
      simp only [Nat.add_assoc, Nat.add_comm 2]

theorem EfuseBlock.apply_length (block : EfuseBlock) (logicalMap : List UInt8) :
    (block.apply logicalMap).length = logicalMap.length := placeWords_length _ _ _

/-- behind its header, a block is applied to the map -/
theorem decodeEfuseBlock_wordBytes (block : EfuseBlock) {wordEnable : UInt8} (pre post logicalMap : List UInt8)
    (hbits : ∀ i (hi : i < block.words.length), efuseWordEnabled wordEnable (0 + i) = block.words[i].isSome)
    (hlen : logicalMap.length = rtl8812auEfuseLogicalMapLen) :
    decodeEfuseBlock (pre ++ wordBytes block.words ++ post) (UInt8.ofNat block.sectionNo) wordEnable
        { rawOffset := pre.length, logicalMap }
      = .ok { rawOffset := pre.length + (wordBytes block.words).length, logicalMap := block.apply logicalMap } := by
  have hsection := block.section_lt
  have hwords := block.words_length
  have htoNat : (UInt8.ofNat block.sectionNo).toNat = block.sectionNo := by
    rw [UInt8.toNat_ofNat', Nat.mod_eq_of_lt (by omega)]
  have hlt : UInt8.ofNat block.sectionNo < rtl8812auEfuseMaxSection := by
    rw [UInt8.lt_iff_toNat_lt, htoNat]
    exact hsection
  have hroom : block.sectionNo * 8 + 2 * block.words.length ≤ logicalMap.length := by
    rw [hlen, hwords, rtl8812auEfuseLogicalMapLen]; omega
  have h := decodeEfuseWords_wordBytes wordEnable block.words 0 (block.sectionNo * 8) pre post logicalMap hbits hroom
  rw [hwords] at h
  rw [decodeEfuseBlock, if_pos hlt, htoNat, h]
  rfl

/-- **One block.** At the front of the bytes of a block, the step applies the block and goes behind it. -/
theorem decodeEfuseStep_encodes {block : EfuseBlock} {bytes : List UInt8} (henc : block.Encodes bytes)
    (pre post logicalMap : List UInt8) (hlen : logicalMap.length = rtl8812auEfuseLogicalMapLen) :
    decodeEfuseStep (pre ++ bytes ++ post) { rawOffset := pre.length, logicalMap }
      = .ok (some { rawOffset := (pre ++ bytes).length, logicalMap := block.apply logicalMap }) := by
  obtain ⟨n, hn, hnibble, hbits⟩ := block.wordEnable_bits
  have hsection := block.section_lt
  rcases henc with ⟨hshort, rfl⟩ | rfl
  · obtain ⟨hff, hext, hsec, hwe⟩ := shortHeader_fields ⟨block.sectionNo, hshort⟩ n hn
    have hblock := decodeEfuseBlock_wordBytes block
      (pre ++ [(UInt8.ofNat block.sectionNo <<< 4) ||| UInt8.ofNat n]) post logicalMap hbits hlen
    simp only [List.append_assoc, List.cons_append, List.nil_append, List.length_append, List.length_cons,
      List.length_nil] at hblock
    simp only [EfuseBlock.encodeShort, hnibble, decodeEfuseStep, List.append_assoc, List.cons_append]
    rw [index_append_cons, checked_bind_ok, if_neg hff, hext, hsec, hwe, if_neg Bool.false_ne_true, hblock,
      checked_bind_ok]
    simp only [List.length_append, List.length_cons, Nat.add_assoc, Nat.add_comm 1, checked_pure]
  · obtain ⟨hff, hext, hall, hsec, hwe⟩ := extendedHeader_fields ⟨block.sectionNo, hsection⟩ n hn
    have hblock := decodeEfuseBlock_wordBytes block
      (pre ++ [(UInt8.ofNat (block.sectionNo % 8) <<< 5) ||| 0x0f,
        (UInt8.ofNat (block.sectionNo / 8) <<< 4) ||| UInt8.ofNat n]) post logicalMap hbits hlen
    simp only [List.append_assoc, List.cons_append, List.nil_append, List.length_append, List.length_cons,
      List.length_nil] at hblock
    simp only [EfuseBlock.encodeExtended, hnibble, decodeEfuseStep, List.append_assoc, List.cons_append]
    have hinside (rest : List UInt8) (x y : UInt8) : ¬pre.length + 1 ≥ (pre ++ x :: y :: rest).length := by
      simp only [List.length_append, List.length_cons]; omega
    rw [index_append_cons, checked_bind_ok, if_neg hff, hext, if_pos rfl, if_neg (hinside _ _ _),
      index_append_cons_cons, checked_bind_ok, hall, if_neg Bool.false_ne_true, hsec, hwe, hblock, checked_bind_ok]
    simp only [List.length_append, List.length_cons, Nat.add_assoc, Nat.add_comm 2, checked_pure]

/-- what may stand behind the last block: the terminator and anything, or nothing -/
def EndsBlocks (rest : List UInt8) : Prop := rest = [] ∨ ∃ junk, rest = 0xff :: junk

theorem decodeEfuseIteration_ends {rest : List UInt8} (hrest : EndsBlocks rest) (pre logicalMap : List UInt8) :
    decodeEfuseIteration (pre ++ rest) { rawOffset := pre.length, logicalMap } = .stopped (.ok logicalMap) := by
  rcases hrest with rfl | ⟨junk, rfl⟩
  · rw [decodeEfuseIteration, List.append_nil, if_neg (lt_irrefl _)]
  · have hinside : pre.length < (pre ++ 0xff :: junk).length := by
      simp only [List.length_append, List.length_cons]; omega
    have hstep : decodeEfuseStep (pre ++ 0xff :: junk) { rawOffset := pre.length, logicalMap } = .ok none := by
      rw [decodeEfuseStep, index_append_cons, checked_bind_ok, if_pos rfl]
      rfl
    rw [decodeEfuseIteration, if_pos hinside, hstep]

theorem EfuseBlock.Encodes.ne_nil {block : EfuseBlock} {bytes : List UInt8} (henc : block.Encodes bytes) :
    bytes ≠ [] := by
  rcases henc with ⟨_, rfl⟩ | rfl
  · exact List.cons_ne_nil _ _
  · exact List.cons_ne_nil _ _

/-- the loop from the front of the encoded blocks; induction on the blocks -/
theorem decodeEfuseLoop_encodes (encoded : List (EfuseBlock × List UInt8)) {rest : List UInt8}
    (henc : ∀ e ∈ encoded, e.1.Encodes e.2) (hrest : EndsBlocks rest) (pre logicalMap : List UInt8)
    (hlen : logicalMap.length = rtl8812auEfuseLogicalMapLen) {fuel : ℕ}
    (hfuel : encoded.length < fuel) :
    loopFor (decodeEfuseIteration (pre ++ encoded.flatMap Prod.snd ++ rest)) fuel
        { rawOffset := pre.length, logicalMap }
      = .stopped (.ok ((encoded.map Prod.fst).foldl EfuseBlock.apply logicalMap)) := by
  induction encoded generalizing pre logicalMap fuel with
  | nil =>
    obtain ⟨fuel, rfl⟩ := Nat.exists_eq_succ_of_ne_zero (Nat.ne_of_gt hfuel)
    rw [List.flatMap_nil, List.append_nil]
    exact loopFor_of_stopped (decodeEfuseIteration_ends hrest pre logicalMap) fuel
  | cons e encoded ih =>
    obtain ⟨fuel, rfl⟩ := Nat.exists_eq_succ_of_ne_zero (Nat.ne_of_gt (Nat.zero_lt_of_lt hfuel))
    have hblock := henc e List.mem_cons_self
    have hinside : pre.length < (pre ++ e.2 ++ (encoded.flatMap Prod.snd ++ rest)).length := by
      have := List.length_pos_iff.2 hblock.ne_nil
      simp only [List.length_append]; omega
    have hstep : decodeEfuseIteration (pre ++ e.2 ++ (encoded.flatMap Prod.snd ++ rest))
        { rawOffset := pre.length, logicalMap }
          = .running { rawOffset := (pre ++ e.2).length, logicalMap := e.1.apply logicalMap } := by
      rw [decodeEfuseIteration, if_pos hinside, decodeEfuseStep_encodes hblock pre _ logicalMap hlen]
    have hraw : pre ++ (e :: encoded).flatMap Prod.snd ++ rest
        = pre ++ e.2 ++ (encoded.flatMap Prod.snd ++ rest) := by
      simp only [List.flatMap_cons, List.append_assoc]
    rw [hraw, loopFor_of_running hstep, ← List.append_assoc]
    exact ih (fun e' he' => henc e' (List.mem_cons_of_mem e he')) (pre ++ e.2) (e.1.apply logicalMap)
      ((e.1.apply_length logicalMap).trans hlen) (Nat.lt_of_succ_lt_succ hfuel)

/-- the blocks are no more than their bytes -/
theorem length_le_flatMap_encodes (encoded : List (EfuseBlock × List UInt8))
    (henc : ∀ e ∈ encoded, e.1.Encodes e.2) : encoded.length ≤ (encoded.flatMap Prod.snd).length := by
  induction encoded with
  | nil => exact Nat.zero_le _
  | cons e encoded ih =>
    have hhead := List.length_pos_iff.2 (henc e List.mem_cons_self).ne_nil
    have htail := ih (fun e' he' => henc e' (List.mem_cons_of_mem e he'))
    simp only [List.flatMap_cons, List.length_append, List.length_cons]
    omega

theorem decode_encodes (encoded : List (EfuseBlock × List UInt8)) {rest : List UInt8}
    (henc : ∀ e ∈ encoded, e.1.Encodes e.2) (hrest : EndsBlocks rest) :
    rtl8812auDecodeEfuseLogicalMap (encoded.flatMap Prod.snd ++ rest)
      = .stopped (.ok ((encoded.map Prod.fst).foldl EfuseBlock.apply
          (List.replicate rtl8812auEfuseLogicalMapLen 0xff))) := by
  have hcount := length_le_flatMap_encodes encoded henc
  exact decodeEfuseLoop_encodes encoded henc hrest [] _ List.length_replicate
    (by simp only [List.length_append]; omega)

/-! ## Any bytes -/

section Total

variable (raw : List UInt8)

/-- the words of a block keep the map's length and never go back, whatever the bytes -/
theorem decodeEfuseWords_total (wordEnable : UInt8) (words word target : ℕ) (s : EfuseDecode) :
    ∃ s', decodeEfuseWords raw wordEnable word words target s = .ok s' ∧
      s'.logicalMap.length = s.logicalMap.length ∧ min s.rawOffset raw.length ≤ s'.rawOffset := by
  induction words generalizing word target s with
  | zero => exact ⟨s, rfl, rfl, Nat.min_le_left _ _⟩
  | succ words ih =>
    rw [decodeEfuseWords]
    split
    · split
      · exact ⟨{ s with rawOffset := raw.length }, rfl, rfl, Nat.min_le_right _ _⟩
      · rename_i hfits
        push Not at hfits
        have htarget : target < s.logicalMap.length := by omega
        obtain ⟨s', hs', hlen, hoff⟩ := ih (word + 1) (target + 2)
          { rawOffset := s.rawOffset + 2,
            logicalMap := (s.logicalMap.set target (raw[s.rawOffset])).set (target + 1) (raw[s.rawOffset + 1]) }
        refine ⟨s', ?_, ?_, ?_⟩
        · rw [index_of_lt (show s.rawOffset < raw.length by omega), checked_bind_ok, setIndex_of_lt htarget,
            checked_bind_ok, index_of_lt hfits.1, checked_bind_ok,
            setIndex_of_lt (by rw [List.length_set]; exact hfits.2), checked_bind_ok]
          exact hs'
        · simpa only [List.length_set] using hlen
        · exact le_trans (by simp only; omega) hoff
    · exact ih (word + 1) (target + 2) s

theorem decodeEfuseBlock_total (sectionNo wordEnable : UInt8) (s : EfuseDecode) :
    ∃ s', decodeEfuseBlock raw sectionNo wordEnable s = .ok s' ∧
      s'.logicalMap.length = s.logicalMap.length ∧ min s.rawOffset raw.length ≤ s'.rawOffset := by
  rw [decodeEfuseBlock]
  split
  · exact decodeEfuseWords_total raw wordEnable 4 0 _ s
  · exact ⟨_, rfl, rfl, by simp only; omega⟩

/-- inside the bytes, an iteration panics nowhere, keeps the map's length, and goes on only behind where it was -/
theorem decodeEfuseStep_total {s : EfuseDecode} (hinside : s.rawOffset < raw.length) :
    decodeEfuseStep raw s = .ok none ∨
    ∃ s', decodeEfuseStep raw s = .ok (some s') ∧ s'.logicalMap.length = s.logicalMap.length ∧
      s.rawOffset < s'.rawOffset := by
  rw [decodeEfuseStep, index_of_lt hinside, checked_bind_ok]
  dsimp only
  split
  · exact .inl rfl
  · split
    · split
      · exact .inl rfl
      · rename_i hext
        rw [index_of_lt (Nat.lt_of_not_le hext), checked_bind_ok]
        split
        · exact .inr ⟨_, rfl, rfl, by simp only; omega⟩
        · obtain ⟨s', hs', hlen, hoff⟩ := decodeEfuseBlock_total raw
            (((raw[s.rawOffset] &&& 0xe0) >>> 5) ||| ((raw[s.rawOffset + 1] &&& 0xf0) >>> 1))
            (raw[s.rawOffset + 1] &&& 0x0f) { s with rawOffset := s.rawOffset + 1 + 1 }
          refine .inr ⟨s', ?_, hlen, ?_⟩
          · rw [hs']
            rfl
          · simp only at hoff; omega
    · obtain ⟨s', hs', hlen, hoff⟩ := decodeEfuseBlock_total raw ((raw[s.rawOffset] >>> 4) &&& 0x0f)
        (raw[s.rawOffset] &&& 0x0f) { s with rawOffset := s.rawOffset + 1 }
      refine .inr ⟨s', ?_, hlen, ?_⟩
      · rw [hs']
        rfl
      · simp only at hoff; omega

theorem decode_total : ∃ logicalMap, rtl8812auDecodeEfuseLogicalMap raw = .stopped (.ok logicalMap) ∧
    logicalMap.length = rtl8812auEfuseLogicalMapLen := by
  have hbody : ∀ s : EfuseDecode, s.logicalMap.length = rtl8812auEfuseLogicalMapLen →
      (decodeEfuseIteration raw s).Sat
        (fun s' => s'.logicalMap.length = rtl8812auEfuseLogicalMapLen ∧
          raw.length - s'.rawOffset < raw.length - s.rawOffset)
        (fun r => ∃ logicalMap, r = .ok logicalMap ∧ logicalMap.length = rtl8812auEfuseLogicalMapLen) := by
    intro s hlen
    rw [decodeEfuseIteration]
    split
    · rename_i hinside
      rcases decodeEfuseStep_total raw hinside with hstep | ⟨s', hstep, hlen', hoff⟩
      · rw [hstep]
        exact ⟨s.logicalMap, rfl, hlen⟩
      · rw [hstep]
        exact ⟨hlen'.trans hlen, by omega⟩
    · exact ⟨s.logicalMap, rfl, hlen⟩
  have hstops : ∃ r, rtl8812auDecodeEfuseLogicalMap raw = .stopped r ∧
      ∃ logicalMap, r = .ok logicalMap ∧ logicalMap.length = rtl8812auEfuseLogicalMapLen :=
    loopFor_stops (fun s => raw.length - s.rawOffset) hbody (Nat.lt_succ_of_le (Nat.sub_le _ _)) List.length_replicate
  obtain ⟨r, hr, logicalMap, rfl, hlen⟩ := hstops
  exact ⟨logicalMap, hr, hlen⟩

end Total

/-- **The map decodes its blocks, and any bytes at all decode to a map.** Encoded blocks, each with a header of its
choice, in front of the terminator or the end decode to the map that starts unprogrammed and takes the blocks in order;
any bytes decode, without a panic, to 512 bytes. -/
theorem rtl8812auDecodeEfuseLogicalMap_decodes (encoded : List (EfuseBlock × List UInt8)) (rest raw : List UInt8)
    (henc : ∀ e ∈ encoded, e.1.Encodes e.2) (hrest : EndsBlocks rest) :
    rtl8812auDecodeEfuseLogicalMap (encoded.flatMap Prod.snd ++ rest)
        = .stopped (.ok ((encoded.map Prod.fst).foldl EfuseBlock.apply
            (List.replicate rtl8812auEfuseLogicalMapLen 0xff))) ∧
      ∃ logicalMap, rtl8812auDecodeEfuseLogicalMap raw = .stopped (.ok logicalMap) ∧
        logicalMap.length = rtl8812auEfuseLogicalMapLen :=
  ⟨decode_encodes encoded henc hrest, decode_total raw⟩

/-- one word of section 3 -/
def sampleShortBlock : EfuseBlock :=
  { sectionNo := 3, words := [some (0x12, 0x34), none, none, none], section_lt := by decide,
    words_length := rfl, programmed := ⟨some (0x12, 0x34), List.mem_cons_self, rfl⟩ }

/-- the same word again, and another one -/
def sampleExtendedBlock : EfuseBlock :=
  { sectionNo := 3, words := [some (0x56, 0x78), none, some (0x9a, 0xbc), none], section_lt := by decide,
    words_length := rfl, programmed := ⟨some (0x56, 0x78), List.mem_cons_self, rfl⟩ }

/-- the first block with a short header, the second with an extended one -/
def sampleEncoded : List (EfuseBlock × List UInt8) :=
  [(sampleShortBlock, [0x3e, 0x12, 0x34]), (sampleExtendedBlock, [0x6f, 0x0a, 0x56, 0x78, 0x9a, 0xbc])]

theorem rtl8812auDecodeEfuseLogicalMap_decodes_sample :
    rtl8812auDecodeEfuseLogicalMap (sampleEncoded.flatMap Prod.snd ++ [0xff, 0x01])
        = .stopped (.ok ((sampleEncoded.map Prod.fst).foldl EfuseBlock.apply
            (List.replicate rtl8812auEfuseLogicalMapLen 0xff))) ∧
      ∃ logicalMap, rtl8812auDecodeEfuseLogicalMap [0x0f] = .stopped (.ok logicalMap) ∧
        logicalMap.length = rtl8812auEfuseLogicalMapLen := by
  have henc : ∀ e ∈ sampleEncoded, e.1.Encodes e.2 := by
    intro e he
    simp only [sampleEncoded, List.mem_cons, List.not_mem_nil, or_false] at he
    rcases he with rfl | rfl
    · exact .inl ⟨by decide, by decide⟩
    · exact .inr (by decide)
  exact rtl8812auDecodeEfuseLogicalMap_decodes sampleEncoded [0xff, 0x01] [0x0f] henc (.inr ⟨[0x01], rfl⟩)

end WfbLink.Runtime
