/-
Hexadecimal text of the radio service (`parse_service_hex_bytes` and `encode_service_hex`).

Bytes are read from text with separators in it: the separators are taken out, and every two bytes of what is left are
handed to the parser of the standard library.

- `parseServiceHexBytes_outcome`: what is behind the leading pairs decides how the parser ends.
- `parseServiceHexBytes_exact_iff`: it reads exactly the even sequences of hexadecimal digits, and does not panic, unless
  a pair starts with a plus sign or a pair ends inside a character.
- `parse_encodeServiceHex`: it undoes `encodeServiceHex`, whatever separators are put in between.
-/
import WfbLink.Core.Numeral

namespace WfbLink.Service

open WfbLink.Core

/-! ## Numbers in text -/

/-- the digits of a `u8` behind those that make `value` -/
def u8FromDigits (radix : ℕ) : ℕ → List Char → Except ParseIntError UInt8
  | value, [] => .ok (UInt8.ofNat value)
  | value, c :: text =>
    match toDigit radix c with
    | none => .error .invalidDigit
    | some digit =>
      if value * radix + digit < 2 ^ 8 then u8FromDigits radix (value * radix + digit) text else .error .posOverflow

/-- `u8::from_str_radix`, which takes a leading plus sign -/
def u8FromStrRadix (text : List Char) (radix : ℕ) : Except ParseIntError UInt8 :=
  match text with
  | [] => .error .empty
  | ['+'] => .error .invalidDigit
  | ['-'] => .error .invalidDigit
  | '+' :: digits => u8FromDigits radix 0 digits
  | digits => u8FromDigits radix 0 digits

/-! ## Parsing and encoding -/

/-- `char::is_ascii_whitespace` -/
def isAsciiWhitespace (ch : Char) : Bool :=
  ch == ' ' || ch == '\t' || ch == '\n' || ch == '\x0c' || ch == '\r'

def isSeparator (ch : Char) : Bool :=
  isAsciiWhitespace ch || ch == ':' || ch == '-' || ch == '_'

/-- the text without its separators -/
def compact (input : String) : List Char :=
  input.toList.filter fun ch => !isAsciiWhitespace ch && ch != ':' && ch != '-' && ch != '_'

/-- the bytes of the pairs at the given offsets -/
def parseHexPairs (text : List Char) : List ℕ → Checked (Except String (List UInt8))
  | [] => return .ok []
  | offset :: offsets => do
    let pair ← textSlice text offset (offset + 2)
    match u8FromStrRadix pair 16 with
    | .error error => return .error s!"invalid hex byte at offset {offset}: {error.message}"
    | .ok byte =>
      match ← parseHexPairs text offsets with
      | .error message => return .error message
      | .ok bytes => return .ok (byte :: bytes)

def parseServiceHexBytes (input : String) : Checked (Except String (List UInt8)) :=
  let text := compact input
  if byteLength text % 2 ≠ 0 then return .error "hex string must contain an even number of digits"
  else parseHexPairs text (List.range' 0 (byteLength text / 2) 2)

def hexDigit (digit : ℕ) : Char :=
  if digit < 10 then Char.ofNat (48 + digit) else Char.ofNat (97 + (digit - 10))

def encodeServiceHex (bytes : List UInt8) : String :=
  String.ofList (bytes.flatMap fun byte => [hexDigit (byte.toNat / 16), hexDigit (byte.toNat % 16)])

/-! ## What hexadecimal text means -/

/-- an even sequence of hexadecimal digits and its bytes -/
inductive Denotes : List Char → List UInt8 → Prop where
  | nil : Denotes [] []
  | cons {high low : Char} {h l : ℕ} {text : List Char} {bytes : List UInt8} :
      toDigit 16 high = some h → toDigit 16 low = some l → Denotes text bytes →
        Denotes (high :: low :: text) (UInt8.ofNat (h * 16 + l) :: bytes)

/-- a text with separators put in anywhere -/
inductive Separated : List Char → List Char → Prop where
  | nil : Separated [] []
  | digit {text input : List Char} (c : Char) : Separated text input → Separated (c :: text) (c :: input)
  | separator {text input : List Char} {c : Char} : isSeparator c = true → Separated text input →
      Separated text (c :: input)

/-- what `u8::from_str_radix` takes for a byte: its first character may be a plus sign -/
def Readable (pair : Char × Char) : Prop :=
  (pair.1 = '+' ∨ (toDigit 16 pair.1).isSome) ∧ (toDigit 16 pair.2).isSome

/-- the next two bytes are not two characters, and not one of two bytes -/
def Cut : List Char → Prop
  | [] => False
  | c :: text => 2 < c.utf8Size ∨ (c.utf8Size = 1 ∧ ∃ d tail, text = d :: tail ∧ 1 < d.utf8Size)

def pairText (pairs : List (Char × Char)) : List Char := pairs.flatMap fun pair => [pair.1, pair.2]

/-- a text of even length that the parser takes with a sign in it, or panics at -/
def Misread (text : List Char) : Prop :=
  byteLength text % 2 = 0 ∧ ∃ pairs rest, text = pairText pairs ++ rest ∧ (∀ pair ∈ pairs, Readable pair) ∧
    (rest = [] ∧ (∃ pair ∈ pairs, pair.1 = '+') ∨ Cut rest)

/-- the next two bytes are one character, or two that are no byte -/
def Unreadable : List Char → Prop
  | [] => False
  | c :: text => c.utf8Size = 2 ∨ (c.utf8Size = 1 ∧ ∃ d tail, text = d :: tail ∧ d.utf8Size = 1 ∧ ¬ Readable (c, d))

/-- the parser returns, and returns bytes for exactly the text that denotes them -/
def Exact (input : String) : Prop :=
  ∃ result, parseServiceHexBytes input = .ok result ∧ ∀ bytes, result = .ok bytes ↔ Denotes (compact input) bytes

/-! ## Digits -/

theorem toDigit_plus : toDigit 16 '+' = none := by decide

theorem toDigit_hexDigit : ∀ digit < 16, toDigit 16 (hexDigit digit) = some digit := by decide

theorem u8FromStrRadix_unsigned {c d : Char} (hsign : c ≠ '+') (radix : ℕ) :
    u8FromStrRadix [c, d] radix = u8FromDigits radix 0 [c, d] := by
  simp [u8FromStrRadix, hsign]

theorem u8FromDigits_two {high low : Char} {h l : ℕ} (hh : toDigit 16 high = some h) (hl : toDigit 16 low = some l) :
    u8FromDigits 16 0 [high, low] = .ok (UInt8.ofNat (h * 16 + l)) := by
  have := toDigit_lt hh
  have := toDigit_lt hl
  simp only [u8FromDigits, hh, hl, Nat.zero_mul, Nat.zero_add]
  rw [if_pos (by omega), if_pos (by omega)]

theorem u8FromStrRadix_digits {high low : Char} {h l : ℕ} (hh : toDigit 16 high = some h)
    (hl : toDigit 16 low = some l) : u8FromStrRadix [high, low] 16 = .ok (UInt8.ofNat (h * 16 + l)) := by
  have hsign : high ≠ '+' := by
    rintro rfl
    cases toDigit_plus.symm.trans hh
  rw [u8FromStrRadix_unsigned hsign, u8FromDigits_two hh hl]

theorem u8FromStrRadix_readable {pair : Char × Char} (h : Readable pair) :
    ∃ byte, u8FromStrRadix [pair.1, pair.2] 16 = .ok byte := by
  obtain ⟨hsign, hlow⟩ := h
  obtain ⟨low, hlow⟩ := Option.isSome_iff_exists.1 hlow
  rcases hsign with hsign | hhigh
  · have := toDigit_lt hlow
    simp only [u8FromStrRadix, hsign, u8FromDigits, hlow, Nat.zero_mul, Nat.zero_add]
    exact ⟨_, if_pos (by omega)⟩
  · obtain ⟨high, hhigh⟩ := Option.isSome_iff_exists.1 hhigh
    exact ⟨_, u8FromStrRadix_digits hhigh hlow⟩

/-- what the parser of the standard library refuses -/
theorem u8FromStrRadix_unreadable {c d : Char} (h : ¬ Readable (c, d)) :
    ∃ error, u8FromStrRadix [c, d] 16 = .error error := by
  by_cases hsign : c = '+'
  · have hlow : toDigit 16 d = none := by
      rw [← Option.not_isSome_iff_eq_none]
      exact fun hlow => h ⟨Or.inl hsign, hlow⟩
    simp [u8FromStrRadix, hsign, u8FromDigits, hlow]
  · rw [u8FromStrRadix_unsigned hsign]
    cases hhigh : toDigit 16 c with
    | none => simp [u8FromDigits, hhigh]
    | some high =>
      have hlow : toDigit 16 d = none := by
        rw [← Option.not_isSome_iff_eq_none]
        exact fun hlow => h ⟨Or.inr (by rw [hhigh]; rfl), hlow⟩
      have := toDigit_lt hhigh
      simp only [u8FromDigits, hhigh, hlow, Nat.zero_mul, Nat.zero_add]
      rw [if_pos (by omega)]
      exact ⟨_, rfl⟩

theorem u8FromStrRadix_wide {c : Char} (h : c.utf8Size = 2) : ∃ error, u8FromStrRadix [c] 16 = .error error := by
  have hdigit : toDigit 16 c = none := by
    cases hc : toDigit 16 c with
    | none => rfl
    | some digit => exact absurd (toDigit_ascii hc) (by omega)
  have hplus : c ≠ '+' := by
    rintro rfl
    exact absurd h (by decide)
  have hminus : c ≠ '-' := by
    rintro rfl
    exact absurd h (by decide)
  simp [u8FromStrRadix, hplus, hminus, u8FromDigits, hdigit]

/-! ## Hexadecimal text -/

namespace Denotes

variable {text : List Char} {bytes : List UInt8}

theorem digits (h : Denotes text bytes) : ∀ c ∈ text, (toDigit 16 c).isSome := by
  induction h with
  | nil => exact fun c hc => absurd hc List.not_mem_nil
  | cons hh hl _ ih =>
    intro c hc
    rcases List.mem_cons.1 hc with rfl | hc
    · rw [hh]; rfl
    · rcases List.mem_cons.1 hc with rfl | hc
      · rw [hl]; rfl
      · exact ih c hc

theorem byteLength_eq (h : Denotes text bytes) : byteLength text = 2 * bytes.length := by
  induction h with
  | nil => rfl
  | cons hh hl _ ih =>
    rw [byteLength_cons, byteLength_cons, toDigit_ascii hh, toDigit_ascii hl, ih, List.length_cons]
    omega

theorem unique (h : Denotes text bytes) {other : List UInt8} (hother : Denotes text other) : bytes = other := by
  induction h generalizing other with
  | nil => cases hother; rfl
  | cons hh hl _ ih =>
    cases hother with
    | cons hh' hl' hother =>
      rw [hh] at hh'
      rw [hl] at hl'
      obtain rfl := Option.some.inj hh'
      obtain rfl := Option.some.inj hl'
      rw [ih hother]

end Denotes

theorem encodeServiceHex_denotes (bytes : List UInt8) : Denotes (encodeServiceHex bytes).toList bytes := by
  rw [encodeServiceHex, String.toList_ofList]
  induction bytes with
  | nil => exact Denotes.nil
  | cons byte bytes ih =>
    have hbyte := byte.toNat_lt
    have hvalue : UInt8.ofNat (byte.toNat / 16 * 16 + byte.toNat % 16) = byte := by
      rw [Nat.mul_comm, Nat.div_add_mod, UInt8.ofNat_toNat]
    have hstep := Denotes.cons (toDigit_hexDigit (byte.toNat / 16) (by omega))
      (toDigit_hexDigit (byte.toNat % 16) (by omega)) ih
    rwa [hvalue] at hstep

theorem compact_keeps (ch : Char) :
    (!isAsciiWhitespace ch && ch != ':' && ch != '-' && ch != '_') = !isSeparator ch := by
  simp [isSeparator, bne]

theorem digit_not_separator : ∀ digit < 16, isSeparator (hexDigit digit) = false := by decide

theorem Separated.filter {text input : List Char} (h : Separated text input) :
    input.filter (fun ch => !isSeparator ch) = text.filter fun ch => !isSeparator ch := by
  induction h with
  | nil => rfl
  | digit c _ ih => rw [List.filter_cons, List.filter_cons, ih]
  | separator hc _ ih => rw [List.filter_cons, hc, ih]; rfl

/-- taking the separators out of an encoding with separators put in leaves the encoding -/
theorem compact_separated {bytes : List UInt8} {input : String}
    (h : Separated (encodeServiceHex bytes).toList input.toList) : compact input = (encodeServiceHex bytes).toList := by
  have hkeep : (encodeServiceHex bytes).toList.filter (fun ch => !isSeparator ch) = (encodeServiceHex bytes).toList := by
    rw [List.filter_eq_self]
    intro c hc
    rw [encodeServiceHex, String.toList_ofList, List.mem_flatMap] at hc
    obtain ⟨byte, -, hc⟩ := hc
    have hbyte := byte.toNat_lt
    rcases List.mem_pair.1 hc with rfl | rfl
    · rw [digit_not_separator _ (by omega)]; rfl
    · rw [digit_not_separator _ (by omega)]; rfl
  rw [compact, funext compact_keeps, h.filter, hkeep]

/-! ## The pairs of a text -/

@[simp] theorem pairText_nil : pairText [] = [] := rfl

@[simp] theorem pairText_cons (pair : Char × Char) (pairs : List (Char × Char)) :
    pairText (pair :: pairs) = pair.1 :: pair.2 :: pairText pairs := by
  simp [pairText]

theorem Readable.ascii {pair : Char × Char} (h : Readable pair) : pair.1.utf8Size = 1 ∧ pair.2.utf8Size = 1 := by
  obtain ⟨hfirst, hsecond⟩ := h
  obtain ⟨low, hlow⟩ := Option.isSome_iff_exists.1 hsecond
  refine ⟨?_, toDigit_ascii hlow⟩
  rcases hfirst with hsign | hhigh
  · rw [hsign]; rfl
  · obtain ⟨high, hhigh⟩ := Option.isSome_iff_exists.1 hhigh
    exact toDigit_ascii hhigh

theorem byteLength_pairText {pairs : List (Char × Char)} (h : ∀ pair ∈ pairs, Readable pair) :
    byteLength (pairText pairs) = 2 * pairs.length := by
  induction pairs with
  | nil => rfl
  | cons pair pairs ih =>
    obtain ⟨hfirst, hsecond⟩ := (h pair List.mem_cons_self).ascii
    rw [pairText_cons, byteLength_cons, byteLength_cons, hfirst, hsecond,
      ih fun other hother => h other (List.mem_cons_of_mem pair hother), List.length_cons]
    omega

/-- a text of even length is a run of readable pairs and then nothing, a pair that is cut or one that is unreadable -/
theorem split_text : ∀ text, byteLength text % 2 = 0 →
    ∃ pairs rest, text = pairText pairs ++ rest ∧ (∀ pair ∈ pairs, Readable pair) ∧
      (rest = [] ∨ Cut rest ∨ Unreadable rest)
  | [], _ => ⟨[], [], rfl, fun _ h => absurd h List.not_mem_nil, Or.inl rfl⟩
  | [c], heven => by
    refine ⟨[], [c], rfl, fun _ h => absurd h List.not_mem_nil, Or.inr ?_⟩
    have hc := c.utf8Size_pos
    rw [byteLength_cons, byteLength_nil] at heven
    rcases Nat.lt_or_ge 2 c.utf8Size with hwide | hnarrow
    · exact Or.inl (Or.inl hwide)
    · exact Or.inr (Or.inl (by omega))
  | c :: d :: text, heven => by
    have hc := c.utf8Size_pos
    have hd := d.utf8Size_pos
    by_cases hpair : Readable (c, d)
    · obtain ⟨hone, htwo⟩ := hpair.ascii
      rw [byteLength_cons, byteLength_cons, hone, htwo] at heven
      obtain ⟨pairs, rest, rfl, hpairs, hrest⟩ := split_text text (by omega)
      refine ⟨(c, d) :: pairs, rest, by simp, fun pair hmem => ?_, hrest⟩
      rcases List.mem_cons.1 hmem with rfl | hmem
      · exact hpair
      · exact hpairs pair hmem
    · refine ⟨[], c :: d :: text, rfl, fun _ h => absurd h List.not_mem_nil, Or.inr ?_⟩
      rcases Nat.lt_trichotomy c.utf8Size 2 with hone | htwo | hwide
      · have hone : c.utf8Size = 1 := by omega
        rcases Nat.lt_or_ge 1 d.utf8Size with hwide | hnarrow
        · exact Or.inl (Or.inr ⟨hone, d, text, rfl, hwide⟩)
        · exact Or.inr (Or.inr ⟨hone, d, text, rfl, by omega, hpair⟩)
      · exact Or.inr (Or.inl htwo)
      · exact Or.inl (Or.inl hwide)

/-- both kinds of rest still hold a pair -/
theorem two_le_byteLength {rest : List Char} (h : Cut rest ∨ Unreadable rest) : 2 ≤ byteLength rest := by
  cases rest with
  | nil => exact (h.elim id id).elim
  | cons c text =>
    rw [byteLength_cons]
    rcases h with (hwide | ⟨hone, d, tail, rfl, hd⟩) | (htwo | ⟨hone, d, tail, rfl, hd, -⟩)
    · omega
    · rw [byteLength_cons]; omega
    · omega
    · rw [byteLength_cons]; omega

/-! ## How the parser ends -/

/-- two bytes between two characters -/
theorem parseHexPairs_slice {within : List Char} (hwithin : byteLength within = 2) (before behind : List Char)
    (offsets : List ℕ) :
    parseHexPairs (before ++ (within ++ behind)) (byteLength before :: offsets) =
      match u8FromStrRadix within 16 with
      | .error error => .ok (.error s!"invalid hex byte at offset {byteLength before}: {error.message}")
      | .ok byte => do
        match ← parseHexPairs (before ++ (within ++ behind)) offsets with
        | .error message => return .error message
        | .ok bytes => return .ok (byte :: bytes) := by
  have hslice := textSlice_middle before within behind
  rw [hwithin] at hslice
  rw [parseHexPairs, hslice]
  rfl

/-- the first pair cannot be read, or is cut -/
theorem parseHexPairs_unreadable {rest : List Char} (hrest : Unreadable rest) (before : List Char) (offsets : List ℕ) :
    ∃ message, parseHexPairs (before ++ rest) (byteLength before :: offsets) = .ok (.error message) := by
  cases rest with
  | nil => exact hrest.elim
  | cons c text =>
    rcases hrest with htwo | ⟨hone, d, tail, rfl, hd, hpair⟩
    · obtain ⟨error, herror⟩ := u8FromStrRadix_wide htwo
      have hslice := @parseHexPairs_slice [c] (by simp [htwo]) before text offsets
      rw [herror] at hslice
      exact ⟨_, hslice⟩
    · obtain ⟨error, herror⟩ := u8FromStrRadix_unreadable hpair
      have hslice := @parseHexPairs_slice [c, d] (by simp [hone, hd]) before tail offsets
      rw [herror] at hslice
      exact ⟨_, hslice⟩

theorem parseHexPairs_cut {rest : List Char} (hrest : Cut rest) (before : List Char) (offsets : List ℕ) :
    parseHexPairs (before ++ rest) (byteLength before :: offsets) = .error .sliceOutOfRange := by
  have hcut : splitAtByte rest 2 = none := by
    cases rest with
    | nil => exact hrest.elim
    | cons c text =>
      rcases hrest with hwide | ⟨hone, d, tail, rfl, hd⟩
      · rw [splitAtByte_cons (by decide), if_neg (by omega)]
      · rw [splitAtByte_cons (by decide), if_pos (by omega), hone, splitAtByte_cons (by decide), if_neg (by omega)]
        rfl
  rw [parseHexPairs, textSlice_cut hcut]
  rfl

/-- the readable pairs come first, with the bytes they stand for -/
theorem parseHexPairs_pairs {pairs : List (Char × Char)} (hpairs : ∀ pair ∈ pairs, Readable pair)
    (before rest : List Char) (left : ℕ) :
    ∃ bytes, ((∀ pair ∈ pairs, pair.1 ≠ '+') → Denotes (pairText pairs) bytes) ∧
      parseHexPairs (before ++ (pairText pairs ++ rest)) (List.range' (byteLength before) (pairs.length + left) 2) =
        (do
          match ← parseHexPairs (before ++ pairText pairs ++ rest)
            (List.range' (byteLength (before ++ pairText pairs)) left 2) with
          | .error message => return .error message
          | .ok more => return .ok (bytes ++ more)) := by
  induction pairs generalizing before with
  | nil =>
    refine ⟨[], fun _ => Denotes.nil, ?_⟩
    simp only [pairText_nil, List.nil_append, List.append_nil, List.length_nil, Nat.zero_add]
    rcases parseHexPairs (before ++ rest) (List.range' (byteLength before) left 2) with panic | message | more
    · rfl
    · rfl
    · rfl
  | cons pair pairs ih =>
    have hpair := hpairs pair List.mem_cons_self
    obtain ⟨hfirst, hsecond⟩ := hpair.ascii
    obtain ⟨byte, hbyte⟩ := u8FromStrRadix_readable hpair
    obtain ⟨bytes, hdenotes, hrun⟩ :=
      ih (fun other hother => hpairs other (List.mem_cons_of_mem pair hother)) (before ++ [pair.1, pair.2])
    refine ⟨byte :: bytes, fun hplus => ?_, ?_⟩
    · obtain ⟨high, hhigh⟩ := Option.isSome_iff_exists.1 (hpair.1.resolve_left (hplus pair List.mem_cons_self))
      obtain ⟨low, hlow⟩ := Option.isSome_iff_exists.1 hpair.2
      rw [u8FromStrRadix_digits hhigh hlow] at hbyte
      obtain rfl := Except.ok.inj hbyte
      rw [pairText_cons]
      exact Denotes.cons hhigh hlow (hdenotes fun other hother => hplus other (List.mem_cons_of_mem pair hother))
    · have hwithin : byteLength [pair.1, pair.2] = 2 := by simp [hfirst, hsecond]
      have hslice := parseHexPairs_slice hwithin before (pairText pairs ++ rest)
        (List.range' (byteLength (before ++ [pair.1, pair.2])) (pairs.length + left) 2)
      rw [hbyte] at hslice
      dsimp only at hslice
      rw [← List.append_assoc before, hrun] at hslice
      have hoffsets : List.range' (byteLength before) ((pair :: pairs).length + left) 2 =
          byteLength before :: List.range' (byteLength (before ++ [pair.1, pair.2])) (pairs.length + left) 2 := by
        rw [byteLength_append, hwithin, List.length_cons, Nat.add_right_comm, List.range'_succ]
      have htext : before ++ (pairText (pair :: pairs) ++ rest) =
          before ++ [pair.1, pair.2] ++ (pairText pairs ++ rest) := by simp
      have hbefore : before ++ pairText (pair :: pairs) = before ++ [pair.1, pair.2] ++ pairText pairs := by simp
      rw [hoffsets, htext, hbefore, hslice]
      rcases parseHexPairs (before ++ [pair.1, pair.2] ++ pairText pairs ++ rest)
        (List.range' (byteLength (before ++ [pair.1, pair.2] ++ pairText pairs)) left 2) with panic | message | more
      · rfl
      · rfl
      · rfl

section Outcome

variable {input : String} {pairs : List (Char × Char)} {rest : List Char}
  (htext : compact input = pairText pairs ++ rest) (hpairs : ∀ pair ∈ pairs, Readable pair)

include htext hpairs

/-- only pairs: their bytes -/
theorem parseServiceHexBytes_pairs (hrest : rest = []) :
    ∃ bytes, parseServiceHexBytes input = .ok (.ok bytes) ∧
      ((∀ pair ∈ pairs, pair.1 ≠ '+') → Denotes (compact input) bytes) := by
  subst hrest
  obtain ⟨bytes, hdenotes, hrun⟩ := parseHexPairs_pairs hpairs [] [] 0
  have hlength : byteLength (compact input) = 2 * pairs.length := by
    rw [htext, List.append_nil, byteLength_pairText hpairs]
  rw [List.append_nil] at htext
  refine ⟨bytes, ?_, by rwa [htext]⟩
  rw [parseServiceHexBytes, hlength, if_neg (by omega), Nat.mul_div_cancel_left _ (by decide), htext]
  simpa [parseHexPairs] using hrun

/-- a pair that is cut or cannot be read, behind the pairs that can -/
theorem parseServiceHexBytes_rest (heven : byteLength (compact input) % 2 = 0) (hrest : Cut rest ∨ Unreadable rest) :
    ∃ before offsets bytes, parseServiceHexBytes input = (do
      match ← parseHexPairs (before ++ rest) (byteLength before :: offsets) with
      | .error message => return .error message
      | .ok more => return .ok (bytes ++ more)) := by
  have htwo := two_le_byteLength hrest
  obtain ⟨bytes, -, hrun⟩ := parseHexPairs_pairs hpairs [] rest (byteLength rest / 2)
  have hlength : byteLength (compact input) / 2 = pairs.length + byteLength rest / 2 := by
    rw [htext, byteLength_append, byteLength_pairText hpairs]
    omega
  obtain ⟨left, hleft⟩ : ∃ left, byteLength rest / 2 = left + 1 := ⟨byteLength rest / 2 - 1, by omega⟩
  refine ⟨pairText pairs, List.range' (byteLength (pairText pairs) + 2) left 2, bytes, ?_⟩
  rw [parseServiceHexBytes, if_neg (by omega), hlength, htext]
  rw [List.nil_append, List.nil_append, byteLength_nil] at hrun
  rw [hrun, hleft, List.range'_succ]

end Outcome

/-- **How the parser ends** on a text of even length: what is behind its leading readable pairs decides. -/
theorem parseServiceHexBytes_outcome {input : String} (heven : byteLength (compact input) % 2 = 0)
    {pairs : List (Char × Char)} {rest : List Char} (htext : compact input = pairText pairs ++ rest)
    (hpairs : ∀ pair ∈ pairs, Readable pair) :
    (rest = [] → ∃ bytes, parseServiceHexBytes input = .ok (.ok bytes) ∧
      ((∀ pair ∈ pairs, pair.1 ≠ '+') → Denotes (compact input) bytes)) ∧
    (Cut rest → parseServiceHexBytes input = .error .sliceOutOfRange) ∧
    (Unreadable rest → ∃ message, parseServiceHexBytes input = .ok (.error message)) := by
  refine ⟨parseServiceHexBytes_pairs htext hpairs, fun hcut => ?_, fun hunreadable => ?_⟩
  · obtain ⟨before, offsets, bytes, hrun⟩ := parseServiceHexBytes_rest htext hpairs heven (Or.inl hcut)
    rw [hrun, parseHexPairs_cut hcut]
    rfl
  · obtain ⟨before, offsets, bytes, hrun⟩ := parseServiceHexBytes_rest htext hpairs heven (Or.inr hunreadable)
    obtain ⟨message, hmessage⟩ := parseHexPairs_unreadable hunreadable before offsets
    rw [hrun, hmessage]
    exact ⟨message, rfl⟩

/-! ## Exactness -/

theorem Unreadable.not_denotes {pairs : List (Char × Char)} {rest : List Char} {bytes : List UInt8}
    (hrest : Unreadable rest) : ¬ Denotes (pairText pairs ++ rest) bytes := by
  intro hdenotes
  have hdigits := hdenotes.digits
  cases rest with
  | nil => exact hrest
  | cons c text =>
    have hc := hdigits c (List.mem_append_right _ List.mem_cons_self)
    obtain ⟨digit, hdigit⟩ := Option.isSome_iff_exists.1 hc
    rcases hrest with htwo | ⟨-, d, tail, rfl, -, hpair⟩
    · have hone := toDigit_ascii hdigit
      omega
    · exact hpair ⟨Or.inr hc, hdigits d (List.mem_append_right _ (List.mem_cons_of_mem c List.mem_cons_self))⟩

/-- an odd text is refused, and denotes nothing -/
theorem exact_of_odd {input : String} (hodd : byteLength (compact input) % 2 ≠ 0) : Exact input := by
  refine ⟨.error "hex string must contain an even number of digits", ?_, fun bytes => ?_⟩
  · rw [parseServiceHexBytes]
    exact if_pos hodd
  · refine iff_of_false nofun fun hdenotes => ?_
    rw [hdenotes.byteLength_eq] at hodd
    omega

theorem not_exact_of_misread {input : String} (h : Misread (compact input)) : ¬ Exact input := by
  obtain ⟨heven, pairs, rest, htext, hpairs, hrest⟩ := h
  obtain ⟨hread, hcut, -⟩ := parseServiceHexBytes_outcome heven htext hpairs
  intro ⟨result, hresult, hexact⟩
  rcases hrest with ⟨hnil, pair, hmem, hplus⟩ | hrest
  · obtain ⟨bytes, hbytes, -⟩ := hread hnil
    have hdenotes := (hexact bytes).1 (Except.ok.inj (hresult.symm.trans hbytes))
    have hmemPlus : '+' ∈ compact input := by
      rw [htext]
      refine List.mem_append_left _ (List.mem_flatMap.2 ⟨pair, hmem, ?_⟩)
      rw [hplus]
      exact List.mem_cons_self
    have hdigit := hdenotes.digits '+' hmemPlus
    rw [toDigit_plus] at hdigit
    cases hdigit
  · rw [hcut hrest] at hresult
    cases hresult

theorem exact_of_not_misread {input : String} (h : ¬ Misread (compact input)) : Exact input := by
  by_cases heven : byteLength (compact input) % 2 = 0
  · obtain ⟨pairs, rest, htext, hpairs, hrest⟩ := split_text (compact input) heven
    obtain ⟨hread, -, hrefused⟩ := parseServiceHexBytes_outcome heven htext hpairs
    rcases hrest with hnil | hcut | hunreadable
    · obtain ⟨bytes, hbytes, hdenotes⟩ := hread hnil
      have hdenotes := hdenotes fun pair hmem hplus =>
        h ⟨heven, pairs, rest, htext, hpairs, Or.inl ⟨hnil, pair, hmem, hplus⟩⟩
      refine ⟨_, hbytes, fun other => ⟨fun hother => ?_, fun hother => ?_⟩⟩
      · rwa [← Except.ok.inj hother]
      · rw [hdenotes.unique hother]
    · exact absurd ⟨heven, pairs, rest, htext, hpairs, Or.inr hcut⟩ h
    · obtain ⟨message, hmessage⟩ := hrefused hunreadable
      refine ⟨_, hmessage, fun bytes => iff_of_false nofun ?_⟩
      rw [htext]
      exact hunreadable.not_denotes
  · exact exact_of_odd heven

/-- hexadecimal text is not misread -/
theorem Denotes.exact {input : String} {bytes : List UInt8} (h : Denotes (compact input) bytes) :
    parseServiceHexBytes input = .ok (.ok bytes) := by
  have hread : Exact input := by
    refine exact_of_not_misread fun ⟨_, pairs, rest, htext, _, hrest⟩ => ?_
    have hdigits := h.digits
    rw [htext] at hdigits
    rcases hrest with ⟨-, pair, hmem, hplus⟩ | hcut
    · have hdigit := hdigits pair.1 (List.mem_append_left _ (List.mem_flatMap.2 ⟨pair, hmem, List.mem_cons_self⟩))
      rw [hplus, toDigit_plus] at hdigit
      cases hdigit
    · have hascii : ∀ c ∈ rest, c.utf8Size = 1 := by
        intro c hc
        obtain ⟨digit, hdigit⟩ := Option.isSome_iff_exists.1 (hdigits c (List.mem_append_right _ hc))
        exact toDigit_ascii hdigit
      cases rest with
      | nil => exact hcut
      | cons c text =>
        have hc := hascii c List.mem_cons_self
        rcases hcut with hwide | ⟨-, d, tail, rfl, hwide⟩
        · omega
        · have hd := hascii d (List.mem_cons_of_mem c List.mem_cons_self)
          omega
  obtain ⟨result, hresult, hexact⟩ := hread
  rw [hresult, (hexact bytes).2 h]

/-- the parser undoes the encoder, whatever separators are put in between -/
theorem parse_encodeServiceHex {bytes : List UInt8} {input : String}
    (h : Separated (encodeServiceHex bytes).toList input.toList) : parseServiceHexBytes input = .ok (.ok bytes) := by
  have hdenotes := encodeServiceHex_denotes bytes
  rw [← compact_separated h] at hdenotes
  exact hdenotes.exact

/-- **The parser is exact**, and does not panic, on every text that is not misread; and it always undoes the encoder. -/
theorem parseServiceHexBytes_exact_iff (input : String) :
    (Exact input ↔ ¬ Misread (compact input)) ∧
      ∀ bytes, Separated (encodeServiceHex bytes).toList input.toList →
        parseServiceHexBytes input = .ok (.ok bytes) :=
  ⟨⟨fun hexact hmisread => not_exact_of_misread hmisread hexact, exact_of_not_misread⟩,
    fun _ => parse_encodeServiceHex⟩

/-- two bytes with a colon in between -/
theorem parseServiceHexBytes_exact_iff_sample :
    parseServiceHexBytes (String.ofList ['0', 'a', ':', 'f', 'f']) = .ok (.ok [10, 255]) := by
  have hcolon : Separated ['0', 'a', 'f', 'f'] ['0', 'a', ':', 'f', 'f'] :=
    .digit _ (.digit _ (.separator rfl (.digit _ (.digit _ .nil))))
  have hencoded : (encodeServiceHex [10, 255]).toList = ['0', 'a', 'f', 'f'] := by
    rw [encodeServiceHex, String.toList_ofList]
    decide
  apply (parseServiceHexBytes_exact_iff _).2
  rwa [hencoded, String.toList_ofList]

/-- a sign is read as a digit, and a character of three bytes is cut -/
theorem signs_and_wide_characters :
    parseServiceHexBytes (String.ofList ['+', '5']) = .ok (.ok [5]) ∧
      (∀ bytes, ¬ Denotes (compact (String.ofList ['+', '5'])) bytes) ∧
      parseServiceHexBytes (String.ofList ['€', '1']) = .error .sliceOutOfRange := by
  have hsign : compact (String.ofList ['+', '5']) = ['+', '5'] := by
    rw [compact, String.toList_ofList]
    decide
  have hwide : compact (String.ofList ['€', '1']) = ['€', '1'] := by
    rw [compact, String.toList_ofList]
    decide
  refine ⟨?_, fun bytes hdenotes => ?_, ?_⟩
  · rw [parseServiceHexBytes, hsign]
    rfl
  · rw [hsign] at hdenotes
    have hplus := hdenotes.digits '+' List.mem_cons_self
    rw [toDigit_plus] at hplus
    cases hplus
  · rw [parseServiceHexBytes, hwide]
    rfl

end WfbLink.Service
