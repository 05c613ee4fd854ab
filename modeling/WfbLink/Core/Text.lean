/-
Text as the standard library cuts it: at byte offsets, at separators and at its white space.

A text is a list of characters, its offsets count the bytes of its UTF-8 encoding, and a program that cuts it inside a
character stops with a panic.

- `textSlice_middle`: a slice between two characters is the characters between them.
- `textSlice_cut`: a slice that ends inside a character panics.
- `splitOnce_append`: a text is split at the first of its separators.
-/
import Mathlib.Data.List.DropRight
import WfbLink.Core.Checked

namespace WfbLink.Core

/-- the bytes of a text's encoding -/
def byteLength (text : List Char) : ℕ := (text.map Char.utf8Size).sum

/-- the characters before a byte offset and the ones behind it, unless the offset is inside a character or beyond the
end -/
def splitAtByte : List Char → ℕ → Option (List Char × List Char)
  | text, 0 => some ([], text)
  | [], _ + 1 => none
  | c :: text, n + 1 =>
    if c.utf8Size ≤ n + 1 then (splitAtByte text (n + 1 - c.utf8Size)).map fun parts => (c :: parts.1, parts.2)
    else none

/-- `&text[start..stop]` -/
def textSlice (text : List Char) (start stop : ℕ) : Checked (List Char) :=
  match splitAtByte text start with
  | none => .error .sliceOutOfRange
  | some (_, behind) =>
    if stop < start then .error .sliceOutOfRange
    else
      match splitAtByte behind (stop - start) with
      | none => .error .sliceOutOfRange
      | some (within, _) => .ok within

@[simp] theorem byteLength_nil : byteLength [] = 0 := rfl

@[simp] theorem byteLength_cons (c : Char) (text : List Char) :
    byteLength (c :: text) = c.utf8Size + byteLength text := by
  simp [byteLength]

@[simp] theorem byteLength_append (text rest : List Char) :
    byteLength (text ++ rest) = byteLength text + byteLength rest := by
  simp [byteLength]

@[simp] theorem splitAtByte_zero (text : List Char) : splitAtByte text 0 = some ([], text) := by
  cases text <;> rfl

/-- a character that starts before the offset ends before it, or is cut -/
theorem splitAtByte_cons {c : Char} {text : List Char} {n : ℕ} (hn : 0 < n) :
    splitAtByte (c :: text) n =
      if c.utf8Size ≤ n then (splitAtByte text (n - c.utf8Size)).map fun parts => (c :: parts.1, parts.2) else none := by
  obtain ⟨m, rfl⟩ := Nat.exists_eq_add_of_lt hn
  simp [splitAtByte]

theorem splitAtByte_append (text rest : List Char) : splitAtByte (text ++ rest) (byteLength text) = some (text, rest) := by
  induction text with
  | nil => exact splitAtByte_zero rest
  | cons c text ih =>
    have hc := c.utf8Size_pos
    rw [List.cons_append, byteLength_cons, splitAtByte_cons (by omega), if_pos (Nat.le_add_right _ _),
      Nat.add_sub_cancel_left, ih]
    rfl

/-- the characters between two cuts -/
theorem textSlice_middle (before within behind : List Char) :
    textSlice (before ++ (within ++ behind)) (byteLength before) (byteLength before + byteLength within) =
      .ok within := by
  rw [textSlice, splitAtByte_append]
  dsimp only
  rw [if_neg (by omega), Nat.add_sub_cancel_left, splitAtByte_append]

/-- the second cut is inside a character -/
theorem textSlice_cut {before behind : List Char} {len : ℕ} (hcut : splitAtByte behind len = none) :
    textSlice (before ++ behind) (byteLength before) (byteLength before + len) = .error .sliceOutOfRange := by
  rw [textSlice, splitAtByte_append]
  dsimp only
  rw [if_neg (by omega), Nat.add_sub_cancel_left, hcut]

/-! ## Separators and white space -/

/-- `char::is_whitespace` -/
def isWhitespace (c : Char) : Bool :=
  0x09 ≤ c.toNat && c.toNat ≤ 0x0d || c.toNat == 0x20 || c.toNat == 0x85 || c.toNat == 0xa0 || c.toNat == 0x1680 ||
    0x2000 ≤ c.toNat && c.toNat ≤ 0x200a || c.toNat == 0x2028 || c.toNat == 0x2029 || c.toNat == 0x202f ||
    c.toNat == 0x205f || c.toNat == 0x3000

def trim (text : List Char) : List Char := (text.dropWhile isWhitespace).rdropWhile isWhitespace

/-- `str::strip_prefix` -/
def stripPrefix (start text : List Char) : Option (List Char) :=
  if start.isPrefixOf text then some (text.drop start.length) else none

/-- `str::split_once` at a character -/
def splitOnce (separator : Char) : List Char → Option (List Char × List Char)
  | [] => none
  | c :: text =>
    if c = separator then some ([], text)
    else (splitOnce separator text).map fun parts => (c :: parts.1, parts.2)

theorem splitOnce_append {separator : Char} {text : List Char} (h : separator ∉ text) (rest : List Char) :
    splitOnce separator (text ++ separator :: rest) = some (text, rest) := by
  induction text with
  | nil => exact if_pos rfl
  | cons c text ih =>
    have hc : c ≠ separator := fun hc => h (hc ▸ List.mem_cons_self)
    rw [List.cons_append, splitOnce, if_neg hc, ih fun hmem => h (List.mem_cons_of_mem c hmem)]
    rfl

theorem trim_of_solid {text : List Char} (h : ∀ c ∈ text, isWhitespace c = false) : trim text = text := by
  have hdrop : text.dropWhile isWhitespace = text := by
    cases text with
    | nil => rfl
    | cons c text => rw [List.dropWhile_cons_of_neg (by rw [h c List.mem_cons_self]; decide)]
  rw [trim, hdrop, List.rdropWhile_eq_self_iff]
  intro hne
  rw [h _ (List.getLast_mem hne)]
  decide

end WfbLink.Core
