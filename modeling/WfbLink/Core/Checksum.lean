/-
XOR checksums over little-endian 16-bit words.

The checksum of a byte string is the XOR of its words. A block that carries its own checksum is checked by XORing all
of it: `xorWords_store` says that writing the checksum of a block into a field of the block that was zero makes the
XOR of the whole block zero.
-/
import WfbLink.Core.Checked

namespace WfbLink.Core

/-- the little-endian words of a byte string; an odd last byte is left out -/
def leWords : List UInt8 → List ℕ
  | b0 :: b1 :: rest => leU16 b0 b1 :: leWords rest
  | _ => []

/-- the XOR of all words -/
def xorWords (words : List ℕ) : ℕ := words.foldl (fun acc word => acc ^^^ word) 0

theorem foldl_xor (words : List ℕ) (acc : ℕ) :
    words.foldl (fun acc word => acc ^^^ word) acc = acc ^^^ xorWords words := by
  induction words generalizing acc with
  | nil => simp [xorWords]
  | cons word words ih => rw [xorWords, List.foldl_cons, ih, List.foldl_cons, ih, Nat.zero_xor, Nat.xor_assoc]

theorem xorWords_append (a b : List ℕ) : xorWords (a ++ b) = xorWords a ^^^ xorWords b := by
  rw [xorWords, List.foldl_append, foldl_xor]; rfl

theorem leWords_append {a : List UInt8} (h : a.length % 2 = 0) (b : List UInt8) :
    leWords (a ++ b) = leWords a ++ leWords b := by
  induction a using leWords.induct with
  | case1 b0 b1 rest ih =>
    have hrest : rest.length % 2 = 0 := by
      simp only [List.length_cons] at h; omega
    simp only [List.cons_append, leWords, ih hrest]
  | case2 a hshort =>
    cases a with
    | nil => rfl
    | cons b0 a =>
      cases a with
      | nil => simp at h
      | cons b1 rest => exact absurd rfl (hshort b0 b1 rest)

theorem xorWords_lt {words : List ℕ} (h : ∀ word ∈ words, word < 2 ^ 16) : xorWords words < 2 ^ 16 := by
  induction words with
  | nil => simp [xorWords]
  | cons word words ih =>
    have hword := h word List.mem_cons_self
    have hwords := ih fun w hw => h w (List.mem_cons_of_mem word hw)
    rw [xorWords, List.foldl_cons, foldl_xor, Nat.zero_xor]
    exact Nat.xor_lt_two_pow hword hwords

theorem leWords_lt (bytes : List UInt8) : ∀ word ∈ leWords bytes, word < 2 ^ 16 := by
  induction bytes using leWords.induct with
  | case1 b0 b1 rest ih =>
    intro word hword
    rcases List.mem_cons.1 hword with rfl | hword
    · exact leU16_lt b0 b1
    · exact ih word hword
  | case2 bytes hshort =>
    intro word hword
    rw [leWords] at hword
    · exact nomatch hword
    · exact hshort

theorem leWords_toLeU16 {n : ℕ} (h : n < 2 ^ 16) : leWords (toLeU16 n) = [n] := by
  simp only [toLeU16, leWords, leU16_toLe h]

/-- **A block with its checksum checks.** The field is two bytes at an even offset, zero while the checksum is taken. -/
theorem xorWords_store {before : List UInt8} (heven : before.length % 2 = 0) (after : List UInt8) :
    xorWords (leWords (before ++ toLeU16 (xorWords (leWords (before ++ [0, 0] ++ after))) ++ after)) = 0 := by
  have hfield : ∀ field : List UInt8, field.length = 2 →
      xorWords (leWords (before ++ field ++ after)) =
        xorWords (leWords before) ^^^ xorWords (leWords field) ^^^ xorWords (leWords after) := by
    intro field hlen
    rw [List.append_assoc, leWords_append heven, leWords_append (by omega), xorWords_append, xorWords_append,
      Nat.xor_assoc]
  have hsum := hfield [0, 0] rfl
  have hzero : xorWords (leWords [0, 0]) = 0 := by decide
  rw [hzero, Nat.xor_zero] at hsum
  have hlt := xorWords_lt (leWords_lt (before ++ [0, 0] ++ after))
  have hstored : xorWords (leWords (toLeU16 (xorWords (leWords (before ++ [0, 0] ++ after))))) =
      xorWords (leWords before) ^^^ xorWords (leWords after) := by
    rw [leWords_toLeU16 hlt, hsum]
    exact Nat.zero_xor _
  calc xorWords (leWords (before ++ toLeU16 (xorWords (leWords (before ++ [0, 0] ++ after))) ++ after))
      = xorWords (leWords before) ^^^ (xorWords (leWords before) ^^^ xorWords (leWords after)) ^^^
          xorWords (leWords after) := by rw [hfield _ rfl, hstored]
    _ = 0 := by rw [← Nat.xor_assoc, Nat.xor_self, Nat.zero_xor, Nat.xor_self]

end WfbLink.Core
