/-
Checked access to byte strings, and the fixed-width arithmetic the rest of the development reads them with.

A program that indexes or slices out of range stops with a panic; `Checked` is a computation that may do so. A
`Checked` value that equals `.ok v` is therefore both a result and a proof that no access was out of range.

Words read from bytes are natural numbers below their width: `leU16`, `leU32`, `beU16` and `beU32` read them, the
`to..` functions write them, and the `.._to..` lemmas say that reading undoes writing. Counters are `UInt64`, with the
saturating operations `satAdd` and `satSub`.
-/
import Mathlib.Tactic

namespace WfbLink.Core

/-! ## Panics -/

/-- why a computation stopped without a result -/
inductive Panic where
  | indexOutOfRange
  | sliceOutOfRange
  | expectFailed (message : String)
  | arithmeticOverflow
deriving DecidableEq, Repr

/-- a computation that returns a value or panics -/
abbrev Checked (α : Type) := Except Panic α

variable {α : Type}

/-- `xs[i]` -/
def index (xs : List α) (i : ℕ) : Checked α :=
  match xs[i]? with
  | some x => .ok x
  | none => .error .indexOutOfRange

/-- `xs[i] = x` -/
def setIndex (xs : List α) (i : ℕ) (x : α) : Checked (List α) :=
  if i < xs.length then .ok (xs.set i x) else .error .indexOutOfRange

/-- `xs[a..b]` -/
def slice (xs : List α) (a b : ℕ) : Checked (List α) :=
  if a ≤ b ∧ b ≤ xs.length then .ok ((xs.drop a).take (b - a)) else .error .sliceOutOfRange

/-- `o.expect(message)` -/
def expect (message : String) : Option α → Checked α
  | some x => .ok x
  | none => .error (.expectFailed message)

theorem index_ok {xs : List α} {i : ℕ} {x : α} (h : xs[i]? = some x) : index xs i = .ok x := by
  simp [index, h]

theorem index_of_lt {xs : List α} {i : ℕ} (h : i < xs.length) : index xs i = .ok xs[i] :=
  index_ok (List.getElem?_eq_getElem h)

theorem index_append_cons (pre : List α) (x : α) (post : List α) : index (pre ++ x :: post) pre.length = .ok x :=
  index_ok (by simp)

theorem index_append_cons_cons (pre : List α) (x y : α) (post : List α) :
    index (pre ++ x :: y :: post) (pre.length + 1) = .ok y :=
  index_ok (by simp)

theorem setIndex_of_lt {xs : List α} {i : ℕ} (h : i < xs.length) (x : α) : setIndex xs i x = .ok (xs.set i x) :=
  if_pos h

theorem slice_ok {xs : List α} {a b : ℕ} (hab : a ≤ b) (hb : b ≤ xs.length) :
    slice xs a b = .ok ((xs.drop a).take (b - a)) := by
  simp [slice, hab, hb]

/-- a slice to the end of the string -/
theorem slice_to_end {xs : List α} {a : ℕ} (ha : a ≤ xs.length) : slice xs a xs.length = .ok (xs.drop a) := by
  rw [slice_ok ha le_rfl, ← List.length_drop, List.take_length]

@[simp] theorem checked_pure (a : α) : (pure a : Checked α) = .ok a := rfl

@[simp] theorem checked_bind_ok {β : Type} (a : α) (f : α → Checked β) : (Except.ok a >>= f) = f a := rfl

@[simp] theorem checked_bind_error {β : Type} (p : Panic) (f : α → Checked β) :
    ((Except.error p : Checked α) >>= f) = .error p := rfl

/-- a computation that returns an error has not returned a value -/
theorem return_error_ne {ε β : Type} {e : ε} {b : β} : (pure (.error e) : Checked (Except ε β)) ≠ .ok (.ok b) :=
  fun h => nomatch Except.ok.inj h

/-- anything holds of the value of an error -/
theorem forall_error {ε β : Type} {P : β → Prop} {e : ε} : ∀ b, (.error e : Except ε β) = .ok b → P b :=
  fun _ h => nomatch h

/-- a sequence that returned, taken apart -/
theorem except_bind_ok {ε α β : Type} {r : Except ε α} {f : α → Except ε β} {b : β} (h : (r >>= f) = .ok b) :
    ∃ a, r = .ok a ∧ f a = .ok b := by
  rcases r with e | a
  · cases h
  · exact ⟨a, rfl, h⟩

theorem isOk_iff {ε α : Type} {r : Except ε α} : r.isOk = true ↔ ∃ a, r = .ok a := by
  cases r with
  | error e => exact iff_of_false Bool.false_ne_true (by simp)
  | ok a => exact iff_of_true rfl ⟨a, rfl⟩

/-- the steps of a traversal, one by one -/
theorem mapM_forall₂ {ε α β : Type} {f : α → Except ε β} {R : α → β → Prop} {xs : List α}
    (hstep : ∀ a ∈ xs, ∀ b, f a = .ok b → R a b) {ys : List β} (h : xs.mapM f = .ok ys) : List.Forall₂ R xs ys := by
  induction xs generalizing ys with
  | nil =>
    cases h
    exact .nil
  | cons x xs ih =>
    rw [List.mapM_cons] at h
    obtain ⟨y, hy, h⟩ := except_bind_ok h
    obtain ⟨rest, hrest, h⟩ := except_bind_ok h
    cases h
    exact .cons (hstep x List.mem_cons_self y hy) (ih (fun a ha => hstep a (List.mem_cons_of_mem x ha)) hrest)

/-- a traversal whose steps can only return one value -/
theorem mapM_eq_map {ε α β : Type} {f : α → Except ε β} {g : α → β} {xs : List α}
    (hstep : ∀ a ∈ xs, ∀ b, f a = .ok b → g a = b) {ys : List β} (h : xs.mapM f = .ok ys) : ys = xs.map g := by
  have hall := mapM_forall₂ hstep h
  rw [← List.forall₂_map_left_iff, List.forall₂_eq_eq_eq] at hall
  exact hall.symm

theorem mapM_exists {ε α β : Type} {f : α → Except ε β} {xs : List α} (hstep : ∀ a ∈ xs, ∃ b, f a = .ok b) :
    ∃ ys, xs.mapM f = .ok ys := by
  induction xs with
  | nil => exact ⟨[], rfl⟩
  | cons x xs ih =>
    obtain ⟨y, hy⟩ := hstep x List.mem_cons_self
    obtain ⟨ys, hys⟩ := ih fun a ha => hstep a (List.mem_cons_of_mem x ha)
    refine ⟨y :: ys, ?_⟩
    rw [List.mapM_cons, hy, hys]
    rfl

/-! ## Words in byte strings -/

def leU16 (b0 b1 : UInt8) : ℕ := b0.toNat + 2 ^ 8 * b1.toNat

def leU32 (b0 b1 b2 b3 : UInt8) : ℕ := b0.toNat + 2 ^ 8 * b1.toNat + 2 ^ 16 * b2.toNat + 2 ^ 24 * b3.toNat

def beU16 (b0 b1 : UInt8) : ℕ := leU16 b1 b0

def beU32 (b0 b1 b2 b3 : UInt8) : ℕ := leU32 b3 b2 b1 b0

def toLeU16 (n : ℕ) : List UInt8 := [UInt8.ofNat n, UInt8.ofNat (n / 2 ^ 8)]

def toLeU32 (n : ℕ) : List UInt8 :=
  [UInt8.ofNat n, UInt8.ofNat (n / 2 ^ 8), UInt8.ofNat (n / 2 ^ 16), UInt8.ofNat (n / 2 ^ 24)]

def toBeU16 (n : ℕ) : List UInt8 := (toLeU16 n).reverse

def toBeU32 (n : ℕ) : List UInt8 := (toLeU32 n).reverse

/-- the little-endian 32-bit word at offset `i` -/
def readLeU32 (xs : List UInt8) (i : ℕ) : Checked ℕ := do
  let b0 ← index xs i
  let b1 ← index xs (i + 1)
  let b2 ← index xs (i + 2)
  let b3 ← index xs (i + 3)
  return leU32 b0 b1 b2 b3

/-- the big-endian 32-bit word at offset `i` -/
def readBeU32 (xs : List UInt8) (i : ℕ) : Checked ℕ := do
  let b0 ← index xs i
  let b1 ← index xs (i + 1)
  let b2 ← index xs (i + 2)
  let b3 ← index xs (i + 3)
  return beU32 b0 b1 b2 b3

/-- the little-endian 16-bit word at offset `i` -/
def readLeU16 (xs : List UInt8) (i : ℕ) : Checked ℕ := do
  let b0 ← index xs i
  let b1 ← index xs (i + 1)
  return leU16 b0 b1

theorem leU16_lt (b0 b1 : UInt8) : leU16 b0 b1 < 2 ^ 16 := by
  have h0 := b0.toNat_lt
  have h1 := b1.toNat_lt
  unfold leU16; omega

theorem leU32_lt (b0 b1 b2 b3 : UInt8) : leU32 b0 b1 b2 b3 < 2 ^ 32 := by
  have h0 := b0.toNat_lt
  have h1 := b1.toNat_lt
  have h2 := b2.toNat_lt
  have h3 := b3.toNat_lt
  unfold leU32; omega

@[simp] theorem toLeU32_length (n : ℕ) : (toLeU32 n).length = 4 := rfl

@[simp] theorem toBeU16_length (n : ℕ) : (toBeU16 n).length = 2 := rfl

theorem leU16_toLe {n : ℕ} (h : n < 2 ^ 16) : leU16 (UInt8.ofNat n) (UInt8.ofNat (n / 2 ^ 8)) = n := by
  simp only [leU16, UInt8.toNat_ofNat']; omega

theorem leU32_toLe {n : ℕ} (h : n < 2 ^ 32) :
    leU32 (UInt8.ofNat n) (UInt8.ofNat (n / 2 ^ 8)) (UInt8.ofNat (n / 2 ^ 16)) (UInt8.ofNat (n / 2 ^ 24)) = n := by
  simp only [leU32, UInt8.toNat_ofNat']; omega

theorem toLeU16_leU16 (b0 b1 : UInt8) : toLeU16 (leU16 b0 b1) = [b0, b1] := by
  have h0 := b0.toNat_lt
  have h1 := b1.toNat_lt
  have e0 : UInt8.ofNat (leU16 b0 b1) = b0 := by
    apply UInt8.toNat_inj.1; simp only [leU16, UInt8.toNat_ofNat']; omega
  have e1 : UInt8.ofNat (leU16 b0 b1 / 2 ^ 8) = b1 := by
    apply UInt8.toNat_inj.1; simp only [leU16, UInt8.toNat_ofNat']; omega
  simp only [toLeU16, e0, e1]

theorem toLeU32_leU32 (b0 b1 b2 b3 : UInt8) : toLeU32 (leU32 b0 b1 b2 b3) = [b0, b1, b2, b3] := by
  have h0 := b0.toNat_lt
  have h1 := b1.toNat_lt
  have h2 := b2.toNat_lt
  have h3 := b3.toNat_lt
  have e0 : UInt8.ofNat (leU32 b0 b1 b2 b3) = b0 := by
    apply UInt8.toNat_inj.1; simp only [leU32, UInt8.toNat_ofNat']; omega
  have e1 : UInt8.ofNat (leU32 b0 b1 b2 b3 / 2 ^ 8) = b1 := by
    apply UInt8.toNat_inj.1; simp only [leU32, UInt8.toNat_ofNat']; omega
  have e2 : UInt8.ofNat (leU32 b0 b1 b2 b3 / 2 ^ 16) = b2 := by
    apply UInt8.toNat_inj.1; simp only [leU32, UInt8.toNat_ofNat']; omega
  have e3 : UInt8.ofNat (leU32 b0 b1 b2 b3 / 2 ^ 24) = b3 := by
    apply UInt8.toNat_inj.1; simp only [leU32, UInt8.toNat_ofNat']; omega
  simp only [toLeU32, e0, e1, e2, e3]

/-- a word is read from exactly the bytes it is written as -/
theorem beU32_eq_iff {b0 b1 b2 b3 : UInt8} {n : ℕ} (hn : n < 2 ^ 32) :
    beU32 b0 b1 b2 b3 = n ↔ [b0, b1, b2, b3] = toBeU32 n := by
  constructor
  · rintro rfl
    rw [toBeU32, beU32, toLeU32_leU32]
    rfl
  · intro h
    have hrev : [b3, b2, b1, b0] = toLeU32 n := by
      rw [← List.reverse_reverse (toLeU32 n), ← toBeU32, ← h]
      rfl
    rw [toLeU32] at hrev
    injection hrev with h3 hrev
    injection hrev with h2 hrev
    injection hrev with h1 hrev
    injection hrev with h0
    rw [beU32, h0, h1, h2, h3, leU32_toLe hn]

theorem readLeU32_ok {xs : List UInt8} {i : ℕ} (h : i + 4 ≤ xs.length) :
    readLeU32 xs i = .ok (leU32 (xs[i]) (xs[i + 1]) (xs[i + 2]) (xs[i + 3])) := by
  simp only [readLeU32, index_of_lt (show i < xs.length by omega), index_of_lt (show i + 1 < xs.length by omega),
    index_of_lt (show i + 2 < xs.length by omega), index_of_lt (show i + 3 < xs.length by omega), checked_bind_ok]
  rfl

theorem readBeU32_ok {xs : List UInt8} {i : ℕ} (h : i + 4 ≤ xs.length) :
    readBeU32 xs i = .ok (beU32 (xs[i]) (xs[i + 1]) (xs[i + 2]) (xs[i + 3])) := by
  simp only [readBeU32, index_of_lt (show i < xs.length by omega), index_of_lt (show i + 1 < xs.length by omega),
    index_of_lt (show i + 2 < xs.length by omega), index_of_lt (show i + 3 < xs.length by omega), checked_bind_ok]
  rfl

theorem readLeU16_ok {xs : List UInt8} {i : ℕ} (h : i + 2 ≤ xs.length) :
    readLeU16 xs i = .ok (leU16 (xs[i]) (xs[i + 1])) := by
  simp only [readLeU16, index_of_lt (show i < xs.length by omega), index_of_lt (show i + 1 < xs.length by omega),
    checked_bind_ok]
  rfl

/-- a word written at the front of a string is read back -/
theorem readLeU32_front {n : ℕ} (h : n < 2 ^ 32) (rest : List UInt8) : readLeU32 (toLeU32 n ++ rest) 0 = .ok n := by
  rw [readLeU32_ok (by simp)]
  simp only [toLeU32, List.cons_append, List.nil_append, List.getElem_cons_zero, List.getElem_cons_succ, leU32_toLe h]

/-! ## Rounding up to an alignment -/

/-- the largest `usize` -/
def usizeMax : ℕ := 2 ^ 64 - 1

/-- keeping the bits from position `k` up rounds down to a multiple of `2 ^ k` -/
theorem and_high_mask {x k : ℕ} (hx : x < 2 ^ 64) (hk : k ≤ 64) :
    x &&& (usizeMax - (2 ^ k - 1)) = x / 2 ^ k * 2 ^ k := by
  have hmask : usizeMax - (2 ^ k - 1) = (2 ^ (64 - k) - 1) <<< k := by
    have hpow : 2 ^ (64 - k) * 2 ^ k = 2 ^ 64 := by rw [← pow_add]; congr 1; omega
    have h1 : 1 ≤ 2 ^ k := Nat.one_le_two_pow
    rw [Nat.shiftLeft_eq, Nat.sub_mul, hpow, usizeMax]; omega
  rw [hmask, ← Nat.shiftRight_eq_div_pow, ← Nat.shiftLeft_eq]
  apply Nat.eq_of_testBit_eq
  intro i
  simp only [Nat.testBit_and, Nat.testBit_shiftLeft, Nat.testBit_shiftRight, Nat.testBit_two_pow_sub_one]
  by_cases hik : k ≤ i
  · have hadd : k + (i - k) = i := by omega
    by_cases hi : i - k < 64 - k
    · simp [hik, hi, hadd]
    · have : x.testBit i = false := Nat.testBit_lt_two_pow (lt_of_lt_of_le hx (Nat.pow_le_pow_right (by norm_num) (by omega)))
      simp [hik, hi, hadd, this]
  · simp [hik]

/-! ## Saturating counters -/

/-- `a.saturating_add(b)` -/
def satAdd (a b : UInt64) : UInt64 := if a.toNat + b.toNat < 2 ^ 64 then a + b else UInt64.ofNat (2 ^ 64 - 1)

/-- `a.saturating_sub(b)` -/
def satSub (a b : UInt64) : UInt64 := if b.toNat ≤ a.toNat then a - b else 0

/-- the largest `u64` -/
def u64Max : ℕ := 2 ^ 64 - 1

/-- `a.saturating_mul(b)` -/
def satMul (a b : UInt64) : UInt64 := UInt64.ofNat (min (a.toNat * b.toNat) u64Max)

/-- `u64::try_from(n).unwrap_or(u64::MAX)` -/
def u64Sat (n : ℕ) : UInt64 := UInt64.ofNat (min n u64Max)

theorem u64Sat_toNat (n : ℕ) : (u64Sat n).toNat = min n u64Max := by
  rw [u64Sat, UInt64.toNat_ofNat', u64Max]
  exact Nat.mod_eq_of_lt (by omega)

theorem satMul_toNat (a b : UInt64) : (satMul a b).toNat = min (a.toNat * b.toNat) u64Max := u64Sat_toNat _

theorem satAdd_toNat (a b : UInt64) : (satAdd a b).toNat = min (a.toNat + b.toNat) u64Max := by
  unfold satAdd u64Max
  split_ifs with h
  · rw [UInt64.toNat_add, Nat.mod_eq_of_lt h]; omega
  · rw [UInt64.toNat_ofNat']; omega

theorem satSub_toNat (a b : UInt64) : (satSub a b).toNat = a.toNat - b.toNat := by
  unfold satSub
  split_ifs with h
  · exact UInt64.toNat_sub_of_le a b (UInt64.le_iff_toNat_le.2 h)
  · have h0 : (0 : UInt64).toNat = 0 := rfl
    omega

@[simp] theorem satAdd_zero (a : UInt64) : satAdd a 0 = a := by
  apply UInt64.toNat_inj.1
  have h := a.toNat_lt
  have h0 : (0 : UInt64).toNat = 0 := rfl
  rw [satAdd_toNat, h0, u64Max]; omega

theorem satAdd_mono {a b c d : UInt64} (hac : a ≤ c) (hbd : b ≤ d) : satAdd a b ≤ satAdd c d := by
  rw [UInt64.le_iff_toNat_le] at hac hbd ⊢
  rw [satAdd_toNat, satAdd_toNat]
  omega

theorem le_satAdd (a b : UInt64) : a ≤ satAdd a b := by
  have hlt := a.toNat_lt
  rw [UInt64.le_iff_toNat_le, satAdd_toNat, u64Max]
  omega

/-- adding `n` ones, one after the other -/
def satCount (a : UInt64) (n : ℕ) : UInt64 := (fun c => satAdd c 1)^[n] a

@[simp] theorem satCount_zero (a : UInt64) : satCount a 0 = a := rfl

theorem satCount_succ (a : UInt64) (n : ℕ) : satCount a (n + 1) = satCount (satAdd a 1) n := rfl

theorem satCount_toNat (a : UInt64) (n : ℕ) : (satCount a n).toNat = min (a.toNat + n) u64Max := by
  induction n generalizing a with
  | zero =>
    have h := a.toNat_lt
    rw [satCount_zero, u64Max]; omega
  | succ n ih =>
    have h1 : (1 : UInt64).toNat = 1 := rfl
    rw [satCount_succ, ih, satAdd_toNat, h1]; omega

/-! ## Members -/

/-- the members of a list are tried, also where the type has finitely many values -/
instance (priority := 2000) decidableMembers (p : α → Prop) [DecidablePred p] (xs : List α) :
    Decidable (∀ x ∈ xs, p x) := List.decidableBAll p xs

/-! ## Text -/

/-- `{n:0widthx}` -/
def hexText (width n : ℕ) : String := String.ofList (Nat.toDigits 16 n |>.leftpad width '0')

end WfbLink.Core
