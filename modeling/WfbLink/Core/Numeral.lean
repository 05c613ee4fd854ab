/-
Numbers in text: the digits of the standard library's parsers and printers.

- `toDigits_digits`: a printed number is digits only, so that a separator ends it.
- `scanDigits_toDigits`: reading digits undoes printing them, wherever the text goes on.
- `fromStrRadix_toDigits`: so does parsing a whole text.
- `fromDigits_toLower`, `fromDigits_zeros`: neither case nor leading zeros change a number.
-/
import WfbLink.Core.Text

namespace WfbLink.Core

inductive ParseIntError where
  | empty
  | invalidDigit
  | posOverflow
deriving DecidableEq, Repr

def ParseIntError.message : ParseIntError → String
  | .empty => "cannot parse integer from empty string"
  | .invalidDigit => "invalid digit found in string"
  | .posOverflow => "number too large to fit in target type"

/-- `char::to_digit` -/
def toDigit (radix : ℕ) (c : Char) : Option ℕ :=
  if '0' ≤ c ∧ c ≤ '9' then
    if c.toNat - 48 < radix then some (c.toNat - 48) else none
  else if 'a' ≤ c ∧ c ≤ 'z' then
    if c.toNat - 97 + 10 < radix then some (c.toNat - 97 + 10) else none
  else if 'A' ≤ c ∧ c ≤ 'Z' then
    if c.toNat - 65 + 10 < radix then some (c.toNat - 65 + 10) else none
  else none

/-- the number and the count of the digits at the front of a text, behind `count` digits that make `value`; a number
that is to stop at is refused -/
def scanDigits (radix : ℕ) (stop : ℕ → ℕ → Bool) : ℕ → ℕ → List Char → Option ((ℕ × ℕ) × List Char)
  | value, count, [] => some ((value, count), [])
  | value, count, c :: text =>
    match toDigit radix c with
    | none => some ((value, count), c :: text)
    | some digit =>
      if stop (value * radix + digit) (count + 1) then none
      else scanDigits radix stop (value * radix + digit) (count + 1) text

/-- the digits of a number below `limit` behind those that make `value` -/
def fromDigits (limit radix : ℕ) : ℕ → List Char → Except ParseIntError ℕ
  | value, [] => .ok value
  | value, c :: text =>
    match toDigit radix c with
    | none => .error .invalidDigit
    | some digit =>
      if value * radix + digit < limit then fromDigits limit radix (value * radix + digit) text
      else .error .posOverflow

/-- `from_str_radix` of an unsigned type of `limit` values, which takes a leading plus sign -/
def fromStrRadix (limit : ℕ) (text : List Char) (radix : ℕ) : Except ParseIntError ℕ :=
  match text with
  | [] => .error .empty
  | ['+'] => .error .invalidDigit
  | ['-'] => .error .invalidDigit
  | '+' :: digits => fromDigits limit radix 0 digits
  | digits => fromDigits limit radix 0 digits

/-! ## Digits -/

theorem toDigit_lt {radix digit : ℕ} {c : Char} (h : toDigit radix c = some digit) : digit < radix := by
  unfold toDigit at h
  split_ifs at h
  all_goals exact Option.some.inj h ▸ ‹_›

theorem utf8Size_of_le_z {c : Char} (h : c ≤ 'z') : c.utf8Size = 1 := by
  rw [Char.utf8Size_eq_one_iff]
  exact UInt32.le_trans (Char.le_def.1 h) (by decide)

/-- a digit is one byte -/
theorem toDigit_ascii {radix digit : ℕ} {c : Char} (h : toDigit radix c = some digit) : c.utf8Size = 1 := by
  unfold toDigit at h
  split_ifs at h with h9 _ hz _ hZ
  · exact utf8Size_of_le_z (Char.le_trans h9.2 (by decide))
  · exact utf8Size_of_le_z hz.2
  · exact utf8Size_of_le_z (Char.le_trans hZ.2 (by decide))

/-- the digits of a radix are digits of every larger one -/
theorem toDigit_mono {radix wide digit : ℕ} {c : Char} (hle : radix ≤ wide) (h : toDigit radix c = some digit) :
    toDigit wide c = some digit := by
  unfold toDigit at h ⊢
  split_ifs at h ⊢ <;> first | exact h | omega

theorem toDigit_digitChar {radix digit : ℕ} (hradix : radix ≤ 16) (hdigit : digit < radix) :
    toDigit radix digit.digitChar = some digit := by
  have htable : ∀ d < 16, toDigit (d + 1) (Nat.digitChar d) = some d := by decide
  exact toDigit_mono hdigit (htable digit (by omega))

/-- a printed number has nothing in it but digits -/
theorem toDigits_digits {radix n : ℕ} (hone : 1 < radix) (hradix : radix ≤ 16) :
    ∀ c ∈ Nat.toDigits radix n, (toDigit radix c).isSome := by
  induction n using Nat.strongRecOn with
  | ind n ih =>
    intro c hc
    rw [Nat.toDigits_eq_if hone] at hc
    split_ifs at hc with hlt
    · rw [List.mem_singleton.1 hc, toDigit_digitChar hradix hlt]
      rfl
    · rcases List.mem_append.1 hc with hc | hc
      · exact ih _ (Nat.div_lt_self (by omega) hone) c hc
      · rw [List.mem_singleton.1 hc, toDigit_digitChar hradix (Nat.mod_lt _ (by omega))]
        rfl

/-- a character that is no digit is not printed -/
theorem notMem_toDigits {radix n : ℕ} {c : Char} (hone : 1 < radix) (hradix : radix ≤ 16)
    (hc : toDigit radix c = none) : c ∉ Nat.toDigits radix n := by
  intro hmem
  have hdigit := toDigits_digits hone hradix c hmem
  rw [hc] at hdigit
  cases hdigit

/-- no number but zero starts with a zero -/
theorem toDigits_head {radix n : ℕ} (hone : 1 < radix) (hradix : radix ≤ 16) (hn : n ≠ 0) :
    (Nat.toDigits radix n).head? ≠ some '0' := by
  have htable : ∀ d < 16, d ≠ 0 → Nat.digitChar d ≠ '0' := by decide
  induction n using Nat.strongRecOn with
  | ind n ih =>
    rw [Nat.toDigits_eq_if hone]
    split_ifs with hlt
    · exact fun h => htable n (by omega) hn (Option.some.inj h)
    · rw [List.head?_append_of_ne_nil _ Nat.toDigits_ne_nil]
      exact ih _ (Nat.div_lt_self (by omega) hone) (Nat.div_pos (by omega) (by omega)).ne'

theorem decimal_isDigit {n : ℕ} {c : Char} (hc : c ∈ Nat.toDigits 10 n) : 48 ≤ c.toNat ∧ c.toNat ≤ 57 := by
  have hdigit := Nat.isDigit_of_mem_toDigits (by decide) (by decide) hc
  simpa [Char.isDigit, UInt32.le_iff_toNat_le] using hdigit

theorem solid_decimal {n : ℕ} : ∀ c ∈ Nat.toDigits 10 n, isWhitespace c = false := by
  intro c hc
  have hlow := decimal_isDigit hc
  simp [isWhitespace]
  omega

theorem toLower_decimal (n : ℕ) : (Nat.toDigits 10 n).map Char.toLower = Nat.toDigits 10 n := by
  conv_rhs => rw [← List.map_id (Nat.toDigits 10 n)]
  apply List.map_congr_left
  intro c hc
  have hlow := decimal_isDigit hc
  have hupper : ¬(c.val ≥ 'A'.val ∧ c.val ≤ 'Z'.val) := by
    intro h
    have hle := UInt32.le_iff_toNat_le.1 h.1
    change 65 ≤ c.toNat at hle
    omega
  unfold Char.toLower
  exact dif_neg hupper

/-! ## Reading back what was printed -/

variable {radix : ℕ} {stop : ℕ → ℕ → Bool}

theorem scanDigits_ends {value count : ℕ} {text : List Char} (hend : ∀ c ∈ text.head?, toDigit radix c = none) :
    scanDigits radix stop value count text = some ((value, count), text) := by
  cases text with
  | nil => rfl
  | cons c text => rw [scanDigits, hend c rfl]

theorem scanDigits_digit {value count digit : ℕ} {c : Char} (text : List Char) (hdigit : toDigit radix c = some digit)
    (hstop : stop (value * radix + digit) (count + 1) = false) :
    scanDigits radix stop value count (c :: text) =
      scanDigits radix stop (value * radix + digit) (count + 1) text := by
  rw [scanDigits, hdigit]
  dsimp only
  rw [hstop]
  rfl

/-- **The scan undoes printing.** Induction on the number: its last digit is read behind the others. -/
theorem scanDigits_toDigits {n : ℕ} (hone : 1 < radix) (hradix : radix ≤ 16) (text : List Char)
    (hstop : ∀ m ≤ n, ∀ k ≤ (Nat.toDigits radix n).length, stop m k = false) :
    scanDigits radix stop 0 0 (Nat.toDigits radix n ++ text) =
      scanDigits radix stop n (Nat.toDigits radix n).length text := by
  induction n using Nat.strongRecOn generalizing text with
  | ind n ih =>
    rcases Nat.lt_or_ge n radix with hlt | hge
    · rw [Nat.toDigits_of_lt_base hlt] at hstop ⊢
      have hvalue : 0 * radix + n = n := by rw [Nat.zero_mul, Nat.zero_add]
      rw [List.singleton_append, scanDigits_digit text (toDigit_digitChar hradix hlt)
        (by rw [hvalue]; exact hstop n le_rfl 1 le_rfl), hvalue]
      rfl
    · have hdiv : n / radix < n := Nat.div_lt_self (by omega) hone
      have hvalue : n / radix * radix + n % radix = n := Nat.div_add_mod' n radix
      rw [Nat.toDigits_of_base_le hone hge] at hstop ⊢
      rw [List.length_append, List.length_singleton] at hstop ⊢
      rw [List.append_assoc, ih _ hdiv _ fun m hm k hk => hstop m (by omega) k (by omega), List.singleton_append,
        scanDigits_digit text (toDigit_digitChar hradix (Nat.mod_lt n (by omega)))
          (by rw [hvalue]; exact hstop n le_rfl _ le_rfl), hvalue]

theorem fromDigits_append {limit : ℕ} (digits text : List Char) (value : ℕ) :
    fromDigits limit radix value (digits ++ text) =
      (fromDigits limit radix value digits).bind fun value => fromDigits limit radix value text := by
  induction digits generalizing value with
  | nil => rfl
  | cons c digits ih =>
    rw [List.cons_append, fromDigits, fromDigits]
    cases toDigit radix c with
    | none => rfl
    | some digit =>
      dsimp only
      split_ifs with hlt
      · exact ih _
      · rfl

theorem fromDigits_toDigits {limit n : ℕ} (hone : 1 < radix) (hradix : radix ≤ 16) (hn : n < limit) :
    fromDigits limit radix 0 (Nat.toDigits radix n) = .ok n := by
  induction n using Nat.strongRecOn with
  | ind n ih =>
    rcases Nat.lt_or_ge n radix with hlt | hge
    · rw [Nat.toDigits_of_lt_base hlt, fromDigits, toDigit_digitChar hradix hlt]
      dsimp only
      rw [Nat.zero_mul, Nat.zero_add, if_pos hn]
      rfl
    · have hdiv : n / radix < n := Nat.div_lt_self (by omega) hone
      have hvalue : n / radix * radix + n % radix = n := Nat.div_add_mod' n radix
      rw [Nat.toDigits_of_base_le hone hge, fromDigits_append, ih _ hdiv (by omega)]
      show fromDigits limit radix (n / radix) [(n % radix).digitChar] = .ok n
      rw [fromDigits, toDigit_digitChar hradix (Nat.mod_lt n (by omega))]
      dsimp only
      rw [hvalue, if_pos hn]
      rfl

theorem toDigits_injective {n m : ℕ} (hone : 1 < radix) (hradix : radix ≤ 16)
    (h : Nat.toDigits radix n = Nat.toDigits radix m) : n = m := by
  have hn : fromDigits (n + m + 1) radix 0 (Nat.toDigits radix n) = .ok n :=
    fromDigits_toDigits hone hradix (by omega)
  have hm : fromDigits (n + m + 1) radix 0 (Nat.toDigits radix m) = .ok m :=
    fromDigits_toDigits hone hradix (by omega)
  rw [h, hm] at hn
  exact (Except.ok.inj hn).symm

/-- a letter is the digit that its lower case is -/
theorem toDigit_toLower (c : Char) : toDigit 16 c.toLower = toDigit 16 c := by
  have htable : ∀ n < 128, toDigit 16 (Char.ofNat n).toLower = toDigit 16 (Char.ofNat n) := by decide
  by_cases hascii : c.toNat < 128
  · have hc := htable c.toNat hascii
    rwa [Char.ofNat_toNat] at hc
  · have hlower : c.toLower = c := by
      unfold Char.toLower
      refine dif_neg ?_
      rintro ⟨-, hle⟩
      have hle' : c.toNat ≤ 90 := hle
      omega
    rw [hlower]

theorem fromDigits_toLower (limit value : ℕ) (digits : List Char) :
    fromDigits limit 16 value (digits.map Char.toLower) = fromDigits limit 16 value digits := by
  induction digits generalizing value with
  | nil => rfl
  | cons c digits ih =>
    rw [List.map_cons, fromDigits, fromDigits, toDigit_toLower]
    cases toDigit 16 c with
    | none => rfl
    | some digit =>
      dsimp only
      rw [ih]

theorem fromDigits_zeros {limit : ℕ} (hlimit : 0 < limit) (zeros : ℕ) (digits : List Char) :
    fromDigits limit 16 0 (List.replicate zeros '0' ++ digits) = fromDigits limit 16 0 digits := by
  induction zeros with
  | zero => rfl
  | succ zeros ih =>
    rw [List.replicate_succ, List.cons_append, fromDigits]
    exact (if_pos hlimit).trans ih

/-- a text that does not start with a sign is digits -/
theorem fromStrRadix_unsigned {limit : ℕ} {c : Char} {text : List Char} (hplus : c ≠ '+') (hminus : c ≠ '-') :
    fromStrRadix limit (c :: text) radix = fromDigits limit radix 0 (c :: text) := by
  unfold fromStrRadix
  split <;> simp_all

/-- **Parsing undoes printing.** -/
theorem fromStrRadix_toDigits {limit n : ℕ} (hone : 1 < radix) (hradix : radix ≤ 16) (hn : n < limit) :
    fromStrRadix limit (Nat.toDigits radix n) radix = .ok n := by
  have hdigits : ∀ c ∈ Nat.toDigits radix n, (toDigit radix c).isSome := toDigits_digits hone hradix
  cases htext : Nat.toDigits radix n with
  | nil => exact absurd htext Nat.toDigits_ne_nil
  | cons c text =>
    have hplus : toDigit radix '+' = none := by simp [toDigit]
    have hminus : toDigit radix '-' = none := by simp [toDigit]
    have hc : (toDigit radix c).isSome := hdigits c (htext ▸ List.mem_cons_self)
    rw [fromStrRadix_unsigned, ← htext, fromDigits_toDigits hone hradix hn]
    · rintro rfl
      rw [hplus] at hc
      cases hc
    · rintro rfl
      rw [hminus] at hc
      cases hc

end WfbLink.Core
