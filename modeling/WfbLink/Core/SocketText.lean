/-
Internet socket addresses and their text, as the standard library prints and parses it.

An address of version 6 is printed with its longest run of zeros left out and, where it stands for one of version 4,
with the latter at its end. The parser tries both at every group.

- `readIpv4Addr_text`, `readIpv6Addr_text`: an address is read back, wherever its text goes on.
- `parseSocketAddr_text`: parsing undoes printing.
-/
import WfbLink.Core.Numeral

namespace WfbLink.Core.Net

/-! ## Addresses -/

structure Ipv4Addr where
  first : UInt8
  second : UInt8
  third : UInt8
  fourth : UInt8
deriving DecidableEq, Repr

structure Ipv6Addr where
  segments : List UInt16
  length_segments : segments.length = 8
deriving DecidableEq, Repr

structure SocketAddrV4 where
  ip : Ipv4Addr
  port : UInt16
deriving DecidableEq, Repr

/-- without the flow information, which is no part of the text -/
structure SocketAddrV6 where
  ip : Ipv6Addr
  port : UInt16
  scopeId : UInt32
deriving DecidableEq, Repr

inductive SocketAddr where
  | v4 (addr : SocketAddrV4)
  | v6 (addr : SocketAddrV6)
deriving DecidableEq, Repr

def beU16 (high low : UInt8) : UInt16 := UInt16.ofNat (high.toNat * 256 + low.toNat)

def highByte (segment : UInt16) : UInt8 := UInt8.ofNat (segment.toNat / 256)

def lowByte (segment : UInt16) : UInt8 := UInt8.ofNat (segment.toNat % 256)

/-- `::ffff:a.b.c.d` -/
def Ipv6Addr.toIpv4Mapped (addr : Ipv6Addr) : Option Ipv4Addr :=
  if addr.segments.take 6 = [0, 0, 0, 0, 0, 0xffff] then
    match addr.segments.drop 6 with
    | [ab, cd] => some ⟨highByte ab, lowByte ab, highByte cd, lowByte cd⟩
    | _ => none
  else none

/-! ## Printing -/

def decimal (n : ℕ) : List Char := Nat.toDigits 10 n

def hex (n : ℕ) : List Char := Nat.toDigits 16 n

def Ipv4Addr.text (addr : Ipv4Addr) : List Char :=
  decimal addr.first.toNat ++ '.' :: (decimal addr.second.toNat ++ '.' :: (decimal addr.third.toNat ++
    '.' :: decimal addr.fourth.toNat))

structure Span where
  start : ℕ := 0
  len : ℕ := 0
deriving DecidableEq, Repr

/-- the longest run of zeros so far and the run that ends here -/
def zeroStep (spans : Span × Span) (entry : UInt16 × ℕ) : Span × Span :=
  if entry.1 = 0 then
    let current : Span := {
      start := if spans.2.len = 0 then entry.2 else spans.2.start
      len := spans.2.len + 1 }
    (if spans.1.len < current.len then current else spans.1, current)
  else (spans.1, {})

def longestZeros (segments : List UInt16) : Span := (segments.zipIdx.foldl zeroStep ({}, {})).1

/-- every segment behind a colon -/
def colonSegments (segments : List UInt16) : List Char := segments.flatMap fun segment => ':' :: hex segment.toNat

def fmtSubslice : List UInt16 → List Char
  | [] => []
  | first :: tail => hex first.toNat ++ colonSegments tail

def Ipv6Addr.text (addr : Ipv6Addr) : List Char :=
  match addr.toIpv4Mapped with
  | some ipv4 => [':', ':', 'f', 'f', 'f', 'f', ':'] ++ ipv4.text
  | none =>
    let zeroes := longestZeros addr.segments
    if 1 < zeroes.len then
      fmtSubslice (addr.segments.take zeroes.start) ++
        ':' :: ':' :: fmtSubslice (addr.segments.drop (zeroes.start + zeroes.len))
    else fmtSubslice addr.segments

def SocketAddrV4.text (addr : SocketAddrV4) : List Char := addr.ip.text ++ ':' :: decimal addr.port.toNat

/-- the part of the text behind the address -/
def SocketAddrV6.suffix (addr : SocketAddrV6) : List Char :=
  (if addr.scopeId = 0 then [] else '%' :: decimal addr.scopeId.toNat) ++ ']' :: ':' :: decimal addr.port.toNat

def SocketAddrV6.text (addr : SocketAddrV6) : List Char := '[' :: (addr.ip.text ++ addr.suffix)

def SocketAddr.text : SocketAddr → List Char
  | .v4 addr => addr.text
  | .v6 addr => addr.text

/-! ## Parsing -/

def readGivenChar (given : Char) : List Char → Option (List Char)
  | [] => none
  | c :: text => if c = given then some text else none

def readSeparator {α : Type} (separator : Char) (index : ℕ) (inner : List Char → Option (α × List Char))
    (text : List Char) : Option (α × List Char) :=
  if 0 < index then (readGivenChar separator text).bind inner else inner text

/-- a number of a type of `limit` values, of at most so many digits -/
def readNumber (radix : ℕ) (maxDigits : Option ℕ) (allowZeroPrefix : Bool) (limit : ℕ) (text : List Char) :
    Option (ℕ × List Char) :=
  let stop := fun value count =>
    match maxDigits with
    | some max => decide (max < count)
    | none => decide (limit ≤ value)
  match scanDigits radix stop 0 0 text with
  | none => none
  | some ((value, count), rest) =>
    if count = 0 then none
    else if allowZeroPrefix = false ∧ text.head? = some '0' ∧ 1 < count then none
    else if value < limit then some (value, rest)
    else none

def readIpv4Addr (text : List Char) : Option (Ipv4Addr × List Char) := do
  let octet := readNumber 10 (some 3) false (2 ^ 8)
  let (first, text) ← readSeparator '.' 0 octet text
  let (second, text) ← readSeparator '.' 1 octet text
  let (third, text) ← readSeparator '.' 2 octet text
  let (fourth, text) ← readSeparator '.' 3 octet text
  return (⟨UInt8.ofNat first, UInt8.ofNat second, UInt8.ofNat third, UInt8.ofNat fourth⟩, text)

/-- the groups read, whether an address of version 4 ended them, and what is left; `left` is how many may follow -/
def readGroups : ℕ → ℕ → List Char → (List UInt16 × Bool) × List Char
  | 0, _, text => (([], false), text)
  | left + 1, index, text =>
    match if 0 < left then readSeparator ':' index readIpv4Addr text else none with
    | some (v4, text) => (([beU16 v4.first v4.second, beU16 v4.third v4.fourth], true), text)
    | none =>
      match readSeparator ':' index (readNumber 16 (some 4) true (2 ^ 16)) text with
      | some (group, text) =>
        let rest := readGroups left (index + 1) text
        ((UInt16.ofNat group :: rest.1.1, rest.1.2), rest.2)
      | none => (([], false), text)

theorem readGroups_length (left index : ℕ) (text : List Char) : (readGroups left index text).1.1.length ≤ left := by
  induction left generalizing index text with
  | zero => exact le_rfl
  | succ left ih =>
    rw [readGroups]
    split
    · next hsome =>
      split_ifs at hsome with hleft
      simp only [List.length_cons, List.length_nil]
      omega
    · split
      · exact Nat.succ_le_succ (ih _ _)
      · exact Nat.zero_le _

/-- the groups in front of the zeros that were left out, and those behind -/
def Ipv6Addr.ofParts (head tail : List UInt16) (h : head.length + tail.length ≤ 8) : Ipv6Addr where
  segments := head ++ (List.replicate (8 - head.length - tail.length) 0 ++ tail)
  length_segments := by
    simp only [List.length_append, List.length_replicate]
    omega

def readIpv6Addr (text : List Char) : Option (Ipv6Addr × List Char) :=
  let head := readGroups 8 0 text
  if hfull : head.1.1.length = 8 then some (⟨head.1.1, hfull⟩, head.2)
  else if head.1.2 then none
  else
    match (readGivenChar ':' head.2).bind (readGivenChar ':') with
    | none => none
    | some behind =>
      let tail := readGroups (8 - (head.1.1.length + 1)) 0 behind
      have htail : tail.1.1.length ≤ 8 - (head.1.1.length + 1) := readGroups_length _ 0 behind
      have hhead : head.1.1.length ≤ 8 := readGroups_length 8 0 text
      some (.ofParts head.1.1 tail.1.1 (by omega), tail.2)

def readPort (text : List Char) : Option (ℕ × List Char) :=
  (readGivenChar ':' text).bind (readNumber 10 none true (2 ^ 16))

def readScopeId (text : List Char) : Option (ℕ × List Char) :=
  (readGivenChar '%' text).bind (readNumber 10 none true (2 ^ 32))

def readSocketAddrV4 (text : List Char) : Option (SocketAddrV4 × List Char) := do
  let (ip, text) ← readIpv4Addr text
  let (port, text) ← readPort text
  return (⟨ip, UInt16.ofNat port⟩, text)

def readSocketAddrV6 (text : List Char) : Option (SocketAddrV6 × List Char) := do
  let text ← readGivenChar '[' text
  let (ip, text) ← readIpv6Addr text
  let (scopeId, text) := (readScopeId text).getD (0, text)
  let text ← readGivenChar ']' text
  let (port, text) ← readPort text
  return (⟨ip, UInt16.ofNat port, UInt32.ofNat scopeId⟩, text)

def readSocketAddr (text : List Char) : Option (SocketAddr × List Char) :=
  match readSocketAddrV4 text with
  | some (addr, text) => some (.v4 addr, text)
  | none => (readSocketAddrV6 text).map fun result => (.v6 result.1, result.2)

/-- `SocketAddr::from_str` takes whole texts only -/
def parseSocketAddr (text : List Char) : Except String SocketAddr :=
  match readSocketAddr text with
  | some (addr, []) => .ok addr
  | _ => .error "invalid socket address syntax"

/-! ## The zeros left out -/

/-- a span of zeros -/
def Zeros (segments : List UInt16) (span : Span) : Prop :=
  (segments.drop span.start).take span.len = List.replicate span.len 0

theorem zeros_empty (segments : List UInt16) : Zeros segments {} := rfl

theorem Zeros.append {segments : List UInt16} {span : Span} (h : Zeros segments span) (segment : UInt16) :
    Zeros (segments ++ [segment]) span := by
  unfold Zeros at h ⊢
  rcases Nat.eq_zero_or_pos span.len with hlen | hlen
  · rw [hlen]
    rfl
  · have hsize := congrArg List.length h
    rw [List.length_take, List.length_drop, List.length_replicate] at hsize
    rw [List.drop_append_of_le_length (by omega), List.take_append_of_le_length (by rw [List.length_drop]; omega), h]

/-- a run that ends here goes on with a zero -/
theorem Zeros.extend {segments : List UInt16} {span : Span} (h : Zeros segments span)
    (hends : span.start + span.len = segments.length) :
    Zeros (segments ++ [0]) { start := span.start, len := span.len + 1 } := by
  unfold Zeros at h ⊢
  have hall : segments.drop span.start = List.replicate span.len 0 := by
    rw [← h, List.take_of_length_le (by rw [List.length_drop]; omega)]
  dsimp only
  rw [List.drop_append_of_le_length (by omega), hall, List.take_of_length_le (by simp), List.replicate_succ']

/-- the spans of the fold: both are zeros, and the current one ends where the fold is -/
structure SpansOf (segments : List UInt16) (spans : Span × Span) : Prop where
  longest : Zeros segments spans.1
  current : Zeros segments spans.2
  ends : spans.2.len ≠ 0 → spans.2.start + spans.2.len = segments.length

theorem SpansOf.step {segments : List UInt16} {spans : Span × Span} (h : SpansOf segments spans) (segment : UInt16) :
    SpansOf (segments ++ [segment]) (zeroStep spans (segment, segments.length)) := by
  by_cases hzero : segment = 0
  · subst hzero
    have hcurrent : Zeros (segments ++ [0]) {
        start := if spans.2.len = 0 then segments.length else spans.2.start
        len := spans.2.len + 1 } := by
      by_cases hlen : spans.2.len = 0
      · rw [if_pos hlen, hlen]
        have hnothing : Zeros segments { start := segments.length, len := 0 } := rfl
        exact hnothing.extend rfl
      · rw [if_neg hlen]
        exact h.current.extend (h.ends hlen)
    rw [zeroStep, if_pos rfl]
    refine ⟨?_, hcurrent, fun _ => ?_⟩
    · dsimp only
      by_cases hlonger : spans.1.len < spans.2.len + 1
      · rw [if_pos hlonger]
        exact hcurrent
      · rw [if_neg hlonger]
        exact h.longest.append 0
    · have hends := h.ends
      dsimp only
      rw [List.length_append, List.length_singleton]
      split_ifs with hlen <;> omega
  · rw [zeroStep, if_neg hzero]
    exact ⟨h.longest.append segment, zeros_empty _, fun hlen => absurd rfl hlen⟩

theorem longestZeros_zeros (segments : List UInt16) : Zeros segments (longestZeros segments) := by
  suffices hspans : SpansOf segments (segments.zipIdx.foldl zeroStep ({}, {})) from hspans.longest
  induction segments using List.reverseRecOn with
  | nil => exact ⟨zeros_empty _, zeros_empty _, fun hlen => absurd rfl hlen⟩
  | append_singleton segments segment ih =>
    rw [List.zipIdx_append, List.foldl_append, Nat.zero_add]
    exact ih.step segment

/-- what is left out is put back -/
theorem Zeros.restored {segments : List UInt16} {span : Span} (h : Zeros segments span) :
    segments.take span.start ++ (List.replicate span.len 0 ++ segments.drop (span.start + span.len)) = segments := by
  rw [← h, ← List.drop_drop, List.take_append_drop, List.take_append_drop]

/-! ## Reading back what was printed -/

theorem beU16_bytes (segment : UInt16) : beU16 (highByte segment) (lowByte segment) = segment := by
  have hlt := segment.toNat_lt
  rw [beU16, highByte, lowByte, UInt8.toNat_ofNat', UInt8.toNat_ofNat', Nat.mod_eq_of_lt (by omega),
    Nat.mod_eq_of_lt (by omega : segment.toNat % 256 < 2 ^ 8), Nat.div_add_mod', UInt16.ofNat_toNat]

/-- a text that no digit starts -/
def NoDigit (radix : ℕ) (text : List Char) : Prop := ∀ c ∈ text.head?, toDigit radix c = none

theorem noDigit_cons {radix : ℕ} {c : Char} {text : List Char} (h : toDigit radix c = none) :
    NoDigit radix (c :: text) := by
  intro d hd
  rw [← Option.some.inj hd]
  exact h

theorem readNumber_toDigits {radix limit n : ℕ} {maxDigits : Option ℕ} {text : List Char} (allowZeroPrefix : Bool)
    (hone : 1 < radix) (hradix : radix ≤ 16) (hn : n < limit) (hmax : ∀ max ∈ maxDigits, n < radix ^ max ∧ 0 < max)
    (hend : NoDigit radix text) :
    readNumber radix maxDigits allowZeroPrefix limit (Nat.toDigits radix n ++ text) = some (n, text) := by
  have hpos : 0 < (Nat.toDigits radix n).length := Nat.length_toDigits_pos
  have hzero : ¬ (allowZeroPrefix = false ∧ (Nat.toDigits radix n ++ text).head? = some '0' ∧
      1 < (Nat.toDigits radix n).length) := by
    intro ⟨_, hhead, hlong⟩
    rw [List.head?_append_of_ne_nil _ Nat.toDigits_ne_nil] at hhead
    have hn0 : n = 0 := by
      by_contra hne
      exact toDigits_head hone hradix hne hhead
    rw [hn0, Nat.toDigits_zero] at hlong
    exact absurd hlong (by decide)
  rw [readNumber, scanDigits_toDigits hone hradix, scanDigits_ends hend]
  · dsimp only
    rw [if_neg (by omega), if_neg hzero, if_pos hn]
  · intro m hm k hk
    cases maxDigits with
    | none => simpa using lt_of_le_of_lt hm hn
    | some max =>
      obtain ⟨hlt, hmax⟩ := hmax max rfl
      have hlength := (Nat.length_toDigits_le_iff hone hmax).2 hlt
      simpa using hk.trans hlength

theorem readNumber_noDigit {radix limit : ℕ} {maxDigits : Option ℕ} {text : List Char} (allowZeroPrefix : Bool)
    (h : NoDigit radix text) : readNumber radix maxDigits allowZeroPrefix limit text = none := by
  rw [readNumber, scanDigits_ends h]
  rfl

@[simp] theorem readGivenChar_self (c : Char) (text : List Char) : readGivenChar c (c :: text) = some text := if_pos rfl

theorem readGivenChar_notMem {c : Char} {text : List Char} (h : c ∉ text) : readGivenChar c text = none := by
  cases text with
  | nil => rfl
  | cons d text =>
    refine if_neg ?_
    rintro rfl
    exact h List.mem_cons_self

theorem readSeparator_front {α : Type} (separator : Char) (inner : List Char → Option (α × List Char))
    (text : List Char) : readSeparator separator 0 inner text = inner text := rfl

theorem readSeparator_next {α : Type} {separator : Char} {index : ℕ} (inner : List Char → Option (α × List Char))
    (hindex : 0 < index) (text : List Char) : readSeparator separator index inner (separator :: text) = inner text := by
  rw [readSeparator, if_pos hindex, readGivenChar_self]
  rfl

/-! ## Addresses of version 4 -/

theorem octet_read (octet : UInt8) {text : List Char} (h : NoDigit 10 text) :
    readNumber 10 (some 3) false (2 ^ 8) (decimal octet.toNat ++ text) = some (octet.toNat, text) := by
  have hlt := octet.toNat_lt
  refine readNumber_toDigits false (by omega) (by omega) hlt ?_ h
  intro max hmax
  rw [← Option.some.inj hmax]
  exact ⟨by omega, by omega⟩

theorem readIpv4Addr_text (addr : Ipv4Addr) {text : List Char} (h : NoDigit 10 text) :
    readIpv4Addr (addr.text ++ text) = some (addr, text) := by
  have hdot : ∀ text, NoDigit 10 ('.' :: text) := fun _ => noDigit_cons (by decide)
  simp only [readIpv4Addr, Ipv4Addr.text, List.append_assoc, List.cons_append]
  rw [readSeparator_front, octet_read _ (hdot _), Option.bind_eq_bind, Option.bind_some,
    readSeparator_next _ (by decide), octet_read _ (hdot _), Option.bind_some,
    readSeparator_next _ (by decide), octet_read _ (hdot _), Option.bind_some,
    readSeparator_next _ (by decide), octet_read _ h, Option.bind_some]
  simp only [UInt8.ofNat_toNat]
  rfl

theorem readIpv4Addr_noDigit {text : List Char} (h : NoDigit 10 text) : readIpv4Addr text = none := by
  rw [readIpv4Addr, readSeparator_front, readNumber_noDigit false h]
  rfl

/-- what is behind the digits is the end of the text -/
theorem scanDigits_rest {radix : ℕ} {stop : ℕ → ℕ → Bool} {value count : ℕ} {text rest : List Char} {result : ℕ × ℕ}
    (h : scanDigits radix stop value count text = some (result, rest)) : rest <:+ text := by
  induction text generalizing value count with
  | nil =>
    cases h
    exact List.suffix_rfl
  | cons c text ih =>
    rw [scanDigits] at h
    split at h
    · cases h
      exact List.suffix_rfl
    · split_ifs at h
      exact (ih h).trans (List.suffix_cons c text)

theorem readNumber_rest {radix limit n : ℕ} {maxDigits : Option ℕ} {allowZeroPrefix : Bool} {text rest : List Char}
    (h : readNumber radix maxDigits allowZeroPrefix limit text = some (n, rest)) : rest <:+ text := by
  rw [readNumber] at h
  split at h
  · cases h
  · next hscan =>
    split_ifs at h
    cases h
    exact scanDigits_rest hscan

/-- an address of version 4 has dots in it -/
theorem readIpv4Addr_noDot {text : List Char} (h : '.' ∉ text) : readIpv4Addr text = none := by
  rw [readIpv4Addr, readSeparator_front]
  cases hfirst : readNumber 10 (some 3) false (2 ^ 8) text with
  | none => rfl
  | some result =>
    have hdot : '.' ∉ result.2 := fun hmem => h ((readNumber_rest hfirst).subset hmem)
    rw [Option.bind_eq_bind, Option.bind_some]
    dsimp only
    rw [readSeparator, if_pos (by decide), readGivenChar_notMem hdot]
    rfl

/-! ## Addresses of version 6 -/

theorem group_read (segment : UInt16) {text : List Char} (h : NoDigit 16 text) :
    readNumber 16 (some 4) true (2 ^ 16) (hex segment.toNat ++ text) = some (segment.toNat, text) := by
  have hlt := segment.toNat_lt
  refine readNumber_toDigits true (by omega) (by omega) hlt ?_ h
  intro max hmax
  rw [← Option.some.inj hmax]
  exact ⟨by omega, by omega⟩

/-- a text that no group starts, with a colon in front or without, and that has no dot in it -/
structure EndsGroups (text : List Char) : Prop where
  front : NoDigit 16 text
  next : ∀ tail, text = ':' :: tail → NoDigit 16 tail
  noDot : '.' ∉ text

theorem noDot_hex (n : ℕ) : '.' ∉ hex n := notMem_toDigits (by omega) (by omega) (by decide)

theorem noDot_decimal (n : ℕ) : '.' ∉ decimal n := notMem_toDigits (by omega) (by omega) (by decide)

theorem noDot_colonSegments (segments : List UInt16) : '.' ∉ colonSegments segments := by
  intro hmem
  obtain ⟨segment, _, hmem⟩ := List.mem_flatMap.1 hmem
  rcases List.mem_cons.1 hmem with hmem | hmem
  · exact absurd hmem (by decide)
  · exact noDot_hex _ hmem

theorem noDot_fmtSubslice (segments : List UInt16) : '.' ∉ fmtSubslice segments := by
  cases segments with
  | nil => exact List.not_mem_nil
  | cons first tail =>
    intro hmem
    rcases List.mem_append.1 hmem with hmem | hmem
    · exact noDot_hex _ hmem
    · exact noDot_colonSegments _ hmem

theorem noDot_append {text rest : List Char} (h : '.' ∉ text) (hrest : '.' ∉ rest) : '.' ∉ text ++ rest :=
  fun hmem => (List.mem_append.1 hmem).elim h hrest

/-- no address of version 4 without a dot, whatever separates it -/
theorem readSeparator_noDot {text : List Char} (index : ℕ) (h : '.' ∉ text) :
    readSeparator ':' index readIpv4Addr text = none := by
  rw [readSeparator]
  split_ifs
  · cases text with
    | nil => rfl
    | cons c text =>
      rw [readGivenChar]
      split_ifs
      · exact readIpv4Addr_noDot fun hmem => h (List.mem_cons_of_mem c hmem)
      · rfl
  · exact readIpv4Addr_noDot h

theorem readSeparator_ends {text : List Char} (index : ℕ) (h : EndsGroups text) :
    readSeparator ':' index (readNumber 16 (some 4) true (2 ^ 16)) text = none := by
  rw [readSeparator]
  split_ifs
  · cases text with
    | nil => rfl
    | cons c text =>
      rw [readGivenChar]
      split_ifs with hcolon
      · rw [Option.bind_some]
        exact readNumber_noDigit true (h.next text (by rw [hcolon]))
      · rfl
  · exact readNumber_noDigit true h.front

/-- without a dot, a group is a number -/
theorem readGroups_noDot {text : List Char} (left index : ℕ) (h : '.' ∉ text) :
    readGroups (left + 1) index text =
      match readSeparator ':' index (readNumber 16 (some 4) true (2 ^ 16)) text with
      | some (group, text) =>
        ((UInt16.ofNat group :: (readGroups left (index + 1) text).1.1, (readGroups left (index + 1) text).1.2),
          (readGroups left (index + 1) text).2)
      | none => (([], false), text) := by
  rw [readGroups, readSeparator_noDot index h, ite_self]

theorem readGroups_ends {text : List Char} (left index : ℕ) (h : EndsGroups text) :
    readGroups left index text = (([], false), text) := by
  cases left with
  | zero => rfl
  | succ left => rw [readGroups_noDot left index h.noDot, readSeparator_ends index h]

/-- the colon in front of a group ends the one before it -/
theorem noDigit_colonSegments {segments : List UInt16} {rest : List Char} (h : NoDigit 16 rest) :
    NoDigit 16 (colonSegments segments ++ rest) := by
  cases segments with
  | nil => exact h
  | cons segment segments => exact noDigit_cons (by decide)

theorem readGroups_colonSegments {segments : List UInt16} {left index : ℕ} {rest : List Char} (hindex : 0 < index)
    (hleft : segments.length ≤ left) (h : EndsGroups rest) :
    readGroups left index (colonSegments segments ++ rest) = ((segments, false), rest) := by
  induction segments generalizing left index with
  | nil => exact readGroups_ends left index h
  | cons segment segments ih =>
    obtain ⟨left, rfl⟩ : ∃ m, left = m + 1 := ⟨left - 1, by rw [List.length_cons] at hleft; omega⟩
    have htext : colonSegments (segment :: segments) ++ rest =
        ':' :: (hex segment.toNat ++ (colonSegments segments ++ rest)) := by
      simp [colonSegments]
    have hdot : '.' ∉ colonSegments (segment :: segments) ++ rest :=
      noDot_append (noDot_colonSegments _) h.noDot
    rw [readGroups_noDot left index hdot, htext, readSeparator_next _ hindex,
      group_read _ (noDigit_colonSegments h.front)]
    dsimp only
    rw [ih (Nat.succ_pos index) (Nat.le_of_succ_le_succ hleft), UInt16.ofNat_toNat]

/-- **The groups of a part are read back**, wherever the text goes on. -/
theorem readGroups_fmtSubslice {segments : List UInt16} {left : ℕ} {rest : List Char}
    (hleft : segments.length ≤ left) (h : EndsGroups rest) :
    readGroups left 0 (fmtSubslice segments ++ rest) = ((segments, false), rest) := by
  cases segments with
  | nil => exact readGroups_ends left 0 h
  | cons first tail =>
    obtain ⟨left, rfl⟩ : ∃ m, left = m + 1 := ⟨left - 1, by rw [List.length_cons] at hleft; omega⟩
    have hdot : '.' ∉ fmtSubslice (first :: tail) ++ rest := noDot_append (noDot_fmtSubslice _) h.noDot
    rw [readGroups_noDot left 0 hdot, readSeparator_front, fmtSubslice, List.append_assoc,
      group_read _ (noDigit_colonSegments h.front)]
    dsimp only
    rw [readGroups_colonSegments (Nat.succ_pos 0) (Nat.le_of_succ_le_succ hleft) h, UInt16.ofNat_toNat]

/-- the mark of the zeros that were left out -/
theorem endsGroups_mark (segments : List UInt16) {rest : List Char} (h : EndsGroups rest) :
    EndsGroups (':' :: ':' :: (fmtSubslice segments ++ rest)) where
  front := noDigit_cons (by decide)
  next := by
    intro tail htail
    obtain rfl := (List.cons.inj htail).2
    exact noDigit_cons (by decide)
  noDot := by
    have hdot := noDot_append (noDot_fmtSubslice segments) h.noDot
    simpa using hdot

theorem Ipv6Addr.ext_segments {addr other : Ipv6Addr} (h : addr.segments = other.segments) : addr = other := by
  cases addr
  cases other
  cases h
  rfl

/-- all groups are there -/
theorem readIpv6Addr_full {addr : Ipv6Addr} {rest : List Char} (h : EndsGroups rest) :
    readIpv6Addr (fmtSubslice addr.segments ++ rest) = some (addr, rest) := by
  have hgroups := readGroups_fmtSubslice addr.length_segments.le h
  unfold readIpv6Addr
  simp only [hgroups, addr.length_segments, dite_true]

/-- groups in front of the mark and behind it -/
theorem readIpv6Addr_parts {addr : Ipv6Addr} {head tail : List UInt16} {mapped : Bool} {text behind rest : List Char}
    (hlen : head.length + tail.length < 8)
    (hsegments : addr.segments = head ++ (List.replicate (8 - head.length - tail.length) 0 ++ tail))
    (hhead : readGroups 8 0 text = ((head, false), ':' :: ':' :: behind))
    (htail : readGroups (8 - (head.length + 1)) 0 behind = ((tail, mapped), rest)) :
    readIpv6Addr text = some (addr, rest) := by
  have hshort : ¬ head.length = 8 := by omega
  unfold readIpv6Addr
  simp only [hhead, htail, hshort, dite_false, readGivenChar_self, Option.bind_some]
  exact congrArg some (Prod.ext (Ipv6Addr.ext_segments hsegments.symm) rfl)

theorem toIpv4Mapped_segments {addr : Ipv6Addr} {ipv4 : Ipv4Addr} (h : addr.toIpv4Mapped = some ipv4) :
    addr.segments = [0, 0, 0, 0, 0] ++
      [0xffff, beU16 ipv4.first ipv4.second, beU16 ipv4.third ipv4.fourth] := by
  rw [Ipv6Addr.toIpv4Mapped] at h
  split_ifs at h with hprefix
  split at h
  · next ab cd hsuffix =>
    cases h
    rw [← List.take_append_drop 6 addr.segments, hprefix, hsuffix, beU16_bytes, beU16_bytes]
    rfl
  · cases h

/-- the groups of an address of version 4 -/
theorem readGroups_ipv4 (ipv4 : Ipv4Addr) {rest : List Char} (h : NoDigit 10 rest) (left index : ℕ)
    (hindex : 0 < index) :
    readGroups (left + 2) index (':' :: (ipv4.text ++ rest)) =
      (([beU16 ipv4.first ipv4.second, beU16 ipv4.third ipv4.fourth], true), rest) := by
  rw [readGroups, if_pos (Nat.succ_pos left), readSeparator_next _ hindex, readIpv4Addr_text ipv4 h]

/-- a group that is a number, in front of any text -/
theorem readGroups_group (segment : UInt16) {text : List Char} (h : NoDigit 16 text)
    (hnumber : NoDigit 10 (hex segment.toNat ++ text)) (left : ℕ) :
    readGroups (left + 1) 0 (hex segment.toNat ++ text) =
      ((segment :: (readGroups left 1 text).1.1, (readGroups left 1 text).1.2), (readGroups left 1 text).2) := by
  rw [readGroups, readSeparator_front, readIpv4Addr_noDigit hnumber, ite_self, readSeparator_front, group_read _ h]
  dsimp only
  rw [UInt16.ofNat_toNat]

theorem readIpv6Addr_mapped {addr : Ipv6Addr} {ipv4 : Ipv4Addr} (hmapped : addr.toIpv4Mapped = some ipv4)
    {rest : List Char} (h : NoDigit 10 rest) :
    readIpv6Addr ([':', ':', 'f', 'f', 'f', 'f', ':'] ++ ipv4.text ++ rest) = some (addr, rest) := by
  have hhead : ∀ text, readGroups 8 0 (':' :: text) = (([], false), ':' :: text) := by
    intro text
    rw [readGroups, readSeparator_front, readIpv4Addr_noDigit (noDigit_cons (by decide)), ite_self,
      readSeparator_front, readNumber_noDigit true (noDigit_cons (by decide))]
  have hffff : ['f', 'f', 'f', 'f'] = hex (0xffff : UInt16).toNat := by decide
  have htail : readGroups 7 0 (['f', 'f', 'f', 'f'] ++ ':' :: (ipv4.text ++ rest)) =
      (([0xffff, beU16 ipv4.first ipv4.second, beU16 ipv4.third ipv4.fourth], true), rest) := by
    rw [hffff, readGroups_group 0xffff (noDigit_cons (by decide)) (by rw [← hffff]; exact noDigit_cons (by decide)),
      readGroups_ipv4 ipv4 h 4 1 (by decide)]
  exact readIpv6Addr_parts (by simp) (toIpv4Mapped_segments hmapped) (hhead _) htail

/-- **An address of version 6 is read back**, wherever the text goes on. -/
theorem readIpv6Addr_text (addr : Ipv6Addr) {rest : List Char} (h : EndsGroups rest) (hdecimal : NoDigit 10 rest) :
    readIpv6Addr (addr.text ++ rest) = some (addr, rest) := by
  rw [Ipv6Addr.text]
  cases hmapped : addr.toIpv4Mapped with
  | some ipv4 => exact readIpv6Addr_mapped hmapped hdecimal
  | none =>
    have hrestored := (longestZeros_zeros addr.segments).restored
    have hlength := congrArg List.length hrestored
    rw [List.length_append, List.length_append, List.length_replicate, addr.length_segments] at hlength
    dsimp only
    split_ifs with hlen
    · rw [List.append_assoc]
      refine readIpv6Addr_parts (by omega) ?_ (readGroups_fmtSubslice (by omega) (endsGroups_mark _ h))
        (readGroups_fmtSubslice (by omega) h)
      rw [show 8 - (addr.segments.take (longestZeros addr.segments).start).length -
        (addr.segments.drop ((longestZeros addr.segments).start + (longestZeros addr.segments).len)).length =
          (longestZeros addr.segments).len by omega]
      exact hrestored.symm
    · exact readIpv6Addr_full h

/-! ## Sockets -/

/-- a number of any length -/
theorem readNumber_decimal {limit n : ℕ} {text : List Char} (hn : n < limit) (h : NoDigit 10 text) :
    readNumber 10 none true limit (decimal n ++ text) = some (n, text) :=
  readNumber_toDigits true (by omega) (by omega) hn (fun _ hmax => nomatch hmax) h

theorem readPort_text (port : UInt16) : readPort (':' :: decimal port.toNat) = some (port.toNat, []) := by
  have hend : NoDigit 10 [] := fun _ hc => nomatch hc
  have hread := readNumber_decimal port.toNat_lt hend
  rw [List.append_nil] at hread
  rw [readPort, readGivenChar_self]
  exact hread

theorem readScopeId_text (scopeId : UInt32) {rest : List Char} (h : NoDigit 10 rest) :
    readScopeId ('%' :: (decimal scopeId.toNat ++ rest)) = some (scopeId.toNat, rest) := by
  rw [readScopeId, readGivenChar_self]
  exact readNumber_decimal scopeId.toNat_lt h

theorem readSocketAddrV4_text (addr : SocketAddrV4) : readSocketAddrV4 addr.text = some (addr, []) := by
  have hcolon : NoDigit 10 (':' :: decimal addr.port.toNat) := noDigit_cons (by decide)
  rw [readSocketAddrV4, SocketAddrV4.text, readIpv4Addr_text addr.ip hcolon, Option.bind_eq_bind, Option.bind_some]
  dsimp only
  rw [readPort_text, Option.bind_eq_bind, Option.bind_some, UInt16.ofNat_toNat]
  rfl

theorem endsGroups_suffix (addr : SocketAddrV6) : EndsGroups addr.suffix ∧ NoDigit 10 addr.suffix := by
  have hport : '.' ∉ ']' :: ':' :: decimal addr.port.toNat := by
    simpa using noDot_decimal addr.port.toNat
  rw [SocketAddrV6.suffix]
  split_ifs with hscope
  · exact ⟨⟨noDigit_cons (by decide), fun tail htail => absurd (List.cons.inj htail).1 (by decide), hport⟩,
      noDigit_cons (by decide)⟩
  · refine ⟨⟨noDigit_cons (by decide), fun tail htail => absurd (List.cons.inj htail).1 (by decide), ?_⟩,
      noDigit_cons (by decide)⟩
    refine noDot_append ?_ hport
    simpa using noDot_decimal addr.scopeId.toNat

/-- the scope, which is printed unless it is zero -/
theorem readScopeId_suffix (addr : SocketAddrV6) :
    (readScopeId addr.suffix).getD (0, addr.suffix) =
      (addr.scopeId.toNat, ']' :: ':' :: decimal addr.port.toNat) := by
  rw [SocketAddrV6.suffix]
  split_ifs with hscope
  · rw [hscope]
    rfl
  · rw [List.cons_append, readScopeId_text addr.scopeId (noDigit_cons (by decide))]
    rfl

theorem readSocketAddrV6_text (addr : SocketAddrV6) : readSocketAddrV6 addr.text = some (addr, []) := by
  obtain ⟨hends, hdecimal⟩ := endsGroups_suffix addr
  rw [readSocketAddrV6, SocketAddrV6.text, readGivenChar_self, Option.bind_eq_bind, Option.bind_some,
    readIpv6Addr_text addr.ip hends hdecimal, Option.bind_eq_bind, Option.bind_some]
  dsimp only
  rw [readScopeId_suffix]
  dsimp only
  rw [readGivenChar_self, Option.bind_some, readPort_text, Option.bind_eq_bind, Option.bind_some, UInt16.ofNat_toNat,
    UInt32.ofNat_toNat]
  rfl

/-- **Parsing undoes printing**, for addresses of both versions. -/
theorem parseSocketAddr_text (addr : SocketAddr) : parseSocketAddr addr.text = .ok addr := by
  cases addr with
  | v4 addr =>
    rw [parseSocketAddr, readSocketAddr, SocketAddr.text, readSocketAddrV4_text]
  | v6 addr =>
    have hbracket : readSocketAddrV4 addr.text = none := by
      rw [readSocketAddrV4, SocketAddrV6.text, readIpv4Addr_noDigit (noDigit_cons (by decide))]
      rfl
    rw [parseSocketAddr, readSocketAddr, SocketAddr.text, hbracket]
    dsimp only
    rw [readSocketAddrV6_text]
    rfl

/-- an address of version 6 with a scope -/
example : (parseSocketAddr "[fe80::1%2]:5600".toList).toOption.map (fun addr => String.ofList addr.text) =
    some "[fe80::1%2]:5600" := by decide +kernel

end WfbLink.Core.Net
