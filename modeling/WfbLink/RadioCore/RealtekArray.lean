/-
Arrays in C sources (`radio-core/src/realtek_table.rs`).

An array is found by the first occurrence of its name and the first brace behind that. Its body ends where the braces
balance; only then are comments taken out, and block comments leave nothing behind.

- `findArrayBody_source`: the body is found if no brace stands between an occurrence of the name and the body, and the
  comments in it balance their braces.
- `scan_items`: the literals are read back if something other than block comments stands between them.
- `parseRealtekU32Array_source`: parsing such a source undoes writing it.
- `irregular_parsed`: what goes wrong otherwise.
-/
import Mathlib.Tactic
import WfbLink.Core.Numeral
import WfbLink.Core.Scan
import WfbLink.RadioCore.RealtekTable

namespace WfbLink.RadioCore

open WfbLink.Core

/-! ## The parser -/

/-- a text from the first occurrence of a pattern on -/
def findText (pattern : List Char) : List Char → Option (List Char)
  | [] => if pattern = [] then some [] else none
  | c :: text => if pattern.isPrefixOf (c :: text) then some (c :: text) else findText pattern text

/-- what stands before the brace that closes the outermost of `depth` open ones -/
def bracedBody : ℕ → List Char → Option (List Char)
  | _, [] => none
  | depth, c :: text =>
    if c = '{' then (bracedBody (depth + 1) text).map (c :: ·)
    else if c = '}' then
      if depth - 1 = 0 then some [] else (bracedBody (depth - 1) text).map (c :: ·)
    else (bracedBody depth text).map (c :: ·)

def findArrayBody (source : List Char) (arrayName : String) : Except RealtekTableError (List Char) :=
  match findText arrayName.toList source with
  | none => .error (.arrayNotFound arrayName)
  | some afterName =>
    match afterName.dropWhile (· ≠ '{') with
    | [] => .error (.arrayBodyNotFound arrayName)
    | _ :: text =>
      match bracedBody 1 text with
      | some body => .ok body
      | none => .error (.arrayBodyNotFound arrayName)

/-- where the text is: in code, or in one of the two kinds of comments -/
inductive CommentMode where
  | code
  | line
  | block (prev : Char)

def stripFrom : CommentMode → List Char → List Char
  | _, [] => []
  | .code, '/' :: '/' :: text => stripFrom .line text
  | .code, '/' :: '*' :: text => stripFrom (.block (Char.ofNat 0)) text
  | .code, c :: text => c :: stripFrom .code text
  | .line, c :: text => if c = '\n' then '\n' :: stripFrom .code text else stripFrom .line text
  | .block prev, c :: text => if prev = '*' ∧ c = '/' then stripFrom .code text else stripFrom (.block c) text

def stripCComments (source : List Char) : List Char := stripFrom .code source

def isAsciiDigit (c : Char) : Bool := (toDigit 10 c).isSome

def isAsciiHexdigit (c : Char) : Bool := (toDigit 16 c).isSome

def startsHex : List Char → Bool
  | '0' :: x :: c :: _ => (x = 'x' || x = 'X') && isAsciiHexdigit c
  | _ => false

/-- the value of a literal with its digits behind `start` -/
def literalValue (radix : ℕ) (start digits : List Char) : ScanStep (Option UInt32) RealtekTableError :=
  match fromStrRadix (2 ^ 32) digits radix with
  | .ok value => .record (some (UInt32.ofNat value)) (start.length + digits.length)
  | .error error => .halt (.invalidNumber (String.ofList (start ++ digits)) error.message)

/-- one round of the loop: a literal at the front, or a character that is passed over -/
def literalStep (text : List Char) : ScanStep (Option UInt32) RealtekTableError :=
  if startsHex text then literalValue 16 (text.take 2) ((text.drop 2).takeWhile isAsciiHexdigit)
  else if text.head?.any isAsciiDigit then literalValue 10 [] (text.takeWhile isAsciiDigit)
  else .record none 1

def scanU32Literals (source : List Char) : Except RealtekTableError (List UInt32) :=
  match scan literalStep source with
  | (values, none) => .ok values.reduceOption
  | (_, some error) => .error error

def parseRealtekU32Array (source : List Char) (arrayName : String) : Except RealtekTableError (List UInt32) := do
  let body ← findArrayBody source arrayName
  let values ← scanU32Literals (stripCComments body)
  if values.length % 2 ≠ 0 then throw (.oddValueCount arrayName values.length)
  return values

/-! ## Sources -/

/-- white space of C -/
def isBlank (c : Char) : Bool := c = ' ' || c = '\t' || c = '\n' || c = '\r' || c.toNat = 0x0b || c.toNat = 0x0c

/-- what may stand between literals -/
inductive CSeparator where
  | comma
  | blank (c : Char) (h : isBlank c = true)
  | lineComment (text : List Char) (h : '\n' ∉ text)
  | blockComment (text : List Char) (h : ¬['*', '/'] <:+: text)

namespace CSeparator

def text : CSeparator → List Char
  | comma => [',']
  | blank c _ => [c]
  | lineComment text _ => '/' :: '/' :: text ++ ['\n']
  | blockComment text _ => '/' :: '*' :: text ++ ['*', '/']

def isBlock : CSeparator → Bool
  | blockComment _ _ => true
  | _ => false

end CSeparator

/-- the ways to write a value: its decimal digits, or hexadecimal ones of either case behind any number of zeros -/
inductive Literal (value : UInt32) : List Char → Prop where
  | decimal : Literal value (Nat.toDigits 10 value.toNat)
  | hexadecimal (x : Char) (hx : x = 'x' ∨ x = 'X') (zeros : ℕ) (digits : List Char)
      (h : digits.map Char.toLower = List.replicate zeros '0' ++ Nat.toDigits 16 value.toNat) :
      Literal value ('0' :: x :: digits)

/-- a literal and what stands behind it -/
structure CItem where
  value : UInt32
  literal : List Char
  separators : List CSeparator
  written : Literal value literal

def CItem.text (item : CItem) : List Char := item.literal ++ item.separators.flatMap CSeparator.text

/-- a source with an array in it: the brace of the array stands behind its name and `between` -/
structure CSource where
  before : List Char
  arrayName : String
  between : List Char
  lead : List CSeparator
  items : List CItem
  after : List Char
  separated : ∀ item ∈ items.dropLast, item.separators ≠ []

namespace CSource

def values (source : CSource) : List UInt32 := source.items.map CItem.value

def body (source : CSource) : List Char := source.lead.flatMap CSeparator.text ++ source.items.flatMap CItem.text

def text (source : CSource) : List Char :=
  source.before ++ (source.arrayName.toList ++ (source.between ++ '{' :: (source.body ++ '}' :: source.after)))

/-- what the parser takes for granted: no brace stands between an occurrence of the name and the brace of the array, the
braces in its comments balance, and more than block comments stands between literals -/
structure Regular (source : CSource) : Prop where
  first : ∀ start rest, source.before = start ++ rest → source.arrayName.toList <+: rest ++ source.arrayName.toList →
    '{' ∉ rest ++ (source.arrayName.toList ++ source.between)
  opened : ∀ start, start <+: source.body → start.count '}' ≤ start.count '{'
  balanced : source.body.count '}' = source.body.count '{'
  apart : ∀ item ∈ source.items.dropLast, ∃ separator ∈ item.separators, separator.isBlock = false

end CSource

/-! ## Finding the body -/

theorem findText_append (pattern before rest : List Char) :
    ∃ start later, before = start ++ later ∧ pattern <+: later ++ pattern ∧
      findText pattern (before ++ (pattern ++ rest)) = some (later ++ (pattern ++ rest)) := by
  induction before with
  | nil =>
    refine ⟨[], [], rfl, List.prefix_refl pattern, ?_⟩
    rw [List.nil_append]
    cases htext : pattern ++ rest with
    | nil => exact if_pos (List.append_eq_nil_iff.mp htext).1
    | cons c text =>
      rw [findText, if_pos]
      rw [List.isPrefixOf_iff_prefix, ← htext]
      exact List.prefix_append pattern rest
  | cons c before ih =>
    rw [List.cons_append, findText]
    split_ifs with hfront
    · refine ⟨[], c :: before, rfl, ?_, rfl⟩
      rw [List.isPrefixOf_iff_prefix, ← List.cons_append, ← List.append_assoc] at hfront
      refine List.prefix_of_prefix_length_le hfront (List.prefix_append _ _) ?_
      rw [List.length_append]
      exact Nat.le_add_left _ _
    · obtain ⟨start, later, hsplit, hlater, hfind⟩ := ih
      exact ⟨c :: start, later, congrArg (c :: ·) hsplit, hlater, hfind⟩

theorem dropWhile_brace {text : List Char} (h : '{' ∉ text) (rest : List Char) :
    (text ++ '{' :: rest).dropWhile (· ≠ '{') = '{' :: rest := by
  induction text with
  | nil => rfl
  | cons c text ih =>
    have hc : c ≠ '{' := fun heq => h (heq ▸ List.mem_cons_self)
    rw [List.cons_append, List.dropWhile_cons_of_pos (by exact decide_eq_true hc)]
    exact ih fun hmem => h (List.mem_cons_of_mem c hmem)

/-- a body whose braces balance is found, whatever stands behind it -/
theorem bracedBody_append {body : List Char} {depth : ℕ} (hdepth : 0 < depth)
    (hopened : ∀ start, start <+: body → start.count '}' < depth + start.count '{')
    (hbalanced : body.count '}' + 1 = depth + body.count '{') (after : List Char) :
    bracedBody depth (body ++ '}' :: after) = some body := by
  induction body generalizing depth with
  | nil =>
    have hone : depth - 1 = 0 := by
      rw [List.count_nil, List.count_nil] at hbalanced
      omega
    rw [List.nil_append, bracedBody, if_neg (by decide), if_pos rfl, if_pos hone]
  | cons c body ih =>
    have hstart := fun start (h : start <+: body) => hopened (c :: start) (List.prefix_cons_inj c |>.mpr h)
    have hnil := hstart [] List.nil_prefix
    rw [List.cons_append, bracedBody]
    split_ifs with hopen hclose hlast
    · subst hopen
      simp only [List.count_cons_self, List.count_cons_of_ne (show '{' ≠ '}' by decide)] at hstart hbalanced
      rw [ih (Nat.succ_pos depth) (fun start h => by have := hstart start h; omega) (by omega)]
      rfl
    · subst hclose
      simp only [List.count_cons_self, List.count_cons_of_ne (show '}' ≠ '{' by decide), List.count_nil] at hnil
      omega
    · subst hclose
      simp only [List.count_cons_self, List.count_cons_of_ne (show '}' ≠ '{' by decide)] at hstart hbalanced
      rw [ih (by omega) (fun start h => by have := hstart start h; omega) (by omega)]
      rfl
    · simp only [List.count_cons_of_ne hopen, List.count_cons_of_ne hclose] at hstart hbalanced
      rw [ih hdepth hstart hbalanced]
      rfl

theorem findArrayBody_source {source : CSource} (h : source.Regular) :
    findArrayBody source.text source.arrayName = .ok source.body := by
  obtain ⟨start, later, hsplit, hfront, hfind⟩ := findText_append source.arrayName.toList source.before
    (source.between ++ '{' :: (source.body ++ '}' :: source.after))
  have hbrace := dropWhile_brace (h.first start later hsplit hfront) (source.body ++ '}' :: source.after)
  have hbody := bracedBody_append Nat.one_pos
    (fun start hstart => by have := h.opened start hstart; omega) (by rw [h.balanced, Nat.add_comm]) source.after
  rw [findArrayBody, CSource.text, hfind]
  dsimp only
  rw [← List.append_assoc source.arrayName.toList, ← List.append_assoc later, hbrace]
  dsimp only
  rw [hbody]

/-! ## Taking comments out -/

theorem strip_plain {c : Char} (hc : c ≠ '/') (text : List Char) :
    stripFrom .code (c :: text) = c :: stripFrom .code text := by
  rw [stripFrom]
  · rintro _ rfl
    exact absurd rfl hc
  · rintro _ rfl
    exact absurd rfl hc

theorem strip_text {text : List Char} (h : '/' ∉ text) (rest : List Char) :
    stripFrom .code (text ++ rest) = text ++ stripFrom .code rest := by
  induction text with
  | nil => rfl
  | cons c text ih =>
    have hc : c ≠ '/' := fun heq => h (heq ▸ List.mem_cons_self)
    rw [List.cons_append, strip_plain hc, ih fun hmem => h (List.mem_cons_of_mem c hmem), List.cons_append]

theorem strip_line {text : List Char} (h : '\n' ∉ text) (rest : List Char) :
    stripFrom .line (text ++ '\n' :: rest) = '\n' :: stripFrom .code rest := by
  induction text with
  | nil => rw [List.nil_append, stripFrom, if_pos rfl]
  | cons c text ih =>
    have hc : c ≠ '\n' := fun heq => h (heq ▸ List.mem_cons_self)
    rw [List.cons_append, stripFrom, if_neg hc, ih fun hmem => h (List.mem_cons_of_mem c hmem)]

/-- a block comment ends at the first star with a slash behind it -/
theorem strip_block {prev : Char} {text : List Char} (h : ¬['*', '/'] <:+: prev :: text) (rest : List Char) :
    stripFrom (.block prev) (text ++ '*' :: '/' :: rest) = stripFrom .code rest := by
  induction text generalizing prev with
  | nil => rw [List.nil_append, stripFrom, if_neg fun hend => absurd hend.2 (by decide), stripFrom, if_pos ⟨rfl, rfl⟩]
  | cons c text ih =>
    have hopen : ¬(prev = '*' ∧ c = '/') := by
      rintro ⟨rfl, rfl⟩
      exact h (List.prefix_append ['*', '/'] text).isInfix
    rw [List.cons_append, stripFrom, if_neg hopen]
    exact ih fun hinfix => h (List.infix_cons hinfix)

namespace CSeparator

/-- what is left of a separator -/
def left : CSeparator → List Char
  | comma => [',']
  | blank c _ => [c]
  | lineComment _ _ => ['\n']
  | blockComment _ _ => []

theorem blank_ne {c : Char} (h : isBlank c = true) : c ≠ '/' := by
  rintro rfl
  exact absurd h (by decide)

theorem strip (separator : CSeparator) (rest : List Char) :
    stripFrom .code (separator.text ++ rest) = separator.left ++ stripFrom .code rest := by
  cases separator with
  | comma => exact strip_plain (by decide) rest
  | blank c h => exact strip_plain (blank_ne h) rest
  | lineComment text h =>
    rw [CSeparator.text, List.cons_append, List.cons_append, List.cons_append, List.cons_append, List.append_assoc,
      stripFrom]
    exact strip_line h rest
  | blockComment text h =>
    rw [CSeparator.text, List.cons_append, List.cons_append, List.cons_append, List.cons_append, List.append_assoc,
      stripFrom]
    refine strip_block ?_ rest
    rw [List.infix_cons_iff]
    rintro (hfront | hinfix)
    · exact absurd (List.cons_prefix_cons.mp hfront).1 (by decide)
    · exact h hinfix

theorem strip_all (separators : List CSeparator) (rest : List Char) :
    stripFrom .code (separators.flatMap text ++ rest) = separators.flatMap left ++ stripFrom .code rest := by
  induction separators with
  | nil => rfl
  | cons separator separators ih =>
    rw [List.flatMap_cons, List.append_assoc, strip, ih, List.flatMap_cons, List.append_assoc]

end CSeparator

/-! ## Literals -/

theorem hexdigit_of_map {value : UInt32} {zeros : ℕ} {digits : List Char}
    (h : digits.map Char.toLower = List.replicate zeros '0' ++ Nat.toDigits 16 value.toNat) :
    ∀ c ∈ digits, isAsciiHexdigit c = true := by
  intro c hc
  rw [isAsciiHexdigit, ← toDigit_toLower]
  have hmem : c.toLower ∈ List.replicate zeros '0' ++ Nat.toDigits 16 value.toNat := h ▸ List.mem_map_of_mem hc
  rcases List.mem_append.mp hmem with hzero | hdigit
  · rw [List.eq_of_mem_replicate hzero]
    rfl
  · exact toDigits_digits (by decide) (by decide) _ hdigit

/-- a character that ends every literal -/
def IsGap (c : Char) : Prop := toDigit 16 c = none ∧ c ≠ 'x' ∧ c ≠ 'X'

theorem IsGap.not_digit {c : Char} (h : IsGap c) : isAsciiDigit c = false := by
  rw [isAsciiDigit, Option.isSome_eq_false_iff, Option.isNone_iff_eq_none]
  by_contra hdigit
  obtain ⟨digit, hdigit⟩ := Option.ne_none_iff_exists'.mp hdigit
  have hhex : toDigit 16 c = some digit := toDigit_mono (by decide) hdigit
  rw [h.1] at hhex
  cases hhex

theorem IsGap.not_hexdigit {c : Char} (h : IsGap c) : isAsciiHexdigit c = false := by
  rw [isAsciiHexdigit, h.1]
  rfl

/-- a text that goes on with a gap, or not at all -/
def LiteralEnds (rest : List Char) : Prop := ∀ c ∈ rest.head?, IsGap c

theorem takeWhile_ends {p : Char → Bool} {digits rest : List Char} (hdigits : ∀ c ∈ digits, p c = true)
    (hrest : ∀ c ∈ rest.head?, p c = false) : (digits ++ rest).takeWhile p = digits := by
  rw [List.takeWhile_append_of_pos hdigits]
  cases rest with
  | nil => rw [List.takeWhile_nil, List.append_nil]
  | cons c rest => rw [List.takeWhile_cons_of_neg (by rw [hrest c rfl]; decide), List.append_nil]

/-- decimal digits are no hexadecimal literal, whatever gap stands behind them -/
theorem startsHex_decimal (value : UInt32) {rest : List Char} (hrest : LiteralEnds rest) :
    startsHex (Nat.toDigits 10 value.toNat ++ rest) = false := by
  by_cases hzero : value.toNat = 0
  · have hdigits : Nat.toDigits 10 value.toNat = ['0'] := by
      rw [hzero]
      rfl
    rw [hdigits]
    match rest, hrest with
    | [], _ => rfl
    | [_], _ => rfl
    | x :: c :: rest, hrest =>
      obtain ⟨-, hx, hX⟩ := hrest x rfl
      have hnone : (x = 'x' || x = 'X' : Bool) = false := by
        rw [Bool.or_eq_false_iff, decide_eq_false_iff_not, decide_eq_false_iff_not]
        exact ⟨hx, hX⟩
      show ((x = 'x' || x = 'X') && isAsciiHexdigit c) = false
      rw [hnone, Bool.false_and]
  · have hhead : (Nat.toDigits 10 value.toNat).head? ≠ some '0' := toDigits_head (by decide) (by decide) hzero
    cases hdigits : Nat.toDigits 10 value.toNat with
    | nil => exact absurd hdigits Nat.toDigits_ne_nil
    | cons c digits =>
      rw [hdigits] at hhead
      rw [List.cons_append, startsHex]
      rintro x c' rest' heq
      exact hhead (congrArg some (List.cons.inj heq).1)

theorem literalValue_ok {radix : ℕ} {start digits : List Char} {value : UInt32}
    (h : fromStrRadix (2 ^ 32) digits radix = .ok value.toNat) :
    literalValue radix start digits = .record (some value) (start.length + digits.length) := by
  rw [literalValue, h]
  dsimp only
  rw [UInt32.ofNat_toNat]

/-- **A literal** is read back if a gap stands behind it -/
theorem literalStep_literal {value : UInt32} {literal rest : List Char} (h : Literal value literal)
    (hrest : LiteralEnds rest) : literalStep (literal ++ rest) = .record (some value) literal.length := by
  cases h with
  | decimal =>
    have hdigits : ∀ c ∈ Nat.toDigits 10 value.toNat, isAsciiDigit c = true := toDigits_digits (by decide) (by decide)
    have hhead : (Nat.toDigits 10 value.toNat ++ rest).head?.any isAsciiDigit = true := by
      rw [List.head?_append_of_ne_nil _ Nat.toDigits_ne_nil]
      cases htext : Nat.toDigits 10 value.toNat with
      | nil => exact absurd htext Nat.toDigits_ne_nil
      | cons c digits => exact hdigits c (htext ▸ List.mem_cons_self)
    rw [literalStep, startsHex_decimal value hrest, if_neg Bool.false_ne_true, if_pos hhead,
      takeWhile_ends hdigits fun c hc => (hrest c hc).not_digit]
    rw [literalValue_ok (fromStrRadix_toDigits (by decide) (by decide) value.toNat_lt)]
    rw [List.length_nil, Nat.zero_add]
  | hexadecimal x hx zeros digits h =>
    have hdigits := hexdigit_of_map h
    have hparsed : fromStrRadix (2 ^ 32) digits 16 = .ok value.toNat := by
      cases digits with
      | nil =>
        rw [List.map_nil, eq_comm, List.append_eq_nil_iff] at h
        exact absurd h.2 Nat.toDigits_ne_nil
      | cons c digits =>
        have hc := hdigits c List.mem_cons_self
        rw [fromStrRadix_unsigned, ← fromDigits_toLower, h, fromDigits_zeros (by decide),
          fromDigits_toDigits (by decide) (by decide) value.toNat_lt]
        · rintro rfl
          exact absurd hc (by decide)
        · rintro rfl
          exact absurd hc (by decide)
    have hstart : startsHex ('0' :: x :: digits ++ rest) = true := by
      cases digits with
      | nil => exact nomatch hparsed
      | cons c digits =>
        show ((x = 'x' || x = 'X') && isAsciiHexdigit c) = true
        rw [hdigits c List.mem_cons_self, Bool.and_true, Bool.or_eq_true, decide_eq_true_iff, decide_eq_true_iff]
        exact hx
    rw [literalStep, if_pos hstart]
    show literalValue 16 ['0', x] ((digits ++ rest).takeWhile isAsciiHexdigit) = _
    rw [takeWhile_ends hdigits fun c hc => (hrest c hc).not_hexdigit, literalValue_ok hparsed]
    rw [List.length_cons, List.length_cons, List.length_cons, List.length_cons, List.length_nil]
    congr 1
    omega

/-! ## Reading literals back -/

theorem scan_gap {c : Char} (hc : IsGap c) (text : List Char) :
    scanU32Literals (c :: text) = scanU32Literals text := by
  have hstep : literalStep (c :: text) = .record none 1 := by
    have hzero : c ≠ '0' := by
      rintro rfl
      exact absurd hc.1 (by decide)
    have hstart : startsHex (c :: text) = false := by
      rw [startsHex]
      rintro x c' rest' heq
      exact hzero (List.cons.inj heq).1
    have hdigit : (c :: text).head?.any isAsciiDigit = false := hc.not_digit
    rw [literalStep, hstart, if_neg Bool.false_ne_true, hdigit, if_neg Bool.false_ne_true]
  rw [scanU32Literals, scan_record (List.cons_ne_nil c text) hstep Nat.one_pos, scanU32Literals, List.drop_one,
    List.tail_cons]
  rcases scan literalStep text with ⟨values, _ | error⟩ <;> rfl

theorem scan_gaps {gaps : List Char} (h : ∀ c ∈ gaps, IsGap c) (text : List Char) :
    scanU32Literals (gaps ++ text) = scanU32Literals text := by
  induction gaps with
  | nil => rfl
  | cons c gaps ih =>
    rw [List.cons_append, scan_gap (h c List.mem_cons_self), ih fun c' hc' => h c' (List.mem_cons_of_mem c hc')]

theorem scan_literal {value : UInt32} {literal rest : List Char} (h : Literal value literal) (hrest : LiteralEnds rest) :
    scanU32Literals (literal ++ rest) = (scanU32Literals rest).map (value :: ·) := by
  have hne : literal ≠ [] := by
    cases h with
    | decimal => exact Nat.toDigits_ne_nil
    | hexadecimal => exact List.cons_ne_nil _ _
  have hnonempty : literal ++ rest ≠ [] := fun hnil => hne (List.append_eq_nil_iff.mp hnil).1
  rw [scanU32Literals, scan_record hnonempty (literalStep_literal h hrest) (List.length_pos_of_ne_nil hne),
    scanU32Literals, List.drop_left]
  rcases scan literalStep rest with ⟨values, _ | error⟩ <;> rfl

namespace CSeparator

theorem isGap_left (separator : CSeparator) : ∀ c ∈ separator.left, IsGap c := by
  cases separator with
  | comma =>
    intro c hc
    rw [List.mem_singleton.mp hc]
    exact ⟨by decide, by decide, by decide⟩
  | blank c h =>
    have htable : ∀ n < 128, isBlank (Char.ofNat n) = true →
        toDigit 16 (Char.ofNat n) = none ∧ Char.ofNat n ≠ 'x' ∧ Char.ofNat n ≠ 'X' := by decide
    have hascii : c.toNat < 128 := by
      unfold isBlank at h
      simp only [Bool.or_eq_true, decide_eq_true_iff] at h
      rcases h with ((((rfl | rfl) | rfl) | rfl) | hvt) | hff
      · decide
      · decide
      · decide
      · decide
      · omega
      · omega
    intro c' hc'
    rw [List.mem_singleton.mp hc']
    have hgap := htable c.toNat hascii
    rw [Char.ofNat_toNat] at hgap
    exact hgap h
  | lineComment text h =>
    intro c hc
    rw [List.mem_singleton.mp hc]
    exact ⟨by decide, by decide, by decide⟩
  | blockComment text h => exact nofun

theorem left_ne_nil {separator : CSeparator} (h : separator.isBlock = false) : separator.left ≠ [] := by
  cases separator with
  | comma => exact List.cons_ne_nil _ _
  | blank c _ => exact List.cons_ne_nil _ _
  | lineComment text _ => exact List.cons_ne_nil _ _
  | blockComment text _ => exact nomatch h

theorem isGap_all (separators : List CSeparator) : ∀ c ∈ separators.flatMap left, IsGap c := by
  intro c hc
  obtain ⟨separator, -, hleft⟩ := List.mem_flatMap.mp hc
  exact isGap_left separator c hleft

end CSeparator

/-- what is left of an item -/
def CItem.left (item : CItem) : List Char := item.literal ++ item.separators.flatMap CSeparator.left

/-- **Items** are read back if something is left between any two of them -/
theorem scan_items {items : List CItem}
    (h : ∀ item ∈ items.dropLast, ∃ separator ∈ item.separators, separator.isBlock = false) :
    scanU32Literals (items.flatMap CItem.left) = .ok (items.map CItem.value) := by
  induction items with
  | nil => rw [List.flatMap_nil, scanU32Literals, scan_nil]; rfl
  | cons item items ih =>
    have hgaps := CSeparator.isGap_all item.separators
    have hends : LiteralEnds (item.separators.flatMap CSeparator.left ++ items.flatMap CItem.left) := by
      intro c hc
      cases hleft : item.separators.flatMap CSeparator.left with
      | cons c' left =>
        rw [hleft] at hc hgaps
        cases hc
        exact hgaps c List.mem_cons_self
      | nil =>
        cases items with
        | nil =>
          rw [hleft] at hc
          exact nomatch hc
        | cons next items =>
          obtain ⟨separator, hmem, hblock⟩ := h item List.mem_cons_self
          exact absurd (List.flatMap_eq_nil_iff.mp hleft separator hmem) (CSeparator.left_ne_nil hblock)
    have hlater : ∀ item' ∈ items.dropLast, ∃ separator ∈ item'.separators, separator.isBlock = false := by
      intro item' hmem
      cases items with
      | nil => exact nomatch hmem
      | cons next items => exact h item' (List.mem_cons_of_mem item hmem)
    rw [List.flatMap_cons, CItem.left, List.append_assoc, scan_literal item.written hends, scan_gaps hgaps, ih hlater]
    rfl

theorem Literal.no_slash {value : UInt32} {literal : List Char} (h : Literal value literal) : '/' ∉ literal := by
  cases h with
  | decimal => exact notMem_toDigits (by decide) (by decide) (by decide)
  | hexadecimal x hx zeros digits h =>
    intro hmem
    rcases List.mem_cons.mp hmem with hzero | hmem
    · exact absurd hzero (by decide)
    rcases List.mem_cons.mp hmem with rfl | hdigit
    · exact absurd hx (by decide)
    · exact absurd (hexdigit_of_map h '/' hdigit) (by decide)

theorem strip_items (items : List CItem) : stripFrom .code (items.flatMap CItem.text) = items.flatMap CItem.left := by
  induction items with
  | nil => rfl
  | cons item items ih =>
    rw [List.flatMap_cons, CItem.text, List.append_assoc, strip_text item.written.no_slash, CSeparator.strip_all, ih,
      List.flatMap_cons, CItem.left, List.append_assoc]

theorem scan_source {source : CSource} (h : source.Regular) :
    scanU32Literals (stripCComments source.body) = .ok source.values := by
  rw [stripCComments, CSource.body, CSeparator.strip_all, strip_items, scan_gaps (CSeparator.isGap_all source.lead)]
  exact scan_items h.apart

/-- parsing is reading the body without its comments -/
theorem parse_body {source left : List Char} {arrayName : String}
    (h : (findArrayBody source arrayName).map stripCComments = .ok left) :
    parseRealtekU32Array source arrayName = (do
      let values ← scanU32Literals left
      if values.length % 2 ≠ 0 then throw (.oddValueCount arrayName values.length)
      return values) := by
  rw [parseRealtekU32Array]
  cases hbody : findArrayBody source arrayName with
  | error error =>
    rw [hbody] at h
    exact nomatch h
  | ok body =>
    rw [hbody] at h
    have hleft : stripCComments body = left := Except.ok.inj h
    rw [← hleft]
    rfl

/-- **Parsing undoes writing** an array of pairs, if the source is as the parser takes for granted -/
theorem parseRealtekU32Array_source {source : CSource} (heven : source.values.length % 2 = 0) (h : source.Regular) :
    parseRealtekU32Array source.text source.arrayName = .ok source.values := by
  have hodd : ¬source.values.length % 2 ≠ 0 := fun hne => hne heven
  have hbody : (findArrayBody source.text source.arrayName).map stripCComments = .ok (stripCComments source.body) := by
    rw [findArrayBody_source h]
    rfl
  rw [parse_body hbody, scan_source h]
  show (if source.values.length % 2 ≠ 0 then _ else _) = _
  rw [if_neg hodd]
  rfl

/-- `/* rf */ u32 rf[] = { 0x1A/* {} */, 2 };` -/
def balancedBraces : CSource where
  before := "/* rf */ u32 ".toList
  arrayName := "rf"
  between := "[] = ".toList
  lead := [.blank ' ' rfl]
  items := [
    { value := 26
      literal := "0x1A".toList
      separators := [.blockComment " \x7b\x7d ".toList (by decide), .comma, .blank ' ' rfl]
      written := .hexadecimal 'x' (.inl rfl) 0 ['1', 'A'] rfl },
    { value := 2, literal := ['2'], separators := [.blank ' ' rfl], written := .decimal }]
  after := [';']
  separated := by decide

theorem balancedBraces_parsed :
    balancedBraces.Regular ∧
      parseRealtekU32Array balancedBraces.text balancedBraces.arrayName = .ok balancedBraces.values := by
  have hregular : balancedBraces.Regular := by
    refine ⟨?_, ?_, by decide, by decide⟩
    · intro start rest hsplit _ hmem
      have hwhole : '{' ∈ balancedBraces.before ++ (balancedBraces.arrayName.toList ++ balancedBraces.between) := by
        rw [hsplit, List.append_assoc]
        exact List.mem_append_right start hmem
      exact absurd hwhole (by decide)
    · intro start hstart
      have hall : ∀ start ∈ balancedBraces.body.inits, start.count '}' ≤ start.count '{' := by decide
      exact hall start ((List.mem_inits start _).mpr hstart)
  exact ⟨hregular, parseRealtekU32Array_source rfl hregular⟩

/-- `u32 rf[] = {/* } */ 1, 2};` -/
def braceInComment : CSource where
  before := "u32 ".toList
  arrayName := "rf"
  between := "[] = ".toList
  lead := [.blockComment " \x7d ".toList (by decide), .blank ' ' rfl]
  items := [
    { value := 1, literal := ['1'], separators := [.comma, .blank ' ' rfl], written := .decimal },
    { value := 2, literal := ['2'], separators := [], written := .decimal }]
  after := [';']
  separated := by decide

/-- `u32 rf_a[] = {}; u32 rf[] = {1, 2};` -/
def longerName : CSource where
  before := "u32 rf_a[] = \x7b\x7d; u32 ".toList
  arrayName := "rf"
  between := "[] = ".toList
  lead := []
  items := [
    { value := 1, literal := ['1'], separators := [.comma, .blank ' ' rfl], written := .decimal },
    { value := 2, literal := ['2'], separators := [], written := .decimal }]
  after := [';']
  separated := by decide

/-- `u32 rf[] = {1/**/2};` -/
def commentBetween : CSource where
  before := "u32 ".toList
  arrayName := "rf"
  between := "[] = ".toList
  lead := []
  items := [
    { value := 1, literal := ['1'], separators := [.blockComment [] (by decide)], written := .decimal },
    { value := 2, literal := ['2'], separators := [], written := .decimal }]
  after := [';']
  separated := by decide

/-- **The parser goes wrong** where a comment closes the array, a longer name comes first, or nothing but a block
comment stands between literals -/
theorem irregular_parsed :
    parseRealtekU32Array braceInComment.text braceInComment.arrayName = .ok [] ∧ braceInComment.values = [1, 2] ∧
      parseRealtekU32Array longerName.text longerName.arrayName = .ok [] ∧ longerName.values = [1, 2] ∧
      parseRealtekU32Array commentBetween.text commentBetween.arrayName = .error (.oddValueCount "rf" 1) ∧
      commentBetween.values = [1, 2] := by
  have hnone : scanU32Literals [] = .ok [] := by rw [scanU32Literals, scan_nil]; rfl
  have hjoined : scanU32Literals ['1', '2'] = .ok [12] := by
    have hliteral : scanU32Literals (['1', '2'] ++ []) = (scanU32Literals []).map ((12 : UInt32) :: ·) :=
      scan_literal .decimal nofun
    rw [hnone] at hliteral
    exact hliteral
  have hclosed : (findArrayBody braceInComment.text braceInComment.arrayName).map stripCComments = .ok [] := by decide
  have hlonger : (findArrayBody longerName.text longerName.arrayName).map stripCComments = .ok [] := by decide
  have hbetween : (findArrayBody commentBetween.text commentBetween.arrayName).map stripCComments = .ok ['1', '2'] := by decide
  rw [parse_body hclosed, parse_body hlonger, parse_body hbetween, hnone, hjoined]
  exact ⟨rfl, rfl, rfl, rfl, rfl, rfl⟩

end WfbLink.RadioCore
