/-
USB traces (`radio-core/src/trace.rs`).

A trace is read from the text usbmon writes, one line for each URB event: submits of control and bulk transfers become
events, everything else is passed over. Two traces are compared event by event.

- `parseUsbmonLine_submit`: a submit line gives back the submit it was written for.
- `import_total`: every line of a text is an event, passed over, or an error.
- `usbmon_roundtrip`: importing undoes writing, whatever stands between the submits.
-/
import WfbLink.Core.Lines
import WfbLink.RadioCore.RealtekArray

namespace WfbLink.RadioCore

open WfbLink.Core

inductive UsbTraceKind where
  | controlRead
  | controlWrite
  | bulkIn
  | bulkOut
deriving DecidableEq, Repr

structure UsbTraceEvent where
  kind : UsbTraceKind
  endpoint : Option UInt8
  requestType : Option UInt8
  request : Option UInt8
  value : Option UInt16
  index : Option UInt16
  length : Option ℕ
  dataHex : Option String

/-! ## Import -/

structure UsbTraceImportError where
  lineNumber : ℕ
  message : String
deriving DecidableEq, Repr

structure UsbTraceImport where
  events : List UsbTraceEvent
  ignoredLines : ℕ
  errors : List UsbTraceImportError

inductive UsbmonLineParse where
  | event (event : UsbTraceEvent)
  | ignored
  | error (message : String)

def stripHexPrefix (input : List Char) : List Char :=
  ((stripPrefix ['0', 'x'] input).or (stripPrefix ['0', 'X'] input)).getD input

/-- a number below `limit`, with or without a prefix -/
def parseHex (limit : ℕ) (input : List Char) : Except String ℕ :=
  (fromStrRadix limit (stripHexPrefix input) 16).mapError (·.message)

def parseHexU8 (input : List Char) : Except String UInt8 := (parseHex (2 ^ 8) input).map UInt8.ofNat

def parseHexU16 (input : List Char) : Except String UInt16 := (parseHex (2 ^ 16) input).map UInt16.ofNat

def parseHexUsize (input : List Char) : Except String ℕ := parseHex (2 ^ 64) input

/-- `parse::<isize>().ok()` -/
def parseIsize : List Char → Option ℤ
  | [] => none
  | ['+'] => none
  | ['-'] => none
  | '+' :: digits => (fromDigits (2 ^ 63) 10 0 digits).toOption.map fun n => (n : ℤ)
  | '-' :: digits => (fromDigits (2 ^ 63 + 1) 10 0 digits).toOption.map fun n => -(n : ℤ)
  | digits => (fromDigits (2 ^ 63) 10 0 digits).toOption.map fun n => (n : ℤ)

/-- what stands behind the last colon; `rsplit` always has a first part -/
def parseUsbmonEndpoint (address : List Char) : Except String UInt8 :=
  match fromStrRadix (2 ^ 8) (address.rtakeWhile (· ≠ ':')) 10 with
  | .ok endpoint => .ok (UInt8.ofNat endpoint)
  | .error error => .error s!"invalid endpoint in {(String.ofList address).quote}: {error.message}"

def findUsbmonBulkLength (fields : List (List Char)) : Option ℕ :=
  ((fields.drop 5).findSome? fun field => (parseIsize field).filter fun value => 0 ≤ value).map Int.toNat

def parseUsbmonDataHex (fields : List (List Char)) : Option String :=
  match fields.dropWhile (· ≠ ['=']) with
  | [] => none
  | _ :: words =>
    let data := (words.takeWhile fun word => word.all isAsciiHexdigit).flatten
    if data = [] then none else some (String.ofList (data.map Char.toLower))

/-- the checks of a control line in turn, up to the first that fails -/
def parseControlSetup (kind : UsbTraceKind) (requestType request value index length : List Char)
    (dataHex : Option String) : Except String UsbTraceEvent := do
  let requestType ← (parseHexU8 requestType).mapError fun message => s!"request_type: {message}"
  let request ← (parseHexU8 request).mapError fun message => s!"request: {message}"
  let value ← (parseHexU16 value).mapError fun message => s!"value: {message}"
  let index ← (parseHexU16 index).mapError fun message => s!"index: {message}"
  let length ← (parseHexUsize length).mapError fun message => s!"length: {message}"
  return {
    kind
    endpoint := none
    requestType := some requestType
    request := some request
    value := some value
    index := some index
    length := some length
    dataHex }

/-- the direction of a transfer, from the letter behind its type -/
def usbmonDirection (inward outward : UsbTraceKind) (directionAndAddress : List Char) : Option UsbTraceKind :=
  match directionAndAddress.head? with
  | some 'i' => some inward
  | some 'o' => some outward
  | _ => none

def parseControlSubmit (directionAndAddress : List Char) (fields : List (List Char)) : UsbmonLineParse :=
  match fields with
  | _ :: _ :: _ :: _ :: status :: requestType :: request :: value :: index :: length :: _ =>
    if status ≠ ['s'] then .ignored
    else
      match usbmonDirection .controlRead .controlWrite directionAndAddress with
      | none => .ignored
      | some kind =>
        match parseControlSetup kind requestType request value index length (parseUsbmonDataHex fields) with
        | .ok event => .event event
        | .error message => .error message
  | _ => .error "control submit line is too short"

def parseBulkSubmit (directionAndAddress address : List Char) (fields : List (List Char)) : UsbmonLineParse :=
  match usbmonDirection .bulkIn .bulkOut directionAndAddress with
  | none => .ignored
  | some kind =>
    match parseUsbmonEndpoint address with
    | .error message => .error message
    | .ok endpointNumber =>
      let endpoint := if kind = .bulkIn then 0x80 ||| endpointNumber else endpointNumber
      match findUsbmonBulkLength fields with
      | none => .error "bulk submit line has no length field"
      | some length =>
        .event {
          kind
          endpoint := some endpoint
          requestType := none
          request := none
          value := none
          index := none
          length := some length
          dataHex := parseUsbmonDataHex fields }

/-- the type of the transfer is the first letter of the address -/
def parseSubmit (address : List Char) (fields : List (List Char)) : UsbmonLineParse :=
  match address with
  | 'C' :: rest => parseControlSubmit rest fields
  | 'B' :: rest => parseBulkSubmit rest address fields
  | _ => .ignored

def parseUsbmonLine (line : List Char) : UsbmonLineParse :=
  let trimmed := trim line
  if trimmed.isEmpty || trimmed.head? == some '#' then .ignored
  else
    let fields := splitWhitespace trimmed
    match fields with
    | _ :: _ :: kind :: address :: _ =>
      if kind ≠ ['S'] then .ignored else parseSubmit address fields
    | _ => .ignored

/-- the pass over one line -/
def importLine (imported : UsbTraceImport) (line : List Char × ℕ) : UsbTraceImport :=
  match parseUsbmonLine line.1 with
  | .event event => { imported with events := imported.events ++ [event] }
  | .ignored => { imported with ignoredLines := imported.ignoredLines + 1 }
  | .error message => { imported with errors := imported.errors ++ [⟨line.2 + 1, message⟩] }

def importUsbmonText (input : List Char) : UsbTraceImport := (lines input).zipIdx.foldl importLine ⟨[], 0, []⟩

/-! ## Comparison -/

inductive UsbTraceComparisonResult where
  | pass
  | fail
deriving DecidableEq, Repr

structure UsbTraceMismatch where
  eventIndex : ℕ
  field : String
  expected : String
  observed : String
deriving DecidableEq, Repr

structure UsbTraceComparison where
  result : UsbTraceComparisonResult
  expectedLen : ℕ
  observedLen : ℕ
  comparedLen : ℕ
  mismatches : List UsbTraceMismatch

def UsbTraceKind.debug : UsbTraceKind → String
  | .controlRead => "ControlRead"
  | .controlWrite => "ControlWrite"
  | .bulkIn => "BulkIn"
  | .bulkOut => "BulkOut"

/-- `{:?}` of an option -/
def debugOption {α : Type} (debug : α → String) : Option α → String
  | none => "None"
  | some a => s!"Some({debug a})"

def pushMismatch {α : Type} [DecidableEq α] (eventIndex : ℕ) (field : String) (debug : α → String)
    (expected observed : α) : List UsbTraceMismatch :=
  if expected ≠ observed then [⟨eventIndex, field, debug expected, debug observed⟩] else []

def compareEvent (eventIndex : ℕ) (expected observed : UsbTraceEvent) : List UsbTraceMismatch :=
  pushMismatch eventIndex "kind" UsbTraceKind.debug expected.kind observed.kind ++
  pushMismatch eventIndex "endpoint" (debugOption toString) expected.endpoint observed.endpoint ++
  pushMismatch eventIndex "request_type" (debugOption toString) expected.requestType observed.requestType ++
  pushMismatch eventIndex "request" (debugOption toString) expected.request observed.request ++
  pushMismatch eventIndex "value" (debugOption toString) expected.value observed.value ++
  pushMismatch eventIndex "index" (debugOption toString) expected.index observed.index ++
  pushMismatch eventIndex "length" (debugOption toString) expected.length observed.length ++
  if expected.dataHex.isSome then
    pushMismatch eventIndex "data_hex" (debugOption String.quote) expected.dataHex observed.dataHex
  else []

def compareUsbTraces (expected observed : List UsbTraceEvent) : UsbTraceComparison :=
  let comparedLen := min expected.length observed.length
  let mismatches :=
    ((expected.zip observed).zipIdx.flatMap fun ((expected, observed), idx) => compareEvent idx expected observed) ++
    if expected.length ≠ observed.length then
      [⟨comparedLen, "event_count", toString expected.length, toString observed.length⟩]
    else []
  { result := if mismatches.isEmpty then .pass else .fail
    expectedLen := expected.length
    observedLen := observed.length
    comparedLen
    mismatches }

/-! ## Writing a trace -/

/-- what a transfer is set up with, by its type -/
inductive UsbSetup where
  | control (requestType request : UInt8) (value index : UInt16)
  | bulk (endpointNumber : Fin 16)
deriving DecidableEq, Repr

/-- a submit that usbmon can show; nothing may be known of its payload -/
structure UsbSubmit where
  inward : Bool
  setup : UsbSetup
  length : ℕ
  length_lt : length < 2 ^ 63
  payload : List UInt8

/-- two digits for each byte -/
def hexBytes (payload : List UInt8) : List Char :=
  payload.flatMap fun byte => [(byte.toNat / 16).digitChar, (byte.toNat % 16).digitChar]

def UsbSubmit.event (submit : UsbSubmit) : UsbTraceEvent :=
  let dataHex := if submit.payload = [] then none else some (String.ofList (hexBytes submit.payload))
  match submit.setup with
  | .control requestType request value index =>
    { kind := if submit.inward then .controlRead else .controlWrite
      endpoint := none
      requestType := some requestType
      request := some request
      value := some value
      index := some index
      length := some submit.length
      dataHex }
  | .bulk endpointNumber =>
    { kind := if submit.inward then .bulkIn else .bulkOut
      endpoint := some (if submit.inward then 0x80 ||| UInt8.ofNat endpointNumber else UInt8.ofNat endpointNumber)
      requestType := none
      request := none
      value := none
      index := none
      length := some submit.length
      dataHex }

/-- a word other than the one that announces a payload -/
def PlainWord (word : List Char) : Prop := IsWord word ∧ word ≠ ['=']

instance (word : List Char) : Decidable (PlainWord word) :=
  inferInstanceAs (Decidable ((word ≠ [] ∧ ∀ c ∈ word, isWhitespace c = false) ∧ word ≠ ['=']))

/-- what else stands on the line of a submit, and how its payload is cut into words -/
structure UsbSubmitLine where
  submit : UsbSubmit
  tag : List Char
  timestamp : List Char
  bus : List Char
  device : List Char
  status : List Char
  -- what stands for a payload nothing is known of
  marker : List (List Char)
  data : List (List Char)
  tag_plain : PlainWord tag
  tag_head : '#' ∉ tag.head?
  timestamp_plain : PlainWord timestamp
  bus_solid : ∀ c ∈ bus, isWhitespace c = false
  device_solid : ∀ c ∈ device, isWhitespace c = false
  status_plain : PlainWord status
  marker_plain : ∀ word ∈ marker, PlainWord word
  data_payload : data.flatten = hexBytes submit.payload
  data_ne : ∀ word ∈ data, word ≠ []

/-- `{n:0widthx}` -/
def hexWord (width n : ℕ) : List Char := (Nat.toDigits 16 n).leftpad width '0'

namespace UsbSubmitLine

variable (line : UsbSubmitLine)

/-- the type and direction of the transfer, the bus, the device and the endpoint -/
def address : List Char :=
  let direction := if line.submit.inward then 'i' else 'o'
  match line.submit.setup with
  | .control _ _ _ _ => 'C' :: direction :: ':' :: line.bus ++ ':' :: line.device ++ [':', '0']
  | .bulk endpointNumber =>
    'B' :: direction :: ':' :: line.bus ++ ':' :: line.device ++ ':' :: Nat.toDigits 10 endpointNumber

def setupWords : List (List Char) :=
  match line.submit.setup with
  | .control requestType request value index =>
    [['s'], hexWord 2 requestType.toNat, hexWord 2 request.toNat, hexWord 4 value.toNat, hexWord 4 index.toNat,
      hexWord 4 line.submit.length]
  | .bulk _ => [line.status]

def payloadWords : List (List Char) := if line.submit.payload = [] then line.marker else ['='] :: line.data

def words : List (List Char) :=
  [line.tag, line.timestamp, ['S'], line.address] ++ line.setupWords ++
    Nat.toDigits 10 line.submit.length :: line.payloadWords

end UsbSubmitLine

/-- a line of a trace that is no submit -/
inductive OtherLine : List Char → Prop where
  | blank {line : List Char} (h : ∀ c ∈ line, isWhitespace c = true) : OtherLine line
  | comment {indent : List Char} (h : ∀ c ∈ indent, isWhitespace c = true) (text : List Char) :
    OtherLine (indent ++ '#' :: text)
  | completion {tag timestamp : List Char} {words : List (List Char)}
    (h : ∀ word ∈ tag :: timestamp :: ['C'] :: words, IsWord word) :
    OtherLine (unwords (tag :: timestamp :: ['C'] :: words))

inductive UsbTraceLine where
  | submit (line : UsbSubmitLine)
  | other (line : List Char) (h : OtherLine line) (hline : '\n' ∉ line)

def UsbTraceLine.text : UsbTraceLine → List Char
  | .submit line => unwords line.words
  | .other line _ _ => line

def UsbTraceLine.event : UsbTraceLine → Option UsbTraceEvent
  | .submit line => some line.submit.event
  | .other _ _ _ => none

/-! ## Digits -/

/-- letters and digits are no white space -/
theorem solid_of_range {c : Char} (hlow : 48 ≤ c.toNat) (hhigh : c.toNat ≤ 122) : isWhitespace c = false := by
  have hfalse : ¬ isWhitespace c = true := by
    simp only [isWhitespace, Bool.or_eq_true, Bool.and_eq_true, decide_eq_true_eq, beq_iff_eq]
    omega
  exact Bool.not_eq_true _ ▸ hfalse

theorem digit_range {radix digit : ℕ} {c : Char} (h : toDigit radix c = some digit) :
    48 ≤ c.toNat ∧ c.toNat ≤ 122 := by
  unfold toDigit at h
  split_ifs at h with h9 _ hz _ hZ
  · obtain ⟨hlow, hhigh⟩ := h9
    have hlow' : 48 ≤ c.toNat := hlow
    have hhigh' : c.toNat ≤ 57 := hhigh
    omega
  · obtain ⟨hlow, hhigh⟩ := hz
    have hlow' : 97 ≤ c.toNat := hlow
    have hhigh' : c.toNat ≤ 122 := hhigh
    omega
  · obtain ⟨hlow, hhigh⟩ := hZ
    have hlow' : 65 ≤ c.toNat := hlow
    have hhigh' : c.toNat ≤ 90 := hhigh
    omega

/-- digits make a word that announces nothing -/
theorem plainWord_of_digits {radix : ℕ} {word : List Char} (hne : word ≠ [])
    (h : ∀ c ∈ word, (toDigit radix c).isSome) : PlainWord word := by
  refine ⟨⟨hne, fun c hc => ?_⟩, ?_⟩
  · obtain ⟨digit, hdigit⟩ := Option.isSome_iff_exists.mp (h c hc)
    exact solid_of_range (digit_range hdigit).1 (digit_range hdigit).2
  · rintro rfl
    obtain ⟨digit, hdigit⟩ := Option.isSome_iff_exists.mp (h '=' List.mem_cons_self)
    unfold toDigit at hdigit
    exact absurd hdigit (by simp)

theorem hexWord_digits (width n : ℕ) : ∀ c ∈ hexWord width n, (toDigit 16 c).isSome := by
  intro c hc
  rw [hexWord, List.leftpad] at hc
  rcases List.mem_append.mp hc with hzero | hdigit
  · rw [List.eq_of_mem_replicate hzero]
    rfl
  · exact toDigits_digits (by decide) le_rfl c hdigit

theorem hexWord_ne_nil (width n : ℕ) : hexWord width n ≠ [] := by
  rw [hexWord, List.leftpad]
  exact fun h => Nat.toDigits_ne_nil (List.append_eq_nil_iff.mp h).2

theorem stripHexPrefix_digits {word : List Char} (h : ∀ c ∈ word, (toDigit 16 c).isSome) :
    stripHexPrefix word = word := by
  have hstrip : ∀ x : Char, toDigit 16 x = none → stripPrefix ['0', x] word = none := by
    intro x hx
    rw [stripPrefix, if_neg]
    intro hfront
    have hmem := (List.isPrefixOf_iff_prefix.mp hfront).subset (List.mem_cons_of_mem '0' List.mem_cons_self)
    have hdigit := h x hmem
    rw [hx] at hdigit
    cases hdigit
  rw [stripHexPrefix, hstrip 'x' (by decide), hstrip 'X' (by decide)]
  rfl

/-- a padded number is read back -/
theorem parseHex_hexWord {limit n : ℕ} (hn : n < limit) (width : ℕ) : parseHex limit (hexWord width n) = .ok n := by
  have hdigits := hexWord_digits width n
  rw [parseHex, stripHexPrefix_digits hdigits]
  obtain ⟨c, word, hword⟩ := List.exists_cons_of_ne_nil (hexWord_ne_nil width n)
  have hc := hdigits c (hword ▸ List.mem_cons_self)
  have hplus : c ≠ '+' := by
    rintro rfl
    exact absurd hc (by decide)
  have hminus : c ≠ '-' := by
    rintro rfl
    exact absurd hc (by decide)
  rw [hword, fromStrRadix_unsigned hplus hminus, ← hword, hexWord, List.leftpad, fromDigits_zeros (by omega),
    fromDigits_toDigits (by decide) le_rfl hn]
  rfl

theorem parseIsize_toDigits {n : ℕ} (hn : n < 2 ^ 63) : parseIsize (Nat.toDigits 10 n) = some (n : ℤ) := by
  have hdigits : ∀ c ∈ Nat.toDigits 10 n, (toDigit 10 c).isSome := toDigits_digits (by decide) (by decide)
  have hread := @fromDigits_toDigits 10 (2 ^ 63) n (by decide) (by decide) hn
  have hne : Nat.toDigits 10 n ≠ [] := Nat.toDigits_ne_nil
  generalize Nat.toDigits 10 n = word at hdigits hread hne
  unfold parseIsize
  split
  · exact absurd rfl hne
  · exact absurd (hdigits '+' List.mem_cons_self) (by decide)
  · exact absurd (hdigits '-' List.mem_cons_self) (by decide)
  · exact absurd (hdigits '+' List.mem_cons_self) (by decide)
  · exact absurd (hdigits '-' List.mem_cons_self) (by decide)
  · rw [hread]
    rfl

/-- what stands behind the last of the characters that do not satisfy `p` -/
theorem rtakeWhile_behind {p : Char → Bool} {c : Char} {last : List Char} (hc : p c = false)
    (hlast : ∀ d ∈ last, p d = true) (front : List Char) : (front ++ c :: last).rtakeWhile p = last := by
  induction last using List.reverseRecOn generalizing front with
  | nil => exact List.rtakeWhile_concat_neg p front c (by rw [hc]; decide)
  | append_singleton last d ih =>
    have hd := hlast d (List.mem_append_right last List.mem_cons_self)
    have happend : front ++ c :: (last ++ [d]) = front ++ c :: last ++ [d] := by simp
    rw [happend, List.rtakeWhile_concat_pos p _ d hd, ih fun e he => hlast e (List.mem_append_left [d] he)]

theorem parseUsbmonEndpoint_toDigits {endpoint : ℕ} (h : endpoint < 2 ^ 8) (front : List Char) :
    parseUsbmonEndpoint (front ++ ':' :: Nat.toDigits 10 endpoint) = .ok (UInt8.ofNat endpoint) := by
  have hlast : ∀ c ∈ Nat.toDigits 10 endpoint, decide (c ≠ ':') = true := by
    intro c hc
    refine decide_eq_true ?_
    rintro rfl
    exact notMem_toDigits (by decide) (by decide) (by decide) hc
  rw [parseUsbmonEndpoint, rtakeWhile_behind (by decide) hlast, fromStrRadix_toDigits (by decide) (by decide) h]

theorem hexBytes_digit {payload : List UInt8} :
    ∀ c ∈ hexBytes payload, isAsciiHexdigit c = true ∧ c.toLower = c := by
  have htable : ∀ d < 16, isAsciiHexdigit (Nat.digitChar d) = true ∧ (Nat.digitChar d).toLower = Nat.digitChar d := by
    decide
  intro c hc
  obtain ⟨byte, -, hc⟩ := List.mem_flatMap.mp hc
  have hbyte := byte.toNat_lt
  simp only [List.mem_cons, List.not_mem_nil, or_false] at hc
  rcases hc with rfl | rfl
  · exact htable _ (by omega)
  · exact htable _ (by omega)

/-! ## One line -/

theorem unwords_not_comment {tag : List Char} {words : List (List Char)} (htag : IsWord tag) (hhead : '#' ∉ tag.head?) :
    ((unwords (tag :: words)).isEmpty || (unwords (tag :: words)).head? == some '#') = false := by
  obtain ⟨c, text, hfirst, hc⟩ := @unwords_head tag words htag
  have hne : c ≠ '#' := by
    rintro rfl
    exact hhead hc
  rw [hfirst]
  simpa using hne

/-- of a submit line, the address says how to go on -/
theorem parseUsbmonLine_kind {tag timestamp address : List Char} {words rest : List (List Char)}
    (hwords : words = tag :: timestamp :: ['S'] :: address :: rest) (hword : ∀ word ∈ words, IsWord word)
    (hhead : '#' ∉ tag.head?) :
    parseUsbmonLine (unwords words) = parseSubmit address words := by
  subst hwords
  unfold parseUsbmonLine
  dsimp only
  rw [trim_unwords (List.cons_ne_nil _ _) hword, unwords_not_comment (hword _ List.mem_cons_self) hhead,
    splitWhitespace_unwords hword, if_neg Bool.false_ne_true]
  exact if_neg fun hkind : (['S'] : List Char) ≠ ['S'] => hkind rfl

namespace UsbSubmitLine

variable (line : UsbSubmitLine)

theorem setupWords_plain : ∀ word ∈ line.setupWords, PlainWord word := by
  intro word hword
  unfold setupWords at hword
  split at hword
  · have hhex : ∀ width n, PlainWord (hexWord width n) := fun width n =>
      plainWord_of_digits (hexWord_ne_nil width n) (hexWord_digits width n)
    rcases List.mem_cons.mp hword with rfl | hword
    · exact ⟨⟨by decide, by decide⟩, by decide⟩
    · simp only [List.mem_cons, List.not_mem_nil, or_false] at hword
      rcases hword with rfl | rfl | rfl | rfl | rfl <;> exact hhex _ _
  · rw [List.mem_singleton.mp hword]
    exact line.status_plain

theorem address_plain : PlainWord line.address := by
  have hdirection : isWhitespace (if line.submit.inward then 'i' else 'o') = false := by split <;> decide
  have hcolon : isWhitespace ':' = false := by decide
  have hdigits : ∀ n, ∀ c ∈ Nat.toDigits 10 n, isWhitespace c = false := fun n =>
    (plainWord_of_digits Nat.toDigits_ne_nil (toDigits_digits (by decide) (by decide))).1.2
  unfold address
  cases line.submit.setup with
  | control requestType request value index =>
    refine ⟨⟨List.cons_ne_nil _ _, ?_⟩, fun h => nomatch h⟩
    simp only [List.forall_mem_append, List.forall_mem_cons]
    exact ⟨⟨⟨by decide, hdirection, hcolon, line.bus_solid⟩, hcolon, line.device_solid⟩, hcolon, by decide, by simp⟩
  | bulk endpointNumber =>
    refine ⟨⟨List.cons_ne_nil _ _, ?_⟩, fun h => nomatch h⟩
    simp only [List.forall_mem_append, List.forall_mem_cons]
    exact ⟨⟨⟨by decide, hdirection, hcolon, line.bus_solid⟩, hcolon, line.device_solid⟩, hcolon, hdigits _⟩

/-- the words before those of the payload -/
def front : List (List Char) :=
  [line.tag, line.timestamp, ['S'], line.address] ++ line.setupWords ++ [Nat.toDigits 10 line.submit.length]

theorem words_eq : line.words = line.front ++ line.payloadWords := by
  simp only [words, front, List.append_assoc, List.singleton_append]

theorem front_plain : ∀ word ∈ line.front, PlainWord word := by
  have hlength : PlainWord (Nat.toDigits 10 line.submit.length) :=
    plainWord_of_digits Nat.toDigits_ne_nil (toDigits_digits (by decide) (by decide))
  have hkind : PlainWord ['S'] := ⟨⟨by decide, by decide⟩, by decide⟩
  simp only [front, List.forall_mem_append, List.forall_mem_cons]
  exact ⟨⟨⟨line.tag_plain, line.timestamp_plain, hkind, line.address_plain, by simp⟩, line.setupWords_plain⟩, hlength,
    by simp⟩

theorem data_digits : ∀ word ∈ line.data, ∀ c ∈ word, isAsciiHexdigit c = true := by
  intro word hword c hc
  have hmem : c ∈ hexBytes line.submit.payload := line.data_payload ▸ List.mem_flatten.mpr ⟨word, hword, hc⟩
  exact (hexBytes_digit c hmem).1

theorem payloadWords_word : ∀ word ∈ line.payloadWords, IsWord word := by
  unfold payloadWords
  split
  · intro word hword
    exact (line.marker_plain word hword).1
  · intro word hword
    rcases List.mem_cons.mp hword with rfl | hword
    · exact ⟨by decide, by decide⟩
    · exact (plainWord_of_digits (line.data_ne word hword) (line.data_digits word hword)).1

theorem words_word : ∀ word ∈ line.words, IsWord word := by
  rw [words_eq]
  exact List.forall_mem_append.mpr ⟨fun word hword => (line.front_plain word hword).1, line.payloadWords_word⟩

/-- **The payload** is read back from its words, however it is cut. -/
theorem parseUsbmonDataHex_words : parseUsbmonDataHex line.words = line.submit.event.dataHex := by
  have hevent : line.submit.event.dataHex =
      if line.submit.payload = [] then none else some (String.ofList (hexBytes line.submit.payload)) := by
    unfold UsbSubmit.event
    cases line.submit.setup <;> rfl
  have hfront : line.words.dropWhile (· ≠ ['=']) = line.payloadWords.dropWhile (· ≠ ['=']) := by
    rw [words_eq]
    exact List.dropWhile_append_of_pos fun word hword => decide_eq_true (line.front_plain word hword).2
  rw [parseUsbmonDataHex, hfront, hevent, payloadWords]
  split_ifs with hnone
  · have hmarker : line.marker.dropWhile (· ≠ ['=']) = [] :=
      List.dropWhile_eq_nil_iff.mpr fun word hword => decide_eq_true (line.marker_plain word hword).2
    rw [hmarker]
  · have hwords : (['='] :: line.data).dropWhile (· ≠ ['=']) = ['='] :: line.data :=
      List.dropWhile_cons_of_neg (by decide)
    have hdata : line.data.takeWhile (fun word => word.all isAsciiHexdigit) = line.data :=
      List.takeWhile_eq_self_iff.mpr fun word hword => List.all_eq_true.mpr (line.data_digits word hword)
    have hlower : (hexBytes line.submit.payload).map Char.toLower = hexBytes line.submit.payload := by
      conv_rhs => rw [← List.map_id (hexBytes line.submit.payload)]
      exact List.map_congr_left fun c hc => (hexBytes_digit c hc).2
    have hne : hexBytes line.submit.payload ≠ [] := by
      obtain ⟨byte, payload, hpayload⟩ := List.exists_cons_of_ne_nil hnone
      rw [hpayload, hexBytes, List.flatMap_cons]
      exact List.cons_ne_nil _ _
    rw [hwords]
    dsimp only
    rw [hdata, line.data_payload, hlower, if_neg hne]

theorem parseControlSetup_words (kind : UsbTraceKind) (requestType request : UInt8) (value index : UInt16)
    {length : ℕ} (hlength : length < 2 ^ 63) (dataHex : Option String) :
    parseControlSetup kind (hexWord 2 requestType.toNat) (hexWord 2 request.toNat) (hexWord 4 value.toNat)
        (hexWord 4 index.toNat) (hexWord 4 length) dataHex =
      .ok ⟨kind, none, some requestType, some request, some value, some index, some length, dataHex⟩ := by
  have h8 : ∀ n : UInt8, parseHexU8 (hexWord 2 n.toNat) = .ok n := fun n => by
    rw [parseHexU8, parseHex_hexWord n.toNat_lt]
    exact congrArg Except.ok (UInt8.ofNat_toNat)
  have h16 : ∀ n : UInt16, parseHexU16 (hexWord 4 n.toNat) = .ok n := fun n => by
    rw [parseHexU16, parseHex_hexWord n.toNat_lt]
    exact congrArg Except.ok (UInt16.ofNat_toNat)
  have husize : parseHexUsize (hexWord 4 length) = .ok length := parseHex_hexWord (by omega) 4
  rw [parseControlSetup, h8, h8, h16, h16, husize]
  rfl

theorem direction_letter (inward outward : UsbTraceKind) (address : List Char) :
    usbmonDirection inward outward ((if line.submit.inward then 'i' else 'o') :: address) =
      some (if line.submit.inward then inward else outward) := by
  cases line.submit.inward <;> rfl

theorem parseControlSubmit_words {requestType request : UInt8} {value index : UInt16}
    (hsetup : line.submit.setup = .control requestType request value index) (address : List Char) :
    parseControlSubmit ((if line.submit.inward then 'i' else 'o') :: address) line.words = .event line.submit.event := by
  have hwords : line.words = line.tag :: line.timestamp :: ['S'] :: line.address :: ['s'] ::
      hexWord 2 requestType.toNat :: hexWord 2 request.toNat :: hexWord 4 value.toNat :: hexWord 4 index.toNat ::
      hexWord 4 line.submit.length :: Nat.toDigits 10 line.submit.length :: line.payloadWords := by
    rw [words, setupWords, hsetup]
    rfl
  have hevent : line.submit.event = ⟨if line.submit.inward then .controlRead else .controlWrite, none, some requestType,
      some request, some value, some index, some line.submit.length, line.submit.event.dataHex⟩ := by
    rw [UsbSubmit.event, hsetup]
  unfold parseControlSubmit
  rw [parseUsbmonDataHex_words, hwords]
  dsimp only
  rw [if_neg (by decide), direction_letter]
  dsimp only
  rw [parseControlSetup_words _ _ _ _ _ line.submit.length_lt]
  dsimp only
  rw [hevent]

theorem parseBulkSubmit_words {endpointNumber : Fin 16} (hsetup : line.submit.setup = .bulk endpointNumber)
    (address : List Char) :
    parseBulkSubmit ((if line.submit.inward then 'i' else 'o') :: address) line.address line.words =
      .event line.submit.event := by
  have hwords : line.words = line.tag :: line.timestamp :: ['S'] :: line.address :: line.status ::
      Nat.toDigits 10 line.submit.length :: line.payloadWords := by
    rw [words, setupWords, hsetup]
    rfl
  have haddress : line.address = ('B' :: (if line.submit.inward then 'i' else 'o') :: ':' :: line.bus ++
      ':' :: line.device) ++ ':' :: Nat.toDigits 10 endpointNumber := by
    rw [UsbSubmitLine.address, hsetup]
  have hlength : findUsbmonBulkLength line.words = some line.submit.length := by
    rw [findUsbmonBulkLength, hwords, List.drop_succ_cons, List.drop_succ_cons, List.drop_succ_cons,
      List.drop_succ_cons, List.drop_succ_cons, List.drop_zero, List.findSome?_cons,
      parseIsize_toDigits line.submit.length_lt]
    have hfilter : (some (line.submit.length : ℤ)).filter (fun value => decide (0 ≤ value)) =
        some (line.submit.length : ℤ) := by simp
    rw [hfilter]
    rfl
  have hendpoint := endpointNumber.isLt
  unfold parseBulkSubmit
  rw [direction_letter, haddress, parseUsbmonEndpoint_toDigits (by omega), hlength, parseUsbmonDataHex_words,
    UsbSubmit.event, hsetup]
  dsimp only
  cases line.submit.inward <;> rfl

/-- **One line.** A submit line gives back its submit. -/
theorem parseUsbmonLine_submit : parseUsbmonLine (unwords line.words) = .event line.submit.event := by
  have hwords : line.words = line.tag :: line.timestamp :: ['S'] :: line.address ::
      (line.setupWords ++ Nat.toDigits 10 line.submit.length :: line.payloadWords) := rfl
  rw [parseUsbmonLine_kind hwords line.words_word line.tag_head]
  cases hsetup : line.submit.setup with
  | control requestType request value index =>
    have haddress : line.address = 'C' :: (if line.submit.inward then 'i' else 'o') ::
        (':' :: line.bus ++ ':' :: line.device ++ [':', '0']) := by
      rw [address, hsetup]
      rfl
    rw [haddress]
    exact line.parseControlSubmit_words hsetup _
  | bulk endpointNumber =>
    have haddress : line.address = 'B' :: (if line.submit.inward then 'i' else 'o') ::
        (':' :: line.bus ++ ':' :: line.device ++ ':' :: Nat.toDigits 10 endpointNumber) := by
      rw [address, hsetup]
      rfl
    have hbulk := line.parseBulkSubmit_words hsetup
      (':' :: line.bus ++ ':' :: line.device ++ ':' :: Nat.toDigits 10 endpointNumber)
    rw [haddress] at hbulk ⊢
    exact hbulk

end UsbSubmitLine

theorem trim_blank {line : List Char} (h : ∀ c ∈ line, isWhitespace c = true) : trim line = [] := by
  rw [trim, List.dropWhile_eq_nil_iff.mpr h]
  rfl

theorem trim_comment {indent : List Char} (h : ∀ c ∈ indent, isWhitespace c = true) (text : List Char) :
    ∃ rest, trim (indent ++ '#' :: text) = '#' :: rest := by
  have hhash : isWhitespace '#' = false := by decide
  have hdrop : (indent ++ '#' :: text).dropWhile isWhitespace = '#' :: text := by
    rw [List.dropWhile_append_of_pos h, List.dropWhile_cons_of_neg (by rw [hhash]; decide)]
  rw [trim, hdrop]
  clear hdrop
  induction text using List.reverseRecOn with
  | nil => exact ⟨[], List.rdropWhile_concat_neg isWhitespace [] '#' (by rw [hhash]; decide)⟩
  | append_singleton text c ih =>
    rw [← List.cons_append]
    by_cases hc : isWhitespace c = true
    · rw [List.rdropWhile_concat_pos isWhitespace _ c hc]
      exact ih
    · rw [List.rdropWhile_concat_neg isWhitespace _ c hc]
      exact ⟨text ++ [c], rfl⟩

theorem OtherLine.ignored {line : List Char} (h : OtherLine line) : parseUsbmonLine line = .ignored := by
  unfold parseUsbmonLine
  cases h with
  | blank hblank =>
    rw [trim_blank hblank]
    rfl
  | comment hindent text =>
    obtain ⟨rest, htrim⟩ := trim_comment hindent text
    rw [htrim]
    rfl
  | @completion tag timestamp words hwords =>
    dsimp only
    rw [trim_unwords (List.cons_ne_nil _ _) hwords, splitWhitespace_unwords hwords]
    split
    · rfl
    · cases words with
      | nil => rfl
      | cons address rest => exact if_pos (by decide)

theorem forall_mem_chompCr {p : Char → Prop} {line : List Char} (h : ∀ c ∈ line, p c) : ∀ c ∈ chompCr line, p c := by
  unfold chompCr
  split
  · exact fun c hc => h c (List.dropLast_subset line hc)
  · exact h

/-- what `lines` leaves of such a line is one, too -/
theorem OtherLine.chomped {line : List Char} (h : OtherLine line) : OtherLine (chompCr line) := by
  cases h with
  | blank hblank => exact .blank (forall_mem_chompCr hblank)
  | @comment indent hindent text =>
    induction text using List.reverseRecOn with
    | nil =>
      rw [chompCr_of_ne (by rw [List.getLast?_concat]; decide)]
      exact .comment hindent []
    | append_singleton text c _ =>
      have hassoc : indent ++ '#' :: (text ++ [c]) = (indent ++ '#' :: text) ++ [c] := by simp
      by_cases hc : c = '\r'
      · rw [hassoc, hc, chompCr_return]
        exact .comment hindent text
      · rw [chompCr_of_ne (by rw [hassoc, List.getLast?_concat]; exact fun h => hc (Option.some.inj h))]
        exact .comment hindent (text ++ [c])
  | completion hwords =>
    rw [chompCr_unwords (List.cons_ne_nil _ _) hwords]
    exact .completion hwords

/-! ## Whole traces -/

/-- **Every line is accounted for.** -/
theorem import_total (input : List Char) :
    (importUsbmonText input).events.length + (importUsbmonText input).ignoredLines +
      (importUsbmonText input).errors.length = (lines input).length := by
  have hstep : ∀ (entries : List (List Char × ℕ)) (imported : UsbTraceImport),
      (entries.foldl importLine imported).events.length + (entries.foldl importLine imported).ignoredLines +
          (entries.foldl importLine imported).errors.length =
        imported.events.length + imported.ignoredLines + imported.errors.length + entries.length := by
    intro entries
    induction entries with
    | nil => exact fun _ => rfl
    | cons entry entries ih =>
      intro imported
      rw [List.foldl_cons, ih, List.length_cons]
      unfold importLine
      split
      · simp only [List.length_append, List.length_singleton]
        omega
      · dsimp only
        omega
      · simp only [List.length_append, List.length_singleton]
        omega
  rw [importUsbmonText, hstep, List.length_zipIdx]
  simp

/-- the lines of a written trace, as they are read -/
theorem lines_trace (trace : List UsbTraceLine) :
    lines (unlines (trace.map UsbTraceLine.text)) = trace.map fun line => chompCr line.text := by
  rw [lines_unlines, List.map_map]
  · rfl
  · intro text htext
    obtain ⟨line, -, rfl⟩ := List.mem_map.mp htext
    cases line with
    | submit line => exact newline_notMem_unwords line.words_word
    | other line h hline => exact hline

theorem parseUsbmonLine_trace (line : UsbTraceLine) :
    parseUsbmonLine (chompCr line.text) = line.event.elim .ignored .event := by
  cases line with
  | submit line =>
    have hne : line.words ≠ [] := List.cons_ne_nil _ _
    rw [UsbTraceLine.text, chompCr_unwords hne line.words_word]
    exact line.parseUsbmonLine_submit
  | other line h hline => exact h.chomped.ignored

theorem import_trace (trace : List UsbTraceLine) :
    importUsbmonText (unlines (trace.map UsbTraceLine.text)) =
      ⟨trace.filterMap UsbTraceLine.event, trace.countP (·.event.isNone), []⟩ := by
  have hstep : ∀ (trace : List UsbTraceLine) (events : List UsbTraceEvent) (ignored number : ℕ),
      ((trace.map fun line => chompCr line.text).zipIdx number).foldl importLine ⟨events, ignored, []⟩ =
        ⟨events ++ trace.filterMap UsbTraceLine.event, ignored + trace.countP (·.event.isNone), []⟩ := by
    intro trace
    induction trace with
    | nil =>
      intro events ignored number
      simp
    | cons line trace ih =>
      intro events ignored number
      rw [List.map_cons, List.zipIdx_cons, List.foldl_cons, importLine, parseUsbmonLine_trace]
      cases hevent : line.event with
      | none =>
        dsimp only [Option.elim]
        rw [ih, List.filterMap_cons_none hevent, List.countP_cons_of_pos (by rw [hevent]; rfl)]
        congr 1
        omega
      | some event =>
        dsimp only [Option.elim]
        rw [ih, List.filterMap_cons_some hevent, List.countP_cons_of_neg (by rw [hevent]; exact Bool.false_ne_true),
          List.append_assoc]
        rfl
  rw [importUsbmonText, lines_trace, hstep, List.nil_append, Nat.zero_add]

theorem compareEvent_self (eventIndex : ℕ) (event : UsbTraceEvent) : compareEvent eventIndex event event = [] := by
  simp [compareEvent, pushMismatch]

theorem compare_self (events : List UsbTraceEvent) : (compareUsbTraces events events).result = .pass := by
  have hmismatches : ((events.zip events).zipIdx.flatMap fun ((expected, observed), idx) =>
      compareEvent idx expected observed) = [] := by
    rw [List.flatMap_eq_nil_iff]
    rintro ⟨⟨expected, observed⟩, idx⟩ hmem
    have hzip := List.fst_mem_of_mem_zipIdx hmem
    rw [List.zip_eq_zipWith, List.zipWith_self] at hzip
    obtain ⟨event, -, hpair⟩ := List.mem_map.mp hzip
    obtain ⟨rfl, rfl⟩ := Prod.mk.inj hpair
    exact compareEvent_self idx event
  simp only [compareUsbTraces]
  rw [hmismatches]
  simp

/-- **Round trip.** A trace that is written, whatever stands between its submits, is imported again: its events in
order, no error, and the other lines passed over. It compares equal to what was written. Of any text at all, no line is
forgotten. -/
theorem usbmon_roundtrip :
    (∀ trace : List UsbTraceLine,
      importUsbmonText (unlines (trace.map UsbTraceLine.text)) =
          ⟨trace.filterMap UsbTraceLine.event, trace.countP (·.event.isNone), []⟩ ∧
        (compareUsbTraces (trace.filterMap UsbTraceLine.event)
          (importUsbmonText (unlines (trace.map UsbTraceLine.text))).events).result = .pass) ∧
    ∀ input, (importUsbmonText input).events.length + (importUsbmonText input).ignoredLines +
      (importUsbmonText input).errors.length = (lines input).length := by
  refine ⟨fun trace => ⟨import_trace trace, ?_⟩, import_total⟩
  rw [import_trace]
  exact compare_self _

/-- a register that is written: `ffff 0 S Co:1:004:0 s 40 05 0cb0 0000 0004 4 = 17773354` -/
def sampleControlWrite : UsbSubmitLine where
  submit := ⟨false, .control 0x40 0x05 0x0cb0 0x0000, 4, by decide, [0x17, 0x77, 0x33, 0x54]⟩
  tag := ['f', 'f', 'f', 'f']
  timestamp := ['0']
  bus := ['1']
  device := ['0', '0', '4']
  status := ['0']
  marker := []
  data := [['1', '7', '7', '7', '3', '3', '5', '4']]
  tag_plain := by decide
  tag_head := by decide
  timestamp_plain := by decide
  bus_solid := by decide
  device_solid := by decide
  status_plain := by decide
  marker_plain := by decide
  data_payload := by decide
  data_ne := by decide

/-- a bulk IN whose payload is not known yet: `ffff 1 S Bi:1:004:1 -115 512 <` -/
def sampleBulkIn : UsbSubmitLine where
  submit := ⟨true, .bulk 1, 512, by decide, []⟩
  tag := ['f', 'f', 'f', 'f']
  timestamp := ['1']
  bus := ['1']
  device := ['0', '0', '4']
  status := ['-', '1', '1', '5']
  marker := [['<']]
  data := []
  tag_plain := by decide
  tag_head := by decide
  timestamp_plain := by decide
  bus_solid := by decide
  device_solid := by decide
  status_plain := by decide
  marker_plain := by decide
  data_payload := by decide
  data_ne := by decide

/-- the end of the bulk IN: `ffff 1 C Bi:1:004:1 0` -/
theorem completionWords_word : ∀ word ∈ ['f', 'f', 'f', 'f'] :: ['1'] :: ['C'] ::
    [['B', 'i', ':', '1', ':', '0', '0', '4', ':', '1'], ['0']], IsWord word := by
  unfold IsWord
  decide

/-- the two submits, with a comment behind one and a completion behind the other -/
def sampleTrace : List UsbTraceLine :=
  [.submit sampleControlWrite,
    .other ['#', 'r', 'f', 'e'] (.comment (by decide : ∀ c ∈ [], isWhitespace c = true) ['r', 'f', 'e']) (by decide),
    .submit sampleBulkIn,
    .other _ (.completion completionWords_word) (by decide)]

theorem usbmon_roundtrip_sample :
    sampleControlWrite.words = [['f', 'f', 'f', 'f'], ['0'], ['S'], ['C', 'o', ':', '1', ':', '0', '0', '4', ':', '0'],
        ['s'], ['4', '0'], ['0', '5'], ['0', 'c', 'b', '0'], ['0', '0', '0', '0'], ['0', '0', '0', '4'], ['4'], ['='],
        ['1', '7', '7', '7', '3', '3', '5', '4']] ∧
      importUsbmonText (unlines (sampleTrace.map UsbTraceLine.text)) =
        ⟨[sampleControlWrite.submit.event, sampleBulkIn.submit.event], 2, []⟩ :=
  ⟨by decide, (usbmon_roundtrip.1 sampleTrace).1⟩

end WfbLink.RadioCore
