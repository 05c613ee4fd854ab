/-
The aggregator of the tunnel bridge (`Aggregator` in `wfb-tun/src/lib.rs`).

Packets read from the tunnel interface are collected into one message until the message is full or its deadline has
passed. The aggregator refines a `Batcher` of packets with the times they were added (`Refines`): its messages are the
encoded closed batches, and what it holds is the encoded pending items.

- `step_refines`, `run_refines`: one operation, and any sequence of operations.
- `aggregator_run`: over any interleaving of the three operations, the messages carry exactly the packets added.
- `add_keepsPending_iff`: an `add` that fails keeps what is pending, unless the packet is too long for its length field
  and there is no room left for it.
-/
import WfbLink.Core.Batch
import WfbLink.Tunnel.Message

namespace WfbLink.Tunnel

open WfbLink.Core

inductive TunError where
  | io (context source : String)
  | unsupportedIpVersion (version : ℕ)
  | unsupportedAddressFamily (family : ℕ)
  | packetRecordTooLarge (recordLen maxSize : ℕ)
  | utunFrameTooShort
  | emptyIpPacket
  | partialUtunWrite (wrote expected : ℕ)
deriving DecidableEq, Repr

def TunError.message : TunError → String
  | .io context source => s!"{context}: {source}"
  | .unsupportedIpVersion version => s!"unsupported IP version {version}"
  | .unsupportedAddressFamily family => s!"unsupported utun address family {family}"
  | .packetRecordTooLarge recordLen maxSize => s!"packet record exceeds aggregate MTU: {recordLen} > {maxSize}"
  | .utunFrameTooShort => "utun frame too short"
  | .emptyIpPacket => "empty IP packet"
  | .partialUtunWrite wrote expected => s!"partial utun write: wrote {wrote} of {expected} bytes"

/-- times are nanoseconds on the monotonic clock -/
structure Aggregator where
  maxSize : ℕ
  timeout : ℕ
  parts : List UInt8
  deadline : Option ℕ
deriving DecidableEq, Repr

namespace Aggregator

def new (maxSize timeout : ℕ) : Aggregator := { maxSize, timeout, parts := [], deadline := none }

/-- what is held, and the aggregator without it -/
def flush (self : Aggregator) : List UInt8 × Aggregator := (self.parts, { self with parts := [], deadline := none })

def add (self : Aggregator) (packet : List UInt8) (now : ℕ) : Except TunError (List (List UInt8)) × Aggregator :=
  let recordLen := packet.length + 2
  if recordLen > self.maxSize then (.error (.packetRecordTooLarge recordLen self.maxSize), self)
  else
    let (out, self) :=
      if self.parts ≠ [] ∧ self.parts.length + recordLen > self.maxSize then ([self.flush.1], self.flush.2)
      else ([], self)
    if packet.length ≥ 2 ^ 16 then (.error (.packetRecordTooLarge recordLen self.maxSize), self)
    else
      let self := { self with parts := self.parts ++ encodeRecord packet }
      if self.timeout = 0 then (.ok ((out ++ [self.flush.1]).filter (· ≠ [])), self.flush.2)
      else
        let deadline := if self.deadline = none then some (now + self.timeout) else self.deadline
        (.ok (out.filter (· ≠ [])), { self with deadline })

def flushDue (self : Aggregator) (now : ℕ) : Option (List UInt8) × Aggregator :=
  if ∃ deadline ∈ self.deadline, now ≥ deadline then
    if self.flush.1 = [] then (none, self.flush.2) else (some self.flush.1, self.flush.2)
  else (none, self)

end Aggregator

/-- what a caller sends of a flush -/
def nonempty (message : List UInt8) : Option (List UInt8) := if message = [] then none else some message

/-! ## Interleavings -/

inductive AggregatorOp where
  | add (packet : List UInt8) (now : ℕ)
  | flushDue (now : ℕ)
  | flush
deriving DecidableEq, Repr

/-- one operation, with the messages it emits -/
def Aggregator.step (self : Aggregator) : AggregatorOp → Except TunError (List (List UInt8)) × Aggregator
  | .add packet now => self.add packet now
  | .flushDue now => (.ok (self.flushDue now).1.toList, (self.flushDue now).2)
  | .flush => (.ok (nonempty self.flush.1).toList, self.flush.2)

def Aggregator.run (self : Aggregator) : List AggregatorOp → Except TunError (List (List UInt8)) × Aggregator
  | [] => (.ok [], self)
  | op :: ops =>
    match self.step op with
    | (.error error, self) => (.error error, self)
    | (.ok messages, self) =>
      match self.run ops with
      | (.error error, self) => (.error error, self)
      | (.ok rest, self) => (.ok (messages ++ rest), self)

/-- the packets that are added, with the times they are added at -/
def AggregatorOp.adds : List AggregatorOp → List (List UInt8 × ℕ)
  | [] => []
  | .add packet now :: ops => (packet, now) :: adds ops
  | _ :: ops => adds ops

/-! ## The aggregator is a batcher -/

/-- the message of a batch -/
def encodeBatch (batch : List (List UInt8 × ℕ)) : List UInt8 := encodeRecords (batch.map Prod.fst)

/-- a packet that can be sent on its own -/
def Fits (maxSize : ℕ) (packet : List UInt8) : Prop := packet.length + 2 ≤ maxSize ∧ packet.length < 2 ^ 16

structure Refines (agg : Aggregator) (messages : List (List UInt8)) (b : Batcher (List UInt8 × ℕ)) : Prop where
  messages_eq : messages = b.closed.map encodeBatch
  parts_eq : agg.parts = encodeBatch b.pending
  closed_ok : ∀ batch ∈ b.closed, batch ≠ [] ∧ (encodeBatch batch).length ≤ agg.maxSize
  parts_le : agg.parts.length ≤ agg.maxSize
  deadline_eq : agg.deadline = if agg.timeout = 0 then none else b.pending.head?.map (·.2 + agg.timeout)

theorem encodeBatch_nil : encodeBatch [] = [] := rfl

theorem encodeBatch_eq_nil {batch : List (List UInt8 × ℕ)} : encodeBatch batch = [] ↔ batch = [] := by
  refine ⟨fun h => ?_, fun h => by rw [h, encodeBatch_nil]⟩
  by_contra hne
  exact encodeRecords_ne_nil (by simpa using hne) h

theorem encodeBatch_push (batch : List (List UInt8 × ℕ)) (packet : List UInt8) (now : ℕ) :
    encodeBatch (batch ++ [(packet, now)]) = encodeBatch batch ++ encodeRecord packet := by
  rw [encodeBatch, List.map_append, encodeRecords_append]
  simp [encodeBatch, encodeRecords]

theorem new_refines (maxSize timeout : ℕ) : Refines (Aggregator.new maxSize timeout) [] {} := by
  refine ⟨rfl, rfl, nofun, Nat.zero_le _, ?_⟩
  by_cases h : (Aggregator.new maxSize timeout).timeout = 0
  · rw [if_pos h]; rfl
  · rw [if_neg h]; rfl

variable {self : Aggregator} {messages : List (List UInt8)} {b : Batcher (List UInt8 × ℕ)}

/-- flushing closes the batch and emits it, if there is anything in it -/
theorem flush_refines (h : Refines self messages b) :
    Refines self.flush.2 (messages ++ (nonempty self.flush.1).toList) b.close := by
  have hparts : self.flush.1 = encodeBatch b.pending := h.parts_eq
  refine ⟨?_, ?_, ?_, Nat.zero_le _, ?_⟩
  · rw [h.messages_eq, hparts, nonempty]
    by_cases hpending : b.pending = []
    · rw [if_pos (encodeBatch_eq_nil.2 hpending), Batcher.close_of_nil hpending]
      exact List.append_nil _
    · rw [if_neg fun hnil => hpending (encodeBatch_eq_nil.1 hnil), Batcher.close_closed hpending, List.map_append]
      rfl
  · rw [Batcher.close_pending, encodeBatch_nil]; rfl
  · refine Batcher.forall_close h.closed_ok fun hpending => ⟨hpending, ?_⟩
    rw [← h.parts_eq]
    exact h.parts_le
  · rw [Batcher.close_pending]
    split_ifs <;> rfl

/-- appending a record to what is held, with the deadline that goes with it -/
theorem push_refines (h : Refines self messages b) {packet : List UInt8} (now : ℕ)
    (hroom : self.parts.length + (packet.length + 2) ≤ self.maxSize) :
    Refines { self with
      parts := self.parts ++ encodeRecord packet
      deadline := if self.timeout = 0 then self.deadline
        else if self.deadline = none then some (now + self.timeout) else self.deadline } messages
      (b.push (packet, now)) := by
  refine ⟨h.messages_eq, ?_, h.closed_ok, ?_, ?_⟩
  · rw [Batcher.push_pending, encodeBatch_push, ← h.parts_eq]
  · rw [List.length_append, encodeRecord_length]
    exact hroom
  · dsimp only
    rw [h.deadline_eq, Batcher.push_pending]
    by_cases htimeout : self.timeout = 0
    · rw [if_pos htimeout, if_pos htimeout, if_pos htimeout]
    · rw [if_neg htimeout, if_neg htimeout, if_neg htimeout]
      cases b.pending with
      | nil => rfl
      | cons oldest rest => rfl

theorem filter_ne_nil (message : List UInt8) : [message].filter (· ≠ []) = (nonempty message).toList := by
  by_cases h : message = []
  · rw [nonempty, if_pos h, h]; rfl
  · rw [nonempty, if_neg h]
    simp [h]

/-- one `add` of a packet that fits: at most a flush, a push, and a flush where nothing is to wait -/
theorem add_refines (h : Refines self messages b) {packet : List UInt8} (hfits : Fits self.maxSize packet) (now : ℕ) :
    ∃ out, (self.add packet now).1 = .ok out ∧ (self.add packet now).2.maxSize = self.maxSize ∧
      (self.add packet now).2.timeout = self.timeout ∧
      ∃ b', b'.items = b.items ++ [(packet, now)] ∧ Refines (self.add packet now).2 (messages ++ out) b' := by
  have hsize : ¬ packet.length + 2 > self.maxSize := Nat.not_lt.2 hfits.1
  have hlen : ¬ packet.length ≥ 2 ^ 16 := Nat.not_le.2 hfits.2
  -- after the flush that makes room: `self₁` and the messages `out₁`
  obtain ⟨self₁, out₁, hsplit, hmax, htimeout, hroom, b₁, hitems, href⟩ : ∃ self₁ out₁,
      (if self.parts ≠ [] ∧ self.parts.length + (packet.length + 2) > self.maxSize
        then ([self.flush.1], self.flush.2) else ([], self)) = (out₁, self₁) ∧
      self₁.maxSize = self.maxSize ∧ self₁.timeout = self.timeout ∧
      self₁.parts.length + (packet.length + 2) ≤ self₁.maxSize ∧
      ∃ b₁, b₁.items = b.items ∧ Refines self₁ (messages ++ out₁.filter (· ≠ [])) b₁ := by
    by_cases hfull : self.parts ≠ [] ∧ self.parts.length + (packet.length + 2) > self.maxSize
    · rw [if_pos hfull]
      refine ⟨_, _, rfl, rfl, rfl, ?_, b.close, b.items_close, ?_⟩
      · rw [Aggregator.flush]
        simpa using hfits.1
      · rw [filter_ne_nil]
        exact flush_refines h
    · rw [if_neg hfull]
      refine ⟨_, _, rfl, rfl, rfl, ?_, b, rfl, ?_⟩
      · by_cases hempty : self.parts = []
        · rw [hempty]
          simpa using hfits.1
        · exact Nat.not_lt.1 fun hgt => hfull ⟨hempty, hgt⟩
      · simpa using h
  have hpush := push_refines href now hroom
  rw [Aggregator.add]
  simp only [if_neg hsize, hsplit, if_neg hlen]
  by_cases hzero : self₁.timeout = 0
  · -- nothing waits: the record is flushed at once
    rw [if_pos hzero] at hpush
    simp only [if_pos hzero]
    refine ⟨_, rfl, hmax, htimeout, (b₁.push (packet, now)).close, ?_, ?_⟩
    · rw [Batcher.items_close, Batcher.items_push, hitems]
    · rw [List.filter_append, ← List.append_assoc, filter_ne_nil]
      exact flush_refines hpush
  · rw [if_neg hzero] at hpush
    simp only [if_neg hzero]
    refine ⟨_, rfl, hmax, htimeout, b₁.push (packet, now), ?_, hpush⟩
    rw [Batcher.items_push, hitems]

/-- a packet that does not fit is refused -/
theorem add_unfit {packet : List UInt8} (hunfit : ¬ Fits self.maxSize packet) (now : ℕ) :
    ∃ e, (self.add packet now).1 = .error e := by
  rw [Aggregator.add]
  by_cases hsize : packet.length + 2 > self.maxSize
  · exact ⟨_, by rw [if_pos hsize]⟩
  · have hlen : packet.length ≥ 2 ^ 16 := Nat.not_lt.1 fun hlt => hunfit ⟨Nat.not_lt.1 hsize, hlt⟩
    simp only [if_neg hsize, if_pos hlen]
    exact ⟨_, rfl⟩

/-- what was emitted is never an empty message -/
theorem Refines.nonempty_messages (h : Refines self messages b) : ∀ message ∈ messages, message ≠ [] := by
  intro message hmessage
  rw [h.messages_eq] at hmessage
  obtain ⟨batch, hbatch, rfl⟩ := List.mem_map.1 hmessage
  exact fun hnil => (h.closed_ok batch hbatch).1 (encodeBatch_eq_nil.1 hnil)

theorem flushDue_refines (h : Refines self messages b) (now : ℕ) :
    (self.flushDue now).2.maxSize = self.maxSize ∧ (self.flushDue now).2.timeout = self.timeout ∧
      ∃ b', b'.items = b.items ∧ Refines (self.flushDue now).2 (messages ++ (self.flushDue now).1.toList) b' := by
  have hflush := flush_refines h
  rw [Aggregator.flushDue]
  by_cases hdue : ∃ deadline ∈ self.deadline, now ≥ deadline
  · rw [if_pos hdue]
    by_cases hempty : self.flush.1 = []
    · rw [nonempty, if_pos hempty] at hflush
      rw [if_pos hempty]
      exact ⟨rfl, rfl, b.close, b.items_close, hflush⟩
    · rw [nonempty, if_neg hempty] at hflush
      rw [if_neg hempty]
      exact ⟨rfl, rfl, b.close, b.items_close, hflush⟩
  · rw [if_neg hdue]
    exact ⟨rfl, rfl, b, rfl, by simpa using h⟩

/-- **One operation.** -/
theorem step_refines (h : Refines self messages b) (op : AggregatorOp)
    (hfits : ∀ x ∈ AggregatorOp.adds [op], Fits self.maxSize x.1) :
    ∃ out, (self.step op).1 = .ok out ∧ (self.step op).2.maxSize = self.maxSize ∧
      (self.step op).2.timeout = self.timeout ∧
      ∃ b', b'.items = b.items ++ AggregatorOp.adds [op] ∧ Refines (self.step op).2 (messages ++ out) b' := by
  cases op with
  | add packet now => exact add_refines h (hfits (packet, now) List.mem_cons_self) now
  | flushDue now =>
    obtain ⟨hmax, htimeout, b', hitems, href⟩ := flushDue_refines h now
    exact ⟨_, rfl, hmax, htimeout, b', hitems.trans (List.append_nil _).symm, href⟩
  | flush => exact ⟨_, rfl, rfl, rfl, b.close, b.items_close.trans (List.append_nil _).symm, flush_refines h⟩

theorem adds_cons (op : AggregatorOp) (ops : List AggregatorOp) :
    AggregatorOp.adds (op :: ops) = AggregatorOp.adds [op] ++ AggregatorOp.adds ops := by
  cases op <;> rfl

/-- **Any sequence of operations.** -/
theorem run_refines (ops : List AggregatorOp) (h : Refines self messages b)
    (hfits : ∀ x ∈ AggregatorOp.adds ops, Fits self.maxSize x.1) :
    ∃ out, (self.run ops).1 = .ok out ∧ (self.run ops).2.maxSize = self.maxSize ∧
      (self.run ops).2.timeout = self.timeout ∧
      ∃ b', b'.items = b.items ++ AggregatorOp.adds ops ∧ Refines (self.run ops).2 (messages ++ out) b' := by
  induction ops generalizing self messages b with
  | nil => exact ⟨[], rfl, rfl, rfl, b, (List.append_nil _).symm, by simpa [Aggregator.run] using h⟩
  | cons op ops ih =>
    rw [adds_cons] at hfits
    obtain ⟨out, hout, hmax, htimeout, b₁, hitems, href⟩ :=
      step_refines h op fun x hx => hfits x (List.mem_append_left _ hx)
    obtain ⟨rest, hrest, hmax', htimeout', b₂, hitems', href'⟩ :=
      ih href fun x hx => hmax ▸ hfits x (List.mem_append_right _ hx)
    have hstep : self.step op = (.ok out, (self.step op).2) := Prod.ext hout rfl
    have hrun : (self.step op).2.run ops = (.ok rest, ((self.step op).2.run ops).2) := Prod.ext hrest rfl
    have hcons : self.run (op :: ops) = (.ok (out ++ rest), ((self.step op).2.run ops).2) := by
      rw [Aggregator.run, hstep]
      dsimp only
      rw [hrun]
    rw [hcons]
    refine ⟨_, rfl, hmax'.trans hmax, htimeout'.trans htimeout, b₂, ?_, ?_⟩
    · rw [hitems', hitems, List.append_assoc, ← adds_cons]
    · rw [← List.append_assoc]
      exact href'

/-! ## What is emitted -/

namespace Aggregator

def after (self : Aggregator) (ops : List AggregatorOp) : Aggregator := ops.foldl (fun self op => (self.step op).2) self

/-- the messages of operations, one after the other; one that fails emits nothing -/
def emits (self : Aggregator) : List AggregatorOp → List (List UInt8)
  | [] => []
  | op :: ops => (self.step op).1.toOption.getD [] ++ (self.step op).2.emits ops

theorem after_append (self : Aggregator) (ops ops' : List AggregatorOp) :
    self.after (ops ++ ops') = (self.after ops).after ops' := List.foldl_append

theorem emits_append (self : Aggregator) (ops ops' : List AggregatorOp) :
    self.emits (ops ++ ops') = self.emits ops ++ (self.after ops).emits ops' := by
  induction ops generalizing self with
  | nil => rfl
  | cons op ops ih =>
    rw [List.cons_append, emits, emits, ih, List.append_assoc]
    rfl

theorem emits_single (self : Aggregator) (op : AggregatorOp) :
    self.emits [op] = (self.step op).1.toOption.getD [] := List.append_nil _

end Aggregator

/-- no message is longer than a datagram may be; induction on the operations -/
theorem emits_le (ops : List AggregatorOp) (h : Refines self messages b)
    (hfits : ∀ x ∈ AggregatorOp.adds ops, Fits self.maxSize x.1) :
    ∀ message ∈ self.emits ops, message.length ≤ self.maxSize := by
  induction ops generalizing self messages b with
  | nil => exact nofun
  | cons op ops ih =>
    rw [adds_cons] at hfits
    obtain ⟨out, hout, hmax, -, b', -, href⟩ := step_refines h op fun x hx => hfits x (List.mem_append_left _ hx)
    intro message hmessage
    rw [Aggregator.emits, hout] at hmessage
    rcases List.mem_append.1 hmessage with hnow | hlater
    · have hclosed : message ∈ b'.closed.map encodeBatch :=
        href.messages_eq ▸ List.mem_append_right messages hnow
      obtain ⟨batch, hbatch, rfl⟩ := List.mem_map.1 hclosed
      exact hmax ▸ (href.closed_ok batch hbatch).2
    · exact hmax ▸ ih href (fun x hx => hmax ▸ hfits x (List.mem_append_right _ hx)) message hlater

/-! ## What arrives -/

/-- parsing one message after the other -/
def parseTunnelMessages (counters : Counters) : List (List UInt8) → Checked (List (List UInt8) × Counters)
  | [] => return ([], counters)
  | message :: messages => do
    let (packets, counters) ← parseTunnelMessage message counters
    let (rest, counters) ← parseTunnelMessages counters messages
    return (packets ++ rest, counters)

/-- empty messages carry nothing -/
theorem parseTunnelMessages_filter (counters : Counters) (messages : List (List UInt8)) :
    parseTunnelMessages counters (messages.filter (· ≠ [])) = parseTunnelMessages counters messages := by
  induction messages generalizing counters with
  | nil => rfl
  | cons message messages ih =>
    by_cases hnil : message = []
    · rw [List.filter_cons_of_neg (by simpa using hnil), ih, hnil, parseTunnelMessages, parseTunnelMessage_eq,
        tunnelScan, scan_nil, checked_bind_ok]
      dsimp only [Counters.countStop]
      cases parseTunnelMessages counters messages <;> rfl
    · rw [List.filter_cons_of_pos (by simpa using hnil), parseTunnelMessages, parseTunnelMessages]
      congr 1
      funext parsed
      cases parsed
      dsimp only
      rw [ih]

/-- the added packets that no emitted message carries yet -/
def pendingAdds (ops : List AggregatorOp) (messages : List (List UInt8)) : List (List UInt8 × ℕ) :=
  (AggregatorOp.adds ops).drop (messages.flatMap fun message => (tunnelScan message).1).length

theorem scan_batch {batch : List (List UInt8 × ℕ)} (h : ∀ x ∈ batch, x.1.length < 2 ^ 16) :
    tunnelScan (encodeBatch batch) = (batch.map Prod.fst, none) := by
  refine tunnelScan_encodeRecords fun packet hpacket => ?_
  obtain ⟨x, hx, rfl⟩ := List.mem_map.1 hpacket
  exact h x hx

theorem parse_batches {batches : List (List (List UInt8 × ℕ))} (h : ∀ x ∈ batches.flatten, x.1.length < 2 ^ 16)
    (counters : Counters) :
    parseTunnelMessages counters (batches.map encodeBatch) = .ok (batches.flatten.map Prod.fst, counters) := by
  induction batches with
  | nil => rfl
  | cons batch batches ih =>
    rw [List.flatten_cons] at h
    have hbatch := scan_batch fun x hx => h x (List.mem_append_left _ hx)
    rw [List.map_cons, parseTunnelMessages, parseTunnelMessage_eq, hbatch, checked_bind_ok]
    simp only [Counters.countStop, ih fun x hx => h x (List.mem_append_right _ hx), checked_bind_ok, checked_pure,
      List.flatten_cons, List.map_append]

theorem scan_batches_length {batches : List (List (List UInt8 × ℕ))} (h : ∀ x ∈ batches.flatten, x.1.length < 2 ^ 16) :
    ((batches.map encodeBatch).flatMap fun message => (tunnelScan message).1).length = batches.flatten.length := by
  induction batches with
  | nil => rfl
  | cons batch batches ih =>
    rw [List.flatten_cons] at h
    have hbatch := scan_batch fun x hx => h x (List.mem_append_left _ hx)
    rw [List.map_cons, List.flatMap_cons, List.length_append, hbatch,
      ih fun x hx => h x (List.mem_append_right _ hx), List.flatten_cons, List.length_append, List.length_map]

/-- **The aggregator loses nothing.** Over any interleaving of operations at any times, with packets that fit: no
operation fails; the messages emitted, with a final flush, parse to exactly the packets added, in order, and nothing is
counted as corrupt or truncated; every message is non-empty and within the size limit; and with a timeout the deadline
is set exactly while a packet is pending, and no later than the oldest pending packet's time plus the timeout. -/
theorem aggregator_run (maxSize timeout : ℕ) (ops : List AggregatorOp)
    (hfits : ∀ x ∈ AggregatorOp.adds ops, x.1.length + 2 ≤ maxSize ∧ x.1.length ≤ 65535) :
    ∃ messages self, (Aggregator.new maxSize timeout).run ops = (.ok messages, self) ∧
      (∀ counters, parseTunnelMessages counters (messages ++ (nonempty self.flush.1).toList) =
        .ok ((AggregatorOp.adds ops).map Prod.fst, counters)) ∧
      (∀ message ∈ messages ++ (nonempty self.flush.1).toList, message ≠ [] ∧ message.length ≤ maxSize) ∧
      (timeout ≠ 0 → (self.deadline.isSome ↔ pendingAdds ops messages ≠ []) ∧
        ∀ deadline ∈ self.deadline, ∀ oldest ∈ (pendingAdds ops messages).head?, deadline ≤ oldest.2 + timeout) := by
  have hfits' : ∀ x ∈ AggregatorOp.adds ops, Fits maxSize x.1 :=
    fun x hx => ⟨(hfits x hx).1, Nat.lt_succ_of_le (hfits x hx).2⟩
  obtain ⟨messages, hmessages, hmax, htimeout, b, hitems, href⟩ :=
    run_refines ops (new_refines maxSize timeout) hfits'
  rw [List.nil_append] at href
  have hitems : b.items = AggregatorOp.adds ops := hitems.trans (List.nil_append _)
  have hmax : ((Aggregator.new maxSize timeout).run ops).2.maxSize = maxSize := hmax
  have htimeout : ((Aggregator.new maxSize timeout).run ops).2.timeout = timeout := htimeout
  have hflush := flush_refines href
  have hclosed : b.close.closed.flatten = AggregatorOp.adds ops := by
    rw [← hitems, ← b.items_close, Batcher.items, Batcher.close_pending, List.append_nil]
  have hpending : pendingAdds ops messages = b.pending := by
    have hlt : ∀ x ∈ b.closed.flatten, x.1.length < 2 ^ 16 :=
      fun x hx => (hfits' x (hitems ▸ List.mem_append_left _ hx)).2
    rw [pendingAdds, href.messages_eq, scan_batches_length hlt, ← hitems, Batcher.items, List.drop_left]
  refine ⟨messages, _, Prod.ext hmessages rfl, fun counters => ?_, fun message hmessage => ?_, fun hne => ?_⟩
  · rw [hflush.messages_eq, ← hclosed]
    exact parse_batches (fun x hx => (hfits' x (hclosed ▸ hx)).2) counters
  · rw [hflush.messages_eq] at hmessage
    obtain ⟨batch, hbatch, rfl⟩ := List.mem_map.1 hmessage
    obtain ⟨hnonempty, hle⟩ := hflush.closed_ok batch hbatch
    exact ⟨fun hnil => hnonempty (encodeBatch_eq_nil.1 hnil), hmax ▸ hle⟩
  · have hdeadline := href.deadline_eq
    rw [htimeout, if_neg hne] at hdeadline
    rw [hpending, hdeadline]
    refine ⟨?_, ?_⟩
    · cases b.pending with
      | nil => simp
      | cons oldest rest => simp
    · intro deadline hd oldest ho
      rw [Option.mem_def] at hd ho
      rw [ho] at hd
      exact (Option.some.inj hd).ge

/-- two packets share a message; the third one does not fit and makes room for itself -/
def sampleOps : List AggregatorOp :=
  [.add [1, 2, 3] 0, .add [4, 5] 1, .flushDue 3, .add [6, 7, 8, 9] 4, .flushDue 9, .flush]

example : ((Aggregator.new 12 5).run sampleOps).1 =
    .ok [[0, 3, 1, 2, 3, 0, 2, 4, 5], [0, 4, 6, 7, 8, 9]] := by decide

theorem aggregator_run_sample :
    ∃ messages self, (Aggregator.new 12 5).run sampleOps = (.ok messages, self) ∧
      (∀ counters, parseTunnelMessages counters (messages ++ (nonempty self.flush.1).toList) =
        .ok ((AggregatorOp.adds sampleOps).map Prod.fst, counters)) ∧
      (∀ message ∈ messages ++ (nonempty self.flush.1).toList, message ≠ [] ∧ message.length ≤ 12) ∧
      (5 ≠ 0 → (self.deadline.isSome ↔ pendingAdds sampleOps messages ≠ []) ∧
        ∀ deadline ∈ self.deadline, ∀ oldest ∈ (pendingAdds sampleOps messages).head?, deadline ≤ oldest.2 + 5) :=
  aggregator_run 12 5 sampleOps (by decide)

/-! ## Failures -/

/-- an `add` that fails leaves the pending parts and the deadline alone -/
def KeepsPending (self : Aggregator) (packet : List UInt8) (now : ℕ) : Prop :=
  ∀ error, (self.add packet now).1 = .error error →
    (self.add packet now).2.parts = self.parts ∧ (self.add packet now).2.deadline = self.deadline

/-- the record passes the first size check, makes `add` flush the pending parts, and fails the second one -/
def FlushesFirst (self : Aggregator) (packet : List UInt8) : Prop :=
  packet.length + 2 ≤ self.maxSize ∧ self.parts ≠ [] ∧ self.maxSize < self.parts.length + (packet.length + 2) ∧
    2 ^ 16 ≤ packet.length

instance (self : Aggregator) (packet : List UInt8) : Decidable (FlushesFirst self packet) := by
  unfold FlushesFirst; infer_instance

section Failures

variable {self : Aggregator} {packet : List UInt8} {now : ℕ}

/-- a record over the limit is refused before anything else is done -/
theorem add_oversize (h : self.maxSize < packet.length + 2) :
    self.add packet now = (.error (.packetRecordTooLarge (packet.length + 2) self.maxSize), self) := if_pos h

/-- the parts are gone before the length is found too large -/
theorem add_flushesFirst (h : FlushesFirst self packet) :
    self.add packet now = (.error (.packetRecordTooLarge (packet.length + 2) self.maxSize), self.flush.2) := by
  obtain ⟨hfits, hparts, hfull, hlong⟩ := h
  rw [Aggregator.add]
  dsimp only
  rw [if_neg (Nat.not_lt.2 hfits), if_pos hlong,
    if_pos (show self.parts ≠ [] ∧ self.parts.length + (packet.length + 2) > self.maxSize from ⟨hparts, hfull⟩)]
  rfl

/-- where there is room, the parts are still there when the length is found too large -/
theorem add_tooLong (hfits : packet.length + 2 ≤ self.maxSize)
    (hroom : ¬ (self.parts ≠ [] ∧ self.maxSize < self.parts.length + (packet.length + 2)))
    (hlong : 2 ^ 16 ≤ packet.length) :
    self.add packet now = (.error (.packetRecordTooLarge (packet.length + 2) self.maxSize), self) := by
  rw [Aggregator.add]
  dsimp only
  rw [if_neg (Nat.not_lt.2 hfits), if_pos hlong, if_neg hroom]

/-- a record that passes both size checks is added -/
theorem add_succeeds (hfits : packet.length + 2 ≤ self.maxSize) (hshort : packet.length < 2 ^ 16) :
    ∃ messages, (self.add packet now).1 = .ok messages := by
  rw [Aggregator.add]
  dsimp only
  rw [if_neg (Nat.not_lt.2 hfits), if_neg (Nat.not_le.2 hshort)]
  split_ifs
  all_goals exact ⟨_, rfl⟩

end Failures

/-- **A failed `add` loses nothing**, exactly unless it flushes first: only a packet of 2^16 bytes or more can, under a
limit that lets it pass. -/
theorem add_keepsPending_iff (self : Aggregator) (packet : List UInt8) (now : ℕ) :
    KeepsPending self packet now ↔ ¬ FlushesFirst self packet := by
  constructor
  · intro hkeeps hflushes
    have hadd : self.add packet now = _ := add_flushesFirst hflushes
    obtain ⟨hparts, -⟩ := hkeeps _ (congrArg Prod.fst hadd)
    rw [hadd] at hparts
    exact hflushes.2.1 hparts.symm
  · intro hflushes error herror
    by_cases hfits : packet.length + 2 ≤ self.maxSize
    · by_cases hlong : 2 ^ 16 ≤ packet.length
      · have hroom : ¬ (self.parts ≠ [] ∧ self.maxSize < self.parts.length + (packet.length + 2)) :=
          fun h => hflushes ⟨hfits, h.1, h.2, hlong⟩
        rw [add_tooLong hfits hroom hlong]
        exact ⟨rfl, rfl⟩
      · obtain ⟨messages, hok⟩ : ∃ messages, (self.add packet now).1 = .ok messages :=
          add_succeeds hfits (Nat.lt_of_not_le hlong)
        rw [hok] at herror
        cases herror
    · rw [add_oversize (Nat.lt_of_not_le hfits)]
      exact ⟨rfl, rfl⟩

/-- one packet is pending under a limit of 65538 bytes, and a packet of 65536 bytes is added: it is refused, and the
pending one is lost -/
theorem add_loses_pending :
    ∃ self, (Aggregator.new 65538 5).run [.add [7] 0] = (.ok [], self) ∧ self.parts = [0, 1, 7] ∧
      ∃ error, (self.add (List.replicate 65536 0) 1).1 = .error error ∧
        (self.add (List.replicate 65536 0) 1).2.parts = [] := by
  refine ⟨⟨65538, 5, [0, 1, 7], some 5⟩, by decide, rfl, ?_⟩
  have hflushes : FlushesFirst ⟨65538, 5, [0, 1, 7], some 5⟩ (List.replicate 65536 0) := by
    rw [FlushesFirst, List.length_replicate]
    decide
  rw [add_flushesFirst hflushes]
  exact ⟨_, rfl, rfl⟩

end WfbLink.Tunnel
