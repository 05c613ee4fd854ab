/-
Tunnel messages (`parse_tunnel_message` in `wfb-tun/src/lib.rs`).

A tunnel message is a sequence of records: a big-endian length and that many bytes of an IP packet. The parser returns
the packets up to the first record that does not fit, and counts why it stopped.

- `parseTunnelMessage_eq`: on any bytes the parser is the scan `tunnelScan`; it never reads out of range.
- `parse_encodeRecords`: parsing a sequence of encoded records returns the packets and counts nothing.
- `parseTunnelMessage_grammar`: the parser takes the longest part of the message that is a sequence of records.
-/
import WfbLink.Core.Checked
import WfbLink.Core.Scan

namespace WfbLink.Tunnel

open WfbLink.Core

structure Counters where
  tunPacketsIn : UInt64 := 0
  tunBytesIn : UInt64 := 0
  tunnelDatagramsOut : UInt64 := 0
  tunnelBytesOut : UInt64 := 0
  tunnelDatagramsIn : UInt64 := 0
  tunnelBytesIn : UInt64 := 0
  tunPacketsOut : UInt64 := 0
  tunBytesOut : UInt64 := 0
  keepalivesOut : UInt64 := 0
  corruptMessages : UInt64 := 0
  truncatedMessages : UInt64 := 0
  droppedPackets : UInt64 := 0

/-- `while offset < message.len()` -/
def parseTunnelLoop (message : List UInt8) (offset : ℕ) (packets : List (List UInt8)) (counters : Counters) :
    Checked (List (List UInt8) × Counters) :=
  if offset < message.length then
    if message.length - offset < 2 then
      return (packets, { counters with corruptMessages := satAdd counters.corruptMessages 1 })
    else do
      let high ← index message offset
      let low ← index message (offset + 1)
      let packetLen := beU16 high low
      if message.length - (offset + 2) < packetLen then
        return (packets, { counters with truncatedMessages := satAdd counters.truncatedMessages 1 })
      else
        let packet ← slice message (offset + 2) (offset + 2 + packetLen)
        parseTunnelLoop message (offset + 2 + packetLen) (packets ++ [packet]) counters
  else return (packets, counters)
termination_by message.length - offset

def parseTunnelMessage (message : List UInt8) (counters : Counters) : Checked (List (List UInt8) × Counters) :=
  parseTunnelLoop message 0 [] counters

/-! ## The parser is a scan -/

inductive TunnelStop where
  | corrupt
  | truncated
deriving DecidableEq, Repr

def tunnelStep (rest : List UInt8) : ScanStep (List UInt8) TunnelStop :=
  match rest with
  | high :: low :: body =>
    if body.length < beU16 high low then .halt .truncated
    else .record (body.take (beU16 high low)) (2 + beU16 high low)
  | _ => .halt .corrupt

/-- the packets of a message, and why the parser stopped before its end, if it did -/
def tunnelScan (message : List UInt8) : List (List UInt8) × Option TunnelStop := scan tunnelStep message

def Counters.countStop (counters : Counters) : Option TunnelStop → Counters
  | none => counters
  | some .corrupt => { counters with corruptMessages := satAdd counters.corruptMessages 1 }
  | some .truncated => { counters with truncatedMessages := satAdd counters.truncatedMessages 1 }

theorem parseTunnelLoop_eq (message : List UInt8) (offset : ℕ) (packets : List (List UInt8)) (counters : Counters) :
    parseTunnelLoop message offset packets counters =
      .ok (packets ++ (tunnelScan (message.drop offset)).1, counters.countStop (tunnelScan (message.drop offset)).2) := by
  induction hm : message.length - offset using Nat.strong_induction_on generalizing offset packets with
  | _ m ih =>
    rw [parseTunnelLoop]
    by_cases hoff : offset < message.length
    · have hlen : (message.drop offset).length = message.length - offset := List.length_drop
      have hne : message.drop offset ≠ [] := List.length_pos_iff.1 (by omega)
      rw [if_pos hoff]
      by_cases htwo : message.length - offset < 2
      · have hstep : tunnelStep (message.drop offset) = .halt .corrupt := by
          match hrest : message.drop offset with
          | [] => rfl
          | [_] => rfl
          | _ :: _ :: _ =>
            rw [hrest, List.length_cons, List.length_cons] at hlen
            omega
        rw [if_pos htwo, tunnelScan, scan_halt hne hstep]
        simp [Counters.countStop]
      · obtain ⟨high, low, body, hrest⟩ : ∃ high low body, message.drop offset = high :: low :: body := by
          match hrest : message.drop offset with
          | [] => rw [hrest, List.length_nil] at hlen; omega
          | [_] => rw [hrest, List.length_singleton] at hlen; omega
          | high :: low :: body => exact ⟨high, low, body, rfl⟩
        have hbody : body = message.drop (offset + 2) := by
          rw [← List.drop_drop, hrest]; rfl
        have hbodyLen : body.length = message.length - (offset + 2) := by rw [hbody, List.length_drop]
        have hhigh : index message offset = .ok high := by
          refine index_ok ?_
          have hget : (message.drop offset)[0]? = message[offset]? := List.getElem?_drop
          rw [hrest] at hget
          exact hget.symm
        have hlow : index message (offset + 1) = .ok low := by
          refine index_ok ?_
          have hget : (message.drop offset)[1]? = message[offset + 1]? := List.getElem?_drop
          rw [hrest] at hget
          exact hget.symm
        rw [if_neg htwo, hhigh, checked_bind_ok, hlow, checked_bind_ok]
        by_cases hfits : message.length - (offset + 2) < beU16 high low
        · have hstep : tunnelStep (message.drop offset) = .halt .truncated := by
            rw [hrest, tunnelStep, if_pos (by omega)]
          rw [if_pos hfits, tunnelScan, scan_halt hne hstep]
          simp [Counters.countStop]
        · have hstep : tunnelStep (message.drop offset) = .record (body.take (beU16 high low))
              (2 + beU16 high low) := by
            rw [hrest, tunnelStep, if_neg (by omega)]
          have hslice : slice message (offset + 2) (offset + 2 + beU16 high low) =
              .ok (body.take (beU16 high low)) := by
            rw [slice_ok (by omega) (by omega), hbody, Nat.add_sub_cancel_left]
          have hdrop : (message.drop offset).drop (2 + beU16 high low) =
              message.drop (offset + 2 + beU16 high low) := by
            rw [List.drop_drop, Nat.add_assoc]
          rw [if_neg hfits, hslice, checked_bind_ok, ih (message.length - (offset + 2 + beU16 high low)) (by omega)
            _ _ rfl, tunnelScan, tunnelScan, scan_record hne hstep (by omega), hdrop]
          simp
    · have hnil : message.drop offset = [] := List.drop_eq_nil_iff.2 (by omega)
      rw [if_neg hoff, hnil, tunnelScan, scan_nil]
      simp [Counters.countStop]

/-- **The parser is total**, and what it returns is the scan of the message. -/
theorem parseTunnelMessage_eq (message : List UInt8) (counters : Counters) :
    parseTunnelMessage message counters =
      .ok ((tunnelScan message).1, counters.countStop (tunnelScan message).2) := by
  rw [parseTunnelMessage, parseTunnelLoop_eq, List.drop_zero, List.nil_append]

/-! ## Round trip -/

/-- `(packet.len() as u16).to_be_bytes()` and the packet -/
def encodeRecord (packet : List UInt8) : List UInt8 := toBeU16 packet.length ++ packet

def encodeRecords (packets : List (List UInt8)) : List UInt8 := packets.flatMap encodeRecord

@[simp] theorem encodeRecord_length (packet : List UInt8) : (encodeRecord packet).length = packet.length + 2 := by
  rw [encodeRecord, List.length_append, toBeU16_length, Nat.add_comm]

theorem encodeRecord_ne_nil (packet : List UInt8) : encodeRecord packet ≠ [] :=
  List.length_pos_iff.1 (by rw [encodeRecord_length]; omega)

theorem encodeRecords_append (a b : List (List UInt8)) :
    encodeRecords (a ++ b) = encodeRecords a ++ encodeRecords b := List.flatMap_append

theorem encodeRecords_ne_nil {packets : List (List UInt8)} (h : packets ≠ []) : encodeRecords packets ≠ [] := by
  obtain ⟨packet, rest, rfl⟩ := List.exists_cons_of_ne_nil h
  rw [encodeRecords, List.flatMap_cons]
  simp [encodeRecord_ne_nil]

theorem tunnelStep_encodeRecord {packet : List UInt8} (h : packet.length < 2 ^ 16) (tail : List UInt8) :
    tunnelStep (encodeRecord packet ++ tail) = .record packet (encodeRecord packet).length := by
  have hbytes : encodeRecord packet ++ tail =
      UInt8.ofNat (packet.length / 2 ^ 8) :: UInt8.ofNat packet.length :: (packet ++ tail) := rfl
  have hlen : beU16 (UInt8.ofNat (packet.length / 2 ^ 8)) (UInt8.ofNat packet.length) = packet.length :=
    leU16_toLe h
  rw [hbytes, tunnelStep, hlen, List.length_append, if_neg (by omega), List.take_left, encodeRecord_length,
    Nat.add_comm]

/-- **Parsing undoes encoding.** -/
theorem tunnelScan_encodeRecords {packets : List (List UInt8)} (h : ∀ packet ∈ packets, packet.length < 2 ^ 16) :
    tunnelScan (encodeRecords packets) = (packets, none) := by
  have hstep : ∀ packet ∈ packets, ∀ tail, ∃ r, tunnelStep (encodeRecord packet ++ tail) =
      .record r (encodeRecord packet).length ∧ packet = r :=
    fun packet hp tail => ⟨packet, tunnelStep_encodeRecord (h packet hp) tail, rfl⟩
  obtain ⟨records, hall, hscan⟩ :=
    scan_frames encodeRecord packets [] (fun packet _ => encodeRecord_ne_nil packet) hstep
  have hrecords : packets = records := by rwa [List.forall₂_eq_eq_eq] at hall
  rw [List.append_nil, scan_nil, List.append_nil, ← hrecords] at hscan
  exact hscan

theorem parse_encodeRecords {packets : List (List UInt8)} (h : ∀ packet ∈ packets, packet.length < 2 ^ 16)
    (counters : Counters) : parseTunnelMessage (encodeRecords packets) counters = .ok (packets, counters) := by
  rw [parseTunnelMessage_eq, tunnelScan_encodeRecords h]; rfl

/-! ## The grammar -/

/-- bytes that are a sequence of complete records, and the packets in them -/
inductive Records : List UInt8 → List (List UInt8) → Prop
  | nil : Records [] []
  | cons {high low : UInt8} {packet bytes : List UInt8} {packets : List (List UInt8)}
      (length : packet.length = beU16 high low) (rest : Records bytes packets) :
      Records (high :: low :: packet ++ bytes) (packet :: packets)

/-- bytes that do not begin with a complete record, and why -/
inductive Remainder : List UInt8 → Option TunnelStop → Prop
  | finished : Remainder [] none
  | corrupt (byte : UInt8) : Remainder [byte] (some .corrupt)
  | truncated {high low : UInt8} {body : List UInt8} (short : body.length < beU16 high low) :
      Remainder (high :: low :: body) (some .truncated)

/-- the scan cuts a message in two -/
theorem tunnelScan_cuts (message : List UInt8) : ∃ taken rest, message = taken ++ rest ∧
    Records taken (tunnelScan message).1 ∧ Remainder rest (tunnelScan message).2 := by
  induction message using scan_induct tunnelStep with
  | nil => exact ⟨[], [], rfl, by rw [tunnelScan, scan_nil]; exact .nil, by rw [tunnelScan, scan_nil]; exact .finished⟩
  | halt message stop hne hstep =>
    refine ⟨[], message, rfl, ?_, ?_⟩
    · rw [tunnelScan, scan_halt hne hstep]
      exact .nil
    · rw [tunnelScan, scan_halt hne hstep]
      match message, hne with
      | [byte], _ =>
        obtain rfl := ScanStep.halt.inj hstep
        exact .corrupt byte
      | high :: low :: body, _ =>
        rw [tunnelStep] at hstep
        split_ifs at hstep with hshort
        obtain rfl := ScanStep.halt.inj hstep
        exact .truncated hshort
  | last message packet _ hstep =>
    match message with
    | [] | [_] => cases hstep
    | high :: low :: body =>
      rw [tunnelStep] at hstep
      split_ifs at hstep
      have hused := (ScanStep.record.inj hstep).2
      omega
  | more message packet used hne hstep hused ih =>
    obtain ⟨taken, rest, hdrop, htaken, hrest⟩ := ih
    match message with
    | [] | [_] => cases hstep
    | high :: low :: body =>
      rw [tunnelScan, scan_record hne hstep hused]
      rw [tunnelStep] at hstep
      split_ifs at hstep with hshort
      obtain ⟨rfl, rfl⟩ := ScanStep.record.inj hstep
      have hbody : (high :: low :: body).drop (2 + beU16 high low) = body.drop (beU16 high low) := by
        rw [← List.drop_drop]
        rfl
      rw [hbody] at hdrop htaken hrest ⊢
      refine ⟨high :: low :: body.take (beU16 high low) ++ taken, rest, ?_, .cons ?_ htaken, hrest⟩
      · rw [List.append_assoc, ← hdrop, List.cons_append, List.cons_append, List.take_append_drop]
      · rw [List.length_take]
        omega

/-- where no record begins, no sequence of records but the empty one does -/
theorem Remainder.no_records {rest bytes tail : List UInt8} {stop : Option TunnelStop} {packets : List (List UInt8)}
    (hrest : Remainder rest stop) (hbytes : Records bytes packets) (h : rest = bytes ++ tail) : bytes = [] := by
  cases hbytes with
  | nil => rfl
  | cons hlength _ =>
    cases hrest with
    | finished | corrupt => cases h
    | truncated hshort =>
      simp only [List.cons_append, List.cons.injEq] at h
      obtain ⟨rfl, rfl, rfl⟩ := h
      rw [List.length_append, List.length_append] at hshort
      omega

/-- no sequence of records goes further than one that is followed by a remainder -/
theorem Records.longest {taken rest other tail : List UInt8} {packets packets' : List (List UInt8)}
    {stop : Option TunnelStop} (htaken : Records taken packets) (hrest : Remainder rest stop)
    (hother : Records other packets') (h : taken ++ rest = other ++ tail) :
    other.length ≤ taken.length ∧ packets' <+: packets := by
  induction htaken generalizing other packets' with
  | nil =>
    obtain rfl := hrest.no_records hother h
    cases hother
    exact ⟨le_rfl, List.nil_prefix⟩
  | @cons high low packet bytes packets hlength _ ih =>
    cases hother with
    | nil => exact ⟨Nat.zero_le _, List.nil_prefix⟩
    | cons hlength' hbytes' =>
      simp only [List.cons_append, List.cons.injEq, List.append_assoc] at h
      obtain ⟨rfl, rfl, h⟩ := h
      obtain ⟨rfl, hbytes⟩ := List.append_inj h (hlength.trans hlength'.symm)
      obtain ⟨hle, hpackets⟩ := ih hbytes' hbytes
      refine ⟨?_, List.cons_prefix_cons.2 ⟨rfl, hpackets⟩⟩
      simp only [List.length_append, List.length_cons]
      omega

/-- **The parser accepts exactly its grammar.** It returns the packets of the longest part of the message that is a
sequence of complete records, and counts one corrupt message if one byte is left, one truncated message if what is left
is the header of a longer record, and nothing if nothing is left. -/
theorem parseTunnelMessage_grammar (message : List UInt8) (counters : Counters) :
    ∃ taken rest packets stop, message = taken ++ rest ∧ Records taken packets ∧
      (∀ other packets' tail, Records other packets' → message = other ++ tail →
        other.length ≤ taken.length ∧ packets' <+: packets) ∧
      Remainder rest stop ∧ parseTunnelMessage message counters = .ok (packets, counters.countStop stop) := by
  obtain ⟨taken, rest, hcut, htaken, hrest⟩ := tunnelScan_cuts message
  refine ⟨taken, rest, _, _, hcut, htaken, fun other packets' tail hother h => ?_, hrest, parseTunnelMessage_eq _ _⟩
  exact htaken.longest hrest hother (hcut ▸ h)

/-- a full counter stays full -/
theorem corrupt_saturates : ∃ counters : Counters,
    parseTunnelMessage [0] counters = .ok ([], counters) ∧ counters.corruptMessages.toNat = 2 ^ 64 - 1 := by
  refine ⟨{ corruptMessages := UInt64.ofNat (2 ^ 64 - 1) }, ?_, by decide⟩
  have hscan : tunnelScan [0] = ([], some .corrupt) := scan_halt nofun rfl
  rw [parseTunnelMessage_eq, hscan]
  rfl

end WfbLink.Tunnel
