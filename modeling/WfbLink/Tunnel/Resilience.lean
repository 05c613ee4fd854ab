/-
What a session of the tunnel bridge makes of its inputs.

A `Script` is a host on which a call fails for its size only: in each round it hands the bridge a frame of the
interface, a datagram of the peer, both or neither, its clock may read anything, and its socket refuses datagrams that
are too long for it. `Resilient` is what a bridge that drops bad inputs would do with a script: end without an error,
write the well-formed records, send the frames that can be aggregated, in order, and count the others.

- `round_delivers`, `round_fails`: a round with which nothing is wrong, and any other one.
- `runTunBridge_resilient_iff`: a session is resilient exactly if every record and every frame is well formed, and no
  datagram it forms is too long.
- `runTunBridge_resilient_within`: the last of these holds where the largest aggregate is within the socket's limit.
- `bad_record_loses_the_next`: an empty record in front of a good one ends the session.
-/
import WfbLink.Tunnel.Bridge

namespace WfbLink.Tunnel

open WfbLink.Core

/-! ## Scripts -/

structure Round where
  frame : Option (List UInt8)
  message : Option (List UInt8)
deriving DecidableEq, Repr

/-- the rounds to come, and what is ready in the current one -/
structure Inputs where
  rounds : List Round
  frame : Option (List UInt8)
  message : Option (List UInt8)
deriving DecidableEq, Repr

structure Script where
  inputs : Inputs
  clock : ℕ → ℕ
  tick : ℕ
  /-- the longest datagram that the socket sends -/
  sendLimit : ℕ
  sent : List (List UInt8)
  written : List (List UInt8)

def Script.start (rounds : List Round) (clock : ℕ → ℕ) (sendLimit : ℕ) : Script :=
  { inputs := ⟨rounds, none, none⟩, clock, tick := 0, sendLimit, sent := [], written := [] }

/-- what a read with a buffer of `len` bytes returns -/
def received (input : Option (List UInt8)) (len : ℕ) : Except IoError (List UInt8) :=
  match input with
  | some bytes => .ok (bytes.take len)
  | none => .error ⟨.wouldBlock, "Resource temporarily unavailable"⟩

/-- a session is asked to stop when its rounds are over -/
instance : TunHost Script where
  stopRequested host := (decide (host.inputs.rounds = []), host)
  instantNow host := (host.clock host.tick, { host with tick := host.tick + 1 })
  poll host _ :=
    match host.inputs.rounds with
    | [] => (.ok none, host)
    | round :: rounds =>
      (.ok (some ⟨round.frame.isSome, round.message.isSome⟩),
        { host with inputs := ⟨rounds, round.frame, round.message⟩ })
  tunRead host len := (received host.inputs.frame len, host)
  tunWrite host frame := (.ok frame.length, { host with written := host.written ++ [frame] })
  recvFrom host len := (received host.inputs.message len, host)
  sendTo host message :=
    if message.length ≤ host.sendLimit then (.ok (), { host with sent := host.sent ++ [message] })
    else (.error ⟨.other, "Message too long (os error 40)"⟩, host)

/-! ## Resilience -/

/-- the frame a round delivers, as much of it as the bridge's buffer holds -/
def Round.frames (config : TunBridgeConfig) (round : Round) : List (List UInt8) :=
  (round.frame.map (·.take (min (config.tunMtu + 4) usizeMax))).toList

/-- the records of the datagram a round delivers, as much of it as the bridge's buffer holds -/
def Round.records (config : TunBridgeConfig) (round : Round) : List (List UInt8) :=
  (round.message.map fun message => (tunnelScan (message.take (min (config.radioMtu + 256) usizeMax))).1).getD []

/-- a non-empty packet of IP version 4 or 6 -/
def WellFormed (record : List UInt8) : Prop := ∃ first ∈ record.head?, first >>> 4 = 4 ∨ first >>> 4 = 6

/-- a frame with a known address family and a packet that fits into a datagram -/
def Sendable (config : TunBridgeConfig) (frame : List UInt8) : Prop :=
  5 ≤ frame.length ∧ (frame.take 4 = toBeU32 afInet ∨ frame.take 4 = toBeU32 afInet6) ∧
    Fits config.radioMtu (frame.drop 4)

instance (record : List UInt8) : Decidable (WellFormed record) := by unfold WellFormed; infer_instance

instance (maxSize : ℕ) (packet : List UInt8) : Decidable (Fits maxSize packet) := by unfold Fits; infer_instance

instance (config : TunBridgeConfig) (frame : List UInt8) : Decidable (Sendable config frame) := by
  unfold Sendable; infer_instance

/-- the frame that is written for a record -/
def utunFrame (record : List UInt8) : List UInt8 :=
  toBeU32 (if ∃ first ∈ record.head?, first >>> 4 = 4 then afInet else afInet6) ++ record

/-- good inputs are passed on in order, bad ones are counted, and the session ends as asked -/
def Resilient (config : TunBridgeConfig) (rounds : List Round) (outcome : TunOutcome Script) : Prop :=
  let records := rounds.flatMap (·.records config)
  let frames := rounds.flatMap (·.frames config)
  outcome.1 = .ok () ∧
    outcome.2.host.written = (records.filter (WellFormed ·)).map utunFrame ∧
    (∀ counters, parseTunnelMessages counters outcome.2.host.sent =
      .ok ((frames.filter (Sendable config ·)).map (List.drop 4), counters)) ∧
    outcome.2.counters.droppedPackets.toNat =
      min (records.countP (¬ WellFormed ·) + frames.countP (¬ Sendable config ·)) u64Max

/-! ## The datagrams of a session -/

section Datagrams

variable (config : TunBridgeConfig) (clock : ℕ → ℕ)

/-- a frame is added at this reading of the clock -/
def Round.adds (tick : ℕ) (round : Round) : List AggregatorOp :=
  (round.frames config).map fun frame => .add (frame.drop 4) (clock tick)

/-- what a round does with the aggregator, from this reading of the clock on: it reads it first for its time-out, then
for its frame, and once more for what is due -/
def Round.ops (tick : ℕ) (round : Round) : List AggregatorOp :=
  round.adds config clock (tick + 1) ++ [.flushDue (clock (tick + 1 + (round.frames config).length))]

/-- the reading behind the round -/
def Round.nextTick (tick : ℕ) (round : Round) : ℕ := tick + 1 + (round.frames config).length + 1

/-- what a session does with the aggregator -/
def aggregatorOps : ℕ → List Round → List AggregatorOp
  | _, [] => [.flush]
  | tick, round :: rounds => round.ops config clock tick ++ aggregatorOps (round.nextTick config tick) rounds

/-- the readings before the first round -/
def startTick : ℕ := if config.statsInterval.isSome then 2 else 1

/-- the datagrams that the aggregator forms of the frames of a session -/
def formed (rounds : List Round) : List (List UInt8) :=
  (Aggregator.new config.radioMtu config.aggTimeout).emits (aggregatorOps config clock (startTick config) rounds)

variable {config clock}

theorem adds_append (ops ops' : List AggregatorOp) :
    AggregatorOp.adds (ops ++ ops') = AggregatorOp.adds ops ++ AggregatorOp.adds ops' := by
  induction ops with
  | nil => rfl
  | cons op ops ih => rw [List.cons_append, adds_cons, ih, adds_cons op ops, List.append_assoc]

theorem adds_frames (frames : List (List UInt8)) (now : ℕ) :
    AggregatorOp.adds (frames.map fun frame => .add (frame.drop 4) now) = frames.map fun frame => (frame.drop 4, now) := by
  induction frames with
  | nil => rfl
  | cons frame frames ih => rw [List.map_cons, AggregatorOp.adds, ih, List.map_cons]

/-- the packets added are those of the frames; induction on the rounds -/
theorem mem_aggregatorOps {tick : ℕ} {rounds : List Round} {x : List UInt8 × ℕ}
    (hx : x ∈ AggregatorOp.adds (aggregatorOps config clock tick rounds)) :
    ∃ frame ∈ rounds.flatMap (·.frames config), x.1 = frame.drop 4 := by
  induction rounds generalizing tick with
  | nil => exact absurd hx List.not_mem_nil
  | cons round rounds ih =>
    rw [aggregatorOps, adds_append, Round.ops, adds_append, Round.adds, adds_frames, List.mem_append,
      List.mem_append] at hx
    rw [List.flatMap_cons]
    rcases hx with (hx | hx) | hx
    · obtain ⟨frame, hframe, rfl⟩ := List.mem_map.1 hx
      exact ⟨frame, List.mem_append_left _ hframe, rfl⟩
    · exact absurd hx List.not_mem_nil
    · obtain ⟨frame, hframe, heq⟩ := ih hx
      exact ⟨frame, List.mem_append_right _ hframe, heq⟩

/-- no datagram is longer than the largest aggregate -/
theorem formed_le {rounds : List Round} (hgood : ∀ frame ∈ rounds.flatMap (·.frames config), Sendable config frame) :
    ∀ message ∈ formed config clock rounds, message.length ≤ config.radioMtu := by
  refine emits_le _ (new_refines config.radioMtu config.aggTimeout) fun x hx => ?_
  obtain ⟨frame, hframe, heq⟩ := mem_aggregatorOps hx
  rw [heq]
  exact (hgood frame hframe).2.2

end Datagrams

section Good

variable (config : TunBridgeConfig) (clock : ℕ → ℕ) (limit : ℕ)

/-- the inputs of a round are good, and so are the datagrams it sends from this reading and this aggregator on -/
structure Round.Good (tick : ℕ) (aggregator : Aggregator) (round : Round) : Prop where
  records : ∀ record ∈ round.records config, WellFormed record
  frames : ∀ frame ∈ round.frames config, Sendable config frame
  sends : ∀ message ∈ aggregator.emits (round.ops config clock tick), message.length ≤ limit

/-- the same of all rounds, and of the final datagram -/
def GoodFrom : ℕ → Aggregator → List Round → Prop
  | _, aggregator, [] => ∀ message ∈ aggregator.emits [.flush], message.length ≤ limit
  | tick, aggregator, round :: rounds =>
    round.Good config clock limit tick aggregator ∧
      GoodFrom (round.nextTick config tick) (aggregator.after (round.ops config clock tick)) rounds

variable {config clock limit}

/-- taken apart; induction on the rounds -/
theorem goodFrom_iff {tick : ℕ} {aggregator : Aggregator} {rounds : List Round} :
    GoodFrom config clock limit tick aggregator rounds ↔
      (∀ record ∈ rounds.flatMap (·.records config), WellFormed record) ∧
        (∀ frame ∈ rounds.flatMap (·.frames config), Sendable config frame) ∧
        ∀ message ∈ aggregator.emits (aggregatorOps config clock tick rounds), message.length ≤ limit := by
  induction rounds generalizing tick aggregator with
  | nil => exact ⟨fun h => ⟨nofun, nofun, h⟩, fun h => h.2.2⟩
  | cons round rounds ih =>
    rw [GoodFrom, ih]
    simp only [List.flatMap_cons, List.forall_mem_append, aggregatorOps, Aggregator.emits_append]
    constructor
    · rintro ⟨⟨hrecords, hframes, hsends⟩, hrecords', hframes', hsends'⟩
      exact ⟨⟨hrecords, hrecords'⟩, ⟨hframes, hframes'⟩, hsends, hsends'⟩
    · rintro ⟨⟨hrecords, hrecords'⟩, ⟨hframes, hframes'⟩, hsends, hsends'⟩
      exact ⟨⟨hrecords, hframes, hsends⟩, hrecords', hframes', hsends'⟩

end Good

/-! ## The handlers -/

theorem utunAfHeader_wellFormed {record : List UInt8} (h : WellFormed record) :
    ∃ header, utunAfHeader record = .ok header ∧ header ++ record = utunFrame record := by
  obtain ⟨first, hfirst, hversion⟩ := h
  cases record with
  | nil => cases hfirst
  | cons head rest =>
    obtain rfl : head = first := Option.some.inj hfirst
    rw [utunAfHeader]
    by_cases hfour : head >>> 4 = 4
    · refine ⟨_, if_pos hfour, ?_⟩
      rw [utunFrame, if_pos ⟨head, rfl, hfour⟩]
    · have hsix : head >>> 4 = 6 := hversion.resolve_left hfour
      refine ⟨_, (if_neg hfour).trans (if_pos hsix), ?_⟩
      rw [utunFrame, if_neg (by simpa using hfour)]

theorem utunAfHeader_malformed {record : List UInt8} (h : ¬ WellFormed record) : ∃ e, utunAfHeader record = .error e := by
  cases record with
  | nil => exact ⟨_, rfl⟩
  | cons head rest =>
    have hfour : ¬ head >>> 4 = 4 := fun hv => h ⟨head, rfl, .inl hv⟩
    have hsix : ¬ head >>> 4 = 6 := fun hv => h ⟨head, rfl, .inr hv⟩
    exact ⟨_, (if_neg hfour).trans (if_neg hsix)⟩

theorem stripUtunHeader_sendable {config : TunBridgeConfig} {frame : List UInt8} (h : Sendable config frame) :
    stripUtunHeader frame = .ok (frame.drop 4) := by
  obtain ⟨hlen, hfamily, -⟩ := h
  match frame, hlen with
  | b0 :: b1 :: b2 :: b3 :: first :: rest, _ =>
    have hfamily : beU32 b0 b1 b2 b3 = afInet ∨ beU32 b0 b1 b2 b3 = afInet6 :=
      hfamily.imp (beU32_eq_iff (by decide)).2 (beU32_eq_iff (by decide)).2
    rw [stripUtunHeader, if_neg (by tauto)]
    rfl

/-- a frame that cannot be sent has a bad header or a packet that does not fit -/
theorem stripUtunHeader_unsendable {config : TunBridgeConfig} {frame : List UInt8} (h : ¬ Sendable config frame) :
    (∃ e, stripUtunHeader frame = .error e) ∨
      stripUtunHeader frame = .ok (frame.drop 4) ∧ ¬ Fits config.radioMtu (frame.drop 4) := by
  match frame with
  | [] | [_] | [_, _] | [_, _, _] | [_, _, _, _] => exact .inl ⟨_, rfl⟩
  | b0 :: b1 :: b2 :: b3 :: first :: rest =>
    by_cases hfamily : beU32 b0 b1 b2 b3 = afInet ∨ beU32 b0 b1 b2 b3 = afInet6
    · refine .inr ⟨?_, fun hfits => h ⟨Nat.le_add_left 5 _, ?_, hfits⟩⟩
      · rw [stripUtunHeader, if_neg (by tauto)]
        rfl
      · exact hfamily.imp (beU32_eq_iff (by decide)).1 (beU32_eq_iff (by decide)).1
    · refine .inl ⟨.unsupportedAddressFamily (beU32 b0 b1 b2 b3), ?_⟩
      rw [stripUtunHeader, if_pos (by tauto)]

/-! ## The state of a session -/

/-- where a session is: what its host has in store, the next reading of the clock, and the aggregator -/
structure Position where
  inputs : Inputs
  tick : ℕ
  aggregator : Aggregator

/-- `frames` were taken into the aggregator and `records` written; `unsent` is what the aggregator emitted and is about
to be sent -/
structure Session (config : TunBridgeConfig) (clock : ℕ → ℕ) (limit : ℕ) (position : Position)
    (frames records unsent : List (List UInt8)) (s : TunBridge Script) : Prop where
  inputs_eq : s.host.inputs = position.inputs
  clock_eq : s.host.clock = clock
  tick_eq : s.host.tick = position.tick
  limit_eq : s.host.sendLimit = limit
  aggregator_eq : s.aggregator = position.aggregator
  maxSize_eq : s.aggregator.maxSize = config.radioMtu
  written_eq : s.host.written = records.map utunFrame
  sent_eq : ∃ b, Refines s.aggregator ((s.host.sent ++ unsent).filter (· ≠ [])) b ∧
    b.items.map Prod.fst = frames.map (List.drop 4)

/-- no error can be the outcome -/
def noError : TunFailure → TunBridge Script → Prop := fun _ _ => False

/-- the action ends in an error -/
def Fails {α : Type} (P : TunBridge Script → Prop) (act : TunAction Script α) : Prop :=
  Triple P act (fun _ _ => False) fun _ _ => True

theorem fails_of_succeeds {α β : Type} {P : TunBridge Script → Prop} {Q : α → TunBridge Script → Prop}
    {act : TunAction Script α} {f : α → TunAction Script β} (hact : Triple P act Q noError)
    (hf : ∀ a, Fails (Q a) (f a)) : Fails P (act >>= f) :=
  Triple.bind (hact.weaken (fun _ h => h) (fun _ _ h => h) fun _ _ _ => trivial) hf

section Handlers

variable {config : TunBridgeConfig} {clock : ℕ → ℕ} {limit : ℕ} {position : Position}
  {frames records unsent : List (List UInt8)}

/-- only the host and the aggregator count -/
theorem Session.same {s s' : TunBridge Script} (h : Session config clock limit position frames records unsent s)
    (hhost : s'.host = s.host) (haggregator : s'.aggregator = s.aggregator) :
    Session config clock limit position frames records unsent s' := by
  obtain ⟨hinputs, hclock, htick, hlimit, hagg, hmax, hwritten, hsent⟩ := h
  rw [← hhost] at hinputs hclock htick hlimit hwritten hsent
  rw [← haggregator] at hagg hmax hsent
  exact ⟨hinputs, hclock, htick, hlimit, hagg, hmax, hwritten, hsent⟩

theorem session_count (f : Counters → Counters) :
    Triple (Session config clock limit position frames records unsent) (count f)
      (fun _ => Session config clock limit position frames records unsent) noError :=
  Triple.modify fun _ h => h.same rfl rfl

theorem session_now :
    Triple (Session config clock limit position frames records unsent) (onHost TunHost.instantNow)
      (fun now s => now = clock position.tick ∧
        Session config clock limit { position with tick := position.tick + 1 } frames records unsent s) noError := by
  refine Triple.ofState fun s h => ⟨?_, h.inputs_eq, h.clock_eq, congrArg (· + 1) h.tick_eq, h.limit_eq,
    h.aggregator_eq, h.maxSize_eq, h.written_eq, h.sent_eq⟩
  rw [← h.tick_eq, ← h.clock_eq]
  rfl

theorem script_poll {round : Round} {rounds : List Round} (hrounds : position.inputs.rounds = round :: rounds)
    (timeoutMs : ℕ) :
    Triple (Session config clock limit position frames records []) (onHost fun host => TunHost.poll host timeoutMs)
      (fun ready s => ready = .ok (some ⟨round.frame.isSome, round.message.isSome⟩) ∧
        Session config clock limit { position with inputs := ⟨rounds, round.frame, round.message⟩ } frames records []
          s) noError := by
  refine Triple.ofState fun s h => ?_
  have hhost : s.host.inputs.rounds = round :: rounds := by rw [h.inputs_eq, hrounds]
  have hpoll : TunHost.poll s.host timeoutMs = (.ok (some ⟨round.frame.isSome, round.message.isSome⟩),
      { s.host with inputs := ⟨rounds, round.frame, round.message⟩ }) := by
    simp only [TunHost.poll, hhost]
  dsimp only
  rw [hpoll]
  exact ⟨rfl, rfl, h.clock_eq, h.tick_eq, h.limit_eq, h.aggregator_eq, h.maxSize_eq, h.written_eq, h.sent_eq⟩

/-! ### Sending -/

theorem sendTo_of_le {host : Script} {message : List UInt8} (h : message.length ≤ host.sendLimit) :
    TunHost.sendTo host message = (.ok (), { host with sent := host.sent ++ [message] }) := if_pos h

theorem sendTo_of_not_le {host : Script} {message : List UInt8} (h : ¬ message.length ≤ host.sendLimit) :
    TunHost.sendTo host message = (.error ⟨.other, "Message too long (os error 40)"⟩, host) := if_neg h

theorem session_send (context : String) {message : List UInt8} (hlimit : message.length ≤ limit) :
    Triple (Session config clock limit position frames records (message :: unsent)) (sendMessage context message)
      (fun _ => Session config clock limit position frames records unsent) noError := by
  refine Triple.bind
    (Q := fun sent s => sent = .ok () ∧ Session config clock limit position frames records unsent s)
    (Triple.ofState fun s h => ?_) fun sent => Triple.assume fun hsent => ?_
  · dsimp only
    rw [sendTo_of_le (h.limit_eq ▸ hlimit)]
    refine ⟨rfl, h.inputs_eq, h.clock_eq, h.tick_eq, h.limit_eq, h.aggregator_eq, h.maxSize_eq, h.written_eq, ?_⟩
    obtain ⟨b, href, hitems⟩ := h.sent_eq
    rw [List.append_cons] at href
    exact ⟨b, href, hitems⟩
  · rw [hsent]
    exact session_count _

/-- a datagram that is too long is refused, and ends the session -/
theorem send_fails (context : String) {message : List UInt8} (hlimit : ¬ message.length ≤ limit) :
    Fails (Session config clock limit position frames records unsent) (sendMessage context message) := by
  refine Triple.bind (Q := fun sent _ => sent = .error ⟨.other, "Message too long (os error 40)"⟩)
    (Triple.ofState fun s h => ?_) fun sent => ?_
  · dsimp only
    rw [sendTo_of_not_le (h.limit_eq ▸ hlimit)]
  · intro s hsent
    rw [hsent]
    exact trivial

theorem session_sends (context : String) {messages : List (List UInt8)}
    (hlimit : ∀ message ∈ messages, message.length ≤ limit) :
    Triple (Session config clock limit position frames records messages) (sendMessages context messages)
      (fun _ => Session config clock limit position frames records []) noError := by
  induction messages with
  | nil => exact Triple.pure fun _ h => h
  | cons message messages ih =>
    obtain ⟨hfirst, hrest⟩ := List.forall_mem_cons.1 hlimit
    exact Triple.bind (session_send context hfirst) fun _ => ih hrest

theorem sends_fails (context : String) {messages : List (List UInt8)}
    (hlimit : ¬ ∀ message ∈ messages, message.length ≤ limit) :
    Fails (Session config clock limit position frames records messages) (sendMessages context messages) := by
  induction messages with
  | nil => exact absurd nofun hlimit
  | cons message messages ih =>
    by_cases hfirst : message.length ≤ limit
    · refine fails_of_succeeds (session_send context hfirst) fun _ => ih fun hrest => hlimit ?_
      exact List.forall_mem_cons.2 ⟨hfirst, hrest⟩
    · exact Triple.bind_fails (send_fails context hfirst)

/-! ### Writing -/

theorem session_write {header record : List UInt8} (hframe : header ++ record = utunFrame record) :
    Triple (Session config clock limit position frames records unsent) (writeAll header record)
      (fun _ => Session config clock limit position frames (records ++ [record]) unsent) noError := by
  rw [writeAll, hframe]
  refine Triple.bind (Q := fun wrote s => wrote = .ok (utunFrame record).length ∧
      Session config clock limit position frames (records ++ [record]) unsent s)
    (Triple.ofState fun s h => ⟨rfl, h.inputs_eq, h.clock_eq, h.tick_eq, h.limit_eq, h.aggregator_eq, h.maxSize_eq,
      ?_, h.sent_eq⟩) fun wrote => Triple.assume fun hwrote => ?_
  · rw [List.map_append, ← h.written_eq]
    rfl
  · rw [hwrote]
    dsimp only
    rw [if_neg (not_not.2 rfl)]
    exact Triple.pure fun _ h => h

theorem session_writes {packets : List (List UInt8)} (hgood : ∀ record ∈ packets, WellFormed record) :
    Triple (Session config clock limit position frames records unsent) (writePackets packets)
      (fun _ => Session config clock limit position frames (records ++ packets) unsent) noError := by
  induction packets generalizing records with
  | nil =>
    rw [List.append_nil]
    exact Triple.pure fun _ h => h
  | cons record packets ih =>
    obtain ⟨header, hheader, hframe⟩ := utunAfHeader_wellFormed (hgood record List.mem_cons_self)
    rw [writePackets, hheader, liftTun_ok_bind, List.append_cons]
    exact Triple.bind (session_write hframe) fun _ =>
      Triple.bind (session_count _) fun _ => ih fun record hrecord => hgood record (List.mem_cons_of_mem _ hrecord)

theorem writePackets_fails {packets : List (List UInt8)} (hbad : ¬ ∀ record ∈ packets, WellFormed record) :
    Fails (fun _ => True) (writePackets packets) := by
  induction packets with
  | nil => exact absurd nofun hbad
  | cons record packets ih =>
    by_cases hgood : WellFormed record
    · have hrest : ¬ ∀ record ∈ packets, WellFormed record := fun h => hbad (List.forall_mem_cons.2 ⟨hgood, h⟩)
      exact Triple.bind Triple.trivial fun _ => Triple.bind Triple.trivial fun _ =>
        Triple.bind Triple.trivial fun _ => ih hrest
    · obtain ⟨e, he⟩ := utunAfHeader_malformed hgood
      rw [writePackets, he, liftTun_error_bind]
      exact Triple.fail fun _ _ => trivial

theorem session_parse (message : List UInt8) :
    Triple (Session config clock limit position frames records unsent) (parseMessage message)
      (fun packets s => packets = (tunnelScan message).1 ∧
        Session config clock limit position frames records unsent s) noError := by
  refine Triple.bind (Triple.read (Q := fun _ => Session config clock limit position frames records unsent)
    fun _ h => h) fun counters => ?_
  rw [parseTunnelMessage_eq]
  exact Triple.bind (session_count _) fun _ => Triple.pure fun _ h => ⟨rfl, h⟩

/-! ### The interface -/

/-- a packet that fits is taken in, and what the aggregator emits for it is about to be sent -/
theorem session_add {frame : List UInt8} (hfits : Fits config.radioMtu (frame.drop 4)) (now : ℕ) :
    Triple (Session config clock limit position frames records []) (addPacket (frame.drop 4) now)
      (fun messages s => messages = position.aggregator.emits [.add (frame.drop 4) now] ∧
        Session config clock limit
          { position with aggregator := position.aggregator.after [.add (frame.drop 4) now] } (frames ++ [frame])
          records messages s) noError := by
  refine Triple.bind (Q := fun out s => ∃ messages, out = .ok messages ∧
    messages = position.aggregator.emits [.add (frame.drop 4) now] ∧
    Session config clock limit { position with aggregator := position.aggregator.after [.add (frame.drop 4) now] }
      (frames ++ [frame]) records messages s) (Triple.ofState fun s h => ?_) fun out s hs => ?_
  · obtain ⟨b, href, hitems⟩ := h.sent_eq
    obtain ⟨out, hout, hmax, -, b', hitems', href'⟩ := add_refines href (h.maxSize_eq ▸ hfits) now
    have hnonempty : out.filter (· ≠ []) = out := by
      refine List.filter_eq_self.2 fun message hmessage => ?_
      simpa using href'.nonempty_messages message (List.mem_append_right _ hmessage)
    refine ⟨out, hout, ?_, h.inputs_eq, h.clock_eq, h.tick_eq, h.limit_eq, ?_, hmax.trans h.maxSize_eq,
      h.written_eq, b', ?_, ?_⟩
    · rw [← h.aggregator_eq, Aggregator.emits_single, Aggregator.step, hout]
      rfl
    · rw [← h.aggregator_eq]
      rfl
    · rw [List.append_nil] at href'
      rw [List.filter_append, hnonempty]
      exact href'
    · rw [hitems', List.map_append, List.map_append, hitems]
      rfl
  · obtain ⟨messages, rfl, hs⟩ := hs
    exact hs

theorem addPacket_fails {packet : List UInt8} (hunfit : ¬ Fits config.radioMtu packet) (now : ℕ) :
    Fails (Session config clock limit position frames records []) (addPacket packet now) := by
  refine Triple.bind (Q := fun out _ => ∃ e, out = .error e)
    (Triple.ofState fun s h => add_unfit (h.maxSize_eq ▸ hunfit) now) fun out s hs => ?_
  obtain ⟨e, rfl⟩ := hs
  exact trivial

variable {round : Round} {rounds : List Round}

/-- behind the frame of a round -/
def Position.added (config : TunBridgeConfig) (clock : ℕ → ℕ) (round : Round) (position : Position) : Position where
  inputs := position.inputs
  tick := position.tick + (round.frames config).length
  aggregator := position.aggregator.after (round.adds config clock position.tick)

/-- reading the frame of a round -/
theorem session_read {frame : List UInt8} (hframe : position.inputs.frame = some frame) :
    Triple (Session config clock limit position frames records [])
      (onHost fun host => TunHost.tunRead host (min (config.tunMtu + 4) usizeMax))
      (fun read s => read = .ok (frame.take (min (config.tunMtu + 4) usizeMax)) ∧
        Session config clock limit position frames records [] s) noError := by
  refine Triple.ofState fun s h => ⟨?_, h⟩
  change received s.host.inputs.frame _ = _
  rw [h.inputs_eq, hframe, received]

theorem frames_some {frame : List UInt8} (hframe : round.frame = some frame) :
    round.frames config = [frame.take (min (config.tunMtu + 4) usizeMax)] := by
  rw [Round.frames, hframe]
  rfl

theorem session_tun (hinputs : position.inputs.frame = round.frame)
    (hgood : ∀ frame ∈ round.frames config, Sendable config frame)
    (hsends : ∀ message ∈ position.aggregator.emits (round.adds config clock position.tick), message.length ≤ limit) :
    Triple (Session config clock limit position frames records [])
      (if round.frame.isSome then handleTun config else pure ())
      (fun _ => Session config clock limit (position.added config clock round) (frames ++ round.frames config) records
        []) noError := by
  unfold Position.added
  cases hframe : round.frame with
  | none =>
    have hnone : round.frames config = [] := by rw [Round.frames, hframe]; rfl
    rw [hnone, List.append_nil, Round.adds, hnone]
    exact Triple.pure fun _ h => h
  | some frame =>
    rw [Round.adds, frames_some hframe] at hsends ⊢
    rw [frames_some hframe] at hgood
    have hsendable := hgood _ List.mem_cons_self
    refine Triple.bind (session_read (hinputs.trans hframe)) fun read => Triple.assume fun hread => ?_
    rw [hread]
    dsimp only
    rw [stripUtunHeader_sendable hsendable, liftTun_ok_bind]
    refine Triple.bind (session_count _) fun _ => Triple.bind session_now fun now => Triple.assume fun hnow => ?_
    refine Triple.bind (session_add hsendable.2.2 now) fun messages => Triple.assume fun hmessages => ?_
    rw [hnow] at hmessages ⊢
    exact session_sends _ (hmessages ▸ hsends)

theorem tun_fails (hinputs : position.inputs.frame = round.frame)
    (hbad : ¬((∀ frame ∈ round.frames config, Sendable config frame) ∧
      ∀ message ∈ position.aggregator.emits (round.adds config clock position.tick), message.length ≤ limit)) :
    Fails (Session config clock limit position frames records [])
      (if round.frame.isSome then handleTun config else pure ()) := by
  cases hframe : round.frame with
  | none =>
    have hnone : round.frames config = [] := by rw [Round.frames, hframe]; rfl
    rw [Round.adds, hnone] at hbad
    exact absurd ⟨nofun, nofun⟩ hbad
  | some frame =>
    rw [Round.adds, frames_some hframe] at hbad
    refine fails_of_succeeds (session_read (hinputs.trans hframe)) fun read => Triple.assume fun hread => ?_
    rw [hread]
    dsimp only
    by_cases hsendable : Sendable config (frame.take (min (config.tunMtu + 4) usizeMax))
    · rw [stripUtunHeader_sendable hsendable, liftTun_ok_bind]
      refine fails_of_succeeds (session_count _) fun _ => fails_of_succeeds session_now fun now =>
        Triple.assume fun hnow => ?_
      refine fails_of_succeeds (session_add hsendable.2.2 now) fun messages => Triple.assume fun hmessages => ?_
      rw [hnow] at hmessages
      refine sends_fails _ fun hsends => hbad ⟨fun frame hmem => ?_, hmessages ▸ hsends⟩
      exact List.mem_singleton.1 hmem ▸ hsendable
    · rcases stripUtunHeader_unsendable hsendable with ⟨e, he⟩ | ⟨hstrip, hunfit⟩
      · rw [he, liftTun_error_bind]
        exact Triple.fail fun _ _ => trivial
      · rw [hstrip, liftTun_ok_bind]
        exact fails_of_succeeds (session_count _) fun _ => fails_of_succeeds session_now fun now =>
          Triple.assume fun _ => Triple.bind_fails (addPacket_fails hunfit now)

/-! ### The socket -/

/-- reading the datagram of a round, and its records -/
theorem session_receive {message : List UInt8} (hmessage : position.inputs.message = some message) :
    Triple (Session config clock limit position frames records [])
      (onHost fun host => TunHost.recvFrom host (min (config.radioMtu + 256) usizeMax))
      (fun read s => read = .ok (message.take (min (config.radioMtu + 256) usizeMax)) ∧
        Session config clock limit position frames records [] s) noError := by
  refine Triple.ofState fun s h => ⟨?_, h⟩
  change received s.host.inputs.message _ = _
  rw [h.inputs_eq, hmessage, received]

theorem records_some {message : List UInt8} (hmessage : round.message = some message) :
    round.records config = (tunnelScan (message.take (min (config.radioMtu + 256) usizeMax))).1 := by
  rw [Round.records, hmessage]
  rfl

theorem session_udp (hinputs : position.inputs.message = round.message)
    (hgood : ∀ record ∈ round.records config, WellFormed record) :
    Triple (Session config clock limit position frames records [])
      (if round.message.isSome then handleUdp config else pure ())
      (fun _ => Session config clock limit position frames (records ++ round.records config) []) noError := by
  cases hmessage : round.message with
  | none =>
    have hnone : round.records config = [] := by rw [Round.records, hmessage]; rfl
    rw [hnone, List.append_nil]
    exact Triple.pure fun _ h => h
  | some message =>
    rw [records_some hmessage] at hgood ⊢
    refine Triple.bind (session_receive (hinputs.trans hmessage)) fun read => Triple.assume fun hread => ?_
    rw [hread]
    refine Triple.bind (session_count _) fun _ => Triple.bind (session_parse _) fun packets =>
      Triple.assume fun hpackets => ?_
    rw [hpackets]
    exact session_writes hgood

theorem udp_fails (hinputs : position.inputs.message = round.message)
    (hbad : ¬ ∀ record ∈ round.records config, WellFormed record) :
    Fails (Session config clock limit position frames records [])
      (if round.message.isSome then handleUdp config else pure ()) := by
  cases hmessage : round.message with
  | none =>
    have hnone : round.records config = [] := by rw [Round.records, hmessage]; rfl
    rw [hnone] at hbad
    exact absurd nofun hbad
  | some message =>
    rw [records_some hmessage] at hbad
    refine fails_of_succeeds (session_receive (hinputs.trans hmessage)) fun read => Triple.assume fun hread => ?_
    rw [hread]
    refine fails_of_succeeds (session_count _) fun _ => fails_of_succeeds (session_parse _) fun packets =>
      Triple.assume fun hpackets => ?_
    rw [hpackets]
    exact (writePackets_fails hbad).weaken (fun _ _ => trivial) (fun _ _ h => h) fun _ _ h => h

/-! ### Behind the poll -/

/-- what is due is taken out of the aggregator, and about to be sent -/
theorem session_takeDue (now : ℕ) :
    Triple (Session config clock limit position frames records [])
      (Action.ofState fun s => ((s.aggregator.flushDue now).1, { s with aggregator := (s.aggregator.flushDue now).2 }))
      (fun due s => due.toList = position.aggregator.emits [.flushDue now] ∧
        Session config clock limit { position with aggregator := position.aggregator.after [.flushDue now] } frames
          records due.toList s) noError := by
  refine Triple.ofState fun s h => ?_
  obtain ⟨b, href, hitems⟩ := h.sent_eq
  obtain ⟨hmax, -, b', hitems', href'⟩ := flushDue_refines href now
  have hnonempty : (s.aggregator.flushDue now).1.toList.filter (· ≠ []) = (s.aggregator.flushDue now).1.toList := by
    refine List.filter_eq_self.2 fun message hmessage => ?_
    simpa using href'.nonempty_messages message (List.mem_append_right _ hmessage)
  refine ⟨?_, h.inputs_eq, h.clock_eq, h.tick_eq, h.limit_eq, ?_, hmax.trans h.maxSize_eq, h.written_eq, b', ?_, ?_⟩
  · rw [← h.aggregator_eq, Aggregator.emits_single]
    rfl
  · rw [← h.aggregator_eq]
    rfl
  · rw [List.append_nil] at href'
    rw [List.filter_append, hnonempty]
    exact href'
  · rw [hitems', hitems]

theorem session_due {now : ℕ}
    (hsends : ∀ message ∈ position.aggregator.emits [.flushDue now], message.length ≤ limit) :
    Triple (Session config clock limit position frames records []) (sendDue now)
      (fun _ => Session config clock limit { position with aggregator := position.aggregator.after [.flushDue now] }
        frames records []) noError := by
  refine Triple.bind (session_takeDue now) fun due => Triple.assume fun hdue => ?_
  rw [← hdue] at hsends
  cases due with
  | none => exact Triple.pure fun _ h => h
  | some message => exact session_send _ (hsends message List.mem_cons_self)

theorem due_fails {now : ℕ}
    (hsends : ¬ ∀ message ∈ position.aggregator.emits [.flushDue now], message.length ≤ limit) :
    Fails (Session config clock limit position frames records []) (sendDue now) := by
  refine fails_of_succeeds (session_takeDue now) fun due => Triple.assume fun hdue => ?_
  rw [← hdue] at hsends
  cases due with
  | none => exact absurd nofun hsends
  | some message =>
    refine send_fails _ fun hlimit => hsends fun other hmem => ?_
    exact List.mem_singleton.1 hmem ▸ hlimit

/-- a keepalive is an empty datagram -/
theorem session_keepalive (now : ℕ) :
    Triple (Session config clock limit position frames records []) (sendKeepalive config now)
      (fun _ => Session config clock limit position frames records []) noError := by
  refine Triple.bind (Triple.read (Q := fun _ => Session config clock limit position frames records []) fun _ h => h)
    fun nextKeepalive => ?_
  split_ifs
  · refine Triple.bind (Q := fun sent s => sent = .ok () ∧ Session config clock limit position frames records [] s)
      (Triple.ofState fun s h => ?_) fun sent => Triple.assume fun hsent => ?_
    · dsimp only
      rw [sendTo_of_le (show ([] : List UInt8).length ≤ s.host.sendLimit from Nat.zero_le _)]
      refine ⟨rfl, h.inputs_eq, h.clock_eq, h.tick_eq, h.limit_eq, h.aggregator_eq, h.maxSize_eq, h.written_eq, ?_⟩
      obtain ⟨b, href, hitems⟩ := h.sent_eq
      refine ⟨b, ?_, hitems⟩
      have hempty : ((s.host.sent ++ [[]]) ++ []).filter (· ≠ []) = (s.host.sent ++ []).filter (· ≠ []) := by simp
      rw [← hempty] at href
      exact href
    · rw [hsent]
      exact Triple.bind (session_count _) fun _ => Triple.modify fun _ h => h.same rfl rfl
  · exact Triple.pure fun _ h => h

theorem session_stats (now : ℕ) :
    Triple (Session config clock limit position frames records []) (logStats config now)
      (fun _ => Session config clock limit position frames records []) noError := by
  refine Triple.modify fun s h => ?_
  split
  · split_ifs
    · exact h.same rfl rfl
    · exact h
  · exact h

/-! ### Rounds -/

/-- behind a round -/
def Position.next (config : TunBridgeConfig) (clock : ℕ → ℕ) (round : Round) (rounds : List Round)
    (position : Position) : Position where
  inputs := ⟨rounds, round.frame, round.message⟩
  tick := round.nextTick config position.tick
  aggregator := position.aggregator.after (round.ops config clock position.tick)

/-- from the poll on, the inputs are those of the round -/
def Position.polled (round : Round) (rounds : List Round) (position : Position) : Position :=
  { position with inputs := ⟨rounds, round.frame, round.message⟩ }

theorem session_poll (hrounds : position.inputs.rounds = round :: rounds)
    (hframes : ∀ frame ∈ round.frames config, Sendable config frame)
    (hsends : ∀ message ∈ position.aggregator.emits (round.adds config clock position.tick), message.length ≤ limit)
    (hrecords : ∀ record ∈ round.records config, WellFormed record) (timeout : ℕ) :
    Triple (Session config clock limit position frames records []) (pollTwo config timeout)
      (fun _ => Session config clock limit ((position.polled round rounds).added config clock round)
        (frames ++ round.frames config) (records ++ round.records config) []) noError := by
  refine Triple.bind (script_poll hrounds _) fun ready => Triple.assume fun hready => ?_
  rw [hready]
  dsimp only
  rw [handle_eq]
  exact Triple.bind (session_tun rfl hframes hsends) fun _ => session_udp rfl hrecords

theorem poll_fails (hrounds : position.inputs.rounds = round :: rounds)
    (hbad : ¬(((∀ frame ∈ round.frames config, Sendable config frame) ∧
      ∀ message ∈ position.aggregator.emits (round.adds config clock position.tick), message.length ≤ limit) ∧
        ∀ record ∈ round.records config, WellFormed record)) (timeout : ℕ) :
    Fails (Session config clock limit position frames records []) (pollTwo config timeout) := by
  refine fails_of_succeeds (script_poll hrounds _) fun ready => Triple.assume fun hready => ?_
  rw [hready]
  dsimp only
  rw [handle_eq]
  by_cases htun : (∀ frame ∈ round.frames config, Sendable config frame) ∧
    ∀ message ∈ position.aggregator.emits (round.adds config clock position.tick), message.length ≤ limit
  · exact fails_of_succeeds (session_tun rfl htun.1 htun.2) fun _ => udp_fails rfl fun hudp => hbad ⟨htun, hudp⟩
  · exact Triple.bind_fails (tun_fails rfl htun)

/-- the beginning of a round: the clock is read, and the time-out found -/
def Position.begun (position : Position) : Position := { position with tick := position.tick + 1 }

theorem session_timeout :
    Triple (Session config clock limit position frames records []) (Action.read TunBridge.timeoutAt)
      (fun _ => Session config clock limit position frames records []) noError :=
  Triple.read fun _ h => h

/-- **A good round** takes in its frame and writes its records. -/
theorem round_delivers (hrounds : position.inputs.rounds = round :: rounds)
    (hgood : round.Good config clock limit position.tick position.aggregator) :
    Triple (Session config clock limit position frames records []) (Tunnel.round config)
      (fun _ => Session config clock limit (position.next config clock round rounds) (frames ++ round.frames config)
        (records ++ round.records config) []) noError := by
  have hsends := hgood.sends
  rw [Round.ops, Aggregator.emits_append, List.forall_mem_append] at hsends
  have hbegun : position.begun.inputs.rounds = round :: rounds := hrounds
  refine Triple.bind session_now fun _ => Triple.assume fun _ => Triple.bind session_timeout fun _ => ?_
  refine Triple.bind (session_poll hbegun hgood.frames hsends.1 hgood.records _) fun _ => ?_
  refine Triple.bind session_now fun now => Triple.assume fun hnow => ?_
  rw [hnow, Position.next, Round.ops, Aggregator.after_append]
  exact Triple.bind (session_due hsends.2) fun _ => Triple.bind (session_keepalive _) fun _ => session_stats _

/-- **Any other round** ends in an error. -/
theorem round_fails (hrounds : position.inputs.rounds = round :: rounds)
    (hbad : ¬ round.Good config clock limit position.tick position.aggregator) :
    Fails (Session config clock limit position frames records []) (Tunnel.round config) := by
  have hbegun : position.begun.inputs.rounds = round :: rounds := hrounds
  refine fails_of_succeeds session_now fun _ => Triple.assume fun _ => fails_of_succeeds session_timeout fun _ => ?_
  by_cases hpoll : ((∀ frame ∈ round.frames config, Sendable config frame) ∧
      ∀ message ∈ position.aggregator.emits (round.adds config clock (position.tick + 1)), message.length ≤ limit) ∧
    ∀ record ∈ round.records config, WellFormed record
  · refine fails_of_succeeds (session_poll hbegun hpoll.1.1 hpoll.1.2 hpoll.2 _) fun _ => ?_
    refine fails_of_succeeds session_now fun now => Triple.assume fun hnow => Triple.bind_fails (due_fails ?_)
    intro hdue
    refine hbad ⟨hpoll.2, hpoll.1.1, ?_⟩
    rw [Round.ops, Aggregator.emits_append, List.forall_mem_append]
    exact ⟨hpoll.1.2, hnow ▸ hdue⟩
  · exact Triple.bind_fails (poll_fails hbegun hpoll _)

end Handlers

/-! ## Whole sessions -/

/-- the outcome of a session whose inputs are all good, with `unsent` still to be sent -/
def Delivered (frames records unsent : List (List UInt8)) (s : TunBridge Script) : Prop :=
  s.host.written = records.map utunFrame ∧
    ∀ counters, parseTunnelMessages counters (s.host.sent ++ unsent) = .ok (frames.map (List.drop 4), counters)

section Sessions

variable {config : TunBridgeConfig} {clock : ℕ → ℕ} {limit : ℕ} {position : Position}
  {frames records : List (List UInt8)} {rounds : List Round}

/-- at the end, what is left is taken out of the aggregator, and about to be sent -/
theorem session_takeFinal (hgood : ∀ frame ∈ frames, Sendable config frame) :
    Triple (Session config clock limit position frames records [])
      (Action.ofState fun s => (s.aggregator.flush.1, { s with aggregator := s.aggregator.flush.2 }))
      (fun message s => (nonempty message).toList = position.aggregator.emits [.flush] ∧
        s.host.sendLimit = limit ∧ Delivered frames records (nonempty message).toList s) noError := by
  refine Triple.ofState fun s h => ⟨?_, h.limit_eq, h.written_eq, fun counters => ?_⟩
  · rw [← h.aggregator_eq, Aggregator.emits_single]
    rfl
  obtain ⟨b, href, hitems⟩ := h.sent_eq
  have hflush := flush_refines href
  have hflat : b.close.closed.flatten.map Prod.fst = frames.map (List.drop 4) := by
    rw [← hitems, ← b.items_close, Batcher.items, Batcher.close_pending, List.append_nil]
  have hlt : ∀ x ∈ b.close.closed.flatten, x.1.length < 2 ^ 16 := by
    intro x hx
    have hpacket : x.1 ∈ frames.map (List.drop 4) := hflat ▸ List.mem_map_of_mem hx
    obtain ⟨frame, hframe, hdrop⟩ := List.mem_map.1 hpacket
    exact hdrop ▸ (hgood frame hframe).2.2.2
  have hsent : (s.host.sent ++ (nonempty s.aggregator.flush.1).toList).filter (· ≠ []) =
      b.close.closed.map encodeBatch := by
    rw [← hflush.messages_eq, List.append_nil, List.filter_append]
    congr 1
    refine List.filter_eq_self.2 fun message hmessage => ?_
    simpa using hflush.nonempty_messages message (List.mem_append_right _ hmessage)
  rw [← parseTunnelMessages_filter]
  dsimp only
  rw [hsent, parse_batches hlt, hflat]

theorem session_final (hgood : ∀ frame ∈ frames, Sendable config frame)
    (hsends : ∀ message ∈ position.aggregator.emits [.flush], message.length ≤ limit) :
    Triple (Session config clock limit position frames records []) sendFinal
      (fun _ => Delivered frames records []) noError := by
  refine Triple.bind (session_takeFinal hgood) fun message => Triple.assume fun hmessage => ?_
  rw [← hmessage] at hsends
  generalize nonempty message = final at hsends ⊢
  cases final with
  | none => exact Triple.pure fun _ h => h.2
  | some message =>
    have hle := hsends message List.mem_cons_self
    refine Triple.bind (Q := fun sent s => sent = .ok () ∧ Delivered frames records [] s)
      (Triple.ofState fun s h => ?_) fun sent => Triple.assume fun hsent => ?_
    · dsimp only
      rw [sendTo_of_le (h.1.symm ▸ hle)]
      refine ⟨rfl, h.2.1, fun counters => ?_⟩
      rw [List.append_nil]
      exact h.2.2 counters
    · rw [hsent]
      exact Triple.modify fun _ h => h

theorem final_fails (hgood : ∀ frame ∈ frames, Sendable config frame)
    (hsends : ¬ ∀ message ∈ position.aggregator.emits [.flush], message.length ≤ limit) :
    Fails (Session config clock limit position frames records []) sendFinal := by
  refine fails_of_succeeds (session_takeFinal hgood) fun message => Triple.assume fun hmessage => ?_
  rw [← hmessage] at hsends
  generalize nonempty message = final at hsends ⊢
  cases final with
  | none => exact absurd nofun hsends
  | some message =>
    have hlong : ¬ message.length ≤ limit := fun hle => hsends fun other hmem => List.mem_singleton.1 hmem ▸ hle
    refine Triple.bind (Q := fun sent _ => sent = .error ⟨.other, "Message too long (os error 40)"⟩)
      (Triple.ofState fun s h => ?_) fun sent => ?_
    · dsimp only
      rw [sendTo_of_not_le (h.1.symm ▸ hlong)]
    · intro s hsent
      rw [hsent]
      exact trivial

/-- the rounds so far were good and were delivered, and the session is good if it is so from here on -/
structure ProgressAt (config : TunBridgeConfig) (clock : ℕ → ℕ) (limit : ℕ) (rounds done : List Round)
    (position : Position) (s : TunBridge Script) : Prop where
  rounds_eq : done ++ position.inputs.rounds = rounds
  sendable : ∀ frame ∈ done.flatMap (·.frames config), Sendable config frame
  good_iff : GoodFrom config clock limit (startTick config) (Aggregator.new config.radioMtu config.aggTimeout) rounds ↔
    GoodFrom config clock limit position.tick position.aggregator position.inputs.rounds
  session : Session config clock limit position (done.flatMap (·.frames config)) (done.flatMap (·.records config)) [] s

def Progress (config : TunBridgeConfig) (clock : ℕ → ℕ) (limit : ℕ) (rounds : List Round) (s : TunBridge Script) :
    Prop :=
  ∃ done position, ProgressAt config clock limit rounds done position s

/-- a good session delivers its rounds, and any other one ends in an error -/
def Verdict (config : TunBridgeConfig) (clock : ℕ → ℕ) (limit : ℕ) (rounds : List Round)
    (outcome : TunOutcome Script) : Prop :=
  (GoodFrom config clock limit (startTick config) (Aggregator.new config.radioMtu config.aggTimeout) rounds ∧
    outcome.1 = .ok () ∧
    Delivered (rounds.flatMap (·.frames config)) (rounds.flatMap (·.records config)) [] outcome.2) ∨
  ¬ GoodFrom config clock limit (startTick config) (Aggregator.new config.radioMtu config.aggTimeout) rounds ∧
    outcome.1 ≠ .ok ()

/-- the turn behind the last round -/
theorem final_verdict {done : List Round} {s : TunBridge Script}
    (h : ProgressAt config clock limit rounds done position s) (hrounds : position.inputs.rounds = []) :
    Verdict config clock limit rounds (sendFinal s) := by
  have hdone := h.rounds_eq
  have hgood := h.good_iff
  rw [hrounds] at hdone hgood
  rw [List.append_nil] at hdone
  subst hdone
  by_cases hsends : ∀ message ∈ position.aggregator.emits [.flush], message.length ≤ limit
  · obtain ⟨_, s', hrun, hfinal⟩ := (session_final h.sendable hsends).succeeds h.session
    rw [hrun]
    exact .inl ⟨hgood.2 hsends, rfl, hfinal⟩
  · obtain ⟨e, s', hrun, -⟩ := (final_fails h.sendable hsends).fails h.session
    rw [hrun]
    exact .inr ⟨fun hall => hsends (hgood.1 hall), nofun⟩

/-- a good round leads on -/
theorem ProgressAt.next {done rest : List Round} {round : Round} {s s' : TunBridge Script}
    (h : ProgressAt config clock limit rounds done position s) (hrounds : position.inputs.rounds = round :: rest)
    (hround : round.Good config clock limit position.tick position.aggregator)
    (hsession : Session config clock limit (position.next config clock round rest)
      (done.flatMap (·.frames config) ++ round.frames config)
      (done.flatMap (·.records config) ++ round.records config) [] s') :
    ProgressAt config clock limit rounds (done ++ [round]) (position.next config clock round rest) s' where
  rounds_eq := by rw [← h.rounds_eq, hrounds, List.append_assoc]; rfl
  sendable := by
    rw [List.flatMap_append, List.flatMap_singleton]
    exact List.forall_mem_append.2 ⟨h.sendable, hround.frames⟩
  good_iff := by
    rw [h.good_iff, hrounds, GoodFrom]
    exact and_iff_right hround
  session := by
    rw [List.flatMap_append, List.flatMap_append, List.flatMap_singleton, List.flatMap_singleton]
    exact hsession

theorem turn_progress (s : TunBridge Script) (h : Progress config clock limit rounds s) :
    (tunTurn config s).Sat (fun s' => Progress config clock limit rounds s' ∧
      s'.host.inputs.rounds.length < s.host.inputs.rounds.length) (Verdict config clock limit rounds) := by
  obtain ⟨done, position, hprogress⟩ := h
  have hinputs := hprogress.session.inputs_eq
  rw [tunTurn]
  cases hrounds : position.inputs.rounds with
  | nil =>
    have hstop : TunHost.stopRequested s.host = (true, s.host) := by simp [TunHost.stopRequested, hinputs, hrounds]
    rw [hstop]
    exact final_verdict hprogress hrounds
  | cons round rest =>
    have hstop : TunHost.stopRequested s.host = (false, s.host) := by simp [TunHost.stopRequested, hinputs, hrounds]
    rw [hstop]
    by_cases hround : round.Good config clock limit position.tick position.aggregator
    · obtain ⟨_, s', hrun, hdelivers⟩ := (round_delivers hrounds hround).succeeds hprogress.session
      simp only [hrun]
      refine ⟨⟨_, _, hprogress.next hrounds hround hdelivers⟩, ?_⟩
      rw [hdelivers.inputs_eq, hinputs, hrounds]
      exact Nat.lt_succ_self _
    · obtain ⟨e, s', hrun, -⟩ := (round_fails hrounds hround).fails hprogress.session
      simp only [hrun]
      refine .inr ⟨fun hall => hround ?_, fun hok => ?_⟩
      · rw [hprogress.good_iff, hrounds, GoodFrom] at hall
        exact hall.1
      · cases hok

end Sessions

section Outcome

variable (config : TunBridgeConfig) (rounds : List Round) (clock : ℕ → ℕ) (limit : ℕ)

/-- **The outcome of a session**, over every script, every clock and every limit. -/
theorem runTunBridge_verdict {fuel : ℕ} (hfuel : rounds.length < fuel) :
    ∃ outcome, runTunBridge config (Script.start rounds clock limit) fuel = .stopped outcome ∧
      Verdict config clock limit rounds outcome := by
  have hnew := new_refines config.radioMtu config.aggTimeout
  refine @loopFor_stops _ _ _ (Progress config clock limit rounds) _ (fun s => s.host.inputs.rounds.length)
    turn_progress _ _ ?_ ?_
  · rw [TunBridge.start]
    cases config.statsInterval <;> exact hfuel
  · refine ⟨[], ⟨⟨rounds, none, none⟩, startTick config, Aggregator.new config.radioMtu config.aggTimeout⟩, rfl,
      nofun, Iff.rfl, ?_⟩
    rw [TunBridge.start, startTick]
    cases config.statsInterval <;> exact ⟨rfl, rfl, rfl, rfl, rfl, rfl, rfl, {}, hnew, rfl⟩

/-- a session is resilient exactly if it is good -/
theorem resilient_iff_good {fuel : ℕ} (hfuel : rounds.length < fuel) :
    ∃ outcome, runTunBridge config (Script.start rounds clock limit) fuel = .stopped outcome ∧
      (Resilient config rounds outcome ↔
        GoodFrom config clock limit (startTick config) (Aggregator.new config.radioMtu config.aggTimeout) rounds) := by
  obtain ⟨outcome, hrun, hverdict⟩ := runTunBridge_verdict config rounds clock limit hfuel
  have hdropped := runTunBridge_dropped config (Script.start rounds clock limit) fuel
  rw [hrun] at hdropped
  refine ⟨outcome, hrun, ?_⟩
  rcases hverdict with ⟨hgood, hok, hwritten, hsent⟩ | ⟨hbad, herror⟩
  · obtain ⟨hrecords, hframes, -⟩ := goodFrom_iff.1 hgood
    refine iff_of_true ⟨hok, ?_, fun counters => ?_, ?_⟩ hgood
    · rw [List.filter_eq_self.2 (by simpa using hrecords)]
      exact hwritten
    · rw [List.filter_eq_self.2 (by simpa using hframes), ← List.append_nil outcome.2.host.sent]
      exact hsent counters
    · have hzero : outcome.2.counters.droppedPackets = 0 := hdropped
      have hnoRecord : (rounds.flatMap (·.records config)).countP (¬ WellFormed ·) = 0 :=
        List.countP_eq_zero.2 (by simpa using hrecords)
      have hnoFrame : (rounds.flatMap (·.frames config)).countP (¬ Sendable config ·) = 0 :=
        List.countP_eq_zero.2 (by simpa using hframes)
      rw [hzero, hnoRecord, hnoFrame]
      rfl
  · exact iff_of_false (fun hresilient => herror hresilient.1) hbad

/-- **A session is resilient exactly if there is nothing to be resilient to**: every record is a non-empty packet of
IP version 4 or 6, every frame can be sent, and no datagram that the aggregator forms is too long for the socket. -/
theorem runTunBridge_resilient_iff (fuel : ℕ) (hfuel : rounds.length < fuel) :
    ∃ outcome, runTunBridge config (Script.start rounds clock limit) fuel = .stopped outcome ∧
      (Resilient config rounds outcome ↔
        (∀ record ∈ rounds.flatMap (·.records config), WellFormed record) ∧
          (∀ frame ∈ rounds.flatMap (·.frames config), Sendable config frame) ∧
          ∀ message ∈ formed config clock rounds, message.length ≤ limit) := by
  obtain ⟨outcome, hrun, hiff⟩ := resilient_iff_good config rounds clock limit hfuel
  exact ⟨outcome, hrun, hiff.trans goodFrom_iff⟩

/-- **With the largest aggregate within the limit**, the records and the frames decide. -/
theorem runTunBridge_resilient_within (hmtu : config.radioMtu ≤ limit) {fuel : ℕ} (hfuel : rounds.length < fuel) :
    ∃ outcome, runTunBridge config (Script.start rounds clock limit) fuel = .stopped outcome ∧
      (Resilient config rounds outcome ↔
        (∀ record ∈ rounds.flatMap (·.records config), WellFormed record) ∧
          ∀ frame ∈ rounds.flatMap (·.frames config), Sendable config frame) := by
  obtain ⟨outcome, hrun, hiff⟩ := resilient_iff_good config rounds clock limit hfuel
  rw [goodFrom_iff] at hiff
  refine ⟨outcome, hrun, hiff.trans ⟨fun h => ⟨h.1, h.2.1⟩, fun h => ⟨h.1, h.2, fun message hmessage => ?_⟩⟩⟩
  exact (formed_le h.2 message hmessage).trans hmtu

end Outcome

def sampleConfig : TunBridgeConfig :=
  { tunMtu := 1443, radioMtu := 1445, aggTimeout := 5000000, keepaliveInterval := 500000000, statsInterval := none }

/-- an IPv4 packet from either side -/
def sampleRounds : List Round :=
  [⟨none, some [0, 2, 0x45, 7]⟩, ⟨some [0, 0, 0, 2, 0x45, 9], none⟩]

theorem runTunBridge_resilient_iff_sample :
    ∃ outcome, runTunBridge sampleConfig (Script.start sampleRounds id 65507) 3 = .stopped outcome ∧
      (Resilient sampleConfig sampleRounds outcome ↔
        (∀ record ∈ sampleRounds.flatMap (·.records sampleConfig), WellFormed record) ∧
          (∀ frame ∈ sampleRounds.flatMap (·.frames sampleConfig), Sendable sampleConfig frame) ∧
          ∀ message ∈ formed sampleConfig id sampleRounds, message.length ≤ 65507) :=
  runTunBridge_resilient_iff sampleConfig sampleRounds id 65507 3 (by decide)

/-- an empty record in front of an IPv4 record: the session ends, and the IPv4 packet is never written -/
theorem bad_record_loses_the_next :
    ∃ outcome, runTunBridge sampleConfig (Script.start [⟨none, some [0, 0, 0, 2, 0x45, 7]⟩] id 65507) 2 =
        .stopped outcome ∧
      outcome.1 = .error (.error .emptyIpPacket) ∧ outcome.2.host.written = [] ∧
      outcome.2.counters.droppedPackets = 0 ∧
      ¬ Resilient sampleConfig [⟨none, some [0, 0, 0, 2, 0x45, 7]⟩] outcome := by
  have hrun : ((runTunBridge sampleConfig (Script.start [⟨none, some [0, 0, 0, 2, 0x45, 7]⟩] id 65507) 2).result?.map
      fun outcome => (outcome.1, outcome.2.host.written, outcome.2.counters.droppedPackets)) =
        some (.error (.error .emptyIpPacket), [], 0) := by decide +kernel
  obtain ⟨outcome, hresult, heq⟩ := Option.map_eq_some_iff.1 hrun
  obtain ⟨herror, hrest⟩ := Prod.mk.inj heq
  obtain ⟨hwritten, hdropped⟩ := Prod.mk.inj hrest
  refine ⟨outcome, Looped.eq_stopped hresult, herror, hwritten, hdropped, fun hresilient => ?_⟩
  rw [hresilient.1] at herror
  cases herror

end WfbLink.Tunnel
