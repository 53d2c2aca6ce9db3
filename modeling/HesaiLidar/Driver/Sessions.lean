import HesaiLidar.Driver.Freshness
import HesaiLidar.Driver.Threads

/-!
# Sessions

What holds of the two threads under every schedule. Within a session the processing thread is a sequential run
over a part of what reached the producing thread, in order; what is missing was refused and counted; and
`Stop` clears the queue when no call on it is under way.
-/

namespace HesaiLidar

variable {cfg : Config}

/-! ### Counting packets -/

section Counted

variable {s : Driver} {n : Nat} {packet : PandarPacket}

/-- A thread that ends has counted as many packets. -/
def ReturnsAt (n : Nat) : Stop Driver → Prop
  | .returned s => s.processedPackets = n
  | _ => True

theorem withTransforms_processed (counted : s.processedPackets = n) (result : Except (Stop Transforms) Transforms) :
    Runs.Outcome (fun t => t.processedPackets = n) (ReturnsAt n) (s.withTransforms result) := by
  rcases result with (_ | _ | _) | _
  · exact counted
  · trivial
  · trivial
  · exact counted

theorem processBlock_processed {accepted : AcceptedPacket} (counted : s.processedPackets = n)
    (entry : LidarBlock × Nat) :
    Runs.Outcome (fun t => t.processedPackets = n) (ReturnsAt n) (s.processBlock cfg accepted entry) := by
  obtain ⟨block, blockid⟩ := entry
  have before : Runs.Outcome (fun t => t.processedPackets = n) (ReturnsAt n) (s.cutBefore cfg accepted.packet block) := by
    unfold Driver.cutBefore
    split
    · exact withTransforms_processed (s := { s with frame := s.frame.cut cfg accepted.packet }) counted _
    · exact counted
  refine Runs.Outcome.bind before fun m _ counted => ?_
  cases calcBlock cfg (m.context cfg accepted) blockid block m.frame with
  | error fault => trivial
  | ok frame => exact counted

theorem processBlocks_processed {accepted : AcceptedPacket} (counted : s.processedPackets = n) :
    Runs.Outcome (fun t => t.processedPackets = n) (ReturnsAt n) (s.processBlocks cfg accepted) := by
  have blocks : Runs.Outcome (fun t : Driver => t.processedPackets = n) (ReturnsAt n)
      (accepted.packet.blocks.zipIdx.foldlM (Driver.processBlock cfg accepted) (s.keep accepted)) :=
    Runs.foldlM_outcome_of_allSteps (C := fun _ _ => True) (fun counted _ => processBlock_processed counted _) counted
      (Runs.allSteps_of_forall fun _ _ => trivial)
  exact Runs.Outcome.bind blocks fun _ _ counted => counted

theorem accept_processed {stamp : ℚ} (counted : s.processedPackets = n) :
    Runs.Outcome (fun result => result.1.processedPackets = n) (ReturnsAt n) (s.accept cfg stamp packet) := by
  have ways := accept_cases cfg s packet stamp
  generalize s.accept cfg stamp packet = outcome at ways
  have checked (tf : Transforms) (sequence : UInt32) :
      ((s.fixed stamp tf).checkSequence sequence packet.stamp).2.processedPackets = n := by
    unfold Driver.checkSequence
    dsimp only
    split <;> exact counted
  cases ways with
  | tooLarge => trivial
  | unsupported => exact counted
  | lookup _ failed =>
    have outcome := withTransforms_processed (s := s.fixed stamp (manageTfBuffer cfg s.transforms)) counted
      (computeTransformToFixed cfg (manageTfBuffer cfg s.transforms))
    rwa [failed] at outcome
  | parser => trivial
  | malformed => exact counted
  | outOfSequence => exact checked _ _
  | inSequence => exact checked _ _
  | unchecked => exact counted

/-- Every packet taken is counted once, whether or not the thread goes on behind it. -/
theorem processPacket_processed (counted : s.processedPackets = n) :
    Runs.Outcome (fun t => t.processedPackets = n + 1) (ReturnsAt (n + 1)) (s.processPacket cfg packet) := by
  have guarded : (s.guarded packet).processedPackets = n + 1 := congrArg (· + 1) counted
  refine processPacket_outcome guarded (fun stamp _ => accept_processed guarded) ?_
  rintro stamp ⟨m, _ | accepted⟩ - - - admitted
  · exact admitted
  · exact processBlocks_processed admitted

end Counted

namespace DriverThreads

variable {s t : DriverThreads} {event : ThreadEvent}

/-! ### Where the threads are -/

/-- A call on the queue belongs to a thread that is at the place of such a call. -/
structure Placed (s : DriverThreads) : Prop where
  queue : BoundedSpscQueue.Inv s.packetsBuffer
  producer : s.packetsBuffer.producer ≠ .idle → ∃ packets, s.lidarRecvThr = .handing packets
  consumer : s.packetsBuffer.consumer ≠ .idle → s.lidarProcessThr = .looping

theorem Placed.producer_idle (placed : Placed s) (outside : ∀ packets, s.lidarRecvThr ≠ .handing packets) :
    s.packetsBuffer.producer = .idle := by
  by_contra busy
  obtain ⟨packets, handing⟩ := placed.producer busy
  exact outside packets handing

theorem Placed.consumer_idle (placed : Placed s) (outside : s.lidarProcessThr ≠ .looping) :
    s.packetsBuffer.consumer = .idle := by
  by_contra busy
  exact outside (placed.consumer busy)

theorem Placed.proceed {result : Except (Stop Driver) Driver} (placed : Placed s) (outside : s.lidarProcessThr ≠ .looping)
    (next : s.proceed result = some t) : Placed t := by
  have idle := placed.consumer_idle outside
  obtain ⟨driver, -, rfl⟩ | ⟨driver, -, rfl⟩ := proceed_some next
  · exact ⟨placed.queue, placed.producer, fun _ => rfl⟩
  · exact ⟨placed.queue, placed.producer, fun busy => absurd idle busy⟩

theorem Placed.step (placed : Placed s) (h : Stepped cfg s t) : Placed t := by
  cases h with
  | called => exact ⟨placed.queue, placed.producer, placed.consumer⟩
  | stopped => exact ⟨BoundedSpscQueue.start_inv _, absurd rfl, absurd rfl⟩
  | launched => exact ⟨BoundedSpscQueue.start_inv _, absurd rfl, absurd rfl⟩
  | delivered packets => exact ⟨placed.queue, fun _ => ⟨packets, rfl⟩, placed.consumer⟩
  | recvLeft looping =>
    exact ⟨placed.queue, absurd (placed.producer_idle (by rw [looping]; exact nofun)), placed.consumer⟩
  | handedAll _ idle => exact ⟨placed.queue, absurd idle, placed.consumer⟩
  | @handed packet packets q _ queue =>
    obtain ⟨-, consumer, -⟩ := BoundedSpscQueue.step_pushLoadWrite queue
    refine ⟨BoundedSpscQueue.step_inv placed.queue queue, fun _ => ⟨packets, rfl⟩, fun busy => ?_⟩
    exact placed.consumer (consumer ▸ busy)
  | refused queue =>
    obtain ⟨-, -, -, producer, consumer⟩ := BoundedSpscQueue.step_within queue trivial
    refine ⟨BoundedSpscQueue.step_inv placed.queue queue, fun busy => placed.producer (producer busy), fun busy => ?_⟩
    exact placed.consumer ((consumer busy).resolve_right nofun)
  | moved queue within _ looping =>
    obtain ⟨-, -, -, producer, consumer⟩ := BoundedSpscQueue.step_within queue within
    refine ⟨BoundedSpscQueue.step_inv placed.queue queue, fun busy => placed.producer (producer busy), fun busy => ?_⟩
    exact (consumer busy).elim placed.consumer looping
  | pushed copied queue =>
    obtain ⟨idle, consumer, -⟩ := BoundedSpscQueue.step_pushStore copied queue
    refine ⟨BoundedSpscQueue.step_inv placed.queue queue, absurd idle, fun busy => ?_⟩
    exact placed.consumer (consumer ▸ busy)
  | popped copied queue =>
    obtain ⟨idle, producer, -⟩ := BoundedSpscQueue.step_popStore copied queue
    refine ⟨BoundedSpscQueue.step_inv placed.queue queue, fun busy => ?_, absurd idle⟩
    exact placed.producer (producer ▸ busy)
  | entered entering next => exact placed.proceed (by rw [entering]; exact nofun) next
  | processed processing next => exact placed.proceed (by rw [processing]; exact nofun) next
  | processLeft _ idle => exact ⟨placed.queue, placed.producer, absurd idle⟩

theorem constructed_placed (storage : PacketsBuffer.Index → PandarPacket) (targetFrame : String) (pointCloud : Nat → PPoint) :
    Placed (constructed storage targetFrame pointCloud) :=
  ⟨BoundedSpscQueue.start_inv storage, absurd rfl, absurd rfl⟩

/-! ### What was handed over -/

open BoundedSpscQueue in
/-- Of the packets that reached the producing thread, those handed over are pushed, under way or refused. -/
def Handed (s : DriverThreads) : Prop :=
  ∃ offered, offered ++ s.lidarRecvThr.left = s.received ∧ s.packetsBuffer.taken.Sublist offered ∧
    (s.packetsBuffer.taken ++ s.refused).Perm offered

theorem within_offer {action : BoundedSpscQueue.Action PandarPacket} (within : action.Within) : action.offer = none := by
  cases action with
  | pushLoadWrite => cases within
  | _ => rfl

/-- What is taken after a step that neither offers nor refuses. -/
theorem taken_of_step {q q' : BoundedSpscQueue.Threads PandarPacket PacketsBuffer}
    {action : BoundedSpscQueue.Action PandarPacket} (queue : BoundedSpscQueue.step q action = some q')
    (offer : action.offer = none) (room : q.refused action = none) : q'.taken = q.taken := by
  have account := BoundedSpscQueue.step_accounts queue
  rwa [offer, room, Option.toList_none, List.append_nil, List.append_nil] at account

theorem Handed.congr (handed : Handed s) (taken : t.packetsBuffer.taken = s.packetsBuffer.taken)
    (left : t.lidarRecvThr.left = s.lidarRecvThr.left) (received : t.received = s.received) (refused : t.refused = s.refused) :
    Handed t := by
  unfold Handed
  rw [taken, left, received, refused]
  exact handed

theorem Handed.proceed {result : Except (Stop Driver) Driver} (handed : Handed s) (next : s.proceed result = some t) :
    Handed t := by
  obtain ⟨driver, -, rfl⟩ | ⟨driver, -, rfl⟩ := proceed_some next
  · exact handed
  · exact handed

theorem Handed.step (handed : Handed s) (h : Stepped cfg s t) : Handed t := by
  cases h with
  | called => exact handed
  | stopped recv => exact ⟨[], by rw [reset, recv]; rfl, .slnil, .nil⟩
  | launched => exact ⟨[], rfl, .slnil, .nil⟩
  | delivered packets looping =>
    obtain ⟨offered, all, ordered, accounted⟩ := handed
    rw [looping, show RecvThread.looping.left = [] from rfl, List.append_nil] at all
    exact ⟨offered, by rw [all]; rfl, ordered, accounted⟩
  | recvLeft looping => exact handed.congr rfl (by rw [looping]; rfl) rfl rfl
  | handedAll handing => exact handed.congr rfl (by rw [handing]; rfl) rfl rfl
  | @handed packet packets q handing queue =>
    obtain ⟨offered, all, ordered, accounted⟩ := handed
    have taken : q.taken = s.packetsBuffer.taken ++ [packet] := by
      have account := BoundedSpscQueue.step_accounts queue
      rwa [show s.packetsBuffer.refused (.pushLoadWrite packet) = none from rfl, Option.toList_none, List.append_nil] at account
    refine ⟨offered ++ [packet], ?_, ?_, ?_⟩
    · rw [← all, handing]
      exact List.append_assoc ..
    · rw [taken]
      exact ordered.append (.refl _)
    · rw [taken, List.append_assoc]
      refine (List.perm_append_comm.append_left _).trans ?_
      rw [← List.append_assoc]
      exact accounted.append_right _
  | @refused packet k q queue full =>
    obtain ⟨offered, all, ordered, accounted⟩ := handed
    have taken : q.taken ++ [packet] = s.packetsBuffer.taken := by
      have account := BoundedSpscQueue.step_accounts queue
      rwa [full, show (BoundedSpscQueue.Action.pushLoadRead k : BoundedSpscQueue.Action PandarPacket).offer = none from rfl,
        Option.toList_none, List.append_nil] at account
    refine ⟨offered, all, ?_, ?_⟩
    · exact (List.sublist_append_left _ [packet]).trans (taken ▸ ordered)
    · rw [← taken, List.append_assoc] at accounted
      exact (List.perm_append_comm.append_left _).trans accounted
  | moved queue within room => exact handed.congr (taken_of_step queue (within_offer within) room) rfl rfl rfl
  | pushed _ queue => exact handed.congr (taken_of_step queue rfl rfl) rfl rfl rfl
  | popped _ queue => exact handed.congr (taken_of_step queue rfl rfl) rfl rfl rfl
  | entered _ next => exact handed.proceed next
  | processed _ next => exact handed.proceed next
  | processLeft => exact handed

/-! ### The packet counters -/

/-- Every packet that reached the producing thread is dropped, enqueued, under way or still to be handed over;
every enqueued one is flushed, processed, in hand or in the queue. -/
structure Counted (s : DriverThreads) : Prop where
  reached : s.reached + s.packetsBuffer.pushed.length =
    s.queueOverloadDrops + s.enqueuedPackets + s.packetsBuffer.taken.length + s.lidarRecvThr.left.length
  enqueued : s.enqueuedPackets + s.packetsBuffer.popped.length =
    s.flushed + s.driver.processedPackets + s.lidarProcessThr.inHand.toList.length + s.packetsBuffer.pushed.length

theorem Counted.congr (counted : Counted s) (reached : t.reached = s.reached)
    (drops : t.queueOverloadDrops = s.queueOverloadDrops) (enqueued : t.enqueuedPackets = s.enqueuedPackets)
    (flushed : t.flushed = s.flushed) (processed : t.driver.processedPackets = s.driver.processedPackets)
    (taken : t.packetsBuffer.taken = s.packetsBuffer.taken) (pushed : t.packetsBuffer.pushed = s.packetsBuffer.pushed)
    (popped : t.packetsBuffer.popped = s.packetsBuffer.popped) (left : t.lidarRecvThr.left = s.lidarRecvThr.left)
    (inHand : t.lidarProcessThr.inHand = s.lidarProcessThr.inHand) : Counted t := by
  constructor
  · rw [reached, drops, enqueued, taken, pushed, left]
    exact counted.reached
  · rw [enqueued, popped, flushed, processed, inHand, pushed]
    exact counted.enqueued

theorem Counted.reset (counted : Counted s) (placed : Placed s) (recv : s.lidarRecvThr = .ended)
    (process : s.lidarProcessThr = .ended) : Counted s.reset := by
  have reached := counted.reached
  have enqueued := counted.enqueued
  have idle := placed.producer_idle (by rw [recv]; exact nofun)
  have backlog := placed.queue.backlog
  rw [recv, BoundedSpscQueue.taken_of_idle idle] at reached
  rw [process] at enqueued
  constructor
  · show s.reached + 0 = s.queueOverloadDrops + s.enqueuedPackets + 0 + s.lidarRecvThr.left.length
    rw [recv]
    omega
  · show s.enqueuedPackets + 0 = s.flushed + s.packetsBuffer.backlog + s.driver.processedPackets +
      s.lidarProcessThr.inHand.toList.length + 0
    rw [process]
    omega

theorem Counted.proceed {result : Except (Stop Driver) Driver} {n : Nat} (counted : Counted s)
    (moves : Runs.Outcome (fun driver => driver.processedPackets = n) (ReturnsAt n) result)
    (hand : n = s.driver.processedPackets + s.lidarProcessThr.inHand.toList.length)
    (next : s.proceed result = some t) : Counted t := by
  have enqueued := counted.enqueued
  obtain ⟨driver, rfl, rfl⟩ | ⟨driver, rfl, rfl⟩ := proceed_some next
  all_goals
    refine ⟨counted.reached, ?_⟩
    show s.enqueuedPackets + s.packetsBuffer.popped.length = s.flushed + driver.processedPackets + 0 +
      s.packetsBuffer.pushed.length
    rw [show driver.processedPackets = n from moves]
    omega

theorem Counted.step (counted : Counted s) (placed : Placed s) (h : Stepped cfg s t) : Counted t := by
  have reached := counted.reached
  have enqueued := counted.enqueued
  cases h with
  | called => exact ⟨counted.reached, counted.enqueued⟩
  | stopped recv process => exact counted.reset placed recv process
  | launched recv process =>
    have cleared := counted.reset placed recv process
    have left : s.reset.lidarRecvThr = .ended := recv
    have hand : s.reset.lidarProcessThr = .ended := process
    exact cleared.congr rfl rfl rfl rfl rfl rfl rfl rfl (by rw [left]; rfl) (by rw [hand]; rfl)
  | delivered packets looping =>
    refine ⟨?_, enqueued⟩
    rw [looping] at reached
    show s.reached + packets.length + s.packetsBuffer.pushed.length = _ + packets.length
    rw [show RecvThread.looping.left = [] from rfl, List.length_nil] at reached
    dsimp only
    omega
  | recvLeft looping => exact counted.congr rfl rfl rfl rfl rfl rfl rfl rfl (by rw [looping]; rfl) rfl
  | handedAll handing => exact counted.congr rfl rfl rfl rfl rfl rfl rfl rfl (by rw [handing]; rfl) rfl
  | @handed packet packets q handing queue =>
    obtain ⟨-, -, pushed, popped⟩ := BoundedSpscQueue.step_pushLoadWrite queue
    have taken := congrArg List.length (BoundedSpscQueue.step_accounts queue)
    rw [List.length_append, List.length_append] at taken
    change q.taken.length + 0 = s.packetsBuffer.taken.length + 1 at taken
    rw [handing, show (RecvThread.handing (packet :: packets)).left = packet :: packets from rfl, List.length_cons] at reached
    constructor
    · show s.reached + q.pushed.length = s.queueOverloadDrops + s.enqueuedPackets + q.taken.length + packets.length
      rw [pushed]
      omega
    · show s.enqueuedPackets + q.popped.length = _ + q.pushed.length
      rw [pushed, popped]
      exact enqueued
  | @refused packet k q queue full =>
    obtain ⟨pushed, popped, -⟩ := BoundedSpscQueue.step_within queue trivial
    have taken := congrArg List.length (BoundedSpscQueue.step_accounts queue)
    rw [full, List.length_append, List.length_append] at taken
    change q.taken.length + 1 = s.packetsBuffer.taken.length + 0 at taken
    constructor
    · show s.reached + q.pushed.length =
        s.queueOverloadDrops + 1 + s.enqueuedPackets + q.taken.length + s.lidarRecvThr.left.length
      rw [pushed]
      omega
    · show s.enqueuedPackets + q.popped.length = _ + q.pushed.length
      rw [pushed, popped]
      exact enqueued
  | moved queue within room =>
    obtain ⟨pushed, popped, -⟩ := BoundedSpscQueue.step_within queue within
    exact counted.congr rfl rfl rfl rfl rfl (taken_of_step queue (within_offer within) room) pushed popped rfl rfl
  | @pushed packet write size q copied queue =>
    obtain ⟨-, -, pushed, popped⟩ := BoundedSpscQueue.step_pushStore copied queue
    have taken := taken_of_step queue rfl rfl
    constructor
    · show s.reached + q.pushed.length =
        s.queueOverloadDrops + (s.enqueuedPackets + 1) + q.taken.length + s.lidarRecvThr.left.length
      rw [pushed, taken, List.length_append, List.length_singleton]
      omega
    · show s.enqueuedPackets + 1 + q.popped.length = s.flushed + s.driver.processedPackets +
        s.lidarProcessThr.inHand.toList.length + q.pushed.length
      rw [pushed, popped, List.length_append, List.length_singleton]
      omega
  | @popped packet read q copied queue =>
    obtain ⟨-, -, pushed, popped⟩ := BoundedSpscQueue.step_popStore copied queue
    have looping := placed.consumer (by rw [copied]; exact nofun)
    rw [looping] at enqueued
    change _ = s.flushed + s.driver.processedPackets + 0 + s.packetsBuffer.pushed.length at enqueued
    constructor
    · show s.reached + q.pushed.length = _ + q.taken.length + s.lidarRecvThr.left.length
      rw [pushed, taken_of_step queue rfl rfl]
      exact reached
    · show s.enqueuedPackets + q.popped.length = s.flushed + s.driver.processedPackets + 1 + q.pushed.length
      rw [pushed, popped, List.length_append, List.length_singleton]
      omega
  | entered entering next =>
    refine counted.proceed (withTransforms_processed rfl _) ?_ next
    rw [entering]
    rfl
  | processed processing next =>
    refine counted.proceed (processPacket_processed rfl) ?_ next
    rw [processing]
    rfl
  | processLeft looping => exact counted.congr rfl rfl rfl rfl rfl rfl rfl rfl rfl (by rw [looping]; rfl)

/-! ### The sequential run -/

/-- How far the processing thread has got: what it has run over, in relation to what it has popped. -/
inductive Follows (cfg : Config) (entry : Driver) : ProcessThread → List PandarPacket → Driver → Prop
  | entering : Follows cfg entry .entering [] entry
  | looping {popped : List PandarPacket} {driver : Driver} (run : processLiarPacket cfg entry popped = .ok driver) :
    Follows cfg entry .looping popped driver
  | processing {popped : List PandarPacket} {driver : Driver} {packet : PandarPacket}
      (run : processLiarPacket cfg entry popped = .ok driver) :
    Follows cfg entry (.processing packet) (popped ++ [packet]) driver
  | left {popped : List PandarPacket} {driver : Driver} (run : processLiarPacket cfg entry popped = .ok driver) :
    Follows cfg entry .ended popped driver
  | returned {popped : List PandarPacket} {driver : Driver}
      (run : processLiarPacket cfg entry popped = .error (.returned driver)) :
    Follows cfg entry .ended popped driver

/-- Outside of a session both threads have ended. -/
structure InSession (cfg : Config) (s : DriverThreads) : Prop where
  follows : s.session = true → Follows cfg s.entry s.lidarProcessThr s.packetsBuffer.popped s.driver
  closed : s.session = false → s.lidarRecvThr = .ended ∧ s.lidarProcessThr = .ended

theorem processLiarPacket_append (entry : Driver) (popped : List PandarPacket) (packet : PandarPacket) :
    processLiarPacket cfg entry (popped ++ [packet]) =
      processLiarPacket cfg entry popped >>= fun driver => driver.processPacket cfg packet := by
  unfold processLiarPacket
  cases entry.withTransforms (computeTransformToTarget cfg entry.transforms) with
  | error stop => rfl
  | ok m =>
    simp only [Except.ok_bind, List.foldlM_append, List.foldlM_cons, List.foldlM_nil, bind_pure]

theorem InSession.opened (inSession : InSession cfg s) (busy : s.lidarRecvThr ≠ .ended ∨ s.lidarProcessThr ≠ .ended) :
    s.session = true := by
  by_contra none
  obtain ⟨recv, process⟩ := inSession.closed (Bool.eq_false_iff.mpr none)
  exact busy.elim (absurd recv) (absurd process)

/-- A step that leaves the processing thread, what it has popped and the driver alone. -/
theorem InSession.congr (inSession : InSession cfg s) (opened : s.lidarRecvThr ≠ .ended ∨ s.lidarProcessThr ≠ .ended)
    (session : t.session = s.session) (entry : t.entry = s.entry) (process : t.lidarProcessThr = s.lidarProcessThr)
    (popped : t.packetsBuffer.popped = s.packetsBuffer.popped) (driver : t.driver = s.driver) : InSession cfg t := by
  have opened := inSession.opened opened
  refine ⟨fun _ => ?_, fun closed => ?_⟩
  · rw [entry, process, popped, driver]
    exact inSession.follows opened
  · rw [session, opened] at closed
    cases closed

theorem InSession.step (inSession : InSession cfg s) (placed : Placed s) (h : Stepped cfg s t) : InSession cfg t := by
  have handing {packets : List PandarPacket} (handing : s.lidarRecvThr = .handing packets) :
      s.lidarRecvThr ≠ .ended ∨ s.lidarProcessThr ≠ .ended := .inl (by rw [handing]; exact nofun)
  have looping (looping : s.lidarProcessThr = .looping) : s.lidarRecvThr ≠ .ended ∨ s.lidarProcessThr ≠ .ended :=
    .inr (by rw [looping]; exact nofun)
  have producing (busy : s.packetsBuffer.producer ≠ .idle) : s.lidarRecvThr ≠ .ended ∨ s.lidarProcessThr ≠ .ended :=
    (placed.producer busy).elim fun _ => handing
  cases h with
  | called => exact ⟨inSession.follows, inSession.closed⟩
  | stopped recv process => exact ⟨nofun, fun _ => ⟨recv, process⟩⟩
  | launched => exact ⟨fun _ => .entering, nofun⟩
  | delivered packets receiving => exact inSession.congr (.inl (by rw [receiving]; exact nofun)) rfl rfl rfl rfl rfl
  | recvLeft receiving => exact inSession.congr (.inl (by rw [receiving]; exact nofun)) rfl rfl rfl rfl rfl
  | handedAll all => exact inSession.congr (handing all) rfl rfl rfl rfl rfl
  | handed next queue =>
    obtain ⟨-, -, -, popped⟩ := BoundedSpscQueue.step_pushLoadWrite queue
    exact inSession.congr (handing next) rfl rfl rfl popped rfl
  | refused queue full =>
    obtain ⟨-, popped, -⟩ := BoundedSpscQueue.step_within queue trivial
    refine inSession.congr (producing fun idle => ?_) rfl rfl rfl popped rfl
    rw [BoundedSpscQueue.Threads.refused, idle] at full
    cases full
  | moved queue within room at' =>
    obtain ⟨-, popped, -⟩ := BoundedSpscQueue.step_within queue within
    refine ⟨fun opened => ?_, inSession.closed⟩
    show Follows cfg s.entry s.lidarProcessThr _ s.driver
    rw [popped]
    exact inSession.follows opened
  | pushed copied queue =>
    obtain ⟨-, -, -, popped⟩ := BoundedSpscQueue.step_pushStore copied queue
    exact inSession.congr (producing (by rw [copied]; exact nofun)) rfl rfl rfl popped rfl
  | @popped packet read q copied queue =>
    obtain ⟨-, -, -, popped⟩ := BoundedSpscQueue.step_popStore copied queue
    have atLoop := placed.consumer (by rw [copied]; exact nofun)
    have opened := inSession.opened (looping atLoop)
    have follows := inSession.follows opened
    rw [atLoop] at follows
    refine ⟨fun _ => ?_, fun closed => ?_⟩
    · show Follows cfg s.entry (.processing packet) q.popped s.driver
      rw [popped]
      cases follows with
      | looping run => exact .processing run
    · rw [show s.session = true from opened] at closed
      cases closed
  | entered entering next =>
    have opened := inSession.opened (.inr (by rw [entering]; exact nofun))
    have follows := inSession.follows opened
    rw [entering] at follows
    generalize popped : s.packetsBuffer.popped = popped' at follows
    generalize entry : s.entry = entry' at follows
    generalize driver : s.driver = driver' at follows
    cases follows with
    | entering =>
    have run : processLiarPacket cfg s.entry s.packetsBuffer.popped =
        s.driver.withTransforms (computeTransformToTarget cfg s.driver.transforms) := by
      rw [popped, entry, driver]
      unfold processLiarPacket
      cases entry'.withTransforms (computeTransformToTarget cfg entry'.transforms) <;> rfl
    obtain ⟨m, result, rfl⟩ | ⟨m, result, rfl⟩ := proceed_some next
    · exact ⟨fun _ => .looping (run.trans result), fun closed => absurd (opened.symm.trans closed) nofun⟩
    · exact ⟨fun _ => .returned (run.trans result), fun closed => absurd (opened.symm.trans closed) nofun⟩
  | @processed _ packet processing next =>
    have opened := inSession.opened (.inr (by rw [processing]; exact nofun))
    have follows := inSession.follows opened
    rw [processing] at follows
    generalize popped : s.packetsBuffer.popped = popped' at follows
    cases follows with
    | @processing done _ _ run =>
    have after : processLiarPacket cfg s.entry s.packetsBuffer.popped = s.driver.processPacket cfg packet := by
      rw [popped, processLiarPacket_append, run]
      rfl
    obtain ⟨m, result, rfl⟩ | ⟨m, result, rfl⟩ := proceed_some next
    · exact ⟨fun _ => .looping (after.trans result), fun closed => absurd (opened.symm.trans closed) nofun⟩
    · exact ⟨fun _ => .returned (after.trans result), fun closed => absurd (opened.symm.trans closed) nofun⟩
  | processLeft atLoop idle =>
    have opened := inSession.opened (looping atLoop)
    have follows := inSession.follows opened
    rw [atLoop] at follows
    refine ⟨fun _ => ?_, fun closed => absurd (opened.symm.trans closed) nofun⟩
    show Follows cfg s.entry .ended s.packetsBuffer.popped s.driver
    cases follows with
    | looping run => exact .left run

/-! ### Whole runs -/

structure Sound (cfg : Config) (s : DriverThreads) : Prop where
  placed : Placed s
  handed : Handed s
  counted : Counted s
  inSession : InSession cfg s
  depth : s.maxQueueDepthObserved ≤ PacketsBuffer.maxDepth

theorem depth_step (placed : Placed s) (small : s.maxQueueDepthObserved ≤ PacketsBuffer.maxDepth) (h : Stepped cfg s t) :
    t.maxQueueDepthObserved ≤ PacketsBuffer.maxDepth := by
  cases h with
  | @pushed packet write size q copied queue =>
    have locals := placed.queue.producerLocals
    simp only [BoundedSpscQueue.ProducerLocals, copied] at locals
    dsimp only
    split
    · omega
    · exact small
  | entered _ next | processed _ next =>
    obtain ⟨_, -, rfl⟩ | ⟨_, -, rfl⟩ := proceed_some next
    · exact small
    · exact small
  | _ => exact small

theorem Sound.step (sound : Sound cfg s) (h : Runs.Enabled (DriverThreads.step cfg) s event t) : Sound cfg t where
  placed := sound.placed.step (step_cases h)
  handed := sound.handed.step (step_cases h)
  counted := sound.counted.step sound.placed (step_cases h)
  inSession := sound.inSession.step sound.placed (step_cases h)
  depth := depth_step sound.placed sound.depth (step_cases h)

section FromConstruction

variable {storage : PacketsBuffer.Index → PandarPacket} {targetFrame : String} {pointCloud : Nat → PPoint}
variable {events : List ThreadEvent}

theorem sound_of_run (run : events.foldlM (step cfg) (constructed storage targetFrame pointCloud) = some t) : Sound cfg t := by
  refine (Runs.run_of_foldlM_some run).invariant Sound.step ?_
  exact
    { placed := constructed_placed storage targetFrame pointCloud
      handed := ⟨[], rfl, .slnil, .nil⟩
      counted := ⟨rfl, rfl⟩
      inSession := ⟨nofun, fun _ => ⟨rfl, rfl⟩⟩
      depth := Nat.zero_le _ }

end FromConstruction

/-- What the processing thread has computed from the packets it is through with. -/
def RanThrough (cfg : Config) (s : DriverThreads) (processed : List PandarPacket) : Prop :=
  match s.lidarProcessThr with
  | .entering => processed = [] ∧ s.driver = s.entry
  | .looping => processLiarPacket cfg s.entry processed = .ok s.driver
  | .processing _ => processLiarPacket cfg s.entry processed = .ok s.driver
  | .ended => processLiarPacket cfg s.entry processed = .ok s.driver ∨
      processLiarPacket cfg s.entry processed = .error (.returned s.driver)

theorem InSession.ranThrough (inSession : InSession cfg s) (opened : s.session = true) :
    ∃ processed, processed ++ s.lidarProcessThr.inHand.toList = s.packetsBuffer.popped ∧ RanThrough cfg s processed := by
  have follows := inSession.follows opened
  unfold RanThrough
  generalize s.lidarProcessThr = thread at follows ⊢
  generalize s.packetsBuffer.popped = popped at follows ⊢
  generalize s.driver = driver at follows ⊢
  cases follows with
  | entering => exact ⟨[], rfl, rfl, rfl⟩
  | looping run => exact ⟨popped, List.append_nil _, run⟩
  | @processing done _ packet run => exact ⟨done, rfl, run⟩
  | left run => exact ⟨popped, List.append_nil _, .inl run⟩
  | returned run => exact ⟨popped, List.append_nil _, .inr run⟩

/-- Every packet of the session: pushed, in a call of `try_push`, refused, or not handed over yet. -/
def accounts (s : DriverThreads) : List PandarPacket :=
  s.packetsBuffer.pushed ++ s.packetsBuffer.inFlight.toList ++ s.refused ++ s.lidarRecvThr.left

theorem Handed.pushed (handed : Handed s) :
    s.packetsBuffer.pushed.Sublist s.received ∧ s.accounts.Perm s.received := by
  obtain ⟨offered, all, ordered, accounted⟩ := handed
  rw [← all]
  refine ⟨?_, accounted.append_right _⟩
  exact ((List.sublist_append_left ..).trans ordered).trans (List.sublist_append_left ..)

/-- A datagram on its way through the threads: received, handed over, enqueued and popped. The session has had
`k` packets before. -/
def passage (payload : List UInt8) (time : ℚ) (k : Nat) : List ThreadEvent :=
  [.deliver (.received (.ready ⟨false, true⟩ []) (.datagram payload) (fun _ => 0) (.finite time)), .hand, .pushLoadRead k,
    .pushCopy, .pushStore, .hand, .popLoadRead, .popLoadWrite (k + 1), .popCopy, .popStore]

def blank : DriverThreads := constructed (fun _ => ⟨.notFinite, fun _ => 0, 0⟩) "" fun _ => ⟨0, 0, 0, 0, 0, 0⟩

/-- Under every schedule the driver of a session is that of one thread that processes, in the order of their
arrival, packets that reached the producing thread; those missing were refused or have not got that far. -/
theorem threads_refine_processLiarPacket (cfg : Config) (storage : PacketsBuffer.Index → PandarPacket)
    (targetFrame : String) (pointCloud : Nat → PPoint) (events : List ThreadEvent) (t : DriverThreads)
    (run : events.foldlM (step cfg) (constructed storage targetFrame pointCloud) = some t) (opened : t.session = true) :
    ∃ processed, processed ++ t.lidarProcessThr.inHand.toList = t.packetsBuffer.popped ∧
      t.packetsBuffer.popped <+: t.packetsBuffer.pushed ∧ t.packetsBuffer.pushed.Sublist t.received ∧
      t.accounts.Perm t.received ∧ RanThrough cfg t processed := by
  have sound := sound_of_run run
  obtain ⟨processed, popped, ran⟩ := sound.inSession.ranThrough opened
  obtain ⟨ordered, accounted⟩ := sound.handed.pushed
  refine ⟨processed, popped, ?_, ordered, accounted, ran⟩
  rw [sound.placed.queue.poppedTake]
  exact List.take_prefix _ _

/-- The second datagram has reached the queue when the first one is processed. -/
theorem threads_refine_processLiarPacket_overtaking :
    let events := [.start, .joined, .enter] ++ passage [1, 2, 3] 10 0 ++ (passage [4, 5, 6] 11 0).take 5 ++ [.process]
    ∃ t, events.foldlM (step (.plain .pandarXT16 0 0)) blank = some t ∧
      (t.packetsBuffer.pushed.length, t.driver.processedPackets) = (2, 1) ∧
      ∃ processed, processed ++ t.lidarProcessThr.inHand.toList = t.packetsBuffer.popped ∧
        t.packetsBuffer.popped <+: t.packetsBuffer.pushed ∧ t.packetsBuffer.pushed.Sublist t.received ∧
        t.accounts.Perm t.received ∧ RanThrough (.plain .pandarXT16 0 0) t processed := by
  intro events
  have reached : (events.foldlM (step (.plain .pandarXT16 0 0)) blank).map (fun t =>
      (t.session, t.packetsBuffer.pushed.length, t.driver.processedPackets)) = some (true, 2, 1) := by decide +kernel
  obtain ⟨t, run, shape⟩ := Option.map_eq_some_iff.mp reached
  obtain ⟨opened, counts⟩ := Prod.mk.inj shape
  exact ⟨t, run, counts, threads_refine_processLiarPacket _ _ _ _ events t run opened⟩

/-- Over all sessions no packet is lost without a trace in the counters, except those flushed by `Stop`. -/
theorem packets_accounted (cfg : Config) (storage : PacketsBuffer.Index → PandarPacket)
    (targetFrame : String) (pointCloud : Nat → PPoint) (events : List ThreadEvent) (t : DriverThreads)
    (run : events.foldlM (step cfg) (constructed storage targetFrame pointCloud) = some t) :
    t.reached = t.queueOverloadDrops + t.enqueuedPackets + t.packetsBuffer.inFlight.toList.length +
        t.lidarRecvThr.left.length ∧
      t.enqueuedPackets = t.flushed + t.driver.processedPackets + t.lidarProcessThr.inHand.toList.length +
        t.packetsBuffer.backlog ∧
      t.packetsBuffer.backlog ≤ PacketsBuffer.maxDepth ∧ t.maxQueueDepthObserved ≤ PacketsBuffer.maxDepth := by
  have sound := sound_of_run run
  have reached := sound.counted.reached
  have enqueued := sound.counted.enqueued
  have backlog := sound.placed.queue.backlog
  have taken : t.packetsBuffer.taken.length = t.packetsBuffer.pushed.length + t.packetsBuffer.inFlight.toList.length :=
    List.length_append
  exact ⟨by omega, by omega, sound.placed.queue.backlog_le, sound.depth⟩

/-- One packet in the queue, and one between the two. -/
theorem packets_accounted_overtaking :
    let events := [.start, .joined, .enter] ++ passage [1, 2, 3] 10 0 ++ (passage [4, 5, 6] 11 0).take 5
    ∃ t, events.foldlM (step (.plain .pandarXT16 0 0)) blank = some t ∧ t.lidarProcessThr.inHand.isSome ∧
      t.reached = t.queueOverloadDrops + t.enqueuedPackets + t.packetsBuffer.inFlight.toList.length +
        t.lidarRecvThr.left.length ∧
      t.enqueuedPackets = t.flushed + t.driver.processedPackets + t.lidarProcessThr.inHand.toList.length +
        t.packetsBuffer.backlog ∧
      t.packetsBuffer.backlog ≤ PacketsBuffer.maxDepth ∧ t.maxQueueDepthObserved ≤ PacketsBuffer.maxDepth := by
  intro events
  have reached : (events.foldlM (step (.plain .pandarXT16 0 0)) blank).map (fun t => t.lidarProcessThr.inHand.isSome) =
      some true := by decide +kernel
  obtain ⟨t, run, between⟩ := Option.map_eq_some_iff.mp reached
  exact ⟨t, run, between, packets_accounted _ _ _ _ events t run⟩

theorem joined_cases {u : DriverThreads} (joined : t.step cfg .joined = some u) :
    t.lidarRecvThr = .ended ∧ t.lidarProcessThr = .ended ∧ (u = t.reset ∨ u = t.reset.launch) := by
  simp only [step] at joined
  split at joined
  · exact ⟨‹_›, ‹_›, .inl (Option.some.inj joined).symm⟩
  · exact ⟨‹_›, ‹_›, .inr (Option.some.inj joined).symm⟩
  · cases joined

/-- `Stop` and `Start` clear the queue when no call on it is under way. Of all the packets that have reached
the producing thread by then, each was dropped, flushed or processed. -/
theorem stop_clears_idle_queue (cfg : Config) (storage : PacketsBuffer.Index → PandarPacket)
    (targetFrame : String) (pointCloud : Nat → PPoint) (events : List ThreadEvent) (t u : DriverThreads)
    (run : events.foldlM (step cfg) (constructed storage targetFrame pointCloud) = some t)
    (joined : t.step cfg .joined = some u) :
    t.packetsBuffer.producer = .idle ∧ t.packetsBuffer.consumer = .idle ∧
      u.packetsBuffer = .start t.packetsBuffer.storage ∧
      u.reached = u.queueOverloadDrops + u.flushed + u.driver.processedPackets := by
  have sound := sound_of_run run
  obtain ⟨recv, process, cleared⟩ := joined_cases joined
  have counted := sound.counted.reset sound.placed recv process
  have reached := counted.reached
  have enqueued := counted.enqueued
  rw [show t.reset.lidarRecvThr = .ended from recv] at reached
  rw [show t.reset.lidarProcessThr = .ended from process] at enqueued
  change t.reset.reached + 0 = t.reset.queueOverloadDrops + t.reset.enqueuedPackets + 0 + 0 at reached
  change t.reset.enqueuedPackets + 0 = t.reset.flushed + t.reset.driver.processedPackets + 0 + 0 at enqueued
  refine ⟨sound.placed.producer_idle (by rw [recv]; exact nofun), sound.placed.consumer_idle (by rw [process]; exact nofun), ?_⟩
  rcases cleared with rfl | rfl
  · exact ⟨rfl, by omega⟩
  · refine ⟨rfl, ?_⟩
    show t.reset.reached = t.reset.queueOverloadDrops + t.reset.flushed + t.reset.driver.processedPackets
    omega

/-- A session stopped with a packet in the queue. -/
theorem stop_clears_idle_queue_flushing :
    let events := [.start, .joined, .enter] ++ passage [1, 2, 3] 10 0 ++ (passage [4, 5, 6] 11 0).take 6 ++
      [.process, .stop, .leaveProcess, .leaveRecv]
    ∃ t u, events.foldlM (step (.plain .pandarXT16 0 0)) blank = some t ∧ t.step (.plain .pandarXT16 0 0) .joined = some u ∧
      (u.flushed, u.driver.processedPackets) = (1, 1) ∧
      t.packetsBuffer.producer = .idle ∧ t.packetsBuffer.consumer = .idle ∧
      u.packetsBuffer = .start t.packetsBuffer.storage ∧
      u.reached = u.queueOverloadDrops + u.flushed + u.driver.processedPackets := by
  intro events
  have reached : (events.foldlM (step (.plain .pandarXT16 0 0)) blank).bind (fun t =>
      (t.step (.plain .pandarXT16 0 0) .joined).map fun u => (u.flushed, u.driver.processedPackets)) = some (1, 1) := by
    decide +kernel
  obtain ⟨t, run, rest⟩ := Option.bind_eq_some_iff.mp reached
  obtain ⟨u, joined, counts⟩ := Option.map_eq_some_iff.mp rest
  exact ⟨t, u, run, joined, counts, stop_clears_idle_queue _ _ _ _ events t u run joined⟩

end DriverThreads

end HesaiLidar
