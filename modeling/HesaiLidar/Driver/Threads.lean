import HesaiLidar.Driver.Ingest
import HesaiLidar.Driver.Restart
import HesaiLidar.Queue.Calls
import HesaiLidar.Queue.Refusals

/-!
# The threads of a driver

`Start` and `Stop` and the two threads they create and join. The producing thread, which is the receive task
or the pcap reader, hands the packets of its deliveries to `PushLiDARData` while the processing thread pops
and processes. Both see a cleared flag late. The queue is the one of `Queue.Interleaving`, with every call
in its separate steps.
-/

namespace HesaiLidar

inductive RecvThread where
  | ended
  | looping
  | handing (packets : List PandarPacket)

inductive ProcessThread where
  | ended
  | entering
  | looping
  | processing (packet : PandarPacket)

/-- The thread that calls `Start` and `Stop`: outside of both, or about to join in one of them. -/
inductive Control where
  | idle
  | stopping
  | restarting
deriving DecidableEq

/-- The last six fields are history: the state the session began with, the packets that reached the producing
thread in it and the refused ones, and over all sessions the packets that reached it and those flushed. -/
structure DriverThreads where
  packetsBuffer : BoundedSpscQueue.Threads PandarPacket PacketsBuffer
  enableLidarRecvThr : Bool
  enableLidarProcessThr : Bool
  lidarRecvThr : RecvThread
  lidarProcessThr : ProcessThread
  control : Control
  queueOverloadDrops : Nat
  enqueuedPackets : Nat
  maxQueueDepthObserved : Nat
  driver : Driver
  session : Bool
  entry : Driver
  received : List PandarPacket
  refused : List PandarPacket
  reached : Nat
  flushed : Nat

inductive ThreadEvent where
  | stop
  | start
  | joined
  | deliver (delivery : Delivery)
  | leaveRecv
  | hand
  | pushLoadRead (k : Nat)
  | pushCopying (partial' : PandarPacket)
  | pushCopy
  | pushStore
  | enter
  | popLoadRead
  | popLoadWrite (k : Nat)
  | popCopy
  | popStore
  | process
  | leaveProcess

namespace DriverThreads

/-- A driver as constructed. -/
def constructed (storage : PacketsBuffer.Index → PandarPacket) (targetFrame : String) (pointCloud : Nat → PPoint) :
    DriverThreads where
  packetsBuffer := .start storage
  enableLidarRecvThr := false
  enableLidarProcessThr := false
  lidarRecvThr := .ended
  lidarProcessThr := .ended
  control := .idle
  queueOverloadDrops := 0
  enqueuedPackets := 0
  maxQueueDepthObserved := 0
  driver := .start targetFrame pointCloud
  session := false
  entry := .start targetFrame pointCloud
  received := []
  refused := []
  reached := 0
  flushed := 0

/-- What `Stop` clears once both threads are joined. -/
def reset (s : DriverThreads) : DriverThreads :=
  { s with
    packetsBuffer := .start s.packetsBuffer.storage
    control := .idle
    driver := { s.driver with
      packetTimestampGuard := s.driver.packetTimestampGuard.reset
      xtSequenceTracker := s.driver.xtSequenceTracker.reset }
    session := false
    received := []
    refused := []
    flushed := s.flushed + s.packetsBuffer.backlog }

/-- The rest of `Start`: its own resets, the flags and the two new threads. -/
def launch (s : DriverThreads) : DriverThreads :=
  let driver := { s.driver with
    packetTimestampGuard := s.driver.packetTimestampGuard.reset
    xtSequenceTracker := s.driver.xtSequenceTracker.reset
    frame := s.driver.frame.restart }
  { s with
    enableLidarRecvThr := true
    enableLidarProcessThr := true
    lidarRecvThr := .looping
    lidarProcessThr := .entering
    driver := driver
    session := true
    entry := driver }

def onQueue (s : DriverThreads) (action : BoundedSpscQueue.Action PandarPacket) : Option DriverThreads :=
  (BoundedSpscQueue.step s.packetsBuffer action).map fun q => { s with packetsBuffer := q }

/-- What a computation of the processing thread leaves. A `return` ends the thread; behind an exception or an
access out of bounds the program has no next step. -/
def proceed (s : DriverThreads) : Except (Stop Driver) Driver → Option DriverThreads
  | .ok driver => some { s with driver := driver, lidarProcessThr := .looping }
  | .error (.returned driver) => some { s with driver := driver, lidarProcessThr := .ended }
  | .error (.uncaught _) => none
  | .error (.undefined _) => none

/-- One step of the calling thread, the producing thread or the processing thread; `none` when that thread is
not at that point. -/
def step (cfg : Config) (s : DriverThreads) : ThreadEvent → Option DriverThreads
  | .stop =>
    match s.control with
    | .idle => some { s with enableLidarRecvThr := false, enableLidarProcessThr := false, control := .stopping }
    | _ => none
  | .start =>
    match s.control with
    | .idle => some { s with enableLidarRecvThr := false, enableLidarProcessThr := false, control := .restarting }
    | _ => none
  | .joined =>
    match s.lidarRecvThr, s.lidarProcessThr, s.control with
    | .ended, .ended, .stopping => some s.reset
    | .ended, .ended, .restarting => some s.reset.launch
    | _, _, _ => none
  | .deliver delivery =>
    -- The flag may be read late, so that a cleared one does not rule out another round.
    match s.lidarRecvThr, delivery.ingest with
    | .looping, .ok packets =>
      some { s with
        lidarRecvThr := .handing packets
        received := s.received ++ packets
        reached := s.reached + packets.length }
    | _, _ => none
  | .leaveRecv =>
    match s.lidarRecvThr, s.enableLidarRecvThr with
    | .looping, false => some { s with lidarRecvThr := .ended }
    | _, _ => none
  | .hand =>
    match s.lidarRecvThr, s.packetsBuffer.producer with
    | .handing [], .idle => some { s with lidarRecvThr := .looping }
    | .handing (packet :: packets), .idle =>
      { s with lidarRecvThr := .handing packets }.onQueue (.pushLoadWrite packet)
    | _, _ => none
  | .pushLoadRead k =>
    match s.packetsBuffer.refused (.pushLoadRead k) with
    | some packet =>
      { s with queueOverloadDrops := s.queueOverloadDrops + 1, refused := s.refused ++ [packet] }.onQueue (.pushLoadRead k)
    | none => s.onQueue (.pushLoadRead k)
  | .pushCopying partial' => s.onQueue (.pushCopying partial')
  | .pushCopy => s.onQueue .pushCopy
  | .pushStore =>
    match s.packetsBuffer.producer with
    | .copied _ _ currentSize =>
      { s with
        enqueuedPackets := s.enqueuedPackets + 1
        maxQueueDepthObserved :=
          if currentSize + 1 > s.maxQueueDepthObserved then currentSize + 1 else s.maxQueueDepthObserved }.onQueue .pushStore
    | _ => none
  | .enter =>
    match s.lidarProcessThr with
    | .entering => s.proceed (s.driver.withTransforms (computeTransformToTarget cfg s.driver.transforms))
    | _ => none
  | .popLoadRead =>
    match s.lidarProcessThr with
    | .looping => s.onQueue .popLoadRead
    | _ => none
  | .popLoadWrite k => s.onQueue (.popLoadWrite k)
  | .popCopy => s.onQueue .popCopy
  | .popStore =>
    match s.packetsBuffer.consumer with
    | .copied _ packet => { s with lidarProcessThr := .processing packet }.onQueue .popStore
    | _ => none
  | .process =>
    match s.lidarProcessThr with
    | .processing packet => s.proceed (s.driver.processPacket cfg packet)
    | _ => none
  | .leaveProcess =>
    match s.lidarProcessThr, s.packetsBuffer.consumer, s.enableLidarProcessThr with
    | .looping, .idle, false => some { s with lidarProcessThr := .ended }
    | _, _, _ => none

end DriverThreads

def RecvThread.left : RecvThread → List PandarPacket
  | .handing packets => packets
  | _ => []

def ProcessThread.inHand : ProcessThread → Option PandarPacket
  | .processing packet => some packet
  | _ => none


namespace DriverThreads

variable {cfg : Config} {s t : DriverThreads} {event : ThreadEvent}

/-! ### What one step can do -/

inductive Stepped (cfg : Config) (s : DriverThreads) : DriverThreads → Prop
  | called (control : Control) :
    Stepped cfg s { s with enableLidarRecvThr := false, enableLidarProcessThr := false, control := control }
  | stopped (recv : s.lidarRecvThr = .ended) (process : s.lidarProcessThr = .ended) : Stepped cfg s s.reset
  | launched (recv : s.lidarRecvThr = .ended) (process : s.lidarProcessThr = .ended) : Stepped cfg s s.reset.launch
  | delivered (packets : List PandarPacket) (looping : s.lidarRecvThr = .looping) :
    Stepped cfg s { s with
      lidarRecvThr := .handing packets
      received := s.received ++ packets
      reached := s.reached + packets.length }
  | recvLeft (looping : s.lidarRecvThr = .looping) : Stepped cfg s { s with lidarRecvThr := .ended }
  | handedAll (handing : s.lidarRecvThr = .handing []) (idle : s.packetsBuffer.producer = .idle) :
    Stepped cfg s { s with lidarRecvThr := .looping }
  | handed {packet : PandarPacket} {packets : List PandarPacket} {q : BoundedSpscQueue.Threads PandarPacket PacketsBuffer}
      (handing : s.lidarRecvThr = .handing (packet :: packets))
      (queue : BoundedSpscQueue.step s.packetsBuffer (.pushLoadWrite packet) = some q) :
    Stepped cfg s { s with packetsBuffer := q, lidarRecvThr := .handing packets }
  | refused {packet : PandarPacket} {k : Nat} {q : BoundedSpscQueue.Threads PandarPacket PacketsBuffer}
      (queue : BoundedSpscQueue.step s.packetsBuffer (.pushLoadRead k) = some q)
      (full : s.packetsBuffer.refused (.pushLoadRead k) = some packet) :
    Stepped cfg s { s with
      packetsBuffer := q
      queueOverloadDrops := s.queueOverloadDrops + 1
      refused := s.refused ++ [packet] }
  | moved {action : BoundedSpscQueue.Action PandarPacket} {q : BoundedSpscQueue.Threads PandarPacket PacketsBuffer}
      (queue : BoundedSpscQueue.step s.packetsBuffer action = some q) (within : action.Within)
      (room : s.packetsBuffer.refused action = none) (looping : action = .popLoadRead → s.lidarProcessThr = .looping) :
    Stepped cfg s { s with packetsBuffer := q }
  | pushed {packet : PandarPacket} {write : PacketsBuffer.Index} {size : Nat}
      {q : BoundedSpscQueue.Threads PandarPacket PacketsBuffer}
      (copied : s.packetsBuffer.producer = .copied packet write size)
      (queue : BoundedSpscQueue.step s.packetsBuffer .pushStore = some q) :
    Stepped cfg s { s with
      packetsBuffer := q
      enqueuedPackets := s.enqueuedPackets + 1
      maxQueueDepthObserved := if size + 1 > s.maxQueueDepthObserved then size + 1 else s.maxQueueDepthObserved }
  | popped {packet : PandarPacket} {read : PacketsBuffer.Index} {q : BoundedSpscQueue.Threads PandarPacket PacketsBuffer}
      (copied : s.packetsBuffer.consumer = .copied read packet)
      (queue : BoundedSpscQueue.step s.packetsBuffer .popStore = some q) :
    Stepped cfg s { s with packetsBuffer := q, lidarProcessThr := .processing packet }
  | entered {t : DriverThreads} (entering : s.lidarProcessThr = .entering)
      (next : s.proceed (s.driver.withTransforms (computeTransformToTarget cfg s.driver.transforms)) = some t) :
    Stepped cfg s t
  | processed {t : DriverThreads} {packet : PandarPacket} (processing : s.lidarProcessThr = .processing packet)
      (next : s.proceed (s.driver.processPacket cfg packet) = some t) :
    Stepped cfg s t
  | processLeft (looping : s.lidarProcessThr = .looping) (idle : s.packetsBuffer.consumer = .idle) :
    Stepped cfg s { s with lidarProcessThr := .ended }

theorem onQueue_some {action : BoundedSpscQueue.Action PandarPacket} (h : s.onQueue action = some t) :
    ∃ q, BoundedSpscQueue.step s.packetsBuffer action = some q ∧ t = { s with packetsBuffer := q } := by
  obtain ⟨q, queue, rfl⟩ := Option.map_eq_some_iff.mp h
  exact ⟨q, queue, rfl⟩

theorem step_cases (h : s.step cfg event = some t) : Stepped cfg s t := by
  cases event with
  | stop | start =>
    simp only [step] at h
    split at h
    · obtain rfl := Option.some.inj h
      exact .called _
    · cases h
  | joined =>
    simp only [step] at h
    split at h
    · obtain rfl := Option.some.inj h
      exact .stopped ‹_› ‹_›
    · obtain rfl := Option.some.inj h
      exact .launched ‹_› ‹_›
    · cases h
  | deliver delivery =>
    simp only [step] at h
    split at h
    · obtain rfl := Option.some.inj h
      exact .delivered _ ‹_›
    · cases h
  | leaveRecv =>
    simp only [step] at h
    split at h
    · obtain rfl := Option.some.inj h
      exact .recvLeft ‹_›
    · cases h
  | hand =>
    simp only [step] at h
    split at h
    · obtain rfl := Option.some.inj h
      exact .handedAll ‹_› ‹_›
    · obtain ⟨q, queue, rfl⟩ := onQueue_some h
      exact .handed ‹_› queue
    · cases h
  | pushLoadRead k =>
    simp only [step] at h
    split at h
    · obtain ⟨q, queue, rfl⟩ := onQueue_some h
      exact .refused queue ‹_›
    · obtain ⟨q, queue, rfl⟩ := onQueue_some h
      exact .moved queue trivial ‹_› nofun
  | pushCopying | pushCopy | popLoadWrite | popCopy =>
    obtain ⟨q, queue, rfl⟩ := onQueue_some h
    exact .moved queue trivial rfl nofun
  | pushStore =>
    simp only [step] at h
    split at h
    · obtain ⟨q, queue, rfl⟩ := onQueue_some h
      exact .pushed ‹_› queue
    · cases h
  | enter =>
    simp only [step] at h
    split at h
    · exact .entered ‹_› h
    · cases h
  | popLoadRead =>
    simp only [step] at h
    split at h
    · obtain ⟨q, queue, rfl⟩ := onQueue_some h
      exact .moved queue trivial rfl fun _ => ‹_›
    · cases h
  | popStore =>
    simp only [step] at h
    split at h
    · obtain ⟨q, queue, rfl⟩ := onQueue_some h
      exact .popped ‹_› queue
    · cases h
  | process =>
    simp only [step] at h
    split at h
    · exact .processed ‹_› h
    · cases h
  | leaveProcess =>
    simp only [step] at h
    split at h
    · obtain rfl := Option.some.inj h
      exact .processLeft ‹_› ‹_›
    · cases h

/-- A computation changes the driver and the place of the processing thread. -/
theorem proceed_some {result : Except (Stop Driver) Driver} (h : s.proceed result = some t) :
    (∃ driver, result = .ok driver ∧ t = { s with driver := driver, lidarProcessThr := .looping }) ∨
      ∃ driver, result = .error (.returned driver) ∧ t = { s with driver := driver, lidarProcessThr := .ended } := by
  rcases result with (driver | driver | fault) | driver
  · exact .inr ⟨driver, rfl, (Option.some.inj h).symm⟩
  · cases h
  · cases h
  · exact .inl ⟨driver, rfl, (Option.some.inj h).symm⟩

end DriverThreads

end HesaiLidar
