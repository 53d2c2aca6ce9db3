import HesaiLidar.Driver.Sessions

/-!
# The joins of Stop

Once `Stop` has cleared the flags, the steps of the two threads can always lead both of them out of their
loops, so that the joins return, unless the computation the processing thread is in ends the program.
-/

namespace HesaiLidar.DriverThreads

variable {cfg : Config} {s t : DriverThreads}

/-- A step of the producing or the processing thread that takes nothing from outside. -/
def ThreadOwn : ThreadEvent → Prop
  | .stop => False
  | .start => False
  | .joined => False
  | .deliver _ => False
  | _ => True

/-- The computation of the processing thread throws or leaves its bounds. -/
def Crashes (cfg : Config) (s : DriverThreads) : Prop :=
  match s.lidarProcessThr with
  | .entering => s.proceed (s.driver.withTransforms (computeTransformToTarget cfg s.driver.transforms)) = none
  | .processing packet => s.proceed (s.driver.processPacket cfg packet) = none
  | _ => False

def Joinable (s : DriverThreads) : Prop := s.lidarRecvThr = .ended ∧ s.lidarProcessThr = .ended

structure Stopping (s : DriverThreads) : Prop where
  recv : s.enableLidarRecvThr = false
  process : s.enableLidarProcessThr = false

/-! ### Steps left -/

def pushLeft : BoundedSpscQueue.Producer PandarPacket PacketsBuffer → Nat
  | .idle => 0
  | .loadedWrite _ _ => 3
  | .copying _ _ _ => 2
  | .copied _ _ _ => 1

def popLeft : BoundedSpscQueue.Consumer PandarPacket PacketsBuffer → Nat
  | .idle => 0
  | .loadedRead _ => 4
  | .copying _ => 3
  | .copied _ _ => 2

def recvLeft : RecvThread → Nat
  | .ended => 0
  | .looping => 1
  | .handing packets => 2 + 4 * packets.length

def processLeft : ProcessThread → Nat
  | .ended => 0
  | .looping => 1
  | .processing _ => 2
  | .entering => 2

/-- How many steps the threads are from their ends at most. -/
def stepsLeft (s : DriverThreads) : Nat :=
  recvLeft s.lidarRecvThr + pushLeft s.packetsBuffer.producer + processLeft s.lidarProcessThr + popLeft s.packetsBuffer.consumer

/-- The thread's own steps lead to `t`, which is nearer to the end. -/
def Nearer (cfg : Config) (s : DriverThreads) : Prop :=
  ∃ event t, ThreadOwn event ∧ s.step cfg event = some t ∧ Stopping t ∧ t.stepsLeft < s.stepsLeft

theorem onQueue_of_step {action : BoundedSpscQueue.Action PandarPacket} {q : BoundedSpscQueue.Threads PandarPacket PacketsBuffer}
    (queue : BoundedSpscQueue.step s.packetsBuffer action = some q) :
    s.onQueue action = some { s with packetsBuffer := q } := by
  unfold onQueue
  rw [queue]
  rfl

theorem nearer_of_queue {m : DriverThreads} {event : ThreadEvent} {action : BoundedSpscQueue.Action PandarPacket}
    {q : BoundedSpscQueue.Threads PandarPacket PacketsBuffer} (moves : s.step cfg event = m.onQueue action)
    (queue : BoundedSpscQueue.step m.packetsBuffer action = some q) (own : ThreadOwn event) (stopping : Stopping m)
    (fewer : recvLeft m.lidarRecvThr + pushLeft q.producer + processLeft m.lidarProcessThr + popLeft q.consumer < s.stepsLeft) :
    Nearer cfg s :=
  ⟨event, _, own, moves.trans (onQueue_of_step queue), ⟨stopping.recv, stopping.process⟩, fewer⟩

/-- A call of `try_push` goes on whatever the other thread does: the newest read index may always be loaded. -/
theorem push_nearer (placed : Placed s) (stopping : Stopping s) (busy : s.packetsBuffer.producer ≠ .idle) : Nearer cfg s := by
  cases at' : s.packetsBuffer.producer with
  | idle => exact absurd at' busy
  | loadedWrite value write =>
    have loads : ∃ q, BoundedSpscQueue.step s.packetsBuffer (.pushLoadRead s.packetsBuffer.readIndex.stores) = some q ∧
        pushLeft q.producer ≤ 2 ∧ q.consumer = s.packetsBuffer.consumer := by
      simp only [BoundedSpscQueue.step, at', PublishedCell.published_latest]
      rw [if_neg (Nat.not_lt_of_le placed.queue.producerView)]
      refine ⟨_, rfl, ?_, rfl⟩
      dsimp only
      split
      · exact Nat.zero_le _
      · exact Nat.le_refl _
    obtain ⟨q, queue, left, consumer⟩ := loads
    have nearer : recvLeft s.lidarRecvThr + pushLeft q.producer + processLeft s.lidarProcessThr + popLeft q.consumer <
        s.stepsLeft := by
      rw [stepsLeft, at', consumer, show pushLeft (.loadedWrite value write) = 3 from rfl]
      omega
    cases full : s.packetsBuffer.refused (.pushLoadRead s.packetsBuffer.readIndex.stores) with
    | none =>
      have moves : s.step cfg (.pushLoadRead s.packetsBuffer.readIndex.stores) =
          s.onQueue (.pushLoadRead s.packetsBuffer.readIndex.stores) := by
        simp only [step, full]
      exact nearer_of_queue moves queue trivial stopping nearer
    | some packet =>
      have moves : s.step cfg (.pushLoadRead s.packetsBuffer.readIndex.stores) = onQueue { s with
          queueOverloadDrops := s.queueOverloadDrops + 1, refused := s.refused ++ [packet] }
          (.pushLoadRead s.packetsBuffer.readIndex.stores) := by
        simp only [step, full]
      exact nearer_of_queue moves queue trivial ⟨stopping.recv, stopping.process⟩ nearer
  | copying value write size =>
    have queue : ∃ q, BoundedSpscQueue.step s.packetsBuffer .pushCopy = some q ∧ pushLeft q.producer = 1 ∧
        q.consumer = s.packetsBuffer.consumer := by
      simp only [BoundedSpscQueue.step, at']
      exact ⟨_, rfl, rfl, rfl⟩
    obtain ⟨q, queue, left, consumer⟩ := queue
    have moves : s.step cfg .pushCopy = s.onQueue .pushCopy := rfl
    refine nearer_of_queue moves queue trivial stopping ?_
    rw [stepsLeft, at', left, consumer, show pushLeft (.copying value write size) = 2 from rfl]
    omega
  | copied value write size =>
    have queue : ∃ q, BoundedSpscQueue.step s.packetsBuffer .pushStore = some q ∧ pushLeft q.producer = 0 ∧
        q.consumer = s.packetsBuffer.consumer := by
      simp only [BoundedSpscQueue.step, at']
      exact ⟨_, rfl, rfl, rfl⟩
    obtain ⟨q, queue, left, consumer⟩ := queue
    have moves : s.step cfg .pushStore = onQueue { s with
        enqueuedPackets := s.enqueuedPackets + 1
        maxQueueDepthObserved := if size + 1 > s.maxQueueDepthObserved then size + 1 else s.maxQueueDepthObserved } .pushStore := by
      simp only [step, at']
    refine nearer_of_queue moves queue trivial ⟨stopping.recv, stopping.process⟩ ?_
    dsimp only
    rw [stepsLeft, at', left, consumer, show pushLeft (.copied value write size) = 1 from rfl]
    omega

theorem pop_nearer (placed : Placed s) (stopping : Stopping s) (busy : s.packetsBuffer.consumer ≠ .idle) : Nearer cfg s := by
  have looping := placed.consumer busy
  cases at' : s.packetsBuffer.consumer with
  | idle => exact absurd at' busy
  | loadedRead read =>
    have loads : ∃ q, BoundedSpscQueue.step s.packetsBuffer (.popLoadWrite s.packetsBuffer.writeIndex.stores) = some q ∧
        popLeft q.consumer ≤ 3 ∧ q.producer = s.packetsBuffer.producer := by
      simp only [BoundedSpscQueue.step, at', PublishedCell.published_latest]
      rw [if_neg (Nat.not_lt_of_le placed.queue.consumerView)]
      refine ⟨_, rfl, ?_, rfl⟩
      dsimp only
      split
      · exact Nat.zero_le _
      · exact Nat.le_refl _
    obtain ⟨q, queue, left, producer⟩ := loads
    have moves : s.step cfg (.popLoadWrite s.packetsBuffer.writeIndex.stores) = s.onQueue (.popLoadWrite _) :=
      rfl
    refine nearer_of_queue moves queue trivial stopping ?_
    rw [stepsLeft, at', producer, show popLeft (.loadedRead read) = 4 from rfl]
    omega
  | copying read =>
    have queue : ∃ q, BoundedSpscQueue.step s.packetsBuffer .popCopy = some q ∧ popLeft q.consumer = 2 ∧
        q.producer = s.packetsBuffer.producer := by
      simp only [BoundedSpscQueue.step, at']
      exact ⟨_, rfl, rfl, rfl⟩
    obtain ⟨q, queue, left, producer⟩ := queue
    have moves : s.step cfg .popCopy = s.onQueue .popCopy := rfl
    refine nearer_of_queue moves queue trivial stopping ?_
    rw [stepsLeft, at', left, producer, show popLeft (.copying read) = 3 from rfl]
    omega
  | copied read packet =>
    have queue : ∃ q, BoundedSpscQueue.step s.packetsBuffer .popStore = some q ∧ popLeft q.consumer = 0 ∧
        q.producer = s.packetsBuffer.producer := by
      simp only [BoundedSpscQueue.step, at']
      exact ⟨_, rfl, rfl, rfl⟩
    obtain ⟨q, queue, left, producer⟩ := queue
    have moves : s.step cfg .popStore = onQueue { s with lidarProcessThr := .processing packet } .popStore := by
      simp only [step, at']
    refine nearer_of_queue moves queue trivial ⟨stopping.recv, stopping.process⟩ ?_
    dsimp only
    rw [stepsLeft, at', left, producer, looping, show popLeft (.copied read packet) = 2 from rfl,
      show processLeft (.processing packet) = 2 from rfl, show processLeft .looping = 1 from rfl]
    omega

theorem recv_nearer (stopping : Stopping s) (idle : s.packetsBuffer.producer = .idle) (busy : s.lidarRecvThr ≠ .ended) :
    Nearer cfg s := by
  cases at' : s.lidarRecvThr with
  | ended => exact absurd at' busy
  | looping =>
    have moves : s.step cfg .leaveRecv = some { s with lidarRecvThr := .ended } := by simp only [step, at', stopping.recv]
    refine ⟨.leaveRecv, _, trivial, moves, ⟨stopping.recv, stopping.process⟩, ?_⟩
    rw [stepsLeft, stepsLeft, at', show recvLeft .looping = 1 from rfl, show recvLeft .ended = 0 from rfl]
    dsimp only
    omega
  | handing packets =>
    cases packets with
    | nil =>
      have moves : s.step cfg .hand = some { s with lidarRecvThr := .looping } := by simp only [step, at', idle]
      refine ⟨.hand, _, trivial, moves, ⟨stopping.recv, stopping.process⟩, ?_⟩
      rw [stepsLeft, stepsLeft, at', show recvLeft (.handing []) = 2 from rfl, show recvLeft .looping = 1 from rfl]
      dsimp only
      omega
    | cons packet packets =>
      have queue : ∃ q, BoundedSpscQueue.step s.packetsBuffer (.pushLoadWrite packet) = some q ∧ pushLeft q.producer = 3 ∧
          q.consumer = s.packetsBuffer.consumer := by
        simp only [BoundedSpscQueue.step, idle]
        exact ⟨_, rfl, rfl, rfl⟩
      obtain ⟨q, queue, left, consumer⟩ := queue
      have moves : s.step cfg .hand = onQueue { s with lidarRecvThr := .handing packets } (.pushLoadWrite packet) := by
        simp only [step, at', idle]
      refine nearer_of_queue moves queue trivial ⟨stopping.recv, stopping.process⟩ ?_
      rw [stepsLeft, at', idle, left, consumer, recvLeft, recvLeft, List.length_cons, show pushLeft .idle = 0 from rfl]
      dsimp only
      omega

theorem proceed_nearer {result : Except (Stop Driver) Driver} (stopping : Stopping s)
    (running : processLeft s.lidarProcessThr = 2) (alive : s.proceed result ≠ none) :
    ∃ t, s.proceed result = some t ∧ Stopping t ∧ t.stepsLeft < s.stepsLeft := by
  obtain ⟨t, next⟩ := Option.ne_none_iff_exists'.mp alive
  refine ⟨t, next, ?_⟩
  obtain ⟨driver, -, rfl⟩ | ⟨driver, -, rfl⟩ := proceed_some next
  all_goals
    refine ⟨⟨stopping.recv, stopping.process⟩, ?_⟩
    unfold stepsLeft
    rw [running]
    simp only [processLeft]
    omega

theorem process_nearer (stopping : Stopping s) (idle : s.packetsBuffer.consumer = .idle) (busy : s.lidarProcessThr ≠ .ended)
    (alive : ¬ Crashes cfg s) : Nearer cfg s := by
  cases at' : s.lidarProcessThr with
  | ended => exact absurd at' busy
  | looping =>
    have moves : s.step cfg .leaveProcess = some { s with lidarProcessThr := .ended } := by
      simp only [step, at', idle, stopping.process]
    refine ⟨.leaveProcess, _, trivial, moves, ⟨stopping.recv, stopping.process⟩, ?_⟩
    rw [stepsLeft, stepsLeft, at', show processLeft .looping = 1 from rfl, show processLeft .ended = 0 from rfl]
    dsimp only
    omega
  | entering =>
    unfold Crashes at alive
    rw [at'] at alive
    obtain ⟨t, next, stopping, nearer⟩ := proceed_nearer stopping (by rw [at']; rfl) alive
    exact ⟨.enter, t, trivial, by simp only [step, at']; exact next, stopping, nearer⟩
  | processing packet =>
    unfold Crashes at alive
    rw [at'] at alive
    obtain ⟨t, next, stopping, nearer⟩ := proceed_nearer stopping (by rw [at']; rfl) alive
    exact ⟨.process, t, trivial, by simp only [step, at']; exact next, stopping, nearer⟩

theorem nearer_of_stopping (placed : Placed s) (stopping : Stopping s) (alive : ¬ Crashes cfg s) (running : ¬ Joinable s) :
    Nearer cfg s := by
  by_cases producer : s.packetsBuffer.producer = .idle
  · by_cases consumer : s.packetsBuffer.consumer = .idle
    · rcases not_and_or.mp running with recv | process
      · exact recv_nearer stopping producer recv
      · exact process_nearer stopping consumer process alive
    · exact pop_nearer placed stopping consumer
  · exact push_nearer placed stopping producer

/-! ### The joins return -/

theorem threads_end (placed : Placed s) (stopping : Stopping s) :
    ∃ (more : List ThreadEvent) (t : DriverThreads), (∀ event ∈ more, ThreadOwn event) ∧
      more.foldlM (step cfg) s = some t ∧ (Joinable t ∨ Crashes cfg t) := by
  have next {s : DriverThreads} (going : Placed s ∧ Stopping s) (running : ¬ (Joinable s ∨ Crashes cfg s)) :
      ∃ event t, ThreadOwn event ∧ Runs.Enabled (step cfg) s event t ∧ (Placed t ∧ Stopping t) ∧ t.stepsLeft < s.stepsLeft := by
    obtain ⟨busy, alive⟩ := not_or.mp running
    obtain ⟨event, t, own, moves, stopping, nearer⟩ := nearer_of_stopping going.1 going.2 alive busy
    exact ⟨event, t, own, moves, ⟨going.1.step (step_cases moves), stopping⟩, nearer⟩
  obtain ⟨more, t, own, run, done⟩ := Runs.exists_run_of_progress next ⟨placed, stopping⟩
  exact ⟨more, t, own, Runs.foldlM_some_of_run run, done⟩

/-- While `Stop` or `Start` waits, the flags are clear. -/
theorem stopping_of_control (h : Stepped cfg s t) (flagged : s.control ≠ .idle → Stopping s) (waiting : t.control ≠ .idle) :
    Stopping t := by
  cases h with
  | called => exact ⟨rfl, rfl⟩
  | stopped => exact absurd rfl waiting
  | launched => exact absurd rfl waiting
  | entered _ next | processed _ next =>
    obtain ⟨_, -, rfl⟩ | ⟨_, -, rfl⟩ := proceed_some next
    · exact ⟨(flagged waiting).recv, (flagged waiting).process⟩
    · exact ⟨(flagged waiting).recv, (flagged waiting).process⟩
  | _ => exact ⟨(flagged waiting).recv, (flagged waiting).process⟩

/-- From every state in which `Stop` or `Start` waits for the threads, steps of the threads alone lead to one in
which both have ended, or to one in which the processing thread brings the program down. -/
theorem stop_returns (cfg : Config) (storage : PacketsBuffer.Index → PandarPacket) (targetFrame : String)
    (pointCloud : Nat → PPoint) (events : List ThreadEvent) (t : DriverThreads)
    (run : events.foldlM (step cfg) (constructed storage targetFrame pointCloud) = some t) (waiting : t.control ≠ .idle) :
    ∃ (more : List ThreadEvent) (u : DriverThreads), (∀ event ∈ more, ThreadOwn event) ∧
      more.foldlM (step cfg) t = some u ∧ (Joinable u ∨ Crashes cfg u) := by
  have flagged := (Runs.run_of_foldlM_some run).invariant (I := fun s => s.control ≠ .idle → Stopping s)
    (fun flagged h => stopping_of_control (step_cases h) flagged) (absurd rfl)
  exact threads_end (sound_of_run run).placed (flagged waiting)

/-- `Stop` is called between the copy of a packet into the queue and the store that publishes it. -/
theorem stop_returns_pushing :
    let events := [.start, .joined, .enter] ++ (passage [1, 2, 3] 10 0).take 4 ++ [.popLoadRead, .stop]
    ∃ t, events.foldlM (step (.plain .pandarXT16 0 0)) blank = some t ∧ t.stepsLeft = 8 ∧
      ∃ (more : List ThreadEvent) (u : DriverThreads), (∀ event ∈ more, ThreadOwn event) ∧
        more.foldlM (step (.plain .pandarXT16 0 0)) t = some u ∧ (Joinable u ∨ Crashes (.plain .pandarXT16 0 0) u) := by
  intro events
  have reached : (events.foldlM (step (.plain .pandarXT16 0 0)) blank).map (fun t =>
      (t.stepsLeft, decide (t.control = .idle))) = some (8, false) := by decide +kernel
  obtain ⟨t, run, shape⟩ := Option.map_eq_some_iff.mp reached
  obtain ⟨left, control⟩ := Prod.mk.inj shape
  exact ⟨t, run, left, stop_returns _ _ _ _ events t run (of_decide_eq_false control)⟩

end HesaiLidar.DriverThreads
