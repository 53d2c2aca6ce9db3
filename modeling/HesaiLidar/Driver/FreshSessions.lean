import HesaiLidar.Driver.Sessions

/-!
# Sessions without transform frames

A session makes the calls a freshly constructed driver would make on the packets it has processed, whatever
earlier sessions left behind. What was shown of the sequential driver so holds of every session.
-/

namespace HesaiLidar

open Lockstep

variable {cfg : Config}

theorem processPacket_not_returned {s left : Driver} {packet : PandarPacket} (noTf : s.NoTf cfg) :
    s.processPacket cfg packet ≠ .error (.returned left) := by
  intro returned
  obtain ⟨stamp, -, early | ⟨m, a, admitted, blocks⟩⟩ := processPacket_stopped returned
  · have ways := accept_cases cfg (s.guarded packet) packet stamp
    rw [early] at ways
    cases ways with
    | lookup _ failed =>
      rw [computeTransformToFixed_noTf (s := s.guarded packet) noTf] at failed
      cases failed
  · obtain ⟨-, -, -, stamped, keeps, known⟩ := accept_ok admitted
    obtain ⟨fault, -, same⟩ := processBlocks_noTf_error (keeps noTf) (stamped.trans (known a rfl).stamp.symm) blocks
    cases same

/-- Without transform frames no packet ends the thread. -/
theorem processLiarPacket_not_returned {entry left : Driver} (configured : entry.Configured cfg)
    (packets : List PandarPacket) : processLiarPacket cfg entry packets ≠ .error (.returned left) := by
  have step {s : Driver} {packet : PandarPacket} (configured : s.Configured cfg) (_ : True) :
      Runs.Outcome (fun s : Driver => s.Configured cfg) (fun stop => ∀ left, stop ≠ .returned left) (s.processPacket cfg packet) := by
    cases result : s.processPacket cfg packet with
    | ok t => exact configured.processPacket result
    | error stop =>
      rintro left rfl
      exact processPacket_not_returned configured.noTf result
  have run : Runs.Outcome (fun s : Driver => s.Configured cfg) (fun stop => ∀ left, stop ≠ .returned left)
      (packets.foldlM (Driver.processPacket cfg) entry) :=
    Runs.foldlM_outcome_of_allSteps step configured (Runs.allSteps_of_forall fun _ _ => trivial)
  unfold processLiarPacket
  rw [computeTransformToTarget_untargeted configured.noTf.2]
  intro returned
  rw [show packets.foldlM (Driver.processPacket cfg) entry = .error (.returned left) from returned] at run
  exact run left rfl

namespace DriverThreads

variable {s t : DriverThreads} {event : ThreadEvent}

/-- The state `Start` leaves to the processing thread of a session, from any driver it finds. -/
structure Entered (cfg : Config) (entry : Driver) : Prop where
  configured : entry.Configured cfg
  guard : entry.packetTimestampGuard = .fresh kTimestampRegressionToleranceSec
  tracker : entry.xtSequenceTracker = .fresh kXtSequenceRestartIdleSec
  frame : ∃ before : Frame, entry.frame = before.restart

structure Configured (cfg : Config) (s : DriverThreads) : Prop where
  driver : s.driver.Configured cfg
  entry : s.session = true → Entered cfg s.entry

theorem Configured.reset (configured : Configured cfg s) : s.reset.driver.Configured cfg :=
  ⟨configured.driver.noTf, configured.driver.toleranceSec, configured.driver.restartIdleSec⟩

theorem Configured.launch (configured : Configured cfg s) : Configured cfg s.reset.launch where
  driver := ⟨configured.driver.noTf, configured.driver.toleranceSec, configured.driver.restartIdleSec⟩
  entry := fun _ =>
    { configured := ⟨configured.driver.noTf, configured.driver.toleranceSec, configured.driver.restartIdleSec⟩
      guard := configured.reset.guard_reset
      tracker := configured.reset.tracker_reset
      frame := ⟨_, rfl⟩ }

theorem Configured.step (configured : Configured cfg s) (h : Runs.Enabled (DriverThreads.step cfg) s event t) :
    Configured cfg t := by
  cases step_cases h with
  | stopped => exact ⟨configured.reset, nofun⟩
  | launched => exact configured.launch
  | entered _ next =>
    have untargeted := configured.driver.noTf.2
    rw [computeTransformToTarget_untargeted untargeted] at next
    obtain rfl := Option.some.inj next
    exact ⟨configured.driver, configured.entry⟩
  | processed _ next =>
    obtain ⟨driver, result, rfl⟩ | ⟨driver, result, -⟩ := proceed_some next
    · exact ⟨configured.driver.processPacket result, configured.entry⟩
    · exact absurd result (processPacket_not_returned configured.driver.noTf)
  | _ => exact ⟨configured.driver, configured.entry⟩

theorem configured_of_run {storage : PacketsBuffer.Index → PandarPacket} {pointCloud : Nat → PPoint}
    {events : List ThreadEvent} (noTf : cfg.fixedFrame = "")
    (run : events.foldlM (step cfg) (constructed storage "" pointCloud) = some t) : Configured cfg t :=
  (Runs.run_of_foldlM_some run).invariant Configured.step ⟨⟨⟨noTf, rfl⟩, rfl, rfl⟩, nofun⟩

/-- A fresh driver and the entry state of a session differ in history and old array contents only. -/
theorem Entered.alike {entry : Driver} (entered : Entered cfg entry) (noTf : cfg.fixedFrame = "")
    (pointCloud : Nat → PPoint) :
    Alike cfg entry.accepted (SameFrame cfg.structured entry.frame.callbacks) (Driver.start "" pointCloud) entry where
  guard := entered.guard
  tracker := entered.tracker
  transforms := .inr ⟨⟨noTf, rfl⟩, entered.configured.noTf⟩
  frame := by
    obtain ⟨before, restarted⟩ := entered.frame
    rw [restarted]
    exact SameFrame.restart (f := (Driver.start "" pointCloud).frame) (List.append_nil _).symm
  accepted := (List.append_nil _).symm

/-- A run from the entry state of a session, seen from a fresh driver. -/
theorem Entered.fresh_run {entry driver : Driver} (entered : Entered cfg entry) (noTf : cfg.fixedFrame = "")
    (pointCloud : Nat → PPoint) {processed : List PandarPacket}
    (run : processLiarPacket cfg entry processed = .ok driver) :
    ∃ fresh, processLiarPacket cfg (Driver.start "" pointCloud) processed = .ok fresh ∧
      Alike cfg entry.accepted (SameFrame cfg.structured entry.frame.callbacks) fresh driver := by
  have packets : processed.foldlM (Driver.processPacket cfg) entry = .ok driver := by
    unfold processLiarPacket at run
    rwa [computeTransformToTarget_untargeted entered.configured.noTf.2] at run
  have free (s : Driver) : Runs.AllSteps (Runs.Succeeds (Driver.processPacket cfg)) (AtBlocks cfg fun _ _ _ => True) s
      processed := Runs.allSteps_of_forall fun _ _ _ _ _ _ _ _ => Runs.allSteps_of_forall fun _ _ => trivial
  have agree := foldlM_agree (f := Driver.processPacket cfg) (g := Driver.processPacket cfg)
    (fun alike side => processPacket_agree cfg.pclType (same_lockstep cfg entry.frame.callbacks) alike side)
    (entered.alike noTf pointCloud) (free _)
  have start : processLiarPacket cfg (Driver.start "" pointCloud) processed =
      processed.foldlM (Driver.processPacket cfg) (Driver.start "" pointCloud) := rfl
  rw [start]
  rw [packets] at agree
  generalize processed.foldlM (Driver.processPacket cfg) (Driver.start "" pointCloud) = result at agree ⊢
  cases agree with
  | ok related => exact ⟨_, rfl, related⟩

theorem Configured.ran (configured : Configured cfg s) (opened : s.session = true) {processed : List PandarPacket}
    (ran : RanThrough cfg s processed) : processLiarPacket cfg s.entry processed = .ok s.driver := by
  have entry := (configured.entry opened).configured
  unfold RanThrough at ran
  split at ran
  · obtain ⟨rfl, same⟩ := ran
    rw [same]
    unfold processLiarPacket
    rw [computeTransformToTarget_untargeted entry.noTf.2]
    rfl
  · exact ran
  · exact ran
  · exact ran.resolve_right (processLiarPacket_not_returned entry processed)

/-- The state of a session seen from a freshly constructed driver: what that driver makes of the packets the
session is through with. -/
structure FreshRun (cfg : Config) (t : DriverThreads) (processed : List PandarPacket) (fresh : Driver) : Prop where
  popped : processed ++ t.lidarProcessThr.inHand.toList = t.packetsBuffer.popped
  received : processed.Sublist t.received
  accounts : t.accounts.Perm t.received
  callbacks : t.driver.frame.callbacks = t.entry.frame.callbacks ++ fresh.frame.callbacks
  accepted : t.driver.accepted = t.entry.accepted ++ fresh.accepted

theorem fresh_run_of_session (noTf : cfg.fixedFrame = "") {storage : PacketsBuffer.Index → PandarPacket}
    {pointCloud : Nat → PPoint} {events : List ThreadEvent} (fresh : Nat → PPoint)
    (run : events.foldlM (step cfg) (constructed storage "" pointCloud) = some t) (opened : t.session = true) :
    ∃ processed s, processLiarPacket cfg (Driver.start "" fresh) processed = .ok s ∧ FreshRun cfg t processed s := by
  have sound := sound_of_run run
  have configured := configured_of_run noTf run
  obtain ⟨processed, popped, ran⟩ := sound.inSession.ranThrough opened
  obtain ⟨ordered, accounted⟩ := sound.handed.pushed
  obtain ⟨s, again, alike⟩ := (configured.entry opened).fresh_run noTf fresh (configured.ran opened ran)
  refine ⟨processed, s, again, popped, ?_, accounted, alike.frame.callbacks, alike.accepted⟩
  have order : processed.Sublist t.packetsBuffer.popped := popped ▸ List.sublist_append_left ..
  rw [sound.placed.queue.poppedTake] at order
  exact (order.trans (List.take_sublist ..)).trans ordered

/-- Every session, whatever happened before it and under every schedule, adds to the calls made before the
calls a freshly constructed driver makes on packets of that session. -/
theorem sessions_start_afresh (cfg : Config) (noTf : cfg.fixedFrame = "") (storage : PacketsBuffer.Index → PandarPacket)
    (pointCloud fresh : Nat → PPoint) (events : List ThreadEvent) (t : DriverThreads)
    (run : events.foldlM (step cfg) (constructed storage "" pointCloud) = some t) (opened : t.session = true) :
    ∃ processed s, processLiarPacket cfg (Driver.start "" fresh) processed = .ok s ∧ FreshRun cfg t processed s :=
  fresh_run_of_session noTf fresh run opened

/-- A second session; the first one has left eight points in the frame. -/
theorem sessions_start_afresh_second :
    let cfg := Config.plain .pandarXT16 0 0
    let bytes := (List.range 568).map (xt16Packet 10 0 fun b => 35800 + b).data
    let events := [.start, .joined, .enter] ++ passage bytes 10 0 ++ [.process, .stop, .leaveProcess, .leaveRecv, .joined,
      .start, .joined, .enter] ++ passage [1, 2, 3] 11 0
    ∃ t, events.foldlM (step cfg) blank = some t ∧ t.driver.accepted.length = 1 ∧
      ∃ processed s, processLiarPacket cfg (Driver.start "" fun _ => ⟨0, 0, 0, 0, 0, 0⟩) processed = .ok s ∧
        FreshRun cfg t processed s := by
  intro cfg bytes events
  have reached : (events.foldlM (step cfg) blank).map (fun t => (t.session, t.driver.accepted.length)) = some (true, 1) := by
    decide +kernel
  obtain ⟨t, run, shape⟩ := Option.map_eq_some_iff.mp reached
  obtain ⟨opened, accepted⟩ := Prod.mk.inj shape
  exact ⟨t, run, accepted, sessions_start_afresh cfg rfl _ _ _ events t run opened⟩

/-- On the XT path every session conserves its frames and, on receive time, emits no stale point. -/
theorem xt_sessions_safe (cfg : Config) (noTf : cfg.fixedFrame = "") (storage : PacketsBuffer.Index → PandarPacket)
    (pointCloud : Nat → PPoint) (events : List ThreadEvent) (t : DriverThreads)
    (run : events.foldlM (step cfg) (constructed storage "" pointCloud) = some t) (opened : t.session = true)
    (path : ∀ packet ∈ t.received, OnXtPath cfg packet) :
    ∃ processed s, FreshRun cfg t processed s ∧ FramesConserved cfg processed s ∧
      (cfg.realtime = true → NoStalePoint cfg.structured s.frame.callbacks) := by
  obtain ⟨processed, s, again, fresh⟩ := fresh_run_of_session noTf pointCloud run opened
  have taken : ∀ packet ∈ processed, OnXtPath cfg packet := fun packet member => path packet (fresh.received.subset member)
  refine ⟨processed, s, fresh, (xtRun_of_run noTf taken again).conserved, fun realtime => ?_⟩
  obtain ⟨passed, waiting, -, kept⟩ := (staleFree_of_run noTf realtime taken again).fresh
  exact kept.noStalePoint

/-- Two packets with a boundary in the second one. -/
theorem xt_sessions_safe_sweep :
    let cfg := Config.plain .pandarXT16 0 0
    let first := (List.range 568).map (xt16Packet 10 0 fun b => 35800 + b).data
    let second := (List.range 568).map (xt16Packet 11 1 fun b => (35996 + b) % 36000).data
    let events := [.start, .joined, .enter] ++ passage first 10 0 ++ [.process] ++ passage second 11 1 ++ [.process]
    ∃ t, events.foldlM (step cfg) blank = some t ∧ (t.driver.frame.callbacks.map fun c => c.cloud.points.length) = [12] ∧
      ∃ processed s, FreshRun cfg t processed s ∧ FramesConserved cfg processed s ∧
        (cfg.realtime = true → NoStalePoint cfg.structured s.frame.callbacks) := by
  intro cfg first second events
  have reached : (events.foldlM (step cfg) blank).map (fun t => (t.session,
      decide (∀ packet ∈ t.received, OnXtPath cfg packet), t.driver.frame.callbacks.map fun c => c.cloud.points.length)) =
      some (true, true, [12]) := by decide +kernel
  obtain ⟨t, run, shape⟩ := Option.map_eq_some_iff.mp reached
  obtain ⟨opened, shape⟩ := Prod.mk.inj shape
  obtain ⟨path, points⟩ := Prod.mk.inj shape
  exact ⟨t, run, points, xt_sessions_safe cfg rfl _ _ events t run opened (of_decide_eq_true path)⟩

end DriverThreads

end HesaiLidar
