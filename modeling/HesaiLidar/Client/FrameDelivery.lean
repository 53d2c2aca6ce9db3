import HesaiLidar.Client.Publication
import HesaiLidar.Driver.SensorTime

/-!
# From packets to messages

The clouds `ProcessLiarPacket` hands to `lidarCallback` on the XT path, and what the publisher thread makes of
them: no frame is refused, and every message can be read back to the points of one frame.
-/

namespace HesaiLidar

/-- The call of `lidarCallback` for a frame; `bits` stands for the numbers of a point in memory. -/
def Callback.call (bits : PPoint → BitPoint) (c : Callback) : CloudCallback where
  cld := some ⟨c.cloud.points.map bits, c.cloud.width, c.cloud.height, c.cloud.frameId, c.cloud.isDense⟩
  timestamp := c.timestamp

/-- A reader that knows of the message only what it says finds the points of the frame, and the header carries the
time of the first one. -/
structure PointCloud2.Delivers (message : PointCloud2) (bits : PPoint → BitPoint) (c : Callback) : Prop where
  size : message.width.toNat * message.height.toNat = c.cloud.points.length
  points : ∀ row col, row < message.height.toNat → col < message.width.toNat →
    ∃ p, c.cloud.points[row * message.width.toNat + col]? = some p ∧ message.Shows row col (bits p)
  stamp : c.timestamp - 1 / 10 ^ 9 < message.stamp ∧ message.stamp ≤ c.timestamp
  first : c.cloud.points.head?.map PointXYZIT.timestamp = some c.timestamp

namespace Client

variable {cfg : ClientConfig} {s t : Client}

/-! ### Every accepted cloud is counted -/

/-- The mailbox is open as long as clouds come, so every accepted cloud is enqueued. -/
structure Counted (s : Client) : Prop where
  notStopped : s.shutdown = .alive ∨ s.shutdown = .sdkDeleted → s.cloudPublishMailbox.stopped = false
  enqueued : s.accepted.length = s.cloudsEnqueued + s.callback.held.length + s.callback.uncounted

theorem start_counted : start.Counted := ⟨fun _ => rfl, rfl⟩

theorem Counted.lidarCallback {call : CloudCallback} (counted : s.Counted)
    (h : s.step cfg (.lidarCallback call) = some t) : t.Counted := by
  have enqueued := counted.enqueued
  simp only [step] at h
  split at h
  · rename_i ready
    rw [ready.1] at enqueued
    unfold Client.lidarCallback at h
    split at h
    · split at h
      · obtain rfl := Option.some.inj h
        exact ⟨counted.notStopped, enqueued⟩
      · split at h
        · obtain rfl := Option.some.inj h
          exact ⟨counted.notStopped, enqueued⟩
        · unfold offer at h
          dsimp only at h
          split at h
          · split at h
            · cases h
            · obtain rfl := Option.some.inj h
              refine ⟨counted.notStopped, ?_⟩
              simp only [List.length_append, List.length_singleton, enqueued, CallbackThread.held, CallbackThread.uncounted,
                List.length_nil]
          · obtain rfl := Option.some.inj h
            exact ⟨counted.notStopped, enqueued⟩
    · obtain rfl := Option.some.inj h
      exact ⟨counted.notStopped, enqueued⟩
  · cases h

theorem Counted.push (counted : s.Counted) (inv : s.Inv cfg) (h : s.step cfg .push = some t) : t.Counted := by
  have enqueued := counted.enqueued
  simp only [step] at h
  split at h
  · rename_i output pushing
    have mailbox := counted.notStopped (.inl (inv.alive (by rw [pushing]; rintro ⟨⟩)))
    rw [pushing] at enqueued
    rw [LatestValueMailbox.push, mailbox, if_neg Bool.false_ne_true] at h
    obtain rfl := Option.some.inj h
    refine ⟨fun _ => rfl, ?_⟩
    split <;> exact enqueued
  · cases h

/-- The two counting steps behind a push. -/
theorem Counted.recounted (counted : s.Counted) {enqueued overwrites : Nat} {callback : CallbackThread}
    (held : callback.held.length = s.callback.held.length)
    (same : enqueued + callback.uncounted = s.cloudsEnqueued + s.callback.uncounted) :
    { s with cloudsEnqueued := enqueued, cloudQueueOverwrites := overwrites, callback := callback }.Counted where
  notStopped := counted.notStopped
  enqueued := by
    have before := counted.enqueued
    dsimp only
    omega

theorem Counted.step {action : ClientAction} (counted : s.Counted) (inv : s.Inv cfg) (h : s.step cfg action = some t) :
    t.Counted := by
  cases action with
  | lidarCallback call => exact counted.lidarCallback h
  | push => exact counted.push inv h
  | countEnqueued =>
    simp only [Client.step] at h
    split at h
    · rename_i result counting
      obtain rfl := Option.some.inj h
      refine counted.recounted (by rw [counting]; rfl) ?_
      rw [counting]
      cases result <;> rfl
    · cases h
  | countOverwrite =>
    simp only [Client.step] at h
    split at h
    · rename_i result counting
      obtain rfl := Option.some.inj h
      exact counted.recounted (by rw [counting]; rfl) (by rw [counting]; rfl)
    · cases h
  | publishScan =>
    simp only [Client.step] at h
    split at h
    · rename_i publishing
      obtain rfl := Option.some.inj h
      exact ⟨counted.notStopped, by have enqueued := counted.enqueued; rw [publishing] at enqueued; exact enqueued⟩
    · cases h
  | waitPop =>
    simp only [Client.step] at h
    split at h
    · split at h
      all_goals
        rename_i popped
        obtain ⟨-, rfl⟩ := Prod.mk.inj popped
        obtain rfl := Option.some.inj h
        exact ⟨counted.notStopped, counted.enqueued⟩
    · cases h
  | publishReturns | publishThrows =>
    simp only [Client.step] at h
    split at h
    · obtain rfl := Option.some.inj h
      exact ⟨counted.notStopped, counted.enqueued⟩
    · cases h
  | deleteSdk =>
    simp only [Client.step] at h
    split at h
    · rename_i ready
      obtain rfl := Option.some.inj h
      exact ⟨fun _ => counted.notStopped (.inl ready.2), counted.enqueued⟩
    · cases h
  | stop | join =>
    simp only [Client.step] at h
    split at h
    · obtain rfl := Option.some.inj h
      refine ⟨?_, counted.enqueued⟩
      rintro (other | other) <;> cases other
    · cases h

theorem run_counted {actions : List ClientAction} (nonneg : ∀ call, .lidarCallback call ∈ actions → 0 ≤ call.timestamp)
    (run : actions.foldlM (Client.step cfg) start = some s) : s.Inv cfg ∧ s.Counted :=
  (Runs.run_of_foldlM_some run).invariant_of_forall (I := fun s : Client => s.Inv cfg ∧ s.Counted)
    (fun both nonneg h => ⟨step_inv both.1 nonneg h, both.2.step both.1 h⟩)
    (fun _ member call same => nonneg call (same ▸ member)) ⟨start_inv, start_counted⟩

/-! ### No frame is refused -/

theorem acceptedClouds_of_accepts {guard : TimestampGuard} {calls : List CloudCallback}
    (nonempty : ∀ call ∈ calls, call.isEmpty = false)
    (accepts : ∀ decision ∈ Observer.answers TimestampGuard.observe guard (calls.map fun call => .finite call.timestamp),
      decision.accepted = true) (accepted : List CloudCallback) :
    (calls.foldl acceptCloud (guard, accepted)).2 = accepted ++ calls := by
  induction calls generalizing guard accepted with
  | nil => exact (List.append_nil _).symm
  | cons call calls ih =>
    rw [List.map_cons, Observer.answers] at accepts
    have first := accepts _ List.mem_cons_self
    have step : acceptCloud (guard, accepted) call =
        ((guard.observe (.finite call.timestamp)).2, accepted ++ [call]) := by
      unfold acceptCloud
      rw [nonempty call List.mem_cons_self, if_neg Bool.false_ne_true]
      dsimp only
      rw [first, if_pos rfl]
    rw [List.foldl_cons, step, ih (fun call member => nonempty call (List.mem_cons_of_mem _ member))
      (fun decision member => accepts decision (List.mem_cons_of_mem _ member)), List.append_assoc]
    rfl

end Client

variable {cfg : Config} {popped : List PandarPacket} {s : Driver} {c : Callback} {bits : PPoint → BitPoint}

/-- Every point of a cloud is one of some accepted packet's blocks. -/
theorem XtRun.source_of_point (run : XtRun cfg popped s) (member : c ∈ s.frame.callbacks) {p : PPoint}
    (point : p ∈ c.cloud.points) : ∃ a ∈ s.accepted, ∃ e ∈ a.entries, p ∈ e.points cfg := by
  have all : p ∈ s.accepted.flatMap fun a => pointsOf cfg a.entries := by
    refine run.conserved.points.subset (List.mem_append_left _ ?_)
    exact List.mem_flatMap.mpr ⟨c, member, point⟩
  obtain ⟨a, accepted, ofPacket⟩ := List.mem_flatMap.mp all
  exact ⟨a, accepted, List.mem_flatMap.mp ofPacket⟩

/-- On receive time every point has the stamp of a popped packet. -/
theorem XtRun.stamp_of_point (run : XtRun cfg popped s) (realtime : cfg.realtime = true) (member : c ∈ s.frame.callbacks)
    {p : PPoint} (point : p ∈ c.cloud.points) : ∃ packet ∈ popped, packet.stamp = .finite p.timestamp := by
  obtain ⟨a, accepted, e, entry, ofBlock⟩ := run.source_of_point member point
  obtain ⟨rfl, -⟩ := a.mem_entries entry
  have stamp : p.timestamp = e.context.dPktTimestamp := timestamp_of_realtime realtime ofBlock
  obtain ⟨packet, known, finite, -⟩ := run.from'.source accepted
  exact ⟨packet, known, stamp ▸ finite⟩

theorem Callback.call_isEmpty (first : c.cloud.points.head?.map PointXYZIT.timestamp = some c.timestamp) :
    (c.call bits).isEmpty = false := by
  cases points : c.cloud.points with
  | nil => rw [points] at first; cases first
  | cons p rest =>
    unfold CloudCallback.isEmpty Callback.call
    rw [points]
    rfl

theorem PointCloud2.Shows.stamped {message : PointCloud2} {row col : Nat} {point : BitPoint}
    (shows' : message.Shows row col point) (timestamp : ℚ) : (message.stamped timestamp).Shows row col point :=
  ⟨shows'.x, shows'.y, shows'.z, shows'.intensity, shows'.timestamp, shows'.ring⟩

/-- Every point of a converted cloud can be read back. -/
theorem shows_of_converts {host : Bool} {cloud : BitCloud} {message : PointCloud2}
    (converts : makeCompactPointCloud2 host cloud = .ok message) :
    message.width.toNat * message.height.toNat = cloud.points.length ∧
      ∀ row col, row < message.height.toNat → col < message.width.toNat →
        ∃ point, cloud.points[row * message.width.toNat + col]? = some point ∧ message.Shows row col point := by
  unfold makeCompactPointCloud2 at converts
  split at converts
  · cases converts
  · rename_i few
    dsimp only at converts
    split at converts
    · cases converts
    · rename_i narrow
      obtain rfl := Except.ok.inj converts
      have size := normalised_mul (Nat.le_of_not_lt few)
      have rowStep := rowStep_toNat (Nat.le_of_not_lt narrow)
      have addresses : (cloudWrites host cloud).map Prod.fst = List.range
          (List.replicate (((normalised cloud).1 * kCompactPointStep).toNat * (normalised cloud).2.toNat) (0 : UInt8)).length := by
        rw [cloudWrites_fst, List.length_replicate, rowStep, ← size, show kCompactPointStep.toNat = 26 from rfl]
        congr 1
        ring
      have data := Records.storeAll_range addresses
      rw [cloudWrites_snd] at data
      refine ⟨size, fun row col inRow inCol => ?_⟩
      have bound : row * (normalised cloud).1.toNat + col < cloud.points.length := by
        have later := Nat.mul_le_mul_right (normalised cloud).1.toNat (Nat.succ_le_of_lt inRow)
        rw [Nat.succ_mul, Nat.mul_comm (normalised cloud).2.toNat, size] at later
        dsimp only at inCol
        omega
      exact ⟨_, List.getElem?_eq_getElem bound, shows_point rfl rfl rfl rowStep data bound⟩

/-- A published frame is read back point by point. -/
theorem delivers_of_published {client : ClientConfig} {output : PointCloud2} (compact : client.pointcloudLayout = "compact")
    (first : c.cloud.points.head?.map PointXYZIT.timestamp = some c.timestamp)
    (published : Published client (c.call bits) output) : output.Delivers bits c := by
  obtain ⟨cloud, given, -, converted, converts, rfl⟩ := published.cloud
  obtain rfl := Option.some.inj given
  rw [ClientConfig.convert, if_pos compact] at converts
  obtain ⟨size, points⟩ := shows_of_converts converts
  refine ⟨size.trans (List.length_map ..), fun row col inRow inCol => ?_, published.stamp, first⟩
  obtain ⟨point, at', shows'⟩ := points row col inRow inCol
  rw [List.getElem?_map] at at'
  obtain ⟨p, found, rfl⟩ := Option.map_eq_some_iff.mp at'
  exact ⟨p, found, shows'.stamped _⟩

theorem forall₂_of_maps {α β γ : Type*} {f : α → γ} {g : β → γ} {as : List α} {bs : List β} (same : as.map f = bs.map g) :
    List.Forall₂ (fun a b => f a = g b ∧ a ∈ as ∧ b ∈ bs) as bs := by
  have equal : List.Forall₂ (fun a b => f a = g b) as bs := by
    refine (List.forall₂_map_left_iff (R := fun x b => x = g b)).mp ((List.forall₂_map_right_iff (R := Eq)).mp ?_)
    rw [same, List.forall₂_eq_eq_eq]
  refine List.forall₂_iff_zip.mpr ⟨equal.length_eq, fun {a b} member => ?_⟩
  exact ⟨List.forall₂_zip equal member, List.of_mem_zip member⟩

/-- What the client makes of the clouds it is called with: no frame is refused, every message handed to `publish` can be
read back to one frame, the frames in order, and after the shutdown every frame was published, failed, replaced by a
later one or, the last one, discarded. -/
structure FramesDelivered (callbacks : List Callback) (bits : PPoint → BitPoint) (actions : List ClientAction)
    (t : Client) : Prop where
  accepted : t.accepted.map Prod.fst = actions.filterMap ClientAction.call
  messages : ∃ kept : List Callback, kept.Sublist callbacks ∧
    List.Forall₂ (fun message c => message.Delivers bits c) t.handed kept
  account : t.shutdown = .joined →
    (actions.filterMap ClientAction.call).length =
      t.cloudsPublished + t.cloudPublishFailures + t.cloudQueueOverwrites + t.discarded.length ∧
    t.discarded.length ≤ 1

/-- Clouds with a first point, a time from 1970 on and nothing for the second guard to refuse are delivered. -/
theorem delivered_of_guarded {callbacks : List Callback}
    (firsts : ∀ c ∈ callbacks, c.cloud.points.head?.map PointXYZIT.timestamp = some c.timestamp)
    (nonneg : ∀ c ∈ callbacks, 0 ≤ c.timestamp)
    (guarded : ∀ decision ∈ Observer.answers TimestampGuard.observe (.fresh kTimestampRegressionToleranceSec)
      (callbacks.map fun c => .finite c.timestamp), decision.accepted = true) {client : ClientConfig}
    (compact : client.pointcloudLayout = "compact") (publishes : client.publishType = "both" ∨ client.publishType = "points")
    {actions : List ClientAction} {t : Client}
    (calls : actions.filterMap ClientAction.call <+: callbacks.map (Callback.call bits))
    (clientRun : actions.foldlM (Client.step client) .start = some t) : FramesDelivered callbacks bits actions t := by
  have known {call : CloudCallback} (member : call ∈ actions.filterMap ClientAction.call) :
      ∃ c ∈ callbacks, c.call bits = call := List.mem_map.mp (calls.subset member)
  have nonneg' : ∀ call, .lidarCallback call ∈ actions → 0 ≤ call.timestamp := by
    intro call member
    obtain ⟨c, called, rfl⟩ := known (List.mem_filterMap.mpr ⟨_, member, rfl⟩)
    exact nonneg c called
  obtain ⟨inv, counted⟩ := Client.run_counted nonneg' clientRun
  have accepted : t.accepted.map Prod.fst = actions.filterMap ClientAction.call := by
    rw [Client.run_history publishes clientRun]
    refine (Client.acceptedClouds_of_accepts (fun call member => ?_) (fun decision member => ?_) []).trans (List.nil_append _)
    · obtain ⟨c, called, rfl⟩ := known member
      exact Callback.call_isEmpty (firsts c called)
    · obtain ⟨later, all⟩ := calls
      have times : (callbacks.map fun c => Double.finite c.timestamp) =
          ((callbacks.map (Callback.call bits)).map fun call => Double.finite call.timestamp) := by
        rw [List.map_map]
        rfl
      rw [times, ← all, List.map_append, Observer.answers_append] at guarded
      exact guarded decision (List.mem_append_left _ member)
  refine ⟨accepted, ?_, fun joined => ?_⟩
  · obtain ⟨kept, sub, handed⟩ := inv.handed
    have order : (kept.map Prod.fst).Sublist (callbacks.map (Callback.call bits)) :=
      (accepted ▸ sub.map Prod.fst).trans calls.sublist
    obtain ⟨frames, subFrames, same⟩ := List.sublist_map_iff.mp order
    refine ⟨frames, subFrames, ?_⟩
    rw [handed, List.forall₂_map_left_iff]
    refine (forall₂_of_maps same).imp fun entry c related => ?_
    have published := inv.messages entry (sub.subset related.2.1)
    rw [related.1] at published
    exact delivers_of_published compact (firsts c (subFrames.subset related.2.2)) published
  · obtain ⟨pending, discarded⟩ := inv.stopped (.inr joined)
    have idle := inv.callbackDone (by rw [joined]; rintro ⟨⟩)
    have account := inv.account
    have enqueued := counted.enqueued
    rw [idle, inv.joined joined, pending] at account
    rw [idle] at enqueued
    have calls : t.accepted.length = (actions.filterMap ClientAction.call).length := by
      rw [← accepted, List.length_map]
    simp only [CallbackThread.held, CallbackThread.uncounted, CallbackThread.uncountedOverwrites,
      PublisherThread.inFlight, Option.toList_none, List.length_nil] at account enqueued
    exact ⟨by omega, discarded⟩

/-- The times of a session come in order: receive times that an `int32` of seconds can hold, or the clock of a sensor
that is set and never shows an earlier time than before. -/
inductive InTime (cfg : Config) (received : List PandarPacket) (accepted : List AcceptedPacket) : Prop
  | received (realtime : cfg.realtime = true)
      (stamps : ∀ packet ∈ received, ∀ stamp, packet.stamp = .finite stamp → 0 ≤ stamp ∧ stamp < 2 ^ 31) :
      InTime cfg received accepted
  | sensor (sensor : cfg.realtime = false) (trig : Trigonometry) (tables : cfg.tables = (init trig cfg.lidarType).values)
      (utc : UtcMktime cfg.mktime) (zone : -86400 ≤ cfg.tzSecond) (times : ∀ a ∈ accepted, a.packet.ShowsTime)
      (order : accepted.Pairwise fun a b => a.packet.clock ≤ b.packet.clock) : InTime cfg received accepted

/-- Then the clouds have times the client can publish, and its guard has nothing to refuse. -/
theorem XtRun.in_order (xt : XtRun cfg popped s) {pointCloud : Nat → PPoint} (noTf : cfg.fixedFrame = "")
    (path : ∀ packet ∈ popped, OnXtPath cfg packet) (run : processLiarPacket cfg (.start "" pointCloud) popped = .ok s)
    (inTime : InTime cfg popped s.accepted) :
    (∀ c ∈ s.frame.callbacks, 0 ≤ c.timestamp) ∧
      ∀ decision ∈ Observer.answers TimestampGuard.observe (.fresh kTimestampRegressionToleranceSec)
        (s.frame.callbacks.map fun c => .finite c.timestamp), decision.accepted = true := by
  have firsts := xt.represents.timestamps
  cases inTime with
  | received realtime stamps =>
    obtain ⟨passed, waiting, -, fresh⟩ := (staleFree_of_run noTf realtime path run).fresh
    refine ⟨fun c called => ?_, fresh.noStalePoint.guarded⟩
    obtain ⟨p, head, time⟩ := Option.map_eq_some_iff.mp (firsts c called)
    obtain ⟨packet, popped, finite⟩ := xt.stamp_of_point realtime called (List.mem_of_mem_head? head)
    rw [time] at finite
    exact (stamps packet popped _ finite).1
  | sensor sensor trig tables utc zone times order =>
    have follows := xt.clouds_follow path sensor tables (le_refl 0) (xt.clockKeeps path utc times order)
    refine ⟨fun c called => ?_, guarded_of_follows (by decide +kernel) firsts follows⟩
    obtain ⟨p, head, time⟩ := Option.map_eq_some_iff.mp (firsts c called)
    obtain ⟨a, accepted, e, entry, point⟩ := xt.source_of_point called (List.mem_of_mem_head? head)
    have near := xt.nearPacket path sensor tables accepted entry point
    have since := xt.sensorTime_ge path utc zone accepted (times a accepted)
    rw [← time]
    linarith [near.after]

/-- On receive time and the XT path every frame is delivered, in every interleaving of the callbacks, the publisher and
the destructor. -/
theorem frames_delivered (cfg : Config) (realtime : cfg.realtime = true) (noTf : cfg.fixedFrame = "")
    (pointCloud : Nat → PPoint) (popped : List PandarPacket) (path : ∀ packet ∈ popped, OnXtPath cfg packet)
    (stamps : ∀ packet ∈ popped, ∀ stamp, packet.stamp = .finite stamp → 0 ≤ stamp ∧ stamp < 2 ^ 31) (s : Driver)
    (run : processLiarPacket cfg (.start "" pointCloud) popped = .ok s) (client : ClientConfig)
    (compact : client.pointcloudLayout = "compact") (publishes : client.publishType = "both" ∨ client.publishType = "points")
    (bits : PPoint → BitPoint) (actions : List ClientAction) (t : Client)
    (calls : actions.filterMap ClientAction.call <+: s.frame.callbacks.map (Callback.call bits))
    (clientRun : actions.foldlM (Client.step client) .start = some t) :
    FramesDelivered s.frame.callbacks bits actions t := by
  have xt := xtRun_of_run noTf path run
  obtain ⟨nonneg, guarded⟩ := xt.in_order noTf path run (.received realtime stamps)
  exact delivered_of_guarded xt.represents.timestamps nonneg guarded compact publishes calls clientRun

/-- The same on sensor time, for a sensor whose clock is set and never shows an earlier time than before. -/
theorem frames_delivered_on_sensor_time (cfg : Config) (sensor : cfg.realtime = false) (noTf : cfg.fixedFrame = "")
    (trig : Trigonometry) (tables : cfg.tables = (init trig cfg.lidarType).values) (utc : UtcMktime cfg.mktime)
    (zone : -86400 ≤ cfg.tzSecond) (pointCloud : Nat → PPoint) (popped : List PandarPacket)
    (path : ∀ packet ∈ popped, OnXtPath cfg packet) (s : Driver)
    (run : processLiarPacket cfg (.start "" pointCloud) popped = .ok s)
    (times : ∀ a ∈ s.accepted, a.packet.ShowsTime)
    (order : s.accepted.Pairwise fun a b => a.packet.clock ≤ b.packet.clock) (client : ClientConfig)
    (compact : client.pointcloudLayout = "compact") (publishes : client.publishType = "both" ∨ client.publishType = "points")
    (bits : PPoint → BitPoint) (actions : List ClientAction) (t : Client)
    (calls : actions.filterMap ClientAction.call <+: s.frame.callbacks.map (Callback.call bits))
    (clientRun : actions.foldlM (Client.step client) .start = some t) :
    FramesDelivered s.frame.callbacks bits actions t := by
  have xt := xtRun_of_run noTf path run
  obtain ⟨nonneg, guarded⟩ := xt.in_order noTf path run (.sensor sensor trig tables utc zone times order)
  exact delivered_of_guarded xt.represents.timestamps nonneg guarded compact publishes calls clientRun

def deliveredActions (call : CloudCallback) : List ClientAction :=
  [.lidarCallback call, .push, .countEnqueued, .waitPop, .countOverwrite, .publishReturns, .publishScan, .deleteSdk, .stop,
    .waitPop, .join]

/-- One frame of twelve points, published before the shutdown. -/
theorem frames_delivered_sweep :
    let cfg := Config.plain .pandarXT16 0 0
    let start := Driver.start "" fun _ => ⟨0, 0, 0, 0, 0, 0⟩
    let popped := [xt16Packet 10 0 fun b => 35800 + b, xt16Packet 11 1 fun b => (35996 + b) % 36000]
    let bits : PPoint → BitPoint := fun p => ⟨0, 0, 0, 0, 0, BitVec.ofNat 16 p.ring⟩
    ∃ s c t, processLiarPacket cfg start popped = .ok s ∧ s.frame.callbacks = [c] ∧ c.cloud.points.length = 12 ∧
      (deliveredActions (c.call bits)).foldlM (Client.step Client.pointsConfig) .start = some t ∧ t.shutdown = .joined ∧
      t.handed.length = 1 ∧ ∃ kept : List Callback, kept.Sublist s.frame.callbacks ∧
        List.Forall₂ (fun message c => message.Delivers bits c) t.handed kept := by
  intro cfg start popped bits
  have reached : (processLiarPacket cfg start popped).toOption.map (fun s => s.frame.callbacks.map fun c =>
      (c.cloud.points.length, ((deliveredActions (c.call bits)).foldlM (Client.step Client.pointsConfig) .start).map
        fun t => (t.shutdown, t.handed.length))) = some [(12, some (.joined, 1))] := by decide +kernel
  obtain ⟨s, run, shape⟩ := Except.ok_of_map reached
  obtain ⟨c, called, shape⟩ := List.map_eq_singleton_iff.mp shape
  obtain ⟨points, shape⟩ := Prod.mk.inj shape
  obtain ⟨t, clientRun, shape⟩ := Option.map_eq_some_iff.mp shape
  obtain ⟨joined, handed⟩ := Prod.mk.inj shape
  have stamps : ∀ packet ∈ popped, ∀ stamp, packet.stamp = .finite stamp → 0 ≤ stamp ∧ stamp < 2 ^ 31 := by
    intro packet member stamp finite
    rcases List.mem_pair.mp member with rfl | rfl
    all_goals
      obtain rfl := Double.finite.inj finite
      norm_num
  have delivered := frames_delivered cfg rfl rfl (fun _ => ⟨0, 0, 0, 0, 0, 0⟩) popped (by decide) stamps s run
    Client.pointsConfig rfl (.inr rfl) bits (deliveredActions (c.call bits)) t (by rw [called]; exact List.prefix_rfl) clientRun
  exact ⟨s, c, t, run, called, points, clientRun, joined, handed, delivered.messages⟩

/-- The same two packets with a sensor that sets its clock. -/
theorem frames_delivered_on_sensor_time_noon :
    let cfg := { Config.sensorTime with mktime := fun t => t.date.seconds }
    let start := Driver.start "" fun _ => ⟨0, 0, 0, 0, 0, 0⟩
    let popped := [timedPacket 10 0 7 fun b => 35800 + b, timedPacket 11 1 9 fun b => (35996 + b) % 36000]
    let bits : PPoint → BitPoint := fun p => ⟨0, 0, 0, 0, 0, BitVec.ofNat 16 p.ring⟩
    ∃ s c t, processLiarPacket cfg start popped = .ok s ∧ s.frame.callbacks = [c] ∧
      (deliveredActions (c.call bits)).foldlM (Client.step Client.pointsConfig) .start = some t ∧
      FramesDelivered s.frame.callbacks bits (deliveredActions (c.call bits)) t := by
  intro cfg start popped bits
  have reached : (processLiarPacket cfg start popped).toOption.map (fun s =>
      (s.accepted.map fun a => (a.packet.date, a.packet.timestamp),
        s.frame.callbacks.map fun c =>
          ((deliveredActions (c.call bits)).foldlM (Client.step Client.pointsConfig) .start).map Client.shutdown)) =
      some ([(⟨2024, 2, 29, 12, 0, 0⟩, 7), (⟨2024, 2, 29, 12, 0, 0⟩, 9)], [some .joined]) := by decide +kernel
  obtain ⟨s, run, shape⟩ := Except.ok_of_map reached
  obtain ⟨shown, shape⟩ := Prod.mk.inj shape
  obtain ⟨c, called, shape⟩ := List.map_eq_singleton_iff.mp shape
  obtain ⟨t, clientRun, -⟩ := Option.map_eq_some_iff.mp shape
  obtain ⟨a, rest, accepted, first, shown⟩ := List.map_eq_cons_iff.mp shown
  obtain ⟨b, accepted', second⟩ := List.map_eq_singleton_iff.mp shown
  obtain ⟨date, micros⟩ := Prod.mk.inj first
  obtain ⟨date', micros'⟩ := Prod.mk.inj second
  subst accepted'
  have noon : Calendar.DateTime.Valid ⟨2024, 2, 29, 12, 0, 0⟩ :=
    ⟨by decide, by decide, by decide, by decide, by decide⟩
  have times : ∀ a ∈ s.accepted, a.packet.ShowsTime := by
    rw [accepted]
    refine List.forall_mem_cons.mpr ⟨?_, List.forall_mem_singleton.mpr ?_⟩
    · exact ⟨date ▸ noon, by rw [date]; decide, by rw [micros]; decide⟩
    · exact ⟨date' ▸ noon, by rw [date']; decide, by rw [micros']; decide⟩
  have order : s.accepted.Pairwise fun a b => a.packet.clock ≤ b.packet.clock := by
    rw [accepted]
    refine List.pairwise_pair.mpr (Prod.Lex.toLex_le_toLex.mpr (.inr ⟨?_, ?_⟩))
    · rw [date, date']
    · rw [micros, micros']
      exact (by decide : 7 ≤ 9)
  exact ⟨s, c, t, run, called, clientRun,
    frames_delivered_on_sensor_time cfg rfl rfl ⟨id, id⟩ rfl (fun _ _ => rfl) (by decide) _ popped (by decide) s run times order
      Client.pointsConfig rfl (.inr rfl) bits (deliveredActions (c.call bits)) t (by rw [called]; exact List.prefix_rfl) clientRun⟩

end HesaiLidar
