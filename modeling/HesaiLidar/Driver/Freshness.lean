import HesaiLidar.Driver.XtPath

/-!
# No stale points

On receive time every point carries the stamp its packet was accepted with, so the timestamp guard bounds
how far a later point can fall behind. The bound reaches the emitted clouds as long as an emission leaves
no ring behind: in structured mode only the rings below the emitting packet's laser count are emptied.
-/

namespace HesaiLidar

/-- `later` is at most the tolerance older than `earlier`. -/
def NotStale (earlier later : PPoint) : Prop := earlier.timestamp - kTimestampRegressionToleranceSec ≤ later.timestamp

instance (earlier later : PPoint) : Decidable (NotStale earlier later) := inferInstanceAs (Decidable (_ ≤ _))

def CloudNotStale (earlier later : List PPoint) : Prop := ∀ p ∈ earlier, ∀ q ∈ later, NotStale p q

instance (earlier later : List PPoint) : Decidable (CloudNotStale earlier later) :=
  inferInstanceAs (Decidable (∀ p ∈ earlier, ∀ q ∈ later, NotStale p q))

/-- What holds of the clouds given to the callback: nothing stale between clouds, nothing stale inside one
in unstructured mode, and the second guard accepts them all. -/
structure NoStalePoint (structured : Bool) (callbacks : List Callback) : Prop where
  across : (callbacks.map fun c => c.cloud.points).Pairwise CloudNotStale
  inside : structured = false → ∀ c ∈ callbacks, c.cloud.points.Pairwise NotStale
  guarded : ∀ decision ∈ Observer.answers TimestampGuard.observe (.fresh kTimestampRegressionToleranceSec)
    (callbacks.map fun c => .finite c.timestamp), decision.accepted = true

variable {cfg : Config} {f g : Frame} {a : AcceptedPacket} {waiting : List PPoint} {passed : List ℚ}

/-- A cut in front of this block leaves nothing in the rings the packet has no laser for. -/
def CutsClean (cfg : Config) (a : AcceptedPacket) (frame : Frame) (entry : LidarBlock × Nat) : Prop :=
  cfg.structured = true → frame.cuts cfg a.packet entry.1.azimuth = true →
    ∀ r, a.packet.header.chLaserNumber ≤ r → frame.pointCloudList r = []

/-! ### The frame -/

structure Fresh (cfg : Config) (passed : List ℚ) (frame : Frame) (waiting : List PPoint) : Prop where
  holds : frame.Holds cfg.structured waiting
  stored : waiting.Pairwise NotStale
  across : ((frame.callbacks.map fun c => c.cloud.points) ++ [waiting]).Pairwise CloudNotStale
  inside : cfg.structured = false → ∀ c ∈ frame.callbacks, c.cloud.points.Pairwise NotStale
  heads : ∀ c ∈ frame.callbacks, c.cloud.points.head?.map PointXYZIT.timestamp = some c.timestamp
  known : ∀ cloud ∈ (frame.callbacks.map fun c => c.cloud.points) ++ [waiting], ∀ p ∈ cloud, p.timestamp ∈ passed

theorem start_fresh (cfg : Config) (pointCloud : Nat → PPoint) : Fresh cfg [] (Frame.start pointCloud) [] where
  holds := start_holds cfg.structured pointCloud
  stored := .nil
  across := List.pairwise_singleton ..
  inside := fun _ => nofun
  heads := nofun
  known := by
    rintro cloud member p point
    obtain rfl := List.mem_singleton.mp member
    cases point

theorem Fresh.pass (fresh : Fresh cfg passed f waiting) (stamp : ℚ) : Fresh cfg (passed ++ [stamp]) f waiting :=
  { fresh with known := fun cloud member p point => List.mem_append_left _ (fresh.known cloud member p point) }

theorem Fresh.congr (fresh : Fresh cfg passed f waiting) (holds : g.Holds cfg.structured waiting)
    (callbacks : g.callbacks = f.callbacks) : Fresh cfg passed g waiting where
  holds := holds
  stored := fresh.stored
  across := callbacks ▸ fresh.across
  inside := callbacks ▸ fresh.inside
  heads := callbacks ▸ fresh.heads
  known := callbacks ▸ fresh.known

theorem mem_of_mem_arrange {structured : Bool} {rings : Nat} {p : PPoint} (member : p ∈ arrange structured rings waiting) :
    p ∈ waiting := by
  unfold arrange at member
  split at member
  · exact (Buckets.mem_gather.mp member).1
  · exact member

theorem leftover_of_cutsClean (holds : f.Holds cfg.structured waiting) {entry : LidarBlock × Nat}
    (clean : CutsClean cfg a f entry) (cuts : f.cuts cfg a.packet entry.1.azimuth = true) :
    leftover cfg.structured a.packet.header.chLaserNumber waiting = [] := by
  unfold leftover
  split
  · rename_i structured
    refine List.filter_eq_nil_iff.mpr fun p member large => ?_
    have empty := clean structured cuts p.ring (of_decide_eq_true large)
    rw [holds.rings, if_pos structured] at empty
    exact List.filter_eq_nil_iff.mp empty p member (decide_eq_true rfl)
  · rfl

theorem Fresh.cut (fresh : Fresh cfg passed f waiting) {entry : LidarBlock × Nat} (clean : CutsClean cfg a f entry)
    (cuts : f.cuts cfg a.packet entry.1.azimuth = true) : Fresh cfg passed (f.cut cfg a.packet) [] := by
  have spec := cut_spec cfg a.packet fresh.holds
  have holds := spec.holds
  rw [leftover_of_cutsClean fresh.holds clean cuts] at holds
  obtain ⟨earlier, -, last⟩ := List.pairwise_append.mp fresh.across
  have empty (clouds : List (List PPoint)) (pairwise : clouds.Pairwise CloudNotStale) :
      (clouds ++ [[]]).Pairwise CloudNotStale := by
    refine List.pairwise_append.mpr ⟨pairwise, List.pairwise_singleton .., fun c _ d member p _ q point => ?_⟩
    obtain rfl := List.mem_singleton.mp member
    cases point
  rcases spec.callbacks with ⟨-, callbacks⟩ | ⟨cloud, first, content, head, callbacks⟩
  · exact
      { holds := holds
        stored := .nil
        across := empty _ (callbacks ▸ earlier)
        inside := callbacks ▸ fresh.inside
        heads := callbacks ▸ fresh.heads
        known := by
          rw [callbacks]
          rintro cloud member p point
          rcases List.mem_append.mp member with old | new
          · exact fresh.known cloud (List.mem_append_left _ old) p point
          · obtain rfl := List.mem_singleton.mp new
            cases point }
  · have inWaiting {p : PPoint} (point : p ∈ cloud.points) : p ∈ waiting := mem_of_mem_arrange (content ▸ point)
    exact
      { holds := holds
        stored := .nil
        across := by
          rw [callbacks, List.map_append]
          refine empty _ (List.pairwise_append.mpr ⟨earlier, List.pairwise_singleton .., fun c old d new p p' q q' => ?_⟩)
          obtain rfl := List.mem_singleton.mp new
          exact last c old waiting (List.mem_singleton_self _) p p' q (inWaiting q')
        inside := by
          intro unstructured c member
          rw [callbacks] at member
          rcases List.mem_append.mp member with old | new
          · exact fresh.inside unstructured c old
          · obtain rfl := List.mem_singleton.mp new
            rw [arrange, if_neg (by rw [unstructured]; exact Bool.false_ne_true)] at content
            exact content ▸ fresh.stored
        heads := by
          intro c member
          rw [callbacks] at member
          rcases List.mem_append.mp member with old | new
          · exact fresh.heads c old
          · obtain rfl := List.mem_singleton.mp new
            rw [head]
            rfl
        known := by
          rw [callbacks, List.map_append]
          rintro c member p point
          rcases List.mem_append.mp member with member | last
          · rcases List.mem_append.mp member with old | new
            · exact fresh.known c (List.mem_append_left _ old) p point
            · obtain rfl := List.mem_singleton.mp new
              exact fresh.known waiting (List.mem_append_right _ (List.mem_singleton_self _)) p (inWaiting point)
          · obtain rfl := List.mem_singleton.mp last
            cases point }

/-- The points of a block carry the packet's stamp, which is near everything that has passed. -/
theorem Fresh.calcBlock (fresh : Fresh cfg passed f waiting) (realtime : cfg.realtime = true) (member : a.stamp ∈ passed)
    (near : ∀ t ∈ passed, t - kTimestampRegressionToleranceSec ≤ a.stamp) {blockid : Nat} {block : LidarBlock}
    (h : calcBlock cfg a.context blockid block f = .ok g) :
    Fresh cfg passed g (waiting ++ blockPoints cfg a.context blockid block) := by
  obtain ⟨holds, same⟩ := calcBlock_ok fresh.holds h
  have stamped {p : PPoint} (point : p ∈ blockPoints cfg a.context blockid block) : p.timestamp = a.stamp :=
    timestamp_of_realtime realtime point
  have follows {p q : PPoint} (old : p.timestamp ∈ passed) (new : q ∈ blockPoints cfg a.context blockid block) :
      NotStale p q := by
    unfold NotStale
    rw [stamped new]
    exact near _ old
  have waitingKnown := fresh.known waiting (List.mem_append_right _ (List.mem_singleton_self _))
  obtain ⟨earlier, -, last⟩ := List.pairwise_append.mp fresh.across
  exact
    { holds := holds
      stored := by
        refine List.pairwise_append.mpr ⟨fresh.stored, ?_, fun p old q new => follows (waitingKnown p old) new⟩
        refine List.pairwise_of_forall_mem_list fun p p' q q' => follows ?_ q'
        rw [stamped p']
        exact member
      across := by
        rw [same.callbacks]
        refine List.pairwise_append.mpr ⟨earlier, List.pairwise_singleton .., fun c old d new p p' q q' => ?_⟩
        obtain rfl := List.mem_singleton.mp new
        rcases List.mem_append.mp q' with early | late
        · exact last c old waiting (List.mem_singleton_self _) p p' q early
        · exact follows (fresh.known c (List.mem_append_left _ old) p p') late
      inside := same.callbacks ▸ fresh.inside
      heads := same.callbacks ▸ fresh.heads
      known := by
        rw [same.callbacks]
        rintro c member' p point
        rcases List.mem_append.mp member' with old | new
        · exact fresh.known c (List.mem_append_left _ old) p point
        · obtain rfl := List.mem_singleton.mp new
          rcases List.mem_append.mp point with early | late
          · exact waitingKnown p early
          · rw [stamped late]
            exact member }

theorem Fresh.block (fresh : Fresh cfg passed f waiting) (realtime : cfg.realtime = true) (member : a.stamp ∈ passed)
    (near : ∀ t ∈ passed, t - kTimestampRegressionToleranceSec ≤ a.stamp) {entry : LidarBlock × Nat}
    (clean : CutsClean cfg a f entry) (h : f.processBlock cfg a.context entry = .ok g) :
    ∃ waiting, Fresh cfg passed g waiting := by
  unfold Frame.processBlock at h
  obtain ⟨m, points, finished⟩ := Except.bind_ok h
  obtain rfl := Except.ok.inj finished
  have calculated : ∃ waiting, Fresh cfg passed m waiting := by
    cases cuts : f.cuts cfg a.packet entry.1.azimuth with
    | true =>
      rw [show a.context.packet = a.packet from rfl, cuts, if_pos rfl] at points
      exact ⟨_, (fresh.cut clean cuts).calcBlock realtime member near points⟩
    | false =>
      rw [show a.context.packet = a.packet from rfl, cuts, if_neg Bool.false_ne_true] at points
      exact ⟨_, fresh.calcBlock realtime member near points⟩
  obtain ⟨waiting, fresh⟩ := calculated
  exact ⟨waiting, fresh.congr ⟨fresh.holds.index, fresh.holds.array, fresh.holds.rings, fresh.holds.outMsg⟩ rfl⟩

theorem Fresh.packet (fresh : Fresh cfg passed f waiting) (realtime : cfg.realtime = true) (member : a.stamp ∈ passed)
    (near : ∀ t ∈ passed, t - kTimestampRegressionToleranceSec ≤ a.stamp)
    (clean : Runs.AllSteps (Runs.Succeeds (Frame.processBlock cfg a.context)) (CutsClean cfg a) (f.append a.raw)
      a.packet.blocks.zipIdx)
    (h : f.processPacket cfg a = .ok g) : ∃ waiting, Fresh cfg passed g waiting := by
  obtain ⟨m, blocks, labelled⟩ := Except.bind_ok h
  obtain rfl := Except.ok.inj labelled
  have appended : Fresh cfg passed (f.append a.raw) waiting :=
    fresh.congr ⟨fresh.holds.index, fresh.holds.array, fresh.holds.rings, fresh.holds.outMsg⟩ rfl
  obtain ⟨waiting, done⟩ := (Runs.run_of_foldlM_ok blocks).invariant_of_allSteps
    (I := fun frame => ∃ waiting, Fresh cfg passed frame waiting)
    (fun ⟨_, fresh⟩ clean step => fresh.block realtime member near clean step) clean ⟨waiting, appended⟩
  exact ⟨waiting, done.congr ⟨done.holds.index, done.holds.array, done.holds.rings, done.holds.outMsg⟩ rfl⟩

/-! ### The run -/

/-- The driver's frame is fresh with respect to the stamps its guard has passed. -/
structure StaleFree (cfg : Config) (s : Driver) : Prop where
  noTf : s.NoTf cfg
  toleranceSec : s.packetTimestampGuard.toleranceSec = kTimestampRegressionToleranceSec
  fresh : ∃ passed waiting, s.packetTimestampGuard.Remembers passed ∧ Fresh cfg passed s.frame waiting

theorem start_staleFree (noTf : cfg.fixedFrame = "") (pointCloud : Nat → PPoint) :
    StaleFree cfg (Driver.start "" pointCloud) where
  noTf := ⟨noTf, rfl⟩
  toleranceSec := rfl
  fresh := ⟨[], [], TimestampGuard.remembers_of_uninitialized rfl, start_fresh cfg pointCloud⟩

theorem StaleFree.step {s t : Driver} {packet : PandarPacket} (free : StaleFree cfg s) (realtime : cfg.realtime = true)
    (clean : AtBlocks cfg (CutsClean cfg) s packet) (h : s.processPacket cfg packet = .ok t) : StaleFree cfg t := by
  obtain ⟨passed, waiting, remembers, fresh⟩ := free.fresh
  have guard := processPacket_guard h
  have toleranceSec := (processPacket_toleranceSec h).trans free.toleranceSec
  rcases processPacket_ok h with ⟨rejected, rfl⟩ | ⟨stamp, finite, accepts, outcome⟩
  · rw [TimestampGuard.observe_of_rejected rejected] at guard
    exact ⟨free.noTf, toleranceSec, passed, waiting, guard ▸ remembers, fresh⟩
  · have remembers' : t.packetTimestampGuard.Remembers (passed ++ [stamp]) := by
      rw [guard, finite]
      exact remembers.accept accepts
    have near : ∀ t ∈ passed ++ [stamp], t - kTimestampRegressionToleranceSec ≤ stamp := by
      intro t member
      rcases List.mem_append.mp member with old | new
      · rw [← free.toleranceSec]
        exact remembers.near accepts old
      · obtain rfl := List.mem_singleton.mp new
        exact sub_le_self t (by decide +kernel)
    rcases outcome with dropped | ⟨m, a, admitted, blocks⟩
    · obtain ⟨frame, -, -, -, noTf, -⟩ := accept_ok dropped
      refine ⟨noTf free.noTf, toleranceSec, passed ++ [stamp], waiting, remembers', ?_⟩
      rw [frame]
      exact fresh.pass stamp
    · obtain ⟨frame, -, -, stamped, noTf, carried⟩ := accept_ok admitted
      have carried := carried a rfl
      obtain ⟨g, framed, rfl⟩ := processBlocks_noTf_ok (noTf free.noTf) (stamped.trans carried.stamp.symm) blocks
      obtain rfl := carried.stamp
      have blocksClean := (allSteps_noTf (s := m.keep a) (noTf free.noTf) stamped _).mp
        (clean a.stamp m a finite (finite ▸ accepts) admitted)
      rw [show (m.keep a).frame = m.frame.append a.raw from rfl, frame] at blocksClean
      rw [frame] at framed
      obtain ⟨waiting, done⟩ := (fresh.pass a.stamp).packet realtime (List.mem_append_right _ (List.mem_singleton_self _))
        near blocksClean framed
      exact ⟨noTf free.noTf, toleranceSec, passed ++ [a.stamp], waiting, remembers', done⟩

theorem Fresh.noStalePoint (fresh : Fresh cfg passed f waiting) : NoStalePoint cfg.structured f.callbacks where
  across := (List.pairwise_append.mp fresh.across).1
  inside := fresh.inside
  guarded := by
    have keeps : Tolerance.Keeps kTimestampRegressionToleranceSec (f.callbacks.map Callback.timestamp) := by
      have across := List.pairwise_map.mp (List.pairwise_append.mp fresh.across).1
      refine List.pairwise_map.mpr (across.imp_of_mem fun {c d} early late stale => ?_)
      obtain ⟨p, head, same⟩ := Option.map_eq_some_iff.mp (fresh.heads c early)
      obtain ⟨q, head', same'⟩ := Option.map_eq_some_iff.mp (fresh.heads d late)
      rw [← same, ← same']
      exact stale p (List.mem_of_mem_head? head) q (List.mem_of_mem_head? head')
    have accepts := TimestampGuard.fresh_accepts keeps
    rwa [List.map_map] at accepts

/-! ### On the XT path every cut is clean -/

/-- Where all packets have the same lasers, no ring outlives its frame. -/
theorem Represents.cutsClean {lasers : Nat} {segments : Segments BlockEntry} {messages : List PandarPacketMsg}
    {entries : List BlockEntry} (rep : Represents cfg lasers f segments messages)
    (same : ∀ e ∈ entries, e.context = a.context) (uniform : ∀ e ∈ entries, e.Uniform cfg lasers)
    (small : lasers ≤ maxLaserNum) :
    Runs.AllSteps (Runs.Succeeds (Frame.processBlock cfg a.context)) (CutsClean cfg a) f
      (entries.map fun e => (e.block, e.blockid)) := by
  induction entries generalizing f segments with
  | nil => trivial
  | cons e entries ih =>
    have context := same e List.mem_cons_self
    have one := uniform e List.mem_cons_self
    refine ⟨fun structured _ r large => ?_, fun m step => ?_⟩
    · rw [rep.holds.rings, if_pos structured]
      refine List.filter_eq_nil_iff.mpr fun p member ring => ?_
      have bound := rep.rings structured p member
      have lasers : a.packet.header.chLaserNumber = lasers := by
        rw [← one.chLaserNumber structured]
        exact congrArg (fun ctx : PacketContext => ctx.packet.header.chLaserNumber) context.symm
      rw [of_decide_eq_true ring] at bound
      rw [lasers] at large
      exact Nat.not_lt_of_le large bound
    · rw [← context] at step
      exact ih (rep.block one small step) (fun e member => same e (List.mem_cons_of_mem _ member))
        fun e member => uniform e (List.mem_cons_of_mem _ member)

theorem XtRun.cutsClean {popped : List PandarPacket} {s : Driver} {packet : PandarPacket} (run : XtRun cfg popped s)
    (path : OnXtPath cfg packet) : AtBlocks cfg (CutsClean cfg) s packet := by
  intro stamp m a _ _ admitted
  obtain ⟨frame, -, -, stamped, noTf, carried⟩ := accept_ok admitted
  have carried := carried a rfl
  have uniform := (carried.xt (carried.xt_format path)).1
  refine (allSteps_noTf (s := m.keep a) (noTf run.noTf) (stamped.trans carried.stamp.symm) _).mpr ?_
  have entries : (a.entries.map fun e => (e.block, e.blockid)) = a.packet.blocks.zipIdx := by
    simp [AcceptedPacket.entries, Function.comp_def]
  rw [show (m.keep a).frame = m.frame.append a.raw from rfl, frame, ← entries]
  refine (run.represents.append a.raw).cutsClean (fun e member => ?_) (fun e member => uniform.entry member)
    (xtLasers_le cfg.lidarType)
  obtain ⟨entry, -, rfl⟩ := List.mem_map.mp member
  rfl

theorem XtRun.allCutsClean {popped rest : List PandarPacket} {s : Driver} (run : XtRun cfg popped s)
    (path : ∀ packet ∈ rest, OnXtPath cfg packet) :
    Runs.AllSteps (Runs.Succeeds (Driver.processPacket cfg)) (AtBlocks cfg (CutsClean cfg)) s rest := by
  induction rest generalizing popped s with
  | nil => trivial
  | cons packet rest ih =>
    refine ⟨run.cutsClean (path packet List.mem_cons_self), fun t step => ?_⟩
    have outcome := run.step (path packet List.mem_cons_self)
    rw [show s.processPacket cfg packet = .ok t from step] at outcome
    exact ih outcome fun packet member => path packet (List.mem_cons_of_mem _ member)

theorem xt_cutsClean (noTf : cfg.fixedFrame = "") (pointCloud : Nat → PPoint) {popped : List PandarPacket}
    (path : ∀ packet ∈ popped, OnXtPath cfg packet) :
    EveryBlock cfg (CutsClean cfg) (Driver.start "" pointCloud) popped := by
  intro m started
  obtain rfl : Driver.start "" pointCloud = m := Except.ok.inj started
  exact (start_xtRun cfg noTf pointCloud).allCutsClean path

/-! ### Results -/

theorem staleFree_of_run (noTf : cfg.fixedFrame = "") {pointCloud : Nat → PPoint} {popped : List PandarPacket} {s : Driver}
    (realtime : cfg.realtime = true) (path : ∀ packet ∈ popped, OnXtPath cfg packet)
    (run : processLiarPacket cfg (Driver.start "" pointCloud) popped = .ok s) : StaleFree cfg s := by
  have packets : popped.foldlM (Driver.processPacket cfg) (Driver.start "" pointCloud) = .ok s := run
  exact (Runs.run_of_foldlM_ok packets).invariant_of_allSteps (I := StaleFree cfg)
    (fun free clean step => free.step realtime clean step) (xt_cutsClean noTf pointCloud path _ rfl)
    (start_staleFree noTf pointCloud)

/-- On receive time and without transform frames, a run whose cuts leave nothing behind emits no stale point. -/
theorem no_stale_point (cfg : Config) (realtime : cfg.realtime = true) (noTf : cfg.fixedFrame = "")
    (pointCloud : Nat → PPoint) (popped : List PandarPacket) (s : Driver)
    (run : processLiarPacket cfg (Driver.start "" pointCloud) popped = .ok s)
    (clean : EveryBlock cfg (CutsClean cfg) (Driver.start "" pointCloud) popped) :
    NoStalePoint cfg.structured s.frame.callbacks := by
  have packets : popped.foldlM (Driver.processPacket cfg) (Driver.start "" pointCloud) = .ok s := run
  obtain ⟨passed, waiting, -, fresh⟩ := ((Runs.run_of_foldlM_ok packets).invariant_of_allSteps (I := StaleFree cfg)
    (fun free clean step => free.step realtime clean step) (clean _ rfl) (start_staleFree noTf pointCloud)).fresh
  exact fresh.noStalePoint

/-- Structured mode on the XT path, with a boundary in the middle of the second packet. -/
theorem no_stale_point_sweep :
    let cfg := Config.plain .pandarXT16 1 0
    let popped := [xt16Packet 10 0 fun b => 35800 + b, xt16Packet 11 1 fun b => (35996 + b) % 36000]
    ∃ s, processLiarPacket cfg (Driver.start "" fun _ => ⟨0, 0, 0, 0, 0, 0⟩) popped = .ok s ∧
      (s.frame.callbacks.map Callback.timestamp) = [10] ∧ NoStalePoint true s.frame.callbacks := by
  intro cfg popped
  have clean := xt_cutsClean (show cfg.fixedFrame = "" from rfl) (fun _ => ⟨0, 0, 0, 0, 0, 0⟩)
    (show ∀ packet ∈ popped, OnXtPath cfg packet by decide)
  have emitted : (processLiarPacket cfg (Driver.start "" fun _ => ⟨0, 0, 0, 0, 0, 0⟩) popped).toOption.map
      (fun s => s.frame.callbacks.map Callback.timestamp) = some [10] := by
    decide +kernel
  obtain ⟨s, run, timestamps⟩ := Except.ok_of_map emitted
  exact ⟨s, run, timestamps, no_stale_point cfg rfl rfl _ popped s run clean⟩

/-- A Pandar64 packet with returns of two lasers in its first block. -/
def l64Packet (stamp : ℚ) (azimuth : Nat → Nat) : PandarPacket where
  stamp := .finite stamp
  size := L64.packetSize6
  data := layoutL64.payload 64 6 azimuth fun block unit => block = 0 ∧ (unit = 0 ∨ unit = 40)

/-- A Pandar20 packet with one return in each block. -/
def l20Packet (stamp : ℚ) (azimuth : Nat → Nat) : PandarPacket where
  stamp := .finite stamp
  size := L20.packetSize
  data := layoutL20.payload 20 20 azimuth fun _ unit => unit = 0

/-- Twenty-laser packets between two 64-laser packets: the point of laser 40 waits through two emissions and
comes out stale in the third cloud. -/
theorem stale_point_of_fewer_lasers :
    ∃ s, processLiarPacket (.plain .pandar64 1 0) (Driver.start "" fun _ => ⟨0, 0, 0, 0, 0, 0⟩)
        [l64Packet 10 fun b => 35000 + 20 * b, l20Packet 20 fun b => (500 + 3500 * b) % 36000,
          l64Packet 40 fun b => (33000 + 2000 * b) % 36000] = .ok s ∧
      ¬ NoStalePoint true s.frame.callbacks := by
  have emitted : (processLiarPacket (.plain .pandar64 1 0) (Driver.start "" fun _ => ⟨0, 0, 0, 0, 0, 0⟩)
        [l64Packet 10 fun b => 35000 + 20 * b, l20Packet 20 fun b => (500 + 3500 * b) % 36000,
          l64Packet 40 fun b => (33000 + 2000 * b) % 36000]).toOption.map
      (fun s => decide ((s.frame.callbacks.map fun c => c.cloud.points).Pairwise CloudNotStale)) = some false := by
    decide +kernel
  obtain ⟨s, run, stale⟩ := Except.ok_of_map emitted
  exact ⟨s, run, fun free => of_decide_eq_false stale free.across⟩

end HesaiLidar
