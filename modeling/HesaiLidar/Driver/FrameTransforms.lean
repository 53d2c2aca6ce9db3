import HesaiLidar.Driver.XtPath
import HesaiLidar.Frame.PointRelations

/-!
# The fixed frame

With a fixed frame configured, the points of a packet go through the transform that was looked up for this packet.
Nothing else changes: the run without the fixed frame makes the same calls, apart from the coordinates.
-/

namespace HesaiLidar

open Lockstep

def Config.unfixed (cfg : Config) : Config := { cfg with fixedFrame := "" }

/-- An accepted packet with the number of its lookup and the transform it found. -/
structure Move where
  accepted : AcceptedPacket
  lookup : Nat
  matrix : Affine3

def movedPoint (matrix : Affine3) (p : PPoint) : PPoint :=
  { p with
    x := (matrix (p.x, p.y, p.z)).1
    y := (matrix (p.x, p.y, p.z)).2.1
    z := (matrix (p.x, p.y, p.z)).2.2 }

def Move.context (move : Move) : PacketContext := { move.accepted.context with transformPoint := move.matrix }

/-- A point of a packet corresponds to the same point under the packet's transform. -/
def movedRelation (cfg : Config) (moves : List Move) : PointRelation where
  rel p q := ∃ move ∈ moves, p ∈ pointsOf cfg move.accepted.entries ∧ q = movedPoint move.matrix p
  time := id
  ring := by
    rintro p _ ⟨move, -, -, rfl⟩
    rfl
  timestamp := by
    rintro p _ ⟨move, -, -, rfl⟩
    rfl

/-- The driver `s` has accepted the packets of `moves`, each after a lookup of its own, and has made the calls of the
driver `t` without the fixed frame, every point under the transform of a packet it is a point of. -/
structure Moved (cfg : Config) (moves : List Move) (t s : Driver) : Prop where
  accepted : t.accepted = s.accepted
  each : moves.map Move.accepted = s.accepted
  order : (moves.map Move.lookup).Pairwise (· < ·)
  found : ∀ move ∈ moves, cfg.lookupTransform move.lookup cfg.fixedFrame cfg.sensorFrame = .found move.matrix
  calls : List.Forall₂ (movedRelation cfg moves).Calls t.frame.callbacks s.frame.callbacks

variable {cfg : Config} {s t m : Driver} {a : AcceptedPacket} {packet : PandarPacket} {stamp : ℚ}

/-! ### Lookups -/

def Transforms.lookedUp (tf : Transforms) (matrix : Affine3) : Transforms :=
  { tf with lookups := tf.lookups + 1, tfMatrixToFixed := matrix }

theorem found_of_calculated {tf tf' : Transforms} {target source : String} {matrix : Affine3}
    (h : calculateTransformMatrix cfg tf target source = (.matrix matrix, tf')) :
    cfg.lookupTransform tf.lookups target source = .found matrix ∧ tf' = { tf with lookups := tf.lookups + 1 } := by
  unfold calculateTransformMatrix at h
  split at h
  · cases h
  · dsimp only at h
    split at h
    · rename_i found
      cases h
      exact ⟨found, rfl⟩
    all_goals cases h

/-- A fixed frame that is configured is looked up for every packet that gets as far. -/
theorem found_of_computed (fixed : cfg.fixedFrame ≠ "") {tf tf' : Transforms}
    (h : computeTransformToFixed cfg tf = .ok tf') :
    ∃ matrix, cfg.lookupTransform tf.lookups cfg.fixedFrame cfg.sensorFrame = .found matrix ∧
      tf' = tf.lookedUp matrix := by
  unfold computeTransformToFixed at h
  rw [if_neg fixed] at h
  split at h
  · rename_i matrix _ calculated
    obtain ⟨found, rfl⟩ := found_of_calculated calculated
    exact ⟨matrix, found, (Except.ok.inj h).symm⟩
  all_goals cases h

/-- The buffer is created with the first packet, so a target frame is asked for too early. -/
theorem untargeted_of_started {targetFrame : String} {pointCloud : Nat → PPoint} {packets : List PandarPacket}
    (run : processLiarPacket cfg (.start targetFrame pointCloud) packets = .ok s) : targetFrame = "" := by
  by_contra target
  obtain ⟨m, started, -⟩ := Except.bind_ok run
  obtain ⟨tf, computed, -⟩ := withTransforms_ok started
  unfold computeTransformToTarget at computed
  rw [if_neg (show ¬ (Driver.start targetFrame pointCloud).transforms.targetFrame = "" from target)] at computed
  cases computed

theorem manageTfBuffer_lookups (tf : Transforms) : (manageTfBuffer cfg tf).lookups = tf.lookups := by
  unfold manageTfBuffer
  split_ifs <;> rfl

theorem context_fixed (fixed : cfg.fixedFrame ≠ "") (untargeted : s.transforms.targetFrame = "")
    (stamped : s.dPktTimestamp = a.stamp) :
    s.context cfg a = { a.context with transformPoint := s.transforms.tfMatrixToFixed } := by
  have moves : transformPoint cfg s.transforms = s.transforms.tfMatrixToFixed := by
    funext p
    unfold transformPoint
    rw [if_neg fun both => fixed both.1, if_pos fixed, if_neg (not_not.mpr untargeted)]
  rw [Driver.context, moves, stamped]
  rfl

/-! ### One packet -/

theorem processBlocks_untargeted (untargeted : s.transforms.targetFrame = "") :
    s.processBlocks cfg a =
      { s with accepted := s.accepted ++ [a] }.withFrame (s.frame.processIn cfg (s.context cfg a) a.raw) := by
  unfold Driver.processBlocks Frame.processIn
  rw [foldlM_processBlock_untargeted (s := s.keep a) untargeted, show (s.keep a).context cfg a = s.context cfg a from rfl,
    show (s.keep a).frame = s.frame.append a.raw from rfl, show (s.context cfg a).packet = a.packet from rfl]
  cases a.packet.blocks.zipIdx.foldlM (Frame.processBlock cfg (s.context cfg a)) _ <;> rfl

/-- The points of a packet under its transform, in any relation that has them. -/
theorem contexts_moved {r : PointRelation} {move : Move}
    (moved : ∀ p ∈ pointsOf cfg move.accepted.entries, r.rel p (movedPoint move.matrix p)) :
    r.Contexts cfg move.accepted.context move.context := by
  refine ⟨rfl, rfl, fun entry member => ?_⟩
  unfold blockPoints
  rw [List.forall₂_map_left_iff, List.forall₂_map_right_iff]
  refine List.forall₂_same.mpr fun unit valid => moved _ ?_
  refine List.mem_flatMap.mpr ⟨_, List.mem_map_of_mem member, ?_⟩
  exact List.mem_map_of_mem valid

/-- What admission leaves to the two drivers. -/
structure Paired (cfg : Config) (t s : Driver) : Prop where
  guard : t.packetTimestampGuard = s.packetTimestampGuard
  tracker : t.xtSequenceTracker = s.xtSequenceTracker
  noTf : t.NoTf cfg.unfixed
  untargeted : s.transforms.targetFrame = ""

theorem Paired.checkSequence (paired : Paired cfg t s) (sequence : UInt32) (received : Double) :
    (t.checkSequence sequence received).1 = (s.checkSequence sequence received).1 ∧
      Paired cfg (t.checkSequence sequence received).2 (s.checkSequence sequence received).2 := by
  obtain ⟨keeps, tracker⟩ := checkSequence_accepted (s := s) sequence received
  obtain ⟨keeps', tracker'⟩ := checkSequence_accepted (s := t) sequence received
  obtain ⟨-, -, guard, -, transforms⟩ := checkSequence_keeps (s := s) sequence received
  obtain ⟨-, -, guard', -, transforms'⟩ := checkSequence_keeps (s := t) sequence received
  rw [paired.tracker] at keeps' tracker'
  refine ⟨keeps'.trans keeps.symm, ?_, tracker'.trans tracker.symm, ⟨paired.noTf.1, ?_⟩, ?_⟩
  · rw [guard, guard', paired.guard]
  · rw [transforms']
    exact paired.noTf.2
  · rw [transforms]
    exact paired.untargeted

/-- The two drivers admit the same packets; one of them looks up a transform for each. -/
theorem Paired.accept (paired : Paired cfg t s) (fixed : cfg.fixedFrame ≠ "") {result : Option AcceptedPacket}
    (h : s.accept cfg stamp packet = .ok (m, result)) :
    ∃ n, t.accept cfg.unfixed stamp packet = .ok (n, result) ∧ Paired cfg n m ∧ s.transforms.lookups ≤ m.transforms.lookups ∧
      (result.isSome = true → s.transforms.lookups < m.transforms.lookups ∧
        cfg.lookupTransform s.transforms.lookups cfg.fixedFrame cfg.sensorFrame = .found m.transforms.tfMatrixToFixed) := by
  unfold Driver.accept at h ⊢
  cases copied : rawPacket stamp packet with
  | error fault => rw [copied] at h; cases h
  | ok raw =>
    rw [copied] at h
    dsimp only at h ⊢
    rw [show cfg.unfixed.lidarType = cfg.lidarType from rfl]
    cases dispatched : dispatch cfg.lidarType packet.size with
    | none =>
      rw [dispatched] at h
      cases h
      exact ⟨_, rfl, ⟨paired.guard, paired.tracker, paired.noTf, paired.untargeted⟩, le_refl _, nofun⟩
    | some format =>
      rw [dispatched] at h
      dsimp only at h ⊢
      obtain ⟨u, lookedUp, rest⟩ := Except.bind_ok h
      obtain ⟨tf, computed, rfl⟩ := withTransforms_ok lookedUp
      obtain ⟨matrix, found, rfl⟩ := found_of_computed fixed computed
      rw [manageTfBuffer_lookups] at found
      have parses : parse cfg.unfixed format = parse cfg format := rfl
      rw [computeTransformToFixed_noTf (s := t) paired.noTf, parses]
      have noTf : Driver.NoTf cfg.unfixed { t with transforms := manageTfBuffer cfg.unfixed t.transforms } :=
        ⟨paired.noTf.1, manageTfBuffer_untargeted paired.noTf.2⟩
      have untargeted : (manageTfBuffer cfg s.transforms).targetFrame = "" := manageTfBuffer_untargeted paired.untargeted
      rw [Driver.withTransforms, Except.ok_bind]
      cases parsed : parse cfg format ⟨packet.data, ethernetMtu⟩ packet.size with
      | error fault => rw [parsed] at rest; cases rest
      | ok outcome =>
        rw [parsed] at rest
        cases outcome with
        | none =>
          cases rest
          refine ⟨_, rfl, ⟨paired.guard, paired.tracker, noTf, untargeted⟩, ?_, nofun⟩
          exact Nat.le_succ_of_le (le_of_eq (manageTfBuffer_lookups _).symm)
        | some content =>
          dsimp only at rest ⊢
          have after : s.transforms.lookups < (manageTfBuffer cfg s.transforms).lookups + 1 :=
            Nat.lt_succ_of_le (le_of_eq (manageTfBuffer_lookups _).symm)
          split at rest
          · rename_i xt
            rw [if_pos xt]
            have pair : Paired cfg (t.fixed stamp (manageTfBuffer cfg.unfixed t.transforms))
                (s.fixed stamp ((manageTfBuffer cfg s.transforms).lookedUp matrix)) :=
              ⟨paired.guard, paired.tracker, noTf, untargeted⟩
            obtain ⟨same, checked⟩ := pair.checkSequence content.udpSequence packet.stamp
            obtain ⟨-, -, -, -, kept⟩ := checkSequence_keeps
              (s := s.fixed stamp ((manageTfBuffer cfg s.transforms).lookedUp matrix)) content.udpSequence packet.stamp
            unfold Driver.fixed at same checked kept
            rcases left : Driver.checkSequence { s with
              dPktTimestamp := stamp
              transforms := (manageTfBuffer cfg s.transforms).lookedUp matrix } content.udpSequence packet.stamp with ⟨keeps, m'⟩
            rcases right : Driver.checkSequence { t with
              dPktTimestamp := stamp
              transforms := manageTfBuffer cfg.unfixed t.transforms } content.udpSequence packet.stamp with ⟨keeps', n⟩
            rw [left] at rest same checked kept
            rw [right] at same checked
            obtain rfl : keeps' = keeps := same
            dsimp only at kept checked
            cases keeps' with
            | true =>
              cases rest
              refine ⟨n, rfl, checked, ?_, fun _ => ?_⟩
              · rw [kept]
                exact after.le
              · rw [kept]
                exact ⟨after, found⟩
            | false =>
              cases rest
              refine ⟨n, rfl, checked, ?_, nofun⟩
              rw [kept]
              exact after.le
          · rename_i other
            rw [if_neg other]
            cases rest
            exact ⟨_, rfl, ⟨paired.guard, paired.tracker, noTf, untargeted⟩, after.le, fun _ => ⟨after, found⟩⟩

theorem processIn_unfixed (f : Frame) (ctx : PacketContext) (raw : PandarPacketMsg) :
    f.processIn cfg.unfixed ctx raw = f.processIn cfg ctx raw := rfl

/-- A packet that both drivers have admitted makes corresponding frames, in any relation that has its points. -/
theorem Paired.processBlocks (paired : Paired cfg t s) (r : PointRelation) (move : Move) (fixed : cfg.fixedFrame ≠ "")
    (stamped : t.dPktTimestamp = a.stamp) (stamped' : s.dPktTimestamp = a.stamp) (same : move.accepted = a)
    (matrix : move.matrix = s.transforms.tfMatrixToFixed) (frames : r.Frames cfg.structured t.frame s.frame)
    (moved : ∀ p ∈ pointsOf cfg move.accepted.entries, r.rel p (movedPoint move.matrix p))
    (h : s.processBlocks cfg a = .ok m) :
    ∃ n, t.processBlocks cfg.unfixed a = .ok n ∧ r.Frames cfg.structured n.frame m.frame ∧
      n.transforms = t.transforms ∧ m.transforms = s.transforms := by
  subst same
  have context : s.context cfg move.accepted = move.context := by
    rw [context_fixed fixed paired.untargeted stamped', ← matrix]
    rfl
  rw [processBlocks_untargeted paired.untargeted, context] at h
  rw [processBlocks_noTf paired.noTf stamped, processPacket_eq_processIn, processIn_unfixed]
  have agree := frames.processIn (contexts_moved moved) move.accepted.raw
  generalize t.frame.processIn cfg move.accepted.context move.accepted.raw = left at agree ⊢
  generalize s.frame.processIn cfg move.context move.accepted.raw = right at agree h
  cases agree with
  | ok related =>
    obtain rfl := Except.ok.inj h
    exact ⟨_, rfl, related, rfl, rfl⟩
  | error same => cases h
  | excused impossible => cases impossible

/-! ### The run -/

def PointRelation.Covers (r : PointRelation) (cfg : Config) (moves : List Move) : Prop :=
  ∀ move ∈ moves, ∀ p ∈ pointsOf cfg move.accepted.entries, r.rel p (movedPoint move.matrix p)

theorem movedRelation_covers (moves : List Move) : (movedRelation cfg moves).Covers cfg moves :=
  fun move member _ point => ⟨move, member, point, rfl⟩

/-- Two runs side by side: the frames correspond in any relation that has the points of the packets so far. -/
structure Follows (cfg : Config) (moves : List Move) (t s : Driver) : Prop extends Paired cfg t s where
  accepted : t.accepted = s.accepted
  each : moves.map Move.accepted = s.accepted
  order : (moves.map Move.lookup).Pairwise (· < ·)
  before : ∀ move ∈ moves, move.lookup < s.transforms.lookups
  found : ∀ move ∈ moves, cfg.lookupTransform move.lookup cfg.fixedFrame cfg.sensorFrame = .found move.matrix
  frames : ∀ r : PointRelation, r.Covers cfg moves → r.Frames cfg.structured t.frame s.frame

theorem Follows.step {moves : List Move} (follows : Follows cfg moves t s) (fixed : cfg.fixedFrame ≠ "")
    (h : s.processPacket cfg packet = .ok m) :
    ∃ n moves, t.processPacket cfg.unfixed packet = .ok n ∧ Follows cfg moves n m := by
  have guarded : Paired cfg (t.guarded packet) (s.guarded packet) := by
    refine ⟨?_, follows.tracker, follows.noTf, follows.untargeted⟩
    unfold Driver.guarded
    rw [follows.guard]
  rcases processPacket_ok h with ⟨rejected, rfl⟩ | ⟨stamp, finite, passes, dropped | ⟨u, a, kept, blocks⟩⟩
  · rw [← follows.guard] at rejected
    exact ⟨_, moves, processPacket_rejected rejected, { follows with guard := guarded.guard }⟩
  · obtain ⟨n, admitted, paired, later, -⟩ := guarded.accept fixed dropped
    obtain ⟨frame, accepted, -⟩ := accept_ok dropped
    obtain ⟨frame', accepted', -⟩ := accept_ok admitted
    refine ⟨n, moves, ?_, paired, ?_, ?_, follows.order, ?_, follows.found, fun r covers => ?_⟩
    · rw [processPacket_passed finite (by rw [follows.guard, finite]; exact passes), admitted]
      rfl
    · rw [accepted, accepted']
      exact follows.accepted
    · rw [accepted]
      exact follows.each
    · exact fun move member => (follows.before move member).trans_le later
    · rw [frame, frame']
      exact follows.frames r covers
  · obtain ⟨n, admitted, paired, -, looked⟩ := guarded.accept fixed kept
    obtain ⟨frame, accepted, -, stamped, -, known⟩ := accept_ok kept
    obtain ⟨frame', accepted', -, stamped', -⟩ := accept_ok admitted
    obtain ⟨later, found⟩ := looked rfl
    have stamp := (known a rfl).stamp
    let move : Move := ⟨a, s.transforms.lookups, u.transforms.tfMatrixToFixed⟩
    have framed (r : PointRelation) (covers : r.Covers cfg (moves ++ [move])) :=
      paired.processBlocks r move fixed (stamped'.trans stamp.symm) (stamped.trans stamp.symm) rfl rfl
        (by
          rw [frame, frame']
          exact follows.frames r fun earlier member => covers earlier (List.mem_append_left _ member))
        (covers move (List.mem_append_right _ (List.mem_singleton_self _))) blocks
    obtain ⟨v, done, -, same, same'⟩ := framed _ (movedRelation_covers _)
    have shape := processBlocks_ok blocks
    have shape' := processBlocks_ok done
    refine ⟨v, moves ++ [move], ?_, ?_⟩
    · rw [processPacket_passed finite (by rw [follows.guard, finite]; exact passes), admitted]
      exact done
    · constructor
      · constructor
        · rw [shape, shape']
          exact paired.guard
        · rw [shape, shape']
          exact paired.tracker
        · exact ⟨rfl, same ▸ paired.noTf.2⟩
        · exact same' ▸ paired.untargeted
      · rw [shape, shape']
        dsimp only
        rw [accepted, accepted']
        exact congrArg (· ++ [a]) follows.accepted
      · rw [shape]
        dsimp only
        rw [accepted, List.map_append]
        exact congrArg (· ++ [a]) follows.each
      · rw [List.map_append]
        refine List.pairwise_append.mpr ⟨follows.order, List.pairwise_singleton .., ?_⟩
        intro earlier member last only
        obtain ⟨first, among, rfl⟩ := List.mem_map.mp member
        obtain rfl := List.mem_singleton.mp only
        exact follows.before first among
      · intro any member
        rw [same']
        rcases List.mem_append.mp member with old | new
        · exact (follows.before any old).trans later
        · obtain rfl := List.mem_singleton.mp new
          exact later
      · intro any member
        rcases List.mem_append.mp member with old | new
        · exact follows.found any old
        · obtain rfl := List.mem_singleton.mp new
          exact found
      · intro r covers
        obtain ⟨w, done', frames, -⟩ := framed r covers
        obtain rfl := Except.ok.inj (done.symm.trans done')
        exact frames

theorem Follows.run {packets : List PandarPacket} {moves : List Move} (follows : Follows cfg moves t s)
    (fixed : cfg.fixedFrame ≠ "") (h : packets.foldlM (Driver.processPacket cfg) s = .ok m) :
    ∃ n moves, packets.foldlM (Driver.processPacket cfg.unfixed) t = .ok n ∧ Follows cfg moves n m := by
  induction packets generalizing s t moves with
  | nil =>
    obtain rfl := Except.ok.inj h
    exact ⟨t, moves, rfl, follows⟩
  | cons packet packets ih =>
    rw [List.foldlM_cons] at h
    obtain ⟨u, step, rest⟩ := Except.bind_ok h
    obtain ⟨n, moves, step', follows⟩ := follows.step fixed step
    obtain ⟨n, moves, rest', follows⟩ := ih follows rest
    exact ⟨n, moves, by rw [List.foldlM_cons, step']; exact rest', follows⟩

/-- With a fixed frame, in either point mode and for every format, the driver makes the calls it would make without one,
every point under the transform looked up for a packet the point belongs to, one lookup for each packet. -/
theorem fixed_frame_moves_points (cfg : Config) (fixed : cfg.fixedFrame ≠ "") (targetFrame : String)
    (pointCloud fresh : Nat → PPoint) (popped : List PandarPacket) (s : Driver)
    (run : processLiarPacket cfg (.start targetFrame pointCloud) popped = .ok s) :
    ∃ t moves, processLiarPacket cfg.unfixed (.start "" fresh) popped = .ok t ∧ Moved cfg moves t s := by
  obtain rfl := untargeted_of_started run
  have start : Follows cfg [] (.start "" fresh) (.start "" pointCloud) := by
    refine ⟨⟨rfl, rfl, ⟨rfl, rfl⟩, rfl⟩, rfl, rfl, .nil, nofun, nofun, fun r _ => ?_⟩
    exact PointRelation.start_frames cfg.structured fresh pointCloud
  obtain ⟨t, moves, done, follows⟩ := start.run fixed run
  refine ⟨t, moves, done, follows.accepted, follows.each, follows.order, follows.found, ?_⟩
  exact (follows.frames _ (movedRelation_covers moves)).callbacks

/-- A sensor that moves sideways between two packets of one frame. -/
theorem fixed_frame_moves_points_sweep :
    let cfg := { Config.plain .pandarXT16 0 0 with
      sensorFrame := "hesai"
      fixedFrame := "odom"
      lookupTransform := fun n _ _ => .found fun p => (p.1, p.2.1 + n, p.2.2) }
    let popped := [xt16Packet 10 0 fun b => 35800 + b, xt16Packet 11 1 fun b => (35996 + b) % 36000]
    ∃ s t moves, processLiarPacket cfg (.start "" fun _ => ⟨0, 0, 0, 0, 0, 0⟩) popped = .ok s ∧
      (s.frame.callbacks.map fun c => c.cloud.points.map PointXYZIT.y) = [List.replicate 8 0 ++ List.replicate 4 1] ∧
      processLiarPacket cfg.unfixed (.start "" fun _ => ⟨0, 0, 0, 0, 0, 0⟩) popped = .ok t ∧ Moved cfg moves t s := by
  intro cfg popped
  have reached : (processLiarPacket cfg (.start "" fun _ => ⟨0, 0, 0, 0, 0, 0⟩) popped).toOption.map (fun s =>
      s.frame.callbacks.map fun c => c.cloud.points.map PointXYZIT.y) =
      some [List.replicate 8 0 ++ List.replicate 4 1] := by decide +kernel
  obtain ⟨s, run, shape⟩ := Except.ok_of_map reached
  obtain ⟨t, moves, plain, moved⟩ := fixed_frame_moves_points cfg (by decide) "" (fun _ => ⟨0, 0, 0, 0, 0, 0⟩)
    (fun _ => ⟨0, 0, 0, 0, 0, 0⟩) popped s run
  exact ⟨s, t, moves, run, shape, plain, moved⟩

end HesaiLidar
