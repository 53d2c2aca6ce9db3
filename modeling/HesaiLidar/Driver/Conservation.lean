import HesaiLidar.Driver.Rotation

/-!
# No point is lost

Whatever the format, the point mode, the frame transforms and the laser counts that the headers declare: the points of
the accepted packets are the points of the published frames and those that wait in the buffers, in the order of
arrival within each ring. Only messages can be lost, with a frame that turns out to be empty.
-/

namespace HesaiLidar

open Buckets

def Frame.published (f : Frame) : List PPoint := f.callbacks.flatMap fun c => c.cloud.points

/-- The messages of the published frames without their correction packets, and those of the open one. -/
def Frame.messages (f : Frame) : List PandarPacketMsg := (f.callbacks.flatMap fun c => c.scan.dropLast) ++ f.scan

structure Conserves (cfg : Config) (f : Frame) (points waiting : List PPoint) (messages : List PandarPacketMsg) : Prop where
  holds : f.Holds cfg.structured waiting
  rings : ∀ r, bucket PointXYZIT.ring r (f.published ++ waiting) = bucket PointXYZIT.ring r points
  order : cfg.structured = false → f.published ++ waiting = points
  sorted : cfg.structured = true → ∀ c ∈ f.callbacks, c.cloud.points.Pairwise fun p q => p.ring ≤ q.ring
  timestamps : ∀ c ∈ f.callbacks, c.cloud.points.head?.map PointXYZIT.timestamp = some c.timestamp
  scans : f.messages.Sublist messages
  kept : f.emptyCloudDrops = 0 → f.messages = messages

variable {cfg : Config} {f g : Frame} {points waiting : List PPoint} {messages : List PandarPacketMsg}

/-! ### What a cut takes and leaves -/

theorem arrange_leftover (structured : Bool) (lasers : Nat) (waiting : List PPoint) (r : Nat) :
    bucket PointXYZIT.ring r (arrange structured lasers waiting ++ leftover structured lasers waiting) =
      bucket PointXYZIT.ring r waiting := by
  unfold arrange leftover
  cases structured with
  | false => exact congrArg (bucket PointXYZIT.ring r) (List.append_nil waiting)
  | true =>
    rw [if_pos rfl, if_pos rfl, bucket_append, bucket_gather, bucket_filter_ge]
    split
    · exact List.append_nil _
    · rfl

/-- An emission without points is counted. -/
theorem emitBackMessege_drops (structured : Bool) (lasers : Nat) (f : Frame) :
    (emitBackMessege structured lasers f).emptyCloudDrops =
      f.emptyCloudDrops + if (f.fill structured lasers).outMsg.points = [] then 1 else 0 := by
  have kept : (f.fill structured lasers).emptyCloudDrops = f.emptyCloudDrops := by
    unfold Frame.fill
    split <;> rfl
  unfold emitBackMessege Frame.clearOutMsg
  dsimp only
  cases (f.fill structured lasers).outMsg.points with
  | nil =>
    rw [if_pos rfl, ← kept]
    dsimp only
    split <;> rfl
  | cons first rest =>
    rw [if_neg (List.cons_ne_nil _ _), ← kept]
    dsimp only
    split_ifs <;> rfl

theorem cut_drops (packet : LidarPacket) (holds : f.Holds cfg.structured waiting) :
    (f.cut cfg packet).emptyCloudDrops =
      f.emptyCloudDrops + if arrange cfg.structured packet.header.chLaserNumber waiting = [] then 1 else 0 := by
  have filled := Frame.Holds.fill (f := { f with scan := f.scan ++ [saveCorrectionFile cfg packet.header.chLaserNumber] })
    packet.header.chLaserNumber ⟨holds.index, holds.array, holds.rings, holds.outMsg⟩
  rw [← filled]
  exact emitBackMessege_drops ..

theorem Conserves.cut (conserves : Conserves cfg f points waiting messages) (packet : LidarPacket) :
    Conserves cfg (f.cut cfg packet) points (leftover cfg.structured packet.header.chLaserNumber waiting) messages := by
  have cuts := cut_spec cfg packet conserves.holds
  have drops := cut_drops packet conserves.holds
  have split := arrange_leftover cfg.structured packet.header.chLaserNumber waiting
  have whole : cfg.structured = false → arrange cfg.structured packet.header.chLaserNumber waiting ++
      leftover cfg.structured packet.header.chLaserNumber waiting = waiting := by
    intro mode
    rw [arrange, leftover, mode, if_neg Bool.false_ne_true, if_neg Bool.false_ne_true, List.append_nil]
  rcases cuts.callbacks with ⟨empty, same⟩ | ⟨cloud, first, handed, head, called⟩
  · rw [if_pos empty] at drops
    rw [empty, List.nil_append] at split whole
    have shown : (f.cut cfg packet).published = f.published := by
      rw [Frame.published, same]
      rfl
    refine ⟨cuts.holds, fun r => ?_, fun mode => ?_, ?_, ?_, ?_, fun none => by omega⟩
    · rw [shown, bucket_append, split, ← bucket_append]
      exact conserves.rings r
    · rw [shown, whole mode]
      exact conserves.order mode
    · rw [same]
      exact conserves.sorted
    · rw [same]
      exact conserves.timestamps
    · rw [Frame.messages, same, cuts.scan, List.append_nil]
      exact (List.sublist_append_left ..).trans conserves.scans
  · have shown : (f.cut cfg packet).published =
        f.published ++ arrange cfg.structured packet.header.chLaserNumber waiting := by
      rw [← handed, Frame.published, called, List.flatMap_append, List.flatMap_singleton]
      rfl
    have messages' : (f.cut cfg packet).messages = f.messages := by
      rw [Frame.messages, called, cuts.scan, List.flatMap_append, List.flatMap_singleton, List.append_nil,
        List.dropLast_concat]
      rfl
    have some' : arrange cfg.structured packet.header.chLaserNumber waiting ≠ [] := by
      intro empty
      rw [handed, empty] at head
      cases head
    rw [if_neg some'] at drops
    refine ⟨cuts.holds, fun r => ?_, fun mode => ?_, fun mode c member => ?_, fun c member => ?_, ?_, fun none => ?_⟩
    · rw [shown, List.append_assoc, bucket_append, split, ← bucket_append]
      exact conserves.rings r
    · rw [shown, List.append_assoc, whole mode]
      exact conserves.order mode
    · rw [called] at member
      rcases List.mem_append.mp member with old | new
      · exact conserves.sorted mode c old
      · obtain rfl := List.mem_singleton.mp new
        dsimp only
        rw [handed, arrange, if_pos mode]
        exact gather_pairwise
    · rw [called] at member
      rcases List.mem_append.mp member with old | new
      · exact conserves.timestamps c old
      · obtain rfl := List.mem_singleton.mp new
        dsimp only
        rw [head]
        rfl
    · rw [messages']
      exact conserves.scans
    · rw [messages']
      exact conserves.kept (by omega)

/-! ### Blocks and packets -/

/-- A block brings its points to the buffers, behind a cut or not. -/
theorem Conserves.block {ctx : PacketContext} {entry : LidarBlock × Nat} (conserves : Conserves cfg f points waiting messages)
    (h : f.processBlock cfg ctx entry = .ok g) :
    ∃ waiting, Conserves cfg g (points ++ blockPoints cfg ctx entry.2 entry.1) waiting messages := by
  obtain ⟨left, met⟩ : ∃ left, Conserves cfg (f.met cfg ctx.packet entry.1.azimuth) points left messages := by
    unfold Frame.met
    split
    · exact ⟨_, conserves.cut ctx.packet⟩
    · exact ⟨waiting, conserves⟩
  obtain ⟨m, stored, done⟩ := Except.bind_ok h
  obtain rfl := Except.ok.inj done
  obtain ⟨holds, same⟩ := calcBlock_ok met.holds stored
  have shown : m.published = (f.met cfg ctx.packet entry.1.azimuth).published := by
    rw [Frame.published, same.callbacks]
    rfl
  have kept : m.messages = (f.met cfg ctx.packet entry.1.azimuth).messages :=
    congrArg₂ (fun cs scan => (List.flatMap (fun c : Callback => c.scan.dropLast) cs) ++ scan) same.callbacks same.scan
  refine ⟨left ++ blockPoints cfg ctx entry.2 entry.1, ⟨holds.index, holds.array, holds.rings, holds.outMsg⟩, fun r => ?_,
    fun mode => ?_, ?_, ?_, ?_, fun none => ?_⟩
  · show bucket _ r (m.published ++ _) = _
    rw [shown, ← List.append_assoc, bucket_append, met.rings, ← bucket_append]
  · show m.published ++ _ = _
    rw [shown, ← List.append_assoc, met.order mode]
  · show _ → ∀ c ∈ m.callbacks, _
    rw [same.callbacks]
    exact met.sorted
  · show ∀ c ∈ m.callbacks, _
    rw [same.callbacks]
    exact met.timestamps
  · show m.messages.Sublist _
    rw [kept]
    exact met.scans
  · show m.messages = _
    rw [kept]
    exact met.kept (same.emptyCloudDrops.symm.trans none)

theorem Conserves.append (conserves : Conserves cfg f points waiting messages) (raw : PandarPacketMsg) :
    Conserves cfg (f.append raw) points waiting (messages ++ [raw]) := by
  have more : (f.append raw).messages = f.messages ++ [raw] := (List.append_assoc ..).symm
  refine ⟨⟨conserves.holds.index, conserves.holds.array, conserves.holds.rings, conserves.holds.outMsg⟩, conserves.rings,
    conserves.order, conserves.sorted, conserves.timestamps, ?_, fun none => ?_⟩
  · rw [more]
    exact conserves.scans.append (.refl _)
  · rw [more, conserves.kept none]

theorem Conserves.label (conserves : Conserves cfg f points waiting messages) :
    Conserves cfg (f.label cfg) points waiting messages :=
  ⟨⟨conserves.holds.index, conserves.holds.array, conserves.holds.rings, conserves.holds.outMsg⟩, conserves.rings,
    conserves.order, conserves.sorted, conserves.timestamps, conserves.scans, conserves.kept⟩

variable {s t : Driver} {a : AcceptedPacket} {blocks : List BlockEntry} {packet : PandarPacket}

theorem foldlM_processBlock_conserves {entries : List (LidarBlock × Nat)} (stamped : s.dPktTimestamp = a.stamp)
    (conserves : Conserves cfg s.frame points waiting messages)
    (h : entries.foldlM (Driver.processBlock cfg a) s = .ok t) :
    ∃ (es : List BlockEntry) (waiting : List PPoint), es.map BlockEntry.place = entries.map (fun entry => (a, entry)) ∧
      Conserves cfg t.frame (points ++ pointsOf cfg es) waiting messages ∧ t.accepted = s.accepted := by
  induction entries generalizing s points waiting with
  | nil =>
    obtain rfl : s = t := Except.ok.inj h
    exact ⟨[], waiting, rfl, (List.append_nil points).symm ▸ conserves, rfl⟩
  | cons entry entries ih =>
    obtain ⟨block, blockid⟩ := entry
    rw [List.foldlM_cons] at h
    obtain ⟨m, first, rest⟩ := Except.bind_ok h
    obtain ⟨⟨format, packet, dPktTimestamp, transformPoint⟩, rfl, rfl, rfl, step, same⟩ := processBlock_ok first
    rw [stamped] at step
    obtain ⟨waiting, next⟩ := conserves.block step
    have kept : m.accepted = s.accepted ∧ m.dPktTimestamp = s.dPktTimestamp := by rw [same]; exact ⟨rfl, rfl⟩
    obtain ⟨es, waiting, places, done, accepted⟩ := ih (kept.2.trans stamped) next rest
    refine ⟨⟨a, transformPoint, block, blockid⟩ :: es, waiting, congrArg ((a, block, blockid) :: ·) places, ?_,
      accepted.trans kept.1⟩
    rw [List.append_assoc] at done
    exact done

/-- The blocks are those of the accepted packets, each with the transform its points went through. -/
structure Conserved (cfg : Config) (s : Driver) (blocks : List BlockEntry) (waiting : List PPoint) : Prop where
  places : blocks.map BlockEntry.place = s.accepted.flatMap AcceptedPacket.places
  conserves : Conserves cfg s.frame (pointsOf cfg blocks) waiting (s.accepted.map AcceptedPacket.raw)

theorem Conserved.step (conserved : Conserved cfg s blocks waiting) (h : s.processPacket cfg packet = .ok t) :
    ∃ blocks waiting, Conserved cfg t blocks waiting := by
  rcases processPacket_ok h with ⟨-, rfl⟩ | ⟨stamp, -, -, dropped | ⟨m, a, admitted, processed⟩⟩
  · exact ⟨blocks, waiting, conserved.places, conserved.conserves⟩
  · obtain ⟨frame, accepted, -⟩ := accept_ok dropped
    refine ⟨blocks, waiting, ?_, ?_⟩
    · rw [accepted]
      exact conserved.places
    · rw [frame, accepted]
      exact conserved.conserves
  · obtain ⟨frame, accepted, -, stamped, -, known⟩ := accept_ok admitted
    obtain ⟨u, run, labelled⟩ := Except.bind_ok processed
    obtain rfl := Except.ok.inj labelled
    have appended := conserved.conserves.append a.raw
    rw [show s.frame = m.frame from frame.symm] at appended
    obtain ⟨es, waiting, places, done, same⟩ := foldlM_processBlock_conserves (s := m.keep a)
      (stamped.trans (known a rfl).stamp.symm) appended run
    have history : u.accepted = s.accepted ++ [a] := by
      rw [same]
      exact congrArg (· ++ [a]) accepted
    refine ⟨blocks ++ es, waiting, ?_, ?_⟩
    · show _ = List.flatMap _ u.accepted
      rw [history, List.map_append, List.flatMap_append, List.flatMap_singleton, conserved.places, places]
      rfl
    · show Conserves cfg (u.frame.label cfg) _ _ (u.accepted.map AcceptedPacket.raw)
      rw [pointsOf_append, history, List.map_append]
      exact done.label

end HesaiLidar
