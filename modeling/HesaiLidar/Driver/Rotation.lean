import HesaiLidar.Driver.XtPath
import HesaiLidar.Library.Turning

/-!
# Boundaries and the rotation

The boundary test compares two neighbouring azimuths with the start angle. It finds the start angle on
the arc between them unless the arc wraps through zero with the start angle still in front of the wrap.
-/

namespace HesaiLidar

open Turning

abbrev Angle : Type := Nat × ℚ

def boundaryAt (startAngle : Nat) (last next : Angle) : Bool := boundary startAngle last.1 next.1 last.2 next.2

/-- Forward by at least one and less than 3600 hundredths of a degree, and not back in time. -/
structure Advances (last next : Angle) : Prop where
  lastInRange : last.1 < maxAzimuthDegreeNum
  nextInRange : next.1 < maxAzimuthDegreeNum
  forth : 0 < forward maxAzimuthDegreeNum last.1 next.1
  slow : forward maxAzimuthDegreeNum last.1 next.1 < 3600
  time : last.2 ≤ next.2

instance (last next : Angle) : Decidable (Advances last next) :=
  decidable_of_iff
    (last.1 < maxAzimuthDegreeNum ∧ next.1 < maxAzimuthDegreeNum ∧ 0 < forward maxAzimuthDegreeNum last.1 next.1 ∧
      forward maxAzimuthDegreeNum last.1 next.1 < 3600 ∧ last.2 ≤ next.2)
    ⟨fun ⟨a, b, c, d, e⟩ => ⟨a, b, c, d, e⟩, fun ⟨a, b, c, d, e⟩ => ⟨a, b, c, d, e⟩⟩

/-- The arc wraps through zero and the start angle lies in front of the wrap. -/
def MissesStart (startAngle : Nat) (last next : Angle) : Prop := next.1 < last.1 ∧ last.1 < startAngle

def SweepsStart (startAngle : Nat) (last next : Angle) : Prop := OnArc maxAzimuthDegreeNum last.1 next.1 startAngle

instance (startAngle : Nat) (last next : Angle) : Decidable (MissesStart startAngle last next) :=
  inferInstanceAs (Decidable (_ ∧ _))

variable {startAngle : Nat} {last next : Angle}

instance : Decidable (SweepsStart startAngle last next) := inferInstanceAs (Decidable (OnArc _ _ _ _))

theorem forward_eq {a b : Nat} (from' : a < maxAzimuthDegreeNum) (to' : b < maxAzimuthDegreeNum) :
    forward maxAzimuthDegreeNum a b = if a ≤ b then b - a else b + maxAzimuthDegreeNum - a := by
  unfold maxAzimuthDegreeNum at *
  unfold forward ModularWindow.wrappedSub
  split <;> omega

theorem azimuthGap_eq (advances : Advances last next) :
    azimuthGap last.1 next.1 = forward maxAzimuthDegreeNum last.1 next.1 := by
  have same := forward_eq advances.lastInRange advances.nextInRange
  have bound := advances.lastInRange
  unfold maxAzimuthDegreeNum at *
  unfold azimuthGap
  rw [same]
  split <;> split <;> omega

theorem slowEnough_of_advances (advances : Advances last next) : slowEnough last.1 next.1 last.2 next.2 = true := by
  have gap : 1 / 1000 ≤ timestampGap last.2 next.2 := by
    have time := advances.time
    unfold timestampGap
    linarith
  have slow : ((azimuthGap last.1 next.1 : Int) : ℚ) < 3600 := by
    rw [azimuthGap_eq advances]
    exact_mod_cast advances.slow
  have pos : 0 < timestampGap last.2 next.2 := lt_of_lt_of_le (by norm_num) gap
  simp only [slowEnough, ne_of_gt pos, if_false, decide_eq_true_eq]
  rw [div_lt_iff₀ pos]
  norm_num [maxAzimuthDegreeNum]
  linarith

/-- The test finds exactly the start angles on the arc that it does not miss. -/
theorem boundaryAt_iff (start : startAngle < maxAzimuthDegreeNum) (advances : Advances last next) :
    boundaryAt startAngle last next = true ↔
      SweepsStart startAngle last next ∧ ¬ MissesStart startAngle last next := by
  have forth := advances.forth
  have arc := forward_eq advances.lastInRange start
  have step := forward_eq advances.lastInRange advances.nextInRange
  have low := advances.lastInRange
  have high := advances.nextInRange
  unfold boundaryAt boundary crossesStart SweepsStart MissesStart OnArc
  rw [slowEnough_of_advances advances]
  unfold maxAzimuthDegreeNum at *
  rw [step] at forth
  rw [arc, step]
  simp only [Bool.and_true, Bool.and_eq_true, decide_eq_true_eq]
  split <;> split <;> split at forth <;> omega

/-! ### The blocks of a run -/

def BlockEntry.angle (e : BlockEntry) : Angle := (e.block.azimuth, e.accepted.packet.timestampPoint)

def BlockEntry.place (e : BlockEntry) : AcceptedPacket × LidarBlock × Nat := (e.accepted, e.block, e.blockid)

def AcceptedPacket.places (a : AcceptedPacket) : List (AcceptedPacket × LidarBlock × Nat) :=
  a.packet.blocks.zipIdx.map fun entry => (a, entry)

def Driver.angles (s : Driver) : List Angle :=
  s.accepted.flatMap fun a => a.packet.blocks.map fun block => (block.azimuth, a.packet.timestampPoint)

structure Traces (cfg : Config) (s : Driver) (blocks : List BlockEntry) : Prop where
  places : blocks.map BlockEntry.place = s.accepted.flatMap AcceptedPacket.places
  represents : Represents cfg 0 s.frame (.split (cutsAt cfg) blocks) (s.accepted.map AcceptedPacket.raw)

variable {cfg : Config} {s t : Driver} {a : AcceptedPacket} {blocks : List BlockEntry} {packet : PandarPacket}

theorem Traces.angles (traces : Traces cfg s blocks) : blocks.map BlockEntry.angle = s.angles := by
  have places := congrArg (List.map fun place => (place.2.1.azimuth, place.1.packet.timestampPoint)) traces.places
  rw [List.map_map, List.map_flatMap] at places
  refine Eq.trans places ?_
  refine List.flatMap_congr fun a _ => ?_
  have blocks : (a.packet.blocks.zipIdx.map Prod.fst) = a.packet.blocks := List.zipIdx_map_fst ..
  rw [AcceptedPacket.places, List.map_map]
  conv_rhs => rw [← blocks, List.map_map]
  rfl

theorem foldlM_processBlock_traces (unstructured : cfg.structured = false) {entries : List (LidarBlock × Nat)}
    {segments : Segments BlockEntry} {messages : List PandarPacketMsg} (stamped : s.dPktTimestamp = a.stamp)
    (rep : Represents cfg 0 s.frame segments messages)
    (h : entries.foldlM (Driver.processBlock cfg a) s = .ok t) :
    ∃ es : List BlockEntry, es.map BlockEntry.place = entries.map (fun entry => (a, entry)) ∧
      Represents cfg 0 t.frame (segments.feedAll (cutsAt cfg) es) messages ∧ t.accepted = s.accepted := by
  induction entries generalizing s segments with
  | nil =>
    obtain rfl : s = t := Except.ok.inj h
    exact ⟨[], rfl, rep, rfl⟩
  | cons entry entries ih =>
    obtain ⟨block, blockid⟩ := entry
    rw [List.foldlM_cons] at h
    obtain ⟨m, first, rest⟩ := Except.bind_ok h
    obtain ⟨⟨format, packet, dPktTimestamp, transformPoint⟩, rfl, rfl, rfl, step, same⟩ := processBlock_ok first
    let e : BlockEntry := ⟨a, transformPoint, block, blockid⟩
    have uniform : e.Uniform cfg 0 := by constructor <;> simp [unstructured]
    rw [stamped] at step
    have next := rep.block (e := e) uniform (Nat.zero_le _) step
    have kept : m.accepted = s.accepted ∧ m.dPktTimestamp = s.dPktTimestamp := by rw [same]; exact ⟨rfl, rfl⟩
    obtain ⟨es, places, done, accepted⟩ := ih (kept.2.trans stamped) next rest
    exact ⟨e :: es, congrArg (e.place :: ·) places, done, accepted.trans kept.1⟩

theorem Traces.step (traces : Traces cfg s blocks) (unstructured : cfg.structured = false)
    (h : s.processPacket cfg packet = .ok t) : ∃ blocks, Traces cfg t blocks := by
  rcases processPacket_ok h with ⟨-, rfl⟩ | ⟨stamp, -, -, dropped | ⟨m, a, admitted, processed⟩⟩
  · exact ⟨blocks, traces.places, traces.represents⟩
  · obtain ⟨frame, accepted, -⟩ := accept_ok dropped
    refine ⟨blocks, ?_, ?_⟩
    · rw [accepted]
      exact traces.places
    · rw [frame, accepted]
      exact traces.represents
  · obtain ⟨frame, accepted, -, stamped, -, carried⟩ := accept_ok admitted
    obtain ⟨u, run, labelled⟩ := Except.bind_ok processed
    obtain rfl := Except.ok.inj labelled
    have appended := traces.represents.append a.raw
    rw [show s.frame = m.frame from frame.symm] at appended
    obtain ⟨es, places, done, same⟩ := foldlM_processBlock_traces (s := m.keep a) unstructured
      (stamped.trans (carried a rfl).stamp.symm) appended run
    have history : u.accepted = s.accepted ++ [a] := by
      rw [same]
      exact congrArg (· ++ [a]) accepted
    refine ⟨blocks ++ es, ?_, ?_⟩
    · show _ = List.flatMap _ u.accepted
      rw [history, List.map_append, List.flatMap_append, List.flatMap_singleton, traces.places, places]
      rfl
    · show Represents cfg 0 (u.frame.label cfg) _ (u.accepted.map AcceptedPacket.raw)
      rw [Segments.split_append, history, List.map_append]
      exact done.label

theorem traces_of_run (unstructured : cfg.structured = false) {targetFrame : String} {pointCloud : Nat → PPoint}
    {popped : List PandarPacket} (run : processLiarPacket cfg (Driver.start targetFrame pointCloud) popped = .ok s) :
    ∃ blocks, Traces cfg s blocks := by
  obtain ⟨m, started, packets⟩ := Except.bind_ok run
  obtain ⟨tf, -, rfl⟩ := withTransforms_ok started
  exact (Runs.run_of_foldlM_ok packets).invariant (I := fun t => ∃ blocks, Traces cfg t blocks)
    (fun ⟨_, traces⟩ step => traces.step unstructured step) ⟨[], rfl, start_represents cfg 0 pointCloud⟩

/-! ### Segmentation -/

def Frame.lastAngle (frame : Frame) : Angle := (frame.lastAzimuth, frame.lastTimestamp)

theorem cuts_eq_boundaryAt (f : Frame) (packet : LidarPacket) (azimuth : Nat) :
    f.cuts cfg packet azimuth = (boundaryAt cfg.startAngle f.lastAngle (azimuth, packet.timestampPoint) && f.gate cfg) := rfl

theorem getLastD_append {α : Type} (xs ys : List α) (d : α) : (xs ++ ys).getLastD d = ys.getLastD (xs.getLastD d) := by
  simp only [List.getLastD_eq_getLast?, List.getLast?_append]
  cases ys.getLast? <;> rfl

theorem foldlM_processBlock_last {entries : List (LidarBlock × Nat)}
    (h : entries.foldlM (Driver.processBlock cfg a) s = .ok t) :
    t.frame.lastAngle = (entries.map fun entry => (entry.1.azimuth, a.packet.timestampPoint)).getLastD s.frame.lastAngle ∧
      t.accepted = s.accepted := by
  induction entries generalizing s with
  | nil =>
    obtain rfl : s = t := Except.ok.inj h
    exact ⟨rfl, rfl⟩
  | cons entry entries ih =>
    rw [List.foldlM_cons] at h
    obtain ⟨m, first, rest⟩ := Except.bind_ok h
    obtain ⟨ctx, -, packet, -, step, same⟩ := processBlock_ok first
    obtain ⟨u, -, finished⟩ := Except.bind_ok step
    have last : m.frame.lastAngle = (entry.1.azimuth, a.packet.timestampPoint) := by
      rw [← Except.ok.inj finished, ← packet]
      rfl
    obtain ⟨done, accepted⟩ := ih rest
    rw [last] at done
    exact ⟨by rw [done, List.map_cons, List.getLastD_cons], by rw [accepted, same]⟩

theorem last_step (holds : s.frame.lastAngle = s.angles.getLastD (0, 0)) (h : s.processPacket cfg packet = .ok t) :
    t.frame.lastAngle = t.angles.getLastD (0, 0) := by
  rcases processPacket_ok h with ⟨-, rfl⟩ | ⟨stamp, -, -, dropped | ⟨m, a, admitted, processed⟩⟩
  · exact holds
  · obtain ⟨frame, accepted, -⟩ := accept_ok dropped
    rw [Driver.angles, frame, accepted]
    exact holds
  · obtain ⟨frame, accepted, -⟩ := accept_ok admitted
    obtain ⟨u, run, labelled⟩ := Except.bind_ok processed
    obtain rfl := Except.ok.inj labelled
    obtain ⟨last, same⟩ := foldlM_processBlock_last run
    have history : u.accepted = s.accepted ++ [a] := by
      rw [same]
      exact congrArg (· ++ [a]) accepted
    have before : (m.keep a).frame.lastAngle = s.angles.getLastD (0, 0) := by
      rw [← holds]
      show (m.frame.append a.raw).lastAngle = _
      rw [frame]
      rfl
    have blocks : (a.packet.blocks.zipIdx.map fun entry => (entry.1.azimuth, a.packet.timestampPoint)) =
        a.packet.blocks.map fun block => (block.azimuth, a.packet.timestampPoint) := by
      conv_rhs => rw [← List.zipIdx_map_fst 0 a.packet.blocks, List.map_map]
      rfl
    show u.frame.lastAngle = (List.flatMap _ u.accepted).getLastD (0, 0)
    rw [history, List.flatMap_append, List.flatMap_singleton, getLastD_append, last, before, blocks]
    rfl

/-- Neighbouring blocks advance as a rotating sensor's do. -/
def Rotates (angles : List Angle) : Prop := ∀ pair ∈ neighbours angles, Advances pair.1 pair.2

/-- The blocks of a segment from its first point on. -/
def shown (cfg : Config) (segment : List BlockEntry) : List BlockEntry :=
  segment.dropWhile fun e => (e.points cfg).isEmpty

/-- What it is for the frames to follow the rotation: the driver compares a block with the one before it;
the test finds exactly the arcs that sweep the start angle; every stretch of blocks has one boundary for each time it comes up to the start angle, so one for each
turn; and in unstructured mode every cloud is made of blocks that turn less than once. -/
structure FollowsRotation (cfg : Config) (s : Driver) : Prop where
  last : s.frame.lastAngle = s.angles.getLastD (0, 0)
  boundaries : ∀ pair ∈ neighbours s.angles,
    boundaryAt cfg.startAngle pair.1 pair.2 = true ↔ SweepsStart cfg.startAngle pair.1 pair.2
  counted : ∀ before first rest after, s.angles = before ++ first :: rest ++ after →
    (((neighbours (first :: rest)).countP fun pair => boundaryAt cfg.startAngle pair.1 pair.2 : Nat) : Int) =
      passes maxAzimuthDegreeNum cfg.startAngle
          (first.1 + turned maxAzimuthDegreeNum ((first :: rest).map Prod.fst)) -
        passes maxAzimuthDegreeNum cfg.startAngle first.1
  revolutions : ∀ before first rest after turns, s.angles = before ++ first :: rest ++ after →
    turned maxAzimuthDegreeNum ((first :: rest).map Prod.fst) = turns * maxAzimuthDegreeNum →
    ((neighbours (first :: rest)).countP fun pair => boundaryAt cfg.startAngle pair.1 pair.2) = turns
  clouds : cfg.structured = false → ∃ blocks segments,
    blocks.map BlockEntry.place = s.accepted.flatMap AcceptedPacket.places ∧
      Segments.split (cutsAt cfg) blocks = segments ∧
      (s.frame.callbacks.map fun c => c.cloud.points) = segments.closed.map (pointsOf cfg) ∧
      ∀ segment ∈ segments.closed,
        turned maxAzimuthDegreeNum ((shown cfg segment).map fun e => e.block.azimuth) < maxAzimuthDegreeNum

theorem no_boundary_shown (unstructured : cfg.structured = false) (callback : cfg.pclCallback = true)
    {segment : List BlockEntry} (uncut : Segments.Uncut (cutsAt cfg) segment) {pair : BlockEntry × BlockEntry}
    (member : pair ∈ neighbours (shown cfg segment)) :
    boundaryAt cfg.startAngle pair.1.angle pair.2.angle = false := by
  obtain ⟨before, after, split⟩ := mem_neighbours.mp member
  have whole := List.takeWhile_append_dropWhile (p := fun e => (e.points cfg).isEmpty) (l := segment)
  generalize segment.takeWhile (fun e => (e.points cfg).isEmpty) = hidden at whole
  have first : ∃ e ∈ before ++ [pair.1], (e.points cfg).isEmpty = false := by
    have head := List.head?_dropWhile_not (fun e => (e.points cfg).isEmpty) segment
    rw [show segment.dropWhile (fun e => (e.points cfg).isEmpty) = before ++ pair.1 :: pair.2 :: after from split] at head
    cases before with
    | nil => exact ⟨pair.1, List.mem_singleton_self _, head⟩
    | cons e before => exact ⟨e, List.mem_cons_self, head⟩
  have cut := uncut (hidden ++ before ++ [pair.1]) pair.2 after
    (by rw [← whole, ← shown, split]; simp) (by simp)
  have points : pointsOf cfg (hidden ++ before ++ [pair.1]) ≠ [] := by
    obtain ⟨e, member, points⟩ := first
    obtain ⟨p, point⟩ := List.exists_mem_of_ne_nil _ (List.isEmpty_eq_false_iff.mp points)
    rw [List.append_assoc]
    exact List.ne_nil_of_mem (List.mem_flatMap.mpr ⟨e, List.mem_append_right _ member, point⟩)
  have points := List.isEmpty_eq_false_iff.mpr points
  rw [cutsAt, lastBlock_concat, unstructured, callback, if_neg Bool.false_ne_true, points] at cut
  unfold boundaryAt BlockEntry.angle
  simpa using cut

/-- A segment that misses no start angle turns less than once. -/
theorem shown_turned_lt (start : cfg.startAngle < maxAzimuthDegreeNum) (unstructured : cfg.structured = false)
    (callback : cfg.pclCallback = true) {segment : List BlockEntry} (uncut : Segments.Uncut (cutsAt cfg) segment)
    (rotates : ∀ pair ∈ neighbours segment, Advances pair.1.angle pair.2.angle ∧
      ¬ MissesStart cfg.startAngle pair.1.angle pair.2.angle) :
    turned maxAzimuthDegreeNum ((shown cfg segment).map fun e => e.block.azimuth) < maxAzimuthDegreeNum := by
  cases blocks : shown cfg segment with
  | nil => exact Nat.zero_lt_of_lt start
  | cons e rest =>
    refine turned_lt (s := cfg.startAngle) (Nat.zero_lt_of_lt start) fun pair within sweeps => ?_
    rw [← List.map_cons (f := fun e : BlockEntry => e.block.azimuth), neighbours_map] at within
    obtain ⟨entries, member, rfl⟩ := List.mem_map.mp within
    rw [← blocks] at member
    have inside : entries ∈ neighbours segment := by
      have whole := List.takeWhile_append_dropWhile (p := fun e => (e.points cfg).isEmpty) (l := segment)
      have within := neighbours_subset (segment.takeWhile fun e => (e.points cfg).isEmpty) [] member
      rwa [List.append_nil, shown, whole] at within
    obtain ⟨advances, hits⟩ := rotates entries inside
    have found := (boundaryAt_iff start advances).mpr ⟨sweeps, hits⟩
    rw [no_boundary_shown unstructured callback uncut member] at found
    cases found

theorem Traces.clouds (traces : Traces cfg s blocks) (start : cfg.startAngle < maxAzimuthDegreeNum)
    (unstructured : cfg.structured = false)
    (rotates : ∀ pair ∈ neighbours s.angles, Advances pair.1 pair.2 ∧ ¬ MissesStart cfg.startAngle pair.1 pair.2)
    {segment : List BlockEntry} (member : segment ∈ (Segments.split (cutsAt cfg) blocks).closed) :
    turned maxAzimuthDegreeNum ((shown cfg segment).map fun e => e.block.azimuth) < maxAzimuthDegreeNum := by
  obtain ⟨uncut, e, cut⟩ := (Segments.cutOnly_split blocks).closed segment member
  have callback : cfg.pclCallback = true := by
    simp only [cutsAt, Bool.and_eq_true] at cut
    exact cut.2.1
  obtain ⟨earlier, later, split⟩ := List.append_of_mem member
  have inside : earlier.flatten ++ segment ++ (later.flatten ++ (Segments.split (cutsAt cfg) blocks).current) = blocks := by
    have all := Segments.all_split (cutsAt cfg) blocks
    rw [Segments.all, split] at all
    simpa using all
  refine shown_turned_lt start unstructured callback uncut fun pair within => ?_
  have placed := neighbours_subset earlier.flatten
    (later.flatten ++ (Segments.split (cutsAt cfg) blocks).current) within
  rw [inside] at placed
  refine rotates (Prod.map BlockEntry.angle BlockEntry.angle pair) ?_
  rw [← traces.angles, neighbours_map]
  exact List.mem_map_of_mem placed

/-- On a rotation the frames follow it exactly when no arc misses the start angle. -/
theorem segmentation_follows_rotation (cfg : Config) (start : cfg.startAngle < maxAzimuthDegreeNum) (targetFrame : String)
    (pointCloud : Nat → PPoint) (popped : List PandarPacket) (s : Driver)
    (run : processLiarPacket cfg (Driver.start targetFrame pointCloud) popped = .ok s) (rotates : Rotates s.angles) :
    FollowsRotation cfg s ↔ ∀ pair ∈ neighbours s.angles, ¬ MissesStart cfg.startAngle pair.1 pair.2 := by
  have pos : 0 < maxAzimuthDegreeNum := Nat.zero_lt_of_lt start
  constructor
  · intro follows pair member misses
    have advances := rotates pair member
    have sweeps : SweepsStart cfg.startAngle pair.1 pair.2 := by
      have arc := forward_eq advances.lastInRange start
      have step := forward_eq advances.lastInRange advances.nextInRange
      unfold SweepsStart OnArc MissesStart at *
      rw [arc, step]
      split <;> split <;> omega
    exact ((boundaryAt_iff start advances).mp ((follows.boundaries pair member).mpr sweeps)).2 misses
  · intro hits
    have boundaries : ∀ pair ∈ neighbours s.angles,
        boundaryAt cfg.startAngle pair.1 pair.2 = true ↔ SweepsStart cfg.startAngle pair.1 pair.2 := by
      intro pair member
      rw [boundaryAt_iff start (rotates pair member)]
      exact and_iff_left (hits pair member)
    have last : s.frame.lastAngle = s.angles.getLastD (0, 0) := by
      obtain ⟨m, started, packets⟩ := Except.bind_ok run
      obtain ⟨tf, -, rfl⟩ := withTransforms_ok started
      exact (Runs.run_of_foldlM_ok packets).invariant (I := fun t => t.frame.lastAngle = t.angles.getLastD (0, 0))
        last_step rfl
    have counted : ∀ before first rest after, s.angles = before ++ first :: rest ++ after →
        (((neighbours (first :: rest)).countP fun pair => boundaryAt cfg.startAngle pair.1 pair.2 : Nat) : Int) =
          passes maxAzimuthDegreeNum cfg.startAngle
              (first.1 + turned maxAzimuthDegreeNum ((first :: rest).map Prod.fst)) -
            passes maxAzimuthDegreeNum cfg.startAngle first.1 := by
      intro before first rest after split
      rw [List.map_cons, ← count_onArc (rest.map Prod.fst) pos (rfl : (first.1 : Int) % _ = first.1 % _),
        ← List.map_cons (f := Prod.fst), neighbours_map, List.countP_map]
      congr 1
      refine List.countP_congr fun pair member => ?_
      have inside := neighbours_subset before after member
      rw [← split] at inside
      rw [boundaries pair inside]
      exact decide_eq_true_iff.symm
    exact
      { last := last
        boundaries := boundaries
        counted := counted
        revolutions := by
          intro before first rest after turns split whole
          have count := counted before first rest after split
          rw [whole, passes_add_turns pos, add_sub_cancel_left] at count
          exact_mod_cast count
        clouds := by
          intro unstructured
          obtain ⟨blocks, traces⟩ := traces_of_run unstructured run
          refine ⟨blocks, _, traces.places, rfl, ?_, fun segment member => ?_⟩
          · rw [traces.represents.clouds]
            refine List.map_congr_left fun segment _ => ?_
            rw [cloudOf, arrange, unstructured, if_neg Bool.false_ne_true]
          · exact traces.clouds start unstructured (fun pair inside => ⟨rotates pair inside, hits pair inside⟩) member }

/-- Two turns and a start angle behind the wrap. -/
theorem segmentation_follows_rotation_two_turns :
    let cfg := Config.plain .pandarXT16 0 1500
    let popped := [xt16Packet 10 0 fun b => 3000 * b, xt16Packet 11 1 fun b => (24000 + 3000 * b) % 36000,
      xt16Packet 12 2 fun b => 12000 + 3000 * b]
    ∃ s, processLiarPacket cfg (Driver.start "" fun _ => ⟨0, 0, 0, 0, 0, 0⟩) popped = .ok s ∧
      (s.frame.callbacks.map fun c => c.cloud.points.length) = [1, 12] ∧ FollowsRotation cfg s := by
  intro cfg popped
  have angles : (processLiarPacket cfg (Driver.start "" fun _ => ⟨0, 0, 0, 0, 0, 0⟩) popped).toOption.map
      (fun s => (s.frame.callbacks.map (fun c => c.cloud.points.length), s.angles)) =
        some ([1, 12], (List.range 24).map fun k => (3000 * k % 36000, 0)) := by
    decide +kernel
  obtain ⟨s, run, shown⟩ := Except.ok_of_map angles
  obtain ⟨clouds, angles⟩ := Prod.mk.inj shown
  have rotates : Rotates s.angles := by
    rw [Rotates, angles]
    decide +kernel
  refine ⟨s, run, clouds, (segmentation_follows_rotation cfg (by decide) "" _ popped s run rotates).mpr ?_⟩
  rw [angles]
  decide +kernel

/-- A wrap from 359.80 to 0 degrees past the start angle 359.90: no boundary. -/
theorem wrap_misses_start :
    let cfg := Config.plain .pandarXT16 0 35990
    ∃ s, processLiarPacket cfg (Driver.start "" fun _ => ⟨0, 0, 0, 0, 0, 0⟩)
        [xt16Packet 10 0 fun b => (35980 + 20 * b) % 36000] = .ok s ∧
      Rotates s.angles ∧ ¬ FollowsRotation cfg s := by
  intro cfg
  have angles : (processLiarPacket cfg (Driver.start "" fun _ => ⟨0, 0, 0, 0, 0, 0⟩)
      [xt16Packet 10 0 fun b => (35980 + 20 * b) % 36000]).toOption.map Driver.angles =
        some ((List.range 8).map fun k => ((35980 + 20 * k) % 36000, 0)) := by
    decide +kernel
  obtain ⟨s, run, angles⟩ := Except.ok_of_map angles
  refine ⟨s, run, ?_, fun follows => ?_⟩
  · rw [Rotates, angles]
    decide +kernel
  · have sweeps := (follows.boundaries ((35980, 0), (0, 0)) (by rw [angles]; decide +kernel)).mpr (by decide)
    exact absurd sweeps (by decide +kernel)

end HesaiLidar
