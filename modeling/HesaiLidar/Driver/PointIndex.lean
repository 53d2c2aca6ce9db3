import HesaiLidar.Driver.Steps

/-!
# The point buffer index

`m_iPointCloudIndex` counts the points stored since the last emission. Nothing bounds it but the
emissions, which depend on the azimuths the sensor reports, and the QT store moves it in structured mode
as well. The discipline holds exactly as long as every block has room.
-/

namespace HesaiLidar

/-- The index is the number of stored points, within the array, and zero in structured mode. -/
structure Disciplined (cfg : Config) (frame : Frame) : Prop where
  counted : frame.pointCloudIndex = frame.stored
  bounded : frame.pointCloudIndex ≤ maxPointCloudNum
  structured : cfg.structured = true → frame.pointCloudIndex = 0

/-- The block has room: in unstructured mode its points fit behind the index it meets after a possible cut,
in structured mode it is not a QT block with points. -/
def HasRoom (cfg : Config) : BlockCondition := fun a frame entry =>
  if cfg.structured then a.format ≠ .qt ∨ entry.1.validUnits = 0
  else (if frame.cuts cfg a.packet entry.1.azimuth then 0 else frame.pointCloudIndex) + entry.1.validUnits ≤ maxPointCloudNum

/-- The block meets a disciplined frame, stores inside `m_vPointCloud` only and leaves a disciplined frame,
whatever the frame transforms. -/
def KeepsDiscipline (cfg : Config) : BlockCondition := fun a frame entry =>
  Disciplined cfg frame ∧
    ∀ ctx : PacketContext, ctx.format = a.format → ctx.packet = a.packet →
      Runs.Outcome (Disciplined cfg) (fun fault => ∀ k, fault ≠ .pointStore k) (frame.processBlock cfg ctx entry)

variable {cfg : Config} {f g : Frame} {format : Format} {a : AcceptedPacket} {points : List PPoint}

/-! ### Storing -/

variable (format) in
/-- Points that fit are all stored, and index and count move together. -/
theorem storeAll_fits (fits : f.pointCloudIndex + points.length ≤ maxPointCloudNum) :
    ∃ g, points.foldlM (format.store false) f = .ok g ∧
      g.pointCloudIndex = f.pointCloudIndex + points.length ∧ g.stored = f.stored + points.length := by
  induction points generalizing f with
  | nil => exact ⟨f, rfl, rfl, rfl⟩
  | cons p points ih =>
    rw [List.length_cons] at fits
    cases first : format.store false f p with
    | error fault =>
      obtain ⟨-, full, -⟩ := store_error first
      omega
    | ok m =>
      rcases store_cases first with ⟨structured, -⟩ | ⟨-, -, same⟩
      · cases structured
      · have index : m.pointCloudIndex = f.pointCloudIndex + 1 := by rw [same]
        have stored : m.stored = f.stored + 1 := by rw [same]
        obtain ⟨g, rest, index', stored'⟩ := ih (f := m) (by omega)
        refine ⟨g, ?_, ?_, ?_⟩
        · rw [List.foldlM_cons, first]
          exact rest
        · rw [index', index, List.length_cons]
          omega
        · rw [stored', stored, List.length_cons]
          omega

theorem storeAll_overflows (bounded : f.pointCloudIndex ≤ maxPointCloudNum)
    (overflow : maxPointCloudNum < f.pointCloudIndex + points.length) :
    points.foldlM (format.store false) f = .error (.pointStore maxPointCloudNum) := by
  induction points generalizing f with
  | nil =>
    rw [List.length_nil] at overflow
    omega
  | cons p points ih =>
    rw [List.length_cons] at overflow
    rw [List.foldlM_cons]
    cases first : format.store false f p with
    | error fault =>
      obtain ⟨-, full, rfl⟩ := store_error first
      rw [Nat.le_antisymm bounded full]
      rfl
    | ok m =>
      rcases store_cases first with ⟨structured, -⟩ | ⟨-, room, same⟩
      · cases structured
      · have index : m.pointCloudIndex = f.pointCloudIndex + 1 := by rw [same]
        exact ih (f := m) (by omega) (by omega)

variable (format points) in
/-- In structured mode nothing goes to `m_vPointCloud`, and only the QT store moves the index. -/
theorem storeAll_structured :
    ∃ g, points.foldlM (format.store true) f = .ok g ∧
      g.pointCloudIndex = (if format = .qt then f.pointCloudIndex + points.length else f.pointCloudIndex) ∧
      g.stored = f.stored := by
  induction points generalizing f with
  | nil => exact ⟨f, rfl, by simp, rfl⟩
  | cons p points ih =>
    cases first : format.store true f p with
    | error fault =>
      obtain ⟨unstructured, -⟩ := store_error first
      cases unstructured
    | ok m =>
      rcases store_cases first with ⟨-, same⟩ | ⟨unstructured, -⟩
      · have index : m.pointCloudIndex = if format = .qt then f.pointCloudIndex + 1 else f.pointCloudIndex := by rw [same]
        have stored : m.stored = f.stored := by rw [same]; rfl
        obtain ⟨g, rest, index', stored'⟩ := ih (f := m)
        refine ⟨g, ?_, ?_, stored'.trans stored⟩
        · rw [List.foldlM_cons, first]
          exact rest
        · rw [index', index, List.length_cons]
          split <;> omega
      · cases unstructured

/-! ### Emission -/

theorem emitBackMessege_stored (structured : Bool) (chLaserNumber : Nat) :
    (emitBackMessege structured chLaserNumber f).stored = 0 := by
  unfold emitBackMessege Frame.clearOutMsg
  dsimp only
  split <;> cases structured
  · rfl
  · rfl
  · rfl
  · split_ifs <;> rfl

theorem emitBackMessege_index (structured : Bool) (chLaserNumber : Nat) :
    (emitBackMessege structured chLaserNumber f).pointCloudIndex = if structured then f.pointCloudIndex else 0 := by
  unfold emitBackMessege Frame.clearOutMsg
  dsimp only
  split <;> cases structured
  · rfl
  · rfl
  · rfl
  · simp only [if_true]
    split <;> rfl

theorem cut_index (packet : LidarPacket) :
    (f.cut cfg packet).pointCloudIndex = if cfg.structured then f.pointCloudIndex else 0 := emitBackMessege_index ..

theorem Disciplined.cut (disciplined : Disciplined cfg f) (packet : LidarPacket) : Disciplined cfg (f.cut cfg packet) := by
  have zero : (f.cut cfg packet).pointCloudIndex = 0 := by
    rw [cut_index]
    split
    · rename_i structured
      exact disciplined.structured structured
    · rfl
  have stored : (f.cut cfg packet).stored = 0 := emitBackMessege_stored ..
  exact ⟨zero.trans stored.symm, zero ▸ Nat.zero_le _, fun _ => zero⟩

/-! ### A block -/

theorem processBlock_eq (ctx : PacketContext) (entry : LidarBlock × Nat) :
    f.processBlock cfg ctx entry =
      (blockPoints cfg ctx entry.2 entry.1).foldlM (ctx.format.store cfg.structured) (f.met cfg ctx.packet entry.1.azimuth) >>=
        fun g => .ok (g.finishBlock ctx.packet entry.1) := by
  rw [← calcBlock_eq]
  rfl

theorem Disciplined.met (disciplined : Disciplined cfg f) (packet : LidarPacket) (azimuth : Nat) :
    Disciplined cfg (f.met cfg packet azimuth) := by
  unfold Frame.met
  split
  · exact disciplined.cut packet
  · exact disciplined

theorem met_index (unstructured : cfg.structured = false) (packet : LidarPacket) (azimuth : Nat) :
    (f.met cfg packet azimuth).pointCloudIndex = if f.cuts cfg packet azimuth then 0 else f.pointCloudIndex := by
  unfold Frame.met
  split
  · rw [cut_index, unstructured]
    rfl
  · rfl

theorem Disciplined.block (disciplined : Disciplined cfg f) {entry : LidarBlock × Nat} (room : HasRoom cfg a f entry)
    {ctx : PacketContext} (format : ctx.format = a.format) (packet : ctx.packet = a.packet) :
    ∃ g, f.processBlock cfg ctx entry = .ok g ∧ Disciplined cfg g := by
  have start := disciplined.met ctx.packet entry.1.azimuth
  rw [processBlock_eq]
  cases structured : cfg.structured with
  | true =>
    obtain ⟨g, stores, index, stored⟩ := storeAll_structured (f := f.met cfg ctx.packet entry.1.azimuth)
      ctx.format (blockPoints cfg ctx entry.2 entry.1)
    have zero : g.pointCloudIndex = 0 := by
      rw [HasRoom, if_pos structured, ← format] at room
      rw [index, start.structured structured]
      split
      · rename_i qt
        rcases room with other | empty
        · exact absurd qt other
        · rw [length_blockPoints, empty]
      · rfl
    have none : g.stored = 0 := by rw [stored, ← start.counted, start.structured structured]
    rw [stores]
    exact ⟨_, rfl, zero.trans none.symm, zero ▸ Nat.zero_le _, fun _ => zero⟩
  | false =>
    rw [HasRoom, structured, if_neg Bool.false_ne_true, ← packet, ← met_index structured,
      ← length_blockPoints cfg ctx entry.2] at room
    obtain ⟨g, stores, index, stored⟩ := storeAll_fits ctx.format room
    rw [stores]
    exact ⟨_, rfl, by rw [Frame.finishBlock, index, stored, start.counted], index ▸ room,
      fun mode => absurd (structured.symm.trans mode) nofun⟩

theorem hasRoom_of_keepsDiscipline {entry : LidarBlock × Nat} (keeps : KeepsDiscipline cfg a f entry) :
    HasRoom cfg a f entry := by
  obtain ⟨disciplined, outcome⟩ := keeps
  have outcome := outcome a.context rfl rfl
  have start := disciplined.met a.packet entry.1.azimuth
  rw [processBlock_eq, show a.context.packet = a.packet from rfl, show a.context.format = a.format from rfl] at outcome
  unfold HasRoom
  cases structured : cfg.structured with
  | true =>
    rw [if_pos rfl]
    obtain ⟨g, stores, index, -⟩ := storeAll_structured (f := f.met cfg a.packet entry.1.azimuth)
      a.format (blockPoints cfg a.context entry.2 entry.1)
    rw [structured, stores] at outcome
    have done : Disciplined cfg (g.finishBlock a.packet entry.1) := outcome
    have zero : g.pointCloudIndex = 0 := done.structured structured
    rw [index, start.structured structured, length_blockPoints] at zero
    by_cases qt : a.format = .qt
    · rw [if_pos qt] at zero
      exact .inr (by omega)
    · exact .inl qt
  | false =>
    rw [if_neg Bool.false_ne_true, ← met_index structured,
      ← length_blockPoints cfg a.context entry.2]
    by_contra overflow
    rw [structured, storeAll_overflows start.bounded (Nat.lt_of_not_le overflow)] at outcome
    exact outcome _ rfl

/-! ### The run -/

theorem disciplined_invariant (cfg : Config) : FrameInvariant cfg (HasRoom cfg) (Disciplined cfg) where
  append _ disciplined := ⟨disciplined.counted, disciplined.bounded, disciplined.structured⟩
  label disciplined := ⟨disciplined.counted, disciplined.bounded, disciplined.structured⟩
  cut disciplined _ _ := disciplined.cut _
  block format packet disciplined room step := by
    obtain ⟨g, same, done⟩ := disciplined.block room format packet
    obtain rfl := Except.ok.inj (same.symm.trans step)
    exact done

theorem Disciplined.keepsDiscipline (disciplined : Disciplined cfg f) {entry : LidarBlock × Nat}
    (room : HasRoom cfg a f entry) : KeepsDiscipline cfg a f entry := by
  refine ⟨disciplined, fun ctx format packet => ?_⟩
  obtain ⟨g, stores, done⟩ := disciplined.block room format packet
  rw [stores]
  exact done

/-- Every block of a run keeps the discipline, and so does every state the run leaves behind, exactly when
every block of the run has room. -/
theorem point_buffer_index (cfg : Config) (targetFrame : String) (pointCloud : Nat → PPoint) (popped : List PandarPacket) :
    (EveryBlock cfg (KeepsDiscipline cfg) (Driver.start targetFrame pointCloud) popped ∧
      Runs.Outcome (fun s => Disciplined cfg s.frame) (StopsWith (Disciplined cfg))
        (processLiarPacket cfg (Driver.start targetFrame pointCloud) popped)) ↔
      EveryBlock cfg (HasRoom cfg) (Driver.start targetFrame pointCloud) popped := by
  have start : Disciplined cfg (Driver.start targetFrame pointCloud).frame := ⟨rfl, Nat.zero_le _, fun _ => rfl⟩
  have inv := disciplined_invariant cfg
  constructor
  · exact fun keeps => keeps.1.imp hasRoom_of_keepsDiscipline
  · exact fun room => ⟨inv.everyBlock (fun disciplined room => disciplined.keepsDiscipline room) start room,
      inv.runOutcome start room⟩

/-- A PandarQT packet with one return. -/
def qtPacket (stamp : ℚ) (azimuth : Nat → Nat) : PandarPacket where
  stamp := .finite stamp
  size := QT.packetSize
  data := layoutQT.payload 64 4 azimuth fun block unit => block = 0 ∧ unit = 0

/-- One QT return in structured mode moves the index although nothing is stored in `m_vPointCloud`. -/
theorem qt_point_moves_index :
    ∃ s, processLiarPacket (.plain .pandarQT 1 0) (Driver.start "" fun _ => ⟨0, 0, 0, 0, 0, 0⟩)
        [qtPacket 10 fun b => 100 + b] = .ok s ∧
      s.frame.pointCloudIndex = 1 ∧ s.frame.stored = 0 ∧ ¬ Disciplined (.plain .pandarQT 1 0) s.frame := by
  have moved : (processLiarPacket (.plain .pandarQT 1 0) (Driver.start "" fun _ => ⟨0, 0, 0, 0, 0, 0⟩)
        [qtPacket 10 fun b => 100 + b]).toOption.map (fun s => (s.frame.pointCloudIndex, s.frame.stored)) = some (1, 0) := by
    decide +kernel
  obtain ⟨s, run, counts⟩ := Except.ok_of_map moved
  obtain ⟨index, stored⟩ := Prod.mk.inj counts
  refine ⟨s, run, index, stored, fun disciplined => ?_⟩
  have zero := disciplined.structured rfl
  omega

end HesaiLidar
