import HesaiLidar.Calibration.InitTables
import HesaiLidar.Driver.Freshness
import HesaiLidar.Library.Calendar

/-!
# Sensor time

On sensor time a point carries the UTC time of its packet, moved by the firing times of its block and laser. The
tables `Init` fills move it by less than half a millisecond, so the clouds follow the sensor's clock.
-/

namespace HesaiLidar

/-! ### Firing times -/

/-- The firing times of one packet lie within 400 microseconds. -/
def firingSpread : ℚ := 400 / 1000000

/-- No firing time moves a timestamp by more than this. -/
structure FiringBounds (shift : ℚ) : Prop where
  earliest : -345 / 1000000 ≤ shift
  latest : shift ≤ 55 / 1000000

theorem value_within (lower upper : ℚ) (size : Nat) (values : List ℚ) (default : lower ≤ 0 ∧ 0 ≤ upper)
    (within : ∀ v ∈ values, lower ≤ v ∧ v ≤ upper) (index : Nat) :
    lower ≤ Slots.value 0 (Slots.filled size values) index ∧ Slots.value 0 (Slots.filled size values) index ≤ upper := by
  rcases Slots.value_filled 0 size values index with unwritten | written
  · rwa [unwritten]
  · exact within _ written

theorem FiringBounds.of_offsets {block laser : ℚ} (blocks : -345 ≤ block ∧ block ≤ 6) (lasers : 0 ≤ laser ∧ laser ≤ 48) :
    FiringBounds ((block + laser) / 1000000) := by
  constructor <;> linarith

theorem xtFiring_bounds {tables : Tables} {trig : Trigonometry} {lidarType : LidarType}
    (initialised : tables = (init trig lidarType).values) (echo blockid i : Nat) :
    FiringBounds ((calcRuleXT tables).timestampShift echo blockid i) := by
  subst initialised
  have laser := value_within 0 48 XT.unitNum (laserXTOffsets lidarType) (by decide)
    (by cases lidarType <;> decide +kernel) i
  unfold calcRuleXT
  dsimp only
  split
  · exact .of_offsets (value_within (-345) 6 XT.blockNumber _ (by decide) (by split <;> decide +kernel) blockid) laser
  split
  · exact .of_offsets (value_within (-345) 6 XT.blockNumber _ (by decide) (by split <;> decide +kernel) blockid) laser
  · exact .of_offsets (value_within (-345) 6 XT.blockNumber _ (by decide) (by split <;> decide +kernel) blockid) laser

/-! ### Points and their packets -/

variable {cfg : Config} {popped : List PandarPacket} {s : Driver} {a b : AcceptedPacket} {e : BlockEntry} {p q : PPoint}

theorem timestamp_of_sensor {ctx : PacketContext} {blockid : Nat} {block : LidarBlock} (sensor : cfg.realtime = false)
    (member : p ∈ blockPoints cfg ctx blockid block) :
    ∃ i, p.timestamp = ctx.packet.timestampPoint + cfg.tzSecond +
      (cfg.calcRule ctx.format).timestampShift ctx.packet.echo blockid i := by
  obtain ⟨⟨unit, i⟩, -, rfl⟩ := List.mem_map.mp member
  exact ⟨i, if_neg (by rw [sensor]; exact Bool.false_ne_true)⟩

/-- The time of a packet in the configured zone. -/
def AcceptedPacket.sensorTime (cfg : Config) (a : AcceptedPacket) : ℚ := a.packet.timestampPoint + cfg.tzSecond

/-- A point of the packet is this far from the packet's time at most. -/
structure NearPacket (cfg : Config) (a : AcceptedPacket) (p : PPoint) : Prop where
  after : a.sensorTime cfg - 345 / 1000000 ≤ p.timestamp
  before : p.timestamp ≤ a.sensorTime cfg + 55 / 1000000

theorem XtRun.format (run : XtRun cfg popped s) (path : ∀ packet ∈ popped, OnXtPath cfg packet) (accepted : a ∈ s.accepted) :
    a.format = .xt := by
  obtain ⟨packet, known, -, admitted⟩ := run.from'.source accepted
  exact admitted.xt_format (path packet known)

theorem XtRun.nearPacket (run : XtRun cfg popped s) (path : ∀ packet ∈ popped, OnXtPath cfg packet)
    (sensor : cfg.realtime = false) {trig : Trigonometry} (tables : cfg.tables = (init trig cfg.lidarType).values)
    (accepted : a ∈ s.accepted) (entry : e ∈ a.entries) (point : p ∈ e.points cfg) : NearPacket cfg a p := by
  obtain ⟨rfl, -⟩ := a.mem_entries entry
  obtain ⟨i, stamp⟩ := timestamp_of_sensor sensor point
  have format : e.context.format = .xt := run.format path accepted
  rw [format] at stamp
  have firing : FiringBounds ((cfg.calcRule .xt).timestampShift e.context.packet.echo e.blockid i) :=
    xtFiring_bounds tables _ _ _
  have time : e.accepted.sensorTime cfg = e.context.packet.timestampPoint + cfg.tzSecond := rfl
  constructor
  · rw [stamp, time]
    linarith [firing.earliest]
  · rw [stamp, time]
    linarith [firing.latest]

/-! ### Frames on sensor time -/

/-- Nothing in the later cloud is older than anything in the earlier one by more than the slack. -/
def CloudFollows (slack : ℚ) (earlier later : List PPoint) : Prop :=
  ∀ p ∈ earlier, ∀ q ∈ later, p.timestamp - slack ≤ q.timestamp

/-- The times the accepted packets carry fall back by a bounded amount. -/
def ClockKeeps (cfg : Config) (back : ℚ) (accepted : List AcceptedPacket) : Prop :=
  Tolerance.Keeps back (accepted.map (AcceptedPacket.sensorTime cfg))

theorem XtRun.points_follow (run : XtRun cfg popped s) (path : ∀ packet ∈ popped, OnXtPath cfg packet)
    (sensor : cfg.realtime = false) {trig : Trigonometry} (tables : cfg.tables = (init trig cfg.lidarType).values)
    {back : ℚ} (nonneg : 0 ≤ back) (clock : ClockKeeps cfg back s.accepted) :
    s.blocks.Pairwise fun e e' => CloudFollows (back + firingSpread) (e.points cfg) (e'.points cfg) := by
  have spread : firingSpread = 345 / 1000000 + 55 / 1000000 := by
    unfold firingSpread
    norm_num
  have across := List.pairwise_map.mp clock
  refine List.pairwise_flatMap.mpr ⟨fun a accepted => ?_, across.imp_of_mem fun {a b} first second keeps e entry e' entry' => ?_⟩
  · refine List.pairwise_of_forall_mem_list fun e entry e' entry' p point q point' => ?_
    have early := run.nearPacket path sensor tables accepted entry point
    have late := run.nearPacket path sensor tables accepted entry' point'
    linarith [early.before, late.after]
  · intro p point q point'
    have early := run.nearPacket path sensor tables first entry point
    have late := run.nearPacket path sensor tables second entry' point'
    linarith [early.before, late.after]

theorem XtRun.clouds_follow (run : XtRun cfg popped s) (path : ∀ packet ∈ popped, OnXtPath cfg packet)
    (sensor : cfg.realtime = false) {trig : Trigonometry} (tables : cfg.tables = (init trig cfg.lidarType).values)
    {back : ℚ} (nonneg : 0 ≤ back) (clock : ClockKeeps cfg back s.accepted) :
    (s.frame.callbacks.map fun c => c.cloud.points).Pairwise (CloudFollows (back + firingSpread)) := by
  have order := run.points_follow path sensor tables nonneg clock
  rw [← Segments.all_split (cutsAt cfg) s.blocks] at order
  rw [run.represents.clouds]
  refine List.pairwise_map.mpr ((Segments.closed_pairwise order).imp ?_)
  intro earlier later follows p point q point'
  obtain ⟨e, entry, ofEntry⟩ := List.mem_flatMap.mp (mem_of_mem_arrange point)
  obtain ⟨e', entry', ofEntry'⟩ := List.mem_flatMap.mp (mem_of_mem_arrange point')
  exact follows e entry e' entry' p ofEntry q ofEntry'

/-- Where clouds follow one another closely enough, the second guard accepts every one of them. -/
theorem guarded_of_follows {callbacks : List Callback} {slack : ℚ} (close : slack ≤ kTimestampRegressionToleranceSec)
    (heads : ∀ c ∈ callbacks, c.cloud.points.head?.map PointXYZIT.timestamp = some c.timestamp)
    (follows : (callbacks.map fun c => c.cloud.points).Pairwise (CloudFollows slack)) :
    ∀ decision ∈ Observer.answers TimestampGuard.observe (.fresh kTimestampRegressionToleranceSec)
      (callbacks.map fun c => .finite c.timestamp), decision.accepted = true := by
  have keeps : Tolerance.Keeps kTimestampRegressionToleranceSec (callbacks.map Callback.timestamp) := by
    refine List.pairwise_map.mpr ((List.pairwise_map.mp follows).imp_of_mem fun {c d} early late follows => ?_)
    obtain ⟨p, head, same⟩ := Option.map_eq_some_iff.mp (heads c early)
    obtain ⟨q, head', same'⟩ := Option.map_eq_some_iff.mp (heads d late)
    have near := follows p (List.mem_of_mem_head? head) q (List.mem_of_mem_head? head')
    rw [same, same'] at near
    linarith
  have accepts := TimestampGuard.fresh_accepts keeps
  rwa [List.map_map] at accepts

/-- On sensor time and the XT path, with the tables of `Init`, every cloud follows the ones before it as closely as the
sensor's clock does, up to the firing times of one packet, and the client's guard accepts all of them as long as the
clock does not fall back by about a tenth of a second. -/
theorem clouds_follow_sensor_clock (cfg : Config) (sensor : cfg.realtime = false) (noTf : cfg.fixedFrame = "")
    (trig : Trigonometry) (tables : cfg.tables = (init trig cfg.lidarType).values) (pointCloud : Nat → PPoint)
    (popped : List PandarPacket) (path : ∀ packet ∈ popped, OnXtPath cfg packet) (s : Driver)
    (run : processLiarPacket cfg (Driver.start "" pointCloud) popped = .ok s) (back : ℚ) (nonneg : 0 ≤ back)
    (clock : ClockKeeps cfg back s.accepted) :
    (s.frame.callbacks.map fun c => c.cloud.points).Pairwise (CloudFollows (back + firingSpread)) ∧
      (back + firingSpread ≤ kTimestampRegressionToleranceSec →
        ∀ decision ∈ Observer.answers TimestampGuard.observe (.fresh kTimestampRegressionToleranceSec)
          (s.frame.callbacks.map fun c => .finite c.timestamp), decision.accepted = true) := by
  have xt := xtRun_of_run noTf path run
  have follows := xt.clouds_follow path sensor tables nonneg clock
  exact ⟨follows, fun close => guarded_of_follows close xt.represents.timestamps follows⟩

/-- An XT16 packet of noon on the last of February 2024, with so many microseconds. -/
def timedPacket (stamp : ℚ) (sequence micros : UInt8) (azimuth : Nat → Nat) : PandarPacket :=
  { xt16Packet stamp sequence azimuth with
    data := fun i =>
      if 553 ≤ i ∧ i < 560 then [24, 2, 29, 12, 0, 0, micros].getD (i - 553) 0
      else (xt16Packet stamp sequence azimuth).data i }

/-- A PandarXT-16 on sensor time. -/
def Config.sensorTime : Config :=
  { Config.plain .pandarXT16 0 0 with realtime := false, tables := (init ⟨id, id⟩ .pandarXT16).values }

/-- The second packet is two microseconds older than the first. -/
theorem clouds_follow_sensor_clock_sweep :
    ∃ s, processLiarPacket .sensorTime (Driver.start "" fun _ => ⟨0, 0, 0, 0, 0, 0⟩)
        [timedPacket 10 0 9 fun b => 35800 + b, timedPacket 11 1 7 fun b => (35996 + b) % 36000] = .ok s ∧
      s.frame.callbacks.length = 1 ∧
      ∀ decision ∈ Observer.answers TimestampGuard.observe (.fresh kTimestampRegressionToleranceSec)
        (s.frame.callbacks.map fun c => .finite c.timestamp), decision.accepted = true := by
  have reached : (processLiarPacket .sensorTime (Driver.start "" fun _ => ⟨0, 0, 0, 0, 0, 0⟩)
      [timedPacket 10 0 9 fun b => 35800 + b, timedPacket 11 1 7 fun b => (35996 + b) % 36000]).toOption.map
        (fun s => (s.frame.callbacks.length, s.accepted.map (AcceptedPacket.sensorTime .sensorTime))) =
      some (1, [9 / 1000000, 7 / 1000000]) := by decide +kernel
  obtain ⟨s, run, shape⟩ := Except.ok_of_map reached
  obtain ⟨emitted, times⟩ := Prod.mk.inj shape
  have clock : ClockKeeps .sensorTime (2 / 1000000) s.accepted := by
    unfold ClockKeeps
    rw [times]
    exact List.pairwise_pair.mpr (by norm_num)
  have followed := clouds_follow_sensor_clock .sensorTime rfl rfl ⟨id, id⟩ rfl _ _ (by decide) s run (2 / 1000000) (by norm_num)
    clock
  exact ⟨s, run, emitted, followed.2 (by decide +kernel)⟩

/-! ### Dates -/

/-- The fields of `struct tm` count years from 1900 and months from zero. -/
def CalendarTime.date (t : CalendarTime) : Calendar.DateTime where
  year := t.tmYear + 1900
  month := t.tmMon + 1
  day := t.tmMday
  hour := t.tmHour
  minute := t.tmMin
  second := t.tmSec

/-- `mktime` in the zone `SetEnvironmentVariableTZ` sets where there is none. -/
def UtcMktime (mktime : Mktime) : Prop := ∀ t : CalendarTime, t.date.Valid → mktime t = t.date.seconds

def LidarPacket.date (packet : LidarPacket) : Calendar.DateTime := (calendarTime packet.addtime).date

/-- What the sensor's clock shows in the packet, to be compared from the year down to the microsecond. -/
def LidarPacket.clock (packet : LidarPacket) : (Int ×ₗ Int ×ₗ Int ×ₗ Int ×ₗ Int ×ₗ Int) ×ₗ Nat :=
  toLex (packet.date.key, packet.timestamp)

/-- The date exists and its seconds fit an `int32`, and the microseconds are less than a second. -/
structure LidarPacket.ShowsTime (packet : LidarPacket) : Prop where
  valid : packet.date.Valid
  year : packet.date.year < 2038
  micros : packet.timestamp < 1000000

theorem XtRun.timestampPoint (run : XtRun cfg popped s) (path : ∀ packet ∈ popped, OnXtPath cfg packet)
    (accepted : a ∈ s.accepted) :
    a.packet.timestampPoint = cfg.mktime (calendarTime a.packet.addtime) + (a.packet.timestamp : ℚ) / 1000000 := by
  obtain ⟨packet, known, -, admitted⟩ := run.from'.source accepted
  have format := admitted.xt_format (path packet known)
  have dispatched := admitted.format
  have parsed := admitted.parsed
  rw [format] at dispatched parsed
  rw [parse_xt dispatched] at parsed
  split at parsed
  · rw [← Option.some.inj (Except.ok.inj parsed)]
    rfl
  · cases parsed

theorem seconds_of_utc {mktime : Mktime} (utc : UtcMktime mktime) {packet : LidarPacket} (shows' : packet.ShowsTime) :
    mktime (calendarTime packet.addtime) = packet.date.seconds := utc _ shows'.valid

/-- The year of a packet is written with two digits and taken for one from 2000 on. -/
theorem LidarPacket.year_ge (packet : LidarPacket) : 2000 ≤ packet.date.year := by
  unfold LidarPacket.date CalendarTime.date calendarTime
  dsimp only
  split <;> omega

theorem LidarPacket.ShowsTime.seconds_ge {packet : LidarPacket} (shows' : packet.ShowsTime) : 946684800 ≤ packet.date.seconds := by
  have since := shows'.valid.le_seconds packet.year_ge
  have millennium : 86400 * (Calendar.yearStart 2000 - Calendar.yearStart 1970) = 946684800 := by decide
  rwa [millennium] at since

/-- A clock that shows no earlier time gives no earlier number. -/
theorem clock_mono {x y : LidarPacket} (showsX : x.ShowsTime) (showsY : y.ShowsTime) (order : x.clock ≤ y.clock) :
    (x.date.seconds : ℚ) + (x.timestamp : ℚ) / 1000000 ≤ (y.date.seconds : ℚ) + (y.timestamp : ℚ) / 1000000 := by
  have below : (x.timestamp : ℚ) < 1000000 := by exact_mod_cast showsX.micros
  have positive : (0 : ℚ) ≤ (y.timestamp : ℚ) := Nat.cast_nonneg _
  rcases Prod.Lex.toLex_le_toLex.mp order with earlier | ⟨same, micros⟩
  · have later : x.date.seconds + 1 ≤ y.date.seconds := Calendar.DateTime.seconds_lt showsX.valid showsY.valid earlier
    have seconds : (x.date.seconds : ℚ) + 1 ≤ y.date.seconds := by exact_mod_cast later
    linarith
  · have dates : x.date = y.date := Calendar.DateTime.key_injective same
    have ticks : (x.timestamp : ℚ) ≤ y.timestamp := by exact_mod_cast micros
    rw [dates]
    linarith

/-- A clock in UTC that never shows an earlier time than before keeps. -/
theorem XtRun.clockKeeps (run : XtRun cfg popped s) (path : ∀ packet ∈ popped, OnXtPath cfg packet)
    (utc : UtcMktime cfg.mktime) (times : ∀ a ∈ s.accepted, a.packet.ShowsTime)
    (order : s.accepted.Pairwise fun a b => a.packet.clock ≤ b.packet.clock) : ClockKeeps cfg 0 s.accepted := by
  refine List.pairwise_map.mpr (order.imp_of_mem fun {a b} first second order => ?_)
  unfold AcceptedPacket.sensorTime
  rw [run.timestampPoint path first, run.timestampPoint path second, seconds_of_utc utc (times a first),
    seconds_of_utc utc (times b second), sub_zero]
  exact add_le_add_left (clock_mono (times a first) (times b second) order) _

theorem XtRun.sensorTime_ge (run : XtRun cfg popped s) (path : ∀ packet ∈ popped, OnXtPath cfg packet)
    (utc : UtcMktime cfg.mktime) (zone : -86400 ≤ cfg.tzSecond) (accepted : a ∈ s.accepted) (shows' : a.packet.ShowsTime) :
    1 ≤ a.sensorTime cfg := by
  have seconds : (946684800 : ℚ) ≤ a.packet.date.seconds := by exact_mod_cast shows'.seconds_ge
  have hours : (-86400 : ℚ) ≤ cfg.tzSecond := by exact_mod_cast zone
  have micros : (0 : ℚ) ≤ (a.packet.timestamp : ℚ) := Nat.cast_nonneg _
  unfold AcceptedPacket.sensorTime
  rw [run.timestampPoint path accepted, seconds_of_utc utc shows']
  linarith

end HesaiLidar
