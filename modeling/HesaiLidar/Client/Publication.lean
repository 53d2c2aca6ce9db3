import HesaiLidar.Client.CompactPointCloud2
import HesaiLidar.Client.LatestValueMailbox
import HesaiLidar.Defenses.TimestampGuard
import Mathlib.Data.Rat.Floor
import Mathlib.Tactic.Linarith
import Mathlib.Tactic.NormNum

/-!
# Cloud publication

`HesaiLidarClient` of `main_ros2.cc`: the callback of the processing thread, the publisher thread and the
destructor, step by step. The counters are updated outside the mailbox lock, so each update is a step.
-/

namespace HesaiLidar

/-- The arguments of `lidarCallback`; `none` is a null pointer. -/
structure CloudCallback where
  cld : Option BitCloud
  timestamp : ℚ

/-- `toROSMsg` stands for the conversion of the point cloud library. -/
structure ClientConfig where
  publishType : String
  pointcloudLayout : String
  hostIsBigEndian : Bool
  toROSMsg : BitCloud → PointCloud2

def ClientConfig.convert (cfg : ClientConfig) (cloud : BitCloud) : Except LengthError PointCloud2 :=
  if cfg.pointcloudLayout = "compact" then makeCompactPointCloud2 cfg.hostIsBigEndian cloud
  else .ok (cfg.toROSMsg cloud)

def PointCloud2.stamped (output : PointCloud2) (timestamp : ℚ) : PointCloud2 :=
  let sec := truncate timestamp
  { output with
    header := { output.header with
      stampSec := sec
      stampNanosec := truncate ((timestamp - sec) * 1000000000) } }

/-- Where the processing thread stands inside `lidarCallback`. -/
inductive CallbackThread where
  | idle
  | pushing (output : PointCloud2)
  | countingEnqueued (result : LatestValuePushResult)
  | countingOverwrite (result : LatestValuePushResult)
  | publishingScan
  deriving DecidableEq

/-- Where the publisher thread stands inside `publishPointClouds`. -/
inductive PublisherThread where
  | waiting
  | publishing (output : PointCloud2)
  | returned
  deriving DecidableEq

/-- How far the destructor has got. -/
inductive Shutdown where
  | alive
  | sdkDeleted
  | stopped
  | joined
  deriving DecidableEq

/-- The last three fields are history: accepted callbacks with their messages, what was handed to
`publish`, and what `stop` discarded. -/
structure Client where
  cloudTimestampGuard : TimestampGuard
  cloudPublishMailbox : LatestValueMailbox PointCloud2
  callback : CallbackThread
  publisher : PublisherThread
  shutdown : Shutdown
  emptyCloudDrops : Nat
  cloudTimestampRegressions : Nat
  cloudsEnqueued : Nat
  cloudQueueOverwrites : Nat
  cloudPublishFailures : Nat
  cloudsPublished : Nat
  rawScansPublished : Nat
  accepted : List (CloudCallback × PointCloud2)
  handed : List PointCloud2
  discarded : List PointCloud2

inductive ClientAction where
  | lidarCallback (call : CloudCallback)
  | push
  | countEnqueued
  | countOverwrite
  | publishScan
  | waitPop
  | publishReturns
  | publishThrows
  | deleteSdk
  | stop
  | join

def ClientAction.call : ClientAction → Option CloudCallback
  | .lidarCallback call => some call
  | _ => none

def CloudCallback.isEmpty (call : CloudCallback) : Bool :=
  match call.cld with
  | none => true
  | some cloud => cloud.points.isEmpty

/-- The guard and the clouds it has accepted, after one more callback. -/
def acceptCloud (state : TimestampGuard × List CloudCallback) (call : CloudCallback) :
    TimestampGuard × List CloudCallback :=
  if call.isEmpty then state
  else
    let (decision, guard) := state.1.observe (.finite call.timestamp)
    (guard, state.2 ++ if decision.accepted then [call] else [])

/-- The clouds of a sequence of callbacks that are not empty and that a fresh guard accepts. -/
def acceptedClouds (calls : List CloudCallback) : List CloudCallback :=
  (calls.foldl acceptCloud (.fresh kTimestampRegressionToleranceSec, [])).2

namespace Client

def start : Client where
  cloudTimestampGuard := .fresh kTimestampRegressionToleranceSec
  cloudPublishMailbox := .empty
  callback := .idle
  publisher := .waiting
  shutdown := .alive
  emptyCloudDrops := 0
  cloudTimestampRegressions := 0
  cloudsEnqueued := 0
  cloudQueueOverwrites := 0
  cloudPublishFailures := 0
  cloudsPublished := 0
  rawScansPublished := 0
  accepted := []
  handed := []
  discarded := []

/-- The cloud part of the callback up to the push. A conversion that throws ends the process. -/
def offer (cfg : ClientConfig) (s : Client) (cloud : BitCloud) (call : CloudCallback) : Option Client :=
  let (decision, guard) := s.cloudTimestampGuard.observe (.finite call.timestamp)
  let s := { s with cloudTimestampGuard := guard }
  if decision.accepted then
    match cfg.convert cloud with
    | .error _ => none
    | .ok output =>
      let output := output.stamped call.timestamp
      some { s with callback := .pushing output, accepted := s.accepted ++ [(call, output)] }
  else some { s with cloudTimestampRegressions := s.cloudTimestampRegressions + 1, callback := .publishingScan }

def lidarCallback (cfg : ClientConfig) (s : Client) (call : CloudCallback) : Option Client :=
  if cfg.publishType = "both" ∨ cfg.publishType = "points" then
    match call.cld with
    | none => some { s with emptyCloudDrops := s.emptyCloudDrops + 1, callback := .publishingScan }
    | some cloud =>
      if cloud.points.isEmpty then
        some { s with emptyCloudDrops := s.emptyCloudDrops + 1, callback := .publishingScan }
      else s.offer cfg cloud call
  else some { s with callback := .publishingScan }

/-- One step of one of the three threads; `none` when it is not at that point. The destructor deletes the
SDK, which joins the processing thread, then stops the mailbox and joins the publisher. -/
def step (cfg : ClientConfig) (s : Client) : ClientAction → Option Client
  | .lidarCallback call => if s.callback = .idle ∧ s.shutdown = .alive then s.lidarCallback cfg call else none
  | .push =>
    match s.callback with
    | .pushing output =>
      let (result, mailbox) := s.cloudPublishMailbox.push output
      some { s with cloudPublishMailbox := mailbox, callback := .countingEnqueued result }
    | _ => none
  | .countEnqueued =>
    match s.callback with
    | .countingEnqueued result =>
      some { s with
        cloudsEnqueued := if result ≠ .kStopped then s.cloudsEnqueued + 1 else s.cloudsEnqueued
        callback := .countingOverwrite result }
    | _ => none
  | .countOverwrite =>
    match s.callback with
    | .countingOverwrite result =>
      some { s with
        cloudQueueOverwrites := if result = .kReplaced then s.cloudQueueOverwrites + 1 else s.cloudQueueOverwrites
        callback := .publishingScan }
    | _ => none
  | .publishScan =>
    match s.callback with
    | .publishingScan =>
      some { s with
        rawScansPublished :=
          if cfg.publishType = "both" ∨ cfg.publishType = "raw" then s.rawScansPublished + 1 else s.rawScansPublished
        callback := .idle }
    | _ => none
  | .waitPop =>
    if s.publisher = .waiting ∧ s.cloudPublishMailbox.ready then
      match s.cloudPublishMailbox.pop with
      | (none, mailbox) => some { s with cloudPublishMailbox := mailbox, publisher := .returned }
      | (some output, mailbox) =>
        some { s with
          cloudPublishMailbox := mailbox
          publisher := .publishing output
          handed := s.handed ++ [output] }
    else none
  | .publishReturns =>
    match s.publisher with
    | .publishing _ => some { s with cloudsPublished := s.cloudsPublished + 1, publisher := .waiting }
    | _ => none
  | .publishThrows =>
    match s.publisher with
    | .publishing _ => some { s with cloudPublishFailures := s.cloudPublishFailures + 1, publisher := .waiting }
    | _ => none
  | .deleteSdk => if s.callback = .idle ∧ s.shutdown = .alive then some { s with shutdown := .sdkDeleted } else none
  | .stop =>
    if s.shutdown = .sdkDeleted then
      some { s with
        cloudPublishMailbox := s.cloudPublishMailbox.stop
        shutdown := .stopped
        discarded := s.discarded ++ s.cloudPublishMailbox.pending.toList }
    else none
  | .join =>
    if s.shutdown = .stopped ∧ s.publisher = .returned then some { s with shutdown := .joined } else none

end Client

/-! ### The message of a cloud -/

def PointCloud2.stamp (output : PointCloud2) : ℚ :=
  output.header.stampSec + output.header.stampNanosec / 1000000000

structure Published (cfg : ClientConfig) (call : CloudCallback) (output : PointCloud2) : Prop where
  cloud : ∃ cloud, call.cld = some cloud ∧ cloud.points ≠ [] ∧
    ∃ converted, cfg.convert cloud = .ok converted ∧ output = converted.stamped call.timestamp
  sec : output.header.stampSec = ⌊call.timestamp⌋
  nanosec : 0 ≤ output.header.stampNanosec ∧ output.header.stampNanosec < 10 ^ 9
  stamp : call.timestamp - 1 / 10 ^ 9 < output.stamp ∧ output.stamp ≤ call.timestamp

theorem published_stamped {cfg : ClientConfig} {call : CloudCallback} {cloud : BitCloud} {converted : PointCloud2}
    (given : call.cld = some cloud) (nonempty : cloud.points ≠ []) (converts : cfg.convert cloud = .ok converted)
    (nonneg : 0 ≤ call.timestamp) : Published cfg call (converted.stamped call.timestamp) := by
  have sec : truncate call.timestamp = ⌊call.timestamp⌋ := truncate_of_nonneg nonneg
  have low : (⌊call.timestamp⌋ : ℚ) ≤ call.timestamp := Int.floor_le _
  have high : call.timestamp < ⌊call.timestamp⌋ + 1 := Int.lt_floor_add_one _
  have part : 0 ≤ (call.timestamp - ⌊call.timestamp⌋) * 1000000000 := by linarith
  have nanosec : (converted.stamped call.timestamp).header.stampNanosec =
      ⌊(call.timestamp - ⌊call.timestamp⌋) * 1000000000⌋ := by
    show truncate ((call.timestamp - (truncate call.timestamp : ℚ)) * 1000000000) = _
    rw [sec]
    exact truncate_of_nonneg part
  have below := Int.floor_le ((call.timestamp - ⌊call.timestamp⌋) * 1000000000)
  have above := Int.lt_floor_add_one ((call.timestamp - ⌊call.timestamp⌋) * 1000000000)
  refine ⟨⟨cloud, given, nonempty, converted, converts, rfl⟩, sec, ?_, ?_⟩
  · rw [nanosec]
    refine ⟨Int.floor_nonneg.mpr part, Int.floor_lt.mpr ?_⟩
    push_cast
    linarith
  · rw [PointCloud2.stamp, nanosec, show (converted.stamped call.timestamp).header.stampSec = _ from sec]
    constructor
    · linarith
    · linarith

/-! ### The invariant -/

def CallbackThread.held : CallbackThread → List PointCloud2
  | .pushing output => [output]
  | _ => []

def CallbackThread.uncounted : CallbackThread → Nat
  | .countingEnqueued result => if result ≠ .kStopped then 1 else 0
  | _ => 0

def CallbackThread.uncountedOverwrites : CallbackThread → Nat
  | .countingEnqueued result => if result = .kReplaced then 1 else 0
  | .countingOverwrite result => if result = .kReplaced then 1 else 0
  | _ => 0

def PublisherThread.inFlight : PublisherThread → Nat
  | .publishing _ => 1
  | _ => 0

namespace Client

structure Inv (cfg : ClientConfig) (s : Client) : Prop where
  order : (s.handed ++ s.cloudPublishMailbox.pending.toList ++ s.callback.held).Sublist (s.accepted.map Prod.snd)
  messages : ∀ entry ∈ s.accepted, Published cfg entry.1 entry.2
  tolerance : s.cloudTimestampGuard.toleranceSec = kTimestampRegressionToleranceSec
  remembers : s.cloudTimestampGuard.Remembers (s.accepted.map (·.1.timestamp))
  keeps : Tolerance.Keeps kTimestampRegressionToleranceSec (s.accepted.map (·.1.timestamp))
  account : s.cloudsEnqueued + s.callback.uncounted =
    s.cloudsPublished + s.cloudPublishFailures + s.publisher.inFlight +
      (s.cloudQueueOverwrites + s.callback.uncountedOverwrites) + s.cloudPublishMailbox.pending.toList.length +
      s.discarded.length
  notStopped : s.shutdown = .alive ∨ s.shutdown = .sdkDeleted → s.discarded = []
  callbackDone : s.shutdown ≠ .alive → s.callback = .idle
  stopped : s.shutdown = .stopped ∨ s.shutdown = .joined →
    s.cloudPublishMailbox.pending = none ∧ s.discarded.length ≤ 1
  joined : s.shutdown = .joined → s.publisher = .returned

variable {cfg : ClientConfig} {s t : Client} {call : CloudCallback}

theorem start_inv : start.Inv cfg where
  order := List.Sublist.refl []
  messages := nofun
  tolerance := rfl
  remembers := TimestampGuard.remembers_of_uninitialized rfl
  keeps := Tolerance.keeps_nil
  account := rfl
  notStopped := fun _ => rfl
  callbackDone := fun dead => absurd rfl dead
  stopped := nofun
  joined := nofun

theorem Inv.alive (inv : s.Inv cfg) (busy : s.callback ≠ .idle) : s.shutdown = .alive := by
  by_contra dead
  exact busy (inv.callbackDone dead)

theorem dropped_inv (inv : s.Inv cfg) (idle : s.callback = .idle) (alive : s.shutdown = .alive) (drops regressions : Nat) :
    { s with
      emptyCloudDrops := drops
      cloudTimestampRegressions := regressions
      callback := .publishingScan }.Inv cfg where
  order := by simpa [idle, CallbackThread.held] using inv.order
  messages := inv.messages
  tolerance := inv.tolerance
  remembers := inv.remembers
  keeps := inv.keeps
  account := by
    have account := inv.account
    rw [idle] at account
    exact account
  notStopped := inv.notStopped
  callbackDone := fun dead => absurd alive dead
  stopped := inv.stopped
  joined := inv.joined

theorem offer_inv {cloud : BitCloud} (inv : s.Inv cfg) (idle : s.callback = .idle) (alive : s.shutdown = .alive)
    (given : call.cld = some cloud) (nonempty : cloud.points ≠ []) (nonneg : 0 ≤ call.timestamp)
    (h : s.offer cfg cloud call = some t) : t.Inv cfg := by
  unfold offer at h
  dsimp only at h
  cases accepted : (s.cloudTimestampGuard.observe (.finite call.timestamp)).1.accepted with
  | false =>
    rw [accepted, if_neg Bool.false_ne_true, TimestampGuard.observe_of_rejected accepted] at h
    obtain rfl := Option.some.inj h
    exact dropped_inv inv idle alive _ _
  | true =>
    rw [accepted, if_pos rfl] at h
    cases converts : cfg.convert cloud with
    | error _ => rw [converts] at h; cases h
    | ok converted =>
      rw [converts] at h
      obtain rfl := Option.some.inj h
      have published := published_stamped given nonempty converts nonneg
      refine
        { inv with
          order := ?_
          messages := ?_
          tolerance := (TimestampGuard.observe_toleranceSec _).trans inv.tolerance
          remembers := ?_
          keeps := ?_
          account := ?_
          callbackDone := fun dead => absurd alive dead }
      · have order : (s.handed ++ s.cloudPublishMailbox.pending.toList).Sublist (s.accepted.map Prod.snd) := by
          simpa [idle, CallbackThread.held] using inv.order
        rw [List.map_append]
        exact order.append (.refl _)
      · intro entry member
        rcases List.mem_append.mp member with earlier | this
        · exact inv.messages entry earlier
        · obtain rfl := List.mem_singleton.mp this
          exact published
      · rw [List.map_append]
        exact inv.remembers.accept accepted
      · rw [List.map_append]
        refine Tolerance.keeps_append.mpr ⟨inv.keeps, List.pairwise_singleton .., ?_⟩
        intro earlier old later new
        obtain rfl := List.mem_singleton.mp new
        rw [← inv.tolerance]
        exact inv.remembers.near accepted old
      · have account := inv.account
        rw [idle] at account
        exact account

theorem lidarCallback_inv (inv : s.Inv cfg) (nonneg : 0 ≤ call.timestamp) (h : s.step cfg (.lidarCallback call) = some t) :
    t.Inv cfg := by
  simp only [step] at h
  split at h
  · rename_i ready
    obtain ⟨idle, alive⟩ := ready
    unfold lidarCallback at h
    split at h
    · split at h
      · obtain rfl := Option.some.inj h
        exact dropped_inv inv idle alive _ _
      · rename_i cloud given
        split at h
        · obtain rfl := Option.some.inj h
          exact dropped_inv inv idle alive _ _
        · rename_i nonempty
          rw [List.isEmpty_iff] at nonempty
          exact offer_inv inv idle alive given nonempty nonneg h
    · obtain rfl := Option.some.inj h
      exact dropped_inv inv idle alive _ _
  · cases h

theorem push_inv (inv : s.Inv cfg) (h : s.step cfg .push = some t) : t.Inv cfg := by
  simp only [step] at h
  split at h
  · rename_i output pushing
    have alive := inv.alive (by rw [pushing]; nofun)
    have order := inv.order
    have account := inv.account
    rw [pushing, CallbackThread.held] at order
    rw [pushing] at account
    obtain rfl := Option.some.inj h
    refine
      { inv with
        order := ?_
        account := ?_
        callbackDone := fun dead => absurd alive dead
        stopped := by rw [alive]; nofun }
    · cases stopped : s.cloudPublishMailbox.stopped with
      | true =>
        rw [LatestValueMailbox.push, if_pos stopped]
        refine .trans ?_ order
        simp [CallbackThread.held]
      | false =>
        rw [LatestValueMailbox.push, if_neg (by simp [stopped])]
        refine .trans ?_ order
        simp [CallbackThread.held, List.append_assoc]
    · cases stopped : s.cloudPublishMailbox.stopped with
      | true =>
        rw [LatestValueMailbox.push, if_pos stopped]
        exact account
      | false =>
        rw [LatestValueMailbox.push, if_neg (by simp [stopped])]
        cases pending : s.cloudPublishMailbox.pending <;>
          simp [pending, CallbackThread.uncounted, CallbackThread.uncountedOverwrites] at account ⊢ <;> omega
  · cases h

/-- Behind its push the callback only moves what is counted. -/
theorem counted_inv (inv : s.Inv cfg) {enqueued overwrites : Nat} {callback : CallbackThread}
    (held : callback.held = s.callback.held)
    (account : enqueued + callback.uncounted + (s.cloudQueueOverwrites + s.callback.uncountedOverwrites) =
      s.cloudsEnqueued + s.callback.uncounted + (overwrites + callback.uncountedOverwrites))
    (done : s.shutdown ≠ .alive → callback = .idle) :
    { s with cloudsEnqueued := enqueued, cloudQueueOverwrites := overwrites, callback := callback }.Inv cfg :=
  { inv with
    order := by
      rw [held]
      exact inv.order
    account := by
      have before := inv.account
      dsimp only
      omega
    callbackDone := done }

theorem countEnqueued_inv (inv : s.Inv cfg) (h : s.step cfg .countEnqueued = some t) : t.Inv cfg := by
  simp only [step] at h
  split at h
  · rename_i result counting
    have alive := inv.alive (by rw [counting]; nofun)
    obtain rfl := Option.some.inj h
    refine counted_inv inv (by rw [counting]; rfl) ?_ fun dead => absurd alive dead
    rw [counting]
    cases result <;> simp [CallbackThread.uncounted, CallbackThread.uncountedOverwrites]
  · cases h

theorem countOverwrite_inv (inv : s.Inv cfg) (h : s.step cfg .countOverwrite = some t) : t.Inv cfg := by
  simp only [step] at h
  split at h
  · rename_i result counting
    have alive := inv.alive (by rw [counting]; nofun)
    obtain rfl := Option.some.inj h
    refine counted_inv inv (by rw [counting]; rfl) ?_ fun dead => absurd alive dead
    rw [counting]
    cases result <;> simp [CallbackThread.uncounted, CallbackThread.uncountedOverwrites]
  · cases h

theorem publishScan_inv (inv : s.Inv cfg) (h : s.step cfg .publishScan = some t) : t.Inv cfg := by
  simp only [step] at h
  split at h
  · rename_i publishing
    obtain rfl := Option.some.inj h
    have account := inv.account
    rw [publishing] at account
    exact
      { inv with
        order := by simpa [publishing, CallbackThread.held] using inv.order
        account := account
        callbackDone := fun _ => rfl }
  · cases h

theorem waitPop_inv (inv : s.Inv cfg) (h : s.step cfg .waitPop = some t) : t.Inv cfg := by
  simp only [step] at h
  split at h
  · rename_i ready
    have notJoined : s.shutdown ≠ .joined := by
      intro joined
      exact absurd (ready.1.symm.trans (inv.joined joined)) nofun
    have order := inv.order
    have account := inv.account
    rw [ready.1] at account
    cases pending : s.cloudPublishMailbox.pending with
    | none =>
      rw [LatestValueMailbox.pop, pending] at h
      obtain rfl := Option.some.inj h
      rw [pending] at order account
      exact
        { inv with
          order := order
          account := account
          stopped := fun dead => ⟨rfl, (inv.stopped dead).2⟩
          joined := fun _ => rfl }
    | some output =>
      rw [LatestValueMailbox.pop, pending] at h
      obtain rfl := Option.some.inj h
      rw [pending] at order account
      exact
        { inv with
          order := by simpa using order
          account := by simp [PublisherThread.inFlight] at account ⊢; omega
          stopped := fun dead => ⟨rfl, (inv.stopped dead).2⟩
          joined := fun joined => absurd joined notJoined }
  · cases h

theorem publish_inv (inv : s.Inv cfg) {output : PointCloud2} (publishing : s.publisher = .publishing output)
    {published failures : Nat} (counts : published + failures = s.cloudsPublished + s.cloudPublishFailures + 1) :
    { s with cloudsPublished := published, cloudPublishFailures := failures, publisher := .waiting }.Inv cfg where
  order := inv.order
  messages := inv.messages
  tolerance := inv.tolerance
  remembers := inv.remembers
  keeps := inv.keeps
  account := by
    have account := inv.account
    rw [publishing] at account
    simp only [PublisherThread.inFlight] at account ⊢
    omega
  notStopped := inv.notStopped
  callbackDone := inv.callbackDone
  stopped := inv.stopped
  joined := fun joined => absurd (publishing.symm.trans (inv.joined joined)) nofun

theorem deleteSdk_inv (inv : s.Inv cfg) (h : s.step cfg .deleteSdk = some t) : t.Inv cfg := by
  simp only [step] at h
  split at h
  · rename_i ready
    obtain rfl := Option.some.inj h
    exact
      { inv with
        notStopped := fun _ => inv.notStopped (.inl ready.2)
        callbackDone := fun _ => ready.1
        stopped := nofun
        joined := nofun }
  · cases h

theorem stop_inv (inv : s.Inv cfg) (h : s.step cfg .stop = some t) : t.Inv cfg := by
  simp only [step] at h
  split at h
  · rename_i deleted
    have idle : s.callback = .idle := inv.callbackDone (by rw [deleted]; nofun)
    have kept : s.discarded = [] := inv.notStopped (.inr deleted)
    have account := inv.account
    obtain rfl := Option.some.inj h
    refine
      { inv with
        order := ?_
        account := ?_
        notStopped := nofun
        callbackDone := fun _ => idle
        stopped := ?_
        joined := nofun }
    · refine .trans ?_ inv.order
      simp [LatestValueMailbox.stop, idle, CallbackThread.held]
    · simp only [LatestValueMailbox.stop, List.length_append, Option.toList_none, List.length_nil]
      omega
    · intro _
      refine ⟨rfl, ?_⟩
      rw [kept, List.nil_append]
      cases s.cloudPublishMailbox.pending <;> simp
  · cases h

theorem join_inv (inv : s.Inv cfg) (h : s.step cfg .join = some t) : t.Inv cfg := by
  simp only [step] at h
  split at h
  · rename_i ready
    obtain rfl := Option.some.inj h
    exact
      { inv with
        notStopped := nofun
        callbackDone := fun _ => inv.callbackDone (by rw [ready.1]; nofun)
        stopped := fun _ => inv.stopped (.inl ready.1)
        joined := fun _ => ready.2 }
  · cases h

theorem step_inv {action : ClientAction} (inv : s.Inv cfg)
    (nonneg : ∀ call, action = .lidarCallback call → 0 ≤ call.timestamp) (h : s.step cfg action = some t) : t.Inv cfg := by
  cases action with
  | lidarCallback call => exact lidarCallback_inv inv (nonneg call rfl) h
  | push => exact push_inv inv h
  | countEnqueued => exact countEnqueued_inv inv h
  | countOverwrite => exact countOverwrite_inv inv h
  | publishScan => exact publishScan_inv inv h
  | waitPop => exact waitPop_inv inv h
  | publishReturns =>
    simp only [step] at h
    split at h
    · rename_i output publishing
      obtain rfl := Option.some.inj h
      exact publish_inv inv publishing (by omega)
    · cases h
  | publishThrows =>
    simp only [step] at h
    split at h
    · rename_i output publishing
      obtain rfl := Option.some.inj h
      exact publish_inv inv publishing (by omega)
    · cases h
  | deleteSdk => exact deleteSdk_inv inv h
  | stop => exact stop_inv inv h
  | join => exact join_inv inv h

theorem run_inv {actions : List ClientAction} (nonneg : ∀ call, .lidarCallback call ∈ actions → 0 ≤ call.timestamp)
    (run : actions.foldlM (step cfg) start = some s) : s.Inv cfg :=
  (Runs.run_of_foldlM_some run).invariant_of_forall (fun inv nonneg h => step_inv inv nonneg h)
    (fun _ member call same => nonneg call (same ▸ member)) start_inv

/-! ### The accepted clouds -/

theorem offer_history {cloud : BitCloud} (h : s.offer cfg cloud call = some t) :
    t.cloudTimestampGuard = (s.cloudTimestampGuard.observe (.finite call.timestamp)).2 ∧
    t.accepted.map Prod.fst = s.accepted.map Prod.fst ++
      if (s.cloudTimestampGuard.observe (.finite call.timestamp)).1.accepted then [call] else [] := by
  unfold offer at h
  dsimp only at h
  split at h
  · rename_i accepted
    split at h
    · cases h
    · obtain rfl := Option.some.inj h
      rw [if_pos accepted, List.map_append]
      exact ⟨rfl, rfl⟩
  · rename_i rejected
    obtain rfl := Option.some.inj h
    rw [if_neg rejected, List.append_nil]
    exact ⟨rfl, rfl⟩

theorem lidarCallback_history (publishes : cfg.publishType = "both" ∨ cfg.publishType = "points")
    (h : s.step cfg (.lidarCallback call) = some t) :
    (t.cloudTimestampGuard, t.accepted.map Prod.fst) =
      acceptCloud (s.cloudTimestampGuard, s.accepted.map Prod.fst) call := by
  simp only [step] at h
  split at h
  · rw [lidarCallback, if_pos publishes] at h
    unfold acceptCloud CloudCallback.isEmpty
    split at h
    · obtain rfl := Option.some.inj h
      rfl
    · split at h
      · rename_i empty
        obtain rfl := Option.some.inj h
        simp [empty]
      · rename_i nonempty
        obtain ⟨guard, accepted⟩ := offer_history h
        simp only [nonempty, guard, accepted, Bool.false_eq_true, if_false]
  · cases h

theorem step_history {action : ClientAction} (other : action.call = none) (h : s.step cfg action = some t) :
    t.cloudTimestampGuard = s.cloudTimestampGuard ∧ t.accepted = s.accepted := by
  cases action with
  | lidarCallback call => cases other
  | push | countEnqueued | countOverwrite | publishScan | publishReturns | publishThrows | deleteSdk | stop | join =>
    simp only [step] at h
    split at h
    · obtain rfl := Option.some.inj h
      exact ⟨rfl, rfl⟩
    · cases h
  | waitPop =>
    simp only [step] at h
    split at h
    · split at h <;> obtain rfl := Option.some.inj h <;> exact ⟨rfl, rfl⟩
    · cases h

theorem run_history {actions : List ClientAction} (publishes : cfg.publishType = "both" ∨ cfg.publishType = "points")
    (run : actions.foldlM (step cfg) start = some s) :
    s.accepted.map Prod.fst = acceptedClouds (actions.filterMap ClientAction.call) := by
  have history := (Runs.run_of_foldlM_some run).invariant_of_history
    (I := fun done s => (s.cloudTimestampGuard, s.accepted.map Prod.fst) =
      (done.filterMap ClientAction.call).foldl acceptCloud (.fresh kTimestampRegressionToleranceSec, []))
    (fun {done s action t} known h => by
      rw [List.filterMap_append, List.foldl_append, ← known]
      cases call : action.call with
      | none =>
        obtain ⟨guard, accepted⟩ := step_history call h
        simp [call, guard, accepted]
      | some offered =>
        cases action <;> cases call
        exact lidarCallback_history publishes h)
    [] rfl
  exact congrArg Prod.snd history

/-! ### What is published -/

theorem Inv.handed (inv : s.Inv cfg) :
    ∃ kept : List (CloudCallback × PointCloud2), kept.Sublist s.accepted ∧ s.handed = kept.map Prod.snd := by
  apply List.sublist_map_iff.mp
  refine .trans ?_ inv.order
  rw [List.append_assoc]
  exact List.sublist_append_left ..

/-- Truncation to whole nanoseconds costs at most one of them. -/
theorem stamp_near {earlier later : CloudCallback} {first second : PointCloud2} (old : Published cfg earlier first)
    (new : Published cfg later second) (near : earlier.timestamp - kTimestampRegressionToleranceSec ≤ later.timestamp) :
    first.stamp - (1 / 10 + 1 / 10 ^ 9) ≤ second.stamp := by
  have below := old.stamp.2
  have above := new.stamp.1
  unfold kTimestampRegressionToleranceSec at near
  linarith

theorem Inv.stamps (inv : s.Inv cfg) :
    s.handed.Pairwise fun earlier later => earlier.stamp - (1 / 10 + 1 / 10 ^ 9) ≤ later.stamp := by
  obtain ⟨kept, sub, handed⟩ := inv.handed
  rw [handed, List.pairwise_map]
  have keeps := List.pairwise_map.mp (inv.keeps.sublist (sub.map _))
  refine keeps.imp_of_mem fun {earlier later} old new near => ?_
  exact stamp_near (inv.messages earlier (sub.subset old)) (inv.messages later (sub.subset new)) near

/-- In every interleaving of callbacks, publisher and destructor, the clouds handed to `publish` are a
subsequence of the accepted ones with their stamps, and the counters add up after the shutdown. -/
theorem publication_exact {actions : List ClientAction}
    (publishes : cfg.publishType = "both" ∨ cfg.publishType = "points")
    (stamps : ∀ call, .lidarCallback call ∈ actions → 0 ≤ call.timestamp ∧ call.timestamp < 2 ^ 31)
    (run : actions.foldlM (step cfg) start = some s) :
    s.accepted.map Prod.fst = acceptedClouds (actions.filterMap ClientAction.call) ∧
    (∃ kept : List (CloudCallback × PointCloud2), kept.Sublist s.accepted ∧ s.handed = kept.map Prod.snd) ∧
    (∀ entry ∈ s.accepted, Published cfg entry.1 entry.2) ∧
    (s.handed.Pairwise fun earlier later => earlier.stamp - (1 / 10 + 1 / 10 ^ 9) ≤ later.stamp) ∧
    (s.shutdown = .joined →
      s.cloudsEnqueued = s.cloudsPublished + s.cloudPublishFailures + s.cloudQueueOverwrites + s.discarded.length ∧
        s.discarded.length ≤ 1) := by
  have inv := run_inv (fun call member => (stamps call member).1) run
  refine ⟨run_history publishes run, inv.handed, inv.messages, inv.stamps, fun joined => ?_⟩
  obtain ⟨pending, discarded⟩ := inv.stopped (.inr joined)
  have account := inv.account
  rw [inv.callbackDone (by rw [joined]; nofun), inv.joined joined, pending] at account
  simp only [CallbackThread.uncounted, CallbackThread.uncountedOverwrites, PublisherThread.inFlight, Option.toList_none,
    List.length_nil] at account
  exact ⟨by omega, discarded⟩

def onePoint : BitCloud := ⟨[⟨0, 0, 0, 0, 0, 0⟩], 1, 1, "hesai", true⟩

/-- The second cloud replaces the first one, is published, and the third is discarded by the shutdown. -/
def replacedActions : List ClientAction :=
  [.lidarCallback ⟨some onePoint, 1⟩, .push, .countEnqueued, .countOverwrite, .publishScan,
    .lidarCallback ⟨some onePoint, 2⟩, .push, .countEnqueued, .countOverwrite, .waitPop, .publishScan,
    .lidarCallback ⟨some onePoint, 3⟩, .push, .countEnqueued, .countOverwrite, .publishScan, .publishThrows,
    .deleteSdk, .stop, .waitPop, .join]

def pointsConfig : ClientConfig := ⟨"points", "compact", false, fun _ => ⟨⟨0, 0, ""⟩, 0, 0, [], false, 0, 0, [], true⟩⟩

theorem publication_exact_replaced :
    ∃ s : Client, replacedActions.foldlM (step pointsConfig) start = some s ∧ s.shutdown = .joined ∧
      s.cloudsEnqueued = 3 ∧
      s.cloudsEnqueued = s.cloudsPublished + s.cloudPublishFailures + s.cloudQueueOverwrites + s.discarded.length := by
  have ends : (replacedActions.foldlM (step pointsConfig) start).map (fun s => (s.shutdown, s.cloudsEnqueued)) =
      some (.joined, 3) := by
    decide +kernel
  obtain ⟨s, run, values⟩ := Option.map_eq_some_iff.mp ends
  obtain ⟨joined, enqueued⟩ := Prod.mk.inj values
  refine ⟨s, run, joined, enqueued, ((publication_exact (.inr rfl) ?_ run).2.2.2.2 joined).1⟩
  intro call member
  simp only [replacedActions, List.mem_cons, List.not_mem_nil, reduceCtorEq, ClientAction.lidarCallback.injEq, or_false,
    false_or] at member
  rcases member with rfl | rfl | rfl <;> norm_num

end Client

end HesaiLidar
