import HesaiLidar.Client.Publication

/-!
# The end of the client

Once no more clouds come, the callback, the publisher and the destructor take a bounded number of further steps in any
order, and no order gets stuck before the destructor has joined the publisher.
-/

namespace HesaiLidar.Client

variable {cfg : ClientConfig} {s t : Client} {action : ClientAction}

/-! ### Steps left -/

/-- A push may leave a cloud for the publisher to take and to publish. -/
def callbackLeft : CallbackThread → Nat
  | .idle => 0
  | .publishingScan => 1
  | .countingOverwrite _ => 2
  | .countingEnqueued _ => 3
  | .pushing _ => 6

def publisherLeft : PublisherThread → Nat
  | .returned => 0
  | .waiting => 1
  | .publishing _ => 2

def shutdownLeft : Shutdown → Nat
  | .joined => 0
  | .stopped => 1
  | .sdkDeleted => 2
  | .alive => 3

def stepsLeft (s : Client) : Nat :=
  callbackLeft s.callback + publisherLeft s.publisher + 2 * s.cloudPublishMailbox.pending.toList.length +
    shutdownLeft s.shutdown

theorem stepsLeft_le (s : Client) : s.stepsLeft ≤ 13 := by
  have callback : callbackLeft s.callback ≤ 6 := by
    unfold callbackLeft
    split <;> omega
  have publisher : publisherLeft s.publisher ≤ 2 := by
    unfold publisherLeft
    split <;> omega
  have pending : s.cloudPublishMailbox.pending.toList.length ≤ 1 := by
    cases s.cloudPublishMailbox.pending
    · exact Nat.zero_le _
    · exact Nat.le_refl _
  have shutdown : shutdownLeft s.shutdown ≤ 3 := by cases s.shutdown <;> decide
  unfold stepsLeft
  omega

theorem push_pending (mailbox : LatestValueMailbox PointCloud2) (output : PointCloud2) :
    (mailbox.push output).2.pending.toList.length ≤ 1 ∨ (mailbox.push output).2.pending = mailbox.pending := by
  unfold LatestValueMailbox.push
  split
  · exact .inr rfl
  · exact .inl (Nat.le_refl _)

theorem stepsLeft_lt (quiet : action.call = none) (h : s.step cfg action = some t) : t.stepsLeft < s.stepsLeft := by
  cases action with
  | lidarCallback call => cases quiet
  | push =>
    simp only [step] at h
    split at h
    · rename_i output pushing
      obtain rfl := Option.some.inj h
      have pending := push_pending s.cloudPublishMailbox output
      unfold stepsLeft
      rw [pushing, show callbackLeft (.pushing output) = 6 from rfl]
      dsimp only [callbackLeft]
      rcases pending with few | same
      · omega
      · rw [same]
        omega
    · cases h
  | countEnqueued | countOverwrite | publishScan =>
    simp only [step] at h
    split at h
    · rename_i at'
      obtain rfl := Option.some.inj h
      unfold stepsLeft
      rw [at']
      dsimp only [callbackLeft]
      omega
    · cases h
  | waitPop =>
    simp only [step] at h
    split at h
    · rename_i ready
      split at h
      all_goals
        rename_i popped
        obtain ⟨pending, rfl⟩ := Prod.mk.inj popped
        obtain rfl := Option.some.inj h
        unfold stepsLeft
        rw [ready.1, pending]
        dsimp only [publisherLeft, Option.toList, List.length_nil, List.length_singleton]
        omega
    · cases h
  | publishReturns | publishThrows =>
    simp only [step] at h
    split at h
    · rename_i publishing
      obtain rfl := Option.some.inj h
      unfold stepsLeft
      rw [publishing]
      dsimp only [publisherLeft]
      omega
    · cases h
  | deleteSdk =>
    simp only [step] at h
    split at h
    · rename_i ready
      obtain rfl := Option.some.inj h
      unfold stepsLeft
      rw [ready.2]
      dsimp only [shutdownLeft]
      omega
    · cases h
  | stop =>
    simp only [step] at h
    split at h
    · rename_i deleted
      obtain rfl := Option.some.inj h
      unfold stepsLeft
      rw [deleted]
      dsimp only [shutdownLeft, LatestValueMailbox.stop, Option.toList, List.length_nil]
      omega
    · cases h
  | join =>
    simp only [step] at h
    split at h
    · rename_i ready
      obtain rfl := Option.some.inj h
      unfold stepsLeft
      rw [ready.1]
      dsimp only [shutdownLeft]
      omega
    · cases h

/-! ### Nothing gets stuck -/

/-- The publisher is not waiting on a mailbox that has forgotten the stop. -/
def Closed (s : Client) : Prop := s.shutdown = .stopped → s.cloudPublishMailbox.stopped = true

theorem stopped_push (mailbox : LatestValueMailbox PointCloud2) (output : PointCloud2) :
    (mailbox.push output).2.stopped = mailbox.stopped := by
  unfold LatestValueMailbox.push
  split <;> rfl

theorem Closed.lidarCallback {call : CloudCallback} (closed : s.Closed) (h : s.lidarCallback cfg call = some t) :
    t.Closed := by
  unfold Client.lidarCallback at h
  split at h
  · split at h
    · obtain rfl := Option.some.inj h
      exact closed
    · split at h
      · obtain rfl := Option.some.inj h
        exact closed
      · unfold offer at h
        dsimp only at h
        split at h
        · split at h
          · cases h
          · obtain rfl := Option.some.inj h
            exact closed
        · obtain rfl := Option.some.inj h
          exact closed
  · obtain rfl := Option.some.inj h
    exact closed

theorem Closed.step (closed : s.Closed) (h : s.step cfg action = some t) : t.Closed := by
  cases action with
  | lidarCallback call =>
    simp only [Client.step] at h
    split at h
    · exact closed.lidarCallback h
    · cases h
  | push =>
    simp only [Client.step] at h
    split at h
    · obtain rfl := Option.some.inj h
      exact fun stopped => (stopped_push ..).trans (closed stopped)
    · cases h
  | waitPop =>
    simp only [Client.step] at h
    split at h
    · split at h
      all_goals
        rename_i popped
        obtain ⟨-, rfl⟩ := Prod.mk.inj popped
        obtain rfl := Option.some.inj h
        exact closed
    · cases h
  | stop =>
    simp only [Client.step] at h
    split at h
    · obtain rfl := Option.some.inj h
      exact fun _ => rfl
    · cases h
  | deleteSdk | join =>
    simp only [Client.step] at h
    split at h
    · obtain rfl := Option.some.inj h
      rintro ⟨⟩
    · cases h
  | _ =>
    simp only [Client.step] at h
    split at h
    · obtain rfl := Option.some.inj h
      exact closed
    · cases h

theorem publisher_goes_on (closed : s.Closed) (stopped : s.shutdown = .stopped) :
    ∃ (action : ClientAction) (t : Client), action.call = none ∧ s.step cfg action = some t := by
  cases publisher : s.publisher with
  | waiting =>
    have ready : s.cloudPublishMailbox.ready = true := by
      unfold LatestValueMailbox.ready
      rw [closed stopped, Bool.true_or]
    have wakes : s.step cfg .waitPop ≠ none := by
      rw [step, if_pos ⟨publisher, ready⟩]
      split <;> exact Option.some_ne_none _
    obtain ⟨t, next⟩ := Option.ne_none_iff_exists'.mp wakes
    exact ⟨.waitPop, t, rfl, next⟩
  | publishing output => exact ⟨.publishReturns, _, rfl, by rw [step, publisher]⟩
  | returned => exact ⟨.join, _, rfl, by rw [step, if_pos ⟨stopped, publisher⟩]⟩

theorem goes_on (closed : s.Closed) (running : s.shutdown ≠ .joined) :
    ∃ (action : ClientAction) (t : Client), action.call = none ∧ s.step cfg action = some t := by
  cases callback : s.callback with
  | pushing output => exact ⟨.push, _, rfl, by rw [step, callback]⟩
  | countingEnqueued result => exact ⟨.countEnqueued, _, rfl, by rw [step, callback]⟩
  | countingOverwrite result => exact ⟨.countOverwrite, _, rfl, by rw [step, callback]⟩
  | publishingScan => exact ⟨.publishScan, _, rfl, by rw [step, callback]⟩
  | idle =>
    cases shutdown : s.shutdown with
    | alive => exact ⟨.deleteSdk, _, rfl, by rw [step, if_pos ⟨callback, shutdown⟩]⟩
    | sdkDeleted => exact ⟨.stop, _, rfl, by rw [step, if_pos shutdown]⟩
    | stopped => exact publisher_goes_on closed shutdown
    | joined => exact absurd shutdown running

/-- From every reachable state, whatever the order of the steps, at most thirteen of them are left when no further cloud
comes; the last one is the return of the destructor's join, and it can always be reached. -/
theorem shutdown_completes (cfg : ClientConfig) (actions : List ClientAction) (s : Client)
    (run : actions.foldlM (step cfg) start = some s) :
    (∀ (more : List ClientAction) (t : Client), (∀ action ∈ more, action.call = none) →
      more.foldlM (step cfg) s = some t → more.length ≤ 13 ∧
        ((∀ action : ClientAction, action.call = none → t.step cfg action = none) → t.shutdown = .joined)) ∧
    ∃ (more : List ClientAction) (t : Client), (∀ action ∈ more, action.call = none) ∧
      more.foldlM (step cfg) s = some t ∧ t.shutdown = .joined := by
  have closed : s.Closed := (Runs.run_of_foldlM_some run).invariant Closed.step (by rintro ⟨⟩)
  refine ⟨fun more t quiet further => ?_, ?_⟩
  · have rest := Runs.run_of_foldlM_some further
    have bound := rest.length_le (fun own moves => stepsLeft_lt own moves) quiet
    have few := s.stepsLeft_le
    refine ⟨by omega, fun stuck => ?_⟩
    by_contra running
    obtain ⟨action, u, own, next⟩ := goes_on (rest.invariant Closed.step closed) running
    rw [stuck action own] at next
    cases next
  · have next {s : Client} (closed : s.Closed) (running : s.shutdown ≠ .joined) :
        ∃ action t, action.call = none ∧ Runs.Enabled (step cfg) s action t ∧ t.Closed ∧ t.stepsLeft < s.stepsLeft := by
      obtain ⟨action, t, own, moves⟩ := goes_on closed running
      exact ⟨action, t, own, moves, closed.step moves, stepsLeft_lt own moves⟩
    obtain ⟨more, t, quiet, rest, joined⟩ := Runs.exists_run_of_progress next closed
    exact ⟨more, t, quiet, Runs.foldlM_some_of_run rest, joined⟩

/-- One cloud is being published, the next one waits in the mailbox, and a third is about to replace it. -/
theorem shutdown_completes_replacing :
    let actions : List ClientAction := [.lidarCallback ⟨some onePoint, 1⟩, .push, .countEnqueued, .countOverwrite, .waitPop,
      .publishScan, .lidarCallback ⟨some onePoint, 2⟩, .push, .countEnqueued, .countOverwrite, .publishScan,
      .lidarCallback ⟨some onePoint, 3⟩]
    ∃ s, actions.foldlM (step pointsConfig) start = some s ∧ s.stepsLeft = 13 ∧
      ∃ (more : List ClientAction) (t : Client), (∀ action ∈ more, action.call = none) ∧
        more.foldlM (step pointsConfig) s = some t ∧ t.shutdown = .joined := by
  intro actions
  have reached : (actions.foldlM (step pointsConfig) start).map stepsLeft = some 13 := by decide +kernel
  obtain ⟨s, run, left⟩ := Option.map_eq_some_iff.mp reached
  exact ⟨s, run, left, (shutdown_completes pointsConfig actions s run).2⟩

end HesaiLidar.Client
