import Mathlib.Data.List.Flatten
import HesaiLidar.Client.FrameDelivery
import HesaiLidar.Driver.FreshSessions

/-!
# From datagrams to messages

A session of the driver's threads and the client behind it, each under a schedule of its own.
-/

namespace HesaiLidar

variable {cfg : Config} {popped received : List PandarPacket} {accepted : List AcceptedPacket}

theorem AcceptedFrom.mono (from' : AcceptedFrom cfg popped accepted) (sub : popped.Sublist received) :
    AcceptedFrom cfg received accepted := by
  obtain ⟨kept, sublist, admitted⟩ := from'
  exact ⟨kept, sublist.trans sub, admitted⟩

theorem InTime.mono (inTime : InTime cfg received accepted) (sub : popped.Sublist received) : InTime cfg popped accepted := by
  cases inTime with
  | received realtime stamps => exact .received realtime fun packet member => stamps packet (sub.subset member)
  | sensor sensor trig tables utc zone times order => exact .sensor sensor trig tables utc zone times order

/-- The points of some of the frames are points of the accepted packets, each at most once. -/
theorem FramesConserved.subperm {s : Driver} (conserved : FramesConserved cfg popped s) {kept : List Callback}
    (sub : kept.Sublist s.frame.callbacks) :
    (kept.flatMap fun c => c.cloud.points).Subperm (s.accepted.flatMap fun a => pointsOf cfg a.entries) := by
  have emitted : (kept.flatMap fun c => c.cloud.points).Sublist
      ((s.frame.callbacks.flatMap fun c => c.cloud.points) ++ s.frame.buffered cfg.structured) :=
    (sub.flatMap _).trans (List.sublist_append_left ..)
  exact emitted.subperm.trans conserved.points.subperm

namespace DriverThreads

/-- The calls made and the packets accepted since the session's `ProcessLiarPacket` began. -/
def called (t : DriverThreads) : List Callback := t.driver.frame.callbacks.drop t.entry.frame.callbacks.length

def acceptedPackets (t : DriverThreads) : List AcceptedPacket := t.driver.accepted.drop t.entry.accepted.length

/-- What a session has come to at the subscribers: every received packet has its place in the account, the accepted ones
are received ones in order, the calls are delivered, and no point is delivered that was not sent, or twice. -/
structure ReachesSubscribers (cfg : Config) (t : DriverThreads) (bits : PPoint → BitPoint) (actions : List ClientAction)
    (u : Client) : Prop where
  accounts : t.accounts.Perm t.received
  accepted : AcceptedFrom cfg t.received t.acceptedPackets
  delivered : FramesDelivered t.called bits actions u
  points : ∀ kept : List Callback, kept.Sublist t.called →
    (kept.flatMap fun c => c.cloud.points).Subperm (t.acceptedPackets.flatMap fun a => pointsOf cfg a.entries)

theorem received_to_published (cfg : Config) (noTf : cfg.fixedFrame = "") (storage : PacketsBuffer.Index → PandarPacket)
    (pointCloud : Nat → PPoint) (events : List ThreadEvent) (t : DriverThreads)
    (run : events.foldlM (step cfg) (constructed storage "" pointCloud) = some t) (opened : t.session = true)
    (path : ∀ packet ∈ t.received, OnXtPath cfg packet) (inTime : InTime cfg t.received t.acceptedPackets)
    (client : ClientConfig) (compact : client.pointcloudLayout = "compact")
    (publishes : client.publishType = "both" ∨ client.publishType = "points") (bits : PPoint → BitPoint)
    (actions : List ClientAction) (u : Client)
    (calls : actions.filterMap ClientAction.call <+: t.called.map (Callback.call bits))
    (clientRun : actions.foldlM (Client.step client) .start = some u) : ReachesSubscribers cfg t bits actions u := by
  obtain ⟨processed, s, again, fresh⟩ := fresh_run_of_session noTf pointCloud run opened
  have called : t.called = s.frame.callbacks := by
    rw [DriverThreads.called, fresh.callbacks, List.drop_left]
  have accepted : t.acceptedPackets = s.accepted := by
    rw [acceptedPackets, fresh.accepted, List.drop_left]
  have taken : ∀ packet ∈ processed, OnXtPath cfg packet := fun packet member => path packet (fresh.received.subset member)
  have xt := xtRun_of_run noTf taken again
  rw [accepted] at inTime
  obtain ⟨nonneg, guarded⟩ := xt.in_order noTf taken again (inTime.mono fresh.received)
  rw [called] at calls
  refine ⟨fresh.accounts, ?_, ?_, ?_⟩
  · rw [accepted]
    exact xt.from'.mono fresh.received
  · rw [called]
    exact delivered_of_guarded xt.represents.timestamps nonneg guarded compact publishes calls clientRun
  · rw [called, accepted]
    exact fun kept sub => xt.conserved.subperm sub

/-- Two packets with a boundary in the second one; the frame is published before the shutdown. -/
theorem received_to_published_sweep :
    let cfg := Config.plain .pandarXT16 0 0
    let first := (List.range 568).map (xt16Packet 10 0 fun b => 35800 + b).data
    let second := (List.range 568).map (xt16Packet 11 1 fun b => (35996 + b) % 36000).data
    let events := [.start, .joined, .enter] ++ passage first 10 0 ++ [.process] ++ passage second 11 1 ++ [.process]
    let bits : PPoint → BitPoint := fun p => ⟨0, 0, 0, 0, 0, BitVec.ofNat 16 p.ring⟩
    ∃ t c u, events.foldlM (step cfg) blank = some t ∧ t.called = [c] ∧
      (deliveredActions (c.call bits)).foldlM (Client.step Client.pointsConfig) .start = some u ∧ u.handed.length = 1 ∧
      ReachesSubscribers cfg t bits (deliveredActions (c.call bits)) u := by
  intro cfg first second events bits
  have reached : (events.foldlM (step cfg) blank).map (fun t => (t.session,
      decide (∀ packet ∈ t.received, OnXtPath cfg packet ∧ packet.stamp ∈ [.finite 10, .finite 11]),
      t.called.map fun c => ((deliveredActions (c.call bits)).foldlM (Client.step Client.pointsConfig) .start).map
        fun u => u.handed.length)) = some (true, true, [some 1]) := by decide +kernel
  obtain ⟨t, run, shape⟩ := Option.map_eq_some_iff.mp reached
  obtain ⟨opened, shape⟩ := Prod.mk.inj shape
  obtain ⟨packets, shape⟩ := Prod.mk.inj shape
  obtain ⟨c, called, shape⟩ := List.map_eq_singleton_iff.mp shape
  obtain ⟨u, clientRun, handed⟩ := Option.map_eq_some_iff.mp shape
  have packets := of_decide_eq_true packets
  have stamps : ∀ packet ∈ t.received, ∀ stamp, packet.stamp = .finite stamp → 0 ≤ stamp ∧ stamp < 2 ^ 31 := by
    intro packet member stamp finite
    have known := (packets packet member).2
    rw [finite] at known
    rcases List.mem_pair.mp known with same | same
    all_goals
      obtain rfl := Double.finite.inj same
      norm_num
  exact ⟨t, c, u, run, called, clientRun, handed, received_to_published cfg rfl _ _ events t run opened
    (fun packet member => (packets packet member).1) (.received rfl stamps) Client.pointsConfig rfl (.inr rfl) bits _ u
    (by rw [called]; exact List.prefix_rfl) clientRun⟩

end DriverThreads

end HesaiLidar
