import HesaiLidar.Defenses.XtSequenceTracker
import HesaiLidar.Library.ModularCounter
import HesaiLidar.Library.Segments
import Mathlib.Data.List.ReduceOption

/-!
# Epochs of the sequence tracker

A history of observations and resets falls into epochs: a reset, a first packet and a restart after idle
begin a new one. Within an epoch the tracker's baseline is the first number of the epoch moved on by what
the decisions report, whatever the network did.
-/

namespace HesaiLidar.XtSequenceTracker

inductive Event where
  | observe (sequence : UInt32) (receiveTimestamp : Double)
  | reset

/-- A decision with `last_sequence_` as the step leaves it. -/
structure Entry where
  decision : SequenceDecision
  lastSequence : UInt32

/-- A reset gives no decision. -/
def handle (tracker : XtSequenceTracker) : Event → Option Entry × XtSequenceTracker
  | .observe sequence receiveTimestamp =>
    let (decision, tracker) := tracker.observe (sequence, receiveTimestamp)
    (some ⟨decision, tracker.lastSequence⟩, tracker)
  | .reset => (none, tracker.reset)

def log (tracker : XtSequenceTracker) (history : List Event) : List (Option Entry) :=
  Observer.answers handle tracker history

/-- A reset, a first packet and a restart after idle begin an epoch. -/
def beginsEpoch : Option Entry → Bool
  | none => true
  | some entry => entry.decision.status = .kFirst ∨ entry.decision.status = .kRestartAfterIdle

def segments (tracker : XtSequenceTracker) (history : List Event) : Segments (Option Entry) :=
  Segments.split (fun _ => beginsEpoch) (log tracker history)

def epochs (tracker : XtSequenceTracker) (history : List Event) : List (List Entry) :=
  ((segments tracker history).closed ++ [(segments tracker history).current]).map List.reduceOption

/-- The unwrapped advance: packets in order, forward gaps, and the numbers the gaps skip. -/
def advance (epoch : List Entry) : Nat :=
  epoch.countP (fun entry => entry.decision.status = .kInOrder) +
    epoch.countP (fun entry => entry.decision.status = .kForwardGap) +
    (epoch.map fun entry => entry.decision.missing.toNat).sum

/-! ### One step -/

def Entry.move (entry : Entry) : Nat :=
  (if entry.decision.status = .kInOrder ∨ entry.decision.status = .kForwardGap then 1 else 0) +
    entry.decision.missing.toNat

theorem advance_eq (epoch : List Entry) : advance epoch = ModularCounter.advance Entry.move epoch := by
  induction epoch with
  | nil => rfl
  | cons entry epoch ih =>
    rw [ModularCounter.advance_cons, ← ih, advance, advance, Entry.move]
    cases status : entry.decision.status <;> simp [status] <;> omega

/-- What an entry says about the one before it in its epoch. -/
structure Follows (earlier later : Entry) : Prop where
  inside : beginsEpoch (some later) = false
  counts : ModularCounter.Counts (2 ^ 32) (fun entry => entry.lastSequence.toNat) Entry.move earlier later
  dropped : later.decision.accepted = false → later.lastSequence = earlier.lastSequence
  accepted : later.decision.accepted = true → later.lastSequence = later.decision.current ∧ 0 < later.move

structure Begins (entry : Entry) : Prop where
  opens : beginsEpoch (some entry) = true
  baseline : entry.lastSequence = entry.decision.current
  still : entry.move = 0

def entryOf (tracker : XtSequenceTracker) (observation : UInt32 × Double) : Entry :=
  ⟨(tracker.observe observation).1, (tracker.observe observation).2.lastSequence⟩

variable {tracker : XtSequenceTracker} {observation : UInt32 × Double} {earlier : Entry}

theorem entryOf_cases (tracker : XtSequenceTracker) (observation : UInt32 × Double) :
    Begins (tracker.entryOf observation) ∨
    tracker.initialized = true ∧
      ∀ earlier : Entry, earlier.lastSequence = tracker.lastSequence → Follows earlier (tracker.entryOf observation) := by
  obtain ⟨sequence, stamp⟩ := observation
  have ways := tracker.observe_cases sequence stamp
  unfold entryOf
  generalize tracker.observe (sequence, stamp) = outcome at ways
  have stays (last : UInt32) : last.toNat = (last.toNat + 0) % 2 ^ 32 := (Nat.mod_eq_of_lt last.toNat_lt).symm
  have forward (move : Nat) (size : (sequence - tracker.lastSequence).toNat = move) :
      sequence.toNat = (tracker.lastSequence.toNat + move) % 2 ^ 32 := by
    rw [← size, ← UInt32.toNat_add, UInt32.add_comm, UInt32.sub_add_cancel]
  cases ways with
  | first => exact .inl ⟨rfl, rfl, rfl⟩
  | restart => exact .inl ⟨rfl, rfl, rfl⟩
  | duplicate started =>
    refine .inr ⟨started, fun earlier baseline => ⟨rfl, ?_, fun _ => baseline.symm, nofun⟩⟩
    rw [ModularCounter.Counts, baseline]
    exact stays tracker.lastSequence
  | inOrder started _ next =>
    refine .inr ⟨started, fun earlier baseline => ⟨rfl, ?_, nofun, fun _ => ⟨rfl, Nat.one_pos⟩⟩⟩
    rw [ModularCounter.Counts, baseline]
    exact forward 1 (by rw [next]; rfl)
  | forwardGap started _ nonzero =>
    have one_le : 1 ≤ sequence - tracker.lastSequence := by
      rw [UInt32.le_iff_toNat_le]
      exact Nat.pos_of_ne_zero fun zero => nonzero (UInt32.toNat_inj.mp zero)
    have skipped : (sequence - tracker.lastSequence).toNat = 1 + (sequence - tracker.lastSequence - 1).toNat := by
      rw [UInt32.toNat_sub_of_le _ _ one_le]
      exact (Nat.add_sub_cancel' (UInt32.le_iff_toNat_le.mp one_le)).symm
    refine .inr ⟨started, fun earlier baseline => ⟨rfl, ?_, nofun, fun _ => ⟨rfl, ?_⟩⟩⟩
    · rw [ModularCounter.Counts, baseline]
      exact forward _ skipped
    · exact Nat.add_pos_left Nat.one_pos _
  | backward started =>
    refine .inr ⟨started, fun earlier baseline => ⟨rfl, ?_, fun _ => baseline.symm, nofun⟩⟩
    rw [ModularCounter.Counts, baseline]
    exact stays tracker.lastSequence

/-! ### One epoch -/

/-- An epoch begins with its first entry, and every other entry follows the one before it. -/
structure Linked (epoch : List Entry) : Prop where
  begins : ∀ entry ∈ epoch.head?, Begins entry
  follows : epoch.IsChain Follows

theorem linked_nil : Linked [] := ⟨nofun, .nil⟩

theorem linked_singleton {entry : Entry} (begins : Begins entry) : Linked [entry] where
  begins := by
    rintro _ ⟨⟩
    exact begins
  follows := .singleton entry

theorem Linked.concat {epoch : List Entry} {earlier later : Entry} (linked : Linked epoch)
    (last : epoch.getLast? = some earlier) (follows : Follows earlier later) : Linked (epoch ++ [later]) where
  begins := by
    intro entry first
    refine linked.begins entry ?_
    cases epoch with
    | nil => cases last
    | cons => exact first
  follows := by
    refine linked.follows.append (.singleton later) ?_
    rw [last]
    rintro _ ⟨⟩ _ ⟨⟩
    exact follows

structure Accounted (epoch : List Entry) : Prop where
  opens : ∀ first rest, epoch = first :: rest →
    (first.decision.status = .kFirst ∨ first.decision.status = .kRestartAfterIdle) ∧
      ∀ entry ∈ rest, entry.decision.status ≠ .kFirst ∧ entry.decision.status ≠ .kRestartAfterIdle
  baseline : ∀ first rest before entry after, epoch = first :: rest → epoch = before ++ entry :: after →
    entry.lastSequence.toNat = (first.decision.current.toNat + advance (before ++ [entry])) % 2 ^ 32
  dropped : ∀ before earlier entry after, epoch = before ++ earlier :: entry :: after →
    entry.decision.status = .kDuplicate ∨ entry.decision.status = .kBackward →
    entry.lastSequence = earlier.lastSequence
  repeated : ∀ before a between b after, epoch = before ++ a :: (between ++ b :: after) →
    a.decision.accepted = true → b.decision.accepted = true → a.decision.current = b.decision.current →
    ∃ laps, 0 < laps ∧ advance (before ++ a :: (between ++ [b])) = advance (before ++ [a]) + laps * 2 ^ 32

theorem exists_follows {first entry : Entry} {rest : List Entry} (chain : (first :: rest).IsChain Follows)
    (member : entry ∈ rest) : ∃ earlier, Follows earlier entry := by
  induction rest generalizing first with
  | nil => cases member
  | cons second rest ih =>
    obtain ⟨next, chain⟩ := List.isChain_cons_cons.mp chain
    rcases List.mem_cons.mp member with rfl | later
    · exact ⟨first, next⟩
    · exact ih chain later

theorem Linked.accepted {epoch : List Entry} {entry : Entry} (linked : Linked epoch) (member : entry ∈ epoch)
    (accepted : entry.decision.accepted = true) : entry.lastSequence = entry.decision.current := by
  cases epoch with
  | nil => cases member
  | cons first rest =>
    rcases List.mem_cons.mp member with rfl | later
    · exact (linked.begins entry rfl).baseline
    · obtain ⟨earlier, follows⟩ := exists_follows linked.follows later
      exact (follows.accepted accepted).1

theorem Linked.baseline {first entry : Entry} {rest before after : List Entry} (linked : Linked (first :: rest))
    (split : first :: rest = before ++ entry :: after) :
    entry.lastSequence.toNat = (first.decision.current.toNat + advance (before ++ [entry])) % 2 ^ 32 := by
  have begins := linked.begins first rfl
  rw [← begins.baseline, advance_eq]
  cases before with
  | nil =>
    obtain ⟨rfl, -⟩ := List.cons.inj split
    rw [List.nil_append, ModularCounter.advance_cons, begins.still]
    exact (Nat.mod_eq_of_lt first.lastSequence.toNat_lt).symm
  | cons _ between =>
    obtain ⟨rfl, rfl⟩ := List.cons.inj split
    have chain : (first :: (between ++ [entry])).IsChain Follows :=
      linked.follows.prefix ⟨after, by simp⟩
    have reads := ModularCounter.reading_of_chain (chain.imp fun _ _ follows => follows.counts)
    rw [reads, List.cons_append, ModularCounter.advance_cons, begins.still, Nat.zero_add]

theorem Linked.repeated {a b : Entry} {before between after : List Entry}
    (linked : Linked (before ++ a :: (between ++ b :: after))) (firstAccepted : a.decision.accepted = true)
    (secondAccepted : b.decision.accepted = true) (same : a.decision.current = b.decision.current) :
    ∃ laps, 0 < laps ∧ advance (before ++ a :: (between ++ [b])) = advance (before ++ [a]) + laps * 2 ^ 32 := by
  have chain : (a :: (between ++ [b])).IsChain Follows :=
    linked.follows.infix ⟨before, after, by simp⟩
  obtain ⟨earlier, follows⟩ := exists_follows chain (List.mem_append_right between (List.mem_singleton_self b))
  have level : a.lastSequence = b.lastSequence := by
    rw [linked.accepted (by simp) firstAccepted, linked.accepted (by simp) secondAccepted, same]
  obtain ⟨laps, positive, whole⟩ := ModularCounter.laps_of_same_reading (chain.imp fun _ _ follows => follows.counts)
    (congrArg UInt32.toNat level) (follows.accepted secondAccepted).2
  refine ⟨laps, positive, ?_⟩
  simp only [advance_eq, ModularCounter.advance_append, ModularCounter.advance_cons, ModularCounter.advance_nil] at whole ⊢
  omega

theorem status_of_inside {entry : Entry} (inside : beginsEpoch (some entry) = false) :
    entry.decision.status ≠ .kFirst ∧ entry.decision.status ≠ .kRestartAfterIdle := by
  simpa [beginsEpoch] using inside

theorem Linked.accounted {epoch : List Entry} (linked : Linked epoch) : Accounted epoch where
  opens := by
    rintro first rest rfl
    refine ⟨of_decide_eq_true (linked.begins first rfl).opens, fun entry member => ?_⟩
    obtain ⟨earlier, follows⟩ := exists_follows linked.follows member
    exact status_of_inside follows.inside
  baseline := by
    rintro first rest before entry after rfl split
    exact linked.baseline split
  dropped := by
    rintro before earlier entry after rfl late
    have follows := (List.isChain_append_cons_cons.mp linked.follows).2.1
    refine follows.dropped ?_
    rcases late with duplicate | backward
    · rw [SequenceDecision.accepted, duplicate]
      rfl
    · rw [SequenceDecision.accepted, backward]
      rfl
  repeated := by
    rintro before a between b after rfl
    exact linked.repeated

/-! ### A whole history -/

/-- What the tracker and the epochs of a log have to do with each other. -/
structure Records (tracker : XtSequenceTracker) (s : Segments (Option Entry)) : Prop where
  closed : ∀ segment ∈ s.closed, Linked segment.reduceOption
  current : Linked s.current.reduceOption
  baseline : tracker.initialized = true →
    ∃ entry, s.current.reduceOption.getLast? = some entry ∧ entry.lastSequence = tracker.lastSequence

theorem Records.begin {tracker next : XtSequenceTracker} {s : Segments (Option Entry)} {item : Option Entry}
    (records : Records tracker s) (cut : beginsEpoch item = true) (linked : Linked [item].reduceOption)
    (baseline : next.initialized = true → ∃ entry, item = some entry ∧ entry.lastSequence = next.lastSequence) :
    Records next (s.feed (beginsEpoch item) item) := by
  rw [cut]
  refine ⟨fun segment member => ?_, linked, fun started => ?_⟩
  · rcases List.mem_append.mp member with old | new
    · exact records.closed segment old
    · obtain rfl := List.mem_singleton.mp new
      exact records.current
  · obtain ⟨entry, rfl, same⟩ := baseline started
    exact ⟨entry, rfl, same⟩

theorem Records.handle {tracker : XtSequenceTracker} {s : Segments (Option Entry)} (records : Records tracker s)
    (event : Event) :
    Records (tracker.handle event).2 (s.feed (beginsEpoch (tracker.handle event).1) (tracker.handle event).1) := by
  cases event with
  | reset => exact records.begin rfl linked_nil nofun
  | observe sequence stamp =>
    rcases tracker.entryOf_cases (sequence, stamp) with begins | ⟨started, goesOn⟩
    · exact records.begin begins.opens (linked_singleton begins) fun _ => ⟨_, rfl, rfl⟩
    · obtain ⟨earlier, last, baseline⟩ := records.baseline started
      have follows := goesOn earlier baseline
      have grown : (s.current ++ [some (tracker.entryOf (sequence, stamp))]).reduceOption =
          s.current.reduceOption ++ [tracker.entryOf (sequence, stamp)] := List.reduceOption_append ..
      show Records (tracker.observe (sequence, stamp)).2 (s.feed (beginsEpoch (some (tracker.entryOf (sequence, stamp)))) _)
      rw [follows.inside]
      refine ⟨records.closed, ?_, fun _ => ⟨tracker.entryOf (sequence, stamp), ?_, rfl⟩⟩
      · exact grown ▸ records.current.concat last follows
      · exact grown ▸ List.getLast?_concat ..

theorem Records.history {tracker : XtSequenceTracker} {s : Segments (Option Entry)} (records : Records tracker s)
    (history : List Event) :
    Records (Observer.after XtSequenceTracker.handle tracker history)
      (s.feedAll (fun _ => beginsEpoch) (log tracker history)) := by
  induction history generalizing tracker s with
  | nil => exact records
  | cons event history ih => exact ih (records.handle event)

variable (tracker) in
theorem flatten_epochs (history : List Event) : (epochs tracker history).flatten = (log tracker history).reduceOption := by
  have whole : ((segments tracker history).closed ++ [(segments tracker history).current]).flatten = log tracker history := by
    rw [List.flatten_append, List.flatten_singleton]
    exact Segments.all_split (fun _ => beginsEpoch) (log tracker history)
  rw [← whole, List.reduceOption, List.filterMap_flatten]
  rfl

/-- Within each epoch of every history the baseline is the first number moved on by the reported advance,
dropped packets leave it, and a number comes up again only whole laps later. -/
theorem epochs_accounted (restartIdleSec : ℚ) (history : List Event) :
    (epochs (fresh restartIdleSec) history).flatten = (log (fresh restartIdleSec) history).reduceOption ∧
    ∀ epoch ∈ epochs (fresh restartIdleSec) history, Accounted epoch := by
  have start : Records (fresh restartIdleSec) Segments.empty := ⟨nofun, linked_nil, nofun⟩
  have records := start.history history
  refine ⟨flatten_epochs _ history, fun epoch member => Linked.accounted ?_⟩
  obtain ⟨segment, among, rfl⟩ := List.mem_map.mp member
  rcases List.mem_append.mp among with closed | current
  · exact records.closed segment closed
  · obtain rfl := List.mem_singleton.mp current
    exact records.current

end HesaiLidar.XtSequenceTracker
