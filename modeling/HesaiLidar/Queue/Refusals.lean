import HesaiLidar.Queue.Interleaving

/-!
# Refused values

A full queue refuses a value and the producer goes on with the next one, so that every offered value ends up
pushed or refused, whatever the schedule.
-/

namespace HesaiLidar.BoundedSpscQueue

variable {T : Type} {P : QueueParams} {s t : Threads T P} {action : Action T} {actions : List (Action T)}

def Action.offer : Action T → Option T
  | .pushLoadWrite value => some value
  | _ => none

/-- The values the producer calls `try_push` with, in order. -/
def offers (actions : List (Action T)) : List T := actions.filterMap Action.offer

def Threads.inFlight (s : Threads T P) : Option T :=
  match s.producer with
  | .idle => none
  | .loadedWrite value _ => some value
  | .copying value _ _ => some value
  | .copied value _ _ => some value

/-- The value of a call that finds `MaxDepth` values. -/
def Threads.refused (s : Threads T P) : Action T → Option T
  | .pushLoadRead k =>
    match s.producer, s.readIndex.published k with
    | .loadedWrite value write, some read =>
      if k < s.producerSeen then none else if distance read write ≥ P.maxDepth then some value else none
    | _, _ => none
  | _ => none

def refusals (s : Threads T P) : List (Action T) → List T
  | [] => []
  | action :: actions =>
    (s.refused action).toList ++
      match step s action with
      | some t => refusals t actions
      | none => []

/-! ### Accounts -/

/-- The values pushed so far and the one under way. -/
def Threads.taken (s : Threads T P) : List T := s.pushed ++ s.inFlight.toList

theorem taken_of_idle (idle : s.producer = .idle) : s.taken = s.pushed := by
  unfold Threads.taken Threads.inFlight
  rw [idle]
  exact List.append_nil _

theorem step_accounts (h : step s action = some t) :
    t.taken ++ (s.refused action).toList = s.taken ++ action.offer.toList := by
  unfold Threads.taken Threads.inFlight Threads.refused Action.offer
  cases action with
  | pushLoadWrite value =>
    simp only [step] at h
    split at h
    · rename_i idle
      obtain rfl := Option.some.inj h
      simp [idle]
    · cases h
  | pushLoadRead k =>
    simp only [step] at h
    split at h
    · rename_i value write read at' loaded
      split at h
      · cases h
      rename_i fresh
      obtain rfl := Option.some.inj h
      by_cases full : distance read write ≥ P.maxDepth
      · simp [at', loaded, fresh, full]
      · simp [at', loaded, fresh, full]
    · cases h
  | pushCopying _ | popLoadRead | popCopy | popStore =>
    simp only [step] at h
    split at h
    · obtain rfl := Option.some.inj h
      rfl
    · cases h
  | pushCopy | pushStore =>
    simp only [step] at h
    split at h
    · rename_i value write currentSize at'
      obtain rfl := Option.some.inj h
      simp [at']
    · cases h
  | popLoadWrite k =>
    simp only [step] at h
    split at h
    · split at h
      · cases h
      obtain rfl := Option.some.inj h
      rfl
    · cases h

theorem offers_cons : offers (action :: actions) = action.offer.toList ++ offers actions := by
  unfold offers
  cases offered : action.offer <;> simp [offered]

/-- Over a run, what is taken keeps its order and what is missing was refused. -/
theorem run_accounts (h : actions.foldlM step s = some t) :
    t.taken.Sublist (s.taken ++ offers actions) ∧
      (t.taken ++ refusals s actions).Perm (s.taken ++ offers actions) := by
  induction actions generalizing s with
  | nil =>
    obtain rfl : s = t := Option.some.inj h
    rw [refusals, offers, List.filterMap_nil, List.append_nil]
    exact ⟨.refl _, .refl _⟩
  | cons action actions ih =>
    rw [List.foldlM_cons] at h
    obtain ⟨m, first, rest⟩ := Option.bind_eq_some_iff.mp h
    obtain ⟨ordered, all⟩ := ih rest
    have account := step_accounts first
    rw [offers_cons, refusals, first, ← List.append_assoc, ← account]
    constructor
    · refine ordered.trans ?_
      exact (List.sublist_append_left ..).append (.refl _)
    · have refusedFirst : (t.taken ++ (s.refused action).toList).Perm ((s.refused action).toList ++ t.taken) :=
        List.perm_append_comm
      have takenFirst : ((s.refused action).toList ++ m.taken).Perm (m.taken ++ (s.refused action).toList) :=
        List.perm_append_comm
      rw [← List.append_assoc]
      refine (refusedFirst.append_right _).trans ?_
      rw [List.append_assoc]
      refine (all.append_left _).trans ?_
      rw [← List.append_assoc]
      exact takenFirst.append_right _

section Finished

variable {storage : P.Index → T} (run : actions.foldlM step (.start storage) = some t) (finished : t.producer = .idle)
include run finished

theorem pushed_sublist_offers : t.pushed.Sublist (offers actions) := by
  have ordered := (run_accounts run).1
  rwa [taken_of_idle finished, taken_of_idle rfl] at ordered

/-- Everything offered is pushed exactly when nothing is refused. -/
theorem pushed_eq_offers_iff : t.pushed = offers actions ↔ refusals (.start storage) actions = [] := by
  have ordered := pushed_sublist_offers run finished
  have all := (run_accounts run).2
  rw [taken_of_idle finished, taken_of_idle rfl] at all
  have counts := all.length_eq
  rw [List.length_append] at counts
  rw [show (Threads.start storage).pushed ++ offers actions = offers actions from rfl] at counts
  constructor
  · intro whole
    rw [← whole] at counts
    exact List.eq_nil_of_length_eq_zero (by omega)
  · intro none
    rw [none, List.length_nil] at counts
    exact ordered.eq_of_length counts

end Finished

/-! ### How many values fit -/

theorem Inv.refused_behind (inv : Inv s) {value : T} (refused : s.refused action = some value) :
    P.maxDepth < s.taken.length := by
  unfold Threads.refused at refused
  split at refused
  · split at refused
    · rename_i k _ _ value write read at' loaded
      split at refused
      · cases refused
      split at refused
      · rename_i fresh full
        obtain ⟨bound, rfl⟩ := inv.reads.read loaded
        have locals := inv.producerLocals
        simp only [ProducerLocals, at'] at locals
        subst locals
        have room := inv.depth
        have capacity := P.maxDepth_lt
        have consumed := inv.consumed
        have published := inv.consumerView
        have count := inv.pushedCount
        rw [distance_slot (by omega) (by omega)] at full
        unfold Threads.taken Threads.inFlight
        rw [at', List.length_append]
        show P.maxDepth < s.pushed.length + 1
        omega
      · cases refused
    · cases refused
  · cases refused

theorem refusals_eq_nil (inv : Inv s) (few : s.taken.length + (offers actions).length ≤ P.maxDepth) :
    refusals s actions = [] := by
  induction actions generalizing s with
  | nil => rfl
  | cons action actions ih =>
    rw [offers_cons, List.length_append] at few
    rw [refusals]
    cases refused : s.refused action with
    | some value =>
      have behind := inv.refused_behind refused
      omega
    | none =>
      cases next : step s action with
      | none => rfl
      | some m =>
        have account := congrArg List.length (step_accounts next)
        rw [refused, List.length_append, List.length_append] at account
        refine ih (step_inv inv next) ?_
        simp only [Option.toList_none, List.length_nil] at account
        omega

/-! ### The producer alone -/

def pushOne (value : T) : List (Action T) := [.pushLoadWrite value, .pushLoadRead 0, .pushCopy, .pushStore]

def refuseOne (value : T) : List (Action T) := [.pushLoadWrite value, .pushLoadRead 0]

/-- A schedule in which the consumer never runs. -/
def producerAlone (P : QueueParams) (values : List T) : List (Action T) :=
  (values.take P.maxDepth).flatMap pushOne ++ (values.drop P.maxDepth).flatMap refuseOne

/-- Between two calls of a producer that has been alone so far. -/
structure Threads.Alone (s : Threads T P) : Prop where
  inv : Inv s
  idle : s.producer = .idle
  readIndex : s.readIndex = .fresh (zero P)
  producerSeen : s.producerSeen = 0

theorem start_alone (storage : P.Index → T) : (Threads.start storage).Alone := ⟨start_inv storage, rfl, rfl, rfl⟩

theorem Threads.Alone.size (alone : s.Alone) : distance (zero P) s.writeIndex.latest = s.pushed.length := by
  have room := alone.inv.depth
  have capacity := P.maxDepth_lt
  rw [alone.producerSeen] at room
  rw [alone.inv.writes.latest, ← slot_zero, distance_slot (Nat.zero_le _) (by omega), alone.inv.pushedCount, Nat.sub_zero]

theorem Threads.Alone.pushOne (alone : s.Alone) (room : s.pushed.length < P.maxDepth) (value : T) :
    ∃ t, (pushOne value).foldlM step s = some t ∧ t.Alone ∧ t.pushed = s.pushed ++ [value] := by
  have size := alone.size
  have run : (BoundedSpscQueue.pushOne value).foldlM step s = some { s with
      storage := Function.update s.storage s.writeIndex.latest value
      writeIndex := s.writeIndex.store (next s.writeIndex.latest)
      producer := .idle
      producerSeen := 0
      pushed := s.pushed ++ [value]
      reported := s.reported ++ [(s.pushed.length + 1, s.writeIndex.stores + 1)] } := by
    simp [BoundedSpscQueue.pushOne, step, alone.idle, alone.readIndex, alone.producerSeen, PublishedCell.published,
      PublishedCell.fresh, size, Nat.not_le_of_lt room, PublishedCell.stores,
      PublishedCell.store]
  refine ⟨_, run, ⟨?_, rfl, alone.readIndex, rfl⟩, rfl⟩
  exact (Runs.run_of_foldlM_some run).invariant step_inv alone.inv

theorem Threads.Alone.refuseOne (alone : s.Alone) (full : s.pushed.length = P.maxDepth) (value : T) :
    (refuseOne value).foldlM step s = some s := by
  have size := alone.size
  have idle := alone.idle
  have readIndex := alone.readIndex
  have producerSeen := alone.producerSeen
  cases s
  dsimp only at size full idle readIndex producerSeen
  subst idle readIndex producerSeen
  simp [BoundedSpscQueue.refuseOne, step, PublishedCell.published, PublishedCell.fresh, size, full]

theorem Threads.Alone.pushAll (alone : s.Alone) {values : List T} (room : s.pushed.length + values.length ≤ P.maxDepth) :
    ∃ t, (values.flatMap BoundedSpscQueue.pushOne).foldlM step s = some t ∧ t.Alone ∧ t.pushed = s.pushed ++ values := by
  induction values generalizing s with
  | nil => exact ⟨s, rfl, alone, (List.append_nil _).symm⟩
  | cons value values ih =>
    rw [List.length_cons] at room
    obtain ⟨m, first, next, pushed⟩ := alone.pushOne (by omega) value
    obtain ⟨t, rest, last, all⟩ := ih next (by rw [pushed, List.length_append, List.length_singleton]; omega)
    refine ⟨t, ?_, last, ?_⟩
    · rw [List.flatMap_cons, List.foldlM_append, first]
      exact rest
    · rw [all, pushed, List.append_assoc, List.singleton_append]

theorem Threads.Alone.refuseAll (alone : s.Alone) (full : s.pushed.length = P.maxDepth) (values : List T) :
    (values.flatMap BoundedSpscQueue.refuseOne).foldlM step s = some s := by
  induction values with
  | nil => rfl
  | cons value values ih =>
    rw [List.flatMap_cons, List.foldlM_append, alone.refuseOne full value]
    exact ih

theorem offers_append (first second : List (Action T)) : offers (first ++ second) = offers first ++ offers second :=
  List.filterMap_append ..

theorem offers_flatMap {call : T → List (Action T)} (offered : ∀ value, offers (call value) = [value]) (values : List T) :
    offers (values.flatMap call) = values := by
  induction values with
  | nil => rfl
  | cons value values ih => rw [List.flatMap_cons, offers_append, offered, ih, List.singleton_append]

theorem offers_producerAlone (values : List T) : offers (producerAlone P values) = values := by
  unfold producerAlone
  rw [offers_append, offers_flatMap (fun _ => rfl), offers_flatMap (fun _ => rfl), List.take_append_drop]

theorem producerAlone_run (storage : P.Index → T) (values : List T) :
    ∃ t, (producerAlone P values).foldlM step (.start storage) = some t ∧ t.producer = .idle ∧
      t.pushed = values.take P.maxDepth := by
  have few : 0 + (values.take P.maxDepth).length ≤ P.maxDepth := by
    rw [Nat.zero_add]
    exact List.length_take_le ..
  obtain ⟨t, run, alone, pushed⟩ := (start_alone storage).pushAll few
  rw [show (Threads.start storage).pushed ++ values.take P.maxDepth = values.take P.maxDepth from rfl] at pushed
  refine ⟨t, ?_, alone.idle, pushed⟩
  unfold producerAlone
  rw [List.foldlM_append, run]
  rcases Nat.lt_or_ge P.maxDepth values.length with more | all
  · apply alone.refuseAll
    rw [pushed, List.length_take]
    omega
  · rw [List.drop_eq_nil_of_le all]
    rfl

theorem lossless_iff (values : List T) :
    (∀ (storage : P.Index → T) (actions : List (Action T)) (t : Threads T P),
      actions.foldlM step (.start storage) = some t → offers actions = values → t.producer = .idle → t.pushed = values) ↔
    values.length ≤ P.maxDepth := by
  constructor
  · intro lossless
    cases values with
    | nil => exact Nat.zero_le _
    | cons value values =>
      obtain ⟨t, run, idle, pushed⟩ := producerAlone_run (P := P) (fun _ => value) (value :: values)
      have whole := lossless _ _ t run (offers_producerAlone _) idle
      rw [← whole, pushed]
      exact List.length_take_le ..
  · intro few storage actions t run offered idle
    rw [← offered] at few ⊢
    apply (pushed_eq_offers_iff run idle).mpr
    apply refusals_eq_nil (start_inv storage)
    rw [taken_of_idle rfl]
    show 0 + (offers actions).length ≤ P.maxDepth
    rwa [Nat.zero_add]

end HesaiLidar.BoundedSpscQueue
