import HesaiLidar.Library.PublishedCell
import HesaiLidar.Library.Runs
import HesaiLidar.Queue.BoundedSpscQueue

/-!
# One producer and one consumer

`try_push` and `try_pop` as two threads run them: each call is its separate steps, and a load of the
other thread's index may return any published value not older than one the thread has already seen.
`step_inv` shows that every step keeps the invariant that ties both indices, both stale views and the
slot contents to the unbounded counts of pushes and pops.
-/

namespace HesaiLidar.BoundedSpscQueue

inductive Producer (T : Type) (P : QueueParams) where
  | idle
  | loadedWrite (value : T) (write : P.Index)
  | copying (value : T) (write : P.Index) (currentSize : Nat)
  | copied (value : T) (write : P.Index) (currentSize : Nat)

inductive Consumer (T : Type) (P : QueueParams) where
  | idle
  | loadedRead (read : P.Index)
  | copying (read : P.Index)
  | copied (read : P.Index) (value : T)

/-- The shared queue, both threads, the stores each thread has seen of the other's index, and the
history: values of the successful calls in order, and every reported size with the backlog at its
publication. -/
structure Threads (T : Type) (P : QueueParams) where
  storage : P.Index → T
  readIndex : PublishedCell P.Index
  writeIndex : PublishedCell P.Index
  producer : Producer T P
  consumer : Consumer T P
  producerSeen : Nat
  consumerSeen : Nat
  pushed : List T
  popped : List T
  reported : List (Nat × Nat)

inductive Action (T : Type) where
  | pushLoadWrite (value : T)
  | pushLoadRead (k : Nat)
  | pushCopying (partial' : T)
  | pushCopy
  | pushStore
  | popLoadRead
  | popLoadWrite (k : Nat)
  | popCopy
  | popStore

variable {T : Type} {P : QueueParams}

def Threads.start (storage : P.Index → T) : Threads T P where
  storage := storage
  readIndex := .fresh (zero P)
  writeIndex := .fresh (zero P)
  producer := .idle
  consumer := .idle
  producerSeen := 0
  consumerSeen := 0
  pushed := []
  popped := []
  reported := []

/-- Values published and not yet consumed. -/
def Threads.backlog (s : Threads T P) : Nat := s.writeIndex.stores - s.readIndex.stores

/-- One step of either thread; `none` when the thread is not at that point of its call. -/
def step (s : Threads T P) : Action T → Option (Threads T P)
  | .pushLoadWrite value =>
    match s.producer with
    | .idle => some { s with producer := .loadedWrite value s.writeIndex.latest }
    | _ => none
  | .pushLoadRead k =>
    match s.producer, s.readIndex.published k with
    | .loadedWrite value write, some read =>
      if k < s.producerSeen then none
      else
        let currentSize := distance read write
        -- A call that finds `MaxDepth` values returns false here.
        some { s with
          producerSeen := k
          producer := if currentSize ≥ P.maxDepth then .idle else .copying value write currentSize }
    | _, _ => none
  | .pushCopying partial' =>
    match s.producer with
    -- The assignment is not atomic: until it ends the slot may hold anything.
    | .copying _ write _ => some { s with storage := Function.update s.storage write partial' }
    | _ => none
  | .pushCopy =>
    match s.producer with
    | .copying value write currentSize =>
      some { s with
        storage := Function.update s.storage write value
        producer := .copied value write currentSize }
    | _ => none
  | .pushStore =>
    match s.producer with
    | .copied value write currentSize =>
      let writeIndex := s.writeIndex.store (next write)
      some { s with
        writeIndex := writeIndex
        producer := .idle
        pushed := s.pushed ++ [value]
        reported := s.reported ++ [(currentSize + 1, writeIndex.stores - s.readIndex.stores)] }
    | _ => none
  | .popLoadRead =>
    match s.consumer with
    | .idle => some { s with consumer := .loadedRead s.readIndex.latest }
    | _ => none
  | .popLoadWrite k =>
    match s.consumer, s.writeIndex.published k with
    | .loadedRead read, some write =>
      if k < s.consumerSeen then none
      else some { s with consumerSeen := k, consumer := if read = write then .idle else .copying read }
    | _, _ => none
  | .popCopy =>
    match s.consumer with
    | .copying read => some { s with consumer := .copied read (s.storage read) }
    | _ => none
  | .popStore =>
    match s.consumer with
    | .copied read value =>
      some { s with
        readIndex := s.readIndex.store (next read)
        consumer := .idle
        popped := s.popped ++ [value] }
    | _ => none

/-! ### The invariant -/

def ProducerLocals (s : Threads T P) : Prop :=
  match s.producer with
  | .idle => True
  | .loadedWrite _ write => write = slot P s.writeIndex.stores
  | .copying _ write currentSize =>
    write = slot P s.writeIndex.stores ∧ s.writeIndex.stores = s.producerSeen + currentSize ∧ currentSize < P.maxDepth
  | .copied value write currentSize =>
    write = slot P s.writeIndex.stores ∧ s.writeIndex.stores = s.producerSeen + currentSize ∧
      currentSize < P.maxDepth ∧ s.storage write = value

def ConsumerLocals (s : Threads T P) : Prop :=
  match s.consumer with
  | .idle => True
  | .loadedRead read => read = slot P s.readIndex.stores
  | .copying read => read = slot P s.readIndex.stores ∧ s.readIndex.stores < s.consumerSeen
  | .copied read value =>
    read = slot P s.readIndex.stores ∧ s.readIndex.stores < s.consumerSeen ∧
      s.pushed[s.readIndex.stores]? = some value

structure Inv (s : Threads T P) : Prop where
  writes : s.writeIndex.Follows (slot P)
  reads : s.readIndex.Follows (slot P)
  pushedCount : s.pushed.length = s.writeIndex.stores
  poppedTake : s.popped = s.pushed.take s.readIndex.stores
  producerView : s.producerSeen ≤ s.readIndex.stores
  consumed : s.readIndex.stores ≤ s.consumerSeen
  consumerView : s.consumerSeen ≤ s.writeIndex.stores
  /-- A stale view of the read index only makes the producer stop earlier. -/
  depth : s.writeIndex.stores ≤ s.producerSeen + P.maxDepth
  live : ∀ i v, s.readIndex.stores ≤ i → s.pushed[i]? = some v → s.storage (slot P i) = v
  producerLocals : ProducerLocals s
  consumerLocals : ConsumerLocals s
  reports : ∀ report ∈ s.reported, report.2 ≤ report.1 ∧ report.1 ≤ P.maxDepth

theorem start_inv (storage : P.Index → T) : Inv (Threads.start storage) where
  writes := by rw [show (Threads.start storage).writeIndex = .fresh (slot P 0) by rw [slot_zero]; rfl]
               exact PublishedCell.follows_fresh _
  reads := by rw [show (Threads.start storage).readIndex = .fresh (slot P 0) by rw [slot_zero]; rfl]
              exact PublishedCell.follows_fresh _
  pushedCount := rfl
  poppedTake := rfl
  producerView := Nat.le_refl _
  consumed := Nat.le_refl _
  consumerView := Nat.le_refl _
  depth := Nat.zero_le _
  live := by simp [Threads.start]
  producerLocals := trivial
  consumerLocals := trivial
  reports := by simp [Threads.start]

theorem Inv.writeSlot_free {s : Threads T P} (inv : Inv s) {i : Nat} (consumed : s.readIndex.stores ≤ i)
    (published : i < s.writeIndex.stores) : slot P i ≠ slot P s.writeIndex.stores := by
  have room := inv.depth
  have view := inv.producerView
  have capacity := P.maxDepth_lt
  intro same
  have := (slot_eq_iff (Nat.le_of_lt published) (by omega)).mp same
  omega

theorem Inv.live_update {s : Threads T P} (inv : Inv s) (x : T) (i : Nat) (v : T)
    (consumed : s.readIndex.stores ≤ i) (h : s.pushed[i]? = some v) :
    Function.update s.storage (slot P s.writeIndex.stores) x (slot P i) = v := by
  have published : i < s.writeIndex.stores := by
    rw [← inv.pushedCount]
    exact (List.getElem?_eq_some_iff.mp h).1
  rw [Function.update_of_ne (inv.writeSlot_free consumed published)]
  exact inv.live i v consumed h

theorem pushLoadWrite_inv {s t : Threads T P} {value : T} (inv : Inv s)
    (h : step s (.pushLoadWrite value) = some t) : Inv t := by
  simp only [step] at h
  split at h
  · obtain rfl := Option.some.inj h
    exact { inv with producerLocals := inv.writes.latest, consumerLocals := inv.consumerLocals }
  · cases h

theorem pushLoadRead_inv {s t : Threads T P} {k : Nat} (inv : Inv s)
    (h : step s (.pushLoadRead k) = some t) : Inv t := by
  simp only [step] at h
  split at h
  · rename_i value write read at' loaded
    split at h
    · cases h
    rename_i fresh
    obtain rfl := Option.some.inj h
    obtain ⟨bound, rfl⟩ := inv.reads.read loaded
    have locals := inv.producerLocals
    simp only [ProducerLocals, at'] at locals
    subst locals
    have view := inv.producerView
    have consumed := inv.consumed
    have published := inv.consumerView
    have room := inv.depth
    have capacity := P.maxDepth_lt
    -- The view is old by at most `MaxDepth` pushes, so the wrapped distance is exact.
    have size : distance (slot P k) (slot P s.writeIndex.stores) = s.writeIndex.stores - k :=
      distance_slot (by omega) (by omega)
    refine { inv with producerView := bound, depth := ?_, producerLocals := ?_, consumerLocals := inv.consumerLocals }
    · show s.writeIndex.stores ≤ k + P.maxDepth
      omega
    · simp only [ProducerLocals, size]
      by_cases full : s.writeIndex.stores - k ≥ P.maxDepth
      · simp only [full, if_true]
      · simp only [full, if_false]
        exact ⟨trivial, by omega, by omega⟩
  · cases h

theorem pushCopying_inv {s t : Threads T P} {x : T} (inv : Inv s)
    (h : step s (.pushCopying x) = some t) : Inv t := by
  simp only [step] at h
  split at h
  · rename_i value write currentSize at'
    obtain rfl := Option.some.inj h
    have locals := inv.producerLocals
    simp only [ProducerLocals, at'] at locals
    obtain ⟨rfl, size, small⟩ := locals
    exact { inv with
      live := inv.live_update x
      producerLocals := by simp only [ProducerLocals, at']; exact ⟨trivial, size, small⟩
      consumerLocals := inv.consumerLocals }
  · cases h

theorem pushCopy_inv {s t : Threads T P} (inv : Inv s) (h : step s .pushCopy = some t) : Inv t := by
  simp only [step] at h
  split at h
  · rename_i value write currentSize at'
    obtain rfl := Option.some.inj h
    have locals := inv.producerLocals
    simp only [ProducerLocals, at'] at locals
    obtain ⟨rfl, size, small⟩ := locals
    exact { inv with
      live := inv.live_update value
      producerLocals := ⟨rfl, size, small, Function.update_self ..⟩
      consumerLocals := inv.consumerLocals }
  · cases h

theorem pushStore_inv {s t : Threads T P} (inv : Inv s) (h : step s .pushStore = some t) : Inv t := by
  simp only [step] at h
  split at h
  · rename_i value write currentSize at'
    obtain rfl := Option.some.inj h
    have locals := inv.producerLocals
    simp only [ProducerLocals, at'] at locals
    obtain ⟨rfl, size, small, written⟩ := locals
    have view := inv.producerView
    have behind : s.readIndex.stores ≤ s.writeIndex.stores := Nat.le_trans inv.consumed inv.consumerView
    have old : ∀ i, i < s.writeIndex.stores → (s.pushed ++ [value])[i]? = s.pushed[i]? := fun i bound =>
      List.getElem?_append_left (by rw [inv.pushedCount]; exact bound)
    refine
      { writes := inv.writes.store (next_slot _)
        reads := inv.reads
        pushedCount := by simp [inv.pushedCount]
        poppedTake := ?_
        producerView := inv.producerView
        consumed := inv.consumed
        consumerView := ?_
        depth := ?_
        live := ?_
        producerLocals := trivial
        consumerLocals := ?_
        reports := ?_ }
    · show s.popped = (s.pushed ++ [value]).take s.readIndex.stores
      rw [List.take_append_of_le_length (by rw [inv.pushedCount]; exact behind)]
      exact inv.poppedTake
    · rw [PublishedCell.stores_store]
      exact Nat.le_succ_of_le inv.consumerView
    · rw [PublishedCell.stores_store]
      show s.writeIndex.stores + 1 ≤ s.producerSeen + P.maxDepth
      omega
    · intro i v consumed read
      rcases Nat.lt_trichotomy i s.writeIndex.stores with earlier | rfl | later
      · rw [old i earlier] at read
        exact inv.live i v consumed read
      · rw [← inv.pushedCount, List.getElem?_append_right (Nat.le_refl _)] at read
        simp only [Nat.sub_self, List.getElem?_cons_zero, Option.some.injEq] at read
        exact written.trans read
      · rw [List.getElem?_eq_none (by simp [inv.pushedCount]; omega)] at read
        cases read
    · have locals := inv.consumerLocals
      unfold ConsumerLocals at locals ⊢
      dsimp only
      split <;> rename_i atConsumer <;> simp only [atConsumer] at locals ⊢
      · exact locals
      · exact locals
      · refine ⟨locals.1, locals.2.1, ?_⟩
        rw [old _ (Nat.lt_of_lt_of_le locals.2.1 inv.consumerView)]
        exact locals.2.2
    · intro report member
      rcases List.mem_append.mp member with earlier | this
      · exact inv.reports report earlier
      · obtain rfl := List.mem_singleton.mp this
        simp only [PublishedCell.stores_store]
        omega
  · cases h

theorem popLoadRead_inv {s t : Threads T P} (inv : Inv s) (h : step s .popLoadRead = some t) : Inv t := by
  simp only [step] at h
  split at h
  · obtain rfl := Option.some.inj h
    exact { inv with producerLocals := inv.producerLocals, consumerLocals := inv.reads.latest }
  · cases h

theorem popLoadWrite_inv {s t : Threads T P} {k : Nat} (inv : Inv s)
    (h : step s (.popLoadWrite k) = some t) : Inv t := by
  simp only [step] at h
  split at h
  · rename_i read write at' loaded
    split at h
    · cases h
    rename_i fresh
    obtain rfl := Option.some.inj h
    obtain ⟨bound, rfl⟩ := inv.writes.read loaded
    have locals := inv.consumerLocals
    simp only [ConsumerLocals, at'] at locals
    subst locals
    have consumed := inv.consumed
    have view := inv.producerView
    have room := inv.depth
    have capacity := P.maxDepth_lt
    -- Equal slots mean an empty view because the view is less than a turn ahead.
    have empty : slot P s.readIndex.stores = slot P k ↔ s.readIndex.stores = k :=
      slot_eq_iff (by omega) (by omega)
    refine { inv with consumed := ?_, consumerView := bound, producerLocals := inv.producerLocals, consumerLocals := ?_ }
    · show s.readIndex.stores ≤ k
      omega
    · simp only [ConsumerLocals, empty]
      by_cases same : s.readIndex.stores = k
      · simp only [same, if_true]
      · simp only [same, if_false]
        exact ⟨trivial, by omega⟩
  · cases h

theorem popCopy_inv {s t : Threads T P} (inv : Inv s) (h : step s .popCopy = some t) : Inv t := by
  simp only [step] at h
  split at h
  · rename_i read at'
    obtain rfl := Option.some.inj h
    have locals := inv.consumerLocals
    simp only [ConsumerLocals, at'] at locals
    obtain ⟨rfl, ahead⟩ := locals
    have published : s.readIndex.stores < s.pushed.length := by
      rw [inv.pushedCount]
      exact Nat.lt_of_lt_of_le ahead inv.consumerView
    have content := inv.live _ _ (Nat.le_refl _) (List.getElem?_eq_getElem published)
    exact { inv with
      producerLocals := inv.producerLocals
      consumerLocals := ⟨rfl, ahead, (List.getElem?_eq_getElem published).trans (congrArg some content.symm)⟩ }
  · cases h

theorem popStore_inv {s t : Threads T P} (inv : Inv s) (h : step s .popStore = some t) : Inv t := by
  simp only [step] at h
  split at h
  · rename_i read value at'
    obtain rfl := Option.some.inj h
    have locals := inv.consumerLocals
    simp only [ConsumerLocals, at'] at locals
    obtain ⟨rfl, ahead, returned⟩ := locals
    have view := inv.producerView
    exact
      { writes := inv.writes
        reads := inv.reads.store (next_slot _)
        pushedCount := inv.pushedCount
        poppedTake := by
          rw [PublishedCell.stores_store, List.take_add_one, returned]
          exact congrArg (· ++ [value]) inv.poppedTake
        producerView := by rw [PublishedCell.stores_store]; exact Nat.le_succ_of_le view
        consumed := by rw [PublishedCell.stores_store]; exact ahead
        consumerView := inv.consumerView
        depth := inv.depth
        live := by
          intro i v consumed read
          rw [PublishedCell.stores_store] at consumed
          exact inv.live i v (by omega) read
        producerLocals := inv.producerLocals
        consumerLocals := trivial
        reports := inv.reports }
  · cases h

theorem step_inv {s t : Threads T P} {action : Action T} (inv : Inv s) (h : step s action = some t) : Inv t := by
  cases action with
  | pushLoadWrite value => exact pushLoadWrite_inv inv h
  | pushLoadRead k => exact pushLoadRead_inv inv h
  | pushCopying x => exact pushCopying_inv inv h
  | pushCopy => exact pushCopy_inv inv h
  | pushStore => exact pushStore_inv inv h
  | popLoadRead => exact popLoadRead_inv inv h
  | popLoadWrite k => exact popLoadWrite_inv inv h
  | popCopy => exact popCopy_inv inv h
  | popStore => exact popStore_inv inv h

theorem run_inv {storage : P.Index → T} {actions : List (Action T)} {s : Threads T P}
    (h : actions.foldlM step (Threads.start storage) = some s) : Inv s :=
  (Runs.run_of_foldlM_some h).invariant step_inv (start_inv storage)

/-- The slot under the producer's hands is in no published and unconsumed position. -/
theorem Inv.writing_free {s : Threads T P} (inv : Inv s) {value : T} {write : P.Index} {currentSize : Nat}
    (writing : s.producer = .copying value write currentSize) {i : Nat} (consumed : s.readIndex.stores ≤ i)
    (published : i < s.writeIndex.stores) : s.writeIndex.published i ≠ some write := by
  have locals := inv.producerLocals
  simp only [ProducerLocals, writing] at locals
  rw [inv.writes i (Nat.le_of_lt published), locals.1]
  intro same
  exact inv.writeSlot_free consumed published (Option.some.inj same)

theorem Inv.writing_ne_reading {s : Threads T P} (inv : Inv s) {value : T} {write read : P.Index} {currentSize : Nat}
    (writing : s.producer = .copying value write currentSize) (reading : s.consumer = .copying read) :
    write ≠ read := by
  have locals := inv.consumerLocals
  simp only [ConsumerLocals, reading] at locals
  obtain ⟨rfl, ahead⟩ := locals
  have published : s.readIndex.stores < s.writeIndex.stores := Nat.lt_of_lt_of_le ahead inv.consumerView
  rintro rfl
  apply inv.writing_free writing (Nat.le_refl _) published
  exact inv.writes _ (Nat.le_of_lt published)

theorem Inv.backlog_le {s : Threads T P} (inv : Inv s) : s.backlog ≤ P.maxDepth := by
  have room := inv.depth
  have view := inv.producerView
  unfold Threads.backlog
  omega

structure Threads.Carries (offered : T → Prop) (s : Threads T P) : Prop where
  pushed : ∀ value ∈ s.pushed, offered value
  pushing : match s.producer with
    | .idle => True
    | .loadedWrite value _ => offered value
    | .copying value _ _ => offered value
    | .copied value _ _ => offered value

/-- Every interleaving of the two threads hands over exactly the accepted values in order, keeps the
threads out of each other's slots, and never publishes more than `MaxDepth` values. -/
theorem interleaving_exact {storage : P.Index → T} {actions : List (Action T)} {s : Threads T P}
    (h : actions.foldlM step (Threads.start storage) = some s) :
    s.popped <+: s.pushed ∧
    (∀ value write currentSize, s.producer = .copying value write currentSize →
      (∀ i, s.readIndex.stores ≤ i → i < s.writeIndex.stores → s.writeIndex.published i ≠ some write) ∧
      ∀ read, s.consumer = .copying read → write ≠ read) ∧
    s.backlog ≤ P.maxDepth ∧
    ∀ report ∈ s.reported, report.2 ≤ report.1 ∧ report.1 ≤ P.maxDepth := by
  have inv := run_inv h
  refine ⟨?_, ?_, inv.backlog_le, inv.reports⟩
  · rw [inv.poppedTake]
    exact List.take_prefix _ _
  · intro value write currentSize writing
    exact ⟨fun i consumed published => inv.writing_free writing consumed published,
      fun read reading => inv.writing_ne_reading writing reading⟩

/-- Two values through two slots: the consumer loads its own index before the second value is
published, and both indices wrap. -/
def wrappedActions : List (Action Nat) :=
  [.pushLoadWrite 7, .pushLoadRead 0, .pushCopying 3, .pushCopy, .pushStore, .popLoadRead, .pushLoadWrite 8,
    .popLoadWrite 1, .popCopy, .popStore, .pushLoadRead 1, .pushCopy, .pushStore, .popLoadRead, .popLoadWrite 2,
    .popCopy, .popStore]

theorem interleaving_exact_wrapped :
    ∃ s : Threads Nat ⟨2, 1, by decide, by decide, by decide⟩,
      wrappedActions.foldlM step (Threads.start fun _ => 0) = some s ∧ s.popped = [7, 8] ∧ s.popped <+: s.pushed := by
  have popped : (wrappedActions.foldlM step
      (Threads.start (P := ⟨2, 1, by decide, by decide, by decide⟩) fun _ => 0)).map Threads.popped = some [7, 8] := by
    decide
  obtain ⟨s, run, values⟩ := Option.map_eq_some_iff.mp popped
  exact ⟨s, run, values, (interleaving_exact run).1⟩

end HesaiLidar.BoundedSpscQueue
