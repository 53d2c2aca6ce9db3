import HesaiLidar.Queue.Interleaving

/-!
# What the steps of a call change

A program that runs the two threads around the queue sees a step of a call as one of four kinds: the begin of
a push, the store that completes it, the store that completes a pop, or a step in between.
-/

namespace HesaiLidar.BoundedSpscQueue

variable {T : Type} {P : QueueParams} {q q' : Threads T P}

/-- Steps within a call: they neither begin a push nor complete a push or a pop. -/
def Action.Within : Action T → Prop
  | .pushLoadWrite _ => False
  | .pushStore => False
  | .popStore => False
  | _ => True

theorem step_within {action : Action T} (h : step q action = some q') (within : action.Within) :
    q'.pushed = q.pushed ∧ q'.popped = q.popped ∧ q'.backlog = q.backlog ∧ (q'.producer ≠ .idle → q.producer ≠ .idle) ∧
      (q'.consumer ≠ .idle → q.consumer ≠ .idle ∨ action = .popLoadRead) := by
  cases action with
  | pushLoadWrite => cases within
  | pushStore => cases within
  | popStore => cases within
  | pushLoadRead k =>
    simp only [step] at h
    split at h
    · rename_i at' _
      split at h
      · cases h
      obtain rfl := Option.some.inj h
      exact ⟨rfl, rfl, rfl, fun _ => by rw [at']; rintro ⟨⟩, .inl⟩
    · cases h
  | pushCopying | pushCopy =>
    simp only [step] at h
    split at h
    · rename_i at'
      obtain rfl := Option.some.inj h
      exact ⟨rfl, rfl, rfl, fun _ => by rw [at']; rintro ⟨⟩, .inl⟩
    · cases h
  | popLoadRead =>
    simp only [step] at h
    split at h
    · obtain rfl := Option.some.inj h
      exact ⟨rfl, rfl, rfl, id, fun _ => .inr rfl⟩
    · cases h
  | popLoadWrite k =>
    simp only [step] at h
    split at h
    · rename_i at' _
      split at h
      · cases h
      obtain rfl := Option.some.inj h
      exact ⟨rfl, rfl, rfl, id, fun _ => .inl (by rw [at']; rintro ⟨⟩)⟩
    · cases h
  | popCopy =>
    simp only [step] at h
    split at h
    · rename_i at'
      obtain rfl := Option.some.inj h
      exact ⟨rfl, rfl, rfl, id, fun _ => .inl (by rw [at']; rintro ⟨⟩)⟩
    · cases h

theorem step_pushStore {value : T} {write : P.Index} {size : Nat}
    (copied : q.producer = .copied value write size) (h : step q .pushStore = some q') :
    q'.producer = .idle ∧ q'.consumer = q.consumer ∧ q'.pushed = q.pushed ++ [value] ∧ q'.popped = q.popped := by
  simp only [step, copied] at h
  obtain rfl := Option.some.inj h
  exact ⟨rfl, rfl, rfl, rfl⟩

theorem step_popStore {q q' : Threads T P} {read : P.Index} {value : T}
    (copied : q.consumer = .copied read value) (h : step q .popStore = some q') :
    q'.consumer = .idle ∧ q'.producer = q.producer ∧ q'.pushed = q.pushed ∧ q'.popped = q.popped ++ [value] := by
  simp only [step, copied] at h
  obtain rfl := Option.some.inj h
  exact ⟨rfl, rfl, rfl, rfl⟩

theorem step_pushLoadWrite {value : T} (h : step q (.pushLoadWrite value) = some q') :
    q.producer = .idle ∧ q'.consumer = q.consumer ∧ q'.pushed = q.pushed ∧ q'.popped = q.popped := by
  simp only [step] at h
  split at h
  · rename_i idle
    obtain rfl := Option.some.inj h
    exact ⟨idle, rfl, rfl, rfl⟩
  · cases h

/-- The backlog is what was pushed and not popped. -/
theorem Inv.backlog (inv : Inv q) : q.popped.length + q.backlog = q.pushed.length := by
  have behind := Nat.le_trans inv.consumed inv.consumerView
  rw [inv.poppedTake, List.length_take, inv.pushedCount, Threads.backlog]
  omega

end HesaiLidar.BoundedSpscQueue
