import HesaiLidar.Library.Runs
import Mathlib.Data.Finset.Basic
import Mathlib.Algebra.Order.Group.Multiset
import Mathlib.Tactic.Abel

/-!
# LatestValueMailbox

The single-slot handoff of `latest_value_mailbox.h`: its critical sections, and any number of threads
that run them with the sleeping and waking of the condition variable.
-/

namespace HesaiLidar

inductive LatestValuePushResult where
  | kStored
  | kReplaced
  | kStopped
  deriving DecidableEq, Repr

/-- What the mutex protects. -/
structure LatestValueMailbox (T : Type) where
  pending : Option T
  stopped : Bool
  deriving DecidableEq, Repr

namespace LatestValueMailbox

variable {T : Type}

def empty : LatestValueMailbox T := ⟨none, false⟩

def push (mailbox : LatestValueMailbox T) (value : T) : LatestValuePushResult × LatestValueMailbox T :=
  if mailbox.stopped then (.kStopped, mailbox)
  else (if mailbox.pending.isSome then .kReplaced else .kStored, { mailbox with pending := some value })

def ready (mailbox : LatestValueMailbox T) : Bool := mailbox.stopped || mailbox.pending.isSome

/-- The end of `wait_pop`; without a value it returns false. -/
def pop (mailbox : LatestValueMailbox T) : Option T × LatestValueMailbox T :=
  (mailbox.pending, { mailbox with pending := none })

def stop (mailbox : LatestValueMailbox T) : LatestValueMailbox T := { mailbox with pending := none, stopped := true }

/-! ### Threads -/

/-- The mailbox, the threads asleep in `wait_pop`, those woken that wait for the mutex, and the history:
the values of accepted pushes, all push results, and where the values have gone. -/
structure Threads (ι T : Type) where
  mailbox : LatestValueMailbox T
  sleeping : Finset ι
  woken : Finset ι
  accepted : List T
  results : List LatestValuePushResult
  popped : List T
  overwritten : List T
  discarded : List T

/-- `push` names the waiter its notification wakes, `none` where nobody sleeps. -/
inductive Action (ι T : Type) where
  | push (thread : ι) (value : T) (wakes : Option ι)
  | waitPop (thread : ι)
  | reacquire (thread : ι)
  | spuriousWake (thread : ι)
  | stop (thread : ι)

namespace Threads

variable {ι : Type} [DecidableEq ι]

def start : Threads ι T := ⟨empty, ∅, ∅, [], [], [], [], []⟩

def Running (s : Threads ι T) (thread : ι) : Prop := thread ∉ s.sleeping ∧ thread ∉ s.woken

instance (s : Threads ι T) (thread : ι) : Decidable (s.Running thread) := inferInstanceAs (Decidable (_ ∧ _))

def wake (s : Threads ι T) (waiter : ι) : Threads ι T :=
  { s with sleeping := s.sleeping.erase waiter, woken := insert waiter s.woken }

def notifyOne (s : Threads ι T) : Option ι → Option (Threads ι T)
  | none => if s.sleeping = ∅ then some s else none
  | some waiter => if waiter ∈ s.sleeping then some (s.wake waiter) else none

def notifyAll (s : Threads ι T) : Threads ι T := { s with sleeping := ∅, woken := s.woken ∪ s.sleeping }

/-- A thread that holds the mutex tests the condition: it pops and leaves, or goes to sleep. -/
def check (s : Threads ι T) (thread : ι) : Threads ι T :=
  if s.mailbox.ready then
    let (value, mailbox) := s.mailbox.pop
    { s with mailbox, woken := s.woken.erase thread, popped := s.popped ++ value.toList }
  else { s with woken := s.woken.erase thread, sleeping := insert thread s.sleeping }

def store (s : Threads ι T) (value : T) (result : LatestValuePushResult) (mailbox : LatestValueMailbox T) :
    Threads ι T :=
  { s with
    mailbox
    accepted := s.accepted ++ [value]
    results := s.results ++ [result]
    overwritten := s.overwritten ++ s.mailbox.pending.toList }

/-- One critical section or one wake-up; `none` when the thread cannot take it. -/
def step (s : Threads ι T) : Action ι T → Option (Threads ι T)
  | .push thread value wakes =>
    if s.Running thread then
      match s.mailbox.push value with
      | (.kStopped, _) => some { s with results := s.results ++ [.kStopped] }
      | (result, mailbox) => (s.store value result mailbox).notifyOne wakes
    else none
  | .waitPop thread => if s.Running thread then some (s.check thread) else none
  | .reacquire thread => if thread ∈ s.woken then some (s.check thread) else none
  | .spuriousWake thread => if thread ∈ s.sleeping then some (s.wake thread) else none
  | .stop thread =>
    if s.Running thread then
      some { s with
        mailbox := s.mailbox.stop
        discarded := s.discarded ++ s.mailbox.pending.toList }.notifyAll
    else none

/-! ### What a step can do -/

variable {s t : Threads ι T}

def stopAll (s : Threads ι T) : Threads ι T :=
  { s with mailbox := s.mailbox.stop, discarded := s.discarded ++ s.mailbox.pending.toList }.notifyAll

theorem notifyOne_cases {wakes : Option ι} (h : s.notifyOne wakes = some t) :
    s.sleeping = ∅ ∧ t = s ∨ ∃ waiter, t = s.wake waiter := by
  cases wakes with
  | none =>
    by_cases asleep : s.sleeping = ∅
    · rw [notifyOne, if_pos asleep] at h
      exact .inl ⟨asleep, (Option.some.inj h).symm⟩
    · rw [notifyOne, if_neg asleep] at h
      cases h
  | some waiter =>
    by_cases asleep : waiter ∈ s.sleeping
    · rw [notifyOne, if_pos asleep] at h
      exact .inr ⟨waiter, (Option.some.inj h).symm⟩
    · rw [notifyOne, if_neg asleep] at h
      cases h

/-- A refused push, a store with its notification, a test of the condition, a wake-up, or `stop`. -/
theorem step_cases {action : Action ι T} (h : s.step action = some t) :
    s.mailbox.stopped = true ∧ t = { s with results := s.results ++ [.kStopped] } ∨
    (∃ value u, s.mailbox.stopped = false ∧ (s.sleeping = ∅ ∧ u = s ∨ ∃ waiter, u = s.wake waiter) ∧
      t = u.store value (if s.mailbox.pending.isSome then .kReplaced else .kStored)
        { s.mailbox with pending := some value }) ∨
    (∃ thread, t = s.check thread) ∨ (∃ waiter, t = s.wake waiter) ∨ t = s.stopAll := by
  cases action with
  | push thread value wakes =>
    unfold step at h
    dsimp only at h
    split at h
    · cases stopped : s.mailbox.stopped with
      | true =>
        rw [push, if_pos stopped] at h
        exact .inl ⟨rfl, (Option.some.inj h).symm⟩
      | false =>
        right
        left
        have pushed : (s.store value (if s.mailbox.pending.isSome then .kReplaced else .kStored)
            { s.mailbox with pending := some value }).notifyOne wakes = some t := by
          rw [push, if_neg (by simp [stopped])] at h
          cases pending : s.mailbox.pending <;> simp only [pending] at h ⊢ <;> exact h
        rcases notifyOne_cases pushed with ⟨asleep, rfl⟩ | ⟨waiter, rfl⟩
        · exact ⟨value, s, rfl, .inl ⟨asleep, rfl⟩, rfl⟩
        · exact ⟨value, _, rfl, .inr ⟨waiter, rfl⟩, rfl⟩
    · cases h
  | waitPop thread =>
    simp only [step] at h
    split at h
    · exact .inr (.inr (.inl ⟨thread, (Option.some.inj h).symm⟩))
    · cases h
  | reacquire thread =>
    simp only [step] at h
    split at h
    · exact .inr (.inr (.inl ⟨thread, (Option.some.inj h).symm⟩))
    · cases h
  | spuriousWake thread =>
    simp only [step] at h
    split at h
    · exact .inr (.inr (.inr (.inl ⟨thread, (Option.some.inj h).symm⟩)))
    · cases h
  | stop thread =>
    simp only [step] at h
    split at h
    · exact .inr (.inr (.inr (.inr (Option.some.inj h).symm)))
    · cases h

/-! ### The invariant -/

structure Inv (s : Threads ι T) : Prop where
  order : (s.popped ++ s.mailbox.pending.toList).Sublist s.accepted
  latest : ∀ value, s.mailbox.pending = some value → s.accepted.getLast? = some value
  values : (s.accepted : Multiset T) = s.popped + s.overwritten + s.discarded + s.mailbox.pending.toList
  stored : s.results.count .kStored = s.popped.length + s.mailbox.pending.toList.length + s.discarded.length
  replaced : s.results.count .kReplaced = s.overwritten.length
  halted : s.mailbox.stopped = true → s.mailbox.pending = none ∧ s.sleeping = ∅
  /-- A pending value has a thread under way to it, unless nobody sleeps. -/
  awake : s.mailbox.pending ≠ none → s.sleeping = ∅ ∨ s.woken.Nonempty

variable {thread waiter : ι} {value : T}

omit [DecidableEq ι] in
theorem start_inv : (start : Threads ι T).Inv where
  order := List.Sublist.refl []
  latest := nofun
  values := rfl
  stored := rfl
  replaced := rfl
  halted := nofun
  awake := fun pending => absurd rfl pending

theorem wake_inv (inv : s.Inv) : (s.wake waiter).Inv where
  order := inv.order
  latest := inv.latest
  values := inv.values
  stored := inv.stored
  replaced := inv.replaced
  halted := by
    intro stopped
    obtain ⟨empty, asleep⟩ := inv.halted stopped
    exact ⟨empty, by simp [wake, asleep]⟩
  awake := fun _ => .inr ⟨waiter, Finset.mem_insert_self ..⟩

theorem check_inv (inv : s.Inv) : (s.check thread).Inv := by
  unfold check
  split
  · refine
      { order := ?_
        latest := nofun
        values := ?_
        stored := ?_
        replaced := inv.replaced
        halted := ?_
        awake := fun pending => absurd rfl pending }
    · simpa [pop] using inv.order
    · simp only [pop, ← Multiset.coe_add, inv.values, Option.toList_none, Multiset.coe_nil]
      abel
    · have stored := inv.stored
      simp only [pop, List.length_append, Option.toList_none, List.length_nil]
      omega
    · intro stopped
      exact ⟨rfl, (inv.halted stopped).2⟩
  · rename_i waits
    rw [ready, Bool.or_eq_true, not_or] at waits
    have empty : s.mailbox.pending = none := by simpa using waits.2
    exact
      { order := inv.order
        latest := inv.latest
        values := inv.values
        stored := inv.stored
        replaced := inv.replaced
        halted := fun stopped => absurd stopped waits.1
        awake := fun pending => absurd empty pending }

omit [DecidableEq ι] in
/-- The effect of an accepted push on the history; `awake` is restored by the notification. -/
theorem store_inv (inv : s.Inv) (running : s.mailbox.stopped = false) {result : LatestValuePushResult}
    (tells : result = if s.mailbox.pending.isSome then .kReplaced else .kStored)
    (awake : s.sleeping = ∅ ∨ s.woken.Nonempty) :
    (s.store value result { s.mailbox with pending := some value }).Inv where
  order := ((List.sublist_append_left ..).trans inv.order).append (.refl [value])
  latest := by
    rintro _ ⟨⟩
    exact List.getLast?_concat
  values := by
    simp only [store, ← Multiset.coe_add, inv.values, Option.toList_some]
    abel
  stored := by
    have stored := inv.stored
    subst tells
    cases pending : s.mailbox.pending <;> simp [store, pending] at stored ⊢ <;> omega
  replaced := by
    have replaced := inv.replaced
    subst tells
    cases pending : s.mailbox.pending <;> simp [store, pending] at replaced ⊢ <;> omega
  halted := fun stopped => absurd (running.symm.trans stopped) nofun
  awake := fun _ => awake

omit [DecidableEq ι] in
theorem refused_inv (inv : s.Inv) : { s with results := s.results ++ [LatestValuePushResult.kStopped] }.Inv where
  order := inv.order
  latest := inv.latest
  values := inv.values
  stored := by simpa using inv.stored
  replaced := by simpa using inv.replaced
  halted := inv.halted
  awake := inv.awake

theorem stop_inv (inv : s.Inv) : s.stopAll.Inv where
  order := by simpa [stopAll, notifyAll, stop] using (List.sublist_append_left ..).trans inv.order
  latest := nofun
  values := by
    simp only [stopAll, notifyAll, stop, ← Multiset.coe_add, inv.values, Option.toList_none, Multiset.coe_nil]
    abel
  stored := by
    have stored := inv.stored
    simp only [stopAll, notifyAll, stop, List.length_append, Option.toList_none, List.length_nil]
    omega
  replaced := inv.replaced
  halted := fun _ => ⟨rfl, rfl⟩
  awake := fun _ => .inl rfl

theorem step_inv {action : Action ι T} (inv : s.Inv) (h : s.step action = some t) : t.Inv := by
  rcases step_cases h with
    ⟨-, rfl⟩ | ⟨value, u, running, ⟨asleep, rfl⟩ | ⟨waiter, rfl⟩, rfl⟩ | ⟨thread, rfl⟩ | ⟨waiter, rfl⟩ | rfl
  · exact refused_inv inv
  · exact store_inv inv running rfl (.inl asleep)
  · exact store_inv (wake_inv inv) running rfl (.inr ⟨waiter, Finset.mem_insert_self ..⟩)
  · exact check_inv inv
  · exact wake_inv inv
  · exact stop_inv inv

theorem run_inv {actions : List (Action ι T)} (run : actions.foldlM step start = some s) : s.Inv :=
  (Runs.run_of_foldlM_some run).invariant step_inv start_inv

/-! ### Single steps -/

end Threads

end LatestValueMailbox

end HesaiLidar
