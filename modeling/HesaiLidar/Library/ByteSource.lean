import Mathlib.Data.List.Basic
import Mathlib.Tactic.Common

/-!
# Streams that arrive in pieces

A stream arrives in pieces, with interruptions between them, until its other end closes it or it fails. One
read call gets what there is of the next piece, and at most what it asks for.
-/

namespace ByteSource

variable {α : Type*}

/-- What a read call may meet before the end; a piece is not empty. -/
inductive Event (α : Type*) where
  | piece (first : α) (rest : List α)
  | interrupted

inductive Ending where
  | closed
  | failed
  deriving DecidableEq

structure Source (α : Type*) where
  arriving : List (Event α)
  ending : Ending

def Event.items : Event α → List α
  | .piece first rest => first :: rest
  | .interrupted => []

/-- All that arrives before the end. -/
def Source.stream (s : Source α) : List α := s.arriving.flatMap Event.items

/-- The part of a piece nobody has asked for yet stays in front. -/
def pushBack : List α → List (Event α) → List (Event α)
  | [], events => events
  | first :: rest, events => .piece first rest :: events

inductive Read (α : Type*) where
  | got (items : List α)
  | interrupted
  | endOfStream
  | error

/-- A read call for at most `count` items. -/
def Source.read (s : Source α) (count : Nat) : Read α × Source α :=
  match s.arriving with
  | [] => (match s.ending with | .closed => .endOfStream | .failed => .error, s)
  | .interrupted :: events => (.interrupted, { s with arriving := events })
  | .piece first rest :: events =>
    (.got ((first :: rest).take count), { s with arriving := pushBack ((first :: rest).drop count) events })

theorem flatMap_pushBack (items : List α) (events : List (Event α)) :
    (pushBack items events).flatMap Event.items = items ++ events.flatMap Event.items := by
  cases items <;> rfl

theorem length_pushBack_le (items : List α) (events : List (Event α)) :
    (pushBack items events).length ≤ events.length + 1 := by
  cases items with
  | nil => exact Nat.le_succ _
  | cons => exact Nat.le_refl _

inductive Reads (s : Source α) (count : Nat) : Read α × Source α → Prop
  | got {items : List α} {t : Source α} (some : items ≠ []) (few : items.length ≤ count)
      (stream : s.stream = items ++ t.stream) (ending : t.ending = s.ending)
      (pieces : t.arriving.length ≤ s.arriving.length) : Reads s count (.got items, t)
  | interrupted {t : Source α} (stream : t.stream = s.stream) (ending : t.ending = s.ending)
      (pieces : t.arriving.length < s.arriving.length) : Reads s count (.interrupted, t)
  | endOfStream (empty : s.stream = []) (closed : s.ending = .closed) : Reads s count (.endOfStream, s)
  | error (empty : s.stream = []) (failed : s.ending = .failed) : Reads s count (.error, s)

theorem Source.read_cases (s : Source α) {count : Nat} (positive : 0 < count) : Reads s count (s.read count) := by
  obtain ⟨arriving, ending⟩ := s
  cases arriving with
  | nil =>
    cases ending with
    | closed => exact .endOfStream rfl rfl
    | failed => exact .error rfl rfl
  | cons event events =>
    cases event with
    | interrupted => exact .interrupted rfl rfl (Nat.lt_succ_self _)
    | piece first rest =>
      obtain ⟨count, rfl⟩ := Nat.exists_eq_succ_of_ne_zero (Nat.ne_of_gt positive)
      refine .got (List.cons_ne_nil first _) (List.length_take_le ..) ?_ rfl (length_pushBack_le ..)
      show (first :: rest) ++ events.flatMap Event.items = _
      rw [Source.stream, flatMap_pushBack, ← List.append_assoc, List.take_append_drop]

variable {s t : Source α} {count : Nat}

theorem Source.reads_of_call {result : Read α × Source α} (positive : 0 < count) (call : s.read count = result) :
    Reads s count result := by
  rw [← call]
  exact s.read_cases positive

/-- A loop of reads comes to an end: an interruption uses up an event. -/
theorem Source.read_interrupted (positive : 0 < count) (call : s.read count = (.interrupted, t)) :
    t.arriving.length < s.arriving.length := by
  cases Source.reads_of_call positive call with
  | interrupted _ _ pieces => exact pieces

/-- A loop of reads comes to an end: every successful read brings something. -/
theorem Source.read_got {items : List α} (positive : 0 < count) (call : s.read count = (.got items, t)) :
    0 < items.length ∧ t.arriving.length ≤ s.arriving.length := by
  cases Source.reads_of_call positive call with
  | got some _ _ _ pieces => exact ⟨List.length_pos_iff.mpr some, pieces⟩

end ByteSource
