import Mathlib.Data.List.Basic
import Mathlib.Tactic.Common

/-!
# Cutting a stream into segments

A stream is cut in front of some of its items. The items between two cuts form a closed segment; the
items since the last cut are the open one. Nothing is lost, repeated or moved by cutting.
-/

/-- The closed segments, oldest first, and the open one. -/
structure Segments (β : Type*) where
  closed : List (List β)
  current : List β

namespace Segments

variable {β : Type*}

def empty : Segments β := ⟨[], []⟩

def feed (s : Segments β) (cut : Bool) (b : β) : Segments β :=
  if cut then ⟨s.closed ++ [s.current], [b]⟩ else ⟨s.closed, s.current ++ [b]⟩

def all (s : Segments β) : List β := s.closed.flatten ++ s.current

/-- Feeding a stream to segments, where the open segment and the next item decide about a cut. -/
def feedAll (cuts : List β → β → Bool) (s : Segments β) (bs : List β) : Segments β :=
  bs.foldl (fun s b => s.feed (cuts s.current b) b) s

def split (cuts : List β → β → Bool) (bs : List β) : Segments β := empty.feedAll cuts bs

variable {cuts : List β → β → Bool} {s : Segments β}

theorem all_feed (cut : Bool) (b : β) : (s.feed cut b).all = s.all ++ [b] := by
  cases cut <;> simp [feed, all]

theorem all_feedAll (bs : List β) : (s.feedAll cuts bs).all = s.all ++ bs := by
  induction bs generalizing s with
  | nil => simp [feedAll]
  | cons b bs ih =>
    have tail := ih (s := s.feed (cuts s.current b) b)
    rw [all_feed, List.append_assoc] at tail
    exact tail

variable (cuts) in
/-- Cutting keeps every item once and in place. -/
theorem all_split (bs : List β) : (split cuts bs).all = bs := all_feedAll bs

theorem split_append (bs cs : List β) : split cuts (bs ++ cs) = (split cuts bs).feedAll cuts cs :=
  List.foldl_append ..

@[simp] theorem feedAll_nil : s.feedAll cuts [] = s := rfl

@[simp] theorem feedAll_cons (b : β) (bs : List β) :
    s.feedAll cuts (b :: bs) = (s.feed (cuts s.current b) b).feedAll cuts bs := rfl

/-- What holds between the items of a stream in order holds between the closed segments. -/
theorem closed_pairwise {R : β → β → Prop} (order : s.all.Pairwise R) :
    s.closed.Pairwise fun earlier later => ∀ x ∈ earlier, ∀ y ∈ later, R x y :=
  (List.pairwise_flatten.mp (List.pairwise_append.mp order).1).2

/-! ### Where the cuts are -/

/-- Inside the segment no item is cut off from the items before it. -/
def Uncut (cuts : List β → β → Bool) (segment : List β) : Prop :=
  ∀ before b after, segment = before ++ b :: after → before ≠ [] → cuts before b = false

theorem uncut_nil : Uncut cuts [] := fun before b after split => absurd split (by simp)

theorem Uncut.concat {segment : List β} {b : β} (uncut : Uncut cuts segment) (last : segment ≠ [] → cuts segment b = false) :
    Uncut cuts (segment ++ [b]) := by
  intro before c after split nonempty
  rcases List.eq_nil_or_concat after with rfl | ⟨rest, d, rfl⟩
  · obtain ⟨rfl, same⟩ := List.append_inj' split rfl
    obtain rfl := List.head_eq_of_cons_eq same
    exact last nonempty
  · have whole : segment ++ [b] = (before ++ c :: rest) ++ [d] := by simpa using split
    obtain ⟨rfl, -⟩ := List.append_inj' whole rfl
    exact uncut before c rest rfl nonempty

/-- Segments are cut in front of some item and nowhere inside. -/
structure CutOnly (cuts : List β → β → Bool) (s : Segments β) : Prop where
  closed : ∀ segment ∈ s.closed, Uncut cuts segment ∧ ∃ b, cuts segment b = true
  current : Uncut cuts s.current

theorem CutOnly.feed (only : CutOnly cuts s) (b : β) : CutOnly cuts (s.feed (cuts s.current b) b) := by
  cases cut : cuts s.current b with
  | true =>
    refine ⟨fun segment member => ?_, uncut_nil.concat fun nonempty => absurd rfl nonempty⟩
    rcases List.mem_append.mp member with old | new
    · exact only.closed segment old
    · obtain rfl := List.mem_singleton.mp new
      exact ⟨only.current, b, cut⟩
  | false => exact ⟨only.closed, only.current.concat fun _ => cut⟩

theorem CutOnly.feedAll (only : CutOnly cuts s) (bs : List β) : CutOnly cuts (s.feedAll cuts bs) := by
  induction bs generalizing s with
  | nil => exact only
  | cons b bs ih => exact ih (only.feed b)

theorem cutOnly_split (bs : List β) : CutOnly cuts (split cuts bs) := by
  have start : CutOnly cuts (empty : Segments β) := ⟨nofun, uncut_nil⟩
  exact start.feedAll bs

end Segments
