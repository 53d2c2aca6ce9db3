import Mathlib.Data.List.Basic
import Mathlib.Tactic.Common

/-!
# Single-writer cells read through stale views

An atomic cell with one writer is the list of the values published in it, oldest first. A reader's
load may return any published value that is not older than the newest one it has already seen; the
writer itself always reads its latest store.
-/

/-- The values published in a cell, the initial one first. -/
structure PublishedCell (α : Type*) where
  initial : α
  stored : List α
  deriving Repr

namespace PublishedCell

variable {α : Type*}

def fresh (x : α) : PublishedCell α := ⟨x, []⟩

def stores (c : PublishedCell α) : Nat := c.stored.length

/-- The value of the `k`-th store, the initial value for `k = 0`. -/
def published (c : PublishedCell α) (k : Nat) : Option α := (c.initial :: c.stored)[k]?

/-- The newest value, which is what the writer reads. -/
def latest (c : PublishedCell α) : α := (c.initial :: c.stored).getLast (by simp)

def store (c : PublishedCell α) (x : α) : PublishedCell α := { c with stored := c.stored ++ [x] }

@[simp] theorem stores_fresh (x : α) : (fresh x).stores = 0 := rfl

@[simp] theorem stores_store (c : PublishedCell α) (x : α) : (c.store x).stores = c.stores + 1 := by
  simp [stores, store]

theorem published_lt {c : PublishedCell α} {k : Nat} {x : α} (h : c.published k = some x) : k ≤ c.stores := by
  obtain ⟨bound, -⟩ := List.getElem?_eq_some_iff.mp h
  simp only [List.length_cons] at bound
  simp only [stores]
  omega

theorem published_latest (c : PublishedCell α) : c.published c.stores = some c.latest := by
  rw [published, stores, latest, List.getLast_eq_getElem]
  simp

theorem published_store {c : PublishedCell α} {x : α} {k : Nat} (old : k ≤ c.stores) :
    (c.store x).published k = c.published k := by
  simp only [published, store, ← List.cons_append]
  exact List.getElem?_append_left (by simp only [List.length_cons, stores] at *; omega)

theorem published_store_new (c : PublishedCell α) (x : α) : (c.store x).published (c.stores + 1) = some x := by
  simp only [published, store, stores, ← List.cons_append]
  rw [List.getElem?_append_right (by simp)]
  simp

/-- `f` gives the value of every store: a cell whose stores follow a rule, one value after the other. -/
def Follows (c : PublishedCell α) (f : Nat → α) : Prop := ∀ k ≤ c.stores, c.published k = some (f k)

theorem follows_fresh (f : Nat → α) : (fresh (f 0)).Follows f := by
  intro k bound
  obtain rfl : k = 0 := by simpa using bound
  rfl

theorem Follows.latest {c : PublishedCell α} {f : Nat → α} (follows : c.Follows f) : c.latest = f c.stores :=
  Option.some.inj (c.published_latest.symm.trans (follows _ (Nat.le_refl _)))

theorem Follows.read {c : PublishedCell α} {f : Nat → α} {k : Nat} {x : α} (follows : c.Follows f)
    (h : c.published k = some x) : k ≤ c.stores ∧ x = f k := by
  have bound := published_lt h
  exact ⟨bound, Option.some.inj (h.symm.trans (follows k bound))⟩

theorem Follows.store {c : PublishedCell α} {f : Nat → α} {x : α} (follows : c.Follows f)
    (next : x = f (c.stores + 1)) : (c.store x).Follows f := by
  intro k bound
  rw [stores_store] at bound
  rcases Nat.lt_or_ge c.stores k with new | old
  · obtain rfl : k = c.stores + 1 := by omega
    rw [published_store_new, next]
  · rw [published_store old]
    exact follows k old

end PublishedCell
