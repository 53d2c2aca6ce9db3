import Mathlib.Data.List.Basic
import Mathlib.Tactic.Common

/-!
# Arrays with unwritten slots

Arrays in which some slots have no value yet, reads that fail behind the end and on such a slot, and which
computations made of reads succeed.
-/

namespace Slots

variable {α β ε : Type}

/-! ### Computations that succeed -/

def Succeeds (x : Except ε α) : Prop := ∃ a, x = .ok a

@[simp] theorem succeeds_ok (a : α) : Succeeds (.ok a : Except ε α) := ⟨a, rfl⟩

@[simp] theorem not_succeeds_error (e : ε) : ¬ Succeeds (.error e : Except ε α) := nofun

/-- A sequence succeeds when its first part does and whatever it hands on lets the rest succeed. -/
theorem succeeds_bind {x : Except ε α} {f : α → Except ε β} {P : Prop} (rest : ∀ a, x = .ok a → (Succeeds (f a) ↔ P)) :
    Succeeds (x >>= f) ↔ Succeeds x ∧ P := by
  cases x with
  | error e => exact iff_of_false (not_succeeds_error e) fun both => not_succeeds_error e both.1
  | ok a => exact (rest a rfl).trans (and_iff_right (succeeds_ok a)).symm

theorem succeeds_mapM {f : α → Except ε β} {l : List α} : Succeeds (l.mapM f) ↔ ∀ a ∈ l, Succeeds (f a) := by
  induction l with
  | nil => exact iff_of_true (succeeds_ok []) (List.forall_mem_nil _)
  | cons a l ih =>
    rw [List.mapM_cons, List.forall_mem_cons]
    refine succeeds_bind fun b _ => ?_
    refine (succeeds_bind fun bs _ => iff_true_intro (succeeds_ok (b :: bs))).trans ?_
    rw [ih, and_true]

theorem mapM_eq_map {f : α → Except ε β} {g : α → β} {l : List α} {bs : List β} (run : l.mapM f = .ok bs)
    (pass : ∀ a ∈ l, ∀ b, f a = .ok b → b = g a) : bs = l.map g := by
  induction l generalizing bs with
  | nil => exact (Except.ok.inj run).symm
  | cons a l ih =>
    obtain ⟨first, rest⟩ := List.forall_mem_cons.mp pass
    rw [List.mapM_cons] at run
    cases head : f a with
    | error e => rw [head] at run; cases run
    | ok b =>
      cases tail : l.mapM f with
      | error e => rw [head, tail] at run; cases run
      | ok bs' =>
        rw [head, tail] at run
        cases run
        rw [List.map_cons, first b head, ih tail rest]

/-! ### Slots -/

inductive Misread where
  | outside (index : Nat)
  | unwritten (index : Nat)
  deriving DecidableEq, Repr

def read (slots : List (Option α)) (index : Nat) : Except Misread α :=
  match slots[index]? with
  | none => .error (.outside index)
  | some none => .error (.unwritten index)
  | some (some value) => .ok value

/-- An array after some writes; a write behind the end is lost. -/
def fill (size : Nat) (writes : List (Nat × α)) : List (Option α) :=
  writes.foldl (fun slots write => slots.set write.1 (some write.2)) (List.replicate size none)

def filled (size : Nat) (values : List α) : List (Option α) :=
  values.map some ++ List.replicate (size - values.length) none

def Written (slots : List (Option α)) (index : Nat) : Prop := ∃ value, slots[index]? = some (some value)

/-- What a slot holds, and a default in place of what cannot be read. -/
def value (default : α) (slots : List (Option α)) (index : Nat) : α := (slots.getD index none).getD default

variable {slots : List (Option α)} {index size : Nat} {writes : List (Nat × α)} {values : List α}

@[simp] theorem succeeds_read : Succeeds (read slots index) ↔ Written slots index := by
  unfold read Written
  rcases slots[index]? with _ | _ | a
  · exact iff_of_false (not_succeeds_error _) nofun
  · exact iff_of_false (not_succeeds_error _) nofun
  · exact iff_of_true (succeeds_ok a) ⟨a, rfl⟩

theorem value_of_read (default : α) {a : α} (found : read slots index = .ok a) : value default slots index = a := by
  unfold read at found
  unfold value
  rw [List.getD_eq_getElem?_getD]
  rcases slot : slots[index]? with _ | _ | b
  · rw [slot] at found
    cases found
  · rw [slot] at found
    cases found
  · rw [slot] at found
    cases found
    rfl

theorem eq_of_reads {first second : List (Option α)} {i j : Nat} {f : α → α → β} {result : β} (default : α)
    (run : (read first i >>= fun a => read second j >>= fun b => .ok (f a b)) = .ok result) :
    result = f (value default first i) (value default second j) := by
  cases found : read first i with
  | error e => rw [found] at run; cases run
  | ok a =>
    cases second' : read second j with
    | error e => rw [found, second'] at run; cases run
    | ok b =>
      rw [found, second'] at run
      rw [value_of_read default found, value_of_read default second']
      exact (Except.ok.inj run).symm

theorem written_set {new : α} {at' : Nat} :
    Written (slots.set at' (some new)) index ↔ Written slots index ∨ index < slots.length ∧ index = at' := by
  unfold Written
  rw [List.getElem?_set]
  by_cases same : at' = index
  · subst same
    rw [if_pos rfl]
    by_cases inside : at' < slots.length
    · rw [if_pos inside]
      exact iff_of_true ⟨new, rfl⟩ (.inr ⟨inside, rfl⟩)
    · rw [if_neg inside, List.getElem?_eq_none (Nat.le_of_not_lt inside)]
      exact iff_of_false nofun fun both => both.elim nofun fun both => inside both.1
  · rw [if_neg same]
    exact ⟨.inl, fun either => either.elim id fun both => absurd both.2.symm same⟩

theorem written_foldl :
    Written (writes.foldl (fun slots write => slots.set write.1 (some write.2)) slots) index ↔
      Written slots index ∨ index < slots.length ∧ index ∈ writes.map Prod.fst := by
  induction writes generalizing slots with
  | nil => simp
  | cons write writes ih =>
    rw [List.foldl_cons, ih, written_set, List.length_set, List.map_cons, List.mem_cons, or_assoc, ← and_or_left]

/-- The slots of an array that can be read are those inside it that some write goes to. -/
theorem written_fill : Written (fill size writes) index ↔ index < size ∧ index ∈ writes.map Prod.fst := by
  have none : ¬ Written (List.replicate size (none : Option α)) index := by
    rintro ⟨a, found⟩
    cases List.eq_of_mem_replicate (List.mem_of_getElem? found)
  unfold fill
  rw [written_foldl, or_iff_right none, List.length_replicate]

@[simp] theorem written_map : Written (values.map some) index ↔ index < values.length := by
  unfold Written
  rw [List.getElem?_map]
  by_cases inside : index < values.length
  · rw [List.getElem?_eq_getElem inside]
    exact iff_of_true ⟨_, rfl⟩ inside
  · rw [List.getElem?_eq_none (Nat.le_of_not_lt inside)]
    exact iff_of_false nofun inside

@[simp] theorem written_filled : Written (filled size values) index ↔ index < values.length := by
  unfold filled
  by_cases inside : index < values.length
  · have same : (values.map some ++ List.replicate (size - values.length) none)[index]? = (values.map some)[index]? :=
      List.getElem?_append_left (by rwa [List.length_map])
    unfold Written
    rw [same]
    exact written_map
  · refine iff_of_false ?_ inside
    rintro ⟨a, found⟩
    rw [List.getElem?_append_right (by rw [List.length_map]; exact Nat.le_of_not_lt inside)] at found
    cases List.eq_of_mem_replicate (List.mem_of_getElem? found)

theorem value_filled (default : α) (size : Nat) (values : List α) (index : Nat) :
    value default (filled size values) index = default ∨ value default (filled size values) index ∈ values := by
  unfold value filled
  rw [List.getD_eq_getElem?_getD]
  cases slot : (values.map some ++ List.replicate (size - values.length) none)[index]? with
  | none => exact .inl rfl
  | some entry =>
    rcases List.mem_append.mp (List.mem_of_getElem? slot) with written | unwritten
    · obtain ⟨a, member, rfl⟩ := List.mem_map.mp written
      exact .inr member
    · rw [List.eq_of_mem_replicate unwritten]
      exact .inl rfl

end Slots
