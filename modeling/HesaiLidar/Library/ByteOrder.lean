import Mathlib.Algebra.Order.Ring.Nat
import Mathlib.Data.Nat.Bitwise
import Mathlib.Tactic.Ring

/-!
# Numbers as byte strings

The value of a list of bytes, least significant byte first, and the bytes of a number of a given width.
-/

namespace ByteOrder

def ofLE : List UInt8 → Nat
  | [] => 0
  | b :: bytes => b.toNat + 256 * ofLE bytes

def toLE : (width : Nat) → Nat → List UInt8
  | 0, _ => []
  | width + 1, n => UInt8.ofNat n :: toLE width (n / 256)

@[simp] theorem toLE_length (width n : Nat) : (toLE width n).length = width := by
  induction width generalizing n with
  | zero => rfl
  | succ width ih => simp [toLE, ih]

theorem ofLE_lt (bytes : List UInt8) : ofLE bytes < 256 ^ bytes.length := by
  induction bytes with
  | nil => exact Nat.one_pos
  | cons b bytes ih =>
    have small := b.toNat_lt
    rw [List.length_cons, pow_succ, ofLE]
    omega

theorem ofLE_toLE {width n : Nat} (fits : n < 256 ^ width) : ofLE (toLE width n) = n := by
  induction width generalizing n with
  | zero =>
    rw [pow_zero] at fits
    simp only [toLE, ofLE]
    omega
  | succ width ih =>
    rw [pow_succ] at fits
    simp only [toLE, ofLE, UInt8.toNat_ofNat']
    rw [ih (by omega)]
    omega

theorem toLE_ofLE (bytes : List UInt8) : toLE bytes.length (ofLE bytes) = bytes := by
  induction bytes with
  | nil => rfl
  | cons b bytes ih =>
    have small := b.toNat_lt
    have low : UInt8.ofNat (b.toNat + 256 * ofLE bytes) = b := by
      rw [← UInt8.toNat_inj, UInt8.toNat_ofNat']
      omega
    have high : (b.toNat + 256 * ofLE bytes) / 256 = ofLE bytes := by omega
    rw [List.length_cons, toLE, ofLE, low, high, ih]

/-- The bytes of a number in the order of a machine. -/
def encode (bigEndian : Bool) (width n : Nat) : List UInt8 :=
  if bigEndian then (toLE width n).reverse else toLE width n

/-- The number that some bytes are in the order of a machine. -/
def decode (bigEndian : Bool) (bytes : List UInt8) : Nat := if bigEndian then ofLE bytes.reverse else ofLE bytes

@[simp] theorem encode_length (bigEndian : Bool) (width n : Nat) : (encode bigEndian width n).length = width := by
  cases bigEndian <;> simp [encode]

theorem decode_encode {bigEndian : Bool} {width n : Nat} (fits : n < 256 ^ width) :
    decode bigEndian (encode bigEndian width n) = n := by
  cases bigEndian <;> simp [decode, encode, ofLE_toLE fits]

theorem encode_decode (bigEndian : Bool) (bytes : List UInt8) :
    encode bigEndian bytes.length (decode bigEndian bytes) = bytes := by
  cases bigEndian with
  | false => exact toLE_ofLE bytes
  | true =>
    have reversed := toLE_ofLE bytes.reverse
    rw [List.length_reverse] at reversed
    exact (congrArg List.reverse reversed).trans (List.reverse_reverse bytes)

/-- Appending a byte below the others is a shift and a bitwise or. -/
theorem ofLE_cons_eq_or (b : UInt8) (bytes : List UInt8) : ofLE (b :: bytes) = b.toNat ||| ofLE bytes <<< 8 := by
  have small : b.toNat < 2 ^ 8 := b.toNat_lt
  rw [Nat.or_comm, ← Nat.shiftLeft_add_eq_or_of_lt small, Nat.shiftLeft_eq, ofLE]
  ring

theorem ofLE_two (b₀ b₁ : UInt8) : ofLE [b₀, b₁] = b₀.toNat ||| b₁.toNat <<< 8 := by
  rw [ofLE_cons_eq_or]
  rfl

theorem ofLE_four (b₀ b₁ b₂ b₃ : UInt8) :
    ofLE [b₀, b₁, b₂, b₃] = b₀.toNat ||| b₁.toNat <<< 8 ||| b₂.toNat <<< 16 ||| b₃.toNat <<< 24 := by
  rw [ofLE_cons_eq_or, ofLE_cons_eq_or, ofLE_two]
  simp only [Nat.shiftLeft_or_distrib, ← Nat.shiftLeft_add, Nat.lor_assoc]

end ByteOrder
