import Mathlib.Algebra.Group.Nat.Defs
import Mathlib.Data.List.Basic

/-! Length-prefixed fields: a byte string preceded by its length in a fixed
number of little-endian bytes can be told apart from whatever follows it. -/

set_option autoImplicit false

namespace Framing

/-- The `count` low bytes of a number, least significant first. -/
def littleEndian : Nat → Nat → List UInt8
  | 0, _ => []
  | count + 1, value => UInt8.ofNat value :: littleEndian count (value / 256)

@[simp] theorem length_littleEndian (count value : Nat) :
    (littleEndian count value).length = count := by
  induction count generalizing value with
  | zero => rfl
  | succ count ih => simp [littleEndian, ih]

private theorem littleEndian_injective {count left right : Nat} (leftSmall : left < 256 ^ count)
    (rightSmall : right < 256 ^ count)
    (same : littleEndian count left = littleEndian count right) : left = right := by
  induction count generalizing left right with
  | zero =>
      simp only [pow_zero, Nat.lt_one_iff] at leftSmall rightSmall
      rw [leftSmall, rightSmall]
  | succ count ih =>
      simp only [littleEndian, List.cons.injEq] at same
      have low : left % 256 = right % 256 := by
        simpa [UInt8.toNat_ofNat'] using congrArg UInt8.toNat same.1
      rw [pow_succ, Nat.mul_comm] at leftSmall rightSmall
      have high : left / 256 = right / 256 :=
        ih (Nat.div_lt_of_lt_mul leftSmall) (Nat.div_lt_of_lt_mul rightSmall) same.2
      omega

/-- A byte string after its length. -/
def framed (width : Nat) (bytes : List UInt8) : List UInt8 :=
  littleEndian width bytes.length ++ bytes

/-- The first of two framed strings ends where it says it does. -/
theorem framed_append_inj {width : Nat} {left right leftRest rightRest : List UInt8}
    (leftShort : left.length < 256 ^ width) (rightShort : right.length < 256 ^ width)
    (same : framed width left ++ leftRest = framed width right ++ rightRest) :
    left = right ∧ leftRest = rightRest := by
  simp only [framed, List.append_assoc] at same
  obtain ⟨samePrefix, sameTail⟩ := List.append_inj same (by simp)
  exact List.append_inj sameTail (littleEndian_injective leftShort rightShort samePrefix)

end Framing
