import Hid.Number.Power

/-!
Whole numbers as bytes, least significant byte first. `bytes` keeps a number modulo
`2 ^ (8 * width)`, `value` reads a byte sequence of any length. What is written reads back
modulo the width (`value_bytes`, `signedValue_bytesOfInt`), and what is read is written as it
was (`bytes_value`, `bytesOfInt_signedValue`).
-/

namespace Hid.Wire

open Number (twoTo)

/-- A block of bytes. -/
abbrev Bytes := List UInt8

namespace LittleEndian

/-- The lowest `width` bytes of a number. -/
def bytes : Nat → Nat → Bytes
  | 0, _ => []
  | width + 1, n => UInt8.ofNat n :: bytes width (n / 256)

def value : Bytes → Nat
  | [] => 0
  | b :: rest => b.toNat + 256 * value rest

/-- The lowest `width` bytes of an integer in two's complement. -/
def bytesOfInt (width : Nat) (n : Int) : Bytes :=
  bytes width (n % (twoTo (8 * width) : Int)).toNat

/-- The integer that bytes stand for in two's complement. -/
def signedValue (block : Bytes) : Int :=
  (value block : Int).bmod (twoTo (8 * block.length))

@[simp] theorem length_bytes (width n : Nat) : (bytes width n).length = width := by
  induction width generalizing n with
  | zero => rfl
  | succ width ih => simp [bytes, ih]

theorem twoTo_bytes (width : Nat) : twoTo (8 * (width + 1)) = 256 * twoTo (8 * width) := by
  rw [Nat.mul_succ, Nat.add_comm]
  exact Nat.pow_add ..

theorem value_bytes (width n : Nat) : value (bytes width n) = n % twoTo (8 * width) := by
  induction width generalizing n with
  | zero => exact (Nat.mod_one n).symm
  | succ width ih =>
    have low : (UInt8.ofNat n).toNat = n % 256 := UInt8.toNat_ofNat'
    rw [bytes, value, ih, low, twoTo_bytes, Nat.mod_mul]

theorem value_lt (block : Bytes) : value block < twoTo (8 * block.length) := by
  induction block with
  | nil => exact Nat.one_pos
  | cons b rest ih =>
    have bound := b.toNat_lt
    rw [value, List.length_cons, twoTo_bytes]
    omega

theorem bytes_value (block : Bytes) : bytes block.length (value block) = block := by
  induction block with
  | nil => rfl
  | cons b rest ih =>
    have bound := b.toNat_lt
    have low : UInt8.ofNat (b.toNat + 256 * value rest) = b := by
      apply UInt8.toNat_inj.mp
      rw [UInt8.toNat_ofNat']
      omega
    have high : (b.toNat + 256 * value rest) / 256 = value rest := by omega
    rw [List.length_cons, value, bytes, low, high, ih]

@[simp] theorem length_bytesOfInt (width : Nat) (n : Int) : (bytesOfInt width n).length = width :=
  length_bytes ..

/-- Writing an integer keeps it modulo the width, a negative one too. -/
theorem value_bytesOfInt (width : Nat) (n : Int) :
    (value (bytesOfInt width n) : Int) = n % (twoTo (8 * width) : Int) := by
  have positive : (0 : Int) < (twoTo (8 * width) : Nat) :=
    Int.natCast_pos.mpr (Nat.two_pow_pos _)
  have low := Int.emod_nonneg n (Int.ne_of_gt positive)
  have high := Int.emod_lt_of_pos n positive
  rw [bytesOfInt, value_bytes, Nat.mod_eq_of_lt (by omega), Int.toNat_of_nonneg low]

theorem signedValue_bytesOfInt (width : Nat) (n : Int) :
    signedValue (bytesOfInt width n) = n.bmod (twoTo (8 * width)) := by
  rw [signedValue, value_bytesOfInt, length_bytesOfInt, Int.emod_bmod]

theorem bytesOfInt_value (block : Bytes) : bytesOfInt block.length (value block) = block := by
  have bound := value_lt block
  have same : ((value block : Int) % (twoTo (8 * block.length) : Nat)).toNat = value block := by
    rw [← Int.natCast_emod, Int.toNat_natCast, Nat.mod_eq_of_lt bound]
  rw [bytesOfInt, same, bytes_value]

theorem bytesOfInt_signedValue (block : Bytes) :
    bytesOfInt block.length (signedValue block) = block := by
  have same : signedValue block % (twoTo (8 * block.length) : Nat) =
      (value block : Int) % (twoTo (8 * block.length) : Nat) := Int.bmod_emod ..
  rw [bytesOfInt, same]
  exact bytesOfInt_value block

end LittleEndian
end Hid.Wire
