import Hid.Wire.Field
import Hid.Proofs.Number.Rounding
import Hid.Proofs.Wire.Cursor

/-!
One field of a block. A value has an image, the bytes that are written for it with the zeros of
padding, and what is kept of it is what its image reads back as (`ofBytes_image`). Bytes that
are read and written again come back tidied (`image_ofBytes`): padding zeroed, a flag made zero
or one, a NaN made the one that is ever written, all else as it was.
-/

namespace Hid.Wire.Field

open Number (Binary64 twoTo)

/-! ### Images, what is kept, and tidying -/

/-- The field does not go back and does not end between two bytes. -/
def Regular : Field → Prop
  | .bytes count | .pad count => ∃ n : Nat, count = n
  | _ => True

/-- The field can hold the value: a byte block has the length that the field names, and padding
goes forward. Numbers of any size do. -/
def Admits : (f : Field) → f.Value → Prop
  | .bytes count, block => count = (block.length : Quantity)
  | .pad count, () => ∃ n : Nat, count = n
  | _, _ => True

/-- The bytes that a value takes up. -/
def image (f : Field) (v : f.Value) : Bytes :=
  match f with
  | .pad count => List.replicate (width (.pad count)) 0
  | f => f.toBytes v

/-- What a block keeps of a value: a number modulo the width, in two's complement if it is
signed, and a double as the nearest single. -/
def kept : (f : Field) → f.Value → f.Value
  | .unsigned width, n => n % (twoTo (8 * width) : Nat)
  | .signed width, n => n.bmod (twoTo (8 * width))
  | .flag, b => b
  | .single, x => .widen x.narrow
  | .bytes _, block => block
  | .pad _, () => ()

/-- The bytes of a field as they come back. -/
def tidy : Field → Bytes → Bytes
  | .flag, block => block.map fun b => if b = 0 then 0 else 1
  | .single, block =>
      if Number.single.decode (LittleEndian.value block) = .nan then
        LittleEndian.bytes 4 Number.single.nanWord
      else block
  | .pad _, block => List.replicate block.length 0
  | _, block => block

theorem Admits.regular {f : Field} {v : f.Value} (admits : f.Admits v) : f.Regular := by
  cases f with
  | bytes count => exact ⟨_, admits⟩
  | pad count => exact admits
  | unsigned | signed | flag | single => trivial

/-- Lengths of byte blocks and of padding are widths. -/
theorem Regular.bytes_width {count : Quantity} (regular : (Field.bytes count).Regular) :
    count = ((Field.bytes count).width : Quantity) := by
  obtain ⟨n, rfl⟩ := regular
  rfl

theorem Regular.pad_width {count : Quantity} (regular : (Field.pad count).Regular) :
    count = ((Field.pad count).width : Quantity) := by
  obtain ⟨n, rfl⟩ := regular
  rfl

theorem length_image {f : Field} {v : f.Value} (admits : f.Admits v) :
    (f.image v).length = f.width := by
  cases f with
  | unsigned width => exact LittleEndian.length_bytesOfInt width v
  | signed width => exact LittleEndian.length_bytesOfInt width v
  | flag => rfl
  | single => exact LittleEndian.length_bytes 4 _
  | bytes count =>
      have named : count = (List.length v : Quantity) := admits
      rw [named]
      rfl
  | pad count => exact List.length_replicate

theorem admits_ofBytes {f : Field} (regular : f.Regular) {block : Bytes}
    (whole : block.length = f.width) : f.Admits (f.ofBytes block) := by
  cases f with
  | bytes count => exact regular.bytes_width.trans (congrArg (fun n : Nat => (n : Quantity)) whole.symm)
  | pad count => exact regular
  | unsigned | signed | flag | single => trivial

theorem ofBytes_image (f : Field) (v : f.Value) : f.ofBytes (f.image v) = f.kept v := by
  cases f with
  | unsigned width => exact LittleEndian.value_bytesOfInt width v
  | signed width => exact LittleEndian.signedValue_bytesOfInt width v
  | flag => cases v <;> rfl
  | single =>
      have word_lt : Binary64.narrow v < twoTo (8 * 4) := Number.single.encode_lt _
      change Binary64.widen (LittleEndian.value (LittleEndian.bytes 4 _)) = _
      rw [LittleEndian.value_bytes, Nat.mod_eq_of_lt word_lt]
      rfl
  | bytes count => rfl
  | pad count => rfl

theorem image_ofBytes (f : Field) {block : Bytes} (whole : block.length = f.width) :
    f.image (f.ofBytes block) = f.tidy block := by
  cases f with
  | unsigned width =>
      obtain rfl : block.length = width := whole
      exact LittleEndian.bytesOfInt_value block
  | signed width =>
      obtain rfl : block.length = width := whole
      exact LittleEndian.bytesOfInt_signedValue block
  | flag =>
      obtain ⟨b, rfl⟩ := List.length_eq_one_iff.mp whole
      have bit : (LittleEndian.value [b] != 0) = decide (b ≠ 0) := by
        simp [LittleEndian.value, ← UInt8.toNat_inj, bne, BEq.beq]
      change [if (LittleEndian.value [b] != 0) = true then (1 : UInt8) else 0] = _
      rw [bit]
      by_cases zero : b = 0 <;> simp [tidy, zero]
  | single =>
      have word_lt : LittleEndian.value block < twoTo 32 := by
        have := LittleEndian.value_lt block
        rwa [whole] at this
      change LittleEndian.bytes 4 (Binary64.narrow (Binary64.widen _)) = _
      rw [Binary64.narrow_widen word_lt, Binary64.canonicalSingle, tidy]
      split
      case isTrue nan => rfl
      case isFalse number =>
        have same := LittleEndian.bytes_value block
        rwa [whole] at same
  | bytes count => rfl
  | pad count => exact congrArg (List.replicate · 0) whole.symm

theorem length_tidy (f : Field) {block : Bytes} (whole : block.length = f.width) :
    (f.tidy block).length = f.width := by
  cases f with
  | flag => exact List.length_map _ |>.trans whole
  | single =>
      rw [tidy]
      split
      case isTrue nan => rfl
      case isFalse number => exact whole
  | pad count => exact List.length_replicate.trans whole
  | unsigned | signed | bytes => exact whole

theorem tidy_tidy (f : Field) (block : Bytes) : f.tidy (f.tidy block) = f.tidy block := by
  cases f with
  | flag =>
      have settled : ∀ b : UInt8, (if (if b = 0 then (0 : UInt8) else 1) = 0 then (0 : UInt8) else 1)
          = if b = 0 then 0 else 1 := by
        intro b
        by_cases zero : b = 0 <;> simp [zero]
      simp only [tidy, List.map_map, Function.comp_def, settled]
  | single =>
      by_cases nan : Number.single.decode (LittleEndian.value block) = .nan
      · have again : Number.single.decode (LittleEndian.value (LittleEndian.bytes 4 Number.single.nanWord)) =
            .nan := by decide
        simp only [tidy, if_pos nan, if_pos again]
      · simp only [tidy, if_neg nan]
  | pad count => simp only [tidy, List.length_replicate]
  | unsigned | signed | bytes => rfl

/-! ### Numbers within their width -/

/-- The value is one of those that bytes stand for: a number within its width, a double that is
a single. -/
def InRange : (f : Field) → f.Value → Prop
  | .unsigned width, n => 0 ≤ n ∧ n < (twoTo (8 * width) : Nat)
  | .signed width, n => -(twoTo (8 * width) : Nat) ≤ n * 2 ∧ n * 2 < (twoTo (8 * width) : Nat)
  | .single, x => ∃ word < twoTo 32, x = .widen word
  | _, _ => True

theorem kept_of_inRange {f : Field} {v : f.Value} (inRange : f.InRange v) : f.kept v = v := by
  cases f with
  | unsigned width => exact Int.emod_eq_of_lt inRange.1 inRange.2
  | signed width => exact Int.bmod_eq_of_le_mul_two inRange.1 inRange.2
  | single =>
      obtain ⟨word, word_lt, rfl⟩ := inRange
      change Binary64.widen (Binary64.narrow (Binary64.widen word)) = _
      rw [Binary64.narrow_widen word_lt, Binary64.canonicalSingle]
      split
      case isTrue nan =>
        have canonical : Number.single.decode Number.single.nanWord = .nan := by decide
        rw [Binary64.widen, Binary64.widen, nan, canonical]
      case isFalse number => rfl
  | flag | bytes | pad => rfl

/-- What a field reads is within its width. -/
theorem inRange_ofBytes (f : Field) {block : Bytes} (whole : block.length = f.width) :
    f.InRange (f.ofBytes block) := by
  cases f with
  | unsigned width =>
      obtain rfl : block.length = width := whole
      exact ⟨Int.natCast_nonneg _, Int.ofNat_lt.mpr (LittleEndian.value_lt block)⟩
  | signed width =>
      obtain rfl : block.length = width := whole
      have low := Int.le_bmod (x := LittleEndian.value block) (Nat.two_pow_pos (8 * block.length))
      have high := Int.bmod_lt (x := LittleEndian.value block) (Nat.two_pow_pos (8 * block.length))
      have even : twoTo (8 * block.length) = 1 ∨ twoTo (8 * block.length) % 2 = 0 := by
        cases block.length with
        | zero => exact .inl rfl
        | succ width =>
            right
            rw [LittleEndian.twoTo_bytes]
            omega
      change -(twoTo (8 * block.length) : Int) ≤ LittleEndian.signedValue block * 2 ∧
        LittleEndian.signedValue block * 2 < (twoTo (8 * block.length) : Int)
      change -((twoTo (8 * block.length) : Nat) / 2 : Int) ≤ LittleEndian.signedValue block at low
      change LittleEndian.signedValue block < ((twoTo (8 * block.length) : Nat) + 1) / 2 at high
      omega
  | single =>
      have word_lt := LittleEndian.value_lt block
      rw [whole] at word_lt
      exact ⟨_, word_lt, rfl⟩
  | flag | bytes | pad => trivial

/-! ### Reading and writing -/

theorem read_between {f : Field} (regular : f.Regular) (behind ahead : Bytes) {bytes : Bytes}
    (whole : bytes.length = f.width) :
    f.read (.between behind (bytes ++ ahead)) =
      .ok (f.ofBytes bytes, .between (behind ++ bytes) ahead) := by
  have scalar := Reader.scalar_between behind bytes ahead
  cases f with
  | bytes count =>
      have taken := Reader.take_between behind bytes ahead
      rw [whole, ← regular.bytes_width] at taken
      rw [read, taken]
      rfl
  | pad count =>
      have skipped := Reader.skip_between behind bytes ahead
      rw [whole, ← regular.pad_width] at skipped
      rw [read, skipped]
      rfl
  | unsigned | signed | flag | single =>
      rw [whole] at scalar
      simp only [read, scalar, Except.map]

theorem read_short {f : Field} (regular : f.Regular) (behind : Bytes) {ahead : Bytes}
    (short : ahead.length < f.width) :
    ∃ fault, f.read (.between behind ahead) = .error fault ∧ fault.isOutOfRange := by
  cases f with
  | bytes count =>
      refine ⟨.readOverrun count ahead.length, ?_, rfl⟩
      have failed := Reader.take_short behind ahead _ short
      rw [← regular.bytes_width] at failed
      rw [read, failed]
      rfl
  | pad count =>
      refine ⟨.skipOverrun count ahead.length, ?_, rfl⟩
      have failed := Reader.skip_short behind ahead _ short
      rw [← regular.pad_width] at failed
      rw [read, failed]
      rfl
  | unsigned | signed | flag | single =>
      refine ⟨.outOfBounds, ?_, rfl⟩
      simp only [read, Reader.scalar_short behind ahead _ short, Except.map]

variable {f : Field} {v : f.Value} {w : Writer} {size : Nat} {front : Bytes}

theorem write_holds (holds : w.Holds size front) (admits : f.Admits v)
    (fits : front.length + f.width ≤ size) :
    ∃ next, f.write v w = .ok next ∧ next.Holds size (front ++ f.image v) := by
  rw [← length_image admits] at fits
  cases f with
  | bytes count => exact holds.put fits
  | pad count =>
      rw [length_image admits] at fits
      obtain ⟨next, padded, after⟩ := holds.pad fits
      rw [← admits.regular.pad_width] at padded
      exact ⟨next, padded, after⟩
  | unsigned | signed | flag | single => exact holds.scalar fits

theorem write_short (holds : w.Holds size front) (admits : f.Admits v)
    (short : size < front.length + f.width) :
    ∃ fault, f.write v w = .error fault ∧ fault.isOutOfRange := by
  rw [← length_image admits] at short
  cases f with
  | bytes count => exact ⟨_, holds.put_short short, rfl⟩
  | pad count =>
      rw [length_image admits] at short
      have failed := holds.pad_short short
      rw [← admits.regular.pad_width] at failed
      exact ⟨_, failed, rfl⟩
  | unsigned | signed | flag | single => exact ⟨_, holds.scalar_short short, rfl⟩

end Hid.Wire.Field
