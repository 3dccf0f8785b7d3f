import Hid.Result
import Mathlib.Algebra.Ring.Int.Defs
import Mathlib.Algebra.Ring.Nat
import Mathlib.Data.Set.Function

/-!
The two fields of a result code. Masks and shifts of 32-bit words come to remainders and quotients
of the numbers they are made of, whatever the signs and sizes of these (`pack_eq`, `moduleOf_eq`,
`descriptionOf_eq`).

* `pack_exact`: packing and unpacking undo each other, up to the widths of the fields.
-/

namespace Hid.ResultCode

/-! ### Words -/

theorem toNat_word (n : Int) : ((word n).toNat : Int) = n % 2 ^ 32 := by
  rw [word, BitVec.toNat_ofInt]
  exact Int.toNat_of_nonneg (Int.emod_nonneg n (by decide))

/-- A mask of the lowest bits leaves a remainder. -/
theorem toNat_and_mask {mask : BitVec 32} (width : Nat) (lowest : mask.toNat = 2 ^ width - 1)
    (w : BitVec 32) : (w &&& mask).toNat = w.toNat % 2 ^ width := by
  rw [BitVec.toNat_and, lowest, Nat.and_two_pow_sub_one_eq_mod]

theorem toNat_and_moduleMask (w : BitVec 32) : (w &&& moduleMask).toNat = w.toNat % 512 :=
  toNat_and_mask 9 rfl w

theorem toNat_and_descriptionMask (w : BitVec 32) :
    (w &&& descriptionMask).toNat = w.toNat % 8192 :=
  toNat_and_mask 13 rfl w

/-- A word below the sign bit has the same value with and without a sign. -/
theorem toInt_of_toNat_lt {w : BitVec 32} (low : w.toNat < 2 ^ 31) : w.toInt = w.toNat :=
  BitVec.toInt_eq_toNat_of_lt (by omega)

/-! ### Codes -/

theorem pack_eq (module description : Int) :
    pack module description = .int (module % 512 + 512 * (description % 8192)) := by
  have low := toNat_and_moduleMask (word module)
  have high := toNat_and_descriptionMask (word description)
  have first := toNat_word module
  have second := toNat_word description
  -- The shifted field stays below the sign bit, and the other one below the shift.
  have shifted : ((word description &&& descriptionMask) <<< descriptionShift).toNat =
      (word description &&& descriptionMask).toNat <<< 9 := by
    rw [BitVec.toNat_shiftLeft, descriptionShift, Nat.shiftLeft_eq]
    exact Nat.mod_eq_of_lt (by omega)
  have apart : (word module &&& moduleMask).toNat < 2 ^ 9 := by omega
  rw [pack, BitVec.toNat_or, shifted, Nat.or_comm, ← Nat.shiftLeft_add_eq_or_of_lt apart,
    Nat.shiftLeft_eq]
  exact congrArg Quantity.int (by omega)

theorem moduleOf_eq (code : ResultCode) : code.moduleOf = code.truncate % 512 := by
  have low := toNat_and_moduleMask (word code.truncate)
  have value := toNat_word code.truncate
  rw [moduleOf, toInt_of_toNat_lt (by omega)]
  omega

theorem descriptionOf_eq (code : ResultCode) :
    code.descriptionOf = code.truncate / 512 % 8192 := by
  have low := toNat_and_descriptionMask (word code.truncate >>> descriptionShift)
  have value := toNat_word code.truncate
  have shifted : (word code.truncate >>> descriptionShift).toNat =
      (word code.truncate).toNat / 512 := by
    rw [BitVec.toNat_ushiftRight, descriptionShift, Nat.shiftRight_eq_div_pow]
  rw [descriptionOf, toInt_of_toNat_lt (by omega)]
  omega

section Packing

variable (module description : Int)

theorem moduleOf_pack : (pack module description).moduleOf = module % 512 := by
  rw [moduleOf_eq, pack_eq, Quantity.truncate]
  omega

theorem descriptionOf_pack : (pack module description).descriptionOf = description % 8192 := by
  rw [descriptionOf_eq, pack_eq, Quantity.truncate]
  omega

/-- What is unpacked of any code is packed to its lowest 22 bits. -/
theorem pack_unpack (code : ResultCode) :
    pack code.moduleOf code.descriptionOf = .int (code.truncate % 2 ^ 22) := by
  rw [pack_eq, moduleOf_eq, descriptionOf_eq]
  exact congrArg Quantity.int (by omega)

theorem isSuccess_pack_iff :
    (pack module description).isSuccess = true ↔ 512 ∣ module ∧ 8192 ∣ description := by
  rw [pack_eq]
  change (Quantity.int _).same (.int 0) = true ↔ _
  rw [Quantity.int_same_int, decide_eq_true_iff]
  omega

/-- Codes are the same if both fields are, up to their widths. -/
theorem pack_eq_pack_iff {module' description' : Int} :
    pack module description = pack module' description' ↔
      module % 512 = module' % 512 ∧ description % 8192 = description' % 8192 := by
  rw [pack_eq, pack_eq, Quantity.int.injEq]
  omega

/-- **Codes are packed and unpacked exactly.** For all integers, of either sign and any size,

* a packed code has 22 bits and no sign;
* the module and the description that are unpacked from it are those that were packed, reduced to
  nine and thirteen bits;
* what is unpacked of any number and packed again is the number, reduced to 22 bits;
* no two pairs of fields within these widths have the same code;
* the code is a success if and only if both fields are reduced to zero;
* it never is the code of a failure that names no module. -/
theorem pack_exact (n : Int) :
    (∃ code : Int, pack module description = .int code ∧ 0 ≤ code ∧ code < 2 ^ 22) ∧
    (pack module description).moduleOf = module % 512 ∧
    (pack module description).descriptionOf = description % 8192 ∧
    pack (moduleOf (.int n)) (descriptionOf (.int n)) = .int (n % 2 ^ 22) ∧
    Set.InjOn (fun fields : Int × Int => pack fields.1 fields.2)
      {fields | (0 ≤ fields.1 ∧ fields.1 < 512) ∧ 0 ≤ fields.2 ∧ fields.2 < 8192} ∧
    ((pack module description).isSuccess = true ↔ 512 ∣ module ∧ 8192 ∣ description) ∧
    (pack module description).same unknown = false := by
  refine ⟨⟨_, pack_eq module description, by omega, by omega⟩, moduleOf_pack module description,
    descriptionOf_pack module description, pack_unpack _, ?_, isSuccess_pack_iff module description,
    ?_⟩
  · rintro ⟨m, d⟩ ⟨⟨_, _⟩, _, _⟩ ⟨m', d'⟩ ⟨⟨_, _⟩, _, _⟩ same
    obtain ⟨modules, descriptions⟩ := (pack_eq_pack_iff m d).mp same
    dsimp only at *
    exact Prod.ext (by omega) (by omega)
  · rw [pack_eq]
    change (Quantity.int _).same (.int 0xffffffff) = false
    rw [Quantity.int_same_int]
    exact decide_eq_false (by omega)

end Packing

example : pack hid 123 = .int 0xf6ca := by decide

end Hid.ResultCode
