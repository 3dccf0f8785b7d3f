import Hid.Wire.Cursor

/-!
Cursors that stand between two bytes of their block. A reader is given by the bytes behind it
and those ahead (`Reader.between`), and reading takes bytes from ahead to behind. A writer is
known by what it has written so far (`Writer.Holds`), the padding that is not stored included;
writing adds to that. An access that does not fit fails with a fault that is out of range.
-/

namespace Hid.Wire

/-! ### Quantities of bytes -/

theorem onward_natCast (position count : Nat) :
    onward (position : Quantity) (count : Quantity) = ((position + count : Nat) : Quantity) := by
  have forward : ¬ (position : Quantity) + (count : Quantity) < 0 := by
    intro backward
    have := (Quantity.int_lt_int (position + count) 0).mp backward
    omega
  calc onward (position : Quantity) (count : Quantity)
      _ = (position : Quantity) + (count : Quantity) := by
        simp only [onward, if_neg forward]
      _ = ((position + count : Nat) : Quantity) := congrArg Quantity.int (Int.natCast_add ..).symm

theorem wayToEnd_natCast (length position : Nat) (inside : position ≤ length) :
    wayToEnd length (position : Quantity) = ((length - position : Nat) : Quantity) := by
  have behind : ¬ (position : Quantity) < 0 := by
    intro ahead
    have := (Quantity.int_lt_int position 0).mp ahead
    omega
  calc wayToEnd length (position : Quantity)
      _ = (length : Quantity) - (position : Quantity) := by
        simp only [wayToEnd, if_neg behind]
      _ = ((length - position : Nat) : Quantity) := by
        rw [Quantity.int_sub_int, Int.ofNat_sub inside]

theorem natCast_lt (a b : Nat) : (a : Quantity) < (b : Quantity) ↔ a < b := by
  rw [Quantity.int_lt_int, Int.ofNat_lt]

theorem offset?_natCast (n : Nat) : (n : Quantity).offset? = some n := by
  simp [Quantity.offset?, Quantity.toNat?]

/-! ### Readers -/

namespace Reader

/-- The reader of a block that has its first bytes behind it and the others ahead. -/
def between (behind ahead : Bytes) : Reader := ⟨behind ++ ahead, (behind.length : Quantity)⟩

theorem ofBlock_eq (block : Bytes) : ofBlock block = between [] block := rfl

theorem between_take_drop {block : Bytes} {place : Nat} (inside : place ≤ block.length) :
    between (block.take place) (block.drop place) = ⟨block, (place : Quantity)⟩ := by
  simp only [between, List.take_append_drop, List.length_take, Nat.min_eq_left inside]

variable (behind bytes ahead : Bytes)

theorem remaining_between : (between behind ahead).remaining = (ahead.length : Quantity) := by
  have inside : behind.length ≤ (behind ++ ahead).length := by simp
  rw [remaining, between, wayToEnd_natCast _ _ inside, List.length_append, Nat.add_sub_cancel_left]

theorem remaining_lt {count : Nat} (short : ahead.length < count) :
    (between behind ahead).remaining < (count : Quantity) := by
  rw [remaining_between]
  exact (natCast_lt ..).mpr short

theorem not_remaining_lt :
    ¬ (between behind (bytes ++ ahead)).remaining < (bytes.length : Quantity) := by
  rw [remaining_between, natCast_lt, List.length_append]
  omega

theorem advance_between :
    (between behind (bytes ++ ahead)).advance (bytes.length : Quantity) =
      between (behind ++ bytes) ahead := by
  simp only [advance, between, onward_natCast, List.append_assoc, List.length_append]

theorem scalar_between :
    (between behind (bytes ++ ahead)).scalar bytes.length =
      .ok (bytes, between (behind ++ bytes) ahead) := by
  have inside : behind.length + bytes.length ≤ (behind ++ (bytes ++ ahead)).length := by simp
  rw [← advance_between]
  simp only [scalar, between, offset?_natCast, if_pos inside, List.drop_left, List.take_left]

theorem scalar_short (width : Nat) (short : ahead.length < width) :
    (between behind ahead).scalar width = .error .outOfBounds := by
  have outside : ¬ behind.length + width ≤ (behind ++ ahead).length := by
    rw [List.length_append]; omega
  simp only [scalar, between, offset?_natCast]
  exact if_neg outside

theorem take_between :
    (between behind (bytes ++ ahead)).take (bytes.length : Quantity) =
      .ok (bytes, between (behind ++ bytes) ahead) := by
  have inside : behind.length + bytes.length ≤ (behind ++ (bytes ++ ahead)).length := by simp
  have cut : Bytes.between (behind ++ (bytes ++ ahead)) behind.length
      ((behind ++ bytes).length : Nat) = bytes := by
    rw [List.length_append, Int.natCast_add, Bytes.between_of_le _ _ _ inside, List.drop_left,
      List.take_left]
  rw [take, if_neg (not_remaining_lt behind bytes ahead), advance_between]
  exact congrArg (fun found => Except.ok (found, between (behind ++ bytes) ahead)) cut

theorem take_short (count : Nat) (short : ahead.length < count) :
    (between behind ahead).take (count : Quantity) =
      .error (.readOverrun count ahead.length) := by
  rw [take, if_pos (remaining_lt behind ahead short), remaining_between]

theorem skip_between :
    (between behind (bytes ++ ahead)).skip (bytes.length : Quantity) =
      .ok (between (behind ++ bytes) ahead) := by
  rw [skip, if_neg (not_remaining_lt behind bytes ahead), advance_between]

theorem skip_short (count : Nat) (short : ahead.length < count) :
    (between behind ahead).skip (count : Quantity) =
      .error (.skipOverrun count ahead.length) := by
  rw [skip, if_pos (remaining_lt behind ahead short), remaining_between]

end Reader

/-! ### Writers -/

namespace Writer

/-- A writer for a block of a size that has come to the end of some bytes of it. -/
structure Holds (w : Writer) (size : Nat) (front : Bytes) : Prop where
  sized : w.size = size
  inside : front.length ≤ size
  position : w.position = (front.length : Quantity)
  written : w.written ++ List.replicate (front.length - w.written.length) 0 = front

theorem declare_of_lt (size : Nat) (small : size < Number.twoTo 40) :
    declare (size : Quantity) = .ok (ofSize size) := by
  have room : Number.twoTo 40 < Number.twoTo 53 := by decide
  rw [declare, offset?_natCast]
  simp only [if_neg (Nat.not_le.mpr (Nat.lt_trans small room)), if_neg (Nat.not_le.mpr small)]

theorem holds_ofSize (size : Nat) : (ofSize size).Holds size [] :=
  ⟨rfl, Nat.zero_le _, rfl, rfl⟩

variable {w : Writer} {size : Nat} {front bytes : Bytes}

namespace Holds

theorem remaining (holds : w.Holds size front) :
    w.remaining = ((size - front.length : Nat) : Quantity) := by
  rw [Writer.remaining, holds.position, holds.sized, wayToEnd_natCast _ _ holds.inside]

theorem remaining_lt (holds : w.Holds size front) {count : Nat}
    (short : size < front.length + count) : w.remaining < (count : Quantity) := by
  have inside := holds.inside
  rw [holds.remaining, natCast_lt]
  omega

theorem not_remaining_lt (holds : w.Holds size front) {count : Nat}
    (fits : front.length + count ≤ size) : ¬ w.remaining < (count : Quantity) := by
  rw [holds.remaining, natCast_lt]
  omega

/-- Only padding is left unwritten. -/
theorem length_written_le (holds : w.Holds size front) : w.written.length ≤ front.length := by
  have same := congrArg List.length holds.written
  rw [List.length_append, List.length_replicate] at same
  omega

theorem place? (holds : w.Holds size front) (fits : front.length + bytes.length ≤ size) :
    ∃ next, w.place? bytes = some next ∧ next.Holds size (front ++ bytes) := by
  have stored : (w.overwrite front.length bytes).written = front ++ bytes := by
    have none_behind : w.written.drop (front.length + bytes.length) = [] :=
      List.drop_eq_nil_of_le (by have := holds.length_written_le; omega)
    rw [overwrite, holds.written, List.take_length, none_behind, List.append_nil]
  refine ⟨(w.overwrite front.length bytes).advance (bytes.length : Quantity), ?_, ?_⟩
  · simp only [Writer.place?, holds.position, offset?_natCast, holds.sized, Option.bind_eq_bind,
      Option.bind_some, if_pos fits]
    rfl
  · constructor
    · exact holds.sized
    · rwa [List.length_append]
    · change onward w.position _ = _
      rw [holds.position, onward_natCast, List.length_append]
    · change (w.overwrite front.length bytes).written ++ List.replicate (_ - _) 0 = _
      simp [stored, advance]

theorem scalar (holds : w.Holds size front) (fits : front.length + bytes.length ≤ size) :
    ∃ next, w.scalar bytes = .ok next ∧ next.Holds size (front ++ bytes) := by
  obtain ⟨next, placed, after⟩ := holds.place? fits
  exact ⟨next, by rw [Writer.scalar, placed], after⟩

theorem scalar_short (holds : w.Holds size front) (short : size < front.length + bytes.length) :
    w.scalar bytes = .error .outOfBounds := by
  simp only [Writer.scalar, Writer.place?, holds.position, offset?_natCast, holds.sized,
    Option.bind_eq_bind, Option.bind_some, if_neg (Nat.not_le.mpr short)]

theorem put (holds : w.Holds size front) (fits : front.length + bytes.length ≤ size) :
    ∃ next, w.put bytes = .ok next ∧ next.Holds size (front ++ bytes) := by
  obtain ⟨next, placed, after⟩ := holds.place? fits
  exact ⟨next, by rw [Writer.put, if_neg (holds.not_remaining_lt fits), placed], after⟩

theorem put_short (holds : w.Holds size front) (short : size < front.length + bytes.length) :
    w.put bytes = .error (.writeOverrun bytes.length) := by
  rw [Writer.put, if_pos (holds.remaining_lt short)]

theorem pad (holds : w.Holds size front) {count : Nat} (fits : front.length + count ≤ size) :
    ∃ next, w.pad (count : Quantity) = .ok next ∧
      next.Holds size (front ++ List.replicate count 0) := by
  have stored := holds.length_written_le
  refine ⟨w.advance (count : Quantity), if_neg (holds.not_remaining_lt fits), ?_⟩
  constructor
  · exact holds.sized
  · rwa [List.length_append, List.length_replicate]
  · change onward w.position _ = _
    rw [holds.position, onward_natCast, List.length_append, List.length_replicate]
  · have gap : front.length + count - w.written.length =
        (front.length - w.written.length) + count := by omega
    change w.written ++ List.replicate (_ - w.written.length) 0 = _
    rw [List.length_append, List.length_replicate, gap, ← List.replicate_append_replicate,
      ← List.append_assoc, holds.written]

theorem pad_short (holds : w.Holds size front) {count : Nat} (short : size < front.length + count) :
    w.pad (count : Quantity) = .error (.paddingOverrun count) := by
  rw [Writer.pad, if_pos (holds.remaining_lt short)]

theorem finish (holds : w.Holds size front) (full : front.length = size) :
    w.finish = .ok front := by
  have there : w.position = (w.size : Quantity) := by rw [holds.position, full, holds.sized]
  rw [Writer.finish, if_pos there, block, holds.sized, ← full, holds.written]

theorem finish_early (holds : w.Holds size front) (early : front.length < size) :
    w.finish = .error (.unfinished front.length size) := by
  have elsewhere : w.position ≠ (w.size : Quantity) := by
    rw [holds.position, holds.sized]
    intro same
    injection same with same
    omega
  rw [Writer.finish, if_neg elsewhere, holds.position, holds.sized]

/-- All that the writer has not come to is zero. -/
theorem block (holds : w.Holds size front) :
    w.block = front ++ List.replicate (size - front.length) 0 := by
  have stored := holds.length_written_le
  have inside := holds.inside
  have gap : size - w.written.length = (front.length - w.written.length) + (size - front.length) := by
    omega
  rw [Writer.block, holds.sized, gap, ← List.replicate_append_replicate, ← List.append_assoc,
    holds.written]

theorem length_block (holds : w.Holds size front) : w.block.length = size := by
  have inside := holds.inside
  rw [holds.block, List.length_append, List.length_replicate]
  omega

theorem take_block (holds : w.Holds size front) : w.block.take front.length = front := by
  rw [holds.block, List.take_left]

theorem drop_block (holds : w.Holds size front) (more : Nat) :
    w.block.drop (front.length + more) = List.replicate (size - (front.length + more)) 0 := by
  rw [holds.block, List.drop_append, List.drop_of_length_le (Nat.le_add_right _ _), List.nil_append,
    List.drop_replicate, Nat.add_sub_cancel_left, Nat.sub_sub]

end Holds
end Writer
end Hid.Wire
