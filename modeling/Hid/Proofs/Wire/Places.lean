import Hid.Proofs.Wire.Catalogue

/-!
Where the values of a block stand. A block is read slot by slot, and a slot reads the bytes at an
offset that only the slots before it decide. So what a layout of the catalogue reads can be told
from the block alone, as numbers, flags, singles and handles at fixed offsets
(`Shape.decode_places`).
-/

namespace Hid.Wire

open Number (Binary64)

/-- The bytes of a block from an offset on, as many as asked for. -/
def window (offset width : Nat) (block : Bytes) : Bytes := (block.drop offset).take width

def numberAt (offset width : Nat) (block : Bytes) : Int :=
  LittleEndian.value (window offset width block)

def flagAt (offset : Nat) (block : Bytes) : Bool :=
  LittleEndian.value (window offset 1 block) != 0

def singleAt (offset : Nat) (block : Bytes) : Binary64 :=
  .widen (LittleEndian.value (window offset 4 block))

/-- A handle takes up three bytes. -/
def handleAt (offset : Nat) (block : Bytes) : DeviceHandle :=
  ⟨numberAt offset 1 block, numberAt (offset + 1) 1 block, numberAt (offset + 2) 1 block⟩

/-- A number is the same in every block that begins with its bytes. -/
theorem numberAt_take {offset width length : Nat} (inside : offset + width ≤ length)
    (block : Bytes) : numberAt offset width (block.take length) = numberAt offset width block := by
  rw [numberAt, numberAt, window, window, List.drop_take, List.take_take,
    Nat.min_eq_left (by omega)]

/-- The values of slots that begin at an offset. -/
def Values.places : (slots : List Slot) → Nat → Bytes → Values slots
  | [], _, _ => ()
  | slot :: slots, offset, block =>
      (slot.field.ofBytes (window offset slot.field.width block),
        places slots (offset + slot.field.width) block)

theorem Values.ofBytes_drop (slots : List Slot) (offset : Nat) (block : Bytes) :
    ofBytes slots (block.drop offset) = places slots offset block := by
  induction slots generalizing offset with
  | nil => rfl
  | cons slot slots ih => rw [ofBytes, List.drop_drop, ih, places, window]

/-- A block of the right size is read as what stands at the places of the slots. -/
theorem Shape.decode_places (s : Shape) {block : Bytes} (whole : block.length = s.layout.size) :
    s.layout.decode block = .ok (s.record.make (Values.places s.record.slots 0 block)) := by
  rw [s.decode_eq whole, ← Values.ofBytes_drop, List.drop_zero]

theorem Shape.eq_places_of_decode {s : Shape} {block : Bytes} {v : s.Value}
    (decoded : s.layout.decode block = .ok v) :
    v = s.record.make (Values.places s.record.slots 0 block) := by
  by_cases whole : block.length = s.layout.size
  · rw [s.decode_places whole] at decoded
    exact (Except.ok.inj decoded).symm
  · rw [Layout.decode_of_length_ne _ whole] at decoded
    cases decoded

example (block : Bytes) (whole : block.length = 16) :
    Layout.unalteredPassthrough.decode block =
      .ok ⟨flagAt 0 block, handleAt 1 block, numberAt 8 8 block⟩ :=
  Shape.unalteredPassthrough.decode_places whole

end Hid.Wire
