import Hid.Wire.Fault
import Hid.Wire.LittleEndian

/-!
Cursors over a block. A reader walks over given bytes, a writer fills a block of a fixed
size. Lengths are numbers: a negative one moves a cursor back, if need be to in front of its
block, where no scalar is read or written, and one with a fraction leaves it between two
bytes, where it reads and writes as if the fraction were not there. Places in a block are
exact; a place in front of it, and the way from there to the end, is the nearest double. An
access that would pass the end of the block fails, and then there is no new cursor: the old
one stays as it was.
-/

namespace Hid.Wire

open Number (twoTo)

/-- Where an offset points to in a block of some length: a negative one counts from the
end, and none points outside. -/
def mark (length : Nat) (offset : Int) : Nat :=
  if offset < 0 then (length + offset).toNat else min offset.toNat length

/-- The bytes from one offset up to another. -/
def Bytes.between (block : Bytes) (start stop : Int) : Bytes :=
  (block.take (mark block.length stop)).drop (mark block.length start)

/-- Offsets within a block cut out the bytes behind the first, as many as lie up to the
second. -/
theorem Bytes.between_of_le (block : Bytes) (start count : Nat)
    (fits : start + count ≤ block.length) :
    Bytes.between block start ((start : Int) + count) = (block.drop start).take count := by
  have first : mark block.length start = start := by unfold mark; split <;> omega
  have second : mark block.length ((start : Int) + count) = start + count := by
    unfold mark; split <;> omega
  rw [Bytes.between, first, second, List.drop_take, Nat.add_sub_cancel_left]

/-- The place that lies a count of bytes behind another. -/
def onward (position count : Quantity) : Quantity :=
  let place := position + count
  if place < 0 then place.rounded else place

/-- The bytes from a place to the end of a block of some length. -/
def wayToEnd (length : Nat) (position : Quantity) : Quantity :=
  let way := (length : Quantity) - position
  if position < 0 then way.rounded else way

/-- A block and the place in it where the next read begins. -/
structure Reader where
  block : Bytes
  position : Quantity
  deriving DecidableEq, Repr

namespace Reader

def ofBlock (block : Bytes) : Reader := ⟨block, 0⟩

/-- The bytes from the position to the end. -/
def remaining (r : Reader) : Quantity := wayToEnd r.block.length r.position

def advance (r : Reader) (count : Quantity) : Reader :=
  { r with position := onward r.position count }

/-- The bytes of a scalar, all of which must lie in the block. -/
def scalar (r : Reader) (width : Nat) : Except Fault (Bytes × Reader) :=
  match r.position.offset? with
  | none => .error .outOfBounds
  | some start =>
      if start + width ≤ r.block.length then
        .ok ((r.block.drop start).take width, r.advance width)
      else .error .outOfBounds

/-- The bytes from here to `count` further on. -/
def take (r : Reader) (count : Quantity) : Except Fault (Bytes × Reader) :=
  if r.remaining < count then .error (.readOverrun count r.remaining)
  else
    let rest := r.advance count
    .ok (Bytes.between r.block r.position.truncate rest.position.truncate, rest)

def skip (r : Reader) (count : Quantity) : Except Fault Reader :=
  if r.remaining < count then .error (.skipOverrun count r.remaining)
  else .ok (r.advance count)

end Reader

/-- The size of a block, its bytes up to the last one that was written, and the place
where the next write begins. All later bytes are zero. -/
structure Writer where
  size : Nat
  written : Bytes
  position : Quantity
  deriving DecidableEq, Repr

namespace Writer

def ofSize (size : Nat) : Writer := ⟨size, [], 0⟩

/-- A writer for a block of a declared length, a fraction of a byte being dropped. Lengths
have up to 53 bits, and there is room for 40 of them. -/
def declare (length : Quantity) : Except Fault Writer :=
  match length.offset? with
  | none => .error (.invalidLength length)
  | some size =>
      if twoTo 53 ≤ size then .error (.invalidLength length)
      else if twoTo 40 ≤ size then .error .noRoom
      else .ok (.ofSize size)

/-- The whole block as it stands. -/
def block (w : Writer) : Bytes :=
  w.written ++ List.replicate (w.size - w.written.length) 0

/-- The bytes from the position to the end. -/
def remaining (w : Writer) : Quantity := wayToEnd w.size w.position

def advance (w : Writer) (count : Quantity) : Writer :=
  { w with position := onward w.position count }

/-- Writes at an offset, over what is there. -/
def overwrite (w : Writer) (start : Nat) (bytes : Bytes) : Writer :=
  let before := (w.written ++ List.replicate (start - w.written.length) 0).take start
  { w with written := before ++ bytes ++ w.written.drop (start + bytes.length) }

/-- Writes bytes at the position if all of them lie in the block. -/
def place? (w : Writer) (bytes : Bytes) : Option Writer := do
  let start ← w.position.offset?
  if start + bytes.length ≤ w.size then
    return (w.overwrite start bytes).advance (bytes.length : Quantity)
  none

/-- Writes the bytes of a scalar. -/
def scalar (w : Writer) (bytes : Bytes) : Except Fault Writer :=
  match w.place? bytes with
  | some w => .ok w
  | none => .error .outOfBounds

/-- Writes bytes. That they pass the end is found out first. -/
def put (w : Writer) (bytes : Bytes) : Except Fault Writer :=
  if w.remaining < (bytes.length : Quantity) then .error (.writeOverrun bytes.length)
  else
    match w.place? bytes with
    | some w => .ok w
    | none => .error .misplaced

/-- Moves on and leaves the bytes between as they are. -/
def pad (w : Writer) (count : Quantity) : Except Fault Writer :=
  if w.remaining < count then .error (.paddingOverrun count)
  else .ok (w.advance count)

/-- The block, once the position has come to its end. -/
def finish (w : Writer) : Except Fault Bytes :=
  if w.position = w.size then .ok w.block else .error (.unfinished w.position w.size)

end Writer
end Hid.Wire
