import Hid.Wire.Cursor

/-!
Fields: the parts that a block is made of. Whole numbers wrap modulo their width on
writing, signed ones are in two's complement, a flag is one byte (any non-zero byte
reads as true), a single is a 32-bit float handed on as a double, and padding is passed
over. The lengths of byte blocks and of padding are numbers; a negative one goes back.
-/

namespace Hid.Wire

open Number (Binary64)

/-- One part of a block. Widths and counts are in bytes. A byte block is written at the
length that it has. -/
inductive Field where
  | unsigned (width : Nat)
  | signed (width : Nat)
  | flag
  | single
  | bytes (count : Quantity)
  | pad (count : Quantity)
  deriving DecidableEq, Repr

namespace Field

abbrev u8 : Field := .unsigned 1
abbrev u16 : Field := .unsigned 2
abbrev u32 : Field := .unsigned 4
abbrev u64 : Field := .unsigned 8
abbrev s32 : Field := .signed 4
abbrev s64 : Field := .signed 8

/-- The values of a field. Padding has nothing to say. -/
abbrev Value : Field → Type
  | .unsigned _ => Int
  | .signed _ => Int
  | .flag => Bool
  | .single => Binary64
  | .bytes _ => Bytes
  | .pad _ => Unit

/-- The whole bytes that a field takes up; none, if it goes back. -/
def width : Field → Nat
  | .unsigned width => width
  | .signed width => width
  | .flag => 1
  | .single => 4
  | .bytes count => count.truncate.toNat
  | .pad count => count.truncate.toNat

/-- The value of the bytes of a field. -/
def ofBytes : (f : Field) → Bytes → f.Value
  | .unsigned _, block => (LittleEndian.value block : Int)
  | .signed _, block => LittleEndian.signedValue block
  | .flag, block => LittleEndian.value block != 0
  | .single, block => Binary64.widen (LittleEndian.value block)
  | .bytes _, block => block
  | .pad _, _ => ()

/-- The bytes of a value. Padding writes none. -/
def toBytes : (f : Field) → f.Value → Bytes
  | .unsigned width, n => LittleEndian.bytesOfInt width n
  | .signed width, n => LittleEndian.bytesOfInt width n
  | .flag, b => [if b then 1 else 0]
  | .single, x => LittleEndian.bytes 4 x.narrow
  | .bytes _, block => block
  | .pad _, _ => []

def read (f : Field) (r : Reader) : Except Fault (f.Value × Reader) :=
  let found := match f with
    | .bytes count => r.take count
    | .pad count => (r.skip count).map ([], ·)
    | scalar => r.scalar scalar.width
  found.map fun (block, rest) => (f.ofBytes block, rest)

def write (f : Field) (v : f.Value) (w : Writer) : Except Fault Writer :=
  let block := f.toBytes v
  match f with
  | .bytes _ => w.put block
  | .pad count => w.pad count
  | _ => w.scalar block

end Field

/-- A field and its name. In a record a dot in a name leads into a value inside the value,
the empty name stands for the value as a whole, and padding has no name. -/
structure Slot where
  name : String
  field : Field
  deriving DecidableEq, Repr

/-- Unnamed padding. -/
def gap (count : Nat) : Slot := ⟨"", .pad count⟩

/-- One value per slot, in order. -/
def Values : List Slot → Type
  | [] => Unit
  | slot :: slots => slot.field.Value × Values slots

/-- The bytes that a sequence of slots covers. -/
def totalWidth : List Slot → Nat
  | [] => 0
  | slot :: slots => slot.field.width + totalWidth slots

namespace Values

def read : (slots : List Slot) → Reader → Except Fault (Values slots × Reader)
  | [], r => .ok ((), r)
  | slot :: slots, r => do
      let (v, r) ← slot.field.read r
      let (vs, r) ← read slots r
      .ok ((v, vs), r)

def write : (slots : List Slot) → Values slots → Writer → Except Fault Writer
  | [], _, w => .ok w
  | slot :: slots, (v, vs), w => do
      let w ← slot.field.write v w
      write slots vs w

end Values
end Hid.Wire
