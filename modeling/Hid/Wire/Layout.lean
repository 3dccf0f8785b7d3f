import Hid.Wire.Field

/-!
Layouts: named descriptions of blocks of one fixed size. A block is decoded only if it
has exactly that size and the layout reads all of it; a value is encoded only if the
layout fills the block. A buffer is a run of blocks at the stride of the size, each
read on its own.
-/

namespace Hid.Wire

/-- How values of a type are read from and written to blocks of `size` bytes. -/
structure Layout (α : Type) where
  name : String
  size : Nat
  read : Reader → Except Fault (α × Reader)
  write : α → Writer → Except Fault Writer

namespace Layout

/-- A layout under another name, with a size that is declared apart from its fields. The
size must be a natural number; whether the fields fill it shows when a block is read or
written. -/
def declare (name : String) (size : Quantity) (layout : Layout α) : Except Fault (Layout α) :=
  match size.plain.toNat? with
  | some size => .ok { layout with name := name, size := size }
  | none => .error (.invalidSize name size)

/-- A block without inner structure: writing demands exactly `size` bytes. -/
def rawBytes (name : String) (size : Nat) : Layout Bytes where
  name := name
  size := size
  read := (Field.bytes size).read
  write := fun block w =>
    if block.length = size then (Field.bytes size).write block w
    else .error (.wrongLength name size block.length)

def decode (l : Layout α) (block : Bytes) : Except Refusal α :=
  if block.length = l.size then
    match l.read (.ofBlock block) with
    | .error fault => .error (.fault fault)
    | .ok (v, r) =>
        if r.position = (l.size : Quantity) then .ok v
        else .error (.fault (.misread l.name r.position l.size))
  else .error (.violation (.make l.name .parameterSize l.size block.length))

theorem decode_of_length_ne (l : Layout α) {block : Bytes} (other : block.length ≠ l.size) :
    l.decode block = .error (.violation (.make l.name .parameterSize l.size block.length)) :=
  if_neg other

/-- A block of the right size is read; what is read counts if the whole block was. -/
theorem decode_of_length_eq (l : Layout α) {block : Bytes} (whole : block.length = l.size) :
    l.decode block = match l.read (.ofBlock block) with
      | .error fault => .error (.fault fault)
      | .ok (v, r) =>
          if r.position = (l.size : Quantity) then .ok v
          else .error (.fault (.misread l.name r.position l.size)) :=
  if_pos whole

def encode (l : Layout α) (v : α) : Except Fault Bytes := do
  let w ← l.write v (← Writer.declare l.size)
  w.finish

/-- A block of zeros. -/
def zeros (l : Layout α) : Except Fault Bytes := (Writer.declare l.size).map (·.block)

/-- The blocks of `stride` bytes at the start of a buffer. -/
def strides (stride : Nat) : Nat → Bytes → List Bytes
  | 0, _ => []
  | count + 1, buffer => buffer.take stride :: strides stride count (buffer.drop stride)

/-- The values of a buffer. Each is read from its own block, which it need not use up. -/
def decodeAll (l : Layout α) (buffer : Bytes) : Except Refusal (List α) :=
  if l.size = 0 then .error (.fault (.noStride l.name))
  else if buffer.length % l.size ≠ 0 then
    .error (.violation (.make l.name .bufferStride l.size buffer.length
      ("buffer of " ++ toString buffer.length ++ " bytes is not a multiple of the " ++
        (l.size : Quantity).text ++ "-byte stride")))
  else
    (strides l.size (buffer.length / l.size) buffer).mapM fun block =>
      match l.read (.ofBlock block) with
      | .error fault => .error (.fault fault)
      | .ok (v, _) => .ok v

/-- The blocks of all values, one behind the other. That they all fit into a block is found
out first. -/
def encodeAll (l : Layout α) (vs : List α) : Except Fault Bytes := do
  discard (Writer.declare (l.size * vs.length : Nat))
  let blocks ← vs.mapM l.encode
  return blocks.flatten

end Layout
end Hid.Wire
