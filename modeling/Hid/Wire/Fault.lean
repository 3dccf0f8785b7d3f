import Hid.Violation

/-!
What can go wrong while a block is read or written. A fault is a mistake of the
layout or of the value at hand; a violation is a block whose length its layout does
not admit. `Refusal` is either.
-/

namespace Hid.Wire

/-- A field that leaves its block, a layout that does not fill its size, or a layout
that cannot be built. -/
inductive Fault where
  /-- A scalar reaches past an end of its block. -/
  | outOfBounds
  | readOverrun (count left : Quantity)
  | skipOverrun (count left : Quantity)
  | writeOverrun (count : Nat)
  | paddingOverrun (count : Quantity)
  /-- Bytes were to be written in front of their block. -/
  | misplaced
  /-- A block was taken elsewhere than at its end. -/
  | unfinished (position : Quantity) (size : Nat)
  /-- A layout read less, or more, than its size. -/
  | misread (layout : String) (position : Quantity) (size : Nat)
  /-- A block without inner structure and of the wrong length was to be written. -/
  | wrongLength (layout : String) (size length : Nat)
  | invalidSize (layout : String) (size : Quantity)
  /-- A block was to be made of a length that no block has. -/
  | invalidLength (length : Quantity)
  /-- A block was to be made of more bytes than there is room for. -/
  | noRoom
  /-- A layout without bytes has no stride. -/
  | noStride (layout : String)
  deriving DecidableEq, Repr

namespace Fault

def message : Fault → String
  | outOfBounds => "Offset is outside the bounds of the DataView"
  | readOverrun count left =>
      "Read of " ++ count.text ++ " bytes overruns block (" ++ left.text ++ " left)"
  | skipOverrun count left =>
      "Skip of " ++ count.text ++ " bytes overruns block (" ++ left.text ++ " left)"
  | writeOverrun count => "Write of " ++ toString count ++ " bytes overruns block"
  | paddingOverrun count => "Padding of " ++ count.text ++ " bytes overruns block"
  | misplaced => "offset is out of bounds"
  | unfinished position size =>
      "Block written to " ++ position.text ++ " of " ++ (size : Quantity).text ++ " bytes"
  | misread layout position size =>
      "Layout " ++ layout ++ " consumed " ++ position.text ++ " of " ++ (size : Quantity).text ++
        " bytes"
  | wrongLength layout size length =>
      layout ++ " expects " ++ (size : Quantity).text ++ " bytes, got " ++ toString length
  | invalidSize layout size => "Layout " ++ layout ++ " has invalid size " ++ size.text
  | invalidLength length => "Invalid typed array length: " ++ length.text
  | noRoom => "Array buffer allocation failed"
  | noStride layout => "Layout " ++ layout ++ " cannot be used as a buffer element"

/-- Whether the fault is an extent that is out of range: an access outside a block, or a
block of an impossible length. -/
def isOutOfRange : Fault → Bool
  | outOfBounds | readOverrun .. | skipOverrun .. | writeOverrun .. | paddingOverrun ..
  | misplaced | invalidLength .. | noRoom => true
  | _ => false

end Fault

/-- Why a block was not decoded. -/
inductive Refusal where
  | violation (v : Violation)
  | fault (f : Fault)
  deriving DecidableEq, Repr

end Hid.Wire
