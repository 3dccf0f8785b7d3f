import Hid.Dispatch.Message
import Hid.Failure
import Hid.Wire.Layout

/-!
What a command handler sees: its decoded parameters and access to the variable parts
of the request. Each access that the client's request does not support fails with a
violation in the name of the command.
-/

namespace Hid.Dispatch

open Wire (Bytes Layout)

structure Context (α : Type) where
  opcode : Quantity
  name : String
  parameters : α
  session : Session
  request : Request

/-- The item at an index, which only a natural number can have. -/
def item? (items : List α) (index : Quantity) : Option α :=
  index.plain.toNat?.bind (items[·]?)

theorem item?_natCast (items : List α) (i : Nat) : item? items (i : Quantity) = items[i]? := by
  rw [item?, Quantity.plain_int, Quantity.toNat?, if_pos (Int.natCast_nonneg i)]
  rfl

namespace Context

/-- A buffer of the request; a missing one is empty. -/
def rawBuffer (c : Context α) (index : Quantity) : Bytes := (item? c.request.buffers index).getD []

/-- A buffer read as a run of elements. -/
def readBuffer (c : Context α) (index : Quantity) (l : Layout β) : Except Failure (List β) :=
  match l.decodeAll (c.rawBuffer index) with
  | .ok values => .ok values
  | .error (.violation v) => .error (.violation (v.raisedBy c.opcode c.name))
  | .error (.fault f) => .error (.fault f)

/-- The handle at a position, which must be a copied one. -/
def copyHandle (c : Context α) (index : Quantity) : Except Failure Quantity :=
  match item? c.request.handles index with
  | some ⟨.copy, handle⟩ => .ok handle
  | _ =>
      let v := Violation.make c.name .handleCount (index + 1) c.request.handles.length
        ("expected a copy handle at position " ++ index.text)
      .error (.violation (v.raisedBy c.opcode c.name))

/-- Demands what only a malformed request can break. -/
def demand (c : Context α) (condition : Bool) (detail : String)
    (expected : Quantity := 1) (actual : Quantity := 0) : Except Failure Unit :=
  if condition then .ok ()
  else
    let v := Violation.make c.name .contract expected actual detail
    .error (.violation (v.raisedBy c.opcode c.name))

end Context
end Hid.Dispatch
