import Hid.Service.Handler

/-!
Memory that a client lends the service. It comes as a copied handle of the request, is
looked up without touching a device, and must have the one size its command requires,
both as declared and as found.
-/

namespace Hid.Commands

open Device (TransferMemory)
open Dispatch (Context)
open Number (nearestInteger)
open Service Service.Handler

/-- The memory behind a copied handle of the request. -/
def lentMemory (c : Context α) (index : Nat) : Handler (Option TransferMemory) := do
  let handle ← attempt (c.copyHandle index)
  ask (.getTransferMemory handle)

/-- Demands that a declared size is the required one. -/
def demandDeclared (c : Context α) (what : String) (required : Nat) (declared : Int) :
    Handler Unit :=
  attempt (c.demand (declared = required) what required (nearestInteger declared))

/-- Demands that a memory has the required size. -/
def demandSize (c : Context α) (what : String) (required : Nat) (memory : TransferMemory) :
    Handler Unit :=
  attempt (c.demand (memory.size = (required : Quantity)) what required memory.size)

end Hid.Commands
