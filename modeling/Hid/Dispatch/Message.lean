import Hid.Result
import Hid.Violation
import Hid.Wire.LittleEndian

/-!
Requests, replies and outcomes. Every request has exactly one outcome: a reply, which
carries a result code even when it reports a failure, or a violation.
-/

namespace Hid.Dispatch

open Wire (Bytes)

/-- How a kernel object crosses the session boundary. -/
inductive TransferMode where
  | copy
  | move
  deriving DecidableEq, Repr

/-- A reference to a kernel object. -/
structure Transfer where
  mode : TransferMode
  handle : Quantity
  deriving DecidableEq, Repr

/-- What a reply hands out: a kernel object, nothing in the place of one, or an interface of
the service, the latter by its number in the order of creation. -/
inductive OutputHandle where
  | transfer (t : Transfer)
  | absent (mode : TransferMode)
  | interface (id : Nat)
  deriving DecidableEq, Repr

/-- A request. Of its opcode nothing is known before it is looked up. -/
structure Request where
  opcode : Quantity
  parameters : Bytes := []
  buffers : List Bytes := []
  handles : List Transfer := []
  deriving DecidableEq, Repr

namespace Request

/-- Whether a request brings as many handles as a number says. -/
def hasHandles (request : Request) (count : Quantity) : Bool :=
  (request.handles.length : Quantity).same count

/-- Whether the parameters of a request are as long as a number says. -/
def hasSize (request : Request) (size : Quantity) : Bool :=
  (request.parameters.length : Quantity).same size

theorem hasHandles_iff {request : Request} {n : Nat} :
    request.hasHandles n = true ↔ request.handles.length = n := by
  rw [hasHandles, Quantity.int_same_int, decide_eq_true_iff, Int.ofNat_inj]

theorem hasHandles_zero {request : Request} (none : request.handles = []) :
    request.hasHandles 0 = true := by
  rw [hasHandles, none]
  rfl

end Request

structure Response where
  result : ResultCode
  output : Bytes := []
  buffers : List Bytes := []
  handles : List OutputHandle := []
  deriving DecidableEq, Repr

/-- A token of the client's connection; commands do not act on it. -/
structure Session where
  id : String
  openedAt : Int
  deriving DecidableEq, Repr

inductive Outcome where
  | reply (response : Response)
  | violation (v : Violation)
  deriving DecidableEq, Repr

namespace Outcome

/-- For a transport that aborts on a violation. -/
def unwrap : Outcome → Except Violation Response
  | .reply response => .ok response
  | .violation v => .error v

def isViolation : Outcome → Bool
  | .reply _ => false
  | .violation _ => true

/-- A reply with a result other than success. -/
def isFailedReply : Outcome → Bool
  | .reply response => response.result.isFailure
  | .violation _ => false

end Outcome
end Hid.Dispatch
