import Hid.Number.Basic

/-!
Protocol violations: breaches of the wire contract that well-formed requests cannot
commit. They are reported apart from result codes.
-/

namespace Hid

/-- Why a request was refused. -/
inductive Violation.Reason where
  | parameterSize
  | bufferStride
  | handleCount
  | contract
  deriving DecidableEq, Repr

namespace Violation.Reason

def all : List Reason := [parameterSize, bufferStride, handleCount, contract]

def text : Reason → String
  | parameterSize => "parameter-size"
  | bufferStride => "buffer-stride"
  | handleCount => "handle-count"
  | contract => "contract"

end Violation.Reason

/-- A breach by a command. The opcode is absent until a dispatcher attributes it. -/
structure Violation where
  command : String
  reason : Violation.Reason
  expected : Quantity
  actual : Quantity
  message : String
  opcode : Option Quantity := none
  deriving DecidableEq, Repr

namespace Violation

/-- A violation whose message is the detail or, if the detail is empty, the two
quantities. -/
def make (command : String) (reason : Reason) (expected actual : Quantity)
    (detail : String := "") : Violation where
  command := command
  reason := reason
  expected := expected
  actual := actual
  message :=
    if detail.isEmpty then
      command ++ ": " ++ reason.text ++ " mismatch (expected " ++ expected.text ++
        ", got " ++ actual.text ++ ")"
    else command ++ ": " ++ detail

/-- Names the dispatching command; the message stays as it is. -/
def raisedBy (v : Violation) (opcode : Quantity) (command : String) : Violation :=
  { v with opcode := some opcode, command := command }

end Violation
end Hid
