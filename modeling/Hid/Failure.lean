import Hid.Wire.Fault

/-!
What can end a command handler before it replies: a breach by the client, a mistake
in a layout, or an error of the device layer. Only a breach is told to the client as
such; every other failure shows as the same unspecific result code.
-/

namespace Hid

inductive Failure where
  | violation (v : Violation)
  | fault (f : Wire.Fault)
  /-- A reply with output for a command that declares none. -/
  | undeclaredOutput
  /-- A value of the device layer that is missing, or is not whole where it has to be. -/
  | unusableValue
  /-- A capacity that is no positive integer. -/
  | invalidCapacity (capacity : Quantity)
  /-- An error of the device layer with its own text. -/
  | raised (message : String)
  deriving DecidableEq, Repr

namespace Failure

def message : Failure → String
  | violation v => v.message
  | fault f => f.message
  | undeclaredOutput => "Command replied with output but declares no output layout"
  | unusableValue => "The device layer gave no value that can be sent"
  | invalidCapacity capacity =>
      "Activation registry capacity must be a positive integer, got " ++ capacity.text
  | raised message => message

end Failure
end Hid
