import Hid.Result
import Hid.Wire.LittleEndian
import Hid.Wire.Parameters

/-!
What the device layer answers with. Every call has a kind, and the kind says what type
its answer has. A report pairs a result code with a value. The value means something only
if the code is success; it may be there if it is not, and be missing if it is.
-/

namespace Hid.Device

open Number (Binary64)
open Wire (Bytes)

/-- A result code and the value that came with it, if one did. -/
structure Report (α : Type) where
  result : ResultCode
  value : Option α
  deriving DecidableEq, Repr

/-- A report of something made from the value. -/
def Report.map (f : α → β) (report : Report α) : Report β := ⟨report.result, report.value.map f⟩

/-- Memory that a client lends the service. -/
structure TransferMemory where
  handle : Quantity
  sourceAddress : Int
  size : Quantity
  deriving DecidableEq, Repr

/-- What a palma is busy with, and the data of it. -/
structure PalmaOperation where
  operationType : Int
  data : Bytes
  deriving DecidableEq, Repr

/-- The kinds of answer. -/
inductive Kind where
  | done
  | code
  | flag
  | number
  /-- A kernel object, or nothing in its place. -/
  | object
  /-- A number that has 64 bits on the wire. -/
  | word
  | volume
  | fusion
  | vibration
  | vibrationInfo
  | palma
  | operation
  | modeChange
  | block
  | memory
  | report (k : Kind)
  deriving DecidableEq, Repr

/-- The answers of a kind. -/
@[reducible] def Kind.Value : Kind → Type
  | done => Unit
  | code => ResultCode
  | flag => Bool
  | number => Quantity
  | object => Option Quantity
  | word => Int
  | volume => Binary64
  | fusion => FusionParameters
  | vibration => VibrationValue
  | vibrationInfo => VibrationDeviceInfo
  | palma => PalmaHandle
  | operation => PalmaOperation
  | modeChange => NpadModeChange
  | block => Bytes
  | memory => Option TransferMemory
  | report k => Report k.Value

end Hid.Device
