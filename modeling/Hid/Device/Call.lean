import Hid.Device.Answer

/-!
The calls that the service makes of the device layer, and the kind of answer to each.
An `aruid` names the client on whose behalf a call is made.
-/

namespace Hid.Device

open Number (Binary64)
open Wire (Bytes)

/-- The resources that are made ready in the same two steps. -/
inductive Input where
  | debugPad | touchScreen | mouse | keyboard | gesture | consoleSixAxis | sevenSixAxis
  deriving DecidableEq, Repr

/-! ### Motion sensors -/

inductive SixAxisCall where
  | setEnabled (handle : DeviceHandle) (enabled : Bool)
  | isFusionEnabled (handle : DeviceHandle)
  | setFusionEnabled (handle : DeviceHandle) (enabled : Bool)
  | setFusionParameters (handle : DeviceHandle) (parameters : FusionParameters)
  | getFusionParameters (handle : DeviceHandle)
  | setDriftMode (handle : DeviceHandle) (mode : Int)
  | getDriftMode (handle : DeviceHandle)
  | isAtRest (handle : DeviceHandle)
  | enablePassthrough (handle : DeviceHandle) (enabled : Bool)
  | isPassthroughEnabled (handle : DeviceHandle)
  | loadCalibration (handle : DeviceHandle)
  | getIcInformation (handle : DeviceHandle)
  deriving DecidableEq, Repr

@[reducible] def SixAxisCall.kind : SixAxisCall → Kind
  | setEnabled .. | setFusionEnabled .. | setFusionParameters .. | setDriftMode ..
  | enablePassthrough .. => .code
  | isFusionEnabled .. | isPassthroughEnabled .. => .report .flag
  | getFusionParameters .. => .report .fusion
  | getDriftMode .. => .report .number
  | isAtRest .. => .flag
  | loadCalibration .. | getIcInformation .. => .report .block

/-! ### Controllers -/

inductive NpadCall where
  | activate (aruid : Int)
  | setRevision (aruid revision : Int)
  | setStyleSet (aruid styleSet : Int)
  | getStyleSet (aruid : Int)
  | setIds (aruid : Int) (ids : List Int)
  | acquireUpdateEvent (aruid id : Int)
  | disconnect (aruid id : Int)
  | getLedPattern (id : Int)
  | setHoldType (aruid holdType : Int)
  | getHoldType (aruid : Int)
  | setMode (aruid id deviceType : Int) (mode : JoyAssignmentMode)
  | mergeSingles (aruid first second : Int)
  | setHandheldMode (aruid mode : Int)
  | getHandheldMode (aruid : Int)
  | swap (aruid first second : Int)
  | isHomeProtected (aruid id : Int)
  | protectHome (aruid id : Int) (enabled : Bool)
  | setCenterClamp (aruid : Int) (enabled : Bool)
  | setCaptureButton (aruid styleSet button : Int)
  | clearCaptureButton (aruid : Int)
  | isFirmwareUpdateAvailable (aruid : Int) (handle : DeviceHandle)
  | resetNewlyAssigned (aruid : Int) (handle : DeviceHandle)
  deriving DecidableEq, Repr

@[reducible] def NpadCall.kind : NpadCall → Kind
  | setRevision .. | disconnect .. | setCenterClamp .. => .done
  | getStyleSet .. | acquireUpdateEvent .. | getHoldType .. | getHandheldMode .. => .report .number
  | getLedPattern .. => .report .word
  | isHomeProtected .. => .report .flag
  | setMode .. => .modeChange
  | isFirmwareUpdateAvailable .. => .flag
  | activate .. | setStyleSet .. | setIds .. | setHoldType .. | mergeSingles ..
  | setHandheldMode .. | swap .. | protectHome .. | setCaptureButton .. | clearCaptureButton ..
  | resetNewlyAssigned .. => .code

/-! ### Motors -/

/-- The views under which a vibration device can be looked up. -/
inductive MotorView where
  | any | standard | gc | n64
  deriving DecidableEq, Repr

inductive VibrationCall where
  | getInfo (handle : DeviceHandle)
  | send (aruid : Int) (handle : DeviceHandle) (value : VibrationValue)
  | isAruidActive (aruid : Int)
  /-- Whether a device of that view is behind the handle. -/
  | find (view : MotorView) (handle : DeviceHandle)
  | setMasterVolume (volume : Binary64)
  | getMasterVolume
  | beginPermitSession (aruid : Int)
  | endPermitSession
  deriving DecidableEq, Repr

@[reducible] def VibrationCall.kind : VibrationCall → Kind
  | getInfo .. => .report .vibrationInfo
  | isAruidActive .. => .report .flag
  | find .. => .flag
  | getMasterVolume => .report .volume
  | send .. | setMasterVolume .. | beginPermitSession .. | endPermitSession => .code

/-- Calls of a vibration device that has been found. -/
inductive MotorCall where
  | activate
  | isMounted
  | getActualValue
  | sendGcErm (command : Int)
  | getActualGcErm
  | sendBool (isVibrating : Bool)
  deriving DecidableEq, Repr

@[reducible] def MotorCall.kind : MotorCall → Kind
  | activate | sendGcErm .. | sendBool .. => .code
  | isMounted => .flag
  | getActualValue => .report .vibration
  | getActualGcErm => .report .number

/-! ### Palmas -/

inductive PalmaCall where
  | getConnectionHandle (id : Int)
  | setUp (handle : PalmaHandle)
  | acquireOperationEvent (handle : PalmaHandle)
  | getOperationInfo (handle : PalmaHandle)
  | playActivity (handle : PalmaHandle) (activity : Int)
  | setFrMode (handle : PalmaHandle) (mode : Int)
  | readStep (handle : PalmaHandle)
  | enableStep (handle : PalmaHandle) (enabled : Bool)
  | resetStep (handle : PalmaHandle)
  | readUniqueCode (handle : PalmaHandle)
  | invalidateUniqueCode (handle : PalmaHandle)
  | writeLedPattern (handle : PalmaHandle) (unknown : Int) (pattern : Bytes)
  | writeWaveEntry (handle : PalmaHandle) (waveSet : Int) (memory : TransferMemory) (size : Int)
  | setDatabaseVersion (handle : PalmaHandle) (version : Int)
  | getDatabaseVersion (handle : PalmaHandle)
  | getOperationResult (handle : PalmaHandle)
  | setAllConnectable (connectable : Bool)
  | pair (handle : PalmaHandle)
  | setBoostMode (enabled : Bool)
  deriving DecidableEq, Repr

@[reducible] def PalmaCall.kind : PalmaCall → Kind
  | getConnectionHandle .. => .report .palma
  | acquireOperationEvent .. => .object
  | getOperationInfo .. => .report .operation
  | setUp .. | playActivity .. | setFrMode .. | readStep .. | enableStep .. | resetStep ..
  | getOperationResult .. => .code
  | readUniqueCode .. | invalidateUniqueCode .. | writeLedPattern .. | writeWaveEntry ..
  | setDatabaseVersion .. | getDatabaseVersion .. | setAllConnectable .. | pair ..
  | setBoostMode .. => .done

/-! ### All calls -/

inductive Call where
  | createAppletResource (aruid : Int)
  | getSharedMemoryHandle (aruid : Int)
  /-- Looks up the memory behind a transferred handle; no device is touched. -/
  | getTransferMemory (handle : Quantity)
  | activate (input : Input)
  | activateForApplet (input : Input) (aruid : Int)
  | setDimensions (width height : Int)
  | setTransferMemory (memory : TransferMemory)
  | resetTimestamp
  | sixAxis (c : SixAxisCall)
  | npad (c : NpadCall)
  | vibration (c : VibrationCall)
  | motor (c : MotorCall)
  | palma (c : PalmaCall)
  deriving DecidableEq, Repr

namespace Call

@[reducible] def kind : Call → Kind
  | createAppletResource .. | activate .. | activateForApplet .. => .code
  | getSharedMemoryHandle .. => .report .number
  | getTransferMemory .. => .memory
  | setDimensions .. | setTransferMemory .. | resetTimestamp => .done
  | sixAxis c => c.kind
  | npad c => c.kind
  | vibration c => c.kind
  | motor c => c.kind
  | palma c => c.kind

/-- The answers to a call. -/
abbrev Answer (c : Call) : Type := c.kind.Value

end Call
end Hid.Device
