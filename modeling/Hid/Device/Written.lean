import Hid.Device.Call

/-!
Calls in writing, for traces: a name of two parts, the resource and what is asked of
it, and a list of arguments.
-/

namespace Hid.Device

open Number (Binary64)
open Wire (Bytes)

/-- The things that can be written as an argument. -/
inductive Argument where
  | number (n : Quantity)
  /-- A number that has 64 bits on the wire. -/
  | word (n : Int)
  | flag (b : Bool)
  | volume (x : Binary64)
  | numbers (ns : List Int)
  | block (bytes : Bytes)
  | handle (h : DeviceHandle)
  | fusion (p : FusionParameters)
  | vibration (v : VibrationValue)
  | palma (h : PalmaHandle)
  | memory (m : TransferMemory)
  deriving DecidableEq, Repr

/-- A call in writing. -/
structure Written where
  name : String
  arguments : List Argument
  deriving DecidableEq, Repr

def Input.text : Input → String
  | debugPad => "debugPad"
  | touchScreen => "touchScreen"
  | mouse => "mouse"
  | keyboard => "keyboard"
  | gesture => "gesture"
  | consoleSixAxis => "consoleSixAxis"
  | sevenSixAxis => "sevenSixAxis"

def SixAxisCall.written : SixAxisCall → Written
  | setEnabled h enabled => ⟨"setSixAxisEnabled", [.handle h, .flag enabled]⟩
  | isFusionEnabled h => ⟨"isFusionEnabled", [.handle h]⟩
  | setFusionEnabled h enabled => ⟨"setFusionEnabled", [.handle h, .flag enabled]⟩
  | setFusionParameters h p => ⟨"setFusionParameters", [.handle h, .fusion p]⟩
  | getFusionParameters h => ⟨"getFusionParameters", [.handle h]⟩
  | setDriftMode h mode => ⟨"setGyroscopeZeroDriftMode", [.handle h, .number mode]⟩
  | getDriftMode h => ⟨"getGyroscopeZeroDriftMode", [.handle h]⟩
  | isAtRest h => ⟨"isAtRest", [.handle h]⟩
  | enablePassthrough h enabled => ⟨"enableUnalteredPassthrough", [.handle h, .flag enabled]⟩
  | isPassthroughEnabled h => ⟨"isUnalteredPassthroughEnabled", [.handle h]⟩
  | loadCalibration h => ⟨"loadCalibrationParameter", [.handle h]⟩
  | getIcInformation h => ⟨"getIcInformation", [.handle h]⟩

def NpadCall.written : NpadCall → Written
  | activate aruid => ⟨"activate", [.word aruid]⟩
  | setRevision aruid revision => ⟨"setRevision", [.word aruid, .number revision]⟩
  | setStyleSet aruid styles => ⟨"setSupportedStyleSet", [.word aruid, .number styles]⟩
  | getStyleSet aruid => ⟨"getSupportedStyleSet", [.word aruid]⟩
  | setIds aruid ids => ⟨"setSupportedNpadIdType", [.word aruid, .numbers ids]⟩
  | acquireUpdateEvent aruid id => ⟨"acquireStyleSetUpdateEvent", [.word aruid, .number id]⟩
  | disconnect aruid id => ⟨"disconnectNpad", [.word aruid, .number id]⟩
  | getLedPattern id => ⟨"getLedPattern", [.number id]⟩
  | setHoldType aruid holdType => ⟨"setJoyHoldType", [.word aruid, .number holdType]⟩
  | getHoldType aruid => ⟨"getJoyHoldType", [.word aruid]⟩
  | setMode aruid id deviceType mode =>
      ⟨"setNpadMode", [.word aruid, .number id, .number deviceType, .number mode.value]⟩
  | mergeSingles aruid first second =>
      ⟨"mergeSingleJoyAsDualJoy", [.word aruid, .number first, .number second]⟩
  | setHandheldMode aruid mode => ⟨"setHandheldActivationMode", [.word aruid, .number mode]⟩
  | getHandheldMode aruid => ⟨"getHandheldActivationMode", [.word aruid]⟩
  | swap aruid first second =>
      ⟨"swapNpadAssignment", [.word aruid, .number first, .number second]⟩
  | isHomeProtected aruid id =>
      ⟨"isUnintendedHomeButtonInputProtectionEnabled", [.word aruid, .number id]⟩
  | protectHome aruid id enabled =>
      ⟨"enableUnintendedHomeButtonInputProtection", [.word aruid, .number id, .flag enabled]⟩
  | setCenterClamp aruid enabled => ⟨"setAnalogStickUseCenterClamp", [.word aruid, .flag enabled]⟩
  | setCaptureButton aruid styles button =>
      ⟨"setCaptureButtonAssignment", [.word aruid, .number styles, .word button]⟩
  | clearCaptureButton aruid => ⟨"clearCaptureButtonAssignment", [.word aruid]⟩
  | isFirmwareUpdateAvailable aruid h =>
      ⟨"isFirmwareUpdateAvailableForSixAxisSensor", [.word aruid, .handle h]⟩
  | resetNewlyAssigned aruid h =>
      ⟨"resetIsSixAxisSensorDeviceNewlyAssigned", [.word aruid, .handle h]⟩

def MotorView.text : MotorView → String
  | any => "getDevice"
  | standard => "getStandardDevice"
  | gc => "getGcDevice"
  | n64 => "getN64Device"

def VibrationCall.written : VibrationCall → Written
  | getInfo h => ⟨"getDeviceInfo", [.handle h]⟩
  | send aruid h value => ⟨"sendVibrationValue", [.word aruid, .handle h, .vibration value]⟩
  | isAruidActive aruid => ⟨"isAruidActive", [.word aruid]⟩
  | find view h => ⟨view.text, [.handle h]⟩
  | setMasterVolume volume => ⟨"setMasterVolume", [.volume volume]⟩
  | getMasterVolume => ⟨"getMasterVolume", []⟩
  | beginPermitSession aruid => ⟨"beginPermitSession", [.word aruid]⟩
  | endPermitSession => ⟨"endPermitSession", []⟩

def MotorCall.written : MotorCall → Written
  | activate => ⟨"activate", []⟩
  | isMounted => ⟨"isMounted", []⟩
  | getActualValue => ⟨"getActualVibrationValue", []⟩
  | sendGcErm command => ⟨"sendGcErmCommand", [.number command]⟩
  | getActualGcErm => ⟨"getActualGcErmCommand", []⟩
  | sendBool isVibrating => ⟨"sendValueInBool", [.flag isVibrating]⟩

def PalmaCall.written : PalmaCall → Written
  | getConnectionHandle id => ⟨"getConnectionHandle", [.number id]⟩
  | setUp h => ⟨"initialize", [.palma h]⟩
  | acquireOperationEvent h => ⟨"acquireOperationCompleteEvent", [.palma h]⟩
  | getOperationInfo h => ⟨"getOperationInfo", [.palma h]⟩
  | playActivity h activity => ⟨"playActivity", [.palma h, .word activity]⟩
  | setFrMode h mode => ⟨"setFrModeType", [.palma h, .word mode]⟩
  | readStep h => ⟨"readStep", [.palma h]⟩
  | enableStep h enabled => ⟨"enableStep", [.palma h, .flag enabled]⟩
  | resetStep h => ⟨"resetStep", [.palma h]⟩
  | readUniqueCode h => ⟨"readUniqueCode", [.palma h]⟩
  | invalidateUniqueCode h => ⟨"setUniqueCodeInvalid", [.palma h]⟩
  | writeLedPattern h unknown pattern =>
      ⟨"writeRgbLedPatternEntry", [.palma h, .word unknown, .block pattern]⟩
  | writeWaveEntry h waveSet memory size =>
      ⟨"writeWaveEntry", [.palma h, .word waveSet, .memory memory, .word size]⟩
  | setDatabaseVersion h version =>
      ⟨"setDatabaseIdentificationVersion", [.palma h, .number version]⟩
  | getDatabaseVersion h => ⟨"getDatabaseIdentificationVersion", [.palma h]⟩
  | getOperationResult h => ⟨"getOperationResult", [.palma h]⟩
  | setAllConnectable connectable => ⟨"setIsAllConnectable", [.flag connectable]⟩
  | pair h => ⟨"pair", [.palma h]⟩
  | setBoostMode enabled => ⟨"setBoostMode", [.flag enabled]⟩

/-- The writing of a call of a resource. -/
def Written.of (resource : String) (w : Written) : Written :=
  { w with name := resource ++ "." ++ w.name }

def Call.written : Call → Written
  | createAppletResource aruid => ⟨"root.createAppletResource", [.word aruid]⟩
  | getSharedMemoryHandle aruid => ⟨"root.getSharedMemoryHandle", [.word aruid]⟩
  | getTransferMemory handle => ⟨"kernel.getTransferMemory", [.number handle]⟩
  | activate input => ⟨input.text ++ ".activate", []⟩
  | activateForApplet input aruid => ⟨input.text ++ ".activateForApplet", [.word aruid]⟩
  | setDimensions width height =>
      ⟨"touchScreen.setDimensions", [.number width, .number height]⟩
  | setTransferMemory memory => ⟨"sevenSixAxis.setTransferMemory", [.memory memory]⟩
  | resetTimestamp => ⟨"sevenSixAxis.resetTimestamp", []⟩
  | sixAxis c => c.written.of "sixAxis"
  | npad c => c.written.of "npad"
  | vibration c => c.written.of "vibration"
  | motor c => c.written.of "device"
  | palma c => c.written.of "palma"

end Hid.Device
