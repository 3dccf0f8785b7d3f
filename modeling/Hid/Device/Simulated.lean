import Hid.Device.Call
import Hid.Limits

/-!
A simulated device layer in which every device is present and takes every command. The
memories that clients lend are given.
-/

namespace Hid.Device.Simulated

open Number (Binary64)

/-- A success with a value. -/
def present (value : α) : Report α := ⟨.success, some value⟩

def half : Binary64 := .ofDecimal false 5 (-1)

def quarter : Binary64 := .ofDecimal false 25 (-2)

def sixAxis : (c : SixAxisCall) → c.kind.Value
  | .setEnabled .. | .setFusionEnabled .. | .setFusionParameters .. | .setDriftMode ..
  | .enablePassthrough .. => ResultCode.success
  | .isFusionEnabled .. => present true
  | .getFusionParameters .. => present ⟨half, quarter⟩
  | .getDriftMode .. => present ZeroDriftMode.tight.value
  | .isAtRest .. => true
  | .isPassthroughEnabled .. => present false
  | .loadCalibration .. => present (List.replicate Limits.calibrationParameterSize 7)
  | .getIcInformation .. => present (List.replicate Limits.icInformationSize 9)

def npad : (c : NpadCall) → c.kind.Value
  | .setRevision .. | .disconnect .. | .setCenterClamp .. => ()
  | .getStyleSet .. => present 0x3f
  | .acquireUpdateEvent .. => present 0x1234
  | .getLedPattern .. => present 257
  | .getHoldType .. => present JoyHoldType.horizontal.value
  | .setMode .. => ⟨true, 4⟩
  | .getHandheldMode .. => present HandheldActivationMode.none.value
  | .isHomeProtected .. => present true
  | .isFirmwareUpdateAvailable .. => false
  | .activate .. | .setStyleSet .. | .setIds .. | .setHoldType .. | .mergeSingles ..
  | .setHandheldMode .. | .swap .. | .protectHome .. | .setCaptureButton .. | .clearCaptureButton ..
  | .resetNewlyAssigned .. => ResultCode.success

def vibration : (c : VibrationCall) → c.kind.Value
  | .getInfo .. => present ⟨1, 2⟩
  | .isAruidActive .. => present true
  | .find .. => true
  | .getMasterVolume => present (.ofInt 1)
  | .send .. | .setMasterVolume .. | .beginPermitSession .. | .endPermitSession =>
      ResultCode.success

def motor : (c : MotorCall) → c.kind.Value
  | .activate | .sendGcErm .. | .sendBool .. => ResultCode.success
  | .isMounted => true
  | .getActualValue => present ⟨half, .ofInt 100, quarter, .ofInt 200⟩
  | .getActualGcErm => present GcErmCommand.start.value

def palma : (c : PalmaCall) → c.kind.Value
  | .getConnectionHandle id => present ⟨id⟩
  | .acquireOperationEvent .. => some 0x77
  | .getOperationInfo .. => present ⟨3, List.replicate Limits.operationDataSize 1⟩
  | .setUp .. | .playActivity .. | .setFrMode .. | .readStep .. | .enableStep ..
  | .resetStep .. | .getOperationResult .. => ResultCode.success
  | .readUniqueCode .. | .invalidateUniqueCode .. | .writeLedPattern .. | .writeWaveEntry ..
  | .setDatabaseVersion .. | .getDatabaseVersion .. | .setAllConnectable .. | .pair ..
  | .setBoostMode .. => ()

/-- The memory lent under a handle; its place follows from the handle. -/
def lend (handle size : Quantity) : TransferMemory :=
  ⟨handle, 0x80000000 + handle.truncate, size⟩

/-- The answer to a call. Of the memories with one handle, the last one counts. -/
def answer (memories : List TransferMemory) : (c : Call) → c.Answer
  | .createAppletResource .. | .activate .. | .activateForApplet .. => ResultCode.success
  | .getSharedMemoryHandle .. => present 0x42
  | .getTransferMemory handle => memories.reverse.find? (·.handle.plain == handle.plain)
  | .setDimensions .. | .setTransferMemory .. | .resetTimestamp => ()
  | .sixAxis c => sixAxis c
  | .npad c => npad c
  | .vibration c => vibration c
  | .motor c => motor c
  | .palma c => palma c

end Hid.Device.Simulated
