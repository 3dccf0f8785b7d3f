import Hid.Commands.LentMemory
import Hid.Controllers
import Hid.Limits

/-!
Commands of the motion sensors. Most demand a valid handle and otherwise answer with
the code of its validation and nothing else; the seven six-axis sensor is set up with
memory that the client lends.
-/

namespace Hid.Commands

open Device (Report)
open Dispatch (Command Context)
open Service Service.Handler
open Wire (Bytes Layout)

/-! ### Sensors on a controller -/

/-- A command on the sensor of a valid handle. -/
def onSensor (name : String) (parameters : Layout α) (handle : α → DeviceHandle)
    (act : α → Handler ResultCode) : Command Program :=
  coded name parameters fun p =>
    let code := validateSixAxisHandle (handle p)
    if code.isFailure then return code else act p

/-- A command that asks the sensor of a valid handle for a value. -/
def ofSensor (name : String) (output : Layout β) (act : DeviceHandle → Handler (Report β)) :
    Command Program :=
  replied name .handleAruid output fun p => do
    let code := validateSixAxisHandle p.handle
    if code.isFailure then return { result := code }
    let report ← act p.handle
    return { result := report.result, output := report.value }

/-- A command that asks the sensor of a valid handle for data of one size. -/
def blockOfSensor (name block : String) (size : Nat)
    (act : DeviceHandle → Handler (Report Bytes)) : Command Program :=
  .implemented
    { name
      parameters := Layout.handleAruid
      Output := Unit
      handler := fun c => do
        let code := validateSixAxisHandle c.parameters.handle
        if code.isFailure then return { result := code }
        let report ← act c.parameters.handle
        if report.result.isFailure then return { result := report.result }
        let data ← sized block size (← required report.value)
        return { result := report.result, buffers := [data] } }

/-- Writes the parameters and then switches fusion on, whatever came of the writing. -/
def resetFusion (reset : FusionParameters) (h : DeviceHandle) : Handler ResultCode := do
  let written ← ask (.sixAxis (.setFusionParameters h reset))
  let enabled ← ask (.sixAxis (.setFusionEnabled h true))
  return if written.isFailure then written else enabled

/-! ### The seven six-axis sensor -/

/-- Sets up the seven six-axis sensor. The memory of the second handle is checked and not
used. -/
def setUpSevenSixAxis (c : Context SevenSixAxisBuffers) : Handler ResultCode := do
  demandDeclared c "work buffer size" Limits.workBufferSize c.parameters.workBufferSize
  demandDeclared c "LIFO buffer size" Limits.lifoBufferSize c.parameters.lifoBufferSize
  let work? ← lentMemory c 0
  let lifo? ← lentMemory c 1
  match work?, lifo? with
  | some work, some lifo =>
      demandSize c "work memory size" Limits.workBufferSize work
      demandSize c "LIFO memory size" Limits.lifoBufferSize lifo
      discard (ask (.activate .consoleSixAxis))
      discard (ask (.activate .sevenSixAxis))
      ask (.setTransferMemory work)
      return .success
  | _, _ => return .unknown

def sixAxis (fusionReset : FusionParameters) : List Row :=
  [(66, onSensor "StartSixAxisSensor" .handleAruid (·.handle) fun p =>
      ask (.sixAxis (.setEnabled p.handle true))),
   (67, onSensor "StopSixAxisSensor" .handleAruid (·.handle) fun p =>
      ask (.sixAxis (.setEnabled p.handle false))),
   (68, ofSensor "IsSixAxisSensorFusionEnabled" .flagWord fun h =>
      ask (.sixAxis (.isFusionEnabled h))),
   (69, onSensor "EnableSixAxisSensorFusion" .fusionEnable (·.handle) fun p =>
      ask (.sixAxis (.setFusionEnabled p.handle p.enabled))),
   (70, onSensor "SetSixAxisSensorFusionParameters" .fusionParametersAruid (·.handle) fun p =>
      ask (.sixAxis (.setFusionParameters p.handle p.parameters))),
   (71, ofSensor "GetSixAxisSensorFusionParameters" .fusionParameters fun h =>
      ask (.sixAxis (.getFusionParameters h))),
   (72, onSensor "ResetSixAxisSensorFusionParameters" .handleAruid (·.handle) fun p =>
      resetFusion fusionReset p.handle),
   (79, onSensor "SetGyroscopeZeroDriftMode" .driftModeAruid (·.handle) fun p =>
      ask (.sixAxis (.setDriftMode p.handle p.driftMode))),
   (80, ofSensor "GetGyroscopeZeroDriftMode" .word32 fun h =>
      return (← ask (.sixAxis (.getDriftMode h))).map Quantity.truncate),
   (81, onSensor "ResetGyroscopeZeroDriftMode" .handleAruid (·.handle) fun p =>
      ask (.sixAxis (.setDriftMode p.handle ZeroDriftMode.standard.value))),
   (82, replied "IsSixAxisSensorAtRest" .handleAruid .flagWord fun p =>
      return { result := .success, output := some (← ask (.sixAxis (.isAtRest p.handle))) }),
   (83, replied "IsFirmwareUpdateAvailableForSixAxisSensor" .handleAruid .flagWord fun p =>
      return { result := .success
               output := some (← ask (.npad (.isFirmwareUpdateAvailable p.aruid p.handle))) }),
   (84, onSensor "EnableSixAxisSensorUnalteredPassthrough" .unalteredPassthrough (·.handle)
      fun p => ask (.sixAxis (.enablePassthrough p.handle p.enabled))),
   (85, ofSensor "IsSixAxisSensorUnalteredPassthroughEnabled" .flagWord fun h =>
      ask (.sixAxis (.isPassthroughEnabled h))),
   (87, blockOfSensor "LoadSixAxisSensorCalibrationParameter" "SixAxisSensorCalibrationParameter"
      Limits.calibrationParameterSize fun h => ask (.sixAxis (.loadCalibration h))),
   (88, blockOfSensor "GetSixAxisSensorIcInformation" "SixAxisSensorIcInformation"
      Limits.icInformationSize fun h => ask (.sixAxis (.getIcInformation h))),
   (89, onSensor "ResetIsSixAxisSensorDeviceNewlyAssigned" .handleAruid (·.handle) fun p =>
      ask (.npad (.resetNewlyAssigned p.aruid p.handle))),
   (306, contextual "InitializeSevenSixAxisSensor" .sevenSixAxisBuffers 2 setUpSevenSixAxis),
   (310, performed "ResetSevenSixAxisSensorTimestamp" .aruid fun _ => ask .resetTimestamp)]

end Hid.Commands
