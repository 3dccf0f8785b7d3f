import Hid.Controllers
import Hid.Service.Handler

/-!
Commands of the vibration motors. A motor is looked for only on behalf of an active
client and behind a valid handle. Lists of active devices are objects of their own,
each with a registry.
-/

namespace Hid.Commands

open Device (MotorView)
open Dispatch (Context Table)
open Number (Binary64 nearestInteger)
open Service Service.Handler
open Wire (Layout)

/-- How the search for a motor ended. An inactive client has none, which is no failure. -/
structure Search where
  result : ResultCode
  found : Bool
  deriving DecidableEq, Repr

def findMotor (view : MotorView) (aruid : Int) (h : DeviceHandle) : Handler Search := do
  let active ← ask (.vibration (.isAruidActive aruid))
  if active.result.isFailure || active.value != some true then return ⟨active.result, false⟩
  let code := validateVibrationHandle h (← state).controllers
  if code.isFailure then return ⟨code, false⟩
  return ⟨.success, ← ask (.vibration (.find view h))⟩

/-- Sends values to motors in turn, up to the first that is refused. -/
def sendAll (aruid : Int) : List (DeviceHandle × VibrationValue) → Handler ResultCode
  | [] => return .success
  | (h, value) :: rest => do
      let code ← ask (.vibration (.send aruid h value))
      if code.isFailure then return code
      sendAll aruid rest

/-- Pairs the handles of the first buffer with the values of the second. -/
def sendBuffers (c : Context Int) : Handler ResultCode := do
  let handles ← attempt (c.readBuffer 0 Layout.deviceHandle)
  let values ← attempt (c.readBuffer 1 Layout.vibrationValue)
  if handles.length = values.length then sendAll c.parameters (handles.zip values)
  else return .vibrationArraySizeMismatch

/-- The value a motor has at present. Whatever goes wrong, it is the value at rest; a motor
that succeeds may also leave it out. -/
def actualValue (aruid : Int) (h : DeviceHandle) : Handler (Option VibrationValue) := do
  let search ← findMotor .standard aruid h
  if search.found then
    let report ← ask (.motor .getActualValue)
    return if report.result.isFailure then some .resting else report.value
  else return some .resting

/-- The command a motor follows at present. Whatever goes wrong, it is to stop; a motor that
succeeds must give a whole number. -/
def actualGcErm (aruid : Int) (h : DeviceHandle) : Handler Int := do
  let search ← findMotor .gc aruid h
  if search.found then
    let report ← ask (.motor .getActualGcErm)
    if report.result.isFailure then return GcErmCommand.stop.value
    required (report.value.bind Quantity.toInt?)
  else return GcErmCommand.stop.value

/-- Whether a device sits behind a handle, which the handle's code does not tell. -/
def isMounted (h : DeviceHandle) : Handler Bool := do
  if ← ask (.vibration (.find .any h)) then ask (.motor .isMounted) else return false

def vibration (capacity : Quantity) : List Row :=
  [(200, reported "GetVibrationDeviceInfo" .deviceHandle .vibrationDeviceInfo fun h =>
      ask (.vibration (.getInfo h))),
   -- whether the motor took the value is not told
   (201, performed "SendVibrationValue" .vibrationValueAruid fun p =>
      discard (ask (.vibration (.send p.aruid p.handle p.value)))),
   (202, replied "GetActualVibrationValue" .handleAruid .vibrationValue fun p =>
      return { result := .success, output := ← actualValue p.aruid p.handle }),
   (203, created "CreateActiveVibrationDeviceList" .empty fun _ =>
      return (.success, .deviceList (← attempt (Activation.Registry.ofCapacity capacity)))),
   (204, coded "PermitVibration" .flagWord fun permitted =>
      ask (.vibration (.setMasterVolume (.ofInt (if permitted then 1 else 0))))),
   (205, replied "IsVibrationPermitted" .empty .flagWord fun _ => do
      let report ← ask (.vibration .getMasterVolume)
      return { result := report.result, output := report.value.map (·.isPositive) }),
   (206, contextual "SendVibrationValues" .aruid 0 sendBuffers),
   (207, coded "SendVibrationGcErmCommand" .gcErmAruid fun p => do
      let search ← findMotor .gc p.aruid p.handle
      if search.found then ask (.motor (.sendGcErm (nearestInteger p.value)))
      else return search.result),
   (208, replied "GetActualVibrationGcErmCommand" .handleAruid .word64 fun p =>
      return { result := .success, output := some (← actualGcErm p.aruid p.handle) }),
   (209, coded "BeginPermitVibrationSession" .aruid fun aruid =>
      ask (.vibration (.beginPermitSession aruid))),
   (210, coded "EndPermitVibrationSession" .empty fun _ => ask (.vibration .endPermitSession)),
   (211, replied "IsVibrationDeviceMounted" .handleAruid .flagWord fun p => do
      let code := validateVibrationHandle p.handle (← state).controllers
      let mounted ← if code.isSuccess then isMounted p.handle else pure false
      return { result := code, output := some mounted }),
   (212, coded "SendVibrationValueInBool" .handleAruidFlag fun p => do
      let search ← findMotor .n64 p.aruid p.handle
      if search.found then ask (.motor (.sendBool p.isVibrating)) else return search.result)]

/-! ### Lists of active devices -/

/-- Activates the device behind a handle, if there is one. -/
def activateMotor (h : DeviceHandle) : Handler ResultCode := do
  if ← ask (.vibration (.find .any h)) then ask (.motor .activate) else return .unknown

/-- Activates a handle in the list at a position. -/
def activateIn (position : Nat) (h : DeviceHandle) : Handler ResultCode := do
  let s ← state
  match (s.registry position).consider (validateVibrationHandle h s.controllers) h with
  | .settled code => return code
  | .askDevice =>
      let code ← activateMotor h
      change fun s => s.setRegistry position ((s.registry position).afterDevice h (.ok code))
      return if code.isFailure then code else .success

/-- The commands of the list at a position. -/
def deviceList (position : Nat) : Table Program where
  name := "IActiveVibrationDeviceList"
  rows := [(0, coded "ActivateVibrationDevice" .deviceHandle (activateIn position))]

end Hid.Commands
