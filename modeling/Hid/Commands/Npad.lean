import Hid.Controllers
import Hid.Service.Handler

/-!
Commands that configure controllers. Almost all are handed on to the device layer; the
list of accepted ids is also kept for the validation of vibration handles, and two
settings are checked as part of the wire contract.
-/

namespace Hid.Commands

open Device (Report)
open Dispatch (Context)
open Number (nearestInteger)
open Service Service.Handler
open Wire (Layout)

/-- Sets the revision and then activates, whatever the revision. -/
def activateNpad (aruid revision : Int) : Handler ResultCode := do
  ask (.npad (.setRevision aruid revision))
  ask (.npad (.activate aruid))

/-- Accepts the ids of the first buffer if all are defined. The device layer is told the
list as it came; the controllers follow only if it agrees. -/
def acceptIds (c : Context Int) : Handler ResultCode := do
  let ids ← attempt (c.readBuffer 0 Layout.npadId)
  let named := ids.map Quantity.int
  if named.all isNpadIdValid then
    let code ← ask (.npad (.setIds c.parameters ids))
    if code.isSuccess then change fun s => { s with controllers := .ofList named }
    return code
  else
    return .invalidNpadId

def setHoldType (c : Context AruidWord) : Handler ResultCode := do
  let value := c.parameters.value
  let known := (JoyHoldType.all.map (·.value)).contains value
  attempt (c.demand known ("hold type " ++ toString value ++ " is not Vertical or Horizontal"))
  ask (.npad (.setHoldType c.parameters.aruid (nearestInteger value)))

def setHandheldMode (c : Context AruidWord) : Handler ResultCode := do
  let value := c.parameters.value
  attempt (c.demand (value < HandheldActivationMode.limit)
    ("handheld activation mode " ++ toString value ++ " is out of range")
    HandheldActivationMode.limit (nearestInteger value))
  ask (.npad (.setHandheldMode c.parameters.aruid (nearestInteger value)))

/-- A report whose value is sent as a word, for which it must be whole. -/
def wholeReport (report : Report Quantity) : Handler (Report Int) := do
  let value ← required (report.value.bind Quantity.toInt?)
  return ⟨report.result, some value⟩

def npad : List Row :=
  [(100, coded "SetSupportedNpadStyleSet" .idAruid fun p =>
      ask (.npad (.setStyleSet p.aruid p.id))),
   (101, reported "GetSupportedNpadStyleSet" .aruid .word32 fun aruid =>
      return (← ask (.npad (.getStyleSet aruid))).map Quantity.truncate),
   (102, contextual "SetSupportedNpadIdType" .aruid 0 acceptIds),
   (103, coded "ActivateNpad" .aruid fun aruid =>
      activateNpad aruid NpadRevision.revision0.value),
   (106, handedOut "AcquireNpadStyleSetUpdateEventHandle" .idAruidWord fun p =>
      ask (.npad (.acquireUpdateEvent p.aruid p.npadId))),
   (107, performed "DisconnectNpad" .idAruid fun p => ask (.npad (.disconnect p.aruid p.id))),
   (108, reported "GetPlayerLedPattern" .npadId .word64 fun id =>
      ask (.npad (.getLedPattern id))),
   (109, coded "ActivateNpadWithRevision" .signedAruid fun p => activateNpad p.aruid p.value),
   (120, contextual "SetNpadJoyHoldType" .aruidWord 0 setHoldType),
   (121, reported "GetNpadJoyHoldType" .aruid .word64 fun aruid => do
      wholeReport (← ask (.npad (.getHoldType aruid)))),
   (122, performed "SetNpadJoyAssignmentModeSingleByDefault" .idAruid fun p =>
      discard (ask (.npad (.setMode p.aruid p.id JoyDeviceType.left.value .single)))),
   (123, performed "SetNpadJoyAssignmentModeSingle" .idAruidWord fun p =>
      discard (ask (.npad (.setMode p.aruid p.npadId (nearestInteger p.value) .single)))),
   (124, performed "SetNpadJoyAssignmentModeDual" .idAruid fun p =>
      discard (ask (.npad (.setMode p.aruid p.id JoyDeviceType.left.value .dual)))),
   (125, coded "MergeSingleJoyAsDualJoy" .twoIdsAruid fun p =>
      ask (.npad (.mergeSingles p.aruid p.first p.second))),
   (126, performed "StartLrAssignmentMode" .aruid fun _ => return ()),
   (127, performed "StopLrAssignmentMode" .aruid fun _ => return ()),
   (128, contextual "SetNpadHandheldActivationMode" .aruidWord 0 setHandheldMode),
   (129, reported "GetNpadHandheldActivationMode" .aruid .word64 fun aruid => do
      wholeReport (← ask (.npad (.getHandheldMode aruid)))),
   (130, coded "SwapNpadAssignment" .twoIdsAruid fun p =>
      ask (.npad (.swap p.aruid p.first p.second))),
   (131, replied "IsUnintendedHomeButtonInputProtectionEnabled" .idAruid .flagWord fun p => do
      if isNpadIdValid p.id then
        let report ← ask (.npad (.isHomeProtected p.aruid p.id))
        return { result := report.result, output := report.value }
      else return { result := .invalidNpadId }),
   (132, coded "EnableUnintendedHomeButtonInputProtection" .flagIdAruid fun p =>
      if isNpadIdValid p.npadId then ask (.npad (.protectHome p.aruid p.npadId p.enabled))
      else return .invalidNpadId),
   (133, replied "SetNpadJoyAssignmentModeSingleWithDestination" .idAruidWord .npadModeChange
      fun p => do
        let change ← ask (.npad (.setMode p.aruid p.npadId (nearestInteger p.value) .single))
        return { result := .success, output := some change }),
   (134, performed "SetNpadAnalogStickUseCenterClamp" .flagAruid fun p =>
      ask (.npad (.setCenterClamp p.aruid p.enabled))),
   (135, coded "SetNpadCaptureButtonAssignment" .captureButton fun p =>
      ask (.npad (.setCaptureButton p.aruid p.styleSet p.button))),
   (136, coded "ClearNpadCaptureButtonAssignment" .aruid fun aruid =>
      ask (.npad (.clearCaptureButton aruid)))]

end Hid.Commands
