import Hid.Service.Handler

/-!
Commands that make the simple input devices ready, and the resource of a client.
-/

namespace Hid.Commands

open Device (Input)
open Service Service.Handler
open Dispatch (Table)

/-- Makes an input device ready for a client. The first step is left to the firmware if
that manages the devices; the second one follows only a success. -/
def makeReady (deviceManaged : Bool) (input : Input) (aruid : Int) : Handler ResultCode := do
  let first ← if deviceManaged then pure ResultCode.success else ask (.activate input)
  if first.isFailure then return first
  ask (.activateForApplet input aruid)

def input (deviceManaged : Bool) : List Row :=
  let ready (input : Input) (aruid : Int) := makeReady deviceManaged input aruid
  [(0, created "CreateAppletResource" .aruid fun aruid =>
      return (← ask (.createAppletResource aruid), .appletResource aruid)),
   (1, coded "ActivateDebugPad" .aruid (ready .debugPad)),
   (11, coded "ActivateTouchScreen" .aruid (ready .touchScreen)),
   (21, coded "ActivateMouse" .aruid (ready .mouse)),
   (31, coded "ActivateKeyboard" .aruid (ready .keyboard)),
   (91, coded "ActivateGesture" .idAruid fun p => ready .gesture p.aruid),
   (300, coded "ActivateConsoleSixAxisSensor" .aruid (ready .consoleSixAxis)),
   -- a failure is not told
   (303, performed "ActivateSevenSixAxisSensor" .aruid fun aruid =>
      discard (ready .sevenSixAxis aruid)),
   (1004, performed "SetTouchScreenResolution" .touchScreenResolution fun p =>
      ask (.setDimensions p.width p.height))]

/-- The commands of the resource made for a client. -/
def appletResource (aruid : Int) : Table Program where
  name := "IAppletResource"
  rows :=
    [(0, handedOut "GetSharedMemoryHandle" .empty fun _ => ask (.getSharedMemoryHandle aruid))]

end Hid.Commands
