import Hid.Dispatch.Table
import Hid.Vocabulary

/-!
Commands that old clients still send. Retired ones have a fixed reply, the others
nothing at all; neither kind reaches a device.
-/

namespace Hid.Commands

open Dispatch (Command Stub Transfer)
open Wire.LittleEndian (bytesOfInt)

/-- What clients get in place of an object that no longer exists. -/
def nullHandle : Transfer := ⟨.copy, 0⟩

def retiredStubs : List (Int × Stub) :=
  let aruid := some 8
  let idAruid := some 16
  let word := some 4
  [(32, { name := "SendKeyboardLockKeyEvent", parameterSize := word }),
   (40, { name := "AcquireXpadIdEventHandle", parameterSize := aruid, handles := [nullHandle] }),
   (41, { name := "ReleaseXpadIdEventHandle", parameterSize := aruid }),
   (51, { name := "ActivateXpad", parameterSize := idAruid }),
   (55, { name := "GetXpadIds", parameterSize := some 0, output := bytesOfInt 8 4
          buffers := [[NpadId.no1, .no2, .no3, .no4].flatMap (bytesOfInt 4 ·.value)] }),
   (56, { name := "ActivateJoyXpad", parameterSize := word }),
   (58, { name := "GetJoyXpadLifoHandle", parameterSize := word, handles := [nullHandle] }),
   (59, { name := "GetJoyXpadIds", output := bytesOfInt 8 0 }),
   (60, { name := "ActivateSixAxisSensor", parameterSize := word }),
   (61, { name := "DeactivateSixAxisSensor", parameterSize := word }),
   (62, { name := "GetSixAxisSensorLifoHandle", parameterSize := word }),
   (63, { name := "ActivateJoySixAxisSensor", parameterSize := word }),
   (64, { name := "DeactivateJoySixAxisSensor", parameterSize := word }),
   (65, { name := "GetJoySixAxisSensorLifoHandle", parameterSize := word
          handles := [nullHandle] }),
   (104, { name := "DeactivateNpad", parameterSize := aruid }),
   (301, { name := "StartConsoleSixAxisSensor", parameterSize := idAruid }),
   (302, { name := "StopConsoleSixAxisSensor", parameterSize := idAruid }),
   (304, { name := "StartSevenSixAxisSensor", parameterSize := aruid }),
   (305, { name := "StopSevenSixAxisSensor", parameterSize := aruid }),
   (307, { name := "FinalizeSevenSixAxisSensor", parameterSize := aruid }),
   (400, { name := "IsUsbFullKeyControllerEnabled", output := bytesOfInt 4 0 }),
   (509, { name := "ReadPalmaApplicationSection" }),
   (510, { name := "WritePalmaApplicationSection" }),
   (513, { name := "WritePalmaActivityEntry" }),
   (518, { name := "SuspendPalmaFeature" }),
   (520, { name := "ReadPalmaPlayLog" }),
   (521, { name := "ResetPalmaPlayLog" }),
   (523, { name := "SetIsPalmaPairedConnectable" }),
   (526, { name := "CancelWritePalmaWaveEntry" }),
   (527, { name := "EnablePalmaBoostMode" }),
   (528, { name := "GetPalmaBluetoothAddress" }),
   (529, { name := "SetDisallowedPalmaConnection" }),
   (1000, { name := "SetNpadCommunicationMode", parameterSize := idAruid }),
   (1001, { name := "GetNpadCommunicationMode", parameterSize := aruid
            output := bytesOfInt 8 CommunicationMode.standard.value }),
   (1002, { name := "SetTouchScreenConfiguration", parameterSize := some 24 }),
   (1003, { name := "IsFirmwareUpdateNeededForNotification", parameterSize := idAruid
            output := bytesOfInt 4 0 })]

/-- The commands that nothing is bound to. -/
def unboundNames : List (Int × String) :=
  [(26, "ActivateDebugMouse"),
   (73, "SetAccelerometerParameters"),
   (74, "GetAccelerometerParameters"),
   (75, "ResetAccelerometerParameters"),
   (76, "SetAccelerometerPlayMode"),
   (77, "GetAccelerometerPlayMode"),
   (78, "ResetAccelerometerPlayMode"),
   (86, "StoreSixAxisSensorCalibrationParameter"),
   (308, "SetSevenSixAxisSensorFusionStrength"),
   (309, "GetSevenSixAxisSensorFusionStrength"),
   (401, "EnableUsbFullKeyController"),
   (402, "IsUsbFullKeyControllerConnected"),
   (403, "HasBattery"),
   (404, "HasLeftRightBattery"),
   (405, "GetNpadInterfaceType"),
   (406, "GetNpadLeftRightInterfaceType"),
   (407, "GetNpadOfHighestBatteryLevel"),
   (408, "GetNpadOfHighestBatteryLevelForJoyRight"),
   (2000, "ActivateDigitizer")]

variable {m : Type → Type}

def retired : List (Int × Command m) :=
  retiredStubs.map fun (opcode, stub) => (opcode, .stubbed stub)

def unbound : List (Int × Command m) :=
  unboundNames.map fun (opcode, name) => (opcode, .unimplemented (some name))

/-- What holds of every stub and of whatever nothing is bound to holds of these rows. -/
theorem forall_retired {P : Int × Command m → Prop} (stubs : ∀ opcode s, P (opcode, .stubbed s))
    (names : ∀ opcode name, P (opcode, .unimplemented name)) :
    (∀ row ∈ retired, P row) ∧ ∀ row ∈ unbound, P row := by
  constructor
  · intro row found
    obtain ⟨stub, -, rfl⟩ := List.mem_map.mp found
    exact stubs _ _
  · intro row found
    obtain ⟨name, -, rfl⟩ := List.mem_map.mp found
    exact names _ _

end Hid.Commands
