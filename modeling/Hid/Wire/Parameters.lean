import Hid.Handle
import Hid.Number.Binary64

/-!
The values that command blocks carry. Whole numbers are integers of any size; the
layouts say what width each has on the wire. `aruid` is always the id of the applet
resource user on whose behalf a command is sent.
-/

namespace Hid

open Number (Binary64)

structure VibrationValue where
  lowAmplitude : Binary64
  lowFrequency : Binary64
  highAmplitude : Binary64
  highFrequency : Binary64
  deriving DecidableEq, Repr

/-- A motor at rest: no amplitude, at the two resonance frequencies. -/
def VibrationValue.resting : VibrationValue where
  lowAmplitude := .ofInt 0
  lowFrequency := .ofInt 160
  highAmplitude := .ofInt 0
  highFrequency := .ofInt 320

structure VibrationDeviceInfo where
  deviceType : Int
  position : Int
  deriving DecidableEq, Repr

structure FusionParameters where
  parameter1 : Binary64
  parameter2 : Binary64
  deriving DecidableEq, Repr

structure PalmaHandle where
  npadId : Int
  deriving DecidableEq, Repr

structure NpadModeChange where
  isReassigned : Bool
  newNpadId : Int
  deriving DecidableEq, Repr

structure ConsoleSixAxisHandle where
  unknown1 : Int
  unknown2 : Int
  deriving DecidableEq, Repr

/-! ### Parameter blocks -/

structure IdAruid where
  id : Int
  aruid : Int
  deriving DecidableEq, Repr

structure SignedAruid where
  value : Int
  aruid : Int
  deriving DecidableEq, Repr

structure HandleAruid where
  handle : DeviceHandle
  aruid : Int
  deriving DecidableEq, Repr

structure FlagHandleAruid where
  enabled : Bool
  handle : DeviceHandle
  aruid : Int
  deriving DecidableEq, Repr

structure FusionParametersAruid where
  handle : DeviceHandle
  parameters : FusionParameters
  aruid : Int
  deriving DecidableEq, Repr

structure DriftModeAruid where
  handle : DeviceHandle
  driftMode : Int
  aruid : Int
  deriving DecidableEq, Repr

structure IdAruidWord where
  npadId : Int
  aruid : Int
  value : Int
  deriving DecidableEq, Repr

structure AruidWord where
  aruid : Int
  value : Int
  deriving DecidableEq, Repr

structure TwoIdsAruid where
  first : Int
  second : Int
  aruid : Int
  deriving DecidableEq, Repr

structure FlagIdAruid where
  enabled : Bool
  npadId : Int
  aruid : Int
  deriving DecidableEq, Repr

structure FlagAruid where
  enabled : Bool
  aruid : Int
  deriving DecidableEq, Repr

structure CaptureButton where
  styleSet : Int
  aruid : Int
  button : Int
  deriving DecidableEq, Repr

structure VibrationValueAruid where
  handle : DeviceHandle
  value : VibrationValue
  aruid : Int
  deriving DecidableEq, Repr

structure HandleAruidWord where
  handle : DeviceHandle
  aruid : Int
  value : Int
  deriving DecidableEq, Repr

structure HandleAruidFlag where
  handle : DeviceHandle
  aruid : Int
  isVibrating : Bool
  deriving DecidableEq, Repr

structure ConsoleSixAxisAruid where
  handle : ConsoleSixAxisHandle
  aruid : Int
  deriving DecidableEq, Repr

structure SevenSixAxisBuffers where
  aruid : Int
  workBufferSize : Int
  lifoBufferSize : Int
  deriving DecidableEq, Repr

structure TouchScreenMode where
  mode : Int
  aruid : Int
  deriving DecidableEq, Repr

structure TouchScreenResolution where
  width : Int
  height : Int
  aruid : Int
  deriving DecidableEq, Repr

structure PalmaHandleWord where
  handle : PalmaHandle
  value : Int
  deriving DecidableEq, Repr

structure PalmaStep where
  enabled : Bool
  handle : PalmaHandle
  deriving DecidableEq, Repr

structure PalmaDatabaseVersion where
  version : Int
  handle : PalmaHandle
  deriving DecidableEq, Repr

structure PalmaWaveEntry where
  handle : PalmaHandle
  waveSet : Int
  unknown : Int
  transferMemorySize : Int
  size : Int
  deriving DecidableEq, Repr

end Hid
