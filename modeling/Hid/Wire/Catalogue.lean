import Hid.Wire.Layout
import Hid.Wire.Parameters

/-!
The catalogue of layouts: for each block its size and how it is read and written, field by
field. Parts that several blocks share are read and written as those parts. `Shape` enumerates
the catalogue.
-/

namespace Hid.Wire

open Hid.Wire.Field

namespace Layout

/-! ### Scalars and elements -/

def empty : Layout Unit where
  name := "Empty"
  size := 0
  read := fun r => .ok ((), r)
  write := fun () w => .ok w

def aruid : Layout Int := ⟨"AppletResourceUserId", 8, u64.read, u64.write⟩

def word32 : Layout Int := ⟨"U32", 4, u32.read, u32.write⟩

def word64 : Layout Int := ⟨"U64", 8, u64.read, u64.write⟩

def signed64 : Layout Int := ⟨"S64", 8, s64.read, s64.write⟩

/-- A flag in a word of its own. -/
def flagWord : Layout Bool where
  name := "BoolWord"
  size := 4
  read := fun r => do
    let (value, r) ← flag.read r
    return (value, ← r.skip 3)
  write := fun value w => do
    let w ← flag.write value w
    w.pad 3

def npadId : Layout Int := ⟨"NpadIdType", 4, u32.read, u32.write⟩

def deviceHandle : Layout DeviceHandle where
  name := "DeviceHandle"
  size := 4
  read := fun r => do
    let (style, r) ← u8.read r
    let (id, r) ← u8.read r
    let (index, r) ← u8.read r
    return (⟨style, id, index⟩, ← r.skip 1)
  write := fun h w => do
    let (style, id, index) := h.whole
    let w ← u8.write style w
    let w ← u8.write id w
    let w ← u8.write index w
    w.pad 1

def vibrationValue : Layout VibrationValue where
  name := "VibrationValue"
  size := 16
  read := fun r => do
    let (lowAmplitude, r) ← single.read r
    let (lowFrequency, r) ← single.read r
    let (highAmplitude, r) ← single.read r
    let (highFrequency, r) ← single.read r
    return (⟨lowAmplitude, lowFrequency, highAmplitude, highFrequency⟩, r)
  write := fun v w => do
    let w ← single.write v.lowAmplitude w
    let w ← single.write v.lowFrequency w
    let w ← single.write v.highAmplitude w
    single.write v.highFrequency w

def vibrationDeviceInfo : Layout VibrationDeviceInfo where
  name := "VibrationDeviceInfo"
  size := 8
  read := fun r => do
    let (deviceType, r) ← u32.read r
    let (position, r) ← u32.read r
    return (⟨deviceType, position⟩, r)
  write := fun i w => do
    let w ← u32.write i.deviceType w
    u32.write i.position w

def fusionParameters : Layout FusionParameters where
  name := "SixAxisFusionParameters"
  size := 8
  read := fun r => do
    let (parameter1, r) ← single.read r
    let (parameter2, r) ← single.read r
    return (⟨parameter1, parameter2⟩, r)
  write := fun p w => do
    let w ← single.write p.parameter1 w
    single.write p.parameter2 w

def palmaHandle : Layout PalmaHandle where
  name := "PalmaConnectionHandle"
  size := 8
  read := fun r => do
    let (id, r) ← u32.read r
    return (⟨id⟩, ← r.skip 4)
  write := fun h w => do
    let w ← u32.write h.npadId w
    w.pad 4

def npadModeChange : Layout NpadModeChange where
  name := "NpadModeChange"
  size := 8
  read := fun r => do
    let (isReassigned, r) ← flag.read r
    let r ← r.skip 3
    let (id, r) ← u32.read r
    return (⟨isReassigned, id⟩, r)
  write := fun c w => do
    let w ← flag.write c.isReassigned w
    let w ← w.pad 3
    u32.write c.newNpadId w

/-! ### Parameter blocks -/

def idAruid : Layout IdAruid where
  name := "IdWithAruid"
  size := 0x10
  read := fun r => do
    let (id, r) ← u32.read r
    let r ← r.skip 4
    let (aruid, r) ← u64.read r
    return (⟨id, aruid⟩, r)
  write := fun p w => do
    let w ← u32.write p.id w
    let w ← w.pad 4
    u64.write p.aruid w

/-- The same with a sign in the leading word. -/
def signedAruid : Layout SignedAruid where
  name := "SignedWithAruid"
  size := 0x10
  read := fun r => do
    let (value, r) ← s32.read r
    let r ← r.skip 4
    let (aruid, r) ← u64.read r
    return (⟨value, aruid⟩, r)
  write := fun p w => do
    let w ← s32.write p.value w
    let w ← w.pad 4
    u64.write p.aruid w

def handleAruid : Layout HandleAruid where
  name := "HandleWithAruid"
  size := 0x10
  read := fun r => do
    let (handle, r) ← deviceHandle.read r
    let r ← r.skip 4
    let (aruid, r) ← u64.read r
    return (⟨handle, aruid⟩, r)
  write := fun p w => do
    let w ← deviceHandle.write p.handle w
    let w ← w.pad 4
    u64.write p.aruid w

/-- The flag has a word of its own, the handle follows it. -/
def fusionEnable : Layout FlagHandleAruid where
  name := "EnableSixAxisSensorFusionParameters"
  size := 0x10
  read := fun r => do
    let (enabled, r) ← flag.read r
    let r ← r.skip 3
    let (handle, r) ← deviceHandle.read r
    let (aruid, r) ← u64.read r
    return (⟨enabled, handle, aruid⟩, r)
  write := fun p w => do
    let w ← flag.write p.enabled w
    let w ← w.pad 3
    let w ← deviceHandle.write p.handle w
    u64.write p.aruid w

/-- The handle is packed right behind the flag, at offset one. -/
def unalteredPassthrough : Layout FlagHandleAruid where
  name := "UnalteredPassthroughParameters"
  size := 0x10
  read := fun r => do
    let (enabled, r) ← flag.read r
    let (handle, r) ← deviceHandle.read r
    let r ← r.skip 3
    let (aruid, r) ← u64.read r
    return (⟨enabled, handle, aruid⟩, r)
  write := fun p w => do
    let w ← flag.write p.enabled w
    let w ← deviceHandle.write p.handle w
    let w ← w.pad 3
    u64.write p.aruid w

def fusionParametersAruid : Layout FusionParametersAruid where
  name := "SetSixAxisSensorFusionParameters"
  size := 0x18
  read := fun r => do
    let (handle, r) ← deviceHandle.read r
    let (parameters, r) ← fusionParameters.read r
    let r ← r.skip 4
    let (aruid, r) ← u64.read r
    return (⟨handle, parameters, aruid⟩, r)
  write := fun p w => do
    let w ← deviceHandle.write p.handle w
    let w ← fusionParameters.write p.parameters w
    let w ← w.pad 4
    u64.write p.aruid w

def driftModeAruid : Layout DriftModeAruid where
  name := "SetGyroscopeZeroDriftMode"
  size := 0x10
  read := fun r => do
    let (handle, r) ← deviceHandle.read r
    let (mode, r) ← u32.read r
    let (aruid, r) ← u64.read r
    return (⟨handle, mode, aruid⟩, r)
  write := fun p w => do
    let w ← deviceHandle.write p.handle w
    let w ← u32.write p.driftMode w
    u64.write p.aruid w

def idAruidWord : Layout IdAruidWord where
  name := "IdAruidWord"
  size := 0x18
  read := fun r => do
    let (id, r) ← u32.read r
    let r ← r.skip 4
    let (aruid, r) ← u64.read r
    let (value, r) ← u64.read r
    return (⟨id, aruid, value⟩, r)
  write := fun p w => do
    let w ← u32.write p.npadId w
    let w ← w.pad 4
    let w ← u64.write p.aruid w
    u64.write p.value w

def aruidWord : Layout AruidWord where
  name := "AruidWithWord"
  size := 0x10
  read := fun r => do
    let (aruid, r) ← u64.read r
    let (value, r) ← u64.read r
    return (⟨aruid, value⟩, r)
  write := fun p w => do
    let w ← u64.write p.aruid w
    u64.write p.value w

def twoIdsAruid : Layout TwoIdsAruid where
  name := "TwoIdsWithAruid"
  size := 0x10
  read := fun r => do
    let (first, r) ← u32.read r
    let (second, r) ← u32.read r
    let (aruid, r) ← u64.read r
    return (⟨first, second, aruid⟩, r)
  write := fun p w => do
    let w ← u32.write p.first w
    let w ← u32.write p.second w
    u64.write p.aruid w

def flagIdAruid : Layout FlagIdAruid where
  name := "FlagIdAruid"
  size := 0x10
  read := fun r => do
    let (enabled, r) ← flag.read r
    let r ← r.skip 3
    let (id, r) ← u32.read r
    let (aruid, r) ← u64.read r
    return (⟨enabled, id, aruid⟩, r)
  write := fun p w => do
    let w ← flag.write p.enabled w
    let w ← w.pad 3
    let w ← u32.write p.npadId w
    u64.write p.aruid w

def flagAruid : Layout FlagAruid where
  name := "FlagWithAruid"
  size := 0x10
  read := fun r => do
    let (enabled, r) ← flag.read r
    let r ← r.skip 7
    let (aruid, r) ← u64.read r
    return (⟨enabled, aruid⟩, r)
  write := fun p w => do
    let w ← flag.write p.enabled w
    let w ← w.pad 7
    u64.write p.aruid w

def captureButton : Layout CaptureButton where
  name := "SetNpadCaptureButtonAssignment"
  size := 0x18
  read := fun r => do
    let (styleSet, r) ← u32.read r
    let r ← r.skip 4
    let (aruid, r) ← u64.read r
    let (button, r) ← u64.read r
    return (⟨styleSet, aruid, button⟩, r)
  write := fun p w => do
    let w ← u32.write p.styleSet w
    let w ← w.pad 4
    let w ← u64.write p.aruid w
    u64.write p.button w

def vibrationValueAruid : Layout VibrationValueAruid where
  name := "SendVibrationValue"
  size := 0x20
  read := fun r => do
    let (handle, r) ← deviceHandle.read r
    let (value, r) ← vibrationValue.read r
    let r ← r.skip 4
    let (aruid, r) ← u64.read r
    return (⟨handle, value, aruid⟩, r)
  write := fun p w => do
    let w ← deviceHandle.write p.handle w
    let w ← vibrationValue.write p.value w
    let w ← w.pad 4
    u64.write p.aruid w

def gcErmAruid : Layout HandleAruidWord where
  name := "SendVibrationGcErmCommand"
  size := 0x18
  read := fun r => do
    let (handle, r) ← deviceHandle.read r
    let r ← r.skip 4
    let (aruid, r) ← u64.read r
    let (value, r) ← u64.read r
    return (⟨handle, aruid, value⟩, r)
  write := fun p w => do
    let w ← deviceHandle.write p.handle w
    let w ← w.pad 4
    let w ← u64.write p.aruid w
    u64.write p.value w

def handleAruidFlag : Layout HandleAruidFlag where
  name := "SendVibrationValueInBool"
  size := 0x18
  read := fun r => do
    let (handle, r) ← deviceHandle.read r
    let r ← r.skip 4
    let (aruid, r) ← u64.read r
    let (isVibrating, r) ← flag.read r
    return (⟨handle, aruid, isVibrating⟩, ← r.skip 7)
  write := fun p w => do
    let w ← deviceHandle.write p.handle w
    let w ← w.pad 4
    let w ← u64.write p.aruid w
    let w ← flag.write p.isVibrating w
    w.pad 7

def consoleSixAxisAruid : Layout ConsoleSixAxisAruid where
  name := "ConsoleSixAxisSensorParameters"
  size := 0x10
  read := fun r => do
    let (unknown1, r) ← u8.read r
    let (unknown2, r) ← u8.read r
    let r ← r.skip 6
    let (aruid, r) ← u64.read r
    return (⟨⟨unknown1, unknown2⟩, aruid⟩, r)
  write := fun p w => do
    let w ← u8.write p.handle.unknown1 w
    let w ← u8.write p.handle.unknown2 w
    let w ← w.pad 6
    u64.write p.aruid w

def sevenSixAxisBuffers : Layout SevenSixAxisBuffers where
  name := "InitializeSevenSixAxisSensor"
  size := 0x18
  read := fun r => do
    let (aruid, r) ← u64.read r
    let (workBufferSize, r) ← u64.read r
    let (lifoBufferSize, r) ← u64.read r
    return (⟨aruid, workBufferSize, lifoBufferSize⟩, r)
  write := fun p w => do
    let w ← u64.write p.aruid w
    let w ← u64.write p.workBufferSize w
    u64.write p.lifoBufferSize w

def touchScreenMode : Layout TouchScreenMode where
  name := "SetTouchScreenConfiguration"
  size := 0x18
  read := fun r => do
    let (mode, r) ← u8.read r
    let r ← r.skip 15
    let (aruid, r) ← u64.read r
    return (⟨mode, aruid⟩, r)
  write := fun p w => do
    let w ← u8.write p.mode w
    let w ← w.pad 15
    u64.write p.aruid w

def touchScreenResolution : Layout TouchScreenResolution where
  name := "SetTouchScreenResolution"
  size := 0x10
  read := fun r => do
    let (width, r) ← u32.read r
    let (height, r) ← u32.read r
    let (aruid, r) ← u64.read r
    return (⟨width, height, aruid⟩, r)
  write := fun p w => do
    let w ← u32.write p.width w
    let w ← u32.write p.height w
    u64.write p.aruid w

def palmaHandleWord : Layout PalmaHandleWord where
  name := "PalmaHandleWithWord"
  size := 0x10
  read := fun r => do
    let (handle, r) ← palmaHandle.read r
    let (value, r) ← u64.read r
    return (⟨handle, value⟩, r)
  write := fun p w => do
    let w ← palmaHandle.write p.handle w
    u64.write p.value w

def palmaStep : Layout PalmaStep where
  name := "EnablePalmaStep"
  size := 0x10
  read := fun r => do
    let (enabled, r) ← flag.read r
    let r ← r.skip 7
    let (handle, r) ← palmaHandle.read r
    return (⟨enabled, handle⟩, r)
  write := fun p w => do
    let w ← flag.write p.enabled w
    let w ← w.pad 7
    palmaHandle.write p.handle w

def palmaDatabaseVersion : Layout PalmaDatabaseVersion where
  name := "SetPalmaDataBaseIdentificationVersion"
  size := 0x10
  read := fun r => do
    let (version, r) ← s32.read r
    let r ← r.skip 4
    let (handle, r) ← palmaHandle.read r
    return (⟨version, handle⟩, r)
  write := fun p w => do
    let w ← s32.write p.version w
    let w ← w.pad 4
    palmaHandle.write p.handle w

def palmaWaveEntry : Layout PalmaWaveEntry where
  name := "WritePalmaWaveEntry"
  size := 0x28
  read := fun r => do
    let (handle, r) ← palmaHandle.read r
    let (waveSet, r) ← u64.read r
    let (unknown, r) ← u64.read r
    let (transferMemorySize, r) ← u64.read r
    let (size, r) ← u64.read r
    return (⟨handle, waveSet, unknown, transferMemorySize, size⟩, r)
  write := fun p w => do
    let w ← palmaHandle.write p.handle w
    let w ← u64.write p.waveSet w
    let w ← u64.write p.unknown w
    let w ← u64.write p.transferMemorySize w
    u64.write p.size w

end Layout

/-! ### All layouts -/

/-- The layouts of the catalogue. -/
inductive Shape where
  | empty | aruid | word32 | word64 | signed64 | flagWord | npadId | deviceHandle
  | vibrationValue | vibrationDeviceInfo | fusionParameters | palmaHandle | npadModeChange
  | idAruid | signedAruid | handleAruid | fusionEnable | unalteredPassthrough
  | fusionParametersAruid | driftModeAruid | idAruidWord | aruidWord | twoIdsAruid
  | flagIdAruid | flagAruid | captureButton | vibrationValueAruid | gcErmAruid
  | handleAruidFlag | consoleSixAxisAruid | sevenSixAxisBuffers | touchScreenMode
  | touchScreenResolution | palmaHandleWord | palmaStep | palmaDatabaseVersion | palmaWaveEntry
  deriving DecidableEq, Repr

namespace Shape

def all : List Shape :=
  [empty, aruid, word32, word64, signed64, flagWord, npadId, deviceHandle,
   vibrationValue, vibrationDeviceInfo, fusionParameters, palmaHandle, npadModeChange,
   idAruid, signedAruid, handleAruid, fusionEnable, unalteredPassthrough,
   fusionParametersAruid, driftModeAruid, idAruidWord, aruidWord, twoIdsAruid,
   flagIdAruid, flagAruid, captureButton, vibrationValueAruid, gcErmAruid,
   handleAruidFlag, consoleSixAxisAruid, sevenSixAxisBuffers, touchScreenMode,
   touchScreenResolution, palmaHandleWord, palmaStep, palmaDatabaseVersion, palmaWaveEntry]

abbrev Value : Shape → Type
  | empty => Unit
  | aruid | word32 | word64 | signed64 | npadId => Int
  | flagWord => Bool
  | deviceHandle => DeviceHandle
  | vibrationValue => VibrationValue
  | vibrationDeviceInfo => VibrationDeviceInfo
  | fusionParameters => FusionParameters
  | palmaHandle => PalmaHandle
  | npadModeChange => NpadModeChange
  | idAruid => IdAruid
  | signedAruid => SignedAruid
  | handleAruid => HandleAruid
  | fusionEnable | unalteredPassthrough => FlagHandleAruid
  | fusionParametersAruid => FusionParametersAruid
  | driftModeAruid => DriftModeAruid
  | idAruidWord => IdAruidWord
  | aruidWord => AruidWord
  | twoIdsAruid => TwoIdsAruid
  | flagIdAruid => FlagIdAruid
  | flagAruid => FlagAruid
  | captureButton => CaptureButton
  | vibrationValueAruid => VibrationValueAruid
  | gcErmAruid => HandleAruidWord
  | handleAruidFlag => HandleAruidFlag
  | consoleSixAxisAruid => ConsoleSixAxisAruid
  | sevenSixAxisBuffers => SevenSixAxisBuffers
  | touchScreenMode => TouchScreenMode
  | touchScreenResolution => TouchScreenResolution
  | palmaHandleWord => PalmaHandleWord
  | palmaStep => PalmaStep
  | palmaDatabaseVersion => PalmaDatabaseVersion
  | palmaWaveEntry => PalmaWaveEntry

def layout : (s : Shape) → Layout s.Value
  | empty => .empty
  | aruid => .aruid
  | word32 => .word32
  | word64 => .word64
  | signed64 => .signed64
  | flagWord => .flagWord
  | npadId => .npadId
  | deviceHandle => .deviceHandle
  | vibrationValue => .vibrationValue
  | vibrationDeviceInfo => .vibrationDeviceInfo
  | fusionParameters => .fusionParameters
  | palmaHandle => .palmaHandle
  | npadModeChange => .npadModeChange
  | idAruid => .idAruid
  | signedAruid => .signedAruid
  | handleAruid => .handleAruid
  | fusionEnable => .fusionEnable
  | unalteredPassthrough => .unalteredPassthrough
  | fusionParametersAruid => .fusionParametersAruid
  | driftModeAruid => .driftModeAruid
  | idAruidWord => .idAruidWord
  | aruidWord => .aruidWord
  | twoIdsAruid => .twoIdsAruid
  | flagIdAruid => .flagIdAruid
  | flagAruid => .flagAruid
  | captureButton => .captureButton
  | vibrationValueAruid => .vibrationValueAruid
  | gcErmAruid => .gcErmAruid
  | handleAruidFlag => .handleAruidFlag
  | consoleSixAxisAruid => .consoleSixAxisAruid
  | sevenSixAxisBuffers => .sevenSixAxisBuffers
  | touchScreenMode => .touchScreenMode
  | touchScreenResolution => .touchScreenResolution
  | palmaHandleWord => .palmaHandleWord
  | palmaStep => .palmaStep
  | palmaDatabaseVersion => .palmaDatabaseVersion
  | palmaWaveEntry => .palmaWaveEntry

end Shape
end Hid.Wire
