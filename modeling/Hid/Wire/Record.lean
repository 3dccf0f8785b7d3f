import Hid.Wire.Catalogue

/-!
Records: blocks described field by field. A record names the slots of a block in their order
and says how a value is made of the values in the slots and split into them. Values are put
into writing by their records. The layout of a record reads and writes the slots one after the
other and is as large as they are together; each layout of the catalogue has a record.
-/

namespace Hid.Wire

open Hid.Wire.Field

/-- Named slots and the value that theirs make up. -/
structure Record (α : Type) where
  name : String
  slots : List Slot
  make : Values slots → α
  split : α → Values slots

namespace Record

/-- The layout of a record is exactly as large as its slots. -/
def layout (r : Record α) : Layout α where
  name := r.name
  size := totalWidth r.slots
  read := fun reader => (Values.read r.slots reader).map fun (vs, rest) => (r.make vs, rest)
  write := fun v => Values.write r.slots (r.split v)

/-! ### Scalars and elements -/

def empty : Record Unit := ⟨"Empty", [], fun () => (), fun () => ()⟩

def aruid : Record Int :=
  ⟨"AppletResourceUserId", [⟨"", u64⟩], fun (n, ()) => n, fun n => (n, ())⟩

def word32 : Record Int := ⟨"U32", [⟨"", u32⟩], fun (n, ()) => n, fun n => (n, ())⟩

def word64 : Record Int := ⟨"U64", [⟨"", u64⟩], fun (n, ()) => n, fun n => (n, ())⟩

def signed64 : Record Int := ⟨"S64", [⟨"", s64⟩], fun (n, ()) => n, fun n => (n, ())⟩

/-- A flag in a word of its own. -/
def flagWord : Record Bool :=
  ⟨"BoolWord", [⟨"", flag⟩, gap 3], fun (b, (), ()) => b, fun b => (b, (), ())⟩

def npadId : Record Int := ⟨"NpadIdType", [⟨"", u32⟩], fun (n, ()) => n, fun n => (n, ())⟩

def deviceHandle : Record DeviceHandle where
  name := "DeviceHandle"
  slots := [⟨"npadStyle", u8⟩, ⟨"npadId", u8⟩, ⟨"deviceIndex", u8⟩, gap 1]
  make := fun (style, id, index, (), ()) => ⟨style, id, index⟩
  split := fun h =>
    let (style, id, index) := h.whole
    (style, id, index, (), ())

def vibrationValue : Record VibrationValue where
  name := "VibrationValue"
  slots := [⟨"lowAmplitude", single⟩, ⟨"lowFrequency", single⟩, ⟨"highAmplitude", single⟩,
    ⟨"highFrequency", single⟩]
  make := fun (la, lf, ha, hf, ()) => ⟨la, lf, ha, hf⟩
  split := fun v => (v.lowAmplitude, v.lowFrequency, v.highAmplitude, v.highFrequency, ())

def vibrationDeviceInfo : Record VibrationDeviceInfo where
  name := "VibrationDeviceInfo"
  slots := [⟨"deviceType", u32⟩, ⟨"position", u32⟩]
  make := fun (deviceType, position, ()) => ⟨deviceType, position⟩
  split := fun i => (i.deviceType, i.position, ())

def fusionParameters : Record FusionParameters where
  name := "SixAxisFusionParameters"
  slots := [⟨"parameter1", single⟩, ⟨"parameter2", single⟩]
  make := fun (p1, p2, ()) => ⟨p1, p2⟩
  split := fun p => (p.parameter1, p.parameter2, ())

def palmaHandle : Record PalmaHandle where
  name := "PalmaConnectionHandle"
  slots := [⟨"npadId", u32⟩, gap 4]
  make := fun (id, (), ()) => ⟨id⟩
  split := fun h => (h.npadId, (), ())

def npadModeChange : Record NpadModeChange where
  name := "NpadModeChange"
  slots := [⟨"isReassigned", flag⟩, gap 3, ⟨"newNpadId", u32⟩]
  make := fun (reassigned, (), id, ()) => ⟨reassigned, id⟩
  split := fun c => (c.isReassigned, (), c.newNpadId, ())

/-! ### Parameter blocks -/

def idAruid : Record IdAruid where
  name := "IdWithAruid"
  slots := [⟨"id", u32⟩, gap 4, ⟨"aruid", u64⟩]
  make := fun (id, (), aruid, ()) => ⟨id, aruid⟩
  split := fun p => (p.id, (), p.aruid, ())

def signedAruid : Record SignedAruid where
  name := "SignedWithAruid"
  slots := [⟨"value", s32⟩, gap 4, ⟨"aruid", u64⟩]
  make := fun (value, (), aruid, ()) => ⟨value, aruid⟩
  split := fun p => (p.value, (), p.aruid, ())

def handleAruid : Record HandleAruid where
  name := "HandleWithAruid"
  slots := [⟨"handle.npadStyle", u8⟩, ⟨"handle.npadId", u8⟩, ⟨"handle.deviceIndex", u8⟩, gap 1,
    gap 4, ⟨"aruid", u64⟩]
  make := fun (style, id, index, (), (), aruid, ()) => ⟨⟨style, id, index⟩, aruid⟩
  split := fun p =>
    let (style, id, index) := p.handle.whole
    (style, id, index, (), (), p.aruid, ())

/-- The flag has a word of its own, the handle follows it. -/
def fusionEnable : Record FlagHandleAruid where
  name := "EnableSixAxisSensorFusionParameters"
  slots := [⟨"enabled", flag⟩, gap 3, ⟨"handle.npadStyle", u8⟩, ⟨"handle.npadId", u8⟩,
    ⟨"handle.deviceIndex", u8⟩, gap 1, ⟨"aruid", u64⟩]
  make := fun (enabled, (), style, id, index, (), aruid, ()) =>
    ⟨enabled, ⟨style, id, index⟩, aruid⟩
  split := fun p =>
    let (style, id, index) := p.handle.whole
    (p.enabled, (), style, id, index, (), p.aruid, ())

/-- The handle is packed right behind the flag, at offset one. -/
def unalteredPassthrough : Record FlagHandleAruid where
  name := "UnalteredPassthroughParameters"
  slots := [⟨"enabled", flag⟩, ⟨"handle.npadStyle", u8⟩, ⟨"handle.npadId", u8⟩,
    ⟨"handle.deviceIndex", u8⟩, gap 1, gap 3, ⟨"aruid", u64⟩]
  make := fun (enabled, style, id, index, (), (), aruid, ()) =>
    ⟨enabled, ⟨style, id, index⟩, aruid⟩
  split := fun p =>
    let (style, id, index) := p.handle.whole
    (p.enabled, style, id, index, (), (), p.aruid, ())

def fusionParametersAruid : Record FusionParametersAruid where
  name := "SetSixAxisSensorFusionParameters"
  slots := [⟨"handle.npadStyle", u8⟩, ⟨"handle.npadId", u8⟩, ⟨"handle.deviceIndex", u8⟩, gap 1,
    ⟨"parameters.parameter1", single⟩, ⟨"parameters.parameter2", single⟩, gap 4, ⟨"aruid", u64⟩]
  make := fun (style, id, index, (), p1, p2, (), aruid, ()) =>
    ⟨⟨style, id, index⟩, ⟨p1, p2⟩, aruid⟩
  split := fun p =>
    let (style, id, index) := p.handle.whole
    (style, id, index, (), p.parameters.parameter1, p.parameters.parameter2, (), p.aruid, ())

def driftModeAruid : Record DriftModeAruid where
  name := "SetGyroscopeZeroDriftMode"
  slots := [⟨"handle.npadStyle", u8⟩, ⟨"handle.npadId", u8⟩, ⟨"handle.deviceIndex", u8⟩, gap 1,
    ⟨"driftMode", u32⟩, ⟨"aruid", u64⟩]
  make := fun (style, id, index, (), mode, aruid, ()) => ⟨⟨style, id, index⟩, mode, aruid⟩
  split := fun p =>
    let (style, id, index) := p.handle.whole
    (style, id, index, (), p.driftMode, p.aruid, ())

def idAruidWord : Record IdAruidWord where
  name := "IdAruidWord"
  slots := [⟨"npadId", u32⟩, gap 4, ⟨"aruid", u64⟩, ⟨"value", u64⟩]
  make := fun (id, (), aruid, value, ()) => ⟨id, aruid, value⟩
  split := fun p => (p.npadId, (), p.aruid, p.value, ())

def aruidWord : Record AruidWord where
  name := "AruidWithWord"
  slots := [⟨"aruid", u64⟩, ⟨"value", u64⟩]
  make := fun (aruid, value, ()) => ⟨aruid, value⟩
  split := fun p => (p.aruid, p.value, ())

def twoIdsAruid : Record TwoIdsAruid where
  name := "TwoIdsWithAruid"
  slots := [⟨"first", u32⟩, ⟨"second", u32⟩, ⟨"aruid", u64⟩]
  make := fun (first, second, aruid, ()) => ⟨first, second, aruid⟩
  split := fun p => (p.first, p.second, p.aruid, ())

def flagIdAruid : Record FlagIdAruid where
  name := "FlagIdAruid"
  slots := [⟨"enabled", flag⟩, gap 3, ⟨"npadId", u32⟩, ⟨"aruid", u64⟩]
  make := fun (enabled, (), id, aruid, ()) => ⟨enabled, id, aruid⟩
  split := fun p => (p.enabled, (), p.npadId, p.aruid, ())

def flagAruid : Record FlagAruid where
  name := "FlagWithAruid"
  slots := [⟨"enabled", flag⟩, gap 7, ⟨"aruid", u64⟩]
  make := fun (enabled, (), aruid, ()) => ⟨enabled, aruid⟩
  split := fun p => (p.enabled, (), p.aruid, ())

def captureButton : Record CaptureButton where
  name := "SetNpadCaptureButtonAssignment"
  slots := [⟨"styleSet", u32⟩, gap 4, ⟨"aruid", u64⟩, ⟨"button", u64⟩]
  make := fun (styleSet, (), aruid, button, ()) => ⟨styleSet, aruid, button⟩
  split := fun p => (p.styleSet, (), p.aruid, p.button, ())

def vibrationValueAruid : Record VibrationValueAruid where
  name := "SendVibrationValue"
  slots := [⟨"handle.npadStyle", u8⟩, ⟨"handle.npadId", u8⟩, ⟨"handle.deviceIndex", u8⟩, gap 1,
    ⟨"value.lowAmplitude", single⟩, ⟨"value.lowFrequency", single⟩,
    ⟨"value.highAmplitude", single⟩, ⟨"value.highFrequency", single⟩, gap 4, ⟨"aruid", u64⟩]
  make := fun (style, id, index, (), la, lf, ha, hf, (), aruid, ()) =>
    ⟨⟨style, id, index⟩, ⟨la, lf, ha, hf⟩, aruid⟩
  split := fun p =>
    let (style, id, index) := p.handle.whole
    (style, id, index, (), p.value.lowAmplitude, p.value.lowFrequency, p.value.highAmplitude,
      p.value.highFrequency, (), p.aruid, ())

def gcErmAruid : Record HandleAruidWord where
  name := "SendVibrationGcErmCommand"
  slots := [⟨"handle.npadStyle", u8⟩, ⟨"handle.npadId", u8⟩, ⟨"handle.deviceIndex", u8⟩, gap 1,
    gap 4, ⟨"aruid", u64⟩, ⟨"value", u64⟩]
  make := fun (style, id, index, (), (), aruid, value, ()) => ⟨⟨style, id, index⟩, aruid, value⟩
  split := fun p =>
    let (style, id, index) := p.handle.whole
    (style, id, index, (), (), p.aruid, p.value, ())

def handleAruidFlag : Record HandleAruidFlag where
  name := "SendVibrationValueInBool"
  slots := [⟨"handle.npadStyle", u8⟩, ⟨"handle.npadId", u8⟩, ⟨"handle.deviceIndex", u8⟩, gap 1,
    gap 4, ⟨"aruid", u64⟩, ⟨"isVibrating", flag⟩, gap 7]
  make := fun (style, id, index, (), (), aruid, isVibrating, (), ()) =>
    ⟨⟨style, id, index⟩, aruid, isVibrating⟩
  split := fun p =>
    let (style, id, index) := p.handle.whole
    (style, id, index, (), (), p.aruid, p.isVibrating, (), ())

def consoleSixAxisAruid : Record ConsoleSixAxisAruid where
  name := "ConsoleSixAxisSensorParameters"
  slots := [⟨"handle.unknown1", u8⟩, ⟨"handle.unknown2", u8⟩, gap 6, ⟨"aruid", u64⟩]
  make := fun (unknown1, unknown2, (), aruid, ()) => ⟨⟨unknown1, unknown2⟩, aruid⟩
  split := fun p => (p.handle.unknown1, p.handle.unknown2, (), p.aruid, ())

def sevenSixAxisBuffers : Record SevenSixAxisBuffers where
  name := "InitializeSevenSixAxisSensor"
  slots := [⟨"aruid", u64⟩, ⟨"workBufferSize", u64⟩, ⟨"lifoBufferSize", u64⟩]
  make := fun (aruid, work, lifo, ()) => ⟨aruid, work, lifo⟩
  split := fun p => (p.aruid, p.workBufferSize, p.lifoBufferSize, ())

def touchScreenMode : Record TouchScreenMode where
  name := "SetTouchScreenConfiguration"
  slots := [⟨"mode", u8⟩, gap 15, ⟨"aruid", u64⟩]
  make := fun (mode, (), aruid, ()) => ⟨mode, aruid⟩
  split := fun p => (p.mode, (), p.aruid, ())

def touchScreenResolution : Record TouchScreenResolution where
  name := "SetTouchScreenResolution"
  slots := [⟨"width", u32⟩, ⟨"height", u32⟩, ⟨"aruid", u64⟩]
  make := fun (width, height, aruid, ()) => ⟨width, height, aruid⟩
  split := fun p => (p.width, p.height, p.aruid, ())

def palmaHandleWord : Record PalmaHandleWord where
  name := "PalmaHandleWithWord"
  slots := [⟨"handle.npadId", u32⟩, gap 4, ⟨"value", u64⟩]
  make := fun (id, (), value, ()) => ⟨⟨id⟩, value⟩
  split := fun p => (p.handle.npadId, (), p.value, ())

def palmaStep : Record PalmaStep where
  name := "EnablePalmaStep"
  slots := [⟨"enabled", flag⟩, gap 7, ⟨"handle.npadId", u32⟩, gap 4]
  make := fun (enabled, (), id, (), ()) => ⟨enabled, ⟨id⟩⟩
  split := fun p => (p.enabled, (), p.handle.npadId, (), ())

def palmaDatabaseVersion : Record PalmaDatabaseVersion where
  name := "SetPalmaDataBaseIdentificationVersion"
  slots := [⟨"version", s32⟩, gap 4, ⟨"handle.npadId", u32⟩, gap 4]
  make := fun (version, (), id, (), ()) => ⟨version, ⟨id⟩⟩
  split := fun p => (p.version, (), p.handle.npadId, (), ())

def palmaWaveEntry : Record PalmaWaveEntry where
  name := "WritePalmaWaveEntry"
  slots := [⟨"handle.npadId", u32⟩, gap 4, ⟨"waveSet", u64⟩, ⟨"unknown", u64⟩,
    ⟨"transferMemorySize", u64⟩, ⟨"size", u64⟩]
  make := fun (id, (), waveSet, unknown, memory, size, ()) =>
    ⟨⟨id⟩, waveSet, unknown, memory, size⟩
  split := fun p => (p.handle.npadId, (), p.waveSet, p.unknown, p.transferMemorySize, p.size, ())

end Record

/-- The record of a layout of the catalogue. -/
def Shape.record : (s : Shape) → Record s.Value
  | empty => .empty
  | aruid => .aruid
  | word32 => .word32
  | word64 => .word64
  | signed64 => .signed64
  | flagWord => .flagWord
  | npadId => .npadId
  | deviceHandle => .deviceHandle
  | vibrationValue => .vibrationValue
  | vibrationDeviceInfo => .vibrationDeviceInfo
  | fusionParameters => .fusionParameters
  | palmaHandle => .palmaHandle
  | npadModeChange => .npadModeChange
  | idAruid => .idAruid
  | signedAruid => .signedAruid
  | handleAruid => .handleAruid
  | fusionEnable => .fusionEnable
  | unalteredPassthrough => .unalteredPassthrough
  | fusionParametersAruid => .fusionParametersAruid
  | driftModeAruid => .driftModeAruid
  | idAruidWord => .idAruidWord
  | aruidWord => .aruidWord
  | twoIdsAruid => .twoIdsAruid
  | flagIdAruid => .flagIdAruid
  | flagAruid => .flagAruid
  | captureButton => .captureButton
  | vibrationValueAruid => .vibrationValueAruid
  | gcErmAruid => .gcErmAruid
  | handleAruidFlag => .handleAruidFlag
  | consoleSixAxisAruid => .consoleSixAxisAruid
  | sevenSixAxisBuffers => .sevenSixAxisBuffers
  | touchScreenMode => .touchScreenMode
  | touchScreenResolution => .touchScreenResolution
  | palmaHandleWord => .palmaHandleWord
  | palmaStep => .palmaStep
  | palmaDatabaseVersion => .palmaDatabaseVersion
  | palmaWaveEntry => .palmaWaveEntry

end Hid.Wire
