/-!
The words of the controller protocol that have a number on the wire. Values outside
these lists can arrive and are kept as plain integers; the enumerations name the
known ones.
-/

namespace Hid

/-- The logical controllers a client can address. -/
inductive NpadId where
  | no1 | no2 | no3 | no4 | no5 | no6 | no7 | no8
  | other
  | handheld
  deriving DecidableEq, Repr

namespace NpadId

def all : List NpadId :=
  [no1, no2, no3, no4, no5, no6, no7, no8, other, handheld]

def value : NpadId → Int
  | no1 => 0
  | no2 => 1
  | no3 => 2
  | no4 => 3
  | no5 => 4
  | no6 => 5
  | no7 => 6
  | no8 => 7
  | other => 0x10
  | handheld => 0x20

end NpadId

/-- The kinds of controller. -/
inductive NpadStyle where
  | none | fullKey | handheld | joyDual | joyLeft | joyRight | gameCube | pokeBall
  | nes | snes | n64 | segaGenesis | systemExt | system
  deriving DecidableEq, Repr

namespace NpadStyle

def all : List NpadStyle :=
  [none, fullKey, handheld, joyDual, joyLeft, joyRight, gameCube, pokeBall,
   nes, snes, n64, segaGenesis, systemExt, system]

def value : NpadStyle → Int
  | none => 0
  | fullKey => 3
  | handheld => 4
  | joyDual => 5
  | joyLeft => 6
  | joyRight => 7
  | gameCube => 8
  | pokeBall => 9
  | nes => 10
  | snes => 12
  | n64 => 13
  | segaGenesis => 14
  | systemExt => 0x20
  | system => 0x21

end NpadStyle

/-- The devices on one controller. -/
inductive DeviceIndex where
  | left | right | none
  deriving DecidableEq, Repr

namespace DeviceIndex

def all : List DeviceIndex := [left, right, none]

def value : DeviceIndex → Int
  | left => 0
  | right => 1
  | none => 2

/-- The first index that is no device. -/
def limit : Int := 3

end DeviceIndex

inductive JoyHoldType where
  | vertical | horizontal
  deriving DecidableEq, Repr

namespace JoyHoldType

def all : List JoyHoldType := [vertical, horizontal]

def value : JoyHoldType → Int
  | vertical => 0
  | horizontal => 1

end JoyHoldType

inductive JoyDeviceType where
  | left | right
  deriving DecidableEq, Repr

namespace JoyDeviceType

def all : List JoyDeviceType := [left, right]

def value : JoyDeviceType → Int
  | left => 0
  | right => 1

end JoyDeviceType

inductive JoyAssignmentMode where
  | dual | single
  deriving DecidableEq, Repr

namespace JoyAssignmentMode

def all : List JoyAssignmentMode := [dual, single]

def value : JoyAssignmentMode → Int
  | dual => 0
  | single => 1

end JoyAssignmentMode

inductive HandheldActivationMode where
  | dual | single | none
  deriving DecidableEq, Repr

namespace HandheldActivationMode

def all : List HandheldActivationMode := [dual, single, none]

def value : HandheldActivationMode → Int
  | dual => 0
  | single => 1
  | none => 2

/-- The first value that is no mode. -/
def limit : Int := 3

end HandheldActivationMode

inductive CommunicationMode where
  | every5ms | every10ms | every15ms | standard
  deriving DecidableEq, Repr

namespace CommunicationMode

def all : List CommunicationMode := [every5ms, every10ms, every15ms, standard]

def value : CommunicationMode → Int
  | every5ms => 0
  | every10ms => 1
  | every15ms => 2
  | standard => 3

end CommunicationMode

inductive NpadRevision where
  | revision0 | revision1 | revision2 | revision3
  deriving DecidableEq, Repr

namespace NpadRevision

def all : List NpadRevision := [revision0, revision1, revision2, revision3]

def value : NpadRevision → Int
  | revision0 => 0
  | revision1 => 1
  | revision2 => 2
  | revision3 => 3

end NpadRevision

inductive ZeroDriftMode where
  | loose | standard | tight
  deriving DecidableEq, Repr

namespace ZeroDriftMode

def all : List ZeroDriftMode := [loose, standard, tight]

def value : ZeroDriftMode → Int
  | loose => 0
  | standard => 1
  | tight => 2

end ZeroDriftMode

inductive GcErmCommand where
  | stop | start | stopHard
  deriving DecidableEq, Repr

namespace GcErmCommand

def all : List GcErmCommand := [stop, start, stopHard]

def value : GcErmCommand → Int
  | stop => 0
  | start => 1
  | stopHard => 2

end GcErmCommand

end Hid
