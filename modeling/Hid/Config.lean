import Hid.Limits
import Hid.Number.Basic
import Hid.Number.Numeral
import Hid.Wire.Parameters

/-!
The configuration of the service and how it is read from the environment. Every
variable is optional; a blank one counts as not set. A number that cannot be used
leaves the default in place and a warning behind, in the order capacity, first and
second fusion parameter. An unknown log level is ignored without a warning.
-/

namespace Hid

open Number (Binary64)

inductive LogLevel where
  | error | warn | info | verbose | debug | silly
  deriving DecidableEq, Repr

namespace LogLevel

def all : List LogLevel := [error, warn, info, verbose, debug, silly]

def text : LogLevel → String
  | error => "error"
  | warn => "warn"
  | info => "info"
  | verbose => "verbose"
  | debug => "debug"
  | silly => "silly"

/-- The level a text names; `none` for a log that is switched off. -/
def read (raw : Option String) (fallback : Option LogLevel) : Option LogLevel :=
  match raw with
  | none => fallback
  | some raw =>
      if Text.isBlankText raw then fallback
      else
        let word := Text.keyword raw
        if word = "false" ∨ word = "off" ∨ word = "none" then none
        else match all.find? (·.text = word) with
          | some level => some level
          | none => fallback

end LogLevel

/-- Settings of a service. The capacity is checked only where a device list is made. -/
structure Config where
  activationCapacity : Quantity
  deviceManaged : Bool
  fusionDefaults : FusionParameters
  logLevel : Option LogLevel
  logFileLevel : Option LogLevel
  warnings : List String
  deriving DecidableEq, Repr

namespace Config

/-- What the hardware reports after a reset. -/
def fusionReset : FusionParameters where
  parameter1 := .ofDecimal false 3 (-2)
  parameter2 := .ofDecimal false 4 (-1)

def initial : Config where
  activationCapacity := (Limits.activationCapacity : Nat)
  deviceManaged := false
  fusionDefaults := fusionReset
  logLevel := some .info
  logFileLevel := some .info
  warnings := []

/-- A flag is set by one of four words and by no other text. -/
def readFlag (raw : Option String) (fallback : Bool) : Bool :=
  match raw with
  | none => fallback
  | some raw =>
      if Text.isBlankText raw then fallback
      else ["1", "true", "yes", "on"].contains (Text.keyword raw)

/-- The capacities that can be used: positive integers. -/
def usableCapacity (x : Binary64) : Option Quantity :=
  match x.toInt? with
  | some n => if 0 < n then some (.int n) else none
  | none => none

/-- The fusion parameters that can be used: finite numbers. -/
def usableParameter (x : Binary64) : Option Binary64 :=
  if x.isFinite then some x else none

/-- The value of a numeric variable and the warnings it gives rise to. -/
def readNumber (name : String) (raw : Option String) (fallback : α) (fallbackText : String)
    (usable : Binary64 → Option α) : α × List String :=
  match raw with
  | none => (fallback, [])
  | some raw =>
      if Text.isBlankText raw then (fallback, [])
      else match usable (Number.Numeral.read raw) with
        | some value => (value, [])
        | none =>
            (fallback, [name ++ "=\"" ++ raw ++ "\" is not valid, using " ++ fallbackText])

def ofEnvironment (env : String → Option String) : Config :=
  let capacity := readNumber "HID_ACTIVATION_CAPACITY" (env "HID_ACTIVATION_CAPACITY")
    initial.activationCapacity initial.activationCapacity.text usableCapacity
  let parameter1 := readNumber "HID_FUSION_PARAMETER_1" (env "HID_FUSION_PARAMETER_1")
    fusionReset.parameter1 fusionReset.parameter1.text usableParameter
  let parameter2 := readNumber "HID_FUSION_PARAMETER_2" (env "HID_FUSION_PARAMETER_2")
    fusionReset.parameter2 fusionReset.parameter2.text usableParameter
  { activationCapacity := capacity.1
    deviceManaged := readFlag (env "HID_DEVICE_MANAGED") initial.deviceManaged
    fusionDefaults := ⟨parameter1.1, parameter2.1⟩
    logLevel := LogLevel.read (env "HID_LOG_LEVEL") initial.logLevel
    logFileLevel := LogLevel.read (env "HID_LOG_FILE_LEVEL") initial.logFileLevel
    warnings := capacity.2 ++ parameter1.2 ++ parameter2.2 }

end Config
end Hid
