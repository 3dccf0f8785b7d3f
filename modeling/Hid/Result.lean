import Hid.Number.Basic

/-!
Result codes. A code travels as one word: nine bits of module and thirteen bits of
description. Codes given by a device are kept as they are, so a code is any number;
packing and unpacking work on the bits of 32-bit words and leave fractions out.
-/

namespace Hid

open Number (twoTo)

abbrev ResultCode := Quantity

namespace ResultCode

/-- The modules that codes of this service come from. -/
def serviceFramework : Int := 10
def hid : Int := 202

/-- The 32-bit word of a number. -/
def word (n : Int) : BitVec 32 := .ofInt 32 n

def moduleMask : BitVec 32 := 0x1ff
def descriptionMask : BitVec 32 := 0x1fff
def descriptionShift : Nat := 9

/-- The code of a module and a description, each reduced to its width: the value of the
packed word without a sign. -/
def pack (module description : Int) : ResultCode :=
  let low := word module &&& moduleMask
  let high := (word description &&& descriptionMask) <<< descriptionShift
  .int (low ||| high).toNat

def moduleOf (code : ResultCode) : Int := (word code.truncate &&& moduleMask).toInt

def descriptionOf (code : ResultCode) : Int :=
  ((word code.truncate >>> descriptionShift) &&& descriptionMask).toInt

def success : ResultCode := 0

/-- The code of a failure that names no module of its own. -/
def unknown : ResultCode := 0xffffffff

/-- The answer to a command that nothing is bound to. -/
def notSupported : ResultCode := pack serviceFramework 221

def npadDeviceIndexOutOfRange : ResultCode := pack hid 107
def vibrationInvalidStyleIndex : ResultCode := pack hid 122
def vibrationInvalidNpadId : ResultCode := pack hid 123
def vibrationDeviceIndexOutOfRange : ResultCode := pack hid 124
def vibrationArraySizeMismatch : ResultCode := pack hid 131
def invalidNpadId : ResultCode := pack hid 709
def invalidPalmaHandle : ResultCode := pack hid 3302

/-- The codes that have a name. -/
def named : List (String × ResultCode) :=
  [("SUCCESS", success),
   ("UNKNOWN", unknown),
   ("NOT_SUPPORTED", notSupported),
   ("NPAD_DEVICE_INDEX_OUT_OF_RANGE", npadDeviceIndexOutOfRange),
   ("VIBRATION_INVALID_STYLE_INDEX", vibrationInvalidStyleIndex),
   ("VIBRATION_INVALID_NPAD_ID", vibrationInvalidNpadId),
   ("VIBRATION_DEVICE_INDEX_OUT_OF_RANGE", vibrationDeviceIndexOutOfRange),
   ("VIBRATION_ARRAY_SIZE_MISMATCH", vibrationArraySizeMismatch),
   ("INVALID_NPAD_ID", invalidNpadId),
   ("INVALID_PALMA_HANDLE", invalidPalmaHandle)]

def isSuccess (code : ResultCode) : Bool := code.same success

def isFailure (code : ResultCode) : Bool := !code.same success

@[simp] theorem isSuccess_success : success.isSuccess = true := by decide

@[simp] theorem isFailure_eq (code : ResultCode) : code.isFailure = !code.isSuccess := rfl

/-- The hexadecimal digits of `rest / scale` up to the last that is not zero, and no more
than `count`. -/
def fractionDigits (scale : Nat) : (count rest : Nat) → List Char
  | 0, _ => []
  | count + 1, rest =>
      if rest = 0 then []
      else Nat.digitChar (16 * rest / scale) :: fractionDigits scale count (16 * rest % scale)

/-- The hexadecimal digits of a number, which are finitely many. -/
def digits (code : ResultCode) : List Char :=
  match code.dyadic? with
  | none => code.text.toList
  | some (n, k) =>
      let whole := Nat.toDigits 16 (n.natAbs / twoTo k)
      let fraction := fractionDigits (twoTo k) k (n.natAbs % twoTo k)
      let all := if fraction.isEmpty then whole else whole ++ '.' :: fraction
      if n < 0 then '-' :: all else all

/-- Upper-case hexadecimal on at least eight places, the sign and the point among them. -/
def hexadecimal (code : ResultCode) : String :=
  let places := code.digits.map Char.toUpper
  String.ofList (List.replicate (8 - places.length) '0' ++ places)

/-- The name of a code, if it has one, and its hexadecimal text. -/
def describe (code : ResultCode) : String :=
  let hex := "0x" ++ code.hexadecimal
  match named.find? (·.2.same code) with
  | some (name, _) => name ++ " (" ++ hex ++ ")"
  | none => hex

end ResultCode
end Hid
