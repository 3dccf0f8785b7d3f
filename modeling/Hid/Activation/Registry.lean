import Hid.Controllers
import Hid.Failure

/-!
The registry of activated device handles: a bounded list without repeats in the order
of activation. An activation validates the handle, accepts one that is in the list,
refuses a new one if the list is full, asks the device, and appends the handle if the
device agrees.
-/

namespace Hid.Activation

structure Registry where
  capacity : Nat
  entries : List DeviceHandle
  deriving DecidableEq, Repr

/-- What an activation comes to before the device is asked. -/
inductive Decision where
  | settled (code : ResultCode)
  | askDevice
  deriving DecidableEq, Repr

/-- Whether an activation has come to a success, or a device has answered with one. -/
def succeeds : Except Failure ResultCode → Bool
  | .ok code => code.isSuccess
  | .error _ => false

namespace Registry

/-- An empty registry; its capacity must be a positive integer. -/
def ofCapacity (capacity : Quantity) : Except Failure Registry :=
  match capacity with
  | .int n => if 0 < n then .ok ⟨n.toNat, []⟩ else .error (.invalidCapacity capacity)
  | .other _ => .error (.invalidCapacity capacity)

def size (r : Registry) : Nat := r.entries.length

def has (r : Registry) (h : DeviceHandle) : Bool := r.entries.any (·.same h)

/-- The decision on a handle, given what its validation answered. -/
def consider (r : Registry) (validation : ResultCode) (h : DeviceHandle) : Decision :=
  if validation.isFailure then .settled validation
  else if r.has h then .settled .success
  else if r.capacity ≤ r.size then .settled .vibrationDeviceIndexOutOfRange
  else .askDevice

/-- The registry after the device has answered. -/
def afterDevice (r : Registry) (h : DeviceHandle) (answer : Except Failure ResultCode) : Registry :=
  match answer with
  | .ok code => if code.isFailure then r else { r with entries := r.entries ++ [h] }
  | .error _ => r

/-- What an activation comes to once the device has answered. -/
def outcome (answer : Except Failure ResultCode) : Except Failure ResultCode :=
  answer.map fun code => if code.isFailure then code else .success

/-- One activation from start to end. `device` is the answer the device gives if it
is asked. -/
def activate (r : Registry) (validation : ResultCode) (h : DeviceHandle)
    (device : Except Failure ResultCode) : Registry × Except Failure ResultCode :=
  match r.consider validation h with
  | .settled code => (r, .ok code)
  | .askDevice => (r.afterDevice h device, outcome device)

/-! ### What a decision and an answer lead to -/

variable {r : Registry} {h : DeviceHandle}

theorem succeeds_outcome (answer : Except Failure ResultCode) :
    succeeds (outcome answer) = succeeds answer := by
  cases answer with
  | error failure => rfl
  | ok code =>
      by_cases success : code.isSuccess
      · simp [outcome, Except.map, succeeds, success]
      · simp [outcome, Except.map, succeeds, success]

theorem afterDevice_of_succeeds {answer : Except Failure ResultCode}
    (success : succeeds answer = true) :
    r.afterDevice h answer = { r with entries := r.entries ++ [h] } := by
  cases answer with
  | error failure => cases success
  | ok code =>
      have success : code.isSuccess = true := success
      simp [afterDevice, success]

theorem afterDevice_of_fails {answer : Except Failure ResultCode}
    (failure : succeeds answer = false) : r.afterDevice h answer = r := by
  cases answer with
  | error failure => rfl
  | ok code =>
      have failure : code.isSuccess = false := failure
      simp [afterDevice, failure]

theorem entries_of_ofCapacity {capacity : Quantity} {r : Registry}
    (made : ofCapacity capacity = .ok r) : r.entries = [] := by
  cases capacity with
  | int n =>
      rw [ofCapacity] at made
      split at made
      · cases made
        rfl
      · cases made
  | other x => cases made

/-- An activation takes no handle out of the list and does not reorder it. -/
theorem grows_activate (r : Registry) (validation : ResultCode) (h : DeviceHandle)
    (answer : Except Failure ResultCode) :
    (r.activate validation h answer).1.capacity = r.capacity ∧
      r.entries <+: (r.activate validation h answer).1.entries := by
  rw [activate]
  cases r.consider validation h with
  | settled code => exact ⟨rfl, List.prefix_refl _⟩
  | askDevice =>
      dsimp only
      cases success : succeeds answer with
      | true => rw [afterDevice_of_succeeds success]; exact ⟨rfl, List.prefix_append ..⟩
      | false => rw [afterDevice_of_fails success]; exact ⟨rfl, List.prefix_refl _⟩

/-- A device is asked for a handle that is valid, missing and has room. -/
theorem consider_eq_askDevice {code : ResultCode} :
    r.consider code h = .askDevice ↔
      code.isSuccess = true ∧ r.has h = false ∧ r.size < r.capacity := by
  unfold consider
  split
  case isTrue invalid => simp_all
  case isFalse valid =>
      split
      case isTrue present => simp [present]
      case isFalse absent =>
          split
          case isTrue full => simp [full]
          case isFalse room => simp_all

end Registry
end Hid.Activation
