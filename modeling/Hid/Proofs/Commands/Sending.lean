import Hid.Commands.Vibration
import Hid.Proofs.Wire.Buffers

/-!
What sending values to motors comes to. The values of a request are sent in turn until one is not
taken; then the answer to that one is the result and nothing more is sent (`sendAll_ran`). Before
that, both buffers are read whole, and there must be as many values as handles
(`sendBuffers_ran_of_zip`).
-/

namespace Hid.Commands

open Device (Call)
open Dispatch (Context)
open Service Service.Handler
open Wire (Bytes Layout)

variable {device : Service.Device} {past : List Call} {s : State} {aruid : Int}

/-- The motor that is addressed took the value. -/
def Took (answer : Except Failure ResultCode) : Prop :=
  ∃ code : ResultCode, answer = .ok code ∧ code.isSuccess = true

theorem took_ok_iff {code : ResultCode} : Took (.ok code) ↔ code.isSuccess = true := by
  constructor
  · rintro ⟨_, same, success⟩
    rwa [Except.ok.inj same]
  · exact fun success => ⟨code, rfl, success⟩

/-- The calls that send values to motors, in the order of the values. -/
def sendings (aruid : Int) (pairs : List (DeviceHandle × VibrationValue)) : List Call :=
  pairs.map fun (h, value) => .vibration (.send aruid h value)

/-- What the device layer answers to the values, if each is sent after the ones before it. -/
def answersTo (device : Service.Device) (aruid : Int) (past : List Call) :
    List (DeviceHandle × VibrationValue) → List (Except Failure ResultCode)
  | [] => []
  | (h, value) :: rest =>
      let send : Call := .vibration (.send aruid h value)
      device past send :: answersTo device aruid (past ++ [send]) rest

/-- All values are taken, or one is the first that is not. -/
theorem taken_or_refused (answers : List (Except Failure ResultCode)) :
    (∀ answer ∈ answers, Took answer) ∨
    ∃ (i : Nat) (answer : _), answers[i]? = some answer ∧ ¬ Took answer ∧
      ∀ j < i, ∀ earlier, answers[j]? = some earlier → Took earlier := by
  induction answers with
  | nil => exact .inl fun answer found => absurd found List.not_mem_nil
  | cons first rest ih =>
      by_cases taken : Took first
      case neg =>
        exact .inr ⟨0, first, rfl, taken, fun j before => absurd before (Nat.not_lt_zero j)⟩
      case pos =>
        rcases ih with others | ⟨i, answer, here, refused, before⟩
        · exact .inl (List.forall_mem_cons.mpr ⟨taken, others⟩)
        · refine .inr ⟨i + 1, answer, here, refused, fun j earlier => ?_⟩
          cases j with
          | zero =>
              intro other found
              rwa [← Option.some.inj found]
          | succ j => exact before j (Nat.lt_of_succ_lt_succ earlier)

/-- Values that are all taken are all sent. -/
theorem sendAll_ran_of_taken {pairs : List (DeviceHandle × VibrationValue)}
    (taken : ∀ answer ∈ answersTo device aruid past pairs, Took answer) :
    (sendAll aruid pairs).ran device past s = ⟨.ok .success, s, sendings aruid pairs⟩ := by
  induction pairs generalizing past with
  | nil => rfl
  | cons pair rest ih =>
      obtain ⟨⟨code, answered, success⟩, others⟩ := List.forall_mem_cons.mp taken
      have passed : ¬ code.isFailure = true := by simp [success]
      rw [sendAll, ran_ask_ok answered, if_neg passed, ih others]
      rfl

/-- After a value that is not taken nothing is sent, and the answer to it is the result. -/
theorem sendAll_ran_of_refused {pairs : List (DeviceHandle × VibrationValue)} {i : Nat}
    {answer : Except Failure ResultCode}
    (here : (answersTo device aruid past pairs)[i]? = some answer) (refused : ¬ Took answer)
    (before : ∀ j < i, ∀ earlier, (answersTo device aruid past pairs)[j]? = some earlier →
      Took earlier) :
    (sendAll aruid pairs).ran device past s =
      ⟨answer, s, (sendings aruid pairs).take (i + 1)⟩ := by
  induction pairs generalizing past i with
  | nil => cases here
  | cons pair rest ih =>
      cases i with
      | zero =>
          obtain rfl := Option.some.inj here
          cases answered : device past (.vibration (.send aruid pair.1 pair.2)) with
          | error failure =>
              rw [sendAll, ran_ask_error answered]
              rfl
          | ok code =>
              have failed : code.isFailure = true := by
                have unsuccessful := mt took_ok_iff.mpr (answered ▸ refused)
                simpa using unsuccessful
              rw [sendAll, ran_ask_ok answered, if_pos failed]
              rfl
      | succ i =>
          obtain ⟨code, answered, success⟩ := before 0 (Nat.succ_pos i) _ rfl
          have passed : ¬ code.isFailure = true := by simp [success]
          have others := ih here fun j earlier => before (j + 1) (Nat.succ_lt_succ earlier)
          rw [sendAll, ran_ask_ok answered, if_neg passed, others]
          rfl

/-! ### Buffers -/

section Buffers

variable {c : Context Int} {failure : Failure} {handles : List DeviceHandle}
  {values : List VibrationValue}

theorem sendBuffers_ran_of_unread (unread : c.readBuffer 0 Layout.deviceHandle = .error failure) :
    (sendBuffers c).ran device past s = ⟨.error failure, s, []⟩ := ran_attempt_error unread _

variable (read : c.readBuffer 0 Layout.deviceHandle = .ok handles)
include read

theorem sendBuffers_ran_of_unread_values
    (unread : c.readBuffer 1 Layout.vibrationValue = .error failure) :
    (sendBuffers c).ran device past s = ⟨.error failure, s, []⟩ := by
  rw [sendBuffers, ran_attempt_ok read, ran_attempt_error unread]

variable (read' : c.readBuffer 1 Layout.vibrationValue = .ok values)
include read'

theorem sendBuffers_ran_of_length_ne (differ : handles.length ≠ values.length) :
    (sendBuffers c).ran device past s = ⟨.ok .vibrationArraySizeMismatch, s, []⟩ := by
  rw [sendBuffers, ran_attempt_ok read, ran_attempt_ok read', if_neg differ, ran_pure]

theorem sendBuffers_ran_of_length_eq (same : handles.length = values.length) :
    (sendBuffers c).ran device past s =
      (sendAll c.parameters (handles.zip values)).ran device past s := by
  rw [sendBuffers, ran_attempt_ok read, ran_attempt_ok read', if_pos same]

end Buffers
end Hid.Commands
