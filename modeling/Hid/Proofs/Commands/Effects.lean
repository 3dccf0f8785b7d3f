import Hid.Proofs.Commands.Steady

/-!
What the commands that change something do. An activation in a list asks for the motor behind the
handle if the registry says so, and leaves that list as the registry leaves it (`activateIn_ran`);
a command that creates an object puts it behind the others (`created_ran`); and ids are accepted if
the device layer has taken them (`acceptIds_ran`).
-/

namespace Hid.Commands

open Activation (Registry)
open Device (Call)
open Dispatch (Context OutputHandle Reply)
open Service Service.Handler
open Wire (Layout)

variable {device : Service.Device} {past : List Call} {s : State}

/-! ### Activations -/

/-- What comes of asking for the motor behind a handle and then activating it, and the calls that
it takes. Without a motor nothing is activated. -/
def askMotor (device : Service.Device) (past : List Call) (h : DeviceHandle) :
    Except Failure ResultCode × List Call :=
  let find : Call := .vibration (.find .any h)
  match device past find with
  | .error failure => (.error failure, [find])
  | .ok false => (.ok .unknown, [find])
  | .ok true => (device (past ++ [find]) (.motor .activate), [find, .motor .activate])

theorem activateMotor_ran (h : DeviceHandle) :
    (activateMotor h).ran device past s =
      ⟨(askMotor device past h).1, s, (askMotor device past h).2⟩ := by
  rw [activateMotor, askMotor]
  cases answered : device past (.vibration (.find .any h)) with
  | error failure => rw [ran_ask_error answered]
  | ok found =>
      rw [ran_ask_ok answered]
      cases found with
      | false => rfl
      | true => rfl

/-- An activation in a list does what the registry of the list does with the answer of the motor,
which is asked only if the registry says so. -/
theorem activateIn_ran (position : Nat) (h : DeviceHandle) :
    (activateIn position h).ran device past s =
      let r := s.registry position
      let validation := validateVibrationHandle h s.controllers
      let asked := askMotor device past h
      ⟨(r.activate validation h asked.1).2,
        s.setRegistry position (r.activate validation h asked.1).1,
        if r.consider validation h = .askDevice then asked.2 else []⟩ := by
  dsimp only
  rw [activateIn, ran_state_bind, Registry.activate]
  cases decision : (s.registry position).consider (validateVibrationHandle h s.controllers) h with
  | settled code =>
      have spared : Activation.Decision.settled code ≠ .askDevice := by rintro ⟨⟩
      dsimp only
      rw [State.setRegistry_registry, if_neg spared, ran_pure]
  | askDevice =>
      have motor : (activateMotor h).ran device past s = _ := activateMotor_ran h
      dsimp only
      rw [if_pos rfl]
      cases answered : (askMotor device past h).1 with
      | error failure =>
          rw [ran_bind_error (by rw [motor, answered]), motor]
          exact congrArg (Ran.mk _ · _) State.setRegistry_registry.symm
      | ok code =>
          rw [ran_bind_ok (by rw [motor, answered]), motor, ran_change_bind, ran_pure]
          exact congrArg (Ran.mk _ _) (List.append_nil _)

/-! ### Objects -/

/-- The object of a handler that succeeds is added behind the others, whose number its reply
names. -/
theorem created_ran (x : Handler (ResultCode × Interface)) :
    Handler.ran (do
      let (result, object) ← x
      let earlier := (← Handler.state).interfaces.length
      Handler.change (·.add object)
      return ({ result, handles := [.interface (earlier + 1)] } : Reply Unit)) device past s =
      match x.ran device past s with
      | ⟨.error failure, s, calls⟩ => ⟨.error failure, s, calls⟩
      | ⟨.ok (result, object), s, calls⟩ =>
          ⟨.ok { result, handles := [.interface (s.interfaces.length + 1)] }, s.add object,
            calls⟩ := by
  cases found : x.ran device past s with
  | mk value state calls =>
      cases value with
      | error failure => rw [ran_bind_error (by rw [found]), found]
      | ok made =>
          rw [ran_bind_ok (by rw [found]), found]
          dsimp only
          rw [ran_state_bind, ran_change_bind, ran_pure]
          exact congrArg (Ran.mk _ _) (List.append_nil _)

/-! ### Accepted ids -/

section Ids

theorem all_valid_iff {ids : List Int} :
    (ids.map Quantity.int).all isNpadIdValid = true ↔ ∀ id ∈ ids, isNpadIdValid id = true := by
  simp only [List.all_map, List.all_eq_true, Function.comp_apply]

variable {c : Context Int}

theorem acceptIds_ran_of_unread {failure : Failure}
    (unread : c.readBuffer 0 Layout.npadId = .error failure) :
    (acceptIds c).ran device past s = ⟨.error failure, s, []⟩ := ran_attempt_error unread _

variable {ids : List Int} (read : c.readBuffer 0 Layout.npadId = .ok ids)
include read

/-- A list with an undefined id is refused before anything is asked. -/
theorem acceptIds_ran_of_undefined (undefined : ¬ ∀ id ∈ ids, isNpadIdValid id = true) :
    (acceptIds c).ran device past s = ⟨.ok .invalidNpadId, s, []⟩ := by
  rw [acceptIds, ran_attempt_ok read]
  dsimp only
  rw [if_neg (mt all_valid_iff.mp undefined), ran_pure]

theorem acceptIds_ran_of_error (defined : ∀ id ∈ ids, isNpadIdValid id = true) {failure : Failure}
    (failed : device past (.npad (.setIds c.parameters ids)) = .error failure) :
    (acceptIds c).ran device past s =
      ⟨.error failure, s, [.npad (.setIds c.parameters ids)]⟩ := by
  rw [acceptIds, ran_attempt_ok read]
  dsimp only
  rw [if_pos (all_valid_iff.mpr defined), ran_ask_error failed]

/-- The device layer gets the list as it came; without repeats it is accepted if that succeeds. -/
theorem acceptIds_ran_of_ok (defined : ∀ id ∈ ids, isNpadIdValid id = true) {code : ResultCode}
    (answered : device past (.npad (.setIds c.parameters ids)) = .ok code) :
    (acceptIds c).ran device past s =
      ⟨.ok code, if code.isSuccess then { s with controllers := .ofList (ids.map .int) } else s,
        [.npad (.setIds c.parameters ids)]⟩ := by
  rw [acceptIds, ran_attempt_ok read]
  dsimp only
  rw [if_pos (all_valid_iff.mpr defined), ran_ask_ok answered]
  by_cases success : code.isSuccess = true
  · rw [if_pos success, if_pos success, ran_change_bind, ran_pure]
    rfl
  · rw [if_neg success, if_neg success]
    rfl

end Ids

/-! ### Searches for a motor -/

/-- On behalf of an active client, a motor is looked for behind a handle that is valid with the
controllers accepted at present, and behind no other. -/
theorem findMotor_ran (view : Device.MotorView) {aruid : Int} (h : DeviceHandle)
    {active : Device.Report Bool}
    (answered : device past (.vibration (.isAruidActive aruid)) = .ok active)
    (success : active.result.isSuccess = true) (yes : active.value = some true) :
    let code := validateVibrationHandle h s.controllers
    (code.isSuccess = false → (findMotor view aruid h).ran device past s =
      ⟨.ok ⟨code, false⟩, s, [.vibration (.isAruidActive aruid)]⟩) ∧
    (code.isSuccess = true → (findMotor view aruid h).ran device past s =
      ⟨(device (past ++ [.vibration (.isAruidActive aruid)]) (.vibration (.find view h))).map
        (Search.mk .success), s, [.vibration (.isAruidActive aruid), .vibration (.find view h)]⟩) := by
  have running : ¬ (active.result.isFailure || active.value != some true) = true := by
    simp [success, yes]
  intro code
  constructor
  · intro invalid
    have refused : (validateVibrationHandle h s.controllers).isFailure = true := by
      simpa using invalid
    rw [findMotor, ran_ask_ok answered, if_neg running, ran_state_bind]
    dsimp only
    rw [if_pos refused, ran_pure]
    rfl
  · intro valid
    have passed : ¬ (validateVibrationHandle h s.controllers).isFailure = true := by
      simpa using valid
    rw [findMotor, ran_ask_ok answered, if_neg running, ran_state_bind]
    dsimp only
    rw [if_neg passed, ran_bind_pure]
    rfl

end Hid.Commands
