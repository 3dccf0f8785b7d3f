import Hid.Proofs.Commands.Effects
import Hid.Proofs.Service.Asking

/-!
The search for a motor, against a device layer that answers every call. A motor is sought under a
view, for a client, behind a handle. The search asks for it if the client is active and the handle
is valid (`Sought.Admitted`), and a command goes on to the motor if there is one then
(`ran_of_search`).
-/

namespace Hid.Commands

open Device (Call MotorView Report)
open Service Service.Handler

/-- A motor that a command looks for. -/
structure Sought where
  view : MotorView
  aruid : Int
  handle : DeviceHandle
  deriving DecidableEq, Repr

namespace Sought

/-- The call that asks whether the client is active. -/
def isActive (m : Sought) : Call := .vibration (.isAruidActive m.aruid)

/-- The call that asks for the motor. -/
def find (m : Sought) : Call := .vibration (.find m.view m.handle)

variable (m : Sought) (answers : Answerer) (s : State)

/-- What the search is told of the client. -/
def active : Report Bool := answers [] m.isActive

/-- Whether there is the motor, if the search gets as far as asking for it. -/
def found : Bool := answers [m.isActive] m.find

def validation : ResultCode := validateVibrationHandle m.handle s.controllers

/-- The client is active and the handle is valid with the controllers accepted at present. -/
structure Admitted : Prop where
  answered : (m.active answers).result.isSuccess = true
  active : (m.active answers).value = some true
  valid : (m.validation s).isSuccess = true

/-- The motor is asked for, and there is one. -/
structure Reached : Prop extends m.Admitted answers s where
  found : m.found answers = true

end Sought

section Searching

variable {m : Sought} {answers : Answerer} {s : State}

theorem Sought.not_admitted_of_inactive (no : ¬ ((m.active answers).result.isSuccess = true ∧
    (m.active answers).value = some true)) : ¬ m.Admitted answers s :=
  fun admitted => no ⟨admitted.answered, admitted.active⟩

theorem Sought.not_admitted_of_invalid (refuses : (m.validation s).isSuccess = false) :
    ¬ m.Admitted answers s := by
  intro admitted
  rw [admitted.valid] at refuses
  cases refuses

/-- How a search ends, and with which calls. -/
inductive Sought.Ends (m : Sought) (answers : Answerer) (s : State) :
    Search → List Call → Prop where
  | inactive (no : ¬ ((m.active answers).result.isSuccess = true ∧
      (m.active answers).value = some true)) :
      Ends m answers s ⟨(m.active answers).result, false⟩ [m.isActive]
  | invalid (answered : (m.active answers).result.isSuccess = true)
      (active : (m.active answers).value = some true)
      (refused : (m.validation s).isSuccess = false) :
      Ends m answers s ⟨m.validation s, false⟩ [m.isActive]
  | asked (admitted : m.Admitted answers s) :
      Ends m answers s ⟨.success, m.found answers⟩ [m.isActive, m.find]

/-- A motor is found if it is reached. -/
theorem Sought.Ends.found_iff {search : Search} {calls : List Call}
    (ends : m.Ends answers s search calls) : search.found = true ↔ m.Reached answers s := by
  cases ends with
  | inactive no =>
      exact ⟨nofun, fun reached => absurd reached.toAdmitted (not_admitted_of_inactive no)⟩
  | invalid _ _ refuses =>
      exact ⟨nofun, fun reached => absurd reached.toAdmitted (not_admitted_of_invalid refuses)⟩
  | asked admitted => exact ⟨fun found => ⟨admitted, found⟩, Reached.found⟩

variable (m answers s) in
theorem findMotor_ends : ∃ search calls, m.Ends answers s search calls ∧
    (findMotor m.view m.aruid m.handle).ran (answering answers) [] s =
      ⟨.ok search, s, calls⟩ := by
  have answered : answering answers [] m.isActive = .ok (m.active answers) := rfl
  by_cases running : (m.active answers).result.isSuccess = true ∧
      (m.active answers).value = some true
  case neg =>
    refine ⟨_, _, .inactive running, ?_⟩
    have stops : ((m.active answers).result.isFailure || (m.active answers).value != some true) =
        true := by
      rw [Bool.or_eq_true]
      rcases Classical.not_and_iff_not_or_not.mp running with failed | inactive
      · exact .inl (by simpa using failed)
      · exact .inr (by simpa using inactive)
    exact (ran_ask_ok answered _).trans (by rw [if_pos stops]; rfl)
  case pos =>
    obtain ⟨success, yes⟩ := running
    obtain ⟨invalid, valid⟩ := findMotor_ran (s := s) m.view m.handle answered success yes
    cases code : (m.validation s).isSuccess with
    | false => exact ⟨_, _, .invalid success yes code, invalid code⟩
    | true => exact ⟨_, _, .asked ⟨success, yes, code⟩, valid code⟩

variable (m answers s) in
/-- A command goes on to the motor that has been found, or ends with what it makes of the search. -/
theorem ran_of_search {α : Type} {x : Handler α} {f : Search → α} {own : α} {method : Call}
    (asked : x.ran (answering answers) [m.isActive, m.find] s = ⟨.ok own, s, [method]⟩) :
    ∃ search calls, m.Ends answers s search calls ∧
      Handler.ran (do
        let search ← findMotor m.view m.aruid m.handle
        if search.found then x else return f search) (answering answers) [] s =
        ⟨.ok (if search.found = true then own else f search), s,
          if search.found = true then calls ++ [method] else calls⟩ := by
  obtain ⟨search, calls, ends, ran⟩ := findMotor_ends m answers s
  refine ⟨search, calls, ends, ?_⟩
  rw [ran_bind_ok (by rw [ran]), ran]
  by_cases found : search.found = true
  case neg =>
    rw [if_neg found, if_neg found, if_neg found, ran_pure]
    exact congrArg (Ran.mk _ _) (List.append_nil _)
  case pos =>
    rw [if_pos found, if_pos found, if_pos found]
    cases ends with
    | inactive | invalid => cases found
    | asked => exact congrArg (Ran.after · _) asked

/-- What is called in the end: whether the client is active, the motor if the search is admitted,
and its method if there is one. -/
theorem Sought.Ends.calls {search : Search} {calls : List Call}
    (ends : m.Ends answers s search calls) (method : Device.MotorCall) :
    let made := if search.found = true then calls ++ [.motor method] else calls
    m.isActive ∈ made ∧ made <+: [m.isActive, m.find, .motor method] ∧
      (m.find ∈ made ↔ m.Admitted answers s) ∧ (.motor method ∈ made ↔ m.Reached answers s) := by
  have distinct :
      m.find ≠ m.isActive ∧ Call.motor method ≠ m.isActive ∧ m.find ≠ .motor method := by
    refine ⟨?_, ?_, ?_⟩ <;> rintro ⟨⟩
  obtain ⟨asks, acts, finds⟩ := distinct
  cases ends with
  | inactive no =>
      have refused : ¬ m.Admitted answers s := Sought.not_admitted_of_inactive no
      refine ⟨List.mem_cons_self, ⟨_, rfl⟩, ?_, ?_⟩
      · simp [asks, refused]
      · simp [acts, mt Reached.toAdmitted refused]
  | invalid _ _ refuses =>
      have refused : ¬ m.Admitted answers s := Sought.not_admitted_of_invalid refuses
      refine ⟨List.mem_cons_self, ⟨_, rfl⟩, ?_, ?_⟩
      · simp [asks, refused]
      · simp [acts, mt Reached.toAdmitted refused]
  | asked admitted =>
      cases found : m.found answers with
      | false =>
          have missing : ¬ m.Reached answers s := by
            intro reached
            rw [reached.found] at found
            cases found
          refine ⟨List.mem_cons_self, ⟨_, rfl⟩, ?_, ?_⟩
          · simp [admitted]
          · simp [acts, finds.symm, missing]
      | true =>
          refine ⟨List.mem_cons_self, ⟨[], rfl⟩, ?_, ?_⟩
          · simp [admitted]
          · simp [Reached.mk admitted found]

/-- The result of a command that answers with a code: the first of a failure to answer for the
client, a success for an inactive client, a refusal of the handle, a success without the motor, and
the code of the motor. -/
structure Sought.Tells (m : Sought) (answers : Answerer) (s : State) (own result : ResultCode) :
    Prop where
  failed : (m.active answers).result.isSuccess = false → result = (m.active answers).result
  inactive : (m.active answers).result.isSuccess = true → (m.active answers).value ≠ some true →
    result.isSuccess = true
  invalid : (m.active answers).result.isSuccess = true → (m.active answers).value = some true →
    (m.validation s).isSuccess = false → result = m.validation s
  missing : m.Admitted answers s → m.found answers = false → result = .success
  reached : m.Reached answers s → result = own

theorem Sought.Ends.tells {search : Search} {calls : List Call}
    (ends : m.Ends answers s search calls) (own : ResultCode) :
    m.Tells answers s own (if search.found = true then own else search.result) := by
  cases ends with
  | inactive no =>
      have refused : ¬ m.Admitted answers s := Sought.not_admitted_of_inactive no
      exact ⟨fun _ => rfl, fun success _ => success, fun success yes => absurd ⟨success, yes⟩ no,
        fun admitted => absurd admitted refused, fun reached => absurd reached.toAdmitted refused⟩
  | invalid success yes refuses =>
      have refused : ¬ m.Admitted answers s := Sought.not_admitted_of_invalid refuses
      exact ⟨fun failed => absurd (failed.symm.trans success) (by decide),
        fun _ no => absurd yes no, fun _ _ _ => rfl,
        fun admitted => absurd admitted refused, fun reached => absurd reached.toAdmitted refused⟩
  | asked admitted =>
      refine ⟨fun failed => absurd (failed.symm.trans admitted.answered) (by decide),
        fun _ no => absurd admitted.active no,
        fun _ _ refuses => absurd (refuses.symm.trans admitted.valid) (by decide), ?_, ?_⟩
      · intro _ missing
        rw [missing]
        rfl
      · intro reached
        rw [reached.found]
        rfl

/-! ### Values of a motor -/

variable (answers s) in
/-- The value of a motor is told if the motor is reached and succeeds in telling it. -/
theorem actualValue_ran (aruid : Int) (h : DeviceHandle) :
    let m : Sought := ⟨.standard, aruid, h⟩
    let report : Report VibrationValue := answers [m.isActive, m.find] (.motor .getActualValue)
    let told := m.Reached answers s ∧ report.result.isSuccess = true
    ∃ search calls value?, m.Ends answers s search calls ∧
      (told → value? = report.value) ∧ (¬ told → value? = some .resting) ∧
      (actualValue aruid h).ran (answering answers) [] s =
        ⟨.ok value?, s,
          if search.found = true then calls ++ [.motor .getActualValue] else calls⟩ := by
  intro m report told
  have asked : Handler.ran (do
      let report ← ask (.motor .getActualValue)
      return if report.result.isFailure then some VibrationValue.resting else report.value)
      (answering answers) [m.isActive, m.find] s =
      ⟨.ok (if report.result.isFailure then some .resting else report.value), s,
        [.motor .getActualValue]⟩ := rfl
  obtain ⟨search, calls, ends, ran⟩ := ran_of_search m answers s (f := fun _ => some .resting) asked
  refine ⟨search, calls, _, ends, ?_, ?_, ran⟩
  · rintro ⟨reached, success⟩
    rw [if_pos (ends.found_iff.mpr reached), if_neg (by simp [success])]
  · intro untold
    split
    case isTrue found =>
      have failed : report.result.isFailure = true := by
        simpa using fun success => untold ⟨ends.found_iff.mp found, success⟩
      exact if_pos failed
    case isFalse => rfl

/-- A motor that succeeds in telling its command gives an integer. -/
def WholeCommands (answers : Answerer) : Prop :=
  ∀ past, let report : Report Quantity := answers past (.motor .getActualGcErm)
    report.result.isSuccess = true → ∃ n : Int, report.value.bind Quantity.toInt? = some n

variable (s) in
/-- And so is its command. -/
theorem actualGcErm_ran (whole : WholeCommands answers) (aruid : Int) (h : DeviceHandle) :
    let m : Sought := ⟨.gc, aruid, h⟩
    let report : Report Quantity := answers [m.isActive, m.find] (.motor .getActualGcErm)
    let told := m.Reached answers s ∧ report.result.isSuccess = true
    ∃ search calls n, m.Ends answers s search calls ∧
      (told → report.value.bind Quantity.toInt? = some n) ∧
      (¬ told → n = GcErmCommand.stop.value) ∧
      (actualGcErm aruid h).ran (answering answers) [] s =
        ⟨.ok n, s, if search.found = true then calls ++ [.motor .getActualGcErm] else calls⟩ := by
  intro m report told
  have answered : answering answers [m.isActive, m.find] (.motor .getActualGcErm) = .ok report :=
    rfl
  obtain ⟨n, given, stops, asked⟩ : ∃ n : Int,
      (report.result.isSuccess = true → report.value.bind Quantity.toInt? = some n) ∧
      (report.result.isSuccess = false → n = GcErmCommand.stop.value) ∧
      Handler.ran (do
        let report ← ask (.motor .getActualGcErm)
        if report.result.isFailure then return GcErmCommand.stop.value
        required (report.value.bind Quantity.toInt?)) (answering answers) [m.isActive, m.find] s =
        ⟨.ok n, s, [.motor .getActualGcErm]⟩ := by
    cases success : report.result.isSuccess with
    | false =>
        have failed : report.result.isFailure = true := by simp [success]
        refine ⟨GcErmCommand.stop.value, nofun, fun _ => rfl, ?_⟩
        rw [ran_ask_ok answered, if_pos failed]
        rfl
    | true =>
        have passed : ¬ report.result.isFailure = true := by simp [success]
        obtain ⟨n, integer⟩ := whole _ success
        refine ⟨n, fun _ => integer, nofun, ?_⟩
        rw [ran_ask_ok answered, if_neg passed]
        change Ran.after (Handler.ran (required (report.value.bind _)) ..) _ = _
        rw [integer]
        rfl
  obtain ⟨search, calls, ends, ran⟩ :=
    ran_of_search m answers s (f := fun _ => GcErmCommand.stop.value) asked
  refine ⟨search, calls, _, ends, ?_, ?_, ran⟩
  · rintro ⟨reached, success⟩
    rw [if_pos (ends.found_iff.mpr reached), given success]
  · intro untold
    split
    case isTrue found =>
      exact stops (by simpa using fun success => untold ⟨ends.found_iff.mp found, success⟩)
    case isFalse => rfl

end Searching
end Hid.Commands
