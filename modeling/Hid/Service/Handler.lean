import Hid.Dispatch.Table
import Hid.Service.Program
import Hid.Wire.Catalogue

/-!
Command handlers as programs that may fail, and the forms that most commands have. An
error of the device layer ends a handler; nothing is undone.
-/

namespace Hid.Service

open Device (Call Report)
open Dispatch (Command Context OutputHandle Reply)
open Wire (Bytes Layout)

abbrev Handler := ExceptT Failure Program

/-- A row of a command table. -/
abbrev Row := Int × Command Program

namespace Handler

def ask (c : Call) : Handler c.Answer := ExceptT.mk (.ask c .done)

def state : Handler State := ExceptT.mk (.inspect fun s => .done (.ok s))

def change (f : State → State) : Handler Unit := ExceptT.mk (.update f (.done (.ok ())))

/-- Goes on with a value unless it is a failure. -/
def attempt (e : Except Failure α) : Handler α := ExceptT.mk (.done e)

/-- Goes on with a value that has to be there. -/
def required (value : Option α) : Handler α :=
  attempt (match value with
    | some value => .ok value
    | none => .error .unusableValue)

/-- Data that must have exactly `size` bytes to be sent. -/
def sized (name : String) (size : Nat) (data : Bytes) : Handler Bytes :=
  attempt (((Layout.rawBytes name size).encode data).mapError .fault)

/-- The run of a handler against a device layer. -/
def ran (x : Handler α) (device : Device) (past : List Call) (s : State) : Ran (Except Failure α) :=
  x.run.run device past s

section Runs

variable {x : Handler α} {k : α → Handler β} {device : Device} {past : List Call} {s : State}

/-- A handler that fails does nothing more. -/
theorem ran_bind_error {failure : Failure} (failed : (x.ran device past s).value = .error failure) :
    (x >>= k).ran device past s =
      ⟨.error failure, (x.ran device past s).state, (x.ran device past s).calls⟩ := by
  change (x.run.bind _).run device past s = _
  rw [Program.run_bind]
  change (x.run.run device past s).value = _ at failed
  simp only [failed]
  simp [ExceptT.bindCont, ran, Program.run, pure]

/-- One that has come to a value goes on with it from where it is. -/
theorem ran_bind_ok {a : α} (found : (x.ran device past s).value = .ok a) :
    (x >>= k).ran device past s =
      ((k a).ran device (past ++ (x.ran device past s).calls) (x.ran device past s).state).after
        (x.ran device past s).calls := by
  change (x.run.bind _).run device past s = _
  rw [Program.run_bind]
  change (x.run.run device past s).value = _ at found
  simp only [found]
  rfl

/-- A step that only makes another value of what was found does nothing. -/
theorem ran_bind_pure (f : α → β) :
    (x >>= fun a => pure (f a)).ran device past s =
      ⟨(x.ran device past s).value.map f, (x.ran device past s).state,
        (x.ran device past s).calls⟩ := by
  cases found : (x.ran device past s).value with
  | error failure => rw [ran_bind_error found]; rfl
  | ok a =>
      rw [ran_bind_ok found]
      exact congrArg (Ran.mk _ _) (List.append_nil _)

theorem ran_pure (a : α) : (pure a : Handler α).ran device past s = ⟨.ok a, s, []⟩ := rfl

theorem ran_ask (c : Call) : (ask c).ran device past s = ⟨device past c, s, [c]⟩ := rfl

theorem ran_attempt (e : Except Failure α) : (attempt e).ran device past s = ⟨e, s, []⟩ := rfl

theorem ran_state_bind (k : State → Handler β) :
    (state >>= k).ran device past s = (k s).ran device past s := rfl

theorem ran_change_bind (f : State → State) (k : Unit → Handler β) :
    (change f >>= k).ran device past s = (k ()).ran device past (f s) := rfl

theorem ran_ask_ok {c : Call} {answer : c.Answer} (answered : device past c = .ok answer)
    (k : c.Answer → Handler β) :
    (ask c >>= k).ran device past s = ((k answer).ran device (past ++ [c]) s).after [c] :=
  ran_bind_ok answered

theorem ran_ask_error {c : Call} {failure : Failure} (failed : device past c = .error failure)
    (k : c.Answer → Handler β) :
    (ask c >>= k).ran device past s = ⟨.error failure, s, [c]⟩ :=
  ran_bind_error failed

theorem ran_attempt_ok {e : Except Failure α} {a : α} (found : e = .ok a) (k : α → Handler β) :
    (attempt e >>= k).ran device past s = (k a).ran device past s := by
  rw [found]
  rfl

theorem ran_attempt_error {e : Except Failure α} {failure : Failure} (failed : e = .error failure)
    (k : α → Handler β) : (attempt e >>= k).ran device past s = ⟨.error failure, s, []⟩ := by
  rw [failed]
  rfl

end Runs

end Handler

/-! ### Forms of commands -/

/-- A command that answers with a code alone. -/
def coded (name : String) (parameters : Layout α) (handler : α → Handler ResultCode) :
    Command Program :=
  .implemented
    { name
      parameters
      Output := Unit
      handler := fun c => return { result := ← handler c.parameters } }

/-- A command that succeeds once its work is done. -/
def performed (name : String) (parameters : Layout α) (handler : α → Handler Unit) :
    Command Program :=
  coded name parameters fun p => do
    handler p
    return .success

/-- A command with an output block. -/
def replied (name : String) (parameters : Layout α) (output : Layout β)
    (handler : α → Handler (Reply β)) : Command Program :=
  .implemented
    { name
      parameters
      output := some output
      handler := fun c => handler c.parameters }

/-- A command that passes on a report as it is, a failed one with its value too. -/
def reported (name : String) (parameters : Layout α) (output : Layout β)
    (handler : α → Handler (Report β)) : Command Program :=
  replied name parameters output fun p => do
    let report ← handler p
    return { result := report.result, output := report.value }

/-- A command that looks at more of the request than its parameters. -/
def contextual (name : String) (parameters : Layout α) (handleCount : Nat)
    (handler : Context α → Handler ResultCode) : Command Program :=
  .implemented
    { name
      parameters
      handleCount
      Output := Unit
      handler := fun c => return { result := ← handler c } }

/-- A command that hands out the kernel object of a report. -/
def handedOut (name : String) (parameters : Layout α)
    (handler : α → Handler (Report Quantity)) : Command Program :=
  .implemented
    { name
      parameters
      Output := Unit
      handler := fun c => do
        let report ← handler c.parameters
        let handle : OutputHandle := match report.value with
          | some object => .transfer ⟨.copy, object⟩
          | none => .absent .copy
        return { result := report.result, handles := [handle] } }

/-- A command that makes an object and hands it out, whatever the code. -/
def created (name : String) (parameters : Layout α)
    (handler : α → Handler (ResultCode × Interface)) : Command Program :=
  .implemented
    { name
      parameters
      Output := Unit
      handler := fun c => do
        let (result, object) ← handler c.parameters
        let earlier := (← Handler.state).interfaces.length
        Handler.change (·.add object)
        return { result, handles := [.interface (earlier + 1)] } }

end Hid.Service
