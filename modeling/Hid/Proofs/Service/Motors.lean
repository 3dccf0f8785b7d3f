import Hid.Device.Simulated
import Hid.Proofs.Commands.Searching

/-!
Requests for one motor. Four commands are for the motor behind a handle, on behalf of a client
(`Errand`): two tell its value or command, two send it one. They look for it in the same way, and
differ in what they make of not finding it.

* `motors_exact`: for any block, any accepted controllers and any answers, which calls are made and
  what the client is told.
-/

namespace Hid.Service

open Commands (Sought WholeCommands)
open Device (Call MotorCall MotorView Report)
open Dispatch (Response)
open Number (nearestInteger)
open Wire (Bytes Layout Shape flagAt handleAt numberAt)

/-- The commands that are for one motor, on behalf of a client. -/
inductive Errand where
  | actualValue | sendGcErm | actualGcErm | sendBool
  deriving DecidableEq, Repr

namespace Errand

def opcode : Errand → Int
  | actualValue => 202
  | sendGcErm => 207
  | actualGcErm => 208
  | sendBool => 212

/-- The size of the parameter block. -/
def size : Errand → Nat
  | actualValue | actualGcErm => 16
  | sendGcErm | sendBool => 24

def view : Errand → MotorView
  | actualValue => .standard
  | sendGcErm | actualGcErm => .gc
  | sendBool => .n64

/-- The motor that a block asks for: it begins with the handle, the client is at offset eight. -/
def sought (e : Errand) (block : Bytes) : Sought := ⟨e.view, numberAt 8 8 block, handleAt 0 block⟩

/-- What is called of the motor. What is sent to it is at offset sixteen. -/
def method (e : Errand) (block : Bytes) : MotorCall :=
  match e with
  | actualValue => .getActualValue
  | sendGcErm => .sendGcErm (nearestInteger (numberAt 16 8 block))
  | actualGcErm => .getActualGcErm
  | sendBool => .sendBool (flagAt 16 block)

/-- The command has no output. -/
def IsSetter : Errand → Prop
  | sendGcErm | sendBool => True
  | actualValue | actualGcErm => False

end Errand

section Motors

variable {s : Service} {p : Post} {answers : Answerer}

/-- The reply to a request for a motor tells the client what the command is for: a setter gives a
result, and the other two succeed and give the value of the motor that was reached and succeeded,
or else the value of a motor at rest. -/
structure Errand.Tells (e : Errand) (block : Bytes) (answers : Answerer) (s : State)
    (response : Response) : Prop where
  result : e.IsSetter → ∃ result, response = { result } ∧ (e.sought block).Tells answers s
    (Device.Kind.resultCode _ (answers [(e.sought block).isActive, (e.sought block).find]
      (.motor (e.method block)))) result
  value : e = .actualValue → ∃ output, response = { result := .success, output } ∧
    let report : Report VibrationValue :=
      answers [(e.sought block).isActive, (e.sought block).find] (.motor .getActualValue)
    let told := (e.sought block).Reached answers s ∧ report.result.isSuccess = true
    (told → Layout.vibrationValue.Sends report.value output) ∧
    (¬ told → Layout.vibrationValue.encode .resting = .ok output)
  command : e = .actualGcErm → ∃ output, response = { result := .success, output } ∧
    let report : Report Quantity :=
      answers [(e.sought block).isActive, (e.sought block).find] (.motor .getActualGcErm)
    let told := (e.sought block).Reached answers s ∧ report.result.isSuccess = true
    (told → ∃ n : Int, report.value.bind Quantity.toInt? = some n ∧
      Layout.word64.encode n = .ok output) ∧
    (¬ told → Layout.word64.encode GcErmCommand.stop.value = .ok output)

/-- A command that sends something to the motor that it seeks replies with what the motor answers,
or else with what its search has come to. -/
theorem reply_of_setter {opcode : Int} {size : Nat} {shape : Shape} {name : String}
    {handler : shape.Value → Handler ResultCode} {q : shape.Value} (m : Sought)
    {x : Handler ResultCode} {own : ResultCode} {method : Call}
    (asks : p.Asks opcode size answers)
    (entry : (mainTable s.config).lookup? (.int opcode) = some (coded name shape.layout handler))
    (decoded : shape.layout.decode p.request.parameters = .ok q)
    (sends : handler q = do
      let search ← Commands.findMotor m.view m.aruid m.handle
      if search.found then x else return search.result)
    (asked : x.ran (answering answers) [m.isActive, m.find] s.state =
      ⟨.ok own, s.state, [method]⟩) :
    ∃ search calls, m.Ends answers s.state search calls ∧
      s.reply p = some (.reply { result := if search.found = true then own else search.result },
        if search.found = true then calls ++ [method] else calls) := by
  obtain ⟨search, calls, ends, ran⟩ :=
    Commands.ran_of_search m answers s.state (f := Commands.Search.result) asked
  rw [← sends] at ran
  exact ⟨search, calls, ends, reply_of_coded asks entry decoded ran⟩

theorem lookup_sendGcErm (config : Config) :
    (mainTable config).lookup? (.int 207) = some (coded "SendVibrationGcErmCommand"
      Shape.gcErmAruid.layout fun q => do
        let search ← Commands.findMotor .gc q.aruid q.handle
        if search.found then Handler.ask (.motor (.sendGcErm (nearestInteger q.value)))
        else return search.result) := rfl

/-- What each of the four comes to: the end of its search decides. -/
theorem reply_of_errand (e : Errand) (asks : p.Asks e.opcode e.size answers)
    (whole : WholeCommands answers) :
    ∃ search calls response, (e.sought p.request.parameters).Ends answers s.state search calls ∧
      s.reply p = some (.reply response,
        if search.found = true then calls ++ [.motor (e.method p.request.parameters)] else calls) ∧
      e.Tells p.request.parameters answers s.state response := by
  cases e with
  | actualValue =>
      have entry : (mainTable s.config).lookup? (.int 202) = some (replied
          "GetActualVibrationValue" Shape.handleAruid.layout Shape.vibrationValue.layout fun q =>
            return { result := .success, output := ← Commands.actualValue q.aruid q.handle }) :=
        rfl
      have decoded : Shape.handleAruid.layout.decode p.request.parameters =
          .ok ⟨handleAt 0 p.request.parameters, numberAt 8 8 p.request.parameters⟩ :=
        Shape.handleAruid.decode_places asks.whole
      obtain ⟨search, calls, value?, ends, told, untold, ran⟩ :=
        Commands.actualValue_ran answers s.state (numberAt 8 8 p.request.parameters)
          (handleAt 0 p.request.parameters)
      obtain ⟨block, sends, -, reply⟩ :=
        reply_of_replied asks entry decoded (Handler.ran_bind_pure_ok ran _)
      refine ⟨search, calls, _, ends, reply, nofun, fun _ => ⟨block, rfl, ?_, ?_⟩, nofun⟩
      · intro reached
        rwa [told reached] at sends
      · intro unreached
        rwa [untold unreached] at sends
  | sendGcErm =>
      have decoded := Shape.gcErmAruid.decode_places asks.whole
      obtain ⟨search, calls, ends, reply⟩ :=
        reply_of_setter (Errand.sendGcErm.sought p.request.parameters) asks
          (lookup_sendGcErm s.config) decoded rfl
          (Handler.ran_ask (.motor (Errand.sendGcErm.method p.request.parameters)))
      exact ⟨search, calls, _, ends, reply, fun _ => ⟨_, rfl, ends.tells _⟩, nofun, nofun⟩
  | actualGcErm =>
      have entry : (mainTable s.config).lookup? (.int 208) = some (replied
          "GetActualVibrationGcErmCommand" Shape.handleAruid.layout Shape.word64.layout fun q =>
            return { result := .success,
                     output := some (← Commands.actualGcErm q.aruid q.handle) }) := rfl
      have decoded : Shape.handleAruid.layout.decode p.request.parameters =
          .ok ⟨handleAt 0 p.request.parameters, numberAt 8 8 p.request.parameters⟩ :=
        Shape.handleAruid.decode_places asks.whole
      obtain ⟨search, calls, n, ends, told, untold, ran⟩ :=
        Commands.actualGcErm_ran s.state whole (numberAt 8 8 p.request.parameters)
          (handleAt 0 p.request.parameters)
      obtain ⟨block, sends, -, reply⟩ := reply_of_replied asks entry decoded
        (Handler.ran_bind_pure_ok ran _)
      refine ⟨search, calls, _, ends, reply, nofun, nofun, fun _ => ⟨block, rfl, ?_, ?_⟩⟩
      · exact fun reached => ⟨n, told reached, sends⟩
      · intro unreached
        rwa [untold unreached] at sends
  | sendBool =>
      have entry : (mainTable s.config).lookup? (.int 212) = some (coded
          "SendVibrationValueInBool" Shape.handleAruidFlag.layout fun q => do
            let search ← Commands.findMotor .n64 q.aruid q.handle
            if search.found then Handler.ask (.motor (.sendBool q.isVibrating))
            else return search.result) := rfl
      have decoded := Shape.handleAruidFlag.decode_places asks.whole
      obtain ⟨search, calls, ends, reply⟩ :=
        reply_of_setter (Errand.sendBool.sought p.request.parameters) asks entry decoded rfl
          (Handler.ran_ask (.motor (Errand.sendBool.method p.request.parameters)))
      exact ⟨search, calls, _, ends, reply, fun _ => ⟨_, rfl, ends.tells _⟩, nofun, nofun⟩

/-- **Requests for one motor.** For each of the four commands, any block of its size, any
controllers accepted at present and any answers of a device layer that does not fail (and gives
integers where it tells commands of motors):

* the device layer is asked first whether the client is active; then it is asked for the motor, if
  and only if it has said yes and the handle is valid; then the method of the motor is called, if
  and only if there is one; nothing else is called;
* a setter replies with the first of the failure to answer for the client, a success for a client
  that is not active, the code of an invalid handle, a success if there is no motor, and what the
  motor answers (`Sought.Tells`);
* the other two always succeed, with the value of the motor if it was reached and succeeded, and
  otherwise with the value at rest, or the command to stop (`Errand.Tells`). -/
theorem motors_exact (s : Service) {p : Post} {answers : Answerer} (e : Errand)
    (asks : p.Asks e.opcode e.size answers) (whole : WholeCommands answers) :
    let m := e.sought p.request.parameters
    let method : Call := .motor (e.method p.request.parameters)
    ∃ response calls, s.reply p = some (.reply response, calls) ∧
      m.isActive ∈ calls ∧ calls <+: [m.isActive, m.find, method] ∧
      (m.find ∈ calls ↔ m.Admitted answers s.state) ∧
      (method ∈ calls ↔ m.Reached answers s.state) ∧
      e.Tells p.request.parameters answers s.state response := by
  intro m method
  obtain ⟨search, calls, response, ends, reply, tells⟩ := reply_of_errand (s := s) e asks whole
  obtain ⟨first, inOrder, find_iff, method_iff⟩ := ends.calls (e.method p.request.parameters)
  exact ⟨response, _, reply, first, inOrder, find_iff, method_iff, tells⟩

end Motors

/-- A request of a client to a motor of the first controller, to start. -/
def startingMotor : Post :=
  ⟨0, { opcode := 207
        parameters := [8, 0, 0, 0, 0, 0, 0, 0] ++ Wire.LittleEndian.bytesOfInt 8 7 ++
          Wire.LittleEndian.bytesOfInt 8 GcErmCommand.start.value },
    ⟨"session", 0⟩, answering fun _ => Device.Simulated.answer []⟩

/-- The motor is there, and gets the command. -/
theorem motors_exact_starting :
    startingMotor.Asks Errand.sendGcErm.opcode Errand.sendGcErm.size
        (fun _ => Device.Simulated.answer []) ∧
      WholeCommands (fun _ => Device.Simulated.answer []) ∧
      ∃ calls, (start .initial).reply startingMotor =
        some (.reply { result := .success }, calls) ∧ .motor (.sendGcErm 1) ∈ calls := by
  have asks : startingMotor.Asks Errand.sendGcErm.opcode Errand.sendGcErm.size
      (fun _ => Device.Simulated.answer []) := ⟨rfl, rfl, rfl, rfl, rfl⟩
  have whole : WholeCommands fun _ => Device.Simulated.answer [] := fun _ _ => ⟨1, rfl⟩
  obtain ⟨response, calls, reply, -, -, -, method_iff, tells⟩ :=
    motors_exact (start .initial) Errand.sendGcErm asks whole
  have reached : (Errand.sendGcErm.sought startingMotor.request.parameters).Reached
      (fun _ => Device.Simulated.answer []) State.initial := ⟨⟨rfl, rfl, rfl⟩, rfl⟩
  obtain ⟨result, rfl, told⟩ := tells.result trivial
  obtain rfl := told.reached reached
  exact ⟨asks, whole, calls, reply, method_iff.mpr reached⟩

end Hid.Service
