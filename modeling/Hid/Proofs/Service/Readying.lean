import Hid.Proofs.Service.Asking

/-!
Requests to make an input device ready. Seven commands do so in the same two steps, for a device of
their own and for the client that their block names (`readyCommands`). The first step may be left
to the firmware, and the second is taken only after a success of the first
(`makeReady_of_succeeds`, `makeReady_of_fails`).

* `readying_exact`: for each of them, any block of its size, any firmware and any answers or errors
  of the device layer, which calls are made and what the client is told.
-/

namespace Hid.Service

open Activation (succeeds)
open Commands (makeReady)
open Device (Call Input)
open Dispatch (Outcome)
open Wire (Bytes Shape Values numberAt)

/-! ### Commands that make a device ready -/

/-- What a command that makes a device ready is like. -/
structure ReadyCommand where
  opcode : Int
  name : String
  /-- The parameter block. -/
  shape : Shape
  /-- Where the client is named in it. -/
  offset : Nat
  /-- The device. -/
  input : Input
  /-- Failures are told. -/
  tells : Bool

/-- The commands that make a device ready. -/
def readyCommands : List ReadyCommand :=
  [⟨1, "ActivateDebugPad", .aruid, 0, .debugPad, true⟩,
   ⟨11, "ActivateTouchScreen", .aruid, 0, .touchScreen, true⟩,
   ⟨21, "ActivateMouse", .aruid, 0, .mouse, true⟩,
   ⟨31, "ActivateKeyboard", .aruid, 0, .keyboard, true⟩,
   ⟨91, "ActivateGesture", .idAruid, 8, .gesture, true⟩,
   ⟨300, "ActivateConsoleSixAxisSensor", .aruid, 0, .consoleSixAxis, true⟩,
   ⟨303, "ActivateSevenSixAxisSensor", .aruid, 0, .sevenSixAxis, false⟩]

namespace ReadyCommand

variable {r : ReadyCommand} {answer : Except Failure ResultCode}

/-- The code that is told. -/
def code (r : ReadyCommand) (code : ResultCode) : ResultCode := if r.tells then code else .success

/-- What the client is told of the answer that has decided. -/
def told (r : ReadyCommand) : Except Failure ResultCode → Outcome
  | .ok code => .reply { result := r.code code }
  | .error (.violation v) => .violation (v.raisedBy (.int r.opcode) r.name)
  | .error _ => .reply { result := .unknown }

/-- The answer counts as a success. -/
def Accepts (r : ReadyCommand) (answer : Except Failure ResultCode) : Prop :=
  ∃ code : ResultCode, answer = .ok code ∧ (r.tells = true → code.isSuccess = true)

theorem accepts_of_succeeds (success : succeeds answer = true) : r.Accepts answer := by
  cases answer with
  | ok code => exact ⟨code, rfl, fun _ => success⟩
  | error failure => cases success

theorem isSuccess_code_iff {code : ResultCode} :
    (r.code code).isSuccess = true ↔ (r.tells = true → code.isSuccess = true) := by
  rw [ReadyCommand.code]
  split
  case isTrue tells => exact ⟨fun success _ => success, fun success => success tells⟩
  case isFalse silent =>
    exact ⟨fun _ tells => absurd tells silent, fun _ => ResultCode.isSuccess_success⟩

/-- A success is told of what counts as one, and of nothing else. -/
theorem told_isSuccess_iff :
    (∃ response, r.told answer = .reply response ∧ response.result.isSuccess = true) ↔
      r.Accepts answer := by
  constructor
  · rintro ⟨response, told, success⟩
    cases answer with
    | ok code =>
        obtain rfl := Outcome.reply.inj told
        exact ⟨code, rfl, isSuccess_code_iff.mp success⟩
    | error failure =>
        cases failure with
        | violation v => cases told
        | fault | undeclaredOutput | unusableValue | invalidCapacity | raised =>
            obtain rfl := Outcome.reply.inj told
            exact absurd success (by decide)
  · rintro ⟨code, rfl, success⟩
    exact ⟨_, rfl, isSuccess_code_iff.mpr success⟩

end ReadyCommand

/-- The request is well-sized and has no handles. -/
structure Post.Readies (p : Post) (r : ReadyCommand) : Prop where
  target : p.target = 0
  opcode : p.request.opcode = .int r.opcode
  whole : p.request.parameters.length = r.shape.layout.size
  handles : p.request.handles = []

section Readying

variable {s : Service} {p : Post} {r : ReadyCommand} {device : Device} {past : List Call}
  {state : State} {input : Input} {aruid : Int}

/-! ### The two steps -/

theorem makeReady_managed : (makeReady true input aruid).ran device past state =
    ⟨device past (.activateForApplet input aruid), state, [.activateForApplet input aruid]⟩ := rfl

theorem makeReady_of_succeeds (success : succeeds (device past (.activate input)) = true) :
    (makeReady false input aruid).ran device past state =
      ⟨device (past ++ [.activate input]) (.activateForApplet input aruid), state,
        [.activate input, .activateForApplet input aruid]⟩ := by
  rw [makeReady, if_neg Bool.false_ne_true]
  cases answered : device past (.activate input) with
  | error failure =>
      rw [answered] at success
      cases success
  | ok code =>
      rw [answered] at success
      have success : code.isSuccess = true := success
      have passed : ¬ code.isFailure = true := by simp [success]
      rw [Handler.ran_ask_ok answered]
      dsimp only
      rw [if_neg passed]
      rfl

theorem makeReady_of_fails (failure : succeeds (device past (.activate input)) = false) :
    (makeReady false input aruid).ran device past state =
      ⟨device past (.activate input), state, [.activate input]⟩ := by
  rw [makeReady, if_neg Bool.false_ne_true]
  cases answered : device past (.activate input) with
  | error thrown => exact Handler.ran_ask_error answered _
  | ok code =>
      rw [answered] at failure
      have failure : code.isSuccess = false := failure
      have failed : code.isFailure = true := by simp [failure]
      rw [Handler.ran_ask_ok answered]
      dsimp only
      rw [if_pos failed]
      rfl

/-! ### Requests -/

/-- Each of the commands makes its device ready for the client that its block names. -/
theorem lookup_of_readyCommands (listed : r ∈ readyCommands) (config : Config) (block : Bytes) :
    ∃ handler, (mainTable config).lookup? (.int r.opcode) =
        some (coded r.name r.shape.layout handler) ∧
      handler (r.shape.record.make (Values.places r.shape.record.slots 0 block)) = do
        return r.code (← makeReady config.deviceManaged r.input (numberAt r.offset 8 block)) := by
  simp only [readyCommands, List.mem_cons, List.not_mem_nil, or_false] at listed
  rcases listed with rfl | rfl | rfl | rfl | rfl | rfl | rfl
  · exact ⟨_, rfl, (bind_pure _).symm⟩
  · exact ⟨_, rfl, (bind_pure _).symm⟩
  · exact ⟨_, rfl, (bind_pure _).symm⟩
  · exact ⟨_, rfl, (bind_pure _).symm⟩
  · exact ⟨_, rfl, (bind_pure _).symm⟩
  · exact ⟨_, rfl, (bind_pure _).symm⟩
  · -- the code is dropped, and a success put in its place
    refine ⟨_, rfl, ?_⟩
    dsimp only
    rw [Functor.discard, map_const, Function.comp_apply, bind_map_left]
    rfl

/-- What the two steps come to is what comes of the request. -/
theorem reply_of_readies (listed : r ∈ readyCommands) (readies : p.Readies r) :
    let ran := (makeReady s.config.deviceManaged r.input
      (numberAt r.offset 8 p.request.parameters)).ran p.device [] s.state
    s.reply p = some (r.told ran.value, ran.calls) ∧ (s.after p).state = ran.state := by
  intro ran
  obtain ⟨handler, entry, steps⟩ :=
    lookup_of_readyCommands listed s.config p.request.parameters
  rw [← readies.opcode] at entry
  have attended := attend_of_handleless readies.target readies.handles entry rfl
    (r.shape.decode_places readies.whole)
  rw [carryOut] at attended
  dsimp only at attended
  rw [steps, Handler.ran_bind_pure, Handler.ran_bind_pure] at attended
  rw [reply_of_attend attended, after_of_attend attended]
  refine ⟨congrArg (fun outcome => some (outcome, ran.calls)) ?_, rfl⟩
  rw [readies.opcode]
  change Dispatch.Definition.conclude _ (.int r.opcode) ((ran.value.map r.code).map _) =
    r.told ran.value
  cases ran.value with
  | ok code => rfl
  | error failure => cases failure <;> rfl

/-- **Making input devices ready.** For each of the seven commands, any block of its size and any
device layer, whatever it answers and wherever it fails, the state is left as it is, and

* if the firmware manages the devices, the only call is the one that registers the client of the
  block with the device of the command, and its answer decides;
* otherwise the device is made ready first. If that succeeds, the client is registered next, and the
  answer to this decides; if not, nothing more is called, and the answer to the first call decides;
* a code that has decided is the result, unless the command keeps failures to itself; an error gives
  the unspecific reply, or a violation if it is one;
* a success is told if and only if all answers count as one. -/
theorem readying_exact (s : Service) {p : Post} {r : ReadyCommand} (listed : r ∈ readyCommands)
    (readies : p.Readies r) :
    let first : Call := .activate r.input
    let second : Call := .activateForApplet r.input (numberAt r.offset 8 p.request.parameters)
    (s.after p).state = s.state ∧
    (s.config.deviceManaged = true →
      s.reply p = some (r.told (p.device [] second), [second])) ∧
    (s.config.deviceManaged = false →
      (succeeds (p.device [] first) = true →
        s.reply p = some (r.told (p.device [first] second), [first, second])) ∧
      (succeeds (p.device [] first) = false →
        s.reply p = some (r.told (p.device [] first), [first]))) ∧
    ((∃ response calls, s.reply p = some (.reply response, calls) ∧
        response.result.isSuccess = true) ↔
      (s.config.deviceManaged = true → r.Accepts (p.device [] second)) ∧
      (s.config.deviceManaged = false → r.Accepts (p.device [] first) ∧
        (succeeds (p.device [] first) = true → r.Accepts (p.device [first] second)))) := by
  intro first second
  obtain ⟨reply, state⟩ := reply_of_readies (s := s) listed readies
  have success {answer : Except Failure ResultCode} {calls : List Call}
      (replied : s.reply p = some (r.told answer, calls)) :
      (∃ response calls, s.reply p = some (.reply response, calls) ∧
        response.result.isSuccess = true) ↔ r.Accepts answer := by
    rw [← ReadyCommand.told_isSuccess_iff, replied]
    constructor
    · rintro ⟨response, _, same, success⟩
      exact ⟨response, (Prod.mk.inj (Option.some.inj same)).1, success⟩
    · rintro ⟨response, told, success⟩
      exact ⟨response, calls, by rw [told], success⟩
  cases managed : s.config.deviceManaged with
  | true =>
      rw [managed, makeReady_managed] at reply state
      refine ⟨state, fun _ => reply, nofun, ?_⟩
      rw [success reply]
      exact ⟨fun accepted => ⟨fun _ => accepted, nofun⟩, fun either => either.1 rfl⟩
  | false =>
      rw [managed] at reply state
      cases went : succeeds (p.device [] first) with
      | true =>
          rw [makeReady_of_succeeds went] at reply state
          refine ⟨state, nofun, fun _ => ⟨fun _ => reply, nofun⟩, ?_⟩
          rw [success reply]
          constructor
          · exact fun accepted =>
              ⟨nofun, fun _ => ⟨ReadyCommand.accepts_of_succeeds went, fun _ => accepted⟩⟩
          · exact fun either => (either.2 rfl).2 rfl
      | false =>
          rw [makeReady_of_fails went] at reply state
          refine ⟨state, nofun, fun _ => ⟨nofun, fun _ => reply⟩, ?_⟩
          rw [success reply]
          exact ⟨fun accepted => ⟨nofun, fun _ => ⟨accepted, nofun⟩⟩,
            fun either => (either.2 rfl).1⟩

end Readying

/-- A device layer whose devices cannot be made ready, and that fails at all else. -/
def asleep : Device := fun _ c => match c with
  | .activate _ => .ok (.int 7)
  | _ => .error (.raised "off")

/-- A request of a client to make the seven six-axis sensor ready. -/
def waking : Post :=
  ⟨0, { opcode := 303, parameters := Wire.LittleEndian.bytesOfInt 8 7 }, ⟨"session", 0⟩, asleep⟩

/-- The sensor is not made ready, the client is not registered, and a success is told. -/
theorem readying_exact_asleep :
    ∃ r ∈ readyCommands, waking.Readies r ∧ succeeds (asleep [] (.activate r.input)) = false ∧
      (start .initial).reply waking =
        some (.reply { result := .success }, [.activate .sevenSixAxis]) := by
  have listed : readyCommands[6] ∈ readyCommands := List.getElem_mem _
  have readies : waking.Readies readyCommands[6] := ⟨rfl, rfl, rfl, rfl⟩
  have failed : succeeds (asleep [] (.activate .sevenSixAxis)) = false := by decide
  obtain ⟨-, -, own, -⟩ := readying_exact (start .initial) listed readies
  exact ⟨_, listed, readies, failed, (own rfl).2 failed⟩

end Hid.Service
