import Hid.Proofs.Commands.Effects
import Hid.Proofs.Service.Serving
import Hid.Proofs.Wire.Catalogue

/-!
What a post changes. `Changed` lists all that a post can do to the state of a service: create an
object, accept ids, put a handle into one list, or nothing; `changed` says that there is nothing
else, so that whatever all posts keep is proved by cases on it.

Which posts have ids accepted can be told from the post alone (`Post.accepted?`), as all that it
depends on is the request and the answer of the device layer to it.
-/

namespace Hid.Service

open Activation (Registry)
open Commands (createAppletResource createDeviceList setSupportedIds)
open Device (Call)
open Dispatch (Outcome Response Table)
open Wire (Bytes Layout)
open Wire.LittleEndian (value)

/-! ### Posts that have ids accepted -/

/-- The words of four bytes that a buffer is made of, up to a rest that is no word. -/
def words : Bytes → List Int
  | a :: b :: c :: d :: rest => (value [a, b, c, d] : Int) :: words rest
  | _ => []

namespace Post

/-- The client that is named at the start of a request. -/
def aruid (p : Post) : Int := value (p.request.parameters.take 8)

/-- The first buffer; a missing one is empty. -/
def buffer (p : Post) : Bytes := p.request.buffers.headD []

/-- The request is one to set the accepted ids, and can be read as one. -/
structure SetsIds (p : Post) : Prop where
  target : p.target = 0
  opcode : p.request.opcode = 102
  parameters : p.request.parameters.length = 8
  handles : p.request.handles = []
  buffer : p.buffer.length % 4 = 0

instance (p : Post) : Decidable p.SetsIds :=
  decidable_of_iff (p.target = 0 ∧ p.request.opcode = 102 ∧ p.request.parameters.length = 8 ∧
    p.request.handles = [] ∧ p.buffer.length % 4 = 0)
    ⟨fun ⟨t, o, n, h, b⟩ => ⟨t, o, n, h, b⟩, fun ⟨t, o, n, h, b⟩ => ⟨t, o, n, h, b⟩⟩

/-- All ids of the request are defined. -/
def NamesDefined (p : Post) : Prop := ∀ id ∈ words p.buffer, isNpadIdValid id = true

instance (p : Post) : Decidable p.NamesDefined := inferInstanceAs (Decidable (∀ _ ∈ _, _))

/-- What the device layer is told of the ids. -/
def idsCall (p : Post) : Call := .npad (.setIds p.aruid (words p.buffer))

/-- What the handler gets to see of the request. -/
def idsContext (p : Post) : Dispatch.Context Int :=
  ⟨p.request.opcode.plain, "SetSupportedNpadIdType", p.aruid, p.session, p.request⟩

/-- The ids that are accepted because of a post, if any are: those of a request to set them, all
defined, which the device layer has taken. -/
def accepted? (p : Post) : Option (List Int) :=
  if p.SetsIds ∧ p.NamesDefined then
    match p.device [] p.idsCall with
    | .ok code => if code.isSuccess then some (words p.buffer) else none
    | .error _ => none
  else none

end Post

section Reading

theorem decode_aruid {block : Bytes} (whole : block.length = 8) :
    Layout.aruid.decode block = .ok (value block : Int) := by
  have read : Layout.aruid.read (.ofBlock block) =
      .ok ((value block : Int), .between block []) := by
    have found := Wire.Field.read_between (f := .u64) trivial [] [] whole
    rwa [List.append_nil] at found
  have position : (Wire.Reader.between block []).position = (Layout.aruid.size : Quantity) :=
    congrArg (fun n : Nat => (n : Quantity)) whole
  rw [Layout.decode_of_length_eq _ whole, read]
  exact if_pos position

/-- A request is read as naming a client if its parameters are eight bytes, and then the client. -/
theorem decode_parameters_iff {p : Post} {aruid : Int} :
    Layout.aruid.decode p.request.parameters = .ok aruid ↔
      p.request.parameters.length = 8 ∧ p.aruid = aruid := by
  by_cases whole : p.request.parameters.length = 8
  · rw [Post.aruid, List.take_of_length_le (Nat.le_of_eq whole), decode_aruid whole]
    constructor
    · intro decoded
      exact ⟨whole, Except.ok.inj decoded⟩
    · rintro ⟨-, named⟩
      rw [named]
  · rw [Layout.decode_of_length_ne _ whole]
    constructor
    · intro decoded
      cases decoded
    · rintro ⟨other, -⟩
      exact absurd other whole

/-- A buffer of whole words is read as these words. -/
theorem decodeAll_npadId {buffer : Bytes} (whole : buffer.length % 4 = 0) :
    Layout.npadId.decodeAll buffer = .ok (words buffer) := by
  have word (a b c d : UInt8) : Layout.npadId.read (.ofBlock [a, b, c, d]) =
      .ok ((value [a, b, c, d] : Int), .between [a, b, c, d] []) := by
    exact Wire.Field.read_between (f := .u32) trivial [] [] (rfl : [a, b, c, d].length = 4)
  have stride : ¬ buffer.length % Layout.npadId.size ≠ 0 := not_not_intro whole
  rw [Layout.decodeAll, if_neg (by decide), if_neg stride]
  change (Layout.strides 4 (buffer.length / 4) buffer).mapM _ = _
  clear stride
  induction buffer using words.induct with
  | case1 a b c d rest ih =>
      have shorter : rest.length % 4 = 0 := by
        simp only [List.length_cons] at whole
        omega
      have count : (a :: b :: c :: d :: rest).length / 4 = rest.length / 4 + 1 := by
        simp only [List.length_cons]
        omega
      rw [count, Layout.strides, List.mapM_cons, words]
      simp only [List.take_succ_cons, List.take_zero, List.drop_succ_cons, List.drop_zero, word,
        ih shorter]
      rfl
  | case2 buffer short =>
      have empty : buffer = [] := by
        match buffer, short, whole with
        | [], _, _ => rfl
        | [_], _, whole | [_, _], _, whole | [_, _, _], _, whole => cases whole
        | a :: b :: c :: d :: rest, short, _ => exact (short a b c d rest rfl).elim
      rw [empty]
      rfl

/-- A missing buffer is read as an empty one. -/
theorem rawBuffer_eq {α : Type} (c : Dispatch.Context α) :
    c.rawBuffer 0 = c.request.buffers.headD [] := by
  have first : Dispatch.item? c.request.buffers 0 = c.request.buffers[0]? :=
    Dispatch.item?_natCast c.request.buffers 0
  rw [Dispatch.Context.rawBuffer, first]
  cases c.request.buffers with
  | nil => rfl
  | cons buffer rest => rfl

variable {c : Dispatch.Context Int}

theorem readBuffer_words (whole : (c.request.buffers.headD []).length % 4 = 0) :
    c.readBuffer 0 Layout.npadId = .ok (words (c.request.buffers.headD [])) := by
  rw [Dispatch.Context.readBuffer, rawBuffer_eq, decodeAll_npadId whole]

/-- Only a buffer of whole words is read. -/
theorem whole_of_readBuffer {ids : List Int} (read : c.readBuffer 0 Layout.npadId = .ok ids) :
    (c.request.buffers.headD []).length % 4 = 0 ∧ ids = words (c.request.buffers.headD []) := by
  by_cases whole : (c.request.buffers.headD []).length % 4 = 0
  · rw [readBuffer_words whole] at read
    exact ⟨whole, (Except.ok.inj read).symm⟩
  · have ragged : (c.request.buffers.headD []).length % Layout.npadId.size ≠ 0 := whole
    rw [Dispatch.Context.readBuffer, rawBuffer_eq, Layout.decodeAll, if_neg (by decide),
      if_pos ragged] at read
    cases read

end Reading

section Ids

variable {s : Service} {p : Post}

/-- What a request to set the ids comes to is what comes of accepting them. -/
theorem attend_setsIds (sets : p.SetsIds) {code : ResultCode} {state : State} {calls : List Call}
    (ran : (Commands.acceptIds p.idsContext).ran p.device [] s.state = ⟨.ok code, state, calls⟩) :
    s.attend p = some ⟨.reply { result := code },
      { s with state := state, past := s.past ++ calls }.tell p.target (mainTable s.config)
        p.request.opcode (.reply { result := code }), calls⟩ := by
  have found : s.table? p.target = some (mainTable s.config) := by rw [sets.target]; rfl
  have entry : (mainTable s.config).lookup? p.request.opcode = some setSupportedIds := by
    rw [sets.opcode]; rfl
  have none := Dispatch.Request.hasHandles_zero sets.handles
  have decoded := decode_parameters_iff.mpr ⟨sets.parameters, rfl⟩
  rw [attend_of_decoded found entry none decoded, carryOut]
  dsimp only
  rw [← Post.idsContext, Handler.ran_bind_pure, ran]
  rfl

/-- One undefined id, and nothing is asked and nothing accepted. -/
theorem attend_undefined (sets : p.SetsIds) (undefined : ¬ p.NamesDefined) :
    s.attend p = some ⟨.reply { result := .invalidNpadId },
      { s with past := s.past ++ [] }.tell p.target (mainTable s.config) p.request.opcode
        (.reply { result := .invalidNpadId }), []⟩ :=
  attend_setsIds sets
    (Commands.acceptIds_ran_of_undefined (readBuffer_words (c := p.idsContext) sets.buffer)
      undefined)

/-- The device layer is told all ids, in their order and as often as they are named. -/
theorem attend_defined (sets : p.SetsIds) (defined : p.NamesDefined) {code : ResultCode}
    (answered : p.device [] p.idsCall = .ok code) :
    s.attend p = some ⟨.reply { result := code },
      { s with
        state := if code.isSuccess then
            { s.state with controllers := .ofList ((words p.buffer).map .int) } else s.state
        past := s.past ++ [p.idsCall] }.tell p.target (mainTable s.config) p.request.opcode
          (.reply { result := code }), [p.idsCall]⟩ :=
  attend_setsIds sets
    (Commands.acceptIds_ran_of_ok (readBuffer_words (c := p.idsContext) sets.buffer) defined
      answered)

theorem accepted?_eq_some_iff {ids : List Int} :
    p.accepted? = some ids ↔ p.SetsIds ∧ p.NamesDefined ∧ ids = words p.buffer ∧
      ∃ code : ResultCode, p.device [] p.idsCall = .ok code ∧ code.isSuccess = true := by
  rw [Post.accepted?]
  constructor
  · intro accepted
    split at accepted
    case isFalse => cases accepted
    case isTrue named =>
      split at accepted
      case h_2 => cases accepted
      case h_1 code answered =>
        split at accepted
        case isFalse => cases accepted
        case isTrue success =>
          exact ⟨named.1, named.2, (Option.some.inj accepted).symm, code, answered, success⟩
  · rintro ⟨sets, defined, rfl, code, answered, success⟩
    rw [if_pos ⟨sets, defined⟩, answered]
    exact if_pos success

end Ids

/-! ### All that a post can change -/

/-- What a post does to the state of a service, and what the reply says if it hands out an
object. -/
inductive Changed (s : Service) (p : Post) (a : Answered) : Prop where
  | nothing (same : a.service.state = s.state)
  | resource {code : ResultCode} (target : p.target = 0) (opcode : p.request.opcode.plain = 0)
      (parameters : p.request.parameters.length = 8)
      (state : a.service.state = s.state.add (.appletResource p.aruid))
      (told : a.outcome = .reply
        { result := code, handles := [.interface (s.state.interfaces.length + 1)] })
  | list {fresh : Registry} (target : p.target = 0) (opcode : p.request.opcode = 203)
      (made : Registry.ofCapacity s.config.activationCapacity = .ok fresh)
      (state : a.service.state = s.state.add (.deviceList fresh))
      (told : a.outcome = .reply
        { result := .success, handles := [.interface (s.state.interfaces.length + 1)] })
  | ids {ids : List Int} (accepted : p.accepted? = some ids)
      (state : a.service.state = { s.state with controllers := .ofList (ids.map .int) })
  | activation {position : Nat} {r : Registry} {h : DeviceHandle} {code : ResultCode}
      {answer : Except Failure ResultCode} (target : p.target = position + 1)
      (found : s.state.interfaces[position]? = some (.deviceList r))
      (state : a.service.state = s.state.setRegistry position (r.activate code h answer).1)

section Changes

variable {s : Service} {p : Post} {a : Answered}

theorem changed_of_opcode_zero (answered : s.attend p = some a) (target : p.target = 0)
    (opcode : p.request.opcode.plain = 0) : Changed s p a := by
  obtain ⟨t, found, ⟨outcome, rfl⟩ | ⟨d, aruid, ran, entry, -, decoded, computed, rfl⟩⟩ :=
    attend_cases answered
  · exact .nothing rfl
  · rw [target] at found
    obtain rfl := Option.some.inj found
    rw [← Table.lookup?_plain, opcode] at entry
    obtain rfl := Dispatch.Command.implemented.inj (Option.some.inj entry)
    obtain ⟨whole, named⟩ := decode_parameters_iff.mp decoded
    have created := computed.symm.trans (Commands.created_ran _)
    rw [Handler.ran_bind_pure] at created
    cases asked : p.device [] (.createAppletResource aruid) with
    | error failure =>
        rw [Handler.ran_ask, asked] at created
        rw [created]
        exact .nothing rfl
    | ok code =>
        rw [Handler.ran_ask, asked] at created
        rw [created]
        refine @Changed.resource s p _ code target opcode whole ?_ rfl
        rw [named]
        rfl

theorem changed_of_opcode_203 (answered : s.attend p = some a) (target : p.target = 0)
    (opcode : p.request.opcode = 203) : Changed s p a := by
  obtain ⟨t, found, ⟨outcome, rfl⟩ | ⟨d, parameters, ran, entry, -, -, computed, rfl⟩⟩ :=
    attend_cases answered
  · exact .nothing rfl
  · rw [target] at found
    obtain rfl := Option.some.inj found
    rw [opcode] at entry
    obtain rfl := Dispatch.Command.implemented.inj (Option.some.inj entry)
    have created := computed.symm.trans (Commands.created_ran _)
    rw [Handler.ran_bind_pure, Handler.ran_attempt] at created
    cases made : Registry.ofCapacity s.config.activationCapacity with
    | error failure =>
        rw [made] at created
        rw [created]
        exact .nothing rfl
    | ok fresh =>
        rw [made] at created
        rw [created]
        exact .list target opcode made rfl rfl

/-- A request with the opcode of the setting of ids that runs the handler is one that can be read,
or the handler stops before it asks for anything. -/
theorem changed_of_opcode_102 (answered : s.attend p = some a) (target : p.target = 0)
    (opcode : p.request.opcode = 102) : Changed s p a := by
  obtain ⟨t, found, ⟨outcome, rfl⟩ | ⟨d, aruid, ran, entry, handles, decoded, computed, rfl⟩⟩ :=
    attend_cases answered
  · exact .nothing rfl
  · rw [target] at found
    obtain rfl := Option.some.inj found
    rw [opcode] at entry
    obtain rfl := Dispatch.Command.implemented.inj (Option.some.inj entry)
    obtain ⟨whole, rfl⟩ := decode_parameters_iff.mp decoded
    have none : p.request.handles = [] :=
      List.length_eq_zero_iff.mp (Dispatch.Request.hasHandles_iff.mp handles)
    have accepting := computed.symm.trans
      (Handler.ran_bind_pure (x := Commands.acceptIds p.idsContext) _)
    cases read : p.idsContext.readBuffer 0 Layout.npadId with
    | error failure =>
        rw [Commands.acceptIds_ran_of_unread read] at accepting
        rw [accepting]
        exact .nothing rfl
    | ok ids =>
        obtain ⟨buffer, rfl⟩ := whole_of_readBuffer read
        have sets : p.SetsIds := ⟨target, opcode, whole, none, buffer⟩
        by_cases defined : p.NamesDefined
        case neg =>
          rw [Commands.acceptIds_ran_of_undefined read defined] at accepting
          rw [accepting]
          exact .nothing rfl
        case pos =>
          cases asked : p.device [] p.idsCall with
          | error failure =>
              rw [Commands.acceptIds_ran_of_error read defined asked] at accepting
              rw [accepting]
              exact .nothing rfl
          | ok code =>
              rw [Commands.acceptIds_ran_of_ok read defined asked] at accepting
              rw [accepting]
              by_cases success : ResultCode.isSuccess code = true
              case pos =>
                have accepted := accepted?_eq_some_iff.mpr
                  ⟨sets, defined, rfl, code, asked, success⟩
                exact .ids accepted (if_pos success)
              case neg => exact .nothing (if_neg success)

/-- The one command of a list. -/
theorem lookup_deviceList {position : Nat} {opcode : Quantity} {c : Dispatch.Command Program}
    (entry : (Commands.deviceList position).lookup? opcode = some c) :
    opcode.plain = 0 ∧
      c = coded "ActivateVibrationDevice" .deviceHandle (Commands.activateIn position) := by
  obtain ⟨n, plain, among⟩ := Table.exists_mem_rows entry
  obtain ⟨rfl, rfl⟩ := Prod.mk.inj (List.mem_singleton.mp among)
  exact ⟨plain, rfl⟩

/-- The outcome that an activation shows as. -/
def activated : Except Failure ResultCode → Outcome
  | .ok code => .reply { result := code }
  | .error (.violation v) => .violation (v.raisedBy 0 "ActivateVibrationDevice")
  | .error _ => .reply { result := .unknown }

/-- What the activation of a handle in a list comes to: what the registry of the list says. -/
def activationIn (s : Service) (p : Post) (position : Nat) (r : Registry) (h : DeviceHandle) :
    Answered :=
  let code := validateVibrationHandle h s.state.controllers
  let asked := Commands.askMotor p.device [] h
  let outcome := activated (r.activate code h asked.1).2
  let state := s.state.setRegistry position (r.activate code h asked.1).1
  let calls := if r.consider code h = .askDevice then asked.2 else []
  ⟨outcome, { s with state, past := s.past ++ calls }.tell p.target (Commands.deviceList position)
    p.request.opcode outcome, calls⟩

theorem attend_activation {position : Nat} {r : Registry} {h : DeviceHandle}
    (target : p.target = position + 1)
    (object : s.state.interfaces[position]? = some (.deviceList r))
    (opcode : p.request.opcode.plain = 0)
    (handles : p.request.handles = [])
    (decoded : Layout.deviceHandle.decode p.request.parameters = .ok h) :
    s.attend p = some (s.activationIn p position r h) := by
  have found : s.table? p.target = some (Commands.deviceList position) := by
    rw [target, table?, object]
    rfl
  have entry : (Commands.deviceList position).lookup? p.request.opcode = some
      (coded "ActivateVibrationDevice" .deviceHandle (Commands.activateIn position)) := by
    rw [← Table.lookup?_plain, opcode]
    rfl
  have none := Dispatch.Request.hasHandles_zero handles
  have concludes (answer : Except Failure ResultCode) : Dispatch.Definition.conclude
      { name := "ActivateVibrationDevice"
        parameters := .deviceHandle
        Output := Unit
        handler := fun c => return { result := ← Commands.activateIn position c.parameters } }
      0 (answer.map fun code => { result := code }) = activated answer := by
    cases answer with
    | ok code => rfl
    | error failure => cases failure <;> rfl
  rw [attend_of_decoded found entry none decoded, activationIn, carryOut]
  dsimp only
  rw [Handler.ran_bind_pure, Commands.activateIn_ran, State.registry_eq object]
  rw [opcode, concludes]

/-- An activation in a list changes that list, and does so as its registry says. -/
theorem changed_of_list (answered : s.attend p = some a) {position : Nat} {r : Registry}
    (target : p.target = position + 1)
    (object : s.state.interfaces[position]? = some (.deviceList r)) : Changed s p a := by
  obtain ⟨t, found, ⟨outcome, rfl⟩ | ⟨d, h, ran, entry, -, -, computed, rfl⟩⟩ :=
    attend_cases answered
  · exact .nothing rfl
  · rw [target, table?, object] at found
    obtain rfl := Option.some.inj found
    obtain ⟨-, same⟩ := lookup_deviceList entry
    obtain rfl := Dispatch.Command.implemented.inj same
    have activated := computed.symm.trans
      (Handler.ran_bind_pure (x := Commands.activateIn position h) _)
    rw [Commands.activateIn_ran, State.registry_eq object] at activated
    rw [activated]
    exact .activation target object rfl

/-- A post does nothing to the state but what is listed. -/
theorem changed (answered : s.attend p = some a) : Changed s p a := by
  cases target : p.target with
  | zero =>
      obtain ⟨t, found, ⟨outcome, rfl⟩ | ⟨d, parameters, ran, entry, -, -, computed, rfl⟩⟩ :=
        attend_cases answered
      · exact .nothing rfl
      · rw [target] at found
        obtain rfl := Option.some.inj found
        obtain ⟨n, opcode, among⟩ := Table.exists_mem_rows entry
        by_cases special : n ∈ [0, 102, 203]
        case neg =>
          have steady : Steady (.implemented d) := mainTable_steady s.config (n, _) among special
          rw [← computed]
          exact .nothing (steady _).state_eq
        case pos =>
          simp only [List.mem_cons, List.not_mem_nil, or_false] at special
          rcases special with rfl | rfl | rfl
          · exact changed_of_opcode_zero answered target opcode
          · exact changed_of_opcode_102 answered target (Quantity.eq_of_plain opcode (by decide))
          · exact changed_of_opcode_203 answered target (Quantity.eq_of_plain opcode (by decide))
  | succ position =>
      obtain ⟨t, found, ⟨outcome, rfl⟩ | ⟨d, parameters, ran, entry, -, -, computed, rfl⟩⟩ :=
        attend_cases answered
      · exact .nothing rfl
      · rw [target] at found
        obtain ⟨object, at_position, rfl⟩ := Option.map_eq_some_iff.mp found
        cases object with
        | deviceList r => exact changed_of_list answered target at_position
        | appletResource aruid =>
            obtain ⟨n, -, among⟩ := Table.exists_mem_rows entry
            have steady : Steady (.implemented d) :=
              Commands.appletResource_steady aruid (n, _) among
            rw [← computed]
            exact .nothing (steady _).state_eq

end Changes
end Hid.Service
