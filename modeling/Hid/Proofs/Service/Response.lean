import Hid.Proofs.Commands.Replies
import Hid.Proofs.Service.Serving

/-!
The shape of what clients get. A client takes replies apart at fixed places, and can: whatever a
command of the service or of one of its objects is asked and however the device layer answers, its
reply is the bare one of an error or has one shape, which only the command decides.

* `reply_shape`: the sizes of the output and of buffers, and the number of objects, in any reply.
-/

namespace Hid.Service

open Commands (bufferSizes givers HasShape)
open Dispatch (Command Definition Request Response Session Table)

/-- The size of the buffer that a command of a target replies with, if it replies with one. -/
def bufferSize? (target : Nat) (opcode : Quantity) : Option Nat :=
  match target, opcode.plain with
  | 0, .int opcode => bufferSizes.lookup opcode
  | _, _ => none

/-- How many objects a command of a target hands out. Beside some of the service itself, the one of
a client's resource hands out one. -/
def objectCount (s : Service) : Nat → Quantity → Nat
  | 0, opcode => if opcode.plain ∈ givers.map Quantity.int then 1 else 0
  | position + 1, _ =>
      match s.state.interfaces[position]? with
      | some (.appletResource _) => 1
      | _ => 0

section Answers

variable {s : Service} {target : Nat} {t : Table Program} {opcode : Quantity}

theorem shapes_of_lookup {c : Command Program} (found : s.table? target = some t)
    (entry : t.lookup? opcode = some c) :
    Shapes (bufferSize? target opcode) (s.objectCount target opcode) c := by
  obtain ⟨n, plain, among⟩ := Table.exists_mem_rows entry
  cases target with
  | zero =>
      obtain rfl := Option.some.inj found
      have shape : HasShape (n, c) := mainTable_shapes s.config (n, c) among
      have given : Quantity.int n ∈ givers.map Quantity.int ↔ n ∈ givers :=
        List.mem_map_of_injective fun _ _ => Quantity.int.inj
      simp only [bufferSize?, objectCount, plain, given]
      exact shape
  | succ position =>
      obtain ⟨object, at_position, rfl⟩ := Option.map_eq_some_iff.mp found
      rw [objectCount, at_position]
      cases object with
      | appletResource aruid => exact appletResource_shapes aruid (n, c) among
      | deviceList r => exact deviceList_shapes position (n, c) among

end Answers

/-- **Replies have a fixed shape.** Whatever a service has done before, any reply of an implemented
command, of the service or of one of its objects, however the device layer answers, is the bare
unspecific one, or, whatever its result is,

* its output has exactly the size of the layout that the command declares, or is empty if it
  declares none;
* it has a buffer only with a success of the commands 87, 88 and 503 of the service, and then just
  one, of exactly 0x744, 0xc8 and 0x140 bytes;
* it hands out one object if it is a reply of the commands 0, 106, 203 and 502 of the service or of
  the one command of a client's resource, and none otherwise. -/
theorem reply_shape {s : Service} {device : Device} {target : Nat} {request : Request}
    {session : Session} {a : Answered} (answered : s.handle device target request session = some a)
    {t : Table Program} (found : s.table? target = some t) {d : Definition Program}
    (entry : t.lookup? request.opcode = some (.implemented d)) {response : Response}
    (replied : a.outcome = .reply response) :
    response = { result := .unknown } ∨
      response.output.length = outputSize d ∧
      response.buffers.map List.length =
        (if response.result.isSuccess then (bufferSize? target request.opcode).toList else []) ∧
      response.handles.length = s.objectCount target request.opcode := by
  rw [handle_eq_attend] at answered
  rcases attend_of_implemented found entry answered with ⟨v, violates⟩ | bare | ⟨parameters, rfl⟩
  · rw [violates] at replied
    cases replied
  · rw [bare] at replied
    exact .inl (Dispatch.Outcome.reply.inj replied).symm
  · have answers : Answers _ _ d := shapes_of_lookup found entry
    exact answers.conclude replied

/-- A device layer that refuses to hand out events and fails in all else. -/
def refusing : Device := fun _ c => match c with
  | .npad (.acquireUpdateEvent ..) => .ok ⟨.invalidNpadId, none⟩
  | _ => .error (.raised "off")

/-- The place of an object is there although none is handed out. -/
theorem reply_shape_refused :
    let request : Request := { opcode := 106, parameters := List.replicate 24 0 }
    ∃ a, (start .initial).handle refusing 0 request ⟨"session", 0⟩ = some a ∧
      ∃ response, a.outcome = .reply response ∧ response.result = .invalidNpadId ∧
        response.output.length = 0 ∧ response.buffers.map List.length = [] ∧
        response.handles.length = 1 := by
  intro request
  have answered : (start .initial).handle refusing 0 request ⟨"session", 0⟩ = some _ := rfl
  refine ⟨_, answered, ⟨.invalidNpadId, [], [], [.absent .copy]⟩, rfl, rfl, ?_⟩
  rcases reply_shape answered rfl rfl rfl with bare | shape
  · cases bare
  · exact shape

end Hid.Service
