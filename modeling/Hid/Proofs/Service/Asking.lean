import Hid.Proofs.Dispatch.Exchange
import Hid.Proofs.Service.Serving
import Hid.Proofs.Wire.Places

/-!
Requests for commands of the service, to a device layer that answers every call
(`Post.Asks`). They are well-sized and bring no handles, so that the handler runs, and what comes
of them is what the handler comes to (`reply_of_asks`), in each of the forms that commands have:
a code (`reply_of_coded`) or a reply with an output block (`reply_of_replied`).
-/

namespace Hid.Wire

/-- The block that is sent for a value of the layout, which may have been left out. -/
def Layout.Sends (l : Layout α) : Option α → Bytes → Prop
  | some v, block => l.encode v = .ok block
  | none, block => block = List.replicate l.size 0

theorem Shape.exists_sends (s : Shape) (v? : Option s.Value) :
    ∃ block, s.layout.Sends v? block ∧ block.length = s.layout.size := by
  cases v? with
  | none => exact ⟨_, rfl, List.length_replicate⟩
  | some v =>
      have encoded := s.encode_eq v
      exact ⟨_, encoded, s.sized v _ encoded⟩

/-- Bytes of the right size are sent as they are. -/
theorem Layout.encode_rawBytes (name : String) {size : Nat} (small : size < Number.twoTo 40)
    {data : Bytes} (whole : data.length = size) : (rawBytes name size).encode data = .ok data := by
  have admits : (Field.bytes size).Admits data :=
    congrArg (fun n : Nat => (n : Quantity)) whole.symm
  have fits : List.length ([] : Bytes) + (Field.bytes size).width ≤ size := by
    rw [List.length_nil, Nat.zero_add]
    exact Nat.le_refl size
  obtain ⟨next, written, holds⟩ := Field.write_holds (Writer.holds_ofSize size) admits fits
  change (Writer.declare (size : Quantity) >>= _) = _
  rw [Writer.declare_of_lt size small, ok_bind, rawBytes]
  dsimp only
  rw [if_pos whole, written, ok_bind, holds.finish whole]
  rfl

end Hid.Wire

namespace Hid.Device

/-- The result code of an answer. An answer without one is no failure. -/
def Kind.resultCode : (k : Kind) → k.Value → ResultCode
  | .code, answer => answer
  | .report _, answer => answer.result
  | _, _ => .success

end Hid.Device

namespace Hid.Dispatch.Definition

open Wire (Bytes Layout)

/-- A reply is sent with the block of its output. -/
theorem conclude_of_sends {m : Type → Type} {d : Definition m} {l : Layout d.Output}
    (declared : d.output = some l) (zeros : l.zeros = .ok (List.replicate l.size 0))
    (opcode : Quantity) {reply : Reply d.Output} {block : Bytes}
    (sends : l.Sends reply.output block) :
    d.conclude opcode (.ok reply) =
      .reply ⟨reply.result, block, reply.buffers, reply.handles⟩ := by
  suffices encoded : d.encodeOutput reply.output = .ok block by rw [conclude, encoded]
  cases given : reply.output with
  | none =>
      rw [given] at sends
      obtain rfl : block = _ := sends
      simp only [encodeOutput, declared, zeros]
      rfl
  | some v =>
      rw [given] at sends
      have encoded : l.encode v = .ok block := sends
      simp only [encodeOutput, declared, encoded]
      rfl

end Hid.Dispatch.Definition

namespace Hid.Service

open Device (Call)
open Dispatch (Definition Reply)
open Wire (Bytes Layout Shape)

/-- What a device layer that does not fail answers to a call after the calls made before. -/
abbrev Answerer := (past : List Call) → (c : Call) → c.Answer

/-- The device layer that answers every call. -/
def answering (answers : Answerer) : Device := fun past c => .ok (answers past c)

theorem Handler.ran_bind_pure_ok {x : Handler α} {device : Device} {past : List Call}
    {s state : State} {a : α} {calls : List Call}
    (ran : x.ran device past s = ⟨.ok a, state, calls⟩) (f : α → β) :
    (x >>= fun a => pure (f a)).ran device past s = ⟨.ok (f a), state, calls⟩ := by
  rw [Handler.ran_bind_pure, ran]
  rfl

theorem Handler.sized_of_whole (name : String) {size : Nat} (small : size < Number.twoTo 40)
    {data : Bytes} (whole : data.length = size) : Handler.sized name size data = pure data := by
  rw [Handler.sized, Layout.encode_rawBytes name small whole]
  rfl

namespace Post

/-- A request for a command of the service, with a block of the size and without handles, is sent
to a device layer that answers every call. -/
structure Asks (p : Post) (opcode : Int) (size : Nat) (answers : Answerer) : Prop where
  target : p.target = 0
  opcode : p.request.opcode = .int opcode
  whole : p.request.parameters.length = size
  handles : p.request.handles = []
  device : p.device = answering answers

end Post

section Asking

variable {s : Service} {p : Post} {opcode : Int} {answers : Answerer}

/-- The handler of the command runs, and what it comes to is what comes of the request. -/
theorem reply_of_asks {d : Definition Program} {q : d.Parameters}
    {size : Nat} (asks : p.Asks opcode size answers)
    (entry : (mainTable s.config).lookup? (.int opcode) = some (.implemented d))
    (none : d.handleCount = 0) (decoded : d.parameters.decode p.request.parameters = .ok q)
    {value : Except Failure (Reply d.Output)} {state : State} {calls : List Call}
    (ran : Handler.ran (d.handler ⟨p.request.opcode.plain, d.name, q, p.session, p.request⟩)
      (answering answers) [] s.state = ⟨value, state, calls⟩) :
    s.reply p = some (d.conclude p.request.opcode.plain value, calls) := by
  rw [← asks.opcode] at entry
  have attended := attend_of_handleless asks.target asks.handles entry none decoded
  rw [reply_of_attend attended, carryOut, asks.device, ran]

/-- A command that answers with a code makes the calls of its handler and replies with its code. -/
theorem reply_of_coded {shape : Shape} {name : String} {handler : shape.Value → Handler ResultCode}
    {q : shape.Value} {size : Nat} (asks : p.Asks opcode size answers)
    (entry : (mainTable s.config).lookup? (.int opcode) = some (coded name shape.layout handler))
    (decoded : shape.layout.decode p.request.parameters = .ok q) {code : ResultCode}
    {state : State} {calls : List Call}
    (ran : (handler q).ran (answering answers) [] s.state = ⟨.ok code, state, calls⟩) :
    s.reply p = some (.reply { result := code }, calls) :=
  reply_of_asks asks entry rfl decoded (Handler.ran_bind_pure_ok ran _)

/-- One with an output block sends what the reply of its handler puts out. -/
theorem reply_of_replied {shape output : Shape} {name : String}
    {handler : shape.Value → Handler (Reply output.Value)} {q : shape.Value} {size : Nat}
    (asks : p.Asks opcode size answers) (entry : (mainTable s.config).lookup? (.int opcode) =
      some (replied name shape.layout output.layout handler))
    (decoded : shape.layout.decode p.request.parameters = .ok q) {reply : Reply output.Value}
    {state : State} {calls : List Call}
    (ran : (handler q).ran (answering answers) [] s.state = ⟨.ok reply, state, calls⟩) :
    ∃ block, output.layout.Sends reply.output block ∧ block.length = output.layout.size ∧
      s.reply p =
        some (.reply ⟨reply.result, block, reply.buffers, reply.handles⟩, calls) := by
  obtain ⟨block, sends, length⟩ := output.exists_sends reply.output
  refine ⟨block, sends, length, ?_⟩
  rw [reply_of_asks asks entry rfl decoded ran,
    Definition.conclude_of_sends rfl output.faithful.zeros _ sends]

end Asking
end Hid.Service
