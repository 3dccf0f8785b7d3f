import Hid.Dispatch.Context

/-!
Commands: implemented ones with a handler, stubs with a fixed reply, and ones that
nothing is bound to. Handlers run in any monad; a failure of a handler ends it.
-/

namespace Hid.Dispatch

open Wire (Bytes Layout)

/-- What a handler answers. A reply without output is sent with a zero block of the
declared size. -/
structure Reply (β : Type) where
  result : ResultCode
  output : Option β := none
  buffers : List Bytes := []
  handles : List OutputHandle := []

/-- A command with a handler. -/
structure Definition (m : Type → Type) where
  {Parameters : Type}
  {Output : Type}
  name : String
  parameters : Layout Parameters
  output : Option (Layout Output) := none
  handleCount : Quantity := 0
  handler : Context Parameters → ExceptT Failure m (Reply Output)

/-- A command with a fixed reply. Without a parameter size, any parameters will do. -/
structure Stub where
  name : String
  parameterSize : Option Quantity := none
  handleCount : Quantity := 0
  result : ResultCode := .success
  output : Bytes := []
  buffers : List Bytes := []
  handles : List Transfer := []
  deriving DecidableEq, Repr

inductive Command (m : Type → Type) where
  | implemented (d : Definition m)
  | stubbed (s : Stub)
  | unimplemented (name : Option String)

/-- A handle-count violation unless the request brings as many handles as declared. What is
no natural number is declared of no request. -/
def checkHandles (opcode : Quantity) (name : String) (declared : Quantity) (request : Request) :
    Except Violation Unit :=
  if request.hasHandles declared then .ok ()
  else
    let v := Violation.make name .handleCount declared request.handles.length
    .error (v.raisedBy opcode name)

namespace Stub

/-- The parameter size is checked before the number of handles. -/
def answer (s : Stub) (opcode : Quantity) (request : Request) : Outcome :=
  let checked : Except Violation Unit := do
    match s.parameterSize with
    | some size =>
        if ¬ request.hasSize size then
          throw ((Violation.make s.name .parameterSize size request.parameters.length).raisedBy
            opcode s.name)
    | none => pure ()
    checkHandles opcode s.name s.handleCount request
  match checked with
  | .error v => .violation v
  | .ok () =>
      .reply
        { result := s.result
          output := s.output
          buffers := s.buffers
          handles := s.handles.map .transfer }

end Stub

namespace Definition

variable {m : Type → Type} [Monad m]

/-- The output block of a reply. -/
def encodeOutput (d : Definition m) (output : Option d.Output) : Except Failure Bytes :=
  match d.output, output with
  | some layout, some value => (layout.encode value).mapError .fault
  | some layout, none => layout.zeros.mapError .fault
  | none, some _ => .error .undeclaredOutput
  | none, none => .ok []

/-- Decodes the parameters, runs the handler and encodes its reply. A parameter block
of the wrong size is an outcome; whatever else goes wrong is a failure. -/
def invoke (d : Definition m) (opcode : Quantity) (request : Request) (session : Session) :
    ExceptT Failure m Outcome :=
  match d.parameters.decode request.parameters with
  | .error (.violation v) => pure (.violation (v.raisedBy opcode d.name))
  | .error (.fault f) => throw (.fault f)
  | .ok parameters => do
      let reply ← d.handler ⟨opcode, d.name, parameters, session, request⟩
      let output ← ExceptT.mk (pure (d.encodeOutput reply.output))
      pure (.reply
        { result := reply.result
          output := output
          buffers := reply.buffers
          handles := reply.handles })

/-- The outcome a failure shows as: a violation in the name of the command, or the
bare unspecific reply. -/
def outcomeOfFailure (d : Definition m) (opcode : Quantity) : Failure → Outcome
  | .violation v => .violation (v.raisedBy opcode d.name)
  | _ => .reply { result := .unknown }

/-- The number of handles is checked before the parameter size. -/
def answer (d : Definition m) (opcode : Quantity) (request : Request) (session : Session) :
    m Outcome :=
  match checkHandles opcode d.name d.handleCount request with
  | .error v => pure (.violation v)
  | .ok () => do
      match ← (d.invoke opcode request session).run with
      | .ok outcome => pure outcome
      | .error failure => pure (d.outcomeOfFailure opcode failure)

end Definition

namespace Command

variable {m : Type → Type}

def name? : Command m → Option String
  | implemented d => some d.name
  | stubbed s => some s.name
  | unimplemented name => name

def answer [Monad m] (c : Command m) (opcode : Quantity) (request : Request) (session : Session) :
    m Outcome :=
  match c with
  | implemented d => d.answer opcode request session
  | stubbed s => pure (s.answer opcode request)
  | unimplemented _ => pure (.reply { result := .notSupported })

end Command
end Hid.Dispatch
