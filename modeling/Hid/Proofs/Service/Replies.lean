import Hid.Proofs.Dispatch.Decision
import Hid.Proofs.Wire.Faithful
import Hid.Service.Handler

/-!
What replies look like, whatever is in them. A handler yields values of a kind if everything that
it comes to is one, whatever the device layer answers (`Handler.Yields`). The shape of a reply is
how many objects it hands out and how many buffers of which size it has; for most commands it
follows from the form of the command alone, as only the end of the handler makes the reply.
-/

namespace Hid.Service

open Device (Call Report)
open Dispatch (Command Context Definition Outcome Reply Response)
open Wire (Bytes Layout)

namespace Handler

variable {α β : Type} {x y : Handler α} {k : α → Handler β}

/-- Whatever the handler comes to, if it comes to a value, is of the kind. -/
def Yields (kind : α → Prop) (x : Handler α) : Prop :=
  ∀ device past s a, (x.ran device past s).value = .ok a → kind a

variable {kind : α → Prop} {target : β → Prop}

theorem yields_pure {a : α} (holds : kind a) : Yields kind (pure a : Handler α) := by
  intro device past s b found
  obtain rfl := Except.ok.inj found
  exact holds

theorem yields_attempt {e : Except Failure α} (holds : ∀ a, e = .ok a → kind a) :
    Yields kind (attempt e) := by
  intro device past s a found
  exact holds a found

theorem Yields.bind (first : Yields kind x) (second : ∀ a, kind a → Yields target (k a)) :
    Yields target (x >>= k) := by
  intro device past s b found
  cases begun : (x.ran device past s).value with
  | error failure =>
      rw [ran_bind_error begun] at found
      cases found
  | ok a =>
      rw [ran_bind_ok begun] at found
      exact second a (first _ _ _ _ begun) _ _ _ _ found

/-- Only the last step counts if nothing need be known of what goes before. -/
theorem Yields.after (second : ∀ a, Yields target (k a)) : Yields target (x >>= k) := by
  have anything : Yields (fun _ => True) x := fun _ _ _ _ _ => trivial
  exact anything.bind fun a _ => second a

theorem Yields.ite {condition : Prop} [Decidable condition] (yes : condition → Yields kind x)
    (no : ¬ condition → Yields kind y) : Yields kind (if condition then x else y) := by
  split
  case isTrue holds => exact yes holds
  case isFalse fails => exact no fails

theorem yields_sized (name : String) (size : Nat) (data : Bytes) :
    Yields (fun block => block.length = size) (sized name size data) := by
  apply yields_attempt
  intro block found
  cases encoded : (Layout.rawBytes name size).encode data with
  | error fault =>
      rw [encoded] at found
      cases found
  | ok sent =>
      rw [encoded] at found
      obtain rfl := Except.ok.inj found
      exact Layout.sized_rawBytes name size data _ encoded

end Handler

/-! ### Shapes -/

/-- The reply hands out as many objects as told, and on success it has one buffer of the size, if
there is a size; otherwise it has none. -/
structure Shaped {β : Type} (size? : Option Nat) (count : Nat) (reply : Reply β) : Prop where
  buffers : reply.buffers.map List.length =
    if reply.result.isSuccess then size?.toList else []
  handles : reply.handles.length = count

theorem shaped_bare {β : Type} (result : ResultCode) (output : Option β) :
    Shaped none 0 { result, output : Reply β } := by
  constructor
  · cases result.isSuccess with
    | true => rfl
    | false => rfl
  · rfl

/-- A reply with a failure has no buffers. -/
theorem shaped_of_failure {β : Type} {result : ResultCode} (failed : result.isFailure = true)
    (size? : Option Nat) (output : Option β) : Shaped size? 0 { result, output : Reply β } := by
  have refused : ¬ result.isSuccess = true := by simpa using failed
  constructor
  · exact (if_neg refused).symm
  · rfl

theorem shaped_of_success {β : Type} {result : ResultCode} (success : ¬ result.isFailure = true)
    {data : Bytes} {size : Nat} (whole : data.length = size) (output : Option β) :
    Shaped (some size) 0 { result, output, buffers := [data] : Reply β } := by
  have succeeded : result.isSuccess = true := by simpa using success
  constructor
  · rw [if_pos succeeded, ← whole]
    rfl
  · rfl

/-! ### Commands -/

/-- Whatever a handler replies, the reply has the shape, and its output, if one is declared, the
declared size. -/
structure Answers (size? : Option Nat) (count : Nat) (d : Definition Program) : Prop where
  sized : ∀ l, d.output = some l → l.Sized
  shaped : ∀ context, Handler.Yields (Shaped size? count) (d.handler context)

/-- The command replies in the shape, if it has a handler. -/
def Shapes (size? : Option Nat) (count : Nat) (c : Command Program) : Prop :=
  match c with
  | .implemented d => Answers size? count d
  | .stubbed _ | .unimplemented _ => True

section Outcomes

variable {d : Definition Program} {opcode : Quantity} {response : Response}

/-- A failure that is told as a reply is told as the bare one. -/
theorem eq_bare_of_failure {failure : Failure}
    (told : d.outcomeOfFailure opcode failure = .reply response) :
    response = { result := .unknown } := by
  cases failure with
  | violation v => cases told
  | fault | undeclaredOutput | unusableValue | invalidCapacity | raised =>
      exact (Outcome.reply.inj told).symm

/-- The size of the output that is declared; nothing has none. -/
def outputSize (d : Definition Program) : Nat :=
  match d.output with
  | some l => l.size
  | none => 0

theorem length_encodeOutput (sized : ∀ l, d.output = some l → l.Sized) {value : Option d.Output}
    {output : Bytes} (encoded : d.encodeOutput value = .ok output) :
    output.length = outputSize d := by
  rw [outputSize]
  unfold Definition.encodeOutput at encoded
  split at encoded
  case h_1 l v declared =>
    rw [declared]
    cases written : l.encode v with
    | error fault =>
        rw [written] at encoded
        cases encoded
    | ok block =>
        rw [written] at encoded
        obtain rfl := Except.ok.inj encoded
        exact sized l declared v block written
  case h_2 l declared =>
    rw [declared]
    cases zeroed : l.zeros with
    | error fault =>
        rw [zeroed] at encoded
        cases encoded
    | ok block =>
        rw [zeroed] at encoded
        obtain rfl := Except.ok.inj encoded
        exact Layout.length_zeros zeroed
  case h_3 => cases encoded
  case h_4 missing =>
    rw [missing]
    obtain rfl := Except.ok.inj encoded
    rfl

/-- The reply that is sent is the bare one, or has the size of output and the shape that the command
has. -/
theorem Answers.conclude {size? : Option Nat} {count : Nat} (answers : Answers size? count d)
    {context : Context d.Parameters} {device : Device} {past : List Call} {s : State}
    (replied : d.conclude opcode (Handler.ran (d.handler context) device past s).value =
      .reply response) :
    response = { result := .unknown } ∨
      response.output.length = outputSize d ∧
      response.buffers.map List.length =
        (if response.result.isSuccess then size?.toList else []) ∧
      response.handles.length = count := by
  cases found : (Handler.ran (d.handler context) device past s).value with
  | error failure =>
      rw [found] at replied
      exact .inl (eq_bare_of_failure replied)
  | ok reply =>
      rw [found, Definition.conclude] at replied
      cases encoded : d.encodeOutput reply.output with
      | error failure =>
          rw [encoded] at replied
          exact .inl (eq_bare_of_failure replied)
      | ok output =>
          rw [encoded] at replied
          obtain rfl := Outcome.reply.inj replied
          have shaped := answers.shaped context device past s reply found
          exact .inr ⟨length_encodeOutput answers.sized encoded, shaped.buffers, shaped.handles⟩

end Outcomes

section Forms

open Handler (yields_pure Yields)

variable {α β : Type} {name : String} {parameters : Layout α} {output : Layout β}

theorem sized_of_none : ∀ l : Layout β, (none : Option (Layout β)) = some l → l.Sized := by
  intro l declared
  cases declared

theorem shapes_coded {handler : α → Handler ResultCode} :
    Shapes none 0 (coded name parameters handler) := by
  refine ⟨sized_of_none, ?_⟩
  intro c
  apply Yields.after
  intro code
  exact yields_pure (shaped_bare code none)

theorem shapes_contextual {handleCount : Nat} {handler : Context α → Handler ResultCode} :
    Shapes none 0 (contextual name parameters handleCount handler) := by
  refine ⟨sized_of_none, ?_⟩
  intro c
  apply Yields.after
  intro code
  exact yields_pure (shaped_bare code none)

theorem shapes_replied (sized : output.Sized) {handler : α → Handler (Reply β)}
    (yields : ∀ p, Yields (Shaped none 0) (handler p)) :
    Shapes none 0 (replied name parameters output handler) := by
  constructor
  · rintro l ⟨⟩
    exact sized
  · intro c
    exact yields c.parameters

theorem shapes_reported (sized : output.Sized) {handler : α → Handler (Report β)} :
    Shapes none 0 (reported name parameters output handler) := by
  apply shapes_replied sized
  intro p
  apply Yields.after
  intro report
  exact yields_pure (shaped_bare report.result report.value)

/-- One object is handed out, or nothing in its place. -/
theorem shapes_handedOut {handler : α → Handler (Report Quantity)} :
    Shapes none 1 (handedOut name parameters handler) := by
  refine ⟨sized_of_none, ?_⟩
  intro c
  apply Yields.after
  intro report
  apply yields_pure
  exact ⟨(shaped_bare report.result (none : Option Unit)).buffers, rfl⟩

theorem shapes_created {handler : α → Handler (ResultCode × Interface)} :
    Shapes none 1 (created name parameters handler) := by
  refine ⟨sized_of_none, ?_⟩
  intro c
  apply Yields.after
  rintro ⟨result, object⟩
  apply Yields.after
  intro s
  apply Yields.after
  intro _
  apply yields_pure
  exact ⟨(shaped_bare result (none : Option Unit)).buffers, rfl⟩

end Forms
end Hid.Service
