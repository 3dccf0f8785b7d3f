import Hid.Dispatch.Stats

/-!
How a dispatcher decides a request. Either the request is settled without a handler, whatever
the monad that handlers run in may do, or one handler runs, once, and the outcome is what it
came to.

* `Table.handle_decides`: which of the two it is, for each kind of entry and in the order of the
  checks, and that every violation is told in the name of the command and with the opcode.
-/

namespace Hid.Dispatch

/-! ### Violations and conclusions -/

/-- The violation of a request that brings another number of handles than declared. -/
def handleViolation (request : Request) (name : String) (declared : Quantity) : Violation :=
  (Violation.make name .handleCount declared request.handles.length).raisedBy
    request.opcode.plain name

/-- The violation of a request whose parameter block is not of the size that a layout or a stub
declares. The message names the one that declares it. -/
def sizeViolation (request : Request) (name declarer : String) (declared : Quantity) : Violation :=
  (Violation.make declarer .parameterSize declared request.parameters.length).raisedBy
    request.opcode.plain name

/-- Any violation of the outcome has the opcode and the name. -/
def Outcome.Names (outcome : Outcome) (opcode : Quantity) (name : Option String) : Prop :=
  ∀ v, outcome = .violation v → v.opcode = some opcode ∧ some v.command = name

theorem Outcome.names_reply (response : Response) (opcode : Quantity) (name : Option String) :
    (Outcome.reply response).Names opcode name := by
  intro v violated
  cases violated

theorem Outcome.names_raisedBy (v : Violation) (opcode : Quantity) (name : String) :
    (Outcome.violation (v.raisedBy opcode name)).Names opcode (some name) := by
  rintro _ ⟨⟩
  exact ⟨rfl, rfl⟩

theorem checkHandles_eq (request : Request) (name : String) (declared : Quantity) :
    checkHandles request.opcode.plain name declared request =
      if request.hasHandles declared then .ok ()
      else .error (handleViolation request name declared) := rfl

/-! ### Stubs -/

namespace Stub

variable {s : Stub} {request : Request}

/-- The reply of a stub, the same for every request. -/
def response (s : Stub) : Response where
  result := s.result
  output := s.output
  buffers := s.buffers
  handles := s.handles.map .transfer

/-- The parameter block has the size that the stub declares, if it declares one. -/
def AdmitsSize (s : Stub) (request : Request) : Prop :=
  ∀ size, s.parameterSize = some size → request.hasSize size

theorem answer_of_length_ne {size : Quantity} (declared : s.parameterSize = some size)
    (other : ¬ request.hasSize size) :
    s.answer request.opcode.plain request =
      .violation (sizeViolation request s.name s.name size) := by
  rw [answer, declared]
  simp only [if_pos other]
  rfl

/-- Once the size is admitted, the handles decide. -/
theorem answer_of_admitsSize (admits : s.AdmitsSize request) :
    s.answer request.opcode.plain request =
      match checkHandles request.opcode.plain s.name s.handleCount request with
      | .error v => .violation v
      | .ok () => .reply s.response := by
  cases declared : s.parameterSize with
  | none =>
      rw [answer, declared]
      rfl
  | some size =>
      have same : ¬ ¬ request.hasSize size :=
        not_not_intro (admits size declared)
      rw [answer, declared]
      simp only [if_neg same]
      rfl

theorem answer_of_handles_ne (admits : s.AdmitsSize request)
    (other : ¬ request.hasHandles s.handleCount) :
    s.answer request.opcode.plain request =
      .violation (handleViolation request s.name s.handleCount) := by
  rw [answer_of_admitsSize admits, checkHandles_eq, if_neg other]

theorem answer_of_handles_eq (admits : s.AdmitsSize request)
    (same : request.hasHandles s.handleCount) :
    s.answer request.opcode.plain request = .reply s.response := by
  rw [answer_of_admitsSize admits, checkHandles_eq, if_pos same]

theorem answer_names (s : Stub) (request : Request) :
    (s.answer request.opcode.plain request).Names request.opcode.plain (some s.name) := by
  by_cases admits : s.AdmitsSize request
  case pos =>
    by_cases handles : request.hasHandles s.handleCount
    · rw [answer_of_handles_eq admits handles]
      exact Outcome.names_reply s.response request.opcode.plain (some s.name)
    · rw [answer_of_handles_ne admits handles]
      exact Outcome.names_raisedBy _ request.opcode.plain s.name
  case neg =>
    obtain ⟨size, unequal⟩ := Classical.not_forall.mp admits
    obtain ⟨declared, other⟩ := Classical.not_imp.mp unequal
    rw [answer_of_length_ne declared other]
    exact Outcome.names_raisedBy _ request.opcode.plain s.name

end Stub

/-! ### Commands with a handler -/

namespace Definition

section Conclusion

variable {m : Type → Type} (d : Definition m)

/-- The outcome of what a handler came to. -/
def conclude (opcode : Quantity) : Except Failure (Reply d.Output) → Outcome
  | .error failure => d.outcomeOfFailure opcode failure
  | .ok reply =>
      match d.encodeOutput reply.output with
      | .error failure => d.outcomeOfFailure opcode failure
      | .ok output =>
          .reply
            { result := reply.result
              output := output
              buffers := reply.buffers
              handles := reply.handles }

theorem outcomeOfFailure_names (opcode : Quantity) (failure : Failure) :
    (d.outcomeOfFailure opcode failure).Names opcode (some d.name) := by
  cases failure with
  | violation v => exact Outcome.names_raisedBy v opcode d.name
  | fault | undeclaredOutput | unusableValue | invalidCapacity | raised =>
      exact Outcome.names_reply { result := .unknown } opcode (some d.name)

theorem conclude_names (opcode : Quantity) (found : Except Failure (Reply d.Output)) :
    (d.conclude opcode found).Names opcode (some d.name) := by
  cases found with
  | error failure => exact d.outcomeOfFailure_names opcode failure
  | ok reply =>
      rw [conclude]
      split
      case h_1 failure failed => exact d.outcomeOfFailure_names opcode failure
      case h_2 output encoded => exact Outcome.names_reply _ opcode (some d.name)

/-- What the encoder of a reply finds wrong is no violation. -/
theorem encodeOutput_ne_violation (output : Option d.Output) (v : Violation) :
    d.encodeOutput output ≠ .error (.violation v) := by
  have plain (e : Except Wire.Fault Wire.Bytes) :
      e.mapError Failure.fault ≠ .error (.violation v) := by
    intro violated
    cases e with
    | error fault => cases violated
    | ok block => cases violated
  intro violated
  unfold encodeOutput at violated
  split at violated
  case h_1 layout value => exact plain _ violated
  case h_2 layout => exact plain _ violated
  case h_3 value => cases violated
  case h_4 => cases violated

/-- A violation comes from the handler. -/
theorem eq_violation_of_conclude {opcode : Quantity} {found : Except Failure (Reply d.Output)}
    {v : Violation} (concluded : d.conclude opcode found = .violation v) :
    ∃ raised, found = .error (.violation raised) := by
  have raised {failure : Failure} (told : d.outcomeOfFailure opcode failure = .violation v) :
      ∃ raised, failure = .violation raised := by
    cases failure with
    | violation raised => exact ⟨raised, rfl⟩
    | fault | undeclaredOutput | unusableValue | invalidCapacity | raised => cases told
  cases found with
  | error failure =>
      obtain ⟨raised, rfl⟩ := raised concluded
      exact ⟨raised, rfl⟩
  | ok reply =>
      rw [conclude] at concluded
      cases encoded : d.encodeOutput reply.output with
      | error failure =>
          rw [encoded] at concluded
          obtain ⟨raised, rfl⟩ := raised concluded
          exact absurd encoded (d.encodeOutput_ne_violation reply.output raised)
      | ok output =>
          rw [encoded] at concluded
          cases concluded

end Conclusion

variable {m : Type → Type} [Monad m] {d : Definition m} {request : Request} {session : Session}

theorem answer_of_handles_ne (other : ¬ request.hasHandles d.handleCount) :
    d.answer request.opcode.plain request session =
      pure (.violation (handleViolation request d.name d.handleCount)) := by
  rw [answer, checkHandles_eq, if_neg other]

variable [LawfulMonad m]

theorem answer_of_length_ne (handles : request.hasHandles d.handleCount)
    (other : request.parameters.length ≠ d.parameters.size) :
    d.answer request.opcode.plain request session =
      pure (.violation (sizeViolation request d.name d.parameters.name d.parameters.size)) := by
  rw [answer, checkHandles_eq, if_pos handles]
  simp only [invoke, d.parameters.decode_of_length_ne other, ExceptT.run_pure, pure_bind]
  rfl

theorem answer_of_fault (handles : request.hasHandles d.handleCount)
    {fault : Wire.Fault} (failed : d.parameters.decode request.parameters = .error (.fault fault)) :
    d.answer request.opcode.plain request session = pure (.reply { result := .unknown }) := by
  rw [answer, checkHandles_eq, if_pos handles]
  simp only [invoke, failed, ExceptT.run_throw, pure_bind]
  rfl

theorem answer_of_decoded (handles : request.hasHandles d.handleCount)
    {parameters : d.Parameters} (decoded : d.parameters.decode request.parameters = .ok parameters) :
    d.answer request.opcode.plain request session =
      d.conclude request.opcode.plain <$>
        (d.handler ⟨request.opcode.plain, d.name, parameters, session, request⟩).run := by
  rw [answer, checkHandles_eq, if_pos handles]
  simp only [invoke, decoded, ExceptT.run_bind, bind_assoc, ← bind_pure_comp]
  refine bind_congr fun found => ?_
  cases found with
  | error failure => simp only [pure_bind, conclude]
  | ok reply =>
      simp only [ExceptT.run_mk, pure_bind, conclude]
      cases encoded : d.encodeOutput reply.output with
      | error failure => simp only [pure_bind]
      | ok output => simp only [ExceptT.run_pure, pure_bind]

/-- A request is answered without the handler, by a violation or the bare unspecific reply, or the
handler runs on the parameters that the layout reads. -/
theorem answer_cases (d : Definition m) (request : Request) (session : Session) :
    (∃ outcome, d.answer request.opcode.plain request session = pure outcome ∧
      ((∃ v, outcome = .violation v) ∨ outcome = .reply { result := .unknown })) ∨
    (∃ parameters, request.hasHandles d.handleCount ∧
      d.parameters.decode request.parameters = .ok parameters ∧
      d.answer request.opcode.plain request session = d.conclude request.opcode.plain <$>
        (d.handler ⟨request.opcode.plain, d.name, parameters, session, request⟩).run) := by
  by_cases handles : request.hasHandles d.handleCount
  case neg => exact .inl ⟨_, answer_of_handles_ne handles, .inl ⟨_, rfl⟩⟩
  by_cases whole : request.parameters.length = d.parameters.size
  case neg => exact .inl ⟨_, answer_of_length_ne handles whole, .inl ⟨_, rfl⟩⟩
  have decode := d.parameters.decode_of_length_eq whole
  split at decode
  case h_1 fault failed => exact .inl ⟨_, answer_of_fault handles decode, .inr rfl⟩
  case h_2 parameters r found =>
    split at decode
    case isTrue all => exact .inr ⟨parameters, handles, decode, answer_of_decoded handles decode⟩
    case isFalse part => exact .inl ⟨_, answer_of_fault handles decode, .inr rfl⟩

end Definition

/-! ### Tables -/

namespace Table

/-- The name of the command that an opcode stands for, if there is one and it has a name. -/
def nameOf {m : Type → Type} (t : Table m) (opcode : Quantity) : Option String :=
  (t.lookup? opcode).bind Command.name?

variable {m : Type → Type} [Monad m]

/-- The request has the outcome and is counted, and nothing else is done for it. -/
def Settles (t : Table m) (request : Request) (session : Session) (stats : Stats)
    (outcome : Outcome) : Prop :=
  t.handle request session stats = pure (outcome, t.count request.opcode outcome stats)

/-- A handler runs once, on the given parameters, and what it comes to is the outcome of the
request and is counted. -/
def Runs (t : Table m) (request : Request) (session : Session) (stats : Stats) (d : Definition m)
    (parameters : d.Parameters) : Prop :=
  t.handle request session stats =
    (fun found =>
      let outcome := d.conclude request.opcode.plain found
      (outcome, t.count request.opcode outcome stats)) <$>
        (d.handler ⟨request.opcode.plain, d.name, parameters, session, request⟩).run

variable {t : Table m} {request : Request} {session : Session} {stats : Stats}

variable [LawfulMonad m]

theorem settles_of_answer {outcome : Outcome} (answered : t.answer request session = pure outcome) :
    t.Settles request session stats outcome := by
  rw [Settles, handle, answered, pure_bind]

theorem settles_of_none (entry : t.lookup? request.opcode = none) :
    t.Settles request session stats (.reply { result := .notSupported }) :=
  settles_of_answer (answer_of_none entry session)

theorem settles_of_unimplemented {name : Option String}
    (entry : t.lookup? request.opcode = some (.unimplemented name)) :
    t.Settles request session stats (.reply { result := .notSupported }) :=
  settles_of_answer (answer_of_some entry session)

theorem settles_of_stubbed {s : Stub} (entry : t.lookup? request.opcode = some (.stubbed s))
    {outcome : Outcome} (answered : s.answer request.opcode.plain request = outcome) :
    t.Settles request session stats outcome := by
  apply settles_of_answer
  rw [answer_of_some entry, Command.answer, answered]

theorem settles_of_implemented {d : Definition m}
    (entry : t.lookup? request.opcode = some (.implemented d)) {outcome : Outcome}
    (answered : d.answer request.opcode.plain request session = pure outcome) :
    t.Settles request session stats outcome := by
  apply settles_of_answer
  rw [answer_of_some entry, Command.answer, answered]

theorem runs_of_decoded {d : Definition m}
    (entry : t.lookup? request.opcode = some (.implemented d))
    (handles : request.hasHandles d.handleCount) {parameters : d.Parameters}
    (decoded : d.parameters.decode request.parameters = .ok parameters) :
    t.Runs request session stats d parameters := by
  rw [Runs, handle, answer_of_some entry, Command.answer,
    Definition.answer_of_decoded handles decoded, bind_pure_comp, Functor.map_map]

section Implemented

variable {d : Definition m} (entry : t.lookup? request.opcode = some (.implemented d))
include entry

theorem settles_handles (other : ¬ request.hasHandles d.handleCount) :
    t.Settles request session stats
      (.violation (handleViolation request d.name d.handleCount)) :=
  settles_of_implemented entry (Definition.answer_of_handles_ne other)

variable (handles : request.hasHandles d.handleCount)
include handles

theorem settles_size (other : request.parameters.length ≠ d.parameters.size) :
    t.Settles request session stats
      (.violation (sizeViolation request d.name d.parameters.name d.parameters.size)) :=
  settles_of_implemented entry (Definition.answer_of_length_ne handles other)

theorem settles_fault {fault : Wire.Fault}
    (failed : d.parameters.decode request.parameters = .error (.fault fault)) :
    t.Settles request session stats (.reply { result := .unknown }) :=
  settles_of_implemented entry (Definition.answer_of_fault handles failed)

variable (session stats) in
/-- Parameters of the right size are read, and the handler runs if all of them were. -/
theorem decided_by_reading (whole : request.parameters.length = d.parameters.size) :
    (∀ fault, d.parameters.read (.ofBlock request.parameters) = .error fault →
      t.Settles request session stats (.reply { result := .unknown })) ∧
    (∀ parameters r, d.parameters.read (.ofBlock request.parameters) = .ok (parameters, r) →
      (r.position = (d.parameters.size : Quantity) →
        t.Runs request session stats d parameters) ∧
      (r.position ≠ (d.parameters.size : Quantity) →
        t.Settles request session stats (.reply { result := .unknown }))) := by
  have decode := d.parameters.decode_of_length_eq whole
  constructor
  · intro fault failed
    rw [failed] at decode
    exact settles_fault entry handles decode
  · intro parameters r found
    rw [found] at decode
    constructor
    · intro all
      exact runs_of_decoded entry handles (decode.trans (if_pos all))
    · intro part
      exact settles_fault entry handles (decode.trans (if_neg part))

end Implemented

variable (session stats) in
/-- A command with a handler is settled without it, by a violation or the bare unspecific reply, or
the handler runs on the parameters that its layout reads. -/
theorem settles_or_decoded {d : Definition m}
    (entry : t.lookup? request.opcode = some (.implemented d)) :
    (∃ outcome, t.Settles request session stats outcome ∧
      ((∃ v, outcome = .violation v) ∨ outcome = .reply { result := .unknown })) ∨
    (∃ parameters, request.hasHandles d.handleCount ∧
      d.parameters.decode request.parameters = .ok parameters ∧
      t.Runs request session stats d parameters) := by
  rcases d.answer_cases request session with
    ⟨outcome, answered, which⟩ | ⟨parameters, handles, decoded, -⟩
  · exact .inl ⟨outcome, settles_of_implemented entry answered, which⟩
  · exact .inr ⟨parameters, handles, decoded, runs_of_decoded entry handles decoded⟩

/-- A request is settled by an outcome, or decided by a handler, and in either case a violation
has the name of the command and the opcode. -/
theorem settles_or_runs (t : Table m) (request : Request) (session : Session) (stats : Stats) :
    (∃ outcome, t.Settles request session stats outcome ∧
      outcome.Names request.opcode.plain (t.nameOf request.opcode)) ∨
    (∃ d parameters, t.lookup? request.opcode = some (.implemented d) ∧
      t.Runs request session stats d parameters ∧
      ∀ found, (d.conclude request.opcode.plain found).Names request.opcode.plain
        (t.nameOf request.opcode)) := by
  have plain (response : Response) :
      (Outcome.reply response).Names request.opcode.plain (t.nameOf request.opcode) :=
    Outcome.names_reply response _ _
  cases entry : t.lookup? request.opcode with
  | none => exact .inl ⟨_, settles_of_none entry, plain _⟩
  | some c =>
      have named : t.nameOf request.opcode = c.name? := by rw [nameOf, entry, Option.bind_some]
      cases c with
      | unimplemented name => exact .inl ⟨_, settles_of_unimplemented entry, plain _⟩
      | stubbed s =>
          refine .inl ⟨_, settles_of_stubbed entry rfl, ?_⟩
          rw [named]
          exact s.answer_names request
      | implemented d =>
          have raised := fun v => Outcome.names_raisedBy v request.opcode.plain d.name
          change t.nameOf request.opcode = some d.name at named
          by_cases handles : request.hasHandles d.handleCount
          case neg => exact .inl ⟨_, settles_handles entry handles, by rw [named]; exact raised _⟩
          by_cases whole : request.parameters.length = d.parameters.size
          case neg =>
            exact .inl ⟨_, settles_size entry handles whole, by rw [named]; exact raised _⟩
          obtain ⟨fails, reads⟩ := decided_by_reading session stats entry handles whole
          cases found : d.parameters.read (.ofBlock request.parameters) with
          | error fault => exact .inl ⟨_, fails fault found, plain _⟩
          | ok read =>
              obtain ⟨all, part⟩ := reads read.1 read.2 found
              by_cases position : read.2.position = (d.parameters.size : Quantity)
              · refine .inr ⟨d, read.1, rfl, all position, fun found => ?_⟩
                rw [named]
                exact d.conclude_names request.opcode.plain found
              · exact .inl ⟨_, part position, plain _⟩

/-- **The decision of a dispatcher.** For every table, request and handler:

* An opcode outside the table, or of an unimplemented command, is answered as not supported,
  whatever else the request brings.
* A stub demands its size, if it declares one, then its number of handles; then the reply is the
  fixed one.
* A command with a handler demands its number of handles, then the size of its layout; then, if
  the layout reads the block, the handler runs once. A layout that fails, or that reads another
  number of bytes than its size, gives the bare unspecific reply.
* In no other case does a handler run, and any violation, of a check or of a handler, has the
  opcode and the name of the command; reason, quantities and message of a violation that a
  handler raises are kept.

The sign of a zero does not count, neither in the opcode nor in what a command declares. -/
theorem handle_decides (t : Table m) (request : Request) (session : Session) (stats : Stats) :
    (t.lookup? request.opcode = none →
      t.Settles request session stats (.reply { result := .notSupported })) ∧
    (∀ name, t.lookup? request.opcode = some (.unimplemented name) →
      t.Settles request session stats (.reply { result := .notSupported })) ∧
    (∀ s, t.lookup? request.opcode = some (.stubbed s) →
      (∀ size, s.parameterSize = some size → ¬ request.hasSize size →
        t.Settles request session stats (.violation (sizeViolation request s.name s.name size))) ∧
      (s.AdmitsSize request →
        (¬ request.hasHandles s.handleCount →
          t.Settles request session stats
            (.violation (handleViolation request s.name s.handleCount))) ∧
        (request.hasHandles s.handleCount →
          t.Settles request session stats (.reply s.response)))) ∧
    (∀ d, t.lookup? request.opcode = some (.implemented d) →
      (¬ request.hasHandles d.handleCount →
        t.Settles request session stats
          (.violation (handleViolation request d.name d.handleCount))) ∧
      (request.hasHandles d.handleCount →
        (request.parameters.length ≠ d.parameters.size →
          t.Settles request session stats
            (.violation (sizeViolation request d.name d.parameters.name d.parameters.size))) ∧
        (request.parameters.length = d.parameters.size →
          (∀ fault, d.parameters.read (.ofBlock request.parameters) = .error fault →
            t.Settles request session stats (.reply { result := .unknown })) ∧
          (∀ parameters r, d.parameters.read (.ofBlock request.parameters) = .ok (parameters, r) →
            (r.position = (d.parameters.size : Quantity) →
              t.Runs request session stats d parameters) ∧
            (r.position ≠ (d.parameters.size : Quantity) →
              t.Settles request session stats (.reply { result := .unknown })))))) ∧
    ((∃ outcome, t.Settles request session stats outcome ∧
        outcome.Names request.opcode.plain (t.nameOf request.opcode)) ∨
      (∃ d parameters, t.lookup? request.opcode = some (.implemented d) ∧
        t.Runs request session stats d parameters ∧
        ∀ found, (d.conclude request.opcode.plain found).Names request.opcode.plain
          (t.nameOf request.opcode))) ∧
    (∀ (d : Definition m) v, d.conclude request.opcode.plain (.error (.violation v)) =
      .violation { v with opcode := some request.opcode.plain, command := d.name }) := by
  refine ⟨settles_of_none, fun name => settles_of_unimplemented, ?_, ?_,
    settles_or_runs t request session stats, fun d v => rfl⟩
  · intro s entry
    constructor
    · intro size declared other
      exact settles_of_stubbed entry (Stub.answer_of_length_ne declared other)
    · intro admits
      exact ⟨fun other => settles_of_stubbed entry (Stub.answer_of_handles_ne admits other),
        fun same => settles_of_stubbed entry (Stub.answer_of_handles_eq admits same)⟩
  · intro d entry
    refine ⟨settles_handles entry, fun handles => ⟨settles_size entry handles, ?_⟩⟩
    exact decided_by_reading session stats entry handles

/-- A command that counts its runs and raises a violation in the name of another. -/
def slanderer : Definition (StateM Nat) where
  Parameters := Unit
  Output := Unit
  name := "Slander"
  parameters := ⟨"Empty", 0, fun r => .ok ((), r), fun () w => .ok w⟩
  handler := fun _ => do
    modify (· + 1)
    throw (.violation (.raisedBy (.make "Other" .contract 1 0) 7 "Other"))

/-- A zero with a sign asks for the command of zero. Its handler runs once, and the violation is
told in its own name and without the sign. -/
theorem handle_decides_slanderer :
    let t : Table (StateM Nat) := ⟨"table", [(0, .implemented slanderer)]⟩
    let request : Request := { opcode := .other .negativeZero }
    t.Runs request ⟨"session", 0⟩ [] slanderer () ∧
    (t.handle request ⟨"session", 0⟩ []).run 0 =
      ((.violation (.raisedBy (.make "Other" .contract 1 0) 0 "Slander"),
        [{ key := 0, name := "Slander", handled := 1, violations := 1 }]), 1) := by
  intro t request
  obtain ⟨-, -, -, implemented, -⟩ := handle_decides t request ⟨"session", 0⟩ []
  have runs := (((implemented slanderer rfl).2 rfl).2 rfl).2 () (.ofBlock []) rfl |>.1 rfl
  exact ⟨runs, by rw [runs]; rfl⟩

end Table
end Hid.Dispatch
