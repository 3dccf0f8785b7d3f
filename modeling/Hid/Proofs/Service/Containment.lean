import Hid.Proofs.Activation.Run
import Hid.Proofs.Commands.Steady
import Hid.Proofs.Service.Serving
import Hid.Proofs.Service.Violation
import Hid.Proofs.Wire.Catalogue

/-!
Errors of the device layer stay inside the request they happen in. Every command is strict, so an
error is the end of its handler, comes before any change of the state, and shows as the bare
unspecific reply; and what a service was asked before does not count, so that later requests find
no more of it than a count in the statistics.

* `failure_contained`: an error at any call of any request, and replies that cannot be sent.
-/

namespace Hid

/-- The failure is not told to the client. -/
def Failure.IsOrdinary (failure : Failure) : Prop := ∀ v, failure ≠ .violation v

namespace Wire.Layout

/-- A layout that leaves its writer elsewhere than at the end of the block gives no block. -/
theorem encode_fails {α : Type} {l : Layout α} {v : α}
    (short : ∀ w, l.write v (.ofSize l.size) = .ok w → w.position ≠ w.size) :
    ∃ fault, l.encode v = .error fault := by
  rw [encode, Writer.declare, offset?_natCast]
  dsimp only
  split
  case isTrue long => exact ⟨_, rfl⟩
  case isFalse =>
    split
    case isTrue large => exact ⟨_, rfl⟩
    case isFalse =>
      cases written : l.write v (.ofSize l.size) with
      | error fault => exact ⟨fault, by rw [Wire.ok_bind, written]; rfl⟩
      | ok w =>
          refine ⟨.unfinished w.position w.size, ?_⟩
          rw [Wire.ok_bind, written, Wire.ok_bind, Writer.finish, if_neg (short w written)]

end Wire.Layout

namespace Dispatch.Definition

variable {m : Type → Type} {d : Definition m}

theorem outcomeOfFailure_of_isOrdinary {failure : Failure} (ordinary : failure.IsOrdinary)
    (opcode : Quantity) : d.outcomeOfFailure opcode failure = .reply { result := .unknown } := by
  cases failure with
  | violation v => exact absurd rfl (ordinary v)
  | fault | undeclaredOutput | unusableValue | invalidCapacity | raised => rfl

/-- An output that cannot be sent: no layout is declared for it, or its layout fails to write it,
or leaves the writer elsewhere than at the end of the block. -/
inductive Unsendable (d : Definition m) : Option d.Output → Prop where
  | undeclared {value : d.Output} (missing : d.output = none) : Unsendable d (some value)
  | unfilled {value : d.Output} {layout : Wire.Layout d.Output} (declared : d.output = some layout)
      (short : ∀ w, layout.write value (.ofSize layout.size) = .ok w → w.position ≠ w.size) :
      Unsendable d (some value)

theorem Unsendable.encode_fails {output : Option d.Output} (unsendable : Unsendable d output) :
    ∃ failure, d.encodeOutput output = .error failure ∧ failure.IsOrdinary := by
  cases unsendable with
  | @undeclared value missing =>
      refine ⟨.undeclaredOutput, ?_, fun v => by rintro ⟨⟩⟩
      unfold encodeOutput
      rw [missing]
  | @unfilled value layout declared short =>
      obtain ⟨fault, failed⟩ := Wire.Layout.encode_fails short
      refine ⟨.fault fault, ?_, fun v => by rintro ⟨⟩⟩
      unfold encodeOutput
      rw [declared]
      exact congrArg (Except.mapError Failure.fault) failed

/-- Whatever is wrong with a reply, the bare one is sent in its place. -/
theorem conclude_of_unsendable {opcode : Quantity} {reply : Reply d.Output}
    (unsendable : Unsendable d reply.output) :
    d.conclude opcode (.ok reply) = .reply { result := .unknown } := by
  obtain ⟨failure, failed, ordinary⟩ := unsendable.encode_fails
  rw [conclude, failed]
  exact outcomeOfFailure_of_isOrdinary ordinary opcode

end Dispatch.Definition

namespace Service

open Device (Call Report)
open Dispatch (Request Session Stats Table)
open Wire (Bytes Layout)

/-! ### Blocks of the wrong size -/

/-- A success whose data is not of the size that it must have. -/
structure Misfit (size : Nat) (result : ResultCode) (data : Bytes) : Prop where
  success : result.isSuccess = true
  other : data.length ≠ size

/-- A request for data of one size, which the device layer gives in another. -/
inductive FetchesMisfit (device : Device) (past : List Call) (request : Request) : Prop where
  | calibration {p : HandleAruid} {report : Report Bytes} {data : Bytes}
      (opcode : request.opcode = 87) (decoded : Layout.handleAruid.decode request.parameters = .ok p)
      (valid : (validateSixAxisHandle p.handle).isSuccess = true)
      (answered : device past (.sixAxis (.loadCalibration p.handle)) = .ok report)
      (fetched : report.value = some data)
      (misfit : Misfit Limits.calibrationParameterSize report.result data)
  | circuit {p : HandleAruid} {report : Report Bytes} {data : Bytes}
      (opcode : request.opcode = 88) (decoded : Layout.handleAruid.decode request.parameters = .ok p)
      (valid : (validateSixAxisHandle p.handle).isSuccess = true)
      (answered : device past (.sixAxis (.getIcInformation p.handle)) = .ok report)
      (fetched : report.value = some data)
      (misfit : Misfit Limits.icInformationSize report.result data)
  | operation {h : PalmaHandle} {report : Report Device.PalmaOperation} {operationType : Int}
      {data : Bytes} (opcode : request.opcode = 503)
      (decoded : Layout.palmaHandle.decode request.parameters = .ok h)
      (answered : device past (.palma (.getOperationInfo h)) = .ok report)
      (fetched : report.value = some ⟨operationType, data⟩)
      (misfit : Misfit Limits.operationDataSize report.result data)

section Blocks

variable {device : Device} {past : List Call} {s : State} {t : Table Program} {request : Request}
  {session : Session} {stats : Stats}

theorem sized_of_misfit (name : String) {size : Nat} {result : ResultCode} {data : Bytes}
    (misfit : Misfit size result data) :
    ∃ fault, Handler.sized name size data = Handler.attempt (.error (.fault fault)) := by
  obtain ⟨fault, failed⟩ : ∃ fault, (Layout.rawBytes name size).encode data = .error fault := by
    apply Wire.Layout.encode_fails
    intro w written
    rw [Layout.rawBytes] at written
    dsimp only at written
    rw [if_neg misfit.other] at written
    cases written
  refine ⟨fault, ?_⟩
  rw [Handler.sized, failed]
  rfl

/-- A handler that fails with what is no violation is answered with the bare reply. -/
theorem outcome_of_runs {d : Dispatch.Definition Program} {parameters : d.Parameters}
    (runs : t.Runs request session stats d parameters) {failure : Failure}
    (failed : (Handler.ran (d.handler ⟨request.opcode.plain, d.name, parameters, session, request⟩)
      device past s).value = .error failure) (ordinary : failure.IsOrdinary) :
    ((t.handle request session stats).run device past s).value.1 =
      .reply { result := .unknown } := by
  rw [runs, Program.run_map]
  change d.conclude request.opcode.plain (Handler.ran _ device past s).value = _
  rw [failed]
  exact Dispatch.Definition.outcomeOfFailure_of_isOrdinary ordinary request.opcode.plain

/-- A sensor that gives a block of the wrong size is answered for with the bare reply. -/
theorem outcome_of_block {name block : String} {size : Nat}
    {act : DeviceHandle → Handler (Report Bytes)}
    (entry : t.lookup? request.opcode = some (Commands.blockOfSensor name block size act))
    (handles : request.handles = []) {p : HandleAruid}
    (decoded : Layout.handleAruid.decode request.parameters = .ok p)
    (valid : (validateSixAxisHandle p.handle).isSuccess = true) {report : Report Bytes}
    (answered : ((act p.handle).ran device past s).value = .ok report) {data : Bytes}
    (fetched : report.value = some data) (misfit : Misfit size report.result data) :
    ((t.handle request session stats).run device past s).value.1 =
      .reply { result := .unknown } := by
  obtain ⟨fault, unsized⟩ := sized_of_misfit block misfit
  have none := Dispatch.Request.hasHandles_zero handles
  have success : ¬ report.result.isFailure = true := by simp [misfit.success]
  have valid : ¬ (validateSixAxisHandle p.handle).isFailure = true := by simp [valid]
  have ordinary : Failure.IsOrdinary (.fault fault) := by rintro v ⟨⟩
  refine outcome_of_runs (Table.runs_of_decoded entry none decoded) ?_ ordinary
  dsimp only
  rw [if_neg valid, Handler.ran_bind_ok answered, if_neg success, fetched]
  change ((Handler.sized block size data >>= _).ran device _ _).value = _
  rw [unsized, Handler.ran_attempt_error rfl]

theorem outcome_of_operation (entry : t.lookup? request.opcode = some Commands.operationInfo)
    (handles : request.handles = []) {h : PalmaHandle}
    (decoded : Layout.palmaHandle.decode request.parameters = .ok h)
    {report : Report Device.PalmaOperation}
    (answered : device past (.palma (.getOperationInfo h)) = .ok report) {operationType : Int}
    {data : Bytes} (fetched : report.value = some ⟨operationType, data⟩)
    (misfit : Misfit Limits.operationDataSize report.result data) :
    ((t.handle request session stats).run device past s).value.1 =
      .reply { result := .unknown } := by
  obtain ⟨fault, unsized⟩ := sized_of_misfit "PalmaOperationData" misfit
  have none := Dispatch.Request.hasHandles_zero handles
  have success : ¬ report.result.isFailure = true := by simp [misfit.success]
  have ordinary : Failure.IsOrdinary (.fault fault) := by rintro v ⟨⟩
  refine outcome_of_runs (Table.runs_of_decoded entry none decoded) ?_ ordinary
  dsimp only
  rw [Handler.ran_ask_ok answered, if_neg success, fetched]
  change ((Handler.sized "PalmaOperationData" Limits.operationDataSize data >>= _).ran
    device _ _).value = _
  rw [unsized, Handler.ran_attempt_error rfl]

theorem outcome_of_fetchesMisfit {config : Config} (handles : request.handles = [])
    (fetches : FetchesMisfit device past request) :
    (((mainTable config).handle request session stats).run device past s).value.1 =
      .reply { result := .unknown } := by
  cases fetches with
  | calibration opcode decoded valid answered fetched misfit =>
      have entry : (mainTable config).lookup? request.opcode = some (Commands.blockOfSensor
          "LoadSixAxisSensorCalibrationParameter" "SixAxisSensorCalibrationParameter"
          Limits.calibrationParameterSize fun h => Handler.ask (.sixAxis (.loadCalibration h))) := by
        rw [opcode]; rfl
      exact outcome_of_block entry handles decoded valid answered fetched misfit
  | circuit opcode decoded valid answered fetched misfit =>
      have entry : (mainTable config).lookup? request.opcode = some (Commands.blockOfSensor
          "GetSixAxisSensorIcInformation" "SixAxisSensorIcInformation"
          Limits.icInformationSize fun h => Handler.ask (.sixAxis (.getIcInformation h))) := by
        rw [opcode]; rfl
      exact outcome_of_block entry handles decoded valid answered fetched misfit
  | operation opcode decoded answered fetched misfit =>
      have entry : (mainTable config).lookup? request.opcode = some Commands.operationInfo := by
        rw [opcode]; rfl
      exact outcome_of_operation entry handles decoded answered fetched misfit

end Blocks

/-! ### Errors of the device layer -/

theorem table?_strict {s : Service} {target : Nat} {t : Table Program}
    (found : s.table? target = some t) : ∀ row ∈ t.rows, Strict row.2 := by
  cases target with
  | zero =>
      obtain rfl := Option.some.inj found
      exact mainTable_strict s.config
  | succ position =>
      obtain ⟨object, -, rfl⟩ := Option.map_eq_some_iff.mp found
      exact object.strict position

/-- A call that fails is the last one of its request, which is answered with the bare reply and
leaves the state as it was. -/
theorem handle_halts {t : Table Program} (strict : ∀ row ∈ t.rows, Strict row.2)
    {request : Request} {session : Session} {stats : Stats} {device : Device} {past : List Call}
    {s : State} {k : Nat} {c : Call} {failure : Failure}
    (made : ((t.handle request session stats).run device past s).calls[k]? = some c)
    (failed : device (past ++ ((t.handle request session stats).run device past s).calls.take k) c =
      .error failure) (ordinary : failure.IsOrdinary) :
    let ran := (t.handle request session stats).run device past s
    ran.value.1 = .reply { result := .unknown } ∧ ran.calls.length = k + 1 ∧ ran.state = s := by
  intro ran
  rcases t.settles_or_runs request session stats with ⟨outcome, settles, -⟩ |
    ⟨d, parameters, entry, runs, -⟩
  · -- A request that is settled makes no calls.
    rw [settles] at made
    cases made
  · obtain ⟨n, -, among⟩ := Table.exists_mem_rows entry
    have handler : Strict (.implemented d) := strict (n, _) among
    rw [runs, Program.run_map] at made failed
    obtain ⟨value, length, state⟩ := (handler _).halts made failed
    have outcome := outcome_of_runs runs value ordinary
    refine ⟨outcome, ?_, ?_⟩
    · simp only [ran]
      rw [runs, Program.run_map]
      exact length
    · simp only [ran]
      rw [runs, Program.run_map]
      exact state

section Requests

variable {s : Service} {target : Nat} {t : Table Program} {device : Device} {request : Request}
  {session : Session}

/-- The calls before one that fails are made whatever becomes of it. -/
theorem calls_prefix_of_agree (found : s.table? target = some t) {other : Device} {k : Nat}
    (last : (s.answer device target t request session).calls.length = k + 1)
    (agree : ∀ i < k, ∀ c, (s.answer device target t request session).calls[i]? = some c →
      other (s.past ++ (s.answer device target t request session).calls.take i) c =
        device (s.past ++ (s.answer device target t request session).calls.take i) c) :
    ∃ b, s.handle other target request session = some b ∧
      (s.answer device target t request session).calls <+: b.calls := by
  have shared : (s.answer device target t request session).calls.take (k + 1) <+:
      (s.answer other target t request session).calls := Program.calls_prefix _ agree
  rw [List.take_of_length_le (Nat.le_of_eq last)] at shared
  exact ⟨_, by rw [handle, found, Option.map_some], shared⟩

/-- A request that has left the state as it was has left no more than a count in the statistics,
and calls that do not matter to later requests. -/
theorem alike_of_state_eq
    (kept : (s.answer device target t request session).service.state = s.state) :
    Alike (s.answer device target t request session).service
      (s.tell target t request.opcode (s.answer device target t request session).outcome) := by
  refine ⟨rfl, kept, funext fun other => ?_⟩
  exact stats_answer s device target t request session other

end Requests

/-- **Errors of the device layer are contained.** In any service, whatever the target, the opcode,
the parameters, the buffers and the handles of a request, and for every call that the device layer
fails to answer with an error that is no violation,

* the outcome is the bare unspecific reply, and no further call is made for the request;
* the calls before it are those that are made if it does not fail, or fails otherwise;
* the accepted controllers, the objects that were handed out and the lists of active devices are
  as they were;
* all later requests, to any targets, are answered as if no more had happened than that the
  request was counted.

The bare reply is also what a request is answered with if the output of its handler has no
layout or does not fill the one it has, or if a block that was fetched for it is not of the size
that is sent. And a device that fails leaves the section of its list free. -/
theorem failure_contained {s : Service} {target : Nat} {t : Table Program}
    (found : s.table? target = some t) (device : Device) (request : Request) (session : Session) :
    (∃ a, s.handle device target request session = some a ∧
      (∀ k c failure, a.calls[k]? = some c →
        device (s.past ++ a.calls.take k) c = .error failure → (∀ v, failure ≠ .violation v) →
        a.outcome = .reply { result := .unknown } ∧ a.calls.length = k + 1 ∧
        (∀ other : Device,
          (∀ i < k, ∀ c, a.calls[i]? = some c →
            other (s.past ++ a.calls.take i) c = device (s.past ++ a.calls.take i) c) →
          ∃ b, s.handle other target request session = some b ∧ a.calls <+: b.calls) ∧
        a.service.state = s.state ∧
        ∀ posts, let counted := s.tell target t request.opcode a.outcome
          a.service.replies posts = counted.replies posts ∧
            Alike (a.service.serve posts) (counted.serve posts)) ∧
      (∀ d parameters reply, t.lookup? request.opcode = some (.implemented d) →
        request.hasHandles d.handleCount →
        d.parameters.decode request.parameters = .ok parameters →
        (Handler.ran (d.handler ⟨request.opcode.plain, d.name, parameters, session, request⟩)
          device s.past s.state).value = .ok reply →
        d.Unsendable reply.output → a.outcome = .reply { result := .unknown }) ∧
      (target = 0 → request.handles = [] → FetchesMisfit device s.past request →
        a.outcome = .reply { result := .unknown })) ∧
    ∀ (l : Activation.Line) (job : Activation.Job) (failure : Failure) (rule : Activation.Rule),
      l.queue.turn = .held (job, .asking) →
      l.run ([.answer (.error failure), .advance, .advance].map (Activation.Moment.mk rule)) =
        (l.withTurn .between, [.noted job.handle (.error failure),
          .settled job.label (.error failure)]) := by
  refine ⟨⟨s.answer device target t request session, ?_, ?_, ?_, ?_⟩, ?_⟩
  · rw [handle, found, Option.map_some]
  · intro k c failure made failed ordinary
    obtain ⟨outcome, last, kept⟩ := handle_halts (table?_strict found) made failed ordinary
    refine ⟨outcome, last, ?_, kept, ?_⟩
    · intro other agree
      exact calls_prefix_of_agree found last agree
    · intro posts
      exact (alike_of_state_eq kept).serve posts
  · intro d parameters reply entry handles decoded replied unsendable
    have runs : t.Runs request session (s.stats target) d parameters :=
      Table.runs_of_decoded entry handles decoded
    change ((t.handle request session (s.stats target)).run device s.past s.state).value.1 = _
    rw [runs, Program.run_map]
    change d.conclude request.opcode.plain (Handler.ran _ device s.past s.state).value = _
    rw [replied]
    exact Dispatch.Definition.conclude_of_unsendable unsendable
  · rintro rfl handles fetches
    obtain rfl := Option.some.inj found
    exact outcome_of_fetchesMisfit handles fetches
  · intro l job failure rule asked
    exact Activation.Line.run_of_error asked failure rule

/-- A device layer that takes the revision of a controller, and fails in all else. -/
def halfway : Device := fun _ c => match c with
  | .npad (.setRevision ..) => .ok ()
  | _ => .error (.raised "off")

/-- The activation of the controllers, which asks for two things. -/
def activation : Request := { opcode := 103, parameters := Wire.LittleEndian.bytesOfInt 8 7 }

/-- The second call fails, and a later request finds one request counted and nothing else. -/
theorem failure_contained_halfway :
    ∃ a, (start .initial).handle halfway 0 activation ⟨"session", 0⟩ = some a ∧
      a.calls = [.npad (.setRevision 7 0), .npad (.activate 7)] ∧
      a.outcome = .reply { result := .unknown } ∧ a.service.state = State.initial := by
  have found : (start .initial).table? 0 = some (mainTable .initial) := rfl
  obtain ⟨⟨a, answered, contained, -⟩, -⟩ :=
    failure_contained found halfway activation ⟨"session", 0⟩
  have calls : a.calls = [.npad (.setRevision 7 0), .npad (.activate 7)] := by
    have computed := Option.some.inj answered
    rw [← computed]
    rfl
  obtain ⟨outcome, -, -, kept, -⟩ := contained 1 (.npad (.activate 7)) (.raised "off")
    (by rw [calls]; rfl) (by rw [calls]; rfl) (by rintro v ⟨⟩)
  exact ⟨a, answered, calls, outcome, kept⟩

end Service
end Hid
