import Hid.Device.Simulated
import Hid.Proofs.Commands.Lending
import Hid.Proofs.Service.LowLevel

/-!
Requests with memory that the client lends. Two commands take such memory: one sets up the seven
six-axis sensor, the other writes a wave entry of a palma. Either one checks everything about the
request before it goes to a device.

* `loans_exact`: for any request, which check decides and what is called.
* `loans_despite_size`: a block of the wrong size is told as such, and not as another violation.
-/

namespace Hid.Service

open Commands (FirstFailing Loan Obeys Told obeys_cons sevenLoan waveLoan)
open Dispatch (Context Outcome)
open Wire (Values)

/-- The commands that take memory from the client. -/
def loans : List Loan := [sevenLoan, waveLoan]

/-- What the client gets that is told so: a violation has the opcode and the name of the command. -/
def Shows (l : Loan) : Told → Outcome → Prop
  | .violation reason, outcome => ∃ v, outcome = .violation v ∧ v.reason = reason ∧
      v.opcode = some (.int l.opcode) ∧ v.command = l.name
  | .bare, outcome => outcome = .reply { result := .unknown }

/-- The outcome of what the handler of a command that takes memory has come to. -/
def lentOutcome (l : Loan) : Except Failure ResultCode → Outcome
  | .ok code => .reply { result := code }
  | .error (.violation v) => .violation (v.raisedBy (.int l.opcode) l.name)
  | .error _ => .reply { result := .unknown }

section Lending

variable {s : Service} {p : Post} {answers : Answerer} {l : Loan}

theorem shows_of_ends {told : Told} {value : Except Failure ResultCode} (ends : told.Ends value) :
    Shows l told (lentOutcome l value) := by
  cases told with
  | violation reason =>
      obtain ⟨v, rfl, rfl⟩ := ends
      exact ⟨_, rfl, rfl, rfl, rfl⟩
  | bare =>
      obtain rfl : value = .ok .unknown := ends
      rfl

/-- A request is sent for a command that takes memory, to a device layer that answers every call. -/
structure Post.Lends (p : Post) (l : Loan) (answers : Answerer) : Prop where
  target : p.target = 0
  opcode : p.request.opcode = .int l.opcode
  device : p.device = answering answers

/-- A command whose handler obeys its checks obeys, as a whole, those of the dispatcher too. -/
theorem reply_of_lends {handler : Context l.shape.Value → Handler ResultCode}
    (lends : p.Lends l answers) (entry : (mainTable s.config).lookup? (.int l.opcode) =
      some (contextual l.name l.shape.layout l.sizes.length handler))
    (obeys : ∀ c : Context l.shape.Value, c.parameters = l.shape.record.make
        (Values.places l.shape.record.slots 0 c.request.parameters) →
      c.request.handles.length = l.sizes.length →
      Obeys ((handler c).ran (answering answers) [] s.state)
        (l.demands c.request.parameters c.request.handles answers)
        (l.Done c.request.parameters c.request.handles answers)) :
    ∃ r : Ran (Except Failure ResultCode), s.reply p = some (lentOutcome l r.value, r.calls) ∧
      Obeys r (l.checks p.request.parameters p.request.handles answers)
        (l.Done p.request.parameters p.request.handles answers) := by
  have found : s.table? p.target = some (mainTable s.config) := by rw [lends.target]; rfl
  rw [← lends.opcode] at entry
  have settled {outcome : Outcome} (settles : (mainTable s.config).Settles p.request p.session
      (s.stats p.target) outcome) : s.reply p = some (outcome, []) :=
    reply_of_attend (attend_of_settles found settles)
  by_cases count : p.request.handles.length = l.sizes.length
  case neg =>
    have other : ¬ p.request.hasHandles l.sizes.length := fun same =>
      count (Dispatch.Request.hasHandles_iff.mp same)
    have reply := settled (Dispatch.Table.settles_handles entry other)
    rw [Dispatch.handleViolation, lends.opcode] at reply
    refine ⟨⟨.error (.violation _), s.state, []⟩, reply, ?_⟩
    exact obeys_cons (fun _ => ⟨⟨_, rfl, rfl⟩, rfl⟩) fun holds => absurd holds count
  have handles : p.request.hasHandles l.sizes.length = true :=
    Dispatch.Request.hasHandles_iff.mpr count
  by_cases whole : p.request.parameters.length = l.shape.layout.size
  case neg =>
    have reply := settled (Dispatch.Table.settles_size entry handles whole)
    rw [Dispatch.sizeViolation, lends.opcode] at reply
    refine ⟨⟨.error (.violation _), s.state, []⟩, reply, ?_⟩
    refine obeys_cons (fun fails => absurd count fails) fun _ => ?_
    exact obeys_cons (fun _ => ⟨⟨_, rfl, rfl⟩, rfl⟩) fun holds => absurd holds whole
  have attended := attend_of_decoded found entry handles (l.shape.decode_places whole)
  let c : Context l.shape.Value := ⟨p.request.opcode.plain, l.name,
    l.shape.record.make (Values.places l.shape.record.slots 0 p.request.parameters), p.session,
    p.request⟩
  let r := (handler c).ran (answering answers) [] s.state
  refine ⟨r, ?_, obeys_cons (fun fails => absurd count fails) fun _ =>
    obeys_cons (fun fails => absurd whole fails) fun _ => obeys c rfl count⟩
  rw [carryOut, lends.device] at attended
  dsimp only at attended
  rw [Handler.ran_bind_pure] at attended
  rw [reply_of_attend attended]
  refine congrArg (fun outcome => some (outcome, r.calls)) ?_
  change Dispatch.Definition.conclude _ p.request.opcode.plain (r.value.map _) = lentOutcome l r.value
  rw [lends.opcode]
  cases r.value with
  | ok code => rfl
  | error failure => cases failure <;> rfl

theorem obeys_of_loans (listed : l ∈ loans) (lends : p.Lends l answers) :
    ∃ r : Ran (Except Failure ResultCode), s.reply p = some (lentOutcome l r.value, r.calls) ∧
      Obeys r (l.checks p.request.parameters p.request.handles answers)
        (l.Done p.request.parameters p.request.handles answers) := by
  rcases List.mem_pair.mp listed with rfl | rfl
  · exact reply_of_lends lends rfl fun c read two => Commands.obeys_setUpSevenSixAxis read two
  · exact reply_of_lends lends rfl fun c read one => Commands.obeys_writeWaveEntry read one

/-- The memory is used in calls to devices. -/
theorem uses_of_loans (listed : l ∈ loans) (block : Wire.Bytes) (memory : Device.TransferMemory) :
    ∃ c ∈ l.uses block memory, ¬ c.IsLookUp := by
  rcases List.mem_pair.mp listed with rfl | rfl
  · exact ⟨_, List.mem_cons_self, by rintro ⟨handle, ⟨⟩⟩⟩
  · exact ⟨_, List.mem_cons_self, by rintro ⟨handle, ⟨⟩⟩⟩

/-- **Requests with lent memory.** For either command, any block, any handles and any answers of a
device layer that does not fail, one of two things comes of a request:

* a check fails. The first that fails, in the order of `Loan.checks`, decides: the wrong number of
  handles, a block of the wrong size, a declared size that is not the required one, a moved handle
  and memory of another size are told as violations, and a handle without memory by the unspecific
  reply. Memory has been looked up at most;
* all checks hold. Then the reply is a success, all handles have been looked up, and what stands
  behind the first of them has been handed on, once, with nothing else called.

So a device is asked if and only if all checks hold. -/
theorem loans_exact (s : Service) {p : Post} {answers : Answerer} {l : Loan} (listed : l ∈ loans)
    (lends : p.Lends l answers) :
    let block := p.request.parameters
    let handles := p.request.handles
    let checks := l.checks block handles answers
    ∃ outcome calls, s.reply p = some (outcome, calls) ∧
      ((∃ c ∈ calls, ¬ c.IsLookUp) ↔ ∀ check ∈ checks, check.holds) ∧
      (∀ told, FirstFailing checks told → Shows l told outcome) ∧
      ((∀ check ∈ checks, check.holds) → outcome = .reply { result := .success } ∧
        l.Done block handles answers calls) := by
  intro block handles checks
  obtain ⟨r, reply, obeys⟩ := obeys_of_loans (s := s) listed lends
  refine ⟨_, _, reply, ⟨?_, ?_⟩,
    fun told failing => shows_of_ends (obeys.refuses told failing).1, ?_⟩
  · rintro ⟨c, made, device⟩
    rcases Commands.firstFailing_or_holds checks with ⟨told, failing⟩ | holds
    · exact absurd ((obeys.refuses told failing).2 c made) device
    · exact holds
  · intro holds
    obtain ⟨-, memory, -, calls⟩ := obeys.grants holds
    obtain ⟨c, used, device⟩ := uses_of_loans listed p.request.parameters memory
    rw [calls]
    exact ⟨c, List.mem_append_right _ used, device⟩
  · intro holds
    obtain ⟨value, done⟩ := obeys.grants holds
    rw [value]
    exact ⟨rfl, done⟩

end Lending

/-- A device layer that finds memory of both sizes, and on whose word everything succeeds. -/
def lenient : Answerer := fun _ =>
  Device.Simulated.answer [Device.Simulated.lend 10 0x1000, Device.Simulated.lend 11 0x7f000]

/-- The request to set up the sensor with such memory, as it ought to be made. -/
theorem loans_exact_lenient :
    ∃ p : Post, sevenLoan ∈ loans ∧ p.Lends sevenLoan lenient ∧
      (start .initial).reply p = some (.reply { result := .success },
        [.getTransferMemory 10, .getTransferMemory 11, .activate .consoleSixAxis,
          .activate .sevenSixAxis, .setTransferMemory (Device.Simulated.lend 10 0x1000)]) := by
  let p : Post := { settingUp with device := answering lenient }
  have listed : sevenLoan ∈ loans := List.mem_cons_self
  have lends : p.Lends sevenLoan lenient := ⟨rfl, rfl, rfl⟩
  obtain ⟨outcome, calls, reply, -, -, granted⟩ := loans_exact (start .initial) listed lends
  have holds : ∀ check ∈ sevenLoan.checks p.request.parameters p.request.handles lenient,
      check.holds := by
    refine List.forall_iff_forall_mem.mp ⟨rfl, rfl, rfl, rfl, rfl, rfl, ?_, ?_, ?_⟩
    · exact List.forall_iff_forall_mem.mp ⟨rfl, rfl⟩
    · rintro memory ⟨⟩
      rfl
    · rintro memory ⟨⟩
      rfl
  obtain ⟨success, memory, first, made⟩ := granted holds
  obtain rfl : Device.Simulated.lend 10 0x1000 = memory := by
    cases first
    rfl
  rw [success, made] at reply
  exact ⟨p, listed, lends, reply⟩

/-- A block that is too short is neither a broken contract nor a matter of handles. -/
theorem loans_despite_size :
    let p : Post := ⟨0, { opcode := 306, handles := [⟨.copy, 10⟩, ⟨.copy, 11⟩] }, ⟨"session", 0⟩,
      answering lenient⟩
    p.Lends sevenLoan lenient ∧ ∃ v, (start .initial).reply p = some (.violation v, []) ∧
      v.reason = .parameterSize :=
  ⟨⟨rfl, rfl, rfl⟩, _, rfl, rfl⟩

end Hid.Service
