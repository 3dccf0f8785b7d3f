import Hid.Proofs.Commands.Sending
import Hid.Proofs.Service.Change
import Hid.Proofs.Service.Containment

/-!
Requests to send values to several motors. The values go out in turn, up to the first that a motor
does not take, and none goes out before both buffers have been read whole.

* `sendValues_exact`: the outcome of such a request and the calls made for it, for any buffers and
  any answers.
* `sendValues_despite_breach`: an error of the device layer that is a violation is told as one, not
  by the unspecific reply.
-/

namespace Hid.Service

open Commands (Took answersTo sendBuffers sendings)
open Device (Call)
open Dispatch (Outcome)
open Wire (Bytes Layout Shape)

/-! ### Requests to send values -/

namespace Post

/-- The second buffer; a missing one is empty. -/
def secondBuffer (p : Post) : Bytes := p.request.buffers[1]?.getD []

/-- The request is one to send values, and names its client. -/
structure SendsValues (p : Post) : Prop where
  target : p.target = 0
  opcode : p.request.opcode = 206
  parameters : p.request.parameters.length = 8
  handles : p.request.handles = []

/-- What the handler gets to see of the request. -/
def sendContext (p : Post) : Dispatch.Context Int :=
  ⟨p.request.opcode.plain, "SendVibrationValues", p.aruid, p.session, p.request⟩

end Post

/-- What the client is told of the answer that sending has come to. -/
def sent : Except Failure ResultCode → Outcome
  | .ok code => .reply { result := code }
  | .error (.violation v) => .violation (v.raisedBy 206 "SendVibrationValues")
  | .error _ => .reply { result := .unknown }

theorem sent_of_isOrdinary {failure : Failure} (ordinary : failure.IsOrdinary) :
    sent (.error failure) = .reply { result := .unknown } := by
  cases failure with
  | violation v => exact absurd rfl (ordinary v)
  | fault | undeclaredOutput | unusableValue | invalidCapacity | raised => rfl

section Sending

variable {s : Service} {p : Post}

/-- A request to send values is answered by what sending has come to, and changes nothing. -/
theorem reply_of_sends (sends : p.SendsValues) :
    let ran := (sendBuffers p.sendContext).ran p.device [] s.state
    s.reply p = some (sent ran.value, ran.calls) ∧ (s.after p).state = s.state := by
  intro ran
  have entry : (mainTable s.config).lookup? p.request.opcode =
      some (contextual "SendVibrationValues" .aruid 0 sendBuffers) := by
    rw [sends.opcode]; rfl
  have decoded := decode_parameters_iff.mpr ⟨sends.parameters, rfl⟩
  have attended := attend_of_handleless sends.target sends.handles entry rfl decoded
  rw [carryOut] at attended
  dsimp only at attended
  rw [← Post.sendContext, Handler.ran_bind_pure] at attended
  rw [reply_of_attend attended, after_of_attend attended]
  refine ⟨congrArg (fun outcome => some (outcome, ran.calls)) ?_,
    (Commands.sendBuffers_steady p.sendContext).state_eq⟩
  rw [sends.opcode]
  change Dispatch.Definition.conclude _ (206 : Quantity) (ran.value.map _) = sent ran.value
  cases ran.value with
  | ok code => rfl
  | error failure => cases failure <;> rfl

section Reading

variable {α β : Type} {c : Dispatch.Context α} {index : Quantity} {buffer : Bytes} {l : Layout β}

/-- A buffer is read as the elements of its bytes. -/
theorem readBuffer_of_decodeAll (raw : c.rawBuffer index = buffer) {values : List β}
    (decoded : l.decodeAll buffer = .ok values) : c.readBuffer index l = .ok values := by
  rw [Dispatch.Context.readBuffer, raw, decoded]

theorem readBuffer_of_ragged (raw : c.rawBuffer index = buffer) (stride : 0 < l.size)
    (ragged : buffer.length % l.size ≠ 0) :
    ∃ v, c.readBuffer index l = .error (.violation v) ∧ v.reason = .bufferStride ∧
      v.expected = l.size ∧ v.actual = buffer.length := by
  rw [Dispatch.Context.readBuffer, raw, Layout.decodeAll_of_ragged stride ragged]
  exact ⟨_, rfl, rfl, rfl, rfl⟩

theorem rawBuffer_second (c : Dispatch.Context α) :
    c.rawBuffer 1 = c.request.buffers[1]?.getD [] := rfl

end Reading

/-- **Sending values to motors.** Whatever a request to send values brings, it leaves the state of
the service as it is, and

* a first buffer that is not made of whole handles, or else a second one that is not made of whole
  values, is a violation, and nothing is sent;
* if there are not as many values as handles, the result says so, and nothing is sent;
* otherwise each value is sent to its motor in turn. Either the motors take all of them, which is a
  success, or there is a first one that does not. Then nothing more is sent, and its answer decides:
  a code is the result, an error gives the unspecific reply, and one that is a violation is told
  as such in the name of the command;
* without any handles and values it succeeds, and nothing is sent. -/
theorem sendValues_exact (s : Service) {p : Post} (sends : p.SendsValues) :
    (s.after p).state = s.state ∧
    (p.buffer.length % 4 ≠ 0 → ∃ v, s.reply p = some (.violation v, []) ∧
      v.reason = .bufferStride ∧ v.expected = (4 : Nat) ∧ v.actual = p.buffer.length) ∧
    (p.buffer.length % 4 = 0 → p.secondBuffer.length % 16 ≠ 0 →
      ∃ v, s.reply p = some (.violation v, []) ∧
        v.reason = .bufferStride ∧ v.expected = (16 : Nat) ∧ v.actual = p.secondBuffer.length) ∧
    (p.buffer.length % 4 = 0 → p.secondBuffer.length % 16 = 0 → ∃ handles values,
      Layout.deviceHandle.decodeAll p.buffer = .ok handles ∧
      Layout.vibrationValue.decodeAll p.secondBuffer = .ok values ∧
      (handles.length ≠ values.length →
        s.reply p = some (.reply { result := .vibrationArraySizeMismatch }, [])) ∧
      (handles.length = values.length →
        let calls := sendings p.aruid (handles.zip values)
        let answers := answersTo p.device p.aruid [] (handles.zip values)
        ((∀ answer ∈ answers, Took answer) ∧
          s.reply p = some (.reply { result := .success }, calls)) ∨
        ∃ (i : Nat) (answer : _) (outcome : Outcome), answers[i]? = some answer ∧ ¬ Took answer ∧
          (∀ j < i, ∀ earlier, answers[j]? = some earlier → Took earlier) ∧
          s.reply p = some (outcome, calls.take (i + 1)) ∧
          (∀ code, answer = .ok code → outcome = .reply { result := code }) ∧
          (∀ failure, answer = .error failure → failure.IsOrdinary →
            outcome = .reply { result := .unknown }) ∧
          (∀ v, answer = .error (.violation v) →
            outcome = .violation (v.raisedBy 206 "SendVibrationValues")))) ∧
    (p.buffer = [] → p.secondBuffer = [] →
      s.reply p = some (.reply { result := .success }, [])) := by
  have first : p.sendContext.rawBuffer 0 = p.buffer := rawBuffer_eq p.sendContext
  have second : p.sendContext.rawBuffer 1 = p.secondBuffer := rawBuffer_second p.sendContext
  have whole_handles (whole : p.buffer.length % 4 = 0) : ∃ handles,
      Layout.deviceHandle.decodeAll p.buffer = .ok handles :=
    Shape.deviceHandle.faithful.isOk_decodeAll (by decide) whole
  have whole_values (whole : p.secondBuffer.length % 16 = 0) : ∃ values,
      Layout.vibrationValue.decodeAll p.secondBuffer = .ok values :=
    Shape.vibrationValue.faithful.isOk_decodeAll (by decide) whole
  obtain ⟨reply, state⟩ := reply_of_sends (s := s) sends
  have replied {answer : Except Failure ResultCode} {calls : List Call} (ran :
      (sendBuffers p.sendContext).ran p.device [] s.state = ⟨answer, s.state, calls⟩) :
      s.reply p = some (sent answer, calls) := by rw [reply, ran]
  refine ⟨state, ?ragged, ?raggedValues, ?whole, ?empty⟩
  case ragged =>
    intro ragged
    obtain ⟨v, unread, reason, expected, actual⟩ :=
      readBuffer_of_ragged (l := Layout.deviceHandle) first (by decide) ragged
    exact ⟨_, replied (Commands.sendBuffers_ran_of_unread unread), reason, expected, actual⟩
  case raggedValues =>
    intro whole ragged
    obtain ⟨handles, decoded⟩ := whole_handles whole
    obtain ⟨v, unread, reason, expected, actual⟩ :=
      readBuffer_of_ragged (l := Layout.vibrationValue) second (by decide) ragged
    have read := readBuffer_of_decodeAll first decoded
    exact ⟨_, replied (Commands.sendBuffers_ran_of_unread_values read unread), reason, expected,
      actual⟩
  case whole =>
    intro whole whole'
    obtain ⟨handles, decoded⟩ := whole_handles whole
    obtain ⟨values, decoded'⟩ := whole_values whole'
    have read := readBuffer_of_decodeAll first decoded
    have read' := readBuffer_of_decodeAll second decoded'
    refine ⟨handles, values, decoded, decoded', fun differ => ?_, fun same => ?_⟩
    · exact replied (Commands.sendBuffers_ran_of_length_ne read read' differ)
    · have ran : (sendBuffers p.sendContext).ran p.device [] s.state =
          (Commands.sendAll p.aruid (handles.zip values)).ran p.device [] s.state :=
        Commands.sendBuffers_ran_of_length_eq read read' same
      rcases Commands.taken_or_refused (answersTo p.device p.aruid [] (handles.zip values)) with
        taken | ⟨i, answer, here, refused, before⟩
      · exact .inl ⟨taken, replied (ran.trans (Commands.sendAll_ran_of_taken taken))⟩
      · refine .inr ⟨i, answer, sent answer, here, refused, before,
          replied (ran.trans (Commands.sendAll_ran_of_refused here refused before)), ?_, ?_, ?_⟩
        · rintro code rfl
          rfl
        · rintro failure rfl ordinary
          exact sent_of_isOrdinary ordinary
        · rintro v rfl
          rfl
  case empty =>
    intro none none'
    have read := readBuffer_of_decodeAll (first.trans none)
      (rfl : Layout.deviceHandle.decodeAll [] = .ok [])
    have read' := readBuffer_of_decodeAll (second.trans none')
      (rfl : Layout.vibrationValue.decodeAll [] = .ok [])
    exact replied (Commands.sendBuffers_ran_of_length_eq read read' rfl)

end Sending

/-- A request to send a value each to as many motors as there are ids, answered by a device
layer. -/
def sendingTo (ids : List UInt8) (device : Device) : Post :=
  ⟨0, { opcode := 206
        parameters := Wire.LittleEndian.bytesOfInt 8 7
        buffers := [ids.flatMap fun id => [3, id, 0, 0], List.replicate (16 * ids.length) 0] },
    ⟨"session", 0⟩, device⟩

/-- A device layer that takes one value and no other. -/
def tiring : Device := fun past c => match c with
  | .vibration (.send ..) => .ok (if past = [] then ResultCode.success else .int 7)
  | _ => .error (.raised "off")

/-- Of three values, the first is taken and the second is not; the third stays where it is. -/
theorem sendValues_exact_tiring :
    (sendingTo [0, 1, 2] tiring).SendsValues ∧
      ∃ calls, (start .initial none).reply (sendingTo [0, 1, 2] tiring) =
        some (.reply { result := .int 7 }, calls) ∧ calls.length = 2 := by
  have sends : (sendingTo [0, 1, 2] tiring).SendsValues := ⟨rfl, rfl, rfl, rfl⟩
  obtain ⟨-, -, -, whole, -⟩ := sendValues_exact (start .initial none) sends
  obtain ⟨handles, values, decoded, decoded', -, equal⟩ := whole rfl rfl
  obtain ⟨a, b, c, rfl⟩ : ∃ a b c, handles = [a, b, c] :=
    ⟨_, _, _, Except.ok.inj (decoded.symm.trans rfl)⟩
  obtain ⟨x, y, z, rfl⟩ : ∃ x y z, values = [x, y, z] :=
    ⟨_, _, _, Except.ok.inj (decoded'.symm.trans rfl)⟩
  have tired : ¬ Took (.ok (.int 7)) := mt Commands.took_ok_iff.mp (by decide)
  refine ⟨sends, ?_⟩
  rcases equal rfl with ⟨taken, -⟩ | ⟨i, answer, outcome, here, refused, before, replied, coded, -⟩
  · exact absurd (taken _ (List.mem_cons_of_mem _ List.mem_cons_self)) tired
  · match i with
    | 0 =>
        obtain rfl := Option.some.inj here
        exact absurd (Commands.took_ok_iff.mpr ResultCode.isSuccess_success) refused
    | 1 =>
        obtain rfl := Option.some.inj here
        rw [coded _ rfl] at replied
        exact ⟨_, replied, rfl⟩
    | i + 2 => exact absurd (before 1 (by omega) _ rfl) tired

/-- A device layer that answers everything with the same violation. -/
def breaching : Device := fun _ _ =>
  .error (.violation (.make "Motor" .contract 1 0 "out of order"))

/-- The value is not taken because of an error, and the reply is not the unspecific one. -/
theorem sendValues_despite_breach :
    (sendingTo [0] breaching).SendsValues ∧
      ∃ v calls,
        (start .initial none).reply (sendingTo [0] breaching) = some (.violation v, calls) ∧
        v.command = "SendVibrationValues" ∧ calls.length = 1 ∧
        (start .initial none).reply (sendingTo [0] breaching) ≠
          some (.reply { result := .unknown }, calls) := by
  refine ⟨⟨rfl, rfl, rfl, rfl⟩, _, _, rfl, rfl, rfl, fun bare => ?_⟩
  cases (Option.some.inj bare)

end Hid.Service
