import Hid.Device.Simulated
import Hid.Proofs.Service.Asking

/-!
Requests for the sensor behind a handle. Fifteen commands demand a valid handle, which they find at
three different offsets, and hand it on to the device layer in calls of their own
(`sensorCommands`).

* `sensors_exact`: for each of them, any block of its size and any answers, an invalid handle is
  never handed on, and a valid one is, in the calls of the command and in no others.
-/

namespace Hid.Service

open Commands (blockOfSensor ofSensor onSensor)
open Device (Call Kind Report)
open Dispatch (Reply)
open Wire (Bytes Layout Shape flagAt handleAt numberAt singleAt)

/-! ### Commands for a sensor -/

/-- What a command for a sensor is like. -/
structure SensorCommand where
  opcode : Int
  /-- The parameter block. -/
  shape : Shape
  /-- Where the handle stands in it. -/
  offset : Nat
  outputSize : Nat
  /-- The calls that are made with a valid handle and the rest of the block. -/
  calls : DeviceHandle → Bytes → List Call

/-- The commands that demand a valid handle of a sensor. -/
def sensorCommands (reset : FusionParameters) : List SensorCommand :=
  [⟨66, .handleAruid, 0, 0, fun h _ => [.sixAxis (.setEnabled h true)]⟩,
   ⟨67, .handleAruid, 0, 0, fun h _ => [.sixAxis (.setEnabled h false)]⟩,
   ⟨68, .handleAruid, 0, 4, fun h _ => [.sixAxis (.isFusionEnabled h)]⟩,
   ⟨69, .fusionEnable, 4, 0, fun h block => [.sixAxis (.setFusionEnabled h (flagAt 0 block))]⟩,
   ⟨70, .fusionParametersAruid, 0, 0, fun h block =>
      [.sixAxis (.setFusionParameters h ⟨singleAt 4 block, singleAt 8 block⟩)]⟩,
   ⟨71, .handleAruid, 0, 8, fun h _ => [.sixAxis (.getFusionParameters h)]⟩,
   ⟨72, .handleAruid, 0, 0, fun h _ =>
      [.sixAxis (.setFusionParameters h reset), .sixAxis (.setFusionEnabled h true)]⟩,
   ⟨79, .driftModeAruid, 0, 0, fun h block => [.sixAxis (.setDriftMode h (numberAt 4 4 block))]⟩,
   ⟨80, .handleAruid, 0, 4, fun h _ => [.sixAxis (.getDriftMode h)]⟩,
   ⟨81, .handleAruid, 0, 0, fun h _ =>
      [.sixAxis (.setDriftMode h ZeroDriftMode.standard.value)]⟩,
   ⟨84, .unalteredPassthrough, 1, 0, fun h block =>
      [.sixAxis (.enablePassthrough h (flagAt 0 block))]⟩,
   ⟨85, .handleAruid, 0, 4, fun h _ => [.sixAxis (.isPassthroughEnabled h)]⟩,
   ⟨87, .handleAruid, 0, 0, fun h _ => [.sixAxis (.loadCalibration h)]⟩,
   ⟨88, .handleAruid, 0, 0, fun h _ => [.sixAxis (.getIcInformation h)]⟩,
   ⟨89, .handleAruid, 0, 0, fun h block =>
      [.npad (.resetNewlyAssigned (numberAt 8 8 block) h)]⟩]

/-- The result codes that calls are answered with, if each is made after the ones before it. -/
def codesOf (answers : Answerer) (past : List Call) : List Call → List ResultCode
  | [] => []
  | c :: rest => Kind.resultCode _ (answers past c) :: codesOf answers (past ++ [c]) rest

/-- The first failure among codes, or else the last code. -/
def decisive : List ResultCode → ResultCode
  | [] => .success
  | [code] => code
  | code :: rest => if code.isFailure then code else decisive rest

theorem isSuccess_decisive_iff {codes : List ResultCode} :
    (decisive codes).isSuccess = true ↔ ∀ code ∈ codes, code.isSuccess = true := by
  induction codes using decisive.induct with
  | case1 => exact ⟨fun _ => nofun, fun _ => ResultCode.isSuccess_success⟩
  | case2 code => rw [decisive, List.forall_mem_singleton]
  | case3 code rest _ failed =>
      have refused : ¬ code.isSuccess = true := by simpa using failed
      rw [decisive, if_pos failed, List.forall_mem_cons]
      · exact ⟨fun success => absurd success refused, And.left⟩
      · assumption
  | case4 code rest _ passed ih =>
      have success : code.isSuccess = true := by simpa using passed
      rw [decisive, if_neg passed, ih, List.forall_mem_cons]
      · exact ⟨fun others => ⟨success, others⟩, And.right⟩
      · assumption

/-- A sensor that succeeds in giving its calibration or what it knows of its circuit gives as many
bytes as the command sends. -/
structure WholeData (answers : Answerer) : Prop where
  calibration : ∀ past h, let report : Report Bytes := answers past (.sixAxis (.loadCalibration h))
    report.result.isSuccess = true → ∃ data, report.value = some data ∧
      data.length = Limits.calibrationParameterSize
  circuit : ∀ past h, let report : Report Bytes := answers past (.sixAxis (.getIcInformation h))
    report.result.isSuccess = true → ∃ data, report.value = some data ∧
      data.length = Limits.icInformationSize

/-! ### What comes of them -/

/-- A handle with the code is demanded to be valid. If it is not, the client gets the code with an
output of zeros, and nothing is called. Otherwise the calls are made, and the first failure is the
result. -/
structure Demands (s : Service) (p : Post) (answers : Answerer) (code : ResultCode) (size : Nat)
    (calls : List Call) : Prop where
  invalid : code.isSuccess = false →
    s.reply p = some (.reply { result := code, output := List.replicate size 0 }, [])
  valid : code.isSuccess = true → ∃ response, s.reply p = some (.reply response, calls) ∧
    response.result = decisive (codesOf answers [] calls)

section Demanding

variable {s : Service} {p : Post} {answers : Answerer} {opcode : Int} {size : Nat} {name : String}
  {calls : List Call}

theorem demands_of_onSensor {shape : Shape} {handle : shape.Value → DeviceHandle}
    {act : shape.Value → Handler ResultCode} {q : shape.Value} {h : DeviceHandle}
    (asks : p.Asks opcode size answers) (entry : (mainTable s.config).lookup? (.int opcode) =
      some (onSensor name shape.layout handle act))
    (decoded : shape.layout.decode p.request.parameters = .ok q) (named : handle q = h)
    {state : State} (ran : (act q).ran (answering answers) [] s.state =
      ⟨.ok (decisive (codesOf answers [] calls)), state, calls⟩) :
    s.Demands p answers (validateSixAxisHandle h) 0 calls := by
  subst named
  constructor
  · intro invalid
    have refused : (validateSixAxisHandle (handle q)).isFailure = true := by simp [invalid]
    apply reply_of_coded asks entry decoded
    dsimp only
    rw [if_pos refused, Handler.ran_pure]
  · intro valid
    have passed : ¬ (validateSixAxisHandle (handle q)).isFailure = true := by simp [valid]
    refine ⟨{ result := decisive (codesOf answers [] calls) }, ?_, rfl⟩
    apply reply_of_coded asks entry decoded
    dsimp only
    rw [if_neg passed, ran]

theorem demands_of_ofSensor (output : Shape)
    {act : DeviceHandle → Handler (Report output.Value)} {q : HandleAruid} {h : DeviceHandle}
    (asks : p.Asks opcode size answers) (entry : (mainTable s.config).lookup? (.int opcode) =
      some (ofSensor name output.layout act))
    (decoded : Layout.handleAruid.decode p.request.parameters = .ok q) (named : q.handle = h)
    {report : Report output.Value} {state : State}
    (ran : (act h).ran (answering answers) [] s.state = ⟨.ok report, state, calls⟩)
    (result : report.result = decisive (codesOf answers [] calls)) :
    s.Demands p answers (validateSixAxisHandle h) output.layout.size calls := by
  subst named
  have entry : (mainTable s.config).lookup? (.int opcode) = some (replied name
      Shape.handleAruid.layout output.layout fun q => do
        let code := validateSixAxisHandle q.handle
        if code.isFailure then return { result := code }
        let report ← act q.handle
        return { result := report.result, output := report.value }) := entry
  have decoded : Shape.handleAruid.layout.decode p.request.parameters = .ok q := decoded
  constructor
  · intro invalid
    have refused : (validateSixAxisHandle q.handle).isFailure = true := by simp [invalid]
    obtain ⟨block, rfl, -, reply⟩ := reply_of_replied asks entry decoded (by
      dsimp only
      rw [if_pos refused, Handler.ran_pure])
    exact reply
  · intro valid
    have passed : ¬ (validateSixAxisHandle q.handle).isFailure = true := by simp [valid]
    obtain ⟨block, -, -, reply⟩ := reply_of_replied asks entry decoded (by
      dsimp only
      rw [if_neg passed]
      exact Handler.ran_bind_pure_ok ran _)
    exact ⟨_, reply, result⟩

theorem demands_of_blockOfSensor {block : String} {length : Nat}
    {act : DeviceHandle → Handler (Report Bytes)} {q : HandleAruid} {h : DeviceHandle}
    (asks : p.Asks opcode size answers) (entry : (mainTable s.config).lookup? (.int opcode) =
      some (blockOfSensor name block length act))
    (decoded : Layout.handleAruid.decode p.request.parameters = .ok q) (named : q.handle = h)
    {report : Report Bytes} {state : State}
    (ran : (act h).ran (answering answers) [] s.state = ⟨.ok report, state, calls⟩)
    (small : length < Number.twoTo 40) (whole : report.result.isSuccess = true →
      ∃ data, report.value = some data ∧ data.length = length)
    (result : report.result = decisive (codesOf answers [] calls)) :
    s.Demands p answers (validateSixAxisHandle h) 0 calls := by
  subst named
  constructor
  · intro invalid
    have refused : (validateSixAxisHandle q.handle).isFailure = true := by simp [invalid]
    rw [reply_of_asks asks entry rfl decoded rfl]
    dsimp only
    rw [if_pos refused]
    rfl
  · intro valid
    have passed : ¬ (validateSixAxisHandle q.handle).isFailure = true := by simp [valid]
    obtain ⟨buffers, sent⟩ : ∃ buffers, Handler.ran (do
        let code := validateSixAxisHandle q.handle
        if code.isFailure then return ({ result := code } : Reply Unit)
        let report ← act q.handle
        if report.result.isFailure then return { result := report.result }
        let data ← Handler.sized block length (← Handler.required report.value)
        return { result := report.result, buffers := [data] }) (answering answers) [] s.state =
        ⟨.ok { result := report.result, buffers }, state, calls⟩ := by
      dsimp only
      rw [if_neg passed, Handler.ran_bind_ok (by rw [ran]), ran]
      cases success : report.result.isSuccess with
      | false =>
          have failed : report.result.isFailure = true := by simp [success]
          rw [if_pos failed]
          exact ⟨[], congrArg (Ran.mk _ _) (List.append_nil _)⟩
      | true =>
          have went : ¬ report.result.isFailure = true := by simp [success]
          obtain ⟨data, given, right⟩ := whole success
          rw [if_neg went, given]
          refine ⟨[data], ?_⟩
          change ((Handler.sized block length data >>= _).ran _ _ _).after _ = _
          rw [Handler.sized_of_whole block small right]
          exact congrArg (Ran.mk _ _) (List.append_nil _)
    exact ⟨_, reply_of_asks asks entry rfl decoded sent, result⟩

/-- Each of the fifteen demands a valid handle for its calls. -/
theorem demands_of_sensorCommands (whole : WholeData answers) :
    ∀ row ∈ sensorCommands s.config.fusionDefaults,
      p.Asks row.opcode row.shape.layout.size answers →
      s.Demands p answers (validateSixAxisHandle (handleAt row.offset p.request.parameters))
        row.outputSize
        (row.calls (handleAt row.offset p.request.parameters) p.request.parameters) := by
  intro row listed asks
  have decoded := row.shape.decode_places asks.whole
  simp only [sensorCommands, List.mem_cons, List.not_mem_nil, or_false] at listed
  rcases listed with rfl | rfl | rfl | rfl | rfl | rfl | rfl | rfl | rfl | rfl | rfl | rfl | rfl |
    rfl | rfl
  · exact demands_of_onSensor asks rfl decoded rfl rfl
  · exact demands_of_onSensor asks rfl decoded rfl rfl
  · exact demands_of_ofSensor .flagWord asks rfl decoded rfl rfl rfl
  · exact demands_of_onSensor asks rfl decoded rfl rfl
  · exact demands_of_onSensor asks rfl decoded rfl rfl
  · exact demands_of_ofSensor .fusionParameters asks rfl decoded rfl rfl rfl
  · exact demands_of_onSensor asks rfl decoded rfl rfl
  · exact demands_of_onSensor asks rfl decoded rfl rfl
  · exact demands_of_ofSensor .word32 asks rfl decoded rfl rfl rfl
  · exact demands_of_onSensor asks rfl decoded rfl rfl
  · exact demands_of_onSensor asks rfl decoded rfl rfl
  · exact demands_of_ofSensor .flagWord asks rfl decoded rfl rfl rfl
  · exact demands_of_blockOfSensor asks rfl decoded rfl rfl (by decide) (whole.calibration _ _) rfl
  · exact demands_of_blockOfSensor asks rfl decoded rfl rfl (by decide) (whole.circuit _ _) rfl
  · exact demands_of_onSensor asks rfl decoded rfl rfl

/-- **Requests for a sensor.** For each of the fifteen commands, any block of its size and any
answers of a device layer that does not fail (and gives whole data):

* if the handle in the block is not valid, the reply has exactly the code of its validation and an
  output of zeros of the declared size, and nothing is called;
* otherwise the calls of the command are made with that handle, all of them and no others, and the
  first failure among their codes, or else the last code, is the result. Only the command that
  resets the fusion makes more than one call: it sets the configured parameters and, whatever comes
  of that, switches fusion on. -/
theorem sensors_exact (s : Service) {p : Post} {answers : Answerer} {row : SensorCommand}
    (listed : row ∈ sensorCommands s.config.fusionDefaults)
    (asks : p.Asks row.opcode row.shape.layout.size answers) (whole : WholeData answers) :
    let h := handleAt row.offset p.request.parameters
    let code := validateSixAxisHandle h
    let calls := row.calls h p.request.parameters
    (code.isSuccess = false → s.reply p =
      some (.reply { result := code, output := List.replicate row.outputSize 0 }, [])) ∧
    (code.isSuccess = true → ∃ response, s.reply p = some (.reply response, calls) ∧
      response.result = decisive (codesOf answers [] calls) ∧
      (response.result.isSuccess = true ↔
        ∀ code ∈ codesOf answers [] calls, code.isSuccess = true)) := by
  obtain ⟨invalid, valid⟩ := demands_of_sensorCommands whole row listed asks
  refine ⟨invalid, fun success => ?_⟩
  obtain ⟨response, reply, result⟩ := valid success
  exact ⟨response, reply, result, by rw [result, isSuccess_decisive_iff]⟩

end Demanding

/-- A device layer whose sensors do not take fusion parameters, but all else. -/
def inflexible : Answerer := fun _ c => match c with
  | .sixAxis (.setFusionParameters ..) => (.int 7 : ResultCode)
  | c => Device.Simulated.answer [] c

/-- A request of a client to reset the fusion of the first sensor. -/
def resettingFusion : Post :=
  ⟨0, { opcode := 72, parameters := [3, 0, 0, 0, 0, 0, 0, 0] ++ Wire.LittleEndian.bytesOfInt 8 7 },
    ⟨"session", 0⟩, answering inflexible⟩

/-- The parameters are not taken, fusion is switched on all the same, and the failure is told. -/
theorem sensors_exact_inflexible :
    ∃ row ∈ sensorCommands (start .initial).config.fusionDefaults,
      resettingFusion.Asks row.opcode row.shape.layout.size inflexible ∧ WholeData inflexible ∧
      ∃ response, (start .initial).reply resettingFusion = some (.reply response,
        [.sixAxis (.setFusionParameters ⟨3, 0, 0⟩ (start .initial).config.fusionDefaults),
          .sixAxis (.setFusionEnabled ⟨3, 0, 0⟩ true)]) ∧ response.result = .int 7 := by
  have whole : WholeData inflexible :=
    ⟨fun _ _ _ => ⟨_, rfl, List.length_replicate⟩, fun _ _ _ => ⟨_, rfl, List.length_replicate⟩⟩
  have listed : _ ∈ sensorCommands (start .initial).config.fusionDefaults :=
    List.mem_of_getElem? (i := 6) rfl
  have asks : resettingFusion.Asks 72 Shape.handleAruid.layout.size inflexible :=
    ⟨rfl, rfl, rfl, rfl, rfl⟩
  obtain ⟨-, valid⟩ := sensors_exact (start .initial) listed asks whole
  obtain ⟨response, reply, result, -⟩ := valid rfl
  exact ⟨_, listed, asks, whole, response, reply, result⟩

end Hid.Service
