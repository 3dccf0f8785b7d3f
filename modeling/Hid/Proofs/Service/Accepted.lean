import Mathlib.Data.List.Induction
import Hid.Proofs.Service.Change
import Hid.Proofs.Service.Confinement

/-!
The ids that a service accepts, over whole runs. Only one kind of post changes them, and what it
changes them to can be told from it alone (`controllers_after`), so that after any posts they are
those of the last post that had ids accepted (`controllers_serve`). Whatever checks a vibration
handle later on checks it with these: the five commands that do (`Examines`) and the activations in
lists (`attend_activation`).

* `accepted_exact`: the accepted ids after any posts, and what they decide.
-/

namespace Hid.Service

open Activation (Registry)
open Commands (Search askMotor findMotor)
open Device (Call Report)
open Dispatch (Definition Outcome Reply Response Table)
open Wire (Layout)

/-! ### What posts have accepted -/

/-- The ids accepted after posts to a new service, told from the posts alone: those of the last
post that had ids accepted, without later repeats. -/
def accepted (posts : List Post) : List Quantity :=
  match (posts.filterMap Post.accepted?).getLast? with
  | some ids => (ids.map Quantity.int).eraseDups
  | none => Controllers.definedIds

section Runs

variable {s : Service} {p : Post}

theorem attend_accepted {ids : List Int} (accepted : p.accepted? = some ids) :
    ∃ (code : ResultCode) (a : Answered), s.attend p = some a ∧ code.isSuccess = true ∧
      a.outcome = .reply { result := code } ∧ a.calls = [.npad (.setIds p.aruid ids)] ∧
      a.service.state = { s.state with controllers := .ofList (ids.map .int) } := by
  obtain ⟨sets, defined, rfl, code, answered, success⟩ := accepted?_eq_some_iff.mp accepted
  exact ⟨code, _, attend_defined sets defined answered, success, rfl, rfl, if_pos success⟩

theorem controllers_after_of_accepted {ids : List Int} (accepted : p.accepted? = some ids) :
    (s.after p).state.controllers.supported = (ids.map Quantity.int).eraseDups := by
  obtain ⟨code, a, answered, -, -, -, state⟩ := attend_accepted (s := s) accepted
  rw [after_of_attend answered, state, Controllers.ofList_int]
  exact distinct_eq_eraseDups _

/-- There is no other way to change the accepted ids. -/
theorem controllers_after_of_none (none : p.accepted? = none) :
    (s.after p).state.controllers = s.state.controllers := by
  cases answered : s.attend p with
  | none => rw [after, answered, Option.map_none, Option.getD_none]
  | some a =>
      rw [after_of_attend answered]
      cases changed answered with
      | nothing same => rw [same]
      | resource _ _ _ state => rw [state]; rfl
      | list _ _ _ state => rw [state]; rfl
      | ids other => rw [none] at other; cases other
      | activation _ _ state => rw [state]; rfl

theorem accepted_append (posts : List Post) (p : Post) :
    accepted (posts ++ [p]) = match p.accepted? with
      | some ids => (ids.map Quantity.int).eraseDups
      | none => accepted posts := by
  rw [accepted, List.filterMap_append]
  cases last : p.accepted? with
  | none => simp [last, accepted]
  | some ids => simp [last]

end Runs

theorem controllers_serve (config : Config) (deviceManaged : Option Bool) (posts : List Post) :
    ((start config deviceManaged).serve posts).state.controllers = ⟨accepted posts⟩ := by
  suffices supported : ((start config deviceManaged).serve posts).state.controllers.supported =
      accepted posts from congrArg Controllers.mk supported
  -- The last post decides, so that the run is taken apart from its end.
  induction posts using List.reverseRecOn with
  | nil => rfl
  | append_singleton posts p ih =>
      rw [serve_append, accepted_append, serve_cons]
      change ((Service.serve _ posts).after p).state.controllers.supported = _
      cases last : p.accepted? with
      | none => rw [controllers_after_of_none last, ih]
      | some ids => exact controllers_after_of_accepted last

/-- Accepted ids are defined, and there are no repeats among them. -/
theorem accepted_sound (posts : List Post) :
    (∀ id ∈ accepted posts, isNpadIdValid id = true) ∧ (accepted posts).Nodup := by
  induction posts using List.reverseRecOn with
  | nil =>
      constructor
      · intro id found
        exact isNpadIdValid_of_mem found
      · decide
  | append_singleton posts p ih =>
      rw [accepted_append]
      cases last : p.accepted? with
      | none => exact ih
      | some ids =>
          obtain ⟨-, defined, rfl, -⟩ := accepted?_eq_some_iff.mp last
          dsimp only
          rw [← distinct_eq_eraseDups]
          refine ⟨?_, nodup_distinct _⟩
          intro id found
          obtain ⟨word, among, rfl⟩ := List.mem_map.mp (mem_distinct.mp found)
          exact defined word among

/-! ### Commands that check a handle -/

/-- The device layer says that the client is active. -/
def Post.Active (p : Post) (aruid : Int) : Prop :=
  ∃ report : Report Bool, p.device [] (.vibration (.isAruidActive aruid)) = .ok report ∧
    report.result.isSuccess = true ∧ report.value = some true

/-- A request to the service that gets as far as checking a vibration handle: the handle, what has
been called by then, what is called next if the handle is valid, and the reply if it is not. -/
inductive Examines (p : Post) :
    DeviceHandle → List Call → Call → (ResultCode → Response) → Prop where
  | value {q : HandleAruid} (opcode : p.request.opcode = 202)
      (decoded : Layout.handleAruid.decode p.request.parameters = .ok q)
      (active : p.Active q.aruid) :
      Examines p q.handle [.vibration (.isAruidActive q.aruid)]
        (.vibration (.find .standard q.handle))
        fun _ => { result := .success,
                   output := [0, 0, 0, 0, 0, 0, 0x20, 0x43, 0, 0, 0, 0, 0, 0, 0xa0, 0x43] }
  | sendGcErm {q : HandleAruidWord} (opcode : p.request.opcode = 207)
      (decoded : Layout.gcErmAruid.decode p.request.parameters = .ok q)
      (active : p.Active q.aruid) :
      Examines p q.handle [.vibration (.isAruidActive q.aruid)] (.vibration (.find .gc q.handle))
        fun code => { result := code }
  | gcErm {q : HandleAruid} (opcode : p.request.opcode = 208)
      (decoded : Layout.handleAruid.decode p.request.parameters = .ok q)
      (active : p.Active q.aruid) :
      Examines p q.handle [.vibration (.isAruidActive q.aruid)] (.vibration (.find .gc q.handle))
        fun _ => { result := .success, output := List.replicate 8 0 }
  | mounted {q : HandleAruid} (opcode : p.request.opcode = 211)
      (decoded : Layout.handleAruid.decode p.request.parameters = .ok q) :
      Examines p q.handle [] (.vibration (.find .any q.handle))
        fun code => { result := code, output := List.replicate 4 0 }
  | sendBool {q : HandleAruidFlag} (opcode : p.request.opcode = 212)
      (decoded : Layout.handleAruidFlag.decode p.request.parameters = .ok q)
      (active : p.Active q.aruid) :
      Examines p q.handle [.vibration (.isAruidActive q.aruid)] (.vibration (.find .n64 q.handle))
        fun code => { result := code }

/-- What a request comes to that checks a handle and gets the code. If the handle is invalid the
client gets a reply that says so, or the one for a motor at rest, and nothing more is called. -/
def Checks (s : Service) (p : Post) (code : ResultCode) (before : List Call) (next : Call)
    (refusal : ResultCode → Response) : Prop :=
  ∃ a, s.attend p = some a ∧
    (code.isSuccess = false → a.outcome = .reply (refusal code) ∧ a.calls = before) ∧
    (code.isSuccess = true → before ++ [next] <+: a.calls)

section Searches

variable {s : Service} {p : Post} {d : Definition Program} {parameters : d.Parameters}

/-- A command that looks for a motor checks the handle before it does. -/
theorem checks_of_search (target : p.target = 0) (handles : p.request.handles = [])
    (entry : (mainTable s.config).lookup? p.request.opcode = some (.implemented d))
    (count : d.handleCount = 0)
    (decoded : d.parameters.decode p.request.parameters = .ok parameters)
    {view : Device.MotorView} {aruid : Int} {h : DeviceHandle}
    {k : Search → Handler (Reply d.Output)} (active : p.Active aruid)
    (searches : d.handler ⟨p.request.opcode.plain, d.name, parameters, p.session, p.request⟩ =
      findMotor view aruid h >>= k) {refusal : ResultCode → Response}
    (refused : ∀ code, ∃ reply, k ⟨code, false⟩ = pure reply ∧
      d.conclude p.request.opcode.plain (.ok reply) = .reply (refusal code)) :
    s.Checks p (validateVibrationHandle h s.state.controllers) [.vibration (.isAruidActive aruid)]
      (.vibration (.find view h)) refusal := by
  obtain ⟨report, answered, success, yes⟩ := active
  obtain ⟨invalid, valid⟩ := Commands.findMotor_ran (s := s.state) view h answered success yes
  refine ⟨_, attend_of_handleless target handles entry count decoded, ?_, ?_⟩
  · intro refuses
    obtain ⟨reply, last, concluded⟩ := refused (validateVibrationHandle h s.state.controllers)
    have ran := invalid refuses
    rw [carryOut]
    dsimp only
    rw [searches, Handler.ran_bind_ok (by rw [ran]), ran, last]
    exact ⟨concluded, rfl⟩
  · intro passes
    have ran := valid passes
    have first := Handler.calls_bind p.device [] s.state (findMotor view aruid h) k
    rw [ran] at first
    rw [carryOut]
    dsimp only
    rw [searches]
    exact first

/-- The one that asks for no client checks the handle first of all. -/
theorem checks_of_mounted (target : p.target = 0) (handles : p.request.handles = [])
    (opcode : p.request.opcode = 211) {q : HandleAruid}
    (decoded : Layout.handleAruid.decode p.request.parameters = .ok q) :
    s.Checks p (validateVibrationHandle q.handle s.state.controllers) []
      (.vibration (.find .any q.handle))
      fun code => { result := code, output := List.replicate 4 0 } := by
  have entry : (mainTable s.config).lookup? p.request.opcode = some (replied
      "IsVibrationDeviceMounted" .handleAruid .flagWord fun p => do
        let code := validateVibrationHandle p.handle (← Handler.state).controllers
        let mounted ← if code.isSuccess then Commands.isMounted p.handle else pure false
        return { result := code, output := some mounted }) := by
    rw [opcode]; rfl
  refine ⟨_, attend_of_handleless target handles entry rfl decoded, ?_, ?_⟩
  · intro refuses
    rw [carryOut]
    dsimp only
    rw [Handler.ran_state_bind, if_neg (by rw [refuses]; decide)]
    exact ⟨rfl, rfl⟩
  · intro passes
    rw [carryOut]
    dsimp only
    rw [Handler.ran_state_bind, if_pos passes]
    refine List.IsPrefix.trans ?_ (Handler.calls_bind _ _ _ (Commands.isMounted q.handle) _)
    exact Handler.calls_bind _ _ _ (Handler.ask (.vibration (.find .any q.handle))) _

/-- Every command that checks a handle checks it with the accepted controllers. -/
theorem checks_of_examines (target : p.target = 0) (handles : p.request.handles = [])
    {h : DeviceHandle} {before : List Call} {next : Call} {refusal : ResultCode → Response}
    (examines : Examines p h before next refusal) :
    s.Checks p (validateVibrationHandle h s.state.controllers) before next refusal := by
  cases examines with
  | value opcode decoded active =>
      have entry : (mainTable s.config).lookup? p.request.opcode = some (replied
          "GetActualVibrationValue" .handleAruid .vibrationValue fun p =>
            return { result := .success, output := ← Commands.actualValue p.aruid p.handle }) := by
        rw [opcode]; rfl
      exact checks_of_search target handles entry rfl decoded active (bind_assoc ..)
        fun code => ⟨_, rfl, rfl⟩
  | sendGcErm opcode decoded active =>
      have entry : (mainTable s.config).lookup? p.request.opcode = some (coded
          "SendVibrationGcErmCommand" .gcErmAruid fun p => do
            let search ← findMotor .gc p.aruid p.handle
            if search.found then Handler.ask (.motor (.sendGcErm (Number.nearestInteger p.value)))
            else return search.result) := by
        rw [opcode]; rfl
      exact checks_of_search target handles entry rfl decoded active (bind_assoc ..)
        fun code => ⟨_, rfl, rfl⟩
  | gcErm opcode decoded active =>
      have entry : (mainTable s.config).lookup? p.request.opcode = some (replied
          "GetActualVibrationGcErmCommand" .handleAruid .word64 fun p =>
            return { result := .success,
                     output := some (← Commands.actualGcErm p.aruid p.handle) }) := by
        rw [opcode]; rfl
      exact checks_of_search target handles entry rfl decoded active (bind_assoc ..)
        fun code => ⟨_, rfl, rfl⟩
  | mounted opcode decoded => exact checks_of_mounted target handles opcode decoded
  | sendBool opcode decoded active =>
      have entry : (mainTable s.config).lookup? p.request.opcode = some (coded
          "SendVibrationValueInBool" .handleAruidFlag fun p => do
            let search ← findMotor .n64 p.aruid p.handle
            if search.found then Handler.ask (.motor (.sendBool p.isVibrating))
            else return search.result) := by
        rw [opcode]; rfl
      exact checks_of_search target handles entry rfl decoded active (bind_assoc ..)
        fun code => ⟨_, rfl, rfl⟩

end Searches

/-- **The accepted controllers over whole runs.** A new service accepts the ten defined ids. After
any posts, to whatever targets and however the device layer answers,

* the accepted ids are those of the last post that had ids accepted, without later repeats and in
  their order; all of them are defined, and none is there twice;
* a post that has ids accepted, which only a request to set them can (`Post.accepted?`), has told
  the device layer all ids as they came, and replies with success;
* any other post leaves them as they are, and a request to set ids of which one is undefined is
  refused before anything is called;
* whatever checks a vibration handle, the commands as well as the activations in lists, checks it
  with these ids. -/
theorem accepted_exact (config : Config) (deviceManaged : Option Bool) :
    (start config deviceManaged).state.controllers.supported =
      [0, 1, 2, 3, 4, 5, 6, 7, 0x10, 0x20].map Quantity.int ∧
    ∀ posts, let s := (start config deviceManaged).serve posts
      s.state.controllers = ⟨accepted posts⟩ ∧
      (∀ id ∈ accepted posts, isNpadIdValid id = true) ∧ (accepted posts).Nodup ∧
      (∀ p ids, p.accepted? = some ids →
        accepted (posts ++ [p]) = (ids.map Quantity.int).eraseDups ∧
        ∃ (code : ResultCode) (a : Answered), s.attend p = some a ∧ code.isSuccess = true ∧
          a.outcome = .reply { result := code } ∧ a.calls = [.npad (.setIds p.aruid ids)]) ∧
      (∀ p, p.accepted? = none → accepted (posts ++ [p]) = accepted posts) ∧
      (∀ p, p.SetsIds → ¬ p.NamesDefined →
        ∃ a, s.attend p = some a ∧ a.outcome = .reply { result := .invalidNpadId } ∧
          a.calls = [] ∧ a.service.state = s.state) ∧
      (∀ p h before next refusal, p.target = 0 → p.request.handles = [] →
        Examines p h before next refusal →
        s.Checks p (validateVibrationHandle h ⟨accepted posts⟩) before next refusal) ∧
      (∀ p position r h, p.target = position + 1 →
        s.state.interfaces[position]? = some (.deviceList r) → p.request.opcode.plain = 0 →
        p.request.handles = [] → Layout.deviceHandle.decode p.request.parameters = .ok h →
        let code := validateVibrationHandle h ⟨accepted posts⟩
        let asked := askMotor p.device [] h
        ∃ a, s.attend p = some a ∧ a.outcome = activated (r.activate code h asked.1).2 ∧
          a.service.state = s.state.setRegistry position (r.activate code h asked.1).1 ∧
          a.calls = if r.consider code h = .askDevice then asked.2 else []) := by
  refine ⟨rfl, ?_⟩
  intro posts
  have controllers := controllers_serve config deviceManaged posts
  obtain ⟨defined, once⟩ := accepted_sound posts
  refine ⟨controllers, defined, once, ?_, ?_, ?_, ?_, ?_⟩
  · intro p ids accepts
    obtain ⟨code, a, answered, success, outcome, calls, -⟩ := attend_accepted accepts
    refine ⟨?_, code, a, answered, success, outcome, calls⟩
    rw [accepted_append, accepts]
  · intro p none
    rw [accepted_append, none]
  · intro p sets undefined
    exact ⟨_, attend_undefined sets undefined, rfl, rfl, rfl⟩
  · intro p h before next refusal target handles examines
    rw [← controllers]
    exact checks_of_examines target handles examines
  · intro p position r h target object opcode handles decoded
    rw [← controllers]
    exact ⟨_, attend_activation target object opcode handles decoded, rfl, rfl, rfl⟩

/-- A device layer that takes any ids and on whose word no client is active. -/
def taking : Device := fun _ c => match c with
  | .npad (.setIds ..) => .ok .success
  | _ => .error (.raised "off")

/-- A request of a client to set the accepted ids to those in a buffer. -/
def setting (buffer : Wire.Bytes) : Post :=
  ⟨0, { opcode := 102, parameters := Wire.LittleEndian.bytesOfInt 8 7, buffers := [buffer] },
    ⟨"session", 0⟩, taking⟩

/-- After a list with repeats and then one with an undefined id, the former is in force, and a
motor of a controller that it leaves out is not looked for. -/
theorem accepted_exact_narrowed :
    let posts := [setting [1, 0, 0, 0, 0, 0, 0, 0, 1, 0, 0, 0], setting [2, 0, 0, 0, 99, 0, 0, 0]]
    let mounted : Post := ⟨0, { opcode := 211, parameters := [3, 2, 0] ++ List.replicate 13 0 },
      ⟨"session", 0⟩, taking⟩
    ((start .initial).serve posts).state.controllers = ⟨[.int 1, .int 0]⟩ ∧
      ∃ a, ((start .initial).serve posts).attend mounted = some a ∧ a.calls = [] ∧
        a.outcome = .reply { result := .vibrationInvalidNpadId, output := [0, 0, 0, 0] } := by
  intro posts mounted
  obtain ⟨-, run⟩ := accepted_exact .initial none
  obtain ⟨controllers, -, -, -, -, -, checks, -⟩ := run posts
  have ids : accepted posts = [.int 1, .int 0] := by decide
  rw [ids] at controllers checks
  have decoded : Layout.handleAruid.decode mounted.request.parameters =
      .ok ⟨⟨.int 3, .int 2, .int 0⟩, 0⟩ := rfl
  obtain ⟨a, answered, invalid, -⟩ := checks mounted _ _ _ _ rfl rfl (.mounted rfl decoded)
  obtain ⟨outcome, calls⟩ := invalid (by decide)
  refine ⟨controllers, a, answered, calls, ?_⟩
  rw [outcome]
  decide

end Hid.Service
