import Hid.Device.Simulated
import Hid.Proofs.Commands.Managed
import Hid.Proofs.Number.Nearest
import Hid.Proofs.Service.Motors

/-!
Words that are handed on as numbers. Five commands get a word of the client and call a device with
it (`WordCommand`). A device takes it as a double, and only two of the commands look at the word
before.

* `words_exact`: for any request, the number that is handed on, and when it is the word.
* `words_despite_rounding`: two words that a device cannot tell apart.
-/

namespace Hid.Service

open Commands (Sought demand_eq_ok_iff)
open Device (Call MotorView)
open Dispatch (Context Definition)
open Handler (mem_calls_attempt mem_calls_bind)
open Number (IsShort nearestInteger)
open Wire (Bytes Shape handleAt numberAt)

/-- The commands that hand on a word of the client as a number. -/
inductive WordCommand where
  | holdType | mode | handheldMode | modeElsewhere | gcErm
  deriving DecidableEq, Repr

namespace WordCommand

def opcode : WordCommand → Int
  | holdType => 120
  | mode => 123
  | handheldMode => 128
  | modeElsewhere => 133
  | gcErm => 207

/-- The parameter block. -/
def shape : WordCommand → Shape
  | holdType | handheldMode => .aruidWord
  | mode | modeElsewhere => .idAruidWord
  | gcErm => .gcErmAruid

/-- Where the word stands, at the end of the block. -/
def offset : WordCommand → Nat
  | holdType | handheldMode => 8
  | mode | modeElsewhere | gcErm => 16

def word (w : WordCommand) (block : Bytes) : Int := numberAt w.offset 8 block

/-- The call in which a number is handed on. -/
def call (w : WordCommand) (block : Bytes) (number : Int) : Call :=
  match w with
  | holdType => .npad (.setHoldType (numberAt 0 8 block) number)
  | mode | modeElsewhere =>
      .npad (.setMode (numberAt 8 8 block) (numberAt 0 4 block) number .single)
  | handheldMode => .npad (.setHandheldMode (numberAt 0 8 block) number)
  | gcErm => .motor (.sendGcErm number)

/-- The call is one in which the command hands on a number. -/
def isHandingOn : WordCommand → Call → Bool
  | holdType, .npad (.setHoldType ..) => true
  | mode, .npad (.setMode ..) => true
  | handheldMode, .npad (.setHandheldMode ..) => true
  | modeElsewhere, .npad (.setMode ..) => true
  | gcErm, .motor (.sendGcErm _) => true
  | _, _ => false

/-- The words that the command takes. -/
def Takes : WordCommand → Int → Prop
  | holdType, word => word ∈ JoyHoldType.all.map (·.value)
  | handheldMode, word => word < HandheldActivationMode.limit
  | mode, _ | modeElsewhere, _ | gcErm, _ => True

/-- The command does not take every word. -/
def IsParticular (w : WordCommand) : Prop := w = holdType ∨ w = handheldMode

/-- The motor that a word is for. -/
def sought (block : Bytes) : Sought := ⟨.gc, numberAt 8 8 block, handleAt 0 block⟩

/-- The command gets as far as handing on the word. Only one has to look for a motor. -/
structure Goes (w : WordCommand) (block : Bytes) (answers : Answerer) (s : State) : Prop where
  takes : w.Takes (w.word block)
  reached : w = gcErm → (sought block).Reached answers s

theorem word_nonneg (w : WordCommand) (block : Bytes) : 0 ≤ w.word block :=
  Int.natCast_nonneg _

/-- A word that a particular command takes is small. -/
theorem nearestInteger_of_takes {w : WordCommand} (particular : w.IsParticular) {block : Bytes}
    (takes : w.Takes (w.word block)) : nearestInteger (w.word block) = w.word block := by
  have nonneg := w.word_nonneg block
  suffices small : w.word block < 3 from
    Number.nearestInteger_of_lt (Nat.lt_of_lt_of_le (m := 3) (by omega) (by decide))
  rcases particular with rfl | rfl
  · rcases List.mem_pair.mp takes with zero | one
    · rw [zero]
      decide
    · rw [one]
      decide
  · exact takes

/-- What stands before the word decides about the call with a number. -/
theorem call_congr (w : WordCommand) {block other : Bytes}
    (same : block.take w.offset = other.take w.offset) : w.call block = w.call other := by
  have number {offset width : Nat} (inside : offset + width ≤ w.offset) :
      numberAt offset width block = numberAt offset width other := by
    rw [← Wire.numberAt_take inside block, same, Wire.numberAt_take inside]
  cases w with
  | holdType | handheldMode =>
      funext n
      rw [call, call, number (by decide)]
  | mode | modeElsewhere =>
      funext n
      rw [call, call, number (by decide), number (by decide)]
  | gcErm => rfl

theorem call_injective (w : WordCommand) (block : Bytes) : (w.call block).Injective := by
  intro n m same
  cases w <;> cases same <;> rfl

theorem isHandingOn_call (w : WordCommand) (block : Bytes) (number : Int) :
    w.isHandingOn (w.call block number) = true := by
  cases w <;> rfl

end WordCommand

section Words

variable {s : Service} {p : Post} {device : Device} {past : List Call} {state : State}

/-! ### Handlers -/

theorem mem_setHoldType {c : Context AruidWord} {made : Call}
    (called : made ∈ ((Commands.setHoldType c).ran device past state).calls) :
    made = .npad (.setHoldType c.parameters.aruid (nearestInteger c.parameters.value)) ∧
      c.parameters.value ∈ JoyHoldType.all.map (·.value) := by
  obtain ⟨_, known, asked⟩ := mem_calls_attempt called
  exact ⟨List.mem_singleton.mp asked, List.contains_iff_mem.mp (demand_eq_ok_iff.mp known)⟩

theorem mem_setHandheldMode {c : Context AruidWord} {made : Call}
    (called : made ∈ ((Commands.setHandheldMode c).ran device past state).calls) :
    made = .npad (.setHandheldMode c.parameters.aruid (nearestInteger c.parameters.value)) ∧
      c.parameters.value < HandheldActivationMode.limit := by
  obtain ⟨_, known, asked⟩ := mem_calls_attempt called
  exact ⟨List.mem_singleton.mp asked, of_decide_eq_true (demand_eq_ok_iff.mp known)⟩

theorem setHoldType_ran {c : Context AruidWord}
    (known : c.parameters.value ∈ JoyHoldType.all.map (·.value)) :
    let asked : Call := .npad (.setHoldType c.parameters.aruid (nearestInteger c.parameters.value))
    (Commands.setHoldType c).ran device past state = ⟨device past asked, state, [asked]⟩ := by
  rw [Commands.setHoldType,
    Handler.ran_attempt_ok (demand_eq_ok_iff.mpr (List.contains_iff_mem.mpr known))]
  rfl

theorem setHandheldMode_ran {c : Context AruidWord}
    (inRange : c.parameters.value < HandheldActivationMode.limit) :
    let asked : Call :=
      .npad (.setHandheldMode c.parameters.aruid (nearestInteger c.parameters.value))
    (Commands.setHandheldMode c).ran device past state = ⟨device past asked, state, [asked]⟩ := by
  rw [Commands.setHandheldMode,
    Handler.ran_attempt_ok (demand_eq_ok_iff.mpr (decide_eq_true inRange))]
  rfl

/-- The search for a motor sends no command to one. -/
theorem confined_findMotor (view : MotorView) (aruid : Int) (h : DeviceHandle) :
    Handler.Confined (fun c => WordCommand.gcErm.isHandingOn c = false)
      (Commands.findMotor view aruid h) := by
  have limited : Handler.Limited (fun c => WordCommand.gcErm.isHandingOn c = false) (fun _ => True)
      (Commands.findMotor view aruid h) := by
    refine .bind (.ask rfl) fun active => .ite (.pure _) (.bind .state fun s => ?_)
    exact .ite (.pure _) (.bind (.ask rfl) fun found => .pure _)
  exact limited.confined

/-- What is sent after a search is sent to the motor that it is for. -/
theorem mem_of_search {view : MotorView} {aruid : Int} {h : DeviceHandle} {number : Int}
    {made : Call}
    (called : made ∈ (Handler.ran (do
      let search ← Commands.findMotor view aruid h
      if search.found then Handler.ask (.motor (.sendGcErm number))
      else return search.result) device past state).calls)
    (on : WordCommand.gcErm.isHandingOn made = true) : made = .motor (.sendGcErm number) := by
  rcases mem_calls_bind called with searching | ⟨search, -, further⟩
  · rw [confined_findMotor _ _ _ _ _ _ made searching] at on
    cases on
  · split at further
    · exact List.mem_singleton.mp further
    · cases further

/-! ### Requests -/

/-- A request is for a command that hands on a word. -/
structure Post.Carries (p : Post) (w : WordCommand) : Prop where
  target : p.target = 0
  opcode : p.request.opcode = .int w.opcode

/-- The calls hand on no other number than the one nearest to the word, and only for a word that the
command takes. -/
def WordCommand.HandsOn (w : WordCommand) (block : Bytes) (calls : List Call) : Prop :=
  ∀ c ∈ calls, w.isHandingOn c = true →
    c = w.call block (nearestInteger (w.word block)) ∧ w.Takes (w.word block)

theorem lookup_setHoldType (config : Config) : (mainTable config).lookup? (.int 120) =
    some (contextual "SetNpadJoyHoldType" Shape.aruidWord.layout 0 Commands.setHoldType) := rfl

theorem lookup_setHandheldMode (config : Config) : (mainTable config).lookup? (.int 128) =
    some (contextual "SetNpadHandheldActivationMode" Shape.aruidWord.layout 0
      Commands.setHandheldMode) := rfl

/-- A request is handed on as the handler of its command hands it on, if it runs. -/
theorem handsOn_of_runs {w : WordCommand} (carries : p.Carries w) {d : Definition Program}
    (entry : (mainTable s.config).lookup? (.int w.opcode) = some (.implemented d))
    (runs : ∀ q, d.parameters.decode p.request.parameters = .ok q →
      let ran := Handler.ran (d.handler ⟨p.request.opcode.plain, d.name, q, p.session, p.request⟩)
        p.device [] s.state
      w.HandsOn p.request.parameters ran.calls) :
    ∃ outcome calls, s.reply p = some (outcome, calls) ∧ w.HandsOn p.request.parameters calls := by
  have found : s.table? p.target = some (mainTable s.config) := by rw [carries.target]; rfl
  rw [← carries.opcode] at entry
  rcases Dispatch.Table.settles_or_decoded p.session (s.stats p.target) entry with
    ⟨outcome, settles, -⟩ | ⟨q, -, decoded, ran⟩
  · exact ⟨_, _, reply_of_attend (attend_of_settles found settles),
      fun c none => absurd none List.not_mem_nil⟩
  · exact ⟨_, _, reply_of_attend (attend_of_runs found ran), runs q decoded⟩

/-- Whatever the device layer answers, each command hands on the number nearest to its word. -/
theorem handsOn {w : WordCommand} (carries : p.Carries w) :
    ∃ outcome calls, s.reply p = some (outcome, calls) ∧ w.HandsOn p.request.parameters calls := by
  cases w with
  | holdType =>
      refine handsOn_of_runs carries (lookup_setHoldType s.config) fun q decoded c made _ => ?_
      obtain rfl := Shape.eq_places_of_decode (s := .aruidWord) decoded
      dsimp only at made
      rw [Handler.ran_bind_pure] at made
      exact mem_setHoldType made
  | mode =>
      have entry : (mainTable s.config).lookup? (.int 123) = some (performed
        "SetNpadJoyAssignmentModeSingle" Shape.idAruidWord.layout fun q => do
          let _ ← Handler.ask (.npad (.setMode q.aruid q.npadId (nearestInteger q.value) .single))
          return ()) := rfl
      refine handsOn_of_runs carries entry fun q decoded c made _ => ?_
      obtain rfl := Shape.eq_places_of_decode (s := .idAruidWord) decoded
      dsimp only at made
      rw [Handler.ran_bind_pure, Handler.ran_bind_pure, Handler.ran_bind_pure] at made
      exact ⟨List.mem_singleton.mp made, trivial⟩
  | handheldMode =>
      refine handsOn_of_runs carries (lookup_setHandheldMode s.config) fun q decoded c made _ => ?_
      obtain rfl := Shape.eq_places_of_decode (s := .aruidWord) decoded
      dsimp only at made
      rw [Handler.ran_bind_pure] at made
      exact mem_setHandheldMode made
  | modeElsewhere =>
      have entry : (mainTable s.config).lookup? (.int 133) = some (replied
        "SetNpadJoyAssignmentModeSingleWithDestination" Shape.idAruidWord.layout
        Shape.npadModeChange.layout fun q => do
          let change ← Handler.ask
            (.npad (.setMode q.aruid q.npadId (nearestInteger q.value) .single))
          return { result := .success, output := some change }) := rfl
      refine handsOn_of_runs carries entry fun q decoded c made _ => ?_
      obtain rfl := Shape.eq_places_of_decode (s := .idAruidWord) decoded
      dsimp only at made
      rw [Handler.ran_bind_pure] at made
      exact ⟨List.mem_singleton.mp made, trivial⟩
  | gcErm =>
      refine handsOn_of_runs carries (lookup_sendGcErm s.config) fun q decoded c made on => ?_
      obtain rfl := Shape.eq_places_of_decode (s := .gcErmAruid) decoded
      dsimp only at made
      rw [Handler.ran_bind_pure] at made
      exact ⟨mem_of_search made on, trivial⟩

/-- A command is handed on to the motor that is sought for it, if that is reached. -/
theorem gcErm_mem_iff {answers : Answerer}
    (asks : p.Asks 207 Shape.gcErmAruid.layout.size answers) :
    let number := nearestInteger (WordCommand.gcErm.word p.request.parameters)
    ∃ outcome calls, s.reply p = some (outcome, calls) ∧
      (.motor (.sendGcErm number) ∈ calls ↔
        (WordCommand.sought p.request.parameters).Reached answers s.state) := by
  intro number
  obtain ⟨search, calls, ends, reply⟩ :=
    reply_of_setter (WordCommand.sought p.request.parameters) asks (lookup_sendGcErm s.config)
      (Shape.gcErmAruid.decode_places asks.whole) rfl
      (Handler.ran_ask (.motor (.sendGcErm number)))
  obtain ⟨-, -, -, method_iff⟩ := ends.calls (.sendGcErm number)
  exact ⟨_, _, reply, method_iff⟩

/-- A word that the command takes is handed on. -/
theorem mem_of_takes {w : WordCommand} (still : w ≠ .gcErm) {answers : Answerer}
    (asks : p.Asks w.opcode w.shape.layout.size answers)
    (takes : w.Takes (w.word p.request.parameters)) :
    ∃ outcome calls, s.reply p = some (outcome, calls) ∧
      w.call p.request.parameters (nearestInteger (w.word p.request.parameters)) ∈ calls := by
  have decoded := w.shape.decode_places asks.whole
  cases w with
  | holdType =>
      refine ⟨_, _, reply_of_asks asks (lookup_setHoldType s.config) rfl decoded
        (Handler.ran_bind_pure_ok (setHoldType_ran ?_) _), List.mem_singleton_self _⟩
      exact takes
  | handheldMode =>
      refine ⟨_, _, reply_of_asks asks (lookup_setHandheldMode s.config) rfl decoded
        (Handler.ran_bind_pure_ok (setHandheldMode_ran ?_) _), List.mem_singleton_self _⟩
      exact takes
  | mode => exact ⟨_, _, reply_of_asks asks rfl rfl decoded rfl, List.mem_singleton_self _⟩
  | modeElsewhere => exact ⟨_, _, reply_of_asks asks rfl rfl decoded rfl, List.mem_singleton_self _⟩
  | gcErm => exact absurd rfl still

end Words

/-- **Words that are handed on.** For any request for one of the five commands, whatever the device
layer answers,

* the only number that is handed on is the double nearest to the word (`nearestInteger`);
* it is the word for the two commands that do not take every word, as those that they take are
  small, and for the three others if and only if the bits of the word fit into the significand of a
  double (`IsShort`);
* if the block has its size, there are no handles and the device layer does not fail, the number is
  handed on if and only if the command takes the word and, where it has to look for a motor, has
  reached it;
* of two requests that differ in the word, the calls that hand it on are the same if and only if the
  words have the same nearest double. -/
theorem words_exact (s : Service) {w : WordCommand} {p : Post} (carries : p.Carries w) :
    let block := p.request.parameters
    let word := w.word block
    ∃ outcome calls, s.reply p = some (outcome, calls) ∧
      (∀ c ∈ calls, w.isHandingOn c = true → c = w.call block (nearestInteger word) ∧
        (w.IsParticular → nearestInteger word = word)) ∧
      (nearestInteger word = word ↔ IsShort word) ∧
      (∀ answers, p.Asks w.opcode w.shape.layout.size answers →
        (w.call block (nearestInteger word) ∈ calls ↔ w.Goes block answers s.state)) ∧
      ∀ q outcome' calls', q.Carries w → s.reply q = some (outcome', calls') →
        q.request.parameters.take w.offset = block.take w.offset →
        ∀ c ∈ calls, ∀ c' ∈ calls', w.isHandingOn c = true → w.isHandingOn c' = true →
          (c = c' ↔ nearestInteger word = nearestInteger (w.word q.request.parameters)) := by
  intro block word
  obtain ⟨outcome, calls, reply, only⟩ := handsOn (s := s) carries
  refine ⟨outcome, calls, reply, ?number, Number.nearestInteger_eq_iff word, ?goes, ?apart⟩
  case number =>
    intro c made on
    obtain ⟨call, takes⟩ := only c made on
    exact ⟨call, fun particular => w.nearestInteger_of_takes particular takes⟩
  case goes =>
    intro answers asks
    rcases eq_or_ne w .gcErm with rfl | still
    · obtain ⟨_, _, again, reached_iff⟩ := gcErm_mem_iff (s := s) asks
      cases reply.symm.trans again
      exact reached_iff.trans
        ⟨fun reached => ⟨trivial, fun _ => reached⟩, fun goes => goes.reached rfl⟩
    · constructor
      · intro made
        exact ⟨(only _ made (w.isHandingOn_call _ _)).2, fun motor => absurd motor still⟩
      · intro goes
        obtain ⟨_, _, again, made⟩ := mem_of_takes (s := s) still asks goes.takes
        cases reply.symm.trans again
        exact made
  case apart =>
    intro q outcome' calls' others further alike c made c' made' on on'
    obtain ⟨_, _, again, only'⟩ := handsOn (s := s) others
    cases further.symm.trans again
    rw [(only c made on).1, (only' c' made' on').1, w.call_congr alike,
      (w.call_injective block).eq_iff]

/-- A request of a client that carries a word in a change of the assignment mode. -/
def changingMode (word : Int) : Post :=
  ⟨0, { opcode := 123
        parameters := List.replicate 8 0 ++ Wire.LittleEndian.bytesOfInt 8 7 ++
          Wire.LittleEndian.bytesOfInt 8 word },
    ⟨"session", 0⟩, answering fun _ => Device.Simulated.answer []⟩

/-- The largest word that is a double. -/
def largestDouble : Int := 0xfffffffffffff800

/-- That word is handed on as it is. -/
theorem words_exact_largest :
    (changingMode largestDouble).Carries .mode ∧ ∃ outcome calls,
      (start .initial).reply (changingMode largestDouble) = some (outcome, calls) ∧
        .npad (.setMode 7 0 largestDouble .single) ∈ calls := by
  have carries : (changingMode largestDouble).Carries .mode := ⟨rfl, rfl⟩
  have asks : (changingMode largestDouble).Asks 123 24 fun _ => Device.Simulated.answer [] :=
    ⟨rfl, rfl, rfl, rfl, rfl⟩
  obtain ⟨outcome, calls, reply, -, -, goes_iff, -⟩ := words_exact (start .initial) carries
  exact ⟨carries, outcome, calls, reply, (goes_iff _ asks).mpr ⟨trivial, nofun⟩⟩

/-- The first word that is no double is handed on as the one before it. -/
theorem words_despite_rounding :
    (start .initial).reply (changingMode 9007199254740993) = some (.reply { result := .success },
      [.npad (.setMode 7 0 9007199254740992 .single)]) ∧
    (start .initial).reply (changingMode 9007199254740992) = some (.reply { result := .success },
      [.npad (.setMode 7 0 9007199254740992 .single)]) :=
  ⟨rfl, rfl⟩

end Hid.Service
