import Hid.Activation.Registry
import Hid.Queue.Serial

/-!
Activations that overlap. They line up at the registry and are served one at a time in
order of arrival; each is validated when its turn comes and not before. Devices take
their time, so other activations may arrive while a device is being asked, and also
between the steps in which the registry takes note of an answer, an activation is
settled and the next one is taken in hand.

The activations are the tasks of an exclusive section (`run_along`); what a line adds is the
registry, which decides whether a task waits for a device.
-/

namespace Hid.Activation

open Queue (Serial Turn)

/-- What validates handles at present. -/
abbrev Rule := DeviceHandle → ResultCode

/-- What a device answers, or how it fails. -/
abbrev Answer := Except Failure ResultCode

/-- An activation and the label under which its outcome is reported. -/
structure Job where
  label : String
  handle : DeviceHandle
  deriving DecidableEq, Repr

/-- Where the activation in hand stands. -/
inductive Stage where
  /-- The device is being asked. -/
  | asking
  /-- The device has answered, and the registry has not taken note of it. -/
  | answered (answer : Answer)
  /-- The outcome is certain and has not been reported. -/
  | decided (outcome : Answer)
  deriving Repr

inductive Event where
  | validated (handle : DeviceHandle) (code : ResultCode)
  | asked (handle : DeviceHandle)
  /-- The registry takes note of what the device has answered. -/
  | noted (handle : DeviceHandle) (answer : Answer)
  | settled (label : String) (outcome : Answer)
  deriving Repr

/-- The registry and its queue of activations. -/
structure Line where
  registry : Registry
  queue : Serial (Job × Stage) Job
  deriving Repr

namespace Line

def ofRegistry (registry : Registry) : Line := ⟨registry, .idle⟩

def withTurn (l : Line) (turn : Turn (Job × Stage)) : Line :=
  { l with queue := l.queue.withTurn turn }

@[simp] theorem registry_withTurn (l : Line) (turn : Turn (Job × Stage)) :
    (l.withTurn turn).registry = l.registry := rfl

@[simp] theorem waiting_withTurn (l : Line) (turn : Turn (Job × Stage)) :
    (l.withTurn turn).queue.waiting = l.queue.waiting := rfl

/-- Takes an activation in hand: validates it and asks the device if need be. -/
def start (l : Line) (rule : Rule) (job : Job) : Line × List Event :=
  let code := rule job.handle
  match l.registry.consider code job.handle with
  | .settled result =>
      (l.withTurn (.held (job, .decided (.ok result))), [.validated job.handle code])
  | .askDevice =>
      (l.withTurn (.held (job, .asking)), [.validated job.handle code, .asked job.handle])

/-- Takes the activation in hand that has waited longest, if one waits. -/
def proceed (l : Line) (rule : Rule) : Line × List Event :=
  match l.queue.waiting with
  | [] => (l.withTurn .idle, [])
  | job :: rest => { l with queue.waiting := rest }.start rule job

/-- An activation arrives. An idle line starts it at once. -/
def submit (l : Line) (rule : Rule) (job : Job) : Line × List Event :=
  let l' := { l with queue := l.queue.enqueue job }
  match l.queue.turn with
  | .idle => l'.proceed rule
  | _ => (l', [])

/-- The device that is being asked answers. -/
def answer (l : Line) (answer : Answer) : Line :=
  match l.queue.turn with
  | .held (job, .asking) => l.withTurn (.held (job, .answered answer))
  | _ => l

/-- One step of what the line does by itself, if there is one: it takes note of an
answer, settles the activation in hand or takes the next one. -/
def advance? (l : Line) (rule : Rule) : Option (Line × List Event) :=
  match l.queue.turn with
  | .idle => none
  | .between => some (l.proceed rule)
  | .held (_, .asking) => none
  | .held (job, .answered answer) =>
      some ({ l with registry := l.registry.afterDevice job.handle answer }.withTurn
        (.held (job, .decided (Registry.outcome answer))), [.noted job.handle answer])
  | .held (job, .decided outcome) => some (l.withTurn .between, [.settled job.label outcome])

/-- How many steps the line may take, each activation that waits counting for four. -/
def load (l : Line) : Nat :=
  4 * l.queue.waiting.length +
    match l.queue.turn with
    | .idle => 0
    | .between => 1
    | .held (_, .decided _) => 2
    | .held (_, _) => 3

theorem load_start_le (l : Line) (rule : Rule) (job : Job) :
    (l.start rule job).1.load ≤ 4 * l.queue.waiting.length + 3 := by
  unfold start
  simp only
  split <;> simp [load, withTurn]

/-- Looking for the next activation takes a step off those that wait, if there are any. -/
theorem load_proceed_le (l : Line) (rule : Rule) :
    (l.proceed rule).1.load ≤ 4 * l.queue.waiting.length := by
  unfold proceed
  split
  case h_1 waiting => simp [load, withTurn, waiting]
  case h_2 job rest waiting =>
      have taken := load_start_le { l with queue.waiting := rest } rule job
      simp only [waiting, List.length_cons]
      simp only at taken
      omega

/-- Every step leaves fewer steps to take. -/
theorem load_advance {l l' : Line} {rule : Rule} {events : List Event}
    (step : l.advance? rule = some (l', events)) : l'.load < l.load := by
  unfold advance? at step
  split at step
  case h_1 => cases step
  case h_2 turn =>
      simp only [Option.some.injEq, Prod.ext_iff] at step
      have taken := load_proceed_le l rule
      rw [step.1] at taken
      simp only [load, turn] at taken ⊢
      omega
  case h_3 => cases step
  case h_4 turn =>
      cases step
      simp [load, withTurn, turn]
  case h_5 turn =>
      cases step
      simp [load, withTurn, turn]

@[simp] theorem load_answer (l : Line) (answer : Answer) : (l.answer answer).load = l.load := by
  unfold Line.answer
  split
  case h_1 turn => simp [load, withTurn, turn]
  case h_2 => rfl

end Line
end Hid.Activation
