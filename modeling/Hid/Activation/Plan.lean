import Hid.Activation.Line

/-!
A line of activations whose devices answer by a plan: each question takes the next
planned answer, which may wait for a gate. When the plan is used up, devices succeed
at once.
-/

namespace Hid.Activation

/-- What a device will answer, and the gate the answer waits for. -/
structure PlannedAnswer where
  gate : Option String := none
  answer : Answer := .ok .success
  deriving Repr

/-- A line, the answers still to be given, the answer of the device that is being asked
and the gates that are open. -/
structure PlannedLine where
  line : Line
  plan : List PlannedAnswer
  current : PlannedAnswer := {}
  opened : List String := []
  deriving Repr

namespace PlannedLine

def gateOpen (p : PlannedLine) : Bool :=
  match p.current.gate with
  | none => true
  | some gate => p.opened.contains gate

/-- The line with the current answer given, if its gate is open. -/
def answered (p : PlannedLine) : Line :=
  if p.gateOpen then p.line.answer p.current.answer else p.line

/-- Takes the next planned answer for a device that has just been asked. -/
def draw (p : PlannedLine) (line : Line) : PlannedLine :=
  match line.queue.turn with
  | .held (_, .asking) =>
      { p with line := line, plan := p.plan.tail, current := p.plan.headD {} }
  | _ => { p with line := line }

def submit (p : PlannedLine) (rule : Rule) (job : Job) : PlannedLine × List Event :=
  let (line, events) := p.line.submit rule job
  if p.line.queue.busy then ({ p with line := line }, events) else (p.draw line, events)

@[simp] theorem line_draw (p : PlannedLine) (line : Line) : (p.draw line).line = line := by
  unfold draw
  split <;> rfl

@[simp] theorem load_answered (p : PlannedLine) : p.answered.load = p.line.load := by
  unfold answered
  split
  · exact Line.load_answer _ _
  · rfl

/-- Advances until nothing more can run. -/
def drain (p : PlannedLine) (rule : Rule) : PlannedLine × List Event :=
  match _step : p.answered.advance? rule with
  | none => (p, [])
  | some (line, events) =>
      let (p', later) := (p.draw line).drain rule
      (p', events ++ later)
termination_by p.line.load
decreasing_by
  have smaller := Line.load_advance _step
  rwa [line_draw, ← load_answered p]

theorem drain_of_stuck {p : PlannedLine} {rule : Rule}
    (stuck : p.answered.advance? rule = none) : p.drain rule = (p, []) := by
  rw [drain]
  split
  case h_1 => rfl
  case h_2 going => cases stuck.symm.trans going

theorem drain_of_step {p : PlannedLine} {rule : Rule} {line : Line} {events : List Event}
    (going : p.answered.advance? rule = some (line, events)) :
    p.drain rule = (((p.draw line).drain rule).1, events ++ ((p.draw line).drain rule).2) := by
  rw [drain]
  split
  case h_1 stuck => cases stuck.symm.trans going
  case h_2 step =>
      cases step.symm.trans going
      rfl

/-- Opens a gate for good. -/
def release (p : PlannedLine) (gate : String) : PlannedLine :=
  { p with opened := gate :: p.opened }

end PlannedLine
end Hid.Activation
