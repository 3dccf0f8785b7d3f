import Hid.Queue.Serial

/-!
An exclusive section runs tasks one at a time in the order of submission. A task may
submit others while it runs, without waiting for them, may wait for gates, and ends with
a value or an error. It works without a break until its next gate or its end. Everything
else happens in steps of its own, between which other tasks may be submitted: a task goes
on behind a gate that is open, a task that has ended is settled, and the section takes
the next task.
-/

namespace Hid.Queue

/-- What a task still has to do. A task that it submits has an identifier and work of
its own. -/
inductive Work (ν : Type) where
  | finish (ending : Except String ν)
  | wait (gate : String) (rest : Work ν)
  | submit (id : String) (nested rest : Work ν)
  deriving Repr

structure Task (ν : Type) where
  id : String
  work : Work ν
  deriving Repr

/-- A task that has been submitted, with its number in the order of submission. Equal
tasks that are submitted twice differ in their numbers. -/
structure Call (ν : Type) where
  number : Nat
  task : Task ν
  deriving Repr

/-- Where the task in hand stands when it works no further by itself. -/
inductive Pause (ν : Type) where
  | gate (gate : String) (rest : Work ν)
  | ended (ending : Except String ν)
  deriving Repr

structure Held (ν : Type) where
  call : Call ν
  pause : Pause ν
  deriving Repr

inductive TaskEvent (ν : Type) where
  | submitted (call : Call ν)
  | started (call : Call ν)
  /-- The work of a task that ends with a value is done. -/
  | ended (call : Call ν)
  | settled (call : Call ν) (outcome : Except String ν)
  deriving Repr

/-- The call that is started. -/
@[simp] def TaskEvent.start? {ν : Type} : TaskEvent ν → Option (Call ν)
  | started c => some c
  | _ => none

/-- The tasks of a section, how many have been submitted to it, and the gates that have
been opened. -/
structure Exclusive (ν : Type) where
  queue : Serial (Held ν) (Call ν)
  issued : Nat
  opened : List String
  deriving Repr

namespace Work

variable {ν : Type}

/-- The value or the error that all the work leads to. -/
def ending : Work ν → Except String ν
  | finish ending => ending
  | wait _ rest => rest.ending
  | submit _ _ rest => rest.ending

/-- How many steps work may take, its nested tasks included: one to take a task in hand,
one behind each gate, one to settle a task and one to look for the next. -/
def size : Work ν → Nat
  | finish _ => 2
  | wait _ rest => 1 + rest.size
  | submit _ nested rest => 1 + nested.size + rest.size

end Work

/-- How many steps it may take to serve calls. -/
def Call.steps {ν : Type} : List (Call ν) → Nat
  | [] => 0
  | c :: rest => 1 + c.task.work.size + steps rest

@[simp] theorem Call.steps_concat {ν : Type} (calls : List (Call ν)) (c : Call ν) :
    steps (calls ++ [c]) = steps calls + (1 + c.task.work.size) := by
  induction calls with
  | nil => simp [steps]
  | cons first rest ih =>
      simp only [List.cons_append, steps, ih]
      omega

namespace Exclusive

variable {ν : Type}

def initial : Exclusive ν := ⟨.idle, 0, []⟩

def withTurn (s : Exclusive ν) (turn : Turn (Held ν)) : Exclusive ν :=
  { s with queue := s.queue.withTurn turn }

/-- Numbers a task and lines it up. -/
def enlist (s : Exclusive ν) (t : Task ν) : Exclusive ν :=
  { s with queue := s.queue.enqueue ⟨s.issued, t⟩, issued := s.issued + 1 }

/-- Does work of a task up to the next gate or the end. An error is no event before the
task is settled. -/
def perform (s : Exclusive ν) (c : Call ν) : Work ν → Exclusive ν × List (TaskEvent ν)
  | .submit id nested rest =>
      let inner : Call ν := ⟨s.issued, id, nested⟩
      let (s', events) := (s.enlist inner.task).perform c rest
      (s', .submitted inner :: events)
  | .wait gate rest => (s.withTurn (.held ⟨c, .gate gate rest⟩), [])
  | .finish (.ok value) => (s.withTurn (.held ⟨c, .ended (.ok value)⟩), [.ended c])
  | .finish (.error message) => (s.withTurn (.held ⟨c, .ended (.error message)⟩), [])

/-- Starts the task that has waited longest, if one waits. -/
def proceed (s : Exclusive ν) : Exclusive ν × List (TaskEvent ν) :=
  match s.queue.waiting with
  | [] => (s.withTurn .idle, [])
  | c :: rest =>
      let (s', events) := { s with queue.waiting := rest }.perform c c.task.work
      (s', .started c :: events)

/-- Submits a task. An idle section starts it at once, a busy one lines it up. -/
def submit (s : Exclusive ν) (t : Task ν) : Exclusive ν × List (TaskEvent ν) :=
  let call : Call ν := ⟨s.issued, t⟩
  match s.queue.turn with
  | .idle =>
      let (s', events) := (s.enlist t).proceed
      (s', .submitted call :: events)
  | _ => (s.enlist t, [.submitted call])

/-- One step of what the section does by itself, if there is one. -/
def advance? (s : Exclusive ν) : Option (Exclusive ν × List (TaskEvent ν)) :=
  match s.queue.turn with
  | .idle => none
  | .between => some s.proceed
  | .held ⟨c, .gate gate rest⟩ =>
      if s.opened.contains gate then some (s.perform c rest) else none
  | .held ⟨c, .ended ending⟩ => some (s.withTurn .between, [.settled c ending])

/-- Opens a gate for good. -/
def unlock (s : Exclusive ν) (gate : String) : Exclusive ν :=
  { s with opened := gate :: s.opened }

/-- How many steps the tasks in line may take. -/
def inLine (s : Exclusive ν) : Nat := Call.steps s.queue.waiting

/-- How many steps the tasks in hand and in line may take. -/
def outstanding (s : Exclusive ν) : Nat :=
  s.inLine +
    match s.queue.turn with
    | .idle => 0
    | .between => 1
    | .held ⟨_, .gate _ rest⟩ => 1 + rest.size
    | .held ⟨_, .ended _⟩ => 2

@[simp] theorem inLine_withTurn (s : Exclusive ν) (turn : Turn (Held ν)) :
    (s.withTurn turn).inLine = s.inLine := rfl

@[simp] theorem inLine_enlist (s : Exclusive ν) (t : Task ν) :
    (s.enlist t).inLine = s.inLine + (1 + t.work.size) := by
  simp [inLine, enlist]

/-- Work that is done up to a pause leaves as many steps as it had. -/
theorem outstanding_perform (s : Exclusive ν) (c : Call ν) (w : Work ν) :
    (s.perform c w).1.outstanding = s.inLine + w.size := by
  induction w generalizing s with
  | finish ending => cases ending <;> simp [perform, withTurn, outstanding, inLine, Work.size]
  | wait gate rest _ => simp [perform, withTurn, outstanding, inLine, Work.size]
  | submit id nested rest _ ih =>
      simp only [perform, ih, inLine_enlist, Work.size]
      omega

/-- Looking for the next task takes one step off those in line, if there are any. -/
theorem outstanding_proceed (s : Exclusive ν) : s.proceed.1.outstanding = s.inLine - 1 := by
  unfold proceed
  split
  case h_1 waiting => simp [withTurn, outstanding, inLine, waiting, Call.steps]
  case h_2 c rest waiting =>
      rw [outstanding_perform]
      simp only [inLine, waiting, Call.steps]
      omega

/-- Every step leaves fewer steps to take. -/
theorem outstanding_advance {s s' : Exclusive ν} {events : List (TaskEvent ν)}
    (step : s.advance? = some (s', events)) : s'.outstanding < s.outstanding := by
  unfold advance? at step
  split at step
  case h_1 => cases step
  case h_2 turn =>
      simp only [Option.some.injEq, Prod.ext_iff] at step
      rw [← step.1, outstanding_proceed]
      simp only [outstanding, turn]
      omega
  case h_3 turn =>
      split at step
      · simp only [Option.some.injEq, Prod.ext_iff] at step
        rw [← step.1, outstanding_perform]
        simp [outstanding, turn]
      · cases step
  case h_4 turn =>
      cases step
      simp [withTurn, outstanding, inLine, turn]

/-- Goes on until nothing more can run. -/
def flush (s : Exclusive ν) : Exclusive ν × List (TaskEvent ν) :=
  match _step : s.advance? with
  | none => (s, [])
  | some (s', events) =>
      let (s'', later) := s'.flush
      (s'', events ++ later)
termination_by s.outstanding
decreasing_by exact outstanding_advance _step

theorem flush_of_stuck {s : Exclusive ν} (stuck : s.advance? = none) : s.flush = (s, []) := by
  rw [flush]
  split
  · rfl
  · simp_all

theorem flush_of_step {s s' : Exclusive ν} {events : List (TaskEvent ν)}
    (step : s.advance? = some (s', events)) :
    s.flush = (s'.flush.1, events ++ s'.flush.2) := by
  rw [flush]
  split <;> simp_all

/-- Opens a gate and lets everything run that can. -/
def release (s : Exclusive ν) (gate : String) : Exclusive ν × List (TaskEvent ν) :=
  (s.unlock gate).flush

end Exclusive
end Hid.Queue
