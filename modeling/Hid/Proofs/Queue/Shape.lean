import Hid.Proofs.Queue.Run

/-!
The shape of a run: all there is to it but how the tasks end. `run_shape` says that runs
keep shapes: the shape of the section and of the log that a run leads to is found by
running the shapes of its moves. Two runs whose moves have one shape therefore differ in
nothing but the endings of their tasks, and no task learns how another one ended.
-/

namespace Hid.Queue

variable {ν : Type}

/-- Work that ends without a value or an error to tell. -/
def Work.shape : Work ν → Work Unit
  | finish _ => .finish (.ok ())
  | wait gate rest => .wait gate rest.shape
  | submit id nested rest => .submit id nested.shape rest.shape

def Task.shape (t : Task ν) : Task Unit := ⟨t.id, t.work.shape⟩

def Call.shape (c : Call ν) : Call Unit := ⟨c.number, c.task.shape⟩

def Pause.shape : Pause ν → Pause Unit
  | gate name rest => .gate name rest.shape
  | ended _ => .ended (.ok ())

def Held.shape (held : Held ν) : Held Unit := ⟨held.call.shape, held.pause.shape⟩

def Turn.shape : Turn (Held ν) → Turn (Held Unit)
  | idle => .idle
  | held item => .held item.shape
  | between => .between

def Exclusive.shape (s : Exclusive ν) : Exclusive Unit where
  queue := ⟨s.queue.turn.shape, s.queue.waiting.map Call.shape⟩
  issued := s.issued
  opened := s.opened

def Move.shape : Move ν → Move Unit
  | submit t => .submit t.shape
  | unlock gate => .unlock gate
  | advance => .advance

/-- An event without the ending of its task. That the work is done is not shown, since
work that fails has no such event. -/
@[simp] def TaskEvent.shape? : TaskEvent ν → Option (TaskEvent Unit)
  | submitted c => some (.submitted c.shape)
  | started c => some (.started c.shape)
  | ended _ => none
  | settled c _ => some (.settled c.shape (.ok ()))

/-- The log without the endings of the tasks. -/
def outline (log : List (TaskEvent ν)) : List (TaskEvent Unit) :=
  log.filterMap TaskEvent.shape?

@[simp] theorem Work.shape_shape (w : Work ν) : w.shape.shape = w.shape := by
  induction w with
  | finish ending => rfl
  | wait gate rest ih => simp [shape, ih]
  | submit id nested rest ih ih' => simp [shape, ih, ih']

@[simp] theorem Call.shape_shape (c : Call ν) : c.shape.shape = c.shape := by
  simp [shape, Task.shape]

@[simp] theorem Work.nested_shape (w : Work ν) : w.shape.nested = w.nested.map Task.shape := by
  induction w with
  | finish ending => rfl
  | wait gate rest _ => rfl
  | submit id nested rest _ ih => simp [shape, Work.nested, ih, Task.shape]

@[simp] theorem Work.pause_shape (w : Work ν) : w.shape.pause = w.pause.shape := by
  induction w with
  | finish ending => rfl
  | wait gate rest _ => rfl
  | submit id nested rest _ ih => exact ih

theorem numbered_shape (first : Nat) (tasks : List (Task ν)) :
    numbered first (tasks.map Task.shape) = (numbered first tasks).map Call.shape := by
  induction tasks generalizing first with
  | nil => rfl
  | cons t rest ih => simp [numbered, ih, Call.shape]

section Outlines

variable (event : TaskEvent ν) (log later : List (TaskEvent ν)) (calls : List (Call ν))

@[simp] theorem outline_nil : outline ([] : List (TaskEvent ν)) = [] := rfl

@[simp] theorem outline_cons :
    outline (event :: log) = event.shape?.toList ++ outline log := by
  cases event <;> rfl

@[simp] theorem outline_append : outline (log ++ later) = outline log ++ outline later :=
  List.filterMap_append

@[simp] theorem outline_submitted :
    outline (calls.map .submitted) = (calls.map Call.shape).map .submitted := by
  induction calls with
  | nil => rfl
  | cons c rest ih => simp [ih]

@[simp] theorem outline_events (c : Call ν) (p : Pause ν) : outline (p.events c) = [] := by
  unfold Pause.events
  split <;> rfl

end Outlines

namespace Exclusive

/-- Work of one shape leads a section of one shape to one shape. -/
theorem perform_shape (s : Exclusive ν) (c : Call ν) (w : Work ν) :
    (s.shape.perform c.shape w.shape).1 = (s.perform c w).1.shape ∧
      outline (s.shape.perform c.shape w.shape).2 = outline (s.perform c w).2 := by
  simp only [perform_eq]
  constructor
  · simp [shape, Turn.shape, Held.shape, numbered_shape]
  · have tasks : (numbered s.shape.issued w.shape.nested) =
        (numbered s.issued w.nested).map Call.shape := by
      rw [Work.nested_shape, numbered_shape]
      rfl
    have again : ((numbered s.issued w.nested).map Call.shape).map Call.shape =
        (numbered s.issued w.nested).map Call.shape := by simp
    rw [tasks, outline_append, outline_append, outline_events, outline_events,
      outline_submitted, outline_submitted, again]

theorem proceed_shape (s : Exclusive ν) :
    s.shape.proceed.1 = s.proceed.1.shape ∧ outline s.shape.proceed.2 = outline s.proceed.2 := by
  cases waiting : s.queue.waiting with
  | nil => simp [proceed, shape, waiting, withTurn, Serial.withTurn, Turn.shape]
  | cons c rest =>
      have performed := perform_shape { s with queue.waiting := rest } c c.task.work
      have line : s.shape.queue.waiting = c.shape :: rest.map Call.shape := by
        simp [shape, waiting]
      have same : ({ s.shape with queue.waiting := rest.map Call.shape } : Exclusive Unit) =
          ({ s with queue.waiting := rest } : Exclusive ν).shape := rfl
      have work : c.shape.task.work = c.task.work.shape := rfl
      simp only [proceed, waiting, line, same, work]
      refine ⟨performed.1, ?_⟩
      simp [performed.2]

theorem enlist_shape (s : Exclusive ν) (t : Task ν) :
    s.shape.enlist t.shape = (s.enlist t).shape := by
  simp [shape, enlist, Serial.enqueue, Call.shape]

theorem submit_shape (s : Exclusive ν) (t : Task ν) :
    (s.shape.submit t.shape).1 = (s.submit t).1.shape ∧
      outline (s.shape.submit t.shape).2 = outline (s.submit t).2 := by
  have call : (⟨s.shape.issued, t.shape⟩ : Call Unit) = (⟨s.issued, t⟩ : Call ν).shape := rfl
  have turn' : s.shape.queue.turn = s.queue.turn.shape := rfl
  cases turn : s.queue.turn with
  | idle =>
      have proceeded := proceed_shape (s.enlist t)
      simp only [submit, turn', turn, Turn.shape, call, enlist_shape]
      refine ⟨proceeded.1, ?_⟩
      simp [proceeded.2]
  | held item => simp [submit, turn', turn, Turn.shape, call, enlist_shape]
  | between => simp [submit, turn', turn, Turn.shape, call, enlist_shape]

theorem step_shape (s : Exclusive ν) (move : Move ν) :
    (s.shape.step move.shape).1 = (s.step move).1.shape ∧
      outline (s.shape.step move.shape).2 = outline (s.step move).2 := by
  have turn' : s.shape.queue.turn = s.queue.turn.shape := rfl
  cases move with
  | submit t => exact submit_shape s t
  | unlock gate => exact ⟨rfl, rfl⟩
  | advance =>
      match turn : s.queue.turn with
      | .idle => simp [Move.shape, step, advance?, turn', turn, Turn.shape]
      | .between =>
          simpa [Move.shape, step, advance?, turn', turn, Turn.shape] using proceed_shape s
      | .held ⟨c, .gate gate rest⟩ =>
          have gates : s.shape.opened = s.opened := rfl
          by_cases isOpen : gate ∈ s.opened
          · simpa [Move.shape, step, advance?, turn', turn, Turn.shape, Held.shape, Pause.shape,
              gates, isOpen] using perform_shape s c rest
          · simp [Move.shape, step, advance?, turn', turn, Turn.shape, Held.shape,
              Pause.shape, gates, isOpen]
      | .held ⟨c, .ended ending⟩ =>
          simp [Move.shape, step, advance?, turn', turn, Turn.shape, Held.shape, Pause.shape]
          rfl

/-- The shapes of moves lead the shape of a section to the shape that the moves lead the
section to, and their logs have one outline. -/
theorem run_shape (s : Exclusive ν) (moves : List (Move ν)) :
    (s.shape.run (moves.map Move.shape)).1 = (s.run moves).1.shape ∧
      outline (s.shape.run (moves.map Move.shape)).2 = outline (s.run moves).2 := by
  induction moves generalizing s with
  | nil => exact ⟨rfl, rfl⟩
  | cons move rest ih =>
      obtain ⟨state, events⟩ := step_shape s move
      have later := ih (s.step move).1
      simp only [List.map_cons, run_cons, state, outline_append, events]
      exact ⟨later.1, by rw [later.2]⟩

end Exclusive
end Hid.Queue
