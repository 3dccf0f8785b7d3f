import Hid.Proofs.Activation.Run
import Hid.Proofs.Queue.Drain
import Mathlib.Logic.Function.Basic

/-!
A line of activations is an exclusive section. An activation that arrives is a task that is
submitted, the device that is asked is a gate of the task's own, and its answer opens the gate.

* `run_along`: to every run of a line there is a run of a section, move by move, after each of
  which the two are alike: as many wait, both are busy or neither, both rest or neither, and they
  have taken items in hand and settled them in one order and with the same outcomes.

A task carries its work from its submission on, but whether a device is asked, and what it answers,
shows later only. So the plan of all courses is made from the end of a run: each step adds to the
plan of the steps that follow what it shows itself (`exists_plan`).
-/

namespace Hid.Activation

open Queue (Call Exclusive Held TaskEvent Turn Work toString_injective)

/-- What becomes of an activation: whether its device is asked, and what it comes to. -/
structure Course where
  asks : Bool
  outcome : Answer

/-- How a task ends. -/
def ending (outcome : Answer) : Except String ResultCode := outcome.mapError Failure.message

/-- The work of the activation with a number. -/
def Course.work (course : Course) (number : Nat) : Work ResultCode :=
  if course.asks then .wait (toString number) (.finish (ending course.outcome))
  else .finish (ending course.outcome)

/-- The task of the activation with a number. -/
def Course.task (course : Course) (number : Nat) (job : Job) : Queue.Task ResultCode :=
  ⟨job.label, course.work number⟩

/-- What happens to the section in a moment of the line. -/
inductive Plays : Moment → Queue.Move ResultCode → Prop where
  | submit {rule : Rule} (job : Job) (course : Course) (number : Nat) :
      Plays ⟨rule, .activate job⟩ (.submit (course.task number job))
  | unlock {rule : Rule} (answer : Answer) (gate : String) :
      Plays ⟨rule, .answer answer⟩ (.unlock gate)
  | advance {rule : Rule} : Plays ⟨rule, .advance⟩ .advance

/-- What the logs of a line and of a section show alike. -/
inductive Mark where
  /-- The item that has waited longest is taken in hand. -/
  | taken
  /-- The item in hand is settled. -/
  | settled (id : String) (outcome : Except String ResultCode)

def Event.mark? : Event → Option Mark
  | validated .. => some .taken
  | settled label outcome => some (.settled label (ending outcome))
  | _ => none

def taskMark? : TaskEvent ResultCode → Option Mark
  | .started _ => some .taken
  | .settled c outcome => some (.settled c.task.id outcome)
  | _ => none

/-- A line and a section with their logs are alike. -/
structure Alike (run : Line × List Event)
    (run' : Exclusive ResultCode × List (TaskEvent ResultCode)) : Prop where
  busy : run'.1.queue.busy = run.1.queue.busy
  pending : run'.1.queue.pending = run.1.queue.pending
  rest : ∀ rule, run'.1.advance? = none ↔ run.1.advance? rule = none
  marks : run'.2.filterMap taskMark? = run.2.filterMap Event.mark?

/-! ### States that go along -/

section States

variable {plan plan' : Nat → Course} {first : Nat} {l : Line} {s : Exclusive ResultCode}

/-- The tasks of activations in line, the first of which has the given number. -/
def callsFor (plan : Nat → Course) (first : Nat) : List Job → List (Call ResultCode)
  | [] => []
  | job :: rest => ⟨first, (plan first).task first job⟩ :: callsFor plan (first + 1) rest

@[simp] theorem length_callsFor (jobs : List Job) :
    (callsFor plan first jobs).length = jobs.length := by
  induction jobs generalizing first with
  | nil => rfl
  | cons job rest ih => rw [callsFor, List.length_cons, ih, List.length_cons]

theorem callsFor_concat (jobs : List Job) (job : Job) :
    let last := first + jobs.length
    callsFor plan first (jobs ++ [job]) =
      callsFor plan first jobs ++ [⟨last, (plan last).task last job⟩] := by
  induction jobs generalizing first with
  | nil => rfl
  | cons front rest ih =>
      have later := @ih (first + 1)
      simp only [Nat.add_right_comm first 1] at later
      simp only [List.cons_append, callsFor, later, List.length_cons, ← Nat.add_assoc]

/-- Tasks in line depend on the courses from the first of them on. -/
theorem callsFor_congr (same : ∀ n, first ≤ n → plan n = plan' n) (jobs : List Job) :
    callsFor plan first jobs = callsFor plan' first jobs := by
  induction jobs generalizing first with
  | nil => rfl
  | cons job rest ih =>
      have later := ih fun n above => same n (Nat.le_of_succ_le above)
      rw [callsFor, callsFor, same first (Nat.le_refl first), later]

/-- The tasks in line at a section are those of the activations in line. -/
structure Lined (plan : Nat → Course) (first : Nat) (jobs : List Job) (s : Exclusive ResultCode) :
    Prop where
  waiting : s.queue.waiting = callsFor plan first jobs
  issued : s.issued = first + jobs.length
  /-- Their gates are shut. -/
  shut : ∀ n, first ≤ n → toString n ∉ s.opened

/-- The turn of a section goes along with that of a line. `first` is the number of the activation
that is taken in hand next. -/
inductive Matches (plan : Nat → Course) (first : Nat) (opened : List String) :
    Turn (Job × Stage) → Turn (Held ResultCode) → Prop where
  | idle : Matches plan first opened .idle .idle
  | between : Matches plan first opened .between .between
  | asking {job : Job} {c : Call ResultCode} (own : c.number + 1 = first)
      (id : c.task.id = job.label) (shut : toString c.number ∉ opened) :
      Matches plan first opened (.held (job, .asking))
        (.held ⟨c, .gate (toString c.number) (.finish (ending (plan c.number).outcome))⟩)
  | answered {job : Job} {answer : Answer} {c : Call ResultCode} {gate : String}
      (id : c.task.id = job.label) (isOpen : gate ∈ opened) :
      Matches plan first opened (.held (job, .answered answer))
        (.held ⟨c, .gate gate (.finish (ending (Registry.outcome answer)))⟩)
  | decided {job : Job} {outcome : Answer} {c : Call ResultCode} (id : c.task.id = job.label) :
      Matches plan first opened (.held (job, .decided outcome))
        (.held ⟨c, .ended (ending outcome)⟩)

/-- A section goes along with a line. -/
structure Along (plan : Nat → Course) (first : Nat) (l : Line) (s : Exclusive ResultCode) : Prop
    extends Lined plan first l.queue.waiting s where
  turn : Matches plan first s.opened l.queue.turn s.queue.turn

theorem Along.initial (plan : Nat → Course) (r : Registry) :
    Along plan 0 (Line.ofRegistry r) .initial :=
  ⟨⟨rfl, rfl, fun _ _ => List.not_mem_nil⟩, .idle⟩

theorem Along.matching (h : Along plan first l s) {turn : Turn (Job × Stage)}
    (same : l.queue.turn = turn) :
    ∃ turn', s.queue.turn = turn' ∧ Matches plan first s.opened turn turn' :=
  ⟨_, rfl, same ▸ h.turn⟩

/-- What goes along is alike, with nothing logged. -/
theorem Along.alike (h : Along plan first l s) : Alike (l, []) (s, []) := by
  obtain ⟨turn, lineTurn⟩ : ∃ turn, l.queue.turn = turn := ⟨_, rfl⟩
  obtain ⟨turn', sectionTurn, matching⟩ := h.matching lineTurn
  constructor
  case busy =>
    simp only [Queue.Serial.busy, lineTurn, sectionTurn]
    cases matching <;> rfl
  case pending =>
    exact (congrArg List.length h.waiting).trans (length_callsFor _)
  case rest =>
    intro rule
    rw [Exclusive.advance?_eq_none_iff, Line.advance?_eq_none_iff, lineTurn, sectionTurn]
    cases matching with
    | idle => simp
    | between => simp
    | asking own id shut => exact iff_of_true (.inr ⟨_, _, _, rfl, shut⟩) (.inr ⟨_, rfl⟩)
    | answered id isOpen => simp [isOpen]
    | decided id => simp
  case marks => rfl

end States

/-! ### Steps that go along -/

section Steps

variable {plan plan' : Nat → Course} {first : Nat} {l : Line} {s : Exclusive ResultCode}
  {jobs : List Job}

@[simp] theorem nested_work (course : Course) (number : Nat) :
    (course.work number).nested = [] := by
  unfold Course.work
  split <;> rfl

@[simp] theorem marks_events (c : Call ResultCode) (p : Queue.Pause ResultCode) :
    (p.events c).filterMap taskMark? = [] := by
  unfold Queue.Pause.events
  split <;> rfl

theorem Lined.replan (h : Lined plan first jobs s) (same : ∀ n, first ≤ n → plan n = plan' n) :
    Lined plan' first jobs s :=
  { h with waiting := h.waiting.trans (callsFor_congr same jobs) }

/-- The task of an activation that arrives lines up. -/
theorem Lined.enlist (h : Lined plan first jobs s) (job : Job) :
    Lined plan first (jobs ++ [job]) (s.enlist ((plan s.issued).task s.issued job)) := by
  constructor
  case waiting =>
    rw [callsFor_concat, ← h.issued, ← h.waiting]
    rfl
  case issued =>
    rw [List.length_append, ← Nat.add_assoc, ← h.issued]
    rfl
  case shut => exact h.shut

/-- The task that is first in line is taken in hand and works up to its first pause. -/
theorem Lined.proceed_cons {job : Job} {rest : List Job} {course : Course}
    (h : Lined (Function.update plan first course) first (job :: rest) s) :
    let c : Call ResultCode := ⟨first, course.task first job⟩
    Lined plan (first + 1) rest s.proceed.1 ∧ s.proceed.1.opened = s.opened ∧
      s.proceed.1.queue.turn = .held ⟨c, (course.work first).pause⟩ ∧
      s.proceed.2.filterMap taskMark? = [.taken] := by
  intro c
  have others : ∀ n, first + 1 ≤ n → Function.update plan first course n = plan n :=
    fun n above => Function.update_of_ne (Nat.ne_of_gt above) ..
  have waiting : s.queue.waiting = c :: callsFor plan (first + 1) rest := by
    rw [h.waiting, callsFor, Function.update_self, callsFor_congr others]
  have proceeded : s.proceed =
      ({ s with queue := ⟨.held ⟨c, (course.work first).pause⟩, callsFor plan (first + 1) rest⟩ },
        .started c :: (course.work first).pause.events c) := by
    have performed := Queue.Exclusive.perform_eq
      { s with queue.waiting := callsFor plan (first + 1) rest } c (course.work first)
    rw [nested_work] at performed
    unfold Exclusive.proceed
    rw [waiting]
    dsimp only
    rw [show c.task.work = course.work first from rfl, performed]
    simp [Queue.numbered]
  rw [proceeded]
  refine ⟨⟨rfl, ?_, fun n above => h.shut n (Nat.le_of_succ_le above)⟩, rfl, rfl, ?_⟩
  · rw [h.issued, List.length_cons, Nat.add_right_comm, Nat.add_assoc]
  · simp only [List.filterMap_cons, taskMark?, marks_events]

/-- A line and a section have gone on, and what they have shown is alike. -/
structure Together (plan : Nat → Course) (first : Nat) (moved : Line × List Event)
    (moved' : Exclusive ResultCode × List (TaskEvent ResultCode)) : Prop where
  along : Along plan first moved.1 moved'.1
  marks : moved'.2.filterMap taskMark? = moved.2.filterMap Event.mark?

/-- A line that looks for the next activation. What it finds adds to the plan of what follows. -/
theorem exists_plan_proceed (l : Line) (first : Nat) (rule : Rule) :
    ∃ first', ∀ plan', ∃ plan, ∀ s, Lined plan first l.queue.waiting s →
      Together plan' first' (l.proceed rule) s.proceed := by
  unfold Line.proceed
  split
  case h_1 empty =>
      refine ⟨first, fun plan' => ⟨plan', fun s lined => ?_⟩⟩
      rw [empty] at lined
      have none_left : s.proceed = (s.withTurn .idle, []) := by
        unfold Exclusive.proceed
        rw [lined.waiting, callsFor]
      rw [none_left]
      refine ⟨⟨?_, .idle⟩, rfl⟩
      rw [Line.waiting_withTurn, empty]
      exact ⟨lined.waiting, lined.issued, lined.shut⟩
  case h_2 job rest waiting =>
      refine ⟨first + 1, fun plan' => ?_⟩
      unfold Line.start
      dsimp only
      split
      case h_1 code decision =>
          refine ⟨Function.update plan' first ⟨false, .ok code⟩, fun s lined => ?_⟩
          rw [waiting] at lined
          obtain ⟨after, -, turn, marks⟩ := lined.proceed_cons
          refine ⟨⟨after, ?_⟩, marks⟩
          rw [turn]
          exact .decided rfl
      case h_2 decision =>
          refine ⟨Function.update plan' first ⟨true, (plan' first).outcome⟩, fun s lined => ?_⟩
          rw [waiting] at lined
          obtain ⟨after, opened, turn, marks⟩ := lined.proceed_cons
          refine ⟨⟨after, ?_⟩, marks⟩
          rw [turn, opened]
          exact .asking rfl rfl (lined.shut first (Nat.le_refl first))

theorem Along.withTurn (h : Along plan first l s) (r : Registry) {lineTurn : Turn (Job × Stage)}
    {turn : Turn (Held ResultCode)} (matching : Matches plan first s.opened lineTurn turn) :
    Along plan first ⟨r, l.queue.withTurn lineTurn⟩ (s.withTurn turn) :=
  ⟨⟨h.waiting, h.issued, h.shut⟩, matching⟩

/-- The empty name is the number of no gate. -/
theorem toString_ne_empty (n : Nat) : toString n ≠ "" := by
  change n.repr ≠ ""
  rw [Nat.repr_eq_ofList_toDigits]
  intro same
  exact Nat.toDigits_ne_nil (String.ofList_inj.mp same)

/-- A gate is opened that is no gate of a task in line. -/
theorem Lined.unlock (h : Lined plan first jobs s) (gate : String)
    (other : ∀ n, first ≤ n → toString n ≠ gate) : Lined plan first jobs (s.unlock gate) :=
  { h with
    shut := fun n above opened => by
      rcases List.mem_cons.mp opened with same | before
      · exact other n above same
      · exact h.shut n above before }

/-- It does not concern the task in hand if no device is being asked. -/
theorem Matches.unlock {opened : List String} {turn : Turn (Job × Stage)}
    {turn' : Turn (Held ResultCode)} (matching : Matches plan first opened turn turn')
    (quiet : ∀ job, turn ≠ .held (job, .asking)) (gate : String) :
    Matches plan first (gate :: opened) turn turn' := by
  cases matching with
  | idle => exact .idle
  | between => exact .between
  | asking => exact absurd rfl (quiet _)
  | answered id isOpen => exact .answered id (List.mem_cons_of_mem gate isOpen)
  | decided id => exact .decided id

theorem perform_finish (s : Exclusive ResultCode) (c : Call ResultCode)
    (result : Except String ResultCode) :
    s.perform c (.finish result) =
      (s.withTurn (.held ⟨c, .ended result⟩), Queue.Pause.events c (.ended result)) := by
  cases result <;> rfl

theorem Along.idle_iff (h : Along plan first l s) :
    s.queue.turn = .idle ↔ l.queue.turn = .idle := by
  rw [← Queue.Serial.busy_eq_false, ← Queue.Serial.busy_eq_false, h.alike.busy]

/-- An activation arrives. -/
theorem exists_plan_activate (l : Line) (first : Nat) (rule : Rule) (job : Job) :
    ∃ first', ∀ plan', ∃ plan, ∀ s, Along plan first l s →
      Together plan' first' (l.submit rule job)
        (s.submit ((plan s.issued).task s.issued job)) := by
  unfold Line.submit
  dsimp only
  split
  case h_1 idle =>
      obtain ⟨first', found⟩ :=
        exists_plan_proceed { l with queue := l.queue.enqueue job } first rule
      refine ⟨first', fun plan' => ?_⟩
      obtain ⟨plan, proceeds⟩ := found plan'
      refine ⟨plan, fun s h => ?_⟩
      obtain ⟨along, marks⟩ := proceeds _ (h.toLined.enlist job)
      rw [Exclusive.submit, h.idle_iff.mpr idle]
      exact ⟨along, marks⟩
  case h_2 busy =>
      refine ⟨first, fun plan => ⟨plan, fun s h => ?_⟩⟩
      unfold Exclusive.submit
      dsimp only
      split
      case h_1 idle => exact absurd (h.idle_iff.mp idle) busy
      case h_2 => exact ⟨⟨h.toLined.enlist job, h.turn⟩, rfl⟩

/-- An answer arrives. If a device is being asked, the gate of its task is opened. -/
theorem exists_plan_answer (l : Line) (first : Nat) (answer : Answer) (plan' : Nat → Course) :
    ∃ plan gate, ∀ s, Along plan first l s →
      Along plan' first (l.answer answer) (s.unlock gate) := by
  unfold Line.answer
  split
  case h_1 job asking =>
      let own := first - 1
      let course : Course := { plan' own with outcome := Registry.outcome answer }
      refine ⟨Function.update plan' own course, toString own, fun s h => ?_⟩
      obtain ⟨turn', sectionTurn, matching⟩ := h.matching asking
      cases matching with
      | asking before id shut =>
          rename_i c
          have number : c.number = own := by omega
          have others : ∀ n, first ≤ n → Function.update plan' own course n = plan' n :=
            fun n above => Function.update_of_ne (by omega) ..
          have unlocked := (h.toLined.replan others).unlock (toString own) fun n above same =>
            absurd (toString_injective same) (by omega)
          refine ⟨⟨unlocked.waiting, unlocked.issued, unlocked.shut⟩, ?_⟩
          rw [number, Function.update_self] at sectionTurn
          change Matches plan' first (toString own :: s.opened) _ s.queue.turn
          rw [sectionTurn]
          exact .answered id List.mem_cons_self
  case h_2 quiet =>
      refine ⟨plan', "", fun s h => ?_⟩
      have unlocked := h.toLined.unlock "" fun n _ => toString_ne_empty n
      exact ⟨unlocked, h.turn.unlock quiet ""⟩

/-- The line goes on by itself. -/
theorem exists_plan_advance (l : Line) (first : Nat) (rule : Rule) :
    ∃ first', ∀ plan', ∃ plan, ∀ s, Along plan first l s →
      Together plan' first' (l.step ⟨rule, .advance⟩) (s.step .advance) := by
  have rests (rest : l.advance? rule = none) (plan : Nat → Course) (s : Exclusive ResultCode)
      (h : Along plan first l s) :
      Together plan first (l.step ⟨rule, .advance⟩) (s.step .advance) := by
    rw [Line.step, Exclusive.step, rest, (h.alike.rest rule).mpr rest]
    exact ⟨h, rfl⟩
  cases turn : l.queue.turn with
  | idle =>
      have rest : l.advance? rule = none := by rw [Line.advance?, turn]
      exact ⟨first, fun plan => ⟨plan, rests rest plan⟩⟩
  | between =>
      obtain ⟨first', found⟩ := exists_plan_proceed l first rule
      refine ⟨first', fun plan' => ?_⟩
      obtain ⟨plan, proceeds⟩ := found plan'
      refine ⟨plan, fun s h => ?_⟩
      obtain ⟨turn', sectionTurn, matching⟩ := h.matching turn
      cases matching
      rw [Line.step, Line.advance?, turn, Exclusive.step, Exclusive.advance?, sectionTurn]
      exact proceeds s h.toLined
  | held item =>
      obtain ⟨job, stage⟩ := item
      refine ⟨first, fun plan => ⟨plan, fun s h => ?_⟩⟩
      obtain ⟨turn', sectionTurn, matching⟩ := h.matching turn
      cases matching with
      | asking own id shut =>
          exact rests (by rw [Line.advance?, turn]) plan s h
      | answered id isOpen =>
          rw [Line.step, Line.advance?, turn, Exclusive.step, Exclusive.advance?, sectionTurn]
          dsimp only
          rw [if_pos (List.contains_iff_mem.mpr isOpen), perform_finish]
          exact ⟨h.withTurn _ (.decided id), marks_events ..⟩
      | decided id =>
          rw [Line.step, Line.advance?, turn, Exclusive.step, Exclusive.advance?, sectionTurn]
          refine ⟨h.withTurn _ .between, ?_⟩
          simp [taskMark?, Event.mark?, id]

/-- Every step of a line is a step of a section. -/
theorem exists_plan_step (l : Line) (first : Nat) (m : Moment) :
    ∃ first', ∀ plan', ∃ plan, ∀ s, Along plan first l s → ∃ move, Plays m move ∧
      Together plan' first' (l.step m) (s.step move) := by
  obtain ⟨rule, move⟩ := m
  cases move with
  | activate job =>
      obtain ⟨first', found⟩ := exists_plan_activate l first rule job
      refine ⟨first', fun plan' => ?_⟩
      obtain ⟨plan, together⟩ := found plan'
      exact ⟨plan, fun s h => ⟨_, .submit job (plan s.issued) s.issued, together s h⟩⟩
  | answer answer =>
      refine ⟨first, fun plan' => ?_⟩
      obtain ⟨plan, gate, along⟩ := exists_plan_answer l first answer plan'
      exact ⟨plan, fun s h => ⟨_, .unlock answer gate, ⟨along s h, rfl⟩⟩⟩
  | advance =>
      obtain ⟨first', found⟩ := exists_plan_advance l first rule
      refine ⟨first', fun plan' => ?_⟩
      obtain ⟨plan, together⟩ := found plan'
      exact ⟨plan, fun s h => ⟨_, .advance, together s h⟩⟩

end Steps

/-! ### Runs that go along -/

/-- What has been alike so far goes on to be alike. -/
theorem Alike.after {run : Line × List Event}
    {run' : Exclusive ResultCode × List (TaskEvent ResultCode)} (later : Alike run run')
    {events : List Event} {taskEvents : List (TaskEvent ResultCode)}
    (marks : taskEvents.filterMap taskMark? = events.filterMap Event.mark?) :
    Alike (run.1, events ++ run.2) (run'.1, taskEvents ++ run'.2) where
  busy := later.busy
  pending := later.pending
  rest := later.rest
  marks := by rw [List.filterMap_append, List.filterMap_append, marks, later.marks]

/-- For every line and what happens to it there is a plan by which a section goes along. -/
theorem exists_plan (moments : List Moment) : ∀ (l : Line) (first : Nat),
    ∃ plan, ∀ s, Along plan first l s → ∃ moves, List.Forall₂ Plays moments moves ∧
      ∀ k, Alike (l.run (moments.take k)) (s.run (moves.take k)) := by
  induction moments with
  | nil =>
      intro l first
      refine ⟨fun _ => ⟨false, .ok .success⟩, fun s h => ⟨[], .nil, fun k => ?_⟩⟩
      rw [List.take_nil, List.take_nil]
      exact h.alike
  | cons m rest ih =>
      intro l first
      obtain ⟨first', step⟩ := exists_plan_step l first m
      obtain ⟨plan', later⟩ := ih (l.step m).1 first'
      obtain ⟨plan, together⟩ := step plan'
      refine ⟨plan, fun s h => ?_⟩
      obtain ⟨move, plays, next, marks⟩ := together s h
      obtain ⟨moves, all, alike⟩ := later _ next
      refine ⟨move :: moves, .cons plays all, fun k => ?_⟩
      cases k with
      | zero => exact h.alike
      | succ k => exact (alike k).after marks

/-- **A line of activations is an exclusive section.** To every run of a line there is a run of a
section, move by move: an activation that arrives is a task that is submitted, the answer of a
device opens a gate, and both go on by themselves in the same moments. After each move the two are
alike, and what they show up to there is alike too. -/
theorem run_along (r : Registry) (moments : List Moment) :
    ∃ moves, List.Forall₂ Plays moments moves ∧
      ∀ k, Alike ((Line.ofRegistry r).run (moments.take k))
        (Exclusive.initial.run (moves.take k)) := by
  obtain ⟨plan, along⟩ := exists_plan moments (.ofRegistry r) 0
  exact along .initial (.initial plan r)

end Hid.Activation
