import Hid.Proofs.Queue.Shape
import Mathlib.Data.List.Nodup

/-!
The order in which an exclusive section serves its tasks. `run_orderly` says of every log
that tasks are started at most once and in the order of submission, that the task in hand
is settled before the next one is started, that a task is settled at most once and with
its own ending, and that how tasks end makes no difference to anything else.

The invariant behind it is `Chronicle`: what is started or settled in a log are the spans
of the tasks served so far, one after the other, and the start of the task in hand; what
is submitted and not started is the line.
-/

namespace Hid.Queue

variable {ν : Type}

@[simp] def TaskEvent.isTurn : TaskEvent ν → Bool
  | .started _ => true
  | .settled _ _ => true
  | _ => false

/-- The starts and settlements of a log. -/
def turns (log : List (TaskEvent ν)) : List (TaskEvent ν) := log.filter TaskEvent.isTurn

/-- All that starts and settlements show of a task that has been served. -/
def Call.span (c : Call ν) : List (TaskEvent ν) :=
  [.started c, .settled c c.task.work.ending]

section Logs

variable (event : TaskEvent ν) (log later : List (TaskEvent ν)) (calls : List (Call ν))

@[simp] theorem turns_nil : turns ([] : List (TaskEvent ν)) = [] := rfl

@[simp] theorem turns_cons :
    turns (event :: log) = (if event.isTurn then [event] else []) ++ turns log := by
  cases event <;> rfl

@[simp] theorem turns_append : turns (log ++ later) = turns log ++ turns later :=
  List.filter_append ..

@[simp] theorem turns_submitted : turns (calls.map .submitted) = [] := by
  simp [turns]

@[simp] theorem turns_events (c : Call ν) (p : Pause ν) : turns (p.events c) = [] := by
  unfold Pause.events
  split <;> rfl

end Logs

namespace Exclusive

/-- What a log tells of a section with the calls `hand` in hand. -/
structure Chronicle (s : Exclusive ν) (log : List (TaskEvent ν)) (hand : List (Call ν)) :
    Prop where
  numbers : (submissions log).map Call.number = List.range s.issued
  order : submissions log = starts log ++ s.queue.waiting
  spans : ∃ served : List (Call ν), starts log = served ++ hand ∧
    turns log = served.flatMap Call.span ++ hand.map .started

namespace Chronicle

variable {s : Exclusive ν} {log : List (TaskEvent ν)} {hand : List (Call ν)}

theorem withTurn (h : Chronicle s log hand) (turn : Turn (Held ν)) :
    Chronicle (s.withTurn turn) log hand :=
  ⟨h.numbers, h.order, h.spans⟩

theorem enlist (h : Chronicle s log hand) (t : Task ν) :
    Chronicle (s.enlist t) (log ++ [.submitted ⟨s.issued, t⟩]) hand := by
  obtain ⟨served, started, shown⟩ := h.spans
  refine ⟨?_, ?_, served, ?_, ?_⟩
  · simp [h.numbers, Exclusive.enlist, List.range_succ]
  · simp [h.order, Exclusive.enlist]
  · simp [started]
  · simp [shown]

theorem perform {c : Call ν} (h : Chronicle s log [c]) (w : Work ν) :
    Chronicle (s.perform c w).1 (log ++ (s.perform c w).2) [c] := by
  obtain ⟨served, started, shown⟩ := h.spans
  rw [perform_eq]
  refine ⟨?_, ?_, served, ?_, ?_⟩
  · simp [h.numbers, List.range_add, List.range'_eq_map_range]
  · simp [h.order]
  · simp [started]
  · simp [shown]

theorem start {c : Call ν} {rest : List (Call ν)} (h : Chronicle s log [])
    (waiting : s.queue.waiting = c :: rest) :
    Chronicle { s with queue.waiting := rest } (log ++ [.started c]) [c] := by
  obtain ⟨served, started, shown⟩ := h.spans
  refine ⟨?_, ?_, served, ?_, ?_⟩
  · simp [h.numbers]
  · simp [h.order, waiting]
  · simpa using started
  · simpa using shown

theorem settle {c : Call ν} (h : Chronicle s log [c]) :
    Chronicle s (log ++ [.settled c c.task.work.ending]) [] := by
  obtain ⟨served, started, shown⟩ := h.spans
  refine ⟨?_, ?_, served ++ [c], ?_, ?_⟩
  · simp [h.numbers]
  · simp [h.order]
  · simpa using started
  · simp [shown, Call.span]

end Chronicle

/-- The call in hand, if there is one. -/
def inHand (s : Exclusive ν) : List (Call ν) :=
  match s.queue.turn with
  | .held held => [held.call]
  | _ => []

/-- The log is a chronicle of the section with its call in hand, which stands at a pause
of its own task, and no task is left waiting at an idle section. -/
structure Recorded (s : Exclusive ν) (log : List (TaskEvent ν)) : Prop where
  chronicle : Chronicle s log s.inHand
  own : ∀ held, s.queue.turn = .held held → held.pause ∈ held.call.task.work.pauses
  awake : s.queue.Awake

namespace Recorded

variable {s : Exclusive ν} {log : List (TaskEvent ν)}

theorem initial : Recorded (initial : Exclusive ν) [] :=
  ⟨⟨rfl, rfl, [], rfl, rfl⟩, by simp [Exclusive.initial, Serial.idle], fun _ => rfl⟩

theorem perform {c : Call ν} {w : Work ν} (h : Chronicle s log [c])
    (own : ∀ p ∈ w.pauses, p ∈ c.task.work.pauses) :
    Recorded (s.perform c w).1 (log ++ (s.perform c w).2) := by
  have chronicle := h.perform w
  rw [perform_eq] at chronicle ⊢
  refine ⟨chronicle, ?_, ?_⟩
  · rintro held same
    cases same
    exact own _ w.pause_mem_pauses
  · intro idle
    cases idle

theorem proceed (h : Chronicle s log []) : Recorded s.proceed.1 (log ++ s.proceed.2) := by
  unfold Exclusive.proceed
  split
  case h_1 waiting =>
      rw [List.append_nil]
      refine ⟨h.withTurn .idle, ?_, fun _ => waiting⟩
      intro held same
      cases same
  case h_2 c rest waiting =>
      have started := h.start waiting
      simpa using perform started fun _ member => member

/-- Every step keeps the record. -/
theorem step (h : Recorded s log) (move : Move ν) :
    Recorded (s.step move).1 (log ++ (s.step move).2) := by
  have chronicle := h.chronicle
  cases move with
  | submit t =>
      have lined := chronicle.enlist t
      simp only [Exclusive.step, Exclusive.submit]
      split
      case h_1 turn =>
          simp only [inHand, turn] at lined
          simpa using proceed lined
      case h_2 busy =>
          exact ⟨lined, h.own, fun idle => absurd idle busy⟩
  | unlock gate =>
      simp only [Exclusive.step, List.append_nil]
      exact ⟨⟨chronicle.numbers, chronicle.order, chronicle.spans⟩, h.own, h.awake⟩
  | advance =>
      simp only [Exclusive.step, Exclusive.advance?]
      split
      case h_1 => simpa using h
      case h_2 turn =>
          simp only [inHand, turn] at chronicle
          exact proceed chronicle
      case h_3 c gate rest turn =>
          simp only [inHand, turn] at chronicle
          split
          · exact perform chronicle (Work.pauses_of_gate (h.own _ turn))
          · simpa using h
      case h_4 c ending turn =>
          simp only [inHand, turn] at chronicle
          rw [Work.ending_of_ended (h.own _ turn)]
          refine ⟨chronicle.settle.withTurn .between, ?_, ?_⟩ <;>
            simp [Exclusive.withTurn, Serial.Awake]

theorem run (moves : List (Move ν)) :
    Recorded (Exclusive.initial.run moves).1 (Exclusive.initial.run moves).2 := by
  simpa using run_induction (P := Recorded) (fun _ _ move h => step h move) initial moves

end Recorded
end Exclusive

/-! ### What the chronicle says -/

/-- Settlements are all that the turns of a log show of outcomes. -/
theorem settlements_turns (log : List (TaskEvent ν)) :
    settlements (turns log) = settlements log := by
  induction log with
  | nil => rfl
  | cons event rest ih => cases event <;> simp [ih]

theorem settlements_spans (served hand : List (Call ν)) :
    settlements (served.flatMap Call.span ++ hand.map .started) =
      served.map fun c => (c, c.task.work.ending) := by
  have unsettled : settlements (hand.map .started) = [] := by simp [settlements]
  induction served with
  | nil => exact unsettled
  | cons c rest ih => simpa [Call.span] using ih

/-- In a row of spans that ends with at most one start, another start comes only after
the settlement of the task before. -/
theorem settled_between {served hand : List (Call ν)} (short : hand.length ≤ 1)
    {before between after : List (TaskEvent ν)} {c c' : Call ν}
    (row : served.flatMap Call.span ++ hand.map .started =
      before ++ .started c :: (between ++ .started c' :: after)) :
    .settled c c.task.work.ending ∈ between := by
  induction served generalizing before with
  | nil =>
      have lengths := congrArg List.length row
      simp at lengths
      omega
  | cons first rest ih =>
      simp only [List.flatMap_cons, Call.span, List.cons_append, List.nil_append] at row
      match before with
      | [] =>
          obtain ⟨same, row⟩ := List.cons_eq_cons.mp row
          cases same
          cases between with
          | nil => cases (List.cons_eq_cons.mp row).1
          | cons event tail =>
              rw [← (List.cons_eq_cons.mp row).1]
              exact List.mem_cons_self
      | [event] => cases (List.cons_eq_cons.mp (List.cons_eq_cons.mp row).2).1
      | _ :: _ :: before =>
          exact ih (List.cons_eq_cons.mp (List.cons_eq_cons.mp row).2).2

namespace Exclusive.Chronicle

variable {s : Exclusive ν} {log : List (TaskEvent ν)} {hand : List (Call ν)}

theorem nodup_submissions (h : Chronicle s log hand) : (submissions log).Nodup := by
  have numbers := h.numbers
  exact List.Nodup.of_map Call.number (numbers ▸ List.nodup_range)

theorem nodup_starts (h : Chronicle s log hand) : (starts log).Nodup := by
  have calls := h.nodup_submissions
  rw [h.order] at calls
  exact (List.nodup_append.mp calls).1

/-- The tasks that have been served are settled in their order with their own endings. -/
theorem settlements_eq (h : Chronicle s log hand) :
    ∃ served, starts log = served ++ hand ∧
      settlements log = served.map fun c => (c, c.task.work.ending) := by
  obtain ⟨served, started, shown⟩ := h.spans
  refine ⟨served, started, ?_⟩
  rw [← settlements_turns, shown, settlements_spans]

/-- Another task starts only after the task before it is settled. -/
theorem settled_between (h : Chronicle s log hand) (short : hand.length ≤ 1)
    {before between after : List (TaskEvent ν)} {c c' : Call ν}
    (split : log = before ++ .started c :: (between ++ .started c' :: after)) :
    .settled c c.task.work.ending ∈ between := by
  obtain ⟨served, -, shown⟩ := h.spans
  rw [split, turns_append, turns_cons, turns_append, turns_cons] at shown
  exact List.mem_of_mem_filter (Queue.settled_between short shown.symm)

end Exclusive.Chronicle

namespace Exclusive

theorem length_inHand_le (s : Exclusive ν) : s.inHand.length ≤ 1 := by
  unfold inHand
  split <;> simp

/-- Whatever is submitted, nested tasks included, and whenever gates are opened, the log
of a section says the following. Calls are numbered as they are submitted. They are
started in that order, and each at most once. Between the start of a call and the next
start the first one is settled. Each is settled at most once, with the value or the error
that its own task ends with. Moves that differ only in how tasks end lead to the same
events and to the same section, the endings and the work of failed tasks apart: a task
that fails changes nothing for those behind it. -/
theorem run_orderly (moves : List (Move ν)) :
    let log := (initial.run moves).2
    (submissions log).map Call.number = List.range (submissions log).length ∧
    starts log <+: submissions log ∧
    (starts log).Nodup ∧
    (∀ before between after c c',
      log = before ++ .started c :: (between ++ .started c' :: after) →
        ∃ outcome, .settled c outcome ∈ between) ∧
    ((settlements log).map Prod.fst).Nodup ∧
    (∀ c outcome, .settled c outcome ∈ log → outcome = c.task.work.ending) ∧
    (∀ others : List (Move ν), others.map Move.shape = moves.map Move.shape →
      outline (initial.run others).2 = outline log ∧
        (initial.run others).1.shape = (initial.run moves).1.shape) := by
  intro log
  have chronicle := (Recorded.run moves).chronicle
  obtain ⟨served, started, settled⟩ := chronicle.settlements_eq
  have distinct := chronicle.nodup_starts
  refine ⟨?_, ?_, distinct, ?_, ?_, ?_, ?_⟩
  · have count := congrArg List.length chronicle.numbers
    rw [List.length_map, List.length_range] at count
    rw [chronicle.numbers, ← count]
  · exact ⟨_, chronicle.order.symm⟩
  · intro before between after c c' split
    exact ⟨_, chronicle.settled_between (length_inHand_le _) split⟩
  · rw [started] at distinct
    have calls : (settlements log).map Prod.fst = served := by
      simp [log, settled, Function.comp_def]
    rw [calls]
    exact (List.nodup_append.mp distinct).1
  · intro c outcome member
    rw [← mem_settlements, settled] at member
    obtain ⟨_, _, same⟩ := List.mem_map.mp member
    cases same
    rfl
  · intro others same
    have first := run_shape (initial : Exclusive ν) others
    have second := run_shape (initial : Exclusive ν) moves
    rw [same] at first
    exact ⟨first.2.symm.trans second.2, first.1.symm.trans second.1⟩

end Exclusive
end Hid.Queue
