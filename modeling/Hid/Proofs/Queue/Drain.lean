import Hid.Proofs.Queue.Order
import Mathlib.Data.List.Perm.Basic

/-!
An exclusive section always comes to rest, and it rests for one reason only: everything
that was submitted is settled, or the task in hand waits for a closed gate. `run_drains`
says so of every state that a run leads to, and that with all gates open nothing is left
over, at whatever depth a task was submitted.

The account of tasks behind it is `submitted_run`: the tasks that a run has submitted and
those that are still to be submitted are the ones handed in from outside, with all that
are nested in them.
-/

namespace Hid.Queue

variable {ν : Type}

/-- The tasks that work submits, at any depth. -/
def Work.family : Work ν → List (Task ν)
  | finish _ => []
  | wait _ rest => rest.family
  | submit id nested rest => ⟨id, nested⟩ :: (nested.family ++ rest.family)

/-- A task and all that are nested in it, at any depth. -/
def Task.family (t : Task ν) : List (Task ν) := t :: t.work.family

/-- The gates that work itself waits for. -/
def Work.gates : Work ν → List String
  | finish _ => []
  | wait gate rest => gate :: rest.gates
  | submit _ _ rest => rest.gates

/-- The tasks that moves hand in from outside. -/
def handedIn (moves : List (Move ν)) : List (Task ν) :=
  moves.filterMap fun
    | .submit t => some t
    | _ => none

def Pause.family : Pause ν → List (Task ν)
  | gate _ rest => rest.family
  | ended _ => []

def Turn.family : Turn (Held ν) → List (Task ν)
  | held item => item.pause.family
  | _ => []

theorem Work.mem_gates {w rest : Work ν} {gate : String} (gated : .gate gate rest ∈ w.pauses) :
    gate ∈ w.gates := by
  induction w with
  | finish ending => simp [pauses] at gated
  | wait name later ih =>
      rcases List.mem_cons.mp gated with same | behind
      · cases same
        exact List.mem_cons_self
      · exact List.mem_cons_of_mem _ (ih behind)
  | submit id nested later _ ih => exact ih gated

/-- What work submits is what it submits before its pause, what is nested in that, and
what it submits behind the pause. -/
theorem Work.family_perm (w : Work ν) :
    w.family.Perm (w.nested ++ (w.nested.flatMap (·.work.family) ++ w.pause.family)) := by
  induction w with
  | finish ending => exact .refl _
  | wait gate rest _ => exact .refl _
  | submit id nested rest _ ih =>
      simp only [family, Work.nested, Work.pause, List.flatMap_cons, List.cons_append]
      refine .cons _ ((ih.append_left _).trans ?_)
      rw [List.append_assoc]
      exact List.perm_append_comm_assoc ..

namespace Exclusive

/-- The tasks that those in hand and in line have still to submit. -/
def unborn (s : Exclusive ν) : List (Task ν) :=
  s.queue.waiting.flatMap (·.task.work.family) ++ s.queue.turn.family

/-- The tasks that a log shows to have been submitted. -/
def submitted (log : List (TaskEvent ν)) : List (Task ν) := (submissions log).map Call.task

theorem submitted_perform (s : Exclusive ν) (c : Call ν) (w : Work ν) :
    (submitted (s.perform c w).2 ++ (s.perform c w).1.unborn).Perm
      (s.queue.waiting.flatMap (·.task.work.family) ++ w.family) := by
  have calls : (numbered s.issued w.nested).flatMap (·.task.work.family) =
      w.nested.flatMap (·.work.family) := by
    have tasks := congrArg (List.flatMap (·.work.family)) (map_task_numbered s.issued w.nested)
    rwa [List.flatMap_map] at tasks
  have fresh : submitted (s.perform c w).2 = w.nested := by simp [submitted, perform_eq]
  have left : (s.perform c w).1.unborn = s.queue.waiting.flatMap (·.task.work.family) ++
      (w.nested.flatMap (·.work.family) ++ w.pause.family) := by
    simp [unborn, perform_eq, calls, Turn.family]
  rw [fresh, left]
  exact (List.perm_append_comm_assoc ..).trans (w.family_perm.symm.append_left _)

theorem submitted_proceed (s : Exclusive ν) :
    (submitted s.proceed.2 ++ s.proceed.1.unborn).Perm
      (s.queue.waiting.flatMap (·.task.work.family)) := by
  unfold proceed
  split
  case h_1 waiting => simp [submitted, unborn, withTurn, waiting, Turn.family]
  case h_2 c rest waiting =>
      have performed := submitted_perform { s with queue.waiting := rest } c c.task.work
      rw [waiting, List.flatMap_cons]
      simpa [submitted] using performed.trans List.perm_append_comm

theorem unborn_enlist (s : Exclusive ν) (t : Task ν) :
    (s.enlist t).unborn.Perm (t.work.family ++ s.unborn) := by
  simp only [unborn, enlist, Serial.waiting_enqueue, Serial.turn_enqueue, List.flatMap_append,
    List.flatMap_singleton, List.append_assoc]
  exact List.perm_append_comm_assoc ..

theorem submitted_submit (s : Exclusive ν) (t : Task ν) :
    (submitted (s.submit t).2 ++ (s.submit t).1.unborn).Perm (t.family ++ s.unborn) := by
  cases turn : s.queue.turn with
  | idle =>
      have proceeded := submitted_proceed (s.enlist t)
      have lined : (s.enlist t).queue.waiting.flatMap (·.task.work.family) =
          s.unborn ++ t.work.family := by simp [enlist, unborn, turn, Turn.family]
      rw [lined] at proceeded
      simpa [submit, turn, submitted, Task.family] using
        proceeded.trans List.perm_append_comm
  | held item => simpa [submit, turn, submitted, Task.family] using unborn_enlist s t
  | between => simpa [submit, turn, submitted, Task.family] using unborn_enlist s t

/-- A step submits tasks that were still to be submitted, or one from outside; what is
nested in that is to be submitted later. -/
theorem submitted_step (s : Exclusive ν) (move : Move ν) :
    (submitted (s.step move).2 ++ (s.step move).1.unborn).Perm
      ((handedIn [move]).flatMap Task.family ++ s.unborn) := by
  cases move with
  | submit t => simpa [step, handedIn] using submitted_submit s t
  | unlock gate => exact .refl _
  | advance =>
      cases turn : s.queue.turn with
      | idle => simp [step, advance?, turn, submitted, handedIn]
      | between =>
          simpa [step, advance?, turn, handedIn, unborn, Turn.family] using submitted_proceed s
      | held item =>
          obtain ⟨c, pause⟩ := item
          cases pause with
          | gate gate rest =>
              by_cases isOpen : gate ∈ s.opened
              · simpa [step, advance?, turn, isOpen, handedIn, unborn, Turn.family,
                  Pause.family] using submitted_perform s c rest
              · simp [step, advance?, turn, isOpen, handedIn, submitted]
          | ended ending =>
              simp [step, advance?, turn, handedIn, submitted, unborn, withTurn, Turn.family,
                Pause.family]

/-- The tasks that a run has submitted and those that are still to be submitted are the
ones from outside, with all that are nested in them, and those that were to be submitted. -/
theorem submitted_run (s : Exclusive ν) (moves : List (Move ν)) :
    (submitted (s.run moves).2 ++ (s.run moves).1.unborn).Perm
      ((handedIn moves).flatMap Task.family ++ s.unborn) := by
  induction moves generalizing s with
  | nil => exact .refl _
  | cons move rest ih =>
      let next := (s.step move).1
      let events := (s.step move).2
      have both : submitted (events ++ (next.run rest).2) =
          submitted events ++ submitted (next.run rest).2 := by simp [submitted]
      have outside : (handedIn (move :: rest)).flatMap Task.family =
          (handedIn [move]).flatMap Task.family ++ (handedIn rest).flatMap Task.family := by
        rw [← List.flatMap_append]
        cases move <;> rfl
      rw [run_cons, both, outside, List.append_assoc, List.append_assoc]
      have first : (submitted events ++ next.unborn).Perm _ := submitted_step s move
      have apart : (submitted events ++ ((handedIn rest).flatMap Task.family ++ next.unborn)).Perm
          ((handedIn rest).flatMap Task.family ++ (submitted events ++ next.unborn)) :=
        List.perm_append_comm_assoc ..
      have joined := apart.trans (first.append_left _)
      exact ((ih next).append_left _).trans (joined.trans (List.perm_append_comm_assoc ..))

end Exclusive

/-! ### Rest -/

/-- The calls that have been submitted and not started. -/
def unstarted (log : List (TaskEvent ν)) : List (Call ν) :=
  (submissions log).filter fun c => c.number ∉ (starts log).map Call.number

def Settled (log : List (TaskEvent ν)) (c : Call ν) : Prop :=
  ∃ outcome, .settled c outcome ∈ log

namespace Exclusive

/-- A section rests if it is idle or if the task in hand waits for a closed gate. -/
theorem advance?_eq_none_iff (s : Exclusive ν) :
    s.advance? = none ↔ s.queue.turn = .idle ∨
      ∃ c gate rest, s.queue.turn = .held ⟨c, .gate gate rest⟩ ∧ gate ∉ s.opened := by
  match turn : s.queue.turn with
  | .idle => simp [advance?, turn]
  | .between => simp [advance?, turn]
  | .held ⟨c, .gate gate rest⟩ => simp [advance?, turn]
  | .held ⟨c, .ended ending⟩ => simp [advance?, turn]

theorem opened_perform (s : Exclusive ν) (c : Call ν) (w : Work ν) :
    (s.perform c w).1.opened = s.opened := by
  rw [perform_eq]

theorem opened_proceed (s : Exclusive ν) : s.proceed.1.opened = s.opened := by
  unfold proceed
  split
  · rfl
  · exact opened_perform ..

theorem opened_advance {s s' : Exclusive ν} {events : List (TaskEvent ν)}
    (step : s.advance? = some (s', events)) : s'.opened = s.opened := by
  unfold advance? at step
  split at step
  case h_1 => cases step
  case h_2 =>
      have same := congrArg (opened ∘ Prod.fst) (Option.some.inj step)
      exact same.symm.trans (opened_proceed s)
  case h_3 =>
      split at step
      · have same := congrArg (opened ∘ Prod.fst) (Option.some.inj step)
        exact same.symm.trans (opened_perform ..)
      · cases step
  case h_4 =>
      cases step
      rfl

theorem opened_flush (s : Exclusive ν) : s.flush.1.opened = s.opened := by
  induction s using flush.induct with
  | case1 s stuck => rw [flush_of_stuck stuck]
  | case2 s s' events going _ _ _ ih => rw [flush_of_step going, ih, opened_advance going]

namespace Recorded

variable {s : Exclusive ν} {log : List (TaskEvent ν)}

/-- What waits are the calls that have been submitted and not started. -/
theorem unstarted_eq (h : Recorded s log) : unstarted log = s.queue.waiting := by
  have order := h.chronicle.order
  have distinct : ((submissions log).map Call.number).Nodup :=
    h.chronicle.numbers ▸ List.nodup_range
  rw [order, List.map_append] at distinct
  have apart := (List.nodup_append.mp distinct).2.2
  have gone : (starts log).filter (fun c => c.number ∉ (starts log).map Call.number) = [] := by
    rw [List.filter_eq_nil_iff]
    intro c member
    simpa using ⟨c, member, rfl⟩
  have left : s.queue.waiting.filter (fun c => c.number ∉ (starts log).map Call.number) =
      s.queue.waiting := by
    rw [List.filter_eq_self]
    intro c member
    have fresh : c.number ∉ (starts log).map Call.number := fun started =>
      apart _ started _ (List.mem_map_of_mem member) rfl
    simpa using fresh
  rw [unstarted, order, List.filter_append, gone, left, List.nil_append]

/-- The calls that are settled are those that have been started and are not in hand. -/
theorem settled_iff (h : Recorded s log) :
    ∃ served, starts log = served ++ s.inHand ∧ ∀ c, Settled log c ↔ c ∈ served := by
  obtain ⟨served, started, settled⟩ := h.chronicle.settlements_eq
  refine ⟨served, started, fun c => ?_⟩
  simp only [Settled, ← mem_settlements, settled]
  simp

theorem settled_of_idle (h : Recorded s log) (idle : s.queue.turn = .idle) :
    ∀ c ∈ submissions log, Settled log c := by
  obtain ⟨served, started, settled⟩ := h.settled_iff
  intro c member
  rw [h.chronicle.order, h.awake idle, List.append_nil, started, inHand, idle,
    List.append_nil] at member
  exact (settled c).mpr member

/-- The call in hand is the only one that is started and not settled. -/
theorem started_iff_of_held (h : Recorded s log) {held : Held ν}
    (turn : s.queue.turn = .held held) (c : Call ν) :
    (c ∈ starts log ∧ ¬ Settled log c) ↔ c = held.call := by
  obtain ⟨served, started, settled⟩ := h.settled_iff
  have distinct := h.chronicle.nodup_starts
  simp only [inHand, turn] at started
  rw [started] at distinct ⊢
  have apart := (List.nodup_append.mp distinct).2.2
  rw [settled, List.mem_append, List.mem_singleton]
  constructor
  · rintro ⟨inServed | same, unsettled⟩
    · exact absurd inServed unsettled
    · exact same
  · rintro rfl
    exact ⟨.inr rfl, fun inServed => apart _ inServed _ (List.mem_singleton_self _) rfl⟩

/-- A section rests because all calls are settled, or because the only call that is started
and not settled waits for a closed gate. -/
theorem at_rest (h : Recorded s log) (stuck : s.advance? = none) :
    (s.queue.busy = false ↔ ∀ c ∈ submissions log, Settled log c) ∧
      (s.queue.busy = false → s.queue.pending = 0) ∧
      (s.queue.busy = true → ∃ c gate rest,
        s.queue.turn = .held ⟨c, .gate gate rest⟩ ∧ gate ∉ s.opened ∧
          ∀ c', (c' ∈ starts log ∧ ¬ Settled log c') ↔ c' = c) := by
  rcases (advance?_eq_none_iff s).mp stuck with idle | ⟨c, gate, later, turn, closed⟩
  · have done := h.settled_of_idle idle
    have free := Serial.busy_eq_false.mpr idle
    refine ⟨⟨fun _ => done, fun _ => free⟩, ?_, ?_⟩
    · intro _
      rw [Serial.pending, h.awake idle, List.length_nil]
    · intro busy
      rw [free] at busy
      cases busy
  · have only := h.started_iff_of_held turn
    have busy : s.queue.busy = true := by simp [Serial.busy, turn]
    refine ⟨⟨?_, ?_⟩, ?_, fun _ => ⟨c, gate, later, turn, closed, only⟩⟩
    · intro free
      rw [busy] at free
      cases free
    · intro done
      obtain ⟨started, unsettled⟩ := (only c).mpr rfl
      have member : c ∈ submissions log := by
        rw [h.chronicle.order]
        exact List.mem_append_left _ started
      exact absurd (done c member) unsettled
    · intro free
      rw [busy] at free
      cases free

end Recorded

/-- An idle section starts a task in the step that submits it. -/
theorem started_of_idle {s : Exclusive ν} {log : List (TaskEvent ν)} (h : Recorded s log)
    (idle : s.queue.turn = .idle) (t : Task ν) :
    .started ⟨s.issued, t⟩ ∈ (s.submit t).2 ∧ (s.submit t).1.queue.busy = true := by
  have empty := h.awake idle
  simp [submit, idle, proceed, enlist, empty, perform_eq, Serial.busy]

/-- The tasks of a run that rests with all their gates open are settled, each once, and
none is left in line or to be submitted. -/
theorem rested (moves : List (Move ν)) (rest : (initial.run moves).1.advance? = none)
    (unlocked : ∀ t ∈ (handedIn moves).flatMap Task.family, ∀ gate ∈ t.work.gates,
      gate ∈ (initial.run moves).1.opened) :
    (initial.run moves).1.queue.busy = false ∧ (initial.run moves).1.queue.pending = 0 ∧
      settlements (initial.run moves).2 =
        (submissions (initial.run moves).2).map (fun c => (c, c.task.work.ending)) ∧
      (submitted (initial.run moves).2).Perm ((handedIn moves).flatMap Task.family) := by
  have record := Recorded.run moves
  have account := submitted_run (initial : Exclusive ν) moves
  have none_before : (initial : Exclusive ν).unborn = [] := rfl
  rw [none_before, List.append_nil] at account
  generalize (initial.run moves).1 = s at *
  generalize (initial.run moves).2 = log at *
  obtain ⟨served, started, settled⟩ := record.chronicle.settlements_eq
  have order := record.chronicle.order
  rcases (advance?_eq_none_iff s).mp rest with idle | ⟨c, gate, later, turn, closed⟩
  · have empty := record.awake idle
    have none_left : s.unborn = [] := by simp [unborn, idle, empty, Turn.family]
    simp only [inHand, idle, List.append_nil] at started
    rw [empty, List.append_nil] at order
    rw [none_left, List.append_nil] at account
    exact ⟨Serial.busy_eq_false.mpr idle, by simp [Serial.pending, empty],
      by rw [settled, order, started], account⟩
  · simp only [inHand, turn] at started
    have member : c.task ∈ submitted log := by
      rw [submitted, order, started]
      exact List.mem_map_of_mem (by simp)
    have known := account.subset (List.mem_append_left _ member)
    exact absurd (unlocked _ known gate (Work.mem_gates (record.own _ turn))) closed

/-- Wherever a run leads, the calls in line are those that have been submitted and not
started. A section that rests is idle exactly if all calls are settled, and then nothing
is in line; otherwise one call is started and not settled, and it waits for a closed gate.
Letting everything run comes to rest after finitely many steps, and if all gates of all
tasks are open, nested ones included, then at the end each of these tasks has been
submitted and settled once, nothing is in line and the section is idle. A task that is
submitted to an idle section is started at once. -/
theorem run_drains (moves : List (Move ν)) :
    let s := (initial.run moves).1
    let log := (initial.run moves).2
    s.queue.pending = (unstarted log).length ∧
    (s.advance? = none →
      (s.queue.busy = false ↔ ∀ c ∈ submissions log, Settled log c) ∧
      (s.queue.busy = false → s.queue.pending = 0) ∧
      (s.queue.busy = true → ∃ c gate rest,
        s.queue.turn = .held ⟨c, .gate gate rest⟩ ∧ gate ∉ s.opened ∧
          ∀ c', (c' ∈ starts log ∧ ¬ Settled log c') ↔ c' = c)) ∧
    (∃ n, s.run (List.replicate n .advance) = s.flush ∧ s.flush.1.advance? = none) ∧
    ((∀ t ∈ (handedIn moves).flatMap Task.family, ∀ gate ∈ t.work.gates, gate ∈ s.opened) →
      s.flush.1.queue.busy = false ∧ s.flush.1.queue.pending = 0 ∧
      settlements (log ++ s.flush.2) =
        (submissions (log ++ s.flush.2)).map (fun c => (c, c.task.work.ending)) ∧
      (submitted (log ++ s.flush.2)).Perm ((handedIn moves).flatMap Task.family)) ∧
    (s.queue.busy = false → ∀ t,
      .started ⟨s.issued, t⟩ ∈ (s.submit t).2 ∧ (s.submit t).1.queue.busy = true) := by
  intro s log
  have record := Recorded.run moves
  obtain ⟨n, -, steps, rest⟩ := run_flush s
  refine ⟨?_, record.at_rest, ⟨n, steps, rest⟩, ?_, ?_⟩
  · rw [Serial.pending, record.unstarted_eq]
  · intro unlocked
    have run := run_append initial moves (List.replicate n .advance)
    have outside : handedIn (moves ++ List.replicate n .advance) = handedIn moves := by
      simp [handedIn]
    have rested := rested (moves ++ List.replicate n .advance)
    rw [run, outside, steps, opened_flush] at rested
    exact rested rest unlocked
  · intro free
    exact started_of_idle record (Serial.busy_eq_false.mp free)

/-- A nested task is settled after the one that has submitted it, which waits for a gate. -/
example :
    let outer : Task Nat :=
      ⟨"outer", .submit "nested" (.finish (.error "no")) (.wait "gate" (.finish (.ok 1)))⟩
    let done := initial.run ([.submit outer, .unlock "gate"] ++ List.replicate 5 .advance)
    (settlements done.2).map (fun (c, outcome) => (c.task.id, outcome)) =
      [("outer", .ok 1), ("nested", .error "no")] ∧ done.1.queue.busy = false := by
  decide

end Exclusive
end Hid.Queue
