import Hid.Queue.Exclusive

/-!
Runs of an exclusive section. A run is a list of moves: tasks are submitted from outside,
gates are opened, and the section goes on by one step, in any order. What a run does is
read off its log.

* `perform_eq` says what a task does up to its next pause, in closed form.
* `run_induction` carries a property of a section and the log so far through a run.
* `run_flush`: to let everything run is a run of steps alone.
-/

namespace Hid.Queue

variable {ν : Type}

/-- What may happen to a section. -/
inductive Move (ν : Type) where
  | submit (t : Task ν)
  | unlock (gate : String)
  /-- The section goes on by one step, if it can. -/
  | advance

namespace Exclusive

def step (s : Exclusive ν) : Move ν → Exclusive ν × List (TaskEvent ν)
  | .submit t => s.submit t
  | .unlock gate => (s.unlock gate, [])
  | .advance => s.advance?.getD (s, [])

def run (s : Exclusive ν) : List (Move ν) → Exclusive ν × List (TaskEvent ν)
  | [] => (s, [])
  | move :: rest =>
      let (s', events) := s.step move
      let (s'', later) := s'.run rest
      (s'', events ++ later)

theorem run_cons (s : Exclusive ν) (move : Move ν) (rest : List (Move ν)) :
    s.run (move :: rest) =
      (((s.step move).1.run rest).1, (s.step move).2 ++ ((s.step move).1.run rest).2) := rfl

/-- A run goes on from where its first part left the section. -/
theorem run_append (s : Exclusive ν) (first second : List (Move ν)) :
    s.run (first ++ second) =
      (((s.run first).1.run second).1, (s.run first).2 ++ ((s.run first).1.run second).2) := by
  induction first generalizing s with
  | nil => simp [run]
  | cons move rest ih => simp [run_cons, ih]

/-- What every step keeps of a section and the log so far, every run keeps. -/
theorem run_induction {P : Exclusive ν → List (TaskEvent ν) → Prop}
    (keeps : ∀ s log move, P s log → P (s.step move).1 (log ++ (s.step move).2))
    {s : Exclusive ν} {log : List (TaskEvent ν)} (holds : P s log) (moves : List (Move ν)) :
    P (s.run moves).1 (log ++ (s.run moves).2) := by
  induction moves generalizing s log with
  | nil => simpa [run] using holds
  | cons move rest ih =>
      rw [run_cons, ← List.append_assoc]
      exact ih (keeps s log move holds)

/-- Letting everything run is taking steps until none is left. -/
theorem run_flush (s : Exclusive ν) :
    ∃ n ≤ s.outstanding, s.run (List.replicate n .advance) = s.flush ∧
      s.flush.1.advance? = none := by
  induction s using flush.induct with
  | case1 s stuck =>
      refine ⟨0, Nat.zero_le _, ?_, ?_⟩
      · rw [flush_of_stuck stuck, List.replicate_zero, run]
      · rw [flush_of_stuck stuck]
        exact stuck
  | case2 s s' events going s'' later result ih =>
      obtain ⟨n, bound, steps, stuck⟩ := ih
      have less := outstanding_advance going
      refine ⟨n + 1, by omega, ?_, ?_⟩
      · have first : s.step .advance = (s', events) := by rw [step, going, Option.getD_some]
        rw [flush_of_step going, List.replicate_succ, run_cons, first, steps]
      · rw [flush_of_step going]
        exact stuck

end Exclusive

/-! ### Work up to a pause -/

namespace Work

/-- The tasks that work submits before it pauses. -/
def nested : Work ν → List (Task ν)
  | submit id nested rest => ⟨id, nested⟩ :: rest.nested
  | _ => []

/-- Where work pauses. -/
def pause : Work ν → Pause ν
  | submit _ _ rest => rest.pause
  | wait gate rest => .gate gate rest
  | finish ending => .ended ending

end Work

/-- What a call's log shows of the pause that it has reached. -/
def Pause.events (c : Call ν) : Pause ν → List (TaskEvent ν)
  | ended (.ok _) => [.ended c]
  | _ => []

namespace Work

/-- All pauses that work comes to, the last of which is its end. -/
def pauses : Work ν → List (Pause ν)
  | finish ending => [.ended ending]
  | wait gate rest => .gate gate rest :: rest.pauses
  | submit _ _ rest => rest.pauses

theorem pause_mem_pauses (w : Work ν) : w.pause ∈ w.pauses := by
  induction w with
  | finish ending => exact List.mem_singleton_self _
  | wait gate rest _ => exact List.mem_cons_self
  | submit id nested rest _ ih => exact ih

/-- What is left behind a gate comes to no other pauses. -/
theorem pauses_of_gate {w rest : Work ν} {gate : String} (gated : .gate gate rest ∈ w.pauses) :
    ∀ p ∈ rest.pauses, p ∈ w.pauses := by
  induction w with
  | finish ending => simp [pauses] at gated
  | wait name later ih =>
      intro p member
      rcases List.mem_cons.mp gated with same | behind
      · cases same
        exact List.mem_cons_of_mem _ member
      · exact List.mem_cons_of_mem _ (ih behind p member)
  | submit id nested later _ ih => exact ih gated

/-- Work has one end. -/
theorem ending_of_ended {w : Work ν} {ending : Except String ν}
    (last : .ended ending ∈ w.pauses) : ending = w.ending := by
  induction w with
  | finish own => simpa [pauses, Work.ending] using last
  | wait gate rest ih => exact ih (by simpa [pauses] using last)
  | submit id nested rest _ ih => exact ih last

end Work

/-- Tasks with the numbers from `first` on. -/
def numbered (first : Nat) : List (Task ν) → List (Call ν)
  | [] => []
  | t :: rest => ⟨first, t⟩ :: numbered (first + 1) rest

@[simp] theorem length_numbered (first : Nat) (tasks : List (Task ν)) :
    (numbered first tasks).length = tasks.length := by
  induction tasks generalizing first with
  | nil => rfl
  | cons t rest ih => simp [numbered, ih]

@[simp] theorem map_number_numbered (first : Nat) (tasks : List (Task ν)) :
    (numbered first tasks).map Call.number = List.range' first tasks.length := by
  induction tasks generalizing first with
  | nil => rfl
  | cons t rest ih => simp [numbered, ih, List.range'_succ]

@[simp] theorem map_task_numbered (first : Nat) (tasks : List (Task ν)) :
    (numbered first tasks).map Call.task = tasks := by
  induction tasks generalizing first with
  | nil => rfl
  | cons t rest ih => simp [numbered, ih]

/-- A task that works submits its nested tasks, in their order and with the next numbers,
and then pauses. -/
theorem Exclusive.perform_eq (s : Exclusive ν) (c : Call ν) (w : Work ν) :
    s.perform c w =
      ({ queue := ⟨.held ⟨c, w.pause⟩, s.queue.waiting ++ numbered s.issued w.nested⟩
         issued := s.issued + w.nested.length
         opened := s.opened },
       (numbered s.issued w.nested).map .submitted ++ w.pause.events c) := by
  induction w generalizing s with
  | finish ending =>
      cases ending <;>
        simp [perform, withTurn, Serial.withTurn, Work.nested, Work.pause, numbered, Pause.events]
  | wait gate rest _ =>
      simp [perform, withTurn, Serial.withTurn, Work.nested, Work.pause, numbered, Pause.events]
  | submit id nested rest _ ih =>
      simp only [perform, ih, Work.nested, Work.pause, numbered]
      simp [enlist]
      omega

/-! ### Numbered gates -/

/-- Gates that bear different numbers are different. -/
theorem toString_injective {m n : Nat} (same : toString m = toString n) : m = n := by
  change m.repr = n.repr at same
  rw [Nat.repr_eq_ofList_toDigits, Nat.repr_eq_ofList_toDigits, String.ofList_inj] at same
  rw [← Nat.ofDigitChars_ten_toDigits (n := m), same, Nat.ofDigitChars_ten_toDigits]

/-! ### What a log says -/

@[simp] def TaskEvent.submission? : TaskEvent ν → Option (Call ν)
  | submitted c => some c
  | _ => none

@[simp] def TaskEvent.settlement? : TaskEvent ν → Option (Call ν × Except String ν)
  | settled c outcome => some (c, outcome)
  | _ => none

/-- The calls in the order in which they were submitted. -/
def submissions (log : List (TaskEvent ν)) : List (Call ν) :=
  log.filterMap TaskEvent.submission?

/-- The calls in the order in which they were started. -/
def starts (log : List (TaskEvent ν)) : List (Call ν) := log.filterMap TaskEvent.start?

/-- The calls with their outcomes in the order in which they were settled. -/
def settlements (log : List (TaskEvent ν)) : List (Call ν × Except String ν) :=
  log.filterMap TaskEvent.settlement?

section Logs

variable (event : TaskEvent ν) (log later : List (TaskEvent ν)) (calls : List (Call ν))

@[simp] theorem submissions_nil : submissions ([] : List (TaskEvent ν)) = [] := rfl

@[simp] theorem starts_nil : starts ([] : List (TaskEvent ν)) = [] := rfl

@[simp] theorem submissions_cons :
    submissions (event :: log) = event.submission?.toList ++ submissions log := by
  cases event <;> rfl

@[simp] theorem starts_cons : starts (event :: log) = event.start?.toList ++ starts log := by
  cases event <;> rfl

@[simp] theorem settlements_nil : settlements ([] : List (TaskEvent ν)) = [] := rfl

@[simp] theorem settlements_cons :
    settlements (event :: log) = event.settlement?.toList ++ settlements log := by
  cases event <;> rfl

@[simp] theorem submissions_append :
    submissions (log ++ later) = submissions log ++ submissions later :=
  List.filterMap_append

@[simp] theorem starts_append : starts (log ++ later) = starts log ++ starts later :=
  List.filterMap_append

@[simp] theorem settlements_append :
    settlements (log ++ later) = settlements log ++ settlements later :=
  List.filterMap_append

@[simp] theorem submissions_submitted : submissions (calls.map .submitted) = calls := by
  simp [submissions, List.filterMap_map, Function.comp_def]

@[simp] theorem starts_submitted : starts (calls.map .submitted) = [] := by
  simp [starts]

@[simp] theorem submissions_events (c : Call ν) (p : Pause ν) :
    submissions (p.events c) = [] := by
  unfold Pause.events
  split <;> rfl

@[simp] theorem starts_events (c : Call ν) (p : Pause ν) : starts (p.events c) = [] := by
  unfold Pause.events
  split <;> rfl

theorem mem_settlements {c : Call ν} {outcome : Except String ν} :
    (c, outcome) ∈ settlements log ↔ .settled c outcome ∈ log := by
  unfold settlements
  rw [List.mem_filterMap]
  constructor
  · rintro ⟨event, member, same⟩
    cases event <;> cases same
    exact member
  · intro member
    exact ⟨_, member, rfl⟩

end Logs

end Hid.Queue
