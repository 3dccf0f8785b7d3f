import Hid.Activation.Plan

/-!
Runs of a line of activations. A run is a list of moments, in each of which one thing
happens under the rule that is in force: an activation arrives, the device that is being
asked answers, or the line goes on by one step. The rule may be another in each moment.

* `stepped` says once what a step can be; whatever steps keep is shown by cases on it.
* `run_induction` carries a property of a line and the log so far through a run, and
  `run_balance` an account of what the line takes in and gives out.
* `run_advances`: a line that is left to itself comes to rest.
* `submit_eq_step`, `drain_eq_run`: a line whose devices answer by a plan does nothing but
  make such runs.
-/

namespace Hid.Activation

/-- What may happen to a line. -/
inductive Move where
  | activate (job : Job)
  /-- The device that is being asked answers. No other device can. -/
  | answer (answer : Answer)
  /-- The line goes on by one step, if it can. -/
  | advance

/-- What happens, and the rule that is in force when it does. -/
structure Moment where
  rule : Rule
  move : Move

/-- The activation that arrives in a moment, if one does. -/
def Moment.arrival (m : Moment) : List Job :=
  match m.move with
  | .activate job => [job]
  | _ => []

/-- The activations in their order of arrival. -/
def arrivals (moments : List Moment) : List Job := moments.flatMap Moment.arrival

/-! ### What a log shows -/

namespace Event

@[simp] def validated? : Event → Option DeviceHandle
  | validated h _ => some h
  | _ => none

@[simp] def asked? : Event → Option DeviceHandle
  | asked h => some h
  | _ => none

@[simp] def noted? : Event → Option (DeviceHandle × Answer)
  | noted h answer => some (h, answer)
  | _ => none

@[simp] def settled? : Event → Option (String × Answer)
  | settled label outcome => some (label, outcome)
  | _ => none

end Event

/-! ### Steps -/

namespace Line

def step (l : Line) (m : Moment) : Line × List Event :=
  match m.move with
  | .activate job => l.submit m.rule job
  | .answer answer => (l.answer answer, [])
  | .advance => (l.advance? m.rule).getD (l, [])

def run (l : Line) : List Moment → Line × List Event
  | [] => (l, [])
  | m :: rest =>
      let (l', events) := l.step m
      let (l'', later) := l'.run rest
      (l'', events ++ later)

theorem run_cons (l : Line) (m : Moment) (rest : List Moment) :
    l.run (m :: rest) = (((l.step m).1.run rest).1, (l.step m).2 ++ ((l.step m).1.run rest).2) :=
  rfl

/-- What every step keeps of a line and the log so far, every run keeps. -/
theorem run_induction {P : Line → List Event → Prop}
    (keeps : ∀ l log m, P l log → P (l.step m).1 (log ++ (l.step m).2))
    {l : Line} {log : List Event} (holds : P l log) (moments : List Moment) :
    P (l.run moments).1 (log ++ (l.run moments).2) := by
  induction moments generalizing l log with
  | nil => simpa [run] using holds
  | cons m rest ih =>
      rw [run_cons, ← List.append_assoc]
      exact ih (keeps l log m holds)

/-- The activation in hand and where it stands. -/
def inHand (l : Line) : Option (Job × Stage) :=
  match l.queue.turn with
  | .held item => some item
  | _ => none

section InHand

variable (l : Line) (item : Job × Stage)

@[simp] theorem inHand_held (r : Registry) (waiting : List Job) :
    (Line.mk r ⟨.held item, waiting⟩).inHand = some item := rfl

@[simp] theorem inHand_withTurn_held : (l.withTurn (.held item)).inHand = some item := rfl

@[simp] theorem inHand_withTurn_between : (l.withTurn .between).inHand = none := rfl

@[simp] theorem inHand_ofRegistry (r : Registry) : (ofRegistry r).inHand = none := rfl

@[simp] theorem registry_ofRegistry (r : Registry) : (ofRegistry r).registry = r := rfl

@[simp] theorem waiting_ofRegistry (r : Registry) : (ofRegistry r).queue.waiting = [] := rfl

@[simp] theorem inHand_enqueue (job : Job) :
    (Line.mk l.registry (l.queue.enqueue job)).inHand = l.inHand := rfl

end InHand

/-- The answer that a device gives in a moment. A device that is not asked gives none. -/
def heard (l : Line) (m : Moment) : List Answer :=
  match l.inHand, m.move with
  | some (_, .asking), .answer answer => [answer]
  | _, _ => []

theorem heard_eq_nil {l : Line} (quiet : ∀ job, l.inHand ≠ some (job, .asking)) (m : Moment) :
    l.heard m = [] := by
  unfold heard
  split
  case h_1 hand _ => exact absurd hand (quiet _)
  case h_2 => rfl

/-- What a step can be, with all that it depends on. -/
inductive Stepped (l : Line) (m : Moment) : Line → List Event → Prop where
  /-- What happens does not concern the line. -/
  | still (quiet : m.arrival = []) (deaf : l.heard m = []) : Stepped l m l []
  /-- An activation lines up behind the one in hand. -/
  | lined {job : Job} (busy : l.queue.turn ≠ .idle) (arrives : m.move = .activate job) :
      Stepped l m { l with queue := l.queue.enqueue job } []
  /-- The device that is being asked answers. -/
  | answered {job : Job} {answer : Answer} (hand : l.inHand = some (job, .asking))
      (answers : m.move = .answer answer) :
      Stepped l m (l.withTurn (.held (job, .answered answer))) []
  | noted {job : Job} {answer : Answer} (hand : l.inHand = some (job, .answered answer))
      (quiet : m.arrival = []) :
      Stepped l m
        ({ l with registry := l.registry.afterDevice job.handle answer }.withTurn
          (.held (job, .decided (Registry.outcome answer))))
        [.noted job.handle answer]
  | settled {job : Job} {outcome : Answer} (hand : l.inHand = some (job, .decided outcome))
      (quiet : m.arrival = []) :
      Stepped l m (l.withTurn .between) [.settled job.label outcome]
  /-- Nothing is left in line. -/
  | cleared (free : l.inHand = none) (empty : l.queue.waiting ++ m.arrival = []) :
      Stepped l m (ofRegistry l.registry) []
  /-- The next activation is decided without its device. -/
  | spared {job : Job} {rest : List Job} {code : ResultCode} (free : l.inHand = none)
      (next : l.queue.waiting ++ m.arrival = job :: rest)
      (decision : l.registry.consider (m.rule job.handle) job.handle = .settled code) :
      Stepped l m { l with queue := ⟨.held (job, .decided (.ok code)), rest⟩ }
        [.validated job.handle (m.rule job.handle)]
  /-- The next activation goes to its device. -/
  | asked {job : Job} {rest : List Job} (free : l.inHand = none)
      (next : l.queue.waiting ++ m.arrival = job :: rest)
      (decision : l.registry.consider (m.rule job.handle) job.handle = .askDevice) :
      Stepped l m { l with queue := ⟨.held (job, .asking), rest⟩ }
        [.validated job.handle (m.rule job.handle), .asked job.handle]

/-- To look for the next activation is a step, with what has just arrived in line. -/
theorem stepped_proceed {l : Line} {m : Moment} (free : l.inHand = none) :
    let l' := { l with queue.waiting := l.queue.waiting ++ m.arrival }
    Stepped l m (l'.proceed m.rule).1 (l'.proceed m.rule).2 := by
  intro l'
  unfold proceed
  split
  case h_1 empty =>
      have target : l'.withTurn .idle = ofRegistry l.registry :=
        congrArg (fun waiting => Line.mk l.registry ⟨.idle, waiting⟩) empty
      rw [target]
      exact .cleared free empty
  case h_2 job rest next =>
      unfold start
      simp only
      split
      case h_1 code decision => exact .spared free next decision
      case h_2 decision => exact .asked free next decision

theorem stepped (l : Line) (m : Moment) : Stepped l m (l.step m).1 (l.step m).2 := by
  obtain ⟨rule, move⟩ := m
  cases move with
  | activate job =>
      simp only [step, submit]
      split
      case h_1 turn =>
          have free : l.inHand = none := by rw [inHand, turn]
          exact stepped_proceed (m := ⟨rule, .activate job⟩) free
      case h_2 busy => exact .lined busy rfl
  | answer answer =>
      simp only [step, Line.answer]
      split
      case h_1 job turn =>
          have hand : l.inHand = some (job, .asking) := by rw [inHand, turn]
          exact .answered hand rfl
      case h_2 other =>
          refine .still rfl (heard_eq_nil (fun job hand => ?_) _)
          unfold inHand at hand
          split at hand <;> cases hand
          exact other job ‹_›
  | advance =>
      have deaf : l.heard ⟨rule, .advance⟩ = [] := by
        unfold heard
        split <;> simp_all
      simp only [step, advance?]
      split
      case h_1 => exact .still rfl deaf
      case h_2 turn =>
          have free : l.inHand = none := by rw [inHand, turn]
          have found := stepped_proceed (m := ⟨rule, .advance⟩) free
          simpa [Moment.arrival] using found
      case h_3 => exact .still rfl deaf
      case h_4 job answer turn =>
          have hand : l.inHand = some (job, .answered answer) := by rw [inHand, turn]
          exact .noted hand rfl
      case h_5 job outcome turn =>
          have hand : l.inHand = some (job, .decided outcome) := by rw [inHand, turn]
          exact .settled hand rfl

/-! ### Accounts

Nothing is lost between the steps of a run: what a line holds and what it takes in is what
it gives out and what it holds in the end. -/

/-- What the steps of a run give, put together. -/
def gather {α : Type} (give : Line → Moment → List α) (l : Line) : List Moment → List α
  | [] => []
  | m :: rest => give l m ++ (l.step m).1.gather give rest

theorem gather_log {α : Type} (show? : Event → Option α) (l : Line) (moments : List Moment) :
    l.gather (fun l m => (l.step m).2.filterMap show?) moments =
      (l.run moments).2.filterMap show? := by
  induction moments generalizing l with
  | nil => rfl
  | cons m rest ih => rw [gather, run_cons, List.filterMap_append, ih]

theorem gather_moments {α : Type} (give : Moment → List α) (l : Line) (moments : List Moment) :
    l.gather (fun _ m => give m) moments = moments.flatMap give := by
  induction moments generalizing l with
  | nil => rfl
  | cons m rest ih => rw [gather, List.flatMap_cons, ih]

/-- An account that every step keeps, every run keeps. -/
theorem run_balance {α : Type} (held : Line → List α) (take : Line → Moment → List α)
    (give? : Event → Option α)
    (balance : ∀ l m, held l ++ take l m = (l.step m).2.filterMap give? ++ held (l.step m).1)
    (l : Line) (moments : List Moment) :
    held l ++ l.gather take moments =
      (l.run moments).2.filterMap give? ++ held (l.run moments).1 := by
  induction moments generalizing l with
  | nil => simp [gather, run]
  | cons m rest ih =>
      rw [run_cons, gather, List.filterMap_append, List.append_assoc, ← ih, ← List.append_assoc,
        ← List.append_assoc, balance]

/-- The answers that devices give in a run. -/
def answers (l : Line) (moments : List Moment) : List Answer := l.gather heard moments

/-- The rules by which a run validates, in the order of the validations. -/
def rules (l : Line) (moments : List Moment) : List Rule :=
  l.gather (fun l m => ((l.step m).2.filterMap Event.validated?).map fun _ => m.rule) moments

/-- The device that has been asked and whose answer has not been noted. -/
def outstanding (l : Line) : List DeviceHandle :=
  match l.inHand with
  | some (job, .asking) => [job.handle]
  | some (job, .answered _) => [job.handle]
  | _ => []

theorem length_outstanding_le (l : Line) : l.outstanding.length ≤ 1 := by
  unfold outstanding
  split <;> simp

/-- The answer that has been given and not been noted. -/
def unnoted (l : Line) : List Answer :=
  match l.inHand with
  | some (_, .answered answer) => [answer]
  | _ => []

/-- The labels of the activations that have arrived and not been settled. -/
def unsettled (l : Line) : List String :=
  (l.inHand.toList.map (·.1.label)) ++ l.queue.waiting.map Job.label

section Balance

variable {l l' : Line} {m : Moment} {events : List Event}

theorem Stepped.asked_balance (h : Stepped l m l' events) :
    l.outstanding ++ events.filterMap Event.asked? =
      events.filterMap (fun e => e.noted?.map Prod.fst) ++ l'.outstanding := by
  cases h with
  | still => simp
  | lined => simp [outstanding]
  | answered hand => simp [outstanding, hand]
  | noted hand => simp [outstanding, hand]
  | settled hand => simp [outstanding, hand]
  | cleared free => simp [outstanding, free]
  | spared free => simp [outstanding, free]
  | asked free => simp [outstanding, free, List.filterMap_cons]

theorem Stepped.heard_balance (h : Stepped l m l' events) :
    l.unnoted ++ l.heard m =
      events.filterMap (fun e => e.noted?.map Prod.snd) ++ l'.unnoted := by
  cases h with
  | still _ deaf => simp [deaf]
  | lined _ arrives => simp [unnoted, heard, arrives]
  | answered hand answers => simp [unnoted, heard, hand, answers]
  | noted hand => simp [unnoted, heard, hand]
  | settled hand => simp [unnoted, heard, hand]
  | cleared free => simp [unnoted, heard, free]
  | spared free => simp [unnoted, heard, free]
  | asked free => simp [unnoted, heard, free]

theorem Stepped.validated_balance (h : Stepped l m l' events) :
    l.queue.waiting.map Job.handle ++ m.arrival.map Job.handle =
      events.filterMap Event.validated? ++ l'.queue.waiting.map Job.handle := by
  rw [← List.map_append]
  cases h with
  | still quiet => simp [quiet]
  | lined _ arrives => simp [Moment.arrival, arrives]
  | answered _ answers => simp [Moment.arrival, answers]
  | noted _ quiet => simp [quiet]
  | settled _ quiet => simp [quiet]
  | cleared _ empty => simp [empty]
  | spared _ next => simp [next]
  | asked _ next => simp [next]

theorem Stepped.settled_balance (h : Stepped l m l' events) :
    l.unsettled ++ m.arrival.map Job.label =
      events.filterMap (fun e => e.settled?.map Prod.fst) ++ l'.unsettled := by
  unfold unsettled
  rw [List.append_assoc, ← List.map_append]
  cases h with
  | still quiet => simp [quiet]
  | lined _ arrives => simp [Moment.arrival, arrives]
  | answered hand answers => simp [hand, Moment.arrival, answers]
  | noted hand quiet => simp [hand, quiet]
  | settled hand quiet => simp [hand, quiet]
  | cleared free empty => simp [free, empty]
  | spared free next => simp [free, next]
  | asked free next => simp [free, next]

/-- No activation is left waiting at an idle line. -/
theorem Stepped.awake (h : Stepped l m l' events) (awake : l.queue.Awake) : l'.queue.Awake := by
  cases h with
  | still => exact awake
  | lined busy => exact fun idle => absurd idle busy
  | cleared => exact fun _ => rfl
  | _ => simp [Queue.Serial.Awake, withTurn]

end Balance

section Accounts

variable (l : Line) (moments : List Moment)

/-- Of the devices that have been asked, all but the last have had their answers noted. -/
theorem run_asked :
    l.outstanding ++ (l.run moments).2.filterMap Event.asked? =
      (l.run moments).2.filterMap (fun e => e.noted?.map Prod.fst) ++
        (l.run moments).1.outstanding := by
  have account := run_balance outstanding (fun l m => (l.step m).2.filterMap Event.asked?) _
    (fun l m => (l.stepped m).asked_balance) l moments
  rwa [gather_log] at account

/-- The answers that devices have given are noted in order, but for the last. -/
theorem run_heard :
    l.unnoted ++ l.answers moments =
      (l.run moments).2.filterMap (fun e => e.noted?.map Prod.snd) ++
        (l.run moments).1.unnoted :=
  run_balance unnoted heard _ (fun l m => (l.stepped m).heard_balance) l moments

/-- Activations are validated in their order of arrival. -/
theorem run_validated :
    l.queue.waiting.map Job.handle ++ (arrivals moments).map Job.handle =
      (l.run moments).2.filterMap Event.validated? ++
        (l.run moments).1.queue.waiting.map Job.handle := by
  have account := run_balance (fun l => l.queue.waiting.map Job.handle)
    (fun _ m => m.arrival.map Job.handle) _ (fun l m => (l.stepped m).validated_balance) l moments
  rwa [gather_moments, ← List.map_flatMap] at account

/-- Activations are settled in their order of arrival. -/
theorem run_settled :
    l.unsettled ++ (arrivals moments).map Job.label =
      (l.run moments).2.filterMap (fun e => e.settled?.map Prod.fst) ++
        (l.run moments).1.unsettled := by
  have account := run_balance unsettled (fun _ m => m.arrival.map Job.label) _
    (fun l m => (l.stepped m).settled_balance) l moments
  rwa [gather_moments, ← List.map_flatMap] at account

theorem length_rules :
    (l.rules moments).length = ((l.run moments).2.filterMap Event.validated?).length := by
  induction moments generalizing l with
  | nil => rfl
  | cons m rest ih =>
      have later := ih (l.step m).1
      unfold rules at later ⊢
      rw [gather, run_cons, List.length_append, later, List.length_map, List.filterMap_append,
        List.length_append]

/-- As many devices have been asked as have answered, or one more. -/
theorem length_asked (r : Registry) :
    ((((ofRegistry r).run moments).2).filterMap Event.asked?).length +
        ((ofRegistry r).run moments).1.unnoted.length =
      ((ofRegistry r).answers moments).length +
        ((ofRegistry r).run moments).1.outstanding.length := by
  have asked := congrArg List.length (run_asked (ofRegistry r) moments)
  have heard := congrArg List.length (run_heard (ofRegistry r) moments)
  simp only [outstanding, unnoted, inHand_ofRegistry, List.nil_append, List.length_append,
    ← List.map_filterMap, List.length_map] at asked heard ⊢
  omega

/-- No device is asked before the one asked last has answered. -/
theorem length_asked_le (r : Registry) :
    ((((ofRegistry r).run moments).2).filterMap Event.asked?).length ≤
      ((ofRegistry r).answers moments).length + 1 := by
  have count := length_asked moments r
  have one := length_outstanding_le ((ofRegistry r).run moments).1
  omega

theorem run_awake {l : Line} (awake : l.queue.Awake) (moments : List Moment) :
    (l.run moments).1.queue.Awake := by
  induction moments generalizing l with
  | nil => exact awake
  | cons m rest ih => exact ih ((l.stepped m).awake awake)

end Accounts

/-- A line that is left to itself comes to rest. -/
theorem run_advances (l : Line) (rule : Rule) :
    ∃ n, (l.run (List.replicate n ⟨rule, .advance⟩)).1.advance? rule = none := by
  induction size : l.load using Nat.strongRecOn generalizing l with
  | ind size' ih =>
      cases going : l.advance? rule with
      | none => exact ⟨0, going⟩
      | some next =>
          obtain ⟨l', events⟩ := next
          have first : l.step ⟨rule, .advance⟩ = (l', events) := by simp [step, going]
          obtain ⟨n, rest⟩ := ih l'.load (size ▸ load_advance going) l' rfl
          refine ⟨n + 1, ?_⟩
          rw [List.replicate_succ, run_cons, first]
          exact rest

/-- A device that fails leaves the line as it was, and free for the next activation. -/
theorem run_of_error {l : Line} {job : Job} (asked : l.queue.turn = .held (job, .asking))
    (failure : Failure) (rule : Rule) :
    l.run ([.answer (.error failure), .advance, .advance].map (Moment.mk rule)) =
      (l.withTurn .between, [.noted job.handle (.error failure),
        .settled job.label (.error failure)]) := by
  have answered : l.answer (.error failure) =
      l.withTurn (.held (job, .answered (.error failure))) := by
    rw [Line.answer, asked]
  simp only [List.map_cons, List.map_nil, run_cons, step, answered]
  rfl

/-- A line that rests is idle or waits for the device that is being asked. -/
theorem advance?_eq_none_iff (l : Line) (rule : Rule) :
    l.advance? rule = none ↔
      l.queue.turn = .idle ∨ ∃ job, l.queue.turn = .held (job, .asking) := by
  match turn : l.queue.turn with
  | .idle => simp [advance?, turn]
  | .between => simp [advance?, turn]
  | .held (job, .asking) => simp [advance?, turn]
  | .held (job, .answered answer) => simp [advance?, turn]
  | .held (job, .decided outcome) => simp [advance?, turn]

end Line

namespace PlannedLine

theorem submit_eq_step (p : PlannedLine) (rule : Rule) (job : Job) :
    ((p.submit rule job).1.line, (p.submit rule job).2) =
      p.line.step ⟨rule, .activate job⟩ := by
  simp only [submit, Line.step]
  split
  · rfl
  · rw [line_draw]

/-- What a line does whose devices answer by a plan is a run in which nothing arrives. -/
theorem drain_eq_run (p : PlannedLine) (rule : Rule) :
    ∃ moments, arrivals moments = [] ∧
      p.line.run moments = ((p.drain rule).1.line, (p.drain rule).2) := by
  induction p using drain.induct rule with
  | case1 p stuck =>
      refine ⟨[], rfl, ?_⟩
      rw [drain_of_stuck stuck, Line.run]
  | case2 p line events going p' later result ih =>
      obtain ⟨moments, quiet, rest⟩ := ih
      have first : p.answered.step ⟨rule, .advance⟩ = (line, events) := by
        rw [Line.step, going, Option.getD_some]
      have onward : p.answered.run (⟨rule, .advance⟩ :: moments) =
          ((p.drain rule).1.line, (p.drain rule).2) := by
        rw [line_draw] at rest
        rw [Line.run_cons, first, drain_of_step going, rest]
      by_cases isOpen : p.gateOpen
      · refine ⟨⟨rule, .answer p.current.answer⟩ :: ⟨rule, .advance⟩ :: moments, quiet, ?_⟩
        rw [answered, if_pos isOpen] at onward
        rw [Line.run_cons, ← onward]
        rfl
      · refine ⟨⟨rule, .advance⟩ :: moments, quiet, ?_⟩
        rwa [answered, if_neg isOpen] at onward

end PlannedLine
end Hid.Activation
