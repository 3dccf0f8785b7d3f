import Hid.Proofs.Activation.Run

/-!
Overlapping activations and the sequential procedure. `serve` takes activations one at a
time: it validates, looks for the handle in the registry, looks whether the registry is
full, asks the device and appends the handle if the device agrees. `run_linearizable` says
that whatever arrives while devices are being asked, a line of activations does what
`serve` does with the same activations in order of arrival, with the rules in force at the
validations and with the answers in the order in which they were given.

The proof completes a line: `resume` is what the sequential procedure makes of what a line
still has before it. Every step does the first part of that (`Stepped.resume`), and a line
that rests has nothing left of it.
-/

namespace Hid.Activation

/-- What is served after some events. -/
def after (events : List Event) (served : Registry × List Event) : Registry × List Event :=
  (served.1, events ++ served.2)

/-- Serves activations one at a time, each with the rule that validates it. Devices give
the answers in order; if none is left, the device is asked and nothing else happens. -/
def serve (r : Registry) : List (Job × Rule) → List Answer → Registry × List Event
  | [], _ => (r, [])
  | (job, rule) :: rest, answers =>
      let h := job.handle
      let code := rule h
      if code.isFailure then
        after [.validated h code, .settled job.label (.ok code)] (serve r rest answers)
      else if r.has h then
        after [.validated h code, .settled job.label (.ok .success)] (serve r rest answers)
      else if r.capacity ≤ r.size then
        after [.validated h code, .settled job.label (.ok .vibrationDeviceIndexOutOfRange)]
          (serve r rest answers)
      else
        match answers with
        | [] => (r, [.validated h code, .asked h])
        | .ok answer :: answers =>
            if answer.isSuccess then
              after [.validated h code, .asked h, .noted h (.ok answer),
                  .settled job.label (.ok .success)]
                (serve { r with entries := r.entries ++ [h] } rest answers)
            else
              after [.validated h code, .asked h, .noted h (.ok answer),
                  .settled job.label (.ok answer)]
                (serve r rest answers)
        | .error failure :: answers =>
            after [.validated h code, .asked h, .noted h (.error failure),
                .settled job.label (.error failure)]
              (serve r rest answers)

@[simp] theorem after_nil (served : Registry × List Event) : after [] served = served := rfl

@[simp] theorem after_after (first second : List Event) (served : Registry × List Event) :
    after first (after second served) = after (first ++ second) served := by
  simp [after]

/-- What is served once a device has been asked for the activation in hand. -/
def await (r : Registry) (job : Job) (rest : List (Job × Rule)) :
    List Answer → Registry × List Event
  | [] => (r, [])
  | answer :: answers =>
      after [.noted job.handle answer, .settled job.label (Registry.outcome answer)]
        (serve (r.afterDevice job.handle answer) rest answers)

section Serve

variable {r : Registry} {job : Job} {rule : Rule} {rest : List (Job × Rule)}
  {answers : List Answer}

/-- An activation that is decided without its device is settled at once. -/
theorem serve_spared {code : ResultCode}
    (decision : r.consider (rule job.handle) job.handle = .settled code) :
    serve r ((job, rule) :: rest) answers =
      after [.validated job.handle (rule job.handle), .settled job.label (.ok code)]
        (serve r rest answers) := by
  unfold Registry.consider at decision
  simp only [serve]
  split at decision
  case isTrue invalid =>
      cases decision
      rw [if_pos invalid]
  case isFalse valid =>
      rw [if_neg valid]
      split at decision
      case isTrue present =>
          cases decision
          rw [if_pos present]
      case isFalse absent =>
          rw [if_neg absent]
          split at decision
          case isTrue full =>
              cases decision
              rw [if_pos full]
          case isFalse => cases decision

/-- The device of any other activation is asked. -/
theorem serve_asked (decision : r.consider (rule job.handle) job.handle = .askDevice) :
    serve r ((job, rule) :: rest) answers =
      after [.validated job.handle (rule job.handle), .asked job.handle]
        (await r job rest answers) := by
  obtain ⟨valid, absent, room⟩ := Registry.consider_eq_askDevice.mp decision
  have not_invalid : ¬ (rule job.handle).isFailure = true := by simp [valid]
  have not_present : ¬ r.has job.handle = true := by simp [absent]
  simp only [serve]
  rw [if_neg not_invalid, if_neg not_present, if_neg (Nat.not_le.mpr room)]
  cases answers with
  | nil => rfl
  | cons answer answers =>
      cases answer with
      | error failure => rfl
      | ok code =>
          by_cases success : code.isSuccess
          · simp [await, Registry.afterDevice, Registry.outcome, Except.map, success]
          · simp [await, Registry.afterDevice, Registry.outcome, Except.map, success]

end Serve

namespace Line

/-- What the sequential procedure makes of a line, of activations, rules and answers that
are to come. -/
def resume (l : Line) (jobs : List Job) (rules : List Rule) (answers : List Answer) :
    Registry × List Event :=
  let rest := (l.queue.waiting ++ jobs).zip rules
  match l.inHand with
  | none => serve l.registry rest answers
  | some (job, .asking) => await l.registry job rest answers
  | some (job, .answered answer) => await l.registry job rest (answer :: answers)
  | some (job, .decided outcome) =>
      after [.settled job.label outcome] (serve l.registry rest answers)

/-- A step does the first part of what is before a line. -/
theorem Stepped.resume {l l' : Line} {m : Moment} {events : List Event}
    (h : Stepped l m l' events) (jobs : List Job) (rules : List Rule) (answers : List Answer) :
    l.resume (m.arrival ++ jobs)
        ((events.filterMap Event.validated?).map (fun _ => m.rule) ++ rules)
        (l.heard m ++ answers) =
      after events (l'.resume jobs rules answers) := by
  unfold Line.resume
  rw [← List.append_assoc]
  cases h with
  | still quiet deaf => simp [quiet, deaf]
  | lined _ arrives => simp [Moment.arrival, arrives, heard]
  | answered hand answers => simp [hand, Moment.arrival, heard, answers]
  | noted hand quiet => simp [hand, quiet, heard, await, List.filterMap_cons]
  | settled hand quiet => simp [hand, quiet, heard, List.filterMap_cons]
  | cleared free empty => simp [free, empty, heard]
  | spared free next decision => simp [free, next, heard, serve_spared decision]
  | asked free next decision =>
      simp [free, next, heard, List.filterMap_cons, serve_asked decision]

/-- A run does the first part of what is before a line and of what arrives. -/
theorem run_resume (l : Line) (moments : List Moment) (jobs : List Job) (rules : List Rule)
    (answers : List Answer) :
    l.resume (arrivals moments ++ jobs) (l.rules moments ++ rules) (l.answers moments ++ answers) =
      after (l.run moments).2 ((l.run moments).1.resume jobs rules answers) := by
  induction moments generalizing l with
  | nil => rfl
  | cons m rest ih =>
      have first := (l.stepped m).resume (arrivals rest ++ jobs)
        ((l.step m).1.rules rest ++ rules) ((l.step m).1.answers rest ++ answers)
      rw [ih, after_after] at first
      rw [run_cons, ← first]
      simp only [arrivals, Line.rules, Line.answers, gather, List.flatMap_cons, List.append_assoc]

/-- Nothing is left before a line that rests. -/
theorem resume_of_rest {l : Line} {rule : Rule} (rest : l.advance? rule = none) :
    l.resume [] [] [] = (l.registry, []) := by
  unfold resume
  rw [List.zip_nil_right]
  rcases (l.advance?_eq_none_iff rule).mp rest with idle | ⟨job, asking⟩
  · simp [inHand, idle, serve]
  · simp [inHand, asking, await]

/-- A run from an empty line and what is left after it are what the sequential procedure
does. -/
theorem serve_eq_after (r : Registry) (moments : List Moment) :
    serve r ((arrivals moments).zip ((ofRegistry r).rules moments))
        ((ofRegistry r).answers moments) =
      after ((ofRegistry r).run moments).2 (((ofRegistry r).run moments).1.resume [] [] []) := by
  have resumed := run_resume (ofRegistry r) moments [] [] []
  rwa [List.append_nil, List.append_nil, List.append_nil] at resumed

/-- A line that rests has settled everything, or one device is being asked. -/
theorem settled_or_asking (r : Registry) (moments : List Moment) {rule : Rule}
    (rest : ((ofRegistry r).run moments).1.advance? rule = none) :
    ((ofRegistry r).run moments).1.unsettled = [] ∧
        ((ofRegistry r).rules moments).length = (arrivals moments).length ∨
      (((ofRegistry r).run moments).2.filterMap Event.asked?).length =
        ((ofRegistry r).answers moments).length + 1 := by
  have count := length_asked moments r
  rcases (advance?_eq_none_iff _ rule).mp rest with idle | ⟨job, asking⟩
  · left
    have empty := run_awake (l := ofRegistry r) (fun _ => rfl) moments idle
    have validated := congrArg List.length (run_validated (ofRegistry r) moments)
    constructor
    · simp [unsettled, inHand, idle, empty]
    · rw [length_rules]
      simpa [empty] using validated.symm
  · right
    simpa [outstanding, unnoted, inHand, asking] using count

/-- Whatever the registry holds at first, whenever activations arrive, devices answer and
the line goes on, the log is the first part of what the sequential procedure does with the
activations in order of arrival, the rules in force when their turns came, and the answers
in the order in which devices gave them. What is settled and what is not make up the
arrivals, in their order. No device is asked before the one asked last has answered. A line
that rests has done all that the procedure does, its registry included; everything that has
arrived is settled then, unless a device has yet to answer. A line that is left to itself
comes to rest. -/
theorem run_linearizable (r : Registry) (moments : List Moment) :
    let start := ofRegistry r
    let l := (start.run moments).1
    let log := (start.run moments).2
    let served := serve r ((arrivals moments).zip (start.rules moments)) (start.answers moments)
    log <+: served.2 ∧
    log.filterMap (fun e => e.settled?.map Prod.fst) ++ l.unsettled =
      (arrivals moments).map Job.label ∧
    (log.filterMap Event.asked?).length ≤ (start.answers moments).length + 1 ∧
    (∀ rule, l.advance? rule = none →
      log = served.2 ∧ l.registry = served.1 ∧
      (l.unsettled = [] ∧ (start.rules moments).length = (arrivals moments).length ∨
        (log.filterMap Event.asked?).length = (start.answers moments).length + 1)) ∧
    ∀ rule, ∃ n, (l.run (List.replicate n ⟨rule, .advance⟩)).1.advance? rule = none := by
  intro start l log served
  have whole : served = after log (l.resume [] [] []) := serve_eq_after r moments
  refine ⟨?_, (run_settled start moments).symm, length_asked_le moments r, ?_,
    fun rule => run_advances l rule⟩
  · rw [whole]
    exact List.prefix_append ..
  · intro rule rest
    rw [resume_of_rest rest] at whole
    refine ⟨?_, ?_, settled_or_asking r moments rest⟩
    · rw [whole, after, List.append_nil]
    · rw [whole, after]

/-- Of two activations of one handle that overlap, the second finds what the first has left. -/
example :
    let valid : Rule := fun _ => .success
    let moves := [.activate ⟨"first", ⟨4, 0, 1⟩⟩, .activate ⟨"second", ⟨4, 0, 1⟩⟩,
      .answer (.ok .success)] ++ List.replicate 5 .advance
    let done := (ofRegistry ⟨2, []⟩).run (moves.map (Moment.mk valid))
    done.2.filterMap Event.asked? = [⟨4, 0, 1⟩] ∧ done.1.unsettled = [] := by
  decide

end Line
end Hid.Activation
