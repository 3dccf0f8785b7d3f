import Hid.Service.Traffic

/-!
Runs of requests that overlap.

* `run_induction` carries a property of the requests and the log so far through a run.
* `run_accounted`: no request is lost, and none is done twice.
* `run_alone`: a request that nothing comes between comes to what it comes to by itself.
-/

namespace Hid.Service

open Device (Call)
open Dispatch (Outcome Request Session Table)
open Queue (Exclusive TaskEvent)

namespace Event

/-- The calls that are made. -/
def called? : Event → Option (Nat × Call)
  | called number c => some (number, c)
  | _ => none

/-- The requests that are done. -/
def finished? : Event → Option Nat
  | finished number _ => some number
  | _ => none

end Event

namespace Traffic

/-! ### Steps -/

section Steps

variable (t : Traffic) {k : Ticket}

theorem leave_of_outside (outside : k.inTurn = false) : t.leave k = t := by
  rw [leave, outside]
  rfl

/-- Leaving changes nothing but a section. -/
theorem leave_eq (k : Ticket) : t.leave k = { t with sections := (t.leave k).sections } := by
  unfold leave
  split <;> rfl

/-- The request whose call is answered goes on; it does not wait for that call any longer. -/
theorem settle_of_waits {t : Traffic} {f : Flight}
    (found : t.flights.find? (·.number == f.number) = some f)
    (answer : (c : Call) → Except Failure c.Answer) :
    let rest : Traffic := { t with flights := t.flights.filter (·.number != f.number) }
    let went := rest.proceed f.toTicket (f.next (answer f.call))
    t.settle f.number answer =
      (went.1, .answered f.number f.call (answer f.call) :: went.2) := by
  rw [settle, found]

/-- The traffic once the section of a target has gone on and a request has its turn. -/
def taking (target : Nat) (e : Exclusive Unit) (q : Queued) : Traffic :=
  { t.setSection target e with queued := t.queued.filter (·.number != q.number) }

/-- Once the section of a target has gone on, a request that has waited there for its turn goes on,
or none. -/
theorem follow_cases (target : Nat) (moved : Exclusive Unit × List (TaskEvent Unit)) :
    t.follow target moved = (t.setSection target moved.1, []) ∨
      ∃ q ∈ t.queued, t.follow target moved =
        (t.taking target moved.1 q).proceed q.toTicket q.program := by
  unfold follow
  dsimp only
  split
  case h_1 => exact .inl rfl
  case h_2 q next =>
      obtain ⟨c, -, found⟩ := Option.bind_eq_some_iff.mp next
      exact .inr ⟨q, List.mem_of_find?_eq_some found, rfl⟩

end Steps

theorem run_cons (t : Traffic) (m : Move) (rest : List Move) :
    t.run (m :: rest) = (((t.step m).1.run rest).1, (t.step m).2 ++ ((t.step m).1.run rest).2) :=
  rfl

/-- What every step keeps of the requests and the log so far, every run keeps. -/
theorem run_induction {P : Traffic → List Event → Prop}
    (keeps : ∀ t log m, P t log → P (t.step m).1 (log ++ (t.step m).2))
    {t : Traffic} {log : List Event} (holds : P t log) (moves : List Move) :
    P (t.run moves).1 (log ++ (t.run moves).2) := by
  induction moves generalizing t log with
  | nil => simpa [run] using holds
  | cons m rest ih =>
      rw [run_cons, ← List.append_assoc]
      exact ih (keeps t log m holds)

/-! ### Requests that wait and requests that are done -/

/-- The numbers of the requests that wait for an answer or for their turn, and of those that are
done. -/
def accounted (t : Traffic) (log : List Event) : List Nat :=
  t.flights.map (·.number) ++ (t.queued.map (·.number) ++ log.filterMap Event.finished?)

theorem accounted_append {t : Traffic} {log events : List Event}
    (going : events.filterMap Event.finished? = []) :
    t.accounted (log ++ events) = t.accounted log := by
  rw [accounted, List.filterMap_append, going, List.append_nil, accounted]

/-- A request that goes on waits or is done afterwards. -/
theorem accounted_proceed (t : Traffic) (log : List Event) (k : Ticket) (p : Program Outcome) :
    let went := t.proceed k p
    (went.1.accounted (log ++ went.2)).Perm (k.number :: t.accounted log) ∧
      went.1.arrived = t.arrived := by
  unfold proceed
  split
  case h_1 state outcome advanced =>
      dsimp only
      rw [leave_eq]
      refine ⟨?_, rfl⟩
      rw [accounted, List.filterMap_append, ← List.append_assoc, ← List.append_assoc, accounted,
        ← List.append_assoc]
      exact List.perm_append_singleton ..
  case h_2 state c next advanced =>
      refine ⟨?_, rfl⟩
      rw [accounted_append rfl, accounted, List.map_append, List.append_assoc]
      exact List.perm_middle

/-- If no number is there twice, what is taken out with a number is one member. -/
theorem cons_filter_perm {α : Type u} (number : α → Nat) {items : List α} {x : α}
    (member : x ∈ items) (distinct : (items.map number).Nodup) :
    (x :: items.filter (number · != number x)).Perm items := by
  induction items with
  | nil => cases member
  | cons y rest ih =>
      obtain ⟨absent, distinct⟩ := List.nodup_cons.mp distinct
      have other {z : α} (among : z ∈ rest) : number z ≠ number y :=
        fun same => absent (same ▸ List.mem_map_of_mem among)
      rcases List.mem_cons.mp member with rfl | among
      · rw [List.filter_cons_of_neg (by simp), List.filter_eq_self.mpr fun z among =>
          bne_iff_ne.mpr (other among)]
      · have kept : (number y != number x) = true := bne_iff_ne.mpr (other among).symm
        rw [List.filter_cons, if_pos kept]
        exact (List.Perm.swap ..).trans ((ih among distinct).cons y)

/-- Whoever waits for its turn gets it, and is still accounted for. -/
theorem accounted_follow {t : Traffic} {log : List Event} (target : Nat)
    (moved : Exclusive Unit × List (TaskEvent Unit)) (distinct : (t.accounted log).Nodup) :
    let went := t.follow target moved
    (went.1.accounted (log ++ went.2)).Perm (t.accounted log) ∧ went.1.arrived = t.arrived := by
  rcases t.follow_cases target moved with same | ⟨q, waits, same⟩
  · rw [same]
    refine ⟨?_, rfl⟩
    dsimp only
    rw [List.append_nil]
    exact .refl _
  · rw [same]
    obtain ⟨grown, arrived⟩ :=
      accounted_proceed (t.taking target moved.1 q) log q.toTicket q.program
    refine ⟨grown.trans ?_, arrived⟩
    have others := (cons_filter_perm (·.number) waits
      (List.nodup_append.mp (List.nodup_append.mp distinct).2.1).1).map (·.number)
    exact List.perm_middle.symm.trans ((others.append_right _).append_left _)

/-- Whoever lines up waits for its turn or gets it. -/
theorem accounted_lineUp {t : Traffic} (log : List Event) (k : Ticket) (p : Program Outcome)
    (distinct : (k.number :: t.accounted log).Nodup) :
    let went := t.lineUp k p
    (went.1.accounted (log ++ went.2)).Perm (k.number :: t.accounted log) ∧
      went.1.arrived = t.arrived := by
  let lined : Traffic := { t with queued := t.queued ++ [⟨k, p⟩] }
  have more : (lined.accounted log).Perm (k.number :: t.accounted log) := by
    rw [accounted, List.map_append, List.append_assoc]
    exact (List.perm_middle.append_left _).trans List.perm_middle
  obtain ⟨same, arrived⟩ := accounted_follow (t := lined) k.target
    ((t.sections k.target).submit k.task) (more.nodup_iff.mpr distinct)
  exact ⟨same.trans more, arrived⟩

theorem accounted_step {t : Traffic} {log : List Event}
    (all : (t.accounted log).Perm (List.range t.arrived)) (m : Move) :
    ((t.step m).1.accounted (log ++ (t.step m).2)).Perm (List.range (t.step m).1.arrived) := by
  have distinct : (t.accounted log).Nodup := all.nodup_iff.mpr List.nodup_range
  cases m with
  | arrives target request session =>
      rw [step, arrive]
      cases t.service.table? target with
      | none =>
          dsimp only
          rwa [List.append_nil]
      | some table =>
          dsimp only
          let later : Traffic := { t with arrived := t.arrived + 1 }
          have more : (t.arrived :: later.accounted log).Perm (List.range later.arrived) := by
            rw [List.range_succ]
            exact (all.cons _).trans (List.perm_append_singleton ..).symm
          split
          case isFalse outside =>
              obtain ⟨grown, arrived⟩ := accounted_proceed later log _ _
              rw [arrived]
              exact grown.trans more
          case isTrue inTurn =>
              obtain ⟨grown, arrived⟩ := accounted_lineUp (t := later) log
                ⟨t.arrived, target, table, request.opcode, _⟩ (table.answer request session)
                (more.nodup_iff.mpr List.nodup_range)
              rw [arrived]
              exact grown.trans more
  | settles number answer =>
      rw [step]
      cases found : t.flights.find? (·.number == number) with
      | none =>
          rw [settle, found]
          dsimp only
          rwa [List.append_nil]
      | some f =>
          obtain rfl : f.number = number := by simpa using List.find?_some found
          rw [settle_of_waits found, List.append_cons]
          obtain ⟨grown, arrived⟩ := accounted_proceed
            { t with flights := t.flights.filter (·.number != f.number) }
            (log ++ [.answered f.number f.call (answer f.call)]) f.toTicket
            (f.next (answer f.call))
          have going : [Event.answered f.number f.call (answer f.call)].filterMap
              Event.finished? = [] := rfl
          rw [accounted_append going] at grown
          rw [arrived]
          have others := (cons_filter_perm (·.number) (List.mem_of_find?_eq_some found)
            (List.nodup_append.mp distinct).1).map (·.number)
          exact grown.trans ((others.append_right _).trans all)
  | advances target =>
      rw [step]
      cases (t.sections target).advance? with
      | none =>
          dsimp only [Option.map_none, Option.getD_none]
          rwa [List.append_nil]
      | some moved =>
          rw [Option.map_some, Option.getD_some]
          obtain ⟨same, arrived⟩ := accounted_follow target moved distinct
          rw [arrived]
          exact same.trans all

/-- **No request is lost.** At every moment of a run, every request that has arrived waits or is
done, and no request does both, or is done twice. -/
theorem run_accounted (s : Service) (moves : List Move) :
    let ran := (ofService s).run moves
    (ran.1.accounted ran.2).Perm (List.range ran.1.arrived) := by
  have none_yet : ((ofService s).accounted []).Perm (List.range (ofService s).arrived) := .refl []
  exact run_induction (P := fun t log => (t.accounted log).Perm (List.range t.arrived))
    (fun _ _ m all => accounted_step all m) none_yet moves

/-! ### Requests that nothing comes between -/

section Alone

variable (device : Device)

/-- What a request that goes on comes to if only its own calls are answered. -/
theorem proceed_alone (p : Program Outcome) (t : Traffic) {k : Ticket} (outside : k.inTurn = false)
    (fresh : ∀ f ∈ t.flights, f.number ≠ k.number) :
    ∃ answers : List ((c : Call) → Except Failure c.Answer),
      let went := t.proceed k p
      let rest := went.1.run (answers.map (.settles k.number))
      let ran := p.run device t.service.past t.service.state
      let stats := k.table.count k.opcode ran.value (t.service.stats k.target)
      rest.1 = { t with service := { t.service with
        state := ran.state, past := t.service.past ++ ran.calls }.setStats k.target stats } ∧
      (went.2 ++ rest.2).filterMap Event.called? = ran.calls.map (k.number, ·) ∧
      (went.2 ++ rest.2).getLast? = some (.finished k.number ran.value) := by
  induction p generalizing t with
  | done outcome =>
      refine ⟨[], ?_, rfl, rfl⟩
      simp only [Program.run, List.append_nil]
      exact leave_of_outside _ outside
  | inspect next ih => exact ih t.service.state t fresh
  | update change next ih =>
      exact ih { t with service := { t.service with state := change t.service.state } } fresh
  | ask c next ih =>
      -- Once it has asked, the request is the last that waits, and the only one of its number.
      let asking : Traffic := { t with service.past := t.service.past ++ [c] }
      let f : Flight := ⟨k, c, next⟩
      obtain ⟨later, same, calls, last⟩ := ih (device t.service.past c) asking fresh
      let waiting : Traffic := { asking with flights := t.flights ++ [f] }
      have found : waiting.flights.find? (·.number == f.number) = some f := by
        refine List.find?_eq_some_iff_append.mpr ⟨beq_self_eq_true _, t.flights, [], rfl, ?_⟩
        intro g waits
        simpa using fresh g waits
      have gone : { waiting with flights := waiting.flights.filter (·.number != f.number) } =
          asking := by
        have others : (t.flights ++ [f]).filter (·.number != f.number) = t.flights := by
          rw [List.filter_append, List.filter_eq_self.mpr fun g waits => bne_iff_ne.mpr
            (fresh g waits), List.filter_cons_of_neg (by simp), List.filter_nil, List.append_nil]
        exact congrArg (fun flights => { asking with flights }) others
      have answered := settle_of_waits found (device t.service.past)
      rw [gone] at answered
      refine ⟨device t.service.past :: later, ?_⟩
      dsimp only
      have went : t.proceed k (.ask c next) = (waiting, [.called k.number c]) := rfl
      rw [went, List.map_cons, run_cons, step, answered]
      refine ⟨?_, ?_, ?_⟩
      · rw [same]
        simp only [asking, Program.run, List.append_assoc, List.singleton_append]
      · rw [Program.run, List.map_cons, ← calls]
        rfl
      · exact (List.getLast?_append (l := [_, _])).trans (congrArg (Option.or · _) last)

/-- **A request that nothing comes between.** Whatever else waits, a request to the service itself
or to a client's resource whose calls are answered one right after the other, as a device layer
answers them, comes to what the service makes of it by itself: the same outcome after the same
calls, and the same service. -/
theorem run_alone (t : Traffic) {target : Nat} {table : Table Program} (request : Request)
    (session : Session) (found : t.service.table? target = some table)
    (outside : t.service.isList target = false) (fresh : ∀ f ∈ t.flights, f.number ≠ t.arrived) :
    ∃ answers : List ((c : Call) → Except Failure c.Answer),
      let ran := t.run (.arrives target request session :: answers.map (.settles t.arrived))
      let a := t.service.answer device target table request session
      ran.1 = { t with service := a.service, arrived := t.arrived + 1 } ∧
      ran.2.filterMap Event.called? = a.calls.map (t.arrived, ·) ∧
      ran.2.getLast? = some (.finished t.arrived a.outcome) := by
  let k : Ticket := ⟨t.arrived, target, table, request.opcode, false⟩
  let p : Program Outcome := table.answer request session
  have arrival : t.step (.arrives target request session) =
      Traffic.proceed { t with arrived := t.arrived + 1 } k p := by
    rw [step, arrive, found]
    simp only [outside, Bool.false_and]
    rfl
  obtain ⟨answers, same, calls, last⟩ := proceed_alone device p { t with arrived := t.arrived + 1 }
    (k := k) rfl fresh
  refine ⟨answers, ?_⟩
  rw [run_cons, arrival, Service.answer, Dispatch.Table.handle, bind_pure_comp, Program.run_map]
  exact ⟨same, calls, last⟩

end Alone

end Traffic
end Hid.Service
