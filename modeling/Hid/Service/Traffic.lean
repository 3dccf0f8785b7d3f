import Hid.Queue.Exclusive
import Hid.Service.Basic

/-!
Requests to a service and its objects that overlap. A request is served without a break up to the
first call that is made for it, and then from one call to the next; while it waits for an answer,
other requests arrive and other calls are answered, in any order. What the requests share is the
state of the service, and each goes on with the state as it finds it. A call that the device layer
answers on the spot is one whose answer is the next move.

Requests to a list take turns: each list has an exclusive section, and what a request has to do
there is a task of that section. One that is answered without the list, since it is not as it ought
to be, is answered at once.
-/

namespace Hid.Service

open Device (Call)
open Dispatch (Outcome Request Session Table)
open Queue (Exclusive TaskEvent)

/-- Where a program stands that has gone on as far as it can without an answer. -/
inductive Stand (α : Type) where
  | done (value : α)
  | waiting (c : Call) (next : Except Failure c.Answer → Program α)

namespace Program

/-- Goes on with a program until it is done or makes a call. -/
def advance (s : State) : Program α → State × Stand α
  | done value => (s, .done value)
  | ask c next => (s, .waiting c next)
  | inspect next => (next s).advance s
  | update change next => next.advance (change s)

def isDone : Program α → Bool
  | done _ => true
  | _ => false

end Program

/-- Which request a program serves, and by which table. Requests are numbered as they arrive. -/
structure Ticket where
  number : Nat
  target : Nat
  table : Table Program
  opcode : Quantity
  /-- Whether it takes turns with other requests to its target. -/
  inTurn : Bool

namespace Ticket

/-- The gate that opens once the request is done. -/
def gate (k : Ticket) : String := toString k.number

/-- What the section of a list is occupied with while it is the turn of the request. -/
def task (k : Ticket) : Queue.Task Unit := ⟨k.gate, .wait k.gate (.finish (.ok ()))⟩

end Ticket

/-- A request that waits for the answer to a call. -/
structure Flight extends Ticket where
  call : Call
  next : Except Failure call.Answer → Program Outcome

/-- A request that waits for its turn. -/
structure Queued extends Ticket where
  program : Program Outcome

inductive Event where
  | called (number : Nat) (c : Call)
  | answered (number : Nat) (c : Call) (answer : Except Failure c.Answer)
  | finished (number : Nat) (outcome : Outcome)

/-- A service, the requests that wait for answers, those that wait for their turn, the exclusive
section of each target, and how many requests have arrived. -/
structure Traffic where
  service : Service
  flights : List Flight
  queued : List Queued
  sections : Nat → Exclusive Unit
  arrived : Nat

/-- What may happen: a request arrives, the call that a request waits for is answered, or the
section of a target goes on by one step. -/
inductive Move where
  | arrives (target : Nat) (request : Request) (session : Session)
  | settles (number : Nat) (answer : (c : Call) → Except Failure c.Answer)
  | advances (target : Nat)

/-- Whether a target is a list. -/
def isList (s : Service) : Nat → Bool
  | 0 => false
  | position + 1 =>
      match s.state.interfaces[position]? with
      | some (.deviceList _) => true
      | _ => false

namespace Traffic

def ofService (s : Service) : Traffic := ⟨s, [], [], fun _ => .initial, 0⟩

/-- Replaces the section of one target. -/
def setSection (t : Traffic) (target : Nat) (e : Exclusive Unit) : Traffic :=
  { t with sections := fun other => if other = target then e else t.sections other }

/-- Whoever has had a turn opens the gate behind which the section goes on. -/
def leave (t : Traffic) (k : Ticket) : Traffic :=
  if k.inTurn then t.setSection k.target ((t.sections k.target).unlock k.gate) else t

/-- Goes on with a request until it is done, and is counted, or makes a call. -/
def proceed (t : Traffic) (k : Ticket) (p : Program Outcome) : Traffic × List Event :=
  match p.advance t.service.state with
  | (state, .done outcome) =>
      let stats := k.table.count k.opcode outcome (t.service.stats k.target)
      ({ t with service := { t.service with state }.setStats k.target stats }.leave k,
        [.finished k.number outcome])
  | (state, .waiting c next) =>
      ({ t with
          service := { t.service with state, past := t.service.past ++ [c] }
          flights := t.flights ++ [⟨k, c, next⟩] },
        [.called k.number c])

/-- The section of a target has gone on. If it has started the task of a request, the request goes
on too. -/
def follow (t : Traffic) (target : Nat) (moved : Exclusive Unit × List (TaskEvent Unit)) :
    Traffic × List Event :=
  let t := t.setSection target moved.1
  let next? := (moved.2.findSome? TaskEvent.start?).bind fun c =>
    t.queued.find? fun q => q.target == target && q.gate == c.task.id
  match next? with
  | none => (t, [])
  | some q =>
      { t with queued := t.queued.filter (·.number != q.number) }.proceed q.toTicket q.program

/-- A request lines up at its target. -/
def lineUp (t : Traffic) (k : Ticket) (p : Program Outcome) : Traffic × List Event :=
  let lined : Traffic := { t with queued := t.queued ++ [⟨k, p⟩] }
  lined.follow k.target ((t.sections k.target).submit k.task)

/-- A request arrives. If there is no such target, nothing happens. -/
def arrive (t : Traffic) (target : Nat) (request : Request) (session : Session) :
    Traffic × List Event :=
  match t.service.table? target with
  | none => (t, [])
  | some table =>
      let p := table.answer request session
      let inTurn := t.service.isList target && !p.isDone
      let k : Ticket := ⟨t.arrived, target, table, request.opcode, inTurn⟩
      let t := { t with arrived := t.arrived + 1 }
      if inTurn then t.lineUp k p else t.proceed k p

/-- The call that a request waits for is answered. If there is no such request, nothing happens. -/
def settle (t : Traffic) (number : Nat) (answer : (c : Call) → Except Failure c.Answer) :
    Traffic × List Event :=
  match t.flights.find? (·.number == number) with
  | none => (t, [])
  | some f =>
      let others := t.flights.filter (·.number != number)
      let (t', events) :=
        { t with flights := others }.proceed f.toTicket (f.next (answer f.call))
      (t', .answered number f.call (answer f.call) :: events)

def step (t : Traffic) : Move → Traffic × List Event
  | .arrives target request session => t.arrive target request session
  | .settles number answer => t.settle number answer
  | .advances target => (((t.sections target).advance?).map (t.follow target)).getD (t, [])

def run (t : Traffic) : List Move → Traffic × List Event
  | [] => (t, [])
  | m :: rest =>
      let (t', events) := t.step m
      let (t'', later) := t'.run rest
      (t'', events ++ later)

end Traffic
end Hid.Service
