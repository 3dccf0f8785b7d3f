import Hid.Proofs.Commands.Caution
import Hid.Proofs.Dispatch.Counting
import Hid.Proofs.Dispatch.Decision
import Hid.Service.Basic

/-!
Violations leave the service as it was. Every command of every target is cautious, so a request
that ends in a violation has done nothing but look up memory, and all that is left of it is one
more count in one row of the statistics.

* `violation_atomic`: a violation in any reachable state of a service, by any request.
-/

namespace Hid.Service

open Dispatch (Command Outcome Request Session Stats Table Tally)
open Device (Call)
open Wire.LittleEndian (bytesOfInt)

/-! ### Tables of cautious commands -/

/-- Every command of a table is cautious. -/
def Careful (t : Table Program) : Prop := ∀ row ∈ t.rows, Cautious row.2

theorem Careful.lookup? {t : Table Program} (careful : Careful t) {opcode : Quantity}
    {c : Command Program} (entry : t.lookup? opcode = some c) : Cautious c := by
  obtain ⟨n, -, among⟩ := Table.exists_mem_rows entry
  exact careful (n, c) among

theorem table?_careful {s : Service} {target : Nat} {t : Table Program}
    (found : s.table? target = some t) : Careful t := by
  cases target with
  | zero =>
      obtain rfl := Option.some.inj found
      exact mainTable_cautious s.config
  | succ position =>
      obtain ⟨object, -, rfl⟩ := Option.map_eq_some_iff.mp found
      cases object with
      | appletResource aruid => exact Commands.appletResource_cautious aruid
      | deviceList registry => exact Commands.deviceList_cautious position

section Runs

variable {t : Table Program} {request : Request} {session : Session} {stats : Stats}
variable {device : Device} {past : List Call} {s : State}

/-- A request that ends in a violation has done nothing but look up memory. -/
theorem Careful.isQuiet (careful : Careful t) (tame : Tame device) {v : Violation}
    (refused : ((t.handle request session stats).run device past s).value.1 = .violation v) :
    ((t.handle request session stats).run device past s).IsQuiet s := by
  rcases t.settles_or_runs request session stats with ⟨outcome, settles, -⟩ |
    ⟨d, parameters, entry, runs, -⟩
  · rw [settles]
    exact ⟨rfl, fun c made => absurd made List.not_mem_nil⟩
  · rw [runs, Program.run_map] at refused ⊢
    obtain ⟨raised, found⟩ := d.eq_violation_of_conclude refused
    have quiet := careful.lookup? entry ⟨_, _, parameters, session, request⟩ device tame _ _ _ found
    exact ⟨quiet.state, quiet.calls⟩

/-- Whatever the outcome is, it is counted once. -/
theorem handle_counts :
    ((t.handle request session stats).run device past s).value.2 =
      t.count request.opcode ((t.handle request session stats).run device past s).value.1 stats := by
  rw [Table.handle, ← Program.bind_eq, Program.run_bind]
  rfl

end Runs

/-! ### Services that come about -/

/-- The services that come of a new one by requests, against any device layers, and by all else
that can be done to a service between two requests. -/
inductive Reachable : Service → Prop
  | start (config : Config) (deviceManaged : Option Bool) : Reachable (start config deviceManaged)
  | handle {s : Service} (reachable : Reachable s) {device : Device} {target : Nat}
      {request : Request} {session : Session} {a : Answered}
      (answered : s.handle device target request session = some a) : Reachable a.service
  | setControllers {s : Service} (reachable : Reachable s) (ids : List Quantity) :
      Reachable (s.setControllers ids)
  | resetStats {s : Service} (reachable : Reachable s) (target : Nat) :
      Reachable (s.setStats target [])
  | openSession {s : Service} (reachable : Reachable s) :
      Reachable { s with sessions := s.sessions.openNext.2 }
  | closeSession {s : Service} (reachable : Reachable s) (session : Nat) :
      Reachable { s with sessions := (s.sessions.close session).2 }

theorem eq_answer_of_handle {s : Service} {device : Device} {target : Nat} {request : Request}
    {session : Session} {a : Answered} (answered : s.handle device target request session = some a) :
    ∃ t, s.table? target = some t ∧ s.answer device target t request session = a :=
  Option.map_eq_some_iff.mp answered

section Answers

variable (s : Service) (device : Device) (target : Nat) (t : Table Program) (request : Request)
  (session : Session)

/-- The statistics of a target count its answers, those of the others stay. -/
theorem stats_answer (other : Nat) :
    (s.answer device target t request session).service.stats other =
      if other = target then
        t.count request.opcode (s.answer device target t request session).outcome (s.stats target)
      else s.stats other := by
  by_cases same : other = target
  · rw [if_pos same]
    exact (if_pos same).trans handle_counts
  · rw [if_neg same]
    exact if_neg same

end Answers

/-- The rows of every target are in order. -/
theorem Reachable.ordered {s : Service} (reachable : Reachable s) (target : Nat) :
    (s.stats target).Ordered := by
  induction reachable with
  | start config deviceManaged => exact List.Pairwise.nil
  | @handle s _ device asked request session a answered ih =>
      obtain ⟨t, -, rfl⟩ := eq_answer_of_handle answered
      rw [stats_answer]
      split
      case isTrue same =>
        subst same
        exact ih.record
      case isFalse other => exact ih
  | setControllers _ ids ih => exact ih
  | @resetStats s _ cleared ih =>
      change Stats.Ordered (if target = cleared then [] else s.stats target)
      split
      case isTrue same => exact List.Pairwise.nil
      case isFalse other => exact ih
  | openSession _ ih => exact ih
  | closeSession _ session ih => exact ih

/-- **A violation is atomic.** In a reachable service, against a device layer that raises no
violations of its own, a request that ends in a violation, whatever its target, its opcode, its
parameters, its buffers and its handles,

* has called nothing but look-ups of lent memory;
* has left the accepted controllers, the objects that were handed out and the lists of active
  devices, and also the configuration and the sessions, as they were;
* has moved no statistics but those of its target, and there only the row of its opcode, which
  has counted one request and one violation more. -/
theorem violation_atomic {s : Service} (reachable : Reachable s) {device : Device}
    (tame : Tame device) {target : Nat} {request : Request} {session : Session} {a : Answered}
    (answered : s.handle device target request session = some a) {v : Violation}
    (refused : a.outcome = .violation v) :
    (∀ c ∈ a.calls, ∃ handle, c = .getTransferMemory handle) ∧
    a.service.state = s.state ∧ a.service.config = s.config ∧
    a.service.sessions = s.sessions ∧
    (∀ other, other ≠ target → a.service.stats other = s.stats other) ∧
    ∃ t, s.table? target = some t ∧
      let key := t.statsKey request.opcode
      let row := ((s.stats target).row? key).getD { key, name := t.statsName request.opcode }
      (∀ other : Quantity, other.plain ≠ key →
        (a.service.stats target).row? other = (s.stats target).row? other) ∧
      (a.service.stats target).row? key =
        some { row with handled := row.handled + 1, violations := row.violations + 1 } := by
  obtain ⟨t, found, rfl⟩ := eq_answer_of_handle answered
  have quiet := (table?_careful found).isQuiet tame refused
  have counted := stats_answer s device target t request session
  refine ⟨quiet.calls, quiet.state, rfl, rfl, ?_, t, found, ?_, ?_⟩
  · intro other ne
    rw [counted, if_neg ne]
  · intro other ne
    rw [counted, if_pos rfl]
    exact Stats.row?_record_of_ne ne
  · rw [counted, if_pos rfl, refused]
    exact Stats.row?_record (reachable.ordered target)

/-- A device layer that finds lent memory of one byte, and fails in all else. -/
def stingy : Device := fun _ c => match c with
  | .getTransferMemory handle => .ok (some ⟨handle, 0, 1⟩)
  | _ => .error (.raised "off")

theorem tame_stingy : Tame stingy := by
  intro past c v raised
  cases c with
  | getTransferMemory handle => cases raised
  | createAppletResource | getSharedMemoryHandle | activate | activateForApplet | setDimensions
  | setTransferMemory | resetTimestamp | sixAxis | npad | vibration | motor | palma => cases raised

/-- The setting up of the seven six-axis sensor, with memories that are too small. -/
def undersized : Request where
  opcode := 306
  parameters := bytesOfInt 8 0 ++ bytesOfInt 8 Limits.workBufferSize ++
    bytesOfInt 8 Limits.lifoBufferSize
  handles := [⟨.copy, 1⟩, ⟨.copy, 2⟩]

/-- The violation is found out after two look-ups, which are all that has happened. -/
theorem violation_atomic_undersized :
    ∃ a v, (start .initial).handle stingy 0 undersized ⟨"session", 0⟩ = some a ∧
      a.outcome = .violation v ∧ a.calls = [.getTransferMemory 1, .getTransferMemory 2] ∧
      a.service.state = State.initial := by
  have answered : (start .initial).handle stingy 0 undersized ⟨"session", 0⟩ =
      some ((start .initial).answer stingy 0 (mainTable .initial) undersized ⟨"session", 0⟩) := rfl
  refine ⟨_, _, answered, rfl, rfl, ?_⟩
  exact (violation_atomic (.start .initial none) tame_stingy answered rfl).2.1

end Hid.Service
