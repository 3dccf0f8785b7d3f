import Hid.Proofs.Commands.Discretion
import Hid.Proofs.Service.Serving

/-!
What clients get to see of the values of failed reports.

* `revealed_exact`: which requests have an outcome that hangs on such a value, and that nothing else
  ever does.
* `revealed_pattern`: the request for the pattern of a controller's lights is one of them.
-/

namespace Hid.Service

open Commands (revealing)
open Device (Call Kind Report)
open Dispatch (Definition Outcome Table)
open Wire (Bytes)

/-- The command of an opcode hands on the value of a failed report: it is one of the service that is
listed, or the one of a client's resource. -/
def Reveals (s : Service) : (target : Nat) → (opcode : Quantity) → Prop
  | 0, opcode => ∃ n ∈ revealing, opcode = .int n
  | position + 1, opcode =>
      opcode.plain = 0 ∧ ∃ aruid, s.state.interfaces[position]? = some (.appletResource aruid)

/-- The post with another device layer. -/
def Post.against (p : Post) (device : Device) : Post := { p with device := device }

section Agreement

variable {s : Service} {target : Nat} {t : Table Program} {opcode : Quantity}

/-- Every command of a service and its objects is reserved, and discreet unless it is known to hand
on the value. -/
theorem discretion_of_lookup {d : Definition Program} (found : s.table? target = some t)
    (entry : t.lookup? opcode = some (.implemented d)) :
    Reserved (.implemented d) ∧ (¬ s.Reveals target opcode → Discreet (.implemented d)) := by
  obtain ⟨n, plain, among⟩ := Table.exists_mem_rows entry
  cases target with
  | zero =>
      obtain rfl := Option.some.inj found
      obtain ⟨reserved, discreet⟩ := mainTable_isListed s.config _ among
      refine ⟨reserved, fun hidden => discreet fun listed => hidden ⟨n, listed, ?_⟩⟩
      have nonzero : ∀ n ∈ revealing, n ≠ 0 := by decide
      exact Quantity.eq_of_plain plain (nonzero n listed)
  | succ position =>
      obtain ⟨object, there, rfl⟩ := Option.map_eq_some_iff.mp found
      obtain ⟨reserved, discreet⟩ := object.discretion position _ among
      refine ⟨reserved, fun hidden => discreet ?_⟩
      rintro aruid rfl
      obtain ⟨rfl, -⟩ := Prod.mk.inj (List.mem_singleton.mp among)
      exact hidden ⟨plain, aruid, there⟩

variable {p : Post} {other : Device}

/-- Device layers that agree are asked the same, and what they answer makes the same of the state.
Unless the command hands on the value, they make no difference at all. -/
theorem attend_of_agree (s : Service) (agree : Agree p.device other) :
    ((s.attend p).map fun a => (a.calls, a.service.state)) =
      ((s.attend (p.against other)).map fun a => (a.calls, a.service.state)) ∧
    (¬ s.Reveals p.target p.request.opcode → s.attend p = s.attend (p.against other)) := by
  have alike (same : s.attend p = s.attend (p.against other)) :
      ((s.attend p).map fun a => (a.calls, a.service.state)) =
          ((s.attend (p.against other)).map fun a => (a.calls, a.service.state)) ∧
        (¬ s.Reveals p.target p.request.opcode → s.attend p = s.attend (p.against other)) :=
    ⟨congrArg (Option.map fun a => (a.calls, a.service.state)) same, fun _ => same⟩
  cases found : s.table? p.target with
  | none =>
      have lost : s.attend (p.against other) = none := attend_eq_none_iff.mpr found
      exact alike ((attend_eq_none_iff.mpr found).trans lost.symm)
  | some t =>
      have found' : s.table? (p.against other).target = some t := found
      rcases t.settles_or_runs p.request p.session (s.stats p.target) with
        ⟨outcome, settles, -⟩ | ⟨d, parameters, entry, runs, -⟩
      · exact alike ((attend_of_settles found settles).trans
          (attend_of_settles found' settles).symm)
      · obtain ⟨reserved, discreet⟩ := discretion_of_lookup found entry
        let context : Dispatch.Context d.Parameters :=
          ⟨p.request.opcode.plain, d.name, parameters, p.session, p.request⟩
        rw [attend_of_runs found runs, attend_of_runs found' runs]
        constructor
        · obtain ⟨calls, state⟩ := reserved context p.device other [] s.state agree
          exact congrArg some (Prod.ext calls state)
        · intro hidden
          have same := discreet hidden context p.device other [] s.state agree
          rw [carryOut, carryOut]
          dsimp only [Post.against]
          rw [same]

end Agreement

/-! ### Values that are handed on -/

end Hid.Service

namespace Hid.Device.Kind

/-- A value of a kind, one of two. -/
def sample (one : Bool) : (k : Kind) → k.Value
  | .done => ()
  | .code => ResultCode.success
  | .flag => one
  | .number => if one then 1 else 0
  | .object => none
  | .word => if one then 1 else 0
  | .volume => .ofInt (if one then 1 else 0)
  | .fusion => ⟨.ofInt (if one then 1 else 0), .ofInt 0⟩
  | .vibration => .resting
  | .vibrationInfo => ⟨if one then 1 else 0, 0⟩
  | .palma => ⟨if one then 1 else 0⟩
  | .operation => ⟨if one then 1 else 0, []⟩
  | .modeChange => ⟨one, 0⟩
  | .block => []
  | .memory => none
  | .report k => ⟨.int 1, some (k.sample one)⟩

/-- An answer of a kind, which shows the choice of the value only in a failed report. -/
def failing (one : Bool) : (k : Kind) → k.Value
  | .report k => ⟨.int 1, some (k.sample one)⟩
  | k => k.sample true

theorem redact_failing (one other : Bool) (k : Kind) :
    k.redact (k.failing one) = k.redact (k.failing other) := by
  cases k <;> rfl

end Hid.Device.Kind

namespace Hid.Service

open Commands (revealing)
open Device (Call Kind Report)
open Dispatch (Definition Outcome Table)
open Wire (Bytes)

/-- A device layer whose reports are all failures, with one of two values. -/
def failing (one : Bool) : Device := fun _ c => .ok (c.kind.failing one)

theorem agree_failing (one other : Bool) : Agree (failing one) (failing other) :=
  fun _ c => congrArg Except.ok (Kind.redact_failing one other c.kind)

/-- For each command that is listed, parameters with which it comes to its report. -/
def inquiries : List (Int × Bytes) :=
  let zeros (n : Nat) : Bytes := List.replicate n 0
  [(68, 3 :: zeros 15), (71, 3 :: zeros 15), (80, 3 :: zeros 15), (85, 3 :: zeros 15),
    (101, zeros 8), (106, zeros 24), (108, zeros 4), (121, zeros 8), (129, zeros 8),
    (131, zeros 16), (200, zeros 4), (205, []), (500, zeros 16)]

/-- A request with such parameters, against reports that are all failures. -/
def inquiry (row : Int × Bytes) (one : Bool) : Post :=
  ⟨0, { opcode := .int row.1, parameters := row.2 }, ⟨"session", 0⟩, failing one⟩

/-- The number that the output of a reply makes. -/
def shown : Outcome → Nat
  | .reply r => Wire.LittleEndian.value r.output
  | .violation _ => 0

theorem inquiries_differ (s : Service) : ∀ row ∈ inquiries,
    (s.attend (inquiry row true)).map (·.outcome) ≠
      (s.attend (inquiry row false)).map (·.outcome) := by
  have differ {row : Int × Bytes} {m n : Nat}
      (first : (s.attend (inquiry row true)).map (shown ·.outcome) = some m)
      (second : (s.attend (inquiry row false)).map (shown ·.outcome) = some n) (other : m ≠ n) :
      (s.attend (inquiry row true)).map (·.outcome) ≠
        (s.attend (inquiry row false)).map (·.outcome) := by
    intro same
    have alike := congrArg (Option.map shown) same
    rw [Option.map_map, Option.map_map] at alike
    exact other (Option.some.inj (first.symm.trans (alike.trans second)))
  -- The request for an event has no output and hands out a kernel object.
  have event (one : Bool) :
      (s.attend (inquiry (106, List.replicate 24 0) one)).map (·.outcome) = some (.reply
        { result := .int 1, handles := [.transfer ⟨.copy, if one then 1 else 0⟩] }) := by
    cases one <;> rfl
  simp only [inquiries, List.forall_mem_cons, List.not_mem_nil, false_implies, implies_true,
    and_true]
  refine ⟨?_, ?fusion, ?_, ?_, ?_, ?event, ?_, ?_, ?_, ?_, ?_, ?_, ?_⟩
  case fusion => exact differ (m := 0x3f800000) (n := 0) (by rfl) (by rfl) (by decide)
  case event =>
    rw [event true, event false]
    intro same
    cases same
  all_goals exact differ (m := 1) (n := 0) (by rfl) (by rfl) (by decide)

/-- A request to the object at a position, against reports that are all failures. -/
def memoryInquiry (position : Nat) (opcode : Quantity) (one : Bool) : Post :=
  ⟨position + 1, { opcode }, ⟨"session", 0⟩, failing one⟩

/-- The memory of a client's resource is handed out under the number of the report, failed or
not. -/
theorem memoryInquiry_outcome {s : Service} {position : Nat} {aruid : Int}
    (found : s.state.interfaces[position]? = some (.appletResource aruid)) {opcode : Quantity}
    (zero : opcode.plain = 0) (one : Bool) :
    (s.attend (memoryInquiry position opcode one)).map (·.outcome) = some (.reply
      { result := .int 1, handles := [.transfer ⟨.copy, if one then 1 else 0⟩] }) := by
  have table : s.table? (memoryInquiry position opcode one).target =
      some (Commands.appletResource aruid) := by
    rw [memoryInquiry, table?, found]
    rfl
  have entry : (Commands.appletResource aruid).lookup? opcode = some (handedOut
      "GetSharedMemoryHandle" .empty fun _ => Handler.ask (.getSharedMemoryHandle aruid)) := by
    rw [← Table.lookup?_plain, zero]
    rfl
  rw [attend_of_decoded table entry rfl (rfl : Wire.Layout.empty.decode [] = .ok ())]
  rfl

/-- What a command reveals, some request shows. -/
theorem exists_differing {s : Service} {target : Nat} {opcode : Quantity}
    (reveals : s.Reveals target opcode) :
    ∃ (p : Post) (other : Device), p.target = target ∧ p.request.opcode = opcode ∧
      Agree p.device other ∧
      (s.attend p).map (·.outcome) ≠ (s.attend (p.against other)).map (·.outcome) := by
  cases target with
  | zero =>
      obtain ⟨n, listed, rfl⟩ := reveals
      have known : revealing = inquiries.map Prod.fst := rfl
      rw [known] at listed
      obtain ⟨row, among, rfl⟩ := List.mem_map.mp listed
      exact ⟨inquiry row true, failing false, rfl, rfl, agree_failing true false,
        inquiries_differ s row among⟩
  | succ position =>
      obtain ⟨zero, aruid, found⟩ := reveals
      refine ⟨memoryInquiry position opcode true, failing false, rfl, rfl,
        agree_failing true false, ?_⟩
      intro same
      have other := ((memoryInquiry_outcome found zero true).symm.trans same).trans
        (memoryInquiry_outcome found zero false)
      cases other

/-- **The values of failed reports.** Let a request be served by two device layers that give the
same answers, up to the values of failed reports. Whatever the service and the request, the two are
asked the same and the state is left the same.

The outcome may hang on such a value if and only if the command is one that hands on a report as it
is: one of the thirteen of the service that are listed, or the one of a client's resource. For any
other, whatever comes of the request is the same. -/
theorem revealed_exact (s : Service) (target : Nat) (opcode : Quantity) :
    (∀ (p : Post) (other : Device), Agree p.device other →
      ((s.attend p).map fun a => (a.calls, a.service.state)) =
        (s.attend (p.against other)).map fun a => (a.calls, a.service.state)) ∧
    ((∃ (p : Post) (other : Device), p.target = target ∧ p.request.opcode = opcode ∧
        Agree p.device other ∧
        (s.attend p).map (·.outcome) ≠ (s.attend (p.against other)).map (·.outcome)) ↔
      s.Reveals target opcode) ∧
    (¬ s.Reveals target opcode → ∀ (p : Post) (other : Device), p.target = target →
      p.request.opcode = opcode → Agree p.device other →
      s.attend p = s.attend (p.against other)) := by
  refine ⟨fun p other agree => (attend_of_agree s agree).1, ⟨?_, exists_differing⟩, ?_⟩
  · rintro ⟨p, other, rfl, rfl, agree, differ⟩
    refine Classical.byContradiction fun hidden => differ ?_
    exact congrArg (Option.map (·.outcome)) ((attend_of_agree s agree).2 hidden)
  · rintro hidden p other rfl rfl agree
    exact (attend_of_agree s agree).2 hidden

/-- Twice the lights of a controller are asked for and the device layer fails; the client is shown
what came with the failure. -/
theorem revealed_pattern :
    Agree (failing true) (failing false) ∧
    ((start .initial none).attend (inquiry (108, [0, 0, 0, 0]) true)).map (·.outcome) =
      some (.reply { result := .int 1, output := [1, 0, 0, 0, 0, 0, 0, 0] }) ∧
    ((start .initial none).attend (inquiry (108, [0, 0, 0, 0]) false)).map (·.outcome) =
      some (.reply { result := .int 1, output := [0, 0, 0, 0, 0, 0, 0, 0] }) :=
  ⟨agree_failing true false, rfl, rfl⟩

end Hid.Service
