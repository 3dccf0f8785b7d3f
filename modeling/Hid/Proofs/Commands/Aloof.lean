import Hid.Proofs.Commands.Limited
import Hid.Proofs.Service.Aloof

/-!
Which commands set ids. Of all commands of a service only one does, and that one is honest: it asks
the device layer first of all and changes nothing before the answer.

* `honest_of_table?`: every request is served by an honest program.
* `aloof_of_isList`: one to a list by an aloof program.
-/

namespace Hid.Device

/-- A usual call asks for no ids. -/
theorem Call.ids?_of_isUsual (c : Call) (usual : c.isUsual = true) : c.ids? = none := by
  unfold ids?
  split
  case h_1 => cases usual
  case h_2 => rfl

end Hid.Device

namespace Hid.Commands

open Dispatch (Context)
open Wire (Layout)

/-- Ids that cannot be read, or of which one is undefined, are not asked for; others are, and they
replace the accepted ones if they are taken. -/
theorem honest_acceptIds (c : Context Int) : (acceptIds c).run.Honest := by
  rw [acceptIds]
  cases c.readBuffer 0 Layout.npadId with
  | error failure => exact .aloof trivial
  | ok ids =>
      change Service.Program.Honest
        (ExceptT.run (if (ids.map Quantity.int).all isNpadIdValid = true then _ else _))
      split
      case isFalse undefined => exact .aloof trivial
      case isTrue defined =>
        refine .sets rfl fun answer => ?_
        cases answer with
        | error failure => exact ⟨.error failure, rfl⟩
        | ok code =>
            refine ⟨.ok code, ?_⟩
            change ExceptT.run (if ResultCode.isSuccess code = true then _ else _) =
              Service.Program.replacing
                (if ResultCode.isSuccess code = true then some ids else none) _
            by_cases success : ResultCode.isSuccess code = true
            · rw [if_pos success, if_pos success]
              rfl
            · rw [if_neg success, if_neg success]
              rfl

end Hid.Commands

namespace Hid.Service

open Commands
open Device (Call)
open Dispatch (Request Session Table)

theorem mainTable_honest (config : Config) : ∀ row ∈ (mainTable config).rows, Honest row.2 := by
  refine mainTable_limited (P := fun row => Honest row.2) (·.ids? = none) Handler.SparesIds
    Call.ids?_of_isUsual (fun object s => rfl) (.inr fun input => rfl) ?limited ?accepts ?setsUp
  case limited => exact fun opcode c limited => limited.honest
  case accepts => exact honest_contextual honest_acceptIds
  case setsUp =>
    have limited : Limited (·.ids? = none) Handler.SparesIds (contextual
        "InitializeSevenSixAxisSensor" .sevenSixAxisBuffers 2 setUpSevenSixAxis) :=
      limited_contextual (limited_setUpSevenSixAxis Call.ids?_of_isUsual fun input => rfl)
    exact limited.honest

/-- No command of an object concerns ids. -/
theorem Interface.limited (object : Interface) (position : Nat) :
    ∀ row ∈ (object.table position).rows, Limited (·.ids? = none) Handler.SparesIds row.2 := by
  intro row among
  cases object with
  | appletResource aruid =>
      obtain rfl := List.mem_singleton.mp among
      have limited : Limited (·.ids? = none) Handler.SparesIds
          (handedOut "GetSharedMemoryHandle" .empty fun _ =>
            Handler.ask (.getSharedMemoryHandle aruid)) :=
        limited_handedOut fun _ => .ask rfl
      exact limited
  | deviceList r =>
      obtain rfl := List.mem_singleton.mp among
      exact limited_coded (limited_activateIn Call.ids?_of_isUsual fun registry s => rfl)

section Targets

variable {s : Service} {target : Nat} {t : Table Program} (request : Request) (session : Session)

/-- Every request is served by an honest program. -/
theorem honest_of_table? (found : s.table? target = some t) :
    (t.answer request session).Honest := by
  cases target with
  | zero =>
      obtain rfl := Option.some.inj found
      exact honest_answer request session (mainTable_honest s.config)
  | succ position =>
      obtain ⟨object, -, rfl⟩ := Option.map_eq_some_iff.mp found
      exact .aloof (aloof_answer request session (object.limited position))

/-- A request to a list is served by an aloof program. -/
theorem aloof_of_isList (found : s.table? target = some t) (list : s.isList target = true) :
    (t.answer request session).Aloof := by
  cases target with
  | zero => cases list
  | succ position =>
      obtain ⟨object, -, rfl⟩ := Option.map_eq_some_iff.mp found
      exact aloof_answer request session (object.limited position)

end Targets

end Hid.Service
