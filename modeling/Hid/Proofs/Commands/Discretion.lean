import Hid.Proofs.Service.Discretion
import Hid.Service.Basic

/-!
Which commands keep the value of a failed report to themselves. Commands that read something back
and look at the code first are discreet; the getters that hand on a report as it is are not, but
they are reserved, as handing it on is all they do with it (`mainTable_discretion`). The latter are
listed in `revealing`.
-/

namespace Hid.Commands

open Device (Call Report)
open Dispatch (Command Context)
open Service Service.Handler
open Wire (Bytes Layout)

/-- The commands of a service that hand on the value of a failed report. -/
def revealing : List Int := [68, 71, 80, 85, 101, 106, 108, 121, 129, 131, 200, 205, 500]

/-! ### Handlers -/

section Handlers

/-- Without success nothing more is looked at. -/
theorem discreet_findMotor (view : Device.MotorView) (aruid : Int) (h : DeviceHandle) :
    Handler.Discreet (findMotor view aruid h) := by
  refine (veiled_ask _).bind (Report.blind fun active failed => ?_) fun active => ?_
  · have unseen (value : Option Bool) : (active.result.isFailure || value != some true) = true := by
      rw [failed, Bool.true_or]
    rw [if_pos (unseen _), if_pos (unseen _)]
  · refine .ite (discreet_pure _) (.bind discreet_state fun s => .ite (discreet_pure _) ?_)
    exact .bind (discreet_ask rfl) fun found => discreet_pure _

theorem discreet_actualValue (aruid : Int) (h : DeviceHandle) :
    Handler.Discreet (actualValue aruid h) := by
  refine .bind (discreet_findMotor .standard aruid h) fun search => .ite ?_ (discreet_pure _)
  refine (veiled_ask _).bind (Report.blind fun report failed => ?_) fun report =>
    discreet_pure _
  rw [if_pos failed, if_pos failed]

theorem discreet_actualGcErm (aruid : Int) (h : DeviceHandle) :
    Handler.Discreet (actualGcErm aruid h) := by
  refine .bind (discreet_findMotor .gc aruid h) fun search => .ite ?_ (discreet_pure _)
  refine (veiled_ask _).bind (Report.blind fun report failed => ?_) fun report =>
    .ite (discreet_pure _) (discreet_attempt _)
  rw [if_pos failed, if_pos failed]

theorem discreet_blockOfSensor {name block : String} {size : Nat}
    {act : DeviceHandle → Handler (Report Bytes)}
    (veiled : ∀ h, Handler.Veiled Report.redact (act h)) :
    Service.Discreet (blockOfSensor name block size act) := by
  intro c
  refine .ite (discreet_pure _) ?_
  refine (veiled c.parameters.handle).bind (Report.blind fun report failed => ?_) fun report => ?_
  · rw [if_pos failed, if_pos failed]
  · refine .ite (discreet_pure _) (.bind (discreet_attempt _) fun data => ?_)
    exact .bind (discreet_attempt _) fun data => discreet_pure _

theorem discreet_operationInfo : Service.Discreet operationInfo := by
  intro c
  refine (veiled_ask _).bind (Report.blind fun report failed => ?_) fun report => ?_
  · rw [if_pos failed, if_pos failed]
  · refine .ite (discreet_pure _) (.bind (discreet_attempt _) fun operation => ?_)
    exact .bind (discreet_attempt _) fun data => discreet_pure _

theorem discreet_makeReady (deviceManaged : Bool) (input : Device.Input) (aruid : Int) :
    Handler.Discreet (makeReady deviceManaged input aruid) := by
  have follow (first : ResultCode) : Handler.Discreet (if first.isFailure then pure first
      else ask (.activateForApplet input aruid) : Handler ResultCode) :=
    .ite (discreet_pure first) (discreet_ask rfl)
  cases deviceManaged with
  | false => exact .bind (discreet_ask rfl) follow
  | true => exact .bind (discreet_pure _) follow

theorem discreet_sendAll (aruid : Int) (pairs : List (DeviceHandle × VibrationValue)) :
    Handler.Discreet (sendAll aruid pairs) := by
  induction pairs with
  | nil => exact discreet_pure _
  | cons pair rest ih => exact .bind (discreet_ask rfl) fun code => .ite (discreet_pure _) ih

theorem discreet_sendBuffers (c : Context Int) : Handler.Discreet (sendBuffers c) := by
  refine .bind (discreet_attempt _) fun handles => .bind (discreet_attempt _) fun values => ?_
  exact .ite (discreet_sendAll _ _) (discreet_pure _)

theorem discreet_acceptIds (c : Context Int) : Handler.Discreet (acceptIds c) := by
  refine .bind (discreet_attempt _) fun ids => .ite ?_ (discreet_pure _)
  refine .bind (discreet_ask rfl) fun code => .ite ?_ (discreet_pure _)
  exact .bind (discreet_change _) fun _ => discreet_pure _

theorem discreet_lentMemory {α : Type} (c : Context α) (index : Nat) :
    Handler.Discreet (lentMemory c index) :=
  .bind (discreet_attempt _) fun _ => discreet_ask rfl

theorem discreet_setUpSevenSixAxis (c : Context SevenSixAxisBuffers) :
    Handler.Discreet (setUpSevenSixAxis c) := by
  refine .bind (discreet_attempt _) fun _ => .bind (discreet_attempt _) fun _ => ?_
  refine .bind (discreet_lentMemory c 0) fun work? => ?_
  refine .bind (discreet_lentMemory c 1) fun lifo? => ?_
  cases work? with
  | none => exact discreet_pure _
  | some work =>
      cases lifo? with
      | none => exact discreet_pure _
      | some lifo =>
          refine .bind (discreet_attempt _) fun _ => .bind (discreet_attempt _) fun _ => ?_
          refine .bind (.discard (discreet_ask rfl)) fun _ => ?_
          refine .bind (.discard (discreet_ask rfl)) fun _ => ?_
          exact .bind (discreet_ask rfl) fun _ => discreet_pure _

theorem discreet_writeWaveEntry (c : Context PalmaWaveEntry) :
    Handler.Discreet (writeWaveEntry c) := by
  refine .bind (discreet_attempt _) fun _ => .bind (discreet_lentMemory c 0) fun memory? => ?_
  cases memory? with
  | none => exact discreet_pure _
  | some memory =>
      exact .bind (discreet_attempt _) fun _ => .bind (discreet_ask rfl) fun _ => discreet_pure _

theorem discreet_activateIn (position : Nat) (h : DeviceHandle) :
    Handler.Discreet (activateIn position h) := by
  refine .bind discreet_state fun s => ?_
  cases (s.registry position).consider (validateVibrationHandle h s.controllers) h with
  | settled code => exact discreet_pure _
  | askDevice =>
      refine .bind ?_ fun code => .bind (discreet_change _) fun _ => discreet_pure _
      exact .bind (discreet_ask rfl) fun found => .ite (discreet_ask rfl) (discreet_pure _)

end Handlers

/-! ### Getters -/

section Getters

variable {α β : Type} {name : String} {output : Layout β}

theorem reserved_ofSensor {act : DeviceHandle → Handler (Report β)}
    (reserved : ∀ h, Handler.Reserved (act h)) : Service.Reserved (ofSensor name output act) :=
  reserved_replied fun p => .ite (discreet_pure _).reserved
    (.bind_idle (reserved p.handle) fun _ => idle_pure _)

theorem reserved_ask (c : Call) : Handler.Reserved (ask c) := (veiled_ask c).reserved

theorem idle_wholeReport (report : Report Quantity) : Handler.Idle (wholeReport report) :=
  (idle_attempt _).bind fun _ => idle_pure _

end Getters

/-- The command is reserved, and discreet unless it is listed. -/
structure IsListed (row : Row) : Prop where
  reserved : Service.Reserved row.2
  discreet : row.1 ∉ revealing → Service.Discreet row.2

theorem isListed_of_discreet {opcode : Int} {c : Command Program} (discreet : Service.Discreet c) :
    IsListed (opcode, c) := ⟨discreet.reserved, fun _ => discreet⟩

theorem isListed_of_mem {opcode : Int} {c : Command Program} (among : opcode ∈ revealing)
    (reserved : Service.Reserved c) : IsListed (opcode, c) :=
  ⟨reserved, fun other => absurd among other⟩

end Hid.Commands

namespace Hid.Service

open Commands Handler

/-- Every command of a service is reserved, and discreet unless it is listed. -/
theorem mainTable_isListed (config : Config) : ∀ row ∈ (mainTable config).rows, IsListed row := by
  obtain ⟨fixed, missing⟩ := forall_retired (P := IsListed)
    (fun _ _ => isListed_of_discreet trivial) fun _ _ => isListed_of_discreet trivial
  simp only [mainTable, input, sixAxis, npad, vibration, palma, List.forall_mem_append,
    List.forall_mem_cons, List.not_mem_nil, false_implies, implies_true, and_true]
  and_intros
  all_goals first
    | exact fixed
    | exact missing
    | refine isListed_of_mem (by decide) ?_
    | refine isListed_of_discreet ?_
  all_goals try simp only [activateNpad, resetFusion, isMounted, onSensor, writeLedPattern]
  -- A row is taken apart along its form and its steps, down to the handlers that have a name.
  all_goals repeat' with_reducible first
    | exact discreet_ask rfl
    | exact discreet_pure _
    | exact discreet_state
    | exact discreet_attempt _
    | refine Handler.Discreet.bind ?_ fun _ => ?_
    | refine Handler.Discreet.ite ?_ ?_
    | refine Handler.Discreet.discard ?_
    | exact discreet_makeReady ..
    | exact discreet_findMotor ..
    | exact discreet_actualValue ..
    | exact discreet_actualGcErm ..
    | exact discreet_acceptIds _
    | exact discreet_sendBuffers _
    | exact discreet_setUpSevenSixAxis _
    | exact discreet_writeWaveEntry _
    | exact discreet_operationInfo
    | refine discreet_coded fun _ => ?_
    | refine discreet_performed fun _ => ?_
    | refine discreet_replied fun _ => ?_
    | refine discreet_contextual fun _ => ?_
    | refine discreet_handedOut fun _ => ?_
    | refine discreet_created fun _ => ?_
    | exact reserved_ask _
    | exact idle_pure _
    | exact idle_wholeReport _
    | refine Handler.Reserved.bind_idle ?_ fun _ => ?_
    | refine Handler.Reserved.ite ?_ ?_
    | refine reserved_reported fun _ => ?_
    | refine reserved_handedOut fun _ => ?_
    | refine reserved_ofSensor fun _ => ?_
    | refine reserved_replied fun _ => ?_
  · exact discreet_blockOfSensor fun h => veiled_ask (.sixAxis (.loadCalibration h))
  · exact discreet_blockOfSensor fun h => veiled_ask (.sixAxis (.getIcInformation h))
  · exact (discreet_attempt _).bind fun _ => discreet_ask rfl
  · exact (discreet_attempt _).bind fun _ => discreet_ask rfl
  · exact (discreet_pure _).reserved

/-- The command of a client's resource hands on what it gets, that of a list gets no report. -/
theorem Interface.discretion (object : Interface) (position : Nat) :
    ∀ row ∈ (object.table position).rows, Reserved row.2 ∧
      ((∀ aruid, object ≠ .appletResource aruid) → Discreet row.2) := by
  intro row among
  cases object with
  | appletResource aruid =>
      obtain rfl := List.mem_singleton.mp among
      dsimp only
      exact ⟨reserved_handedOut fun _ => reserved_ask _, fun other => absurd rfl (other aruid)⟩
  | deviceList r =>
      obtain rfl := List.mem_singleton.mp among
      have discreet : Discreet (coded "ActivateVibrationDevice" .deviceHandle
          (activateIn position)) := discreet_coded (discreet_activateIn position)
      exact ⟨discreet.reserved, fun _ => discreet⟩

end Hid.Service
