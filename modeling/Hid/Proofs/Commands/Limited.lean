import Hid.Proofs.Service.Confinement
import Hid.Service.Basic

/-!
What the commands of a service are put together from. Two kinds of call matter elsewhere, those that
make an input device ready at the low level and those that set ids. Wherever all other calls are
permitted, all commands of a service are put together from permitted steps, up to one that is made
for either kind (`mainTable_limited`).
-/

namespace Hid.Device

/-- The call neither makes an input device ready at the low level nor sets ids. -/
def Call.isUsual : Call → Bool
  | .activate _ | .npad (.setIds ..) => false
  | _ => true

end Hid.Device

namespace Hid.Commands

open Device (Call)
open Dispatch (Context)
open Service Service.Handler
open Wire (Layout)

section Handlers

variable {permits : Call → Prop} {keeps : (State → State) → Prop}
  (usual : ∀ c : Call, c.isUsual = true → permits c)
include usual

/-- The first step is left to the firmware if that manages the devices. -/
theorem limited_makeReady {deviceManaged : Bool}
    (lowLevel : deviceManaged = true ∨ ∀ input, permits (.activate input)) (input : Device.Input)
    (aruid : Int) : Handler.Limited permits keeps (makeReady deviceManaged input aruid) := by
  have follow (first : ResultCode) : Handler.Limited permits keeps
      (if first.isFailure then pure first
        else ask (.activateForApplet input aruid) : Handler ResultCode) :=
    .ite (.pure first) (.ask (usual _ rfl))
  cases deviceManaged with
  | true => exact .bind (.pure _) follow
  | false =>
      rcases lowLevel with managed | permitted
      · cases managed
      · exact .bind (.ask (permitted input)) follow

theorem limited_lentMemory {α : Type} (c : Context α) (index : Nat) :
    Handler.Limited permits keeps (lentMemory c index) :=
  .bind (.attempt _) fun _ => .ask (usual _ rfl)

theorem limited_sendAll (aruid : Int) (pairs : List (DeviceHandle × VibrationValue)) :
    Handler.Limited permits keeps (sendAll aruid pairs) := by
  induction pairs with
  | nil => exact .pure _
  | cons pair rest ih => exact .bind (.ask (usual _ rfl)) fun code => .ite (.pure _) ih

theorem limited_sendBuffers (c : Context Int) :
    Handler.Limited permits keeps (sendBuffers c) := by
  refine .bind (.attempt _) fun handles => .bind (.attempt _) fun values => ?_
  exact .ite (limited_sendAll usual _ _) (.pure _)

theorem limited_setHoldType (c : Context AruidWord) :
    Handler.Limited permits keeps (setHoldType c) :=
  .bind (.attempt _) fun _ => .ask (usual _ rfl)

theorem limited_setHandheldMode (c : Context AruidWord) :
    Handler.Limited permits keeps (setHandheldMode c) :=
  .bind (.attempt _) fun _ => .ask (usual _ rfl)

theorem limited_writeWaveEntry (c : Context PalmaWaveEntry) :
    Handler.Limited permits keeps (writeWaveEntry c) := by
  refine .bind (.attempt _) fun _ => .bind (limited_lentMemory usual c 0) fun memory? => ?_
  cases memory? with
  | none => exact .pure _
  | some memory =>
      exact .bind (.attempt _) fun _ => .bind (.ask (usual _ rfl)) fun _ => .pure _

theorem limited_setUpSevenSixAxis (lowLevel : ∀ input, permits (.activate input))
    (c : Context SevenSixAxisBuffers) :
    Handler.Limited permits keeps (setUpSevenSixAxis c) := by
  refine .bind (.attempt _) fun _ => .bind (.attempt _) fun _ => ?_
  refine .bind (limited_lentMemory usual c 0) fun work? => ?_
  refine .bind (limited_lentMemory usual c 1) fun lifo? => ?_
  cases work? with
  | none => exact .pure _
  | some work =>
      cases lifo? with
      | none => exact .pure _
      | some lifo =>
          refine .bind (.attempt _) fun _ => .bind (.attempt _) fun _ => ?_
          refine .bind (.discard (.ask (lowLevel _))) fun _ => ?_
          refine .bind (.discard (.ask (lowLevel _))) fun _ => ?_
          exact .bind (.ask (usual _ rfl)) fun _ => .pure _

omit usual in
theorem limited_acceptIds (sets : ∀ aruid ids, permits (.npad (.setIds aruid ids)))
    (accepts : ∀ ids, keeps fun s => { s with controllers := .ofList ids }) (c : Context Int) :
    Handler.Limited permits keeps (acceptIds c) := by
  refine .bind (.attempt _) fun ids => .ite ?_ (.pure _)
  refine .bind (.ask (sets _ _)) fun code => .ite ?_ (.pure _)
  exact .bind (.change (accepts _)) fun _ => .pure _

theorem limited_activateIn {position : Nat}
    (puts : ∀ registry : State → Activation.Registry,
      keeps fun s => s.setRegistry position (registry s)) (h : DeviceHandle) :
    Handler.Limited permits keeps (activateIn position h) := by
  refine .bind .state fun s => ?_
  cases (s.registry position).consider (validateVibrationHandle h s.controllers) h with
  | settled code => exact .pure _
  | askDevice =>
      refine .bind ?_ fun code => .bind (.change (puts _)) fun _ => .pure _
      exact .bind (.ask (usual _ rfl)) fun found => .ite (.ask (usual _ rfl)) (.pure _)

end Handlers

end Hid.Commands

namespace Hid.Service

open Commands Handler
open Device (Call)

/-- What holds of commands that are put together from permitted steps, and of the two that are made
for the other calls, holds of every command of a service. -/
theorem mainTable_limited {P : Row → Prop} {config : Config} (permits : Call → Prop)
    (keeps : (State → State) → Prop) (usual : ∀ c : Call, c.isUsual = true → permits c)
    (adds : ∀ object, keeps (·.add object))
    (lowLevel : config.deviceManaged = true ∨ ∀ input, permits (.activate input))
    (limited : ∀ opcode c, Limited permits keeps c → P (opcode, c))
    (accepts : P (102, contextual "SetSupportedNpadIdType" .aruid 0 acceptIds))
    (setsUp :
      P (306, contextual "InitializeSevenSixAxisSensor" .sevenSixAxisBuffers 2 setUpSevenSixAxis)) :
    ∀ row ∈ (mainTable config).rows, P row := by
  -- Without a handler a command makes no calls.
  obtain ⟨fixed, missing⟩ := forall_retired (P := P) (fun opcode s => limited opcode _ trivial)
    fun opcode name => limited opcode _ trivial
  simp only [mainTable, input, sixAxis, npad, vibration, palma, List.forall_mem_append,
    List.forall_mem_cons, List.not_mem_nil, false_implies, implies_true, and_true]
  and_intros
  all_goals first
    | exact fixed
    | exact missing
    | exact accepts
    | exact setsUp
    | refine limited _ _ ?_
  -- A row is taken apart along its form and its steps, down to single calls.
  all_goals try simp only [activateNpad, wholeReport, findMotor, resetFusion, actualValue,
    actualGcErm, isMounted, onSensor, ofSensor, blockOfSensor, operationInfo, writeLedPattern,
    required, sized]
  all_goals repeat' with_reducible first
    | exact Handler.Limited.ask (usual _ rfl)
    | exact Handler.Limited.pure _
    | exact Handler.Limited.state
    | exact Handler.Limited.attempt _
    | refine Handler.Limited.bind ?_ fun _ => ?_
    | refine Handler.Limited.ite ?_ ?_
    | refine Handler.Limited.discard ?_
    | exact limited_makeReady usual lowLevel _ _
    | exact limited_setHoldType usual _
    | exact limited_setHandheldMode usual _
    | exact limited_sendBuffers usual _
    | exact limited_writeWaveEntry usual _
    | refine limited_coded fun _ => ?_
    | refine limited_performed fun _ => ?_
    | refine limited_replied fun _ => ?_
    | refine limited_reported fun _ => ?_
    | refine limited_contextual fun _ => ?_
    | refine limited_handedOut fun _ => ?_
    | refine limited_created adds fun _ => ?_
    | refine limited_implemented fun _ => ?_

end Hid.Service
