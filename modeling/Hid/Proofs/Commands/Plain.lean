import Hid.Proofs.Service.Plain
import Hid.Service.Basic

/-!
Which commands are plain. All but eight of a service are: two create an object, one changes the
accepted ids, and five demand what a malformed request can break. `mainTable_cases` is the way to
prove something of every command of a service: of the plain ones at once, and of the eight one by
one.
-/

namespace Hid.Commands

open Dispatch (Command)
open Service Service.Handler
open Wire (Bytes Layout)

/-! ### Plain handlers -/

section Handlers

variable (aruid : Int) (h : DeviceHandle)

theorem plain_makeReady (deviceManaged : Bool) (input : Device.Input) :
    Handler.Plain (makeReady deviceManaged input aruid) := by
  have follow (first : ResultCode) : Handler.Plain (if first.isFailure then pure first
      else ask (.activateForApplet input aruid) : Handler ResultCode) :=
    .ite (.pure first) (.ask _)
  cases deviceManaged with
  | false => exact .bind (.ask _) follow
  | true => exact .bind (.pure _) follow

theorem plain_activateNpad (revision : Int) : Handler.Plain (activateNpad aruid revision) :=
  .bind (.ask _) fun _ => .ask _

theorem plain_wholeReport (report : Device.Report Quantity) : Handler.Plain (wholeReport report) :=
  .bind (.required _) fun _ => .pure _

theorem plain_resetFusion (reset : FusionParameters) : Handler.Plain (resetFusion reset h) :=
  .bind (.ask _) fun _ => .bind (.ask _) fun _ => .pure _

theorem plain_findMotor (view : Device.MotorView) : Handler.Plain (findMotor view aruid h) := by
  refine .bind (.ask _) fun active => .ite (.pure _) ?_
  refine .bind .state fun s => .ite (.pure _) ?_
  exact .bind (.ask _) fun found => .pure _

theorem plain_sendAll (pairs : List (DeviceHandle × VibrationValue)) :
    Handler.Plain (sendAll aruid pairs) := by
  induction pairs with
  | nil => exact .pure _
  | cons pair rest ih => exact .bind (.ask _) fun code => .ite (.pure _) ih

theorem plain_actualValue : Handler.Plain (actualValue aruid h) := by
  refine .bind (plain_findMotor aruid h _) fun search => .ite ?_ (.pure _)
  exact .bind (.ask _) fun report => .pure _

theorem plain_actualGcErm : Handler.Plain (actualGcErm aruid h) := by
  refine .bind (plain_findMotor aruid h _) fun search => .ite ?_ (.pure _)
  exact .bind (.ask _) fun report => .ite (.pure _) (.required _)

theorem plain_isMounted : Handler.Plain (isMounted h) :=
  .bind (.ask _) fun _ => .ite (.ask _) (.pure _)

theorem plain_activateMotor : Handler.Plain (activateMotor h) :=
  .bind (.ask _) fun _ => .ite (.ask _) (.pure _)

theorem plain_ofCapacity (capacity : Quantity) :
    Handler.Plain (attempt (Activation.Registry.ofCapacity capacity)) := by
  apply Handler.Plain.attempt
  intro v raised
  cases capacity with
  | int n =>
      rw [Activation.Registry.ofCapacity] at raised
      split at raised <;> cases raised
  | other x => cases raised

end Handlers

/-! ### Plain commands -/

section Sensors

variable {α β : Type} {name : String}

theorem plain_onSensor {parameters : Layout α} {handle : α → DeviceHandle}
    {act : α → Handler ResultCode} (plain : ∀ p, Handler.Plain (act p)) :
    Service.Plain (onSensor name parameters handle act) :=
  plain_coded fun p => .ite (.pure _) (plain p)

theorem plain_ofSensor {output : Layout β} {act : DeviceHandle → Handler (Device.Report β)}
    (plain : ∀ h, Handler.Plain (act h)) : Service.Plain (ofSensor name output act) :=
  plain_replied fun p => .ite (.pure _) (.bind (plain p.handle) fun _ => .pure _)

theorem plain_blockOfSensor {block : String} {size : Nat}
    {act : DeviceHandle → Handler (Device.Report Bytes)} (plain : ∀ h, Handler.Plain (act h)) :
    Service.Plain (blockOfSensor name block size act) := by
  intro c
  refine .ite (.pure _) ?_
  refine .bind (plain c.parameters.handle) fun report => .ite (.pure _) ?_
  exact .bind (.required _) fun data => .bind (.sized _ _ _) fun data => .pure _

theorem plain_operationInfo : Service.Plain operationInfo := by
  intro c
  refine .bind (.ask _) fun report => .ite (.pure _) ?_
  exact .bind (.required _) fun operation => .bind (.sized _ _ _) fun data => .pure _

theorem plain_writeLedPattern : Service.Plain writeLedPattern :=
  plain_contextual fun _ => .bind (.ask _) fun _ => .pure _

end Sensors

/-! ### The eight others -/

def createAppletResource : Command Program :=
  created "CreateAppletResource" .aruid fun aruid =>
    return (← ask (.createAppletResource aruid), .appletResource aruid)

def setSupportedIds : Command Program :=
  contextual "SetSupportedNpadIdType" .aruid 0 acceptIds

def createDeviceList (capacity : Quantity) : Command Program :=
  created "CreateActiveVibrationDeviceList" .empty fun _ =>
    return (.success, .deviceList (← attempt (Activation.Registry.ofCapacity capacity)))

end Hid.Commands

namespace Hid.Service

open Commands

/-- What holds of plain commands and of the eight others holds of every command of a service. -/
theorem mainTable_cases {P : Row → Prop} (config : Config)
    (plain : ∀ opcode c, Plain c → P (opcode, c)) (creates : P (0, createAppletResource))
    (accepts : P (102, setSupportedIds))
    (lists : P (203, createDeviceList config.activationCapacity))
    (holds : P (120, contextual "SetNpadJoyHoldType" .aruidWord 0 setHoldType))
    (handheld : P (128, contextual "SetNpadHandheldActivationMode" .aruidWord 0 setHandheldMode))
    (sends : P (206, contextual "SendVibrationValues" .aruid 0 sendBuffers))
    (setsUp :
      P (306, contextual "InitializeSevenSixAxisSensor" .sevenSixAxisBuffers 2 setUpSevenSixAxis))
    (writes : P (515, contextual "WritePalmaWaveEntry" .palmaWaveEntry 1 writeWaveEntry)) :
    ∀ row ∈ (mainTable config).rows, P row := by
  -- Without a handler a command is plain.
  obtain ⟨fixed, missing⟩ := forall_retired (P := P) (fun opcode s => plain opcode _ trivial)
    fun opcode name => plain opcode _ trivial
  simp only [mainTable, input, sixAxis, npad, vibration, palma, List.forall_mem_append,
    List.forall_mem_cons, List.not_mem_nil, false_implies, implies_true, and_true]
  and_intros
  all_goals first
    | exact fixed
    | exact missing
    | exact creates
    | exact accepts
    | exact lists
    | exact holds
    | exact handheld
    | exact sends
    | exact setsUp
    | exact writes
    | refine plain _ _ ?_
  -- A row is taken apart along its form and its steps, down to the handlers that have a name.
  all_goals repeat' with_reducible first
    | exact Handler.Plain.ask _
    | exact Handler.Plain.pure _
    | exact Handler.Plain.state
    | refine Handler.Plain.bind ?_ fun _ => ?_
    | refine Handler.Plain.ite ?_ ?_
    | refine Handler.Plain.discard ?_
    | exact plain_makeReady ..
    | exact plain_activateNpad ..
    | exact plain_wholeReport ..
    | exact plain_findMotor ..
    | refine plain_coded fun _ => ?_
    | refine plain_performed fun _ => ?_
    | refine plain_replied fun _ => ?_
    | refine plain_reported fun _ => ?_
    | refine plain_handedOut fun _ => ?_
    | refine plain_onSensor fun _ => ?_
    | refine plain_ofSensor fun _ => ?_
    | refine plain_blockOfSensor fun _ => ?_
  · exact plain_resetFusion _ _
  · exact plain_actualValue _ _
  · exact plain_actualGcErm _ _
  · exact plain_isMounted _
  · exact plain_operationInfo
  · exact plain_writeLedPattern

end Hid.Service
