import Hid.Proofs.Commands.Plain

/-!
An error of the device layer ends every command, and what a command changes, it changes after its
last call. Only four kinds of command change anything: the two that create an object, the one that
accepts ids, and the activation in a list of devices.

* `mainTable_strict`, `Interface.strict`: every command of every table is strict.
* `mainTable_steady`: which commands of a service leave the state alone.
-/

namespace Hid.Service

open Dispatch (Command Context Table)
open Handler
open Wire (Layout)

/-- Whatever the command gets, an error of the device layer ends it, and it does not change the
state. -/
def Steady (c : Command Program) : Prop :=
  match c with
  | .implemented d => ∀ context, Handler.Steady (d.handler context)
  | .stubbed _ | .unimplemented _ => True

/-- Whatever the command gets, an error of the device layer ends it, and it makes no call after it
has changed the state. -/
def Strict (c : Command Program) : Prop :=
  match c with
  | .implemented d => ∀ context, Handler.Strict (d.handler context)
  | .stubbed _ | .unimplemented _ => True

theorem Steady.strict {c : Command Program} (steady : Steady c) : Strict c := by
  cases c with
  | implemented d => exact fun context => (steady context).strict
  | stubbed s => trivial
  | unimplemented name => trivial

theorem Plain.steady {c : Command Program} (plain : Plain c) : Steady c := by
  cases c with
  | implemented d => exact fun context => (plain context).steady
  | stubbed s => trivial
  | unimplemented name => trivial

section Forms

variable {α : Type} {name : String} {parameters : Layout α}

theorem steady_contextual {handleCount : Nat} {handler : Context α → Handler ResultCode}
    (steady : ∀ c, Handler.Steady (handler c)) :
    Steady (contextual name parameters handleCount handler) :=
  fun c => (steady c).bind fun _ => (Handler.Plain.pure _).steady

theorem strict_contextual {handleCount : Nat} {handler : Context α → Handler ResultCode}
    (strict : ∀ c, Handler.Strict (handler c)) :
    Strict (contextual name parameters handleCount handler) :=
  fun c => (strict c).bind_silent fun _ => trivial

theorem strict_coded {handler : α → Handler ResultCode}
    (strict : ∀ p, Handler.Strict (handler p)) : Strict (coded name parameters handler) :=
  fun c => (strict c.parameters).bind_silent fun _ => trivial

/-- The object is added when the handler has made its calls. -/
theorem strict_created {handler : α → Handler (ResultCode × Interface)}
    (steady : ∀ p, Handler.Steady (handler p)) : Strict (created name parameters handler) := by
  intro c
  refine (steady c.parameters).bind_strict fun made => ?_
  exact Handler.Plain.state.steady.bind_strict fun s => trivial

end Forms
end Hid.Service

namespace Hid.Commands

open Dispatch (Context)
open Service Service.Handler

/-! ### The handlers that are not plain -/

section Handlers

theorem lentMemory_steady {α : Type} (c : Context α) (index : Nat) :
    Handler.Steady (lentMemory c index) :=
  (steady_attempt _).bind fun _ => (Handler.Plain.ask _).steady

theorem setHoldType_steady (c : Context AruidWord) : Handler.Steady (setHoldType c) :=
  (steady_attempt _).bind fun _ => (Handler.Plain.ask _).steady

theorem setHandheldMode_steady (c : Context AruidWord) : Handler.Steady (setHandheldMode c) :=
  (steady_attempt _).bind fun _ => (Handler.Plain.ask _).steady

theorem sendBuffers_steady (c : Context Int) : Handler.Steady (sendBuffers c) := by
  refine (steady_attempt _).bind fun handles => (steady_attempt _).bind fun values => ?_
  exact (Handler.Plain.ite (plain_sendAll c.parameters _) (.pure _)).steady

theorem setUpSevenSixAxis_steady (c : Context SevenSixAxisBuffers) :
    Handler.Steady (setUpSevenSixAxis c) := by
  refine (steady_attempt _).bind fun _ => (steady_attempt _).bind fun _ => ?_
  refine (lentMemory_steady c 0).bind fun work? => (lentMemory_steady c 1).bind fun lifo? => ?_
  cases work? with
  | none => exact (Handler.Plain.pure _).steady
  | some work =>
      cases lifo? with
      | none => exact (Handler.Plain.pure _).steady
      | some lifo =>
          refine (steady_attempt _).bind fun _ => (steady_attempt _).bind fun _ => ?_
          refine Handler.Plain.steady (.bind (.discard (.ask _)) fun _ => ?_)
          exact .bind (.discard (.ask _)) fun _ => .bind (.ask _) fun _ => .pure _

theorem writeWaveEntry_steady (c : Context PalmaWaveEntry) :
    Handler.Steady (writeWaveEntry c) := by
  refine (steady_attempt _).bind fun _ => (lentMemory_steady c 0).bind fun memory? => ?_
  cases memory? with
  | none => exact (Handler.Plain.pure _).steady
  | some memory =>
      refine (steady_attempt _).bind fun _ => ?_
      exact (Handler.Plain.bind (.ask _) fun _ => .pure _).steady

/-- The ids are accepted when the device layer has answered. -/
theorem acceptIds_strict (c : Context Int) : Handler.Strict (acceptIds c) := by
  refine (steady_attempt _).bind_strict fun ids => .ite ?_ trivial
  exact (Handler.Plain.ask _).steady.bind_strict fun code => .ite trivial trivial

/-- The handle is added when the device has answered. -/
theorem activateIn_strict (position : Nat) (h : DeviceHandle) :
    Handler.Strict (activateIn position h) := by
  refine Handler.Plain.state.steady.bind_strict fun s => ?_
  cases (s.registry position).consider (validateVibrationHandle h s.controllers) h with
  | settled code => trivial
  | askDevice => exact (plain_activateMotor h).steady.bind_strict fun code => trivial

end Handlers

/-! ### Tables -/

theorem createAppletResource_strict : Service.Strict createAppletResource :=
  strict_created fun _ => (Handler.Plain.bind (.ask _) fun _ => .pure _).steady

theorem createDeviceList_strict (capacity : Quantity) :
    Service.Strict (createDeviceList capacity) :=
  strict_created fun _ => (Handler.Plain.bind (plain_ofCapacity _) fun _ => .pure _).steady

theorem setSupportedIds_strict : Service.Strict setSupportedIds :=
  strict_contextual acceptIds_strict

theorem appletResource_steady (aruid : Int) :
    ∀ row ∈ (appletResource aruid).rows, Service.Steady row.2 := by
  intro row found
  rw [List.mem_singleton.mp found]
  have plain : Service.Plain (handedOut "GetSharedMemoryHandle" .empty fun _ =>
      ask (.getSharedMemoryHandle aruid)) := plain_handedOut fun _ => .ask _
  exact plain.steady

theorem deviceList_strict (position : Nat) :
    ∀ row ∈ (deviceList position).rows, Service.Strict row.2 := by
  intro row found
  rw [List.mem_singleton.mp found]
  exact strict_coded (activateIn_strict position)

end Hid.Commands

namespace Hid.Service

open Commands

theorem mainTable_strict (config : Config) : ∀ row ∈ (mainTable config).rows, Strict row.2 := by
  apply mainTable_cases
  case plain => exact fun opcode c plain => plain.steady.strict
  case creates => exact createAppletResource_strict
  case accepts => exact setSupportedIds_strict
  case lists => exact createDeviceList_strict _
  case holds => exact (steady_contextual setHoldType_steady).strict
  case handheld => exact (steady_contextual setHandheldMode_steady).strict
  case sends => exact (steady_contextual sendBuffers_steady).strict
  case setsUp => exact (steady_contextual setUpSevenSixAxis_steady).strict
  case writes => exact (steady_contextual writeWaveEntry_steady).strict

/-- Only the two commands that create an object and the one that accepts ids change the state of a
service. -/
theorem mainTable_steady (config : Config) :
    ∀ row ∈ (mainTable config).rows, row.1 ∉ [0, 102, 203] → Steady row.2 := by
  apply mainTable_cases
  case plain => exact fun opcode c plain _ => plain.steady
  case creates => exact fun other => absurd (by decide) other
  case accepts => exact fun other => absurd (by decide) other
  case lists => exact fun other => absurd (by simp) other
  case holds => exact fun _ => steady_contextual setHoldType_steady
  case handheld => exact fun _ => steady_contextual setHandheldMode_steady
  case sends => exact fun _ => steady_contextual sendBuffers_steady
  case setsUp => exact fun _ => steady_contextual setUpSevenSixAxis_steady
  case writes => exact fun _ => steady_contextual writeWaveEntry_steady

theorem Interface.strict (object : Interface) (position : Nat) :
    ∀ row ∈ (object.table position).rows, Strict row.2 := by
  cases object with
  | appletResource aruid =>
      exact fun row found => (Commands.appletResource_steady aruid row found).strict
  | deviceList registry => exact Commands.deviceList_strict position

end Hid.Service
