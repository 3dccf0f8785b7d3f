import Hid.Proofs.Commands.Plain

/-!
Every command of every table is cautious. Plain ones raise no violation at all; the others check
what the client has sent before they ask a device for anything.
-/

namespace Hid.Commands

open Dispatch (Context)
open Service Service.Handler

/-! ### Handlers that check first -/

theorem lentMemory_quiet {α : Type} (c : Context α) (index : Nat) : Quiet (lentMemory c index) :=
  .bind (quiet_attempt _) fun handle => quiet_lookUp handle

theorem acceptIds_cautious (c : Context Int) : Handler.Cautious (acceptIds c) := by
  refine Quiet.bind_cautious (quiet_attempt _) fun ids => Innocent.cautious ?_
  refine .ite ?_ (innocent_pure _)
  exact .bind (innocent_ask _) fun code =>
    .ite (.bind (innocent_change _) fun _ => innocent_pure _) (innocent_pure _)

theorem setHoldType_cautious (c : Context AruidWord) : Handler.Cautious (setHoldType c) :=
  Quiet.bind_cautious (quiet_attempt _) fun _ => (innocent_ask _).cautious

theorem setHandheldMode_cautious (c : Context AruidWord) : Handler.Cautious (setHandheldMode c) :=
  Quiet.bind_cautious (quiet_attempt _) fun _ => (innocent_ask _).cautious

/-- Both buffers are read before the first value is sent. -/
theorem sendBuffers_cautious (c : Context Int) : Handler.Cautious (sendBuffers c) := by
  refine Quiet.bind_cautious (quiet_attempt _) fun handles => ?_
  refine Quiet.bind_cautious (quiet_attempt _) fun values => Innocent.cautious ?_
  exact .ite (plain_sendAll c.parameters _).innocent (innocent_pure _)

/-- Both memories are looked up and measured before the sensor is made ready. -/
theorem setUpSevenSixAxis_cautious (c : Context SevenSixAxisBuffers) :
    Handler.Cautious (setUpSevenSixAxis c) := by
  refine Quiet.bind_cautious (quiet_attempt _) fun _ => ?_
  refine Quiet.bind_cautious (quiet_attempt _) fun _ => ?_
  refine Quiet.bind_cautious (lentMemory_quiet c 0) fun work? => ?_
  refine Quiet.bind_cautious (lentMemory_quiet c 1) fun lifo? => ?_
  cases work? with
  | none => exact (innocent_pure _).cautious
  | some work =>
      cases lifo? with
      | none => exact (innocent_pure _).cautious
      | some lifo =>
          refine Quiet.bind_cautious (quiet_attempt _) fun _ => ?_
          refine Quiet.bind_cautious (quiet_attempt _) fun _ => Innocent.cautious ?_
          refine Handler.Plain.innocent (.bind (.discard (.ask _)) fun _ => ?_)
          exact .bind (.discard (.ask _)) fun _ => .bind (.ask _) fun _ => .pure _

/-- The memory is looked up and measured before it is handed on. -/
theorem writeWaveEntry_cautious (c : Context PalmaWaveEntry) :
    Handler.Cautious (writeWaveEntry c) := by
  refine Quiet.bind_cautious (quiet_attempt _) fun _ => ?_
  refine Quiet.bind_cautious (lentMemory_quiet c 0) fun memory? => ?_
  cases memory? with
  | none => exact (innocent_pure _).cautious
  | some memory =>
      refine Quiet.bind_cautious (quiet_attempt _) fun _ => Innocent.cautious ?_
      exact .bind (innocent_ask _) fun _ => innocent_pure _

/-! ### Handlers that change the state -/

theorem createAppletResource_cautious : Service.Cautious createAppletResource :=
  cautious_created fun _ => .bind (innocent_ask _) fun _ => innocent_pure _

theorem createDeviceList_cautious (capacity : Quantity) :
    Service.Cautious (createDeviceList capacity) :=
  cautious_created fun _ => .bind (plain_ofCapacity capacity).innocent fun _ => innocent_pure _

theorem activateIn_innocent (position : Nat) (h : DeviceHandle) :
    Innocent (activateIn position h) := by
  refine .bind innocent_state fun s => ?_
  cases (s.registry position).consider (validateVibrationHandle h s.controllers) h with
  | settled code => exact innocent_pure _
  | askDevice =>
      refine .bind (plain_activateMotor h).innocent fun code => ?_
      exact .bind (innocent_change _) fun _ => innocent_pure _

/-! ### Tables of objects -/

theorem appletResource_cautious (aruid : Int) :
    ∀ row ∈ (appletResource aruid).rows, Service.Cautious row.2 := by
  intro row found
  rw [List.mem_singleton.mp found]
  have plain : Service.Plain (handedOut "GetSharedMemoryHandle" .empty fun _ =>
      ask (.getSharedMemoryHandle aruid)) := plain_handedOut fun _ => .ask _
  exact plain.cautious

theorem deviceList_cautious (position : Nat) :
    ∀ row ∈ (deviceList position).rows, Service.Cautious row.2 := by
  intro row found
  rw [List.mem_singleton.mp found]
  exact cautious_coded fun h => activateIn_innocent position h

end Hid.Commands

namespace Hid.Service

open Commands

theorem mainTable_cautious (config : Config) :
    ∀ row ∈ (mainTable config).rows, Cautious row.2 := by
  apply mainTable_cases
  case plain => exact fun opcode c plain => plain.cautious
  case creates => exact createAppletResource_cautious
  case accepts => exact cautious_contextual acceptIds_cautious
  case lists => exact createDeviceList_cautious _
  case holds => exact cautious_contextual setHoldType_cautious
  case handheld => exact cautious_contextual setHandheldMode_cautious
  case sends => exact cautious_contextual sendBuffers_cautious
  case setsUp => exact cautious_contextual setUpSevenSixAxis_cautious
  case writes => exact cautious_contextual writeWaveEntry_cautious

end Hid.Service
