import Hid.Proofs.Commands.Limited

/-!
Which commands make an input device ready at the low level, though the firmware manages the
devices. The commands that are made for that leave it to the firmware (`limited_makeReady`), and
of all commands of a service only the one that sets up the seven six-axis sensor does not
(`mainTable_confined`). That one does it if the client lends the memory it requires, and only then
(`lends_of_lowLevel`, `calls_of_lends`).
-/

namespace Hid.Device

/-- The call makes an input device ready at the low level, for no client in particular. -/
def Call.IsLowLevel (c : Call) : Prop := ∃ input, c = .activate input

end Hid.Device

namespace Hid.Commands

open Device (Call TransferMemory)
open Dispatch (Context)
open Service Service.Handler

/-! ### Lent memory -/

section Lent

variable {α β : Type} {c : Context α} {device : Service.Device} {past : List Call} {s : State}

theorem demand_eq_ok_iff {condition : Bool} {detail : String} {expected actual : Quantity} :
    c.demand condition detail expected actual = .ok () ↔ condition = true := by
  rw [Context.demand]
  cases condition with
  | true => exact ⟨fun _ => rfl, fun _ => rfl⟩
  | false =>
      constructor
      · intro demanded
        cases demanded
      · intro holds
        cases holds

theorem lentMemory_ran {index : Nat} {handle : Quantity}
    (copied : c.copyHandle index = .ok handle) :
    (lentMemory c index).ran device past s =
      ⟨device past (.getTransferMemory handle), s, [.getTransferMemory handle]⟩ := by
  rw [lentMemory, ran_attempt_ok copied, ran_ask]

/-- What follows a look-up of memory is called if the handle is a copied one and the look-up did
not fail. -/
theorem mem_calls_lentMemory {index : Nat} {k : Option TransferMemory → Handler β} {call : Call}
    (made : call ∈ ((lentMemory c index >>= k).ran device past s).calls) :
    ∃ handle, c.copyHandle index = .ok handle ∧
      (call = .getTransferMemory handle ∨
        ∃ memory?, device past (.getTransferMemory handle) = .ok memory? ∧
          call ∈ ((k memory?).ran device (past ++ [.getTransferMemory handle]) s).calls) := by
  rw [lentMemory, bind_assoc] at made
  obtain ⟨handle, copied, later⟩ := mem_calls_attempt made
  exact ⟨handle, copied, mem_calls_ask later⟩

end Lent

/-! ### The seven six-axis sensor -/

/-- The client lends memory as the seven six-axis sensor requires it: it declares both sizes as
required, copies a handle for each, and behind each there is memory of that size. -/
structure Lends (device : Service.Device) (past : List Call) (c : Context SevenSixAxisBuffers)
    (first second : Quantity) (work lifo : TransferMemory) : Prop where
  declaredWork : c.parameters.workBufferSize = Limits.workBufferSize
  declaredLifo : c.parameters.lifoBufferSize = Limits.lifoBufferSize
  workHandle : c.copyHandle 0 = .ok first
  lifoHandle : c.copyHandle 1 = .ok second
  workFound : device past (.getTransferMemory first) = .ok (some work)
  lifoFound :
    device (past ++ [.getTransferMemory first]) (.getTransferMemory second) = .ok (some lifo)
  workSize : work.size = (Limits.workBufferSize : Quantity)
  lifoSize : lifo.size = (Limits.lifoBufferSize : Quantity)

section SetUp

variable {c : Context SevenSixAxisBuffers} {device : Service.Device} {past : List Call} {s : State}

/-- Whatever is made ready, all that is demanded of the client has been found before. -/
theorem lends_of_lowLevel {input : Device.Input}
    (made : .activate input ∈ ((setUpSevenSixAxis c).ran device past s).calls) :
    (∃ first second work lifo, Lends device past c first second work lifo) ∧
      (input = .consoleSixAxis ∨ input = .sevenSixAxis) := by
  rw [setUpSevenSixAxis] at made
  obtain ⟨_, declaredWork, made⟩ := mem_calls_attempt made
  obtain ⟨_, declaredLifo, made⟩ := mem_calls_attempt made
  obtain ⟨first, workHandle, look | ⟨work?, workFound, made⟩⟩ := mem_calls_lentMemory made
  · cases look
  obtain ⟨second, lifoHandle, look | ⟨lifo?, lifoFound, made⟩⟩ := mem_calls_lentMemory made
  · cases look
  cases work? with
  | none => cases made
  | some work =>
      cases lifo? with
      | none => cases made
      | some lifo =>
          obtain ⟨_, workSize, made⟩ := mem_calls_attempt made
          obtain ⟨_, lifoSize, made⟩ := mem_calls_attempt made
          constructor
          · exact ⟨first, second, work, lifo,
              of_decide_eq_true (demand_eq_ok_iff.mp declaredWork),
              of_decide_eq_true (demand_eq_ok_iff.mp declaredLifo), workHandle, lifoHandle,
              workFound, lifoFound, of_decide_eq_true (demand_eq_ok_iff.mp workSize),
              of_decide_eq_true (demand_eq_ok_iff.mp lifoSize)⟩
          · rcases mem_calls_bind made with console | ⟨_, -, made⟩
            · rcases mem_calls_ask console with same | ⟨_, -, none⟩
              · exact .inl (Call.activate.inj same)
              · cases none
            rcases mem_calls_bind made with seven | ⟨_, -, made⟩
            · rcases mem_calls_ask seven with same | ⟨_, -, none⟩
              · exact .inr (Call.activate.inj same)
              · cases none
            rcases mem_calls_ask made with other | ⟨_, -, none⟩
            · cases other
            · cases none

/-- Once the memory is found to be as required, the console sensor is made ready. -/
theorem calls_of_lends {first second : Quantity} {work lifo : TransferMemory}
    (lends : Lends device past c first second work lifo) :
    .activate .consoleSixAxis ∈ ((setUpSevenSixAxis c).ran device past s).calls := by
  have demanded {condition : Prop} [Decidable condition] (holds : condition) (detail : String)
      (expected actual : Quantity) :
      c.demand (decide condition) detail expected actual = .ok () :=
    demand_eq_ok_iff.mpr (decide_eq_true holds)
  have workLent : (lentMemory c 0).ran device past s = _ := lentMemory_ran lends.workHandle
  have lifoLent : (lentMemory c 1).ran device (past ++ [.getTransferMemory first]) s = _ :=
    lentMemory_ran lends.lifoHandle
  rw [lends.workFound] at workLent
  rw [lends.lifoFound] at lifoLent
  rw [setUpSevenSixAxis, demandDeclared, demandDeclared,
    ran_attempt_ok (demanded lends.declaredWork _ _ _),
    ran_attempt_ok (demanded lends.declaredLifo _ _ _), ran_bind_ok (by rw [workLent]), workLent,
    ran_bind_ok (by rw [lifoLent]), lifoLent]
  refine List.mem_append_right _ (List.mem_append_right _ ?_)
  dsimp only
  rw [demandSize, demandSize, ran_attempt_ok (demanded lends.workSize _ _ _),
    ran_attempt_ok (demanded lends.lifoSize _ _ _)]
  refine (calls_bind ..).subset ((calls_bind ..).subset ?_)
  exact List.mem_singleton.mpr rfl

end SetUp

end Hid.Commands

/-! ### All other commands -/

namespace Hid.Service

open Commands
open Device (Call)

/-- A usual call makes nothing ready at the low level. -/
theorem not_isLowLevel_of_isUsual (c : Call) (usual : c.isUsual = true) : ¬ c.IsLowLevel := by
  rintro ⟨input, rfl⟩
  cases usual

/-- Of all commands of a service whose devices the firmware manages, only one makes an input device
ready at the low level. -/
theorem mainTable_confined {config : Config} (managed : config.deviceManaged = true) :
    ∀ row ∈ (mainTable config).rows, row.1 ≠ 306 → Confined (¬ ·.IsLowLevel) row.2 := by
  refine mainTable_limited (P := fun row => row.1 ≠ 306 → Confined (¬ ·.IsLowLevel) row.2)
    (¬ ·.IsLowLevel) (fun _ => True) not_isLowLevel_of_isUsual (fun _ => trivial) (.inl managed)
    ?limited ?accepts ?setsUp
  case limited => exact fun opcode c limited _ => limited.confined
  case setsUp => exact fun other => absurd rfl other
  case accepts =>
    intro _
    have ids : Limited (¬ ·.IsLowLevel) (fun _ => True)
        (contextual "SetSupportedNpadIdType" .aruid 0 acceptIds) := by
      refine limited_contextual (limited_acceptIds ?_ fun _ => trivial)
      rintro aruid ids ⟨input, other⟩
      cases other
    exact ids.confined

/-- No command of an object does. -/
theorem Interface.confined (object : Interface) (position : Nat) :
    ∀ row ∈ (object.table position).rows, Confined (¬ ·.IsLowLevel) row.2 := by
  suffices limited : ∀ row ∈ (object.table position).rows,
      Limited (¬ ·.IsLowLevel) (fun _ => True) row.2 from
    fun row among => (limited row among).confined
  intro row among
  cases object with
  | appletResource aruid =>
      obtain rfl := List.mem_singleton.mp among
      dsimp only
      apply limited_handedOut
      intro _
      exact .ask (not_isLowLevel_of_isUsual _ rfl)
  | deviceList r =>
      obtain rfl := List.mem_singleton.mp among
      exact limited_coded (limited_activateIn not_isLowLevel_of_isUsual fun _ => trivial)

end Hid.Service
