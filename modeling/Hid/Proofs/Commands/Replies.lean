import Hid.Proofs.Service.Replies
import Hid.Service.Basic

/-!
The shapes of the replies of all commands. Three commands reply with a buffer, four of the service
hand out an object, and so does the one command of a client's resource.
-/

namespace Hid.Commands

open Dispatch (Command Reply)
open Service Service.Handler
open Wire (Bytes Layout Shape)

/-- The commands that reply with a buffer, and the size of it. -/
def bufferSizes : List (Int × Nat) := [(87, 0x744), (88, 0xc8), (503, 0x140)]

/-- The commands of a service that hand out an object. -/
def givers : List Int := [0, 106, 203, 502]

section Forms

variable {α β : Type} {name : String}

theorem shapes_ofSensor {output : Layout β} (sized : output.Sized)
    {act : DeviceHandle → Handler (Device.Report β)} :
    Shapes none 0 (ofSensor name output act) := by
  apply shapes_replied sized
  intro p
  apply Yields.ite
  · intro _
    exact yields_pure (shaped_bare _ none)
  · intro _
    apply Yields.after
    intro report
    exact yields_pure (shaped_bare report.result report.value)

/-- A block is sent only with a success, and then at its size. -/
theorem shapes_blockOfSensor {block : String} {size : Nat}
    {act : DeviceHandle → Handler (Device.Report Bytes)} :
    Shapes (some size) 0 (blockOfSensor name block size act) := by
  refine ⟨sized_of_none, ?_⟩
  intro c
  apply Yields.ite
  · intro invalid
    exact yields_pure (shaped_of_failure invalid (some size) none)
  · intro _
    apply Yields.after
    intro report
    apply Yields.ite
    · intro failed
      exact yields_pure (shaped_of_failure failed (some size) none)
    · intro success
      apply Yields.after
      intro data
      refine Yields.bind (yields_sized block size data) ?_
      intro sent whole
      exact yields_pure (shaped_of_success success whole none)

theorem shapes_operationInfo : Shapes (some Limits.operationDataSize) 0 operationInfo := by
  constructor
  · rintro l ⟨⟩
    exact Shape.word64.sized
  · intro c
    apply Yields.after
    intro report
    apply Yields.ite
    · intro failed
      exact yields_pure (shaped_of_failure failed _ none)
    · intro success
      apply Yields.after
      rintro ⟨operation, data⟩
      refine Yields.bind (yields_sized "PalmaOperationData" Limits.operationDataSize data) ?_
      intro sent whole
      exact yields_pure (shaped_of_success success whole (some operation))

end Forms

/-- The shape that the reply of a command of a service has. -/
def HasShape (row : Row) : Prop :=
  Shapes (bufferSizes.lookup row.1) (if row.1 ∈ givers then 1 else 0) row.2

end Hid.Commands

namespace Hid.Service

open Commands
open Dispatch (Command Reply)
open Handler
open Wire (Shape)

theorem mainTable_shapes (config : Config) : ∀ row ∈ (mainTable config).rows, HasShape row := by
  obtain ⟨fixed, missing⟩ :=
    forall_retired (P := HasShape) (fun _ _ => trivial) fun _ _ => trivial
  simp only [HasShape, mainTable, input, sixAxis, npad, vibration, palma, List.forall_mem_append,
    List.forall_mem_cons, List.not_mem_nil, false_implies, implies_true, and_true]
  and_intros
  all_goals first
    | exact fixed
    | exact missing
    | exact shapes_coded
    | exact shapes_contextual
    | exact shapes_created
    | exact shapes_handedOut
    | exact shapes_blockOfSensor
    | exact shapes_operationInfo
    | exact shapes_reported Shape.word32.sized
    | exact shapes_reported Shape.word64.sized
    | exact shapes_reported Shape.vibrationDeviceInfo.sized
    | exact shapes_reported Shape.palmaHandle.sized
    | exact shapes_ofSensor Shape.flagWord.sized
    | exact shapes_ofSensor Shape.fusionParameters.sized
    | exact shapes_ofSensor Shape.word32.sized
    | skip
  -- What is left makes its replies by hand, and all of them without buffers and objects.
  · exact shapes_replied Shape.flagWord.sized fun _ => .after fun _ => yields_pure (shaped_bare _ _)
  · exact shapes_replied Shape.flagWord.sized fun _ => .after fun _ => yields_pure (shaped_bare _ _)
  · refine shapes_replied Shape.flagWord.sized fun p => .ite (fun _ => ?_) fun _ => ?_
    · exact .after fun report => yields_pure (shaped_bare report.result report.value)
    · exact yields_pure (shaped_bare _ none)
  · exact shapes_replied Shape.npadModeChange.sized fun _ =>
      .after fun change => yields_pure (shaped_bare _ (some change))
  · exact shapes_replied Shape.vibrationValue.sized fun _ =>
      .after fun value => yields_pure (shaped_bare _ value)
  · exact shapes_replied Shape.flagWord.sized fun _ =>
      .after fun report => yields_pure (shaped_bare report.result _)
  · exact shapes_replied Shape.word64.sized fun _ =>
      .after fun value => yields_pure (shaped_bare _ (some value))
  · refine shapes_replied Shape.flagWord.sized fun p => .after fun s =>
      .ite (fun _ => ?_) fun _ => ?_
    · exact .after fun mounted => yields_pure (shaped_bare _ (some mounted))
    · exact yields_pure (shaped_bare _ (some false))

/-- The one command of a client's resource hands out an object, that of a list does not. -/
theorem appletResource_shapes (aruid : Int) :
    ∀ row ∈ (appletResource aruid).rows, Shapes none 1 row.2 := by
  intro row among
  obtain rfl := List.mem_singleton.mp among
  dsimp only
  exact shapes_handedOut

theorem deviceList_shapes (position : Nat) :
    ∀ row ∈ (deviceList position).rows, Shapes none 0 row.2 := by
  intro row among
  obtain rfl := List.mem_singleton.mp among
  dsimp only
  exact shapes_coded

end Hid.Service
