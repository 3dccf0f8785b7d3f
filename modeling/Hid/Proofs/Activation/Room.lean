import Mathlib.Data.List.Nodup
import Hid.Proofs.Activation.Run
import Hid.Wire.Catalogue

/-!
How many handles a registry can come to hold. A handle that is read from the wire and passes its
validation is one of `motorHandles`, whatever controllers are accepted at the time, and these are
230. A registry that holds only such handles and none of them twice (`Registry.OfMotors`) cannot
hold more, so that one with room for 230 has room whenever a valid handle is missing
(`Registry.OfMotors.consider_eq_askDevice`). Lines of activations keep their registry like this,
however the activations overlap (`Line.OfMotors.run`).
-/

namespace Hid

open Wire (Bytes Layout)

/-! ### Handles of motors -/

/-- All handles that name a style with a motor, a defined controller and an index below the limit
of the style. -/
def motorHandles : List DeviceHandle :=
  motorCounts.flatMap fun (style, limit) => Controllers.definedIds.flatMap fun id =>
    (List.range limit.truncate.toNat).map fun index : Nat => ⟨style, id, index⟩

/-- Seven styles have three motors each and two have one, and there are ten controllers. -/
theorem length_motorHandles : motorHandles.length = 230 := by
  simp only [motorHandles, List.length_flatMap, List.length_map, List.length_range]
  rfl

/-- The handle is what four bytes say. -/
def DeviceHandle.FromWire (h : DeviceHandle) : Prop :=
  ∃ block, Layout.deviceHandle.decode block = .ok h

namespace DeviceHandle

variable {h : DeviceHandle}

/-- The fields of a handle that comes from the wire are natural numbers. -/
theorem FromWire.fields (wire : h.FromWire) :
    ∃ style id index : Nat, h = ⟨(style : Quantity), (id : Quantity), (index : Quantity)⟩ := by
  obtain ⟨block, decoded⟩ := wire
  by_cases whole : block.length = 4
  case neg =>
    rw [Layout.decode_of_length_ne _ whole] at decoded
    cases decoded
  case pos =>
    obtain ⟨style, id, index, pad, rfl⟩ : ∃ a b c d, block = [a, b, c, d] := by
      match block, whole with
      | [a, b, c, d], _ => exact ⟨a, b, c, d, rfl⟩
    have read : Layout.deviceHandle.decode [style, id, index, pad] =
        .ok ⟨style.toNat, id.toNat, index.toNat⟩ := rfl
    rw [read] at decoded
    exact ⟨style.toNat, id.toNat, index.toNat, (Except.ok.inj decoded).symm⟩

/-- Whatever controllers are accepted, a valid handle is one of the same few. -/
theorem FromWire.mem_motorHandles (wire : h.FromWire) {c : Controllers}
    (valid : (validateVibrationHandle h c).isSuccess = true) : h ∈ motorHandles := by
  obtain ⟨style, id, n, rfl⟩ := wire.fields
  rw [validateVibrationHandle, Quantity.plain_int] at valid
  split at valid
  case h_1 => cases valid
  case h_2 limit found =>
    split at valid
    case isTrue => cases valid
    case isFalse named =>
      split at valid
      case isTrue => cases valid
      case isFalse below =>
        have counted : ((style : Quantity), limit) ∈ motorCounts := by
          obtain ⟨before, after, rows, -⟩ := List.lookup_eq_some_iff.mp found
          rw [rows]
          exact List.mem_append_right before List.mem_cons_self
        have defined : (id : Quantity) ∈ Controllers.definedIds := by
          apply List.contains_iff_mem.mp
          rw [Bool.or_eq_true, not_or, Bool.not_eq_true, Bool.not_eq_eq_eq_not, isNpadIdValid,
            Quantity.plain_int] at named
          exact named.1
        have limited : limit = .int limit.truncate := by
          have whole : ∀ row ∈ motorCounts, row.2 = .int row.2.truncate := by decide
          exact whole _ counted
        have small : n < limit.truncate.toNat := by
          rw [limited, Quantity.int_le_int] at below
          omega
        refine List.mem_flatMap.mpr ⟨_, counted, List.mem_flatMap.mpr ⟨_, defined, ?_⟩⟩
        exact List.mem_map.mpr ⟨n, List.mem_range.mpr small, rfl⟩

/-- None of these handles has a field that is no number. -/
theorem same_self (among : h ∈ motorHandles) : h.same h = true := by
  obtain ⟨row, counted, among⟩ := List.mem_flatMap.mp among
  obtain ⟨id, defined, among⟩ := List.mem_flatMap.mp among
  obtain ⟨index, -, rfl⟩ := List.mem_map.mp among
  have styles : ∀ row ∈ motorCounts, row.1.same row.1 = true := by decide
  have ids : ∀ id ∈ Controllers.definedIds, id.same id = true := by decide
  rw [DeviceHandle.same, styles row counted, ids id defined, Quantity.int_same_int]
  simp

end DeviceHandle

/-! ### Registries -/

namespace Activation

/-- The registry holds handles of motors, and none of them twice. -/
structure Registry.OfMotors (r : Registry) : Prop where
  motors : r.entries ⊆ motorHandles
  once : r.entries.Nodup

namespace Registry

variable {r : Registry} {h : DeviceHandle}

theorem OfMotors.of_empty (empty : r.entries = []) : r.OfMotors := by
  constructor
  · rw [empty]
    exact List.nil_subset _
  · rw [empty]
    exact List.nodup_nil

/-- A handle that is missing may be appended if it is one of a motor. -/
theorem OfMotors.append (motors : r.OfMotors) (motor : h ∈ motorHandles)
    (absent : r.has h = false) : OfMotors { r with entries := r.entries ++ [h] } := by
  constructor
  · intro other among
    rcases List.mem_append.mp among with before | new
    · exact motors.motors before
    · rwa [List.mem_singleton.mp new]
  · have missing : h ∉ r.entries := by
      intro present
      have same := List.any_eq_false.mp absent h present
      exact same (DeviceHandle.same_self motor)
    exact List.nodup_append_comm.mp (List.nodup_cons.mpr ⟨missing, motors.once⟩)

/-- A registry is made with the capacity that it was asked for. -/
theorem le_capacity_of_ofCapacity {capacity : Quantity} {n : Nat}
    (made : ofCapacity capacity = .ok r) (enough : (n : Quantity) ≤ capacity) : n ≤ r.capacity := by
  cases capacity with
  | other x => cases made
  | int m =>
      rw [ofCapacity] at made
      split at made
      case isFalse => cases made
      case isTrue positive =>
        obtain rfl := Except.ok.inj made
        have enough : (n : Int) ≤ m := (Quantity.int_le_int _ _).mp enough
        dsimp only
        omega

/-- There are no more handles of motors to hold. -/
theorem OfMotors.size_le (motors : r.OfMotors) : r.size ≤ 230 := by
  rw [size, ← length_motorHandles]
  exact motors.once.length_le_of_subset motors.motors

/-- Where one is missing, one more can be held. -/
theorem OfMotors.size_lt (motors : r.OfMotors) (motor : h ∈ motorHandles)
    (absent : r.has h = false) : r.size < 230 := by
  have more := (motors.append motor absent).size_le
  rw [size, List.length_append] at more
  exact more

/-- A registry with room for all motors asks the device of every valid handle that is missing. -/
theorem OfMotors.consider_eq_askDevice (motors : r.OfMotors) (room : 230 ≤ r.capacity)
    (wire : h.FromWire) {c : Controllers}
    (valid : (validateVibrationHandle h c).isSuccess = true) (absent : r.has h = false) :
    r.consider (validateVibrationHandle h c) h = .askDevice := by
  apply Registry.consider_eq_askDevice.mpr
  refine ⟨valid, absent, ?_⟩
  exact Nat.lt_of_lt_of_le (motors.size_lt (wire.mem_motorHandles valid) absent) room

/-- An activation whose handle comes from the wire leaves a registry of motors. -/
theorem OfMotors.activate (motors : r.OfMotors) (wire : h.FromWire) (c : Controllers)
    (answer : Except Failure ResultCode) :
    (r.activate (validateVibrationHandle h c) h answer).1.OfMotors := by
  rw [Registry.activate]
  cases decision : r.consider (validateVibrationHandle h c) h with
  | settled code => exact motors
  | askDevice =>
      obtain ⟨valid, absent, -⟩ := Registry.consider_eq_askDevice.mp decision
      dsimp only
      cases success : succeeds answer with
      | true =>
          rw [afterDevice_of_succeeds success]
          exact motors.append (wire.mem_motorHandles valid) absent
      | false =>
          rw [afterDevice_of_fails success]
          exact motors

end Registry

/-! ### Lines of activations -/

/-- What happens is what can come of requests: handles that arrive come from the wire, and they
are validated with the controllers of the time. -/
structure Moment.Requested (m : Moment) : Prop where
  arrives : ∀ job ∈ m.arrival, job.handle.FromWire
  validates : ∃ c : Controllers, ∀ h, m.rule h = validateVibrationHandle h c

namespace Line

/-- A line whose registry is one of motors, as is the handle whose device is being asked. -/
structure OfMotors (l : Line) : Prop where
  registry : l.registry.OfMotors
  waiting : ∀ job ∈ l.queue.waiting, job.handle.FromWire
  asking : ∀ h ∈ l.outstanding, h ∈ motorHandles ∧ l.registry.has h = false

section Steps

variable {l l' : Line} {m : Moment} {events : List Event}

/-- The activation that is next comes from the wire, as do those behind it. -/
theorem fromWire_of_next (requested : m.Requested) (motors : l.OfMotors) {jobs : List Job}
    (next : l.queue.waiting ++ m.arrival = jobs) : ∀ job ∈ jobs, job.handle.FromWire := by
  intro job among
  rw [← next] at among
  rcases List.mem_append.mp among with waits | arrives
  · exact motors.waiting job waits
  · exact requested.arrives job arrives

theorem Stepped.ofMotors (h : Stepped l m l' events) (requested : m.Requested)
    (motors : l.OfMotors) :
    l'.OfMotors ∧ l'.registry.capacity = l.registry.capacity := by
  cases h with
  | still => exact ⟨motors, rfl⟩
  | @lined job busy arrives =>
      refine ⟨⟨motors.registry, ?_, motors.asking⟩, rfl⟩
      intro job' among
      rcases List.mem_append.mp among with waits | new
      · exact motors.waiting job' waits
      · apply requested.arrives
        rw [Moment.arrival, arrives]
        exact new
  | @answered job answer hand =>
      refine ⟨⟨motors.registry, motors.waiting, ?_⟩, rfl⟩
      intro h among
      apply motors.asking
      simpa [outstanding, hand] using among
  | @noted job answer hand =>
      have asked : job.handle ∈ l.outstanding := by simp [outstanding, hand]
      obtain ⟨motor, absent⟩ := motors.asking _ asked
      cases success : succeeds answer with
      | true =>
          rw [Registry.afterDevice_of_succeeds success]
          refine ⟨⟨motors.registry.append motor absent, motors.waiting, ?_⟩, rfl⟩
          intro h among
          cases among
      | false =>
          rw [Registry.afterDevice_of_fails success]
          refine ⟨⟨motors.registry, motors.waiting, ?_⟩, rfl⟩
          intro h among
          cases among
  | settled =>
      refine ⟨⟨motors.registry, motors.waiting, ?_⟩, rfl⟩
      intro h among
      cases among
  | cleared =>
      refine ⟨⟨motors.registry, ?_, ?_⟩, rfl⟩
      · intro job among
        cases among
      · intro h among
        cases among
  | spared free next =>
      refine ⟨⟨motors.registry, ?_, ?_⟩, rfl⟩
      · intro job' among
        exact fromWire_of_next requested motors next job' (List.mem_cons_of_mem _ among)
      · intro h among
        cases among
  | @asked job rest free next decision =>
      obtain ⟨c, validates⟩ := requested.validates
      rw [validates] at decision
      obtain ⟨valid, absent, -⟩ := Registry.consider_eq_askDevice.mp decision
      refine ⟨⟨motors.registry, ?_, ?_⟩, rfl⟩
      · intro job' among
        exact fromWire_of_next requested motors next job' (List.mem_cons_of_mem _ among)
      · intro h among
        obtain rfl := List.mem_singleton.mp among
        have wire : job.handle.FromWire :=
          fromWire_of_next requested motors next job List.mem_cons_self
        exact ⟨wire.mem_motorHandles valid, absent⟩

/-- The device of a valid handle that is missing is asked in the step that validates the handle. -/
theorem Stepped.asked_of_room (h : Stepped l m l' events) (requested : m.Requested)
    (motors : l.OfMotors) (room : 230 ≤ l.registry.capacity) {handle : DeviceHandle}
    {code : ResultCode} (validated : .validated handle code ∈ events)
    (valid : code.isSuccess = true) (absent : l.registry.has handle = false) :
    .asked handle ∈ events := by
  cases h with
  | @spared job rest settled free next decision =>
      obtain ⟨rfl, rfl⟩ := Event.validated.inj (List.mem_singleton.mp validated)
      have wire : job.handle.FromWire :=
        fromWire_of_next requested motors next job List.mem_cons_self
      obtain ⟨c, validates⟩ := requested.validates
      rw [validates] at decision valid
      rw [motors.registry.consider_eq_askDevice room wire valid absent] at decision
      cases decision
  | @asked job rest free next decision =>
      rcases List.mem_cons.mp validated with same | other
      · obtain ⟨rfl, -⟩ := Event.validated.inj same
        exact List.mem_cons_of_mem _ (List.mem_singleton.mpr rfl)
      · cases List.mem_singleton.mp other
  | _ => simp at validated

end Steps

theorem OfMotors.of_registry {r : Registry} (motors : r.OfMotors) : (ofRegistry r).OfMotors := by
  refine ⟨motors, ?_, ?_⟩
  · intro job among
    cases among
  · intro h among
    cases among

/-- However requests overlap, and whatever controllers are accepted in between. -/
theorem OfMotors.run {l : Line} (motors : l.OfMotors) {moments : List Moment}
    (requested : ∀ m ∈ moments, m.Requested) :
    (l.run moments).1.OfMotors ∧ (l.run moments).1.registry.capacity = l.registry.capacity := by
  induction moments generalizing l with
  | nil => exact ⟨motors, rfl⟩
  | cons m rest ih =>
      obtain ⟨now, later⟩ := List.forall_mem_cons.mp requested
      obtain ⟨stepped, fixed⟩ := (l.stepped m).ofMotors now motors
      obtain ⟨last, capacity⟩ := ih stepped later
      exact ⟨last, capacity.trans fixed⟩

end Line
end Activation
end Hid
