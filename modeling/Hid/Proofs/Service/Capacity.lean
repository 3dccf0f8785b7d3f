import Hid.Proofs.Activation.Room
import Hid.Proofs.Service.Change
import Hid.Proofs.Service.Violation

/-!
Lists of active devices never run out of room that has been configured for all motors there can be.
Whatever is done to a service, each of its lists holds handles of motors and none of them twice, as
a list is changed by activations alone, and these take their handles from the wire
(`Reachable.lists_ofMotors`). There are 230 such handles, so that the list can refuse none of them
for want of room.

* `capacity_suffices`: the size of a list and what a valid activation comes to, whether requests
  come one after the other or overlap.
-/

namespace Hid.Service

open Activation (Event Line Moment Registry)
open Commands (askMotor)
open Device (Call)
open Wire (Layout)

/-! ### What lists hold -/

/-- Each list holds handles of motors, none of them twice, and has the capacity that is
configured. -/
def ListsOfMotors (s : Service) : Prop :=
  ∀ (position : Nat) (r : Registry), s.state.interfaces[position]? = some (.deviceList r) →
    r.OfMotors ∧ Registry.ofCapacity s.config.activationCapacity = .ok ⟨r.capacity, []⟩

/-- An object of the state with one more is an earlier one or the new one. -/
theorem State.eq_of_interfaces_add {s : State} {object other : Interface} {k : Nat}
    (found : (s.add object).interfaces[k]? = some other) :
    s.interfaces[k]? = some other ∨ other = object := by
  by_cases earlier : k < s.interfaces.length
  case pos =>
    rw [State.interfaces_add_of_lt earlier] at found
    exact .inl found
  case neg =>
    right
    rw [State.add, List.getElem?_append_right (Nat.le_of_not_lt earlier)] at found
    exact List.mem_singleton.mp (List.mem_of_getElem? found)

section Posts

variable {s : Service} {p : Post} {a : Answered}

/-- A post to a list leaves everything as it is, or is the activation of a handle that its four
bytes name. -/
theorem attend_list_cases (answered : s.attend p = some a) {position : Nat} {r : Registry}
    (target : p.target = position + 1)
    (object : s.state.interfaces[position]? = some (.deviceList r)) :
    a.service.state = s.state ∨ ∃ h : DeviceHandle, h.FromWire ∧
      a = s.activationIn p position r h := by
  obtain ⟨t, found, ⟨outcome, rfl⟩ | ⟨d, h, ran, entry, handles, decoded, -, -⟩⟩ :=
    attend_cases answered
  · exact .inl rfl
  · right
    rw [target, table?, object] at found
    obtain rfl := Option.some.inj found
    obtain ⟨opcode, same⟩ := lookup_deviceList entry
    obtain rfl := Dispatch.Command.implemented.inj same
    have none : p.request.handles = [] :=
      List.length_eq_zero_iff.mp (Dispatch.Request.hasHandles_iff.mp handles)
    refine ⟨h, ⟨_, decoded⟩, ?_⟩
    rw [attend_activation target object opcode none decoded] at answered
    exact (Option.some.inj answered).symm

theorem ListsOfMotors.attend (motors : s.ListsOfMotors) (answered : s.attend p = some a) :
    a.service.ListsOfMotors := by
  have config : a.service.config = s.config := by
    rw [← after_of_attend answered, config_after]
  intro position r found
  rw [config]
  cases changed answered with
  | nothing same =>
      rw [same] at found
      exact motors position r found
  | ids _ state =>
      rw [state] at found
      exact motors position r found
  | resource _ _ _ state =>
      rw [state] at found
      rcases State.eq_of_interfaces_add found with before | new
      · exact motors position r before
      · cases new
  | list _ _ made state =>
      rw [state] at found
      rcases State.eq_of_interfaces_add found with before | new
      · exact motors position r before
      · obtain rfl := Interface.deviceList.inj new
        have empty := Registry.entries_of_ofCapacity made
        refine ⟨.of_empty empty, ?_⟩
        rw [made, ← empty]
  | @activation list old _ _ _ target object =>
      rcases attend_list_cases answered target object with same | ⟨h, wire, rfl⟩
      · rw [same] at found
        exact motors position r found
      · by_cases here : position = list
        case neg =>
          apply motors
          rwa [← State.interfaces_setRegistry_of_ne here]
        case pos =>
          subst here
          obtain ⟨before, made⟩ := motors position old object
          have now := found.symm.trans (State.interfaces_setRegistry object)
          obtain rfl := Interface.deviceList.inj (Option.some.inj now)
          refine ⟨before.activate wire _ _, ?_⟩
          rw [(Registry.grows_activate ..).1, made]

end Posts

/-- Whatever is done to a service. -/
theorem Reachable.lists_ofMotors {s : Service} (reachable : Reachable s) : s.ListsOfMotors := by
  induction reachable with
  | start config deviceManaged =>
      intro position r found
      cases found
  | handle _ answered ih =>
      rw [handle_eq_attend] at answered
      exact ih.attend answered
  | setControllers _ _ ih => exact ih
  | resetStats _ _ ih => exact ih
  | openSession _ ih => exact ih
  | closeSession _ _ ih => exact ih

/-! ### Room for all -/

/-- Before anything else a device is looked for. -/
theorem find_prefix (device : Device) (past : List Call) (h : DeviceHandle) :
    [.vibration (.find .any h)] <+: (askMotor device past h).2 := by
  rw [askMotor]
  split
  case h_1 => exact List.prefix_refl _
  case h_2 => exact List.prefix_refl _
  case h_3 => exact List.prefix_append [_] [_]

/-- **There is room for every device.** Let the configured capacity of a service be 230 or more,
and let anything have been done to the service: requests to whatever targets, however the device
layer answers, and changes of the accepted controllers. Then of every list of the service,

* no more than 230 handles are in it;
* an activation of a valid handle that is missing comes to what the device says, which is looked
  for first;
* both are true as well while activations overlap: however requests line up at the list, whatever
  controllers are accepted when their turns come and however devices answer, no more than 230
  handles are ever in it, and the device of every handle that is found valid and missing is
  asked. -/
theorem capacity_suffices {s : Service} (reachable : Reachable s)
    (ample : 230 ≤ s.config.activationCapacity) {position : Nat} {r : Registry}
    (list : s.state.interfaces[position]? = some (.deviceList r)) :
    r.size ≤ 230 ∧
    (∀ p h, p.target = position + 1 → p.request.opcode.plain = 0 → p.request.handles = [] →
      Layout.deviceHandle.decode p.request.parameters = .ok h →
      (validateVibrationHandle h s.state.controllers).isSuccess = true → r.has h = false →
      ∃ a, s.attend p = some a ∧ [.vibration (.find .any h)] <+: a.calls ∧
        a.outcome = activated (Registry.outcome (askMotor p.device [] h).1)) ∧
    ∀ moments : List Moment, (∀ m ∈ moments, m.Requested) →
      let l := ((Line.ofRegistry r).run moments).1
      l.registry.size ≤ 230 ∧
      ∀ m h code, m.Requested → Event.validated h code ∈ (l.step m).2 →
        code.isSuccess = true → l.registry.has h = false → .asked h ∈ (l.step m).2 := by
  obtain ⟨motors, made⟩ := reachable.lists_ofMotors position r list
  have room : 230 ≤ r.capacity :=
    Registry.le_capacity_of_ofCapacity (r := ⟨r.capacity, []⟩) made ample
  refine ⟨motors.size_le, ?_, ?_⟩
  · intro p h target opcode handles decoded valid absent
    have asks := motors.consider_eq_askDevice room ⟨_, decoded⟩ valid absent
    refine ⟨_, attend_activation target list opcode handles decoded, ?_, ?_⟩
    · rw [activationIn]
      dsimp only
      rw [if_pos asks]
      exact find_prefix _ _ _
    · rw [activationIn]
      dsimp only
      rw [Registry.activate, asks]
  · intro moments requested l
    obtain ⟨lined, fixed⟩ := (Line.OfMotors.of_registry motors).run requested
    refine ⟨lined.registry.size_le, ?_⟩
    intro m h code now validated valid absent
    have still : 230 ≤ l.registry.capacity := room.trans_eq fixed.symm
    exact (l.stepped m).asked_of_room now lined still validated valid absent

/-- A device layer that has a motor behind every handle and fails in all else. -/
def motorized : Device := fun _ c => match c with
  | .vibration (.find ..) => .ok true
  | .motor .activate => .ok .success
  | _ => .error (.raised "off")

/-- The activation of a motor of a pair of controllers. -/
def activationOf (index : UInt8) : Dispatch.Request :=
  { opcode := 0, parameters := [4, 0, index, 0] }

/-- Two activations overlap at a list, the second of which waits until the first is settled. -/
def overlapping : List Moment :=
  [.activate ⟨"left", ⟨4, 0, 0⟩⟩, .activate ⟨"handheld", ⟨3, 0, 0⟩⟩, .answer (.ok .success),
    .advance, .advance].map (Moment.mk fun h => validateVibrationHandle h .initial)

/-- On a list that holds the handle of one motor, another activation comes to what its device says;
and of two that overlap, the one that waits has its device asked when its turn comes, with two
handles in the list by then. -/
theorem capacity_suffices_overlapping :
    ∃ made, (start .initial).handle motorized 0 { opcode := 203 } ⟨"session", 0⟩ = some made ∧
      ∃ held, made.service.handle motorized 1 (activationOf 1) ⟨"session", 0⟩ = some held ∧
        (230 : Quantity) ≤ held.service.config.activationCapacity ∧
        let r : Registry := ⟨256, [⟨4, 0, 1⟩]⟩
        held.service.state.interfaces[0]? = some (.deviceList r) ∧
        (∃ a, held.service.attend ⟨1, activationOf 0, ⟨"session", 0⟩, motorized⟩ = some a ∧
          [.vibration (.find .any ⟨4, 0, 0⟩)] <+: a.calls ∧
          a.outcome = .reply { result := .success }) ∧
        let l := ((Line.ofRegistry r).run overlapping).1
        l.registry.entries = [⟨4, 0, 1⟩, ⟨4, 0, 0⟩] ∧ l.registry.size ≤ 230 ∧
        .asked ⟨3, 0, 0⟩ ∈ (l.step ⟨fun h => validateVibrationHandle h .initial, .advance⟩).2 := by
  have first : (start .initial).handle motorized 0 { opcode := 203 } ⟨"session", 0⟩ = some _ := rfl
  have reachable := @Reachable.handle _ (.handle (.start .initial none) first) motorized 1
    (activationOf 1) ⟨"session", 0⟩ _ rfl
  obtain ⟨-, activates, overlaps⟩ := @capacity_suffices _ reachable (by decide) 0 _ rfl
  refine ⟨_, first, _, rfl, by decide, rfl, activates _ _ rfl rfl rfl rfl rfl rfl, ?_⟩
  have sent : ∀ m ∈ overlapping, ∀ job ∈ m.arrival, job.handle ∈ [⟨4, 0, 0⟩, ⟨3, 0, 0⟩] := by
    decide
  have requested : ∀ m ∈ overlapping, m.Requested := by
    intro m among
    constructor
    case arrives =>
      intro job arrives
      rcases List.mem_pair.mp (sent m among job arrives) with left | handheld
      · exact ⟨[4, 0, 0, 0], by rw [left]; rfl⟩
      · exact ⟨[3, 0, 0, 0], by rw [handheld]; rfl⟩
    case validates =>
      obtain ⟨move, -, rfl⟩ := List.mem_map.mp among
      exact ⟨.initial, fun _ => rfl⟩
  obtain ⟨bound, asks⟩ := overlaps overlapping requested
  let next : Moment := ⟨fun h => validateVibrationHandle h .initial, .advance⟩
  have turn : next.Requested := ⟨fun _ none => absurd none List.not_mem_nil, .initial, fun _ => rfl⟩
  exact ⟨rfl, bound, asks next _ .success turn List.mem_cons_self rfl rfl⟩

end Hid.Service
