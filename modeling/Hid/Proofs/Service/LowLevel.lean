import Hid.Proofs.Commands.Managed
import Hid.Proofs.Service.Serving

/-!
Input devices that are made ready at the low level, though the firmware manages the devices. The
commands made for it leave that to the firmware, but a client that sets up the seven six-axis
sensor and lends the memory for it has two devices made ready all the same (`Post.SetsUpSeven`),
and in no other way is this ever done.

* `lowLevel_exact`: when it happens, over whole runs.
* `lowLevel_despite_firmware`: that it does happen.
-/

namespace Hid.Service

open Commands (Lends setUpSevenSixAxis)
open Device (Call TransferMemory)
open Dispatch (Command Context Definition Request Table)
open Wire (Layout)

/-! ### Posts that set up the sensor -/

/-- What the handler that sets up the seven six-axis sensor gets to see of the request. -/
def Post.sevenContext (p : Post) (q : SevenSixAxisBuffers) : Context SevenSixAxisBuffers :=
  ⟨p.request.opcode.plain, "InitializeSevenSixAxisSensor", q, p.session, p.request⟩

/-- The request is one to set up the seven six-axis sensor, and the client lends the memory that
this requires. -/
structure Post.SetsUpSeven (p : Post) : Prop where
  target : p.target = 0
  opcode : p.request.opcode = 306
  handles : p.request.handles.length = 2
  lends : ∃ q, Layout.sevenSixAxisBuffers.decode p.request.parameters = .ok q ∧
    ∃ first second work lifo, Lends p.device [] (p.sevenContext q) first second work lifo

section Posts

variable {s : Service} {p : Post} {a : Answered}

/-- All calls that are made for a post are made known. -/
theorem past_of_attend (answered : s.attend p = some a) : a.service.past = s.past ++ a.calls := by
  obtain ⟨t, -, ⟨outcome, rfl⟩ | ⟨d, parameters, ran, -, -, -, -, rfl⟩⟩ := attend_cases answered
  · exact (List.append_nil _).symm
  · rfl

theorem lookup_306 (config : Config) :
    (mainTable config).lookup? (306 : Quantity) = some
      (contextual "InitializeSevenSixAxisSensor" .sevenSixAxisBuffers 2 setUpSevenSixAxis) := rfl

/-- Of the commands that a managed service has, only the one that sets up the sensor makes a device
ready at the low level. -/
theorem confined_of_lookup {t : Table Program} {target : Nat} {opcode : Quantity}
    {c : Command Program} (managed : s.config.deviceManaged = true)
    (found : s.table? target = some t) (entry : t.lookup? opcode = some c)
    (other : ¬ (target = 0 ∧ opcode = 306)) : Confined (¬ ·.IsLowLevel) c := by
  obtain ⟨n, plain, among⟩ := Table.exists_mem_rows entry
  cases target with
  | zero =>
      obtain rfl := Option.some.inj found
      apply mainTable_confined managed (n, c) among
      rintro rfl
      exact other ⟨rfl, Quantity.eq_of_plain plain (by decide)⟩
  | succ position =>
      obtain ⟨object, -, rfl⟩ := Option.map_eq_some_iff.mp found
      exact object.confined position (n, c) among

/-- A device that is made ready for a post is one of two, and the post sets up the sensor. -/
theorem setsUpSeven_of_lowLevel (managed : s.config.deviceManaged = true)
    (answered : s.attend p = some a) {input : Device.Input} (made : .activate input ∈ a.calls) :
    p.SetsUpSeven ∧ (input = .consoleSixAxis ∨ input = .sevenSixAxis) := by
  obtain ⟨t, found, ⟨outcome, rfl⟩ | ⟨d, q, ran, entry, handles, decoded, computed, rfl⟩⟩ :=
    attend_cases answered
  · cases made
  · by_cases special : p.target = 0 ∧ p.request.opcode = 306
    case neg =>
      have confined : Confined (¬ ·.IsLowLevel) (.implemented d) :=
        confined_of_lookup managed found entry special
      rw [← computed] at made
      exact absurd ⟨input, rfl⟩ (confined _ _ _ _ _ made)
    case pos =>
      obtain ⟨target, opcode⟩ := special
      rw [target] at found
      obtain rfl := Option.some.inj found
      rw [opcode, lookup_306] at entry
      obtain rfl := Command.implemented.inj (Option.some.inj entry)
      have two : p.request.handles.length = 2 := Request.hasHandles_iff.mp handles
      have setUp := computed.symm.trans
        (Handler.ran_bind_pure (x := setUpSevenSixAxis (p.sevenContext q)) _)
      rw [setUp] at made
      obtain ⟨lends, which⟩ := Commands.lends_of_lowLevel made
      exact ⟨⟨target, opcode, two, q, decoded, lends⟩, which⟩

/-- Whoever manages the devices, a post that sets up the sensor has the console sensor made
ready. -/
theorem calls_of_setsUpSeven (sets : p.SetsUpSeven) (answered : s.attend p = some a) :
    .activate .consoleSixAxis ∈ a.calls := by
  obtain ⟨q, decoded, first, second, work, lifo, lends⟩ := sets.lends
  have found : s.table? p.target = some (mainTable s.config) := by rw [sets.target]; rfl
  have entry : (mainTable s.config).lookup? p.request.opcode = some
      (contextual "InitializeSevenSixAxisSensor" .sevenSixAxisBuffers 2 setUpSevenSixAxis) := by
    rw [sets.opcode, lookup_306]
  have two : p.request.hasHandles 2 = true := Request.hasHandles_iff.mpr sets.handles
  rw [attend_of_decoded found entry two decoded] at answered
  obtain rfl := Option.some.inj answered
  rw [carryOut]
  dsimp only
  rw [Handler.ran_bind_pure]
  exact Commands.calls_of_lends lends

/-- The target of a post that sets up the sensor exists in every service. -/
theorem attended_of_setsUpSeven (sets : p.SetsUpSeven) : ∃ a, s.attend p = some a := by
  apply Option.ne_none_iff_exists'.mp
  intro lost
  rw [attend_eq_none_iff, sets.target] at lost
  cases lost

/-- What one post adds to the low-level calls of a managed service. -/
theorem lowLevel_after (managed : s.config.deviceManaged = true) :
    (∃ c ∈ (s.after p).past, c.IsLowLevel) ↔
      (∃ c ∈ s.past, c.IsLowLevel) ∨ p.SetsUpSeven := by
  constructor
  · rintro ⟨c, called, low⟩
    cases answered : s.attend p with
    | none =>
        rw [after_of_none (attend_eq_none_iff.mp answered)] at called
        exact .inl ⟨c, called, low⟩
    | some a =>
        rw [after_of_attend answered, past_of_attend answered] at called
        rcases List.mem_append.mp called with before | made
        · exact .inl ⟨c, before, low⟩
        · obtain ⟨input, rfl⟩ := low
          exact .inr (setsUpSeven_of_lowLevel managed answered made).1
  · intro either
    rcases either with ⟨c, before, low⟩ | sets
    · refine ⟨c, ?_, low⟩
      cases answered : s.attend p with
      | none => rwa [after_of_none (attend_eq_none_iff.mp answered)]
      | some a =>
          rw [after_of_attend answered, past_of_attend answered]
          exact List.mem_append_left _ before
    · obtain ⟨a, answered⟩ := attended_of_setsUpSeven (s := s) sets
      refine ⟨.activate .consoleSixAxis, ?_, .consoleSixAxis, rfl⟩
      rw [after_of_attend answered, past_of_attend answered]
      exact List.mem_append_right _ (calls_of_setsUpSeven sets answered)

end Posts

/-! ### Whole runs -/

theorem lowLevel_serve {s : Service} (managed : s.config.deviceManaged = true)
    (posts : List Post) :
    (∃ c ∈ (s.serve posts).past, c.IsLowLevel) ↔
      (∃ c ∈ s.past, c.IsLowLevel) ∨ ∃ p ∈ posts, p.SetsUpSeven := by
  induction posts generalizing s with
  | nil =>
      constructor
      · exact .inl
      · rintro (before | ⟨p, none, -⟩)
        · exact before
        · cases none
  | cons p rest ih =>
      have later : (s.after p).config.deviceManaged = true := by rw [config_after, managed]
      rw [serve_cons, ih later, lowLevel_after managed, or_assoc]
      simp only [List.mem_cons, exists_eq_or_imp]

/-- **Low-level activations under a managing firmware.** Let the firmware manage the devices of a
new service. After any posts, however the device layer answers,

* an input device has been made ready at the low level if and only if one of the posts set up the
  seven six-axis sensor and lent the memory that this requires (`Post.SetsUpSeven`);
* the next post makes one ready if and only if it does the same;
* and then it is the console sensor or the seven six-axis sensor. No other device is ever made
  ready at the low level. -/
theorem lowLevel_exact {config : Config} {deviceManaged : Option Bool}
    (managed : deviceManaged.getD config.deviceManaged = true) (posts : List Post) :
    let s := (start config deviceManaged).serve posts
    ((∃ c ∈ s.past, c.IsLowLevel) ↔ ∃ p ∈ posts, p.SetsUpSeven) ∧
    ∀ p a, s.attend p = some a →
      ((∃ c ∈ a.calls, c.IsLowLevel) ↔ p.SetsUpSeven) ∧
      ∀ input, .activate input ∈ a.calls → input = .consoleSixAxis ∨ input = .sevenSixAxis := by
  intro s
  have atStart : (start config deviceManaged).config.deviceManaged = true := managed
  have now : s.config.deviceManaged = true := by rw [config_serve, atStart]
  constructor
  · rw [lowLevel_serve atStart posts]
    constructor
    · rintro (⟨c, none, -⟩ | sets)
      · cases none
      · exact sets
    · exact .inr
  · intro p a answered
    refine ⟨⟨?_, ?_⟩, ?_⟩
    · rintro ⟨_, made, input, rfl⟩
      exact (setsUpSeven_of_lowLevel now answered made).1
    · intro sets
      exact ⟨_, calls_of_setsUpSeven sets answered, .consoleSixAxis, rfl⟩
    · intro input made
      exact (setsUpSeven_of_lowLevel now answered made).2

/-- A device layer that finds memory of both sizes, and on whose word everything else succeeds that
setting up the sensor takes. -/
def lending : Device := fun _ c => match c with
  | .getTransferMemory 10 => .ok (some ⟨10, 0x80000000, 0x1000⟩)
  | .getTransferMemory 11 => .ok (some ⟨11, 0x80001000, 0x7f000⟩)
  | .activate _ => .ok .success
  | .setTransferMemory _ => .ok ()
  | _ => .error (.raised "off")

/-- A request of a client to set up the sensor with such memory. -/
def settingUp : Post :=
  ⟨0, { opcode := 306
        parameters := Wire.LittleEndian.bytesOfInt 8 7 ++ Wire.LittleEndian.bytesOfInt 8 0x1000 ++
          Wire.LittleEndian.bytesOfInt 8 0x7f000
        handles := [⟨.copy, 10⟩, ⟨.copy, 11⟩] },
    ⟨"session", 0⟩, lending⟩

/-- The one post that does it, in a run by itself. -/
theorem lowLevel_exact_lending :
    (some true).getD Config.initial.deviceManaged = true ∧
      ∃ c ∈ ((start .initial (some true)).serve [settingUp]).past, c.IsLowLevel := by
  have managed : (some true).getD Config.initial.deviceManaged = true := rfl
  obtain ⟨whenever, -⟩ := lowLevel_exact managed [settingUp]
  refine ⟨managed, whenever.mpr ⟨settingUp, List.mem_singleton.mpr rfl, ?_⟩⟩
  exact ⟨rfl, rfl, rfl, ⟨7, 0x1000, 0x7f000⟩, rfl, 10, 11, ⟨10, 0x80000000, 0x1000⟩,
    ⟨11, 0x80001000, 0x7f000⟩, rfl, rfl, rfl, rfl, rfl, rfl, rfl, rfl⟩

/-- The firmware manages the devices, and two of them are made ready at the low level. -/
theorem lowLevel_despite_firmware :
    (start .initial (some true)).config.deviceManaged = true ∧
      ∃ a, (start .initial (some true)).attend settingUp = some a ∧
        a.outcome = .reply { result := .success } ∧
        a.calls = [.getTransferMemory 10, .getTransferMemory 11, .activate .consoleSixAxis,
          .activate .sevenSixAxis, .setTransferMemory ⟨10, 0x80000000, 0x1000⟩] :=
  ⟨rfl, _, rfl, rfl, rfl⟩

end Hid.Service
