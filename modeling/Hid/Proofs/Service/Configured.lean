import Hid.Proofs.Commands.Effects
import Hid.Proofs.Config.Reading
import Hid.Proofs.Service.Serving

/-!
Configurations that are read from an environment. Whatever the variables hold, a service can be
run with what is read of them, and each setting depends on a variable of its own.

* `ofEnvironment_exact`: what any environment is read as, what becomes of it if another one is read,
  and that lists can be made with it.
-/

namespace Hid

open Activation (Registry)
open Service (Post)

/-! ### Lists of active devices -/

namespace Service

/-- The request is one to create a list of active devices. -/
structure Post.CreatesList (p : Post) : Prop where
  target : p.target = 0
  opcode : p.request.opcode = 203
  parameters : p.request.parameters = []
  handles : p.request.handles = []

/-- A list is made if the configured capacity can be used. -/
theorem attend_of_createsList {s : Service} {p : Post} {fresh : Registry} (creates : p.CreatesList)
    (made : Registry.ofCapacity s.config.activationCapacity = .ok fresh) :
    ∃ a, s.attend p = some a ∧ a.calls = [] ∧ a.outcome = .reply
        { result := .success, handles := [.interface (s.state.interfaces.length + 1)] } ∧
      a.service.state = s.state.add (.deviceList fresh) := by
  have entry : (mainTable s.config).lookup? p.request.opcode =
      some (created "CreateActiveVibrationDeviceList" .empty fun _ => do
        return (.success,
          .deviceList (← Handler.attempt (Registry.ofCapacity s.config.activationCapacity)))) := by
    rw [creates.opcode]
    rfl
  have decoded : Wire.Layout.empty.decode p.request.parameters = .ok () := by
    rw [creates.parameters]
    rfl
  have attended := attend_of_handleless creates.target creates.handles entry rfl decoded
  rw [carryOut] at attended
  dsimp only at attended
  rw [Commands.created_ran, Handler.ran_bind_pure, Handler.ran_attempt, made] at attended
  exact ⟨_, attended, rfl, rfl, rfl⟩

end Service

/-! ### What is read -/

namespace Config

/-- The configuration can be used. -/
structure Usable (c : Config) : Prop where
  capacity : ∃ n : Nat, 0 < n ∧ c.activationCapacity = n ∧
    Registry.ofCapacity c.activationCapacity = .ok ⟨n, []⟩
  parameter1 : c.fusionDefaults.parameter1.isFinite = true
  parameter2 : c.fusionDefaults.parameter2.isFinite = true
  levels : ∀ level, c.logLevel = some level ∨ c.logFileLevel = some level →
    level.text ∈ ["error", "warn", "info", "verbose", "debug", "silly"]

/-- The warnings about each of the variables that are read as numbers. -/
structure Warnings where
  capacity : List String
  parameter1 : List String
  parameter2 : List String

/-- The configuration is what the environment is read as. -/
structure IsReadFrom (c : Config) (env : String → Option String) (w : Warnings) : Prop where
  capacity : capacity.Reads (env "HID_ACTIVATION_CAPACITY") c.activationCapacity w.capacity
  parameter1 : parameter1.Reads (env "HID_FUSION_PARAMETER_1") c.fusionDefaults.parameter1
    w.parameter1
  parameter2 : parameter2.Reads (env "HID_FUSION_PARAMETER_2") c.fusionDefaults.parameter2
    w.parameter2
  warnings : c.warnings = w.capacity ++ w.parameter1 ++ w.parameter2
  deviceManaged : ReadsFlag (env "HID_DEVICE_MANAGED") initial.deviceManaged c.deviceManaged
  logLevel : LogLevel.Reads (env "HID_LOG_LEVEL") initial.logLevel c.logLevel
  logFileLevel : LogLevel.Reads (env "HID_LOG_FILE_LEVEL") initial.logFileLevel c.logFileLevel

/-- A value, and the warnings about its variable, when another text is in the variable. Blanks around
the text matter only where warnings quote them. -/
structure Follows {α : Type} (raw raw' : Option String) (value value' : α) (w w' : List String) :
    Prop where
  value : Padded raw raw' → value' = value
  count : Padded raw raw' → w'.length = w.length
  warnings : raw' = raw → w' = w

section Environments

variable {raw raw' : Option String} {w : List String}

theorem usable_of_capacity_reads {value : Quantity} (reads : capacity.Reads raw value w) :
    ∃ n : Nat, 0 < n ∧ value = n ∧ Registry.ofCapacity value = .ok ⟨n, []⟩ := by
  cases reads with
  | absent => exact ⟨256, by decide, rfl, rfl⟩
  | refused => exact ⟨256, by decide, rfl, rfl⟩
  | taken _ accepted =>
      obtain ⟨n, -, positive, rfl⟩ := accepted
      have whole : (n.toNat : Int) = n := Int.toNat_of_nonneg (Int.le_of_lt positive)
      refine ⟨n.toNat, Int.pos_iff_toNat_pos.mp positive, by rw [whole], ?_⟩
      exact if_pos positive

theorem isFinite_of_parameter_reads {name : String} {fallback value : Number.Binary64}
    (finite : fallback.isFinite = true) (reads : (fusionParameter name fallback).Reads raw value w) :
    value.isFinite = true := by
  cases reads with
  | absent => exact finite
  | refused => exact finite
  | taken _ accepted =>
      obtain ⟨finite, rfl⟩ := accepted
      exact finite

theorem follows_ofRaw {α : Type} (v : Numeric α) (usable : Number.Binary64 → Option α)
    (raw raw' : Option String) : Follows raw raw' (v.ofRaw usable raw).1 (v.ofRaw usable raw').1
      (v.ofRaw usable raw).2 (v.ofRaw usable raw').2 where
  value padded := (v.ofRaw_of_padded padded).1
  count padded := (v.ofRaw_of_padded padded).2
  warnings same := by rw [same]

end Environments

/-- What every environment is read as. -/
theorem isReadFrom_ofEnvironment (env : String → Option String) :
    (ofEnvironment env).IsReadFrom env
      ⟨(capacity.ofRaw usableCapacity (env "HID_ACTIVATION_CAPACITY")).2,
        (parameter1.ofRaw usableParameter (env "HID_FUSION_PARAMETER_1")).2,
        (parameter2.ofRaw usableParameter (env "HID_FUSION_PARAMETER_2")).2⟩ where
  capacity := capacity.reads_ofRaw usableCapacity_eq_some_iff _
  parameter1 := parameter1.reads_ofRaw (usableParameter_eq_some_iff _ _) _
  parameter2 := parameter2.reads_ofRaw (usableParameter_eq_some_iff _ _) _
  warnings := rfl
  deviceManaged := readsFlag_readFlag _ _
  logLevel := LogLevel.reads_read _ _
  logFileLevel := LogLevel.reads_read _ _

theorem IsReadFrom.usable {c : Config} {env : String → Option String} {w : Warnings}
    (read : c.IsReadFrom env w) : c.Usable where
  capacity := usable_of_capacity_reads read.capacity
  parameter1 := isFinite_of_parameter_reads (by decide) read.parameter1
  parameter2 := isFinite_of_parameter_reads (by decide) read.parameter2
  levels level _ := by cases level <;> decide

/-- **Configurations.** Whatever the variables of an environment hold,

* the configuration that is read of it can be used: the capacity is a positive integer, the
  parameters of fusion are finite, and a log has a level by one of the six names or is switched off;
* every service with this capacity, in whatever state, makes a list of active devices for each
  well-formed request for one, and replies with a success;
* a number is taken if its variable is set to a text that is not blank and spells an acceptable one.
  Otherwise it is the default, with a warning if there is such a text, and without one if not; the
  warnings are those about the capacity, the first parameter and the second, in this order;
* a flag is set by one of four words and by no other text, and a log has the level that its variable
  names, or is switched off by it, or has the default;
* in any other environment, a setting is the same if its variable is the same or has blanks put
  around it, whatever the other variables hold. Then there are as many warnings about the variable,
  and these are the same if the variable is. -/
theorem ofEnvironment_exact (env : String → Option String) :
    (ofEnvironment env).Usable ∧
    let c := ofEnvironment env
    (∀ (s : Service) (p : Post), s.config.activationCapacity = c.activationCapacity →
      p.CreatesList → ∃ a fresh, s.attend p = some a ∧ a.calls = [] ∧ a.outcome = .reply
          { result := .success, handles := [.interface (s.state.interfaces.length + 1)] } ∧
        Registry.ofCapacity c.activationCapacity = .ok fresh ∧
        a.service.state = s.state.add (.deviceList fresh)) ∧
    ∃ w, c.IsReadFrom env w ∧ ∀ other,
      let c' := ofEnvironment other
      ∃ w', c'.IsReadFrom other w' ∧
        Follows (env "HID_ACTIVATION_CAPACITY") (other "HID_ACTIVATION_CAPACITY")
          c.activationCapacity c'.activationCapacity w.capacity w'.capacity ∧
        Follows (env "HID_FUSION_PARAMETER_1") (other "HID_FUSION_PARAMETER_1")
          c.fusionDefaults.parameter1 c'.fusionDefaults.parameter1 w.parameter1 w'.parameter1 ∧
        Follows (env "HID_FUSION_PARAMETER_2") (other "HID_FUSION_PARAMETER_2")
          c.fusionDefaults.parameter2 c'.fusionDefaults.parameter2 w.parameter2 w'.parameter2 ∧
        (Padded (env "HID_DEVICE_MANAGED") (other "HID_DEVICE_MANAGED") →
          c'.deviceManaged = c.deviceManaged) ∧
        (Padded (env "HID_LOG_LEVEL") (other "HID_LOG_LEVEL") → c'.logLevel = c.logLevel) ∧
        (Padded (env "HID_LOG_FILE_LEVEL") (other "HID_LOG_FILE_LEVEL") →
          c'.logFileLevel = c.logFileLevel) := by
  have read := isReadFrom_ofEnvironment env
  refine ⟨read.usable, ?lists, _, read, fun other => ⟨_, isReadFrom_ofEnvironment other, ?_⟩⟩
  case lists =>
    intro s p same creates
    obtain ⟨n, -, -, made⟩ := read.usable.capacity
    obtain ⟨a, attended, none, replied, state⟩ :=
      Service.attend_of_createsList creates (by rw [same, made])
    exact ⟨a, _, attended, none, replied, made, state⟩
  · exact ⟨follows_ofRaw capacity usableCapacity _ _, follows_ofRaw parameter1 usableParameter _ _,
      follows_ofRaw parameter2 usableParameter _ _, fun padded => readFlag_of_padded padded _,
      fun padded => LogLevel.read_of_padded padded _,
      fun padded => LogLevel.read_of_padded padded _⟩

end Config
end Hid
