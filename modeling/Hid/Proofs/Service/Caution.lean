import Hid.Service.Handler

/-!
What a handler has done by the time it raises a violation. An innocent handler never raises one,
a quiet one does nothing but look up memory, and a cautious one has done nothing else when it
raises one. A handler is cautious if what may raise a violation comes first and is quiet
(`Quiet.bind_cautious`), and if what comes after that is innocent (`Cautious.bind`).

The laws follow the shapes of handlers, one for each step and each form of command.
-/

namespace Hid.Device

/-- The call looks up the memory behind a handle, and touches no device. -/
def Call.IsLookUp (c : Call) : Prop := ∃ handle, c = .getTransferMemory handle

end Hid.Device

namespace Hid.Service

open Device (Call Report)
open Dispatch (Command Context Reply)
open Wire (Bytes Layout)

/-- A device layer that raises no violations of its own. -/
def Tame (device : Device) : Prop := ∀ past c v, device past c ≠ .error (.violation v)

/-- A run that has left the state alone and has made no calls but look-ups. -/
structure Ran.IsQuiet {α : Type} (r : Ran α) (s : State) : Prop where
  state : r.state = s
  calls : ∀ c ∈ r.calls, c.IsLookUp

namespace Handler

variable {α β : Type} {x y : Handler α} {k : α → Handler β}

/-- The handler never raises a violation. -/
def Innocent (x : Handler α) : Prop :=
  ∀ device : Device, Tame device → ∀ past s v,
    (x.ran device past s).value ≠ .error (.violation v)

/-- The handler does nothing but look up memory. -/
def Quiet (x : Handler α) : Prop :=
  ∀ device past s, (x.ran device past s).IsQuiet s

/-- The handler has done nothing but look up memory when it raises a violation. -/
def Cautious (x : Handler α) : Prop :=
  ∀ device : Device, Tame device → ∀ past s v,
    (x.ran device past s).value = .error (.violation v) → (x.ran device past s).IsQuiet s

theorem Innocent.cautious (innocent : Innocent x) : Cautious x :=
  fun device tame past s v violated => absurd violated (innocent device tame past s v)

theorem Quiet.cautious (quiet : Quiet x) : Cautious x :=
  fun device _ past s _ _ => quiet device past s

/-! ### Steps in a row -/

theorem Innocent.bind (first : Innocent x) (second : ∀ a, Innocent (k a)) :
    Innocent (x >>= k) := by
  intro device tame past s v violated
  cases found : (x.ran device past s).value with
  | error failure =>
      rw [ran_bind_error found] at violated
      obtain rfl : failure = .violation v := Except.error.inj violated
      exact first device tame past s v found
  | ok a =>
      rw [ran_bind_ok found] at violated
      exact second a device tame _ _ v violated

section AfterQuiet

variable {device : Device} {past : List Call} {s : State}

theorem Quiet.of_error (first : Quiet x) {failure : Failure}
    (failed : (x.ran device past s).value = .error failure) :
    ((x >>= k).ran device past s).IsQuiet s := by
  have quiet := first device past s
  rw [ran_bind_error failed]
  exact ⟨quiet.state, quiet.calls⟩

/-- After a quiet step, a run is quiet if what comes next is, from the same state. -/
theorem Quiet.of_ok (first : Quiet x) {a : α} (found : (x.ran device past s).value = .ok a)
    (second : ((k a).ran device (past ++ (x.ran device past s).calls) s).IsQuiet s) :
    ((x >>= k).ran device past s).IsQuiet s := by
  have quiet := first device past s
  rw [ran_bind_ok found, quiet.state]
  constructor
  · exact second.state
  · intro c made
    rcases List.mem_append.mp made with before | after
    · exact quiet.calls c before
    · exact second.calls c after

end AfterQuiet

theorem Quiet.bind (first : Quiet x) (second : ∀ a, Quiet (k a)) : Quiet (x >>= k) := by
  intro device past s
  cases found : (x.ran device past s).value with
  | error failure => exact first.of_error found
  | ok a => exact first.of_ok found (second a device _ s)

/-- A violation may be raised after quiet steps. -/
theorem Quiet.bind_cautious (first : Quiet x) (second : ∀ a, Cautious (k a)) :
    Cautious (x >>= k) := by
  intro device tame past s v violated
  cases found : (x.ran device past s).value with
  | error failure => exact first.of_error found
  | ok a =>
      rw [ran_bind_ok found, (first device past s).state] at violated
      exact first.of_ok found (second a device tame _ s v violated)

/-- Innocent steps may follow wherever a violation may be raised. -/
theorem Cautious.bind (first : Cautious x) (second : ∀ a, Innocent (k a)) :
    Cautious (x >>= k) := by
  intro device tame past s v violated
  cases found : (x.ran device past s).value with
  | error failure =>
      rw [ran_bind_error found] at violated ⊢
      obtain rfl : failure = .violation v := Except.error.inj violated
      have quiet := first device tame past s v found
      exact ⟨quiet.state, quiet.calls⟩
  | ok a =>
      rw [ran_bind_ok found] at violated
      exact absurd violated (second a device tame _ _ v)

theorem Innocent.ite {c : Prop} [Decidable c] (yes : Innocent x) (no : Innocent y) :
    Innocent (if c then x else y) := by
  split
  case isTrue holds => exact yes
  case isFalse fails => exact no

/-! ### Single steps -/

theorem innocent_pure (a : α) : Innocent (pure a : Handler α) := by
  intro device tame past s v raised
  cases raised

theorem innocent_ask (c : Call) : Innocent (ask c) := by
  intro device tame past s v violated
  exact tame past c v violated

theorem innocent_state : Innocent state := by
  intro device tame past s v raised
  cases raised

theorem innocent_change (f : State → State) : Innocent (change f) := by
  intro device tame past s v raised
  cases raised

theorem quiet_attempt (e : Except Failure α) : Quiet (attempt e) :=
  fun _ _ _ => ⟨rfl, fun _ made => absurd made List.not_mem_nil⟩

theorem quiet_lookUp (handle : Quantity) : Quiet (ask (.getTransferMemory handle)) := by
  intro device past s
  refine ⟨rfl, fun c made => ?_⟩
  rw [List.mem_singleton.mp made]
  exact ⟨handle, rfl⟩

end Handler

/-! ### Commands -/

/-- Whatever the command gets, its handler is cautious. -/
def Cautious (c : Command Program) : Prop :=
  match c with
  | .implemented d => ∀ context, Handler.Cautious (d.handler context)
  | .stubbed _ | .unimplemented _ => True

section Forms

open Handler (Innocent innocent_pure innocent_state innocent_change)

variable {α β : Type} {name : String} {parameters : Layout α} {output : Layout β}

theorem cautious_coded {handler : α → Handler ResultCode} (innocent : ∀ p, Innocent (handler p)) :
    Cautious (coded name parameters handler) := by
  intro c
  refine Innocent.cautious (.bind (innocent c.parameters) fun code => ?_)
  exact innocent_pure _

theorem cautious_created {handler : α → Handler (ResultCode × Interface)}
    (innocent : ∀ p, Innocent (handler p)) : Cautious (created name parameters handler) := by
  intro c
  refine Innocent.cautious (.bind (innocent c.parameters) fun made => ?_)
  refine .bind innocent_state fun s => ?_
  refine .bind (innocent_change _) fun _ => ?_
  exact innocent_pure _

/-- A command that looks at more of the request may raise a violation, but not late. -/
theorem cautious_contextual {handleCount : Nat} {handler : Context α → Handler ResultCode}
    (cautious : ∀ c, Handler.Cautious (handler c)) :
    Cautious (contextual name parameters handleCount handler) := by
  intro c
  refine (cautious c).bind fun code => ?_
  exact innocent_pure _

end Forms
end Hid.Service
