import Hid.Service.Handler

/-!
What becomes of the values of failed reports. Such a value means nothing, so device layers that
agree on everything else (`Agree`) should come to the same. A handler is discreet if they do, in
all that it comes to, and reserved if at least the calls and the state are the same. Either is
proved along the way a handler is put together: the answer to a call that gives no report is the
same anyhow, and a step that looks at a report must not look at the value before the code
(`Veiled.bind`, `Report.blind`); the last step of a reserved handler may, if it does nothing else
(`Reserved.bind_idle`).
-/

namespace Hid.Device

/-- A report without its value, if it is a failure. -/
def Report.redact {α : Type} (report : Report α) : Report α :=
  if report.result.isFailure then ⟨report.result, none⟩ else report

/-- What is made of a report depends on no more than its redaction if for a failure it does not
depend on the value. -/
theorem Report.blind {α γ : Type} {f : Report α → γ}
    (hidden : ∀ report, report.result.isFailure = true → f report = f ⟨report.result, none⟩)
    (report : Report α) : f report = f report.redact := by
  rw [redact]
  split
  case isTrue failed => exact hidden report failed
  case isFalse success => rfl

namespace Kind

def isReport : Kind → Bool
  | .report _ => true
  | _ => false

/-- All that an answer says. -/
def redact : (k : Kind) → k.Value → k.Value
  | .report _, r => r.redact
  | _, answer => answer

theorem redact_of_bare {k : Kind} (bare : k.isReport = false) (answer : k.Value) :
    k.redact answer = answer := by
  cases k with
  | report k => cases bare
  | done | code | flag | number | object | word | volume | fusion | vibration | vibrationInfo
  | palma | operation | modeChange | block | memory => rfl

end Kind
end Hid.Device

namespace Hid.Service

open Device (Call Kind Report)
open Dispatch (Command Context Reply)
open Wire (Bytes Layout)

/-- The device layers give the same answers, up to the values of failed reports. -/
def Agree (device other : Device) : Prop :=
  ∀ past (c : Call), (device past c).map c.kind.redact = (other past c).map c.kind.redact

namespace Handler

variable {α β : Type} {x y : Handler α} {k : α → Handler β}

/-- Device layers that agree make no difference to the run. -/
def Discreet (x : Handler α) : Prop :=
  ∀ device other past s, Agree device other → x.ran device past s = x.ran other past s

/-- Device layers that agree make no difference to the calls, and none to the state. -/
def Reserved (x : Handler α) : Prop :=
  ∀ device other past s, Agree device other →
    (x.ran device past s).calls = (x.ran other past s).calls ∧
      (x.ran device past s).state = (x.ran other past s).state

/-- Device layers that agree make no difference to the calls and the state, and none to what the
handler comes to once a part of that is left out. -/
def Veiled (redact : α → α) (x : Handler α) : Prop :=
  ∀ device other past s, Agree device other →
    (x.ran device past s).value.map redact = (x.ran other past s).value.map redact ∧
      (x.ran device past s).calls = (x.ran other past s).calls ∧
      (x.ran device past s).state = (x.ran other past s).state

/-- The handler makes no calls and leaves the state as it is. -/
def Idle (x : Handler α) : Prop :=
  ∀ device past s, (x.ran device past s).calls = [] ∧ (x.ran device past s).state = s

/-! ### Single steps -/

theorem discreet_pure (a : α) : Discreet (pure a : Handler α) := fun _ _ _ _ _ => rfl

theorem discreet_state : Discreet state := fun _ _ _ _ _ => rfl

theorem discreet_change (f : State → State) : Discreet (change f) := fun _ _ _ _ _ => rfl

theorem discreet_attempt (e : Except Failure α) : Discreet (attempt e) := fun _ _ _ _ _ => rfl

/-- The answer to a call is the same up to what it does not say. -/
theorem veiled_ask (c : Call) : Veiled c.kind.redact (ask c) :=
  fun _ _ past _ agree => ⟨agree past c, rfl, rfl⟩

theorem idle_pure (a : α) : Idle (pure a : Handler α) := fun _ _ _ => ⟨rfl, rfl⟩

theorem idle_attempt (e : Except Failure α) : Idle (attempt e) := fun _ _ _ => ⟨rfl, rfl⟩

/-! ### Steps in a row -/

theorem Discreet.bind (first : Discreet x) (second : ∀ a, Discreet (k a)) :
    Discreet (x >>= k) := by
  intro device other past s agree
  have begun := first device other past s agree
  cases found : (x.ran device past s).value with
  | error failure =>
      rw [ran_bind_error found, ran_bind_error (begun ▸ found), begun]
  | ok a =>
      rw [ran_bind_ok found, ran_bind_ok (begun ▸ found), begun,
        second a device other _ _ agree]

/-- What is left out may be left out if the next step makes nothing of it. -/
theorem Veiled.bind {redact : α → α} (first : Veiled redact x) (blind : ∀ a, k a = k (redact a))
    (second : ∀ a, Discreet (k a)) : Discreet (x >>= k) := by
  intro device other past s agree
  obtain ⟨value, calls, state⟩ := first device other past s agree
  cases found : (x.ran device past s).value with
  | error failure =>
      rw [found] at value
      cases found' : (x.ran other past s).value with
      | error failure' =>
          rw [found'] at value
          rw [ran_bind_error found, ran_bind_error found', calls, state, Except.error.inj value]
      | ok a' =>
          rw [found'] at value
          cases value
  | ok a =>
      rw [found] at value
      cases found' : (x.ran other past s).value with
      | error failure' =>
          rw [found'] at value
          cases value
      | ok a' =>
          rw [found'] at value
          have alike : k a = k a' := by
            rw [blind a, blind a']
            exact congrArg k (Except.ok.inj value)
          rw [ran_bind_ok found, ran_bind_ok found', calls, state, alike,
            second a' device other _ _ agree]

/-- An answer that is no report leaves nothing out. -/
theorem discreet_ask {c : Call} (bare : c.kind.isReport = false) : Discreet (ask c) := by
  have whole := (veiled_ask c).bind (k := pure) (fun answer => ?_) discreet_pure
  · rwa [bind_pure] at whole
  · rw [Kind.redact_of_bare bare]

theorem Discreet.ite {c : Prop} [Decidable c] (yes : Discreet x) (no : Discreet y) :
    Discreet (if c then x else y) := by
  split
  case isTrue holds => exact yes
  case isFalse fails => exact no

theorem Discreet.discard (discreet : Discreet x) : Discreet (discard x) :=
  discreet.bind fun _ => discreet_pure ()

theorem Veiled.reserved {redact : α → α} (veiled : Veiled redact x) : Reserved x :=
  fun device other past s agree => (veiled device other past s agree).2

theorem Discreet.reserved (discreet : Discreet x) : Reserved x := by
  intro device other past s agree
  rw [discreet device other past s agree]
  exact ⟨rfl, rfl⟩

theorem Reserved.ite {c : Prop} [Decidable c] (yes : Reserved x) (no : Reserved y) :
    Reserved (if c then x else y) := by
  split
  case isTrue holds => exact yes
  case isFalse fails => exact no

/-- An idle step adds no calls and changes nothing, whatever it makes of a value. -/
theorem ran_bind_idle (idle : ∀ a, Idle (k a)) (device : Device) (past : List Call) (s : State) :
    ((x >>= k).ran device past s).calls = (x.ran device past s).calls ∧
      ((x >>= k).ran device past s).state = (x.ran device past s).state := by
  cases found : (x.ran device past s).value with
  | error failure =>
      rw [ran_bind_error found]
      exact ⟨rfl, rfl⟩
  | ok a =>
      obtain ⟨calls, state⟩ :=
        idle a device (past ++ (x.ran device past s).calls) (x.ran device past s).state
      rw [ran_bind_ok found]
      refine ⟨?_, state⟩
      rw [Ran.after, calls, List.append_nil]

theorem Idle.bind (first : Idle x) (second : ∀ a, Idle (k a)) : Idle (x >>= k) := by
  intro device past s
  obtain ⟨calls, state⟩ := ran_bind_idle second device past s (x := x)
  obtain ⟨none, same⟩ := first device past s
  exact ⟨calls.trans none, state.trans same⟩

theorem Reserved.bind_idle (first : Reserved x) (second : ∀ a, Idle (k a)) :
    Reserved (x >>= k) := by
  intro device other past s agree
  obtain ⟨calls, state⟩ := ran_bind_idle second device past s (x := x)
  obtain ⟨calls', state'⟩ := ran_bind_idle second other past s (x := x)
  obtain ⟨same, same'⟩ := first device other past s agree
  exact ⟨(calls.trans same).trans calls'.symm, (state.trans same').trans state'.symm⟩

end Handler

/-! ### Commands -/

/-- Whatever the command gets, its handler is discreet. -/
def Discreet (c : Command Program) : Prop :=
  match c with
  | .implemented d => ∀ context, Handler.Discreet (d.handler context)
  | .stubbed _ | .unimplemented _ => True

/-- Whatever the command gets, its handler is reserved. -/
def Reserved (c : Command Program) : Prop :=
  match c with
  | .implemented d => ∀ context, Handler.Reserved (d.handler context)
  | .stubbed _ | .unimplemented _ => True

theorem Discreet.reserved {c : Command Program} (discreet : Discreet c) : Reserved c := by
  cases c with
  | implemented d => exact fun context => (discreet context).reserved
  | stubbed s => trivial
  | unimplemented name => trivial

section Forms

open Handler (discreet_pure discreet_state discreet_change idle_pure)

variable {α β : Type} {name : String} {parameters : Layout α} {output : Layout β}

theorem discreet_coded {handler : α → Handler ResultCode}
    (discreet : ∀ p, Handler.Discreet (handler p)) : Discreet (coded name parameters handler) :=
  fun c => .bind (discreet c.parameters) fun _ => discreet_pure _

theorem discreet_performed {handler : α → Handler Unit}
    (discreet : ∀ p, Handler.Discreet (handler p)) : Discreet (performed name parameters handler) :=
  discreet_coded fun p => .bind (discreet p) fun _ => discreet_pure _

theorem discreet_replied {handler : α → Handler (Reply β)}
    (discreet : ∀ p, Handler.Discreet (handler p)) :
    Discreet (replied name parameters output handler) :=
  fun c => discreet c.parameters

theorem discreet_contextual {handleCount : Nat} {handler : Context α → Handler ResultCode}
    (discreet : ∀ c, Handler.Discreet (handler c)) :
    Discreet (contextual name parameters handleCount handler) :=
  fun c => .bind (discreet c) fun _ => discreet_pure _

theorem discreet_handedOut {handler : α → Handler (Report Quantity)}
    (discreet : ∀ p, Handler.Discreet (handler p)) :
    Discreet (handedOut name parameters handler) :=
  fun c => .bind (discreet c.parameters) fun _ => discreet_pure _

theorem discreet_created {handler : α → Handler (ResultCode × Interface)}
    (discreet : ∀ p, Handler.Discreet (handler p)) :
    Discreet (created name parameters handler) := by
  intro c
  refine .bind (discreet c.parameters) fun made => .bind discreet_state fun s => ?_
  exact .bind (discreet_change _) fun _ => discreet_pure _

theorem reserved_replied {handler : α → Handler (Reply β)}
    (reserved : ∀ p, Handler.Reserved (handler p)) :
    Reserved (replied name parameters output handler) :=
  fun c => reserved c.parameters

theorem reserved_reported {handler : α → Handler (Report β)}
    (reserved : ∀ p, Handler.Reserved (handler p)) :
    Reserved (reported name parameters output handler) :=
  reserved_replied fun p => .bind_idle (reserved p) fun _ => idle_pure _

theorem reserved_handedOut {handler : α → Handler (Report Quantity)}
    (reserved : ∀ p, Handler.Reserved (handler p)) :
    Reserved (handedOut name parameters handler) :=
  fun c => .bind_idle (reserved c.parameters) fun _ => idle_pure _

end Forms
end Hid.Service
