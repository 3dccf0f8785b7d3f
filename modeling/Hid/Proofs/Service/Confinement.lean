import Hid.Service.Handler

/-!
What handlers call at all. A handler is confined to calls of a kind if it makes no others, whatever
the device layer answers. That holds if the handler is put together from permitted steps
(`Limited.confined`), which is shown for commands along their forms. Where a call is made only under
conditions, these are read off it step by step, from the first one on (`mem_calls_bind`).
-/

namespace Hid.Service

open Device (Call Report)
open Dispatch (Command Context Definition Reply)
open Wire (Bytes Layout)

namespace Handler

variable {α β : Type} {x y : Handler α} {k : α → Handler β}

/-! ### Where a call comes from -/

section Origins

variable {device : Device} {past : List Call} {s : State} {c : Call}

/-- A call of two steps in a row is one of the first step, or one of the second, and then the first
has come to a value. -/
theorem mem_calls_bind (made : c ∈ ((x >>= k).ran device past s).calls) :
    c ∈ (x.ran device past s).calls ∨
      ∃ a, (x.ran device past s).value = .ok a ∧
        c ∈ ((k a).ran device (past ++ (x.ran device past s).calls)
          (x.ran device past s).state).calls := by
  cases found : (x.ran device past s).value with
  | error failure =>
      rw [ran_bind_error found] at made
      exact .inl made
  | ok a =>
      rw [ran_bind_ok found] at made
      rcases List.mem_append.mp made with before | after
      · exact .inl before
      · exact .inr ⟨a, rfl, after⟩

/-- What is called first is called whatever follows. -/
theorem calls_bind (device : Device) (past : List Call) (s : State) (x : Handler α)
    (k : α → Handler β) : (x.ran device past s).calls <+: ((x >>= k).ran device past s).calls := by
  cases found : (x.ran device past s).value with
  | error failure =>
      have stopped := congrArg Ran.calls (ran_bind_error (k := k) found)
      exact stopped ▸ List.prefix_refl _
  | ok a =>
      rw [ran_bind_ok found]
      exact List.prefix_append ..

theorem mem_calls_attempt {e : Except Failure α}
    (made : c ∈ ((attempt e >>= k).ran device past s).calls) :
    ∃ a, e = .ok a ∧ c ∈ ((k a).ran device past s).calls := by
  cases e with
  | error failure =>
      rw [ran_attempt_error rfl] at made
      cases made
  | ok a =>
      rw [ran_attempt_ok rfl] at made
      exact ⟨a, rfl, made⟩

theorem mem_calls_ask {first : Call} {k : first.Answer → Handler β}
    (made : c ∈ ((ask first >>= k).ran device past s).calls) :
    c = first ∨ ∃ answer, device past first = .ok answer ∧
      c ∈ ((k answer).ran device (past ++ [first]) s).calls := by
  rcases mem_calls_bind made with before | ⟨answer, answered, after⟩
  · exact .inl (List.mem_singleton.mp before)
  · exact .inr ⟨answer, answered, after⟩

end Origins

/-! ### Handlers that are put together from permitted steps -/

/-- The handler makes no calls but permitted ones. -/
def Confined (permits : Call → Prop) (x : Handler α) : Prop :=
  ∀ device past s, ∀ c ∈ (x.ran device past s).calls, permits c

/-- The handler is put together from values, looks at the state, permitted calls and permitted
changes of the state. -/
inductive Limited (permits : Call → Prop) (keeps : (State → State) → Prop) :
    {α : Type} → Handler α → Prop
  | pure {α : Type} (a : α) : Limited permits keeps (pure a : Handler α)
  | state : Limited permits keeps state
  | attempt {α : Type} (e : Except Failure α) : Limited permits keeps (attempt e)
  | ask {c : Call} (permitted : permits c) : Limited permits keeps (ask c)
  | change {f : State → State} (kept : keeps f) : Limited permits keeps (change f)
  | bind {α β : Type} {x : Handler α} {k : α → Handler β} (first : Limited permits keeps x)
      (second : ∀ a, Limited permits keeps (k a)) : Limited permits keeps (x >>= k)

variable {permits : Call → Prop} {keeps : (State → State) → Prop}

theorem Limited.ite {condition : Prop} [Decidable condition] (yes : Limited permits keeps x)
    (no : Limited permits keeps y) : Limited permits keeps (if condition then x else y) := by
  split
  case isTrue holds => exact yes
  case isFalse fails => exact no

theorem Limited.discard (limited : Limited permits keeps x) : Limited permits keeps (discard x) :=
  .bind limited fun _ => .pure ()

/-- What is permitted, the handler calls, and nothing else. -/
theorem Limited.confined (limited : Limited permits keeps x) : Confined permits x := by
  intro device past s c made
  induction limited generalizing past s with
  | pure a => exact absurd made List.not_mem_nil
  | state => exact absurd made List.not_mem_nil
  | attempt e => exact absurd made List.not_mem_nil
  | ask permitted => rwa [List.mem_singleton.mp made]
  | change kept => exact absurd made List.not_mem_nil
  | bind first second ihFirst ihSecond =>
      rcases mem_calls_bind made with before | ⟨a, -, after⟩
      · exact ihFirst _ _ before
      · exact ihSecond a _ _ after

end Handler

/-! ### Commands -/

/-- Whatever the command gets, its handler makes no calls but permitted ones. -/
def Confined (permits : Call → Prop) (c : Command Program) : Prop :=
  match c with
  | .implemented d => ∀ context, Handler.Confined permits (d.handler context)
  | .stubbed _ | .unimplemented _ => True

/-- Whatever the command gets, its handler is put together from permitted steps. -/
def Limited (permits : Call → Prop) (keeps : (State → State) → Prop) (c : Command Program) : Prop :=
  match c with
  | .implemented d => ∀ context, Handler.Limited permits keeps (d.handler context)
  | .stubbed _ | .unimplemented _ => True

section Forms

variable {permits : Call → Prop} {keeps : (State → State) → Prop}

theorem Limited.confined {c : Command Program} (limited : Limited permits keeps c) :
    Confined permits c := by
  cases c with
  | implemented d => exact fun context => (limited context).confined
  | stubbed s => trivial
  | unimplemented name => trivial

variable {α β : Type} {name : String} {parameters : Layout α} {output : Layout β}

theorem limited_implemented {d : Definition Program}
    (limited : ∀ c, Handler.Limited permits keeps (d.handler c)) :
    Limited permits keeps (.implemented d) :=
  limited

theorem limited_coded {handler : α → Handler ResultCode}
    (limited : ∀ p, Handler.Limited permits keeps (handler p)) :
    Limited permits keeps (coded name parameters handler) :=
  fun c => .bind (limited c.parameters) fun _ => .pure _

theorem limited_performed {handler : α → Handler Unit}
    (limited : ∀ p, Handler.Limited permits keeps (handler p)) :
    Limited permits keeps (performed name parameters handler) :=
  limited_coded fun p => .bind (limited p) fun _ => .pure _

theorem limited_replied {handler : α → Handler (Reply β)}
    (limited : ∀ p, Handler.Limited permits keeps (handler p)) :
    Limited permits keeps (replied name parameters output handler) :=
  fun c => limited c.parameters

theorem limited_reported {handler : α → Handler (Report β)}
    (limited : ∀ p, Handler.Limited permits keeps (handler p)) :
    Limited permits keeps (reported name parameters output handler) :=
  limited_replied fun p => .bind (limited p) fun _ => .pure _

theorem limited_contextual {handleCount : Nat} {handler : Context α → Handler ResultCode}
    (limited : ∀ c, Handler.Limited permits keeps (handler c)) :
    Limited permits keeps (contextual name parameters handleCount handler) :=
  fun c => .bind (limited c) fun _ => .pure _

theorem limited_handedOut {handler : α → Handler (Report Quantity)}
    (limited : ∀ p, Handler.Limited permits keeps (handler p)) :
    Limited permits keeps (handedOut name parameters handler) :=
  fun c => .bind (limited c.parameters) fun _ => .pure _

theorem limited_created (adds : ∀ object, keeps (·.add object))
    {handler : α → Handler (ResultCode × Interface)}
    (limited : ∀ p, Handler.Limited permits keeps (handler p)) :
    Limited permits keeps (created name parameters handler) := by
  intro c
  refine .bind (limited c.parameters) fun made => .bind .state fun s => ?_
  exact .bind (.change (adds made.2)) fun _ => .pure _

end Forms
end Hid.Service
