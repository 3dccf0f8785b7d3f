import Hid.Proofs.Service.Caution
import Hid.Proofs.Service.Steady

/-!
Plain handlers, which are put together from calls, looks at the state and values. They change
nothing and raise no violation (`Plain.innocent`), and an error of the device layer ends them
(`Plain.steady`). Most commands have such a handler; what holds of plain handlers is proved along
the way they are put together, and not command by command.
-/

namespace Hid.Service

open Device (Call Report)
open Dispatch (Command Context Reply)
open Wire (Bytes Layout)

namespace Handler

inductive Plain : {α : Type} → Handler α → Prop
  | pure {α : Type} (a : α) : Plain (pure a : Handler α)
  | ask (c : Call) : Plain (ask c)
  | state : Plain state
  | attempt {α : Type} {e : Except Failure α} (lawful : ∀ v, e ≠ .error (.violation v)) :
      Plain (attempt e)
  | bind {α β : Type} {x : Handler α} {k : α → Handler β} (first : Plain x)
      (second : ∀ a, Plain (k a)) : Plain (x >>= k)

namespace Plain

variable {α : Type} {x y : Handler α}

theorem ite {c : Prop} [Decidable c] (yes : Plain x) (no : Plain y) :
    Plain (if c then x else y) := by
  split
  case isTrue holds => exact yes
  case isFalse fails => exact no

theorem discard (plain : Plain x) : Plain (discard x) := .bind plain fun _ => .pure ()

theorem required (value : Option α) : Plain (required value) := by
  apply attempt
  intro v raised
  cases value with
  | none => cases raised
  | some value => cases raised

theorem sized (name : String) (size : Nat) (data : Bytes) : Plain (sized name size data) := by
  apply attempt
  intro v raised
  cases encoded : (Layout.rawBytes name size).encode data with
  | error fault => rw [encoded] at raised; cases raised
  | ok block => rw [encoded] at raised; cases raised

theorem steady (plain : Plain x) : Steady x := by
  induction plain with
  | pure a => trivial
  | ask c => exact ⟨fun _ => rfl, fun _ => trivial⟩
  | state => exact fun _ => trivial
  | attempt lawful => trivial
  | bind first second ihFirst ihSecond => exact ihFirst.bind ihSecond

theorem innocent (plain : Plain x) : Innocent x := by
  induction plain with
  | pure a => exact innocent_pure a
  | ask c => exact innocent_ask c
  | state => exact innocent_state
  | attempt lawful => exact fun device _ past s v raised => lawful v raised
  | bind first second ihFirst ihSecond => exact ihFirst.bind ihSecond

end Plain

theorem steady_attempt {α : Type} (e : Except Failure α) : Steady (attempt e) := trivial

end Handler

/-! ### Commands -/

/-- The command has a plain handler, if it has one at all. -/
def Plain (c : Command Program) : Prop :=
  match c with
  | .implemented d => ∀ context, Handler.Plain (d.handler context)
  | .stubbed _ | .unimplemented _ => True

theorem Plain.cautious {c : Command Program} (plain : Plain c) : Cautious c := by
  cases c with
  | implemented d => exact fun context => (plain context).innocent.cautious
  | stubbed s => trivial
  | unimplemented name => trivial

section Forms

variable {α β : Type} {name : String} {parameters : Layout α} {output : Layout β}

theorem plain_coded {handler : α → Handler ResultCode} (plain : ∀ p, Handler.Plain (handler p)) :
    Plain (coded name parameters handler) :=
  fun c => .bind (plain c.parameters) fun _ => .pure _

theorem plain_performed {handler : α → Handler Unit} (plain : ∀ p, Handler.Plain (handler p)) :
    Plain (performed name parameters handler) :=
  plain_coded fun p => .bind (plain p) fun _ => .pure _

theorem plain_replied {handler : α → Handler (Reply β)} (plain : ∀ p, Handler.Plain (handler p)) :
    Plain (replied name parameters output handler) :=
  fun c => plain c.parameters

theorem plain_reported {handler : α → Handler (Report β)}
    (plain : ∀ p, Handler.Plain (handler p)) :
    Plain (reported name parameters output handler) :=
  plain_replied fun p => .bind (plain p) fun _ => .pure _

theorem plain_handedOut {handler : α → Handler (Report Quantity)}
    (plain : ∀ p, Handler.Plain (handler p)) : Plain (handedOut name parameters handler) :=
  fun c => .bind (plain c.parameters) fun _ => .pure _

theorem plain_contextual {handleCount : Nat} {handler : Context α → Handler ResultCode}
    (plain : ∀ c, Handler.Plain (handler c)) :
    Plain (contextual name parameters handleCount handler) :=
  fun c => .bind (plain c) fun _ => .pure _

end Forms
end Hid.Service
