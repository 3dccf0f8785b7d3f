import Hid.Device.Call
import Hid.Failure
import Hid.Service.State

/-!
Programs: what commands do, as trees. A program asks the device layer, looks at the
shared state and changes it; what it does next may depend on the answers. A device
layer is any function from the calls made so far and the call at hand to an answer, and
running a program against one yields a value, a state and the calls that were made.
-/

namespace Hid.Service

open Device (Call)

inductive Program (α : Type) : Type where
  | done (value : α)
  | ask (c : Call) (next : Except Failure c.Answer → Program α)
  | inspect (next : State → Program α)
  | update (change : State → State) (next : Program α)

/-- A device layer: its answer to a call after the calls made before, if it does not
fail. -/
abbrev Device := (past : List Call) → (c : Call) → Except Failure c.Answer

/-- What a run comes to. The calls are those of the run, in order. -/
structure Ran (α : Type) where
  value : α
  state : State
  calls : List Call

/-- What a run comes to if other calls were made before its own. -/
def Ran.after (r : Ran α) (calls : List Call) : Ran α := { r with calls := calls ++ r.calls }

namespace Program

def bind : Program α → (α → Program β) → Program β
  | done value, k => k value
  | ask c next, k => ask c fun answer => (next answer).bind k
  | inspect next, k => inspect fun s => (next s).bind k
  | update change next, k => update change (next.bind k)

instance : Monad Program where
  pure := done
  bind := bind

def run (device : Device) (past : List Call) (s : State) : Program α → Ran α
  | done value => ⟨value, s, []⟩
  | ask c next =>
      let rest := (next (device past c)).run device (past ++ [c]) s
      { rest with calls := c :: rest.calls }
  | inspect next => (next s).run device past s
  | update change next => next.run device past (change s)

theorem bind_eq (p : Program α) (k : α → Program β) : p.bind k = (p >>= k) := rfl

@[simp] theorem pure_bind (value : α) (k : α → Program β) : (done value).bind k = k value := rfl

theorem bind_done (p : Program α) : p.bind done = p := by
  induction p with
  | done value => rfl
  | ask c next ih => simp only [bind, ih]
  | inspect next ih => simp only [bind, ih]
  | update change next ih => simp only [bind, ih]

theorem bind_assoc (p : Program α) (k : α → Program β) (l : β → Program γ) :
    (p.bind k).bind l = p.bind fun a => (k a).bind l := by
  induction p with
  | done value => rfl
  | ask c next ih => simp only [bind, ih]
  | inspect next ih => simp only [bind, ih]
  | update change next ih => simp only [bind, ih]

instance : LawfulMonad Program := LawfulMonad.mk' Program bind_done pure_bind bind_assoc

/-- A program is run by running its first part and then, from where that left things,
the second. -/
theorem run_bind (device : Device) (p : Program α) (k : α → Program β) (past : List Call)
    (s : State) :
    (p.bind k).run device past s =
      let first := p.run device past s
      let second := (k first.value).run device (past ++ first.calls) first.state
      { second with calls := first.calls ++ second.calls } := by
  induction p generalizing past s with
  | done value => simp [bind, run]
  | ask c next ih => simp [bind, run, ih]
  | inspect next ih => simp [bind, run, ih]
  | update change next ih => simp [bind, run, ih]

theorem run_map (device : Device) (f : α → β) (p : Program α) (past : List Call) (s : State) :
    (f <$> p).run device past s =
      let ran := p.run device past s
      ⟨f ran.value, ran.state, ran.calls⟩ := by
  change (p.bind fun a => done (f a)).run device past s = _
  simp only [run_bind, run, List.append_nil]

end Program
end Hid.Service
