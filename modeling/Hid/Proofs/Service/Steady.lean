import Hid.Service.Handler

/-!
Handlers that an error of the device layer ends. A steady handler leaves the state as it is; a
strict one may change it, but only when all its calls are made. Either is said of the tree that
the program is, with one clause for each kind of node.

* `Program.Strict.halts`: a call that fails is the last one, and nothing has happened before it
  but calls.
* `Program.calls_prefix`: device layers that give the same answers to the first calls are asked
  the same call next.
-/

namespace Hid.Service

open Device (Call)

namespace Program

variable {α β : Type}

/-- It makes no calls. -/
def Silent : Program α → Prop
  | done _ => True
  | ask _ _ => False
  | inspect next => ∀ s, (next s).Silent
  | update _ next => next.Silent

/-- An error of the device layer ends it, and what comes after a change of the state is as
told. -/
def Halting (after : Program (Except Failure α) → Prop) : Program (Except Failure α) → Prop
  | done _ => True
  | ask _ next =>
      (∀ failure, next (.error failure) = done (.error failure)) ∧
        ∀ answer, (next (.ok answer)).Halting after
  | inspect next => ∀ s, (next s).Halting after
  | update _ next => after next

/-- An error of the device layer ends it, and it does not change the state. -/
def Steady (p : Program (Except Failure α)) : Prop := p.Halting fun _ => False

/-- An error of the device layer ends it, and it makes no call after it has changed the state. -/
def Strict (p : Program (Except Failure α)) : Prop := p.Halting Silent

theorem Steady.strict {p : Program (Except Failure α)} (steady : p.Steady) : p.Strict := by
  rw [Steady] at steady
  rw [Strict]
  induction p with
  | done found => trivial
  | ask c next ih => exact ⟨steady.1, fun answer => ih (.ok answer) (steady.2 answer)⟩
  | inspect next ih => exact fun s => ih s (steady s)
  | update change next ih => exact steady.elim

theorem Silent.strict {p : Program (Except Failure α)} (silent : p.Silent) : p.Strict := by
  rw [Strict]
  induction p with
  | done found => trivial
  | ask c next ih => exact silent.elim
  | inspect next ih => exact fun s => ih s (silent s)
  | update change next ih => exact silent

/-! ### Steps in a row -/

section Steps

variable {k : α → Handler β}

theorem Silent.bind {p : Program (Except Failure α)} (first : p.Silent)
    (second : ∀ a, (k a).run.Silent) : (p.bind (ExceptT.bindCont k)).Silent := by
  induction p with
  | done found =>
      cases found with
      | error failure => trivial
      | ok a => exact second a
  | ask c next ih => exact first.elim
  | inspect next ih => exact fun s => ih s (first s)
  | update change next ih => exact ih first

/-- What the second step does counts among what comes after a change made by the first. -/
theorem Halting.bind {before : Program (Except Failure α) → Prop}
    {after : Program (Except Failure β) → Prop} {p : Program (Except Failure α)}
    (first : p.Halting before) (second : ∀ a, (k a).run.Halting after)
    (changed : ∀ p : Program (Except Failure α), before p → after (p.bind (ExceptT.bindCont k))) :
    (p.bind (ExceptT.bindCont k)).Halting after := by
  induction p with
  | done found =>
      cases found with
      | error failure => trivial
      | ok a => exact second a
  | ask c next ih =>
      refine ⟨fun failure => ?_, fun answer => ih (.ok answer) (first.2 answer)⟩
      exact congrArg (Program.bind · (ExceptT.bindCont k)) (first.1 failure)
  | inspect next ih => exact fun s => ih s (first s)
  | update change next ih => exact changed next first

end Steps

/-! ### What a run comes to -/

section Runs

variable {device : Device} {past : List Call} {s : State}

theorem Silent.calls_eq {p : Program α} (silent : p.Silent) : (p.run device past s).calls = [] := by
  induction p generalizing s with
  | done value => rfl
  | ask c next ih => exact silent.elim
  | inspect next ih => exact ih s (silent s)
  | update change next ih => exact ih silent

theorem Steady.state_eq {p : Program (Except Failure α)} (steady : p.Steady) :
    (p.run device past s).state = s := by
  rw [Steady] at steady
  induction p generalizing past with
  | done found => rfl
  | ask c next ih =>
      rw [run]
      cases device past c with
      | error failure => rw [steady.1 failure]; rfl
      | ok answer => exact ih (.ok answer) (steady.2 answer)
  | inspect next ih => exact ih s (steady s)
  | update change next ih => exact steady.elim

/-- A call that fails is the last one; the program fails as it did, and the state is as it was. -/
theorem Strict.halts {p : Program (Except Failure α)} (strict : p.Strict) {k : Nat} {c : Call}
    {failure : Failure} (made : (p.run device past s).calls[k]? = some c)
    (failed : device (past ++ (p.run device past s).calls.take k) c = .error failure) :
    (p.run device past s).value = .error failure ∧
      (p.run device past s).calls.length = k + 1 ∧ (p.run device past s).state = s := by
  rw [Strict] at strict
  induction p generalizing past s k with
  | done found => cases made
  | ask first next ih =>
      simp only [run] at made failed ⊢
      cases k with
      | zero =>
          obtain rfl : first = c := Option.some.inj made
          rw [List.take_zero, List.append_nil] at failed
          rw [failed, strict.1 failure]
          exact ⟨rfl, rfl, rfl⟩
      | succ k =>
          cases answered : device past first with
          | error other =>
              -- The first call has failed, so there is no later one.
              rw [answered, strict.1 other] at made
              cases made
          | ok answer =>
              rw [answered] at made failed
              rw [List.take_succ_cons, List.append_cons] at failed
              obtain ⟨value, length, state⟩ := ih (.ok answer) (strict.2 answer) made failed
              exact ⟨value, congrArg (· + 1) length, state⟩
  | inspect next ih => exact ih s (strict s) made failed
  | update change next ih =>
      have silent : next.Silent := strict
      rw [run, silent.calls_eq] at made
      cases made

/-- As long as another device layer has given the same answers, it is asked the same calls. -/
theorem calls_prefix {other : Device} (p : Program α) {k : Nat}
    (agree : ∀ i < k, ∀ c, (p.run device past s).calls[i]? = some c →
      other (past ++ (p.run device past s).calls.take i) c =
        device (past ++ (p.run device past s).calls.take i) c) :
    (p.run device past s).calls.take (k + 1) <+: (p.run other past s).calls := by
  induction p generalizing past s k with
  | done value => exact List.nil_prefix
  | ask first next ih =>
      simp only [run] at agree ⊢
      cases k with
      | zero => exact (List.prefix_cons_inj first).mpr List.nil_prefix
      | succ k =>
          have same : other past first = device past first := by
            have here := agree 0 (Nat.succ_pos k) first rfl
            rwa [List.take_zero, List.append_nil] at here
          rw [same, List.take_succ_cons]
          refine (List.prefix_cons_inj first).mpr (ih _ fun i below c made => ?_)
          have later := agree (i + 1) (Nat.succ_lt_succ below) c made
          rwa [List.take_succ_cons, List.append_cons] at later
  | inspect next ih => exact ih s agree
  | update change next ih => exact ih agree

end Runs

end Program

/-! ### Handlers -/

namespace Handler

variable {α β : Type} {x y : Handler α} {k : α → Handler β}

/-- The handler makes no calls. -/
def Silent (x : Handler α) : Prop := x.run.Silent

/-- An error of the device layer ends the handler, and it does not change the state. -/
def Steady (x : Handler α) : Prop := x.run.Steady

/-- An error of the device layer ends the handler, and it makes no call after it has changed the
state. -/
def Strict (x : Handler α) : Prop := x.run.Strict

theorem Steady.strict (steady : Steady x) : Strict x := Program.Steady.strict steady

theorem Steady.bind (first : Steady x) (second : ∀ a, Steady (k a)) : Steady (x >>= k) :=
  Program.Halting.bind first second fun _ => False.elim

/-- As long as the state has not changed, calls may follow, and then a change. -/
theorem Steady.bind_strict (first : Steady x) (second : ∀ a, Strict (k a)) : Strict (x >>= k) :=
  Program.Halting.bind first second fun _ => False.elim

theorem Strict.ite {c : Prop} [Decidable c] (yes : Strict x) (no : Strict y) :
    Strict (if c then x else y) := by
  split
  case isTrue holds => exact yes
  case isFalse fails => exact no

/-- Once the state may have changed, no call follows. -/
theorem Strict.bind_silent (first : Strict x) (second : ∀ a, Silent (k a)) : Strict (x >>= k) := by
  refine Program.Halting.bind first (fun a => ?_) fun p silent => silent.bind second
  exact Program.Silent.strict (second a)

end Handler
end Hid.Service
