import Hid.Activation.Registry

/-!
The state that commands share: the controllers that the client accepts, and the
objects that replies have handed out, in the order of creation.
-/

namespace Hid.Service

open Activation (Registry)

/-- An object with commands of its own. -/
inductive Interface where
  /-- The resource of the client for which it was made. -/
  | appletResource (aruid : Int)
  /-- A list of active vibration devices. -/
  | deviceList (registry : Registry)
  deriving DecidableEq, Repr

structure State where
  controllers : Controllers
  interfaces : List Interface
  deriving DecidableEq, Repr

namespace State

def initial : State := ⟨.initial, []⟩

/-- The state with one more object. -/
def add (s : State) (object : Interface) : State :=
  { s with interfaces := s.interfaces ++ [object] }

/-- The registry of the list at a position. Where there is no list, there is no room. -/
def registry (s : State) (position : Nat) : Registry :=
  match s.interfaces[position]? with
  | some (.deviceList registry) => registry
  | _ => ⟨0, []⟩

/-- The state with another registry in the list at a position. -/
def setRegistry (s : State) (position : Nat) (registry : Registry) : State :=
  { s with interfaces := s.interfaces.modify position fun
      | .deviceList _ => .deviceList registry
      | other => other }

/-! ### Objects after a change -/

variable {s : State} {position : Nat} {r : Registry}

theorem registry_eq (found : s.interfaces[position]? = some (.deviceList r)) :
    s.registry position = r := by
  rw [registry, found]

theorem length_setRegistry :
    (s.setRegistry position r).interfaces.length = s.interfaces.length := List.length_modify ..

/-- Another registry in one list is no other object anywhere else. -/
theorem interfaces_setRegistry_of_ne {k : Nat} (other : k ≠ position) :
    (s.setRegistry position r).interfaces[k]? = s.interfaces[k]? :=
  List.getElem?_modify_ne _ _ (Ne.symm other)

theorem interfaces_setRegistry {old : Registry}
    (found : s.interfaces[position]? = some (.deviceList old)) :
    (s.setRegistry position r).interfaces[position]? = some (.deviceList r) := by
  rw [setRegistry, List.getElem?_modify_eq, found]
  rfl

/-- The registry that is in a list already leaves the list as it is. -/
theorem setRegistry_registry : s.setRegistry position (s.registry position) = s := by
  suffices same : (s.setRegistry position (s.registry position)).interfaces = s.interfaces from
    congrArg (State.mk s.controllers) same
  apply List.ext_getElem?
  intro k
  by_cases here : k = position
  · subst here
    cases found : s.interfaces[k]? with
    | none => rw [setRegistry, List.getElem?_modify_eq, found]; rfl
    | some object =>
        cases object with
        | appletResource aruid => rw [setRegistry, List.getElem?_modify_eq, found]; rfl
        | deviceList old => rw [interfaces_setRegistry found, registry_eq found]
  · exact interfaces_setRegistry_of_ne here

/-- A new object is behind the others. -/
theorem interfaces_add_of_lt {object : Interface} {k : Nat} (earlier : k < s.interfaces.length) :
    (s.add object).interfaces[k]? = s.interfaces[k]? := List.getElem?_append_left earlier

theorem interfaces_add {object : Interface} :
    (s.add object).interfaces[s.interfaces.length]? = some object := by
  rw [add, List.getElem?_append_right (Nat.le_refl _), Nat.sub_self]
  rfl

end State
end Hid.Service
