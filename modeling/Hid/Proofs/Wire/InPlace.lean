import Hid.Wire.InPlace

/-!
What operations in place come to. Each is the operation that gives a new cursor or a fault, and
where there is no new cursor the old one stays, whatever field, value and cursor there are
(`Field.pull_run`, `Field.push_run`): no step before the one that fails has changed anything.
-/

namespace Hid.Wire

/-- What comes of an operation that gives a new cursor or none: if none, the old one stays. -/
def settle (cursor : σ) : Except Fault (α × σ) → EStateM.Result Fault σ α
  | .ok (found, next) => .ok found next
  | .error fault => .error fault cursor

namespace InPlace

variable {op : InPlace σ α} {cursor next : σ} {found : α} {fault : Fault}

theorem after_of_ok (ran : op.run cursor = .ok found next) : op.after cursor = next := by
  rw [after, ran]

theorem after_of_error (ran : op.run cursor = .error fault next) : op.after cursor = next := by
  rw [after, ran]

end InPlace

namespace Reader

theorem pullScalar_run (r : Reader) (width : Nat) :
    (pullScalar width).run r = settle r (r.scalar width) := by
  simp only [pullScalar, fetch, EStateM.run_bind, EStateM.run_get, scalar]
  cases r.position.offset? with
  | none => rfl
  | some start =>
      by_cases inside : start + width ≤ r.block.length
      case pos =>
        simp only [if_pos inside]
        rfl
      case neg =>
        simp only [if_neg inside]
        rfl

theorem pullBytes_run (r : Reader) (count : Quantity) :
    (pullBytes count).run r = settle r (r.take count) := by
  simp only [pullBytes, EStateM.run_bind, EStateM.run_get, take]
  split <;> rfl

theorem pullGap_run (r : Reader) (count : Quantity) :
    (pullGap count).run r = settle r ((r.skip count).map ((), ·)) := by
  simp only [pullGap, EStateM.run_bind, EStateM.run_get, skip]
  split <;> rfl

end Reader

namespace Writer

variable (w : Writer)

theorem store_run (bytes : Bytes) (outside : Fault) :
    (store bytes outside >>= fun _ => modify (·.advance (bytes.length : Quantity))).run w =
      match w.place? bytes with
      | some next => .ok () next
      | none => .error outside w := by
  simp only [store, place?, EStateM.run_bind, EStateM.run_get]
  cases w.position.offset? with
  | none => rfl
  | some start =>
      by_cases inside : start + bytes.length ≤ w.size
      case pos =>
        simp only [Option.bind_eq_bind, Option.bind_some, if_pos inside]
        rfl
      case neg =>
        simp only [Option.bind_eq_bind, Option.bind_some, if_neg inside]
        rfl

theorem pushScalar_run (bytes : Bytes) :
    (pushScalar bytes).run w = settle w ((w.scalar bytes).map ((), ·)) := by
  rw [pushScalar, store_run, scalar]
  cases w.place? bytes <;> rfl

theorem pushBytes_run (bytes : Bytes) :
    (pushBytes bytes).run w = settle w ((w.put bytes).map ((), ·)) := by
  rw [pushBytes, EStateM.run_bind, EStateM.run_get, put]
  dsimp only
  split
  case isTrue => rfl
  case isFalse =>
    rw [store_run]
    cases w.place? bytes <;> rfl

theorem pushGap_run (count : Quantity) :
    (pushGap count).run w = settle w ((w.pad count).map ((), ·)) := by
  simp only [pushGap, EStateM.run_bind, EStateM.run_get, pad]
  split <;> rfl

theorem close_run : close.run w = settle w (w.finish.map (·, w)) := by
  simp only [close, EStateM.run_bind, EStateM.run_get, finish]
  split <;> rfl

theorem after_close : Writing.close.perform.after w = w := by
  simp only [InPlace.after, Writing.perform, EStateM.run_bind, close_run]
  cases w.finish <;> rfl

end Writer

namespace Field

/-- A read in place is a read, and the reader stays as it was if that fails. -/
theorem pull_run (f : Field) (r : Reader) : f.pull.run r = settle r (f.read r) := by
  cases f with
  | bytes count =>
      simp only [pull, fetch, read, EStateM.run_bind, Reader.pullBytes_run]
      cases r.take count <;> rfl
  | pad count =>
      simp only [pull, fetch, read, EStateM.run_bind, Reader.pullGap_run]
      cases r.skip count <;> rfl
  | unsigned | signed | flag | single =>
      simp only [pull, fetch, read, EStateM.run_bind, Reader.pullScalar_run]
      cases r.scalar _ <;> rfl

/-- A write in place is a write, and the writer stays as it was if that fails. -/
theorem push_run (f : Field) (v : f.Value) (w : Writer) :
    (f.push v).run w = settle w ((f.write v w).map ((), ·)) := by
  cases f with
  | bytes count => exact w.pushBytes_run v
  | pad count => exact w.pushGap_run count
  | unsigned | signed | flag | single => exact w.pushScalar_run _

end Field

end Hid.Wire
