import Hid.Dispatch.Table

/-!
Statistics of a dispatcher: one row per opcode that was requested, in ascending order.
All opcodes outside the table share one row.
-/

namespace Hid.Dispatch

/-- The counts of one row. -/
structure Tally where
  key : Int
  name : String
  handled : Nat := 0
  failed : Nat := 0
  violations : Nat := 0
  deriving DecidableEq, Repr

/-- The key of the row of the opcodes outside the table. -/
def unknownKey : Int := -1

/-- Counts one outcome. -/
def Tally.count (row : Tally) (outcome : Outcome) : Tally :=
  { row with
    handled := row.handled + 1
    failed := row.failed + (if outcome.isFailedReply then 1 else 0)
    violations := row.violations + (if outcome.isViolation then 1 else 0) }

/-- Rows in ascending order of their keys. -/
abbrev Stats := List Tally

namespace Stats

/-- Counts an outcome in the row of a key, which is made where it belongs if it is
not there yet. -/
def record (key : Int) (name : String) (outcome : Outcome) : Stats → Stats
  | [] => [Tally.count { key, name } outcome]
  | row :: rest =>
      if key < row.key then Tally.count { key, name } outcome :: row :: rest
      else if key = row.key then row.count outcome :: rest
      else row :: record key name outcome rest

/-- The row of a key; the sign of a zero does not count. -/
def row? (stats : Stats) (key : Quantity) : Option Tally := stats.find? (.int ·.key == key.plain)

end Stats

namespace Table

variable {m : Type → Type}

/-- The row an opcode is counted in. -/
def statsKey (t : Table m) (opcode : Quantity) : Int :=
  match opcode.plain with
  | .int n => if t.has opcode then n else unknownKey
  | .other _ => unknownKey

def statsName (t : Table m) (opcode : Quantity) : String :=
  match t.lookup? opcode with
  | some c => c.name?.getD ("#" ++ opcode.plain.text)
  | none => "unknown"

/-- Counts the outcome of a request. -/
def count (t : Table m) (opcode : Quantity) (outcome : Outcome) (stats : Stats) : Stats :=
  stats.record (t.statsKey opcode) (t.statsName opcode) outcome

/-- Answers a request and counts its outcome. -/
def handle [Monad m] (t : Table m) (request : Request) (session : Session) (stats : Stats) :
    m (Outcome × Stats) := do
  let outcome ← t.answer request session
  pure (outcome, t.count request.opcode outcome stats)

/-- Of the command of an opcode no more is told in the statistics than its name. -/
theorem count_congr {t t' : Table m} {opcode : Quantity}
    (same : (t.lookup? opcode).map Command.name? = (t'.lookup? opcode).map Command.name?)
    (outcome : Outcome) (stats : Stats) :
    t.count opcode outcome stats = t'.count opcode outcome stats := by
  have has : t.has opcode = t'.has opcode := by
    simpa only [Table.has, Option.isSome_map] using congrArg Option.isSome same
  have key : t.statsKey opcode = t'.statsKey opcode := by
    rw [statsKey, statsKey, has]
  have name : t.statsName opcode = t'.statsName opcode := by
    rw [statsName, statsName]
    cases first : t.lookup? opcode with
    | none =>
        rw [first] at same
        rw [Option.map_eq_none_iff.mp same.symm]
    | some c =>
        rw [first] at same
        obtain ⟨c', second, named⟩ := Option.map_eq_some_iff.mp same.symm
        rw [second]
        dsimp only
        rw [named]
  rw [count, count, key, name]

end Table
end Hid.Dispatch
