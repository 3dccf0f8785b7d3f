/-!
A queue that lets one item be in hand at a time and serves the others in the order in
which they came. It is busy from the moment it takes an item until it looks for the next
one and finds none, so between two items it is busy with nothing in hand.
-/

namespace Hid.Queue

/-- Whose turn it is. -/
inductive Turn (σ : Type) where
  | idle
  /-- An item is in hand, in the given state. -/
  | held (item : σ)
  /-- The item that was in hand is settled, and the queue has not looked for another. -/
  | between
  deriving DecidableEq, Repr

structure Serial (σ τ : Type) where
  turn : Turn σ
  waiting : List τ
  deriving DecidableEq, Repr

namespace Serial

variable {σ τ : Type}

def idle : Serial σ τ := ⟨.idle, []⟩

def busy (q : Serial σ τ) : Bool :=
  match q.turn with
  | .idle => false
  | _ => true

/-- How many items have not been taken in hand. -/
def pending (q : Serial σ τ) : Nat := q.waiting.length

/-- Lines an item up behind all others. -/
def enqueue (q : Serial σ τ) (item : τ) : Serial σ τ :=
  { q with waiting := q.waiting ++ [item] }

def withTurn (q : Serial σ τ) (turn : Turn σ) : Serial σ τ := { q with turn := turn }

/-- No item is left waiting at a queue that is idle. -/
def Awake (q : Serial σ τ) : Prop := q.turn = .idle → q.waiting = []

@[simp] theorem turn_enqueue (q : Serial σ τ) (item : τ) : (q.enqueue item).turn = q.turn := rfl

@[simp] theorem waiting_enqueue (q : Serial σ τ) (item : τ) :
    (q.enqueue item).waiting = q.waiting ++ [item] := rfl

@[simp] theorem turn_withTurn (q : Serial σ τ) (turn : Turn σ) : (q.withTurn turn).turn = turn :=
  rfl

@[simp] theorem waiting_withTurn (q : Serial σ τ) (turn : Turn σ) :
    (q.withTurn turn).waiting = q.waiting := rfl

@[simp] theorem busy_eq_false {q : Serial σ τ} : q.busy = false ↔ q.turn = .idle := by
  unfold busy
  split <;> simp_all

end Serial
end Hid.Queue
