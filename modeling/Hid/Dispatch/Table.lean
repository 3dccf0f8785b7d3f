import Hid.Dispatch.Command

/-!
Command tables: commands by opcode. A table is built from declared opcodes, each of
which must be a 32-bit word that no earlier one took. An opcode outside the table
stands for a nameless command that nothing is bound to. The sign of a zero does not
count, neither where a table is built nor where it is asked.
-/

namespace Hid.Dispatch

structure Table (m : Type → Type) where
  name : String
  rows : List (Int × Command m)

namespace Table

/-- Why a declaration cannot enter a table. -/
inductive Refusal where
  | notWord (table : String) (opcode : Quantity)
  | repeated (table : String) (opcode : Quantity)
  deriving DecidableEq, Repr

def Refusal.message : Refusal → String
  | notWord table opcode =>
      table ++ ": opcode " ++ opcode.text ++ " is not a 32-bit unsigned integer"
  | repeated table opcode => table ++ ": opcode " ++ opcode.text ++ " registered twice"

variable {m : Type → Type}

/-- The command of an opcode; what is no integer is no opcode of a table. -/
def lookup? (t : Table m) (opcode : Quantity) : Option (Command m) :=
  match opcode.plain with
  | .int n => t.rows.lookup n
  | .other _ => none

/-- The command that answers an opcode. -/
def lookup (t : Table m) (opcode : Quantity) : Command m :=
  (t.lookup? opcode).getD (.unimplemented none)

def has (t : Table m) (opcode : Quantity) : Bool := (t.lookup? opcode).isSome

def size (t : Table m) : Nat := t.rows.length

/-- The opcodes in ascending order. -/
def opcodes (t : Table m) : List Int := (t.rows.map (·.1)).mergeSort

/-- The commands in the order of their opcodes. -/
def entries (t : Table m) : List (Int × Command m) :=
  t.opcodes.filterMap fun opcode => (t.lookup? (.int opcode)).map (opcode, ·)

/-- The 32-bit word that an opcode must be. -/
def word? : Quantity → Option Int
  | .int n => if 0 ≤ n ∧ n ≤ 0xffffffff then some n else none
  | .other _ => none

/-- Adds one declaration behind the rows a table has. -/
def declare (t : Table m) (opcode : Quantity) (c : Command m) : Except Refusal (Table m) :=
  match word? opcode with
  | none => .error (.notWord t.name opcode)
  | some n =>
      if t.has n then .error (.repeated t.name opcode)
      else .ok { t with rows := t.rows ++ [(n, c)] }

/-- The table of a list of declarations; the first that cannot enter decides. -/
def ofList (name : String) : List (Quantity × Command m) → Except Refusal (Table m) :=
  go ⟨name, []⟩
where
  go (t : Table m) : List (Quantity × Command m) → Except Refusal (Table m)
    | [] => .ok t
    | (opcode, c) :: rest =>
        match t.declare opcode c with
        | .error refusal => .error refusal
        | .ok t => go t rest

/-- The table of declarations whose opcodes are numbers of any kind. -/
def build (name : String) (declared : List (Quantity × Command m)) : Except Refusal (Table m) :=
  ofList name (declared.map fun d => (d.1.plain, d.2))

/-- The entry of a number. One outside the table stands for itself, and nothing is bound to it. -/
def entry (t : Table m) (opcode : Quantity) : Quantity × Command m :=
  match t.lookup? opcode with
  | some c => (opcode.plain, c)
  | none => (opcode, .unimplemented none)

/-- The outcome of a request, whose command goes by the opcode of its entry. -/
def answer [Monad m] (t : Table m) (request : Request) (session : Session) : m Outcome :=
  let (opcode, c) := t.entry request.opcode
  c.answer opcode request session

/-! ### What is looked up -/

@[simp] theorem lookup?_plain (t : Table m) (opcode : Quantity) :
    t.lookup? opcode.plain = t.lookup? opcode := by
  rw [lookup?, lookup?, Quantity.plain_plain]

theorem lookup_eq_entry (t : Table m) (opcode : Quantity) :
    t.lookup opcode = (t.entry opcode).2 := by
  rw [lookup, entry]
  cases t.lookup? opcode with
  | none => rfl
  | some c => rfl

theorem mem_rows_of_lookup? {t : Table m} {n : Int} {c : Command m}
    (entry : t.lookup? (.int n) = some c) : (n, c) ∈ t.rows := by
  rw [lookup?, Quantity.plain_int] at entry
  obtain ⟨before, after, split, -⟩ := List.lookup_eq_some_iff.mp entry
  rw [split]
  exact List.mem_append_right before List.mem_cons_self

/-- A command that is looked up is one of the table, and its opcode is an integer. -/
theorem exists_mem_rows {t : Table m} {opcode : Quantity} {c : Command m}
    (entry : t.lookup? opcode = some c) : ∃ n : Int, opcode.plain = .int n ∧ (n, c) ∈ t.rows := by
  cases plain : opcode.plain with
  | int n =>
      rw [← lookup?_plain, plain] at entry
      exact ⟨n, rfl, mem_rows_of_lookup? entry⟩
  | other x =>
      rw [lookup?, plain] at entry
      cases entry

/-- A command of the table answers by the opcode it stands under. -/
theorem answer_of_some [Monad m] {t : Table m} {request : Request} {c : Command m}
    (entry : t.lookup? request.opcode = some c) (session : Session) :
    t.answer request session = c.answer request.opcode.plain request session := by
  rw [answer, Table.entry, entry]

theorem answer_of_none [Monad m] {t : Table m} {request : Request}
    (entry : t.lookup? request.opcode = none) (session : Session) :
    t.answer request session = pure (.reply { result := .notSupported }) := by
  rw [answer, Table.entry, entry]
  rfl

end Table
end Hid.Dispatch
