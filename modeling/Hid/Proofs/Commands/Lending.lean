import Hid.Commands.Palma
import Hid.Commands.SixAxis
import Hid.Proofs.Commands.Managed
import Hid.Proofs.Service.Asking
import Hid.Proofs.Service.Caution

/-!
Commands that take memory which the client lends, against a device layer that answers every call.
Such a command checks the request in a fixed order (`Loan.demands`), and the first check that fails
decides what the client is told; until then memory is looked up and no device is asked
(`Obeys`). The two commands that do so obey their checks (`obeys_setUpSevenSixAxis`,
`obeys_writeWaveEntry`).
-/

namespace Hid.Commands

open Device (Call TransferMemory)
open Dispatch (Context Transfer)
open Service Service.Handler
open Wire (Bytes Shape numberAt)

/-! ### Checks in order -/

/-- What a client is told whose request fails a check: a violation, or the bare unspecific reply. -/
inductive Told where
  | violation (reason : Violation.Reason)
  | bare
  deriving DecidableEq, Repr

/-- A check on a request. -/
structure Check where
  holds : Prop
  told : Told

/-- The first of the checks that fails tells the client. -/
inductive FirstFailing : List Check → Told → Prop where
  | here {check : Check} {rest : List Check} (fails : ¬ check.holds) :
      FirstFailing (check :: rest) check.told
  | later {check : Check} {rest : List Check} {told : Told} (holds : check.holds)
      (further : FirstFailing rest told) : FirstFailing (check :: rest) told

theorem firstFailing_or_holds (checks : List Check) :
    (∃ told, FirstFailing checks told) ∨ ∀ check ∈ checks, check.holds := by
  induction checks with
  | nil => exact .inr nofun
  | cons check rest ih =>
      by_cases holds : check.holds
      case neg => exact .inl ⟨check.told, .here holds⟩
      case pos =>
        rcases ih with ⟨told, further⟩ | others
        · exact .inl ⟨told, .later holds further⟩
        · exact .inr (List.forall_mem_cons.mpr ⟨holds, others⟩)

/-- What a handler ends with that tells the client so. -/
def Told.Ends : Told → Except Failure ResultCode → Prop
  | violation reason, value => ∃ v, value = .error (.violation v) ∧ v.reason = reason
  | bare, value => value = .ok .unknown

/-- The run of a handler obeys the checks: if one fails, it ends with what the first of these tells,
and has looked up memory at most; if all hold, it succeeds, and its calls are as described. -/
structure Obeys (r : Ran (Except Failure ResultCode)) (checks : List Check)
    (Done : List Call → Prop) : Prop where
  refuses : ∀ told, FirstFailing checks told → told.Ends r.value ∧ ∀ c ∈ r.calls, c.IsLookUp
  grants : (∀ check ∈ checks, check.holds) → r.value = .ok .success ∧ Done r.calls

section Steps

variable {α : Type} {c : Context α} {answers : Answerer} {past : List Call} {s : State}
  {r : Ran (Except Failure ResultCode)} {check : Check} {checks : List Check}
  {Done : List Call → Prop}

theorem obeys_nil (value : r.value = .ok .success) (done : Done r.calls) : Obeys r [] Done :=
  ⟨nofun, fun _ => ⟨value, done⟩⟩

/-- A run that ends without a call if a check fails, and obeys the others if it holds, obeys all. -/
theorem obeys_cons (fails : ¬ check.holds → check.told.Ends r.value ∧ r.calls = [])
    (passes : check.holds → Obeys r checks Done) : Obeys r (check :: checks) Done := by
  constructor
  · intro told failing
    cases failing with
    | here failed =>
        obtain ⟨ends, none⟩ := fails failed
        rw [none]
        exact ⟨ends, fun c called => absurd called List.not_mem_nil⟩
    | later holds further => exact (passes holds).refuses told further
  · intro all
    obtain ⟨holds, others⟩ := List.forall_mem_cons.mp all
    exact (passes holds).grants others

/-- A look-up before the run makes no difference to what it obeys. -/
theorem Obeys.after_lookUp {handle : Quantity}
    (obeys : Obeys r checks fun calls => Done (.getTransferMemory handle :: calls)) :
    Obeys (r.after [.getTransferMemory handle]) checks Done := by
  constructor
  · intro told failing
    obtain ⟨ends, lookUps⟩ := obeys.refuses told failing
    exact ⟨ends, List.forall_mem_cons.mpr ⟨⟨handle, rfl⟩, lookUps⟩⟩
  · exact obeys.grants

/-- A demand checks its condition. -/
theorem obeys_demand {holds condition : Prop} [Decidable condition] {detail : String}
    {expected actual : Quantity} {k : Unit → Handler ResultCode} (same : holds ↔ condition)
    (rest : holds → Obeys ((k ()).ran (answering answers) past s) checks Done) :
    Obeys ((attempt (c.demand (decide condition) detail expected actual) >>= k).ran
      (answering answers) past s) (⟨holds, .violation .contract⟩ :: checks) Done := by
  apply obeys_cons
  · intro fails
    obtain ⟨v, broken, reason⟩ : ∃ v, c.demand (decide condition) detail expected actual =
        .error (.violation v) ∧ v.reason = .contract := by
      rw [decide_eq_false (mt same.mpr fails)]
      exact ⟨_, rfl, rfl⟩
    rw [ran_attempt_error broken]
    exact ⟨⟨v, rfl, reason⟩, rfl⟩
  · intro met
    rw [ran_attempt_ok (demand_eq_ok_iff.mpr (decide_eq_true (same.mp met)))]
    exact rest met

/-- Memory is looked up behind a handle that is checked to be a copied one. -/
theorem obeys_lentMemory {i : Nat} {t : Transfer} {k : Option TransferMemory → Handler ResultCode}
    (here : c.request.handles[i]? = some t)
    (rest : Obeys ((k (answers past (.getTransferMemory t.handle))).ran (answering answers)
      (past ++ [.getTransferMemory t.handle]) s) checks
      fun calls => Done (.getTransferMemory t.handle :: calls)) :
    Obeys ((lentMemory c i >>= k).ran (answering answers) past s)
      (⟨t.mode = .copy, .violation .handleCount⟩ :: checks) Done := by
  have item : Dispatch.item? c.request.handles (i : Quantity) = some t := by
    rw [Dispatch.item?_natCast, here]
  rw [lentMemory, bind_assoc]
  apply obeys_cons
  · intro fails
    have moved : t.mode = .move := by
      cases mode : t.mode with
      | copy => exact absurd mode fails
      | move => rfl
    obtain ⟨v, broken, reason⟩ : ∃ v, c.copyHandle i = .error (.violation v) ∧
        v.reason = .handleCount := by
      rw [Context.copyHandle, item]
      obtain ⟨mode, handle⟩ := t
      obtain rfl : mode = .move := moved
      exact ⟨_, rfl, rfl⟩
    rw [ran_attempt_error broken]
    exact ⟨⟨v, rfl, reason⟩, rfl⟩
  · intro copied
    have found : c.copyHandle i = .ok t.handle := by
      rw [Context.copyHandle, item]
      obtain ⟨mode, handle⟩ := t
      obtain rfl : mode = .copy := copied
      rfl
    have answered : answering answers past (.getTransferMemory t.handle) =
        .ok (answers past (.getTransferMemory t.handle)) := rfl
    rw [ran_attempt_ok found, ran_ask_ok answered]
    exact rest.after_lookUp

end Steps

/-! ### Loans -/

/-- A command that takes memory from the client. -/
structure Loan where
  opcode : Int
  name : String
  /-- The parameter block. -/
  shape : Shape
  /-- For each memory, where the block declares its size, and what the size has to be. -/
  sizes : List (Nat × Nat)
  /-- What is called with the first of the memories. -/
  uses : Bytes → TransferMemory → List Call

/-- What is found behind handles that are looked up one after the other. -/
def lentTo (answers : Answerer) (past : List Call) : List Transfer → List (Option TransferMemory)
  | [] => []
  | t :: rest =>
      let lookUp : Call := .getTransferMemory t.handle
      answers past lookUp :: lentTo answers (past ++ [lookUp]) rest

/-- The handler's checks: every size is declared as required, every handle is a copied one, there is
memory behind each, and it has the size. -/
def Loan.demands (l : Loan) (block : Bytes) (handles : List Transfer) (answers : Answerer) :
    List Check :=
  let lent := lentTo answers [] handles
  l.sizes.map (fun (offset, size) => ⟨numberAt offset 8 block = size, .violation .contract⟩) ++
  handles.map (fun t => ⟨t.mode = .copy, .violation .handleCount⟩) ++
  ⟨∀ memory? ∈ lent, memory?.isSome = true, .bare⟩ ::
  (lent.zip l.sizes).map fun (memory?, _, size) =>
    ⟨∀ memory ∈ memory?, memory.size = (size : Quantity), .violation .contract⟩

/-- All checks of a request: the number of handles and the size of the block come before those of
the handler. -/
def Loan.checks (l : Loan) (block : Bytes) (handles : List Transfer) (answers : Answerer) :
    List Check :=
  ⟨handles.length = l.sizes.length, .violation .handleCount⟩ ::
  ⟨block.length = l.shape.layout.size, .violation .parameterSize⟩ ::
  l.demands block handles answers

/-- The calls of a request that has passed the checks: all handles are looked up, and the first of
the memories is used. -/
def Loan.Done (l : Loan) (block : Bytes) (handles : List Transfer) (answers : Answerer)
    (calls : List Call) : Prop :=
  ∃ memory, (lentTo answers [] handles).head? = some (some memory) ∧
    calls = (handles.map fun t => .getTransferMemory t.handle) ++ l.uses block memory

/-- The seven six-axis sensor is set up with two memories, of which the first is handed on. -/
def sevenLoan : Loan where
  opcode := 306
  name := "InitializeSevenSixAxisSensor"
  shape := .sevenSixAxisBuffers
  sizes := [(8, Limits.workBufferSize), (16, Limits.lifoBufferSize)]
  uses := fun _ work =>
    [.activate .consoleSixAxis, .activate .sevenSixAxis, .setTransferMemory work]

/-- The data of a wave comes in one memory. Of its own size, at the end of the block, nothing is
demanded. -/
def waveLoan : Loan where
  opcode := 515
  name := "WritePalmaWaveEntry"
  shape := .palmaWaveEntry
  sizes := [(24, Limits.waveEntryMemorySize)]
  uses := fun block memory => [.palma (.writeWaveEntry ⟨numberAt 0 4 block⟩ (numberAt 8 8 block)
    memory (numberAt 24 8 block))]

section Loans

variable {answers : Answerer} {s : State} {block : Bytes}

/-- Memory that is there has the size if it has. -/
theorem size_iff {memory? : Option TransferMemory} {memory : TransferMemory} {size : Quantity}
    (found : memory? = some memory) : (∀ m ∈ memory?, m.size = size) ↔ memory.size = size := by
  subst found
  simp only [Option.mem_def, Option.some.injEq, forall_eq']

theorem obeys_setUpSevenSixAxis {c : Context SevenSixAxisBuffers}
    (read : c.parameters = ⟨numberAt 0 8 block, numberAt 8 8 block, numberAt 16 8 block⟩)
    (two : c.request.handles.length = 2) :
    Obeys ((setUpSevenSixAxis c).ran (answering answers) [] s)
      (sevenLoan.demands block c.request.handles answers)
      (sevenLoan.Done block c.request.handles answers) := by
  obtain ⟨first, second, both⟩ := List.length_eq_two.mp two
  rw [setUpSevenSixAxis, read, both]
  refine obeys_demand Iff.rfl fun _ => obeys_demand Iff.rfl fun _ => ?_
  refine obeys_lentMemory (congrArg (·[0]?) both) (obeys_lentMemory (congrArg (·[1]?) both) ?_)
  dsimp only
  split
  case h_1 work lifo workFound lifoFound =>
    have lent : lentTo answers [] [first, second] = [some work, some lifo] := by
      change [_, _] = _
      rw [← workFound, ← lifoFound]
    refine obeys_cons (fun missing => absurd ?resolved missing) fun _ =>
      obeys_demand ?workSize fun _ => obeys_demand ?lifoSize fun _ =>
        obeys_nil rfl ⟨work, ?first, rfl⟩
    case resolved =>
      change ∀ memory? ∈ lentTo answers [] [first, second], _
      rw [lent]
      simp
    case workSize => exact size_iff workFound
    case lifoSize => exact size_iff lifoFound
    case first => rw [lent]; rfl
  case h_2 unresolved =>
    refine obeys_cons (fun _ => ⟨rfl, rfl⟩) fun found => ?_
    obtain ⟨work, workFound⟩ := Option.isSome_iff_exists.mp (found _ List.mem_cons_self)
    obtain ⟨lifo, lifoFound⟩ := Option.isSome_iff_exists.mp
      (found _ (List.mem_cons_of_mem _ List.mem_cons_self))
    exact (unresolved work lifo workFound lifoFound).elim

theorem obeys_writeWaveEntry {c : Context PalmaWaveEntry} (read : c.parameters =
      ⟨⟨numberAt 0 4 block⟩, numberAt 8 8 block, numberAt 16 8 block, numberAt 24 8 block,
        numberAt 32 8 block⟩) (one : c.request.handles.length = 1) :
    Obeys ((writeWaveEntry c).ran (answering answers) [] s)
      (waveLoan.demands block c.request.handles answers)
      (waveLoan.Done block c.request.handles answers) := by
  obtain ⟨only, single⟩ := List.length_eq_one_iff.mp one
  rw [writeWaveEntry, read, single]
  refine obeys_demand Iff.rfl fun _ => obeys_lentMemory (congrArg (·[0]?) single) ?_
  dsimp only
  split
  case h_1 unresolved =>
    refine obeys_cons (fun _ => ⟨rfl, rfl⟩) fun found => ?_
    obtain ⟨memory, memoryFound⟩ := Option.isSome_iff_exists.mp (found _ List.mem_cons_self)
    cases unresolved.symm.trans memoryFound
  case h_2 memory memoryFound =>
    have lent : lentTo answers [] [only] = [some memory] := by
      change [_] = _
      rw [← memoryFound]
    refine obeys_cons (fun missing => absurd ?resolved missing) fun _ =>
      obeys_demand (size_iff memoryFound) fun _ => obeys_nil rfl ⟨memory, ?first, rfl⟩
    case resolved =>
      change ∀ memory? ∈ lentTo answers [] [only], _
      rw [lent]
      simp
    case first => rw [lent]; rfl

end Loans
end Hid.Commands
