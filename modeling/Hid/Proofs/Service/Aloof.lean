import Hid.Proofs.Dispatch.Decision
import Hid.Proofs.Service.Confinement
import Hid.Service.Traffic

/-!
What a request does to the accepted ids while others are under way. Between two calls of a request
anything may happen to the state, so that its runs by itself do not tell; what is said here is said
of the tree that its program is, whatever it finds there. A program is aloof if it leaves the ids
alone and does not ask the device layer to accept any. An honest one may do no more than to ask that
first, and to take over the ids, which is its last step, if the device layer has taken them.

* `Program.Honest.advance`, `Program.Honest.answered`: what honest programs do from one call to the
  next.
-/

namespace Hid

/-- The accepted controllers once ids are set: those of the ids that are taken, if any are. -/
def Controllers.after (c : Controllers) : Option (List Int) → Controllers
  | some ids => .ofList (ids.map .int)
  | none => c

end Hid

namespace Hid.Device

/-- The ids that the device layer is asked to accept. -/
def Call.ids? : Call → Option (List Int)
  | .npad (.setIds _ ids) => some ids
  | _ => none

/-- The ids that the device layer has taken, if the answer says that. -/
def Call.taken? : (c : Call) → Except Failure c.Answer → Option (List Int)
  | .npad (.setIds _ ids), .ok code => if ResultCode.isSuccess code then some ids else none
  | _, _ => none

/-- What is taken was asked for. -/
theorem Call.ids?_of_taken? {c : Call} {answer : Except Failure c.Answer} {ids : List Int}
    (taken : c.taken? answer = some ids) : c.ids? = some ids := by
  unfold taken? at taken
  split at taken
  case h_1 aruid asked code =>
      split at taken
      case isTrue success => exact taken
      case isFalse failed => cases taken
  case h_2 => cases taken

end Hid.Device

namespace Hid.Service

open Device (Call)
open Dispatch (Command Context Request Session Table)
open Wire (Layout)

namespace Program

variable {α β : Type}

/-- Whatever happens to the state meanwhile, it leaves the accepted ids alone and asks the device
layer to accept none. -/
def Aloof : Program α → Prop
  | done _ => True
  | ask c next => c.ids? = none ∧ ∀ answer, (next answer).Aloof
  | inspect next => ∀ s, (next s).Aloof
  | update change next => (∀ s, (change s).controllers = s.controllers) ∧ next.Aloof

/-- The last step after ids are set: they replace the accepted ones if they are taken. -/
def replacing (taken : Option (List Int)) (value : α) : Program α :=
  match taken with
  | some ids => update (fun s => { s with controllers := .ofList (ids.map .int) }) (done value)
  | none => done value

/-- It is aloof, or all it does is to set ids. -/
inductive Honest : Program α → Prop
  | aloof {p : Program α} (aloof : p.Aloof) : Honest p
  | sets {c : Call} {next : Except Failure c.Answer → Program α} (asks : c.ids?.isSome = true)
      (replaces : ∀ answer, ∃ value, next answer = replacing (c.taken? answer) value) :
      Honest (ask c next)

theorem Aloof.bind {p : Program α} {k : α → Program β} (first : p.Aloof)
    (second : ∀ a, (k a).Aloof) : (p.bind k).Aloof := by
  induction p with
  | done value => exact second value
  | ask c next ih => exact ⟨first.1, fun answer => ih answer (first.2 answer)⟩
  | inspect next ih => exact fun s => ih s (first s)
  | update change next ih => exact ⟨first.1, ih first.2⟩

/-- An honest program may end in another value. -/
theorem Honest.bind {p : Program α} {k : α → Program β} (honest : p.Honest)
    (ends : ∀ a, ∃ b, k a = done b) : (p.bind k).Honest := by
  cases honest with
  | aloof aloof =>
      refine .aloof (aloof.bind fun a => ?_)
      obtain ⟨b, same⟩ := ends a
      rw [same]
      trivial
  | @sets c next asks replaces =>
      refine .sets asks fun answer => ?_
      obtain ⟨a, same⟩ := replaces answer
      obtain ⟨b, last⟩ := ends a
      refine ⟨b, ?_⟩
      rw [same]
      cases c.taken? answer with
      | none => exact last
      | some ids => exact congrArg (update _) last

end Program

/-! ### From one call to the next -/

/-- What a program still does. -/
def Stand.program {α : Type} : Stand α → Program α
  | done value => .done value
  | waiting c next => .ask c next

namespace Program

variable {α : Type}

theorem Aloof.advance {p : Program α} (aloof : p.Aloof) (s : State) :
    (p.advance s).1.controllers = s.controllers ∧ (p.advance s).2.program.Aloof := by
  induction p generalizing s with
  | done value => exact ⟨rfl, trivial⟩
  | ask c next ih => exact ⟨rfl, aloof⟩
  | inspect next ih => exact ih s (aloof s) s
  | update change next ih =>
      obtain ⟨kept, later⟩ := ih aloof.2 (change s)
      exact ⟨kept.trans (aloof.1 s), later⟩

/-- Up to its first call an honest program leaves the accepted ids alone. -/
theorem Honest.advance {p : Program α} (honest : p.Honest) (s : State) :
    (p.advance s).1.controllers = s.controllers ∧ (p.advance s).2.program.Honest := by
  cases honest with
  | aloof aloof =>
      obtain ⟨kept, later⟩ := aloof.advance s
      exact ⟨kept, .aloof later⟩
  | sets asks replaces => exact ⟨rfl, .sets asks replaces⟩

/-- After the answer to a call, an honest program takes over the ids that were taken. If it waits
again, none were taken, and it does not ask for any. -/
theorem Honest.answered {c : Call} {next : Except Failure c.Answer → Program α}
    (honest : (ask c next).Honest) (answer : Except Failure c.Answer) (s : State) :
    let went := (next answer).advance s
    went.1.controllers = s.controllers.after (c.taken? answer) ∧ went.2.program.Honest ∧
      ∀ c' next', went.2 = .waiting c' next' → c.taken? answer = none ∧ c'.ids? = none := by
  cases honest with
  | aloof aloof =>
      have untaken : c.taken? answer = none := by
        cases taken : c.taken? answer with
        | none => rfl
        | some ids =>
            have asked := Call.ids?_of_taken? taken
            rw [aloof.1] at asked
            cases asked
      obtain ⟨kept, later⟩ := (aloof.2 answer).advance s
      rw [untaken]
      refine ⟨kept, .aloof later, fun c' next' waits => ⟨rfl, ?_⟩⟩
      rw [waits] at later
      exact later.1
  | sets asks replaces =>
      obtain ⟨value, same⟩ := replaces answer
      rw [same]
      cases c.taken? answer with
      | none => exact ⟨rfl, .aloof trivial, fun c' next' waits => ⟨rfl, by cases waits⟩⟩
      | some ids =>
          refine ⟨rfl, .aloof trivial, fun c' next' waits => ?_⟩
          cases waits

end Program

/-! ### Handlers and commands -/

namespace Handler

variable {α : Type} {x : Handler α}

/-- The handler is aloof. -/
def Aloof (x : Handler α) : Prop := x.run.Aloof

/-- The change leaves the accepted ids alone. -/
def SparesIds (change : State → State) : Prop := ∀ s, (change s).controllers = s.controllers

/-- A handler is aloof that is put together from calls and changes that do not concern ids. -/
theorem Limited.aloof (limited : Limited (·.ids? = none) SparesIds x) : Aloof x := by
  induction limited with
  | pure a => trivial
  | state => exact fun s => trivial
  | attempt e => trivial
  | ask unasked => exact ⟨unasked, fun answer => trivial⟩
  | change kept => exact ⟨kept, trivial⟩
  | bind first second ihFirst ihSecond =>
      refine ihFirst.bind fun found => ?_
      cases found with
      | error failure => trivial
      | ok a => exact ihSecond a

end Handler

/-- Whatever the command gets, its handler is honest. -/
def Honest (c : Command Program) : Prop :=
  match c with
  | .implemented d => ∀ context, (d.handler context).run.Honest
  | .stubbed _ | .unimplemented _ => True

theorem Limited.honest {c : Command Program}
    (limited : Limited (·.ids? = none) Handler.SparesIds c) :
    Honest c := by
  cases c with
  | implemented d => exact fun context => .aloof (limited context).aloof
  | stubbed s => trivial
  | unimplemented name => trivial

theorem honest_contextual {α : Type} {name : String} {parameters : Layout α} {handleCount : Nat}
    {handler : Context α → Handler ResultCode} (honest : ∀ c, (handler c).run.Honest) :
    Honest (contextual name parameters handleCount handler) := by
  refine fun c => (honest c).bind fun found => ?_
  cases found with
  | error failure => exact ⟨_, rfl⟩
  | ok code => exact ⟨_, rfl⟩

/-- The program that serves a request is done at once, or it is a handler of the table with what is
made of its end. -/
theorem answer_cases (t : Table Program) (request : Request) (session : Session) :
    (∃ outcome, t.answer request session = .done outcome) ∨
      ∃ row ∈ t.rows, ∃ d, row.2 = .implemented d ∧
        ∃ context, ∃ conclude : Except Failure (Dispatch.Reply d.Output) → Dispatch.Outcome,
          t.answer request session = (d.handler context).run.bind (.done <| conclude ·) := by
  cases entry : t.lookup? request.opcode with
  | none => exact .inl ⟨_, Table.answer_of_none entry session⟩
  | some c =>
      rw [Table.answer_of_some entry]
      obtain ⟨n, -, among⟩ := Table.exists_mem_rows entry
      cases c with
      | unimplemented name => exact .inl ⟨_, rfl⟩
      | stubbed s => exact .inl ⟨_, rfl⟩
      | implemented d =>
          rcases d.answer_cases request session with
            ⟨outcome, settled, -⟩ | ⟨parameters, -, -, runs⟩
          · exact .inl ⟨outcome, settled⟩
          · exact .inr ⟨_, among, d, rfl, _, _, runs⟩

section Answers

variable {t : Table Program} (request : Request) (session : Session)

/-- A table of honest commands serves requests by honest programs. -/
theorem honest_answer (honest : ∀ row ∈ t.rows, Honest row.2) :
    (t.answer request session).Honest := by
  rcases answer_cases t request session with
    ⟨outcome, same⟩ | ⟨⟨n, c⟩, among, d, rfl, context, conclude, same⟩
  · rw [same]
    exact .aloof trivial
  · rw [same]
    exact (honest _ among context).bind fun found => ⟨_, rfl⟩

/-- A table of commands that do not concern ids serves requests by aloof programs. -/
theorem aloof_answer (limited : ∀ row ∈ t.rows, Limited (·.ids? = none) Handler.SparesIds row.2) :
    (t.answer request session).Aloof := by
  rcases answer_cases t request session with
    ⟨outcome, same⟩ | ⟨⟨n, c⟩, among, d, rfl, context, conclude, same⟩
  · rw [same]
    trivial
  · rw [same]
    exact (limited _ among context).aloof.bind fun found => trivial

end Answers

end Hid.Service
