import Hid.Proofs.Dispatch.Decision
import Hid.Service.Basic

/-!
Requests that a service gets one after the other. A post is a request to a target together with
the answers that the device layer gives while it is being served; these are answers to the calls
made for this request, so that runs with other requests between can be compared. No generality is
lost (`handle_eq_attend`), and what a service was asked before does not count (`Alike.attend`).

* `attend_of_settles`, `attend_of_decoded`: what a post comes to, which is all that later proofs need
  to know of dispatchers.
* `Alike.serve`: services that are alike answer any posts alike.
-/

namespace Hid.Service

open Device (Call)
open Dispatch (Definition Outcome Request Session Stats Table)

/-! ### Device layers that begin anew -/

/-- The device layer that answers as if the calls so far had not been made. -/
def startingAt (past : List Call) (device : Device) : Device :=
  fun calls c => device (calls.drop past.length) c

namespace Program

variable {α : Type} {device other : Device} {past : List Call} {s : State}

theorem run_pure (value : α) : (pure value : Program α).run device past s = ⟨value, s, []⟩ := rfl

/-- Only what a device layer answers from now on counts. -/
theorem run_congr {later : List Call} (p : Program α)
    (same : ∀ calls c, device (past ++ calls) c = other (later ++ calls) c) :
    p.run device past s = p.run other later s := by
  induction p generalizing past later s with
  | done value => rfl
  | ask c next ih =>
      have answers : device past c = other later c := by
        have here := same [] c
        rwa [List.append_nil, List.append_nil] at here
      have after : ∀ calls c',
          device (past ++ [c] ++ calls) c' = other (later ++ [c] ++ calls) c' := by
        intro calls c'
        rw [List.append_assoc, List.append_assoc]
        exact same ([c] ++ calls) c'
      rw [run, run, answers, ih _ after]
  | inspect next ih => exact ih s same
  | update change next ih => exact ih same

theorem run_startingAt (p : Program α) :
    p.run (startingAt past device) past s = p.run device [] s := by
  apply run_congr
  intro calls c
  rw [startingAt, List.drop_left, List.nil_append]

end Program

/-! ### Posts -/

/-- A request to a target, and what the device layer answers to the calls made for it. -/
structure Post where
  target : Nat
  request : Request
  session : Session
  device : Device

/-- What a service answers a post, if it has the target. -/
def attend (s : Service) (p : Post) : Option Answered :=
  s.handle (startingAt s.past p.device) p.target p.request p.session

/-- The service after a post. One to a target that does not exist is lost. -/
def after (s : Service) (p : Post) : Service := ((s.attend p).map Answered.service).getD s

/-- The service after posts that came one after the other. -/
def serve (s : Service) (posts : List Post) : Service := posts.foldl after s

/-- What comes of a post if the target exists: its outcome, and the calls made for it. -/
def reply (s : Service) (p : Post) : Option (Outcome × List Call) :=
  (s.attend p).map fun a => (a.outcome, a.calls)

/-- What comes of posts that come one after the other. -/
def replies (s : Service) : List Post → List (Option (Outcome × List Call))
  | [] => []
  | p :: rest => s.reply p :: (s.after p).replies rest

theorem serve_cons (s : Service) (p : Post) (posts : List Post) :
    s.serve (p :: posts) = (s.after p).serve posts := rfl

theorem serve_append (s : Service) (posts later : List Post) :
    s.serve (posts ++ later) = (s.serve posts).serve later := List.foldl_append

/-- Every request to a service is a post, whatever the device layer makes of earlier calls. -/
theorem handle_eq_attend (s : Service) (device : Device) (target : Nat) (request : Request)
    (session : Session) :
    s.handle device target request session =
      s.attend ⟨target, request, session, fun calls => device (s.past ++ calls)⟩ := by
  have same : ∀ t : Table Program,
      (t.handle request session (s.stats target)).run device s.past s.state =
        (t.handle request session (s.stats target)).run
          (startingAt s.past fun calls => device (s.past ++ calls)) s.past s.state := by
    intro t
    apply Program.run_congr
    intro calls c
    rw [startingAt, List.drop_left]
  rw [attend, handle, handle]
  refine congrArg (Option.map · _) (funext fun t => ?_)
  rw [answer, answer, same]

section Attending

variable {s : Service} {p : Post} {t : Table Program}

theorem attend_eq_none_iff : s.attend p = none ↔ s.table? p.target = none := Option.map_eq_none_iff

theorem reply_of_attend {a : Answered} (answered : s.attend p = some a) :
    s.reply p = some (a.outcome, a.calls) := by
  rw [reply, answered, Option.map_some]

theorem after_of_attend {a : Answered} (answered : s.attend p = some a) :
    s.after p = a.service := by
  rw [after, answered, Option.map_some, Option.getD_some]

theorem after_of_none (lost : s.table? p.target = none) : s.after p = s := by
  rw [after, attend_eq_none_iff.mpr lost, Option.map_none, Option.getD_none]

/-- The service with a request counted, and nothing else done for it. -/
def tell (s : Service) (target : Nat) (t : Table Program) (opcode : Quantity) (outcome : Outcome) :
    Service :=
  s.setStats target (t.count opcode outcome (s.stats target))

theorem attend_of_settles {outcome : Outcome} (found : s.table? p.target = some t)
    (settles : t.Settles p.request p.session (s.stats p.target) outcome) :
    s.attend p = some ⟨outcome, s.tell p.target t p.request.opcode outcome, []⟩ := by
  rw [attend, handle, found, Option.map_some, answer, settles, Program.run_pure]
  simp only [List.append_nil]
  rfl

/-- What a post comes to on which the handler of a command runs, from the state of the service. -/
def carryOut (s : Service) (p : Post) (t : Table Program) (d : Definition Program)
    (parameters : d.Parameters) : Answered :=
  let ran := Handler.ran
    (d.handler ⟨p.request.opcode.plain, d.name, parameters, p.session, p.request⟩) p.device []
    s.state
  let outcome := d.conclude p.request.opcode.plain ran.value
  ⟨outcome, { s with state := ran.state, past := s.past ++ ran.calls }.tell p.target t
    p.request.opcode outcome, ran.calls⟩

theorem attend_of_runs {d : Definition Program} {parameters : d.Parameters}
    (found : s.table? p.target = some t)
    (runs : t.Runs p.request p.session (s.stats p.target) d parameters) :
    s.attend p = some (s.carryOut p t d parameters) := by
  rw [attend, handle, found, Option.map_some, answer, runs, Program.run_map, Program.run_startingAt]
  rfl

/-- The handler runs if the request has as many handles as declared and its parameters are read. -/
theorem attend_of_decoded {d : Definition Program} {parameters : d.Parameters}
    (found : s.table? p.target = some t)
    (entry : t.lookup? p.request.opcode = some (.implemented d))
    (handles : p.request.hasHandles d.handleCount)
    (decoded : d.parameters.decode p.request.parameters = .ok parameters) :
    s.attend p = some (s.carryOut p t d parameters) :=
  attend_of_runs found (Table.runs_of_decoded entry handles decoded)

/-- So it does for a command of the service that takes no handles, if there are none. -/
theorem attend_of_handleless {d : Definition Program} {parameters : d.Parameters}
    (target : p.target = 0) (handles : p.request.handles = [])
    (entry : (mainTable s.config).lookup? p.request.opcode = some (.implemented d))
    (count : d.handleCount = 0)
    (decoded : d.parameters.decode p.request.parameters = .ok parameters) :
    s.attend p = some (s.carryOut p (mainTable s.config) d parameters) := by
  have found : s.table? p.target = some (mainTable s.config) := by rw [target]; rfl
  have none : p.request.hasHandles d.handleCount := by
    rw [count]
    exact Request.hasHandles_zero handles
  exact attend_of_decoded found entry none decoded

/-- A post to a target is settled without a handler, or one handler runs. -/
theorem attend_cases {a : Answered} (answered : s.attend p = some a) :
    ∃ t, s.table? p.target = some t ∧
      ((∃ outcome, a = ⟨outcome, s.tell p.target t p.request.opcode outcome, []⟩) ∨
      ∃ d parameters ran, t.lookup? p.request.opcode = some (.implemented d) ∧
        p.request.hasHandles d.handleCount ∧
        d.parameters.decode p.request.parameters = .ok parameters ∧
        Handler.ran (d.handler ⟨p.request.opcode.plain, d.name, parameters, p.session, p.request⟩)
          p.device [] s.state = ran ∧
        let outcome := d.conclude p.request.opcode.plain ran.value
        a = ⟨outcome, { s with state := ran.state, past := s.past ++ ran.calls }.tell p.target t
          p.request.opcode outcome, ran.calls⟩) := by
  cases found : s.table? p.target with
  | none =>
      rw [attend_eq_none_iff.mpr found] at answered
      cases answered
  | some t =>
      refine ⟨t, rfl, ?_⟩
      rcases t.settles_or_runs p.request p.session (s.stats p.target) with
        ⟨outcome, settles, -⟩ | ⟨d, _, entry, -⟩
      · rw [attend_of_settles found settles] at answered
        exact .inl ⟨outcome, (Option.some.inj answered).symm⟩
      · rcases Table.settles_or_decoded p.session (s.stats p.target) entry with
          ⟨outcome, settles, -⟩ | ⟨parameters, handles, decoded, runs⟩
        · rw [attend_of_settles found settles] at answered
          exact .inl ⟨outcome, (Option.some.inj answered).symm⟩
        · rw [attend_of_runs found runs] at answered
          exact .inr ⟨d, parameters, _, entry, handles, decoded, rfl,
            (Option.some.inj answered).symm⟩

/-- What an implemented command comes to: a violation or the bare reply without its handler, or
else what its handler comes to. -/
theorem attend_of_implemented {d : Definition Program} (found : s.table? p.target = some t)
    (entry : t.lookup? p.request.opcode = some (.implemented d)) {a : Answered}
    (answered : s.attend p = some a) :
    (∃ v, a.outcome = .violation v) ∨ a.outcome = .reply { result := .unknown } ∨
      ∃ parameters, a = s.carryOut p t d parameters := by
  rcases Table.settles_or_decoded p.session (s.stats p.target) entry with
    ⟨outcome, settles, which⟩ | ⟨parameters, -, -, runs⟩
  · rw [attend_of_settles found settles] at answered
    obtain rfl := Option.some.inj answered
    rcases which with violates | bare
    · exact .inl violates
    · exact .inr (.inl bare)
  · rw [attend_of_runs found runs] at answered
    exact .inr (.inr ⟨parameters, (Option.some.inj answered).symm⟩)

/-- A post changes neither the configuration nor the statistics of other targets. -/
theorem config_after (s : Service) (p : Post) : (s.after p).config = s.config := by
  cases answered : s.attend p with
  | none => rw [after, answered, Option.map_none, Option.getD_none]
  | some a =>
      rw [after_of_attend answered]
      obtain ⟨t, -, ⟨outcome, rfl⟩ | ⟨d, parameters, ran, -, -, -, -, rfl⟩⟩ := attend_cases answered
      · rfl
      · rfl

theorem stats_after_of_ne {other : Nat} (ne : other ≠ p.target) :
    (s.after p).stats other = s.stats other := by
  cases answered : s.attend p with
  | none => rw [after, answered, Option.map_none, Option.getD_none]
  | some a =>
      rw [after_of_attend answered]
      obtain ⟨t, -, ⟨outcome, rfl⟩ | ⟨d, parameters, ran, -, -, -, -, rfl⟩⟩ := attend_cases answered
      · exact if_neg ne
      · exact if_neg ne

end Attending

theorem config_serve (s : Service) (posts : List Post) : (s.serve posts).config = s.config := by
  induction posts generalizing s with
  | nil => rfl
  | cons p rest ih => rw [serve_cons, ih, config_after]

/-! ### What a service was asked before -/

/-- Services that differ in no more than their sessions and the calls made so far. -/
structure Alike (s s' : Service) : Prop where
  config : s.config = s'.config
  state : s.state = s'.state
  stats : s.stats = s'.stats

section Comparing

variable {s s' : Service}

theorem Alike.table? (alike : Alike s s') (target : Nat) : s.table? target = s'.table? target := by
  cases target with
  | zero => exact congrArg (some <| mainTable ·) alike.config
  | succ position =>
      exact congrArg (fun state : State => state.interfaces[position]?.map (·.table position))
        alike.state

/-- A post is answered alike, and leaves the services alike. -/
theorem Alike.attend (alike : Alike s s') (p : Post) :
    s.reply p = s'.reply p ∧ Alike (s.after p) (s'.after p) := by
  rw [reply, reply]
  cases found : s.table? p.target with
  | none =>
      have found' := (alike.table? p.target).symm.trans found
      rw [attend_eq_none_iff.mpr found, attend_eq_none_iff.mpr found', after_of_none found,
        after_of_none found']
      exact ⟨rfl, alike⟩
  | some t =>
      have found' := (alike.table? p.target).symm.trans found
      rcases t.settles_or_runs p.request p.session (s.stats p.target) with
        ⟨outcome, settles, -⟩ | ⟨d, parameters, -, runs, -⟩
      · have answered := attend_of_settles found settles
        have answered' := attend_of_settles found' (alike.stats ▸ settles)
        rw [after_of_attend answered, after_of_attend answered', answered, answered']
        refine ⟨rfl, alike.config, alike.state, ?_⟩
        simp only [tell, setStats, alike.stats]
      · have answered := attend_of_runs found runs
        have answered' := attend_of_runs found' (alike.stats ▸ runs)
        rw [after_of_attend answered, after_of_attend answered', answered, answered', carryOut,
          carryOut, ← alike.state]
        refine ⟨rfl, alike.config, rfl, ?_⟩
        simp only [tell, setStats, alike.stats]

/-- Services that are alike answer any posts alike. -/
theorem Alike.serve (alike : Alike s s') (posts : List Post) :
    s.replies posts = s'.replies posts ∧ Alike (s.serve posts) (s'.serve posts) := by
  induction posts generalizing s s' with
  | nil => exact ⟨rfl, alike⟩
  | cons p rest ih =>
      obtain ⟨first, later⟩ := alike.attend p
      obtain ⟨others, last⟩ := ih later
      rw [replies, replies, first, others]
      exact ⟨rfl, last⟩

end Comparing
end Hid.Service
