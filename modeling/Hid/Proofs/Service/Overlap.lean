import Hid.Device.Simulated
import Hid.Proofs.Commands.Aloof
import Hid.Proofs.Service.Traffic

/-!
Requests to set ids that overlap. A list of ids is accepted when the device layer has taken it, and
it may take lists in another order than it was asked to. `Orderly` is what every run keeps of the
requests that wait and of what the log says of lists, and `Settled` adds which list is in force.

* `overlap_exact`: the accepted controllers at every moment of every run.
-/

namespace Hid.Service

open Device (Call)
open Dispatch (Outcome Request Session)
open Queue (Exclusive)

/-! ### What a log shows -/

namespace Event

/-- The ids that a request asks the device layer to accept. -/
def asks? : Event → Option (Nat × List Int)
  | called number c => c.ids?.map (number, ·)
  | _ => none

/-- The ids that the device layer takes. -/
def takes? : Event → Option (Nat × List Int)
  | answered number c answer => (c.taken? answer).map (number, ·)
  | _ => none

end Event

namespace Traffic

/-- The lists of ids that the device layer was asked to accept, in the order of the calls. -/
def asked (log : List Event) : List (Nat × List Int) := log.filterMap Event.asks?

/-- Those of them that it has taken, in the order of its answers. -/
def taken (log : List Event) : List (Nat × List Int) := log.filterMap Event.takes?

/-- Those that it has taken, in the order of the calls. A device layer that goes by this order is
left with the last of them. -/
def applied (log : List Event) : List (Nat × List Int) := (asked log).filter (· ∈ taken log)

/-- The controllers once lists of ids are accepted one after the other. -/
def settings (lists : List (Nat × List Int)) : Controllers :=
  Controllers.initial.after (lists.getLast?.map (·.2))

section Logs

variable (log : List Event) (e : Event)

theorem asked_concat : asked (log ++ [e]) = asked log ++ e.asks?.toList := by
  rw [asked, List.filterMap_append]
  cases told : e.asks? <;> simp [asked, told]

theorem taken_concat : taken (log ++ [e]) = taken log ++ e.takes?.toList := by
  rw [taken, List.filterMap_append]
  cases told : e.takes? <;> simp [taken, told]

theorem taken_append (later : List Event) : taken (log ++ later) = taken log ++ taken later :=
  List.filterMap_append

end Logs

/-- What is accepted next replaces what was accepted before. -/
theorem settings_append (lists : List (Nat × List Int)) (number : Nat) (ids? : Option (List Int)) :
    settings (lists ++ (ids?.map (number, ·)).toList) = (settings lists).after ids? := by
  cases ids? with
  | none => rw [Option.map_none, Option.toList_none, List.append_nil]; rfl
  | some ids =>
      rw [Option.map_some, Option.toList_some, settings, List.getLast?_concat]
      rfl

section Going

variable (t : Traffic) (k : Ticket) (p : Program Outcome)

theorem controllers_proceed :
    (t.proceed k p).1.service.state.controllers = (p.advance t.service.state).1.controllers := by
  unfold proceed
  split
  case h_1 advanced =>
      dsimp only
      rw [advanced, leave_eq]
      rfl
  case h_2 advanced => rw [advanced]

theorem taken_proceed : taken (t.proceed k p).2 = [] := by
  unfold proceed
  split <;> rfl

end Going

/-! ### What every run keeps -/

/-- The requests that wait, and what the log says of them. -/
structure Orderly (t : Traffic) (log : List Event) : Prop where
  /-- Every request that waits for an answer is served by an honest program. -/
  honest : ∀ f ∈ t.flights, (Program.ask f.call f.next).Honest
  numbered : ∀ f ∈ t.flights, f.number < t.arrived
  /-- Every request that waits for its turn is served by an aloof program. -/
  aloof : ∀ q ∈ t.queued, q.program.Aloof
  lined : ∀ q ∈ t.queued, q.number < t.arrived
  unasked : ∀ q ∈ t.queued, ∀ e ∈ asked log, e.1 ≠ q.number
  /-- Whoever waits for ids to be taken has asked for that. -/
  pending : ∀ f ∈ t.flights, ∀ ids, f.call.ids? = some ids → (f.number, ids) ∈ asked log
  /-- Of those that wait, none has had ids taken. -/
  fresh : ∀ f ∈ t.flights, ∀ e ∈ taken log, e.1 ≠ f.number
  ordered : (asked log).Pairwise (·.1 < ·.1)
  known : ∀ e ∈ asked log, e.1 < t.arrived
  once : (taken log).Pairwise (·.1 ≠ ·.1)
  sound : ∀ e ∈ taken log, e ∈ asked log

namespace Orderly

variable {t : Traffic} {log : List Event}

theorem initial (s : Service) : Orderly (ofService s) [] where
  honest := fun _ waits => absurd waits List.not_mem_nil
  numbered := fun _ waits => absurd waits List.not_mem_nil
  aloof := fun _ waits => absurd waits List.not_mem_nil
  lined := fun _ waits => absurd waits List.not_mem_nil
  unasked := fun _ waits => absurd waits List.not_mem_nil
  pending := fun _ waits => absurd waits List.not_mem_nil
  fresh := fun _ waits => absurd waits List.not_mem_nil
  ordered := .nil
  known := fun _ told => absurd told List.not_mem_nil
  once := .nil
  sound := fun _ told => absurd told List.not_mem_nil

/-- What a service or its sections are like makes no difference. -/
theorem elsewhere (orderly : Orderly t log) (s : Service) (sections : Nat → Exclusive Unit) :
    Orderly { t with service := s, sections := sections } log where
  honest := orderly.honest
  numbered := orderly.numbered
  aloof := orderly.aloof
  lined := orderly.lined
  unasked := orderly.unasked
  pending := orderly.pending
  fresh := orderly.fresh
  ordered := orderly.ordered
  known := orderly.known
  once := orderly.once
  sound := orderly.sound

/-- A request is done. -/
theorem finish (orderly : Orderly t log) (s : Service) (sections : Nat → Exclusive Unit)
    (number : Nat) (outcome : Outcome) :
    Orderly { t with service := s, sections := sections } (log ++ [.finished number outcome]) := by
  have asked_eq : asked (log ++ [.finished number outcome]) = asked log := by
    rw [asked_concat]
    exact List.append_nil _
  have taken_eq : taken (log ++ [.finished number outcome]) = taken log := by
    rw [taken_concat]
    exact List.append_nil _
  constructor <;> simp only [asked_eq, taken_eq]
  case honest => exact orderly.honest
  case numbered => exact orderly.numbered
  case aloof => exact orderly.aloof
  case lined => exact orderly.lined
  case unasked => exact orderly.unasked
  case pending => exact orderly.pending
  case fresh => exact orderly.fresh
  case ordered => exact orderly.ordered
  case known => exact orderly.known
  case once => exact orderly.once
  case sound => exact orderly.sound

/-- A request makes a call. If it asks for ids, no later request has done so, and it does not wait
for its turn any more. -/
theorem wait (orderly : Orderly t log) (s : Service) {f : Flight} (below : f.number < t.arrived)
    (honest : (Program.ask f.call f.next).Honest) (fresh : ∀ e ∈ taken log, e.1 ≠ f.number)
    (latest : f.call.ids?.isSome = true →
      (∀ e ∈ asked log, e.1 < f.number) ∧ ∀ q ∈ t.queued, f.number ≠ q.number) :
    Orderly { t with service := s, flights := t.flights ++ [f] }
      (log ++ [.called f.number f.call]) := by
  have asked_eq : asked (log ++ [.called f.number f.call]) =
      asked log ++ (f.call.ids?.map (f.number, ·)).toList := asked_concat ..
  have taken_eq : taken (log ++ [.called f.number f.call]) = taken log := by
    rw [taken_concat]
    exact List.append_nil _
  constructor <;> simp only [asked_eq, taken_eq]
  case honest =>
    exact List.forall_mem_append.mpr ⟨orderly.honest, List.forall_mem_singleton.mpr honest⟩
  case numbered =>
    exact List.forall_mem_append.mpr ⟨orderly.numbered, List.forall_mem_singleton.mpr below⟩
  case aloof => exact orderly.aloof
  case lined => exact orderly.lined
  case unasked =>
    refine fun q waits => List.forall_mem_append.mpr ⟨orderly.unasked q waits, fun e found => ?_⟩
    obtain ⟨ids, asks, rfl⟩ := Option.map_eq_some_iff.mp (Option.mem_toList.mp found)
    exact (latest (Option.isSome_of_mem asks)).2 q waits
  case pending =>
    refine List.forall_mem_append.mpr ⟨?_, List.forall_mem_singleton.mpr ?_⟩
    · exact fun g waits ids asks => List.mem_append_left _ (orderly.pending g waits ids asks)
    · intro ids asks
      rw [asks]
      exact List.mem_append_right _ (List.mem_singleton.mpr rfl)
  case fresh =>
    exact List.forall_mem_append.mpr ⟨orderly.fresh, List.forall_mem_singleton.mpr fresh⟩
  case ordered =>
    refine List.pairwise_append.mpr ⟨orderly.ordered, ?_, ?_⟩
    · cases f.call.ids? with
      | none => exact .nil
      | some ids => exact List.pairwise_singleton ..
    · intro e earlier last found
      obtain ⟨ids, asks, rfl⟩ := Option.map_eq_some_iff.mp (Option.mem_toList.mp found)
      exact (latest (Option.isSome_of_mem asks)).1 e earlier
  case known =>
    refine List.forall_mem_append.mpr ⟨orderly.known, fun e found => ?_⟩
    obtain ⟨ids, -, rfl⟩ := Option.map_eq_some_iff.mp (Option.mem_toList.mp found)
    exact below
  case once => exact orderly.once
  case sound => exact fun e found => List.mem_append_left _ (orderly.sound e found)

/-- A call is answered, and whoever has waited for that waits no longer. -/
theorem settle (orderly : Orderly t log) {f : Flight} (waits : f ∈ t.flights)
    (answer : Except Failure f.call.Answer) :
    Orderly { t with flights := t.flights.filter (·.number != f.number) }
      (log ++ [.answered f.number f.call answer]) := by
  have asked_eq : asked (log ++ [.answered f.number f.call answer]) = asked log := by
    rw [asked_concat]
    exact List.append_nil _
  have taken_eq : taken (log ++ [.answered f.number f.call answer]) =
      taken log ++ ((f.call.taken? answer).map (f.number, ·)).toList := taken_concat ..
  have others {g : Flight} (among : g ∈ t.flights.filter (·.number != f.number)) :
      g ∈ t.flights ∧ g.number ≠ f.number := by
    obtain ⟨waiting, other⟩ := List.mem_filter.mp among
    exact ⟨waiting, bne_iff_ne.mp other⟩
  constructor <;> simp only [asked_eq, taken_eq]
  case honest => exact fun g among => orderly.honest g (others among).1
  case numbered => exact fun g among => orderly.numbered g (others among).1
  case aloof => exact orderly.aloof
  case lined => exact orderly.lined
  case unasked => exact orderly.unasked
  case pending => exact fun g among => orderly.pending g (others among).1
  case fresh =>
    refine fun g among => List.forall_mem_append.mpr ⟨orderly.fresh g (others among).1, ?_⟩
    intro e found
    obtain ⟨ids, -, rfl⟩ := Option.map_eq_some_iff.mp (Option.mem_toList.mp found)
    exact (others among).2.symm
  case ordered => exact orderly.ordered
  case known => exact orderly.known
  case once =>
    refine List.pairwise_append.mpr ⟨orderly.once, ?_, ?_⟩
    · cases f.call.taken? answer with
      | none => exact .nil
      | some ids => exact List.pairwise_singleton ..
    · intro e earlier last found
      obtain ⟨ids, -, rfl⟩ := Option.map_eq_some_iff.mp (Option.mem_toList.mp found)
      exact orderly.fresh f waits e earlier
  case sound =>
    refine List.forall_mem_append.mpr ⟨orderly.sound, fun e found => ?_⟩
    obtain ⟨ids, takes, rfl⟩ := Option.map_eq_some_iff.mp (Option.mem_toList.mp found)
    exact orderly.pending f waits ids (Call.ids?_of_taken? takes)

/-- Another request arrives. -/
theorem arrive (orderly : Orderly t log) : Orderly { t with arrived := t.arrived + 1 } log :=
  { orderly with
    numbered := fun f waits => Nat.lt_succ_of_lt (orderly.numbered f waits)
    lined := fun q waits => Nat.lt_succ_of_lt (orderly.lined q waits)
    known := fun e told => Nat.lt_succ_of_lt (orderly.known e told) }

/-- The request that arrived last lines up. -/
theorem lineUp (orderly : Orderly t log) {q : Queued} (aloof : q.program.Aloof)
    (last : q.number = t.arrived) :
    Orderly { t with arrived := t.arrived + 1, queued := t.queued ++ [q] } log :=
  { orderly.arrive with
    aloof := List.forall_mem_append.mpr ⟨orderly.aloof, List.forall_mem_singleton.mpr aloof⟩
    lined := List.forall_mem_append.mpr ⟨orderly.arrive.lined,
      List.forall_mem_singleton.mpr (last ▸ Nat.lt_succ_self _)⟩
    unasked := List.forall_mem_append.mpr ⟨orderly.unasked, List.forall_mem_singleton.mpr
      fun e told => last ▸ Nat.ne_of_lt (orderly.known e told)⟩ }

/-- A request waits no longer for its turn. -/
theorem taking (orderly : Orderly t log) (target : Nat) (e : Exclusive Unit) (q : Queued) :
    Orderly (t.taking target e q) log :=
  { orderly.elsewhere t.service (t.setSection target e).sections with
    aloof := fun other among => orderly.aloof other (List.mem_filter.mp among).1
    lined := fun other among => orderly.lined other (List.mem_filter.mp among).1
    unasked := fun other among => orderly.unasked other (List.mem_filter.mp among).1 }

/-- A request goes on, and is done or waits again. -/
theorem proceed (orderly : Orderly t log) {k : Ticket} (below : k.number < t.arrived)
    {p : Program Outcome} (honest : (p.advance t.service.state).2.program.Honest)
    (waits : ∀ c next, (p.advance t.service.state).2 = .waiting c next →
      (∀ e ∈ taken log, e.1 ≠ k.number) ∧ (c.ids?.isSome = true →
        (∀ e ∈ asked log, e.1 < k.number) ∧ ∀ q ∈ t.queued, k.number ≠ q.number)) :
    Orderly (t.proceed k p).1 (log ++ (t.proceed k p).2) := by
  unfold Traffic.proceed
  cases advanced : p.advance t.service.state with
  | mk state stand =>
      rw [advanced] at honest waits
      cases stand with
      | done outcome =>
          dsimp only
          rw [leave_eq]
          exact orderly.finish _ _ k.number outcome
      | waiting c next =>
          obtain ⟨fresh, latest⟩ := waits c next rfl
          exact orderly.wait _ (f := ⟨k, c, next⟩) below honest fresh latest

end Orderly

/-- The requests are in order, and the accepted controllers are those of the list that was taken
last. -/
def Settled (t : Traffic) (log : List Event) : Prop :=
  Orderly t log ∧ t.service.state.controllers = settings (taken log)

/-- When a section goes on, ids are not concerned. -/
theorem Settled.follow {t : Traffic} {log : List Event} (settled : Settled t log) (target : Nat)
    (moved : Exclusive Unit × List (Queue.TaskEvent Unit)) :
    Settled (t.follow target moved).1 (log ++ (t.follow target moved).2) := by
  obtain ⟨orderly, held⟩ := settled
  rcases t.follow_cases target moved with same | ⟨q, waits, same⟩
  · rw [same]
    dsimp only
    rw [List.append_nil]
    exact ⟨orderly.elsewhere _ _, held⟩
  · rw [same]
    obtain ⟨kept, later⟩ := (orderly.aloof q waits).advance t.service.state
    constructor
    · refine (orderly.taking target moved.1 q).proceed (orderly.lined q waits) (.aloof later) ?_
      intro c next stands
      refine ⟨fun e takes => orderly.unasked q waits e (orderly.sound e takes), fun asks => ?_⟩
      change (q.program.advance t.service.state).2 = _ at stands
      rw [stands] at later
      rw [later.1] at asks
      cases asks
    · rw [taken_append, taken_proceed, List.append_nil, ← held, ← kept]
      exact controllers_proceed ..

theorem Settled.step {t : Traffic} {log : List Event} (settled : Settled t log) (m : Move) :
    Settled (t.step m).1 (log ++ (t.step m).2) := by
  obtain ⟨orderly, held⟩ := settled
  cases m with
  | arrives target request session =>
      rw [Traffic.step, Traffic.arrive]
      cases found : t.service.table? target with
      | none =>
          dsimp only
          rw [List.append_nil]
          exact ⟨orderly, held⟩
      | some table =>
          dsimp only
          split
          case isTrue inTurn =>
              have aloof := aloof_of_isList request session found (Bool.and_eq_true_iff.mp inTurn).1
              exact Settled.follow ⟨orderly.lineUp (q := ⟨_, _⟩) aloof rfl, held⟩ _ _
          case isFalse outside =>
              obtain ⟨kept, later⟩ :=
                (honest_of_table? request session found).advance t.service.state
              constructor
              · refine orderly.arrive.proceed (Nat.lt_succ_self _) later fun c next _ => ?_
                refine ⟨fun e takes => Nat.ne_of_lt ?_, fun _ => ⟨orderly.known, ?_⟩⟩
                · exact orderly.known e (orderly.sound e takes)
                · exact fun q waits => (Nat.ne_of_lt (orderly.lined q waits)).symm
              · rw [taken_append, taken_proceed, List.append_nil, ← held, ← kept]
                exact controllers_proceed ..
  | settles number answer =>
      rw [Traffic.step]
      cases found : t.flights.find? (·.number == number) with
      | none =>
          rw [Traffic.settle, found]
          dsimp only
          rw [List.append_nil]
          exact ⟨orderly, held⟩
      | some f =>
          obtain rfl : f.number = number := by simpa using List.find?_some found
          have waits := List.mem_of_find?_eq_some found
          have after := orderly.settle waits (answer f.call)
          obtain ⟨replaced, honest, again⟩ :=
            (orderly.honest f waits).answered (answer f.call) t.service.state
          rw [settle_of_waits found, List.append_cons]
          constructor
          · refine after.proceed (orderly.numbered f waits) honest ?_
            intro c next stands
            obtain ⟨untaken, unasked⟩ := again c next stands
            rw [taken_concat, Event.takes?, untaken]
            refine ⟨fun e takes => orderly.fresh f waits e (by simpa using takes), fun asks => ?_⟩
            rw [unasked] at asks
            cases asks
          · rw [taken_append, taken_proceed, List.append_nil, taken_concat, Event.takes?,
              settings_append, ← held, ← replaced]
            exact controllers_proceed ..
  | advances target =>
      rw [Traffic.step]
      cases (t.sections target).advance? with
      | none =>
          dsimp only [Option.map_none, Option.getD_none]
          rw [List.append_nil]
          exact ⟨orderly, held⟩
      | some moved => exact Settled.follow ⟨orderly, held⟩ target moved

/-- A list is in force if it was taken last, in every run of a service that starts with the defined
ids. -/
theorem run_settled (s : Service) (fresh : s.state.controllers = .initial) (moves : List Move) :
    Settled ((ofService s).run moves).1 ((ofService s).run moves).2 :=
  run_induction (P := Settled) (fun _ _ m settled => settled.step m) ⟨.initial s, fresh⟩ moves

/-! ### The order of calls and the order of answers -/

section Order

variable {t : Traffic} {log : List Event}

/-- In either order there are the same lists. -/
theorem Orderly.applied_perm (orderly : Orderly t log) : (applied log).Perm (taken log) := by
  have calls : (applied log).Pairwise (· ≠ ·) := (orderly.ordered.filter _).imp
    fun less same => Nat.ne_of_lt less (congrArg Prod.fst same)
  have answers : (taken log).Pairwise (· ≠ ·) := orderly.once.imp
    fun other same => other (congrArg Prod.fst same)
  refine (List.perm_ext_iff_of_nodup calls answers).mpr fun e => ?_
  rw [applied, List.mem_filter, decide_eq_true_iff]
  exact ⟨And.right, fun takes => ⟨orderly.sound e takes, takes⟩⟩

/-- The list that was taken last is the one that was asked for last among those that were taken, if
no later one was taken before it. -/
theorem Orderly.getLast?_applied (orderly : Orderly t log)
    (latest : ∀ last ∈ (taken log).getLast?, ∀ e ∈ taken log, e.1 ≤ last.1) :
    (applied log).getLast? = (taken log).getLast? := by
  have among {e : Nat × List Int} : e ∈ applied log ↔ e ∈ taken log :=
    orderly.applied_perm.mem_iff
  cases answered : (taken log).getLast? with
  | none =>
      have nothing := orderly.applied_perm.length_eq
      rw [List.getLast?_eq_none_iff.mp answered] at nothing
      exact List.getLast?_eq_none_iff.mpr (List.length_eq_zero_iff.mp nothing)
  | some last =>
      have found := among.mpr (List.mem_of_getLast? answered)
      obtain ⟨earlier, greatest, split⟩ : ∃ earlier greatest, applied log = earlier ++ [greatest] :=
        ⟨_, _, (List.dropLast_concat_getLast (List.ne_nil_of_mem found)).symm⟩
      have ascending : (earlier ++ [greatest]).Pairwise (·.1 < ·.1) :=
        split ▸ orderly.ordered.filter _
      have end_mem : greatest ∈ [greatest] := List.mem_singleton.mpr rfl
      have bound : greatest.1 ≤ last.1 :=
        latest last answered greatest (among.mp (split ▸ List.mem_append_right _ end_mem))
      rw [split] at found ⊢
      rw [List.getLast?_concat]
      rcases List.mem_append.mp found with before | same
      · have less := (List.pairwise_append.mp ascending).2.2 last before greatest end_mem
        exact absurd bound (Nat.not_le.mpr less)
      · rw [List.mem_singleton.mp same]

end Order

/-- **Overlapping requests to set ids.** Let any requests to a new service, and to the objects that
it makes, be under way at once, and let the device layer answer their calls in any order, with
success or not. At every moment

* the accepted controllers are those of the list that the device layer has taken last, in the order
  of its answers, without later repeats; the defined ones if it has taken none;
* the lists that it was asked to accept are in the order in which the requests arrived, at most one
  for each, and the lists that it has taken are among them;
* the service supports just the ids of the list that was taken last;
* unless a list that was asked for later was taken earlier, this is the list that was asked for last
  among those that were taken. -/
theorem overlap_exact (config : Config) (deviceManaged : Option Bool) (moves : List Move) :
    let ran := (ofService (start config deviceManaged)).run moves
    ran.1.service.state.controllers = settings (taken ran.2) ∧
    (asked ran.2).Pairwise (·.1 < ·.1) ∧ (applied ran.2).Perm (taken ran.2) ∧
    (∀ last ∈ (taken ran.2).getLast?, ∀ id,
      ran.1.service.state.controllers.isSupported id =
        (last.2.map Quantity.int).contains id.plain) ∧
    ((∀ last ∈ (taken ran.2).getLast?, ∀ e ∈ taken ran.2, e.1 ≤ last.1) →
      ran.1.service.state.controllers = settings (applied ran.2)) := by
  intro ran
  obtain ⟨orderly, held⟩ := run_settled (start config deviceManaged) rfl moves
  refine ⟨held, orderly.ordered, orderly.applied_perm, ?_, ?_⟩
  · intro last found id
    rw [held, settings, Option.mem_def.mp found]
    exact Controllers.isSupported_ofList last.2 id
  · intro latest
    rw [held, settings, settings, orderly.getLast?_applied latest]

/-- A client asks to set the ids to those in a buffer. -/
def naming (buffer : Wire.Bytes) : Move :=
  .arrives 0 { opcode := 102, parameters := List.replicate 8 0, buffers := [buffer] } ⟨"session", 0⟩

/-- The device layer takes what a request has asked it to. -/
def granting (number : Nat) : Move :=
  .settles number fun c => .ok (Hid.Device.Simulated.answer [] c)

/-- Two requests are under way at once and are answered in turn. -/
theorem overlap_exact_in_turn :
    let ran := (ofService (start .initial)).run
      [naming [0, 0, 0, 0], naming [1, 0, 0, 0], granting 0, granting 1]
    ran.1.flights = [] ∧ (∀ last ∈ (taken ran.2).getLast?, ∀ e ∈ taken ran.2, e.1 ≤ last.1) ∧
      ran.1.service.state.controllers = settings (applied ran.2) ∧
      ran.1.service.state.controllers.supported = [.int 1] := by
  intro ran
  have lists : taken ran.2 = [(0, [0]), (1, [1])] := rfl
  have latest : ∀ last ∈ (taken ran.2).getLast?, ∀ e ∈ taken ran.2, e.1 ≤ last.1 := by
    rw [lists]
    decide
  obtain ⟨-, -, -, -, agree⟩ := overlap_exact .initial none
    [naming [0, 0, 0, 0], naming [1, 0, 0, 0], granting 0, granting 1]
  exact ⟨rfl, latest, agree latest, rfl⟩

/-- The list that is asked for last is not the one in force if the device layer takes it first; a
motor of the controller that it names is refused. Nor is a list in force as it came if an id is
repeated in it. -/
theorem overlap_overtaken :
    let ran := (ofService (start .initial)).run
      [naming [0, 0, 0, 0], naming [1, 0, 0, 0], granting 1, granting 0]
    let again := (ofService (start .initial)).run [naming [0, 0, 0, 0, 0, 0, 0, 0], granting 0]
    (ran.1.flights = [] ∧ (applied ran.2).getLast? = some (1, [1]) ∧
      ran.1.service.state.controllers.supported = [.int 0] ∧
      validateVibrationHandle ⟨.int 3, .int 1, .int 0⟩ ran.1.service.state.controllers =
        .vibrationInvalidNpadId) ∧
    again.1.flights = [] ∧ (applied again.2).getLast? = some (0, [0, 0]) ∧
      again.1.service.state.controllers.supported = [.int 0] :=
  ⟨⟨rfl, rfl, rfl, rfl⟩, rfl, rfl, rfl⟩

end Traffic
end Hid.Service
