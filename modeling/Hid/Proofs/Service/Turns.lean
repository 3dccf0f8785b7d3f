import Hid.Proofs.Queue.Drain
import Hid.Proofs.Service.Traffic

/-!
Requests to lists take turns. What a list lets through is decided by its exclusive section, whose
tasks stand at gates while the requests that they are there for are under way. `Attends` says this
of one section: the gate that is shut is the one of the request at hand, and the tasks in line are
those of the requests that wait for their turn. `InTurn` says it of all.

* `run_inTurn`: at most one request of a list is at hand, in order of arrival, and none waits in
  vain.
-/

namespace Hid.Queue.Exclusive

variable {ν : Type} {s : Exclusive ν}

/-- The gate that keeps a section from going on. -/
def shutGate? (s : Exclusive ν) : Option String :=
  match s.queue.turn with
  | .held ⟨_, .gate gate _⟩ => if s.opened.contains gate then none else some gate
  | _ => none

theorem shutGate?_of_free (free : ∀ held, s.queue.turn ≠ .held held) : s.shutGate? = none := by
  unfold shutGate?
  split
  case h_1 turn => exact absurd turn (free _)
  case h_2 => rfl

theorem shutGate?_unlock {gate : String} (shut : s.shutGate? = some gate) :
    (s.unlock gate).shutGate? = none := by
  unfold shutGate? at shut
  split at shut
  case h_1 c name rest turn =>
      split at shut
      case isTrue => cases shut
      case isFalse =>
        cases shut
        simp [shutGate?, unlock, turn]
  case h_2 => cases shut

/-- A section rests if it is idle or a gate is shut. -/
theorem idle_or_shut_of_rest (rest : s.advance? = none) :
    s.queue.turn = .idle ∨ s.shutGate?.isSome = true := by
  rcases (advance?_eq_none_iff s).mp rest with idle | ⟨c, gate, later, turn, shut⟩
  · exact .inl idle
  · refine .inr ?_
    rw [shutGate?, turn]
    simp [shut]

/-- The section is as some run has left it. -/
def Reached (s : Exclusive ν) : Prop := ∃ moves, s = (initial.run moves).1

theorem Reached.initial : Reached (initial : Exclusive ν) := ⟨[], rfl⟩

theorem Reached.step (reached : Reached s) (m : Move ν) : Reached (s.step m).1 := by
  obtain ⟨moves, rfl⟩ := reached
  refine ⟨moves ++ [m], ?_⟩
  rw [run_append]
  rfl

theorem Reached.awake (reached : Reached s) : s.queue.Awake := by
  obtain ⟨moves, rfl⟩ := reached
  exact (Recorded.run moves).awake

/-- A task that waits for a gate right away is started up to that gate. -/
theorem proceed_of_wait {c : Call ν} {rest : List (Call ν)} {gate : String} {later : Work ν}
    (waiting : s.queue.waiting = c :: rest) (work : c.task.work = .wait gate later) :
    s.proceed = ({ s with queue := ⟨.held ⟨c, .gate gate later⟩, rest⟩ }, [.started c]) := by
  unfold proceed
  rw [waiting]
  dsimp only
  rw [work]
  rfl

end Hid.Queue.Exclusive

namespace Hid.Service

open Device (Call)
open Dispatch (Outcome Request Session Table)
open Queue (Exclusive TaskEvent toString_injective)

/-! ### One section -/

/-- A section is as the requests are that take turns at it: those at hand, and those in line. -/
structure Attends (e : Exclusive Unit) (hand line : List Ticket) (arrived : Nat) : Prop where
  /-- It stands at the gate of the request at hand. -/
  gates : hand.map (·.gate) = e.shutGate?.toList
  ahead : ∀ k ∈ hand, ∀ q ∈ line, k.number < q.number
  ordered : line.Pairwise (·.number < ·.number)
  below : ∀ k ∈ hand ++ line, k.number < arrived
  tasks : e.queue.waiting.map (·.task) = line.map (·.task)
  /-- Behind its gate a task is over. -/
  last : ∀ c gate work, e.queue.turn = .held ⟨c, .gate gate work⟩ → work = .finish (.ok ())
  unopened : ∀ q ∈ line, q.gate ∉ e.opened
  /-- Only gates of requests that have arrived are open. -/
  known : ∀ gate ∈ e.opened, ∃ n < arrived, gate = toString n

namespace Attends

variable {e : Exclusive Unit} {hand line : List Ticket} {arrived : Nat}

theorem initial (arrived : Nat) : Attends .initial [] [] arrived := by
  constructor <;> simp [Exclusive.initial, Exclusive.shutGate?, Queue.Serial.idle]

theorem later (a : Attends e hand line arrived) {n : Nat} (le : arrived ≤ n) :
    Attends e hand line n :=
  { a with
    below := fun q waits => Nat.lt_of_lt_of_le (a.below q waits) le
    known := fun gate opened =>
      let ⟨number, below, same⟩ := a.known gate opened
      ⟨number, Nat.lt_of_lt_of_le below le, same⟩ }

/-- At most one request is at hand. -/
theorem length_hand_le (a : Attends e hand line arrived) : hand.length ≤ 1 := by
  have lengths := congrArg List.length a.gates
  rw [List.length_map] at lengths
  cases gate : e.shutGate? with
  | none => simp [lengths, gate]
  | some gate => simp [lengths, gate]

theorem eq_of_mem_hand (a : Attends e hand line arrived) {k k' : Ticket} (among : k ∈ hand)
    (among' : k' ∈ hand) : k = k' := by
  match hand, a.length_hand_le with
  | [only], _ => rw [List.mem_singleton.mp among, List.mem_singleton.mp among']

/-- A section goes on if nobody is at hand and somebody is in line. -/
theorem advances (a : Attends e [] line arrived) (awake : e.queue.Awake) (waits : line ≠ []) :
    e.advance?.isSome = true := by
  rw [Option.isSome_iff_ne_none]
  intro rest
  rcases Exclusive.idle_or_shut_of_rest rest with idle | shut
  · have tasks := a.tasks
    rw [awake idle] at tasks
    exact waits (List.map_eq_nil_iff.mp tasks.symm)
  · have gates := a.gates
    cases gate : e.shutGate? with
    | none => rw [gate] at shut; cases shut
    | some gate => rw [gate] at gates; cases gates

theorem hand_eq_nil (a : Attends e hand line arrived) (free : e.shutGate? = none) : hand = [] := by
  have gates := a.gates
  rw [free] at gates
  exact List.map_eq_nil_iff.mp gates

theorem of_perm (a : Attends e hand line arrived) {hand' : List Ticket} (same : hand'.Perm hand) :
    Attends e hand' line arrived := by
  match hand, a.length_hand_le with
  | [], _ => exact same.eq_nil ▸ a
  | [k], _ => exact List.perm_singleton.mp same ▸ a

/-- The request that arrived last lines up. -/
theorem enlist (a : Attends e hand line arrived) {k : Ticket} (number : k.number = arrived) :
    Attends (e.enlist k.task) hand (line ++ [k]) (arrived + 1) := by
  have after := a.later (Nat.le_succ arrived)
  constructor
  case gates => exact a.gates
  case ahead =>
    intro other among q waits
    rcases List.mem_append.mp waits with before | new
    · exact a.ahead other among q before
    · rw [List.mem_singleton.mp new, number]
      exact a.below other (List.mem_append_left _ among)
  case ordered =>
    refine List.pairwise_append.mpr ⟨a.ordered, List.pairwise_singleton .., ?_⟩
    intro q waits other new
    rw [List.mem_singleton.mp new, number]
    exact a.below q (List.mem_append_right _ waits)
  case below =>
    rw [← List.append_assoc]
    refine List.forall_mem_append.mpr ⟨after.below, List.forall_mem_singleton.mpr ?_⟩
    rw [number]
    exact Nat.lt_succ_self arrived
  case tasks =>
    rw [Exclusive.enlist, Queue.Serial.waiting_enqueue, List.map_append, List.map_append, a.tasks]
    rfl
  case last => exact a.last
  case unopened =>
    refine List.forall_mem_append.mpr ⟨a.unopened, List.forall_mem_singleton.mpr fun opened => ?_⟩
    obtain ⟨n, below, same⟩ := a.known _ opened
    have same := toString_injective same
    omega
  case known => exact after.known

/-- The request at hand opens its gate. -/
theorem unlock {k : Ticket} (a : Attends e [k] line arrived) :
    Attends (e.unlock k.gate) [] line arrived := by
  constructor
  case gates =>
    have shut : e.shutGate? = some k.gate := by
      have gates := a.gates
      cases gate : e.shutGate? with
      | none => simp [gate] at gates
      | some name => simpa [gate] using gates.symm
    rw [Exclusive.shutGate?_unlock shut]
    rfl
  case ahead => simp
  case ordered => exact a.ordered
  case below => exact fun q waits => a.below q (List.mem_cons_of_mem k waits)
  case tasks => exact a.tasks
  case last => exact a.last
  case unopened =>
    intro q waits opened
    rcases List.mem_cons.mp opened with same | before
    · have less := a.ahead k List.mem_cons_self q waits
      have same := toString_injective same
      omega
    · exact a.unopened q waits before
  case known =>
    intro gate opened
    rcases List.mem_cons.mp opened with rfl | before
    · exact ⟨k.number, a.below k List.mem_cons_self, rfl⟩
    · exact a.known gate before

/-- A section that is free starts the task of the request that is first in line. -/
theorem proceed {k : Ticket} (a : Attends e [] (k :: line) arrived) :
    ∃ c : Queue.Call Unit, c.task = k.task ∧ e.proceed.2 = [.started c] ∧
      Attends e.proceed.1 [k] line arrived := by
  obtain ⟨c, rest, waiting, first, others⟩ := List.map_eq_cons_iff.mp a.tasks
  have work : c.task.work = .wait k.gate (.finish (.ok ())) := by rw [first]; rfl
  refine ⟨c, first, ?_, ?_⟩
  · rw [Exclusive.proceed_of_wait waiting work]
  rw [Exclusive.proceed_of_wait waiting work]
  obtain ⟨ahead, ordered⟩ := List.pairwise_cons.mp a.ordered
  constructor
  case gates => simp [Exclusive.shutGate?, a.unopened k List.mem_cons_self]
  case ahead => exact List.forall_mem_singleton.mpr ahead
  case ordered => exact ordered
  case below => exact a.below
  case tasks => exact others
  case last =>
    rintro c gate work ⟨⟩
    rfl
  case unopened => exact fun q waits => a.unopened q (List.mem_cons_of_mem k waits)
  case known => exact a.known

/-- Nobody is at hand in the steps of a section between two tasks. -/
theorem withTurn (a : Attends e hand line arrived) (free : e.shutGate? = none)
    {turn : Queue.Turn (Queue.Held Unit)}
    (past : ∀ c gate work, turn ≠ .held ⟨c, .gate gate work⟩) :
    Attends (e.withTurn turn) hand line arrived :=
  { a with
    gates := by
      have still : (e.withTurn turn).shutGate? = none := by
        unfold Exclusive.shutGate?
        split
        case h_1 c gate work held => exact absurd held (past c gate work)
        case h_2 => rfl
      rw [still, ← free, a.gates]
    last := fun c gate work held => absurd held (past c gate work) }

/-- If nobody is in line, a section that is free becomes idle. -/
theorem proceed_nil (a : Attends e hand [] arrived) (free : e.shutGate? = none) :
    e.proceed.2 = [] ∧ Attends e.proceed.1 hand [] arrived := by
  have idle : e.proceed = (e.withTurn .idle, []) := by
    unfold Exclusive.proceed
    rw [List.map_eq_nil_iff.mp a.tasks]
  rw [idle]
  exact ⟨rfl, a.withTurn free fun _ _ _ turn => by cases turn⟩

end Attends

/-! ### All sections -/

/-- Those that take turns at a target. -/
def takers (target : Nat) (tickets : List Ticket) : List Ticket :=
  tickets.filter fun k => k.inTurn && k.target == target

theorem takers_append (target : Nat) (first second : List Ticket) :
    takers target (first ++ second) = takers target first ++ takers target second :=
  List.filter_append ..

namespace Traffic

/-- Every section is as the requests are. Besides those that wait, some may be about to go on. -/
structure InTurn (t : Traffic) (going : List Ticket) : Prop where
  attends : ∀ target, Attends (t.sections target)
    (takers target (t.flights.map (·.toTicket) ++ going))
    (takers target (t.queued.map (·.toTicket))) t.arrived
  turns : ∀ q ∈ t.queued, q.inTurn = true

theorem sections_setSection (t : Traffic) (target : Nat) (e : Exclusive Unit) :
    (t.setSection target e).sections target = e :=
  if_pos rfl

theorem setSection_setSection (t : Traffic) (target : Nat) (e e' : Exclusive Unit) :
    (t.setSection target e).setSection target e' = t.setSection target e' := by
  unfold setSection
  congr 1
  funext other
  by_cases here : other = target
  · rw [if_pos here, if_pos here]
  · rw [if_neg here, if_neg here]
    exact if_neg here

/-- To go on from where a task has been lined up is to go on. -/
theorem follow_submitted (t : Traffic) (target : Nat) (e : Exclusive Unit) (c : Queue.Call Unit) :
    t.follow target (e.proceed.1, .submitted c :: e.proceed.2) =
      (t.setSection target e).follow target ((t.setSection target e).sections target).proceed := by
  rw [sections_setSection]
  unfold follow
  rw [setSection_setSection]
  rfl

namespace InTurn

variable {t : Traffic} {k : Ticket}

/-- The section of a request that is over may go on. -/
theorem leave (h : InTurn t [k]) : InTurn (t.leave k) [] := by
  refine ⟨fun target => ?_, by rw [leave_eq]; exact h.turns⟩
  have attends := h.attends target
  rw [takers_append] at attends
  by_cases here : k.inTurn = true ∧ k.target = target
  case pos =>
    obtain ⟨turns, rfl⟩ := here
    have taker : takers k.target [k] = [k] := by simp [takers, turns]
    have alone : takers k.target (t.flights.map (·.toTicket)) = [] := by
      have short := attends.length_hand_le
      rw [taker, List.length_append, List.length_singleton] at short
      exact List.length_eq_zero_iff.mp (by omega)
    rw [taker, alone] at attends
    rw [Traffic.leave, turns]
    simp only [if_true, setSection, List.append_nil, alone]
    exact attends.unlock
  case neg =>
    have none : takers target [k] = [] := by
      rw [takers, List.filter_eq_nil_iff]
      simpa using here
    have same : (t.leave k).sections target = t.sections target := by
      unfold Traffic.leave
      split
      case isTrue turns => exact if_neg fun equal => here ⟨turns, equal.symm⟩
      case isFalse => rfl
    rw [none, List.append_nil] at attends
    rw [same, leave_eq]
    dsimp only
    rw [List.append_nil]
    exact attends

/-- A request that goes on waits again, or it is over. -/
theorem proceed (h : InTurn t [k]) (p : Program Outcome) : InTurn (t.proceed k p).1 [] := by
  unfold Traffic.proceed
  split
  case h_1 state outcome advanced => exact InTurn.leave ⟨h.attends, h.turns⟩
  case h_2 state c next advanced =>
      refine ⟨fun target => ?_, h.turns⟩
      dsimp only
      rw [List.map_append, List.append_nil]
      exact h.attends target

/-- Whoever has its call answered goes on. -/
theorem without (h : InTurn t []) {f : Flight} (waits : f ∈ t.flights)
    (distinct : (t.flights.map (·.number)).Nodup) :
    InTurn { t with flights := t.flights.filter (·.number != f.number) } [f.toTicket] := by
  refine ⟨fun target => (h.attends target).of_perm (List.Perm.filter _ ?_), h.turns⟩
  rw [List.append_nil]
  have same := (cons_filter_perm (·.number) waits distinct).map (·.toTicket)
  exact (List.perm_append_singleton ..).trans same

/-- A request that takes no turns concerns no section. -/
theorem aside (h : InTurn t []) (outside : k.inTurn = false) :
    InTurn { t with arrived := t.arrived + 1 } [k] := by
  refine ⟨fun target => ?_, h.turns⟩
  have none : takers target [k] = [] := by simp [takers, outside]
  rw [takers_append, none]
  have attends := (h.attends target).later (Nat.le_succ t.arrived)
  rwa [takers_append] at attends

/-- The section of a target goes on. -/
theorem setSection (h : InTurn t []) {target : Nat} {e : Exclusive Unit}
    (attends : Attends e (takers target (t.flights.map (·.toTicket)))
      (takers target (t.queued.map (·.toTicket))) t.arrived) :
    InTurn (t.setSection target e) [] := by
  refine ⟨fun other => ?_, h.turns⟩
  by_cases here : other = target
  case pos =>
    subst here
    simp only [Traffic.setSection, if_true, List.append_nil]
    exact attends
  case neg =>
    simp only [Traffic.setSection, if_neg here]
    exact h.attends other

theorem takers_queued (h : InTurn t []) (target : Nat) :
    takers target (t.queued.map (·.toTicket)) =
      (t.queued.filter (·.target == target)).map (·.toTicket) := by
  rw [takers, List.filter_map]
  refine congrArg _ (List.filter_congr fun q waits => ?_)
  simp [h.turns q waits]

theorem takers_taking (target number : Nat) :
    takers target ((t.queued.filter (·.number != number)).map (·.toTicket)) =
      (takers target (t.queued.map (·.toTicket))).filter (·.number != number) := by
  rw [takers, takers, List.filter_map, List.filter_map, List.filter_map, List.filter_comm]
  rfl

/-- The request that is first in line at a target is taken out of the line, and of no other. -/
theorem taking (h : InTurn t []) {target : Nat} {e : Exclusive Unit} {q : Queued}
    {rest : List Ticket} (waits : q ∈ t.queued) (distinct : (t.queued.map (·.number)).Nodup)
    (line : takers target (t.queued.map (·.toTicket)) = q.toTicket :: rest)
    (alone : takers target (t.flights.map (·.toTicket)) = [])
    (attends : Attends e [q.toTicket] rest t.arrived) :
    InTurn (t.taking target e q) [q.toTicket] := by
  have first : q.toTicket ∈ takers target (t.queued.map (·.toTicket)) :=
    line ▸ List.mem_cons_self
  obtain ⟨-, taker⟩ := List.mem_filter.mp first
  obtain ⟨turns, rfl⟩ : q.inTurn = true ∧ q.target = target := by simpa using taker
  refine ⟨fun other => ?_, fun other among => h.turns other (List.mem_filter.mp among).1⟩
  rw [Traffic.taking]
  dsimp only [Traffic.setSection]
  rw [takers_taking, takers_append]
  by_cases here : other = q.target
  case pos =>
    subst here
    have ordered := (h.attends q.target).ordered
    rw [line] at ordered
    have kept : ∀ k ∈ rest, (k.number != q.number) = true := fun k among =>
      bne_iff_ne.mpr (Nat.ne_of_gt ((List.pairwise_cons.mp ordered).1 k among))
    have removed : (q.toTicket :: rest).filter (·.number != q.number) = rest := by
      rw [List.filter_cons_of_neg (by simp), List.filter_eq_self.mpr kept]
    have taken : takers q.target [q.toTicket] = [q.toTicket] := by simp [takers, turns]
    rw [if_pos rfl, line, removed, alone, taken]
    exact attends
  case neg =>
    have kept : ∀ k ∈ takers other (t.queued.map (·.toTicket)), (k.number != q.number) = true := by
      intro k among
      obtain ⟨member, elsewhere⟩ := List.mem_filter.mp among
      obtain ⟨q', waits', rfl⟩ := List.mem_map.mp member
      refine bne_iff_ne.mpr fun same => ?_
      obtain rfl := List.inj_on_of_nodup_map distinct waits' waits same
      simp [Ne.symm here] at elsewhere
    have none : takers other [q.toTicket] = [] := by simp [takers, Ne.symm here]
    have same := h.attends other
    rw [takers_append] at same
    rw [if_neg here, List.filter_eq_self.mpr kept, none]
    exact same

/-- A section that is free starts the task of the request that is first in line there, and that
request goes on. -/
theorem follow (h : InTurn t []) {target : Nat}
    (free : ∀ held, (t.sections target).queue.turn ≠ .held held)
    (distinct : (t.queued.map (·.number)).Nodup) :
    InTurn (t.follow target (t.sections target).proceed).1 [] := by
  have attends := h.attends target
  have unshut := Exclusive.shutGate?_of_free free
  have alone := attends.hand_eq_nil unshut
  rw [alone] at attends
  rw [List.append_nil] at alone
  cases line : takers target (t.queued.map (·.toTicket)) with
  | nil =>
      rw [line] at attends
      obtain ⟨none, after⟩ := attends.proceed_nil unshut
      rw [Traffic.follow, none]
      refine h.setSection ?_
      rw [alone, line]
      exact after
  | cons k rest =>
      rw [line] at attends
      obtain ⟨c, task, started, after⟩ := attends.proceed
      have first := h.takers_queued target
      rw [line] at first
      obtain ⟨q, others, filtered, rfl, -⟩ := List.map_eq_cons_iff.mp first.symm
      have found :
          t.queued.find? (fun q => q.target == target && q.gate == c.task.id) = some q := by
        have own : (q.gate == q.task.id) = true := beq_self_eq_true _
        have first :
            (t.queued.filter (·.target == target)).find? (·.gate == q.task.id) = some q := by
          rw [filtered, List.find?_cons, own]
        rw [List.find?_filter] at first
        simp only [task, ← first, Bool.decide_and, Bool.decide_eq_true]
      have waits := List.mem_of_find?_eq_some found
      have followed : t.follow target (t.sections target).proceed =
          (t.taking target (t.sections target).proceed.1 q).proceed q.toTicket q.program := by
        rw [Traffic.follow, started]
        dsimp only [List.findSome?_cons, TaskEvent.start?, Option.bind_some, Traffic.setSection]
        rw [found]
        rfl
      rw [followed]
      exact (h.taking waits distinct line alone after).proceed q.program

/-- The section of a target goes on by one step. -/
theorem advance (h : InTurn t []) (distinct : (t.queued.map (·.number)).Nodup) (target : Nat) :
    InTurn (t.step (.advances target)).1 [] := by
  have attends := h.attends target
  have setting {e : Exclusive Unit} {events : List (TaskEvent Unit)}
      (silent : events.findSome? TaskEvent.start? = none)
      (after : Attends e (takers target (t.flights.map (·.toTicket) ++ []))
        (takers target (t.queued.map (·.toTicket))) t.arrived) :
      InTurn (t.follow target (e, events)).1 [] := by
    rw [Traffic.follow, silent]
    rw [List.append_nil] at after
    exact h.setSection after
  rw [Traffic.step]
  cases moved : (t.sections target).advance? with
  | none => exact h
  | some moved' =>
      rw [Option.map_some, Option.getD_some]
      unfold Exclusive.advance? at moved
      split at moved
      case h_1 => cases moved
      case h_2 turn =>
          cases moved
          exact h.follow (fun held other => by rw [turn] at other; cases other) distinct
      case h_3 c gate work turn =>
          split at moved
          case isTrue opened =>
              cases moved
              have unshut : (t.sections target).shutGate? = none := by
                rw [Exclusive.shutGate?, turn]
                exact if_pos opened
              obtain rfl := attends.last c gate work turn
              exact setting rfl (attends.withTurn unshut fun _ _ _ held => by cases held)
          case isFalse => cases moved
      case h_4 c ending turn =>
          cases moved
          have unshut : (t.sections target).shutGate? = none := by
            rw [Exclusive.shutGate?, turn]
          exact setting rfl (attends.withTurn unshut fun _ _ _ held => by cases held)

/-- The request that arrived last is the last in line. -/
theorem enlist (h : InTurn t []) (number : k.number = t.arrived) (turns : k.inTurn = true)
    (p : Program Outcome) :
    let lined : Traffic := { t with arrived := t.arrived + 1, queued := t.queued ++ [⟨k, p⟩] }
    InTurn (lined.setSection k.target ((t.sections k.target).enlist k.task)) [] := by
  intro lined
  refine ⟨fun target => ?_,
    List.forall_mem_append.mpr ⟨h.turns, List.forall_mem_singleton.mpr turns⟩⟩
  have attends := h.attends target
  dsimp only [Traffic.setSection, lined]
  rw [List.map_append, takers_append target (t.queued.map _)]
  by_cases here : target = k.target
  case pos =>
    subst here
    have taker : takers k.target (([⟨k, p⟩] : List Queued).map (·.toTicket)) = [k] := by
      simp [takers, turns]
    rw [if_pos rfl, taker]
    exact attends.enlist number
  case neg =>
    have none : takers target (([⟨k, p⟩] : List Queued).map (·.toTicket)) = [] := by
      simp [takers, Ne.symm here]
    rw [if_neg here, none, List.append_nil (takers _ _)]
    exact attends.later (Nat.le_succ t.arrived)

/-- The request that arrived last lines up; at a section that is idle it has its turn at once. -/
theorem lineUp (h : InTurn t []) (number : k.number = t.arrived) (turns : k.inTurn = true)
    (distinct : ((t.queued.map (·.number)) ++ [t.arrived]).Nodup) (p : Program Outcome) :
    InTurn (Traffic.lineUp { t with arrived := t.arrived + 1 } k p).1 [] := by
  let lined : Traffic := { t with arrived := t.arrived + 1, queued := t.queued ++ [⟨k, p⟩] }
  have after := h.enlist number turns p
  rw [Traffic.lineUp]
  dsimp only
  rw [Exclusive.submit]
  dsimp only
  split
  case h_1 idle =>
      rw [follow_submitted]
      refine after.follow (fun held turn => ?_) ?_
      · rw [sections_setSection] at turn
        change (t.sections k.target).queue.turn = .held held at turn
        rw [idle] at turn
        cases turn
      · change (List.map (·.number) (t.queued ++ [Queued.mk k p])).Nodup
        rw [List.map_append, List.map_singleton, number]
        exact distinct
  case h_2 => exact after

theorem step {log : List Event} (h : InTurn t [])
    (all : (t.accounted log).Perm (List.range t.arrived)) (m : Move) : InTurn (t.step m).1 [] := by
  obtain ⟨flights, others, -⟩ := List.nodup_append.mp (all.nodup_iff.mpr List.nodup_range)
  have queued := (List.nodup_append.mp others).1
  cases m with
  | arrives target request session =>
      rw [Traffic.step, Traffic.arrive]
      cases t.service.table? target with
      | none => exact h
      | some table =>
          dsimp only
          split
          case isTrue inTurn =>
              refine h.lineUp rfl inTurn (queued.append (List.nodup_singleton _) ?_) _
              intro number waits last
              obtain rfl := List.mem_singleton.mp last
              have member := all.mem_iff.mp (List.mem_append_right _ (List.mem_append_left _ waits))
              exact Nat.lt_irrefl _ (List.mem_range.mp member)
          case isFalse outside => exact (h.aside (Bool.eq_false_iff.mpr outside)).proceed _
  | settles number answer =>
      rw [Traffic.step]
      cases found : t.flights.find? (·.number == number) with
      | none =>
          rw [settle, found]
          exact h
      | some f =>
          obtain rfl : f.number = number := by simpa using List.find?_some found
          rw [settle_of_waits found]
          exact (h.without (List.mem_of_find?_eq_some found) flights).proceed _
  | advances target => exact h.advance queued target

end InTurn

/-! ### Sections are run -/

/-- All sections are as runs have left them. -/
def Reached (t : Traffic) : Prop := ∀ target, (t.sections target).Reached

namespace Reached

variable {t : Traffic}

theorem setSection (reached : Reached t) (target : Nat) {e : Exclusive Unit}
    (reached' : e.Reached) : Reached (t.setSection target e) := by
  intro other
  unfold Traffic.setSection
  dsimp only
  split
  · exact reached'
  · exact reached other

theorem proceed (reached : Reached t) (k : Ticket) (p : Program Outcome) :
    Reached (t.proceed k p).1 := by
  unfold Traffic.proceed
  split
  case h_1 state outcome advanced =>
      dsimp only
      unfold Traffic.leave
      split
      · exact Reached.setSection (t := { t with service := _ }) reached _
          ((reached k.target).step (.unlock k.gate))
      · exact reached
  case h_2 => exact reached

theorem follow (reached : Reached t) (target : Nat) {moved : Exclusive Unit × List (TaskEvent Unit)}
    (moved_reached : moved.1.Reached) : Reached (t.follow target moved).1 := by
  have after := reached.setSection target moved_reached
  rcases t.follow_cases target moved with same | ⟨q, -, same⟩
  · rw [same]
    exact after
  · rw [same]
    exact Reached.proceed (t := t.taking target moved.1 q) after q.toTicket q.program

theorem lineUp (reached : Reached t) (k : Ticket) (p : Program Outcome) :
    Reached (t.lineUp k p).1 := by
  let lined : Traffic := { t with queued := t.queued ++ [⟨k, p⟩] }
  exact follow (t := lined) reached k.target ((reached k.target).step (.submit k.task))

theorem step (reached : Reached t) (m : Move) : Reached (t.step m).1 := by
  cases m with
  | arrives target request session =>
      rw [Traffic.step, Traffic.arrive]
      split
      case h_1 => exact reached
      case h_2 table found =>
          dsimp only
          split
          · exact lineUp (t := { t with arrived := t.arrived + 1 }) reached _ _
          · exact proceed (t := { t with arrived := t.arrived + 1 }) reached _ _
  | settles number answer =>
      rw [Traffic.step, settle]
      split
      case h_1 => exact reached
      case h_2 f found =>
          let rest : Traffic := { t with flights := t.flights.filter (·.number != number) }
          exact proceed (t := rest) reached f.toTicket (f.next (answer f.call))
  | advances target =>
      rw [Traffic.step]
      cases moved : (t.sections target).advance? with
      | none => exact reached
      | some moved' =>
          have next := (reached target).step .advance
          rw [Exclusive.step, moved] at next
          exact reached.follow target next

end Reached

/-! ### What every run keeps -/

/-- **Requests to a list take turns.** At every moment of a run, whatever requests have arrived and
in whatever order their calls were answered,

* of the requests that take turns at a target at most one waits for an answer;
* those that wait for their turn there have arrived later than that one;
* if there is none, the section of the target goes on, so that nobody waits for a turn in vain. -/
theorem run_inTurn (s : Service) (moves : List Move) :
    let t := ((ofService s).run moves).1
    (∀ f ∈ t.flights, ∀ g ∈ t.flights, f.inTurn = true → g.inTurn = true →
      f.target = g.target → f = g) ∧
    (∀ f ∈ t.flights, f.inTurn = true → ∀ q ∈ t.queued, q.target = f.target →
      f.number < q.number) ∧
    ∀ q ∈ t.queued, (∀ f ∈ t.flights, f.inTurn = true → f.target ≠ q.target) →
      (t.sections q.target).advance?.isSome = true := by
  intro t
  let P (t : Traffic) (log : List Event) : Prop :=
    (t.accounted log).Perm (List.range t.arrived) ∧ InTurn t [] ∧ Reached t
  have none_yet : P (ofService s) [] :=
    ⟨.refl [], ⟨fun _ => .initial 0, fun q waits => absurd waits List.not_mem_nil⟩,
      fun _ => .initial⟩
  have keeps (t : Traffic) (log : List Event) (m : Move) (holds : P t log) :
      P (t.step m).1 (log ++ (t.step m).2) :=
    ⟨accounted_step holds.1 m, holds.2.1.step holds.1 m, holds.2.2.step m⟩
  obtain ⟨all, inTurn, reached⟩ := run_induction keeps none_yet moves
  have distinct := (List.nodup_append.mp (all.nodup_iff.mpr List.nodup_range)).1
  have atHand {f : Flight} (waits : f ∈ t.flights) (turns : f.inTurn = true) :
      f.toTicket ∈ takers f.target (t.flights.map (·.toTicket) ++ []) := by
    rw [List.append_nil]
    exact List.mem_filter.mpr ⟨List.mem_map_of_mem waits, by simp [turns]⟩
  have inLine {q : Queued} (waits : q ∈ t.queued) :
      q.toTicket ∈ takers q.target (t.queued.map (·.toTicket)) :=
    List.mem_filter.mpr ⟨List.mem_map_of_mem waits, by simp [inTurn.turns q waits]⟩
  refine ⟨?_, ?_, ?_⟩
  · intro f waits g waits' turns turns' same
    have ticket := (inTurn.attends f.target).eq_of_mem_hand (atHand waits turns)
      (same ▸ atHand waits' turns')
    exact List.inj_on_of_nodup_map distinct waits waits' (congrArg (·.number) ticket)
  · intro f waits turns q waits' same
    exact (inTurn.attends f.target).ahead _ (atHand waits turns) _ (same ▸ inLine waits')
  · intro q waits others
    have attends := inTurn.attends q.target
    have nobody : takers q.target (t.flights.map (·.toTicket) ++ []) = [] := by
      rw [List.append_nil, takers, List.filter_eq_nil_iff]
      intro k among
      obtain ⟨f, waiting, rfl⟩ := List.mem_map.mp among
      simpa using others f waiting
    rw [nobody] at attends
    exact attends.advances (reached q.target).awake (List.ne_nil_of_mem (inLine waits))

end Traffic
end Hid.Service
