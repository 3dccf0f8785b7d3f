import Hid.Proofs.Activation.Run

/-!
What the registry holds while activations overlap. `run_sound` says that the registry
keeps within its capacity and without repeats, that it holds what devices agreed to in the
order of their answers, that it only grows and by one handle at a time, that no device is
asked in vain, and that an activation that fails leaves no trace.

Between the moment at which a device is asked and the one at which its answer is noted,
other activations arrive and wait. `Sound` carries what was found out when the device was
asked through that gap: the handle is still missing and there is still room for it.
-/

namespace Hid.Activation

/-- The device that has agreed to be activated. -/
@[simp] def Event.accepted? : Event → Option DeviceHandle
  | noted h answer => if succeeds answer then some h else none
  | _ => none

/-- The devices that have agreed to be activated, in the order of their answers. -/
def accepted (log : List Event) : List DeviceHandle := log.filterMap Event.accepted?

namespace Line

/-- What a line of activations is like after a log that began with an empty registry. -/
structure Sound (capacity : Nat) (l : Line) (log : List Event) : Prop where
  fixed : l.registry.capacity = capacity
  entries : l.registry.entries = accepted log
  bound : l.registry.size ≤ capacity
  distinct : l.registry.entries.Pairwise fun a b => a.same b = false
  /-- Nothing that the check has found can change before the answer is noted. -/
  missing : ∀ h ∈ l.outstanding, l.registry.has h = false ∧ l.registry.size < capacity

section Steps

variable {capacity : Nat} {l l' : Line} {m : Moment} {log events : List Event}

/-- Steps that leave the registry as it is keep a line sound. -/
theorem Sound.of_registry (sound : Sound capacity l log) (same : l'.registry = l.registry)
    (none_agrees : accepted events = [])
    (missing : ∀ h ∈ l'.outstanding, h ∈ l.outstanding ∨
      l.registry.has h = false ∧ l.registry.size < capacity) :
    Sound capacity l' (log ++ events) := by
  refine ⟨?_, ?_, ?_, ?_, fun h member => ?_⟩
  · rw [same, sound.fixed]
  · rw [same, sound.entries, accepted, accepted, List.filterMap_append]
    rw [accepted] at none_agrees
    rw [none_agrees, List.append_nil]
  · rw [same]
    exact sound.bound
  · rw [same]
    exact sound.distinct
  · rw [same]
    rcases missing h member with before | found
    · exact sound.missing h before
    · exact found

/-- A handle that is missing may be appended where there is room. -/
theorem Sound.append {h : DeviceHandle} (sound : Sound capacity l log)
    (registry : l'.registry = { l.registry with entries := l.registry.entries ++ [h] })
    (agrees : accepted events = [h]) (settled : l'.outstanding = [])
    (asked : h ∈ l.outstanding) : Sound capacity l' (log ++ events) := by
  obtain ⟨absent, room⟩ := sound.missing h asked
  refine ⟨?_, ?_, ?_, ?_, ?_⟩
  · rw [registry, sound.fixed]
  · rw [registry, sound.entries]
    rw [accepted] at agrees
    rw [accepted, accepted, List.filterMap_append, agrees]
  · rw [registry]
    simpa [Registry.size] using Nat.succ_le_of_lt room
  · rw [registry, List.pairwise_append]
    refine ⟨sound.distinct, List.pairwise_singleton _ _, fun a member b new => ?_⟩
    rw [List.mem_singleton] at new
    rw [new]
    simpa using List.any_eq_false.mp absent a member
  · simp [settled]

theorem Stepped.sound (h : Stepped l m l' events) (sound : Sound capacity l log) :
    Sound capacity l' (log ++ events) := by
  cases h with
  | still => exact sound.of_registry rfl rfl fun h member => .inl member
  | lined => exact sound.of_registry rfl rfl fun h member => .inl member
  | @answered job answer hand =>
      refine sound.of_registry rfl rfl fun h member => .inl ?_
      simpa [outstanding, hand] using member
  | @noted job answer hand =>
      have asked : job.handle ∈ l.outstanding := by simp [outstanding, hand]
      by_cases agrees : succeeds answer = true
      · refine sound.append  ?_ ?_ ?_ asked
        · exact Registry.afterDevice_of_succeeds agrees
        · simp [accepted, agrees]
        · simp [outstanding]
      · have refuses : succeeds answer = false := by simpa using agrees
        refine sound.of_registry (Registry.afterDevice_of_fails refuses) ?_ ?_
        · simp [accepted, refuses]
        · simp [outstanding]
  | settled => exact sound.of_registry rfl rfl (by simp [outstanding])
  | cleared => exact sound.of_registry rfl rfl (by simp [outstanding])
  | spared => exact sound.of_registry rfl rfl (by simp [outstanding])
  | @asked job rest free next decision =>
      obtain ⟨-, absent, room⟩ := Registry.consider_eq_askDevice.mp decision
      refine sound.of_registry rfl rfl fun h member => .inr ?_
      have this_one : h = job.handle := by simpa [outstanding] using member
      rw [this_one, ← sound.fixed]
      exact ⟨absent, room⟩

/-- A step leaves what the registry holds or appends one handle to it. -/
theorem Stepped.entries (h : Stepped l m l' events) :
    l'.registry.entries = l.registry.entries ∨
      ∃ h, l'.registry.entries = l.registry.entries ++ [h] := by
  cases h with
  | @noted job answer =>
      by_cases agrees : succeeds answer = true
      · right
        exact ⟨job.handle, by simp [Registry.afterDevice_of_succeeds agrees]⟩
      · left
        have refuses : succeeds answer = false := by simpa using agrees
        simp [Registry.afterDevice_of_fails refuses]
  | _ => exact .inl rfl

/-- A device is asked in the step that validates its handle, if the handle is valid, missing
and has room, and in no other. -/
theorem Stepped.asked_iff (h : Stepped l m l' events) (handle : DeviceHandle) :
    .asked handle ∈ events ↔
      .validated handle (m.rule handle) ∈ events ∧ (m.rule handle).isSuccess = true ∧
        l.registry.has handle = false ∧ l.registry.size < l.registry.capacity := by
  rw [← Registry.consider_eq_askDevice]
  cases h with
  | @spared job rest code free next decision =>
      constructor
      · intro asked
        simp at asked
      · rintro ⟨validated, asks⟩
        have same : handle = job.handle := by simp_all
        rw [same, decision] at asks
        cases asks
  | @asked job rest free next decision =>
      constructor
      · intro asked
        have same : handle = job.handle := by simpa using asked
        rw [same]
        exact ⟨List.mem_cons_self, decision⟩
      · rintro ⟨validated, -⟩
        have same : handle = job.handle := by simp_all
        simp [same]
  | _ => simp

/-- What is in the registry stays there, and so does a registry that is full. -/
theorem Stepped.closed (h : Stepped l m l' events) {handle : DeviceHandle}
    (closed : l.registry.has handle = true ∨ l.registry.capacity ≤ l.registry.size) :
    l'.registry.has handle = true ∨ l'.registry.capacity ≤ l'.registry.size := by
  cases h with
  | @noted job answer =>
      by_cases agrees : succeeds answer = true
      · rw [registry_withTurn, Registry.afterDevice_of_succeeds agrees]
        rcases closed with present | full
        · left
          simp_all [Registry.has]
        · right
          simp only [Registry.size, List.length_append] at full ⊢
          omega
      · have refuses : succeeds answer = false := by simpa using agrees
        rwa [registry_withTurn, Registry.afterDevice_of_fails refuses]
  | _ => exact closed

end Steps

/-- A device is never asked for a handle that the registry has, nor if it is full. -/
theorem not_asked_of_closed {l : Line} {handle : DeviceHandle}
    (closed : l.registry.has handle = true ∨ l.registry.capacity ≤ l.registry.size)
    (moments : List Moment) : .asked handle ∉ (l.run moments).2 := by
  induction moments generalizing l with
  | nil => simp [run]
  | cons m rest ih =>
      rw [run_cons, List.mem_append]
      rintro (now | later)
      · obtain ⟨-, -, absent, room⟩ := ((l.stepped m).asked_iff handle).mp now
        rcases closed with present | full
        · rw [present] at absent
          cases absent
        · omega
      · exact ih ((l.stepped m).closed closed) later

/-! ### Activations that fail -/

/-- The registry is as it was when the activation in hand was taken in hand, unless that
activation has come to a success. -/
def Untouched (before : Registry) (l : Line) : Prop :=
  match l.inHand with
  | some (_, .decided outcome) => succeeds outcome = false → l.registry = before
  | some _ => l.registry = before
  | none => False

section Failures

variable {before : Registry} {l l' : Line} {m : Moment} {events : List Event}

theorem Stepped.taken (h : Stepped l m l' events) {handle : DeviceHandle} {code : ResultCode}
    (validated : .validated handle code ∈ events) : Untouched l.registry l' := by
  cases h with
  | spared => exact fun _ => rfl
  | asked => exact rfl
  | _ => simp at validated

theorem Stepped.untouched (h : Stepped l m l' events) (hand : Untouched before l)
    (open_yet : events.filterMap Event.settled? = []) : Untouched before l' := by
  cases h with
  | still => exact hand
  | lined => exact hand
  | answered asking =>
      rw [Untouched, asking] at hand
      exact hand
  | @noted job answer answered =>
      rw [Untouched, answered] at hand
      intro failure
      rw [Registry.succeeds_outcome] at failure
      rw [registry_withTurn, Registry.afterDevice_of_fails failure]
      exact hand
  | settled => cases open_yet
  | cleared free => simp [Untouched, free] at hand
  | spared free => simp [Untouched, free] at hand
  | asked free => simp [Untouched, free] at hand

theorem Stepped.failed (h : Stepped l m l' events) (hand : Untouched before l) {label : String}
    {outcome : Answer} (settled : .settled label outcome ∈ events)
    (failure : succeeds outcome = false) : l'.registry = before := by
  cases h with
  | @settled job outcome' decided =>
      have same : outcome = outcome' := by simp_all
      rw [Untouched, decided] at hand
      exact hand (same ▸ failure)
  | _ => simp at settled

theorem run_untouched (hand : Untouched before l) (moments : List Moment)
    (open_yet : (l.run moments).2.filterMap Event.settled? = []) :
    Untouched before (l.run moments).1 := by
  induction moments generalizing l with
  | nil => exact hand
  | cons m rest ih =>
      rw [run_cons, List.filterMap_append, List.append_eq_nil_iff] at open_yet
      exact ih ((l.stepped m).untouched hand open_yet.1) open_yet.2

end Failures

/-! ### Runs -/

theorem Sound.run (capacity : Nat) (moments : List Moment) :
    let start := ofRegistry ⟨capacity, []⟩
    Sound capacity (start.run moments).1 (start.run moments).2 := by
  have initial : Sound capacity (ofRegistry ⟨capacity, []⟩) [] :=
    ⟨rfl, rfl, Nat.zero_le _, .nil, by simp [outstanding]⟩
  exact run_induction (fun l _ m sound => (l.stepped m).sound sound) initial moments

/-- Wherever a run from an empty registry leads, the registry keeps within its capacity and
has no handle twice. It holds the handles of the devices that were asked and agreed, in that
order; the devices that were asked are those whose answers have been noted and perhaps one
more. A step changes nothing in the registry or appends one handle. A device is asked in the
step that validates its handle if the handle is valid, missing and has room, whatever has
come of earlier activations, and otherwise not; so it is never asked for a handle that the
registry has or after the registry is full. An activation that is settled with a failure
leaves the registry as it found it. -/
theorem run_sound (capacity : Nat) (moments : List Moment) :
    let start := ofRegistry ⟨capacity, []⟩
    let l := (start.run moments).1
    let log := (start.run moments).2
    l.registry.size ≤ capacity ∧
    l.registry.entries.Pairwise (fun a b => a.same b = false) ∧
    l.registry.entries = accepted log ∧
    log.filterMap Event.asked? = log.filterMap (fun e => e.noted?.map Prod.fst) ++ l.outstanding ∧
    start.answers moments = log.filterMap (fun e => e.noted?.map Prod.snd) ++ l.unnoted ∧
    (∀ m, (l.step m).1.registry.entries = l.registry.entries ∨
      ∃ h, (l.step m).1.registry.entries = l.registry.entries ++ [h]) ∧
    (∀ m h, .asked h ∈ (l.step m).2 ↔
      .validated h (m.rule h) ∈ (l.step m).2 ∧ (m.rule h).isSuccess = true ∧
        l.registry.has h = false ∧ l.registry.size < capacity) ∧
    (∀ later h, l.registry.has h = true ∨ l.registry.size = capacity →
      .asked h ∉ (l.run later).2) ∧
    ∀ first middle last h code label outcome,
      let taken := l.step first
      let served := taken.1.run middle
      .validated h code ∈ taken.2 → served.2.filterMap Event.settled? = [] →
      .settled label outcome ∈ (served.1.step last).2 → succeeds outcome = false →
      (served.1.step last).1.registry = l.registry := by
  intro start l log
  have sound : Sound capacity l log := Sound.run capacity moments
  refine ⟨sound.bound, sound.distinct, sound.entries, ?_, ?_, fun m => (l.stepped m).entries,
    fun m h => ?_, fun later h closed => ?_, ?_⟩
  · exact run_asked start moments
  · exact run_heard start moments
  · rw [← sound.fixed]
    exact (l.stepped m).asked_iff h
  · refine not_asked_of_closed ?_ later
    rcases closed with present | full
    · exact .inl present
    · exact .inr (Nat.le_of_eq (sound.fixed.trans full.symm))
  · intro first middle last h code label outcome taken served validated open_yet settled failure
    have hand := run_untouched ((l.stepped first).taken validated) middle open_yet
    exact (served.1.stepped last).failed hand settled failure

end Line
end Hid.Activation
