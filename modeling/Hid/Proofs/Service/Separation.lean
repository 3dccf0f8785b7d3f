import Hid.Proofs.Service.Change

/-!
Objects that a service has handed out, and how little they have to do with each other. What becomes
of an object is told from the posts to it, and from the controllers that are accepted when they
come.

* `object_after`, `stats_after_of_ne`: a post leaves other objects and their statistics alone, and
  takes nothing out of a list.
* `object_created`: where an object comes from.
* `Mirrors.serve`: a list in a service and the same list in a service of its own are answered alike.
* `objects_separate`: both kinds of object in any run of a service.
-/

namespace Hid.Service

open Activation (Registry)
open Commands (askMotor deviceList)
open Device (Call)
open Dispatch (Outcome Request Session Stats Table)
open Wire (Layout)

/-! ### What becomes of an object -/

/-- An object later on: a resource keeps its client, and a list may get more handles behind those it
has. -/
inductive Kept : Interface → Interface → Prop where
  | resource (aruid : Int) : Kept (.appletResource aruid) (.appletResource aruid)
  | list {r r' : Registry} (capacity : r'.capacity = r.capacity)
      (entries : r.entries <+: r'.entries) : Kept (.deviceList r) (.deviceList r')

theorem Kept.refl (object : Interface) : Kept object object := by
  cases object with
  | appletResource aruid => exact .resource aruid
  | deviceList r => exact .list rfl (List.prefix_refl _)

theorem Kept.trans {first second third : Interface} (before : Kept first second)
    (later : Kept second third) : Kept first third := by
  cases before with
  | resource aruid => exact later
  | list capacity entries =>
      cases later with
      | list capacity' entries' =>
          exact .list (capacity'.trans capacity) (entries.trans entries')

section Objects

variable {s : Service} {p : Post} {k : Nat}

/-- A post to another target leaves an object as it is. -/
theorem object_after_of_ne (earlier : k < s.state.interfaces.length) (other : p.target ≠ k + 1) :
    (s.after p).state.interfaces[k]? = s.state.interfaces[k]? := by
  cases answered : s.attend p with
  | none => rw [after, answered, Option.map_none, Option.getD_none]
  | some a =>
      rw [after_of_attend answered]
      cases changed answered with
      | nothing same => rw [same]
      | resource _ _ _ state => rw [state, State.interfaces_add_of_lt earlier]
      | list _ _ _ state => rw [state, State.interfaces_add_of_lt earlier]
      | ids _ state => rw [state]
      | @activation position r h code answer target found state =>
          rw [state]
          apply State.interfaces_setRegistry_of_ne
          rintro rfl
          exact other target

/-- No post takes an object away, or a handle out of a list. -/
theorem object_after {object : Interface} (found : s.state.interfaces[k]? = some object) :
    ∃ later, (s.after p).state.interfaces[k]? = some later ∧ Kept object later := by
  obtain ⟨earlier, -⟩ := List.getElem?_eq_some_iff.mp found
  by_cases own : p.target = k + 1
  case neg => exact ⟨object, (object_after_of_ne earlier own).trans found, .refl object⟩
  cases answered : s.attend p with
  | none =>
      rw [after, answered, Option.map_none, Option.getD_none]
      exact ⟨object, found, .refl object⟩
  | some a =>
      rw [after_of_attend answered]
      cases changed answered with
      | nothing same => rw [same]; exact ⟨object, found, .refl object⟩
      | resource target | list target => rw [own] at target; cases target
      | ids accepted =>
          have target := (accepted?_eq_some_iff.mp accepted).1.target
          rw [own] at target
          cases target
      | @activation position r h code answer target list state =>
          obtain rfl : k = position := Nat.succ.inj (own.symm.trans target)
          obtain rfl := Option.some.inj (found.symm.trans list)
          obtain ⟨capacity, entries⟩ := r.grows_activate code h answer
          exact ⟨_, by rw [state, State.interfaces_setRegistry list], .list capacity entries⟩

theorem object_serve {object : Interface} (posts : List Post)
    (found : s.state.interfaces[k]? = some object) :
    ∃ later, (s.serve posts).state.interfaces[k]? = some later ∧ Kept object later := by
  induction posts generalizing s object with
  | nil => exact ⟨object, found, .refl object⟩
  | cons p rest ih =>
      obtain ⟨next, at_next, kept⟩ := object_after (p := p) found
      obtain ⟨last, at_last, later⟩ := ih at_next
      exact ⟨last, at_last, kept.trans later⟩

/-- Posts to other targets leave an object and its statistics as they are. -/
theorem object_serve_of_ne (posts : List Post) (earlier : k < s.state.interfaces.length)
    (others : ∀ p ∈ posts, p.target ≠ k + 1) :
    (s.serve posts).state.interfaces[k]? = s.state.interfaces[k]? ∧
      (s.serve posts).stats (k + 1) = s.stats (k + 1) := by
  induction posts generalizing s with
  | nil => exact ⟨rfl, rfl⟩
  | cons p rest ih =>
      obtain ⟨other, later⟩ := List.forall_mem_cons.mp others
      have same := object_after_of_ne earlier other
      have still : k < (s.after p).state.interfaces.length := by
        rw [List.getElem?_eq_getElem earlier] at same
        exact (List.getElem?_eq_some_iff.mp same).1
      obtain ⟨object, stats⟩ := ih still later
      rw [serve_cons, object, stats, same, stats_after_of_ne (Ne.symm other)]
      exact ⟨rfl, rfl⟩

end Objects

/-! ### Where an object comes from -/

/-- A request to the service that creates an object: a resource for the client that it names, or an
empty list. The reply hands the object out. -/
inductive Creates (s : Service) (p : Post) : Interface → Prop where
  | resource {a : Answered} {code : ResultCode} (target : p.target = 0)
      (opcode : p.request.opcode.plain = 0) (parameters : p.request.parameters.length = 8)
      (answered : s.attend p = some a)
      (told : a.outcome = .reply
        { result := code, handles := [.interface (s.state.interfaces.length + 1)] }) :
      Creates s p (.appletResource p.aruid)
  | list {a : Answered} {fresh : Registry} (target : p.target = 0) (opcode : p.request.opcode = 203)
      (made : Registry.ofCapacity s.config.activationCapacity = .ok fresh)
      (answered : s.attend p = some a)
      (told : a.outcome = .reply
        { result := .success, handles := [.interface (s.state.interfaces.length + 1)] }) :
      Creates s p (.deviceList fresh)

section Creation

variable {s : Service} {p : Post} {k : Nat}

/-- An object that was not there before a post was created by it. -/
theorem creates_of_length_lt (young : s.state.interfaces.length ≤ k)
    (old : k < (s.after p).state.interfaces.length) :
    s.state.interfaces.length = k ∧
      ∃ fresh, s.Creates p fresh ∧ (s.after p).state.interfaces[k]? = some fresh := by
  cases answered : s.attend p with
  | none =>
      rw [after, answered, Option.map_none, Option.getD_none] at old
      omega
  | some a =>
      have grown {fresh : Interface} (state : a.service.state = s.state.add fresh) :
          s.state.interfaces.length = k ∧ (s.after p).state.interfaces[k]? = some fresh := by
        rw [after_of_attend answered, state] at old
        rw [after_of_attend answered, state]
        obtain rfl : s.state.interfaces.length = k := by
          simp only [State.add, List.length_append, List.length_singleton] at old
          omega
        exact ⟨rfl, State.interfaces_add⟩
      cases changed answered with
      | resource target opcode parameters state told =>
          obtain ⟨length, found⟩ := grown state
          exact ⟨length, _, .resource target opcode parameters answered told, found⟩
      | list target opcode made state told =>
          obtain ⟨length, found⟩ := grown state
          exact ⟨length, _, .list target opcode made answered told, found⟩
      | nothing same =>
          rw [after_of_attend answered, same] at old
          omega
      | ids _ state =>
          rw [after_of_attend answered, state] at old
          exact absurd old (Nat.not_lt.mpr young)
      | activation _ _ state =>
          rw [after_of_attend answered, state, State.length_setRegistry] at old
          omega

/-- Posts to an object that is not there yet are lost. -/
theorem stats_after_of_length_le (young : s.state.interfaces.length ≤ k) :
    (s.after p).stats (k + 1) = s.stats (k + 1) := by
  by_cases own : p.target = k + 1
  · rw [after_of_none]
    rw [own, table?, List.getElem?_eq_none young]
    rfl
  · exact stats_after_of_ne (Ne.symm own)

/-- An object in a service that did not have it was created by one of the posts, before which it
had no statistics of its own. -/
theorem object_created {object : Interface} (posts : List Post)
    (young : s.state.interfaces.length ≤ k)
    (found : (s.serve posts).state.interfaces[k]? = some object) :
    ∃ before p later fresh, posts = before ++ p :: later ∧
      (s.serve before).state.interfaces.length = k ∧ (s.serve before).Creates p fresh ∧
      ((s.serve before).after p).state.interfaces[k]? = some fresh ∧ Kept fresh object ∧
      ((s.serve before).after p).stats (k + 1) = s.stats (k + 1) := by
  induction posts generalizing s with
  | nil =>
      have missing : s.state.interfaces[k]? = none := List.getElem?_eq_none young
      cases missing.symm.trans found
  | cons p rest ih =>
      by_cases still : (s.after p).state.interfaces.length ≤ k
      · obtain ⟨before, q, later, fresh, rfl, length, creates, at_first, kept, stats⟩ :=
          ih still found
        exact ⟨p :: before, q, later, fresh, rfl, length, creates, at_first, kept,
          stats.trans (stats_after_of_length_le young)⟩
      · obtain ⟨length, fresh, creates, at_first⟩ :=
          creates_of_length_lt young (Nat.not_le.mp still)
        obtain ⟨last, at_last, kept⟩ := object_serve rest at_first
        obtain rfl := Option.some.inj (found.symm.trans at_last)
        exact ⟨[], p, rest, fresh, rfl, length, creates, at_first, kept,
          stats_after_of_length_le young⟩

end Creation

/-! ### Lists of their own -/

/-- A post to an object, the controllers that are accepted when it comes, and what comes of it. -/
structure Visit where
  controllers : Controllers
  request : Request
  session : Session
  device : Device
  reply : Option (Outcome × List Call)

/-- The posts to a target among those to a service. -/
def visits (s : Service) (target : Nat) : List Post → List Visit
  | [] => []
  | p :: rest =>
      let later := (s.after p).visits target rest
      if p.target = target then
        ⟨s.state.controllers, p.request, p.session, p.device, s.reply p⟩ :: later
      else later

/-- A service of which nothing is left but one list, which nobody has asked anything. -/
def alone (r : Registry) : Service :=
  { start .initial with state := ⟨.initial, [.deviceList r]⟩ }

/-- The post of a visit to the first object. -/
def Visit.post (v : Visit) : Post := ⟨1, v.request, v.session, v.device⟩

/-- Makes the visits to the first object of a service, each with the controllers that it found
accepted, and says what comes of them now. -/
def replay (s : Service) : List Visit → Service × List (Option (Outcome × List Call))
  | [] => (s, [])
  | v :: rest =>
      let s := { s with state := { s.state with controllers := v.controllers } }
      let (last, replies) := (s.after v.post).replay rest
      (last, s.reply v.post :: replies)

/-- A request to a list is settled alike wherever the list is, or it is an activation. -/
theorem deviceList_decides (request : Request) :
    (∃ outcome, ∀ position session stats,
      (deviceList position).Settles request session stats outcome) ∨
    ∃ h, request.opcode.plain = 0 ∧ request.handles = [] ∧
      Layout.deviceHandle.decode request.parameters = .ok h := by
  by_cases opcode : request.opcode.plain = 0
  case neg =>
    refine .inl ⟨_, fun position session stats => Table.settles_of_none ?_⟩
    cases entry : (deviceList position).lookup? request.opcode with
    | none => rfl
    | some c => exact absurd (lookup_deviceList entry).1 opcode
  have entry (position : Nat) : (deviceList position).lookup? request.opcode = some
      (coded "ActivateVibrationDevice" .deviceHandle (Commands.activateIn position)) := by
    rw [← Table.lookup?_plain, opcode]
    rfl
  by_cases handles : request.handles = []
  case neg =>
    have other : ¬ request.hasHandles 0 := by
      intro none
      exact handles (List.length_eq_zero_iff.mp (Dispatch.Request.hasHandles_iff.mp none))
    exact .inl ⟨.violation (Dispatch.handleViolation request "ActivateVibrationDevice" 0),
      fun position session stats => Table.settles_handles (entry position) other⟩
  have none := Dispatch.Request.hasHandles_zero handles
  by_cases whole : request.parameters.length = 4
  case neg =>
    exact .inl ⟨.violation
        (Dispatch.sizeViolation request "ActivateVibrationDevice" "DeviceHandle" 4),
      fun position session stats => Table.settles_size (entry position) none whole⟩
  have decode := Layout.deviceHandle.decode_of_length_eq whole
  split at decode
  case h_1 fault failed =>
    exact .inl ⟨_, fun position session stats => Table.settles_fault (entry position) none decode⟩
  case h_2 h r found =>
    split at decode
    case isTrue all => exact .inr ⟨h, opcode, handles, decode⟩
    case isFalse part =>
      exact .inl ⟨_, fun position session stats => Table.settles_fault (entry position) none decode⟩

/-- The statistics of a list do not say where it is. -/
theorem count_deviceList (position : Nat) (opcode : Quantity) (outcome : Outcome) (stats : Stats) :
    (deviceList position).count opcode outcome stats =
      (deviceList 0).count opcode outcome stats := by
  have named (position : Nat) : ((deviceList position).lookup? opcode).map Dispatch.Command.name? =
      if opcode.plain = 0 then some (some "ActivateVibrationDevice") else none := by
    by_cases zero : opcode.plain = 0
    · rw [if_pos zero, ← Table.lookup?_plain, zero]
      rfl
    · rw [if_neg zero]
      cases entry : (deviceList position).lookup? opcode with
      | none => rfl
      | some c => exact absurd (lookup_deviceList entry).1 zero
  exact Table.count_congr ((named position).trans (named 0).symm) outcome stats

/-- A list in a service, and the same list as the only object of another. -/
structure Mirrors (k : Nat) (r : Registry) (s lone : Service) : Prop where
  object : s.state.interfaces[k]? = some (.deviceList r)
  alone : lone.state.interfaces = [.deviceList r]
  stats : lone.stats 1 = s.stats (k + 1)

section Mirroring

variable {k : Nat} {r : Registry} {s lone : Service} {p : Post}

/-- A post to the list is answered alike in both. -/
theorem Mirrors.own (mirrors : Mirrors k r s lone)
    (same : lone.state.controllers = s.state.controllers) (own : p.target = k + 1) :
    lone.reply { p with target := 1 } = s.reply p ∧
      ∃ r', Mirrors k r' (s.after p) (lone.after { p with target := 1 }) := by
  have object : lone.state.interfaces[0]? = some (.deviceList r) := by rw [mirrors.alone]; rfl
  rcases deviceList_decides p.request with ⟨outcome, settles⟩ | ⟨h, opcode, handles, decoded⟩
  · have found : s.table? p.target = some (deviceList k) := by
      rw [own, table?, mirrors.object]
      rfl
    have found' : lone.table? 1 = some (deviceList 0) := by
      rw [table?, object]
      rfl
    have here := attend_of_settles found (settles k p.session _)
    have there := attend_of_settles (p := { p with target := 1 }) found' (settles 0 p.session _)
    rw [reply_of_attend here, reply_of_attend there, after_of_attend here, after_of_attend there]
    dsimp only
    refine ⟨rfl, r, mirrors.object, mirrors.alone, ?_⟩
    simp only [tell, setStats, own, if_pos, mirrors.stats, count_deviceList k]
  · have here := attend_activation own mirrors.object opcode handles decoded
    have there := attend_activation (p := { p with target := 1 }) rfl object opcode handles decoded
    rw [reply_of_attend here, reply_of_attend there, after_of_attend here, after_of_attend there]
    constructor
    · simp only [activationIn, same]
    · refine ⟨_, State.interfaces_setRegistry mirrors.object, ?_, ?_⟩
      · simp only [activationIn, tell, setStats, State.setRegistry, mirrors.alone, same]
        rfl
      · simp only [activationIn, tell, setStats, own, if_pos, mirrors.stats, same,
          count_deviceList k]

/-- A post to another target is none to the list. -/
theorem Mirrors.other (mirrors : Mirrors k r s lone) (other : p.target ≠ k + 1) :
    Mirrors k r (s.after p) lone := by
  obtain ⟨earlier, -⟩ := List.getElem?_eq_some_iff.mp mirrors.object
  refine ⟨?_, mirrors.alone, ?_⟩
  · rw [object_after_of_ne earlier other, mirrors.object]
  · rw [stats_after_of_ne (Ne.symm other), mirrors.stats]

/-- Whatever posts a service gets, the posts to a list come to what they come to if the list is all
there is. -/
theorem Mirrors.serve (mirrors : Mirrors k r s lone) (posts : List Post) :
    (lone.replay (s.visits (k + 1) posts)).2 = (s.visits (k + 1) posts).map Visit.reply ∧
      ∃ r', Mirrors k r' (s.serve posts) (lone.replay (s.visits (k + 1) posts)).1 := by
  induction posts generalizing r s lone with
  | nil => exact ⟨rfl, r, mirrors⟩
  | cons p rest ih =>
      rw [visits, serve_cons]
      by_cases own : p.target = k + 1
      · let seeing : Service :=
          { lone with state := { lone.state with controllers := s.state.controllers } }
        have mirrors : Mirrors k r s seeing := ⟨mirrors.object, mirrors.alone, mirrors.stats⟩
        obtain ⟨first, next, later⟩ := mirrors.own rfl own
        obtain ⟨replies, last⟩ := ih later
        rw [if_pos own, List.map_cons, replay]
        exact ⟨congrArg₂ List.cons first replies, last⟩
      · rw [if_neg own]
        exact ih (mirrors.other own)

end Mirroring

/-! ### Resources of their own -/

section Resources

variable {s : Service} {p : Post} {k : Nat} {aruid : Int}

/-- The one command of a resource asks for the memory of the client that it was made for. -/
theorem lookup_appletResource {opcode : Quantity} {c : Dispatch.Command Program}
    (entry : (Commands.appletResource aruid).lookup? opcode = some c) :
    c = handedOut "GetSharedMemoryHandle" .empty
      fun _ => Handler.ask (.getSharedMemoryHandle aruid) := by
  obtain ⟨n, -, among⟩ := Table.exists_mem_rows entry
  exact congrArg Prod.snd (List.mem_singleton.mp among)

/-- A resource knows no other client, and a request for its memory that can be read asks for it. -/
theorem attend_resource (object : s.state.interfaces[k]? = some (.appletResource aruid))
    (own : p.target = k + 1) :
    ∃ a, s.attend p = some a ∧ (∀ c ∈ a.calls, c = .getSharedMemoryHandle aruid) ∧
      (p.request.opcode.plain = 0 → p.request.parameters = [] → p.request.handles = [] →
        a.calls = [.getSharedMemoryHandle aruid]) := by
  have found : s.table? p.target = some (Commands.appletResource aruid) := by
    rw [own, table?, object]
    rfl
  cases answered : s.attend p with
  | none =>
      rw [attend_eq_none_iff.mp answered] at found
      cases found
  | some a =>
      refine ⟨a, rfl, ?_, ?_⟩
      · intro c made
        obtain ⟨t, table, ⟨outcome, rfl⟩ | ⟨d, parameters, ran, entry, -, -, computed, rfl⟩⟩ :=
          attend_cases answered
        · cases made
        · obtain rfl := Option.some.inj (found.symm.trans table)
          obtain rfl := Dispatch.Command.implemented.inj (lookup_appletResource entry)
          have asked := computed.symm.trans
            (Handler.ran_bind_pure (x := Handler.ask (.getSharedMemoryHandle aruid)) _)
          rw [asked] at made
          exact List.mem_singleton.mp made
      · intro opcode parameters handles
        have entry : (Commands.appletResource aruid).lookup? p.request.opcode = some
            (handedOut "GetSharedMemoryHandle" .empty
              fun _ => Handler.ask (.getSharedMemoryHandle aruid)) := by
          rw [← Table.lookup?_plain, opcode]
          rfl
        have none := Dispatch.Request.hasHandles_zero handles
        have decoded : Layout.empty.decode p.request.parameters = .ok () := by
          rw [parameters]
          rfl
        rw [attend_of_decoded found entry none decoded] at answered
        obtain rfl := Option.some.inj answered
        rw [carryOut]
        dsimp only
        exact congrArg Ran.calls
          (Handler.ran_bind_pure (x := Handler.ask (.getSharedMemoryHandle aruid)) _)

end Resources

/-- **Objects have nothing to do with each other.** Whatever posts a new service gets, to itself
and to the objects that it hands out,

* a list was created empty by one of the posts, and the posts to it since then come to what they
  come to if the list is all there is: the same replies and the same calls, and in the end the same
  handles and the same statistics. Each finds the controllers accepted that it found, and its calls
  are answered as they were;
* posts to other targets leave an object and its statistics as they are, and nothing takes a handle
  out of a list or reorders the list;
* a valid handle that is not in a list which has room is looked for and activated, whatever other
  lists have it;
* a resource was created by one of the posts, which names the client, and calls nothing but the
  request for the memory of that client. -/
theorem objects_separate (config : Config) (deviceManaged : Option Bool) (posts : List Post)
    (k : Nat) :
    let first := start config deviceManaged
    let s := first.serve posts
    (∀ r, s.state.interfaces[k]? = some (.deviceList r) →
      (∃ before p later fresh, posts = before ++ p :: later ∧
        (first.serve before).state.interfaces.length = k ∧
        (first.serve before).Creates p (.deviceList fresh) ∧
        Registry.ofCapacity config.activationCapacity = .ok fresh ∧ fresh.entries = [] ∧
        let visits := ((first.serve before).after p).visits (k + 1) later
        let (lone, replies) := (alone fresh).replay visits
        lone.state.interfaces = [.deviceList r] ∧ lone.stats 1 = s.stats (k + 1) ∧
          replies = visits.map Visit.reply) ∧
      (∀ later, ∃ r', (s.serve later).state.interfaces[k]? = some (.deviceList r') ∧
        r'.capacity = r.capacity ∧ r.entries <+: r'.entries) ∧
      (∀ p h, p.target = k + 1 → p.request.opcode.plain = 0 → p.request.handles = [] →
        Layout.deviceHandle.decode p.request.parameters = .ok h →
        (validateVibrationHandle h s.state.controllers).isSuccess = true → r.has h = false →
        r.size < r.capacity →
        ∃ a, s.attend p = some a ∧ a.calls = (askMotor p.device [] h).2)) ∧
    (∀ later, k < s.state.interfaces.length → (∀ p ∈ later, p.target ≠ k + 1) →
      (s.serve later).state.interfaces[k]? = s.state.interfaces[k]? ∧
        (s.serve later).stats (k + 1) = s.stats (k + 1)) ∧
    (∀ aruid, s.state.interfaces[k]? = some (.appletResource aruid) →
      (∃ before p later, posts = before ++ p :: later ∧ p.aruid = aruid ∧
        (first.serve before).state.interfaces.length = k ∧
        (first.serve before).Creates p (.appletResource aruid)) ∧
      ∀ p, p.target = k + 1 →
        ∃ a, s.attend p = some a ∧ (∀ c ∈ a.calls, c = .getSharedMemoryHandle aruid) ∧
          (p.request.opcode.plain = 0 → p.request.parameters = [] → p.request.handles = [] →
            a.calls = [.getSharedMemoryHandle aruid])) := by
  intro first s
  have young : first.state.interfaces.length ≤ k := Nat.zero_le k
  refine ⟨?_, ?_, ?_⟩
  · intro r object
    refine ⟨?_, ?_, ?_⟩
    · obtain ⟨before, p, later, fresh, rfl, length, creates, at_first, kept, stats⟩ :=
        object_created posts young object
      cases kept with
      | @list fresh r capacity entries =>
          have made : Registry.ofCapacity config.activationCapacity = .ok fresh := by
            cases creates with
            | list target opcode made => rwa [config_serve] at made
          have mirrors : Mirrors k fresh ((first.serve before).after p) (alone fresh) :=
            ⟨at_first, rfl, stats.symm⟩
          obtain ⟨replies, last, found, lone, counted⟩ := mirrors.serve later
          have served : first.serve (before ++ p :: later) =
              ((first.serve before).after p).serve later := serve_append first before (p :: later)
          rw [← served] at found counted
          obtain rfl := Interface.deviceList.inj (Option.some.inj (object.symm.trans found))
          exact ⟨before, p, later, fresh, rfl, length, creates, made,
            Registry.entries_of_ofCapacity made, lone, counted, replies⟩
    · intro later
      obtain ⟨object', found, kept⟩ := object_serve later object
      cases kept with
      | list capacity entries => exact ⟨_, found, capacity, entries⟩
    · intro p h own opcode handles decoded valid absent room
      have asked := Registry.consider_eq_askDevice.mpr ⟨valid, absent, room⟩
      exact ⟨_, attend_activation own object opcode handles decoded, if_pos asked⟩
  · intro later earlier others
    exact object_serve_of_ne later earlier others
  · intro aruid object
    constructor
    · obtain ⟨before, p, later, fresh, rfl, length, creates, -, kept, -⟩ :=
        object_created posts young object
      cases kept with
      | resource aruid =>
          have named : p.aruid = aruid := by
            cases creates with
            | resource => rfl
          exact ⟨before, p, later, rfl, named, length, creates⟩
    · intro p own
      exact attend_resource object own

/-- A device layer that finds a motor behind every handle, and agrees to all else that is asked with
a code. -/
def agreeable : Device := fun _ c => match c with
  | .createAppletResource _ => .ok .success
  | .npad (.setIds ..) => .ok .success
  | .vibration (.find ..) => .ok true
  | .motor .activate => .ok .success
  | _ => .error (.raised "off")

/-- A request on which the device layer agrees. -/
def asking (target : Nat) (opcode : Quantity) (parameters : Wire.Bytes) : Post :=
  ⟨target, { opcode, parameters }, ⟨"session", 0⟩, agreeable⟩

/-- A handle that is active in the first list is activated in the second, and the resource of the
first client asks for the memory of that client. -/
theorem objects_separate_crossed :
    let client := Wire.LittleEndian.bytesOfInt 8
    let posts := [asking 0 203 [], asking 0 0 (client 7), asking 0 203 [], asking 0 0 (client 8),
      asking 1 0 [3, 0, 0, 0]]
    let s := (start .initial).serve posts
    s.state.interfaces[0]? = some (.deviceList ⟨256, [⟨.int 3, .int 0, .int 0⟩]⟩) ∧
    (∃ a, s.attend (asking 3 0 [3, 0, 0, 0]) = some a ∧
      a.calls = [.vibration (.find .any ⟨.int 3, .int 0, .int 0⟩), .motor .activate]) ∧
    ∃ a, s.attend (asking 2 0 []) = some a ∧ a.calls = [.getSharedMemoryHandle 7] := by
  intro client posts s
  obtain ⟨lists, -, -⟩ := objects_separate .initial none posts 2
  obtain ⟨-, -, activates⟩ := lists ⟨256, []⟩ (by decide +kernel)
  obtain ⟨a, answered, calls⟩ := activates (asking 3 0 [3, 0, 0, 0]) ⟨.int 3, .int 0, .int 0⟩
    rfl rfl rfl rfl (by decide +kernel) rfl (by decide)
  obtain ⟨-, -, resources⟩ := objects_separate .initial none posts 1
  obtain ⟨-, asks⟩ := resources 7 (by decide +kernel)
  obtain ⟨b, answered', -, memory⟩ := asks (asking 2 0 []) rfl
  exact ⟨by decide +kernel, ⟨a, answered, calls⟩, b, answered', memory rfl rfl rfl⟩

end Hid.Service
