import Hid.Proofs.Dispatch.Counting
import Mathlib.Algebra.Ring.Nat
import Mathlib.Data.List.Perm.Subperm

/-!
The statistics of a dispatcher as an account of what it has answered. What happens to them is a
history: requests come to outcomes, one after the other or while others are under way, and now and
then all counts are dropped. `account` says what the row of a key should be from the outcomes since
then; a step lemma says that counting an outcome does to each row what it should
(`Accounts.count`), and by induction the rows are the accounts after any history (`accounts_tally`).

* `stats_exact`: rows, counts, names, order, sum and number of rows after any history, and that
  a dispatcher that answers requests keeps its statistics so.
-/

namespace Hid.Dispatch

/-! ### Sums -/

namespace Stats

variable {stats : Stats} {key : Int} {name : String} {outcome : Outcome}

theorem sum_record :
    ((stats.record key name outcome).map (·.handled)).sum = (stats.map (·.handled)).sum + 1 := by
  induction stats with
  | nil => rfl
  | cons row rest ih =>
      rw [record]
      split
      case isTrue before =>
        simp only [List.map_cons, List.sum_cons, Tally.count]
        omega
      case isFalse notBefore =>
        split
        case isTrue same =>
          simp only [List.map_cons, List.sum_cons, Tally.count]
          omega
        case isFalse after =>
          simp only [List.map_cons, List.sum_cons, ih]
          omega

/-- In ordered rows, each is found under its key. -/
theorem Ordered.row?_eq_some_iff (ordered : stats.Ordered) {row : Tally} {key : Quantity} :
    stats.row? key = some row ↔ row ∈ stats ∧ (row.key : Quantity) = key.plain := by
  constructor
  · intro found
    have same := List.find?_some (p := fun row : Tally => (row.key : Quantity) == key.plain) found
    exact ⟨List.mem_of_find?_eq_some found, beq_iff_eq.mp same⟩
  · rintro ⟨among, own⟩
    induction stats with
    | nil => cases among
    | cons first rest ih =>
        obtain ⟨above, rest_ordered⟩ := List.pairwise_cons.mp ordered
        rcases List.mem_cons.mp among with rfl | later
        · exact row?_cons_of_eq own
        · have apart : (first.key : Quantity) ≠ key.plain := by
            intro equal
            injection equal.trans own.symm with equal
            exact absurd equal (Int.ne_of_lt (above row later))
          rw [row?_cons_of_ne apart]
          exact ih rest_ordered later

end Stats

/-! ### Histories -/

/-- What happens to the statistics of a dispatcher. -/
inductive Event where
  | completed (opcode : Quantity) (outcome : Outcome)
  | reset

/-- The requests that have come to an outcome since the counts were last dropped, one event on. -/
def Event.extend (answered : List (Quantity × Outcome)) : Event → List (Quantity × Outcome)
  | completed opcode outcome => answered ++ [(opcode, outcome)]
  | reset => []

/-- The requests that have come to an outcome since the counts were last dropped. -/
def recent (events : List Event) : List (Quantity × Outcome) := events.foldl Event.extend []

namespace Table

variable {m : Type → Type} (t : Table m)

/-- The statistics one event on. -/
def note (stats : Stats) : Event → Stats
  | .completed opcode outcome => t.count opcode outcome stats
  | .reset => []

/-- The statistics after a history. -/
def tally (events : List Event) (stats : Stats := []) : Stats := events.foldl t.note stats

/-- The requests among some that are counted under a key. -/
def hits (key : Int) (answered : List (Quantity × Outcome)) : List (Quantity × Outcome) :=
  answered.filter (t.statsKey ·.1 = key)

/-- The row that a key should have, if any request is counted under it. -/
def account (answered : List (Quantity × Outcome)) (key : Int) : Option Tally :=
  (t.hits key answered).head?.map fun first =>
    { key
      name := t.statsName first.1
      handled := (t.hits key answered).length
      failed := (t.hits key answered).countP (·.2.isFailedReply)
      violations := (t.hits key answered).countP (·.2.isViolation) }

variable {t} {answered : List (Quantity × Outcome)} {opcode : Quantity} {outcome : Outcome}
  {key : Int}

theorem hits_append_of_eq (own : t.statsKey opcode = key) :
    t.hits key (answered ++ [(opcode, outcome)]) = t.hits key answered ++ [(opcode, outcome)] := by
  simp [hits, own]

theorem hits_append_of_ne (other : t.statsKey opcode ≠ key) :
    t.hits key (answered ++ [(opcode, outcome)]) = t.hits key answered := by
  simp [hits, other]

theorem account_append_of_ne (other : t.statsKey opcode ≠ key) :
    t.account (answered ++ [(opcode, outcome)]) key = t.account answered key := by
  simp only [account, hits_append_of_ne other]

/-- One more request counts as one in the row of its key. -/
theorem account_append_of_eq (own : t.statsKey opcode = key) :
    t.account (answered ++ [(opcode, outcome)]) key =
      some (((t.account answered key).getD { key, name := t.statsName opcode }).count outcome) := by
  simp only [account, hits_append_of_eq own]
  cases t.hits key answered with
  | nil => simp [Tally.count, List.countP_cons]
  | cons first rest =>
      simp only [Tally.count, List.cons_append, List.head?_cons, Option.map_some, Option.getD_some,
        List.length_cons, List.length_append, List.length_nil, List.countP_cons,
        List.countP_append, List.countP_nil, Nat.zero_add]
      rw [Option.some.injEq, Tally.mk.injEq]
      exact ⟨rfl, rfl, rfl, Nat.add_right_comm .., Nat.add_right_comm ..⟩

/-! ### The rows after a history -/

variable (t) in
/-- The statistics are the account of what was answered. -/
structure Accounts (answered : List (Quantity × Outcome)) (stats : Stats) : Prop where
  ordered : stats.Ordered
  row? (key : Int) : stats.row? key = t.account answered key
  sum : (stats.map (·.handled)).sum = answered.length

theorem accounts_nil : t.Accounts [] [] := ⟨.nil, fun _ => rfl, rfl⟩

/-- Counting an outcome keeps the account. -/
theorem Accounts.count {stats : Stats} (accounts : t.Accounts answered stats) :
    t.Accounts (answered ++ [(opcode, outcome)]) (t.count opcode outcome stats) := by
  constructor
  case ordered => exact accounts.ordered.record
  case row? =>
    intro key
    by_cases own : t.statsKey opcode = key
    case pos =>
      subst own
      rw [account_append_of_eq rfl, ← accounts.row?]
      exact Stats.row?_record accounts.ordered
    case neg =>
      have apart : (key : Quantity).plain ≠ t.statsKey opcode := by
        intro same
        rw [Quantity.plain_int] at same
        exact own (Quantity.int.inj same).symm
      rw [account_append_of_ne own, ← accounts.row?]
      exact Stats.row?_record_of_ne apart
  case sum =>
    rw [Table.count, Stats.sum_record, accounts.sum, List.length_append]
    rfl

/-- After any history, the statistics are the account of what was answered since the counts were
last dropped. -/
theorem accounts_tally (events : List Event) : t.Accounts (recent events) (t.tally events) := by
  suffices general : ∀ answered stats, t.Accounts answered stats →
      t.Accounts (events.foldl Event.extend answered) (events.foldl t.note stats) from
    general [] [] accounts_nil
  induction events with
  | nil => exact fun answered stats accounts => accounts
  | cons event rest ih =>
      intro answered stats accounts
      cases event with
      | completed opcode outcome => exact ih _ _ accounts.count
      | reset => exact ih _ _ accounts_nil

/-! ### Tables that can be built -/

theorem word?_eq_some_iff {opcode : Quantity} {n : Int} :
    word? opcode = some n ↔ opcode = n ∧ 0 ≤ n ∧ n ≤ 0xffffffff := by
  cases opcode with
  | other x => simp [word?]
  | int value =>
      rw [word?]
      split
      case isTrue inside =>
        constructor
        · rintro ⟨⟩
          exact ⟨rfl, inside⟩
        · rintro ⟨⟨⟩, -⟩
          rfl
      case isFalse outside =>
        constructor
        · rintro ⟨⟩
        · rintro ⟨⟨⟩, inside⟩
          exact absurd inside outside

/-- A declaration enters a table if it is a word that no earlier one took. -/
theorem declare_eq_ok_iff {start longer : Table m} {opcode : Quantity} {c : Command m} :
    start.declare opcode c = .ok longer ↔
      ∃ n : Int, opcode = n ∧ 0 ≤ n ∧ n ≤ 0xffffffff ∧ start.has n = false ∧
        longer = { start with rows := start.rows ++ [(n, c)] } := by
  rw [declare]
  cases word : word? opcode with
  | none =>
      constructor
      · rintro ⟨⟩
      · rintro ⟨n, same, low, high, -⟩
        rw [word?_eq_some_iff.mpr ⟨same, low, high⟩] at word
        cases word
  | some n =>
      obtain ⟨rfl, low, high⟩ := word?_eq_some_iff.mp word
      constructor
      · intro declared
        dsimp only at declared
        split at declared
        case isTrue taken => cases declared
        case isFalse free =>
          obtain rfl := Except.ok.inj declared
          exact ⟨n, rfl, low, high, Bool.eq_false_iff.mpr free, rfl⟩
      · rintro ⟨n', ⟨⟩, -, -, free, rfl⟩
        simp [free]

theorem go_nonneg {start : Table m} {entries : List (Quantity × Command m)}
    (built : ofList.go start entries = .ok t) (words : ∀ row ∈ start.rows, 0 ≤ row.1) :
    ∀ row ∈ t.rows, 0 ≤ row.1 := by
  induction entries generalizing start with
  | nil =>
      obtain rfl := Except.ok.inj built
      exact words
  | cons entry rest ih =>
      rw [ofList.go] at built
      split at built
      case h_1 refusal refused => cases built
      case h_2 longer declared =>
        obtain ⟨n, -, low, -, -, rfl⟩ := declare_eq_ok_iff.mp declared
        refine ih built fun row found => ?_
        rcases List.mem_append.mp found with earlier | new
        · exact words row earlier
        · rw [List.mem_singleton.mp new]
          exact low

/-- The rows of a table that can be built are under words. -/
theorem nonneg_of_ofList {name : String} {entries : List (Quantity × Command m)}
    (built : ofList name entries = .ok t) : ∀ row ∈ t.rows, 0 ≤ row.1 :=
  go_nonneg built fun _ found => absurd found List.not_mem_nil

/-! ### Keys and names -/

section Keys

variable (words : ∀ row ∈ t.rows, 0 ≤ row.1)

theorem statsKey_of_not_has (missing : t.has opcode = false) : t.statsKey opcode = unknownKey := by
  rw [statsKey]
  split
  case h_1 => exact if_neg (Bool.eq_false_iff.mp missing)
  case h_2 => rfl

/-- A command of the table is counted under its opcode, which is one of the table. -/
theorem exists_statsKey (has : t.has opcode = true) :
    ∃ n : Int, opcode.plain = n ∧ t.statsKey opcode = n ∧ ∃ c, (n, c) ∈ t.rows := by
  obtain ⟨c, entry⟩ := Option.isSome_iff_exists.mp has
  obtain ⟨n, plain, among⟩ := exists_mem_rows entry
  refine ⟨n, plain, ?_, c, among⟩
  rw [statsKey, plain]
  exact if_pos has

theorem statsKey_of_has (has : t.has opcode = true) :
    (t.statsKey opcode : Quantity) = opcode.plain := by
  obtain ⟨n, plain, key, -⟩ := exists_statsKey has
  rw [plain, key]

include words

theorem nonneg_statsKey (has : t.has opcode = true) : 0 ≤ t.statsKey opcode := by
  obtain ⟨n, -, key, c, among⟩ := exists_statsKey has
  rw [key]
  exact words _ among

theorem has_of_statsKey (own : t.statsKey opcode = unknownKey) : t.has opcode = false := by
  refine Bool.eq_false_iff.mpr fun has => ?_
  have positive := nonneg_statsKey words has
  rw [own] at positive
  exact absurd positive (by decide)

/-- Under the key of a command, requests for it are counted and no others. -/
theorem plain_of_statsKey {n : Int} (has : t.has n = true) (own : t.statsKey opcode = n) :
    opcode.plain = n := by
  have key : t.statsKey n = n :=
    Quantity.int.inj ((statsKey_of_has has).trans (Quantity.plain_int n))
  have known : t.has opcode = true := by
    by_contra missing
    have positive := nonneg_statsKey words has
    rw [key, ← own, statsKey_of_not_has (Bool.eq_false_iff.mpr missing)] at positive
    exact absurd positive (by decide)
  rw [← statsKey_of_has known, own]

end Keys

/-! ### What the rows say -/

section Rows

variable {stats : Stats} (accounts : t.Accounts answered stats)
include accounts

theorem Accounts.mem_iff {row : Tally} : row ∈ stats ↔ t.account answered row.key = some row := by
  rw [← accounts.row? row.key, accounts.ordered.row?_eq_some_iff]
  exact (and_iff_left rfl).symm

/-- A row counts the requests under its key, the first of which has given it its name. -/
theorem Accounts.exists_first {row : Tally} (among : row ∈ stats) :
    ∃ first ∈ answered, t.statsKey first.1 = row.key ∧ row.name = t.statsName first.1 ∧
      row.handled = (t.hits row.key answered).length ∧
      row.failed = (t.hits row.key answered).countP (·.2.isFailedReply) ∧
      row.violations = (t.hits row.key answered).countP (·.2.isViolation) := by
  obtain ⟨first, front, same⟩ := Option.map_eq_some_iff.mp (accounts.mem_iff.mp among)
  obtain ⟨hit, own⟩ := List.mem_filter.mp (List.mem_of_mem_head? front)
  refine ⟨first, hit, of_decide_eq_true own, ?_⟩
  rw [← same]
  exact ⟨rfl, rfl, rfl, rfl⟩

theorem Accounts.exists_row_iff {key : Int} :
    (∃ row ∈ stats, row.key = key) ↔ ∃ hit ∈ answered, t.statsKey hit.1 = key := by
  constructor
  · rintro ⟨row, among, rfl⟩
    obtain ⟨first, hit, own, -⟩ := accounts.exists_first among
    exact ⟨first, hit, own⟩
  · rintro ⟨hit, among, own⟩
    have found : hit ∈ t.hits key answered := List.mem_filter.mpr ⟨among, decide_eq_true own⟩
    obtain ⟨first, front⟩ := Option.isSome_iff_exists.mp
      (List.isSome_head?.mpr (List.ne_nil_of_mem found))
    have row := accounts.row? key
    rw [account, front] at row
    exact ⟨_, (accounts.ordered.row?_eq_some_iff.mp row).1, rfl⟩

/-- There is one row for each command that was asked for, and one for all else. -/
theorem Accounts.length_le : stats.length ≤ t.size + 1 := by
  have apart : (stats.map (·.key)).Nodup :=
    List.pairwise_map.mpr (accounts.ordered.imp fun below => Int.ne_of_lt below)
  have known : stats.map (·.key) ⊆ unknownKey :: t.rows.map (·.1) := by
    intro key found
    obtain ⟨row, among, rfl⟩ := List.mem_map.mp found
    obtain ⟨first, -, own, -⟩ := accounts.exists_first among
    rw [← own]
    cases has : t.has first.1 with
    | true =>
        obtain ⟨n, -, key, c, among⟩ := exists_statsKey has
        rw [key]
        exact List.mem_cons_of_mem _ (List.mem_map_of_mem among)
    | false =>
        rw [statsKey_of_not_has has]
        exact List.mem_cons_self
  have bound := (List.subperm_of_subset apart known).length_le
  rwa [List.length_map, List.length_cons, List.length_map] at bound

variable (words : ∀ row ∈ t.rows, 0 ≤ row.1)
include words

theorem Accounts.name_of_lookup? {row : Tally} (among : row ∈ stats) {c : Command m}
    (entry : t.lookup? row.key = some c) :
    row.name = c.name?.getD ("#" ++ (row.key : Quantity).text) := by
  obtain ⟨first, -, own, name, -⟩ := accounts.exists_first among
  have has : t.has row.key = true := Option.isSome_iff_exists.mpr ⟨c, entry⟩
  have plain := plain_of_statsKey words has own
  rw [name, statsName, ← lookup?_plain, plain, entry]

theorem Accounts.name_of_unknown {row : Tally} (among : row ∈ stats)
    (common : row.key = unknownKey) : row.name = "unknown" := by
  obtain ⟨first, -, own, name, -⟩ := accounts.exists_first among
  have missing := has_of_statsKey words (own.trans common)
  rw [name, statsName, Option.not_isSome_iff_eq_none.mp (Bool.eq_false_iff.mp missing)]

end Rows

/-- No outcome is a violation and a failed reply. -/
theorem failed_add_violations_le (own : List (Quantity × Outcome)) :
    own.countP (·.2.isFailedReply) + own.countP (·.2.isViolation) ≤ own.length := by
  induction own with
  | nil => exact Nat.le_refl 0
  | cons hit rest ih =>
      have exclusive : hit.2.isFailedReply = true → hit.2.isViolation = true → False := by
        cases hit.2 with
        | reply response => rintro - ⟨⟩
        | violation v => rintro ⟨⟩
      rw [List.countP_cons, List.countP_cons, List.length_cons]
      by_cases failed : hit.2.isFailedReply = true
      · rw [if_pos failed, if_neg (exclusive failed)]
        omega
      · rw [if_neg failed]
        split <;> omega

/-! ### A dispatcher at work -/

/-- What a dispatcher is told to do. -/
inductive Step where
  | request (request : Request) (session : Session)
  | resetStats

section Work

variable [Monad m] (t)

/-- Does the steps in turn, from given statistics: what happened, and the statistics after it. -/
def work : List Step → Stats → m (List Event × Stats)
  | [], stats => pure ([], stats)
  | .request request session :: rest, stats => do
      let (outcome, stats) ← t.handle request session stats
      let (events, stats) ← work rest stats
      return (.completed request.opcode outcome :: events, stats)
  | .resetStats :: rest, _ => do
      let (events, stats) ← work rest []
      return (.reset :: events, stats)

/-- What happens when the steps are done in turn, as far as no statistics are kept. -/
def history : List Step → m (List Event)
  | [] => pure []
  | .request request session :: rest => do
      let outcome ← t.answer request session
      let events ← history rest
      return .completed request.opcode outcome :: events
  | .resetStats :: rest => do
      let events ← history rest
      return .reset :: events

/-- A dispatcher answers as if it kept no statistics, and those it keeps are the tally. -/
theorem work_eq [LawfulMonad m] (steps : List Step) (stats : Stats) :
    t.work steps stats = (fun events => (events, t.tally events stats)) <$> t.history steps := by
  induction steps generalizing stats with
  | nil => simp [work, history, tally]
  | cons step rest ih =>
      cases step with
      | request request session =>
          simp only [work, history, handle, ih, bind_assoc, pure_bind, map_bind, bind_map_left,
            map_pure]
          rfl
      | resetStats =>
          simp only [work, history, ih, map_bind, bind_map_left, map_pure]
          rfl

end Work

/-- **Statistics are an exact account.** For every table that can be built, every monad that its
handlers run in and all steps, requests are answered as if no statistics were kept, and those that
are kept are the tally of what happened. For every history of requests that come to outcomes, in
whatever order, and of resets, the rows of the tally are these:

* There is one row for each key under which a request was counted since the last reset, in strictly
  ascending order. The key is the opcode if it is in the table, and the common key if it is not.
  The sign of a zero does not count.
* A row counts the requests under its key, those among them that ended in a violation, and those
  that were answered with another code than success. No request is among both, and the counts of all
  rows together are the number of requests.
* A row has the name of its command, or its opcode if that has no name; the common row is unknown.
* There are no more rows than commands and one, and every row is found under its key. -/
theorem stats_exact {name : String} {entries : List (Quantity × Command m)}
    (built : ofList name entries = .ok t) :
    (∀ [Monad m] [LawfulMonad m] (steps : List Step),
      t.work steps [] = (fun events => (events, t.tally events)) <$> t.history steps) ∧
    (∀ opcode, t.has opcode = true → (t.statsKey opcode : Quantity) = opcode.plain) ∧
    (∀ opcode, t.has opcode = false → t.statsKey opcode = -1) ∧
    ∀ events : List Event,
      let answered := recent events
      let stats := t.tally events
      stats.Pairwise (fun a b => a.key < b.key) ∧
      (∀ key : Int, (∃ row ∈ stats, row.key = key) ↔ ∃ hit ∈ answered, t.statsKey hit.1 = key) ∧
      (∀ row ∈ stats,
        let own := answered.filter fun hit => t.statsKey hit.1 = row.key
        row.handled = own.length ∧
        row.violations = own.countP (fun hit => hit.2.isViolation) ∧
        row.failed = own.countP (fun hit => hit.2.isFailedReply) ∧
        row.failed + row.violations ≤ row.handled ∧
        (∀ c, t.lookup? row.key = some c →
          row.name = c.name?.getD ("#" ++ (row.key : Quantity).text)) ∧
        (row.key = -1 → row.name = "unknown")) ∧
      (stats.map (·.handled)).sum = answered.length ∧
      stats.length ≤ t.size + 1 ∧
      ∀ (key : Quantity) (row : Tally),
        stats.row? key = some row ↔ row ∈ stats ∧ (row.key : Quantity) = key.plain := by
  have words := nonneg_of_ofList built
  refine ⟨fun steps => work_eq t steps [], fun opcode => statsKey_of_has,
    fun opcode => statsKey_of_not_has, ?_⟩
  intro events answered stats
  have accounts : t.Accounts answered stats := accounts_tally events
  refine ⟨accounts.ordered, fun key => accounts.exists_row_iff, ?_, accounts.sum,
    accounts.length_le, fun key row => accounts.ordered.row?_eq_some_iff⟩
  intro row among own
  obtain ⟨first, -, -, -, handled, failed, violations⟩ := accounts.exists_first among
  refine ⟨handled, violations, failed, ?_, ?_, ?_⟩
  · rw [handled, failed, violations]
    exact failed_add_violations_le own
  · intro c entry
    exact accounts.name_of_lookup? words among entry
  · intro common
    exact accounts.name_of_unknown words among common

/-- Two commands, of which the second has no name. -/
def pair : List (Quantity × Command Id) :=
  [(7, .stubbed { name := "Seven", result := 1 }), (0, .unimplemented none)]

/-- After a reset, a failed reply, two unknown opcodes, and a command without a name that is asked
for by either zero. -/
theorem stats_exact_pair :
    let t : Table Id := ⟨"pair", [(7, .stubbed { name := "Seven", result := 1 }),
      (0, .unimplemented none)]⟩
    let asked (opcode : Quantity) : Step := .request { opcode } ⟨"session", 0⟩
    (t.work [asked 7, .resetStats, asked 40, asked (.other .negativeZero), asked 7, asked 0,
        asked 41] []).2 =
        [{ key := -1, name := "unknown", handled := 2, failed := 2 },
          { key := 0, name := "#0", handled := 2, failed := 2 },
          { key := 7, name := "Seven", handled := 1, failed := 1 }] ∧
      ∀ events : List Event, (t.tally events).length ≤ 3 := by
  intro t asked
  have built : ofList "pair" pair = .ok t := rfl
  obtain ⟨-, -, -, rows⟩ := stats_exact built
  refine ⟨rfl, fun events => ?_⟩
  obtain ⟨-, -, -, -, bound, -⟩ := rows events
  exact bound

end Table
end Hid.Dispatch
