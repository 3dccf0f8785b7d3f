import Hid.Proofs.Dispatch.Accounting
import Mathlib.Data.List.Nodup

/-!
Tables that are built from declarations, and what they answer. A list of declarations is admitted
if its opcodes are words and no two are the same, and if it is not, one of its declarations is the
first that is refused (`admitted_or_refused`). One declaration is added behind the others
(`Holds.declare`), and by induction a table holds the declarations it was built from
(`ofList_eq_ok_iff`), from which all that it answers is derived.

* `build_exact`: when a table is built, what is refused otherwise, and what a table answers.
-/

namespace Hid.Dispatch.Table

variable {m : Type → Type}

/-! ### Lists of declarations -/

/-- The number is an integer, and a word of 32 bits. -/
def IsWord (opcode : Quantity) : Prop := ∃ n : Int, opcode = n ∧ 0 ≤ n ∧ n ≤ 0xffffffff

/-- All opcodes are words, and no two are the same. -/
structure Admitted (declared : List (Quantity × Command m)) : Prop where
  words : ∀ d ∈ declared, IsWord d.1
  apart : (declared.map (·.1)).Nodup

/-- The first declaration that cannot enter, as its opcode is no word or was taken before. -/
inductive FirstRefused (name : String) : List (Quantity × Command m) → Refusal → Prop where
  | notWord {before after : List (Quantity × Command m)} {opcode : Quantity} {c : Command m}
      (admitted : Admitted before) (other : ¬ IsWord opcode) :
      FirstRefused name (before ++ (opcode, c) :: after) (.notWord name opcode)
  | repeated {before after : List (Quantity × Command m)} {opcode : Quantity} {c : Command m}
      (admitted : Admitted before) (word : IsWord opcode) (taken : opcode ∈ before.map (·.1)) :
      FirstRefused name (before ++ (opcode, c) :: after) (.repeated name opcode)

variable {name : String} {declared before after : List (Quantity × Command m)}
  {opcode : Quantity} {c : Command m}

theorem isWord_iff : IsWord opcode ↔ ∃ n, word? opcode = some n := by
  simp only [IsWord, word?_eq_some_iff]

theorem admitted_nil : Admitted ([] : List (Quantity × Command m)) :=
  ⟨fun _ found => absurd found List.not_mem_nil, .nil⟩

theorem admitted_concat : Admitted (before ++ [(opcode, c)]) ↔
    Admitted before ∧ IsWord opcode ∧ opcode ∉ before.map (·.1) := by
  constructor
  · rintro ⟨words, apart⟩
    rw [List.forall_mem_append, List.forall_mem_singleton] at words
    rw [List.map_append, List.nodup_append] at apart
    obtain ⟨first, -, disjoint⟩ := apart
    refine ⟨⟨words.1, first⟩, words.2, fun taken => ?_⟩
    exact disjoint opcode taken opcode (List.mem_singleton.mpr rfl) rfl
  · rintro ⟨⟨words, apart⟩, word, free⟩
    constructor
    · exact List.forall_mem_append.mpr ⟨words, List.forall_mem_singleton.mpr word⟩
    · rw [List.map_append, List.nodup_append]
      refine ⟨apart, List.nodup_singleton _, ?_⟩
      rintro key among _ new rfl
      rw [List.mem_singleton.mp new] at among
      exact free among

theorem Admitted.of_append (admitted : Admitted (before ++ after)) : Admitted before := by
  refine ⟨fun d among => admitted.words d (List.mem_append_left after among), ?_⟩
  have apart := admitted.apart
  rw [List.map_append] at apart
  exact (List.nodup_append.mp apart).1

theorem Admitted.perm (admitted : Admitted declared) {other : List (Quantity × Command m)}
    (perm : declared.Perm other) : Admitted other :=
  ⟨fun d among => admitted.words d (perm.mem_iff.mpr among),
    (perm.map _).nodup_iff.mp admitted.apart⟩

/-- If the declarations are not admitted, there is a first among them that is refused. -/
theorem admitted_or_refused (name : String) (declared : List (Quantity × Command m)) :
    Admitted declared ∨ ∃ refusal, FirstRefused name declared refusal := by
  suffices general : ∀ before, Admitted before → Admitted (before ++ declared) ∨
      ∃ refusal, FirstRefused name (before ++ declared) refusal from general [] admitted_nil
  induction declared with
  | nil =>
      intro before admitted
      rw [List.append_nil]
      exact .inl admitted
  | cons d rest ih =>
      intro before admitted
      obtain ⟨opcode, c⟩ := d
      by_cases word : IsWord opcode
      case neg => exact .inr ⟨_, .notWord admitted word⟩
      by_cases taken : opcode ∈ before.map (·.1)
      case pos => exact .inr ⟨_, .repeated admitted word taken⟩
      rw [List.append_cons]
      exact ih _ (admitted_concat.mpr ⟨admitted, word, taken⟩)

/-! ### Tables that hold declarations -/

/-- The rows of a table as they would be declared. -/
def declarations (t : Table m) : List (Quantity × Command m) :=
  t.rows.map fun row => (.int row.1, row.2)

/-- The table has the name, and its rows are the declarations. -/
structure Holds (t : Table m) (name : String) (declared : List (Quantity × Command m)) : Prop where
  name : t.name = name
  declarations : t.declarations = declared

variable {t t' : Table m}

theorem Holds.eq (holds : t.Holds name declared) (holds' : t'.Holds name declared) : t = t' := by
  have rows : t.rows = t'.rows := by
    apply List.map_injective_iff.mpr _ (holds.declarations.trans holds'.declarations.symm)
    intro row row' same
    obtain ⟨opcodes, commands⟩ := Prod.mk.inj same
    exact Prod.ext (Quantity.int.inj opcodes) commands
  cases t
  cases t'
  exact congr (congrArg Table.mk (holds.name.trans holds'.name.symm)) rows

theorem mem_declarations {n : Int} : (.int n, c) ∈ t.declarations ↔ (n, c) ∈ t.rows := by
  constructor
  · intro among
    obtain ⟨row, found, same⟩ := List.mem_map.mp among
    obtain ⟨opcodes, commands⟩ := Prod.mk.inj same
    obtain rfl : row = (n, c) := Prod.ext (Quantity.int.inj opcodes) commands
    exact found
  · exact fun found => List.mem_map.mpr ⟨_, found, rfl⟩

theorem has_iff : t.has opcode = true ↔ opcode.plain ∈ t.declarations.map (·.1) := by
  constructor
  · intro has
    obtain ⟨c, entry⟩ := Option.isSome_iff_exists.mp has
    obtain ⟨n, plain, found⟩ := exists_mem_rows entry
    exact List.mem_map.mpr ⟨_, mem_declarations.mpr found, plain.symm⟩
  · intro among
    obtain ⟨d, found, plain⟩ := List.mem_map.mp among
    obtain ⟨row, listed, rfl⟩ := List.mem_map.mp found
    apply Option.isSome_iff_ne_none.mpr
    intro none
    rw [lookup?, ← plain] at none
    simpa using List.lookup_eq_none_iff.mp none row listed

/-- A declaration is added behind those that the table holds. -/
theorem Holds.declare (holds : t.Holds name before) (word : IsWord opcode)
    (free : opcode ∉ before.map (·.1)) (c : Command m) :
    ∃ longer, t.declare opcode c = .ok longer ∧ longer.Holds name (before ++ [(opcode, c)]) := by
  obtain ⟨n, rfl, low, high⟩ := word
  have missing : t.has n = false := by
    rw [← holds.declarations, ← Quantity.plain_int, ← has_iff] at free
    exact Bool.eq_false_iff.mpr free
  refine ⟨_, declare_eq_ok_iff.mpr ⟨n, rfl, low, high, missing, rfl⟩, holds.name, ?_⟩
  rw [Table.declarations, List.map_append, ← Table.declarations, holds.declarations]
  rfl

/-- What is no word is refused, and so is what the table holds already. -/
theorem Holds.declare_of_not_isWord (holds : t.Holds name before) (other : ¬ IsWord opcode)
    (c : Command m) : t.declare opcode c = .error (.notWord name opcode) := by
  rw [isWord_iff, ← Option.ne_none_iff_exists', ne_eq, not_not] at other
  rw [Table.declare, other, holds.name]

theorem Holds.declare_of_taken (holds : t.Holds name before) (word : IsWord opcode)
    (taken : opcode ∈ before.map (·.1)) (c : Command m) :
    t.declare opcode c = .error (.repeated name opcode) := by
  obtain ⟨n, word⟩ := isWord_iff.mp word
  obtain ⟨rfl, -⟩ := word?_eq_some_iff.mp word
  rw [← holds.declarations, ← Quantity.plain_int, ← has_iff] at taken
  rw [Table.declare, word]
  dsimp only
  rw [if_pos taken, holds.name]

/-! ### What is built -/

/-- Declarations that are admitted enter one after the other. -/
theorem Holds.go (holds : t.Holds name before) (admitted : Admitted (before ++ after)) :
    ∃ longer, ofList.go t after = .ok longer ∧ longer.Holds name (before ++ after) := by
  induction after generalizing t before with
  | nil =>
      rw [List.append_nil]
      exact ⟨t, rfl, holds⟩
  | cons d rest ih =>
      obtain ⟨opcode, c⟩ := d
      rw [List.append_cons] at admitted ⊢
      obtain ⟨-, word, free⟩ := admitted_concat.mp admitted.of_append
      obtain ⟨longer, entered, holds⟩ := holds.declare word free c
      rw [ofList.go, entered]
      exact ih holds admitted

theorem go_append {longer : Table m} (entered : ofList.go t before = .ok longer) :
    ofList.go t (before ++ after) = ofList.go longer after := by
  induction before generalizing t with
  | nil =>
      obtain rfl := Except.ok.inj entered
      rfl
  | cons d rest ih =>
      obtain ⟨opcode, c⟩ := d
      rw [ofList.go] at entered
      rw [List.cons_append, ofList.go]
      split at entered
      case h_1 => cases entered
      case h_2 => exact ih entered

theorem ofList_of_refused {refusal : Refusal} (refused : FirstRefused name declared refusal) :
    ofList name declared = .error refusal := by
  have empty : Holds (⟨name, []⟩ : Table m) name [] := ⟨rfl, rfl⟩
  cases refused with
  | notWord admitted other =>
      obtain ⟨longer, entered, holds⟩ := empty.go admitted
      rw [ofList, go_append entered, ofList.go, holds.declare_of_not_isWord other]
  | repeated admitted word taken =>
      obtain ⟨longer, entered, holds⟩ := empty.go admitted
      rw [ofList, go_append entered, ofList.go, holds.declare_of_taken word taken]

theorem isOk_ofList (admitted : Admitted declared) : ∃ t, ofList name declared = .ok t := by
  have empty : Holds (⟨name, []⟩ : Table m) name [] := ⟨rfl, rfl⟩
  obtain ⟨t, built, -⟩ := empty.go admitted
  exact ⟨t, built⟩

/-- A table is built of declarations that are admitted, and holds them. -/
theorem ofList_eq_ok_iff :
    ofList name declared = .ok t ↔ Admitted declared ∧ t.Holds name declared := by
  have empty : Holds (⟨name, []⟩ : Table m) name [] := ⟨rfl, rfl⟩
  constructor
  · intro built
    rcases admitted_or_refused name declared with admitted | ⟨refusal, refused⟩
    · obtain ⟨longer, entered, holds⟩ := empty.go admitted
      obtain rfl := Except.ok.inj (entered.symm.trans built)
      exact ⟨admitted, holds⟩
    · rw [ofList_of_refused refused] at built
      cases built
  · rintro ⟨admitted, holds⟩
    obtain ⟨longer, entered, holds'⟩ := empty.go admitted
    rw [holds.eq holds']
    exact entered

theorem ofList_eq_error_iff {refusal : Refusal} :
    ofList name declared = .error refusal ↔ FirstRefused name declared refusal := by
  refine ⟨fun refused => ?_, ofList_of_refused⟩
  rcases admitted_or_refused name declared with admitted | ⟨first, decisive⟩
  · have empty : Holds (⟨name, []⟩ : Table m) name [] := ⟨rfl, rfl⟩
    obtain ⟨longer, entered, -⟩ := empty.go admitted
    cases entered.symm.trans refused
  · rwa [← Except.error.inj ((ofList_of_refused decisive).symm.trans refused)]

/-! ### What a table answers -/

section Answers

variable (holds : t.Holds name declared) (admitted : Admitted declared)
include holds

theorem Holds.has_iff : t.has opcode = true ↔ opcode.plain ∈ declared.map (·.1) := by
  rw [Table.has_iff, holds.declarations]

theorem Holds.size_eq : t.size = declared.length := by
  rw [← holds.declarations, Table.declarations, List.length_map, size]

theorem Holds.opcodes_perm : (t.opcodes.map Quantity.int).Perm (declared.map (·.1)) := by
  have keys : declared.map (·.1) = (t.rows.map (·.1)).map Quantity.int := by
    rw [← holds.declarations, Table.declarations, List.map_map, List.map_map]
    rfl
  rw [keys]
  exact (List.mergeSort_perm ..).map _

/-- The entries are those of the opcodes. -/
theorem Holds.entries_eq :
    t.entries.map (fun e => (.int e.1, e.2)) = t.opcodes.map fun n : Int => t.entry n := by
  have listed : ∀ n ∈ t.opcodes, ((t.lookup? (.int n)).map (n, ·)).map
      (fun e => (Quantity.int e.1, e.2)) = some (t.entry n) := by
    intro n among
    have declared := holds.opcodes_perm.mem_iff.mp (List.mem_map_of_mem among)
    rw [← Quantity.plain_int] at declared
    obtain ⟨c, found⟩ := Option.isSome_iff_exists.mp (holds.has_iff.mpr declared)
    rw [entry, Quantity.plain_int, found]
    rfl
  rw [entries, List.map_filterMap, List.filterMap_congr listed]
  exact congrFun List.filterMap_eq_map t.opcodes

include admitted

theorem Holds.nodup_opcodes : t.opcodes.Nodup :=
  List.Nodup.of_map _ (holds.opcodes_perm.nodup_iff.mpr admitted.apart)

/-- The opcodes are in strictly ascending order. -/
theorem Holds.opcodes_ascend : t.opcodes.Pairwise (· < ·) := by
  have transitive (a b c : Int) (first : decide (a ≤ b) = true) (second : decide (b ≤ c) = true) :
      decide (a ≤ c) = true :=
    decide_eq_true (Int.le_trans (of_decide_eq_true first) (of_decide_eq_true second))
  have total (a b : Int) : (decide (a ≤ b) || decide (b ≤ a)) = true := by
    simpa using Int.le_total a b
  have sorted := List.pairwise_mergeSort transitive total (t.rows.map (·.1))
  refine (sorted.and (holds.nodup_opcodes admitted)).imp fun ⟨low, apart⟩ => ?_
  exact Int.lt_iff_le_and_ne.mpr ⟨of_decide_eq_true low, apart⟩

/-- The command of an opcode is the one that was declared for it. -/
theorem Holds.lookup?_eq_some_iff : t.lookup? opcode = some c ↔ (opcode.plain, c) ∈ declared := by
  rw [← holds.declarations]
  constructor
  · intro entry
    obtain ⟨n, plain, found⟩ := exists_mem_rows entry
    rw [plain]
    exact mem_declarations.mpr found
  · intro among
    have has := Table.has_iff.mpr (List.mem_map.mpr ⟨_, among, rfl⟩)
    obtain ⟨c', entry⟩ := Option.isSome_iff_exists.mp has
    obtain ⟨n, plain, found⟩ := exists_mem_rows entry
    rw [plain] at among
    have apart := admitted.apart
    rw [← holds.declarations] at apart
    have same := List.inj_on_of_nodup_map apart (mem_declarations.mpr found) among rfl
    rw [entry, (Prod.mk.inj same).2]

theorem Holds.entry_of_mem (among : (opcode.plain, c) ∈ declared) :
    t.entry opcode = (opcode.plain, c) := by
  rw [entry, (holds.lookup?_eq_some_iff admitted).mpr among]

/-- No declaration is lost. -/
theorem Holds.entries_perm : (t.entries.map fun e => (.int e.1, e.2)).Perm declared := by
  have rows : (t.rows.map (·.1)).map (fun n : Int => t.entry n) = t.declarations := by
    rw [List.map_map, Table.declarations]
    refine List.map_congr_left fun row among => ?_
    have among : (.int row.1, row.2) ∈ declared := by
      rw [← holds.declarations]
      exact mem_declarations.mpr among
    exact (holds.entry_of_mem admitted (by rwa [Quantity.plain_int])).trans
      (by rw [Quantity.plain_int])
  rw [holds.entries_eq, ← holds.declarations, ← rows]
  exact (List.mergeSort_perm ..).map _

end Answers

theorem Holds.entry_of_not_mem (holds : t.Holds name declared)
    (missing : opcode.plain ∉ declared.map (·.1)) :
    t.entry opcode = (opcode, .unimplemented none) := by
  rw [← holds.has_iff, Bool.not_eq_true, has, Option.isSome_eq_false_iff,
    Option.isNone_iff_eq_none] at missing
  rw [entry, missing]

/-- The tables give the same answers. -/
structure Agrees (t t' : Table m) : Prop where
  lookup : ∀ opcode, t.lookup opcode = t'.lookup opcode
  entry : ∀ opcode, t.entry opcode = t'.entry opcode
  has : ∀ opcode, t.has opcode = t'.has opcode
  opcodes : t.opcodes = t'.opcodes
  entries : t.entries = t'.entries
  size : t.size = t'.size

/-- The order of declarations does not matter. -/
theorem Holds.agrees {other : List (Quantity × Command m)} (holds : t.Holds name declared)
    (admitted : Admitted declared) (holds' : t'.Holds name other) (perm : declared.Perm other) :
    t.Agrees t' := by
  have admitted' := admitted.perm perm
  have found (opcode : Quantity) : t.lookup? opcode = t'.lookup? opcode := by
    apply Option.ext
    intro c
    rw [holds.lookup?_eq_some_iff admitted, holds'.lookup?_eq_some_iff admitted', perm.mem_iff]
  have opcodes : t.opcodes = t'.opcodes := by
    refine List.Perm.eq_of_pairwise (fun a b _ _ below above => ?_)
      (holds.opcodes_ascend admitted) (holds'.opcodes_ascend admitted') ?_
    · exact absurd (Int.lt_trans below above) (Int.lt_irrefl a)
    · have keys := (holds.opcodes_perm.trans (perm.map _)).trans holds'.opcodes_perm.symm
      exact (List.map_perm_map_iff fun _ _ => Quantity.int.inj).mp keys
  constructor
  case lookup => exact fun opcode => by rw [lookup, lookup, found]
  case entry => exact fun opcode => by rw [entry, entry, found]
  case has => exact fun opcode => by rw [has, has, found]
  case opcodes => exact opcodes
  case entries => rw [entries, entries, opcodes, funext found]
  case size => rw [holds.size_eq, holds'.size_eq, perm.length_eq]

/-- **Tables are built exactly of what is declared.** For any name and any declarations,

* a table is built if and only if all opcodes are words and no two are the same; otherwise the
  first declaration decides that is no word or repeats an earlier one;
* the entry of a declared opcode is what was declared for it, and any other number stands for
  itself without a name and with nothing bound to it; requests are answered by the same commands;
* the opcodes are those that were declared, in strictly ascending order, and the entries are theirs,
  so that none is lost or doubled;
* the same declarations in another order are built to a table that gives the same answers. -/
theorem build_exact (name : String) (declared : List (Quantity × Command m)) :
    let given := declared.map fun d => (d.1.plain, d.2)
    ((∃ t, build name declared = .ok t) ↔
      (∀ d ∈ given, IsWord d.1) ∧ (given.map (·.1)).Nodup) ∧
    (∀ refusal, build name declared = .error refusal ↔ FirstRefused name given refusal) ∧
    ∀ t, build name declared = .ok t →
      t.name = name ∧
      (∀ opcode c, (opcode.plain, c) ∈ given → t.entry opcode = (opcode.plain, c)) ∧
      (∀ opcode : Quantity, opcode.plain ∉ given.map (·.1) →
        t.entry opcode = (opcode, .unimplemented none)) ∧
      (∀ opcode, t.lookup opcode = (t.entry opcode).2) ∧
      (∀ opcode, t.has opcode = true ↔ opcode.plain ∈ given.map (·.1)) ∧
      t.opcodes.Pairwise (· < ·) ∧
      (t.opcodes.map Quantity.int).Perm (given.map (·.1)) ∧
      t.entries.map (fun e => (.int e.1, e.2)) = (t.opcodes.map fun n : Int => t.entry n) ∧
      (t.entries.map fun e => (.int e.1, e.2)).Perm given ∧
      t.size = declared.length ∧
      ∀ other, declared.Perm other → ∃ t', build name other = .ok t' ∧ t.Agrees t' := by
  intro given
  refine ⟨⟨?_, ?_⟩, fun refusal => ofList_eq_error_iff, ?_⟩
  · rintro ⟨t, built⟩
    obtain ⟨⟨words, apart⟩, -⟩ := ofList_eq_ok_iff.mp built
    exact ⟨words, apart⟩
  · rintro ⟨words, apart⟩
    exact isOk_ofList ⟨words, apart⟩
  · intro t built
    obtain ⟨admitted, holds⟩ := ofList_eq_ok_iff.mp built
    refine ⟨holds.name, fun opcode c => holds.entry_of_mem admitted,
      fun opcode => holds.entry_of_not_mem, t.lookup_eq_entry, fun opcode => holds.has_iff,
      holds.opcodes_ascend admitted, holds.opcodes_perm, holds.entries_eq,
      holds.entries_perm admitted, ?_, ?_⟩
    · rw [holds.size_eq, List.length_map]
    · intro other perm
      have reordered := perm.map fun d => (d.1.plain, d.2)
      obtain ⟨t', built'⟩ : ∃ t', build name other = .ok t' :=
        isOk_ofList (admitted.perm reordered)
      exact ⟨t', built', holds.agrees admitted (ofList_eq_ok_iff.mp built').2 reordered⟩

end Hid.Dispatch.Table
