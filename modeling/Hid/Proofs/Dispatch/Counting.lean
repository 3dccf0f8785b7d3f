import Hid.Dispatch.Stats

/-!
What counting an outcome does to the statistics. The rows stay in the order of their keys
(`Ordered.record`), the row of the key counts one more (`row?_record`), and every other row is
as it was (`row?_record_of_ne`).
-/

namespace Hid.Dispatch

namespace Stats

/-- Rows have keys of their own, in ascending order. -/
def Ordered (stats : Stats) : Prop := stats.Pairwise fun a b => a.key < b.key

variable {stats : Stats} {key : Int} {name : String} {outcome : Outcome}

theorem row?_cons_of_eq {row : Tally} {key : Quantity} (same : (row.key : Quantity) = key.plain) :
    row? (row :: stats) key = some row :=
  List.find?_cons_of_pos (beq_iff_eq.mpr same)

theorem row?_cons_of_ne {row : Tally} {key : Quantity}
    (apart : (row.key : Quantity) ≠ key.plain) :
    row? (row :: stats) key = stats.row? key :=
  List.find?_cons_of_neg (mt beq_iff_eq.mp apart)

/-- A key in front of the first row is in front of all. -/
theorem key_lt_of_before {row : Tally} (before : key < row.key)
    (above : ∀ other ∈ stats, row.key < other.key) : ∀ other ∈ row :: stats, key < other.key := by
  intro other found
  rcases List.mem_cons.mp found with rfl | found
  · exact before
  · exact Int.lt_trans before (above other found)

theorem row?_eq_none (above : ∀ row ∈ stats, key < row.key) : stats.row? key = none := by
  apply List.find?_eq_none.mpr
  intro row found same
  have below := above row found
  rw [Quantity.plain_int] at same
  injection beq_iff_eq.mp same with equal
  omega

theorem row?_record_of_ne {other : Quantity} (ne : other.plain ≠ key) :
    (stats.record key name outcome).row? other = stats.row? other := by
  have apart : (key : Quantity) ≠ other.plain := ne.symm
  induction stats with
  | nil => exact row?_cons_of_ne apart
  | cons row rest ih =>
      rw [record]
      split
      case isTrue before => exact row?_cons_of_ne apart
      case isFalse notBefore =>
        split
        case isTrue same =>
          rw [same] at apart
          rw [row?_cons_of_ne apart]
          exact row?_cons_of_ne apart
        case isFalse after =>
          by_cases here : (row.key : Quantity) = other.plain
          · rw [row?_cons_of_eq here, row?_cons_of_eq here]
          · rw [row?_cons_of_ne here, row?_cons_of_ne here, ih]

theorem row?_record (ordered : stats.Ordered) :
    (stats.record key name outcome).row? key =
      some (((stats.row? key).getD { key, name }).count outcome) := by
  have plain : (key : Quantity) = (key : Quantity).plain := (Quantity.plain_int key).symm
  induction stats with
  | nil => exact row?_cons_of_eq plain
  | cons row rest ih =>
      obtain ⟨above, rest_ordered⟩ := List.pairwise_cons.mp ordered
      rw [record]
      split
      case isTrue before =>
        rw [row?_eq_none (key_lt_of_before before above)]
        exact row?_cons_of_eq plain
      case isFalse notBefore =>
        split
        case isTrue same =>
          have here : (row.key : Quantity) = (key : Quantity).plain := by rw [← same, ← plain]
          rw [row?_cons_of_eq here]
          exact row?_cons_of_eq here
        case isFalse after =>
          have apart : (row.key : Quantity) ≠ (key : Quantity).plain := by
            intro equal
            rw [← plain] at equal
            injection equal with equal
            exact after equal.symm
          rw [row?_cons_of_ne apart, row?_cons_of_ne apart, ih rest_ordered]

theorem mem_record {row : Tally} (found : row ∈ stats.record key name outcome) :
    row.key = key ∨ ∃ old ∈ stats, row.key = old.key := by
  induction stats with
  | nil =>
      rw [record, List.mem_singleton] at found
      exact .inl (congrArg Tally.key found)
  | cons first rest ih =>
      rw [record] at found
      split at found
      case isTrue before =>
        rcases List.mem_cons.mp found with new | old
        · exact .inl (congrArg Tally.key new)
        · exact .inr ⟨row, old, rfl⟩
      case isFalse notBefore =>
        split at found
        case isTrue same =>
          rcases List.mem_cons.mp found with counted | old
          · exact .inr ⟨first, List.mem_cons_self, by rw [counted]; rfl⟩
          · exact .inr ⟨row, List.mem_cons_of_mem _ old, rfl⟩
        case isFalse after =>
          rcases List.mem_cons.mp found with kept | later
          · exact .inr ⟨first, List.mem_cons_self, congrArg Tally.key kept⟩
          · rcases ih later with new | ⟨old, among, same⟩
            · exact .inl new
            · exact .inr ⟨old, List.mem_cons_of_mem _ among, same⟩

theorem Ordered.record (ordered : stats.Ordered) : (stats.record key name outcome).Ordered := by
  induction stats with
  | nil => exact List.pairwise_singleton ..
  | cons row rest ih =>
      obtain ⟨above, rest_ordered⟩ := List.pairwise_cons.mp ordered
      rw [Stats.record]
      split
      case isTrue before =>
        exact List.pairwise_cons.mpr ⟨key_lt_of_before before above, ordered⟩
      case isFalse notBefore =>
        split
        case isTrue same => exact List.pairwise_cons.mpr ⟨above, rest_ordered⟩
        case isFalse after =>
          refine List.pairwise_cons.mpr ⟨?_, ih rest_ordered⟩
          intro other found
          rcases mem_record found with new | ⟨old, among, same⟩
          · omega
          · rw [same]
            exact above old among

end Stats
end Hid.Dispatch
