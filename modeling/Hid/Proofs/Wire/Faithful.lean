import Hid.Proofs.Wire.Catalogue

/-!
Layouts that keep to their size and give back what they were given. `Layout.Faithful` says so in
terms of reading and writing; what follows for blocks as a whole is that encoding never fails and
is undone by decoding (`Faithful.encode_ok`), and that every block of the size has a canonical form
(`Faithful.canonical`). The layout of a record of regular fields is faithful (`Record.faithful`),
and so is every layout of the catalogue.
-/

namespace Hid.Wire

variable {α : Type} {block : Bytes}

/-- The layout reads and writes exactly its size, and well-formed values come back from where they
were written. -/
structure Layout.Faithful (l : Layout α) (WellFormed : α → Prop) : Prop where
  room : l.size < Number.twoTo 40
  /-- A well-formed value fills a block of the size, from which it is read, up to the end. -/
  returns : ∀ v, WellFormed v → ∃ w block r, l.write v (.ofSize l.size) = .ok w ∧
    w.Holds l.size block ∧ block.length = l.size ∧
    l.read (.ofBlock block) = .ok (v, r) ∧ r.position = (l.size : Quantity)
  /-- Any block of the size is read up to the end, and as a well-formed value. -/
  reads : ∀ block, block.length = l.size → ∃ v r,
    l.read (.ofBlock block) = .ok (v, r) ∧ r.position = (l.size : Quantity) ∧ WellFormed v

namespace Layout

section Blocks

variable {l : Layout α} {WellFormed : α → Prop}

theorem decode_of_read {v : α} {r : Reader} (whole : block.length = l.size)
    (found : l.read (.ofBlock block) = .ok (v, r)) (all : r.position = (l.size : Quantity)) :
    l.decode block = .ok v := by
  rw [decode_of_length_eq l whole, found]
  exact if_pos all

namespace Faithful

theorem zeros (faithful : l.Faithful WellFormed) : l.zeros = .ok (List.replicate l.size 0) := by
  rw [Layout.zeros, Writer.declare_of_lt _ faithful.room]
  rfl

/-- A well-formed value is encoded, and decoded from what it is encoded as. -/
theorem encode_ok (faithful : l.Faithful WellFormed) {v : α} (formed : WellFormed v) :
    ∃ block, l.encode v = .ok block ∧ block.length = l.size ∧ l.decode block = .ok v := by
  obtain ⟨w, block, r, written, holds, whole, found, all⟩ := faithful.returns v formed
  refine ⟨block, ?_, whole, decode_of_read whole found all⟩
  rw [encode, Writer.declare_of_lt _ faithful.room, ok_bind, written]
  exact holds.finish whole

/-- A block of the size is decoded, and what it is decoded to is encoded as a block that says the
same and stays as it is if that is done again. -/
theorem canonical (faithful : l.Faithful WellFormed) (whole : block.length = l.size) :
    ∃ v canonical, l.decode block = .ok v ∧ l.encode v = .ok canonical ∧
      canonical.length = l.size ∧ l.decode canonical = .ok v := by
  obtain ⟨v, r, found, all, formed⟩ := faithful.reads block whole
  obtain ⟨canonical, encoded, length, decoded⟩ := faithful.encode_ok formed
  exact ⟨v, canonical, decode_of_read whole found all, encoded, length, decoded⟩

end Faithful

/-! ### Sizes of blocks -/

/-- A writer is declared for a block of the length that is asked for, or not at all. -/
theorem eq_ofSize_of_declare {size : Nat} {w : Writer}
    (declared : Writer.declare (size : Quantity) = .ok w) : w = .ofSize size := by
  rw [Writer.declare, offset?_natCast] at declared
  dsimp only at declared
  split at declared
  case isTrue => cases declared
  case isFalse =>
    split at declared
    case isTrue => cases declared
    case isFalse => exact (Except.ok.inj declared).symm

theorem length_zeros (zeroed : l.zeros = .ok block) : block.length = l.size := by
  rw [zeros] at zeroed
  cases declared : Writer.declare (l.size : Quantity) with
  | error fault =>
      rw [declared] at zeroed
      cases zeroed
  | ok w =>
      rw [declared, eq_ofSize_of_declare declared] at zeroed
      obtain rfl := Except.ok.inj zeroed
      exact List.length_replicate

/-- Whatever the layout encodes, the block has its size. -/
def Sized (l : Layout α) : Prop := ∀ v block, l.encode v = .ok block → block.length = l.size

/-- A block without inner structure is encoded as it is, if it has the size. -/
theorem sized_rawBytes (name : String) (size : Nat) : (rawBytes name size).Sized := by
  intro data block encoded
  change (Writer.declare (size : Quantity) >>= _) = _ at encoded
  cases declared : Writer.declare (size : Quantity) with
  | error fault =>
      rw [declared] at encoded
      cases encoded
  | ok w =>
      rw [declared, ok_bind, eq_ofSize_of_declare declared, rawBytes] at encoded
      dsimp only at encoded
      by_cases whole : data.length = size
      case neg =>
        rw [if_neg whole] at encoded
        cases encoded
      case pos =>
        have admits : (Field.bytes size).Admits data :=
          congrArg (fun n : Nat => (n : Quantity)) whole.symm
        have fits : List.length ([] : Bytes) + (Field.bytes size).width ≤ size := by
          rw [List.length_nil, Nat.zero_add]
          exact Nat.le_refl size
        obtain ⟨next, written, holds⟩ := Field.write_holds (Writer.holds_ofSize size) admits fits
        rw [if_pos whole, written, ok_bind, holds.finish whole] at encoded
        obtain rfl := Except.ok.inj encoded
        exact whole

end Blocks
end Layout

/-! ### Records -/

namespace Record

variable {r : Record α}

/-- The value is made of values that fit their slots and lie within their widths. -/
def WellFormed (r : Record α) (v : α) : Prop :=
  ∃ vs, Values.Admits r.slots vs ∧ Values.InRange r.slots vs ∧ v = r.make vs

/-- A record can be relied on if its fields can and if it splits values as it makes them. -/
structure Sound (r : Record α) : Prop where
  regular : Regular r.slots
  room : totalWidth r.slots < Number.twoTo 40
  splits : ∀ vs, r.split (r.make vs) = vs

/-- A block of the width of the slots is read up to its end. -/
theorem read_whole (regular : Regular r.slots) (whole : block.length = totalWidth r.slots) :
    r.layout.read (.ofBlock block) =
      .ok (r.make (Values.ofBytes r.slots block), .between block []) := by
  have found := Values.read_between regular [] block whole.ge
  rw [← whole, List.take_length, List.drop_length, List.nil_append] at found
  rw [layout, Reader.ofBlock_eq]
  dsimp only
  rw [found]
  rfl

theorem faithful (sound : r.Sound) : r.layout.Faithful r.WellFormed := by
  refine ⟨sound.room, ?_, ?_⟩
  · rintro _ ⟨vs, admits, within, rfl⟩
    have fits : List.length ([] : Bytes) + totalWidth r.slots ≤ totalWidth r.slots := by simp
    obtain ⟨w, written, holds⟩ :=
      Values.write_holds (Writer.holds_ofSize (totalWidth r.slots)) admits fits
    have whole := Values.length_image admits
    have found := read_whole sound.regular whole
    rw [Values.ofBytes_image admits, Values.kept_of_inRange within] at found
    refine ⟨w, _, _, ?_, holds, whole, found, congrArg (fun n : Nat => (n : Quantity)) whole⟩
    rw [layout]
    dsimp only
    rw [sound.splits, written]
  · intro block whole
    have whole : block.length = totalWidth r.slots := whole
    refine ⟨_, _, read_whole sound.regular whole,
      congrArg (fun n : Nat => (n : Quantity)) whole, ?_⟩
    exact ⟨_, Values.admits_ofBytes sound.regular whole.ge, Values.inRange_ofBytes whole.ge, rfl⟩

/-- What a block is decoded to is encoded as the block with its padding zeroed, its flags zero or
one and its NaNs canonical. -/
theorem encode_decode (sound : r.Sound) (whole : block.length = r.layout.size) :
    ∃ v, r.layout.decode block = .ok v ∧ r.layout.encode v = .ok (tidy r.slots block) := by
  have whole : block.length = totalWidth r.slots := whole
  have admits := Values.admits_ofBytes sound.regular whole.ge
  refine ⟨_, decode_eq sound.regular whole, ?_⟩
  rw [encode_eq sound.room (by rwa [sound.splits]), sound.splits, Values.image_ofBytes whole.ge]

end Record

/-- Every layout of the catalogue is the layout of a sound record. -/
theorem Shape.sound (s : Shape) : s.record.Sound :=
  ⟨Regular.of_isFixed s.isFixed, s.size_lt, s.split_make⟩

theorem Shape.sized (s : Shape) : s.layout.Sized := by
  intro v block encoded
  rw [encode_eq] at encoded
  obtain rfl := Except.ok.inj encoded
  exact s.length_image _

theorem Shape.faithful (s : Shape) : s.layout.Faithful s.record.WellFormed := by
  rw [s.layout_eq_record]
  exact Record.faithful s.sound

end Hid.Wire
