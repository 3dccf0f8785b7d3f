import Hid.Proofs.Wire.InPlace
import Hid.Proofs.Wire.Field

/-!
Cursors that are changed in place, through operations of any kind and in any order, those that
fail included. What a run leaves of a cursor depends on the operations that fit and on no others:
it has come as far as their widths together (`Reader.after_eq`), and a writer has passed their
images (`Writer.Holds.after`).

* `cursors_bounded`: at any moment a cursor stands in its block, the next operation succeeds
  exactly if it fits and changes nothing if it does not, and what a writer has not come to is
  zero.
-/

namespace Hid.Wire

/-! ### Operations that fit and operations that do not -/

/-- How far operations of some widths come in a block of some length. Each that fits moves on by
its width, and the others do not move. -/
def reach (length : Nat) : Nat → List Nat → Nat
  | place, [] => place
  | place, width :: widths =>
      reach length (if place + width ≤ length then place + width else place) widths

/-- An operation takes up a width at a place of a block: it succeeds exactly if that many bytes
lie ahead, it then moves the cursor on by them, and if it fails, out of range, the cursor is as it
was. -/
structure InPlace.TakesUp (op : InPlace σ α) (cursor : σ) (position : σ → Quantity)
    (length place width : Nat) : Prop where
  succeeds_iff : (∃ found next, op.run cursor = .ok found next) ↔ place + width ≤ length
  advances : ∀ found next, op.run cursor = .ok found next →
    position next = ((place + width : Nat) : Quantity)
  unchanged : ∀ fault next, op.run cursor = .error fault next →
    next = cursor ∧ fault.isOutOfRange

theorem InPlace.TakesUp.of_cases {op : InPlace σ α} {cursor : σ} {position : σ → Quantity}
    {length place width : Nat}
    (fits : place + width ≤ length → ∃ found next, op.run cursor = .ok found next ∧
      position next = ((place + width : Nat) : Quantity))
    (overruns : length < place + width →
      ∃ fault, op.run cursor = .error fault cursor ∧ fault.isOutOfRange) :
    op.TakesUp cursor position length place width := by
  rcases Nat.lt_or_ge length (place + width) with short | enough
  · obtain ⟨fault, failed, range⟩ := overruns short
    refine ⟨⟨?_, fun enough => absurd enough (Nat.not_le.mpr short)⟩, ?_, ?_⟩
    · rintro ⟨found, next, ran⟩
      cases failed.symm.trans ran
    · intro found next ran
      cases failed.symm.trans ran
    · intro fault next ran
      cases failed.symm.trans ran
      exact ⟨rfl, range⟩
  · obtain ⟨found, next, ran, there⟩ := fits enough
    refine ⟨⟨fun _ => enough, fun _ => ⟨found, next, ran⟩⟩, ?_, ?_⟩
    · intro found next again
      cases ran.symm.trans again
      exact there
    · intro fault next failed
      cases ran.symm.trans failed

/-! ### Readers -/

namespace Reader

variable {f : Field} {block : Bytes} {place : Nat}

theorem pull_fits (regular : f.Regular) (fits : place + f.width ≤ block.length) :
    f.pull.run ⟨block, (place : Quantity)⟩ =
      .ok (f.ofBytes ((block.drop place).take f.width))
        ⟨block, ((place + f.width : Nat) : Quantity)⟩ := by
  have whole : ((block.drop place).take f.width).length = f.width := by
    rw [List.length_take, List.length_drop]; omega
  have found := Field.read_between regular (block.take place)
    ((block.drop place).drop f.width) whole
  rw [List.take_append_drop, ← List.take_add, List.drop_drop, between_take_drop fits,
    between_take_drop (by omega)] at found
  rw [Field.pull_run, found]
  rfl

theorem pull_overruns (regular : f.Regular) (inside : place ≤ block.length)
    (short : block.length < place + f.width) :
    ∃ fault, f.pull.run ⟨block, (place : Quantity)⟩ = .error fault ⟨block, (place : Quantity)⟩ ∧
      fault.isOutOfRange := by
  have ahead : (block.drop place).length < f.width := by rw [List.length_drop]; omega
  obtain ⟨fault, failed, range⟩ := Field.read_short regular (block.take place) ahead
  rw [between_take_drop inside] at failed
  exact ⟨fault, by rw [Field.pull_run, failed]; rfl, range⟩

/-- What reads of fields leave of a reader that stands in its block, by induction on the fields:
the one at hand moves the reader on or does nothing. -/
theorem after_eq {fields : List Field} (regular : ∀ f ∈ fields, f.Regular)
    (inside : place ≤ block.length) :
    (⟨block, (place : Quantity)⟩ : Reader).after fields =
      ⟨block, (reach block.length place (fields.map Field.width) : Quantity)⟩ := by
  induction fields generalizing place with
  | nil => rfl
  | cons f fields ih =>
      obtain ⟨here, others⟩ := List.forall_mem_cons.mp regular
      rw [after_cons, List.map_cons, reach]
      by_cases fits : place + f.width ≤ block.length
      case pos =>
        rw [InPlace.after_of_ok (pull_fits here fits), if_pos fits]
        exact ih others fits
      case neg =>
        obtain ⟨fault, failed, -⟩ := pull_overruns here inside (Nat.lt_of_not_le fits)
        rw [InPlace.after_of_error failed, if_neg fits]
        exact ih others inside

/-- A reader stands at a place in its block: the next field is read exactly if it fits, from the
bytes there, the block stays whole, and a field that does not fit makes no difference to any
later reads. -/
structure Stands (r : Reader) (block : Bytes) (place : Nat) : Prop where
  inside : place ≤ block.length
  block_eq : r.block = block
  position_eq : r.position = (place : Quantity)
  remaining_eq : r.remaining = ((block.length - place : Nat) : Quantity)
  takesUp : ∀ f : Field, f.Regular →
    f.pull.TakesUp r Reader.position block.length place f.width
  reads : ∀ (f : Field) found next, f.Regular → f.pull.run r = .ok found next →
    found = f.ofBytes ((block.drop place).take f.width) ∧ next.block = block
  spared : ∀ (f : Field) later, f.Regular → block.length < place + f.width →
    r.after (f :: later) = r.after later

theorem stands (inside : place ≤ block.length) :
    (⟨block, (place : Quantity)⟩ : Reader).Stands block place where
  inside := inside
  block_eq := rfl
  position_eq := rfl
  remaining_eq := wayToEnd_natCast _ _ inside
  takesUp f regular := .of_cases (fun fits => ⟨_, _, pull_fits regular fits, rfl⟩)
    (pull_overruns regular inside)
  reads f found next regular ran := by
    by_cases fits : place + f.width ≤ block.length
    case pos =>
      cases (pull_fits regular fits).symm.trans ran
      exact ⟨rfl, rfl⟩
    case neg =>
      obtain ⟨fault, failed, -⟩ := pull_overruns regular inside (Nat.lt_of_not_le fits)
      cases failed.symm.trans ran
  spared f later regular short := by
    obtain ⟨fault, failed, -⟩ := pull_overruns regular inside short
    rw [after_cons, InPlace.after_of_error failed]

end Reader

theorem reach_le {length place : Nat} (inside : place ≤ length) (widths : List Nat) :
    reach length place widths ≤ length := by
  induction widths generalizing place with
  | nil => exact inside
  | cons width widths ih =>
      rw [reach]
      split
      case isTrue fits => exact ih fits
      case isFalse => exact ih inside

/-! ### Writers -/

namespace Writing

/-- The field can hold the value. -/
def Admitted : Writing → Prop
  | .field f v => f.Admits v
  | .close => True

/-- The bytes that an operation moves a writer on by. -/
def width : Writing → Nat
  | .field f _ => f.width
  | .close => 0

/-- The bytes that an operation passes, as it leaves them. -/
def image : Writing → Bytes
  | .field f v => f.image v
  | .close => []

theorem length_image {op : Writing} (admitted : op.Admitted) : op.image.length = op.width := by
  cases op with
  | field f v => exact Field.length_image admitted
  | close => rfl

end Writing

/-- The bytes before the position of a writer, after operations of which each that fits adds its
image. -/
def filled (size : Nat) : Bytes → List Writing → Bytes
  | front, [] => front
  | front, op :: ops =>
      filled size (if front.length + op.width ≤ size then front ++ op.image else front) ops

theorem length_filled {size : Nat} (front : Bytes) {ops : List Writing}
    (admitted : ∀ op ∈ ops, op.Admitted) :
    (filled size front ops).length = reach size front.length (ops.map Writing.width) := by
  induction ops generalizing front with
  | nil => rfl
  | cons op ops ih =>
      obtain ⟨here, others⟩ := List.forall_mem_cons.mp admitted
      rw [filled, ih _ others, List.map_cons, reach]
      split
      case isTrue => rw [List.length_append, Writing.length_image here]
      case isFalse => rfl

/-- What has been passed stays as it is. -/
theorem prefix_filled (size : Nat) (front : Bytes) (ops : List Writing) :
    front <+: filled size front ops := by
  induction ops generalizing front with
  | nil => exact List.prefix_rfl
  | cons op ops ih =>
      rw [filled]
      split
      case isTrue => exact (List.prefix_append front op.image).trans (ih _)
      case isFalse => exact ih front

namespace Writer.Holds

variable {w : Writer} {size : Nat} {front : Bytes} {f : Field} {v : f.Value}

theorem push_fits (holds : w.Holds size front) (admits : f.Admits v)
    (fits : front.length + f.width ≤ size) :
    ∃ next, (f.push v).run w = .ok () next ∧ next.Holds size (front ++ f.image v) := by
  obtain ⟨next, written, after⟩ := Field.write_holds holds admits fits
  exact ⟨next, by rw [Field.push_run, written]; rfl, after⟩

theorem push_overruns (holds : w.Holds size front) (admits : f.Admits v)
    (short : size < front.length + f.width) :
    ∃ fault, (f.push v).run w = .error fault w ∧ fault.isOutOfRange := by
  obtain ⟨fault, failed, range⟩ := Field.write_short holds admits short
  exact ⟨fault, by rw [Field.push_run, failed]; rfl, range⟩

/-- What operations leave of a writer, by induction on them: the one at hand adds its image to
what has been passed or does nothing. -/
theorem after {writings : List Writing} (holds : w.Holds size front)
    (admitted : ∀ op ∈ writings, op.Admitted) :
    (w.after writings).Holds size (filled size front writings) := by
  induction writings generalizing w front with
  | nil => exact holds
  | cons op writings ih =>
      obtain ⟨here, others⟩ := List.forall_mem_cons.mp admitted
      rw [Writer.after_cons, filled]
      refine ih ?_ others
      cases op with
      | field f v =>
          by_cases fits : front.length + f.width ≤ size
          case pos =>
            obtain ⟨next, ran, after⟩ := holds.push_fits here fits
            rw [Writing.width, if_pos fits]
            rwa [Writing.perform, InPlace.after_of_ok ran]
          case neg =>
            obtain ⟨fault, failed, -⟩ := holds.push_overruns here (Nat.lt_of_not_le fits)
            rw [Writing.width, if_neg fits]
            rwa [Writing.perform, InPlace.after_of_error failed]
      | close =>
          rwa [Writer.after_close, Writing.image, List.append_nil, ite_self]

end Writer.Holds

/-- A writer stands at a place in its block: all that lies ahead is zero, the next field is
written exactly if it fits, over the bytes that it takes up and no others, and one that does not
fit makes no difference to any later operations. Padding stays zero. The block is taken exactly
at its end. -/
structure Writer.Stands (w : Writer) (size place : Nat) : Prop where
  inside : place ≤ size
  length_block : w.block.length = size
  position_eq : w.position = (place : Quantity)
  zeros : w.block.drop place = List.replicate (size - place) 0
  takesUp : ∀ (f : Field) (v : f.Value), f.Admits v →
    (f.push v).TakesUp w Writer.position size place f.width
  writes : ∀ (f : Field) (v : f.Value) next, f.Admits v → (f.push v).run w = .ok () next →
    next.block = w.block.take place ++ f.image v ++ w.block.drop (place + f.width)
  padded : ∀ (count : Nat) later, place + count ≤ size → (∀ op ∈ later, op.Admitted) →
    ((w.after (.field (.pad count) () :: later)).block.drop place).take count =
      List.replicate count 0
  spared : ∀ (f : Field) (v : f.Value) later, f.Admits v → size < place + f.width →
    w.after (.field f v :: later) = w.after later
  closes_iff : (∃ found next, Writer.close.run w = .ok found next) ↔ place = size
  closed : ∀ found next, Writer.close.run w = .ok found next → found = w.block ∧ next = w
  unclosed : ∀ fault next, Writer.close.run w = .error fault next → next = w

namespace Writer.Holds

variable {w : Writer} {size : Nat} {front : Bytes}

theorem takesUp (holds : w.Holds size front) {f : Field} {v : f.Value} (admits : f.Admits v) :
    (f.push v).TakesUp w Writer.position size front.length f.width := by
  refine .of_cases (fun fits => ?_) (holds.push_overruns admits)
  obtain ⟨next, ran, after⟩ := holds.push_fits admits fits
  refine ⟨(), next, ran, ?_⟩
  rw [after.position, List.length_append, Field.length_image admits]

theorem block_of_push (holds : w.Holds size front) {f : Field} {v : f.Value} {next : Writer}
    (admits : f.Admits v) (ran : (f.push v).run w = .ok () next) :
    next.block =
      w.block.take front.length ++ f.image v ++ w.block.drop (front.length + f.width) := by
  have fits := (holds.takesUp admits).succeeds_iff.mp ⟨(), next, ran⟩
  obtain ⟨written, again, after⟩ := holds.push_fits admits fits
  cases ran.symm.trans again
  rw [after.block, holds.take_block, holds.drop_block, List.length_append,
    Field.length_image admits]

/-- Padding that fits is passed as zeros, and what has been passed stays. -/
theorem padded (holds : w.Holds size front) {count : Nat} {later : List Writing}
    (fits : front.length + count ≤ size) (admitted : ∀ op ∈ later, op.Admitted) :
    ((w.after (.field (.pad count) () :: later)).block.drop front.length).take count =
      List.replicate count 0 := by
  have forward : (Field.pad count).Admits () := ⟨count, rfl⟩
  obtain ⟨next, ran, passed⟩ := holds.push_fits forward fits
  have rest : w.after (.field (.pad count) () :: later) = next.after later := by
    rw [Writer.after_cons, Writing.perform, InPlace.after_of_ok ran]
  obtain ⟨more, filling⟩ := prefix_filled size (front ++ (Field.pad count).image ()) later
  rw [rest, (passed.after admitted).block, ← filling, List.append_assoc, List.append_assoc,
    List.drop_left]
  exact List.take_left' List.length_replicate

theorem closes (holds : w.Holds size front) :
    (front.length = size ∧ Writer.close.run w = .ok w.block w) ∨
      (front.length < size ∧ ∃ fault, Writer.close.run w = .error fault w) := by
  rcases Nat.eq_or_lt_of_le holds.inside with full | early
  · have there : w.position = (w.size : Quantity) := by rw [holds.position, full, holds.sized]
    left
    rw [Writer.close_run, Writer.finish, if_pos there]
    exact ⟨full, rfl⟩
  · right
    rw [Writer.close_run, holds.finish_early early]
    exact ⟨early, _, rfl⟩

theorem stands (holds : w.Holds size front) : w.Stands size front.length where
  inside := holds.inside
  length_block := holds.length_block
  position_eq := holds.position
  zeros := holds.drop_block 0
  takesUp _ _ := holds.takesUp
  writes _ _ _ := holds.block_of_push
  padded _ _ := holds.padded
  spared f v later admits short := by
    obtain ⟨fault, failed, -⟩ := holds.push_overruns admits short
    rw [Writer.after_cons, Writing.perform, InPlace.after_of_error failed]
  closes_iff := by
    rcases holds.closes with ⟨full, taken⟩ | ⟨early, fault, failed⟩
    · exact ⟨fun _ => full, fun _ => ⟨_, _, taken⟩⟩
    · refine ⟨?_, fun full => absurd full (Nat.ne_of_lt early)⟩
      rintro ⟨found, next, taken⟩
      cases failed.symm.trans taken
  closed found next ran := by
    rcases holds.closes with ⟨-, taken⟩ | ⟨-, fault, failed⟩
    · cases taken.symm.trans ran
      exact ⟨rfl, rfl⟩
    · cases failed.symm.trans ran
  unclosed fault next ran := by
    rcases holds.closes with ⟨-, taken⟩ | ⟨-, fault, failed⟩
    · cases taken.symm.trans ran
    · cases failed.symm.trans ran
      rfl

end Writer.Holds

/-- **Cursors stay in their blocks.** Take a reader of a block after reads of any fields, and a
writer of a block of any size after any operations, those that fail included. Each stands at a
place in its block, the one that the operations that fit have brought it to. There a field is
read or written exactly if it fits, and moves the cursor on by its width; if it does not fit, the
cursor, the position and all bytes, is as before, and so is what any later operations do. A
write changes the bytes that it takes up and no others; all bytes at the position and behind it
are zero, and so is padding, for ever. A block is taken from the writer exactly if the position
is its size. -/
theorem cursors_bounded (block : Bytes) (fields : List Field) (regular : ∀ f ∈ fields, f.Regular)
    (size : Nat) (writings : List Writing) (admitted : ∀ op ∈ writings, op.Admitted) :
    ((Reader.ofBlock block).after fields).Stands block
        (reach block.length 0 (fields.map Field.width)) ∧
      ((Writer.ofSize size).after writings).Stands size
        (reach size 0 (writings.map Writing.width)) := by
  constructor
  · change ((⟨block, ((0 : Nat) : Quantity)⟩ : Reader).after fields).Stands _ _
    rw [Reader.after_eq regular (Nat.zero_le _)]
    exact Reader.stands (reach_le (Nat.zero_le _) _)
  · have holds := (Writer.holds_ofSize size).after admitted
    have place : (filled size [] writings).length = reach size 0 (writings.map Writing.width) :=
      length_filled [] admitted
    rw [← place]
    exact holds.stands

/-- Of these the second and the fourth overrun a block of five bytes. -/
def readsTried : List Field := [.u16, .u32, .bytes 2, .pad 3, .u8]

/-- Of these the third, the fourth and the sixth fail with a block of six bytes. -/
def writesTried : List Writing :=
  [.field .u16 (-1 : Int), .field (.pad 2) (), .field .u64 (7 : Int), .close,
    .field .u8 (300 : Int), .field (.bytes 2) [9, 9], .field .flag true, .close]

/-- Shorter fields are still read and written after those that overrun. -/
theorem cursors_bounded_tried :
    (∀ f ∈ readsTried, f.Regular) ∧ (∀ op ∈ writesTried, op.Admitted) ∧
      ((Reader.ofBlock [1, 2, 3, 4, 5]).after readsTried).Stands [1, 2, 3, 4, 5] 5 ∧
      ((Writer.ofSize 6).after writesTried).Stands 6 6 ∧
      ((Writer.ofSize 6).after writesTried).block = [255, 255, 0, 0, 44, 1] := by
  have regular : ∀ f ∈ readsTried, f.Regular := by
    simp only [readsTried, List.forall_mem_cons]
    exact ⟨trivial, trivial, ⟨2, rfl⟩, ⟨3, rfl⟩, trivial, nofun⟩
  have admitted : ∀ op ∈ writesTried, op.Admitted := by
    simp only [writesTried, List.forall_mem_cons]
    exact ⟨trivial, ⟨2, rfl⟩, trivial, trivial, trivial, rfl, trivial, trivial, nofun⟩
  obtain ⟨reader, writer⟩ := cursors_bounded [1, 2, 3, 4, 5] readsTried regular 6 writesTried admitted
  exact ⟨regular, admitted, reader, writer, by decide⟩

end Hid.Wire
