import Hid.Proofs.Wire.Field

/-!
Sequences of fields. Writing values one after the other leaves their images one after the
other, and reading takes a block apart at the same places, so that a reader gives back what is
kept of the values (`write_holds`, `read_between`). A sequence that does not fit stops at the
first field that does not (`write_stops`).

* `write_read`: what a sequence of values comes to in a block of any size, and back; what
  a block of any length comes to when it is read as a sequence and written again.
-/

namespace Hid.Wire

open Hid.Wire.Field

/-! ### Values in a row -/

namespace Values

/-- Each slot can hold its value. -/
def Admits : (slots : List Slot) → Values slots → Prop
  | [], () => True
  | slot :: slots, (v, vs) => slot.field.Admits v ∧ Admits slots vs

/-- The bytes that values take up together. -/
def image : (slots : List Slot) → Values slots → Bytes
  | [], () => []
  | slot :: slots, (v, vs) => slot.field.image v ++ image slots vs

/-- What a block keeps of values. -/
def kept : (slots : List Slot) → Values slots → Values slots
  | [], () => ()
  | slot :: slots, (v, vs) => (slot.field.kept v, kept slots vs)

/-- The values of the first `n` slots. -/
def first : (n : Nat) → (slots : List Slot) → Values slots → Values (slots.take n)
  | 0, _, _ => ()
  | _ + 1, [], () => ()
  | n + 1, _ :: slots, (v, vs) => (v, first n slots vs)

/-- The values of a block of at least the width of the slots. -/
def ofBytes : (slots : List Slot) → Bytes → Values slots
  | [], _ => ()
  | slot :: slots, block =>
      (slot.field.ofBytes (block.take slot.field.width), ofBytes slots (block.drop slot.field.width))

end Values

/-- A block as it comes back, field by field. -/
def tidy : List Slot → Bytes → Bytes
  | [], _ => []
  | slot :: slots, block =>
      slot.field.tidy (block.take slot.field.width) ++ tidy slots (block.drop slot.field.width)

/-- No field goes back or ends between two bytes. -/
def Regular (slots : List Slot) : Prop := ∀ slot ∈ slots, slot.field.Regular

/-- A block that is long enough has the bytes of its first field, and enough after them. -/
theorem totalWidth_cons_le {slot : Slot} {slots : List Slot} {block : Bytes}
    (enough : totalWidth (slot :: slots) ≤ block.length) :
    (block.take slot.field.width).length = slot.field.width ∧
      totalWidth slots ≤ (block.drop slot.field.width).length := by
  rw [totalWidth] at enough
  constructor
  · exact List.length_take_of_le (by omega)
  · rw [List.length_drop]; omega

namespace Values

variable {slots : List Slot}

theorem Admits.regular {vs : Values slots} (admits : Admits slots vs) : Regular slots := by
  induction slots with
  | nil => exact fun slot found => absurd found List.not_mem_nil
  | cons slot slots ih =>
      obtain ⟨v, vs⟩ := vs
      exact List.forall_mem_cons.mpr ⟨admits.1.regular, ih admits.2⟩

theorem length_image {vs : Values slots} (admits : Admits slots vs) :
    (image slots vs).length = totalWidth slots := by
  induction slots with
  | nil => rfl
  | cons slot slots ih =>
      obtain ⟨v, vs⟩ := vs
      rw [image, List.length_append, Field.length_image admits.1, ih admits.2, totalWidth]

/-! ### Writing -/

variable {w : Writer} {size : Nat} {front : Bytes}

theorem write_holds {vs : Values slots} (holds : w.Holds size front) (admits : Admits slots vs)
    (fits : front.length + totalWidth slots ≤ size) :
    ∃ next, write slots vs w = .ok next ∧ next.Holds size (front ++ image slots vs) := by
  induction slots generalizing w front with
  | nil =>
      obtain ⟨⟩ := vs
      exact ⟨w, rfl, by rwa [image, List.append_nil]⟩
  | cons slot slots ih =>
      obtain ⟨v, vs⟩ := vs
      obtain ⟨admitted, others⟩ := admits
      rw [totalWidth] at fits
      obtain ⟨next, written, after⟩ := Field.write_holds holds admitted (by omega)
      have room : (front ++ slot.field.image v).length + totalWidth slots ≤ size := by
        rw [List.length_append, Field.length_image admitted]; omega
      obtain ⟨last, rest, done⟩ := ih after others room
      refine ⟨last, ?_, by rwa [image, ← List.append_assoc]⟩
      rw [write, written]
      exact rest

/-- Values that do not fit: those before some slot fit and are written, and with the value of
that slot the write fails, out of range. -/
theorem write_stops {vs : Values slots} (holds : w.Holds size front) (admits : Admits slots vs)
    (short : size < front.length + totalWidth slots) :
    ∃ n < slots.length,
      front.length + totalWidth (slots.take n) ≤ size ∧
      size < front.length + totalWidth (slots.take (n + 1)) ∧
      (∃ next, write (slots.take n) (first n slots vs) w = .ok next) ∧
      ∃ fault, fault.isOutOfRange ∧
        write (slots.take (n + 1)) (first (n + 1) slots vs) w = .error fault ∧
        write slots vs w = .error fault := by
  induction slots generalizing w front with
  | nil =>
      have := holds.inside
      rw [totalWidth] at short
      omega
  | cons slot slots ih =>
      obtain ⟨v, vs⟩ := vs
      obtain ⟨admitted, others⟩ := admits
      by_cases fits : front.length + slot.field.width ≤ size
      case pos =>
        obtain ⟨next, written, after⟩ := Field.write_holds holds admitted fits
        have length : (front ++ slot.field.image v).length = front.length + slot.field.width := by
          rw [List.length_append, Field.length_image admitted]
        rw [totalWidth, ← Nat.add_assoc, ← length] at short
        obtain ⟨n, inside, before, beyond, ⟨last, fine⟩, fault, range, failed, whole⟩ :=
          ih after others short
        rw [length, Nat.add_assoc] at before beyond
        refine ⟨n + 1, Nat.succ_lt_succ inside, before, beyond, ⟨last, ?_⟩, fault, range, ?_, ?_⟩
        · change (slot.field.write v w >>= write (slots.take n) (first n slots vs)) = .ok last
          rw [written]
          exact fine
        · change (slot.field.write v w >>= write (slots.take (n + 1)) (first (n + 1) slots vs)) =
            .error fault
          rw [written]
          exact failed
        · rw [write, written]
          exact whole
      case neg =>
        obtain ⟨fault, failed, range⟩ := Field.write_short holds admitted (Nat.lt_of_not_le fits)
        have beyond : size < front.length + totalWidth [slot] := by
          rw [totalWidth, totalWidth]; omega
        refine ⟨0, Nat.succ_pos _, holds.inside, beyond, ⟨w, rfl⟩, fault, range, ?_, ?_⟩
        · change (slot.field.write v w >>= Except.ok) = .error fault
          rw [failed]
          rfl
        · rw [write, failed]
          rfl

/-! ### Reading -/

theorem read_between (regular : Regular slots) (behind ahead : Bytes)
    (enough : totalWidth slots ≤ ahead.length) :
    read slots (.between behind ahead) =
      .ok (ofBytes slots ahead,
        .between (behind ++ ahead.take (totalWidth slots)) (ahead.drop (totalWidth slots))) := by
  induction slots generalizing behind ahead with
  | nil => simp [read, ofBytes, totalWidth]
  | cons slot slots ih =>
      obtain ⟨here, others⟩ := List.forall_mem_cons.mp regular
      obtain ⟨whole, left⟩ := totalWidth_cons_le enough
      have step := Field.read_between here behind (ahead.drop slot.field.width) whole
      rw [List.take_append_drop] at step
      have rest := ih others (behind ++ ahead.take slot.field.width) _ left
      simp only [read, step, rest, ofBytes, totalWidth, bind, Except.bind, List.append_assoc,
        List.take_add, List.drop_drop]

theorem read_short (regular : Regular slots) (behind ahead : Bytes)
    (short : ahead.length < totalWidth slots) :
    ∃ fault, read slots (.between behind ahead) = .error fault ∧ fault.isOutOfRange := by
  induction slots generalizing behind ahead with
  | nil => exact absurd short (Nat.not_lt_zero _)
  | cons slot slots ih =>
      obtain ⟨here, others⟩ := List.forall_mem_cons.mp regular
      rw [totalWidth] at short
      by_cases enough : slot.field.width ≤ ahead.length
      case pos =>
        have whole : (ahead.take slot.field.width).length = slot.field.width :=
          List.length_take_of_le enough
        have step := Field.read_between here behind (ahead.drop slot.field.width) whole
        rw [List.take_append_drop] at step
        obtain ⟨fault, failed, range⟩ := ih others (behind ++ ahead.take slot.field.width)
          (ahead.drop slot.field.width) (by rw [List.length_drop]; omega)
        refine ⟨fault, ?_, range⟩
        simp only [read, step, failed, bind, Except.bind]
      case neg =>
        obtain ⟨fault, failed, range⟩ := Field.read_short here behind (Nat.lt_of_not_le enough)
        refine ⟨fault, ?_, range⟩
        simp only [read, failed, bind, Except.bind]

/-! ### There and back -/

theorem ofBytes_image {vs : Values slots} (admits : Admits slots vs) :
    ofBytes slots (image slots vs) = kept slots vs := by
  induction slots with
  | nil => rfl
  | cons slot slots ih =>
      obtain ⟨v, vs⟩ := vs
      have whole := Field.length_image admits.1
      rw [image, ofBytes, List.take_left' whole, List.drop_left' whole, Field.ofBytes_image,
        ih admits.2, kept]

theorem admits_ofBytes (regular : Regular slots) {block : Bytes}
    (enough : totalWidth slots ≤ block.length) : Admits slots (ofBytes slots block) := by
  induction slots generalizing block with
  | nil => trivial
  | cons slot slots ih =>
      obtain ⟨here, others⟩ := List.forall_mem_cons.mp regular
      obtain ⟨whole, left⟩ := totalWidth_cons_le enough
      exact ⟨Field.admits_ofBytes here whole, ih others left⟩

theorem image_ofBytes {block : Bytes} (enough : totalWidth slots ≤ block.length) :
    image slots (ofBytes slots block) = tidy slots block := by
  induction slots generalizing block with
  | nil => rfl
  | cons slot slots ih =>
      obtain ⟨whole, left⟩ := totalWidth_cons_le enough
      rw [ofBytes, image, tidy, Field.image_ofBytes _ whole, ih left]

end Values

theorem length_tidy {slots : List Slot} {block : Bytes}
    (enough : totalWidth slots ≤ block.length) : (tidy slots block).length = totalWidth slots := by
  induction slots generalizing block with
  | nil => rfl
  | cons slot slots ih =>
      obtain ⟨whole, left⟩ := totalWidth_cons_le enough
      rw [tidy, List.length_append, Field.length_tidy _ whole, ih left, totalWidth]

/-- A block that has come back once comes back as it is. -/
theorem tidy_tidy {slots : List Slot} {block : Bytes} (enough : totalWidth slots ≤ block.length) :
    tidy slots (tidy slots block) = tidy slots block := by
  induction slots generalizing block with
  | nil => rfl
  | cons slot slots ih =>
      obtain ⟨whole, left⟩ := totalWidth_cons_le enough
      have tidied := Field.length_tidy _ whole
      rw [tidy, tidy, List.take_left' tidied, List.drop_left' tidied, Field.tidy_tidy, ih left]

namespace Values

variable {slots : List Slot}

/-- A writer of exactly the width of the slots yields the images. -/
theorem produce_exact {vs : Values slots} (admits : Admits slots vs) :
    ∃ w, write slots vs (.ofSize (totalWidth slots)) = .ok w ∧ w.finish = .ok (image slots vs) := by
  have fits : List.length ([] : Bytes) + totalWidth slots ≤ totalWidth slots := by simp
  obtain ⟨w, written, holds⟩ := write_holds (Writer.holds_ofSize _) admits fits
  exact ⟨w, written, holds.finish (length_image admits)⟩

/-- A larger one is written to, and its block is not finished. -/
theorem produce_early {vs : Values slots} (admits : Admits slots vs) {size : Nat}
    (large : totalWidth slots < size) :
    ∃ w, write slots vs (.ofSize size) = .ok w ∧
      w.finish = .error (.unfinished (totalWidth slots) size) := by
  have fits : List.length ([] : Bytes) + totalWidth slots ≤ size := by simp; omega
  obtain ⟨w, written, holds⟩ := write_holds (Writer.holds_ofSize _) admits fits
  have early := holds.finish_early (by rwa [List.nil_append, length_image admits])
  rw [List.nil_append, length_image admits] at early
  exact ⟨w, written, early⟩

/-- **A sequence of fields, written and read.** Values of a sequence of fields are written into
a block of a given size.

* The block is produced exactly if its size is the sum of the widths. It is then read back as
  what is kept of the values, and nothing remains.
* In a smaller block the fields are written up to the first that does not fit; that one fails,
  out of range, and the write with it.
* In a larger block all are written, and the block is not finished.

And a block that is at least as long as the sequence is read as values that are written back as
the block's bytes tidied; from a shorter one reading fails, out of range. -/
theorem write_read (slots : List Slot) (vs : Values slots) (admits : Admits slots vs) :
    (∃ w, write slots vs (.ofSize (totalWidth slots)) = .ok w ∧ w.finish = .ok (image slots vs)) ∧
    (∃ r, read slots (.ofBlock (image slots vs)) = .ok (kept slots vs, r) ∧ r.remaining = 0) ∧
    (∀ size < totalWidth slots, ∃ n < slots.length,
      totalWidth (slots.take n) ≤ size ∧ size < totalWidth (slots.take (n + 1)) ∧
      (∃ w, write (slots.take n) (first n slots vs) (.ofSize size) = .ok w) ∧
      ∃ fault, fault.isOutOfRange ∧
        write (slots.take (n + 1)) (first (n + 1) slots vs) (.ofSize size) = .error fault ∧
        write slots vs (.ofSize size) = .error fault) ∧
    (∀ size, totalWidth slots < size →
      ∃ w, write slots vs (.ofSize size) = .ok w ∧
        w.finish = .error (.unfinished (totalWidth slots) size)) ∧
    (∀ size, (∃ block, (write slots vs (.ofSize size) >>= Writer.finish) = .ok block) ↔
      size = totalWidth slots) ∧
    (∀ block, totalWidth slots ≤ block.length → ∃ vs' r w,
      read slots (.ofBlock block) = .ok (vs', r) ∧
      r.remaining = ((block.length - totalWidth slots : Nat) : Quantity) ∧
      write slots vs' (.ofSize (totalWidth slots)) = .ok w ∧
      w.finish = .ok (tidy slots block)) ∧
    (∀ block, block.length < totalWidth slots →
      ∃ fault, read slots (.ofBlock block) = .error fault ∧ fault.isOutOfRange) := by
  have regular := admits.regular
  have small : ∀ size < totalWidth slots, _ := fun size short =>
    write_stops (Writer.holds_ofSize size) admits (by rwa [List.length_nil, Nat.zero_add])
  refine ⟨produce_exact admits, ?_, ?_, fun size => produce_early admits, ?_, ?_, ?_⟩
  · have found := read_between regular [] (image slots vs) (length_image admits).ge
    rw [ofBytes_image admits] at found
    refine ⟨_, found, ?_⟩
    rw [Reader.remaining_between, List.length_drop, length_image admits, Nat.sub_self]
    rfl
  · simpa only [List.length_nil, Nat.zero_add] using small
  · intro size
    constructor
    · rintro ⟨block, produced⟩
      rcases Nat.lt_trichotomy size (totalWidth slots) with short | same | large
      · obtain ⟨n, -, -, -, -, fault, -, -, failed⟩ := small size short
        rw [failed] at produced
        cases produced
      · exact same
      · obtain ⟨w, written, early⟩ := produce_early admits large
        rw [written] at produced
        cases early.symm.trans produced
    · rintro rfl
      obtain ⟨w, written, finished⟩ := produce_exact admits
      exact ⟨image slots vs, by rw [written]; exact finished⟩
  · intro block enough
    obtain ⟨w, written, finished⟩ := produce_exact (admits_ofBytes regular enough)
    rw [image_ofBytes enough] at finished
    refine ⟨_, _, w, read_between regular [] block enough, ?_, written, finished⟩
    rw [Reader.remaining_between, List.length_drop]
  · intro block short
    exact read_short regular [] block short

/-- A number beyond its width, padding, a negative number and a byte block. -/
theorem write_read_mixed :
    Admits [⟨"", u8⟩, gap 1, ⟨"", s32⟩, ⟨"", .bytes 2⟩] (300, (), (-2 : Int), [7, 8], ()) ∧
    ∃ w, write [⟨"", u8⟩, gap 1, ⟨"", s32⟩, ⟨"", .bytes 2⟩] (300, (), (-2 : Int), [7, 8], ())
        (.ofSize 8) = .ok w ∧
      w.finish = .ok [44, 0, 254, 255, 255, 255, 7, 8] := by
  have admits : Admits [⟨"", u8⟩, gap 1, ⟨"", s32⟩, ⟨"", .bytes 2⟩]
      (300, (), (-2 : Int), [7, 8], ()) := ⟨trivial, ⟨1, rfl⟩, trivial, rfl, trivial⟩
  obtain ⟨w, written, finished⟩ := (write_read _ _ admits).1
  have bytes : image [⟨"", u8⟩, gap 1, ⟨"", s32⟩, ⟨"", .bytes 2⟩]
      (300, (), (-2 : Int), [7, 8], ()) = [44, 0, 254, 255, 255, 255, 7, 8] := by decide
  exact ⟨admits, w, written, finished.trans (congrArg Except.ok bytes)⟩

end Values
end Hid.Wire
