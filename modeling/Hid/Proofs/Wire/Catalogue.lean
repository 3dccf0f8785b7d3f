import Hid.Wire.Record
import Hid.Proofs.Wire.Sequence

/-!
The layouts of the catalogue, each read and written by hand, against their records. A layout
reads and writes what its record says, slot by slot (`Shape.layout_eq_record`), so what holds of
sequences of fields holds of every layout.

* `Shape.layout_agrees`: a layout reads every block of its size and no other, writes every value
  into a block of its size, and the two undo each other, up to padding, flags and NaNs.
-/

namespace Hid.Wire

/-! ### Layouts as records -/

section Steps

variable {α β ε : Type}

theorem ok_bind (a : α) (next : α → Except ε β) : (Except.ok a >>= next) = next a := rfl

theorem bind_ok (found : Except ε α) : (found >>= fun a => .ok a) = found := by
  cases found <;> rfl

theorem pure_eq_ok (a : α) : (pure a : Except ε α) = .ok a := rfl

theorem map_eq_bind (f : α → β) (found : Except ε α) :
    found.map f = (found >>= fun a => .ok (f a)) := rfl

end Steps

theorem Field.read_pad (count : Quantity) (r : Reader) :
    (Field.pad count).read r = (r.skip count >>= fun r => .ok ((), r)) := by
  rw [Field.read]
  cases r.skip count <;> rfl

theorem Field.write_pad (count : Quantity) (w : Writer) : (Field.pad count).write () w = w.pad count :=
  rfl

theorem Layout.eq_of_same {α : Type} {l l' : Layout α} (name : l.name = l'.name)
    (size : l.size = l'.size) (read : ∀ r, l.read r = l'.read r)
    (write : ∀ v w, l.write v w = l'.write v w) : l = l' := by
  cases l
  cases l'
  cases name
  cases size
  cases funext read
  cases funext fun v => funext (write v)
  rfl

/-- Every layout reads and writes the slots of its record, and is as large as they are. -/
theorem Shape.layout_eq_record (s : Shape) : s.layout = s.record.layout := by
  -- The steps of either side are brought into one chain: parts that are layouts themselves are
  -- opened, and so is the record's walk over its slots.
  cases s <;> refine Layout.eq_of_same rfl rfl ?_ ?_ <;> intros <;>
    simp only [Shape.layout, Layout.empty, Layout.aruid, Layout.word32, Layout.word64,
      Layout.signed64, Layout.flagWord, Layout.npadId, Layout.deviceHandle, Layout.vibrationValue,
      Layout.vibrationDeviceInfo, Layout.fusionParameters, Layout.palmaHandle,
      Layout.npadModeChange, Layout.idAruid, Layout.signedAruid, Layout.handleAruid,
      Layout.fusionEnable, Layout.unalteredPassthrough, Layout.fusionParametersAruid,
      Layout.driftModeAruid, Layout.idAruidWord, Layout.aruidWord, Layout.twoIdsAruid,
      Layout.flagIdAruid, Layout.flagAruid, Layout.captureButton, Layout.vibrationValueAruid,
      Layout.gcErmAruid, Layout.handleAruidFlag, Layout.consoleSixAxisAruid,
      Layout.sevenSixAxisBuffers, Layout.touchScreenMode, Layout.touchScreenResolution,
      Layout.palmaHandleWord, Layout.palmaStep, Layout.palmaDatabaseVersion, Layout.palmaWaveEntry,
      Shape.record, Record.empty, Record.aruid, Record.word32, Record.word64, Record.signed64,
      Record.flagWord, Record.npadId, Record.deviceHandle, Record.vibrationValue,
      Record.vibrationDeviceInfo, Record.fusionParameters, Record.palmaHandle,
      Record.npadModeChange, Record.idAruid, Record.signedAruid, Record.handleAruid,
      Record.fusionEnable, Record.unalteredPassthrough, Record.fusionParametersAruid,
      Record.driftModeAruid, Record.idAruidWord, Record.aruidWord, Record.twoIdsAruid,
      Record.flagIdAruid, Record.flagAruid, Record.captureButton, Record.vibrationValueAruid,
      Record.gcErmAruid, Record.handleAruidFlag, Record.consoleSixAxisAruid,
      Record.sevenSixAxisBuffers, Record.touchScreenMode, Record.touchScreenResolution,
      Record.palmaHandleWord, Record.palmaStep, Record.palmaDatabaseVersion, Record.palmaWaveEntry,
      Record.layout, Values.read, Values.write, gap, Field.read_pad, Field.write_pad, bind_assoc,
      ok_bind, bind_ok, pure_eq_ok, map_eq_bind, Prod.mk.eta] <;>
    rfl

/-! ### What the records have in common -/

/-- The field has the same width for every value. -/
def Field.isFixed : Field → Bool
  | .bytes _ => false
  | .pad (.int count) => 0 ≤ count
  | .pad (.other _) => false
  | _ => true

theorem Field.admits_of_isFixed {f : Field} (fixed : f.isFixed) (v : f.Value) : f.Admits v := by
  cases f with
  | bytes count => cases fixed
  | pad count =>
      cases count with
      | int count => exact ⟨count.toNat, by rw [Int.toNat_of_nonneg (of_decide_eq_true fixed)]⟩
      | other count => cases fixed
  | unsigned | signed | flag | single => trivial

theorem Values.admits_of_isFixed {slots : List Slot} (fixed : slots.all (·.field.isFixed))
    (vs : Values slots) : Admits slots vs := by
  induction slots with
  | nil => trivial
  | cons slot slots ih =>
      obtain ⟨v, vs⟩ := vs
      obtain ⟨here, others⟩ := Bool.and_eq_true_iff.mp fixed
      exact ⟨Field.admits_of_isFixed here v, ih others vs⟩

theorem Regular.of_isFixed {slots : List Slot} (fixed : slots.all (·.field.isFixed)) :
    Regular slots := by
  intro slot found
  have here : slot.field.isFixed := List.all_eq_true.mp fixed slot found
  cases field : slot.field with
  | bytes count => rw [field] at here; cases here
  | pad count =>
      rw [field] at here
      exact Field.admits_of_isFixed here ()
  | unsigned | signed | flag | single => trivial

theorem Shape.isFixed (s : Shape) : s.record.slots.all (·.field.isFixed) := by
  cases s <;> rfl

theorem Shape.size_lt (s : Shape) : totalWidth s.record.slots < Number.twoTo 40 := by
  cases s <;> decide

/-- A value is split into the values that it was made of. -/
theorem Shape.split_make (s : Shape) (vs : Values s.record.slots) :
    s.record.split (s.record.make vs) = vs := by
  cases s <;> rfl

/-! ### Decoding and encoding -/

namespace Record

variable {α : Type} {r : Record α}

theorem decode_eq (regular : Regular r.slots) {block : Bytes}
    (whole : block.length = totalWidth r.slots) :
    r.layout.decode block = .ok (r.make (Values.ofBytes r.slots block)) := by
  have found := Values.read_between regular [] block whole.ge
  have position : (Reader.between ([] ++ block.take (totalWidth r.slots))
      (block.drop (totalWidth r.slots))).position = (totalWidth r.slots : Quantity) := by
    rw [List.nil_append, ← whole, List.take_length]
    rfl
  rw [Layout.decode_of_length_eq _ whole]
  simp only [layout, Reader.ofBlock_eq, found, Except.map]
  exact if_pos position

theorem encode_eq (small : totalWidth r.slots < Number.twoTo 40) {v : α}
    (admits : Values.Admits r.slots (r.split v)) :
    r.layout.encode v = .ok (Values.image r.slots (r.split v)) := by
  obtain ⟨w, written, finished⟩ := Values.produce_exact admits
  change (Writer.declare (totalWidth r.slots : Quantity) >>= fun w =>
    Values.write r.slots (r.split v) w >>= Writer.finish) = _
  rw [Writer.declare_of_lt _ small, ok_bind, written, ok_bind, finished]

end Record

/-- Each number lies within its width, each double is a single. -/
def Values.InRange : (slots : List Slot) → Values slots → Prop
  | [], () => True
  | slot :: slots, (v, vs) => slot.field.InRange v ∧ InRange slots vs

theorem Values.kept_of_inRange {slots : List Slot} {vs : Values slots}
    (inRange : InRange slots vs) : kept slots vs = vs := by
  induction slots with
  | nil => rfl
  | cons slot slots ih =>
      obtain ⟨v, vs⟩ := vs
      rw [kept, Field.kept_of_inRange inRange.1, ih inRange.2]

theorem Values.inRange_ofBytes {slots : List Slot} {block : Bytes}
    (enough : totalWidth slots ≤ block.length) : InRange slots (ofBytes slots block) := by
  induction slots generalizing block with
  | nil => trivial
  | cons slot slots ih =>
      obtain ⟨whole, left⟩ := totalWidth_cons_le enough
      exact ⟨Field.inRange_ofBytes slot.field whole, ih left⟩

namespace Shape

/-- A value whose fields are numbers within their widths and doubles that are singles. -/
def InRange (s : Shape) (v : s.Value) : Prop :=
  ∃ vs, Values.InRange s.record.slots vs ∧ v = s.record.make vs

/-- A block as it comes back when it is decoded and encoded again. -/
def tidy (s : Shape) (block : Bytes) : Bytes := Wire.tidy s.record.slots block

variable (s : Shape)

theorem size_layout : s.layout.size = totalWidth s.record.slots :=
  congrArg Layout.size s.layout_eq_record

theorem decode_eq {block : Bytes} (whole : block.length = s.layout.size) :
    s.layout.decode block = .ok (s.record.make (Values.ofBytes s.record.slots block)) := by
  rw [size_layout] at whole
  rw [layout_eq_record, Record.decode_eq (Regular.of_isFixed s.isFixed) whole]

theorem encode_eq (v : s.Value) :
    s.layout.encode v = .ok (Values.image s.record.slots (s.record.split v)) := by
  rw [layout_eq_record, Record.encode_eq s.size_lt (Values.admits_of_isFixed s.isFixed _)]

theorem length_image (vs : Values s.record.slots) :
    (Values.image s.record.slots vs).length = s.layout.size := by
  rw [size_layout, Values.length_image (Values.admits_of_isFixed s.isFixed vs)]

theorem length_tidy {block : Bytes} (whole : block.length = s.layout.size) :
    (s.tidy block).length = s.layout.size := by
  rw [size_layout] at whole ⊢
  exact Wire.length_tidy whole.ge

/-- What a block is decoded to is encoded as the block tidied. -/
theorem encode_decode {block : Bytes} (whole : block.length = s.layout.size) :
    (s.layout.encode (s.record.make (Values.ofBytes s.record.slots block))) =
      .ok (s.tidy block) := by
  rw [size_layout] at whole
  rw [encode_eq, split_make, Values.image_ofBytes whole.ge, tidy]

/-- What a value in range is encoded as is decoded to it. -/
theorem decode_encode {v : s.Value} (inRange : s.InRange v) :
    s.layout.decode (Values.image s.record.slots (s.record.split v)) = .ok v := by
  obtain ⟨vs, within, rfl⟩ := inRange
  have admits := Values.admits_of_isFixed s.isFixed vs
  rw [split_make, decode_eq s (s.length_image vs), Values.ofBytes_image admits,
    Values.kept_of_inRange within]

/-- **Reading and writing agree, for every layout of the catalogue.**

* A block of the layout's size is decoded; what it is decoded to is encoded as the same block
  with its padding zeroed, its flags zero or one and its NaNs canonical, and doing that again
  changes nothing.
* A block of any other length is a violation that names both lengths.
* Every value is encoded, into a block of the layout's size, whatever its numbers are.
* A value in range is decoded from the block that it is encoded into. -/
theorem layout_agrees :
    (∀ block, block.length = s.layout.size →
      ∃ v, s.layout.decode block = .ok v ∧ s.layout.encode v = .ok (s.tidy block) ∧
      ∃ v', s.layout.decode (s.tidy block) = .ok v' ∧ s.layout.encode v' = .ok (s.tidy block)) ∧
    (∀ block, block.length ≠ s.layout.size →
      s.layout.decode block =
        .error (.violation (.make s.layout.name .parameterSize s.layout.size block.length))) ∧
    (∀ v, ∃ block, s.layout.encode v = .ok block ∧ block.length = s.layout.size) ∧
    (∀ v, s.InRange v →
      ∃ block, s.layout.encode v = .ok block ∧ s.layout.decode block = .ok v) := by
  refine ⟨?_, fun block => s.layout.decode_of_length_ne, ?_, ?_⟩
  · intro block whole
    have again := s.encode_decode (s.length_tidy whole)
    have settled : s.tidy (s.tidy block) = s.tidy block :=
      tidy_tidy (by rw [whole, size_layout])
    rw [settled] at again
    exact ⟨_, s.decode_eq whole, s.encode_decode whole, _, s.decode_eq (s.length_tidy whole), again⟩
  · intro v
    exact ⟨_, s.encode_eq v, s.length_image _⟩
  · intro v inRange
    exact ⟨_, s.encode_eq v, s.decode_encode inRange⟩

/-- A handle packed right behind a flag, with noise in the flag and in the padding: the noise is
gone when the block comes back, and the handle has stayed where it was. -/
theorem layout_agrees_passthrough :
    (∃ v, unalteredPassthrough.layout.decode [2, 3, 4, 5, 6, 7, 8, 9, 1, 0, 0, 0, 0, 0, 0, 0] =
        .ok v ∧
      unalteredPassthrough.layout.encode v =
        .ok [1, 3, 4, 5, 0, 0, 0, 0, 1, 0, 0, 0, 0, 0, 0, 0]) ∧
    unalteredPassthrough.InRange ⟨true, ⟨3, 4, 5⟩, 1⟩ ∧
    ∃ block, unalteredPassthrough.layout.encode ⟨true, ⟨3, 4, 5⟩, 1⟩ = .ok block ∧
      unalteredPassthrough.layout.decode block = .ok ⟨true, ⟨3, 4, 5⟩, 1⟩ := by
  obtain ⟨reads, -, -, returns⟩ := layout_agrees unalteredPassthrough
  have byte (n : Int) (low : 0 ≤ n) (high : n < 256) : Field.u8.InRange n := ⟨low, high⟩
  have inRange : unalteredPassthrough.InRange ⟨true, ⟨3, 4, 5⟩, 1⟩ := by
    refine ⟨(true, (3 : Int), (4 : Int), (5 : Int), (), (), (1 : Int), ()), ?_, rfl⟩
    exact ⟨trivial, byte 3 (by decide) (by decide), byte 4 (by decide) (by decide),
      byte 5 (by decide) (by decide), trivial, trivial, ⟨by decide, by decide⟩, trivial⟩
  refine ⟨?_, inRange, returns _ inRange⟩
  obtain ⟨v, decoded, encoded, -⟩ := reads [2, 3, 4, 5, 6, 7, 8, 9, 1, 0, 0, 0, 0, 0, 0, 0] rfl
  have tidied : unalteredPassthrough.tidy [2, 3, 4, 5, 6, 7, 8, 9, 1, 0, 0, 0, 0, 0, 0, 0] =
      [1, 3, 4, 5, 0, 0, 0, 0, 1, 0, 0, 0, 0, 0, 0, 0] := by decide
  exact ⟨v, decoded, encoded.trans (congrArg Except.ok tidied)⟩

end Shape
end Hid.Wire
