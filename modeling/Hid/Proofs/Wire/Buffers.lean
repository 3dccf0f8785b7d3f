import Hid.Proofs.Wire.Faithful

/-!
Buffers: runs of blocks of one layout, each read on its own. A buffer is read if every element is,
and what is read of an element is told by its bytes alone (`Layout.decodeAll_eq_ok_iff`,
`Layout.decodeAll_eq_error_iff`): a layout that reaches behind the end of an element fails there,
whatever bytes follow (`Layout.Overruns`). Buffers of values lie one behind the other like the
values themselves (`Layout.encodeAll_append`, `Layout.decodeAll_append`).

* `Layout.buffers_exact`: a layout that keeps to its size accepts exactly the buffers of whole
  elements, gives back what it was given, and takes lists to runs of bytes and back.
-/

namespace Hid.Wire

/-! ### Steps that can fail, made for all of a list -/

section Steps

variable {α β ε : Type} {f : α → Except ε β} {xs : List α}

theorem mapM_eq_ok_iff {ys : List β} :
    xs.mapM f = .ok ys ↔ List.Forall₂ (fun x y => f x = .ok y) xs ys := by
  induction xs generalizing ys with
  | nil =>
      rw [List.mapM_nil, pure_eq_ok, List.forall₂_nil_left_iff, Except.ok.injEq, eq_comm]
  | cons x xs ih =>
      rw [List.mapM_cons, List.forall₂_cons_left_iff]
      constructor
      · intro done
        cases first : f x with
        | error e =>
            rw [first] at done
            cases done
        | ok y =>
            rw [first, ok_bind] at done
            cases rest : xs.mapM f with
            | error e =>
                rw [rest] at done
                cases done
            | ok ys' =>
                rw [rest] at done
                exact ⟨y, ys', rfl, ih.mp rest, (Except.ok.inj done).symm⟩
      · rintro ⟨y, ys', first, rest, rfl⟩
        rw [first, ok_bind, ih.mpr rest]
        rfl

/-- If not all are done, one step is the first to fail. -/
theorem mapM_eq_error_iff {e : ε} :
    xs.mapM f = .error e ↔ ∃ (i : Nat) (x : α), xs[i]? = some x ∧ f x = .error e ∧
      ∀ j < i, ∀ x', xs[j]? = some x' → ∃ y, f x' = .ok y := by
  induction xs with
  | nil =>
      rw [List.mapM_nil]
      constructor
      · intro failed
        cases failed
      · rintro ⟨i, x, found, -⟩
        cases found
  | cons x xs ih =>
      rw [List.mapM_cons]
      cases first : f x with
      | error e' =>
          constructor
          · intro failed
            obtain rfl := Except.error.inj failed
            exact ⟨0, x, rfl, first, fun j before => absurd before (Nat.not_lt_zero j)⟩
          · rintro ⟨i, x', found, failed, done⟩
            cases i with
            | zero =>
                obtain rfl := Option.some.inj found
                rw [Except.error.inj (first.symm.trans failed)]
                rfl
            | succ i =>
                obtain ⟨y, ok⟩ := done 0 (Nat.succ_pos i) x rfl
                cases first.symm.trans ok
      | ok y =>
          have later : (Except.ok y >>= fun y => xs.mapM f >>= fun ys => pure (y :: ys)) =
              .error e ↔ xs.mapM f = .error e := by
            rw [ok_bind]
            cases xs.mapM f with
            | error e' => exact Iff.rfl
            | ok ys => constructor <;> intro failed <;> cases failed
          rw [later, ih]
          constructor
          · rintro ⟨i, x', found, failed, done⟩
            refine ⟨i + 1, x', found, failed, fun j before => ?_⟩
            cases j with
            | zero =>
                intro x'' found
                obtain rfl := Option.some.inj found
                exact ⟨y, first⟩
            | succ j => exact done j (Nat.lt_of_succ_lt_succ before)
          · rintro ⟨i, x', found, failed, done⟩
            cases i with
            | zero =>
                obtain rfl := Option.some.inj found
                cases first.symm.trans failed
            | succ i =>
                exact ⟨i, x', found, failed, fun j before => done (j + 1) (Nat.succ_lt_succ before)⟩

end Steps

namespace Layout

variable {α : Type} {l : Layout α} {WellFormed : α → Prop} {buffer block : Bytes}

/-! ### Elements -/

/-- The bytes of the element with a number. -/
def element (l : Layout α) (buffer : Bytes) (i : Nat) : Bytes :=
  (buffer.drop (i * l.size)).take l.size

/-- Reads one element, which need not be used up. -/
def readElement (l : Layout α) (block : Bytes) : Except Refusal α :=
  match l.read (.ofBlock block) with
  | .error fault => .error (.fault fault)
  | .ok (v, _) => .ok v

section Strides

variable {stride : Nat}

theorem strides_eq_map (stride count : Nat) (buffer : Bytes) :
    strides stride count buffer =
      (List.range count).map fun i => (buffer.drop (i * stride)).take stride := by
  induction count generalizing buffer with
  | zero => rfl
  | succ count ih =>
      have later : (fun i => ((buffer.drop stride).drop (i * stride)).take stride) =
          fun i => (buffer.drop ((i + 1) * stride)).take stride := by
        funext i
        rw [List.drop_drop, Nat.succ_mul, Nat.add_comm]
      rw [strides, ih, List.range_succ_eq_map, List.map_cons, List.map_map, Nat.zero_mul,
        List.drop_zero, later]
      rfl

/-- Blocks of one length, put one behind the other, are the strides of what they make up. -/
theorem strides_flatten {blocks : List Bytes} (sized : ∀ block ∈ blocks, block.length = stride) :
    strides stride blocks.length blocks.flatten = blocks := by
  induction blocks with
  | nil => rfl
  | cons block blocks ih =>
      obtain ⟨whole, others⟩ := List.forall_mem_cons.mp sized
      rw [List.length_cons, List.flatten_cons, strides, List.take_left' whole,
        List.drop_left' whole, ih others]

theorem flatten_strides {count : Nat} (whole : buffer.length = count * stride) :
    (strides stride count buffer).flatten = buffer := by
  induction count generalizing buffer with
  | zero =>
      rw [Nat.zero_mul] at whole
      exact (List.length_eq_zero_iff.mp whole).symm
  | succ count ih =>
      rw [Nat.succ_mul] at whole
      have rest : (buffer.drop stride).length = count * stride := by rw [List.length_drop]; omega
      rw [strides, List.flatten_cons, ih rest, List.take_append_drop]

theorem length_of_mem_strides {count : Nat} (whole : buffer.length = count * stride) :
    ∀ block ∈ strides stride count buffer, block.length = stride := by
  induction count generalizing buffer with
  | zero => exact fun block found => absurd found List.not_mem_nil
  | succ count ih =>
      rw [Nat.succ_mul] at whole
      have rest : (buffer.drop stride).length = count * stride := by rw [List.length_drop]; omega
      exact List.forall_mem_cons.mpr ⟨List.length_take_of_le (by omega), ih rest⟩

theorem length_flatten {blocks : List Bytes} (sized : ∀ block ∈ blocks, block.length = stride) :
    blocks.flatten.length = blocks.length * stride := by
  rw [List.length_flatten, List.map_congr_left sized, List.map_const', List.sum_replicate_nat]

end Strides

theorem length_strides (stride count : Nat) (buffer : Bytes) :
    (strides stride count buffer).length = count := by
  rw [strides_eq_map, List.length_map, List.length_range]

theorem getElem?_strides {count i : Nat} (inside : i < count) :
    (strides l.size count buffer)[i]? = some (l.element buffer i) := by
  rw [strides_eq_map, List.getElem?_map, List.getElem?_range inside]
  rfl

theorem length_element {i : Nat} (whole : buffer.length % l.size = 0)
    (inside : i < buffer.length / l.size) : (l.element buffer i).length = l.size := by
  have count : buffer.length = buffer.length / l.size * l.size :=
    (Nat.div_mul_cancel (Nat.dvd_of_mod_eq_zero whole)).symm
  exact length_of_mem_strides count _ (List.mem_of_getElem? (getElem?_strides inside))

/-- The elements of two buffers of whole elements are those of the buffers put together. -/
theorem strides_append {stride m n : Nat} {first second : Bytes}
    (whole : first.length = m * stride) (whole' : second.length = n * stride) :
    strides stride (m + n) (first ++ second) =
      strides stride m first ++ strides stride n second := by
  have sized : ∀ block ∈ strides stride m first ++ strides stride n second,
      block.length = stride :=
    List.forall_mem_append.mpr ⟨length_of_mem_strides whole, length_of_mem_strides whole'⟩
  have together := strides_flatten sized
  rwa [List.length_append, length_strides, length_strides, List.flatten_append,
    flatten_strides whole, flatten_strides whole'] at together

/-! ### Reading buffers -/

section Reading

variable {vs : List α}

theorem decodeAll_of_ragged (stride : 0 < l.size) (ragged : buffer.length % l.size ≠ 0) :
    l.decodeAll buffer = .error (.violation (.make l.name .bufferStride l.size buffer.length
      ("buffer of " ++ toString buffer.length ++ " bytes is not a multiple of the " ++
        (l.size : Quantity).text ++ "-byte stride"))) := by
  rw [decodeAll, if_neg stride.ne', if_pos ragged]

theorem decodeAll_of_whole (stride : 0 < l.size) (whole : buffer.length % l.size = 0) :
    l.decodeAll buffer =
      (strides l.size (buffer.length / l.size) buffer).mapM l.readElement := by
  rw [decodeAll, if_neg stride.ne', if_neg (not_not_intro whole)]
  rfl

theorem readElement_eq_ok_iff {v : α} :
    l.readElement block = .ok v ↔ ∃ r, l.read (.ofBlock block) = .ok (v, r) := by
  rw [readElement]
  cases l.read (.ofBlock block) with
  | error fault => simp
  | ok found => simp [Prod.ext_iff, eq_comm]

theorem readElement_eq_error_iff {refusal : Refusal} :
    l.readElement block = .error refusal ↔
      ∃ fault, refusal = .fault fault ∧ l.read (.ofBlock block) = .error fault := by
  rw [readElement]
  cases l.read (.ofBlock block) with
  | error fault => simp [eq_comm]
  | ok found => simp

/-- The values of a buffer are those of its elements, each read on its own. -/
theorem decodeAll_eq_ok_iff (stride : 0 < l.size) :
    l.decodeAll buffer = .ok vs ↔ buffer.length = vs.length * l.size ∧
      ∀ i v, vs[i]? = some v → ∃ r, l.read (.ofBlock (l.element buffer i)) = .ok (v, r) := by
  by_cases whole : buffer.length % l.size = 0
  case neg =>
    rw [decodeAll_of_ragged stride whole]
    constructor
    · intro decoded
      cases decoded
    · rintro ⟨length, -⟩
      exact absurd (by rw [length, Nat.mul_mod_left]) whole
  case pos =>
    have count : buffer.length / l.size = vs.length ↔ buffer.length = vs.length * l.size := by
      rw [Nat.div_eq_iff_eq_mul_left stride (Nat.dvd_of_mod_eq_zero whole)]
    rw [decodeAll_of_whole stride whole, mapM_eq_ok_iff, List.forall₂_iff_get]
    constructor
    · rintro ⟨length, read⟩
      rw [length_strides] at length
      refine ⟨count.mp length, fun i v found => ?_⟩
      obtain ⟨known, rfl⟩ := List.getElem?_eq_some_iff.mp found
      have there : (strides l.size _ buffer)[i]? = some (l.element buffer i) :=
        getElem?_strides (known.trans_eq length.symm)
      obtain ⟨ahead, here⟩ := List.getElem?_eq_some_iff.mp there
      rw [← here]
      exact readElement_eq_ok_iff.mp (read i ahead known)
    · rintro ⟨length, read⟩
      refine ⟨(length_strides ..).trans (count.mpr length), fun i ahead known => ?_⟩
      have there : (strides l.size _ buffer)[i]? = some (l.element buffer i) :=
        getElem?_strides (known.trans_eq (count.mpr length).symm)
      obtain ⟨_, here⟩ := List.getElem?_eq_some_iff.mp there
      rw [List.get_eq_getElem, here]
      exact readElement_eq_ok_iff.mpr (read i _ (List.getElem?_eq_getElem known))

/-- A buffer of whole elements that is not read has an element that cannot be, and fails as the
first of these does. -/
theorem decodeAll_eq_error_iff (stride : 0 < l.size) (whole : buffer.length % l.size = 0)
    {refusal : Refusal} :
    l.decodeAll buffer = .error refusal ↔ ∃ i < buffer.length / l.size,
      (∃ fault, refusal = .fault fault ∧
        l.read (.ofBlock (l.element buffer i)) = .error fault) ∧
      ∀ j < i, ∃ v r, l.read (.ofBlock (l.element buffer j)) = .ok (v, r) := by
  have there {i : Nat} {block : Bytes} :
      (strides l.size (buffer.length / l.size) buffer)[i]? = some block ↔
        i < buffer.length / l.size ∧ block = l.element buffer i := by
    constructor
    · intro found
      obtain ⟨inside, -⟩ := List.getElem?_eq_some_iff.mp found
      rw [length_strides] at inside
      exact ⟨inside, Option.some.inj (found.symm.trans (getElem?_strides inside))⟩
    · rintro ⟨inside, rfl⟩
      exact getElem?_strides inside
  rw [decodeAll_of_whole stride whole, mapM_eq_error_iff]
  constructor
  · rintro ⟨i, block, found, failed, done⟩
    obtain ⟨inside, rfl⟩ := there.mp found
    refine ⟨i, inside, readElement_eq_error_iff.mp failed, fun j before => ?_⟩
    obtain ⟨v, read⟩ := done j before _ (getElem?_strides (before.trans inside))
    exact ⟨v, readElement_eq_ok_iff.mp read⟩
  · rintro ⟨i, inside, failed, done⟩
    refine ⟨i, _, getElem?_strides inside, readElement_eq_error_iff.mpr failed, ?_⟩
    intro j before block found
    obtain ⟨-, rfl⟩ := there.mp found
    obtain ⟨v, read⟩ := done j before
    exact ⟨v, readElement_eq_ok_iff.mpr read⟩

/-- What two buffers are read as is put together as they are. -/
theorem decodeAll_append (stride : 0 < l.size) {first second : Bytes} {vs vs' : List α}
    (decoded : l.decodeAll first = .ok vs) (decoded' : l.decodeAll second = .ok vs') :
    l.decodeAll (first ++ second) = .ok (vs ++ vs') := by
  obtain ⟨length, -⟩ := (decodeAll_eq_ok_iff stride).mp decoded
  obtain ⟨length', -⟩ := (decodeAll_eq_ok_iff stride).mp decoded'
  have count {n : Nat} (b : Bytes) (length : b.length = n * l.size) :
      b.length % l.size = 0 ∧ b.length / l.size = n := by
    rw [length, Nat.mul_mod_left, Nat.mul_div_cancel _ stride]
    exact ⟨rfl, rfl⟩
  have together : (first ++ second).length = (vs.length + vs'.length) * l.size := by
    rw [List.length_append, length, length', Nat.add_mul]
  rw [decodeAll_of_whole stride (count first length).1, (count first length).2] at decoded
  rw [decodeAll_of_whole stride (count second length').1, (count second length').2] at decoded'
  rw [decodeAll_of_whole stride (count _ together).1, (count _ together).2,
    strides_append length length', List.mapM_append, decoded, ok_bind, decoded']
  rfl

end Reading
/-! ### Layouts that reach behind an element -/

/-- At some point of its reading of an element the layout asks for more bytes than are left of it.
What it does up to there and from there on is its own affair, and may hang on what it has read. -/
inductive Overruns (l : Layout α) (block : Bytes) : Prop where
  | intro {β : Type} {so_far : Reader → Except Fault (β × Reader)} {slots : β → List Slot}
      {next : (x : β) → Values (slots x) × Reader → Except Fault (α × Reader)}
      (steps : ∀ r, l.read r = do
        let (x, r) ← so_far r
        next x (← Values.read (slots x) r))
      {x : β} {behind ahead : Bytes} (element : block = behind ++ ahead)
      (come : so_far (.ofBlock block) = .ok (x, .between behind ahead))
      (regular : Regular (slots x)) (short : ahead.length < totalWidth (slots x))

theorem Overruns.fails (overruns : l.Overruns block) :
    ∃ fault, l.read (.ofBlock block) = .error fault ∧ fault.isOutOfRange := by
  cases overruns with
  | intro steps element come regular short =>
      obtain ⟨fault, failed, range⟩ := Values.read_short regular _ _ short
      refine ⟨fault, ?_, range⟩
      rw [steps, come, ok_bind]
      dsimp only
      rw [failed]
      rfl

/-- The fields of a record read at less than their width reach behind every element. -/
theorem overruns_of_short (r : Record α) (regular : Regular r.slots) (name : String) {size : Nat}
    (short : block.length < totalWidth r.slots) :
    { r.layout with name := name, size := size }.Overruns block :=
  @Overruns.intro α _ block Unit (fun reader => .ok ((), reader)) (fun () => r.slots)
    (fun _ found => .ok (r.make found.1, found.2)) (fun _ => rfl) () [] block
    (List.nil_append block).symm rfl regular short

/-! ### Writing buffers -/

section Writing

variable {vs xs ys : List α}

theorem declare_of_le {size : Nat} (large : Number.twoTo 40 ≤ size) :
    ∃ fault, Writer.declare (size : Quantity) = .error fault ∧ fault.isOutOfRange := by
  rw [Writer.declare, offset?_natCast]
  by_cases huge : Number.twoTo 53 ≤ size
  · exact ⟨_, if_pos huge, rfl⟩
  · exact ⟨_, (if_neg huge).trans (if_pos large), rfl⟩

theorem encodeAll_of_large (large : Number.twoTo 40 ≤ l.size * vs.length) :
    ∃ fault, l.encodeAll vs = .error fault ∧ fault.isOutOfRange := by
  obtain ⟨fault, failed, range⟩ := declare_of_le large
  refine ⟨fault, ?_, range⟩
  rw [encodeAll, failed]
  rfl

theorem encodeAll_of_room (room : l.size * vs.length < Number.twoTo 40) :
    l.encodeAll vs = (vs.mapM l.encode).map List.flatten := by
  rw [encodeAll, Writer.declare_of_lt _ room, map_eq_bind]
  rfl

/-- Lists put together are encoded as what each is encoded as. -/
theorem encodeAll_append (room : l.size * (xs ++ ys).length < Number.twoTo 40) :
    l.encodeAll (xs ++ ys) = do return (← l.encodeAll xs) ++ (← l.encodeAll ys) := by
  have fewer {zs : List α} (le : zs.length ≤ (xs ++ ys).length) :
      l.size * zs.length < Number.twoTo 40 :=
    (Nat.mul_le_mul_left l.size le).trans_lt room
  rw [List.length_append] at fewer
  rw [encodeAll_of_room room, encodeAll_of_room (fewer (Nat.le_add_right ..)),
    encodeAll_of_room (fewer (Nat.le_add_left ..)), List.mapM_append]
  cases xs.mapM l.encode with
  | error fault => rfl
  | ok blocks =>
      cases ys.mapM l.encode with
      | error fault => rfl
      | ok blocks' => exact congrArg Except.ok List.flatten_append

end Writing

namespace Faithful

variable {vs : List α}

/-- An element of the size is read as it is decoded on its own. -/
theorem decode_eq_readElement (faithful : l.Faithful WellFormed)
    (whole : block.length = l.size) : l.decode block = l.readElement block := by
  obtain ⟨v, r, found, all, -⟩ := faithful.reads block whole
  rw [decode_of_read whole found all, readElement, found]

theorem isOk_decodeAll (faithful : l.Faithful WellFormed) (stride : 0 < l.size)
    (whole : buffer.length % l.size = 0) : ∃ vs, l.decodeAll buffer = .ok vs := by
  cases decoded : l.decodeAll buffer with
  | ok vs => exact ⟨vs, rfl⟩
  | error refusal =>
      obtain ⟨i, inside, ⟨fault, -, failed⟩, -⟩ :=
        (decodeAll_eq_error_iff stride whole).mp decoded
      obtain ⟨v, r, found, -⟩ := faithful.reads _ (length_element whole inside)
      cases failed.symm.trans found

/-- The blocks of well-formed values, one for each. -/
theorem exists_blocks (faithful : l.Faithful WellFormed) (formed : ∀ v ∈ vs, WellFormed v) :
    ∃ blocks : List Bytes, (∀ block ∈ blocks, block.length = l.size) ∧
      List.Forall₂ (fun v block => l.encode v = .ok block ∧ l.readElement block = .ok v)
        vs blocks := by
  induction vs with
  | nil => exact ⟨[], fun block found => absurd found List.not_mem_nil, .nil⟩
  | cons v vs ih =>
      obtain ⟨here, others⟩ := List.forall_mem_cons.mp formed
      obtain ⟨block, encoded, whole, decoded⟩ := faithful.encode_ok here
      obtain ⟨blocks, sized, rest⟩ := ih others
      rw [faithful.decode_eq_readElement whole] at decoded
      exact ⟨block :: blocks, List.forall_mem_cons.mpr ⟨whole, sized⟩,
        .cons ⟨encoded, decoded⟩ rest⟩

/-- Well-formed values are encoded, and the buffer that they are encoded as is decoded to them. -/
theorem encodeAll_ok (faithful : l.Faithful WellFormed) (stride : 0 < l.size)
    (formed : ∀ v ∈ vs, WellFormed v) (room : l.size * vs.length < Number.twoTo 40) :
    ∃ buffer, l.encodeAll vs = .ok buffer ∧ buffer.length = vs.length * l.size ∧
      l.decodeAll buffer = .ok vs := by
  obtain ⟨blocks, sized, each⟩ := faithful.exists_blocks formed
  have encoded : vs.mapM l.encode = .ok blocks := mapM_eq_ok_iff.mpr (each.imp fun _ _ => (·.1))
  have decoded : blocks.mapM l.readElement = .ok vs :=
    mapM_eq_ok_iff.mpr (each.imp fun _ _ => (·.2)).flip
  have length : blocks.flatten.length = vs.length * l.size := by
    rw [length_flatten sized, each.length_eq]
  refine ⟨blocks.flatten, ?_, length, ?_⟩
  · rw [encodeAll_of_room room, encoded]
    rfl
  · have whole : blocks.flatten.length % l.size = 0 := by rw [length, Nat.mul_mod_left]
    rw [decodeAll_of_whole stride whole, length, Nat.mul_div_cancel _ stride, each.length_eq,
      strides_flatten sized, decoded]

end Faithful

/-- **Buffers, element by element.** For a layout of elements with at least one byte:

If it reads and writes exactly its size and well-formed values come back,

* it accepts exactly the buffers of whole elements, and any other is a violation that names the
  stride and the length;
* there are as many values as elements, and each is what its own bytes are decoded to;
* well-formed values are encoded as that many blocks of the size, which are decoded to them (more
  than there is room for are not encoded), and lists put together as what they are encoded as;
* buffers put together are decoded to their values put together.

And whatever the layout does,

* two buffers that have an element in common have its value in common;
* reading past the end of an element fails, out of range, and the buffer with it, whatever bytes
  follow. -/
theorem buffers_exact (l : Layout α) (stride : 0 < l.size) :
    (∀ WellFormed, l.Faithful WellFormed →
      (∀ buffer, (∃ vs, l.decodeAll buffer = .ok vs) ↔ buffer.length % l.size = 0) ∧
      (∀ buffer, buffer.length % l.size ≠ 0 → ∃ v, l.decodeAll buffer = .error (.violation v) ∧
        v.reason = .bufferStride ∧ v.expected = l.size ∧ v.actual = buffer.length) ∧
      (∀ buffer vs, l.decodeAll buffer = .ok vs → vs.length = buffer.length / l.size ∧
        ∀ i v, vs[i]? = some v → l.decode ((buffer.drop (i * l.size)).take l.size) = .ok v) ∧
      (∀ vs, (∀ v ∈ vs, WellFormed v) →
        if l.size * vs.length < Number.twoTo 40 then
          ∃ buffer, l.encodeAll vs = .ok buffer ∧ buffer.length = vs.length * l.size ∧
            l.decodeAll buffer = .ok vs
        else ∃ fault, l.encodeAll vs = .error fault ∧ fault.isOutOfRange) ∧
      (∀ xs ys, (∀ v ∈ xs ++ ys, WellFormed v) → l.size * (xs ++ ys).length < Number.twoTo 40 →
        ∃ first second, l.encodeAll xs = .ok first ∧ l.encodeAll ys = .ok second ∧
          l.encodeAll (xs ++ ys) = .ok (first ++ second)) ∧
      (∀ first second vs vs', l.decodeAll first = .ok vs → l.decodeAll second = .ok vs' →
        l.decodeAll (first ++ second) = .ok (vs ++ vs'))) ∧
    (∀ buffer buffer' vs vs' i v v', l.decodeAll buffer = .ok vs → l.decodeAll buffer' = .ok vs' →
      l.element buffer i = l.element buffer' i → vs[i]? = some v → vs'[i]? = some v' → v = v') ∧
    (∀ buffer i, buffer.length % l.size = 0 → i < buffer.length / l.size →
      l.Overruns (l.element buffer i) →
      (∀ vs, l.decodeAll buffer ≠ .ok vs) ∧
      ((∀ j < i, ∃ v r, l.read (.ofBlock (l.element buffer j)) = .ok (v, r)) →
        ∃ fault, l.decodeAll buffer = .error (.fault fault) ∧ fault.isOutOfRange)) := by
  refine ⟨fun WellFormed faithful => ⟨?accepted, ?refused, ?values, ?returned, ?written, ?read⟩,
    ?shared, ?past⟩
  case accepted =>
    intro buffer
    constructor
    · rintro ⟨vs, decoded⟩
      rw [((decodeAll_eq_ok_iff stride).mp decoded).1, Nat.mul_mod_left]
    · exact faithful.isOk_decodeAll stride
  case refused =>
    intro buffer ragged
    exact ⟨_, decodeAll_of_ragged stride ragged, rfl, rfl, rfl⟩
  case values =>
    intro buffer vs decoded
    obtain ⟨length, read⟩ := (decodeAll_eq_ok_iff stride).mp decoded
    have count : vs.length = buffer.length / l.size := by
      rw [length, Nat.mul_div_cancel _ stride]
    refine ⟨count, fun i v found => ?_⟩
    obtain ⟨inside, -⟩ := List.getElem?_eq_some_iff.mp found
    have whole : (l.element buffer i).length = l.size :=
      length_element (by rw [length, Nat.mul_mod_left]) (inside.trans_eq count)
    rw [← element, faithful.decode_eq_readElement whole]
    exact readElement_eq_ok_iff.mpr (read i v found)
  case returned =>
    intro vs formed
    split
    case isTrue room => exact faithful.encodeAll_ok stride formed room
    case isFalse large => exact encodeAll_of_large (Nat.le_of_not_lt large)
  case written =>
    intro xs ys formed room
    obtain ⟨formed_xs, formed_ys⟩ := List.forall_mem_append.mp formed
    have fewer {zs : List α} (le : zs.length ≤ (xs ++ ys).length) :=
      (Nat.mul_le_mul_left l.size le).trans_lt room
    rw [List.length_append] at fewer
    obtain ⟨first, encoded, -⟩ :=
      faithful.encodeAll_ok stride formed_xs (fewer (Nat.le_add_right ..))
    obtain ⟨second, encoded', -⟩ :=
      faithful.encodeAll_ok stride formed_ys (fewer (Nat.le_add_left ..))
    refine ⟨first, second, encoded, encoded', ?_⟩
    rw [encodeAll_append room, encoded, encoded']
    rfl
  case read =>
    intro first second vs vs' decoded decoded'
    exact decodeAll_append stride decoded decoded'
  case shared =>
    intro buffer buffer' vs vs' i v v' decoded decoded' same found found'
    obtain ⟨r, here⟩ := ((decodeAll_eq_ok_iff stride).mp decoded).2 i v found
    obtain ⟨r', here'⟩ := ((decodeAll_eq_ok_iff stride).mp decoded').2 i v' found'
    rw [same] at here
    exact congrArg Prod.fst (Except.ok.inj (here.symm.trans here'))
  case past =>
    intro buffer i whole inside overruns
    obtain ⟨fault, failed, range⟩ := overruns.fails
    constructor
    · intro vs decoded
      obtain ⟨length, read⟩ := (decodeAll_eq_ok_iff stride).mp decoded
      rw [length, Nat.mul_div_cancel _ stride] at inside
      obtain ⟨r, found⟩ := read i _ (List.getElem?_eq_getElem inside)
      cases failed.symm.trans found
    · intro before
      have first : l.decodeAll buffer = .error (.fault fault) :=
        (decodeAll_eq_error_iff stride whole).mpr ⟨i, inside, ⟨fault, rfl, failed⟩, before⟩
      exact ⟨fault, first, range⟩

/-- Two handles there and back, six bytes that are no handles, and ids that are said to take two
bytes, of which the four that are there do not make one. -/
theorem buffers_exact_handles :
    0 < Shape.deviceHandle.layout.size ∧
    (∃ buffer, Shape.deviceHandle.layout.encodeAll [⟨3, 0, 0⟩, ⟨3, 1, 1⟩] = .ok buffer ∧
      buffer.length = 8 ∧
      Shape.deviceHandle.layout.decodeAll buffer = .ok [⟨3, 0, 0⟩, ⟨3, 1, 1⟩] ∧
      Shape.deviceHandle.layout.decodeAll (buffer ++ buffer) =
        .ok [⟨3, 0, 0⟩, ⟨3, 1, 1⟩, ⟨3, 0, 0⟩, ⟨3, 1, 1⟩]) ∧
    (∃ v, Shape.deviceHandle.layout.decodeAll [0, 0, 0, 0, 0, 0] = .error (.violation v) ∧
      v.reason = .bufferStride ∧ v.expected = (4 : Nat) ∧ v.actual = (6 : Nat)) ∧
    ∃ fault, decodeAll { Record.npadId.layout with name := "Narrow", size := 2 } [1, 0, 0, 0] =
      .error (.fault fault) ∧ fault.isOutOfRange := by
  have stride : 0 < Shape.deviceHandle.layout.size := by decide
  obtain ⟨-, refused, -, returned, -, read⟩ :=
    (buffers_exact _ stride).1 _ Shape.deviceHandle.faithful
  have handle (style id index : Int) (small : ∀ n ∈ [style, id, index], 0 ≤ n ∧ n < 256) :
      Shape.deviceHandle.record.WellFormed ⟨style, id, index⟩ := by
    obtain ⟨first, second, third, -⟩ : _ ∧ _ ∧ _ ∧ _ := by
      simpa only [List.forall_mem_cons] using small
    exact ⟨(style, id, index, (), ()), Values.admits_of_isFixed Shape.deviceHandle.isFixed _,
      ⟨first, second, third, trivial, trivial⟩, rfl⟩
  have formed : ∀ v ∈ [(⟨3, 0, 0⟩ : DeviceHandle), ⟨3, 1, 1⟩],
      Shape.deviceHandle.record.WellFormed v :=
    List.forall_mem_cons.mpr
      ⟨handle 3 0 0 (by decide), List.forall_mem_singleton.mpr (handle 3 1 1 (by decide))⟩
  have there := returned _ formed
  rw [if_pos (by decide)] at there
  obtain ⟨buffer, encoded, length, decoded⟩ := there
  have regular : Regular Record.npadId.slots := Regular.of_isFixed rfl
  have narrow := (buffers_exact { Record.npadId.layout with name := "Narrow", size := 2 }
    (by decide)).2.2 [1, 0, 0, 0] 0 rfl (by decide)
    (overruns_of_short Record.npadId regular "Narrow" (by decide))
  exact ⟨stride, ⟨buffer, encoded, length, decoded, read _ _ _ _ decoded decoded⟩,
    refused _ (by decide), narrow.2 fun j before => absurd before (Nat.not_lt_zero j)⟩

end Layout
end Hid.Wire
