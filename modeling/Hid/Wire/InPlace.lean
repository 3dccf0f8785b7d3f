import Hid.Wire.Field

/-!
Cursors that are changed in place. An operation is a row of steps: a check, an access to the
block, a move. Where one of them fails, the steps before it have been made all the same, and the
next operation finds the cursor as they have left it; so a cursor moves last.
-/

namespace Hid.Wire

/-- An operation on a cursor. If it fails, the cursor is what its steps up to there have made
of it. -/
abbrev InPlace (σ α : Type) := EStateM Fault σ α

/-- What an operation leaves of a cursor, whether it succeeds or fails. -/
def InPlace.after (op : InPlace σ α) (cursor : σ) : σ :=
  match op.run cursor with
  | .ok _ next => next
  | .error _ next => next

namespace Reader

/-- The bytes of a scalar at the position, all of which must lie in the block. -/
def fetch (width : Nat) : InPlace Reader Bytes := do
  let r ← get
  match r.position.offset? with
  | none => throw .outOfBounds
  | some start =>
      if start + width ≤ r.block.length then pure ((r.block.drop start).take width)
      else throw .outOfBounds

def pullScalar (width : Nat) : InPlace Reader Bytes := do
  let found ← fetch width
  modify (·.advance (width : Quantity))
  pure found

def pullBytes (count : Quantity) : InPlace Reader Bytes := do
  let r ← get
  if r.remaining < count then throw (.readOverrun count r.remaining)
  else
    let found := Bytes.between r.block r.position.truncate (onward r.position count).truncate
    modify (·.advance count)
    pure found

def pullGap (count : Quantity) : InPlace Reader Unit := do
  let r ← get
  if r.remaining < count then throw (.skipOverrun count r.remaining)
  else modify (·.advance count)

end Reader

namespace Writer

/-- Writes bytes at the position, all of which must lie in the block; else there is a fault. -/
def store (bytes : Bytes) (outside : Fault) : InPlace Writer Unit := do
  let w ← get
  match w.position.offset? with
  | none => throw outside
  | some start =>
      if start + bytes.length ≤ w.size then set (w.overwrite start bytes) else throw outside

def pushScalar (bytes : Bytes) : InPlace Writer Unit := do
  store bytes .outOfBounds
  modify (·.advance (bytes.length : Quantity))

def pushBytes (bytes : Bytes) : InPlace Writer Unit := do
  let w ← get
  if w.remaining < (bytes.length : Quantity) then throw (.writeOverrun bytes.length)
  else
    store bytes .misplaced
    modify (·.advance (bytes.length : Quantity))

def pushGap (count : Quantity) : InPlace Writer Unit := do
  let w ← get
  if w.remaining < count then throw (.paddingOverrun count)
  else modify (·.advance count)

/-- Takes the block, once the position has come to its end. -/
def close : InPlace Writer Bytes := do
  let w ← get
  if w.position = w.size then pure w.block else throw (.unfinished w.position w.size)

end Writer

namespace Field

/-- Reads the bytes of a field. Those of padding are passed over. -/
def fetch : Field → InPlace Reader Bytes
  | .bytes count => Reader.pullBytes count
  | .pad count => do
      Reader.pullGap count
      pure []
  | scalar => Reader.pullScalar scalar.width

/-- Reads a field. -/
def pull (f : Field) : InPlace Reader f.Value := do
  let found ← f.fetch
  pure (f.ofBytes found)

/-- Writes a field. -/
def push (f : Field) (v : f.Value) : InPlace Writer Unit :=
  let block := f.toBytes v
  match f with
  | .bytes _ => Writer.pushBytes block
  | .pad count => Writer.pushGap count
  | _ => Writer.pushScalar block

end Field

/-- An operation of a writer. -/
inductive Writing where
  | field (f : Field) (v : f.Value)
  | close

/-- What is done, without what comes of it. -/
def Writing.perform : Writing → InPlace Writer Unit
  | .field f v => f.push v
  | .close => do
      let _ ← Writer.close
      pure ()

/-- The reader after reads of some fields, each tried whatever came of those before it. -/
def Reader.after (r : Reader) (fields : List Field) : Reader :=
  fields.foldl (fun r f => f.pull.after r) r

theorem Reader.after_cons (r : Reader) (f : Field) (later : List Field) :
    r.after (f :: later) = (f.pull.after r).after later := rfl

/-- The writer after some operations, each tried whatever came of those before it. -/
def Writer.after (w : Writer) (writings : List Writing) : Writer :=
  writings.foldl (fun w op => op.perform.after w) w

theorem Writer.after_cons (w : Writer) (op : Writing) (later : List Writing) :
    w.after (op :: later) = (op.perform.after w).after later := rfl

end Hid.Wire
