import Hid.Proofs.Dispatch.Decision
import Hid.Proofs.Wire.Faithful

/-!
Values between a client and a handler. If the layouts of a command are faithful, a client that
encodes a well-formed value has the handler run on that value, and decodes from the reply the value
that the handler gave it (`runs_of_encode`, `conclude_of_sendable`). A command that answers with
its parameters brings any block back in its canonical form (`echo_settles`).

* `exchange_exact`: all of this for any table, and the canonical form for the layouts of records.
-/

namespace Hid.Dispatch

open Wire (Bytes Layout Record)

variable {m : Type → Type}

namespace Definition

/-- The command that answers with its parameters. -/
def echo [Monad m] {α : Type} (name : String) (l : Layout α) : Definition m where
  name := name
  parameters := l
  output := some l
  handler := fun c => return { result := .success, output := some c.parameters }

section Replies

variable {d : Definition m} {l : Layout d.Output} {Sendable : d.Output → Prop}

/-- A value that can be sent is sent as a block that is decoded to it. All else of the reply stays
as it is. -/
theorem conclude_of_sendable (declared : d.output = some l) (faithful : l.Faithful Sendable)
    (opcode : Quantity) {reply : Reply d.Output} {o : d.Output} (given : reply.output = some o)
    (sendable : Sendable o) :
    ∃ output, l.decode output = .ok o ∧ d.conclude opcode (.ok reply) =
      .reply ⟨reply.result, output, reply.buffers, reply.handles⟩ := by
  obtain ⟨output, encoded, -, decoded⟩ := faithful.encode_ok sendable
  refine ⟨output, decoded, ?_⟩
  have block : d.encodeOutput reply.output = .ok output := by
    rw [given]
    simp only [encodeOutput, declared, encoded]
    rfl
  rw [conclude, block]

/-- A value that is left out is sent as zeros. -/
theorem conclude_of_none (declared : d.output = some l) (faithful : l.Faithful Sendable)
    (opcode : Quantity) {reply : Reply d.Output} (missing : reply.output = none) :
    d.conclude opcode (.ok reply) =
      .reply ⟨reply.result, List.replicate l.size 0, reply.buffers, reply.handles⟩ := by
  have block : d.encodeOutput reply.output = .ok (List.replicate l.size 0) := by
    rw [missing]
    simp only [encodeOutput, declared, faithful.zeros]
    rfl
  rw [conclude, block]

end Replies
end Definition

namespace Table

variable [Monad m] [LawfulMonad m] {t : Table m} {request : Request} {session : Session}
    {stats : Stats}

/-- The handler runs on the value that the client has encoded. -/
theorem runs_of_encode {d : Definition m} {WellFormed : d.Parameters → Prop}
    (entry : t.lookup? request.opcode = some (.implemented d))
    (faithful : d.parameters.Faithful WellFormed) {v : d.Parameters} (formed : WellFormed v)
    (handles : request.hasHandles d.handleCount)
    (encoded : d.parameters.encode v = .ok request.parameters) :
    t.Runs request session stats d v := by
  obtain ⟨block, encoded', -, decoded⟩ := faithful.encode_ok formed
  obtain rfl := Except.ok.inj (encoded.symm.trans encoded')
  exact runs_of_decoded entry handles decoded

/-- A handler that does nothing but reply settles the request with its reply. -/
theorem settles_of_pure {d : Definition m} {parameters : d.Parameters} {reply : Reply d.Output}
    (runs : t.Runs request session stats d parameters)
    (replies : (d.handler ⟨request.opcode.plain, d.name, parameters, session, request⟩).run =
      pure (.ok reply)) :
    t.Settles request session stats (d.conclude request.opcode.plain (.ok reply)) := by
  rw [Settles, runs, replies, map_pure]

/-- An echo answers with the block that its parameters are encoded as. -/
theorem echo_settles {α : Type} {name : String} {l : Layout α}
    (entry : t.lookup? request.opcode = some (.implemented (.echo name l)))
    (handles : request.handles = []) {v : α} {canonical : Bytes}
    (decoded : l.decode request.parameters = .ok v) (encoded : l.encode v = .ok canonical) :
    t.Settles request session stats (.reply { result := .success, output := canonical }) := by
  have runs : t.Runs request session stats (.echo name l) v :=
    runs_of_decoded entry (Request.hasHandles_zero handles) decoded
  have answers : (Definition.echo (m := m) name l).conclude request.opcode.plain
      (.ok { result := .success, output := some v }) =
        .reply { result := .success, output := canonical } := by
    simp only [Definition.conclude, Definition.encodeOutput, Definition.echo, encoded]
    rfl
  have settles := settles_of_pure runs (rfl : _ = pure (Except.ok _))
  exact (congrArg (t.Settles request session stats) answers).mp settles

/-- **Client and handler see the same values.** For every table, whatever monad its handlers run
in:

* If the parameters of a command have a faithful layout, every well-formed value of them is
  encoded, and a request with the declared number of handles that brings the block has the handler
  run once, on this value. The outcome is a violation only if the handler raises one.
* If the output has one too, the reply to a value that can be sent has a block that is decoded to
  it, and the reply to none has zeros. The result, the buffers and the handles are those of the
  handler.
* A command that answers with its parameters answers any block of the right size with one that is
  decoded to the same value and is the encoding of it, and so would be answered with itself.
* If its layout is that of a sound record, as those of the catalogue are, the answer is the block
  with its padding zeroed, its flags zero or one, and its NaNs canonical. -/
theorem exchange_exact (t : Table m) (opcode : Quantity) :
    (∀ d, t.lookup? opcode = some (.implemented d) →
      ∀ WellFormed, d.parameters.Faithful WellFormed →
      (∀ v, WellFormed v → ∃ block, d.parameters.encode v = .ok block ∧
        ∀ request session stats, request.opcode = opcode → request.parameters = block →
          request.hasHandles d.handleCount →
          t.Runs request session stats d v) ∧
      (∀ found v, d.conclude opcode found = .violation v →
        ∃ raised, found = .error (.violation raised)) ∧
      ∀ l Sendable, d.output = some l → l.Faithful Sendable → ∀ reply : Reply d.Output,
        (∀ o, reply.output = some o → Sendable o → ∃ output, l.decode output = .ok o ∧
          d.conclude opcode (.ok reply) =
            .reply ⟨reply.result, output, reply.buffers, reply.handles⟩) ∧
        (reply.output = none → d.conclude opcode (.ok reply) =
          .reply ⟨reply.result, List.replicate l.size 0, reply.buffers, reply.handles⟩)) ∧
    (∀ (α : Type) name (l : Layout α) WellFormed, l.Faithful WellFormed →
      t.lookup? opcode = some (.implemented (.echo name l)) → ∀ request session stats,
      request.opcode = opcode → request.handles = [] → request.parameters.length = l.size →
      ∃ v canonical, l.decode request.parameters = .ok v ∧ l.encode v = .ok canonical ∧
        l.decode canonical = .ok v ∧
        t.Settles request session stats (.reply { result := .success, output := canonical })) ∧
    ∀ (α : Type) name (r : Record α), r.Sound →
      t.lookup? opcode = some (.implemented (.echo name r.layout)) → ∀ request session stats,
      request.opcode = opcode → request.handles = [] →
      request.parameters.length = r.layout.size →
      t.Settles request session stats
        (.reply { result := .success, output := Wire.tidy r.slots request.parameters }) := by
  refine ⟨?_, ?_, ?_⟩
  · intro d entry WellFormed faithful
    refine ⟨?_, fun found v => d.eq_violation_of_conclude, ?_⟩
    · intro v formed
      obtain ⟨block, encoded, -, -⟩ := faithful.encode_ok formed
      refine ⟨block, encoded, ?_⟩
      rintro request session stats rfl rfl handles
      exact runs_of_encode entry faithful formed handles encoded
    · intro l Sendable declared sends reply
      constructor
      · intro o given sendable
        exact Definition.conclude_of_sendable declared sends opcode given sendable
      · intro missing
        exact Definition.conclude_of_none declared sends opcode missing
  · rintro α name l WellFormed faithful entry request session stats rfl handles whole
    obtain ⟨v, canonical, decoded, encoded, -, again⟩ := faithful.canonical whole
    exact ⟨v, canonical, decoded, encoded, again, echo_settles entry handles decoded encoded⟩
  · rintro α name r sound entry request session stats rfl handles whole
    obtain ⟨v, decoded, encoded⟩ := Record.encode_decode sound whole
    exact echo_settles entry handles decoded encoded

/-- A command that counts its runs and doubles a word. -/
def doubler : Definition (StateM Nat) where
  name := "Double"
  parameters := Layout.word32
  output := some Layout.word32
  handler := fun c => do
    modify (· + 1)
    return { result := .success, output := some (2 * c.parameters), buffers := [[1]] }

/-- A word that is doubled, and a flag that comes back without the noise around it. -/
theorem exchange_exact_doubled :
    let t : Table (StateM Nat) := ⟨"table",
      [(1, .implemented doubler), (2, .implemented (.echo "Echo" Record.flagWord.layout))]⟩
    (∃ block, Layout.word32.encode 21 = .ok block ∧
      t.Runs { opcode := 1, parameters := block } ⟨"session", 0⟩ [] doubler (21 : Int)) ∧
    (∃ output, Layout.word32.decode output = .ok 42 ∧
      doubler.conclude 1 (.ok ⟨.success, some (42 : Int), [[1]], []⟩) =
        .reply ⟨.success, output, [[1]], []⟩) ∧
    t.Settles { opcode := 2, parameters := [7, 9, 9, 9] } ⟨"session", 0⟩ []
      (.reply { result := .success, output := [1, 0, 0, 0] }) := by
  intro t
  have formed (n : Int) (low : 0 ≤ n) (high : n < 256) : Record.word32.WellFormed n := by
    refine ⟨(n, ()), ⟨trivial, trivial⟩, ⟨⟨low, ?_⟩, trivial⟩, rfl⟩
    exact Int.lt_trans high (by decide)
  have faithful : Layout.word32.Faithful Record.word32.WellFormed := Wire.Shape.word32.faithful
  obtain ⟨values, -⟩ := exchange_exact t 1
  obtain ⟨runs, -, replies⟩ := values doubler rfl _ faithful
  obtain ⟨block, encoded, run⟩ := runs (21 : Int) (formed 21 (by decide) (by decide))
  obtain ⟨sends, -⟩ := replies _ _ rfl faithful ⟨.success, some (42 : Int), [[1]], []⟩
  obtain ⟨-, -, echoes⟩ := exchange_exact t 2
  refine ⟨⟨block, encoded, run _ _ _ rfl rfl rfl⟩,
    sends (42 : Int) rfl (formed 42 (by decide) (by decide)), ?_⟩
  exact echoes Bool "Echo" Record.flagWord Wire.Shape.flagWord.sound rfl _ _ _ rfl rfl rfl

end Table
end Hid.Dispatch
