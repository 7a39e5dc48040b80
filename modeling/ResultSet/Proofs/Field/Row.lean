import ResultSet.Proofs.Field.Framing
import ResultSet.Proofs.Packet.Recovery

namespace ResultSet

/-!
# Rows

A row is its cells one behind the other, each with its length in front or with
the mark of a missing value.  Reading a row asks for every cell in turn, and goes
on after a cell that cannot be decoded.  The cells do not disturb one another:
each has the result that it has in a packet of its own.
-/

variable {Result : Type}

/-- One cell of a row: what it holds, and how it is asked for. -/
structure Cell where
  column : Column
  encoding : Encoding
  target : Target
  /-- The octets of the value, if there is one. -/
  content : Option Octets
  /-- The octets stand in an address space of 64 bits. -/
  addressable : ∀ octets ∈ content, octets.length < 2 ^ 64

/-- Do an action, keep what comes of it, and go on from where it leaves the cursor. -/
def Read.attempt (action : Read Result) : Read (Except Fault Result) := fun start =>
  .ok (action.outcome start) (action.behind start)

namespace Cell

/-- The octets of a cell in a row. -/
def write (cell : Cell) : Octets :=
  match cell.content with
  | none => [LengthEncoded.nullMark]
  | some octets => Message.lengthEncodedOctets octets

/-- Ask for a cell where the cursor stands; a missing value is none. -/
def read (cell : Cell) : Read (Option Value) :=
  Read.announced (cell.column.decode cell.encoding cell.target)

/-- What comes of decoding octets that are alone in a packet. -/
def outcomeAlone
    (cell : Cell)
    (octets : Octets) :
    Except Fault Value :=
  (cell.column.decode cell.encoding cell.target octets.length).outcome
    (Cursor.ofPacket octets)

/-- An outcome of a cell in a row is the one that the cell has alone. -/
def Isolated
    (cell : Cell)
    (outcome : Except Fault (Option Value)) :
    Prop :=
  match cell.content with
  | none => outcome = .ok none
  | some octets =>
      outcome ≠ .ok none ∧
        ∀ value, outcome = .ok (some value) ↔ cell.outcomeAlone octets = .ok value

end Cell

namespace Row

/-- The octets of a row. -/
def write (cells : List Cell) : Octets :=
  cells.flatMap Cell.write

/-- Ask for all cells of a row, whatever comes of each of them. -/
def read (cells : List Cell) : Read (List (Except Fault (Option Value))) :=
  cells.mapM fun cell => cell.read.attempt

end Row

/-! ## One cell -/

/-- The octets that come next decode in a frame just as they do alone in a packet. -/
theorem FieldReader.outcome_framed_eq_ok_iff_alone
    {reader : FieldReader Result}
    {octets : Octets}
    {start : Cursor}
    {result : Result}
    (next : octets <+: start.rest) :
    (Read.framed octets.length reader.read).outcome start = .ok result ↔
      (Read.framed octets.length reader.read).outcome (Cursor.ofPacket octets) =
        .ok result := by
  have fits : octets.length ≤ start.remaining := Cursor.length_le_remaining next
  have fitsAlone : octets.length ≤ (Cursor.ofPacket octets).remaining := Nat.le_refl _
  have taken : start.rest.take octets.length = octets :=
    (List.prefix_iff_eq_take.mp next).symm
  have takenAlone : (Cursor.ofPacket octets).rest.take octets.length = octets :=
    List.take_length
  rw [outcome_framed_eq_ok_iff, outcome_framed_eq_ok_iff, taken, takenAlone]
  constructor
  · rintro ⟨_, exact, means⟩
    exact ⟨fitsAlone, exact, means⟩
  · rintro ⟨_, exact, means⟩
    exact ⟨fits, exact, means⟩

namespace Read

variable {First Second : Type}

theorem run_attempt
    (action : Read Result)
    (start : Cursor) :
    action.attempt.run start = .ok (action.outcome start) (action.behind start) :=
  rfl

/-- Changing the result of an attempt changes it inside the outcome. -/
theorem run_attempt_map
    (change : First → Second)
    (action : Read First)
    (start : Cursor) :
    (change <$> action).attempt.run start =
      .ok (change <$> action.outcome start) (action.behind start) := by
  rw [run_attempt]
  simp only [outcome, behind, EStateM.run, Functor.map, EStateM.map]
  cases action start <;> rfl

theorem Accepts.attempt
    {packet octets : Octets}
    {action : Read Result}
    {means : Result → Prop}
    (accepts : Accepts packet octets action means) :
    Accepts packet octets action.attempt
      (fun outcome => ∃ result, outcome = .ok result ∧ means result) := by
  intro start samePacket next
  obtain ⟨result, takes, meansResult⟩ := accepts start samePacket next
  refine ⟨.ok result, ?_, result, rfl, meansResult⟩
  rw [run_attempt, outcome_of_ok takes, behind_of_ok takes]

/-- An attempt at what comes behind an action is made where the action leaves the cursor. -/
theorem run_attempt_bind
    {action : Read First}
    {next : First → Read Second}
    {start behind : Cursor}
    {first : First}
    (succeeds : action.run start = .ok first behind) :
    (action >>= next).attempt.run start = (next first).attempt.run behind := by
  rw [run_attempt, run_attempt, outcome, outcome, Read.behind, Read.behind,
    run_bind_of_ok succeeds]

theorem accepts_announced_null
    {packet : Octets}
    (action : Nat → Read Result) :
    Accepts packet [LengthEncoded.nullMark] (announced action) (· = none) := by
  apply accepts_lengthEncoded?_null.andThen
  rintro _ rfl
  exact .pure rfl

/-- An attempt at an announced value is an attempt behind the length, wherever that ends. -/
theorem run_attempt_announced
    (action : Nat → Read Result)
    {written : Octets}
    {start : Cursor}
    (addressable : written.length < 2 ^ 64)
    (next : Message.lengthEncodedOctets written <+: start.rest) :
    let behindLength := start.advanced (Message.lengthEncoded written.length).length
    written <+: behindLength.rest ∧
      (announced action).attempt.run start =
        (some <$> action written.length).attempt.run behindLength := by
  intro behindLength
  obtain ⟨lengthNext, writtenNext⟩ := Accepts.next_of_append next
  obtain ⟨_, takesLength, rfl⟩ := accepts_lengthEncoded? addressable start rfl lengthNext
  refine ⟨writtenNext, ?_⟩
  rw [announced, run_attempt_bind takesLength]
  simp only [bind_pure_comp]
  rfl

end Read

namespace Cell

/-- A value that decodes just as it does alone makes an isolated outcome. -/
theorem isolated_of_iff
    {cell : Cell}
    {octets : Octets}
    {decoded : Except Fault Value}
    (content : cell.content = some octets)
    (asAlone : ∀ value, decoded = .ok value ↔ cell.outcomeAlone octets = .ok value) :
    cell.Isolated (some <$> decoded) := by
  rw [Isolated, content]
  cases decoded with
  | error fault =>
      refine ⟨nofun, fun value => ⟨nofun, fun alone => ?_⟩⟩
      cases (asAlone value).mpr alone
  | ok first =>
      refine ⟨nofun, fun value => ?_⟩
      rw [← asAlone value]
      constructor
      · rintro ⟨⟩
        rfl
      · rintro ⟨⟩
        rfl

/-- Asking for a cell takes the octets of the cell, and the outcome is that of the cell alone. -/
theorem accepts_attempt_read
    (packet : Octets)
    (cell : Cell) :
    Read.Accepts packet cell.write cell.read.attempt cell.Isolated := by
  intro start samePacket next
  cases content : cell.content with
  | none =>
      have written : cell.write = [LengthEncoded.nullMark] := by
        rw [write, content]
      rw [written] at next ⊢
      obtain ⟨outcome, takes, result, succeeds, rfl⟩ :=
        (Read.accepts_announced_null _).attempt start samePacket next
      refine ⟨outcome, takes, ?_⟩
      rw [Isolated, content]
      exact succeeds
  | some octets =>
      have written : cell.write = Message.lengthEncodedOctets octets := by
        rw [write, content]
      rw [written] at next ⊢
      have addressable : octets.length < 2 ^ 64 := cell.addressable octets content
      let reader := cell.column.valueReader cell.encoding cell.target octets.length
      let behindLength := start.advanced (Message.lengthEncoded octets.length).length
      obtain ⟨octetsNext, attempts⟩ :=
        Read.run_attempt_announced (cell.column.decode cell.encoding cell.target)
          addressable next
      -- Whatever the decoder makes of the octets, it ends behind them: the packet has them all.
      obtain ⟨moved, aligned, lands⟩ := reader.exists_behind_framed octets.length behindLength
      rw [Column.decode_eq_framed, Read.run_attempt_map, lands,
        aligned (Cursor.length_le_remaining octetsNext), Cursor.advanced_advanced,
        ← List.length_append] at attempts
      refine ⟨_, attempts, isolated_of_iff content fun value => ?_⟩
      rw [outcomeAlone, Column.decode_eq_framed]
      exact FieldReader.outcome_framed_eq_ok_iff_alone octetsNext

end Cell

/-- Reading a row gives each cell what it has alone, and ends at the end of the row. -/
theorem row_cells_are_isolated
    (cells : List Cell) :
    ∃ outcomes behind,
      (Row.read cells).run (Cursor.ofPacket (Row.write cells)) = .ok outcomes behind ∧
        List.Forall₂ Cell.Isolated cells outcomes ∧
        behind.remaining = 0 := by
  have accepts :
      Read.Accepts (Row.write cells) (Row.write cells) (Row.read cells)
        (List.Forall₂ Cell.Isolated cells) :=
    .mapM fun cell _ => cell.accepts_attempt_read _
  have next : Row.write cells <+: (Cursor.ofPacket (Row.write cells)).rest :=
    List.prefix_refl _
  obtain ⟨outcomes, reads, isolated⟩ := accepts (Cursor.ofPacket _) rfl next
  refine ⟨outcomes, _, reads, isolated, ?_⟩
  rw [Cursor.remaining_advanced]
  exact Nat.sub_self _

end ResultSet
