import ResultSet.Proofs.Field.Extent

namespace ResultSet

/-!
# Framing failures and value failures

A framing failure is fatal for a connection and a value failure concerns one value
only.  The announced length alone should tell which of the two is possible.  It
does for every way to decode except those that ignore it: there a short field
near the end of the packet overruns although all its octets are there, and a long
one is taken for a bad value although the packet ends before it does.
-/

variable {Result : Type}

/-- Whether an action fails because the packet ends too early. -/
def Read.Overruns
    (action : Read Result)
    (start : Cursor) :
    Prop :=
  ∃ needed available, action.outcome start = .error (.tooSmall needed available)

/-- A framed reading overruns when the packet has fewer octets than the reader takes. -/
theorem FieldReader.overruns_framed_iff
    {reader : FieldReader Result}
    {length : Nat}
    {start : Cursor} :
    (Read.framed length reader.read).Overruns start ↔ start.remaining < reader.size := by
  have possible := reader.framedOutcome length start
  rw [Read.Overruns, Read.outcome]
  generalize (Read.framed length reader.read).run start = final at possible
  cases possible with
  | decoded fits exact _ =>
      constructor
      · rintro ⟨_, _, ⟨⟩⟩
      · intro short
        exact absurd fits (Nat.not_le.mpr (exact ▸ short))
  | rejected fits _ _ =>
      constructor
      · rintro ⟨_, _, ⟨⟩⟩
      · intro short
        exact absurd fits (Nat.not_le.mpr short)
  | overrun short _ => exact ⟨fun _ => short, fun _ => ⟨_, _, rfl⟩⟩

/-- A framed reading that fails either overruns or rejects the value. -/
theorem FieldReader.isValue_framed_iff
    {reader : FieldReader Result}
    {length : Nat}
    {start : Cursor}
    {fault : Fault}
    (fails : (Read.framed length reader.read).outcome start = .error fault) :
    fault.isValue = true ↔ reader.size ≤ start.remaining := by
  have possible := reader.framedOutcome length start
  rw [Read.outcome] at fails
  generalize (Read.framed length reader.read).run start = final at fails possible
  cases possible with
  | decoded _ _ _ => cases fails
  | rejected fits _ _ =>
      cases fails
      exact ⟨fun _ => fits, fun _ => rfl⟩
  | overrun short _ =>
      cases fails
      constructor
      · rintro ⟨⟩
      · intro fits
        exact absurd fits (Nat.not_le.mpr short)

namespace Column

variable {column : Column} {encoding : Encoding} {target : Target}

theorem size_valueReader
    (length : Nat) :
    (column.valueReader encoding target length).size =
      column.shape.extent encoding target length := by
  rw [valueReader, FieldReader.size_map]
  exact Shape.size_reader column.shape encoding target length

theorem overruns_decode_iff
    {length : Nat}
    {start : Cursor} :
    (column.decode encoding target length).Overruns start ↔
      start.remaining < column.shape.extent encoding target length := by
  rw [decode_eq_framed, FieldReader.overruns_framed_iff, size_valueReader]

theorem isValue_decode_iff
    {length : Nat}
    {start : Cursor}
    {fault : Fault}
    (fails : (column.decode encoding target length).outcome start = .error fault) :
    fault.isValue = true ↔
      column.shape.extent encoding target length ≤ start.remaining := by
  rw [decode_eq_framed] at fails
  rw [FieldReader.isValue_framed_iff fails, size_valueReader]

/--
The announced length alone decides how decoding fails: beyond the packet it
overruns, and inside the packet it rejects the value at most.
-/
structure SeparatesFailures
    (column : Column)
    (encoding : Encoding)
    (target : Target) :
    Prop where
  overruns :
    ∀ length start,
      (column.decode encoding target length).Overruns start ↔ start.remaining < length
  inside :
    ∀ length start fault,
      length ≤ start.remaining →
        (column.decode encoding target length).outcome start = .error fault →
          fault.isValue = true
  beyond :
    ∀ length start fault,
      start.remaining < length →
        (column.decode encoding target length).outcome start = .error fault →
          fault.isValue = false

theorem extent_eq_length
    (looks : column.shape.ignoresLength encoding target = false)
    (length : Nat) :
    column.shape.extent encoding target length = length := by
  rw [Shape.extent, looks]
  rfl

theorem SeparatesFailures.of_looking
    (looks : column.shape.ignoresLength encoding target = false) :
    column.SeparatesFailures encoding target where
  overruns length start := by
    rw [overruns_decode_iff, extent_eq_length looks]
  inside length start fault fits fails := by
    rw [isValue_decode_iff fails, extent_eq_length looks]
    exact fits
  beyond length start fault overrun fails := by
    rw [Bool.eq_false_iff, Ne, isValue_decode_iff fails, extent_eq_length looks]
    exact Nat.not_le.mpr overrun

/-- What ignores the announced length takes octets even of an empty field. -/
theorem extent_pos
    (ignores : column.shape.ignoresLength encoding target = true)
    (length : Nat) :
    0 < column.shape.extent encoding target length := by
  rw [Shape.extent, if_pos ignores]
  simp only [Shape.ignoresLength, Bool.and_eq_true, beq_iff_eq] at ignores
  have isFloat := ignores.1.1
  cases type : column.shape.type with
  | float => exact Nat.succ_pos 3
  | double => exact Nat.succ_pos 7
  | _ =>
      rw [type] at isFloat
      cases isFloat

/-- An empty field at the end of a packet overruns if its announced length is ignored. -/
theorem not_separatesFailures
    (ignores : column.shape.ignoresLength encoding target = true) :
    ¬ column.SeparatesFailures encoding target := by
  intro separates
  have overruns :
      (column.decode encoding target 0).Overruns (Cursor.ofPacket []) :=
    overruns_decode_iff.mpr (extent_pos ignores 0)
  exact Nat.not_lt_zero _ ((separates.overruns 0 _).mp overruns)

end Column

/--
Decoding overruns exactly when the packet has fewer octets than the extent of the
field, and fails otherwise only for the value.  The announced length alone decides
between the two unless it is ignored.
-/
theorem decode_overruns_iff_extent
    (column : Column)
    (encoding : Encoding)
    (target : Target) :
    (∀ length start,
      (column.decode encoding target length).Overruns start ↔
        start.remaining < column.shape.extent encoding target length) ∧
      (∀ length start fault,
        (column.decode encoding target length).outcome start = .error fault →
          (fault.isValue = true ↔
            column.shape.extent encoding target length ≤ start.remaining)) ∧
      (column.SeparatesFailures encoding target ↔
        column.shape.ignoresLength encoding target = false) := by
  refine ⟨fun length start => Column.overruns_decode_iff, ?_, ?_, ?_⟩
  · intro length start fault fails
    exact Column.isValue_decode_iff fails
  · intro separates
    rw [Bool.eq_false_iff]
    intro ignores
    exact Column.not_separatesFailures ignores separates
  · intro looks
    exact Column.SeparatesFailures.of_looking looks

/-- Of a single column, two octets overrun a packet of three, and six octets one of four do not. -/
theorem natural_single_confuses_failures :
    (((Column.generated "f" .float 12 0).decode ⟨.binary, none⟩ .natural 2).run
        (Cursor.ofPacket [0, 0, 0]) =
      .error (.tooSmall 4 3) ((Cursor.ofPacket [0, 0, 0]).advanced 2)) ∧
      ((Column.generated "f" .float 12 0).decode ⟨.binary, none⟩ .natural 6).run
          (Cursor.ofPacket [0, 0, 0, 0]) =
        .error (.value (.consumed 6 4)) ((Cursor.ofPacket [0, 0, 0, 0]).advanced 4) :=
  ⟨rfl, rfl⟩

end ResultSet
