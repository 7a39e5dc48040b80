import ResultSet.Proofs.Field.Extent
import ResultSet.Proofs.Packet.Recovery

namespace ResultSet

/-!
# Fields that a packet holds

When the packet has all octets of a field and the reader takes just these, the
outcome is what the octets mean, wherever in a packet they stand.  Statements
about whole decoders come down to statements about meanings by this.

A field of a whole number is first read as a number of full width, with the sign that
its column allows.  The widths, the natural representation and the packed truth value
are all made from this number; only the truth value of a literal is not.
-/

variable {Result : Type} {start : Cursor} {octets : Octets}

/-- What is made of a meaning is a result only if both steps have one. -/
theorem exists_of_bind_eq_ok
    {First Second : Type}
    {first : Except ValueError First}
    {next : First → Except ValueError Second}
    {second : Second}
    (succeeds : (first >>= next) = .ok second) :
    ∃ result, first = .ok result ∧ next result = .ok second := by
  cases first with
  | error error => cases succeeds
  | ok result => exact ⟨result, rfl, succeeds⟩

namespace FieldReader

variable {First Second : Type} {reader : FieldReader Result}

@[simp]
theorem size_bind
    (reader : FieldReader First)
    (next : First → Except ValueError Second) :
    (reader.bind next).size = reader.size :=
  rfl

/-- Changing the result of a reader changes what its octets mean. -/
theorem interpret_map
    (change : First → Second)
    (reader : FieldReader First)
    (octets : Octets) :
    (reader.map change).interpret octets = (reader.interpret octets).map change := by
  simp only [map, bind]
  cases reader.interpret octets with
  | ok first => rfl
  | error error => rfl

/-- The octets that come next are those that the reader takes, when it takes as many. -/
theorem take_rest_of_next
    (exact : reader.size = octets.length)
    (next : octets <+: start.rest) :
    start.rest.take reader.size = octets := by
  rw [exact, ← List.prefix_iff_eq_take.mp next]

/-- A frame around just the octets of a reader comes to what they mean. -/
theorem outcome_framed_of_next
    (exact : reader.size = octets.length)
    (next : octets <+: start.rest) :
    (Read.framed octets.length reader.read).outcome start =
      (reader.interpret octets).mapError Fault.value := by
  have fits : reader.size ≤ start.remaining := exact ▸ Cursor.length_le_remaining next
  have taken := take_rest_of_next exact next
  cases means : reader.interpret octets with
  | ok result =>
      have succeeds := run_read_of_ok fits (taken.symm ▸ means)
      rw [Read.outcome, Read.run_framed_of_ok fits succeeds, if_pos exact]
      rfl
  | error error =>
      have fails := run_read_of_error fits (taken.symm ▸ means)
      rw [Read.outcome, Read.run_framed_of_error fails]
      rfl

/-- Octets with a meaning are taken by a frame around them. -/
theorem accepts_framed
    {packet : Octets}
    {result : Result}
    (exact : reader.size = octets.length)
    (means : reader.interpret octets = .ok result) :
    Read.Accepts packet octets (Read.framed octets.length reader.read) (· = result) := by
  intro start _ next
  have fits : reader.size ≤ start.remaining := exact ▸ Cursor.length_le_remaining next
  have taken := take_rest_of_next exact next
  refine ⟨result, ?_, rfl⟩
  rw [Read.run_framed_of_ok fits (run_read_of_ok fits (taken.symm ▸ means)), if_pos exact,
    exact]

end FieldReader

namespace Column

theorem size_valueReader_of_heeding
    {column : Column}
    {encoding : Encoding}
    {target : Target}
    (heedsLength : column.shape.ignoresLength encoding target = false)
    (length : Nat) :
    (column.valueReader encoding target length).size = length := by
  rw [valueReader, FieldReader.size_map, Shape.size_reader, Shape.extent, heedsLength]
  rfl

/-- A decoder that heeds the announced length comes to what the octets mean to it. -/
theorem outcome_decode_of_heeding
    {column : Column}
    {encoding : Encoding}
    {target : Target}
    (heedsLength : column.shape.ignoresLength encoding target = false)
    (next : octets <+: start.rest) :
    (column.decode encoding target octets.length).outcome start =
      (((column.shape.reader encoding target octets.length).interpret octets).map
        target.toValue).mapError Fault.value := by
  have exact := size_valueReader_of_heeding heedsLength octets.length
  rw [decode_eq_framed, FieldReader.outcome_framed_of_next exact next, valueReader,
    FieldReader.interpret_map]

/-- All families but the floating-point one heed the announced length. -/
theorem outcome_decode_of_next
    {column : Column}
    (isNotFloat : column.shape.type.family ≠ .float)
    (encoding : Encoding)
    (target : Target)
    (next : octets <+: start.rest) :
    (column.decode encoding target octets.length).outcome start =
      (((column.shape.reader encoding target octets.length).interpret octets).map
        target.toValue).mapError Fault.value :=
  outcome_decode_of_heeding (Shape.heedsLength_of_not_float isNotFloat encoding target) next

/--
A decoder that heeds the announced length gives a value when the packet has the octets
of the field and they mean a result that is this value.
-/
theorem outcome_decode_eq_ok_iff_of_heeding
    {column : Column}
    {encoding : Encoding}
    {target : Target}
    {length : Nat}
    (heedsLength : column.shape.ignoresLength encoding target = false)
    {value : Value} :
    (column.decode encoding target length).outcome start = .ok value ↔
      length ≤ start.remaining ∧
        ∃ result,
          (column.shape.reader encoding target length).interpret (start.rest.take length) =
              .ok result ∧
            target.toValue result = value := by
  have exact := size_valueReader_of_heeding heedsLength length
  rw [decode_eq_framed, FieldReader.outcome_framed_eq_ok_iff, and_iff_right exact, valueReader,
    FieldReader.interpret_map]
  refine and_congr_right fun fits => ?_
  cases (column.shape.reader encoding target length).interpret (start.rest.take length) with
  | error error =>
      constructor
      · rintro ⟨⟩
      · rintro ⟨_, ⟨⟩, _⟩
  | ok result =>
      constructor
      · rintro ⟨⟩
        exact ⟨result, rfl, rfl⟩
      · rintro ⟨_, ⟨⟩, rfl⟩
        rfl

/-- Decoding gives a value when the octets mean a result that is this value. -/
theorem outcome_decode_eq_ok_iff
    {column : Column}
    (isNotFloat : column.shape.type.family ≠ .float)
    {encoding : Encoding}
    {target : Target}
    (next : octets <+: start.rest)
    {value : Value} :
    (column.decode encoding target octets.length).outcome start = .ok value ↔
      ∃ result,
        (column.shape.reader encoding target octets.length).interpret octets = .ok result ∧
          target.toValue result = value := by
  have heedsLength := Shape.heedsLength_of_not_float isNotFloat encoding target
  rw [outcome_decode_eq_ok_iff_of_heeding heedsLength,
    and_iff_right (Cursor.length_le_remaining next), ← List.prefix_iff_eq_take.mp next]

end Column

/-! ## Whole numbers at full width -/

namespace IntegerField

/-- Read the whole number of a field, before it is narrowed. -/
def wholeReader
    (protocol : Protocol)
    (shape : Shape)
    (length : Nat) :
    FieldReader Int :=
  match protocol with
  | .text => .text length fun literal => do shape.checkSign (← parseWhole literal)
  | .binary => binaryReader shape length

variable {shape : Shape} (isInteger : shape.type.family = .integer)

include isInteger

theorem interpret_reader_integer
    (encoding : Encoding)
    (width : IntegerWidth)
    (length : Nat)
    (octets : Octets) :
    (shape.reader encoding (.integer width) length).interpret octets =
      (wholeReader encoding.protocol shape length).interpret octets >>= width.narrow := by
  rw [Shape.reader, isInteger, Family.reader]
  cases encoding.protocol with
  | text =>
      simp only [text, FieldReader.text, FieldReader.whole, interpretText, wholeReader,
        bind_assoc]
  | binary => rfl

theorem interpret_reader_natural
    (encoding : Encoding)
    (length : Nat)
    (octets : Octets) :
    (shape.reader encoding .natural length).interpret octets =
      (wholeReader encoding.protocol shape length).interpret octets >>=
        fun number => .ok (naturalInteger number) := by
  rw [Shape.reader, isInteger, Family.reader]
  cases encoding.protocol with
  | text =>
      simp only [text, FieldReader.text, FieldReader.whole, interpretText, wholeReader,
        bind_assoc]
      rfl
  | binary => rfl

/-- The truth value of a packed number is that of the number. -/
theorem interpret_reader_boolean_binary
    (offset : Option ZoneOffset)
    (length : Nat)
    (octets : Octets) :
    (shape.reader ⟨.binary, offset⟩ .boolean length).interpret octets =
      (wholeReader .binary shape length).interpret octets >>=
        fun number => .ok (number != 0) := by
  rw [Shape.reader, isInteger]
  rfl

/-- The truth value of a literal looks at its characters and not at its number. -/
theorem interpret_reader_boolean_text
    (offset : Option ZoneOffset)
    (length : Nat)
    (octets : Octets) :
    (shape.reader ⟨.text, offset⟩ .boolean length).interpret octets =
      .ok (Text.decode octets != "0") := by
  rw [Shape.reader, isInteger]
  rfl

end IntegerField

end ResultSet
