import ResultSet.Proofs.Field.Interpretation

namespace ResultSet

/-!
# Truth values of whole numbers

The truth value of a whole number should say whether the number is zero.  That of a
packed number does, and that of a literal does for all numbers but zero: a literal of
zero is taken for true unless it is the digit alone, although blanks, a sign and zeros
in front do not matter to the number.
-/

namespace IntegerField

/-- The digit zero alone spells zero. -/
theorem eq_zero_of_spelled
    {shape : Shape}
    {length : Nat}
    {octets : Octets}
    {number : Int}
    (spells : (wholeReader .text shape length).interpret octets = .ok number)
    (isDigit : Text.decode octets = "0") :
    number = 0 := by
  have parsed : parseWhole "0" = .ok 0 := by decide
  simp only [wholeReader, FieldReader.text, FieldReader.whole, isDigit, parsed] at spells
  cases spells
  rfl

end IntegerField

/--
Where a field has a whole number as its natural representation, it has a truth value.
The truth value says whether the number is zero, except for a literal of zero that is
not the digit alone.
-/
theorem truth_of_whole_number
    {column : Column}
    (isInteger : column.shape.type.family = .integer)
    {encoding : Encoding}
    {length : Nat}
    {start : Cursor}
    {natural : Value}
    (succeeds : (column.decode encoding .natural length).outcome start = .ok natural) :
    ∃ number truth,
      natural = naturalInteger number ∧
        (column.decode encoding .boolean length).outcome start = .ok (.boolean truth) ∧
        (truth = (number != 0) ↔
          (encoding.protocol = .text → number = 0 →
            Text.decode (start.rest.take length) = "0")) := by
  have heedsLength (target : Target) :
      column.shape.ignoresLength encoding target = false := by
    simp [Shape.ignoresLength, isInteger]
  obtain ⟨fits, _, means, rfl⟩ :=
    (Column.outcome_decode_eq_ok_iff_of_heeding (heedsLength .natural)).mp succeeds
  rw [IntegerField.interpret_reader_natural isInteger] at means
  obtain ⟨number, spells, named⟩ := exists_of_bind_eq_ok means
  cases named
  simp only [Column.outcome_decode_eq_ok_iff_of_heeding (heedsLength .boolean)]
  rcases encoding with ⟨protocol, offset⟩
  cases protocol with
  | binary =>
      refine ⟨number, number != 0, rfl, ⟨fits, _, ?_, rfl⟩, ?_⟩
      · rw [IntegerField.interpret_reader_boolean_binary isInteger, spells]
        rfl
      · simp
  | text =>
      have isZero := IntegerField.eq_zero_of_spelled spells
      refine ⟨number, Text.decode (start.rest.take length) != "0", rfl, ⟨fits, _, ?_, rfl⟩, ?_⟩
      · rw [IntegerField.interpret_reader_boolean_text isInteger]
      · rw [Bool.eq_iff_iff, bne_iff_ne, bne_iff_ne, not_iff_not]
        exact ⟨fun same _ => same.mpr, fun digitForZero => ⟨isZero, digitForZero rfl⟩⟩

/-- The zero of a column of years, written with four digits, is taken for true. -/
theorem zero_of_four_digits_is_true :
    let column := Column.generated "vintage" .year 4 0x60
    let start := Cursor.ofPacket (Text.encode "0000")
    (column.decode ⟨.text, none⟩ .natural 4).outcome start = .ok (naturalInteger 0) ∧
      ∃ number truth,
        naturalInteger 0 = naturalInteger number ∧
          (column.decode ⟨.text, none⟩ .boolean 4).outcome start = .ok (.boolean truth) ∧
          (truth = (number != 0) ↔
            (Protocol.text = .text → number = 0 →
              Text.decode (start.rest.take 4) = "0")) := by
  intro column start
  have succeeds :
      (column.decode ⟨.text, none⟩ .natural 4).outcome start = .ok (naturalInteger 0) := by
    decide +kernel
  exact ⟨succeeds, truth_of_whole_number rfl succeeds⟩

/-- Zeros in front, a sign or a blank make a literal of zero true, which is false when packed. -/
theorem spelled_zeros_are_true :
    let column := Column.generated "level" .tinyInt 4 0
    (∀ literal ∈ ["0000", "000", "00", "-0", "+0", " 0"],
      let octets := Text.encode literal
      (column.decode ⟨.text, none⟩ .natural octets.length).outcome
            (Cursor.ofPacket octets) = .ok (.integer .int 0) ∧
        (column.decode ⟨.text, none⟩ .boolean octets.length).outcome
            (Cursor.ofPacket octets) = .ok (.boolean true)) ∧
      (column.decode ⟨.binary, none⟩ .boolean 1).outcome (Cursor.ofPacket [0]) =
        .ok (.boolean false) := by
  decide +kernel

end ResultSet
