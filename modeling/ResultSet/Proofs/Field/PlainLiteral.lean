import ResultSet.Proofs.Field.DateTimeLiteral
import ResultSet.Proofs.Number.PlainLiteral
import ResultSet.Proofs.Text.Utf8

namespace ResultSet

/-!
# Octets beyond ASCII in fields of numbers

In text, a field of a number is a literal with or without blanks around it.  The literal
itself is ASCII, so that octets beyond ASCII make the field malformed, with one exception:
some blanks are beyond ASCII as well, and around a literal they are left out like any
other blank.  Such a field is judged as if the literal stood there alone.
-/

variable {First Second Result : Type}

/-- Whether a number is read from a literal of ASCII that may have blanks around it. -/
structure ReadsPlainLiterals (meaning : String → Except ValueError Result) : Prop where
  amidBlanks : ∀ {first second : String},
    Text.trim first.toList = Text.trim second.toList →
      judged (meaning first) = judged (meaning second)
  beyondAscii : ∀ {literal : String},
    ¬ Text.AllAscii (Text.trim literal.toList) →
      judged (meaning literal) = .error .malformed

namespace ReadsPlainLiterals

/-- A reader of ASCII reads plain literals when the blanks are taken off first. -/
theorem of_reader
    {read? : List Char → Option Result}
    (plain : ∀ {characters result}, read? characters = some result → Text.AllAscii characters)
    {meaning : String → Except ValueError Result}
    (reads : ∀ literal,
      judged (meaning literal) =
        (read? (Text.trim literal.toList)).elim (.error .malformed) .ok) :
    ReadsPlainLiterals meaning where
  amidBlanks := by
    intro first second same
    rw [reads, reads, same]
  beyondAscii := by
    intro literal notPlain
    rw [reads]
    cases read : read? (Text.trim literal.toList) with
    | none => rfl
    | some result => exact absurd (plain read) notPlain

/-- What is done with the number may quote the literal, but must not judge by it. -/
theorem bind
    {meaning : String → Except ValueError First}
    (readsPlain : ReadsPlainLiterals meaning)
    {next : String → First → Except ValueError Second}
    (quotes : ∀ first second result, judged (next first result) = judged (next second result)) :
    ReadsPlainLiterals fun literal => meaning literal >>= next literal where
  amidBlanks := by
    intro first second same
    rw [judged_bind, judged_bind, readsPlain.amidBlanks same]
    exact congrArg _ (funext (quotes first second))
  beyondAscii := by
    intro literal notPlain
    rw [judged_bind, readsPlain.beyondAscii notPlain]
    rfl

/-- What is done with the number alone does not look at the literal. -/
theorem bindNumber
    {meaning : String → Except ValueError First}
    (readsPlain : ReadsPlainLiterals meaning)
    (next : First → Except ValueError Second) :
    ReadsPlainLiterals fun literal => meaning literal >>= next :=
  readsPlain.bind fun _ _ _ => rfl

theorem of_parseWhole : ReadsPlainLiterals parseWhole :=
  of_reader Numeral.allAscii_of_signedWithin? fun literal => by
    rw [parseWhole]
    cases Numeral.signedWithin? fullWidth (Text.trim literal.toList) <;> rfl

theorem of_parseDecimal (label : String) :
    ReadsPlainLiterals fun literal => parseDecimal literal label :=
  of_reader Decimal.allAscii_of_ofLiteral? fun literal => by
    rw [parseDecimal]
    cases Decimal.ofLiteral? (Text.trim literal.toList) <;> rfl

theorem of_parseSingle : ReadsPlainLiterals parseSingle :=
  of_reader Single.allAscii_of_ofLiteral? fun literal => by
    rw [parseSingle]
    cases Single.ofLiteral? (Text.trim literal.toList) <;> rfl

theorem of_parseDouble : ReadsPlainLiterals parseDouble :=
  of_reader Double.allAscii_of_ofLiteral? fun literal => by
    rw [parseDouble]
    cases Double.ofLiteral? (Text.trim literal.toList) <;> rfl

end ReadsPlainLiterals

/-! ## Families of numbers -/

/-- Whether the columns of a family hold numbers that are literals in text. -/
def Family.IsNumeric : Family → Prop
  | integer | float | decimal => True
  | _ => False

/-- Whether a representation is a number, or leaves it to the column to choose one. -/
def Target.IsNumeric : Target → Prop
  | integer _ | single | double | decimal | natural => True
  | _ => False

section Families

open ReadsPlainLiterals

variable {target : Target} (isNumeric : target.IsNumeric) (shape : Shape)

include isNumeric

theorem IntegerField.readsPlainLiterals :
    ReadsPlainLiterals fun literal => interpretText shape literal target := by
  cases target with
  | integer width =>
      exact of_parseWhole.bindNumber fun number => shape.checkSign number >>= width.narrow
  | single => exact of_parseSingle
  | double => exact of_parseDouble
  | decimal => exact of_parseDecimal _
  | natural =>
      exact of_parseWhole.bindNumber fun number => return naturalInteger (← shape.checkSign number)
  | boolean | text | bytes => exact isNumeric.elim

theorem FloatField.readsPlainLiterals :
    ReadsPlainLiterals fun literal => interpretText shape literal target := by
  cases target with
  | integer width =>
      exact of_parseDouble.bindNumber fun value => whole shape width value.number
  | single => exact of_parseSingle
  | double => exact of_parseDouble
  | decimal => exact of_parseDecimal _
  | natural =>
      have ofSingle := of_parseSingle.bindNumber fun value => .ok (Value.single value)
      have ofDouble := of_parseDouble.bindNumber fun value => .ok (Value.double value)
      rcases shape with ⟨collation, length, type, flags, decimals⟩
      cases type with
      | float => exact ofSingle
      | _ => exact ofDouble
  | boolean | text | bytes => exact isNumeric.elim

theorem DecimalField.readsPlainLiterals :
    ReadsPlainLiterals fun literal => interpret shape literal target := by
  cases target with
  | integer width =>
      -- The literal is quoted where the whole part is too large.
      have quotes (first second : String) (decimal : Decimal) :
          judged (wholePart decimal first) = judged (wholePart decimal second) := by
        rw [wholePart, wholePart]
        split <;> rfl
      refine (of_parseDecimal width.label).bind fun first second decimal => ?_
      rw [judged_bind, judged_bind, quotes first second]
  | single => exact of_parseSingle
  | double => exact of_parseDouble
  | decimal => exact of_parseDecimal _
  | natural =>
      exact (of_parseDecimal _).bindNumber fun decimal => .ok (Value.decimal decimal)
  | boolean | text | bytes => exact isNumeric.elim

variable {shape}

/-- A number in text is judged by the characters that its octets spell. -/
theorem Shape.exists_readsPlainLiterals
    (isNumber : shape.type.family.IsNumeric)
    (offset : Option ZoneOffset) :
    ∃ meaning : String → Except ValueError target.Result,
      ReadsPlainLiterals meaning ∧
        ∀ (length : Nat) (octets : Octets),
          (shape.reader ⟨.text, offset⟩ target length).interpret octets =
            meaning (Text.decode octets) := by
  simp only [reader]
  cases family : shape.type.family with
  | integer => exact ⟨_, IntegerField.readsPlainLiterals isNumeric shape, fun _ _ => rfl⟩
  | float => exact ⟨_, FloatField.readsPlainLiterals isNumeric shape, fun _ _ => rfl⟩
  | decimal => exact ⟨_, DecimalField.readsPlainLiterals isNumeric shape, fun _ _ => rfl⟩
  | _ =>
      rw [family] at isNumber
      exact isNumber.elim

end Families

/-! ## Octets beyond ASCII -/

section Octets

variable {octets : Octets}

/-- Whether octets spell a literal of ASCII, with blanks around it or without. -/
def SpellsPlainLiteral (octets : Octets) : Prop :=
  ∃ literal, Text.AllAscii literal ∧ SpellsAmidBlanks octets literal

/-- All that is left without the blanks at the ends is such a literal, if any is. -/
theorem spellsPlainLiteral_iff :
    SpellsPlainLiteral octets ↔ Text.AllAscii (Text.trim (Text.decode octets).toList) := by
  constructor
  · rintro ⟨literal, plain, spelled⟩
    obtain ⟨front, back, whole, -⟩ := Text.exists_trim_eq literal
    rw [spelled.trim_eq]
    intro character member
    rw [whole] at plain
    exact plain character (List.mem_append_left back (List.mem_append_right front member))
  · intro trimmedPlain
    obtain ⟨front, back, whole, frontBlank, backBlank⟩ :=
      Text.exists_trim_eq (Text.decode octets).toList
    exact ⟨_, trimmedPlain, front, back, whole, frontBlank, backBlank⟩

instance (octets : Octets) : Decidable (SpellsPlainLiteral octets) :=
  decidable_of_iff _ spellsPlainLiteral_iff.symm

/-- Around a literal of ASCII, octets beyond ASCII spell blanks that are beyond ASCII. -/
theorem SpellsAmidBlanks.exists_blank
    {literal : List Char}
    (spelled : SpellsAmidBlanks octets literal)
    (plain : Text.AllAscii literal)
    (beyond : ∃ octet ∈ octets, 0x80 ≤ octet.toNat) :
    ∃ blank ∈ (Text.decode octets).toList,
      Text.isBlank blank = true ∧ blank.isAscii = false := by
  obtain ⟨front, back, whole, frontBlank, backBlank⟩ := spelled
  obtain ⟨blank, member, notAscii⟩ := Text.exists_mem_decode_beyond_ascii beyond
  refine ⟨blank, member, ?_, notAscii⟩
  rw [whole, List.mem_append, List.mem_append] at member
  rcases member with (inFront | inLiteral) | inBack
  · exact frontBlank blank inFront
  · exact absurd (plain blank inLiteral) (Bool.eq_false_iff.mp notAscii)
  · exact backBlank blank inBack

end Octets

/--
With octets beyond ASCII, a field of a number in text is malformed unless all that is
beyond ASCII are blanks around a literal.  In that case the blanks are left out: the field
is judged as the literal alone would be.
-/
theorem octets_beyond_ascii_are_malformed_or_blanks
    {column : Column}
    (isNumber : column.shape.type.family.IsNumeric)
    {target : Target}
    (isNumeric : target.IsNumeric)
    (offset : Option ZoneOffset)
    {octets : Octets}
    (beyond : ∃ octet ∈ octets, 0x80 ≤ octet.toNat)
    {start : Cursor}
    (next : octets <+: start.rest) :
    (¬ SpellsPlainLiteral octets →
        (column.decode ⟨.text, offset⟩ target octets.length).verdict start =
          .error (.value .malformed)) ∧
      ∀ literal,
        Text.AllAscii literal →
        SpellsAmidBlanks octets literal →
          (∃ blank ∈ (Text.decode octets).toList,
              Text.isBlank blank = true ∧ blank.isAscii = false) ∧
            ∀ alone : Cursor,
              alone.rest = Text.encode (String.ofList literal) →
                (column.decode ⟨.text, offset⟩ target octets.length).verdict start =
                  (column.decode ⟨.text, offset⟩ target alone.rest.length).verdict alone := by
  have heedsLength : column.shape.ignoresLength ⟨.text, offset⟩ target = false := by
    simp [Shape.ignoresLength]
  obtain ⟨meaning, readsPlain, reads⟩ :=
    Shape.exists_readsPlainLiterals isNumeric isNumber offset
  rw [Column.verdict_decode_of_next heedsLength next, reads]
  constructor
  · intro noLiteral
    rw [spellsPlainLiteral_iff] at noLiteral
    rw [readsPlain.beyondAscii noLiteral]
    rfl
  · intro literal plain spelled
    refine ⟨spelled.exists_blank plain beyond, fun alone isAlone => ?_⟩
    have sameTrim :
        Text.trim (Text.decode octets).toList = Text.trim (Text.decode alone.rest).toList := by
      rw [spelled.trim_eq, isAlone, Text.decode_encode, String.toList_ofList]
    rw [Column.verdict_decode_of_next heedsLength (List.prefix_refl alone.rest), reads,
      readsPlain.amidBlanks sameTrim]

/-- Wide blanks around a number are left out, and a wide digit makes it malformed. -/
theorem wide_blanks_are_left_out_and_wide_digits_are_not :
    let column := Column.generated "price" .decimal 10 0
    let amidBlanks := Text.encode "\u3000-5\u2003"
    let wideDigit := Text.encode "-\uFF15"
    let alone := Cursor.ofPacket (Text.encode "-5")
    column.shape.type.family.IsNumeric ∧
      Target.decimal.IsNumeric ∧
      (∃ octet ∈ amidBlanks, 0x80 ≤ octet.toNat) ∧
      (∃ octet ∈ wideDigit, 0x80 ≤ octet.toNat) ∧
      SpellsAmidBlanks amidBlanks ['-', '5'] ∧
      (column.decode ⟨.text, none⟩ .decimal amidBlanks.length).verdict
          (Cursor.ofPacket amidBlanks) =
        (column.decode ⟨.text, none⟩ .decimal alone.rest.length).verdict alone ∧
      (column.decode ⟨.text, none⟩ .decimal alone.rest.length).verdict alone =
        .ok (.decimal ⟨-5, 0⟩) ∧
      ¬ SpellsPlainLiteral wideDigit ∧
      (column.decode ⟨.text, none⟩ .decimal wideDigit.length).verdict
          (Cursor.ofPacket wideDigit) =
        .error (.value .malformed) := by
  intro column amidBlanks wideDigit alone
  have isNumber : column.shape.type.family.IsNumeric := trivial
  have isNumeric : Target.decimal.IsNumeric := trivial
  have blanksBeyond : ∃ octet ∈ amidBlanks, 0x80 ≤ octet.toNat := by decide
  have digitBeyond : ∃ octet ∈ wideDigit, 0x80 ≤ octet.toNat := by decide
  have spelled : SpellsAmidBlanks amidBlanks ['-', '5'] :=
    ⟨['\u3000'], ['\u2003'], by decide, List.forall_mem_singleton.mpr (by decide),
      List.forall_mem_singleton.mpr (by decide)⟩
  have noLiteral : ¬ SpellsPlainLiteral wideDigit := by decide
  have leftOut :=
    (octets_beyond_ascii_are_malformed_or_blanks isNumber isNumeric none blanksBeyond
      (List.prefix_refl (Cursor.ofPacket amidBlanks).rest)).2 _ (by decide) spelled
  have refused :=
    (octets_beyond_ascii_are_malformed_or_blanks isNumber isNumeric none digitBeyond
      (List.prefix_refl (Cursor.ofPacket wideDigit).rest)).1 noLiteral
  exact ⟨isNumber, isNumeric, blanksBeyond, digitBeyond, spelled,
    leftOut.2 alone (by decide), by decide +kernel, noLiteral, refused⟩

/-- A number with a no-break space behind it is read in every representation. -/
theorem no_break_space_behind_a_number_is_left_out :
    let column := Column.generated "level" .integer 11 0
    let octets : Octets := [0x35, 0xC2, 0xA0]
    let start := Cursor.ofPacket octets
    column.shape.type.family.IsNumeric ∧
      (∃ octet ∈ octets, 0x80 ≤ octet.toNat) ∧
      octets <+: start.rest ∧
      (∀ width,
        (column.decode ⟨.text, none⟩ (.integer width) 3).verdict start =
          .ok (.integer width 5)) ∧
      (column.decode ⟨.text, none⟩ .single 3).verdict start =
        .ok (.single (Single.ofInt 5)) ∧
      (column.decode ⟨.text, none⟩ .double 3).verdict start =
        .ok (.double (Double.ofInt 5)) ∧
      (column.decode ⟨.text, none⟩ .decimal 3).verdict start = .ok (.decimal ⟨5, 0⟩) ∧
      (column.decode ⟨.text, none⟩ .natural 3).verdict start = .ok (.integer .int 5) := by
  intro column octets start
  have everyWidth : ∀ width,
      (column.decode ⟨.text, none⟩ (.integer width) 3).verdict start =
        .ok (.integer width 5) := by
    intro width
    cases width <;> decide +kernel
  exact ⟨trivial, by decide, List.prefix_refl start.rest, everyWidth, by decide +kernel,
    by decide +kernel, by decide +kernel, by decide +kernel⟩

end ResultSet
