import ResultSet.Proofs.Field.FailureKinds
import ResultSet.Proofs.Field.Interpretation

namespace ResultSet

/-!
# The representations that a column serves

Every family has representations that it does not serve, and for large objects and
character strings these depend on whether the octets are data.  A refusal says
nothing of the value: what is refused is refused for all octets, and what is served
may fail for its octets, but is never refused.  `Family.refusedTargets` is the table
of the refusals, and `Shape.applicability` says that the readers keep to it.
-/

variable {Result First Second : Type}

/-! ## The table -/

/-- The representations that data do not serve because they are read from text. -/
def Target.readFromText : List Target :=
  [boolean, integer .short, integer .int, integer .long, single, double, decimal]

/-- The representations that a family does not serve, for columns of data or of text. -/
def Family.refusedTargets (family : Family) (isBinary : Bool) : List Target :=
  match family with
  | .integer | .float | .decimal => [.bytes]
  | .bit => [.single, .double]
  | .blob => .integer .short :: if isBinary then Target.readFromText else []
  | .string => if isBinary then Target.readFromText else []
  | .date | .time | .timestamp =>
      Target.all.filter fun target => target != .text && target != .natural

/-- The representations that a column does not serve. -/
def Shape.refusedTargets (shape : Shape) : List Target :=
  shape.type.family.refusedTargets shape.isBinary

/-- How a column refuses a representation. -/
def Shape.refusal (shape : Shape) (target : Target) : ValueError :=
  .incompatible shape.type target.label

/-! ## Meanings that are no refusals -/

/-- Whether a meaning is a result, or a failure of the octets that mean nothing. -/
def Served (meaning : Except ValueError Result) : Prop :=
  ∀ error, meaning = .error error → error.kind ≠ .incompatible

namespace Served

theorem ok (result : Result) : Served (.ok result) :=
  nofun

theorem error
    {error : ValueError}
    (isNoRefusal : (error.kind == .incompatible) = false) :
    Served (.error error : Except ValueError Result) := by
  rintro _ ⟨⟩
  exact ne_of_beq_false isNoRefusal

theorem bind
    {first : Except ValueError First}
    {next : First → Except ValueError Second}
    (firstServed : Served first)
    (nextServed : ∀ result, Served (next result)) :
    Served (first >>= next) := by
  cases first with
  | ok result => exact nextServed result
  | error error => exact .error (beq_false_of_ne (firstServed error rfl))

theorem ite
    {condition : Prop}
    [Decidable condition]
    {first second : Except ValueError Result}
    (firstServed : Served first)
    (secondServed : Served second) :
    Served (if condition then first else second) := by
  split
  · exact firstServed
  · exact secondServed

/-! Literals of numbers -/

theorem parseWhole (literal : String) : Served (parseWhole literal) := by
  rw [ResultSet.parseWhole]
  split
  · exact .ok _
  · exact .error rfl

theorem parseDecimal (literal label : String) : Served (parseDecimal literal label) := by
  rw [ResultSet.parseDecimal]
  split
  · exact .ok _
  · exact .error rfl

theorem parseSingle (literal : String) : Served (parseSingle literal) := by
  rw [ResultSet.parseSingle]
  split
  · exact .ok _
  · exact .error rfl

theorem parseDouble (literal : String) : Served (parseDouble literal) := by
  rw [ResultSet.parseDouble]
  split
  · exact .ok _
  · exact .error rfl

/-! Whole numbers -/

theorem checkSign (shape : Shape) (number : Int) : Served (shape.checkSign number) :=
  .ite (.error rfl) (.ok _)

theorem narrow (width : IntegerWidth) (number : Int) : Served (width.narrow number) :=
  .ite (.ok _) (.error rfl)

theorem wholePart (decimal : Decimal) (literal : String) : Served (wholePart decimal literal) :=
  .ite (.ok _) (.error rfl)

theorem wholePartOfBinary (number : BinaryNumber) : Served number.wholePart := by
  rw [BinaryNumber.wholePart]
  split
  · exact .ok _
  · exact .error rfl

/-! Dates and date-times -/

theorem dateOfParts (year : Int) (month day : Nat) : Served (dateOfParts year month day) := by
  refine .ite (.ok _) ?_
  split
  · exact .ok _
  · exact .error rfl

theorem parseDate (literal : String) : Served (parseDate literal) := by
  rw [ResultSet.parseDate]
  split
  · exact dateOfParts _ _ _
  · exact .error rfl

theorem parseDateTime (literal : String) : Served (parseDateTime literal) := by
  refine (parseDate _).bind fun date => ?_
  split
  · exact .ok _
  · exact .ok _
  · split
    · exact .ok _
    · exact .error rfl

theorem packedDateTime (octets : Octets) : Served (PackedDateTime.ofOctets octets) := by
  rw [PackedDateTime.ofOctets.eq_def]
  split
  · exact .ok _
  · exact .ok _
  · exact .error rfl

theorem textOfPackedDate (octets : Octets) : Served (PackedDateTime.textOfDate octets) := by
  rw [PackedDateTime.textOfDate.eq_def]
  split
  · exact .ok _
  · exact (packedDateTime _).bind fun packed => .ok _

theorem packedDuration (octets : Octets) : Served (PackedDuration.ofOctets octets) := by
  rw [PackedDuration.ofOctets.eq_def]
  split
  · exact .ok _
  · exact .error rfl

theorem textOfPackedDuration
    (decimals : Nat)
    (octets : Octets) :
    Served (PackedDuration.text decimals octets) := by
  rw [PackedDuration.text.eq_def]
  split
  · exact .ok _
  · exact (packedDuration _).bind fun packed => .ok _

theorem dateOfPacked (packed : PackedDateTime) : Served packed.date :=
  dateOfParts _ _ _

theorem dateTimeOfPacked (packed : PackedDateTime) : Served packed.dateTime := by
  refine (dateOfPacked packed).bind fun date => ?_
  split
  · exact .ok _
  · split
    · exact .ok _
    · exact .error rfl

end Served

/-! ## Field readers -/

/--
A field reader that keeps to a decision: it refuses all octets with one error, or it
refuses none.
-/
structure FieldReader.Applicability
    (reader : FieldReader Result)
    (refusal : ValueError)
    (isRefused : Prop) :
    Prop where
  refuses : isRefused → ∀ octets, reader.interpret octets = .error refusal
  serves : ¬ isRefused → ∀ octets, Served (reader.interpret octets)

namespace FieldReader.Applicability

variable {reader : FieldReader Result} {refusal : ValueError} {isRefused : Prop}

theorem of_refusing
    (decided : isRefused)
    (refuses : ∀ octets, reader.interpret octets = .error refusal) :
    reader.Applicability refusal isRefused :=
  ⟨fun _ => refuses, fun isServed => absurd decided isServed⟩

theorem of_serving
    (decided : ¬ isRefused)
    (serves : ∀ octets, Served (reader.interpret octets)) :
    reader.Applicability refusal isRefused :=
  ⟨fun refused => absurd refused decided, fun _ => serves⟩

theorem congr
    {alsoRefused : Prop}
    (applicability : reader.Applicability refusal isRefused)
    (same : isRefused ↔ alsoRefused) :
    reader.Applicability refusal alsoRefused := by
  rwa [← same]

theorem map
    {reader : FieldReader First}
    (applicability : reader.Applicability refusal isRefused)
    (change : First → Second) :
    (reader.map change).Applicability refusal isRefused where
  refuses refused octets := by
    rw [interpret_map, applicability.refuses refused octets]
    rfl
  serves isServed octets := (applicability.serves isServed octets).bind fun first => .ok _

theorem refuse
    (length : Nat)
    (type : ServerType)
    (label : String)
    (decided : isRefused) :
    (FieldReader.refuse length type label : FieldReader Result).Applicability
      (.incompatible type label) isRefused :=
  .of_refusing decided fun _ => rfl

end FieldReader.Applicability

namespace IntegerField

theorem served_interpretText
    {target : Target}
    (isServed : target ≠ .bytes)
    (shape : Shape)
    (literal : String) :
    Served (interpretText shape literal target) := by
  cases target with
  | boolean => exact .ok _
  | integer width =>
      exact (Served.parseWhole _).bind fun number =>
        (Served.checkSign shape number).bind fun number => .narrow width number
  | single => exact .parseSingle _
  | double => exact .parseDouble _
  | text => exact .ok _
  | decimal => exact .parseDecimal _ _
  | bytes => exact absurd rfl isServed
  | natural =>
      exact (Served.parseWhole _).bind fun number =>
        (Served.checkSign shape number).bind fun number => .ok _

theorem served_present
    {target : Target}
    (isServed : target ≠ .bytes)
    (shape : Shape)
    (number : Int) :
    Served (present shape number target) := by
  cases target with
  | integer width => exact .narrow width number
  | bytes => exact absurd rfl isServed
  | _ => exact .ok _

/-- A packed whole number of another width is malformed, and never of the wrong type. -/
theorem served_binaryReader
    {shape : Shape}
    (isInteger : shape.type.family = .integer)
    (length : Nat)
    (octets : Octets) :
    Served ((binaryReader shape length).interpret octets) := by
  rw [binaryReader]
  split
  · exact .error rfl
  · split
    · exact .ok _
    · rename_i hasNoGroups
      -- The six types of the family have groups, and the other types are of other families.
      cases type : shape.type with
      | tinyInt | smallInt | year | mediumInt | integer | bigInt =>
          rw [type] at hasNoGroups
          cases hasNoGroups
      | _ =>
          rw [type] at isInteger
          cases isInteger

theorem applicability_text
    (target : Target)
    (shape : Shape)
    (length : Nat) :
    (text target shape length).Applicability (shape.refusal target) (target = .bytes) where
  refuses := by
    rintro rfl octets
    rfl
  serves isServed octets := served_interpretText isServed shape _

theorem applicability_binary
    {shape : Shape}
    (isInteger : shape.type.family = .integer)
    (target : Target)
    (length : Nat) :
    (binary target shape length).Applicability (shape.refusal target) (target = .bytes) where
  refuses := by
    rintro rfl octets
    rfl
  serves isServed octets := by
    cases target with
    | bytes => exact absurd rfl isServed
    | _ =>
        exact (served_binaryReader isInteger length octets).bind fun number =>
          served_present isServed shape number

end IntegerField

namespace FloatField

theorem served_whole
    (shape : Shape)
    (width : IntegerWidth)
    (number : BinaryNumber) :
    Served (whole shape width number) :=
  (Served.wholePartOfBinary number).bind fun number =>
    (Served.checkSign shape number).bind fun number => .narrow width number

theorem served_interpretText
    {target : Target}
    (isServed : target ≠ .bytes)
    (shape : Shape)
    (literal : String) :
    Served (interpretText shape literal target) := by
  cases target with
  | boolean => exact (Served.parseDouble _).bind fun value => .ok _
  | integer width => exact (Served.parseDouble _).bind fun value => served_whole shape width _
  | single => exact .parseSingle _
  | double => exact .parseDouble _
  | text => exact .ok _
  | decimal => exact .parseDecimal _ _
  | bytes => exact absurd rfl isServed
  | natural =>
      rw [interpretText]
      split
      · exact (Served.parseSingle _).bind fun value => .ok _
      · exact (Served.parseDouble _).bind fun value => .ok _

theorem served_present
    {target : Target}
    (isServed : target ≠ .bytes)
    (shape : Shape)
    (pattern : Pattern) :
    Served (present shape pattern target) := by
  cases target with
  | integer width => exact served_whole shape width _
  | decimal =>
      rw [present, decimalOfText]
      split
      · exact .ok _
      · exact .error rfl
  | bytes => exact absurd rfl isServed
  | _ => exact .ok _

theorem served_patternReader
    {shape : Shape}
    (isFloat : shape.type.family = .float)
    (length : Nat)
    (octets : Octets) :
    Served ((patternReader shape length).interpret octets) := by
  rw [patternReader]
  split
  · exact .ok _
  · exact .ok _
  · rename_i notSingle notDouble
    cases type : shape.type with
    | float => exact absurd type notSingle
    | double => exact absurd type notDouble
    | _ =>
        rw [type] at isFloat
        cases isFloat

theorem served_exactReader
    {shape : Shape}
    (isFloat : shape.type.family = .float)
    (length : Nat)
    (octets : Octets) :
    Served ((exactReader shape length).interpret octets) := by
  rw [exactReader]
  split
  · exact .error rfl
  · exact served_patternReader isFloat length octets

theorem applicability_text
    (target : Target)
    (shape : Shape)
    (length : Nat) :
    (text target shape length).Applicability (shape.refusal target) (target = .bytes) where
  refuses := by
    rintro rfl octets
    rfl
  serves isServed octets := served_interpretText isServed shape _

theorem applicability_binary
    {shape : Shape}
    (isFloat : shape.type.family = .float)
    (target : Target)
    (length : Nat) :
    (binary target shape length).Applicability (shape.refusal target) (target = .bytes) where
  refuses := by
    rintro rfl octets
    rfl
  serves isServed octets := by
    cases target with
    | bytes => exact absurd rfl isServed
    | text | decimal | natural =>
        exact (served_patternReader isFloat length octets).bind fun pattern =>
          served_present isServed shape pattern
    | _ =>
        exact (served_exactReader isFloat length octets).bind fun pattern =>
          served_present isServed shape pattern

end FloatField

namespace DecimalField

theorem served_interpret
    {target : Target}
    (isServed : target ≠ .bytes)
    (shape : Shape)
    (literal : String) :
    Served (interpret shape literal target) := by
  cases target with
  | boolean => exact (Served.parseDecimal _ _).bind fun decimal => .ok _
  | integer width =>
      exact (Served.parseDecimal _ _).bind fun decimal =>
        (Served.wholePart decimal _).bind fun number =>
          (Served.checkSign shape number).bind fun number => .narrow width number
  | single => exact .parseSingle _
  | double => exact .parseDouble _
  | text => exact .ok _
  | decimal => exact .parseDecimal _ _
  | bytes => exact absurd rfl isServed
  | natural => exact (Served.parseDecimal _ _).bind fun decimal => .ok _

theorem applicability_reader
    (target : Target)
    (shape : Shape)
    (length : Nat) :
    (reader target shape length).Applicability (shape.refusal target) (target = .bytes) where
  refuses := by
    rintro rfl octets
    rfl
  serves isServed octets := served_interpret isServed shape _

end DecimalField

namespace BitField

theorem served_asLong (width : IntegerWidth) (number : Nat) : Served (asLong width number) :=
  .ite (.ok _) (.error rfl)

theorem served_narrow (width : IntegerWidth) (number : Nat) : Served (narrow width number) := by
  cases width with
  | byte => exact .ite (.ok _) (.error rfl)
  | short => exact (served_asLong .short number).bind fun long => .narrow .short long
  | int => exact (served_asLong .int number).bind fun long => .narrow .int long
  | long => exact served_asLong .long number

theorem applicability_reader
    (target : Target)
    (shape : Shape)
    (length : Nat) :
    (reader target shape length).Applicability (shape.refusal target)
      (target ∈ [.single, .double]) := by
  cases target with
  | single => exact .of_refusing (by decide) fun octets => rfl
  | double => exact .of_refusing (by decide) fun octets => rfl
  | integer width => exact .of_serving (by simp) fun octets => served_narrow width _
  | _ => exact .of_serving (by decide) fun octets => .ok _

end BitField

namespace CharacterField

theorem served_whole
    (protocol : Protocol)
    (shape : Shape)
    (width : IntegerWidth)
    (literal : String) :
    Served (whole protocol shape width literal) := by
  rw [whole.eq_def]
  split
  · rw [exactLong]
    split
    · exact (Served.checkSign shape _).bind fun number => .narrow .long number
    · exact .error rfl
  · refine Served.bind ?_ fun number => .narrow width number
    exact (Served.parseDecimal _ _).bind fun decimal =>
      (Served.wholePart decimal _).bind fun number => .checkSign shape number

theorem served_interpret
    (protocol : Protocol)
    (shape : Shape)
    (octets : Octets)
    (target : Target) :
    Served (interpret protocol shape octets target) := by
  cases target with
  | integer width => exact served_whole protocol shape width _
  | single => exact .parseSingle _
  | double => exact .parseDouble _
  | decimal => exact .parseDecimal _ _
  | _ => exact .ok _

theorem served_firstByte (octets : Octets) : Served (firstByte octets) := by
  cases octets with
  | nil => exact .error rfl
  | cons first rest => exact .ok _

theorem applicability_dataReader
    (target : Target)
    (shape : Shape)
    (length : Nat) :
    (dataReader target shape length).Applicability (shape.refusal target)
      (target ∈ Target.readFromText) := by
  cases target with
  | integer width =>
      cases width with
      | byte => exact .of_serving (by decide) fun octets => served_firstByte octets
      | _ => exact .refuse length _ _ (by decide)
  | text | bytes | natural => exact .of_serving (by decide) fun octets => .ok _
  | _ => exact .refuse length _ _ (by decide)

theorem applicability_string
    (protocol : Protocol)
    (target : Target)
    (shape : Shape)
    (length : Nat) :
    (string protocol target shape length).Applicability (shape.refusal target)
      (target ∈ Family.refusedTargets .string shape.isBinary) := by
  rw [string]
  cases isBinary : shape.isBinary with
  | true => exact applicability_dataReader target shape length
  | false =>
      exact .of_serving List.not_mem_nil fun octets =>
        served_interpret protocol shape octets target

theorem applicability_blob
    (protocol : Protocol)
    (target : Target)
    (shape : Shape)
    (length : Nat) :
    (blob protocol target shape length).Applicability (shape.refusal target)
      (target ∈ Family.refusedTargets .blob shape.isBinary) := by
  have asString (notShort : target ≠ .integer .short) :
      target ∈ Family.refusedTargets .string shape.isBinary ↔
        target ∈ Family.refusedTargets .blob shape.isBinary := by
    rw [Family.refusedTargets, Family.refusedTargets, List.mem_cons, or_iff_right notShort]
  cases target with
  | integer width =>
      cases width with
      | short => exact .refuse length _ _ List.mem_cons_self
      | _ => exact (applicability_string protocol _ shape length).congr (asString nofun)
  | _ => exact (applicability_string protocol _ shape length).congr (asString nofun)

end CharacterField

namespace TemporalField

/-- What a family of dates and times refuses: everything but text and its own values. -/
theorem mem_refusedTargets_iff (target : Target) :
    (target ∈ Target.all.filter fun target => target != .text && target != .natural) ↔
      target ≠ .text ∧ target ≠ .natural := by
  cases target with
  | integer width => cases width <;> decide
  | _ => decide

theorem applicability_date
    (protocol : Protocol)
    (target : Target)
    (shape : Shape)
    (length : Nat) :
    (date protocol target shape length).Applicability (shape.refusal target)
      (target ≠ .text ∧ target ≠ .natural) := by
  cases protocol with
  | text =>
      cases target with
      | text => exact .of_serving (by decide) fun octets => .ok _
      | natural =>
          exact .of_serving (by decide) fun octets =>
            (Served.parseDate _).bind fun date => .ok _
      | _ => exact .refuse length _ _ ⟨nofun, nofun⟩
  | binary =>
      cases target with
      | text => exact .of_serving (by decide) Served.textOfPackedDate
      | natural =>
          exact .of_serving (by decide) fun octets =>
            (Served.packedDateTime octets).bind fun packed =>
              (Served.dateOfPacked packed).bind fun date => .ok _
      | _ => exact .refuse length _ _ ⟨nofun, nofun⟩

theorem applicability_time
    (protocol : Protocol)
    (target : Target)
    (shape : Shape)
    (length : Nat) :
    (time protocol target shape length).Applicability (shape.refusal target)
      (target ≠ .text ∧ target ≠ .natural) := by
  cases protocol with
  | text =>
      cases target with
      | text | natural => exact .of_serving (by decide) fun octets => .ok _
      | _ => exact .refuse length _ _ ⟨nofun, nofun⟩
  | binary =>
      cases target with
      | text => exact .of_serving (by decide) (Served.textOfPackedDuration _)
      | natural =>
          exact .of_serving (by decide) fun octets =>
            (Served.textOfPackedDuration _ octets).bind fun text => .ok _
      | _ => exact .refuse length _ _ ⟨nofun, nofun⟩

theorem applicability_timestamp
    (protocol : Protocol)
    (target : Target)
    (shape : Shape)
    (offset : Option ZoneOffset)
    (length : Nat) :
    (timestamp protocol target shape offset length).Applicability (shape.refusal target)
      (target ≠ .text ∧ target ≠ .natural) := by
  cases protocol with
  | text =>
      cases target with
      | text => exact .of_serving (by decide) fun octets => .ok _
      | natural =>
          exact .of_serving (by decide) fun octets =>
            (Served.parseDateTime _).bind fun dateTime => .ok _
      | _ => exact .refuse length _ _ ⟨nofun, nofun⟩
  | binary =>
      cases target with
      | text =>
          exact .of_serving (by decide) fun octets =>
            (Served.packedDateTime octets).bind fun packed => .ok _
      | natural =>
          exact .of_serving (by decide) fun octets =>
            (Served.packedDateTime octets).bind fun packed =>
              (Served.dateTimeOfPacked packed).bind fun dateTime => .ok _
      | _ => exact .refuse length _ _ ⟨nofun, nofun⟩

end TemporalField

/-- The readers of all families keep to the table. -/
theorem Shape.applicability
    (shape : Shape)
    (encoding : Encoding)
    (target : Target)
    (length : Nat) :
    (shape.reader encoding target length).Applicability (shape.refusal target)
      (target ∈ shape.refusedTargets) := by
  rcases encoding with ⟨protocol, offset⟩
  rw [reader, refusedTargets]
  cases family : shape.type.family with
  | integer =>
      cases protocol with
      | text =>
          exact (IntegerField.applicability_text target shape length).congr
            List.mem_singleton.symm
      | binary =>
          exact (IntegerField.applicability_binary family target length).congr
            List.mem_singleton.symm
  | float =>
      cases protocol with
      | text =>
          exact (FloatField.applicability_text target shape length).congr
            List.mem_singleton.symm
      | binary =>
          exact (FloatField.applicability_binary family target length).congr
            List.mem_singleton.symm
  | decimal =>
      exact (DecimalField.applicability_reader target shape length).congr
        List.mem_singleton.symm
  | bit => exact BitField.applicability_reader target shape length
  | blob => exact CharacterField.applicability_blob protocol target shape length
  | string => exact CharacterField.applicability_string protocol target shape length
  | date =>
      exact (TemporalField.applicability_date protocol target shape length).congr
        (TemporalField.mem_refusedTargets_iff target).symm
  | time =>
      exact (TemporalField.applicability_time protocol target shape length).congr
        (TemporalField.mem_refusedTargets_iff target).symm
  | timestamp =>
      exact (TemporalField.applicability_timestamp protocol target shape offset length).congr
        (TemporalField.mem_refusedTargets_iff target).symm

/-! ## Refusals of framed fields -/

namespace FieldReader

variable {reader : FieldReader Result} {length : Nat} {start : Cursor} {error : ValueError}

/-- A refusal is seen when the packet has the octets that the reader takes. -/
theorem outcome_framed_of_refusing
    (refuses : ∀ octets, reader.interpret octets = .error error)
    (fits : reader.size ≤ start.remaining) :
    (Read.framed length reader.read).outcome start = .error (.value error) := by
  rw [Read.outcome, Read.run_framed_of_error (run_read_of_error fits (refuses _))]

/-- What is served fails in three ways, and none of them is a refusal. -/
theorem kind_of_outcome_framed
    (serves : ∀ octets, Served (reader.interpret octets))
    (fails : (Read.framed length reader.read).outcome start = .error (.value error)) :
    error.kind ≠ .incompatible := by
  rw [Read.outcome] at fails
  rcases Nat.lt_or_ge start.remaining reader.size with short | fits
  · obtain ⟨needed, taken, overruns⟩ := reader.run_read_of_lt short
    rw [Read.run_framed_of_error overruns] at fails
    cases fails
  · cases means : reader.interpret (start.rest.take reader.size) with
    | error other =>
        rw [Read.run_framed_of_error (run_read_of_error fits means)] at fails
        cases fails
        exact serves _ error means
    | ok result =>
        rw [Read.run_framed_of_ok fits (run_read_of_ok fits means)] at fails
        by_cases exact : reader.size = length
        · rw [if_pos exact] at fails
          cases fails
        · rw [if_neg exact] at fails
          cases fails
          exact ne_of_beq_false rfl

end FieldReader

/-- What a column refuses is taken at its announced length, also by floating-point families. -/
theorem Shape.ignoresLength_of_refused
    {shape : Shape}
    {target : Target}
    (refused : target ∈ shape.refusedTargets)
    (encoding : Encoding) :
    shape.ignoresLength encoding target = false := by
  by_cases isFloat : shape.type.family = .float
  · rw [refusedTargets, isFloat] at refused
    cases List.mem_singleton.mp refused
    simp [ignoresLength]
  · simp [ignoresLength, isFloat]

namespace Column

variable {column : Column} {target : Target} {length : Nat} {start : Cursor}

theorem outcome_decode_of_refused
    (encoding : Encoding)
    (refused : target ∈ column.shape.refusedTargets)
    (fits : length ≤ start.remaining) :
    (column.decode encoding target length).outcome start =
      .error (.value (column.shape.refusal target)) := by
  have applicability := column.shape.applicability encoding target length
  have exact : (column.valueReader encoding target length).size = length := by
    rw [size_valueReader, extent_eq_length (Shape.ignoresLength_of_refused refused encoding)]
  rw [decode_eq_framed]
  exact FieldReader.outcome_framed_of_refusing
    ((applicability.map target.toValue).refuses refused) (exact.symm ▸ fits)

theorem refused_of_outcome_decode
    {encoding : Encoding}
    {error : ValueError}
    (fails : (column.decode encoding target length).outcome start = .error (.value error))
    (isRefusal : error.kind = .incompatible) :
    target ∈ column.shape.refusedTargets ∧ length ≤ start.remaining := by
  have applicability := column.shape.applicability encoding target length
  have refused : target ∈ column.shape.refusedTargets := by
    by_contra isServed
    rw [decode_eq_framed] at fails
    exact FieldReader.kind_of_outcome_framed
      ((applicability.map target.toValue).serves isServed) fails isRefusal
  refine ⟨refused, ?_⟩
  rw [← extent_eq_length (Shape.ignoresLength_of_refused refused encoding) length]
  exact (isValue_decode_iff fails).mp rfl

end Column

/--
Decoding is refused exactly for the representations of the table, whatever the octets
are, as long as the packet has them; and a refusal names the type and the
representation.
-/
theorem decode_is_refused_iff
    (column : Column)
    (encoding : Encoding)
    (target : Target)
    (length : Nat)
    (start : Cursor) :
    ((∃ fault,
      (column.decode encoding target length).outcome start = .error fault ∧
        fault.valueKind? = some .incompatible) ↔
      target ∈ column.shape.refusedTargets ∧ length ≤ start.remaining) ∧
      ((column.decode encoding target length).outcome start =
          .error (.value (column.shape.refusal target)) ↔
        target ∈ column.shape.refusedTargets ∧ length ≤ start.remaining) := by
  constructor
  · constructor
    · rintro ⟨fault, fails, isRefusal⟩
      cases fault with
      | value error => exact Column.refused_of_outcome_decode fails (Option.some.inj isRefusal)
      | _ => cases isRefusal
    · rintro ⟨refused, fits⟩
      exact ⟨_, Column.outcome_decode_of_refused encoding refused fits, rfl⟩
  · constructor
    · intro fails
      exact Column.refused_of_outcome_decode fails rfl
    · rintro ⟨refused, fits⟩
      exact Column.outcome_decode_of_refused encoding refused fits

end ResultSet
