import Mathlib.Data.List.Forall2
import ResultSet.Application.Temporal
import ResultSet.Proofs.Field.Consumption
import ResultSet.Proofs.Field.Row

namespace ResultSet

/-!
# Equal columns are interchangeable

Columns are compared by their shapes, so that result sets whose columns have the same
shapes can share what decodes them.  This is sound because nothing that a column is
asked for looks further: columns that are equal decode every field alike, from every
place of every packet, whatever they are called and wherever their definitions stand.
And it is not too coarse: columns that are not equal feed different data to a hash
function.
-/

namespace Column

/-- Two columns of which each does in every respect what the other does. -/
structure Interchangeable (first second : Column) : Prop where
  hashParts : first.hashParts = second.hashParts
  decode :
    ∀ encoding target length start,
      (first.decode encoding target length).run start =
        (second.decode encoding target length).run start
  decodeTyped :
    ∀ encoding length target start,
      (first.decodeTyped encoding length target).run start =
        (second.decodeTyped encoding length target).run start
  /-- Framed and unframed, for `read` is what `Codec.decode` puts a frame around. -/
  date :
    ∀ encoding length start,
      (dateCodec.decode first encoding length).run start =
          (dateCodec.decode second encoding length).run start ∧
        (dateCodec.read first encoding length).run start =
          (dateCodec.read second encoding length).run start
  dateTime :
    ∀ encoding length start,
      (dateTimeCodec.decode first encoding length).run start =
          (dateTimeCodec.decode second encoding length).run start ∧
        (dateTimeCodec.read first encoding length).run start =
          (dateTimeCodec.read second encoding length).run start
  canDecode :
    ∀ requested,
      dateCodec.canDecode first requested = dateCodec.canDecode second requested ∧
        dateTimeCodec.canDecode first requested = dateTimeCodec.canDecode second requested
  displaySize : first.shape.displaySize = second.shape.displaySize

/-! ## What equality looks at -/

theorem beq_iff_shape
    {first second : Column} :
    (first == second) = true ↔ first.shape = second.shape :=
  beq_iff_eq (a := first.shape)

/-- Columns feed the same data to a hash function exactly when their shapes are the same. -/
theorem hashParts_eq_iff
    {first second : Column} :
    first.hashParts = second.hashParts ↔ first.shape = second.shape := by
  constructor
  · intro same
    simp only [hashParts, List.cons.injEq, HashPart.short.injEq, HashPart.word.injEq,
      HashPart.choice.injEq, HashPart.octet.injEq, and_true] at same
    obtain ⟨collation, length, place, decimals, flags⟩ := same
    have type : first.shape.type = second.shape.type :=
      (List.idxOf_inj (ServerType.mem_all _)).mp place
    rcases first with ⟨_, _, _, shape⟩
    rcases second with ⟨_, _, _, otherShape⟩
    cases shape
    cases otherShape
    simp_all only
  · intro same
    rw [hashParts, hashParts, same]

/-- Column equality is an equivalence, for it is equality of shapes. -/
instance : EquivBEq Column where
  rfl := beq_iff_shape.mpr rfl
  symm equal := beq_iff_shape.mpr (beq_iff_shape.mp equal).symm
  trans equal alsoEqual :=
    beq_iff_shape.mpr ((beq_iff_shape.mp equal).trans (beq_iff_shape.mp alsoEqual))

instance : LawfulHashable Column where
  hash_eq first second equal := by
    have same : first.hashParts = second.hashParts :=
      hashParts_eq_iff.mpr (beq_iff_shape.mp equal)
    exact congrArg (hash : List HashPart → UInt64) same

/-! ## What decoding looks at -/

variable {first second : Column}

theorem decodeAs_eq_of_shape
    (sameShape : first.shape = second.shape)
    (encoding : Encoding)
    (target : Target)
    (length : Nat) :
    first.decodeAs encoding target length = second.decodeAs encoding target length := by
  rw [decodeAs, decodeAs, sameShape]

theorem decode_eq_of_shape
    (sameShape : first.shape = second.shape)
    (encoding : Encoding)
    (target : Target)
    (length : Nat) :
    first.decode encoding target length = second.decode encoding target length := by
  rw [decode, decode, decodeAs_eq_of_shape sameShape]

theorem decodeTyped_eq_of_shape
    (sameShape : first.shape = second.shape)
    (encoding : Encoding)
    (length : Nat)
    (target : Target) :
    first.decodeTyped encoding length target = second.decodeTyped encoding length target := by
  cases target <;> exact decodeAs_eq_of_shape sameShape _ _ length

end Column

theorem Codec.read_eq_of_shape
    {type : ApplicationType}
    {first second : Column}
    (codec : Codec type)
    (sameShape : first.shape = second.shape)
    (encoding : Encoding)
    (length : Nat) :
    codec.read first encoding length = codec.read second encoding length := by
  rw [read, read, sameShape]

theorem Codec.decode_eq_of_shape
    {type : ApplicationType}
    {first second : Column}
    (codec : Codec type)
    (sameShape : first.shape = second.shape)
    (encoding : Encoding)
    (length : Nat) :
    codec.decode first encoding length = codec.decode second encoding length := by
  rw [decode, decode, codec.read_eq_of_shape sameShape]

theorem Codec.canDecode_eq_of_shape
    {type : ApplicationType}
    {first second : Column}
    (codec : Codec type)
    (sameShape : first.shape = second.shape)
    (requested : ApplicationType) :
    codec.canDecode first requested = codec.canDecode second requested := by
  rw [canDecode, canDecode, sameShape]

/-! ## Rows -/

/-- A cell that is asked for by way of another column. -/
def Cell.withColumn (cell : Cell) (column : Column) : Cell :=
  { cell with column := column }

/-- The first column of a table that is equal to a column, or the column itself. -/
def Column.shared (table : List Column) (column : Column) : Column :=
  (table.find? (· == column)).getD column

theorem Column.shape_shared
    (table : List Column)
    (column : Column) :
    (column.shared table).shape = column.shape := by
  rw [shared]
  cases found : table.find? (· == column) with
  | none => rfl
  | some other =>
      have equal : (other == column) = true := List.find?_some (p := (· == column)) found
      exact beq_iff_shape.mp equal

/-- A row is read alike when each of its columns is replaced by an equal one from a table. -/
theorem Row.read_shared
    (table : List Column)
    (cells : List Cell) :
    read (cells.map fun cell => cell.withColumn (cell.column.shared table)) = read cells := by
  have each (cell : Cell) :
      (cell.withColumn (cell.column.shared table)).read = cell.read := by
    rw [Cell.read, Cell.read]
    congr 1
    funext length
    exact Column.decode_eq_of_shape (cell.column.shape_shared table) _ _ length
  rw [read, read, List.mapM_map]
  congr 1
  funext cell
  exact congrArg Read.attempt (each cell)

/--
Columns are equal exactly when they are interchangeable: whatever a column is asked
for, an equal one answers the same and leaves the cursor at the same place, and columns
that are not equal are told apart by what they feed to a hash function.
-/
theorem equal_columns_are_interchangeable
    (first second : Column) :
    (first == second) = true ↔ first.Interchangeable second := by
  rw [Column.beq_iff_shape]
  constructor
  · intro sameShape
    exact
      { hashParts := Column.hashParts_eq_iff.mpr sameShape
        decode := fun encoding target length start =>
          congrArg (·.run start) (Column.decode_eq_of_shape sameShape encoding target length)
        decodeTyped := fun encoding length target start =>
          congrArg (·.run start) (Column.decodeTyped_eq_of_shape sameShape encoding length target)
        date := fun encoding length start =>
          ⟨congrArg (·.run start) (dateCodec.decode_eq_of_shape sameShape encoding length),
            congrArg (·.run start) (dateCodec.read_eq_of_shape sameShape encoding length)⟩
        dateTime := fun encoding length start =>
          ⟨congrArg (·.run start) (dateTimeCodec.decode_eq_of_shape sameShape encoding length),
            congrArg (·.run start) (dateTimeCodec.read_eq_of_shape sameShape encoding length)⟩
        canDecode := fun requested =>
          ⟨dateCodec.canDecode_eq_of_shape sameShape requested,
            dateTimeCodec.canDecode_eq_of_shape sameShape requested⟩
        displaySize := congrArg Shape.displaySize sameShape }
  · intro interchangeable
    exact Column.hashParts_eq_iff.mp interchangeable.hashParts

end ResultSet
