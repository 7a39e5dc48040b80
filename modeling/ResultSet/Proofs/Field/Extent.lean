import ResultSet.Field.Decode
import ResultSet.Proofs.Field.Framing

namespace ResultSet

/-!
# The octets that a decoder takes

Every family takes as many octets as were announced, with one exception: binary
floating-point values as text, as a decimal fraction or in their natural
representation are taken at the width of their type, whatever was announced.
-/

/-- A width that is not refused as different from the announced length is that length. -/
theorem ServerType.binaryWidth_eq_of_filter
    {type : ServerType}
    {width length : Nat}
    (hasWidth : type.binaryWidth? = some width)
    (notRefused : type.binaryWidth?.filter (· != length) = none) :
    width = length := by
  rw [hasWidth, Option.filter_some] at notRefused
  by_cases same : width = length
  · exact same
  · simp [same] at notRefused

namespace IntegerField

/-- The groups of a binary number make up the width of its type. -/
theorem binaryWidth_eq_sum
    {type : ServerType}
    {groups : List Nat}
    (hasGroups : binaryGroups? type = some groups) :
    type.binaryWidth? = some groups.sum := by
  cases type <;> cases hasGroups <;> rfl

theorem size_binaryReader
    (shape : Shape)
    (length : Nat) :
    (binaryReader shape length).size = length := by
  rw [binaryReader]
  split
  · exact FieldReader.size_fail length _
  · rename_i notRefused
    split
    · rename_i groups hasGroups
      exact ServerType.binaryWidth_eq_of_filter (binaryWidth_eq_sum hasGroups) notRefused
    · exact FieldReader.size_refuse length _ _

theorem size_binary
    (target : Target)
    (shape : Shape)
    (length : Nat) :
    (binary target shape length).size = length := by
  cases target with
  | bytes => exact FieldReader.size_refuse length _ _
  | _ => exact size_binaryReader shape length

end IntegerField

namespace FloatField

theorem size_patternReader
    {shape : Shape}
    (isFloat : shape.type.family = .float)
    (length : Nat) :
    shape.type.binaryWidth? = some (patternReader shape length).size := by
  rcases shape with ⟨collation, columnLength, type, flags, decimals⟩
  cases type with
  | float => rfl
  | double => rfl
  | _ => cases isFloat

theorem size_exactReader
    {shape : Shape}
    (isFloat : shape.type.family = .float)
    (length : Nat) :
    (exactReader shape length).size = length := by
  rw [exactReader]
  split
  · exact FieldReader.size_fail length _
  · rename_i notRefused
    exact ServerType.binaryWidth_eq_of_filter (size_patternReader isFloat length) notRefused

end FloatField

namespace CharacterField

theorem size_dataReader
    (target : Target)
    (shape : Shape)
    (length : Nat) :
    (dataReader target shape length).size = length := by
  cases target with
  | integer width =>
      cases width with
      | byte =>
          by_cases isEmpty : length = 0
          · simp [dataReader, FieldReader.size, isEmpty]
          · simp only [dataReader, FieldReader.size, isEmpty, ↓reduceIte, List.sum_cons,
              List.sum_nil]
            omega
      | _ => exact FieldReader.size_refuse length _ _
  | text => exact FieldReader.size_text length _
  | bytes => exact FieldReader.size_whole length _
  | natural => exact FieldReader.size_whole length _
  | _ => exact FieldReader.size_refuse length _ _

theorem size_string
    (protocol : Protocol)
    (target : Target)
    (shape : Shape)
    (length : Nat) :
    (string protocol target shape length).size = length := by
  by_cases isBinary : shape.isBinary = true
  · rw [string, if_pos isBinary]
    exact size_dataReader target shape length
  · rw [string, if_neg isBinary]
    exact FieldReader.size_whole length _

theorem size_blob
    (protocol : Protocol)
    (target : Target)
    (shape : Shape)
    (length : Nat) :
    (blob protocol target shape length).size = length := by
  cases target with
  | integer width =>
      cases width with
      | short => exact FieldReader.size_refuse length _ _
      | _ => exact size_string protocol _ shape length
  | _ => exact size_string protocol _ shape length

end CharacterField

namespace TemporalField

theorem sum_clockGroups (length : Nat) : (PackedClock.groups length).sum = length := by
  rw [PackedClock.groups]
  repeat' split
  all_goals
    simp only [List.sum_cons, List.sum_nil]
    omega

/-- The groups of a packed value take all of its octets. -/
theorem sum_groupsBehind
    {first : Nat}
    {front : List Nat}
    (total : front.sum = first)
    (length : Nat) :
    (PackedClock.groupsBehind first front length).sum = length := by
  rw [PackedClock.groupsBehind]
  split
  · exact List.sum_singleton
  · rw [List.sum_append, total, sum_clockGroups]
    omega

theorem sum_dateGroups (length : Nat) : (PackedDateTime.groups length).sum = length :=
  sum_groupsBehind (rfl : [2, 1, 1].sum = 4) length

theorem size_packedReader (length : Nat) : (packedReader length).size = length :=
  sum_dateGroups length

theorem size_packedDateTextReader (length : Nat) : (packedDateTextReader length).size = length :=
  sum_dateGroups length

theorem size_durationReader
    (shape : Shape)
    (length : Nat) :
    (durationReader shape length).size = length :=
  sum_groupsBehind (rfl : [1, 4].sum = 5) length

theorem size_date
    (protocol : Protocol)
    (target : Target)
    (shape : Shape)
    (length : Nat) :
    (date protocol target shape length).size = length := by
  cases protocol with
  | text => cases target <;> exact FieldReader.size_whole length _
  | binary =>
      cases target with
      | text => exact size_packedDateTextReader length
      | natural => exact size_packedReader length
      | _ => exact FieldReader.size_refuse length _ _

theorem size_time
    (protocol : Protocol)
    (target : Target)
    (shape : Shape)
    (length : Nat) :
    (time protocol target shape length).size = length := by
  cases protocol with
  | text => cases target <;> exact FieldReader.size_whole length _
  | binary =>
      cases target with
      | text | natural => exact size_durationReader shape length
      | _ => exact FieldReader.size_refuse length _ _

theorem size_timestamp
    (protocol : Protocol)
    (target : Target)
    (shape : Shape)
    (offset : Option ZoneOffset)
    (length : Nat) :
    (timestamp protocol target shape offset length).size = length := by
  cases protocol with
  | text => cases target <;> exact FieldReader.size_whole length _
  | binary =>
      cases target with
      | text | natural => exact size_packedReader length
      | _ => exact FieldReader.size_refuse length _ _

end TemporalField

namespace Shape

/-- Whether a field is taken at the width of its type, whatever length was announced. -/
def ignoresLength
    (shape : Shape)
    (encoding : Encoding)
    (target : Target) :
    Bool :=
  shape.type.family == .float && encoding.protocol == .binary &&
    (target == .text || target == .decimal || target == .natural)

/-- How many octets of an announced length a field takes. -/
def extent
    (shape : Shape)
    (encoding : Encoding)
    (target : Target)
    (length : Nat) :
    Nat :=
  if shape.ignoresLength encoding target then
    shape.type.binaryWidth?.getD length
  else
    length

/-- All families but the floating-point one heed the announced length. -/
theorem heedsLength_of_not_float
    {shape : Shape}
    (isNotFloat : shape.type.family ≠ .float)
    (encoding : Encoding)
    (target : Target) :
    shape.ignoresLength encoding target = false := by
  simp [ignoresLength, isNotFloat]

theorem heedsLength_of_isInteger
    {shape : Shape}
    (isInteger : shape.type.family = .integer)
    (encoding : Encoding)
    (target : Target) :
    shape.ignoresLength encoding target = false :=
  heedsLength_of_not_float (by rw [isInteger]; decide) encoding target

theorem size_float
    {shape : Shape}
    (isFloat : shape.type.family = .float)
    (encoding : Encoding)
    (target : Target)
    (length : Nat) :
    (shape.reader encoding target length).size = shape.extent encoding target length := by
  have width := FloatField.size_patternReader isFloat length
  rcases encoding with ⟨protocol, offset⟩
  rw [reader, isFloat, extent, ignoresLength, isFloat, width]
  cases protocol with
  | text => exact FieldReader.size_text length _
  | binary =>
      cases target with
      | bytes => exact FieldReader.size_refuse length _ _
      | text | decimal | natural => rfl
      | _ => exact FloatField.size_exactReader isFloat length

/-- A decoder takes the extent of its field. -/
theorem size_reader
    (shape : Shape)
    (encoding : Encoding)
    (target : Target)
    (length : Nat) :
    (shape.reader encoding target length).size = shape.extent encoding target length := by
  by_cases isFloat : shape.type.family = .float
  · exact size_float isFloat encoding target length
  · rw [reader, extent, heedsLength_of_not_float isFloat]
    rcases encoding with ⟨protocol, offset⟩
    cases family : shape.type.family with
    | float => exact absurd family isFloat
    | integer =>
        cases protocol with
        | text => exact FieldReader.size_text length _
        | binary => exact IntegerField.size_binary target shape length
    | decimal => exact FieldReader.size_text length _
    | bit => exact FieldReader.size_whole length _
    | blob => exact CharacterField.size_blob protocol target shape length
    | string => exact CharacterField.size_string protocol target shape length
    | date => exact TemporalField.size_date protocol target shape length
    | time => exact TemporalField.size_time protocol target shape length
    | timestamp => exact TemporalField.size_timestamp protocol target shape offset length

end Shape

end ResultSet
