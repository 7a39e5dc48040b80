import ResultSet.Field.Literal
import ResultSet.Field.Reader

namespace ResultSet

/-!
# Fields of numbers

In text a whole number is a literal.  In binary it is a number of the width of
the column type, signed or not as the column is; the fourth octet of a medium
integer carries nothing.  A decimal fraction is a literal in both protocols.

In text a floating-point value is a literal, rounded straight to the format asked
for.  In binary it is a bit pattern of the format of the column type.  Whole
numbers are made of fractions by dropping the digits behind the point.

A bit string is sent in as many octets as it needs, most significant octet
first, in both protocols.
-/

/-! ## Whole numbers -/

namespace IntegerField

/-- What a literal of a whole number is in a representation. -/
def interpretText
    (shape : Shape)
    (literal : String) :
    (target : Target) → Except ValueError target.Result
  | .boolean => .ok (literal != "0")
  | .integer width => do width.narrow (← shape.checkSign (← parseWhole literal))
  | .single => parseSingle literal
  | .double => parseDouble literal
  | .text => .ok literal
  | .decimal => parseDecimal literal Target.decimal.label
  | .bytes => .error (.incompatible shape.type Target.bytes.label)
  | .natural => do
      return naturalInteger (← shape.checkSign (← parseWhole literal))

/-- What a whole number is in a representation. -/
def present
    (shape : Shape)
    (number : Int) :
    (target : Target) → Except ValueError target.Result
  | .boolean => .ok (number != 0)
  | .integer width => width.narrow number
  | .single => .ok (Single.ofInt number)
  | .double => .ok (Double.ofInt number)
  | .text => .ok (Numeral.ofInt number)
  | .decimal => .ok (Decimal.ofInt number)
  | .bytes => .error (.incompatible shape.type Target.bytes.label)
  | .natural => .ok (naturalInteger number)

/-- The groups of a binary number: the octets that count, and those that do not. -/
def binaryGroups? : ServerType → Option (List Nat)
  | .tinyInt => some [1]
  | .smallInt | .year => some [2]
  | .mediumInt => some [3, 1]
  | .integer => some [4]
  | .bigInt => some [8]
  | _ => none

/-- The number spelled by the octets that count. -/
def binaryNumber
    (shape : Shape)
    (octets : Octets) :
    Int :=
  if shape.isSigned then
    Octets.signedLittleEndian octets
  else
    Octets.littleEndian octets

/-- Take a binary number of the width of the column type. -/
def binaryReader
    (shape : Shape)
    (length : Nat) :
    FieldReader Int :=
  match shape.type.binaryWidth?.filter (· != length) with
  | some expected => .fail length (.width shape.type length expected)
  | none =>
      match binaryGroups? shape.type with
      | some groups =>
          ⟨groups, fun octets => .ok (binaryNumber shape (octets.take (groups.headD 0)))⟩
      | none => .refuse length shape.type IntegerWidth.int.label

/-- Read a literal of a whole number. -/
def text
    (target : Target)
    (shape : Shape)
    (length : Nat) :
    FieldReader target.Result :=
  .text length fun literal => interpretText shape literal target

/-- Read a binary whole number. -/
def binary
    (target : Target)
    (shape : Shape)
    (length : Nat) :
    FieldReader target.Result :=
  match target with
  | .bytes => .refuse length shape.type Target.bytes.label
  | target => (binaryReader shape length).bind fun number => present shape number target

end IntegerField

/-! ## Decimal fractions -/

namespace DecimalField

/-- What a literal of a decimal fraction is in a representation. -/
def interpret
    (shape : Shape)
    (literal : String) :
    (target : Target) → Except ValueError target.Result
  | .boolean => do
      return (← parseDecimal literal Target.boolean.label).truncated != 0
  | .integer width => do
      let decimal ← parseDecimal literal width.label
      width.narrow (← shape.checkSign (← wholePart decimal literal))
  | .single => parseSingle literal
  | .double => parseDouble literal
  | .text => .ok literal
  | .decimal => parseDecimal literal Target.decimal.label
  | .bytes => .error (.incompatible shape.type Target.bytes.label)
  | .natural => do
      return .decimal (← parseDecimal literal Target.decimal.label)

/-- Read a literal of a decimal fraction. -/
def reader
    (target : Target)
    (shape : Shape)
    (length : Nat) :
    FieldReader target.Result :=
  .text length fun literal => interpret shape literal target

end DecimalField

/-! ## Floating-point values -/

namespace FloatField

/-- A bit pattern of one of the two formats. -/
inductive Pattern where
  | single (value : Single)
  | double (value : Double)
  deriving Repr, DecidableEq

namespace Pattern

/-- What a pattern stands for. -/
def number : Pattern → BinaryNumber
  | single value => value.number
  | double value => value.number

/-- The single nearest to a pattern. -/
def toSingle : Pattern → Single
  | single value => value
  | double value => value.toSingle

/-- The double of a pattern. -/
def toDouble : Pattern → Double
  | single value => Double.ofSingle value
  | double value => value

/-- The shortest text of a pattern in its own format. -/
def render : Pattern → String
  | single value => value.render
  | double value => value.render

/-- A pattern as a value. -/
def toValue : Pattern → Value
  | single value => .single value
  | double value => .double value

end Pattern

/-- A floating-point value as a whole number from a column. -/
def whole
    (shape : Shape)
    (width : IntegerWidth)
    (number : BinaryNumber) :
    Except ValueError Int := do
  width.narrow (← shape.checkSign (← number.wholePart))

/-- What a literal of a floating-point value is in a representation. -/
def interpretText
    (shape : Shape)
    (literal : String) :
    (target : Target) → Except ValueError target.Result
  | .boolean => do
      return !(← parseDouble literal).number.isZero
  | .integer width => do
      whole shape width (← parseDouble literal).number
  | .single => parseSingle literal
  | .double => parseDouble literal
  | .text => .ok literal
  | .decimal => parseDecimal literal Target.decimal.label
  | .bytes => .error (.incompatible shape.type Target.bytes.label)
  | .natural =>
      match shape.type with
      | .float => do return .single (← parseSingle literal)
      | _ => do return .double (← parseDouble literal)

/-- The decimal fraction of the shortest text of a value. -/
def decimalOfText (text : String) : Except ValueError Decimal :=
  match Decimal.ofLiteral? text.toList with
  | some decimal => .ok decimal
  | none => .error (.notDecimal text)

/-- What a bit pattern is in a representation. -/
def present
    (shape : Shape)
    (pattern : Pattern) :
    (target : Target) → Except ValueError target.Result
  | .boolean => .ok !pattern.number.isZero
  | .integer width => whole shape width pattern.number
  | .single => .ok pattern.toSingle
  | .double => .ok pattern.toDouble
  | .text => .ok pattern.render
  | .decimal => decimalOfText pattern.render
  | .bytes => .error (.incompatible shape.type Target.bytes.label)
  | .natural => .ok pattern.toValue

/-- Take a bit pattern of the format of the column type, whatever length was announced. -/
def patternReader
    (shape : Shape)
    (length : Nat) :
    FieldReader Pattern :=
  match shape.type with
  | .float =>
      ⟨[4], fun octets => .ok (.single (Single.ofBits (Octets.littleEndian octets)))⟩
  | .double =>
      ⟨[8], fun octets => .ok (.double (Double.ofBits (Octets.littleEndian octets)))⟩
  | type => .refuse length type Target.double.label

/-- Take a bit pattern of the format of the column type and of the announced length. -/
def exactReader
    (shape : Shape)
    (length : Nat) :
    FieldReader Pattern :=
  match shape.type.binaryWidth?.filter (· != length) with
  | some expected => .fail length (.width shape.type length expected)
  | none => patternReader shape length

/-- Read a literal of a floating-point value. -/
def text
    (target : Target)
    (shape : Shape)
    (length : Nat) :
    FieldReader target.Result :=
  .text length fun literal => interpretText shape literal target

/--
Read a binary floating-point value.  The text, the decimal fraction and the
natural representation are those of the bit pattern itself and do not look at the
announced length.
-/
def binary
    (target : Target)
    (shape : Shape)
    (length : Nat) :
    FieldReader target.Result :=
  match target with
  | .bytes => .refuse length shape.type Target.bytes.label
  | .text => (patternReader shape length).bind fun pattern => present shape pattern .text
  | .decimal => (patternReader shape length).bind fun pattern => present shape pattern .decimal
  | .natural => (patternReader shape length).bind fun pattern => present shape pattern .natural
  | target => (exactReader shape length).bind fun pattern => present shape pattern target

end FloatField

/-! ## Bit strings -/

namespace BitField

/-- The bits of an octet, most significant first. -/
def octetBits (octet : UInt8) : List Bool :=
  [7, 6, 5, 4, 3, 2, 1, 0].map octet.toNat.testBit

/-- The literal of a bit string, without zeros in front. -/
def literal (octets : Octets) : String :=
  let bits := (octets.flatMap octetBits).dropWhile (· == false)
  "b'" ++ String.ofList (bits.map fun bit => if bit then '1' else '0') ++ "'"

/-- The number whose eight bits are those of a two's complement octet. -/
def signedOctet (number : Nat) : Int :=
  if number < 128 then number else (number : Int) - 256

/-- The number of a bit string if it fits the widest width; the width asked for refuses others. -/
def asLong
    (width : IntegerWidth)
    (number : Nat) :
    Except ValueError Int :=
  if IntegerWidth.long.fits number then
    .ok number
  else
    .error (.tooWide width number)

/--
A bit string as a whole number.  At the width of an octet the bits count, not the number;
at the widths between, the number is taken at the widest one first.
-/
def narrow
    (width : IntegerWidth)
    (number : Nat) :
    Except ValueError Int :=
  match width with
  | .byte =>
      if number < 256 then .ok (signedOctet number) else .error (.tooWide .byte number)
  | .short => do IntegerWidth.short.narrow (← asLong .short number)
  | .int => do IntegerWidth.int.narrow (← asLong .int number)
  | .long => asLong .long number

/-- What the octets of a bit string are in a representation. -/
def interpret
    (shape : Shape)
    (octets : Octets) :
    (target : Target) → Except ValueError target.Result
  | .boolean => .ok (octets.any (· != 0))
  | .integer width => narrow width (Octets.bigEndian octets)
  | .single => .error (.incompatible shape.type Target.single.label)
  | .double => .error (.incompatible shape.type Target.double.label)
  | .text => .ok (literal octets)
  | .decimal => .ok (Decimal.ofInt (Octets.bigEndian octets))
  | .bytes => .ok octets
  | .natural =>
      .ok (if shape.length = 1 then .boolean (octets.any (· != 0)) else .bytes octets)

/-- Read a bit string. -/
def reader
    (target : Target)
    (shape : Shape)
    (length : Nat) :
    FieldReader target.Result :=
  .whole length fun octets => interpret shape octets target

end BitField

end ResultSet
