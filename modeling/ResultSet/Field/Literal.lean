import ResultSet.Column.Shape
import ResultSet.Fault
import ResultSet.Number.Binary.Literal
import ResultSet.Text.Literal
import ResultSet.Value

namespace ResultSet

/-!
# Numbers in fields

Literals of numbers may be surrounded by blanks.  Whole numbers are read at full
width first; only then are the signedness of the column and the width asked for
looked at, in this order.
-/

/-- The bits at which whole numbers are read before they are narrowed. -/
def fullWidth : Nat := 128

/-- The whole number that a literal spells. -/
def parseWhole (literal : String) : Except ValueError Int :=
  match Numeral.signedWithin? fullWidth (Text.trim literal.toList) with
  | some number => .ok number
  | none => .error (.literal literal "integer")

/-- The decimal fraction that a literal spells. -/
def parseDecimal
    (literal label : String) :
    Except ValueError Decimal :=
  match Decimal.ofLiteral? (Text.trim literal.toList) with
  | some decimal => .ok decimal
  | none => .error (.literal literal label)

/-- The single that a literal spells. -/
def parseSingle (literal : String) : Except ValueError Single :=
  match Single.ofLiteral? (Text.trim literal.toList) with
  | some value => .ok value
  | none => .error (.literal literal "Float")

/-- The double that a literal spells. -/
def parseDouble (literal : String) : Except ValueError Double :=
  match Double.ofLiteral? (Text.trim literal.toList) with
  | some value => .ok value
  | none => .error (.literal literal "Double")

/-- Refuse negative numbers from a column without signs. -/
def Shape.checkSign
    (shape : Shape)
    (number : Int) :
    Except ValueError Int :=
  if number < 0 ∧ shape.isSigned = false then
    .error (.negative number)
  else
    .ok number

/-- Refuse numbers that do not fit a width. -/
def IntegerWidth.narrow
    (width : IntegerWidth)
    (number : Int) :
    Except ValueError Int :=
  if width.fits number then
    .ok number
  else
    .error (.tooWide width number)

/-- The whole part of a fraction that a literal spells, if it is not too large. -/
def wholePart
    (decimal : Decimal)
    (literal : String) :
    Except ValueError Int :=
  if IntegerWidth.long.fits decimal.truncated then
    .ok decimal.truncated
  else
    .error (.inexact literal)

/-- The least whole number that fits a width of 128 bits. -/
def leastFullWidth : Int := -2 ^ (fullWidth - 1)

/-- The greatest whole number that fits a width of 128 bits. -/
def greatestFullWidth : Int := 2 ^ (fullWidth - 1) - 1

/--
The whole part of a floating-point value.  A value beyond the full width gives
the nearest number of that width.
-/
def BinaryNumber.wholePart (number : BinaryNumber) : Except ValueError Int :=
  match number.truncated? with
  | some whole => .ok (max leastFullWidth (min whole greatestFullWidth))
  | none => .error (.notFinite number)

/-- A whole number in its natural representation: the narrowest of three that holds it. -/
def naturalInteger (number : Int) : Value :=
  if IntegerWidth.int.fits number then
    .integer .int number
  else if IntegerWidth.long.fits number then
    .integer .long number
  else
    .decimal (Decimal.ofInt number)

end ResultSet
