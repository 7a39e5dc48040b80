import ResultSet.Calendar.DateTime
import ResultSet.Number.Binary.Shortest
import ResultSet.Number.Decimal
import ResultSet.Octets

namespace ResultSet

/-!
# Values and the representations that can be asked for

A value is decoded into the representation that the caller asks for.  Each
representation has its own type of results, and every result is a value.  The
natural representation leaves the choice to the column.
-/

/-- One value of a column. -/
inductive Value where
  /-- No value, also the date of all zeros. -/
  | null
  | boolean (value : Bool)
  | integer (width : IntegerWidth) (number : Int)
  | single (value : Single)
  | double (value : Double)
  | text (value : String)
  | decimal (value : Decimal)
  | date (value : Date)
  | dateTime (value : DateTime)
  | bytes (value : Octets)
  deriving Repr, DecidableEq

/-- A representation that can be asked for. -/
inductive Target where
  | boolean
  | integer (width : IntegerWidth)
  | single
  | double
  | text
  | decimal
  | bytes
  | natural
  deriving Repr, DecidableEq

namespace Target

/-- All representations. -/
def all : List Target :=
  [boolean, integer .byte, integer .short, integer .int, integer .long, single, double,
    text, decimal, bytes, natural]

/-- The name of a representation in messages. -/
def label : Target → String
  | boolean => "Boolean"
  | integer width => width.label
  | single => "Float"
  | double => "Double"
  | text => "String"
  | decimal => "BigDecimal"
  | bytes => "byte[]"
  | natural => "Object"

/-- The results of a representation. -/
@[reducible]
def Result : Target → Type
  | boolean => Bool
  | integer _ => Int
  | single => Single
  | double => Double
  | text => String
  | decimal => Decimal
  | bytes => Octets
  | natural => Value

/-- The value that a result is. -/
def toValue : (target : Target) → target.Result → Value
  | boolean, value => .boolean value
  | integer width, number => .integer width number
  | single, value => .single value
  | double, value => .double value
  | text, value => .text value
  | decimal, value => .decimal value
  | bytes, value => .bytes value
  | natural, value => value

end Target

namespace Value

/-- Whether there is no value. -/
def isNull : Value → Bool
  | null => true
  | _ => false

/-- The truth value of a boolean. -/
def asBoolean? : Value → Option Bool
  | boolean value => some value
  | _ => none

/-- The number of a whole number of any width. -/
def asInteger? : Value → Option Int
  | integer _ number => some number
  | _ => none

/-- The double of a floating-point value of either format. -/
def asDouble? : Value → Option Double
  | single value => some (Double.ofSingle value)
  | double value => some value
  | _ => none

/-- The characters of a text. -/
def asText? : Value → Option String
  | text value => some value
  | _ => none

/-- The fraction of a decimal. -/
def asDecimal? : Value → Option Decimal
  | decimal value => some value
  | _ => none

/-- The day of a date. -/
def asDate? : Value → Option Date
  | date value => some value
  | _ => none

/-- The moment of a date-time. -/
def asDateTime? : Value → Option DateTime
  | dateTime value => some value
  | _ => none

/-- The octets of raw bytes. -/
def asBytes? : Value → Option Octets
  | bytes value => some value
  | _ => none

/-- The text of a value. -/
def render : Value → String
  | null => "NULL"
  | boolean value => if value then "true" else "false"
  | integer _ number => Numeral.ofInt number
  | single value => value.render
  | double value => value.render
  | text value => value
  | decimal value => value.render
  | date value => value.render
  | dateTime value => value.render
  | bytes value => s!"<BYTES: {value.length.repr} bytes>"

/--
Equality of values: numbers of one representation are compared as numbers, so
that scales and signs of zero do not matter, and what is no number equals nothing.
-/
def same : Value → Value → Bool
  | single first, single second => first.sameNumber second
  | double first, double second => first.sameNumber second
  | decimal first, decimal second => first.sameNumber second
  | first, second => decide (first = second)

end Value

end ResultSet
