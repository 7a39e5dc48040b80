import ResultSet.Column.ServerType
import ResultSet.Number.Binary.Shortest
import ResultSet.Number.Decimal

namespace ResultSet

/-!
# Failures

A failure concerns the framing of a packet, the protocol, a type code, or one
value.  Only the last kind leaves the packet usable.  Every failure is a cause;
its wording is made in one place.
-/

/-- The categories by which callers tell failures of a value apart. -/
inductive ValueErrorKind where
  /-- The representation is not served for the type of the column. -/
  | incompatible
  /-- The value does not fit the width or the signedness asked for. -/
  | overflow
  /-- The octets do not follow the grammar of the value. -/
  | malformed
  /-- A number of any size has no exact counterpart among whole numbers. -/
  | inexact
  deriving Repr, DecidableEq

/-- Why one value could not be decoded. -/
inductive ValueError where
  /-- A representation that the type does not serve. -/
  | incompatible (type : ServerType) (label : String)
  /-- A negative number from a column without signs. -/
  | negative (number : Int)
  /-- A whole number outside the width asked for. -/
  | tooWide (width : IntegerWidth) (number : Int)
  /-- A floating-point value without whole part. -/
  | notFinite (number : BinaryNumber)
  /-- A floating-point value without decimal fraction. -/
  | notDecimal (text : String)
  /-- A literal outside the grammar of what it should spell. -/
  | literal (text label : String)
  /-- A binary number of another width than that of its type. -/
  | width (type : ServerType) (length expected : Nat)
  /-- A value that took another number of octets than was announced. -/
  | consumed (length taken : Nat)
  /-- A first octet asked of a string that has none. -/
  | noFirstByte
  /-- A binary date without all octets of its first group. -/
  | shortDate (length : Nat)
  /-- A binary time without all octets of its first group. -/
  | shortTime (length : Nat)
  /-- A decimal fraction whose whole part exceeds the widest whole numbers. -/
  | inexact (text : String)
  /-- A failure that a caller describes in its own words. -/
  | described (kind : ValueErrorKind) (message : String)
  deriving Repr, DecidableEq

/-- How a packet violates the protocol. -/
inductive ProtocolError where
  /-- The mark of a missing value where a length must stand. -/
  | unexpectedNull
  /-- A fixed part of a column definition of a length other than twelve. -/
  | fixedPartLength (length : Nat)
  /-- A violation that a caller describes in its own words. -/
  | described (message : String)
  deriving Repr, DecidableEq

/-- Why an action failed. -/
inductive Fault where
  /-- The packet ends too early. -/
  | tooSmall (needed available : Nat)
  /-- The packet violates the protocol. -/
  | protocol (error : ProtocolError)
  /-- A type code without a type. -/
  | unsupportedType (code : UInt8)
  /-- One value could not be decoded. -/
  | value (error : ValueError)
  deriving Repr, DecidableEq

namespace ValueError

/-- The category of a cause. -/
def kind : ValueError → ValueErrorKind
  | incompatible .. => .incompatible
  | negative .. | tooWide .. | notFinite .. | notDecimal .. => .overflow
  | literal .. | width .. | consumed .. | noFirstByte | shortDate .. | shortTime .. =>
      .malformed
  | inexact .. => .inexact
  | described kind _ => kind

/-- The wording shared by causes that quote a value. -/
def quoting (value label : String) : String :=
  s!"value '{value}' cannot be decoded as {label}"

/-- The wording of a cause. -/
def message : ValueError → String
  | incompatible type label => s!"Data type {type.name} cannot be decoded as {label}"
  | negative number =>
      s!"value '{Numeral.ofInt number}' cannot be decoded from an unsigned column"
  | tooWide .byte _ => "byte overflow"
  | tooWide .short _ => "Short overflow"
  | tooWide .int _ => "integer overflow"
  | tooWide .long number => quoting (Numeral.ofInt number) "Long"
  | notFinite number => quoting (number.render BinaryFormat.double) "an integer"
  | notDecimal text => quoting text "BigDecimal"
  | literal text label => quoting text label
  | width type length expected =>
      s!"binary {type.name} value of {length.repr} bytes, expected {expected.repr}"
  | consumed length taken =>
      s!"value of {length.repr} bytes was decoded from {taken.repr} bytes"
  | noFirstByte => "empty String value cannot be decoded as Byte"
  | shortDate length => s!"binary date value of {length.repr} bytes is too short"
  | shortTime length => s!"binary time value of {length.repr} bytes is too short"
  | inexact text => quoting text "Long"
  | described _ message => message

end ValueError

namespace ProtocolError

/-- The wording of a violation. -/
def message : ProtocolError → String
  | unexpectedNull => "unexpected NULL length-encoded integer"
  | fixedPartLength length => s!"unexpected column definition field length {length.repr}"
  | described message => message

end ProtocolError

namespace Fault

/-- The wording of a failure. -/
def message : Fault → String
  | tooSmall needed available =>
      s!"Buffer too small: need {needed.repr} bytes, have {available.repr}"
  | protocol error => s!"Protocol error: {error.message}"
  | unsupportedType code => s!"Unsupported server data type: {code.toNat.repr}"
  | value error => error.message

/-- The category of a failure that concerns one value. -/
def valueKind? : Fault → Option ValueErrorKind
  | value error => some error.kind
  | _ => none

/-- Whether a failure concerns one value. -/
def isValue : Fault → Bool
  | value _ => true
  | _ => false

end Fault

end ResultSet
