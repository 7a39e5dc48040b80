import ResultSet.Field.Literal
import ResultSet.Field.Reader

namespace ResultSet

/-!
# Fields of characters and of data

Large objects and character strings are strings of octets in both protocols.
When the column is binary the octets are data; otherwise they are text, and
numbers are read from it.  Large objects are never read as short integers.
-/

namespace CharacterField

/-- The whole number that a text spells, digits behind the point being dropped. -/
def truncatedWhole
    (shape : Shape)
    (width : IntegerWidth)
    (literal : String) :
    Except ValueError Int := do
  let decimal ← parseDecimal literal width.label
  shape.checkSign (← wholePart decimal literal)

/-- The whole number that a text spells without any fraction. -/
def exactLong
    (shape : Shape)
    (literal : String) :
    Except ValueError Int :=
  match Numeral.signedWithin? fullWidth (Text.trim literal.toList) with
  | some number => do IntegerWidth.long.narrow (← shape.checkSign number)
  | none => .error (.literal literal IntegerWidth.long.label)

/--
A text as a whole number.  Long numbers in literals must be exact; all other
whole numbers drop the fraction.
-/
def whole
    (protocol : Protocol)
    (shape : Shape)
    (width : IntegerWidth)
    (literal : String) :
    Except ValueError Int :=
  match protocol, width with
  | .text, .long => exactLong shape literal
  | _, width => do width.narrow (← truncatedWhole shape width literal)

/-- What the octets of a text are in a representation. -/
def interpret
    (protocol : Protocol)
    (shape : Shape)
    (octets : Octets) :
    (target : Target) → Except ValueError target.Result
  | .boolean => .ok (Text.decode octets != "0")
  | .integer width => whole protocol shape width (Text.decode octets)
  | .single => parseSingle (Text.decode octets)
  | .double => parseDouble (Text.decode octets)
  | .text => .ok (Text.decode octets)
  | .decimal => parseDecimal (Text.decode octets) Target.decimal.label
  | .bytes => .ok octets
  | .natural => .ok (.text (Text.decode octets))

/-- The first octet of data as a two's complement number. -/
def firstByte : Octets → Except ValueError Int
  | [] => .error .noFirstByte
  | first :: _ => .ok (Octets.signedLittleEndian [first])

/-- Read data: its first octet, the text it happens to spell, or the octets themselves. -/
def dataReader
    (target : Target)
    (shape : Shape)
    (length : Nat) :
    FieldReader target.Result :=
  match target with
  | .integer .byte => ⟨if length = 0 then [] else [1, length - 1], firstByte⟩
  | .text => .text length .ok
  | .bytes => .whole length .ok
  | .natural => .whole length fun octets => .ok (.bytes octets)
  | target => .refuse length shape.type target.label

/-- Read a text. -/
def textReader
    (protocol : Protocol)
    (target : Target)
    (shape : Shape)
    (length : Nat) :
    FieldReader target.Result :=
  .whole length fun octets => interpret protocol shape octets target

/-- Read a character string. -/
def string
    (protocol : Protocol)
    (target : Target)
    (shape : Shape)
    (length : Nat) :
    FieldReader target.Result :=
  if shape.isBinary then
    dataReader target shape length
  else
    textReader protocol target shape length

/-- Read a large object. -/
def blob
    (protocol : Protocol)
    (target : Target)
    (shape : Shape)
    (length : Nat) :
    FieldReader target.Result :=
  match target with
  | .integer .short => .refuse length shape.type IntegerWidth.short.label
  | target => string protocol target shape length

end CharacterField

end ResultSet
