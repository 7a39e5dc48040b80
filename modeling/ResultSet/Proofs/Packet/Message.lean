import ResultSet.Proofs.Packet.Recovery
import ResultSet.Proofs.Number.Positional
import ResultSet.Proofs.Text.Utf8

namespace ResultSet

/-!
# Messages are read back

A message is a sequence of parts, each of a type that writer and reader agree on.
Of a part only its content is sent, never its type: the reader is told the types,
and the lengths of those parts that do not carry their own.  It gives the contents
back in their order and stops where the message ends, whatever stands around the
message.
-/

/-- The widths at which numbers are sent, in octets. -/
inductive NumberWidth where
  | one
  | two
  | three
  | four
  | eight
  deriving Repr, DecidableEq

namespace NumberWidth

/-- The octets that a number of a width takes. -/
def sent : NumberWidth → Nat
  | one => 1
  | two => 2
  | three => 3
  | four => 4
  | eight => 8

/-- The octets of the numbers that a writer takes for a width: there are none of three octets. -/
def given : NumberWidth → Nat
  | three => 4
  | width => width.sent

end NumberWidth

namespace Message

/-- One part of a message, of a type that both sides know. -/
inductive Part where
  | number (width : NumberWidth) (value : Nat) (given : value < 256 ^ width.given)
  | lengthEncoded (value : Nat) (given : value < 2 ^ 64)
  /-- Octets whose number the reader knows. -/
  | octets (value : Octets)
  | lengthEncodedOctets (value : Octets) (addressable : value.length < 2 ^ 64)
  | lengthEncodedText (value : String) (addressable : (Text.encode value).length < 2 ^ 64)
  | zeros (count : Nat)

/-- What the reader knows of a part. -/
inductive PartType where
  | number (width : NumberWidth)
  | lengthEncoded
  | octets (length : Nat)
  | lengthEncodedOctets
  | lengthEncodedText
  | zeros (count : Nat)
  deriving Repr, DecidableEq

/-- The content of a part. -/
inductive Content where
  | number (value : Nat)
  | octets (value : Octets)
  | text (value : String)
  deriving Repr, DecidableEq

namespace Part

/-- The type of a part. -/
def type : Part → PartType
  | number width _ _ => .number width
  | lengthEncoded _ _ => .lengthEncoded
  | octets value => .octets value.length
  | lengthEncodedOctets _ _ => .lengthEncodedOctets
  | lengthEncodedText _ _ => .lengthEncodedText
  | zeros count => .zeros count

/-- The octets of a part. -/
def write : Part → Octets
  | number width value _ => unsigned width.sent value
  | lengthEncoded value _ => Message.lengthEncoded value
  | octets value => value
  | lengthEncodedOctets value _ => Message.lengthEncodedOctets value
  | lengthEncodedText value _ => Message.lengthEncodedText value
  | zeros count => Message.zeros count

/-- The content of a part as it arrives; only three octets may be too few for their number. -/
def content : Part → Content
  | number .three value _ => .number (value % 2 ^ 24)
  | number _ value _ => .number value
  | lengthEncoded value _ => .number value
  | octets value => .octets value
  | lengthEncodedOctets value _ => .octets value
  | lengthEncodedText value _ => .text value
  | zeros count => .octets (List.replicate count 0)

end Part

/-- Read the content of a part of a type. -/
def PartType.read : PartType → Read Content
  | number width => .number <$> Read.unsigned width.sent
  | lengthEncoded => .number <$> Read.lengthEncoded
  | octets length => .octets <$> Read.octets length
  | lengthEncodedOctets => .octets <$> Read.lengthEncodedOctets
  | lengthEncodedText => .text <$> Read.lengthEncodedText
  | zeros count => .octets <$> Read.octets count

namespace Part

variable {packet : Octets}

theorem content_number
    (width : NumberWidth)
    (value : Nat)
    (given : value < 256 ^ width.given) :
    (Part.number width value given).content = .number (value % 256 ^ width.sent) := by
  cases width with
  | three => rfl
  | _ => exact congrArg Content.number (Nat.mod_eq_of_lt given).symm

/-- Every part is accepted by the reader of its type. -/
theorem accepts_read (part : Part) :
    Read.Accepts packet part.write part.type.read (· = part.content) := by
  cases part with
  | number width value given =>
      rw [content_number]
      exact (Read.accepts_unsigned_mod width.sent value).map fun _ => congrArg Content.number
  | lengthEncoded value given =>
      exact (Read.accepts_lengthEncoded given).map fun _ => congrArg Content.number
  | octets value =>
      exact (Read.accepts_octets value).map fun _ => congrArg Content.octets
  | lengthEncodedOctets value addressable =>
      exact (Read.accepts_lengthEncodedOctets addressable).map fun _ => congrArg Content.octets
  | lengthEncodedText value addressable =>
      apply (Read.accepts_lengthEncodedText addressable).map
      rintro _ rfl
      rw [Text.decode_encode]
      rfl
  | zeros count =>
      have accepts :
          Read.Accepts packet (Message.zeros count) (Read.octets (Message.zeros count).length)
            (· = Message.zeros count) :=
        Read.accepts_octets _
      rw [Message.zeros, List.length_replicate] at accepts
      exact accepts.map fun _ => congrArg Content.octets

end Part

end Message

end ResultSet
