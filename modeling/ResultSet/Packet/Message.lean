import ResultSet.Octets
import ResultSet.Text.Utf8

namespace ResultSet

/-!
# Messages and cursors over packets

A message is built by putting the spellings of its parts one behind the other.
A length-encoded number takes one octet when it is small, and otherwise a mark
and two, three or eight octets.  One octet below the marks stands for a missing
value.

A cursor is a place inside a received packet.  It never leaves the packet and
never changes it.  A span marks octets of a packet that are looked up later.
-/

/-! ## Writing messages -/

namespace LengthEncoded

/-- The octet that stands for a missing value. -/
def nullMark : UInt8 := 0xFB

/-- The octet in front of a number of two octets. -/
def twoOctetMark : UInt8 := 0xFC

/-- The octet in front of a number of three octets. -/
def threeOctetMark : UInt8 := 0xFD

/-- The octet in front of a number of eight octets. -/
def eightOctetMark : UInt8 := 0xFE

end LengthEncoded

namespace Message

/-- A fixed-width number; octets above the width are dropped. -/
def unsigned (width number : Nat) : Octets :=
  Octets.ofNat width number

/-- A length-encoded number below `2 ^ 64` in the shortest form. -/
def lengthEncoded (number : Nat) : Octets :=
  if number < LengthEncoded.nullMark.toNat then
    Octets.ofNat 1 number
  else if number < 2 ^ 16 then
    LengthEncoded.twoOctetMark :: Octets.ofNat 2 number
  else if number < 2 ^ 24 then
    LengthEncoded.threeOctetMark :: Octets.ofNat 3 number
  else
    LengthEncoded.eightOctetMark :: Octets.ofNat 8 number

/-- A string of octets behind its length-encoded length. -/
def lengthEncodedOctets (octets : Octets) : Octets :=
  lengthEncoded octets.length ++ octets

/-- A text behind the length-encoded length of its octets. -/
def lengthEncodedText (text : String) : Octets :=
  lengthEncodedOctets (Text.encode text)

/-- So many octets of zero. -/
def zeros (count : Nat) : Octets :=
  List.replicate count 0

end Message

/-! ## Cursors over packets -/

/-- The octets of a packet from one position up to another. -/
structure Span where
  start : Nat
  stop : Nat
  deriving Repr, DecidableEq

/-- The octets that a packet has in a span. -/
def Span.within
    (span : Span)
    (packet : Octets) :
    Octets :=
  (packet.drop span.start).take (span.stop - span.start)

/-- A place between the octets of a packet. -/
structure Cursor where
  packet : Octets
  position : Nat
  insidePacket : position ≤ packet.length
  deriving Repr, DecidableEq

namespace Cursor

/-- The place before the first octet of a packet. -/
def ofPacket (packet : Octets) : Cursor :=
  ⟨packet, 0, Nat.zero_le _⟩

/-- How many octets follow. -/
def remaining (cursor : Cursor) : Nat :=
  cursor.packet.length - cursor.position

/-- Whether at least so many octets follow. -/
def hasRemaining
    (cursor : Cursor)
    (count : Nat) :
    Bool :=
  decide (count ≤ cursor.remaining)

/-- The octets that follow. -/
def rest (cursor : Cursor) : Octets :=
  cursor.packet.drop cursor.position

/-- The cursor at another position of the same packet. -/
def moveTo? (cursor : Cursor) (position : Nat) : Option Cursor :=
  if insidePacket : position ≤ cursor.packet.length then
    some ⟨cursor.packet, position, insidePacket⟩
  else
    none

/-- The next octets and the cursor behind them. -/
def take? (cursor : Cursor) (count : Nat) : Option (Octets × Cursor) :=
  if fits : count ≤ cursor.remaining then
    some (cursor.rest.take count,
      ⟨cursor.packet, cursor.position + count, by
        have insidePacket := cursor.insidePacket
        simp only [remaining] at fits
        omega⟩)
  else
    none

/-- As many octets follow as a cursor says. -/
@[simp]
theorem length_rest (cursor : Cursor) : cursor.rest.length = cursor.remaining := by
  simp [rest, remaining]

end Cursor

end ResultSet
