import ResultSet.Fault
import ResultSet.Number.Binary
import ResultSet.Packet.Message
import ResultSet.Text.Utf8

namespace ResultSet

/-!
# Reading a packet

A reading action moves the cursor and gives a result or a failure.  A failure
keeps the cursor where the action left it: a single read that does not fit moves
nothing, and an action of several reads stops at the read that failed.
-/

/-- An action that reads from the cursor and may fail. -/
abbrev Read := EStateM Fault Cursor

namespace Read

/-- The packet that the cursor stands in. -/
def packet : Read Octets :=
  return (← get).packet

/-- The position of the cursor. -/
def position : Read Nat :=
  return (← get).position

/-- How many octets follow. -/
def remaining : Read Nat :=
  return (← get).remaining

/-- Whether at least so many octets follow. -/
def hasRemaining (count : Nat) : Read Bool :=
  return (← get).hasRemaining count

/-- Put the cursor to a position inside the packet. -/
def moveTo (position : Nat) : Read Unit := do
  let cursor ← get
  match cursor.moveTo? position with
  | some moved => set moved
  | none => throw (.tooSmall position cursor.packet.length)

/-- The next octets. -/
def octets (count : Nat) : Read Octets := do
  let cursor ← get
  match cursor.take? count with
  | some (taken, behind) =>
      set behind
      return taken
  | none => throw (.tooSmall count cursor.remaining)

/-- Pass over the next octets. -/
def skip (count : Nat) : Read Unit := do
  let _ ← octets count

/-- The next octets as text. -/
def text (count : Nat) : Read String :=
  return Text.decode (← octets count)

/-- An unsigned number of a fixed width. -/
def unsigned (width : Nat) : Read Nat :=
  return Octets.littleEndian (← octets width)

/-- A two's complement number of a fixed width. -/
def signed (width : Nat) : Read Int :=
  return Octets.signedLittleEndian (← octets width)

/-- A bit pattern of the single format. -/
def single : Read Single :=
  return Single.ofBits (← unsigned 4)

/-- A bit pattern of the double format. -/
def double : Read Double :=
  return Double.ofBits (← unsigned 8)

/-- What the first octet opens: a missing value, a number behind a mark, or the number itself. -/
def lengthEncodedBehind (first : Nat) : Read (Option Nat) := do
  if first = LengthEncoded.nullMark.toNat then
    return none
  else if first = LengthEncoded.twoOctetMark.toNat then
    return some (← unsigned 2)
  else if first = LengthEncoded.threeOctetMark.toNat then
    return some (← unsigned 3)
  else if first = LengthEncoded.eightOctetMark.toNat then
    return some (← unsigned 8)
  else
    return some first

/-- A length-encoded number, or the mark of a missing value. -/
def lengthEncoded? : Read (Option Nat) := do
  lengthEncodedBehind (← unsigned 1)

/-- A length-encoded number, where the mark of a missing value is a violation. -/
def lengthEncoded : Read Nat := do
  match ← lengthEncoded? with
  | some number => return number
  | none => throw (.protocol .unexpectedNull)

/-- A string of octets behind its length-encoded length. -/
def lengthEncodedOctets : Read Octets := do
  octets (← lengthEncoded)

/-- A text behind the length-encoded length of its octets. -/
def lengthEncodedText : Read String := do
  text (← lengthEncoded)

/-- Pass over a length-encoded string and give the position at which it began. -/
def skipLengthEncoded : Read Nat := do
  let start ← position
  skip (← lengthEncoded)
  return start

/-- Pass over a length-encoded string and give the span of its octets. -/
def lengthEncodedSpan : Read Span := do
  let length ← lengthEncoded
  let start ← position
  skip length
  return ⟨start, start + length⟩

/-- A cursor over a length-encoded string as a packet of its own. -/
def lengthEncodedPacket : Read Cursor :=
  return Cursor.ofPacket (← lengthEncodedOctets)

/-- Several groups of octets one after the other, put together again. -/
def groups : List Nat → Read Octets
  | [] => return []
  | width :: widths => do
      let group ← octets width
      return group ++ (← groups widths)

end Read

end ResultSet
