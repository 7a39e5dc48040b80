import ResultSet.Packet.Read

namespace ResultSet

/-!
# Reading one field

A field is announced with its length.  A field reader takes the octets of the
field in groups and gives them a meaning; the meaning depends on the octets
alone, never on what surrounds them in the packet.  The groups matter only when
the packet ends early: the first group that does not fit is the one reported.

Framing makes rows robust.  A field whose value cannot be decoded is passed over
to its announced end, so that the next field is read from the right place.
-/

/-- How the values of a row are encoded. -/
inductive Protocol where
  /-- Values are literals, as a plain query gives them. -/
  | text
  /-- Values are packed, as a prepared statement gives them. -/
  | binary
  deriving Repr, DecidableEq

/-- How a field is taken from the packet, and what its octets mean. -/
structure FieldReader (Result : Type) where
  /-- The widths of the groups of octets, in the order in which they are taken. -/
  groups : List Nat
  /-- The meaning of the octets taken. -/
  interpret : Octets → Except ValueError Result

namespace FieldReader

/-- Take a field in one group. -/
def whole
    {Result : Type}
    (length : Nat)
    (interpret : Octets → Except ValueError Result) :
    FieldReader Result :=
  ⟨[length], interpret⟩

/-- Take a field in one group as text. -/
def text
    {Result : Type}
    (length : Nat)
    (interpret : String → Except ValueError Result) :
    FieldReader Result :=
  whole length fun octets => interpret (Text.decode octets)

/-- Pass over a field and fail. -/
def fail
    {Result : Type}
    (length : Nat)
    (error : ValueError) :
    FieldReader Result :=
  whole length fun _ => .error error

/-- Pass over a field of a type that does not serve what is asked for. -/
def refuse
    {Result : Type}
    (length : Nat)
    (type : ServerType)
    (label : String) :
    FieldReader Result :=
  fail length (.incompatible type label)

/-- Give the result of a field a further meaning. -/
def bind
    {First Second : Type}
    (reader : FieldReader First)
    (next : First → Except ValueError Second) :
    FieldReader Second :=
  ⟨reader.groups, fun octets => reader.interpret octets >>= next⟩

/-- Change the result of a field. -/
def map
    {First Second : Type}
    (change : First → Second)
    (reader : FieldReader First) :
    FieldReader Second :=
  reader.bind fun first => .ok (change first)

/-- Read a field without regard to its announced length. -/
def read
    {Result : Type}
    (reader : FieldReader Result) :
    Read Result := do
  let octets ← Read.groups reader.groups
  match reader.interpret octets with
  | .ok result => return result
  | .error error => throw (.value error)

end FieldReader

/-- Put the cursor to a position, or leave it where it is if the packet ends before. -/
def Cursor.realigned
    (cursor : Cursor)
    (position : Nat) :
    Cursor :=
  (cursor.moveTo? position).getD cursor

/--
Read a field of an announced length.  It must take exactly so many octets.  After
a failure the cursor is put behind the field, unless the packet ends before.
-/
def Read.framed
    {Result : Type}
    (length : Nat)
    (action : Read Result) :
    Read Result :=
  fun start =>
    let finish := start.position + length
    match action start with
    | .ok result behind =>
        let taken := behind.position - start.position
        if taken = length then
          .ok result behind
        else
          .error (.value (.consumed length taken)) (behind.realigned finish)
    | .error fault behind => .error fault (behind.realigned finish)

/-- Read a field behind its length-encoded length; a missing value has no field. -/
def Read.announced
    {Result : Type}
    (action : Nat → Read Result) :
    Read (Option Result) := do
  match ← Read.lengthEncoded? with
  | some length => return some (← action length)
  | none => return none

end ResultSet
