import ResultSet.Application.Temporal
import ResultSet.Proofs.Field.Framing

namespace ResultSet

/-!
# Exact consumption

A row can be read on after any field of it, because every way to decode a field
leaves the cursor at the announced end of the field, also when it fails.  Only a
field that the packet does not hold to its end fails without that, and even then
the cursor neither goes back nor leaves the packet.
-/

variable {Result : Type}

namespace Read

/-- Whether an action fails from some place. -/
def Fails
    (action : Read Result)
    (start : Cursor) :
    Prop :=
  ∃ fault, action.outcome start = .error fault

/-- An action takes just so many octets, from wherever it starts and however it ends. -/
structure Consumes
    (action : Read Result)
    (length : Nat) :
    Prop where
  /-- The packet stays as it is. -/
  packet :
    ∀ start, (action.behind start).packet = start.packet
  /-- Inside the packet the cursor ends exactly behind the octets. -/
  inside :
    ∀ start, start.position + length ≤ start.packet.length →
      (action.behind start).position = start.position + length
  /-- Beyond the packet the action fails, and the cursor stays between its start and the end. -/
  beyond :
    ∀ start, start.packet.length < start.position + length →
      action.Fails start ∧
        start.position ≤ (action.behind start).position ∧
        (action.behind start).position ≤ start.packet.length

/-- A framed field reader fails beyond the packet, for there it has no result. -/
theorem fails_framed_of_lt
    {reader : FieldReader Result}
    {length : Nat}
    {start : Cursor}
    (overrun : start.remaining < length) :
    (framed length reader.read).Fails start := by
  cases possible : (framed length reader.read).outcome start with
  | error fault => exact ⟨fault, possible⟩
  | ok result =>
      obtain ⟨fits, _, _⟩ := FieldReader.outcome_framed_eq_ok_iff.mp possible
      exact absurd fits (Nat.not_le.mpr overrun)

/-- A framed field reader consumes the length of its frame. -/
theorem consumes_framed
    (reader : FieldReader Result)
    (length : Nat) :
    (framed length reader.read).Consumes length where
  packet start := by
    obtain ⟨moved, _, lands⟩ := reader.exists_behind_framed length start
    rw [lands, Cursor.packet_advanced]
  inside start inPacket := by
    obtain ⟨moved, aligned, lands⟩ := reader.exists_behind_framed length start
    have fits : length ≤ start.remaining := Nat.le_sub_of_add_le' inPacket
    rw [lands, aligned fits, Cursor.position_advanced fits]
  beyond start pastPacket := by
    obtain ⟨moved, _, lands⟩ := reader.exists_behind_framed length start
    have overrun : start.remaining < length :=
      Nat.sub_lt_left_of_lt_add start.insidePacket pastPacket
    rw [lands]
    exact ⟨fails_framed_of_lt overrun, start.position_le_advanced moved,
      (start.advanced moved).insidePacket⟩

end Read

namespace Column

/-- The function of a column that decodes into one representation only. -/
def decodeTyped
    (column : Column)
    (encoding : Encoding)
    (length : Nat) :
    (target : Target) → Read target.Result
  | .boolean => column.decodeBoolean encoding.protocol length
  | .integer width => column.decodeInteger width encoding.protocol length
  | .single => column.decodeSingle encoding.protocol length
  | .double => column.decodeDouble encoding.protocol length
  | .text => column.decodeText encoding length
  | .decimal => column.decodeDecimal encoding.protocol length
  | .bytes => column.decodeBytes encoding.protocol length
  | .natural => column.decodeNatural encoding length

/-- Each function for one representation reads a frame; all but two drop the zone. -/
theorem exists_decodeTyped_eq_framed
    (column : Column)
    (encoding : Encoding)
    (length : Nat)
    (target : Target) :
    ∃ reader : FieldReader target.Result,
      column.decodeTyped encoding length target = Read.framed length reader.read := by
  cases target <;> exact ⟨_, rfl⟩

end Column

/-- Every decoding of a field takes exactly the octets that were announced for it. -/
theorem decoding_consumes_announced_length
    (column : Column)
    (encoding : Encoding)
    (length : Nat) :
    (∀ target, (column.decode encoding target length).Consumes length) ∧
      (∀ target, (column.decodeTyped encoding length target).Consumes length) ∧
      (dateCodec.decode column encoding length).Consumes length ∧
      (dateTimeCodec.decode column encoding length).Consumes length := by
  refine ⟨fun target => ?_, fun target => ?_, ?_, ?_⟩
  · rw [Column.decode_eq_framed]
    exact Read.consumes_framed _ length
  · obtain ⟨reader, framed⟩ := column.exists_decodeTyped_eq_framed encoding length target
    rw [framed]
    exact Read.consumes_framed reader length
  · exact Read.consumes_framed _ length
  · exact Read.consumes_framed _ length

end ResultSet
