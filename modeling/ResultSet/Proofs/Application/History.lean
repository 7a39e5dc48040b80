import ResultSet.Proofs.Column.Spans
import ResultSet.Proofs.Field.Consumption
import ResultSet.Proofs.Packet.Message

namespace ResultSet

/-!
# Histories of a cursor

A packet may hold anything, and a caller may do with its cursor whatever there is to
do, in any order, and go on after failures.  This module lists the operations, says what
each of them achieves when it succeeds, and shows that every event of every history
keeps to it and leaves the cursor in the packet.
-/

/-- One thing that is done with a cursor. -/
inductive Operation where
  | unsigned (width : NumberWidth)
  | signed (width : NumberWidth)
  | single
  | double
  | octets (count : Nat)
  | text (count : Nat)
  | skip (count : Nat)
  | moveTo (position : Nat)
  | lengthEncoded?
  | lengthEncoded
  | lengthEncodedOctets
  | lengthEncodedText
  | skipLengthEncoded
  | lengthEncodedPacket
  /-- Read a column definition. -/
  | column (options : MetadataOptions)
  | decode (column : Column) (encoding : Encoding) (target : Target) (length : Nat)
  /-- Decode by the function for one representation. -/
  | decodeTyped (column : Column) (encoding : Encoding) (target : Target) (length : Nat)
  | decodeBy
      {type : ApplicationType} (codec : Codec type)
      (column : Column) (encoding : Encoding) (length : Nat)
  /-- Read by a codec without regard to the announced length. -/
  | readBy
      {type : ApplicationType} (codec : Codec type)
      (column : Column) (encoding : Encoding) (length : Nat)

namespace Operation

/-- What an operation gives when it succeeds. -/
@[reducible]
def Result : Operation → Type
  | unsigned _ => Nat
  | signed _ => Int
  | single => Single
  | double => Double
  | octets _ => Octets
  | text _ => String
  | skip _ => Unit
  | moveTo _ => Unit
  | lengthEncoded? => Option Nat
  | lengthEncoded => Nat
  | lengthEncodedOctets => Octets
  | lengthEncodedText => String
  | skipLengthEncoded => Nat
  | lengthEncodedPacket => Cursor
  | column _ => Column
  | decode _ _ _ _ => Value
  | decodeTyped _ _ target _ => target.Result
  | @decodeBy type _ _ _ _ => Option type.Carrier
  | @readBy type _ _ _ _ => Option type.Carrier

/-- Do an operation. -/
def perform : (operation : Operation) → Read operation.Result
  | unsigned width => Read.unsigned width.sent
  | signed width => Read.signed width.sent
  | single => Read.single
  | double => Read.double
  | octets count => Read.octets count
  | text count => Read.text count
  | skip count => Read.skip count
  | moveTo position => Read.moveTo position
  | lengthEncoded? => Read.lengthEncoded?
  | lengthEncoded => Read.lengthEncoded
  | lengthEncodedOctets => Read.lengthEncodedOctets
  | lengthEncodedText => Read.lengthEncodedText
  | skipLengthEncoded => Read.skipLengthEncoded
  | lengthEncodedPacket => Read.lengthEncodedPacket
  | column options => Column.read options
  | decode source encoding target length => source.decode encoding target length
  | decodeTyped source encoding target length => source.decodeTyped encoding length target
  | decodeBy codec source encoding length => codec.decode source encoding length
  | readBy codec source encoding length => codec.read source encoding length

/-- Operations of the cursor itself, which are not put together from fields or columns. -/
def Elementary : Operation → Prop
  | column _ => False
  | decode _ _ _ _ => False
  | decodeTyped _ _ _ _ => False
  | decodeBy _ _ _ _ => False
  | readBy _ _ _ _ => False
  | _ => True

/--
From one cursor to another an operation has achieved its result: the cursor went on by
just what was to be read, and the result is that of the octets in between.
-/
def Achieves (start finish : Cursor) : (operation : Operation) → operation.Result → Prop
  | unsigned width, number => start.Took finish width.sent (number = Octets.littleEndian ·)
  | signed width, number => start.Took finish width.sent (number = Octets.signedLittleEndian ·)
  | single, number =>
      start.Took finish 4 fun octets => number = Single.ofBits (Octets.littleEndian octets)
  | double, number =>
      start.Took finish 8 fun octets => number = Double.ofBits (Octets.littleEndian octets)
  | octets count, taken => start.Took finish count (taken = ·)
  | text count, string => start.Took finish count (string = Text.decode ·)
  | skip count, passed => start.Took finish count fun _ => passed = ()
  | moveTo position, _ => finish.position = position
  | lengthEncoded?, number => ∃ count, start.Took finish count (LengthEncoded.Spells · number)
  | lengthEncoded, number =>
      ∃ count, start.Took finish count (LengthEncoded.Spells · (some number))
  | lengthEncodedOctets, taken => start.TookAnnounced finish (taken = ·)
  | lengthEncodedText, string => start.TookAnnounced finish (string = Text.decode ·)
  | skipLengthEncoded, began => start.TookAnnounced finish fun _ => began = start.position
  | lengthEncodedPacket, inner => start.TookAnnounced finish (inner = Cursor.ofPacket ·)
  | column options, definition => definition.StandsBetween options start finish
  | decode _ _ _ length, _ => finish.position = start.position + length
  | decodeTyped _ _ _ length, _ => finish.position = start.position + length
  | decodeBy _ _ _ length, _ => finish.position = start.position + length
  | readBy codec source encoding length, _ =>
      finish.position = start.position + (codec.reader encoding source.shape length).size

end Operation

/-! ## Moving to a position -/

namespace Read

variable {start finish : Cursor}

theorem run_moveTo_of_le
    {position : Nat}
    (inside : position ≤ start.packet.length) :
    (moveTo position).run start = .ok () ⟨start.packet, position, inside⟩ := by
  have moves : start.moveTo? position = some ⟨start.packet, position, inside⟩ := dif_pos inside
  simp only [moveTo, EStateM.run_bind, EStateM.run_get, moves, EStateM.run_set]

theorem run_moveTo_of_lt
    {position : Nat}
    (outside : start.packet.length < position) :
    (moveTo position).run start = .error (.tooSmall position start.packet.length) start := by
  have stays : start.moveTo? position = none := dif_neg (Nat.not_le.mpr outside)
  simp only [moveTo, EStateM.run_bind, EStateM.run_get, stays]
  rfl

/-- Every position up to the end of the packet can be moved to, and no other. -/
theorem run_moveTo_eq_ok_iff
    {position : Nat} :
    (moveTo position).run start = .ok () finish ↔
      finish.packet = start.packet ∧ finish.position = position := by
  constructor
  · intro succeeds
    rcases Nat.lt_or_ge start.packet.length position with outside | inside
    · rw [run_moveTo_of_lt outside] at succeeds
      cases succeeds
    · rw [run_moveTo_of_le inside] at succeeds
      cases succeeds
      exact ⟨rfl, rfl⟩
  · rintro ⟨samePacket, rfl⟩
    have inside : finish.position ≤ start.packet.length := samePacket ▸ finish.insidePacket
    rw [run_moveTo_of_le inside]
    exact congrArg (EStateM.Result.ok ()) (Cursor.eq_of_position samePacket.symm rfl)

theorem packet_behind_moveTo (position : Nat) (start : Cursor) :
    ((moveTo position).behind start).packet = start.packet := by
  rcases Nat.lt_or_ge start.packet.length position with outside | inside
  · rw [behind, run_moveTo_of_lt outside]
  · rw [behind, run_moveTo_of_le inside]

/-! ## Fields -/

variable {Result : Type}

theorem Forward.field (reader : FieldReader Result) : reader.read.Forward := by
  refine (Forward.groups reader.groups).bind fun octets => ?_
  split
  · exact .pure _
  · exact .throw _

theorem Forward.framed (reader : FieldReader Result) (length : Nat) :
    (Read.framed length reader.read).Forward := by
  intro start
  obtain ⟨moved, _, lands⟩ := reader.exists_behind_framed length start
  exact ⟨moved, lands⟩

/-- A field that was read takes the octets of its reader. -/
theorem position_of_run_field
    {reader : FieldReader Result}
    {result : Result}
    (succeeds : reader.read.run start = .ok result finish) :
    finish.position = start.position + reader.size := by
  rcases Nat.lt_or_ge start.remaining reader.size with overrun | fits
  · obtain ⟨needed, taken, fails⟩ := FieldReader.run_read_of_lt overrun
    rw [fails] at succeeds
    cases succeeds
  · cases means : reader.interpret (start.rest.take reader.size) with
    | error error =>
        rw [FieldReader.run_read_of_error fits means] at succeeds
        cases succeeds
    | ok value =>
        rw [FieldReader.run_read_of_ok fits means] at succeeds
        cases succeeds
        exact Cursor.position_advanced fits

/-- A framed field that was read takes the octets of its frame. -/
theorem position_of_run_framed
    {reader : FieldReader Result}
    {length : Nat}
    {result : Result}
    (succeeds : (Read.framed length reader.read).run start = .ok result finish) :
    finish.position = start.position + length := by
  have possible : (Read.framed length reader.read).outcome start = .ok result :=
    outcome_of_ok succeeds
  obtain ⟨fits, _, _⟩ := FieldReader.outcome_framed_eq_ok_iff.mp possible
  obtain ⟨moved, aligned, lands⟩ := reader.exists_behind_framed length start
  rw [← behind_of_ok succeeds, lands, aligned fits, Cursor.position_advanced fits]

end Read

/-! ## One operation -/

namespace Operation

variable {operation : Operation} {start finish : Cursor}

/-- Every operation but the move to a position goes forward, wherever it stops. -/
theorem forward_perform
    (noMove : ∀ position, operation ≠ .moveTo position) :
    operation.perform.Forward := by
  cases operation with
  | unsigned width => exact .unsigned _
  | signed width => exact .signed _
  | single => exact .single
  | double => exact .double
  | octets count => exact .octets count
  | text count => exact .text count
  | skip count => exact .skip count
  | moveTo position => exact absurd rfl (noMove position)
  | lengthEncoded? => exact .lengthEncoded?
  | lengthEncoded => exact .lengthEncoded
  | lengthEncodedOctets => exact .lengthEncodedOctets
  | lengthEncodedText => exact .lengthEncodedText
  | skipLengthEncoded => exact .skipLengthEncoded
  | lengthEncodedPacket => exact .lengthEncodedPacket
  | column options => exact Column.forward_read options
  | decode column encoding target length =>
      rw [perform, Column.decode_eq_framed]
      exact .framed _ length
  | decodeTyped column encoding target length =>
      obtain ⟨reader, framed⟩ := column.exists_decodeTyped_eq_framed encoding length target
      rw [perform, framed]
      exact .framed reader length
  | decodeBy codec column encoding length => exact .framed _ length
  | readBy codec column encoding length => exact .field _

theorem packet_behind_perform (operation : Operation) (start : Cursor) :
    (operation.perform.behind start).packet = start.packet := by
  by_cases move : ∃ position, operation = .moveTo position
  · obtain ⟨position, rfl⟩ := move
    exact Read.packet_behind_moveTo position start
  · exact (forward_perform (not_exists.mp move)).packet_behind start

/-- An elementary operation succeeds just if what it is to achieve can be achieved. -/
theorem run_perform_eq_ok_iff
    {result : operation.Result}
    (elementary : operation.Elementary) :
    operation.perform.run start = .ok result finish ↔
      finish.packet = start.packet ∧ operation.Achieves start finish result := by
  cases operation with
  | unsigned width => exact Read.Takes.unsigned _ start result finish
  | signed width => exact Read.Takes.signed _ start result finish
  | single => exact Read.Takes.single start result finish
  | double => exact Read.Takes.double start result finish
  | octets count => exact Read.takes_octets count start result finish
  | text count => exact Read.Takes.text count start result finish
  | skip count => exact Read.Takes.skip count start result finish
  | moveTo position => exact Read.run_moveTo_eq_ok_iff
  | lengthEncoded? => exact Read.run_lengthEncoded?_eq_ok_iff
  | lengthEncoded => exact Read.run_lengthEncoded_eq_ok_iff
  | lengthEncodedOctets => exact Read.TakesAnnounced.lengthEncodedOctets start result finish
  | lengthEncodedText => exact Read.TakesAnnounced.lengthEncodedText start result finish
  | skipLengthEncoded => exact Read.run_skipLengthEncoded_eq_ok_iff
  | lengthEncodedPacket => exact Read.TakesAnnounced.lengthEncodedPacket start result finish
  | _ => exact elementary.elim

/-- What succeeds has achieved its result. -/
theorem achieves_of_run
    {result : operation.Result}
    (succeeds : operation.perform.run start = .ok result finish) :
    operation.Achieves start finish result := by
  by_cases elementary : operation.Elementary
  · exact ((run_perform_eq_ok_iff elementary).mp succeeds).2
  · cases operation with
    | column options => exact Column.standsBetween_of_run_read succeeds
    | decode column encoding target length =>
        rw [perform, Column.decode_eq_framed] at succeeds
        exact Read.position_of_run_framed succeeds
    | decodeTyped column encoding target length =>
        obtain ⟨reader, framed⟩ := column.exists_decodeTyped_eq_framed encoding length target
        rw [perform, framed] at succeeds
        exact Read.position_of_run_framed succeeds
    | decodeBy codec column encoding length => exact Read.position_of_run_framed succeeds
    | readBy codec column encoding length => exact Read.position_of_run_field succeeds
    | _ => exact absurd trivial elementary

end Operation

/-! ## Histories -/

/-- An operation that is done with a cursor. -/
structure Event where
  operation : Operation
  start : Cursor

namespace Event

/-- Where an event leaves the cursor, whether the operation succeeds or fails. -/
def behind (event : Event) : Cursor :=
  event.operation.perform.behind event.start

/-- What holds of an event in a packet. -/
structure Lawful (packet : Octets) (event : Event) : Prop where
  startsInPacket : event.start.packet = packet
  staysInPacket : event.behind.packet = packet
  insidePacket : event.behind.position ≤ packet.length
  remaining : event.behind.remaining = packet.length - event.behind.position
  goesForward :
    (∀ position, event.operation ≠ .moveTo position) →
      event.start.position ≤ event.behind.position
  achieves :
    ∀ result finish,
      event.operation.perform.run event.start = .ok result finish →
        event.operation.Achieves event.start finish result
  /-- What an elementary operation can achieve in the packet, it does achieve. -/
  succeeds :
    event.operation.Elementary →
      ∀ result finish,
        finish.packet = packet →
          event.operation.Achieves event.start finish result →
            event.operation.perform.run event.start = .ok result finish

/-- Every single event is lawful in the packet in which it happens. -/
theorem lawful (event : Event) : event.Lawful event.start.packet where
  startsInPacket := rfl
  staysInPacket := event.operation.packet_behind_perform event.start
  insidePacket := by
    rw [← event.operation.packet_behind_perform event.start]
    exact event.behind.insidePacket
  remaining := by
    rw [← event.operation.packet_behind_perform event.start]
    rfl
  goesForward noMove := (Operation.forward_perform noMove).position_le_behind event.start
  achieves _ _ := Operation.achieves_of_run
  succeeds elementary _ _ samePacket achieves :=
    (Operation.run_perform_eq_ok_iff elementary).mpr ⟨samePacket, achieves⟩

end Event

/-- The events of doing one operation after the other, each from where the last one ended. -/
def history : List Operation → Cursor → List Event
  | [], _ => []
  | operation :: operations, start =>
      let event : Event := ⟨operation, start⟩
      event :: history operations event.behind

/--
Whatever a packet holds and whatever is done with its cursor, every event of the history
leaves the cursor in the same packet, and what succeeds has taken just what it was to take.
-/
theorem history_is_lawful
    (start : Cursor)
    (operations : List Operation) :
    ∀ event ∈ history operations start, event.Lawful start.packet := by
  intro event member
  -- Of the events before it, an event needs to know only that they stayed in the packet.
  induction operations generalizing start with
  | nil => cases member
  | cons operation operations inductionHypothesis =>
      rcases List.mem_cons.mp member with rfl | later
      · exact Event.lawful ⟨operation, start⟩
      · have lawful : event.Lawful (operation.perform.behind start).packet :=
          inductionHypothesis _ later
        rwa [operation.packet_behind_perform] at lawful

/-- Two octets are read as a packet behind a string that is announced with the greatest length. -/
theorem history_behind_greatest_length_is_lawful :
    let packet : Octets := 0xFE :: List.replicate 8 0xFF ++ [2, 7, 8]
    let event : Event := ⟨.lengthEncodedPacket, ⟨packet, 9, by decide⟩⟩
    event ∈ history [.lengthEncodedOctets, .lengthEncodedPacket] (Cursor.ofPacket packet) ∧
      event.behind.position = 12 ∧
      event.Lawful packet := by
  intro packet event
  have member :
      event ∈ history [.lengthEncodedOctets, .lengthEncodedPacket] (Cursor.ofPacket packet) :=
    List.mem_cons_of_mem _ List.mem_cons_self
  exact ⟨member, rfl, history_is_lawful (Cursor.ofPacket packet) _ event member⟩

end ResultSet
