import ResultSet.Proofs.Packet.Forward
import ResultSet.Proofs.Packet.Recovery

namespace ResultSet

/-!
# What a read takes from the packet

A read that succeeds has taken a span of the packet that begins at its cursor: as many
octets as it was asked for, or a string that is announced by the octets in front of it.
It succeeds just if the packet has the whole span, gives what the octets of the span
mean, and leaves the cursor at their end.  No length that is announced can make it do
otherwise, for a length is compared with what is left and never added to a position.
-/

variable {First Second Result : Type}

/-- A string of a packet is announced by the octets from a position on, and the packet has it. -/
def Span.AnnouncedAt (content : Span) (packet : Octets) (position : Nat) : Prop :=
  ∃ announcement length,
    announcement <+: packet.drop position ∧
      LengthEncoded.Spells announcement (some length) ∧
      content = ⟨position + announcement.length, position + announcement.length + length⟩ ∧
      content.stop ≤ packet.length

namespace Cursor

/-- From one cursor to another it is so many octets, of which something holds. -/
def Took (start finish : Cursor) (count : Nat) (holds : Octets → Prop) : Prop :=
  finish.position = start.position + count ∧
    holds (Span.within ⟨start.position, finish.position⟩ start.packet)

/-- From one cursor to another stands an announced string, and something holds of its octets. -/
def TookAnnounced (start finish : Cursor) (holds : Octets → Prop) : Prop :=
  ∃ content : Span,
    content.AnnouncedAt start.packet start.position ∧
      finish.position = content.stop ∧
      holds (content.within start.packet)

/-- The next octets are those of the packet in the span that begins at the cursor. -/
theorem take_rest_eq_within (cursor : Cursor) (count : Nat) :
    cursor.rest.take count =
      Span.within ⟨cursor.position, cursor.position + count⟩ cursor.packet := by
  rw [rest, Span.within, Nat.add_sub_cancel_left]

theorem took_iff
    {start finish : Cursor}
    {count : Nat}
    {holds : Octets → Prop} :
    (finish.packet = start.packet ∧ start.Took finish count holds) ↔
      count ≤ start.remaining ∧
        finish = start.advanced count ∧
        holds (start.rest.take count) := by
  rw [take_rest_eq_within]
  constructor
  · rintro ⟨samePacket, stop, held⟩
    have inside : finish.position ≤ finish.packet.length := finish.insidePacket
    rw [samePacket, stop] at inside
    have fits : count ≤ start.remaining := Nat.le_sub_of_add_le' inside
    rw [stop] at held
    exact ⟨fits, eq_of_position samePacket (stop.trans (position_advanced fits).symm), held⟩
  · rintro ⟨fits, rfl, held⟩
    have stop : (start.advanced count).position = start.position + count :=
      position_advanced fits
    rw [← stop] at held
    exact ⟨rfl, stop, held⟩

/-- Octets that come next are those between the cursor and the place behind them. -/
theorem exists_took_iff
    {start finish : Cursor}
    {holds : Octets → Prop} :
    (finish.packet = start.packet ∧ ∃ count, start.Took finish count holds) ↔
      ∃ taken, taken <+: start.rest ∧ holds taken ∧ finish = start.advanced taken.length := by
  constructor
  · rintro ⟨samePacket, count, took⟩
    obtain ⟨fits, moved, held⟩ := took_iff.mp ⟨samePacket, took⟩
    have taken : (start.rest.take count).length = count := by
      rw [List.length_take, length_rest, Nat.min_eq_left fits]
    exact ⟨start.rest.take count, List.take_prefix _ _, held, taken.symm ▸ moved⟩
  · rintro ⟨taken, next, held, moved⟩
    have isTaken : taken = start.rest.take taken.length := List.prefix_iff_eq_take.mp next
    obtain ⟨samePacket, took⟩ :=
      took_iff.mpr ⟨length_le_remaining next, moved, isTaken ▸ held⟩
    exact ⟨samePacket, taken.length, took⟩

end Cursor

namespace Read

variable {start finish : Cursor}

/-! ## Reads of so many octets -/

/-- An action succeeds just if so many octets follow; it takes them and gives what they mean. -/
def Takes (action : Read Result) (count : Nat) (meaning : Octets → Result) : Prop :=
  ∀ start result finish,
    action.run start = .ok result finish ↔
      finish.packet = start.packet ∧ start.Took finish count (result = meaning ·)

theorem takes_octets (count : Nat) : (octets count).Takes count id := by
  intro start taken finish
  rw [Cursor.took_iff]
  constructor
  · intro succeeds
    rcases Nat.lt_or_ge start.remaining count with overrun | fits
    · rw [run_octets_of_lt overrun] at succeeds
      cases succeeds
    · rw [run_octets_of_le fits] at succeeds
      cases succeeds
      exact ⟨fits, rfl, rfl⟩
  · rintro ⟨fits, rfl, rfl⟩
    exact run_octets_of_le fits

namespace Takes

/-- What is made of the result is made of the meaning. -/
theorem map
    {action : Read First}
    {count : Nat}
    {meaning : Octets → First}
    (takes : action.Takes count meaning)
    (change : First → Second) :
    (do return change (← action) : Read Second).Takes count (change ∘ meaning) := by
  intro start result finish
  constructor
  · intro succeeds
    obtain ⟨first, between, reads, stops⟩ := run_bind_eq_ok succeeds
    cases stops
    obtain ⟨samePacket, stop, means⟩ := (takes start first finish).mp reads
    exact ⟨samePacket, stop, congrArg change means⟩
  · rintro ⟨samePacket, stop, rfl⟩
    have reads : action.run start = .ok _ finish :=
      (takes start _ finish).mpr ⟨samePacket, stop, rfl⟩
    exact run_bind_of_ok reads

theorem unsigned (width : Nat) : (unsigned width).Takes width Octets.littleEndian :=
  (takes_octets width).map Octets.littleEndian

theorem signed (width : Nat) : (signed width).Takes width Octets.signedLittleEndian :=
  (takes_octets width).map Octets.signedLittleEndian

theorem single : single.Takes 4 (Single.ofBits ∘ Octets.littleEndian) :=
  (unsigned 4).map Single.ofBits

theorem double : double.Takes 8 (Double.ofBits ∘ Octets.littleEndian) :=
  (unsigned 8).map Double.ofBits

theorem text (count : Nat) : (text count).Takes count Text.decode :=
  (takes_octets count).map Text.decode

theorem skip (count : Nat) : (skip count).Takes count fun _ => () :=
  (takes_octets count).map fun _ => ()

end Takes

/-! ## Length-encoded numbers -/

open LengthEncoded in
/-- A number behind its mark is spelled by the octets that the mark asks for. -/
theorem spells_of_run_marked
    {mark : UInt8}
    {width : Nat}
    {number : Option Nat}
    (isMark : (mark, width) ∈ markedWidths)
    (succeeds :
      (do return some (← unsigned width) : Read (Option Nat)).run start = .ok number finish) :
    ∃ behind,
      behind <+: start.rest ∧
        Spells (mark :: behind) number ∧
        finish = start.advanced behind.length := by
  obtain ⟨fits, moved, means⟩ :=
    Cursor.took_iff.mp (((Takes.unsigned width).map some start number finish).mp succeeds)
  have taken : (start.rest.take width).length = width := by
    rw [List.length_take, Cursor.length_rest, Nat.min_eq_left fits]
  refine ⟨start.rest.take width, List.take_prefix _ _, ?_, taken.symm ▸ moved⟩
  rw [means]
  exact .marked (by rwa [taken])

open LengthEncoded in
/-- What stands behind a first octet completes what the octet opens. -/
theorem spells_of_run_lengthEncodedBehind
    {octet : UInt8}
    {number : Option Nat}
    (succeeds : (lengthEncodedBehind octet.toNat).run start = .ok number finish) :
    ∃ behind,
      behind <+: start.rest ∧
        Spells (octet :: behind) number ∧
        finish = start.advanced behind.length := by
  by_cases isNull : octet = nullMark
  · subst isNull
    cases succeeds
    exact ⟨[], List.nil_prefix, .missing, (Cursor.advanced_zero start).symm⟩
  · by_cases isMark : ∃ width, (octet, width) ∈ markedWidths
    · obtain ⟨width, isMark⟩ := isMark
      rw [lengthEncodedBehind_of_mark isMark] at succeeds
      exact spells_of_run_marked isMark succeeds
    · have noMark : ∀ width, (octet, width) ∉ markedWidths := not_exists.mp isMark
      rw [lengthEncodedBehind_of_unmarked isNull noMark] at succeeds
      cases succeeds
      exact ⟨[], List.nil_prefix, .unmarked isNull noMark, (Cursor.advanced_zero start).symm⟩

open LengthEncoded in
/-- A length-encoded number is spelled by the octets up to where its reading ends. -/
theorem spells_of_run_lengthEncoded?
    {number : Option Nat}
    (succeeds : lengthEncoded?.run start = .ok number finish) :
    ∃ spelling,
      spelling <+: start.rest ∧
        Spells spelling number ∧
        finish = start.advanced spelling.length := by
  obtain ⟨first, between, opens, continues⟩ := run_bind_eq_ok succeeds
  obtain ⟨fits, rfl, means⟩ :=
    Cursor.took_iff.mp ((Takes.unsigned 1 start first between).mp opens)
  rw [← Cursor.length_rest] at fits
  obtain ⟨octet, rest, shape⟩ := List.exists_cons_of_length_pos fits
  have isOctet : first = octet.toNat := by
    simp [means, shape, Octets.littleEndian]
  rw [isOctet] at continues
  obtain ⟨behind, next, spells, rfl⟩ := spells_of_run_lengthEncodedBehind continues
  rw [Cursor.rest_advanced, shape, List.drop_succ_cons, List.drop_zero] at next
  refine ⟨octet :: behind, ?_, spells, ?_⟩
  · rw [shape]
    exact List.cons_prefix_cons.mpr ⟨rfl, next⟩
  · rw [Cursor.advanced_advanced, List.length_cons, Nat.add_comm]

open LengthEncoded in
theorem spells_of_run_lengthEncoded
    {number : Nat}
    (succeeds : lengthEncoded.run start = .ok number finish) :
    ∃ spelling,
      spelling <+: start.rest ∧
        Spells spelling (some number) ∧
        finish = start.advanced spelling.length := by
  obtain ⟨spelled, between, reads, continues⟩ := run_bind_eq_ok succeeds
  obtain ⟨spelling, next, spells, rfl⟩ := spells_of_run_lengthEncoded? reads
  cases spelled with
  | none => cases continues
  | some value =>
      cases continues
      exact ⟨spelling, next, spells, rfl⟩

/-- A length-encoded number is read just if the next octets spell it, and only they are taken. -/
theorem run_lengthEncoded?_eq_ok_iff
    {number : Option Nat} :
    lengthEncoded?.run start = .ok number finish ↔
      finish.packet = start.packet ∧
        ∃ count, start.Took finish count (LengthEncoded.Spells · number) := by
  rw [Cursor.exists_took_iff]
  constructor
  · exact spells_of_run_lengthEncoded?
  · rintro ⟨spelling, next, spells, rfl⟩
    obtain ⟨_, reads, rfl⟩ := accepts_lengthEncoded?_of_spells spells start rfl next
    exact reads

theorem run_lengthEncoded_eq_ok_iff
    {number : Nat} :
    lengthEncoded.run start = .ok number finish ↔
      finish.packet = start.packet ∧
        ∃ count, start.Took finish count (LengthEncoded.Spells · (some number)) := by
  rw [Cursor.exists_took_iff]
  constructor
  · exact spells_of_run_lengthEncoded
  · rintro ⟨spelling, next, spells, rfl⟩
    obtain ⟨_, reads, rfl⟩ := accepts_lengthEncoded_of_spells spells start rfl next
    exact reads

/-! ## Length-encoded strings -/

/-- An action succeeds just if an announced string follows, takes it and gives what it means. -/
def TakesAnnounced (action : Read Result) (meaning : Octets → Result) : Prop :=
  ∀ start result finish,
    action.run start = .ok result finish ↔
      finish.packet = start.packet ∧ start.TookAnnounced finish (result = meaning ·)

/-- Behind an announcement stands a string, if the packet has as many octets as announced. -/
theorem announcedAt_of_run
    {between : Cursor}
    {length : Nat}
    (announces : lengthEncoded.run start = .ok length between)
    (inside : between.position + length ≤ start.packet.length) :
    Span.AnnouncedAt ⟨between.position, between.position + length⟩ start.packet
      start.position := by
  obtain ⟨announcement, next, spells, rfl⟩ := spells_of_run_lengthEncoded announces
  have begins :
      (start.advanced announcement.length).position = start.position + announcement.length :=
    Cursor.position_advanced (Cursor.length_le_remaining next)
  exact ⟨announcement, length, next, spells, by rw [begins], inside⟩

/-- What takes as many octets as are announced takes an announced string. -/
theorem takesAnnounced_bind
    {next : Nat → Read Result}
    {meaning : Octets → Result}
    (takes : ∀ length, (next length).Takes length meaning) :
    (lengthEncoded >>= next).TakesAnnounced meaning := by
  intro start result finish
  constructor
  · intro succeeds
    obtain ⟨length, between, announces, continues⟩ := run_bind_eq_ok succeeds
    obtain ⟨samePacket, stop, means⟩ := (takes length between result finish).mp continues
    -- The octets are taken behind the announcement, but in the packet of the start.
    have announcedIn : between.packet = start.packet :=
      Forward.lengthEncoded.packet_of_ok announces
    rw [announcedIn] at samePacket means
    rw [stop] at means
    have inside : between.position + length ≤ start.packet.length := by
      rw [← stop, ← samePacket]
      exact finish.insidePacket
    exact ⟨samePacket, _, announcedAt_of_run announces inside, stop, means⟩
  · rintro ⟨samePacket, _, ⟨announcement, _, isNext, spells, rfl, _⟩, stop, means⟩
    obtain ⟨length, announces, rfl⟩ := accepts_lengthEncoded_of_spells spells start rfl isNext
    have begins :
        (start.advanced announcement.length).position =
          start.position + announcement.length :=
      Cursor.position_advanced (Cursor.length_le_remaining isNext)
    rw [run_bind_of_ok announces]
    refine (takes length _ result finish).mpr ⟨samePacket, ?_, ?_⟩
    · rw [begins, stop]
    · rw [begins, stop]
      exact means

namespace TakesAnnounced

/-- What is made of the result is made of the meaning. -/
theorem map
    {action : Read First}
    {meaning : Octets → First}
    (takes : action.TakesAnnounced meaning)
    (change : First → Second) :
    (do return change (← action) : Read Second).TakesAnnounced (change ∘ meaning) := by
  intro start result finish
  constructor
  · intro succeeds
    obtain ⟨first, between, reads, stops⟩ := run_bind_eq_ok succeeds
    cases stops
    obtain ⟨samePacket, content, announced, stop, means⟩ := (takes start first finish).mp reads
    exact ⟨samePacket, content, announced, stop, congrArg change means⟩
  · rintro ⟨samePacket, content, announced, stop, rfl⟩
    have reads : action.run start = .ok _ finish :=
      (takes start _ finish).mpr ⟨samePacket, content, announced, stop, rfl⟩
    exact run_bind_of_ok reads

theorem lengthEncodedOctets : lengthEncodedOctets.TakesAnnounced id :=
  takesAnnounced_bind takes_octets

theorem lengthEncodedText : lengthEncodedText.TakesAnnounced Text.decode :=
  takesAnnounced_bind Takes.text

theorem lengthEncodedPacket : lengthEncodedPacket.TakesAnnounced Cursor.ofPacket :=
  lengthEncodedOctets.map Cursor.ofPacket

end TakesAnnounced

/-- A string is read just if its octets come next, behind a number that is their count. -/
theorem run_lengthEncodedOctets_eq_ok_iff
    {taken : Octets} :
    lengthEncodedOctets.run start = .ok taken finish ↔
      ∃ announcement,
        LengthEncoded.Spells announcement (some taken.length) ∧
          announcement ++ taken <+: start.rest ∧
          finish = start.advanced (announcement ++ taken).length := by
  constructor
  · intro succeeds
    obtain ⟨length, between, announces, takes⟩ := run_bind_eq_ok succeeds
    obtain ⟨announcement, ⟨behind, follows⟩, spells, rfl⟩ :=
      spells_of_run_lengthEncoded announces
    obtain ⟨fits, moved, isTaken⟩ :=
      Cursor.took_iff.mp ((takes_octets length _ taken finish).mp takes)
    have isBehind : (start.advanced announcement.length).rest = behind := by
      rw [Cursor.rest_advanced, ← follows, List.drop_left]
    rw [isBehind] at isTaken
    have count : taken.length = length := by
      rw [← Cursor.length_rest, isBehind] at fits
      rw [isTaken, id, List.length_take, Nat.min_eq_left fits]
    refine ⟨announcement, count.symm ▸ spells, ?_, ?_⟩
    · rw [← follows, isTaken]
      exact (List.prefix_append_right_inj _).mpr (List.take_prefix _ _)
    · rw [moved, Cursor.advanced_advanced, List.length_append, count]
  · rintro ⟨announcement, spells, next, rfl⟩
    obtain ⟨_, reads, rfl⟩ := accepts_lengthEncodedOctets_of_spells spells start rfl next
    exact reads

/-- A passed string is announced where the passing began, and that place is the result. -/
theorem run_skipLengthEncoded_eq_ok_iff
    {began : Nat} :
    skipLengthEncoded.run start = .ok began finish ↔
      finish.packet = start.packet ∧ start.TookAnnounced finish fun _ => began = start.position :=
  have takes (length : Nat) :
      (do skip length; return start.position : Read Nat).Takes length fun _ => start.position :=
    (Takes.skip length).map fun _ => start.position
  takesAnnounced_bind takes start began finish

/-- A marked span is that of the string which was announced. -/
theorem announced_of_run_lengthEncodedSpan
    {span : Span}
    (succeeds : lengthEncodedSpan.run start = .ok span finish) :
    span.AnnouncedAt start.packet start.position ∧ finish.position = span.stop := by
  obtain ⟨length, between, announces, marks⟩ := run_bind_eq_ok succeeds
  obtain ⟨_, _, ⟨⟩, skips⟩ := run_bind_eq_ok marks
  obtain ⟨_, behind, passes, stops⟩ := run_bind_eq_ok skips
  cases stops
  obtain ⟨samePacket, stop, _⟩ := (Takes.skip length between () finish).mp passes
  have inside : between.position + length ≤ start.packet.length := by
    rw [← stop, ← Forward.lengthEncoded.packet_of_ok announces, ← samePacket]
    exact finish.insidePacket
  exact ⟨announcedAt_of_run announces inside, stop⟩

end Read

end ResultSet
