import Mathlib.Data.List.Forall2
import ResultSet.Packet.Message
import ResultSet.Proofs.Packet.Advance

namespace ResultSet

/-!
# Reading back what was written

An action accepts a string of octets when, wherever these octets come next in a
packet, it takes just them and its result means what it should.  Accepting is
closed under doing one thing after the other, so that a reader of a message
accepts what a writer puts together from parts.  The parts here are fixed-width
and length-encoded numbers and strings; a length-encoded length is below `2 ^ 64`,
as all lengths in an address space of 64 bits are.
-/

variable {First Second Result : Type}

namespace Read

/-- In a packet, an action takes the octets wherever they come next, and its result means as said. -/
def Accepts
    (packet octets : Octets)
    (action : Read Result)
    (means : Result → Prop) :
    Prop :=
  ∀ start : Cursor,
    start.packet = packet →
      octets <+: start.rest →
        ∃ result,
          action.run start = .ok result (start.advanced octets.length) ∧ means result

namespace Accepts

variable {packet : Octets}

theorem pure
    {means : Result → Prop}
    {result : Result}
    (meansResult : means result) :
    Accepts packet [] (Pure.pure result) means := by
  intro start _ _
  refine ⟨result, ?_, meansResult⟩
  rw [List.length_nil, Cursor.advanced_zero, EStateM.run_pure]

/-- Octets that come next fall into those that come next and those that come behind them. -/
theorem next_of_append
    {start : Cursor}
    {front back : Octets}
    (next : front ++ back <+: start.rest) :
    front <+: start.rest ∧ back <+: (start.advanced front.length).rest := by
  obtain ⟨behind, follows⟩ := next
  refine ⟨⟨back ++ behind, ?_⟩, ⟨behind, ?_⟩⟩
  · rw [← List.append_assoc, follows]
  · rw [Cursor.rest_advanced, ← follows, List.append_assoc, List.drop_left]

theorem bind
    {front back : Octets}
    {action : Read First}
    {next : First → Read Second}
    {meansFirst : First → Prop}
    {means : Second → Prop}
    (acceptsFront : Accepts packet front action meansFirst)
    (acceptsBack : ∀ first, meansFirst first → Accepts packet back (next first) means) :
    Accepts packet (front ++ back) (action >>= next) means := by
  intro start samePacket bothNext
  obtain ⟨frontNext, backNext⟩ := next_of_append bothNext
  obtain ⟨first, takesFront, meansFirstResult⟩ := acceptsFront start samePacket frontNext
  obtain ⟨second, takesBack, meansResult⟩ :=
    acceptsBack first meansFirstResult (start.advanced front.length) samePacket backNext
  refine ⟨second, ?_, meansResult⟩
  rw [run_bind_of_ok takesFront, takesBack, Cursor.advanced_advanced, List.length_append]

/-- What is done after an action without taking octets leaves the octets as they are. -/
theorem andThen
    {octets : Octets}
    {action : Read First}
    {next : First → Read Second}
    {meansFirst : First → Prop}
    {means : Second → Prop}
    (accepts : Accepts packet octets action meansFirst)
    (afterwards : ∀ first, meansFirst first → Accepts packet [] (next first) means) :
    Accepts packet octets (action >>= next) means := by
  rw [← List.append_nil octets]
  exact accepts.bind afterwards

/-- What is made of a result may mean something else. -/
theorem map
    {octets : Octets}
    {change : First → Second}
    {action : Read First}
    {meansFirst : First → Prop}
    {means : Second → Prop}
    (accepts : Accepts packet octets action meansFirst)
    (changed : ∀ first, meansFirst first → means (change first)) :
    Accepts packet octets (change <$> action) means := by
  rw [← bind_pure_comp]
  exact accepts.andThen fun first meansResult => .pure (changed first meansResult)

theorem imp
    {octets : Octets}
    {action : Read Result}
    {means meansAlso : Result → Prop}
    (accepts : Accepts packet octets action means)
    (implies : ∀ result, means result → meansAlso result) :
    Accepts packet octets action meansAlso := by
  intro start samePacket next
  obtain ⟨result, takes, meansResult⟩ := accepts start samePacket next
  exact ⟨result, takes, implies result meansResult⟩

/-- What is done before an action without taking octets leaves the octets as they are. -/
theorem before
    {octets : Octets}
    {action : Read First}
    {next : First → Read Second}
    {meansFirst : First → Prop}
    {means : Second → Prop}
    (beforehand : Accepts packet [] action meansFirst)
    (accepts : ∀ first, meansFirst first → Accepts packet octets (next first) means) :
    Accepts packet octets (action >>= next) means := by
  rw [← List.nil_append octets]
  exact beforehand.bind accepts

/-- One action for each item accepts the octets of all items in their order. -/
theorem mapM
    {Item : Type}
    {write : Item → Octets}
    {read : Item → Read Result}
    {means : Item → Result → Prop}
    {items : List Item}
    (accepts : ∀ item ∈ items, Accepts packet (write item) (read item) (means item)) :
    Accepts packet (items.flatMap write) (items.mapM read)
      (List.Forall₂ means items) := by
  induction items with
  | nil => exact pure .nil
  | cons item rest inductionHypothesis =>
      rw [List.flatMap_cons, List.mapM_cons]
      apply (accepts item List.mem_cons_self).bind
      intro result meansResult
      apply (inductionHypothesis fun other member =>
        accepts other (List.mem_cons_of_mem item member)).andThen
      intro results meanResults
      exact pure (.cons meansResult meanResults)

end Accepts

/-! ## Fixed widths -/

variable {packet : Octets}

theorem accepts_octets (taken : Octets) :
    Accepts packet taken (octets taken.length) (· = taken) := by
  intro start _ next
  refine ⟨taken, ?_, rfl⟩
  rw [run_octets_of_le (Cursor.length_le_remaining next), ← List.prefix_iff_eq_take.mp next]

theorem accepts_skip (taken : Octets) :
    Accepts packet taken (skip taken.length) (fun _ => True) :=
  (accepts_octets taken).andThen fun _ _ => .pure trivial

theorem accepts_text (taken : Octets) :
    Accepts packet taken (text taken.length) (· = Text.decode taken) := by
  apply (accepts_octets taken).andThen
  rintro _ rfl
  exact .pure rfl

theorem accepts_position :
    Accepts packet [] position (fun _ => True) := by
  intro start _ _
  refine ⟨start.position, ?_, trivial⟩
  rw [List.length_nil, Cursor.advanced_zero]
  rfl

/-- Octets are read as the number that they are. -/
theorem accepts_unsigned_octets (taken : Octets) :
    Accepts packet taken (unsigned taken.length) (· = Octets.littleEndian taken) := by
  apply (accepts_octets taken).andThen
  rintro _ rfl
  exact .pure rfl

/-- A number is read back up to the modulus of its width. -/
theorem accepts_unsigned_mod (width number : Nat) :
    Accepts packet (Message.unsigned width number) (unsigned width)
      (· = number % 256 ^ width) := by
  have accepts :
      Accepts packet (Octets.ofNat width number) (unsigned (Octets.ofNat width number).length)
        (· = Octets.littleEndian (Octets.ofNat width number)) :=
    accepts_unsigned_octets _
  rwa [Octets.length_ofNat, Octets.littleEndian_ofNat] at accepts

/-- A number that fits its width is read back. -/
theorem accepts_unsigned
    {width number : Nat}
    (small : number < 256 ^ width) :
    Accepts packet (Message.unsigned width number) (unsigned width) (· = number) := by
  have accepts : Accepts packet (Message.unsigned width number) (unsigned width)
      (· = number % 256 ^ width) :=
    accepts_unsigned_mod width number
  rwa [Nat.mod_eq_of_lt small] at accepts

theorem accepts_octet (octet : UInt8) :
    Accepts packet [octet] (unsigned 1) (· = octet.toNat) := by
  apply (accepts_unsigned_octets [octet]).imp
  rintro _ rfl
  simp [Octets.littleEndian]

end Read

/-! ## Spellings of length-encoded numbers -/

namespace LengthEncoded

/-- The marks in front of numbers, each with the octets of its number. -/
def markedWidths : List (UInt8 × Nat) :=
  [(twoOctetMark, 2), (threeOctetMark, 3), (eightOctetMark, 8)]

/-- The octets that spell a length-encoded number, or the missing of one. -/
inductive Spells : Octets → Option Nat → Prop where
  | missing :
      Spells [nullMark] none
  | unmarked
      {octet : UInt8}
      (noNull : octet ≠ nullMark)
      (noMark : ∀ width, (octet, width) ∉ markedWidths) :
      Spells [octet] (some octet.toNat)
  | marked
      {mark : UInt8}
      {octets : Octets}
      (isMark : (mark, octets.length) ∈ markedWidths) :
      Spells (mark :: octets) (some (Octets.littleEndian octets))

/-- Octets below those that open something else spell themselves. -/
theorem spells_of_lt
    {octet : UInt8}
    (unmarked : octet.toNat < nullMark.toNat) :
    Spells [octet] (some octet.toNat) := by
  have marksAbove : ∀ entry ∈ markedWidths, nullMark.toNat < entry.1.toNat := by decide
  refine .unmarked ?_ fun width isMark => ?_
  · rintro rfl
    exact Nat.lt_irrefl _ unmarked
  · exact Nat.lt_asymm unmarked (marksAbove _ isMark)

theorem spells_of_mark
    {mark : UInt8}
    {width number : Nat}
    (isMark : (mark, width) ∈ markedWidths)
    (small : number < 256 ^ width) :
    Spells (mark :: Octets.ofNat width number) (some number) := by
  have spells :
      Spells (mark :: Octets.ofNat width number)
        (some (Octets.littleEndian (Octets.ofNat width number))) :=
    .marked (by rwa [Octets.length_ofNat])
  rwa [Octets.littleEndian_ofNat, Nat.mod_eq_of_lt small] at spells

/-- What is written for a number spells it, in each of the four forms. -/
theorem spells_lengthEncoded
    {number : Nat}
    (small : number < 2 ^ 64) :
    Spells (Message.lengthEncoded number) (some number) := by
  rw [Message.lengthEncoded]
  split
  · rename_i unmarked
    have octet : (UInt8.ofNat number).toNat = number :=
      UInt8.toNat_ofNat_of_lt (Nat.lt_trans unmarked (by decide))
    have spells : Spells [UInt8.ofNat number] (some (UInt8.ofNat number).toNat) :=
      spells_of_lt (octet.symm ▸ unmarked)
    rwa [octet] at spells
  · split
    · rename_i fits
      exact spells_of_mark (by decide) fits
    · split
      · rename_i fits
        exact spells_of_mark (by decide) fits
      · exact spells_of_mark (by decide) small

end LengthEncoded

namespace Read

/-! ## Length-encoded numbers and strings -/

variable {packet : Octets}

theorem lengthEncodedBehind_of_unmarked
    {octet : UInt8}
    (noNull : octet ≠ LengthEncoded.nullMark)
    (noMark : ∀ width, (octet, width) ∉ LengthEncoded.markedWidths) :
    lengthEncodedBehind octet.toNat = return some octet.toNat := by
  simp only [LengthEncoded.markedWidths, List.mem_cons, List.not_mem_nil, or_false,
    Prod.mk.injEq, not_or] at noMark
  simp only [lengthEncodedBehind, UInt8.toNat_inj]
  rw [if_neg noNull, if_neg fun two => (noMark 2).1 ⟨two, rfl⟩,
    if_neg fun three => (noMark 3).2.1 ⟨three, rfl⟩,
    if_neg fun eight => (noMark 8).2.2 ⟨eight, rfl⟩]

theorem lengthEncodedBehind_of_mark
    {mark : UInt8}
    {width : Nat}
    (isMark : (mark, width) ∈ LengthEncoded.markedWidths) :
    lengthEncodedBehind mark.toNat = do return some (← unsigned width) := by
  simp only [LengthEncoded.markedWidths, List.mem_cons, List.not_mem_nil, or_false,
    Prod.mk.injEq] at isMark
  rcases isMark with ⟨rfl, rfl⟩ | ⟨rfl, rfl⟩ | ⟨rfl, rfl⟩
  · rfl
  · rfl
  · rfl

/-- A length-encoded number is read from whatever octets spell it. -/
theorem accepts_lengthEncoded?_of_spells
    {spelling : Octets}
    {number : Option Nat}
    (spells : LengthEncoded.Spells spelling number) :
    Accepts packet spelling lengthEncoded? (· = number) := by
  cases spells with
  | missing =>
      apply (accepts_octet LengthEncoded.nullMark).andThen
      rintro _ rfl
      exact .pure rfl
  | unmarked noNull noMark =>
      apply (accepts_octet _).andThen
      rintro _ rfl
      rw [lengthEncodedBehind_of_unmarked noNull noMark]
      exact .pure rfl
  | marked isMark =>
      rw [← List.singleton_append]
      apply (accepts_octet _).bind
      rintro _ rfl
      rw [lengthEncodedBehind_of_mark isMark]
      apply (accepts_unsigned_octets _).andThen
      rintro _ rfl
      exact .pure rfl

theorem accepts_lengthEncoded?_null :
    Accepts packet [LengthEncoded.nullMark] lengthEncoded? (· = none) :=
  accepts_lengthEncoded?_of_spells .missing

theorem accepts_lengthEncoded?
    {number : Nat}
    (small : number < 2 ^ 64) :
    Accepts packet (Message.lengthEncoded number) lengthEncoded? (· = some number) :=
  accepts_lengthEncoded?_of_spells (LengthEncoded.spells_lengthEncoded small)

theorem accepts_lengthEncoded_of_spells
    {spelling : Octets}
    {number : Nat}
    (spells : LengthEncoded.Spells spelling (some number)) :
    Accepts packet spelling lengthEncoded (· = number) := by
  apply (accepts_lengthEncoded?_of_spells spells).andThen
  rintro _ rfl
  exact .pure rfl

theorem accepts_lengthEncoded
    {number : Nat}
    (small : number < 2 ^ 64) :
    Accepts packet (Message.lengthEncoded number) lengthEncoded (· = number) :=
  accepts_lengthEncoded_of_spells (LengthEncoded.spells_lengthEncoded small)

variable {written : Octets}

theorem accepts_lengthEncodedOctets_of_spells
    {announcement : Octets}
    (spells : LengthEncoded.Spells announcement (some written.length)) :
    Accepts packet (announcement ++ written) lengthEncodedOctets (· = written) := by
  apply (accepts_lengthEncoded_of_spells spells).bind
  rintro _ rfl
  exact accepts_octets written

theorem accepts_lengthEncodedOctets
    (addressable : written.length < 2 ^ 64) :
    Accepts packet (Message.lengthEncodedOctets written) lengthEncodedOctets (· = written) :=
  accepts_lengthEncodedOctets_of_spells (LengthEncoded.spells_lengthEncoded addressable)

theorem accepts_lengthEncodedText
    (addressable : written.length < 2 ^ 64) :
    Accepts packet (Message.lengthEncodedOctets written) lengthEncodedText
      (· = Text.decode written) := by
  apply (accepts_lengthEncoded addressable).bind
  rintro _ rfl
  exact accepts_text written

theorem accepts_skipLengthEncoded
    (addressable : written.length < 2 ^ 64) :
    Accepts packet (Message.lengthEncodedOctets written) skipLengthEncoded
      (fun _ => True) := by
  apply accepts_position.before
  intro start _
  apply (accepts_lengthEncoded addressable).bind
  rintro _ rfl
  apply (accepts_skip written).andThen
  intro _ _
  exact .pure trivial

/-- The span of a length-encoded string holds just the octets of the string. -/
theorem accepts_lengthEncodedSpan
    (addressable : written.length < 2 ^ 64) :
    Accepts packet (Message.lengthEncodedOctets written) lengthEncodedSpan
      (fun span => span.within packet = written) := by
  apply (accepts_lengthEncoded addressable).bind
  rintro _ rfl
  intro start samePacket next
  have taken : start.rest.take written.length = written :=
    (List.prefix_iff_eq_take.mp next).symm
  refine ⟨⟨start.position, start.position + written.length⟩, ?_, ?_⟩
  · obtain ⟨_, passes, _⟩ := accepts_skip written start samePacket next
    have stands : position.run start = .ok start.position start := rfl
    rw [run_bind_of_ok stands, run_bind_of_ok passes, EStateM.run_pure]
  · subst samePacket
    simp only [Span.within, Nat.add_sub_cancel_left]
    exact taken

end Read

end ResultSet
