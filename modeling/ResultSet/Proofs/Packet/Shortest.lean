import ResultSet.Proofs.Number.Positional
import ResultSet.Proofs.Packet.Announcement

namespace ResultSet

/-!
# The shortest spelling of a length-encoded number

Most numbers have several spellings, for a mark takes any number that its octets hold.  What
is written has the fewest octets, and nothing else of as few octets is read as the number.
There is one exception.  The greatest octet is no mark, so that it is read as the number 255
by itself; but it is not below the marks, so that this number is written behind a mark.
-/

namespace Octets

/-- The octets of the number that octets spell are these octets. -/
theorem ofNat_littleEndian (octets : Octets) :
    ofNat octets.length octets.littleEndian = octets := by
  rw [← littleEndian_inj_of_length_eq (length_ofNat _ _), littleEndian_ofNat,
    Nat.mod_eq_of_lt octets.littleEndian_lt]

end Octets

namespace LengthEncoded

/-- Octets are read as a length-encoded number, and nothing is left behind it. -/
def ReadsWhole (octets : Octets) (number : Nat) : Prop :=
  ∃ finish,
    Read.lengthEncoded.run (Cursor.ofPacket octets) = .ok number finish ∧
      finish.remaining = 0

/-- Octets are read as a number for which no others are as short. -/
structure IsShortest (octets : Octets) (number : Nat) : Prop where
  reads : ReadsWhole octets number
  shorter : ∀ other, ReadsWhole other number → other ≠ octets → octets.length < other.length

variable {octets : Octets} {number : Nat}

/-- The octets that are read as a number, all of them, are its spellings. -/
theorem readsWhole_iff_spells : ReadsWhole octets number ↔ Spells octets (some number) := by
  constructor
  · rintro ⟨finish, reads, nothingLeft⟩
    obtain ⟨spelling, next, spells, rfl⟩ := Read.spells_of_run_lengthEncoded reads
    rw [Cursor.remaining_advanced, ← Cursor.length_rest] at nothingLeft
    have whole : spelling = octets := next.eq_of_length_le (Nat.le_of_sub_eq_zero nothingLeft)
    exact whole ▸ spells
  · intro spells
    obtain ⟨_, reads, rfl⟩ :=
      Read.accepts_lengthEncoded_of_spells spells (Cursor.ofPacket octets) rfl List.prefix_rfl
    refine ⟨_, reads, ?_⟩
    rw [Cursor.remaining_advanced]
    exact Nat.sub_self _

/-- A number that fits behind a mark is written so, or else in fewer octets. -/
theorem lengthEncoded_of_mark
    {mark : UInt8}
    {width : Nat}
    (isMark : (mark, width) ∈ markedWidths)
    (fits : number < 256 ^ width) :
    Message.lengthEncoded number = mark :: Octets.ofNat width number ∨
      (Message.lengthEncoded number).length < width + 1 := by
  simp only [markedWidths, List.mem_cons, List.not_mem_nil, or_false, Prod.mk.injEq] at isMark
  rw [Message.lengthEncoded]
  rcases isMark with ⟨rfl, rfl⟩ | ⟨rfl, rfl⟩ | ⟨rfl, rfl⟩
  · split
    · exact .inr (by simp)
    · exact .inl rfl
  · repeat' split
    · exact .inr (by simp)
    · exact .inr (by simp)
    · exact .inl rfl
  · repeat' split
    · exact .inr (by simp)
    · exact .inr (by simp)
    · exact .inr (by simp)
    · exact .inl rfl

/-- An octet below the marks is what is written for its number. -/
theorem lengthEncoded_of_lt
    {octet : UInt8}
    (unmarked : octet.toNat < nullMark.toNat) :
    Message.lengthEncoded octet.toNat = [octet] := by
  rw [Message.lengthEncoded, if_pos unmarked, Octets.ofNat, Octets.ofNat, UInt8.ofNat_toNat]

/-- An octet that opens nothing else is below the marks or the greatest of all octets. -/
theorem lt_or_eq_of_unmarked
    {octet : UInt8}
    (noNull : octet ≠ nullMark)
    (noMark : ∀ width, (octet, width) ∉ markedWidths) :
    octet.toNat < nullMark.toNat ∨ octet = 0xFF := by
  have noTwo : octet ≠ twoOctetMark := fun two => noMark 2 (by rw [two]; decide)
  have noThree : octet ≠ threeOctetMark := fun three => noMark 3 (by rw [three]; decide)
  have noEight : octet ≠ eightOctetMark := fun eight => noMark 8 (by rw [eight]; decide)
  have small := octet.toNat_lt
  simp only [nullMark, twoOctetMark, threeOctetMark, eightOctetMark, ne_eq, ← UInt8.toNat_inj,
    UInt8.reduceToNat] at noNull noTwo noThree noEight ⊢
  omega

/-- A spelling is the greatest octet, or it is what is written, or that is shorter. -/
theorem written_or_longer_of_spells
    (spells : Spells octets (some number)) :
    octets = [0xFF] ∨
      Message.lengthEncoded number = octets ∨
      (Message.lengthEncoded number).length < octets.length := by
  cases spells with
  | unmarked noNull noMark =>
      rcases lt_or_eq_of_unmarked noNull noMark with unmarked | rfl
      · exact .inr (.inl (lengthEncoded_of_lt unmarked))
      · exact .inl rfl
  | @marked mark behind isMark =>
      have written := lengthEncoded_of_mark isMark behind.littleEndian_lt
      rw [Octets.ofNat_littleEndian] at written
      exact .inr written

theorem number_of_greatestOctet
    (reads : ReadsWhole [0xFF] number) :
    number = 255 := by
  rw [readsWhole_iff_spells] at reads
  cases reads with
  | unmarked noNull noMark => rfl
  | marked isMark => exact absurd isMark (by decide)

end LengthEncoded

open LengthEncoded in
/--
What is written for a number is its shortest spelling, and the only one of its length, but
for the number 255.  A spelling is neither shorter than what is written nor another one of
the same length, unless it is the greatest octet alone.
-/
theorem written_number_is_shortest_iff
    {number : Nat}
    (small : number < 2 ^ 64) :
    (IsShortest (Message.lengthEncoded number) number ↔ number ≠ 255) ∧
      ∀ octets,
        ReadsWhole octets number →
          ((Message.lengthEncoded number).length ≤ octets.length ∧
              ((Message.lengthEncoded number).length = octets.length →
                Message.lengthEncoded number = octets) ↔
            octets ≠ [0xFF]) := by
  have reads : ReadsWhole (Message.lengthEncoded number) number :=
    readsWhole_iff_spells.mpr (spells_lengthEncoded small)
  refine ⟨⟨?_, fun notGreatest => ⟨reads, fun other readsOther isOther => ?_⟩⟩,
    fun octets readsOctets => ⟨?_, fun notGreatest => ?_⟩⟩
  · rintro ⟨-, shorter⟩ rfl
    have greatest : ReadsWhole [0xFF] 255 := ⟨_, rfl, rfl⟩
    exact absurd (shorter [0xFF] greatest (by decide)) (by decide)
  · rcases written_or_longer_of_spells (readsWhole_iff_spells.mp readsOther) with
      rfl | same | longer
    · exact absurd (number_of_greatestOctet readsOther) notGreatest
    · exact absurd same.symm isOther
    · exact longer
  · rintro ⟨noLonger, -⟩ rfl
    rw [number_of_greatestOctet readsOctets] at noLonger
    exact absurd noLonger (by decide)
  · rcases written_or_longer_of_spells (readsWhole_iff_spells.mp readsOctets) with
      isGreatest | rfl | longer
    · exact absurd isGreatest notGreatest
    · exact ⟨Nat.le_refl _, fun _ => rfl⟩
    · exact ⟨Nat.le_of_lt longer, fun sameLength => absurd sameLength (Nat.ne_of_lt longer)⟩

open LengthEncoded in
/-- The least number that needs a mark is written shortest, though eight octets spell it, too. -/
theorem written_251_is_shortest :
    let octets : Octets := [0xFE, 0xFB, 0, 0, 0, 0, 0, 0, 0]
    251 < 2 ^ 64 ∧
      ReadsWhole octets 251 ∧
      IsShortest (Message.lengthEncoded 251) 251 ∧
      (Message.lengthEncoded 251).length ≤ octets.length := by
  intro octets
  have small : 251 < 2 ^ 64 := by decide
  have reads : ReadsWhole octets 251 := ⟨_, rfl, rfl⟩
  obtain ⟨isShortest, bounds⟩ := written_number_is_shortest_iff small
  exact ⟨small, reads, isShortest.mpr (by decide), ((bounds octets reads).mpr (by decide)).1⟩

open LengthEncoded in
/-- The greatest octet is read as the number 255, which is written in three octets. -/
theorem greatest_octet_is_shorter_than_written :
    ReadsWhole [0xFF] 255 ∧
      Message.lengthEncoded 255 = [0xFC, 0xFF, 0] ∧
      ¬ (Message.lengthEncoded 255).length ≤ ([0xFF] : Octets).length :=
  ⟨⟨_, rfl, rfl⟩, by decide, by decide⟩

end ResultSet
