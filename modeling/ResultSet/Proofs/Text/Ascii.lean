import Mathlib.Data.String.Defs
import ResultSet.Text.Utf8

namespace ResultSet.Text

/-!
# Octets beyond ASCII

A character of ASCII is one octet below 0x80.  An octet from 0x80 on is part of a character
of several octets, whose code is beyond ASCII whatever octets complete it, or it spells no
character, and then a character beyond ASCII stands in its place.  Either way a text shows
that not all of its octets are ASCII, and characters once read stay.
-/

/-- Whether all characters are of ASCII. -/
def AllAscii (characters : List Char) : Prop :=
  ∀ character ∈ characters, character.isAscii = true

instance (characters : List Char) : Decidable (AllAscii characters) :=
  decidable_of_iff _ List.all_eq_true

theorem isAscii_replacement : replacement.isAscii = false := rfl

namespace Pending

/-- The least code of a character whose next octet adds so many to the bits read. -/
def leastCode
    (pending : Pending)
    (bits : Nat) :
    Nat :=
  64 ^ (pending.missing - 1) * (64 * pending.code + bits)

theorem leastCode_le
    (pending : Pending)
    {bits more : Nat}
    (atMost : bits ≤ more) :
    pending.leastCode bits ≤ pending.leastCode more :=
  Nat.mul_le_mul_left _ (Nat.add_le_add_left atMost _)

/-- Six bits more of a character are six bits fewer of those that are missing. -/
theorem leastCode_next
    (pending : Pending)
    (goesOn : 2 ≤ pending.missing)
    (bits more : Nat) :
    leastCode ⟨64 * pending.code + bits, pending.missing - 1, 0x80, 0xBF⟩ (64 * more) =
      pending.leastCode (bits + more) := by
  have unit : 64 ^ (pending.missing - 1) = 64 ^ (pending.missing - 1 - 1) * 64 := by
    rw [← Nat.pow_succ]
    congr 1
    omega
  rw [leastCode, leastCode, unit, Nat.mul_assoc, ← Nat.mul_add, Nat.add_assoc]

/--
Whether all octets that may complete a character make it one beyond ASCII: no code below
0x80 is left, and no code that is none of a character.
-/
structure LeadsBeyondAscii (pending : Pending) : Prop where
  misses : 1 ≤ pending.missing
  continues : 0x80 ≤ pending.lowest
  beyond : 0x80 ≤ pending.leastCode (pending.lowest - 0x80)
  isValid :
    pending.leastCode (pending.highest - 0x80 + 1) ≤ 0xD800 ∨
      0xDFFF < pending.leastCode (pending.lowest - 0x80) ∧
        pending.leastCode (pending.highest - 0x80 + 1) ≤ 0x110000

namespace LeadsBeyondAscii

variable {pending : Pending} (leads : pending.LeadsBeyondAscii)
  {octet : Nat} (lower : pending.lowest ≤ octet) (upper : octet ≤ pending.highest)

include leads lower upper

/-- The codes that an octet leaves are among those that were left before. -/
theorem bounds :
    0x80 ≤ pending.leastCode (octet - 0x80) ∧
      (pending.leastCode (octet - 0x80 + 1) ≤ 0xD800 ∨
        0xDFFF < pending.leastCode (octet - 0x80) ∧
          pending.leastCode (octet - 0x80 + 1) ≤ 0x110000) := by
  have fromLowest := pending.leastCode_le (Nat.sub_le_sub_right lower 0x80)
  have upToHighest :=
    pending.leastCode_le (Nat.succ_le_succ (Nat.sub_le_sub_right upper 0x80))
  have beyond := leads.beyond
  have isValid := leads.isValid
  rw [Nat.succ_eq_add_one, Nat.succ_eq_add_one] at upToHighest
  omega

/-- The last octet completes a character beyond ASCII. -/
theorem isAscii_last
    (isLast : pending.missing = 1) :
    (Char.ofNat (64 * pending.code + (octet - 0x80))).isAscii = false := by
  have bounds := leads.bounds lower upper
  simp only [leastCode, isLast, Nat.sub_self, Nat.pow_zero, Nat.one_mul] at bounds
  have isValid : (64 * pending.code + (octet - 0x80)).isValidChar := by
    rw [Nat.isValidChar]
    omega
  have isCode :
      (Char.ofNat (64 * pending.code + (octet - 0x80))).toNat =
        64 * pending.code + (octet - 0x80) := by
    rw [Char.ofNat, dif_pos isValid]
    rfl
  refine decide_eq_false ?_
  rw [isCode]
  omega

/-- Any other octet leaves characters beyond ASCII only. -/
theorem next
    (goesOn : pending.missing ≠ 1) :
    LeadsBeyondAscii
      ⟨64 * pending.code + (octet - 0x80), pending.missing - 1, 0x80, 0xBF⟩ := by
  have misses := leads.misses
  have bounds := leads.bounds lower upper
  generalize octet - 0x80 = bits at bounds ⊢
  have further : 2 ≤ pending.missing := by omega
  have least := pending.leastCode_next further bits 0
  have afterLast := pending.leastCode_next further bits 1
  refine ⟨?_, ?_, ?_, ?_⟩
  · exact Nat.le_sub_one_of_lt further
  · exact Nat.le_refl _
  · simp only [Nat.sub_self]
    rw [Nat.mul_zero] at least
    rw [least]
    exact bounds.1
  · simp only [Nat.sub_self, Nat.reduceSub, Nat.reduceAdd]
    rw [Nat.mul_zero] at least
    rw [Nat.mul_one] at afterLast
    rw [least, afterLast]
    exact bounds.2

end LeadsBeyondAscii

end Pending

/-- Whether an octet begins no character of ASCII. -/
def Lead.LeavesAscii : Lead → Prop
  | .character first => first.isAscii = false
  | .sequence opened => opened.LeadsBeyondAscii
  | .invalid => True

theorem Lead.leavesAscii_ofNat
    {octet : Nat}
    (beyond : 0x80 ≤ octet) :
    (ofNat octet).LeavesAscii := by
  rw [ofNat, if_neg (Nat.not_lt.mpr beyond)]
  -- The next octet is bounded just so that no code is too small, too great or a surrogate.
  repeat' split
  any_goals exact trivial
  all_goals
    refine ⟨?_, ?_, ?_, ?_⟩
    all_goals
      simp only [Pending.leastCode, Nat.reduceSub, Nat.reducePow, Nat.reduceAdd]
      omega

namespace Decoder

variable {reversed : List Char} {octet : UInt8} {decoder : Decoder} {octets : Octets}

/-- Whether a character beyond ASCII was read, or is being read. -/
def HasLeftAscii (decoder : Decoder) : Prop :=
  (∃ character ∈ decoder.reversed, character.isAscii = false) ∨
    ∃ pending ∈ decoder.pending, pending.LeadsBeyondAscii

theorem hasLeftAscii_between_iff :
    HasLeftAscii ⟨none, reversed⟩ ↔ ∃ character ∈ reversed, character.isAscii = false := by
  simp [HasLeftAscii]

/-- Characters that were read stay read. -/
theorem hasLeftAscii_start_of_mem
    (wasRead : ∃ character ∈ reversed, character.isAscii = false) :
    (start reversed octet).HasLeftAscii := by
  obtain ⟨character, member, beyond⟩ := wasRead
  rw [start]
  split
  · exact .inl ⟨character, List.mem_cons_of_mem _ member, beyond⟩
  · exact .inl ⟨character, member, beyond⟩
  · exact .inl ⟨character, List.mem_cons_of_mem _ member, beyond⟩

theorem hasLeftAscii_start_of_beyond
    (beyond : 0x80 ≤ octet.toNat) :
    (start reversed octet).HasLeftAscii := by
  have leaves := Lead.leavesAscii_ofNat beyond
  rw [start]
  cases lead : Lead.ofNat octet.toNat with
  | character character =>
      rw [lead] at leaves
      exact .inl ⟨character, List.mem_cons_self, leaves⟩
  | sequence pending =>
      rw [lead] at leaves
      exact .inr ⟨pending, rfl, leaves⟩
  | invalid => exact .inl ⟨replacement, List.mem_cons_self, isAscii_replacement⟩

/-- One more octet does not lead back to ASCII. -/
theorem HasLeftAscii.feed
    (left : decoder.HasLeftAscii)
    (octet : UInt8) :
    (decoder.feed octet).HasLeftAscii := by
  rcases decoder with ⟨_ | pending, reversed⟩
  · exact hasLeftAscii_start_of_mem (hasLeftAscii_between_iff.mp left)
  · simp only [Decoder.feed]
    split
    · rename_i within
      rcases left with ⟨character, member, beyond⟩ | ⟨_, ⟨⟩, leads⟩
      · split
        · exact .inl ⟨character, List.mem_cons_of_mem _ member, beyond⟩
        · exact .inl ⟨character, member, beyond⟩
      · split
        · rename_i isLast
          exact .inl ⟨_, List.mem_cons_self, leads.isAscii_last within.1 within.2 isLast⟩
        · rename_i goesOn
          exact .inr ⟨_, rfl, leads.next within.1 within.2 goesOn⟩
    · exact hasLeftAscii_start_of_mem ⟨replacement, List.mem_cons_self, isAscii_replacement⟩

theorem HasLeftAscii.foldl_feed
    (left : decoder.HasLeftAscii)
    (octets : Octets) :
    (octets.foldl Decoder.feed decoder).HasLeftAscii := by
  induction octets generalizing decoder with
  | nil => exact left
  | cons first rest inductionHypothesis => exact inductionHypothesis (left.feed first)

/-- An octet beyond ASCII leaves it, wherever it stands behind characters of ASCII. -/
theorem hasLeftAscii_foldl_feed
    (beyond : ∃ octet ∈ octets, 0x80 ≤ octet.toNat)
    (reversed : List Char) :
    (octets.foldl feed ⟨none, reversed⟩).HasLeftAscii := by
  -- What was read before is generalized, for the octets in front are characters already.
  induction octets generalizing reversed with
  | nil => simp at beyond
  | cons first rest inductionHypothesis =>
      rw [List.foldl_cons]
      by_cases firstBeyond : 0x80 ≤ first.toNat
      · exact (hasLeftAscii_start_of_beyond firstBeyond).foldl_feed rest
      · have restBeyond : ∃ octet ∈ rest, 0x80 ≤ octet.toNat := by
          simpa [firstBeyond] using beyond
        have read :
            feed ⟨none, reversed⟩ first = ⟨none, Char.ofNat first.toNat :: reversed⟩ := by
          simp only [feed, start, Lead.ofNat, Nat.not_le.mp firstBeyond, ↓reduceIte]
        rw [read]
        exact inductionHypothesis restBeyond _

theorem HasLeftAscii.exists_mem_finish
    (left : decoder.HasLeftAscii) :
    ∃ character ∈ decoder.finish, character.isAscii = false := by
  rcases decoder with ⟨_ | pending, reversed⟩
  · obtain ⟨character, member, beyond⟩ := hasLeftAscii_between_iff.mp left
    exact ⟨character, List.mem_reverse.mpr member, beyond⟩
  · exact ⟨replacement, List.mem_reverse.mpr List.mem_cons_self, isAscii_replacement⟩

end Decoder

/-- A text of octets that are not all ASCII has a character beyond ASCII. -/
theorem exists_mem_decode_beyond_ascii
    {octets : Octets}
    (beyond : ∃ octet ∈ octets, 0x80 ≤ octet.toNat) :
    ∃ character ∈ (decode octets).toList, character.isAscii = false := by
  rw [decode, String.toList_ofList]
  exact (Decoder.hasLeftAscii_foldl_feed beyond []).exists_mem_finish

end ResultSet.Text
