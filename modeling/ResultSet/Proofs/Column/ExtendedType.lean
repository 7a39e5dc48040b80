import ResultSet.Column.Definition
import ResultSet.Proofs.Packet.Announcement

namespace ResultSet

/-!
# Reading back extended type information

Extended type information is a string of tagged texts in a packet of its own.
The loop that reads it takes the texts in their order, and a later text replaces
an earlier one of its tag.  What remains is for each tag the last text that was
written under it; texts under other tags are passed over.
-/

/-- Tagged octets of extended type information. -/
abbrev Tagged := List (UInt8 × Octets)

namespace ExtendedType

/-- Take one tagged text over the ones before it. -/
def replace
    (extended : ExtendedType) :
    UInt8 × Octets → ExtendedType
  | (tag, value) =>
      if tag.toNat = typeNameTag then
        { extended with name := some (Text.decode value) }
      else if tag.toNat = typeFormatTag then
        { extended with format := some (Text.decode value) }
      else
        extended

/-- The last text that stands under a tag. -/
def lastTagged
    (tag : Nat)
    (pairs : Tagged) :
    Option String :=
  (pairs.findRev? fun pair => pair.1.toNat = tag).map fun pair => Text.decode pair.2

/-- A first text counts only if no later one stands under its tag. -/
theorem lastTagged_cons
    (tag : Nat)
    (pair : UInt8 × Octets)
    (pairs : Tagged) :
    lastTagged tag (pair :: pairs) =
      (lastTagged tag pairs).or
        (if pair.1.toNat = tag then some (Text.decode pair.2) else none) := by
  rw [lastTagged, lastTagged, List.findRev?]
  cases pairs.findRev? fun later => later.1.toNat = tag with
  | some last => rfl
  | none =>
      by_cases sameTag : pair.1.toNat = tag
      · simp only [sameTag, decide_true, ↓reduceIte]
        rfl
      · simp only [sameTag, decide_false, ↓reduceIte]
        rfl

/-- What the tagged texts say: the last text that stands under each tag. -/
def ofTagged (pairs : Tagged) : ExtendedType where
  name := lastTagged typeNameTag pairs
  format := lastTagged typeFormatTag pairs

/-- Taking all tagged texts leaves the last one of each tag, or what was there before. -/
theorem foldl_replace
    (pairs : Tagged)
    (extended : ExtendedType) :
    pairs.foldl replace extended =
      { name := (lastTagged typeNameTag pairs).or extended.name
        format := (lastTagged typeFormatTag pairs).or extended.format } := by
  induction pairs generalizing extended with
  | nil => rfl
  | cons pair pairs inductionHypothesis =>
      rw [List.foldl_cons, inductionHypothesis, lastTagged_cons, lastTagged_cons,
        Option.or_assoc, Option.or_assoc, replace]
      by_cases isName : pair.1.toNat = typeNameTag
      · have notFormat : typeNameTag ≠ typeFormatTag := by decide
        simp only [isName, notFormat, ↓reduceIte, Option.some_or, Option.none_or]
      · by_cases isFormat : pair.1.toNat = typeFormatTag
        · have notName : typeFormatTag ≠ typeNameTag := by decide
          simp only [isFormat, notName, ↓reduceIte, Option.some_or, Option.none_or]
        · simp only [isName, isFormat, ↓reduceIte, Option.none_or]

theorem foldl_replace_empty (pairs : Tagged) :
    pairs.foldl replace {} = ofTagged pairs := by
  rw [foldl_replace, Option.or_none, Option.or_none]
  rfl

/--
The octets of tagged texts.  Each has its length in front, which may be spelled in more
octets than it takes.
-/
inductive LaidOut : Octets → Tagged → Prop where
  | nil :
      LaidOut [] []
  | cons
      {tag : UInt8}
      {announcement value octets : Octets}
      {pairs : Tagged}
      (announced : LengthEncoded.Spells announcement (some value.length))
      (others : LaidOut octets pairs) :
      LaidOut (tag :: (announcement ++ value ++ octets)) ((tag, value) :: pairs)

/-- Tagged texts are laid out as they are written. -/
theorem laidOut_writeTagged
    {pairs : Tagged}
    (addressable : (Definition.writeTagged pairs).length < 2 ^ 64) :
    LaidOut (Definition.writeTagged pairs) pairs := by
  induction pairs with
  | nil => exact .nil
  | cons pair pairs inductionHypothesis =>
      have split :
          Definition.writeTagged (pair :: pairs) =
            pair.1 :: (Message.lengthEncoded pair.2.length ++ pair.2 ++
              Definition.writeTagged pairs) :=
        rfl
      rw [split, List.length_cons, List.length_append, List.length_append] at addressable
      rw [split]
      exact .cons (LengthEncoded.spells_lengthEncoded (by omega)) (inductionHypothesis (by omega))

end ExtendedType

namespace Column

open Read

variable {packet : Octets}

/-! ## One tagged text -/

section Tagged

variable
  {start finish : Cursor}
  {tag : UInt8}
  {behindTag : Octets}
  {extended result : ExtendedType}

/-- Every tag is framed alike: an octet, and then the octets of a text behind their count. -/
theorem run_readTagged
    (opens : start.rest = tag :: behindTag) :
    (readTagged extended).run start =
      (do
        let value ← lengthEncodedOctets
        return extended.replace (tag, value) : Read ExtendedType).run (start.advanced 1) := by
  obtain ⟨_, readsTag, rfl⟩ := accepts_octet tag start rfl (opens ▸ ⟨behindTag, rfl⟩)
  rw [readTagged, run_bind_of_ok readsTag]
  simp only [ExtendedType.replace]
  split
  · simp only [lengthEncodedText, lengthEncodedOctets, Read.text, bind_assoc, pure_bind]
    rfl
  · split
    · simp only [lengthEncodedText, lengthEncodedOctets, Read.text, bind_assoc, pure_bind]
      rfl
    · simp only [skipLengthEncoded, lengthEncodedOctets, Read.skip, bind_assoc, pure_bind]
      rfl

theorem rest_behind_tag
    (opens : start.rest = tag :: behindTag) :
    (start.advanced 1).rest = behindTag := by
  rw [Cursor.rest_advanced, opens, List.drop_one, List.tail_cons]

/-- A tagged text is taken just if a count and so many octets stand behind the tag. -/
theorem run_readTagged_eq_ok_iff
    (opens : start.rest = tag :: behindTag) :
    (readTagged extended).run start = .ok result finish ↔
      ∃ announcement value behind,
        LengthEncoded.Spells announcement (some value.length) ∧
          behindTag = announcement ++ value ++ behind ∧
          result = extended.replace (tag, value) ∧
          finish = (start.advanced 1).advanced (announcement ++ value).length := by
  rw [run_readTagged opens]
  constructor
  · intro succeeds
    obtain ⟨value, between, takes, stops⟩ := run_bind_eq_ok succeeds
    obtain ⟨announcement, announced, ⟨behind, follows⟩, rfl⟩ :=
      run_lengthEncodedOctets_eq_ok_iff.mp takes
    rw [rest_behind_tag opens] at follows
    cases stops
    exact ⟨announcement, value, behind, announced, follows.symm, rfl, rfl⟩
  · rintro ⟨announcement, value, behind, announced, rfl, rfl, rfl⟩
    have next : announcement ++ value <+: (start.advanced 1).rest :=
      ⟨behind, (rest_behind_tag opens).symm⟩
    have takes :
        lengthEncodedOctets.run (start.advanced 1) =
          .ok value ((start.advanced 1).advanced (announcement ++ value).length) :=
      run_lengthEncodedOctets_eq_ok_iff.mpr ⟨announcement, announced, next, rfl⟩
    rw [run_bind_of_ok takes]
    rfl

/-- Behind a tagged text stands what stands behind its value. -/
theorem rest_behind_tagged
    {announcement value behind : Octets}
    (opens : start.rest = tag :: (announcement ++ value ++ behind)) :
    ((start.advanced 1).advanced (announcement ++ value).length).rest = behind := by
  rw [Cursor.rest_advanced, rest_behind_tag opens, List.drop_left]

/-! ## All tagged texts -/

theorem run_readAllTagged_of_nil
    (bound : Nat)
    (extended : ExtendedType)
    (atEnd : start.rest = []) :
    (readAllTagged bound extended).run start = .ok extended start := by
  cases bound with
  | zero => rfl
  | succ bound =>
      rw [readAllTagged, run_bind_of_ok (run_hasRemaining 1 start), ← Cursor.length_rest, atEnd]
      rfl

theorem run_readAllTagged_of_cons
    (bound : Nat)
    (extended : ExtendedType)
    (opens : start.rest = tag :: behindTag) :
    (readAllTagged (bound + 1) extended).run start =
      (readTagged extended >>= readAllTagged bound).run start := by
  have notAtEnd : 1 ≤ start.remaining := by
    rw [← Cursor.length_rest, opens]
    exact Nat.le_add_left _ _
  rw [readAllTagged, run_bind_of_ok (run_hasRemaining 1 start), decide_eq_true notAtEnd,
    if_pos rfl]

/--
The loop takes the tagged texts in front of some octets when it may go round often enough,
and it may still go round often enough for these octets.
-/
theorem run_readAllTagged_append
    {octets back : Octets}
    {pairs : Tagged}
    {bound : Nat}
    (extended : ExtendedType)
    (laidOut : ExtendedType.LaidOut octets pairs)
    (isRest : start.rest = octets ++ back)
    (enough : octets.length + back.length ≤ bound) :
    ∃ boundLeft behind,
      behind.rest = back ∧
        back.length ≤ boundLeft ∧
        (readAllTagged bound extended).run start =
          (readAllTagged boundLeft (pairs.foldl ExtendedType.replace extended)).run behind := by
  induction laidOut generalizing bound start extended with
  | nil =>
      rw [List.length_nil, Nat.zero_add] at enough
      exact ⟨bound, start, isRest, enough, rfl⟩
  | @cons tag announcement value octets pairs announced _ inductionHypothesis =>
      rw [List.length_cons, List.length_append] at enough
      have opens : start.rest = tag :: (announcement ++ value ++ (octets ++ back)) := by
        rw [isRest, List.cons_append, List.append_assoc]
      cases bound with
      | zero => omega
      | succ bound =>
          -- The tag alone is one octet, so the bound still covers what is left behind it.
          have stillEnough : octets.length + back.length ≤ bound := by omega
          have takesPair :
              (readTagged extended).run start =
                .ok (extended.replace (tag, value))
                  ((start.advanced 1).advanced (announcement ++ value).length) :=
            (run_readTagged_eq_ok_iff opens).mpr
              ⟨announcement, value, _, announced, rfl, rfl, rfl⟩
          obtain ⟨boundLeft, behind, isBack, enoughLeft, takesPairs⟩ :=
            inductionHypothesis (extended.replace (tag, value)) (rest_behind_tagged opens)
              stillEnough
          refine ⟨boundLeft, behind, isBack, enoughLeft, ?_⟩
          rw [run_readAllTagged_of_cons bound extended opens, run_bind_of_ok takesPair,
            takesPairs, List.foldl_cons]

/-- The loop succeeds on nothing but tagged texts. -/
theorem laidOut_of_run_readAllTagged
    {bound : Nat}
    (enough : start.rest.length ≤ bound)
    (succeeds : (readAllTagged bound extended).run start = .ok result finish) :
    ∃ pairs,
      ExtendedType.LaidOut start.rest pairs ∧
        result = pairs.foldl ExtendedType.replace extended := by
  induction bound generalizing start extended with
  | zero =>
      cases succeeds
      rw [List.length_eq_zero_iff.mp (Nat.le_zero.mp enough)]
      exact ⟨[], .nil, rfl⟩
  | succ bound inductionHypothesis =>
      cases opens : start.rest with
      | nil =>
          rw [run_readAllTagged_of_nil _ _ opens] at succeeds
          cases succeeds
          exact ⟨[], .nil, rfl⟩
      | cons tag behindTag =>
          rw [run_readAllTagged_of_cons bound extended opens] at succeeds
          obtain ⟨first, between, takesPair, takesPairs⟩ := run_bind_eq_ok succeeds
          obtain ⟨announcement, value, behind, announced, rfl, rfl, rfl⟩ :=
            (run_readTagged_eq_ok_iff opens).mp takesPair
          have isBehind := rest_behind_tagged opens
          have stillEnough : behind.length ≤ bound := by
            rw [opens, List.length_cons, List.length_append] at enough
            omega
          obtain ⟨pairs, laidOut, rfl⟩ :=
            inductionHypothesis (isBehind.symm ▸ stillEnough) takesPairs
          rw [isBehind] at laidOut
          exact ⟨(tag, value) :: pairs, .cons announced laidOut, rfl⟩

end Tagged

/-! ## The whole of it -/

/-- What comes of a string of tagged texts, with no regard to where it stands. -/
def told (content : Octets) : Except Fault ExtendedType :=
  (readAllTagged content.length {}).outcome (Cursor.ofPacket content)

/-- Something is told just by tagged texts, and it is the last text of each of the two tags. -/
theorem told_eq_ok_iff
    {content : Octets}
    {extended : ExtendedType} :
    told content = .ok extended ↔
      ∃ pairs, ExtendedType.LaidOut content pairs ∧ extended = .ofTagged pairs := by
  let inner := Cursor.ofPacket content
  constructor
  · intro tells
    rw [told, outcome] at tells
    split at tells
    · rename_i reads
      cases tells
      have enough : inner.rest.length ≤ content.length := Nat.le_refl _
      obtain ⟨pairs, laidOut, rfl⟩ := laidOut_of_run_readAllTagged enough reads
      exact ⟨pairs, laidOut, ExtendedType.foldl_replace_empty pairs⟩
    · cases tells
  · rintro ⟨pairs, laidOut, rfl⟩
    have onlyPairs : inner.rest = content ++ [] := (List.append_nil content).symm
    obtain ⟨boundLeft, behind, atEnd, _, reads⟩ :=
      run_readAllTagged_append {} laidOut onlyPairs (Nat.le_refl _)
    rw [run_readAllTagged_of_nil _ _ atEnd, ExtendedType.foldl_replace_empty] at reads
    exact outcome_of_ok reads

/--
Extended type information is what the announced string tells, and reading goes on behind
the string whatever it tells.
-/
theorem run_readExtended
    {start : Cursor}
    {announcement content : Octets}
    (announced : LengthEncoded.Spells announcement (some content.length))
    (next : announcement ++ content <+: start.rest) :
    readExtended.run start =
      (MonadExcept.ofExcept (told content) : Read ExtendedType).run
        (start.advanced (announcement ++ content).length) := by
  have opens :
      lengthEncodedPacket.run start =
        .ok (Cursor.ofPacket content) (start.advanced (announcement ++ content).length) := by
    rw [lengthEncodedPacket,
      run_bind_of_ok (run_lengthEncodedOctets_eq_ok_iff.mpr ⟨announcement, announced, next, rfl⟩),
      EStateM.run_pure]
  have sameBound : (Cursor.ofPacket content).packet.length = content.length := rfl
  rw [readExtended, run_bind_of_ok opens, told, outcome, sameBound]
  cases (readAllTagged content.length {}).run (Cursor.ofPacket content) with
  | ok extended behind => rfl
  | error fault behind => rfl

/-- Extended type information is read back as the last text of each of its two tags. -/
theorem accepts_readExtended
    {pairs : Tagged}
    (addressable : (Definition.writeTagged pairs).length < 2 ^ 64) :
    Accepts packet (Message.lengthEncodedOctets (Definition.writeTagged pairs)) readExtended
      (· = ExtendedType.ofTagged pairs) := by
  intro start _ next
  have tells : told (Definition.writeTagged pairs) = .ok (.ofTagged pairs) :=
    told_eq_ok_iff.mpr ⟨pairs, ExtendedType.laidOut_writeTagged addressable, rfl⟩
  refine ⟨.ofTagged pairs, ?_, rfl⟩
  rw [run_readExtended (LengthEncoded.spells_lengthEncoded addressable) next, tells]
  rfl

end Column

end ResultSet
