import ResultSet.Proofs.Column.RoundTrip
import ResultSet.Proofs.Packet.Cut

namespace ResultSet

/-!
# Extended type information is confined

Extended type information comes from the server, and its texts have lengths of their own.
Whatever these lengths are, a definition is read on from where the string with all of
them ends, and the only thing that its rest depends on is what the string tells by
itself.  A text that would be longer than what is left of the string overruns, however
much of the packet follows.  Texts under tags that are not known yet change nothing.

Every string is either one of tagged texts, or has a place behind some of them where a
text runs past its end or a length is missing.  These are the three things that can come
of it: what the texts say, an overrun, or a violation of the protocol.
-/

namespace ExtendedType

/-- Whether something is made of the texts under a tag. -/
def isKnown (tag : UInt8) : Bool :=
  tag.toNat = typeNameTag || tag.toNat = typeFormatTag

/-- A tag without a whole text: its length is cut off, or is more than what is left. -/
inductive BreaksOff : Octets → Prop where
  | tooLong
      {tag : UInt8}
      {announcement behind : Octets}
      {length : Nat}
      (announced : LengthEncoded.Spells announcement (some length))
      (tooFew : behind.length < length) :
      BreaksOff (tag :: (announcement ++ behind))
  | unannounced
      {tag : UInt8}
      {octets : Octets}
      (isCut : LengthEncoded.CutSpelling octets) :
      BreaksOff (tag :: octets)

theorem BreaksOff.ne_nil {octets : Octets} (breaksOff : BreaksOff octets) : octets ≠ [] := by
  cases breaksOff with
  | tooLong _ _ => exact List.cons_ne_nil _ _
  | unannounced _ => exact List.cons_ne_nil _ _

/-- Tagged texts, and behind them one that runs past the end of the octets. -/
def RunsPast (octets : Octets) : Prop :=
  ∃ front back pairs,
    LaidOut front pairs ∧ octets = front ++ back ∧ BreaksOff back

/-- Tagged texts, and behind them a tag with the mark of a missing value for a length. -/
def LacksLength (octets : Octets) : Prop :=
  ∃ front behind pairs tag,
    LaidOut front pairs ∧ octets = front ++ tag :: LengthEncoded.nullMark :: behind

/-! ## Where tagged texts end -/

/-- Behind a tag stands a whole text, or none, or the mark of a missing value. -/
theorem text_or_breaksOff_or_nullMark
    (tag : UInt8)
    (behindTag : Octets) :
    (∃ announcement value behind,
      LengthEncoded.Spells announcement (some value.length) ∧
        behindTag = announcement ++ value ++ behind) ∨
      BreaksOff (tag :: behindTag) ∨
      ∃ behind, behindTag = LengthEncoded.nullMark :: behind := by
  rcases LengthEncoded.spells_or_cut behindTag with
    ⟨announcement, number, behind, spells, rfl⟩ | isCut
  · cases number with
    | none =>
        cases spells
        exact .inr (.inr ⟨behind, rfl⟩)
    | some length =>
        rcases Nat.lt_or_ge behind.length length with tooFew | enough
        · exact .inr (.inl (.tooLong spells tooFew))
        · have whole : (behind.take length).length = length := by
            rw [List.length_take, Nat.min_eq_left enough]
          refine .inl ⟨announcement, behind.take length, behind.drop length, ?_, ?_⟩
          · rwa [whole]
          · rw [List.append_assoc, List.take_append_drop]
  · exact .inr (.inl (.unannounced isCut))

/-- Octets are tagged texts up to a place where there is none. -/
theorem exists_laidOut_append
    {bound : Nat}
    (octets : Octets)
    (enough : octets.length ≤ bound) :
    ∃ front back pairs,
      LaidOut front pairs ∧
        octets = front ++ back ∧
        (back = [] ∨
          BreaksOff back ∨ ∃ tag behind, back = tag :: LengthEncoded.nullMark :: behind) := by
  induction bound generalizing octets with
  | zero =>
      rw [List.length_eq_zero_iff.mp (Nat.le_zero.mp enough)]
      exact ⟨[], [], [], .nil, rfl, .inl rfl⟩
  | succ bound inductionHypothesis =>
      cases octets with
      | nil => exact ⟨[], [], [], .nil, rfl, .inl rfl⟩
      | cons tag behindTag =>
          rcases text_or_breaksOff_or_nullMark tag behindTag with
            ⟨announcement, value, behind, announced, rfl⟩ | breaksOff | ⟨behind, rfl⟩
          · have stillEnough : behind.length ≤ bound := by
              rw [List.length_cons, List.length_append] at enough
              omega
            obtain ⟨front, back, pairs, laidOut, rfl, atEnd⟩ :=
              inductionHypothesis behind stillEnough
            refine ⟨tag :: (announcement ++ value ++ front), back, (tag, value) :: pairs,
              .cons announced laidOut, ?_, atEnd⟩
            rw [List.cons_append, List.append_assoc _ front back]
          · exact ⟨[], _, [], .nil, rfl, .inr (.inl breaksOff)⟩
          · exact ⟨[], _, [], .nil, rfl, .inr (.inr ⟨tag, behind, rfl⟩)⟩

/-! ## Texts under other tags -/

/-- The last text under a tag stays where all texts under this tag stay. -/
theorem lastTagged_filter
    {tag : Nat}
    {keep : UInt8 × Octets → Bool}
    (kept : ∀ pair : UInt8 × Octets, pair.1.toNat = tag → keep pair = true)
    (pairs : Tagged) :
    lastTagged tag (pairs.filter keep) = lastTagged tag pairs := by
  induction pairs with
  | nil => rfl
  | cons pair pairs inductionHypothesis =>
      rw [lastTagged_cons]
      by_cases keeps : keep pair = true
      · rw [List.filter_cons_of_pos keeps, lastTagged_cons, inductionHypothesis]
      · have otherTag : pair.1.toNat ≠ tag := mt (kept pair) keeps
        rw [List.filter_cons_of_neg keeps, inductionHypothesis, if_neg otherTag, Option.or_none]

/-- Texts under tags that are not known say nothing. -/
theorem ofTagged_filter_isKnown (pairs : Tagged) :
    ofTagged (pairs.filter fun pair => isKnown pair.1) = ofTagged pairs := by
  have name :
      lastTagged typeNameTag (pairs.filter fun pair => isKnown pair.1) =
        lastTagged typeNameTag pairs :=
    lastTagged_filter (fun pair isName => by simp [isKnown, isName]) pairs
  have format :
      lastTagged typeFormatTag (pairs.filter fun pair => isKnown pair.1) =
        lastTagged typeFormatTag pairs :=
    lastTagged_filter (fun pair isFormat => by simp [isKnown, isFormat]) pairs
  rw [ofTagged, ofTagged, name, format]

end ExtendedType

namespace Column

open Read

variable {start : Cursor}

/-! ## Texts that run past the end -/

theorem overruns_readTagged
    {octets : Octets}
    (extended : ExtendedType)
    (breaksOff : ExtendedType.BreaksOff octets)
    (isRest : start.rest = octets) :
    (readTagged extended).Overruns start := by
  cases breaksOff with
  | tooLong announced tooFew =>
      have valueOverruns : lengthEncodedOctets.Overruns (start.advanced 1) :=
        overruns_lengthEncodedOctets announced (rest_behind_tag isRest) tooFew
      exact (valueOverruns.bind _).of_run_eq (run_readTagged isRest)
  | unannounced isCut =>
      have lengthOverruns : lengthEncoded.Overruns (start.advanced 1) :=
        overruns_lengthEncoded ((rest_behind_tag isRest).symm ▸ isCut)
      exact ((lengthOverruns.bind _).bind _).of_run_eq (run_readTagged isRest)

/-- The loop fails as soon as it comes to octets that it cannot take a text from. -/
theorem outcome_readAllTagged_of_error
    {bound : Nat}
    {extended : ExtendedType}
    {fault : Fault}
    (notAtEnd : start.rest ≠ [])
    (enough : start.rest.length ≤ bound)
    (fails : (readTagged extended).outcome start = .error fault) :
    (readAllTagged bound extended).outcome start = .error fault := by
  obtain ⟨tag, behindTag, opens⟩ := List.exists_cons_of_ne_nil notAtEnd
  cases bound with
  | zero =>
      rw [opens] at enough
      cases enough
  | succ bound =>
      rw [outcome] at fails ⊢
      rw [run_readAllTagged_of_cons bound extended opens]
      cases ran : (readTagged extended).run start with
      | ok first between =>
          rw [ran] at fails
          cases fails
      | error other between =>
          rw [ran] at fails
          rw [run_bind_of_error ran]
          exact fails

/-- What cannot be taken behind tagged texts cannot be told. -/
theorem exists_told_append
    {front back : Octets}
    {pairs : Tagged}
    (laidOut : ExtendedType.LaidOut front pairs)
    (notAtEnd : back ≠ []) :
    ∃ extended behind,
      behind.rest = back ∧
        ∀ fault,
          (readTagged extended).outcome behind = .error fault →
            told (front ++ back) = .error fault := by
  have isRest : (Cursor.ofPacket (front ++ back)).rest = front ++ back := rfl
  obtain ⟨boundLeft, behind, isBack, enough, reads⟩ :=
    run_readAllTagged_append {} laidOut isRest List.length_append.ge
  refine ⟨pairs.foldl ExtendedType.replace {}, behind, isBack, fun fault fails => ?_⟩
  rw [told, outcome_of_run_eq reads]
  exact outcome_readAllTagged_of_error (isBack.symm ▸ notAtEnd) (isBack.symm ▸ enough) fails

/-- A text that runs past the end of its string overruns, behind all texts before it. -/
theorem told_of_runsPast
    {content : Octets}
    (runsPast : ExtendedType.RunsPast content) :
    ∃ needed available, told content = .error (.tooSmall needed available) := by
  obtain ⟨front, back, pairs, laidOut, rfl, breaksOff⟩ := runsPast
  obtain ⟨extended, behind, isBack, told_of_error⟩ :=
    exists_told_append laidOut breaksOff.ne_nil
  obtain ⟨needed, available, fails⟩ := overruns_readTagged extended breaksOff isBack
  exact ⟨needed, available, told_of_error _ fails⟩

/-- A missing length violates the protocol, behind all texts before it. -/
theorem told_of_lacksLength
    {content : Octets}
    (lacksLength : ExtendedType.LacksLength content) :
    told content = .error (.protocol .unexpectedNull) := by
  obtain ⟨front, behindMark, pairs, tag, laidOut, rfl⟩ := lacksLength
  obtain ⟨extended, behind, isBack, told_of_error⟩ :=
    exists_told_append laidOut (List.cons_ne_nil tag (LengthEncoded.nullMark :: behindMark))
  refine told_of_error _ ?_
  have markNext : [LengthEncoded.nullMark] <+: (behind.advanced 1).rest :=
    ⟨behindMark, (rest_behind_tag isBack).symm⟩
  obtain ⟨_, reads, rfl⟩ := accepts_lengthEncoded?_null (behind.advanced 1) rfl markNext
  rw [outcome, run_readTagged isBack]
  simp only [lengthEncodedOctets, lengthEncoded, bind_assoc]
  rw [run_bind_of_ok reads]
  rfl

/-- Tagged texts are told; a string of others runs past its end, or lacks a length. -/
theorem laidOut_or_runsPast_or_lacksLength (content : Octets) :
    (∃ pairs, ExtendedType.LaidOut content pairs) ∨
      ExtendedType.RunsPast content ∨ ExtendedType.LacksLength content := by
  obtain ⟨front, back, pairs, laidOut, rfl, atEnd⟩ :=
    ExtendedType.exists_laidOut_append content (Nat.le_refl _)
  rcases atEnd with rfl | breaksOff | ⟨tag, behind, rfl⟩
  · rw [List.append_nil]
    exact .inl ⟨pairs, laidOut⟩
  · exact .inr (.inl ⟨front, back, pairs, laidOut, rfl, breaksOff⟩)
  · exact .inr (.inr ⟨front, behind, pairs, tag, laidOut, rfl⟩)

/-- Just the strings of which a text runs past the end are too small. -/
theorem told_tooSmall_iff
    {content : Octets} :
    (∃ needed available, told content = .error (.tooSmall needed available)) ↔
      ExtendedType.RunsPast content := by
  refine ⟨fun ⟨needed, available, fails⟩ => ?_, told_of_runsPast⟩
  rcases laidOut_or_runsPast_or_lacksLength content with ⟨pairs, laidOut⟩ | runsPast | lacksLength
  · rw [told_eq_ok_iff.mpr ⟨pairs, laidOut, rfl⟩] at fails
    cases fails
  · exact runsPast
  · rw [told_of_lacksLength lacksLength] at fails
    cases fails

/-! ## The definition around it -/

/-- Go on behind extended type information with what it told. -/
def readBehindExtended
    (packet : Octets)
    (names : ColumnNames)
    (told : Except Fault ExtendedType) :
    Read Column := do
  let extended ← MonadExcept.ofExcept told
  let shape ← readShape
  return ⟨packet, names, extended, shape⟩

theorem run_read_of_extended
    {options : MetadataOptions}
    {between : Cursor}
    {names : ColumnNames}
    {announcement content : Octets}
    (agreed : options.extendedTypeInfo = true)
    (readsNames : readNames.run start = .ok names between)
    (announced : LengthEncoded.Spells announcement (some content.length))
    (next : announcement ++ content <+: between.rest) :
    (read options).run start =
      (readBehindExtended start.packet names (told content)).run
        (between.advanced (announcement ++ content).length) := by
  have stands : Read.packet.run start = .ok start.packet start := rfl
  rw [read, run_bind_of_ok stands, run_bind_of_ok readsNames, readAgreedExtended, if_pos agreed,
    readBehindExtended, EStateM.run_bind, EStateM.run_bind, run_readExtended announced next]

end Column

open Column ExtendedType in
/--
Behind the names of a definition, a string of extended type information is announced in
one of the accepted forms.  Then the definition is read on behind the string with what
the string tells by itself, or fails as it does.  Tagged texts, and nothing else, tell
the last text of each known tag, and texts under other tags may come or go.  A string
overruns by itself just if a text runs past its end, and then the definition overruns.
-/
theorem extended_type_information_is_confined
    (options : MetadataOptions)
    (start between : Cursor)
    (names : ColumnNames)
    (announcement content : Octets)
    (agreed : options.extendedTypeInfo = true)
    (readsNames : readNames.run start = .ok names between)
    (announced : LengthEncoded.Spells announcement (some content.length))
    (next : announcement ++ content <+: between.rest) :
    (read options).run start =
        (readBehindExtended start.packet names (told content)).run
          (between.advanced (announcement ++ content).length) ∧
      (∀ extended,
        told content = .ok extended ↔
          ∃ pairs, LaidOut content pairs ∧ extended = .ofTagged pairs) ∧
      (∀ pairs other others,
        LaidOut content pairs →
          LaidOut other others →
            (others.filter fun pair => isKnown pair.1) = pairs.filter (fun pair => isKnown pair.1) →
              told other = told content) ∧
      ((∃ needed available, told content = .error (.tooSmall needed available)) ↔
        RunsPast content) ∧
      (RunsPast content → (read options).Overruns start) := by
  have reads := run_read_of_extended agreed readsNames announced next
  refine ⟨reads, fun extended => told_eq_ok_iff, ?_, told_tooSmall_iff, fun runsPast => ?_⟩
  · intro pairs other others laidOut otherLaidOut sameKnown
    have tells : told content = .ok (ofTagged pairs) := told_eq_ok_iff.mpr ⟨pairs, laidOut, rfl⟩
    have otherTells : told other = .ok (ofTagged others) :=
      told_eq_ok_iff.mpr ⟨others, otherLaidOut, rfl⟩
    rw [tells, otherTells, ← ofTagged_filter_isKnown others, sameKnown, ofTagged_filter_isKnown]
  · obtain ⟨needed, available, fails⟩ := told_tooSmall_iff.mpr runsPast
    rw [fails] at reads
    exact Read.Overruns.of_run_eq ⟨needed, available, rfl⟩ reads

namespace Column

/-- A definition with empty names and some octets where its extended type information stands. -/
def aroundExtended (octets : Octets) : Cursor :=
  .ofPacket (Message.zeros 6 ++ octets ++ Definition.writeShape ⟨33, 11, .geometry, 0, 0⟩)

/-- Where the names of this definition stand. -/
def emptyNames : ColumnNames :=
  ⟨⟨2, 2⟩, ⟨3, 3⟩, ⟨4, 4⟩, ⟨5, 5⟩, ⟨6, 6⟩⟩

/-- Three texts, of which one has a tag that is not known. -/
def threeTexts : Tagged :=
  [(0, [112]), (9, []), (0, [112, 116])]

/-- Three texts behind a length in three octets. -/
def threeTextsAnnounced : Cursor :=
  aroundExtended ([0xFC, 9, 0] ++ Definition.writeTagged threeTexts)

/-- A text of which the length is that of all octets that follow in the packet. -/
def longTextAnnounced : Cursor :=
  aroundExtended ([5] ++ [9, 0, 0, 14, 112])

end Column

open Column ExtendedType in
/-- Texts under two tags, and a text that is longer than what is left of its string. -/
theorem texts_under_two_tags_are_confined :
    (read ⟨true⟩).run threeTextsAnnounced =
        (readBehindExtended threeTextsAnnounced.packet emptyNames (.ok ⟨some "pt", none⟩)).run
          ((threeTextsAnnounced.advanced 6).advanced 12) ∧
      (read ⟨true⟩).Overruns longTextAnnounced := by
  have announced : LengthEncoded.Spells [0xFC, 9, 0] (some 9) := .marked (by decide)
  have readsNames :
      readNames.run threeTextsAnnounced = .ok emptyNames (threeTextsAnnounced.advanced 6) :=
    rfl
  have laidOut : LaidOut (Definition.writeTagged threeTexts) threeTexts :=
    laidOut_writeTagged (by decide)
  obtain ⟨reads, told_iff, -⟩ :=
    extended_type_information_is_confined ⟨true⟩ threeTextsAnnounced _ _ [0xFC, 9, 0]
      (Definition.writeTagged threeTexts) rfl readsNames announced ⟨_, rfl⟩
  have tells : told (Definition.writeTagged threeTexts) = .ok ⟨some "pt", none⟩ :=
    (told_iff _).mpr ⟨threeTexts, laidOut, by decide⟩
  have longReadsNames :
      readNames.run longTextAnnounced = .ok emptyNames (longTextAnnounced.advanced 6) :=
    rfl
  obtain ⟨-, -, -, -, overruns⟩ :=
    extended_type_information_is_confined ⟨true⟩ longTextAnnounced _ _ [5] [9, 0, 0, 14, 112]
      rfl longReadsNames (LengthEncoded.spells_of_lt (by decide)) ⟨_, rfl⟩
  have knownLaidOut : LaidOut [9, 0] [(9, [])] :=
    @LaidOut.cons 9 [0] [] [] [] (LengthEncoded.spells_of_lt (by decide)) .nil
  have breaksOff : BreaksOff [0, 14, 112] :=
    @BreaksOff.tooLong 0 [14] [112] 14 (LengthEncoded.spells_of_lt (by decide)) (by decide)
  have runsPast : RunsPast [9, 0, 0, 14, 112] :=
    ⟨[9, 0], [0, 14, 112], _, knownLaidOut, rfl, breaksOff⟩
  refine ⟨?_, overruns runsPast⟩
  rw [reads, tells]
  rfl

end ResultSet
