import ResultSet.Proofs.Calendar.Literal
import ResultSet.Proofs.Field.Verdict

namespace ResultSet

/-!
# Groups that are not sent

A packed date-time or duration ends early when its last groups are zero.  So a value
that is not sent in full has to mean what it means with zeros in the place of the
groups that are missing, in every representation and for every number of digits that a
column shows.  Octets that do not fill a group count for nothing, and neither do those
behind the last group; but the first group is there in full or not at all.
-/

namespace Octets

/--
The octets of groups of the given widths, as far as they are there in full, and zeros for
all other groups.
-/
def filled : List Nat → Octets → Octets
  | [], _ => []
  | width :: widths, octets =>
      if width ≤ octets.length then
        octets.take width ++ filled widths (octets.drop width)
      else
        List.replicate width 0 ++ filled widths []

/-- Filled octets have all groups. -/
theorem length_filled
    (widths : List Nat)
    (octets : Octets) :
    (filled widths octets).length = widths.sum := by
  induction widths generalizing octets with
  | nil => rfl
  | cons width widths inductionHypothesis =>
      rw [filled]
      split
      · rename_i fits
        rw [List.length_append, inductionHypothesis, List.length_take, Nat.min_eq_left fits,
          List.sum_cons]
      · rw [List.length_append, inductionHypothesis, List.length_replicate, List.sum_cons]

/-- A group that is there in full is kept. -/
theorem filled_append
    (widths : List Nat)
    (group behind : Octets) :
    filled (group.length :: widths) (group ++ behind) = group ++ filled widths behind := by
  have fits : group.length ≤ (group ++ behind).length := by
    rw [List.length_append]
    exact Nat.le_add_right _ _
  rw [filled, if_pos fits, List.take_left, List.drop_left]

end Octets

/--
The widths of the groups of packed values, in the families whose values have groups: eleven
octets in all for dates and date-times, and twelve for durations.
-/
def Family.packedGroups? : Family → Option (List Nat)
  | date | timestamp => some [4, 3, 4]
  | time => some [5, 3, 4]
  | _ => none

/--
A meaning of octets in groups that counts a group as zeros when it is not there in full,
and has none for octets that do not fill the first group.
-/
structure FillsGroups
    {Result : Type}
    (first : Nat)
    (others : List Nat)
    (meaning : Octets → Except ValueError Result) :
    Prop where
  filled :
    ∀ octets : Octets, octets.length = 0 ∨ first ≤ octets.length →
      meaning (octets.filled (first :: others)) = meaning octets
  short :
    ∀ octets : Octets, 0 < octets.length ∧ octets.length < first →
      ∃ error, meaning octets = .error error ∧ error.kind = .malformed

/-- What is made of the meaning afterwards does not look at the groups. -/
theorem FillsGroups.bind
    {Parts Result : Type}
    {first : Nat}
    {others : List Nat}
    {meaning : Octets → Except ValueError Parts}
    (fills : FillsGroups first others meaning)
    (next : Parts → Except ValueError Result) :
    FillsGroups first others fun octets => meaning octets >>= next where
  filled octets hasFirst := congrArg (· >>= next) (fills.filled octets hasFirst)
  short octets isShort := by
    obtain ⟨error, fails, isMalformed⟩ := fills.short octets isShort
    exact ⟨error, congrArg (· >>= next) fails, isMalformed⟩

/-! ## A clock behind the first group -/

namespace PackedClock

theorem fraction_filled (octets : Octets) : fraction (octets.filled [4]) = fraction octets := by
  match octets with
  | first :: second :: third :: fourth :: behind =>
      have keepsFraction :
          Octets.filled [4] (first :: second :: third :: fourth :: behind) =
            [first, second, third, fourth] :=
        Octets.filled_append [] [first, second, third, fourth] behind
      rw [keepsFraction]
      rfl
  | [] | [_] | [_, _] | [_, _, _] => rfl

/-- A clock and its microseconds are the same with and without the groups that are zero. -/
theorem ofOctets_filled (octets : Octets) : ofOctets (octets.filled [3, 4]) = ofOctets octets := by
  match octets with
  | hour :: minute :: second :: behind =>
      have keepsClock :
          Octets.filled [3, 4] (hour :: minute :: second :: behind) =
            hour :: minute :: second :: Octets.filled [4] behind :=
        Octets.filled_append [4] [hour, minute, second] behind
      rw [keepsClock, ofOctets, ofOctets, fraction_filled]
  | [] | [_] | [_, _] => rfl

end PackedClock

/--
A meaning fills its groups when it looks at the octets behind the first group for a clock
only, and means by no octets what it means by a first group of zeros.
-/
theorem FillsGroups.of_clock
    {Result : Type}
    {first : Nat}
    {meaning : Octets → Except ValueError Result}
    (readsClock :
      ∀ group behind other : Octets, group.length = first →
        PackedClock.ofOctets behind = PackedClock.ofOctets other →
          meaning (group ++ behind) = meaning (group ++ other))
    (empty : meaning [] = meaning (List.replicate first 0))
    (short :
      ∀ octets : Octets, 0 < octets.length ∧ octets.length < first →
        ∃ error, meaning octets = .error error ∧ error.kind = .malformed) :
    FillsGroups first [3, 4] meaning where
  short := short
  filled octets hasFirst := by
    rcases hasFirst with isEmpty | complete
    · rw [List.length_eq_zero_iff.mp isEmpty]
      calc
        meaning (Octets.filled [first, 3, 4] []) =
            meaning (List.replicate first 0 ++ List.replicate 7 0) := by
          cases first <;> rfl
        _ = meaning (List.replicate first 0 ++ []) :=
          readsClock _ _ _ List.length_replicate rfl
        _ = meaning (List.replicate first 0) := by
          rw [List.append_nil]
        _ = meaning [] := empty.symm
    · have group : (octets.take first).length = first := List.length_take_of_le complete
      rw [Octets.filled, if_pos complete,
        readsClock _ _ _ group (PackedClock.ofOctets_filled (octets.drop first)),
        List.take_append_drop]

/-! ## Packed date-times -/

namespace PackedDateTime

/-- Packed octets spell the same parts with and without the groups that are zero. -/
theorem fillsGroups_ofOctets : FillsGroups 4 [3, 4] ofOctets := by
  refine .of_clock (fun group behind other complete sameClock => ?_) rfl fun octets isShort => ?_
  · match group, complete with
    | [_, _, _, _], _ => exact congrArg (fun clock => Except.ok (withClock _ clock)) sameClock
  · match octets with
    | [_] | [_, _] | [_, _, _] => exact ⟨_, rfl, rfl⟩
    | [] => simp at isShort
    | _ :: _ :: _ :: _ :: _ =>
        simp only [List.length_cons] at isShort
        omega

/-- A date has the same text with and without the groups that are zero. -/
theorem fillsGroups_textOfDate : FillsGroups 4 [3, 4] textOfDate := by
  rw [funext textOfDate_eq]
  exact fillsGroups_ofOctets.bind _

end PackedDateTime

/-! ## Packed durations -/

namespace PackedDuration

/-- A duration has the same text with and without the groups that are zero. -/
theorem fillsGroups_text (decimals : Nat) : FillsGroups 5 [3, 4] (text decimals) := by
  refine .of_clock (fun group behind other complete sameClock => ?_) ?_ fun octets isShort => ?_
  · match group, complete with
    | [_, _, _, _, _], _ =>
        exact congrArg (fun clock => Except.ok ((withClock _ clock).literal decimals)) sameClock
  · -- What is not sent has a text of its own, which is the text of zeros.
    exact congrArg Except.ok (literal_zeros decimals).symm
  · match octets with
    | [_] | [_, _] | [_, _, _] | [_, _, _, _] => exact ⟨_, rfl, rfl⟩
    | [] => simp at isShort
    | _ :: _ :: _ :: _ :: _ :: _ =>
        simp only [List.length_cons] at isShort
        omega

end PackedDuration

/-! ## Fields -/

namespace Shape

variable {shape : Shape} {target : Target} {first : Nat} {others : List Nat}

theorem isNotFloat_of_packedGroups?
    {widths : List Nat}
    (isPacked : shape.type.family.packedGroups? = some widths) :
    shape.type.family ≠ .float := by
  intro isFloat
  rw [isFloat] at isPacked
  cases isPacked

/-- Text and natural representations are made of the parts, whatever length was announced. -/
theorem exists_fillsGroups
    (isPacked : shape.type.family.packedGroups? = some (first :: others))
    (isServed : target = .text ∨ target = .natural)
    (offset : Option ZoneOffset) :
    ∃ meaning,
      FillsGroups first others meaning ∧
        ∀ length, (shape.reader ⟨.binary, offset⟩ target length).interpret = meaning := by
  simp only [reader]
  cases family : shape.type.family with
  | date =>
      cases family ▸ isPacked
      rcases isServed with rfl | rfl
      · exact ⟨_, PackedDateTime.fillsGroups_textOfDate, fun _ => rfl⟩
      · exact ⟨_, PackedDateTime.fillsGroups_ofOctets.bind _, fun _ => rfl⟩
  | timestamp =>
      cases family ▸ isPacked
      rcases isServed with rfl | rfl
      · exact ⟨_, PackedDateTime.fillsGroups_ofOctets.bind _, fun _ => rfl⟩
      · exact ⟨_, PackedDateTime.fillsGroups_ofOctets.bind _, fun _ => rfl⟩
  | time =>
      cases family ▸ isPacked
      rcases isServed with rfl | rfl
      · exact ⟨_, PackedDuration.fillsGroups_text _, fun _ => rfl⟩
      · exact ⟨_, (PackedDuration.fillsGroups_text _).bind _, fun _ => rfl⟩
  | _ => cases family ▸ isPacked

end Shape

/--
Packed dates, durations and date-times come to the same value or the same failure as the
octets of all their groups, where a group that is not sent in full is filled with zeros
and octets behind the last group are dropped.  Only octets that do not fill the first
group are malformed.
-/
theorem omitted_groups_mean_zero
    {column : Column}
    {first : Nat}
    {others : List Nat}
    (isPacked : column.shape.type.family.packedGroups? = some (first :: others))
    {target : Target}
    (isServed : target = .text ∨ target = .natural)
    (offset : Option ZoneOffset)
    {payload : Octets}
    {start : Cursor}
    (next : payload <+: start.rest) :
    (payload.length = 0 ∨ first ≤ payload.length →
      ∀ full : Cursor,
        payload.filled (first :: others) <+: full.rest →
          (column.decode ⟨.binary, offset⟩ target payload.length).outcome start =
            (column.decode ⟨.binary, offset⟩ target (first :: others).sum).outcome full) ∧
      (0 < payload.length ∧ payload.length < first →
        (column.decode ⟨.binary, offset⟩ target payload.length).verdict start =
          .error (.value .malformed)) := by
  have isNotFloat := Shape.isNotFloat_of_packedGroups? isPacked
  have heedsLength := Shape.heedsLength_of_not_float isNotFloat ⟨.binary, offset⟩ target
  obtain ⟨meaning, fills, means⟩ := Shape.exists_fillsGroups isPacked isServed offset
  constructor
  · intro hasFirst full fullNext
    have width := Octets.length_filled (first :: others) payload
    rw [Column.outcome_decode_of_next isNotFloat _ _ next, ← width,
      Column.outcome_decode_of_next isNotFloat _ _ fullNext, means, means,
      fills.filled payload hasFirst]
  · intro isShort
    obtain ⟨error, fails, isMalformed⟩ := fills.short payload isShort
    rw [Column.verdict_decode_of_next heedsLength next, means, fails]
    exact congrArg (fun kind => Except.error (FaultCategory.value kind)) isMalformed

/-- A date-time of five octets, of which the last one does not fill a group. -/
theorem date_with_one_octet_of_the_clock_is_filled :
    let column : Column :=
      { Column.generated "at" .dateTime 26 0 with
        shape := ⟨Collation.utf8General, 26, .dateTime, 0, 3⟩ }
    let start := Cursor.ofPacket [0xE8, 0x07, 0x01, 0x02, 0x09]
    let full := Cursor.ofPacket [0xE8, 0x07, 0x01, 0x02, 0, 0, 0, 0, 0, 0, 0]
    (column.decode ⟨.binary, none⟩ .text 5).outcome start =
        (column.decode ⟨.binary, none⟩ .text 11).outcome full ∧
      (column.decode ⟨.binary, none⟩ .text 11).outcome full =
        .ok (.text "2024-01-02 00:00:00.000") := by
  intro column start full
  have isPacked : column.shape.type.family.packedGroups? = some [4, 3, 4] := rfl
  have next : [0xE8, 0x07, 0x01, 0x02, 0x09] <+: start.rest := List.prefix_refl _
  obtain ⟨filled, -⟩ := omitted_groups_mean_zero isPacked (.inl rfl) none next
  exact ⟨filled (.inr (by decide)) full (List.prefix_refl _), by decide +kernel⟩

end ResultSet
