import ResultSet.Proofs.Packet.Advance

namespace ResultSet

/-!
# Reads that only go forward

However a read ends, it leaves its cursor in the same packet, at its place or further
on, and never behind the end.  This is closed under doing one thing after the other, so
that a read which is put together from others goes forward wherever it stops.
-/

variable {First Second Result : Type}

namespace Read

/-! ## Results of composed actions -/

/-- An action of two steps succeeds only if both do. -/
theorem run_bind_eq_ok
    {action : Read First}
    {next : First → Read Second}
    {start finish : Cursor}
    {second : Second}
    (succeeds : (action >>= next).run start = .ok second finish) :
    ∃ first between,
      action.run start = .ok first between ∧ (next first).run between = .ok second finish := by
  rw [EStateM.run_bind] at succeeds
  cases ran : action.run start with
  | error fault between =>
      rw [ran] at succeeds
      cases succeeds
  | ok first between =>
      rw [ran] at succeeds
      exact ⟨first, between, rfl, succeeds⟩

/-- An action of two steps fails only if one of them does. -/
theorem run_bind_eq_error
    {action : Read First}
    {next : First → Read Second}
    {start finish : Cursor}
    {fault : Fault}
    (fails : (action >>= next).run start = .error fault finish) :
    action.run start = .error fault finish ∨
      ∃ first between,
        action.run start = .ok first between ∧
          (next first).run between = .error fault finish := by
  rw [EStateM.run_bind] at fails
  cases ran : action.run start with
  | error other between =>
      rw [ran] at fails
      cases fails
      exact .inl rfl
  | ok first between =>
      rw [ran] at fails
      exact .inr ⟨first, between, rfl, fails⟩

theorem behind_bind_of_ok
    {action : Read First}
    {next : First → Read Second}
    {start between : Cursor}
    {first : First}
    (succeeds : action.run start = .ok first between) :
    (action >>= next).behind start = (next first).behind between := by
  rw [behind, behind, run_bind_of_ok succeeds]

theorem behind_bind_of_error
    {action : Read First}
    {next : First → Read Second}
    {start between : Cursor}
    {fault : Fault}
    (fails : action.run start = .error fault between) :
    (action >>= next).behind start = action.behind start := by
  rw [behind, behind, run_bind_of_error fails, fails]

/-! ## Going forward -/

/-- However an action ends, it leaves the cursor at its place or so many octets further on. -/
def Forward (action : Read Result) : Prop :=
  ∀ start, ∃ moved, action.behind start = start.advanced moved

namespace Forward

/-- What leaves the cursor at its place goes forward by nothing. -/
theorem of_behind_eq
    {action : Read Result}
    (stays : ∀ start, action.behind start = start) :
    action.Forward :=
  fun start => ⟨0, by rw [stays, Cursor.advanced_zero]⟩

theorem pure (result : Result) : Forward (Pure.pure result) :=
  .of_behind_eq fun _ => rfl

theorem throw (fault : Fault) : Forward (throw fault : Read Result) :=
  .of_behind_eq fun _ => rfl

theorem bind
    {action : Read First}
    {next : First → Read Second}
    (forward : action.Forward)
    (nextForward : ∀ first, (next first).Forward) :
    (action >>= next).Forward := by
  intro start
  obtain ⟨moved, lands⟩ := forward start
  cases ran : action.run start with
  | error fault between => exact ⟨moved, (behind_bind_of_error ran).trans lands⟩
  | ok first between =>
      rw [behind_of_ok ran] at lands
      obtain ⟨movedOn, landsOn⟩ := nextForward first between
      refine ⟨moved + movedOn, ?_⟩
      rw [behind_bind_of_ok ran, landsOn, lands, Cursor.advanced_advanced]

theorem packet_behind
    {action : Read Result}
    (forward : action.Forward)
    (start : Cursor) :
    (action.behind start).packet = start.packet := by
  obtain ⟨moved, lands⟩ := forward start
  rw [lands, Cursor.packet_advanced]

theorem position_le_behind
    {action : Read Result}
    (forward : action.Forward)
    (start : Cursor) :
    start.position ≤ (action.behind start).position := by
  obtain ⟨moved, lands⟩ := forward start
  rw [lands]
  exact start.position_le_advanced moved

theorem packet_of_ok
    {action : Read Result}
    {start finish : Cursor}
    {result : Result}
    (forward : action.Forward)
    (succeeds : action.run start = .ok result finish) :
    finish.packet = start.packet := by
  rw [← behind_of_ok succeeds, forward.packet_behind]

theorem position_le_of_ok
    {action : Read Result}
    {start finish : Cursor}
    {result : Result}
    (forward : action.Forward)
    (succeeds : action.run start = .ok result finish) :
    start.position ≤ finish.position := by
  rw [← behind_of_ok succeeds]
  exact forward.position_le_behind start

/-! Reads of fixed widths -/

theorem octets (count : Nat) : (octets count).Forward := by
  intro start
  rcases Nat.lt_or_ge start.remaining count with overrun | fits
  · exact ⟨0, by rw [behind, run_octets_of_lt overrun, Cursor.advanced_zero]⟩
  · exact ⟨count, by rw [behind, run_octets_of_le fits]⟩

theorem skip (count : Nat) : (skip count).Forward :=
  (octets count).bind fun _ => .pure _

theorem text (count : Nat) : (text count).Forward :=
  (octets count).bind fun _ => .pure _

theorem unsigned (width : Nat) : (unsigned width).Forward :=
  (octets width).bind fun _ => .pure _

theorem signed (width : Nat) : (signed width).Forward :=
  (octets width).bind fun _ => .pure _

theorem single : single.Forward :=
  (unsigned 4).bind fun _ => .pure _

theorem double : double.Forward :=
  (unsigned 8).bind fun _ => .pure _

theorem groups (widths : List Nat) : (groups widths).Forward := by
  induction widths with
  | nil => exact .pure _
  | cons width widths inductionHypothesis =>
      exact (octets width).bind fun _ => inductionHypothesis.bind fun _ => .pure _

/-! Questions -/

theorem position : position.Forward :=
  .of_behind_eq fun _ => rfl

theorem packet : packet.Forward :=
  .of_behind_eq fun _ => rfl

theorem hasRemaining (count : Nat) : (hasRemaining count).Forward :=
  .of_behind_eq fun _ => rfl

/-! Length-encoded numbers and strings -/

theorem lengthEncodedBehind (first : Nat) : (lengthEncodedBehind first).Forward := by
  rw [Read.lengthEncodedBehind]
  repeat' split
  · exact .pure _
  · exact (unsigned 2).bind fun _ => .pure _
  · exact (unsigned 3).bind fun _ => .pure _
  · exact (unsigned 8).bind fun _ => .pure _
  · exact .pure _

theorem lengthEncoded? : lengthEncoded?.Forward :=
  (unsigned 1).bind fun first => .lengthEncodedBehind first

theorem lengthEncoded : lengthEncoded.Forward := by
  refine lengthEncoded?.bind fun number => ?_
  cases number with
  | none => exact .throw _
  | some number => exact .pure _

theorem lengthEncodedOctets : lengthEncodedOctets.Forward :=
  lengthEncoded.bind fun length => .octets length

theorem lengthEncodedText : lengthEncodedText.Forward :=
  lengthEncoded.bind fun length => .text length

theorem skipLengthEncoded : skipLengthEncoded.Forward :=
  position.bind fun _ => lengthEncoded.bind fun length => (skip length).bind fun _ => .pure _

theorem lengthEncodedSpan : lengthEncodedSpan.Forward :=
  lengthEncoded.bind fun length => position.bind fun _ => (skip length).bind fun _ => .pure _

theorem lengthEncodedPacket : lengthEncodedPacket.Forward :=
  lengthEncodedOctets.bind fun _ => .pure _

end Forward

end Read

end ResultSet
