import Mathlib.Algebra.Ring.Nat
import ResultSet.Packet.Read

namespace ResultSet

/-!
# Cursors that move forward

Every read moves its cursor forward and changes nothing else.  This module names
the cursor so many octets further on, and says of the reads that all others are
made of which octets they give, where they stop, and when they fail.  What an
action comes to has two sides: its outcome, and where it leaves the cursor.
-/

namespace Cursor

/-- The cursor so many octets further on, at the end of the packet at most. -/
def advanced (cursor : Cursor) (count : Nat) : Cursor :=
  ⟨cursor.packet, min (cursor.position + count) cursor.packet.length, Nat.min_le_right _ _⟩

/-- Two cursors at one position of one packet are one cursor. -/
theorem eq_of_position
    {first second : Cursor}
    (samePacket : first.packet = second.packet)
    (samePosition : first.position = second.position) :
    first = second := by
  cases first
  cases second
  subst samePacket samePosition
  rfl

@[simp]
theorem packet_advanced
    (cursor : Cursor)
    (count : Nat) :
    (cursor.advanced count).packet = cursor.packet :=
  rfl

theorem position_advanced
    {cursor : Cursor}
    {count : Nat}
    (fits : count ≤ cursor.remaining) :
    (cursor.advanced count).position = cursor.position + count := by
  have insidePacket := cursor.insidePacket
  simp only [remaining] at fits
  exact Nat.min_eq_left (by omega)

theorem position_le_advanced
    (cursor : Cursor)
    (count : Nat) :
    cursor.position ≤ (cursor.advanced count).position :=
  Nat.le_min.mpr ⟨Nat.le_add_right _ _, cursor.insidePacket⟩

@[simp]
theorem advanced_zero (cursor : Cursor) : cursor.advanced 0 = cursor :=
  eq_of_position rfl (Nat.min_eq_left cursor.insidePacket)

@[simp]
theorem advanced_advanced
    (cursor : Cursor)
    (first second : Nat) :
    (cursor.advanced first).advanced second = cursor.advanced (first + second) := by
  refine eq_of_position rfl ?_
  simp only [advanced]
  omega

@[simp]
theorem rest_advanced
    (cursor : Cursor)
    (count : Nat) :
    (cursor.advanced count).rest = cursor.rest.drop count := by
  have atMost :
      (cursor.advanced count).position =
        min (cursor.position + count) cursor.packet.length :=
    rfl
  rw [rest, rest, List.drop_drop, packet_advanced, atMost]
  rcases Nat.le_total (cursor.position + count) cursor.packet.length with inside | outside
  · rw [Nat.min_eq_left inside]
  · rw [Nat.min_eq_right outside, List.drop_length, List.drop_of_length_le outside]

@[simp]
theorem remaining_advanced
    (cursor : Cursor)
    (count : Nat) :
    (cursor.advanced count).remaining = cursor.remaining - count := by
  rw [← length_rest, rest_advanced, List.length_drop, length_rest]

/-- Octets that come next are not more than the octets that follow. -/
theorem length_le_remaining
    {cursor : Cursor}
    {octets : Octets}
    (next : octets <+: cursor.rest) :
    octets.length ≤ cursor.remaining := by
  rw [← length_rest]
  exact next.length_le

theorem take?_of_le
    {cursor : Cursor}
    {count : Nat}
    (fits : count ≤ cursor.remaining) :
    cursor.take? count = some (cursor.rest.take count, cursor.advanced count) := by
  rw [take?, dif_pos fits]
  congr 2
  exact eq_of_position rfl (position_advanced fits).symm

theorem take?_of_lt
    {cursor : Cursor}
    {count : Nat}
    (overrun : cursor.remaining < count) :
    cursor.take? count = none :=
  dif_neg (Nat.not_le.mpr overrun)

/-- A position that is so many octets further on is reached if so many octets follow. -/
theorem moveTo?_of_le
    {cursor : Cursor}
    {count : Nat}
    (fits : count ≤ cursor.remaining) :
    cursor.moveTo? (cursor.position + count) = some (cursor.advanced count) := by
  have insidePacket := cursor.insidePacket
  have inside : cursor.position + count ≤ cursor.packet.length := by
    simp only [remaining] at fits
    omega
  rw [moveTo?, dif_pos inside]
  congr 1
  exact eq_of_position rfl (position_advanced fits).symm

theorem moveTo?_of_lt
    {cursor : Cursor}
    {count : Nat}
    (overrun : cursor.remaining < count) :
    cursor.moveTo? (cursor.position + count) = none := by
  apply dif_neg
  simp only [remaining] at overrun
  omega

end Cursor

namespace Read

variable {First Second Result : Type}

/-! ## The two sides of an action -/

/-- What comes of an action. -/
def outcome
    (action : Read Result)
    (start : Cursor) :
    Except Fault Result :=
  match action.run start with
  | .ok result _ => .ok result
  | .error fault _ => .error fault

/-- Where an action leaves the cursor, whether it succeeds or fails. -/
def behind
    (action : Read Result)
    (start : Cursor) :
    Cursor :=
  match action.run start with
  | .ok _ behind => behind
  | .error _ behind => behind

theorem outcome_of_ok
    {action : Read Result}
    {start finish : Cursor}
    {result : Result}
    (succeeds : action.run start = .ok result finish) :
    action.outcome start = .ok result := by
  rw [outcome, succeeds]

/-- Changing the result of an action changes what comes of it. -/
theorem outcome_map
    (change : First → Second)
    (action : Read First)
    (start : Cursor) :
    (change <$> action).outcome start = (action.outcome start).map change := by
  rw [outcome, outcome, map_eq_pure_bind, EStateM.run_bind]
  cases action.run start with
  | ok first behind => rfl
  | error fault behind => rfl

theorem behind_of_ok
    {action : Read Result}
    {start finish : Cursor}
    {result : Result}
    (succeeds : action.run start = .ok result finish) :
    action.behind start = finish := by
  rw [behind, succeeds]

theorem behind_of_error
    {action : Read Result}
    {start finish : Cursor}
    {fault : Fault}
    (fails : action.run start = .error fault finish) :
    action.behind start = finish := by
  rw [behind, fails]

/-! ## Actions one after the other -/

theorem run_bind_of_ok
    {action : Read First}
    {next : First → Read Second}
    {start behind : Cursor}
    {result : First}
    (succeeds : action.run start = .ok result behind) :
    (action >>= next).run start = (next result).run behind := by
  rw [EStateM.run_bind, succeeds]

theorem run_bind_of_error
    {action : Read First}
    {next : First → Read Second}
    {start behind : Cursor}
    {fault : Fault}
    (fails : action.run start = .error fault behind) :
    (action >>= next).run start = .error fault behind := by
  rw [EStateM.run_bind, fails]

/-! ## Taking octets -/

theorem run_hasRemaining
    (count : Nat)
    (start : Cursor) :
    (hasRemaining count).run start = .ok (decide (count ≤ start.remaining)) start :=
  rfl

theorem run_octets_of_le
    {count : Nat}
    {start : Cursor}
    (fits : count ≤ start.remaining) :
    (octets count).run start = .ok (start.rest.take count) (start.advanced count) := by
  simp only [octets, EStateM.run_bind, EStateM.run_get, Cursor.take?_of_le fits,
    EStateM.run_set, EStateM.run_pure]

theorem run_octets_of_lt
    {count : Nat}
    {start : Cursor}
    (overrun : start.remaining < count) :
    (octets count).run start = .error (.tooSmall count start.remaining) start := by
  simp only [octets, EStateM.run_bind, EStateM.run_get, Cursor.take?_of_lt overrun]
  rfl

/-- Groups of octets that all follow are put together again. -/
theorem run_groups_of_le
    {widths : List Nat}
    {start : Cursor}
    (fits : widths.sum ≤ start.remaining) :
    (groups widths).run start =
      .ok (start.rest.take widths.sum) (start.advanced widths.sum) := by
  induction widths generalizing start with
  | nil => simp [groups]
  | cons width widths inductionHypothesis =>
      rw [List.sum_cons] at fits
      have firstFits : width ≤ start.remaining := by omega
      have restFits : widths.sum ≤ (start.advanced width).remaining := by
        rw [Cursor.remaining_advanced]
        omega
      rw [groups, run_bind_of_ok (run_octets_of_le firstFits),
        run_bind_of_ok (inductionHypothesis restFits), EStateM.run_pure,
        Cursor.rest_advanced, Cursor.advanced_advanced, List.sum_cons, List.take_add]

/-- Groups of which not all octets follow are taken up to the first one that does not fit. -/
theorem run_groups_of_lt
    {widths : List Nat}
    {start : Cursor}
    (overrun : start.remaining < widths.sum) :
    ∃ needed taken,
      (groups widths).run start =
        .error (.tooSmall needed (start.remaining - taken)) (start.advanced taken) := by
  induction widths generalizing start with
  | nil => simp at overrun
  | cons width widths inductionHypothesis =>
      rw [List.sum_cons] at overrun
      rcases Nat.lt_or_ge start.remaining width with firstOverruns | firstFits
      · refine ⟨width, 0, ?_⟩
        rw [groups, run_bind_of_error (run_octets_of_lt firstOverruns), Cursor.advanced_zero,
          Nat.sub_zero]
      · have restOverruns : (start.advanced width).remaining < widths.sum := by
          rw [Cursor.remaining_advanced]
          omega
        obtain ⟨needed, taken, fails⟩ := inductionHypothesis restOverruns
        refine ⟨needed, width + taken, ?_⟩
        rw [groups, run_bind_of_ok (run_octets_of_le firstFits), run_bind_of_error fails,
          Cursor.remaining_advanced, Cursor.advanced_advanced, Nat.sub_sub]

end Read

end ResultSet
