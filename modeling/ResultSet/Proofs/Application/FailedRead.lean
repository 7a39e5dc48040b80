import ResultSet.Proofs.Application.History

namespace ResultSet

/-!
# Where a failed read leaves the cursor

A single read that fails has taken nothing.  What begins with a length is put together from
several reads, and the ones before the failure have moved the cursor: it stands behind the
length, or behind the mark if the octets of the length are not all there.  So of these
operations none that fails leaves the cursor at its place, unless no octet follows at all.
-/

variable {First Second Result : Type}

namespace Read

variable {start finish : Cursor} {fault : Fault}

/-- An action that moves nothing when it fails. -/
def StaysOnFailure (action : Read Result) : Prop :=
  ∀ start fault finish, action.run start = .error fault finish → finish = start

/-- When only the first step moves anything, a failure leaves the cursor where that step does. -/
theorem behind_eq_of_stays
    {action : Read First}
    {next : First → Read Second}
    (stays : ∀ first, (next first).StaysOnFailure)
    (fails : (action >>= next).run start = .error fault finish) :
    finish = action.behind start := by
  rcases run_bind_eq_error fails with fails | ⟨first, between, succeeds, fails⟩
  · exact (behind_of_error fails).symm
  · rw [behind_of_ok succeeds]
    exact stays first between fault finish fails

namespace StaysOnFailure

/-- What is made of the result moves nothing. -/
theorem map
    {action : Read First}
    (stays : action.StaysOnFailure)
    (change : First → Second) :
    StaysOnFailure (do return change (← action)) := by
  intro start fault finish fails
  rcases run_bind_eq_error fails with fails | ⟨_, _, _, ⟨⟩⟩
  exact stays start fault finish fails

theorem octets (count : Nat) : (octets count).StaysOnFailure := by
  intro start fault finish fails
  rcases Nat.lt_or_ge start.remaining count with overrun | fits
  · rw [run_octets_of_lt overrun] at fails
    cases fails
    rfl
  · rw [run_octets_of_le fits] at fails
    cases fails

theorem unsigned (width : Nat) : (unsigned width).StaysOnFailure :=
  (octets width).map Octets.littleEndian

theorem signed (width : Nat) : (signed width).StaysOnFailure :=
  (octets width).map Octets.signedLittleEndian

theorem single : single.StaysOnFailure :=
  (unsigned 4).map Single.ofBits

theorem double : double.StaysOnFailure :=
  (unsigned 8).map Double.ofBits

theorem text (count : Nat) : (text count).StaysOnFailure :=
  (octets count).map Text.decode

theorem skip (count : Nat) : (skip count).StaysOnFailure :=
  (octets count).map fun _ => ()

theorem moveTo (position : Nat) : (moveTo position).StaysOnFailure := by
  intro start fault finish fails
  rcases Nat.lt_or_ge start.packet.length position with outside | inside
  · rw [run_moveTo_of_lt outside] at fails
    cases fails
    rfl
  · rw [run_moveTo_of_le inside] at fails
    cases fails

end StaysOnFailure

end Read

/-! ## Lengths -/

namespace LengthEncoded

/--
How far the reading of a length goes into the octets that come next: past the octet that
opens it and, behind a mark, past the octets of the number if all of them are there.
-/
def reach : Octets → Nat
  | [] => 0
  | first :: behind =>
      match markedWidths.lookup first with
      | none => 1
      | some width => if width ≤ behind.length then 1 + width else 1

theorem reach_eq_zero_iff {octets : Octets} : reach octets = 0 ↔ octets = [] := by
  cases octets with
  | nil => exact ⟨fun _ => rfl, fun _ => rfl⟩
  | cons first behind =>
      rw [reach]
      repeat' split
      all_goals simp

theorem reach_le_length (octets : Octets) : reach octets ≤ octets.length := by
  cases octets with
  | nil => exact Nat.le_refl 0
  | cons first behind =>
      rw [reach, List.length_cons]
      repeat' split
      all_goals omega

theorem lookup_markedWidths
    {mark : UInt8}
    {width : Nat}
    (isMark : (mark, width) ∈ markedWidths) :
    markedWidths.lookup mark = some width := by
  simp only [markedWidths, List.mem_cons, List.not_mem_nil, or_false, Prod.mk.injEq] at isMark
  rcases isMark with ⟨rfl, rfl⟩ | ⟨rfl, rfl⟩ | ⟨rfl, rfl⟩
  · rfl
  · rfl
  · rfl

theorem lookup_markedWidths_eq_none
    {octet : UInt8}
    (noMark : ∀ width, (octet, width) ∉ markedWidths) :
    markedWidths.lookup octet = none := by
  rw [List.lookup_eq_none_iff]
  rintro ⟨mark, width⟩ isMark
  rw [bne_iff_ne]
  rintro rfl
  exact noMark width isMark

end LengthEncoded

namespace Read

open LengthEncoded

variable {start finish : Cursor}

/-- Behind the octet that opens a length, the octets of the number are taken together. -/
theorem behind_lengthEncodedBehind (octet : UInt8) (start : Cursor) :
    (lengthEncodedBehind octet.toNat).behind start =
      match markedWidths.lookup octet with
      | none => start
      | some width => if width ≤ start.remaining then start.advanced width else start := by
  by_cases isMark : ∃ width, (octet, width) ∈ markedWidths
  · obtain ⟨width, isMark⟩ := isMark
    rw [lengthEncodedBehind_of_mark isMark, lookup_markedWidths isMark]
    rcases Nat.lt_or_ge start.remaining width with overrun | fits
    · have fails : (unsigned width).run start = .error (.tooSmall width start.remaining) start :=
        run_bind_of_error (run_octets_of_lt overrun)
      rw [behind_bind_of_error fails, behind_of_error fails]
      exact (if_neg (Nat.not_le.mpr overrun)).symm
    · have succeeds :
          (unsigned width).run start =
            .ok (Octets.littleEndian (start.rest.take width)) (start.advanced width) :=
        run_bind_of_ok (run_octets_of_le fits)
      rw [behind_bind_of_ok succeeds]
      exact (if_pos fits).symm
  · have noMark : ∀ width, (octet, width) ∉ markedWidths := not_exists.mp isMark
    rw [lookup_markedWidths_eq_none noMark]
    by_cases isNull : octet = nullMark
    · subst isNull
      rfl
    · rw [lengthEncodedBehind_of_unmarked isNull noMark]
      rfl

/-- The reading of a length ends at its reach, whether it succeeds or fails. -/
theorem behind_lengthEncoded? (start : Cursor) :
    lengthEncoded?.behind start = start.advanced (reach start.rest) := by
  cases shape : start.rest with
  | nil =>
      have nothingLeft : start.remaining < 1 := by
        rw [← Cursor.length_rest, shape]
        exact Nat.one_pos
      have fails : (unsigned 1).run start = .error (.tooSmall 1 start.remaining) start :=
        run_bind_of_error (run_octets_of_lt nothingLeft)
      rw [lengthEncoded?, behind_bind_of_error fails, behind_of_error fails, reach,
        Cursor.advanced_zero]
  | cons octet rest =>
      obtain ⟨_, opens, rfl⟩ :=
        accepts_octet octet start rfl (shape ▸ List.prefix_append [octet] rest)
      have left : (start.advanced 1).remaining = rest.length := by
        rw [← Cursor.length_rest, Cursor.rest_advanced, shape]
        rfl
      rw [lengthEncoded?, behind_bind_of_ok opens, List.length_singleton,
        behind_lengthEncodedBehind, left, reach]
      repeat' split
      · rfl
      · rw [Cursor.advanced_advanced]
      · rfl

/-- Where no value may be missing, a length is read alike. -/
theorem behind_lengthEncoded (start : Cursor) :
    lengthEncoded.behind start = lengthEncoded?.behind start := by
  cases ran : lengthEncoded?.run start with
  | error fault between => exact behind_bind_of_error ran
  | ok number between =>
      rw [lengthEncoded, behind_bind_of_ok ran, behind_of_ok ran]
      cases number <;> rfl

end Read

/-! ## Failed operations -/

namespace Operation

/-- Whether an operation begins with a length. -/
def readsLength : Operation → Bool
  | lengthEncoded? => true
  | lengthEncoded => true
  | lengthEncodedOctets => true
  | lengthEncodedText => true
  | skipLengthEncoded => true
  | lengthEncodedPacket => true
  | _ => false

variable {operation : Operation} {start finish : Cursor} {fault : Fault}

/-- A failed operation that begins with a length leaves the cursor where the length does. -/
theorem finish_of_readsLength
    (begins : operation.readsLength = true)
    (fails : operation.perform.run start = .error fault finish) :
    finish = Read.lengthEncoded?.behind start := by
  cases operation with
  | lengthEncoded? => exact (Read.behind_of_error fails).symm
  | lengthEncoded =>
      rw [← Read.behind_lengthEncoded]
      exact (Read.behind_of_error fails).symm
  | lengthEncodedOctets =>
      rw [← Read.behind_lengthEncoded]
      exact Read.behind_eq_of_stays .octets fails
  | lengthEncodedText =>
      rw [← Read.behind_lengthEncoded]
      exact Read.behind_eq_of_stays .text fails
  | skipLengthEncoded =>
      rw [← Read.behind_lengthEncoded]
      exact Read.behind_eq_of_stays (fun length => (Read.StaysOnFailure.skip length).map _) fails
  | lengthEncodedPacket =>
      rw [← Read.behind_lengthEncoded]
      rcases Read.run_bind_eq_error fails with fails | ⟨_, _, _, ⟨⟩⟩
      exact Read.behind_eq_of_stays .octets fails
  | _ => cases begins

/-- Every other operation of the cursor itself moves nothing when it fails. -/
theorem staysOnFailure
    (elementary : operation.Elementary)
    (noLength : operation.readsLength = false) :
    operation.perform.StaysOnFailure := by
  cases operation with
  | unsigned width => exact .unsigned _
  | signed width => exact .signed _
  | single => exact .single
  | double => exact .double
  | octets count => exact .octets count
  | text count => exact .text count
  | skip count => exact .skip count
  | moveTo position => exact .moveTo position
  | lengthEncoded? => cases noLength
  | lengthEncoded => cases noLength
  | lengthEncodedOctets => cases noLength
  | lengthEncodedText => cases noLength
  | skipLengthEncoded => cases noLength
  | lengthEncodedPacket => cases noLength
  | _ => exact elementary.elim

end Operation

/--
A failed operation of the cursor itself leaves the cursor at its place if it does not begin
with a length, and at the reach of the length if it does.  So it has moved the cursor just
if it begins with a length and there was an octet to read.
-/
theorem failed_operation_stays_iff
    {operation : Operation}
    (elementary : operation.Elementary)
    {start finish : Cursor}
    {fault : Fault}
    (fails : operation.perform.run start = .error fault finish) :
    finish =
        start.advanced
          (if operation.readsLength then LengthEncoded.reach start.rest else 0) ∧
      (finish.position = start.position ↔
        operation.readsLength = false ∨ start.remaining = 0) := by
  cases begins : operation.readsLength with
  | false =>
      obtain rfl := operation.staysOnFailure elementary begins start fault finish fails
      simp
  | true =>
      have moved := Operation.finish_of_readsLength begins fails
      rw [Read.behind_lengthEncoded?] at moved
      have fits : LengthEncoded.reach start.rest ≤ start.remaining := by
        rw [← Cursor.length_rest]
        exact LengthEncoded.reach_le_length start.rest
      refine ⟨moved, ?_⟩
      rw [moved, Cursor.position_advanced fits, Nat.add_eq_left, LengthEncoded.reach_eq_zero_iff,
        ← List.length_eq_zero_iff, Cursor.length_rest]
      simp

/-- A string of which an octet is missing is left behind the three octets of its length. -/
theorem cut_string_is_left_behind_its_length :
    let operation : Operation := .lengthEncodedText
    let start := Cursor.ofPacket [0xFC, 2, 0, 0x61]
    ∃ finish,
      operation.Elementary ∧
        operation.perform.run start = .error (.tooSmall 2 1) finish ∧
        finish = start.advanced 3 ∧
        finish.position ≠ start.position := by
  intro operation start
  have elementary : operation.Elementary := trivial
  have fails : operation.perform.run start = .error (.tooSmall 2 1) (start.advanced 3) := rfl
  obtain ⟨moved, stays⟩ := failed_operation_stays_iff elementary fails
  exact ⟨_, elementary, fails, moved, mt stays.mp (by decide)⟩

/-- A mark without the octets of its number is passed over by the read that fails for them. -/
theorem cut_length_moves_the_cursor :
    let start := Cursor.ofPacket [0xFC, 1]
    ∃ finish,
      Operation.lengthEncoded.perform.run start = .error (.tooSmall 2 1) finish ∧
        start.position = 0 ∧
        finish.position = 1 :=
  ⟨_, rfl, rfl, rfl⟩

end ResultSet
