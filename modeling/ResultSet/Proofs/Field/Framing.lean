import ResultSet.Field.Decode
import ResultSet.Proofs.Packet.Advance

namespace ResultSet

/-!
# What a framed field can come to

A field reader that is framed by its announced length has three outcomes: a
result from exactly the announced octets, a value failure, or a framing failure.
`FramedOutcome` lists them with all that is known in each case, and every framed
reading has one of them.  Whatever the outcome is, the cursor stands behind the
field whenever the packet has all octets of the field.
-/

variable {First Second Result : Type}

namespace FieldReader

/-- How many octets a field reader takes, all its groups together. -/
def size (reader : FieldReader Result) : Nat :=
  reader.groups.sum

@[simp]
theorem size_whole
    (length : Nat)
    (interpret : Octets → Except ValueError Result) :
    (whole length interpret).size = length := by
  simp [size, whole]

@[simp]
theorem size_text
    (length : Nat)
    (interpret : String → Except ValueError Result) :
    (FieldReader.text length interpret).size = length :=
  size_whole length _

@[simp]
theorem size_fail
    (length : Nat)
    (error : ValueError) :
    (fail length error : FieldReader Result).size = length :=
  size_whole length _

@[simp]
theorem size_refuse
    (length : Nat)
    (type : ServerType)
    (label : String) :
    (refuse length type label : FieldReader Result).size = length :=
  size_whole length _

@[simp]
theorem size_map
    (change : First → Second)
    (reader : FieldReader First) :
    (reader.map change).size = reader.size :=
  rfl

/-! ## Reading without a frame -/

theorem run_read_of_ok
    {reader : FieldReader Result}
    {start : Cursor}
    {result : Result}
    (fits : reader.size ≤ start.remaining)
    (means : reader.interpret (start.rest.take reader.size) = .ok result) :
    reader.read.run start = .ok result (start.advanced reader.size) := by
  rw [read, Read.run_bind_of_ok (Read.run_groups_of_le fits)]
  rw [size] at means
  simp only [means]
  rfl

theorem run_read_of_error
    {reader : FieldReader Result}
    {start : Cursor}
    {error : ValueError}
    (fits : reader.size ≤ start.remaining)
    (means : reader.interpret (start.rest.take reader.size) = .error error) :
    reader.read.run start = .error (.value error) (start.advanced reader.size) := by
  rw [read, Read.run_bind_of_ok (Read.run_groups_of_le fits)]
  rw [size] at means
  simp only [means]
  rfl

theorem run_read_of_lt
    {reader : FieldReader Result}
    {start : Cursor}
    (overrun : start.remaining < reader.size) :
    ∃ needed taken,
      reader.read.run start =
        .error (.tooSmall needed (start.remaining - taken)) (start.advanced taken) := by
  obtain ⟨needed, taken, fails⟩ := Read.run_groups_of_lt overrun
  exact ⟨needed, taken, by rw [read, Read.run_bind_of_error fails]⟩

/-- Changing the result of a reading is reading with changed results. -/
theorem map_read
    (change : First → Second)
    (reader : FieldReader First) :
    change <$> reader.read = (reader.map change).read := by
  rw [read, read, map_bind]
  refine bind_congr fun octets => ?_
  simp only [map, bind]
  cases reader.interpret octets with
  | ok first => rfl
  | error error => rfl

end FieldReader

/-! ## Going to the end of a field -/

namespace Cursor

theorem realigned_advanced_of_le
    {start : Cursor}
    {length : Nat}
    (taken : Nat)
    (fits : length ≤ start.remaining) :
    (start.advanced taken).realigned (start.position + length) = start.advanced length := by
  have samePacket :
      (start.advanced taken).moveTo? (start.position + length) =
        start.moveTo? (start.position + length) :=
    rfl
  rw [realigned, samePacket, moveTo?_of_le fits, Option.getD_some]

theorem realigned_advanced_of_lt
    {start : Cursor}
    {length : Nat}
    (taken : Nat)
    (overrun : start.remaining < length) :
    (start.advanced taken).realigned (start.position + length) = start.advanced taken := by
  have samePacket :
      (start.advanced taken).moveTo? (start.position + length) =
        start.moveTo? (start.position + length) :=
    rfl
  rw [realigned, samePacket, moveTo?_of_lt overrun, Option.getD_none]

/-- After a failure the cursor is somewhere ahead, and behind the field if that is possible. -/
theorem exists_realigned_advanced
    (start : Cursor)
    (taken length : Nat) :
    ∃ moved,
      (length ≤ start.remaining → moved = length) ∧
        (start.advanced taken).realigned (start.position + length) = start.advanced moved := by
  rcases Nat.lt_or_ge start.remaining length with overrun | fits
  · refine ⟨taken, fun fits => ?_, realigned_advanced_of_lt taken overrun⟩
    exact absurd fits (Nat.not_le.mpr overrun)
  · exact ⟨length, fun _ => rfl, realigned_advanced_of_le taken fits⟩

end Cursor

/-! ## Reading inside a frame -/

/-- The outcomes of a field reader that is framed by an announced length. -/
inductive FramedOutcome
    (reader : FieldReader Result)
    (length : Nat)
    (start : Cursor) :
    EStateM.Result Fault Cursor Result → Prop where
  /-- The announced octets are what the reader takes, and they mean the result. -/
  | decoded
      {result : Result}
      (fits : length ≤ start.remaining)
      (exact : reader.size = length)
      (means : reader.interpret (start.rest.take length) = .ok result) :
      FramedOutcome reader length start (.ok result (start.advanced length))
  /-- The octets are there, but they mean nothing or are not the announced ones. -/
  | rejected
      {error : ValueError}
      {moved : Nat}
      (fits : reader.size ≤ start.remaining)
      (meansNothing :
        reader.size = length →
          ∀ result, reader.interpret (start.rest.take length) ≠ .ok result)
      (aligned : length ≤ start.remaining → moved = length) :
      FramedOutcome reader length start (.error (.value error) (start.advanced moved))
  /-- The packet ends before the reader has its octets. -/
  | overrun
      {needed available moved : Nat}
      (short : start.remaining < reader.size)
      (aligned : length ≤ start.remaining → moved = length) :
      FramedOutcome reader length start
        (.error (.tooSmall needed available) (start.advanced moved))

theorem Read.run_framed_of_error
    {action : Read Result}
    {length : Nat}
    {start behind : Cursor}
    {fault : Fault}
    (fails : action.run start = .error fault behind) :
    (Read.framed length action).run start =
      .error fault (behind.realigned (start.position + length)) := by
  rw [EStateM.run] at fails ⊢
  simp only [Read.framed, fails]

/-- A frame lets a result pass if it is made of as many octets as were announced. -/
theorem Read.run_framed_of_ok
    {action : Read Result}
    {length taken : Nat}
    {start : Cursor}
    {result : Result}
    (fits : taken ≤ start.remaining)
    (succeeds : action.run start = .ok result (start.advanced taken)) :
    (Read.framed length action).run start =
      if taken = length then
        .ok result (start.advanced taken)
      else
        .error (.value (.consumed length taken))
          ((start.advanced taken).realigned (start.position + length)) := by
  have octetsTaken : (start.advanced taken).position - start.position = taken := by
    rw [Cursor.position_advanced fits, Nat.add_sub_cancel_left]
  rw [EStateM.run] at succeeds ⊢
  simp only [Read.framed, succeeds, octetsTaken]

/-- Every framed reading of a field has one of the three outcomes. -/
theorem FieldReader.framedOutcome
    (reader : FieldReader Result)
    (length : Nat)
    (start : Cursor) :
    FramedOutcome reader length start ((Read.framed length reader.read).run start) := by
  rcases Nat.lt_or_ge start.remaining reader.size with short | fits
  · obtain ⟨needed, taken, fails⟩ := run_read_of_lt short
    obtain ⟨moved, aligned, lands⟩ := start.exists_realigned_advanced taken length
    rw [Read.run_framed_of_error fails, lands]
    exact .overrun short aligned
  · cases means : reader.interpret (start.rest.take reader.size) with
    | error error =>
        obtain ⟨moved, aligned, lands⟩ := start.exists_realigned_advanced reader.size length
        rw [Read.run_framed_of_error (run_read_of_error fits means), lands]
        refine .rejected fits (fun exact result meansResult => ?_) aligned
        rw [← exact, means] at meansResult
        cases meansResult
    | ok result =>
        rw [Read.run_framed_of_ok fits (run_read_of_ok fits means)]
        by_cases exact : reader.size = length
        · rw [if_pos exact]
          subst exact
          exact .decoded fits rfl means
        · obtain ⟨moved, aligned, lands⟩ := start.exists_realigned_advanced reader.size length
          rw [if_neg exact, lands]
          exact .rejected fits (fun same => absurd same exact) aligned

/-- A framed field has a result when its own octets have it, whatever stands around them. -/
theorem FieldReader.outcome_framed_eq_ok_iff
    {reader : FieldReader Result}
    {length : Nat}
    {start : Cursor}
    {result : Result} :
    (Read.framed length reader.read).outcome start = .ok result ↔
      length ≤ start.remaining ∧
        reader.size = length ∧
        reader.interpret (start.rest.take length) = .ok result := by
  have possible := reader.framedOutcome length start
  rw [Read.outcome]
  generalize (Read.framed length reader.read).run start = final at possible
  cases possible with
  | decoded fits exact means =>
      constructor
      · rintro ⟨⟩
        exact ⟨fits, exact, means⟩
      · rintro ⟨_, _, meansResult⟩
        rw [means] at meansResult
        cases meansResult
        rfl
  | rejected _ meansNothing _ =>
      constructor
      · rintro ⟨⟩
      · rintro ⟨_, exact, means⟩
        exact absurd means (meansNothing exact result)
  | overrun short _ =>
      constructor
      · rintro ⟨⟩
      · rintro ⟨fits, exact, _⟩
        exact absurd fits (Nat.not_le.mpr (exact ▸ short))

/-- A framed field leaves the cursor ahead, and behind the field if the packet holds it. -/
theorem FieldReader.exists_behind_framed
    (reader : FieldReader Result)
    (length : Nat)
    (start : Cursor) :
    ∃ moved,
      (length ≤ start.remaining → moved = length) ∧
        (Read.framed length reader.read).behind start = start.advanced moved := by
  have possible := reader.framedOutcome length start
  rw [Read.behind]
  generalize (Read.framed length reader.read).run start = final at possible
  cases possible with
  | decoded _ _ _ => exact ⟨length, fun _ => rfl, rfl⟩
  | rejected _ _ aligned => exact ⟨_, aligned, rfl⟩
  | overrun _ aligned => exact ⟨_, aligned, rfl⟩

/-- Changing the result of a framed reading is reading a frame with changed results. -/
theorem FieldReader.map_framed
    (change : First → Second)
    (reader : FieldReader First)
    (length : Nat) :
    change <$> Read.framed length reader.read =
      Read.framed length (reader.map change).read := by
  rw [← map_read]
  funext start
  simp only [Functor.map, EStateM.map, Read.framed]
  cases reader.read start with
  | error fault behind => rfl
  | ok first behind =>
      by_cases exact : behind.position - start.position = length
      · simp only [exact, ↓reduceIte]
      · simp only [exact, ↓reduceIte]

namespace Column

/-- A field reader of a column whose results are values. -/
def valueReader
    (column : Column)
    (encoding : Encoding)
    (target : Target)
    (length : Nat) :
    FieldReader Value :=
  (column.shape.reader encoding target length).map target.toValue

/-- Decoding a field into a value is reading a frame too. -/
theorem decode_eq_framed
    (column : Column)
    (encoding : Encoding)
    (target : Target)
    (length : Nat) :
    column.decode encoding target length =
      Read.framed length (column.valueReader encoding target length).read :=
  FieldReader.map_framed target.toValue (column.shape.reader encoding target length) length

end Column

end ResultSet
