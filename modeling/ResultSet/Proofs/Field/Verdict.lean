import ResultSet.Proofs.Field.FailureKinds
import ResultSet.Proofs.Field.Interpretation

namespace ResultSet

/-!
# Verdicts

Callers tell failures apart by their category; the wording is for people.  The verdict
of a reading is its result or the category of its failure, so that two readings with
one verdict give the same result or fail in the same way.
-/

variable {First Second Result : Type}

/-! ## Categories -/

/-- How callers tell failures apart. -/
inductive FaultCategory where
  | tooSmall
  | protocol
  | unsupportedType
  | value (kind : ValueErrorKind)
  deriving Repr, DecidableEq

/-- The category of a failure. -/
def Fault.category : Fault → FaultCategory
  | tooSmall .. => .tooSmall
  | protocol _ => .protocol
  | unsupportedType _ => .unsupportedType
  | value error => .value error.kind

/-! ## Meanings without their wording -/

/-- A meaning that keeps no more of its failure than the kind. -/
def judged (meaning : Except ValueError Result) : Except ValueErrorKind Result :=
  meaning.mapError ValueError.kind

theorem judged_bind
    (first : Except ValueError First)
    (next : First → Except ValueError Second) :
    judged (first >>= next) = judged first >>= fun result => judged (next result) := by
  cases first with
  | ok result => rfl
  | error error => rfl

theorem judged_map
    (change : First → Second)
    (meaning : Except ValueError First) :
    judged (meaning.map change) = (judged meaning).map change := by
  cases meaning <;> rfl

/-! ## Verdicts of readings -/

/-- The result of an action, or the category of its failure. -/
def Read.verdict
    (action : Read Result)
    (start : Cursor) :
    Except FaultCategory Result :=
  (action.outcome start).mapError Fault.category

/-- An action has a result for its verdict when it has this result. -/
theorem Read.verdict_eq_ok_iff
    {action : Read Result}
    {start : Cursor}
    {result : Result} :
    action.verdict start = .ok result ↔ action.outcome start = .ok result := by
  rw [verdict]
  cases action.outcome start with
  | ok other =>
      change Except.ok other = Except.ok result ↔ _
      rw [Except.ok.injEq, Except.ok.injEq]
  | error fault =>
      constructor
      · rintro ⟨⟩
      · rintro ⟨⟩

/-- Changing the result of an action changes the verdict. -/
theorem Read.verdict_map
    (change : First → Second)
    (action : Read First)
    (start : Cursor) :
    (change <$> action).verdict start = (action.verdict start).map change := by
  rw [verdict, verdict, outcome_map]
  cases action.outcome start <;> rfl

theorem Read.verdict_bind_of_ok
    {action : Read First}
    {next : First → Read Second}
    {start behind : Cursor}
    {result : First}
    (succeeds : action.run start = .ok result behind) :
    (action >>= next).verdict start = (next result).verdict behind := by
  rw [verdict, verdict, outcome, outcome, run_bind_of_ok succeeds]

/-- Octets that come next are judged by what they mean to the reader of the frame. -/
theorem FieldReader.verdict_framed_of_next
    {reader : FieldReader Result}
    {octets : Octets}
    {start : Cursor}
    (exact : reader.size = octets.length)
    (next : octets <+: start.rest) :
    (Read.framed octets.length reader.read).verdict start =
      (judged (reader.interpret octets)).mapError .value := by
  rw [Read.verdict, outcome_framed_of_next exact next, judged]
  cases reader.interpret octets <;> rfl

namespace Column

variable {column : Column} {encoding : Encoding} {target : Target} {length : Nat}
  {start : Cursor}

/-- Octets that come next are judged by what they mean to a decoder that heeds their length. -/
theorem verdict_decode_of_next
    {octets : Octets}
    (heedsLength : column.shape.ignoresLength encoding target = false)
    (next : octets <+: start.rest) :
    (column.decode encoding target octets.length).verdict start =
      ((judged
        ((column.shape.reader encoding target octets.length).interpret
          octets)).map target.toValue).mapError .value := by
  have exact := size_valueReader_of_heeding heedsLength octets.length
  rw [decode_eq_framed, FieldReader.verdict_framed_of_next exact next, valueReader,
    FieldReader.interpret_map, judged_map]

/-- A field that the packet holds is judged by what its octets mean. -/
theorem verdict_decode_of_le
    (heedsLength : column.shape.ignoresLength encoding target = false)
    (fits : length ≤ start.remaining) :
    (column.decode encoding target length).verdict start =
      ((judged
        ((column.shape.reader encoding target length).interpret
          (start.rest.take length))).map target.toValue).mapError .value := by
  have octetsTaken : (start.rest.take length).length = length := by
    rw [List.length_take, Cursor.length_rest, Nat.min_eq_left fits]
  have verdict := verdict_decode_of_next heedsLength (List.take_prefix length start.rest)
  rw [octetsTaken] at verdict
  exact verdict

/-- A field that the packet does not hold is judged by that alone. -/
theorem verdict_decode_of_lt
    (heedsLength : column.shape.ignoresLength encoding target = false)
    (overrun : start.remaining < length) :
    (column.decode encoding target length).verdict start = .error .tooSmall := by
  have overruns : (column.decode encoding target length).Overruns start := by
    rw [overruns_decode_iff, extent_eq_length heedsLength]
    exact overrun
  obtain ⟨needed, available, fails⟩ := overruns
  rw [Read.verdict, fails]
  rfl

end Column

end ResultSet
