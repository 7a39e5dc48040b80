import ResultSet.Number.Binary.Literal
import ResultSet.Proofs.Number.Decimal
import ResultSet.Proofs.Text.Ascii

namespace ResultSet

/-!
# Literals of numbers are ASCII

Every literal that is read as a number has characters of ASCII only: digits, signs, a
point, underscores, marks of an exponent, and letters of either case for the names of what
is not finite.  The readers take a literal apart at its marks, so that each part is looked
at by itself.
-/

namespace Text

variable {characters front back : List Char}

theorem isAscii_of_isDigit
    {digit : Char}
    (isDigit : digit.isDigit = true) :
    digit.isAscii = true := by
  simp only [Char.isDigit, Bool.and_eq_true, decide_eq_true_eq] at isDigit
  have upTo9 : digit.toNat ≤ 57 := UInt32.le_iff_toNat_le.mp isDigit.2
  exact decide_eq_true (Nat.lt_of_le_of_lt upTo9 (by decide))

/-- Only letters of ASCII have a lower case here. -/
theorem isAscii_of_toLower
    {character : Char}
    (lowered : character.toLower.isAscii = true) :
    character.isAscii = true := by
  by_cases isUpper : character.val ≥ 'A'.val ∧ character.val ≤ 'Z'.val
  · have upToZ : character.toNat ≤ 90 := UInt32.le_iff_toNat_le.mp isUpper.2
    exact decide_eq_true (Nat.lt_of_le_of_lt upToZ (by decide))
  · have kept : character.toLower = character := dif_neg isUpper
    rw [kept] at lowered
    exact lowered

namespace AllAscii

theorem append
    (frontPlain : AllAscii front)
    (backPlain : AllAscii back) :
    AllAscii (front ++ back) :=
  List.forall_mem_append.mpr ⟨frontPlain, backPlain⟩

theorem of_isDigit (areDigits : ∀ digit ∈ characters, digit.isDigit = true) :
    AllAscii characters :=
  fun digit member => isAscii_of_isDigit (areDigits digit member)

/-- What a literal is taken apart to is ASCII only if the literal is. -/
theorem of_split
    {isMark : Char → Bool}
    (marksPlain : ∀ mark, isMark mark = true → mark.isAscii = true)
    (before : AllAscii (characters.takeWhile fun character => !isMark character))
    (behind : AllAscii ((characters.dropWhile fun character => !isMark character).drop 1)) :
    AllAscii characters := by
  rw [← List.takeWhile_append_dropWhile (p := fun character => !isMark character) (l := characters)]
  refine before.append ?_
  have headIsMark := List.head?_dropWhile_not (fun character => !isMark character) characters
  cases rest : characters.dropWhile fun character => !isMark character with
  | nil => exact List.forall_mem_nil _
  | cons mark others =>
      rw [rest] at behind headIsMark
      have isOne : isMark mark = true := by simpa using headIsMark
      exact List.forall_mem_cons.mpr ⟨marksPlain mark isOne, behind⟩

end AllAscii

end Text

namespace Numeral

variable {characters : List Char}

/-- A sign is ASCII, so that a signed numeral is ASCII if its magnitude is. -/
theorem allAscii_of_signed?
    {magnitude? : List Char → Option Nat}
    (magnitudePlain :
      ∀ {spelling number}, magnitude? spelling = some number → Text.AllAscii spelling)
    {number : Int}
    (spells : signed? magnitude? characters = some number) :
    Text.AllAscii characters := by
  obtain ⟨sign, spelling, rfl, read⟩ := exists_signed?_eq magnitude? characters
  rw [read, Option.map_eq_some_iff] at spells
  obtain ⟨magnitude, behindSign, -⟩ := spells
  have signPlain : Text.AllAscii sign.characters := by
    cases sign <;> decide
  exact signPlain.append (magnitudePlain behindSign)

theorem allAscii_of_natural?
    {number : Nat}
    (spells : natural? characters = some number) :
    Text.AllAscii characters :=
  .of_isDigit (isDigit_of_natural? spells)

theorem allAscii_of_signedWithin?
    {bits : Nat}
    {number : Int}
    (spells : signedWithin? bits characters = some number) :
    Text.AllAscii characters :=
  allAscii_of_signed? allAscii_of_natural? (Option.filter_eq_some_iff.mp spells).1

theorem allAscii_of_groupedDigits?
    {number : Nat}
    (spells : groupedDigits? characters = some number) :
    Text.AllAscii characters := by
  rw [groupedDigits?.eq_def] at spells
  split at spells
  · rename_i allowed
    intro character member
    have isAllowed := List.all_eq_true.mp allowed character member
    rcases Bool.or_eq_true_iff.mp isAllowed with isDigit | isUnderscore
    · exact Text.isAscii_of_isDigit isDigit
    · rw [eq_of_beq isUnderscore]
      decide
  · cases spells

end Numeral

/-! ## Decimal fractions -/

namespace Decimal

variable {characters : List Char}

theorem isAscii_of_isExponentMark
    {mark : Char}
    (isMark : isExponentMark mark = true) :
    mark.isAscii = true := by
  simp only [isExponentMark, Bool.or_eq_true, beq_iff_eq] at isMark
  rcases isMark with rfl | rfl <;> decide

theorem allAscii_of_literalExponent?
    {exponent : Int}
    (spells : literalExponent? characters = some exponent) :
    Text.AllAscii
      ((characters.dropWhile fun character => !isExponentMark character).drop 1) := by
  rw [literalExponent?] at spells
  split at spells
  · rename_i nothing
    rw [nothing]
    exact List.forall_mem_nil _
  · rename_i mark numeral behind
    rw [behind]
    exact Numeral.allAscii_of_signedWithin? spells

/-- A decimal fraction is read from a grouped numeral, a point and an exponent. -/
theorem allAscii_of_ofLiteral?
    {decimal : Decimal}
    (spells : ofLiteral? characters = some decimal) :
    Text.AllAscii characters := by
  simp only [ofLiteral?, Option.bind_eq_bind, Option.bind_eq_some_iff] at spells
  obtain ⟨exponent, behindMark, unscaled, digits, -⟩ := spells
  have together := Numeral.allAscii_of_signed? Numeral.allAscii_of_groupedDigits? digits
  obtain ⟨whole, fraction⟩ := List.forall_mem_append.mp together
  have pointPlain : ∀ mark, (mark == '.') = true → mark.isAscii = true := by
    intro mark isPoint
    rw [eq_of_beq isPoint]
    decide
  have base := Text.AllAscii.of_split pointPlain whole fraction
  exact .of_split (fun _ => isAscii_of_isExponentMark) base
    (allAscii_of_literalExponent? behindMark)

end Decimal

/-! ## Binary numbers -/

namespace BinaryLiteral

variable {characters : List Char} {negative : Bool} {literal : BinaryLiteral}

theorem allAscii_of_exponent?
    {exponent : Int}
    (spells : exponent? characters = some exponent) :
    Text.AllAscii characters := by
  rw [exponent?.eq_def] at spells
  split at spells
  · exact List.forall_mem_nil _
  · rename_i mark numeral
    split at spells
    · rename_i isMark
      have markPlain : mark.isAscii = true := by
        rcases isMark with rfl | rfl <;> decide
      refine List.forall_mem_cons.mpr ⟨markPlain, ?_⟩
      refine Numeral.allAscii_of_signed? (fun {spelling number} magnitude => ?_) spells
      rw [exponentMagnitude?, Option.ite_none_right_eq_some] at magnitude
      exact .of_isDigit (List.all_eq_true.mp magnitude.1.2)
    · cases spells

theorem allAscii_of_decimal?
    (spells : decimal? negative characters = some literal) :
    Text.AllAscii characters := by
  have whole : Text.AllAscii (characters.takeWhile Char.isDigit) :=
    .of_isDigit fun _ member => List.mem_takeWhile_imp member
  rw [← List.takeWhile_append_dropWhile (p := Char.isDigit) (l := characters)]
  refine whole.append ?_
  simp only [decimal?, Option.bind_eq_bind, Option.bind_eq_some_iff] at spells
  obtain ⟨digits, -, exponent, behind, -⟩ := spells
  split at behind
  · rename_i rest afterWhole
    have fraction : Text.AllAscii (rest.takeWhile Char.isDigit) :=
      .of_isDigit fun _ member => List.mem_takeWhile_imp member
    have both := fraction.append (allAscii_of_exponent? behind)
    rw [List.takeWhile_append_dropWhile] at both
    rw [afterWhole]
    exact List.forall_mem_cons.mpr ⟨by decide, both⟩
  · exact allAscii_of_exponent? behind

/-- The letters of a name are ASCII in either case. -/
theorem allAscii_of_name
    {name : String}
    (isName : String.ofList (characters.map Char.toLower) = name)
    (namePlain : Text.AllAscii name.toList) :
    Text.AllAscii characters := by
  intro character member
  rw [← isName, String.toList_ofList] at namePlain
  exact Text.isAscii_of_toLower (namePlain _ (List.mem_map_of_mem member))

theorem allAscii_of_magnitude?
    (spells : magnitude? negative characters = some literal) :
    Text.AllAscii characters := by
  rw [magnitude?] at spells
  split at spells
  · rename_i isName
    exact allAscii_of_name isName (by decide)
  · split at spells
    · rename_i isName
      rcases isName with isShort | isLong
      · exact allAscii_of_name isShort (by decide)
      · exact allAscii_of_name isLong (by decide)
    · exact allAscii_of_decimal? spells

theorem allAscii_of_ofCharacters?
    (spells : ofCharacters? characters = some literal) :
    Text.AllAscii characters := by
  rw [ofCharacters?.eq_def] at spells
  split at spells
  · exact List.forall_mem_cons.mpr ⟨by decide, allAscii_of_magnitude? spells⟩
  · exact List.forall_mem_cons.mpr ⟨by decide, allAscii_of_magnitude? spells⟩
  · exact allAscii_of_magnitude? spells

end BinaryLiteral

theorem Single.allAscii_of_ofLiteral?
    {characters : List Char}
    {value : Single}
    (spells : ofLiteral? characters = some value) :
    Text.AllAscii characters := by
  obtain ⟨literal, read, -⟩ := Option.map_eq_some_iff.mp spells
  exact BinaryLiteral.allAscii_of_ofCharacters? read

theorem Double.allAscii_of_ofLiteral?
    {characters : List Char}
    {value : Double}
    (spells : ofLiteral? characters = some value) :
    Text.AllAscii characters := by
  obtain ⟨literal, read, -⟩ := Option.map_eq_some_iff.mp spells
  exact BinaryLiteral.allAscii_of_ofCharacters? read

end ResultSet
