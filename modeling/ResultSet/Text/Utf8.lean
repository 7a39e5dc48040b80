import ResultSet.Octets

namespace ResultSet.Text

/-!
# Text in UTF-8

Reading never fails: octets that no character explains are replaced.  Each
maximal run that could still have begun a character, and each octet that could
not, becomes one replacement character.  The reader is a machine fed one octet
at a time.
-/

/-- The character that stands for octets which spell no character. -/
def replacement : Char := '\uFFFD'

/-- A character of several octets of which some are still missing. -/
structure Pending where
  /-- The bits read so far. -/
  code : Nat
  /-- How many continuation octets are missing, at least one. -/
  missing : Nat
  /-- The least octet that may come next. -/
  lowest : Nat
  /-- The greatest octet that may come next. -/
  highest : Nat
  deriving Repr, DecidableEq

/-- What an octet means where a character may begin. -/
inductive Lead where
  | character (character : Char)
  | sequence (pending : Pending)
  | invalid
  deriving Repr, DecidableEq

/-- Classify an octet where a character may begin. -/
def Lead.ofNat (octet : Nat) : Lead :=
  if octet < 0x80 then .character (Char.ofNat octet)
  else if octet < 0xC2 then .invalid
  else if octet < 0xE0 then .sequence ⟨octet - 0xC0, 1, 0x80, 0xBF⟩
  else if octet = 0xE0 then .sequence ⟨0, 2, 0xA0, 0xBF⟩
  else if octet = 0xED then .sequence ⟨0x0D, 2, 0x80, 0x9F⟩
  else if octet < 0xF0 then .sequence ⟨octet - 0xE0, 2, 0x80, 0xBF⟩
  else if octet = 0xF0 then .sequence ⟨0, 3, 0x90, 0xBF⟩
  else if octet < 0xF4 then .sequence ⟨octet - 0xF0, 3, 0x80, 0xBF⟩
  else if octet = 0xF4 then .sequence ⟨4, 3, 0x80, 0x8F⟩
  else .invalid

/-- The reader between two octets. -/
structure Decoder where
  /-- The character being read, if any. -/
  pending : Option Pending
  /-- The characters read so far, last one first. -/
  reversed : List Char
  deriving Repr, DecidableEq

namespace Decoder

/-- The reader before the first octet. -/
def initial : Decoder := ⟨none, []⟩

/-- Take an octet as the beginning of a character. -/
def start
    (reversed : List Char)
    (octet : UInt8) :
    Decoder :=
  match Lead.ofNat octet.toNat with
  | .character character => ⟨none, character :: reversed⟩
  | .sequence pending => ⟨some pending, reversed⟩
  | .invalid => ⟨none, replacement :: reversed⟩

/-- Take one more octet. -/
def feed
    (decoder : Decoder)
    (octet : UInt8) :
    Decoder :=
  match decoder.pending with
  | none => start decoder.reversed octet
  | some pending =>
      if pending.lowest ≤ octet.toNat ∧ octet.toNat ≤ pending.highest then
        let code := 64 * pending.code + (octet.toNat - 0x80)
        if pending.missing = 1 then
          ⟨none, Char.ofNat code :: decoder.reversed⟩
        else
          ⟨some ⟨code, pending.missing - 1, 0x80, 0xBF⟩, decoder.reversed⟩
      else
        start (replacement :: decoder.reversed) octet

/-- The characters read, a character left unfinished being replaced. -/
def finish (decoder : Decoder) : List Char :=
  match decoder.pending with
  | none => decoder.reversed.reverse
  | some _ => (replacement :: decoder.reversed).reverse

end Decoder

/-- The characters that a string of octets spells. -/
def characters (octets : Octets) : List Char :=
  (octets.foldl Decoder.feed Decoder.initial).finish

/-- The text that a string of octets spells. -/
def decode (octets : Octets) : String :=
  String.ofList (characters octets)

/-- The octets of a text. -/
def encode (text : String) : Octets :=
  text.toList.flatMap String.utf8EncodeChar

end ResultSet.Text
