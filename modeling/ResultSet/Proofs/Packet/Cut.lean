import Mathlib.Data.List.Infix
import ResultSet.Proofs.Field.FailureKinds
import ResultSet.Proofs.Packet.Announcement

namespace ResultSet

/-!
# Packets that are cut off

What an action takes from a packet, it takes just the same from a packet that is cut off
somewhere behind; and if the cut comes before all of it is taken, then the octets run out,
and the action fails for that and no other reason.  This is closed under doing one thing
after the other.  Two runs are compared here, and their results may differ where they tell
of the packet or of places in it.
-/

variable {First Second Third Fourth : Type}

namespace LengthEncoded

/-- Octets that begin a spelling and break off in it. -/
def CutSpelling (octets : Octets) : Prop :=
  ∃ spelling number,
    Spells spelling number ∧ octets <+: spelling ∧ octets.length < spelling.length

/-- All octets begin with a spelling or break off in one. -/
theorem spells_or_cut (octets : Octets) :
    (∃ spelling number behind, Spells spelling number ∧ octets = spelling ++ behind) ∨
      CutSpelling octets := by
  cases octets with
  | nil => exact .inr ⟨[nullMark], none, .missing, List.nil_prefix, Nat.zero_lt_one⟩
  | cons octet behind =>
      by_cases isNull : octet = nullMark
      · subst isNull
        exact .inl ⟨[nullMark], none, behind, .missing, rfl⟩
      · by_cases isMark : ∃ width, (octet, width) ∈ markedWidths
        · obtain ⟨width, isMark⟩ := isMark
          rcases Nat.lt_or_ge behind.length width with tooFew | enough
          · have full : (behind ++ Message.zeros (width - behind.length)).length = width := by
              rw [List.length_append, Message.zeros, List.length_replicate]
              omega
            refine .inr ⟨_, _, .marked (full.symm ▸ isMark), ?_, ?_⟩
            · exact List.cons_prefix_cons.mpr ⟨rfl, List.prefix_append _ _⟩
            · rw [List.length_cons, List.length_cons, full]
              exact Nat.succ_lt_succ tooFew
          · have full : (behind.take width).length = width := by
              rw [List.length_take, Nat.min_eq_left enough]
            refine .inl ⟨_, _, behind.drop width, .marked (full.symm ▸ isMark), ?_⟩
            rw [List.cons_append, List.take_append_drop]
        · exact .inl ⟨[octet], _, behind, .unmarked isNull (not_exists.mp isMark), rfl⟩

end LengthEncoded

namespace Read

/-- What runs alike comes out alike. -/
theorem outcome_of_run_eq
    {action other : Read First}
    {start behind : Cursor}
    (same : action.run start = other.run behind) :
    action.outcome start = other.outcome behind := by
  rw [outcome, outcome, same]

theorem Overruns.of_run_eq
    {action other : Read First}
    {start behind : Cursor}
    (overruns : other.Overruns behind)
    (same : action.run start = other.run behind) :
    action.Overruns start := by
  rw [Overruns, outcome_of_run_eq same]
  exact overruns

/-- An action overruns if the first part of it does. -/
theorem Overruns.bind
    {action : Read First}
    {cut : Cursor}
    (overruns : action.Overruns cut)
    (next : First → Read Second) :
    (action >>= next).Overruns cut := by
  obtain ⟨needed, available, fails⟩ := overruns
  refine ⟨needed, available, ?_⟩
  rw [outcome] at fails ⊢
  cases ran : action.run cut with
  | ok first behind =>
      rw [ran] at fails
      cases fails
  | error fault behind =>
      rw [ran] at fails
      cases fails
      rw [run_bind_of_error ran]

theorem overruns_bind_of_ok
    {action : Read First}
    {next : First → Read Second}
    {cut between : Cursor}
    {first : First}
    (succeeds : action.run cut = .ok first between)
    (overruns : (next first).Overruns between) :
    (action >>= next).Overruns cut :=
  overruns.of_run_eq (run_bind_of_ok succeeds)

theorem overruns_octets
    {count : Nat}
    {start : Cursor}
    (tooShort : start.remaining < count) :
    (octets count).Overruns start :=
  ⟨count, start.remaining, by rw [outcome, run_octets_of_lt tooShort]⟩

/-- A string overruns that announces more octets than are left behind its announcement. -/
theorem overruns_lengthEncodedOctets
    {announcement behind : Octets}
    {length : Nat}
    {start : Cursor}
    (announced : LengthEncoded.Spells announcement (some length))
    (follows : start.rest = announcement ++ behind)
    (tooFew : behind.length < length) :
    lengthEncodedOctets.Overruns start := by
  obtain ⟨_, announces, rfl⟩ :=
    accepts_lengthEncoded_of_spells announced start rfl ⟨behind, follows.symm⟩
  refine overruns_bind_of_ok announces (overruns_octets ?_)
  rwa [← Cursor.length_rest, Cursor.rest_advanced, follows, List.drop_left]

/--
What the first action takes of a packet, the second one takes of what a cut has left of
it, with a result that agrees; or too little is left for that, and it overruns.
-/
structure Curtails
    (whole : Read First)
    (curtailed : Read Second)
    (agree : First → Second → Prop) :
    Prop where
  forward :
    ∀ {start finish first},
      whole.run start = .ok first finish →
        finish.packet = start.packet ∧ start.position ≤ finish.position
  short :
    ∀ {start finish first cut},
      whole.run start = .ok first finish →
        cut.rest <+: start.rest →
          cut.remaining < finish.position - start.position →
            curtailed.Overruns cut
  enough :
    ∀ {start finish first cut},
      whole.run start = .ok first finish →
        cut.rest <+: start.rest →
          finish.position - start.position ≤ cut.remaining →
            ∃ second,
              curtailed.run cut =
                  .ok second (cut.advanced (finish.position - start.position)) ∧
                agree first second

namespace Curtails

/-! ## One action after the other -/

section Bind

variable
  {whole : Read First}
  {curtailed : Read Second}
  {agree : First → Second → Prop}
  {next : First → Read Third}
  {curtailedNext : Second → Read Fourth}
  {agreeNext : Third → Fourth → Prop}
  {start between : Cursor}
  {first : First}

/-- A packet is a cut of itself, so that what succeeds has an agreeing result. -/
theorem exists_agree
    (front : whole.Curtails curtailed agree)
    (ran : whole.run start = .ok first between) :
    ∃ second, agree first second := by
  obtain ⟨samePacket, -⟩ := front.forward ran
  have inside : between.position ≤ start.packet.length := samePacket ▸ between.insidePacket
  obtain ⟨second, -, agrees⟩ :=
    front.enough ran List.prefix_rfl (Nat.sub_le_sub_right inside start.position)
  exact ⟨second, agrees⟩

/-- What is left of a cut behind an action is a cut of what is left behind the action. -/
theorem isCut_behind
    {cut : Cursor}
    (front : whole.Curtails curtailed agree)
    (ran : whole.run start = .ok first between)
    (isCut : cut.rest <+: start.rest) :
    (cut.advanced (between.position - start.position)).rest <+: between.rest := by
  obtain ⟨samePacket, ahead⟩ := front.forward ran
  have isRest : between.rest = start.rest.drop (between.position - start.position) := by
    rw [Cursor.rest, Cursor.rest, List.drop_drop, samePacket, Nat.add_sub_cancel' ahead]
  rw [Cursor.rest_advanced, isRest]
  exact isCut.drop _

theorem bind
    (front : whole.Curtails curtailed agree)
    (back : ∀ first second, agree first second →
      (next first).Curtails (curtailedNext second) agreeNext) :
    (whole >>= next).Curtails (curtailed >>= curtailedNext) agreeNext where
  forward succeeds := by
    obtain ⟨first, between, ran, continues⟩ := run_bind_eq_ok succeeds
    obtain ⟨second, agrees⟩ := front.exists_agree ran
    obtain ⟨samePacket, ahead⟩ := front.forward ran
    obtain ⟨alsoSamePacket, furtherAhead⟩ := (back first second agrees).forward continues
    exact ⟨alsoSamePacket.trans samePacket, Nat.le_trans ahead furtherAhead⟩
  short := by
    intro start finish third cut succeeds isCut tooShort
    obtain ⟨first, between, ran, continues⟩ := run_bind_eq_ok succeeds
    rcases Nat.lt_or_ge cut.remaining (between.position - start.position) with
      frontShort | frontFits
    · exact (front.short ran isCut frontShort).bind _
    · obtain ⟨second, runs, agrees⟩ := front.enough ran isCut frontFits
      refine overruns_bind_of_ok runs ?_
      refine (back first second agrees).short continues (front.isCut_behind ran isCut) ?_
      rw [Cursor.remaining_advanced]
      omega
  enough := by
    intro start finish third cut succeeds isCut fits
    obtain ⟨first, between, ran, continues⟩ := run_bind_eq_ok succeeds
    have ahead := (front.forward ran).2
    obtain ⟨other, agreesToo⟩ := front.exists_agree ran
    have furtherAhead := ((back first other agreesToo).forward continues).2
    obtain ⟨second, runs, agrees⟩ := front.enough ran isCut (by omega)
    obtain ⟨fourth, runsOn, agreesNext⟩ :=
      (back first second agrees).enough continues (front.isCut_behind ran isCut)
        (by rw [Cursor.remaining_advanced]; omega)
    refine ⟨fourth, ?_, agreesNext⟩
    rw [run_bind_of_ok runs, runsOn, Cursor.advanced_advanced]
    congr 2
    omega

end Bind

/-! ## Actions that take nothing -/

/-- An action that only asks, and is answered, overruns nowhere. -/
theorem of_asking
    {whole : Read First}
    {curtailed : Read Second}
    {agree : First → Second → Prop}
    (asks :
      ∀ start cut, ∃ first second,
        whole.run start = .ok first start ∧
          curtailed.run cut = .ok second cut ∧
          agree first second) :
    whole.Curtails curtailed agree where
  forward := by
    intro start finish first succeeds
    obtain ⟨other, _, asked, _⟩ := asks start start
    rw [asked] at succeeds
    cases succeeds
    exact ⟨rfl, Nat.le_refl _⟩
  short := by
    intro start finish first cut succeeds _ tooShort
    obtain ⟨other, _, asked, _⟩ := asks start start
    rw [asked] at succeeds
    cases succeeds
    rw [Nat.sub_self] at tooShort
    exact absurd tooShort (Nat.not_lt_zero _)
  enough := by
    intro start finish first cut succeeds _ _
    obtain ⟨other, second, asked, answered, agrees⟩ := asks start cut
    rw [asked] at succeeds
    cases succeeds
    rw [Nat.sub_self, Cursor.advanced_zero]
    exact ⟨second, answered, agrees⟩

theorem pure
    {agree : First → Second → Prop}
    {first : First}
    {second : Second}
    (agrees : agree first second) :
    Curtails (Pure.pure first) (Pure.pure second) agree :=
  .of_asking fun _ _ => ⟨first, second, rfl, rfl, agrees⟩

/-- What fails on the packet says nothing of a cut. -/
theorem throw
    {agree : First → Second → Prop}
    (fault : Fault)
    (curtailed : Read Second) :
    Curtails (MonadExcept.throw fault : Read First) curtailed agree where
  forward := nofun
  short := nofun
  enough := nofun

theorem position : position.Curtails position fun _ _ => True :=
  .of_asking fun _ _ => ⟨_, _, rfl, rfl, trivial⟩

theorem packet : packet.Curtails packet fun _ _ => True :=
  .of_asking fun _ _ => ⟨_, _, rfl, rfl, trivial⟩

/-! ## Fixed widths -/

theorem octets (count : Nat) : (octets count).Curtails (octets count) Eq where
  forward := by
    intro start finish taken succeeds
    obtain ⟨samePacket, stop, -⟩ := (takes_octets count start taken finish).mp succeeds
    exact ⟨samePacket, stop ▸ Nat.le_add_right _ _⟩
  short := by
    intro start finish taken cut succeeds isCut tooShort
    obtain ⟨-, stop, -⟩ := (takes_octets count start taken finish).mp succeeds
    rw [stop, Nat.add_sub_cancel_left] at tooShort
    exact overruns_octets tooShort
  enough := by
    intro start finish taken cut succeeds isCut fits
    obtain ⟨-, stop, means⟩ := (takes_octets count start taken finish).mp succeeds
    rw [stop, Nat.add_sub_cancel_left] at fits ⊢
    rw [stop, ← Cursor.take_rest_eq_within] at means
    refine ⟨_, run_octets_of_le fits, ?_⟩
    have isFront : cut.rest = start.rest.take cut.rest.length := List.prefix_iff_eq_take.mp isCut
    rw [means, isFront, List.take_take, Nat.min_eq_left (Cursor.length_rest cut ▸ fits)]
    rfl

theorem skip (count : Nat) : (skip count).Curtails (skip count) Eq :=
  (octets count).bind fun _ _ _ => .pure rfl

theorem unsigned (width : Nat) : (unsigned width).Curtails (unsigned width) Eq :=
  (octets width).bind fun _ _ same => .pure (congrArg Octets.littleEndian same)

/-! ## Length-encoded numbers and strings -/

theorem lengthEncodedBehind (first : Nat) :
    (lengthEncodedBehind first).Curtails (lengthEncodedBehind first) Eq := by
  rw [Read.lengthEncodedBehind]
  repeat' split
  · exact .pure rfl
  · exact (unsigned 2).bind fun _ _ same => .pure (congrArg some same)
  · exact (unsigned 3).bind fun _ _ same => .pure (congrArg some same)
  · exact (unsigned 8).bind fun _ _ same => .pure (congrArg some same)
  · exact .pure rfl

theorem lengthEncoded? : lengthEncoded?.Curtails lengthEncoded? Eq :=
  (unsigned 1).bind fun first _ same => same ▸ lengthEncodedBehind first

theorem lengthEncoded : lengthEncoded.Curtails lengthEncoded Eq := by
  refine lengthEncoded?.bind ?_
  rintro number _ rfl
  cases number with
  | none => exact .throw _ _
  | some number => exact .pure rfl

theorem lengthEncodedOctets : lengthEncodedOctets.Curtails lengthEncodedOctets Eq :=
  lengthEncoded.bind fun length _ same => same ▸ octets length

theorem lengthEncodedPacket : lengthEncodedPacket.Curtails lengthEncodedPacket Eq :=
  lengthEncodedOctets.bind fun _ _ same => .pure (congrArg Cursor.ofPacket same)

/-- The place of a string is another one in another packet. -/
theorem skipLengthEncoded :
    skipLengthEncoded.Curtails skipLengthEncoded fun _ _ => True :=
  position.bind fun _ _ _ =>
    lengthEncoded.bind fun length _ same =>
      same ▸ (skip length).bind fun _ _ _ => .pure trivial

theorem lengthEncodedSpan :
    lengthEncodedSpan.Curtails lengthEncodedSpan fun _ _ => True :=
  lengthEncoded.bind fun length _ same =>
    same ▸ position.bind fun _ _ _ => (skip length).bind fun _ _ _ => .pure trivial

end Curtails

/-- A length that is cut off overruns. -/
theorem overruns_lengthEncoded
    {cut : Cursor}
    (isCut : LengthEncoded.CutSpelling cut.rest) :
    lengthEncoded.Overruns cut := by
  obtain ⟨spelling, number, spells, isFront, shorter⟩ := isCut
  let start := Cursor.ofPacket spelling
  obtain ⟨_, reads, rfl⟩ := accepts_lengthEncoded?_of_spells spells start rfl List.prefix_rfl
  have taken : (start.advanced spelling.length).position = spelling.length :=
    (Cursor.position_advanced (Nat.le_refl _)).trans (Nat.zero_add _)
  have tooShort :
      cut.remaining < (start.advanced spelling.length).position - start.position := by
    rwa [taken, ← Cursor.length_rest]
  exact (Curtails.lengthEncoded?.short reads isFront tooShort).bind _

end Read

end ResultSet
