import DiceRoller.Proofs.Roll.Nesting
import DiceRoller.Proofs.Text.Unambiguous

/-!
# What descriptions tell

The description of a term tells its numbers, however large they are, and that
of a roll tells its terms and their order.  Only the nesting is not told.
-/

namespace DiceRoller

open Text (Unambiguous unambiguous_natural)
open Token (Apart Sign SignFree)

namespace Term

/-- Behind a term stands neither a digit nor a sign. -/
structure EndsTerm (later : String) : Prop where
  apart : Apart later.toList
  signFree : SignFree later.toList

theorem EndsTerm.ne_sign {later : String} (ends : EndsTerm later)
    {mark : Char} {factor : Int} (sign : Sign mark factor) (digits : String) :
    later ≠ String.singleton mark ++ digits := by
  intro same
  have begins : mark ∈ later.toList.head? := by simp [same]
  obtain ⟨notPlus, notMinus⟩ := ends.signFree mark begins
  cases sign with
  | plus => exact notPlus rfl
  | minus => exact notMinus rfl

/-- A bonus is written with a sign in front of its size, or not at all. -/
inductive BonusWritten : Int → String → Prop where
  | absent : BonusWritten 0 ""
  | signed {mark : Char} {factor : Int} (size : Nat) : Sign mark factor →
      BonusWritten (factor * size) (String.singleton mark ++ toString size)

theorem bonusWritten (bonus : Int) : BonusWritten bonus (bonusText bonus) := by
  have plus := BonusWritten.signed bonus.natAbs .plus
  have minus := BonusWritten.signed bonus.natAbs .minus
  unfold bonusText
  split
  · next positive =>
      rwa [← Notation.toString_of_nonneg (Int.le_of_lt positive), Int.one_mul,
        Int.natAbs_of_nonneg (Int.le_of_lt positive)] at plus
  · split
    · next negative =>
        rw [Int.ofNat_natAbs_of_nonpos (Int.le_of_lt negative)] at minus
        rw [Notation.toString_of_neg negative]
        simpa using minus
    · have zero : bonus = 0 := by omega
      rw [zero]
      exact .absent

theorem BonusWritten.eq_of_append_eq {bonus otherBonus : Int}
    {text otherText rest other : String} (written : BonusWritten bonus text)
    (otherWritten : BonusWritten otherBonus otherText) (ends : EndsTerm rest)
    (otherEnds : EndsTerm other)
    (same : text ++ rest = otherText ++ other) :
    bonus = otherBonus ∧ rest = other := by
  cases written with
  | absent =>
      cases otherWritten with
      | absent => simpa using same
      | signed size sign =>
          rw [String.empty_append, String.append_assoc] at same
          exact absurd same (ends.ne_sign sign _)
  | signed size sign =>
      cases otherWritten with
      | absent =>
          rw [String.empty_append, String.append_assoc] at same
          exact absurd same.symm (otherEnds.ne_sign sign _)
      | signed otherSize otherSign =>
          have shape := congrArg String.toList same
          simp only [String.append_assoc, String.toList_append,
            String.toList_singleton, List.singleton_append,
            List.cons.injEq] at shape
          obtain ⟨rfl, digits⟩ := shape
          rw [← String.toList_append, ← String.toList_append,
            String.toList_inj] at digits
          obtain ⟨rfl, remaining⟩ := unambiguous_natural trivial trivial
            ends.apart otherEnds.apart digits
          refine ⟨?_, remaining⟩
          cases sign <;> cases otherSign <;> rfl

theorem unambiguous_describe :
    Unambiguous (fun _ => True) describe EndsTerm := by
  intro first second rest other _ _ ends otherEnds same
  have letter (later : String) : Apart ("d" ++ later).toList := by
    simp [Apart]
  have bonusApart (bonus : Int) {later : String} (ends : EndsTerm later) :
      Apart (bonusText bonus ++ later).toList := by
    have written := bonusWritten bonus
    generalize bonusText bonus = text at written
    cases written with
    | absent => simpa using ends.apart
    | signed size sign => cases sign <;> simp [Apart]
  simp only [describe, String.append_assoc] at same
  obtain ⟨count, same⟩ :=
    unambiguous_natural trivial trivial (letter _) (letter _) same
  obtain ⟨sides, same⟩ := unambiguous_natural trivial trivial
    (bonusApart first.bonus ends) (bonusApart second.bonus otherEnds)
    ((String.append_right_inj "d").mp same)
  obtain ⟨bonus, same⟩ := (bonusWritten first.bonus).eq_of_append_eq
    (bonusWritten second.bonus) ends otherEnds same
  refine ⟨?_, same⟩
  cases first
  cases second
  cases count
  cases sides
  cases bonus
  rfl

end Term

namespace Roll

open Term (EndsTerm)

theorem terms_eq_of_describe_eq {first second : Roll}
    (same : first.describe = second.describe) : first.terms = second.terms := by
  have goesOn (later : String) : EndsTerm (" & " ++ later) := by
    constructor
    · simp [Apart]
    · simp [SignFree]
  have ends : EndsTerm "" := by
    constructor
    · simp [Apart]
    · simp [SignFree]
  exact Term.unambiguous_describe.eq_of_intercalate_eq goesOn ends
    (by decide) first.terms_ne_nil second.terms_ne_nil
    (fun _ _ => trivial) (fun _ _ => trivial) same

/-- Two rolls are described alike exactly if they have the same terms in the
same order, whether the numbers of the terms can be read back or not. -/
theorem describe_eq_iff (first second : Roll) :
    first.describe = second.describe ↔ first.terms = second.terms :=
  ⟨terms_eq_of_describe_eq, describe_eq_of_terms_eq⟩

end Roll

end DiceRoller
