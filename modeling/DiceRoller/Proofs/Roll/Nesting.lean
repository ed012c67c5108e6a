import DiceRoller.Roll.Basic

/-!
# The nesting of a roll

The terms of a joined roll are those of its left side and then those of its
right side.  Rolls with the same terms differ in their nesting only, and one
among them is nested to the right.
-/

namespace DiceRoller.Roll

@[simp] theorem terms_single (term : Term) : (single term).terms = [term] := by
  simp [terms, termsOfPending]

private theorem termsOfPending_cons (roll : Roll) (pending : List Roll) :
    termsOfPending (roll :: pending) =
      roll.terms ++ termsOfPending pending := by
  -- The pending rolls vary: the right side of a join waits behind its left side.
  induction roll generalizing pending with
  | single term => simp [termsOfPending]
  | joined left right leftInduction rightInduction =>
      have joined : (joined left right).terms = left.terms ++ right.terms := by
        rw [terms, termsOfPending, leftInduction, rightInduction]
        simp [termsOfPending]
      rw [termsOfPending, leftInduction, rightInduction, joined,
        List.append_assoc]

@[simp] theorem terms_joined (left right : Roll) :
    (joined left right).terms = left.terms ++ right.terms := by
  rw [terms, termsOfPending, termsOfPending_cons]
  rfl

theorem terms_ne_nil (roll : Roll) : roll.terms ≠ [] := by
  induction roll with
  | single term => simp
  | joined left right leftInduction _ => simp [leftInduction]

@[simp] theorem terms_chain (first : Term) (later : List Term) :
    (chain first later).terms = first :: later := by
  induction later generalizing first with
  | nil => simp [chain]
  | cons second later induction => simp [chain, induction]

/-- Every left side of a join is a single term. -/
inductive RightNested : Roll → Prop where
  | single (term : Term) : RightNested (.single term)
  | joined (term : Term) {right : Roll} :
      RightNested right → RightNested (.joined (.single term) right)

theorem rightNested_chain (first : Term) (later : List Term) :
    (chain first later).RightNested := by
  induction later generalizing first with
  | nil => exact .single first
  | cons second later induction => exact .joined first (induction second)

/-- The roll of the same terms that is nested to the right. -/
def renested (roll : Roll) : Roll :=
  match roll.terms with
  | [] => roll
  | first :: later => chain first later

theorem renested_eq_chain {roll : Roll} {first : Term} {later : List Term}
    (terms : roll.terms = first :: later) :
    roll.renested = chain first later := by
  simp [renested, terms]

theorem exists_terms_eq_cons (roll : Roll) :
    ∃ first later, roll.terms = first :: later :=
  List.exists_cons_of_ne_nil roll.terms_ne_nil

theorem diceCount_pos (roll : Roll) : 0 < roll.diceCount := by
  obtain ⟨first, later, terms⟩ := roll.exists_terms_eq_cons
  rw [diceCount, terms, List.map_cons, List.foldr_cons]
  exact Nat.add_pos_left first.count_pos _

@[simp] theorem terms_renested (roll : Roll) :
    roll.renested.terms = roll.terms := by
  obtain ⟨first, later, terms⟩ := roll.exists_terms_eq_cons
  rw [renested_eq_chain terms, terms_chain, terms]

theorem rightNested_renested (roll : Roll) : roll.renested.RightNested := by
  obtain ⟨first, later, terms⟩ := roll.exists_terms_eq_cons
  rw [renested_eq_chain terms]
  exact rightNested_chain first later

/-- There is one roll of given terms that is nested to the right. -/
theorem RightNested.eq_of_terms_eq {first second : Roll}
    (firstNested : first.RightNested) (secondNested : second.RightNested)
    (same : first.terms = second.terms) : first = second := by
  induction firstNested generalizing second with
  | single term =>
      cases secondNested with
      | single other => simpa using same
      | joined other right => simp [terms_ne_nil] at same
  | joined term right induction =>
      cases secondNested with
      | single other => simp [terms_ne_nil] at same
      | joined other otherRight =>
          simp only [terms_joined, terms_single, List.cons_append,
            List.nil_append, List.cons.injEq] at same
          rw [same.1, induction otherRight same.2]

theorem RightNested.renested_eq {roll : Roll} (nested : roll.RightNested) :
    roll.renested = roll :=
  roll.rightNested_renested.eq_of_terms_eq nested roll.terms_renested

/-- The number of joins on the longest way from the roll down to a term. -/
def height : Roll → Nat
  | .single _ => 0
  | .joined left right => max left.height right.height + 1

/-- A roll that is nested to the right is as high as it has joins. -/
theorem RightNested.height_add_one {roll : Roll} (nested : roll.RightNested) :
    roll.height + 1 = roll.termCount := by
  induction nested with
  | single term => simp [height, termCount]
  | joined term _ induction =>
      simp only [termCount] at induction
      simp [height, termCount, ← induction, Nat.add_comm]

/-- A description does not tell how its roll is nested. -/
theorem describe_eq_of_terms_eq {first second : Roll}
    (same : first.terms = second.terms) :
    first.describe = second.describe := by
  rw [describe, describe, same]

theorem describe_joined (left right : Roll) :
    (joined left right).describe =
      left.describe ++ " & " ++ right.describe := by
  have leftSome : left.terms.map Term.describe ≠ [] :=
    mt List.map_eq_nil_iff.mp left.terms_ne_nil
  have rightSome : right.terms.map Term.describe ≠ [] :=
    mt List.map_eq_nil_iff.mp right.terms_ne_nil
  rw [describe, terms_joined, List.map_append,
    String.intercalate_append_of_ne_nil leftSome rightSome]
  rfl

theorem describe_renested (roll : Roll) :
    roll.renested.describe = roll.describe :=
  describe_eq_of_terms_eq roll.terms_renested

end DiceRoller.Roll
