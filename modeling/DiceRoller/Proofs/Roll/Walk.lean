import DiceRoller.Proofs.Report.Place
import DiceRoller.Proofs.Roll.Nesting
import Mathlib.Algebra.BigOperators.Group.List.Basic
import Mathlib.Data.List.Forall2

/-!
# The walk through a roll

The terms of a roll are found in a loop over pending rolls.  A round takes the
first of them: a term is found, and the sides of a join become pending in its
place.  The loop ends after as many rounds as the roll has terms and joins, and
has found its terms from left to right, each at its own place.
-/

namespace DiceRoller.Roll

open Nested (part?)

/-- The terms of the left side and then those of the right side. -/
def leaves : Roll → List Term
  | .single term => [term]
  | .joined left right => left.leaves ++ right.leaves

def joins : Roll → Nat
  | .single _ => 0
  | .joined left right => left.joins + right.joins + 1

theorem terms_eq_leaves (roll : Roll) : roll.terms = roll.leaves := by
  induction roll with
  | single term => rw [terms_single, leaves]
  | joined left right leftInduction rightInduction =>
      rw [terms_joined, leaves, leftInduction, rightInduction]

theorem diceCount_joined (left right : Roll) :
    (joined left right).diceCount = left.diceCount + right.diceCount := by
  simp only [diceCount, terms_joined, List.map_append, ← List.sum_eq_foldr,
    List.sum_append]

theorem termCount_joined (left right : Roll) :
    (joined left right).termCount = left.termCount + right.termCount := by
  simp only [termCount, terms_joined, List.length_append]

/-- Every join puts one term more beside the others. -/
theorem termCount_eq_joins (roll : Roll) :
    roll.termCount = roll.joins + 1 := by
  induction roll with
  | single term => rw [termCount, terms_single, joins, List.length_singleton]
  | joined left right leftInduction rightInduction =>
      rw [termCount_joined, leftInduction, rightInduction, joins]
      omega

/-- The loop between two of its rounds: the rolls that it has still to take,
the next one first, and the terms that it has found. -/
structure Walk where
  pending : List Roll
  found : List Term

namespace Walk

def start (roll : Roll) : Walk :=
  { pending := [roll], found := [] }

/-- One round of the loop; it has ended when nothing is pending. -/
def round? : Walk → Option Walk
  | ⟨[], _⟩ => none
  | ⟨.single term :: pending, found⟩ => some ⟨pending, found ++ [term]⟩
  | ⟨.joined left right :: pending, found⟩ =>
      some ⟨left :: right :: pending, found⟩

/-- The loop ends after so many rounds, and has found these terms then. -/
inductive Ends : Nat → Walk → List Term → Prop where
  | now {walk : Walk} : walk.round? = none → Ends 0 walk walk.found
  | later {rounds : Nat} {walk next : Walk} {found : List Term} :
      walk.round? = some next → Ends rounds next found →
      Ends (rounds + 1) walk found

/-- The terms and joins of the pending rolls. -/
def work (walk : Walk) : Nat :=
  (walk.pending.map size).foldr (· + ·) 0

/-- The terms that have been found, and those that will be. -/
def terms (walk : Walk) : List Term :=
  walk.found ++ termsOfPending walk.pending

/-- A round does one of the work, and changes nothing about the terms that are
found or will be. -/
theorem round?_cases (walk : Walk) :
    (walk.round? = none ∧ walk.pending = []) ∨
      ∃ next, walk.round? = some next ∧ next.terms = walk.terms ∧
        walk.work = next.work + 1 := by
  obtain ⟨pending, found⟩ := walk
  cases pending with
  | nil => exact .inl ⟨rfl, rfl⟩
  | cons roll pending =>
      cases roll with
      | single term =>
          refine .inr ⟨⟨pending, found ++ [term]⟩, rfl, ?_, ?_⟩
          · rw [terms, terms, termsOfPending, List.append_assoc,
              List.singleton_append]
          · simp only [work, List.map_cons, List.foldr_cons, size]
            omega
      | joined left right =>
          refine .inr ⟨⟨left :: right :: pending, found⟩, rfl, ?_, ?_⟩
          · rw [terms, terms, termsOfPending]
          · simp only [work, List.map_cons, List.foldr_cons, size]
            omega

/-- The rounds that are left are as many as there is work. -/
theorem ends (walk : Walk) : Ends walk.work walk walk.terms := by
  rcases walk.round?_cases with ⟨ended, nothing⟩ | ⟨next, taken, kept, less⟩
  · have idle : walk.work = 0 := by
      rw [work, nothing, List.map_nil, List.foldr_nil]
    have all : walk.terms = walk.found := by
      rw [terms, nothing, termsOfPending, List.append_nil]
    rw [idle, all]
    exact .now ended
  · rw [less, ← kept]
    exact .later taken next.ends
termination_by walk.work
decreasing_by omega

end Walk

/-- The places of the terms from left to right. -/
def termPlaces : Roll → List Place
  | .single _ => [[]]
  | .joined left right =>
      left.termPlaces.map (.left :: ·) ++ right.termPlaces.map (.right :: ·)

/-- The terms are those that stand at the places, all of them and in the order
of a walk through the roll, which comes to no place twice. -/
structure StandAt (roll : Roll) (terms : List Term) (places : List Place) :
    Prop where
  each : List.Forall₂
    (fun term place => part? roll place = some (.single term)) terms places
  all : ∀ term place, part? roll place = some (.single term) → place ∈ places
  ordered : places.Pairwise Place.Before

theorem StandAt.nodup {roll : Roll} {terms : List Term} {places : List Place}
    (stand : StandAt roll terms places) : places.Nodup := by
  refine stand.ordered.imp fun before => ?_
  rintro rfl
  exact before.asymm before

theorem standAt_single (term : Term) :
    StandAt (single term) [term] [[]] where
  each := .cons rfl .nil
  all other place shape := by
    cases place with
    | nil => exact List.mem_singleton_self []
    | cons side below => cases shape
  ordered := List.pairwise_singleton _ _

theorem StandAt.joined {left right : Roll} {leftTerms rightTerms : List Term}
    {leftPlaces rightPlaces : List Place}
    (onLeft : StandAt left leftTerms leftPlaces)
    (onRight : StandAt right rightTerms rightPlaces) :
    StandAt (.joined left right) (leftTerms ++ rightTerms)
      (leftPlaces.map (.left :: ·) ++ rightPlaces.map (.right :: ·)) where
  each := by
    apply List.rel_append
    · exact List.forall₂_map_right_iff.mpr onLeft.each
    · exact List.forall₂_map_right_iff.mpr onRight.each
  all term place shape := by
    cases place with
    | nil => cases shape
    | cons side below =>
        cases side with
        | left =>
            exact List.mem_append_left _
              (List.mem_map_of_mem (onLeft.all term below shape))
        | right =>
            exact List.mem_append_right _
              (List.mem_map_of_mem (onRight.all term below shape))
  ordered := by
    refine List.pairwise_append.mpr ⟨?_, ?_, ?_⟩
    · exact List.pairwise_map.mpr (onLeft.ordered.imp (.under .left))
    · exact List.pairwise_map.mpr (onRight.ordered.imp (.under .right))
    · intro first firstMember second secondMember
      obtain ⟨left, _, rfl⟩ := List.mem_map.mp firstMember
      obtain ⟨right, _, rfl⟩ := List.mem_map.mp secondMember
      exact .apart left right

theorem standAt_termPlaces (roll : Roll) :
    StandAt roll roll.leaves roll.termPlaces := by
  induction roll with
  | single term => exact standAt_single term
  | joined left right leftInduction rightInduction =>
      exact leftInduction.joined rightInduction

/-- The loop ends and has found what the recursion over the roll finds: the
term at each place where one stands, from left to right.  So a join is
described by its two sides, and its dice and terms are theirs together. -/
theorem terms_inOrder (roll left right : Roll) :
    (Walk.Ends roll.size (.start roll) roll.terms ∧
      roll.terms = roll.leaves ∧
      StandAt roll roll.terms roll.termPlaces ∧ roll.termPlaces.Nodup ∧
      roll.termCount = roll.joins + 1) ∧
    (joined left right).describe =
        left.describe ++ " & " ++ right.describe ∧
      (joined left right).diceCount = left.diceCount + right.diceCount ∧
      (joined left right).termCount = left.termCount + right.termCount := by
  have ended : Walk.Ends roll.size (.start roll) roll.terms :=
    (Walk.start roll).ends
  have stand := standAt_termPlaces roll
  rw [← terms_eq_leaves] at stand
  refine ⟨⟨ended, roll.terms_eq_leaves, stand, stand.nodup,
    roll.termCount_eq_joins⟩, ?_⟩
  exact ⟨describe_joined left right, diceCount_joined left right,
    termCount_joined left right⟩

end DiceRoller.Roll
