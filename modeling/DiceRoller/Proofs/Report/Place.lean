import DiceRoller.Breakdown
import Mathlib.Data.Option.NAry

/-!
# Places in trees

Rolls, outcomes and breakdowns are trees, each part of which has two sides or
none.  A place is the way from the root of a tree down to a part.  Trees of
one shape have parts at the same places; of others there is a place where one
has sides and the other has none.
-/

namespace DiceRoller

inductive Side where
  | left
  | right
deriving DecidableEq, Repr

/-- The one of two trees that is on the side. -/
def Side.of {tree : Type} : Side → tree × tree → tree
  | .left, sides => sides.1
  | .right, sides => sides.2

/-- The sides taken on the way down from the root, topmost first. -/
abbrev Place := List Side

/-- A walk through a tree comes to a part before its sides, and to all of its
left side before its right side. -/
inductive Place.Before : Place → Place → Prop where
  | root (side : Side) (below : Place) : Before [] (side :: below)
  | apart (left right : Place) : Before (.left :: left) (.right :: right)
  | under (side : Side) {first second : Place} :
      Before first second → Before (side :: first) (side :: second)

theorem Place.Before.asymm {first second : Place}
    (before : first.Before second) : ¬ second.Before first := by
  induction before with
  | root side below =>
      intro after
      cases after
  | apart left right =>
      intro after
      cases after
  | under side before induction =>
      intro after
      cases after with
      | under _ after => exact induction after

/-- Trees each part of which has two sides or none. -/
class Nested (tree : Type) where
  sides? : tree → Option (tree × tree)

instance : Nested Roll where
  sides?
    | .single _ => none
    | .joined left right => some (left, right)

instance : Nested Outcome where
  sides?
    | .single _ _ => none
    | .joined left right => some (left, right)

instance : Nested Breakdown where
  sides?
    | .whole _ => none
    | .parts _ _ left right => some (left, right)

namespace Nested

variable {α β : Type} [Nested α] [Nested β]

/-- The part of a tree at a place, if it has one there. -/
def part? : α → Place → Option α
  | whole, [] => some whole
  | whole, side :: below =>
      match sides? whole with
      | none => none
      | some sides => part? (side.of sides) below

/-- Both trees have a part at the place, of which one has sides and the other
has none. -/
def DiffersAt (first : α) (second : β) (place : Place) : Prop :=
  ∃ firstPart secondPart,
    part? first place = some firstPart ∧
      part? second place = some secondPart ∧
      (sides? firstPart).isSome ≠ (sides? secondPart).isSome

/-- The trees differ at the place, and everywhere else that they do only after
it. -/
structure FirstDiffersAt (first : α) (second : β) (place : Place) : Prop where
  differs : DiffersAt first second place
  before : ∀ other, DiffersAt first second other →
    other = place ∨ place.Before other

/-- The trees have parts at the same places. -/
def SameShape (first : α) (second : β) : Prop :=
  ∀ place, (part? first place).isSome = (part? second place).isSome

section Parts

variable {first : α} {second : β} {firstSides : α × α} {secondSides : β × β}

theorem part?_nil (whole : α) : part? whole [] = some whole := rfl

theorem part?_of_none (whole : sides? first = none) (side : Side)
    (below : Place) : part? first (side :: below) = none := by
  rw [part?, whole]

theorem part?_of_some (has : sides? first = some firstSides) (side : Side)
    (below : Place) :
    part? first (side :: below) = part? (side.of firstSides) below := by
  rw [part?, has]

theorem part?_append (whole : α) (place below : Place) :
    part? whole (place ++ below) =
      (part? whole place).bind fun part => part? part below := by
  induction place generalizing whole with
  | nil => rfl
  | cons side place induction =>
      rw [List.cons_append]
      cases has : sides? whole with
      | none => rw [part?_of_none has, part?_of_none has, Option.bind_none]
      | some sides => rw [part?_of_some has, part?_of_some has, induction]

theorem isSome_part?_left (whole : α) :
    (part? whole [.left]).isSome = (sides? whole).isSome := by
  cases has : sides? whole with
  | none =>
      rw [part?_of_none has]
      rfl
  | some sides =>
      rw [part?_of_some has]
      rfl

theorem differsAt_nil :
    DiffersAt first second [] ↔
      (sides? first).isSome ≠ (sides? second).isSome := by
  simp [DiffersAt, part?_nil]

theorem not_differsAt_of_none (firstNone : sides? first = none)
    (secondNone : sides? second = none) (place : Place) :
    ¬ DiffersAt first second place := by
  cases place with
  | nil => simp [differsAt_nil, firstNone, secondNone]
  | cons side below => simp [DiffersAt, part?_of_none firstNone]

/-- Two trees that have sides differ where their sides do. -/
theorem differsAt_iff (firstHas : sides? first = some firstSides)
    (secondHas : sides? second = some secondSides) (place : Place) :
    DiffersAt first second place ↔
      ∃ side below, place = side :: below ∧
        DiffersAt (Side.of side firstSides) (Side.of side secondSides)
          below := by
  cases place with
  | nil => simp [differsAt_nil, firstHas, secondHas]
  | cons side below =>
      constructor
      · intro differs
        rw [DiffersAt, part?_of_some firstHas, part?_of_some secondHas]
          at differs
        exact ⟨side, below, rfl, differs⟩
      · rintro ⟨_, _, same, differs⟩
        cases same
        rwa [DiffersAt, part?_of_some firstHas, part?_of_some secondHas]

theorem not_differsAt_of_sides (firstHas : sides? first = some firstSides)
    (secondHas : sides? second = some secondSides)
    (left : ∀ below, ¬ DiffersAt firstSides.1 secondSides.1 below)
    (right : ∀ below, ¬ DiffersAt firstSides.2 secondSides.2 below)
    (place : Place) : ¬ DiffersAt first second place := by
  intro differs
  obtain ⟨side, below, _, lower⟩ :=
    (differsAt_iff firstHas secondHas place).mp differs
  cases side with
  | left => exact left below lower
  | right => exact right below lower

/-- Trees have parts at the same places unless there is a place where one has
sides and the other has none. -/
theorem sameShape_iff (first : α) (second : β) :
    SameShape first second ↔ ∀ place, ¬ DiffersAt first second place := by
  constructor
  · rintro same place ⟨firstPart, secondPart, firstHas, secondHas, differ⟩
    have further := same (place ++ [.left])
    rw [part?_append, part?_append, firstHas, secondHas, Option.bind_some,
      Option.bind_some, isSome_part?_left, isSome_part?_left] at further
    exact differ further
  · intro agree place
    induction place generalizing first second with
    | nil => rfl
    | cons side below induction =>
        have atRoot : (sides? first).isSome = (sides? second).isSome :=
          Decidable.of_not_not fun differ =>
            agree [] (differsAt_nil.mpr differ)
        cases firstHas : sides? first with
        | none =>
            rw [firstHas] at atRoot
            have secondNone := Option.not_isSome_iff_eq_none.mp
              (Bool.eq_false_iff.mp atRoot.symm)
            rw [part?_of_none firstHas, part?_of_none secondNone]
            rfl
        | some firstSides =>
            rw [firstHas] at atRoot
            obtain ⟨secondSides, secondHas⟩ :=
              Option.isSome_iff_exists.mp atRoot.symm
            rw [part?_of_some firstHas, part?_of_some secondHas]
            apply induction
            intro place differs
            exact agree (side :: place)
              ((differsAt_iff firstHas secondHas _).mpr
                ⟨side, place, rfl, differs⟩)

end Parts

namespace FirstDiffersAt

variable {first : α} {second : β} {firstSides : α × α} {secondSides : β × β}
  {place : Place}

theorem root (differ : (sides? first).isSome ≠ (sides? second).isSome) :
    FirstDiffersAt first second [] := by
  refine ⟨differsAt_nil.mpr differ, fun other _ => ?_⟩
  cases other with
  | nil => exact .inl rfl
  | cons side below => exact .inr (.root side below)

theorem left (firstHas : sides? first = some firstSides)
    (secondHas : sides? second = some secondSides)
    (differs : FirstDiffersAt firstSides.1 secondSides.1 place) :
    FirstDiffersAt first second (.left :: place) := by
  constructor
  · exact (differsAt_iff firstHas secondHas _).mpr
      ⟨.left, place, rfl, differs.differs⟩
  · intro other otherDiffers
    obtain ⟨side, below, rfl, lower⟩ :=
      (differsAt_iff firstHas secondHas other).mp otherDiffers
    cases side with
    | left =>
        exact (differs.before below lower).imp (congrArg _) (.under .left)
    | right => exact .inr (.apart place below)

theorem right (firstHas : sides? first = some firstSides)
    (secondHas : sides? second = some secondSides)
    (same : ∀ below, ¬ DiffersAt firstSides.1 secondSides.1 below)
    (differs : FirstDiffersAt firstSides.2 secondSides.2 place) :
    FirstDiffersAt first second (.right :: place) := by
  constructor
  · exact (differsAt_iff firstHas secondHas _).mpr
      ⟨.right, place, rfl, differs.differs⟩
  · intro other otherDiffers
    obtain ⟨side, below, rfl, lower⟩ :=
      (differsAt_iff firstHas secondHas other).mp otherDiffers
    cases side with
    | left => exact absurd lower (same below)
    | right =>
        exact (differs.before below lower).imp (congrArg _) (.under .right)

theorem unique {other : Place} (here : FirstDiffersAt first second place)
    (there : FirstDiffersAt first second other) : place = other := by
  rcases here.before other there.differs with same | after
  · exact same.symm
  · rcases there.before place here.differs with same | before
    · exact same
    · exact absurd before after.asymm

end FirstDiffersAt

end Nested

namespace Roll

open Nested (part? SameShape)

@[simp] theorem summary_breakdown (roll : Roll) (outcome : Outcome) :
    (roll.breakdown outcome).summary = roll.summarize outcome := by
  cases roll <;> cases outcome <;> rfl

/-- A breakdown has parts where the roll and the outcome both have parts, and
they are the breakdowns of these. -/
theorem part?_breakdown (roll : Roll) (outcome : Outcome) (place : Place) :
    part? (roll.breakdown outcome) place =
      Option.map₂ breakdown (part? roll place) (part? outcome place) := by
  induction place generalizing roll outcome with
  | nil => rfl
  | cons side below induction =>
      cases roll with
      | single term => cases outcome <;> rfl
      | joined left right =>
          cases outcome with
          | single faces bonus => exact (Option.map₂_none_right _ _).symm
          | joined leftOutcome rightOutcome =>
              cases side with
              | left => exact induction left leftOutcome
              | right => exact induction right rightOutcome

/-- A breakdown is cut where the roll or the outcome ends, so that it has the
shape of both only if they have the same. -/
theorem sameShape_breakdown_iff (roll : Roll) (outcome : Outcome) :
    SameShape (roll.breakdown outcome) roll ∧
        SameShape (roll.breakdown outcome) outcome ↔
      SameShape roll outcome := by
  have both (place : Place) :
      (part? (roll.breakdown outcome) place).isSome =
        ((part? roll place).isSome && (part? outcome place).isSome) := by
    rw [part?_breakdown]
    cases part? roll place <;> cases part? outcome place <;> rfl
  constructor
  · rintro ⟨ofRoll, ofOutcome⟩ place
    exact (ofRoll place).symm.trans (ofOutcome place)
  · intro same
    constructor
    · intro place
      rw [both, ← same, Bool.and_self]
    · intro place
      rw [both, same, Bool.and_self]

/-- An outcome with sides in two places where a roll of three terms that is
joined from the left has none. -/
def strayOutcome : Outcome :=
  .joined
    (.joined (.single [6, 1] 1) (.joined (.single [3] (-2)) (.single [] 0)))
    (.joined (.single [8] 0) (.single [] 0))

end Roll

end DiceRoller
