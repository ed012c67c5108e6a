import DiceRoller.Text.Blank
import Mathlib.Data.List.DropRight

/-!
# Trimmed texts

Trimming takes off a text what is to be dropped at either end, so that what is
left begins and ends with a character that is not dropped, or is nothing.
-/

namespace DiceRoller.Text

variable {drops : Char → Bool} {text front inner : List Char}

/-- The text is the inner one between characters that are dropped; at both ends
of the inner one there is a character that is not. -/
structure Encloses (drops : Char → Bool) (text inner : List Char) :
    Prop where
  shape : ∃ front back, text = front ++ (inner ++ back) ∧
    (∀ character ∈ front, drops character = true) ∧
    ∀ character ∈ back, drops character = true
  nonempty : inner ≠ []
  first : ∀ character ∈ inner.head?, drops character = false
  last : ∀ character ∈ inner.getLast?, drops character = false

theorem trimStart_append
    (dropped : ∀ character ∈ front, drops character = true) :
    trimStart drops (front ++ text) = trimStart drops text :=
  List.dropWhile_append_of_pos dropped

theorem trimStart_of_head?
    (kept : ∀ character ∈ text.head?, drops character = false) :
    trimStart drops text = text := by
  cases text with
  | nil => rfl
  | cons first later =>
      have stays : drops first = false := kept first rfl
      simp [trimStart, stays]

theorem head?_trimStart (drops : Char → Bool) (text : List Char) :
    ∀ character ∈ (trimStart drops text).head?, drops character = false := by
  intro character first
  have kept := List.head?_dropWhile_not drops text
  rw [trimStart] at first
  rw [first] at kept
  exact kept

/-- Only a text of nothing else is trimmed to nothing. -/
theorem trim_eq_nil_iff :
    trim drops text = [] ↔ ∀ character ∈ text, drops character = true := by
  constructor
  · intro nothing character member
    have behind : ∀ character ∈ text.dropWhile drops,
        drops character = true := List.rdropWhile_eq_nil_iff.mp nothing
    rw [← List.takeWhile_append_dropWhile (p := drops) (l := text)] at member
    rcases List.mem_append.mp member with front | back
    · exact List.mem_takeWhile_imp front
    · exact behind character back
  · intro dropped
    have nothing : trimStart drops text = [] :=
      List.dropWhile_eq_nil_iff.mpr dropped
    rw [trim, nothing]
    rfl

theorem Encloses.trim_eq (encloses : Encloses drops text inner) :
    trim drops text = inner := by
  obtain ⟨⟨front, back, rfl, frontDrops, backDrops⟩, nonempty, first, last⟩ :=
    encloses
  have opened : ∀ character ∈ (inner ++ back).head?,
      drops character = false := by
    rwa [List.head?_append_of_ne_nil _ nonempty]
  have closed : ∀ character ∈ inner.reverse.head?,
      drops character = false := by
    rwa [List.head?_reverse]
  have backwards : ∀ character ∈ back.reverse, drops character = true :=
    fun character member => backDrops character (List.mem_reverse.mp member)
  rw [trim, trimStart_append frontDrops, trimStart_of_head? opened,
    List.reverse_append, trimStart_append backwards,
    trimStart_of_head? closed, List.reverse_reverse]

theorem encloses_trim (visible : trim drops text ≠ []) :
    Encloses drops text (trim drops text) := by
  have frontShape := List.takeWhile_append_dropWhile (p := drops) (l := text)
  have backShape := List.takeWhile_append_dropWhile (p := drops)
    (l := (trimStart drops text).reverse)
  have shape : trimStart drops text = trim drops text ++
      ((trimStart drops text).reverse.takeWhile drops).reverse := by
    have reversed := congrArg List.reverse backShape
    rw [List.reverse_append, List.reverse_reverse] at reversed
    exact reversed.symm
  refine { shape := ⟨text.takeWhile drops,
             ((trimStart drops text).reverse.takeWhile drops).reverse, ?_,
             fun _ => List.mem_takeWhile_imp, ?_⟩
           nonempty := visible, first := ?_, last := ?_ }
  · rw [← shape]
    exact frontShape.symm
  · intro character member
    exact List.mem_takeWhile_imp (List.mem_reverse.mp member)
  · have first := head?_trimStart drops text
    rwa [shape, List.head?_append_of_ne_nil _ visible] at first
  · rw [trim, List.getLast?_reverse]
    exact head?_trimStart drops _

end DiceRoller.Text
