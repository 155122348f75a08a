/-
This file shows that the search for a text in another one finds its first occurrence.

A pattern occurs at a position if what is left of the text there begins with it. The empty pattern
occurs everywhere, at the end too. A pattern occurs somewhere just if it is a part of the text.
-/

import Mathlib
import Shorthand.Text.Search

namespace Shorthand.Text

variable {pattern text : List Char} {position : ℕ}

/-- What is left of the text at a position begins with the pattern. -/
def OccursAt (pattern text : List Char) (position : ℕ) : Prop :=
  position ≤ text.length ∧ pattern <+: text.drop position

/-- The pattern occurs at a position and at none before it. -/
def OccursFirstAt (pattern text : List Char) (position : ℕ) : Prop :=
  IsLeast {position | OccursAt pattern text position} position

theorem occursAt_zero : OccursAt pattern text 0 ↔ pattern <+: text :=
  and_iff_right (Nat.zero_le _)

theorem occursAt_succ {character : Char} :
    OccursAt pattern (character :: text) (position + 1) ↔ OccursAt pattern text position := by
  rw [OccursAt, OccursAt, List.length_cons, List.drop_succ_cons, Nat.add_le_add_iff_right]

/-- Occurrences in what is left of a text are those in the text from there on. -/
theorem occursAt_drop {start : ℕ} (inside : start ≤ text.length) :
    OccursAt pattern (text.drop start) position ↔ OccursAt pattern text (start + position) := by
  rw [OccursAt, OccursAt, List.length_drop, List.drop_drop]
  exact and_congr_left fun _ => by omega

/-- An occurrence ends inside of the text. -/
theorem OccursAt.end_le (occurs : OccursAt pattern text position) :
    position + pattern.length ≤ text.length := by
  have shorter := occurs.2.length_le
  rw [List.length_drop] at shorter
  have inside := occurs.1
  omega

theorem OccursAt.eq_append (occurs : OccursAt pattern text position) :
    text = text.take position ++ pattern ++ text.drop (position + pattern.length) := by
  obtain ⟨rest, same⟩ := occurs.2
  have after : text.drop (position + pattern.length) = rest := by
    rw [← List.drop_drop, ← same, List.drop_left]
  rw [after, List.append_assoc, same, List.take_append_drop]

theorem exists_occursAt_iff : (∃ position, OccursAt pattern text position) ↔ pattern <:+: text := by
  constructor
  · rintro ⟨position, occurs⟩
    exact ⟨_, _, occurs.eq_append.symm⟩
  · rintro ⟨before, after, rfl⟩
    refine ⟨before.length, by simp, ?_⟩
    rw [List.append_assoc, List.drop_left]
    exact List.prefix_append _ _

/-! ### The search -/

theorem positionOf?_cons_occurs {character : Char} (occurs : pattern <+: character :: text) :
    positionOf? pattern (character :: text) = some 0 :=
  if_pos (List.isPrefixOf_iff_prefix.mpr occurs)

theorem positionOf?_cons_differs {character : Char}
    (differs : ¬pattern <+: character :: text) :
    positionOf? pattern (character :: text) = (positionOf? pattern text).map (· + 1) :=
  if_neg fun occurs => differs (List.isPrefixOf_iff_prefix.mp occurs)

/-- There is no occurrence where the search finds none. -/
theorem not_occursAt_of_positionOf? (absent : positionOf? pattern text = none) (position : ℕ) :
    ¬OccursAt pattern text position := by
  induction text generalizing position with
  | nil =>
    intro occurs
    have noPattern : pattern = [] := by simpa using occurs.2
    rw [noPattern] at absent
    cases absent
  | cons character text inductionHypothesis =>
    have differs : ¬pattern <+: character :: text := by
      intro occurs
      rw [positionOf?_cons_occurs occurs] at absent
      cases absent
    rw [positionOf?_cons_differs differs, Option.map_eq_none_iff] at absent
    cases position with
    | zero => rwa [occursAt_zero]
    | succ position =>
      rw [occursAt_succ]
      exact inductionHypothesis absent position

/-- What the search finds is the first occurrence. -/
theorem occursFirstAt_of_positionOf? (found : positionOf? pattern text = some position) :
    OccursFirstAt pattern text position := by
  induction text generalizing position with
  | nil =>
    rw [positionOf?, Option.ite_none_right_eq_some, List.isEmpty_iff] at found
    obtain ⟨rfl, start⟩ := found
    cases start
    exact ⟨occursAt_zero.mpr List.nil_prefix, fun _ _ => Nat.zero_le _⟩
  | cons character text inductionHypothesis =>
    by_cases occurs : pattern <+: character :: text
    · rw [positionOf?_cons_occurs occurs] at found
      cases found
      exact ⟨occursAt_zero.mpr occurs, fun _ _ => Nat.zero_le _⟩
    · rw [positionOf?_cons_differs occurs] at found
      obtain ⟨before, isFound, rfl⟩ := Option.map_eq_some_iff.mp found
      obtain ⟨isOccurrence, least⟩ := inductionHypothesis isFound
      refine ⟨occursAt_succ.mpr isOccurrence, fun other isOther => ?_⟩
      cases other with
      | zero => exact absurd (occursAt_zero.mp isOther) occurs
      | succ other => exact Nat.succ_le_succ (least (occursAt_succ.mp isOther))

theorem positionOf?_eq_none_iff :
    positionOf? pattern text = none ↔ ∀ position, ¬OccursAt pattern text position := by
  refine ⟨not_occursAt_of_positionOf?, fun absent => ?_⟩
  cases found : positionOf? pattern text with
  | none => rfl
  | some position => exact absurd (occursFirstAt_of_positionOf? found).1 (absent position)

theorem positionOf?_eq_some_iff :
    positionOf? pattern text = some position ↔ OccursFirstAt pattern text position := by
  refine ⟨occursFirstAt_of_positionOf?, fun first => ?_⟩
  cases found : positionOf? pattern text with
  | none => exact absurd first.1 (not_occursAt_of_positionOf? found position)
  | some other => exact congrArg some ((occursFirstAt_of_positionOf? found).unique first)

end Shorthand.Text
