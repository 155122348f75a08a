/-
This file shows that joining undoes splitting.

A text is cut at the first occurrence of the separator, and what is behind that occurrence is cut
in the same way. So an occurrence that overlaps the one before does not count. The parts have no
occurrence in them, and with the separator between they are the text again. In the other direction
this holds for a separator of one character. A longer one may also occur across the end of a part.
-/

import Mathlib
import Shorthand.Proofs.Lexical.Simulation
import Shorthand.Proofs.Text.Occurrence
import Shorthand.Proofs.World.Adds

namespace Shorthand.Text

variable {separator text : List Char} {parts : List (List Char)}

/-! ### The parts -/

/-- The parts of a text by the first occurrence of the separator. -/
inductive Parted (separator : List Char) : List Char → List (List Char) → Prop where
  | last {text : List Char} (absent : ∀ position, ¬OccursAt separator text position) :
    Parted separator text [text]
  | next {text : List Char} {parts : List (List Char)} {position : ℕ}
    (first : OccursFirstAt separator text position)
    (rest : Parted separator (text.drop (position + separator.length)) parts) :
    Parted separator text (text.take position :: parts)

/-- The positions of the occurrences from a position on, each of them the first one that does not
overlap the one before. -/
inductive FoundFrom (separator text : List Char) : ℕ → List ℕ → Prop where
  | ends {start : ℕ} (absent : ∀ position, start ≤ position → ¬OccursAt separator text position) :
    FoundFrom separator text start []
  | next {start position : ℕ} {positions : List ℕ}
    (first : IsLeast {position | start ≤ position ∧ OccursAt separator text position} position)
    (rest : FoundFrom separator text (position + separator.length) positions) :
    FoundFrom separator text start (position :: positions)

theorem FoundFrom.unique {start : ℕ} {positions others : List ℕ}
    (found : FoundFrom separator text start positions)
    (foundToo : FoundFrom separator text start others) : positions = others := by
  induction found generalizing others with
  | ends absent =>
    cases foundToo with
    | ends => rfl
    | next first => exact absurd first.1.2 (absent _ first.1.1)
  | next first rest inductionHypothesis =>
    cases foundToo with
    | ends absent => exact absurd first.1.2 (absent _ first.1.1)
    | next firstToo restToo =>
      obtain rfl := first.unique firstToo
      rw [inductionHypothesis restToo]

namespace Parted

theorem ne_nil (parted : Parted separator text parts) : parts ≠ [] := by
  cases parted <;> exact List.cons_ne_nil _ _

/-- With the separator between them, the parts are the text. -/
theorem intercalate_eq (parted : Parted separator text parts) :
    separator.intercalate parts = text := by
  induction parted with
  | last absent => exact List.intercalate_singleton
  | next first rest inductionHypothesis =>
    rw [List.intercalate_cons_of_ne_nil rest.ne_nil, inductionHypothesis]
    exact first.1.eq_append.symm

/-- The separator is in no part. -/
theorem separator_absent (parted : Parted separator text parts) (nonempty : separator ≠ []) :
    ∀ part ∈ parts, ¬separator <:+: part := by
  have positive := List.length_pos_of_ne_nil nonempty
  induction parted with
  | last absent =>
    refine List.forall_mem_singleton.mpr fun isPart => ?_
    obtain ⟨position, occurs⟩ := exists_occursAt_iff.mpr isPart
    exact absent position occurs
  | @next text parts position first rest inductionHypothesis =>
    refine List.forall_mem_cons.mpr ⟨fun isPart => ?_, inductionHypothesis⟩
    obtain ⟨other, occurs⟩ := exists_occursAt_iff.mpr isPart
    -- An occurrence in front of the first one would end there, so it would begin before it.
    have ends := occurs.end_le
    have inside := first.1.1
    rw [List.length_take, Nat.min_eq_left inside] at ends
    have occursToo : OccursAt separator text other :=
      ⟨by omega, occurs.2.trans ((List.take_prefix position text).drop other)⟩
    have least := first.2 occursToo
    omega

/-- There is one part more than there are occurrences. -/
theorem exists_foundFrom {start : ℕ} {rest : List Char} (parted : Parted separator rest parts)
    (inside : start ≤ text.length) (same : rest = text.drop start) :
    ∃ positions, FoundFrom separator text start positions ∧
      parts.length = positions.length + 1 := by
  induction parted generalizing start with
  | last absent =>
    refine ⟨[], .ends fun position later occurs => ?_, rfl⟩
    obtain ⟨further, rfl⟩ := Nat.exists_eq_add_of_le later
    exact absent further (same ▸ (occursAt_drop inside).mpr occurs)
  | @next rest parts position first _ inductionHypothesis =>
    subst same
    have ends := first.1.end_le
    rw [List.length_drop] at ends
    obtain ⟨positions, found, counts⟩ := @inductionHypothesis
      (start + position + separator.length) (by omega) (by rw [List.drop_drop, Nat.add_assoc])
    refine ⟨(start + position) :: positions, .next ⟨⟨Nat.le_add_right _ _, ?_⟩, ?_⟩ found, ?_⟩
    · exact (occursAt_drop inside).mp first.1
    · rintro other ⟨later, occurs⟩
      obtain ⟨further, rfl⟩ := Nat.exists_eq_add_of_le later
      exact Nat.add_le_add_left (first.2 ((occursAt_drop inside).mpr occurs)) start
    · rw [List.length_cons, List.length_cons, counts]

end Parted

/-! ### The split -/

theorem splitFrom_skipped (part : List Char) (skipped : ℕ) :
    splitFrom separator part skipped text = splitFrom separator part 0 (text.drop skipped) := by
  induction text generalizing skipped with
  | nil => rw [List.drop_nil, splitFrom, splitFrom]
  | cons character text inductionHypothesis =>
    cases skipped with
    | zero => rfl
    | succ skipped =>
      rw [List.drop_succ_cons]
      exact inductionHypothesis skipped

theorem splitFrom_none (part : List Char) (absent : positionOf? separator text = none) :
    splitFrom separator part 0 text = [part.reverse ++ text] := by
  induction text generalizing part with
  | nil => rw [splitFrom, List.append_nil]
  | cons character text inductionHypothesis =>
    have differs : ¬separator <+: character :: text := fun occurs =>
      positionOf?_eq_none_iff.mp absent 0 (occursAt_zero.mpr occurs)
    rw [positionOf?_cons_differs differs, Option.map_eq_none_iff] at absent
    rw [splitFrom, if_neg fun occurs => differs (List.isPrefixOf_iff_prefix.mp occurs),
      inductionHypothesis _ absent, List.reverse_cons, List.append_assoc, List.singleton_append]

theorem splitFrom_some (nonempty : separator ≠ []) (part : List Char) {position : ℕ}
    (found : positionOf? separator text = some position) :
    splitFrom separator part 0 text = (part.reverse ++ text.take position) ::
      splitFrom separator [] 0 (text.drop (position + separator.length)) := by
  induction text generalizing part position with
  | nil =>
    rw [positionOf?, if_neg (mt List.isEmpty_iff.mp nonempty)] at found
    cases found
  | cons character text inductionHypothesis =>
    by_cases occurs : separator <+: character :: text
    · obtain ⟨length, isLength⟩ := Nat.exists_eq_succ_of_ne_zero
        (mt List.length_eq_zero_iff.mp nonempty)
      rw [positionOf?_cons_occurs occurs] at found
      cases found
      rw [splitFrom, if_pos (List.isPrefixOf_iff_prefix.mpr occurs), splitFrom_skipped,
        List.take_zero, List.append_nil, Nat.zero_add, isLength, List.drop_succ_cons,
        Nat.succ_sub_one]
    · rw [positionOf?_cons_differs occurs] at found
      obtain ⟨before, isFound, rfl⟩ := Option.map_eq_some_iff.mp found
      rw [splitFrom, if_neg fun isPrefix => occurs (List.isPrefixOf_iff_prefix.mp isPrefix),
        inductionHypothesis _ isFound, List.reverse_cons, List.append_assoc,
        List.singleton_append, List.take_succ_cons, Nat.add_right_comm, List.drop_succ_cons]

theorem parted_splitFrom (nonempty : separator ≠ []) (text : List Char) :
    Parted separator text (splitFrom separator [] 0 text) := by
  -- What is behind an occurrence is shorter, as the separator is not empty.
  induction length : text.length using Nat.strong_induction_on generalizing text with
  | h length inductionHypothesis =>
    subst length
    cases found : positionOf? separator text with
    | none =>
      rw [splitFrom_none [] found]
      exact .last (positionOf?_eq_none_iff.mp found)
    | some position =>
      have first := positionOf?_eq_some_iff.mp found
      have positive := List.length_pos_of_ne_nil nonempty
      have ends := first.1.end_le
      rw [splitFrom_some nonempty [] found]
      refine .next first (inductionHypothesis _ ?_ _ rfl)
      rw [List.length_drop]
      omega

example : split ['a', 'a'] ['a', 'a', 'a', 'b'] = [[], ['a', 'b']] := by decide

/-- The empty separator leaves the single characters. -/
theorem intercalate_singletons (text : List Char) :
    [].intercalate (text.map ([·])) = text := by
  induction text with
  | nil => rfl
  | cons character text inductionHypothesis =>
    cases text with
    | nil => rfl
    | cons next text =>
      rw [List.map_cons, List.intercalate_cons_of_ne_nil (by simp), inductionHypothesis]
      rfl

theorem intercalate_split (separator text : List Char) :
    separator.intercalate (split separator text) = text := by
  rw [split]
  split_ifs with empty
  · rw [List.isEmpty_iff.mp empty, intercalate_singletons]
  · exact (parted_splitFrom (mt List.isEmpty_iff.mpr empty) text).intercalate_eq

/-- A separator of one character cuts where the character is. -/
theorem splitFrom_singleton (character : Char) (part : List Char) :
    splitFrom [character] part 0 text = text.splitOnPPrepend (· == character) part := by
  induction text generalizing part with
  | nil => rfl
  | cons next text inductionHypothesis =>
    have cuts : [character].isPrefixOf (next :: text) = (next == character) := by
      rw [List.isPrefixOf, List.isPrefixOf, Bool.and_true, Bool.eq_iff_iff, beq_iff_eq, beq_iff_eq,
        eq_comm]
    have further : splitFrom [character] [] ([character].length - 1) text =
        text.splitOnP (· == character) := inductionHypothesis []
    rw [splitFrom, List.splitOnPPrepend_cons_eq_if, cuts, further, inductionHypothesis]

theorem split_intercalate_singleton (character : Char) (nonempty : parts ≠ [])
    (absent : ∀ part ∈ parts, character ∉ part) :
    split [character] ([character].intercalate parts) = parts := by
  have cuts : split [character] ([character].intercalate parts) =
      ([character].intercalate parts).splitOn character := splitFrom_singleton character []
  rw [cuts, List.splitOn_intercalate character absent nonempty]

/-! ### The methods -/

section

variable {Closure : Type} (machine : Machine Closure)

/-- A list of texts. -/
def texts (parts : List String) : List Value := parts.map Value.string

theorem call_split (text separator : String) (world : World Closure) :
    ∃ made last, (Method.call machine (.string text) "split" [.string separator]).Makes world
      (texts ((split separator.toList text.toList).map String.ofList)) made last := by
  have runs : Method.call machine (.string text) "split" [.string separator] world =
      Action.newList ((split ((Value.string separator).rawText world.heap).toList text.toList).map
        fun part => Value.string (String.ofList part)).toArray world :=
    Action.readIf_bind (Value.hasText_string separator) _ _
  obtain ⟨made, last, makes⟩ := Action.newList_makes
    (texts ((split separator.toList text.toList).map String.ofList)) world
  refine ⟨made, last, makes.after (.refl world) ?_⟩
  rw [runs, Value.rawText_string, texts, List.map_map]
  rfl

theorem call_join {parts : List String} {cell : ListRef} {world : World Closure}
    (isList : world.heap.lists[cell.index]? = some (texts parts).toArray) (separator : String) :
    Method.call machine (.list cell) "join" [.string separator] world =
      (.value (.string (separator.intercalate parts)), world) := by
  have runs : Method.call machine (.list cell) "join" [.string separator] world =
      (.value (.string (((Value.string separator).rawText world.heap).intercalate
        ((world.heap.readList cell).toList.map (·.itemText world.heap)))), world) := by
    have listText : (Value.list cell).hasText world.heap = true := by
      refine Value.hasText_list ?_
      rw [Heap.readList_of_getElem? isList, texts]
      rintro _ member other rfl
      cases (List.mem_map.mp member).choose_spec.2
    have ends : ((Value.string separator).hasText world.heap &&
        (Value.list cell).hasText world.heap) = true := by
      rw [listText, Value.hasText_string]
      rfl
    exact if_pos ends
  have isText : (texts parts).map (·.itemText world.heap) = parts := by
    rw [texts, List.map_map]
    refine (List.map_congr_left fun part _ => ?_).trans parts.map_id
    exact Value.rawText_string world.heap part
  rw [runs, Heap.readList_of_getElem? isList, Value.rawText_string, isText]

end

theorem toList_ofList_map (parts : List (List Char)) :
    (parts.map String.ofList).map String.toList = parts := by
  rw [List.map_map]
  exact (List.map_congr_left fun _ _ => String.toList_ofList).trans parts.map_id

/-- A text has parts, as many as there are occurrences of the separator and one more. They are
made into a list, and joined they are the text. -/
structure Splits {Closure : Type} (machine : Machine Closure) (world : World Closure)
    (text separator : String) (parts : List String) : Prop where
  joins : ∃ made last,
    (Method.call machine (.string text) "split" [.string separator]).Makes world (texts parts)
      made last ∧
    Method.call machine (.list made) "join" [.string separator] last = (.value (.string text), last)
  absent : separator ≠ "" → ∀ part ∈ parts, ¬separator.toList <:+: part.toList
  counts : separator ≠ "" → ∃ positions,
    (∀ others, FoundFrom separator.toList text.toList 0 others ↔ others = positions) ∧
    parts.length = positions.length + 1

theorem splits_split {Closure : Type} (machine : Machine Closure) (world : World Closure)
    (text separator : String) : Splits machine world text separator
      ((split separator.toList text.toList).map String.ofList) := by
  have parted (nonempty : separator ≠ "") :
      Parted separator.toList text.toList (split separator.toList text.toList) := by
    have isText : separator.toList ≠ [] := mt String.toList_eq_nil_iff.mp nonempty
    rw [split, if_neg (mt List.isEmpty_iff.mp isText)]
    exact parted_splitFrom isText text.toList
  constructor
  case joins =>
    obtain ⟨made, last, makes⟩ := call_split machine text separator world
    have joined : separator.intercalate
        ((split separator.toList text.toList).map String.ofList) = text := by
      rw [← String.toList_inj, String.toList_intercalate, toList_ofList_map, intercalate_split]
    exact ⟨made, last, makes, by rw [call_join machine makes.holds, joined]⟩
  case absent =>
    intro nonempty
    rw [List.forall_mem_map]
    intro part isPart
    rw [String.toList_ofList]
    exact (parted nonempty).separator_absent (mt String.toList_eq_nil_iff.mp nonempty) part isPart
  case counts =>
    intro nonempty
    obtain ⟨positions, found, counts⟩ := (parted nonempty).exists_foundFrom (Nat.zero_le _) rfl
    refine ⟨positions, fun others => ⟨fun foundToo => foundToo.unique found, ?_⟩, ?_⟩
    · rintro rfl
      exact found
    · rw [List.length_map, counts]

/-- Splitting a text and joining the parts gives that text. If the separator is not empty, no part
contains it, and there is one part more than there are occurrences, found from left to right and
not overlapping. If it is a single character, then joining texts without it and splitting what that
gives makes a list of these texts. -/
theorem join_undoes_split {Closure : Type} (machine : Machine Closure) (world : World Closure)
    (text separator : String) :
    (∃ parts, Splits machine world text separator parts) ∧
    ∀ (character : Char) (parts : List String) (cell : ListRef), separator = .singleton character →
      parts ≠ [] → (∀ part ∈ parts, character ∉ part.toList) →
      world.heap.lists[cell.index]? = some (texts parts).toArray →
      ∃ joined made last,
        Method.call machine (.list cell) "join" [.string separator] world =
          (.value (.string joined), world) ∧
        (Method.call machine (.string joined) "split" [.string separator]).Makes world (texts parts)
          made last := by
  refine ⟨⟨_, splits_split machine world text separator⟩, ?_⟩
  rintro character parts cell rfl nonempty absent isList
  obtain ⟨made, last, makes⟩ := call_split machine
    ((String.singleton character).intercalate parts) (.singleton character) world
  have same : (split (String.singleton character).toList
      ((String.singleton character).intercalate parts).toList).map String.ofList = parts := by
    rw [String.toList_intercalate, String.toList_singleton, split_intercalate_singleton character
      (mt List.map_eq_nil_iff.mp nonempty) (List.forall_mem_map.mpr absent), List.map_map]
    exact (List.map_congr_left fun _ _ => String.ofList_toList).trans parts.map_id
  rw [same] at makes
  exact ⟨_, made, last, call_join machine isList _, makes⟩

/-- A world with a list of texts, the first and the last of them empty. -/
def borderedWorld : World SlotClosure where
  heap := { Heap.empty with lists := #[(texts ["", "b", ""]).toArray] }
  closures := #[]

/-- A text with empty parts is cut, and that list is joined and cut again. -/
theorem bordered_split :
    (∃ parts, Splits (slotEngine.machineWithin 0) borderedWorld ",a,,b" "," parts) ∧
      "," = String.singleton ',' ∧ (∀ part ∈ ["", "b", ""], ',' ∉ part.toList) ∧
      ∃ made last,
        Method.call (slotEngine.machineWithin 0) (.list ⟨0⟩) "join" [.string ","] borderedWorld =
          (.value (.string ",b,"), borderedWorld) ∧
        (Method.call (slotEngine.machineWithin 0) (.string ",b,") "split" [.string ","]).Makes
          borderedWorld (texts ["", "b", ""]) made last := by
  have isComma : "," = String.singleton ',' := by decide
  have absent : ∀ part ∈ ["", "b", ""], ',' ∉ part.toList := by decide
  have isList : borderedWorld.heap.lists[0]? = some (texts ["", "b", ""]).toArray := rfl
  obtain ⟨splits, resplits⟩ := join_undoes_split (slotEngine.machineWithin 0) borderedWorld ",a,,b"
    ","
  obtain ⟨joined, made, last, joins, makes⟩ := resplits ',' ["", "b", ""] ⟨0⟩ isComma (by decide)
    absent isList
  have isJoined : Method.call (slotEngine.machineWithin 0) (.list ⟨0⟩) "join" [.string ","]
      borderedWorld = (.value (.string ",b,"), borderedWorld) := rfl
  cases isJoined.symm.trans joins
  exact ⟨splits, isComma, absent, made, last, isJoined, makes⟩

end Shorthand.Text
