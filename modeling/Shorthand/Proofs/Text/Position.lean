/-
This file shows that all positions of a text count characters.

The first occurrence of a text in another one is the least position at which the slice of its
length is that text. At every position, the character and the slice of length one are the same
text, and these make up the whole. An index reads the same character as long as it is one: a
number beyond the greatest index is a name, and so is one that is not whole.
-/

import Mathlib
import Shorthand.Proofs.Index.Slice
import Shorthand.Proofs.Index.Write
import Shorthand.Proofs.Lexical.Simulation
import Shorthand.Proofs.Text.Bytes
import Shorthand.Proofs.Traverse.Result

namespace Shorthand.Text

open Sequence (integer sliceBound)

variable {Closure : Type}

/-! ### Slices of a length -/

/-- The length of a text counts its characters. -/
theorem readProperty_length (text : String) (world : World Closure) :
    readProperty (.string text) (.string "length") world =
      (.value (.ofInt text.length), world) := by
  have noIndex : (Value.string "length").index? = none := by decide
  have noElement : ((Value.string "length").index?.bind fun index =>
      (Value.string text).elementAt? world.heap index) = none := by
    rw [noIndex]
    rfl
  rw [readProperty_eq_readNamed rfl (Value.hasText_string _) (fun _ => Value.noConfusion) noElement,
    Value.rawText_string]
  rfl

/-- The slice that begins at a position and has a length. -/
def sliceOf (machine : Machine Closure) (text : String) (position length : Value) :
    Action Closure Value := do
  let finish ← Action.read fun heap => Value.binary heap .add position length
  Method.call machine (.string text) "slice" [position, finish]

theorem sliceBound_of_nonneg (length : ℕ) {bound : ℤ} (nonneg : 0 ≤ bound) :
    sliceBound length bound = min bound.toNat length := by
  rw [sliceBound, if_neg (by omega)]

/-- What is between two bounds, of which the second is a length behind the first. -/
theorem extract_bounds {α : Type} (items : List α) (position length : ℕ) :
    items.extract (min position items.length)
        (max (min position items.length) (min (position + length) items.length)) =
      (items.drop position).take length := by
  rw [List.extract_eq_take_drop]
  rcases Nat.le_total position items.length with inside | beyond
  · rw [Nat.min_eq_left inside, List.take_eq_take_iff, List.length_drop]
    omega
  · rw [Nat.min_eq_right beyond, List.drop_length, List.take_nil, List.drop_of_length_le beyond,
      List.take_nil]

section

variable (machine : Machine Closure) (world : World Closure) (text : String)
  {position length : Int64} (nonneg : 0 ≤ position.toInt)
include nonneg

/-- A slice whose end is a word. -/
theorem sliceOf_eq (nonnegLength : 0 ≤ length.toInt)
    (isWord : position.toInt + length.toInt ≤ Int64.maxValue.toInt) :
    sliceOf machine text (integer position) (integer length) world =
      (.value (.string (String.ofList
        ((text.toList.drop position.toInt.toNat).take length.toInt.toNat))), world) := by
  obtain ⟨finish, isSum, isFinish⟩ := Word.sum?_of_mem position length 0 Int64.maxValue
    (Int.add_nonneg nonneg nonnegLength) isWord
  have sum : Value.binary world.heap .add (integer position) (integer length) =
      integer finish :=
    congrArg Value.number (Number.combine_eq_integer.mpr ⟨_, _, rfl, rfl, by rw [isFinish]⟩)
  have isSlice : Method.call machine (.string text) "slice" [integer position, integer finish]
      world = (_, world) :=
    Sequence.slice_text machine text [.integer position, .integer finish] rfl
  have first : sliceBound text.toList.length position.toInt =
      min position.toInt.toNat text.toList.length := sliceBound_of_nonneg _ nonneg
  have last : sliceBound text.toList.length finish.toInt =
      min (position.toInt.toNat + length.toInt.toNat) text.toList.length := by
    rw [sliceBound_of_nonneg _ (by omega), isFinish, Int.toNat_add nonneg nonnegLength]
  rw [sliceOf, Action.read_bind, sum, isSlice, ← extract_bounds, ← first, ← last]
  rfl

/-- No slice has more characters than there are from its position on. -/
theorem sliceOf_short (length : Number) : ∃ part : String,
    sliceOf machine text (integer position) (.number length) world =
      (.value (.string part), world) ∧ part.length ≤ text.length - position.toInt.toNat := by
  let finish : Number := (Number.integer position).add length
  obtain ⟨last, isSlice⟩ : ∃ last, sliceOf machine text (integer position) (.number length)
      world = (.value (.string (String.ofList (text.toList.extract
        (sliceBound text.toList.length position.toInt) last))), world) :=
    ⟨_, @Sequence.slice_text _ machine world text [.integer position, finish] (_, _) rfl⟩
  refine ⟨_, isSlice, ?_⟩
  rw [String.length_ofList, List.extract_eq_take_drop, sliceBound_of_nonneg _ nonneg,
    List.length_take, List.length_drop, ← String.length_toList]
  omega

end

/-! ### Occurrences -/

/-- The positions at which the slice as long as a pattern is the pattern. -/
def slicedPositions (machine : Machine Closure) (world : World Closure) (text pattern : String) :
    Set ℤ :=
  {position | 0 ≤ position ∧ position ≤ text.length ∧
    ∃ part, sliceOf machine text (.ofInt position) (.ofInt pattern.length) world =
      (.value part, world) ∧ part.same (.string pattern) = true}

/-- The position of a pattern by its offset in bytes and the characters in front of that, minus
one if there is none. Inside of a character there is nothing to count. -/
def indexInBytes? (text pattern : List Char) : Option Int64 :=
  match byteOffset? (bytes pattern) (bytes text) with
  | none => some (-1)
  | some offset => (charactersBefore? text offset).map fun count => Int64.ofInt count

theorem indexInBytes?_eq (text pattern : List Char) :
    indexInBytes? text pattern = some (Word.ofPosition? (positionOf? pattern text)) := by
  rw [indexInBytes?, byteOffset?_bytes]
  cases found : positionOf? pattern text with
  | none => rfl
  | some position =>
    have inside := (positionOf?_eq_some_iff.mp found).1.1
    simp only [Option.map_some, charactersBefore?_offsetOf inside]
    rfl

theorem call_indexOf (machine : Machine Closure) (world : World Closure) (text pattern : String) :
    Method.call machine (.string text) "indexOf" [.string pattern] world =
      (.value (integer (Word.ofPosition? (positionOf? pattern.toList text.toList))), world) := by
  have hasText : (Value.string pattern).hasText world.heap = true := Value.hasText_string pattern
  have searches : Method.call machine (.string text) "indexOf" [.string pattern] world =
      (.value (Method.positionAnswer (positionOf?
        ((Value.string pattern).rawText world.heap).toList text.toList)), world) := if_pos hasText
  rw [searches, Value.rawText_string, Sequence.positionAnswer_eq, integer]

/-- A search answers with the least position of a pattern, and with minus one just if there is
none. It finds the same among the bytes. -/
structure Finds (machine : Machine Closure) (world : World Closure) (text pattern : String)
    (answer : Int64) : Prop where
  yields : Method.call machine (.string text) "indexOf" [.string pattern] world =
    (.value (integer answer), world)
  inBytes : indexInBytes? text.toList pattern.toList = some answer
  absent : answer = -1 ↔ slicedPositions machine world text pattern = ∅
  found : answer ≠ -1 → IsLeast (slicedPositions machine world text pattern) answer.toInt

section

variable (machine : Machine Closure) (world : World Closure) {text pattern : String}
  (short : text.length ≤ Int64.maxValue.toInt)
  (shortPattern : pattern.length ≤ Int64.maxValue.toInt)
include short shortPattern

/-- The slice is the pattern just where the pattern occurs. -/
theorem mem_slicedPositions {position : ℤ} : position ∈ slicedPositions machine world text pattern ↔
    ∃ index : ℕ, position = index ∧ OccursAt pattern.toList text.toList index := by
  have length : (Int64.ofInt pattern.length).toInt = pattern.length :=
    Word.toInt_ofPosition? shortPattern
  constructor
  · rintro ⟨nonneg, inside, part, isSlice, isSame⟩
    obtain ⟨index, rfl⟩ := Int.eq_ofNat_of_zero_le nonneg
    have word : (Int64.ofInt index).toInt = index := Word.toInt_ofPosition? (by omega)
    refine ⟨index, rfl, by rw [String.length_toList]; omega, ?_⟩
    rcases Int.lt_or_le Int64.maxValue.toInt (index + pattern.length) with overflows | isWord
    · -- The end of the slice may be rounded then, but the text is too short for the pattern.
      obtain ⟨other, isOther, shorter⟩ := sliceOf_short machine world text
        (by rw [word]; exact nonneg) (.integer (Int64.ofInt pattern.length))
      cases isSlice.symm.trans isOther
      have same : other = pattern := beq_iff_eq.mp isSame
      rw [same, word] at shorter
      omega
    · have isPart := sliceOf_eq machine world text (by rw [word]; exact nonneg)
        (by rw [length]; omega) (by rw [word, length]; exact isWord)
      cases isSlice.symm.trans isPart
      have same : String.ofList _ = pattern := beq_iff_eq.mp isSame
      rw [← same, String.toList_ofList, word]
      exact List.take_prefix _ _
  · rintro ⟨index, rfl, occurs⟩
    have ends := occurs.end_le
    rw [String.length_toList, String.length_toList] at ends
    have word : (Int64.ofInt index).toInt = index := Word.toInt_ofPosition? (by omega)
    refine ⟨Int.natCast_nonneg _, by omega, _, sliceOf_eq machine world text (by rw [word]; omega)
      (by rw [length]; omega) (by rw [word, length]; omega), ?_⟩
    rw [word, length, Int.toNat_natCast, Int.toNat_natCast, ← String.length_toList,
      ← List.prefix_iff_eq_take.mp occurs.2, String.ofList_toList]
    exact beq_self_eq_true pattern

theorem exists_finds : ∃ answer, Finds machine world text pattern answer := by
  have isIn (position : ℤ) : position ∈ slicedPositions machine world text pattern ↔ _ :=
    mem_slicedPositions machine world short shortPattern
  have yields := call_indexOf machine world text pattern
  have inBytes := indexInBytes?_eq text.toList pattern.toList
  cases found : positionOf? pattern.toList text.toList with
  | none =>
    rw [found] at yields inBytes
    have empty : slicedPositions machine world text pattern = ∅ := by
      refine Set.eq_empty_of_forall_notMem fun position isPosition => ?_
      obtain ⟨index, -, occurs⟩ := (isIn position).mp isPosition
      exact positionOf?_eq_none_iff.mp found index occurs
    exact ⟨-1, yields, inBytes, iff_of_true rfl empty, fun isSome => absurd rfl isSome⟩
  | some index =>
    rw [found] at yields inBytes
    obtain ⟨occurs, least⟩ := positionOf?_eq_some_iff.mp found
    have inside := occurs.1
    rw [String.length_toList] at inside
    have isWord : index ≤ Int64.maxValue.toInt := by omega
    have isPosition : (index : ℤ) ∈ slicedPositions machine world text pattern :=
      (isIn index).mpr ⟨index, rfl, occurs⟩
    refine ⟨_, yields, inBytes, iff_of_false (Word.ofPosition?_ne isWord) fun empty =>
      Set.eq_empty_iff_forall_notMem.mp empty index isPosition, fun _ => ?_⟩
    rw [Word.toInt_ofPosition? isWord]
    refine ⟨isPosition, fun other isOther => ?_⟩
    obtain ⟨otherIndex, rfl, occursToo⟩ := (isIn other).mp isOther
    exact Int.ofNat_le.mpr (least occursToo)

end

/-! ### Characters -/

/-- Reading at a position gives a part of the text. The character there and the slice of length
one are that part, or empty if there is none. An index reads it or `undefined`, and so does a
number beyond the greatest index, which is a name. -/
structure Reads (machine : Machine Closure) (world : World Closure) (text : String)
    (position : Int64) (part : Option String) : Prop where
  charAt : Method.call machine (.string text) "charAt" [integer position] world =
    (.value (.string (part.getD "")), world)
  slice : sliceOf machine text (integer position) (.ofInt 1) world =
    (.value (.string (part.getD "")), world)
  index : position.toInt ≤ 2 ^ 32 - 2 → readProperty (.string text) (integer position) world =
    (.value ((part.map Value.string).getD .undefined), world)
  name : 2 ^ 32 - 2 < position.toInt → readProperty (.string text) (integer position) world =
    (.value .undefined, world)

/-- The characters of a text as texts. -/
def characters (text : String) : List String := text.toList.map String.singleton

theorem getD_characters (text : String) (position : ℕ) :
    (characters text)[position]?.getD "" = String.ofList text.toList[position]?.toList := by
  rw [characters, List.getElem?_map]
  cases text.toList[position]? with
  | none => rfl
  | some character => exact String.singleton_eq_ofList

theorem readProperty_character (text : String) (world : World Closure) {position : Int64}
    (nonneg : 0 ≤ position.toInt) (isIndex : position.toInt ≤ 2 ^ 32 - 2) :
    readProperty (.string text) (integer position) world =
      (.value (((characters text)[position.toInt.toNat]?.map Value.string).getD .undefined),
        world) := by
  have index : (integer position).index? = some position.toInt.toNat :=
    Value.index?_eq_some.mpr ⟨by omega, .integer (Int.toNat_of_nonneg nonneg).symm⟩
  refine readProperty_eq_element index ?_
  rw [Value.elementAt?, characters, List.getElem?_map]
  cases text.toList[position.toInt.toNat]? <;> rfl

theorem readProperty_beyond (text : String) (world : World Closure) {position : Int64}
    (beyond : 2 ^ 32 - 2 < position.toInt) :
    readProperty (.string text) (integer position) world = (.value .undefined, world) := by
  have noIndex : (integer position).index? = none := by
    refine Option.eq_none_iff_forall_ne_some.mpr fun index found => ?_
    obtain ⟨small, denotes⟩ := Value.index?_eq_some.mp found
    cases denotes with
    | integer isIndex => omega
  have noElement : ((integer position).index?.bind fun index =>
      (Value.string text).elementAt? world.heap index) = none := by
    rw [noIndex]
    rfl
  rw [readProperty_eq_readNamed rfl (Value.hasText_leaf fun _ => Value.noConfusion)
    (fun _ => Value.noConfusion) noElement]
  refine Traverse.readNamed_digit ?_ _ world
  rw [integer, Value.rawText_leaf fun _ => Value.noConfusion]
  exact hasDigit_integerText _

theorem reads_characters (machine : Machine Closure) (world : World Closure) {text : String}
    (short : text.length ≤ Int64.maxValue.toInt) {position : Int64}
    (nonneg : 0 ≤ position.toInt) :
    Reads machine world text position (characters text)[position.toInt.toNat]? where
  charAt := by
    have hasText : (integer position).hasText world.heap = true := Value.hasText_number _
    have runs : Method.call machine (.string text) "charAt" [integer position] world =
        (.value (.string (String.ofList (if position.toInt < 0 then none
          else text.toList[position.toInt.toNat]?).toList)), world) := if_pos hasText
    rw [runs, if_neg (by omega), getD_characters]
  slice := by
    have one : (1 : Int64).toInt = 1 := rfl
    rw [getD_characters]
    rcases Int.lt_or_le position.toInt text.length with inside | beyond
    · have isSlice : sliceOf machine text (integer position) (integer 1) world = _ :=
        sliceOf_eq machine world text nonneg (by decide) (by rw [one]; omega)
      have isPart : (text.toList.drop position.toInt.toNat).take 1 =
          text.toList[position.toInt.toNat]?.toList := by
        rw [List.take_one, List.head?_drop]
      rw [← isPart]
      exact isSlice
    · obtain ⟨part, (isSlice : sliceOf machine text (integer position) (.ofInt 1) world = _),
        shorter⟩ := sliceOf_short machine world text nonneg (.integer 1)
      have empty : part = "" := by
        rw [← String.length_eq_zero_iff]
        omega
      have noCharacter : text.toList[position.toInt.toNat]? = none :=
        List.getElem?_eq_none (by rw [String.length_toList]; omega)
      rw [isSlice, empty, noCharacter]
      rfl
  index := readProperty_character text world nonneg
  name := readProperty_beyond text world

/-! ### Positions -/

theorem join_characters (text : String) : String.join (characters text) = text := by
  rw [← String.toList_inj, String.toList_join, characters, List.flatMap_map]
  simp only [String.toList_singleton, List.flatMap_singleton']

/-- The length of a text counts its characters, and no text has more of them than a word can count.
Looking for a text answers with the least position at which a slice of its length is that text. The
texts of the single characters make up the whole. The character at a position and the slice of
length one there are the same, one of these texts or empty beyond the end. An index up to the
greatest one reads that text too, and `undefined` beyond the end. A greater number is no index and
always reads `undefined`. -/
theorem positions_count_characters (machine : Machine Closure) (world : World Closure)
    (text pattern : String) (short : text.length ≤ Int64.maxValue.toInt)
    (shortPattern : pattern.length ≤ Int64.maxValue.toInt) :
    (∀ whole : String, readProperty (.string whole) (.string "length") world =
      (.value (.ofInt whole.length), world)) ∧
    (∃ answer, Finds machine world text pattern answer) ∧
    ∃ parts : List String, parts.length = text.length ∧ (∀ part ∈ parts, part.length = 1) ∧
      String.join parts = text ∧
      ∀ position : Int64, 0 ≤ position.toInt →
        Reads machine world text position parts[position.toInt.toNat]? := by
  refine ⟨fun whole => readProperty_length whole world,
    exists_finds machine world short shortPattern, characters text, ?_, ?_,
    join_characters text, fun position nonneg => reads_characters machine world short nonneg⟩
  · rw [characters, List.length_map, String.length_toList]
  · rw [characters, List.forall_mem_map]
    exact fun _ _ => String.length_singleton

/-- A text with characters of one to four bytes. -/
def mixedText : String := "aé€😀a€"

/-- The first character of three bytes is found at 2, and the one of four bytes is read at 3. -/
theorem mixedText_positions :
    mixedText.length ≤ Int64.maxValue.toInt ∧ "€".length ≤ Int64.maxValue.toInt ∧
      Finds (slotEngine.machineWithin 0) World.empty mixedText "€" 2 ∧
      ∃ parts : List String, String.join parts = mixedText ∧ 0 ≤ (3 : Int64).toInt ∧
        Reads (slotEngine.machineWithin 0) World.empty mixedText 3 parts[3]? ∧
        readProperty (.string mixedText) (integer 3) World.empty =
          ((.value (.string "😀"), World.empty) : Outcome Value × World SlotClosure) := by
  have short : mixedText.length ≤ Int64.maxValue.toInt := by decide
  have shortPattern : "€".length ≤ Int64.maxValue.toInt := by decide
  obtain ⟨-, ⟨answer, finds⟩, parts, -, -, joined, reads⟩ :=
    positions_count_characters (slotEngine.machineWithin 0) World.empty mixedText "€" short
      shortPattern
  cases finds.yields
  exact ⟨short, shortPattern, finds, parts, joined, by decide, reads 3 (by decide), rfl⟩

/-- A text with one character more than there are indices. -/
def longText : String := String.ofList (List.replicate (2 ^ 32) 'a')

/-- Not all that is a position to the methods is an index: the last character of a long text has
none, and a number that is not whole is none either. -/
theorem positions_without_index :
    2 ^ 32 - 1 < longText.length ∧
      Method.call (slotEngine.machineWithin 0) (.string longText) "charAt"
          [integer (Int64.ofInt (2 ^ 32 - 1))] World.empty = (.value (.string "a"), World.empty) ∧
      readProperty (.string longText) (integer (Int64.ofInt (2 ^ 32 - 1))) World.empty =
        ((.value .undefined, World.empty) : Outcome Value × World SlotClosure) ∧
      Method.call (slotEngine.machineWithin 0) (.string "ab") "charAt" [.number (.float 0.5)]
          World.empty = (.value (.string "a"), World.empty) ∧
      readProperty (.string "ab") (.number (.float 0.5)) World.empty =
        ((.value .undefined, World.empty) : Outcome Value × World SlotClosure) := by
  have isText : longText.toList = List.replicate (2 ^ 32) 'a' := String.toList_ofList
  have length : longText.length = 2 ^ 32 := by
    rw [← String.length_toList, isText, List.length_replicate]
  have most := Int64.toInt_maxValue
  have word : (Int64.ofInt (2 ^ 32 - 1)).toInt = 2 ^ 32 - 1 := by decide
  have character : (characters longText)[(Int64.ofInt (2 ^ 32 - 1)).toInt.toNat]? = some "a" := by
    rw [word, characters, List.getElem?_map, isText, List.getElem?_replicate,
      if_pos (by norm_num)]
    rfl
  have short : longText.length ≤ Int64.maxValue.toInt := by
    rw [length]
    omega
  have reads := reads_characters (slotEngine.machineWithin 0) World.empty short
    (show 0 ≤ (Int64.ofInt (2 ^ 32 - 1)).toInt by decide)
  rw [character] at reads
  exact ⟨by rw [length]; omega, reads.charAt, reads.name (by decide), rfl, rfl⟩

end Shorthand.Text
