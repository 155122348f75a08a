/-
This file shows which texts are names of methods.

Such a name consists of letters. The text of an index has a digit in it, so no index names a
method, and the text of a function has a blank in it, so a key that names a method holds no
function and keeps its text when functions are added to the heap.
-/

import Mathlib.Data.List.Basic
import Shorthand.Method.Call
import Shorthand.Proofs.Literal.Scan

namespace Shorthand

theorem Value.rawText_leaf {value : Value} (notList : ∀ cell, value ≠ .list cell) (heap : Heap) :
    value.rawText heap = value.leafText heap := by
  have isLeaf : Nested.ofValue heap value = .leaf value := by
    rw [Nested.ofValue]
    cases value with
    | list cell => exact absurd rfl (notList cell)
    | _ => cases heap.lists.size <;> rfl
  rw [rawText, isLeaf, Nested.text]

/-! ### Letters -/

/-- Whether a text is made of nothing but letters. -/
def isLettered (name : String) : Bool := name.toList.all Char.isAlpha

theorem isLettered_of_lookup {Method : Type} {names : List (String × Method)} {name : String}
    (lettered : (names.all fun entry => isLettered entry.1) = true)
    (found : (names.lookup name).isSome = true) : isLettered name = true := by
  obtain ⟨method, isEntry⟩ := Option.isSome_iff_exists.mp found
  obtain ⟨before, after, parted, _⟩ := List.lookup_eq_some_iff.mp isEntry
  exact List.all_eq_true.mp lettered (name, method) (by simp [parted])

/-- Every name in the tables of methods is made of letters. -/
theorem Value.hasMethod_lettered {receiver : Value} {name : String}
    (isMethod : receiver.hasMethod name = true) : isLettered name = true := by
  cases receiver with
  | list cell => exact isLettered_of_lookup (by decide +kernel) isMethod
  | string text => exact isLettered_of_lookup (by decide +kernel) isMethod
  | function cell => exact isLettered_of_lookup (by decide +kernel) isMethod
  | number number => exact isLettered_of_lookup (by decide +kernel) isMethod
  | date instant => exact isLettered_of_lookup (by decide +kernel) isMethod
  | undefined => exact absurd isMethod Bool.false_ne_true
  | null => exact absurd isMethod Bool.false_ne_true
  | boolean truth => exact absurd isMethod Bool.false_ne_true
  | map cell => exact absurd isMethod Bool.false_ne_true

theorem isAlpha_of_isLettered {name : String} (lettered : isLettered name = true)
    {character : Char} (member : character ∈ name.toList) : character.isAlpha = true :=
  List.all_eq_true.mp lettered character member

theorem not_isAlpha_of_isDigit {character : Char} (isDigit : character.isDigit = true) :
    character.isAlpha = false := by
  by_contra isLetter
  have code : character.toNat = character.val.toNat := rfl
  simp only [Char.isAlpha, Char.isUpper, Char.isLower, Char.isDigit, Bool.not_eq_false,
    Bool.or_eq_true, Bool.and_eq_true, decide_eq_true_eq, UInt32.le_iff_toNat_le, ge_iff_le]
    at isDigit isLetter
  change 48 ≤ character.toNat ∧ character.toNat ≤ 57 at isDigit
  change (65 ≤ character.toNat ∧ character.toNat ≤ 90) ∨
    (97 ≤ character.toNat ∧ character.toNat ≤ 122) at isLetter
  omega

/-! ### Indices -/

/-- Some digit is in the text. -/
def HasDigit (text : List Char) : Prop := ∃ character ∈ text, character.isDigit = true

theorem hasDigit_toDigits (number : Nat) : HasDigit (Nat.toDigits 10 number) := by
  obtain ⟨first, rest, digits, isDigit⟩ := Literal.toDigits_begins number
  exact ⟨first, digits ▸ List.mem_cons_self, isDigit⟩

theorem hasDigit_cons {character : Char} {text : List Char} (hasDigit : HasDigit text) :
    HasDigit (character :: text) :=
  let ⟨digit, member, isDigit⟩ := hasDigit
  ⟨digit, List.mem_cons_of_mem _ member, isDigit⟩

theorem hasDigit_integerText (value : Int) : HasDigit (integerText value).toList := by
  rw [Literal.toList_integerText]
  split
  · exact hasDigit_cons (hasDigit_toDigits _)
  · exact hasDigit_toDigits _

/-- The text of a floating-point number that is an index. -/
theorem hasDigit_floatText {value : Float} {fraction : Binary}
    (finite : Binary.ofFloat? value = some fraction) (isWhole : fraction.isWhole = true)
    (bounded : fraction.truncate.natAbs < digitsBound) : HasDigit (floatText value).toList := by
  simp only [floatText, finite, isWhole, bounded, and_self, if_true, String.toList_ofList,
    digitsOf]
  split
  · exact hasDigit_cons (hasDigit_toDigits _)
  · exact hasDigit_toDigits _

theorem hasDigit_of_indexOfDigits {digits : List Char} {index : Nat}
    (isIndex : indexOfDigits? digits = some index) : HasDigit digits := by
  cases digits with
  | nil => exact absurd isIndex (by simp [indexOfDigits?])
  | cons first rest =>
    refine ⟨first, List.mem_cons_self, ?_⟩
    by_contra noDigit
    simp [indexOfDigits?, noDigit] at isIndex

namespace Value

/-- The text of a key that denotes an index has a digit in it. -/
theorem hasDigit_of_index {key : Value} {index : Nat} (isIndex : key.index? = some index)
    (heap : Heap) : HasDigit (key.rawText heap).toList := by
  obtain ⟨isNatural, bounded⟩ := Option.filter_eq_some_iff.mp isIndex
  cases key with
  | string text =>
    rw [rawText_leaf (fun _ => Value.noConfusion)]
    exact hasDigit_of_indexOfDigits isNatural
  | number number =>
    rw [rawText_leaf (fun _ => Value.noConfusion)]
    cases number with
    | integer value => exact hasDigit_integerText value.toInt
    | float value =>
      cases finite : Binary.ofFloat? value with
      | none => exact absurd isNatural (by simp [naturalKey?, finite])
      | some fraction =>
        simp only [naturalKey?, finite, Option.ite_none_right_eq_some, Option.some.injEq]
          at isNatural
        obtain ⟨⟨isWhole, nonnegative⟩, rfl⟩ := isNatural
        have small : fraction.truncate.toNat ≤ greatestIndex := by simpa using bounded
        have sizes : greatestIndex < digitsBound := by decide
        exact hasDigit_floatText finite isWhole (by omega)
  | _ => exact absurd isNatural (by simp [naturalKey?])

/-- No index names a method. -/
theorem hasMethod_of_index {receiver key : Value} {index : Nat}
    (isIndex : key.index? = some index) (heap : Heap) :
    receiver.hasMethod (key.rawText heap) = false := by
  by_contra isMethod
  obtain ⟨digit, member, isDigit⟩ := hasDigit_of_index isIndex heap
  have lettered := hasMethod_lettered (Bool.eq_true_of_not_eq_false isMethod)
  have isLetter := isAlpha_of_isLettered lettered member
  exact Bool.false_ne_true ((not_isAlpha_of_isDigit isDigit).symm.trans isLetter)

end Value

/-! ### Texts without functions -/

theorem mem_intercalate {α : Type} {separator : List α} {word : List α} {words : List (List α)}
    (isWord : word ∈ words) {letter : α} (member : letter ∈ word) :
    letter ∈ separator.intercalate words := by
  induction words with
  | nil => exact absurd isWord List.not_mem_nil
  | cons first rest inductionHypothesis =>
    cases rest with
    | nil => simpa [List.intercalate, ← List.mem_singleton.mp isWord] using member
    | cons second others =>
      rw [List.intercalate_cons_cons, List.mem_append, List.mem_append]
      rcases List.mem_cons.mp isWord with rfl | later
      · exact Or.inl (Or.inl member)
      · exact Or.inr (inductionHypothesis later)

namespace Nested

/-- The text of an item among others. -/
def itemText (heap : Heap) (item : Nested) : String := if item.isNone then "" else item.text heap

theorem itemTexts_eq (heap : Heap) (before : List String) (items : List Nested) :
    itemTexts heap before items = before.reverse ++ items.map (itemText heap) := by
  induction items generalizing before with
  | nil => simp [itemTexts]
  | cons item rest inductionHypothesis =>
    rw [itemTexts, inductionHypothesis, List.reverse_cons, List.append_assoc]
    rfl

/-- Values unfold in the same way in heaps with the same lists. -/
theorem unfold_congr {heap other : Heap} (lists : other.lists = heap.lists) (depth : Nat)
    (value : Value) : unfold other depth value = unfold heap depth value := by
  induction depth generalizing value with
  | zero => cases value <;> rfl
  | succ depth inductionHypothesis =>
    cases value with
    | list cell =>
      rw [unfold, unfold, funext inductionHypothesis, Heap.readList, Heap.readList, lists]
    | _ => rfl

mutual

/-- A text without a blank shows no function, so it stays whatever functions there are. -/
theorem text_functions {heap : Heap} (functions : Array Callable) :
    ∀ tree : Nested, ' ' ∉ (tree.text heap).toList →
      tree.text { heap with functions := functions } = tree.text heap
  | .leaf value, noBlank => by
    cases value with
    | function cell =>
      refine absurd ?_ noBlank
      rw [text, Value.leafText, String.toList_append]
      exact List.mem_append_left _ (by decide)
    | _ => rfl
  | .list items, noBlank => by
    rw [text, itemTexts_eq, String.toList_intercalate] at noBlank
    rw [text, text, itemTexts_eq, itemTexts_eq,
      itemTexts_functions functions items fun item isItem blank =>
        noBlank (mem_intercalate
          (List.mem_map_of_mem (List.mem_append_right _ (List.mem_map_of_mem isItem))) blank)]

theorem itemTexts_functions {heap : Heap} (functions : Array Callable) :
    ∀ items : List Nested, (∀ item ∈ items, ' ' ∉ (item.itemText heap).toList) →
      items.map (itemText { heap with functions := functions }) = items.map (itemText heap)
  | [], _ => rfl
  | item :: rest, noBlank => by
    obtain ⟨here, there⟩ := List.forall_mem_cons.mp noBlank
    rw [List.map_cons, List.map_cons, itemTexts_functions functions rest there]
    congr 1
    simp only [itemText] at here ⊢
    split
    · rfl
    · rename_i present
      exact text_functions functions item (by rwa [if_neg present] at here)

end

end Nested

/-- A key that names a method has the same text after a function has been added. -/
theorem Value.rawText_newFunction {receiver key : Value} {heap : Heap}
    (isMethod : receiver.hasMethod (key.rawText heap) = true) (callable : Callable) :
    key.rawText (heap.newFunction callable).2 = key.rawText heap := by
  have noBlank : ' ' ∉ (key.rawText heap).toList := fun blank =>
    absurd (isAlpha_of_isLettered (hasMethod_lettered isMethod) blank) (by decide)
  have lists : (heap.newFunction callable).2.lists = heap.lists := rfl
  have same : Nested.ofValue (heap.newFunction callable).2 key = Nested.ofValue heap key :=
    Nested.unfold_congr lists heap.lists.size key
  rw [rawText, rawText, same]
  exact Nested.text_functions _ _ noBlank

end Shorthand
